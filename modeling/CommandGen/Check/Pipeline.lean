import CommandGen.Check.Lint
import CommandGen.Command.Index

/-! The run of phases over a set of commands: it is checked, then indexed, and further phases
follow. -/
namespace CommandGen

structure RunState where
  commands : CommandSet
  index : Option ActionIndex := none
  diagnostics : List Diagnostic := []

namespace RunState

def errors (s : RunState) : List Diagnostic := s.diagnostics.filter (·.isError)

def warnings (s : RunState) : List Diagnostic := s.diagnostics.filter (·.isWarning)

def hasErrors (s : RunState) : Bool := s.diagnostics.any (·.isError)

def hasWarnings (s : RunState) : Bool := s.diagnostics.any (·.isWarning)

def report (s : RunState) (found : List Diagnostic) : RunState :=
  { s with diagnostics := s.diagnostics ++ found }

/-- Report what a lint finds, then sign all that was not there before. -/
def addFindings (s : RunState) (l : Lint) : RunState :=
  let t := s.report (l.checkAfter s.diagnostics s.commands)
  let known := s.diagnostics.length
  { t with diagnostics := t.diagnostics.take known ++ (t.diagnostics.drop known).map l.sign }

end RunState

inductive RunFailure where
  | invalid (errors : Nat)
  | phase (message : String)
deriving DecidableEq

def RunFailure.message : RunFailure → String
  | invalid errors => "validation failed with " ++ toString errors ++ " error(s)"
  | phase message => message

/-- A phase changes the state, and may then stop the run. -/
structure Phase where
  name : String
  description : String
  run : RunState → RunState × Option RunFailure

namespace Phase

/-- One lint after another reports what it finds. The run stops if the state has an error by then,
also one from before. -/
def validate (lints : List Lint) : Phase where
  name := "validate"
  description := "Check command metadata and collect diagnostics"
  run s :=
    let t := lints.foldl RunState.addFindings s
    (t, if t.hasErrors then some (.invalid t.errors.length) else none)

def analyze : Phase where
  name := "analyze"
  description := "Group supported entities by action"
  run s := ({ s with index := some (ActionIndex.ofCommands s.commands) }, none)

/-- A phase that only reports, and then stops the run if it has a failure. -/
def reporting (name description : String) (found : List Diagnostic) (failure : Option String) :
    Phase where
  name := name
  description := description
  run s := (s.report found, failure.map .phase)

end Phase

def runPhases : List Phase → RunState → RunState × Option RunFailure
  | [], s => (s, none)
  | p :: rest, s =>
    match p.run s with
    | (t, none) => runPhases rest t
    | (t, some failure) => (t, some failure)

structure Pipeline where
  lints : List Lint := Lint.builtIn
  extra : List Phase := []

namespace Pipeline

def phases (p : Pipeline) : List Phase := Phase.validate p.lints :: Phase.analyze :: p.extra

/-- Run over a state that may hold findings already. -/
def runIn (p : Pipeline) (s : RunState) : RunState × Option RunFailure := runPhases p.phases s

def run (p : Pipeline) (set : CommandSet) : Except RunFailure RunState :=
  match p.runIn ⟨set, none, []⟩ with
  | (s, none) => .ok s
  | (_, some failure) => .error failure

end Pipeline

end CommandGen
