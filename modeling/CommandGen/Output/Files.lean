import CommandGen.Check.Pipeline
import CommandGen.Files.Commit
import CommandGen.Output.Behaviour
import CommandGen.Output.Definitions
import CommandGen.Output.Registry
import CommandGen.Settings.Basic

/-! The three generated files of a set of commands. -/
namespace CommandGen

inductive GenerateError where
  | rendering (name : String) (cause : RenderError)
  | commit (error : CommitError)
deriving DecidableEq

def GenerateError.messages : GenerateError → List String
  | rendering name cause => ["rendering " ++ name, cause.message]
  | commit error => [error.fault.message]

structure Generator where
  commands : CommandSet
  index : ActionIndex
  outputs : OutputNames
  traits : NameMap String

namespace Generator

/-- Take commands and index from a run; one that made no index is indexed now. -/
def ofRun (s : RunState) (settings : Settings) : Generator where
  commands := s.commands
  index := s.index.getD (ActionIndex.ofCommands s.commands)
  outputs := settings.outputs
  traits := settings.traits

/-- The files with their paths in a directory, in the order in which they are written. -/
def files (g : Generator) (dir : String) : Except GenerateError (List OutputFile) :=
  match behaviourText g.traits g.commands with
  | .error cause => .error (.rendering g.outputs.behaviour cause)
  | .ok behaviour => .ok
    [⟨Path.join dir g.outputs.behaviour, behaviour⟩,
     ⟨Path.join dir g.outputs.registry, registryText g.commands⟩,
     ⟨Path.join dir g.outputs.definitions, definitionsText g.commands g.index⟩]

def preview (g : Generator) : Except GenerateError (List OutputFile) := g.files ""

/-- Write the files into a directory together, and say what became of each. -/
def generate (g : Generator) (dir : String) :
    FileProgram (Except GenerateError (List (String × WriteResult))) := do
  match g.files dir with
  | .error e => return .error e
  | .ok files =>
    match ← commit files with
    | .error e => return .error (.commit e)
    | .ok results => return .ok results

end Generator

def pathsWith (kind : WriteResult) (results : List (String × WriteResult)) : List String :=
  (results.filter (·.2 = kind)).map (·.1)

end CommandGen
