import CommandGen.Check.Diagnostic
import CommandGen.Command.Set
import CommandGen.Source.Name

/-! Lints: checks of a whole set of commands. -/
namespace CommandGen

structure Lint where
  name : String
  description : String
  checkAfter : List Diagnostic → CommandSet → List Diagnostic

def Lint.check (l : Lint) (set : CommandSet) : List Diagnostic := l.checkAfter [] set

/-- A finding of a lint carries its name unless it has one. -/
def Lint.sign (l : Lint) (d : Diagnostic) : Diagnostic :=
  { d with lint := some (d.lint.getD l.name) }

def Lint.findings (l : Lint) (set : CommandSet) : List Diagnostic := (l.check set).map l.sign

namespace Lint

def report (severity : Severity) (typeName message : String) : Diagnostic where
  severity := severity
  phase := "validate"
  message := message
  location := some typeName

/-- A check that looks at one command at a time, in type-name order. -/
def ofEach (name description : String) (check : String → Command → List Diagnostic) : Lint where
  name := name
  description := description
  checkAfter _ set := set.entries.flatMap fun (typeName, c) => check typeName c

/-- Types whose identifier an earlier one has; `seen` holds the first type of each identifier. -/
def duplicates (seen : List (String × String)) : List (String × Command) → List Diagnostic
  | [] => []
  | (typeName, c) :: rest =>
    match seen.lookup c.identifier with
    | some first =>
      report .error typeName s!"duplicate identifier '{c.identifier}' (conflicts with '{first}')" ::
        duplicates seen rest
    | none => duplicates ((c.identifier, typeName) :: seen) rest

/-- Commands are found by identifier, so each needs one of its own. -/
def duplicateIdentifier : Lint where
  name := "duplicate-identifier"
  description := "Detect command types sharing an action and entity"
  checkAfter _ set := duplicates [] set.entries

def incompleteCommand : Lint :=
  ofEach "incomplete-command" "Require an action, an entity and an api on every command"
    fun typeName c =>
      [("action", c.action), ("entity", c.entity), ("api", c.api)].filterMap fun (role, value) =>
        if value = "" then some (report .error typeName s!"command has no {role}") else none

def directCall : Lint :=
  ofEach "direct-call" "Check that direct calls and generated dry runs have what they need"
    fun typeName c =>
      match c.callMode with
      | .direct call none _ => [report .error typeName s!"call '{call}' has no input type"]
      | .direct _ (some _) _ => []
      | .manual =>
        if c.dryRunMode = .generated then
          [report .error typeName "generated dry run needs a call; mark the dry run as manual"]
        else []

/-- The faults of a name that code is made with; one that is absent has none. -/
def nameFault (admits : String → Bool) (fault : String → String) (name : Option String) :
    List String :=
  match name with
  | some n => if admits n then [] else [fault n]
  | none => []

/-- What becomes part of code has to be an identifier or the path of a type. An empty api is left to
another lint. -/
def identifierForm : Lint :=
  ofEach "identifier-syntax" "Check that api, call, input and output are valid Rust syntax"
    fun typeName c =>
      (nameFault (fun n => n = "" || Source.isIdentifier n)
          (fun n => s!"api '{n}' is not a valid module name") (some c.api) ++
        nameFault Source.isIdentifier (fun n => s!"call '{n}' is not a valid identifier") c.call ++
        nameFault Source.isTypePath (fun n => s!"input '{n}' is not a valid type path") c.input ++
        nameFault Source.isTypePath (fun n => s!"output '{n}' is not a valid type path") c.output).map
        (report .error typeName)

def emptyParamName : Lint :=
  ofEach "empty-param-name" "Warn about parameters with an empty name" fun typeName c =>
    let unnamed := c.params.countP (·.name = "")
    if 0 < unnamed then
      [report .warning typeName (toString unnamed ++ " parameter(s) have an empty name")]
    else []

def builtIn : List Lint :=
  [duplicateIdentifier, incompleteCommand, directCall, identifierForm, emptyParamName]

end Lint

end CommandGen
