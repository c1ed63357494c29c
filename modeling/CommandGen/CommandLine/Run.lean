import CommandGen.CommandLine.Help
import CommandGen.Command.Json
import CommandGen.Output.Files
import CommandGen.Scan.Directory
import CommandGen.Settings.Load

/-! What the commands of the command line do. -/
namespace CommandGen

structure Outcome where
  code : Nat := 0
  output : String := ""
  errors : String := ""
deriving DecidableEq, Inhabited

namespace Outcome

def fail (errors : String) : Outcome := { code := 1, errors := errors }

def after (errors : String) (o : Outcome) : Outcome := { o with errors := errors ++ o.errors }

end Outcome

def printLines (lines : List String) : String := String.join (lines.map (· ++ "\n"))

/-- Further lines of a text are set in, so that no line of a message starts a new one. -/
def setIn (s : String) : String :=
  String.ofList (s.toList.flatMap fun c => if c = '\n' then "\n      ".toList else [c])

def faultReport (code : Option String) (message : String) (help : Option String) : String :=
  printLines <|
    code.toList ++ ["  × " ++ setIn message] ++ (help.map fun h => "  help: " ++ setIn h).toList

def ScanError.text (e : ScanError) : String := faultReport e.code? e.message e.help?

def SettingsError.text (e : SettingsError) : String := faultReport e.code? e.message none

def failureReport (messages : List String) : String :=
  printLines ("Error: " :: messages.zipIdx.map fun (message, n) => s!"   {n}: {setIn message}")

/-- Warnings about commands that no code outside their module can name. -/
def nestedWarnings (found : List FoundCommand) : String :=
  printLines <| (found.filter (·.isNested)).map fun c =>
    "WARN " ++ FoundCommand.warning ++ " type_name=" ++ c.typeName ++ " location=" ++ c.location

def findingLines (found : List Diagnostic) : String := printLines (found.map (·.text))

/-- Findings are printed apart from output, but for those that only inform. -/
def findingOutcome (s : RunState) : Outcome where
  output := findingLines (s.diagnostics.filter (·.severity = .info))
  errors := findingLines (s.diagnostics.filter (·.severity ≠ .info))

def loadAndScan (dir : String) (config : Option String) :
    FileProgram (Except String (Settings × List FoundCommand)) := do
  match ← Settings.load dir config with
  | .error e => return .error e.text
  | .ok settings =>
    match ← scanDirectory settings.scan dir with
    | .error e => return .error e.text
    | .ok found => return .ok (settings, found)

def generateLines (results : List (String × WriteResult)) : List String :=
  (pathsWith .written results).map ("  wrote     " ++ ·) ++
    (pathsWith .unchanged results).map ("  unchanged " ++ ·)

def previewLines (files : List OutputFile) : List String :=
  files.flatMap (fun f => ["── " ++ f.path ++ " ──", f.content]) ++
    ["── Summary ──", s!"{files.length} files would be generated"]

def runGenerate (dir : String) (config : Option String) (dryRun : Bool) : FileProgram Outcome := do
  match ← loadAndScan dir config with
  | .error report => return .fail report
  | .ok (settings, found) =>
    let (state, failure) := ({} : Pipeline).runIn ⟨CommandSet.ofFound found, none, []⟩
    let shown := (findingOutcome state).after (nestedWarnings found)
    match failure with
    | some f =>
      return { shown with
        code := 1
        errors := shown.errors ++ failureReport ["Pipeline failed", f.message] }
    | none =>
      let generator := Generator.ofRun state settings
      if dryRun then
        match generator.preview with
        | .error e =>
          return { shown with code := 1, errors := shown.errors ++ failureReport e.messages }
        | .ok files =>
          return { shown with output := shown.output ++ printLines (previewLines files) }
      else
        match ← generator.generate dir with
        | .error e =>
          return { shown with
            code := 1
            errors := shown.errors ++ failureReport ("Failed to generate code" :: e.messages) }
        | .ok results =>
          return { shown with output := shown.output ++ printLines (generateLines results) }

def runCheck (dir : String) (config : Option String) : FileProgram Outcome := do
  match ← loadAndScan dir config with
  | .error report => return .fail report
  | .ok (_, found) =>
    let (state, failure) := ({} : Pipeline).runIn ⟨CommandSet.ofFound found, none, []⟩
    let shown := (findingOutcome state).after (nestedWarnings found)
    if state.hasErrors then
      return { shown with
        code := 1
        errors := shown.errors ++ s!"\n{state.errors.length} error(s) found\n" }
    match failure with
    | some f =>
      return { shown with
        code := 1
        errors := shown.errors ++ failureReport ["Pipeline failed", f.message] }
    | none =>
      let count := state.commands.size
      let plural := if count = 1 then "" else "s"
      let gap := if state.hasWarnings then "\n" else ""
      return { shown with
        output := shown.output ++ gap ++ s!"✓ {dir} is valid: {count} command{plural}\n" }

def listLines (index : ActionIndex) : List String :=
  if index.isEmpty then ["No commands found"]
  else "Actions:" :: index.entries.map fun (action, entities) =>
    s!"  {action}: " ++ ", ".intercalate entities

def runList (dir : String) (config : Option String) (json : Bool) : FileProgram Outcome := do
  match ← loadAndScan dir config with
  | .error report => return .fail report
  | .ok (_, found) =>
    let set := CommandSet.ofFound found
    let lines := if json then [set.json.pretty 0] else listLines (ActionIndex.ofCommands set)
    return { output := printLines lines, errors := nestedWarnings found }

def Request.run : Request → FileProgram Outcome
  | generate dir config dryRun => runGenerate dir config dryRun
  | check dir config => runCheck dir config
  | list dir config json => runList dir config json
  | completions shell => return { output := completionText shell }

def Stop.outcome : Stop → Outcome
  | help verb => { output := helpText verb }
  | version => { output := programVersion ++ "\n" }
  | usage message =>
    { code := 2, errors := "error: " ++ setIn message ++ "\n\nFor more information, try '--help'.\n" }

def runArguments (args : List String) : FileProgram Outcome :=
  match parseArguments args with
  | .ok request => request.run
  | .error stop => return stop.outcome

end CommandGen
