/-! The arguments of the command line. -/
namespace CommandGen

/-- A command of the command line; without one, files are generated. -/
inductive Verb where
  | standard
  | generate
  | check
  | list
  | completions
deriving DecidableEq

inductive Switch where
  | config
  | dryRun
  | json
  | verbose
  | help
  | version
deriving DecidableEq

/-- What the program is asked to do. -/
inductive Request where
  | generate (dir : String) (config : Option String) (dryRun : Bool)
  | check (dir : String) (config : Option String)
  | list (dir : String) (config : Option String) (json : Bool)
  | completions (shell : String)
deriving DecidableEq

inductive Stop where
  | help (verb : Verb)
  | version
  | usage (message : String)
deriving DecidableEq

namespace Switch

def long : Switch → String
  | config => "config"
  | dryRun => "dry-run"
  | json => "json"
  | verbose => "verbose"
  | help => "help"
  | version => "version"

def short? : Switch → Option Char
  | config => some 'c'
  | dryRun => none
  | json => none
  | verbose => some 'v'
  | help => some 'h'
  | version => some 'V'

end Switch

namespace Verb

def name? : Verb → Option String
  | standard => none
  | generate => some "generate"
  | check => some "check"
  | list => some "list"
  | completions => some "completions"

def named : List Verb := [generate, check, list, completions]

def switches : Verb → List Switch
  | standard => [.config, .dryRun, .verbose, .help, .version]
  | generate => [.config, .dryRun, .verbose, .help]
  | check => [.config, .verbose, .help]
  | list => [.config, .json, .verbose, .help]
  | completions => [.verbose, .help]

def ofName? (name : String) : Option Verb := named.find? (·.name? = some name)

def long? (v : Verb) (name : String) : Option Switch := v.switches.find? (·.long = name)

def short? (v : Verb) (c : Char) : Option Switch := v.switches.find? (·.short? = some c)

end Verb

def shells : List String := ["bash", "elvish", "fish", "powershell", "zsh"]

structure Arguments where
  verb : Verb := .standard
  positional : Option String := none
  config : Option String := none
  dryRun : Bool := false
  json : Bool := false
  verbosity : Nat := 0

namespace Arguments

def unexpected (arg : String) : Stop := .usage s!"unexpected argument '{arg}' found"

def repeated (s : Switch) : Stop :=
  .usage s!"the argument '--{s.long}' cannot be used multiple times"

def needsValue (s : Switch) : Stop :=
  .usage s!"a value is required for '--{s.long}' but none was supplied"

/-- The directory or shell. It is given once at most and is not empty. -/
def addPositional (a : Arguments) (value : String) : Except Stop Arguments :=
  if a.positional.isSome then .error (unexpected value)
  else if a.verb = .completions then
    if shells.contains value then .ok { a with positional := some value }
    else .error (.usage s!"invalid value '{value}' for '<SHELL>'")
  else if value = "" then .error (.usage "a value is required for '[DIR]' but none was supplied")
  else .ok { a with positional := some value }

def addConfig (a : Arguments) (value : String) : Except Stop Arguments :=
  if value = "" then .error (needsValue .config)
  else if a.config.isSome then .error (repeated .config)
  else .ok { a with config := some value }

def addSwitch (a : Arguments) : Switch → Except Stop Arguments
  | .config => .error (needsValue .config)
  | .dryRun => if a.dryRun then .error (repeated .dryRun) else .ok { a with dryRun := true }
  | .json => if a.json then .error (repeated .json) else .ok { a with json := true }
  | .verbose => .ok { a with verbosity := a.verbosity + 1 }
  | .help => .error (.help a.verb)
  | .version => .error .version

def cutValue : List Char → List Char × Option (List Char)
  | [] => ([], none)
  | c :: rest =>
    if c = '=' then ([], some rest)
    else
      let (name, value) := cutValue rest
      (c :: name, value)

/-- A switch by its long name, after the two hyphens. It says whether a value has to follow. -/
def addLong (a : Arguments) (text : List Char) : Except Stop (Arguments × Bool) := do
  let (name, value) := cutValue text
  match a.verb.long? (String.ofList name), value with
  | none, _ => throw (unexpected ("--" ++ String.ofList text))
  | some .config, none => return (a, true)
  | some .config, some value => return (← a.addConfig (String.ofList value), false)
  | some s, none => return (← a.addSwitch s, false)
  | some _, some value =>
    throw (.usage s!"unexpected value '{String.ofList value}' for '--{String.ofList name}' found")

/-- Switches by their letters, after one hyphen. The value of one may follow its letter at once, or
after an equals sign. -/
def addShort (a : Arguments) : List Char → Except Stop (Arguments × Bool)
  | [] => return (a, false)
  | c :: rest =>
    match a.verb.short? c with
    | none => throw (unexpected (String.ofList ['-', c]))
    | some .config =>
      match rest with
      | [] => return (a, true)
      | '=' :: value => return (← a.addConfig (String.ofList value), false)
      | value => return (← a.addConfig (String.ofList value), false)
    | some s => do (← a.addSwitch s).addShort rest

def isSwitch (arg : String) : Bool :=
  match arg.toList with
  | '-' :: _ :: _ => true
  | _ => false

def addAll (a : Arguments) : List String → Except Stop Arguments
  | [] => .ok a
  | arg :: rest => do (← a.addPositional arg).addAll rest

/-- Read arguments. A pending switch takes the next one for its value, if it can be one; after two
hyphens no switches follow. -/
def read (a : Arguments) (pending : Bool) : List String → Except Stop Arguments
  | [] => if pending then .error (needsValue .config) else .ok a
  | arg :: rest =>
    if pending then
      if isSwitch arg then .error (needsValue .config) else do (← a.addConfig arg).read false rest
    else match arg.toList with
      | ['-', '-'] => a.addAll rest
      | '-' :: '-' :: text => do
        let (a, pending) ← a.addLong text
        a.read pending rest
      | '-' :: c :: text => do
        let (a, pending) ← a.addShort (c :: text)
        a.read pending rest
      | _ => do (← a.addPositional arg).read false rest

def request (a : Arguments) : Except Stop Request :=
  let dir := a.positional.getD "."
  match a.verb with
  | .standard | .generate => .ok (.generate dir a.config a.dryRun)
  | .check => .ok (.check dir a.config)
  | .list => .ok (.list dir a.config a.json)
  | .completions =>
    match a.positional with
    | some shell => .ok (.completions shell)
    | none => .error (.usage "the following required arguments were not provided: <SHELL>")

end Arguments

def helpStop : List String → Stop
  | [] => .help .standard
  | [name] =>
    if name = "help" then .help .standard
    else match Verb.ofName? name with
      | some verb => .help verb
      | none => .usage s!"unrecognized subcommand '{name}'"
  | name :: _ => .usage s!"unrecognized subcommand '{name}'"

/-- The request of a command line. The first argument may name a command. -/
def parseArguments (args : List String) : Except Stop Request :=
  let readFrom (verb : Verb) (args : List String) : Except Stop Request := do
    (← Arguments.read { verb := verb } false args).request
  match args with
  | [] => readFrom .standard []
  | first :: rest =>
    if first = "help" then .error (helpStop rest)
    else match Verb.ofName? first with
      | some verb => readFrom verb rest
      | none => readFrom .standard args

end CommandGen
