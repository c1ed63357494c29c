import CommandGen.NameMap
import CommandGen.Scan.Declaration
import CommandGen.Source.Name

/-! Settings of a run: what a scan looks for, how the generated files are called, and the traits of
the clients. -/
namespace CommandGen

structure OutputNames where
  behaviour : String := "gen_runs.rs"
  registry : String := "gen_inits.rs"
  definitions : String := "gen_cmds_defs.rs"
deriving DecidableEq, Inhabited

def OutputNames.toList (o : OutputNames) : List String := [o.behaviour, o.registry, o.definitions]

structure Settings where
  scan : ScanOptions := {}
  outputs : OutputNames := {}
  /-- Traits of clients that are not named after their api. -/
  traits : NameMap String := .empty
deriving DecidableEq, Inhabited

inductive SettingsFault where
  | attributeName (name : String)
  | tagKey (key : String)
  | outputNotPlain (name : String)
  | outputTwice (name : String)
  | traitName (api name : String)
deriving DecidableEq

def SettingsFault.message : SettingsFault → String
  | attributeName name => s!"attribute '{name}' is not a valid attribute name"
  | tagKey key => s!"tag key '{key}' must be non-empty without spaces, colons or quotes"
  | outputNotPlain name => s!"output '{name}' must be a plain file name"
  | outputTwice name => s!"output '{name}' is used twice"
  | traitName api name => s!"trait name '{name}' for api '{api}' is not a valid identifier"

def isTagKey (key : String) : Bool :=
  key ≠ "" && key.toList.all fun c => c ≠ ' ' && c ≠ ':' && c ≠ '"'

def isPlainName (name : String) : Bool :=
  name ≠ "" && name.toList.all fun c => c ≠ '/' && c ≠ '\\'

/-- The faults of a list of output names, given the names before them. -/
def outputFaults (before : List String) : List String → List SettingsFault
  | [] => []
  | name :: rest =>
    (if !isPlainName name then [.outputNotPlain name]
      else if before.contains name then [.outputTwice name]
      else []) ++ outputFaults (name :: before) rest

namespace Settings

def faults (s : Settings) : List SettingsFault :=
  (if Source.isIdentifier s.scan.attributeName then [] else [.attributeName s.scan.attributeName]) ++
    (s.scan.keys.keys.filter (!isTagKey ·)).map .tagKey ++
    outputFaults [] s.outputs.toList ++
    (s.traits.entries.filter fun (_, name) => !Source.isIdentifier name).map fun (api, name) =>
      .traitName api name

/-- Settings without a fault, or the first fault. -/
def validate (s : Settings) : Except SettingsFault Settings :=
  match s.faults with
  | [] => .ok s
  | fault :: _ => .error fault

end Settings

end CommandGen
