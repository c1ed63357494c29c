import CommandGen.Settings.Basic
import CommandGen.Tag.Vocabulary
import CommandGen.Toml.Document

/-! Settings as they are written in a file. -/
namespace CommandGen

open Toml (Value Entries)

inductive SettingsError where
  | unreadable (path : String)
  | malformed
  | invalid (fault : SettingsFault)
deriving DecidableEq

namespace SettingsError

def message : SettingsError → String
  | unreadable path => s!"failed to read '{path}'"
  | malformed => "failed to parse cmdforge.toml"
  | invalid fault => fault.message

def code? : SettingsError → Option String
  | unreadable _ => none
  | malformed => some "cmdforge::config_error"
  | invalid _ => some "cmdforge::invalid_config"

end SettingsError

namespace Settings

/-- The values of a group of settings by their names. A list gives them in order; it may be too
short, and what it has over is not looked at. -/
def fields? (names : List String) : Value → Option (List (Option Value))
  | .table _ entries =>
    if entries.all fun e => names.contains e.1 then
      some (names.map fun name => entries.lookup name)
    else none
  | .array _ items => some ((List.range names.length).map fun i => items[i]?)
  | _ => none

def text? : Option Value → Option (Option String)
  | none => some none
  | some (.text s) => some (some s)
  | some _ => none

def textOr? (default : String) (v : Option Value) : Option String := (text? v).map (·.getD default)

/-- A preset, by its name or as the only key of a table, with nothing for its value. -/
def preset? : Value → Option Preset
  | .text name => named name
  | .table _ [(name, .table _ [])] => named name
  | .table _ [(name, .array _ [])] => named name
  | _ => none
where
  named : String → Option Preset
    | "default" => some .standard
    | "awless" => some .awless
    | _ => none

def tagNames : List String :=
  ["preset", "command", "api", "action", "entity", "call", "input", "output", "dryRun", "param",
   "required", "awsField"]

def vocabulary? (v : Value) : Option Vocabulary := do
  match ← fields? tagNames v with
  | preset :: keys =>
    let preset ← match preset with
      | none => some Preset.standard
      | some p => preset? p
    match ← keys.mapM text? with
    | [command, api, action, entity, call, input, output, dryRun, param, required, inputField] =>
      return preset.vocabulary.override
        ⟨command, api, action, entity, call, input, output, dryRun, param, required, inputField⟩
    | _ => none
  | [] => none

def outputNames? (v : Value) : Option OutputNames := do
  match ← fields? ["runs", "inits", "definitions"] v with
  | [behaviour, registry, definitions] =>
    let d : OutputNames := {}
    return ⟨← textOr? d.behaviour behaviour, ← textOr? d.registry registry,
      ← textOr? d.definitions definitions⟩
  | _ => none

def trait? : String × Value → Option (String × String)
  | (api, .text name) => some (api, name)
  | _ => none

def traits? : Value → Option (NameMap String)
  | .table _ entries => (entries.mapM trait?).map NameMap.ofList
  | _ => none

def orDefault {α : Type} (default : α) (read : Value → Option α) : Option Value → Option α
  | none => some default
  | some v => read v

def ofEntries? (entries : Entries) : Option Settings := do
  match ← fields? ["attribute", "tags", "output", "api"] (.table .explicit entries) with
  | [name, tags, outputs, traits] =>
    let d : ScanOptions := {}
    let scan : ScanOptions := ⟨← textOr? d.attributeName name, ← orDefault {} vocabulary? tags⟩
    return ⟨scan, ← orDefault {} outputNames? outputs, ← orDefault .empty traits? traits⟩
  | _ => none

def ofText (text : String) : Except SettingsError Settings :=
  match Toml.read? text >>= ofEntries? with
  | none => .error .malformed
  | some s =>
    match s.validate with
    | .ok s => .ok s
    | .error fault => .error (.invalid fault)

end Settings

end CommandGen
