import CommandGen.Scan.Error
import CommandGen.Source.File
import CommandGen.Tag.Metadata

/-! The command that one structure declares through the tags of its fields. -/
namespace CommandGen

open Source

structure ScanOptions where
  /-- Name of the attribute that holds the tags of a field. -/
  attributeName : String := "tag"
  keys : Vocabulary := {}
deriving DecidableEq, Inhabited

/-- Whether a field with these tags can declare something. All others are left unread. -/
def ScanOptions.isMarked (o : ScanOptions) (body : String) : Bool :=
  hasKey body o.keys.command || hasKey body o.keys.param

variable (o : ScanOptions) (range : Span → ByteRange)

/-- The tags of a field, and where their attribute stands. -/
def fieldTags? (f : Field) : Except ScanError (Option (TagSet × Span)) :=
  match f.attributes.filter (·.name = some o.attributeName) with
  | [] => .ok none
  | [a] =>
    match a.value with
    | none => .error (.invalidTagAttribute o.attributeName (range a.span))
    | some (body, literal) =>
      if o.isMarked body then
        match TagSet.parse body with
        | .ok tags => .ok (some (tags, a.span))
        | .error e => .error (.malformedTag e (range literal))
      else .ok none
  | first :: second :: _ =>
    .error (.duplicateFieldTag o.attributeName (range first.span) (range second.span))

/-- What the fields read so far declare. -/
structure Draft where
  command : Option (Command × Span) := none
  params : List Param := []

/-- Read one more field. The command key goes before the parameter key. -/
def Draft.addField (typeName : String) (d : Draft) (f : Field) : Except ScanError Draft := do
  match ← fieldTags? o range f with
  | none => return d
  | some (tags, span) =>
    if tags.contains o.keys.command then
      match d.command with
      | some (_, first) => throw (.duplicateCommandTag typeName (range first) (range span))
      | none => return { d with command := some (commandOfTags tags o.keys, span) }
    else if tags.contains o.keys.param then
      return { d with params := d.params ++ [paramOfTags tags o.keys] }
    else return d

def Draft.finish (d : Draft) : Option Command := d.command.map fun (c, _) => c.withParams d.params

def declaredCommand? (decl : StructDecl) : Except ScanError (Option Command) := do
  let draft ← decl.fields.foldlM (Draft.addField o range decl.name) {}
  return draft.finish

end CommandGen
