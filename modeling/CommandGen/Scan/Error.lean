import CommandGen.Source.Position
import CommandGen.Tag.Basic

/-! What can be wrong with annotated sources, and how it is reported. -/
namespace CommandGen

open Source (ByteRange)

structure Label where
  range : ByteRange
  text : String
deriving DecidableEq

inductive ScanError where
  | unreadable (path : String)
  | unparsable
  | malformedTag (tag : MalformedTag) (literal : ByteRange)
  | invalidTagAttribute (name : String) (range : ByteRange)
  | duplicateFieldTag (name : String) (first second : ByteRange)
  | duplicateCommandTag (typeName : String) (first second : ByteRange)
  /-- Two types of one name; they are told apart by file and line. -/
  | duplicateType (typeName first second : String)
deriving DecidableEq

namespace ScanError

def message : ScanError → String
  | unreadable path => s!"failed to read '{path}'"
  | unparsable => "failed to parse source file"
  | malformedTag tag _ => tag.message
  | invalidTagAttribute name _ => s!"'#[{name}]' must hold a string literal"
  | duplicateFieldTag name _ _ => s!"field has more than one '#[{name}]' attribute"
  | duplicateCommandTag typeName _ _ => s!"type '{typeName}' has more than one command tag"
  | duplicateType typeName _ _ => s!"duplicate command type '{typeName}'"

def code? : ScanError → Option String
  | unreadable _ => none
  | unparsable => some "cmdforge::syntax_error"
  | malformedTag .. => some "cmdforge::malformed_tag"
  | invalidTagAttribute .. => some "cmdforge::invalid_tag_attribute"
  | duplicateFieldTag .. => some "cmdforge::duplicate_field_tag"
  | duplicateCommandTag .. => some "cmdforge::duplicate_command_tag"
  | duplicateType .. => some "cmdforge::duplicate_type"

def help? : ScanError → Option String
  | unreadable _ => none
  | unparsable => none
  | malformedTag tag _ =>
    some s!"tag values must be wrapped in double quotes, e.g. {tag.key}:\"value\""
  | invalidTagAttribute name _ =>
    some s!"put the annotation in a string, e.g. #[{name}(r#\"key:\"value\"\"#)]"
  | duplicateFieldTag .. => some "merge the annotations into a single attribute"
  | duplicateCommandTag .. => some "a command type carries exactly one command annotation"
  | duplicateType _ first second =>
    some s!"declared at {first} and again at {second}; command type names must be unique"

def labels : ScanError → List Label
  | malformedTag _ literal => [⟨literal, "in this tag"⟩]
  | invalidTagAttribute _ range => [⟨range, "not a string literal"⟩]
  | duplicateFieldTag _ first second => [⟨first, "first annotation"⟩, ⟨second, "second annotation"⟩]
  | duplicateCommandTag _ first second =>
    [⟨first, "first command tag"⟩, ⟨second, "conflicts with the first one"⟩]
  | _ => []

end ScanError

end CommandGen
