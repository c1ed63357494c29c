import CommandGen.Command.Basic
import CommandGen.Tag.Basic
import CommandGen.Tag.Vocabulary

/-! What the tags of a field say about a command or a parameter. -/
namespace CommandGen

/-- A value that is present and not empty. -/
def TagSet.nonEmpty? (tags : TagSet) (key : String) : Option String :=
  (tags.get? key).filter (· ≠ "")

def asciiLower (s : String) : List Char := s.toList.map Char.toLower

/-- The command that a command field declares, without its parameters. -/
def commandOfTags (tags : TagSet) (keys : Vocabulary) : Command where
  action := (tags.get? keys.action).getD ""
  entity := (tags.get? keys.entity).getD ""
  api := (tags.get? keys.api).getD ""
  call := tags.nonEmpty? keys.call
  input := tags.nonEmpty? keys.input
  output := tags.nonEmpty? keys.output
  hasDryRun := tags.contains keys.dryRun
  genDryRun := match tags.get? keys.dryRun with
    | some value => asciiLower value ≠ asciiLower "manual"
    | none => false

def paramOfTags (tags : TagSet) (keys : Vocabulary) : Param where
  name := (tags.get? keys.param).getD ""
  inputField := (tags.get? keys.inputField).getD ""
  isRequired := tags.contains keys.required

end CommandGen
