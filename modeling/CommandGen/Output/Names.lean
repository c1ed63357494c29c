import CommandGen.NameMap
import CommandGen.Source.Name
import CommandGen.Text.Quoted
import CommandGen.Text.Words

/-! Names and literals of generated code. -/
namespace CommandGen

def quoted (s : String) : String := String.ofList (Text.quote s.toList)

/-- A text as part of a message template, where it stands for itself. -/
def templated (s : String) : String := String.ofList (Text.templateText s.toList)

def pascalCase (s : String) : String := String.ofList (Text.pascalCase s.toList)

def snakeCase (s : String) : String := String.ofList (Text.snakeCase s.toList)

/-- The trait of the client of an api: the one that is set for it, or one named after it. -/
def traitName (overrides : NameMap String) (api : String) : String :=
  (overrides.get? api).getD (pascalCase api ++ "Api")

/-- The method of the client for a call. One that would be no identifier is written as a raw one. -/
def methodName (call : String) : String :=
  let name := snakeCase call
  if Source.isIdentifier name then name else "r#" ++ name

end CommandGen
