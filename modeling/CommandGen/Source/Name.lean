import CommandGen.Source.Grammar

/-! Texts that can stand as names in source code. -/
namespace CommandGen.Source

/-- Whether a text is one identifier, blanks and comments aside. -/
def isIdentifier (s : String) : Bool :=
  match trees s.toList with
  | some [.word text _] => !reservedWords.contains text
  | _ => false

def isTypePath (s : String) : Bool :=
  match trees s.toList with
  | some ts => (readAll (fun g => qualifiedPath g false) ts).isSome
  | none => false

end CommandGen.Source
