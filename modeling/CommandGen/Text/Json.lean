import CommandGen.Text.Quoted

/-! JSON as indented text. -/
namespace CommandGen.Text

inductive Json where
  | text (value : String)
  | flag (value : Bool)
  | list (items : List Json)
  | object (members : List (String × Json))

namespace Json

/-- One character as it stands between quotes: controls are escaped, five of them by a letter. -/
def escapeChar (c : Char) : List Char :=
  if c = '"' then ['\\', '"']
  else if c = '\\' then ['\\', '\\']
  else if c = '\n' then ['\\', 'n']
  else if c = '\r' then ['\\', 'r']
  else if c = '\t' then ['\\', 't']
  else if c = '\x08' then ['\\', 'b']
  else if c = '\x0c' then ['\\', 'f']
  else if c.toNat < 0x20 then
    ['\\', 'u', '0', '0', Nat.digitChar (c.toNat / 16), Nat.digitChar (c.toNat % 16)]
  else [c]

def quoteText (s : String) : String := "\"" ++ String.ofList (s.toList.flatMap escapeChar) ++ "\""

def margin (level : Nat) : String := String.join (List.replicate level "  ")

def bracket (opening closing : String) (level : Nat) (parts : List String) : String :=
  match parts with
  | [] => opening ++ closing
  | _ =>
    opening ++ "\n" ++ ",\n".intercalate (parts.map (margin (level + 1) ++ ·)) ++ "\n" ++
      margin level ++ closing

mutual

def pretty (level : Nat) : Json → String
  | .text s => quoteText s
  | .flag b => if b then "true" else "false"
  | .list items => bracket "[" "]" level (prettyItems (level + 1) items)
  | .object members => bracket "\x7b" "\x7d" level (prettyMembers (level + 1) members)

def prettyItems (level : Nat) : List Json → List String
  | [] => []
  | j :: rest => pretty level j :: prettyItems level rest

def prettyMembers (level : Nat) : List (String × Json) → List String
  | [] => []
  | (name, j) :: rest => (quoteText name ++ ": " ++ pretty level j) :: prettyMembers level rest

end

end Json

end CommandGen.Text
