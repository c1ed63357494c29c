import CommandGen.Text.Pieces

/-! The annotation language: tokens `key:"value"` with spaces between them. A token without a colon
means nothing, and of two tokens with one key the later value counts at the place of the first. -/
namespace CommandGen

/-- Replace the value of a key where it stands, or append a new entry. -/
def putEntry (key value : String) : List (String × String) → List (String × String)
  | [] => [(key, value)]
  | (k, v) :: rest => if k = key then (key, value) :: rest else (k, v) :: putEntry key value rest

theorem keys_putEntry (key value : String) (entries : List (String × String)) :
    (putEntry key value entries).map (·.1) =
      if key ∈ entries.map (·.1) then entries.map (·.1) else entries.map (·.1) ++ [key] := by
  induction entries with
  | nil => simp [putEntry]
  | cons e rest ih =>
    obtain ⟨k, v⟩ := e
    unfold putEntry
    split
    · simp_all
    · rename_i hk
      have hk' : ¬ key = k := fun h => hk h.symm
      simp only [List.map_cons, ih, List.mem_cons, hk', false_or]
      split <;> simp

/-- Tags in order of first appearance; a key stands once. -/
structure TagSet where
  entries : List (String × String) := []
  nodup : (entries.map (·.1)).Nodup := by exact List.nodup_nil

structure MalformedTag where
  key : String
  value : String
deriving DecidableEq

def MalformedTag.message (e : MalformedTag) : String :=
  "malformed tag: '" ++ e.key ++ "':'" ++ e.value ++ "'"

def unwrapQuotes : List Char → Option (List Char)
  | '"' :: rest => if rest.getLast? = some '"' then some rest.dropLast else none
  | _ => none

def tagToken (token : List Char) : Option (String × List Char) :=
  (Text.cutAt ':' token).map fun (key, value) => (String.ofList key, value)

def tagTokens (body : String) : List (String × List Char) :=
  (Text.pieces (· == ' ') body.toList).filterMap tagToken

def hasKey (body key : String) : Bool := (tagTokens body).any (·.1 == key)

namespace TagSet

def put (tags : TagSet) (key value : String) : TagSet where
  entries := putEntry key value tags.entries
  nodup := by
    rw [keys_putEntry]
    split
    · exact tags.nodup
    · rename_i h
      exact List.nodup_append.mpr ⟨tags.nodup, by simp, by rintro a ha b hb rfl; simp_all⟩

def get? (tags : TagSet) (key : String) : Option String := tags.entries.lookup key

def contains (tags : TagSet) (key : String) : Bool := (tags.get? key).isSome

def size (tags : TagSet) : Nat := tags.entries.length

def isEmpty (tags : TagSet) : Bool := tags.entries.isEmpty

def addToken (tags : TagSet) (token : String × List Char) : Except MalformedTag TagSet :=
  match unwrapQuotes token.2 with
  | some value => .ok (tags.put token.1 (String.ofList value))
  | none => .error ⟨token.1, String.ofList token.2⟩

/-- Read the body of an annotation; the first malformed token is reported. -/
def parse (body : String) : Except MalformedTag TagSet := (tagTokens body).foldlM addToken {}

end TagSet

end CommandGen
