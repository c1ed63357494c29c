import CommandGen.Source.Token

/-! Tokens with the groups that their delimiters make. -/
namespace CommandGen.Source

inductive Tree where
  | word (text : String) (span : Span)
  | mark (char : Char) (joined : Bool) (span : Span)
  | literal (value : Literal) (span : Span)
  | group (delimiter : Delimiter) (content : List Tree) (span : Span)
deriving Inhabited

def Tree.span : Tree → Span
  | .word _ s | .mark _ _ s | .literal _ s | .group _ _ s => s

/-- A documenting comment is the attribute `doc` with the text of the comment as its value. -/
def DocComment.trees (d : DocComment) (span : Span) : List Tree :=
  let value := [.word "doc" span, .mark '=' false span, .literal (.string (String.ofList d.text)) span]
  .mark '#' false span ::
    ((if d.inner then [.mark '!' false span] else []) ++ [.group .bracket value span])

/-- An open group: its delimiter, where it starts, and what stands before it in reverse order. -/
structure OpenGroup where
  delimiter : Delimiter
  start : Nat
  before : List Tree

/-- Close the groups of a list of tokens: `done` holds the trees of the innermost open group in
reverse order. Every delimiter has its partner. -/
def nest : List OpenGroup → List Tree → List (Token × Span) → Option (List Tree)
  | [], done, [] => some done.reverse
  | _ :: _, _, [] => none
  | outer, done, (t, span) :: rest =>
    match t with
    | .word text => nest outer (.word text span :: done) rest
    | .mark c joined => nest outer (.mark c joined span :: done) rest
    | .literal l => nest outer (.literal l span :: done) rest
    | .doc d => nest outer ((d.trees span).reverse ++ done) rest
    | .opening d => nest (⟨d, span.start, done⟩ :: outer) [] rest
    | .closing d =>
      match outer with
      | [] => none
      | g :: outer =>
        if g.delimiter = d then
          nest outer (.group d done.reverse ⟨g.start, span.stop⟩ :: g.before) rest
        else none

def trees (s : List Char) : Option (List Tree) := tokens s >>= nest [] []

end CommandGen.Source
