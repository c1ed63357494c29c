import CommandGen.Output.Names
import CommandGen.Proofs.Source.Piece
import CommandGen.Proofs.Text.Quoted

/-! Quoted texts in generated code. Each is one token of its line, and the value of the token is the
text. -/
namespace CommandGen

open Source Text

variable {rest : List Char} {at_ : ℕ}

/-- The characters of a fixed text are read off its literal: to decode them takes much longer than
to look through them. -/
theorem toList_literal {s : String} {cs : List Char} (h : s = String.ofList cs) :
    s.toList = cs := by
  rw [h, String.toList_ofList]

theorem toList_quoted (s : String) : (quoted s).toList = quote s.toList := by
  rw [quoted, String.toList_ofList]

/-- A quoted text is a literal of its own in front of all that starts no identifier. -/
theorem tokenAt_quoted_iff (s : String) :
    tokenAt ((quoted s).toList ++ rest) = some (.literal (.string s), (quoted s).toList.length) ↔
      rest.head?.any isIdentifierStart = false := by
  rw [toList_quoted, (tokenAt_quote s rest).2, ← suffixWidth_eq_zero_iff]
  simp

theorem tokensFrom_quoted (s : String) (h : rest.head?.any isIdentifierStart = false) :
    tokensFrom at_ 0 ((quoted s).toList ++ rest) =
      (tokensFrom (at_ + (quoted s).toList.length) 0 rest).map
        ((.literal (.string s), ⟨at_, at_ + (quoted s).toList.length⟩) :: ·) := by
  have htoken := (tokenAt_quoted_iff s).mpr h
  rw [toList_quoted] at htoken ⊢
  exact tokensFrom_token (List.cons_ne_nil _ _) (tokenAt_quote s rest).1 htoken

theorem quoted_oneLine (s : String) : '\n' ∉ (quoted s).toList ∧ '\r' ∉ (quoted s).toList := by
  rw [toList_quoted]
  exact ⟨fun h => (quote_oneLine _ _ h).1 rfl, fun h => (quote_oneLine _ _ h).2 rfl⟩

/-- A quoted text reads back. In front of all that starts no identifier it is one token with the
text as its value, and what follows is read as if it stood alone. It has no line end in it. -/
theorem quoted_reads_back (s : String) :
    (∀ rest : List Char, rest.head?.any isIdentifierStart = false →
      tokenAt ((quoted s).toList ++ rest) = some (.literal (.string s), (quoted s).toList.length) ∧
        ∀ at_, tokensFrom at_ 0 ((quoted s).toList ++ rest) =
          (tokensFrom (at_ + (quoted s).toList.length) 0 rest).map
            ((.literal (.string s), ⟨at_, at_ + (quoted s).toList.length⟩) :: ·)) ∧
      '\n' ∉ (quoted s).toList ∧ '\r' ∉ (quoted s).toList := by
  refine ⟨fun rest hrest => ⟨(tokenAt_quoted_iff s).mpr hrest, fun at_ => ?_⟩, quoted_oneLine s⟩
  exact tokensFrom_quoted s hrest

/-- A text with all kinds of characters that are escaped. -/
def escapedSample : String := "\x00\t\r\n\"\\\x7b\x07\u0301é"

theorem quoted_reads_back_escapes : "7;".toList.head?.any isIdentifierStart = false ∧
    tokenAt ((quoted escapedSample).toList ++ "7;".toList) =
      some (.literal (.string escapedSample), 28) := by
  have hrest : "7;".toList.head?.any isIdentifierStart = false := by
    rw [toList_literal rfl]
    decide
  have hlength : (quoted escapedSample).toList.length = 28 := by
    rw [toList_quoted, escapedSample, toList_literal rfl]
    decide +kernel
  refine ⟨hrest, ?_⟩
  rw [((quoted_reads_back _).1 _ hrest).1, hlength]

end CommandGen
