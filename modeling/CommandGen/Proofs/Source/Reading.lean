import CommandGen.Proofs.Source.Piece
import CommandGen.Proofs.Source.Tree

/-! Source text that is put together from pieces, read as trees. -/
namespace CommandGen.Source

variable {ps qs : List Piece} {s : List Char} {next : Option Char} {P Q : List Tree → Prop}

/-- The pieces fit in front of this character, and the trees that they make are such ones. -/
structure Reads (ps : List Piece) (next : Option Char) (P : List Tree → Prop) : Prop where
  fit : allFit ps next = true
  nests : ∀ at_, ∃ ts, Nests (tokensOf at_ ps) ts ∧ P ts

namespace Reads

theorem imp (h : Reads ps next P) (hPQ : ∀ ts, P ts → Q ts) : Reads ps next Q where
  fit := h.fit
  nests at_ := (h.nests at_).imp fun ts hts => ⟨hts.1, hPQ ts hts.2⟩

theorem append (h : Reads ps (firstOf qs next) P) (hq : Reads qs next Q) :
    Reads (ps ++ qs) next fun ts => ∃ us vs, ts = us ++ vs ∧ P us ∧ Q vs where
  fit := by rw [allFit_append, h.fit, hq.fit, Bool.and_true]
  nests at_ := by
    obtain ⟨us, hus, hP⟩ := h.nests at_
    obtain ⟨vs, hvs, hQ⟩ := hq.nests (at_ + (written ps).length)
    exact ⟨us ++ vs, tokensOf_append ps qs ▸ hus.append hvs, us, vs, rfl, hP, hQ⟩

theorem group (d : Delimiter) (h : Reads ps (some d.closingChar) P)
    (hfirst : firstOf ps (some d.closingChar) ≠ some '/') :
    Reads (.opening d :: (ps ++ [.closing d])) next fun ts => ∃ us span,
      ts = [.group d us span] ∧ P us where
  fit := by
    have hlast : allFit [.closing d] next = true := rfl
    have hinside : firstOf [.closing d] next = some d.closingChar := rfl
    rw [allFit, firstOf_append, allFit_append, hinside, h.fit, hlast]
    simpa [Piece.fits] using hfirst
  nests at_ := by
    obtain ⟨us, hus, hP⟩ := h.nests (at_ + 1)
    let last := at_ + 1 + (written ps).length
    have htoks : tokensOf at_ (.opening d :: (ps ++ [.closing d])) =
        (.opening d, ⟨at_, at_ + 1⟩) :: (tokensOf (at_ + 1) ps ++ [(.closing d, ⟨last, last + 1⟩)]) := by
      rw [tokensOf, tokensOf_append]
      rfl
    rw [htoks]
    exact ⟨_, .group d hus .nil, us, _, rfl, hP⟩

end Reads

theorem kinds_tokensFrom (at_ at' known : ℕ) (s : List Char) :
    (tokensFrom at_ known s).map (·.map (·.1)) = (tokensFrom at' known s).map (·.map (·.1)) := by
  induction s generalizing at_ at' known with
  | nil => cases known <;> rfl
  | cons c s ih =>
    cases known with
    | succ known => exact ih _ _ _
    | zero =>
      rw [tokensFrom, tokensFrom]
      split
      · exact ih _ _ _
      · split
        · rename_i t w _
          have hrest := congrArg (·.map (t :: ·)) (ih (at_ + 1) (at' + 1) (w - 1))
          simpa [Function.comp_def] using hrest
        · rfl

theorem exists_nests_at (h : (tokensFrom 0 0 s >>= nest [] []).isSome) (at_ : ℕ) :
    ∃ toks us, tokensFrom at_ 0 s = some toks ∧ Nests toks us := by
  obtain ⟨ts, hts⟩ := Option.isSome_iff_exists.mp h
  obtain ⟨kinds, htoks, hnest⟩ := Option.bind_eq_some_iff.mp hts
  have hkinds := kinds_tokensFrom at_ 0 0 s
  rw [htoks] at hkinds
  obtain ⟨toks, htoks', hsame⟩ := Option.map_eq_some_iff.mp hkinds
  obtain ⟨us, hus⟩ := (nest_eq_some_iff.mp hnest).exists_of_kinds hsame
  exact ⟨toks, us, htoks', hus⟩

theorem Reads.exists_trees (h : Reads ps s.head? P) (hs : (tokensFrom 0 0 s >>= nest [] []).isSome)
    (hmark : firstOf ps s.head? ≠ some byteOrderMark) :
    ∃ ts us, trees (written ps ++ s) = some (ts ++ us) ∧ P ts := by
  obtain ⟨ts, hts, hP⟩ := h.nests 0
  obtain ⟨toks, us, htoks, hus⟩ := exists_nests_at hs (0 + (written ps).length)
  have hall : tokensFrom 0 0 (written ps ++ s) = some (tokensOf 0 ps ++ toks) := by
    rw [tokensFrom_written h.fit, htoks, Option.map_some]
  have htokens : tokens (written ps ++ s) = tokensFrom 0 0 (written ps ++ s) := by
    rw [← head?_written_append] at hmark
    cases hw : written ps ++ s with
    | nil => rfl
    | cons c rest => rw [tokens, if_neg (by simpa [hw] using hmark)]
  refine ⟨ts, us, ?_, hP⟩
  rw [trees, htokens, hall]
  exact nest_eq_some_iff.mpr (hts.append hus)

end CommandGen.Source
