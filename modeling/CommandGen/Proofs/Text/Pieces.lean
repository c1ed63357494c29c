import CommandGen.Text.Pieces
import Mathlib.Data.List.Basic

/-! Cutting text at separators, and putting it together again. -/
namespace CommandGen.Text

theorem pieces_append {p : Char → Bool} {c : Char} (hc : p c = true) (s t : List Char) :
    pieces p (s ++ c :: t) = pieces p s ++ pieces p t := by
  induction s with
  | nil => simp [pieces, hc]
  | cons x xs ih =>
    by_cases hx : p x = true
    · simp [pieces, hx, ih]
    · cases h : pieces p xs with
      | nil => exact absurd h (pieces_ne_nil p xs)
      | cons piece more => simp [pieces, hx, ih, h]

theorem pieces_eq_singleton {p : Char → Bool} {s : List Char} (h : ∀ c ∈ s, p c = false) :
    pieces p s = [s] := by
  induction s with
  | nil => rfl
  | cons x xs ih =>
    have hx : p x = false := h x (by simp)
    have ht := ih fun c hc => h c (by simp [hc])
    simp [pieces, hx, ht]

theorem not_sep_of_mem_pieces {p : Char → Bool} {s piece : List Char} (h : piece ∈ pieces p s) :
    ∀ c ∈ piece, p c = false := by
  induction s generalizing piece with
  | nil =>
    have he : piece = [] := by simpa [pieces] using h
    simp [he]
  | cons x xs ih =>
    unfold pieces at h
    split at h
    · rcases List.mem_cons.mp h with rfl | h
      · simp
      · exact ih h
    · rename_i hx
      cases hp : pieces p xs with
      | nil => exact absurd hp (pieces_ne_nil p xs)
      | cons first more =>
        rw [hp] at h ih
        rcases List.mem_cons.mp h with rfl | h
        · intro c hc
          rcases List.mem_cons.mp hc with rfl | hc
          · simpa using hx
          · exact ih (by simp) c hc
        · exact ih (by simp [h])

theorem exists_mem_pieces {p : Char → Bool} {c : Char} (hc : p c = false) (s : List Char) :
    (∃ piece ∈ pieces p s, c ∈ piece) ↔ c ∈ s := by
  induction s with
  | nil => simp [pieces]
  | cons x xs ih =>
    by_cases hx : p x = true
    · have hne : c ≠ x := by
        rintro rfl
        simp [hc] at hx
      simp [pieces, hx, ih, hne]
    · cases h : pieces p xs with
      | nil => exact absurd h (pieces_ne_nil p xs)
      | cons piece more =>
        rw [h] at ih
        simp only [List.mem_cons, exists_eq_or_imp] at ih
        simp only [pieces, hx, h, List.mem_cons, exists_eq_or_imp, Bool.false_eq_true, if_false]
        rw [← ih, or_assoc]

theorem pieces_induction {p : Char → Bool} {motive : List Char → Prop}
    (plain : ∀ word, (∀ x ∈ word, p x = false) → motive word)
    (cut : ∀ word c rest,
    (∀ x ∈ word, p x = false) → p c = true → motive rest → motive (word ++ c :: rest))
    (s : List Char) : motive s := by
  -- The piece that has been begun grows until a separator ends it.
  have hbegun : ∀ word, (∀ x ∈ word, p x = false) → motive (word ++ s) := by
    induction s with
    | nil => simpa using plain
    | cons c s ih =>
      intro word hword
      by_cases hc : p c = true
      · exact cut word c s hword hc (ih [] (by simp))
      · have hgrown : ∀ x ∈ word ++ [c], p x = false := by
          simpa [or_imp, forall_and] using And.intro hword (Bool.eq_false_iff.mpr hc)
        simpa using ih (word ++ [c]) hgrown
  exact hbegun [] (by simp)

theorem intercalate_eq_flatMap {c : Char} {l : List Char} {more : List (List Char)} :
    [c].intercalate (l :: more) = l ++ more.flatMap (c :: ·) := by
  induction more generalizing l with
  | nil => simp
  | cons m more ih => simp [List.intercalate_cons_cons, ih]

theorem pieces_intercalate {p : Char → Bool} {c : Char} (hc : p c = true) {ls : List (List Char)}
    (hne : ls ≠ []) (h : ∀ l ∈ ls, ∀ x ∈ l, p x = false) : pieces p ([c].intercalate ls) = ls := by
  induction ls with
  | nil => exact absurd rfl hne
  | cons l more ih =>
    have hl : pieces p l = [l] := pieces_eq_singleton (h l (by simp))
    cases more with
    | nil => simpa using hl
    | cons m more =>
      have ht := ih (by simp) fun l hl => h l (by simp [hl])
      rw [List.intercalate_cons_cons, List.append_assoc, List.singleton_append,
        pieces_append hc, hl, ht]
      rfl

theorem intercalate_pieces (mark : Char) (s : List Char) :
    [mark].intercalate (pieces (· == mark) s) = s := by
  induction s with
  | nil => rfl
  | cons x xs ih =>
    cases h : pieces (· == mark) xs with
    | nil => exact absurd h (pieces_ne_nil _ xs)
    | cons piece more =>
      rw [h] at ih
      by_cases hx : x = mark
      · simp [pieces, h, hx, List.intercalate_cons_cons, ih]
      · cases more with
        | nil => simpa [pieces, h, hx] using ih
        | cons next more => simpa [pieces, h, hx, List.intercalate_cons_cons] using ih

theorem cutAt_append {mark : Char} {s rest : List Char} (h : mark ∉ s) :
    cutAt mark (s ++ mark :: rest) = some (s, rest) := by
  induction s with
  | nil => simp [cutAt]
  | cons c s ih =>
    simp only [List.mem_cons, not_or] at h
    rw [List.cons_append, cutAt, if_neg (Ne.symm h.1), ih h.2]
    rfl

theorem cutAt_eq_none_iff {mark : Char} {s : List Char} : cutAt mark s = none ↔ mark ∉ s := by
  induction s with
  | nil => simp [cutAt]
  | cons c rest ih =>
    rw [cutAt, List.mem_cons, not_or]
    split
    · rename_i he
      simp [he]
    · rename_i hne
      simp [ih, Ne.symm hne]

theorem cutAt_eq_some_iff {mark : Char} {s a b : List Char} :
    cutAt mark s = some (a, b) ↔ s = a ++ mark :: b ∧ mark ∉ a := by
  constructor
  · intro h
    refine ⟨eq_append_of_cutAt h, ?_⟩
    induction s generalizing a with
    | nil => simp [cutAt] at h
    | cons c rest ih =>
      unfold cutAt at h
      split at h
      · obtain ⟨rfl, -⟩ := by simpa using h
        exact List.not_mem_nil
      · rename_i hne
        simp only [Option.map_eq_some_iff, Prod.exists, Prod.mk.injEq] at h
        obtain ⟨a', b', hrest, rfl, rfl⟩ := h
        simp [Ne.symm hne, ih hrest]
  · rintro ⟨rfl, h⟩
    exact cutAt_append h

end CommandGen.Text
