import CommandGen.Text.Quoted
import Mathlib.Data.Nat.Notation
import Mathlib.Tactic.SplitIfs

/-! What a line of code says outside its string literals. No text ends the literal that it is quoted
in, or the line that it is quoted on. -/
namespace CommandGen.Text

/-- The part of a line that is outside its string literals; the line may start inside one. A
character after a backslash does not end a literal. -/
def bare : Bool → List Char → List Char
  | _, [] => []
  | false, c :: rest => if c = '"' then bare true rest else c :: bare false rest
  | true, '\\' :: _ :: rest => bare true rest
  | true, c :: rest => bare (c ≠ '"') rest

variable {s rest : List Char} {c : Char}

theorem bare_open : bare false ('"' :: rest) = bare true rest := by simp [bare]

theorem bare_close : bare true ('"' :: rest) = bare false rest := by simp [bare]

theorem bare_outside (h : '"' ∉ s) : bare false (s ++ rest) = s ++ bare false rest := by
  induction s with
  | nil => rfl
  | cons c s ih =>
    obtain ⟨hc, hs⟩ := not_or.mp (mt List.mem_cons.mpr h)
    simp [bare, Ne.symm hc, ih hs]

theorem bare_inside (h : ∀ c ∈ s, c ≠ '"' ∧ c ≠ '\\') : bare true (s ++ rest) = bare true rest := by
  induction s with
  | nil => rfl
  | cons c s ih =>
    obtain ⟨⟨hquote, hslash⟩, hs⟩ := List.forall_mem_cons.mp h
    rw [List.cons_append, bare]
    · simp [hquote, ih hs]
    · intro d more he
      exact absurd he hslash

theorem forall_mem_hexNumber {p : Char → Prop} (h : ∀ d < 16, p (Nat.digitChar d)) (n : ℕ) :
    ∀ c ∈ hexNumber n, p c := by
  unfold hexNumber
  induction n using Nat.strongRecOn with
  | ind n ih =>
    rw [Nat.toDigits_eq_if (by decide)]
    split_ifs with hn
    · simpa using h n hn
    · rw [List.forall_mem_append, List.forall_mem_singleton]
      exact ⟨ih _ (by omega), h _ (by omega)⟩

theorem hexNumber_plain (n : ℕ) : ∀ c ∈ hexNumber n, c ≠ '"' ∧ c ≠ '\\' :=
  forall_mem_hexNumber (by decide) n

theorem bare_escape (c : Char) (rest : List Char) :
    bare true (escape c ++ rest) = bare true rest := by
  unfold escape
  split_ifs with _ _ _ _ hquote hslash
  any_goals rfl
  · exact bare_inside (by simp [hquote, hslash])
  · have hclosing :
        bare true (hexNumber c.toNat ++ ('\x7d' :: rest)) = bare true ('\x7d' :: rest) :=
      bare_inside (hexNumber_plain _)
    simpa [bare] using hclosing

theorem bare_flatMap_escape (s rest : List Char) :
    bare true (s.flatMap escape ++ rest) = bare true rest := by
  induction s with
  | nil => rfl
  | cons c s ih => rw [List.flatMap_cons, List.append_assoc, bare_escape, ih]

theorem bare_quote (s rest : List Char) : bare false (quote s ++ rest) = bare false rest := by
  unfold quote
  rw [List.cons_append, List.append_assoc, bare_open, bare_flatMap_escape,
    List.singleton_append, bare_close]

theorem bare_templateText (s rest : List Char) :
    bare true (templateText s ++ rest) = bare true rest :=
  bare_flatMap_escape _ _

theorem escape_oneLine (c : Char) : ∀ d ∈ escape c, d ≠ '\n' ∧ d ≠ '\r' := by
  have hdigits : ∀ d ∈ hexNumber c.toNat, d ≠ '\n' ∧ d ≠ '\r' := forall_mem_hexNumber (by decide) _
  unfold escape
  split_ifs with _ _ hreturn hfeed
  any_goals simp
  · exact ⟨hfeed, hreturn⟩
  · rintro d (hd | rfl)
    · exact hdigits d hd
    · decide

theorem quote_oneLine (s : List Char) : ∀ c ∈ quote s, c ≠ '\n' ∧ c ≠ '\r' := by
  have hbody : ∀ c ∈ s.flatMap escape, c ≠ '\n' ∧ c ≠ '\r' := by
    intro c hc
    obtain ⟨d, -, hd⟩ := List.mem_flatMap.mp hc
    exact escape_oneLine d c hd
  rw [quote, List.forall_mem_cons, List.forall_mem_append, List.forall_mem_singleton]
  exact ⟨by decide, hbody, by decide⟩

end CommandGen.Text
