import CommandGen.Source.Literal
import CommandGen.Text.Quoted
import Mathlib.Data.Nat.Digits.Defs
import Mathlib.Tactic.SplitIfs

/-! A quoted text is a string literal that reads back as the text: every escape is undone, and only
the closing quote ends the literal. -/
namespace CommandGen.Source

open Text

variable {c : Char} {s rest : List Char}

theorem hexValue?_digitChar : ∀ d < 16, hexValue? (Nat.digitChar d) = some d := by decide

theorem bracedNumber_hexNumber (n : ℕ) : ∀ {digits value : ℕ} {rest : List Char},
    digits + (hexNumber n).length ≤ 6 → bracedNumber digits value (hexNumber n ++ rest) =
      (bracedNumber (digits + (hexNumber n).length) (value * 16 ^ (hexNumber n).length + n) rest).map
        fun (v, w) => (v, w + (hexNumber n).length) := by
  unfold hexNumber
  induction n using Nat.strongRecOn with
  | ind n ih =>
    intro digits value rest hlen
    rw [Nat.toDigits_eq_if (by decide)] at hlen ⊢
    split_ifs at hlen ⊢ with hn
    · have hroom : digits ≠ 6 := by simp at hlen; omega
      simp [bracedNumber, hexValue?_digitChar n hn, hroom]
    · simp only [List.length_append, List.length_singleton] at hlen ⊢
      have hroom : digits + (Nat.toDigits 16 (n / 16)).length ≠ 6 := by omega
      rw [List.append_assoc, ih (n / 16) (by omega) (by omega), List.singleton_append, bracedNumber]
      simp only [hexValue?_digitChar _ (Nat.mod_lt n (by decide : 0 < 16)),
        if_neg hroom, Option.map_map]
      congr 1
      · funext v
        simp only [Function.comp_apply, Prod.mk.injEq, true_and]
        omega
      · congr 1
        have hdiv := Nat.div_add_mod n 16
        rw [Nat.pow_succ]
        grind

theorem length_hexNumber_toNat (c : Char) : (hexNumber c.toNat).length ≤ 6 := by
  have hlt : c.toNat < 0x110000 := by
    rcases c.valid with h | h
    · exact Nat.lt_trans h (by decide)
    · exact h.2
  exact Nat.toDigits_length 16 c.toNat 6 (by decide) (Nat.lt_trans hlt (by decide))

theorem length_hexNumber_pos (n : ℕ) : 0 < (hexNumber n).length := by
  unfold hexNumber
  rw [Nat.toDigits_eq_if (by decide)]
  split_ifs <;> simp

theorem charOfNumber?_toNat (c : Char) : charOfNumber? c.toNat = some c := by
  have hvalid : c.toNat.isValidChar := c.valid
  rw [charOfNumber?, dif_pos hvalid]
  rfl

theorem escape_cases (c : Char) :
    (escape c = [c] ∧ c ≠ '"' ∧ c ≠ '\\' ∧ c ≠ '\r' ∧ c ≠ '\n') ∨
      ∃ e, escape c = '\\' :: e ∧
        ∀ rest, stringEscape .text (e ++ rest) = some ([c], e.length) := by
  unfold escape
  split_ifs with hnull htab hreturn hfeed hquote hslash hvisible
  · exact .inr ⟨_, rfl, fun _ => by rw [hnull]; rfl⟩
  · exact .inr ⟨_, rfl, fun _ => by rw [htab]; rfl⟩
  · exact .inr ⟨_, rfl, fun _ => by rw [hreturn]; rfl⟩
  · exact .inr ⟨_, rfl, fun _ => by rw [hfeed]; rfl⟩
  · exact .inr ⟨_, rfl, fun _ => by rw [hquote]; rfl⟩
  · exact .inr ⟨_, rfl, fun _ => by rw [hslash]; rfl⟩
  · exact .inl ⟨rfl, hquote, hslash, hreturn, hfeed⟩
  · refine .inr ⟨'u' :: '\x7b' :: (hexNumber c.toNat ++ ['\x7d']), by simp, fun rest => ?_⟩
    have hnumber : bracedNumber 0 0 (hexNumber c.toNat ++ '\x7d' :: rest) =
        some (c.toNat, 1 + (hexNumber c.toNat).length) := by
      rw [bracedNumber_hexNumber _ (by simpa using length_hexNumber_toNat c)]
      have hdigits : (hexNumber c.toNat).length ≠ 0 := Nat.ne_of_gt (length_hexNumber_pos _)
      simp [bracedNumber, hexValue?, hdigits]
    simp [stringEscape, charEscape, hnumber, charOfNumber?_toNat]
    omega

theorem stringRestWidth_skip (q : Quoting) (s rest : List Char) :
    stringRestWidth q s.length (s ++ rest) = (stringRestWidth q 0 rest).map (· + s.length) := by
  induction s with
  | nil => simp
  | cons c s ih => simp [stringRestWidth, ih, Function.comp_def, Nat.add_assoc]

theorem stringValueFrom_skip (s rest : List Char) :
    stringValueFrom s.length (s ++ rest) = stringValueFrom 0 rest := by
  induction s with
  | nil => rfl
  | cons c s ih => exact ih

/-- Between the quotes of a literal these characters stand for a text, whatever comes after them. -/
structure StandsFor (body text : List Char) : Prop where
  width (rest : List Char) :
    stringRestWidth .text 0 (body ++ rest) = (stringRestWidth .text 0 rest).map (· + body.length)
  value (rest : List Char) : stringValueFrom 0 (body ++ rest) = text ++ stringValueFrom 0 rest

variable {body more text : List Char}

theorem standsFor_nil : StandsFor [] [] where
  width rest := by simp
  value rest := rfl

theorem StandsFor.append (h : StandsFor body text) (hmore : StandsFor more s) :
    StandsFor (body ++ more) (text ++ s) where
  width rest := by
    rw [List.append_assoc, h.width, hmore.width, Option.map_map, List.length_append]
    congr 1
    funext w
    simp only [Function.comp_apply]
    omega
  value rest := by rw [List.append_assoc, h.value, hmore.value, List.append_assoc]

theorem standsFor_flatMap {f g : Char → List Char} (h : ∀ c ∈ s, StandsFor (f c) (g c)) :
    StandsFor (s.flatMap f) (s.flatMap g) := by
  induction s with
  | nil => exact standsFor_nil
  | cons c s ih =>
    rw [List.flatMap_cons, List.flatMap_cons]
    exact (h c List.mem_cons_self).append (ih fun d hd => h d (List.mem_cons_of_mem _ hd))

theorem standsFor_single (hquote : c ≠ '"') (hslash : c ≠ '\\') (hreturn : c ≠ '\r') :
    StandsFor [c] [c] where
  width rest := by
    rw [List.singleton_append, stringRestWidth.eq_6] <;> simp_all [Quoting.admits]
  value rest := by
    rw [List.singleton_append, stringValueFrom.eq_6] <;> simp_all

def isVerbatim (c : Char) : Bool := c != '"' && c != '\\' && c != '\r'

theorem standsFor_self (h : s.all isVerbatim = true) : StandsFor s s := by
  have hsingle : StandsFor (s.flatMap fun c => [c]) (s.flatMap fun c => [c]) := by
    refine standsFor_flatMap fun c hc => ?_
    obtain ⟨⟨hquote, hslash⟩, hreturn⟩ : (c ≠ '"' ∧ c ≠ '\\') ∧ c ≠ '\r' := by
      simpa [isVerbatim] using List.all_eq_true.mp h c hc
    exact standsFor_single hquote hslash hreturn
  simpa using hsingle

theorem standsFor_escape (c : Char) : StandsFor (escape c) [c] := by
  rcases escape_cases c with ⟨he, hquote, hslash, hreturn, -⟩ | ⟨e, he, hread⟩
  · rw [he]
    exact standsFor_single hquote hslash hreturn
  · rw [he]
    refine ⟨fun rest => ?_, fun rest => ?_⟩
    · rw [List.cons_append, stringRestWidth, hread]
      simp [stringRestWidth_skip, Function.comp_def, Nat.add_assoc]
    · rw [List.cons_append, stringValueFrom, hread]
      simp [stringValueFrom_skip]

theorem standsFor_flatMap_escape (s : List Char) : StandsFor (s.flatMap escape) s := by
  have hescape : StandsFor (s.flatMap escape) (s.flatMap fun c => [c]) :=
    standsFor_flatMap fun c _ => standsFor_escape c
  simpa using hescape

/-- Between quotes, the characters are a literal with the text as its value; an identifier that
follows at once is taken for its suffix. -/
theorem StandsFor.stringLiteral (h : StandsFor body text) (rest : List Char) :
    stringLiteral ('"' :: (body ++ '"' :: rest)) =
      some (.string (String.ofList text), body.length + 2 + suffixWidth rest) := by
  have hwidth : stringRestWidth .text 0 (body ++ '"' :: rest) = some (body.length + 1) := by
    rw [h.width, stringRestWidth, Option.map_some, Nat.add_comm]
  have hvalue : stringValueFrom 0 (body ++ '"' :: rest) = text := by
    rw [h.value, stringValueFrom, List.append_nil]
  have hrest : (body ++ '"' :: rest).drop (body.length + 1) = rest := by
    rw [List.drop_append]
    simp
  rw [Source.stringLiteral, hwidth, hvalue, Option.map_some, withSuffix, hrest]
  simp only [Option.some.injEq, Prod.mk.injEq, true_and]
  omega

theorem stringLiteral_quote (s rest : List Char) :
    stringLiteral (quote s ++ rest) =
      some (.string (String.ofList s), (quote s).length + suffixWidth rest) := by
  have hsplit : quote s ++ rest = '"' :: (s.flatMap escape ++ '"' :: rest) := by simp [quote]
  have hlen : (quote s).length = (s.flatMap escape).length + 2 := by simp [quote]
  rw [hsplit, (standsFor_flatMap_escape s).stringLiteral, hlen]

theorem suffixWidth_eq_zero_iff :
    suffixWidth rest = 0 ↔ rest.head?.any isIdentifierStart = false := by
  cases rest with
  | nil => exact ⟨fun _ => rfl, fun _ => rfl⟩
  | cons c rest =>
    by_cases h : isIdentifierStart c = true <;> simp [suffixWidth, plainIdentifierWidth, h]

end CommandGen.Source
