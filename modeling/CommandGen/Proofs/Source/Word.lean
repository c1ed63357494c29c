import CommandGen.Source.Token
import Mathlib.Data.List.Basic
import Mathlib.Data.List.TakeWhile
import Mathlib.Tactic.SplitIfs

/-! What is read as a word: a text that an identifier takes all of, up to a character that ends
it. -/
namespace CommandGen.Source

open Text

/-- A text that an identifier takes all of, and that starts no literal. -/
def isWord (s : List Char) : Bool :=
  identifierWidth s == some s.length && !literalStarts.any (·.isPrefixOf s)

def continuesWord (c : Char) : Bool := isIdentifierContinue c || ['"', '#', '\''].contains c

variable {s rest : List Char} {c : Char}

theorem mem_of_covers :
    ∀ {ranges : Ranges} {n : ℕ}, ranges.covers n = true → ∃ r ∈ ranges, r.1 ≤ n ∧ n ≤ r.2
  | (first, last) :: rest, n, h => by
    simp only [Ranges.covers, Bool.and_eq_true, Bool.or_eq_true, decide_eq_true_eq] at h
    obtain ⟨hfirst, hlast | hrest⟩ := h
    · exact ⟨_, List.mem_cons_self, hfirst, hlast⟩
    · obtain ⟨r, hr, hin⟩ := mem_of_covers hrest
      exact ⟨r, List.mem_cons_of_mem _ hr, hin⟩

theorem isIdentifierStart_eq_false {first last : ℕ}
    (hall : ∀ k < last - first + 1, isIdentifierStart (Char.ofNat (first + k)) = false)
    (hfirst : first ≤ c.toNat)
    (hlast : c.toNat ≤ last) : isIdentifierStart c = false := by
  have hk := hall (c.toNat - first) (by omega)
  rwa [Nat.add_sub_cancel' hfirst, Char.ofNat_toNat] at hk

/-- What holds of the blanks in the ranges and of the direction marks holds of every blank. -/
theorem forall_isBlank {P : Char → Prop}
    (hranges : ∀ r ∈ blankRanges, ∀ k < r.2 - r.1 + 1, P (Char.ofNat (r.1 + k)))
    (hleft : P '\u200e') (hright : P '\u200f') (h : isBlank c = true) : P c := by
  simp only [isBlank, Bool.or_eq_true, beq_iff_eq] at h
  rcases h with (hcovers | rfl) | rfl
  · obtain ⟨r, hr, hfirst, hlast⟩ := mem_of_covers hcovers
    have hk := hranges r hr (c.toNat - r.1) (by omega)
    rwa [Nat.add_sub_cancel' hfirst, Char.ofNat_toNat] at hk
  · exact hleft
  · exact hright

theorem isBlank_of_start (h : isIdentifierStart c = true) : isBlank c = false := by
  refine Bool.eq_false_iff.mpr fun hblank => ?_
  have hfalse : isIdentifierStart c = false :=
    forall_isBlank (P := fun c => isIdentifierStart c = false) (by decide +kernel) (by decide +kernel)
      (by decide +kernel) hblank
  exact Bool.noConfusion (h.symm.trans hfalse)

theorem continuesWord_of_isBlank (h : isBlank c = true) : continuesWord c = false :=
  forall_isBlank (P := fun c => continuesWord c = false) (by decide +kernel)
    (by decide +kernel) (by decide +kernel) h

theorem isDigit_of_start (h : isIdentifierStart c = true) : c.isDigit = false := by
  refine Bool.eq_false_iff.mpr fun hdigit => ?_
  obtain ⟨hfirst, hlast⟩ : 48 ≤ c.toNat ∧ c.toNat ≤ 57 := by
    simpa [Char.isDigit, UInt32.le_iff_toNat_le] using hdigit
  exact Bool.noConfusion (h.symm.trans (isIdentifierStart_eq_false (by decide) hfirst hlast))

def otherStarts : List Char := "~!@#$%^&*-=+|;:,<.>/?'\"()[]\x7b\x7d0123456789".toList

theorem not_mem_otherStarts (h : isIdentifierStart c = true) : c ∉ otherStarts := by
  have hall : otherStarts.all (!isIdentifierStart ·) = true := by decide
  intro hmem
  simpa [h] using List.all_eq_true.mp hall c hmem

theorem docComment?_eq_none (h : c ≠ '/') : docComment? (c :: s) = none := by
  simp [docComment?, h]

theorem triviaWidth_eq_none (hblank : isBlank c = false) (h : c ≠ '/') :
    triviaWidth (c :: s) = none := by
  simp [triviaWidth, hblank, commentWidth, h]

theorem triviaWidth_of_start (h : isIdentifierStart c = true) : triviaWidth (c :: s) = none := by
  refine triviaWidth_eq_none (isBlank_of_start h) ?_
  rintro rfl
  exact absurd h (by decide)

theorem delimiterAt_eq_none (h : c ∉ "()[]\x7b\x7d".toList) : delimiterAt c = none := by
  unfold delimiterAt
  split <;> simp_all

theorem not_fault (h : c ≠ '(' ∨ s.head? ≠ some '/') :
    faultLiteral.isPrefixOf (c :: s) = false := by
  refine Bool.eq_false_iff.mpr fun hpre => ?_
  obtain ⟨rest, he⟩ := List.isPrefixOf_iff_prefix.mp hpre
  have hstart : '(' :: '/' :: ("*ERROR*/)".toList ++ rest) = c :: s := he
  obtain ⟨rfl, rfl⟩ := List.cons.inj hstart
  simp at h

theorem hexValue?_of_not_isDigit {d : ℕ} (hc : c.isDigit = false) (h : hexValue? c = some d) :
    10 ≤ d := by
  unfold hexValue? at h
  split_ifs at h <;> simp_all <;> omega

theorem numberLiteral_eq_none (h : c.isDigit = false) : numberLiteral (c :: s) = none := by
  have hzero : c ≠ '0' := by
    rintro rfl
    cases h
  have hbase : numberBase (c :: s) = (10, 0) := by
    unfold numberBase
    split <;> simp_all
  have hdigits : digitsWidth 10 true (c :: s) = none := by
    rw [digitsWidth]
    split
    · rename_i d hd
      simp [Nat.not_lt.mpr (hexValue?_of_not_isDigit h hd), h]
    · simp
  simp [numberLiteral, floatWidth, integerWidths, h, hbase, hdigits]

theorem rawWidth_eq_none {q : Quoting} (hquote : s.head? ≠ some '"')
    (hhash : ∀ d rest, s = '#' :: d :: rest → d ≠ '"' ∧ d ≠ '#') : rawWidth q s = none := by
  cases s with
  | nil => rfl
  | cons c rest =>
    by_cases hc : c = '#'
    · subst hc
      cases rest with
      | nil => rfl
      | cons d rest =>
        obtain ⟨hd, hd'⟩ := hhash d rest rfl
        simp [rawWidth, hd, hd']
    · have hc' : c ≠ '"' := by simpa using hquote
      simp [rawWidth, hc, hc']

section

variable (hstarts : ∀ p ∈ literalStarts, ¬p <+: s)

include hstarts

theorem rawWidth_eq_none_of_starts {q : Quoting} (p : String) (he : s = p.toList ++ rest)
    (hquote : (p ++ "\"").toList ∈ literalStarts) (hhash : (p ++ "#").toList ∈ literalStarts) :
    rawWidth q rest = none := by
  refine rawWidth_eq_none (fun hhead => ?_) ?_
  · obtain ⟨more, rfl⟩ := List.head?_eq_some_iff.mp hhead
    exact hstarts _ hquote ⟨more, by simp [he]⟩
  · rintro d more rfl
    exact absurd ⟨d :: more, by simp [he]⟩ (hstarts _ hhash)

theorem stringLiteral_eq_none (hquote : s.head? ≠ some '"') : stringLiteral s = none := by
  unfold stringLiteral
  split
  · simp at hquote
  · -- A hash alone is not enough here: a name can follow it.
    rename_i rest
    rw [rawWidth_eq_none, Option.map_none]
    · intro hhead
      obtain ⟨more, rfl⟩ := List.head?_eq_some_iff.mp hhead
      exact hstarts "r\"".toList (by decide) ⟨more, rfl⟩
    · rintro d more rfl
      exact ⟨fun hd => hstarts "r#\"".toList (by decide) ⟨more, by simp [hd]⟩,
        fun hd => hstarts "r##".toList (by decide) ⟨more, by simp [hd]⟩⟩
  · rfl

theorem quotedLiteral_eq_none (hquote : s.head? ≠ some '\'') : quotedLiteral s = none := by
  unfold quotedLiteral
  split
  · rename_i rest
    exact (hstarts "b\"".toList (by decide) ⟨rest, rfl⟩).elim
  · rename_i rest
    rw [rawWidth_eq_none_of_starts hstarts "br" rfl (by decide) (by decide)]
    rfl
  · rename_i rest
    exact (hstarts "c\"".toList (by decide) ⟨rest, rfl⟩).elim
  · rename_i rest
    rw [rawWidth_eq_none_of_starts hstarts "cr" rfl (by decide) (by decide)]
    rfl
  · rename_i rest
    exact (hstarts "b'".toList (by decide) ⟨rest, rfl⟩).elim
  · simp at hquote
  · rfl

end

/-- Where neither a quote nor a digit stands, and nothing that starts a literal, there is no
literal. -/
theorem literal?_eq_none (h : c ∉ ['"', '\'']) (hdigit : c.isDigit = false)
    (hstarts : ∀ p ∈ literalStarts, ¬p <+: c :: s) : literal? (c :: s) = none := by
  simp only [List.mem_cons, List.not_mem_nil, or_false, not_or] at h
  rw [literal?, stringLiteral_eq_none hstarts (by simpa using h.1),
    quotedLiteral_eq_none hstarts (by simpa using h.2), numberLiteral_eq_none hdigit]
  rfl

theorem plainIdentifierWidth_append (h : plainIdentifierWidth s = some s.length)
    (hrest : rest.head?.any isIdentifierContinue = false) :
    plainIdentifierWidth (s ++ rest) = some s.length := by
  cases s with
  | nil => simp [plainIdentifierWidth] at h
  | cons c s =>
    rw [plainIdentifierWidth] at h
    split_ifs at h with hstart
    have hlen : (s.takeWhile isIdentifierContinue).length = s.length := by
      simp only [Option.some.injEq, List.length_cons] at h
      omega
    have hstop : rest.takeWhile isIdentifierContinue = [] := by
      cases rest with
      | nil => rfl
      | cons d rest => exact List.takeWhile_cons_of_neg (by simpa using hrest)
    rw [List.cons_append, plainIdentifierWidth, if_pos hstart,
      List.takeWhile_append, if_pos hlen, hstop]
    simp [Nat.add_comm]

theorem identifierWidth_append (h : identifierWidth s = some s.length)
    (hrest : rest.head?.any continuesWord = false) :
    identifierWidth (s ++ rest) = some s.length := by
  have hplain : rest.head?.any isIdentifierContinue = false := by
    cases rest with
    | nil => rfl
    | cons d rest => simpa using (Bool.or_eq_false_iff.mp hrest).1
  by_cases hraw : ∃ name, s = 'r' :: '#' :: name
  · obtain ⟨name, rfl⟩ := hraw
    rw [identifierWidth] at h
    split at h
    · rename_i w hw
      split_ifs at h with hname
      obtain rfl : w = name.length := by simpa using h
      rw [List.take_length] at hname
      rw [List.cons_append, List.cons_append, identifierWidth,
        plainIdentifierWidth_append hw hplain]
      simpa using hname
    · cases h
  · rw [identifierWidth.eq_2 _ fun name he => hraw ⟨name, he⟩] at h
    rw [identifierWidth.eq_2, plainIdentifierWidth_append h hplain]
    intro name he
    match s with
    | [] => cases h
    | ['r'] =>
      obtain ⟨-, rfl⟩ : 'r' = 'r' ∧ rest = '#' :: name := by simpa using he
      exact absurd hrest (by simp [continuesWord])
    | _ :: _ :: s => exact hraw ⟨s, by simp_all⟩

theorem not_prefix_append (h : ∀ p ∈ literalStarts, ¬p <+: s) (hs : s ≠ [])
    (hrest : rest.head?.any continuesWord = false) : ∀ p ∈ literalStarts, ¬p <+: s ++ rest := by
  intro p hp hpre
  rcases List.prefix_or_prefix_of_prefix hpre (List.prefix_append s rest) with hin | ⟨more, rfl⟩
  · exact h p hp hin
  · obtain ⟨after, rfl⟩ := (List.prefix_append_right_inj s).mp hpre
    cases more with
    | nil => exact h _ hp (by simp)
    | cons d more =>
      have hends : literalStarts.all (·.tail.all continuesWord) = true := by decide
      have hd : d ∈ (s ++ d :: more).tail := by
        rw [List.tail_append_of_ne_nil hs]
        simp
      exact Bool.noConfusion (hrest.symm.trans
        (by simpa using List.all_eq_true.mp (List.all_eq_true.mp hends _ hp) d hd))

theorem start_of_identifierWidth {n : ℕ} (h : identifierWidth s = some n) :
    ∃ c rest, s = c :: rest ∧ isIdentifierStart c = true := by
  by_cases hraw : ∃ name, s = 'r' :: '#' :: name
  · obtain ⟨name, rfl⟩ := hraw
    exact ⟨'r', _, rfl, by decide⟩
  · rw [identifierWidth.eq_2 _ fun name he => hraw ⟨name, he⟩] at h
    cases s with
    | nil => cases h
    | cons c s =>
      rw [plainIdentifierWidth] at h
      split_ifs at h with hstart
      exact ⟨c, s, rfl, hstart⟩

theorem tokenAt_eq_word {n : ℕ} (h : identifierWidth s = some n)
    (hstarts : ∀ p ∈ literalStarts, ¬p <+: s) :
    triviaWidth s = none ∧ tokenAt s = some (.word (String.ofList (s.take n)), n) := by
  obtain ⟨c, s, rfl, hstart⟩ := start_of_identifierWidth h
  have hother (known : List Char) (hin : known.all otherStarts.contains = true) : c ∉ known :=
    fun hmem => not_mem_otherStarts hstart (List.contains_iff_mem.mp (List.all_eq_true.mp hin c hmem))
  have hslash : c ≠ '/' := by simpa using hother ['/'] (by decide)
  have hparen : c ≠ '(' := by simpa using hother ['('] (by decide)
  have hmark : markAt (c :: s) = none := by
    have hin := hother "~!@#$%^&*-=+|;:,<.>/?'".toList (by decide)
    rw [markAt.eq_3 _ _ (by simp [hslash]) (by simp [hslash]), if_neg (by simpa using hin)]
  have hdelimiter : delimiterAt c = none := delimiterAt_eq_none (hother _ (by decide))
  have hquotes := hother ['"', '\''] (by decide)
  have hword : wordAt (c :: s) = some (.word (String.ofList ((c :: s).take n)), n) := by
    have hnone : literalStarts.any (·.isPrefixOf (c :: s)) = false := by
      simpa [List.any_eq_false, List.isPrefixOf_iff_prefix] using hstarts
    rw [wordAt, hnone, h]
    rfl
  refine ⟨triviaWidth_eq_none (isBlank_of_start hstart) hslash, ?_⟩
  simp [tokenAt, docComment?_eq_none hslash, not_fault (.inl hparen), hdelimiter,
    literal?_eq_none hquotes (isDigit_of_start hstart) hstarts, punctuationAt, hmark, hword]

theorem tokenAt_word (h : isWord s = true) (hrest : rest.head?.any continuesWord = false) :
    triviaWidth (s ++ rest) = none ∧
      tokenAt (s ++ rest) = some (.word (String.ofList s), s.length) := by
  simp only [isWord, Bool.and_eq_true, beq_iff_eq, Bool.not_eq_true', List.any_eq_false,
    List.isPrefixOf_iff_prefix] at h
  obtain ⟨hwidth, hstarts⟩ := h
  have hs : s ≠ [] := by
    rintro rfl
    cases hwidth
  have hread :=
    tokenAt_eq_word (identifierWidth_append hwidth hrest) (not_prefix_append hstarts hs hrest)
  rwa [List.take_left'] at hread
  rfl

theorem plainIdentifierWidth_eq (hc : isIdentifierStart c = true)
    (hs : s.all isIdentifierContinue = true) :
    plainIdentifierWidth (c :: s) = some (c :: s).length := by
  have htake : s.takeWhile isIdentifierContinue = s := by
    rw [List.takeWhile_eq_self_iff]
    exact List.all_eq_true.mp hs
  rw [plainIdentifierWidth, if_pos hc, htake, List.length_cons, Nat.add_comm]

theorem isWord_plain (hc : isIdentifierStart c = true) (hs : s.all isIdentifierContinue = true) :
    isWord (c :: s) = true := by
  have hall : ∀ d ∈ c :: s, isIdentifierContinue d = true :=
    List.forall_mem_cons.mpr ⟨isIdentifierContinue_of_start hc, List.all_eq_true.mp hs⟩
  have hwidth : identifierWidth (c :: s) = some (c :: s).length := by
    rw [identifierWidth.eq_2, plainIdentifierWidth_eq hc hs]
    intro name he
    exact absurd (hall '#' (by simp [he])) (by decide)
  have hother : literalStarts.all (·.any (!isIdentifierContinue ·)) = true := by decide
  have hstarts : literalStarts.any (·.isPrefixOf (c :: s)) = false := by
    refine List.any_eq_false.mpr fun p hp hpre => ?_
    obtain ⟨d, hd, hnot⟩ := List.any_eq_true.mp (List.all_eq_true.mp hother p hp)
    have hin := hall d ((List.isPrefixOf_iff_prefix.mp hpre).subset hd)
    simp [hin] at hnot
  simp [isWord, hwidth, hstarts]

theorem isWord_raw (hc : isIdentifierStart c = true) (hs : s.all isIdentifierContinue = true)
    (hunraw : c :: s ∉ unraw) : isWord ('r' :: '#' :: c :: s) = true := by
  have hwidth : identifierWidth ('r' :: '#' :: c :: s) = some ('r' :: '#' :: c :: s).length := by
    rw [identifierWidth, plainIdentifierWidth_eq hc hs]
    simpa using hunraw
  have hquote : c ≠ '"' := by
    rintro rfl
    exact absurd hc (by decide)
  have hhash : c ≠ '#' := by
    rintro rfl
    exact absurd hc (by decide)
  have hstarts : literalStarts.any (·.isPrefixOf ('r' :: '#' :: c :: s)) = false := by
    simp [literalStarts, List.isPrefixOf, hquote.symm, hhash.symm]
  simp [isWord, hwidth, hstarts]

theorem identifierWidth_of_unraw (hc : isIdentifierStart c = true)
    (hs : s.all isIdentifierContinue = true) (hunraw : c :: s ∈ unraw)
    (hrest : rest.head?.any isIdentifierContinue = false) :
    identifierWidth ('r' :: '#' :: (c :: s ++ rest)) = none := by
  rw [identifierWidth, plainIdentifierWidth_append (plainIdentifierWidth_eq hc hs) hrest]
  simpa using hunraw

theorem isWord_cases (h : isWord s = true) :
    (∃ c t, s = c :: t ∧ isIdentifierStart c = true ∧ t.all isIdentifierContinue = true) ∨
    ∃ c t, s = 'r' :: '#' :: c :: t ∧ isIdentifierStart c = true ∧
      t.all isIdentifierContinue = true ∧
      c :: t ∉ unraw := by
  have hplain {s : List Char} (h : plainIdentifierWidth s = some s.length) :
      ∃ c t, s = c :: t ∧ isIdentifierStart c = true ∧ t.all isIdentifierContinue = true := by
    cases s with
    | nil => cases h
    | cons c t =>
      rw [plainIdentifierWidth] at h
      split_ifs at h with hc
      have hlength : (t.takeWhile isIdentifierContinue).length = t.length := by
        simpa [Nat.add_comm] using h
      have hall := (List.takeWhile_prefix isIdentifierContinue).eq_of_length hlength
      exact ⟨c, t, rfl, hc, List.all_eq_true.mpr (List.takeWhile_eq_self_iff.mp hall)⟩
  have hwidth : identifierWidth s = some s.length := beq_iff_eq.mp (Bool.and_eq_true_iff.mp h).1
  by_cases hraw : ∃ name, s = 'r' :: '#' :: name
  · obtain ⟨name, rfl⟩ := hraw
    rw [identifierWidth] at hwidth
    split at hwidth
    · rename_i n hn
      split_ifs at hwidth with hunraw
      obtain rfl : n = name.length := by simpa using hwidth
      obtain ⟨c, t, rfl, hc, ht⟩ := hplain hn
      exact .inr ⟨c, t, rfl, hc, ht, by simpa using hunraw⟩
    · cases hwidth
  · rw [identifierWidth.eq_2 _ fun name he => hraw ⟨name, he⟩] at hwidth
    exact .inl (hplain hwidth)

theorem continuesWord_of_mem (h : isWord s = true) (hc : c ∈ s) : continuesWord c = true := by
  have hplain {d : Char} (hd : isIdentifierContinue d = true) : continuesWord d = true := by
    simp [continuesWord, hd]
  have hfirst : continuesWord 'r' = true ∧ continuesWord '#' = true := by decide
  obtain ⟨d, t, rfl, hd, ht⟩ | ⟨d, t, rfl, hd, ht, -⟩ := isWord_cases h
  · rcases List.mem_cons.mp hc with rfl | hc
    · exact hplain (isIdentifierContinue_of_start hd)
    · exact hplain (List.all_eq_true.mp ht c hc)
  · simp only [List.mem_cons] at hc
    rcases hc with rfl | rfl | rfl | hc
    · exact hfirst.1
    · exact hfirst.2
    · exact hplain (isIdentifierContinue_of_start hd)
    · exact hplain (List.all_eq_true.mp ht c hc)

end CommandGen.Source
