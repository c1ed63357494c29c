import CommandGen.Proofs.Source.Word
import CommandGen.Text.LetterCase

/-! What letter case makes of a character. The tables map the characters of identifiers to those of
identifiers, apart from the letters in circles, which no identifier has. -/
namespace CommandGen.Text

open Source (mem_of_covers)

variable {ranges : Ranges} {shifts : List Shift} {c : Char} {n : ℕ}

def Ranges.includes (ranges : Ranges) (first last : ℕ) : Bool :=
  ranges.any fun r => r.1.ble first && last.ble r.2

theorem Ranges.covers_of_mem (hs : ranges.Pairwise (·.1 ≤ ·.1)) {r : ℕ × ℕ}
    (hr : r ∈ ranges) (hfirst : r.1 ≤ n) (hlast : n ≤ r.2) : ranges.covers n = true := by
  induction ranges with
  | nil => cases hr
  | cons q rest ih =>
    obtain ⟨hq, hrest⟩ := List.pairwise_cons.mp hs
    rcases List.mem_cons.mp hr with rfl | hr
    · simp [covers, hfirst, hlast]
    · simp [covers, ih hrest hr, Nat.le_trans (hq r hr) hfirst]

theorem pairwise_identifierStartRanges : identifierStartRanges.Pairwise (·.1 ≤ ·.1) := by
  have hchain : (identifierStartRanges.map (·.1)).IsChain (· ≤ ·) := by decide +kernel
  exact List.pairwise_map.mp hchain.pairwise

theorem toNat_ofNat (h : n.isValidChar) : (Char.ofNat n).toNat = n := by
  rw [Char.ofNat, dif_pos h]
  rfl

theorem forall_basic {P : Char → Prop} (h : ∀ n < 0x80, P (Char.ofNat n)) (hc : c.toNat < 0x80) :
    P c := by
  have hof := h c.toNat hc
  rwa [Char.ofNat_toNat] at hof

theorem isIdentifierStart_ofNat (h : identifierStartRanges.covers n = true) :
    isIdentifierStart (Char.ofNat n) = true := by
  have hvalid : ∀ r ∈ identifierStartRanges, r.2 < 0xD800 ∨ 0xDFFF < r.1 ∧ r.2 < 0x110000 := by
    decide +kernel
  have hbasic : ∀ n < 0x80, identifierStartRanges.covers n = true →
      isIdentifierStart (Char.ofNat n) = true := by
    decide +kernel
  obtain ⟨r, hr, hfirst, hlast⟩ := mem_of_covers h
  have hn : n.isValidChar := by
    have := hvalid r hr
    unfold Nat.isValidChar
    omega
  by_cases hlow : n < 0x80
  · exact hbasic n hlow h
  · rw [isIdentifierStart, toNat_ofNat hn, if_neg hlow, h]

/-- The letters in circles: the only characters with a case that no identifier has. -/
def isCircled (c : Char) : Bool := 0x24B6 ≤ c.toNat && c.toNat ≤ 0x24E9

theorem isCircled_eq_false (h : isIdentifierContinue c = true) : isCircled c = false := by
  have hapart : ∀ ranges ∈ [identifierStartRanges, identifierExtendRanges], ranges.all fun r =>
      r.2.blt 0x24B6 || Nat.blt 0x24E9 r.1 := by decide +kernel
  have hout {ranges : Ranges} (hmem : ranges ∈ [identifierStartRanges, identifierExtendRanges])
      (hcovers : ranges.covers c.toNat = true) : isCircled c = false := by
    obtain ⟨r, hr, hfirst, hlast⟩ := mem_of_covers hcovers
    have hr := List.all_eq_true.mp (hapart ranges hmem) r hr
    simp only [Bool.or_eq_true, Nat.blt_eq] at hr
    simp only [isCircled, Bool.and_eq_false_iff, decide_eq_false_iff_not]
    omega
  unfold isIdentifierContinue at h
  split_ifs at h with hbasic
  · simp only [isCircled, Bool.and_eq_false_iff, decide_eq_false_iff_not]
    omega
  · rcases Bool.or_eq_true_iff.mp h with h | h
    · exact hout (by simp) h
    · exact hout (by simp) h

def Shift.target (s : Shift) (n : ℕ) : ℕ := ((n : Int) + s.distance).toNat

/-- All code points from the first to the last one of a shift are moved to starts of identifiers, or
each one that the shift covers is. -/
def Shift.givesStarts (s : Shift) : Bool :=
  identifierStartRanges.includes (s.target s.first) (s.target s.last) ||
    (List.range (s.last + 1 - s.first)).all fun k =>
      !s.covers (s.first + k) || identifierStartRanges.covers (s.target (s.first + k))

def Shift.staysCircled (s : Shift) : Bool :=
  0x24B6 ≤ s.first && s.last ≤ 0x24E9 && 0x24B6 ≤ s.target s.first && s.target s.last ≤ 0x24E9

theorem Shift.target_mono (s : Shift) {m n : ℕ} (h : m ≤ n) : s.target m ≤ s.target n := by
  unfold target
  omega

theorem Shift.covers_target {s : Shift} (h : s.givesStarts = true) (hn : s.covers n = true) :
    identifierStartRanges.covers (s.target n) = true := by
  obtain ⟨⟨hfirst, hlast⟩, -⟩ : (s.first ≤ n ∧ n ≤ s.last) ∧ (n - s.first) % s.step = 0 := by
    simpa [Run.covers] using hn
  rcases Bool.or_eq_true_iff.mp h with hrange | hpoints
  · obtain ⟨r, hr, hin⟩ := List.any_eq_true.mp hrange
    obtain ⟨hlow, hhigh⟩ : r.1 ≤ s.target s.first ∧ s.target s.last ≤ r.2 := by
      simpa using hin
    exact Ranges.covers_of_mem pairwise_identifierStartRanges hr
      (Nat.le_trans hlow (s.target_mono hfirst))
      (Nat.le_trans (s.target_mono hlast) hhigh)
  · have hpoint := List.all_eq_true.mp hpoints (n - s.first) (List.mem_range.mpr (by omega))
    rw [Nat.add_sub_cancel' hfirst] at hpoint
    simpa [hn] using hpoint

theorem shifted_cases
    (hall : shifts.all (fun s => s.staysCircled || s.givesStarts) = true) (c : Char) :
    shifted shifts c = c ∨ isIdentifierStart (shifted shifts c) = true ∨
      isCircled c = true ∧ isCircled (shifted shifts c) = true := by
  cases hfind : shifts.find? (·.covers c.toNat) with
  | none => exact .inl (by rw [shifted, hfind])
  | some s =>
    have hcovers : s.covers c.toNat = true := by simpa using List.find?_some hfind
    have htarget : shifted shifts c = Char.ofNat (s.target c.toNat) := by rw [shifted, hfind]; rfl
    have hs := List.all_eq_true.mp hall s (List.mem_of_find?_eq_some hfind)
    rw [htarget]
    rcases Bool.or_eq_true_iff.mp hs with hcircled | hstarts
    · obtain ⟨⟨hfirst, hlast⟩, -⟩ : (s.first ≤ c.toNat ∧ c.toNat ≤ s.last) ∧ _ % s.step = 0 := by
        simpa [Run.covers] using hcovers
      simp only [Shift.staysCircled, Bool.and_eq_true, decide_eq_true_eq] at hcircled
      have hlow := s.target_mono hfirst
      have hhigh := s.target_mono hlast
      have hvalid : (s.target c.toNat).isValidChar := by
        unfold Nat.isValidChar
        omega
      refine .inr (.inr ⟨?_, ?_⟩)
      · simp only [isCircled, Bool.and_eq_true, decide_eq_true_eq]
        omega
      · simp only [isCircled, toNat_ofNat hvalid, Bool.and_eq_true, decide_eq_true_eq]
        omega
    · exact .inr (.inl (isIdentifierStart_ofNat (Shift.covers_target hstarts hcovers)))

/-- What letter case makes of a character: the character itself, letters, or for a letter in a
circle another one. -/
inductive IsCaseOf (c : Char) : List Char → Prop
  | same : IsCaseOf c [c]
  | letters {d : Char} {rest : List Char} (hstart : isIdentifierStart d = true)
      (hrest : rest.all isIdentifierContinue = true) : IsCaseOf c (d :: rest)
  | circled {d : Char} (hc : isCircled c = true) (hd : isCircled d = true) : IsCaseOf c [d]

theorem isCaseOf_shifted (hall : shifts.all (fun s => s.staysCircled || s.givesStarts) = true) :
    IsCaseOf c [shifted shifts c] := by
  rcases shifted_cases hall c with he | hstart | ⟨hc, hd⟩
  · rw [he]
    exact .same
  · exact .letters hstart rfl
  · exact .circled hc hd

/-- The characters that a table gives for one are the spelling of a letter or begin with one. -/
def areLetters (codes : List ℕ) : Bool :=
  match codes.map Char.ofNat with
  | [] => false
  | d :: rest => isIdentifierStart d && rest.all isIdentifierContinue

theorem isCaseOf_expanded {codes : List ℕ} (h : areLetters codes = true) :
    IsCaseOf c (codes.map Char.ofNat) := by
  unfold areLetters at h
  split at h
  · cases h
  · rename_i d rest he
    obtain ⟨hstart, hrest⟩ := Bool.and_eq_true_iff.mp h
    rw [he]
    exact .letters hstart hrest

theorem isCaseOf_of_tables {basic : Char → Char} {expansions : List (ℕ × List ℕ)}
    (hbasic : ∀ n < 0x80,
    basic (Char.ofNat n) = Char.ofNat n ∨ isIdentifierStart (basic (Char.ofNat n)) = true)
    (hexpansions : expansions.all (fun e => areLetters e.2) = true)
    (hshifts : shifts.all (fun s => s.staysCircled || s.givesStarts) = true) (c : Char) :
    IsCaseOf c (if c.toNat < 0x80 then [basic c]
      else match expansions.lookup c.toNat with
        | some codes => codes.map Char.ofNat
        | none => [shifted shifts c]) := by
  split_ifs with hlow
  · have hc := forall_basic (P := fun c => basic c = c ∨ isIdentifierStart (basic c) = true) hbasic hlow
    rcases hc with hc | hc
    · rw [hc]
      exact .same
    · exact .letters hc rfl
  · split
    · rename_i codes hcodes
      obtain ⟨before, after, he, -⟩ := List.lookup_eq_some_iff.mp hcodes
      have hmem : (c.toNat, codes) ∈ expansions := by simp [he]
      exact isCaseOf_expanded (List.all_eq_true.mp hexpansions _ hmem)
    · exact isCaseOf_shifted hshifts

theorem isCaseOf_lowerOf (c : Char) : IsCaseOf c (lowerOf c) :=
  isCaseOf_of_tables (by decide +kernel) (by decide +kernel) (by decide +kernel) c

theorem isCaseOf_upperOf (c : Char) : IsCaseOf c (upperOf c) :=
  isCaseOf_of_tables (by decide +kernel) (by decide +kernel) (by decide +kernel) c

variable {cs : List Char} {d : Char}

theorem IsCaseOf.all_continue (h : IsCaseOf c cs) (hc : isIdentifierContinue c = true) :
    cs.all isIdentifierContinue = true := by
  cases h with
  | same => simp [hc]
  | letters hstart hrest => simp [isIdentifierContinue_of_start hstart, hrest]
  | circled hcircled => exact absurd (isCircled_eq_false hc) (by simp [hcircled])

theorem IsCaseOf.exists_start (h : IsCaseOf c cs) (hc : isIdentifierStart c = true) :
    ∃ d rest, cs = d :: rest ∧ isIdentifierStart d = true ∧
      rest.all isIdentifierContinue = true := by
  cases h with
  | same => exact ⟨c, [], rfl, hc, rfl⟩
  | letters hstart hrest => exact ⟨_, _, rfl, hstart, hrest⟩
  | circled hcircled =>
    exact absurd (isCircled_eq_false (isIdentifierContinue_of_start hc)) (by simp [hcircled])

/-- A character that is in no identifier and not a letter in a circle comes only from itself. -/
theorem IsCaseOf.eq_of_mem (h : IsCaseOf c cs) (hd : d ∈ cs)
    (hother : isIdentifierContinue d = false) (hcircled : isCircled d = false) : c = d := by
  cases h with
  | same => exact (List.mem_singleton.mp hd).symm
  | letters hstart hrest =>
    rcases List.mem_cons.mp hd with rfl | hd
    · exact absurd (isIdentifierContinue_of_start hstart) (by simp [hother])
    · exact absurd (List.all_eq_true.mp hrest d hd) (by simp [hother])
  | circled _ hd' => exact absurd hd' (by simp [List.mem_singleton.mp hd ▸ hcircled])

theorem IsCaseOf.ne_nil (h : IsCaseOf c cs) : cs ≠ [] := by
  cases h <;> simp

end CommandGen.Text
