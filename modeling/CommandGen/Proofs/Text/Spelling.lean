import CommandGen.Output.Names
import CommandGen.Proofs.Text.Pieces
import CommandGen.Proofs.Text.Words

/-! Names of several words. In lower case each word is spelled for itself, whatever stands on the
other side of a separator. Words that are joined by their capitals alone are found again by these,
if none of them is lost in a run of capitals. -/
namespace CommandGen

namespace Text

variable {before after : Option Char} {c : Char} {s t w v : List Char} {words : List (List Char)}

theorem separator_caseless (h : isWordSeparator c = true) :
    isCased c = false ∧ isLower c = false := by
  obtain rfl | rfl : c = '_' ∨ c = '-' := by simpa [isWordSeparator] using h
  · decide
  · decide

theorem spelling_separator (h : isWordSeparator c = true) : spelling before c after = ['_'] := by
  obtain rfl | rfl : c = '_' ∨ c = '-' := by simpa [isWordSeparator] using h
  · have hline : isUpper '_' = false ∧ lowerOf '_' = ['_'] := by decide
    simp [spelling, opensWord, hline]
  · rfl

theorem snakeCase_append_separator (h : isWordSeparator c = true) (s t : List Char) :
    snakeCase (s ++ c :: t) = snakeCase s ++ '_' :: snakeCase t := by
  obtain ⟨hcaseless, hlower⟩ := separator_caseless h
  have hbehind : snakeCaseFrom (some c) t = snakeCase t := snakeCaseFrom_of_caseless hcaseless
  rw [snakeCase, snakeCaseFrom_append (by simpa using hlower), snakeCaseFrom_cons,
    spelling_separator h, hbehind]
  rfl

theorem snakeCase_eq_intercalate (s : List Char) :
    snakeCase s = ['_'].intercalate ((pieces isWordSeparator s).map snakeCase) := by
  induction s using pieces_induction (p := isWordSeparator) with
  | plain word hword => simp [pieces_eq_singleton hword]
  | cut word c rest hword hc ih =>
    have hmore : (pieces isWordSeparator rest).map snakeCase ≠ [] := by simp [pieces_ne_nil]
    rw [snakeCase_append_separator hc, pieces_append hc,
      pieces_eq_singleton hword, ih, List.map_append, List.map_singleton, List.singleton_append,
      List.intercalate_cons_of_ne_nil hmore]
    simp

def isPlain (c : Char) : Bool := c.isLower || c.isDigit

/-- A letter, and letters and digits after it. -/
def isLowerWord : List Char → Bool
  | [] => false
  | c :: rest => c.isLower && rest.all isPlain

theorem toNat_lt_of_isPlain (h : isPlain c = true) : c.toNat < 0x80 := by
  rcases Bool.or_eq_true_iff.mp h with hlower | hdigit
  · have hlast : c.val ≤ 'z'.val := of_decide_eq_true (Bool.and_eq_true_iff.mp hlower).2
    exact Nat.lt_of_le_of_lt (UInt32.le_iff_toNat_le.mp hlast) (by decide)
  · exact Nat.lt_of_le_of_lt (Char.isDigit_iff_toNat.mp hdigit).2 (by decide)

theorem forall_isPlain {P : Char → Prop}
    (h : ∀ n < 0x80, isPlain (Char.ofNat n) = true → P (Char.ofNat n)) (hc : isPlain c = true) : P c :=
  forall_basic (P := fun c => isPlain c = true → P c) h (toNat_lt_of_isPlain hc) hc

theorem isPlain_of_isLower (h : c.isLower = true) : isPlain c = true := by simp [isPlain, h]

theorem not_separator_of_isPlain (h : isPlain c = true) : isWordSeparator c = false :=
  forall_isPlain (P := fun c => isWordSeparator c = false) (by decide +kernel) h

theorem cased_of_isPlain (h : isPlain c = true) : (isLower c || c.isDigit) = true :=
  forall_isPlain (P := fun c => (isLower c || c.isDigit) = true) (by decide +kernel) h

theorem spelling_of_isPlain (h : isPlain c = true) : spelling before c after = [c] := by
  obtain ⟨hhyphen, hupper, hlower⟩ : c ≠ '-' ∧ isUpper c = false ∧ lowerOf c = [c] :=
    forall_isPlain (P := fun c => c ≠ '-' ∧ isUpper c = false ∧ lowerOf c = [c]) (by decide +kernel) h
  simp [spelling, opensWord, hhyphen, hupper, hlower]

theorem capital_of_isLower (h : c.isLower = true) :
    upperOf c = [c.toUpper] ∧ lowerOf c.toUpper = [c] ∧ c.toUpper ≠ '-' :=
  forall_isPlain (P := fun c => c.isLower = true →
    upperOf c = [c.toUpper] ∧ lowerOf c.toUpper = [c] ∧ c.toUpper ≠ '-')
    (by decide +kernel) (isPlain_of_isLower h) h

theorem capital_cased (h : c.isLower = true) :
    isUpper c.toUpper = true ∧ isLower c.toUpper = false ∧ c.toUpper.isDigit = false :=
  forall_isPlain (P := fun c => c.isLower = true →
    isUpper c.toUpper = true ∧ isLower c.toUpper = false ∧ c.toUpper.isDigit = false)
    (by decide +kernel) (isPlain_of_isLower h) h

theorem capitalize_of_isLower (h : c.isLower = true) : capitalize (c :: s) = c.toUpper :: s := by
  rw [capitalize, (capital_of_isLower h).1]
  rfl

theorem exists_cons_of_isLowerWord (h : isLowerWord w = true) :
    ∃ c rest, w = c :: rest ∧ c.isLower = true ∧ rest.all isPlain = true := by
  cases w with
  | nil => cases h
  | cons c rest => exact ⟨c, rest, rfl, Bool.and_eq_true_iff.mp h⟩

theorem not_separator_of_isLowerWord (h : isLowerWord w = true) :
    ∀ c ∈ w, isWordSeparator c = false := by
  obtain ⟨c, rest, rfl, hc, hrest⟩ := exists_cons_of_isLowerWord h
  refine List.forall_mem_cons.mpr ⟨not_separator_of_isPlain (isPlain_of_isLower hc), fun d hd => ?_⟩
  exact not_separator_of_isPlain (List.all_eq_true.mp hrest d hd)

theorem snakeCaseFrom_plain_append (h : s.all isPlain = true) :
    snakeCaseFrom before (s ++ t) = s ++ snakeCaseFrom (s.getLast?.or before) t := by
  induction s generalizing before with
  | nil => rfl
  | cons c s ih =>
    obtain ⟨hc, hs⟩ := Bool.and_eq_true_iff.mp (List.all_cons ▸ h)
    rw [List.cons_append, snakeCaseFrom_cons, spelling_of_isPlain hc, ih hs, getLast?_cons_or]
    rfl

/-- The capital of the second word is no end of a run of capitals: the first word does not end in
its own, or a letter follows. -/
def staysApart (w v : List Char) : Bool := !w.tail.isEmpty || v.tail.head?.any isLower

theorem opensWord_behind (hw : isLowerWord w = true) (hc : c.isLower = true) :
    opensWord (capitalize w).getLast? c.toUpper s.head? = staysApart w (c :: s) := by
  obtain ⟨d, rest, rfl, hd, hrest⟩ := exists_cons_of_isLowerWord hw
  obtain ⟨hupper, -⟩ := capital_cased hc
  obtain ⟨hcapital, hlower, hdigit⟩ := capital_cased hd
  rw [capitalize_of_isLower hd, opensWord, hupper, staysApart, List.tail_cons, List.tail_cons]
  cases hlast : rest.getLast? with
  | none =>
    obtain rfl := List.getLast?_eq_none_iff.mp hlast
    simp [hcapital, hlower, hdigit]
  | some x =>
    have hmem : x ∈ rest := List.mem_of_getLast? hlast
    have hx : (isLower x || x.isDigit) = true := cased_of_isPlain (List.all_eq_true.mp hrest x hmem)
    have hne : rest.isEmpty = false := List.isEmpty_eq_false_iff.mpr (List.ne_nil_of_mem hmem)
    simp [List.getLast?_cons, hlast, hx, hne]

/-- A capitalized word gets its own spelling back, and a low line if its capital opens a word. -/
theorem snakeCaseFrom_capitalize (hc : c.isLower = true) (hs : s.all isPlain = true)
    (ht : t.head?.any isLower = false) :
    snakeCaseFrom before (capitalize (c :: s) ++ t) =
      (if opensWord before c.toUpper s.head? then ['_'] else []) ++
        (c :: s ++ snakeCaseFrom (capitalize (c :: s)).getLast? t) := by
  obtain ⟨-, hlower, hhyphen⟩ := capital_of_isLower hc
  have hopens : opensWord before c.toUpper (s ++ t).head? = opensWord before c.toUpper s.head? := by
    cases s with
    | nil => simp [opensWord, ht]
    | cons d s => rfl
  have hlast := getLast?_cons_or c.toUpper s none
  rw [Option.or_none] at hlast
  rw [capitalize_of_isLower hc, List.cons_append, snakeCaseFrom_cons,
    snakeCaseFrom_plain_append hs, hlast, spelling, if_neg hhyphen, hopens, hlower]
  split_ifs <;> rfl

theorem head?_capitals (h : ∀ w ∈ words, isLowerWord w = true) :
    (words.flatMap capitalize).head?.any isLower = false := by
  cases words with
  | nil => rfl
  | cons w more =>
    obtain ⟨c, rest, rfl, hc, -⟩ := exists_cons_of_isLowerWord (h w (by simp))
    rw [List.flatMap_cons, capitalize_of_isLower hc]
    simp [(capital_cased hc).2.1]

/-- Behind a word, all further words are found just where each one stays apart from the one in
front. -/
theorem snakeCaseFrom_capitals_iff (hw : isLowerWord w = true)
    (h : ∀ v ∈ words, isLowerWord v = true) :
    snakeCaseFrom (capitalize w).getLast? (words.flatMap capitalize) = words.flatMap ('_' :: ·) ↔
      (w :: words).IsChain fun w v => staysApart w v = true := by
  induction words generalizing w with
  | nil => simp [snakeCaseFrom]
  | cons v more ih =>
    obtain ⟨hv, hmore⟩ := List.forall_mem_cons.mp h
    have hrest := ih hv hmore
    obtain ⟨c, rest, rfl, hc, hplain⟩ := exists_cons_of_isLowerWord hv
    have hline : c ≠ '_' := by
      rintro rfl
      exact absurd hc (by decide)
    rw [List.flatMap_cons, List.flatMap_cons,
      snakeCaseFrom_capitalize hc hplain (head?_capitals hmore), opensWord_behind hw hc,
      List.isChain_cons_cons, ← hrest]
    cases staysApart w (c :: rest) with
    | true => simp
    | false => simp [hline]

/-- Words in lower case that are joined by their capitals are found again just where each one stays
apart from the one in front. -/
theorem snakeCase_pascalCase_iff (h : ∀ w ∈ words, isLowerWord w = true) :
    snakeCase (pascalCase (['_'].intercalate words)) = ['_'].intercalate words ↔
      words.IsChain fun w v => staysApart w v = true := by
  cases words with
  | nil => exact iff_of_true rfl .nil
  | cons w more =>
    obtain ⟨hw, hmore⟩ := List.forall_mem_cons.mp h
    have hpieces : pieces isWordSeparator (['_'].intercalate (w :: more)) = w :: more :=
      pieces_intercalate rfl (List.cons_ne_nil _ _) fun v hv =>
        not_separator_of_isLowerWord (h v hv)
    rw [pascalCase, hpieces, List.flatMap_cons, intercalate_eq_flatMap,
      ← snakeCaseFrom_capitals_iff hw hmore]
    obtain ⟨c, rest, rfl, hc, hplain⟩ := exists_cons_of_isLowerWord hw
    rw [snakeCase, snakeCaseFrom_capitalize hc hplain (head?_capitals hmore),
      opensWord_of_caseless rfl]
    simp

end Text

/-- The words of a name, between its low lines and hyphens. -/
def wordsOf (s : String) : List String :=
  (Text.pieces Text.isWordSeparator s.toList).map String.ofList

/-- What stands on the two sides of a low line or a hyphen is spelled in lower case as if it stood
alone. So the spelling of a name is those of its words, joined by low lines. -/
theorem snakeCase_wordwise :
    (∀ a b : String, ∀ c ∈ ['_', '-'],
      snakeCase (a ++ String.singleton c ++ b) = snakeCase a ++ "_" ++ snakeCase b) ∧
    ∀ s : String, snakeCase s = "_".intercalate ((wordsOf s).map snakeCase) := by
  refine ⟨fun a b c hc => ?_, fun s => ?_⟩
  · have hsep : Text.isWordSeparator c = true := by simpa [Text.isWordSeparator] using hc
    have hparts := Text.snakeCase_append_separator hsep a.toList b.toList
    refine String.toList_injective ?_
    simp [snakeCase, hparts]
  · have hwords := Text.snakeCase_eq_intercalate s.toList
    refine String.toList_injective ?_
    simp [snakeCase, wordsOf, hwords, Function.comp_def]

/-- Capitals in front of a hyphen and behind it. Without it they would be one run, and no word would
open between them. -/
theorem snakeCase_wordwise_capitals :
    snakeCase ("DescribeDB" ++ String.singleton '-' ++ "InstancesV2") =
        snakeCase "DescribeDB" ++ "_" ++ snakeCase "InstancesV2" ∧
      snakeCase ("DescribeD" ++ String.singleton '-' ++ "BInstances") ≠
        snakeCase ("DescribeD" ++ "BInstances") := by
  obtain ⟨hparts, -⟩ := snakeCase_wordwise
  refine ⟨hparts _ _ '-' (by simp), ?_⟩
  rw [hparts _ _ '-' (by simp)]
  decide +kernel

/-- Words of two characters or more, each of them a lower-case letter with letters and digits behind
it, are found again after they have been joined by their capitals. -/
theorem snakeCase_pascalCase (words : List String)
    (h : ∀ w ∈ words, Text.isLowerWord w.toList = true ∧ 2 ≤ w.length) :
    snakeCase (pascalCase ("_".intercalate words)) = "_".intercalate words := by
  have hlower : ∀ w ∈ words.map String.toList, Text.isLowerWord w = true := by
    simpa using fun w hw => (h w hw).1
  have hapart : (words.map String.toList).Pairwise fun w v => Text.staysApart w v = true := by
    refine List.pairwise_map.mpr (List.pairwise_of_forall_mem_list fun w hw v _ => ?_)
    have hlong := (h w hw).2
    have htail : w.toList.tail ≠ [] := by
      refine List.ne_nil_of_length_pos ?_
      rw [List.length_tail, String.length_toList]
      omega
    simp [Text.staysApart, htail]
  have hfound := (Text.snakeCase_pascalCase_iff hlower).mpr hapart.isChain
  refine String.toList_injective ?_
  simpa [snakeCase, pascalCase] using hfound

/-- Words of which one ends in a digit and one has a digit behind its capital. A word of one letter
is lost before another. -/
theorem snakeCase_pascalCase_digits :
    snakeCase (pascalCase "describe_ec2_v4_instances") = "describe_ec2_v4_instances" ∧
      snakeCase (pascalCase "set_x_y") ≠ "set_x_y" := by
  have hfound := snakeCase_pascalCase ["describe", "ec2", "v4", "instances"] (by decide)
  exact ⟨hfound, by decide +kernel⟩

end CommandGen
