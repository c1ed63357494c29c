import CommandGen.Proofs.NameMap
import CommandGen.Proofs.Output.Methods
import CommandGen.Proofs.Source.Blanks

/-! Whether the trait that is named after an api is an identifier, as the api is, and with the api a
path. -/
namespace CommandGen

open Source Text

variable {api name word : String} {overrides : NameMap String}
  {front s w tail : List Char} {c : Char}

theorem areKept_of_blanks (h : s.all isBlank = true) : areKept s = true := by
  have hblank {c : Char} (hc : isBlank c = true) : isWordSeparator c = false ∧ upperOf c = [c] :=
    forall_isBlank (P := fun c => isWordSeparator c = false ∧ upperOf c = [c]) (by decide)
      (by decide) (by decide) hc
  refine List.all_eq_true.mpr fun c hc => ?_
  simp [hblank (List.all_eq_true.mp h c hc)]

theorem areKept_of_isFront (h : isFront front = true) : areKept front = true := by
  have hmark : areKept [byteOrderMark] = true := by decide
  cases front with
  | nil => rfl
  | cons c rest =>
    rw [isFront, withoutMark] at h
    split_ifs at h with hc
    · have hrest := areKept_of_blanks h
      rw [areKept] at hmark hrest ⊢
      simpa [hc, hrest] using hmark
    · exact areKept_of_blanks h

theorem toList_traitName (h : overrides.get? api = none) :
    (traitName overrides api).toList = joinFrom true api.toList ++ "Api".toList := by
  simp [traitName, h, pascalCase, pascalCase_eq]

theorem not_mem_reservedWords_of_api (hword : word.toList = s) (h : "Api".toList <:+ s) :
    word ∉ reservedWords := by
  have hall : ∀ r ∈ reservedWords, ¬"Api".toList <:+ r.toList := by decide
  exact fun hm => hall word hm (hword ▸ h)

theorem not_mem_unraw_of_api (h : "Api".toList <:+ s) : s ∉ unraw := by
  have hall : ∀ u ∈ unraw, ¬"Api".toList <:+ u := by decide
  exact fun hm => hall s hm h

/-- A name that is put together from characters of identifiers is one if its first character starts
one. -/
theorem isIdentifier_plain_iff (hall : s.all isIdentifierContinue = true)
    (hend : "Api".toList <:+ s) (hname : fromToken name.toList = s) :
    isIdentifier name = true ↔ s.head?.any isIdentifierStart = true := by
  constructor
  · intro h
    obtain ⟨n, hwidth, -⟩ := exists_identifierWidth hname h
    obtain ⟨c, rest, rfl, hc⟩ := start_of_identifierWidth hwidth
    simpa using hc
  · intro hstart
    cases s with
    | nil => cases hstart
    | cons c rest =>
      have hc : isIdentifierStart c = true := by simpa using hstart
      have hrest := (Bool.and_eq_true_iff.mp (List.all_cons ▸ hall)).2
      have hsole : IsSole name.toList (String.ofList (c :: rest)).toList [] := by
        rw [String.toList_ofList]
        exact ⟨by rw [hname, List.append_nil], isWord_plain hc hrest, rfl⟩
      exact (isIdentifier_of_isSole hsole).mpr (not_mem_reservedWords_of_api String.toList_ofList hend)

theorem isIdentifier_marked_iff (hall : s.all isIdentifierContinue = true)
    (hend : "Api".toList <:+ s) (hname : fromToken name.toList = 'r' :: '#' :: s) :
    isIdentifier name = true ↔ s.head?.any isIdentifierStart = true := by
  cases s with
  | nil => exact absurd hend (by decide)
  | cons c rest =>
    have hrest := (Bool.and_eq_true_iff.mp (List.all_cons ▸ hall)).2
    by_cases hc : isIdentifierStart c = true
    · have hread :=
        @isIdentifier_of_raw name rest [] c hc hrest (by rw [hname, List.append_nil]) rfl
      simp [hread, not_mem_unraw_of_api hend, hc]
    · have hnot : isIdentifier name = false := by
        refine Bool.eq_false_iff.mpr fun h => ?_
        obtain ⟨n, hwidth, -⟩ := exists_identifierWidth hname h
        rw [identifierWidth, plainIdentifierWidth, if_neg hc] at hwidth
        cases hwidth
      simp [hnot, hc]

theorem isIdentifier_of_blanks_inside (hplain : '/' ∉ s ++ tail)
    (htail : tail.all isBlank = true) (hne : tail ≠ [])
    (hname : fromToken name.toList = s ++ tail ++ "Api".toList) : isIdentifier name = false := by
  refine Bool.eq_false_iff.mpr fun h => ?_
  obtain ⟨word, rest, hsole, -⟩ := isIdentifier_iff.mp h
  have hall : s ++ tail ++ "Api".toList = word.toList ++ rest := hname ▸ hsole.word_tail
  have hstroke : '/' ∉ word.toList ++ rest := by
    rw [← hall, List.mem_append, not_or]
    exact ⟨hplain, by decide⟩
  have hend : rest = [] := by
    by_contra hrest
    have hlast : rest.getLast? = some 'i' := by
      have hboth := congrArg List.getLast? hall
      rw [List.getLast?_append_of_ne_nil _ hrest,
        List.getLast?_append_of_ne_nil _ (by decide)] at hboth
      exact hboth.symm
    have hblanks := all_isBlank_of_empty hsole.tail_empty (mt (List.mem_append_right _) hstroke)
    exact absurd (List.all_eq_true.mp hblanks 'i' (List.mem_of_getLast? hlast)) (by decide)
  obtain ⟨c, hc⟩ := List.exists_mem_of_ne_nil tail hne
  have hin : c ∈ word.toList := by
    rw [hend, List.append_nil] at hall
    exact hall ▸ List.mem_append_left _ (List.mem_append_right _ hc)
  exact Bool.noConfusion ((continuesWord_of_mem hsole.isWord hin).symm.trans
    (continuesWord_of_isBlank (List.all_eq_true.mp htail c hc)))

theorem not_raw_front_append (hfront : isFront front = true) (hne : front ≠ []) :
    ¬['r', '#'] <+: front ++ s := by
  cases front with
  | nil => exact absurd rfl hne
  | cons c rest =>
    intro hpre
    obtain rfl := (List.cons_prefix_cons.mp hpre).1
    have hmark : ('r' :: rest).head? ≠ some byteOrderMark := by
      rintro ⟨⟩
    rw [isFront, withoutMark_of_head hmark] at hfront
    exact absurd (Bool.and_eq_true_iff.mp (List.all_cons ▸ hfront)).1 (by decide)

/-- What becomes of a word is not empty, unless it was low lines, and goes on from a character of
identifiers. -/
theorem exists_joinFrom_cons (due : Bool) (hw : isWord w = true) (hlow : ¬∀ c ∈ w, c = '_') :
    '/' ∉ joinFrom due w ∧ ∃ d rest, joinFrom due w = d :: rest ∧
      isIdentifierContinue d = true := by
  have hstroke {s : List Char} (h : s.all isIdentifierContinue = true) : '/' ∉ s := fun hin =>
    absurd (List.all_eq_true.mp h '/' hin) (by decide)
  obtain ⟨c, t, rfl, hc, ht⟩ | ⟨c, t, rfl, hc, ht, -⟩ := isWord_cases hw
  · have hall : (c :: t).all isIdentifierContinue = true := by
      simp [isIdentifierContinue_of_start hc, ht]
    have hjoined := all_continue_joinFrom due hall
    refine ⟨hstroke hjoined, ?_⟩
    obtain ⟨d, rest, he⟩ := List.exists_cons_of_ne_nil (mt (joinFrom_eq_nil_iff hall).mp hlow)
    exact ⟨d, rest, he, (Bool.and_eq_true_iff.mp (List.all_cons ▸ he ▸ hjoined)).1⟩
  · have hall : (c :: t).all isIdentifierContinue = true := by
      simp [isIdentifierContinue_of_start hc, ht]
    have hjoined := hstroke (all_continue_joinFrom false hall)
    have hletter : isIdentifierContinue 'R' = true ∧ isIdentifierContinue 'r' = true := by decide
    rw [joinFrom_raw]
    refine ⟨by cases due <;> simp [hjoined], _, _, rfl, ?_⟩
    cases due <;> simp [hletter]

/-- The name of a word without its raw mark. -/
def bareName : List Char → List Char
  | 'r' :: '#' :: name => name
  | name => name

section

variable (hsole : IsSole api.toList word.toList tail) (hplain : '/' ∉ api.toList)
  (hfree : overrides.get? api = none)

include hsole hplain hfree

/-- The trait in its parts: what stands around the word of the api stays, and a capital is due at
the start only. -/
theorem exists_traitName_parts : ∃ front, isFront front = true ∧ tail.all isBlank = true ∧
    api.toList = front ++ (word.toList ++ tail) ∧
    (traitName overrides api).toList =
      front ++ (joinFrom front.isEmpty word.toList ++ tail ++ "Api".toList) := by
  obtain ⟨front, hfront, htail, he⟩ := hsole.exists_front hplain
  refine ⟨front, hfront, htail, he, ?_⟩
  rw [toList_traitName hfree, he, joinFrom_kept_append (areKept_of_isFront hfront),
    joinFrom_append_kept (areKept_of_blanks htail), Bool.true_and, List.append_assoc]

theorem isIdentifier_traitName_of_low_lines (hlow : ∀ c ∈ word.toList, c = '_') :
    isIdentifier (traitName overrides api) = true := by
  obtain ⟨front, hfront, htail, -, htrait⟩ := exists_traitName_parts hsole hplain hfree
  have hline : isIdentifierContinue '_' = true := by decide
  have hall : word.toList.all isIdentifierContinue = true :=
    List.all_eq_true.mpr fun c hc => (hlow c hc).symm ▸ hline
  have hname : fromToken (traitName overrides api).toList = "Api".toList := by
    rw [htrait, (joinFrom_eq_nil_iff hall).mpr hlow, List.nil_append, ← List.append_assoc]
    exact fromToken_front_cons (isFront_append hfront htail) (by decide)
  exact (isIdentifier_plain_iff (by decide) List.suffix_rfl hname).mpr (by decide)

theorem fromToken_traitName (hlow : ¬∀ c ∈ word.toList, c = '_') : ∃ front, isFront front = true ∧
    tail.all isBlank = true ∧ api.toList = front ++ (word.toList ++ tail) ∧
    fromToken (traitName overrides api).toList = joinFrom front.isEmpty word.toList ++
      tail ++ "Api".toList := by
  obtain ⟨front, hfront, htail, hapi, htrait⟩ := exists_traitName_parts hsole hplain hfree
  obtain ⟨-, d, rest, hjoined, hd⟩ := exists_joinFrom_cons front.isEmpty hsole.isWord hlow
  refine ⟨front, hfront, htail, hapi, ?_⟩
  rw [htrait, hjoined, List.cons_append, List.cons_append, fromToken_front_cons hfront hd]

theorem isIdentifier_traitName_of_tail (hlow : ¬∀ c ∈ word.toList, c = '_') (htail : tail ≠ []) :
    isIdentifier (traitName overrides api) = false ∧ ¬word.toList <:+ api.toList := by
  obtain ⟨front, hfront, hblanks, hapi, hname⟩ := fromToken_traitName hsole hplain hfree hlow
  obtain ⟨hstroke, -⟩ := exists_joinFrom_cons front.isEmpty hsole.isWord hlow
  constructor
  · refine isIdentifier_of_blanks_inside ?_ hblanks htail hname
    rw [List.mem_append, not_or]
    refine ⟨hstroke, fun hin => hplain ?_⟩
    rw [hapi]
    exact List.mem_append_right _ (List.mem_append_right _ hin)
  · rintro ⟨before, he⟩
    obtain ⟨c, hc⟩ := Option.ne_none_iff_exists'.mp (mt List.getLast?_eq_none_iff.mp htail)
    have hlast : word.toList.getLast? = some c := by
      have hword : word.toList ≠ [] := fun hnil => hlow (by simp [hnil])
      have hboth := congrArg List.getLast? (he.trans hapi)
      rwa [List.getLast?_append_of_ne_nil _ hword, ← List.append_assoc,
        List.getLast?_append_of_ne_nil _ htail, hc]
        at hboth
    exact Bool.noConfusion ((continuesWord_of_mem hsole.isWord (List.mem_of_getLast? hlast)).symm.trans
      (continuesWord_of_isBlank (List.all_eq_true.mp hblanks c (List.mem_of_getLast? hc))))

theorem isIdentifier_traitName_of_plain (hend : tail = [])
    (hlow : ¬∀ c ∈ word.toList, c = '_') {t : List Char} (hword : word.toList = c :: t)
    (hc : isIdentifierStart c = true) (ht : t.all isIdentifierContinue = true) :
    ¬['r', '#'] <+: api.toList ∧
      (isIdentifier (traitName overrides api) = true ↔ capitalStarts word.toList = true) := by
  obtain ⟨front, hfront, -, hapi, hname⟩ := fromToken_traitName hsole hplain hfree hlow
  rw [hend, List.append_nil] at hapi hname
  have hall : word.toList.all isIdentifierContinue = true := by
    simp [hword, isIdentifierContinue_of_start hc, ht]
  constructor
  · by_cases hempty : front = []
    · rw [hapi, hempty, List.nil_append]
      rintro ⟨more, he⟩
      exact absurd (List.all_eq_true.mp hall '#' (by simp [← he])) (by decide)
    · rw [hapi]
      exact not_raw_front_append hfront hempty
  · have hjoined :
        (joinFrom front.isEmpty word.toList ++ "Api".toList).all isIdentifierContinue = true := by
      rw [List.all_append, all_continue_joinFrom _ hall]
      decide
    rw [isIdentifier_plain_iff hjoined (List.suffix_append _ _) hname]
    cases front.isEmpty with
    | true => rw [head?_joinFrom_true hall (by decide)]
    | false => rw [hword, head?_joinFrom_false hc ht (by decide)]

theorem isIdentifier_traitName_of_raw (hend : tail = []) {t : List Char}
    (hword : word.toList = 'r' :: '#' :: c :: t) (hc : isIdentifierStart c = true)
    (ht : t.all isIdentifierContinue = true) :
    isIdentifier (traitName overrides api) = true ↔
      ¬['r', '#'] <+: api.toList ∧ capitalStarts (c :: t) = true := by
  have hlow : ¬∀ c ∈ word.toList, c = '_' := by simp [hword]
  obtain ⟨front, hfront, -, hapi, hname⟩ := fromToken_traitName hsole hplain hfree hlow
  rw [hend, List.append_nil, hword] at hapi hname
  rw [joinFrom_raw] at hname
  by_cases hempty : front = []
  · have hraw : ['r', '#'] <+: api.toList := by
      rw [hapi, hempty]
      exact ⟨c :: t, rfl⟩
    rw [hempty] at hname
    have hnot : isIdentifier (traitName overrides api) = false := by
      refine @isIdentifier_of_hash ['R'] _ _ hname ?_
      rw [List.singleton_append, identifierWidth.eq_2 _ (by simp),
        plainIdentifierWidth, if_pos (by decide), List.takeWhile_cons_of_neg (by decide)]
      rfl
    simp [hnot, hraw]
  · have hraw : ¬['r', '#'] <+: api.toList := hapi ▸ not_raw_front_append hfront hempty
    have hdue : front.isEmpty = false := by simpa using hempty
    have hall : (c :: t).all isIdentifierContinue = true := by
      simp [isIdentifierContinue_of_start hc, ht]
    have hjoined : (joinFrom false (c :: t) ++ "Api".toList).all isIdentifierContinue = true := by
      rw [List.all_append, all_continue_joinFrom _ hall]
      decide
    rw [hdue] at hname
    have hiff := isIdentifier_marked_iff hjoined (List.suffix_append _ _) hname
    rw [hiff, head?_joinFrom_false hc ht (by decide)]
    simp [hraw]

/-- Whether a trait that is named after its api is an identifier, where the api has no comments. -/
theorem isIdentifier_traitName_of_free : isIdentifier (traitName overrides api) = true ↔
    (∀ c ∈ word.toList, c = '_') ∨
      word.toList <:+ api.toList ∧ ¬['r', '#'] <+: api.toList ∧
        capitalStarts (bareName word.toList) = true := by
  by_cases hlow : ∀ c ∈ word.toList, c = '_'
  · exact iff_of_true (isIdentifier_traitName_of_low_lines hsole hplain hfree hlow) (.inl hlow)
  · by_cases hend : tail = []
    · have hsuffix : word.toList <:+ api.toList := by
        obtain ⟨front, -, -, hapi, -⟩ := exists_traitName_parts hsole hplain hfree
        rw [hapi, hend, List.append_nil]
        exact List.suffix_append _ _
      obtain ⟨c, t, he, hc, ht⟩ | ⟨c, t, he, hc, ht, -⟩ := isWord_cases hsole.isWord
      · have hbare : bareName word.toList = word.toList := by
          refine bareName.eq_2 _ fun more hraw => ?_
          obtain rfl : t = '#' :: more := (List.cons.inj (he.symm.trans hraw)).2
          exact absurd (Bool.and_eq_true_iff.mp (List.all_cons ▸ ht)).1 (by decide)
        obtain ⟨hraw, hiff⟩ := isIdentifier_traitName_of_plain hsole hplain hfree hend hlow he hc ht
        simp [hiff, hraw, hsuffix, hlow, hbare]
      · have hbare : bareName word.toList = c :: t := by rw [he, bareName]
        rw [isIdentifier_traitName_of_raw hsole hplain hfree hend he hc ht]
        simp [hsuffix, hlow, hbare]
    · obtain ⟨hnot, hsuffix⟩ := isIdentifier_traitName_of_tail hsole hplain hfree hlow hend
      simp [hnot, hsuffix, hlow]

end

/-- The trait of an api that is an identifier, where the names that are set for apis are
identifiers. The name that is set for the api is one. If none is set and the api has no comments,
the trait is an identifier just if the word of the api is low lines only, or it stands at the end of
the api, not with a raw mark at the start, and its first character that is not a low line has an
upper case that may start an identifier. With such a trait the api makes a path of two
identifiers. -/
theorem traitName_exact (hapi : isIdentifier api = true)
    (hset : ∀ name ∈ overrides.values, isIdentifier name = true) :
    (overrides.contains api = true → isIdentifier (traitName overrides api) = true) ∧
    ('/' ∉ api.toList → ∃ word span, trees api.toList = some [.word word span] ∧ word ∉ reservedWords ∧
      (overrides.contains api = false → (isIdentifier (traitName overrides api) = true ↔
        (∀ c ∈ word.toList, c = '_') ∨
          word.toList <:+ api.toList ∧ ¬['r', '#'] <+: api.toList ∧
            capitalStarts (bareName word.toList) = true)) ∧
      (isIdentifier (traitName overrides api) = true →
        (traitName overrides api).toList.head? ≠ some byteOrderMark →
        (traitName overrides api).toList.head? ≠ some '/' →
        ∃ trait s₁ s₂ s₃ s₄ joined, trait ∉ reservedWords ∧
          trees (api ++ "::" ++ traitName overrides api).toList =
          some [.word word s₁, .mark ':' true s₂, .mark ':' joined s₃, .word trait s₄])) := by
  constructor
  · intro hcontains
    obtain ⟨name, hname⟩ := Option.isSome_iff_exists.mp hcontains
    have hmem : name ∈ overrides.values :=
      List.mem_map.mpr ⟨(api, name), NameMap.get?_eq_some_iff_mem.mp hname, rfl⟩
    rw [traitName, hname]
    exact hset name hmem
  · intro hplain
    obtain ⟨word, tail, hsole, hfree⟩ := isIdentifier_iff.mp hapi
    obtain ⟨span, hword⟩ := trees_eq_word_iff.mpr ⟨tail, hsole⟩
    refine ⟨word, span, hword, hfree, fun hcontains => ?_, fun htrait hmark hstroke => ?_⟩
    · exact isIdentifier_traitName_of_free hsole hplain (by simpa [NameMap.contains] using hcontains)
    · obtain ⟨trait, more, hsecond, htrait⟩ := isIdentifier_iff.mp htrait
      obtain ⟨s₁, s₂, s₃, s₄, joined, hpath⟩ := trees_path hsole hplain hsecond hmark hstroke
      exact ⟨trait, s₁, s₂, s₃, s₄, joined, htrait, hpath⟩

/-- An api that has a trait set and one that has none, and the path of that one. -/
theorem traitName_exact_set_and_free :
    let overrides : NameMap String := .ofList [("elbv2", "ElbV2Api")]
    isIdentifier (traitName overrides "elbv2") = true ∧
      isIdentifier (traitName overrides "ec2") = true ∧
      ∃ trait s₁ s₂ s₃ s₄ joined, trees ("ec2" ++ "::" ++ traitName overrides "ec2").toList =
        some [.word "ec2" s₁, .mark ':' true s₂, .mark ':' joined s₃, .word trait s₄] := by
  intro overrides
  have hset : ∀ name ∈ overrides.values, isIdentifier name = true := by decide
  obtain ⟨helb, -⟩ := @traitName_exact "elbv2" overrides (by decide) hset
  obtain ⟨-, hec⟩ := @traitName_exact "ec2" overrides (by decide) hset
  obtain ⟨word, span, hword, -, hiff, hpath⟩ := hec (by decide)
  obtain rfl : word = "ec2" := by
    have hread : trees "ec2".toList = some [.word "ec2" ⟨0, 3⟩] := by rfl
    cases hread.symm.trans hword
    rfl
  have htrait : isIdentifier (traitName overrides "ec2") = true :=
    (hiff (by decide)).mpr (.inr ⟨List.suffix_rfl, by decide, by decide⟩)
  obtain ⟨trait, s₁, s₂, s₃, s₄, joined, -, htrees⟩ := hpath htrait (by decide) (by decide)
  exact ⟨helb (by decide), htrait, trait, s₁, s₂, s₃, s₄, joined, htrees⟩

/-- A word that begins with a digit behind its low line, a raw mark, and a blank behind the word. -/
theorem traitName_not_identifier :
    (isIdentifier "_1" = true ∧ traitName {} "_1" = "1Api" ∧ isIdentifier (traitName {} "_1") = false) ∧
    (isIdentifier "r#type" = true ∧ traitName {} "r#type" = "R#typeApi" ∧
      isIdentifier (traitName {} "r#type") = false) ∧
    isIdentifier "ec2 " = true ∧ traitName {} "ec2 " = "Ec2 Api" ∧
    isIdentifier (traitName {} "ec2 ") = false := by
  decide

end CommandGen
