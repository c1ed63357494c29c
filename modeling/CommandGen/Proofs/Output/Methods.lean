import CommandGen.Output.Names
import CommandGen.Proofs.Source.SnakeCase

/-! Whether the method that is named after a call is an identifier, as the call is. -/
namespace CommandGen

open Source Text

variable {call word name : String} {s w tail : List Char} {c : Char}

theorem not_mem_reservedWords_of_raw (h : word.toList = 'r' :: '#' :: s) :
    word ∉ reservedWords := by
  have hall : ∀ r ∈ reservedWords, r.toList.tail.head? ≠ some '#' := by decide
  exact fun hm => hall word hm (by rw [h]; rfl)

theorem toList_raw (name : String) : ("r#" ++ name).toList = 'r' :: '#' :: name.toList :=
  String.toList_append

theorem isIdentifier_raw_of_head (h : name.toList.head?.any isIdentifierStart = false) :
    isIdentifier ("r#" ++ name) = false := by
  have hplain : plainIdentifierWidth name.toList = none := by
    cases hs : name.toList with
    | nil => rfl
    | cons c rest => rw [plainIdentifierWidth, if_neg (by simpa [hs] using h)]
  refine Bool.eq_false_iff.mpr fun hraw => ?_
  have hname : fromToken ("r#" ++ name).toList = 'r' :: '#' :: name.toList := by
    rw [toList_raw, fromToken_of_start (by decide)]
  obtain ⟨n, hwidth, -⟩ := exists_identifierWidth hname hraw
  rw [identifierWidth, hplain] at hwidth
  cases hwidth

theorem isIdentifier_raw_of_raw (h : name.toList = 'r' :: '#' :: s) :
    isIdentifier ("r#" ++ name) = false := by
  have hname : fromToken ("r#" ++ name).toList = ['r', '#', 'r'] ++ '#' :: s := by
    rw [toList_raw, fromToken_of_start (by decide), h]
    rfl
  have hplain : plainIdentifierWidth ('r' :: '#' :: s) = some 1 := by
    rw [plainIdentifierWidth, if_pos (by decide), List.takeWhile_cons_of_neg (by decide)]
    rfl
  refine isIdentifier_of_hash hname ?_
  rw [List.cons_append, List.cons_append, identifierWidth, List.singleton_append, hplain]
  exact if_neg (by simp [unraw])

theorem isIdentifier_of_raw (hc : isIdentifierStart c = true)
    (hs : s.all isIdentifierContinue = true)
    (hname : fromToken name.toList = 'r' :: '#' :: (c :: s ++ tail)) (htail : afterTrivia tail = []) :
    isIdentifier name = true ↔ c :: s ∉ unraw := by
  constructor
  · intro h hunraw
    have hstop : tail.head?.any isIdentifierContinue = false := by
      have hends := continuesWord_of_empty htail
      cases tail with
      | nil => rfl
      | cons d tail => exact (Bool.or_eq_false_iff.mp hends).1
    obtain ⟨n, hwidth, -⟩ := exists_identifierWidth hname h
    rw [identifierWidth_of_unraw hc hs hunraw hstop] at hwidth
    cases hwidth
  · intro hunraw
    have hsole : IsSole name.toList (String.ofList ('r' :: '#' :: c :: s)).toList tail := by
      rw [String.toList_ofList]
      exact ⟨hname, isWord_raw hc hs hunraw, htail⟩
    exact (isIdentifier_of_isSole hsole).mpr (not_mem_reservedWords_of_raw String.toList_ofList)

/-- A text in front of whose word something stands does not start with the word, nor does its
spelling start any. -/
theorem not_prefix_of_front (h : IsSole s w tail) (hfront : s ≠ w ++ tail) :
    ¬w <+: s ∧ (Text.snakeCase s).head?.any isIdentifierStart = false := by
  have hall := h.word_tail
  obtain ⟨d, more, rfl, hd⟩ := h.exists_start
  rcases fromToken_cases s with he | ⟨c, rest, rfl, hc⟩
  · exact absurd (he ▸ hall) hfront
  · have hstart := isIdentifierStart_of_front hc
    have hsnake : Text.snakeCase (c :: rest) = c :: Text.snakeCase rest := by
      rcases hc with rfl | hblank | rfl
      · exact snakeCase_mark (by decide)
      · exact snakeCaseFrom_blank hblank
      · exact snakeCase_mark (by decide)
    refine ⟨fun hpre => ?_, by rw [hsnake]; simpa using hstart⟩
    obtain rfl := (List.cons_prefix_cons.mp hpre).1
    exact Bool.noConfusion (hd.symm.trans hstart)

section

variable {d : Char} {u : List Char} (hsole : IsSole call.toList word.toList tail)
  (hd : isIdentifierStart d = true) (hu : u.all isIdentifierContinue = true)

include hsole

theorem exists_fromToken_snakeCase :
    ∃ tail', fromToken (snakeCase call).toList = (snakeCase word).toList ++ tail' ∧
    afterTrivia tail' = [] := by
  refine ⟨_, ?_, afterTrivia_snakeCaseFrom_eq_nil word.toList.getLast? hsole.tail_empty⟩
  rw [snakeCase, snakeCase, String.toList_ofList, String.toList_ofList, hsole.fromToken_snakeCase]

include hd hu

theorem isIdentifier_methodName_of_plain (hspelled : (snakeCase word).toList = d :: u) :
    isIdentifier (methodName call) = true ↔
      d :: u ∉ unraw ∧ (snakeCase word ∈ reservedWords → word.toList <+: call.toList) := by
  obtain ⟨tail', hname, htail⟩ := exists_fromToken_snakeCase hsole
  have hplain : isIdentifier (snakeCase call) = true ↔ snakeCase word ∉ reservedWords :=
    isIdentifier_of_isSole ⟨hname, hspelled ▸ isWord_plain hd hu, htail⟩
  by_cases hreserved : snakeCase word ∈ reservedWords
  · have hraw : methodName call = "r#" ++ snakeCase call := if_neg (by simp [hplain, hreserved])
    rw [hraw]
    by_cases hfront : call.toList = word.toList ++ tail
    · have hstart : fromToken (snakeCase call).toList = (snakeCase call).toList := by
        obtain ⟨c, rest, hc, hstart⟩ := hsole.exists_start
        obtain ⟨e, more, he, hstart, -⟩ := exists_snakeCase_cons hstart (rest ++ tail)
        rw [snakeCase, String.toList_ofList, hfront, hc, List.cons_append, he,
          fromToken_of_start hstart]
      have hall : fromToken ("r#" ++ snakeCase call).toList = 'r' :: '#' :: (d :: u ++ tail') := by
        rw [toList_raw, fromToken_of_start (by decide), ← hstart, hname, hspelled]
      rw [isIdentifier_of_raw hd hu hall htail]
      simp [hfront]
    · obtain ⟨hbehind, hhead⟩ := not_prefix_of_front hsole hfront
      have hhead : (snakeCase call).toList.head?.any isIdentifierStart = false := by
        rwa [snakeCase, String.toList_ofList]
      simp [isIdentifier_raw_of_head hhead, hbehind, hreserved]
  · have hkept : methodName call = snakeCase call := if_pos (hplain.mpr hreserved)
    have hunraw : ∀ x ∈ unraw, String.ofList x ∈ reservedWords := by decide
    have hfree : d :: u ∉ unraw := by
      rw [← hspelled]
      exact fun hmem => hreserved (by simpa using hunraw _ hmem)
    simp [hkept, hplain, hreserved, hfree]

theorem isIdentifier_methodName_of_raw (hspelled : (snakeCase word).toList = 'r' :: '#' :: d :: u) :
    isIdentifier (methodName call) = true ↔ d :: u ∉ unraw := by
  obtain ⟨tail', hname, htail⟩ := exists_fromToken_snakeCase hsole
  rw [hspelled] at hname
  have hplain : isIdentifier (snakeCase call) = true ↔ d :: u ∉ unraw :=
    isIdentifier_of_raw hd hu hname htail
  by_cases hunraw : d :: u ∈ unraw
  · have hraw : methodName call = "r#" ++ snakeCase call := if_neg (by simp [hplain, hunraw])
    have hnot : isIdentifier ("r#" ++ snakeCase call) = false := by
      rcases fromToken_cases (snakeCase call).toList with hstart | ⟨c, rest, he, hc⟩
      · exact isIdentifier_raw_of_raw (hstart ▸ hname)
      · exact isIdentifier_raw_of_head (by simpa [he] using isIdentifierStart_of_front hc)
    simp [hraw, hnot, hunraw]
  · have hkept : methodName call = snakeCase call := if_pos (hplain.mpr hunraw)
    simp [hkept, hplain, hunraw]

end

/-- The method of a call that is an identifier. It is one as well, unless the spelling of the word
in the call cannot stand behind a raw mark or has one and could not, or the spelling is a reserved
word and something stands in front of the word. -/
theorem isIdentifier_methodName_iff (h : isIdentifier call = true) :
    ∃ word span, trees call.toList = some [.word word span] ∧
      (isIdentifier (methodName call) = true ↔
        (∀ u ∈ unraw, (snakeCase word).toList ≠ u ∧ (snakeCase word).toList ≠ 'r' :: '#' :: u) ∧
          (snakeCase word ∈ reservedWords → word.toList <+: call.toList)) := by
  obtain ⟨word, tail, hsole, -⟩ := isIdentifier_iff.mp h
  obtain ⟨span, hword⟩ := trees_eq_word_iff.mpr ⟨tail, hsole⟩
  refine ⟨word, span, hword, ?_⟩
  have hlist : (snakeCase word).toList = Text.snakeCase word.toList := String.toList_ofList
  obtain ⟨c, t, he, hc, ht⟩ | ⟨c, t, he, hc, ht, -⟩ := isWord_cases hsole.isWord
  · obtain ⟨d, u, hd, hstart, hu⟩ := snakeCase_identifier hc ht
    have hspelled : (snakeCase word).toList = d :: u := by rw [hlist, he, hd]
    rw [isIdentifier_methodName_of_plain hsole hstart hu hspelled, hspelled]
    have hraw : ∀ x, d :: u ≠ 'r' :: '#' :: x := by
      rintro x ⟨⟩
      exact absurd (Bool.and_eq_true_iff.mp (List.all_cons ▸ hu)).1 (by decide)
    have hall : d :: u ∉ unraw ↔ ∀ x ∈ unraw, d :: u ≠ x ∧ d :: u ≠ 'r' :: '#' :: x :=
      ⟨fun h x hx => ⟨fun hsame => h (hsame ▸ hx), hraw x⟩, fun h hmem => (h _ hmem).1 rfl⟩
    rw [hall]
  · obtain ⟨d, u, hd, hstart, hu⟩ := snakeCase_identifier hc ht
    have hspelled : (snakeCase word).toList = 'r' :: '#' :: d :: u := by
      rw [hlist, he, snakeCase_raw, hd]
    have hmarked : ∀ x ∈ unraw, x.tail.head? ≠ some '#' := by decide
    have hall : d :: u ∉ unraw ↔
        ∀ x ∈ unraw, 'r' :: '#' :: d :: u ≠ x ∧ 'r' :: '#' :: d :: u ≠ 'r' :: '#' :: x := by
      refine ⟨fun h x hx => ⟨fun hsame => hmarked x hx (hsame ▸ rfl), fun hsame => h ?_⟩,
        fun h hmem => (h _ hmem).2 rfl⟩
      rwa [(List.cons.inj (List.cons.inj hsame).2).2]
    rw [isIdentifier_methodName_of_raw hsole hstart hu hspelled, hspelled, hall]
    simp [not_mem_reservedWords_of_raw hspelled]

/-- A keyword with nothing in front. -/
theorem isIdentifier_methodName_move :
    isIdentifier "Move" = true ∧ isIdentifier (methodName "Move") = true := by
  have h : isIdentifier "Move" = true := by decide
  obtain ⟨word, span, hword, hiff⟩ := isIdentifier_methodName_iff h
  obtain rfl : word = "Move" := by
    have hread : trees "Move".toList = some [.word "Move" ⟨0, 4⟩] := by rfl
    cases hread.symm.trans hword
    rfl
  exact ⟨h, hiff.mpr (by decide)⟩

/-- A word that cannot be a raw identifier either, and a keyword with a blank in front. -/
theorem isIdentifier_methodName_crate :
    (isIdentifier "Crate" = true ∧ methodName "Crate" = "r#crate" ∧
      isIdentifier (methodName "Crate") = false) ∧
      isIdentifier " Move" = true ∧ methodName " Move" = "r# move" ∧
      isIdentifier (methodName " Move") = false := by
  decide

end CommandGen
