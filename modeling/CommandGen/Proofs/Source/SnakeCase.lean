import CommandGen.Proofs.Source.Sole
import CommandGen.Proofs.Text.Words

/-! Names with blanks and comments around them, spelled in lower case. The blanks stay and the
comments stay comments, whatever becomes of the text inside. -/
namespace CommandGen.Source

open Text

variable {before after : Option Char} {c d : Char} {s t u w tail : List Char} {n depth : ℕ}

def sourceMarks : List Char := ['/', '*', '!', '\n', '\r', byteOrderMark]

theorem of_mem_sourceMarks (h : c ∈ sourceMarks) :
    (isCased c = false ∧ lowerOf c = [c] ∧ c ≠ '-') ∧
      isIdentifierContinue c = false ∧ isCircled c = false ∧ c ≠ '_' := by
  have hall : sourceMarks.all (fun c => (!isCased c && (lowerOf c == [c] && c != '-')) &&
      (!isIdentifierContinue c && (!isCircled c && c != '_'))) = true := by decide +kernel
  simpa using List.all_eq_true.mp hall c h

theorem spelling_mark (h : c ∈ sourceMarks) : spelling before c after = [c] := by
  obtain ⟨⟨hcased, hlower, hhyphen⟩, -⟩ := of_mem_sourceMarks h
  have hupper : isUpper c = false := by simp_all [isCased]
  simp [spelling, opensWord, hupper, hhyphen, hlower]

theorem eq_of_mem_spelling (hd : d ∈ sourceMarks) (h : d ∈ spelling before c after) : c = d := by
  obtain ⟨-, hcontinue, hcircled, hline⟩ := of_mem_sourceMarks hd
  unfold spelling at h
  split_ifs at h
  · exact absurd (List.mem_singleton.mp h) hline
  · exact (isCaseOf_lowerOf c).eq_of_mem ((List.mem_cons.mp h).resolve_left hline) hcontinue hcircled
  · exact (isCaseOf_lowerOf c).eq_of_mem h hcontinue hcircled

theorem spelling_ne_nil : spelling before c after ≠ [] := by
  unfold spelling
  split_ifs <;> simp [(isCaseOf_lowerOf c).ne_nil]

theorem snakeCaseFrom_mark (h : c ∈ sourceMarks) :
    snakeCaseFrom before (c :: s) = c :: Text.snakeCase s := by
  obtain ⟨⟨hcased, -⟩, -⟩ := of_mem_sourceMarks h
  rw [snakeCaseFrom_cons, spelling_mark h, snakeCaseFrom_of_caseless (by simpa using hcased)]
  rfl

theorem snakeCase_mark (h : c ∈ sourceMarks) : Text.snakeCase (c :: s) = c :: Text.snakeCase s :=
  snakeCaseFrom_mark h

theorem head?_snakeCaseFrom (hd : d ∈ sourceMarks) :
    (snakeCaseFrom before s).head? = some d ↔ s.head? = some d := by
  cases s with
  | nil => rfl
  | cons c s =>
    constructor
    · intro h
      rw [snakeCaseFrom_cons, List.head?_append_of_ne_nil _ spelling_ne_nil] at h
      rw [List.head?_cons, eq_of_mem_spelling hd (List.mem_of_mem_head? h)]
    · intro h
      obtain rfl : c = d := by simpa using h
      rw [snakeCaseFrom_mark hd]
      rfl

theorem head?_snakeCase (hd : d ∈ sourceMarks) :
    (Text.snakeCase s).head? = some d ↔ s.head? = some d :=
  head?_snakeCaseFrom hd

theorem exists_cons_of_snakeCaseFrom (hd : d ∈ sourceMarks) (h : snakeCaseFrom before s = d :: t) :
    ∃ rest, s = d :: rest :=
  List.head?_eq_some_iff.mp ((head?_snakeCaseFrom hd).mp (by rw [h]; rfl))

theorem withoutMark_snakeCase (s : List Char) :
    withoutMark (Text.snakeCase s) = Text.snakeCase (withoutMark s) := by
  have hmark : byteOrderMark ∈ sourceMarks := by decide
  by_cases h : s.head? = some byteOrderMark
  · obtain ⟨rest, rfl⟩ := List.head?_eq_some_iff.mp h
    rw [snakeCase_mark hmark]
    simp [withoutMark]
  · rw [withoutMark_of_head h, withoutMark_of_head (mt (head?_snakeCase hmark).mp h)]

theorem opensNote_cons_stroke : opensNote ('/' :: s) = decide (s.head? = some '/') := by
  cases s with
  | nil => rfl
  | cons c s => by_cases hc : c = '/' <;> simp [opensNote, hc]

theorem opensBlock_cons_star :
    opensBlock ('*' :: s) = decide (s.head? = some '/' ∨ s.head? = some '*') := by
  cases s with
  | nil => rfl
  | cons c s => by_cases hc : c = '/' <;> by_cases hstar : c = '*' <;> simp [opensBlock, hc, hstar]

theorem opensNote_of_head (hstroke : s.head? ≠ some '/') (hbang : s.head? ≠ some '!') :
    opensNote s = true := by
  unfold opensNote
  split <;> simp_all

theorem opensBlock_of_head (hstar : s.head? ≠ some '*') (hbang : s.head? ≠ some '!') :
    opensBlock s = true := by
  unfold opensBlock
  split <;> simp_all

theorem opensNote_snakeCaseFrom : opensNote (snakeCaseFrom before s) = opensNote s := by
  have hstroke : '/' ∈ sourceMarks := by decide
  have hbang : '!' ∈ sourceMarks := by decide
  by_cases hs : s.head? = some '/'
  · obtain ⟨rest, rfl⟩ := List.head?_eq_some_iff.mp hs
    rw [snakeCaseFrom_mark hstroke, opensNote_cons_stroke, opensNote_cons_stroke, decide_eq_decide,
      head?_snakeCase hstroke]
  · by_cases hb : s.head? = some '!'
    · obtain ⟨rest, rfl⟩ := List.head?_eq_some_iff.mp hb
      rw [snakeCaseFrom_mark hbang]
      rfl
    · rw [opensNote_of_head hs hb, opensNote_of_head (mt (head?_snakeCaseFrom hstroke).mp hs)
        (mt (head?_snakeCaseFrom hbang).mp hb)]

theorem opensBlock_snakeCaseFrom : opensBlock (snakeCaseFrom before s) = opensBlock s := by
  have hstroke : '/' ∈ sourceMarks := by decide
  have hstar : '*' ∈ sourceMarks := by decide
  have hbang : '!' ∈ sourceMarks := by decide
  by_cases hs : s.head? = some '*'
  · obtain ⟨rest, rfl⟩ := List.head?_eq_some_iff.mp hs
    rw [snakeCaseFrom_mark hstar, opensBlock_cons_star, opensBlock_cons_star]
    simp only [head?_snakeCase hstroke, head?_snakeCase hstar]
  · by_cases hb : s.head? = some '!'
    · obtain ⟨rest, rfl⟩ := List.head?_eq_some_iff.mp hb
      rw [snakeCaseFrom_mark hbang]
      rfl
    · rw [opensBlock_of_head hs hb, opensBlock_of_head (mt (head?_snakeCaseFrom hstar).mp hs)
        (mt (head?_snakeCaseFrom hbang).mp hb)]

theorem lineWidth_append_of_isOneLine (h : isOneLine u = true) :
    lineWidth (u ++ t) = u.length + lineWidth t := by
  induction u with
  | nil => simp
  | cons c u ih =>
    simp only [isOneLine, List.all_cons, Bool.and_eq_true, bne_iff_ne] at h ih
    rw [List.cons_append, lineWidth.eq_4 _ _ (by simp [h.1]) (by simp [h.1]),
      ih h.2, List.length_cons]
    omega

theorem drop_lineWidth_snakeCaseFrom :
    (snakeCaseFrom before s).drop (lineWidth (snakeCaseFrom before s)) =
    Text.snakeCase (s.drop (lineWidth s)) := by
  have hfeed : '\n' ∈ sourceMarks := by decide
  have hreturn : '\r' ∈ sourceMarks := by decide
  induction s using lineWidth.induct generalizing before with
  | case1 => rfl
  | case2 rest =>
    rw [snakeCaseFrom_mark hfeed, lineWidth, lineWidth, List.drop_zero,
      List.drop_zero, snakeCase_mark hfeed]
  | case3 rest =>
    rw [snakeCaseFrom_mark hreturn, snakeCase_mark hfeed, lineWidth, lineWidth]
    simp only [List.drop_succ_cons, List.drop_zero, snakeCase_mark hfeed]
  | case4 c rest hc hrest ih =>
    rw [lineWidth.eq_4 _ _ hc hrest, Nat.add_comm 1, List.drop_succ_cons]
    by_cases hcr : c = '\r'
    · have hnext : ∀ more, c = '\r' → Text.snakeCase rest = '\n' :: more → False :=
        fun more hc he => by
        obtain ⟨_, hr⟩ := exists_cons_of_snakeCaseFrom hfeed he
        exact hrest _ hc hr
      rw [hcr, snakeCaseFrom_mark hreturn, ← hcr, lineWidth.eq_4 _ _ hc hnext,
        Nat.add_comm 1, List.drop_succ_cons]
      exact ih
    · have hline : isOneLine (spelling before c rest.head?) = true := by
        refine List.all_eq_true.mpr fun d hd => ?_
        simp only [Bool.and_eq_true, bne_iff_ne]
        refine ⟨fun he => ?_, fun he => ?_⟩
        · exact hc (eq_of_mem_spelling hfeed (he ▸ hd))
        · exact hcr (eq_of_mem_spelling hreturn (he ▸ hd))
      rw [snakeCaseFrom_cons, lineWidth_append_of_isOneLine hline, ← List.drop_drop,
        List.drop_left' rfl, ih]

theorem blockRestWidth_append (h : ∀ d ∈ u, d ≠ '/' ∧ d ≠ '*') :
    blockRestWidth depth (u ++ t) = (blockRestWidth depth t).map (· + u.length) := by
  induction u with
  | nil => simp
  | cons c u ih =>
    obtain ⟨hc, hu⟩ := List.forall_mem_cons.mp h
    rw [List.cons_append,
      blockRestWidth.eq_4 _ _ _ (by simp [hc]) (by simp [hc]), ih hu, Option.map_map]
    simp [Function.comp_def, Nat.add_assoc]

theorem blockRestWidth_snakeCaseFrom (before : Option Char) (h : blockRestWidth depth s = some n) :
    ∃ m, blockRestWidth depth (snakeCaseFrom before s) = some m ∧
      (snakeCaseFrom before s).drop m = Text.snakeCase (s.drop n) := by
  have hstroke : '/' ∈ sourceMarks := by decide
  have hstar : '*' ∈ sourceMarks := by decide
  induction depth, s using blockRestWidth.induct generalizing before n with
  | case1 => cases h
  | case2 depth rest ih =>
    rw [blockRestWidth] at h
    obtain ⟨k, hk, rfl⟩ := Option.map_eq_some_iff.mp h
    obtain ⟨m, hm, hdrop⟩ := ih none hk
    refine ⟨m + 2, ?_, ?_⟩
    · rw [snakeCaseFrom_mark hstroke, snakeCase_mark hstar, blockRestWidth, Text.snakeCase, hm]
      rfl
    · rw [snakeCaseFrom_mark hstroke, snakeCase_mark hstar]
      exact hdrop
  | case3 rest =>
    rw [blockRestWidth, if_pos rfl] at h
    cases h
    rw [snakeCaseFrom_mark hstar, snakeCase_mark hstroke]
    exact ⟨2, by rw [blockRestWidth, if_pos rfl], rfl⟩
  | case4 depth rest hdepth ih =>
    rw [blockRestWidth, if_neg hdepth] at h
    obtain ⟨k, hk, rfl⟩ := Option.map_eq_some_iff.mp h
    obtain ⟨m, hm, hdrop⟩ := ih none hk
    refine ⟨m + 2, ?_, ?_⟩
    · rw [snakeCaseFrom_mark hstar, snakeCase_mark hstroke, blockRestWidth,
        if_neg hdepth, Text.snakeCase, hm]
      rfl
    · rw [snakeCaseFrom_mark hstar, snakeCase_mark hstroke]
      exact hdrop
  | case5 depth c rest hopen hclose ih =>
    rw [blockRestWidth.eq_4 _ _ _ hopen hclose] at h
    obtain ⟨k, hk, rfl⟩ := Option.map_eq_some_iff.mp h
    obtain ⟨m, hm, hdrop⟩ := ih (some c) hk
    refine ⟨m + (spelling before c rest.head?).length, ?_, ?_⟩
    · rw [snakeCaseFrom_cons]
      -- a lone stroke or star must not meet its other half in what the rest becomes
      by_cases hmark : c = '/' ∨ c = '*'
      · have hc : c ∈ sourceMarks := by rcases hmark with rfl | rfl <;> decide
        rw [spelling_mark hc, List.singleton_append, blockRestWidth.eq_4, hm]
        · rfl
        · intro more hc he
          obtain ⟨_, hr⟩ := exists_cons_of_snakeCaseFrom hstar he
          exact hopen _ hc hr
        · intro more hc he
          obtain ⟨_, hr⟩ := exists_cons_of_snakeCaseFrom hstroke he
          exact hclose _ hc hr
      · obtain ⟨hcs, hct⟩ := not_or.mp hmark
        rw [blockRestWidth_append, hm]
        · rfl
        · exact fun d hd => ⟨fun he => hcs (eq_of_mem_spelling hstroke (he ▸ hd)),
            fun he => hct (eq_of_mem_spelling hstar (he ▸ hd))⟩
    · rw [snakeCaseFrom_cons, Nat.add_comm, ← List.drop_drop, List.drop_left' rfl, hdrop]
      rfl

theorem caseless_of_isBlank (h : isBlank c = true) : isCased c = false :=
  forall_isBlank (P := fun c => isCased c = false) (by decide) (by decide) (by decide) h

theorem snakeCaseFrom_blank (h : isBlank c = true) :
    snakeCaseFrom before (c :: s) = c :: Text.snakeCase s := by
  have hlower : c ≠ '-' ∧ lowerOf c = [c] :=
    forall_isBlank (P := fun c => c ≠ '-' ∧ lowerOf c = [c]) (by decide) (by decide) (by decide) h
  have hcase := caseless_of_isBlank h
  obtain ⟨⟨hupper, -⟩, -⟩ : (isUpper c = false ∧ isLower c = false) ∧ c.isDigit = false := by
    simpa [isCased] using hcase
  have hspelling : spelling before c s.head? = [c] := by simp [spelling, opensWord, hupper, hlower]
  rw [snakeCaseFrom_cons, hspelling, snakeCaseFrom_of_caseless (by simpa using hcase)]
  rfl

theorem triviaWidth_snakeCaseFrom (before : Option Char) (h : triviaWidth s = some n) :
    ∃ m, triviaWidth (snakeCaseFrom before s) = some m ∧
      (snakeCaseFrom before s).drop m = Text.snakeCase (s.drop n) := by
  have hstroke : '/' ∈ sourceMarks := by decide
  have hstar : '*' ∈ sourceMarks := by decide
  obtain ⟨c, rest, rfl, hblank, rfl⟩ | ⟨rest, rfl, hopens, rfl⟩ | ⟨rest, m, rfl, hopens, hm, rfl⟩ :=
    triviaWidth_cases h
  · rw [snakeCaseFrom_blank hblank]
    exact ⟨1, by rw [triviaWidth, if_pos hblank], rfl⟩
  · rw [snakeCaseFrom_mark hstroke, snakeCase_mark hstroke, triviaWidth_line, Text.snakeCase,
      opensNote_snakeCaseFrom, if_pos hopens]
    exact ⟨_, rfl, drop_lineWidth_snakeCaseFrom⟩
  · obtain ⟨k, hk, hdrop⟩ := blockRestWidth_snakeCaseFrom none hm
    rw [snakeCaseFrom_mark hstroke, snakeCase_mark hstar, triviaWidth_block, Text.snakeCase,
      opensBlock_snakeCaseFrom, if_pos hopens, hk]
    exact ⟨_, rfl, hdrop⟩

theorem afterTrivia_snakeCase (h : (afterTrivia s).head?.all isIdentifierStart = true) :
    afterTrivia (Text.snakeCase s) = Text.snakeCase (afterTrivia s) := by
  induction s using trivia_induction with
  | stop s hnone =>
    rw [afterTrivia_of_none hnone] at h ⊢
    refine afterTrivia_of_none ?_
    cases s with
    | nil => rfl
    | cons c rest =>
      obtain ⟨d, more, he, hd, -⟩ := exists_snakeCase_cons (by simpa using h) rest
      rw [he]
      exact triviaWidth_of_start hd
  | step s n hsome ih =>
    rw [afterTrivia_of_trivia hsome] at h ⊢
    obtain ⟨m, hm, hdrop⟩ := triviaWidth_snakeCaseFrom none hsome
    rw [Text.snakeCase, afterTrivia_of_trivia hm, hdrop, ih h]

theorem afterTrivia_snakeCaseFrom_eq_nil (before : Option Char) (h : afterTrivia s = []) :
    afterTrivia (snakeCaseFrom before s) = [] := by
  cases hs : triviaWidth s with
  | none =>
    obtain rfl : s = [] := afterTrivia_of_none hs ▸ h
    rfl
  | some n =>
    obtain ⟨m, hm, hdrop⟩ := triviaWidth_snakeCaseFrom before hs
    rw [afterTrivia_of_trivia hs] at h
    rw [afterTrivia_of_trivia hm, hdrop, afterTrivia_snakeCase (by simp [h]), h]
    rfl

theorem caseless_of_empty (h : afterTrivia s = []) : s.head?.any isCased = false := by
  cases s with
  | nil => rfl
  | cons c s =>
    rw [List.head?_cons, Option.any_some]
    rcases head_of_empty h with hblank | rfl
    · exact caseless_of_isBlank hblank
    · decide

theorem IsSole.fromToken_snakeCase (h : IsSole s w tail) :
    fromToken (Text.snakeCase s) = Text.snakeCase w ++ snakeCaseFrom w.getLast? tail := by
  obtain ⟨c, rest, rfl, hc⟩ := h.exists_start
  have hlower : tail.head?.any isLower = false := by
    have hcase := caseless_of_empty h.tail_empty
    cases tail with
    | nil => rfl
    | cons d tail => exact (Bool.or_eq_false_iff.mp (Bool.or_eq_false_iff.mp hcase).1).2
  have hall := h.word_tail
  rw [fromToken] at hall
  rw [fromToken, withoutMark_snakeCase,
    afterTrivia_snakeCase (by simp [hall, hc]), hall, Text.snakeCase,
    snakeCaseFrom_append hlower, Option.or_none]
  rfl

end CommandGen.Source
