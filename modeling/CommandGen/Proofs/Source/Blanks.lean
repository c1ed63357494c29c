import CommandGen.Proofs.Source.Sole

/-! Texts without comments: what is around their tokens are blanks, and perhaps a byte order mark at
the start. -/
namespace CommandGen.Source

open Text

variable {front s w tail : List Char} {c : Char}

theorem exists_blanks (h : '/' ∉ s) :
    ∃ blanks, s = blanks ++ afterTrivia s ∧ blanks.all isBlank = true := by
  induction s using trivia_induction with
  | stop s hnone => exact ⟨[], by rw [afterTrivia_of_none hnone]; rfl, rfl⟩
  | step s n hsome ih =>
    obtain ⟨c, rest, rfl, hblank, rfl⟩ | ⟨rest, rfl, -, -⟩ | ⟨rest, _, rfl, -, -, -⟩ :=
      triviaWidth_cases hsome
    · obtain ⟨blanks, he, hall⟩ := ih fun hm => h (List.mem_cons_of_mem c hm)
      refine ⟨c :: blanks, ?_, by simp [hblank, hall]⟩
      rw [afterTrivia_of_trivia hsome, List.cons_append, ← he]
      rfl
    · simp at h
    · simp at h

theorem all_isBlank_of_empty (hempty : afterTrivia s = []) (h : '/' ∉ s) :
    s.all isBlank = true := by
  obtain ⟨blanks, he, hall⟩ := exists_blanks h
  rwa [he, hempty, List.append_nil]

theorem afterTrivia_blanks_append (h : front.all isBlank = true) :
    afterTrivia (front ++ s) = afterTrivia s := by
  induction front with
  | nil => rfl
  | cons c front ih =>
    obtain ⟨hc, hfront⟩ := Bool.and_eq_true_iff.mp (List.all_cons ▸ h)
    have htrivia : triviaWidth (c :: (front ++ s)) = some 1 := by rw [triviaWidth, if_pos hc]
    rw [List.cons_append, afterTrivia_of_trivia htrivia]
    exact ih hfront

def isFront (s : List Char) : Bool := (withoutMark s).all isBlank

theorem isFront_of_blanks (h : front.all isBlank = true) : isFront front = true := by
  have hmark : isBlank byteOrderMark = false := by decide
  rw [isFront, withoutMark_of_head, h]
  intro hhead
  obtain ⟨rest, rfl⟩ := List.head?_eq_some_iff.mp hhead
  simp [hmark] at h

theorem exists_fromToken (h : '/' ∉ s) :
    ∃ front, s = front ++ fromToken s ∧ isFront front = true := by
  by_cases hmark : s.head? = some byteOrderMark
  · obtain ⟨rest, rfl⟩ := List.head?_eq_some_iff.mp hmark
    have hrest : withoutMark (byteOrderMark :: rest) = rest := by rw [withoutMark, if_pos rfl]
    obtain ⟨blanks, he, hall⟩ := exists_blanks (mt (List.mem_cons_of_mem _) h)
    refine ⟨byteOrderMark :: blanks, by rw [fromToken, hrest, List.cons_append, ← he], ?_⟩
    rw [isFront, withoutMark, if_pos rfl, hall]
  · obtain ⟨blanks, he, hall⟩ := exists_blanks h
    exact ⟨blanks, by rw [fromToken, withoutMark_of_head hmark, ← he], isFront_of_blanks hall⟩

theorem fromToken_front_append (hfront : isFront front = true) (hs : s.head? ≠ some byteOrderMark) :
    fromToken (front ++ s) = afterTrivia s := by
  cases front with
  | nil => rw [List.nil_append, fromToken, withoutMark_of_head hs]
  | cons c rest =>
    rw [isFront, withoutMark] at hfront
    rw [fromToken, List.cons_append, withoutMark]
    split_ifs at hfront ⊢
    · exact afterTrivia_blanks_append hfront
    · exact @afterTrivia_blanks_append (c :: rest) _ hfront

theorem isFront_append (hfront : isFront front = true) (htail : tail.all isBlank = true) :
    isFront (front ++ tail) = true := by
  cases front with
  | nil => exact isFront_of_blanks htail
  | cons c rest =>
    rw [isFront, withoutMark] at hfront
    rw [isFront, List.cons_append, withoutMark]
    split_ifs at hfront ⊢
    · rw [List.all_append, hfront, htail, Bool.and_self]
    · rw [← List.cons_append, List.all_append, hfront, htail, Bool.and_self]

/-- A text in front of which there are only blanks begins with its first character. -/
theorem fromToken_front_cons (hfront : isFront front = true) (hc : isIdentifierContinue c = true) :
    fromToken (front ++ c :: s) = c :: s := by
  have hmark : c ≠ byteOrderMark := by
    rintro rfl
    exact absurd hc (by decide +kernel)
  have hstroke : c ≠ '/' := by
    rintro rfl
    exact absurd hc (by decide)
  have hblank : isBlank c = false := by
    refine Bool.eq_false_iff.mpr fun hblank => ?_
    exact absurd (continuesWord_of_isBlank hblank) (by simp [continuesWord, hc])
  rw [fromToken_front_append hfront (by simpa using hmark),
    afterTrivia_of_none (triviaWidth_eq_none hblank hstroke)]

theorem IsSole.exists_front (h : IsSole s w tail) (hplain : '/' ∉ s) :
    ∃ front, isFront front = true ∧ tail.all isBlank = true ∧ s = front ++ (w ++ tail) := by
  obtain ⟨front, he, hfront⟩ := exists_fromToken hplain
  rw [h.word_tail] at he
  have htail : tail.all isBlank = true := by
    refine all_isBlank_of_empty h.tail_empty fun hin => hplain ?_
    rw [he]
    exact List.mem_append_right _ (List.mem_append_right _ hin)
  exact ⟨front, hfront, htail, he⟩

section

variable {owner member first second : String} {more : List Char}
  (hfirst : IsSole owner.toList first.toList tail) (hplain : '/' ∉ owner.toList)
  (hsecond : IsSole member.toList second.toList more)
  (hmark : member.toList.head? ≠ some byteOrderMark) (hstroke : member.toList.head? ≠ some '/')

include hfirst hplain hsecond hmark hstroke

theorem kindsOf_path : ∃ joined, kindsOf (withoutMark (owner ++ "::" ++ member).toList) =
    some [.word first, .mark ':' true, .mark ':' joined, .word second] := by
  obtain ⟨front, hfront, htail, he⟩ := hfirst.exists_front hplain
  have hread : fromToken (owner ++ "::" ++ member).toList =
      first.toList ++ (tail ++ ':' :: ':' :: member.toList) := by
    have htext : (owner ++ "::" ++ member).toList =
        front ++ (first.toList ++ (tail ++ ':' :: ':' :: member.toList)) := by simp [he]
    obtain ⟨c, rest, hword, hc⟩ := hfirst.exists_start
    rw [htext, hword, List.cons_append,
      fromToken_front_cons hfront (isIdentifierContinue_of_start hc)]
  have hends : (tail ++ ':' :: ':' :: member.toList).head?.any continuesWord = false := by
    cases tail with
    | nil => exact (by decide : continuesWord ':' = false)
    | cons c tail =>
      exact continuesWord_of_isBlank (Bool.and_eq_true_iff.mp (List.all_cons ▸ htail)).1
  have hmember : kindsOf member.toList = some [.word second] := by
    rw [← withoutMark_of_head hmark]
    exact kindsOf_eq_word_iff.mpr ⟨more, hsecond⟩
  have hcolon : ':' ∈ plainMarks := by decide
  have hboth := @kindsOf_mark_cons ':' (':' :: member.toList) hcolon (by simp)
  refine ⟨member.toList.head?.any fun d => plainMarks.contains d || d == '\'', ?_⟩
  rw [← kindsOf_afterTrivia, ← fromToken, hread,
    kindsOf_word_append hfirst.isWord hends, ← kindsOf_afterTrivia, afterTrivia_blanks_append htail,
    kindsOf_afterTrivia, hboth, kindsOf_mark_cons hcolon hstroke, hmember, String.ofList_toList]
  rfl

/-- A word without comments around it, two colons and a word make a path of two words. -/
theorem trees_path : ∃ s₁ s₂ s₃ s₄ joined, trees (owner ++ "::" ++ member).toList =
    some [.word first s₁, .mark ':' true s₂, .mark ':' joined s₃, .word second s₄] := by
  obtain ⟨joined, hkinds⟩ := kindsOf_path hfirst hplain hsecond hmark hstroke
  rw [← kinds_tokens] at hkinds
  obtain ⟨toks, htoks, hmap⟩ := Option.map_eq_some_iff.mp hkinds
  obtain ⟨⟨_, s₁⟩, toks, rfl, rfl, hmap₁⟩ := List.map_eq_cons_iff.mp hmap
  obtain ⟨⟨_, s₂⟩, toks, rfl, rfl, hmap₂⟩ := List.map_eq_cons_iff.mp hmap₁
  obtain ⟨⟨_, s₃⟩, toks, rfl, rfl, hmap₃⟩ := List.map_eq_cons_iff.mp hmap₂
  obtain ⟨⟨_, s₄⟩, rfl, rfl⟩ := List.map_eq_singleton_iff.mp hmap₃
  exact ⟨s₁, s₂, s₃, s₄, joined, by rw [trees, htoks]; rfl⟩

end

end CommandGen.Source
