import CommandGen.Proofs.Source.Reading
import CommandGen.Proofs.Source.Token
import CommandGen.Source.File
import CommandGen.Source.Name

/-! Texts that are read as one word. Blanks and comments may stand around it, as what is before a
token and what is after it makes no token. -/
namespace CommandGen.Source

open Text

variable {s w tail : List Char} {c : Char} {t : Token} {known n : ℕ}

/-- What follows two strokes, if these open a comment that documents nothing. -/
def opensNote : List Char → Bool
  | '/' :: '/' :: _ => true
  | '/' :: _ | '!' :: _ => false
  | _ => true

/-- What follows a stroke and a star, if these open a comment that documents nothing. -/
def opensBlock : List Char → Bool
  | '*' :: '/' :: _ | '*' :: '*' :: _ => true
  | '*' :: _ | '!' :: _ => false
  | _ => true

theorem triviaWidth_line :
    triviaWidth ('/' :: '/' :: s) = if opensNote s then some (lineWidth s + 2) else none := by
  rw [triviaWidth, if_neg (by decide)]
  unfold commentWidth opensNote
  split <;> simp_all [lineWidth] <;> omega

theorem triviaWidth_block :
    triviaWidth ('/' :: '*' :: s) = if opensBlock s then (blockRestWidth 1 s).map (· + 2)
      else none := by
  rw [triviaWidth, if_neg (by decide)]
  unfold commentWidth opensBlock
  split <;> simp_all [blockWidth, blockRestWidth]

theorem triviaWidth_cases (h : triviaWidth s = some n) :
    (∃ c rest, s = c :: rest ∧ isBlank c = true ∧ n = 1) ∨
    (∃ rest, s = '/' :: '/' :: rest ∧ opensNote rest = true ∧ n = lineWidth rest + 2) ∨
    ∃ rest m, s = '/' :: '*' :: rest ∧ opensBlock rest = true ∧
      blockRestWidth 1 rest = some m ∧ n = m + 2 := by
  cases s with
  | nil => cases h
  | cons c rest =>
    by_cases hblank : isBlank c = true
    · rw [triviaWidth, if_pos hblank] at h
      exact .inl ⟨c, rest, rfl, hblank, (Option.some.inj h).symm⟩
    · by_cases hline : ∃ more, c :: rest = '/' :: '/' :: more
      · obtain ⟨more, he⟩ := hline
        rw [he, triviaWidth_line] at h
        split_ifs at h with hopens
        exact .inr (.inl ⟨more, he, hopens, (Option.some.inj h).symm⟩)
      · by_cases hblock : ∃ more, c :: rest = '/' :: '*' :: more
        · obtain ⟨more, he⟩ := hblock
          rw [he, triviaWidth_block] at h
          split_ifs at h with hopens
          obtain ⟨m, hm, rfl⟩ := Option.map_eq_some_iff.mp h
          exact .inr (.inr ⟨more, m, he, hopens, hm, rfl⟩)
        · rw [triviaWidth, if_neg hblank] at h
          unfold commentWidth at h
          split at h <;> simp_all

theorem head_of_trivia (h : triviaWidth (c :: s) = some n) : isBlank c = true ∨ c = '/' := by
  obtain ⟨_, _, he, hblank, -⟩ | ⟨_, he, -, -⟩ | ⟨_, _, he, -, -, -⟩ := triviaWidth_cases h
  · exact .inl ((List.cons.inj he).1 ▸ hblank)
  · exact .inr (List.cons.inj he).1
  · exact .inr (List.cons.inj he).1

theorem triviaWidth_pos (h : triviaWidth s = some n) : 0 < n := by
  obtain ⟨_, _, -, -, rfl⟩ | ⟨_, -, -, rfl⟩ | ⟨_, _, -, -, -, rfl⟩ :=
    triviaWidth_cases h <;> exact Nat.succ_pos _

theorem afterTriviaFrom_eq : afterTriviaFrom known s = afterTrivia (s.drop known) := by
  induction s generalizing known with
  | nil => cases known <;> rfl
  | cons c s ih =>
    cases known with
    | zero => rfl
    | succ known => exact ih

theorem afterTrivia_of_trivia (h : triviaWidth s = some n) :
    afterTrivia s = afterTrivia (s.drop n) := by
  cases s with
  | nil => cases h
  | cons c s =>
    obtain ⟨m, rfl⟩ := Nat.exists_eq_succ_of_ne_zero (triviaWidth_pos h).ne'
    rw [afterTrivia, afterTriviaFrom, h]
    exact afterTriviaFrom_eq

theorem afterTrivia_of_none (h : triviaWidth s = none) : afterTrivia s = s := by
  cases s with
  | nil => rfl
  | cons c s => rw [afterTrivia, afterTriviaFrom, h]

/-- What holds where no blank or comment stands, and in front of one if it holds behind it, holds of
every text. -/
theorem trivia_induction {P : List Char → Prop} (stop : ∀ s, triviaWidth s = none → P s)
    (step : ∀ s n, triviaWidth s = some n → P (s.drop n) → P s) (s : List Char) : P s := by
  cases h : triviaWidth s with
  | none => exact stop s h
  | some n =>
    have hpos := triviaWidth_pos h
    have hs : s ≠ [] := by
      rintro rfl
      cases h
    have hlength : 0 < s.length := List.length_pos_iff.mpr hs
    have hshorter : (s.drop n).length < s.length := by
      rw [List.length_drop]
      omega
    exact step s n h (trivia_induction stop step (s.drop n))
termination_by s.length

theorem triviaWidth_afterTrivia (s : List Char) : triviaWidth (afterTrivia s) = none := by
  induction s using trivia_induction with
  | stop s h => rwa [afterTrivia_of_none h]
  | step s n h ih => rwa [afterTrivia_of_trivia h]

def kindsOf (s : List Char) : Option (List Token) := (tokensFrom 0 0 s).map (·.map (·.1))

theorem kinds_tokensFrom_eq (at_ : ℕ) :
    (tokensFrom at_ known s).map (·.map (·.1)) = kindsOf (s.drop known) := by
  induction s generalizing at_ known with
  | nil => cases known <;> rfl
  | cons c s ih =>
    cases known with
    | zero => exact kinds_tokensFrom at_ 0 0 (c :: s)
    | succ known => exact ih _

theorem kindsOf_of_trivia (h : triviaWidth s = some n) : kindsOf s = kindsOf (s.drop n) := by
  cases s with
  | nil => cases h
  | cons c s =>
    obtain ⟨m, rfl⟩ := Nat.exists_eq_succ_of_ne_zero (triviaWidth_pos h).ne'
    rw [kindsOf, tokensFrom, h]
    exact kinds_tokensFrom_eq _

theorem kindsOf_afterTrivia (s : List Char) : kindsOf (afterTrivia s) = kindsOf s := by
  induction s using trivia_induction with
  | stop s h => rw [afterTrivia_of_none h]
  | step s n h ih => rw [afterTrivia_of_trivia h, ih, kindsOf_of_trivia h]

theorem kindsOf_of_none {rest : List Char} (h : triviaWidth (c :: rest) = none) :
    kindsOf (c :: rest) = (tokenAt (c :: rest)).bind fun (t, n) =>
      (kindsOf (rest.drop (n - 1))).map (t :: ·) := by
  rw [kindsOf, tokensFrom, h]
  cases tokenAt (c :: rest) with
  | none => rfl
  | some found =>
    obtain ⟨t, n⟩ := found
    simp [← kinds_tokensFrom_eq 1, Function.comp_def]

theorem kindsOf_eq_nil_iff : kindsOf s = some [] ↔ afterTrivia s = [] := by
  rw [← kindsOf_afterTrivia]
  have htrivia := triviaWidth_afterTrivia s
  cases hs : afterTrivia s with
  | nil => exact ⟨fun _ => rfl, fun _ => rfl⟩
  | cons c rest =>
    rw [hs] at htrivia
    simp [kindsOf_of_none htrivia, Option.bind_eq_some_iff]

def fromToken (s : List Char) : List Char := afterTrivia (withoutMark s)

/-- A text that is one word between blanks and comments, and what follows the word. -/
structure IsSole (s w tail : List Char) : Prop where
  word_tail : fromToken s = w ++ tail
  isWord : isWord w = true
  tail_empty : afterTrivia tail = []

theorem withoutMark_of_head (h : s.head? ≠ some byteOrderMark) : withoutMark s = s := by
  cases s with
  | nil => rfl
  | cons c rest => exact if_neg (by simpa using h)

theorem fromToken_of_start (h : isIdentifierStart c = true) : fromToken (c :: s) = c :: s := by
  have hmark : (c :: s).head? ≠ some byteOrderMark := by
    rintro ⟨⟩
    exact absurd h (by decide +kernel)
  rw [fromToken, withoutMark_of_head hmark, afterTrivia_of_none (triviaWidth_of_start h)]

/-- In front of the first token there is nothing, or something that begins like this. -/
theorem fromToken_cases (s : List Char) :
    fromToken s = s ∨ ∃ c rest, s = c :: rest ∧
      (c = byteOrderMark ∨ isBlank c = true ∨ c = '/') := by
  cases s with
  | nil => exact .inl rfl
  | cons c rest =>
    by_cases hmark : c = byteOrderMark
    · exact .inr ⟨c, rest, rfl, .inl hmark⟩
    · cases htrivia : triviaWidth (c :: rest) with
      | none => exact .inl (by rw [fromToken, withoutMark_of_head (by simpa using hmark),
        afterTrivia_of_none htrivia])
      | some n => exact .inr ⟨c, rest, rfl, .inr (head_of_trivia htrivia)⟩

theorem isIdentifierStart_of_front (h : c = byteOrderMark ∨ isBlank c = true ∨ c = '/') :
    isIdentifierStart c = false := by
  rcases h with rfl | hblank | rfl
  · decide +kernel
  · exact Bool.eq_false_iff.mpr fun hstart =>
      Bool.noConfusion (hblank.symm.trans (isBlank_of_start hstart))
  · decide

theorem head_of_empty (h : afterTrivia (c :: s) = []) : isBlank c = true ∨ c = '/' := by
  cases htrivia : triviaWidth (c :: s) with
  | none => exact absurd (afterTrivia_of_none htrivia ▸ h) (List.cons_ne_nil _ _)
  | some n => exact head_of_trivia htrivia

theorem continuesWord_of_empty (h : afterTrivia s = []) : s.head?.any continuesWord = false := by
  cases s with
  | nil => rfl
  | cons c s =>
    rw [List.head?_cons, Option.any_some]
    rcases head_of_empty h with hblank | rfl
    · exact continuesWord_of_isBlank hblank
    · decide

theorem identifierWidth_pos (h : identifierWidth s = some n) : 0 < n := by
  unfold identifierWidth at h
  split at h
  · split at h
    · split_ifs at h
      cases h
      exact Nat.succ_pos _
    · cases h
  · unfold plainIdentifierWidth at h
    split at h
    · cases h
    · split_ifs at h
      cases h
      omega

theorem tokenAt_eq_some_word {text : String} (h : tokenAt s = some (.word text, n)) :
    0 < n ∧ text.toList = s.take n := by
  rcases tokenAt_cases h with ⟨_, ⟨⟩⟩ | ⟨_, ⟨⟩⟩ | ⟨_, -, hd, -⟩ | ⟨_, _, -, ⟨⟩, -⟩ | hword
  · simpa using delimiterAt_eq_some hd
  · unfold wordAt at hword
    split_ifs at hword
    obtain ⟨m, hm, he⟩ := Option.map_eq_some_iff.mp hword
    obtain ⟨htext, rfl⟩ := Prod.mk.inj he
    obtain rfl := Token.word.inj htext
    exact ⟨identifierWidth_pos hm, String.toList_ofList⟩

theorem kindsOf_word_append {rest : List Char} (h : isWord w = true)
    (hrest : rest.head?.any continuesWord = false) :
    kindsOf (w ++ rest) = (kindsOf rest).map (.word (String.ofList w) :: ·) := by
  obtain ⟨htrivia, htoken⟩ := tokenAt_word h hrest
  obtain ⟨hpos, -⟩ := tokenAt_eq_some_word htoken
  cases w with
  | nil => cases hpos
  | cons c w =>
    have hdrop : (w ++ rest).drop ((c :: w).length - 1) = rest := List.drop_left' rfl
    rw [List.cons_append] at htrivia htoken ⊢
    rw [kindsOf_of_none htrivia, htoken, Option.bind_some]
    dsimp only
    rw [hdrop]

theorem kindsOf_mark_cons {rest : List Char} (h : c ∈ plainMarks) (hrest : rest.head? ≠ some '/') :
    kindsOf (c :: rest) =
      (kindsOf rest).map
        (.mark c (rest.head?.any fun d => plainMarks.contains d || d == '\'') :: ·) := by
  obtain ⟨htrivia, htoken⟩ := tokenAt_mark h hrest
  rw [kindsOf_of_none htrivia, htoken]
  rfl

theorem kindsOf_eq_word_iff {word : String} :
    kindsOf (withoutMark s) = some [.word word] ↔ ∃ tail, IsSole s word.toList tail := by
  rw [← kindsOf_afterTrivia]
  have htrivia := triviaWidth_afterTrivia (withoutMark s)
  constructor
  · intro h
    cases hs : afterTrivia (withoutMark s) with
    | nil =>
      rw [hs] at h
      cases h
    | cons c rest =>
      rw [hs] at h htrivia
      rw [kindsOf_of_none htrivia] at h
      obtain ⟨⟨t, n⟩, htoken, hkinds⟩ := Option.bind_eq_some_iff.mp h
      obtain ⟨more, hmore, he⟩ := Option.map_eq_some_iff.mp hkinds
      obtain ⟨rfl, rfl⟩ := List.cons.inj he
      obtain ⟨hn, htext⟩ := tokenAt_eq_some_word htoken
      obtain ⟨m, rfl⟩ := Nat.exists_eq_succ_of_ne_zero hn.ne'
      exact ⟨(c :: rest).drop (m + 1), by rw [fromToken, hs, htext, List.take_append_drop],
        isWord_of_tokenAt htoken, kindsOf_eq_nil_iff.mp hmore⟩
  · rintro ⟨tail, hall, hword, htail⟩
    rw [← fromToken, hall, kindsOf_word_append hword (continuesWord_of_empty htail),
      kindsOf_eq_nil_iff.mpr htail, String.ofList_toList]
    rfl

theorem kinds_tokens (s : List Char) : (tokens s).map (·.map (·.1)) = kindsOf (withoutMark s) := by
  cases s with
  | nil => rfl
  | cons c rest =>
    rw [tokens, withoutMark]
    split_ifs
    · exact kinds_tokensFrom 1 0 0 rest
    · rfl

theorem trees_eq_word_iff {word : String} :
    (∃ span, trees s = some [.word word span]) ↔ ∃ tail, IsSole s word.toList tail := by
  rw [← kindsOf_eq_word_iff, ← kinds_tokens, trees]
  constructor
  · rintro ⟨span, h⟩
    obtain ⟨toks, htoks, hnest⟩ := Option.bind_eq_some_iff.mp h
    rw [htoks, (nest_eq_some_iff.mp hnest).eq_singleton_word]
    rfl
  · intro h
    obtain ⟨toks, htoks, hkinds⟩ := Option.map_eq_some_iff.mp h
    obtain ⟨⟨_, span⟩, rfl, rfl⟩ := List.map_eq_singleton_iff.mp hkinds
    exact ⟨span, by rw [htoks]; rfl⟩

namespace IsSole

theorem of_isWord (h : Source.isWord w = true) : IsSole w w [] := by
  obtain ⟨c, rest, rfl, hc⟩ :=
    start_of_identifierWidth (beq_iff_eq.mp (Bool.and_eq_true_iff.mp h).1)
  exact ⟨by rw [fromToken_of_start hc, List.append_nil], h, rfl⟩

theorem exists_start (h : IsSole s w tail) : ∃ c rest, w = c :: rest ∧ isIdentifierStart c = true :=
  start_of_identifierWidth (beq_iff_eq.mp (Bool.and_eq_true_iff.mp h.isWord).1)

theorem identifierWidth_eq (h : IsSole s w tail) :
    identifierWidth (fromToken s) = some w.length := by
  rw [h.word_tail]
  exact identifierWidth_append (beq_iff_eq.mp (Bool.and_eq_true_iff.mp h.isWord).1)
    (continuesWord_of_empty h.tail_empty)

end IsSole

/-- Identifiers are the words that are not reserved, with blanks and comments around them. -/
theorem isIdentifier_iff {name : String} : isIdentifier name = true ↔
    ∃ word tail, IsSole name.toList word.toList tail ∧ word ∉ reservedWords := by
  have hread : isIdentifier name = true ↔
      ∃ word, (∃ span, trees name.toList = some [.word word span]) ∧ word ∉ reservedWords := by
    unfold isIdentifier
    split
    · rename_i word span he
      simp [he]
    · rename_i hother
      simp only [Bool.false_eq_true, false_iff, not_exists, not_and, not_not]
      rintro word ⟨span, he⟩
      exact (hother _ _ he).elim
  simp only [hread, trees_eq_word_iff, exists_and_right]

theorem isIdentifier_of_isSole {name word : String} (h : IsSole name.toList word.toList tail) :
    isIdentifier name = true ↔ word ∉ reservedWords := by
  refine ⟨fun hname => ?_, fun hfree => isIdentifier_iff.mpr ⟨word, tail, h, hfree⟩⟩
  obtain ⟨other, rest, hother, hfree⟩ := isIdentifier_iff.mp hname
  have hsame :=
    (kindsOf_eq_word_iff.mpr ⟨tail, h⟩).symm.trans (kindsOf_eq_word_iff.mpr ⟨rest, hother⟩)
  obtain rfl : word = other := by simpa using hsame
  exact hfree

theorem exists_identifierWidth {name : String} (hname : fromToken name.toList = s)
    (h : isIdentifier name = true) :
    ∃ n, identifierWidth s = some n ∧ afterTrivia (s.drop n) = [] := by
  obtain ⟨word, tail, hsole, -⟩ := isIdentifier_iff.mp h
  exact ⟨_, hname ▸ hsole.identifierWidth_eq, by rw [← hname, hsole.word_tail,
    List.drop_left' rfl, hsole.tail_empty]⟩

theorem isIdentifier_of_hash {name : String} {rest : List Char}
    (hname : fromToken name.toList = w ++ '#' :: rest)
    (hwidth : identifierWidth (w ++ '#' :: rest) = some w.length) : isIdentifier name = false := by
  refine Bool.eq_false_iff.mpr fun h => ?_
  obtain ⟨n, hn, hrest⟩ := exists_identifierWidth hname h
  obtain rfl : w.length = n := Option.some.inj (hwidth.symm.trans hn)
  rw [List.drop_left' rfl] at hrest
  rcases head_of_empty hrest with hblank | hstroke
  · exact absurd hblank (by decide)
  · exact absurd hstroke (by decide)

end CommandGen.Source
