import CommandGen.Proofs.Text.LetterCase
import CommandGen.Text.Words

/-! The spellings of names made of several words: where a name is cut, and that an identifier stays
one. -/
namespace CommandGen.Text

variable {before after : Option Char} {c d : Char} {s t : List Char}

def isCased (c : Char) : Bool := isUpper c || isLower c || c.isDigit

def spelling (before : Option Char) (c : Char) (after : Option Char) : List Char :=
  if c = '-' then ['_'] else if opensWord before c after then '_' :: lowerOf c else lowerOf c

theorem snakeCaseFrom_cons :
    snakeCaseFrom before (c :: s) = spelling before c s.head? ++ snakeCaseFrom (some c) s := rfl

theorem opensWord_of_caseless (h : before.any isCased = false) :
    opensWord before c after = false := by
  cases before with
  | none => simp [opensWord]
  | some b =>
    obtain ⟨⟨hupper, hlower⟩, hdigit⟩ :
        (isUpper b = false ∧ isLower b = false) ∧ b.isDigit = false := by
      simpa [isCased] using h
    simp [opensWord, hupper, hlower, hdigit]

theorem snakeCaseFrom_of_caseless (h : before.any isCased = false) :
    snakeCaseFrom before s = snakeCase s := by
  cases s with
  | nil => rfl
  | cons c s =>
    have hstart : opensWord none c s.head? = false := opensWord_of_caseless rfl
    rw [snakeCase, snakeCaseFrom_cons, snakeCaseFrom_cons, spelling, spelling,
      opensWord_of_caseless h, hstart]

/-- The last character of a part that has one is that of the part, whatever stands in front. -/
theorem getLast?_cons_or (c : Char) (s : List Char) (before : Option Char) :
    s.getLast?.or (some c) = ((c :: s).getLast?).or before := by
  cases s with
  | nil => rfl
  | cons d s => simp [List.getLast?_cons]

/-- The first part of a text is spelled as if nothing followed, where what follows is not in lower
case. -/
theorem snakeCaseFrom_append (h : t.head?.any isLower = false) :
    snakeCaseFrom before (s ++ t) =
      snakeCaseFrom before s ++ snakeCaseFrom (s.getLast?.or before) t := by
  induction s generalizing before with
  | nil => rfl
  | cons c s ih =>
    have hhead : spelling before c (s ++ t).head? = spelling before c s.head? := by
      cases s with
      | nil => simp [spelling, opensWord, h]
      | cons d s => rfl
    rw [List.cons_append, snakeCaseFrom_cons, snakeCaseFrom_cons, hhead, ih,
      getLast?_cons_or, List.append_assoc]

theorem ne_hyphen_of_continue (h : isIdentifierContinue c = true) : c ≠ '-' := by
  rintro rfl
  exact absurd h (by decide)

theorem all_continue_spelling (h : isIdentifierContinue c = true) :
    (spelling before c after).all isIdentifierContinue = true := by
  have hlower := (isCaseOf_lowerOf c).all_continue h
  have hline : isIdentifierContinue '_' = true := by decide
  unfold spelling
  rw [if_neg (ne_hyphen_of_continue h)]
  split_ifs <;> simp [hline, hlower]

theorem all_continue_snakeCaseFrom (h : s.all isIdentifierContinue = true) :
    (snakeCaseFrom before s).all isIdentifierContinue = true := by
  induction s generalizing before with
  | nil => rfl
  | cons c s ih =>
    obtain ⟨hc, hs⟩ := Bool.and_eq_true_iff.mp (List.all_cons ▸ h)
    rw [snakeCaseFrom_cons, List.all_append, all_continue_spelling hc, ih hs, Bool.and_self]

theorem exists_snakeCase_cons (h : isIdentifierStart c = true) (s : List Char) :
    ∃ d rest, snakeCase (c :: s) = d :: (rest ++ snakeCaseFrom (some c) s) ∧
      isIdentifierStart d = true ∧
      rest.all isIdentifierContinue = true := by
  obtain ⟨d, rest, he, hd, hrest⟩ := (isCaseOf_lowerOf c).exists_start h
  have hspelling : spelling none c s.head? = d :: rest := by
    rw [spelling, if_neg (ne_hyphen_of_continue (isIdentifierContinue_of_start h)),
      opensWord_of_caseless rfl, he]
    rfl
  exact ⟨d, rest, by rw [snakeCase, snakeCaseFrom_cons, hspelling, List.cons_append], hd, hrest⟩

theorem snakeCase_identifier (hc : isIdentifierStart c = true)
    (hs : s.all isIdentifierContinue = true) :
    ∃ d t, snakeCase (c :: s) = d :: t ∧ isIdentifierStart d = true ∧
      t.all isIdentifierContinue = true := by
  obtain ⟨d, rest, he, hd, hrest⟩ := exists_snakeCase_cons hc s
  exact ⟨d, _, he, hd, by rw [List.all_append, hrest, all_continue_snakeCaseFrom hs, Bool.and_self]⟩

theorem snakeCase_raw (s : List Char) :
    snakeCase ('r' :: '#' :: s) = 'r' :: '#' :: snakeCase s := by
  have hmark : isUpper '#' = false ∧ isCased '#' = false ∧ lowerOf '#' = ['#'] ∧
      lowerOf 'r' = ['r'] := by decide
  obtain ⟨hupper, hcase, hhash, hletter⟩ := hmark
  have hfirst : spelling none 'r' (some '#') = ['r'] := by
    rw [spelling, if_neg (by decide), opensWord_of_caseless rfl, hletter]
    rfl
  have hsecond : spelling (some 'r') '#' s.head? = ['#'] := by
    simp [spelling, opensWord, hupper, hhash]
  have hcons : snakeCase ('r' :: '#' :: s) =
      spelling none 'r' (some '#') ++
      (spelling (some 'r') '#' s.head? ++ snakeCaseFrom (some '#') s) := rfl
  rw [hcons, hfirst, hsecond, snakeCaseFrom_of_caseless (by simpa using hcase)]
  rfl

/-- Words joined, character by character. A capital is due at the start of each word. -/
def joinFrom (due : Bool) : List Char → List Char
  | [] => []
  | c :: rest =>
    if isWordSeparator c then joinFrom true rest
    else (if due then upperOf c else [c]) ++ joinFrom false rest

theorem joinFrom_eq (due : Bool) (s : List Char) :
    ∃ first more, pieces isWordSeparator s = first :: more ∧
    joinFrom due s = (if due then capitalize first else first) ++ more.flatMap capitalize := by
  induction s generalizing due with
  | nil => exact ⟨[], [], rfl, by cases due <;> rfl⟩
  | cons c s ih =>
    by_cases hc : isWordSeparator c = true
    · obtain ⟨first, more, hpieces, hjoin⟩ := ih true
      refine ⟨[], first :: more, by rw [pieces, if_pos hc, hpieces], ?_⟩
      rw [joinFrom, if_pos hc, hjoin]
      cases due <;> simp [capitalize]
    · obtain ⟨first, more, hpieces, hjoin⟩ := ih false
      refine ⟨c :: first, more, by rw [pieces, if_neg hc, hpieces], ?_⟩
      rw [joinFrom, if_neg hc, hjoin]
      cases due <;> simp [capitalize]

theorem pascalCase_eq (s : List Char) : pascalCase s = joinFrom true s := by
  obtain ⟨first, more, hpieces, hjoin⟩ := joinFrom_eq true s
  rw [pascalCase, hpieces, List.flatMap_cons, hjoin]
  rfl

theorem isWordSeparator_eq_false (hline : c ≠ '_') (hhyphen : c ≠ '-') :
    isWordSeparator c = false := by
  simp [isWordSeparator, hline, hhyphen]

theorem all_continue_joinFrom (due : Bool) (h : s.all isIdentifierContinue = true) :
    (joinFrom due s).all isIdentifierContinue = true := by
  induction s generalizing due with
  | nil => rfl
  | cons c s ih =>
    obtain ⟨hc, hs⟩ := Bool.and_eq_true_iff.mp (List.all_cons ▸ h)
    rw [joinFrom]
    split_ifs
    · exact ih true hs
    · rw [List.all_append, (isCaseOf_upperOf c).all_continue hc, ih false hs, Bool.and_self]
    · rw [List.all_append, ih false hs]
      simp [hc]

theorem joinFrom_eq_nil_iff {due : Bool} (h : s.all isIdentifierContinue = true) :
    joinFrom due s = [] ↔ ∀ c ∈ s, c = '_' := by
  induction s generalizing due with
  | nil => simp [joinFrom]
  | cons c s ih =>
    obtain ⟨hc, hs⟩ := Bool.and_eq_true_iff.mp (List.all_cons ▸ h)
    by_cases hline : c = '_'
    · rw [joinFrom, if_pos (by simp [isWordSeparator, hline]), ih hs]
      simp [hline]
    · rw [joinFrom, isWordSeparator_eq_false hline (ne_hyphen_of_continue hc),
        if_neg Bool.false_ne_true]
      cases due <;> simp [hline, (isCaseOf_upperOf c).ne_nil]

/-- Whether the first character that is not a low line, if there is one, has an upper case that may
start an identifier. -/
def capitalStarts (s : List Char) : Bool :=
  (s.find? (· ≠ '_')).all fun c => (upperOf c).head?.any isIdentifierStart

theorem capitalStarts_low_line : capitalStarts ('_' :: s) = capitalStarts s := by
  simp [capitalStarts]

theorem capitalStarts_of_ne (h : c ≠ '_') :
    capitalStarts (c :: s) = (upperOf c).head?.any isIdentifierStart := by
  simp [capitalStarts, h]

theorem joinFrom_low_line (due : Bool) : joinFrom due ('_' :: s) = joinFrom true s := rfl

theorem head?_joinFrom_true (h : s.all isIdentifierContinue = true)
    (ht : t.head?.any isIdentifierStart = true) :
    (joinFrom true s ++ t).head?.any isIdentifierStart = capitalStarts s := by
  induction s with
  | nil => exact ht
  | cons c s ih =>
    obtain ⟨hc, hs⟩ := Bool.and_eq_true_iff.mp (List.all_cons ▸ h)
    by_cases hline : c = '_'
    · rw [hline, joinFrom_low_line, ih hs, capitalStarts_low_line]
    · rw [joinFrom, isWordSeparator_eq_false hline (ne_hyphen_of_continue hc),
        if_neg Bool.false_ne_true, if_pos rfl, List.append_assoc,
        List.head?_append_of_ne_nil _ (isCaseOf_upperOf c).ne_nil, capitalStarts_of_ne hline]

/-- Where no capital is due the first character of an identifier stays, which may start one. -/
theorem head?_joinFrom_false (hc : isIdentifierStart c = true)
    (h : s.all isIdentifierContinue = true) (ht : t.head?.any isIdentifierStart = true) :
    (joinFrom false (c :: s) ++ t).head?.any isIdentifierStart = capitalStarts (c :: s) := by
  by_cases hline : c = '_'
  · rw [hline, joinFrom_low_line, head?_joinFrom_true h ht, capitalStarts_low_line]
  · obtain ⟨d, rest, he, hd, -⟩ := (isCaseOf_upperOf c).exists_start hc
    have hsep := isWordSeparator_eq_false hline
        (ne_hyphen_of_continue (isIdentifierContinue_of_start hc))
    simp [joinFrom, hsep, hc, capitalStarts_of_ne hline, he, hd]

def areKept (s : List Char) : Bool := s.all fun c => !isWordSeparator c && upperOf c == [c]

theorem areKept_cons :
    areKept (c :: s) = true ↔ (isWordSeparator c = false ∧ upperOf c = [c]) ∧ areKept s = true := by
  simp [areKept]

theorem joinFrom_of_areKept {due : Bool} (h : areKept s = true) : joinFrom due s = s := by
  induction s generalizing due with
  | nil => rfl
  | cons c s ih =>
    obtain ⟨⟨hsep, hupper⟩, hs⟩ := areKept_cons.mp h
    simp [joinFrom, hsep, hupper, ih hs]

theorem joinFrom_append_kept {due : Bool} (h : areKept t = true) :
    joinFrom due (s ++ t) = joinFrom due s ++ t := by
  induction s generalizing due with
  | nil => exact joinFrom_of_areKept h
  | cons c s ih =>
    rw [List.cons_append, joinFrom, joinFrom]
    split_ifs <;> simp [ih]

theorem joinFrom_false_kept_append (h : areKept s = true) :
    joinFrom false (s ++ t) = s ++ joinFrom false t := by
  induction s with
  | nil => rfl
  | cons c s ih =>
    obtain ⟨⟨hsep, -⟩, hs⟩ := areKept_cons.mp h
    simp [joinFrom, hsep, ih hs]

theorem joinFrom_kept_append {due : Bool} (h : areKept s = true) :
    joinFrom due (s ++ t) = s ++ joinFrom (due && s.isEmpty) t := by
  cases s with
  | nil => simp
  | cons c s =>
    obtain ⟨⟨hsep, hupper⟩, hs⟩ := areKept_cons.mp h
    simp [joinFrom, hsep, hupper, joinFrom_false_kept_append hs]

theorem joinFrom_raw (due : Bool) (s : List Char) :
    joinFrom due ('r' :: '#' :: s) = (if due then 'R' else 'r') :: '#' :: joinFrom false s := by
  have hletter :
      isWordSeparator 'r' = false ∧ isWordSeparator '#' = false ∧ upperOf 'r' = ['R'] := by decide
  obtain ⟨hr, hhash, hupper⟩ := hletter
  cases due <;> simp [joinFrom, hr, hhash, hupper]

end CommandGen.Text
