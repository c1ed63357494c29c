import CommandGen.Source.Tree
import CommandGen.Proofs.Source.Literal
import CommandGen.Proofs.Source.Word

/-! Source text put together from pieces. Each piece is read for itself, as one token or as none, as
long as what follows it does not run on into it. -/
namespace CommandGen.Source

open Text

/-- A part of a source text. -/
inductive Piece where
  | blank (char : Char)
  | note (text : List Char)
  | doc (text : List Char)
  | word (text : String)
  | mark (char : Char) (joined : Bool)
  | quoted (text : String)
  | opening (delimiter : Delimiter)
  | closing (delimiter : Delimiter)

def Delimiter.openingChar : Delimiter → Char
  | .paren => '('
  | .bracket => '['
  | .brace => '\x7b'

def Delimiter.closingChar : Delimiter → Char
  | .paren => ')'
  | .bracket => ']'
  | .brace => '\x7d'

namespace Piece

def chars : Piece → List Char
  | .blank c => [c]
  | .note text => '/' :: '/' :: text
  | .doc text => '/' :: '/' :: '/' :: text
  | .word text => text.toList
  | .mark c _ => [c]
  | .quoted text => quote text.toList
  | .opening d => [d.openingChar]
  | .closing d => [d.closingChar]

def token? : Piece → Option Token
  | .blank _ | .note _ => none
  | .doc text => some (.doc ⟨false, text, text.length + 3⟩)
  | .word text => some (.word text)
  | .mark c joined => some (.mark c joined)
  | .quoted text => some (.literal (.string text))
  | .opening d => some (.opening d)
  | .closing d => some (.closing d)

end Piece

def plainMarks : List Char := "~!@#$%^&*-=+|;:,<.>?".toList

def isOneLine (s : List Char) : Bool := s.all fun c => c != '\n' && c != '\r'

/-- Whether a piece is read for itself where this character, or the end of the text, follows. -/
def Piece.fits : Piece → Option Char → Bool
  | .blank c, _ => isBlank c
  | .note text, next =>
    isOneLine text && next == some '\n' && text.head? != some '/' && text.head? != some '!'
  | .doc text, next => isOneLine text && next == some '\n' && text.head? != some '/'
  | .word text, next => isWord text.toList && !next.any continuesWord
  | .mark c joined, next => plainMarks.contains c && next != some '/' && joined == next.any fun d =>
      plainMarks.contains d || d == '\''
  | .quoted _, next => !next.any isIdentifierStart
  | .opening _, next => next != some '/'
  | .closing _, _ => true

variable {s rest text : List Char} {c : Char} {at_ : ℕ} {t : Token}

theorem literal?_mark (h : c ∈ plainMarks) : literal? (c :: s) = none := by
  have hall : plainMarks.all (fun d => d ∉ ['"', '\''] ∧ d.isDigit = false ∧ d ∉ ['r', 'b', 'c']) =
      true := by
    decide +kernel
  obtain ⟨hquotes, hdigit, hother⟩ := of_decide_eq_true (List.all_eq_true.mp hall c h)
  have hfirst : literalStarts.all (·.head?.any (['r', 'b', 'c'].contains ·)) = true := by decide
  refine literal?_eq_none hquotes hdigit fun p hp hpre => hother ?_
  cases p with
  | nil => exact absurd hp (by decide)
  | cons d p =>
    obtain ⟨rfl, -⟩ := List.cons_prefix_cons.mp hpre
    simpa using List.all_eq_true.mp hfirst _ hp

theorem isSome_markAt (h : s.head? ≠ some '/') :
    (markAt s).isSome = s.head?.any fun d => plainMarks.contains d || d == '\'' := by
  cases s with
  | nil => rfl
  | cons c s =>
    have hslash : c ≠ '/' := by simpa using h
    have hmarks :
        "~!@#$%^&*-=+|;:,<.>/?'".toList.contains c = (plainMarks.contains c || c == '\'') := by
      rw [show "~!@#$%^&*-=+|;:,<.>/?'".toList =
          "~!@#$%^&*-=+|;:,<.>".toList ++ ['/', '?', '\''] from rfl,
        show plainMarks = "~!@#$%^&*-=+|;:,<.>".toList ++ ['?'] from rfl]
      simp only [List.contains_append, List.contains_cons, List.contains_nil,
        beq_eq_false_iff_ne.mpr hslash, Bool.or_false, Bool.false_or, Bool.or_assoc]
    rw [markAt.eq_3 _ _ (by simp [hslash]) (by simp [hslash]), List.head?_cons,
      Option.any_some, hmarks]
    cases plainMarks.contains c || c == '\'' <;> rfl

theorem tokenAt_mark (h : c ∈ plainMarks) (hrest : rest.head? ≠ some '/') :
    triviaWidth (c :: rest) = none ∧
      tokenAt (c :: rest) =
        some (.mark c (rest.head?.any fun d => plainMarks.contains d || d == '\''), 1) := by
  have hall : plainMarks.all
      (fun d => isBlank d = false ∧ d ≠ '/' ∧ d ≠ '(' ∧ (delimiterAt d).isNone ∧ d ≠ '\'' ∧
      d ∈ "~!@#$%^&*-=+|;:,<.>/?'".toList) = true := by decide +kernel
  obtain ⟨hblank, hslash, hparen, hdelimiter, hquote, hmark⟩ :=
    of_decide_eq_true (List.all_eq_true.mp hall c h)
  have hat : markAt (c :: rest) = some c := by
    rw [markAt.eq_3 _ _ (by simp [hslash]) (by simp [hslash]), if_pos (by simpa using hmark)]
  refine ⟨triviaWidth_eq_none hblank hslash, ?_⟩
  simp [tokenAt, docComment?_eq_none hslash, not_fault (.inl hparen),
    Option.isNone_iff_eq_none.mp hdelimiter, literal?_mark h, punctuationAt, hat,
    hquote, isSome_markAt hrest]

/-- A quoted text is one token, and no character of what follows is taken with it but an identifier,
as its suffix. -/
theorem tokenAt_quote (value : String) (rest : List Char) :
    triviaWidth (quote value.toList ++ rest) = none ∧ tokenAt (quote value.toList ++ rest) =
      some (.literal (.string value), (quote value.toList).length + suffixWidth rest) := by
  have hliteral : literal? (quote value.toList ++ rest) =
      some (.string value, (quote value.toList).length + suffixWidth rest) := by
    rw [literal?, stringLiteral_quote, String.ofList_toList]
    rfl
  obtain ⟨more, hmore⟩ : ∃ more, quote value.toList ++ rest = '"' :: more := ⟨_, List.cons_append⟩
  rw [hmore] at hliteral ⊢
  refine ⟨triviaWidth_eq_none (by decide) (by decide), ?_⟩
  rw [tokenAt, docComment?_eq_none (by decide), not_fault (.inl (by decide)), hliteral]
  rfl

theorem tokenAt_opening (d : Delimiter) (hrest : rest.head? ≠ some '/') :
    triviaWidth (d.openingChar :: rest) = none ∧
      tokenAt (d.openingChar :: rest) = some (.opening d, 1) := by
  have hslash : d.openingChar ≠ '/' := by cases d <;> decide
  refine ⟨triviaWidth_eq_none (by cases d <;> decide) hslash, ?_⟩
  rw [tokenAt, docComment?_eq_none hslash, not_fault (.inr hrest)]
  cases d <;> rfl

theorem tokenAt_closing (d : Delimiter) :
    triviaWidth (d.closingChar :: rest) = none ∧
      tokenAt (d.closingChar :: rest) = some (.closing d, 1) := by
  have hslash : d.closingChar ≠ '/' := by cases d <;> decide
  refine ⟨triviaWidth_eq_none (by cases d <;> decide) hslash, ?_⟩
  rw [tokenAt, docComment?_eq_none hslash, not_fault (.inl (by cases d <;> decide))]
  cases d <;> rfl

theorem lineWidth_append (h : isOneLine text = true) (hrest : rest.head? = some '\n') :
    lineWidth (text ++ rest) = text.length := by
  induction text with
  | nil =>
    obtain ⟨more, rfl⟩ := List.head?_eq_some_iff.mp hrest
    simp [lineWidth]
  | cons c text ih =>
    simp only [isOneLine, List.all_cons, Bool.and_eq_true, bne_iff_ne] at h ih
    rw [List.cons_append, lineWidth.eq_4 _ _ (by simp [h.1]) (by simp [h.1]), ih h.2,
      List.length_cons, Nat.add_comm]

theorem lineText_append (h : isOneLine text = true) (hrest : rest.head? = some '\n') :
    lineText (text ++ rest) = text := by
  induction text with
  | nil =>
    obtain ⟨more, rfl⟩ := List.head?_eq_some_iff.mp hrest
    simp [lineText]
  | cons c text ih =>
    simp only [isOneLine, List.all_cons, Bool.and_eq_true, bne_iff_ne] at h ih
    rw [List.cons_append, lineText.eq_4 _ _ (by simp [h.1]) (by simp [h.1]), ih h.2]

theorem hasBareReturn_of_isOneLine (h : isOneLine text = true) : hasBareReturn text = false := by
  induction text with
  | nil => rfl
  | cons c text ih =>
    simp only [isOneLine, List.all_cons, Bool.and_eq_true, bne_iff_ne] at h ih
    rw [hasBareReturn.eq_4 _ _ (by simp [h.1]) (by simp [h.1]), ih h.2]

theorem exists_cons_line (text : List Char) (hrest : rest.head? = some '\n') :
    ∃ c more, text ++ rest = c :: more ∧
    ∀ d, d ≠ '\n' → text.head? ≠ some d → c ≠ d := by
  obtain ⟨more, rfl⟩ := List.head?_eq_some_iff.mp hrest
  cases text with
  | nil => exact ⟨'\n', more, rfl, fun d hd _ => hd.symm⟩
  | cons c text => exact ⟨c, _, rfl, fun d _ hc => by simpa using hc⟩

theorem triviaWidth_note (h : isOneLine text = true) (hrest : rest.head? = some '\n')
    (hslash : text.head? ≠ some '/') (hbang : text.head? ≠ some '!') :
    triviaWidth ('/' :: '/' :: (text ++ rest)) = some (text.length + 2) := by
  have hwidth : lineWidth ('/' :: '/' :: (text ++ rest)) = text.length + 2 :=
    @lineWidth_append _ ('/' :: '/' :: text) (by simpa [isOneLine] using h) hrest
  obtain ⟨c, more, hline, hne⟩ := exists_cons_line text hrest
  rw [triviaWidth, if_neg (by decide), ← hwidth, hline, commentWidth.eq_4]
  · exact fun _ he => hne '/' (by decide) hslash (List.cons.inj he).1
  · exact fun _ he => hne '/' (by decide) hslash (List.cons.inj he).1
  · exact fun _ he => hne '!' (by decide) hbang (List.cons.inj he).1

theorem tokenAt_doc (h : isOneLine text = true) (hrest : rest.head? = some '\n')
    (hslash : text.head? ≠ some '/') :
    triviaWidth ('/' :: '/' :: '/' :: (text ++ rest)) = none ∧
      tokenAt ('/' :: '/' :: '/' :: (text ++ rest)) =
        some (.doc ⟨false, text, text.length + 3⟩, text.length + 3) := by
  have hwidth := lineWidth_append h hrest
  have htext := lineText_append h hrest
  obtain ⟨c, more, hline, hne⟩ := exists_cons_line text hrest
  have hc : c ≠ '/' := hne '/' (by decide) hslash
  have hdoc : docComment? ('/' :: '/' :: '/' :: (text ++ rest)) =
      some ⟨false, text, text.length + 3⟩ := by
    rw [hline] at hwidth htext ⊢
    simp [docComment?, hc, hwidth, htext, hasBareReturn_of_isOneLine h, Nat.add_comm]
  refine ⟨?_, by rw [tokenAt, hdoc]⟩
  rw [hline, triviaWidth, if_neg (by decide), commentWidth.eq_2]
  exact fun _ he => hc (List.cons.inj he).1

theorem Piece.reads {p : Piece} (h : p.fits rest.head? = true) :
    match p.token? with
    | none => triviaWidth (p.chars ++ rest) = some p.chars.length
    | some t => triviaWidth (p.chars ++ rest) = none ∧
      tokenAt (p.chars ++ rest) = some (t, p.chars.length) := by
  cases p with
  | blank c => exact if_pos h
  | note text =>
    simp only [fits, Bool.and_eq_true, beq_iff_eq, bne_iff_ne] at h
    obtain ⟨⟨⟨htext, hrest⟩, hslash⟩, hbang⟩ := h
    exact triviaWidth_note htext hrest hslash hbang
  | doc text =>
    simp only [fits, Bool.and_eq_true, beq_iff_eq, bne_iff_ne] at h
    obtain ⟨⟨htext, hrest⟩, hslash⟩ := h
    exact tokenAt_doc htext hrest hslash
  | word text =>
    simp only [fits, Bool.and_eq_true, Bool.not_eq_true'] at h
    simpa [token?, chars] using tokenAt_word h.1 h.2
  | mark c joined =>
    simp only [fits, Bool.and_eq_true, beq_iff_eq, bne_iff_ne, List.contains_iff_mem] at h
    obtain ⟨⟨hmark, hrest⟩, rfl⟩ := h
    exact tokenAt_mark hmark hrest
  | quoted text =>
    have hsuffix : suffixWidth rest = 0 := suffixWidth_eq_zero_iff.mpr (by simpa [fits] using h)
    simpa [token?, chars, hsuffix] using tokenAt_quote text rest
  | opening d => exact tokenAt_opening d (by simpa [fits] using h)
  | closing d => exact tokenAt_closing d

/-- The text that pieces make one after the other. -/
def written (ps : List Piece) : List Char := ps.flatMap Piece.chars

def tokensOf (at_ : Nat) : List Piece → List (Token × Span)
  | [] => []
  | p :: rest =>
    let after := tokensOf (at_ + p.chars.length) rest
    match p.token? with
    | none => after
    | some t => (t, ⟨at_, at_ + p.chars.length⟩) :: after

def firstOf (ps : List Piece) (next : Option Char) : Option Char := (written ps).head?.or next

def allFit : List Piece → Option Char → Bool
  | [], _ => true
  | p :: rest, next => p.fits (firstOf rest next) && allFit rest next

theorem tokensFrom_skip (s rest : List Char) :
    tokensFrom at_ s.length (s ++ rest) = tokensFrom (at_ + s.length) 0 rest := by
  induction s generalizing at_ with
  | nil => rfl
  | cons c s ih =>
    rw [List.cons_append, List.length_cons, tokensFrom, ih, Nat.add_assoc, Nat.add_comm 1]

theorem tokensFrom_trivia (hs : s ≠ []) (h : triviaWidth (s ++ rest) = some s.length) :
    tokensFrom at_ 0 (s ++ rest) = tokensFrom (at_ + s.length) 0 rest := by
  cases s with
  | nil => exact absurd rfl hs
  | cons c s =>
    rw [List.cons_append] at h ⊢
    rw [tokensFrom, h]
    simp only [List.length_cons, Nat.add_sub_cancel, tokensFrom_skip]
    rw [Nat.add_assoc, Nat.add_comm 1]

theorem tokensFrom_token (hs : s ≠ []) (htrivia : triviaWidth (s ++ rest) = none)
    (h : tokenAt (s ++ rest) = some (t, s.length)) :
    tokensFrom at_ 0 (s ++ rest) =
      (tokensFrom (at_ + s.length) 0 rest).map ((t, ⟨at_, at_ + s.length⟩) :: ·) := by
  cases s with
  | nil => exact absurd rfl hs
  | cons c s =>
    rw [List.cons_append] at h htrivia ⊢
    rw [tokensFrom, htrivia, h]
    simp only [List.length_cons, Nat.add_sub_cancel, tokensFrom_skip]
    rw [Nat.add_assoc at_ 1, Nat.add_comm 1]

theorem Piece.chars_ne_nil {p : Piece} {next : Option Char} (h : p.fits next = true) :
    p.chars ≠ [] := by
  cases p with
  | word text =>
    intro hnil
    simp [fits, isWord, show text.toList = [] from hnil, identifierWidth, plainIdentifierWidth] at h
  | _ => exact List.cons_ne_nil _ _

theorem head?_written_append (ps : List Piece) :
    (written ps ++ rest).head? = firstOf ps rest.head? := by
  rw [List.head?_append, firstOf]

theorem tokensFrom_written {ps : List Piece} (h : allFit ps rest.head? = true) :
    tokensFrom at_ 0 (written ps ++ rest) =
      (tokensFrom (at_ + (written ps).length) 0 rest).map (tokensOf at_ ps ++ ·) := by
  induction ps generalizing at_ with
  | nil => simp [written, tokensOf]
  | cons p ps ih =>
    obtain ⟨hfits, hrest⟩ :
        p.fits (firstOf ps rest.head?) = true ∧ allFit ps rest.head? = true := by
      simpa [allFit] using h
    rw [← head?_written_append] at hfits
    have hread := Piece.reads hfits
    have hne := Piece.chars_ne_nil hfits
    have hsplit : written (p :: ps) = p.chars ++ written ps := List.flatMap_cons
    rw [hsplit, List.append_assoc, List.length_append, ← Nat.add_assoc]
    cases ht : p.token? with
    | none =>
      rw [ht] at hread
      rw [tokensFrom_trivia hne hread, ih hrest, tokensOf, ht]
    | some t =>
      rw [ht] at hread
      rw [tokensFrom_token hne hread.1 hread.2, ih hrest, tokensOf, ht, Option.map_map]
      rfl

theorem tokens_of_head {s : List Char} (h : s.head? ≠ some byteOrderMark) :
    tokens s = tokensFrom 0 0 s := by
  cases s with
  | nil => rfl
  | cons c rest => exact if_neg (by simpa using h)

theorem tokens_written {ps : List Piece} (h : allFit ps none = true)
    (hhead : (written ps).head? ≠ some byteOrderMark) :
    tokens (written ps) = some (tokensOf 0 ps) := by
  have hread := @tokensFrom_written [] 0 ps h
  rw [List.append_nil] at hread
  rw [tokens_of_head hhead, hread]
  simp [tokensFrom]

theorem written_append (ps qs : List Piece) : written (ps ++ qs) = written ps ++ written qs :=
  List.flatMap_append

theorem tokensOf_append (ps qs : List Piece) :
    tokensOf at_ (ps ++ qs) = tokensOf at_ ps ++ tokensOf (at_ + (written ps).length) qs := by
  induction ps generalizing at_ with
  | nil => rfl
  | cons p ps ih =>
    have hlen : (written (p :: ps)).length = p.chars.length + (written ps).length := by
      rw [written, List.flatMap_cons, List.length_append, written]
    rw [List.cons_append, tokensOf, tokensOf, ih, hlen, Nat.add_assoc]
    cases p.token? <;> rfl

theorem firstOf_append (ps qs : List Piece) (next : Option Char) :
    firstOf (ps ++ qs) next = firstOf ps (firstOf qs next) := by
  rw [firstOf, firstOf, firstOf, written_append, List.head?_append, Option.or_assoc]

theorem allFit_append (ps qs : List Piece) (next : Option Char) :
    allFit (ps ++ qs) next = (allFit ps (firstOf qs next) && allFit qs next) := by
  induction ps with
  | nil => rfl
  | cons p ps ih => rw [List.cons_append, allFit, allFit, ih, firstOf_append, Bool.and_assoc]

end CommandGen.Source
