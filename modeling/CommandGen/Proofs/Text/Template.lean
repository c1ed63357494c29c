import CommandGen.Source.Literal
import CommandGen.Text.Blank
import CommandGen.Text.Quoted
import Mathlib.Data.List.Basic
import Mathlib.Data.List.DropRight

/-! Message templates: texts with placeholders between braces, and doubled braces for braces. A text
whose braces are doubled has no placeholder and stands for itself, between any two templates. -/
namespace CommandGen.Text

def isAlignment (c : Char) : Bool := c == '<' || c == '^' || c == '>'

def dropOne (p : Char → Bool) : List Char → List Char
  | c :: rest => if p c then rest else c :: rest
  | [] => []

/-- A specification without its alignment, and without the character in front that fills the
room. -/
def dropFill : List Char → List Char
  | c :: a :: rest => if isAlignment a then rest else dropOne isAlignment (c :: a :: rest)
  | s => dropOne isAlignment s

/-- A specification without the mark for leading zeros. It is none where it counts arguments. -/
def dropZero : List Char → List Char
  | '0' :: '$' :: rest => '0' :: '$' :: rest
  | s => dropOne (· == '0') s

def argumentNameWidth (s : List Char) : Option Nat :=
  (Source.plainIdentifierWidth s).filter fun w => s.take w != ['_']

def dropCount (s : List Char) : List Char :=
  if s.head?.any Char.isDigit then dropOne (· == '$') (s.dropWhile Char.isDigit)
  else match argumentNameWidth s with
    | some w => if (s.drop w).head? = some '$' then s.drop (w + 1) else s
    | none => s

def dropPrecision : List Char → List Char
  | '.' :: '*' :: rest => rest
  | '.' :: rest => dropCount rest
  | s => s

def showKinds : List (List Char) :=
  ["", "?", "x?", "X?", "o", "x", "X", "p", "b", "e", "E"].map String.toList

/-- How an argument is shown: with an alignment, a sign, a width and a precision, all of which may
be left out. -/
def isSpec (s : List Char) : Bool :=
  let flags := dropOne (· == '#') (dropOne (fun c => c == '+' || c == '-') (dropFill s))
  showKinds.contains (dropPrecision (dropCount (dropZero flags)))

def isArgument (s : List Char) : Bool :=
  s.all Char.isDigit || argumentNameWidth s == some s.length

def isPlaceholder (s : List Char) : Bool :=
  let content := s.rdropWhile fun c => blankRanges.covers c.toNat
  match content.dropWhile (· != ':') with
  | [] => isArgument content
  | _ :: spec => isArgument (content.takeWhile (· != ':')) && isSpec spec

/-- A placeholder, by what stands between its braces. -/
structure Placeholder where
  content : List Char
  wellFormed : isPlaceholder content = true
deriving DecidableEq

def placeholder? (content : List Char) : Option Placeholder :=
  if h : isPlaceholder content = true then some ⟨content, h⟩ else none

/-- How far it is to the brace that closes a specification. The one that fills the room closes
nothing. -/
def specWidth : List Char → Option Nat
  | c :: a :: rest =>
    if isAlignment a then (rest.findIdx? (· == '\x7d')).map (· + 2)
    else (c :: a :: rest).findIdx? (· == '\x7d')
  | s => s.findIdx? (· == '\x7d')

def placeholderWidth : List Char → Option Nat
  | [] => none
  | c :: rest =>
    if c = '\x7d' then some 0
    else if c = ':' then (specWidth rest).map (· + 1)
    else (placeholderWidth rest).map (· + 1)

/-- What a template is made of. -/
inductive TemplatePart where
  | char (c : Char)
  | placeholder (p : Placeholder)
deriving DecidableEq

/-- The part at the start of a template, and its width. A brace that is neither doubled nor part of
a placeholder is none. -/
def partAt : List Char → Option (TemplatePart × Nat)
  | '\x7b' :: '\x7b' :: _ => some (.char '\x7b', 2)
  | '\x7d' :: '\x7d' :: _ => some (.char '\x7d', 2)
  | '\x7d' :: _ => none
  | '\x7b' :: rest =>
    (placeholderWidth rest).bind fun w =>
      (placeholder? (rest.take w)).map fun p => (.placeholder p, w + 2)
  | c :: _ => some (.char c, 1)
  | [] => none

/-- The parts of a template; `known` more characters belong to the part before. -/
def partsFrom : Nat → List Char → Option (List TemplatePart)
  | _, [] => some []
  | known + 1, _ :: rest => partsFrom known rest
  | 0, c :: rest =>
    match partAt (c :: rest) with
    | some (part, w) => (partsFrom (w - 1) rest).map (part :: ·)
    | none => none

/-- The parts of a template, if it is well-formed. -/
def template? (s : List Char) : Option (List TemplatePart) := partsFrom 0 s

def placeholders (parts : List TemplatePart) : List Placeholder :=
  parts.filterMap fun
    | .char _ => none
    | .placeholder p => some p

/-- What a template prints where its placeholders show these texts, one after the other. -/
def printed : List (List Char) → List TemplatePart → List Char
  | _, [] => []
  | shown, .char c :: rest => c :: printed shown rest
  | shown, .placeholder _ :: rest => shown.headD [] ++ printed shown.tail rest

variable {s t : List Char} {w : ℕ} {part : TemplatePart} {parts more : List TemplatePart}

theorem getLast?_of_cons {c : Char} (h : (c :: s).getLast? ≠ some '\x7d') :
    s.getLast? ≠ some '\x7d' := by
  cases s with
  | nil => simp
  | cons d s => rwa [List.getLast?_cons_cons] at h

theorem findIdx?_brace_append (h : s.findIdx? (· == '\x7d') = some w) :
    w < s.length ∧ (s ++ t).findIdx? (· == '\x7d') = some w := by
  refine ⟨(List.findIdx?_eq_some_iff_findIdx_eq.mp h).1, ?_⟩
  rw [List.findIdx?_append, h, Option.some_or]

theorem specWidth_append (h : specWidth s = some w) (hlast : s.getLast? ≠ some '\x7d') :
    w < s.length ∧ specWidth (s ++ t) = some w := by
  match s with
  | [] => simp [specWidth] at h
  | [c] =>
    have hc : c ≠ '\x7d' := by simpa using hlast
    simp [specWidth, hc] at h
  | c :: a :: rest =>
    rw [specWidth] at h
    rw [List.cons_append, List.cons_append, specWidth]
    by_cases ha : isAlignment a = true
    · rw [if_pos ha] at h ⊢
      obtain ⟨v, hv, rfl⟩ := Option.map_eq_some_iff.mp h
      obtain ⟨hlt, happend⟩ := findIdx?_brace_append (t := t) hv
      rw [happend]
      exact ⟨by simpa using hlt, rfl⟩
    · rw [if_neg ha] at h ⊢
      exact findIdx?_brace_append h

theorem placeholderWidth_append (h : placeholderWidth s = some w)
    (hlast : s.getLast? ≠ some '\x7d') :
    w < s.length ∧ placeholderWidth (s ++ t) = some w := by
  induction s generalizing w with
  | nil => simp [placeholderWidth] at h
  | cons c s ih =>
    have hrest := getLast?_of_cons hlast
    rw [placeholderWidth] at h
    rw [List.cons_append, placeholderWidth]
    by_cases hclose : c = '\x7d'
    · rw [if_pos hclose] at h ⊢
      obtain rfl := Option.some.inj h
      exact ⟨Nat.succ_pos _, rfl⟩
    · rw [if_neg hclose] at h ⊢
      by_cases hcolon : c = ':'
      · rw [if_pos hcolon] at h ⊢
        obtain ⟨v, hv, rfl⟩ := Option.map_eq_some_iff.mp h
        obtain ⟨hlt, happend⟩ := specWidth_append (t := t) hv hrest
        rw [happend]
        exact ⟨Nat.succ_lt_succ hlt, rfl⟩
      · rw [if_neg hcolon] at h ⊢
        obtain ⟨v, hv, rfl⟩ := Option.map_eq_some_iff.mp h
        obtain ⟨hlt, happend⟩ := ih hv hrest
        rw [happend]
        exact ⟨Nat.succ_lt_succ hlt, rfl⟩

theorem partAt_opened (h : s.head? ≠ some '\x7b') : partAt ('\x7b' :: s) =
    (placeholderWidth s).bind fun w => (placeholder? (s.take w)).map fun p =>
      (.placeholder p, w + 2) := by
  cases s with
  | nil => rfl
  | cons c s => exact partAt.eq_4 _ (by simpa using h)

theorem partAt_plain {c : Char} (hopen : c ≠ '\x7b') (hclose : c ≠ '\x7d') :
    partAt (c :: s) = some (.char c, 1) := by
  simp [partAt, hopen, hclose]

theorem partAt_opened_append (h : partAt ('\x7b' :: s) = some (part, w))
    (hlast : s.getLast? ≠ some '\x7d') :
    (0 < w ∧ w ≤ s.length + 1) ∧ partAt ('\x7b' :: (s ++ t)) = some (part, w) := by
  by_cases hdouble : s.head? = some '\x7b'
  · obtain ⟨s, rfl⟩ := List.head?_eq_some_iff.mp hdouble
    obtain ⟨rfl, rfl⟩ : .char '\x7b' = part ∧ 2 = w := by simpa [partAt] using h
    exact ⟨by simp, rfl⟩
  · rw [partAt_opened hdouble] at h
    obtain ⟨v, hv, hpart⟩ := Option.bind_eq_some_iff.mp h
    obtain ⟨p, hp, hpart⟩ := Option.map_eq_some_iff.mp hpart
    obtain ⟨rfl, rfl⟩ := Prod.mk.inj hpart
    obtain ⟨hlt, happend⟩ := placeholderWidth_append (t := t) hv hlast
    have hhead : (s ++ t).head? = s.head? := by
      rw [List.head?_append_of_ne_nil]
      rintro rfl
      exact Nat.not_lt_zero _ hlt
    refine ⟨by omega, ?_⟩
    rw [partAt_opened (by rwa [hhead]), happend, Option.bind_some,
      List.take_append_of_le_length (Nat.le_of_lt hlt), hp, Option.map_some]

/-- A part of a text that ends in no closing brace is the same in front of every other text. -/
theorem partAt_append (h : partAt s = some (part, w)) (hlast : s.getLast? ≠ some '\x7d') :
    (0 < w ∧ w ≤ s.length) ∧ partAt (s ++ t) = some (part, w) := by
  cases s with
  | nil => simp [partAt] at h
  | cons c s =>
    by_cases hopen : c = '\x7b'
    · subst hopen
      exact partAt_opened_append h (getLast?_of_cons hlast)
    by_cases hclose : c = '\x7d'
    · subst hclose
      match s with
      | [] => simp at hlast
      | d :: s =>
        by_cases hd : d = '\x7d'
        · subst hd
          obtain ⟨rfl, rfl⟩ : .char '\x7d' = part ∧ 2 = w := by simpa [partAt] using h
          exact ⟨by simp, rfl⟩
        · simp [partAt, hd] at h
    · obtain ⟨rfl, rfl⟩ : .char c = part ∧ 1 = w := by simpa [partAt_plain hopen hclose] using h
      exact ⟨by simp, partAt_plain hopen hclose⟩

theorem partsFrom_append {known : ℕ} (h : partsFrom known s = some parts)
    (hknown : known ≤ s.length) (hlast : s.getLast? ≠ some '\x7d') :
    partsFrom known (s ++ t) = (template? t).map (parts ++ ·) := by
  induction s generalizing known parts with
  | nil =>
    obtain rfl : known = 0 := Nat.le_zero.mp hknown
    obtain rfl : [] = parts := by simpa [partsFrom] using h
    simp [template?]
  | cons c s ih =>
    cases known with
    | succ known => exact ih h (Nat.le_of_succ_le_succ hknown) (getLast?_of_cons hlast)
    | zero =>
      rw [partsFrom] at h
      cases hpart : partAt (c :: s) with
      | none => simp [hpart] at h
      | some found =>
        obtain ⟨part, w⟩ := found
        obtain ⟨⟨hpos, hle⟩, happend⟩ := partAt_append (t := t) hpart hlast
        rw [hpart] at h
        obtain ⟨rest, hrest, rfl⟩ := Option.map_eq_some_iff.mp h
        rw [List.cons_append] at happend ⊢
        rw [List.length_cons] at hle
        rw [partsFrom, happend]
        simp only
        rw [ih hrest (by omega) (getLast?_of_cons hlast), Option.map_map]
        rfl

/-- A template that ends in no closing brace keeps its parts in front of another one. -/
theorem template?_append (h : template? s = some parts) (hlast : s.getLast? ≠ some '\x7d') :
    template? (s ++ t) = (template? t).map (parts ++ ·) :=
  partsFrom_append h (Nat.zero_le _) hlast

theorem template?_doubled (c : Char) :
    template? (doubleBrace c ++ t) = (template? t).map (.char c :: ·) := by
  by_cases hopen : c = '\x7b'
  · subst hopen
    rfl
  by_cases hclose : c = '\x7d'
  · subst hclose
    rfl
  rw [doubleBrace, if_neg (by simp [hopen, hclose]), List.singleton_append, template?, partsFrom,
    partAt_plain hopen hclose]
  rfl

/-- An alignment behind a closing brace makes it fill the room of the placeholder that it closed
before. -/
example : (template? ['\x7b', ':', '\x7d']).isSome = true ∧
  template? ['\x7b', ':', '\x7d', '<'] = none := by
  decide +kernel

theorem template?_flatMap_doubleBrace (s t : List Char) :
    template? (s.flatMap doubleBrace ++ t) = (template? t).map (s.map .char ++ ·) := by
  induction s with
  | nil => simp
  | cons c s ih =>
    rw [List.flatMap_cons, List.append_assoc, template?_doubled, ih, Option.map_map]
    rfl

theorem template?_of_no_braces (h : ∀ c ∈ s, c ≠ '\x7b' ∧ c ≠ '\x7d') :
    template? s = some (s.map .char) := by
  have hsame : s.flatMap doubleBrace = s.flatMap fun c => [c] :=
    List.flatMap_congr fun c hc => if_neg (by simp [h c hc])
  have hparts := template?_flatMap_doubleBrace s []
  rw [hsame] at hparts
  simpa [template?, partsFrom] using hparts

theorem placeholders_append :
    placeholders (parts ++ more) = placeholders parts ++ placeholders more :=
  List.filterMap_append

theorem placeholders_chars (s : List Char) : placeholders (s.map .char) = [] := by
  induction s with
  | nil => rfl
  | cons c s ih => exact ih

theorem printed_append (shown : List (List Char)) : printed shown (parts ++ more) =
    printed shown parts ++ printed (shown.drop (placeholders parts).length) more := by
  induction parts generalizing shown with
  | nil => rfl
  | cons part parts ih =>
    cases part with
    | char c => exact congrArg (c :: ·) (ih shown)
    | placeholder p =>
      have hplaceholders : placeholders (.placeholder p :: parts) = p :: placeholders parts := rfl
      rw [List.cons_append, printed, ih, List.drop_tail, hplaceholders, printed,
        List.length_cons, List.append_assoc]

theorem printed_chars (shown : List (List Char)) (s : List Char) :
    printed shown (s.map .char) = s := by
  induction s with
  | nil => rfl
  | cons c s ih => exact congrArg (c :: ·) ih

end CommandGen.Text
