import CommandGen.Output.Registry
import CommandGen.Proofs.Output.Decoding
import CommandGen.Proofs.Text.Pieces

/-! The constructors of the registry, read back from its text. A row is its key as a literal and a
closure that builds a type by name, so the rows can be read wherever the names of the types are
words. -/
namespace CommandGen

open Source Text

def calledType? : List Tree → Option String
  | [.word typeName _, .mark ':' _ _, .mark ':' _ _, .word "new" _, .group .paren _ _] =>
    some typeName
  | _ => none

def boxedType? : List Tree → Option String
  | [.word "Box" _, .mark ':' _ _, .mark ':' _ _, .word "new" _, .group .paren call _] =>
    calledType? call
  | _ => none

def closureBody? : List Tree → Option (List Tree)
  | [.group .brace body _, .mark ',' _ _] => some body
  | _ :: rest => closureBody? rest
  | [] => none

def constructorRow? : List Tree → Option (String × String)
  | .literal (.string key) _ :: .mark ',' _ _ :: rest =>
    (closureBody? rest >>= boxedType?).map (key, ·)
  | _ => none

def constructorsLine : String := "const CONSTRUCTORS: &[(&str, CommandConstructor)] = &["

/-- Lines as a text. -/
def ofLines (lines : List String) : String := String.join (lines.map (· ++ "\n"))

def linesOf (text : String) : List String := (pieces (· == '\n') text.toList).map String.ofList

def linesBetween (first last text : String) : String :=
  ofLines ((((linesOf text).dropWhile (· ≠ first)).drop 1).takeWhile (· ≠ last))

/-- The constructors that a text declares: the keys, and the types that are built for them. -/
def constructorsOf? (text : String) : Option (List (String × String)) :=
  trees (linesBetween constructorsLine "];" text).toList >>= rowsOf constructorRow?

variable {row : String × String} {next : Option Char}

def closureHead : List Piece :=
  [.mark '|' false, .word "sess", .mark ':' false, .blank ' ', .word "Option",
    .mark '<' true, .mark '&' false, .word "Session", .mark '>' true, .mark ',' false, .blank ' ',
    .word "logger", .mark ':' false, .blank ' ', .word "Logger", .mark '|' false, .blank ' ',
    .mark '-' true, .mark '>' false, .blank ' ', .word "Box", .mark '<' false, .word "dyn",
    .blank ' ', .word "Command", .mark '>' false, .blank ' ']

def callPieces (typeName : String) : List Piece :=
  [.word typeName] ++ [.mark ':' true, .mark ':' false, .word "new", .opening .paren, .word "sess",
   .mark ',' false, .blank ' ', .word "Some", .opening .paren, .word "logger",
   .closing .paren, .closing .paren]

def boxPieces (typeName : String) : List Piece :=
  [.word "Box", .mark ':' true, .mark ':' false, .word "new"] ++
    (.opening .paren :: (callPieces typeName ++ [.closing .paren]))

def constructorPieces (row : String × String) : List Piece :=
  blockPieces 1 [.opening .paren]
    (indented 2 [.quoted row.1, .mark ',' false] ++
      blockPieces 2 (closureHead ++ [.opening .brace]) (indented 3 (boxPieces row.2))
        [.closing .brace, .mark ',' false])
    [.closing .paren, .mark ',' false]

theorem writes_constructorRow (row : String × String) :
    (constructorRow row).Writes 1 (constructorPieces row) := by
  refine .block rfl rfl (.cons (.line ?_) (.single (.block rfl rfl (.single (.line ?_)))))
  · simp [toList_quoted, written, Piece.chars]
  · simp [boxPieces, callPieces, written, Piece.chars, Delimiter.openingChar, Delimiter.closingChar]

theorem reads_callPieces {typeName : String} (h : isWord typeName.toList = true) :
    Reads (callPieces typeName) (some ')') fun ts => calledType? ts = some typeName where
  fit := by
    have hword : (Piece.word typeName).fits (some ':') = true := by
      simpa [Piece.fits, h] using (by decide : continuesWord ':' = false)
    rw [callPieces, allFit_append]
    exact Bool.and_eq_true_iff.mpr ⟨(Bool.and_true _).trans hword, by decide +kernel⟩
  nests _ := ⟨_, nest_eq_some_iff.mp rfl, rfl⟩

theorem firstOf_callPieces {typeName : String}
    (h : isWord typeName.toList = true) (next : Option Char) :
    firstOf (callPieces typeName) next ≠ some '/' := by
  cases hchars : typeName.toList with
  | nil => exact absurd (hchars ▸ h) (by decide)
  | cons c rest =>
    have hc : c ≠ '/' := by
      rintro rfl
      exact absurd (continuesWord_of_mem h (hchars ▸ List.mem_cons_self)) (by decide)
    simpa [callPieces, firstOf, written, Piece.chars, hchars] using hc

theorem reads_boxPieces {typeName : String}
    (h : isWord typeName.toList = true) (next : Option Char) :
    Reads (indented 3 (boxPieces typeName)) next fun ts => boxedType? ts = some typeName := by
  have hbox : Reads [.word "Box", .mark ':' true, .mark ':' false, .word "new"] (some '(') fun ts =>
      ∀ call s, boxedType? (ts ++ [.group .paren call s]) = calledType? call :=
    ⟨by decide +kernel, fun _ => ⟨_, nest_eq_some_iff.mp rfl, fun _ _ => rfl⟩⟩
  refine .indented ((hbox.append ((reads_callPieces h).group .paren (firstOf_callPieces h _))).imp ?_)
  rintro _ ⟨us, _, rfl, hus, call, s, rfl, hcall⟩
  rw [hus, hcall]

theorem reads_constructorPieces (h : isWord row.2.toList = true) (next : Option Char) :
    Reads (constructorPieces row) next (AreRows constructorRow? [row]) := by
  have hkey (next : Option Char) :
      Reads (indented 2 [.quoted row.1, .mark ',' false]) next fun ts =>
      ∃ s j s', ts = [.literal (.string row.1) s, .mark ',' j s'] :=
    .indented ⟨rfl, fun _ => ⟨_, nest_eq_some_iff.mp rfl, _, _, _, rfl⟩⟩
  have hhead : Reads closureHead (some '\x7b') fun ts => ∀ body s j s',
      closureBody? (ts ++ [.group .brace body s, .mark ',' j s']) = some body :=
    ⟨by decide +kernel, fun _ => ⟨_, nest_eq_some_iff.mp rfl, fun _ _ _ _ => rfl⟩⟩
  have hnone : Reads [] (some '(') (· = []) := ⟨rfl, fun _ => ⟨[], .nil, rfl⟩⟩
  refine (Reads.block .paren hnone (fun next => (hkey _).append
    (.block .brace hhead (reads_boxPieces h) reads_comma)) reads_comma).imp ?_
  rintro _ ⟨_, content, _, _, rfl, rfl,
    ⟨_, _, rfl, ⟨_, _, _, rfl⟩, head, body, _, _, rfl, hhead, hbody, _, _, rfl⟩, _, _, rfl⟩
  exact areRows_group (by simp [constructorRow?, hhead, hbody])

theorem linesOf_ofLines_append {lines : List String}
    (h : ∀ l ∈ lines, '\n' ∉ l.toList) (rest : String) :
    linesOf (ofLines lines ++ rest) = lines ++ linesOf rest := by
  induction lines with
  | nil => simp [ofLines]
  | cons l lines ih =>
    obtain ⟨hl, hlines⟩ := List.forall_mem_cons.mp h
    have hfirst : pieces (· == '\n') l.toList = [l.toList] :=
      pieces_eq_singleton fun c hc => beq_eq_false_iff_ne.mpr fun he => hl (he ▸ hc)
    have hsplit :
        (ofLines (l :: lines) ++ rest).toList = l.toList ++ '\n' :: (ofLines lines ++ rest).toList := by
      simp [ofLines]
    rw [linesOf, hsplit, pieces_append rfl, hfirst, List.map_append, ← linesOf, ih hlines]
    simp

/-- Lines between two others are found if neither of these is among them, nor the first one before
them. -/
theorem linesBetween_ofLines {first last : String} {before lines : List String} {rest : String}
    (hbefore : ∀ l ∈ before, '\n' ∉ l.toList ∧ l ≠ first) (hfirst : '\n' ∉ first.toList)
    (hlines : ∀ l ∈ lines, '\n' ∉ l.toList ∧ l ≠ last) (hlast : '\n' ∉ last.toList) :
    linesBetween first last (ofLines (before ++ first :: (lines ++ [last])) ++ rest) =
      ofLines lines := by
  have hall : ∀ l ∈ before ++ first :: (lines ++ [last]), '\n' ∉ l.toList := by
    intro l hl
    simp only [List.mem_append, List.mem_cons, List.not_mem_nil, or_false] at hl
    rcases hl with hl | rfl | hl | rfl
    · exact (hbefore l hl).1
    · exact hfirst
    · exact (hlines l hl).1
    · exact hlast
  have hskip : (before ++ first :: (lines ++ last :: linesOf rest)).dropWhile (· ≠ first) =
      first :: (lines ++ last :: linesOf rest) := by
    rw [List.dropWhile_append_of_pos fun l hl => by simpa using (hbefore l hl).2]
    simp
  have hkeep : (lines ++ last :: linesOf rest).takeWhile (· ≠ last) = lines := by
    rw [List.takeWhile_append_of_pos fun l hl => by simpa using (hlines l hl).2]
    simp
  rw [linesBetween, linesOf_ofLines_append hall]
  simp only [List.append_assoc, List.cons_append, List.nil_append]
  rw [hskip, List.drop_one, List.tail_cons, hkeep]

/-- The lines before those of the constructors. -/
def registryOpening : List String :=
  ["// DO NOT EDIT", "// This file was automatically generated by cmdforge", "",
   "use std::collections::HashMap;", "", "use super::*;", "",
   "/// Builds a boxed command from an optional session and a logger.",
   "pub type CommandConstructor = fn(Option<&Session>, Logger) -> Box<dyn Command>;", ""]

/-- The lines of a row. -/
def constructorLines (row : String × String) : List String :=
  ["    (", "        " ++ quoted row.1 ++ ",",
   "        |sess: Option<&Session>, logger: Logger| -> Box<dyn Command> \x7b",
   "            Box::new(" ++ row.2 ++ "::new(sess, Some(logger)))", "        \x7d,", "    ),"]

theorem written_constructorPieces (row : String × String) :
    String.ofList (written (constructorPieces row)) = ofLines (constructorLines row) := by
  refine String.toList_injective ?_
  simp [constructorPieces, blockPieces, indented, boxPieces, callPieces,
    closureHead, written, Piece.chars, Delimiter.openingChar, Delimiter.closingChar, ofLines,
    constructorLines, toList_quoted, List.replicate]

theorem write_outermost (s t : String) :
    Layout.write ⟨.standard, 0, t⟩ s = ⟨.standard, 0, t ++ ofLines [s]⟩ := by
  simp [Layout.write, Layout.margin, ofLines, String.append_assoc]

theorem ofLines_append (lines more : List String) :
    ofLines (lines ++ more) = ofLines lines ++ ofLines more := by
  simp [ofLines]

theorem ofLines_constructorLines (rows : List (String × String)) :
    String.ofList (written (rows.flatMap constructorPieces)) =
      ofLines (rows.flatMap constructorLines) := by
  induction rows with
  | nil => rfl
  | cons row rows ih =>
    rw [List.flatMap_cons, List.flatMap_cons, written_append, String.ofList_append,
      written_constructorPieces, ih, ofLines_append]

theorem exists_registryText (set : CommandSet) : ∃ rest, registryText set =
    ofLines (registryOpening ++
      constructorsLine :: ((constructorRows set).flatMap constructorLines ++ ["];"])) ++
      rest := by
  have hrows (t : String) :
      Layout.addAll ⟨.standard, 1, t⟩ ((constructorRows set).map constructorRow) =
      ⟨.standard, 1, t ++ ofLines ((constructorRows set).flatMap constructorLines)⟩ := by
    rw [← ofLines_constructorLines]
    exact Step.WriteAll.map writes_constructorRow _ t
  have htable (t : String) : Layout.add ⟨.standard, 0, t⟩ (constructorsStep set) = ⟨.standard, 0,
      t ++ ofLines (constructorsLine ::
        ((constructorRows set).flatMap constructorLines ++ ["];"]))⟩ := by
    rw [constructorsStep, Layout.add, write_outermost, Layout.deeper, hrows, Layout.shallower]
    have hparts :
        ofLines (constructorsLine :: ((constructorRows set).flatMap constructorLines ++ ["];"])) =
        ofLines [constructorsLine] ++
        (ofLines ((constructorRows set).flatMap constructorLines) ++ ofLines ["];"]) := by
      rw [← ofLines_append, ← ofLines_append, List.singleton_append]
    refine (write_outermost _ _).trans ?_
    rw [hparts, ← String.append_assoc, ← String.append_assoc]
    rfl
  have hopening (steps : List Step) : Layout.addAll {} (headerSteps ++
      ([.line "use std::collections::HashMap;", .blank, .line "use super::*;", .blank,
        .doc "Builds a boxed command from an optional session and a logger.",
        .line "pub type CommandConstructor = fn(Option<&Session>, Logger) -> Box<dyn Command>;",
        .blank] ++ steps)) =
      Layout.addAll ⟨.standard, 0, ofLines registryOpening⟩ steps := by
    simp [headerSteps, Step.lines, headerLines, Layout.addAll, Layout.add,
      write_outermost, registryOpening, ofLines]
  -- what comes behind the table only adds to the text
  obtain ⟨rest, hrest⟩ := Layout.exists_text_addAll ⟨.standard, 0, ofLines (registryOpening ++
    constructorsLine :: ((constructorRows set).flatMap constructorLines ++ ["];"]))⟩
    (.blank :: (registrySteps ++ [.blank, assertionsStep set]))
  refine ⟨rest, ?_⟩
  rw [← hrest, ofLines_append, ← htable, ← Layout.addAll, ← hopening, registryText, layOut]
  simp only [List.append_assoc, List.cons_append, List.nil_append]

/-- The lines of a row are lines if the name of the type is a word, and start with a blank. -/
theorem constructorLines_indented (h : isWord row.2.toList = true) :
    ∀ l ∈ constructorLines row, '\n' ∉ l.toList ∧ l.toList.head? = some ' ' := by
  have hname : '\n' ∉ row.2.toList := fun hc => absurd (continuesWord_of_mem h hc) (by decide)
  have hkey := (quoted_oneLine row.1).1
  simp [constructorLines, hname, hkey]

theorem constructorsOf?_registryText {set : CommandSet}
    (h : ∀ typeName ∈ set.keys, isWord typeName.toList = true) :
    constructorsOf? (registryText set) = some (constructorRows set) := by
  obtain ⟨rest, htext⟩ := exists_registryText set
  have hwords : ∀ row ∈ constructorRows set, isWord row.2.toList = true := by
    intro row hrow
    obtain ⟨e, he, rfl⟩ := List.mem_map.mp hrow
    exact h e.1 (List.mem_map_of_mem he)
  have hbefore : ∀ l ∈ registryOpening, '\n' ∉ l.toList ∧ l ≠ constructorsLine := by decide +kernel
  -- lines of rows are indented and the last line is not
  have hlines :
      ∀ l ∈ (constructorRows set).flatMap constructorLines, '\n' ∉ l.toList ∧ l ≠ "];" := by
    intro l hl
    obtain ⟨row, hrow, hl⟩ := List.mem_flatMap.mp hl
    obtain ⟨hnew, hblank⟩ := constructorLines_indented (hwords row hrow) l hl
    refine ⟨hnew, ?_⟩
    rintro rfl
    exact absurd hblank (by decide)
  have hrows : Reads ((constructorRows set).flatMap constructorPieces) none
      (AreRows constructorRow? (constructorRows set)) :=
    reads_rows (fun row hrow => reads_constructorPieces (hwords row hrow)) none
  have hmark : (written ((constructorRows set).flatMap constructorPieces)).head? ≠
      some byteOrderMark := by
    cases constructorRows set with
    | nil => decide
    | cons row rows => exact ne_of_beq_false rfl
  obtain ⟨ts, hnests, hts⟩ := hrows.nests 0
  rw [htext, constructorsOf?,
    linesBetween_ofLines hbefore (by decide +kernel) hlines (by decide +kernel),
    ← ofLines_constructorLines, String.toList_ofList, trees, tokens_written hrows.fit hmark]
  simp [nest_eq_some_iff.mpr hnests, hts.rowsOf_eq]

end CommandGen
