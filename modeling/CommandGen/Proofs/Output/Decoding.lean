import CommandGen.Output.Definitions
import CommandGen.Proofs.Command.Index
import CommandGen.Proofs.Output.Lines
import CommandGen.Proofs.Output.Literals
import CommandGen.Proofs.Text.Order

/-! The tables of the definitions file, read back from its text. Whatever the texts are that a row
quotes, it is one row with these texts. -/
namespace CommandGen

open Source
open scoped List

def textsOf : List Tree → Option (List String)
  | [] => some []
  | [.literal (.string s) _] => some [s]
  | .literal (.string s) _ :: .mark ',' _ _ :: rest => (textsOf rest).map (s :: ·)
  | _ => none

def rowsOf {α : Type} (row : List Tree → Option α) : List Tree → Option (List α)
  | [] => some []
  | .group .paren content _ :: .mark ',' _ _ :: rest =>
    (row content).bind fun r => (rowsOf row rest).map (r :: ·)
  | _ => none

def apiRow? : List Tree → Option (String × String)
  | [.literal (.string key) _, .mark ',' _ _, .literal (.string api) _] => some (key, api)
  | _ => none

def actionRow? : List Tree → Option (String × List String)
  | [.literal (.string key) _, .mark ',' _ _, .mark '&' _ _, .group .bracket entities _] =>
    (textsOf entities).map (key, ·)
  | _ => none

def textField? (name : String) : List Tree → Option (String × List Tree)
  | .word word _ :: .mark ':' _ _ :: .literal (.string s) _ :: .mark ',' _ _ :: rest =>
    if word = name then some (s, rest) else none
  | _ => none

def textsField? (name : String) : List Tree → Option (List String × List Tree)
  | .word word _ :: .mark ':' _ _ :: .mark '&' _ _ :: .group .bracket texts _ :: .mark ',' _ _ :: rest =>
    if word = name then (textsOf texts).map (·, rest) else none
  | _ => none

def definition? (fields : List Tree) : Option Definition := do
  let (action, rest) ← textField? "action" fields
  let (entity, rest) ← textField? "entity" rest
  let (api, rest) ← textField? "api" rest
  let (required, rest) ← textsField? "required_params" rest
  let (extra, rest) ← textsField? "extra_params" rest
  if rest.isEmpty then some ⟨action, entity, api, required, extra⟩ else none

def definitionRow? : List Tree → Option (String × Definition)
  | [.literal (.string key) _, .mark ',' _ _, .word "Definition" _,
    .group .brace fields _, .mark ',' _ _] =>
    (definition? fields).map (key, ·)
  | _ => none

def listValue? : List Tree → Option (List Tree)
  | .mark '=' _ _ :: .mark '&' _ _ :: .group .bracket content _ :: .mark ';' _ _ :: _ =>
    some content
  | _ :: rest => listValue? rest
  | [] => none

def tableContent? (name : String) : List Tree → Option (List Tree)
  | .word "static" _ :: .word word _ :: rest =>
    if word = name then listValue? rest else tableContent? name rest
  | _ :: rest => tableContent? name rest
  | [] => none

/-- What the tables of a file say. -/
structure Tables where
  apis : List (String × String)
  definitions : List (String × Definition)
  actions : List (String × List String)

/-- The tables that are declared in a text. -/
def Tables.ofText? (text : String) : Option Tables := do
  let ts ← trees text.toList
  let apis ← tableContent? "API_PER_TEMPLATE_DEF_NAME" ts >>= rowsOf apiRow?
  let definitions ← tableContent? "TEMPLATE_DEFINITIONS" ts >>= rowsOf definitionRow?
  let actions ← tableContent? "DRIVER_SUPPORTED_ACTIONS" ts >>= rowsOf actionRow?
  return ⟨apis, definitions, actions⟩

variable {next : Option Char}

def textPieces : List String → List Piece
  | [] => []
  | [s] => [.quoted s]
  | s :: rest => .quoted s :: .mark ',' false :: .blank ' ' :: textPieces rest

def listPieces (items : List String) : List Piece :=
  .mark '&' false :: .opening .bracket :: (textPieces items ++ [.closing .bracket])

theorem written_textPieces : (items : List String) →
    written (textPieces items) = [',', ' '].intercalate (items.map fun s => Text.quote s.toList)
  | [] => rfl
  | [s] => by simp [textPieces, written, Piece.chars]
  | s :: t :: rest => by
    have hrest := written_textPieces (t :: rest)
    rw [written] at hrest
    simp [textPieces, written, hrest, List.intercalate_cons_cons, Piece.chars]

theorem toList_quotedList (items : List String) :
    (quotedList items).toList = written (listPieces items) := by
  have hitems := written_textPieces items
  simp [quotedList, listPieces, toList_quoted, written, Piece.chars,
    Delimiter.openingChar, Delimiter.closingChar, Function.comp_def] at hitems ⊢
  exact hitems.symm

theorem reads_textPieces : (items : List String) →
    Reads (textPieces items) (some ']') fun ts => textsOf ts = some items
  | [] => ⟨rfl, fun _ => ⟨[], .nil, rfl⟩⟩
  | [s] => ⟨rfl, fun _ => ⟨_, nest_eq_some_iff.mp rfl, rfl⟩⟩
  | s :: t :: rest => by
    have hfirst :
        Reads [.quoted s, .mark ',' false,
          .blank ' '] (firstOf (textPieces (t :: rest)) (some ']')) fun ts =>
        ∀ more, textsOf (ts ++ more) = (textsOf more).map (s :: ·) :=
      ⟨by cases rest <;> rfl, fun _ => ⟨_, nest_eq_some_iff.mp rfl, fun _ => rfl⟩⟩
    refine (hfirst.append (reads_textPieces (t :: rest))).imp ?_
    rintro _ ⟨us, vs, rfl, hus, hvs⟩
    rw [hus, hvs, Option.map_some]

theorem reads_listPieces (items : List String) : Reads (listPieces items) next fun ts =>
    ∃ j s content s', ts = [.mark '&' j s, .group .bracket content s'] ∧
      textsOf content = some items := by
  have hmark : Reads [.mark '&' false] (some '[') fun ts => ∃ j s, ts = [.mark '&' j s] :=
    ⟨rfl, fun _ => ⟨_, nest_eq_some_iff.mp rfl, _, _, rfl⟩⟩
  have hfirst : firstOf (textPieces items) (some ']') ≠ some '/' := by
    match items with
    | [] | [_] | _ :: _ :: _ => simp [textPieces, firstOf, written, Piece.chars, Text.quote]
  refine (hmark.append ((reads_textPieces items).group .bracket hfirst)).imp ?_
  rintro _ ⟨_, _, rfl, ⟨j, s, rfl⟩, content, s', rfl, hcontent⟩
  exact ⟨j, s, content, s', rfl, hcontent⟩

def AreRows {α : Type} (row : List Tree → Option α) (rows : List α) (ts : List Tree) : Prop :=
  ∀ more, rowsOf row (ts ++ more) = (rowsOf row more).map (rows ++ ·)

theorem AreRows.rowsOf_eq {α : Type} {row : List Tree → Option α} {rows : List α} {ts : List Tree}
    (h : AreRows row rows ts) : rowsOf row ts = some rows := by
  simpa [rowsOf] using h []

theorem reads_rows {α : Type} {row : List Tree → Option α} {pieces : α → List Piece} {rows : List α}
    (h : ∀ r ∈ rows, ∀ next, Reads (pieces r) next (AreRows row [r])) (next : Option Char) :
    Reads (rows.flatMap pieces) next (AreRows row rows) := by
  induction rows generalizing next with
  | nil => exact ⟨rfl, fun _ => ⟨[], .nil, fun more => by simp⟩⟩
  | cons r rows ih =>
    obtain ⟨hr, hrows⟩ := List.forall_mem_cons.mp h
    rw [List.flatMap_cons]
    refine ((hr _).append (ih hrows next)).imp ?_
    rintro _ ⟨us, vs, rfl, hus, hvs⟩ more
    rw [List.append_assoc, hus, hvs, Option.map_map]
    rfl

theorem areRows_group {α : Type} {row : List Tree → Option α} {r : α} {content : List Tree}
    {j : Bool} {s s' : Span} (h : row content = some r) :
    AreRows row [r] [.group .paren content s, .mark ',' j s'] :=
  fun more => by simp [rowsOf, h]

theorem reads_comma : Reads [.mark ',' false] (some '\n') fun ts => ∃ j s, ts = [.mark ',' j s] :=
  ⟨rfl, fun _ => ⟨_, nest_eq_some_iff.mp rfl, _, _, rfl⟩⟩

def rowPieces (content : List Piece) : List Piece :=
  indented 1 ((.opening .paren :: (content ++ [.closing .paren])) ++ [.mark ',' false])

theorem reads_rowPieces {α : Type} {row : List Tree → Option α} {r : α} {content : List Piece}
    (h : Reads content (some ')') fun ts => row ts = some r)
    (hfirst : firstOf content (some ')') ≠ some '/') :
    Reads (rowPieces content) next (AreRows row [r]) := by
  refine .indented (((h.group .paren hfirst).append reads_comma).imp ?_)
  rintro _ ⟨_, _, rfl, ⟨us, s, rfl, hus⟩, j, s', rfl⟩
  exact areRows_group hus

def apiPieces (row : String × String) : List Piece :=
  rowPieces [.quoted row.1, .mark ',' false, .blank ' ', .quoted row.2]

theorem writes_apiRow (row : String × String) : (apiRow row).Writes 1 (apiPieces row) :=
  .line (by simp [toList_quoted, written, Piece.chars, Delimiter.openingChar, Delimiter.closingChar])

theorem reads_apiPieces (row : String × String) (next : Option Char) :
    Reads (apiPieces row) next (AreRows apiRow? [row]) :=
  reads_rowPieces ⟨rfl, fun _ => ⟨_, nest_eq_some_iff.mp rfl, rfl⟩⟩
    (by simp [firstOf, written, Piece.chars, Text.quote])

def actionPieces (row : String × List String) : List Piece :=
  rowPieces ([.quoted row.1, .mark ',' false, .blank ' '] ++ listPieces row.2)

theorem writes_actionRow (row : String × List String) :
    (actionRow row).Writes 1 (actionPieces row) := by
  refine .line ?_
  simp [toList_quoted, toList_quotedList, written, Piece.chars,
    Delimiter.openingChar, Delimiter.closingChar]

theorem reads_actionPieces (row : String × List String) (next : Option Char) :
    Reads (actionPieces row) next (AreRows actionRow? [row]) := by
  have hkey : Reads [.quoted row.1, .mark ',' false, .blank ' '] (some '&') fun ts =>
      ∃ s j s', ts = [.literal (.string row.1) s, .mark ',' j s'] :=
    ⟨rfl, fun _ => ⟨_, nest_eq_some_iff.mp rfl, _, _, _, rfl⟩⟩
  refine reads_rowPieces ((hkey.append (reads_listPieces row.2)).imp ?_)
    (by simp [firstOf, written, Piece.chars, Text.quote])
  rintro _ ⟨_, _, rfl, ⟨s, j, s', rfl⟩, _, _, content, _, rfl, hcontent⟩
  simp [actionRow?, hcontent]

def fieldPieces (name : String) (value : List Piece) : List Piece :=
  indented 3 ([.word name, .mark ':' false, .blank ' '] ++ (value ++ [.mark ',' false]))

theorem writes_field {name s : String} {value : List Piece}
    (h : s.toList = name.toList ++ ':' :: ' ' :: (written value ++ [','])) :
    (Step.line s).Writes 3 (fieldPieces name value) :=
  .line (by simp [h, written, Piece.chars])

theorem reads_fieldName {name : String} (hname : isWord name.toList = true) :
    Reads [.word name, .mark ':' false, .blank ' '] next fun ts => ∃ s j s',
      ts = [.word name s, .mark ':' j s'] where
  fit := by
    have hcolon : continuesWord ':' = false := by decide
    have hword : (Piece.word name).fits (some ':') = true := by simp [Piece.fits, hname, hcolon]
    exact (Bool.and_eq_true _ _).mpr ⟨hword, rfl⟩
  nests _ := ⟨_, nest_eq_some_iff.mp rfl, _, _, _, rfl⟩

theorem reads_textField {name : String} (hname : isWord name.toList = true) (s : String) :
    Reads (fieldPieces name [.quoted s]) next fun ts => ∀ more,
      textField? name (ts ++ more) = some (s, more) := by
  have hvalue : Reads ([.quoted s] ++ [.mark ',' false]) (some '\n') fun ts =>
      ∃ s₁ j s₂, ts = [.literal (.string s) s₁, .mark ',' j s₂] :=
    ⟨rfl, fun _ => ⟨_, nest_eq_some_iff.mp rfl, _, _, _, rfl⟩⟩
  refine .indented (((reads_fieldName hname).append hvalue).imp ?_)
  rintro _ ⟨_, _, rfl, ⟨_, _, _, rfl⟩, _, _, _, rfl⟩ more
  simp [textField?]

theorem reads_textsField {name : String} (hname : isWord name.toList = true) (items : List String) :
    Reads (fieldPieces name (listPieces items)) next fun ts =>
      ∀ more, textsField? name (ts ++ more) = some (items, more) := by
  refine .indented
    (((reads_fieldName hname).append ((reads_listPieces items).append reads_comma)).imp ?_)
  rintro _ ⟨_, _, rfl, ⟨_, _, _, rfl⟩, _, _, rfl, ⟨_, _, _, _, rfl, hcontent⟩, _, _, rfl⟩ more
  simp [textsField?, hcontent]

def definitionFields (d : Definition) : List Piece :=
  fieldPieces "action" [.quoted d.action] ++ (fieldPieces "entity" [.quoted d.entity] ++
    (fieldPieces "api" [.quoted d.api] ++ (fieldPieces "required_params" (listPieces d.requiredParams) ++
      fieldPieces "extra_params" (listPieces d.extraParams))))

theorem reads_definitionFields (d : Definition) (next : Option Char) :
    Reads (definitionFields d) next fun ts => definition? ts = some d := by
  refine ((reads_textField (by decide +kernel) _).append ((reads_textField (by decide +kernel) _).append
    ((reads_textField (by decide +kernel) _).append ((reads_textsField (by decide +kernel) _).append
      (reads_textsField (by decide +kernel) _))))).imp ?_
  rintro _ ⟨action, _, rfl, haction, entity, _, rfl, hentity, api, _, rfl, hapi,
    required, extra, rfl, hrequired, hextra⟩
  have hlast := hextra []
  rw [List.append_nil] at hlast
  simp [definition?, haction, hentity, hapi, hrequired, hlast]

def definitionPieces (row : String × Definition) : List Piece :=
  blockPieces 1 [.opening .paren]
    (indented 2 [.quoted row.1, .mark ',' false] ++
      blockPieces 2 [.word "Definition", .blank ' ', .opening .brace] (definitionFields row.2)
        [.closing .brace, .mark ',' false])
    [.closing .paren, .mark ',' false]

theorem writes_definitionRow (row : String × Definition) :
    (definitionRow row).Writes 1 (definitionPieces row) := by
  refine .block rfl rfl (.cons (.line ?_) (.single (.block rfl rfl ?_)))
  · simp [toList_quoted, written, Piece.chars]
  · exact .cons (writes_field (by simp [toList_quoted, written, Piece.chars]))
      (.cons (writes_field (by simp [toList_quoted, written, Piece.chars]))
      (.cons (writes_field (by simp [toList_quoted, written, Piece.chars]))
      (.cons (writes_field (by simp [toList_quotedList]))
      (.single (writes_field (by simp [toList_quotedList]))))))

theorem reads_definitionPieces (row : String × Definition) (next : Option Char) :
    Reads (definitionPieces row) next (AreRows definitionRow? [row]) := by
  have hkey (next : Option Char) :
      Reads (indented 2 [.quoted row.1, .mark ',' false]) next fun ts =>
      ∃ s j s', ts = [.literal (.string row.1) s, .mark ',' j s'] :=
    .indented ⟨rfl, fun _ => ⟨_, nest_eq_some_iff.mp rfl, _, _, _, rfl⟩⟩
  have hname : Reads [.word "Definition", .blank ' '] (some '\x7b') fun ts => ∃ s,
      ts = [.word "Definition" s] :=
    ⟨rfl, fun _ => ⟨_, nest_eq_some_iff.mp rfl, _, rfl⟩⟩
  have hnone : Reads [] (some '(') (· = []) := ⟨rfl, fun _ => ⟨[], .nil, rfl⟩⟩
  refine (Reads.block .paren hnone (fun next => (hkey _).append
    (.block .brace hname (reads_definitionFields row.2) reads_comma)) reads_comma).imp ?_
  rintro _ ⟨_, content, _, _, rfl, rfl,
    ⟨_, _, rfl, ⟨_, _, _, rfl⟩, _, fields, _, _, rfl, ⟨_, rfl⟩, hfields, _, _, rfl⟩, _, _, rfl⟩
  exact areRows_group (by simp [definitionRow?, hfields])

def tableHead (name : String) (rowType : List Piece) : List Piece :=
  [.word "pub", .blank ' ', .word "static", .blank ' '] ++ ([.word name, .mark ':' false, .blank ' '] ++
    ([.mark '&' false] ++ ((.opening .bracket :: (rowType ++ [.closing .bracket])) ++
      [.blank ' ', .mark '=' false, .blank ' ', .mark '&' false])))

def tablePieces (doc name : String) (rowType rows : List Piece) : List Piece :=
  indented 0 [.doc (' ' :: doc.toList)] ++
    (blockPieces 0 (tableHead name rowType ++ [.opening .bracket]) rows
      [.closing .bracket, .mark ';' false] ++ [.blank '\n'])

theorem writes_table {doc name header : String} {rowType rows : List Piece} {steps : List Step}
    (hheader : ("pub static " ++ header ++ " = &[").toList =
    written (tableHead name rowType ++ [.opening .bracket]))
    (h : Step.WriteAll steps 1 rows) :
    Step.WriteAll (tableSteps doc header steps) 0 (tablePieces doc name rowType rows) :=
  .cons (.doc doc) (.cons (.block hheader rfl h) (.single .blank))

def IsTable (name : String) (P : List Tree → Prop) (ts : List Tree) : Prop :=
  ∃ content, P content ∧ ∀ asked more,
    tableContent? asked (ts ++ more) = if name = asked then some content
      else tableContent? asked more

def IsTableHead (name : String) (ts : List Tree) : Prop :=
  ∀ content s j s' asked more,
    tableContent? asked (ts ++ .group .bracket content s :: .mark ';' j s' :: more) =
    if name = asked then some content else tableContent? asked more

theorem reads_tableHead {name : String} {rowType : List Piece} (hname : isWord name.toList = true)
    (htype : Reads rowType (some ']') fun _ => True) (hfirst : firstOf rowType (some ']') ≠ some '/') :
    Reads (tableHead name rowType) (some '[') (IsTableHead name) := by
  have hwords (next : Option Char) :
      Reads [.word "pub", .blank ' ', .word "static", .blank ' '] next fun ts =>
      ∃ s s', ts = [.word "pub" s, .word "static" s'] :=
    ⟨rfl, fun _ => ⟨_, nest_eq_some_iff.mp rfl, _, _, rfl⟩⟩
  have hmark : Reads [.mark '&' false] (some '[') fun ts => ∃ j s, ts = [.mark '&' j s] :=
    ⟨rfl, fun _ => ⟨_, nest_eq_some_iff.mp rfl, _, _, rfl⟩⟩
  have hvalue :
      Reads [.blank ' ', .mark '=' false, .blank ' ', .mark '&' false] (some '[') fun ts =>
      ∃ j s j' s', ts = [.mark '=' j s, .mark '&' j' s'] :=
    ⟨rfl, fun _ => ⟨_, nest_eq_some_iff.mp rfl, _, _, _, _, rfl⟩⟩
  refine ((hwords _).append ((reads_fieldName hname).append (hmark.append
    ((htype.group .bracket hfirst).append hvalue)))).imp ?_
  rintro _ ⟨_, _, rfl, ⟨_, _, rfl⟩, _, _, rfl, ⟨_, _, _, rfl⟩, _, _, rfl, ⟨_, _, rfl⟩, _,
    _, rfl, ⟨type, _, rfl, -⟩, _, _, _, _, rfl⟩ content s j s' asked more
  simp [tableContent?, listValue?]

theorem reads_tablePieces {doc name : String} {rowType rows : List Piece} {P : List Tree → Prop}
    (hdoc : isOneLine doc.toList = true)
    (hhead : Reads (tableHead name rowType) (some '[') (IsTableHead name))
    (h : ∀ next, Reads rows next P) :
    Reads (tablePieces doc name rowType rows) next (IsTable name P) := by
  have hcomment (next : Option Char) : Reads (indented 0 [.doc (' ' :: doc.toList)]) next fun ts =>
      ∀ asked more, tableContent? asked (ts ++ more) = tableContent? asked more := by
    refine .indented ⟨?_, fun _ => ⟨_, nest_eq_some_iff.mp rfl, fun _ _ => rfl⟩⟩
    have hline : isOneLine (' ' :: doc.toList) = true := hdoc
    simp [allFit, Piece.fits, firstOf, written, hline]
  have hend : Reads [.mark ';' false] (some '\n') fun ts => ∃ j s, ts = [.mark ';' j s] :=
    ⟨rfl, fun _ => ⟨_, nest_eq_some_iff.mp rfl, _, _, rfl⟩⟩
  refine ((hcomment _).append ((Reads.block .bracket hhead h hend).append .feed)).imp ?_
  rintro _ ⟨us, _, rfl, hus, _, _, rfl, ⟨head, content, s, _, rfl, hhead, hcontent, j, s', rfl⟩, rfl⟩
  refine ⟨content, hcontent, fun asked more => ?_⟩
  rw [List.append_assoc, hus]
  simpa using hhead content s j s' asked more

def headPieces : List Piece :=
  indented 0 [.note " DO NOT EDIT".toList] ++
    (indented 0 [.note " This file was automatically generated by cmdforge".toList] ++ ([.blank '\n'] ++
      (indented 0 [.word "use", .blank ' ', .word "super", .mark ':' true,
        .mark ':' false, .word "Definition", .mark ';' false] ++ [.blank '\n'])))

theorem writes_head :
    Step.WriteAll (headerSteps ++ [.line "use super::Definition;", .blank]) 0 headPieces :=
  .cons (.line rfl) (.cons (.line rfl) (.cons .blank (.cons (.line rfl) (.single .blank))))

theorem reads_head (next : Option Char) :
    Reads headPieces next fun ts => ∀ asked more,
      tableContent? asked (ts ++ more) = tableContent? asked more := by
  have hnote {text : List Char}
      (hfits : (Piece.note text).fits (some '\n') = true) (next : Option Char) :
      Reads (indented 0 [.note text]) next (· = []) :=
    .indented ⟨(Bool.and_true _).trans hfits, fun _ => ⟨[], .nil, rfl⟩⟩
  have huse (next : Option Char) :
      Reads (indented 0 [.word "use", .blank ' ', .word "super", .mark ':' true,
      .mark ':' false, .word "Definition", .mark ';' false]) next
      fun ts => ∀ asked more, tableContent? asked (ts ++ more) = tableContent? asked more :=
    .indented ⟨by decide +kernel, fun _ => ⟨_, nest_eq_some_iff.mp rfl, fun _ _ => rfl⟩⟩
  refine ((hnote (by decide) _).append ((hnote (by decide) _).append (Reads.feed.append
    ((huse _).append .feed)))).imp ?_
  rintro _ ⟨_, _, rfl, rfl, _, _, rfl, rfl, _, _, rfl, rfl, us, _, rfl, hus, rfl⟩
  simpa using hus

def apiTable (set : CommandSet) : List Piece :=
  tablePieces "Api of each command, by identifier." "API_PER_TEMPLATE_DEF_NAME"
    [.opening .paren, .mark '&' false, .word "str", .mark ',' false, .blank ' ',
      .mark '&' false, .word "str", .closing .paren]
    ((apiRows set).flatMap apiPieces)

def definitionTable (set : CommandSet) : List Piece :=
  tablePieces "Definition of each command, by identifier." "TEMPLATE_DEFINITIONS"
    [.opening .paren, .mark '&' false, .word "str", .mark ',' false, .blank ' ',
      .word "Definition", .closing .paren]
    ((definitionRows set).flatMap definitionPieces)

def actionTable (index : ActionIndex) : List Piece :=
  tablePieces "Entities supported by each action." "DRIVER_SUPPORTED_ACTIONS"
    [.opening .paren, .mark '&' false, .word "str", .mark ',' false, .blank ' ',
      .mark '&' false, .opening .bracket, .mark '&' false, .word "str",
      .closing .bracket, .closing .paren]
    ((actionRows index).flatMap actionPieces)

theorem reads_apiTable (set : CommandSet) (next : Option Char) : Reads (apiTable set) next
    (IsTable "API_PER_TEMPLATE_DEF_NAME" (AreRows apiRow? (apiRows set))) :=
  reads_tablePieces (by decide)
    (reads_tableHead (by decide +kernel)
      ⟨by decide +kernel, fun _ => ⟨_, nest_eq_some_iff.mp rfl, trivial⟩⟩ (by decide))
    (reads_rows fun row _ => reads_apiPieces row)

theorem reads_definitionTable (set : CommandSet) (next : Option Char) :
    Reads (definitionTable set) next
    (IsTable "TEMPLATE_DEFINITIONS" (AreRows definitionRow? (definitionRows set))) :=
  reads_tablePieces (by decide)
    (reads_tableHead (by decide +kernel)
      ⟨by decide +kernel, fun _ => ⟨_, nest_eq_some_iff.mp rfl, trivial⟩⟩ (by decide))
    (reads_rows fun row _ => reads_definitionPieces row)

theorem reads_actionTable (index : ActionIndex) (next : Option Char) :
    Reads (actionTable index) next
    (IsTable "DRIVER_SUPPORTED_ACTIONS" (AreRows actionRow? (actionRows index))) :=
  reads_tablePieces (by decide)
    (reads_tableHead (by decide +kernel)
      ⟨by decide +kernel, fun _ => ⟨_, nest_eq_some_iff.mp rfl, trivial⟩⟩ (by decide))
    (reads_rows fun row _ => reads_actionPieces row)

def declarationPieces (set : CommandSet) (index : ActionIndex) : List Piece :=
  headPieces ++ (apiTable set ++ (definitionTable set ++ actionTable index))

def lookupChars (header table key value : String) : List Char :=
  lineChars 0 ("pub fn ".toList ++ header.toList ++ " \x7b".toList) ++ lineChars 1 table.toList ++
    lineChars 2 (".binary_search_by_key(&".toList ++ key.toList ++ ", |&(key, _)| key)".toList) ++
    lineChars 2 ".ok()".toList ++ lineChars 2 (".map(|i| ".toList ++ value.toList ++ ")".toList) ++
    lineChars 0 "\x7d".toList

theorem add_lookupStep (header table key value t : String) :
    Layout.add ⟨.standard, 0, t⟩ (lookupStep header table key value) =
      ⟨.standard, 0, t ++ String.ofList (lookupChars header table key value)⟩ := by
  simp only [lookupStep, Step.braced, Layout.add, Layout.addAll, Step.write_line,
    Layout.deeper, Layout.shallower, lookupChars, String.toList_append, String.ofList_append,
    String.append_assoc, List.append_assoc, Nat.zero_add, Nat.reduceAdd, Nat.reduceSub]

def lookupsChars : List Char :=
  lookupChars "api_for(identifier: &str) -> Option<&'static str>"
    "API_PER_TEMPLATE_DEF_NAME" "identifier"
    "API_PER_TEMPLATE_DEF_NAME[i].1" ++ '\n' ::
  (lookupChars "definition(identifier: &str) -> Option<&'static Definition>"
    "TEMPLATE_DEFINITIONS" "identifier"
    "&TEMPLATE_DEFINITIONS[i].1" ++ '\n' ::
  lookupChars "supported_entities(action: &str) -> Option<&'static [&'static str]>"
    "DRIVER_SUPPORTED_ACTIONS" "action"
    "DRIVER_SUPPORTED_ACTIONS[i].1")

theorem text_lookupSteps (t : String) :
    (Layout.addAll ⟨.standard, 0, t⟩ lookupSteps).text.toList = t.toList ++ lookupsChars := by
  have hblank (t : String) : Layout.add ⟨.standard, 0, t⟩ .blank = ⟨.standard, 0, t ++ "\n"⟩ := rfl
  rw [lookupSteps, Layout.addAll, add_lookupStep, Layout.addAll, hblank, Layout.addAll,
    add_lookupStep, Layout.addAll, hblank, Layout.addAll, add_lookupStep,
    Layout.addAll, lookupsChars]
  simp only [String.toList_append, String.toList_ofList, List.append_assoc]
  rfl

theorem toList_definitionsText (set : CommandSet) (index : ActionIndex) :
    (definitionsText set index).toList = written (declarationPieces set index) ++ lookupsChars := by
  have hapis : Step.WriteAll (tableSteps "Api of each command, by identifier."
      "API_PER_TEMPLATE_DEF_NAME: &[(&str, &str)]" ((apiRows set).map apiRow)) 0 (apiTable set) :=
    writes_table rfl (.map writes_apiRow _)
  have hdefinitions : Step.WriteAll (tableSteps "Definition of each command, by identifier."
      "TEMPLATE_DEFINITIONS: &[(&str, Definition)]" ((definitionRows set).map definitionRow)) 0
        (definitionTable set) :=
    writes_table rfl (.map writes_definitionRow _)
  have hactions : Step.WriteAll (tableSteps "Entities supported by each action."
      "DRIVER_SUPPORTED_ACTIONS: &[(&str, &[&str])]" ((actionRows index).map actionRow)) 0
        (actionTable index) :=
    writes_table rfl (.map writes_actionRow _)
  have hwrites := writes_head.append (hapis.append (hdefinitions.append hactions)) ""
  rw [definitionsText, layOut, Layout.addAll_append]
  simp only [List.append_assoc] at hwrites ⊢
  rw [hwrites, String.empty_append, ← declarationPieces, text_lookupSteps, String.toList_ofList]

theorem ofText?_definitionsText (set : CommandSet) (index : ActionIndex) :
    Tables.ofText? (definitionsText set index) =
      some ⟨apiRows set, definitionRows set, actionRows index⟩ := by
  have hreads : Reads (declarationPieces set index) lookupsChars.head? _ :=
    (reads_head _).append <| (reads_apiTable set _).append <|
      (reads_definitionTable set _).append <|
      reads_actionTable index _
  have hlookups : (tokensFrom 0 0 lookupsChars >>= nest [] []).isSome := by decide +kernel
  have hfirst (next : Option Char) : firstOf headPieces next = some '/' := rfl
  obtain ⟨_, rest, htrees, head, _, rfl, hhead, apis, _, rfl, ⟨apiContent, hapis, hapiTable⟩,
      definitions, actions, rfl, ⟨definitionContent, hdefinitions, hdefinitionTable⟩,
      ⟨actionContent, hactions, hactionTable⟩⟩ :=
    hreads.exists_trees hlookups (by rw [declarationPieces, firstOf_append, hfirst]; decide)
  rw [← toList_definitionsText] at htrees
  simp only [List.append_assoc] at htrees
  have hcontent (asked : String) :
      tableContent? asked (head ++ (apis ++ (definitions ++ (actions ++ rest)))) =
      if "API_PER_TEMPLATE_DEF_NAME" = asked then some apiContent
      else if "TEMPLATE_DEFINITIONS" = asked then some definitionContent
      else if "DRIVER_SUPPORTED_ACTIONS" = asked then some actionContent
      else tableContent? asked rest := by
    rw [hhead, hapiTable, hdefinitionTable, hactionTable]
  simp [Tables.ofText?, htrees, hcontent, hapis.rowsOf_eq,
    hdefinitions.rowsOf_eq, hactions.rowsOf_eq]

def commandsInOrder (set : CommandSet) : List (String × Command) :=
  set.entries.mergeSort fun a b => decide (a.2.identifier ≤ b.2.identifier)

theorem byIdentifier_eq_map (set : CommandSet) :
    byIdentifier set = (commandsInOrder set).map fun e => (e.2.identifier, e.2) := by
  have hmap := List.map_mergeSort
    (r := fun a b : String × Command => decide (a.2.identifier ≤ b.2.identifier))
    (s := fun a b : String × Command => decide (a.1 ≤ b.1))
    (f := fun e : String × Command => (e.2.identifier, e.2))
    (l := set.entries) fun a _ b _ => rfl
  rw [commandsInOrder, hmap, byIdentifier, NameMap.values, List.map_map]
  rfl

theorem pairwise_commandsInOrder (set : CommandSet) : (commandsInOrder set).Pairwise fun a b =>
    a.2.identifier < b.2.identifier ∨ a.2.identifier = b.2.identifier ∧ a.1 < b.1 := by
  have hsorted : (commandsInOrder set).Pairwise fun a b => a.2.identifier ≤ b.2.identifier :=
    Text.pairwise_sortBy (fun e : String × Command => e.2.identifier) set.entries
  have hties (k : String) : (commandsInOrder set).filter (fun e => e.2.identifier = k) =
      set.entries.filter fun e => e.2.identifier = k :=
    Text.filter_sortBy (fun e : String × Command => e.2.identifier) set.entries k
  refine List.pairwise_iff_forall_sublist.mpr fun {a b} hab => ?_
  have hle : a.2.identifier ≤ b.2.identifier := List.pairwise_iff_forall_sublist.mp hsorted hab
  by_cases heq : a.2.identifier = b.2.identifier
  · have hboth : [a, b] <+ set.entries := by
      have hfilter := hab.filter fun e => decide (e.2.identifier = b.2.identifier)
      rw [hties] at hfilter
      simpa [heq] using hfilter.trans List.filter_sublist
    exact .inr ⟨heq, List.pairwise_iff_forall_sublist.mp set.inKeyOrder hboth⟩
  · exact .inl (String.not_le.mp fun hge => heq (String.le_antisymm hle hge))

/-- Reading the definitions file back gives the commands in identifier order, those of one
identifier in type-name order, with all that their definitions say, and the rows of the index; its
entities are in order. -/
theorem definitionsText_reads_back (set : CommandSet) (index : ActionIndex) :
    (∃ commands : List (String × Command), commands.Perm set.entries ∧
      (commands.Pairwise fun a b =>
        a.2.identifier < b.2.identifier ∨ a.2.identifier = b.2.identifier ∧ a.1 < b.1) ∧
      Tables.ofText? (definitionsText set index) = some {
        apis := commands.map fun e => (e.2.identifier, e.2.api)
        definitions := commands.map fun e => (e.2.identifier, {
          action := e.2.action
          entity := e.2.entity
          api := e.2.api
          requiredParams := (e.2.params.filter fun p => p.isRequired).map fun p => p.name
          extraParams := (e.2.params.filter fun p => !p.isRequired).map fun p => p.name })
        actions := index.entries }) ∧
    (index.entries.Pairwise fun a b => a.1 < b.1) ∧
    ∀ row ∈ (ActionIndex.ofCommands set).entries,
      row.2.Pairwise (· ≤ ·) ∧
      row.2.Perm ((set.values.filter (·.action = row.1)).map (·.entity)) := by
  refine ⟨⟨commandsInOrder set, List.mergeSort_perm _ _, pairwise_commandsInOrder set, ?_⟩,
    index.inKeyOrder, ?_⟩
  · rw [ofText?_definitionsText, apiRows, definitionRows, byIdentifier_eq_map,
      List.map_map, List.map_map]
    rfl
  · intro (action, entities) hrow
    have hget := (lookup_eq_some_iff_mem (ActionIndex.ofCommands set).inKeyOrder.nodup_keys).mpr hrow
    have hentities := hget.symm.trans (ActionIndex.get?_ofCommands set)
    split_ifs at hentities
    obtain rfl := Option.some.inj hentities
    refine ⟨?_, List.mergeSort_perm _ _⟩
    have hsorted := @List.pairwise_mergeSort _ (fun a b : String => decide (a ≤ b))
      (fun a b c => by simpa using String.le_trans) (fun a b => by simpa using String.le_total a b)
      (entitiesOf action set.values)
    simpa using hsorted

end CommandGen
