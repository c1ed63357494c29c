import CommandGen.Proofs.Source.Position
import Mathlib.Data.List.Induction
import Mathlib.Data.String.Basic

/-! Offsets of positions in any text: that of the position behind a part of the text is the size of
the part, and that of a position that the text does not have is still a place between two of its
characters. -/
namespace CommandGen.Source

variable {before after : List Char} {c : Char}

/-- The position behind a text: its line by the line ends in the text, its column by the characters
since the last of them. -/
def placeBehind (before : List Char) : Position :=
  ⟨1 + before.count '\n', (before.reverse.takeWhile (· ≠ '\n')).length⟩

theorem placeBehind_concat : placeBehind (before ++ [c]) =
    if c = '\n' then ⟨(placeBehind before).line + 1, 0⟩
    else ⟨(placeBehind before).line, (placeBehind before).column + 1⟩ := by
  by_cases hc : c = '\n'
  · simp [placeBehind, hc, Nat.add_assoc]
  · simp [placeBehind, hc]

theorem after_add (p : Position) (m n : ℕ) (text : List Char) :
    p.after (m + n) text = (p.after m text).after n (text.drop m) := by
  induction m generalizing p text with
  | zero => simp [Position.after]
  | succ m ih =>
    cases text with
    | nil => cases n <;> simp [Position.after]
    | cons c text =>
      rw [Nat.add_right_comm, Position.after, ih]
      rfl

theorem positionOf_append : positionOf (before ++ after) before.length = placeBehind before := by
  induction before using List.reverseRecOn generalizing after with
  | nil => rfl
  | append_singleton before c ih =>
    have hbefore : positionOf (before ++ c :: after) before.length = placeBehind before := ih
    have hdrop : (before ++ c :: after).drop before.length = c :: after := List.drop_left
    rw [placeBehind_concat, ← hbefore, List.append_assoc, List.singleton_append,
      List.length_append, List.length_singleton, positionOf, after_add, hdrop]
    rfl

theorem byteOffset_placeBehind :
    byteOffset (before ++ after) (placeBehind before) = byteCount before := by
  have htake : (before ++ after).take before.length = before := List.take_left
  have hplace : positionOf (before ++ after) before.length = placeBehind before := positionOf_append
  rw [← hplace]
  by_cases h : '\n' ∈ before
  · have hoffset :=
      @byteOffset_of_mem (before ++ after) [] before.length List.not_mem_nil (htake.symm ▸ h)
    rwa [List.nil_append, List.nil_append, htake] at hoffset
  · have hoffset :=
      (@byteOffset_of_not_mem (before ++ after) [] before.length (htake.symm ▸ h)).mpr rfl
    rwa [List.nil_append, List.nil_append, htake] at hoffset

theorem cutLines_append_eq (n : ℕ) (source : List Char) :
    (cutLines n source).1 ++ (cutLines n source).2 = source := by
  induction source generalizing n with
  | nil => cases n <;> rfl
  | cons c source ih =>
    cases n with
    | zero => rfl
    | succ n =>
      rw [cutLines_cons]
      split_ifs <;> simp [ih]

/-- Whatever the position, its offset is the size of what stands in front of some place in the
text. -/
theorem exists_byteOffset_eq (source : List Char) (p : Position) :
    ∃ before after, source = before ++ after ∧ byteOffset source p = byteCount before := by
  refine ⟨(cutLines (p.line - 1) source).1 ++ (cutLines (p.line - 1) source).2.take p.column,
    (cutLines (p.line - 1) source).2.drop p.column, ?_, byteCount_append.symm⟩
  rw [List.append_assoc, List.take_append_drop, cutLines_append_eq]

theorem byteCount_toList (text : String) : byteCount text.toList = text.utf8ByteSize := by
  have hsize : ∀ s : List Char, byteCount s = String.utf8Len s := by
    intro s
    induction s with
    | nil => rfl
    | cons c s ih => rw [byteCount, ih, String.utf8Len_cons, Nat.add_comm]
  rw [hsize, ← String.utf8ByteSize_ofList, String.ofList_toList]

theorem byteOffset_isValid (text : String) (p : Position) :
    (⟨byteOffset text.toList p⟩ : String.Pos.Raw).IsValid text := by
  obtain ⟨before, after, htext, hoffset⟩ := exists_byteOffset_eq text.toList p
  refine String.Pos.Raw.isValid_iff_exists_append.mpr ⟨String.ofList before, String.ofList after, ?_, ?_⟩
  · rw [← String.ofList_append, ← htext, String.ofList_toList]
  · rw [hoffset, String.Pos.Raw.ext_iff, String.byteIdx_rawEndPos,
      ← byteCount_toList, String.toList_ofList]

/-- A range that is inside a text and cuts none of its characters. -/
structure ByteRange.IsWithin (r : ByteRange) (text : String) : Prop where
  inside : r.offset + r.length ≤ text.utf8ByteSize
  first : (⟨r.offset⟩ : String.Pos.Raw).IsValid text
  last : (⟨r.offset + r.length⟩ : String.Pos.Raw).IsValid text

theorem byteRange_end (source : List Char) (start stop : Position) :
    (byteRange source start stop).offset + (byteRange source start stop).length =
      max (byteOffset source start) (byteOffset source stop) := by
  dsimp only [byteRange]
  omega

theorem byteRange_isWithin (text : String) (start stop : Position) :
    (byteRange text.toList start stop).IsWithin text := by
  have hlast : (⟨(byteRange text.toList start stop).offset + (byteRange text.toList start stop).length⟩ :
      String.Pos.Raw).IsValid text := by
    rw [byteRange_end]
    rcases max_choice (byteOffset text.toList start) (byteOffset text.toList stop) with h | h
    · rw [h]
      exact byteOffset_isValid text start
    · rw [h]
      exact byteOffset_isValid text stop
  exact ⟨hlast.le_utf8ByteSize, byteOffset_isValid text start, hlast⟩

/-- The position behind a part of a text has the size of the part as its offset. Positions at large,
be they in the text or not, have offsets that are places between its characters, and ranges between
them are inside it. -/
theorem byteOffset_exact :
    (∀ before after : String,
      byteOffset (before ++ after).toList (placeBehind before.toList) = before.utf8ByteSize) ∧
    ∀ (text : String) (start stop : Position),
      byteOffset text.toList start ≤ text.utf8ByteSize ∧
      (⟨byteOffset text.toList start⟩ : String.Pos.Raw).IsValid text ∧
      (byteRange text.toList start stop).offset = byteOffset text.toList start ∧
      (byteRange text.toList start stop).IsWithin text := by
  refine ⟨fun before after => ?_, fun text start stop => ?_⟩
  · rw [String.toList_append, byteOffset_placeBehind, byteCount_toList]
  · have hvalid := byteOffset_isValid text start
    exact ⟨hvalid.le_utf8ByteSize, hvalid, rfl, byteRange_isWithin text start stop⟩

/-- A character of two bytes, a carriage return before the line end, and positions that are not in
the text. -/
example : let text := "é\r\nx".toList
    byteOffset text ⟨2, 0⟩ = 4 ∧ byteOffset text ⟨0, 9⟩ = 5 ∧
      byteRange text ⟨7, 3⟩ ⟨1, 1⟩ = ⟨5, 0⟩ := by
  decide

end CommandGen.Source
