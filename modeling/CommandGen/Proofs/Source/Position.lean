import CommandGen.Source.File
import Mathlib.Data.List.Basic
import Mathlib.Data.List.TakeWhile

/-! Bytes at the positions of a file. Positions count the characters of the text that is read, and
bytes are counted in the whole text, which may have something in front of it. -/
namespace CommandGen.Source

variable {s text front : List Char} {n : ℕ} {c : Char}

@[simp] theorem byteCount_append : byteCount (s ++ text) = byteCount s + byteCount text := by
  induction s with
  | nil => simp [byteCount]
  | cons c s ih => simp [byteCount, ih, Nat.add_assoc]

theorem byteCount_pos (h : s ≠ []) : 0 < byteCount s := by
  cases s with
  | nil => exact absurd rfl h
  | cons c s => exact Nat.add_pos_left c.utf8Size_pos _

theorem byteCount_take_lt (h : n < s.length) : byteCount (s.take n) < byteCount s := by
  have hrest : 0 < byteCount (s.drop n) := byteCount_pos (by simpa using h)
  calc byteCount (s.take n) < byteCount (s.take n) + byteCount (s.drop n) :=
  Nat.lt_add_of_pos_right hrest
    _ = byteCount s := by rw [← byteCount_append, List.take_append_drop]

theorem after_of_not_mem (p : Position) (h : '\n' ∉ text.take n) :
    p.after n text = ⟨p.line, p.column + (text.take n).length⟩ := by
  induction text generalizing n p with
  | nil => cases n <;> rfl
  | cons c text ih =>
    cases n with
    | zero => rfl
    | succ n =>
      simp only [List.take_succ_cons, List.mem_cons, not_or] at h
      rw [Position.after, if_neg (Ne.symm h.1), ih _ h.2, List.take_succ_cons, List.length_cons]
      simp [Nat.add_assoc, Nat.add_comm 1]

theorem cutLines_cons : cutLines (n + 1) (c :: text) =
    (c :: (if c = '\n' then cutLines n text else cutLines (n + 1) text).1,
      (if c = '\n' then cutLines n text else cutLines (n + 1) text).2) := rfl

/-- Once a line has ended, the lines above a position and the column in its own line hold what comes
before. -/
theorem after_of_mem (p : Position) (h : '\n' ∈ text.take n) :
    ∃ k, (p.after n text).line = p.line + k + 1 ∧
      byteCount (cutLines (k + 1) text).1 + byteCount
        ((cutLines (k + 1) text).2.take (p.after n text).column) =
        byteCount (text.take n) := by
  induction text generalizing n p with
  | nil => simp at h
  | cons c text ih =>
    cases n with
    | zero => simp at h
    | succ n =>
      rw [Position.after, List.take_succ_cons]
      by_cases hrest : '\n' ∈ text.take n
      · obtain ⟨k, hline, hbytes⟩ :=
          ih (if c = '\n' then ⟨p.line + 1, 0⟩ else ⟨p.line, p.column + 1⟩) hrest
        by_cases hc : c = '\n'
        · simp only [hc, if_true] at hline hbytes ⊢
          refine ⟨k + 1, by rw [hline]; omega, ?_⟩
          rw [cutLines_cons, if_pos rfl, byteCount, byteCount, ← hbytes, Nat.add_assoc]
        · simp only [hc, if_false] at hline hbytes ⊢
          refine ⟨k, hline, ?_⟩
          rw [cutLines_cons, if_neg hc, byteCount, byteCount, ← hbytes, Nat.add_assoc]
      · obtain rfl : c = '\n' := by
          rw [List.take_succ_cons, List.mem_cons] at h
          exact (h.resolve_right hrest).symm
        rw [if_pos rfl, after_of_not_mem _ hrest]
        refine ⟨0, rfl, ?_⟩
        rw [cutLines_cons, if_pos rfl]
        simp [cutLines, byteCount, ← List.take_eq_take_min]

theorem cutLines_append (h : '\n' ∉ front) :
    cutLines (n + 1) (front ++ text) = (front ++ (cutLines (n + 1) text).1,
      (cutLines (n + 1) text).2) := by
  induction front with
  | nil => rfl
  | cons c front ih =>
    simp only [List.mem_cons, not_or] at h
    rw [List.cons_append, cutLines_cons, if_neg (Ne.symm h.1), ih h.2, List.cons_append]

theorem byteOffset_of_mem (hfront : '\n' ∉ front) (h : '\n' ∈ text.take n) :
    byteOffset (front ++ text) (positionOf text n) = byteCount (front ++ text.take n) := by
  obtain ⟨k, hline, hbytes⟩ := after_of_mem ⟨1, 0⟩ h
  have hlines : (positionOf text n).line - 1 = k + 1 := by
    rw [positionOf, hline, Nat.add_assoc, Nat.add_sub_cancel_left]
  rw [byteOffset, hlines, cutLines_append hfront]
  dsimp only
  rw [positionOf, byteCount_append, byteCount_append, Nat.add_assoc, hbytes]

theorem byteOffset_of_not_mem (h : '\n' ∉ text.take n) :
    byteOffset (front ++ text) (positionOf text n) = byteCount (front ++ text.take n) ↔
      front = [] := by
  have hoffset : byteOffset (front ++ text) (positionOf text n) =
      byteCount ((front ++ text.take n).take (text.take n).length) := by
    have hsame : (front ++ text).take (text.take n).length =
        (front ++ text.take n).take (text.take n).length := by
      have hsplit : front ++ text = front ++ text.take n ++ text.drop n := by
        rw [List.append_assoc, List.take_append_drop]
      rw [hsplit, List.take_append_of_le_length (by simp)]
    rw [positionOf, after_of_not_mem _ h, ← hsame]
    simp [byteOffset, cutLines, byteCount]
  rw [hoffset]
  constructor
  · intro heq
    by_contra hfront
    have hpos := List.length_pos_iff.mpr hfront
    have hless : byteCount ((front ++ text.take n).take (text.take n).length) <
        byteCount (front ++ text.take n) := by
      refine byteCount_take_lt ?_
      rw [List.length_append]
      omega
    exact absurd heq (Nat.ne_of_lt hless)
  · rintro rfl
    rw [List.nil_append, List.take_length]

theorem exists_mark (source : List Char) :
    ∃ front, source = front ++ withoutMark source ∧ '\n' ∉ front ∧
    (source.head? = some byteOrderMark ↔ front ≠ []) := by
  cases source with
  | nil => exact ⟨[], by simp [withoutMark]⟩
  | cons c rest =>
    by_cases hc : c = byteOrderMark
    · exact ⟨[c], by simp [withoutMark, hc, byteOrderMark]⟩
    · exact ⟨[], by simp [withoutMark, hc]⟩

theorem exists_interpreter (source : List Char) :
    ∃ front, source = front ++ withoutInterpreter source ∧
    '\n' ∉ front ∧ (front ≠ [] → ∀ c ∈ (withoutInterpreter source).head?, c = '\n') := by
  unfold withoutInterpreter
  split
  · split_ifs
    · exact ⟨[], by simp⟩
    · rename_i rest _
      refine ⟨('#' :: '!' :: rest).takeWhile (· ≠ '\n'),
        List.takeWhile_append_dropWhile.symm, fun h => ?_, ?_⟩
      · simpa using List.mem_takeWhile_imp h
      · intro _ c hc
        have hstop := List.head?_dropWhile_not (· ≠ '\n') ('#' :: '!' :: rest)
        rw [hc] at hstop
        simpa using hstop
  · exact ⟨[], by simp⟩

/-- What stands in front of the text that is read, and which positions from a character on that is
no line end are at their bytes. A mark in front is not counted on the first line. -/
theorem exists_front (source : List Char) : ∃ front, source = front ++ bodyText source ∧
    ∀ m n, m ≤ n → ((bodyText source).drop m).head?.any (· ≠ '\n') = true →
      (byteOffset source (positionOf (bodyText source) n) =
        byteCount (front ++ (bodyText source).take n) ↔
        ¬ (source.head? = some byteOrderMark ∧ '\n' ∉ front ++ (bodyText source).take n)) := by
  obtain ⟨mark, hmark, hmarkLine, hmark_iff⟩ := exists_mark source
  obtain ⟨line, hline, hlineLine, hbelow⟩ := exists_interpreter (withoutMark source)
  have hsource : source = mark ++ line ++ bodyText source := by
    rw [List.append_assoc, bodyText, ← hline, ← hmark]
  refine ⟨mark ++ line, hsource, fun m n hmn hm => ?_⟩
  rw [← bodyText] at hbelow
  generalize bodyText source = body at *
  by_cases hmem : '\n' ∈ body.take n
  · have hright : byteOffset source (positionOf body n) = byteCount (mark ++ line ++ body.take n) :=
      hsource ▸ byteOffset_of_mem (by simp [hmarkLine, hlineLine]) hmem
    simp [hright, hmem]
  · have hoffset : byteOffset source (positionOf body n) = byteCount (mark ++ line ++ body.take n) ↔
        mark ++ line = [] := hsource ▸ byteOffset_of_not_mem hmem
    have hline_nil : line = [] := by
      by_contra hne
      cases body with
      | nil => simp at hm
      | cons c rest =>
        obtain rfl := hbelow hne c rfl
        cases n with
        | zero =>
          obtain rfl : m = 0 := Nat.le_zero.mp hmn
          simp at hm
        | succ n => simp at hmem
    rw [hoffset, hline_nil]
    simp [hmark_iff, hmarkLine, hmem]

/-- A stretch of the text that is read, with what stands before it in the whole text. -/
def File.IsStretch (f : File) (span : Span) (before text : List Char) : Prop :=
  ∃ front, f.text.toList = front ++ f.body ∧ before = front ++ f.body.take span.start ∧
    text = (f.body.drop span.start).take (span.stop - span.start)

/-- The range of a stretch is where it stands, unless there is a mark in front and the stretch
starts on the first line. -/
theorem File.exists_stretch (f : File) {span : Span} (hle : span.start ≤ span.stop)
    (hstart : (f.body.drop span.start).head?.any (· ≠ '\n') = true) :
    ∃ before text, f.IsStretch span before text ∧
      (f.range span = ⟨byteCount before, byteCount text⟩ ↔
        ¬ (f.text.toList.head? = some byteOrderMark ∧ '\n' ∉ before)) := by
  obtain ⟨front, hfront, hoffset⟩ := exists_front f.text.toList
  refine ⟨_, _, ⟨front, hfront, rfl, rfl⟩, ?_⟩
  have hfirst := hoffset _ _ (Nat.le_refl _) hstart
  have hlast := hoffset _ _ hle hstart
  have htake : f.body.take span.stop =
      f.body.take span.start ++ (f.body.drop span.start).take (span.stop - span.start) := by
    rw [← List.take_add, Nat.add_sub_cancel' hle]
  have hmore : '\n' ∈ front ++ f.body.take span.start → '\n' ∈ front ++ f.body.take span.stop := by
    rw [htake, ← List.append_assoc]
    exact List.mem_append_left _
  rw [range, byteRange, ByteRange.mk.injEq, position, position]
  constructor
  · exact fun h => hfirst.mp h.1
  · intro h
    have hright := hfirst.mpr h
    have hright' := hlast.mpr fun hmark => h ⟨hmark.1, mt hmore hmark.2⟩
    refine ⟨hright, ?_⟩
    dsimp only [body] at htake ⊢
    rw [hright, hright', htake, ← List.append_assoc, byteCount_append, Nat.add_sub_cancel_left]

end CommandGen.Source
