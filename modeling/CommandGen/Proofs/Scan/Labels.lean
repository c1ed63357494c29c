import CommandGen.Proofs.Scan.Places
import CommandGen.Proofs.Scan.Source
import CommandGen.Proofs.Source.Position
import CommandGen.Proofs.Source.Token

/-! Labels of errors, by the text that they are for. -/
namespace CommandGen

open Source

namespace Source

variable {s : List Char} {toks : List (Token × Span)} {tok : Token × Span} {a : Attribute}

theorem IsTokenOf.start_le_stop (h : IsTokenOf s tok) : tok.2.start ≤ tok.2.stop := by
  obtain ⟨w, -, hstop⟩ := h.isRead
  omega

theorem IsTokenOf.not_lineEnd (h : IsTokenOf s tok) :
    (s.drop tok.2.start).head?.any (· ≠ '\n') = true := by
  have hblank := h.notBlank
  cases hs : s.drop tok.2.start with
  | nil => simp [hs] at hblank
  | cons c rest =>
    have hc : Text.isBlank c = false := by simpa [hs] using hblank
    have hline : c ≠ '\n' := by
      rintro rfl
      exact absurd hc (by decide)
    simpa using hline

theorem Attribute.IsReadFrom.bracketed (h : a.IsReadFrom toks) (ht : AreTokensOf s toks) :
    a.span.start ≤ a.span.stop ∧ (s.drop a.span.start).head?.any (· ≠ '\n') = true ∧
      ∃ inner, (s.drop a.span.start).take (a.span.stop - a.span.start) = '#' :: inner ++ [']'] := by
  obtain ⟨content, ⟨before, joined, first, opening, inner, closing, after, rfl, -, hspan⟩, -⟩ := h
  have hfirst : IsTokenOf s (.mark '#' joined, first) := ht.each _ (by simp)
  have hclosing : IsTokenOf s (.closing .bracket, closing) := ht.each _ (by simp)
  have horder : first.stop ≤ closing.start :=
    List.rel_of_pairwise_cons (List.pairwise_append.mp ht.inOrder).2.1
      (show (Token.closing .bracket, closing) ∈ _ by simp)
  obtain ⟨v, hread, hstop⟩ := hfirst.isRead
  obtain ⟨w, hread', hlast⟩ := hclosing.isRead
  obtain ⟨hsign, rfl⟩ := tokenAt_mark_cases hread
  obtain ⟨hbracket, rfl⟩ := tokenAt_closing_bracket hread'
  rw [hspan]
  dsimp only at *
  refine ⟨by omega, hfirst.not_lineEnd, ?_⟩
  obtain ⟨k, hk⟩ : ∃ k, closing.start = first.start + (k + 1) :=
    ⟨closing.start - first.start - 1, by omega⟩
  obtain ⟨rest, hrest⟩ := List.head?_eq_some_iff.mp hsign
  have hend : rest[k]? = some ']' := by
    have hdrop : s.drop closing.start = rest.drop k := by
      rw [hk, ← List.drop_drop, hrest, List.drop_succ_cons]
    rw [← List.head?_drop, ← hdrop, hbracket]
  refine ⟨rest.take k, ?_⟩
  rw [hrest, hlast, hk,
    show first.start + (k + 1) + 1 - first.start = k + 1 + 1 by omega, List.take_succ_cons,
    List.take_add_one, hend]
  rfl

end Source

/-- Whether a stretch is what an error reports of an attribute: all of it, or the string literal
with tags that are malformed. -/
def ScanError.Reports (e : ScanError) (a : Attribute) (span : Span) : Prop :=
  match e with
  | .invalidTagAttribute .. => a.value = none ∧ span = a.span
  | .duplicateFieldTag .. | .duplicateCommandTag .. => span = a.span
  | .malformedTag fault _ => ∃ body, a.value = some (body, span) ∧ TagSet.parse body = .error fault
  | _ => False

theorem ScanError.Reports.span_cases {e : ScanError} {a : Attribute} {span : Span}
    (h : e.Reports a span) :
    span = a.span ∨ ∃ body, a.value = some (body, span) := by
  unfold Reports at h
  split at h
  · exact .inl h.2
  · exact .inl h
  · exact .inl h
  · exact .inr (h.imp fun _ h => h.1)
  · cases h

variable {o : ScanOptions} {f : File} {fields : List Field}
  {range : Span → ByteRange} {typeName : String} {e : ScanError}

theorem mem_labels (h : FieldsFault o range typeName fields e) : ∀ l ∈ e.labels,
    ∃ field ∈ fields, ∃ a ∈ tagAttributes o field, ∃ span, e.Reports a span ∧
      l.range = range span := by
  obtain ⟨before, field, after, rfl, -, hfault⟩ := h
  have hfield : field ∈ before ++ field :: after := by simp
  intro l hl
  cases hfault with
  | unreadable hfault =>
    cases hfault with
    | @twice first second rest ha =>
      rcases List.mem_pair.mp hl with rfl | rfl
      · exact ⟨field, hfield, first, by simp [ha], _, rfl, rfl⟩
      · exact ⟨field, hfield, second, by simp [ha], _, rfl, rfl⟩
    | @noLiteral a ha hv =>
      obtain rfl := List.mem_singleton.mp hl
      exact ⟨field, hfield, a, by simp [ha], _, ⟨hv, rfl⟩, rfl⟩
    | @malformed a body span e ha hv _ hp =>
      obtain rfl := List.mem_singleton.mp hl
      exact ⟨field, hfield, a, by simp [ha], _, ⟨body, hv, hp⟩, rfl⟩
  | @second g a b _ _ hg _ ha hb =>
    rcases List.mem_pair.mp hl with rfl | rfl
    · exact ⟨g, by simp [hg], a, by simp [ha], _, rfl, rfl⟩
    · exact ⟨field, hfield, b, by simp [hb], _, rfl, rfl⟩

/-- Every label of an error is for what it reports of an attribute that is looked for, and marks
exactly the text of that, unless there is a mark in front of the file and the text starts on the
first line. -/
theorem label_range_iff (hdoc : o.attributeName ≠ "doc") (h : scanSource o f = .error e) :
    ∀ l ∈ e.labels, ∃ toks a span before text, tokens f.body = some toks ∧ a.IsReadFrom toks ∧
      a.name = some o.attributeName ∧ e.Reports a span ∧ f.IsStretch span before text ∧
      (span = a.span → ∃ inner, text = '#' :: inner ++ [']']) ∧
      (∀ body, a.value = some (body, span) → (.literal (.string body), span) ∈ toks) ∧
      (l.range = ⟨byteCount before, byteCount text⟩ ↔
        ¬ (f.text.toList.head? = some byteOrderMark ∧ '\n' ∉ before)) := by
  intro l hl
  cases hitems : f.items? with
  | none =>
    obtain rfl : ScanError.unparsable = e := by
      simpa [scanSource, addFile, scanFile, hitems, bind, Except.bind] using h
    cases hl
  | some items =>
    have hscan := isSourceScan_scanSource (o := o) hitems
    rw [h] at hscan
    rcases hscan.2 with ⟨_, s, _, hs, -, hfault⟩ | ⟨-, _, _, _, _, -, -, -, -, rfl⟩
    · obtain ⟨field, hfield, a, ha, span, hreports, hrange⟩ := mem_labels hfault l hl
      obtain ⟨ha, hname⟩ := List.mem_filter.mp ha
      have hname : a.name = some o.attributeName := by simpa using hname
      have hmem : a ∈ fieldAttributes (outlineFrom 0 items) :=
        mem_fieldAttributes.mpr ⟨s, by simp [hs], field, hfield, ha⟩
      obtain ⟨toks, htoks, hread⟩ := isReadFrom_of_items hitems hmem hname hdoc
      have htokens := areTokensOf_tokens htoks
      -- an attribute and a literal start with a token, so not at the end of a line
      obtain ⟨hle, hstart⟩ :
          span.start ≤ span.stop ∧ (f.body.drop span.start).head?.any (· ≠ '\n') = true := by
        rcases hreports.span_cases with rfl | ⟨body, hbody⟩
        · exact (hread.bracketed htokens).imp_right And.left
        · have htok := htokens.each _ (hread.mem_tokens.2 _ hbody)
          exact ⟨htok.start_le_stop, htok.not_lineEnd⟩
      obtain ⟨before, text, hstretch, hplace⟩ := f.exists_stretch hle hstart
      refine ⟨toks, a, span, before, text, htoks, hread, hname, hreports, hstretch, ?_,
        fun body hbody => hread.mem_tokens.2 _ hbody, hrange ▸ hplace⟩
      rintro rfl
      obtain ⟨-, -, -, htext⟩ := hstretch
      exact htext ▸ (hread.bracketed htokens).2.2
    · cases hl

/-- Behind a mark the label is one character off. -/
theorem label_range_iff_behind_mark :
    let f : File := ⟨"a.rs", "\ufeffstruct S \x7b #[tag(1)] f: () \x7d"⟩
    let e : ScanError := .invalidTagAttribute "tag" ⟨13, 9⟩
    scanSource {} f = .error e ∧ ∀ l ∈ e.labels, ∃ before inner after,
      f.text.toList = before ++ ('#' :: inner ++ [']']) ++ after ∧
        l.range ≠ ⟨byteCount before, byteCount ('#' :: inner ++ [']'])⟩ := by
  intro f e
  have hscan : scanSource {} f = .error e := by decide +kernel
  refine ⟨hscan, fun l hl => ?_⟩
  obtain ⟨toks, a, span, before, text, -, -, -, ⟨-, hspan⟩, hstretch, htext, -, hplace⟩ :=
    label_range_iff (by decide) hscan l hl
  obtain ⟨inner, rfl⟩ := htext hspan
  obtain ⟨front, hfront, rfl, hinner⟩ := hstretch
  refine ⟨_, inner, (f.body.drop span.start).drop (span.stop - span.start), ?_,
    fun hrange => hplace.mp hrange ⟨by decide, ?_⟩⟩
  · rw [hinner, List.append_assoc, List.take_append_drop, List.append_assoc,
      List.take_append_drop, hfront]
  · have hline : '\n' ∉ f.text.toList := by decide
    rw [hfront] at hline
    exact fun hmem =>
      hline ((List.append_sublist_append_left _).mpr (List.take_sublist _ _) |>.subset hmem)

/-- The label starts at byte 13 and the number sign stands at byte 14. -/
theorem label_misses_marked_text :
    let before := "\ufeffstruct S \x7b "
    let text := "#[tag(1)]"
    scanSource {} ⟨"a.rs", before ++ text ++ " f: () \x7d"⟩ =
      .error (.invalidTagAttribute "tag" ⟨13, 9⟩) ∧
      (⟨byteCount before.toList, byteCount text.toList⟩ : ByteRange) = ⟨14, 9⟩ := by
  decide +kernel

end CommandGen
