import CommandGen.Proofs.NameMap
import CommandGen.Scan.Declaration
import Mathlib.Data.List.Forall2

/-! What the fields of a structure declare, and what is wrong with the first of them that is at
fault. -/
namespace CommandGen

open Source

namespace TagSet

variable {tags parsed : TagSet} {key k value : String} {tokens : List (String × List Char)}

theorem contains_iff : tags.contains k = true ↔ k ∈ tags.entries.map (·.1) := by
  rw [contains, get?, Option.isSome_iff_ne_none, ne_eq, lookup_eq_none_iff_keys, not_not]

theorem contains_put :
    (tags.put key value).contains k = true ↔ k = key ∨ tags.contains k = true := by
  rw [contains_iff, contains_iff, put, keys_putEntry]
  split
  · rename_i hmem
    exact ⟨.inr, fun h => h.elim (fun he => he ▸ hmem) id⟩
  · simp [or_comm]

theorem contains_of_foldlM (h : tokens.foldlM addToken tags = .ok parsed) :
    parsed.contains k = true ↔ tags.contains k = true ∨ tokens.any (·.1 == k) = true := by
  induction tokens generalizing tags with
  | nil =>
    obtain rfl : tags = parsed := by simpa [pure, Except.pure] using h
    simp
  | cons t rest ih =>
    rw [List.foldlM_cons] at h
    unfold addToken at h
    split at h
    · rename_i text _
      rw [ih h, contains_put, List.any_cons, Bool.or_eq_true, beq_iff_eq]
      tauto
    · cases h

theorem contains_parse {body : String} (h : parse body = .ok parsed) :
    parsed.contains k = hasKey body k := by
  have hiff : parsed.contains k = true ↔ hasKey body k = true := by
    rw [contains_of_foldlM h, hasKey]
    simp [contains, get?]
  exact Bool.eq_iff_iff.mpr hiff

end TagSet

section

variable (o : ScanOptions) (range : Span → ByteRange)

/-- The attributes of a field whose path is the name that is looked for and nothing else. -/
def tagAttributes (f : Field) : List Attribute :=
  f.attributes.filter (·.name = some o.attributeName)

def hasMarker (key : String) (f : Field) : Bool :=
  (tagAttributes o f).any fun a => a.value.any fun v => hasKey v.1 key

def isCommandField (f : Field) : Bool := hasMarker o o.keys.command f

def isParamField (f : Field) : Bool := hasMarker o o.keys.param f && !isCommandField o f

/-- A field that can be read. Tags without a mark need not be well formed. -/
structure FieldFine (f : Field) : Prop where
  once : (tagAttributes o f).length ≤ 1
  literal : ∀ a ∈ tagAttributes o f, a.value.isSome
  parses : ∀ a ∈ tagAttributes o f, ∀ body span, a.value = some (body, span) →
    hasKey body o.keys.command ∨ hasKey body o.keys.param → ∃ tags, TagSet.parse body = .ok tags

def HasTags (f : Field) (tags : TagSet) : Prop :=
  ∃ a body span, tagAttributes o f = [a] ∧ a.value = some (body, span) ∧
    TagSet.parse body = .ok tags

/-- What is wrong with a field that cannot be read. -/
inductive FieldFault (f : Field) : ScanError → Prop
  | twice {first second rest} : tagAttributes o f = first :: second :: rest →
      FieldFault f (.duplicateFieldTag o.attributeName (range first.span) (range second.span))
  | noLiteral {a} : tagAttributes o f = [a] → a.value = none →
      FieldFault f (.invalidTagAttribute o.attributeName (range a.span))
  | malformed {a body span e} : tagAttributes o f = [a] → a.value = some (body, span) →
      hasKey body o.keys.command ∨ hasKey body o.keys.param → TagSet.parse body = .error e →
      FieldFault f (.malformedTag e (range span))

/-- Fields that can be read, at most one of which is a command field. -/
def FieldsFine (fields : List Field) : Prop :=
  (∀ f ∈ fields, FieldFine o f) ∧ fields.countP (isCommandField o) ≤ 1

/-- What is wrong with a field after others that are fine: it cannot be read, or is a second command
field. -/
inductive FaultAfter (typeName : String) (before : List Field) (f : Field) : ScanError → Prop
  | unreadable {e} : FieldFault o range f e → FaultAfter typeName before f e
  | second {g a b} : FieldFine o f → isCommandField o f → g ∈ before → isCommandField o g →
      tagAttributes o g = [a] → tagAttributes o f = [b] →
      FaultAfter typeName before f (.duplicateCommandTag typeName (range a.span) (range b.span))

def FieldsFault (typeName : String) (fields : List Field) (e : ScanError) : Prop :=
  ∃ before f after, fields = before ++ f :: after ∧ FieldsFine o before ∧
    FaultAfter o range typeName before f e

def DeclaresParams (fields : List Field) (params : List Param) : Prop :=
  List.Forall₂ (fun f p => ∃ tags, HasTags o f tags ∧ p = paramOfTags tags o.keys)
    (fields.filter (isParamField o)) params

/-- The command that a structure declares: it is that of a command field, and has the parameters of
the other fields with marks. -/
def Declares (decl : StructDecl) (c : Command) : Prop :=
  ∃ f ∈ decl.fields, ∃ tags params, isCommandField o f ∧ HasTags o f tags ∧
    DeclaresParams o decl.fields params ∧ c = (commandOfTags tags o.keys).withParams params

end

variable {o : ScanOptions} {range : Span → ByteRange} {f : Field} {tags : TagSet} {e : ScanError}
  {typeName : String} {before fields : List Field} {d : Draft}

theorem HasTags.hasMarker_eq (h : HasTags o f tags) (key : String) :
    hasMarker o key f = tags.contains key := by
  obtain ⟨a, body, span, ha, hv, hp⟩ := h
  simp [hasMarker, ha, hv, TagSet.contains_parse hp]

def IsReading (o : ScanOptions) (range : Span → ByteRange) (f : Field) :
    Except ScanError (Option (TagSet × Span)) → Prop
  | .error e => FieldFault o range f e
  | .ok none => FieldFine o f ∧ isCommandField o f = false ∧ isParamField o f = false
  | .ok (some (tags, span)) =>
    FieldFine o f ∧ HasTags o f tags ∧ (∃ a, tagAttributes o f = [a] ∧ span = a.span) ∧
      (isCommandField o f = true ∨ isParamField o f = true)

theorem isReading_fieldTags? : IsReading o range f (fieldTags? o range f) := by
  unfold fieldTags?
  split
  · rename_i h
    have h : tagAttributes o f = [] := h
    exact ⟨⟨by simp [h], by simp [h], by simp [h]⟩, by simp [isCommandField, hasMarker, h],
      by simp [isParamField, hasMarker, h]⟩
  · rename_i a h
    have h : tagAttributes o f = [a] := h
    split
    · rename_i hv
      exact .noLiteral h hv
    · rename_i body literal hv
      have hmark (key : String) : hasMarker o key f = hasKey body key := by simp [hasMarker, h, hv]
      split
      · rename_i hm
        have hkeys : hasKey body o.keys.command ∨ hasKey body o.keys.param := by
          simpa [ScanOptions.isMarked] using hm
        split
        · rename_i tags hp
          refine ⟨⟨by simp [h], by simp [h, hv], by simp [h, hv, hp]⟩, ⟨a, body, literal, h, hv, hp⟩,
            ⟨a, h, rfl⟩, ?_⟩
          rw [isParamField, isCommandField, hmark, hmark]
          cases hc : hasKey body o.keys.command <;> simp_all
        · rename_i e hp
          exact .malformed h hv hkeys hp
      · rename_i hm
        have hkeys : hasKey body o.keys.command = false ∧ hasKey body o.keys.param = false := by
          simpa [ScanOptions.isMarked] using hm
        exact ⟨⟨by simp [h], by simp [h, hv], by simp [h, hv, hkeys]⟩,
          by simp [isCommandField, hmark, hkeys], by simp [isParamField, hmark, hkeys]⟩
  · rename_i first second rest h
    exact .twice h

/-- What a draft holds after some fields: the command of the command field among them and the
parameters. -/
structure IsDraftOf (o : ScanOptions) (fields : List Field) (d : Draft) : Prop where
  fine : ∀ f ∈ fields, FieldFine o f
  params : DeclaresParams o fields d.params
  command : match d.command with
    | none => fields.filter (isCommandField o) = []
    | some (c, span) => ∃ f tags a, fields.filter (isCommandField o) = [f] ∧ HasTags o f tags ∧
        tagAttributes o f = [a] ∧ span = a.span ∧ c = commandOfTags tags o.keys

def IsDrafting (o : ScanOptions) (range : Span → ByteRange)
    (typeName : String) (fields : List Field) :
    Except ScanError Draft → Prop
  | .error e => FieldsFault o range typeName fields e
  | .ok d => IsDraftOf o fields d

theorem isDraftOf_nil : IsDraftOf o [] {} := ⟨by simp, .nil, rfl⟩

theorem IsDraftOf.fieldsFine (h : IsDraftOf o fields d) : FieldsFine o fields := by
  refine ⟨h.fine, ?_⟩
  rw [List.countP_eq_length_filter]
  have hc := h.command
  split at hc
  · simp [hc]
  · obtain ⟨f, tags, a, hf, -⟩ := hc
    simp [hf]

theorem isParamField_of_command (h : isCommandField o f = true) : isParamField o f = false := by
  simp [isParamField, h]

theorem IsDraftOf.skip (h : IsDraftOf o before d) (hf : FieldFine o f)
    (hcommand : isCommandField o f = false) (hparam : isParamField o f = false) :
    IsDraftOf o (before ++ [f]) d where
  fine := by simpa [or_imp, forall_and] using ⟨h.fine, hf⟩
  params := by simpa [DeclaresParams, hparam] using h.params
  command := by simpa [hcommand] using h.command

theorem IsDraftOf.addParam (h : IsDraftOf o before d) (hf : FieldFine o f)
    (hcommand : isCommandField o f = false) (hparam : isParamField o f = true) (ht : HasTags o f tags) :
    IsDraftOf o (before ++ [f]) { d with params := d.params ++ [paramOfTags tags o.keys] } where
  fine := by simpa [or_imp, forall_and] using ⟨h.fine, hf⟩
  params := by
    rw [DeclaresParams, List.filter_append, List.filter_cons_of_pos hparam]
    exact List.rel_append h.params (.cons ⟨tags, ht, rfl⟩ .nil)
  command := by simpa [hcommand] using h.command

theorem IsDraftOf.setCommand (h : IsDraftOf o before d) (hf : FieldFine o f)
    (hnone : d.command = none) (hcommand : isCommandField o f = true)
    (ht : HasTags o f tags) {a : Attribute} (ha : tagAttributes o f = [a]) :
    IsDraftOf o (before ++ [f]) { d with command := some (commandOfTags tags o.keys, a.span) } where
  fine := by simpa [or_imp, forall_and] using ⟨h.fine, hf⟩
  params := by simpa [DeclaresParams, isParamField_of_command hcommand] using h.params
  command := by
    have hbefore := h.command
    rw [hnone] at hbefore
    exact ⟨f, tags, a, by simp [hbefore, hcommand], ht, ha, rfl, rfl⟩

/-- Where a draft has a command, there is a command field among the fields before. -/
theorem IsDraftOf.exists_command (h : IsDraftOf o before d) {c : Command} {span : Span}
    (hsome : d.command = some (c, span)) :
    ∃ g ∈ before, isCommandField o g = true ∧ ∃ a, tagAttributes o g = [a] ∧ span = a.span := by
  have hbefore := h.command
  rw [hsome] at hbefore
  obtain ⟨g, -, a, hg, -, ha, hspan, -⟩ := hbefore
  have hmem : g ∈ before.filter (isCommandField o) := by simp [hg]
  exact ⟨g, (List.mem_filter.mp hmem).1, (List.mem_filter.mp hmem).2, a, ha, hspan⟩

theorem isDrafting_addField (h : IsDraftOf o before d) :
    IsDrafting o range typeName (before ++ [f]) (d.addField o range typeName f) := by
  have hread : IsReading o range f (fieldTags? o range f) := isReading_fieldTags?
  unfold Draft.addField
  cases hr : fieldTags? o range f with
  | error e =>
    rw [hr] at hread
    exact ⟨before, f, [], rfl, h.fieldsFine, .unreadable hread⟩
  | ok r =>
    rw [hr] at hread
    cases r with
    | none =>
      obtain ⟨hfine, hcommand, hparam⟩ := hread
      exact h.skip hfine hcommand hparam
    | some r =>
      obtain ⟨tags, span⟩ := r
      obtain ⟨hfine, htags, ⟨a, ha, rfl⟩, hmarked⟩ := hread
      have hcontains : tags.contains o.keys.command = isCommandField o f :=
        (htags.hasMarker_eq _).symm
      simp only [bind, Except.bind, hcontains]
      cases hcommand : isCommandField o f with
      | true =>
        rw [if_pos rfl]
        cases hd : d.command with
        | none => exact h.setCommand hfine hd hcommand htags ha
        | some first =>
          obtain ⟨c, span⟩ := first
          obtain ⟨g, hg, hgc, b, hb, rfl⟩ := h.exists_command hd
          exact ⟨before, f, [], rfl, h.fieldsFine, .second hfine hcommand hg hgc hb ha⟩
      | false =>
        have hparam : isParamField o f = true := by simpa [hcommand] using hmarked
        have hkey : tags.contains o.keys.param = true := by
          rw [← htags.hasMarker_eq]
          simpa [isParamField, hcommand] using hparam
        rw [if_neg Bool.false_ne_true, if_pos hkey]
        exact h.addParam hfine hcommand hparam htags

theorem FieldsFault.append (h : FieldsFault o range typeName before e) (after : List Field) :
    FieldsFault o range typeName (before ++ after) e := by
  obtain ⟨fine, f, rest, rfl, hfine, hfault⟩ := h
  exact ⟨fine, f, rest ++ after, by simp, hfine, hfault⟩

theorem isDrafting_foldlM (h : IsDraftOf o before d) :
    IsDrafting o range typeName (before ++ fields)
      (fields.foldlM (Draft.addField o range typeName) d) := by
  induction fields generalizing before d with
  | nil =>
    rw [List.append_nil]
    exact h
  | cons f rest ih =>
    have hstep : IsDrafting o range typeName (before ++ [f]) (d.addField o range typeName f) :=
      isDrafting_addField h
    rw [List.foldlM_cons, List.append_cons]
    cases hr : d.addField o range typeName f with
    | error e =>
      rw [hr] at hstep
      exact hstep.append rest
    | ok next =>
      rw [hr] at hstep
      exact ih hstep

theorem not_fieldsFine (h : FieldsFault o range typeName fields e) : ¬ FieldsFine o fields := by
  obtain ⟨before, f, after, rfl, -, hfault⟩ := h
  rintro ⟨hfine, hcount⟩
  cases hfault with
  | unreadable hf =>
    have hf' := hfine f (by simp)
    cases hf with
    | twice ha => simpa [ha] using hf'.once
    | noLiteral ha hv => simpa [ha, hv] using hf'.literal
    | malformed ha hv hkeys hp =>
      obtain ⟨tags, ht⟩ := hf'.parses _ (by simp [ha]) _ _ hv hkeys
      rw [hp] at ht
      cases ht
  | second _ hcommand hg hgc =>
    have hbefore : 0 < before.countP (isCommandField o) := List.countP_pos_iff.mpr ⟨_, hg, hgc⟩
    rw [List.countP_append, List.countP_cons_of_pos hcommand] at hcount
    omega

def isCommandStruct (o : ScanOptions) (decl : StructDecl) : Bool :=
  decl.fields.any (isCommandField o)

def IsDeclaration (o : ScanOptions) (range : Span → ByteRange) (decl : StructDecl) :
    Except ScanError (Option Command) → Prop
  | .error e => FieldsFault o range decl.name decl.fields e
  | .ok none => FieldsFine o decl.fields ∧ isCommandStruct o decl = false
  | .ok (some c) => FieldsFine o decl.fields ∧ isCommandStruct o decl = true ∧ Declares o decl c

theorem isDeclaration_finish {decl : StructDecl} (h : IsDraftOf o decl.fields d) :
    IsDeclaration o range decl (.ok d.finish) := by
  have hcommand := h.command
  rw [Draft.finish]
  cases hd : d.command with
  | none =>
    rw [hd] at hcommand
    exact ⟨h.fieldsFine, by simpa [isCommandStruct] using hcommand⟩
  | some first =>
    obtain ⟨c, span⟩ := first
    rw [hd] at hcommand
    obtain ⟨f, tags, a, hf, htags, -, -, rfl⟩ := hcommand
    have hmem : f ∈ decl.fields.filter (isCommandField o) := by simp [hf]
    obtain ⟨hmem, hcommand⟩ := List.mem_filter.mp hmem
    exact ⟨h.fieldsFine, List.any_eq_true.mpr ⟨f, hmem, hcommand⟩,
      f, hmem, tags, d.params, hcommand, htags, h.params, rfl⟩

theorem isDeclaration_declaredCommand? (decl : StructDecl) :
    IsDeclaration o range decl (declaredCommand? o range decl) := by
  have hloop : IsDrafting o range decl.name decl.fields
      (decl.fields.foldlM (Draft.addField o range decl.name) {}) := isDrafting_foldlM isDraftOf_nil
  unfold declaredCommand?
  cases hr : decl.fields.foldlM (Draft.addField o range decl.name) {} with
  | error e =>
    rw [hr] at hloop
    exact hloop
  | ok d =>
    rw [hr] at hloop
    exact isDeclaration_finish hloop

end CommandGen
