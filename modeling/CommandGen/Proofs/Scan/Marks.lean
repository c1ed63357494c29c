import CommandGen.Proofs.Scan.Declaration
import CommandGen.Proofs.Tag.Grammar

/-! The marks of fields. Before the tags of a field are read, only their keys are looked at; what
comes of the field is what would come of it if the tags were read in any case, but for tags that
cannot be read and have no mark. -/
namespace CommandGen

open Source

variable {o : ScanOptions} {range : Span → ByteRange}
  {body key typeName : String} {tokens : List String} {tags : TagSet} {f : Field} {a : Attribute}
  {literal : Span} {d : Draft}

theorem hasKey_iff (h : IsCutInto body tokens) :
    hasKey body key = true ↔ ∃ t ∈ tokens, ∃ value, IsTag t key value := by
  simp only [hasKey, tagTokens_eq h, List.any_eq_true, List.mem_filterMap, beq_iff_eq, Prod.exists]
  constructor
  · rintro ⟨_, raw, ⟨t, ht, hcut⟩, rfl⟩
    exact ⟨t, ht, _, tagToken_eq_some_iff.mp hcut⟩
  · rintro ⟨t, ht, value, htag⟩
    refine ⟨key, value.toList, ⟨t, ht, tagToken_eq_some_iff.mpr ?_⟩, rfl⟩
    rwa [String.ofList_toList]

/-- Tokens among which is one with the command key or the parameter key. -/
def HaveMark (o : ScanOptions) (tokens : List String) : Prop :=
  ∃ t ∈ tokens, ∃ value, IsTag t o.keys.command value ∨ IsTag t o.keys.param value

theorem isMarked_iff (h : IsCutInto body tokens) : o.isMarked body = true ↔ HaveMark o tokens := by
  rw [ScanOptions.isMarked, Bool.or_eq_true, hasKey_iff h, hasKey_iff h, HaveMark]
  simp only [exists_or, and_or_left]

theorem exists_parse_of_isReadable (h : IsCutInto body tokens) (hall : ∀ t ∈ tokens, IsReadable t) :
    ∃ tags, TagSet.parse body = .ok tags := by
  have hparse := isParse_parse h
  cases hr : TagSet.parse body with
  | ok tags => exact ⟨tags, rfl⟩
  | error e =>
    rw [hr] at hparse
    obtain ⟨t, ht, hnot⟩ := FirstFault.exists_not_isReadable hparse
    exact absurd (hall t ht) hnot

theorem exists_fault_of_not_isReadable (h : IsCutInto body tokens)
    (hsome : ∃ t ∈ tokens, ¬ IsReadable t) :
    ∃ e, TagSet.parse body = .error e ∧ FirstFault tokens e := by
  have hparse := isParse_parse h
  cases hr : TagSet.parse body with
  | error e =>
    rw [hr] at hparse
    exact ⟨e, rfl, hparse⟩
  | ok tags =>
    rw [hr] at hparse
    obtain ⟨t, ht, hnot⟩ := hsome
    exact absurd (hparse.1 t ht) hnot

/-- What a field with the given tags adds to what the fields before it declare: its command if the
command key is among the tags, or else its parameter if the parameter key is, or else nothing. -/
def Draft.addTags (o : ScanOptions) (range : Span → ByteRange) (typeName : String)
    (d : Draft) (tags : TagSet) (span : Span) : Except ScanError Draft :=
  if tags.contains o.keys.command then
    match d.command with
    | some (_, first) => .error (.duplicateCommandTag typeName (range first) (range span))
    | none => .ok { d with command := some (commandOfTags tags o.keys, span) }
  else if tags.contains o.keys.param then .ok { d with params := d.params ++ [paramOfTags tags o.keys] }
  else .ok d

theorem addField_eq : d.addField o range typeName f =
    match fieldTags? o range f with
    | .ok (some (tags, span)) => d.addTags o range typeName tags span
    | .ok none => .ok d
    | .error e => .error e := by
  unfold Draft.addField
  cases fieldTags? o range f with
  | error e => rfl
  | ok tags? => cases tags? <;> rfl

theorem fieldTags?_single (ha : tagAttributes o f = [a]) (hv : a.value = some (body, literal)) :
    fieldTags? o range f =
      if o.isMarked body then
        match TagSet.parse body with
        | .ok tags => .ok (some (tags, a.span))
        | .error e => .error (.malformedTag e (range literal))
      else .ok none := by
  have hfilter : f.attributes.filter (·.name = some o.attributeName) = [a] := ha
  cases hm : o.isMarked body with
  | false => simp [fieldTags?, hfilter, hv, hm]
  | true => cases hp : TagSet.parse body <;> simp [fieldTags?, hfilter, hv, hm, hp]

theorem addTags_of_not_isMarked (h : TagSet.parse body = .ok tags)
    (hmark : o.isMarked body = false) {span : Span} :
    d.addTags o range typeName tags span = .ok d := by
  obtain ⟨hcommand, hparam⟩ := Bool.or_eq_false_iff.mp hmark
  rw [← TagSet.contains_parse h] at hcommand hparam
  simp [Draft.addTags, hcommand, hparam]

/-- The keys that are seen are those of the tags where these can be read. A field with one literal
for its tags adds what its tags say if they can be read, nothing if they cannot and have no mark,
and is at fault if they cannot and have one. -/
theorem addField_of_tokens (o : ScanOptions) (range : Span → ByteRange) (body : String) :
    ∃ tokens, IsCutInto body tokens ∧
      (∀ key, hasKey body key = true ↔ ∃ t ∈ tokens, ∃ value, IsTag t key value) ∧
      (∀ tags, TagSet.parse body = .ok tags → ∀ key, hasKey body key = true ↔ tags.contains key = true) ∧
      ∀ f a literal, tagAttributes o f = [a] → a.value = some (body, literal) →
        ((∀ t ∈ tokens, IsReadable t) → ∃ tags, TagSet.parse body = .ok tags ∧
          ∀ typeName d, Draft.addField o range typeName d f = d.addTags o range typeName tags a.span) ∧
        ((∃ t ∈ tokens, ¬ IsReadable t) → ¬ HaveMark o tokens → fieldTags? o range f = .ok none ∧
          ∀ typeName d, Draft.addField o range typeName d f = .ok d) ∧
        ((∃ t ∈ tokens, ¬ IsReadable t) → HaveMark o tokens → ∃ e, FirstFault tokens e ∧
          fieldTags? o range f = .error (.malformedTag e (range literal)) ∧
          ∀ typeName d, Draft.addField o range typeName d f =
            .error (.malformedTag e (range literal))) := by
  have hcut : IsCutInto body (spacedTokens body) := isCutInto_iff.mpr rfl
  refine ⟨_, hcut, fun key => hasKey_iff hcut, fun tags h key => by rw [TagSet.contains_parse h], ?_⟩
  intro f a literal ha hv
  have htags : fieldTags? o range f = _ := fieldTags?_single ha hv
  refine ⟨fun hall => ?_, fun _ hmark => ?_, fun hsome hmark => ?_⟩
  · obtain ⟨tags, hparse⟩ := exists_parse_of_isReadable hcut hall
    refine ⟨tags, hparse, fun typeName d => ?_⟩
    cases hm : o.isMarked body with
    | true => simp only [addField_eq, htags, hm, hparse, if_true]
    | false => simp only [addField_eq, htags, hm, Bool.false_eq_true, if_false,
      addTags_of_not_isMarked hparse hm]
  · have hnone : fieldTags? o range f = .ok none := by
      rw [htags, if_neg (mt (isMarked_iff hcut).mp hmark)]
    exact ⟨hnone, fun typeName d => by rw [addField_eq, hnone]⟩
  · obtain ⟨e, hparse, hfault⟩ := exists_fault_of_not_isReadable hcut hsome
    have herror : fieldTags? o range f = .error (.malformedTag e (range literal)) := by
      rw [htags, if_pos ((isMarked_iff hcut).mpr hmark), hparse]
    exact ⟨e, hfault, herror, fun typeName d => by rw [addField_eq, herror]⟩

/-- A token that cannot be read, in front of a mark and without one, and a mark among tokens that
can be read. -/
theorem addField_of_tokens_before_mark :
    let field (body : String) : Field := ⟨[⟨some "tag", some (body, ⟨6, 9⟩), ⟨0, 10⟩⟩]⟩
    let range (s : Span) : ByteRange := ⟨s.start, s.stop - s.start⟩
    (∃ e, FirstFault ["note:a", "param:\"x\""] e ∧
      fieldTags? {} range (field "note:a param:\"x\"") = .error (.malformedTag e ⟨6, 3⟩)) ∧
    fieldTags? {} range (field "note:a otherparam:\"x\"") = .ok none ∧
    ∀ typeName d, Draft.addField {} range typeName d (field "flag param:\"x\"") =
      .ok { d with params := d.params ++ [{ name := "x" }] } := by
  intro field range
  have hfault {tokens : List String} (h : "note:a" ∈ tokens) : ∃ t ∈ tokens, ¬ IsReadable t := by
    refine ⟨_, h, fun hreadable => ?_⟩
    have hquoted := hreadable "note" "a" ⟨by decide, by decide⟩
    exact absurd hquoted.two (by decide)
  obtain ⟨marked, hmarked, -, -, hfield⟩ := addField_of_tokens {} range "note:a param:\"x\""
  obtain ⟨plain, hplain, -, -, hfield'⟩ := addField_of_tokens {} range "note:a otherparam:\"x\""
  obtain ⟨readable, hreadable, -, -, hfield''⟩ := addField_of_tokens {} range "flag param:\"x\""
  obtain rfl : ["note:a", "param:\"x\""] = marked := by
    rw [isCutInto_iff.mp hmarked]
    decide
  obtain ⟨-, -, herror⟩ := hfield (field _) _ _ rfl rfl
  obtain ⟨-, hnone, -⟩ := hfield' (field _) _ _ rfl rfl
  obtain ⟨htags, -, -⟩ := hfield'' (field _) _ _ rfl rfl
  refine ⟨?_, ?_, ?_⟩
  · obtain ⟨e, hfirst, herror, -⟩ :=
      herror (hfault (by simp)) ((isMarked_iff hmarked).mp (by decide))
    exact ⟨e, hfirst, herror⟩
  · refine (hnone (hfault ?_) (mt (isMarked_iff hplain).mpr (by decide))).1
    rw [isCutInto_iff.mp hplain]
    decide
  · have hall : ∀ t ∈ readable, IsReadable t := by
      rw [isCutInto_iff.mp hreadable,
        show spacedTokens "flag param:\"x\"" = ["flag", "param:\"x\""] by decide]
      have hparam : IsTag "param:\"x\"" "param" "\"x\"" := ⟨by decide, by decide⟩
      simp only [List.mem_cons, List.not_mem_nil, or_false, forall_eq_or_imp, forall_eq]
      exact ⟨isReadable_of_not_hasColon (by decide), hparam.isReadable_iff.mpr (isQuoted_wrap "x")⟩
    obtain ⟨tags, hparse, hadd⟩ := htags hall
    obtain rfl : (⟨[("param", "x")], by decide⟩ : TagSet) = tags :=
      Except.ok.inj (Eq.trans rfl hparse)
    exact fun typeName d => (hadd typeName d).trans rfl

end CommandGen
