import CommandGen.Proofs.Tag.Written
import CommandGen.Tag.Metadata

/-! A command that is written as an annotation is declared by it. -/
namespace CommandGen

def Vocabulary.commandKeys (v : Vocabulary) : List String :=
  [v.api, v.action, v.entity, v.call, v.input, v.output, v.dryRun]

/-- Keys that tell the roles of a command apart, and do not break a token. -/
structure Vocabulary.IsApart (v : Vocabulary) : Prop where
  nodup : v.commandKeys.Nodup
  plain : ∀ key ∈ v.commandKeys, IsPlainKey key

attribute [ext] Command

namespace Command

def texts (c : Command) : List String :=
  [c.api, c.action, c.entity] ++ c.call.toList ++ c.input.toList ++ c.output.toList

/-- A command that an annotation can declare. -/
structure IsWritable (c : Command) : Prop where
  params : c.params = []
  noSpace : ∀ text ∈ c.texts, ' ' ∉ text.toList
  call : c.call ≠ some ""
  input : c.input ≠ some ""
  output : c.output ≠ some ""
  dryRun : c.genDryRun = true → c.hasDryRun = true

def dryRunText (c : Command) : Option String :=
  match c.dryRunMode with
  | .unsupported => none
  | .generated => some ""
  | .manual => some "manual"

def roles (c : Command) (v : Vocabulary) : List (String × Option String) :=
  [(v.api, some c.api), (v.action, some c.action), (v.entity, some c.entity), (v.call, c.call),
   (v.input, c.input), (v.output, c.output), (v.dryRun, c.dryRunText)]

/-- The pairs of an annotation that declares the command. -/
def pairs (c : Command) (v : Vocabulary) : List (String × String) :=
  (c.roles v).filterMap fun r => r.2.map (r.1, ·)

end Command

variable {roles : List (String × Option String)} {key : String}
  {value : Option String} {v : Vocabulary} {c : Command}
  {pairs others : List (String × String)} {tags : TagSet}

theorem keys_present_sublist (roles : List (String × Option String)) :
    ((roles.filterMap fun r => r.2.map (r.1, ·)).map (·.1)).Sublist (roles.map (·.1)) := by
  induction roles with
  | nil => simp
  | cons r rest ih =>
    obtain ⟨key, value⟩ := r
    cases value with
    | none => simpa using ih.cons key
    | some text => simpa using ih.cons_cons key

theorem mem_present {text : String} :
    (key, text) ∈ (roles.filterMap fun r => r.2.map (r.1, ·)) ↔ (key, some text) ∈ roles := by
  rw [List.mem_filterMap]
  constructor
  · rintro ⟨⟨_, said⟩, hsaid, he⟩
    obtain ⟨_, rfl, he⟩ := Option.map_eq_some_iff.mp he
    obtain ⟨rfl, rfl⟩ := Prod.ext_iff.mp he
    exact hsaid
  · exact fun h => ⟨_, h, rfl⟩

/-- Where roles have different keys, what is found under the key of one is what it says. -/
theorem lookup_present (h : (roles.map (·.1)).Nodup) (hr : (key, value) ∈ roles) :
    (roles.filterMap fun r => r.2.map (r.1, ·)).lookup key = value := by
  have hnodup := (keys_present_sublist roles).nodup h
  refine Option.ext fun text => ?_
  rw [lookup_eq_some_iff_mem hnodup, mem_present]
  constructor
  · intro hsaid
    have hfirst := (lookup_eq_some_iff_mem h).mpr hr
    have hsecond := (lookup_eq_some_iff_mem h).mpr hsaid
    exact Option.some.inj (hfirst.symm.trans hsecond)
  · rintro rfl
    exact hr

namespace Command

theorem keys_roles (c : Command) (v : Vocabulary) : (c.roles v).map (·.1) = v.commandKeys := rfl

theorem dryRunText_noSpace {text : String} (h : c.dryRunText = some text) : ' ' ∉ text.toList := by
  unfold dryRunText at h
  split at h
  · cases h
  · obtain rfl := Option.some.inj h
    decide
  · obtain rfl := Option.some.inj h
    decide

theorem mem_texts_of_roles {text : String} (h : (key, some text) ∈ c.roles v) :
    text ∈ c.texts ∨ c.dryRunText = some text := by
  simp only [roles, List.mem_cons, Prod.mk.injEq, List.not_mem_nil,
    or_false, Option.some.injEq] at h
  rcases h with ⟨-, h⟩ | ⟨-, h⟩ | ⟨-, h⟩ | ⟨-, h⟩ | ⟨-, h⟩ | ⟨-, h⟩ | ⟨-, h⟩ <;> simp [texts, ← h]

theorem IsWritable.isPlainPair (hv : v.IsApart) (hc : c.IsWritable) :
    ∀ p ∈ c.pairs v, IsPlainPair p := by
  rintro ⟨key, text⟩ hp
  have hr : (key, some text) ∈ c.roles v := mem_present.mp hp
  refine ⟨hv.plain _ ?_, ?_⟩
  · rw [← keys_roles c v]
    exact List.mem_map.mpr ⟨_, hr, rfl⟩
  · exact (mem_texts_of_roles hr).elim (hc.noSpace _) dryRunText_noSpace

theorem nodup_keys_pairs (hv : v.IsApart) (c : Command) : ((c.pairs v).map (·.1)).Nodup :=
  (keys_present_sublist (c.roles v)).nodup hv.nodup

theorem isSome_dryRunText (c : Command) : c.dryRunText.isSome = c.hasDryRun := by
  unfold dryRunText dryRunMode
  cases c.hasDryRun
  · rfl
  · cases c.genDryRun <;> rfl

end Command

theorem nonEmpty?_eq (h : tags.get? key = value) (hne : value ≠ some "") :
    tags.nonEmpty? key = value := by
  rw [TagSet.nonEmpty?, h]
  cases value with
  | none => rfl
  | some text => simpa using hne

/-- Tags with the pairs of a command say under the key of each role what the command says. -/
theorem get?_of_roles (hv : v.IsApart) (hp : tags.entries.Perm (c.pairs v))
    (hr : (key, value) ∈ c.roles v) :
    tags.get? key = value := by
  have hlookup : (c.pairs v).lookup key = value := lookup_present hv.nodup hr
  rw [← hlookup]
  refine Option.ext fun text => ?_
  rw [TagSet.get?, lookup_eq_some_iff_mem tags.nodup,
    lookup_eq_some_iff_mem (c.nodup_keys_pairs hv)]
  exact hp.mem_iff

/-- A dry run is generated where the value is not the word for one that is written by hand. -/
theorem genDryRun_commandOfTags (hc : c.IsWritable) (h : tags.get? v.dryRun = c.dryRunText) :
    (commandOfTags tags v).genDryRun = c.genDryRun := by
  unfold Command.dryRunText Command.dryRunMode at h
  cases hhas : c.hasDryRun with
  | false =>
    have hgen : c.genDryRun = false := by simpa [hhas] using hc.dryRun
    simp [commandOfTags, h, hhas, hgen]
  | true =>
    cases hgen : c.genDryRun with
    | false => simp [commandOfTags, h, hhas, hgen]
    | true =>
      have hother : asciiLower "" ≠ asciiLower "manual" := by decide
      simp [commandOfTags, h, hhas, hgen, hother]

theorem commandOfTags_eq (hv : v.IsApart) (hc : c.IsWritable) (hp : tags.entries.Perm (c.pairs v)) :
    commandOfTags tags v = c := by
  have hget : ∀ r ∈ c.roles v, tags.get? r.1 = r.2 := fun r hr => get?_of_roles hv hp hr
  simp only [Command.roles, List.forall_mem_cons, List.not_mem_nil, false_implies,
    implies_true, and_true] at hget
  obtain ⟨hapi, haction, hentity, hcall, hinput, houtput, hdryRun⟩ := hget
  apply Command.ext
  case action => simp [commandOfTags, haction]
  case entity => simp [commandOfTags, hentity]
  case api => simp [commandOfTags, hapi]
  case call => exact nonEmpty?_eq hcall hc.call
  case input => exact nonEmpty?_eq hinput hc.input
  case output => exact nonEmpty?_eq houtput hc.output
  case params => exact hc.params.symm
  case hasDryRun => simp [commandOfTags, TagSet.contains, hdryRun, c.isSome_dryRunText]
  case genDryRun => exact genDryRun_commandOfTags hc hdryRun

/-- A command that is written as an annotation, in any order, is read back. -/
theorem commandOfTags_tagBody (hv : v.IsApart) (hc : c.IsWritable) (hp : others.Perm (c.pairs v)) :
    ∃ tags, TagSet.parse (tagBody others) = .ok tags ∧ commandOfTags tags v = c := by
  have hplain : ∀ p ∈ others, IsPlainPair p :=
    fun p hmem => hc.isPlainPair hv p (hp.mem_iff.mp hmem)
  have hnodup : (others.map (·.1)).Nodup := (hp.map _).nodup_iff.mpr (c.nodup_keys_pairs hv)
  have hentries : (TagSet.putAll {} others).entries = others :=
    TagSet.entries_putAll (by simpa using hnodup)
  exact ⟨_, parse_tagBody hplain, commandOfTags_eq hv hc (by rw [hentries]; exact hp)⟩

/-- Values with colons, quotes and a line feed, and one that is empty; the tokens in reverse
order. -/
theorem commandOfTags_tagBody_reversed :
    let v : Vocabulary := {}
    let c : Command := {
      action := "a:b", entity := "\"", api := "", call := some "x\ny", output := some "::o"
      hasDryRun := true, genDryRun := true }
    v.IsApart ∧ c.IsWritable ∧ ∃ tags,
      TagSet.parse ("dryRun:\"\" output:\"::o\" call:\"x\ny\" entity:\"\"\" action:\"a:b\" command:\"\"") = .ok tags ∧
      commandOfTags tags v = c := by
  intro v c
  have hv : v.IsApart := ⟨by decide +kernel, by decide +kernel⟩
  have hc : c.IsWritable := {
    params := rfl
    noSpace := by decide +kernel
    call := by decide
    input := by decide
    output := by decide
    dryRun := fun _ => rfl }
  have hbody : tagBody (c.pairs v).reverse =
      "dryRun:\"\" output:\"::o\" call:\"x\ny\" entity:\"\"\" action:\"a:b\" command:\"\"" := by
    decide +kernel
  exact ⟨hv, hc, hbody ▸ commandOfTags_tagBody hv hc (List.reverse_perm _)⟩

end CommandGen
