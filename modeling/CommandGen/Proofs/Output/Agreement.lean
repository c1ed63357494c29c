import CommandGen.Proofs.Output.Constructors
import CommandGen.Proofs.Output.Tables

/-! The registry, the tables of definitions and the index of actions go through the commands in
three ways: by type, by identifier and by action. For commands that pass the checks all three say
the same keys in the texts of their files, and the registry builds each type by its own key. -/
namespace CommandGen

variable {set : CommandSet} {s : RunState} {keys : List String}

theorem listed_perm (set : CommandSet) :
    ((actionRows (ActionIndex.ofCommands set)).flatMap fun row => row.2.map (row.1 ++ ·)).Perm
      (set.values.map (·.identifier)) := by
  have hpairs := (ActionIndex.pairs_ofCommands set).map fun pair => pair.1 ++ pair.2
  simpa [ActionIndex.pairs, ActionIndex.pairsOf, actionRows, List.map_flatMap, Function.comp_def,
    Command.identifier] using hpairs

theorem entities_length (set : CommandSet) :
    ((actionRows (ActionIndex.ofCommands set)).flatMap (·.2)).length = set.size := by
  have hlength := ((ActionIndex.pairs_ofCommands set).map (·.2)).length_eq
  simpa [ActionIndex.pairs, ActionIndex.pairsOf, actionRows, List.map_flatMap, Function.comp_def,
    NameMap.values, NameMap.size] using hlength

theorem constructorRows_keys (set : CommandSet) :
    (constructorRows set).map (·.1) = set.values.map (·.identifier) := by
  simp [constructorRows, NameMap.values]

theorem IsTableOf.keys_perm {α : Type} {rows : List (String × α)} {f : Command → α}
    (h : IsTableOf rows (set.values.map fun c => (c.identifier, f c))) :
    (rows.map (·.1)).Perm (set.values.map (·.identifier)) := by
  simpa [Function.comp_def] using h.2.map (·.1)

/-- What a list of keys says that has the identifiers of the commands in some order. -/
theorem keys_of_perm (hdistinct : (set.values.map (·.identifier)).Nodup)
    (hperm : keys.Perm (set.values.map (·.identifier))) :
    keys.Nodup ∧ ∀ k, k ∈ keys ↔ ∃ c ∈ set.values, c.action ++ c.entity = k := by
  refine ⟨hperm.nodup_iff.mpr hdistinct, fun k => ?_⟩
  rw [hperm.mem_iff, List.mem_map]
  rfl

/-- The registry collects its rows into a map. It builds a type by the identifier of its command,
and by no other key. -/
theorem get?_constructors
    (hdistinct : (set.values.map (·.identifier)).Nodup) {k typeName : String} :
    (NameMap.ofList (constructorRows set)).get? k = some typeName ↔
      ∃ c, set.get? typeName = some c ∧ c.action ++ c.entity = k := by
  rw [NameMap.get?_ofList_eq_some_iff (constructorRows_keys set ▸ hdistinct)]
  simp [NameMap.get?_eq_some_iff_mem, constructorRows, Command.identifier]

/-- The constructors in the text of the registry and the tables in that of the definitions, for
commands that pass the checks. They have the same keys, which are the identifiers of the commands,
each of them once; so have actions and entities joined over the table of actions, which has as many
entities as there are commands. The constructors collected into a map build every type, each by its
own identifier. They stand in the text line by line, and can be read back from it where the names of
the types are words. -/
theorem keys_agree (h : ({} : Pipeline).run set = .ok s) (settings : Settings) :
    let g := Generator.ofRun s settings
    ∃ (constructors : List (String × String)) (tables : Tables),
      (∃ rest, registryText g.commands = ofLines (registryOpening ++
        constructorsLine :: (constructors.flatMap constructorLines ++ ["];"])) ++ rest) ∧
      ((∀ typeName ∈ set.keys, Source.isWord typeName.toList = true) →
        constructorsOf? (registryText g.commands) = some constructors) ∧
      Tables.ofText? (definitionsText g.commands g.index) = some tables ∧
      (∀ keys ∈ [constructors.map (·.1), tables.apis.map (·.1), tables.definitions.map (·.1),
          tables.actions.flatMap fun row => row.2.map (row.1 ++ ·)],
        keys.Nodup ∧ ∀ k, k ∈ keys ↔ ∃ c ∈ set.values, c.action ++ c.entity = k) ∧
      (tables.actions.flatMap (·.2)).length = set.size ∧
      (∀ k typeName, (NameMap.ofList constructors).get? k = some typeName ↔
        ∃ c, set.get? typeName = some c ∧ c.action ++ c.entity = k) ∧
      ∀ typeName ∈ set.keys, ∃ k, (NameMap.ofList constructors).get? k = some typeName := by
  intro g
  have hdistinct := nodup_identifiers h
  obtain ⟨-, rfl⟩ := Pipeline.run_eq_ok_iff.mp h
  have hcommands : g.commands = set := rfl
  have hindex : g.index = ActionIndex.ofCommands set := rfl
  have hbuilds (k typeName : String) :
      (NameMap.ofList (constructorRows set)).get? k = some typeName ↔
      ∃ c, set.get? typeName = some c ∧ c.action ++ c.entity = k := get?_constructors hdistinct
  have hapi : IsTableOf (apiRows set) _ := isTableOf_byIdentifier (·.api) hdistinct
  have hdefinition : IsTableOf (definitionRows set) _ :=
    isTableOf_byIdentifier (·.definition) hdistinct
  rw [hcommands, hindex]
  refine ⟨constructorRows set,
    ⟨apiRows set, definitionRows set, actionRows (ActionIndex.ofCommands set)⟩,
    exists_registryText set, constructorsOf?_registryText, ofText?_definitionsText set _, ?_,
    entities_length set, hbuilds, fun typeName ht => ?_⟩
  · simp only [List.forall_mem_cons, List.not_mem_nil, false_implies, implies_true, and_true]
    exact ⟨keys_of_perm hdistinct (.of_eq (constructorRows_keys set)),
      keys_of_perm hdistinct hapi.keys_perm,
      keys_of_perm hdistinct hdefinition.keys_perm, keys_of_perm hdistinct (listed_perm set)⟩
  · obtain ⟨⟨_, c⟩, hc, rfl⟩ := List.mem_map.mp ht
    exact ⟨_, (hbuilds _ _).mpr ⟨c, NameMap.get?_eq_some_iff_mem.mpr hc, rfl⟩⟩

/-- Three types of which two share an action, and of which the first has the last identifier. -/
theorem keys_agree_shared_action :
    let set : CommandSet := .ofList
      [("Alpha", { action := "read", entity := "thing", api := "ec2" }),
       ("Beta", { action := "create", entity := "thing", api := "s3" }),
       ("Gamma", { action := "create", entity := "bucket", api := "s3" })]
    ∃ s constructors tables, ({} : Pipeline).run set = .ok s ∧
      constructorsOf? (registryText s.commands) = some constructors ∧
      (NameMap.ofList constructors).get? "creatething" = some "Beta" ∧
      Tables.ofText? (definitionsText s.commands (Generator.ofRun s {}).index) = some tables ∧
      (tables.actions.flatMap (·.2)).length = 3 := by
  intro set
  have hclean : ∀ l ∈ ({} : Pipeline).lints, ∀ d ∈ l.check set, d.isError = false := by
    decide +kernel
  obtain ⟨s, hrun⟩ : ∃ s, ({} : Pipeline).run set = .ok s :=
    ⟨_, Pipeline.run_eq_ok_iff.mpr ⟨hclean, rfl⟩⟩
  obtain ⟨constructors, tables, -, hread, htables, -, hlength, hbuilds, -⟩ := keys_agree hrun {}
  have hwords : ∀ typeName ∈ set.keys, Source.isWord typeName.toList = true := by decide +kernel
  have hbeta : set.get? "Beta" = some { action := "create", entity := "thing", api := "s3" } := by
    decide +kernel
  have hsize : set.size = 3 := by decide +kernel
  exact ⟨s, constructors, tables, hrun, hread hwords, (hbuilds _ _).mpr ⟨_, hbeta, by decide⟩, htables,
    hlength.trans hsize⟩

end CommandGen
