import CommandGen.Proofs.Command.Grouping
import CommandGen.Proofs.Output.Tables

/-! The definitions file says nothing about the types that declare the commands: under other type
names the commands come in another order, which the sort by identifier takes away where identifiers
differ. -/
namespace CommandGen

open Text

variable {set : CommandSet} {rename : String → String}

/-- The same commands under other type names. -/
def CommandSet.renamed (set : CommandSet) (rename : String → String) : CommandSet :=
  .ofList (set.entries.map fun (typeName, c) => (rename typeName, c))

theorem CommandSet.values_renamed_perm
    (hinjective : ∀ m ∈ set.keys, ∀ n ∈ set.keys, rename m = rename n → m = n) :
    (set.renamed rename).values.Perm set.values := by
  have hkeys : ((set.entries.map fun (typeName, c) => (rename typeName, c)).map (·.1)).Nodup := by
    have hnodup : (set.keys.map rename).Nodup := set.nodup_keys.map_on hinjective
    simpa [NameMap.keys, Function.comp_def] using hnodup
  have hvalues := (NameMap.perm_ofList hkeys).map (·.2)
  simpa [NameMap.values, CommandSet.renamed, Function.comp_def] using hvalues

/-- Commands with different identifiers are in one order, whatever order they come in. -/
theorem byIdentifier_eq_of_perm {other : CommandSet} (h : (set.values.map (·.identifier)).Nodup)
    (hperm : other.values.Perm set.values) : byIdentifier other = byIdentifier set := by
  refine (sortBy_eq_of_perm Prod.fst (hperm.symm.map fun c => (c.identifier, c)) ?_).symm
  intro a ha b hb hab
  obtain ⟨c, hc, rfl⟩ := List.mem_map.mp ha
  obtain ⟨d, hd, rfl⟩ := List.mem_map.mp hb
  have hcd : c = d := List.inj_on_of_nodup_map h hc hd hab
  rw [hcd]

/-- Of commands with different identifiers the definitions are the same text under any other type
names. -/
theorem definitionsText_renamed (hlint : Lint.duplicateIdentifier.check set = [])
    (hinjective : ∀ m ∈ set.keys, ∀ n ∈ set.keys, rename m = rename n → m = n) :
    definitionsText (set.renamed rename) (ActionIndex.ofCommands (set.renamed rename)) =
      definitionsText set (ActionIndex.ofCommands set) := by
  have hperm := CommandSet.values_renamed_perm hinjective
  have hidentifiers : (set.values.map (·.identifier)).Nodup :=
    List.pairwise_map.mpr (Lint.duplicateIdentifier_eq_nil_iff.mp hlint)
  have hrows := byIdentifier_eq_of_perm hidentifiers hperm
  rw [ActionIndex.ofCommands_eq_of_perm hperm]
  simp only [definitionsText, apiRows, definitionRows, hrows]

/-- Two types that swap their names, and with these their places in the set. -/
theorem definitionsText_renamed_swapped :
    let set : CommandSet := .ofList
      [("Alpha", { action := "read", entity := "thing", api := "ec2" }),
       ("Beta", { action := "create", entity := "thing", api := "s3" })]
    let swap : String → String := fun n => if n = "Alpha" then "Beta" else "Alpha"
    (set.renamed swap).values ≠ set.values ∧
      definitionsText (set.renamed swap) (ActionIndex.ofCommands (set.renamed swap)) =
        definitionsText set (ActionIndex.ofCommands set) := by
  intro set swap
  exact ⟨by decide, definitionsText_renamed (by decide) (by decide)⟩

end CommandGen
