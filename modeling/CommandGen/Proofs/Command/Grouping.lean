import CommandGen.Proofs.Check.Acceptance
import CommandGen.Proofs.Command.Index
import CommandGen.Proofs.Text.Order

/-! Grouping by action is exact: the index has just the actions of the commands, and under each of
them every entity as often as commands have it. -/
namespace CommandGen

open Text

variable {commands others : List Command} {action entity : String} {set other : CommandSet}

theorem count_entitiesOf : (entitiesOf action commands).count entity =
    commands.countP fun c => c.action = action ∧ c.entity = entity := by
  rw [entitiesOf, List.count_eq_countP, List.countP_map, List.countP_filter]
  refine List.countP_congr fun c _ => ?_
  simp [and_comm]

theorem entitiesOf_eq_nil_iff :
    entitiesOf action commands = [] ↔ ∀ c ∈ commands, c.action ≠ action := by
  simp [entitiesOf]

theorem entitiesOf_perm (h : commands.Perm others) :
    (entitiesOf action commands).Perm (entitiesOf action others) :=
  (h.filter _).map _

/-- Of commands with different identifiers, those of one action have different entities. -/
theorem nodup_entitiesOf (h : (commands.map (·.identifier)).Nodup) :
    (entitiesOf action commands).Nodup := by
  have hidentifiers : (entitiesOf action commands).map (action ++ ·) =
      (commands.filter (·.action = action)).map (·.identifier) := by
    rw [entitiesOf, List.map_map]
    refine List.map_congr_left fun c hc => ?_
    have hc : c.action = action := by simpa using (List.mem_filter.mp hc).2
    simp [Command.identifier, hc]
  have hnodup : ((entitiesOf action commands).map (action ++ ·)).Nodup :=
    hidentifiers ▸ h.sublist (List.filter_sublist.map _)
  exact hnodup.of_map

namespace ActionIndex

theorem get?_ofCommands_eq_some_iff {entities : List String} :
    (ofCommands set).get? action = some entities ↔
    entitiesOf action set.values ≠ [] ∧
      sortBy (fun e => e) (entitiesOf action set.values) = entities := by
  rw [get?_ofCommands]
  split_ifs with h <;> simp [h, sortBy]

theorem mem_keys_ofCommands :
    action ∈ (ofCommands set).keys ↔ ∃ c ∈ set.values, c.action = action := by
  rw [NameMap.mem_keys_iff]
  simp only [get?_ofCommands_eq_some_iff, exists_and_left, exists_eq', and_true]
  simp [entitiesOf_eq_nil_iff]

theorem ofCommands_eq_of_perm (h : other.values.Perm set.values) :
    ofCommands other = ofCommands set := by
  refine NameMap.ext_of_get? fun action => ?_
  have hperm : (entitiesOf action other.values).Perm (entitiesOf action set.values) :=
    entitiesOf_perm h
  have hsorted : sortBy (fun e => e) (entitiesOf action other.values) =
      sortBy (fun e => e) (entitiesOf action set.values) :=
    sortBy_eq_of_perm _ hperm fun _ _ _ _ he => he
  simp only [sortBy] at hsorted
  have hnil : entitiesOf action other.values = [] ↔ entitiesOf action set.values = [] :=
    ⟨fun h => (h ▸ hperm).symm.eq_nil, fun h => (h ▸ hperm).eq_nil⟩
  simp only [get?_ofCommands, hnil, hsorted]

/-- The index of a set: its actions in increasing order, which are those of the commands, each with
entities in order, every one as often as commands have it under that action. It is the same for the
same commands under any other type names, and where commands are told apart by their identifiers, no
entity stands twice. -/
theorem ofCommands_exact (set : CommandSet) :
    (ofCommands set).keys.Pairwise (· < ·) ∧
    (∀ action, action ∈ (ofCommands set).keys ↔ ∃ c ∈ set.values, c.action = action) ∧
    (∀ action entities, (ofCommands set).get? action = some entities →
      entities ≠ [] ∧ entities.Pairwise (· ≤ ·)) ∧
    (∀ action entity, (((ofCommands set).get? action).getD []).count entity =
      set.values.countP fun c => c.action = action ∧ c.entity = entity) ∧
    (∀ other : CommandSet, other.values.Perm set.values → ofCommands other = ofCommands set) ∧
    (Lint.duplicateIdentifier.check set = [] → ∀ action entities,
      (ofCommands set).get? action = some entities → entities.Pairwise (· < ·)) := by
  refine ⟨List.pairwise_map.mpr (ofCommands set).inKeyOrder, fun _ => mem_keys_ofCommands, ?_, ?_,
    fun _ => ofCommands_eq_of_perm, ?_⟩
  · intro action entities h
    obtain ⟨hne, rfl⟩ := get?_ofCommands_eq_some_iff.mp h
    exact ⟨fun hnil => hne (hnil ▸ sortBy_perm _ _).symm.eq_nil, pairwise_sortBy _ _⟩
  · intro action entity
    rw [← count_entitiesOf, get?_ofCommands]
    split_ifs with h
    · simp [h]
    · exact (sortBy_perm (fun e => e) _).count_eq entity
  · intro hlint action entities h
    obtain ⟨-, rfl⟩ := get?_ofCommands_eq_some_iff.mp h
    have hidentifiers : (set.values.map (·.identifier)).Nodup :=
      List.pairwise_map.mpr (Lint.duplicateIdentifier_eq_nil_iff.mp hlint)
    have hnodup := (sortBy_perm (fun e => e) (entitiesOf action set.values)).nodup_iff.mpr
      (nodup_entitiesOf hidentifiers)
    exact ((pairwise_sortBy _ _).and hnodup).imp fun ⟨hle, hne⟩ => lt_of_le_of_ne hle hne

/-- Two types of one action, the first of which has the later entity. -/
theorem ofCommands_exact_shared_action :
    let set : CommandSet := .ofList
      [("Alpha", { action := "create", entity := "vpc", api := "ec2" }),
       ("Beta", { action := "attach", entity := "disk", api := "ec2" }),
       ("Gamma", { action := "create", entity := "bucket", api := "s3" })]
    Lint.duplicateIdentifier.check set = [] ∧
      ∃ entities, (ofCommands set).get? "create" = some entities ∧
      entities.Pairwise (· < ·) ∧ entities.count "vpc" = 1 ∧ entities.count "disk" = 0 := by
  intro set
  have hlint : Lint.duplicateIdentifier.check set = [] := by decide
  obtain ⟨-, hactions, -, hcount, -, hincreasing⟩ := ofCommands_exact set
  obtain ⟨entities, hentities⟩ := NameMap.mem_keys_iff.mp ((hactions "create").mpr (by decide))
  have hvpc := hcount "create" "vpc"
  have hdisk := hcount "create" "disk"
  rw [hentities, Option.getD_some] at hvpc hdisk
  exact ⟨hlint, entities, hentities, hincreasing hlint _ _ hentities, hvpc.trans (by decide),
    hdisk.trans (by decide)⟩

end ActionIndex

end CommandGen
