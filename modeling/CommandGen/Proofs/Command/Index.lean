import CommandGen.Command.Index
import CommandGen.Proofs.NameMap
import Mathlib.Data.String.Basic

/-! Which entities the index has for an action, and that it has just the actions and entities of the
commands. -/
namespace CommandGen

open scoped List

/-- The entities of the commands with an action, in the order of the commands. -/
def entitiesOf (action : String) (commands : List Command) : List String :=
  (commands.filter (·.action = action)).map (·.entity)

namespace ActionIndex

variable {commands : List Command} {c : Command} {index : ActionIndex} {action : String}

theorem get?_add : (index.add c).get? action =
    if action = c.action then some ((index.get? action).getD [] ++ [c.entity])
    else index.get? action := by
  unfold add
  rw [NameMap.get?_insert]
  split_ifs with h <;> simp [h]

theorem get?_foldl_add : (commands.foldl add index).get? action =
    if entitiesOf action commands = [] then index.get? action
    else some ((index.get? action).getD [] ++ entitiesOf action commands) := by
  induction commands generalizing index with
  | nil => simp [entitiesOf]
  | cons c rest ih =>
    rw [List.foldl_cons, ih, get?_add]
    by_cases h : c.action = action
    · have hcons : entitiesOf action (c :: rest) = c.entity :: entitiesOf action rest := by
        simp [entitiesOf, h]
      by_cases hr : entitiesOf action rest = [] <;> simp [hcons, h, hr]
    · have hskip : entitiesOf action (c :: rest) = entitiesOf action rest := by simp [entitiesOf, h]
      rw [hskip, if_neg (Ne.symm h)]

/-- An action has all the entities of its commands, in order. One that no command has is not
there. -/
theorem get?_ofCommands (set : CommandSet) : (ofCommands set).get? action =
    if entitiesOf action set.values = [] then none
    else some ((entitiesOf action set.values).mergeSort fun a b => decide (a ≤ b)) := by
  rw [ofCommands, NameMap.get?_mapValues, get?_foldl_add]
  split_ifs <;> simp

def pairsOf (groups : List (String × List String)) : List (String × String) :=
  groups.flatMap fun (action, entities) => entities.map (action, ·)

/-- Each action with each of its entities. -/
def pairs (index : ActionIndex) : List (String × String) := pairsOf index.entries

theorem pairs_add : (index.add c).pairs.Perm ((c.action, c.entity) :: index.pairs) := by
  obtain ⟨others, hbefore, hafter⟩ :=
    index.exists_perm_insert c.action ((index.get? c.action).getD [] ++ [c.entity])
  let ofAction (entities : List String) : List (String × String) := entities.map (c.action, ·)
  have hold : index.pairs.Perm (ofAction ((index.get? c.action).getD []) ++ pairsOf others) := by
    refine (hbefore.flatMap_right _).trans ?_
    rw [List.flatMap_append]
    cases index.get? c.action <;> simp [pairsOf, ofAction]
  calc (index.add c).pairs
    _ ~ ofAction ((index.get? c.action).getD [] ++ [c.entity]) ++ pairsOf others :=
  hafter.flatMap_right _
    _ ~ (c.action, c.entity) :: (ofAction ((index.get? c.action).getD []) ++ pairsOf others) := by
      simp only [ofAction, List.map_append, List.append_assoc]
      exact List.perm_middle
    _ ~ (c.action, c.entity) :: index.pairs := hold.symm.cons _

theorem pairs_foldl_add :
    (commands.foldl add index).pairs.Perm
      (commands.map (fun c => (c.action, c.entity)) ++ index.pairs) := by
  induction commands generalizing index with
  | nil => exact .refl _
  | cons c rest ih =>
    calc (rest.foldl add (index.add c)).pairs
      _ ~ rest.map (fun c => (c.action, c.entity)) ++ (index.add c).pairs := ih
      _ ~ rest.map (fun c => (c.action, c.entity)) ++ (c.action, c.entity) :: index.pairs :=
        pairs_add.append_left _
      _ ~ _ := List.perm_middle

/-- Grouping neither loses nor merges anything: the index has the action and entity of each command,
as often as commands have them. -/
theorem pairs_ofCommands (set : CommandSet) :
    (ofCommands set).pairs.Perm (set.values.map fun c => (c.action, c.entity)) := by
  have hgroups : (set.values.foldl add NameMap.empty).pairs.Perm
      (set.values.map (fun c => (c.action, c.entity)) ++ pairs NameMap.empty) := pairs_foldl_add
  have hsorted : (ofCommands set).pairs.Perm (set.values.foldl add NameMap.empty).pairs := by
    change pairsOf ((set.values.foldl add NameMap.empty).entries.map _) ~ _
    rw [pairsOf, List.flatMap_map]
    exact List.Perm.flatMap_left _ fun e _ => (List.mergeSort_perm _ _).map _
  simpa [pairs, pairsOf, NameMap.empty] using hsorted.trans hgroups

end ActionIndex

end CommandGen
