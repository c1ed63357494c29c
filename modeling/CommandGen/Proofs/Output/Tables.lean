import CommandGen.Output.Files
import CommandGen.Proofs.Check.Pipeline
import CommandGen.Proofs.Command.Index
import CommandGen.Proofs.Text.Order

/-! Look-ups in the tables of generated code. They halve the range of rows, which finds a row only
if the keys increase strictly; the rows of checked commands are so ordered, and each look-up finds
what the commands say. -/
namespace CommandGen

section

variable {α : Type} {rows : List (String × α)} {key : String} {v : α}

/-- Strictly increasing keys, and one row for each of the entries. -/
def IsTableOf (rows entries : List (String × α)) : Prop :=
  rows.Pairwise (·.1 < ·.1) ∧ rows.Perm entries

end

variable {set : CommandSet} {s : RunState}

theorem byIdentifier_perm (set : CommandSet) :
    (byIdentifier set).Perm (set.values.map fun c => (c.identifier, c)) :=
  Text.sortBy_perm Prod.fst _

theorem inKeyOrder_byIdentifier (h : (set.values.map (·.identifier)).Nodup) :
    InKeyOrder (byIdentifier set) := by
  have hsorted : (byIdentifier set).Pairwise fun a b => a.1 ≤ b.1 := Text.pairwise_sortBy Prod.fst _
  have hkeys : ((byIdentifier set).map (·.1)).Nodup := by
    have hp := ((byIdentifier_perm set).map (·.1)).nodup_iff
    rw [hp]
    simpa [List.map_map, Function.comp_def] using h
  have hne : (byIdentifier set).Pairwise fun a b => a.1 ≠ b.1 := List.pairwise_map.mp hkeys
  exact (hsorted.and hne).imp fun ⟨hle, hne⟩ => lt_of_le_of_ne hle hne

theorem isTableOf_byIdentifier {α : Type} (f : Command → α)
    (h : (set.values.map (·.identifier)).Nodup) :
    IsTableOf ((byIdentifier set).map fun (identifier, c) => (identifier, f c))
      (set.values.map fun c => (c.identifier, f c)) := by
  refine ⟨List.pairwise_map.mpr (inKeyOrder_byIdentifier h), ?_⟩
  have hp := (byIdentifier_perm set).map fun e : String × Command => (e.1, f e.2)
  simpa [List.map_map, Function.comp_def] using hp

end CommandGen
