import CommandGen.Command.Basic
import CommandGen.Proofs.Text.Order
import Mathlib.Data.List.Basic
import Mathlib.Data.List.Nodup

/-! The parameters of a command: the order in which they are kept, and which of them are
required. -/
namespace CommandGen

open Text

/-- Parameters in the order of their names, those of one name in the order in which they came. -/
structure IsNameSort (params sorted : List Param) : Prop where
  perm : sorted.Perm params
  inOrder : sorted.Pairwise (·.name ≤ ·.name)
  stable : ∀ name, sorted.filter (·.name = name) = params.filter (·.name = name)

variable {params others sorted sorted' : List Param} {c : Command}

theorem isNameSort_withParams (c : Command) (params : List Param) :
    IsNameSort params (c.withParams params).params where
  perm := sortBy_perm Param.name params
  inOrder := pairwise_sortBy Param.name params
  stable := filter_sortBy Param.name params

theorem IsNameSort.eq_of_perm (h : IsNameSort params sorted) (h' : IsNameSort others sorted')
    (hp : params.Perm others) (hnodup : (sorted.map (·.name)).Nodup) : sorted = sorted' := by
  have hsame : sorted.Perm sorted' := h.perm.trans (hp.trans h'.perm.symm)
  refine hsame.eq_of_pairwise (fun p q hmem hmem' hpq hqp => ?_) h.inOrder h'.inOrder
  have hname : p.name = q.name := String.le_antisymm hpq hqp
  exact List.inj_on_of_nodup_map hnodup hmem (hsame.mem_iff.mpr hmem') hname

namespace Command

theorem pairwise_requiredParams (h : c.params.Pairwise (·.name ≤ ·.name)) :
    c.requiredParams.Pairwise (· ≤ ·) :=
  List.pairwise_map.mpr (h.filter _)

theorem pairwise_extraParams (h : c.params.Pairwise (·.name ≤ ·.name)) :
    c.extraParams.Pairwise (· ≤ ·) :=
  List.pairwise_map.mpr (h.filter _)

theorem perm_requiredParams_extraParams (c : Command) :
    (c.requiredParams ++ c.extraParams).Perm (c.params.map (·.name)) := by
  rw [requiredParams, extraParams, ← List.map_append]
  exact (List.filter_append_perm _ c.params).map _

/-- Whether a command is carried out by hand is decided by its call, as one that is there is not
empty. -/
theorem callMode_eq_manual_iff (h : c.call ≠ some "") : c.callMode = .manual ↔ c.call = none := by
  unfold callMode
  cases hcall : c.call with
  | none => simp
  | some call =>
    have hne : call ≠ "" := fun he => h (he ▸ hcall)
    simp [hne]

end Command

end CommandGen
