import Mathlib.Data.List.Forall2
import Mathlib.Tactic.Cases

/-! Facts about lists and outcomes, whatever they hold. -/
namespace CommandGen

section Outcomes

variable {ε α β : Type} {x : Except ε α} {b : β}

theorem bind_eq_ok_iff {f : α → Except ε β} : (x >>= f) = .ok b ↔ ∃ a, x = .ok a ∧ f a = .ok b := by
  cases x <;> simp [bind, Except.bind]

theorem map_eq_ok_iff {f : α → β} : x.map f = .ok b ↔ ∃ a, x = .ok a ∧ f a = b := by
  cases x <;> simp [Except.map]

end Outcomes

section Matches

variable {α β γ : Type} {R : α → β → Prop} {xs before after : List α} {ys : List β} {x : α}

theorem exists_partner (h : List.Forall₂ R xs ys) (hx : x ∈ xs) : ∃ y ∈ ys, R x y := by
  induction h with
  | nil => simp at hx
  | @cons a b _ _ hab _ ih =>
    rcases List.mem_cons.mp hx with rfl | hx
    · exact ⟨b, by simp, hab⟩
    · obtain ⟨y, hy, hr⟩ := ih hx
      exact ⟨y, List.mem_cons_of_mem _ hy, hr⟩

theorem exists_cut (h : List.Forall₂ R (before ++ x :: after) ys) :
    ∃ first y last, ys = first ++ y :: last ∧ List.Forall₂ R before first ∧ R x y := by
  induction before generalizing ys with
  | nil =>
    obtain ⟨y, last, hr, -, rfl⟩ := List.forall₂_cons_left_iff.mp h
    exact ⟨[], y, last, rfl, .nil, hr⟩
  | cons b rest ih =>
    obtain ⟨c, ys, hr, hrest, rfl⟩ := List.forall₂_cons_left_iff.mp h
    obtain ⟨first, y, last, rfl, hfirst, hy⟩ := ih hrest
    exact ⟨c :: first, y, last, rfl, .cons hr hfirst, hy⟩

theorem forall₂_of_map_eq {f : α → γ} {g : β → γ} (h : xs.map f = ys.map g)
    (hr : ∀ x ∈ xs, ∀ y ∈ ys, f x = g y → R x y) : List.Forall₂ R xs ys := by
  induction xs generalizing ys with
  | nil =>
    have he : ys = [] := by simpa using h.symm
    simp [he]
  | cons x xs ih =>
    cases ys with
    | nil => simp at h
    | cons y ys =>
      obtain ⟨hxy, ht⟩ := List.cons.inj h
      refine .cons (hr x (by simp) y (by simp) hxy) (ih ht fun a ha b hb => ?_)
      exact hr a (by simp [ha]) b (by simp [hb])

end Matches

/-- Nothing is left out by a filter that all fail, and nothing is kept by its opposite. -/
theorem filter_of_none {α : Type} {p : α → Prop} [DecidablePred p]
    {l : List α} (h : ∀ a ∈ l, ¬p a) :
    l.filter (¬p ·) = l ∧ l.filter (p ·) = [] :=
  ⟨List.filter_eq_self.mpr (by simpa using h), List.filter_eq_nil_iff.mpr (by simpa using h)⟩

end CommandGen
