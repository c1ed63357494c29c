import CommandGen.Scan.Basic
import Mathlib.Data.List.Basic
import Mathlib.Data.Prod.Basic

/-! The structures of a file by where they stand. An address leads from the file through modules
that are written in place: at each of them it names a declaration by its number. -/
namespace CommandGen

open Source

def structAt? : List Item → List Nat → Option StructDecl
  | _, [] => none
  | items, n :: rest =>
    match items[n]? with
    | some (.record decl) => if rest = [] then some decl else none
    | some (.inlineModule inner) => structAt? inner rest
    | _ => none

/-- A list of all structures with their addresses, in the order of the text: that of their
addresses. -/
structure IsOutline (items : List Item) (structs : List (List Nat × StructDecl)) : Prop where
  inOrder : structs.Pairwise (·.1 < ·.1)
  mem_iff : ∀ address decl, (address, decl) ∈ structs ↔ structAt? items address = some decl

def below (n : Nat) (s : List Nat × StructDecl) : List Nat × StructDecl := (n :: s.1, s.2)

mutual

/-- The structures of a declaration. One that is a structure has the empty address in itself. -/
def outlineOfItem : Item → List (List Nat × StructDecl)
  | .record decl => [([], decl)]
  | .inlineModule items => outlineFrom 0 items
  | .other => []

def outlineFrom (n : Nat) : List Item → List (List Nat × StructDecl)
  | [] => []
  | item :: rest => (outlineOfItem item).map (below n) ++ outlineFrom (n + 1) rest

end

variable {items : List Item} {item : Item} {n : Nat} {address : List Nat} {decl : StructDecl}

theorem mem_outlineFrom : (address, decl) ∈ outlineFrom n items ↔
    ∃ k inner item, address = (n + k) :: inner ∧ items[k]? = some item ∧
      (inner, decl) ∈ outlineOfItem item := by
  induction items generalizing n with
  | nil => simp [outlineFrom]
  | cons first rest ih =>
    rw [outlineFrom, List.mem_append, ih]
    constructor
    · rintro (h | ⟨k, inner, item, rfl, hk, hmem⟩)
      · obtain ⟨⟨inner, d⟩, hmem, he⟩ := List.mem_map.mp h
        obtain ⟨rfl, rfl⟩ := Prod.ext_iff.mp he
        exact ⟨0, inner, first, rfl, rfl, hmem⟩
      · exact ⟨k + 1, inner, item, by rw [Nat.add_assoc, Nat.add_comm 1], hk, hmem⟩
    · rintro ⟨k, inner, item, rfl, hk, hmem⟩
      cases k with
      | zero =>
        obtain rfl : first = item := by simpa using hk
        exact .inl (List.mem_map.mpr ⟨_, hmem, rfl⟩)
      | succ k => exact .inr ⟨k, inner, item, by rw [Nat.add_assoc, Nat.add_comm 1], hk, hmem⟩

theorem address_ne_nil (h : (address, decl) ∈ outlineFrom n items) : address ≠ [] := by
  obtain ⟨k, inner, item, rfl, -⟩ := mem_outlineFrom.mp h
  exact List.cons_ne_nil _ _

theorem mem_outlineFrom_zero :
    (address, decl) ∈ outlineFrom 0 items ↔ structAt? items address = some decl := by
  induction address generalizing items with
  | nil => simp [structAt?, mem_outlineFrom]
  | cons k inner ih =>
    have hstep : (k :: inner, decl) ∈ outlineFrom 0 items ↔
        ∃ item, items[k]? = some item ∧ (inner, decl) ∈ outlineOfItem item := by
      simp [mem_outlineFrom]
    rw [hstep, structAt?]
    cases hk : items[k]? with
    | none => simp
    | some item =>
      cases item with
      | record d => simp [outlineOfItem, eq_comm]
      | inlineModule inside => simpa [outlineOfItem] using ih
      | other => simp [outlineOfItem]

mutual

theorem outlineOfItem_inOrder : ∀ item, (outlineOfItem item).Pairwise (·.1 < ·.1)
  | .record _ => List.pairwise_singleton _ _
  | .inlineModule items => outlineFrom_inOrder 0 items
  | .other => List.Pairwise.nil

/-- What is in a declaration stands before what is in the ones after it, as its number is
smaller. -/
theorem outlineFrom_inOrder : ∀ n items, (outlineFrom n items).Pairwise (·.1 < ·.1)
  | _, [] => List.Pairwise.nil
  | n, item :: rest => by
    refine List.pairwise_append.mpr ⟨?_, outlineFrom_inOrder (n + 1) rest, ?_⟩
    · refine List.pairwise_map.mpr ((outlineOfItem_inOrder item).imp fun h => ?_)
      exact List.cons_lt_cons_iff.mpr (.inr ⟨rfl, h⟩)
    · intro a ha b hb
      obtain ⟨c, -, rfl⟩ := List.mem_map.mp ha
      obtain ⟨k, inner, _, he, -⟩ := mem_outlineFrom.mp hb
      rw [he]
      exact List.cons_lt_cons_iff.mpr (.inl (by omega))

end

theorem isOutline_outlineFrom (items : List Item) : IsOutline items (outlineFrom 0 items) where
  inOrder := outlineFrom_inOrder 0 items
  mem_iff _ _ := mem_outlineFrom_zero

/-- A structure is inside a module if the address is longer than one number. -/
def isNestedAt (s : List Nat × StructDecl) : Bool := 1 < s.1.length

mutual

theorem structsOfItem_eq : ∀ nested item, structsOfItem nested item =
    (outlineOfItem item).map fun s => (nested || s.1 ≠ [], s.2)
  | _, .record _ => by simp [structsOfItem, outlineOfItem]
  | nested, .inlineModule items => by
    rw [structsOfItem, outlineOfItem, structsOf_eq true 0 items]
    refine List.map_congr_left fun s hs => ?_
    simp [address_ne_nil hs]
  | _, .other => rfl

theorem structsOf_eq : ∀ nested n items, structsOf nested items =
    (outlineFrom n items).map fun s => (nested || isNestedAt s, s.2)
  | _, _, [] => rfl
  | nested, n, item :: rest => by
    rw [structsOf, outlineFrom, structsOfItem_eq nested item, structsOf_eq nested (n + 1) rest,
      List.map_append, List.map_map]
    congr 1
    refine List.map_congr_left fun s _ => ?_
    simp [below, isNestedAt, List.length_pos_iff]

end

end CommandGen
