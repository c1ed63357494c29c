import CommandGen.NameMap
import Mathlib.Data.List.Nodup
import Mathlib.Data.List.Perm.Basic
import Mathlib.Data.Prod.Basic
import Mathlib.Tactic.SplitIfs

/-! What a table keyed by text holds: look-up after insertion, the entries of a table that is made
from a list, and equality of tables with the same entries. -/
namespace CommandGen

variable {α β : Type} {entries : List (String × α)} {e : String × α} {key k : String} {value v : α}

theorem lookup_cons_eq_ite : (e :: entries).lookup k = if k = e.1 then some e.2
    else entries.lookup k := by
  rw [List.lookup_cons]
  by_cases h : k = e.1
  · simp [h]
  · simp [h, beq_eq_false_iff_ne.mpr h]

theorem InKeyOrder.nodup_keys (h : InKeyOrder entries) : (entries.map (·.1)).Nodup := by
  refine List.pairwise_map.mpr (h.imp fun {a b} hlt he => ?_)
  rw [he] at hlt
  exact String.lt_irrefl _ hlt

theorem InKeyOrder.eq_of_perm {others : List (String × α)} (h : InKeyOrder entries)
    (hothers : InKeyOrder others) (hperm : entries.Perm others) : entries = others := by
  have hlt : entries.Pairwise fun a b => a.1 < b.1 := h
  have hlt' : others.Pairwise fun a b => a.1 < b.1 := hothers
  refine hperm.eq_of_pairwise ?_ hlt hlt'
  intro a b _ _ hab hba
  exact absurd (String.lt_trans hab hba) (String.lt_irrefl _)

theorem InKeyOrder.eq_of_mem_iff {others : List (String × α)} (h : InKeyOrder entries)
    (hothers : InKeyOrder others) (hmem : ∀ e, e ∈ entries ↔ e ∈ others) : entries = others :=
  h.eq_of_perm hothers
    ((List.perm_ext_iff_of_nodup h.nodup_keys.of_map hothers.nodup_keys.of_map).mpr hmem)

theorem lookup_eq_some_iff_mem (h : (entries.map (·.1)).Nodup) :
    entries.lookup k = some v ↔ (k, v) ∈ entries := by
  induction entries with
  | nil => simp
  | cons e rest ih =>
    obtain ⟨hnew, hrest⟩ := List.nodup_cons.mp h
    rw [lookup_cons_eq_ite, List.mem_cons]
    split_ifs with he
    · have hfree : (k, v) ∉ rest := fun hm => hnew (List.mem_map.mpr ⟨(k, v), hm, he⟩)
      simp only [hfree, or_false]
      simp [Prod.ext_iff, he, eq_comm]
    · simp [ih hrest, Prod.ext_iff, he]

theorem lookup_eq_none_iff_keys : entries.lookup k = none ↔ k ∉ entries.map (·.1) := by
  induction entries with
  | nil => simp
  | cons e rest ih =>
    rw [lookup_cons_eq_ite]
    split_ifs with he <;> simp [he, ih]

theorem lookup_insertEntry :
    (insertEntry key value entries).lookup k = if k = key then some value
      else entries.lookup k := by
  induction entries with
  | nil => exact lookup_cons_eq_ite
  | cons e rest ih =>
    unfold insertEntry
    by_cases hlt : key < e.1
    · rw [if_pos hlt, lookup_cons_eq_ite]
    · by_cases heq : key = e.1
      · rw [if_neg hlt, if_pos heq, lookup_cons_eq_ite, lookup_cons_eq_ite, ← heq]
        split_ifs <;> rfl
      · rw [if_neg hlt, if_neg heq, lookup_cons_eq_ite, lookup_cons_eq_ite, ih]
        by_cases hk : k = e.1
        · have hne : k ≠ key := fun h => heq (h.symm.trans hk)
          simp [hk, hk ▸ hne]
        · simp [hk]

theorem insertEntry_perm (h : key ∉ entries.map (·.1)) :
    (insertEntry key value entries).Perm ((key, value) :: entries) := by
  induction entries with
  | nil => exact .refl _
  | cons e rest ih =>
    obtain ⟨hne, hrest⟩ := not_or.mp (mt List.mem_cons.mpr h)
    unfold insertEntry
    split_ifs
    · exact .refl _
    · exact ((ih hrest).cons e).trans (.swap _ _ _)

theorem lookup_eq_none_of_lt (h : ∀ e ∈ entries, key < e.1) : entries.lookup key = none := by
  refine lookup_eq_none_iff_keys.mpr fun hm => ?_
  obtain ⟨e, he, rfl⟩ := List.mem_map.mp hm
  exact String.lt_irrefl _ (h e he)

/-- An insertion takes the place of the entry with its key, if there is one, and leaves all
others. -/
theorem exists_perm_insertEntry (h : InKeyOrder entries) : ∃ others,
    entries.Perm (((entries.lookup key).map (key, ·)).toList ++ others) ∧
      (insertEntry key value entries).Perm ((key, value) :: others) := by
  induction entries with
  | nil => exact ⟨[], .refl _, .refl _⟩
  | cons e rest ih =>
    obtain ⟨hfirst, hrest⟩ := List.pairwise_cons.mp h
    rw [lookup_cons_eq_ite]
    unfold insertEntry
    by_cases hlt : key < e.1
    · have hne : key ≠ e.1 := fun he => String.lt_irrefl _ (he ▸ hlt)
      have hnone : rest.lookup key = none :=
        lookup_eq_none_of_lt fun x hx => String.lt_trans hlt (hfirst x hx)
      rw [if_pos hlt, if_neg hne, hnone]
      exact ⟨e :: rest, .refl _, .refl _⟩
    · by_cases heq : key = e.1
      · rw [if_neg hlt, if_pos heq, if_pos heq]
        refine ⟨rest, ?_, .refl _⟩
        rw [heq]
        exact .refl _
      · obtain ⟨others, hbefore, hafter⟩ := ih hrest
        rw [if_neg hlt, if_neg heq, if_neg heq]
        exact ⟨e :: others, (hbefore.cons e).trans List.perm_middle.symm,
          (hafter.cons e).trans (.swap _ _ _)⟩

theorem filters_of_after (h : ∀ e ∈ entries, key < e.1) :
    entries.filter (·.1 < key) = [] ∧ entries.filter (key < ·.1) = entries := by
  refine ⟨List.filter_eq_nil_iff.mpr fun e he => ?_, List.filter_eq_self.mpr fun e he => ?_⟩
  · simpa using String.lt_asymm (h e he)
  · simpa using h e he

/-- A list in key order is cut by a key into what comes before it, its own entry if there is one,
and what comes after it. -/
theorem eq_around (h : InKeyOrder entries) : entries =
    entries.filter (·.1 < key) ++ ((entries.lookup key).map (key, ·)).toList ++
    entries.filter (key < ·.1) := by
  induction entries with
  | nil => rfl
  | cons e rest ih =>
    obtain ⟨hfirst, hrest⟩ := List.pairwise_cons.mp h
    rw [lookup_cons_eq_ite]
    by_cases hlt : e.1 < key
    · have hnot : ¬ key < e.1 := String.lt_asymm hlt
      have hne : key ≠ e.1 := fun he => String.lt_irrefl _ (he ▸ hlt)
      rw [if_neg hne, List.filter_cons_of_pos (by simpa using hlt),
        List.filter_cons_of_neg (by simpa using hnot)]
      exact congrArg (e :: ·) (ih hrest)
    · rw [List.filter_cons_of_neg (by simpa using hlt)]
      by_cases heq : key = e.1
      · obtain ⟨hbefore, hafter⟩ := filters_of_after fun x hx => heq ▸ hfirst x hx
        have hnot : ¬ key < e.1 := heq ▸ String.lt_irrefl _
        rw [if_pos heq, hbefore, List.filter_cons_of_neg (by simpa using hnot), hafter]
        simp [heq]
      · have hgt : key < e.1 :=
          String.not_le.mp fun hge => heq (String.le_antisymm (String.not_lt.mp hlt) hge)
        have hall : ∀ x ∈ rest, key < x.1 := fun x hx => String.lt_trans hgt (hfirst x hx)
        obtain ⟨hbefore, hafter⟩ := filters_of_after hall
        rw [if_neg heq, hbefore, lookup_eq_none_of_lt hall,
          List.filter_cons_of_pos (by simpa using hgt), hafter]
        rfl

namespace NameMap

variable {m n : NameMap α}

theorem nodup_keys (m : NameMap α) : m.keys.Nodup := m.inKeyOrder.nodup_keys

@[simp] theorem get?_empty : (empty : NameMap α).get? k = none := rfl

theorem get?_insert : (m.insert key value).get? k = if k = key then some value else m.get? k :=
  lookup_insertEntry

theorem get?_mapValues {f : α → β} : (m.mapValues f).get? k = (m.get? k).map f := by
  change (m.entries.map fun e => (e.1, f e.2)).lookup k = (m.entries.lookup k).map f
  induction m.entries with
  | nil => rfl
  | cons e rest ih =>
    rw [List.map_cons, lookup_cons_eq_ite, lookup_cons_eq_ite, ih]
    split_ifs <;> rfl

/-- Tables with the same entries are equal, as the order of the entries is that of their keys. -/
theorem ext_of_perm (h : m.entries.Perm n.entries) : m = n :=
  ext (m.inKeyOrder.eq_of_perm n.inKeyOrder h)

theorem perm_insert (h : key ∉ m.keys) :
    (m.insert key value).entries.Perm ((key, value) :: m.entries) :=
  insertEntry_perm h

theorem exists_perm_insert (m : NameMap α) (key : String) (value : α) : ∃ others,
    m.entries.Perm (((m.get? key).map (key, ·)).toList ++ others) ∧
      (m.insert key value).entries.Perm ((key, value) :: others) :=
    exists_perm_insertEntry m.inKeyOrder

theorem foldl_insert_perm (h : (m.keys ++ entries.map (·.1)).Nodup) :
    (entries.foldl (fun m e => m.insert e.1 e.2) m).entries.Perm (m.entries ++ entries) := by
  induction entries generalizing m with
  | nil => simp
  | cons e rest ih =>
    obtain ⟨-, hrest, hapart⟩ := List.nodup_append.mp h
    have hnew : e.1 ∉ m.keys := fun hm => hapart _ hm _ (by simp) rfl
    have hp : (m.insert e.1 e.2).entries.Perm ((e.1, e.2) :: m.entries) := perm_insert hnew
    have hkeys : (m.insert e.1 e.2).keys.Perm (e.1 :: m.keys) := hp.map Prod.fst
    have hnodup : ((m.insert e.1 e.2).keys ++ rest.map (·.1)).Nodup :=
      ((hkeys.append_right _).trans List.perm_middle.symm).nodup_iff.mpr h
    exact (ih hnodup).trans ((hp.append_right rest).trans List.perm_middle.symm)

theorem perm_ofList (h : (entries.map (·.1)).Nodup) : (ofList entries).entries.Perm entries :=
  foldl_insert_perm h

theorem get?_eq_some_iff_mem : m.get? k = some v ↔ (k, v) ∈ m.entries :=
  lookup_eq_some_iff_mem m.nodup_keys

theorem get?_ofList_eq_some_iff (h : (entries.map (·.1)).Nodup) :
    (ofList entries).get? k = some v ↔ (k, v) ∈ entries := by
  rw [get?_eq_some_iff_mem, (perm_ofList h).mem_iff]

theorem mem_keys_iff : k ∈ m.keys ↔ ∃ v, m.get? k = some v := by
  simp [keys, get?_eq_some_iff_mem]

theorem ext_of_get? (h : ∀ k, m.get? k = n.get? k) : m = n := by
  refine ext (m.inKeyOrder.eq_of_mem_iff n.inKeyOrder fun (k, v) => ?_)
  rw [← get?_eq_some_iff_mem, ← get?_eq_some_iff_mem, h]

def filterKeys (p : String → Bool) (m : NameMap α) : NameMap α where
  entries := m.entries.filter (p ·.1)
  inKeyOrder := m.inKeyOrder.filter _

variable {p : String → Bool}

theorem get?_filterKeys_eq_some_iff :
    (m.filterKeys p).get? k = some v ↔ m.get? k = some v ∧ p k = true := by
  simp [get?_eq_some_iff_mem, filterKeys]

theorem filterKeys_congr (h : ∀ k, p k = true → m.get? k = n.get? k) :
    m.filterKeys p = n.filterKeys p := by
  refine ext_of_get? fun k => Option.ext fun v => ?_
  rw [get?_filterKeys_eq_some_iff, get?_filterKeys_eq_some_iff]
  exact and_congr_left fun hk => by rw [h k hk]

theorem entries_eq_around (m : NameMap α) (key : String) : m.entries =
    (m.filterKeys (· < key)).entries ++ ((m.get? key).map (key, ·)).toList ++
    (m.filterKeys (key < ·)).entries :=
  eq_around m.inKeyOrder

end NameMap

end CommandGen
