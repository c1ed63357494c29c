/-! Tables keyed by text. Entries are kept in key order and every key stands once, so equal contents
are equal tables. -/
namespace CommandGen

variable {α β : Type}

/-- Put an entry at its place, over the one with the same key if there is one. -/
def insertEntry (key : String) (value : α) : List (String × α) → List (String × α)
  | [] => [(key, value)]
  | (k, v) :: rest =>
    if key < k then (key, value) :: (k, v) :: rest
    else if key = k then (key, value) :: rest
    else (k, v) :: insertEntry key value rest

def InKeyOrder (entries : List (String × α)) : Prop := entries.Pairwise (·.1 < ·.1)

theorem mem_insertEntry {key : String} {value : α} {entries : List (String × α)}
    {e : String × α} (h : e ∈ insertEntry key value entries) : e = (key, value) ∨ e ∈ entries := by
  induction entries with
  | nil => simpa [insertEntry] using h
  | cons hd tl ih =>
    unfold insertEntry at h
    split at h
    · simpa using h
    · split at h
      · rcases List.mem_cons.mp h with h | h <;> simp [h]
      · rcases List.mem_cons.mp h with h | h
        · simp [h]
        · rcases ih h with h | h <;> simp [h]

theorem inKeyOrder_insertEntry (key : String) (value : α) {entries : List (String × α)}
    (h : InKeyOrder entries) : InKeyOrder (insertEntry key value entries) := by
  induction entries with
  | nil => simp [insertEntry, InKeyOrder]
  | cons hd tl ih =>
    obtain ⟨hh, ht⟩ := List.pairwise_cons.mp h
    unfold insertEntry
    split
    · rename_i hlt
      refine List.pairwise_cons.mpr ⟨fun e he => ?_, h⟩
      rcases List.mem_cons.mp he with rfl | he
      · exact hlt
      · exact String.lt_trans hlt (hh e he)
    · split
      · rename_i heq
        exact List.pairwise_cons.mpr ⟨fun e he => heq ▸ hh e he, ht⟩
      · rename_i hlt heq
        refine List.pairwise_cons.mpr ⟨fun e he => ?_, ih ht⟩
        rcases mem_insertEntry he with rfl | he
        · refine String.not_le.mp fun hle => heq ?_
          exact String.le_antisymm hle (String.not_lt.mp hlt)
        · exact hh e he

/-- A table from texts to values, in key order. -/
structure NameMap (α : Type) where
  entries : List (String × α)
  inKeyOrder : InKeyOrder entries := by exact List.Pairwise.nil

namespace NameMap

def empty : NameMap α := ⟨[], List.Pairwise.nil⟩

instance : Inhabited (NameMap α) := ⟨empty⟩
instance : EmptyCollection (NameMap α) := ⟨empty⟩

@[ext] theorem ext {m n : NameMap α} (h : m.entries = n.entries) : m = n := by
  cases m; cases n; simp_all

def insert (m : NameMap α) (key : String) (value : α) : NameMap α :=
  ⟨insertEntry key value m.entries, inKeyOrder_insertEntry key value m.inKeyOrder⟩

def get? (m : NameMap α) (key : String) : Option α := m.entries.lookup key

def contains (m : NameMap α) (key : String) : Bool := (m.get? key).isSome

def keys (m : NameMap α) : List String := m.entries.map (·.1)

def values (m : NameMap α) : List α := m.entries.map (·.2)

def size (m : NameMap α) : Nat := m.entries.length

def isEmpty (m : NameMap α) : Bool := m.entries.isEmpty

/-- A later entry replaces an earlier one with the same key. -/
def ofList (entries : List (String × α)) : NameMap α :=
  entries.foldl (fun m e => m.insert e.1 e.2) empty

def mapValues (f : α → β) (m : NameMap α) : NameMap β where
  entries := m.entries.map fun e => (e.1, f e.2)
  inKeyOrder := List.pairwise_map.mpr (m.inKeyOrder.imp fun h => h)

instance [DecidableEq α] : DecidableEq (NameMap α) := fun m n =>
  if h : m.entries = n.entries then .isTrue (ext h) else .isFalse fun e => h (e ▸ rfl)

end NameMap

end CommandGen
