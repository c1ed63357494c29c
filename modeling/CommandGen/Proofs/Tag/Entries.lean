import CommandGen.Proofs.NameMap
import CommandGen.Tag.Basic
import Mathlib.Data.List.Induction

/-! What tags hold after pairs are put into them one after another: each key at the place of its
first pair, with the value of its last. -/
namespace CommandGen

/-- Entries of which each key stands once, where it came first, and has the value that came last. -/
structure Merges (pairs entries : List (String × String)) : Prop where
  keys : entries.map (·.1) = (pairs.map (·.1)).eraseDups
  values : ∀ key, entries.lookup key = pairs.reverse.lookup key

variable {key k value : String} {entries pairs : List (String × String)} {e : String × String}

theorem lookup_putEntry :
    (putEntry key value entries).lookup k = if k = key then some value else entries.lookup k := by
  induction entries with
  | nil => exact lookup_cons_eq_ite
  | cons e rest ih =>
    unfold putEntry
    by_cases he : e.1 = key
    · rw [if_pos he, lookup_cons_eq_ite, lookup_cons_eq_ite, he]
      split_ifs <;> rfl
    · rw [if_neg he, lookup_cons_eq_ite, lookup_cons_eq_ite, ih]
      by_cases hk : k = e.1
      · have hne : k ≠ key := fun h => he (hk.symm.trans h)
        simp [hk, hk ▸ hne]
      · simp [hk]

theorem putEntry_of_not_mem (h : key ∉ entries.map (·.1)) :
    putEntry key value entries = entries ++ [(key, value)] := by
  induction entries with
  | nil => rfl
  | cons e rest ih =>
    obtain ⟨hne, hrest⟩ := not_or.mp (mt List.mem_cons.mpr h)
    rw [putEntry, if_neg (Ne.symm hne), ih hrest]
    rfl

theorem Merges.put (h : Merges pairs entries) :
    Merges (pairs ++ [(key, value)]) (putEntry key value entries) where
  keys := by
    rw [keys_putEntry, h.keys, List.map_append, List.eraseDups_append, List.map_cons, List.map_nil]
    simp only [List.mem_eraseDups]
    by_cases hk : key ∈ pairs.map (·.1)
    · simp [hk, List.removeAll]
    · simp [hk, List.removeAll, List.eraseDups_cons]
  values k := by
    rw [lookup_putEntry, h.values, List.reverse_append,
      List.reverse_singleton, List.singleton_append, lookup_cons_eq_ite]

namespace TagSet

variable {tags : TagSet}

@[ext] theorem ext {s t : TagSet} (h : s.entries = t.entries) : s = t := by
  cases s
  cases t
  simp_all

def putAll (tags : TagSet) (pairs : List (String × String)) : TagSet :=
  pairs.foldl (fun t p => t.put p.1 p.2) tags

theorem merges_putAll (pairs : List (String × String)) :
    Merges pairs (putAll {} pairs).entries := by
  -- from the end, as it is the last pair that replaces
  induction pairs using List.reverseRecOn with
  | nil => exact ⟨rfl, fun _ => rfl⟩
  | append_singleton before p ih =>
    have hlast : putAll {} (before ++ [p]) = (putAll {} before).put p.1 p.2 := by simp [putAll]
    rw [hlast]
    exact ih.put

theorem entries_putAll (h : (tags.entries.map (·.1) ++ pairs.map (·.1)).Nodup) :
    (tags.putAll pairs).entries = tags.entries ++ pairs := by
  induction pairs generalizing tags with
  | nil => simp [putAll]
  | cons p rest ih =>
    obtain ⟨-, -, hapart⟩ := List.nodup_append.mp h
    have hnew : p.1 ∉ tags.entries.map (·.1) := fun hm => hapart _ hm _ (by simp) rfl
    have hput : (tags.put p.1 p.2).entries = tags.entries ++ [p] := putEntry_of_not_mem hnew
    have hrest := @ih (tags.put p.1 p.2) (by simpa [hput] using h)
    rw [hput] at hrest
    simpa [putAll] using hrest

theorem mem_of_merges (h : Merges pairs tags.entries) (he : e ∈ tags.entries) : e ∈ pairs := by
  have hlookup : tags.entries.lookup e.1 = some e.2 := (lookup_eq_some_iff_mem tags.nodup).mpr he
  rw [h.values] at hlookup
  obtain ⟨before, after, hsplit, -⟩ := List.lookup_eq_some_iff.mp hlookup
  rw [← List.mem_reverse, hsplit]
  simp

end TagSet

end CommandGen
