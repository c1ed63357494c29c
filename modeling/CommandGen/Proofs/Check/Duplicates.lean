import CommandGen.Proofs.Check.Acceptance
import Mathlib.Data.Finset.Card

/-! The lint on identifiers is exact: of the types that share an identifier, each but the first is
reported, against that first one. -/
namespace CommandGen

/-- The types of some commands that have an identifier, in the order of the commands. -/
def typesWith (identifier : String) (entries : List (String × Command)) : List String :=
  (entries.filter fun e => e.2.action ++ e.2.entity = identifier).map (·.1)

def clash (entries : List (String × Command)) (e : String × Command) : Option Diagnostic :=
  ((typesWith e.2.identifier entries).head?.filter (· ≠ e.1)).map fun first =>
    Lint.report .error e.1 s!"duplicate identifier '{e.2.identifier}' (conflicts with '{first}')"

variable {seen : List (String × String)}
  {before rest entries : List (String × Command)} {e : String × Command}
  {k typeName : String} {set : CommandSet}

theorem typesWith_append :
    typesWith k (before ++ rest) = typesWith k before ++ typesWith k rest := by
  simp [typesWith]

theorem typesWith_cons : typesWith k (e :: rest) =
    if e.2.identifier = k then e.1 :: typesWith k rest else typesWith k rest := by
  unfold typesWith Command.identifier
  split_ifs with h <;> simp [h]

theorem typesWith_sublist (k : String) (entries : List (String × Command)) :
    (typesWith k entries).Sublist (entries.map (·.1)) :=
  List.filter_sublist.map _

theorem mem_typesWith : typeName ∈ typesWith k set.entries ↔
    ∃ c, set.get? typeName = some c ∧ c.action ++ c.entity = k := by
  simp [typesWith, NameMap.get?_eq_some_iff_mem]

namespace Lint

/-- The table of the lint holds the first type of each identifier, as far as commands have been
looked at. -/
def HoldsFirsts (seen : List (String × String)) (before : List (String × Command)) : Prop :=
  ∀ k, seen.lookup k = (typesWith k before).head?

theorem HoldsFirsts.known (h : HoldsFirsts seen before)
    (hknown : seen.lookup e.2.identifier ≠ none) :
    HoldsFirsts seen (before ++ [e]) := by
  intro k
  rw [typesWith_append, List.head?_append, ← h, typesWith_cons]
  split_ifs with hk
  · subst hk
    obtain ⟨first, hfirst⟩ := Option.ne_none_iff_exists'.mp hknown
    simp [hfirst]
  · simp [typesWith]

theorem HoldsFirsts.new (h : HoldsFirsts seen before) (hnew : seen.lookup e.2.identifier = none) :
    HoldsFirsts ((e.2.identifier, e.1) :: seen) (before ++ [e]) := by
  intro k
  rw [typesWith_append, List.head?_append, ← h, typesWith_cons, lookup_cons_eq_ite]
  by_cases hk : k = e.2.identifier
  · subst hk
    simp [hnew]
  · simp [typesWith, hk, Ne.symm hk]

/-- The induction is on the commands that are left; the table knows those before them. -/
theorem duplicates_eq_filterMap (hfirsts : HoldsFirsts seen before)
    (hkeys : ((before ++ rest).map (·.1)).Nodup) :
    duplicates seen rest = rest.filterMap (clash (before ++ rest)) := by
  induction rest generalizing before seen with
  | nil => rfl
  | cons e rest ih =>
    have hsplit : before ++ e :: rest = before ++ [e] ++ rest := by simp
    have hhead : (typesWith e.2.identifier (before ++ e :: rest)).head? =
        (seen.lookup e.2.identifier).or (some e.1) := by
      rw [typesWith_append, List.head?_append, ← hfirsts, typesWith_cons,
        if_pos rfl, List.head?_cons]
    rw [duplicates, List.filterMap_cons, clash, hhead]
    cases hlookup : seen.lookup e.2.identifier with
    | some first =>
      have hbefore : first ∈ before.map (·.1) := by
        refine (typesWith_sublist e.2.identifier before).mem (List.mem_of_head? ?_)
        rw [← hfirsts, hlookup]
      have hne : first ≠ e.1 := by
        rw [List.map_append, List.map_cons] at hkeys
        exact (List.nodup_append.mp hkeys).2.2 first hbefore e.1 List.mem_cons_self
      have hnext := hfirsts.known (e := e) (by simp [hlookup])
      simp only [Option.some_or, Option.filter_some, hne, ne_eq,
        not_false_eq_true, decide_true, if_true, Option.map_some]
      rw [ih hnext (hsplit ▸ hkeys), hsplit]
    | none =>
      simp only [Option.none_or, Option.filter_some, ne_eq, not_true_eq_false,
        decide_false, Bool.false_eq_true, if_false, Option.map_none]
      rw [ih (hfirsts.new hlookup) (hsplit ▸ hkeys), hsplit]

theorem check_duplicateIdentifier (set : CommandSet) :
    duplicateIdentifier.check set = set.entries.filterMap (clash set.entries) := by
  have hnone : HoldsFirsts [] [] := fun _ => rfl
  exact duplicates_eq_filterMap hnone set.nodup_keys

/-- Of the commands that are left, all are reported but one for each identifier that is new. -/
theorem length_duplicates (seen : List (String × String)) (entries : List (String × Command)) :
    (duplicates seen entries).length +
      ((entries.map (·.2.identifier)).toFinset \ (seen.map (·.1)).toFinset).card = entries.length := by
  induction entries generalizing seen with
  | nil => simp [duplicates]
  | cons e rest ih =>
    rw [duplicates, List.map_cons, List.toFinset_cons, List.length_cons]
    cases hlookup : seen.lookup e.2.identifier with
    | some first =>
      have hseen : e.2.identifier ∈ (seen.map (·.1)).toFinset := by
        by_contra hn
        rw [lookup_eq_none_iff_keys.mpr (by simpa using hn)] at hlookup
        cases hlookup
      rw [Finset.insert_sdiff_of_mem _ hseen, List.length_cons, ← ih seen]
      omega
    | none =>
      have hnew : e.2.identifier ∉ (seen.map (·.1)).toFinset := by
        simpa using lookup_eq_none_iff_keys.mp hlookup
      rw [← ih ((e.2.identifier, e.1) :: seen), List.map_cons, List.toFinset_cons,
        Finset.insert_sdiff_of_notMem _ hnew, Finset.sdiff_insert, Nat.add_assoc]
      rw [← Finset.card_erase_add_one (Finset.mem_insert_self _ _), Finset.erase_insert_eq_erase]

/-- The lint on identifiers reports each type that is not the first of those with its identifier, in
type-name order, and names the first one. So there are as many reports as there are commands more
than identifiers, and none if each command has an identifier of its own. -/
theorem duplicateIdentifier_exact (set : CommandSet) :
    (duplicateIdentifier.check set = set.entries.filterMap fun e =>
      ((typesWith (e.2.action ++ e.2.entity) set.entries).head?.filter (· ≠ e.1)).map fun first => {
        severity := .error
        phase := "validate"
        message := "duplicate identifier '" ++ (e.2.action ++ e.2.entity) ++
          "' (conflicts with '" ++ first ++ "')"
        location := some e.1 }) ∧
    (∀ k, (typesWith k set.entries).Pairwise (· < ·) ∧ ∀ typeName, typeName ∈ typesWith k set.entries ↔
      ∃ c, set.get? typeName = some c ∧ c.action ++ c.entity = k) ∧
    (duplicateIdentifier.check set).length +
      (set.values.map fun c => c.action ++ c.entity).toFinset.card = set.size ∧
    (duplicateIdentifier.check set = [] ↔
      set.values.Pairwise fun c d => c.action ++ c.entity ≠ d.action ++ d.entity) := by
  refine ⟨check_duplicateIdentifier set, fun k => ⟨?_, fun _ => mem_typesWith⟩, ?_,
    duplicateIdentifier_eq_nil_iff⟩
  · exact (List.pairwise_map.mpr set.inKeyOrder).sublist (typesWith_sublist k set.entries)
  · have hlength : (duplicateIdentifier.check set).length + _ = set.size :=
      length_duplicates [] set.entries
    simpa [NameMap.values, Command.identifier, Function.comp_def] using hlength

end Lint

end CommandGen
