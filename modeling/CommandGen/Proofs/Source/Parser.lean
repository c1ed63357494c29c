import CommandGen.Source.Grammar.Parser
import Mathlib.Data.List.Basic

/-! What a parser takes and leaves, by its steps. -/
namespace CommandGen.Source

namespace Parser

variable {α β : Type} {ts mid rest : List Tree} {a : α} {b : β} {p : Parser α} {q : α → Parser β}

@[simp] theorem run_pure : (pure a : Parser α).run ts = some (a, ts) := rfl

@[simp] theorem run_read : (read : Parser (List Tree)).run ts = some (ts, ts) := rfl

theorem run_bind : (p >>= q).run ts = (p.run ts).bind fun (a, rest) => (q a).run rest := by
  dsimp only [bind]
  cases p.run ts <;> rfl

theorem run_bind_of_some (h : p.run ts = some (a, mid)) : (p >>= q).run ts = (q a).run mid := by
  rw [run_bind, h]
  rfl

theorem run_bind_eq_some : (p >>= q).run ts = some (b, rest) ↔
    ∃ a mid, p.run ts = some (a, mid) ∧ (q a).run mid = some (b, rest) := by
  simp [run_bind, Option.bind_eq_some_iff]

theorem run_guard_eq_some {c : Prop} [Decidable c] :
    (guard c : Parser Unit).run ts = some ((), rest) ↔
    c ∧ rest = ts := by
  by_cases h : c <;> simp [guard, h, eq_comm]

end Parser

variable {α : Type} {ts rest : List Tree} {a : α} {p : Parser α} {d : Delimiter}

theorem run_takeTree_eq_some {t : Tree} : takeTree.run ts = some (t, rest) ↔ ts = t :: rest := by
  cases ts <;> simp [takeTree]

theorem run_within_eq_some : (within d p).run ts = some (a, rest) ↔
    ∃ content span, ts = .group d content span :: rest ∧ p.run content = some (a, []) := by
  rw [within, Parser.run_bind_eq_some]
  constructor
  · rintro ⟨t, mid, ht, h⟩
    obtain rfl := run_takeTree_eq_some.mp ht
    split at h
    · rename_i e content span
      obtain ⟨_, after, hguard, hall⟩ := Parser.run_bind_eq_some.mp h
      obtain ⟨rfl, rfl⟩ := Parser.run_guard_eq_some.mp hguard
      split at hall
      · rename_i found hp
        obtain ⟨rfl, rfl⟩ : found = a ∧ after = rest := by simpa using hall
        exact ⟨content, span, rfl, hp⟩
      · cases hall
    · cases h
  · rintro ⟨content, span, rfl, hp⟩
    refine ⟨_, rest, run_takeTree_eq_some.mpr rfl, ?_⟩
    simp [hp, guard, Parser.run_bind]

theorem run_anyWord_eq_some {text : String} {span : Span} :
    anyWord.run ts = some ((text, span), rest) ↔ ts = .word text span :: rest := by
  rw [anyWord, Parser.run_bind_eq_some]
  constructor
  · rintro ⟨t, mid, ht, h⟩
    obtain rfl := run_takeTree_eq_some.mp ht
    split at h
    · cases h
      rfl
    · cases h
  · rintro rfl
    exact ⟨_, _, rfl, rfl⟩

theorem run_repeatUntil_single (hne : ts ≠ []) (h : p.run ts = some (a, [])) :
    (repeatUntil List.isEmpty p).run ts = some ([a], []) := by
  obtain ⟨t, rest, rfl⟩ := List.exists_cons_of_ne_nil hne
  have hround : (repeatFor List.isEmpty p (rest.length + 1)).run (t :: rest) = some ([a], []) :=
    (Parser.run_bind_of_some h).trans (by cases rest <;> rfl)
  exact hround

theorem run_commaList_single (hne : ts ≠ []) (h : p.run ts = some (a, [])) :
    (commaList p).run ts = some ([a], []) := by
  obtain ⟨t, rest, rfl⟩ := List.exists_cons_of_ne_nil hne
  have hround :
      (separatedFor List.isEmpty (eat1 ',') p (rest.length + 1)).run (t :: rest) = some ([a], []) :=
    Parser.run_bind_of_some h
  exact hround

end CommandGen.Source
