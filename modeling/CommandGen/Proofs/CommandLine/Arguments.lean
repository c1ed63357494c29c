import CommandGen.CommandLine.Run
import Mathlib.Tactic.SplitIfs

/-! Arguments for a check and for a dry run are read in step: the same ones are refused for both,
and from the others both get the same directory and settings. -/
namespace CommandGen

/-- Two readings end alike if they come to results that are related, or both stop with one exit
code. -/
def EndAlike {α β : Type} (r : α → β → Prop) : Except Stop α → Except Stop β → Prop
  | .ok a, .ok b => r a b
  | .error s, .error u => s.outcome.code = u.outcome.code
  | .ok _, .error _ => False
  | .error _, .ok _ => False

theorem EndAlike.cases {α β : Type} {r : α → β → Prop} {x : Except Stop α} {y : Except Stop β}
    (h : EndAlike r x y) : (∃ s u, x = .error s ∧ y = .error u ∧ s.outcome.code = u.outcome.code) ∨
      ∃ a b, x = .ok a ∧ y = .ok b ∧ r a b := by
  cases x with
  | error s =>
    cases y with
    | error u => exact .inl ⟨s, u, rfl, rfl, h⟩
    | ok b => cases h
  | ok a =>
    cases y with
    | error u => cases h
    | ok b => exact .inr ⟨a, b, rfl, rfl, h⟩

theorem EndAlike.bind {α β γ δ : Type} {r : α → β → Prop} {q : γ → δ → Prop} {x : Except Stop α}
    {y : Except Stop β} {f : α → Except Stop γ} {g : β → Except Stop δ} (h : EndAlike r x y)
    (hf : ∀ a b, r a b → EndAlike q (f a) (g b)) : EndAlike q (x >>= f) (y >>= g) := by
  obtain ⟨s, u, rfl, rfl, hcode⟩ | ⟨a, b, rfl, rfl, hab⟩ := h.cases
  · exact hcode
  · exact hf a b hab

theorem Verb.long?_generate (name : String) : Verb.generate.long? name = Verb.check.long? name ∨
    Verb.check.long? name = none ∧ Verb.generate.long? name = some .dryRun := by
  by_cases hdry : name = "dry-run"
  · subst hdry
    exact .inr (by decide)
  · have hne : (Switch.dryRun.long = name) = False := by simp [Switch.long, Ne.symm hdry]
    simp [Verb.long?, Verb.switches, List.find?_cons, hne]

theorem Verb.short?_generate (c : Char) : Verb.generate.short? c = Verb.check.short? c := by
  simp [Verb.short?, Verb.switches, List.find?_cons, Switch.short?]

namespace Arguments

variable {a b : Arguments}

def InStep (a b : Arguments) : Prop :=
  a.verb = .check ∧ b = { a with verb := .generate, dryRun := true }

theorem InStep.generate (h : InStep a b) : b.verb = .generate := by rw [h.2]

theorem inStep_addPositional (h : InStep a b) (value : String) :
    EndAlike InStep (a.addPositional value) (b.addPositional value) := by
  obtain ⟨hverb, rfl⟩ := h
  unfold addPositional
  simp only [hverb]
  split_ifs <;> simp [EndAlike, InStep, Stop.outcome, unexpected]

theorem inStep_addConfig (h : InStep a b) (value : String) :
    EndAlike InStep (a.addConfig value) (b.addConfig value) := by
  obtain ⟨hverb, rfl⟩ := h
  unfold addConfig
  split_ifs <;> simp [EndAlike, InStep, hverb]

theorem inStep_addSwitch (h : InStep a b) {s : Switch} (hs : s ∈ Verb.check.switches) :
    EndAlike InStep (a.addSwitch s) (b.addSwitch s) := by
  obtain ⟨hverb, rfl⟩ := h
  simp only [Verb.switches, List.mem_cons, List.not_mem_nil, or_false] at hs
  obtain rfl | rfl | rfl := hs <;> simp [addSwitch, EndAlike, InStep, hverb, Stop.outcome]

def PairInStep (p q : Arguments × Bool) : Prop := InStep p.1 q.1 ∧ p.2 = q.2

theorem inStep_addLong (h : InStep a b) (text : List Char) :
    EndAlike PairInStep (a.addLong text) (b.addLong text) := by
  unfold addLong
  generalize cutValue text = cut
  obtain ⟨name, value⟩ := cut
  simp only [h.1, h.generate]
  obtain hsame | ⟨hnone, hdry⟩ := Verb.long?_generate (String.ofList name)
  · rw [hsame]
    cases hs : Verb.check.long? (String.ofList name) with
    | none => rfl
    | some s =>
      have hswitch :
          EndAlike PairInStep (do return (← a.addSwitch s, false))
            (do return (← b.addSwitch s, false)) :=
        (inStep_addSwitch h (List.mem_of_find?_eq_some hs)).bind fun c d hcd => ⟨hcd, rfl⟩
      cases value with
      | none =>
        cases s with
        | config => exact ⟨h, rfl⟩
        | _ => exact hswitch
      | some value =>
        cases s with
        | config => exact (inStep_addConfig h _).bind fun c d hcd => ⟨hcd, rfl⟩
        | _ => rfl
  · -- A check does not know the switch, and a dry run has it already: both are refused.
    rw [hnone, hdry]
    obtain ⟨-, rfl⟩ := h
    cases value with
    | none => rfl
    | some value => rfl

theorem inStep_addShort (h : InStep a b) (letters : List Char) :
    EndAlike PairInStep (a.addShort letters) (b.addShort letters) := by
  induction letters generalizing a b with
  | nil => exact ⟨h, rfl⟩
  | cons c rest ih =>
    unfold addShort
    rw [h.1, h.generate, Verb.short?_generate]
    cases hs : Verb.check.short? c with
    | none => rfl
    | some s =>
      have hswitch := (inStep_addSwitch h (List.mem_of_find?_eq_some hs)).bind fun c d hcd => ih hcd
      cases s with
      | config =>
        dsimp only
        split
        · exact ⟨h, rfl⟩
        · exact (inStep_addConfig h _).bind fun c d hcd => ⟨hcd, rfl⟩
        · exact (inStep_addConfig h _).bind fun c d hcd => ⟨hcd, rfl⟩
      | _ => exact hswitch

theorem inStep_addAll (h : InStep a b) (args : List String) :
    EndAlike InStep (a.addAll args) (b.addAll args) := by
  induction args generalizing a b with
  | nil => exact h
  | cons arg rest ih => exact (inStep_addPositional h arg).bind fun c d hcd => ih hcd

theorem inStep_read (h : InStep a b) (pending : Bool) (args : List String) :
    EndAlike InStep (a.read pending args) (b.read pending args) := by
  induction args generalizing a b pending with
  | nil =>
    unfold read
    split
    · rfl
    · exact h
  | cons arg rest ih =>
    have hnext (p q : Arguments × Bool) (hpq : PairInStep p q) :
        EndAlike InStep (p.1.read p.2 rest) (q.1.read q.2 rest) := by
      rw [← hpq.2]
      exact ih hpq.1 p.2
    unfold read
    split
    · split
      · rfl
      · exact (inStep_addConfig h arg).bind fun c d hcd => ih hcd false
    · split
      · exact inStep_addAll h rest
      · exact (inStep_addLong h _).bind hnext
      · exact (inStep_addShort h _).bind hnext
      · exact (inStep_addPositional h arg).bind fun c d hcd => ih hcd false

theorem addLong_dryRun (h : a.verb = .generate) (hnew : a.dryRun = false) :
    a.addLong "dry-run".toList = .ok ({ a with dryRun := true }, false) := by
  have hcut : cutValue "dry-run".toList = ("dry-run".toList, none) := by decide
  have hswitch : a.verb.long? (String.ofList "dry-run".toList) = some .dryRun := by
    rw [h]
    decide
  have hadd : a.addSwitch .dryRun = .ok { a with dryRun := true } := by simp [addSwitch, hnew]
  unfold addLong
  rw [hcut]
  dsimp only
  rw [hswitch]
  dsimp only
  rw [hadd]
  rfl

theorem read_dryRun (h : a.verb = .generate) (hnew : a.dryRun = false) (rest : List String) :
    a.read false ("--dry-run" :: rest) = { a with dryRun := true }.read false rest := by
  change (a.addLong "dry-run".toList).bind (fun p => p.1.read p.2 rest) = _
  rw [addLong_dryRun h hnew]
  rfl

theorem read_positional {arg : String} (h : isSwitch arg = false) (rest : List String) :
    a.read false (arg :: rest) = (do (← a.addPositional arg).read false rest) := by
  unfold isSwitch at h
  split at h
  · cases h
  · rename_i hno
    rw [read, if_neg Bool.false_ne_true]
    split
    · exact absurd ‹_› (hno _ _)
    · exact absurd ‹_› (hno _ _)
    · exact absurd ‹_› (hno _ _)
    · rfl

end Arguments

open Arguments

/-- A command line for a check, and the same one for a dry run, come to requests for the same
thing. -/
def RequestsInStep (r q : Request) : Prop :=
  ∃ dir config, r = .check dir config ∧ q = .generate dir config true

/-- Arguments with the switch for a dry run put in, in front of them or behind the directory. -/
inductive WithDryRun : List String → List String → Prop where
  | front (args : List String) : WithDryRun args ("--dry-run" :: args)
  | behind (dir : String) (args : List String) (h : isSwitch dir = false) :
    WithDryRun (dir :: args) (dir :: "--dry-run" :: args)

theorem read_withDryRun {args dryArgs : List String} (h : WithDryRun args dryArgs) :
    Arguments.read { verb := .generate } false dryArgs =
      Arguments.read { verb := .generate, dryRun := true } false args := by
  cases h with
  | front args => exact read_dryRun rfl rfl args
  | behind dir args h =>
    rw [read_positional h, read_positional h]
    by_cases hdir : dir = ""
    · simp [addPositional, hdir, bind, Except.bind]
    · have hadd (dryRun : Bool) : addPositional { verb := .generate, dryRun := dryRun } dir =
          .ok { verb := .generate, dryRun := dryRun, positional := some dir } := by
        simp [addPositional, hdir]
      rw [hadd, hadd]
      exact @read_dryRun { verb := .generate, positional := some dir } rfl rfl args

theorem parseArguments_inStep {args dryArgs : List String} (h : WithDryRun args dryArgs) :
    EndAlike RequestsInStep (parseArguments ("check" :: args))
      (parseArguments ("generate" :: dryArgs)) := by
  have hcheck : parseArguments ("check" :: args) =
      (do (← Arguments.read { verb := .check } false args).request) := rfl
  have hdry : parseArguments ("generate" :: dryArgs) =
      (do (← Arguments.read { verb := .generate } false dryArgs).request) := rfl
  rw [hcheck, hdry, read_withDryRun h]
  refine (inStep_read ⟨rfl, rfl⟩ false args).bind fun a b hab => ?_
  obtain ⟨hverb, rfl⟩ := hab
  unfold request
  rw [hverb]
  exact ⟨_, _, rfl, rfl⟩

end CommandGen
