import CommandGen.Check.Pipeline
import CommandGen.Proofs.NameMap

/-! What a run that succeeds says of the commands: no lint has found an error in them, and so each
has an identifier of its own. -/
namespace CommandGen

variable {set : CommandSet} {s : RunState}

namespace Lint

/-- What lints report one after another, each told what was reported before its turn. -/
def reports (set : CommandSet) : List Diagnostic → List Lint → List Diagnostic
  | _, [] => []
  | before, l :: rest =>
    let found := (l.checkAfter before set).map l.sign
    found ++ reports set (before ++ found) rest

def ReadsCommands (l : Lint) : Prop := ∀ before set, l.checkAfter before set = l.check set

theorem isError_findings {l : Lint} :
    (∃ d ∈ l.findings set, d.isError = true) ↔ ∃ d ∈ l.check set, d.isError = true := by
  simp [findings, sign, Diagnostic.isError]

theorem reports_eq_flatMap {lints : List Lint} (h : ∀ l ∈ lints, l.ReadsCommands)
    (before : List Diagnostic) :
    reports set before lints = lints.flatMap (·.findings set) := by
  induction lints generalizing before with
  | nil => rfl
  | cons l rest ih =>
    obtain ⟨hl, hrest⟩ := List.forall_mem_cons.mp h
    rw [reports, ih hrest, hl before set, List.flatMap_cons, findings]

theorem builtIn_readsCommands : ∀ l ∈ builtIn, l.ReadsCommands := by
  simp only [builtIn, List.forall_mem_cons]
  exact ⟨fun _ _ => rfl, fun _ _ => rfl, fun _ _ => rfl, fun _ _ => rfl, fun _ _ => rfl, by simp⟩

end Lint

namespace RunState

@[simp] theorem report_nil (s : RunState) : s.report [] = s := by simp [report]

theorem report_report (s : RunState) (found more : List Diagnostic) :
    (s.report found).report more = s.report (found ++ more) := by
  simp [report]

theorem addFindings_eq (s : RunState) (l : Lint) :
    s.addFindings l = s.report ((l.checkAfter s.diagnostics s.commands).map l.sign) := by
  simp [addFindings, report]

theorem foldl_addFindings (s : RunState) (lints : List Lint) :
    lints.foldl addFindings s = s.report (Lint.reports s.commands s.diagnostics lints) := by
  induction lints generalizing s with
  | nil => simp [Lint.reports]
  | cons l rest ih =>
    rw [List.foldl_cons, addFindings_eq, ih, Lint.reports, ← report_report]
    rfl

end RunState

/-- What the two phases that are built in come to: where the first finds an error, or there was one
before, no other phase is run. -/
theorem Pipeline.runIn_eq (p : Pipeline) (s : RunState) : p.runIn s =
    let checked := s.report (Lint.reports s.commands s.diagnostics p.lints)
    if checked.hasErrors then (checked, some (.invalid checked.errors.length))
    else runPhases p.extra { checked with index := some (ActionIndex.ofCommands s.commands) } := by
  dsimp only
  have hrun : (Phase.validate p.lints).run s =
      (let t := s.report (Lint.reports s.commands s.diagnostics p.lints)
      (t, if t.hasErrors then some (.invalid t.errors.length) else none)) := by
    rw [← RunState.foldl_addFindings]
    rfl
  have hcommands :
      (s.report (Lint.reports s.commands s.diagnostics p.lints)).commands = s.commands := rfl
  generalize s.report (Lint.reports s.commands s.diagnostics p.lints) = checked at hrun hcommands ⊢
  cases h : checked.hasErrors with
  | true => simp [runIn, phases, runPhases, hrun, h]
  | false => simp [runIn, phases, runPhases, hrun, h, Phase.analyze, hcommands]

theorem Pipeline.runIn_commands (set : CommandSet) : ({} : Pipeline).runIn ⟨set, none, []⟩ =
    let found := Lint.builtIn.flatMap (·.findings set)
    if found.any (·.isError) then
      (⟨set, none, found⟩, some (.invalid (found.filter (·.isError)).length))
    else (⟨set, some (ActionIndex.ofCommands set), found⟩, none) := by
  rw [runIn_eq, Lint.reports_eq_flatMap Lint.builtIn_readsCommands]
  rfl

theorem Pipeline.run_eq_ok_iff : ({} : Pipeline).run set = .ok s ↔
    (∀ l ∈ Lint.builtIn, ∀ d ∈ l.check set, d.isError = false) ∧
      s = ⟨set, some (ActionIndex.ofCommands set), Lint.builtIn.flatMap (·.findings set)⟩ := by
  have herr : (Lint.builtIn.flatMap (·.findings set)).any (·.isError) = false ↔
      ∀ l ∈ Lint.builtIn, ∀ d ∈ l.check set, d.isError = false := by
    rw [← Bool.not_eq_true, List.any_flatMap, List.any_eq_true]
    simp only [List.any_eq_true, Lint.isError_findings]
    simp
  rw [← herr, run, runIn_commands]
  cases h : (Lint.builtIn.flatMap (·.findings set)).any (·.isError) with
  | true => simp [h]
  | false => simp [h, eq_comm]

theorem Pipeline.runIn_cases (set : CommandSet) :
    (∃ s f, ({} : Pipeline).runIn ⟨set, none, []⟩ = (s, some f) ∧ s.hasErrors = true) ∨
      ∃ s, ({} : Pipeline).runIn ⟨set, none, []⟩ = (s, none) ∧ s.hasErrors = false ∧
        ({} : Pipeline).run set = .ok s := by
  rw [run, runIn_commands]
  cases h : (Lint.builtIn.flatMap (·.findings set)).any (·.isError) with
  | true =>
    simp only [h, if_true]
    exact .inl ⟨_, _, rfl, h⟩
  | false =>
    simp only [h, Bool.false_eq_true, if_false]
    exact .inr ⟨_, rfl, h, rfl⟩

namespace Lint

variable {seen : List (String × String)} {entries : List (String × Command)}

theorem exists_of_mem_duplicates {d : Diagnostic} (h : d ∈ duplicates seen entries) :
    ∃ typeName message, d = report .error typeName message := by
  induction entries generalizing seen with
  | nil => simp [duplicates] at h
  | cons e rest ih =>
    unfold duplicates at h
    split at h
    · rcases List.mem_cons.mp h with rfl | h
      · exact ⟨_, _, rfl⟩
      · exact ih h
    · exact ih h

theorem duplicates_eq_nil_iff : duplicates seen entries = [] ↔
    (∀ e ∈ entries, e.2.identifier ∉ seen.map (·.1)) ∧ (entries.map (·.2.identifier)).Nodup := by
  induction entries generalizing seen with
  | nil => simp [duplicates]
  | cons e rest ih =>
    rw [duplicates, List.forall_mem_cons, List.map_cons, List.nodup_cons]
    split
    · rename_i first hfirst
      have hseen : e.2.identifier ∈ seen.map (·.1) := by
        by_contra hn
        rw [lookup_eq_none_iff_keys.mpr hn] at hfirst
        cases hfirst
      simp [hseen]
    · rename_i hnone
      have hnew := lookup_eq_none_iff_keys.mp hnone
      rw [ih]
      constructor
      · rintro ⟨hrest, hnodup⟩
        refine ⟨⟨hnew, fun x hx hm => hrest x hx (by simp [hm])⟩, fun hm => ?_, hnodup⟩
        obtain ⟨x, hx, he⟩ := List.mem_map.mp hm
        exact hrest x hx (by simp [he])
      · rintro ⟨⟨-, hrest⟩, hfree, hnodup⟩
        refine ⟨fun x hx hm => ?_, hnodup⟩
        rcases List.mem_cons.mp hm with he | hm
        · exact hfree (List.mem_map.mpr ⟨x, hx, he⟩)
        · exact hrest x hx hm

end Lint

theorem nodup_identifiers (h : ({} : Pipeline).run set = .ok s) :
    (set.values.map (·.identifier)).Nodup := by
  have hd : ∀ d ∈ Lint.duplicates [] set.entries, d.isError = false :=
    (Pipeline.run_eq_ok_iff.mp h).1 Lint.duplicateIdentifier (by simp [Lint.builtIn])
  have hnil : Lint.duplicates [] set.entries = [] := by
    refine List.eq_nil_iff_forall_not_mem.mpr fun d hm => ?_
    obtain ⟨_, _, rfl⟩ := Lint.exists_of_mem_duplicates hm
    cases hd _ hm
  have hnodup := (Lint.duplicates_eq_nil_iff.mp hnil).2
  simpa [NameMap.values, List.map_map, Function.comp_def] using hnodup

end CommandGen
