import CommandGen.Proofs.Check.Pipeline

/-! What a run adds to the state that it starts from. All that is reported is appended; phases that
only report are run one after another, up to and including the first that stops the run. -/
namespace CommandGen

/-- A phase that reports, and may then stop the run, but changes nothing. -/
def Phase.OnlyReports (q : Phase) : Prop := ∀ s, ∃ found, (q.run s).1 = s.report found

/-- How phases that only report come to an outcome: `done` are those that were run, each with what
it reported at its turn. None but the last of them has stopped the run, and if that has not either,
all were run. -/
structure IsReportOf (phases : List Phase) (s : RunState) (outcome : RunState × Option RunFailure)
    (done : List (Phase × List Diagnostic)) : Prop where
  first : done.map (·.1) <+: phases
  state : outcome.1 = s.report (done.flatMap (·.2))
  each : ∀ before q found after, done = before ++ (q, found) :: after →
    q.run (s.report (before.flatMap (·.2))) =
      (s.report (before.flatMap (·.2) ++ found), if after.isEmpty then outcome.2 else none)
  stopped : outcome.2 ≠ none → done ≠ []
  passed : outcome.2 = none → done.map (·.1) = phases

variable {p : Pipeline} {q : Phase} {phases : List Phase} {s : RunState}
  {outcome : RunState × Option RunFailure} {done : List (Phase × List Diagnostic)}
  {found : List Diagnostic} {f : RunFailure}

theorem Phase.onlyReports_reporting (name description : String) (found : List Diagnostic)
    (failure : Option String) :
    (reporting name description found failure).OnlyReports :=
  fun _ => ⟨found, rfl⟩

theorem isReportOf_nil (s : RunState) : IsReportOf [] s (s, none) [] where
  first := List.prefix_refl _
  state := by simp
  each before q found after h := by simp at h
  stopped h := absurd rfl h
  passed _ := rfl

theorem isReportOf_stop (h : q.run s = (s.report found, some f)) :
    IsReportOf (q :: phases) s (s.report found, some f) [(q, found)] where
  first := ⟨phases, rfl⟩
  state := by simp
  each before q' found' after he := by
    cases before with
    | nil =>
      obtain ⟨⟨rfl, rfl⟩, rfl⟩ := by simpa using he
      simpa using h
    | cons x before => simp at he
  stopped _ := by simp
  passed h := by cases h

theorem IsReportOf.cons (h : q.run s = (s.report found, none))
    (hrest : IsReportOf phases (s.report found) outcome done) :
    IsReportOf (q :: phases) s outcome ((q, found) :: done) where
  first := List.cons_prefix_cons.mpr ⟨rfl, hrest.first⟩
  state := by rw [hrest.state, RunState.report_report, List.flatMap_cons]
  each before q' found' after he := by
    cases before with
    | nil =>
      obtain ⟨⟨rfl, rfl⟩, rfl⟩ := by simpa using he
      -- `q` is the last one only if nothing was run after it, and then the run has passed
      cases done with
      | nil =>
        have hpassed : outcome.2 = none := by
          by_contra hne
          exact hrest.stopped hne rfl
        simpa [hpassed] using h
      | cons x more => simpa using h
    | cons x before =>
      obtain ⟨rfl, rfl⟩ := by simpa using he
      have heach := hrest.each before q' found' after rfl
      rw [RunState.report_report, RunState.report_report] at heach
      rw [List.flatMap_cons, List.append_assoc]
      exact heach
  stopped _ := List.cons_ne_nil _ _
  passed h := by rw [List.map_cons, hrest.passed h]

/-- Phases that only report are run up to and including the first that stops the run. -/
theorem exists_isReportOf (h : ∀ q ∈ phases, q.OnlyReports) (s : RunState) :
    ∃ done, IsReportOf phases s (runPhases phases s) done := by
  induction phases generalizing s with
  | nil => exact ⟨[], isReportOf_nil s⟩
  | cons q rest ih =>
    obtain ⟨found, hfound⟩ := h q (by simp) s
    cases hstop : (q.run s).2 with
    | some f =>
      have hrun : q.run s = (s.report found, some f) := Prod.ext hfound hstop
      rw [runPhases, hrun]
      exact ⟨_, isReportOf_stop hrun⟩
    | none =>
      have hrun : q.run s = (s.report found, none) := Prod.ext hfound hstop
      obtain ⟨done, hdone⟩ := ih (fun q hq => h q (by simp [hq])) (s.report found)
      rw [runPhases, hrun]
      exact ⟨_, hdone.cons hrun⟩

theorem Pipeline.run_eq_ok_iff_runIn {set : CommandSet} {t : RunState} :
    p.run set = .ok t ↔ p.runIn ⟨set, none, []⟩ = (t, none) := by
  unfold run
  split
  · rename_i hrun
    simp [hrun]
  · rename_i hrun
    simp [hrun]

theorem Lint.exists_parts (set : CommandSet) (lints : List Lint) (before : List Diagnostic) :
    ∃ parts : List (Lint × List Diagnostic), parts.map (·.1) = lints ∧
      reports set before lints = parts.flatMap (·.2) ∧
      ∀ earlier l part later, parts = earlier ++ (l, part) :: later →
        part = (l.checkAfter (before ++ earlier.flatMap (·.2)) set).map l.sign := by
  induction lints generalizing before with
  | nil => exact ⟨[], rfl, rfl, by simp⟩
  | cons l rest ih =>
    obtain ⟨parts, hlints, hreports, hparts⟩ := ih (before ++ (l.checkAfter before set).map l.sign)
    refine ⟨(l, (l.checkAfter before set).map l.sign) :: parts,
      by simp [hlints], by simp [reports, hreports],
      fun earlier l' part later he => ?_⟩
    cases earlier with
    | nil =>
      obtain ⟨⟨rfl, rfl⟩, -⟩ := by simpa using he
      simp
    | cons first earlier =>
      obtain ⟨rfl, hrest⟩ := List.cons.inj he
      simpa using hparts earlier l' part later hrest

theorem RunState.hasErrors_iff : s.hasErrors = true ↔ s.errors ≠ [] := by
  simp [hasErrors, errors]

/-- What a run adds to a state whose further phases only report: the parts of the lints, each signed
and told what was reported before its turn, follow the findings that were there. Where one of all
these is an error, the run ends there; otherwise the commands are indexed, and the other phases
report. -/
theorem Pipeline.runIn_reports (hextra : ∀ q ∈ p.extra, q.OnlyReports) (s : RunState) :
    ∃ parts : List (Lint × List Diagnostic), parts.map (·.1) = p.lints ∧
      (∀ earlier l part later, parts = earlier ++ (l, part) :: later →
        part = (l.checkAfter (s.diagnostics ++ earlier.flatMap (·.2)) s.commands).map fun d =>
          { d with lint := some (d.lint.getD l.name) }) ∧
      let checked := { s with diagnostics := s.diagnostics ++ parts.flatMap (·.2) }
      let indexed := { checked with index := some (ActionIndex.ofCommands s.commands) }
      let errors := checked.diagnostics.filter fun d => d.severity = .error
      (p.runIn s).1.commands = s.commands ∧
      checked.diagnostics <+: (p.runIn s).1.diagnostics ∧
      (errors ≠ [] → (p.runIn s).1 = checked ∧
        (p.runIn s).2.map (·.message) =
          some ("validation failed with " ++ toString errors.length ++ " error(s)") ∧
        ∀ more, ({ p with extra := more } : Pipeline).runIn s = p.runIn s) ∧
      (errors = [] → ∃ done, IsReportOf p.extra indexed (p.runIn s) done) ∧
      ∀ set t, p.run set = .ok t ↔ p.runIn ⟨set, none, []⟩ = (t, none) := by
  obtain ⟨parts, hlints, hreports, hparts⟩ := Lint.exists_parts s.commands p.lints s.diagnostics
  refine ⟨parts, hlints, hparts, ?_⟩
  intro checked indexed errors
  -- for any further phases, as none of them counts where the check fails
  have hrun (more : List Phase) : ({ p with extra := more } : Pipeline).runIn s =
      if checked.hasErrors then (checked, some (.invalid checked.errors.length))
      else runPhases more indexed := by
    rw [runIn_eq, hreports]
    rfl
  by_cases herror : errors ≠ []
  · have hstop (more : List Phase) : ({ p with extra := more } : Pipeline).runIn s =
        (checked, some (.invalid errors.length)) :=
      (hrun more).trans (if_pos (RunState.hasErrors_iff.mpr herror))
    have hend : p.runIn s = (checked, some (.invalid errors.length)) := hstop p.extra
    have hstate : (p.runIn s).1 = checked := congrArg Prod.fst hend
    have hfailure : (p.runIn s).2 = some (.invalid errors.length) := congrArg Prod.snd hend
    have hcommands : checked.commands = s.commands := rfl
    refine ⟨hstate ▸ hcommands, ?_, fun _ => ⟨hstate, ?_, ?_⟩, fun hnone => absurd hnone herror,
      fun _ _ => run_eq_ok_iff_runIn⟩
    · exact hstate ▸ List.prefix_refl _
    · exact congrArg (Option.map RunFailure.message) hfailure
    · exact fun more => (hstop more).trans hend.symm
  · have hend : p.runIn s = runPhases p.extra indexed :=
      (hrun p.extra).trans (if_neg (mt RunState.hasErrors_iff.mp herror))
    obtain ⟨done, hdone⟩ := exists_isReportOf hextra indexed
    rw [← hend] at hdone
    have hcommands : (indexed.report (done.flatMap (·.2))).commands = s.commands := rfl
    refine ⟨hdone.state ▸ hcommands, ?_, fun h => absurd h herror, fun _ => ⟨done, hdone⟩,
      fun _ _ => run_eq_ok_iff_runIn⟩
    exact hdone.state ▸ List.prefix_append _ _

/-- A lint that has signed one of its findings, a lint and a phase that report how much they were
told, and a phase that stops the run; then the same after an error. -/
theorem Pipeline.runIn_reports_until_stopped :
    let lint : Lint := ⟨"both", "", fun _ _ =>
      [⟨.info, "validate", "signed", some "own", none⟩,
        ⟨.warning, "validate", "not signed", none, none⟩]⟩
    let told : Lint := ⟨"told", "", fun before _ =>
      [⟨.info, "validate", toString before.length, none, none⟩]⟩
    let count : Phase := ⟨"count", "", fun s =>
      (s.report [⟨.info, "count", toString s.diagnostics.length, none, none⟩], none)⟩
    let stop := Phase.reporting "stop" ""
        [⟨.error, "stop", "reported", none, none⟩] (some "stopped")
    let p : Pipeline := ⟨[lint, told], [count, stop, count]⟩
    let s : RunState := ⟨.empty, none, [⟨.warning, "before", "first", none, none⟩]⟩
    let failed : RunState := ⟨.empty, none, [⟨.error, "before", "first", none, none⟩]⟩
    (∀ q ∈ p.extra, q.OnlyReports) ∧
      [⟨.warning, "before", "first", none, none⟩, ⟨.info, "validate", "signed", some "own", none⟩,
        ⟨.warning, "validate", "not signed", some "both", none⟩,
        ⟨.info, "validate", "3", some "told", none⟩] <+:
          (p.runIn s).1.diagnostics ∧
      (p.runIn s).1.diagnostics.map (·.message) =
        ["first", "signed", "not signed", "3", "4", "reported"] ∧
      (p.runIn s).2 = some (.phase "stopped") ∧
      (p.runIn failed).2.map (·.message) = some "validation failed with 1 error(s)" := by
  intro lint told count stop p s failed
  have hextra : ∀ q ∈ p.extra, q.OnlyReports := by
    have hcount : count.OnlyReports := fun s => ⟨_, rfl⟩
    have hstop : stop.OnlyReports := Phase.onlyReports_reporting _ _ _ _
    simp [p, hcount, hstop]
  have htwo (parts : List (Lint × List Diagnostic)) (h : parts.map (·.1) = [lint, told]) :
      ∃ a b, parts = [(lint, a), (told, b)] := by
    obtain ⟨⟨l, a⟩, rest, rfl, rfl, hrest⟩ := List.map_eq_cons_iff.mp h
    obtain ⟨⟨m, b⟩, rfl, rfl⟩ := List.map_eq_singleton_iff.mp hrest
    exact ⟨a, b, rfl⟩
  obtain ⟨parts, hlints, hparts, -, hprefix, -⟩ := runIn_reports hextra s
  obtain ⟨a, b, rfl⟩ := htwo parts hlints
  obtain rfl := hparts [] lint a [(told, b)] rfl
  obtain rfl := hparts [_] told b [] rfl
  obtain ⟨others, hothers, hsigned, -, -, hfailed, -⟩ := runIn_reports hextra failed
  obtain ⟨a, b, rfl⟩ := htwo others hothers
  obtain rfl := hsigned [] lint a [(told, b)] rfl
  obtain rfl := hsigned [_] told b [] rfl
  obtain ⟨-, hmessage, -⟩ := hfailed (by decide +kernel)
  exact ⟨hextra, List.IsPrefix.trans (by decide +kernel) hprefix, by decide +kernel, by decide +kernel,
    hmessage.trans (by decide +kernel)⟩

end CommandGen
