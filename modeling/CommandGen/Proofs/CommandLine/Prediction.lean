import CommandGen.Proofs.CommandLine.Arguments
import CommandGen.Proofs.Files.Reading
import CommandGen.Proofs.Output.Behaviour

/-! A check tells whether a dry run will fail. Checks, lists and dry runs only read: no command line
changes a file unless it asks for files to be written. -/
namespace CommandGen

open FileProgram

theorem readsOnly_loadAndScan (dir : String) (config : Option String) :
    (loadAndScan dir config).ReadsOnly := by
  refine (Settings.readsOnly_load dir config).bind fun loaded => ?_
  cases loaded with
  | error e => exact readsOnly_pure _
  | ok settings =>
    refine (readsOnly_scanDirectory _ _).bind fun scanned => ?_
    cases scanned with
    | error e => exact readsOnly_pure _
    | ok found => exact readsOnly_pure _

theorem readsOnly_runCheck (dir : String) (config : Option String) :
    (runCheck dir config).ReadsOnly := by
  refine (readsOnly_loadAndScan dir config).bind fun scanned => ?_
  cases scanned with
  | error report => exact readsOnly_pure _
  | ok scanned =>
    dsimp only
    generalize Pipeline.runIn _ _ = outcome
    obtain ⟨state, failure⟩ := outcome
    dsimp only
    split
    · exact readsOnly_pure _
    · split
      · exact readsOnly_pure _
      · exact readsOnly_pure _

theorem readsOnly_runList (dir : String) (config : Option String) (json : Bool) :
    (runList dir config json).ReadsOnly := by
  refine (readsOnly_loadAndScan dir config).bind fun scanned => ?_
  cases scanned with
  | error report => exact readsOnly_pure _
  | ok scanned => exact readsOnly_pure _

theorem readsOnly_dryRun (dir : String) (config : Option String) :
    (runGenerate dir config true).ReadsOnly := by
  refine (readsOnly_loadAndScan dir config).bind fun scanned => ?_
  cases scanned with
  | error report => exact readsOnly_pure _
  | ok scanned =>
    dsimp only
    generalize Pipeline.runIn _ _ = outcome
    obtain ⟨state, failure⟩ := outcome
    dsimp only
    split
    · exact readsOnly_pure _
    · rw [if_pos rfl]
      split
      · exact readsOnly_pure _
      · exact readsOnly_pure _

theorem Request.readsOnly_run {r : Request} (h : ∀ dir config, r ≠ .generate dir config false) :
    r.run.ReadsOnly := by
  cases r with
  | generate dir config dryRun =>
    cases dryRun with
    | true => exact readsOnly_dryRun dir config
    | false => exact absurd rfl (h dir config)
  | check dir config => exact readsOnly_runCheck dir config
  | list dir config json => exact readsOnly_runList dir config json
  | completions shell => exact readsOnly_pure _

theorem readsOnly_runArguments {args : List String}
    (h : ∀ dir config, parseArguments args ≠ .ok (.generate dir config false)) :
    (runArguments args).ReadsOnly := by
  unfold runArguments
  cases hparse : parseArguments args with
  | error stop => exact readsOnly_pure _
  | ok request => exact Request.readsOnly_run fun dir config hr => h dir config (by rw [hparse, hr])

/-- A dry run ends as a check does: if the run of the phases stops, it has reported an error, and
otherwise all files can be rendered. -/
theorem code_runCheck (dir : String) (config : Option String) (t : FileTree) :
    ((runCheck dir config).run t).1.code = ((runGenerate dir config true).run t).1.code := by
  obtain ⟨r, hr⟩ := (readsOnly_loadAndScan dir config).exists_run t
  simp only [runCheck, runGenerate, run_bind, hr]
  cases r with
  | error report => rfl
  | ok scanned =>
    obtain ⟨settings, found⟩ := scanned
    obtain ⟨s, f, hrun, herror⟩ | ⟨s, hrun, hclean, hok⟩ :=
      Pipeline.runIn_cases (CommandSet.ofFound found)
    · simp [hrun, herror]
    · obtain ⟨files, hfiles⟩ := files_of_run hok settings ""
      simp [hrun, hclean, Generator.preview, hfiles]

theorem code_runArguments {args dryArgs : List String}
    (h : WithDryRun args dryArgs) (t : FileTree) :
    ((runArguments ("check" :: args)).run t).1.code =
      ((runArguments ("generate" :: dryArgs)).run t).1.code := by
  unfold runArguments
  obtain ⟨s, u, hcheck, hdry, hcode⟩ | ⟨r, q, hcheck, hdry, hrq⟩ := (parseArguments_inStep h).cases
  · rw [hcheck, hdry]
    exact hcode
  · obtain ⟨dir, config, rfl, rfl⟩ := hrq
    rw [hcheck, hdry]
    exact code_runCheck dir config t

theorem not_writing_of_withDryRun {args dryArgs : List String}
    (h : WithDryRun args dryArgs) (dir : String) (config : Option String) :
    parseArguments ("check" :: args) ≠ .ok (.generate dir config false) ∧
      parseArguments ("generate" :: dryArgs) ≠ .ok (.generate dir config false) := by
  obtain ⟨s, u, hcheck, hdry, -⟩ | ⟨r, q, hcheck, hdry, hrq⟩ := (parseArguments_inStep h).cases
  · simp [hcheck, hdry]
  · obtain ⟨dir, config, rfl, rfl⟩ := hrq
    simp [hcheck, hdry]

/-- A check ends with code 0 just where a dry run for the same directory and settings does, also
where both are asked for by the same arguments. Checks, lists and dry runs leave all files as they
are, whatever they come to, and so does every command line that is not read as a request to write
files. -/
theorem check_predicts_dryRun (t : FileTree) :
    (∀ dir config,
      let check := (Request.check dir config).run
      let dryRun := (Request.generate dir config true).run
      ((check.run t).1.code = 0 ↔ (dryRun.run t).1.code = 0) ∧
        check.LeavesAlone t ∧ dryRun.LeavesAlone t ∧
        ∀ json, (Request.list dir config json).run.LeavesAlone t) ∧
    (∀ args dryArgs, WithDryRun args dryArgs →
      let check := runArguments ("check" :: args)
      let dryRun := runArguments ("generate" :: dryArgs)
      (check.run t).1.code = (dryRun.run t).1.code ∧ check.LeavesAlone t ∧ dryRun.LeavesAlone t) ∧
    ∀ args, (∀ dir config, parseArguments args ≠ .ok (.generate dir config false)) →
      (runArguments args).LeavesAlone t := by
  refine ⟨fun dir config => ⟨?_, ?_, ?_, fun json => ?_⟩,
    fun args dryArgs h => ⟨?_, ?_, ?_⟩, fun args h => ?_⟩
  · exact iff_of_eq (congrArg (· = 0) (code_runCheck dir config t))
  · exact (readsOnly_runCheck dir config).leavesAlone t
  · exact (readsOnly_dryRun dir config).leavesAlone t
  · exact (readsOnly_runList dir config json).leavesAlone t
  · exact code_runArguments h t
  · exact (readsOnly_runArguments fun dir config =>
      (not_writing_of_withDryRun h dir config).1).leavesAlone t
  · exact (readsOnly_runArguments fun dir config =>
      (not_writing_of_withDryRun h dir config).2).leavesAlone t
  · exact (readsOnly_runArguments h).leavesAlone t

/-- A directory with a command that has no action, and one with a command that can be rendered. -/
theorem check_predicts_dryRun_refused_and_rendered :
    let refused := "struct A \x7b #[tag = \"command:\\\"ec2\\\"\"] a: () \x7d"
    let rendered :=
      "struct B \x7b #[tag = \"command:\\\"ec2\\\" action:\\\"read\\\" entity:\\\"vpc\\\"\"] b: () \x7d"
    let t : FileTree :=
      { entries := [(["d"], .directory), (["d", "x.rs"], .file (.text refused)),
          (["e"], .directory), (["e", "y.rs"], .file (.text rendered))] }
    ((runArguments ["generate", "d", "--dry-run"]).run t).1.code = 1 ∧
      ((runArguments ["generate", "--dry-run", "e"]).run t).1.code = 0 ∧
      ((Request.generate "e" none true).run.run t).1.code = 0 ∧
      (runArguments ["list", "--json", "e"]).LeavesAlone t := by
  intro refused rendered t
  obtain ⟨hrequests, hlines, hothers⟩ := check_predicts_dryRun t
  obtain ⟨hrefused, -⟩ := hlines ["d"] _ (.behind "d" [] (by decide))
  obtain ⟨hrendered, -⟩ := hlines ["e"] _ (.front ["e"])
  have hfails : ((runArguments ["check", "d"]).run t).1.code = 1 := by decide +kernel
  have hpasses : ((Request.check "e" none).run.run t).1.code = 0 := by decide +kernel
  have hrequest : parseArguments ["check", "e"] = .ok (.check "e" none) := by decide +kernel
  have hlist : parseArguments ["list", "--json", "e"] = .ok (.list "e" none true) := by
    decide +kernel
  refine ⟨hrefused.symm.trans hfails, hrendered.symm.trans ?_, (hrequests "e" none).1.mp hpasses,
    hothers _ fun dir config => by simp [hlist]⟩
  unfold runArguments
  rw [hrequest]
  exact hpasses

end CommandGen
