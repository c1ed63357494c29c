import CommandGen.Proofs.Output.Sections

/-! The run and the dry run of each command in the file of behaviour. Their bodies stand as rows of
the file between what is the same for all plans, and the head brings the clock in just where one of
these rows reads it. So the commands that the lint on calls lets through are those that can be
rendered, and nothing is missing there. -/
namespace CommandGen

/-- Whether a line reads the clock outside its string literals. -/
def ReadsClock (line : String) : Prop := "Instant::now()".toList <:+: Text.bare false line.toList

instance : DecidablePred ReadsClock := fun line =>
  inferInstanceAs (Decidable ("Instant::now()".toList <:+: Text.bare false line.toList))

variable {c : Command} {typeName : String} {before after : String}

theorem bare_quoted (h : '"' ∉ before.toList) (s : String) :
    Text.bare false (before ++ quoted s ++ after).toList =
      before.toList ++ Text.bare false after.toList := by
  simp only [String.toList_append, quoted, String.toList_ofList, List.append_assoc]
  rw [Text.bare_outside h, Text.bare_quote]

theorem bare_templated (h : '"' ∉ before.toList) (s : String) :
    Text.bare false (before ++ "\"" ++ templated s ++ after).toList =
      before.toList ++ Text.bare true after.toList := by
  have hopen : "\"".toList = ['"'] := rfl
  simp only [String.toList_append, templated, String.toList_ofList, List.append_assoc, hopen]
  rw [Text.bare_outside h, List.singleton_append, Text.bare_open, Text.bare_templateText]

theorem not_readsClock_literal {line : String} {cs clock : List Char}
    (hclock : "Instant::now()" = String.ofList clock) (hline : line = String.ofList cs)
    (h : ¬ clock <:+: Text.bare false cs) : ¬ ReadsClock line := by
  rwa [ReadsClock, toList_literal hclock, toList_literal hline]

theorem not_readsClock_orFail {call message : String} {cs ms before after clock : List Char}
    (hclock : "Instant::now()" = String.ofList clock) (hcall : call = String.ofList cs)
    (hmessage : message = String.ofList ms)
    (hbefore : ".map_err(|err| CommandError::msg(format!(\"" = String.ofList before)
    (hafter : ": \x7berr\x7d\")))?;" = String.ofList after)
    (h : ¬ clock <:+: Text.bare false (cs ++ before ++ ms ++ after)) :
    ¬ ReadsClock (orFail call message) := by
  rw [ReadsClock, orFail, toList_literal hclock]
  simpa only [String.toList_append, toList_literal hcall,
    toList_literal hmessage, toList_literal hbefore, toList_literal hafter] using h

theorem not_readsClock_blank : ¬ ReadsClock "" := by decide

theorem not_readsClock_close : ¬ ReadsClock "\x7d" := by decide

theorem not_readsClock_fakeResult (c : Command) : ¬ ReadsClock (fakeResult c) := by
  unfold ReadsClock fakeResult
  rw [bare_quoted (by decide)]
  decide

theorem not_readsClock_runEnd (c : Command) :
    ∀ line ∈ Step.textsAll (runEnd c), ¬ ReadsClock line := by
  have hsome : ¬ ReadsClock ("Some(value) => self.logger.info(&format!(\"" ++ templated c.label ++
      " '\x7bvalue\x7d' done\")),") := by
    unfold ReadsClock
    rw [show "Some(value) => self.logger.info(&format!(\"" =
      "Some(value) => self.logger.info(&format!(" ++ "\"" from rfl, bare_templated (by decide)]
    decide
  have hnone : ¬ ReadsClock ("None => self.logger.info(" ++ quoted (c.label ++ " done") ++ "),") := by
    unfold ReadsClock
    rw [bare_quoted (by decide)]
    decide
  have hextract : ¬ ReadsClock "let extracted = self.extract_result(&output);" :=
    not_readsClock_literal rfl rfl (by decide +kernel)
  have hmatch : ¬ ReadsClock ("match &extracted" ++ " \x7b") := by decide +kernel
  have hafter : ¬ ReadsClock (orFail "self.after_run(ctx, &output)" "after run") :=
    not_readsClock_orFail rfl rfl rfl rfl rfl (by decide +kernel)
  have hok : ¬ ReadsClock "Ok(extracted)" := by decide
  simpa [runEnd, Step.braced, Step.textsAll, Step.texts] using
    ⟨hextract, hmatch, hsome, hnone, not_readsClock_close, not_readsClock_blank, hafter, hok⟩

/-- The steps in a block. -/
def Step.body : Step → List Step
  | .block _ _ body => body
  | _ => []

/-- Whether some steps read the clock in one of their lines. -/
def Step.ReadClock (steps : List Step) : Prop := ∃ line ∈ Step.textsAll steps, ReadsClock line

theorem readClock_run {run : RunPlan} :
    Step.ReadClock (runStep c run).body ↔ ∃ call, run = .direct call := by
  cases run with
  | direct call =>
    have hclock : clockLine ∈ Step.textsAll (runStep c (.direct call)).body := by
      simp [runStep, Step.braced, Step.body, Step.textsAll, runBody]
    exact iff_of_true ⟨clockLine, hclock, by decide⟩ ⟨call, rfl⟩
  | manual =>
    have hlines : Step.textsAll (runStep c .manual).body =
        [orFail "self.inject(params)" "cannot set params on command struct",
          orFail "self.before_run(ctx)" "before run", "",
          "let output = self.manual_run(ctx)?;", ""] ++
        Step.textsAll (runEnd c) := by
      simp [runStep, Step.braced, Step.body, runBody, Step.textsAll, Step.texts]
    have hinject :
        ¬ ReadsClock (orFail "self.inject(params)" "cannot set params on command struct") :=
      not_readsClock_orFail rfl rfl rfl rfl rfl (by decide +kernel)
    have hbefore : ¬ ReadsClock (orFail "self.before_run(ctx)" "before run") :=
      not_readsClock_orFail rfl rfl rfl rfl rfl (by decide +kernel)
    have hmanual : ¬ ReadsClock "let output = self.manual_run(ctx)?;" := by decide +kernel
    have hnone : ∀ line ∈ Step.textsAll (runStep c .manual).body, ¬ ReadsClock line := by
      rw [hlines, List.forall_mem_append]
      exact ⟨by simpa using ⟨hinject, hbefore, not_readsClock_blank, hmanual, not_readsClock_blank⟩,
        not_readsClock_runEnd c⟩
    refine iff_of_false ?_ (by simp)
    rintro ⟨line, hline, hreads⟩
    exact hnone line hline hreads

theorem readClock_dryRun {dryRun : DryRunPlan} :
    Step.ReadClock (dryRunStep c dryRun).body ↔ ∃ call, dryRun = .generated call := by
  cases dryRun with
  | generated call =>
    have hclock : clockLine ∈ Step.textsAll (dryRunStep c (.generated call)).body := by
      simp [dryRunStep, Step.braced, Step.body, Step.textsAll, Step.texts, generatedDryRunBody]
    exact iff_of_true ⟨clockLine, hclock, by decide⟩ ⟨call, rfl⟩
  | manual =>
    have hmanual : ¬ ReadsClock "self.manual_dry_run(ctx, params)" := by decide +kernel
    refine iff_of_false ?_ (by simp)
    rintro ⟨line, hline, hreads⟩
    rw [show line = _ from List.mem_singleton.mp hline] at hreads
    exact hmanual hreads
  | unsupported =>
    refine iff_of_false ?_ (by simp)
    rintro ⟨line, hline, hreads⟩
    rw [show line = _ from List.mem_singleton.mp hline] at hreads
    exact not_readsClock_fakeResult c hreads

def Row.text : Row → String
  | .blank => ""
  | .filled _ text => text

namespace Step

mutual

theorem map_text_rows (level : ℕ) : (s : Step) → (s.rows level).map Row.text = s.texts
  | .line _ | .blank | .doc _ | .indent | .dedent => rfl
  | .block header close body => by
    simp [rows, texts, Row.text, map_text_rowsAfter (level + 1) [] body]

theorem map_text_rowsAfter (level : ℕ) (before : List Step) : (steps : List Step) →
    (rowsAfter level before steps).map Row.text = textsAll steps
  | [] => rfl
  | s :: rest => by
    rw [rowsAfter, List.map_append, map_text_rows, map_text_rowsAfter, textsAll]

end

end Step

/-- The bodies of a run and of a dry run, as rows of the file. -/
structure Routines where
  run : List Row
  dryRun : List Row
  usesInput : Bool

namespace Routines

def routineRows (header : String) (body : List Row) : List Row :=
  .filled 1 (header ++ " \x7b") :: (body ++ [.filled 1 "\x7d"])

def dryRunHeader (r : Routines) : String :=
  if r.usesInput then
    "fn dry_run(&mut self, ctx: &Context, params: &Params) -> Result<Option<Value>, CommandError>"
  else "fn dry_run(&mut self, _ctx: &Context, _params: &Params) -> Result<Option<Value>, CommandError>"

/-- The section of a command with these bodies. -/
def sectionRows (r : Routines) (traits : NameMap String) (typeName : String) (c : Command) :
    List Row :=
  .blank :: (inherentStep traits typeName c).rows 0 ++
    [.blank, .filled 0 ("impl Command for " ++ typeName ++ " \x7b")] ++
    routineRows "fn run(&mut self, ctx: &Context, params: &Params) -> Result<Option<Value>, CommandError>" r.run ++
    [.blank] ++ validateStep.rows 1 ++ [.blank] ++ routineRows r.dryRunHeader r.dryRun ++ [.blank] ++
    (helpStep c).rows 1 ++ [.filled 0 "\x7d"]

/-- Whether one of the bodies reads the clock. -/
def ReadClock (r : Routines) : Prop := ∃ row ∈ r.run ++ r.dryRun, ReadsClock row.text

def ofPlan (c : Command) (p : Plan) : Routines where
  run := Step.rowsAfter 2 [] (runStep c p.run).body
  dryRun := Step.rowsAfter 2 [] (dryRunStep c p.dryRun).body
  usesInput := p.dryRun ≠ .unsupported

theorem readClock_ofPlan (c : Command) (p : Plan) : (ofPlan c p).ReadClock ↔ p.IsTimed := by
  have hrows (steps : List Step) :
      (∃ row ∈ Step.rowsAfter 2 [] steps, ReadsClock row.text) ↔ Step.ReadClock steps := by
    rw [Step.ReadClock, ← Step.map_text_rowsAfter 2 [] steps]
    simp
  unfold ReadClock Plan.IsTimed
  rw [← readClock_run (c := c), ← readClock_dryRun (c := c), ← hrows, ← hrows]
  simp [ofPlan, or_and_right, exists_or]

theorem sectionRows_ofPlan (traits : NameMap String) (typeName : String) (c : Command) (p : Plan) :
    (ofPlan c p).sectionRows traits typeName c =
      Step.rowsAfter 0 [] [.blank, inherentStep traits typeName c, .blank,
        interfaceStep typeName c p] := by
  have hrun : (runStep c p.run).rows 1 = routineRows
      "fn run(&mut self, ctx: &Context, params: &Params) -> Result<Option<Value>, CommandError>"
      (ofPlan c p).run := rfl
  have hdryRun :
      (dryRunStep c p.dryRun).rows 1 = routineRows (ofPlan c p).dryRunHeader (ofPlan c p).dryRun := by
    obtain ⟨run, dryRun⟩ := p
    cases dryRun <;> rfl
  have hblocks := indentByBlocks_section traits typeName c p
  have hinside :
      Step.indentByBlocks [runStep c p.run, .blank, validateStep, .blank, dryRunStep c p.dryRun, .blank,
      helpStep c] = true := by
    obtain ⟨run, dryRun⟩ := p
    cases run <;> cases dryRun <;> rfl
  have hrows : Step.rowsAfter 1 [] _ = _ := Step.rowsAfter_of_blocks rfl hinside
  rw [Step.rowsAfter_of_blocks rfl hblocks]
  simp [sectionRows, interfaceStep, Step.braced, Step.rows, hrows, hrun, hdryRun]

end Routines

variable {set : CommandSet} {traits : NameMap String} {entries : List (String × Command)}

/-- A section that is made has the routines of a plan, and they read the clock if the command has a
call. -/
theorem exists_routines {own : String} (h : sectionText traits typeName c = .ok own) :
    ∃ r : Routines,
    own = writtenRows .standard (r.sectionRows traits typeName c) ∧
      (r.ReadClock ↔ c.callMode.isDirect = true) := by
  obtain ⟨steps, hsteps, rfl⟩ := map_eq_ok_iff.mp h
  have hbalanced := areBalanced_commandSection hsteps
  obtain ⟨p, hp, hsteps⟩ := bind_eq_ok_iff.mp hsteps
  obtain rfl := Except.ok.inj hsteps
  have hplan := plan_of_refusal typeName c
  cases hrefusal : refusal typeName c with
  | some fault =>
    rw [hrefusal, hp] at hplan
    cases hplan
  | none =>
    rw [hrefusal] at hplan
    obtain ⟨q, hq, htimed⟩ := hplan
    -- the plan is the one that the lint passes, so it tells whether the clock is read
    obtain rfl : p = q := Except.ok.inj (hp.symm.trans hq)
    refine ⟨.ofPlan c p, ?_, (Routines.readClock_ofPlan c p).trans htimed⟩
    rw [Step.layOut_of_areBalanced hbalanced, Routines.sectionRows_ofPlan]

theorem exists_routines_of_mapM {sections : List String}
    (h : (entries.mapM fun e => sectionText traits e.1 e.2) = .ok sections) :
    ∃ routines : List Routines,
      routines.length = entries.length ∧
      sections = List.zipWith
        (fun e r => writtenRows .standard (r.sectionRows traits e.1 e.2)) entries routines ∧
      ((∃ r ∈ routines, r.ReadClock) ↔ ∃ e ∈ entries, e.2.callMode.isDirect = true) := by
  induction entries generalizing sections with
  | nil =>
    obtain rfl : [] = sections := Except.ok.inj h
    exact ⟨[], rfl, rfl, by simp⟩
  | cons e rest ih =>
    rw [List.mapM_cons] at h
    obtain ⟨own, hown, h⟩ := bind_eq_ok_iff.mp h
    obtain ⟨others, hothers, h⟩ := bind_eq_ok_iff.mp h
    obtain ⟨r, hrows, hclock⟩ := exists_routines hown
    obtain ⟨routines, hlength, hmore, hclocks⟩ := ih hothers
    refine ⟨r :: routines, by simp [hlength], ?_, by simp [hclock, hclocks]⟩
    rw [List.zipWith_cons_cons, ← hrows, ← hmore, ← Except.ok.inj h]

theorem hasDirectCalls_iff :
    set.hasDirectCalls = true ↔ ∃ e ∈ set.entries, e.2.callMode.isDirect = true := by
  simp [CommandSet.hasDirectCalls, NameMap.values]

/-- The file of behaviour fails just where the lint on calls reports something, and its error is
about the type of the first report. If it is made, it is a head and a section for each command, with
a run and a dry run in it; and the head brings in the clock just where a row of one of their bodies
reads it. Rendering never fails for commands that pass the checks, neither to be shown nor to be
written. -/
theorem behaviourText_agrees (set : CommandSet) (traits : NameMap String) :
    ((∃ fault, behaviourText traits set = .error fault) ↔ Lint.directCall.check set ≠ []) ∧
    (∀ fault, behaviourText traits set = .error fault →
      ∃ first others, Lint.directCall.check set = first :: others ∧
        first.location = some fault.subject ∧
        ∃ reason, fault.message = fault.subject ++ ": " ++ reason) ∧
    (∀ text, behaviourText traits set = .ok text → ∃ routines : List Routines,
      routines.length = set.size ∧
      text = headText set.hasDirectCalls ++ String.join (List.zipWith
        (fun e r => writtenRows .standard (r.sectionRows traits e.1 e.2)) set.entries routines) ∧
      (clockHead.toList <+: text.toList ↔ ∃ r ∈ routines, r.ReadClock)) ∧
    (∀ s, ({} : Pipeline).run set = .ok s → ∀ settings : Settings,
      let g := Generator.ofRun s settings
      (∃ files, g.preview = .ok files) ∧
        ∀ dir, (∃ files, g.files dir = .ok files) ∧
          ∀ t name cause, ((g.generate dir).run t).1 ≠ .error (.rendering name cause)) := by
  rw [check_directCall]
  refine ⟨?_, ?_, ?_, ?_⟩
  · simp only [behaviourText_eq_error_iff]
    cases refusals set <;> simp
  · intro fault hfault
    obtain ⟨others, hrefusals⟩ := List.head?_eq_some_iff.mp (behaviourText_eq_error_iff.mp hfault)
    rw [hrefusals]
    exact ⟨fault.finding, others.map RenderError.finding, rfl, fault.location_finding, fault.message_eq⟩
  · intro text htext
    rw [behaviourText_eq, sectionsText] at htext
    obtain ⟨_, hjoined, rfl⟩ := map_eq_ok_iff.mp htext
    obtain ⟨sections, hsections, rfl⟩ := map_eq_ok_iff.mp hjoined
    obtain ⟨routines, hlength, rfl, hclock⟩ := exists_routines_of_mapM hsections
    refine ⟨routines, hlength, rfl, ?_⟩
    rw [headText, clockHead_isPrefix_iff, hasDirectCalls_iff, hclock]
  · intro s hrun settings
    refine ⟨files_of_run hrun settings "", fun dir => ?_⟩
    obtain ⟨files, hfiles⟩ := files_of_run hrun settings dir
    exact ⟨⟨files, hfiles⟩, run_generate_ne_rendering hfiles⟩

/-- A call without an input, and then with one, beside a routine written by hand. -/
theorem behaviourText_agrees_refused_and_timed :
    let refused : CommandSet := .ofList
      [("CreateX", { action := "create", entity := "x", api := "ec2", call := some "Make" })]
    let timed : CommandSet := .ofList
      [("CreateX", { action := "create", entity := "x", api := "ec2",
                     call := some "Make", input := some "X" }),
       ("ReadX", { action := "read", entity := "Instant::now()", api := "ec2" })]
    (∃ fault, behaviourText {} refused = .error fault ∧ fault.subject = "CreateX") ∧
      (∃ (text : String) (routines : List Routines),
        behaviourText {} timed = .ok text ∧ clockHead.toList <+: text.toList ∧
        text = headText true ++ String.join (List.zipWith
          (fun e r => writtenRows .standard (r.sectionRows {} e.1 e.2)) timed.entries routines) ∧
        ∃ r ∈ routines, r.ReadClock) ∧
      ∃ s files, ({} : Pipeline).run timed = .ok s ∧
        (Generator.ofRun s {}).preview = .ok files := by
  intro refused timed
  refine ⟨?_, ?_, ?_⟩
  · obtain ⟨hfails, hfirst, -, -⟩ := behaviourText_agrees refused {}
    obtain ⟨fault, hfault⟩ := hfails.mpr (by decide +kernel)
    obtain ⟨first, others, hcheck, hlocation, -⟩ := hfirst fault hfault
    have hreport : Lint.directCall.check refused =
        [Lint.report .error "CreateX" "call 'Make' has no input type"] := by decide +kernel
    obtain ⟨rfl, -⟩ := List.cons.inj (hcheck.symm.trans hreport)
    exact ⟨fault, hfault, (Option.some.inj hlocation).symm⟩
  · obtain ⟨hfails, -, hmade, -⟩ := behaviourText_agrees timed {}
    have htimed : timed.hasDirectCalls = true := by decide +kernel
    cases htext : behaviourText {} timed with
    | error fault => exact absurd (by decide +kernel) (hfails.mp ⟨fault, htext⟩)
    | ok text =>
      obtain ⟨routines, -, hsections, hclock⟩ := hmade text htext
      rw [htimed] at hsections
      have hhead : clockHead.toList <+: text.toList := by
        rw [hsections]
        exact (clockHead_isPrefix_iff true _).mpr rfl
      exact ⟨text, routines, rfl, hhead, hsections, hclock.mp hhead⟩
  · obtain ⟨-, -, -, hrender⟩ := behaviourText_agrees timed {}
    have hclean : ∀ l ∈ ({} : Pipeline).lints, ∀ d ∈ l.check timed, d.isError = false := by
      decide +kernel
    have hrun := Pipeline.run_eq_ok_iff.mpr ⟨hclean, rfl⟩
    obtain ⟨⟨files, hfiles⟩, -⟩ := hrender _ hrun {}
    exact ⟨_, files, hrun, hfiles⟩

end CommandGen
