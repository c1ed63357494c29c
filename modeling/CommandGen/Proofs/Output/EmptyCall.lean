import CommandGen.Proofs.Check.Duplicates
import CommandGen.Proofs.Lists
import CommandGen.Proofs.Output.Behaviour

/-! A call that is there but empty. It makes no difference to what is generated, as the mode of a
command and all that is rendered by it take it for no call. The lint on the form of names looks at
the call itself and refuses it. -/
namespace CommandGen

def Command.withoutEmptyCall (c : Command) : Command := { c with call := c.call.filter (· ≠ "") }

def CommandSet.withoutEmptyCalls (set : CommandSet) : CommandSet :=
  set.mapValues Command.withoutEmptyCall

def emptyCallMessage : String := "call '' is not a valid identifier"

def emptyCallReport (typeName : String) : Diagnostic where
  severity := .error
  phase := "validate"
  message := emptyCallMessage
  lint := some "identifier-syntax"
  location := some typeName

/-- A report for each command that has an empty call, in type-name order. -/
def emptyCallReports (set : CommandSet) : List Diagnostic :=
  (set.entries.filter (·.2.call = some "")).map fun e => emptyCallReport e.1

variable {c : Command} {set : CommandSet} {traits : NameMap String}
  {d : Diagnostic} {typeName : String}

theorem Command.callMode_withoutEmptyCall (c : Command) :
    c.withoutEmptyCall.callMode = c.callMode := by
  unfold callMode withoutEmptyCall
  cases c.call with
  | none => rfl
  | some call => by_cases h : call = "" <;> simp [Option.filter, h]

theorem CommandSet.entries_withoutEmptyCalls (set : CommandSet) :
    set.withoutEmptyCalls.entries = set.entries.map fun e => (e.1, e.2.withoutEmptyCall) := rfl

theorem CommandSet.values_withoutEmptyCalls (set : CommandSet) :
    set.withoutEmptyCalls.values = set.values.map Command.withoutEmptyCall := by
  simp [NameMap.values, entries_withoutEmptyCalls]

theorem plan_withoutEmptyCall (typeName : String) (c : Command) :
    plan typeName c.withoutEmptyCall = plan typeName c := by
  unfold plan runPlan
  rw [Command.callMode_withoutEmptyCall]
  rfl

theorem commandSection_withoutEmptyCall (traits : NameMap String)
    (typeName : String) (c : Command) :
    commandSection traits typeName c.withoutEmptyCall = commandSection traits typeName c := by
  unfold commandSection
  rw [plan_withoutEmptyCall]
  rfl

theorem behaviourText_withoutEmptyCalls (traits : NameMap String) (set : CommandSet) :
    behaviourText traits set.withoutEmptyCalls = behaviourText traits set := by
  have hdirect : set.withoutEmptyCalls.hasDirectCalls = set.hasDirectCalls := by
    simp [CommandSet.hasDirectCalls, CommandSet.values_withoutEmptyCalls, Function.comp_def,
      Command.callMode_withoutEmptyCall]
  have hsections : (set.withoutEmptyCalls.entries.mapM fun e => commandSection traits e.1 e.2) =
      set.entries.mapM fun e => commandSection traits e.1 e.2 := by
    simp [CommandSet.entries_withoutEmptyCalls, List.mapM_map, Function.comp_def,
      commandSection_withoutEmptyCall]
  unfold behaviourText
  rw [hdirect, hsections]

theorem registryText_withoutEmptyCalls (set : CommandSet) :
    registryText set.withoutEmptyCalls = registryText set := by
  have hrows : constructorRows set.withoutEmptyCalls = constructorRows set := by
    simp [constructorRows, CommandSet.entries_withoutEmptyCalls, Command.identifier,
      Command.withoutEmptyCall]
  have hkeys : set.withoutEmptyCalls.keys = set.keys := by
    simp [NameMap.keys, CommandSet.entries_withoutEmptyCalls]
  simp only [registryText, constructorsStep, assertionsStep, hrows, hkeys]

theorem ofCommands_withoutEmptyCalls (set : CommandSet) :
    ActionIndex.ofCommands set.withoutEmptyCalls = ActionIndex.ofCommands set := by
  unfold ActionIndex.ofCommands
  rw [CommandSet.values_withoutEmptyCalls, List.foldl_map]
  rfl

/-- The sort looks at the identifiers only. -/
theorem byIdentifier_withoutEmptyCalls (set : CommandSet) : byIdentifier set.withoutEmptyCalls =
    (byIdentifier set).map fun row => (row.1, row.2.withoutEmptyCall) := by
  have hsort := List.map_mergeSort (f := fun row => (row.1, row.2.withoutEmptyCall))
    (l := set.values.map fun c => (c.identifier, c)) (r := fun a b => decide (a.1 ≤ b.1))
    (s := fun a b => decide (a.1 ≤ b.1)) fun _ _ _ _ => rfl
  rw [byIdentifier, byIdentifier, hsort, CommandSet.values_withoutEmptyCalls,
    List.map_map, List.map_map]
  rfl

theorem definitionsText_withoutEmptyCalls (set : CommandSet) (index : ActionIndex) :
    definitionsText set.withoutEmptyCalls index = definitionsText set index := by
  simp only [definitionsText, apiRows, definitionRows, byIdentifier_withoutEmptyCalls, List.map_map]
  rfl

theorem emptyCallReports_eq_nil_iff :
    emptyCallReports set = [] ↔ ∀ c ∈ set.values, c.call ≠ some "" := by
  simp [emptyCallReports, forall_mem_values]

namespace Lint

theorem check_ofEach_withoutEmptyCalls {name description : String}
    {check : String → Command → List Diagnostic} (h : ∀ typeName c,
    check typeName c.withoutEmptyCall = check typeName c) :
    (ofEach name description check).check set.withoutEmptyCalls =
      (ofEach name description check).check set := by
  simp [check_ofEach, CommandSet.entries_withoutEmptyCalls, List.flatMap_map, h]

theorem duplicates_withoutEmptyCalls (seen : List (String × String))
    (entries : List (String × Command)) :
    duplicates seen (entries.map fun e => (e.1, e.2.withoutEmptyCall)) = duplicates seen entries := by
  induction entries generalizing seen with
  | nil => rfl
  | cons e rest ih =>
    have hidentifier : e.2.withoutEmptyCall.identifier = e.2.identifier := rfl
    rw [List.map_cons, duplicates, duplicates, hidentifier]
    cases seen.lookup e.2.identifier with
    | some first => exact congrArg _ (ih seen)
    | none => exact ih _

def formFaults (c : Command) : List String :=
  nameFault (fun n => n = "" || Source.isIdentifier n)
    (fun n => s!"api '{n}' is not a valid module name")
      (some c.api) ++
    nameFault Source.isIdentifier (fun n => s!"call '{n}' is not a valid identifier") c.call ++
    nameFault Source.isTypePath (fun n => s!"input '{n}' is not a valid type path") c.input ++
    nameFault Source.isTypePath (fun n => s!"output '{n}' is not a valid type path") c.output

theorem findings_identifierForm (set : CommandSet) : identifierForm.findings set =
    set.entries.flatMap fun e => (formFaults e.2).map fun message =>
      { emptyCallReport e.1 with message := message } := by
  unfold findings identifierForm
  rw [check_ofEach]
  simp only [List.map_flatMap, List.map_map]
  rfl

variable {admits : String → Bool} {fault : String → String} {name : Option String}

theorem mem_nameFault {message : String} (h : message ∈ nameFault admits fault name) :
    ∃ n, message = fault n := by
  unfold nameFault at h
  split at h
  · rename_i n
    split_ifs at h
    · cases h
    · exact ⟨n, List.mem_singleton.mp h⟩
  · cases h

theorem filter_nameFault (h : ∀ n, (fault n).toList.head? ≠ some 'c') :
    (nameFault admits fault name).filter (· ≠ emptyCallMessage) = nameFault admits fault name ∧
      (nameFault admits fault name).filter (· = emptyCallMessage) = [] := by
  have hne : ∀ message ∈ nameFault admits fault name, message ≠ emptyCallMessage := by
    rintro message hmem rfl
    obtain ⟨n, hn⟩ := mem_nameFault hmem
    exact h n (hn ▸ rfl)
  exact filter_of_none hne

theorem callMessage_eq_iff {call : String} :
    s!"call '{call}' is not a valid identifier" = emptyCallMessage ↔ call = "" := by
  have hempty : emptyCallMessage = "call '" ++ "" ++ "' is not a valid identifier" := rfl
  change "call '" ++ call ++ "' is not a valid identifier" = _ ↔ _
  rw [hempty, String.append_left_inj, String.append_right_inj]

theorem filter_callFault (call : Option String) :
    let faults := nameFault Source.isIdentifier fun n => s!"call '{n}' is not a valid identifier"
    (faults call).filter (· ≠ emptyCallMessage) = faults (call.filter (· ≠ "")) ∧
      (faults call).filter (· = emptyCallMessage) = if call = some "" then [emptyCallMessage]
        else [] := by
  intro faults
  cases call with
  | none => exact ⟨rfl, rfl⟩
  | some call =>
    by_cases hempty : call = ""
    · subst hempty
      have hrefused : Source.isIdentifier "" = false := by decide +kernel
      have hfaults : faults (some "") = [emptyCallMessage] := by
        simp only [faults, nameFault, hrefused]
        rfl
      rw [hfaults]
      exact ⟨rfl, rfl⟩
    · have hkept : (some call).filter (· ≠ "") = some call := by simp [Option.filter, hempty]
      have hother : ∀ message ∈ faults (some call), message ≠ emptyCallMessage := by
        intro message hmem
        simp only [faults, nameFault] at hmem
        split_ifs at hmem
        · cases hmem
        · rw [List.mem_singleton.mp hmem]
          exact mt callMessage_eq_iff.mp hempty
      rw [hkept, if_neg (by simpa using hempty)]
      exact filter_of_none hother

theorem filter_formFaults (c : Command) :
    (formFaults c).filter (· ≠ emptyCallMessage) = formFaults c.withoutEmptyCall ∧
      (formFaults c).filter (· = emptyCallMessage) = if c.call = some "" then [emptyCallMessage]
        else [] := by
  have hcall := filter_callFault c.call
  have hapi (n : String) : (s!"api '{n}' is not a valid module name").toList.head? ≠ some 'c' := by
    simp [toString]
  have hinput (n : String) :
      (s!"input '{n}' is not a valid type path").toList.head? ≠ some 'c' := by simp [toString]
  have houtput (n : String) :
      (s!"output '{n}' is not a valid type path").toList.head? ≠ some 'c' := by
    simp [toString]
  unfold formFaults
  simp only [List.filter_append, filter_nameFault hapi, filter_nameFault hinput,
    filter_nameFault houtput, hcall, List.nil_append, List.append_nil]
  exact ⟨rfl, trivial⟩

theorem filter_findings_identifierForm (set : CommandSet) :
    (identifierForm.findings set).filter (·.message ≠ emptyCallMessage) =
        identifierForm.findings set.withoutEmptyCalls ∧
      (identifierForm.findings set).filter (·.message = emptyCallMessage) = emptyCallReports set := by
  rw [findings_identifierForm, findings_identifierForm, List.filter_flatMap, List.filter_flatMap]
  simp only [List.filter_map, Function.comp_def, filter_formFaults]
  constructor
  · simp [CommandSet.entries_withoutEmptyCalls, List.flatMap_map]
  · rw [emptyCallReports, ← List.filterMap_eq_map, ← List.filterMap_eq_filter,
      List.filterMap_filterMap, List.filterMap_eq_flatMap_toList]
    refine List.flatMap_congr fun e _ => ?_
    by_cases h : e.2.call = some "" <;> simp [h, emptyCallReport]

theorem mem_emptyCallReports (h : d ∈ identifierForm.findings set) :
    d ∈ emptyCallReports set ↔ d.message = emptyCallMessage := by
  rw [← (filter_findings_identifierForm set).2]
  simp [h]

/-- What a lint reports of a set without its empty calls, and which of its reports are about
these. -/
def SplitsReports (l : Lint) (set : CommandSet) : Prop :=
  l.findings set.withoutEmptyCalls = (l.findings set).filter (· ∉ emptyCallReports set) ∧
    (l.findings set).filter (· ∈ emptyCallReports set) =
      if l.name = identifierForm.name then emptyCallReports set else []

theorem splitsReports_identifierForm (set : CommandSet) : identifierForm.SplitsReports set := by
  obtain ⟨hothers, habout⟩ := filter_findings_identifierForm set
  rw [SplitsReports, if_pos rfl, ← hothers]
  refine ⟨List.filter_congr fun d hd => ?_, ?_⟩
  · simp [mem_emptyCallReports hd]
  · rw [← habout]
    refine List.filter_congr fun d hd => ?_
    rw [habout]
    simp [mem_emptyCallReports hd]

/-- A lint of another name that takes no notice of empty calls. Its reports are signed with its
name. -/
theorem splitsReports_of_reportsAs {l : Lint} {severity : Severity} (h : l.ReportsAs severity)
    (hname : l.name ≠ identifierForm.name) (hsame : l.check set.withoutEmptyCalls = l.check set) :
    l.SplitsReports set := by
  have hothers : ∀ d ∈ l.findings set, d ∉ emptyCallReports set := by
    intro d hd hreport
    obtain ⟨found, hfound, rfl⟩ := List.mem_map.mp hd
    obtain ⟨_, _, rfl⟩ := h set found hfound
    obtain ⟨e, -, he⟩ := List.mem_map.mp hreport
    have hlint : some identifierForm.name = some l.name := congrArg Diagnostic.lint he
    exact hname (Option.some.inj hlint).symm
  have hfindings : l.findings set.withoutEmptyCalls = l.findings set :=
    congrArg (List.map l.sign) hsame
  obtain ⟨hall, hnone⟩ := filter_of_none hothers
  rw [SplitsReports, if_neg hname, hfindings]
  exact ⟨hall.symm, hnone⟩

theorem splitsReports_of_mem {l : Lint} (h : l ∈ builtIn) : l.SplitsReports set := by
  have hduplicate :
      duplicateIdentifier.check set.withoutEmptyCalls = duplicateIdentifier.check set :=
    duplicates_withoutEmptyCalls [] set.entries
  have hincomplete : incompleteCommand.check set.withoutEmptyCalls = incompleteCommand.check set :=
    check_ofEach_withoutEmptyCalls fun _ _ => rfl
  have hdirect : directCall.check set.withoutEmptyCalls = directCall.check set := by
    refine check_ofEach_withoutEmptyCalls fun _ c => ?_
    rw [c.callMode_withoutEmptyCall]
    rfl
  have hparams : emptyParamName.check set.withoutEmptyCalls = emptyParamName.check set :=
    check_ofEach_withoutEmptyCalls fun _ _ => rfl
  simp only [builtIn, List.mem_cons, List.not_mem_nil, or_false] at h
  rcases h with rfl | rfl | rfl | rfl | rfl
  · exact splitsReports_of_reportsAs duplicateIdentifier_reportsAs (by decide) hduplicate
  · exact splitsReports_of_reportsAs incompleteCommand_reportsAs (by decide) hincomplete
  · exact splitsReports_of_reportsAs directCall_reportsAs (by decide) hdirect
  · exact splitsReports_identifierForm set
  · exact splitsReports_of_reportsAs emptyParamName_reportsAs (by decide) hparams

theorem findings_withoutEmptyCalls (set : CommandSet) :
    (builtIn.flatMap fun l => l.findings set.withoutEmptyCalls) =
        (builtIn.flatMap fun l => l.findings set).filter (· ∉ emptyCallReports set) ∧
      (builtIn.flatMap fun l => l.findings set).filter (· ∈ emptyCallReports set) =
        emptyCallReports set := by
  rw [List.filter_flatMap, List.filter_flatMap]
  constructor
  · exact List.flatMap_congr fun l hl => (splitsReports_of_mem hl).1
  · rw [List.flatMap_congr fun l hl => (splitsReports_of_mem hl).2]
    simp [builtIn, duplicateIdentifier, incompleteCommand, directCall,
      identifierForm, emptyParamName, ofEach]

end Lint

namespace Pipeline

/-- The run that is built in, over commands alone: what it knows at its end, and why it stopped if
it did. -/
def runBuiltIn (set : CommandSet) : RunState × Option RunFailure :=
  ({} : Pipeline).runIn ⟨set, none, []⟩

theorem diagnostics_runBuiltIn (set : CommandSet) :
    (runBuiltIn set).1.diagnostics = Lint.builtIn.flatMap fun l => l.findings set := by
  rw [runBuiltIn, runIn_commands]
  dsimp only
  split_ifs <;> rfl

theorem failure_runBuiltIn (set : CommandSet) : (runBuiltIn set).2 =
    if (runBuiltIn set).1.errors = [] then none
    else some (.invalid (runBuiltIn set).1.errors.length) := by
  rw [runBuiltIn, runIn_commands]
  generalize Lint.builtIn.flatMap (fun l => l.findings set) = found
  cases herror : found.any (·.isError) with
  | true =>
    have hsome : found.filter (·.isError) ≠ [] := by simpa using herror
    simp only [herror, if_true]
    exact (if_neg hsome).symm
  | false =>
    have hnone : found.filter (·.isError) = [] := by simpa using herror
    simp only [herror, Bool.false_eq_true, if_false]
    exact (if_pos hnone).symm

theorem diagnostics_withoutEmptyCalls (set : CommandSet) :
    (runBuiltIn set.withoutEmptyCalls).1.diagnostics =
        (runBuiltIn set).1.diagnostics.filter (· ∉ emptyCallReports set) ∧
      (runBuiltIn set).1.diagnostics.filter (· ∈ emptyCallReports set) = emptyCallReports set := by
  rw [diagnostics_runBuiltIn, diagnostics_runBuiltIn]
  exact Lint.findings_withoutEmptyCalls set

theorem length_errors_withoutEmptyCalls (set : CommandSet) : (runBuiltIn set).1.errors.length =
    (runBuiltIn set.withoutEmptyCalls).1.errors.length + (emptyCallReports set).length := by
  obtain ⟨hothers, habout⟩ := diagnostics_withoutEmptyCalls set
  have hcount :=
    (List.filter_append_perm (· ∈ emptyCallReports set) (runBuiltIn set).1.diagnostics).countP_eq
      (·.isError)
  have hreports : (emptyCallReports set).countP (·.isError) = (emptyCallReports set).length := by
    refine List.countP_eq_length.mpr fun d hd => ?_
    obtain ⟨e, -, rfl⟩ := List.mem_map.mp hd
    rfl
  simp only [habout, ← decide_not, ← hothers, List.countP_append, hreports] at hcount
  simp only [RunState.errors, ← List.countP_eq_length_filter]
  omega

theorem diagnostics_withoutEmptyCalls_eq_iff :
    (runBuiltIn set.withoutEmptyCalls).1.diagnostics = (runBuiltIn set).1.diagnostics ↔
      ∀ c ∈ set.values, c.call ≠ some "" := by
  obtain ⟨hothers, habout⟩ := diagnostics_withoutEmptyCalls set
  rw [← emptyCallReports_eq_nil_iff]
  constructor
  · intro hsame
    have hnone : ∀ d ∈ (runBuiltIn set).1.diagnostics, d ∉ emptyCallReports set := by
      simpa using List.filter_eq_self.mp (hothers.symm.trans hsame)
    exact habout.symm.trans (filter_of_none hnone).2
  · intro hnone
    simp [hothers, hnone]

/-- Leaving out the empty calls of a set changes none of its three files. A run loses the reports
about these calls, one error for each of them, and nothing else; it stops for what other errors
there are. So a run without them ends as it does with them just where there are none. -/
theorem runBuiltIn_withoutEmptyCalls (set : CommandSet) (traits : NameMap String) :
    let plain := set.withoutEmptyCalls
    let reports := emptyCallReports set
    (behaviourText traits plain = behaviourText traits set ∧ registryText plain = registryText set ∧
      definitionsText plain (ActionIndex.ofCommands plain) =
        definitionsText set (ActionIndex.ofCommands set)) ∧
    (runBuiltIn plain).1.diagnostics = (runBuiltIn set).1.diagnostics.filter (· ∉ reports) ∧
    (runBuiltIn set).1.diagnostics.filter (· ∈ reports) = reports ∧
    (runBuiltIn set).1.errors.length = (runBuiltIn plain).1.errors.length + reports.length ∧
    (∀ commands, (runBuiltIn commands).2 = if (runBuiltIn commands).1.errors = [] then none
      else some (.invalid (runBuiltIn commands).1.errors.length)) ∧
    ((runBuiltIn plain).1.diagnostics = (runBuiltIn set).1.diagnostics ∧
      (runBuiltIn plain).2 = (runBuiltIn set).2 ↔
      ∀ c ∈ set.values, c.call ≠ some "") := by
  dsimp only
  obtain ⟨hothers, habout⟩ := diagnostics_withoutEmptyCalls set
  have hdefinitions :
      definitionsText set.withoutEmptyCalls (ActionIndex.ofCommands set.withoutEmptyCalls) =
      definitionsText set (ActionIndex.ofCommands set) := by
    rw [ofCommands_withoutEmptyCalls, definitionsText_withoutEmptyCalls]
  refine ⟨⟨behaviourText_withoutEmptyCalls traits set,
    registryText_withoutEmptyCalls set, hdefinitions⟩, hothers,
    habout, length_errors_withoutEmptyCalls set, failure_runBuiltIn, ?_⟩
  rw [← diagnostics_withoutEmptyCalls_eq_iff]
  refine and_iff_left_of_imp fun hsame => ?_
  have herrors : (runBuiltIn set.withoutEmptyCalls).1.errors = (runBuiltIn set).1.errors := by
    rw [RunState.errors, RunState.errors, hsame]
  rw [failure_runBuiltIn, failure_runBuiltIn, herrors]

/-- A command that lacks nothing and has an empty call is refused, and passes once the call is left
out. -/
theorem empty_call_refused :
    let set : CommandSet :=
      .ofList [("CreateX", { action := "create", entity := "x", api := "ec2", call := some "" })]
    (runBuiltIn set).1.diagnostics = [emptyCallReport "CreateX"] ∧
      (runBuiltIn set).2 = some (.invalid 1) ∧
      (runBuiltIn set.withoutEmptyCalls).1.diagnostics = [] ∧
      (runBuiltIn set.withoutEmptyCalls).2 = none := by
  decide +kernel

end Pipeline

end CommandGen
