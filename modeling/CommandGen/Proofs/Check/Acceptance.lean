import CommandGen.Proofs.Check.Pipeline

/-! What passes the checks that are built in. Each lint is described by the commands in which it
finds nothing; a run succeeds for just the sets in which no lint finds an error, and then says only
which parameters have no name. -/
namespace CommandGen

/-- What is asked of each command. -/
structure Command.IsSound (c : Command) : Prop where
  action : c.action ≠ ""
  entity : c.entity ≠ ""
  api : c.api ≠ ""
  apiForm : Source.isIdentifier c.api = true
  callForm : ∀ call, c.call = some call → Source.isIdentifier call = true
  inputForm : ∀ input, c.input = some input → Source.isTypePath input = true
  outputForm : ∀ output, c.output = some output → Source.isTypePath output = true
  input : c.callMode.isDirect = true → c.input ≠ none
  dryRun : c.callMode = .manual → c.dryRunMode ≠ .generated

/-- What is asked of a set: commands that are sound, each with an identifier of its own. -/
structure CommandSet.IsAccepted (set : CommandSet) : Prop where
  differ : set.values.Pairwise fun c d => c.action ++ c.entity ≠ d.action ++ d.entity
  sound : ∀ c ∈ set.values, c.IsSound

/-- The warning about a command of which some parameters have no name. -/
def unnamedWarning (typeName : String) (c : Command) : Option Diagnostic :=
  if ∃ p ∈ c.params, p.name = "" then
    some {
      severity := .warning
      phase := "validate"
      message := toString (c.params.filter (·.name = "")).length ++ " parameter(s) have an empty name"
      lint := some "empty-param-name"
      location := some typeName }
  else none

variable {set : CommandSet} {s : RunState} {c : Command} {typeName : String}

theorem forall_mem_values {P : Command → Prop} :
    (∀ c ∈ set.values, P c) ↔ ∀ e ∈ set.entries, P e.2 := by
  simp only [NameMap.values, List.forall_mem_map]

theorem Command.input_of_callMode {call : String} {input output : Option String}
    (h : c.callMode = .direct call input output) : c.input = input := by
  unfold callMode at h
  split at h
  · split at h
    · cases h
    · exact (CallMode.direct.inj h).2.1
  · cases h

namespace Lint

/-- Whether all that a lint finds is a report of one severity about some type. -/
def ReportsAs (l : Lint) (severity : Severity) : Prop :=
  ∀ set, ∀ d ∈ l.check set, ∃ typeName message, d = report severity typeName message

theorem ofEach_reportsAs {name description : String}
    {check : String → Command → List Diagnostic} {severity : Severity} (h : ∀ typeName c,
    ∀ d ∈ check typeName c, ∃ message, d = report severity typeName message) :
    (ofEach name description check).ReportsAs severity := by
  intro set d hd
  obtain ⟨e, -, hd⟩ := List.mem_flatMap.mp hd
  exact ⟨e.1, h e.1 e.2 d hd⟩

theorem duplicateIdentifier_reportsAs : duplicateIdentifier.ReportsAs .error :=
  fun _ _ => exists_of_mem_duplicates

theorem incompleteCommand_reportsAs : incompleteCommand.ReportsAs .error := by
  refine ofEach_reportsAs fun typeName c d hd => ?_
  obtain ⟨⟨role, value⟩, -, hd⟩ := List.mem_filterMap.mp hd
  obtain ⟨-, hd⟩ := Option.ite_none_right_eq_some.mp hd
  exact ⟨_, (Option.some.inj hd).symm⟩

theorem directCall_reportsAs : directCall.ReportsAs .error := by
  refine ofEach_reportsAs fun typeName c d hd => ?_
  split at hd
  · exact ⟨_, List.mem_singleton.mp hd⟩
  · cases hd
  · split at hd
    · exact ⟨_, List.mem_singleton.mp hd⟩
    · cases hd

theorem identifierForm_reportsAs : identifierForm.ReportsAs .error := by
  refine ofEach_reportsAs fun typeName c d hd => ?_
  obtain ⟨message, -, rfl⟩ := List.mem_map.mp hd
  exact ⟨message, rfl⟩

theorem emptyParamName_reportsAs : emptyParamName.ReportsAs .warning := by
  refine ofEach_reportsAs fun typeName c d hd => ?_
  dsimp only at hd
  split at hd
  · exact ⟨_, List.mem_singleton.mp hd⟩
  · cases hd

def IsStrict (l : Lint) : Prop := ∀ set, ∀ d ∈ l.check set, d.isError = true

theorem IsStrict.passes_iff {l : Lint} (h : l.IsStrict) :
    (∀ d ∈ l.check set, d.isError = false) ↔ l.check set = [] := by
  rw [List.eq_nil_iff_forall_not_mem]
  refine forall₂_congr fun d hd => ?_
  simp [h set d hd]

theorem check_ofEach (name description : String) (check : String → Command → List Diagnostic) :
    (ofEach name description check).check set = set.entries.flatMap fun e => check e.1 e.2 :=
  rfl

theorem check_ofEach_eq_nil_iff {name description : String}
    {check : String → Command → List Diagnostic} :
    (ofEach name description check).check set = [] ↔ ∀ e ∈ set.entries, check e.1 e.2 = [] :=
  List.flatMap_eq_nil_iff

theorem ReportsAs.isStrict {l : Lint} (h : l.ReportsAs .error) : l.IsStrict := by
  intro set d hd
  obtain ⟨_, _, rfl⟩ := h set d hd
  rfl

theorem duplicateIdentifier_eq_nil_iff : duplicateIdentifier.check set = [] ↔
    set.values.Pairwise fun c d => c.action ++ c.entity ≠ d.action ++ d.entity := by
  have hnil : duplicateIdentifier.check set = [] ↔ _ := @duplicates_eq_nil_iff [] set.entries
  rw [hnil]
  simp [List.Nodup, NameMap.values, List.pairwise_map, Command.identifier]

theorem incompleteCommand_eq_nil_iff : incompleteCommand.check set = [] ↔
    ∀ c ∈ set.values, c.action ≠ "" ∧ c.entity ≠ "" ∧ c.api ≠ "" := by
  unfold incompleteCommand
  rw [check_ofEach_eq_nil_iff, forall_mem_values]
  simp

theorem directCall_eq_nil_iff : directCall.check set = [] ↔
    ∀ c ∈ set.values, (c.callMode.isDirect = true → c.input ≠ none) ∧
      (c.callMode = .manual → c.dryRunMode ≠ .generated) := by
  unfold directCall
  rw [check_ofEach_eq_nil_iff, forall_mem_values]
  refine forall₂_congr fun e _ => ?_
  cases hmode : e.2.callMode with
  | direct call input output =>
    rw [Command.input_of_callMode hmode]
    cases input <;> simp [CallMode.isDirect]
  | manual => simp [CallMode.isDirect]

theorem nameFault_eq_nil_iff {admits : String → Bool} {fault : String → String}
    {name : Option String} :
    nameFault admits fault name = [] ↔ ∀ n, name = some n → admits n = true := by
  cases name <;> simp [nameFault]

theorem identifierForm_eq_nil_iff : identifierForm.check set = [] ↔
    ∀ c ∈ set.values, (c.api = "" ∨ Source.isIdentifier c.api = true) ∧
      (∀ call, c.call = some call → Source.isIdentifier call = true) ∧
      (∀ input, c.input = some input → Source.isTypePath input = true) ∧
      (∀ output, c.output = some output → Source.isTypePath output = true) := by
  unfold identifierForm
  rw [check_ofEach_eq_nil_iff, forall_mem_values]
  simp [nameFault_eq_nil_iff]

theorem emptyParamName_warns (set : CommandSet) :
    ∀ d ∈ emptyParamName.check set, d.isError = false := by
  intro d hd
  obtain ⟨_, _, rfl⟩ := emptyParamName_reportsAs set d hd
  rfl

theorem findings_emptyParamName : emptyParamName.findings set =
    set.entries.filterMap fun e => unnamedWarning e.1 e.2 := by
  unfold findings emptyParamName
  rw [check_ofEach, List.map_flatMap, List.filterMap_eq_flatMap_toList]
  refine List.flatMap_congr fun e _ => ?_
  have hunnamed : 0 < (e.2.params.filter (·.name = "")).length ↔ ∃ p ∈ e.2.params, p.name = "" := by
    simp [List.length_pos_iff_exists_mem]
  simp only [unnamedWarning, List.countP_eq_length_filter, hunnamed]
  split <;> rfl

theorem builtIn_pass_iff : (∀ l ∈ builtIn, ∀ d ∈ l.check set, d.isError = false) ↔
    duplicateIdentifier.check set = [] ∧ incompleteCommand.check set = [] ∧
      directCall.check set = [] ∧
      identifierForm.check set = [] := by
  simp only [builtIn, List.forall_mem_cons, List.not_mem_nil, false_implies, implies_true, and_true,
    duplicateIdentifier_reportsAs.isStrict.passes_iff,
    incompleteCommand_reportsAs.isStrict.passes_iff,
    directCall_reportsAs.isStrict.passes_iff, identifierForm_reportsAs.isStrict.passes_iff,
    iff_true_intro (emptyParamName_warns set)]

theorem isAccepted_iff : set.IsAccepted ↔
    duplicateIdentifier.check set = [] ∧ incompleteCommand.check set = [] ∧
      directCall.check set = [] ∧
      identifierForm.check set = [] := by
  rw [duplicateIdentifier_eq_nil_iff, incompleteCommand_eq_nil_iff, directCall_eq_nil_iff,
    identifierForm_eq_nil_iff]
  constructor
  · intro h
    refine ⟨h.differ, fun c hc => ?_, fun c hc => ?_, fun c hc => ?_⟩
    · exact ⟨(h.sound c hc).action, (h.sound c hc).entity, (h.sound c hc).api⟩
    · exact ⟨(h.sound c hc).input, (h.sound c hc).dryRun⟩
    · exact ⟨.inr (h.sound c hc).apiForm, (h.sound c hc).callForm, (h.sound c hc).inputForm,
        (h.sound c hc).outputForm⟩
  · rintro ⟨hdiffer, hcomplete, hdirect, hform⟩
    refine ⟨hdiffer, fun c hc => ?_⟩
    obtain ⟨haction, hentity, hapi⟩ := hcomplete c hc
    obtain ⟨hinput, hdryRun⟩ := hdirect c hc
    obtain ⟨hapiForm, hcallForm, hinputForm, houtputForm⟩ := hform c hc
    exact ⟨haction, hentity, hapi, hapiForm.resolve_left hapi, hcallForm,
      hinputForm, houtputForm, hinput,
      hdryRun⟩

/-- Where nothing is an error, all that is left to report is which parameters have no name. -/
theorem findings_builtIn (h : set.IsAccepted) : builtIn.flatMap (·.findings set) =
    set.entries.filterMap fun e => unnamedWarning e.1 e.2 := by
  obtain ⟨hduplicate, hincomplete, hdirect, hform⟩ := isAccepted_iff.mp h
  have hnone {l : Lint} (hl : l.check set = []) : l.findings set = [] := by simp [findings, hl]
  rw [← findings_emptyParamName]
  simp [builtIn, hnone hduplicate, hnone hincomplete, hnone hdirect, hnone hform]

end Lint

/-- The run that is built in succeeds for just the sets that are accepted. It leaves the commands as
they are, indexes them, and warns of each command of which some parameters have no name. -/
theorem Pipeline.run_eq_ok_iff_isAccepted : ({} : Pipeline).run set = .ok s ↔
    set.IsAccepted ∧ s.commands = set ∧ s.index = some (ActionIndex.ofCommands set) ∧
      s.diagnostics = set.entries.filterMap fun e => unnamedWarning e.1 e.2 := by
  rw [run_eq_ok_iff, Lint.builtIn_pass_iff, ← Lint.isAccepted_iff]
  refine and_congr_right fun haccepted => ?_
  rw [← Lint.findings_builtIn haccepted]
  cases s
  simp

end CommandGen
