import CommandGen.Output.Files
import CommandGen.Proofs.Check.Acceptance
import CommandGen.Proofs.Files.Program
import CommandGen.Proofs.Layout
import CommandGen.Proofs.Output.Literals
import CommandGen.Proofs.Text.Quoted
import Mathlib.Data.List.Infix

/-! The file of behaviour is refused for just the commands that the lint on calls reports, the first
of them first. If it is made, its head brings the clock in just where the run or the dry run of some
command reads it. So commands that pass the checks can always be rendered. -/
namespace CommandGen

namespace Step

mutual

def texts : Step → List String
  | .line s => [s]
  | .blank => [""]
  | .doc s => ["/// " ++ s]
  | .indent => []
  | .dedent => []
  | .block header close body => header :: (textsAll body ++ [close])

def textsAll : List Step → List String
  | [] => []
  | s :: rest => s.texts ++ textsAll rest

end

@[simp] theorem textsAll_append (steps more : List Step) :
    textsAll (steps ++ more) = textsAll steps ++ textsAll more := by
  induction steps with
  | nil => rfl
  | cons s rest ih => simp [textsAll, ih]

@[simp] theorem textsAll_lines (lines : List String) : textsAll (Step.lines lines) = lines := by
  induction lines with
  | nil => rfl
  | cons line rest ih => simpa [Step.lines, textsAll, texts] using ih

end Step

variable {c : Command} {typeName : String} {before after : String}

def refusal (typeName : String) (c : Command) : Option RenderError :=
  match c.callMode, c.dryRunMode with
  | .direct call none _, _ => some (.missingInput typeName call)
  | .direct _ (some _) _, _ => none
  | .manual, .generated => some (.dryRunWithoutCall typeName)
  | .manual, _ => none

/-- The type that an error is about. -/
def RenderError.subject : RenderError → String
  | missingInput typeName _ => typeName
  | dryRunWithoutCall typeName => typeName

def RenderError.finding : RenderError → Diagnostic
  | missingInput typeName call => Lint.report .error typeName s!"call '{call}' has no input type"
  | dryRunWithoutCall typeName =>
    Lint.report .error typeName "generated dry run needs a call; mark the dry run as manual"

theorem RenderError.location_finding (e : RenderError) : e.finding.location = some e.subject := by
  cases e <;> rfl

theorem RenderError.message_eq (e : RenderError) :
    ∃ reason, e.message = e.subject ++ ": " ++ reason := by
  cases e with
  | missingInput typeName call =>
    have hmessage : (missingInput typeName call).message =
        typeName ++ (": " ++ "call '") ++ call ++ "' has no input type" := rfl
    exact ⟨"call '" ++ call ++ "' has no input type",
      by rw [hmessage]; simp only [subject, String.append_assoc]⟩
  | dryRunWithoutCall typeName =>
    exact ⟨"a generated dry run needs a call", by simp [message, subject, String.append_assoc, toString]⟩

def Plan.IsTimed (p : Plan) : Prop :=
  (∃ call, p.run = .direct call) ∨ ∃ call, p.dryRun = .generated call

/-- There is a plan for each command but those that are refused, and it is timed if the command has
a call. -/
theorem plan_of_refusal (typeName : String) (c : Command) :
    match refusal typeName c with
    | some e => plan typeName c = .error e
    | none => ∃ p, plan typeName c = .ok p ∧ (p.IsTimed ↔ c.callMode.isDirect = true) := by
  unfold refusal plan runPlan Plan.IsTimed
  cases hcall : c.callMode with
  | direct call input output =>
    cases input with
    | none => simp [bind, Except.bind]
    | some input => simp [bind, Except.bind, dryRunPlan, CallMode.isDirect, pure, Except.pure]
  | manual =>
    cases hdry : c.dryRunMode with
    | generated => simp [bind, Except.bind, dryRunPlan]
    | manual => simp [bind, Except.bind, dryRunPlan, CallMode.isDirect, pure, Except.pure]
    | unsupported => simp [bind, Except.bind, dryRunPlan, CallMode.isDirect, pure, Except.pure]

/-- What keeps the commands of a set from being carried out, in type-name order. -/
def refusals (set : CommandSet) : List RenderError := set.entries.filterMap fun e => refusal e.1 e.2

variable {set : CommandSet} {traits : NameMap String}

theorem check_directCall (set : CommandSet) :
    Lint.directCall.check set = (refusals set).map RenderError.finding := by
  unfold Lint.directCall refusals
  rw [Lint.check_ofEach, List.filterMap_eq_flatMap_toList, List.map_flatMap]
  refine List.flatMap_congr fun ⟨typeName, c⟩ _ => ?_
  dsimp only
  unfold refusal
  cases c.callMode with
  | direct call input output => cases input <;> rfl
  | manual => cases c.dryRunMode <;> rfl

theorem mapM_commandSection (traits : NameMap String) (entries : List (String × Command)) :
    match (entries.filterMap fun e => refusal e.1 e.2).head? with
    | some fault => (entries.mapM fun e => commandSection traits e.1 e.2) = .error fault
    | none => ∃ sections, (entries.mapM fun e => commandSection traits e.1 e.2) = .ok sections := by
  induction entries with
  | nil => exact ⟨[], rfl⟩
  | cons e rest ih =>
    have hplan := plan_of_refusal e.1 e.2
    rw [List.mapM_cons, List.filterMap_cons]
    cases hrefusal : refusal e.1 e.2 with
    | some fault =>
      rw [hrefusal] at hplan
      simp [commandSection, hplan, bind, Except.bind]
    | none =>
      rw [hrefusal] at hplan
      obtain ⟨p, hplan, -⟩ := hplan
      have hsection : ∃ steps, commandSection traits e.1 e.2 = .ok steps := ⟨_, by
        rw [commandSection, hplan]
        rfl⟩
      obtain ⟨steps, hsteps⟩ := hsection
      rw [hsteps]
      cases hfirst : (rest.filterMap fun e => refusal e.1 e.2).head? with
      | some fault =>
        rw [hfirst] at ih
        simp [ih, bind, Except.bind]
      | none =>
        rw [hfirst] at ih
        obtain ⟨sections, hrest⟩ := ih
        simp [hrest, bind, Except.bind, pure, Except.pure]

/-- The file is made unless a command is refused; its head comes first, and the first refusal is its
error. -/
theorem behaviourText_of_refusals (traits : NameMap String) (set : CommandSet) :
    match (refusals set).head? with
    | some fault => behaviourText traits set = .error fault
    | none => ∃ rest,
      behaviourText traits set = .ok (layOut (behaviourHead set.hasDirectCalls) ++ rest) := by
  have hsections := mapM_commandSection traits set.entries
  change match (set.entries.filterMap fun e => refusal e.1 e.2).head? with
    | some fault => _
    | none => _
  unfold behaviourText
  split
  · rename_i fault hfault
    rw [hfault] at hsections
    simp [hsections, bind, Except.bind]
  · rename_i hnone
    rw [hnone] at hsections
    obtain ⟨sections, hsections⟩ := hsections
    obtain ⟨rest, hrest⟩ := Layout.exists_text_addAll
      (({} : Layout).addAll (behaviourHead set.hasDirectCalls)) sections.flatten
    refine ⟨rest, ?_⟩
    simp [hsections, bind, Except.bind, pure, Except.pure, layOut, Layout.addAll_append, hrest]

theorem behaviourText_eq_error_iff {fault : RenderError} :
    behaviourText traits set = .error fault ↔ (refusals set).head? = some fault := by
  have htext := behaviourText_of_refusals traits set
  cases hfirst : (refusals set).head? with
  | some first =>
    rw [hfirst] at htext
    simp [htext]
  | none =>
    rw [hfirst] at htext
    obtain ⟨rest, htext⟩ := htext
    simp [htext]

/-- The first lines of the file where they bring the clock in. -/
def clockHead : String :=
  "// DO NOT EDIT\n// This file was automatically generated by cmdforge\n\nuse std::time::Instant;\n"

theorem clockHead_isPrefix_iff (timed : Bool) (rest : String) :
    clockHead.toList <+: (layOut (behaviourHead timed) ++ rest).toList ↔ timed = true := by
  let opening := "// DO NOT EDIT\n// This file was automatically generated by cmdforge\n\n"
  have hclock : clockHead = opening ++ "use std::time::Instant;\n" := rfl
  cases timed with
  | true =>
    have hhead : layOut (behaviourHead true) = clockHead ++ "\nuse super::*;\n" := rfl
    rw [hhead, String.append_assoc, String.toList_append]
    exact iff_of_true (List.prefix_append _ _) rfl
  | false =>
    have hhead : layOut (behaviourHead false) = opening ++ "use super::*;\n" := rfl
    rw [hclock, hhead, String.append_assoc, String.toList_append, String.toList_append,
      List.prefix_append_right_inj]
    simp

variable {s : RunState}

theorem refusals_of_run (h : ({} : Pipeline).run set = .ok s) : refusals set = [] := by
  have hpass := (Pipeline.run_eq_ok_iff.mp h).1 Lint.directCall (by simp [Lint.builtIn])
  have hnil := Lint.directCall_reportsAs.isStrict.passes_iff.mp hpass
  rw [check_directCall] at hnil
  exact List.map_eq_nil_iff.mp hnil

theorem files_of_run (h : ({} : Pipeline).run set = .ok s) (settings : Settings) (dir : String) :
    ∃ files, (Generator.ofRun s settings).files dir = .ok files := by
  have htext := behaviourText_of_refusals settings.traits set
  rw [refusals_of_run h] at htext
  obtain ⟨rest, htext⟩ := htext
  obtain ⟨-, rfl⟩ := Pipeline.run_eq_ok_iff.mp h
  simp [Generator.files, Generator.ofRun, htext]

theorem run_generate_ne_rendering {g : Generator} {dir : String} {files : List OutputFile}
    (h : g.files dir = .ok files) (t : FileTree) (name : String) (cause : RenderError) :
    ((g.generate dir).run t).1 ≠ .error (.rendering name cause) := by
  simp only [Generator.generate, h, FileProgram.run_bind]
  cases ((commit files).run t).1 <;> simp

end CommandGen
