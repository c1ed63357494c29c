import CommandGen.Proofs.Indentation
import CommandGen.Proofs.Lists
import CommandGen.Proofs.NameMap
import CommandGen.Proofs.Output.Behaviour

/-! The file of behaviour is its head and a section for each command. A section is laid out from the
outermost level and comes back to it, so its text is the same wherever it stands and whatever the
other commands are. -/
namespace CommandGen

/-- The head of the file, with the clock or without it. -/
def headText (timed : Bool) : String := layOut (behaviourHead timed)

/-- The section of a command, as a text of its own. -/
def sectionText (traits : NameMap String) (typeName : String) (c : Command) :
    Except RenderError String :=
  (commandSection traits typeName c).map layOut

def sectionsText (traits : NameMap String) (entries : List (String × Command)) :
    Except RenderError String :=
  (entries.mapM fun e => sectionText traits e.1 e.2).map String.join

/-- The section that a type has in the file of a set: none, if it has no command there. -/
def CommandSet.sectionOf (set : CommandSet) (traits : NameMap String) (typeName : String) :
    Except RenderError String :=
  match set.get? typeName with
  | some c => sectionText traits typeName c
  | none => .ok ""

variable {set : CommandSet} {traits : NameMap String} {typeName : String}
  {c : Command} {steps : List Step} {entries more : List (String × Command)}

theorem indentByBlocks_section (traits : NameMap String) (typeName : String)
    (c : Command) (p : Plan) :
    Step.indentByBlocks [.blank, inherentStep traits typeName c, .blank,
      interfaceStep typeName c p] = true := by
  obtain ⟨run, dryRun⟩ := p
  cases run <;> cases dryRun <;> rfl

theorem areBalanced_commandSection (h : commandSection traits typeName c = .ok steps) :
    Step.areBalanced steps = true := by
  obtain ⟨p, -, hsteps⟩ := bind_eq_ok_iff.mp h
  rw [← Except.ok.inj hsteps]
  exact Step.areBalanced_of_blocks (indentByBlocks_section traits typeName c p)

theorem mapM_sectionText (traits : NameMap String) (entries : List (String × Command)) :
    (entries.mapM fun e => sectionText traits e.1 e.2) =
      (entries.mapM fun e => commandSection traits e.1 e.2).map (List.map layOut) := by
  induction entries with
  | nil => rfl
  | cons e rest ih =>
    rw [List.mapM_cons, List.mapM_cons, ih, sectionText]
    cases commandSection traits e.1 e.2 with
    | error fault => rfl
    | ok steps =>
      cases rest.mapM fun e => commandSection traits e.1 e.2 with
      | error fault => rfl
      | ok sections => rfl

theorem areBalanced_of_mapM {sections : List (List Step)}
    (h : (entries.mapM fun e => commandSection traits e.1 e.2) = .ok sections) :
    ∀ steps ∈ sections, Step.areBalanced steps = true := by
  induction entries generalizing sections with
  | nil =>
    obtain rfl : [] = sections := Except.ok.inj h
    simp
  | cons e rest ih =>
    rw [List.mapM_cons] at h
    obtain ⟨steps, hsteps, h⟩ := bind_eq_ok_iff.mp h
    obtain ⟨others, hothers, h⟩ := bind_eq_ok_iff.mp h
    rw [← Except.ok.inj h]
    exact List.forall_mem_cons.mpr ⟨areBalanced_commandSection hsteps, ih hothers⟩

/-- The file is its head and the sections of its commands, each of them as a text of its own. -/
theorem behaviourText_eq (traits : NameMap String) (set : CommandSet) : behaviourText traits set =
    (sectionsText traits set.entries).map (headText set.hasDirectCalls ++ ·) := by
  rw [sectionsText, mapM_sectionText, behaviourText]
  cases hsections : set.entries.mapM fun e => commandSection traits e.1 e.2 with
  | error fault => rfl
  | ok sections =>
    have hhead : Step.areBalanced (behaviourHead set.hasDirectCalls) = true :=
      Step.areBalanced_of_blocks (by cases set.hasDirectCalls <;> rfl)
    have hparts :
        ∀ steps ∈ behaviourHead set.hasDirectCalls :: sections, Step.areBalanced steps = true :=
      List.forall_mem_cons.mpr ⟨hhead, areBalanced_of_mapM hsections⟩
    have htext := Step.text_addAll_flatten hparts ""
    simpa [bind, Except.bind, pure, Except.pure, Except.map, layOut, headText] using htext

theorem sectionsText_append : sectionsText traits (entries ++ more) = (do
    let before ← sectionsText traits entries
    return before ++ (← sectionsText traits more)) := by
  unfold sectionsText
  rw [List.mapM_append]
  cases entries.mapM fun e => sectionText traits e.1 e.2 with
  | error fault => rfl
  | ok before =>
    cases more.mapM fun e => sectionText traits e.1 e.2 with
    | error fault => rfl
    | ok after => simp [bind, Except.bind, pure, Except.pure, Except.map]

theorem sectionsText_own (set : CommandSet) (traits : NameMap String) (typeName : String) :
    sectionsText traits ((set.get? typeName).map (typeName, ·)).toList =
      set.sectionOf traits typeName := by
  unfold CommandSet.sectionOf sectionsText
  cases set.get? typeName with
  | none => rfl
  | some c =>
    cases hsection : sectionText traits typeName c with
    | error fault => simp [hsection, bind, Except.bind, Except.map]
    | ok text => simp [hsection, bind, Except.bind, pure, Except.pure, Except.map]

/-- The section of a type stands between those of the types before it and those of the types after
it. -/
theorem sectionsText_around (set : CommandSet) (traits : NameMap String) (typeName : String) :
    sectionsText traits set.entries = (do
      let before ← sectionsText traits (set.filterKeys (· < typeName)).entries
      let own ← set.sectionOf traits typeName
      return before ++ own ++ (← sectionsText traits (set.filterKeys (typeName < ·)).entries)) := by
  rw [set.entries_eq_around typeName, sectionsText_append, sectionsText_append, sectionsText_own]
  simp

theorem sectionOf_insert (set : CommandSet) (traits : NameMap String)
    (typeName : String) (c : Command) :
    CommandSet.sectionOf (set.insert typeName c) traits typeName = sectionText traits typeName c := by
  rw [CommandSet.sectionOf, NameMap.get?_insert, if_pos rfl]

theorem filterKeys_of_differ {other : CommandSet}
    (h : ∀ n, n ≠ typeName → other.get? n = set.get? n) :
    other.filterKeys (· < typeName) = set.filterKeys (· < typeName) ∧
      other.filterKeys (typeName < ·) = set.filterKeys (typeName < ·) :=
  ⟨NameMap.filterKeys_congr fun n hn => h n (by rintro rfl; simp at hn),
    NameMap.filterKeys_congr fun n hn => h n (by rintro rfl; simp at hn)⟩

/-- The file of behaviour is a head, which tells only whether some command has a call, and the
sections of the commands in type-name order. A section is made of the settings, the type and its
command alone. So where a file is made, the text before and behind the section of a type is the same
for all sets with the same other commands, whatever the command of the type is in them and whether
there is one; and such a set can be rendered if that section can. -/
theorem behaviourText_sections (traits : NameMap String) (set : CommandSet) :
    behaviourText traits set = (set.entries.mapM fun e => sectionText traits e.1 e.2).map
      (fun sections => headText set.hasDirectCalls ++ String.join sections) ∧
    ∀ text, behaviourText traits set = .ok text → ∀ typeName, ∃ before own after,
      set.sectionOf traits typeName = .ok own ∧
      text = headText set.hasDirectCalls ++ before ++ own ++ after ∧
      ∀ other : CommandSet, (∀ n, n ≠ typeName → other.get? n = set.get? n) →
        behaviourText traits other = (other.sectionOf traits typeName).map fun own =>
          headText other.hasDirectCalls ++ before ++ own ++ after := by
  refine ⟨?_, fun text htext typeName => ?_⟩
  · rw [behaviourText_eq, sectionsText]
    cases set.entries.mapM fun e => sectionText traits e.1 e.2 with
    | error fault => rfl
    | ok sections => rfl
  · rw [behaviourText_eq, sectionsText_around set traits typeName] at htext
    obtain ⟨sections, hsections, rfl⟩ := map_eq_ok_iff.mp htext
    obtain ⟨before, hbefore, hsections⟩ := bind_eq_ok_iff.mp hsections
    obtain ⟨own, hown, hsections⟩ := bind_eq_ok_iff.mp hsections
    obtain ⟨after, hafter, hsections⟩ := bind_eq_ok_iff.mp hsections
    rw [← Except.ok.inj hsections]
    refine ⟨before, own, after, hown, by simp [String.append_assoc], fun other hother => ?_⟩
    obtain ⟨hsmaller, hgreater⟩ := filterKeys_of_differ hother
    rw [behaviourText_eq, sectionsText_around other traits typeName, hsmaller,
      hgreater, hbefore, hafter]
    cases other.sectionOf traits typeName with
    | error fault => rfl
    | ok changed => simp [bind, Except.bind, pure, Except.pure, Except.map, String.append_assoc]

/-- A type between two others: with the only call of the set, then with a routine written by hand,
then without a command. -/
theorem behaviourText_sections_middle :
    let others : CommandSet := .ofList
      [("Alpha", { action := "read", entity := "x", api := "ec2" }),
       ("Gamma", { action := "delete", entity := "x", api := "ec2", hasDryRun := true })]
    let direct : Command :=
      { action := "create", entity := "x", api := "ec2", call := some "Make", input := some "X" }
    let manual : Command := { action := "create", entity := "x", api := "ec2" }
    ∃ before after made written,
      sectionText {} "Beta" direct = .ok made ∧ sectionText {} "Beta" manual = .ok written ∧
      behaviourText {} (others.insert "Beta" direct) = .ok (headText true ++ before ++ made ++ after) ∧
      behaviourText {} (others.insert "Beta" manual) =
        .ok (headText false ++ before ++ written ++ after) ∧
      behaviourText {} others = .ok (headText false ++ before ++ after) := by
  intro others direct manual
  let set : CommandSet := others.insert "Beta" direct
  obtain ⟨text, htext⟩ : ∃ text, behaviourText {} set = .ok text := by
    have hmade := behaviourText_of_refusals {} set
    have hnone : refusals set = [] := by decide +kernel
    rw [hnone] at hmade
    exact ⟨_, hmade.choose_spec⟩
  obtain ⟨-, happart⟩ := behaviourText_sections {} set
  obtain ⟨before, made, after, hmade, rfl, hsame⟩ := happart text htext "Beta"
  have hmanual := hsame (others.insert "Beta" manual) fun n hn => by
    rw [NameMap.get?_insert, NameMap.get?_insert, if_neg hn, if_neg hn]
  have hothers := hsame others fun n hn => by rw [NameMap.get?_insert, if_neg hn]
  obtain ⟨written, hwritten⟩ : ∃ written, sectionText {} "Beta" manual = .ok written := ⟨_, rfl⟩
  have htimed : set.hasDirectCalls = true := by decide +kernel
  have huntimed : CommandSet.hasDirectCalls (others.insert "Beta" manual) = false := by
    decide +kernel
  have hfew : others.hasDirectCalls = false := by decide +kernel
  have habsent : others.sectionOf {} "Beta" = .ok "" := rfl
  rw [sectionOf_insert] at hmade
  rw [sectionOf_insert, hwritten, huntimed] at hmanual
  rw [habsent, hfew] at hothers
  rw [htimed] at htext
  exact ⟨before, after, made, written, hmade, hwritten, htext,
    hmanual, by simpa [Except.map] using hothers⟩

end CommandGen
