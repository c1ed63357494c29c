import CommandGen.Proofs.Output.Lost

/-! Which settings keep the promise that a generation writes all of its files or none. The checks on
output names let some through that clash; with all others the promise is kept. -/
namespace CommandGen

open FileTree FileProgram

theorem outputFaults_eq_nil {before names : List String} : outputFaults before names = [] ↔
    (∀ name ∈ names, isPlainName name = true ∧ name ∉ before) ∧ names.Nodup := by
  induction names generalizing before with
  | nil => simp [outputFaults]
  | cons name rest ih =>
    rw [outputFaults, List.append_eq_nil_iff, ih, List.nodup_cons, List.forall_mem_cons]
    have hfirst : (if !isPlainName name then [SettingsFault.outputNotPlain name]
        else if before.contains name then [.outputTwice name] else []) = [] ↔
          isPlainName name = true ∧ name ∉ before := by
      by_cases hp : isPlainName name = true <;> by_cases hb : name ∈ before <;> simp [hp, hb]
    rw [hfirst]
    constructor
    · rintro ⟨hname, h, hd⟩
      refine ⟨⟨hname, fun x hx => ⟨(h x hx).1, fun hm => (h x hx).2 (by simp [hm])⟩⟩, fun hm => ?_, hd⟩
      exact (h name hm).2 (by simp)
    · rintro ⟨⟨hname, h⟩, hm, hd⟩
      refine ⟨hname, fun x hx => ⟨(h x hx).1, fun hb => ?_⟩, hd⟩
      rcases List.mem_cons.mp hb with rfl | hb
      · exact hm hx
      · exact (h x hx).2 hb

theorem isPlainName_iff {name : String} :
    isPlainName name = true ↔ name ≠ "" ∧ '/' ∉ name.toList ∧ '\\' ∉ name.toList := by
  simp only [isPlainName, Bool.and_eq_true, decide_eq_true_eq, List.all_eq_true]
  constructor
  · rintro ⟨hne, h⟩
    exact ⟨hne, fun hc => (h _ hc).1 rfl, fun hc => (h _ hc).2 rfl⟩
  · rintro ⟨hne, hs, hb⟩
    refine ⟨hne, fun c hc => ⟨?_, ?_⟩⟩
    · rintro rfl
      exact hs hc
    · rintro rfl
      exact hb hc

theorem Settings.outputs_of_validate {s : Settings} (h : s.validate = .ok s) :
    (∀ name ∈ s.outputs.toList, isPlainName name = true) ∧ s.outputs.toList.Nodup := by
  have hf : s.faults = [] := by
    unfold validate at h
    split at h
    · assumption
    · cases h
  simp only [faults, List.append_eq_nil_iff] at hf
  obtain ⟨hplain, hd⟩ := outputFaults_eq_nil.mp hf.1.2
  exact ⟨fun name hm => (hplain name hm).1, hd⟩

/-- Names of output files that clash: one is a dot or two, or one is that of a hidden file of
another one. The first hidden file harms if the other output can be staged, which takes that all
names before it can be those of entries; the second one harms if the other output can be written,
which takes that of all names. -/
def OutputNames.Clash (o : OutputNames) : Prop :=
  (∃ name ∈ o.toList, name = "." ∨ name = "..") ∨
    (∃ name ∈ o.toList, Path.hiddenName name "tmp" ∈ o.toList ∧
      isEntryName (Path.hiddenName name "tmp") = true ∧
        ∀ other ∈ o.toList.takeWhile (· ≠ name), isEntryName other = true) ∨
      ((∀ name ∈ o.toList, isEntryName name = true) ∧
        ∃ name ∈ o.toList, Path.hiddenName name "bak" ∈ o.toList)

instance (o : OutputNames) : Decidable o.Clash := inferInstanceAs (Decidable (_ ∨ _ ∨ _))

namespace Generator

variable {g : Generator} {t : FileTree} {dir : String} {ps : List OutputFile}

/-- What is promised of a generation: if it succeeds, each place holds what the preview shows for
it, and if it fails, every place holds what it held, with all that is in it. -/
structure Fulfils (g : Generator) (t : FileTree) (dir : String) : Prop where
  ok : ∀ rs u, (g.generate dir).run t = (.ok rs, u) →
    ∃ ps, g.preview = .ok ps ∧ List.Forall₂ (IsWritten t u dir) ps rs
  error : ∀ e u, (g.generate dir).run t = (.error e, u) →
    ∀ name ∈ g.outputs.toList, ∀ l, t.place (Path.join dir name) <+: l → u.entry? l = t.entry? l

theorem fulfils_of_error {e : GenerateError} (h : g.preview = .error e) : g.Fulfils t dir := by
  have hrun : (g.generate dir).run t = (.error e, t) := run_generate_error h dir t
  constructor
  · intro rs u hu
    rw [hrun] at hu
    cases hu
  · intro e' u hu name _ l _
    rw [hrun] at hu
    rw [← (Prod.mk.inj hu).2]

theorem fulfils_iff_promised (h : g.preview = .ok ps) : g.Fulfils t dir ↔
    t.Promised ((commit (ps.map (OutputFile.inDir dir))).run t).2 dir ps
      ((commit (ps.map (OutputFile.inDir dir))).run t).1 := by
  have hnames := path_of_preview h
  have hgenerate := run_generate h dir t
  cases hr : ((commit (ps.map (OutputFile.inDir dir))).run t).1 with
  | error e =>
    have hrun : (g.generate dir).run t =
        (.error (.commit e), ((commit (ps.map (OutputFile.inDir dir))).run t).2) := by
      rw [hgenerate, hr]
      rfl
    constructor
    · intro hkept p hp l hl
      exact hkept.error _ _ hrun p.path (hnames ▸ List.mem_map_of_mem hp) l hl
    · intro hsame
      constructor
      · intro rs u hu
        rw [hrun] at hu
        cases hu
      · intro e' u hu name hname l hl
        rw [hrun] at hu
        obtain ⟨p, hp, rfl⟩ := List.mem_map.mp (hnames ▸ hname)
        rw [← (Prod.mk.inj hu).2]
        exact hsame p hp l hl
  | ok rs =>
    have hrun : (g.generate dir).run t =
        (.ok rs, ((commit (ps.map (OutputFile.inDir dir))).run t).2) := by
      rw [hgenerate, hr]
      rfl
    constructor
    · intro hkept
      obtain ⟨ps', hps', hall⟩ := hkept.ok _ _ hrun
      rw [h, Except.ok.injEq] at hps'
      subst hps'
      exact hall
    · intro hall
      constructor
      · intro rs' u hu
        rw [hrun] at hu
        obtain ⟨hrs, hu⟩ := Prod.mk.inj hu
        rw [← Except.ok.inj hrs, ← hu]
        exact ⟨ps, h, hall⟩
      · intro e u hu
        rw [hrun] at hu
        cases hu

end Generator

section

variable {o : OutputNames} {t : FileTree} {dir : String}
  {ps pre post : List OutputFile} {q : OutputFile}

theorem takeWhile_ne {name : String} {before after : List String} (h : name ∉ before) :
    (before ++ name :: after).takeWhile (· ≠ name) = before := by
  have hb : ∀ x ∈ before, decide (x ≠ name) = true := by
    intro x hx
    rw [decide_eq_true_eq]
    rintro rfl
    exact h hx
  rw [List.takeWhile_append_of_pos hb]
  simp

theorem takeWhile_eq (ho : ps.map (·.path) = o.toList) (hd : o.toList.Nodup)
    (hps : ps = pre ++ q :: post) :
    o.toList.takeWhile (· ≠ q.path) = pre.map (·.path) := by
  have hsplit : o.toList = pre.map (·.path) ++ q.path :: post.map (·.path) := by simp [← ho, hps]
  rw [hsplit, List.nodup_append] at hd
  rw [hsplit]
  exact takeWhile_ne fun hm => hd.2.2 q.path hm q.path (by simp) rfl

/-- With names that do not clash, files are written as promised where making the directory spares
them, and only there. -/
theorem promised_iff_spares (ho : ps.map (·.path) = o.toList)
    (hplain : ∀ name ∈ o.toList, isPlainName name = true) (hd : o.toList.Nodup) (hc : ¬ o.Clash)
    (ht : t.IsTree) : t.Promised ((commit (ps.map (OutputFile.inDir dir))).run t).2 dir ps
      ((commit (ps.map (OutputFile.inDir dir))).run t).1 ↔ t.Spares dir o.toList := by
  simp only [OutputNames.Clash, not_or] at hc
  obtain ⟨hdots, hstaging, hbackup⟩ := hc
  have hn : ∀ p ∈ ps, Path.IsName p.path := by
    intro p hp
    have hm : p.path ∈ o.toList := ho ▸ List.mem_map_of_mem hp
    obtain ⟨hne, hslash, -⟩ := isPlainName_iff.mp (hplain p.path hm)
    exact ⟨hne, fun h => hdots ⟨_, hm, .inl h⟩, fun h => hdots ⟨_, hm, .inr h⟩, hslash⟩
  rw [← ho]
  refine ⟨spares_of_promised hn ht, fun hs => ?_⟩
  by_cases hh : NoHidden (ps.map (·.path))
  · exact promised_of_noHidden hn (ho ▸ hd) hh hs
  · refine promised_of_illegal hn hs (fun pre q post hps hpre he hm => ?_) ?_
    · refine hstaging ⟨q.path, ?_, ho ▸ hm, he, fun other hother => ?_⟩
      · rw [← ho, hps]
        simp
      · rw [takeWhile_eq ho hd hps] at hother
        obtain ⟨p, hp, rfl⟩ := List.mem_map.mp hother
        exact hpre p hp
    · -- if all names could be those of entries, a hidden one among them would clash
      by_contra hill
      have hall : ∀ name ∈ o.toList, isEntryName name = true := by
        intro name hm
        obtain ⟨p, hp, rfl⟩ := List.mem_map.mp (ho ▸ hm)
        by_contra he
        exact hill ⟨p, hp, by simpa using he⟩
      apply hh
      rw [ho]
      refine fun name hm =>
        ⟨fun htmp => hstaging ⟨name, hm, htmp, hall _ htmp, fun other hother => ?_⟩,
        fun hbak => hbackup ⟨hall, name, hm, hbak⟩⟩
      exact hall other ((List.takeWhile_sublist _).subset hother)

/-- With names that clash, there is a tree in which writing the files breaks the promise, although
making the directory spares them. -/
theorem exists_not_promised (ho : ps.map (·.path) = o.toList)
    (hplain : ∀ name ∈ o.toList, isPlainName name = true) (hd : o.toList.Nodup) (hc : o.Clash) :
    ∃ (t : FileTree) (dir : String), t.IsTree ∧ t.Spares dir o.toList ∧
      ¬ t.Promised ((commit (ps.map (OutputFile.inDir dir))).run t).2 dir ps
        ((commit (ps.map (OutputFile.inDir dir))).run t).1 := by
  have hmem : ∀ p ∈ ps, p.path ∈ o.toList := fun p hp => ho ▸ List.mem_map_of_mem hp
  have hnames : ∀ p ∈ ps, p.path ≠ "" ∧ '/' ∉ p.path.toList := by
    intro p hp
    obtain ⟨hne, hslash, -⟩ := isPlainName_iff.mp (hplain p.path (hmem p hp))
    exact ⟨hne, hslash⟩
  -- dots name a directory, so nothing can be written there
  by_cases hdots : ∃ name ∈ o.toList, name = "." ∨ name = ".."
  · obtain ⟨name, hm, hdot⟩ := hdots
    obtain ⟨q, hq, rfl⟩ := List.mem_map.mp (ho ▸ hm)
    have hlen : ps.length = 3 := by simpa [OutputNames.toList] using congrArg List.length ho
    have hleaves : leaves ((atWork []).start "a/b") (Path.parts "a/b") = [] := by decide
    refine ⟨atWork [], "a/b", isTree_atWork [], by simp [Spares, hleaves], ?_⟩
    exact not_promised_of_dots (fun p hp => (hnames p hp).2) (fun p hp => (hnames p hp).1) (ho ▸ hd)
      (by omega) hq hdot
  · have hn : ∀ p ∈ ps, Path.IsName p.path := fun p hp =>
      ⟨(hnames p hp).1, fun h => hdots ⟨_, hmem p hp, .inl h⟩, fun h => hdots ⟨_, hmem p hp, .inr h⟩,
        (hnames p hp).2⟩
    -- the other trees are entered where the program runs, so no directory is left
    have hid : ps.map (OutputFile.inDir "") = ps := by simp [funext inDir_empty]
    have hspares : ∀ t : FileTree, t.Spares "" o.toList := by
      intro t l hl
      simp [leaves] at hl
    have hstaging : ∀ name ∈ o.toList, Path.hiddenName name "tmp" ∈ o.toList →
        isEntryName (Path.hiddenName name "tmp") = true →
          (∀ other ∈ o.toList.takeWhile (· ≠ name), isEntryName other = true) →
            ∃ t : FileTree, t.IsTree ∧
              ¬ t.Promised ((commit ps).run t).2 "" ps ((commit ps).run t).1 := by
      intro name hm htmp he hbefore
      obtain ⟨q, hq, rfl⟩ := List.mem_map.mp (ho ▸ hm)
      obtain ⟨pre, post, hps⟩ := List.append_of_mem hq
      rw [takeWhile_eq ho hd hps] at hbefore
      exact not_promised_of_staging hps hn (ho ▸ hd) (fun p hp => hbefore _ (List.mem_map_of_mem hp)) he
        (ho ▸ htmp)
    suffices h : ∃ t : FileTree, t.IsTree ∧
        ¬ t.Promised ((commit ps).run t).2 "" ps ((commit ps).run t).1 by
      obtain ⟨t, ht, hnot⟩ := h
      exact ⟨t, "", ht, hspares t, by rwa [hid]⟩
    rcases hc.resolve_left hdots with ⟨name, hm, htmp, he, hbefore⟩ | ⟨hall, name, hm, hbak⟩
    · exact hstaging name hm htmp he hbefore
    · by_cases htmp : Path.hiddenName name "tmp" ∈ o.toList
      · refine hstaging name hm htmp (hall _ htmp) fun other hother => ?_
        exact hall other ((List.takeWhile_sublist _).subset hother)
      · obtain ⟨q, hq, rfl⟩ := List.mem_map.mp (ho ▸ hm)
        obtain ⟨pre, post, hps⟩ := List.append_of_mem hq
        exact not_promised_of_backup hps hn (ho ▸ hd) (fun p hp => hall _ (hmem p hp)) (ho ▸ htmp)
          (ho ▸ hbak)

end

theorem preview_empty (s : Settings) :
    ∃ ps, (Generator.ofRun ⟨.empty, none, []⟩ s).preview = .ok ps := ⟨_, rfl⟩

/-- The promise is kept exactly where making the directory spares the files, or they cannot be made,
if and only if the names do not clash. -/
theorem fulfils_iff_spares_iff_not_clash {s : Settings} (hs : s.validate = .ok s) :
    (∀ (r : RunState) (t : FileTree) (dir : String), t.IsTree →
      ((Generator.ofRun r s).Fulfils t dir ↔
        (¬ ∃ ps, (Generator.ofRun r s).preview = .ok ps) ∨ t.Spares dir s.outputs.toList)) ↔
      ¬ s.outputs.Clash := by
  obtain ⟨hplain, hd⟩ := Settings.outputs_of_validate hs
  constructor
  · intro h hc
    obtain ⟨ps, hps⟩ := preview_empty s
    obtain ⟨t, dir, ht, hspares, hnot⟩ :=
      exists_not_promised (Generator.path_of_preview hps) hplain hd hc
    have hkept := (h ⟨.empty, none, []⟩ t dir ht).mpr (.inr hspares)
    exact hnot ((Generator.fulfils_iff_promised hps).mp hkept)
  · intro hc r t dir ht
    cases hpreview : (Generator.ofRun r s).preview with
    | error e =>
      have hkept : (Generator.ofRun r s).Fulfils t dir := Generator.fulfils_of_error hpreview
      simp [hkept]
    | ok ps =>
      rw [Generator.fulfils_iff_promised hpreview,
        promised_iff_spares (Generator.path_of_preview hpreview) hplain hd hc ht]
      simp [Generator.ofRun]

/-- Names and a trait that are set, for a command with a call, and a path that leaves a directory
and comes back to it. -/
theorem named_outputs_fulfil :
    let s : Settings :=
      { outputs := ⟨"runs.rs", "inits.rs", "..defs.rs"⟩, traits := .ofList [("ec2", "Ec2")] }
    let set : CommandSet := .ofList
      [("CreateX", { action := "create", entity := "x", api := "ec2",
                     call := some "Make", input := some "X" })]
    let t := ((FileProgram.writeWithDirs "gen/runs.rs" "older").run (atWork ["w"])).2
    let g := Generator.ofRun ⟨set, none, []⟩ s
    (∃ ps, g.preview = .ok ps) ∧ g.Fulfils t "../w/gen" := by
  intro s set t g
  have hs : s.validate = .ok s := by decide +kernel
  have hc : ¬ s.outputs.Clash := by decide +kernel
  have hleaves : leaves (t.start "../w/gen") (Path.parts "../w/gen") = [["w"]] := by decide +kernel
  have hplaces : ∀ name ∈ s.outputs.toList, ¬ t.place (Path.join "../w/gen" name) <+: ["w"] := by
    decide +kernel
  have hspares : t.Spares "../w/gen" s.outputs.toList := by
    intro l hl name hname hinside
    rw [hleaves, List.mem_singleton] at hl
    exact absurd (hl ▸ hinside) (hplaces name hname)
  have ht : t.IsTree := FileProgram.run_isTree _ (isTree_atWork ["w"])
  exact ⟨⟨_, rfl⟩,
    ((fulfils_iff_spares_iff_not_clash hs).mpr hc ⟨set, none, []⟩ t "../w/gen" ht).mpr (.inr hspares)⟩

/-- Accepted names of which one is that of the first hidden file of another one: a generation breaks
its promise with them. -/
theorem accepted_outputs_break_promise :
    ¬ ∀ s : Settings, s.validate = .ok s →
      ∀ (r : RunState) (t : FileTree) (dir : String), t.IsTree →
      (Generator.ofRun r s).Fulfils t dir := by
  intro h
  let s : Settings := { outputs := { behaviour := ".gen.rs.tmp", registry := "gen.rs" } }
  have hs : s.validate = .ok s := by decide +kernel
  have hc : s.outputs.Clash := by decide +kernel
  obtain ⟨hplain, hd⟩ := Settings.outputs_of_validate hs
  obtain ⟨ps, hps⟩ := preview_empty s
  obtain ⟨t, dir, ht, -, hnot⟩ := exists_not_promised (Generator.path_of_preview hps) hplain hd hc
  exact hnot ((Generator.fulfils_iff_promised hps).mp (h s hs ⟨.empty, none, []⟩ t dir ht))

end CommandGen
