import CommandGen.CommandLine.Run
import CommandGen.Proofs.Check.Pipeline
import CommandGen.Proofs.Files.Reading
import CommandGen.Proofs.Output.Generate
import CommandGen.Proofs.Scan.Beside

/-! A second generation. The files that the first one leaves stand among the sources of the second
one; as long as they hold no commands, the second one makes the same files and finds them in their
places. -/
namespace CommandGen

open Source FileTree FileProgram

/-- A generation into the directory that is scanned, with the settings of this directory. If it
succeeds, it comes to these and to what became of the files. -/
def generateIn (dir : String) : FileProgram (Option (Settings × List (String × WriteResult))) := do
  match ← Settings.load dir none with
  | .error _ => return none
  | .ok settings =>
    match ← scanDirectory settings.scan dir with
    | .error _ => return none
    | .ok found =>
      match ({} : Pipeline).run (CommandSet.ofFound found) with
      | .error _ => return none
      | .ok state =>
        match ← (Generator.ofRun state settings).generate dir with
        | .error _ => return none
        | .ok results => return some (settings, results)

variable {t u : FileTree} {dir : String} {s : Settings} {rs : List (String × WriteResult)}
  {ps : List OutputFile} {o : ScanOptions}

/-- The settings of a directory are decided by the file that may hold them, and loading them changes
nothing. -/
theorem run_load (dir : String) (t : FileTree) : (Settings.load dir none).run t =
    (if t.isFile (Path.join dir Settings.fileName) then
      match t.readText (Path.join dir Settings.fileName) with
      | none => .error (.unreadable (Path.join dir Settings.fileName))
      | some text => Settings.ofText text
    else .ok {}, t) := by
  rw [Settings.load, run_bind, run_isFileAt]
  by_cases hfile : t.isFile (Path.join dir Settings.fileName) = true
  · rw [if_pos hfile, if_pos hfile, Settings.ofFile, run_bind, run_readTextAt]
    cases t.readText (Path.join dir Settings.fileName) <;> rfl
  · rw [if_neg hfile, if_neg hfile]
    rfl

theorem run_generate_ok_iff {g : Generator} : (g.generate dir).run t = (.ok rs, u) ↔
    ∃ ps, g.preview = .ok ps ∧ (commit (ps.map (OutputFile.inDir dir))).run t = (.ok rs, u) := by
  cases hps : g.preview with
  | error e => simp [Generator.run_generate_error hps]
  | ok ps =>
    rw [Generator.run_generate hps]
    cases hr : (commit (ps.map (OutputFile.inDir dir))).run t with
    | mk r v => cases r <;> simp [hr, Except.mapError]

theorem run_generateIn_iff : (generateIn dir).run t = (some (s, rs), u) ↔
    (Settings.load dir none).run t = (.ok s, t) ∧
      ∃ found state, (scanDirectory s.scan dir).run t = (.ok found, t) ∧
        ({} : Pipeline).run (CommandSet.ofFound found) = .ok state ∧
        ((Generator.ofRun state s).generate dir).run t = (.ok rs, u) := by
  constructor
  · intro h
    rw [generateIn, run_bind] at h
    obtain ⟨r, hload⟩ := (Settings.readsOnly_load dir none).exists_run t
    rw [hload] at h
    cases r with
    | error e => simp at h
    | ok settings =>
      obtain ⟨q, hscan⟩ := (readsOnly_scanDirectory settings.scan dir).exists_run t
      simp only [run_bind, hscan] at h
      cases q with
      | error e => simp at h
      | ok found =>
        cases hpipeline : ({} : Pipeline).run (CommandSet.ofFound found) with
        | error e => simp [hpipeline] at h
        | ok state =>
          simp only [hpipeline, run_bind] at h
          cases hgen : ((Generator.ofRun state settings).generate dir).run t with
          | mk results v =>
            rw [hgen] at h
            cases results with
            | error e => simp at h
            | ok results =>
              obtain ⟨⟨rfl, rfl⟩, rfl⟩ : (settings = s ∧ results = rs) ∧ v = u := by simpa using h
              exact ⟨hload, found, state, hscan, hpipeline, hgen⟩
  · rintro ⟨hload, found, state, hscan, hpipeline, hgen⟩
    simp [generateIn, hload, hscan, hpipeline, hgen]

/-- The program generates in this way. Its exit code tells whether it did, and it prints what became
of the files. -/
theorem run_runGenerate (dir : String) (t : FileTree) :
    ((runGenerate dir none false).run t).2 = ((generateIn dir).run t).2 ∧
      match ((generateIn dir).run t).1 with
      | none => ((runGenerate dir none false).run t).1.code = 1
      | some (_, results) => ((runGenerate dir none false).run t).1.code = 0 ∧
        ∃ findings, ((runGenerate dir none false).run t).1.output =
          findings ++ printLines (generateLines results) := by
  obtain ⟨r, hload⟩ := (Settings.readsOnly_load dir none).exists_run t
  cases r with
  | error e => simp [runGenerate, loadAndScan, generateIn, hload, Outcome.fail]
  | ok settings =>
    obtain ⟨q, hscan⟩ := (readsOnly_scanDirectory settings.scan dir).exists_run t
    cases q with
    | error e => simp [runGenerate, loadAndScan, generateIn, hload, hscan, Outcome.fail]
    | ok found =>
      cases hpipeline : ({} : Pipeline).runIn ⟨CommandSet.ofFound found, none, []⟩ with
      | mk state failure =>
        cases failure with
        | some f => simp [runGenerate, loadAndScan, generateIn, hload, hscan, Pipeline.run, hpipeline]
        | none =>
          cases hgen : ((Generator.ofRun state settings).generate dir).run t with
          | mk results v =>
            cases results with
            | error e =>
              simp [runGenerate, loadAndScan, generateIn, hload, hscan,
                Pipeline.run, hpipeline, hgen]
            | ok results =>
              simp [runGenerate, loadAndScan, generateIn, hload, hscan,
                Pipeline.run, hpipeline, hgen, Outcome.after, findingOutcome]

theorem locateFile?_of_commit {files : List OutputFile} (ha : t.Admits files)
    (h : (commit files).run t = (.ok rs, u)) {f : OutputFile} (hf : f ∈ files)
    (hn : Path.namesDirectory f.path = false) : u.locateFile? f.path = some (t.place f.path) := by
  have hstart : IsStaging t t t files [] files :=
    ⟨fun _ _ h => h, rfl, .refl t _ t, by simp, by simp, fun _ _ => rfl⟩
  rcases run_stageFiles ha hstart with ⟨ss, v, hv, hstaged⟩ | ⟨fault, v, hv, -⟩
  · have hcovers : ss.map (·.file) = files := by simpa using hstaged.covers
    obtain ⟨x, hx, rfl⟩ := List.mem_map.mp (hcovers ▸ hf)
    have hk : KeepsDirectories v u := by
      rw [commit, run_bind, hv] at h
      obtain rfl : _ = u := congrArg Prod.snd h
      exact run_keepsDirectories _ v
    have hone := hstaged.staged x hx
    unfold IsStaged at hone
    split at hone
    · have hloc := (hone.1.located hstaged.touches.keeps).2.2.1
      rw [hn] at hloc
      exact hk.locateFile? hloc
    · obtain ⟨l, hl, -⟩ := readText_eq_some.mp hone.1
      have hplace : l = v.place x.file.path := locate?_eq_some (locateFile?_eq_some hl).2
      rw [hstaged.touches.keeps.place_eq] at hplace
      exact hk.locateFile? (hplace ▸ hl)
  · simp [commit, hv] at h

theorem lane_of_names (hdir : (t.names dir).isSome) :
    ∀ l ∈ t.lane dir, t.isDirectoryAt l = true := by
  obtain ⟨hloc, hdirectory, -⟩ := names_eq hdir
  refine isDirectoryAt_of_walk (m := t.place dir) ?_ hdirectory
  unfold FileTree.locate? at hloc
  split at hloc
  · cases hloc
  · exact hloc

/-- Names of generated files with which a second generation finds the settings and the sources of
the first one: they are names right in the directory, all different from each other and from those
of all hidden files, and none is that of the settings. -/
structure IsApart (names : List String) : Prop where
  isName : ∀ n ∈ names, Path.IsName n
  nodup : (spotNames names).Nodup
  settings : Settings.fileName ∉ names

instance (names : List String) : Decidable (IsApart names) :=
  decidable_of_iff ((∀ n ∈ names, Path.IsName n) ∧ (spotNames names).Nodup ∧ Settings.fileName ∉ names)
    ⟨fun ⟨hn, hd, hs⟩ => ⟨hn, hd, hs⟩, fun h => ⟨h.isName, h.nodup, h.settings⟩⟩

section

variable (hs : IsApart (ps.map (·.path)))
include hs

theorem IsApart.isName_path : ∀ p ∈ ps, Path.IsName p.path :=
  fun _ hp => hs.isName _ (List.mem_map_of_mem hp)

variable (hdir : (t.names dir).isSome)
include hdir

theorem isHoused_inDir : ∀ f ∈ ps.map (OutputFile.inDir dir), IsHoused t f := by
  intro f hf
  obtain ⟨p, hp, rfl⟩ := List.mem_map.mp hf
  have hname := hs.isName_path p hp
  refine ⟨⟨p.path, fileName?_inDir hname dir⟩, ?_⟩
  rw [way, start_inDir hname, parts_inDir hname, List.dropLast_concat]
  exact lane_of_names hdir

theorem admits_of_isApart : t.Admits (ps.map (OutputFile.inDir dir)) := by
  obtain ⟨hd, hh⟩ := nodup_spotNames_iff.mp hs.nodup
  exact admits_inDir hs.isName_path hd hh (lane_of_names hdir)

variable (h : (commit (ps.map (OutputFile.inDir dir))).run t = (.ok rs, u))
include h

/-- A commit that succeeds in a directory that is there changes nothing but its files. -/
theorem sameOff_of_commit : SameOff t u (t.spotsIn dir (ps.map (·.path))) := by
  have ha := admits_of_isApart hs hdir
  have hspots : (ps.map (OutputFile.inDir dir)).flatMap t.spots = t.spotsIn dir (ps.map (·.path)) :=
    flatMap_spots_inDir hs.isName_path
  have hoff := off_commit (isHoused_inDir hs hdir)
  rw [h, hspots] at hoff
  rcases run_commit ha with ⟨ss, v, hv, hcom⟩ | ⟨fault, v, hv, -⟩
  · obtain rfl : v = u := by simpa [hv] using congrArg Prod.snd h
    refine ⟨hcom.touches.keeps.workDir, fun l => ?_, hoff⟩
    by_cases hl : l ∈ t.spotsIn dir (ps.map (·.path))
    · cases ht : t.isDirectoryAt l with
      | true => exact hcom.touches.keeps.directory l ht
      | false =>
        obtain ⟨f, hf, hlf⟩ := List.mem_flatMap.mp (hspots ▸ hl)
        obtain ⟨hpath, hstaging, hbackup⟩ := hcom.done f hf
        simp only [spots, List.mem_cons, List.not_mem_nil, or_false] at hlf
        rcases hlf with rfl | rfl | rfl
        · exact not_directory_of_file hpath
        · rcases hstaging with he | he
          · simpa [isDirectoryAt, he] using ht
          · exact not_directory_of_none he
        · rcases hbackup with he | he
          · simpa [isDirectoryAt, he] using ht
          · exact not_directory_of_none he
    · simp [isDirectoryAt, entry?_of_off hoff hl]
  · rw [hv] at h
    cases h

/-- Each file can be read with its content after. It was written, or could be read with it
before. -/
theorem readText_of_commit {p : OutputFile} (hp : p ∈ ps) :
    u.readText (Path.join dir p.path) = some p.content ∧
      ((Path.join dir p.path, .written) ∈ rs ∨ t.readText (Path.join dir p.path) = some p.content) := by
  have hlane : ∀ l ∈ t.lane dir, t.isDirectoryAt l = true := lane_of_names hdir
  have hspares : t.Spares dir (ps.map (·.path)) := fun l _ _ _ _ => by
    rw [makeDirs_of_directories hlane]
  obtain ⟨hd, hh⟩ := nodup_spotNames_iff.mp hs.nodup
  have hpromised := promised_of_noHidden hs.isName_path hd hh hspares
  rw [h] at hpromised
  have hf : p.inDir dir ∈ ps.map (OutputFile.inDir dir) := List.mem_map_of_mem hp
  have hloc : u.locateFile? (p.inDir dir).path = some (t.place (p.inDir dir).path) :=
    locateFile?_of_commit (admits_of_isApart hs hdir) h hf
      (Path.namesDirectory_join (hs.isName_path p hp))
  change u.locateFile? (Path.join dir p.path) = some (t.place (Path.join dir p.path)) at hloc
  obtain ⟨⟨path, result⟩, hr, hpath, hentry, hunchanged, -⟩ := hpromised.exists_isWritten hp
  obtain rfl : path = Path.join dir p.path := hpath
  refine ⟨readText_eq_some.mpr ⟨_, hloc, hentry⟩, ?_⟩
  cases result with
  | written => exact .inl hr
  | unchanged =>
    rw [(sameOff_of_commit hs hdir h).locateFile?_eq] at hloc
    exact .inr (readText_eq_some.mpr ⟨_, hloc, hunchanged rfl⟩)

end

/-- No source file at a path declares a command: there is none, or its text can be scanned and holds
none. -/
def DeclaresNone (o : ScanOptions) (t : FileTree) (path : String) : Prop :=
  Path.extension? path = some "rs" → ∀ text, t.readText path = some text →
  scanSource o ⟨path, text⟩ = .ok []

instance (o : ScanOptions) (t : FileTree) (path : String) : Decidable (DeclaresNone o t path) :=
  inferInstanceAs (Decidable (_ → ∀ text ∈ t.readText path, _))

/-- Files that declare no command hold none, if those of them that are sources can be read. -/
theorem holdNone_of_declaresNone {names : List String} (hdir : (t.names dir).isSome)
    (hnames : ∀ n ∈ names, Path.IsName n) (h : ∀ n ∈ names, DeclaresNone o t (Path.join dir n))
    (hread : ∀ path ∈ t.sourcePaths dir, t.leadsTo dir names path = true → (t.readText path).isSome) :
    HoldNone o t dir names := by
  intro path hpath hleads
  have hrs : Path.extension? path = some "rs" := extension?_of_sourcePaths hpath
  obtain ⟨n, hn, hext, hsame⟩ := readText_of_leadsTo hdir hnames hrs hleads
  obtain ⟨text, htext⟩ := Option.isSome_iff_exists.mp (hread path hpath hleads)
  rw [htext]
  exact textEntries?_of_scanSource (h n hn hext text (hsame ▸ htext))

theorem load_eq {names : List String} (h : SameOff t u (t.spotsIn dir names))
    (hs : Settings.fileName ∉ names) :
    ((Settings.load dir none).run u).1 = ((Settings.load dir none).run t).1 := by
  have hspot : Settings.fileName ∉ spotNames names := by
    intro hmem
    obtain ⟨n, hn, hm⟩ := List.mem_flatMap.mp hmem
    simp only [List.mem_cons, List.not_mem_nil, or_false] at hm
    rcases hm with rfl | hm | hm
    · exact hs hn
    · simpa [Settings.fileName, Path.toList_hiddenName] using congrArg String.toList hm
    · simpa [Settings.fileName, Path.toList_hiddenName] using congrArg String.toList hm
  have hname : Path.IsName Settings.fileName := by decide
  obtain ⟨htext, hfile⟩ :=
    h.file_eq fun l hl => not_mem_spotsIn_of_name (Path.fileName?_join hname) hspot hl
  rw [run_load, run_load, htext, hfile]

section

variable (hs : IsApart (ps.map (·.path))) (hdir : (t.names dir).isSome)
  (h : (commit (ps.map (OutputFile.inDir dir))).run t = (.ok rs, u))
include hs hdir h

/-- Neither what was written over nor what was written declares a command. So the sources hold what
they held. -/
theorem scannable_of_commit (hold : ∀ p ∈ ps, DeclaresNone o t (Path.join dir p.path))
    (hnew : ∀ p ∈ ps, (Path.join dir p.path, .written) ∈ rs → DeclaresNone o u (Path.join dir p.path))
    (hscan : Scannable o (t.sourceTexts dir)) :
    Scannable o (u.sourceTexts dir) ∧
      entriesOf o (u.sourceTexts dir) = entriesOf o (t.sourceTexts dir) := by
  have hsame := sameOff_of_commit hs hdir h
  have hbefore : HoldNone o t dir (ps.map (·.path)) := by
    refine holdNone_of_declaresNone hdir hs.isName (List.forall_mem_map.mpr hold) fun path hpath _ => ?_
    have heach := hscan.each _ (List.mem_map_of_mem hpath)
    cases hr : t.readText path with
    | none => simp [hr, textEntries?] at heach
    | some text => rfl
  have hafter : HoldNone o u dir (ps.map (·.path)) := by
    have hdir' := hsame.names_isSome hdir
    refine holdNone_of_declaresNone hdir' hs.isName (List.forall_mem_map.mpr ?_)
      fun path hpath hleads => ?_
    · intro p hp hrs text htext
      obtain ⟨hcontent, hw | hread⟩ := readText_of_commit hs hdir h hp
      · exact hnew p hp hw hrs text htext
      · exact hold p hp hrs text (hread.trans (hcontent.symm.trans htext))
    · obtain ⟨n, hn, -, hread⟩ :=
        readText_of_leadsTo hdir' hs.isName (extension?_of_sourcePaths hpath) hleads
      obtain ⟨p, hp, rfl⟩ := List.mem_map.mp hn
      rw [hread, (readText_of_commit hs hdir h hp).1]
      rfl
  exact scannable_beside hsame hdir hs.isName hbefore hafter hscan

theorem run_commit_again : (commit (ps.map (OutputFile.inDir dir))).run u =
    (.ok (ps.map fun p => (Path.join dir p.path, .unchanged)), u) := by
  have hpassing : ∀ f ∈ ps.map (OutputFile.inDir dir), u.readText f.path = some f.content :=
    List.forall_mem_map.mpr fun p hp => (readText_of_commit hs hdir h hp).1
  rw [run_commit_passing hpassing, List.map_map]
  rfl

end

/-- A generation succeeds if the sources of the directory can be scanned together, their commands
pass, and the files can be written. -/
theorem run_generateIn_of_entries {set : CommandSet} {state : RunState}
    (hload : (Settings.load dir none).run t = (.ok s, t)) (hdir : (t.names dir).isSome)
    (hscan : Scannable s.scan (t.sourceTexts dir))
    (hset : set.entries.Perm (entriesOf s.scan (t.sourceTexts dir)))
    (hstate : ({} : Pipeline).run set = .ok state)
    (hgen : ((Generator.ofRun state s).generate dir).run t = (.ok rs, u)) :
    (generateIn dir).run t = (some (s, rs), u) := by
  obtain ⟨r, hr, hfound, hok⟩ := @run_scanDirectory s.scan t dir hdir
  obtain ⟨found, rfl⟩ := hok hscan
  have hsame : CommandSet.ofFound found = set :=
    NameMap.ext_of_perm ((hfound found rfl).2.trans hset.symm)
  exact run_generateIn_iff.mpr ⟨hload, found, state, hr, hsame ▸ hstate, hgen⟩

/-- A generation after one that succeeded finds all files in their places and changes nothing, if
the names of these are apart and the files declare no command, neither those that were there before
nor those that were written. -/
theorem generateIn_again (h : (generateIn dir).run t = (some (s, rs), u))
    (hs : IsApart s.outputs.toList) (hold : ∀ n ∈ s.outputs.toList,
    DeclaresNone s.scan t (Path.join dir n))
    (hnew : ∀ n ∈ s.outputs.toList, (Path.join dir n, .written) ∈ rs →
      DeclaresNone s.scan u (Path.join dir n)) :
    (generateIn dir).run u =
      (some (s, s.outputs.toList.map fun n => (Path.join dir n, .unchanged)), u) := by
  obtain ⟨hload, found, state, hscan, hpipeline, hgen⟩ := run_generateIn_iff.mp h
  have hdir := names_isSome_of_scan hscan
  obtain ⟨ps, hps, hcommit⟩ := run_generate_ok_iff.mp hgen
  have hnames : ps.map (·.path) = s.outputs.toList := Generator.path_of_preview hps
  rw [← hnames] at hs hold hnew ⊢
  have hsame := sameOff_of_commit hs hdir hcommit
  -- the settings
  have hload' : (Settings.load dir none).run u = (.ok s, u) := by
    have hsettings := load_eq hsame hs.settings
    rw [hload] at hsettings
    exact Prod.ext hsettings (by rw [run_load])
  -- the commands
  obtain ⟨r, hr, hfound, -⟩ := @run_scanDirectory s.scan t dir hdir
  obtain rfl : r = .ok found := congrArg Prod.fst (hr.symm.trans hscan)
  obtain ⟨hscannable, hentries⟩ := hfound found rfl
  obtain ⟨hscannable', hsources⟩ := scannable_of_commit hs hdir hcommit
    (fun p hp => hold p.path (List.mem_map_of_mem hp))
      (fun p hp => hnew p.path (List.mem_map_of_mem hp)) hscannable
  -- the files
  have hgen' : ((Generator.ofRun state s).generate dir).run u =
      (.ok ((ps.map (·.path)).map fun n => (Path.join dir n, .unchanged)), u) := by
    rw [List.map_map]
    exact run_generate_ok_iff.mpr ⟨ps, hps, run_commit_again hs hdir hcommit⟩
  exact run_generateIn_of_entries hload' (hsame.names_isSome hdir) hscannable'
    (hsources ▸ hentries) hpipeline hgen'

/-- A directory in which an older source stands where one of the files goes, and one with a
command. -/
theorem generateIn_again_over_source :
    let older := "[output]\nruns = \"gen.rs\"\ninits = \"inits\"\ndefinitions = \"defs\""
    let plain := "[output]\nruns = \"runs\"\ninits = \"inits\"\ndefinitions = \"defs\""
    let source :=
      "struct B \x7b #[tag = \"command:\\\"ec2\\\" action:\\\"read\\\" entity:\\\"vpc\\\"\"] b: () \x7d"
    let t : FileTree :=
      { entries := [(["d"], .directory), (["d", "cmdforge.toml"], .file (.text older)),
          (["d", "gen.rs"], .file (.text "use super::*;")),
          (["e"], .directory), (["e", "cmdforge.toml"], .file (.text plain)),
          (["e", "x.rs"], .file (.text source))] }
    ∀ dir ∈ ["d", "e"], ∃ s rs u, (generateIn dir).run t = (some (s, rs), u) ∧ u ≠ t ∧
      (generateIn dir).run u =
        (some (s, s.outputs.toList.map fun n => (Path.join dir n, .unchanged)), u) := by
  intro older plain source t
  have hagain (dir : String) (o : OutputNames)
      (rs : List (String × WriteResult)) (set : CommandSet) :
      let s : Settings := { outputs := o }
      let state : RunState :=
        ⟨set, some (ActionIndex.ofCommands set), Lint.builtIn.flatMap (·.findings set)⟩
      let u := (((Generator.ofRun state s).generate dir).run t).2
      (Settings.load dir none).run t = (.ok s, t) → (t.names dir).isSome →
        (∀ text? ∈ t.sourceTexts dir, (textEntries? {} text?).isSome) →
        entriesOf {} (t.sourceTexts dir) = set.entries → (set.entries.map (·.1)).Nodup →
        (∀ l ∈ Lint.builtIn, ∀ d ∈ l.check set, d.isError = false) →
        (((Generator.ofRun state s).generate dir).run t).1 = .ok rs → IsApart o.toList →
        (∀ n ∈ o.toList, DeclaresNone {} t (Path.join dir n)) →
        (∀ n ∈ o.toList, DeclaresNone {} u (Path.join dir n)) → u ≠ t →
        ∃ s rs u, (generateIn dir).run t = (some (s, rs), u) ∧ u ≠ t ∧
          (generateIn dir).run u =
            (some (s, s.outputs.toList.map fun n => (Path.join dir n, .unchanged)), u) := by
    intro s state u hload hdir heach hset hdiffer hclean hresults hapart hold hnew hchanged
    have hfirst : (generateIn dir).run t = (some (s, rs), u) :=
      run_generateIn_of_entries hload hdir ⟨heach,
        hset ▸ hdiffer⟩ (by rw [hset]) (Pipeline.run_eq_ok_iff.mpr ⟨hclean, rfl⟩)
        (Prod.ext hresults rfl)
    exact ⟨s, rs, u, hfirst, hchanged, generateIn_again hfirst hapart hold fun n hn _ => hnew n hn⟩
  refine List.forall_mem_cons.mpr ⟨?_, List.forall_mem_singleton.mpr ?_⟩
  · exact hagain "d" ⟨"gen.rs", "inits", "defs"⟩
      [("d/gen.rs", .written), ("d/inits", .written),
        ("d/defs", .written)] .empty (by decide +kernel) (by decide +kernel)
      (by decide +kernel) (by decide +kernel) (by decide +kernel) (by decide +kernel) (by decide +kernel)
      (by decide +kernel) (by decide +kernel) (by decide +kernel) (by decide +kernel)
  · exact hagain "e" ⟨"runs", "inits", "defs"⟩
      [("e/runs", .written), ("e/inits", .written), ("e/defs", .written)]
      (.ofList [("B", { action := "read", entity := "vpc", api := "ec2" })])
        (by decide +kernel) (by decide +kernel)
      (by decide +kernel) (by decide +kernel) (by decide +kernel) (by decide +kernel) (by decide +kernel)
      (by decide +kernel) (by decide +kernel) (by decide +kernel) (by decide +kernel)

end CommandGen
