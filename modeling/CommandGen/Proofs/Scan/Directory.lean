import CommandGen.Proofs.Files.Program
import CommandGen.Proofs.Scan.Source
import CommandGen.Scan.Directory

/-! The scan of a directory looks at the texts of its source files only: neither their names nor
their order matters for the commands that it finds, nor for whether it succeeds. -/
namespace CommandGen

open Source

/-- A command by the name of its type. -/
def FoundCommand.entry (x : FoundCommand) : String × Command := (x.typeName, x.command)

/-- The commands in a text by the names of their types, if all of it can be scanned. A file that
holds no text has none. -/
def textEntries? (o : ScanOptions) (text? : Option String) : Option (List (String × Command)) :=
  text?.bind fun text => (scanFile o ⟨"", text⟩).toOption.map (·.map FoundCommand.entry)

section

variable {o : ScanOptions} {other text : String}

theorem scanStructs_entries {name : String} (structs : List (Bool × StructDecl)) :
    (scanStructs o ⟨name, text⟩ structs).toOption.map (·.map FoundCommand.entry) =
      (scanStructs o ⟨other, text⟩ structs).toOption.map (·.map FoundCommand.entry) := by
  induction structs with
  | nil => rfl
  | cons s rest ih =>
    obtain ⟨nested, decl⟩ := s
    have hrange : File.range ⟨name, text⟩ = File.range ⟨other, text⟩ := rfl
    rw [scanStructs, scanStructs, scanStruct, scanStruct, hrange]
    cases declaredCommand? o (File.range ⟨other, text⟩) decl with
    | error e => rfl
    | ok command? =>
      cases hn : scanStructs o ⟨name, text⟩ rest with
      | error e =>
        cases ho : scanStructs o ⟨other, text⟩ rest with
        | error e => rfl
        | ok more => simp [hn, ho, Except.toOption] at ih
      | ok more =>
        cases ho : scanStructs o ⟨other, text⟩ rest with
        | error e => simp [hn, ho, Except.toOption] at ih
        | ok others =>
          have hmore : more.map FoundCommand.entry = others.map FoundCommand.entry := by
            simpa [hn, ho, Except.toOption] using ih
          cases command? with
          | none => exact congrArg some hmore
          | some c => exact congrArg (fun es => some ((decl.name, c) :: es)) hmore

theorem textEntries?_eq (name : String) : textEntries? o (some text) =
    (scanFile o ⟨name, text⟩).toOption.map (·.map FoundCommand.entry) := by
  unfold textEntries? scanFile
  have hitems : File.items? ⟨"", text⟩ = File.items? ⟨name, text⟩ := rfl
  rw [Option.bind_some, hitems]
  cases File.items? ⟨name, text⟩ with
  | none => rfl
  | some items => exact scanStructs_entries _

theorem textEntries?_of_scanSource {name : String} (h : scanSource o ⟨name, text⟩ = .ok []) :
    textEntries? o (some text) = some [] := by
  rw [textEntries?_eq name, (scanFile_of_scanSource h).1]
  rfl

end

/-- The entries of all texts together, leaving out those that cannot be scanned. -/
def entriesOf (o : ScanOptions) (texts : List (Option String)) : List (String × Command) :=
  (texts.filterMap (textEntries? o)).flatten

/-- Texts that can be scanned together: each of them can, and no two of their commands have one
name. -/
structure Scannable (o : ScanOptions) (texts : List (Option String)) : Prop where
  each : ∀ text? ∈ texts, (textEntries? o text?).isSome
  differ : ((entriesOf o texts).map (·.1)).Nodup

theorem entriesOf_perm {o : ScanOptions} {texts others : List (Option String)}
    (h : texts.Perm others) :
    (entriesOf o texts).Perm (entriesOf o others) := (h.filterMap _).flatten

theorem Scannable.perm {o : ScanOptions} {texts others : List (Option String)}
    (hs : Scannable o texts) (h : texts.Perm others) : Scannable o others where
  each text? hmem := hs.each text? (h.mem_iff.mpr hmem)
  differ := ((entriesOf_perm h).map _).nodup_iff.mp hs.differ

variable {o : ScanOptions} {t : FileTree} {found : List FoundCommand} {paths : List String}

theorem namesDiffer_iff : NamesDiffer found ↔ ((found.map FoundCommand.entry).map (·.1)).Nodup := by
  rw [NamesDiffer, List.map_map]
  rfl

def IsScanOf (o : ScanOptions) (found : List FoundCommand) (texts : List (Option String)) :
    Except ScanError (List FoundCommand) → Prop
  | .ok all => (∀ text? ∈ texts, (textEntries? o text?).isSome) ∧ NamesDiffer all ∧
      all.map FoundCommand.entry = found.map FoundCommand.entry ++ entriesOf o texts
  | .error _ => ¬ ((∀ text? ∈ texts, (textEntries? o text?).isSome) ∧
      ((found.map FoundCommand.entry ++ entriesOf o texts).map (·.1)).Nodup)

theorem entriesOf_cons {text? : Option String} {texts : List (Option String)} :
    entriesOf o (text? :: texts) = (textEntries? o text?).getD [] ++ entriesOf o texts := by
  cases h : textEntries? o text? <;> simp [entriesOf, h]

theorem IsScanOf.cons {text? : Option String} {texts : List (Option String)}
    {part : List FoundCommand} {r : Except ScanError (List FoundCommand)}
    (h : textEntries? o text? = some (part.map FoundCommand.entry))
    (hr : IsScanOf o (found ++ part) texts r) : IsScanOf o found (text? :: texts) r := by
  have hsplit : (found ++ part).map FoundCommand.entry ++ entriesOf o texts =
      found.map FoundCommand.entry ++ entriesOf o (text? :: texts) := by
    rw [entriesOf_cons, h, Option.getD_some, List.map_append, List.append_assoc]
  cases r with
  | ok all =>
    obtain ⟨heach, hdiffer, hall⟩ := hr
    exact ⟨List.forall_mem_cons.mpr ⟨by simp [h], heach⟩, hdiffer, hall.trans hsplit⟩
  | error e =>
    rintro ⟨heach, hdiffer⟩
    exact hr ⟨(List.forall_mem_cons.mp heach).2, hsplit ▸ hdiffer⟩

theorem run_scanFiles (h : NamesDiffer found) :
    ∃ r, (scanFiles o found paths).run t = (r, t) ∧ IsScanOf o found (paths.map t.readText) r := by
  -- `found` is what the files before came to
  induction paths generalizing found with
  | nil => exact ⟨.ok found, rfl, by simp, h, by simp [entriesOf]⟩
  | cons path rest ih =>
    rw [scanFiles, FileProgram.run_bind, FileProgram.run_readTextAt, List.map_cons]
    cases t.readText path with
    | none => exact ⟨_, rfl, fun hall => by simpa [textEntries?] using hall.1⟩
    | some text =>
      have hentries : textEntries? o (some text) = _ := textEntries?_eq path
      simp only
      unfold addFile
      cases hscan : scanFile o ⟨path, text⟩ with
      | error e =>
        rw [hscan] at hentries
        exact ⟨_, rfl, fun hall => by simpa [hentries, Except.toOption] using hall.1⟩
      | ok part =>
        replace hentries : textEntries? o (some text) = some (part.map FoundCommand.entry) := by
          rw [hentries, hscan]
          rfl
        have hadd : IsAdding (found ++ part) (part.foldlM addFound found) := isAdding_foldlM h
        cases hr : part.foldlM addFound found with
        | error e =>
          rw [hr] at hadd
          refine ⟨.error e, by simp [bind, Except.bind, hr], fun hall => hadd.not_namesDiffer ?_⟩
          have hnames := hall.2
          rw [entriesOf_cons, hentries, Option.getD_some, ← List.append_assoc, ← List.map_append,
            List.map_append] at hnames
          exact namesDiffer_iff.mpr (List.nodup_append.mp hnames).1
        | ok all =>
          rw [hr] at hadd
          obtain ⟨rfl, hdiffer⟩ := hadd
          obtain ⟨r, hrun, hscan⟩ := ih hdiffer
          exact ⟨r, by simpa [bind, Except.bind, hr] using hrun, hscan.cons hentries⟩

namespace FileTree

/-- The paths of the source files right inside a directory: the files with the extension of
sources. -/
def sourcePaths (t : FileTree) (dir : String) : List String :=
  (((t.names dir).getD []).map (Path.join dir)).filter fun path =>
    Path.extension? path = some "rs" && t.isFile path

/-- The texts of the source files right inside a directory. A file that cannot be read has none. -/
def sourceTexts (t : FileTree) (dir : String) : List (Option String) :=
  (t.sourcePaths dir).map t.readText

theorem extension?_of_sourcePaths {dir path : String} (h : path ∈ t.sourcePaths dir) :
    Path.extension? path = some "rs" := by
  have hsource := (List.mem_filter.mp h).2
  simp only [Bool.and_eq_true, decide_eq_true_eq] at hsource
  exact hsource.1

end FileTree

theorem run_sourceFilesAmong : (sourceFilesAmong paths).run t =
    (paths.filter fun path => Path.extension? path = some "rs" && t.isFile path, t) := by
  induction paths with
  | nil => rfl
  | cons path rest ih =>
    rw [sourceFilesAmong]
    by_cases hrs : Path.extension? path = some "rs"
    · cases hfile : t.isFile path <;> simp [hrs, hfile, ih]
    · simp [hrs, ih]

theorem run_sourceFiles {dir : String} (h : (t.names dir).isSome) :
    ∃ paths, (sourceFiles dir).run t = (.ok paths, t) ∧ paths.Perm (t.sourcePaths dir) := by
  obtain ⟨names, hnames⟩ := Option.isSome_iff_exists.mp h
  have hsorted := (List.mergeSort_perm names fun a b => decide (a ≤ b)).map (Path.join dir)
  have hpaths := hsorted.filter fun path => Path.extension? path = some "rs" && t.isFile path
  refine ⟨_, ?_, by simpa [FileTree.sourcePaths, hnames] using hpaths⟩
  simp [sourceFiles, hnames, run_sourceFilesAmong]

/-- Scanning a directory leaves the tree as it is. It succeeds if all texts can be scanned together,
and finds their commands. -/
theorem run_scanDirectory {dir : String} (h : (t.names dir).isSome) :
    ∃ r, (scanDirectory o dir).run t = (r, t) ∧
      (∀ found, r = .ok found → Scannable o (t.sourceTexts dir) ∧
        (CommandSet.ofFound found).entries.Perm (entriesOf o (t.sourceTexts dir))) ∧
      (Scannable o (t.sourceTexts dir) → ∃ found, r = .ok found) := by
  obtain ⟨paths, hpaths, hperm⟩ := run_sourceFiles h
  obtain ⟨r, hrun, hscan⟩ := @run_scanFiles o t [] paths List.nodup_nil
  have htexts : (paths.map t.readText).Perm (t.sourceTexts dir) := hperm.map _
  refine ⟨r, by simp [scanDirectory, hpaths, hrun], ?_, fun hs => ?_⟩
  · rintro found rfl
    obtain ⟨heach, hdiffer, hall⟩ := hscan
    have hall : found.map FoundCommand.entry = entriesOf o (paths.map t.readText) := by
      simpa using hall
    have hs : Scannable o (paths.map t.readText) := ⟨heach, hall ▸ namesDiffer_iff.mp hdiffer⟩
    refine ⟨hs.perm htexts, ?_⟩
    have hset := perm_ofFound hdiffer
    exact hset.trans (hall ▸ entriesOf_perm htexts)
  · cases r with
    | ok found => exact ⟨found, rfl⟩
    | error e =>
      have hpaths := hs.perm htexts.symm
      exact absurd ⟨hpaths.each, by simpa using hpaths.differ⟩ hscan

theorem run_scanDirectory_missing {dir : String} (h : t.names dir = none) :
    (scanDirectory o dir).run t = (.error (.unreadable dir), t) := by
  have hsources : (sourceFiles dir).run t = (.error (.unreadable dir), t) := by
    simp [sourceFiles, h]
  simp [scanDirectory, hsources]

theorem names_isSome_of_scan {u : FileTree} {dir : String}
    (h : (scanDirectory o dir).run t = (.ok found, u)) :
    (t.names dir).isSome := by
  cases hn : t.names dir with
  | some names => rfl
  | none => simp [run_scanDirectory_missing hn] at h

/-- The commands of a file alone, if it can be read and scanned. -/
def soloSet (o : ScanOptions) (t : FileTree) (path : String) : Option CommandSet :=
  (t.readText path).bind fun text => (scanSource o ⟨path, text⟩).toOption.map CommandSet.ofFound

theorem soloSet_eq (path : String) : soloSet o t path =
    (textEntries? o (t.readText path)).bind fun es =>
      if (es.map (·.1)).Nodup then some (NameMap.ofList es) else none := by
  rw [soloSet]
  cases t.readText path with
  | none => rfl
  | some text =>
    rw [textEntries?_eq path, Option.bind_some]
    unfold scanSource addFile
    cases scanFile o ⟨path, text⟩ with
    | error e => rfl
    | ok found =>
      have hadd : IsAdding found (found.foldlM addFound []) := isAdding_foldlM List.nodup_nil
      change (found.foldlM addFound []).toOption.map CommandSet.ofFound = _
      cases hr : found.foldlM addFound [] with
      | error e =>
        rw [hr] at hadd
        exact (if_neg (mt namesDiffer_iff.mpr hadd.not_namesDiffer)).symm
      | ok all =>
        rw [hr] at hadd
        obtain ⟨rfl, hdiffer⟩ := hadd
        exact (if_pos (namesDiffer_iff.mp hdiffer)).symm

theorem soloSet_eq_some_iff {path : String} {set : CommandSet} : soloSet o t path = some set ↔
    ∃ es, textEntries? o (t.readText path) = some es ∧ (es.map (·.1)).Nodup ∧
      NameMap.ofList es = set := by
  rw [soloSet_eq, Option.bind_eq_some_iff]
  refine exists_congr fun es => and_congr_right fun _ => ?_
  split <;> simp_all

theorem solo_entries (h : ∀ path ∈ paths, (soloSet o t path).isSome) :
    (∀ text? ∈ paths.map t.readText, (textEntries? o text?).isSome) ∧
      ((paths.filterMap (soloSet o t)).flatMap (·.entries)).Perm
        (entriesOf o (paths.map t.readText)) := by
  induction paths with
  | nil => simp [entriesOf]
  | cons path rest ih =>
    obtain ⟨hpath, hrest⟩ := List.forall_mem_cons.mp h
    obtain ⟨heach, hperm⟩ := ih hrest
    obtain ⟨set, hset⟩ := Option.isSome_iff_exists.mp hpath
    obtain ⟨es, hes, hnodup, rfl⟩ := soloSet_eq_some_iff.mp hset
    rw [List.map_cons, entriesOf_cons, hes, Option.getD_some,
      List.filterMap_cons_some hset, List.flatMap_cons]
    exact ⟨List.forall_mem_cons.mpr ⟨by simp [hes], heach⟩, (NameMap.perm_ofList hnodup).append hperm⟩

theorem Scannable.solo (h : Scannable o (paths.map t.readText)) :
    ∀ path ∈ paths, (soloSet o t path).isSome := by
  intro path hpath
  have hmem : t.readText path ∈ paths.map t.readText := List.mem_map_of_mem hpath
  obtain ⟨es, hes⟩ := Option.isSome_iff_exists.mp (h.each _ hmem)
  have hsub : es.Sublist (entriesOf o (paths.map t.readText)) :=
    List.sublist_flatten_of_mem (List.mem_filterMap.mpr ⟨_, hmem, hes⟩)
  have hnodup : (es.map (·.1)).Nodup := h.differ.sublist (hsub.map _)
  exact Option.isSome_iff_exists.mpr ⟨_, soloSet_eq_some_iff.mpr ⟨es, hes, hnodup, rfl⟩⟩

/-- Files can be scanned together if each of them can be alone and no two declare one name. -/
theorem scannable_iff_solo : Scannable o (paths.map t.readText) ↔
    (∀ path ∈ paths, (soloSet o t path).isSome) ∧
      (paths.filterMap (soloSet o t)).Pairwise fun a b => ∀ name ∈ a.keys, name ∉ b.keys := by
  have hkeys (h : ∀ path ∈ paths, (soloSet o t path).isSome) :
      ((entriesOf o (paths.map t.readText)).map (·.1)).Nodup ↔
        (paths.filterMap (soloSet o t)).Pairwise fun a b => ∀ name ∈ a.keys, name ∉ b.keys := by
    rw [← ((solo_entries h).2.map _).nodup_iff, List.map_flatMap, List.nodup_flatMap]
    exact and_iff_right fun set _ => set.nodup_keys
  constructor
  · intro h
    exact ⟨h.solo, (hkeys h.solo).mp h.differ⟩
  · rintro ⟨hsolo, hapart⟩
    exact ⟨(solo_entries hsolo).1, (hkeys hsolo).mpr hapart⟩

/-- The scan of two directories with the same texts in their source files, whatever these are called
and whatever else is there. It succeeds if each file can be scanned alone and no two declare one
name, and finds what the files hold. -/
theorem scanDirectory_by_texts (o : ScanOptions) {t u : FileTree} {dir other : String}
    (hdir : (t.names dir).isSome) (hother : (u.names other).isSome)
    (h : (t.sourceTexts dir).Perm (u.sourceTexts other)) :
    let here := ((scanDirectory o dir).run t).1
    let there := ((scanDirectory o other).run u).1
    ((∃ found, here = .ok found) ↔ ∃ found, there = .ok found) ∧
    (∀ found others, here = .ok found → there = .ok others →
      CommandSet.ofFound found = CommandSet.ofFound others) ∧
    ((∃ found, here = .ok found) ↔
      (∀ path ∈ t.sourcePaths dir, (soloSet o t path).isSome) ∧
        ((t.sourcePaths dir).filterMap (soloSet o t)).Pairwise fun a b =>
          ∀ name ∈ a.keys, name ∉ b.keys) ∧
    (∀ found, here = .ok found → (CommandSet.ofFound found).entries.Perm
      (((t.sourcePaths dir).filterMap (soloSet o t)).flatMap (·.entries))) := by
  obtain ⟨r, hr, hfound, hok⟩ := run_scanDirectory (o := o) hdir
  obtain ⟨q, hq, hothers, hok'⟩ := run_scanDirectory (o := o) hother
  rw [hr, hq]
  have hscannable : (∃ found, r = .ok found) ↔ Scannable o (t.sourceTexts dir) :=
    ⟨fun ⟨found, hf⟩ => (hfound found hf).1, hok⟩
  have hscannable' : (∃ found, q = .ok found) ↔ Scannable o (u.sourceTexts other) :=
    ⟨fun ⟨found, hf⟩ => (hothers found hf).1, hok'⟩
  refine ⟨?_, ?_, hscannable.trans scannable_iff_solo, ?_⟩
  · rw [hscannable, hscannable']
    exact ⟨fun hs => hs.perm h, fun hs => hs.perm h.symm⟩
  · intro found others hf hg
    exact NameMap.ext_of_perm <|
      (hfound found hf).2.trans ((entriesOf_perm h).trans (hothers others hg).2.symm)
  · intro found hf
    obtain ⟨hs, hentries⟩ := hfound found hf
    exact hentries.trans (solo_entries hs.solo).2.symm

/-- Two directories with the same two files, whose names are in another order in the second one. -/
theorem scanDirectory_by_texts_renamed :
    let first := "struct A \x7b #[tag = \"command:\\\"ec2\\\"\"] a: () \x7d"
    let second := "struct B \x7b #[tag = \"command:\\\"s3\\\"\"] b: () \x7d"
    let t : FileTree :=
      { entries := [(["d"], .directory), (["d", "x.rs"], .file (.text first)),
          (["d", "y.rs"], .file (.text second)), (["e"], .directory),
          (["e", "z.rs"], .file (.text first)),
          (["e", "w.rs"], .file (.text second)), (["e", "w.txt"], .file (.binary [255]))] }
    ∃ found others, ((scanDirectory {} "d").run t).1 = .ok found ∧
      ((scanDirectory {} "e").run t).1 = .ok others ∧
      CommandSet.ofFound found = CommandSet.ofFound others := by
  intro first second t
  have hdir : (t.names "d").isSome := by decide +kernel
  have hother : (t.names "e").isSome := by decide +kernel
  have htexts : (t.sourceTexts "d").Perm (t.sourceTexts "e") := by decide +kernel
  have hsolo : ∀ path ∈ t.sourcePaths "d", (soloSet {} t path).isSome := by decide +kernel
  have hapart :
      ((t.sourcePaths "d").filterMap (soloSet {} t)).Pairwise fun a b =>
        ∀ name ∈ a.keys, name ∉ b.keys := by
    decide +kernel
  obtain ⟨hiff, heq, hok, -⟩ := scanDirectory_by_texts {} hdir hother htexts
  obtain ⟨found, hfound⟩ := hok.mpr ⟨hsolo, hapart⟩
  obtain ⟨others, hothers⟩ := hiff.mp ⟨found, hfound⟩
  exact ⟨found, others, hfound, hothers, heq _ _ hfound hothers⟩

/-- A file that cannot be read fails the scan, so that the texts of those that can do not decide on
it. -/
theorem scanDirectory_fails_unread :
    ¬ ∀ (o : ScanOptions) (t u : FileTree) (dir other : String),
      (t.names dir).isSome → (u.names other).isSome →
      ((t.sourcePaths dir).filterMap t.readText).Perm ((u.sourcePaths other).filterMap u.readText) →
      ((∃ found, ((scanDirectory o dir).run t).1 = .ok found) ↔
        ∃ found, ((scanDirectory o other).run u).1 = .ok found) := by
  intro h
  let t : FileTree :=
    { entries := [(["d"], .directory), (["d", "a.rs"], .file (.binary [255])), (["e"], .directory)] }
  have hfails : ((scanDirectory {} "d").run t).1 = .error (.unreadable "d/a.rs") := by
    decide +kernel
  have hempty : ((scanDirectory {} "e").run t).1 = .ok [] := by decide +kernel
  obtain ⟨found, hfound⟩ := (h {} t t "d" "e" (by decide +kernel) (by decide +kernel)
    (by decide +kernel)).mpr ⟨_, hempty⟩
  rw [hfails] at hfound
  cases hfound

end CommandGen
