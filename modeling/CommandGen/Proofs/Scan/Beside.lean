import CommandGen.Proofs.Files.Frame
import CommandGen.Proofs.Scan.Directory

/-! The scan of a directory in which generated files stand beside the sources. Such files may
change, be there or not: as long as they hold no commands, the scan finds what it finds without
them. -/
namespace CommandGen

open Source

namespace Path

/-- A hidden name ends in its suffix, so that the hidden file of a source file is none. -/
theorem extension?_of_hiddenName {path name suffix : String}
    (h : fileName? path = some (hiddenName name suffix)) (hs : '.' ∉ suffix.toList) :
    extension? path = some suffix := by
  have hsuffix : Text.pieces (· == '.') suffix.toList = [suffix.toList] := by
    refine Text.pieces_eq_singleton fun c hc => ?_
    rw [beq_eq_false_iff_ne]
    rintro rfl
    exact hs hc
  have hpieces : Text.pieces (· == '.') (hiddenName name suffix).toList =
      [] :: (Text.pieces (· == '.') name.toList ++ [suffix.toList]) := by
    rw [toList_hiddenName]
    have hrest := Text.pieces_append (p := (· == '.')) (c := '.') rfl name.toList suffix.toList
    rw [hsuffix] at hrest
    have hfirst :=
      Text.pieces_append (p := (· == '.')) (c := '.') rfl [] (name.toList ++ '.' :: suffix.toList)
    rw [hrest] at hfirst
    exact hfirst
  obtain ⟨last, front, hlast⟩ := List.exists_cons_of_ne_nil <|
    mt List.reverse_eq_nil_iff.mp (Text.pieces_ne_nil (· == '.') name.toList)
  have hreverse : (Text.pieces (· == '.') (hiddenName name suffix).toList).reverse =
      suffix.toList :: last :: (front ++ [[]]) := by
    rw [hpieces, List.reverse_cons, List.reverse_append, hlast]
    rfl
  simp [extension?, h, hreverse]

end Path

variable {t u : FileTree} {dir path name : String} {spots : List Location} {l : Location}

namespace FileTree

theorem isEntryName_of_locate? (hn : Path.fileName? path = some name)
    (hl : t.locate? path = some l) :
    isEntryName name = true ∧ l.getLast? = some name := by
  obtain ⟨hp, hname⟩ := Path.fileName?_eq_some hn
  rw [locate?_eq hp] at hl
  obtain ⟨d, -, hl⟩ := Option.bind_eq_some_iff.mp hl
  obtain ⟨-, hentry, rfl⟩ := (follow?_name hname).mp hl
  exact ⟨hentry, by simp⟩

theorem locateFile?_join (hdir : t.locate? dir = some l) (hd : t.isDirectoryAt l = true)
    (hname : Path.IsName name) (hentry : isEntryName name = true) :
    t.locateFile? (Path.join dir name) = some (l ++ [name]) := by
  have hp : Path.parts (Path.join dir name) = Path.parts dir ++ [name] :=
    Path.parts_join hname.ne_empty hname.ne_dot hname.no_slash
  have hs : t.start (Path.join dir name) = t.start dir := by
    simp [start, Path.isAbsolute_join hname.no_slash]
  have hwalk : (Path.parts dir).foldlM t.follow? (t.start dir) = some l := by
    unfold locate? at hdir
    split at hdir
    · cases hdir
    · exact hdir
  rw [locateFile?, Path.namesDirectory_join hname, locate?_eq hp, hs, hwalk]
  exact (follow?_name hname).mpr ⟨hd, hentry, rfl⟩

/-- Where names do not matter, what is at some locations right inside a directory does not. -/
theorem filter_names_off {admits : String → Bool} (h : ∀ n, l ++ [n] ∈ spots → admits n = false) :
    (t.entries.filterMap (nameBelow? l)).filter admits =
      ((t.off spots).filterMap (nameBelow? l)).filter admits := by
  unfold off
  induction t.entries with
  | nil => rfl
  | cons e rest ih =>
    by_cases he : e.1 ∈ spots
    · rw [List.filter_cons_of_neg (by simpa using he), List.filterMap_cons]
      cases hn : nameBelow? l e with
      | none => exact ih
      | some n =>
        have hloc : e.1 = l ++ [n] := by
          unfold nameBelow? at hn
          split at hn
          · split at hn
            · simp_all
            · cases hn
          · cases hn
        rw [List.filter_cons_of_neg (by simp [h n (hloc ▸ he)])]
        exact ih
    · rw [List.filter_cons_of_pos (by simpa using he), List.filterMap_cons, List.filterMap_cons]
      cases nameBelow? l e with
      | none => exact ih
      | some n => rw [List.filter_cons, List.filter_cons, ih]

def leadsTo (t : FileTree) (dir : String) (names : List String) (path : String) : Bool :=
  (t.locateFile? path).any fun l => names.any fun n => l = t.place dir ++ [n]

variable {names : List String}

theorem leadsTo_eq_true : t.leadsTo dir names path = true ↔
    ∃ n ∈ names, t.locateFile? path = some (t.place dir ++ [n]) := by
  simp only [leadsTo, Option.any_eq_true, List.any_eq_true, decide_eq_true_eq]
  constructor
  · rintro ⟨l, hl, n, hn, rfl⟩
    exact ⟨n, hn, hl⟩
  · rintro ⟨n, hn, hl⟩
    exact ⟨_, hl, n, hn, rfl⟩

theorem fileName?_of_extension? {ext : String} (h : Path.extension? path = some ext) :
    ∃ name, Path.fileName? path = some name := by
  unfold Path.extension? at h
  split at h
  · cases h
  · exact ⟨_, ‹_›⟩

theorem not_mem_spotsIn_of_name (hn : Path.fileName? path = some name)
    (hname : name ∉ spotNames names) (hl : t.locateFile? path = some l) :
    l ∉ t.spotsIn dir names := by
  intro hmem
  obtain ⟨m, hm, rfl⟩ := List.mem_map.mp hmem
  have hlast := (isEntryName_of_locate? hn (locateFile?_eq_some hl).2).2
  obtain rfl : m = name := by simpa using hlast
  exact hname hm

/-- A source file leads to none of the locations unless it leads to one of the names. -/
theorem not_mem_spotsIn (hrs : Path.extension? path = some "rs")
    (hleads : t.leadsTo dir names path = false) (hl : t.locateFile? path = some l) :
    l ∉ t.spotsIn dir names := by
  obtain ⟨a, ha⟩ := fileName?_of_extension? hrs
  by_cases hspot : a ∈ spotNames names
  · obtain ⟨n, hn, hm⟩ := List.mem_flatMap.mp hspot
    simp only [List.mem_cons, List.not_mem_nil, or_false] at hm
    rcases hm with rfl | rfl | rfl
    · intro hmem
      obtain ⟨m, -, rfl⟩ := List.mem_map.mp hmem
      have hlast := (isEntryName_of_locate? ha (locateFile?_eq_some hl).2).2
      obtain rfl : m = a := by simpa using hlast
      exact absurd (leadsTo_eq_true.mpr ⟨m, hn, hl⟩) (by simp [hleads])
    · rw [Path.extension?_of_hiddenName ha (by decide)] at hrs
      simp at hrs
    · rw [Path.extension?_of_hiddenName ha (by decide)] at hrs
      simp at hrs
  · exact not_mem_spotsIn_of_name ha hspot hl

theorem names_eq (h : (t.names dir).isSome) : t.locate? dir = some (t.place dir) ∧
    t.isDirectoryAt (t.place dir) = true ∧
    t.names dir = some (t.entries.filterMap (nameBelow? (t.place dir))) := by
  unfold names at h ⊢
  cases hl : t.locate? dir with
  | none => simp [hl] at h
  | some l =>
    obtain rfl : l = t.place dir := locate?_eq_some hl
    by_cases hd : t.isDirectoryAt (t.place dir) = true
    · simp [hd]
    · simp [hl, hd] at h

/-- A source file that leads to one of some names in a directory is read as the file of this
name. -/
theorem readText_of_leadsTo (hdir : (t.names dir).isSome) (hnames : ∀ n ∈ names, Path.IsName n)
    (hrs : Path.extension? path = some "rs") (h : t.leadsTo dir names path = true) : ∃ n ∈ names,
      Path.extension? (Path.join dir n) = some "rs" ∧
      t.readText path = t.readText (Path.join dir n) := by
  obtain ⟨n, hn, hl⟩ := leadsTo_eq_true.mp h
  obtain ⟨hloc, hd, -⟩ := names_eq hdir
  obtain ⟨a, ha⟩ := fileName?_of_extension? hrs
  obtain ⟨hentry, hlast⟩ := isEntryName_of_locate? ha (locateFile?_eq_some hl).2
  obtain rfl : n = a := by simpa using hlast
  have hname : Path.fileName? (Path.join dir n) = some n := Path.fileName?_join (hnames n hn)
  have hjoin : t.locateFile? (Path.join dir n) = some (t.place dir ++ [n]) :=
    locateFile?_join hloc hd (hnames n hn) hentry
  refine ⟨n, hn, ?_, by simp [readText, hl, hjoin]⟩
  simpa [Path.extension?, hname, ha] using hrs

theorem place_join (hname : Path.IsName name) :
    t.place (Path.join dir name) = t.place dir ++ [name] :=
  place_append (Path.parts_join hname.ne_empty hname.ne_dot hname.no_slash)
    (Path.isAbsolute_join hname.no_slash) hname

def otherPaths (t : FileTree) (dir : String) (names : List String) : List String :=
  (t.sourcePaths dir).filter fun path => !t.leadsTo dir names path

theorem SameOff.place_eq (h : SameOff t u spots) (path : String) : u.place path = t.place path := by
  simp [place, start, h.workDir]

theorem SameOff.leadsTo_eq (h : SameOff t u spots) : u.leadsTo dir names = t.leadsTo dir names := by
  funext path
  simp [leadsTo, h.locateFile?_eq, h.place_eq]

theorem SameOff.names_eq (h : SameOff t u spots) (hdir : (t.names dir).isSome) :
    u.names dir = some (u.entries.filterMap (nameBelow? (t.place dir))) := by
  obtain ⟨hloc, hd, -⟩ := FileTree.names_eq hdir
  simp [names, h.locate?_eq, hloc, h.directory, hd]

theorem SameOff.names_isSome (h : SameOff t u spots) (hdir : (t.names dir).isSome) :
    (u.names dir).isSome := by
  rw [h.names_eq hdir]
  rfl

/-- Trees that differ at the locations of generated files only have the same other sources. -/
theorem SameOff.otherPaths_eq (h : SameOff t u (t.spotsIn dir names)) (hdir : (t.names dir).isSome)
    (hnames : ∀ n ∈ names, Path.IsName n) :
    u.otherPaths dir names = t.otherPaths dir names := by
  obtain ⟨-, -, ht⟩ := FileTree.names_eq hdir
  let admits (v : FileTree) (path : String) : Bool :=
    !t.leadsTo dir names path && (Path.extension? path = some "rs" && v.isFile path)
  have hadmits : admits u = admits t := by
    funext path
    by_cases hrs : Path.extension? path = some "rs"
    · cases hleads : t.leadsTo dir names path with
      | true => simp [admits, hleads]
      | false =>
        have hfile := (h.file_eq fun l hl => not_mem_spotsIn hrs hleads hl).2
        simp [admits, hfile]
    · simp [admits, hrs]
  -- no entry at one of the locations makes a path that is admitted
  have hspots :
      ∀ n, t.place dir ++ [n] ∈ t.spotsIn dir names → admits t (Path.join dir n) = false := by
    intro n hn
    obtain ⟨m, hm, he⟩ := List.mem_map.mp hn
    obtain rfl : m = n := by simpa using he
    have hplace : t.place (Path.join dir m) = _ := place_join (isName_of_spotNames hnames m hm)
    by_contra hadmitted
    obtain ⟨hleads, hrs, hfile⟩ : t.leadsTo dir names (Path.join dir m) = false ∧
        Path.extension? (Path.join dir m) = some "rs" ∧ t.isFile (Path.join dir m) = true := by
      simpa [admits] using hadmitted
    cases hl : t.locateFile? (Path.join dir m) with
    | none => simp [isFile, hl] at hfile
    | some l =>
      obtain rfl : l = t.place (Path.join dir m) := locate?_eq_some (locateFile?_eq_some hl).2
      exact not_mem_spotsIn hrs hleads hl (hplace ▸ hn)
  have hlist (v : FileTree) (hv : v.off (t.spotsIn dir names) = t.off (t.spotsIn dir names))
      (hentries : v.names dir = some (v.entries.filterMap (nameBelow? (t.place dir))))
      (hleads : v.leadsTo dir names = t.leadsTo dir names) (hsame : admits v = admits t) :
      v.otherPaths dir names =
        (((t.off (t.spotsIn dir names)).filterMap (nameBelow? (t.place dir))).filter
          (admits t ∘ Path.join dir)).map (Path.join dir) := by
    have hoff : (v.entries.filterMap (nameBelow? (t.place dir))).filter (admits t ∘ Path.join dir) = _ :=
      filter_names_off hspots
    rw [otherPaths, sourcePaths, hentries, Option.getD_some, List.filter_filter, hleads]
    change List.filter (admits v) _ = _
    rw [hsame, List.filter_map, hoff, hv]
  rw [hlist u h.entries (h.names_eq hdir) h.leadsTo_eq hadmits, hlist t rfl ht rfl rfl]

end FileTree

open FileTree

variable {o : ScanOptions} {names : List String}

theorem entriesOf_filter {paths : List String} {keep : String → Bool}
    (h : ∀ path ∈ paths, keep path = false → textEntries? o (t.readText path) = some []) :
    entriesOf o ((paths.filter keep).map t.readText) = entriesOf o (paths.map t.readText) := by
  induction paths with
  | nil => rfl
  | cons path rest ih =>
    obtain ⟨hpath, hrest⟩ := List.forall_mem_cons.mp h
    cases hk : keep path with
    | true =>
      rw [List.filter_cons_of_pos hk, List.map_cons, List.map_cons, entriesOf_cons,
        entriesOf_cons, ih hrest]
    | false =>
      rw [List.filter_cons_of_neg (by simp [hk]), List.map_cons, entriesOf_cons, hpath hk, ih hrest]
      rfl

def HoldNone (o : ScanOptions) (t : FileTree) (dir : String) (names : List String) : Prop :=
  ∀ path ∈ t.sourcePaths dir, t.leadsTo dir names path = true →
    textEntries? o (t.readText path) = some []

theorem HoldNone.entriesOf_eq (h : HoldNone o t dir names) :
    entriesOf o ((t.otherPaths dir names).map t.readText) = entriesOf o (t.sourceTexts dir) :=
  entriesOf_filter fun path hpath hkeep => h path hpath (by simpa using hkeep)

/-- Where generated files hold no command, before and after, all sources can be scanned after if
they could be before, and hold the same. -/
theorem scannable_beside (h : SameOff t u (t.spotsIn dir names)) (hdir : (t.names dir).isSome)
    (hnames : ∀ n ∈ names, Path.IsName n) (ht : HoldNone o t dir names) (hu : HoldNone o u dir names)
    (hs : Scannable o (t.sourceTexts dir)) :
    Scannable o (u.sourceTexts dir) ∧
      entriesOf o (u.sourceTexts dir) = entriesOf o (t.sourceTexts dir) := by
  have hpaths : u.otherPaths dir names = t.otherPaths dir names := h.otherPaths_eq hdir hnames
  have hother :
      ∀ path ∈ t.otherPaths dir names, path ∈ t.sourcePaths dir ∧
        u.readText path = t.readText path := by
    intro path hpath
    obtain ⟨hsource, hleads⟩ := List.mem_filter.mp hpath
    have hrs : Path.extension? path = some "rs" := extension?_of_sourcePaths hsource
    exact ⟨hsource, (h.file_eq fun l hl => not_mem_spotsIn hrs (by simpa using hleads) hl).1⟩
  have hentries : entriesOf o (u.sourceTexts dir) = entriesOf o (t.sourceTexts dir) := by
    rw [← hu.entriesOf_eq, ← ht.entriesOf_eq, hpaths]
    exact congrArg _ (List.map_congr_left fun path hpath => (hother path hpath).2)
  refine ⟨⟨fun text? hmem => ?_, hentries ▸ hs.differ⟩, hentries⟩
  obtain ⟨path, hpath, rfl⟩ := List.mem_map.mp hmem
  cases hleads : u.leadsTo dir names path with
  | true => simp [hu path hpath hleads]
  | false =>
    have hmem : path ∈ t.otherPaths dir names :=
      hpaths ▸ List.mem_filter.mpr ⟨hpath, by simp [hleads]⟩
    obtain ⟨hsource, hread⟩ := hother path hmem
    rw [hread]
    exact hs.each _ (List.mem_map_of_mem hsource)

end CommandGen
