import CommandGen.Files.Commit
import CommandGen.Proofs.Files.Program
import Mathlib.Data.List.Pairwise

/-! The locations that a commit works on: the place of each file and the two hidden ones beside
it. -/
namespace CommandGen

namespace FileTree

variable {t u : FileTree} {f g : OutputFile} {files : List OutputFile} {l m : Location}

/-- The place of a file and the two hidden ones beside it. -/
def spots (t : FileTree) (f : OutputFile) : List Location :=
  [t.place f.path, t.place f.staging, t.place f.backup]

/-- Locations that are pairwise distinct, and of which none is inside another. -/
def Apart (ls : List Location) : Prop := ls.Pairwise fun l m => ¬ l <+: m ∧ ¬ m <+: l

def home (t : FileTree) (f : OutputFile) : Location :=
  (Path.parts f.path).dropLast.foldl stepTo (t.start f.path)

/-- The directories that the path of a file leads through. -/
def way (t : FileTree) (f : OutputFile) : List Location :=
  walk (t.start f.path) (Path.parts f.path).dropLast

/-- What a commit asks of its files: their places and the hidden ones beside them are apart, and
where a path leaves one of these or a directory inside it by two dots, that directory is there.
Otherwise it would be made on the way. -/
structure Admits (t : FileTree) (files : List OutputFile) : Prop where
  apart : Apart (files.flatMap t.spots)
  leaves : ∀ f ∈ files, ∀ l ∈ leaves (t.start f.path) (Path.parts f.path),
    ∀ m ∈ files.flatMap t.spots, m <+: l → t.isDirectoryAt l = true

/-- The path of a file leaves only directories that are there by two dots. One without two dots
leaves none. -/
def LeavesDirectories (t : FileTree) (f : OutputFile) : Prop :=
  ∀ l ∈ leaves (t.start f.path) (Path.parts f.path), t.isDirectoryAt l = true

instance (ls : List Location) : Decidable (Apart ls) :=
  inferInstanceAs (Decidable (ls.Pairwise _))

instance (t : FileTree) (files : List OutputFile) : Decidable (t.Admits files) :=
  decidable_of_iff (Apart (files.flatMap t.spots) ∧ ∀ f ∈ files,
      ∀ l ∈ FileTree.leaves (t.start f.path) (Path.parts f.path),
        ∀ m ∈ files.flatMap t.spots, m <+: l → t.isDirectoryAt l = true)
    ⟨fun h => ⟨h.1, h.2⟩, fun h => ⟨h.1, h.2⟩⟩

instance (t : FileTree) (f : OutputFile) : Decidable (t.LeavesDirectories f) :=
  inferInstanceAs (Decidable (∀ l ∈ FileTree.leaves (t.start f.path) (Path.parts f.path),
    t.isDirectoryAt l = true))

theorem leavesDirectories_of_no_dots (h : ".." ∉ Path.parts f.path) : t.LeavesDirectories f := by
  simp [LeavesDirectories, leaves_eq_nil h]

theorem Admits.of_apart (ha : Apart (files.flatMap t.spots))
    (hl : ∀ f ∈ files, t.LeavesDirectories f) :
    t.Admits files :=
  ⟨ha, fun f hf l hleft _ _ _ => hl f hf l hleft⟩

theorem isName_tmp : Path.IsName "tmp" := by decide

theorem isName_bak : Path.IsName "bak" := by decide

def spotNames (names : List String) : List String :=
  names.flatMap fun n => [n, Path.hiddenName n "tmp", Path.hiddenName n "bak"]

theorem isName_of_spotNames {names : List String} (hnames : ∀ n ∈ names, Path.IsName n) :
    ∀ n ∈ spotNames names, Path.IsName n := by
  intro m hm
  obtain ⟨n, hn, hm⟩ := List.mem_flatMap.mp hm
  simp only [List.mem_cons, List.not_mem_nil, or_false] at hm
  rcases hm with rfl | rfl | rfl
  · exact hnames _ hn
  · exact Path.isName_hiddenName (hnames n hn).no_slash isName_tmp
  · exact Path.isName_hiddenName (hnames n hn).no_slash isName_bak

def spotsIn (t : FileTree) (dir : String) (names : List String) : List Location :=
  (spotNames names).map (t.place dir ++ [·])

theorem place_append {path dir name : String} (hp : Path.parts path = Path.parts dir ++ [name])
    (ha : Path.isAbsolute path = Path.isAbsolute dir) (hn : Path.IsName name) :
    t.place path = t.place dir ++ [name] := by
  simp [place, start, hp, ha, stepTo_name hn.ne_dot hn.ne_dots]

theorem place_of_fileName {name : String} (h : Path.fileName? f.path = some name) :
    t.place f.path = t.home f ++ [name] ∧
      t.place f.staging = t.home f ++ [Path.hiddenName name "tmp"] ∧
      t.place f.backup = t.home f ++ [Path.hiddenName name "bak"] := by
  obtain ⟨hp, hn⟩ := Path.fileName?_eq_some h
  have htmp := Path.isName_hiddenName hn.no_slash isName_tmp
  have hbak := Path.isName_hiddenName hn.no_slash isName_bak
  refine ⟨?_, ?_, ?_⟩
  · unfold place home
    rw [hp]
    simp [stepTo_name hn.ne_dot hn.ne_dots]
  · simp [place, home, start, OutputFile.staging, Path.parts_sibling h isName_tmp,
      Path.isAbsolute_sibling h isName_tmp, stepTo_name htmp.ne_dot htmp.ne_dots]
  · simp [place, home, start, OutputFile.backup, Path.parts_sibling h isName_bak,
      Path.isAbsolute_sibling h isName_bak, stepTo_name hbak.ne_dot hbak.ne_dots]

theorem Apart.eq_of_isPrefix {ls : List Location} (h : Apart ls) (hl : l ∈ ls) (hm : m ∈ ls)
    (hp : l <+: m) : l = m := by
  by_contra hne
  have hsymm : Std.Symm fun l m : Location => ¬ l <+: m ∧ ¬ m <+: l := ⟨fun _ _ => And.symm⟩
  exact (h.forall hl hm hne).1 hp

theorem mem_spots (hf : f ∈ files) (hl : l ∈ t.spots f) : l ∈ files.flatMap t.spots :=
  List.mem_flatMap.mpr ⟨f, hf, hl⟩

theorem Apart.nodup {ls : List Location} (h : Apart ls) : ls.Nodup :=
  h.imp fun ⟨hp, _⟩ he => hp (he ▸ List.prefix_refl _)

theorem Apart.nodup_files (h : Apart (files.flatMap t.spots)) : files.Nodup := by
  have hp := (List.pairwise_flatMap.mp h.nodup).2
  refine hp.imp fun {f g} hfg he => ?_
  exact hfg (t.place f.path) (by simp [spots]) (t.place g.path) (by simp [spots]) (by rw [he])

theorem Apart.disjoint (h : Apart (files.flatMap t.spots)) (hf : f ∈ files)
    (hg : g ∈ files) (hne : f ≠ g) (hl : l ∈ t.spots f) : l ∉ t.spots g := by
  have hp := (List.pairwise_flatMap.mp h.nodup).2
  have hsymm : Std.Symm fun f g => ∀ x ∈ t.spots f, ∀ y ∈ t.spots g, x ≠ y :=
    ⟨fun _ _ h x hx y hy => (h y hy x hx).symm⟩
  exact fun hm => hp.forall hf hg hne l hl l hm rfl

theorem Apart.ne (h : Apart (files.flatMap t.spots)) (hf : f ∈ files) :
    t.place f.path ≠ t.place f.staging ∧ t.place f.path ≠ t.place f.backup ∧
      t.place f.staging ≠ t.place f.backup := by
  have hp := (List.pairwise_flatMap.mp h.nodup).1 f hf
  simpa [spots, and_assoc] using hp

theorem Admits.nodup (h : t.Admits files) : files.Nodup := h.apart.nodup_files

theorem Admits.disjoint (h : t.Admits files) (hf : f ∈ files) (hg : g ∈ files) (hne : f ≠ g)
    (hl : l ∈ t.spots f) : l ∉ t.spots g :=
  h.apart.disjoint hf hg hne hl

theorem Admits.fileName (h : t.Admits files) (hf : f ∈ files) :
    ∃ name, Path.fileName? f.path = some name := by
  cases hn : Path.fileName? f.path with
  | some name => exact ⟨name, rfl⟩
  | none =>
    have ht := @Path.isName_hiddenName "" "tmp" (by simp) isName_tmp
    have hpl : t.place f.staging = t.place f.path ++ [Path.hiddenName "" "tmp"] := by
      rw [OutputFile.staging, Path.sibling_of_none hn]
      exact place_append (Path.parts_join ht.ne_empty ht.ne_dot ht.no_slash)
        (Path.isAbsolute_join ht.no_slash) ht
    have he := h.apart.eq_of_isPrefix (mem_spots (l := t.place f.path) hf (by simp [spots]))
      (mem_spots (l := t.place f.staging) hf (by simp [spots])) (by simp [hpl])
    simp [hpl] at he

theorem Admits.places (h : t.Admits files) (hf : f ∈ files) :
    ∃ name, Path.IsName name ∧ t.place f.path = t.home f ++ [name] ∧
      t.place f.staging = t.home f ++ [Path.hiddenName name "tmp"] ∧
      t.place f.backup = t.home f ++ [Path.hiddenName name "bak"] := by
  obtain ⟨name, hn⟩ := h.fileName hf
  exact ⟨name, (Path.fileName?_eq_some hn).2, place_of_fileName hn⟩

theorem Admits.ne (h : t.Admits files) (hf : f ∈ files) :
    t.place f.path ≠ t.place f.staging ∧ t.place f.path ≠ t.place f.backup ∧
      t.place f.staging ≠ t.place f.backup :=
  h.apart.ne hf

theorem Admits.not_isPrefix_home (h : t.Admits files) (hf : f ∈ files) (hg : g ∈ files)
    (hm : m ∈ t.spots g) : ¬ m <+: t.home f := by
  intro hl
  obtain ⟨name, -, hp, -, -⟩ := h.places hf
  have hpre : m <+: t.place f.path := hl.trans (by simp [hp])
  have he := h.apart.eq_of_isPrefix (mem_spots hg hm) (mem_spots hf (by simp [spots])) hpre
  have hlen := hl.length_le
  simp only [he, hp, List.length_append, List.length_singleton] at hlen
  omega

/-- Nothing that could be made on the way to a place, is at one of the locations or inside it. -/
theorem Admits.not_isPrefix_way (h : t.Admits files) (hf : f ∈ files) (hg : g ∈ files)
    (hm : m ∈ t.spots g) (hl : l ∈ t.way f) (hd : t.isDirectoryAt l = false) : ¬ m <+: l := by
  intro hp
  rcases isPrefix_or_mem_leaves (List.mem_cons_of_mem _ hl) with hpre | hleft
  · exact h.not_isPrefix_home hf hg hm (hp.trans hpre)
  · obtain ⟨name, hn⟩ := h.fileName hf
    have hleft' : l ∈ FileTree.leaves (t.start f.path) (Path.parts f.path) := by
      rw [(Path.fileName?_eq_some hn).1]
      exact mem_leaves_append hleft
    have := h.leaves f hf l hleft' m (mem_spots hg hm) hp
    simp [hd] at this

/-- The paths of a file and of its hidden ones lead to their places. A path that only a directory
can have leads to no file. -/
structure Reaches (t : FileTree) (f : OutputFile) : Prop where
  staging : t.locateFile? f.staging = some (t.place f.staging)
  backup : t.locateFile? f.backup = some (t.place f.backup)
  path : t.locateFile? f.path = if Path.namesDirectory f.path then none else some (t.place f.path)
  home : t.isDirectoryAt (t.home f) = true

theorem Reaches.keep (h : t.Reaches f) (hk : KeepsDirectories t u) : u.Reaches f where
  staging := by rw [hk.place_eq]; exact hk.locateFile? h.staging
  backup := by rw [hk.place_eq]; exact hk.locateFile? h.backup
  path := by
    rw [hk.place_eq]
    have hp := h.path
    split at hp
    · rename_i hd
      simp [locateFile?, hd]
    · rename_i hd
      rw [if_neg hd]
      exact hk.locateFile? hp
  home := by
    have he : u.home f = t.home f := by simp [FileTree.home, hk.start_eq]
    rw [he]
    exact hk.directory _ h.home

theorem locate?_eq {path name : String} {dir : List String} (hp : Path.parts path = dir ++ [name]) :
    t.locate? path = dir.foldlM t.follow? (t.start path) >>= (t.follow? · name) := by
  have hne : path ≠ "" := by
    rintro rfl
    simp at hp
  simp [locate?, hne, hp, List.foldlM_append]

theorem isEntryName_iff {name : String} :
    isEntryName name = true ↔ name.utf8ByteSize ≤ 255 ∧ '\x00' ∉ name.toList := by
  simp [isEntryName]

theorem isEntryName_hiddenName {name suffix : String} :
    isEntryName (Path.hiddenName name suffix) = true ↔
      name.utf8ByteSize + suffix.utf8ByteSize + 2 ≤ 255 ∧ '\x00' ∉ name.toList ∧
        '\x00' ∉ suffix.toList := by
  have hdot : ".".utf8ByteSize = 1 := by decide
  have hlen : (Path.hiddenName name suffix).utf8ByteSize =
      name.utf8ByteSize + suffix.utf8ByteSize + 2 := by
    simp only [Path.hiddenName, String.utf8ByteSize_append, hdot]
    omega
  rw [isEntryName_iff, hlen, Path.toList_hiddenName]
  simp

theorem follow?_name {name : String} (hn : Path.IsName name) :
    t.follow? l name = some m ↔
      t.isDirectoryAt l = true ∧ isEntryName name = true ∧ m = l ++ [name] := by
  by_cases hd : t.isDirectoryAt l = true
  · by_cases he : isEntryName name = true
    · simp [follow?, hd, hn.ne_dot, hn.ne_dots, he, eq_comm (a := m)]
    · simp [follow?, hd, hn.ne_dot, hn.ne_dots, he]
  · simp [follow?, hd]

/-- A path beside a file leads somewhere if the home of the file is there and its own name is one
that an entry can have. -/
theorem locate?_beside {path name : String}
    (hp : Path.parts path = (Path.parts f.path).dropLast ++ [name])
    (ha : Path.isAbsolute path = Path.isAbsolute f.path) (hn : Path.IsName name) :
    t.locate? path = some l ↔
      (Path.parts f.path).dropLast.foldlM t.follow? (t.start f.path) = some (t.home f) ∧
        t.isDirectoryAt (t.home f) = true ∧ isEntryName name = true ∧ l = t.home f ++ [name] := by
  have hs : t.start path = t.start f.path := by simp [start, ha]
  rw [locate?_eq hp, hs, Option.bind_eq_bind, Option.bind_eq_some_iff]
  constructor
  · rintro ⟨d, hd, hl⟩
    have he : d = t.home f := foldlM_follow?_eq hd
    subst he
    exact ⟨hd, (follow?_name hn).mp hl⟩
  · rintro ⟨hd, hl⟩
    exact ⟨_, hd, (follow?_name hn).mpr hl⟩

theorem reaches_of_staging {name : String} (h : Path.fileName? f.path = some name)
    (hl : t.locateFile? f.staging = some l) : l = t.place f.staging ∧ t.Reaches f := by
  obtain ⟨hparts, hname⟩ := Path.fileName?_eq_some h
  obtain ⟨hp, hps, hpb⟩ := place_of_fileName (t := t) h
  have htmp := Path.isName_hiddenName hname.no_slash isName_tmp
  have hbak := Path.isName_hiddenName hname.no_slash isName_bak
  have hs := (locateFile?_eq_some hl).2
  obtain ⟨hwalk, hhome, hentry, rfl⟩ :=
    (locate?_beside (Path.parts_sibling h isName_tmp) (Path.isAbsolute_sibling h isName_tmp) htmp).mp hs
  obtain ⟨hsize, hnull, -⟩ := isEntryName_hiddenName.mp hentry
  have hnameEntry : isEntryName name = true := isEntryName_iff.mpr ⟨by omega, hnull⟩
  have hbakEntry : isEntryName (Path.hiddenName name "bak") = true := by
    have hb : "bak".utf8ByteSize = "tmp".utf8ByteSize := by decide
    exact isEntryName_hiddenName.mpr ⟨by omega, hnull, by decide⟩
  have hb := (locate?_beside (Path.parts_sibling h isName_bak) (Path.isAbsolute_sibling h isName_bak)
    hbak).mpr ⟨hwalk, hhome, hbakEntry, rfl⟩
  have hf := (locate?_beside hparts rfl hname).mpr ⟨hwalk, hhome, hnameEntry, rfl⟩
  refine ⟨hps.symm, ?_, ?_, ?_, hhome⟩
  · rw [hl, hps]
  · have hd : Path.namesDirectory f.backup = false := by
      rw [OutputFile.backup, Path.sibling_eq h, Path.namesDirectory_join hbak]
    rw [locateFile?, hd, hpb]
    exact hb
  · unfold locateFile?
    split
    · rfl
    · rw [hf, hp]

/-- A text that can be read later where nothing has changed, could be read before, unless the path
leads through a directory that was made since. -/
theorem readText_before {name s : String} (h : Path.fileName? f.path = some name) (ht : t.IsTree)
    (hk : KeepsDirectories t u) (hl : t.LeavesDirectories f)
    (he : u.entry? (t.place f.path) = t.entry? (t.place f.path)) (hr : u.readText f.path = some s) :
    t.readText f.path = some s := by
  obtain ⟨hparts, hname⟩ := Path.fileName?_eq_some h
  obtain ⟨l, hloc, hc⟩ := readText_eq_some.mp hr
  obtain ⟨hnames, hloc⟩ := locateFile?_eq_some hloc
  obtain ⟨hwalk, -, hentry, rfl⟩ := (locate?_beside hparts rfl hname).mp hloc
  have hplace : t.place f.path = t.home f ++ [name] := (place_of_fileName h).1
  have hhome : u.home f = t.home f := by simp [home, hk.start_eq]
  rw [hhome, ← hplace, he] at hc
  -- there is a file at the place, so all directories around it are there
  have hdir : ∀ k, k <+: t.home f → t.isDirectoryAt k = true := by
    intro k hkp
    have hlen := hkp.length_le
    refine ht.inside k (t.place f.path) (hkp.trans (by simp [hplace])) ?_ (by simp [hc])
    intro e
    simp only [e, hplace, List.length_append, List.length_singleton] at hlen
    omega
  -- any other directory on the way is left by two dots
  have hways : ∀ k ∈ t.start f.path :: t.way f, t.isDirectoryAt k = true := by
    intro k hkw
    rcases isPrefix_or_mem_leaves hkw with hp | hleft
    · exact hdir k hp
    · apply hl
      rw [hparts]
      exact mem_leaves_append hleft
  rw [hk.start_eq, hhome] at hwalk
  have hwalk' := foldlM_follow?_of_walk hwalk hways
  have hloc' := (locate?_beside hparts rfl hname).mpr
    ⟨hwalk', hdir _ (List.prefix_refl _), hentry, hplace⟩
  exact readText_eq_some.mpr ⟨_, by simp [locateFile?, hnames, hloc'], hc⟩

theorem parent?_staging {name : String} (h : Path.fileName? f.path = some name) :
    ∃ dir, Path.parent? f.staging = some dir ∧ Path.parts dir = (Path.parts f.path).dropLast ∧
      Path.isAbsolute dir = Path.isAbsolute f.path := by
  have hp := Path.parts_sibling h isName_tmp
  have ha := Path.isAbsolute_sibling h isName_tmp
  have hparts := (Path.areParts_parts f.path).of_isPrefix (List.dropLast_prefix _)
  refine ⟨Path.ofParts (Path.isAbsolute f.path) (Path.parts f.path).dropLast, ?_,
    Path.parts_ofParts hparts, Path.isAbsolute_ofParts hparts⟩
  unfold Path.parent? OutputFile.staging
  rw [hp, ha]
  split
  · rename_i he
    simp at he
  · simp

/-- Writing the first hidden file makes the directory that it is in, and if it succeeds, all paths
of the file lead somewhere. -/
theorem run_writeStaging {dir name text : String} (h : Path.fileName? f.path = some name)
    (hparts : Path.parts dir = (Path.parts f.path).dropLast)
    (habs : Path.isAbsolute dir = Path.isAbsolute f.path) :
    AddsDirectories t (t.makeDirs dir).1 (· ∈ t.way f) ∧
      ((FileProgram.writeWithDirs f.staging text).run t = (false, (t.makeDirs dir).1) ∨
        ((t.makeDirs dir).1.Reaches f ∧ isDirectoryAt (t.makeDirs dir).1 (t.place f.staging) = false ∧
          (FileProgram.writeWithDirs f.staging text).run t =
            (true, (t.makeDirs dir).1.put (t.place f.staging) (.file (.text text))))) := by
  obtain ⟨parent, hparent, hparts', habs'⟩ := parent?_staging h
  have hmake : t.makeDirs parent = t.makeDirs dir :=
    makeDirs_congr (hparts'.trans hparts.symm) (habs'.trans habs.symm)
  have hway : walk (t.start dir) (Path.parts dir) = t.way f := by simp [way, start, habs, hparts]
  have hadds : AddsDirectories t (t.makeDirs dir).1 (· ∈ t.way f) := by
    rw [← hway]
    exact makeDirs_adds t dir
  refine ⟨hadds, ?_⟩
  simp only [FileProgram.writeWithDirs, hparent, FileProgram.run_bind,
    FileProgram.run_makeDirsAt, hmake]
  by_cases hok : (t.makeDirs dir).2 = true
  · simp only [hok, if_true, FileProgram.run_writeTextAt]
    rcases writeText_cases (t.makeDirs dir).1 f.staging text with hw | ⟨l, hloc, hnd, -, hw⟩
    · exact .inl (by rw [hw])
    · obtain ⟨rfl, hr⟩ := reaches_of_staging h hloc
      rw [hadds.keepsDirectories.place_eq] at hnd hw
      exact .inr ⟨hr, hnd, by rw [hw]⟩
  · exact .inl (by simp [hok])

end FileTree

end CommandGen
