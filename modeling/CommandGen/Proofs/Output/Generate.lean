import CommandGen.Proofs.Lists
import CommandGen.Proofs.Output.Places

/-! What a generation leaves at the places of its files, where no name is that of a hidden file. -/
namespace CommandGen

open FileProgram

namespace FileTree

variable {t u v : FileTree} {dir : String} {p q : OutputFile}
  {ps : List OutputFile} {l m : Location}

/-- Every place of some files in a directory holds what it held, with all that is in it. -/
def Untouched (t u : FileTree) (dir : String) (ps : List OutputFile) : Prop :=
  ∀ p ∈ ps, ∀ l, t.place (Path.join dir p.path) <+: l → u.entry? l = t.entry? l

/-- How a file that was to be written into a directory is reported. Its place holds the new content;
it is unchanged only if it held that before, and written only if it could not be read with it. -/
structure IsWritten (t u : FileTree) (dir : String) (p : OutputFile) (r : String × WriteResult) :
    Prop where
  path : r.1 = Path.join dir p.path
  entry : u.entry? (t.place r.1) = p.entry
  unchanged : r.2 = .unchanged → t.entry? (t.place r.1) = p.entry
  written : r.2 = .written → t.readText r.1 ≠ some p.content

/-- What is promised of files that are written together into a directory: either all are written, or
all places are untouched. -/
def Promised {ε : Type} (t u : FileTree) (dir : String) (ps : List OutputFile) :
    Except ε (List (String × WriteResult)) → Prop
  | .ok rs => List.Forall₂ (IsWritten t u dir) ps rs
  | .error _ => Untouched t u dir ps

/-- Making a directory makes none at one of some names in it, or inside one, although its path may
leave such a directory by two dots. -/
def Spares (t : FileTree) (dir : String) (names : List String) : Prop :=
  ∀ l ∈ leaves (t.start dir) (Path.parts dir), ∀ name ∈ names, t.place (Path.join dir name) <+: l →
    entry? (t.makeDirs dir).1 l = t.entry? l

theorem Promised.exists_isWritten {ε : Type} {rs : List (String × WriteResult)}
    (h : @Promised ε t u dir ps (.ok rs)) (hp : p ∈ ps) : ∃ r ∈ rs, IsWritten t u dir p r := by
  replace h : List.Forall₂ _ ps rs := h
  induction h with
  | nil => simp at hp
  | cons hone _ ih =>
    rcases List.mem_cons.mp hp with rfl | hp
    · exact ⟨_, List.mem_cons_self, hone⟩
    · obtain ⟨r, hr, hw⟩ := ih hp
      exact ⟨r, List.mem_cons_of_mem _ hr, hw⟩

theorem Promised.entry?_eq {ε : Type} {rs : List (String × WriteResult)}
    (h : @Promised ε t u dir ps (.ok rs)) (hp : p ∈ ps) :
    u.entry? (t.place (Path.join dir p.path)) = p.entry := by
  obtain ⟨r, -, hw⟩ := h.exists_isWritten hp
  rw [← hw.path]
  exact hw.entry

theorem isDirectoryAt_of_walk {parts : List String} (h : parts.foldlM t.follow? l = some m)
    (hm : t.isDirectoryAt m = true) : ∀ k ∈ l :: walk l parts, t.isDirectoryAt k = true := by
  induction parts generalizing l with
  | nil =>
    have he : l = m := by simpa using h
    simpa [walk, he] using hm
  | cons part rest ih =>
    obtain ⟨k, hk, h⟩ := Option.bind_eq_some_iff.mp (by simpa using h)
    obtain ⟨hd, hstep⟩ := follow?_eq_some hk
    rw [hstep] at h
    exact List.forall_mem_cons.mpr ⟨hd, ih h⟩

/-- If a path beside a file leads somewhere, the directory of the file and all on the way are
there. -/
theorem lane_of_locate? {path name : String} (hp : Path.IsName p.path)
    (hparts : Path.parts path = (Path.parts (p.inDir dir).path).dropLast ++ [name])
    (habs : Path.isAbsolute path = Path.isAbsolute (p.inDir dir).path) (hn : Path.IsName name)
    (h : t.locate? path = some l) : ∀ k ∈ t.lane dir, t.isDirectoryAt k = true := by
  obtain ⟨hwalk, hhome, -, -⟩ := (locate?_beside hparts habs hn).mp h
  have hk := isDirectoryAt_of_walk hwalk hhome
  rw [start_inDir hp, parts_inDir hp, List.dropLast_concat] at hk
  exact hk

theorem lane_of_readText {s : String} (hp : Path.IsName p.path)
    (h : t.readText (p.inDir dir).path = some s) : ∀ k ∈ t.lane dir, t.isDirectoryAt k = true := by
  obtain ⟨l, hl, -⟩ := readText_eq_some.mp h
  have hparts := (Path.fileName?_eq_some (fileName?_inDir hp dir)).1
  exact lane_of_locate? hp hparts rfl hp (locateFile?_eq_some hl).2

theorem Reaches.lane (h : t.Reaches (p.inDir dir)) (hp : Path.IsName p.path) :
    ∀ k ∈ t.lane dir, t.isDirectoryAt k = true := by
  have hname := fileName?_inDir hp dir
  exact lane_of_locate? hp (Path.parts_sibling hname isName_tmp)
    (Path.isAbsolute_sibling hname isName_tmp)
    (Path.isName_hiddenName hp.no_slash isName_tmp) (locateFile?_eq_some h.staging).2

theorem not_isPrefix_of_mem_walk {name : String}
    (hw : l ∈ walk (t.start dir) (Path.parts dir)) (hl : t.place dir ++ [name] <+: l) :
    l ∈ leaves (t.start dir) (Path.parts dir) := by
  rcases isPrefix_or_mem_leaves (List.mem_cons_of_mem _ hw) with hp | hleft
  · have hlen := hl.length_le
    have hlen' := hp.length_le
    simp only [List.length_append, List.length_singleton] at hlen
    change l.length ≤ (t.place dir).length at hlen'
    omega
  · exact hleft

theorem Spares.entry?_eq (hs : t.Spares dir (ps.map (·.path))) (hn : ∀ p ∈ ps, Path.IsName p.path)
    (hp : p ∈ ps) (hl : t.place (Path.join dir p.path) <+: l) :
    entry? (t.makeDirs dir).1 l = t.entry? l := by
  rcases (makeDirs_adds t dir).entry l with he | ⟨-, -, hw⟩
  · exact he
  · have hplace : t.place (Path.join dir p.path) = t.place dir ++ [p.path] := place_inDir (hn p hp)
    have hleft := not_isPrefix_of_mem_walk hw (hplace ▸ hl)
    exact hs l hleft p.path (List.mem_map_of_mem hp) hl

theorem run_stageFiles_passing {files rest : List OutputFile} {staged : List Staged}
    (h : ∀ f ∈ files, t.readText f.path = some f.content) :
    (stageFiles staged (files ++ rest)).run t =
      (stageFiles (staged ++ files.map (⟨·, .unchanged⟩)) rest).run t := by
  induction files generalizing staged with
  | nil => simp
  | cons f files ih =>
    have hf := h f (by simp)
    have hfiles : ∀ g ∈ files, t.readText g.path = some g.content := fun g hg => h g (by simp [hg])
    simp [stageFiles, hf, ih hfiles]

theorem run_replaceFiles_passing {files : List OutputFile} {replaced : List Replaced}
    {rest : List Staged} :
    replaceFiles replaced (files.map (⟨·, .unchanged⟩) ++ rest) = replaceFiles replaced rest := by
  induction files with
  | nil => rfl
  | cons f files ih => simpa [replaceFiles] using ih

theorem run_dropStaged_passing {files : List OutputFile} {rest : List Staged} :
    dropStaged (files.map (⟨·, .unchanged⟩) ++ rest) = dropStaged rest := by
  induction files with
  | nil => rfl
  | cons f files ih => simpa [dropStaged] using ih

theorem run_commit_passing {files : List OutputFile}
    (h : ∀ f ∈ files, t.readText f.path = some f.content) :
    (commit files).run t = (.ok (files.map fun f => (f.path, .unchanged)), t) := by
  have hstage : (stageFiles [] files).run t = (.ok (files.map (⟨·, .unchanged⟩)), t) := by
    have hpass := @run_stageFiles_passing t files [] [] h
    simpa [stageFiles] using hpass
  have hreplace : replaceFiles [] (files.map (⟨·, .unchanged⟩)) = pure (.ok []) := by
    have hpass := @run_replaceFiles_passing files [] []
    simpa [replaceFiles] using hpass
  simp [commit, hstage, hreplace, dropBackups, Function.comp_def]

/-- At the first file that does not hold its content yet, the directory is made. If that file is
staged, the commit goes on as one that started with the directory there. -/
theorem isStaging_of_makeDirs {pre post : List OutputFile} (hps : ps = pre ++ p :: post)
    (hn : ∀ q ∈ ps, Path.IsName q.path) (ha : (t.makeDirs dir).1.Admits (ps.map (OutputFile.inDir dir)))
    (hs : t.Spares dir (ps.map (·.path)))
    (hpre : ∀ q ∈ pre, t.readText (q.inDir dir).path = some q.content)
    (hp : t.readText (p.inDir dir).path ≠ some p.content)
    (hr : (t.makeDirs dir).1.Reaches (p.inDir dir))
    (hd : isDirectoryAt (t.makeDirs dir).1 (t.place (p.inDir dir).staging) = false) :
    IsStaging t (t.makeDirs dir).1
      ((t.makeDirs dir).1.put (t.place (p.inDir dir).staging) (.file (.text (p.inDir dir).content)))
      (ps.map (OutputFile.inDir dir))
      ((pre.map (OutputFile.inDir dir)).map (⟨·, .unchanged⟩) ++ [⟨p.inDir dir, .written⟩])
      (post.map (OutputFile.inDir dir)) := by
  have hk := (makeDirs_adds t dir).keepsDirectories
  have hreads : ∀ q ∈ ps, t.readText (q.inDir dir).path = some q.content →
      (t.makeDirs dir).1.readText (q.inDir dir).path = some q.content := fun q hq h =>
    hk.readText (hs.entry?_eq hn hq (List.prefix_refl _)) h
  have hstart : IsStaging t (t.makeDirs dir).1 (t.makeDirs dir).1 (ps.map (OutputFile.inDir dir))
      ((pre.map (OutputFile.inDir dir)).map (⟨·, .unchanged⟩))
        ((p :: post).map (OutputFile.inDir dir)) := by
    refine ⟨?_, by simp [hps, Function.comp_def], .refl _ _ _, ?_, ?_, fun _ _ => rfl⟩
    · intro f hf
      obtain ⟨q, hq, rfl⟩ := List.mem_map.mp hf
      exact hreads q hq
    · intro s hm hw
      obtain ⟨f, -, rfl⟩ := List.mem_map.mp hm
      cases hw
    · intro s hm
      obtain ⟨f, hf, rfl⟩ := List.mem_map.mp hm
      obtain ⟨q, hq, rfl⟩ := List.mem_map.mp hf
      exact ⟨hreads q (by simp [hps, hq]) (hpre q hq), rfl⟩
  have hplace : (t.makeDirs dir).1.place (p.inDir dir).staging = t.place (p.inDir dir).staging :=
    hk.place_eq _
  rw [← hplace] at hd ⊢
  have hm : p.inDir dir ∈ ps.map (OutputFile.inDir dir) := List.mem_map_of_mem (by simp [hps])
  obtain ⟨hput, hone⟩ := isStaged_put ha hm rfl hr hd
  exact hstart.next ha hput hone fun _ => hp

theorem promised_of_isCommitted {ε : Type} {ss : List Staged} (hn : ∀ p ∈ ps, Path.IsName p.path)
    (hs : t.Spares dir (ps.map (·.path)))
    (h : IsCommitted t (t.makeDirs dir).1 u (ps.map (OutputFile.inDir dir)) ss) :
    @Promised ε t u dir ps (.ok (ss.map fun s => (s.file.path, s.result))) := by
  have hk := (makeDirs_adds t dir).keepsDirectories
  refine List.forall₂_map_right_iff.mpr (forall₂_of_map_eq h.covers.symm fun p hp s hm he => ?_)
  have hdone := (h.done (p.inDir dir) (List.mem_map_of_mem hp)).1
  rw [hk.place_eq] at hdone
  have hpath : s.file.path = Path.join dir p.path := by rw [← he]; rfl
  have hcontent : s.file.content = p.content := by rw [← he]; rfl
  refine ⟨hpath, by rw [hpath]; exact hdone, fun hu => ?_, fun hw => ?_⟩
  · have hstay := h.unchanged s hm hu
    simp only [IsStaged, show s.result = .unchanged from hu, ← he] at hstay
    have hsame := congrArg Prod.fst hstay.2
    simp only [holding, hk.place_eq] at hsame
    rw [hpath, ← hs.entry?_eq hn hp (List.prefix_refl _)]
    exact hsame.symm.trans hdone
  · rw [← hcontent]
    exact h.stale s hm hw

theorem promised_of_isRolledBack {ε : Type} {e : ε} (hn : ∀ p ∈ ps, Path.IsName p.path)
    (hs : t.Spares dir (ps.map (·.path)))
    (ha : (t.makeDirs dir).1.Admits (ps.map (OutputFile.inDir dir)))
    (h : IsRolledBack (t.makeDirs dir).1 u (ps.map (OutputFile.inDir dir))) :
    Promised t u dir ps (.error e) := by
  have hk := (makeDirs_adds t dir).keepsDirectories
  intro p hp l hl
  rw [← hs.entry?_eq hn hp hl]
  have hm : p.inDir dir ∈ ps.map (OutputFile.inDir dir) := List.mem_map_of_mem hp
  have hplace : (t.makeDirs dir).1.place (p.inDir dir).path = t.place (Path.join dir p.path) :=
    hk.place_eq _
  rw [← hplace] at hl
  by_cases he : (t.makeDirs dir).1.place (p.inDir dir).path = l
  · rw [← he]
    exact (h.1 _ hm).1
  · exact h.2.entry?_inside ha hm mem_spots_path hl he

/-- Files of which none has the name of a hidden one are written as promised, if making the
directory spares them. -/
theorem promised_of_noHidden (hn : ∀ p ∈ ps, Path.IsName p.path) (hd : (ps.map (·.path)).Nodup)
    (hh : NoHidden (ps.map (·.path))) (hs : t.Spares dir (ps.map (·.path))) :
    Promised t ((commit (ps.map (OutputFile.inDir dir))).run t).2 dir ps
      ((commit (ps.map (OutputFile.inDir dir))).run t).1 := by
  have hk := (makeDirs_adds t dir).keepsDirectories
  -- nothing is done up to the first file that does not hold its text; it makes the directory
  cases hfirst : ps.find? fun p => t.readText (p.inDir dir).path ≠ some p.content with
  | none =>
    have hall : ∀ p ∈ ps, t.readText (p.inDir dir).path = some p.content := by simpa using hfirst
    have hrun : (commit (ps.map (OutputFile.inDir dir))).run t = _ :=
      run_commit_passing (by simpa [OutputFile.inDir] using hall)
    rw [hrun]
    refine List.forall₂_map_right_iff.mpr (List.forall₂_map_right_iff.mpr ?_)
    refine List.forall₂_same.mpr fun p hp => ?_
    obtain ⟨l, hl, hc⟩ := readText_eq_some.mp (hall p hp)
    rw [locate?_eq_some (locateFile?_eq_some hl).2] at hc
    exact ⟨rfl, hc, fun _ => hc, fun hw => by cases hw⟩
  | some p =>
    obtain ⟨hp, pre, post, hps, hpre⟩ := List.find?_eq_some_iff_append.mp hfirst
    have hp : t.readText (p.inDir dir).path ≠ some p.content := by simpa using hp
    have hpre : ∀ q ∈ pre, t.readText (q.inDir dir).path = some q.content := by simpa using hpre
    have hname : Path.IsName p.path := hn p (by simp [hps])
    have hparts : Path.parts dir = (Path.parts (p.inDir dir).path).dropLast := by
      simp [parts_inDir hname]
    obtain ⟨-, hrun⟩ := @run_writeStaging t (p.inDir dir) dir _ (p.inDir dir).content
      (fileName?_inDir hname dir) hparts (isAbsolute_inDir hname).symm
    have hpass : (stageFiles [] (ps.map (OutputFile.inDir dir))).run t =
        (stageFiles ((pre.map (OutputFile.inDir dir)).map (⟨·, .unchanged⟩))
          (p.inDir dir :: post.map (OutputFile.inDir dir))).run t := by
      rw [hps, List.map_append, List.map_cons]
      exact run_stageFiles_passing (by simpa [OutputFile.inDir] using hpre)
    have hread : t.readText (p.inDir dir).path ≠ some (p.inDir dir).content := hp
    rcases hrun with hrun | ⟨hr, hnd, hrun⟩
    · have hdrop := @run_dropStaged_passing (pre.map (OutputFile.inDir dir)) []
      rw [List.append_nil] at hdrop
      have hcommit : (commit (ps.map (OutputFile.inDir dir))).run t =
          (.error ⟨.staging (p.inDir dir).path, []⟩, (t.makeDirs dir).1) := by
        simp [commit, hpass, stageFiles, hread, hrun, hdrop, dropStaged, -List.map_map]
      rw [hcommit]
      exact fun q hq l hl => hs.entry?_eq hn hq hl
    · have hlane : ∀ l ∈ (t.makeDirs dir).1.lane dir, isDirectoryAt (t.makeDirs dir).1 l = true :=
        hr.lane hname
      have ha := admits_inDir hn hd hh hlane
      have hstaging := isStaging_of_makeDirs hps hn ha hs hpre hp hr hnd
      have hnext := hpass
      simp only [stageFiles, run_bind, run_readTextAt, hread, if_false, hrun, if_true] at hnext
      rcases run_commit_of_staging ha hstaging hnext with ⟨ss, v, hv, hcom⟩ | ⟨fault, v, hv, hback⟩
      · rw [hv]
        exact promised_of_isCommitted hn hs hcom
      · rw [hv]
        exact promised_of_isRolledBack hn hs ha hback

theorem commit_keepsDirectories {files : List OutputFile}
    (h : KeepsDirectories u ((stageFiles [] files).run t).2) :
    KeepsDirectories u ((commit files).run t).2 := by
  unfold commit
  rw [run_bind]
  exact h.trans (run_keepsDirectories _ _)

theorem stageFiles_keeps_made (hp : Path.IsName p.path) {staged : List Staged}
    {files : List OutputFile} (hl : l ∈ t.lane dir) (hd : t.isDirectoryAt l = false) :
    KeepsDirectories (t.makeDirs dir).1 ((stageFiles staged (p.inDir dir :: files)).run t).2 := by
  have hread : t.readText (p.inDir dir).path ≠ some (p.inDir dir).content := by
    intro h
    have := lane_of_readText hp h l hl
    simp [hd] at this
  have hparts : Path.parts dir = (Path.parts (p.inDir dir).path).dropLast := by
    simp [parts_inDir hp]
  obtain ⟨-, hrun⟩ := @run_writeStaging t (p.inDir dir) dir _ (p.inDir dir).content
    (fileName?_inDir hp dir) hparts (isAbsolute_inDir hp).symm
  simp only [stageFiles, run_bind, run_readTextAt, hread, if_false]
  refine KeepsDirectories.trans ?_ (run_keepsDirectories _ _)
  rcases hrun with hrun | ⟨-, hnd, hrun⟩
  · rw [hrun]
    exact .refl _
  · rw [hrun]
    exact .of_put hnd

theorem spares_of_promised (hn : ∀ p ∈ ps, Path.IsName p.path) (ht : t.IsTree)
    (h : Promised t ((commit (ps.map (OutputFile.inDir dir))).run t).2 dir ps
      ((commit (ps.map (OutputFile.inDir dir))).run t).1) : t.Spares dir (ps.map (·.path)) := by
  intro l hleft name hname hl
  obtain ⟨p, hp, rfl⟩ := List.mem_map.mp hname
  rcases (makeDirs_adds t dir).entry l with he | ⟨hnone, hmade, -⟩
  · exact he
  exfalso
  cases ps with
  | nil => simp at hp
  | cons first rest =>
    have hkeeps :=
      commit_keepsDirectories (@stageFiles_keeps_made t dir first l (hn first (by simp)) []
      (rest.map (OutputFile.inDir dir)) (leaves_subset_lane _ _ hleft) (not_directory_of_none hnone))
    have hdir := hkeeps.directory l (isDirectoryAt_iff.mpr hmade)
    have hdir' := isDirectoryAt_iff.mp hdir
    rw [List.map_cons] at h
    cases hr : ((commit (first.inDir dir :: rest.map (OutputFile.inDir dir))).run t).1 with
    | error e =>
      rw [hr] at h
      rw [h p hp l hl, hnone] at hdir'
      cases hdir'
    | ok rs =>
      rw [hr] at h
      have hu : IsTree _ :=
        run_isTree (commit (first.inDir dir :: rest.map (OutputFile.inDir dir))) ht
      have hentry := h.entry?_eq hp
      by_cases he : t.place (Path.join dir p.path) = l
      · rw [he, hdir'] at hentry
        cases hentry
      · have hin := hu.inside _ l hl he (by simp [hdir'])
        rw [isDirectoryAt_iff, hentry] at hin
        cases hin

end FileTree

end CommandGen
