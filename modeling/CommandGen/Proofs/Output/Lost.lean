import CommandGen.Proofs.Output.Failing

/-! Names with which a file is lost: those that lead to the directory itself, and those of the
hidden files of other names. -/
namespace CommandGen

open FileProgram

namespace FileTree

variable {t u v : FileTree} {p q : OutputFile} {ps pre post files : List OutputFile} {name : String}
  {l : Location} {c : Content} {es : List (String × FileEntry)} {s : Staged} {ss : List Staged}

def flat (es : List (String × FileEntry)) : FileTree := ⟨es.map fun e => ([e.1], e.2), []⟩

theorem entry?_flat (es : List (String × FileEntry)) (name : String) :
    entry? (flat es) [name] = es.lookup name := by
  simp only [flat, entry?, List.cons_ne_nil, if_false]
  induction es with
  | nil => rfl
  | cons e es ih =>
    obtain ⟨n, x⟩ := e
    have hb : ([name] == [n]) = (name == n) := by
      rw [Bool.eq_iff_iff]
      simp
    simp only [List.map_cons, List.lookup_cons, hb]
    cases name == n <;> simp [ih]

theorem isTree_flat (es : List (String × FileEntry)) : (flat es).IsTree := by
  refine ⟨fun l m hl hne hm => ?_⟩
  have hlen : m.length ≤ 1 := by
    by_cases hnil : m = []
    · simp [hnil]
    · simp only [flat, entry?, hnil, if_false] at hm
      obtain ⟨e, he⟩ := Option.ne_none_iff_exists'.mp hm
      obtain ⟨xs, ys, hmap, -⟩ := List.lookup_eq_some_iff.mp he
      have hmem : (m, e) ∈ es.map fun e => ([e.1], e.2) := by
        rw [hmap]
        simp
      obtain ⟨x, -, hx⟩ := List.mem_map.mp hmem
      simp [← (Prod.mk.inj hx).1]
  have hle := hl.length_le
  have hnl : l.length ≠ m.length := fun h => hne (hl.eq_of_length h)
  have hz : l = [] := List.length_eq_zero_iff.mp (by omega)
  simp [hz, isDirectoryAt_iff]

theorem isAbsolute_name (hn : Path.IsName name) : Path.isAbsolute name = false :=
  Path.isAbsolute_eq_false hn.no_slash

theorem inDir_empty (p : OutputFile) : p.inDir "" = p := by simp [OutputFile.inDir, Path.join]

theorem parts_name (hn : Path.IsName name) : Path.parts name = [name] := by
  rw [Path.parts_eq (Path.pieces_of_no_slash hn.no_slash)]
  simp [hn.ne_empty]

theorem namesDirectory_name (hn : Path.IsName name) : Path.namesDirectory name = false := by
  simp [Path.namesDirectory, Path.pieces_of_no_slash hn.no_slash,
    hn.ne_empty, hn.ne_dot, hn.ne_dots]

theorem place_name (hw : t.workDir = []) (hn : Path.IsName name) : t.place name = [name] := by
  simp [place, start, isAbsolute_name hn, hw, parts_name hn, stepTo_name hn.ne_dot hn.ne_dots]

theorem locateFile?_name (hw : t.workDir = []) (hn : Path.IsName name)
    (he : isEntryName name = true) :
    t.locateFile? name = some [name] := by
  have hroot : t.isDirectoryAt [] = true := by simp [isDirectoryAt_iff]
  simp [locateFile?, namesDirectory_name hn, locate?, hn.ne_empty, start, isAbsolute_name hn, hw,
    parts_name hn, follow?, hroot, hn.ne_dot, hn.ne_dots, he]

theorem sibling_name (hn : Path.IsName name) (suffix : String) :
    Path.sibling name suffix = Path.hiddenName name suffix := by
  have hf : Path.fileName? name = some name := by
    simp [Path.fileName?, parts_name hn, hn.ne_dot, hn.ne_dots]
  rw [Path.sibling_eq hf]
  simp [parts_name hn, isAbsolute_name hn, Path.ofParts, Path.join]

theorem run_writeStaging_name (hw : t.workDir = []) (hn : Path.IsName p.path)
    (he : isEntryName (Path.hiddenName p.path "tmp") = true)
    (hd : t.isDirectoryAt [Path.hiddenName p.path "tmp"] = false) :
    (writeWithDirs p.staging p.content).run t =
      (true, t.put [Path.hiddenName p.path "tmp"] (.file (.text p.content))) := by
  have htmp := Path.isName_hiddenName hn.no_slash isName_tmp
  have hs : p.staging = Path.hiddenName p.path "tmp" := sibling_name hn "tmp"
  have hparent : Path.parent? p.staging = some "" := by
    rw [hs]
    simp [Path.parent?, parts_name htmp, isAbsolute_name htmp, Path.ofParts]
  have hroot : t.isDirectoryAt [] = true := by simp [isDirectoryAt_iff]
  have hloc : t.locateFile? p.staging = some [Path.hiddenName p.path "tmp"] := by
    rw [hs]
    exact locateFile?_name hw htmp he
  simp [writeWithDirs, hparent, FileTree.makeDirs, FileTree.writeText,
    writeContent, hloc, hd, hroot]

def NoFile (t : FileTree) (l : Location) : Prop := ∀ c, t.entry? l ≠ some (.file c)

theorem NoFile.removeFile (h : t.NoFile l) (path : String) : NoFile (t.removeFile path).1 l := by
  rcases removeFile_cases t path with hr | ⟨m, c, -, hc, hr⟩
  · simpa only [hr] using h
  · intro c'
    rw [hr, entry?_without (ne_nil_of_not_directory (not_directory_of_file hc))]
    split
    · simp
    · exact h c'

theorem NoFile.dropStaged (h : t.NoFile l) : NoFile ((dropStaged ss).run t).2 l := by
  induction ss generalizing t with
  | nil => exact h
  | cons s rest ih =>
    by_cases hw : s.result = .written
    · simpa [CommandGen.dropStaged, hw] using ih (h.removeFile s.file.staging)
    · simpa [CommandGen.dropStaged, hw] using ih h

theorem noFile_removeFile {path : String} (hl : t.locateFile? path = some l) :
    NoFile (t.removeFile path).1 l := by
  rcases removeFile_cases t path with hr | ⟨m, c, hm, hc, hr⟩
  · intro c hc
    rw [hr] at hc
    simp [removeFile_eq hl hc] at hr
  · have he : m = l := by simpa [hl] using hm.symm
    intro c'
    rw [hr, he, entry?_without (ne_nil_of_not_directory (not_directory_of_file (he ▸ hc)))]
    simp

theorem noFile_dropStaged (hs : s ∈ ss) (hw : s.result = .written)
    (hl : t.locateFile? s.file.staging = some l) : NoFile ((dropStaged ss).run t).2 l := by
  induction ss generalizing t with
  | nil => simp at hs
  | cons x rest ih =>
    rcases List.mem_cons.mp hs with rfl | hs
    · have hn : NoFile ((dropStaged rest).run (t.removeFile s.file.staging).1).2 l :=
        (noFile_removeFile hl).dropStaged
      simpa [dropStaged, hw] using hn
    · by_cases hx : x.result = .written
      · have hk := removeFile_keepsDirectories t x.file.staging
        simpa [dropStaged, hx] using ih hs (hk.locateFile? hl)
      · simpa [dropStaged, hx] using ih hs hl

theorem run_stageFiles_of_staged (hs : s ∈ ss) (hw : s.result = .written)
    (hl : t.locateFile? s.file.staging = some l) :
    (∃ more u, (stageFiles ss files).run t = (.ok (ss ++ more), u) ∧ KeepsDirectories t u) ∨
      ∃ e u, (stageFiles ss files).run t = (.error e, u) ∧ u.NoFile l := by
  induction files generalizing ss t with
  | nil => exact .inl ⟨[], t, by simp [stageFiles], .refl t⟩
  | cons f rest ih =>
    simp only [stageFiles, run_bind, run_readTextAt]
    by_cases hr : t.readText f.path = some f.content
    · simp only [hr, if_true]
      have hs' : s ∈ ss ++ [⟨f, .unchanged⟩] := by simp [hs]
      rcases ih hs' hl with ⟨more, u, hu, hk⟩ | hfail
      · exact .inl ⟨⟨f, .unchanged⟩ :: more, u, by simpa using hu, hk⟩
      · exact .inr hfail
    · simp only [hr, if_false, run_bind]
      have hk := run_keepsDirectories (writeWithDirs f.staging f.content) t
      by_cases hok : ((writeWithDirs f.staging f.content).run t).1 = true
      · simp only [hok, if_true]
        have hs' : s ∈ ss ++ [⟨f, .written⟩] := by simp [hs]
        rcases ih hs' (hk.locateFile? hl) with ⟨more, u, hu, hk'⟩ | hfail
        · exact .inl ⟨⟨f, .written⟩ :: more, u, by simpa using hu, hk.trans hk'⟩
        · exact .inr hfail
      · simp only [hok, if_false, Bool.false_eq_true, run_bind, run_pure]
        exact .inr ⟨_, _, rfl, noFile_dropStaged hs hw (hk.locateFile? hl)⟩

theorem run_replaceFile_directory {f : OutputFile} (hl : t.locateFile? f.path = some l)
    (hd : t.isDirectoryAt l = true) : (replaceFile f).run t = (.error (.writing f.path), t) := by
  have he := isDirectoryAt_iff.mp hd
  have hfile : t.isFile f.path = false := by simp [FileTree.isFile, hl, he]
  have hmove : t.moveFile f.staging f.path = (t, false) := by
    rcases moveFile_cases t f.staging f.path with h | ⟨a, b, c, -, hb, -, hnd, -⟩
    · exact h
    · rw [hl, Option.some.injEq] at hb
      simp [← hb, hd] at hnd
  simp [replaceFile, hfile, hmove]

/-- All files hold their content at their names, except one, which has another entry. -/
def settled (ps : List OutputFile) (q : OutputFile) (e : FileEntry) : FileTree :=
  flat (ps.map fun p => (p.path, if p = q then e else .file (.text p.content)))

section

variable {e : FileEntry}

theorem lookup_of_nodup {g : OutputFile → FileEntry} (hd : (ps.map (·.path)).Nodup) (hp : p ∈ ps) :
    (ps.map fun p => (p.path, g p)).lookup p.path = some (g p) := by
  induction ps with
  | nil => simp at hp
  | cons x rest ih =>
    obtain ⟨hx, hd⟩ := List.nodup_cons.mp hd
    rcases List.mem_cons.mp hp with rfl | hp
    · simp
    · have hm : p.path ∈ rest.map (·.path) := List.mem_map_of_mem hp
      have hb : (p.path == x.path) = false := by
        rw [beq_eq_false_iff_ne]
        intro e
        rw [e] at hm
        exact hx hm
      simpa [List.lookup_cons, hb] using ih hd hp

theorem entry?_settled (hd : (ps.map (·.path)).Nodup) (hp : p ∈ ps) :
    entry? (settled ps q e) [p.path] = some (if p = q then e else .file (.text p.content)) := by
  rw [settled, entry?_flat]
  exact @lookup_of_nodup p ps (fun p => if p = q then e else .file (.text p.content)) hd hp

theorem entry?_settled_none {name : String} (h : name ∉ ps.map (·.path)) :
    entry? (settled ps q e) [name] = none := by
  rw [settled, entry?_flat, List.lookup_eq_none_iff]
  intro x hx
  obtain ⟨p, hp, rfl⟩ := List.mem_map.mp hx
  have hm : p.path ∈ ps.map (·.path) := List.mem_map_of_mem hp
  simpa using fun he : name = p.path => h (he ▸ hm)

theorem readText_settled (hd : (ps.map (·.path)).Nodup) (hp : p ∈ ps) (hn : Path.IsName p.path)
    (he : isEntryName p.path = true) (hne : p ≠ q) :
    (settled ps q e).readText p.path = some p.content := by
  refine readText_eq_some.mpr ⟨[p.path], locateFile?_name rfl hn he, ?_⟩
  rw [entry?_settled hd hp, if_neg hne]

end

theorem ne_of_nodup_append (hps : ps = pre ++ q :: post) (hd : (ps.map (·.path)).Nodup) :
    (∀ p ∈ pre, p ∈ ps ∧ p ≠ q) ∧ q ∈ ps ∧ ∀ p ∈ post, p ∈ ps ∧ p ≠ q := by
  have hn : ps.Nodup := .of_map _ hd
  rw [hps, List.nodup_append, List.nodup_cons] at hn
  obtain ⟨-, ⟨hq, -⟩, hapart⟩ := hn
  refine ⟨fun p hp => ⟨by simp [hps, hp], hapart p hp q (by simp)⟩, by simp [hps], fun p hp =>
    ⟨by simp [hps, hp], ?_⟩⟩
  rintro rfl
  exact hq hp

theorem place_join_empty (hw : t.workDir = []) (hn : Path.IsName p.path) :
    t.place (Path.join "" p.path) = [p.path] := by
  rw [show Path.join "" p.path = p.path from congrArg OutputFile.path (inDir_empty p)]
  exact place_name hw hn

/-- Where all files but one hold their content, that one is staged, over whatever is there. -/
theorem run_stageFiles_settled {e : FileEntry} (hps : ps = pre ++ q :: post)
    (hn : ∀ p ∈ ps, Path.IsName p.path) (hd : (ps.map (·.path)).Nodup)
    (hpre : ∀ p ∈ pre, isEntryName p.path = true) (hstale : e ≠ .file (.text q.content))
    (he : isEntryName (Path.hiddenName q.path "tmp") = true)
    (hfree : (settled ps q e).isDirectoryAt [Path.hiddenName q.path "tmp"] = false) :
    (stageFiles [] ps).run (settled ps q e) =
      (stageFiles (pre.map (⟨·, .unchanged⟩) ++ [⟨q, .written⟩]) post).run
        ((settled ps q e).put [Path.hiddenName q.path "tmp"] (.file (.text q.content))) := by
  obtain ⟨hpreq, hq, -⟩ := ne_of_nodup_append hps hd
  have hpass := @run_stageFiles_passing (settled ps q e) pre (q :: post) []
    fun p hp => readText_settled hd (hpreq p hp).1 (hn p (hpreq p hp).1) (hpre p hp) (hpreq p hp).2
  have hread : (settled ps q e).readText q.path ≠ some q.content := by
    intro hr
    obtain ⟨l, hl, hc⟩ := readText_eq_some.mp hr
    have hle : l = [q.path] :=
      (locate?_eq_some (locateFile?_eq_some hl).2).trans (place_name rfl (hn q hq))
    rw [hle, entry?_settled hd hq, if_pos rfl, Option.some.injEq] at hc
    exact hstale hc
  have hwrite := @run_writeStaging_name (settled ps q e) q rfl (hn q hq) he hfree
  rw [← hps] at hpass
  rw [hpass]
  simp [stageFiles, hread, hwrite]

/-- A name that is that of the first hidden file of another one: its file is lost if the other one
cannot be written after all. -/
theorem not_promised_of_staging (hps : ps = pre ++ q :: post) (hn : ∀ p ∈ ps, Path.IsName p.path)
    (hd : (ps.map (·.path)).Nodup) (hpre : ∀ p ∈ pre, isEntryName p.path = true)
    (he : isEntryName (Path.hiddenName q.path "tmp") = true)
    (hm : Path.hiddenName q.path "tmp" ∈ ps.map (·.path)) :
    ∃ t, t.IsTree ∧ ¬ Promised t ((commit ps).run t).2 "" ps ((commit ps).run t).1 := by
  obtain ⟨-, hq, -⟩ := ne_of_nodup_append hps hd
  obtain ⟨a, ha, haname⟩ := List.mem_map.mp hm
  have haq : a ≠ q := by
    rintro rfl
    exact Path.ne_hiddenName _ _ haname
  let t := settled ps q .directory
  have hqdir : t.isDirectoryAt [q.path] = true := by
    rw [isDirectoryAt_iff, entry?_settled hd hq, if_pos rfl]
  have hafile : t.entry? [Path.hiddenName q.path "tmp"] = some (.file (.text a.content)) := by
    rw [← haname, entry?_settled hd ha, if_neg haq]
  have hfree := not_directory_of_file hafile
  have hstage := run_stageFiles_settled hps hn hd hpre (by simp) he hfree
  have hk : KeepsDirectories t (t.put [Path.hiddenName q.path "tmp"] (.file (.text q.content))) :=
    .of_put hfree
  have htmp := Path.isName_hiddenName (hn q hq).no_slash isName_tmp
  have hloc : ∀ u : FileTree, u.workDir = [] →
      u.locateFile? q.staging = some [Path.hiddenName q.path "tmp"] := by
    intro u hu
    rw [OutputFile.staging, sibling_name (hn q hq)]
    exact locateFile?_name hu htmp he
  have hfail : ∃ e u, (commit ps).run t = (.error e, u) ∧
      u.NoFile [Path.hiddenName q.path "tmp"] := by
    have hmem : (⟨q, .written⟩ : Staged) ∈ pre.map (⟨·, .unchanged⟩) ++ [⟨q, .written⟩] := by simp
    have hlocv := hloc (t.put [Path.hiddenName q.path "tmp"] (.file (.text q.content))) rfl
    rcases @run_stageFiles_of_staged _ post _ ⟨q, .written⟩ _ hmem rfl hlocv with
      ⟨more, u, hu, hku⟩ | ⟨e, u, hu, hno⟩
    · -- a directory is in the way of the file, so that what was staged is dropped
      have hkt := hk.trans hku
      have hqe : isEntryName q.path = true := isEntryName_of_hiddenName he
      have hlq : u.locateFile? q.path = some [q.path] :=
        locateFile?_name hkt.workDir (hn q hq) hqe
      have hblocked := run_replaceFile_directory hlq (hkt.directory _ hqdir)
      have hpass := @run_replaceFiles_passing pre [] (⟨q, .written⟩ :: more)
      have hdrop : ((dropStaged (⟨q, .written⟩ :: more)).run u).2.NoFile _ :=
        @noFile_dropStaged u _ ⟨q, .written⟩ _ (by simp) rfl (hloc u hkt.workDir)
      refine ⟨⟨.writing q.path, []⟩, _, ?_, hdrop⟩
      simp [commit, t, hstage, hu, hpass, replaceFiles, hblocked, putBack]
    · exact ⟨e, u, by simp [commit, t, hstage, hu], hno⟩
  refine ⟨t, isTree_flat _, fun h => ?_⟩
  obtain ⟨e, u, hrun, hno⟩ := hfail
  rw [hrun] at h
  have hplace := @place_join_empty t a rfl (hn a ha)
  have hinside : t.place (Path.join "" a.path) <+: [Path.hiddenName q.path "tmp"] :=
    hplace ▸ haname ▸ List.prefix_refl _
  have hsame := h a ha _ hinside
  exact hno (.text a.content) (hsame.trans hafile)

/-- A file that is staged alone is put over what its place holds, and nothing is left at its hidden
locations, whatever was there before. -/
theorem run_overwrite {f : OutputFile} (ha : t.Admits [f]) (hr : t.Reaches f)
    (hn : Path.namesDirectory f.path = false) (hs : t.isDirectoryAt (t.place f.staging) = false)
    (hc : t.entry? (t.place f.path) = some (.file c)) (hb : t.isDirectoryAt (t.place f.backup) = false) :
    ∃ w x, (replaceFile f).run (t.put (t.place f.staging) (.file (.text f.content))) =
        (.ok ⟨f, true⟩, w) ∧ (dropBackups [⟨f, true⟩]).run w = ((), x) ∧
          t.holding x f = (f.entry, none, none) := by
  have hf : f ∈ [f] := by simp
  obtain ⟨hput, hreach, hh⟩ := isStaged_put ha hf rfl hr hs
  have hsb := (ha.ne hf).2.2
  rcases run_replaceFile_over ha hf hput.keeps hreach hn hc hh with ⟨hd, -⟩ | ⟨w, hw, hp, hT⟩
  · rw [isDirectoryAt_iff, entry?_put (ne_nil_of_not_directory hs), if_neg hsb.symm] at hd
    simp [isDirectoryAt, hd] at hb
  · obtain ⟨hreach', -, hi⟩ := hp
    rw [if_pos rfl, hc] at hi
    obtain ⟨x, hx, -, hh'⟩ := removeFile_backup ha hf (hput.keeps.trans hT.keeps) hreach' hi.2
    exact ⟨w, x, hw, by simp [dropBackups, hx], hh'⟩

/-- A name that is that of the second hidden file of another one: its file is lost once the other
one is written over what it held. -/
theorem not_promised_of_backup (hps : ps = pre ++ q :: post) (hn : ∀ p ∈ ps, Path.IsName p.path)
    (hd : (ps.map (·.path)).Nodup) (he : ∀ p ∈ ps, isEntryName p.path = true)
    (htmp : Path.hiddenName q.path "tmp" ∉ ps.map (·.path))
    (hm : Path.hiddenName q.path "bak" ∈ ps.map (·.path)) :
    ∃ t, t.IsTree ∧ ¬ Promised t ((commit ps).run t).2 "" ps ((commit ps).run t).1 := by
  obtain ⟨hpre, hq, hpost⟩ := ne_of_nodup_append hps hd
  obtain ⟨a, ha, haname⟩ := List.mem_map.mp hm
  have haq : a ≠ q := by
    rintro rfl
    exact Path.ne_hiddenName _ _ haname
  have hqn := hn q hq
  let t := settled ps q (.file (.binary []))
  have hqfile : t.entry? [q.path] = some (.file (.binary [])) := by
    rw [entry?_settled hd hq, if_pos rfl]
  have hafile : t.entry? [Path.hiddenName q.path "bak"] = some (.file (.text a.content)) := by
    rw [← haname, entry?_settled hd ha, if_neg haq]
  have hetmp : isEntryName (Path.hiddenName q.path "tmp") = true := by
    obtain ⟨hsize, hnull, -⟩ := isEntryName_hiddenName.mp (haname ▸ he a ha)
    have hb : "bak".utf8ByteSize = "tmp".utf8ByteSize := by decide
    exact isEntryName_hiddenName.mpr ⟨by omega, hnull, by decide⟩
  have hplaces : t.place q.path = [q.path] ∧ t.place q.staging = [Path.hiddenName q.path "tmp"] ∧
      t.place q.backup = [Path.hiddenName q.path "bak"] := by
    refine ⟨place_name rfl hqn, ?_, ?_⟩
    · rw [OutputFile.staging, sibling_name hqn]
      exact place_name rfl (Path.isName_hiddenName hqn.no_slash isName_tmp)
    · rw [OutputFile.backup, sibling_name hqn]
      exact place_name rfl (Path.isName_hiddenName hqn.no_slash isName_bak)
  have hadmits : t.Admits [q] := by
    have h := @admits_inDir t "" [q] (by simpa using hqn) (by simp)
      (by simp [NoHidden, (Path.ne_hiddenName _ _).symm])
        (by simp [lane, walk, isDirectoryAt_iff, start, Path.isAbsolute, t, settled, flat])
    simpa [inDir_empty] using h
  have hstaging : t.isDirectoryAt [Path.hiddenName q.path "tmp"] = false :=
    not_directory_of_none (entry?_settled_none htmp)
  have hloc : t.locateFile? q.staging = some [Path.hiddenName q.path "tmp"] := by
    rw [OutputFile.staging, sibling_name hqn]
    exact locateFile?_name rfl (Path.isName_hiddenName hqn.no_slash isName_tmp) hetmp
  have hreach : t.Reaches q := by
    have hname := fileName?_inDir hqn ""
    rw [inDir_empty] at hname
    exact (reaches_of_staging hname hloc).2
  obtain ⟨w, x, hw, hx, hh⟩ := run_overwrite hadmits hreach (namesDirectory_name hqn)
    (by rw [hplaces.2.1, hstaging]) (by rw [hplaces.1, hqfile])
    (by rw [hplaces.2.2]; exact not_directory_of_file hafile)
  rw [hplaces.2.1] at hw
  -- all others hold their content, also once this one is staged
  have hstage :=
    run_stageFiles_settled hps hn hd (fun p hp => he p (hpre p hp).1) (by simp) hetmp hstaging
  have hk : KeepsDirectories t (t.put [Path.hiddenName q.path "tmp"] (.file (.text q.content))) :=
    .of_put hstaging
  have hreads :
      ∀ p ∈ post, readText (t.put [Path.hiddenName q.path "tmp"] (.file (.text q.content)))
      p.path = some p.content := by
    intro p hp
    obtain ⟨hm', hne⟩ := hpost p hp
    refine hk.readText ?_ (readText_settled hd hm' (hn p hm') (he p hm') hne)
    rw [place_name rfl (hn p hm'), entry?_put (by simp), if_neg]
    intro heq
    have hmem : p.path ∈ ps.map (·.path) := List.mem_map_of_mem hm'
    rw [List.cons.inj heq |>.1] at hmem
    exact htmp hmem
  let ss : List Staged := pre.map (⟨·, .unchanged⟩) ++ ⟨q, .written⟩ :: post.map (⟨·, .unchanged⟩)
  have hstaged : (stageFiles [] ps).run t =
      (.ok ss, t.put [Path.hiddenName q.path "tmp"] (.file (.text q.content))) := by
    have hpass :=
      @run_stageFiles_passing _ post [] (pre.map (⟨·, .unchanged⟩) ++ [⟨q, .written⟩]) hreads
    rw [List.append_nil] at hpass
    rw [hstage, hpass]
    simp [stageFiles, ss]
  have hreplaced : (replaceFiles [] ss).run (t.put [Path.hiddenName q.path "tmp"]
      (.file (.text q.content))) = (.ok [⟨q, true⟩], w) := by
    have hrest := @run_replaceFiles_passing post [⟨q, true⟩] []
    rw [List.append_nil] at hrest
    rw [run_replaceFiles_passing]
    simp [replaceFiles, hw, hrest]
  have hrun : (commit ps).run t = (.ok (ss.map fun s => (s.file.path, s.result)), x) := by
    simp [commit, hstaged, hreplaced, hx]
  refine ⟨t, isTree_flat _, fun h => ?_⟩
  rw [hrun] at h
  have hplace := h.entry?_eq ha
  have hlost : x.entry? [Path.hiddenName q.path "bak"] = none := by
    rw [← hplaces.2.2]
    exact (Prod.mk.inj (Prod.mk.inj hh).2).2
  rw [@place_join_empty t a rfl (hn a ha), haname, hlost] at hplace
  cases hplace

/-- In a directory that is not there, every name but a dot has the directory made. -/
theorem stageFiles_makes_ab (hs : '/' ∉ p.path.toList) (hne : p.path ≠ "") (hdot : p.path ≠ ".")
    (hw : t.workDir = []) (hd : t.isDirectoryAt ["a", "b"] = false)
    (hmade : isDirectoryAt (t.makeDirs "a/b").1 ["a", "b"] = true)
    (hmade' : isDirectoryAt (t.makeDirs "a/b/..").1 ["a", "b"] = true) :
    isDirectoryAt ((stageFiles ss (p.inDir "a/b" :: files)).run t).2 ["a", "b"] = true := by
  by_cases hdots : p.path = ".."
  · have hpath : (p.inDir "a/b").path = "a/b/.." := by
      change Path.join "a/b" p.path = "a/b/.."
      rw [hdots]
      decide
    have hstaging : (p.inDir "a/b").staging = "a/b/../..tmp" := by
      rw [OutputFile.staging, hpath]
      decide
    have hread : t.readText "a/b/.." = none := by
      have hn : Path.namesDirectory "a/b/.." = true := by decide
      simp [FileTree.readText, locateFile?, hn]
    have hparent : Path.parent? "a/b/../..tmp" = some "a/b/.." := by decide
    have hwrite : KeepsDirectories (t.makeDirs "a/b/..").1
        ((writeWithDirs "a/b/../..tmp" (p.inDir "a/b").content).run t).2 := by
      simp only [writeWithDirs, hparent, run_bind, run_makeDirsAt]
      exact run_keepsDirectories _ _
    simp only [stageFiles, run_bind, run_readTextAt, hpath, hstaging, hread, reduceCtorEq, if_false]
    exact (hwrite.trans (run_keepsDirectories _ _)).directory _ hmade'
  · have hlane : t.lane "a/b" = (atWork []).lane "a/b" := by simp [lane, start, hw, atWork]
    have hl : ["a", "b"] ∈ t.lane "a/b" := by
      rw [hlane]
      decide
    exact (stageFiles_keeps_made ⟨hne, hdot, hdots, hs⟩ hl hd).directory _ hmade

theorem run_stageFiles_dot {content : String} :
    (stageFiles [] (OutputFile.inDir "a/b" ⟨".", content⟩ :: files)).run (atWork []) =
      (stageFiles [⟨OutputFile.inDir "a/b" ⟨".", content⟩, .written⟩] files).run
        ⟨[(["a", ".b.tmp"], .file (.text content)), (["a"], .directory)], []⟩ := by
  have hjoin : Path.join "a/b" "." = "a/b/." := by decide
  have hsibling : Path.sibling "a/b/." "tmp" = "a/.b.tmp" := by decide
  have hread : (atWork []).readText "a/b/." = none := by decide
  have hwrite : (writeWithDirs "a/.b.tmp" content).run (atWork []) =
      (true, ⟨[(["a", ".b.tmp"], .file (.text content)), (["a"], .directory)], []⟩) := rfl
  simp only [stageFiles, run_bind, run_readTextAt, OutputFile.inDir,
    OutputFile.staging, hjoin, hsibling, hread, reduceCtorEq, if_false, hwrite,
    if_true, List.nil_append]

/-- A dot or two for a name: where the directory is missing, it is made at the place of a file, or
around it. -/
theorem not_promised_of_dots (hs : ∀ p ∈ ps, '/' ∉ p.path.toList) (hne : ∀ p ∈ ps, p.path ≠ "")
    (hd : (ps.map (·.path)).Nodup) (hlen : 2 ≤ ps.length) (hq : q ∈ ps)
    (hdots : q.path = "." ∨ q.path = "..") :
    ¬ Promised (atWork []) ((commit (ps.map (OutputFile.inDir "a/b"))).run (atWork [])).2 "a/b" ps
      ((commit (ps.map (OutputFile.inDir "a/b"))).run (atWork [])).1 := by
  have hstage : isDirectoryAt ((stageFiles [] (ps.map (OutputFile.inDir "a/b"))).run (atWork [])).2
      ["a", "b"] = true := by
    match ps, hlen with
    | first :: second :: rest, _ =>
      by_cases hdot : first.path = "."
      · have hfirst : first = ⟨".", first.content⟩ := by rw [← hdot]
        have hsecond : second.path ≠ "." := by
          rw [← hdot]
          intro he
          simp [he] at hd
        rw [hfirst, List.map_cons, List.map_cons, run_stageFiles_dot]
        exact stageFiles_makes_ab (hs second (by simp)) (hne second (by simp)) hsecond rfl rfl rfl rfl
      · exact stageFiles_makes_ab (hs first (by simp)) (hne first (by simp)) hdot rfl (by decide)
          (by decide) (by decide)
  have hdir : isDirectoryAt
      ((commit (ps.map (OutputFile.inDir "a/b"))).run (atWork [])).2 ["a", "b"] = true :=
    (commit_keepsDirectories (.refl _)).directory _ hstage
  have htree := run_isTree (commit (ps.map (OutputFile.inDir "a/b"))) (isTree_atWork [])
  -- the place of the name is the directory or the one around it
  have hplace : ∃ l, (atWork []).place (Path.join "a/b" q.path) = l ∧ l <+: ["a", "b"] ∧
      entry? (atWork []) l = none := by
    rcases hdots with h | h
    · exact ⟨["a", "b"], by rw [h]; decide, by decide, by decide⟩
    · exact ⟨["a"], by rw [h]; decide, by decide, by decide⟩
  obtain ⟨l, hl, hprefix, hnone⟩ := hplace
  have hmade := isDirectoryAt_iff.mp (htree.of_isPrefix hdir hprefix)
  intro h
  cases hr : ((commit (ps.map (OutputFile.inDir "a/b"))).run (atWork [])).1 with
  | error e =>
    rw [hr] at h
    have hsame := h q hq l (by simp [hl])
    rw [hmade, hnone] at hsame
    cases hsame
  | ok rs =>
    rw [hr] at h
    have hentry := h.entry?_eq hq
    rw [hl, hmade] at hentry
    cases hentry

end FileTree

end CommandGen
