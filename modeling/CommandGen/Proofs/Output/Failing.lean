import CommandGen.Proofs.Output.Generate

/-! Files of which one has a name that no entry can have. Writing them fails, and touches no
place. -/
namespace CommandGen

open FileProgram

namespace FileTree

variable {t u : FileTree} {dir : String} {p q : OutputFile}
  {ps met todo : List OutputFile} {l : Location} {staged : List Staged}

theorem Reaches.isEntryName (h : t.Reaches (p.inDir dir)) (hp : Path.IsName p.path) :
    isEntryName (Path.hiddenName p.path "tmp") = true := by
  have hname := fileName?_inDir hp dir
  have hloc := (locateFile?_eq_some h.staging).2
  exact ((locate?_beside (Path.parts_sibling hname isName_tmp) (Path.isAbsolute_sibling hname isName_tmp)
    (Path.isName_hiddenName hp.no_slash isName_tmp)).mp hloc).2.2.1

theorem isEntryName_of_hiddenName {name suffix : String}
    (h : isEntryName (Path.hiddenName name suffix) = true) : isEntryName name = true := by
  obtain ⟨hsize, hnull, -⟩ := isEntryName_hiddenName.mp h
  exact isEntryName_iff.mpr ⟨by omega, hnull⟩

theorem isEntryName_of_readText {s : String} (hp : Path.IsName p.path)
    (h : t.readText (p.inDir dir).path = some s) : isEntryName p.path = true := by
  obtain ⟨l, hl, -⟩ := readText_eq_some.mp h
  have hparts := (Path.fileName?_eq_some (fileName?_inDir hp dir)).1
  exact ((locate?_beside hparts rfl hp).mp (locateFile?_eq_some hl).2).2.2.1

theorem entry?_dropStaged (hk : KeepsDirectories t u)
    (h : ∀ s ∈ staged, s.result = .written → l ≠ t.place s.file.staging) :
    entry? ((dropStaged staged).run u).2 l = u.entry? l := by
  induction staged generalizing u with
  | nil => rfl
  | cons s rest ih =>
    have hrest : ∀ x ∈ rest, x.result = .written → l ≠ t.place x.file.staging := fun x hx =>
      h x (by simp [hx])
    by_cases hw : s.result = .written
    · rcases removeFile_cases u s.file.staging with hr | ⟨m, c, hm, hc, hr⟩
      · simpa [dropStaged, hw, hr] using ih hk hrest
      · have hd := not_directory_of_file hc
        have hne : l ≠ m := by
          rw [locate?_eq_some (locateFile?_eq_some hm).2, hk.place_eq]
          exact h s (by simp) hw
        have hi := ih (hk.trans (.of_without hd)) hrest
        rw [entry?_without (ne_nil_of_not_directory hd), if_neg hne] at hi
        simpa [dropStaged, hw, hr] using hi
    · simpa [dropStaged, hw] using ih hk hrest

/-- What the first loop keeps while it goes towards a name that no entry can have: no place is
touched, and nothing was staged at one. Directories that can be made on the way are made by the
first attempt. -/
structure IsFailing (t u : FileTree) (dir : String) (ps : List OutputFile) (staged : List Staged) :
    Prop where
  keeps : KeepsDirectories t u
  made : u = t ∨ ∀ l ∈ t.lane dir, u.isDirectoryAt l = true
  untouched : Untouched t u dir ps
  staged : ∀ s ∈ staged, s.result = .written →
    ∀ p ∈ ps, ¬ t.place (Path.join dir p.path) <+: t.place s.file.staging

namespace IsFailing

theorem makeDirs (h : IsFailing t u dir ps staged) (hn : ∀ p ∈ ps, Path.IsName p.path)
    (hs : t.Spares dir (ps.map (·.path))) : Untouched t (u.makeDirs dir).1 dir ps := by
  intro p hp l hl
  rw [← h.untouched p hp l hl]
  rcases h.made with rfl | hlane
  · exact hs.entry?_eq hn hp hl
  · rcases (makeDirs_adds u dir).entry l with he | ⟨hnone, -, hw⟩
    · exact he
    · rw [h.keeps.start_eq] at hw
      have := hlane l (List.mem_cons_of_mem _ hw)
      simp [isDirectoryAt, hnone] at this

theorem dropStaged (h : IsFailing t u dir ps staged) (hn : ∀ p ∈ ps, Path.IsName p.path)
    (hs : t.Spares dir (ps.map (·.path))) :
    Untouched t ((CommandGen.dropStaged staged).run (u.makeDirs dir).1).2 dir ps := by
  intro p hp l hl
  rw [← h.makeDirs hn hs p hp l hl]
  refine entry?_dropStaged (h.keeps.trans (makeDirs_adds u dir).keepsDirectories) fun s hm hw he => ?_
  exact h.staged s hm hw p hp (he ▸ hl)

theorem stage (h : IsFailing t u dir ps staged) (hn : ∀ p ∈ ps, Path.IsName p.path)
    (hs : t.Spares dir (ps.map (·.path))) (hq : Path.IsName q.path)
    (hfree : Path.hiddenName q.path "tmp" ∉ ps.map (·.path))
    (hr : (u.makeDirs dir).1.Reaches (q.inDir dir))
    (hd : isDirectoryAt (u.makeDirs dir).1 (t.place (q.inDir dir).staging) = false) {c : Content} :
    IsFailing t ((u.makeDirs dir).1.put (t.place (q.inDir dir).staging) (.file c)) dir ps
      (staged ++ [⟨q.inDir dir, .written⟩]) := by
  have hk := h.keeps.trans (makeDirs_adds u dir).keepsDirectories
  have hkput : KeepsDirectories (u.makeDirs dir).1 _ := .of_put (e := .file c) hd
  have hapart : ∀ p ∈ ps, ¬ t.place (Path.join dir p.path) <+: t.place (q.inDir dir).staging := by
    intro p hp hl
    have hplace : t.place (Path.join dir p.path) = t.place dir ++ [p.path] := place_inDir (hn p hp)
    rw [hplace, place_staging_inDir hq] at hl
    have he := hl.eq_of_length (by simp)
    simp only [List.append_cancel_left_eq, List.cons.injEq, and_true] at he
    have hm : p.path ∈ ps.map (·.path) := List.mem_map_of_mem hp
    rw [he] at hm
    exact hfree hm
  refine ⟨hk.trans hkput, .inr fun l hl => ?_, fun p hp l hl => ?_, fun s hm hw => ?_⟩
  · have hlane : l ∈ (u.makeDirs dir).1.lane dir := by
      simpa [lane, hk.start_eq] using hl
    exact hkput.directory l (hr.lane hq l hlane)
  · have hne : l ≠ t.place (q.inDir dir).staging := by
      intro he
      rw [he] at hl
      exact hapart p hp hl
    rw [entry?_put (ne_nil_of_not_directory hd), if_neg hne]
    exact h.makeDirs hn hs p hp l hl
  · rcases List.mem_append.mp hm with hm | hm
    · exact h.staged s hm hw
    · have he : s = ⟨q.inDir dir, .written⟩ := List.mem_singleton.mp hm
      simp only [he]
      exact hapart

end IsFailing

/-- The first loop fails and touches no place if it goes towards a name that no entry can have, and
the files before it have no hidden location at a place. -/
theorem run_stageFiles_failing (hn : ∀ p ∈ ps, Path.IsName p.path)
    (hs : t.Spares dir (ps.map (·.path))) (hfree : ∀ pre q post,
    ps = pre ++ q :: post → (∀ p ∈ pre, isEntryName p.path = true) →
      isEntryName (Path.hiddenName q.path "tmp") = true →
      Path.hiddenName q.path "tmp" ∉ ps.map (·.path))
    (hps : ps = met ++ todo) (hmet : ∀ p ∈ met, isEntryName p.path = true)
    (hill : ∃ q ∈ todo, isEntryName q.path = false) (h : IsFailing t u dir ps staged) :
    ∃ e v, (stageFiles staged (todo.map (OutputFile.inDir dir))).run u = (.error e, v) ∧
      Untouched t v dir ps := by
  -- `met` are the files gone through, all with names that entries can have
  induction todo generalizing met staged u with
  | nil => simp at hill
  | cons q rest ih =>
    have hq : Path.IsName q.path := hn q (by simp [hps])
    have hparts : Path.parts dir = (Path.parts (q.inDir dir).path).dropLast := by
      simp [parts_inDir hq]
    obtain ⟨-, hrun⟩ := @run_writeStaging u (q.inDir dir) dir _ (q.inDir dir).content
      (fileName?_inDir hq dir) hparts (isAbsolute_inDir hq).symm
    have hnext : isEntryName q.path = true →
        (∀ p ∈ met ++ [q], isEntryName p.path = true) ∧ ∃ p ∈ rest, isEntryName p.path = false := by
      intro hl
      obtain ⟨p, hp, hpi⟩ := hill
      refine ⟨by simpa [or_imp, forall_and, hl] using hmet, p, ?_, hpi⟩
      rcases List.mem_cons.mp hp with rfl | hp
      · simp [hl] at hpi
      · exact hp
    have hps' : ps = (met ++ [q]) ++ rest := by simpa using hps
    simp only [List.map_cons, stageFiles, run_bind, run_readTextAt]
    -- a file that is read has such a name, and so has one whose hidden file is made
    by_cases hread : u.readText (q.inDir dir).path = some (q.inDir dir).content
    · obtain ⟨hmet', hill'⟩ := hnext (isEntryName_of_readText hq hread)
      simp only [hread, if_true]
      refine ih hps' hmet' hill' ⟨h.keeps, h.made, h.untouched, fun s hm hw => ?_⟩
      rcases List.mem_append.mp hm with hm | hm
      · exact h.staged s hm hw
      · rw [List.mem_singleton.mp hm] at hw
        cases hw
    · simp only [hread, if_false, run_bind]
      rcases hrun with hrun | ⟨hr, hd, hrun⟩
      · exact ⟨⟨.staging (q.inDir dir).path, []⟩, _, by simp [hrun], h.dropStaged hn hs⟩
      · rw [h.keeps.place_eq] at hd hrun
        have hentry := hr.isEntryName hq
        obtain ⟨hmet', hill'⟩ := hnext (isEntryName_of_hiddenName hentry)
        simp only [hrun, if_true]
        exact ih hps' hmet' hill' (h.stage hn hs hq (hfree met q rest hps hmet hentry) hr hd)

theorem promised_of_illegal (hn : ∀ p ∈ ps, Path.IsName p.path)
    (hs : t.Spares dir (ps.map (·.path))) (hfree : ∀ pre q post,
    ps = pre ++ q :: post → (∀ p ∈ pre, isEntryName p.path = true) →
      isEntryName (Path.hiddenName q.path "tmp") = true →
      Path.hiddenName q.path "tmp" ∉ ps.map (·.path))
    (hill : ∃ q ∈ ps, isEntryName q.path = false) :
    Promised t ((commit (ps.map (OutputFile.inDir dir))).run t).2 dir ps
      ((commit (ps.map (OutputFile.inDir dir))).run t).1 := by
  have hstart : IsFailing t t dir ps [] := ⟨.refl t, .inl rfl, fun _ _ _ _ => rfl, by simp⟩
  obtain ⟨e, v, hrun, hsame⟩ :=
    run_stageFiles_failing hn hs hfree (List.nil_append ps).symm (by simp) hill hstart
  have hcommit : (commit (ps.map (OutputFile.inDir dir))).run t = (.error e, v) := by
    simp [commit, hrun]
  rw [hcommit]
  exact hsame

end FileTree

end CommandGen
