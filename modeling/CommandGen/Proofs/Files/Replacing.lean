import CommandGen.Proofs.Files.Staging

/-! Putting staged files in their places, and undoing that. -/
namespace CommandGen.FileTree

open FileProgram

variable {t u v : FileTree} {f g : OutputFile} {files fs : List OutputFile} {l m : Location}

/-- A property of what was done for a file, which stays while other files are worked on. -/
def Stable {σ : Type} (t : FileTree) (files : List OutputFile) (file : σ → OutputFile)
    (p : FileTree → σ → Prop) : Prop :=
  ∀ {x u v fs}, KeepsDirectories t u → Touches t fs u v → fs ⊆ files →
    file x ∈ files → file x ∉ fs →
    p u x → p v x

theorem stable_isStaged (ha : t.Admits files) : Stable t files (·.file) (IsStaged t) := by
  intro s u v fs hk hT hs hf hn h
  have hh := hT.holding_eq ha hk hs hf hn
  unfold IsStaged at h ⊢
  split at h
  · exact ⟨h.1.keep hT.keeps, by rw [hh]; exact h.2⟩
  · refine ⟨hT.keeps.readText ?_ h.1, by rw [hh]; exact h.2⟩
    rw [hk.place_eq]
    exact congrArg Prod.fst hh

theorem stable_isPlaced (ha : t.Admits files) : Stable t files (·.file) (IsPlaced t) := by
  intro r u v fs hk hT hs hf hn h
  have hh := hT.holding_eq ha hk hs hf hn
  unfold IsPlaced at h ⊢
  rw [hh]
  exact ⟨h.1.keep hT.keeps, h.2⟩

theorem IsSwept.of_holding (h : IsSwept t u f) (hh : t.holding v f = t.holding u f) :
    IsSwept t v f := by
  simp only [holding, Prod.mk.injEq] at hh
  unfold IsSwept at h ⊢
  rw [hh.2.1, hh.2.2]
  exact h

theorem IsUndone.of_holding (h : IsUndone t u f) (hh : t.holding v f = t.holding u f) :
    IsUndone t v f := by
  have hp := congrArg Prod.fst hh
  exact ⟨hp.trans h.1, h.2.of_holding hh⟩

theorem IsDone.of_holding (h : IsDone t u f) (hh : t.holding v f = t.holding u f) :
    IsDone t v f := by
  have hp := congrArg Prod.fst hh
  exact ⟨hp.trans h.1, h.2.of_holding hh⟩

theorem stable_isUndone {σ : Type} {file : σ → OutputFile} (ha : t.Admits files) :
    Stable t files file fun u x => IsUndone t u (file x) := by
  intro x u v fs hk hT hs hf hn h
  exact h.of_holding (hT.holding_eq ha hk hs hf hn)

theorem stable_isDone {σ : Type} {file : σ → OutputFile} (ha : t.Admits files) :
    Stable t files file fun u x => IsDone t u (file x) := by
  intro x u v fs hk hT hs hf hn h
  exact h.of_holding (hT.holding_eq ha hk hs hf hn)

/-- A loop over items of different files does for each of them what it does for one, if what it
needs and what it does are stable. -/
theorem run_each {σ β : Type} {file : σ → OutputFile} {loop : List σ → FileProgram β} {b : β}
    {needs does : FileTree → σ → Prop} (hnil : ∀ u, (loop []).run u = (b, u))
    (hneeds : Stable t files file needs) (hdoes : Stable t files file does)
    (hone : ∀ {x u}, file x ∈ files → KeepsDirectories t u → needs u x →
      ∃ v, (∀ xs, (loop (x :: xs)).run u = (loop xs).run v) ∧ does v x ∧ Touches t [file x] u v)
    {xs : List σ} (hd : (xs.map file).Nodup) (hs : xs.map file ⊆ files) (hk : KeepsDirectories t u)
    (h : ∀ x ∈ xs, needs u x) :
    ∃ v, (loop xs).run u = (b, v) ∧ (∀ x ∈ xs, does v x) ∧ Touches t (xs.map file) u v := by
  induction xs generalizing u with
  | nil => exact ⟨u, hnil u, by simp, .refl t _ u⟩
  | cons x xs ih =>
    simp only [List.map_cons, List.nodup_cons, List.cons_subset] at hd hs ⊢
    obtain ⟨hnew, hd⟩ := hd
    obtain ⟨hf, hs⟩ := hs
    obtain ⟨v, hv, hx, ht⟩ := hone hf hk (h x (by simp))
    have hrest : ∀ y ∈ xs, needs v y := by
      intro y hy
      have hm : file y ∈ xs.map file := List.mem_map_of_mem hy
      refine hneeds hk ht (by simpa using hf) (hs hm) ?_ (h y (by simp [hy]))
      simpa using fun e : file y = file x => hnew (e ▸ hm)
    obtain ⟨w, hw, hxs, ht'⟩ := ih hd hs (hk.trans ht.keeps) hrest
    refine ⟨w, by rw [hv, hw], ?_, (ht.mono (by simp)).trans (ht'.mono (by simp))⟩
    intro y hy
    rcases List.mem_cons.mp hy with rfl | hy
    · exact hdoes (hk.trans ht.keeps) ht' hs hf hnew hx
    · exact hxs y hy

theorem run_replaceFile_fresh (ha : t.Admits files) (hf : f ∈ files) (hk : KeepsDirectories t u)
    (hr : u.Reaches f) (hn : Path.namesDirectory f.path = false)
    (he : t.entry? (t.place f.path) = none)
    (hh : t.holding u f = (t.entry? (t.place f.path), f.entry, t.entry? (t.place f.backup))) :
    ∃ v, (replaceFile f).run u = (.ok ⟨f, false⟩, v) ∧
      IsPlaced t v ⟨f, false⟩ ∧ Touches t [f] u v := by
  obtain ⟨hls, -, hlp, hhome⟩ := hr.located hk
  rw [if_neg (by simp [hn])] at hlp
  obtain ⟨hps, hpb, hsb⟩ := ha.ne hf
  simp only [holding, Prod.mk.injEq] at hh
  obtain ⟨hp, hs, hb⟩ := hh
  have hfile : u.isFile f.path = false := by simp [FileTree.isFile, hlp, hp, he]
  have hfree : u.isDirectoryAt (t.place f.path) = false := not_directory_of_none (hp.trans he)
  have hdir : u.isDirectoryAt (t.place f.path).dropLast = true := by
    rw [ha.dropLast_eq hf mem_spots_path, hhome]
  obtain ⟨v, hv, ht, hev⟩ := moveFile_at hls hlp mem_spots_staging mem_spots_path hs hfree hdir
  refine ⟨v, by simp [replaceFile, hfile, hv], ⟨hr.keep ht.keeps, hn, he, ?_⟩, ht⟩
  simp [holding, hev, hps.symm, hpb.symm, hsb.symm, hb, OutputFile.entry]

/-- A staged file is put where another file was, unless a directory is where that one would go. Once
it is aside, nothing stands in the way of the new one. -/
theorem run_replaceFile_over (ha : t.Admits files) (hf : f ∈ files) (hk : KeepsDirectories t u)
    (hr : u.Reaches f) (hn : Path.namesDirectory f.path = false) {c : Content}
    (he : t.entry? (t.place f.path) = some (.file c))
    (hh : t.holding u f = (t.entry? (t.place f.path), f.entry, t.entry? (t.place f.backup))) :
    (u.isDirectoryAt (t.place f.backup) = true ∧
        (replaceFile f).run u = (.error (.movingAside f.path), u)) ∨
      ∃ v, (replaceFile f).run u = (.ok ⟨f, true⟩, v) ∧
        IsPlaced t v ⟨f, true⟩ ∧ Touches t [f] u v := by
  obtain ⟨hls, hlb, hlp, hhome⟩ := hr.located hk
  rw [if_neg (by simp [hn])] at hlp
  obtain ⟨hps, hpb, hsb⟩ := ha.ne hf
  simp only [holding, Prod.mk.injEq] at hh
  obtain ⟨hp, hs, hb⟩ := hh
  have hfile : u.isFile f.path = true := by simp [FileTree.isFile, hlp, hp, he]
  by_cases hd : u.isDirectoryAt (t.place f.backup) = true
  · have hmove : u.moveFile f.path f.backup = (u, false) := by
      simp [FileTree.moveFile, hlb, hlp, hp, he, hd]
    exact .inl ⟨hd, by simp [replaceFile, hfile, hmove]⟩
  · have hd' : u.isDirectoryAt (t.place f.backup) = false := by simpa using hd
    have hdirb : u.isDirectoryAt (t.place f.backup).dropLast = true := by
      rw [ha.dropLast_eq hf mem_spots_backup, hhome]
    have hdirp : u.isDirectoryAt (t.place f.path).dropLast = true := by
      rw [ha.dropLast_eq hf mem_spots_path, hhome]
    obtain ⟨v, hv, ht, hev⟩ :=
      moveFile_at hlp hlb mem_spots_path mem_spots_backup (hp.trans he) hd' hdirb
    -- the old file is aside in `v`, so the place is free for the staged one
    have hsv : v.entry? (t.place f.staging) = f.entry := by simp [hev, hsb, hps.symm, hs]
    have hpv : v.isDirectoryAt (t.place f.path) = false :=
      not_directory_of_none (by simp [hev, hpb])
    obtain ⟨w, hw, ht', hew⟩ :=
      moveFile_at (ht.keeps.locateFile? hls) (ht.keeps.locateFile? hlp) mem_spots_staging
        mem_spots_path hsv hpv (ht.keeps.directory _ hdirp)
    refine .inr ⟨w, by simp [replaceFile, hfile, hv, hw], ?_, ht.trans ht'⟩
    refine ⟨(hr.keep ht.keeps).keep ht'.keeps, hn, ⟨c, he⟩, ?_⟩
    simp [holding, hew, hev, hps.symm, hpb.symm, hsb.symm, he, OutputFile.entry]

/-- A staged file is not put where a directory is, nor where only a directory can be. -/
theorem run_replaceFile_blocked (hk : KeepsDirectories t u) (hr : u.Reaches f)
    (hn : Path.namesDirectory f.path = true ∨ t.entry? (t.place f.path) = some .directory)
    (hh : t.holding u f = (t.entry? (t.place f.path), f.entry, t.entry? (t.place f.backup))) :
    (replaceFile f).run u = (.error (.writing f.path), u) := by
  obtain ⟨hls, -, hlp, -⟩ := hr.located hk
  simp only [holding, Prod.mk.injEq] at hh
  obtain ⟨hp, hs, -⟩ := hh
  by_cases hd : Path.namesDirectory f.path = true
  · rw [if_pos hd] at hlp
    have hfile : u.isFile f.path = false := by simp [FileTree.isFile, hlp]
    have hmove : u.moveFile f.staging f.path = (u, false) := by simp [FileTree.moveFile, hls, hlp]
    simp [replaceFile, hfile, hmove]
  · rw [if_neg hd] at hlp
    have he := hn.resolve_left hd
    have hfile : u.isFile f.path = false := by simp [FileTree.isFile, hlp, hp, he]
    have hmove : u.moveFile f.staging f.path = (u, false) := by
      simp [FileTree.moveFile, hls, hlp, hs, OutputFile.entry, isDirectoryAt, hp, he]
    simp [replaceFile, hfile, hmove]

theorem run_replaceFile (ha : t.Admits files) (hf : f ∈ files) (hk : KeepsDirectories t u)
    (hr : u.Reaches f)
    (hh : t.holding u f = (t.entry? (t.place f.path), f.entry, t.entry? (t.place f.backup))) :
    (∃ fault, (replaceFile f).run u = (.error fault, u)) ∨
      ∃ r v, (replaceFile f).run u = (.ok r, v) ∧ r.file = f ∧
        IsPlaced t v r ∧ Touches t [f] u v := by
  by_cases hn : Path.namesDirectory f.path = true
  · exact .inl ⟨_, run_replaceFile_blocked hk hr (.inl hn) hh⟩
  have hn' : Path.namesDirectory f.path = false := by simpa using hn
  cases he : t.entry? (t.place f.path) with
  | none =>
    obtain ⟨v, hv, hp, ht⟩ := run_replaceFile_fresh ha hf hk hr hn' he hh
    exact .inr ⟨_, v, hv, rfl, hp, ht⟩
  | some e =>
    cases e with
    | directory => exact .inl ⟨_, run_replaceFile_blocked hk hr (.inr he) hh⟩
    | file c =>
      rcases run_replaceFile_over ha hf hk hr hn' he hh with ⟨-, h⟩ | ⟨v, hv, hp, ht⟩
      · exact .inl ⟨_, h⟩
      · exact .inr ⟨_, v, hv, rfl, hp, ht⟩

theorem putBack_one (ha : t.Admits files) {r : Replaced} {u : FileTree} (hf : r.file ∈ files)
    (hk : KeepsDirectories t u) (h : IsPlaced t u r) :
    ∃ v, (∀ rs, (putBack (r :: rs)).run u = (putBack rs).run v) ∧
      IsUndone t v r.file ∧ Touches t [r.file] u v := by
  obtain ⟨hr, hn, hi⟩ := h
  obtain ⟨-, hlb, hlp, hhome⟩ := hr.located hk
  rw [if_neg (by simp [hn])] at hlp
  obtain ⟨hps, hpb, hsb⟩ := ha.ne hf
  by_cases hb : r.isBackedUp = true
  · rw [if_pos hb] at hi
    obtain ⟨⟨c, hc⟩, hh⟩ := hi
    simp only [holding, Prod.mk.injEq] at hh
    obtain ⟨hp, hs, hbk⟩ := hh
    have hdir : u.isDirectoryAt (t.place r.file.path).dropLast = true := by
      rw [ha.dropLast_eq hf mem_spots_path, hhome]
    obtain ⟨v, hv, ht, hev⟩ := moveFile_at hlb hlp mem_spots_backup mem_spots_path (hbk.trans hc)
      (not_directory_of_file hp) hdir
    refine ⟨v, fun rs => by simp [putBack, hb, hv], ⟨by simp [hev, hc], .inr ?_, .inr ?_⟩, ht⟩
    · simp [hev, hps.symm, hsb, hs]
    · simp [hev, hpb.symm]
  · rw [if_neg hb] at hi
    obtain ⟨hc, hh⟩ := hi
    simp only [holding, Prod.mk.injEq] at hh
    obtain ⟨hp, hs, hbk⟩ := hh
    obtain ⟨v, hv, ht, hev⟩ := removeFile_at hlp mem_spots_path hp
    refine ⟨v, fun rs => by simp [putBack, hb, hv], ⟨by simp [hev, hc], .inr ?_, .inl ?_⟩, ht⟩
    · simp [hev, hps.symm, hs]
    · simp [hev, hpb.symm, hbk]

theorem dropStaged_one (ha : t.Admits files) {s : Staged} {u : FileTree} (hf : s.file ∈ files)
    (hk : KeepsDirectories t u) (h : IsStaged t u s) :
    ∃ v, (∀ ss, (dropStaged (s :: ss)).run u = (dropStaged ss).run v) ∧
      IsUndone t v s.file ∧ Touches t [s.file] u v := by
  unfold IsStaged at h
  split at h
  · rename_i hw
    obtain ⟨hr, hh⟩ := h
    obtain ⟨v, hv, ht, hh'⟩ := removeFile_staging ha hf hk hr hh
    simp only [holding, Prod.mk.injEq] at hh'
    exact ⟨v, fun ss => by simp [dropStaged, hw, hv], ⟨hh'.1, .inr hh'.2.1, .inl hh'.2.2⟩, ht⟩
  · rename_i hw
    obtain ⟨-, hh⟩ := h
    simp only [holding, Prod.mk.injEq] at hh
    exact ⟨u, fun ss => by simp [dropStaged, hw], ⟨hh.1, .inl hh.2.1, .inl hh.2.2⟩, .refl t _ u⟩

theorem dropBackups_one (ha : t.Admits files) {r : Replaced} {u : FileTree} (hf : r.file ∈ files)
    (hk : KeepsDirectories t u) (h : IsPlaced t u r) :
    ∃ v, (∀ rs, (dropBackups (r :: rs)).run u = (dropBackups rs).run v) ∧
      IsDone t v r.file ∧ Touches t [r.file] u v := by
  obtain ⟨hr, -, hi⟩ := h
  by_cases hb : r.isBackedUp = true
  · rw [if_pos hb] at hi
    obtain ⟨⟨c, hc⟩, hh⟩ := hi
    rw [hc] at hh
    obtain ⟨v, hv, ht, hh'⟩ := removeFile_backup ha hf hk hr hh
    simp only [holding, Prod.mk.injEq] at hh'
    exact ⟨v, fun rs => by simp [dropBackups, hb, hv], ⟨hh'.1, .inr hh'.2.1, .inr hh'.2.2⟩, ht⟩
  · rw [if_neg hb] at hi
    obtain ⟨-, hh⟩ := hi
    simp only [holding, Prod.mk.injEq] at hh
    exact ⟨u, fun rs => by simp [dropBackups, hb], ⟨hh.1, .inr hh.2.1, .inl hh.2.2⟩, .refl t _ u⟩

theorem run_putBack (ha : t.Admits files) {rs : List Replaced} (hd : (rs.map (·.file)).Nodup)
    (hs : rs.map (·.file) ⊆ files) (hk : KeepsDirectories t u) (h : ∀ r ∈ rs, IsPlaced t u r) :
    ∃ v, (putBack rs).run u = ([], v) ∧ (∀ r ∈ rs, IsUndone t v r.file) ∧
      Touches t (rs.map (·.file)) u v :=
  run_each (fun _ => rfl) (stable_isPlaced ha) (stable_isUndone ha) (putBack_one ha) hd hs hk h

theorem run_dropStaged (ha : t.Admits files) {ss : List Staged} (hd : (ss.map (·.file)).Nodup)
    (hs : ss.map (·.file) ⊆ files) (hk : KeepsDirectories t u) (h : ∀ s ∈ ss, IsStaged t u s) :
    ∃ v, (dropStaged ss).run u = ((), v) ∧ (∀ s ∈ ss, IsUndone t v s.file) ∧
      Touches t (ss.map (·.file)) u v :=
  run_each (fun _ => rfl) (stable_isStaged ha) (stable_isUndone ha) (dropStaged_one ha) hd hs hk h

theorem run_dropBackups (ha : t.Admits files) {rs : List Replaced} (hd : (rs.map (·.file)).Nodup)
    (hs : rs.map (·.file) ⊆ files) (hk : KeepsDirectories t u) (h : ∀ r ∈ rs, IsPlaced t u r) :
    ∃ v, (dropBackups rs).run u = ((), v) ∧ (∀ r ∈ rs, IsDone t v r.file) ∧
      Touches t (rs.map (·.file)) u v :=
  run_each (fun _ => rfl) (stable_isPlaced ha) (stable_isDone ha) (dropBackups_one ha) hd hs hk h

end CommandGen.FileTree
