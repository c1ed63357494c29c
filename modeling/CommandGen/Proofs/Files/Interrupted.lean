import CommandGen.Proofs.Files.Passing
import CommandGen.Proofs.Files.Staging
import Mathlib.Data.List.Nodup

/-! What stands in the tree while a commit is under way, and so what is left if it is cut off. Every
file from before is at its place or beside it, until all places hold the new content. -/
namespace CommandGen.FileTree

open FileProgram

variable {o t u v : FileTree} {f g : OutputFile} {files todo : List OutputFile}
  {l : Location} {c : Content}

def IsInPlace (o u : FileTree) (f : OutputFile) : Prop :=
  ∀ c, o.entry? (o.place f.path) = some (.file c) → u.entry? (o.place f.path) = some (.file c)

/-- If there was a file at the place of an output, it is there or beside it. -/
def IsKept (o u : FileTree) (f : OutputFile) : Prop :=
  ∀ c, o.entry? (o.place f.path) = some (.file c) →
    u.entry? (o.place f.path) = some (.file c) ∨ u.entry? (o.place f.backup) = some (.file c)

/-- No directory has gone, and away from the locations of a commit there are the same files. -/
structure IsFramed (o u : FileTree) (files : List OutputFile) : Prop where
  keeps : KeepsDirectories o u
  others : ∀ l, (∀ f ∈ files, l ∉ o.spots f) → ∀ c, u.entry? l = some (.file c) ↔
    o.entry? l = some (.file c)

/-- No file from before is lost. -/
structure IsSafe (o u : FileTree) (files : List OutputFile) : Prop extends IsFramed o u files where
  kept : ∀ f ∈ files, IsKept o u f

/-- All places hold the new content. -/
structure IsThrough (o u : FileTree) (files : List OutputFile) : Prop
    extends IsFramed o u files where
  new : ∀ f ∈ files, u.entry? (o.place f.path) = f.entry

/-- What a staged file needs to be put in its place; one that needs no change has its content
there. -/
def IsReady (o u : FileTree) (s : Staged) : Prop :=
  IsInPlace o u s.file ∧
    match s.result with
    | .written => u.entry? (o.place s.file.staging) = s.file.entry
    | .unchanged => u.entry? (o.place s.file.path) = s.file.entry

/-- What was at a place that has its new content: the file that was moved aside, or no file. -/
def IsAside (o u : FileTree) (r : Replaced) : Prop :=
  if r.isBackedUp then
    ∀ c, o.entry? (o.place r.file.path) = some (.file c) →
      u.entry? (o.place r.file.backup) = some (.file c)
  else ∀ c, o.entry? (o.place r.file.path) ≠ some (.file c)

theorem IsFramed.step (h : IsFramed o u files) (hf : f ∈ files) (hc : ChangesAt (o.spots f) u v) :
    IsFramed o v files :=
  ⟨h.keeps.trans hc.keeps, fun l hl c => (hc.file_iff l (hl f hf) c).trans (h.others l hl c)⟩

section

variable (ha : Apart (files.flatMap o.spots)) (hf : f ∈ files) (hc : ChangesAt (o.spots f) u v)

include ha hf hc

theorem ChangesAt.entry?_iff (hg : g ∈ files) (hne : g ≠ f) (hl : l ∈ o.spots g) :
    v.entry? l = some (.file c) ↔ u.entry? l = some (.file c) :=
  hc.file_iff l (ha.disjoint hg hf hne hl) c

theorem IsInPlace.step (hg : g ∈ files) (hne : g ≠ f) (h : IsInPlace o u g) : IsInPlace o v g :=
  fun c hold => (hc.entry?_iff ha hf hg hne mem_spots_path).mpr (h c hold)

theorem IsKept.step (hg : g ∈ files) (hne : g ≠ f) (h : IsKept o u g) : IsKept o v g :=
  fun c hold => (h c hold).imp (hc.entry?_iff ha hf hg hne mem_spots_path).mpr
    (hc.entry?_iff ha hf hg hne mem_spots_backup).mpr

theorem IsReady.step {s : Staged} (hg : s.file ∈ files) (hne : s.file ≠ f) (h : IsReady o u s) :
    IsReady o v s := by
  refine ⟨h.1.step ha hf hc hg hne, ?_⟩
  have hnow := h.2
  split at hnow
  · exact (hc.entry?_iff ha hf hg hne mem_spots_staging).mpr hnow
  · exact (hc.entry?_iff ha hf hg hne mem_spots_path).mpr hnow

theorem IsAside.step {r : Replaced} (hg : r.file ∈ files) (hne : r.file ≠ f) (h : IsAside o u r) :
    IsAside o v r := by
  unfold IsAside at h ⊢
  split_ifs at h ⊢
  · exact fun c hold => (hc.entry?_iff ha hf hg hne mem_spots_backup).mpr (h c hold)
  · exact h

theorem IsSafe.step (h : IsSafe o u files) (hkept : IsKept o v f) : IsSafe o v files := by
  refine ⟨h.toIsFramed.step hf hc, fun g hg => ?_⟩
  by_cases hgf : g = f
  · exact hgf ▸ hkept
  · exact (h.kept g hg).step ha hf hc hg hgf

end

/-- Between two steps of the first loop: no place has changed, and the files met are ready. -/
structure IsPreparing (o u : FileTree) (files : List OutputFile) (staged : List Staged)
    (todo : List OutputFile) : Prop extends IsSafe o u files where
  covers : staged.map (·.file) ++ todo = files
  inPlace : ∀ f ∈ files, IsInPlace o u f
  ready : ∀ s ∈ staged, IsReady o u s

theorem IsPreparing.mem (h : IsPreparing o u files staged todo) :
    (∀ s ∈ staged, s.file ∈ files) ∧ ∀ f ∈ todo, f ∈ files := by
  rw [← h.covers]
  exact ⟨fun s hs => List.mem_append_left _ (List.mem_map_of_mem hs),
    fun f hf => List.mem_append_right _ hf⟩

/-- Between two steps of the second loop: the files met have their new content, and what they
replaced is aside. -/
structure IsExchanging (o u : FileTree) (files : List OutputFile) (replaced : List Replaced)
    (todo : List Staged) : Prop extends IsSafe o u files where
  nodup : (todo.map (·.file)).Nodup
  mem : ∀ s ∈ todo, s.file ∈ files
  ready : ∀ s ∈ todo, IsReady o u s
  new : ∀ f ∈ files, f ∉ todo.map (·.file) → u.entry? (o.place f.path) = f.entry
  nodup_replaced : (replaced.map (·.file)).Nodup
  replaced : ∀ r ∈ replaced, (r.file ∈ files ∧ r.file ∉ todo.map (·.file)) ∧ IsAside o u r

theorem IsExchanging.pass {replaced : List Replaced} {todo : List Staged} {s : Staged}
    (h : IsExchanging o u files replaced (s :: todo)) (hs : s.result = .unchanged) :
    IsExchanging o u files replaced todo := by
  have hnodup : (s.file :: todo.map (·.file)).Nodup := by simpa using h.nodup
  have hready := (h.ready s (by simp)).2
  rw [hs] at hready
  refine ⟨h.toIsSafe, (List.nodup_cons.mp hnodup).2, fun x hx => h.mem x (by simp [hx]),
    fun x hx => h.ready x (by simp [hx]), fun g hg hgt => ?_, h.nodup_replaced, fun x hx => ?_⟩
  · by_cases hgs : g = s.file
    · exact hgs ▸ hready
    · exact h.new g hg (by simp [hgs, hgt])
  · obtain ⟨⟨hm, ht⟩, hold⟩ := h.replaced x hx
    exact ⟨⟨hm, fun hn => ht (by simp [hn])⟩, hold⟩

section

variable (ha : Apart (files.flatMap o.spots))

include ha

theorem IsSafe.of_staging (h : IsSafe o u files) (hf : f ∈ files)
    (hc : ChangesAt [o.place f.staging] u v) :
    IsSafe o v files := by
  obtain ⟨hps, -, hsb⟩ := ha.ne hf
  refine h.step ha hf (hc.mono (by simp [mem_spots_staging])) fun c hold =>
    (h.kept f hf c hold).imp ?_ ?_
  · exact (hc.file_iff _ (by simpa using hps) c).mpr
  · exact (hc.file_iff _ (by simpa using hsb.symm) c).mpr

theorem passes_dropStaged {staged : List Staged} (hs : ∀ s ∈ staged, s.file ∈ files)
    (h : IsSafe o u files) :
    (dropStaged staged).Passes (IsSafe o · files) (fun _ v => IsSafe o v files) u := by
  induction staged generalizing u with
  | nil => exact passes_pure h
  | cons s rest ih =>
    obtain ⟨hf, hrest⟩ := List.forall_mem_cons.mp hs
    unfold dropStaged
    split
    · have hnext := h.of_staging ha hf (changesAt_removeFile h.keeps)
      have hremove :
          (remove s.file.staging).Passes (IsSafe o · files) (fun _ v => IsSafe o v files) u :=
        passes_remove hnext hnext
      exact hremove.bind fun _ v hv => ih hrest hv
    · exact ih hrest h

theorem passes_writeStaging (hf : f ∈ files) (h : IsSafe o u files) :
    (writeWithDirs f.staging f.content).Passes (IsSafe o · files)
      (fun made v => IsSafe o v files ∧ ChangesAt [o.place f.staging] u v ∧
        (made = true → v.entry? (o.place f.staging) = f.entry)) u := by
  have hwrite {v : FileTree} (hv : ChangesAt [o.place f.staging] u v) :
      (writeTextAt f.staging f.content).Passes (IsSafe o · files)
        (fun made w => IsSafe o w files ∧ ChangesAt [o.place f.staging] u w ∧
          (made = true → w.entry? (o.place f.staging) = f.entry)) v := by
    obtain ⟨hc, hnew⟩ := @changesAt_writeText o v f.staging f.content (h.keeps.trans hv.keeps)
    have hsafe := h.of_staging ha hf (hv.trans hc)
    exact passes_writeTextAt hsafe ⟨hsafe, hv.trans hc, hnew⟩
  unfold writeWithDirs
  cases Path.parent? f.staging with
  | none => exact hwrite (.refl _ u)
  | some dir =>
    have hmade : ChangesAt [o.place f.staging] u (u.makeDirs dir).1 :=
      (ChangesAt.of_adds (makeDirs_adds u dir)).mono (by simp)
    have hsafe := h.of_staging ha hf hmade
    have hmake : (FileProgram.makeDirsAt dir).Passes (IsSafe o · files)
        (fun _ v => IsSafe o v files ∧ ChangesAt [o.place f.staging] u v) u :=
      passes_makeDirsAt hsafe ⟨hsafe, hmade⟩
    refine hmake.bind fun made v hv => ?_
    split
    · exact hwrite hv.2
    · exact passes_pure ⟨hv.1, hv.2, by simp⟩

theorem IsPreparing.next {s : Staged} (h : IsPreparing o u files staged (s.file :: todo))
    (hsafe : IsSafe o v files) (hc : ChangesAt [o.place s.file.staging] u v) (hs : IsReady o v s) :
    IsPreparing o v files (staged ++ [s]) todo := by
  have hf : s.file ∈ files := h.mem.2 _ (by simp)
  have hspots : ChangesAt (o.spots s.file) u v := hc.mono (by simp [mem_spots_staging])
  have hnew : ∀ x ∈ staged, x.file ≠ s.file := by
    intro x hx he
    have hnodup := ha.nodup_files
    rw [← h.covers, List.nodup_append] at hnodup
    exact hnodup.2.2 x.file (List.mem_map_of_mem hx) s.file (by simp) he
  refine ⟨hsafe, by simpa using h.covers, fun g hg => ?_, fun x hx => ?_⟩
  · by_cases hgs : g = s.file
    · exact hgs ▸ hs.1
    · exact (h.inPlace g hg).step ha hf hspots hg hgs
  · rcases List.mem_append.mp hx with hx | hx
    · exact (h.ready x hx).step ha hf hspots (h.mem.1 x hx) (hnew x hx)
    · rw [List.mem_singleton.mp hx]
      exact hs

theorem passes_stageFiles {staged : List Staged} (h : IsPreparing o u files staged todo) :
    (stageFiles staged todo).Passes (IsSafe o · files)
      (fun r v => ∀ ss, r = .ok ss → IsPreparing o v files ss []) u := by
  induction todo generalizing staged u with
  | nil => exact passes_pure (by rintro ss ⟨⟩; exact h)
  | cons f rest ih =>
    have hf : f ∈ files := h.mem.2 f (by simp)
    unfold stageFiles
    have hread : (readTextAt f.path).Passes (IsSafe o · files)
        (fun text v => v = u ∧ u.readText f.path = text) u :=
      passes_readTextAt h.toIsSafe ⟨rfl, rfl⟩
    refine hread.bind fun text v hv => ?_
    obtain ⟨rfl, htext⟩ := hv
    split
    · rename_i he
      have hready : IsReady o v ⟨f, .unchanged⟩ :=
        ⟨h.inPlace f hf, entry?_of_readText h.keeps (htext.trans he)⟩
      exact ih (h.next ha (s := ⟨f, .unchanged⟩) h.toIsSafe (.refl _ v) hready)
    · refine Passes.bind (passes_writeStaging ha hf h.toIsSafe) fun made w hw => ?_
      obtain ⟨hsafe, hc, hnew⟩ := hw
      split
      · rename_i hmade
        have hplace : IsInPlace o w f := fun c hold =>
          (hc.file_iff _ (by simpa using (ha.ne hf).1) c).mpr (h.inPlace f hf c hold)
        exact ih (h.next ha (s := ⟨f, .written⟩) hsafe hc ⟨hplace, hnew hmade⟩)
      · exact Passes.bind (passes_dropStaged ha h.mem.1 hsafe) fun _ _ _ => passes_pure (by simp)

def IsTried (o u v : FileTree) (files : List OutputFile) (f : OutputFile)
    (r : Except CommitFault Replaced) :
    Prop :=
  IsSafe o v files ∧ ChangesAt (o.spots f) u v ∧
    ∀ p, r = .ok p → p.file = f ∧ IsAside o v p ∧ v.entry? (o.place f.path) = f.entry

theorem IsSafe.moveBack (h : IsSafe o u files) (hf : f ∈ files)
    (haside : ∀ c,
    o.entry? (o.place f.path) = some (.file c) → u.entry? (o.place f.backup) = some (.file c)) :
    IsSafe o (u.moveFile f.backup f.path).1 files ∧
      ChangesAt (o.spots f) u (u.moveFile f.backup f.path).1 := by
  obtain ⟨hc, hsame, hmoved⟩ := @changesAt_moveFile o u f.backup f.path h.keeps
  have hspots : ChangesAt (o.spots f) u (u.moveFile f.backup f.path).1 :=
    hc.mono (by simp [mem_spots_path, mem_spots_backup])
  refine ⟨?_, hspots⟩
  cases hm : (u.moveFile f.backup f.path).2 with
  | false => exact (hsame hm).symm ▸ h
  | true =>
    obtain ⟨d, hd, hd', -⟩ := hmoved hm
    refine h.step ha hf hspots fun c hold => .inl ?_
    rw [hd', ← hd, haside c hold]

/-- The second half of a replacement: what was at the place is aside, or no file could be seen
there. -/
theorem passes_putStaged (hf : f ∈ files) (h : IsSafe o u files) (isBackedUp : Bool)
    (hnew : u.entry? (o.place f.staging) = f.entry)
    (hold : if isBackedUp then IsAside o u ⟨f, true⟩ else u.isFile f.path = false ∧ IsInPlace o u f) :
    (do
      if ← move f.staging f.path then return .ok ⟨f, isBackedUp⟩
      if isBackedUp then let _ ← move f.backup f.path
      return .error (.writing f.path) : FileProgram (Except CommitFault Replaced)).Passes
        (IsSafe o · files) (fun r v => IsTried o u v files f r) u := by
  obtain ⟨-, hpb, hsb⟩ := ha.ne hf
  obtain ⟨hc, hsame, hmoved⟩ := @changesAt_moveFile o u f.staging f.path h.keeps
  have hspots : ChangesAt (o.spots f) u (u.moveFile f.staging f.path).1 :=
    hc.mono (by simp [mem_spots_path, mem_spots_staging])
  -- once the new file is in place, the old one is aside, or none could be seen there
  have haside (hm : (u.moveFile f.staging f.path).2 = true) :
      IsAside o (u.moveFile f.staging f.path).1 ⟨f, isBackedUp⟩ := by
    cases isBackedUp with
    | true => exact fun c hc' => (hc.file_iff _ (by simp [hsb.symm, hpb.symm]) c).mpr (hold c hc')
    | false =>
      obtain ⟨-, -, -, hfree⟩ := hmoved hm
      exact fun c hc' => hfree hold.1 c (hold.2 c hc')
  have hsafe : IsSafe o (u.moveFile f.staging f.path).1 files := by
    cases hm : (u.moveFile f.staging f.path).2 with
    | false => exact (hsame hm).symm ▸ h
    | true =>
      refine h.step ha hf hspots fun c hc' => ?_
      have hkept := haside hm
      cases isBackedUp with
      | true => exact .inr (hkept c hc')
      | false => exact absurd hc' (hkept c)
  have hmove : (move f.staging f.path).Passes (IsSafe o · files) (fun ok v =>
      v = (u.moveFile f.staging f.path).1 ∧ (u.moveFile f.staging f.path).2 = ok) u :=
    passes_move hsafe ⟨rfl, rfl⟩
  refine hmove.bind fun ok v hv => ?_
  obtain ⟨rfl, hok⟩ := hv
  cases ok with
  | true =>
    obtain ⟨d, hd, hd', -⟩ := hmoved hok
    refine passes_pure ⟨hsafe, hspots, ?_⟩
    rintro p ⟨⟩
    exact ⟨rfl, haside hok, by rw [hd', ← hd, hnew]⟩
  | false =>
    -- the move has failed: only a file that was moved aside has to go back
    rw [hsame hok]
    cases isBackedUp with
    | false => exact passes_pure ⟨h, .refl _ u, by simp⟩
    | true =>
      obtain ⟨hback, hc⟩ := h.moveBack ha hf hold
      have hundo : (move f.backup f.path).Passes (IsSafe o · files)
          (fun _ v => v = (u.moveFile f.backup f.path).1) u :=
        passes_move hback rfl
      refine hundo.bind fun _ v hv => ?_
      rw [hv]
      exact passes_pure ⟨hback, hc, by simp⟩

theorem passes_replaceFile (hf : f ∈ files) (h : IsSafe o u files)
    (hr : IsReady o u ⟨f, .written⟩) :
    (replaceFile f).Passes (IsSafe o · files) (fun r v => IsTried o u v files f r) u := by
  obtain ⟨hps, -, hsb⟩ := ha.ne hf
  obtain ⟨hplace, hnew⟩ := hr
  unfold replaceFile
  have hlook : (isFileAt f.path).Passes (IsSafe o · files)
      (fun found v => v = u ∧ u.isFile f.path = found) u :=
    passes_isFileAt h ⟨rfl, rfl⟩
  refine hlook.bind fun found v hv => ?_
  obtain ⟨rfl, hfound⟩ := hv
  cases found with
  | false => exact passes_putStaged ha hf h false hnew ⟨hfound, hplace⟩
  | true =>
    obtain ⟨hc, hsame, hmoved⟩ := @changesAt_moveFile o v f.path f.backup h.keeps
    have hspots : ChangesAt (o.spots f) v (v.moveFile f.path f.backup).1 :=
      hc.mono (by simp [mem_spots_path, mem_spots_backup])
    have haside (hm : (v.moveFile f.path f.backup).2 = true) :
        IsAside o (v.moveFile f.path f.backup).1 ⟨f, true⟩ := by
      obtain ⟨d, hd, hd', -⟩ := hmoved hm
      intro c hold
      rw [hd', ← hd, hplace c hold]
    have hsafe : IsSafe o (v.moveFile f.path f.backup).1 files := by
      cases hm : (v.moveFile f.path f.backup).2 with
      | false => exact (hsame hm).symm ▸ h
      | true => exact h.step ha hf hspots fun c hold => .inr (haside hm c hold)
    have hmove : (move f.path f.backup).Passes (IsSafe o · files) (fun ok w =>
        w = (v.moveFile f.path f.backup).1 ∧ (v.moveFile f.path f.backup).2 = ok) v :=
      passes_move hsafe ⟨rfl, rfl⟩
    refine hmove.bind fun ok w hw => ?_
    obtain ⟨rfl, hok⟩ := hw
    cases ok with
    | false => exact passes_pure ⟨hsafe, hspots, by simp⟩
    | true =>
      have hnew' : entry? (v.moveFile f.path f.backup).1 (o.place f.staging) = f.entry :=
        (hc.file_iff _ (by simp [hps.symm, hsb]) _).mpr hnew
      refine (passes_putStaged ha hf hsafe true hnew' (haside hok)).imp (fun _ h => h) fun r w hw => ?_
      exact ⟨hw.1, hspots.trans hw.2.1, hw.2.2⟩

theorem passes_putBack {replaced : List Replaced} (hd : (replaced.map (·.file)).Nodup)
    (hs : ∀ r ∈ replaced, r.file ∈ files ∧ IsAside o u r) (h : IsSafe o u files) :
    (putBack replaced).Passes (IsSafe o · files) (fun _ v => IsSafe o v files) u := by
  induction replaced generalizing u with
  | nil => exact passes_pure h
  | cons r rest ih =>
    obtain ⟨⟨hf, haside⟩, hrest⟩ := List.forall_mem_cons.mp hs
    obtain ⟨hnew, hd⟩ :=
      List.nodup_cons.mp (by simpa using hd : (r.file :: rest.map (·.file)).Nodup)
    -- no file is twice in the list, so what is done for `r` leaves the others aside
    have hnext {v : FileTree} (hv : IsSafe o v files ∧ ChangesAt (o.spots r.file) u v) :
        (putBack rest).Passes (IsSafe o · files) (fun _ v => IsSafe o v files) v := by
      refine ih hd (fun x hx => ?_) hv.1
      have hne : x.file ≠ r.file := fun he => hnew (he ▸ List.mem_map_of_mem hx)
      exact ⟨(hrest x hx).1, (hrest x hx).2.step ha hf hv.2 (hrest x hx).1 hne⟩
    have hthen {v : FileTree}
        (hv : IsSafe o v files ∧ ChangesAt (o.spots r.file) u v) (restored : Bool) :
        (do
          let more ← putBack rest
          return if restored then more else r.file.path :: more : FileProgram (List String)).Passes
            (IsSafe o · files) (fun _ v => IsSafe o v files) v :=
      (hnext hv).bind fun _ w hw => passes_pure hw
    unfold IsAside at haside
    unfold putBack
    dsimp only
    split_ifs at haside ⊢
    · have hback := h.moveBack ha hf haside
      have hmove : (move r.file.backup r.file.path).Passes (IsSafe o · files)
          (fun _ v => IsSafe o v files ∧ ChangesAt (o.spots r.file) u v) u :=
        passes_move hback.1 hback
      exact hmove.bind fun restored v hv => hthen hv restored
    · have hc : ChangesAt (o.spots r.file) u (u.removeFile r.file.path).1 :=
        (changesAt_removeFile h.keeps).mono (by simp [mem_spots_path])
      have hsafe := h.step ha hf hc fun c hold => absurd hold (haside c)
      have hremove : (remove r.file.path).Passes (IsSafe o · files)
          (fun _ v => IsSafe o v files ∧ ChangesAt (o.spots r.file) u v) u :=
        passes_remove hsafe ⟨hsafe, hc⟩
      exact hremove.bind fun restored v hv => hthen hv restored

theorem IsExchanging.place {replaced : List Replaced} {todo : List Staged}
    {s : Staged} {r : Replaced} (h : IsExchanging o u files replaced (s :: todo))
    (hr : r.file = s.file) (hsafe : IsSafe o v files) (hc : ChangesAt (o.spots s.file) u v)
    (haside : IsAside o v r) (hnew : v.entry? (o.place s.file.path) = s.file.entry) :
    IsExchanging o v files (replaced ++ [r]) todo := by
  have hf : s.file ∈ files := h.mem s (by simp)
  obtain ⟨hfresh, hnodup⟩ :=
    List.nodup_cons.mp (by simpa using h.nodup : (s.file :: todo.map (·.file)).Nodup)
  have hother : ∀ r ∈ replaced, r.file ≠ s.file :=
    fun x hx he => (h.replaced x hx).1.2 (by simp [he])
  refine ⟨hsafe, hnodup, fun x hx => h.mem x (by simp [hx]), fun x hx => ?_,
    fun g hg hgt => ?_, ?_, fun x hx => ?_⟩
  · have hne : x.file ≠ s.file := fun he => hfresh (he ▸ List.mem_map_of_mem hx)
    exact (h.ready x (by simp [hx])).step ha hf hc (h.mem x (by simp [hx])) hne
  · by_cases hgs : g = s.file
    · exact hgs ▸ hnew
    · exact (hc.entry?_iff ha hf hg hgs mem_spots_path).mpr (h.new g hg (by simp [hgs, hgt]))
  · rw [List.map_append, List.nodup_append]
    refine ⟨h.nodup_replaced, by simp, fun a ha' b hb => ?_⟩
    obtain ⟨x, hx, rfl⟩ := List.mem_map.mp ha'
    rw [List.mem_singleton.mp (by simpa using hb : b ∈ [r.file]), hr]
    exact hother x hx
  · rcases List.mem_append.mp hx with hx | hx
    · obtain ⟨⟨hm, ht⟩, hold⟩ := h.replaced x hx
      exact ⟨⟨hm, fun hn => ht (by simp [hn])⟩, hold.step ha hf hc hm (hother x hx)⟩
    · rw [List.mem_singleton.mp hx, hr]
      exact ⟨⟨hf, hfresh⟩, haside⟩

theorem passes_replaceFiles {replaced : List Replaced} {todo : List Staged}
    (h : IsExchanging o u files replaced todo) :
    (replaceFiles replaced todo).Passes (IsSafe o · files)
      (fun r v => ∀ rs, r = .ok rs → IsExchanging o v files rs []) u := by
  induction todo generalizing replaced u with
  | nil => exact passes_pure (by rintro rs ⟨⟩; exact h)
  | cons s rest ih =>
    have hf : s.file ∈ files := h.mem s (by simp)
    unfold replaceFiles
    cases hs : s.result with
    | unchanged => exact ih (h.pass hs)
    | written =>
      have hready : IsReady o u ⟨s.file, .written⟩ := hs ▸ h.ready s (by simp)
      refine (passes_replaceFile ha hf h.toIsSafe hready).bind fun r v hr => ?_
      obtain ⟨hsafe, hc, hok⟩ := hr
      cases r with
      | ok r =>
        obtain ⟨he, haside, hnew⟩ := hok r rfl
        exact ih (h.place ha he hsafe hc haside hnew)
      | error fault =>
        have hrev : (replaced.reverse.map (·.file)).Nodup := by
          rw [List.map_reverse, List.nodup_reverse]
          exact h.nodup_replaced
        have hstill : ∀ r ∈ replaced.reverse, r.file ∈ files ∧ IsAside o v r := by
          intro x hx
          obtain ⟨⟨hm, ht⟩, hold⟩ := h.replaced x (by simpa using hx)
          exact ⟨hm, hold.step ha hf hc hm fun he => ht (by simp [he])⟩
        have hback := passes_putBack ha hrev hstill hsafe
        exact hback.bind fun _ w hw =>
          (passes_dropStaged ha h.mem hw).bind fun _ _ _ => passes_pure (by simp)

theorem passes_dropBackups {replaced : List Replaced} (hs : ∀ r ∈ replaced, r.file ∈ files)
    (h : IsThrough o u files) :
    (dropBackups replaced).Passes (IsThrough o · files) (fun _ _ => True) u := by
  induction replaced generalizing u with
  | nil => exact passes_pure trivial
  | cons r rest ih =>
    obtain ⟨hf, hrest⟩ := List.forall_mem_cons.mp hs
    unfold dropBackups
    split
    · have hc : ChangesAt [o.place r.file.backup] u (u.removeFile r.file.backup).1 :=
        changesAt_removeFile h.keeps
      have hnext : IsThrough o (u.removeFile r.file.backup).1 files := by
        refine ⟨h.toIsFramed.step hf (hc.mono (by simp [mem_spots_backup])), fun g hg => ?_⟩
        refine (hc.file_iff _ ?_ _).mpr (h.new g hg)
        by_cases hgr : g = r.file
        · simpa [hgr] using (ha.ne hf).2.1
        · intro hm
          exact ha.disjoint hg hf hgr mem_spots_path
            (by simpa [List.mem_singleton.mp hm] using mem_spots_backup)
      have hremove :
          (remove r.file.backup).Passes (IsThrough o · files) (fun _ v => IsThrough o v files) u :=
        passes_remove hnext hnext
      exact hremove.bind fun _ v hv => ih hrest hv
    · exact ih hrest h

theorem passes_commit :
    (commit files).Passes (fun u => IsSafe o u files ∨ IsThrough o u files) (fun _ _ => True) o := by
  have hstart : IsPreparing o o files [] files :=
    ⟨⟨⟨.refl o, fun _ _ _ => .rfl⟩, fun _ _ _ h => .inl h⟩, rfl, fun _ _ _ h => h, by simp⟩
  have hstage :=
    (passes_stageFiles ha hstart).imp (fun u h => Or.inl (b := IsThrough o u files) h) fun _ _ h => h
  unfold commit
  refine hstage.bind fun r u hr => ?_
  cases r with
  | error e => exact passes_pure trivial
  | ok staged =>
    have hready := hr staged rfl
    have hcovers : staged.map (·.file) = files := by simpa using hready.covers
    have hexchange : IsExchanging o u files [] staged :=
      ⟨hready.toIsSafe, hcovers ▸ ha.nodup_files, hready.mem.1, hready.ready,
        fun f hf hn => absurd (hcovers ▸ hf) hn, by simp, by simp⟩
    have hreplace :=
      (passes_replaceFiles ha hexchange).imp (fun u h => Or.inl (b := IsThrough o u files) h)
      fun _ _ h => h
    refine hreplace.bind fun q v hq => ?_
    cases q with
    | error e => exact passes_pure trivial
    | ok replaced =>
      have hdone := hq replaced rfl
      have hthrough : IsThrough o v files :=
        ⟨hdone.toIsFramed, fun f hf => hdone.new f hf (by simp)⟩
      have hdrop := (passes_dropBackups ha (fun r hr => (hdone.replaced r hr).1.1) hthrough).imp
        (fun u h => Or.inr (a := IsSafe o u files) h) fun _ _ h => h
      exact hdrop.bind fun _ _ _ => passes_pure trivial

end

/-- At no point of a commit a file from before is lost: it is at its place or at the hidden one
beside it, until all places hold the new content. The files elsewhere are those from before. -/
theorem commit_loses_nothing (ha : Apart (files.flatMap t.spots))
    (hu : u ∈ t :: (commit files).states t) :
    ((∀ f ∈ files, ∀ c, t.entry? (t.place f.path) = some (.file c) →
        u.entry? (t.place f.path) = some (.file c) ∨ u.entry? (t.place f.backup) = some (.file c)) ∨
      ∀ f ∈ files, u.entry? (t.place f.path) = f.entry) ∧
    ∀ l, (∀ f ∈ files, l ∉ t.spots f) → ∀ c, u.entry? l = some (.file c) ↔
      t.entry? l = some (.file c) := by
  rcases List.mem_cons.mp hu with rfl | hu
  · exact ⟨.inl fun _ _ _ h => .inl h, fun _ _ _ => .rfl⟩
  rcases (passes_commit ha).along u hu with h | h
  · exact ⟨.inl h.kept, h.others⟩
  · exact ⟨.inr h.new, h.others⟩

/-- The new file `a` is not in its place yet, so the old one is beside it. -/
theorem commit_loses_nothing_moved_aside :
    let t : FileTree := ⟨[(["a"], .file (.text "old")), (["b"], .directory)], []⟩
    ∃ u ∈ t :: (commit [⟨"a", "new"⟩, ⟨"b", "x"⟩]).states t,
      u.entry? ["a"] = none ∧ u.entry? [".a.bak"] = some (.file (.text "old")) := by
  intro t
  let u : FileTree := ⟨[([".a.bak"], .file (.text "old")), ([".b.tmp"], .file (.text "x")),
    ([".a.tmp"], .file (.text "new")), (["b"], .directory)], []⟩
  have hu : u ∈ t :: (commit [⟨"a", "new"⟩, ⟨"b", "x"⟩]).states t := by decide +kernel
  have hnone : u.entry? ["a"] = none := by decide
  refine ⟨u, hu, hnone, ?_⟩
  rcases (commit_loses_nothing (by decide) hu).1 with hkept | hnew
  · have hplace : t.place "a" = ["a"] ∧
        t.place (OutputFile.backup ⟨"a", "new"⟩) = [".a.bak"] := by decide
    have hold := hkept ⟨"a", "new"⟩ (by simp) (.text "old") (by decide)
    rw [hplace.1, hplace.2] at hold
    exact hold.resolve_left (by simp [hnone])
  · have hb := hnew ⟨"b", "x"⟩ (by simp)
    exact absurd hb (by decide)

end CommandGen.FileTree
