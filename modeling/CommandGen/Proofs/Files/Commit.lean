import CommandGen.Proofs.Files.Replacing
import Mathlib.Data.List.Forall2
import Mathlib.Data.List.Nodup

/-! What a whole commit leaves, whether it succeeds or fails. -/
namespace CommandGen.FileTree

open FileProgram

variable {o t u v : FileTree} {f g : OutputFile}
  {files todo : List OutputFile} {staged : List Staged} {l m : Location}

theorem holding_of_adds (ha : t.Admits files) (hk : KeepsDirectories t u)
    (hf : f ∈ files) (hg : g ∈ files) (h : AddsDirectories u v (· ∈ t.way f)) :
    t.holding v g = t.holding u g := by
  have he : ∀ m ∈ t.spots g, v.entry? m = u.entry? m := by
    intro m hm
    rcases h.entry m with he | ⟨hn, -, hw⟩
    · exact he
    · exact absurd hm (Touches.made_not_mem_spots ha hk hf hg hw hn)
  simp only [holding]
  rw [he _ mem_spots_path, he _ mem_spots_staging, he _ mem_spots_backup]

theorem touches_of_adds (h : AddsDirectories u v (· ∈ t.way f)) : Touches t [f] u v := by
  refine ⟨h.keepsDirectories, fun m _ => ?_⟩
  rcases h.entry m with he | ⟨hn, hd, hw⟩
  · exact .inl he
  · exact .inr ⟨hn, hd, f, by simp, hw⟩

theorem isStaged_put (ha : t.Admits files) (hf : f ∈ files) (hh : t.holding u f = t.holding t f)
    (hr : u.Reaches f) (hd : u.isDirectoryAt (t.place f.staging) = false) :
    Touches t [f] u (u.put (t.place f.staging) (.file (.text f.content))) ∧
      IsStaged t (u.put (t.place f.staging) (.file (.text f.content))) ⟨f, .written⟩ := by
  have hput : Touches t [f] u (u.put (t.place f.staging) (.file (.text f.content))) :=
    touches_put mem_spots_staging hd
  obtain ⟨hps, -, hsb⟩ := ha.ne hf
  have hne := ne_nil_of_not_directory hd
  refine ⟨hput, hr.keep hput.keeps, ?_⟩
  simp only [holding, Prod.mk.injEq] at hh ⊢
  refine ⟨?_, ?_, ?_⟩
  · rw [entry?_put hne, if_neg hps, hh.1]
  · rw [entry?_put hne, if_pos rfl, OutputFile.entry]
  · rw [entry?_put hne, if_neg hsb.symm, hh.2.2]

theorem run_stageFile (ha : t.Admits files) (hf : f ∈ files) (hk : KeepsDirectories t u)
    (hh : t.holding u f = t.holding t f) :
    (∃ v, (writeWithDirs f.staging f.content).run u = (false, v) ∧ Touches t [f] u v ∧
        ∀ g ∈ files, t.holding v g = t.holding u g) ∨
      ∃ v, (writeWithDirs f.staging f.content).run u = (true, v) ∧ Touches t [f] u v ∧
        IsStaged t v ⟨f, .written⟩ := by
  obtain ⟨name, hn⟩ := ha.fileName hf
  have hway : u.way f = t.way f := by simp [way, hk.start_eq]
  obtain ⟨dir, -, hparts, habs⟩ := parent?_staging hn
  obtain ⟨hadds, hrun⟩ := @run_writeStaging u f dir name f.content hn hparts habs
  rw [hway] at hadds
  have hT := touches_of_adds hadds
  have hall : ∀ g ∈ files, t.holding (u.makeDirs dir).1 g = t.holding u g := fun g hg =>
    holding_of_adds ha hk hf hg hadds
  rcases hrun with hrun | ⟨hreach, hnd, hrun⟩
  · exact .inl ⟨_, hrun, hT, hall⟩
  · rw [hk.place_eq] at hnd hrun
    obtain ⟨hput, hone⟩ := isStaged_put ha hf ((hall f hf).trans hh) hreach hnd
    exact .inr ⟨_, hrun, hT.trans hput, hone⟩

theorem isUndone_of_holding (h : t.holding u f = t.holding t f) : IsUndone t u f := by
  simp only [holding, Prod.mk.injEq] at h
  exact ⟨h.1, .inl h.2.1, .inl h.2.2⟩

/-- All that a commit left behind is undone, and nothing was made but directories on the way. -/
def IsRolledBack (t u : FileTree) (files : List OutputFile) : Prop :=
  (∀ f ∈ files, IsUndone t u f) ∧ Touches t files t u

/-- Between two steps of the first loop: some files are staged, and the others hold what they held.
Those that were written could not be read with their content in the tree where the commit
started. -/
structure IsStaging (o t u : FileTree) (files : List OutputFile) (staged : List Staged)
    (todo : List OutputFile) : Prop where
  reads : ∀ f ∈ files, o.readText f.path = some f.content → t.readText f.path = some f.content
  covers : staged.map (·.file) ++ todo = files
  touches : Touches t files t u
  stale : ∀ s ∈ staged, s.result = .written → o.readText s.file.path ≠ some s.file.content
  staged : ∀ s ∈ staged, IsStaged t u s
  todo : ∀ f ∈ todo, t.holding u f = t.holding t f

namespace IsStaging

theorem staged_subset (h : IsStaging o t u files staged todo) : staged.map (·.file) ⊆ files := by
  simp [← h.covers]

theorem todo_subset (h : IsStaging o t u files staged todo) : todo ⊆ files := by
  simp [← h.covers]

theorem nodup (h : IsStaging o t u files staged todo) (ha : t.Admits files) :
    (staged.map (·.file)).Nodup ∧ todo.Nodup ∧ ∀ f ∈ todo, f ∉ staged.map (·.file) := by
  have hn := ha.nodup
  rw [← h.covers, List.nodup_append] at hn
  exact ⟨hn.1, hn.2.1, fun f hf hm => hn.2.2 f hm f hf rfl⟩

theorem staged_of_touches (h : IsStaging o t u files staged (f :: todo)) (ha : t.Admits files)
    (hT : Touches t [f] u v) : ∀ s ∈ staged, IsStaged t v s := by
  intro s hs
  have hsub : [f] ⊆ files := fun g hg => h.todo_subset (by simp_all)
  have hm : s.file ∈ staged.map (·.file) := List.mem_map_of_mem hs
  have hne : s.file ∉ [f] := by
    intro he
    exact (h.nodup ha).2.2 f (by simp) (by simpa [List.mem_singleton.mp he] using hm)
  exact stable_isStaged ha h.touches.keeps hT hsub (h.staged_subset hm) hne (h.staged s hs)

theorem next {r : WriteResult} (h : IsStaging o t u files staged (f :: todo)) (ha : t.Admits files)
    (hT : Touches t [f] u v) (hf : IsStaged t v ⟨f, r⟩)
    (hr : r = .written → o.readText f.path ≠ some f.content) :
    IsStaging o t v files (staged ++ [⟨f, r⟩]) todo := by
  have hsub : [f] ⊆ files := fun g hg => h.todo_subset (by simp_all)
  refine ⟨h.reads, by simpa using h.covers, h.touches.trans (hT.mono hsub), ?_, ?_, fun g hg => ?_⟩
  · intro s hs hw
    rcases List.mem_append.mp hs with hs | hs
    · exact h.stale s hs hw
    · rw [List.mem_singleton.mp hs] at hw ⊢
      exact hr hw
  · intro s hs
    rcases List.mem_append.mp hs with hs | hs
    · exact h.staged_of_touches ha hT s hs
    · rw [List.mem_singleton.mp hs]
      exact hf
  · have hne : g ∉ [f] := by
      intro he
      exact (List.nodup_cons.mp (h.nodup ha).2.1).1 (by simpa [List.mem_singleton.mp he] using hg)
    rw [hT.holding_eq ha h.touches.keeps hsub (h.todo_subset (by simp [hg])) hne]
    exact h.todo g (by simp [hg])

theorem readText_next (h : IsStaging o t u files staged (f :: todo))
    (hr : u.readText f.path ≠ some f.content) : o.readText f.path ≠ some f.content := by
  intro he
  have hh := h.todo f (by simp)
  exact hr (h.touches.keeps.readText (congrArg Prod.fst hh) (h.reads f (h.todo_subset (by simp)) he))

theorem rollBack (h : IsStaging o t u files staged todo) (ha : t.Admits files) :
    ∃ v, (dropStaged staged).run u = ((), v) ∧ IsRolledBack t v files := by
  obtain ⟨hn, -, hnew⟩ := h.nodup ha
  obtain ⟨v, hv, hun, hT⟩ := run_dropStaged ha hn h.staged_subset h.touches.keeps h.staged
  refine ⟨v, hv, fun g hg => ?_, h.touches.trans (hT.mono h.staged_subset)⟩
  rw [← h.covers] at hg
  rcases List.mem_append.mp hg with hg | hg
  · obtain ⟨s, hs, rfl⟩ := List.mem_map.mp hg
    exact hun s hs
  · have hg' := hT.holding_eq ha h.touches.keeps h.staged_subset (h.todo_subset hg) (hnew g hg)
    exact isUndone_of_holding (hg'.trans (h.todo g hg))

end IsStaging

theorem run_stageFiles (ha : t.Admits files) (h : IsStaging o t u files staged todo) :
    (∃ ss v, (stageFiles staged todo).run u = (.ok ss, v) ∧ IsStaging o t v files ss []) ∨
      ∃ fault v, (stageFiles staged todo).run u = (.error ⟨fault, []⟩, v) ∧
        IsRolledBack t v files := by
  induction todo generalizing staged u with
  | nil => exact .inl ⟨staged, u, rfl, h⟩
  | cons f rest ih =>
    have hf : f ∈ files := h.todo_subset (by simp)
    have hh := h.todo f (by simp)
    by_cases hr : u.readText f.path = some f.content
    · simp only [stageFiles, run_bind, run_readTextAt, hr, if_true]
      exact ih (h.next ha (.refl t _ u) ⟨hr, hh⟩ (by simp))
    · simp only [stageFiles, run_bind, run_readTextAt, hr, if_false]
      rcases run_stageFile ha hf h.touches.keeps hh with ⟨v, hrun, hT, hall⟩ | ⟨v, hrun, hT, hone⟩
      · have hv : IsStaging o t v files staged (f :: rest) := by
          refine ⟨h.reads, h.covers, h.touches.trans (hT.mono (by simpa using hf)),
            h.stale, h.staged_of_touches ha hT, ?_⟩
          intro g hg
          rw [hall g (h.todo_subset hg)]
          exact h.todo g hg
        obtain ⟨w, hw, hback⟩ := hv.rollBack ha
        exact .inr ⟨.staging f.path, w, by simp [hrun, hw], hback⟩
      · simp only [hrun, if_true]
        exact ih (h.next ha hT hone fun _ => h.readText_next hr)

/-- Between two steps of the second loop: the staged files that were met are in their places, and
the others are still staged. -/
structure IsReplacing (t u : FileTree) (files : List OutputFile) (replaced : List Replaced)
    (met todo : List Staged) : Prop where
  covers : met.map (·.file) ++ todo.map (·.file) = files
  touches : Touches t files t u
  todo : ∀ s ∈ todo, IsStaged t u s
  unchanged : ∀ s ∈ met, s.result = .unchanged → IsStaged t u s
  written : replaced.map (·.file) = (met.filter (·.result = .written)).map (·.file)
  replaced : ∀ r ∈ replaced, IsPlaced t u r

namespace IsReplacing

variable {replaced : List Replaced} {met todo : List Staged} {s : Staged}

theorem todo_subset (h : IsReplacing t u files replaced met todo) : todo.map (·.file) ⊆ files := by
  simp [← h.covers]

theorem replaced_sublist (h : IsReplacing t u files replaced met todo) :
    (replaced.map (·.file)).Sublist (met.map (·.file)) := by
  rw [h.written]
  exact (List.filter_sublist).map _

theorem nodup (h : IsReplacing t u files replaced met todo) (ha : t.Admits files) :
    (met.map (·.file)).Nodup ∧ (todo.map (·.file)).Nodup ∧
      ∀ f ∈ todo.map (·.file), f ∉ met.map (·.file) := by
  have hn := ha.nodup
  rw [← h.covers, List.nodup_append] at hn
  exact ⟨hn.1, hn.2.1, fun f hf hm => hn.2.2 f hm f hf rfl⟩

theorem replaced_subset (h : IsReplacing t u files replaced met todo) :
    replaced.map (·.file) ⊆ files := by
  refine fun f hf => ?_
  rw [← h.covers]
  exact List.mem_append_left _ (h.replaced_sublist.subset hf)

theorem pass (h : IsReplacing t u files replaced met (s :: todo)) (hs : s.result = .unchanged) :
    IsReplacing t u files replaced (met ++ [s]) todo := by
  refine ⟨by simpa using h.covers, h.touches, fun x hx => h.todo x (by simp [hx]), ?_, ?_, h.replaced⟩
  · intro x hx hr
    rcases List.mem_append.mp hx with hx | hx
    · exact h.unchanged x hx hr
    · rw [List.mem_singleton.mp hx]
      exact h.todo s (by simp)
  · simp [h.written, hs]

theorem place {r : Replaced}
    (h : IsReplacing t u files replaced met (s :: todo)) (ha : t.Admits files)
    (hs : s.result = .written) (hr : r.file = s.file) (hp : IsPlaced t v r)
    (hT : Touches t [s.file] u v) : IsReplacing t v files (replaced ++ [r]) (met ++ [s]) todo := by
  have hf : s.file ∈ files := h.todo_subset (by simp)
  have hsub : [s.file] ⊆ files := by simpa using hf
  obtain ⟨-, hn, hnew⟩ := h.nodup ha
  simp only [List.map_cons, List.nodup_cons, List.forall_mem_cons] at hn hnew
  have hmet : ∀ x ∈ met, x.file ∈ files ∧ x.file ∉ [s.file] := by
    intro x hx
    have hm : x.file ∈ met.map (·.file) := List.mem_map_of_mem hx
    refine ⟨by rw [← h.covers]; exact List.mem_append_left _ hm, ?_⟩
    simpa using fun e : x.file = s.file => hnew.1 (e ▸ hm)
  refine ⟨by simpa using h.covers, h.touches.trans (hT.mono hsub), ?_, ?_, ?_, ?_⟩
  · intro x hx
    have hm : x.file ∈ todo.map (·.file) := List.mem_map_of_mem hx
    refine stable_isStaged ha h.touches.keeps hT hsub (h.todo_subset (by simp [hm])) ?_
      (h.todo x (by simp [hx]))
    simpa using fun e : x.file = s.file => hn.1 (e ▸ hm)
  · intro x hx hu
    rcases List.mem_append.mp hx with hx | hx
    · exact stable_isStaged ha h.touches.keeps hT hsub (hmet x hx).1 (hmet x hx).2 (h.unchanged x hx hu)
    · rw [List.mem_singleton.mp hx, hs] at hu
      cases hu
  · simp [h.written, hs, hr]
  · intro x hx
    rcases List.mem_append.mp hx with hx | hx
    · have hm : x.file ∈ met.map (·.file) := h.replaced_sublist.subset (List.mem_map_of_mem hx)
      obtain ⟨y, hy, he⟩ := List.mem_map.mp hm
      have hxy := hmet y hy
      rw [he] at hxy
      exact stable_isPlaced ha h.touches.keeps hT hsub hxy.1 hxy.2 (h.replaced x hx)
    · rw [List.mem_singleton.mp hx]
      exact hp

theorem rollBack (h : IsReplacing t u files replaced met todo) (ha : t.Admits files) :
    ∃ v w, (putBack replaced.reverse).run u = ([], v) ∧ (dropStaged todo).run v = ((), w) ∧
      IsRolledBack t w files := by
  obtain ⟨hmet, hn, hnew⟩ := h.nodup ha
  have hrev : (replaced.reverse.map (·.file)).Nodup := by
    rw [List.map_reverse, List.nodup_reverse]
    exact h.replaced_sublist.nodup hmet
  have hsub : replaced.reverse.map (·.file) ⊆ files := by
    simpa using h.replaced_subset
  obtain ⟨v, hv, hput, hT⟩ :=
    run_putBack ha hrev hsub h.touches.keeps (fun r hr => h.replaced r (by simpa using hr))
  have hapart : ∀ f ∈ todo.map (·.file), f ∉ replaced.reverse.map (·.file) := by
    intro f hf hm
    exact hnew f hf (h.replaced_sublist.subset (by simpa using hm))
  have hkv := h.touches.keeps.trans hT.keeps
  have hstaged : ∀ s ∈ todo, IsStaged t v s := by
    intro s hs
    have hm : s.file ∈ todo.map (·.file) := List.mem_map_of_mem hs
    exact stable_isStaged ha h.touches.keeps hT hsub (h.todo_subset hm) (hapart _ hm) (h.todo s hs)
  obtain ⟨w, hw, hdrop, hT'⟩ := run_dropStaged ha hn h.todo_subset hkv hstaged
  refine ⟨v, w, hv, hw, fun g hg => ?_, (h.touches.trans (hT.mono hsub)).trans (hT'.mono h.todo_subset)⟩
  have hg' := hg
  rw [← h.covers] at hg'
  rcases List.mem_append.mp hg' with hm | hm
  · have hgtodo : g ∉ todo.map (·.file) := fun hd => hnew g hd hm
    by_cases hrep : g ∈ replaced.reverse.map (·.file)
    · obtain ⟨r, hr, rfl⟩ := List.mem_map.mp hrep
      exact (hput r hr).of_holding (hT'.holding_eq ha hkv h.todo_subset hg hgtodo)
    · -- what was met and not replaced needed no change
      obtain ⟨s, hs, rfl⟩ := List.mem_map.mp hm
      have hunch : s.result = .unchanged := by
        cases hres : s.result with
        | unchanged => rfl
        | written =>
          refine absurd ?_ hrep
          rw [List.map_reverse, List.mem_reverse, h.written]
          exact List.mem_map_of_mem (by simp [hs, hres])
      have hstay := h.unchanged s hs hunch
      simp only [IsStaged, hunch] at hstay
      have hv' := hT.holding_eq ha h.touches.keeps hsub hg hrep
      have hw' := hT'.holding_eq ha hkv h.todo_subset hg hgtodo
      exact isUndone_of_holding (hw'.trans (hv'.trans hstay.2))
  · obtain ⟨s, hs, rfl⟩ := List.mem_map.mp hm
    exact hdrop s hs

theorem finish (h : IsReplacing t u files replaced met []) (ha : t.Admits files) :
    ∃ v, (dropBackups replaced).run u = ((), v) ∧
      (∀ f ∈ files, IsDone t v f) ∧ Touches t files t v ∧
      ∀ s ∈ met, s.result = .unchanged → IsStaged t v s := by
  obtain ⟨hmet, -, -⟩ := h.nodup ha
  have hk := h.touches.keeps
  have hcovers : met.map (·.file) = files := by simpa using h.covers
  obtain ⟨v, hv, hdone, hT⟩ :=
    run_dropBackups ha (h.replaced_sublist.nodup hmet) h.replaced_subset hk
    h.replaced
  have hstay : ∀ s ∈ met, s.result = .unchanged → IsStaged t v s := by
    intro s hs hu
    have hf : s.file ∈ files := hcovers ▸ List.mem_map_of_mem hs
    refine stable_isStaged ha hk hT h.replaced_subset hf ?_ (h.unchanged s hs hu)
    intro hm
    rw [h.written] at hm
    obtain ⟨x, hx, he⟩ := List.mem_map.mp hm
    obtain ⟨hx, hw⟩ := List.mem_filter.mp hx
    -- a file is met once, so it cannot be written and unchanged
    have hxs : x = s := List.inj_on_of_nodup_map hmet hx hs he
    simp [hxs, hu] at hw
  refine ⟨v, hv, fun f hf => ?_, h.touches.trans (hT.mono h.replaced_subset), hstay⟩
  rw [← hcovers] at hf
  obtain ⟨s, hs, rfl⟩ := List.mem_map.mp hf
  cases hu : s.result with
  | written =>
    have hm : s.file ∈ replaced.map (·.file) := by
      rw [h.written]
      exact List.mem_map_of_mem (by simp [hs, hu])
    obtain ⟨r, hr, he⟩ := List.mem_map.mp hm
    rw [← he]
    exact hdone r hr
  | unchanged =>
    have hsame := hstay s hs hu
    simp only [IsStaged, hu] at hsame
    obtain ⟨l, hl, hc⟩ := readText_eq_some.mp hsame.1
    have hp : l = t.place s.file.path := by
      rw [← (h.touches.trans (hT.mono h.replaced_subset)).keeps.place_eq]
      exact locate?_eq_some (locateFile?_eq_some hl).2
    exact ⟨by rw [← hp, hc, OutputFile.entry], (isUndone_of_holding hsame.2).2⟩

end IsReplacing

theorem run_replaceFiles (ha : t.Admits files) {replaced : List Replaced} {met todo : List Staged}
    (h : IsReplacing t u files replaced met todo) :
    (∃ rs v, (replaceFiles replaced todo).run u = (.ok rs, v) ∧
        IsReplacing t v files rs (met ++ todo) []) ∨
      ∃ fault v, (replaceFiles replaced todo).run u = (.error ⟨fault, []⟩, v) ∧
        IsRolledBack t v files := by
  induction todo generalizing replaced met u with
  | nil => exact .inl ⟨replaced, u, rfl, by simpa using h⟩
  | cons s rest ih =>
    cases hs : s.result with
    | unchanged =>
      have hi := ih (h.pass hs)
      simpa [replaceFiles, hs] using hi
    | written =>
      have hf : s.file ∈ files := h.todo_subset (by simp)
      have hone := h.todo s (by simp)
      simp only [IsStaged, hs] at hone
      obtain ⟨hreach, hh⟩ := hone
      rcases run_replaceFile ha hf h.touches.keeps hreach hh
        with ⟨fault, hrun⟩ | ⟨r, v, hrun, hr, hp, hT⟩
      · obtain ⟨v, w, hv, hw, hback⟩ := h.rollBack ha
        exact .inr ⟨fault, w, by simp [replaceFiles, hs, hrun, hv, hw], hback⟩
      · have hi := ih (h.place ha hs hr hp hT)
        simpa [replaceFiles, hs, hrun] using hi

/-- What a commit that succeeds leaves: every place holds the new content, and the files are
reported in order, those as unchanged that held it before. -/
structure IsCommitted (o t u : FileTree) (files : List OutputFile) (ss : List Staged) : Prop where
  covers : ss.map (·.file) = files
  done : ∀ f ∈ files, IsDone t u f
  touches : Touches t files t u
  stale : ∀ s ∈ ss, s.result = .written → o.readText s.file.path ≠ some s.file.content
  unchanged : ∀ s ∈ ss, s.result = .unchanged → IsStaged t u s

/-- From the middle of its first loop, a commit writes all files, or leaves all places as they
were. -/
theorem run_commit_of_staging (ha : t.Admits files) (h : IsStaging o t u files staged todo)
    (hrun : (stageFiles [] files).run o = (stageFiles staged todo).run u) :
    (∃ (ss : List Staged) (v : FileTree), (commit files).run o =
        (.ok (ss.map fun s => (s.file.path, s.result)), v) ∧ IsCommitted o t v files ss) ∨
      ∃ fault v, (commit files).run o = (.error ⟨fault, []⟩, v) ∧ IsRolledBack t v files := by
  rcases run_stageFiles ha h with ⟨ss, v, hv, hs⟩ | ⟨fault, v, hv, hback⟩
  · have hcovers : ss.map (·.file) = files := by simpa using hs.covers
    have hnext : IsReplacing t v files [] [] ss :=
      ⟨by simpa using hcovers, hs.touches, hs.staged, by simp, by simp, by simp⟩
    rcases run_replaceFiles ha hnext with ⟨rs, w, hw, hr⟩ | ⟨fault, w, hw, hback⟩
    · obtain ⟨x, hx, hdone, hT, hsame⟩ := hr.finish ha
      exact .inl ⟨ss, x, by simp [commit, hrun, hv, hw, hx], hcovers, hdone, hT, hs.stale, hsame⟩
    · exact .inr ⟨fault, w, by simp [commit, hrun, hv, hw], hback⟩
  · exact .inr ⟨fault, v, by simp [commit, hrun, hv], hback⟩

theorem run_commit (ha : t.Admits files) :
    (∃ (ss : List Staged) (u : FileTree), (commit files).run t =
        (.ok (ss.map fun s => (s.file.path, s.result)), u) ∧ IsCommitted t t u files ss) ∨
      ∃ fault u, (commit files).run t = (.error ⟨fault, []⟩, u) ∧ IsRolledBack t u files := by
  have hstart : IsStaging t t t files [] files :=
    ⟨fun _ _ h => h, rfl, .refl t _ t, by simp, by simp, fun _ _ => rfl⟩
  exact run_commit_of_staging ha hstart rfl

theorem Touches.entry?_inside (hT : Touches t files t u) (ha : t.Admits files) (hf : f ∈ files)
    (hm : m ∈ t.spots f) (hp : m <+: l) (hne : m ≠ l) : u.entry? l = t.entry? l := by
  have hfree : ∀ g ∈ files, l ∉ t.spots g := fun g hg hl =>
    hne (ha.apart.eq_of_isPrefix (mem_spots hf hm) (mem_spots hg hl) hp)
  rcases hT.frame l hfree with he | ⟨hn, -, g, hg, hw⟩
  · exact he
  · exact absurd hp (ha.not_isPrefix_way hg hf hm hw (not_directory_of_none hn))

/-- If a commit fails, every place is as before, with all that is in it, and there is no need to put
anything back by hand. Where no hidden file was before, there is none after, and nothing else has
changed but for directories on the way to the files. Paths without two dots are paths to places in
every tree; a path with them is one if the directories that it leaves are there. -/
theorem commit_error_restores (ha : Apart (files.flatMap t.spots))
    (hl : ∀ f ∈ files, t.LeavesDirectories f) {e : CommitError}
    (h : (commit files).run t = (.error e, u)) :
    e.unrestored = [] ∧
      (∀ f ∈ files, ∀ l, t.place f.path <+: l → u.entry? l = t.entry? l) ∧
      ((∀ f ∈ files, t.entry? (t.place f.staging) = none ∧ t.entry? (t.place f.backup) = none) →
        (∀ f ∈ files, u.entry? (t.place f.staging) = none ∧ u.entry? (t.place f.backup) = none) ∧
          AddsDirectories t u fun l => ∃ f ∈ files, l ∈ t.way f) := by
  have ha : t.Admits files := .of_apart ha hl
  rcases run_commit ha with ⟨ss, v, hv, -⟩ | ⟨fault, v, hv, hun, hT⟩
  · simp [hv] at h
  rw [hv] at h
  simp only [Prod.mk.injEq, Except.error.injEq] at h
  obtain ⟨rfl, rfl⟩ := h
  refine ⟨rfl, fun f hf l hl => ?_, fun hno => ⟨fun f hf => ?_, hT.keeps.workDir, fun l => ?_⟩⟩
  -- the place itself was put back; what is inside it was not touched
  · by_cases he : t.place f.path = l
    · rw [← he]
      exact (hun f hf).1
    · exact hT.entry?_inside ha hf mem_spots_path hl he
  · obtain ⟨-, hs, hb⟩ := hun f hf
    obtain ⟨hs', hb'⟩ := hno f hf
    rw [hs', or_self] at hs
    rw [hb', or_self] at hb
    exact ⟨hs, hb⟩
  · by_cases hspot : ∃ f ∈ files, l ∈ t.spots f
    · obtain ⟨f, hf, hl⟩ := hspot
      obtain ⟨hp, hs, hb⟩ := hun f hf
      obtain ⟨hs', hb'⟩ := hno f hf
      rw [hs', or_self] at hs
      rw [hb', or_self] at hb
      simp only [spots, List.mem_cons, List.not_mem_nil, or_false] at hl
      rcases hl with rfl | rfl | rfl
      · exact .inl hp
      · exact .inl (hs.trans hs'.symm)
      · exact .inl (hb.trans hb'.symm)
    · exact hT.frame l fun f hf hl => hspot ⟨f, hf, hl⟩

theorem commit_error_restores_over_directory :
    ∃ u, (commit [⟨"a", "new"⟩, ⟨"b", "new"⟩]).run
        ⟨[(["a"], .file (.text "old")), (["b"], .directory)], []⟩ = (.error ⟨.writing "b", []⟩, u) ∧
      u.entry? ["a"] = some (.file (.text "old")) ∧ u.entry? ["b"] = some .directory ∧
        u.entry? [".a.tmp"] = none ∧ u.entry? [".a.bak"] = none := by
  let t : FileTree := ⟨[(["a"], .file (.text "old")), (["b"], .directory)], []⟩
  have hfault : ((commit [⟨"a", "new"⟩, ⟨"b", "new"⟩]).run t).1 = .error ⟨.writing "b", []⟩ := by
    decide +kernel
  have hrun := run_eq_of_fst hfault
  have hdots : ∀ f ∈ [OutputFile.mk "a" "new", ⟨"b", "new"⟩], ".." ∉ Path.parts f.path := by decide
  obtain ⟨-, hplaces, hrest⟩ := commit_error_restores (by decide)
    (fun f hf => leavesDirectories_of_no_dots (hdots f hf)) hrun
  have hhidden := (hrest (by decide)).1 ⟨"a", "new"⟩ (by simp)
  refine ⟨_, hrun, ?_, ?_, hhidden⟩
  · exact hplaces ⟨"a", "new"⟩ (by simp) ["a"] (by decide)
  · exact hplaces ⟨"b", "new"⟩ (by simp) ["b"] (by decide)

/-- If a commit succeeds, every place holds the new content, and the files are reported in order, as
unchanged where they held it before. No hidden file is there that was not before, and nothing else
has changed but for directories on the way to the files. As for a commit that fails, the files have
paths to places. -/
theorem commit_ok_exact (ha : Apart (files.flatMap t.spots))
    (hl : ∀ f ∈ files, t.LeavesDirectories f) (ht : t.IsTree) {rs : List (String × WriteResult)}
    (h : (commit files).run t = (.ok rs, u)) :
    (∀ f ∈ files, u.entry? (t.place f.path) = f.entry) ∧
      List.Forall₂ (fun f r => r.1 = f.path ∧
        (r.2 = .unchanged ↔ t.readText f.path = some f.content)) files rs ∧
      (∀ f ∈ files, (t.entry? (t.place f.staging) = none → u.entry? (t.place f.staging) = none) ∧
        (t.entry? (t.place f.backup) = none → u.entry? (t.place f.backup) = none)) ∧
      ∀ l, (∀ f ∈ files, l ∉ t.spots f) → u.entry? l = t.entry? l ∨
        (t.entry? l = none ∧ u.entry? l = some .directory ∧ ∃ f ∈ files, l ∈ t.way f) := by
  have ha : t.Admits files := .of_apart ha hl
  rcases run_commit ha with ⟨ss, v, hv, hcovers, hdone, hT, hstale, hsame⟩ | ⟨fault, v, hv, -⟩
  · rw [hv] at h
    simp only [Prod.mk.injEq, Except.ok.injEq] at h
    obtain ⟨rfl, rfl⟩ := h
    refine ⟨fun f hf => (hdone f hf).1, ?_, fun f hf => ?_, hT.frame⟩
    · rw [← hcovers, List.forall₂_map_left_iff, List.forall₂_map_right_iff, List.forall₂_same]
      intro s hs
      have hf : s.file ∈ files := hcovers ▸ List.mem_map_of_mem hs
      refine ⟨rfl, fun hu => ?_, fun hr => ?_⟩
      · have hstay := hsame s hs hu
        simp only [IsStaged, show s.result = .unchanged from hu] at hstay
        obtain ⟨name, hn⟩ := ha.fileName hf
        exact readText_before hn ht hT.keeps (hl _ hf) (congrArg Prod.fst hstay.2) hstay.1
      · cases hu : s.result with
        | unchanged => rfl
        | written => exact absurd hr (hstale s hs hu)
    · obtain ⟨-, hs, hb⟩ := hdone f hf
      exact ⟨fun hn => by simpa [hn] using hs, fun hn => by simpa [hn] using hb⟩
  · simp [hv] at h

theorem commit_ok_exact_mixed :
    let write : FileProgram Bool := do
      let _ ← writeTextAt "a" "same"
      writeTextAt "b" "old"
    ∃ u, (commit [⟨"a", "same"⟩, ⟨"b", "new"⟩, ⟨"d/c", "new"⟩]).run (write.run (atWork [])).2 =
        (.ok [("a", .unchanged), ("b", .written), ("d/c", .written)], u) ∧
      u.entry? ["b"] = some (.file (.text "new")) ∧ u.entry? [".b.bak"] = none := by
  intro write
  have ht : (write.run (atWork [])).2.IsTree := run_isTree _ (isTree_atWork [])
  have hresult : ((commit [⟨"a", "same"⟩, ⟨"b", "new"⟩, ⟨"d/c", "new"⟩]).run
      (write.run (atWork [])).2).1 =
        .ok [("a", .unchanged), ("b", .written), ("d/c", .written)] := by
    decide +kernel
  have hrun := run_eq_of_fst hresult
  have hdots : ∀ f ∈ [OutputFile.mk "a" "same", ⟨"b", "new"⟩, ⟨"d/c", "new"⟩],
      ".." ∉ Path.parts f.path := by decide +kernel
  obtain ⟨hplaces, -, hhidden, -⟩ := commit_ok_exact (by decide +kernel)
    (fun f hf => leavesDirectories_of_no_dots (hdots f hf)) ht hrun
  refine ⟨_, hrun, ?_, ?_⟩
  · exact hplaces ⟨"b", "new"⟩ (by simp)
  · exact (hhidden ⟨"b", "new"⟩ (by simp)).2 (by decide +kernel)

end CommandGen.FileTree
