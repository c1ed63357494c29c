import CommandGen.Proofs.Files.Spots

/-! What programs leave alone. A program is within some locations if each of its operations works
there and makes no directory, whatever the operations before it came to. Then all entries elsewhere
stay as they are. -/
namespace CommandGen

namespace FileTree

variable {t u : FileTree} {spots : List Location} {l : Location} {e : FileEntry} {dir : String}

def off (t : FileTree) (spots : List Location) : List (Location × FileEntry) :=
  t.entries.filter (·.1 ∉ spots)

theorem off_without (hl : l ∈ spots) : (t.without l).off spots = t.off spots := by
  unfold off without
  rw [List.filter_filter]
  refine List.filter_congr fun e _ => ?_
  by_cases he : e.1 = l <;> simp [he, hl]

theorem off_put (hl : l ∈ spots) : (t.put l e).off spots = t.off spots := by
  have hwithout : (t.without l).off spots = t.off spots := off_without hl
  rw [← hwithout]
  simp [off, put, without, hl]

/-- Trees with the same entries off some locations have the same one at every other location. -/
theorem entry?_of_off (h : u.off spots = t.off spots) (hl : l ∉ spots) :
    u.entry? l = t.entry? l := by
  have hlookup (entries : List (Location × FileEntry)) :
      (entries.filter (·.1 ∉ spots)).lookup l = entries.lookup l := by
    induction entries with
    | nil => rfl
    | cons e rest ih =>
      obtain ⟨k, v⟩ := e
      by_cases hk : k ∈ spots
      · have hb : (l == k) = false := by
          rw [beq_eq_false_iff_ne]
          rintro rfl
          exact hl hk
        simpa [hk, List.lookup_cons, hb] using ih
      · rw [List.filter_cons_of_pos (by simpa using hk), List.lookup_cons, List.lookup_cons, ih]
  unfold off at h
  unfold entry?
  rw [← hlookup u.entries, h, hlookup]

/-- Trees that differ at some locations only, and have the same directories. -/
structure SameOff (t u : FileTree) (spots : List Location) : Prop where
  workDir : u.workDir = t.workDir
  directory : ∀ l, u.isDirectoryAt l = t.isDirectoryAt l
  entries : u.off spots = t.off spots

namespace SameOff

variable {path : String}

theorem locate?_eq (h : SameOff t u spots) (path : String) : u.locate? path = t.locate? path := by
  have hfollow : u.follow? = t.follow? := by
    funext l part
    simp [follow?, h.directory]
  simp [locate?, start, hfollow, h.workDir]

theorem locateFile?_eq (h : SameOff t u spots) (path : String) :
    u.locateFile? path = t.locateFile? path := by
  simp [locateFile?, h.locate?_eq]

theorem file_eq (h : SameOff t u spots) (hp : ∀ l, t.locateFile? path = some l → l ∉ spots) :
    u.readText path = t.readText path ∧ u.isFile path = t.isFile path := by
  unfold readText isFile
  rw [h.locateFile?_eq]
  cases hl : t.locateFile? path with
  | none => exact ⟨rfl, rfl⟩
  | some l =>
    have he := entry?_of_off h.entries (hp l hl)
    simp [he]

end SameOff

theorem makeDirs_of_directories (h : ∀ l ∈ t.start dir :: walk (t.start dir) (Path.parts dir),
    t.isDirectoryAt l = true) : (t.makeDirs dir).1 = t := by
  have hparts (l : Location) (parts : List String)
      (h : ∀ m ∈ walk l parts, t.isDirectoryAt m = true) :
      (t.makeDirsAt l parts).1 = t := by
    induction parts generalizing l with
    | nil => rfl
    | cons part rest ih =>
      unfold makeDirsAt
      cases hf : t.follow? l part with
      | none => rfl
      | some next =>
        obtain ⟨-, rfl⟩ := follow?_eq_some hf
        obtain ⟨hnext, hrest⟩ := List.forall_mem_cons.mp h
        simp only [isDirectoryAt_iff.mp hnext]
        exact ih _ hrest
  unfold makeDirs
  split_ifs
  · rfl
  · rfl
  · exact hparts _ _ fun m hm => h m (List.mem_cons_of_mem _ hm)

end FileTree

namespace FileProgram

open FileTree

variable {α β : Type} {t u : FileTree} {spots : List Location} {post : α → Prop} {after : β → Prop}

/-- All operations that change entries work at some locations, no directory is missing on the way to
one that is to be made, and all results meet a condition. -/
def Within (t : FileTree) (spots : List Location) (post : α → Prop) : FileProgram α → Prop
  | .done a => post a
  | .readText _ next => ∀ r, (next r).Within t spots post
  | .isFile _ next => ∀ r, (next r).Within t spots post
  | .names _ next => ∀ r, (next r).Within t spots post
  | .makeDirs dir next =>
    (∀ l ∈ t.start dir :: walk (t.start dir) (Path.parts dir), t.isDirectoryAt l = true) ∧
      ∀ r, (next r).Within t spots post
  | .writeText path _ next => t.place path ∈ spots ∧ ∀ r, (next r).Within t spots post
  | .moveFile source target next =>
    t.place source ∈ spots ∧ t.place target ∈ spots ∧ ∀ r, (next r).Within t spots post
  | .removeFile path next => t.place path ∈ spots ∧ ∀ r, (next r).Within t spots post

theorem Within.bind {p : FileProgram α} {f : α → FileProgram β} (hp : p.Within t spots post)
    (hf : ∀ a, post a → (f a).Within t spots after) : (p >>= f).Within t spots after := by
  change (p.bind f).Within t spots after
  induction p with
  | done a => exact hf a hp
  | readText path next ih => exact fun r => ih r (hp r)
  | isFile path next ih => exact fun r => ih r (hp r)
  | names dir next ih => exact fun r => ih r (hp r)
  | makeDirs dir next ih => exact ⟨hp.1, fun r => ih r (hp.2 r)⟩
  | writeText path text next ih => exact ⟨hp.1, fun r => ih r (hp.2 r)⟩
  | moveFile source target next ih => exact ⟨hp.1, hp.2.1, fun r => ih r (hp.2.2 r)⟩
  | removeFile path next ih => exact ⟨hp.1, fun r => ih r (hp.2 r)⟩

theorem Within.any {p : FileProgram α} {f : α → FileProgram β} (hp : p.Within t spots fun _ => True)
    (hf : ∀ a, (f a).Within t spots after) : (p >>= f).Within t spots after :=
  hp.bind fun a _ => hf a

theorem off_writeText {path text : String} (hk : KeepsDirectories t u) (h : t.place path ∈ spots) :
    (u.writeText path text).1.off spots = u.off spots := by
  rcases writeText_cases u path text with hw | ⟨l, hl, -, -, hw⟩
  · rw [hw]
  · have hplace : l = u.place path := locate?_eq_some (locateFile?_eq_some hl).2
    rw [hk.place_eq] at hplace
    subst hplace
    rw [hw]
    exact off_put h

theorem off_moveFile {source target : String} (hk : KeepsDirectories t u)
    (hs : t.place source ∈ spots) (ht : t.place target ∈ spots) :
    (u.moveFile source target).1.off spots = u.off spots := by
  rcases moveFile_cases u source target with hw | ⟨a, b, c, ha, hb, -, -, -, hw⟩
  · rw [hw]
  · have hsource : a = u.place source := locate?_eq_some (locateFile?_eq_some ha).2
    have htarget : b = u.place target := locate?_eq_some (locateFile?_eq_some hb).2
    rw [hk.place_eq] at hsource htarget
    subst hsource htarget
    rw [hw]
    exact (off_put ht).trans (off_without hs)

theorem off_removeFile {path : String} (hk : KeepsDirectories t u) (h : t.place path ∈ spots) :
    (u.removeFile path).1.off spots = u.off spots := by
  rcases removeFile_cases u path with hw | ⟨l, c, hl, -, hw⟩
  · rw [hw]
  · have hplace : l = u.place path := locate?_eq_some (locateFile?_eq_some hl).2
    rw [hk.place_eq] at hplace
    subst hplace
    rw [hw]
    exact off_without h

/-- The induction goes along the run: what was there at its start is there at each operation. -/
theorem Within.run {p : FileProgram α} (h : p.Within t spots post) (hk : KeepsDirectories t u) :
    post (p.run u).1 ∧ (p.run u).2.off spots = u.off spots := by
  induction p generalizing u with
  | done a => exact ⟨h, rfl⟩
  | readText path next ih => exact ih _ (h _) hk
  | isFile path next ih => exact ih _ (h _) hk
  | names dir next ih => exact ih _ (h _) hk
  | makeDirs dir next ih =>
    obtain ⟨hway, hnext⟩ := h
    have hmade : (u.makeDirs dir).1 = u := by
      refine makeDirs_of_directories fun l hl => ?_
      rw [hk.start_eq] at hl
      exact hk.directory l (hway l hl)
    rw [FileProgram.run, hmade]
    exact ih _ (hnext _) hk
  | writeText path text next ih =>
    obtain ⟨hpost, hoff⟩ := ih _ (h.2 _) (hk.trans (writeText_keepsDirectories u path text))
    exact ⟨hpost, hoff.trans (off_writeText hk h.1)⟩
  | moveFile source target next ih =>
    obtain ⟨hpost, hoff⟩ := ih _ (h.2.2 _) (hk.trans (moveFile_keepsDirectories u source target))
    exact ⟨hpost, hoff.trans (off_moveFile hk h.1 h.2.1)⟩
  | removeFile path next ih =>
    obtain ⟨hpost, hoff⟩ := ih _ (h.2 _) (hk.trans (removeFile_keepsDirectories u path))
    exact ⟨hpost, hoff.trans (off_removeFile hk h.1)⟩

end FileProgram

open FileTree FileProgram

variable {t : FileTree} {files todo : List OutputFile} {f : OutputFile}

def IsHoused (t : FileTree) (f : OutputFile) : Prop :=
  (∃ name, Path.fileName? f.path = some name) ∧ ∀ l ∈ t.start f.path :: t.way f,
  t.isDirectoryAt l = true

theorem within_writeStaging (hhoused : ∀ f ∈ files, IsHoused t f) (hf : f ∈ files) (text : String) :
    (writeWithDirs f.staging text).Within t (files.flatMap t.spots) fun _ => True := by
  obtain ⟨⟨name, hname⟩, hway⟩ := hhoused f hf
  obtain ⟨dir, hparent, hparts, habs⟩ := parent?_staging hname
  have hdir : ∀ l ∈ t.start dir :: walk (t.start dir) (Path.parts dir),
      t.isDirectoryAt l = true := by
    have hstart : t.start dir = t.start f.path := by simp [start, habs]
    rw [hstart, hparts]
    exact hway
  have hspot : t.place f.staging ∈ files.flatMap t.spots := mem_spots hf (by simp [spots])
  unfold writeWithDirs
  rw [hparent]
  refine Within.any ⟨hdir, fun _ => trivial⟩ fun made => ?_
  split
  · exact ⟨hspot, fun _ => trivial⟩
  · trivial

theorem within_dropStaged {staged : List Staged} (h : ∀ s ∈ staged, s.file ∈ files) :
    (dropStaged staged).Within t (files.flatMap t.spots) fun _ => True := by
  induction staged with
  | nil => trivial
  | cons s rest ih =>
    obtain ⟨hs, hrest⟩ := List.forall_mem_cons.mp h
    have hspot : t.place s.file.staging ∈ files.flatMap t.spots := mem_spots hs (by simp [spots])
    unfold dropStaged
    split
    · exact Within.any ⟨hspot, fun _ => trivial⟩ fun _ => ih hrest
    · exact ih hrest

def IfOk {ε α : Type} (condition : α → Prop) : Except ε α → Prop
  | .ok a => condition a
  | .error _ => True

theorem within_stageFiles (hhoused : ∀ f ∈ files, IsHoused t f) {staged : List Staged}
    (hstaged : ∀ s ∈ staged, s.file ∈ files) (htodo : ∀ f ∈ todo, f ∈ files) :
    (stageFiles staged todo).Within t (files.flatMap t.spots)
      (IfOk fun staged => ∀ s ∈ staged, s.file ∈ files) := by
  induction todo generalizing staged with
  | nil => exact hstaged
  | cons f rest ih =>
    obtain ⟨hf, hrest⟩ := List.forall_mem_cons.mp htodo
    have hnext (r : WriteResult) : ∀ s ∈ staged ++ [⟨f, r⟩], s.file ∈ files := by
      simpa [or_imp, forall_and] using ⟨hstaged, hf⟩
    unfold stageFiles
    refine Within.any (fun _ => trivial) fun text => ?_
    split
    · exact ih (hnext _) hrest
    · refine Within.any (within_writeStaging hhoused hf _) fun made => ?_
      split
      · exact ih (hnext _) hrest
      · exact Within.any (within_dropStaged hstaged) fun _ => trivial

theorem within_replaceFile (hf : f ∈ files) :
    (replaceFile f).Within t (files.flatMap t.spots) (IfOk fun r => r.file ∈ files) := by
  have hpath : t.place f.path ∈ files.flatMap t.spots := mem_spots hf (by simp [spots])
  have hstaging : t.place f.staging ∈ files.flatMap t.spots := mem_spots hf (by simp [spots])
  have hbackup : t.place f.backup ∈ files.flatMap t.spots := mem_spots hf (by simp [spots])
  have hplace (isBackedUp : Bool) : (do
      if ← move f.staging f.path then return .ok ⟨f, isBackedUp⟩
      if isBackedUp then let _ ← move f.backup f.path
      return .error (.writing f.path) : FileProgram (Except CommitFault Replaced)).Within t
        (files.flatMap t.spots) (IfOk fun r => r.file ∈ files) := by
    refine Within.any ⟨hstaging, hpath, fun _ => trivial⟩ fun moved => ?_
    split
    · exact hf
    · split
      · exact Within.any ⟨hbackup, hpath, fun _ => trivial⟩ fun _ => trivial
      · trivial
  unfold replaceFile
  refine Within.any (fun _ => trivial) fun isBackedUp => ?_
  cases isBackedUp with
  | false => exact hplace false
  | true =>
    refine Within.any ⟨hpath, hbackup, fun _ => trivial⟩ fun aside => ?_
    cases aside with
    | false => trivial
    | true => exact hplace true

theorem within_putBack {replaced : List Replaced} (h : ∀ r ∈ replaced, r.file ∈ files) :
    (putBack replaced).Within t (files.flatMap t.spots) fun _ => True := by
  induction replaced with
  | nil => trivial
  | cons r rest ih =>
    obtain ⟨hr, hrest⟩ := List.forall_mem_cons.mp h
    have hpath : t.place r.file.path ∈ files.flatMap t.spots := mem_spots hr (by simp [spots])
    have hbackup : t.place r.file.backup ∈ files.flatMap t.spots := mem_spots hr (by simp [spots])
    unfold putBack
    dsimp only
    split
    · refine Within.any ⟨hbackup, hpath, fun _ => trivial⟩ fun restored => ?_
      exact Within.any (ih hrest) fun _ => trivial
    · refine Within.any ⟨hpath, fun _ => trivial⟩ fun restored => ?_
      exact Within.any (ih hrest) fun _ => trivial

theorem within_replaceFiles {replaced : List Replaced} {staged : List Staged}
    (hreplaced : ∀ r ∈ replaced, r.file ∈ files) (hstaged : ∀ s ∈ staged, s.file ∈ files) :
    (replaceFiles replaced staged).Within t (files.flatMap t.spots)
      (IfOk fun replaced => ∀ r ∈ replaced, r.file ∈ files) := by
  induction staged generalizing replaced with
  | nil => exact hreplaced
  | cons s rest ih =>
    obtain ⟨hs, hrest⟩ := List.forall_mem_cons.mp hstaged
    unfold replaceFiles
    split
    · exact ih hreplaced hrest
    · refine Within.bind (within_replaceFile hs) fun r hr => ?_
      cases r with
      | ok r =>
        have hr : r.file ∈ files := hr
        exact ih (by simpa [or_imp, forall_and] using ⟨hreplaced, hr⟩) hrest
      | error fault =>
        have hback : (putBack replaced.reverse).Within t (files.flatMap t.spots) fun _ => True :=
          within_putBack (by simpa using hreplaced)
        exact Within.any hback fun _ => Within.any (within_dropStaged hstaged) fun _ => trivial

theorem within_dropBackups {replaced : List Replaced} (h : ∀ r ∈ replaced, r.file ∈ files) :
    (dropBackups replaced).Within t (files.flatMap t.spots) fun _ => True := by
  induction replaced with
  | nil => trivial
  | cons r rest ih =>
    obtain ⟨hr, hrest⟩ := List.forall_mem_cons.mp h
    have hbackup : t.place r.file.backup ∈ files.flatMap t.spots := mem_spots hr (by simp [spots])
    unfold dropBackups
    split
    · exact Within.any ⟨hbackup, fun _ => trivial⟩ fun _ => ih hrest
    · exact ih hrest

theorem within_commit (hhoused : ∀ f ∈ files, IsHoused t f) :
    (commit files).Within t (files.flatMap t.spots) fun _ => True := by
  unfold commit
  refine Within.bind (within_stageFiles hhoused (by simp) (fun _ h => h)) fun r hr => ?_
  cases r with
  | error e => trivial
  | ok staged =>
    refine Within.bind (within_replaceFiles (by simp) hr) fun q hq => ?_
    cases q with
    | error e => trivial
    | ok replaced => exact Within.any (within_dropBackups hq) fun _ => trivial

/-- A commit of files in directories that are there leaves all other entries as they are. -/
theorem off_commit (hhoused : ∀ f ∈ files, IsHoused t f) :
    ((commit files).run t).2.off (files.flatMap t.spots) = t.off (files.flatMap t.spots) :=
  ((within_commit hhoused).run (.refl t)).2

end CommandGen
