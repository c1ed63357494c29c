import CommandGen.Proofs.Files.Spots

/-! What the parts of a commit do to the files that they work on, and that they leave all others
alone. -/
namespace CommandGen

open FileTree FileProgram

/-- The content of a file as an entry. -/
def OutputFile.entry (f : OutputFile) : Option FileEntry := some (.file (.text f.content))

namespace FileTree

variable {t u v w : FileTree} {f g : OutputFile} {files fs gs : List OutputFile} {l m : Location}

/-- The entries that a tree has at the locations of a file: at its place and at the two hidden
ones. -/
def holding (t u : FileTree) (f : OutputFile) :
    Option FileEntry × Option FileEntry × Option FileEntry :=
  (u.entry? (t.place f.path), u.entry? (t.place f.staging), u.entry? (t.place f.backup))

/-- A step from one tree to another that works on some files of a commit: apart from their locations
it makes nothing but directories on the way to them. -/
structure Touches (t : FileTree) (fs : List OutputFile) (u v : FileTree) : Prop where
  keeps : KeepsDirectories u v
  frame : ∀ m, (∀ f ∈ fs, m ∉ t.spots f) → v.entry? m = u.entry? m ∨
    (u.entry? m = none ∧ v.entry? m = some .directory ∧ ∃ f ∈ fs, m ∈ t.way f)

namespace Touches

theorem refl (t : FileTree) (fs : List OutputFile) (u : FileTree) : Touches t fs u u :=
  ⟨.refl u, fun _ _ => .inl rfl⟩

theorem mono (h : Touches t fs u v) (hs : fs ⊆ gs) : Touches t gs u v := by
  refine ⟨h.keeps, fun m hm => ?_⟩
  rcases h.frame m fun f hf => hm f (hs hf) with he | ⟨hn, hd, f, hf, hp⟩
  · exact .inl he
  · exact .inr ⟨hn, hd, f, hs hf, hp⟩

theorem trans (h : Touches t fs u v) (h' : Touches t fs v w) : Touches t fs u w := by
  refine ⟨h.keeps.trans h'.keeps, fun m hm => ?_⟩
  rcases h'.frame m hm with he | ⟨hn, hd, hp⟩
  · rcases h.frame m hm with he' | ⟨hn', hd', hp'⟩
    · exact .inl (he.trans he')
    · exact .inr ⟨hn', he.trans hd', hp'⟩
  · rcases h.frame m hm with he' | ⟨-, hd', -⟩
    · exact .inr ⟨he' ▸ hn, hd, hp⟩
    · rw [hn] at hd'
      cases hd'

theorem made_not_mem_spots (ha : t.Admits files) (hk : KeepsDirectories t u) (hf : f ∈ files)
    (hg : g ∈ files) (hm : m ∈ t.way f) (hn : u.entry? m = none) : m ∉ t.spots g := by
  intro hs
  have hd : t.isDirectoryAt m = false := by
    by_contra hd
    have hu := hk.directory m (by simpa using hd)
    rw [isDirectoryAt_iff, hn] at hu
    cases hu
  exact ha.not_isPrefix_way hf hg hs hm hd (List.prefix_refl m)

theorem holding_eq (h : Touches t fs u v) (ha : t.Admits files) (hk : KeepsDirectories t u)
    (hs : fs ⊆ files) (hg : g ∈ files) (hn : g ∉ fs) : t.holding v g = t.holding u g := by
  have he : ∀ m ∈ t.spots g, v.entry? m = u.entry? m := by
    intro m hm
    have hfree : ∀ f ∈ fs, m ∉ t.spots f := fun f hf =>
      ha.disjoint hg (hs hf) (fun e => hn (e ▸ hf)) hm
    rcases h.frame m hfree with he | ⟨hnone, -, f, hf, hw⟩
    · exact he
    · exact absurd hm (made_not_mem_spots ha hk (hs hf) hg hw hnone)
  simp only [holding]
  rw [he _ (by simp [spots]), he _ (by simp [spots]), he _ (by simp [spots])]

end Touches

variable {c : Content}

theorem touches_put (hl : l ∈ t.spots f) (hd : u.isDirectoryAt l = false) :
    Touches t [f] u (u.put l (.file c)) := by
  refine ⟨.of_put hd, fun m hm => .inl ?_⟩
  have hne : m ≠ l := fun e => hm f (by simp) (e ▸ hl)
  rw [entry?_put (ne_nil_of_not_directory hd), if_neg hne]

theorem removeFile_at {path : String} (hp : u.locateFile? path = some l) (hl : l ∈ t.spots f)
    (hc : u.entry? l = some (.file c)) :
    ∃ v, u.removeFile path = (v, true) ∧ Touches t [f] u v ∧
      ∀ m, v.entry? m = if m = l then none else u.entry? m := by
  have hd := not_directory_of_file hc
  have he : ∀ m, entry? (u.without l) m = if m = l then none else u.entry? m := fun m =>
    entry?_without (ne_nil_of_not_directory hd)
  refine ⟨u.without l, removeFile_eq hp hc, ⟨.of_without hd, ?_⟩, he⟩
  intro m hm
  have hne : m ≠ l := fun e => hm f (by simp) (e ▸ hl)
  exact .inl (by rw [he, if_neg hne])

theorem moveFile_at {source target : String} {a b : Location} (hs : u.locateFile? source = some a)
    (ht : u.locateFile? target = some b) (ha : a ∈ t.spots f) (hb : b ∈ t.spots f)
    (hc : u.entry? a = some (.file c)) (hd : u.isDirectoryAt b = false)
    (hh : u.isDirectoryAt b.dropLast = true) :
    ∃ v, u.moveFile source target = (v, true) ∧ Touches t [f] u v ∧
      ∀ m, v.entry? m = if m = b then some (.file c) else if m = a then none else u.entry? m := by
  have he : ∀ m, entry? ((u.without a).put b (.file c)) m = _ := fun m => entry?_moved hc hd
  refine ⟨(u.without a).put b (.file c), moveFile_eq hs ht hc hd hh,
    ⟨moved_keepsDirectories hc hd, ?_⟩, he⟩
  intro m hm
  have hna : m ≠ a := fun e => hm f (by simp) (e ▸ ha)
  have hnb : m ≠ b := fun e => hm f (by simp) (e ▸ hb)
  exact .inl (by rw [he, if_neg hnb, if_neg hna])

/-- A file that was staged holds its content at the first hidden location; one that needs no change
has it at its place. -/
def IsStaged (t u : FileTree) (s : Staged) : Prop :=
  match s.result with
  | .written => u.Reaches s.file ∧ t.holding u s.file =
      (t.entry? (t.place s.file.path), s.file.entry, t.entry? (t.place s.file.backup))
  | .unchanged =>
    u.readText s.file.path = some s.file.content ∧ t.holding u s.file = t.holding t s.file

/-- A file in its place, with what was there before at the second hidden location. -/
def IsPlaced (t u : FileTree) (r : Replaced) : Prop :=
  u.Reaches r.file ∧ Path.namesDirectory r.file.path = false ∧
    if r.isBackedUp then
      (∃ c, t.entry? (t.place r.file.path) = some (.file c)) ∧
        t.holding u r.file = (r.file.entry, none, t.entry? (t.place r.file.path))
    else
      t.entry? (t.place r.file.path) = none ∧
        t.holding u r.file = (r.file.entry, none, t.entry? (t.place r.file.backup))

def IsSwept (t u : FileTree) (f : OutputFile) : Prop :=
  (u.entry? (t.place f.staging) = t.entry? (t.place f.staging) ∨ u.entry? (t.place f.staging) = none) ∧
    (u.entry? (t.place f.backup) = t.entry? (t.place f.backup) ∨ u.entry? (t.place f.backup) = none)

def IsUndone (t u : FileTree) (f : OutputFile) : Prop :=
  u.entry? (t.place f.path) = t.entry? (t.place f.path) ∧ IsSwept t u f

def IsDone (t u : FileTree) (f : OutputFile) : Prop :=
  u.entry? (t.place f.path) = f.entry ∧ IsSwept t u f

theorem Admits.dropLast_eq (ha : t.Admits files) (hf : f ∈ files) (hl : l ∈ t.spots f) :
    l.dropLast = t.home f := by
  obtain ⟨name, -, hp, hs, hb⟩ := ha.places hf
  simp only [spots, List.mem_cons, List.not_mem_nil, or_false] at hl
  rcases hl with rfl | rfl | rfl <;> simp [hp, hs, hb]

theorem KeepsDirectories.home_eq (h : KeepsDirectories t u) (f : OutputFile) :
    u.home f = t.home f := by
  simp [FileTree.home, h.start_eq]

theorem Reaches.located (hr : u.Reaches f) (hk : KeepsDirectories t u) :
    u.locateFile? f.staging = some (t.place f.staging) ∧
      u.locateFile? f.backup = some (t.place f.backup) ∧
      u.locateFile? f.path = (if Path.namesDirectory f.path then none else some (t.place f.path)) ∧
      u.isDirectoryAt (t.home f) = true := by
  have hs := hr.staging
  have hb := hr.backup
  have hp := hr.path
  have hh := hr.home
  rw [hk.place_eq] at hs hb hp
  rw [hk.home_eq] at hh
  exact ⟨hs, hb, hp, hh⟩

theorem mem_spots_path : t.place f.path ∈ t.spots f := by simp [spots]
theorem mem_spots_staging : t.place f.staging ∈ t.spots f := by simp [spots]
theorem mem_spots_backup : t.place f.backup ∈ t.spots f := by simp [spots]

theorem removeFile_staging (ha : t.Admits files) (hf : f ∈ files) (hk : KeepsDirectories t u)
    (hr : u.Reaches f) {a b : Option FileEntry} (hh : t.holding u f = (a, some (.file c), b)) :
    ∃ v, u.removeFile f.staging = (v, true) ∧ Touches t [f] u v ∧ t.holding v f = (a, none, b) := by
  obtain ⟨hl, -⟩ := hr.located hk
  obtain ⟨hps, -, hsb⟩ := ha.ne hf
  simp only [holding, Prod.mk.injEq] at hh ⊢
  obtain ⟨hp, hs, hb⟩ := hh
  obtain ⟨v, hv, ht, he⟩ := removeFile_at hl mem_spots_staging hs
  exact ⟨v, hv, ht, by simp [he, hps, hp], by simp [he], by simp [he, hsb.symm, hb]⟩

theorem removeFile_backup (ha : t.Admits files) (hf : f ∈ files) (hk : KeepsDirectories t u)
    (hr : u.Reaches f) {a b : Option FileEntry} (hh : t.holding u f = (a, b, some (.file c))) :
    ∃ v, u.removeFile f.backup = (v, true) ∧ Touches t [f] u v ∧ t.holding v f = (a, b, none) := by
  obtain ⟨-, hl, -⟩ := hr.located hk
  obtain ⟨-, hpb, hsb⟩ := ha.ne hf
  simp only [holding, Prod.mk.injEq] at hh ⊢
  obtain ⟨hp, hs, hb⟩ := hh
  obtain ⟨v, hv, ht, he⟩ := removeFile_at hl mem_spots_backup hb
  exact ⟨v, hv, ht, by simp [he, hpb, hp], by simp [he, hsb, hs], by simp [he]⟩

end FileTree

end CommandGen
