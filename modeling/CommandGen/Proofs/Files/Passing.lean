import CommandGen.Proofs.Files.Spots

/-! The trees that a program passes through, and where single operations change files. -/
namespace CommandGen

namespace FileProgram

variable {α β : Type} {t : FileTree} {good : FileTree → Prop} {post : α → FileTree → Prop}
  {after : β → FileTree → Prop}

theorem states_bind (p : FileProgram α) (f : α → FileProgram β) (t : FileTree) :
    (p >>= f).states t = p.states t ++ (f (p.run t).1).states (p.run t).2 := by
  change (p.bind f).states t = _
  induction p generalizing t with
  | done a => rfl
  | readText path next ih => exact congrArg _ (ih _ _)
  | isFile path next ih => exact congrArg _ (ih _ _)
  | names dir next ih => exact congrArg _ (ih _ _)
  | makeDirs dir next ih => exact congrArg _ (ih _ _)
  | writeText path text next ih => exact congrArg _ (ih _ _)
  | moveFile source target next ih => exact congrArg _ (ih _ _)
  | removeFile path next ih => exact congrArg _ (ih _ _)

/-- From a tree on, a program passes through good trees only, and its result and last tree meet a
condition. -/
structure Passes (good : FileTree → Prop) (post : α → FileTree → Prop)
    (p : FileProgram α) (t : FileTree) :
    Prop where
  along : ∀ u ∈ p.states t, good u
  ends : post (p.run t).1 (p.run t).2

theorem passes_pure {a : α} (h : post a t) : (pure a : FileProgram α).Passes good post t :=
  ⟨fun _ hu => absurd hu List.not_mem_nil, h⟩

theorem Passes.bind {p : FileProgram α} {f : α → FileProgram β} (hp : p.Passes good post t)
    (hf : ∀ a u, post a u → (f a).Passes good after u) : (p >>= f).Passes good after t := by
  obtain ⟨halong, hends⟩ := hf _ _ hp.ends
  refine ⟨fun u hu => ?_, by rw [run_bind]; exact hends⟩
  rw [states_bind] at hu
  rcases List.mem_append.mp hu with hu | hu
  · exact hp.along u hu
  · exact halong u hu

theorem Passes.imp {better : FileTree → Prop} {more : α → FileTree → Prop} {p : FileProgram α}
    (h : p.Passes good post t) (hgood : ∀ u, good u → better u) (hpost : ∀ a u, post a u → more a u) :
    p.Passes better more t :=
  ⟨fun u hu => hgood u (h.along u hu), hpost _ _ h.ends⟩

variable {path source target text dir : String}

theorem passes_readTextAt {post : Option String → FileTree → Prop} (hgood : good t)
    (hpost : post (t.readText path) t) : (readTextAt path).Passes good post t :=
  ⟨by simpa [readTextAt, states] using hgood, hpost⟩

theorem passes_isFileAt {post : Bool → FileTree → Prop} (hgood : good t)
    (hpost : post (t.isFile path) t) :
    (isFileAt path).Passes good post t :=
  ⟨by simpa [isFileAt, states] using hgood, hpost⟩

theorem passes_makeDirsAt {post : Bool → FileTree → Prop} (hgood : good (t.makeDirs dir).1)
    (hpost : post (t.makeDirs dir).2 (t.makeDirs dir).1) : (makeDirsAt dir).Passes good post t :=
  ⟨by simpa [makeDirsAt, states] using hgood, hpost⟩

theorem passes_writeTextAt {post : Bool → FileTree → Prop} (hgood : good (t.writeText path text).1)
    (hpost : post (t.writeText path text).2 (t.writeText path text).1) :
    (writeTextAt path text).Passes good post t :=
  ⟨by simpa [writeTextAt, states] using hgood, hpost⟩

theorem passes_move {post : Bool → FileTree → Prop} (hgood : good (t.moveFile source target).1)
    (hpost : post (t.moveFile source target).2 (t.moveFile source target).1) :
    (move source target).Passes good post t :=
  ⟨by simpa [move, states] using hgood, hpost⟩

theorem passes_remove {post : Bool → FileTree → Prop} (hgood : good (t.removeFile path).1)
    (hpost : post (t.removeFile path).2 (t.removeFile path).1) : (remove path).Passes good post t :=
  ⟨by simpa [remove, states] using hgood, hpost⟩

end FileProgram

namespace FileTree

open FileProgram

variable {o t u v : FileTree} {l : Location} {ls ms : List Location} {c : Content}

/-- From one tree to another, files come and go at some locations only, and no directory goes. -/
structure ChangesAt (ls : List Location) (u v : FileTree) : Prop where
  keeps : KeepsDirectories u v
  file_iff : ∀ l ∉ ls, ∀ c, v.entry? l = some (.file c) ↔ u.entry? l = some (.file c)

namespace ChangesAt

theorem refl (ls : List Location) (u : FileTree) : ChangesAt ls u u := ⟨.refl u, fun _ _ _ => .rfl⟩

theorem trans (h : ChangesAt ls t u) (h' : ChangesAt ls u v) : ChangesAt ls t v :=
  ⟨h.keeps.trans h'.keeps, fun l hl c => (h'.file_iff l hl c).trans (h.file_iff l hl c)⟩

theorem mono (h : ChangesAt ls u v) (hs : ls ⊆ ms) : ChangesAt ms u v :=
  ⟨h.keeps, fun l hl c => h.file_iff l (fun hm => hl (hs hm)) c⟩

theorem of_adds {made : Location → Prop} (h : AddsDirectories u v made) : ChangesAt [] u v := by
  refine ⟨h.keepsDirectories, fun l _ c => ?_⟩
  rcases h.entry l with he | ⟨hn, hd, -⟩
  · rw [he]
  · simp [hn, hd]

theorem of_put (hd : u.isDirectoryAt l = false) : ChangesAt [l] u (u.put l (.file c)) := by
  refine ⟨.of_put hd, fun m hm c => ?_⟩
  rw [entry?_put (ne_nil_of_not_directory hd), if_neg (by simpa using hm)]

theorem of_without (hc : u.entry? l = some (.file c)) : ChangesAt [l] u (u.without l) := by
  have hd := not_directory_of_file hc
  refine ⟨.of_without hd, fun m hm c => ?_⟩
  rw [entry?_without (ne_nil_of_not_directory hd), if_neg (by simpa using hm)]

end ChangesAt

theorem place_of_locateFile? {path : String} (hk : KeepsDirectories o u)
    (h : u.locateFile? path = some l) :
    l = o.place path := by
  rw [← hk.place_eq]
  exact locate?_eq_some (locateFile?_eq_some h).2

theorem entry?_of_readText {path s : String} (hk : KeepsDirectories o u)
    (h : u.readText path = some s) :
    u.entry? (o.place path) = some (.file (.text s)) := by
  obtain ⟨l, hl, hc⟩ := readText_eq_some.mp h
  rw [← place_of_locateFile? hk hl, hc]

theorem changesAt_writeText {path text : String} (hk : KeepsDirectories o u) :
    ChangesAt [o.place path] u (u.writeText path text).1 ∧
      ((u.writeText path text).2 = true →
        entry? (u.writeText path text).1 (o.place path) = some (.file (.text text))) := by
  rcases writeText_cases u path text with hw | ⟨l, hl, hd, -, hw⟩
  · rw [hw]
    exact ⟨.refl _ u, by simp⟩
  · rw [hw, ← place_of_locateFile? hk hl]
    refine ⟨.of_put hd, fun _ => ?_⟩
    rw [entry?_put (ne_nil_of_not_directory hd), if_pos rfl]

/-- A file that is moved is at the other place then, and no file is there that could not be seen
before. -/
theorem changesAt_moveFile {source target : String} (hk : KeepsDirectories o u) :
    ChangesAt [o.place source, o.place target] u (u.moveFile source target).1 ∧
      ((u.moveFile source target).2 = false → (u.moveFile source target).1 = u) ∧
      ((u.moveFile source target).2 = true → ∃ c, u.entry? (o.place source) = some (.file c) ∧
        entry? (u.moveFile source target).1 (o.place target) = some (.file c) ∧
        (u.isFile target = false → ∀ d, u.entry? (o.place target) ≠ some (.file d))) := by
  rcases moveFile_cases u source target with hw | ⟨a, b, c, ha, hb, hc, hd, -, hw⟩
  · rw [hw]
    exact ⟨.refl _ u, by simp, by simp⟩
  · have hmoved : ∀ m, entry? ((u.without a).put b (.file c)) m = _ := fun m => entry?_moved hc hd
    rw [hw, ← place_of_locateFile? hk ha, ← place_of_locateFile? hk hb]
    refine ⟨⟨moved_keepsDirectories hc hd, fun m hm d => ?_⟩, by simp,
      fun _ => ⟨c, hc, ?_, fun hf d he => ?_⟩⟩
    · simp only [List.mem_cons, List.not_mem_nil, or_false, not_or] at hm
      rw [hmoved, if_neg hm.2, if_neg hm.1]
    · rw [hmoved, if_pos rfl]
    · simp [isFile, hb, he] at hf

theorem changesAt_removeFile {path : String} (hk : KeepsDirectories o u) :
    ChangesAt [o.place path] u (u.removeFile path).1 := by
  rcases removeFile_cases u path with hw | ⟨l, c, hl, hc, hw⟩
  · rw [hw]
    exact .refl _ u
  · rw [hw, ← place_of_locateFile? hk hl]
    exact .of_without hc

end FileTree

end CommandGen
