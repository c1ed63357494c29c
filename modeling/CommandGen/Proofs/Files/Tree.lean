import CommandGen.Files.Tree
import CommandGen.Proofs.Files.Path

/-! What operations do to the entries of a tree, and where paths lead in it. -/
namespace CommandGen.FileTree

variable {t u : FileTree} {l m a b : Location} {e : FileEntry} {c : Content} {path : String}

@[simp] theorem entry?_nil (t : FileTree) : t.entry? [] = some .directory := if_pos rfl

theorem isDirectoryAt_iff : t.isDirectoryAt l = true ↔ t.entry? l = some .directory := by
  simp [isDirectoryAt]

theorem ne_nil_of_not_directory (h : t.isDirectoryAt l = false) : l ≠ [] := by
  rintro rfl
  simp [isDirectoryAt] at h

theorem lookup_filter_ne (entries : List (Location × FileEntry)) (l m : Location) :
    (entries.filter (·.1 ≠ l)).lookup m = if m = l then none else entries.lookup m := by
  induction entries with
  | nil => simp
  | cons hd tl ih =>
    obtain ⟨k, v⟩ := hd
    by_cases hk : k = l
    · by_cases hm : m = l
      · simpa [hk, hm] using ih
      · have hb : (m == l) = false := by simpa using hm
        simpa [hk, hm, List.lookup_cons, hb] using ih
    · by_cases hm : m = k
      · simp [hm, hk]
      · have hb : (m == k) = false := by simpa using hm
        simpa [hk, List.lookup_cons, hb] using ih

theorem entry?_put (hl : l ≠ []) : entry? (t.put l e) m = if m = l then some e else t.entry? m := by
  have hf := lookup_filter_ne t.entries l m
  by_cases hm : m = l
  · simp [put, entry?, hm, hl]
  · have hb : (m == l) = false := by simpa using hm
    rw [if_neg hm] at hf
    simp only [put, entry?, List.lookup_cons, hb, hf, hm, if_false]

theorem entry?_without (hl : l ≠ []) :
    entry? (t.without l) m = if m = l then none else t.entry? m := by
  have hf := lookup_filter_ne t.entries l m
  by_cases hm : m = l
  · rw [if_pos hm] at hf
    simp only [without, entry?, hm, hl, if_false, if_true] at hf ⊢
    exact hf
  · rw [if_neg hm] at hf
    simp only [without, entry?, hf, hm, if_false]

@[simp] theorem workDir_put : (t.put l e).workDir = t.workDir := rfl
@[simp] theorem workDir_without : (t.without l).workDir = t.workDir := rfl

def stepTo (l : Location) (part : String) : Location :=
  if part = "." then l else if part = ".." then l.dropLast else l ++ [part]

/-- The location that a path names, whether or not all on the way to it is there. -/
def place (t : FileTree) (path : String) : Location := (Path.parts path).foldl stepTo (t.start path)

def walk (l : Location) : List String → List Location
  | [] => []
  | part :: rest => stepTo l part :: walk (stepTo l part) rest

def leaves (l : Location) : List String → List Location
  | [] => []
  | part :: rest => (if part = ".." then [l] else []) ++ leaves (stepTo l part) rest

theorem stepTo_name {part : String} (h : part ≠ ".") (h' : part ≠ "..") :
    stepTo l part = l ++ [part] := by
  simp [stepTo, h, h']

theorem follow?_eq_some {part : String} (h : t.follow? l part = some m) :
    t.isDirectoryAt l = true ∧ m = stepTo l part := by
  unfold follow? at h
  unfold stepTo
  by_cases hd : t.isDirectoryAt l = true
  · refine ⟨hd, ?_⟩
    simp only [hd, Bool.not_true, Bool.false_eq_true, if_false] at h
    split_ifs at h ⊢ <;> simp_all
  · simp [hd] at h

/-- A part leads to the same place in every tree that has the same directories and more. -/
theorem follow?_mono (hd : ∀ l, t.isDirectoryAt l = true → u.isDirectoryAt l = true) {part : String}
    (h : t.follow? l part = some m) : u.follow? l part = some m := by
  have ht := (follow?_eq_some h).1
  simpa [follow?, ht, hd l ht] using h

theorem foldlM_follow?_eq {ps : List String} (h : ps.foldlM t.follow? l = some m) :
    m = ps.foldl stepTo l := by
  induction ps generalizing l with
  | nil => simpa using h.symm
  | cons p ps ih =>
    obtain ⟨k, hk, h⟩ := Option.bind_eq_some_iff.mp (by simpa using h)
    rw [List.foldl_cons, ← (follow?_eq_some hk).2]
    exact ih h

theorem foldlM_follow?_mono (hd : ∀ l, t.isDirectoryAt l = true → u.isDirectoryAt l = true)
    {ps : List String} (h : ps.foldlM t.follow? l = some m) : ps.foldlM u.follow? l = some m := by
  induction ps generalizing l with
  | nil => simpa using h
  | cons p ps ih =>
    obtain ⟨k, hk, h⟩ := Option.bind_eq_some_iff.mp (by simpa using h)
    simpa [follow?_mono hd hk] using ih h

theorem foldlM_follow?_of_walk {ps : List String} (h : ps.foldlM u.follow? l = some m)
    (hd : ∀ k ∈ l :: walk l ps, t.isDirectoryAt k = true) : ps.foldlM t.follow? l = some m := by
  induction ps generalizing l with
  | nil => simpa using h
  | cons p ps ih =>
    obtain ⟨k, hk, h⟩ := Option.bind_eq_some_iff.mp (by simpa using h)
    obtain ⟨hu, hstep⟩ := follow?_eq_some hk
    have hk' : t.follow? l p = some k := by
      simpa [follow?, hu, hd l (by simp)] using hk
    have hrest := ih h fun j hj => by
      rw [hstep] at hj
      exact hd j (List.mem_cons_of_mem l hj)
    simpa [hk'] using hrest

theorem locate?_eq_some (h : t.locate? path = some l) : l = t.place path := by
  unfold locate? at h
  split at h
  · simp at h
  · exact foldlM_follow?_eq h

theorem locateFile?_eq_some (h : t.locateFile? path = some l) :
    Path.namesDirectory path = false ∧ t.locate? path = some l := by
  unfold locateFile? at h
  split at h <;> simp_all

theorem dropLast_mem_walk_of_mem_leaves {ps : List String} (h : m ∈ leaves l ps) :
    m.dropLast ∈ walk l ps := by
  induction ps generalizing l with
  | nil => simp [leaves] at h
  | cons p ps ih =>
    rcases List.mem_append.mp h with h | h
    · by_cases hp : p = ".."
      · simp only [hp, if_true, List.mem_singleton] at h
        simp [walk, stepTo, hp, h]
      · simp [hp] at h
    · exact List.mem_cons_of_mem _ (ih h)

theorem leaves_eq_nil {ps : List String} (h : ".." ∉ ps) : leaves l ps = [] := by
  induction ps generalizing l with
  | nil => rfl
  | cons p ps ih =>
    obtain ⟨hne, hrest⟩ := not_or.mp (mt List.mem_cons.mpr h)
    rw [leaves, if_neg (Ne.symm hne), ih hrest, List.append_nil]

theorem mem_leaves_append {ps qs : List String} (h : m ∈ leaves l ps) :
    m ∈ leaves l (ps ++ qs) := by
  induction ps generalizing l with
  | nil => simp [leaves] at h
  | cons p ps ih =>
    rcases List.mem_append.mp h with h | h
    · exact List.mem_append_left _ h
    · exact List.mem_append_right _ (ih h)

/-- A way on which only directories were left by two dots leads through nothing but the directories
that its end is in. -/
theorem isPrefix_or_mem_leaves {ps : List String} (h : m ∈ l :: walk l ps) :
    m <+: ps.foldl stepTo l ∨ m ∈ leaves l ps := by
  induction ps generalizing l m with
  | nil =>
    have he : m = l := by simpa [walk] using h
    exact .inl (by simp [he])
  | cons p ps ih =>
    have hlift : m ∈ stepTo l p :: walk (stepTo l p) ps →
        m <+: (p :: ps).foldl stepTo l ∨ m ∈ leaves l (p :: ps) := by
      intro hm
      exact (ih hm).imp_right fun hv => List.mem_append_right _ hv
    rcases List.mem_cons.mp h with rfl | h
    · by_cases hdots : p = ".."
      · exact .inr (by simp [leaves, hdots])
      by_cases hdot : p = "."
      · exact hlift (by simp [stepTo, hdot])
      have hs := stepTo_name (l := m) hdot hdots
      rcases ih (l := stepTo m p) (m := stepTo m p) (by simp) with hpre | hleft
      · exact .inl (List.IsPrefix.trans (by simp [hs]) hpre)
      · -- the name is left again, so the way comes back to where it was
        have hback := dropLast_mem_walk_of_mem_leaves hleft
        rw [hs, List.dropLast_concat, ← hs] at hback
        exact hlift (List.mem_cons_of_mem _ hback)
    · exact hlift h

/-- The other tree starts relative paths at the same place and has all directories of the first
one. -/
structure KeepsDirectories (t u : FileTree) : Prop where
  workDir : u.workDir = t.workDir
  directory : ∀ l, t.isDirectoryAt l = true → u.isDirectoryAt l = true

namespace KeepsDirectories

@[simp] theorem refl (t : FileTree) : KeepsDirectories t t := ⟨rfl, fun _ h => h⟩

theorem trans {v : FileTree} (h : KeepsDirectories t u) (h' : KeepsDirectories u v) :
    KeepsDirectories t v :=
  ⟨h'.workDir.trans h.workDir, fun l hl => h'.directory l (h.directory l hl)⟩

theorem start_eq (h : KeepsDirectories t u) (path : String) : u.start path = t.start path := by
  simp [start, h.workDir]

theorem place_eq (h : KeepsDirectories t u) (path : String) : u.place path = t.place path := by
  simp [place, h.start_eq]

theorem locate? (h : KeepsDirectories t u) (hl : t.locate? path = some l) :
    u.locate? path = some l := by
  unfold FileTree.locate? at hl ⊢
  split_ifs at hl ⊢
  rw [h.start_eq]
  exact foldlM_follow?_mono h.directory hl

theorem locateFile? (h : KeepsDirectories t u) (hl : t.locateFile? path = some l) :
    u.locateFile? path = some l := by
  obtain ⟨hn, hl⟩ := locateFile?_eq_some hl
  simp [FileTree.locateFile?, hn, h.locate? hl]

theorem of_put (hl : t.isDirectoryAt l = false) : KeepsDirectories t (t.put l e) where
  workDir := rfl
  directory m hm := by
    have hne : m ≠ l := by
      rintro rfl
      simp [hl] at hm
    rw [isDirectoryAt_iff] at hm ⊢
    rw [entry?_put (ne_nil_of_not_directory hl), if_neg hne, hm]

theorem of_without (hl : t.isDirectoryAt l = false) : KeepsDirectories t (t.without l) where
  workDir := rfl
  directory m hm := by
    have hne : m ≠ l := by
      rintro rfl
      simp [hl] at hm
    rw [isDirectoryAt_iff] at hm ⊢
    rw [entry?_without (ne_nil_of_not_directory hl), if_neg hne, hm]

end KeepsDirectories

theorem not_directory_of_file (h : t.entry? l = some (.file c)) : t.isDirectoryAt l = false := by
  simp [isDirectoryAt, h]

theorem not_directory_of_none (h : t.entry? l = none) : t.isDirectoryAt l = false := by
  simp [isDirectoryAt, h]

/-- The other tree differs from the first one in nothing but directories where the first one has
nothing, at locations that meet a condition. -/
structure AddsDirectories (t u : FileTree) (made : Location → Prop) : Prop where
  workDir : u.workDir = t.workDir
  entry : ∀ m, u.entry? m = t.entry? m ∨ (t.entry? m = none ∧ u.entry? m = some .directory ∧ made m)

namespace AddsDirectories

variable {made made' : Location → Prop}

theorem refl (t : FileTree) (made : Location → Prop) : AddsDirectories t t made :=
  ⟨rfl, fun _ => .inl rfl⟩

theorem keepsDirectories (h : AddsDirectories t u made) : KeepsDirectories t u := by
  refine ⟨h.workDir, fun m hm => ?_⟩
  rw [isDirectoryAt_iff] at hm ⊢
  rcases h.entry m with he | ⟨-, hd, -⟩
  · rw [he, hm]
  · exact hd

theorem imp (h : AddsDirectories t u made) (hm : ∀ m, t.entry? m = none → made m → made' m) :
    AddsDirectories t u made' :=
  ⟨h.workDir, fun m => (h.entry m).imp_right fun ⟨hn, hd, hw⟩ => ⟨hn, hd, hm m hn hw⟩⟩

end AddsDirectories

theorem makeDirsAt_adds (t : FileTree) (l : Location) (ps : List String) :
    AddsDirectories t (t.makeDirsAt l ps).1 (· ∈ walk l ps) := by
  induction ps generalizing t l with
  | nil => exact .refl t _
  | cons p ps ih =>
    unfold makeDirsAt
    cases hf : t.follow? l p with
    | none => exact .refl t _
    | some next =>
      have hn : next = stepTo l p := (follow?_eq_some hf).2
      have hwalk : ∀ m ∈ walk next ps, m ∈ walk l (p :: ps) := fun m hm =>
        List.mem_cons_of_mem _ (hn ▸ hm)
      simp only
      cases hk : t.entry? next with
      | none =>
        have hnil : next ≠ [] := ne_nil_of_not_directory (not_directory_of_none hk)
        have hi := ih (t.put next .directory) next
        refine ⟨hi.workDir, fun m => ?_⟩
        have hm := hi.entry m
        rw [entry?_put hnil] at hm
        -- what is made further on is judged in a tree that has `next`
        by_cases he : m = next
        · rw [if_pos he] at hm
          rcases hm with hm | ⟨hm, -, -⟩
          · exact .inr ⟨he ▸ hk, hm, by simp [walk, he, hn]⟩
          · simp at hm
        · rw [if_neg he] at hm
          exact hm.imp_right fun ⟨h, h', hw⟩ => ⟨h, h', hwalk m hw⟩
      | some entry =>
        cases entry with
        | file _ => exact .refl t _
        | directory => exact (ih t next).imp fun m _ => hwalk m

theorem makeDirs_adds (t : FileTree) (dir : String) :
    AddsDirectories t (t.makeDirs dir).1 (· ∈ walk (t.start dir) (Path.parts dir)) := by
  unfold makeDirs
  split_ifs
  · exact .refl t _
  · exact .refl t _
  · exact makeDirsAt_adds t _ _

theorem makeDirs_congr {d e : String} (hp : Path.parts d = Path.parts e)
    (ha : Path.isAbsolute d = Path.isAbsolute e) : t.makeDirs d = t.makeDirs e := by
  have hempty : d = "" ↔ e = "" := by rw [Path.eq_empty_iff, Path.eq_empty_iff, hp, ha]
  have hnull : '\x00' ∈ d.toList ↔ '\x00' ∈ e.toList := by
    rw [← Path.exists_mem_parts (by decide) (by decide), hp,
      Path.exists_mem_parts (by decide) (by decide)]
  simp only [makeDirs, start, hempty, List.contains_iff_mem, hnull, hp, ha]

theorem writeText_cases (t : FileTree) (path text : String) :
    t.writeText path text = (t, false) ∨
      ∃ l, t.locateFile? path = some l ∧ t.isDirectoryAt l = false ∧
        t.isDirectoryAt l.dropLast = true ∧
        t.writeText path text = (t.put l (.file (.text text)), true) := by
  unfold writeText writeContent
  cases hl : t.locateFile? path with
  | none => exact .inl rfl
  | some l =>
    by_cases hd : t.isDirectoryAt l || !t.isDirectoryAt l.dropLast
    · exact .inl (by simp only [hd, if_true])
    · have hn : t.isDirectoryAt l = false ∧ t.isDirectoryAt l.dropLast = true := by simp_all
      exact .inr ⟨l, rfl, hn.1, hn.2, by simp only [hd, if_false, Bool.false_eq_true]⟩

theorem moveFile_cases (t : FileTree) (source target : String) :
    t.moveFile source target = (t, false) ∨
      ∃ a b c, t.locateFile? source = some a ∧ t.locateFile? target = some b ∧
        t.entry? a = some (.file c) ∧ t.isDirectoryAt b = false ∧
        t.isDirectoryAt b.dropLast = true ∧
        t.moveFile source target = ((t.without a).put b (.file c), true) := by
  unfold moveFile
  split
  · rename_i a b ha hb
    split
    · rename_i c hc
      by_cases hd : t.isDirectoryAt b || !t.isDirectoryAt b.dropLast
      · exact .inl (by simp only [hd, if_true])
      · have hn : t.isDirectoryAt b = false ∧ t.isDirectoryAt b.dropLast = true := by simp_all
        exact .inr ⟨a, b, c, ha, hb, hc, hn.1, hn.2, by simp only [hd, if_false, Bool.false_eq_true]⟩
    · exact .inl rfl
  · exact .inl rfl

theorem moveFile_eq {source target : String} (hs : t.locateFile? source = some a)
    (ht : t.locateFile? target = some b) (hc : t.entry? a = some (.file c))
    (hb : t.isDirectoryAt b = false) (hp : t.isDirectoryAt b.dropLast = true) :
    t.moveFile source target = ((t.without a).put b (.file c), true) := by
  simp [moveFile, hs, ht, hc, hb, hp]

theorem entry?_moved (ha : t.entry? a = some (.file c)) (hb : t.isDirectoryAt b = false) :
    entry? ((t.without a).put b (.file c)) m =
      if m = b then some (.file c) else if m = a then none else t.entry? m := by
  rw [entry?_put (ne_nil_of_not_directory hb),
    entry?_without (ne_nil_of_not_directory (not_directory_of_file ha))]

theorem not_directory_without (ha : t.isDirectoryAt a = false) (hb : t.isDirectoryAt b = false) :
    isDirectoryAt (t.without a) b = false := by
  simp only [isDirectoryAt, decide_eq_false_iff_not] at hb ⊢
  rw [entry?_without (ne_nil_of_not_directory ha)]
  split <;> simp_all

theorem moved_keepsDirectories (ha : t.entry? a = some (.file c)) (hb : t.isDirectoryAt b = false) :
    KeepsDirectories t ((t.without a).put b (.file c)) := by
  have hna := not_directory_of_file ha
  exact (KeepsDirectories.of_without hna).trans (.of_put (not_directory_without hna hb))

theorem removeFile_cases (t : FileTree) (path : String) :
    t.removeFile path = (t, false) ∨
      ∃ l c, t.locateFile? path = some l ∧ t.entry? l = some (.file c) ∧
        t.removeFile path = (t.without l, true) := by
  unfold removeFile
  split
  · exact .inl rfl
  · rename_i l hl
    split
    · rename_i c hc
      exact .inr ⟨l, c, hl, hc, rfl⟩
    · exact .inl rfl

theorem removeFile_eq (hl : t.locateFile? path = some l) (hc : t.entry? l = some (.file c)) :
    t.removeFile path = (t.without l, true) := by
  simp [removeFile, hl, hc]

theorem readText_eq_some {s : String} :
    t.readText path = some s ↔
      ∃ l, t.locateFile? path = some l ∧ t.entry? l = some (.file (.text s)) := by
  unfold readText
  cases hl : t.locateFile? path with
  | none => simp
  | some l =>
    cases he : t.entry? l with
    | none => simp [he]
    | some e =>
      cases e with
      | directory => simp [he]
      | file c => cases c <;> simp [he]

/-- A text goes on being read where directories are kept and its place holds what it held. -/
theorem KeepsDirectories.readText {s : String} (h : KeepsDirectories t u)
    (he : u.entry? (t.place path) = t.entry? (t.place path)) (hr : t.readText path = some s) :
    u.readText path = some s := by
  obtain ⟨l, hl, hc⟩ := readText_eq_some.mp hr
  have hp : l = t.place path := locate?_eq_some (locateFile?_eq_some hl).2
  exact readText_eq_some.mpr ⟨l, h.locateFile? hl, by rw [hp, he, ← hp, hc]⟩

/-- All that an entry is in is a directory. -/
structure IsTree (t : FileTree) : Prop where
  inside : ∀ l m, l <+: m → l ≠ m → t.entry? m ≠ none → t.isDirectoryAt l = true

theorem isPrefix_dropLast_of_ne (h : l <+: m) (hne : l ≠ m) : l <+: m.dropLast := by
  obtain ⟨k, rfl⟩ := h
  have hk : k ≠ [] := by
    rintro rfl
    simp at hne
  rw [List.dropLast_append_of_ne_nil hk]
  exact List.prefix_append l _

theorem entry?_atWork : entry? (atWork l) m = if m <+: l then some .directory else none := by
  have hlookup : ∀ ns : List Nat, (ns.map fun n => (l.take (n + 1), FileEntry.directory)).lookup m =
      if ∃ n ∈ ns, m = l.take (n + 1) then some .directory else none := by
    intro ns
    induction ns with
    | nil => simp
    | cons n ns ih =>
      by_cases hm : m = l.take (n + 1)
      · simp [hm]
      · have hb : (m == l.take (n + 1)) = false := by simpa using hm
        simp only [List.map_cons, List.lookup_cons, hb, ih]
        simp [hm]
  have hmem : (∃ n ∈ List.range l.length, m = l.take (n + 1)) ↔ m ≠ [] ∧ m <+: l := by
    constructor
    · rintro ⟨n, hn, rfl⟩
      have hn : n < l.length := by simpa using hn
      refine ⟨fun he => ?_, List.take_prefix _ _⟩
      have hlen := congrArg List.length he
      simp only [List.length_take, List.length_nil] at hlen
      omega
    · rintro ⟨hne, hp⟩
      have hpos := List.length_pos_iff.mpr hne
      have hle := hp.length_le
      refine ⟨m.length - 1, by simp; omega, ?_⟩
      rw [Nat.sub_add_cancel hpos]
      exact List.prefix_iff_eq_take.mp hp
  by_cases hm : m = []
  · simp [hm]
  · simp only [atWork, entry?, hm, if_false, hlookup, hmem]
    simp [hm]

theorem isTree_atWork (l : Location) : (atWork l).IsTree := by
  refine ⟨fun k m hk _ hm => ?_⟩
  rw [entry?_atWork] at hm
  rw [isDirectoryAt_iff, entry?_atWork]
  by_cases hp : m <+: l
  · rw [if_pos (hk.trans hp)]
  · simp [hp] at hm

namespace IsTree

theorem of_isPrefix (h : t.IsTree) (hd : t.isDirectoryAt m = true) (hl : l <+: m) :
    t.isDirectoryAt l = true := by
  by_cases he : l = m
  · rw [he, hd]
  · exact h.inside l m hl he (by simp [isDirectoryAt_iff.mp hd])

theorem put (h : t.IsTree) (hl : t.isDirectoryAt l.dropLast = true)
    (hn : t.isDirectoryAt l = false) :
    (t.put l e).IsTree := by
  refine ⟨fun k m hk hne hm => ?_⟩
  have hnil := ne_nil_of_not_directory hn
  rw [entry?_put hnil] at hm
  have hd : t.isDirectoryAt k = true := by
    by_cases hml : m = l
    · rw [hml] at hk hne
      exact h.of_isPrefix hl (isPrefix_dropLast_of_ne hk hne)
    · rw [if_neg hml] at hm
      exact h.inside k m hk hne hm
  exact (KeepsDirectories.of_put hn).directory k hd

theorem without (h : t.IsTree) (hn : t.isDirectoryAt l = false) : (t.without l).IsTree := by
  refine ⟨fun k m hk hne hm => ?_⟩
  have hnil := ne_nil_of_not_directory hn
  rw [entry?_without hnil] at hm
  have hm' : t.entry? m ≠ none := fun he => hm (by simp [he])
  exact (KeepsDirectories.of_without hn).directory k (h.inside k m hk hne hm')

theorem makeDirsAt (h : t.IsTree) {l : Location} {ps : List String} :
    (t.makeDirsAt l ps).1.IsTree := by
  induction ps generalizing t l with
  | nil => exact h
  | cons p ps ih =>
    unfold FileTree.makeDirsAt
    cases hf : t.follow? l p with
    | none => exact h
    | some next =>
      obtain ⟨hd, hn⟩ := follow?_eq_some hf
      simp only
      cases hk : t.entry? next with
      | none =>
        have hnext : t.isDirectoryAt next = false := not_directory_of_none hk
        -- a dot or two lead to a directory that is there
        have hdot : p ≠ "." := by
          rintro rfl
          simp [hn, stepTo, hd] at hnext
        have hdots : p ≠ ".." := by
          rintro rfl
          have hup := h.of_isPrefix hd l.dropLast_prefix
          simp [hn, stepTo, hup] at hnext
        refine ih (h.put ?_ hnext)
        rw [hn, stepTo_name hdot hdots, List.dropLast_concat, hd]
      | some entry =>
        cases entry with
        | file _ => exact h
        | directory => exact ih h

theorem makeDirs (h : t.IsTree) (dir : String) : (t.makeDirs dir).1.IsTree := by
  unfold FileTree.makeDirs
  split_ifs
  · exact h
  · exact h
  · exact h.makeDirsAt

theorem writeText (h : t.IsTree) (path text : String) : (t.writeText path text).1.IsTree := by
  rcases writeText_cases t path text with hw | ⟨l, -, hl, hd, hw⟩
  · simpa only [hw] using h
  · rw [hw]
    exact h.put hd hl

theorem moveFile (h : t.IsTree) (source target : String) : (t.moveFile source target).1.IsTree := by
  rcases moveFile_cases t source target with hw | ⟨a, b, c, -, -, ha, hb, hd, hw⟩
  · simpa only [hw] using h
  · rw [hw]
    have hna := not_directory_of_file ha
    have hkeep := KeepsDirectories.of_without hna
    exact (h.without hna).put (hkeep.directory _ hd) (not_directory_without hna hb)

theorem removeFile (h : t.IsTree) (path : String) : (t.removeFile path).1.IsTree := by
  rcases removeFile_cases t path with hw | ⟨l, c, -, hc, hw⟩
  · simpa only [hw] using h
  · rw [hw]
    exact h.without (not_directory_of_file hc)

end IsTree

end CommandGen.FileTree
