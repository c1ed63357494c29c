import CommandGen.Output.Files
import CommandGen.Proofs.Files.Commit

/-! The generated files in a directory: which locations they and their hidden files have, and when
these are apart. -/
namespace CommandGen

def OutputFile.inDir (dir : String) (p : OutputFile) : OutputFile :=
  ⟨Path.join dir p.path, p.content⟩

theorem Generator.files_eq (g : Generator) (dir : String) :
    g.files dir = g.preview.map (·.map (OutputFile.inDir dir)) := by
  unfold preview files
  split <;> simp [OutputFile.inDir, Path.join, Except.map]

theorem Generator.path_of_preview {g : Generator} {ps : List OutputFile} (h : g.preview = .ok ps) :
    ps.map (·.path) = g.outputs.toList := by
  unfold preview files at h
  split at h
  · cases h
  · cases h
    simp [OutputNames.toList, Path.join]

theorem Generator.run_generate {g : Generator} {ps : List OutputFile} (h : g.preview = .ok ps)
    (dir : String) (t : FileTree) : (g.generate dir).run t =
      (((commit (ps.map (OutputFile.inDir dir))).run t).1.mapError .commit,
        ((commit (ps.map (OutputFile.inDir dir))).run t).2) := by
  have hfiles : g.files dir = .ok (ps.map (OutputFile.inDir dir)) := by rw [files_eq, h]; rfl
  simp only [generate, hfiles, FileProgram.run_bind]
  cases ((commit (ps.map (OutputFile.inDir dir))).run t).1 <;> rfl

theorem Generator.run_generate_error {g : Generator} {e : GenerateError} (h : g.preview = .error e)
    (dir : String) (t : FileTree) : (g.generate dir).run t = (.error e, t) := by
  have hfiles : g.files dir = .error e := by rw [files_eq, h]; rfl
  simp [generate, hfiles]

namespace FileTree

open FileProgram

variable {t u : FileTree} {dir : String} {p q : OutputFile} {ps : List OutputFile} {l m : Location}

/-- The directories that a path leads through, with the one where it starts. -/
def lane (t : FileTree) (dir : String) : List Location :=
  t.start dir :: walk (t.start dir) (Path.parts dir)

section

variable (hn : Path.IsName p.path)
include hn

theorem parts_inDir : Path.parts (p.inDir dir).path = Path.parts dir ++ [p.path] :=
  Path.parts_join hn.ne_empty hn.ne_dot hn.no_slash

theorem isAbsolute_inDir : Path.isAbsolute (p.inDir dir).path = Path.isAbsolute dir :=
  Path.isAbsolute_join hn.no_slash

theorem fileName?_inDir (dir : String) : Path.fileName? (p.inDir dir).path = some p.path :=
  Path.fileName?_join hn

theorem start_inDir : t.start (p.inDir dir).path = t.start dir := by
  simp [start, isAbsolute_inDir hn]

theorem home_inDir : t.home (p.inDir dir) = t.place dir := by
  simp [home, place, start_inDir hn, parts_inDir hn]

theorem spots_inDir : t.spots (p.inDir dir) =
    [p.path, Path.hiddenName p.path "tmp", Path.hiddenName p.path "bak"].map (t.place dir ++ [·]) := by
  obtain ⟨hp, hs, hb⟩ := place_of_fileName (t := t) (fileName?_inDir hn dir)
  simp [spots, hp, hs, hb, home_inDir hn]

theorem place_inDir : t.place (p.inDir dir).path = t.place dir ++ [p.path] := by
  rw [(place_of_fileName (fileName?_inDir hn dir)).1, home_inDir hn]

theorem place_staging_inDir :
    t.place (p.inDir dir).staging = t.place dir ++ [Path.hiddenName p.path "tmp"] := by
  rw [(place_of_fileName (fileName?_inDir hn dir)).2.1, home_inDir hn]

theorem leaves_inDir : leaves (t.start (p.inDir dir).path) (Path.parts (p.inDir dir).path) =
    leaves (t.start dir) (Path.parts dir) := by
  rw [start_inDir hn, parts_inDir hn]
  generalize t.start dir = l
  induction Path.parts dir generalizing l with
  | nil => simp [leaves, hn.ne_dots]
  | cons part rest ih => simp [leaves, ih]

end

theorem leaves_subset_lane (l : Location) (parts : List String) :
    leaves l parts ⊆ l :: walk l parts := by
  induction parts generalizing l with
  | nil => simp [leaves]
  | cons part rest ih =>
    intro m hm
    rcases List.mem_append.mp hm with hm | hm
    · split at hm
      · simp_all
      · simp at hm
    · exact List.mem_cons_of_mem l (ih _ hm)

theorem apart_names (d : Location) {names : List String} (h : names.Nodup) :
    Apart (names.map (d ++ [·])) := by
  refine List.pairwise_map.mpr (h.imp fun {a b} hab => ?_)
  have hne : ∀ x y : String, x ≠ y → ¬ d ++ [x] <+: d ++ [y] := by
    intro x y hxy hp
    have he := hp.eq_of_length (by simp)
    simp [hxy] at he
  exact ⟨hne a b hab, hne b a hab.symm⟩

def NoHidden (names : List String) : Prop :=
  ∀ a ∈ names, Path.hiddenName a "tmp" ∉ names ∧ Path.hiddenName a "bak" ∉ names

/-- Names differ from each other and from those of all hidden files if they are distinct and none is
that of a hidden file. -/
theorem nodup_spotNames_iff {names : List String} :
    (spotNames names).Nodup ↔ names.Nodup ∧ NoHidden names := by
  constructor
  · intro h
    obtain ⟨-, hpairs⟩ := List.nodup_flatMap.mp h
    have hsymm : Std.Symm (Function.onFun List.Disjoint fun n : String =>
        [n, Path.hiddenName n "tmp", Path.hiddenName n "bak"]) := ⟨fun _ _ h _ hx hy => h hy hx⟩
    refine ⟨hpairs.imp fun {a b} hab he => ?_, fun a ha => ⟨fun hb => ?_, fun hb => ?_⟩⟩
    · have hm : a ∈ [a, Path.hiddenName a "tmp", Path.hiddenName a "bak"] := by simp
      exact hab hm (he ▸ hm)
    · have hapart := hpairs.forall ha hb (Path.ne_hiddenName a "tmp")
      exact @hapart (Path.hiddenName a "tmp") (by simp) (by simp)
    · have hapart := hpairs.forall ha hb (Path.ne_hiddenName a "bak")
      exact @hapart (Path.hiddenName a "bak") (by simp) (by simp)
  · rintro ⟨hd, hh⟩
    refine List.nodup_flatMap.mpr ⟨fun n _ => ?_, ?_⟩
    · simp [Path.ne_hiddenName, Path.hiddenName_ne]
    · refine hd.pairwise_of_forall_ne fun a ha b hb hab => ?_
      have hinj := fun suffix => (Path.hiddenName_injective suffix).ne hab
      have ha' := hh a ha
      have hb' := hh b hb
      intro x hx hy
      simp only [List.mem_cons, List.not_mem_nil, or_false] at hx hy
      rcases hx with rfl | rfl | rfl <;> rcases hy with hy | hy | hy <;>
        simp_all [Path.hiddenName_ne, (Path.hiddenName_ne _ _).symm]

theorem flatMap_spots_inDir (hn : ∀ p ∈ ps, Path.IsName p.path) :
    (ps.map (OutputFile.inDir dir)).flatMap t.spots = t.spotsIn dir (ps.map (·.path)) := by
  rw [spotsIn, spotNames, List.flatMap_map, List.flatMap_map, List.map_flatMap]
  exact List.flatMap_congr fun p hp => spots_inDir (hn p hp)

/-- Files with distinct names in a directory that is there are admitted, unless one has the name of
the hidden file of another. -/
theorem admits_inDir (hn : ∀ p ∈ ps, Path.IsName p.path) (hd : (ps.map (·.path)).Nodup)
    (hh : NoHidden (ps.map (·.path))) (hl : ∀ l ∈ t.lane dir, t.isDirectoryAt l = true) :
    t.Admits (ps.map (OutputFile.inDir dir)) := by
  refine .of_apart ?_ fun f hf l hleft => ?_
  · rw [flatMap_spots_inDir hn]
    exact apart_names _ (nodup_spotNames_iff.mpr ⟨hd, hh⟩)
  · obtain ⟨p, hp, rfl⟩ := List.mem_map.mp hf
    rw [leaves_inDir (hn p hp)] at hleft
    exact hl l (leaves_subset_lane _ _ hleft)

end FileTree

end CommandGen
