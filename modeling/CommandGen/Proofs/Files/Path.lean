import CommandGen.Files.Path
import CommandGen.Proofs.Text.Pieces

/-! The parts of paths that are put together: of a name below a directory, and of the hidden paths
beside a file. -/
namespace CommandGen

namespace Path

/-- A name that an entry of a directory can have: neither empty nor a dot or two, and without a
slash. -/
structure IsName (name : String) : Prop where
  ne_empty : name ≠ ""
  ne_dot : name ≠ "."
  ne_dots : name ≠ ".."
  no_slash : '/' ∉ name.toList

instance (name : String) : Decidable (IsName name) :=
  decidable_of_iff (name ≠ "" ∧ name ≠ "." ∧ name ≠ ".." ∧ '/' ∉ name.toList)
    ⟨fun ⟨h, hd, hdd, hs⟩ => ⟨h, hd, hdd, hs⟩, fun h => ⟨h.ne_empty, h.ne_dot, h.ne_dots, h.no_slash⟩⟩

theorem pieces_slash (s t : List Char) :
    pieces (String.ofList (s ++ '/' :: t)) = pieces (String.ofList s) ++ pieces (String.ofList t) := by
  simp [pieces, Text.pieces_append]

theorem pieces_append_slash (a b : String) : pieces (a ++ "/" ++ b) = pieces a ++ pieces b := by
  have h := pieces_slash a.toList b.toList
  simpa [← String.toList_inj, pieces] using h

theorem pieces_of_no_slash {name : String} (h : '/' ∉ name.toList) : pieces name = [name] := by
  unfold pieces
  rw [Text.pieces_eq_singleton]
  · simp
  · intro c hc
    simpa using fun e : c = '/' => h (e ▸ hc)

theorem pieces_ne_nil (path : String) : pieces path ≠ [] := by
  simp [pieces, Text.pieces_ne_nil]

theorem no_slash_of_mem_pieces {path piece : String} (h : piece ∈ pieces path) :
    '/' ∉ piece.toList := by
  obtain ⟨s, hs, rfl⟩ := List.mem_map.mp h
  intro hc
  have := Text.not_sep_of_mem_pieces hs '/' (by simpa using hc)
  simp at this

theorem parts_eq {path first : String} {rest : List String} (h : pieces path = first :: rest) :
    parts path = (if first = "" then [] else [first]) ++ rest.filter fun part =>
      part ≠ "" && part ≠ "." := by
  simp [parts, h]

theorem parts_of_pieces {path dir : String} {more : List String}
    (h : pieces path = pieces dir ++ more) :
    parts path = parts dir ++ more.filter fun part => part ≠ "" && part ≠ "." := by
  cases hd : pieces dir with
  | nil => exact absurd hd (pieces_ne_nil dir)
  | cons first rest =>
    rw [hd] at h
    rw [parts_eq hd, parts_eq (by simpa using h), List.filter_append, List.append_assoc]

theorem isAbsolute_eq_false {name : String} (h : '/' ∉ name.toList) : isAbsolute name = false := by
  simp only [isAbsolute, decide_eq_false_iff_not]
  exact fun e => h (List.mem_of_mem_head? e)

/-- The pieces of a name below a directory are those of the directory and the name, but for an empty
piece at the end of the directory. -/
theorem pieces_join (dir : String) {name : String} (hs : '/' ∉ name.toList) :
    (dir = "" ∧ join dir name = name) ∨ pieces (join dir name) = pieces dir ++ [name] ∨
      ∃ d, dir = d ++ "/" ∧ pieces (join dir name) = pieces d ++ [name] := by
  have ha := isAbsolute_eq_false hs
  by_cases hd : dir = ""
  · exact .inl ⟨hd, by simp [join, hd]⟩
  by_cases hl : dir.toList.getLast? = some '/'
  · obtain ⟨ds, he⟩ := List.getLast?_eq_some_iff.mp hl
    have hdir : dir = String.ofList ds ++ "/" := by simp [← String.toList_inj, he]
    have hj : join dir name = dir ++ name := by simp [join, ha, hd, hl]
    refine .inr (.inr ⟨String.ofList ds, hdir, ?_⟩)
    rw [hj, hdir, pieces_append_slash, pieces_of_no_slash hs]
  · have hj : join dir name = dir ++ "/" ++ name := by simp [join, ha, hd, hl]
    exact .inr (.inl (by rw [hj, pieces_append_slash, pieces_of_no_slash hs]))

@[simp] theorem pieces_empty : pieces "" = [""] := by decide
@[simp] theorem parts_empty : parts "" = [] := by decide

theorem parts_join {dir name : String} (hne : name ≠ "") (hd : name ≠ ".")
    (hs : '/' ∉ name.toList) :
    parts (join dir name) = parts dir ++ [name] := by
  rcases pieces_join dir hs with ⟨rfl, hj⟩ | hj | ⟨d, rfl, hj⟩
  · rw [hj, parts_eq (pieces_of_no_slash hs)]
    simp [hne]
  · rw [parts_of_pieces hj]
    simp [hne, hd]
  · have he := pieces_append_slash d ""
    rw [String.append_empty, pieces_empty] at he
    rw [parts_of_pieces hj, parts_of_pieces he]
    simp [hne, hd]

theorem isAbsolute_append {a b : String} (h : a ≠ "") : isAbsolute (a ++ b) = isAbsolute a := by
  have hl : a.toList ≠ [] := mt String.toList_eq_nil_iff.mp h
  cases ha : a.toList with
  | nil => exact absurd ha hl
  | cons c cs => simp [isAbsolute, ha]

theorem isAbsolute_join {dir name : String} (hs : '/' ∉ name.toList) :
    isAbsolute (join dir name) = isAbsolute dir := by
  have ha := isAbsolute_eq_false hs
  unfold join
  by_cases hd : dir = ""
  · simpa [hd, isAbsolute] using ha
  · rw [if_neg (by simp [ha, hd])]
    split
    · exact isAbsolute_append hd
    · rw [String.append_assoc, isAbsolute_append hd]

theorem namesDirectory_join {dir name : String} (h : IsName name) :
    namesDirectory (join dir name) = false := by
  have hl : (pieces (join dir name)).getLast? = some name := by
    rcases pieces_join dir h.no_slash with ⟨rfl, hj⟩ | hj | ⟨d, rfl, hj⟩
    · simp [hj, pieces_of_no_slash h.no_slash]
    · simp [hj]
    · simp [hj]
  simp [namesDirectory, hl, h.ne_empty, h.ne_dot, h.ne_dots]

/-- Parts as they stand in a path: only the first one of a relative path can be a dot. -/
structure AreParts (absolute : Bool) (ps : List String) : Prop where
  ne_empty : ∀ p ∈ ps, p ≠ ""
  no_slash : ∀ p ∈ ps, '/' ∉ p.toList
  ne_dot : ∀ p ∈ (if absolute then ps else ps.tail), p ≠ "."

theorem AreParts.of_isPrefix {absolute : Bool} {ps qs : List String} (h : AreParts absolute ps)
    (hq : qs <+: ps) : AreParts absolute qs where
  ne_empty p hp := h.ne_empty p (hq.subset hp)
  no_slash p hp := h.no_slash p (hq.subset hp)
  ne_dot p hp := by
    apply h.ne_dot p
    cases absolute with
    | true => exact hq.subset hp
    | false =>
      obtain ⟨t, rfl⟩ := hq
      cases qs with
      | nil => simp at hp
      | cons q qs => exact List.mem_append_left t hp

theorem isAbsolute_of_first {path first : String} {rest : List String}
    (h : pieces path = first :: rest) (hf : first ≠ "") : isAbsolute path = false := by
  cases hp : path.toList with
  | nil => simp [isAbsolute, hp]
  | cons c cs =>
    have hc : c ≠ '/' := by
      rintro rfl
      simp [pieces, hp, Text.pieces] at h
      exact hf h.1
    simpa [isAbsolute, hp] using hc

theorem areParts_parts (path : String) : AreParts (isAbsolute path) (parts path) := by
  cases hp : pieces path with
  | nil => exact absurd hp (pieces_ne_nil path)
  | cons first rest =>
    have hparts := parts_eq hp
    have hrest : ∀ p ∈ rest.filter (fun part => part ≠ "" && part ≠ "."), p ≠ "" ∧ p ≠ "." := by
      intro p h
      simpa using (List.mem_filter.mp h).2
    by_cases hf : first = ""
    · rw [if_pos hf, List.nil_append] at hparts
      rw [hparts]
      refine ⟨fun p h => (hrest p h).1, fun p h => ?_, fun p h => ?_⟩
      · exact no_slash_of_mem_pieces (hp ▸ List.mem_cons_of_mem _ (List.mem_filter.mp h |>.1))
      · split at h
        · exact (hrest p h).2
        · exact (hrest p (List.mem_of_mem_tail h)).2
    · rw [if_neg hf, List.singleton_append] at hparts
      have ha := isAbsolute_of_first hp hf
      rw [hparts, ha]
      refine ⟨fun p h => ?_, fun p h => ?_, fun p h => (hrest p h).2⟩
      · rcases List.mem_cons.mp h with rfl | h
        · exact hf
        · exact (hrest p h).1
      · have hm : p ∈ pieces path := by
          rw [hp]
          rcases List.mem_cons.mp h with rfl | h
          · simp
          · exact List.mem_cons_of_mem _ (List.mem_filter.mp h |>.1)
        exact no_slash_of_mem_pieces hm

theorem pieces_intercalate {ps : List String} (hne : ps ≠ []) (h : ∀ p ∈ ps, '/' ∉ p.toList) :
    pieces ("/".intercalate ps) = ps := by
  have hs : ∀ l ∈ ps.map String.toList, ∀ c ∈ l, (c == '/') = false := by
    intro l hl c hc
    obtain ⟨p, hp, rfl⟩ := List.mem_map.mp hl
    simpa using fun e : c = '/' => h p hp (e ▸ hc)
  have hne' : ps.map String.toList ≠ [] := by simpa using hne
  simp [pieces, Text.pieces_intercalate (p := (· == '/')) (c := '/') (by decide) hne' hs]

theorem pieces_slash_append (p : String) : pieces ("/" ++ p) = "" :: pieces p := by
  simpa using pieces_append_slash "" p

theorem filter_parts {ps : List String} (h : ∀ p ∈ ps, p ≠ "" ∧ p ≠ ".") :
    (ps.filter fun part => part ≠ "" && part ≠ ".") = ps :=
  List.filter_eq_self.mpr fun p hp => by simpa using h p hp

theorem parts_ofParts {absolute : Bool} {ps : List String} (h : AreParts absolute ps) :
    parts (ofParts absolute ps) = ps := by
  cases ps with
  | nil => cases absolute <;> decide
  | cons first rest =>
    have hp : pieces ("/".intercalate (first :: rest)) = first :: rest :=
      pieces_intercalate (by simp) h.no_slash
    have hrest : ∀ p ∈ rest, p ≠ "" ∧ p ≠ "." := fun p hp =>
      ⟨h.ne_empty p (by simp [hp]), h.ne_dot p (by split <;> simp [hp])⟩
    cases absolute with
    | true =>
      have hf : first ≠ "" ∧ first ≠ "." := ⟨h.ne_empty _ (by simp), h.ne_dot _ (by simp)⟩
      have hs : pieces (ofParts true (first :: rest)) = "" :: first :: rest := by
        simp [ofParts, pieces_slash_append, hp]
      rw [parts_eq hs, filter_parts (List.forall_mem_cons.mpr ⟨hf, hrest⟩)]
      rfl
    | false =>
      have hs : pieces (ofParts false (first :: rest)) = first :: rest := by
        simpa [ofParts] using hp
      rw [parts_eq hs, filter_parts hrest, if_neg (h.ne_empty first (by simp))]
      rfl

theorem isAbsolute_ofParts {absolute : Bool} {ps : List String} (h : AreParts absolute ps) :
    isAbsolute (ofParts absolute ps) = absolute := by
  cases absolute with
  | true => exact isAbsolute_append (by decide)
  | false =>
    cases ps with
    | nil => decide
    | cons first rest =>
      have hp : pieces ("/".intercalate (first :: rest)) = first :: rest :=
        pieces_intercalate (by simp) h.no_slash
      exact isAbsolute_of_first (by simpa [ofParts] using hp) (h.ne_empty first (by simp))

/-- A character stands in a path where it stands in one of the parts, unless paths are made with
it. -/
theorem exists_mem_parts {c : Char} (hs : c ≠ '/') (hd : c ≠ '.') (path : String) :
    (∃ p ∈ parts path, c ∈ p.toList) ↔ c ∈ path.toList := by
  have hkeep : ∀ p : String, c ∈ p.toList → p ≠ "" ∧ p ≠ "." := by
    intro p hc
    constructor
    · rintro rfl
      simp at hc
    · rintro rfl
      simp [hd] at hc
  have hpieces : (∃ p ∈ pieces path, c ∈ p.toList) ↔ c ∈ path.toList := by
    have h := @Text.exists_mem_pieces (· == '/') c (by simpa using hs) path.toList
    simpa [pieces] using h
  rw [← hpieces]
  cases hp : pieces path with
  | nil => exact absurd hp (pieces_ne_nil path)
  | cons first rest =>
    rw [parts_eq hp]
    constructor
    · rintro ⟨p, hm, hc⟩
      refine ⟨p, ?_, hc⟩
      rcases List.mem_append.mp hm with hm | hm
      · split at hm
        · simp at hm
        · simp_all
      · exact List.mem_cons_of_mem _ (List.mem_filter.mp hm).1
    · rintro ⟨p, hm, hc⟩
      refine ⟨p, ?_, hc⟩
      obtain ⟨hne, hnd⟩ := hkeep p hc
      rcases List.mem_cons.mp hm with rfl | hm
      · simp [hne]
      · exact List.mem_append_right _ (List.mem_filter.mpr ⟨hm, by simp [hne, hnd]⟩)

theorem eq_empty_iff (path : String) : path = "" ↔ parts path = [] ∧ isAbsolute path = false := by
  constructor
  · rintro rfl
    exact ⟨parts_empty, by decide⟩
  · rintro ⟨hp, ha⟩
    cases hl : path.toList with
    | nil => exact String.toList_eq_nil_iff.mp hl
    | cons c cs =>
      have hc : c ≠ '/' := by
        rintro rfl
        simp [isAbsolute, hl] at ha
      cases hs : pieces path with
      | nil => exact absurd hs (pieces_ne_nil path)
      | cons first rest =>
        have hf : first = "" := by
          by_contra hne
          simp [parts_eq hs, hne] at hp
        -- the first piece starts with the first character
        simp only [pieces, hl, Text.pieces, beq_iff_eq, hc, if_false] at hs
        split at hs <;> simp_all

theorem fileName?_eq_some {path name : String} (h : fileName? path = some name) :
    parts path = (parts path).dropLast ++ [name] ∧ IsName name := by
  obtain ⟨hl, hn⟩ := Option.filter_eq_some_iff.mp h
  have hm : name ∈ parts path := List.mem_of_getLast? hl
  have hp := areParts_parts path
  refine ⟨(List.dropLast_append_getLast? name hl).symm, hp.ne_empty name hm, ?_, ?_, hp.no_slash name hm⟩
  · rintro rfl
    simp at hn
  · rintro rfl
    simp at hn

theorem fileName?_join {dir name : String} (hn : IsName name) :
    fileName? (join dir name) = some name := by
  simp [fileName?, parts_join hn.ne_empty hn.ne_dot hn.no_slash, hn.ne_dot, hn.ne_dots]

def hiddenName (name suffix : String) : String := "." ++ name ++ "." ++ suffix

theorem toList_hiddenName (name suffix : String) :
    (hiddenName name suffix).toList = '.' :: (name.toList ++ '.' :: suffix.toList) := by
  simp [hiddenName]

theorem isName_hiddenName {name suffix : String} (hn : '/' ∉ name.toList) (hs : IsName suffix) :
    IsName (hiddenName name suffix) := by
  have hl := toList_hiddenName name suffix
  have hne : suffix.toList ≠ [] := mt String.toList_eq_nil_iff.mp hs.ne_empty
  constructor
  · intro he
    simp [he] at hl
  · intro he
    simp [he] at hl
  · intro he
    have hlen := congrArg List.length hl
    have hpos := List.length_pos_iff.mpr hne
    simp [he] at hlen
    omega
  · simp [hl, hn, hs.no_slash]

theorem hiddenName_injective (suffix : String) : Function.Injective (hiddenName · suffix) := by
  intro a b h
  have hl := congrArg String.toList h
  simp only [toList_hiddenName, List.cons.injEq, true_and] at hl
  exact String.toList_inj.mp (List.append_cancel_right hl)

theorem hiddenName_ne (name other : String) : hiddenName name "tmp" ≠ hiddenName other "bak" := by
  intro h
  have hl := congrArg (fun s : String => s.toList.getLast?) h
  simp [toList_hiddenName, List.getLast?_cons, List.getLast?_append] at hl

theorem ne_hiddenName (name suffix : String) : name ≠ hiddenName name suffix := by
  intro h
  have hl := congrArg (fun s : String => s.toList.length) h
  simp only [toList_hiddenName, List.length_cons, List.length_append] at hl
  omega

theorem sibling_eq {path name : String} (h : fileName? path = some name) (suffix : String) :
    sibling path suffix =
      join (ofParts (isAbsolute path) (parts path).dropLast) (hiddenName name suffix) := by
  obtain ⟨hp, -⟩ := fileName?_eq_some h
  have hd : parent? path = some (ofParts (isAbsolute path) (parts path).dropLast) := by
    unfold parent?
    split
    · rename_i he
      simp [he] at hp
    · rfl
  simp [sibling, withFileName, h, hd, hiddenName]

theorem parts_sibling {path name suffix : String} (h : fileName? path = some name)
    (hs : IsName suffix) :
    parts (sibling path suffix) = (parts path).dropLast ++ [hiddenName name suffix] := by
  have hn := isName_hiddenName (fileName?_eq_some h).2.no_slash hs
  rw [sibling_eq h, parts_join hn.ne_empty hn.ne_dot hn.no_slash]
  rw [parts_ofParts ((areParts_parts path).of_isPrefix (List.dropLast_prefix _))]

theorem isAbsolute_sibling {path name suffix : String} (h : fileName? path = some name)
    (hs : IsName suffix) : isAbsolute (sibling path suffix) = isAbsolute path := by
  have hn := isName_hiddenName (fileName?_eq_some h).2.no_slash hs
  rw [sibling_eq h, isAbsolute_join hn.no_slash]
  rw [isAbsolute_ofParts ((areParts_parts path).of_isPrefix (List.dropLast_prefix _))]

theorem sibling_of_none {path : String} (h : fileName? path = none) (suffix : String) :
    sibling path suffix = join path (hiddenName "" suffix) := by
  simp [sibling, withFileName, h, hiddenName]

end Path

end CommandGen
