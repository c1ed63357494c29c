import CommandGen.Proofs.Lists
import CommandGen.Proofs.Scan.Declaration
import CommandGen.Proofs.Scan.Outline

/-! What the scan of one source finds, and which error it reports: that of the first structure at
fault, or else that of the first name that is declared twice. -/
namespace CommandGen

open Source

section

variable (o : ScanOptions) (f : File)

/-- The command that a structure at an address is found as. -/
structure IsFound (x : FoundCommand) (s : List Nat × StructDecl) : Prop where
  typeName : x.typeName = s.2.name
  command : Declares o s.2 x.command
  location : x.location = f.location s.2.span
  isNested : x.isNested = isNestedAt s

/-- What is wrong with the first structure that is at fault. -/
def StructsFault (structs : List (List Nat × StructDecl)) (e : ScanError) : Prop :=
  ∃ before s after, structs = before ++ s :: after ∧ (∀ r ∈ before, FieldsFine o r.2.fields) ∧
    FieldsFault o f.range s.2.name s.2.fields e

def IsScan (structs : List (List Nat × StructDecl)) : Except ScanError (List FoundCommand) → Prop
  | .error e => StructsFault o f structs e
  | .ok found => (∀ s ∈ structs, FieldsFine o s.2.fields) ∧
      List.Forall₂ (IsFound o f) found (structs.filter fun s => isCommandStruct o s.2)

end

variable {o : ScanOptions} {f : File} {s : List Nat × StructDecl}
  {structs : List (List Nat × StructDecl)} {found part : List FoundCommand} {e : ScanError}

theorem StructsFault.cons (hs : FieldsFine o s.2.fields) (h : StructsFault o f structs e) :
    StructsFault o f (s :: structs) e := by
  obtain ⟨before, r, after, rfl, hbefore, hfault⟩ := h
  exact ⟨s :: before, r, after, rfl, List.forall_mem_cons.mpr ⟨hs, hbefore⟩, hfault⟩

theorem isScan_scanStructs (o : ScanOptions) (f : File) (structs : List (List Nat × StructDecl)) :
    IsScan o f structs (scanStructs o f (structs.map fun s => (isNestedAt s, s.2))) := by
  induction structs with
  | nil => exact ⟨by simp, .nil⟩
  | cons s rest ih =>
    have hdecl : IsDeclaration o f.range s.2 (declaredCommand? o f.range s.2) :=
      isDeclaration_declaredCommand? s.2
    rw [List.map_cons, scanStructs, scanStruct]
    cases hc : declaredCommand? o f.range s.2 with
    | error e =>
      rw [hc] at hdecl
      exact ⟨[], s, rest, rfl, by simp, hdecl⟩
    | ok command? =>
      rw [hc] at hdecl
      cases hrest : scanStructs o f (rest.map fun s => (isNestedAt s, s.2)) with
      | error e =>
        -- this struct is fine, so the first fault is behind it
        rw [hrest] at ih
        cases command? with
        | none => exact ih.cons hdecl.1
        | some c => exact ih.cons hdecl.1
      | ok more =>
        rw [hrest] at ih
        obtain ⟨hfine, hmore⟩ := ih
        cases command? with
        | none =>
          refine ⟨List.forall_mem_cons.mpr ⟨hdecl.1, hfine⟩, ?_⟩
          rw [List.filter_cons_of_neg (by simp [hdecl.2])]
          exact hmore
        | some c =>
          refine ⟨List.forall_mem_cons.mpr ⟨hdecl.1, hfine⟩, ?_⟩
          rw [List.filter_cons_of_pos (by simp [hdecl.2.1])]
          exact .cons ⟨rfl, hdecl.2.2, rfl, rfl⟩ hmore

theorem isScan_scanFile {items : List Item} (h : f.items? = some items) :
    IsScan o f (outlineFrom 0 items) (scanFile o f) := by
  unfold scanFile
  simpa only [h, structsOf_eq false 0 items, Bool.false_or]
    using isScan_scanStructs o f (outlineFrom 0 items)

def NamesDiffer (found : List FoundCommand) : Prop := (found.map (·.typeName)).Nodup

/-- What is wrong with the first command whose type has the name of an earlier one. -/
def FirstRepeat (found : List FoundCommand) (e : ScanError) : Prop :=
  ∃ before x after first, found = before ++ x :: after ∧ NamesDiffer before ∧ first ∈ before ∧
    first.typeName = x.typeName ∧ e = .duplicateType x.typeName first.location x.location

def IsAdding (found : List FoundCommand) : Except ScanError (List FoundCommand) → Prop
  | .error e => FirstRepeat found e
  | .ok all => all = found ∧ NamesDiffer found

theorem isAdding_addFound {x : FoundCommand} (h : NamesDiffer found) :
    IsAdding (found ++ [x]) (addFound found x) := by
  unfold addFound
  split
  · rename_i first hfirst
    have hname : first.typeName = x.typeName := by simpa using List.find?_some hfirst
    exact ⟨found, x, [], first, rfl, h, List.mem_of_find?_eq_some hfirst, hname, rfl⟩
  · rename_i hnone
    refine ⟨rfl, ?_⟩
    have hnew : ∀ a ∈ found, a.typeName ≠ x.typeName := by simpa using hnone
    rw [NamesDiffer, List.map_append, List.nodup_append]
    refine ⟨h, by simp, ?_⟩
    simpa using hnew

theorem FirstRepeat.append (h : FirstRepeat found e) (part : List FoundCommand) :
    FirstRepeat (found ++ part) e := by
  obtain ⟨before, x, after, first, rfl, hdiffer, hfirst⟩ := h
  exact ⟨before, x, after ++ part, first, by simp, hdiffer, hfirst⟩

theorem isAdding_foldlM (h : NamesDiffer found) :
    IsAdding (found ++ part) (part.foldlM addFound found) := by
  induction part generalizing found with
  | nil =>
    rw [List.append_nil]
    exact ⟨rfl, h⟩
  | cons x rest ih =>
    have hstep := isAdding_addFound (x := x) h
    rw [List.foldlM_cons, List.append_cons]
    cases hr : addFound found x with
    | error e =>
      rw [hr] at hstep
      exact hstep.append rest
    | ok next =>
      rw [hr] at hstep
      obtain ⟨rfl, hdiffer⟩ := hstep
      exact ih hdiffer

theorem FirstRepeat.not_namesDiffer (h : FirstRepeat found e) : ¬ NamesDiffer found := by
  obtain ⟨before, x, after, first, rfl, -, hfirst, hname, -⟩ := h
  intro hdiffer
  rw [NamesDiffer, List.map_append, List.map_cons, List.nodup_append] at hdiffer
  exact hdiffer.2.2 _ (List.mem_map_of_mem hfirst) _ (by simp) hname

/-- The structures of a source that declare commands. -/
def commandStructs (o : ScanOptions) (structs : List (List Nat × StructDecl)) :
    List (List Nat × StructDecl) :=
  structs.filter fun s => isCommandStruct o s.2

/-- Which structures of a source declare commands of one name, and the error that is reported for
the first such name to come back. -/
def NameRepeat (o : ScanOptions) (f : File) (structs : List (List Nat × StructDecl))
    (e : ScanError) : Prop :=
  ∃ before s after first, commandStructs o structs = before ++ s :: after ∧
    (before.map (·.2.name)).Nodup ∧ first ∈ before ∧ first.2.name = s.2.name ∧
    e = .duplicateType s.2.name (f.location first.2.span) (f.location s.2.span)

theorem typeNames_eq {commands : List (List Nat × StructDecl)}
    (h : List.Forall₂ (IsFound o f) found commands) :
    found.map (·.typeName) = commands.map (·.2.name) := by
  induction h with
  | nil => rfl
  | cons hx _ ih => rw [List.map_cons, List.map_cons, hx.typeName, ih]

theorem warnings_eq {commands : List (List Nat × StructDecl)}
    (h : List.Forall₂ (IsFound o f) found commands) :
    (found.filter (·.isNested)).map (fun x => (x.typeName, x.location)) =
      (commands.filter isNestedAt).map fun s => (s.2.name, f.location s.2.span) := by
  induction h with
  | nil => rfl
  | @cons x s _ _ hx _ ih =>
    cases hn : isNestedAt s with
    | true => simp [hx.isNested, hx.typeName, hx.location, hn, ih]
    | false => simp [hx.isNested, hn, ih]

theorem nameRepeat_of_firstRepeat (h : List.Forall₂ (IsFound o f) found (commandStructs o structs))
    (hrepeat : FirstRepeat found e) : NameRepeat o f structs e := by
  obtain ⟨before, x, after, first, rfl, hdiffer, hfirst, hname, rfl⟩ := hrepeat
  obtain ⟨firsts, s, rest, hcut, hbefore, hx⟩ := exists_cut h
  obtain ⟨r, hr, hrx⟩ := exists_partner hbefore hfirst
  refine ⟨firsts, s, rest, r, hcut, typeNames_eq hbefore ▸ hdiffer, hr, ?_, ?_⟩
  · rw [← hrx.typeName, hname, hx.typeName]
  · rw [hx.typeName, hrx.location, hx.location]

/-- The commands that were found, by the names of their types: one entry for each of them. -/
theorem perm_ofFound (h : NamesDiffer found) :
    (CommandSet.ofFound found).entries.Perm (found.map fun x => (x.typeName, x.command)) :=
  NameMap.perm_ofList (by simpa [NamesDiffer, List.map_map, Function.comp_def] using h)

/-- A source that can be scanned holds the commands of its structures, and no two of them have one
name. -/
theorem scanFile_of_scanSource (h : scanSource o f = .ok found) :
    scanFile o f = .ok found ∧ NamesDiffer found := by
  unfold scanSource addFile at h
  cases hscan : scanFile o f with
  | error e =>
    rw [hscan] at h
    cases h
  | ok all =>
    have hadd : IsAdding all (all.foldlM addFound []) := isAdding_foldlM List.nodup_nil
    rw [hscan] at h
    replace h : all.foldlM addFound [] = .ok found := h
    rw [h] at hadd
    obtain ⟨rfl, hdiffer⟩ := hadd
    exact ⟨rfl, hdiffer⟩

/-- Sources whose structures are fine, and where no two of them declare commands under one name. -/
def SourceFine (o : ScanOptions) (structs : List (List Nat × StructDecl)) : Prop :=
  (∀ s ∈ structs, FieldsFine o s.2.fields) ∧ ((commandStructs o structs).map (·.2.name)).Nodup

def IsSourceScan (o : ScanOptions) (f : File) (structs : List (List Nat × StructDecl)) :
    Except ScanError (List FoundCommand) → Prop
  | .error e => ¬ SourceFine o structs ∧ (StructsFault o f structs e ∨
      (∀ s ∈ structs, FieldsFine o s.2.fields) ∧ NameRepeat o f structs e)
  | .ok found => SourceFine o structs ∧ List.Forall₂ (IsFound o f) found (commandStructs o structs)

theorem isSourceScan_addAll (h : IsScan o f structs (.ok found)) :
    IsSourceScan o f structs (found.foldlM addFound []) := by
  obtain ⟨hfine, hmatch⟩ := h
  have hadd : IsAdding found (found.foldlM addFound []) := isAdding_foldlM List.nodup_nil
  have hnames : NamesDiffer found ↔ ((commandStructs o structs).map (·.2.name)).Nodup := by
    rw [NamesDiffer, typeNames_eq hmatch]
    rfl
  cases hr : found.foldlM addFound [] with
  | error e =>
    rw [hr] at hadd
    exact ⟨fun hs => hadd.not_namesDiffer (hnames.mpr hs.2),
      .inr ⟨hfine, nameRepeat_of_firstRepeat hmatch hadd⟩⟩
  | ok all =>
    rw [hr] at hadd
    obtain ⟨rfl, hdiffer⟩ := hadd
    exact ⟨⟨hfine, hnames.mp hdiffer⟩, hmatch⟩

theorem isSourceScan_scanSource {items : List Item} (h : f.items? = some items) :
    IsSourceScan o f (outlineFrom 0 items) (scanSource o f) := by
  have hscan : IsScan o f (outlineFrom 0 items) (scanFile o f) := isScan_scanFile h
  unfold scanSource addFile
  cases hr : scanFile o f with
  | error e =>
    rw [hr] at hscan
    refine ⟨fun hfine => ?_, .inl hscan⟩
    obtain ⟨before, s, after, hs, -, hfault⟩ := hscan
    exact not_fieldsFine hfault (hfine.1 s (by simp [hs]))
  | ok found =>
    rw [hr] at hscan
    exact isSourceScan_addAll hscan

/-- The scan of a source that can be parsed. -/
theorem scanSource_exact (o : ScanOptions) {f : File} {items : List Item}
    (h : f.items? = some items) :
    ∃ structs, IsOutline items structs ∧
      ((∃ found, scanSource o f = .ok found) ↔
        (∀ s ∈ structs, FieldsFine o s.2.fields) ∧
          ((commandStructs o structs).map (·.2.name)).Nodup) ∧
      (∀ found, scanSource o f = .ok found →
        List.Forall₂ (IsFound o f) found (commandStructs o structs) ∧
        (CommandSet.ofFound found).entries.Perm (found.map fun x => (x.typeName, x.command)) ∧
        (found.filter (·.isNested)).map (fun x => (x.typeName, x.location)) =
          ((commandStructs o structs).filter isNestedAt).map fun s =>
            (s.2.name, f.location s.2.span)) ∧
      (∀ e, scanSource o f = .error e →
        StructsFault o f structs e ∨
          (∀ s ∈ structs, FieldsFine o s.2.fields) ∧ NameRepeat o f structs e) := by
  refine ⟨outlineFrom 0 items, isOutline_outlineFrom items, ?_⟩
  have hscan : IsSourceScan o f (outlineFrom 0 items) (scanSource o f) := isSourceScan_scanSource h
  cases hr : scanSource o f with
  | error e =>
    rw [hr] at hscan
    refine ⟨⟨by rintro ⟨_, ⟨⟩⟩, fun hfine => absurd hfine hscan.1⟩, by rintro _ ⟨⟩, ?_⟩
    rintro _ ⟨⟩
    exact hscan.2
  | ok found =>
    rw [hr] at hscan
    obtain ⟨hfine, hmatch⟩ := hscan
    refine ⟨⟨fun _ => hfine, fun _ => ⟨found, rfl⟩⟩, ?_, by rintro _ ⟨⟩⟩
    rintro _ ⟨⟩
    have hdiffer : NamesDiffer found := by
      rw [NamesDiffer, typeNames_eq hmatch]
      exact hfine.2
    exact ⟨hmatch, perm_ofFound hdiffer, warnings_eq hmatch⟩

/-- A source with a command inside a module and a parameter. -/
theorem scanSource_exact_nested :
    let text := "mod m \x7b struct S \x7b #[tag = \"command:\\\"ec2\\\"\"] a: (), " ++
      "#[tag(\"param:\\\"x\\\"\")] b: () \x7d \x7d"
    let f : File := ⟨"a.rs", text⟩
    ∃ items structs, f.items? = some items ∧ IsOutline items structs ∧
      (commandStructs {} structs).map (fun s => s.2.name) = ["S"] ∧
      scanSource {} f = .ok [⟨"S", { api := "ec2", params := [{ name := "x" }] }, "a.rs:1", true⟩] := by
  intro text f
  have hscan : scanSource {} f =
      .ok [⟨"S", { api := "ec2", params := [{ name := "x" }] }, "a.rs:1", true⟩] := by
    decide +kernel
  have hparsed : f.items?.isSome = true := by decide +kernel
  obtain ⟨items, hitems⟩ := Option.isSome_iff_exists.mp hparsed
  obtain ⟨structs, houtline, -, hfound, -⟩ := scanSource_exact {} hitems
  obtain ⟨hmatch, -, -⟩ := hfound _ hscan
  exact ⟨items, structs, hitems, houtline, (typeNames_eq hmatch).symm, hscan⟩

end CommandGen
