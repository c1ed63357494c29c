import CommandGen.Proofs.Command.Params
import CommandGen.Proofs.Scan.Directory

/-! The form in which scans give commands. -/
namespace CommandGen

open Source

/-- A command of a structure in the form in which it is found. -/
structure IsNormalFor (o : ScanOptions) (decl : StructDecl) (c : Command) : Prop where
  /-- One parameter for each parameter field, in the order of their names and then of their
  fields. -/
  params : ∃ declared, DeclaresParams o decl.fields declared ∧ IsNameSort declared c.params
  call : c.call ≠ some ""
  input : c.input ≠ some ""
  output : c.output ≠ some ""
  dryRun : c.genDryRun = true → c.hasDryRun = true
  manual_iff : c.mode.call = .manual ↔ c.call = none
  required : c.requiredParams.Pairwise (· ≤ ·)
  extra : c.extraParams.Pairwise (· ≤ ·)
  parted : (c.requiredParams ++ c.extraParams).Perm (c.params.map (·.name))

/-- A command that a structure of a file declares under its name, in the form in which it is
found. -/
def IsNormalIn (o : ScanOptions) (f : File) (name : String) (c : Command) : Prop :=
  ∃ items address decl, f.items? = some items ∧
    structAt? items address = some decl ∧ decl.name = name ∧
    IsNormalFor o decl c

variable {o : ScanOptions} {f : File} {decl : StructDecl} {c : Command} {tags : TagSet}
  {found : List FoundCommand} {x : FoundCommand} {name : String}

theorem nonEmpty?_ne_some_empty (key : String) : tags.nonEmpty? key ≠ some "" := by
  intro h
  have hne := (Option.filter_eq_some_iff.mp h).2
  simp at hne

theorem hasDryRun_of_genDryRun {keys : Vocabulary}
    (h : (commandOfTags tags keys).genDryRun = true) :
    (commandOfTags tags keys).hasDryRun = true := by
  cases hvalue : tags.get? keys.dryRun with
  | none => simp [commandOfTags, hvalue] at h
  | some value => simp [commandOfTags, TagSet.contains, hvalue]

theorem Declares.isNormalFor (h : Declares o decl c) : IsNormalFor o decl c := by
  obtain ⟨f, -, tags, params, -, -, hparams, rfl⟩ := h
  have hsort := isNameSort_withParams (commandOfTags tags o.keys) params
  have hcall : ((commandOfTags tags o.keys).withParams params).call ≠ some "" :=
    nonEmpty?_ne_some_empty _
  exact {
    params := ⟨params, hparams, hsort⟩
    call := hcall
    input := nonEmpty?_ne_some_empty _
    output := nonEmpty?_ne_some_empty _
    dryRun := hasDryRun_of_genDryRun
    manual_iff := Command.callMode_eq_manual_iff hcall
    required := Command.pairwise_requiredParams hsort.inOrder
    extra := Command.pairwise_extraParams hsort.inOrder
    parted := Command.perm_requiredParams_extraParams _ }

theorem isNormalIn_of_scanFile (h : scanFile o f = .ok found) (hx : x ∈ found) :
    IsNormalIn o f x.typeName x.command := by
  cases hitems : f.items? with
  | none => simp [scanFile, hitems] at h
  | some items =>
    have hscan : IsScan o f (outlineFrom 0 items) (scanFile o f) := isScan_scanFile hitems
    rw [h] at hscan
    obtain ⟨⟨address, decl⟩, hmem, hfound⟩ := exists_partner hscan.2 hx
    have hat := mem_outlineFrom_zero.mp (List.mem_filter.mp hmem).1
    exact ⟨items, address, decl, hitems, hat, hfound.typeName.symm, hfound.command.isNormalFor⟩

theorem isNormalIn_of_scanSource (h : scanSource o f = .ok found)
    (hc : (CommandSet.ofFound found).get? name = some c) : IsNormalIn o f name c := by
  obtain ⟨hscan, hdiffer⟩ := scanFile_of_scanSource h
  have hmem := (perm_ofFound hdiffer).mem_iff.mp (NameMap.get?_eq_some_iff_mem.mp hc)
  obtain ⟨x, hx, he⟩ := List.mem_map.mp hmem
  obtain ⟨rfl, rfl⟩ := Prod.ext_iff.mp he
  exact isNormalIn_of_scanFile hscan hx

theorem isNormalIn_of_textEntries? {path : String} {text? : Option String}
    {entries : List (String × Command)} (h : textEntries? o text? = some entries)
    (hc : (name, c) ∈ entries) :
    ∃ text, text? = some text ∧ IsNormalIn o ⟨path, text⟩ name c := by
  cases text? with
  | none => cases h
  | some text =>
    rw [textEntries?_eq path] at h
    cases hscan : scanFile o ⟨path, text⟩ with
    | error e => simp [hscan, Except.toOption] at h
    | ok part =>
      obtain rfl : part.map FoundCommand.entry = entries := by
        simpa [hscan, Except.toOption] using h
      obtain ⟨x, hx, he⟩ := List.mem_map.mp hc
      obtain ⟨rfl, rfl⟩ := Prod.ext_iff.mp he
      exact ⟨text, rfl, isNormalIn_of_scanFile hscan hx⟩

theorem isNormalIn_of_scanDirectory {t : FileTree} {dir : String}
    (h : ((scanDirectory o dir).run t).1 = .ok found)
    (hc : (CommandSet.ofFound found).get? name = some c) :
    ∃ path ∈ t.sourcePaths dir, ∃ text, t.readText path = some text ∧
      IsNormalIn o ⟨path, text⟩ name c := by
  have hdir : (t.names dir).isSome := names_isSome_of_scan (Prod.ext h rfl)
  obtain ⟨r, hrun, hfound, -⟩ := run_scanDirectory (o := o) hdir
  rw [hrun] at h
  obtain ⟨-, hperm⟩ := hfound found h
  have hmem := hperm.mem_iff.mp (NameMap.get?_eq_some_iff_mem.mp hc)
  obtain ⟨entries, hentries, hc⟩ := List.mem_flatten.mp hmem
  obtain ⟨text?, htext, hentries⟩ := List.mem_filterMap.mp hentries
  obtain ⟨path, hpath, rfl⟩ := List.mem_map.mp htext
  obtain ⟨text, hread, hnormal⟩ := isNormalIn_of_textEntries? hentries hc
  exact ⟨path, hpath, text, hread, hnormal⟩

/-- All commands that the scan of a source or of a directory finds are declared by structures in its
files, and have the form of commands that are found. -/
theorem scan_isNormal (o : ScanOptions) :
    (∀ f found, scanSource o f = .ok found → ∀ name c, (CommandSet.ofFound found).get? name = some c →
      IsNormalIn o f name c) ∧
    ∀ t dir found, ((scanDirectory o dir).run t).1 = .ok found →
      ∀ name c, (CommandSet.ofFound found).get? name = some c →
        ∃ path ∈ t.sourcePaths dir, ∃ text, t.readText path = some text ∧
          IsNormalIn o ⟨path, text⟩ name c :=
  ⟨fun _ _ h _ _ hc => isNormalIn_of_scanSource h hc,
    fun _ _ _ h _ _ hc => isNormalIn_of_scanDirectory h hc⟩

/-- Keys that are shared by roles, two parameters of one name, and a call that is empty. -/
theorem scan_isNormal_shared_keys :
    let o : ScanOptions := {
      attributeName := "p"
      keys := {
        command := "k", api := "k", input := "k", dryRun := "k", param := "x", inputField :=
      "x", required := "r" } }
    let source : File := ⟨"a.rs", "struct S \x7b #[p(\"x:\\\"1\\\" r:\\\"\\\"\")] a: (), " ++
      "#[p = \"k:\\\"c\\\" call:\\\"\\\"\"] b: (), #[p(\"x:\\\"1\\\"\")] c: () \x7d"⟩
    let c : Command := {
      api := "c", input := some "c", hasDryRun := true, genDryRun := true
      params := [⟨"1", "1", true⟩, ⟨"1", "1", false⟩] }
    let inDirectory := "struct T \x7b #[p = \"k:\\\"c\\\"\"] b: () \x7d"
    let t : FileTree :=
      { entries := [(["d"], .directory), (["d", "x.rs"], .file (.text inDirectory))] }
    (∃ found, scanSource o source = .ok found ∧ (CommandSet.ofFound found).get? "S" = some c) ∧
      IsNormalIn o source "S" c ∧
      (∃ found, ((scanDirectory o "d").run t).1 = .ok found ∧
        (CommandSet.ofFound found).get? "T" = some { c with params := [] }) ∧
      ∃ path text, t.readText path = some text ∧
        IsNormalIn o ⟨path, text⟩ "T" { c with params := [] } := by
  intro o source c inDirectory t
  let field (body : String) (literal span : Span) : Field :=
    ⟨[⟨some "p", some (body, literal), span⟩]⟩
  let decl : StructDecl := ⟨"S", ⟨7, 8⟩, [field "x:\"1\" r:\"\"" ⟨15, 31⟩ ⟨11, 33⟩,
    field "k:\"c\" call:\"\"" ⟨47, 66⟩ ⟨41, 67⟩, field "x:\"1\"" ⟨79, 88⟩ ⟨75, 90⟩]⟩
  have hparsed : source.items?.map (structsOf false) = some [(false, decl)] := by decide +kernel
  obtain ⟨items, hitems, hstructs⟩ := Option.map_eq_some_iff.mp hparsed
  have hcommand : ∀ range, declaredCommand? o range decl = .ok (some c) := by
    intro range
    have hdraft : decl.fields.foldlM (Draft.addField o range "S") {} =
        .ok ⟨some ({ c with params := [] }, ⟨41, 67⟩), [⟨"1", "1", true⟩, ⟨"1", "1", false⟩]⟩ := rfl
    rw [declaredCommand?, hdraft]
    show Except.ok (some (Command.withParams _ _)) = _
    simp [Command.withParams, List.mergeSort, List.MergeSort.Internal.splitInTwo, c]
  have hscan : scanSource o source = .ok [⟨"S", c, source.location decl.span, false⟩] := by
    simp only [scanSource, addFile, scanFile, hitems, hstructs, scanStructs, scanStruct, hcommand]
    rfl
  have hdirectory :
      ((scanDirectory o "d").run t).1 = .ok [⟨"T", { c with params := [] }, "d/x.rs:1", false⟩] := by
    decide +kernel
  have hget : (CommandSet.ofFound [⟨"S", c, source.location decl.span, false⟩]).get? "S" = some c :=
    rfl
  have hget' : (CommandSet.ofFound [⟨"T", { c with params := [] }, "d/x.rs:1", false⟩]).get? "T" =
      some { c with params := [] } := rfl
  obtain ⟨hsource, hdir⟩ := scan_isNormal o
  obtain ⟨path, -, text, hread, hnormal⟩ := hdir t "d" _ hdirectory "T" _ hget'
  exact ⟨⟨_, hscan, hget⟩, hsource _ _ hscan _ _ hget, ⟨_, hdirectory, hget'⟩,
    path, text, hread, hnormal⟩

end CommandGen
