import CommandGen.Proofs.Command.Params
import CommandGen.Proofs.Scan.Declaration
import CommandGen.Scan.Basic

/-! The order in which a structure has its fields. Neither whether it can be scanned depends on it,
nor what is found, but for parameters of one name, which stand in the order of their fields. -/
namespace CommandGen

open Source

variable {o : ScanOptions} {range : Span → ByteRange} {f g : Field} {tags tags' : TagSet}
  {fields others : List Field} {params params' : List Param} {decl : StructDecl}

theorem HasTags.unique (h : HasTags o f tags) (h' : HasTags o f tags') : tags = tags' := by
  obtain ⟨a, body, span, ha, hv, hp⟩ := h
  obtain ⟨b, text, place, hb, hv', hp'⟩ := h'
  obtain rfl : a = b := by simpa [ha] using hb
  obtain ⟨rfl, rfl⟩ : body = text ∧ span = place := by simpa [hv] using hv'
  simpa [hp] using hp'

theorem DeclaresParams.unique (h : DeclaresParams o fields params)
    (h' : DeclaresParams o fields params') :
    params = params' := by
  refine Relator.RightUnique.forall₂ (fun f p q => ?_) h h'
  rintro ⟨tags, htags, rfl⟩ ⟨tags', htags', rfl⟩
  rw [htags.unique htags']

theorem DeclaresParams.perm (h : DeclaresParams o fields params)
    (h' : DeclaresParams o others params') (hp : fields.Perm others) : params.Perm params' := by
  obtain ⟨same, hsame, hperm⟩ := List.perm_comp_forall₂ (hp.filter _) h'
  rwa [h.unique hsame]

theorem FieldsFine.perm (h : FieldsFine o fields) (hp : fields.Perm others) : FieldsFine o others :=
  ⟨fun f hf => h.1 f (hp.mem_iff.mpr hf), hp.countP_eq _ ▸ h.2⟩

theorem FieldsFine.eq_of_command (h : FieldsFine o fields) (hf : f ∈ fields) (hg : g ∈ fields)
    (hfc : isCommandField o f = true) (hgc : isCommandField o g = true) : f = g := by
  have hlength := h.2
  have hf' := List.mem_filter.mpr ⟨hf, hfc⟩
  have hg' := List.mem_filter.mpr ⟨hg, hgc⟩
  rw [List.countP_eq_length_filter] at hlength
  obtain ⟨x, hx⟩ := List.length_eq_one_iff.mp (Nat.le_antisymm hlength (List.length_pos_of_mem hf'))
  rw [hx, List.mem_singleton] at hf' hg'
  rw [hf', hg']

/-- Commands that differ in the order of their parameters only, and not even in this where the names
of the parameters differ. -/
structure Command.IsReordered (c d : Command) : Prop where
  others : { c with params := d.params } = d
  params : c.params.Perm d.params
  inOrder : c.params.Pairwise (·.name ≤ ·.name) ∧ d.params.Pairwise (·.name ≤ ·.name)
  same : (c.params.map (·.name)).Nodup → c = d

theorem isReordered_withParams (c : Command) (h : params.Perm params') :
    (c.withParams params).IsReordered (c.withParams params') := by
  have hsort := isNameSort_withParams c params
  have hsort' := isNameSort_withParams c params'
  refine ⟨rfl, hsort.perm.trans (h.trans hsort'.perm.symm),
    ⟨hsort.inOrder, hsort'.inOrder⟩, fun hnodup => ?_⟩
  exact congrArg (fun params => { c with params }) (hsort.eq_of_perm hsort' h hnodup)

theorem Declares.isReordered {c d : Command} (h : Declares o decl c)
    (h' : Declares o { decl with fields := others } d) (hfine : FieldsFine o decl.fields)
    (hp : decl.fields.Perm others) : c.IsReordered d := by
  obtain ⟨f, hf, tags, params, hcommand, htags, hparams, rfl⟩ := h
  obtain ⟨g, hg, tags', params', hcommand', htags', hparams', rfl⟩ := h'
  obtain rfl : f = g := hfine.eq_of_command hf (hp.mem_iff.mpr hg) hcommand hcommand'
  obtain rfl : tags = tags' := htags.unique htags'
  exact isReordered_withParams _ (hparams.perm hparams' hp)

theorem isCommandStruct_perm (hp : decl.fields.Perm others) :
    isCommandStruct o { decl with fields := others } = isCommandStruct o decl := by
  rw [isCommandStruct, isCommandStruct, Bool.eq_iff_iff, List.any_eq_true, List.any_eq_true]
  exact exists_congr fun f => and_congr_left fun _ => hp.mem_iff.symm

/-- Commands that are found in one place. -/
structure FoundCommand.IsReordered (x y : FoundCommand) : Prop where
  others : { x with command := y.command } = y
  command : x.command.IsReordered y.command

theorem scanStruct_eq (o : ScanOptions) (file : File) (isNested : Bool) (decl : StructDecl) :
    scanStruct o file isNested decl = (declaredCommand? o file.range decl).map
      (·.map fun command => ⟨decl.name, command, file.location decl.span, isNested⟩) := by
  rw [scanStruct]
  cases declaredCommand? o file.range decl <;> rfl

theorem scanStruct_eq_error_iff {file : File} {isNested : Bool} :
    (∃ e, scanStruct o file isNested decl = .error e) ↔ ¬ FieldsFine o decl.fields := by
  have hdecl : IsDeclaration o file.range decl (declaredCommand? o file.range decl) :=
    isDeclaration_declaredCommand? decl
  rw [scanStruct_eq]
  cases hr : declaredCommand? o file.range decl with
  | error e =>
    rw [hr] at hdecl
    exact iff_of_true ⟨e, rfl⟩ (not_fieldsFine hdecl)
  | ok command? =>
    rw [hr] at hdecl
    have hfine : FieldsFine o decl.fields := by
      cases command? with
      | none => exact hdecl.1
      | some c => exact hdecl.1
    exact iff_of_false (by rintro ⟨e, ⟨⟩⟩) (not_not_intro hfine)

theorem isDeclaration_of_scanStruct {file : File} {isNested : Bool} {r : Option FoundCommand}
    (h : scanStruct o file isNested decl = .ok r) :
    ∃ command?, IsDeclaration o file.range decl (.ok command?) ∧
      r = command?.map fun command => ⟨decl.name, command, file.location decl.span, isNested⟩ := by
  have hdecl : IsDeclaration o file.range decl (declaredCommand? o file.range decl) :=
    isDeclaration_declaredCommand? decl
  rw [scanStruct_eq] at h
  cases hr : declaredCommand? o file.range decl with
  | error e =>
    rw [hr] at h
    cases h
  | ok command? =>
    rw [hr] at h hdecl
    cases h
    exact ⟨command?, hdecl, rfl⟩

/-- A structure with its fields in another order can be scanned if it can be in theirs. It declares
a command in both orders or in none, and the two commands differ in the order of their parameters of
one name only. -/
theorem scanStruct_perm (o : ScanOptions) (file : File) (isNested : Bool)
    {decl : StructDecl} {others : List Field} (hp : decl.fields.Perm others) :
    ((∃ e, scanStruct o file isNested decl = .error e) ↔
      ∃ e, scanStruct o file isNested { decl with fields := others } = .error e) ∧
    ∀ r s, scanStruct o file isNested decl = .ok r →
      scanStruct o file isNested { decl with fields := others } = .ok s →
      Option.Rel FoundCommand.IsReordered r s := by
  have hfine : FieldsFine o decl.fields ↔ FieldsFine o others :=
    ⟨fun h => h.perm hp, fun h => h.perm hp.symm⟩
  refine ⟨?_, fun r s hr hs => ?_⟩
  · rw [scanStruct_eq_error_iff, scanStruct_eq_error_iff, hfine]
  · obtain ⟨command?, hdecl, rfl⟩ := isDeclaration_of_scanStruct hr
    obtain ⟨other?, hdecl', rfl⟩ := isDeclaration_of_scanStruct hs
    have hcommand := isCommandStruct_perm (o := o) hp
    cases command? with
    | none =>
      cases other? with
      | none => exact .none
      | some d => simp [hdecl.2, hdecl'.2.1] at hcommand
    | some c =>
      cases other? with
      | none => simp [hdecl.2.1, hdecl'.2] at hcommand
      | some d => exact .some ⟨rfl, hdecl.2.2.isReordered hdecl'.2.2 hdecl.1 hp⟩

/-- Two parameters of one name with a command between them, and in the other order. -/
theorem scanStruct_perm_same_name :
    let field (body : String) : Field := ⟨[⟨some "tag", some (body, ⟨0, 0⟩), ⟨0, 0⟩⟩]⟩
    let fields :=
      [field "param:\"x\" awsField:\"A\"", field "command:\"ec2\"", field "param:\"x\" awsField:\"B\"",
      field "param:\"a\""]
    let decl : StructDecl := ⟨"S", ⟨0, 0⟩, fields⟩
    let file : File := ⟨"a.rs", ""⟩
    let found (params : List Param) : FoundCommand :=
      ⟨"S", { api := "ec2", params }, "a.rs:1", false⟩
    fields.Perm fields.reverse ∧
      scanStruct {} file false decl =
        .ok (some (found [⟨"a", "", false⟩, ⟨"x", "A", false⟩, ⟨"x", "B", false⟩])) ∧
      scanStruct {} file false { decl with fields := fields.reverse } =
        .ok (some (found [⟨"a", "", false⟩, ⟨"x", "B", false⟩, ⟨"x", "A", false⟩])) ∧
      (found [⟨"a", "", false⟩, ⟨"x", "A", false⟩, ⟨"x", "B", false⟩]).IsReordered
        (found [⟨"a", "", false⟩, ⟨"x", "B", false⟩, ⟨"x", "A", false⟩]) := by
  intro field fields decl file found
  have hplace : file.location decl.span = "a.rs:1" := by decide +kernel
  have hfound (others : List Field) (params sorted : List Param)
      (hdraft : others.foldlM (Draft.addField {} file.range "S") {} =
      .ok ⟨some ({ api := "ec2" }, ⟨0, 0⟩), params⟩)
      (hsort : Command.withParams { api := "ec2" } params = { api := "ec2", params := sorted }) :
      scanStruct {} file false { decl with fields := others } = .ok (some (found sorted)) := by
    rw [scanStruct, declaredCommand?, hdraft]
    show Except.ok
        (some (FoundCommand.mk "S" (Command.withParams _ params) (file.location decl.span) false)) = _
    rw [hplace, hsort]
  have hscan : scanStruct {} file false decl =
      .ok (some (found [⟨"a", "", false⟩, ⟨"x", "A", false⟩, ⟨"x", "B", false⟩])) :=
    hfound fields [⟨"x", "A", false⟩, ⟨"x", "B", false⟩, ⟨"a", "", false⟩] _ rfl
      (by simp [Command.withParams, List.mergeSort, List.MergeSort.Internal.splitInTwo])
  have hscan' : scanStruct {} file false { decl with fields := fields.reverse } =
      .ok (some (found [⟨"a", "", false⟩, ⟨"x", "B", false⟩, ⟨"x", "A", false⟩])) :=
    hfound fields.reverse [⟨"a", "", false⟩, ⟨"x", "B", false⟩, ⟨"x", "A", false⟩] _ rfl
      (by simp [Command.withParams, List.mergeSort, List.MergeSort.Internal.splitInTwo])
  have hp : decl.fields.Perm fields.reverse := (List.reverse_perm fields).symm
  obtain ⟨-, hfound⟩ := scanStruct_perm {} file false hp
  cases hfound _ _ hscan hscan' with
  | some hreordered => exact ⟨hp, hscan, hscan', hreordered⟩

end CommandGen
