import CommandGen.Proofs.Scan.Sample
import CommandGen.Proofs.Scan.Source
import CommandGen.Proofs.Source.Sole
import CommandGen.Proofs.Source.Token
import CommandGen.Proofs.Tag.Written
import CommandGen.Settings.Read

/-! Whether a tag that is written with the names of some settings is found with them. -/
namespace CommandGen

open Source

theorem isPlainPair_single {key : String} (h : isTagKey key = true) :
    ∀ p ∈ [(key, "x")], IsPlainPair p := by
  obtain ⟨-, hchars⟩ := Bool.and_eq_true_iff.mp h
  have hkey : ∀ c ∈ key.toList, (c ≠ ' ' ∧ c ≠ ':') ∧ c ≠ '"' := by simpa using hchars
  have hplain : IsPlainKey key := ⟨fun hm => (hkey _ hm).1.1 rfl, fun hm => (hkey _ hm).1.2 rfl⟩
  have hvalue : ' ' ∉ "x".toList := by decide
  exact List.forall_mem_singleton.mpr ⟨hplain, hvalue⟩

theorem parse_single {key : String} (h : isTagKey key = true) :
    TagSet.parse (key ++ ":\"x\"") = .ok (TagSet.putAll {} [(key, "x")]) := by
  have hbody : key ++ ":\"x\"" = tagBody [(key, "x")] := by
    simp [tagBody, tagText, ← String.toList_inj]
  rw [hbody, parse_tagBody (isPlainPair_single h)]

theorem hasKey_single {key : String} (h : isTagKey key = true) :
    hasKey (key ++ ":\"x\"") key = true := by
  rw [← TagSet.contains_parse (parse_single h)]
  simp [TagSet.contains, TagSet.get?, (TagSet.merges_putAll [(key, "x")]).values]

/-- A source of one structure, with a tag that has the command key. -/
def sampleFile (o : ScanOptions) : File where
  name := "sample.rs"
  text := "struct S \x7b #[" ++ o.attributeName ++ "(" ++
    String.ofList (Text.quote (o.keys.command ++ ":\"x\"").toList) ++ ")] f: () \x7d"

theorem text_sampleFile (o : ScanOptions) : (sampleFile o).text =
    String.ofList (written (samplePieces o.attributeName (o.keys.command ++ ":\"x\""))) := by
  refine String.toList_inj.mp ?_
  simp [sampleFile, samplePieces, written, Piece.chars,
    Delimiter.openingChar, Delimiter.closingChar]

variable {o : ScanOptions} {f : File} {found : List FoundCommand} {s : Settings}

theorem scanSource_sampleFile (hword : isWord o.attributeName.toList = true)
    (hname : o.attributeName ∉ reservedWords) (hkey : isTagKey o.keys.command = true) :
    ∃ x, scanSource o (sampleFile o) = .ok [x] ∧ x.typeName = "S" := by
  obtain ⟨a, place, ha, ⟨span, hvalue⟩, hitems⟩ :=
    items_sample "sample.rs" (o.keys.command ++ ":\"x\"") hword hname
  have hitems : (sampleFile o).items? = some [.record ⟨"S", place, [⟨[a]⟩]⟩] := by
    rw [← text_sampleFile] at hitems
    exact hitems
  have hscan := isSourceScan_scanSource (o := o) hitems
  have htags : tagAttributes o ⟨[a]⟩ = [a] := by simp [tagAttributes, ha]
  have hcommand : isCommandField o ⟨[a]⟩ = true := by
    simp [isCommandField, hasMarker, htags, hvalue, hasKey_single hkey]
  have hfine : FieldFine o ⟨[a]⟩ := {
    once := by simp [htags]
    literal := by simp [htags, hvalue]
    parses := by
      rintro b hb body _ hbody -
      obtain rfl : b = a := by simpa [htags] using hb
      obtain ⟨rfl, -⟩ : o.keys.command ++ ":\"x\"" = body ∧ _ := by simpa [hvalue] using hbody
      exact ⟨_, parse_single hkey⟩ }
  have hstructs : commandStructs o (outlineFrom 0 [.record ⟨"S", place, [⟨[a]⟩]⟩]) =
      [([0], ⟨"S", place, [⟨[a]⟩]⟩)] := by
    simp [commandStructs, outlineFrom, outlineOfItem, below, isCommandStruct, hcommand]
  cases hr : scanSource o (sampleFile o) with
  | error e =>
    rw [hr] at hscan
    refine absurd ⟨?_, by simp [hstructs]⟩ hscan.1
    simpa [outlineFrom, outlineOfItem, below] using ⟨by simpa using hfine, List.countP_le_length⟩
  | ok found =>
    rw [hr, IsSourceScan, hstructs] at hscan
    obtain ⟨-, hmatch⟩ := hscan
    obtain ⟨x, rfl, hx⟩ :
        ∃ x, found = [x] ∧ IsFound o (sampleFile o) x ([0], ⟨"S", place, [⟨[a]⟩]⟩) := by
      cases hmatch with
      | cons hx hrest =>
        cases hrest
        exact ⟨_, rfl, hx⟩
    exact ⟨x, rfl, hx.typeName⟩

theorem isWord_of_found (h : scanSource o f = .ok found) (hne : found ≠ []) :
    isWord o.attributeName.toList = true := by
  cases hitems : f.items? with
  | none => simp [scanSource, addFile, scanFile, hitems, bind, Except.bind] at h
  | some items =>
    have hscan := isSourceScan_scanSource (o := o) hitems
    rw [h] at hscan
    obtain ⟨-, hmatch⟩ := hscan
    obtain ⟨x, more, rfl⟩ := List.exists_cons_of_ne_nil hne
    obtain ⟨s, rest, -, -, hcommands⟩ := List.forall₂_cons_left_iff.mp hmatch
    have hmem : s ∈ commandStructs o (outlineFrom 0 items) := by simp [hcommands]
    obtain ⟨hmem, hcommand⟩ := List.mem_filter.mp hmem
    obtain ⟨field, hfield, hmarked⟩ := List.any_eq_true.mp hcommand
    obtain ⟨a, ha, -⟩ := List.any_eq_true.mp hmarked
    obtain ⟨ha, hname⟩ := List.mem_filter.mp ha
    have hname : a.name = some o.attributeName := by simpa using hname
    by_cases hdoc : o.attributeName = "doc"
    · rw [hdoc]
      decide +kernel
    · obtain ⟨toks, htoks, hread⟩ :=
        isReadFrom_of_items hitems (mem_fieldAttributes.mpr ⟨s, hmem, field, hfield, ha⟩) hname hdoc
      obtain ⟨span, hword⟩ := hread.mem_tokens.1 _ hname
      obtain ⟨w, htoken, -⟩ := ((areTokensOf_tokens htoks).each _ hword).isRead
      exact isWord_of_tokenAt htoken

theorem faults_of_ofText {text : String} (h : Settings.ofText text = .ok s) : s.faults = [] := by
  unfold Settings.ofText at h
  split at h
  · cases h
  · split at h
    · rename_i hvalid
      cases h
      unfold Settings.validate at hvalid
      split at hvalid
      · rename_i hnone
        cases hvalid
        exact hnone
      · cases hvalid
    · cases h

theorem accepts_of_ofText {text : String} (h : Settings.ofText text = .ok s) :
    isIdentifier s.scan.attributeName = true ∧ isTagKey s.scan.keys.command = true := by
  have hfaults := faults_of_ofText h
  simp only [Settings.faults, List.append_eq_nil_iff, List.map_eq_nil_iff,
    List.filter_eq_nil_iff] at hfaults
  obtain ⟨⟨⟨hname, hkeys⟩, -⟩, -⟩ := hfaults
  constructor
  · by_contra hnot
    simp [hnot] at hname
  · simpa using hkeys s.scan.keys.command (by simp [Vocabulary.keys])

theorem not_mem_reservedWords {name : String} (hword : isWord name.toList = true)
    (h : isIdentifier name = true) :
    name ∉ reservedWords :=
  (isIdentifier_of_isSole (.of_isWord hword)).mp h

/-- Where accepted settings look for a name that is a word, a tag that is written with their names
is found, and where they do not, nothing ever is. -/
theorem sampleFile_found_iff {text : String} (h : Settings.ofText text = .ok s) :
    ((∃ x, scanSource s.scan (sampleFile s.scan) = .ok [x] ∧ x.typeName = "S") ↔
        isWord s.scan.attributeName.toList = true) ∧
      (isWord s.scan.attributeName.toList = false →
        ∀ f found, scanSource s.scan f = .ok found → found = []) := by
  obtain ⟨hidentifier, hkey⟩ := accepts_of_ofText h
  refine ⟨⟨?_, fun hword =>
    scanSource_sampleFile hword (not_mem_reservedWords hword hidentifier) hkey⟩, ?_⟩
  · rintro ⟨x, hx, -⟩
    exact isWord_of_found hx (List.cons_ne_nil _ _)
  · intro hword f found hfound
    by_contra hne
    exact Bool.noConfusion (hword.symm.trans (isWord_of_found hfound hne))

/-- A raw word and a key of its own are found; a name with a blank in front never is. -/
theorem sampleFile_found_iff_named :
    let named : Settings := { scan := { attributeName := "r#type", keys := { command := "kind" } } }
    let blank : Settings := { scan := { attributeName := " tag", keys := { command := "kind" } } }
    Settings.ofText "attribute = \"r#type\"\ntags = \x7b command = \"kind\" \x7d" = .ok named ∧
      (∃ x, scanSource named.scan (sampleFile named.scan) = .ok [x] ∧ x.typeName = "S") ∧
      ∀ f found, scanSource blank.scan f = .ok found → found = [] := by
  intro named blank
  have hnamed :
      Settings.ofText "attribute = \"r#type\"\ntags = \x7b command = \"kind\" \x7d" = .ok named := by
    decide +kernel
  have hblank :
      Settings.ofText "attribute = \" tag\"\ntags = \x7b command = \"kind\" \x7d" = .ok blank := by
    decide +kernel
  exact ⟨hnamed, (sampleFile_found_iff hnamed).1.mpr (by decide +kernel),
    (sampleFile_found_iff hblank).2 (by decide +kernel)⟩

/-- A blank in front of the name is accepted, and the tag that is written with it is not found. -/
theorem blank_name_finds_nothing :
    Settings.ofText "attribute = \" tag\"" = .ok { scan := { attributeName := " tag" } } ∧
      scanSource { attributeName := " tag" } (sampleFile { attributeName := " tag" }) = .ok [] := by
  decide +kernel

end CommandGen
