import CommandGen.Proofs.Scan.Places
import CommandGen.Proofs.Source.Piece

/-! A source of one structure, whose field has an attribute with a string: how it is read. -/
namespace CommandGen.Source

variable {name body : String} {rest : List Tree} {g : Grammar}
  {first brackets named arguments literalAt : Span}

theorem run_attributePath (hname : name ∉ reservedWords) (hrest : at2 ':' ':' rest = false) :
    attributePath.run (.word name named :: rest) = some (some name, rest) := by
  have hunsafe :
      (eatWord? "unsafe").run (.word name named :: rest) = some (false, .word name named :: rest) := by
    have hne : atWord "unsafe" (.word name named :: rest) = false :=
      beq_eq_false_iff_ne.mpr fun he => hname (he ▸ by decide)
    rw [eatWord?, Parser.run_bind_of_some Parser.run_read, hne]
    rfl
  have hnames (isName : List Tree → Bool) (n : ℕ) (h : isName (.word name named :: rest) = true) :
      (plainPath.names isName (n + 1)).run (.word name named :: rest) = some ([name], rest) := by
    rw [plainPath.names, Parser.run_bind_of_some Parser.run_read,
      Parser.run_bind_of_some (Parser.run_guard_eq_some.mpr ⟨h, rfl⟩),
      Parser.run_bind_of_some (run_anyWord_eq_some.mpr rfl),
      Parser.run_bind_of_some Parser.run_read, hrest]
    rfl
  have hpath : plainPath.run (.word name named :: rest) = some ((false, [name]), rest) := by
    refine Parser.run_bind_of_some (q := fun found => pure (false, found)) (hnames _ rest.length ?_)
    simp [atIdentifier, hname]
  rw [attributePath, Parser.run_bind_of_some hunsafe, if_neg Bool.false_ne_true,
    Parser.run_bind_of_some hpath]
  rfl

theorem run_outerAttribute (hname : name ∉ reservedWords) :
    (outerAttribute g).run (.mark '#' false first :: .group .bracket
      [.word name named, .group .paren [.literal (.string body) literalAt] arguments] brackets :: rest) =
      some (⟨some name, some (body, literalAt), ⟨first.start, brackets.stop⟩⟩, rest) := by
  have hcontent : (attributeContent g).run
      [.word name named, .group .paren [.literal (.string body) literalAt] arguments] =
      some ((some name, some (body, literalAt)), []) := by
    rw [attributeContent, Parser.run_bind_of_some (run_attributePath hname rfl)]
    rfl
  exact Parser.run_bind_of_some (p := within .bracket (attributeContent g))
    (q := fun found => pure (⟨found.1, found.2, ⟨first.start, brackets.stop⟩⟩ : Attribute))
    (run_within_eq_some.mpr ⟨_, _, rfl, hcontent⟩)

variable {atStruct atName fieldAt colon unit braces : Span}

theorem readAll_struct (hname : name ∉ reservedWords) :
    readAll fileItems [.word "struct" atStruct, .word "S" atName, .group .brace
      [.mark '#' false first, .group .bracket
        [.word name named, .group .paren [.literal (.string body) literalAt] arguments] brackets,
        .word "f" fieldAt, .mark ':' false colon, .group .paren [] unit] braces] =
      some [.record ⟨"S", atName,
        [⟨[⟨some name, some (body, literalAt), ⟨first.start, brackets.stop⟩⟩]⟩]⟩] := by
  generalize hcontent : [Tree.mark '#' false first, .group .bracket
        [.word name named, .group .paren [.literal (.string body) literalAt] arguments] brackets,
        .word "f" fieldAt, .mark ':' false colon, .group .paren [] unit] = content
  generalize hattribute :
    (⟨some name, some (body, literalAt), ⟨first.start, brackets.stop⟩⟩ : Attribute) = a
  have hattributes (g : Grammar) : (outerAttributes g).run content =
      some ([a], [.word "f" fieldAt, .mark ':' false colon, .group .paren [] unit]) := by
    subst hcontent hattribute
    exact Parser.run_bind_of_some (p := outerAttribute g) (run_outerAttribute hname)
  have hfields (n : ℕ) :
      (fields (grammarTo (n + 1))).run [.group .brace content braces] = some ([⟨[a]⟩], []) := by
    refine run_within_eq_some.mpr ⟨content, braces, rfl, run_commaList_single (by simp [← hcontent]) ?_⟩
    rw [Parser.run_bind_of_some (hattributes _)]
    rfl
  have hitem (n : ℕ) : (item (grammarTo (n + 2))).run
      [.word "struct" atStruct, .word "S" atName, .group .brace content braces] =
      some (.record ⟨"S", atName, [⟨[a]⟩]⟩, []) :=
    Parser.run_bind_of_some (p := fields (grammarTo (n + 1)))
      (q := fun fs => pure (Item.record ⟨"S", atName, fs⟩))
      (hfields n)
  have hall (n : ℕ) : (fileItems (grammarTo (n + 3))).run
      [.word "struct" atStruct, .word "S" atName, .group .brace content braces] =
      some ([.record ⟨"S", atName, [⟨[a]⟩]⟩], []) :=
    run_repeatUntil_single (p := item (grammarTo (n + 2))) (by simp) (hitem n)
  rw [readAll, depthOf, show ∀ k, 64 + k = 61 + k + 3 by omega, hall]

def samplePieces (name body : String) : List Piece :=
  [.word "struct", .blank ' ', .word "S", .blank ' ', .opening .brace, .blank ' ', .mark '#' false] ++
    ([.opening .bracket, .word name, .opening .paren, .quoted body] ++
      [.closing .paren, .closing .bracket, .blank ' ', .word "f", .mark ':' false,
        .blank ' ', .opening .paren, .closing .paren, .blank ' ', .closing .brace])

theorem allFit_samplePieces (h : isWord name.toList = true) (body : String) :
    allFit (samplePieces name body) none = true := by
  obtain ⟨c, s, hs, hstart⟩ :=
    start_of_identifierWidth (beq_iff_eq.mp (Bool.and_eq_true_iff.mp h).1)
  have hslash : c ≠ '/' := fun hc => not_mem_otherStarts hstart (hc ▸ by decide +kernel)
  have hfront :
      allFit [.word "struct", .blank ' ', .word "S", .blank ' ', .opening .brace, .blank ' ',
      .mark '#' false] (some '[') = true := by decide +kernel
  have hback : allFit
      [.closing .paren, .closing .bracket, .blank ' ', .word "f", .mark ':' false, .blank ' ',
      .opening .paren, .closing .paren, .blank ' ', .closing .brace] none =
        true := by decide +kernel
  have hopening : (Piece.opening .bracket).fits (some c) = true := by
    simpa [Piece.fits] using hslash
  have hname : (Piece.word name).fits (some '(') = true := by
    rw [Piece.fits, h]
    decide +kernel
  have hmiddle :
      allFit [.opening .bracket, .word name, .opening .paren, .quoted body] (some ')') = true := by
    have hfirst : firstOf [.word name, .opening .paren, .quoted body] (some ')') = some c := by
      simp [firstOf, written, Piece.chars, hs]
    have hafter : firstOf [.opening .paren, .quoted body] (some ')') = some '(' := rfl
    rw [allFit, allFit, hfirst, hafter, hopening, hname]
    rfl
  rw [samplePieces, allFit_append, allFit_append]
  exact Bool.and_eq_true_iff.mpr ⟨hfront, Bool.and_eq_true_iff.mpr ⟨hmiddle, hback⟩⟩

theorem items_sample (file body : String) (hword : isWord name.toList = true)
    (hname : name ∉ reservedWords) :
    ∃ a atName, a.name = some name ∧ (∃ span, a.value = some (body, span)) ∧
      File.items? ⟨file, String.ofList (written (samplePieces name body))⟩ =
        some [.record ⟨"S", atName, [⟨[a]⟩]⟩] := by
  have hbody : bodyText (written (samplePieces name body)) = written (samplePieces name body) := rfl
  have htokens :
      tokens (written (samplePieces name body)) = some (tokensOf 0 (samplePieces name body)) :=
    tokens_written (allFit_samplePieces hword body)
      (by simp [samplePieces, written, Piece.chars, byteOrderMark])
  have hitems : File.items? ⟨file, String.ofList (written (samplePieces name body))⟩ =
      nest [] [] (tokensOf 0 (samplePieces name body)) >>= readAll fileItems := by
    rw [File.items?, File.body, String.toList_ofList, hbody, trees, htokens]
    rfl
  rw [hitems]
  simp only [samplePieces, List.cons_append, List.nil_append, tokensOf, Piece.token?, nest,
    if_true, List.reverse_cons, List.reverse_nil, Option.bind_eq_bind, Option.bind_some]
  exact ⟨⟨some name, some (body, _), ⟨_, _⟩⟩, _, rfl, ⟨_, rfl⟩, readAll_struct hname⟩

end CommandGen.Source
