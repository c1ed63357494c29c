import CommandGen.Proofs.Output.Behaviour
import CommandGen.Proofs.Source.Literal
import CommandGen.Proofs.Text.Pieces
import CommandGen.Proofs.Text.Template

/-! Texts in the messages of generated code. A text that is put into a message template is printed
as it is, and is no part of a placeholder. -/
namespace CommandGen

open Source Text

/-- A string literal whose value is a template with these parts. -/
def IsTemplateLiteral (literal : List Char) (parts : List TemplatePart) : Prop :=
  ∃ value, stringLiteral literal = some (.string value, literal.length) ∧
    template? value.toList = some parts

theorem isTemplateLiteral {body text : List Char} {parts : List TemplatePart}
    (h : StandsFor body text) (htext : template? text = some parts) :
    IsTemplateLiteral ('"' :: (body ++ ['"'])) parts := by
  refine ⟨String.ofList text, ?_, by rwa [String.toList_ofList]⟩
  rw [h.stringLiteral]
  simp [suffixWidth, plainIdentifierWidth]

/-- Of the two layers the literal undoes the escapes, and the doubled braces are left. -/
theorem standsFor_templated (s : String) :
    StandsFor (templated s).toList (s.toList.flatMap doubleBrace) := by
  rw [templated, String.toList_ofList]
  exact standsFor_flatMap_escape _

variable {before after p q : List Char} {ps qs : List TemplatePart}

theorem isTemplateLiteral_templated (s : String) :
    IsTemplateLiteral ('"' :: ((templated s).toList ++ ['"'])) (s.toList.map .char) := by
  have hparts := template?_flatMap_doubleBrace s.toList []
  refine isTemplateLiteral (standsFor_templated s) ?_
  simpa [template?, partsFrom] using hparts

theorem isTemplateLiteral_spliced (s : String) (hbefore : StandsFor before p)
    (hafter : StandsFor after q) (hp : template? p = some ps) (hq : template? q = some qs)
    (hbrace : p.getLast? ≠ some '\x7d') :
    IsTemplateLiteral ('"' :: (before ++ ((templated s).toList ++ after) ++ ['"']))
      (ps ++ (s.toList.map .char ++ qs)) := by
  refine isTemplateLiteral (hbefore.append ((standsFor_templated s).append hafter)) ?_
  rw [template?_append hp hbrace, template?_flatMap_doubleBrace, hq]
  rfl

/-- A text that is put into a message template prints itself. Alone between quotes it is a template
without placeholders. Between two templates, of which the first ends in no closing brace, it leaves
their placeholders as they are, and is printed between what they print. -/
theorem templated_prints_itself (s : String) :
    (IsTemplateLiteral ('"' :: ((templated s).toList ++ ['"'])) (s.toList.map .char) ∧
      placeholders (s.toList.map .char) = [] ∧
      ∀ shown, printed shown (s.toList.map .char) = s.toList) ∧
    ∀ (before after p q : List Char) (ps qs : List TemplatePart),
      StandsFor before p → StandsFor after q →
      template? p = some ps → template? q = some qs → p.getLast? ≠ some '\x7d' →
        IsTemplateLiteral ('"' :: (before ++ ((templated s).toList ++ after) ++ ['"']))
          (ps ++ (s.toList.map .char ++ qs)) ∧
        placeholders (ps ++ (s.toList.map .char ++ qs)) = placeholders ps ++ placeholders qs ∧
        ∀ shown, printed shown (ps ++ (s.toList.map .char ++ qs)) =
          printed shown ps ++ (s.toList ++ printed (shown.drop (placeholders ps).length) qs) := by
  refine ⟨⟨isTemplateLiteral_templated s, placeholders_chars _, fun shown => printed_chars shown _⟩, ?_⟩
  intro before after p q ps qs hbefore hafter hp hq hbrace
  refine ⟨isTemplateLiteral_spliced s hbefore hafter hp hq hbrace, ?_, fun shown => ?_⟩
  · rw [placeholders_append, placeholders_append, placeholders_chars, List.nil_append]
  · rw [printed_append, printed_append, printed_chars, placeholders_chars,
      List.length_nil, List.drop_zero]

/-- The placeholder of an error. -/
def errorPlaceholder : Placeholder := ⟨['e', 'r', 'r'], by decide +kernel⟩

/-- A text with both braces, a quote, a backslash and controls, in front of a placeholder. -/
theorem templated_prints_itself_injection :
    StandsFor "cannot inject in ".toList "cannot inject in ".toList ∧
    StandsFor ": \x7berr\x7d".toList ": \x7berr\x7d".toList ∧
    "cannot inject in ".toList.getLast? ≠ some '\x7d' ∧
    IsTemplateLiteral "\"cannot inject in \x7b\x7b\\\"\x7d\x7d\\n\\u\x7b7\x7d\\\\: \x7berr\x7d\"".toList
      ("cannot inject in ".toList.map .char ++ ("\x7b\"\x7d\n\x07\\".toList.map .char ++
        [.char ':', .char ' ', .placeholder errorPlaceholder])) := by
  have hbefore : StandsFor "cannot inject in ".toList "cannot inject in ".toList := by
    rw [toList_literal rfl]
    exact standsFor_self (by decide)
  have hafter : StandsFor ": \x7berr\x7d".toList ": \x7berr\x7d".toList := by
    rw [toList_literal rfl]
    exact standsFor_self (by decide)
  have hbrace : "cannot inject in ".toList.getLast? ≠ some '\x7d' := by
    rw [toList_literal rfl]
    decide
  have hp : template? "cannot inject in ".toList = some ("cannot inject in ".toList.map .char) := by
    rw [toList_literal rfl]
    decide +kernel
  have hq : template? ": \x7berr\x7d".toList =
      some [.char ':', .char ' ', .placeholder errorPlaceholder] := by
    rw [toList_literal rfl]
    decide +kernel
  have hliteral : '"' :: ("cannot inject in ".toList ++ ((templated "\x7b\"\x7d\n\x07\\").toList ++
      ": \x7berr\x7d".toList) ++ ['"']) =
      "\"cannot inject in \x7b\x7b\\\"\x7d\x7d\\n\\u\x7b7\x7d\\\\: \x7berr\x7d\"".toList := by
    rw [templated, String.toList_ofList, toList_literal rfl, toList_literal rfl,
      toList_literal rfl, toList_literal rfl]
    decide +kernel
  refine ⟨hbefore, hafter, hbrace, ?_⟩
  rw [← hliteral]
  exact ((templated_prints_itself _).2 _ _ _ _ _ _ hbefore hafter hp hq hbrace).1

def Formats (line : String) (parts : List TemplatePart) : Prop :=
  ∃ before literal after, line.toList = before ++ (literal ++ after) ∧ '"' ∉ before ∧
    IsTemplateLiteral literal parts

def durationPlaceholder : Placeholder := ⟨[':', '?'], by decide +kernel⟩

def valuePlaceholder : Placeholder := ⟨['v', 'a', 'l', 'u', 'e'], by decide +kernel⟩

def Opens (code : String) : Prop := ∃ before, code.toList = before ++ ['"'] ∧ '"' ∉ before

/-- A code that ends a string literal, with a template of these parts in front of its closing
quote. -/
def Closes (code : String) (parts : List TemplatePart) : Prop :=
  ∃ body after, code.toList = body ++ '"' :: after ∧ StandsFor body body ∧
    template? body = some parts

theorem opens_literal {code : String} {cs before : List Char} (h : code = String.ofList cs)
    (hcut : cutAt '"' cs = some (before, [])) : Opens code := by
  rw [Opens, toList_literal h]
  exact ⟨before, cutAt_eq_some_iff.mp hcut⟩

theorem Opens.prepend {code : String} (h : Opens code) {lead : String} (hlead : '"' ∉ lead.toList) :
    Opens (lead ++ code) := by
  obtain ⟨before, hcode, hbefore⟩ := h
  refine ⟨lead.toList ++ before, ?_, ?_⟩
  · rw [String.toList_append, hcode, List.append_assoc]
  · rw [List.mem_append]
    exact not_or.mpr ⟨hlead, hbefore⟩

theorem closes_literal {code : String} {cs body after : List Char} (h : code = String.ofList cs)
    (hcut : cutAt '"' cs = some (body, after)) (hbody : body.all isVerbatim = true)
    (hqs : template? body = some qs) : Closes code qs := by
  refine ⟨body, after, ?_, standsFor_self hbody, hqs⟩
  rw [toList_literal h, eq_append_of_cutAt hcut]

def isPlain (c : Char) : Bool := isVerbatim c && c != '\x7b' && c != '\x7d'

theorem formats_spliced {opening heading closing : String} (s : String) (hopening : Opens opening)
    (hheading : heading.toList.all isPlain = true) (hclosing : Closes closing qs) :
    Formats (opening ++ (heading ++ (templated s ++ closing)))
      (heading.toList.map .char ++ (s.toList.map .char ++ qs)) := by
  obtain ⟨before, hbefore, hquote⟩ := hopening
  obtain ⟨body, after, hafter, hbody, hqs⟩ := hclosing
  have hplain : ∀ c ∈ heading.toList, (isVerbatim c = true ∧ c ≠ '\x7b') ∧ c ≠ '\x7d' := by
    simpa [isPlain] using hheading
  have hself : StandsFor heading.toList heading.toList :=
    standsFor_self (List.all_eq_true.mpr fun c hc => (hplain c hc).1.1)
  have hparts := template?_of_no_braces fun c hc => ⟨(hplain c hc).1.2, (hplain c hc).2⟩
  have hbrace : heading.toList.getLast? ≠ some '\x7d' :=
    fun hlast => (hplain _ (List.mem_of_getLast? hlast)).2 rfl
  refine ⟨before, _, after, ?_, hquote, isTemplateLiteral_spliced s hself hbody hparts hqs hbrace⟩
  simp [hbefore, hafter]

def fillMessage (heading : String) (call : DirectCall) : List TemplatePart :=
  (heading ++ "cannot inject in ").toList.map .char ++
    (call.input.toList.map .char ++ [.char ':', .char ' ', .placeholder errorPlaceholder])

theorem formats_fillLine {heading : String}
    (h : heading.toList.all isPlain = true) (call : DirectCall) :
    Formats (fillLine heading call) (fillMessage heading call) := by
  have hlead : '"' ∉ "struct_injector(self, &mut input, ctx)".toList := by
    rw [toList_literal rfl]
    decide
  have hopening : Opens ".map_err(|err| CommandError::msg(format!(\"" := opens_literal rfl rfl
  have hheading : (heading ++ "cannot inject in ").toList.all isPlain = true := by
    rw [String.toList_append, List.all_append, h, toList_literal rfl]
    decide
  have hclosing :
      Closes ": \x7berr\x7d\")))?;" [.char ':', .char ' ', .placeholder errorPlaceholder] :=
    closes_literal rfl rfl (by decide) (by decide +kernel)
  have hspliced := formats_spliced call.input (hopening.prepend hlead) hheading hclosing
  unfold fillLine fillMessage orFail
  simpa only [String.append_assoc] using hspliced

def timingMessage (heading : String) (c : Command) (call : DirectCall) : List TemplatePart :=
  heading.toList.map .char ++ ((c.api ++ "." ++ call.name).toList.map .char ++
    (" call took ".toList.map .char ++ [.placeholder durationPlaceholder]))

theorem formats_timingLine {heading : String} (h : heading.toList.all isPlain = true) (c : Command)
    (call : DirectCall) : Formats (timingLine heading c call) (timingMessage heading c call) := by
  have hopening : Opens "self.logger.extra_verbose(&format!(\"" := opens_literal rfl rfl
  have hclosing : Closes " call took \x7b:?\x7d\", start.elapsed()));"
      (" call took ".toList.map .char ++ [.placeholder durationPlaceholder]) := by
    rw [toList_literal rfl]
    exact closes_literal rfl rfl (by decide) (by decide +kernel)
  have hspliced := formats_spliced (c.api ++ "." ++ call.name) hopening h hclosing
  unfold timingLine timingMessage
  simpa only [String.append_assoc] using hspliced

def doneLine (c : Command) : String :=
  "Some(value) => self.logger.info(&format!(\"" ++ templated c.label ++ " '\x7bvalue\x7d' done\")),"

def doneMessage (c : Command) : List TemplatePart :=
  c.label.toList.map .char ++
  (" '".toList.map .char ++ (.placeholder valuePlaceholder :: "' done".toList.map .char))

theorem formats_doneLine (c : Command) : Formats (doneLine c) (doneMessage c) := by
  have hopening : Opens "Some(value) => self.logger.info(&format!(\"" := opens_literal rfl rfl
  have hclosing : Closes " '\x7bvalue\x7d' done\")),"
      (" '".toList.map .char ++ (.placeholder valuePlaceholder :: "' done".toList.map .char)) := by
    rw [toList_literal rfl, toList_literal rfl]
    exact closes_literal rfl rfl (by decide) (by decide +kernel)
  have hspliced := @formats_spliced _ _ "" _ c.label hopening rfl hclosing
  unfold doneLine doneMessage
  simpa only [String.append_assoc, String.empty_append, String.toList_empty,
    List.map_nil, List.nil_append]
    using hspliced

/-- Whatever its texts are, the messages of a command that is called for itself print them as they
are. -/
theorem direct_messages (c : Command) (call : DirectCall) :
    (∀ message ∈ [fillMessage "" call, timingMessage "" c call, doneMessage c],
      ∃ line ∈ (runStep c (.direct call)).texts, Formats line message) ∧
    ∀ message ∈ [fillMessage "dry run: " call, timingMessage "dry run: " c call],
      ∃ line ∈ (dryRunStep c (.generated call)).texts, Formats line message := by
  have hheading : "dry run: ".toList.all isPlain = true := by
    rw [toList_literal rfl]
    decide
  have hfill : fillLine "" call ∈ (runStep c (.direct call)).texts :=
    List.mem_of_getElem? (i := 5) rfl
  have htiming : timingLine "" c call ∈ (runStep c (.direct call)).texts :=
    List.mem_of_getElem? (i := 8) rfl
  have hdone : doneLine c ∈ (runStep c (.direct call)).texts := List.mem_of_getElem? (i := 13) rfl
  have hdryFill : fillLine "dry run: " call ∈ (dryRunStep c (.generated call)).texts :=
    List.mem_of_getElem? (i := 5) rfl
  have hdryTiming : timingLine "dry run: " c call ∈ (dryRunStep c (.generated call)).texts :=
    List.mem_of_getElem? (i := 10) rfl
  simp only [List.forall_mem_cons, List.not_mem_nil, false_imp_iff, implies_true, and_true]
  exact ⟨⟨⟨_, hfill, formats_fillLine rfl call⟩, ⟨_, htiming, formats_timingLine rfl c call⟩,
    ⟨_, hdone, formats_doneLine c⟩⟩, ⟨_, hdryFill, formats_fillLine hheading call⟩,
    ⟨_, hdryTiming, formats_timingLine hheading c call⟩⟩

end CommandGen
