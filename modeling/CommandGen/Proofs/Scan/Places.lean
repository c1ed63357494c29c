import CommandGen.Proofs.Scan.Attributes
import CommandGen.Proofs.Source.Tree

/-! The tokens of attributes. -/
namespace CommandGen.Source

variable {ts us rest content : List Tree} {toks : List (Token × Span)} {t : Tree}
  {g : Grammar} {a : Attribute}

theorem EndsIn.cons_cases (h : EndsIn us (t :: ts)) :
    us = t :: ts ∨ EndsIn us ts ∨
      ∃ d content span, t = .group d content span ∧ EndsIn us content := by
  cases h with
  | here h => exact (List.suffix_cons_iff.mp h).imp_right fun h => .inl (.here h)
  | inside hgroup h =>
    rcases List.suffix_cons_iff.mp hgroup with he | hts
    · exact .inr (.inr ⟨_, _, _, (List.cons.inj he).1.symm, h⟩)
    · exact .inr (.inl (.inside hts h))

theorem EndsIn.eq_nil (h : EndsIn us []) : us = [] := by
  cases h with
  | here h => exact List.suffix_nil.mp h
  | inside hgroup => exact absurd (List.suffix_nil.mp hgroup) (List.cons_ne_nil _ _)

def IsDocContent (content : List Tree) : Prop := ∃ span more, content = .word "doc" span :: more

theorem DocComment.mem_trees {d : DocComment} {span : Span} (h : t ∈ d.trees span) :
    (∃ c joined, t = .mark c joined span) ∨ ∃ content, t = .group .bracket content span ∧
      IsDocContent content := by
  unfold trees at h
  simp only [List.mem_cons, List.mem_append, List.not_mem_nil, or_false] at h
  rcases h with rfl | hbang | rfl
  · exact .inl ⟨_, _, rfl⟩
  · split_ifs at hbang
    · exact .inl ⟨_, _, List.mem_singleton.mp hbang⟩
    · cases hbang
  · exact .inr ⟨_, rfl, _, _, rfl⟩

theorem Nests.mem_tokens (h : Nests toks ts) (ht : t ∈ ts) :
    (∀ text span, t = .word text span → (.word text, span) ∈ toks) ∧
      ∀ l span, t = .literal l span → (.literal l, span) ∈ toks := by
  induction h with
  | nil => cases ht
  | word | mark | literal | group =>
    rename_i ih
    rcases List.mem_cons.mp ht with rfl | ht
    · simp
    · have hrest := ih ht
      simp_all
  | doc d _ ih =>
    rcases List.mem_append.mp ht with ht | ht
    · rcases DocComment.mem_trees ht with ⟨c, joined, rfl⟩ | ⟨content, rfl, -⟩ <;> simp
    · have hrest := ih ht
      simp_all

theorem Nests.mem_group {d : Delimiter} {span : Span} (h : Nests toks ts)
    (ht : .group d content span ∈ ts) :
    IsDocContent content ∨ ∃ inner, Nests inner content ∧ inner ⊆ toks := by
  induction h with
  | nil => cases ht
  | word | mark | literal =>
    rename_i ih
    have hrest := ih (by simpa using ht)
    exact hrest.imp_right fun ⟨inner, hinner, hsub⟩ =>
      ⟨inner, hinner, List.subset_cons_of_subset _ hsub⟩
  | doc d _ ih =>
    rcases List.mem_append.mp ht with ht | ht
    · obtain ⟨c, joined, ⟨⟩⟩ | ⟨content, ⟨⟩, hdoc⟩ := DocComment.mem_trees ht
      exact .inl hdoc
    · exact (ih ht).imp_right fun ⟨inner, hinner, hsub⟩ =>
        ⟨inner, hinner, List.subset_cons_of_subset _ hsub⟩
  | group e hinner _ _ ih =>
    rcases List.mem_cons.mp ht with ht | ht
    · cases ht
      exact .inr ⟨_, hinner, by simp⟩
    · refine (ih ht).imp_right fun ⟨inner, hinner, hsub⟩ => ⟨inner, hinner, fun x hx => ?_⟩
      simp [hsub hx]

/-- Tokens among which are a number sign and brackets after it, with the place of the sign and the
brackets. -/
def HasBrackets (toks : List (Token × Span)) (content : List Tree) (place : Span) : Prop :=
  ∃ before joined first opening inner closing after,
    toks = before ++ (.mark '#' joined, first) :: (.opening .bracket, opening) ::
      (inner ++ (.closing .bracket, closing) :: after) ∧
    Nests inner content ∧ place = ⟨first.start, closing.stop⟩

theorem HasBrackets.append {place : Span} (h : HasBrackets toks content place)
    (before after : List (Token × Span)) :
    HasBrackets (before ++ (toks ++ after)) content place := by
  obtain ⟨front, joined, first, opening, inner, closing, back, rfl, hinner, hplace⟩ := h
  exact ⟨before ++ front, joined, first, opening, inner, closing, back ++ after, by simp, hinner, hplace⟩

/-- Where a leaf stands in front, and it is not what is looked for, that is in the rest. -/
theorem EndsIn.of_cons (h : EndsIn us (t :: ts)) (hne : us.head? ≠ some t)
    (hleaf : ∀ d content span, t ≠ .group d content span) : EndsIn us ts := by
  rcases h.cons_cases with rfl | h | ⟨d, content, span, rfl, -⟩
  · exact absurd rfl hne
  · exact h
  · exact absurd rfl (hleaf d content span)

theorem EndsIn.of_doc {d : DocComment} {span first last : Span} {joined : Bool}
    (h : EndsIn (.mark '#' joined first :: .group .bracket content last :: rest) (d.trees span ++ ts)) :
    IsDocContent content ∨
      EndsIn (.mark '#' joined first :: .group .bracket content last :: rest) ts := by
  have hvalue {l : Literal} :
      ¬ EndsIn (.mark '#' joined first :: .group .bracket content last :: rest)
      [.word "doc" span, .mark '=' false span, .literal l span] := by
    intro h
    have hnil := ((h.of_cons (by simp) (by simp)).of_cons (by simp) (by simp)).of_cons (by simp)
        (by simp)
    cases hnil.eq_nil
  have hgroup {l : Literal}
      (h : EndsIn (.mark '#' joined first :: .group .bracket content last :: rest)
      (.group .bracket [.word "doc" span, .mark '=' false span, .literal l span] span :: ts)) :
      EndsIn (.mark '#' joined first :: .group .bracket content last :: rest) ts := by
    rcases h.cons_cases with he | h | ⟨_, _, _, he, h⟩
    · cases he
    · exact h
    · cases he
      exact absurd h hvalue
  unfold DocComment.trees at h
  cases hinner : d.inner with
  | false =>
    rw [hinner] at h
    rcases h.cons_cases with he | h | ⟨_, _, _, he, -⟩
    · cases he
      exact .inl ⟨_, _, rfl⟩
    · exact .inr (hgroup h)
    · cases he
  | true =>
    rw [hinner] at h
    rcases h.cons_cases with he | h | ⟨_, _, _, he, -⟩
    · cases he
    · exact .inr (hgroup (h.of_cons (by simp) (by simp)))
    · cases he

/-- A number sign with brackets after it is made of such tokens, if it is not a comment. -/
theorem Nests.hasBrackets (h : Nests toks ts) {joined : Bool} {first last : Span}
    (hend : EndsIn (.mark '#' joined first :: .group .bracket content last :: rest) ts) :
    IsDocContent content ∨ HasBrackets toks content ⟨first.start, last.stop⟩ := by
  have hmore {toks : List (Token × Span)} (tok : Token × Span)
      (h : IsDocContent content ∨ HasBrackets toks content ⟨first.start, last.stop⟩) :
      IsDocContent content ∨ HasBrackets (tok :: toks) content ⟨first.start, last.stop⟩ :=
    h.imp_right fun hin => by simpa using hin.append [tok] []
  induction h with
  | nil => cases hend.eq_nil
  | word _ _ ih | literal _ _ ih => exact hmore _ (ih (hend.of_cons (by simp) (by simp)))
  | doc d _ ih => exact hend.of_doc.elim .inl fun hend => hmore _ (ih hend)
  | mark c joined hrest ih =>
    rcases hend.cons_cases with he | hend | ⟨_, _, _, he, -⟩
    · cases hrest with
      | group d hinner hafter =>
        cases he
        exact .inr ⟨[], _, _, _, _, _, _, rfl, hinner, rfl⟩
      | _ => cases he
    · exact hmore _ (ih hend)
    · cases he
  | group d hinner _ ihinner ih =>
    rename_i inner toks _ _ opening closing _
    rcases hend.cons_cases with he | hend | ⟨_, _, _, he, hend⟩
    · cases he
    · refine (ih hend).imp_right fun hin => ?_
      have hall := hin.append ((.opening d, opening) :: (inner ++ [(.closing d, closing)])) []
      simpa only [List.append_nil, List.cons_append, List.append_assoc, List.nil_append] using hall
    · cases he
      refine (ihinner hend).imp_right fun hin => ?_
      simpa using hin.append [(.opening d, opening)] ((.closing d, closing) :: toks)

theorem atWord_iff {w : String} : atWord w ts = true ↔ ∃ span more, ts = .word w span :: more := by
  unfold atWord
  split <;> simp_all

theorem head_of_names {isName : List Tree → Bool} {n : ℕ} {names : List String}
    (h : (plainPath.names isName n).run ts = some (names, rest)) :
    ∃ text span more others, ts = .word text span :: more ∧ names = text :: others := by
  cases n with
  | zero => cases h
  | succ n =>
    obtain ⟨_, _, ⟨⟩, hstart⟩ := Parser.run_bind_eq_some.mp h
    obtain ⟨_, _, hguard, hnames⟩ := Parser.run_bind_eq_some.mp hstart
    obtain ⟨-, rfl⟩ := Parser.run_guard_eq_some.mp hguard
    obtain ⟨⟨text, span⟩, mid, hword, hread⟩ := Parser.run_bind_eq_some.mp hnames
    obtain ⟨_, _, ⟨⟩, hmore⟩ := Parser.run_bind_eq_some.mp hread
    refine ⟨text, span, mid, ?_⟩
    split at hmore
    · obtain ⟨_, _, -, hrest⟩ := Parser.run_bind_eq_some.mp hmore
      obtain ⟨others, _, -, ⟨⟩⟩ := Parser.run_bind_eq_some.mp hrest
      exact ⟨others, run_anyWord_eq_some.mp hword, rfl⟩
    · cases hmore
      exact ⟨[], run_anyWord_eq_some.mp hword, rfl⟩

theorem plainPath_of_not_leading {names : List String}
    (h : plainPath.run ts = some ((false, names), rest)) :
    ∃ isName, (plainPath.names isName ts.length).run ts = some (names, rest) := by
  obtain ⟨_, _, ⟨⟩, hstart⟩ := Parser.run_bind_eq_some.mp h
  dsimp only at hstart
  split at hstart
  · rename_i hleading
    obtain ⟨_, _, -, hread⟩ := Parser.run_bind_eq_some.mp hstart
    obtain ⟨_, _, -, hnames⟩ := Parser.run_bind_eq_some.mp hread
    obtain ⟨_, _, -, hall⟩ := Parser.run_bind_eq_some.mp hnames
    simp [hleading] at hall
  · obtain ⟨_, _, ⟨⟩, hnames⟩ := Parser.run_bind_eq_some.mp hstart
    obtain ⟨found, after, hfound, hall⟩ := Parser.run_bind_eq_some.mp hnames
    obtain ⟨⟨-, rfl⟩, rfl⟩ : (_ ∧ found = names) ∧ after = rest := by simpa using hall
    exact ⟨_, hfound⟩

theorem head_of_attributePath {name : String}
    (h : attributePath.run content = some (some name, rest)) :
    ∃ span more, content = .word name span :: more := by
  obtain ⟨isUnsafe, mid, hword, hpath⟩ := Parser.run_bind_eq_some.mp h
  obtain ⟨_, _, ⟨⟩, hunsafe⟩ := Parser.run_bind_eq_some.mp hword
  split at hunsafe
  · rename_i hat
    obtain ⟨_, _, -, ⟨⟩⟩ := Parser.run_bind_eq_some.mp hunsafe
    cases hpath
    exact atWord_iff.mp hat
  · cases hunsafe
    obtain ⟨path, after, hplain, hname⟩ := Parser.run_bind_eq_some.mp hpath
    split at hname
    · cases hname
      obtain ⟨isName, hnames⟩ := plainPath_of_not_leading hplain
      obtain ⟨text, span, more, others, hcontent, hothers⟩ := head_of_names hnames
      cases hothers
      exact ⟨span, more, hcontent⟩
    · cases hname

theorem soleString_eq_some {value : String × Span} (h : soleString ts = some value) :
    ts = [.literal (.string value.1) value.2] := by
  unfold soleString at h
  split at h <;> cases h
  rfl

/-- The name of an attribute stands first, and its value after it: in a group or as what is left. -/
theorem attributeContent_cases {name : Option String} {value : Option (String × Span)}
    (h : (attributeContent g).run content = some ((name, value), rest)) :
    (∀ n ∈ name, ∃ span more, content = .word n span :: more) ∧
      ∀ v ∈ value, .literal (.string v.1) v.2 ∈ content ∨
        ∃ d span, .group d [.literal (.string v.1) v.2] span ∈ content := by
  obtain ⟨path, mid, hpath, hread⟩ := Parser.run_bind_eq_some.mp h
  have hin : mid ⊆ content := (attributePath.isSuffix hpath).subset
  have hname : ∀ n ∈ path, ∃ span more, content = .word n span :: more := by
    rintro n rfl
    exact head_of_attributePath hpath
  obtain ⟨_, _, ⟨⟩, hvalue⟩ := Parser.run_bind_eq_some.mp hread
  split at hvalue
  · rename_i d group span more
    obtain ⟨_, _, -, ⟨⟩⟩ := Parser.run_bind_eq_some.mp hvalue
    refine ⟨hname, fun v hv => .inr ⟨d, span, hin ?_⟩⟩
    rw [soleString_eq_some hv]
    exact List.mem_cons_self
  · dsimp only at hvalue
    split_ifs at hvalue
    · obtain ⟨_, _, -, ⟨⟩⟩ := Parser.run_bind_eq_some.mp hvalue
      refine ⟨hname, fun v hv => .inl (hin (List.mem_of_mem_tail ?_))⟩
      rw [soleString_eq_some hv]
      exact List.mem_cons_self
    · obtain ⟨_, _, -, hskip⟩ := Parser.run_bind_eq_some.mp hvalue
      obtain ⟨_, _, -, ⟨⟩⟩ := Parser.run_bind_eq_some.mp hskip
      exact ⟨hname, by simp⟩
    · cases hvalue
      exact ⟨hname, by simp⟩

/-- An attribute that is read from tokens: a number sign, and brackets that hold its name and
value. -/
def Attribute.IsReadFrom (a : Attribute) (toks : List (Token × Span)) : Prop :=
  ∃ content, HasBrackets toks content a.span ∧
    ∃ g, (attributeContent g).run content = some ((a.name, a.value), [])

theorem Attribute.StandsIn.exists_content (h : a.StandsIn ts) : ∃ joined first content last rest,
    EndsIn (.mark '#' joined first :: .group .bracket content last :: rest) ts ∧
      a.span = ⟨first.start, last.stop⟩ ∧
      ∃ g, (attributeContent g).run content = some ((a.name, a.value), []) := by
  obtain ⟨us, hus, g, rest, hread⟩ := h
  obtain ⟨_, _, ⟨⟩, hstart⟩ := Parser.run_bind_eq_some.mp hread
  split at hstart
  · rename_i joined first content last more
    obtain ⟨_, _, ⟨⟩, hgroup⟩ := Parser.run_bind_eq_some.mp hstart
    obtain ⟨⟨name, value⟩, _, hwithin, ⟨⟩⟩ := Parser.run_bind_eq_some.mp hgroup
    obtain ⟨_, _, ⟨⟩, hcontent⟩ := run_within_eq_some.mp hwithin
    exact ⟨joined, first, content, last, _, hus, rfl, g, hcontent⟩
  · cases hstart

theorem Attribute.StandsIn.isReadFrom (h : a.StandsIn ts) (hn : Nests toks ts) {name : String}
    (hname : a.name = some name) (hdoc : name ≠ "doc") : a.IsReadFrom toks := by
  obtain ⟨joined, first, content, last, rest, hend, hspan, g, hread⟩ := h.exists_content
  rcases hn.hasBrackets hend with ⟨_, _, hcontent⟩ | hbrackets
  · obtain ⟨_, _, hword⟩ := (attributeContent_cases hread).1 name hname
    cases hcontent.symm.trans hword
    exact absurd rfl hdoc
  · exact ⟨content, hspan ▸ hbrackets, g, hread⟩

/-- The name of an attribute is a word among its tokens, and the string literal that it holds is one
too. -/
theorem Attribute.IsReadFrom.mem_tokens (h : a.IsReadFrom toks) :
    (∀ name ∈ a.name, ∃ span, (.word name, span) ∈ toks) ∧
      ∀ value ∈ a.value, (.literal (.string value.1), value.2) ∈ toks := by
  obtain ⟨content,
      ⟨before, joined, first, opening, inner, closing, after, rfl, hinner, -⟩, g, hread⟩ := h
  obtain ⟨hname, hvalue⟩ := attributeContent_cases hread
  have hin : ∀ tok ∈ inner,
      tok ∈ before ++ (.mark '#' joined, first) :: (.opening .bracket, opening) ::
      (inner ++ (.closing .bracket, closing) :: after) := fun tok ht => by simp [ht]
  constructor
  · intro name hn
    obtain ⟨span, more, rfl⟩ := hname name hn
    exact ⟨span, hin _ ((hinner.mem_tokens List.mem_cons_self).1 _ _ rfl)⟩
  · intro value hv
    rcases hvalue value hv with hl | ⟨d, span, hgroup⟩
    · exact hin _ ((hinner.mem_tokens hl).2 _ _ rfl)
    · rcases hinner.mem_group hgroup with ⟨_, _, ⟨⟩⟩ | ⟨tokens, htokens, hsub⟩
      exact hin _ (hsub ((htokens.mem_tokens List.mem_cons_self).2 _ _ rfl))

/-- The attributes of the fields of a file are read from its tokens, if they are no comments. -/
theorem isReadFrom_of_items {f : File} {items : List Item} (h : f.items? = some items)
    (ha : a ∈ fieldAttributes (outlineFrom 0 items)) {name : String} (hname : a.name = some name)
    (hdoc : name ≠ "doc") :
    ∃ toks, tokens f.body = some toks ∧ a.IsReadFrom toks := by
  obtain ⟨ts, hts, hstands⟩ := standsIn_of_items h
  obtain ⟨toks, htoks, hnest⟩ := Option.bind_eq_some_iff.mp hts
  exact ⟨toks, htoks, (hstands a ha).isReadFrom (nest_eq_some_iff.mp hnest) hname hdoc⟩

end CommandGen.Source
