import CommandGen.Source.Tree
import Mathlib.Data.List.Basic
import Mathlib.Tactic.SplitIfs

/-! The trees that tokens nest to, by the tokens that they are made of. -/
namespace CommandGen.Source

/-- Tokens and the trees that they make. -/
inductive Nests : List (Token × Span) → List Tree → Prop
  | nil : Nests [] []
  | word {toks ts span} (text : String) : Nests toks ts →
    Nests ((.word text, span) :: toks) (.word text span :: ts)
  | mark {toks ts span} (c : Char) (joined : Bool) :
    Nests toks ts → Nests ((.mark c joined, span) :: toks) (.mark c joined span :: ts)
  | literal {toks ts span} (l : Literal) : Nests toks ts →
    Nests ((.literal l, span) :: toks) (.literal l span :: ts)
  | doc {toks ts span} (d : DocComment) : Nests toks ts →
    Nests ((.doc d, span) :: toks) (d.trees span ++ ts)
  | group {inner toks content ts first last} (d : Delimiter) : Nests inner content → Nests toks ts →
    Nests ((.opening d, first) :: (inner ++ (.closing d, last) :: toks))
      (.group d content ⟨first.start, last.stop⟩ :: ts)

variable {toks more : List (Token × Span)} {ts us : List Tree}

theorem Nests.nest_append (h : Nests toks ts) : ∀ outer done rest,
    nest outer done (toks ++ rest) = nest outer (ts.reverse ++ done) rest := by
  induction h with
  | nil => exact fun _ _ _ => rfl
  | word | mark | literal | doc => simp_all [nest]
  | group d _ _ ihinner ihrest =>
    intro outer done rest
    simp [nest, ihinner, ihrest]

theorem Nests.append (h : Nests toks ts) (hmore : Nests more us) :
    Nests (toks ++ more) (ts ++ us) := by
  induction h with
  | nil => exact hmore
  | word text _ ih => exact ih.word text
  | mark c joined _ ih => exact ih.mark c joined
  | literal l _ ih => exact ih.literal l
  | doc d _ ih => simpa using ih.doc d
  | group d hinner _ _ ih => simpa using Nests.group d hinner ih

/-- What tokens are that close the groups of a list, with these trees before them: they go on with
trees of their own, and, if a group is open, with its end. -/
def Closes (outer : List OpenGroup) (done : List Tree) (toks : List (Token × Span))
    (ts : List Tree) : Prop :=
  match outer with
  | [] => ∃ us, ts = done.reverse ++ us ∧ Nests toks us
  | g :: outer => ∃ inner content last rest, toks = inner ++ (.closing g.delimiter, last) :: rest ∧
    Nests inner content ∧
    nest outer (.group g.delimiter (done.reverse ++ content) ⟨g.start,
      last.stop⟩ :: g.before) rest = some ts

theorem Closes.prepend {outer : List OpenGroup} {done : List Tree}
    (first : List (Token × Span)) (leaf : List Tree) (hleaf : ∀ {toks us},
    Nests toks us → Nests (first ++ toks) (leaf ++ us))
    (h : Closes outer (leaf.reverse ++ done) toks ts) : Closes outer done (first ++ toks) ts := by
  cases outer with
  | nil =>
    obtain ⟨us, rfl, hus⟩ := h
    exact ⟨leaf ++ us, by simp, hleaf hus⟩
  | cons g outer =>
    obtain ⟨inner, content, last, rest, rfl, hinner, hrest⟩ := h
    exact ⟨first ++ inner, leaf ++ content, last, rest, by simp, hleaf hinner, by simpa using hrest⟩

theorem closes_of_nest : ∀ {toks : List (Token × Span)} {outer : List OpenGroup} {done : List Tree},
    nest outer done toks = some ts → Closes outer done toks ts
  | [], [], done, h => ⟨[], by simpa [nest] using h.symm, .nil⟩
  | (.word text, span) :: rest, outer, done, h => by
    rw [nest] at h
    exact .prepend [_] [.word text span] (·.word text) (closes_of_nest h)
  | (.mark c joined, span) :: rest, outer, done, h => by
    rw [nest] at h
    exact .prepend [_] [.mark c joined span] (·.mark c joined) (closes_of_nest h)
  | (.literal l, span) :: rest, outer, done, h => by
    rw [nest] at h
    exact .prepend [_] [.literal l span] (·.literal l) (closes_of_nest h)
  | (.doc d, span) :: rest, outer, done, h => by
    rw [nest] at h
    exact .prepend [_] (d.trees span) (·.doc d) (closes_of_nest h)
  | (.opening d, span) :: rest, outer, done, h => by
    rw [nest] at h
    obtain ⟨inner, content, last, after, rfl, hinner, hafter⟩ := closes_of_nest h
    have hgroup {toks us} (hn : Nests toks us) :
        Nests ((.opening d, span) :: (inner ++ [(.closing d, last)]) ++ toks)
          ([.group d content ⟨span.start, last.stop⟩] ++ us) := by
      simpa using Nests.group d hinner hn
    simpa using Closes.prepend _ _ hgroup (closes_of_nest hafter)
  | (.closing d, span) :: rest, g :: outer, done, h => by
    rw [nest] at h
    split_ifs at h with hd
    subst hd
    exact ⟨[], [], span, rest, rfl, .nil, by simpa using h⟩
termination_by toks => toks.length

theorem nest_eq_some_iff : nest [] [] toks = some ts ↔ Nests toks ts := by
  constructor
  · intro h
    obtain ⟨us, rfl, hus⟩ := closes_of_nest h
    exact hus
  · intro h
    simpa [nest] using h.nest_append [] [] []

theorem Nests.eq_nil (h : Nests toks []) : toks = [] := by
  generalize hnil : ([] : List Tree) = ts at h
  cases h with
  | nil => rfl
  | doc d _ => cases hnil
  | _ => cases hnil

theorem Nests.eq_singleton_word {word : String} {span : Span}
    (h : Nests toks [.word word span]) : toks = [(.word word, span)] := by
  generalize hword : [Tree.word word span] = ts at h
  cases h with
  | word text hrest =>
    cases hword
    rw [hrest.eq_nil]
  | doc d _ => cases hword
  | _ => cases hword

theorem Nests.exists_of_kinds (h : Nests toks ts) (he : more.map (·.1) = toks.map (·.1)) :
    ∃ us, Nests more us := by
  induction h generalizing more with
  | nil =>
    obtain rfl : more = [] := by simpa using he
    exact ⟨[], .nil⟩
  | word | mark | literal | doc =>
    rename_i ih
    obtain ⟨⟨t, span⟩, rest, rfl, rfl, hrest⟩ := List.map_eq_cons_iff.mp he
    obtain ⟨us, hus⟩ := ih hrest
    first | exact ⟨_, hus.word _⟩ | exact ⟨_, hus.mark _ _⟩ | exact ⟨_,
      hus.literal _⟩ | exact ⟨_, hus.doc _⟩
  | group d _ _ ihinner ihrest =>
    obtain ⟨⟨t, span⟩, rest, rfl, rfl, hrest⟩ := List.map_eq_cons_iff.mp he
    rw [List.map_append] at hrest
    obtain ⟨inner, after, rfl, hinner, hclosing⟩ := List.map_eq_append_iff.mp hrest
    obtain ⟨⟨t, last⟩, outside, rfl, rfl, houtside⟩ := List.map_eq_cons_iff.mp hclosing
    obtain ⟨content, hcontent⟩ := ihinner hinner
    obtain ⟨us, hus⟩ := ihrest houtside
    exact ⟨_, .group d hcontent hus⟩

end CommandGen.Source
