import CommandGen.Source.File
import CommandGen.Proofs.Scan.Outline
import CommandGen.Proofs.Source.Parser

/-! Where the attributes of fields come from: each of them is read somewhere in the trees of its
file. -/
namespace CommandGen.Source

/-- Trees that end a list, or end the content of a group that is somewhere in it. -/
inductive EndsIn : List Tree → List Tree → Prop
  | here {us ts} : us <:+ ts → EndsIn us ts
  | inside {us ts d content span rest} :
    .group d content span :: rest <:+ ts → EndsIn us content → EndsIn us ts

def Attribute.StandsIn (a : Attribute) (ts : List Tree) : Prop :=
  ∃ us, EndsIn us ts ∧ ∃ g rest, (outerAttribute g).run us = some (a, rest)

/-- What a parser gives holds no attributes but known ones and those that stand in the trees that it
reads. -/
def Parser.Finds {α : Type} (p : Parser α) (known : List Attribute)
    (held : α → List Attribute) : Prop :=
  ∀ ts a rest, p.run ts = some (a, rest) → ∀ x ∈ held a, x ∈ known ∨ x.StandsIn ts

variable {α β : Type} {ts us rest content : List Tree} {d : Delimiter} {span : Span}
  {g : Grammar} {x : Attribute} {known : List Attribute}

theorem EndsIn.of_suffix (h : EndsIn us ts) (hts : ts <:+ rest) : EndsIn us rest := by
  cases h with
  | here h => exact .here (h.trans hts)
  | inside hgroup h => exact .inside (hgroup.trans hts) h

theorem Attribute.StandsIn.of_suffix (h : x.StandsIn ts) (hts : ts <:+ rest) : x.StandsIn rest := by
  obtain ⟨us, hus, hread⟩ := h
  exact ⟨us, hus.of_suffix hts, hread⟩

theorem Attribute.StandsIn.of_group (h : x.StandsIn content) :
    x.StandsIn (.group d content span :: rest) := by
  obtain ⟨us, hus, hread⟩ := h
  exact ⟨us, .inside List.suffix_rfl hus, hread⟩

namespace Parser.Finds

variable {p : Parser α} {q : α → Parser β} {held : α → List Attribute} {more : β → List Attribute}

theorem of_eq_nil (h : ∀ a, held a = []) : p.Finds known held := by
  intro ts a rest _ x hx
  simp [h] at hx

theorem failure : Finds (failure : Parser α) known held := by
  rintro _ _ _ ⟨⟩

theorem delay (p : Unit → Parser α) (h : (p ()).Finds known held) : Finds (.delay p) known held := h

theorem pure {a : α} (h : held a ⊆ known) : Finds (Pure.pure a) known held := by
  intro ts b rest hrun x hx
  obtain ⟨rfl, -⟩ : a = b ∧ ts = rest := by simpa using hrun
  exact .inl (h hx)

theorem bind (hp : p.Finds known held) (hq : ∀ a, (q a).Finds (held a ++ known) more) :
    (p >>= q).Finds known more := by
  intro ts b rest hrun x hx
  obtain ⟨a, mid, ha, hb⟩ := run_bind_eq_some.mp hrun
  rcases hq a _ _ _ hb x hx with hknown | hstands
  · exact (List.mem_append.mp hknown).elim (hp _ _ _ ha x) .inl
  · exact .inr (hstands.of_suffix (p.isSuffix ha))

theorem skip (hq : ∀ a, (q a).Finds known more) : (p >>= q).Finds known more :=
  bind (of_eq_nil fun _ => rfl) hq

theorem ite {p q : Parser α} {c : Prop} [Decidable c] (hp : p.Finds known held)
    (hq : q.Finds known held) :
    (if c then p else q).Finds known held := by
  split
  · exact hp
  · exact hq

theorem within (hp : p.Finds [] held) : (within d p).Finds known held := by
  intro ts a rest hrun x hx
  obtain ⟨content, span, rfl, ha⟩ := run_within_eq_some.mp hrun
  exact .inr ((hp _ _ _ ha x hx).resolve_left List.not_mem_nil).of_group

theorem forget (h : p.Finds [] held) : p.Finds known held :=
  fun ts a rest hrun x hx => .inr ((h ts a rest hrun x hx).resolve_left List.not_mem_nil)

theorem pure_cons {a : α} {as : List α} :
    (Pure.pure (a :: as) : Parser (List α)).Finds (as.flatMap held ++ (held a ++ known)) fun as =>
      as.flatMap held :=
  pure fun x hx => by
    simp only [List.flatMap_cons, List.mem_append] at hx ⊢
    exact hx.elim (fun h => .inr (.inl h)) .inl

theorem repeatFor {stop : List Tree → Bool} (hp : p.Finds [] held) (n : ℕ) :
    (repeatFor stop p n).Finds known fun as => as.flatMap held := by
  induction n generalizing known with
  | zero => exact .skip fun _ => .skip fun _ => .pure (by simp)
  | succ n ih =>
    exact .skip fun _ => .ite (.pure (by simp)) <| .bind hp.forget fun a =>
      .bind ih fun more => .pure_cons

theorem separatedFor {stop : List Tree → Bool} {separator : Parser Unit}
    (hp : p.Finds [] held) (n : ℕ) :
    (separatedFor stop separator p n).Finds known fun as => as.flatMap held := by
  induction n generalizing known with
  | zero => exact .skip fun _ => .skip fun _ => .pure (by simp)
  | succ n ih =>
    exact .skip fun _ => .ite (.pure (by simp)) <| .bind hp.forget fun a => .skip fun _ =>
      .ite (.pure (by simp)) <|
      .skip fun _ => .bind ih fun more => .pure_cons

theorem repeatUntil {stop : List Tree → Bool} (hp : p.Finds [] held) :
    (repeatUntil stop p).Finds known fun as => as.flatMap held := .skip fun _ => hp.repeatFor _

theorem commaList (hp : p.Finds [] held) : (commaList p).Finds known fun as => as.flatMap held :=
  .skip fun _ => hp.separatedFor _

end Parser.Finds

def fieldAttributes (structs : List (List Nat × StructDecl)) : List Attribute :=
  structs.flatMap fun s => s.2.fields.flatMap (·.attributes)

theorem mem_fieldAttributes {structs : List (List Nat × StructDecl)} :
    x ∈ fieldAttributes structs ↔ ∃ s ∈ structs, ∃ f ∈ s.2.fields, x ∈ f.attributes := by
  simp [fieldAttributes]

def Item.attributes (item : Item) : List Attribute := fieldAttributes (outlineOfItem item)

/-- A grammar whose productions for declarations hold no attributes but those that are read. -/
structure Grammar.FindsAttributes (g : Grammar) : Prop where
  fields : g.fields.Finds [] fun fs => fs.flatMap (·.attributes)
  item : g.item.Finds [] Item.attributes

theorem finds_outerAttribute (g : Grammar) : (outerAttribute g).Finds [] fun a => [a] := by
  intro ts a rest hrun x hx
  obtain rfl := List.mem_singleton.mp hx
  exact .inr ⟨ts, .here List.suffix_rfl, g, rest, hrun⟩

theorem finds_outerAttributes (g : Grammar) : (outerAttributes g).Finds known fun as => as := by
  have hall : (outerAttributes g).Finds known fun as => as.flatMap fun a => [a] :=
    (finds_outerAttribute g).repeatUntil
  simpa using hall

theorem finds_fields (g : Grammar) :
    (fields g).Finds known fun fs => fs.flatMap (·.attributes) := by
  refine .within <| .commaList <| .bind (finds_outerAttributes g) fun as =>
    .skip fun _ => .skip fun ts => ?_
  have hfield : Parser.Finds (pure ⟨as⟩) (as ++ []) Field.attributes := .pure (by simp)
  exact .ite (.skip fun _ => .skip fun _ => .skip fun _ => .ite (.skip fun _ => .skip fun _ => hfield) <|
      .skip fun _ => hfield) <|
    .skip fun _ => .skip fun _ => .skip fun _ =>
      .ite (.skip fun _ => .skip fun _ => hfield) <| .skip fun _ => hfield

theorem finds_tupleFields (g : Grammar) :
    (tupleFields g).Finds known fun fs => fs.flatMap (·.attributes) :=
  .within <| .commaList <| .bind (finds_outerAttributes g) fun as => .skip fun _ =>
    .skip fun _ => .pure (by simp)

theorem finds_structRest (hg : g.FindsAttributes) : (structRest g).Finds [] Item.attributes := by
  have hrecord {name span fs} {known : List Attribute} (h : (fs.flatMap Field.attributes) ⊆ known) :
      Parser.Finds (pure (.record ⟨name, span, fs⟩)) known Item.attributes :=
    .pure (by simpa [Item.attributes, fieldAttributes, outlineOfItem] using h)
  refine .skip fun (name, span) => .skip fun _ => .skip fun conditional =>
    .skip fun ts => .ite ?_ <| .ite ?_ ?_
  · exact .bind (finds_tupleFields g) fun fs => .skip fun _ => .skip fun _ => hrecord (by simp)
  · exact .bind hg.fields fun fs => hrecord (by simp)
  · exact .skip fun _ => hrecord (by simp)

theorem flatMap_attributes (items : List Item) (n : ℕ) :
    items.flatMap Item.attributes = fieldAttributes (outlineFrom n items) := by
  induction items generalizing n with
  | nil => rfl
  | cons item rest ih =>
    rw [List.flatMap_cons, ih (n + 1), outlineFrom, fieldAttributes,
      fieldAttributes, List.flatMap_append, List.flatMap_map]
    rfl

theorem finds_moduleRest (hg : g.FindsAttributes) : (moduleRest g).Finds [] Item.attributes := by
  have hrest : Parser.Finds (eat1? ';' >>= fun ended => if ended = true then pure .other
      else within .brace (innerAttributes g >>= fun _ => repeatUntil List.isEmpty g.item >>= fun items =>
        pure (.inlineModule items))) [] Item.attributes := by
    refine .skip fun _ => .ite (.pure (List.Subset.refl _)) <| .within <| .skip fun _ =>
      .bind hg.item.repeatUntil fun items => .pure ?_
    rw [flatMap_attributes items 0]
    exact List.subset_append_left _ _
  exact .skip fun _ => .ite (.skip fun _ => hrest) hrest

theorem finds_itemRest (hg : g.FindsAttributes) (visible : Bool) :
    (itemRest g visible).Finds [] Item.attributes := by
  have other {p : Parser Unit} : Parser.Finds (p >>= fun _ => pure Item.other) [] Item.attributes :=
    .skip fun _ => .pure (List.Subset.refl _)
  have hmodule := finds_moduleRest hg
  have hstruct := finds_structRest hg
  exact .skip fun ts => .ite other <| .ite (.ite other other) <|
    .skip fun _ => .ite other <| .skip fun _ => .ite other <| .skip fun _ => .ite other <|
    .ite (.ite other <| .ite other <| .ite other <| .ite other <| .skip fun _ =>
      .skip fun _ => hmodule) <|
    .skip fun _ => .ite hmodule <| .skip fun _ => .ite other <| .skip fun _ => .ite hstruct <|
    .skip fun _ => .ite other <| .ite other <| .skip fun _ => .ite other <| .ite other <|
    .ite (.skip fun _ => .skip fun _ => .skip fun _ => other) <| .skip fun _ =>
      .ite other <| .skip fun _ => other

theorem finds_item (hg : g.FindsAttributes) : (item g).Finds [] Item.attributes :=
  .skip fun _ => .skip fun visible => finds_itemRest hg visible

theorem finds_grammarTo (n : ℕ) : (grammarTo n).FindsAttributes := by
  induction n with
  | zero => exact ⟨.failure, .failure⟩
  | succ n ih =>
    exact ⟨.delay (fun _ => fields (grammarTo n)) (finds_fields _),
      .delay (fun _ => item (grammarTo n)) (finds_item ih)⟩

theorem finds_fileItems (hg : g.FindsAttributes) :
    (fileItems g).Finds [] fun items => items.flatMap Item.attributes :=
  .skip fun _ => hg.item.repeatUntil

theorem standsIn_of_items {f : File} {items : List Item} (h : f.items? = some items) :
    ∃ ts, trees f.body = some ts ∧ ∀ a ∈ fieldAttributes (outlineFrom 0 items), a.StandsIn ts := by
  obtain ⟨ts, hts, hread⟩ := Option.bind_eq_some_iff.mp h
  refine ⟨ts, hts, fun a ha => ?_⟩
  unfold readAll at hread
  split at hread
  · rename_i found hrun
    obtain rfl := Option.some.inj hread
    rw [← flatMap_attributes] at ha
    exact (finds_fileItems (finds_grammarTo _) _ _ _ hrun a ha).resolve_left List.not_mem_nil
  · cases hread

end CommandGen.Source
