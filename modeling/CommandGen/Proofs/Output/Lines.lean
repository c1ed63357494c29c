import CommandGen.Layout
import CommandGen.Output.Basic
import CommandGen.Proofs.Layout
import CommandGen.Proofs.Source.Reading

/-! Generated lines as pieces of source text. -/
namespace CommandGen

open Source

variable {ps qs hs cs : List Piece} {next : Option Char} {n : ℕ} {s : String}

def lineChars (n : Nat) (s : List Char) : List Char := List.replicate (4 * n) ' ' ++ (s ++ ['\n'])

def indented (n : Nat) (ps : List Piece) : List Piece :=
  List.replicate (4 * n) (.blank ' ') ++ (ps ++ [.blank '\n'])

def blockPieces (n : Nat) (hs body cs : List Piece) : List Piece :=
  indented n hs ++ (body ++ indented n cs)

def Step.Writes (step : Step) (n : Nat) (ps : List Piece) : Prop :=
  ∀ t, Layout.add ⟨.standard, n, t⟩ step = ⟨.standard, n, t ++ String.ofList (written ps)⟩

/-- At a level, the steps add the text of the pieces one after the other, and the level stays. -/
def Step.WriteAll (steps : List Step) (n : Nat) (ps : List Piece) : Prop :=
  ∀ t, Layout.addAll ⟨.standard, n, t⟩ steps = ⟨.standard, n, t ++ String.ofList (written ps)⟩

namespace Step

theorem margin_standard (n : ℕ) (t : String) :
    (Layout.margin ⟨.standard, n, t⟩).toList = List.replicate (4 * n) ' ' := by
  have hunit : Indent.standard.unit.toList = List.replicate 4 ' ' := rfl
  rw [Layout.margin, String.toList_join, List.flatMap_replicate, hunit,
    List.flatten_replicate_replicate, Nat.mul_comm]

theorem write_line (n : ℕ) (s t : String) :
    Layout.write ⟨.standard, n, t⟩ s = ⟨.standard, n, t ++ String.ofList (lineChars n s.toList)⟩ := by
  have htext : t ++ Layout.margin ⟨.standard, n, t⟩ ++ s ++ "\n" =
      t ++ String.ofList (lineChars n s.toList) := by
    refine String.toList_injective ?_
    simp [margin_standard, lineChars]
  exact congrArg (Layout.mk .standard n) htext

theorem write_indented (h : s.toList = written ps) (t : String) :
    Layout.write ⟨.standard, n, t⟩ s = ⟨.standard, n, t ++ String.ofList (written (indented n ps))⟩ := by
  have hblanks : written (List.replicate (4 * n) (.blank ' ')) = List.replicate (4 * n) ' ' := by
    simp [written, Piece.chars, List.flatMap_replicate]
  rw [write_line, h, indented, written_append, written_append, hblanks]
  rfl

theorem Writes.line (h : s.toList = written ps) : (Step.line s).Writes n (indented n ps) :=
  fun t => write_indented h t

theorem Writes.doc (s : String) : (Step.doc s).Writes n (indented n [.doc (' ' :: s.toList)]) :=
  fun t => write_indented (by simp [written, Piece.chars]) t

theorem Writes.blank : Step.blank.Writes n [.blank '\n'] := fun _ => rfl

theorem WriteAll.nil : WriteAll [] n [] := fun t => by simp [Layout.addAll, written]

theorem WriteAll.single {step : Step} (h : step.Writes n ps) : WriteAll [step] n ps := fun t => h t

theorem WriteAll.cons {step : Step} {steps : List Step} (h : step.Writes n ps)
    (hsteps : WriteAll steps n qs) :
    WriteAll (step :: steps) n (ps ++ qs) := by
  intro t
  rw [Layout.addAll, h, hsteps, written_append, String.ofList_append, String.append_assoc]

theorem WriteAll.append {steps more : List Step} (h : WriteAll steps n ps)
    (hmore : WriteAll more n qs) :
    WriteAll (steps ++ more) n (ps ++ qs) := by
  intro t
  rw [Layout.addAll_append, h, hmore, written_append, String.ofList_append, String.append_assoc]

theorem WriteAll.map {α : Type} {step : α → Step} {pieces : α → List Piece}
    (h : ∀ a, (step a).Writes n (pieces a)) (items : List α) :
    WriteAll (items.map step) n (items.flatMap pieces) := by
  induction items with
  | nil => exact .nil
  | cons a items ih => exact .cons (h a) ih

theorem Writes.block {header close : String} {steps : List Step} (hh : header.toList = written hs)
    (hc : close.toList = written cs) (h : WriteAll steps (n + 1) ps) :
    (Step.block header close steps).Writes n (blockPieces n hs ps cs) := by
  intro t
  have hbody := h (t ++ String.ofList (written (indented n hs)))
  rw [Layout.add, write_indented hh, Layout.deeper, hbody, Layout.shallower]
  simp only [Nat.add_sub_cancel]
  rw [write_indented hc]
  simp [blockPieces, written_append, String.append_assoc]

end Step

namespace Source.Reads

variable {P Q C : List Tree → Prop}

theorem blanks (k : ℕ) : Reads (List.replicate k (.blank ' ')) next (· = []) where
  fit := by
    induction k with
    | zero => rfl
    | succ k ih => rw [List.replicate_succ, allFit, ih]; rfl
  nests at_ := by
    refine ⟨[], ?_, rfl⟩
    induction k generalizing at_ with
    | zero => exact .nil
    | succ k ih => exact ih _

theorem feed : Reads [.blank '\n'] next (· = []) := ⟨rfl, fun _ => ⟨[], .nil, rfl⟩⟩

theorem withFeed (h : Reads ps (some '\n') P) : Reads (ps ++ [.blank '\n']) next P := by
  have hfirst : Reads ps (firstOf [.blank '\n'] next) P := h
  refine (hfirst.append feed).imp ?_
  rintro _ ⟨us, _, rfl, hus, rfl⟩
  simpa using hus

theorem indented (h : Reads ps (some '\n') P) : Reads (indented n ps) next P := by
  refine ((blanks (4 * n)).append h.withFeed).imp ?_
  rintro _ ⟨_, us, rfl, rfl, hus⟩
  exact hus

theorem block (d : Delimiter) (hh : Reads hs (some d.openingChar) P) (hb : ∀ next, Reads ps next Q)
    (hc : Reads cs (some '\n') C) :
    Reads (blockPieces n (hs ++ [.opening d]) ps (.closing d :: cs)) next fun ts =>
      ∃ us content span vs, ts = us ++ .group d content span :: vs ∧ P us ∧ Q content ∧ C vs := by
  have hpieces : blockPieces n (hs ++ [.opening d]) ps (.closing d :: cs) =
      List.replicate (4 * n) (.blank ' ') ++ (hs ++ ((.opening d :: (([.blank '\n'] ++ (ps ++
        List.replicate (4 * n) (.blank ' '))) ++ [.closing d])) ++ (cs ++ [.blank '\n']))) := by
    simp [blockPieces, CommandGen.indented]
  have hinside :
      Reads ([.blank '\n'] ++ (ps ++ List.replicate (4 * n) (.blank ' '))) (some d.closingChar) Q := by
    refine (feed.append ((hb _).append (blanks (4 * n)))).imp ?_
    rintro _ ⟨_, _, rfl, rfl, us, _, rfl, hus, rfl⟩
    simpa using hus
  rw [hpieces]
  refine ((blanks (4 * n)).append
    (hh.append ((hinside.group d (by simp [firstOf, written, Piece.chars])).append
    hc.withFeed))).imp ?_
  rintro _ ⟨_, _, rfl, rfl, us, _, rfl, hus, _, vs, rfl, ⟨content, span, rfl, hcontent⟩, hvs⟩
  exact ⟨us, content, span, vs, by simp, hus, hcontent, hvs⟩

end Source.Reads

end CommandGen
