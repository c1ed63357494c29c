import CommandGen.Proofs.Layout
import Mathlib.Data.List.Infix

/-! How far in the lines of a text stand. The level is one counter for blocks and for indents that
are opened by themselves, and it cannot go below zero. In a tree of steps whose indents are balanced
it never would, so the level at each step is told by the place of the step in the tree. -/
namespace CommandGen

/-- A line of a text with the level that it stands at; a blank line has none. -/
inductive Row where
  | blank
  | filled (level : Nat) (text : String)
deriving DecidableEq

/-- A row in a style: as many units as its level says, then its text. -/
def Row.written (style : Indent) : Row → String
  | .blank => "\n"
  | .filled level text => String.join (List.replicate level style.unit) ++ text ++ "\n"

def writtenRows (style : Indent) (rows : List Row) : String :=
  String.join (rows.map (Row.written style))

@[simp] theorem writtenRows_append (style : Indent) (rows more : List Row) :
    writtenRows style (rows ++ more) = writtenRows style rows ++ writtenRows style more := by
  simp [writtenRows]

namespace Step

def isIndent : Step → Bool
  | .indent => true
  | _ => false

def isDedent : Step → Bool
  | .dedent => true
  | _ => false

def openIndents (before : List Step) : Nat := before.countP isIndent - before.countP isDedent

/-- A body that opens and closes the same number of indents and never closes one that it has not
opened. -/
def closesIndents (body : List Step) : Bool :=
  body.countP isDedent == body.countP isIndent &&
    body.inits.all fun before => before.countP isDedent ≤ before.countP isIndent

mutual

def hasBalancedBlocks : Step → Bool
  | .block _ _ body => closesIndents body && haveBalancedBlocks body
  | _ => true

def haveBalancedBlocks : List Step → Bool
  | [] => true
  | s :: rest => s.hasBalancedBlocks && haveBalancedBlocks rest

end

/-- Every body of a tree of steps closes its indents, the outermost one too. -/
def areBalanced (steps : List Step) : Bool := closesIndents steps && haveBalancedBlocks steps

mutual

/-- The rows of a step at a level. -/
def rows (level : Nat) : Step → List Row
  | .line text => [.filled level text]
  | .blank => [.blank]
  | .doc text => [.filled level ("/// " ++ text)]
  | .indent => []
  | .dedent => []
  | .block header close body =>
    .filled level header :: (rowsAfter (level + 1) [] body ++ [.filled level close])

/-- The rows of steps behind others of the same body, which starts at a level. -/
def rowsAfter (level : Nat) (before : List Step) : List Step → List Row
  | [] => []
  | s :: rest => s.rows (level + openIndents before) ++ rowsAfter level (before ++ [s]) rest

end

/-- A step stands somewhere in a tree of steps: in so many blocks, and behind so many indents that
are open there, in its own body and in those around it. -/
inductive StandsIn (s : Step) : (blocks opened : Nat) → List Step → Prop
  | here (before : List Step) {after : List Step} :
    StandsIn s 0 (openIndents before) (before ++ s :: after)
  | inside {blocks opened : Nat} (before : List Step) {after body : List Step} {header close : String}
      (h : StandsIn s blocks opened body) :
      StandsIn s (blocks + 1) (openIndents before + opened) (before ++ .block header close body :: after)

variable {steps more before body : List Step} {s : Step} {level blocks opened : ℕ}

theorem closesIndents_iff : closesIndents body = true ↔
    body.countP isDedent = body.countP isIndent ∧
      ∀ before, before <+: body → before.countP isDedent ≤ before.countP isIndent := by
  simp [closesIndents, List.mem_inits]

theorem openIndents_of_closes (h : closesIndents body = true) : openIndents body = 0 := by
  rw [openIndents, (closesIndents_iff.mp h).1, Nat.sub_self]

def levelAfter (level : Nat) : Step → Nat
  | .indent => level + 1
  | .dedent => level - 1
  | _ => level

/-- Where no more is closed than was open, the counter goes with the indents that are open. -/
theorem openIndents_concat (hbefore : before.countP isDedent ≤ before.countP isIndent)
    (h : (before ++ [s]).countP isDedent ≤ (before ++ [s]).countP isIndent) :
    level + openIndents (before ++ [s]) = s.levelAfter (level + openIndents before) := by
  rw [openIndents, openIndents]
  cases s <;> simp [List.countP_append, List.countP_cons, isIndent, isDedent,
    levelAfter] at h ⊢ <;> omega

theorem write_eq (b : Layout) (text : String) :
    b.write text = ⟨b.style, b.level, b.text ++ writtenRows b.style [.filled b.level text]⟩ := by
  simp [Layout.write, Layout.margin, writtenRows, Row.written, String.append_assoc]

mutual

theorem add_of_hasBalancedBlocks (b : Layout) : (s : Step) → s.hasBalancedBlocks = true →
    b.add s = ⟨b.style, s.levelAfter b.level, b.text ++ writtenRows b.style (s.rows b.level)⟩
  | .line text, _ => write_eq b text
  | .blank, _ => by simp [Layout.add, levelAfter, writtenRows, rows, Row.written]
  | .doc text, _ => write_eq b _
  | .indent, _ => by simp [Layout.add, Layout.deeper, levelAfter, writtenRows, rows]
  | .dedent, _ => by simp [Layout.add, Layout.shallower, levelAfter, writtenRows, rows]
  | .block header close body, h => by
    obtain ⟨hcloses, hbody⟩ : closesIndents body = true ∧ haveBalancedBlocks body = true := by
      simpa [hasBalancedBlocks] using h
    have hinside :=
      addAll_of_haveBalancedBlocks (b.write header).deeper (b.level + 1) [] body hbody rfl
      (closesIndents_iff.mp hcloses).2
    -- The indents of the body are closed at its end, so the close stands as far in as the header.
    rw [List.nil_append, openIndents_of_closes hcloses] at hinside
    rw [Layout.add, hinside, Layout.shallower, write_eq, write_eq]
    simp [Layout.deeper, levelAfter, rows, writtenRows, String.append_assoc]

/-- Steps behind others of their body write their rows, each at the level of the body and of the
indents open there. -/
theorem addAll_of_haveBalancedBlocks (b : Layout) (level : ℕ) (before : List Step) :
    (steps : List Step) →
    haveBalancedBlocks steps = true → b.level = level + openIndents before →
    (∀ more, more <+: steps → (before ++ more).countP isDedent ≤ (before ++ more).countP isIndent) →
    b.addAll steps = ⟨b.style, level + openIndents (before ++ steps),
      b.text ++ writtenRows b.style (rowsAfter level before steps)⟩
  | [], _, hlevel, _ => by
    rw [List.append_nil, ← hlevel]
    simp [Layout.addAll, rowsAfter, writtenRows]
  | s :: rest, h, hlevel, hcloses => by
    obtain ⟨hs, hrest⟩ : s.hasBalancedBlocks = true ∧ haveBalancedBlocks rest = true := by
      simpa [haveBalancedBlocks] using h
    have hone := add_of_hasBalancedBlocks b s hs
    have hafter : s.levelAfter b.level = level + openIndents (before ++ [s]) := by
      rw [hlevel, openIndents_concat (by simpa using hcloses [] (by simp)) (hcloses [s] (by simp))]
    have hmore := addAll_of_haveBalancedBlocks (b.add s) level (before ++ [s]) rest hrest
      (by rw [hone, hafter])
      fun more hfirst => by simpa using hcloses (s :: more) (by simpa using hfirst)
    rw [Layout.addAll, hmore, hone, rowsAfter, writtenRows_append, hlevel]
    simp [String.append_assoc]

end

/-- The rows of a balanced tree of steps go behind the text, and nothing else changes. -/
theorem addAll_of_areBalanced (b : Layout) (h : areBalanced steps = true) :
    b.addAll steps = { b with text := b.text ++ writtenRows b.style (rowsAfter b.level [] steps) } := by
  obtain ⟨hcloses, hblocks⟩ : closesIndents steps = true ∧ haveBalancedBlocks steps = true := by
    simpa [areBalanced] using h
  have hrows :=
    addAll_of_haveBalancedBlocks b b.level [] steps hblocks rfl (closesIndents_iff.mp hcloses).2
  rwa [List.nil_append, openIndents_of_closes hcloses] at hrows

theorem layOut_of_areBalanced (h : areBalanced steps = true) :
    layOut steps = writtenRows .standard (rowsAfter 0 [] steps) := by
  simp [layOut, addAll_of_areBalanced _ h]

theorem text_addAll_flatten {parts : List (List Step)}
    (h : ∀ steps ∈ parts, areBalanced steps = true) (t : String) :
    (Layout.addAll { text := t } parts.flatten).text = t ++ String.join (parts.map layOut) := by
  induction parts generalizing t with
  | nil => simp [Layout.addAll]
  | cons steps more ih =>
    obtain ⟨hsteps, hmore⟩ := List.forall_mem_cons.mp h
    have hbehind := addAll_of_areBalanced { text := t } hsteps
    rw [← layOut_of_areBalanced hsteps] at hbehind
    rw [List.flatten_cons, Layout.addAll_append, hbehind, ih hmore, List.map_cons,
      String.join_cons, String.append_assoc]

mutual

def indentsByBlocks : Step → Bool
  | .indent => false
  | .dedent => false
  | .block _ _ body => indentByBlocks body
  | _ => true

def indentByBlocks : List Step → Bool
  | [] => true
  | s :: rest => s.indentsByBlocks && indentByBlocks rest

end

theorem not_indent_of_blocks (h : indentByBlocks body = true) :
    ∀ s ∈ body, isIndent s = false ∧ isDedent s = false := by
  induction body with
  | nil => simp
  | cons s rest ih =>
    obtain ⟨hs, hrest⟩ := Bool.and_eq_true_iff.mp h
    refine List.forall_mem_cons.mpr ⟨?_, ih hrest⟩
    cases s <;> simp_all [indentsByBlocks, isIndent, isDedent]

theorem closesIndents_of_blocks (h : indentByBlocks body = true) : closesIndents body = true := by
  have hnone := not_indent_of_blocks h
  have hcount :
      ∀ before, before <+: body → before.countP isIndent = 0 ∧ before.countP isDedent = 0 := by
    intro before hfirst
    exact ⟨List.countP_eq_zero.mpr fun s hs => by simp [hnone s (hfirst.subset hs)],
      List.countP_eq_zero.mpr fun s hs => by simp [hnone s (hfirst.subset hs)]⟩
  refine closesIndents_iff.mpr ⟨?_, fun before hfirst => ?_⟩
  · rw [(hcount body List.prefix_rfl).1, (hcount body List.prefix_rfl).2]
  · rw [(hcount before hfirst).2]
    exact Nat.zero_le _

theorem rowsAfter_of_blocks (hbefore : indentByBlocks before = true)
    (h : indentByBlocks steps = true) :
    rowsAfter level before steps = steps.flatMap (rows level) := by
  induction steps generalizing before with
  | nil => rfl
  | cons s rest ih =>
    obtain ⟨hs, hrest⟩ := Bool.and_eq_true_iff.mp h
    have hnone : openIndents before = 0 := openIndents_of_closes (closesIndents_of_blocks hbefore)
    have hmore : indentByBlocks (before ++ [s]) = true := by
      clear hnone
      induction before with
      | nil => simpa [indentByBlocks] using hs
      | cons a before ih =>
        obtain ⟨ha, hbefore⟩ := Bool.and_eq_true_iff.mp hbefore
        exact Bool.and_eq_true_iff.mpr ⟨ha, ih hbefore⟩
    rw [rowsAfter, hnone, Nat.add_zero, ih hmore hrest, List.flatMap_cons]

mutual

theorem hasBalancedBlocks_of_blocks :
    (s : Step) → s.indentsByBlocks = true → s.hasBalancedBlocks = true
  | .line _, _ => rfl
  | .blank, _ => rfl
  | .doc _, _ => rfl
  | .block _ _ body, h => by
    have hbody : indentByBlocks body = true := h
    rw [hasBalancedBlocks, closesIndents_of_blocks hbody,
      haveBalancedBlocks_of_blocks body hbody, Bool.and_self]

theorem haveBalancedBlocks_of_blocks : (steps : List Step) → indentByBlocks steps = true →
    haveBalancedBlocks steps = true
  | [], _ => rfl
  | s :: rest, h => by
    obtain ⟨hs, hrest⟩ := Bool.and_eq_true_iff.mp h
    rw [haveBalancedBlocks, hasBalancedBlocks_of_blocks s hs,
      haveBalancedBlocks_of_blocks rest hrest, Bool.and_self]

end

theorem areBalanced_of_blocks (h : indentByBlocks steps = true) : areBalanced steps = true := by
  rw [areBalanced, closesIndents_of_blocks h, haveBalancedBlocks_of_blocks steps h, Bool.and_self]

theorem rowsAfter_append : rowsAfter level before (steps ++ more) =
    rowsAfter level before steps ++ rowsAfter level (before ++ steps) more := by
  induction steps generalizing before with
  | nil => simp [rowsAfter]
  | cons s rest ih => simp [rowsAfter, ih]

theorem rowsAfter_middle {after : List Step} : rowsAfter level [] (before ++ s :: after) =
    rowsAfter level [] before ++ s.rows (level + openIndents before) ++
    rowsAfter level (before ++ [s]) after := by
  simp [rowsAfter_append, rowsAfter]

theorem StandsIn.exists_rows (h : s.StandsIn blocks opened steps) (level : ℕ) :
    ∃ above below,
      rowsAfter level [] steps = above ++ s.rows (level + blocks + opened) ++ below := by
  induction h generalizing level with
  | here => exact ⟨_, _, rowsAfter_middle⟩
  | @inside blocks opened before after body header close hinside ih =>
    obtain ⟨above, below, hbody⟩ := ih (level + openIndents before + 1)
    have hlevel : level + openIndents before + 1 + blocks + opened =
        level + (blocks + 1) + (openIndents before + opened) := by omega
    rw [rowsAfter_middle, rows, hbody, hlevel]
    exact ⟨rowsAfter level [] before ++ .filled (level + openIndents before) header :: above,
      below ++ .filled (level + openIndents before) close :: rowsAfter level
        (before ++ [.block header close body]) after,
      by simp⟩

end Step

/-- A balanced tree of steps leaves the text in front of it, the style and the level as they were.
What it writes is its rows, and each step has there its own rows at the level that its place tells:
the one at the start, one for each block around the step, and one for each indent that is open
there. So a line or a doc line stands at that level, a blank line at none, and a block is closed at
the level of its header, with the rows of its body between them. -/
theorem Layout.addAll_balanced (b : Layout) {steps : List Step}
    (h : Step.areBalanced steps = true) :
    let rows := Step.rowsAfter b.level [] steps
    (b.addAll steps).text = b.text ++ writtenRows b.style rows ∧
    (b.addAll steps).level = b.level ∧ (b.addAll steps).style = b.style ∧
    ∀ (s : Step) (blocks opened : ℕ), s.StandsIn blocks opened steps →
      ∃ above below, rows = above ++ s.rows (b.level + blocks + opened) ++ below := by
  have hadded := Step.addAll_of_areBalanced b h
  refine ⟨by rw [hadded], by rw [hadded], by rw [hadded], fun s blocks opened hs => ?_⟩
  exact hs.exists_rows b.level

/-- A doc line in a block, behind an indent in front of the block and one inside it. -/
theorem Layout.addAll_balanced_nested :
    let inside : List Step := [.line "x", .indent, .doc "y", .dedent, .blank]
    let steps : List Step := [.indent, .block "a \x7b" "\x7d" inside, .dedent, .line "b"]
    let b : Layout := ⟨.tab, 1, "z\n"⟩
    (b.addAll steps).text = "z\n\t\ta \x7b\n\t\t\tx\n\t\t\t\t/// y\n\n\t\t\x7d\n\tb\n" ∧
      (b.addAll steps).level = 1 ∧
      ∃ above below, Step.rowsAfter 1 [] steps = above ++ [.filled 4 "/// y"] ++ below := by
  intro inside steps b
  have hbalanced : Step.areBalanced steps = true := by decide
  obtain ⟨htext, hlevel, -, hplaces⟩ := b.addAll_balanced hbalanced
  have hinside : (Step.doc "y").StandsIn 0 1 inside := .here [.line "x", .indent]
  have hdoc : (Step.doc "y").StandsIn 1 2 steps := .inside [.indent] hinside
  exact ⟨htext.trans (by decide), hlevel, hplaces _ _ _ hdoc⟩

end CommandGen
