import CommandGen.Source.Grammar.Item

/-! The grammar of source text: every production with the others inside it. -/
namespace CommandGen.Source

def grammarTo : Nat → Grammar
  | 0 => Grammar.none
  | n + 1 => {
    type := fun plus => type (grammarTo n) plus
    bound := fun capture constness => bound (grammarTo n) capture constness
    binder := .delay fun _ => binder (grammarTo n)
    pattern := .delay fun _ => pattern (grammarTo n)
    expression := fun structs => expression (grammarTo n) structs
    operand := fun structs => operand (grammarTo n) structs
    operators := fun structs shape base => operators (grammarTo n) structs shape base
    statementExpression := .delay fun _ => statementExpression (grammarTo n)
    statements := .delay fun _ => statements (grammarTo n)
    useTree := fun root => useTree (grammarTo n) root
    fields := .delay fun _ => fields (grammarTo n)
    item := .delay fun _ => item (grammarTo n) }

mutual

def Tree.count : Tree → Nat
  | .group _ content _ => 1 + countTrees content
  | _ => 1

def countTrees : List Tree → Nat
  | [] => 0
  | t :: rest => t.count + countTrees rest

end

/-- Productions may follow each other before one takes a tree, and no more than these do. -/
def depthOf (ts : List Tree) : Nat := 64 + 32 * countTrees ts

def readAll (p : Grammar → Parser α) (ts : List Tree) : Option α :=
  match (p (grammarTo (depthOf ts))).run ts with
  | some (a, []) => some a
  | _ => none

end CommandGen.Source
