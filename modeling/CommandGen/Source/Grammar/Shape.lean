import CommandGen.Source.Grammar.Parser

/-! What the grammar keeps of what it reads: the declarations of structures with the attributes of
their fields, and of anything else only what decides how the text around it is read. -/
namespace CommandGen.Source

/-- An attribute: its path if that is one identifier, and the string literal that it holds. -/
structure Attribute where
  name : Option String
  value : Option (String × Span)
  span : Span
deriving DecidableEq

structure Field where
  attributes : List Attribute
deriving DecidableEq

structure StructDecl where
  name : String
  span : Span
  fields : List Field
deriving DecidableEq

/-- An item of a file or of a module written in place. -/
inductive Item where
  | record (decl : StructDecl)
  | inlineModule (items : List Item)
  | other

inductive ArgumentShape where
  | absent
  | empty
  | present
deriving DecidableEq

structure PathShape where
  leading : Bool
  segments : Nat
  /-- No segment has brackets of arguments. -/
  isPlain : Bool
  last : ArgumentShape

def PathShape.extend (p : PathShape) (arguments : ArgumentShape) : PathShape :=
  ⟨p.leading, p.segments + 1, p.isPlain && arguments = .absent, arguments⟩

inductive TypeShape where
  /-- One segment. -/
  | name
  /-- Another path, with no qualified part. -/
  | path
  /-- One bound that stands alone without a keyword. -/
  | bareBound
  | other
deriving DecidableEq

inductive BoundShape where
  | trait
  | lifetime
  | capture
  | constant
deriving DecidableEq

inductive PatternShape where
  /-- A range that lacks one of its ends. -/
  | openRange
  | other
deriving DecidableEq

inductive ExprShape where
  | range
  | comparison
  /-- It ends with its block and is a statement without a semicolon. -/
  | block
  /-- The use of a rule with braces. -/
  | bracedCall
  | other
deriving DecidableEq

structure Grammar where
  /-- A type; the flag admits bounds joined with `+`. -/
  type : Bool → Parser TypeShape
  /-- A bound; the flags admit captured lifetimes and constant bounds. -/
  bound : Bool → Bool → Parser BoundShape
  binder : Parser Unit
  pattern : Parser PatternShape
  /-- An expression; the flag admits a structure literal at its end. -/
  expression : Bool → Parser ExprShape
  /-- An operand with its operators in front and its calls, fields and indices behind. -/
  operand : Bool → Parser ExprShape
  /-- The operators that follow an operand of the given shape, from a precedence upwards. -/
  operators : Bool → ExprShape → Nat → Parser ExprShape
  /-- An expression that may end early, as a statement or the body of a case. -/
  statementExpression : Parser ExprShape
  statements : Parser Unit
  /-- A tree of used names; the flag admits a separator in front. -/
  useTree : Bool → Parser Unit
  fields : Parser (List Field)
  item : Parser Item

def Grammar.none : Grammar where
  type _ := failure
  bound _ _ := failure
  binder := failure
  pattern := failure
  expression _ := failure
  operand _ := failure
  operators _ _ _ := failure
  statementExpression := failure
  statements := failure
  useTree _ := failure
  fields := failure
  item := failure

end CommandGen.Source
