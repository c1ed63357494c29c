/-! Commands and their parameters, and the shape in which a command is carried out. -/
namespace CommandGen

structure Param where
  name : String
  /-- Field of the input structure that the parameter fills; empty when it fills none. -/
  inputField : String := ""
  isRequired : Bool := false
deriving DecidableEq, Inhabited

/-- What the annotations of one type say about its command. -/
structure Command where
  action : String := ""
  /-- Noun half of the public identifier. -/
  entity : String := ""
  api : String := ""
  call : Option String := none
  input : Option String := none
  output : Option String := none
  params : List Param := []
  hasDryRun : Bool := false
  genDryRun : Bool := false
deriving DecidableEq, Inhabited

inductive CallMode where
  /-- One operation of the client, with the types of its input and output. -/
  | direct (call : String) (input output : Option String)
  | manual
deriving DecidableEq

inductive DryRunMode where
  /-- No probe; a placeholder is returned. -/
  | unsupported
  | generated
  | manual
deriving DecidableEq

structure Mode where
  call : CallMode
  dryRun : DryRunMode
deriving DecidableEq

def CallMode.isDirect : CallMode → Bool
  | .direct .. => true
  | .manual => false

namespace Command

def identifier (c : Command) : String := c.action ++ c.entity

/-- Attach parameters in name order; those of one name keep their order. -/
def withParams (c : Command) (params : List Param) : Command :=
  { c with params := params.mergeSort fun p q => decide (p.name ≤ q.name) }

def requiredParams (c : Command) : List String := (c.params.filter (·.isRequired)).map (·.name)

def extraParams (c : Command) : List String := (c.params.filter (!·.isRequired)).map (·.name)

/-- An empty call is no call. -/
def callMode (c : Command) : CallMode :=
  match c.call with
  | some call => if call = "" then .manual else .direct call c.input c.output
  | none => .manual

def dryRunMode (c : Command) : DryRunMode :=
  if c.hasDryRun then (if c.genDryRun then .generated else .manual) else .unsupported

def mode (c : Command) : Mode := ⟨c.callMode, c.dryRunMode⟩

end Command

end CommandGen
