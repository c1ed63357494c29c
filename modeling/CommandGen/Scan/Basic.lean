import CommandGen.Command.Set
import CommandGen.Scan.Declaration

/-! Scanning sources for commands. -/
namespace CommandGen

open Source

structure FoundCommand where
  typeName : String
  command : Command
  location : String
  isNested : Bool
deriving DecidableEq

def FoundCommand.warning : String :=
  "command declared in an inline module must be re-exported to be visible to generated code"

mutual

/-- The structures of a declaration, each with whether it is inside a module. -/
def structsOfItem (isNested : Bool) : Item → List (Bool × StructDecl)
  | .record decl => [(isNested, decl)]
  | .inlineModule items => structsOf true items
  | .other => []

def structsOf (isNested : Bool) : List Item → List (Bool × StructDecl)
  | [] => []
  | item :: rest => structsOfItem isNested item ++ structsOf isNested rest

end

def scanStruct (o : ScanOptions) (f : File) (isNested : Bool) (decl : StructDecl) :
    Except ScanError (Option FoundCommand) := do
  let command? ← declaredCommand? o f.range decl
  return command?.map fun command => ⟨decl.name, command, f.location decl.span, isNested⟩

/-- The commands among structures in their order, or what is wrong with the first faulty one. -/
def scanStructs (o : ScanOptions) (f : File) :
    List (Bool × StructDecl) → Except ScanError (List FoundCommand)
  | [] => return []
  | (isNested, decl) :: rest => do
    let found? ← scanStruct o f isNested decl
    let more ← scanStructs o f rest
    return found?.toList ++ more

def scanFile (o : ScanOptions) (f : File) : Except ScanError (List FoundCommand) :=
  match f.items? with
  | none => .error .unparsable
  | some items => scanStructs o f (structsOf false items)

/-- Put a command to those found before, unless its type has the name of one of them. -/
def addFound (found : List FoundCommand) (new : FoundCommand) :
    Except ScanError (List FoundCommand) :=
  match found.find? (·.typeName = new.typeName) with
  | some first => .error (.duplicateType new.typeName first.location new.location)
  | none => .ok (found ++ [new])

def addFile (o : ScanOptions) (found : List FoundCommand) (f : File) :
    Except ScanError (List FoundCommand) := do
  (← scanFile o f).foldlM addFound found

def scanSource (o : ScanOptions) (f : File) : Except ScanError (List FoundCommand) := addFile o [] f

def CommandSet.ofFound (found : List FoundCommand) : CommandSet :=
  NameMap.ofList (found.map fun c => (c.typeName, c.command))

end CommandGen
