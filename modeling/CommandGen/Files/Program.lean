import CommandGen.Files.Tree

/-! Programs over files: operations with what follows each of their results. A program runs on a
tree, and so do all of its beginnings. -/
namespace CommandGen

inductive FileProgram (α : Type) where
  | done (a : α)
  | readText (path : String) (next : Option String → FileProgram α)
  | isFile (path : String) (next : Bool → FileProgram α)
  | names (dir : String) (next : Option (List String) → FileProgram α)
  | makeDirs (dir : String) (next : Bool → FileProgram α)
  | writeText (path text : String) (next : Bool → FileProgram α)
  | moveFile (source target : String) (next : Bool → FileProgram α)
  | removeFile (path : String) (next : Bool → FileProgram α)

namespace FileProgram

variable {α β : Type}

def bind (p : FileProgram α) (f : α → FileProgram β) : FileProgram β :=
  match p with
  | .done a => f a
  | .readText path next => .readText path fun r => (next r).bind f
  | .isFile path next => .isFile path fun r => (next r).bind f
  | .names dir next => .names dir fun r => (next r).bind f
  | .makeDirs dir next => .makeDirs dir fun r => (next r).bind f
  | .writeText path text next => .writeText path text fun r => (next r).bind f
  | .moveFile source target next => .moveFile source target fun r => (next r).bind f
  | .removeFile path next => .removeFile path fun r => (next r).bind f

instance : Monad FileProgram where
  pure := .done
  bind := bind

def run : FileProgram α → FileTree → α × FileTree
  | .done a, t => (a, t)
  | .readText path next, t => (next (t.readText path)).run t
  | .isFile path next, t => (next (t.isFile path)).run t
  | .names dir next, t => (next (t.names dir)).run t
  | .makeDirs dir next, t => (next (t.makeDirs dir).2).run (t.makeDirs dir).1
  | .writeText path text next, t => (next (t.writeText path text).2).run (t.writeText path text).1
  | .moveFile source target next, t =>
    (next (t.moveFile source target).2).run (t.moveFile source target).1
  | .removeFile path next, t => (next (t.removeFile path).2).run (t.removeFile path).1

/-- The trees that a program leaves after each of its operations. -/
def states : FileProgram α → FileTree → List FileTree
  | .done _, _ => []
  | .readText path next, t => t :: (next (t.readText path)).states t
  | .isFile path next, t => t :: (next (t.isFile path)).states t
  | .names dir next, t => t :: (next (t.names dir)).states t
  | .makeDirs dir next, t =>
    let (u, r) := t.makeDirs dir
    u :: (next r).states u
  | .writeText path text next, t =>
    let (u, r) := t.writeText path text
    u :: (next r).states u
  | .moveFile source target next, t =>
    let (u, r) := t.moveFile source target
    u :: (next r).states u
  | .removeFile path next, t =>
    let (u, r) := t.removeFile path
    u :: (next r).states u

def readTextAt (path : String) : FileProgram (Option String) := .readText path .done

def isFileAt (path : String) : FileProgram Bool := .isFile path .done

def namesIn (dir : String) : FileProgram (Option (List String)) := .names dir .done

def makeDirsAt (dir : String) : FileProgram Bool := .makeDirs dir .done

def writeTextAt (path text : String) : FileProgram Bool := .writeText path text .done

def move (source target : String) : FileProgram Bool := .moveFile source target .done

def remove (path : String) : FileProgram Bool := .removeFile path .done

def writeWithDirs (path text : String) : FileProgram Bool := do
  match Path.parent? path with
  | some dir =>
    if ← makeDirsAt dir then writeTextAt path text else return false
  | none => writeTextAt path text

end FileProgram

end CommandGen
