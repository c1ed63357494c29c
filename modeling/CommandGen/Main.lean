import CommandGen.CommandLine.Run

/-! The program on the files of the machine. -/
namespace CommandGen

open FileProgram

def succeeds (action : IO Unit) : IO Bool := do
  try
    action
    return true
  catch _ => return false

/-- A place in the file system by its path. -/
def place (path : String) : IO.FS.DirEntry := ⟨path, ""⟩

def isFileOnDisk (path : String) : IO Bool := do
  try
    let data ← (place path).root.metadata
    return data.type == .file
  catch _ => return false

def readTextOnDisk (path : String) : IO (Option String) := do
  try
    return some (← IO.FS.readFile path)
  catch _ => return none

def namesOnDisk (dir : String) : IO (Option (List String)) := do
  try
    let found ← (place dir).root.readDir
    return some (found.toList.map (·.fileName))
  catch _ => return none

def perform {α : Type} : FileProgram α → IO α
  | .done a => return a
  | .readText path next => do perform (next (← readTextOnDisk path))
  | .isFile path next => do perform (next (← isFileOnDisk path))
  | .names dir next => do perform (next (← namesOnDisk dir))
  | .makeDirs dir next => do
    perform (next (← if dir = "" then pure true else succeeds (IO.FS.createDirAll dir)))
  | .writeText path text next => do perform (next (← succeeds (IO.FS.writeFile path text)))
  | .moveFile source target next => do perform (next (← succeeds (IO.FS.rename source target)))
  | .removeFile path next => do perform (next (← succeeds (IO.FS.removeFile path)))

end CommandGen

def main (args : List String) : IO UInt32 := do
  let outcome ← CommandGen.perform (CommandGen.runArguments args)
  IO.eprint outcome.errors
  IO.print outcome.output
  return outcome.code.toUInt32
