import CommandGen.Files.Program
import CommandGen.Scan.Basic

/-! Scanning the source files of a directory. -/
namespace CommandGen

open FileProgram

/-- The source files among paths: files with the extension of sources. -/
def sourceFilesAmong : List String → FileProgram (List String)
  | [] => return []
  | path :: rest => do
    let isSource ← if Path.extension? path = some "rs" then isFileAt path else pure false
    let more ← sourceFilesAmong rest
    return if isSource then path :: more else more

def sourceFiles (dir : String) : FileProgram (Except ScanError (List String)) := do
  match ← namesIn dir with
  | none => return .error (.unreadable dir)
  | some found =>
    let sorted := found.mergeSort fun a b => decide (a ≤ b)
    return .ok (← sourceFilesAmong (sorted.map (Path.join dir)))

def scanFiles (o : ScanOptions) (found : List FoundCommand) :
    List String → FileProgram (Except ScanError (List FoundCommand))
  | [] => return .ok found
  | path :: rest => do
    match ← readTextAt path with
    | none => return .error (.unreadable path)
    | some text =>
      match addFile o found ⟨path, text⟩ with
      | .error e => return .error e
      | .ok found => scanFiles o found rest

/-- The commands of a directory. What is below its own directories is left alone. -/
def scanDirectory (o : ScanOptions) (dir : String) :
    FileProgram (Except ScanError (List FoundCommand)) := do
  match ← sourceFiles dir with
  | .error e => return .error e
  | .ok paths => scanFiles o [] paths

end CommandGen
