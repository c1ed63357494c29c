import CommandGen.Files.Program

/-! Writing several files together. Each is staged beside its place before any place is changed. If
one cannot be put in its place, those that were are put back, so that the places hold the files from
before or the new ones. -/
namespace CommandGen

open FileProgram

structure OutputFile where
  path : String
  content : String
deriving DecidableEq

namespace OutputFile

def staging (f : OutputFile) : String := Path.sibling f.path "tmp"

def backup (f : OutputFile) : String := Path.sibling f.path "bak"

end OutputFile

/-- What became of a file. -/
inductive WriteResult where
  | written
  /-- It held the same text before. -/
  | unchanged
deriving DecidableEq

structure Staged where
  file : OutputFile
  result : WriteResult
deriving DecidableEq

/-- A file in its place, and whether the one from before was moved aside. -/
structure Replaced where
  file : OutputFile
  isBackedUp : Bool
deriving DecidableEq

inductive CommitFault where
  | staging (path : String)
  | movingAside (path : String)
  | writing (path : String)
deriving DecidableEq

def CommitFault.message : CommitFault → String
  | staging path => s!"failed to stage '{path}'"
  | movingAside path => s!"failed to move '{path}' aside"
  | writing path => s!"failed to write '{path}'"

/-- Why nothing was written, and which places could not be put back. -/
structure CommitError where
  fault : CommitFault
  unrestored : List String := []
deriving DecidableEq

def dropStaged (staged : List Staged) : FileProgram Unit :=
  match staged with
  | [] => return
  | s :: rest => do
    if s.result = .written then let _ ← remove s.file.staging
    dropStaged rest

def stageFiles (staged : List Staged) :
    List OutputFile → FileProgram (Except CommitError (List Staged))
  | [] => return .ok staged
  | f :: rest => do
    if (← readTextAt f.path) = some f.content then stageFiles (staged ++ [⟨f, .unchanged⟩]) rest
    else if ← writeWithDirs f.staging f.content then stageFiles (staged ++ [⟨f, .written⟩]) rest
    else
      dropStaged staged
      return .error ⟨.staging f.path, []⟩

def replaceFile (f : OutputFile) : FileProgram (Except CommitFault Replaced) := do
  let isBackedUp ← isFileAt f.path
  let aside ← if isBackedUp then move f.path f.backup else pure true
  if !aside then return .error (.movingAside f.path)
  if ← move f.staging f.path then return .ok ⟨f, isBackedUp⟩
  if isBackedUp then let _ ← move f.backup f.path
  return .error (.writing f.path)

def putBack : List Replaced → FileProgram (List String)
  | [] => return []
  | r :: rest => do
    let restored ← if r.isBackedUp then move r.file.backup r.file.path else remove r.file.path
    let more ← putBack rest
    return if restored then more else r.file.path :: more

def replaceFiles (replaced : List Replaced) :
    List Staged → FileProgram (Except CommitError (List Replaced))
  | [] => return .ok replaced
  | s :: rest =>
    match s.result with
    | .unchanged => replaceFiles replaced rest
    | .written => do
      match ← replaceFile s.file with
      | .ok r => replaceFiles (replaced ++ [r]) rest
      | .error fault =>
        let unrestored ← putBack replaced.reverse
        dropStaged (s :: rest)
        return .error ⟨fault, unrestored⟩

def dropBackups : List Replaced → FileProgram Unit
  | [] => return
  | r :: rest => do
    if r.isBackedUp then let _ ← remove r.file.backup
    dropBackups rest

/-- Write files together. -/
def commit (files : List OutputFile) :
    FileProgram (Except CommitError (List (String × WriteResult))) := do
  match ← stageFiles [] files with
  | .error e => return .error e
  | .ok staged =>
    match ← replaceFiles [] staged with
    | .error e => return .error e
    | .ok replaced =>
      dropBackups replaced
      return .ok (staged.map fun s => (s.file.path, s.result))

end CommandGen
