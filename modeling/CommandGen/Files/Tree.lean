import CommandGen.Files.Path

/-! A tree of files and directories. An operation fails only for what stands in the tree: an entry
is missing, or a directory stands where a file is needed, or a file where a directory is. -/
namespace CommandGen

inductive Content where
  | text (value : String)
  /-- Bytes that are no text. -/
  | binary (bytes : List UInt8)
deriving DecidableEq

inductive FileEntry where
  | file (content : Content)
  | directory
deriving DecidableEq

abbrev Location := List String

/-- All entries but the root, which is always a directory. A location has at most one entry. -/
structure FileTree where
  entries : List (Location × FileEntry) := []
  /-- Where relative paths start. -/
  workDir : Location := []
deriving DecidableEq

namespace FileTree

variable (t : FileTree)

def entry? (l : Location) : Option FileEntry :=
  if l = [] then some .directory else t.entries.lookup l

def isDirectoryAt (l : Location) : Bool := t.entry? l = some .directory

def put (l : Location) (e : FileEntry) : FileTree :=
  { t with entries := (l, e) :: t.entries.filter (·.1 ≠ l) }

def without (l : Location) : FileTree := { t with entries := t.entries.filter (·.1 ≠ l) }

def erase (l : Location) : FileTree :=
  { t with entries := t.entries.filter fun e => !l.isPrefixOf e.1 }

def atWork (workDir : Location) : FileTree where
  entries := (List.range workDir.length).map fun n => (workDir.take (n + 1), .directory)
  workDir := workDir

/-- A name that an entry can have: 255 bytes at most, and no null. -/
def isEntryName (name : String) : Bool := name.utf8ByteSize ≤ 255 && !name.toList.contains '\x00'

def follow? (l : Location) (part : String) : Option Location :=
  if !t.isDirectoryAt l then none
  else if part = "." then some l
  else if part = ".." then some l.dropLast
  else if isEntryName part then some (l ++ [part])
  else none

def start (path : String) : Location := if Path.isAbsolute path then [] else t.workDir

/-- The location of a path. All on the way to it has to be there, but it need not itself. -/
def locate? (path : String) : Option Location :=
  if path = "" then none else (Path.parts path).foldlM t.follow? (t.start path)

def locateFile? (path : String) : Option Location :=
  if Path.namesDirectory path then none else t.locate? path

/-- The content of the file at a path, if it is text. -/
def readText (path : String) : Option String :=
  match t.locateFile? path >>= t.entry? with
  | some (.file (.text s)) => some s
  | _ => none

def isFile (path : String) : Bool :=
  match t.locateFile? path >>= t.entry? with
  | some (.file _) => true
  | _ => false

def isDirectory (path : String) : Bool := (t.locate? path).any t.isDirectoryAt

def nameBelow? (l : Location) (e : Location × FileEntry) : Option String :=
  match e.1.getLast? with
  | some name => if e.1 = l ++ [name] then some name else none
  | none => none

def names (dir : String) : Option (List String) :=
  match t.locate? dir with
  | some l => if t.isDirectoryAt l then some (t.entries.filterMap (nameBelow? l)) else none
  | none => none

/-- Make the directories that parts of a path name, one below the other. -/
def makeDirsAt (t : FileTree) (l : Location) : List String → FileTree × Bool
  | [] => (t, t.isDirectoryAt l)
  | part :: rest =>
    match t.follow? l part with
    | none => (t, false)
    | some next =>
      match t.entry? next with
      | some .directory => makeDirsAt t next rest
      | some (.file _) => (t, false)
      | none => makeDirsAt (t.put next .directory) next rest

def makeDirs (dir : String) : FileTree × Bool :=
  if dir = "" then (t, true)
  else if dir.toList.contains '\x00' then (t, false)
  else t.makeDirsAt (t.start dir) (Path.parts dir)

def writeContent (path : String) (content : Content) : FileTree × Bool :=
  match t.locateFile? path with
  | none => (t, false)
  | some l =>
    if t.isDirectoryAt l || !t.isDirectoryAt l.dropLast then (t, false)
    else (t.put l (.file content), true)

def writeText (path text : String) : FileTree × Bool := t.writeContent path (.text text)

def moveFile (source target : String) : FileTree × Bool :=
  match t.locateFile? source, t.locateFile? target with
  | some from_, some to_ =>
    match t.entry? from_ with
    | some (.file content) =>
      if t.isDirectoryAt to_ || !t.isDirectoryAt to_.dropLast then (t, false)
      else ((t.without from_).put to_ (.file content), true)
    | _ => (t, false)
  | _, _ => (t, false)

def removeFile (path : String) : FileTree × Bool :=
  match t.locateFile? path with
  | none => (t, false)
  | some l =>
    match t.entry? l with
    | some (.file _) => (t.without l, true)
    | _ => (t, false)

def removeAll (path : String) : FileTree × Bool :=
  if t.isDirectory path then
    match t.locate? path with
    | some l => if l = [] then (t, false) else (t.erase l, true)
    | none => (t, false)
  else t.removeFile path

/-- All paths below the working directory in order; those of directories end in a slash. -/
def listing : List String :=
  let paths := t.entries.filterMap fun (l, e) =>
    if t.workDir.isPrefixOf l ∧ l ≠ t.workDir then
      let path := "/".intercalate (l.drop t.workDir.length)
      some (if e = .directory then path ++ "/" else path)
    else none
  paths.mergeSort fun a b => decide (a ≤ b)

end FileTree

end CommandGen
