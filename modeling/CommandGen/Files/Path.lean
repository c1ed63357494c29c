import CommandGen.Text.Pieces

/-! Paths as text: names with slashes between them. Empty parts and single dots mean nothing, but
for a dot in front of a relative path. -/
namespace CommandGen.Path

open Text

def isAbsolute (path : String) : Bool := path.toList.head? = some '/'

def pieces (path : String) : List String := (Text.pieces (· == '/') path.toList).map String.ofList

def parts (path : String) : List String :=
  match pieces path with
  | [] => []
  | first :: rest =>
    (if first = "" then [] else [first]) ++ rest.filter fun part => part ≠ "" && part ≠ "."

/-- Whether a path can only name a directory, since it ends in a slash or a dot. -/
def namesDirectory (path : String) : Bool :=
  match (pieces path).getLast? with
  | some last => last = "" || last = "." || last = ".."
  | none => true

/-- A name below a directory. An absolute name replaces the directory, and a slash is put between
only where the directory does not end in one. -/
def join (dir name : String) : String :=
  if isAbsolute name || dir = "" then name
  else if dir.toList.getLast? = some '/' then dir ++ name
  else dir ++ "/" ++ name

def fileName? (path : String) : Option String :=
  (parts path).getLast?.filter fun part => part ≠ "." && part ≠ ".."

def ofParts (absolute : Bool) (parts : List String) : String :=
  (if absolute then "/" else "") ++ "/".intercalate parts

/-- The path without its last part; the root and the empty path have none. -/
def parent? (path : String) : Option String :=
  match parts path with
  | [] => none
  | found => some (ofParts (isAbsolute path) found.dropLast)

/-- The path with another name for its last part, or with one added if the last part is no name. -/
def withFileName (path name : String) : String :=
  match fileName? path, parent? path with
  | some _, some dir => join dir name
  | _, _ => join path name

/-- A hidden path beside another one: `.NAME.SUFFIX`. -/
def sibling (path suffix : String) : String :=
  withFileName path ("." ++ (fileName? path).getD "" ++ "." ++ suffix)

/-- What follows the last dot of a name, unless the name starts with it. -/
def extension? (path : String) : Option String :=
  match fileName? path with
  | none => none
  | some name =>
    match (Text.pieces (· == '.') name.toList).reverse with
    | last :: before :: more =>
      if more = [] && before = [] then none else some (String.ofList last)
    | _ => none

end CommandGen.Path
