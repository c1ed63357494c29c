/-! The data of a TOML document. -/
namespace CommandGen.Toml

/-- How a table came about, which decides where it may be added to. -/
inductive TableKind where
  /-- Written in braces; it is complete. -/
  | inline
  /-- Part of a longer name in a header. -/
  | implicit
  /-- Part of a longer name before a value. -/
  | dotted
  /-- Opened by a header of its own. -/
  | explicit
deriving DecidableEq

/-- Numbers, truth values and times are told apart from text, but not from each other. -/
inductive Value where
  | text (value : String)
  | scalar
  /-- A list, written in brackets or made by headers that open tables in it. -/
  | array (ofHeaders : Bool) (items : List Value)
  | table (kind : TableKind) (entries : List (String × Value))
deriving Inhabited

abbrev Entries := List (String × Value)

def Entries.set (key : String) (v : Value) (entries : Entries) : Entries :=
  entries.map fun e => if e.1 = key then (key, v) else e

/-- Put a value under a name with dots. Only tables made by such names can be added to, and no key
is given twice. -/
def Entries.put? : List String → Value → Entries → Option Entries
  | [], _, _ => none
  | [key], v, entries =>
    match entries.lookup key with
    | none => some (entries ++ [(key, v)])
    | some _ => none
  | key :: more, v, entries =>
    match entries.lookup key with
    | none => (Entries.put? more v []).map fun sub => entries ++ [(key, .table .dotted sub)]
    | some (.table .dotted old) =>
      (Entries.put? more v old).map fun sub => Entries.set key (.table .dotted sub) entries
    | some _ => none

def Entries.putAll? (pairs : List (List String × Value)) (entries : Entries) : Option Entries :=
  pairs.foldlM (fun entries (name, v) => entries.put? name v) entries

/-- Change what a name in a header leads to, given how to change its last part. Tables on the way
are made where they are missing, and of a list made by headers the last table counts. -/
def Entries.change? (last : String → Entries → Option Entries) :
    List String → Entries → Option Entries
  | [], _ => none
  | [key], entries => last key entries
  | key :: more, entries =>
    match entries.lookup key with
    | none => (Entries.change? last more []).map fun sub => entries ++ [(key, .table .implicit sub)]
    | some (.table kind old) =>
      if kind = .inline then none
      else (Entries.change? last more old).map fun sub => Entries.set key (.table kind sub) entries
    | some (.array true items) =>
      match items.getLast? with
      | some (.table kind old) =>
        (Entries.change? last more old).map fun sub =>
          Entries.set key (.array true (items.dropLast ++ [.table kind sub])) entries
      | _ => none
    | some _ => none

/-- Open a table by its header and fill it. One that was part of longer headers so far is kept. -/
def Entries.openTable (fill : Entries → Option Entries) (key : String) (entries : Entries) :
    Option Entries :=
  match entries.lookup key with
  | none => (fill []).map fun sub => entries ++ [(key, .table .explicit sub)]
  | some (.table .implicit old) =>
    (fill old).map fun sub => Entries.set key (.table .explicit sub) entries
  | some _ => none

def Entries.openItem (fill : Entries → Option Entries) (key : String) (entries : Entries) :
    Option Entries :=
  match entries.lookup key with
  | none => (fill []).map fun sub => entries ++ [(key, .array true [.table .explicit sub])]
  | some (.array true items) =>
    (fill []).map fun sub => Entries.set key (.array true (items ++ [.table .explicit sub])) entries
  | some _ => none

end CommandGen.Toml
