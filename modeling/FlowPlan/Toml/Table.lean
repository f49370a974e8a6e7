import FlowPlan.Document.Basic

/-!
The tables of a TOML text while it is read. How a table came about decides what may still be added
to it.
-/

namespace FlowPlan.Toml

/-- How a table came about. -/
inductive Origin where
  /-- It has a header. -/
  | header
  /-- A header names a table inside of it. -/
  | parent
  /-- A dotted key goes through it. -/
  | dotted
deriving DecidableEq

inductive Item where
  | value (document : Document)
  | table (origin : Origin) (entries : List (String × Item))

abbrev Entries := List (String × Item)

namespace Entries

def put (key : String) (item : Item) : Entries → Entries
  | [] => [(key, item)]
  | entry :: rest => if entry.1 = key then (key, item) :: rest else entry :: put key item rest

/-- Adds a value under a dotted key. A key is defined once; a table with a header is complete. -/
def assign : List String → Document → Entries → Option Entries
  | [], _, _ => none
  | [key], value, entries =>
    if (entries.lookup key).isSome then none else some (entries ++ [(key, .value value)])
  | key :: path, value, entries =>
    match entries.lookup key with
    | none => do return entries ++ [(key, .table .dotted (← assign path value []))]
    | some (.table .dotted inner) => do
      return put key (.table .dotted (← assign path value inner)) entries
    | some _ => none

/-- Adds the table of a header. It may be there already as the parent of others. -/
def openHeader : List String → Entries → Option Entries
  | [], _ => none
  | [key], entries =>
    match entries.lookup key with
    | none => some (entries ++ [(key, .table .header [])])
    | some (.table .parent inner) => some (put key (.table .header inner) entries)
    | some _ => none
  | key :: path, entries =>
    match entries.lookup key with
    | none => do return entries ++ [(key, .table .parent (← openHeader path []))]
    | some (.table origin inner) => do
      return put key (.table origin (← openHeader path inner)) entries
    | some (.value _) => none

def modify (change : Entries → Option Entries) : List String → Entries → Option Entries
  | [], entries => change entries
  | key :: path, entries =>
    match entries.lookup key with
    | some (.table origin inner) => do
      return put key (.table origin (← modify change path inner)) entries
    | _ => none

mutual

def itemDocument : Item → Document
  | .value document => document
  | .table _ entries => .mapping (fields entries)

def fields : List (String × Item) → List (String × Document)
  | [] => []
  | (key, item) :: rest => (key, itemDocument item) :: fields rest

end

end Entries

end FlowPlan.Toml
