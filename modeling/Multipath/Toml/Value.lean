/-! TOML documents as values, and the rules by which the statements of a document build a
table. A table may be opened by a header, come about on the way to another header, be made
by a dotted key, or be written in line; which of these it was decides what may be added to
it later. Nothing may be defined twice. -/
namespace Multipath.Toml

/-- How a table came about. -/
inductive Origin where
  | header
  /-- It lies on the way to a header and has none of its own so far. -/
  | implicit
  | dotted
  | inline
  deriving DecidableEq, Repr

/-- A value. Numbers with a fraction, truth values and times are not among them. -/
inductive Value where
  | string (s : String)
  | integer (i : Int)
  | array (items : List Value)
  | table (origin : Origin) (entries : List (String × Value))
  /-- An array of tables that headers extend, the last one open. -/
  | tables (elements : List (List (String × Value)))
  deriving Repr

abbrev Entries := List (String × Value)

namespace Entries

/-- Bind a key, at the place of its old binding if it has one. -/
def put (entries : Entries) (key : String) (value : Value) : Entries :=
  if entries.any (·.1 == key) then
    entries.map fun entry => if entry.1 == key then (key, value) else entry
  else entries ++ [(key, value)]

/-- Change the table that a path leads to, and make the tables that are missing on the way.
A dotted path does not lead through a table with a header, and no path leads through a
table that is written in line. -/
def within (dotted : Bool) (change : Origin → Entries → Option Entries) :
    List String → Origin → Entries → Option Entries
  | [], origin, entries => change origin entries
  | key :: path, _, entries =>
    match entries.lookup key with
    | none =>
      let origin := if dotted then .dotted else .implicit
      (within dotted change path origin []).map fun inner => entries.put key (.table origin inner)
    | some (.table origin inner) =>
      if origin = .inline || (dotted && origin = .header) then none
      else (within dotted change path origin inner).map fun inner =>
        entries.put key (.table origin inner)
    | some (.tables elements) =>
      match elements.getLast? with
      | none => none
      | some last =>
        (within dotted change path .header last).map fun inner =>
          entries.put key (.tables (elements.dropLast ++ [inner]))
    | some _ => none

/-- Bind the last name of a dotted key. A table that the names before it lead to must have
been made by dotted keys. -/
def assign (path : List String) (key : String) (value : Value) (entries : Entries) :
    Option Entries :=
  within true (fun origin entries =>
    if (!path.isEmpty && origin != .dotted) || entries.any (·.1 == key) then none
    else some (entries ++ [(key, value)])) path .header entries

def assignIn (table : List String) (path : List String) (key : String) (value : Value) :
    Entries → Option Entries :=
  within false (fun _ entries => entries.assign path key value) table .header

def openTable (path : List String) (key : String) : Entries → Option Entries :=
  within false (fun _ entries =>
    match entries.lookup key with
    | none => some (entries.put key (.table .header []))
    | some (.table .implicit inner) => some (entries.put key (.table .header inner))
    | some _ => none) path .header

def openElement (path : List String) (key : String) : Entries → Option Entries :=
  within false (fun _ entries =>
    match entries.lookup key with
    | none => some (entries.put key (.tables [[]]))
    | some (.tables elements) => some (entries.put key (.tables (elements ++ [[]])))
    | some _ => none) path .header

end Entries
end Multipath.Toml
