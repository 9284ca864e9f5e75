/-
The tree that a TOML text builds up statement by statement. Where data is
what a finished text denotes, a node also remembers what may still be added
to a table: one that came into being on the way to another can be opened by
a header of its own once, unless dotted keys have gone through it; dotted
keys go through all tables but those that were opened, and tables written in
line are values.
-/
import RecordFilter.Data

namespace RecordFilter.Toml

/-- How a table came into being. -/
inductive Origin where
  /-- On the way of a header to a table within it. -/
  | passing
  /-- By its own header. -/
  | header
  /-- By dotted keys. -/
  | dotted
  deriving DecidableEq, Repr

/-- What a key stands for while the text is being read. -/
inductive Node where
  | value (data : Data)
  | table (origin : Origin) (entries : List (String × Node))
  | tables (items : List (List (String × Node)))

/-- The entries of a table that is being built. -/
abbrev Entries := List (String × Node)

namespace Entries

/-- Puts a node in the place of the one that a key has. -/
def replace (key : String) (node : Node) (entries : Entries) : Entries :=
  entries.map fun entry => if entry.1 = key then (key, node) else entry

/-- Gives a dotted key its value. The tables on its way are made if need be
and are then tables of dotted keys, whatever they were before; a table that
was opened is not on any way. A list of tables leads to its last item, but
the value cannot be given there right away. -/
def assign (data : Data) : List String → Entries → Option Entries
  | [], _ => none
  | [key], entries =>
    if (List.lookup key entries).isSome then none
    else some (entries ++ [(key, .value data)])
  | key :: next :: rest, entries =>
    match List.lookup key entries with
    | none =>
      (assign data (next :: rest) []).map fun inner =>
        entries ++ [(key, .table .dotted inner)]
    | some (.table .header _) => none
    | some (.table _ inner) =>
      (assign data (next :: rest) inner).map fun inner =>
        entries.replace key (.table .dotted inner)
    | some (.tables items) =>
      match items.getLast? with
      | none => none
      | some inner =>
        if rest = [] then none
        else
          (assign data (next :: rest) inner).map fun inner =>
            entries.replace key (.tables (items.dropLast ++ [inner]))
    | some (.value _) => none

/-- Opens the table of a header and fills it. Under a header with double
brackets the table is a further item of a list of tables. -/
def openTable (isItem : Bool) (fill : Entries → Option Entries) :
    List String → Entries → Option Entries
  | [], _ => none
  | [key], entries =>
    match List.lookup key entries, isItem with
    | none, false =>
      (fill []).map fun inner => entries ++ [(key, .table .header inner)]
    | none, true =>
      (fill []).map fun inner => entries ++ [(key, .tables [inner])]
    | some (.table .passing inner), false =>
      (fill inner).map fun inner => entries.replace key (.table .header inner)
    | some (.tables items), true =>
      (fill []).map fun inner =>
        entries.replace key (.tables (items ++ [inner]))
    | _, _ => none
  | key :: next :: rest, entries =>
    match List.lookup key entries with
    | none =>
      (openTable isItem fill (next :: rest) []).map fun inner =>
        entries ++ [(key, .table .passing inner)]
    | some (.table origin inner) =>
      (openTable isItem fill (next :: rest) inner).map fun inner =>
        entries.replace key (.table origin inner)
    | some (.tables items) =>
      match items.getLast? with
      | none => none
      | some inner =>
        (openTable isItem fill (next :: rest) inner).map fun inner =>
          entries.replace key (.tables (items.dropLast ++ [inner]))
    | some (.value _) => none

end Entries

mutual

/-- What a node denotes once the text has ended. -/
def Node.toData : Node → Data
  | .value data => data
  | .table _ entries => .table (Node.entriesToData entries)
  | .tables items => .list (Node.itemsToData items)
termination_by structural node => node

/-- The entries of a table once the text has ended. -/
def Node.entriesToData : List (String × Node) → List (String × Data)
  | [] => []
  | (key, node) :: rest => (key, node.toData) :: Node.entriesToData rest
termination_by structural entries => entries

/-- The items of a list of tables once the text has ended. -/
def Node.itemsToData : List (List (String × Node)) → List Data
  | [] => []
  | entries :: rest =>
    .table (Node.entriesToData entries) :: Node.itemsToData rest
termination_by structural items => items

end

end RecordFilter.Toml
