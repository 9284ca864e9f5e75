/-
Query parameters: a table of names, each with all the values it was given.
Names keep the order in which they first came, values the order in which
they were given. What delimits the literals within a value is not decided
here, so that values are kept whole.
-/
namespace RecordFilter

/-- One name and its values. -/
structure Parameter where
  name : String
  values : List String
  deriving DecidableEq, Repr

/-- The literals in all the values of a parameter. -/
def Parameter.tokens (p : Parameter) (delimiter : Char) : List String :=
  p.values.flatMap fun value =>
    (value.toList.splitOn delimiter).map String.ofList

/-- Names with their values. -/
structure Parameters where
  entries : List Parameter
  deriving DecidableEq, Repr

namespace Parameters

/-- No parameters. -/
def empty : Parameters := ⟨[]⟩

/-- Gives a name one more value among other parameters. -/
def insertEntry (name value : String) : List Parameter → List Parameter
  | [] => [⟨name, [value]⟩]
  | p :: rest =>
    if p.name = name then { p with values := p.values ++ [value] } :: rest
    else p :: insertEntry name value rest

/-- Gives a name one more value. -/
def insert (params : Parameters) (name value : String) : Parameters :=
  ⟨insertEntry name value params.entries⟩

/-- The parameters that pairs of names and values make, one after the
other. -/
def ofPairs (pairs : List (String × String)) : Parameters :=
  pairs.foldl (fun params (name, value) => params.insert name value) empty

/-- The values of a name. -/
def get? (params : Parameters) (name : String) : Option (List String) :=
  (params.entries.find? (·.name = name)).map Parameter.values

/-- The number of names. -/
def size (params : Parameters) : Nat := params.entries.length

/-- Whether there are no parameters. -/
def isEmpty (params : Parameters) : Bool := params.entries.isEmpty

end Parameters

end RecordFilter
