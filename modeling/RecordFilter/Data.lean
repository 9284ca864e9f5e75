/-
What a text in one of the data formats denotes: a tree of scalars, lists and
tables. Tables keep their entries in the order of the text, repeated keys
included; what a repetition means is for the consumer to say.

Dates are data in one of the formats, but nothing is described by one: as a
structure, a date is one with none of its fields given. Some texts are
grammatical and still denote nothing that can be used, such as a number
beyond all doubles. They appear as `unreadable`, which every consumer
refuses but may pass over. A scalar whose form promises a value that it does
not have is `malformed`: a consumer who so much as passes it over refuses
the whole.
-/
import RecordFilter.Number

namespace RecordFilter

/-- A tree of data. -/
inductive Data where
  | null
  | bool (b : Bool)
  | number (n : Number)
  | text (s : String)
  | list (items : List Data)
  | table (entries : List (String × Data))
  | date
  | unreadable
  | malformed

namespace Data

mutual

/-- How many structures lie inside each other. -/
def depth : Data → Nat
  | null => 0
  | bool _ => 0
  | number _ => 0
  | text _ => 0
  | list items => depthOfItems items + 1
  | table entries => depthOfEntries entries + 1
  | date => 1
  | unreadable => 0
  | malformed => 0
termination_by structural d => d

/-- The greatest depth among the items of a list. -/
def depthOfItems : List Data → Nat
  | [] => 0
  | item :: rest => max item.depth (depthOfItems rest)
termination_by structural items => items

/-- The greatest depth among the values of a table. -/
def depthOfEntries : List (String × Data) → Nat
  | [] => 0
  | (_, value) :: rest => max value.depth (depthOfEntries rest)
termination_by structural entries => entries

end

mutual

/-- Whether nothing in data is malformed. -/
def isSound : Data → Bool
  | null => true
  | bool _ => true
  | number _ => true
  | text _ => true
  | list items => areSound items
  | table entries => areSoundEntries entries
  | date => true
  | unreadable => true
  | malformed => false
termination_by structural d => d

/-- Whether nothing in the items of a list is malformed. -/
def areSound : List Data → Bool
  | [] => true
  | item :: rest => item.isSound && areSound rest
termination_by structural items => items

/-- Whether nothing in the values of a table is malformed. -/
def areSoundEntries : List (String × Data) → Bool
  | [] => true
  | (_, value) :: rest => value.isSound && areSoundEntries rest
termination_by structural entries => entries

end

/-- The text of a text. -/
def text? : Data → Option String
  | text s => some s
  | _ => none

/-- The truth value of a boolean. -/
def bool? : Data → Option Bool
  | bool b => some b
  | _ => none

/-- The items of a list. -/
def list? : Data → Option (List Data)
  | list items => some items
  | _ => none

/-- The texts in a list of texts. -/
def texts? (d : Data) : Option (List String) :=
  d.list?.bind fun items => items.mapM text?

/-- A list of texts is read as these texts. -/
theorem texts?_list (texts : List String) :
    (list (texts.map text)).texts? = some texts := by
  unfold texts? list?
  dsimp only [Option.bind_some]
  induction texts with
  | nil => rfl
  | cons s rest ih =>
    rw [List.map_cons, List.mapM_cons, ih]
    rfl

/-- Where the data formats differ in how a described structure may be
written. -/
structure Dialect where
  /-- What may stand behind the name of a variant that carries nothing. -/
  isEmptyPayload : Data → Bool
  /-- Whether the body of a variant refuses keys that it does not know. -/
  closesBodies : Bool
  /-- Whether a structure written as a list may have items left over. -/
  allowsSurplus : Bool

/-- The values of a structure's fields in the order of their names, none for
a field that is not given. Written as a table, each field is given at most
once, and other keys are passed over unless the structure is closed; written
as a list, the fields come in order, and nobody looks at the items left
over. -/
def fieldValues? (dialect : Dialect) (closed : Bool) (names : List String) :
    Data → Option (List (Option Data))
  | table entries =>
    if names.any fun name =>
      1 < (entries.filter (·.1 == name)).length then none
    else if entries.any fun entry =>
      !names.contains entry.1 && (closed || !entry.2.isSound) then none
    else some (names.map fun name => List.lookup name entries)
  | list items =>
    if !dialect.allowsSurplus && names.length < items.length then none
    else some ((List.range names.length).map (items[·]?))
  | date => some (names.map fun _ => none)
  | _ => none

end Data

end RecordFilter
