/-
Field paths. A path is a sequence of segments; each names a field and may
carry subscripts that pick elements of a collection. The surface form puts
dots between segments and writes a subscript as `[n]` after the name:
`legs[0].status`. Subscripts are lifted out of the name wherever they
stand, and every bracket that is not part of one stays in the name.
-/
import RecordFilter.Numeral

namespace RecordFilter

/-- One step of a path: a field name and the subscripts written on it, in
order. -/
structure Segment where
  name : String
  subscripts : List UInt64
  deriving DecidableEq, Repr

/-- A field path, outermost field first. -/
structure Path where
  segments : List Segment
  deriving DecidableEq, Repr

namespace Segment

/-- The subscript a run of digits denotes. One too large for a word picks
the last index of all, which no collection has. -/
def subscriptOf (digits : List Char) : UInt64 :=
  UInt64.ofNat (min (Numeral.value digits) 18446744073709551615)

/-- After an opening bracket: the subscript, if digits and a closing
bracket follow, and what comes after them. -/
def subscript? (text : List Char) : Option (UInt64 × List Char) :=
  match text.takeWhile Char.isDigit, text.dropWhile Char.isDigit with
  | digit :: digits, ']' :: rest => some (subscriptOf (digit :: digits), rest)
  | _, _ => none

/-- A subscript is shorter than its text. -/
theorem length_lt_of_subscript? {text rest : List Char} {i : UInt64}
    (h : subscript? text = some (i, rest)) : rest.length < text.length := by
  unfold subscript? at h
  split at h
  · rename_i hrest
    cases h
    have hshorter : (text.dropWhile Char.isDigit).length ≤ text.length :=
      (List.dropWhile_sublist Char.isDigit).length_le
    rw [hrest] at hshorter
    exact hshorter
  · cases h

/-- The name and the subscripts of a segment's text. -/
def scan : List Char → List Char × List UInt64
  | [] => ([], [])
  | c :: text =>
    if c = '[' then
      match h : subscript? text with
      | some (i, rest) =>
        have := length_lt_of_subscript? h
        let (name, subscripts) := scan rest
        (name, i :: subscripts)
      | none =>
        let (name, subscripts) := scan text
        (c :: name, subscripts)
    else
      let (name, subscripts) := scan text
      (c :: name, subscripts)
termination_by text => text.length

/-- The segment a text denotes. -/
def ofText (text : List Char) : Segment :=
  let (name, subscripts) := scan text
  ⟨String.ofList name, subscripts⟩

/-- The surface form of a segment: its name, then its subscripts. -/
def text (segment : Segment) : List Char :=
  segment.name.toList
    ++ segment.subscripts.flatMap fun i =>
      '[' :: Numeral.digits i.toNat ++ [']']

end Segment

namespace Path

/-- The path a text denotes: one segment for each piece between dots. -/
def ofText (text : List Char) : Path :=
  ⟨(text.splitOn '.').map Segment.ofText⟩

/-- The path written in a text. -/
def parse (text : String) : Path := ofText text.toList

/-- The field names along the path, without subscripts. -/
def names (path : Path) : List String := path.segments.map Segment.name

/-- The surface form, as characters. -/
def text (path : Path) : List Char :=
  ['.'].intercalate (path.segments.map Segment.text)

/-- The surface form of a path, subscripts included. -/
def render (path : Path) : String := String.ofList path.text

/-- The dotted names of a path, without its subscripts. -/
def canonical (path : Path) : String :=
  String.ofList (['.'].intercalate (path.names.map String.toList))

end Path

end RecordFilter
