/-
Scalar values of a record's fields. The views `text?`, `number?` and so on
say what a value can be compared as: a text also stands for an enum variant
and, if it can be read as one, for a moment, since records that come from
text formats have no other way to hold those.
-/
import RecordFilter.Binary64.Shortest
import RecordFilter.Calendar.Moment.Printer
import RecordFilter.Calendar.Moment.Reader
import RecordFilter.Number

namespace RecordFilter

/-- A scalar value. `null` is a field without a value, `other` a value
known only by its text. -/
inductive Value where
  | null
  | bool (b : Bool)
  | int (n : Int64)
  | uint (n : UInt64)
  | float (x : Binary64)
  | text (s : String)
  | variant (name : String)
  | dateTime (m : Calendar.Moment)
  | other (s : String)
  deriving DecidableEq

namespace Value

/-- Whether the field holds no value. -/
def isNull : Value → Bool
  | null => true
  | _ => false

/-- The text of a text value. -/
def text? : Value → Option String
  | text s => some s
  | _ => none

/-- The truth value of a boolean. -/
def bool? : Value → Option Bool
  | bool b => some b
  | _ => none

/-- The number of a numeric value. -/
def number? : Value → Option Number
  | int n => some (.int n)
  | uint n => some (.uint n)
  | float x => some (.float x)
  | _ => none

/-- The variant name of an enum value, or of the text that stands for
one. -/
def variant? : Value → Option String
  | variant name | text name => some name
  | _ => none

/-- The moment of a date, or of the text that stands for one. -/
def dateTime? : Value → Option Calendar.Moment
  | dateTime m => some m
  | text s => Calendar.Moment.read? s.toList
  | _ => none

/-- The order of two numeric values. -/
def compareNumeric? (a b : Value) : Option Ordering :=
  match a.number?, b.number? with
  | some x, some y => x.compare? y
  | _, _ => none

/-- The text of a value. -/
def render : Value → String
  | null => "null"
  | bool true => "true"
  | bool false => "false"
  | int n => String.ofList (Numeral.signed n.toInt)
  | uint n => String.ofList (Numeral.digits n.toNat)
  | float x => String.ofList x.plain
  | text s | variant s | other s => s
  | dateTime m => m.render

end Value

/-- Host types whose values stand for field values. -/
class ToValue (α : Type) where
  toValue : α → Value

export ToValue (toValue)

instance : ToValue Value := ⟨id⟩
instance : ToValue Bool := ⟨.bool⟩
instance : ToValue Int8 := ⟨fun n => .int n.toInt64⟩
instance : ToValue Int16 := ⟨fun n => .int n.toInt64⟩
instance : ToValue Int32 := ⟨fun n => .int n.toInt64⟩
instance : ToValue Int64 := ⟨.int⟩
instance : ToValue UInt8 := ⟨fun n => .uint n.toUInt64⟩
instance : ToValue UInt16 := ⟨fun n => .uint n.toUInt64⟩
instance : ToValue UInt32 := ⟨fun n => .uint n.toUInt64⟩
instance : ToValue UInt64 := ⟨.uint⟩
instance : ToValue Binary64 := ⟨.float⟩
instance : ToValue String := ⟨.text⟩
instance : ToValue Calendar.Moment := ⟨.dateTime⟩

/-- An absent value is null. -/
instance {α : Type} [ToValue α] : ToValue (Option α) :=
  ⟨fun v? => v?.elim .null toValue⟩

end RecordFilter
