/-
Slots as text for inspection: which alternative a slot and its value are,
with every text quoted and every float marked as one. The fields of a
record are not shown.
-/
import RecordFilter.Slot
import RecordFilter.Text.Quoted

namespace RecordFilter

/-- The name of an alternative, with what it holds in parentheses. -/
def tagged (name : String) (content : List Char) : List Char :=
  name.toList ++ '(' :: content ++ [')']

/-- A value for inspection. -/
def Value.inspect : Value → List Char
  | .null => "Null".toList
  | .bool b => tagged "Bool" (Value.bool b).render.toList
  | .int n => tagged "Int" (Numeral.signed n.toInt)
  | .uint n => tagged "Uint" (Numeral.digits n.toNat)
  | .float x => tagged "Float" x.detailed
  | .text s => tagged "Text" (Text.inspect s.toList)
  | .variant s => tagged "Enum" (Text.inspect s.toList)
  | .dateTime m => tagged "DateTime" m.text
  | .other s => tagged "Other" (Text.inspect s.toList)

namespace Slot

mutual

/-- A slot for inspection. -/
def inspect : Slot → List Char
  | .value v => tagged "Value" v.inspect
  | .record _ => "Record(..)".toList
  | .list items =>
    tagged "List" ('[' :: [',', ' '].intercalate (inspectAll items) ++ [']'])
  | .missing => "Missing".toList
termination_by structural slot => slot

/-- The items of a collection for inspection. -/
def inspectAll : List Slot → List (List Char)
  | [] => []
  | slot :: rest => slot.inspect :: inspectAll rest
termination_by structural slots => slots

end

end Slot

end RecordFilter
