/-
Tests of single values, typed by the field they are for. A test accepts
values that are of its type and compare as it asks, and nothing else; in
particular no test but the one for null accepts null.
-/
import RecordFilter.Text.Character
import RecordFilter.Value.Text

namespace RecordFilter

/-- The direction of an order comparison, ends included. -/
inductive Bound where
  | atMost
  | atLeast
  deriving DecidableEq, Repr

/-- Whether a value that compares like this lies within the bound. -/
def Bound.admits : Bound → Ordering → Bool
  | atMost, ordering => ordering.isLE
  | atLeast, ordering => ordering.isGE

/-- What is asked of a value. -/
inductive Test where
  | isNull
  | isBool (b : Bool)
  | numberEquals (n : Number)
  | numberWithin (bound : Bound) (n : Number)
  | variantEquals (name : String)
  | variantWithin (bound : Bound) (position : Nat) (variants : List String)
  | dateTimeEquals (m : Calendar.Moment)
  | dateTimeWithin (bound : Bound) (m : Calendar.Moment)
  | textEquals (s : String)
  | textStartsWith (s : String)
  | textEndsWith (s : String)
  | textContains (s : String)
  | otherEquals (s : String)
  deriving DecidableEq

/-- The place of a variant among those declared, the first of its name. -/
def variantPosition? (variants : List String) (name : String) : Option Nat :=
  variants.findIdx? fun variant => Text.sameIgnoringAsciiCase variant name

/-- Whether a value passes a test. Texts are equal without regard to case,
but contain one another only with it. -/
def Test.accepts (test : Test) (v : Value) : Bool :=
  match test with
  | isNull => v.isNull
  | isBool b => v.bool? == some b
  | numberEquals n => v.number?.any (·.same n)
  | numberWithin bound n => (v.number?.bind (·.compare? n)).any bound.admits
  | variantEquals name => v.variant?.any (Text.sameIgnoringAsciiCase · name)
  | variantWithin bound position variants =>
    (v.variant?.bind (variantPosition? variants)).any fun actual =>
      bound.admits (compare actual position)
  | dateTimeEquals m => v.dateTime? == some m
  | dateTimeWithin bound m =>
    v.dateTime?.any fun actual => bound.admits (actual.order m)
  | textEquals s => (v.textEquals? .insensitive s).getD false
  | textStartsWith s => (v.textStartsWith? .sensitive s).getD false
  | textEndsWith s => (v.textEndsWith? .sensitive s).getD false
  | textContains s => (v.textContains? .sensitive s).getD false
  | otherEquals s => !v.isNull && v.render == s

end RecordFilter
