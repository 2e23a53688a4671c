import Retouch.Text.Basic

/-!
# Data values

The values that requests and reports are made of when they cross the border of the program. The
fields of an object have an order.
-/

namespace Retouch

/-- A value of structured data. -/
inductive Value where
  | null
  | bool (b : Bool)
  | int (n : Int)
  /-- A number with a decimal point: `digits` divided by ten to the power `places`. -/
  | decimal (digits : Int) (places : Nat)
  /-- A number that no digits express: infinite, or none at all. -/
  | irregular
  | text (t : Text)
  | list (items : List Value)
  | object (fields : List (String × Value))
  deriving Inhabited

/-- The two spellings of the name of a field. -/
structure Label where
  snake : String
  camel : String
  deriving DecidableEq

/-- The label of a field with one spelling. -/
def Label.plain (name : String) : Label :=
  ⟨name, name⟩

/-- The choice between the two spellings. -/
inductive Naming where
  | snake
  | camel
  deriving DecidableEq

/-- The spelling of a label. -/
def Label.spelling (label : Label) : Naming → String
  | .snake => label.snake
  | .camel => label.camel

/-- How structures are written as values: the spelling of field names, and whether fields without a
value are kept. -/
structure Style where
  naming : Naming
  keepNull : Bool
  deriving DecidableEq

/-- The style of answers. -/
def Style.answer : Style := ⟨.camel, false⟩

namespace Value

/-- The value of no value. -/
def isNull : Value → Bool
  | .null => true
  | _ => false

/-- The value of a string. -/
def ofString (s : String) : Value :=
  .text (Text.ofString s)

/-- The value of something optional. -/
def ofOption (write : α → Value) : Option α → Value
  | none => .null
  | some a => write a

/-- An object with labelled fields. -/
def record (style : Style) (fields : List (Label × Value)) : Value :=
  .object ((fields.filter fun (_, value) => style.keepNull || !value.isNull).map fun (label, value) =>
    (label.spelling style.naming, value))

end Value

end Retouch
