import KeyMatrix.Decimal
import KeyMatrix.Text.Quoted

/-! # JSON values

Integers are kept apart from numbers that were written with a fraction or an exponent.
The names in an object are distinct.
-/
namespace KeyMatrix

/-- A JSON value. -/
inductive Json where
  | null
  | bool (value : Bool)
  | integer (value : Int)
  /-- A number with a fraction. -/
  | real (value : Float)
  | string (value : String)
  | array (items : List Json)
  | object (fields : List (String × Json))
  deriving Inhabited

/-- What a value is, in words. Scalars show their value. -/
def Json.described : Json → String
  | .null => "null"
  | .bool value => if value then "boolean `true`" else "boolean `false`"
  | .integer value => s!"integer `{value}`"
  | .real value => s!"floating point `{Decimal.textOfFloat value}`"
  | .string value => s!"string {Text.quoted value}"
  | .array _ => "sequence"
  | .object _ => "map"

end KeyMatrix
