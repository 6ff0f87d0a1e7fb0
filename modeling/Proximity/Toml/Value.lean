/-!
# TOML values

A TOML document is a table: keys in the order they were written, each with a value. A
value is a string, an integer in the signed 64-bit range, a float, a boolean, a date or
time, an array or a table. Dates and times are kept as the text they stand for, in the
form `YYYY-MM-DDThh:mm:ss` with the parts that were given (a fraction of a second without
trailing zeros, `Z` or `±hh:mm` for an offset).
-/

namespace Proximity

/-- A TOML value. -/
inductive TomlValue where
  | str (s : String)
  | int (n : Int)
  | float (x : Float)
  | bool (b : Bool)
  | datetime (text : String)
  | arr (items : List TomlValue)
  | table (members : List (String × TomlValue))
  deriving Inhabited

namespace TomlValue

/-- The name of a value's type, as errors give it. -/
def typeName : TomlValue → String
  | str _ => "string"
  | int _ => "integer"
  | float _ => "float"
  | bool _ => "boolean"
  | datetime _ => "datetime"
  | arr _ => "array"
  | table _ => "inline table"

end TomlValue

end Proximity
