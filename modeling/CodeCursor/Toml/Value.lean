/-!
# TOML values

What a TOML document can say.  Integers have 64 bits.  Numbers with a fraction, dates and times
are held as written.
-/

namespace CodeCursor.Toml

inductive Value where
  | string (text : String)
  | integer (value : Int64)
  | float (text : String)
  | boolean (value : Bool)
  | dateTime (text : String)
  | array (items : List Value)
  | table (entries : List (String × Value))

/-- Keys with their values, in the order in which they are written.  No key is given twice. -/
structure Table where
  entries : List (String × Value)
  nodup : (entries.map Prod.fst).Nodup

namespace Value

def string? : Value → Option String
  | string text => some text
  | _ => none

def boolean? : Value → Option Bool
  | boolean value => some value
  | _ => none

/-- The number, if the value is an integer that is not negative. -/
def unsigned? : Value → Option UInt64
  | integer value => if 0 ≤ value then some value.toUInt64 else none
  | _ => none

def strings? : Value → Option (List String)
  | array items => items.mapM string?
  | _ => none

end Value

end CodeCursor.Toml
