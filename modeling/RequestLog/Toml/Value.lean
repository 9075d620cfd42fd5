/-!
TOML values. Of floats and dates only the presence is kept, since nothing reads them.
-/

namespace RequestLog

inductive Toml where
  | string (text : String)
  | integer (value : Int)
  | float
  | boolean (value : Bool)
  | date
  | array (items : List Toml)
  | table (entries : List (String × Toml))
deriving Repr

end RequestLog
