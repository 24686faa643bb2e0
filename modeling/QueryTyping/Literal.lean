/-!
# Literals

The constants that stand in the text of a query.
-/

namespace QueryTyping

/-- A constant in a query. -/
inductive Literal where
  | null
  | currentTime
  | currentDate
  | currentTimestamp
  | string (text : String)
  | blob (bytes : List UInt8)
  | integer (value : Int64)
  | float (value : Float)

end QueryTyping
