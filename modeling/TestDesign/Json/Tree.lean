/-!
# TestDesign.Json.Tree

JSON values, as they are written.
-/

namespace TestDesign.Json

/-- A JSON value. -/
inductive Tree where
  | null
  | bool (b : Bool)
  | int (n : Int)
  | real (x : Float)
  | text (s : String)
  | list (items : List Tree)
  | object (members : List (String × Tree))
deriving Inhabited

end TestDesign.Json
