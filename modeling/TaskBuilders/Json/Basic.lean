/-!
# JSON values

Numbers keep their text, and objects their members in the order in which they are written, repeated
keys included.
-/

namespace TaskBuilders

/-- A JSON value. -/
inductive Json where
  | null
  | bool (b : Bool)
  | number (text : String)
  | string (s : String)
  | array (items : List Json)
  | object (members : List (String × Json))
deriving Repr, Inhabited

namespace Json

/-- The last member under a key. -/
def member? (j : Json) (key : String) : Option Json :=
  match j with
  | object ms => (ms.reverse.find? (·.1 == key)).map (·.2)
  | _ => none

end Json

end TaskBuilders
