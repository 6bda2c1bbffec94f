import LatencySweep.Number.Binary64

/-
  JSON values.

  Members of an object keep their order, and a name may
  occur more than once.

  Key definitions include:
    * `Json`
-/

namespace LatencySweep

/- A JSON value. -/
inductive Json where
  | null
  | bool (value : Bool)
  | integer (value : Int)
  | float (value : Binary64)
  | string (value : String)
  | array (items : List Json)
  | object (members : List (String × Json))

end LatencySweep
