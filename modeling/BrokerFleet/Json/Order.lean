import BrokerFleet.Json.Value

/-! # JSON with its fields in order

The same value with the fields of every object in the order of their keys, each key once; of fields
of one name the last counts. -/

namespace BrokerFleet.Json

mutual

/-- The value with the fields of every object in order. -/
def inOrder : Json → Json
  | arr items => arr (itemsInOrder items)
  | obj fields => obj (Dict.ofList (fieldsInOrder fields)).entries
  | v => v

/-- The items of a list, each in order. -/
def itemsInOrder : List Json → List Json
  | [] => []
  | v :: rest => inOrder v :: itemsInOrder rest

/-- The values of the fields of an object, each in order. -/
def fieldsInOrder : List (String × Json) → List (String × Json)
  | [] => []
  | (k, v) :: rest => (k, inOrder v) :: fieldsInOrder rest

end

end BrokerFleet.Json
