import Courier.Json.Basic
import Courier.Payload.Basic

/-!
# JSON values as payloads

A JSON value is a payload like any other: written directly it has the text that it has anyway.
-/

namespace Courier.Payload

mutual

/-- The payload that a value is. -/
def ofJson : Json → Payload
  | .null => .nothing
  | .bool b => .bool b
  | .integer i => .integer i
  | .real x => .double (.finite x)
  | .string s => .string s
  | .array items => .seq (itemsOfJson items)
  | .object fields => .struct (fieldsOfJson fields)

/-- The payloads that items are. -/
def itemsOfJson : List Json → List Payload
  | [] => []
  | item :: rest => ofJson item :: itemsOfJson rest

/-- The payloads that fields are. -/
def fieldsOfJson : List (String × Json) → List (String × Payload)
  | [] => []
  | (name, value) :: rest => (name, ofJson value) :: fieldsOfJson rest

end

end Courier.Payload
