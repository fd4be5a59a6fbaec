import Courier.Payload.OfJson
import Courier.Payload.Text
import Courier.Payload.ToJson

/-!
# JSON values are payloads

Results:

* `text_ofJson` — written directly, a JSON value has the text that it has as a value.
* `toJson_ofJson` — a proper JSON value is the value of the payload that it is.

So that a JSON value comes to the same text on both ways. Other payloads need not: the fields of a
struct are sorted on one way and not on the other.
-/

namespace Courier.Payload

open Courier.Json

/-! ## Directly -/

mutual

theorem text_ofJson (value : Json) : text (ofJson value) = .ok value.text := by
  cases value with
  | null => rfl
  | bool b => cases b <;> rfl
  | integer i => rfl
  | real x => rfl
  | string s => rfl
  | array items =>
    simp only [ofJson, text, itemTexts_itemsOfJson items, Except.map, Json.text, arrayText]
  | object fields =>
    simp only [ofJson, text, fieldTexts_fieldsOfJson fields, Except.map, Json.text, objectText]

theorem itemTexts_itemsOfJson (items : List Json) :
    itemTexts (itemsOfJson items) = .ok (Json.itemTexts items) := by
  cases items with
  | nil => rfl
  | cons item rest =>
    simp only [itemsOfJson, itemTexts, text_ofJson item, itemTexts_itemsOfJson rest]
    rfl

theorem fieldTexts_fieldsOfJson (fields : List (String × Json)) :
    fieldTexts (fieldsOfJson fields) = .ok (Json.fieldTexts fields) := by
  cases fields with
  | nil => rfl
  | cons field rest =>
    obtain ⟨name, value⟩ := field
    simp only [fieldsOfJson, fieldTexts, text_ofJson value, fieldTexts_fieldsOfJson rest]
    rfl

end

/-! ## As values -/

mutual

theorem toJson_ofJson (value : Json) (h : value.IsProper) : toJson (ofJson value) = .ok value := by
  cases value with
  | null => rfl
  | bool b => rfl
  | integer i => exact if_pos h
  | real x => rfl
  | string s => rfl
  | array items =>
    simp only [ofJson, toJson, itemsToJson_itemsOfJson items h, Except.map]
  | object fields =>
    simp only [ofJson, toJson, fieldsToJson_fieldsOfJson fields h.2, Except.map, ofFields,
      Fields.ofList_of_isAscending h.1]

theorem itemsToJson_itemsOfJson (items : List Json) (h : AreProper items) :
    itemsToJson (itemsOfJson items) = .ok items := by
  cases items with
  | nil => rfl
  | cons item rest =>
    simp only [itemsOfJson, itemsToJson, toJson_ofJson item h.1, itemsToJson_itemsOfJson rest h.2]
    rfl

theorem fieldsToJson_fieldsOfJson (fields : List (String × Json)) (h : FieldsAreProper fields) :
    fieldsToJson (fieldsOfJson fields) = .ok fields := by
  cases fields with
  | nil => rfl
  | cons field rest =>
    obtain ⟨name, value⟩ := field
    simp only [fieldsOfJson, fieldsToJson, toJson_ofJson value h.1,
      fieldsToJson_fieldsOfJson rest h.2]
    rfl

end

end Courier.Payload
