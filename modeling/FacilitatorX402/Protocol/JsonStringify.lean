import FacilitatorX402.Protocol.X402Parser

/-!
# JSON.stringify

How a value is printed, without spaces and in the order of its fields. How a number is printed is a
parameter.
-/

namespace FacilitatorX402.JsonText

variable (numberText : JsNumber → String)

mutual

def stringify : Json → String
  | .null => "null"
  | .bool value => if value then "true" else "false"
  | .num value => numberText value
  | .str value => jsonString value
  | .arr items => "[" ++ ",".intercalate (stringifyItems items) ++ "]"
  | .obj fields => jsonObject (stringifyFields fields)

def stringifyItems : List Json → List String
  | [] => []
  | item :: items => stringify item :: stringifyItems items

def stringifyFields : List (String × Json) → List (String × String)
  | [] => []
  | (name, value) :: fields => (name, stringify value) :: stringifyFields fields

end

mutual

/-- The numbers in a value. -/
def numbers : Json → List JsNumber
  | .num value => [value]
  | .arr items => numbersOfItems items
  | .obj fields => numbersOfFields fields
  | _ => []

def numbersOfItems : List Json → List JsNumber
  | [] => []
  | item :: items => numbers item ++ numbersOfItems items

def numbersOfFields : List (String × Json) → List JsNumber
  | [] => []
  | (_, value) :: fields => numbers value ++ numbersOfFields fields

end

/-- The members of an object, up to the closing brace. -/
def membersText : List (String × String) → List Char
  | [] => ['}']
  | [(name, value)] => (jsonString name).toList ++ ':' :: (value.toList ++ ['}'])
  | (name, value) :: fields =>
      (jsonString name).toList ++ ':' :: (value.toList ++ ',' :: membersText fields)

/-- The elements of an array, up to the closing bracket. -/
def itemsText : List String → List Char
  | [] => [']']
  | [value] => value.toList ++ [']']
  | value :: values => value.toList ++ ',' :: itemsText values

theorem toList_jsonString (text : String) :
    (jsonString text).toList = '"' :: (text.toList.flatMap jsonEscape ++ ['"']) := by
  simp [jsonString]

theorem toList_jsonObject (fields : List (String × String)) :
    (jsonObject fields).toList = '{' :: membersText fields := by
  have hmembers : (",".intercalate (fields.map fun field =>
      jsonString field.1 ++ ":" ++ field.2) ++ "\x7d").toList = membersText fields := by
    induction fields using membersText.induct with
    | case1 => rfl
    | case2 name value => simp [membersText]
    | case3 name value fields hfields ih =>
        rw [List.map_cons, String.intercalate_cons_of_ne_nil (by simpa using hfields),
          String.append_assoc, String.toList_append, ih, membersText.eq_3 _ _ _ hfields]
        simp
  rw [jsonObject, String.append_assoc, String.toList_append]
  exact congrArg ('{' :: ·) hmembers

theorem toList_brackets (values : List String) :
    ("[" ++ ",".intercalate values ++ "]").toList = '[' :: itemsText values := by
  have hitems : (",".intercalate values ++ "]").toList = itemsText values := by
    induction values using itemsText.induct with
    | case1 => rfl
    | case2 value => simp [itemsText]
    | case3 value values hvalues ih =>
        rw [String.intercalate_cons_of_ne_nil hvalues, String.append_assoc, String.toList_append, ih,
          itemsText.eq_3 _ _ hvalues]
        simp
  rw [String.append_assoc, String.toList_append, hitems]
  rfl

end FacilitatorX402.JsonText
