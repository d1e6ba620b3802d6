import FacilitatorX402.Protocol.X402Parser

/-!
# JSON.parse

The grammar of JSON on the characters of a text. How the characters of a number are converted is a
parameter. A `\u` escape is a UTF-16 code unit; half of a pair on its own is read as the replacement
character. Of members of one name the object keeps the last, where the first one stood; names that are
array indices are not moved to the front.
-/

namespace FacilitatorX402.JsonText

def isSpace (c : Char) : Bool := c = ' ' || c = '\t' || c = '\n' || c = '\r'

def skipSpace (text : List Char) : List Char := text.dropWhile isSpace

def hexUnit (a b c d : Char) : Option Nat := do
  let a ← HexText.value? a
  let b ← HexText.value? b
  let c ← HexText.value? c
  let d ← HexText.value? d
  return ((a * 16 + b) * 16 + c) * 16 + d

def simpleEscape (c : Char) : Option Char :=
  if c = '"' ∨ c = '\\' ∨ c = '/' then some c
  else if c = 'b' then some (Char.ofNat 8)
  else if c = 'f' then some (Char.ofNat 12)
  else if c = 'n' then some '\n'
  else if c = 'r' then some '\r'
  else if c = 't' then some '\t'
  else none

/-- A string after its opening quote, as code points and code units, with what follows it. -/
def scanString : List Char → Option (List Nat × List Char)
  | [] => none
  | '\\' :: 'u' :: a :: b :: c :: d :: rest =>
      (hexUnit a b c d).bind fun unit =>
        (scanString rest).map fun (units, rest) => (unit :: units, rest)
  | '\\' :: c :: rest =>
      (simpleEscape c).bind fun c =>
        (scanString rest).map fun (units, rest) => (c.toNat :: units, rest)
  | c :: rest =>
      if c = '"' then some ([], rest)
      else if c = '\\' ∨ c.toNat < 32 then none
      else (scanString rest).map fun (units, rest) => (c.toNat :: units, rest)

def isHigh (unit : Nat) : Bool := 0xD800 ≤ unit && unit < 0xDC00

def isLow (unit : Nat) : Bool := 0xDC00 ≤ unit && unit < 0xE000

def character (unit : Nat) : Char := if isHigh unit || isLow unit then Char.ofNat 0xFFFD else .ofNat unit

/-- Pairs of code units are joined. -/
def joinUnits : List Nat → List Char
  | [] => []
  | [unit] => [character unit]
  | high :: low :: units =>
      if isHigh high && isLow low then
        Char.ofNat (0x10000 + (high - 0xD800) * 0x400 + (low - 0xDC00)) :: joinUnits units
      else character high :: joinUnits (low :: units)

def parseString (text : List Char) : Option (String × List Char) :=
  (scanString text).map fun (units, rest) => (String.ofList (joinUnits units), rest)

def isDecimal (c : Char) : Bool := '0' ≤ c && c ≤ '9'

/-- One digit at least. -/
def skipDigits (text : List Char) : Option (List Char) :=
  if (text.takeWhile isDecimal).isEmpty then none else some (text.dropWhile isDecimal)

def skipInteger (text : List Char) : Option (List Char) :=
  let unsigned := if text.head? = some '-' then text.drop 1 else text
  if unsigned.head? = some '0' then some (unsigned.drop 1) else skipDigits unsigned

def skipFraction (text : List Char) : Option (List Char) :=
  if text.head? = some '.' then skipDigits (text.drop 1) else some text

def skipExponent (text : List Char) : Option (List Char) :=
  if text.head? = some 'e' ∨ text.head? = some 'E' then
    let rest := text.drop 1
    skipDigits (if rest.head? = some '+' ∨ rest.head? = some '-' then rest.drop 1 else rest)
  else some text

def skipNumber (text : List Char) : Option (List Char) :=
  ((skipInteger text).bind skipFraction).bind skipExponent

def parseNumber (number : String → JsNumber) (text : List Char) : Option (Json × List Char) :=
  (skipNumber text).map fun rest =>
    (.num (number (String.ofList (text.take (text.length - rest.length)))), rest)

def parseWord (word : String) (value : Json) (text : List Char) : Option (Json × List Char) :=
  if word.toList.isPrefixOf text then some (value, text.drop word.length) else none

/-- Define a property, or define it again. -/
def define (name : String) (value : Json) : List (String × Json) → List (String × Json)
  | [] => [(name, value)]
  | (other, old) :: fields =>
      if other = name then (name, value) :: fields else (other, old) :: define name value fields

/-- The properties of an object with these members. -/
def properties (members : List (String × Json)) : List (String × Json) :=
  members.foldl (fun fields member => define member.1 member.2 fields) []

mutual

/-- What is left of a value when each of its objects has each name once. -/
def kept : Json → Json
  | .arr items => .arr (keptItems items)
  | .obj fields => .obj (properties (keptFields fields))
  | value => value

def keptItems : List Json → List Json
  | [] => []
  | item :: items => kept item :: keptItems items

def keptFields : List (String × Json) → List (String × Json)
  | [] => []
  | (name, value) :: fields => (name, kept value) :: keptFields fields

end

example : kept (.obj [("a", .null), ("b", .null), ("a", .obj [])])
    = .obj [("a", .obj []), ("b", .null)] := rfl

mutual

/-- A value and what follows it. The fuel bounds the nesting. -/
def parseValue (number : String → JsNumber) : Nat → List Char → Option (Json × List Char)
  | 0, _ => none
  | fuel + 1, text =>
      match skipSpace text with
      | [] => none
      | c :: rest =>
          if c = '"' then (parseString rest).map fun (value, rest) => (.str value, rest)
          else if c = '{' then
            if (skipSpace rest).head? = some '}' then some (.obj [], (skipSpace rest).drop 1)
            else (parseMembers number fuel rest).map fun (members, rest) => (.obj (properties members), rest)
          else if c = '[' then
            if (skipSpace rest).head? = some ']' then some (.arr [], (skipSpace rest).drop 1)
            else (parseItems number fuel rest).map fun (items, rest) => (.arr items, rest)
          else if c = 't' then parseWord "true" (.bool true) (c :: rest)
          else if c = 'f' then parseWord "false" (.bool false) (c :: rest)
          else if c = 'n' then parseWord "null" .null (c :: rest)
          else parseNumber number (c :: rest)

/-- The members of an object, up to the closing brace. -/
def parseMembers (number : String → JsNumber) :
    Nat → List Char → Option (List (String × Json) × List Char)
  | 0, _ => none
  | fuel + 1, text =>
      match skipSpace text with
      | [] => none
      | c :: rest =>
          if c ≠ '"' then none
          else
            (parseString rest).bind fun (name, rest) =>
              if (skipSpace rest).head? ≠ some ':' then none
              else
                (parseValue number fuel ((skipSpace rest).drop 1)).bind fun (value, rest) =>
                  if (skipSpace rest).head? = some '}' then
                    some ([(name, value)], (skipSpace rest).drop 1)
                  else if (skipSpace rest).head? = some ',' then
                    (parseMembers number fuel ((skipSpace rest).drop 1)).map fun (fields, rest) =>
                      ((name, value) :: fields, rest)
                  else none

/-- The elements of an array, up to the closing bracket. -/
def parseItems (number : String → JsNumber) : Nat → List Char → Option (List Json × List Char)
  | 0, _ => none
  | fuel + 1, text =>
      (parseValue number fuel text).bind fun (value, rest) =>
        if (skipSpace rest).head? = some ']' then some ([value], (skipSpace rest).drop 1)
        else if (skipSpace rest).head? = some ',' then
          (parseItems number fuel ((skipSpace rest).drop 1)).map fun (items, rest) =>
            (value :: items, rest)
        else none

end

/-- `JSON.parse`; none where it throws. No text is nested deeper than it is long. -/
def parse (number : String → JsNumber) (text : String) : Option Json :=
  (parseValue number (2 * text.toList.length + 1) text.toList).bind fun (value, rest) =>
    if (skipSpace rest).isEmpty then some value else none

end FacilitatorX402.JsonText
