import FacilitatorX402.Library.HexText

/-!
# What the runtime provides

Dates, big integers and digests as Node.js has them. Functions that come from third-party packages
or from `node:crypto` are the fields of `Host`: the development holds for every choice of them.
-/

namespace FacilitatorX402

/-- A `Date`: its time value in milliseconds, or none for an invalid date. -/
abbrev JsDate := Option Int

/-- The largest time value a `Date` can have. -/
def maxTimeValue : Int := 8640000000000000

/-- `new Date(seconds * 1000)`. -/
def JsDate.ofSeconds (seconds : Nat) : JsDate :=
  if (seconds : Int) * 1000 ≤ maxTimeValue then some ((seconds : Int) * 1000) else none

/-- Decimal digits padded with zeros on the left. -/
def padDigits (width n : Nat) : String :=
  let digits := toString n
  String.ofList (List.replicate (width - digits.length) '0') ++ digits

/-- Proleptic Gregorian year, month and day of a day number counted from 1970-01-01. -/
def civilFromDays (days : Int) : Int × Int × Int :=
  let shifted := days + 719468
  let era := shifted / 146097
  let dayOfEra := shifted - era * 146097
  let yearOfEra := (dayOfEra - dayOfEra / 1460 + dayOfEra / 36524 - dayOfEra / 146096) / 365
  let dayOfYear := dayOfEra - (365 * yearOfEra + yearOfEra / 4 - yearOfEra / 100)
  let monthIndex := (5 * dayOfYear + 2) / 153
  let day := dayOfYear - (153 * monthIndex + 2) / 5 + 1
  let month := if monthIndex < 10 then monthIndex + 3 else monthIndex - 9
  let year := yearOfEra + era * 400
  (if month ≤ 2 then year + 1 else year, month, day)

def yearText (year : Int) : String :=
  if 0 ≤ year ∧ year ≤ 9999 then padDigits 4 year.toNat
  else if year < 0 then "-" ++ padDigits 6 (-year).toNat
  else "+" ++ padDigits 6 year.toNat

def isoText (timeValue : Int) : String :=
  let (year, month, day) := civilFromDays (timeValue / 86400000)
  let ms := (timeValue % 86400000).toNat
  yearText year ++ "-" ++ padDigits 2 month.toNat ++ "-" ++ padDigits 2 day.toNat ++ "T"
    ++ padDigits 2 (ms / 3600000) ++ ":" ++ padDigits 2 (ms / 60000 % 60) ++ ":"
    ++ padDigits 2 (ms / 1000 % 60) ++ "." ++ padDigits 3 (ms % 1000) ++ "Z"

/-- `toISOString`, which throws a `RangeError` on an invalid date. -/
def JsDate.toISOString (date : JsDate) : Option String := date.map isoText

/-- `Math.floor(date.getTime() / 1000)`, not a number for an invalid date. -/
def JsDate.floorSeconds (date : JsDate) : Option Int := date.map (· / 1000)

/-- `BigInt(text)` of a string of decimal digits. -/
def decimalValue (text : String) : Nat :=
  text.toList.foldl (fun value c => 10 * value + (c.toNat - '0'.toNat)) 0

/-- The `length` of a string, in UTF-16 code units. -/
def utf16Length (text : String) : Nat :=
  text.toList.foldr (fun c length => length + if c.toNat < 65536 then 1 else 2) 0

/-- The bytes of a SHA-256 digest. -/
abbrev Digest := { bytes : List UInt8 // bytes.length = 32 }

/-- `digest('hex')`. -/
def Digest.hex (digest : Digest) : String := String.ofList (HexText.toHex digest.val)

/-- A character inside a string that `JSON.stringify` prints. -/
def jsonEscape (c : Char) : List Char :=
  if c = '"' then ['\\', '"']
  else if c = '\\' then ['\\', '\\']
  else if c.toNat = 8 then ['\\', 'b']
  else if c.toNat = 9 then ['\\', 't']
  else if c.toNat = 10 then ['\\', 'n']
  else if c.toNat = 12 then ['\\', 'f']
  else if c.toNat = 13 then ['\\', 'r']
  else if c.toNat < 32 then ['\\', 'u', '0', '0'] ++ HexText.toHex [UInt8.ofNat c.toNat]
  else [c]

def jsonString (text : String) : String :=
  "\"" ++ String.ofList (text.toList.flatMap jsonEscape) ++ "\""

/-- An object of printed values, as `JSON.stringify` prints it. -/
def jsonObject (fields : List (String × String)) : String :=
  "\x7b" ++ ",".intercalate (fields.map fun (name, value) => jsonString name ++ ":" ++ value)
    ++ "\x7d"

example : JsDate.toISOString (some 0) = some "1970-01-01T00:00:00.000Z" := by decide +kernel

example : JsDate.toISOString (JsDate.ofSeconds 1709210096) = some "2024-02-29T12:34:56.000Z" := by
  decide +kernel

example : JsDate.ofSeconds 8640000000001 = none := by decide

end FacilitatorX402
