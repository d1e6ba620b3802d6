import Mathlib.Data.List.Basic
import Mathlib.Tactic.Common

/-!
# Bytes written as hexadecimal digits

Digits of either case are read, lower case is written. Reading forgets exactly the letter case:
two digit strings of even length name the same bytes when their lower-case forms agree.
-/

namespace HexText

def digits : List Char :=
  ['0', '1', '2', '3', '4', '5', '6', '7', '8', '9', 'a', 'b', 'c', 'd', 'e', 'f',
    'A', 'B', 'C', 'D', 'E', 'F']

def isDigit (c : Char) : Bool := digits.contains c

/-- The value of a digit, either case. -/
def value? (c : Char) : Option Nat :=
  if '0' ≤ c ∧ c ≤ '9' then some (c.toNat - '0'.toNat)
  else if 'a' ≤ c ∧ c ≤ 'f' then some (c.toNat - 'a'.toNat + 10)
  else if 'A' ≤ c ∧ c ≤ 'F' then some (c.toNat - 'A'.toNat + 10)
  else none

def digit (n : Nat) : Char := digits.getD n '0'

/-- Read pairs of digits, up to the first pair that is not one. -/
def fromHex : List Char → List UInt8
  | high :: low :: rest =>
      match value? high, value? low with
      | some x, some y => UInt8.ofNat (16 * x + y) :: fromHex rest
      | _, _ => []
  | _ => []

def toHex (bytes : List UInt8) : List Char :=
  bytes.flatMap fun byte => [digit (byte.toNat / 16), digit (byte.toNat % 16)]

/-- Lower-case the ASCII letters of a text. -/
def lowerCase (text : String) : String := String.ofList (text.toList.map Char.toLower)

@[simp]
theorem toList_lowerCase (text : String) :
    (lowerCase text).toList = text.toList.map Char.toLower := by
  simp [lowerCase]

/-! ### Digits -/

theorem value?_of_isDigit {c : Char} (h : isDigit c = true) :
    ∃ n < 16, value? c = some n ∧ digit n = c.toLower := by
  have hall : digits.Forall fun c => ∃ n < 16, value? c = some n ∧ digit n = c.toLower := by decide
  exact List.forall_iff_forall_mem.mp hall c (List.contains_iff_mem.mp h)

theorem toLower_toLower {c : Char} (h : isDigit c = true) : c.toLower.toLower = c.toLower := by
  have hall : digits.Forall fun c => c.toLower.toLower = c.toLower := by decide
  exact List.forall_iff_forall_mem.mp hall c (List.contains_iff_mem.mp h)

theorem value?_digit : ∀ n < 16, value? (digit n) = some n := by decide

theorem digit_lower : ∀ n < 16, isDigit (digit n) = true ∧ (digit n).toLower = digit n := by decide

theorem isDigit_toLower {c : Char} (h : isDigit c = true) : isDigit c.toLower = true := by
  obtain ⟨n, hn, -, hdigit⟩ := value?_of_isDigit h
  rw [← hdigit]
  exact (digit_lower n hn).1

/-! ### Strings of digits -/

@[simp]
theorem toHex_nil : toHex [] = [] := rfl

@[simp]
theorem toHex_cons (byte : UInt8) (bytes : List UInt8) :
    toHex (byte :: bytes) = digit (byte.toNat / 16) :: digit (byte.toNat % 16) :: toHex bytes := rfl

@[simp]
theorem length_toHex (bytes : List UInt8) : (toHex bytes).length = 2 * bytes.length := by
  induction bytes with
  | nil => rfl
  | cons byte bytes ih =>
      simp only [toHex_cons, List.length_cons, ih]
      omega

theorem toHex_append (left right : List UInt8) : toHex (left ++ right) = toHex left ++ toHex right :=
  List.flatMap_append

theorem of_mem_toHex {bytes : List UInt8} {c : Char} (h : c ∈ toHex bytes) :
    isDigit c = true ∧ c.toLower = c := by
  obtain ⟨byte, -, hmem⟩ := List.mem_flatMap.mp h
  have hbyte := byte.toNat_lt
  simp only [List.mem_cons, List.not_mem_nil, or_false] at hmem
  rcases hmem with rfl | rfl
  · exact digit_lower _ (by omega)
  · exact digit_lower _ (by omega)

/-- Two induction steps at a time: pairs of digits. -/
theorem fromHex_cons_cons {high low : Char} {rest : List Char} (hhigh : isDigit high = true)
    (hlow : isDigit low = true) :
    ∃ byte : UInt8, fromHex (high :: low :: rest) = byte :: fromHex rest ∧
      digit (byte.toNat / 16) = high.toLower ∧ digit (byte.toNat % 16) = low.toLower := by
  obtain ⟨x, hx, hvx, hdx⟩ := value?_of_isDigit hhigh
  obtain ⟨y, hy, hvy, hdy⟩ := value?_of_isDigit hlow
  have hbyte : (UInt8.ofNat (16 * x + y)).toNat = 16 * x + y :=
    UInt8.toNat_ofNat_of_lt' (by simp only [UInt8.size]; omega)
  refine ⟨UInt8.ofNat (16 * x + y), by simp [fromHex, hvx, hvy], ?_, ?_⟩
  · rw [hbyte, show (16 * x + y) / 16 = x by omega, hdx]
  · rw [hbyte, show (16 * x + y) % 16 = y by omega, hdy]

/-- Writing what was read gives the digits back in lower case. -/
theorem toHex_fromHex (n : Nat) (text : List Char) (hlength : text.length = 2 * n)
    (hdigits : text.all isDigit = true) : toHex (fromHex text) = text.map Char.toLower := by
  induction n generalizing text with
  | zero =>
      obtain rfl : text = [] := List.length_eq_zero_iff.mp (by simpa using hlength)
      rfl
  | succ n ih =>
      match text, hlength, hdigits with
      | high :: low :: rest, hlength, hdigits =>
          simp only [List.all_cons, Bool.and_eq_true] at hdigits
          obtain ⟨hhigh, hlow, hrest⟩ := hdigits
          obtain ⟨byte, hbyte, hdhigh, hdlow⟩ := @fromHex_cons_cons high low rest hhigh hlow
          rw [hbyte, toHex_cons, hdhigh, hdlow, ih rest (by simp at hlength; omega) hrest]
          rfl

theorem length_fromHex {n : Nat} {text : List Char} (hlength : text.length = 2 * n)
    (hdigits : text.all isDigit = true) : (fromHex text).length = n := by
  have hwritten := congrArg List.length (toHex_fromHex n text hlength hdigits)
  rw [length_toHex, List.length_map, hlength] at hwritten
  omega

theorem fromHex_toHex (bytes : List UInt8) : fromHex (toHex bytes) = bytes := by
  induction bytes with
  | nil => rfl
  | cons byte bytes ih =>
      have hbyte := byte.toNat_lt
      simp only [toHex_cons, fromHex, value?_digit (byte.toNat / 16) (by omega),
        value?_digit (byte.toNat % 16) (by omega), ih]
      rw [show 16 * (byte.toNat / 16) + byte.toNat % 16 = byte.toNat by omega, UInt8.ofNat_toNat]

/-- The letter case of the digits does not change the bytes. -/
theorem fromHex_map_toLower (n : Nat) (text : List Char) (hlength : text.length = 2 * n)
    (hdigits : text.all isDigit = true) : fromHex (text.map Char.toLower) = fromHex text := by
  rw [← toHex_fromHex n text hlength hdigits, fromHex_toHex]

/-- Digit strings name the same bytes exactly when they agree up to letter case. -/
theorem fromHex_eq_iff {n m : Nat} {left right : List Char} (hleft : left.length = 2 * n)
    (hright : right.length = 2 * m) (hleftDigits : left.all isDigit = true)
    (hrightDigits : right.all isDigit = true) :
    fromHex left = fromHex right ↔ left.map Char.toLower = right.map Char.toLower := by
  constructor
  · intro h
    rw [← toHex_fromHex n left hleft hleftDigits, h, toHex_fromHex m right hright hrightDigits]
  · intro h
    rw [← fromHex_map_toLower n left hleft hleftDigits, h,
      fromHex_map_toLower m right hright hrightDigits]

end HexText
