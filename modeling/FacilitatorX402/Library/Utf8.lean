import Mathlib.Data.List.Basic
import Mathlib.Tactic.Common

/-!
# Bytes read as UTF-8

Bytes that are no encoding are replaced: each longest beginning of an encoding, or single byte, by one
replacement character.
-/

namespace Utf8

def encode (text : List Char) : List UInt8 := text.flatMap String.utf8EncodeChar

def replacement : Char := Char.ofNat 0xFFFD

def isContinuation (byte : UInt8) : Bool := 0x80 ≤ byte && byte ≤ 0xBF

/-- Whether a byte may follow a first byte. -/
def mayFollow (first second : UInt8) : Bool :=
  if first = 0xE0 then 0xA0 ≤ second && second ≤ 0xBF
  else if first = 0xED then 0x80 ≤ second && second ≤ 0x9F
  else if first = 0xF0 then 0x90 ≤ second && second ≤ 0xBF
  else if first = 0xF4 then 0x80 ≤ second && second ≤ 0x8F
  else 0xC2 ≤ first && first ≤ 0xF4 && isContinuation second

/-- How many bytes of an invalid sequence one replacement character stands for. -/
def invalidLength : List UInt8 → Nat
  | first :: second :: third :: _ =>
      if first < 0xE0 || !mayFollow first second then 1
      else if first < 0xF0 || !isContinuation third then 2
      else 3
  | [first, second] => if first < 0xE0 || !mayFollow first second then 1 else 2
  | _ => 1

/-- The character at the front, and the number of bytes it takes. -/
def next (bytes : List UInt8) : Char × Nat :=
  match bytes.toByteArray.utf8DecodeChar? 0 with
  | some c => (c, c.utf8Size)
  | none => (replacement, invalidLength bytes)

/-- Read at most as many characters as the fuel allows. -/
def read : Nat → List UInt8 → List Char
  | 0, _ => []
  | _, [] => []
  | fuel + 1, bytes => (next bytes).1 :: read fuel (bytes.drop (next bytes).2)

/-- No character takes less than a byte. -/
def decode (bytes : List UInt8) : List Char := read bytes.length bytes

theorem toByteArray_append (left right : List UInt8) :
    (left ++ right).toByteArray = left.toByteArray ++ right.toByteArray := by
  simp

theorem next_encode (c : Char) (bytes : List UInt8) :
    next (String.utf8EncodeChar c ++ bytes) = (c, c.utf8Size) := by
  rw [next, toByteArray_append, ByteArray.utf8DecodeChar?_utf8EncodeChar_append]

/-- A byte that begins a pair, and one that does not continue it. -/
theorem next_of_broken_pair {first second : UInt8}
    (hfirst : ByteArray.utf8DecodeChar?.parseFirstByte first = .oneMore)
    (hsecond : ByteArray.utf8DecodeChar?.assemble₂ first second = none) (rest : List UInt8) :
    (next (first :: second :: rest)).1 = replacement := by
  have hzero : ∀ h, getElem (first :: second :: rest).toByteArray 0 h = first := by
    intro h
    simp
  have hone : ∀ h, getElem (first :: second :: rest).toByteArray 1 h = second := by
    intro h
    simp
  have hnone : (first :: second :: rest).toByteArray.utf8DecodeChar? 0 = none := by
    fun_cases ByteArray.utf8DecodeChar?
    case case2 hsize hdone =>
      rw [hzero, hfirst] at hdone
      cases hdone
    all_goals simp_all
  rw [next, hnone]

theorem read_cons {fuel : Nat} {bytes : List UInt8} (h : bytes ≠ []) :
    read (fuel + 1) bytes = (next bytes).1 :: read fuel (bytes.drop (next bytes).2) := by
  cases bytes with
  | nil => exact absurd rfl h
  | cons byte bytes => rfl

theorem read_nil (fuel : Nat) : read fuel [] = [] := by cases fuel <;> rfl

theorem length_encode_cons (c : Char) (text : List Char) :
    (encode (c :: text)).length = c.utf8Size + (encode text).length := by
  rw [encode, List.flatMap_cons, List.length_append, String.length_utf8EncodeChar]
  rfl

theorem read_encode (text : List Char) {fuel : Nat} (h : text.length ≤ fuel) :
    read fuel (encode text) = text := by
  induction text generalizing fuel with
  | nil => exact read_nil fuel
  | cons c text ih =>
      cases fuel with
      | zero => simp at h
      | succ fuel =>
          have hcons : encode (c :: text) = String.utf8EncodeChar c ++ encode text := rfl
          have hne : String.utf8EncodeChar c ++ encode text ≠ [] := by
            intro hnil
            have hlength := congrArg List.length hnil
            rw [List.length_append, String.length_utf8EncodeChar] at hlength
            have hpos := c.utf8Size_pos
            simp at hlength
            omega
          have hdrop : (String.utf8EncodeChar c ++ encode text).drop c.utf8Size = encode text := by
            rw [← String.length_utf8EncodeChar, List.drop_left]
          rw [hcons, read_cons hne, next_encode, hdrop, ih (by simpa using h)]

theorem decode_encode (text : List Char) : decode (encode text) = text := by
  refine read_encode text ?_
  induction text with
  | nil => exact Nat.zero_le _
  | cons c text ih =>
      have hpos := c.utf8Size_pos
      rw [length_encode_cons, List.length_cons]
      omega

end Utf8
