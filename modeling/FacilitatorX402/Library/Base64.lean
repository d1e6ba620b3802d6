import Mathlib.Data.List.Basic
import Mathlib.Tactic.Common

/-!
# Bytes written in base 64

Three bytes make four characters; one or two left over are padded. Reading is lenient: it accepts the
characters of both alphabets, skips every other character, and stops at the padding.
-/

namespace Base64

def alphabet : List Char :=
  "ABCDEFGHIJKLMNOPQRSTUVWXYZabcdefghijklmnopqrstuvwxyz0123456789+/".toList

def symbol (n : Nat) : Char := alphabet.getD n '='

def encode : List UInt8 → List Char
  | [] => []
  | [a] => [symbol (a.toNat / 4), symbol (a.toNat % 4 * 16), '=', '=']
  | [a, b] =>
      [symbol (a.toNat / 4), symbol (a.toNat % 4 * 16 + b.toNat / 16), symbol (b.toNat % 16 * 4), '=']
  | a :: b :: c :: rest =>
      symbol (a.toNat / 4) :: symbol (a.toNat % 4 * 16 + b.toNat / 16) ::
        symbol (b.toNat % 16 * 4 + c.toNat / 64) :: symbol (c.toNat % 64) :: encode rest

theorem symbol_mem (n : Nat) : symbol n ∈ '=' :: alphabet := by
  rw [symbol, List.getD_eq_getElem?_getD]
  cases h : alphabet[n]? with
  | none => exact List.mem_cons_self
  | some c => exact List.mem_cons_of_mem _ (List.mem_of_getElem? h)

theorem mem_of_mem_encode {bytes : List UInt8} {c : Char} (h : c ∈ encode bytes) :
    c ∈ '=' :: alphabet := by
  have hpadding : '=' ∈ '=' :: alphabet := List.mem_cons_self
  induction bytes using encode.induct with
  | case1 => cases h
  | case2 a =>
      simp only [encode, List.mem_cons, List.not_mem_nil, or_false] at h
      rcases h with rfl | rfl | rfl | rfl
      exacts [symbol_mem _, symbol_mem _, hpadding, hpadding]
  | case3 a b =>
      simp only [encode, List.mem_cons, List.not_mem_nil, or_false] at h
      rcases h with rfl | rfl | rfl | rfl
      exacts [symbol_mem _, symbol_mem _, symbol_mem _, hpadding]
  | case4 a b c rest ih =>
      simp only [encode, List.mem_cons] at h
      rcases h with rfl | rfl | rfl | rfl | h
      exacts [symbol_mem _, symbol_mem _, symbol_mem _, symbol_mem _, ih h]

/-! ### Reading -/

/-- The value of a character, in either alphabet. -/
def value? (c : Char) : Option Nat :=
  if c = '-' then some 62 else if c = '_' then some 63 else alphabet.idxOf? c

/-- Six bits a number, eight bits a byte. What is left over of a byte is dropped. -/
def unpack : List Nat → List UInt8
  | a :: b :: c :: d :: rest =>
      .ofNat (a * 4 + b / 16) :: .ofNat (b % 16 * 16 + c / 4) :: .ofNat (c % 4 * 64 + d) ::
        unpack rest
  | [a, b, c] => [.ofNat (a * 4 + b / 16), .ofNat (b % 16 * 16 + c / 4)]
  | [a, b] => [.ofNat (a * 4 + b / 16)]
  | _ => []

def sextets (text : List Char) : List Nat := (text.takeWhile (· ≠ '=')).filterMap value?

def decode (text : List Char) : List UInt8 := unpack (sextets text)

theorem value?_symbol : ∀ n < 64, value? (symbol n) = some n := by decide +kernel

theorem symbol_ne_padding : ∀ n < 64, symbol n ≠ '=' := by decide +kernel

theorem sextets_symbol_cons {n : Nat} (hn : n < 64) (text : List Char) :
    sextets (symbol n :: text) = n :: sextets text := by
  simp [sextets, symbol_ne_padding n hn, value?_symbol n hn]

theorem sextets_padding (text : List Char) : sextets ('=' :: text) = [] := rfl

theorem byte_eq {n : Nat} {byte : UInt8} (h : n = byte.toNat) : UInt8.ofNat n = byte := by
  rw [h, UInt8.ofNat_toNat]

theorem decode_encode (bytes : List UInt8) : decode (encode bytes) = bytes := by
  unfold decode
  induction bytes using encode.induct with
  | case1 => rfl
  | case2 a =>
      have ha := a.toNat_lt
      rw [encode, sextets_symbol_cons (by omega), sextets_symbol_cons (by omega), sextets_padding,
        unpack, @byte_eq _ a (by omega)]
  | case3 a b =>
      have ha := a.toNat_lt
      have hb := b.toNat_lt
      rw [encode, sextets_symbol_cons (by omega), sextets_symbol_cons (by omega),
        sextets_symbol_cons (by omega), sextets_padding, unpack, @byte_eq _ a (by omega),
        @byte_eq _ b (by omega)]
  | case4 a b c rest ih =>
      have ha := a.toNat_lt
      have hb := b.toNat_lt
      have hc := c.toNat_lt
      rw [encode, sextets_symbol_cons (by omega), sextets_symbol_cons (by omega),
        sextets_symbol_cons (by omega), sextets_symbol_cons (by omega), unpack, ih,
        @byte_eq _ a (by omega), @byte_eq _ b (by omega),
        @byte_eq _ c (by omega)]

example : String.ofList (encode [77, 97, 110, 77]) = "TWFuTQ==" := by decide

/-! ### Spellings -/

/-- What a writer may do otherwise: take the characters of the other alphabet, put in white space, and
leave out the padding. -/
inductive Respells : List Char → List Char → Prop
  | nil : Respells [] []
  | same (c : Char) {text text' : List Char} (h : Respells text text') : Respells (c :: text) (c :: text')
  | dash {text text' : List Char} (h : Respells text text') : Respells ('+' :: text) ('-' :: text')
  | underscore {text text' : List Char} (h : Respells text text') : Respells ('/' :: text) ('_' :: text')
  | space (c : Char) (hspace : c = ' ' ∨ c = '\t' ∨ c = '\n' ∨ c = '\r') {text text' : List Char}
      (h : Respells text text') : Respells text (c :: text')
  | unpadded (text : List Char) : Respells ('=' :: text) []

theorem Respells.refl (text : List Char) : Respells text text := by
  induction text with
  | nil => exact .nil
  | cons c text ih => exact .same c ih

theorem sextets_cons_of_ne {c : Char} (h : c ≠ '=') (text : List Char) :
    sextets (c :: text) = (value? c).toList ++ sextets text := by
  rw [sextets, List.takeWhile_cons, if_pos (decide_eq_true h), List.filterMap_cons]
  cases value? c <;> rfl

/-- What a spelling adds are these characters. -/
theorem mem_of_respells {text text' : List Char} (h : Respells text text') {c : Char} (hc : c ∈ text') :
    c ∈ text ∨ c ∈ ['-', '_', ' ', '\t', '\n', '\r'] := by
  induction h with
  | nil => cases hc
  | same c' h ih =>
      rcases List.mem_cons.mp hc with rfl | hc
      · exact .inl List.mem_cons_self
      · exact (ih hc).imp_left (List.mem_cons_of_mem _)
  | dash h ih | underscore h ih =>
      rcases List.mem_cons.mp hc with rfl | hc
      · exact .inr (by decide)
      · exact (ih hc).imp_left (List.mem_cons_of_mem _)
  | space c' hspace h ih =>
      rcases List.mem_cons.mp hc with rfl | hc
      · exact .inr (by rcases hspace with rfl | rfl | rfl | rfl <;> decide)
      · exact ih hc
  | unpadded text => cases hc

/-- All spellings of a text are read alike. -/
theorem decode_of_respells {text text' : List Char} (h : Respells text text') :
    decode text' = decode text := by
  suffices hsame : sextets text' = sextets text by rw [decode, decode, hsame]
  induction h with
  | nil => rfl
  | same c h ih =>
      by_cases hpadding : c = '='
      · rw [hpadding, sextets_padding, sextets_padding]
      · rw [sextets_cons_of_ne hpadding, sextets_cons_of_ne hpadding, ih]
  | dash h ih => rw [sextets_cons_of_ne (by decide), sextets_cons_of_ne (by decide), ih]; rfl
  | underscore h ih => rw [sextets_cons_of_ne (by decide), sextets_cons_of_ne (by decide), ih]; rfl
  | space c hspace h ih =>
      rw [← ih]
      rcases hspace with rfl | rfl | rfl | rfl <;> rfl
  | unpadded text => rfl

end Base64
