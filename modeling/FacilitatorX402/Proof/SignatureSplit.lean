import FacilitatorX402.Settlement.OnChain

/-!
# A signature taken apart

What `submitOnChain` makes of the stored signature: the words of its 65 bytes, from which the signature
is put together again.
-/

namespace FacilitatorX402

theorem HexString.length_bytes {n : Nat} (hex : HexString (2 * n)) : hex.bytes.length = n :=
  HexText.length_fromHex hex.length_digits hex.all_digits

theorem hexBytes_signatureHash (signature : Signature) :
    hexBytes (computeSignatureHash signature.text) = signature.bytes :=
  HexString.fromHex_lower signature

/-- `0x` and the digits of these bytes. -/
def hexWord (bytes : List UInt8) : String := "0x" ++ String.ofList (HexText.toHex bytes)

@[simp]
theorem toList_hexWord (bytes : List UInt8) :
    (hexWord bytes).toList = '0' :: 'x' :: HexText.toHex bytes := by
  simp [hexWord]

/-- A word of digits of lower case, as `0x` and twice as many digits as bytes. -/
def IsLowerHex (n : Nat) (text : String) : Prop :=
  isHexText n text = true ∧ HexText.lowerCase text = text

theorem isLowerHex_hexWord {n : Nat} {bytes : List UInt8} (hlength : bytes.length = n) :
    IsLowerHex (2 * n) (hexWord bytes) := by
  constructor
  · rw [isHexText, toList_hexWord]
    simp only [HexText.length_toHex, hlength, BEq.rfl, Bool.true_and, List.all_eq_true]
    exact fun c hc => (HexText.of_mem_toHex hc).1
  · have hlower : (HexText.toHex bytes).map Char.toLower = HexText.toHex bytes :=
      (List.map_congr_left fun c hc => (HexText.of_mem_toHex hc).2).trans (List.map_id' _)
    apply String.toList_inj.mp
    rw [HexText.toList_lowerCase, toList_hexWord, List.map_cons, List.map_cons, hlower]
    rfl

/-- The three parts of 65 bytes. -/
theorem splitSignature_eq {signature : String} {v : UInt8} {r s : List UInt8} (hr : r.length = 32)
    (hs : s.length = 32) (hbytes : hexBytes signature = r ++ (s ++ [v])) :
    splitSignature signature = { v := some v, r := hexWord r, s := hexWord s } := by
  have htail : (r ++ (s ++ [v])).drop 32 = s ++ [v] := by rw [← hr, List.drop_left]
  have hv : (r ++ (s ++ [v]))[64]? = some v := by
    rw [List.getElem?_append_right (by omega), List.getElem?_append_right (by omega), hr, hs]
    rfl
  rw [splitSignature, hbytes, hv, htail, List.take_left' hr, List.take_left' hs]
  rfl

theorem exists_parts {bytes : List UInt8} (hlength : bytes.length = 65) :
    ∃ r s v, bytes = r ++ (s ++ [v]) ∧ r.length = 32 ∧ s.length = 32 := by
  obtain ⟨v, hv⟩ := List.length_eq_one_iff.mp
    (show ((bytes.drop 32).drop 32).length = 1 by simp [hlength])
  refine ⟨bytes.take 32, (bytes.drop 32).take 32, v, ?_, by simp [hlength], by simp [hlength]⟩
  rw [← hv, List.take_append_drop, List.take_append_drop]

/-- **Splitting a signature loses nothing.** The two words of an accepted signature and its last byte,
written one after the other, are the signature in lower case. -/
theorem splitSignature_lossless (req : VerifyRequest) :
    let split := splitSignature (computeSignatureHash req.payload.signature.text)
    IsLowerHex (2 * 32) split.r ∧ IsLowerHex (2 * 32) split.s ∧
      ∃ v, split.v = some v ∧
        "0x" ++ String.ofList (split.r.toList.drop 2 ++ split.s.toList.drop 2 ++ HexText.toHex [v]) =
          req.payload.signature.lower := by
  obtain ⟨r, s, v, hbytes, hr, hs⟩ := exists_parts req.payload.signature.length_bytes
  have hsplit := splitSignature_eq hr hs
    ((hexBytes_signatureHash req.payload.signature).trans hbytes)
  rw [hsplit]
  refine ⟨isLowerHex_hexWord hr, isLowerHex_hexWord hs, v, rfl, ?_⟩
  have hwritten : HexText.toHex req.payload.signature.bytes =
      req.payload.signature.digits.map Char.toLower :=
    HexText.toHex_fromHex 65 _ req.payload.signature.length_digits req.payload.signature.all_digits
  apply String.toList_inj.mp
  rw [HexString.toList_lower, ← hwritten, hbytes, HexText.toHex_append, HexText.toHex_append,
    ← List.append_assoc]
  simp

end FacilitatorX402
