import FacilitatorX402.Infrastructure.WebhookDispatcher

/-!
# What the patterns recognise

On dotted decimals the patterns are exact. The patterns for IPv6 are anchored and name single values of
the first group, where the blocks are ranges of it, and nothing that stands in brackets matches.
-/

namespace FacilitatorX402.Ssrf

open CharPattern IpAddress

/-- 127.0.0.0/8, 10.0.0.0/8, 172.16.0.0/12, 192.168.0.0/16, 169.254.0.0/16 and 0.0.0.0. -/
def Reserved4 (ip : Ipv4) : Prop :=
  ip.a = 127 ∨ ip.a = 10 ∨ ip.a = 172 ∧ 16 ≤ ip.b ∧ ip.b ≤ 31 ∨ ip.a = 192 ∧ ip.b = 168 ∨
    ip.a = 169 ∧ ip.b = 254 ∨ ip = ⟨0, 0, 0, 0⟩

/-- `::1`, fe80::/10, fc00::/7, and the mapped forms of IPv4 addresses. -/
def Reserved6 (ip : Ipv6) : Prop :=
  ip = Ipv6.loopback ∨ ip.first / 64 = 0xfe80 / 64 ∨ ip.first / 512 = 0xfc00 / 512 ∨
    ip.IsMapped ∧ Reserved4 ip.embedded

/-- The IPv6 addresses whose text matches a pattern. -/
def Seen6 (ip : Ipv6) : Prop :=
  ip = Ipv6.loopback ∨ ip.first = 0xfc00 ∨ ip.first / 256 = 0xfd ∨ ip.first = 0xfe80

instance (ip : Ipv4) : Decidable (Reserved4 ip) := inferInstanceAs (Decidable (_ ∨ _))

instance (ip : Ipv6) : Decidable (Reserved6 ip) := inferInstanceAs (Decidable (_ ∨ _))

instance (ip : Ipv6) : Decidable (Seen6 ip) := inferInstanceAs (Decidable (_ ∨ _))

/-! ## Segments -/

theorem whole_decimal_iff {text : String} {byte : UInt8} (htext : decimal byte.toNat = text.toList)
    (other : UInt8) : whole (lit text) (decimal other.toNat) = true ↔ other = byte := by
  rw [whole_lit_iff, ← htext]
  exact ⟨decimal_injective other byte, fun h => by rw [h]⟩

theorem whole_classB_iff (byte : UInt8) :
    (whole [(· == '1'), range '6' '9'] (decimal byte.toNat) ||
        whole [(· == '2'), range '0' '9'] (decimal byte.toNat) ||
          whole [(· == '3'), range '0' '1'] (decimal byte.toNat)) = true ↔
      16 ≤ byte ∧ byte ≤ 31 := by
  have hall : ∀ n < 256, (whole [(· == '1'), range '6' '9'] (decimal n) ||
      whole [(· == '2'), range '0' '9'] (decimal n) ||
        whole [(· == '3'), range '0' '1'] (decimal n)) = true ↔ 16 ≤ n ∧ n ≤ 31 := by
    decide +kernel
  have hle : ∀ low high : UInt8, low ≤ high ↔ low.toNat ≤ high.toNat := fun _ _ =>
    UInt8.le_iff_toNat_le
  rw [hle 16 byte, hle byte 31]
  exact hall byte.toNat (UInt8.toNat_lt byte)

/-- The first test of a pattern that begins with these characters. -/
theorem lit_tests {text : String} {c : Char} (h : c ∉ text.toList) :
    ∀ test ∈ lit text, test c = false := by
  intro test hmem
  obtain ⟨c', hc', rfl⟩ := List.mem_map.mp hmem
  have hne : c ≠ c' := fun heq => h (heq ▸ hc')
  simpa using hne

/-! ## Dotted decimals -/

section Ipv4

variable {ip : Ipv4} {text next : String} {byte byte' : UInt8}

theorem begins_first_iff (htext : decimal byte.toNat = text.toList) (hdot : '.' ∉ text.toList) :
    begins (lit text ++ [(· == '.')]) ip.text = true ↔ ip.a = byte := by
  rw [Ipv4.text, begins_append_cons [] _ (lit_tests hdot) (dot_not_mem_decimal ip.a)]
  simpa [begins] using whole_decimal_iff htext ip.a

theorem begins_second_iff (htext : decimal byte.toNat = text.toList) (hdot : '.' ∉ text.toList)
    (hnext : decimal byte'.toNat = next.toList) (hdot' : '.' ∉ next.toList) :
    begins (lit text ++ (· == '.') :: (lit next ++ [(· == '.')])) ip.text = true ↔
      ip.a = byte ∧ ip.b = byte' := by
  rw [Ipv4.text, begins_append_cons _ _ (lit_tests hdot) (dot_not_mem_decimal ip.a),
    begins_append_cons [] _ (lit_tests hdot') (dot_not_mem_decimal ip.b)]
  simpa [begins] using and_congr (whole_decimal_iff htext ip.a) (whole_decimal_iff hnext ip.b)

theorem classBPattern_iff : classBPattern ip.text = true ↔ ip.a = 172 ∧ 16 ≤ ip.b ∧ ip.b ≤ 31 := by
  have hhead : ∀ tests : Pattern, (∀ test ∈ tests, test '.' = false) →
      begins (lit "172" ++ (· == '.') :: (tests ++ [(· == '.')])) ip.text =
        (whole (lit "172") (decimal ip.a.toNat) && whole tests (decimal ip.b.toNat)) := by
    intro tests htests
    rw [Ipv4.text, begins_append_cons _ _ (lit_tests (by decide)) (dot_not_mem_decimal ip.a),
      begins_append_cons [] _ htests (dot_not_mem_decimal ip.b)]
    simp [begins]
  have hfirst : whole (lit "172") (decimal ip.a.toNat) = true ↔ ip.a = 172 :=
    whole_decimal_iff (by decide) ip.a
  have hten := hhead [(· == '1'), range '6' '9'] (by decide)
  have htwenty := hhead [(· == '2'), range '0' '9'] (by decide)
  have hthirty := hhead [(· == '3'), range '0' '1'] (by decide)
  simp only [List.cons_append, List.nil_append] at hten htwenty hthirty
  rw [classBPattern, hten, htwenty, hthirty, ← Bool.and_or_distrib_left,
    ← Bool.and_or_distrib_left, Bool.and_eq_true, hfirst, whole_classB_iff]

/-- A text of digits and dots matches no pattern for IPv6 and no name. -/
theorem begins_colon_ipv4 {tests : Pattern} (htests : ∀ test ∈ tests, test '.' = false) :
    begins (tests ++ [(· == ':')]) ip.text = false := by
  rw [Ipv4.text, begins_append_cons [] _ htests (colon_not_mem_decimal ip.a)]
  simp

end Ipv4

/-! ## Names -/

/-- No name that has the letter l in it is an address. -/
theorem not_passes_l {text : List Char} (h : ∀ c ∈ text, c ∈ addressChars) :
    ¬ ∃ c ∈ text, (c.toLower == 'l') = true := by
  rintro ⟨c, hc, hl⟩
  have hall : addressChars.Forall fun c => (c.toLower == 'l') = false := by decide
  rw [List.forall_iff_forall_mem.mp hall c (h c hc)] at hl
  cases hl

theorem names_false {text : List Char} (h : ∀ c ∈ text, c ∈ addressChars) :
    whole (litAnyCase "localhost") text = false ∧ ends (litAnyCase ".local") text = false ∧
      ends (litAnyCase ".internal") text = false ∧
        whole (litAnyCase "metadata.google.internal") text = false := by
  have hwhole : ∀ name : String, 'l' ∈ name.toList → whole (litAnyCase name) text = false := by
    intro name hname
    rw [Bool.eq_false_iff]
    exact fun hmatch => not_passes_l h (exists_of_whole hmatch _ (mem_litAnyCase hname))
  have hends : ∀ name : String, 'l' ∈ name.toList → ends (litAnyCase name) text = false := by
    intro name hname
    rw [Bool.eq_false_iff]
    exact fun hmatch => not_passes_l h (exists_of_ends hmatch _ (mem_litAnyCase hname))
  exact ⟨hwhole _ (by decide), hends _ (by decide), hends _ (by decide), hwhole _ (by decide)⟩

theorem isPrivate_iff (host : List Char) :
    isPrivateOrReservedIp (String.ofList host) = true ↔ ∃ re ∈ privatePatterns, re host = true := by
  rw [isPrivateOrReservedIp, String.toList_ofList, List.any_eq_true]

/-- The dotted decimals that match are those of reserved addresses. -/
theorem isPrivate_ipv4_iff (ip : Ipv4) :
    isPrivateOrReservedIp (String.ofList ip.text) = true ↔ Reserved4 ip := by
  obtain ⟨hlocalhost, hlocal, hinternal, hmetadata⟩ := names_false fun c hc => mem_ipv4_text hc
  have hcolon : ':' ∉ ip.text := by
    simp [Ipv4.text, colon_not_mem_decimal]
  have hloopback : (ip.text == "::1".toList) = false := by
    rw [beq_eq_false_iff_ne]
    exact fun heq => hcolon (heq ▸ by decide)
  have hlocal6 : begins (litAnyCase "fc00" ++ [(· == ':')]) ip.text = false :=
    begins_colon_ipv4 (by decide)
  have hunique6 : begins (litAnyCase "fd" ++ [hexAnyCase, hexAnyCase] ++ [(· == ':')]) ip.text =
      false := begins_colon_ipv4 (by decide)
  have hlink6 : begins (litAnyCase "fe80" ++ [(· == ':')]) ip.text = false :=
    begins_colon_ipv4 (by decide)
  have hloop : begins (lit "127" ++ [(· == '.')]) ip.text = true ↔ ip.a = 127 :=
    begins_first_iff (by decide) (by decide)
  have hten : begins (lit "10" ++ [(· == '.')]) ip.text = true ↔ ip.a = 10 :=
    begins_first_iff (by decide) (by decide)
  have hclassC : begins (lit "192" ++ (· == '.') :: (lit "168" ++ [(· == '.')])) ip.text = true ↔
      ip.a = 192 ∧ ip.b = 168 :=
    begins_second_iff (by decide) (by decide) (by decide) (by decide)
  have hlinkLocal : begins (lit "169" ++ (· == '.') :: (lit "254" ++ [(· == '.')])) ip.text = true ↔
      ip.a = 169 ∧ ip.b = 254 :=
    begins_second_iff (by decide) (by decide) (by decide) (by decide)
  have hzero : ip.text = "0.0.0.0".toList ↔ ip = ⟨0, 0, 0, 0⟩ :=
    ⟨fun h => ipv4_text_injective h, fun h => h ▸ by decide⟩
  have haws : ip.text = "169.254.169.254".toList → ip.a = 169 ∧ ip.b = 254 := by
    intro h
    have heq : ip = ⟨169, 254, 169, 254⟩ := ipv4_text_injective h
    exact ⟨by rw [heq], by rw [heq]⟩
  rw [isPrivate_iff]
  constructor
  · rintro ⟨re, hre, hmatch⟩
    simp only [privatePatterns, List.mem_cons, List.not_mem_nil, or_false] at hre
    rcases hre with rfl | rfl | rfl | rfl | rfl | rfl | rfl | rfl | rfl | rfl | rfl | rfl | rfl | rfl |
      rfl
    · exact .inl (hloop.mp hmatch)
    · exact .inr (.inl (hten.mp hmatch))
    · exact .inr (.inr (.inl (classBPattern_iff.mp hmatch)))
    · exact .inr (.inr (.inr (.inl (hclassC.mp hmatch))))
    · exact .inr (.inr (.inr (.inr (.inl (hlinkLocal.mp hmatch)))))
    · cases hloopback.symm.trans hmatch
    · cases hlocal6.symm.trans hmatch
    · cases hunique6.symm.trans hmatch
    · cases hlink6.symm.trans hmatch
    · exact .inr (.inr (.inr (.inr (.inr (hzero.mp (beq_iff_eq.mp hmatch))))))
    · cases hlocalhost.symm.trans hmatch
    · cases hlocal.symm.trans hmatch
    · cases hinternal.symm.trans hmatch
    · cases hmetadata.symm.trans hmatch
    · exact .inr (.inr (.inr (.inr (.inl (haws (beq_iff_eq.mp hmatch))))))
  · rintro (h | h | h | h | h | h)
    · exact ⟨_, List.mem_of_getElem? (i := 0) rfl, hloop.mpr h⟩
    · exact ⟨_, List.mem_of_getElem? (i := 1) rfl, hten.mpr h⟩
    · exact ⟨_, List.mem_of_getElem? (i := 2) rfl, classBPattern_iff.mpr h⟩
    · exact ⟨_, List.mem_of_getElem? (i := 3) rfl, hclassC.mpr h⟩
    · exact ⟨_, List.mem_of_getElem? (i := 4) rfl, hlinkLocal.mpr h⟩
    · exact ⟨_, List.mem_of_getElem? (i := 9) rfl, beq_iff_eq.mpr (hzero.mpr h)⟩

/-! ## Groups of hexadecimal digits -/

section Ipv6

variable {ip : Ipv6} {tests rest : Pattern}

theorem first_lt (ip : Ipv6) : ip.first < 65536 := UInt16.toNat_lt _

theorem sep_not_mem_hexGroup (n : Nat) (hn : n < 65536) : '.' ∉ hexGroup n ∧ ':' ∉ hexGroup n :=
  ⟨fun h => absurd (mem_hexGroup hn h) (by decide), fun h => absurd (mem_hexGroup hn h) (by decide)⟩

/-- A pattern with a dot after its first segment does not match. -/
theorem begins_dot_ntop (htests : ∀ test ∈ tests, test ':' = false) (hne : tests ≠ []) :
    begins (tests ++ (· == '.') :: rest) ip.ntop = false := by
  rcases ntop_cases ip with ⟨-, text, htext⟩ | ⟨text, htext⟩
  · obtain ⟨test, others, rfl⟩ := List.exists_cons_of_ne_nil hne
    rw [htext, List.cons_append, begins_of_ne (htests test List.mem_cons_self)]
  · rw [htext, begins_append_cons rest text htests (sep_not_mem_hexGroup _ (first_lt ip)).1]
    simp

/-- A pattern for the first group looks at that group only. -/
theorem begins_colon_ntop (htests : ∀ test ∈ tests, test ':' = false) (hne : tests ≠ [])
    (hzero : whole tests (hexGroup 0) = false) :
    begins (tests ++ [(· == ':')]) ip.ntop = whole tests (hexGroup ip.first) := by
  rcases ntop_cases ip with ⟨hfirst, text, htext⟩ | ⟨text, htext⟩
  · obtain ⟨test, others, rfl⟩ := List.exists_cons_of_ne_nil hne
    rw [htext, List.cons_append, begins_of_ne (htests test List.mem_cons_self), hfirst, hzero]
  · rw [htext, begins_append_cons [] text htests (sep_not_mem_hexGroup _ (first_lt ip)).2]
    simp [begins]

theorem toLower_digit : ∀ n < 16, (HexText.digit n).toLower = HexText.digit n := by decide

theorem digit_eq_iff : ∀ m < 16, ∀ n < 16, HexText.digit m = HexText.digit n ↔ m = n := by
  decide +kernel

/-- Four digits of either case match exactly the group that they write. -/
theorem whole_group_iff {text : String} {a b c d : Nat}
    (htext : text.toList = [HexText.digit a, HexText.digit b, HexText.digit c, HexText.digit d])
    (ha : 0 < a ∧ a < 16) (hb : b < 16) (hc : c < 16) (hd : d < 16) {n : Nat} (hn : n < 65536) :
    whole (litAnyCase text) (hexGroup n) = true ↔ n = ((a * 16 + b) * 16 + c) * 16 + d := by
  rw [litAnyCase, htext]
  unfold hexGroup
  split_ifs with h16 h256 h4096
  · simp [whole]
    omega
  · simp [whole]
    omega
  · simp [whole]
    omega
  · simp only [List.map_cons, List.map_nil, whole, Bool.and_true, Bool.and_eq_true, beq_iff_eq]
    rw [toLower_digit _ (by omega), toLower_digit _ (by omega), toLower_digit _ (by omega),
      toLower_digit _ (by omega), digit_eq_iff _ (by omega) _ ha.2, digit_eq_iff _ (by omega) _ hb,
      digit_eq_iff _ (by omega) _ hc, digit_eq_iff _ (by omega) _ hd]
    omega

theorem hexAnyCase_digit : ∀ n < 16, hexAnyCase (HexText.digit n) = true := by decide

theorem whole_fd_iff {n : Nat} (hn : n < 65536) :
    whole (litAnyCase "fd" ++ [hexAnyCase, hexAnyCase]) (hexGroup n) = true ↔ n / 256 = 0xfd := by
  have htests : litAnyCase "fd" = [fun c => c.toLower == HexText.digit 15,
      fun c => c.toLower == HexText.digit 13] := rfl
  rw [htests]
  unfold hexGroup
  split_ifs with h16 h256 h4096
  · simp [whole]
    omega
  · simp [whole]
    omega
  · simp [whole]
    omega
  · simp only [List.cons_append, List.nil_append, whole, Bool.and_true, Bool.and_eq_true, beq_iff_eq]
    rw [toLower_digit _ (by omega), toLower_digit _ (by omega), digit_eq_iff _ (by omega) _ (by omega),
      digit_eq_iff _ (by omega) _ (by omega), hexAnyCase_digit _ (by omega),
      hexAnyCase_digit _ (by omega)]
    simp only [and_true]
    omega

end Ipv6

/-- The texts of the resolver that match are those of the addresses seen. -/
theorem isPrivate_ntop_iff (ip : Ipv6) :
    isPrivateOrReservedIp (String.ofList ip.ntop) = true ↔ Seen6 ip := by
  obtain ⟨hlocalhost, hlocal, hinternal, hmetadata⟩ := names_false fun c hc => @mem_ntop ip c hc
  have hdigits : ∀ text : String, ':' ∉ text.toList → ∀ test ∈ lit text, test ':' = false :=
    fun _ h => lit_tests h
  have hloop : begins (lit "127" ++ [(· == '.')]) ip.ntop = false :=
    begins_dot_ntop (hdigits _ (by decide)) (by simp [lit])
  have hten : begins (lit "10" ++ [(· == '.')]) ip.ntop = false :=
    begins_dot_ntop (hdigits _ (by decide)) (by simp [lit])
  have hclassB : classBPattern ip.ntop = false := by
    have hhead : ∀ rest : Pattern, begins (lit "172" ++ (· == '.') :: rest) ip.ntop = false :=
      fun _ => begins_dot_ntop (hdigits _ (by decide)) (by simp [lit])
    rw [classBPattern, hhead, hhead, hhead]
    rfl
  have hclassC : begins (lit "192" ++ (· == '.') :: (lit "168" ++ [(· == '.')])) ip.ntop = false :=
    begins_dot_ntop (hdigits _ (by decide)) (by simp [lit])
  have hlinkLocal : begins (lit "169" ++ (· == '.') :: (lit "254" ++ [(· == '.')])) ip.ntop =
      false :=
    begins_dot_ntop (hdigits _ (by decide)) (by simp [lit])
  have hlocal6 : begins (litAnyCase "fc00" ++ [(· == ':')]) ip.ntop = true ↔ ip.first = 0xfc00 := by
    rw [begins_colon_ntop (by decide) (by simp [litAnyCase]) (by decide)]
    exact @whole_group_iff "fc00" 15 12 0 0 rfl (by omega) (by omega) (by omega) (by omega) _
      (first_lt ip)
  have hunique6 : begins (litAnyCase "fd" ++ [hexAnyCase, hexAnyCase] ++ [(· == ':')]) ip.ntop =
      true ↔ ip.first / 256 = 0xfd := by
    rw [begins_colon_ntop (by decide) (by simp [litAnyCase]) (by decide)]
    exact whole_fd_iff (first_lt ip)
  have hlink6 : begins (litAnyCase "fe80" ++ [(· == ':')]) ip.ntop = true ↔ ip.first = 0xfe80 := by
    rw [begins_colon_ntop (by decide) (by simp [litAnyCase]) (by decide)]
    exact @whole_group_iff "fe80" 15 14 8 0 rfl (by omega) (by omega) (by omega) (by omega) _
      (first_lt ip)
  have hcolon : ':' ∈ ip.ntop := by
    rcases ntop_cases ip with ⟨-, text, htext⟩ | ⟨text, htext⟩
    · simp [htext]
    · simp [htext]
  have hzero : ip.ntop ≠ "0.0.0.0".toList := fun h => absurd (h ▸ hcolon) (by decide)
  have haws : ip.ntop ≠ "169.254.169.254".toList := fun h => absurd (h ▸ hcolon) (by decide)
  rw [isPrivate_iff]
  constructor
  · rintro ⟨re, hre, hmatch⟩
    simp only [privatePatterns, List.mem_cons, List.not_mem_nil, or_false] at hre
    rcases hre with rfl | rfl | rfl | rfl | rfl | rfl | rfl | rfl | rfl | rfl | rfl | rfl | rfl | rfl |
      rfl
    · cases hloop.symm.trans hmatch
    · cases hten.symm.trans hmatch
    · cases hclassB.symm.trans hmatch
    · cases hclassC.symm.trans hmatch
    · cases hlinkLocal.symm.trans hmatch
    · exact .inl ((ntop_eq_loopback_iff ip).mp (beq_iff_eq.mp hmatch))
    · exact .inr (.inl (hlocal6.mp hmatch))
    · exact .inr (.inr (.inl (hunique6.mp hmatch)))
    · exact .inr (.inr (.inr (hlink6.mp hmatch)))
    · exact absurd (beq_iff_eq.mp hmatch) hzero
    · cases hlocalhost.symm.trans hmatch
    · cases hlocal.symm.trans hmatch
    · cases hinternal.symm.trans hmatch
    · cases hmetadata.symm.trans hmatch
    · exact absurd (beq_iff_eq.mp hmatch) haws
  · rintro (h | h | h | h)
    · exact ⟨_, List.mem_of_getElem? (i := 5) rfl, beq_iff_eq.mpr ((ntop_eq_loopback_iff ip).mpr h)⟩
    · exact ⟨_, List.mem_of_getElem? (i := 6) rfl, hlocal6.mpr h⟩
    · exact ⟨_, List.mem_of_getElem? (i := 7) rfl, hunique6.mpr h⟩
    · exact ⟨_, List.mem_of_getElem? (i := 8) rfl, hlink6.mpr h⟩

/-- Nothing in brackets matches: the patterns are anchored, and the names do not end in a bracket. -/
theorem isPrivate_bracketed (ip : Ipv6) :
    isPrivateOrReservedIp (UrlHost.ipv6 ip).hostname = false := by
  have hlocal : ends (litAnyCase ".local") ('[' :: (ip.text ++ [']'])) = false :=
    @ends_concat (litAnyCase ".loca") (fun c => c.toLower == 'l') ('[' :: ip.text) ']' (by decide)
  have hinternal : ends (litAnyCase ".internal") ('[' :: (ip.text ++ [']'])) = false :=
    @ends_concat (litAnyCase ".interna") (fun c => c.toLower == 'l') ('[' :: ip.text) ']' (by decide)
  rw [Bool.eq_false_iff, UrlHost.hostname, Ne, isPrivate_iff]
  rintro ⟨re, hre, hmatch⟩
  simp only [privatePatterns, List.mem_cons, List.not_mem_nil, or_false] at hre
  rcases hre with rfl | rfl | rfl | rfl | rfl | rfl | rfl | rfl | rfl | rfl | rfl | rfl | rfl | rfl |
    rfl
  case inr.inr.inr.inr.inr.inr.inr.inr.inr.inr.inr.inl => cases hlocal.symm.trans hmatch
  case inr.inr.inr.inr.inr.inr.inr.inr.inr.inr.inr.inr.inl => cases hinternal.symm.trans hmatch
  all_goals cases hmatch

end FacilitatorX402.Ssrf
