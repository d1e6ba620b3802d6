import FacilitatorX402.Library.HexText
import Mathlib.Data.List.TakeWhile

/-!
# IP addresses and how they are written

Dotted decimals, groups of hexadecimal digits with the first longest run of zero groups left out, and
the form of `inet_ntop`, which writes an embedded IPv4 address in decimals.
-/

namespace IpAddress

structure Ipv4 where
  a : UInt8
  b : UInt8
  c : UInt8
  d : UInt8
  deriving DecidableEq

/-- Eight groups of sixteen bits. -/
structure Ipv6 where
  groups : List UInt16
  length_eq : groups.length = 8
  deriving DecidableEq

/-- A byte in decimals, without leading zeros. -/
def decimal (n : Nat) : List Char :=
  if n < 10 then [HexText.digit n]
  else if n < 100 then [HexText.digit (n / 10), HexText.digit (n % 10)]
  else [HexText.digit (n / 100), HexText.digit (n / 10 % 10), HexText.digit (n % 10)]

/-- A group in hexadecimal digits, without leading zeros. -/
def hexGroup (n : Nat) : List Char :=
  if n < 16 then [HexText.digit n]
  else if n < 256 then [HexText.digit (n / 16), HexText.digit (n % 16)]
  else if n < 4096 then
    [HexText.digit (n / 256), HexText.digit (n / 16 % 16), HexText.digit (n % 16)]
  else
    [HexText.digit (n / 4096), HexText.digit (n / 256 % 16), HexText.digit (n / 16 % 16),
      HexText.digit (n % 16)]

def Ipv4.text (ip : Ipv4) : List Char :=
  decimal ip.a.toNat ++ '.' :: (decimal ip.b.toNat ++ '.' :: (decimal ip.c.toNat ++ '.' ::
    decimal ip.d.toNat))

/-- Groups with colons between them. -/
def joinGroups : List UInt16 → List Char
  | [] => []
  | [group] => hexGroup group.toNat
  | group :: groups => hexGroup group.toNat ++ ':' :: joinGroups groups

/-- The number of zero groups at an index. -/
def zerosAt (groups : List UInt16) (i : Nat) : Nat := ((groups.drop i).takeWhile (· = 0)).length

/-- The first longest run of zero groups, by its index, among those from an index on. -/
def bestFrom (groups : List UInt16) : Nat → Nat → Nat
  | 0, best => best
  | left + 1, best =>
      let i := groups.length - (left + 1)
      bestFrom groups left (if zerosAt groups best < zerosAt groups i then i else best)

def bestRun (groups : List UInt16) : Nat := bestFrom groups groups.length 0

/-- A run of one group is not left out. -/
def compress (groups : List UInt16) : List Char :=
  let best := bestRun groups
  let zeros := zerosAt groups best
  if zeros < 2 then joinGroups groups
  else joinGroups (groups.take best) ++ ':' :: ':' :: joinGroups (groups.drop (best + zeros))

/-- The text of an address in a URL, without its brackets. -/
def Ipv6.text (ip : Ipv6) : List Char := compress ip.groups

/-- The IPv4 address in the last two groups. -/
def Ipv6.embedded (ip : Ipv6) : Ipv4 :=
  let high := (ip.groups.getD 6 0).toNat
  let low := (ip.groups.getD 7 0).toNat
  { a := .ofNat (high / 256), b := .ofNat (high % 256)
    c := .ofNat (low / 256), d := .ofNat (low % 256) }

/-- The text that `inet_ntop` writes. -/
def Ipv6.ntop (ip : Ipv6) : List Char :=
  let zeros := zerosAt ip.groups 0
  if bestRun ip.groups = 0 ∧ (zeros = 6 ∨ zeros = 7 ∧ ip.groups.getD 7 0 ≠ 1) then
    ':' :: ':' :: ip.embedded.text
  else if bestRun ip.groups = 0 ∧ zeros = 5 ∧ ip.groups.getD 5 0 = 0xffff then
    ':' :: ':' :: 'f' :: 'f' :: 'f' :: 'f' :: ':' :: ip.embedded.text
  else compress ip.groups

/-- The first group. -/
def Ipv6.first (ip : Ipv6) : Nat := (ip.groups.getD 0 0).toNat

/-- The address is `::ffff:a.b.c.d` for the IPv4 address it embeds. -/
def Ipv6.IsMapped (ip : Ipv6) : Prop := ip.groups.take 6 = [0, 0, 0, 0, 0, 0xffff]

instance (ip : Ipv6) : Decidable ip.IsMapped := inferInstanceAs (Decidable (_ = _))

def Ipv6.loopback : Ipv6 := ⟨[0, 0, 0, 0, 0, 0, 0, 1], rfl⟩

/-! ## What the texts look like -/

/-- A digit of a group or of a byte. -/
def digitChars : List Char := HexText.digits.take 16

theorem digit_mem {n : Nat} (h : n < 16) : HexText.digit n ∈ digitChars := by
  have hall : ∀ n < 16, HexText.digit n ∈ digitChars := by decide
  exact hall n h

theorem mem_decimal {n : Nat} (hn : n < 256) {c : Char} (h : c ∈ decimal n) : c ∈ digitChars := by
  unfold decimal at h
  split_ifs at h
  all_goals
    simp only [List.mem_cons, List.not_mem_nil, or_false] at h
  · exact h ▸ digit_mem (by omega)
  · rcases h with rfl | rfl
    all_goals exact digit_mem (by omega)
  · rcases h with rfl | rfl | rfl
    all_goals exact digit_mem (by omega)

theorem mem_hexGroup {n : Nat} (hn : n < 65536) {c : Char} (h : c ∈ hexGroup n) :
    c ∈ digitChars := by
  unfold hexGroup at h
  split_ifs at h
  all_goals
    simp only [List.mem_cons, List.not_mem_nil, or_false] at h
  · exact h ▸ digit_mem (by omega)
  · rcases h with rfl | rfl
    all_goals exact digit_mem (by omega)
  · rcases h with rfl | rfl | rfl
    all_goals exact digit_mem (by omega)
  · rcases h with rfl | rfl | rfl | rfl
    all_goals exact digit_mem (by omega)

theorem decimal_injective (m n : UInt8) (h : decimal m.toNat = decimal n.toNat) : m = n := by
  have hread : ∀ n < 256, (decimal n).foldl
      (fun value c => 10 * value + (HexText.value? c).getD 0) 0 = n := by
    decide +kernel
  have hvalue := congrArg (List.foldl
    (fun value c => 10 * value + (HexText.value? c).getD 0) 0) h
  rw [hread _ (UInt8.toNat_lt m), hread _ (UInt8.toNat_lt n)] at hvalue
  exact UInt8.toNat_inj.mp hvalue

theorem dot_not_mem_decimal (byte : UInt8) : '.' ∉ decimal byte.toNat := fun h =>
  absurd (mem_decimal (UInt8.toNat_lt byte) h) (by decide)

theorem colon_not_mem_decimal (byte : UInt8) : ':' ∉ decimal byte.toNat := fun h =>
  absurd (mem_decimal (UInt8.toNat_lt byte) h) (by decide)

/-- The first separator tells where a segment ends. -/
theorem segment_inj {sep : Char} {left right : List Char} (hleft : sep ∉ left) (hright : sep ∉ right)
    {text text' : List Char} (h : left ++ sep :: text = right ++ sep :: text') :
    left = right ∧ text = text' := by
  induction left generalizing right with
  | nil =>
      cases right with
      | nil => exact ⟨rfl, (List.cons.inj h).2⟩
      | cons c right => exact absurd ((List.cons.inj h).1 ▸ List.mem_cons_self) hright
  | cons c left ih =>
      cases right with
      | nil => exact absurd ((List.cons.inj h).1 ▸ List.mem_cons_self) hleft
      | cons c' right =>
          obtain ⟨hhead, htail⟩ := List.cons.inj h
          obtain ⟨hrest, htext⟩ := ih (fun hmem => hleft (List.mem_cons_of_mem _ hmem))
            (fun hmem => hright (List.mem_cons_of_mem _ hmem)) htail
          exact ⟨by rw [hhead, hrest], htext⟩

theorem ipv4_text_injective {left right : Ipv4} (h : left.text = right.text) : left = right := by
  obtain ⟨a, b, c, d⟩ := left
  obtain ⟨a', b', c', d'⟩ := right
  simp only [Ipv4.text] at h
  obtain ⟨ha, h⟩ := segment_inj (dot_not_mem_decimal a) (dot_not_mem_decimal a') h
  obtain ⟨hb, h⟩ := segment_inj (dot_not_mem_decimal b) (dot_not_mem_decimal b') h
  obtain ⟨hc, hd⟩ := segment_inj (dot_not_mem_decimal c) (dot_not_mem_decimal c') h
  rw [decimal_injective a a' ha, decimal_injective b b' hb, decimal_injective c c' hc,
    decimal_injective d d' hd]

/-- A digit, a dot or a colon. -/
def addressChars : List Char := '.' :: ':' :: digitChars

theorem mem_ipv4_text {ip : Ipv4} {c : Char} (h : c ∈ ip.text) : c ∈ addressChars := by
  simp only [Ipv4.text, List.mem_append, List.mem_cons] at h
  rcases h with h | rfl | h | rfl | h | rfl | h
  case inr.inl | inr.inr.inr.inl | inr.inr.inr.inr.inr.inl => exact List.mem_cons_self
  all_goals
    exact List.mem_cons_of_mem _ (List.mem_cons_of_mem _ (mem_decimal (UInt8.toNat_lt _) h))

theorem mem_joinGroups {groups : List UInt16} {c : Char} (h : c ∈ joinGroups groups) :
    c ∈ addressChars := by
  have hgroup : ∀ group : UInt16, c ∈ hexGroup group.toNat → c ∈ addressChars := fun group hmem =>
    List.mem_cons_of_mem _ (List.mem_cons_of_mem _ (mem_hexGroup (UInt16.toNat_lt group) hmem))
  induction groups using joinGroups.induct with
  | case1 => cases h
  | case2 group => exact hgroup group h
  | case3 group groups hne ih =>
      rw [joinGroups.eq_3 group groups hne] at h
      rcases List.mem_append.mp h with h | h
      · exact hgroup group h
      · rcases List.mem_cons.mp h with rfl | h
        · exact List.mem_cons_of_mem _ List.mem_cons_self
        · exact ih h

theorem mem_compress {groups : List UInt16} {c : Char} (h : c ∈ compress groups) :
    c ∈ addressChars := by
  have hcolon : ':' ∈ addressChars := by decide
  simp only [compress] at h
  split_ifs at h
  · exact mem_joinGroups h
  · simp only [List.mem_append, List.mem_cons] at h
    rcases h with h | rfl | rfl | h
    · exact mem_joinGroups h
    · exact hcolon
    · exact hcolon
    · exact mem_joinGroups h

theorem mem_ntop {ip : Ipv6} {c : Char} (h : c ∈ ip.ntop) : c ∈ addressChars := by
  have hcolon : ':' ∈ addressChars := by decide
  have hf : 'f' ∈ addressChars := by decide
  simp only [Ipv6.ntop] at h
  split_ifs at h
  · simp only [List.mem_cons] at h
    rcases h with rfl | rfl | h
    · exact hcolon
    · exact hcolon
    · exact mem_ipv4_text h
  · simp only [List.mem_cons] at h
    rcases h with rfl | rfl | rfl | rfl | rfl | rfl | rfl | h
    case inr.inr.inr.inr.inr.inr.inr => exact mem_ipv4_text h
    all_goals first | exact hcolon | exact hf
  · exact mem_compress h

theorem hexGroup_ne_nil (n : Nat) : hexGroup n ≠ [] := by
  unfold hexGroup
  split_ifs
  all_goals simp

/-- A text that begins with a group begins with a digit. -/
theorem exists_hexGroup_eq_cons (group : UInt16) :
    ∃ c segment, c ∈ digitChars ∧ hexGroup group.toNat = c :: segment := by
  obtain ⟨c, segment, heq⟩ := List.exists_cons_of_ne_nil (hexGroup_ne_nil group.toNat)
  exact ⟨c, segment, mem_hexGroup (UInt16.toNat_lt group) (heq ▸ List.mem_cons_self), heq⟩

theorem joinGroups_cons_cons (group next : UInt16) (groups : List UInt16) :
    joinGroups (group :: next :: groups) =
      hexGroup group.toNat ++ ':' :: joinGroups (next :: groups) := rfl

/-- A text in which zero groups are left out begins with two colons, or with its first group. -/
theorem compress_cons (group next : UInt16) (groups : List UInt16) :
    (group = 0 ∧ ∃ rest, compress (group :: next :: groups) = ':' :: ':' :: rest) ∨
      ∃ rest, compress (group :: next :: groups) = hexGroup group.toNat ++ ':' :: rest := by
  simp only [compress]
  split_ifs with hzeros
  · exact .inr ⟨_, joinGroups_cons_cons group next groups⟩
  · cases hbest : bestRun (group :: next :: groups) with
    | zero =>
        left
        rw [hbest] at hzeros
        refine ⟨?_, _, rfl⟩
        by_contra hne
        simp [zerosAt, hne] at hzeros
    | succ best =>
        right
        cases best with
        | zero => exact ⟨_, rfl⟩
        | succ best =>
            rw [List.take_succ_cons, List.take_succ_cons, joinGroups_cons_cons, List.append_assoc]
            exact ⟨_, rfl⟩

theorem Ipv6.groups_eq (ip : Ipv6) :
    ∃ a b c d e f g h, ip.groups = [a, b, c, d, e, f, g, h] := by
  have hcons : ∀ (n : Nat) (groups : List UInt16), groups.length = n + 1 →
      ∃ group rest, groups = group :: rest ∧ rest.length = n := by
    intro n groups hlength
    cases groups with
    | nil => cases hlength
    | cons group rest => exact ⟨group, rest, rfl, Nat.succ.inj hlength⟩
  obtain ⟨a, as, ha, ha'⟩ := hcons 7 _ ip.length_eq
  obtain ⟨b, bs, rfl, hb'⟩ := hcons 6 _ ha'
  obtain ⟨c, cs, rfl, hc'⟩ := hcons 5 _ hb'
  obtain ⟨d, ds, rfl, hd'⟩ := hcons 4 _ hc'
  obtain ⟨e, es, rfl, he'⟩ := hcons 3 _ hd'
  obtain ⟨f, fs, rfl, hf'⟩ := hcons 2 _ he'
  obtain ⟨g, gs, rfl, hg'⟩ := hcons 1 _ hf'
  obtain ⟨h, hs, rfl, hh'⟩ := hcons 0 _ hg'
  rw [List.length_eq_zero_iff.mp hh'] at ha
  exact ⟨a, b, c, d, e, f, g, h, ha⟩

theorem first_of_groups {ip : Ipv6} {group : UInt16} {groups : List UInt16}
    (h : ip.groups = group :: groups) : ip.first = group.toNat := by
  rw [Ipv6.first, h]
  rfl

theorem ntop_cases (ip : Ipv6) :
    (ip.first = 0 ∧ ∃ rest, ip.ntop = ':' :: ':' :: rest) ∨
      ∃ rest, ip.ntop = hexGroup ip.first ++ ':' :: rest := by
  obtain ⟨a, b, c, d, e, f, g, h, hgroups⟩ := ip.groups_eq
  have hfirst := first_of_groups hgroups
  have hzero : 0 < zerosAt ip.groups 0 → ip.first = 0 := by
    intro hpos
    rw [hgroups] at hpos
    by_contra hne
    have ha : a ≠ 0 := fun ha => hne (by rw [hfirst, ha]; rfl)
    simp [zerosAt, ha] at hpos
  simp only [Ipv6.ntop]
  split_ifs with hcompat hmapped
  · exact .inl ⟨hzero (by omega), _, rfl⟩
  · exact .inl ⟨hzero (by omega), _, rfl⟩
  · rw [hgroups, hfirst]
    rcases compress_cons a b [c, d, e, f, g, h] with ⟨ha, hrest⟩ | hrest
    · exact .inl ⟨by rw [ha]; rfl, hrest⟩
    · exact .inr hrest

theorem hexGroup_eq_one {group : UInt16} (h : hexGroup group.toNat = ['1']) : group = 1 := by
  have hdigit : ∀ n < 16, HexText.digit n = '1' → n = 1 := by decide
  unfold hexGroup at h
  split_ifs at h with hsmall
  · have hone := hdigit _ hsmall (by simpa using h)
    exact UInt16.toNat_inj.mp hone
  all_goals simp at h

theorem joinGroups_eq_one {groups : List UInt16} (h : joinGroups groups = ['1']) :
    groups = [1] := by
  cases groups with
  | nil => cases h
  | cons group groups =>
      cases groups with
      | nil => rw [hexGroup_eq_one h]
      | cons next groups =>
          rw [joinGroups_cons_cons] at h
          have hmem : ':' ∈ (['1'] : List Char) := by
            rw [← h]
            simp
          exact absurd hmem (by decide)

theorem ntop_eq_loopback_iff (ip : Ipv6) : ip.ntop = [':', ':', '1'] ↔ ip = Ipv6.loopback := by
  constructor
  · intro h
    have hdot : ∀ rest : List Char, '.' ∈ rest → ':' :: ':' :: rest ≠ [':', ':', '1'] := by
      rintro rest hmem heq
      obtain rfl : rest = ['1'] := by simpa using heq
      exact absurd hmem (by decide)
    have htext : '.' ∈ ip.embedded.text := by simp [Ipv4.text]
    have hcolon := List.forall_iff_forall_mem.mp (show digitChars.Forall (· ≠ ':') by decide)
    simp only [Ipv6.ntop] at h
    split_ifs at h
    · exact absurd h (hdot _ htext)
    · exact absurd h (hdot _ (by simp [htext]))
    · simp only [compress] at h
      obtain ⟨a, b, c, d, e, f, g, h', hgroups⟩ := ip.groups_eq
      obtain ⟨first, segment, hmem, hfirst⟩ := exists_hexGroup_eq_cons a
      split_ifs at h with hzeros
      · rw [hgroups, joinGroups_cons_cons, hfirst, List.cons_append] at h
        exact absurd (List.cons.inj h).1 (hcolon first hmem)
      · cases hbest : bestRun ip.groups with
        | zero =>
            rw [hbest] at h
            have hrest : joinGroups (ip.groups.drop (zerosAt ip.groups 0)) = ['1'] := by
              simpa [joinGroups] using h
            have hdrop := joinGroups_eq_one hrest
            have hall : ∀ group ∈ ip.groups.take (zerosAt ip.groups 0), group = 0 := by
              intro group hgroup
              have htake : ip.groups.take (zerosAt ip.groups 0) = ip.groups.takeWhile (· = 0) := by
                have hprefix := List.takeWhile_prefix (p := fun group : UInt16 => decide (group = 0))
                  (l := ip.groups)
                exact (List.prefix_iff_eq_take.mp hprefix).symm
              rw [htake] at hgroup
              simpa using List.mem_takeWhile_imp hgroup
            have hsplit := List.take_append_drop (zerosAt ip.groups 0) ip.groups
            have hlength : (ip.groups.take (zerosAt ip.groups 0)).length = 7 := by
              have htotal := congrArg List.length hsplit
              rw [List.length_append, hdrop, ip.length_eq] at htotal
              simpa using htotal
            have hzeros' := List.eq_replicate_iff.mpr ⟨hlength, hall⟩
            obtain ⟨groups, hlen⟩ := ip
            simp only [hzeros', hdrop] at hsplit
            simp only [Ipv6.loopback, Ipv6.mk.injEq]
            exact hsplit.symm
        | succ best =>
            rw [hbest, hgroups, List.take_succ_cons] at h
            cases hrest : [b, c, d, e, f, g, h'].take best with
            | nil =>
                rw [hrest, joinGroups, hfirst, List.cons_append] at h
                exact absurd (List.cons.inj h).1 (hcolon first hmem)
            | cons next groups =>
                rw [hrest, joinGroups_cons_cons, hfirst, List.cons_append, List.cons_append] at h
                exact absurd (List.cons.inj h).1 (hcolon first hmem)
  · rintro rfl
    decide

end IpAddress
