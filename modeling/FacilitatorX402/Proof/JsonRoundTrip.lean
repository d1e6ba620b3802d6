import FacilitatorX402.Protocol.JsonStringify
import FacilitatorX402.Protocol.JsonText
import Mathlib.Data.List.TakeWhile

/-!
# JSON.parse inverts JSON.stringify

Each part is read back in front of whatever may follow it: a string ends at its quote, a number before a
comma or a closing bracket. How many steps the reader may take is bounded by the length of the text.
-/

namespace FacilitatorX402.JsonText

/-! ### Strings -/

theorem scanString_simpleEscape {x c : Char} (hx : x ≠ 'u') (h : simpleEscape x = some c)
    (text : List Char) : scanString ('\\' :: x :: text) =
      (scanString text).map fun (units, rest) => (c.toNat :: units, rest) := by
  rw [scanString.eq_3 _ _ fun _ _ _ _ _ hu _ => hx hu, h]
  rfl

theorem scanString_hex {n : Nat} (hn : n < 256) (text : List Char) :
    scanString ('\\' :: 'u' :: '0' :: '0' :: HexText.digit (n / 16) :: HexText.digit (n % 16) :: text) =
      (scanString text).map fun (units, rest) => (n :: units, rest) := by
  have hunit : hexUnit '0' '0' (HexText.digit (n / 16)) (HexText.digit (n % 16)) = some n := by
    rw [hexUnit, HexText.value?_digit (n / 16) (by omega), HexText.value?_digit (n % 16) (by omega)]
    change some (((0 * 16 + 0) * 16 + n / 16) * 16 + n % 16) = some n
    congr 1
    omega
  rw [scanString, hunit]
  rfl

theorem scanString_cons {c : Char} (hquote : c ≠ '"') (hescape : c ≠ '\\') (hcontrol : 32 ≤ c.toNat)
    (text : List Char) : scanString (c :: text) =
      (scanString text).map fun (units, rest) => (c.toNat :: units, rest) := by
  rw [scanString.eq_4]
  · rw [if_neg hquote, if_neg (by simp [hescape]; omega)]
  · rintro a b c' d rest heq
    exact fun _ => hescape heq
  · rintro c' rest heq
    exact fun _ => hescape heq

/-- A printed character is read back. -/
theorem scanString_jsonEscape (c : Char) (text : List Char) :
    scanString (jsonEscape c ++ text) =
      (scanString text).map fun (units, rest) => (c.toNat :: units, rest) := by
  have hchar : ∀ n, c.toNat = n → c = Char.ofNat n := fun n h => by rw [← h, Char.ofNat_toNat]
  unfold jsonEscape
  split_ifs with hquote hescape h8 h9 h10 h12 h13 hcontrol
  · exact scanString_simpleEscape (by decide) (by rw [hquote]; rfl) text
  · exact scanString_simpleEscape (by decide) (by rw [hescape]; rfl) text
  · exact scanString_simpleEscape (by decide) (by rw [hchar 8 h8]; rfl) text
  · exact scanString_simpleEscape (by decide) (by rw [hchar 9 h9]; rfl) text
  · exact scanString_simpleEscape (by decide) (by rw [hchar 10 h10]; rfl) text
  · exact scanString_simpleEscape (by decide) (by rw [hchar 12 h12]; rfl) text
  · exact scanString_simpleEscape (by decide) (by rw [hchar 13 h13]; rfl) text
  · have hbyte : (UInt8.ofNat c.toNat).toNat = c.toNat :=
      UInt8.toNat_ofNat_of_lt' (by simp only [UInt8.size]; omega)
    simp only [HexText.toHex_cons, HexText.toHex_nil, hbyte]
    exact scanString_hex (show c.toNat < 256 by omega) text
  · exact scanString_cons hquote hescape (by omega) text

theorem scanString_jsonString (text : List Char) (rest : List Char) :
    scanString (text.flatMap jsonEscape ++ '"' :: rest) = some (text.map Char.toNat, rest) := by
  induction text with
  | nil => simp [scanString]
  | cons c text ih =>
      rw [List.flatMap_cons, List.append_assoc, scanString_jsonEscape, ih]
      rfl

theorem character_toNat (c : Char) : isHigh c.toNat = false ∧ character c.toNat = c := by
  have hvalid : c.toNat < 0xD800 ∨ 0xDFFF < c.toNat ∧ c.toNat < 0x110000 := c.valid
  have hhigh : isHigh c.toNat = false := by
    simp [isHigh]
    omega
  have hlow : isLow c.toNat = false := by
    simp [isLow]
    omega
  refine ⟨hhigh, ?_⟩
  rw [character, hhigh, hlow]
  exact Char.ofNat_toNat c

theorem joinUnits_toNat (text : List Char) : joinUnits (text.map Char.toNat) = text := by
  induction text with
  | nil => rfl
  | cons c text ih =>
      cases text with
      | nil => simp [joinUnits, (character_toNat c).2]
      | cons c' text =>
          simp only [List.map_cons] at ih ⊢
          rw [joinUnits, (character_toNat c).1, Bool.false_and, if_neg Bool.false_ne_true,
            (character_toNat c).2, ih]

theorem parseString_jsonString (text : String) (rest : List Char) :
    parseString (text.toList.flatMap jsonEscape ++ '"' :: rest) = some (text, rest) := by
  rw [parseString, scanString_jsonString]
  simp only [Option.map_some, joinUnits_toNat, String.ofList_toList]

/-! ### Numbers -/

/-- What may follow a value: a comma or a closing bracket. -/
def Stops (rest : List Char) : Prop := ∀ c ∈ rest.head?, c = ',' ∨ c = '}' ∨ c = ']'

theorem Stops.head_ne {rest : List Char} (h : Stops rest) {c : Char}
    (hc : c ≠ ',' ∧ c ≠ '}' ∧ c ≠ ']') : rest.head? ≠ some c := fun hhead => by
  rcases h c hhead with rfl | rfl | rfl
  · exact hc.1 rfl
  · exact hc.2.1 rfl
  · exact hc.2.2 rfl

theorem Stops.dropWhile_append {rest : List Char} (h : Stops rest) (text : List Char) :
    (text ++ rest).dropWhile isDecimal = text.dropWhile isDecimal ++ rest := by
  induction text with
  | nil =>
      cases rest with
      | nil => rfl
      | cons c rest =>
          have hc : isDecimal c = false := by
            rcases h c rfl with rfl | rfl | rfl <;> rfl
          rw [List.nil_append, List.dropWhile_cons, hc]
          rfl
  | cons c text ih =>
      by_cases hc : isDecimal c = true
      · rw [List.cons_append, List.dropWhile_cons_of_pos hc, List.dropWhile_cons_of_pos hc, ih]
      · rw [List.cons_append, List.dropWhile_cons_of_neg hc, List.dropWhile_cons_of_neg hc]
        rfl

theorem skipDigits_eq_some_iff {text after : List Char} : skipDigits text = some after ↔
    ∃ c rest, text = c :: rest ∧ isDecimal c = true ∧ rest.dropWhile isDecimal = after := by
  cases text with
  | nil => simp [skipDigits]
  | cons c rest => by_cases hc : isDecimal c = true <;> simp [skipDigits, hc]

theorem skipDigits_append {text after : List Char} (h : skipDigits text = some after)
    {rest : List Char} (hstops : Stops rest) : skipDigits (text ++ rest) = some (after ++ rest) := by
  obtain ⟨c, text, rfl, hc, rfl⟩ := skipDigits_eq_some_iff.mp h
  exact skipDigits_eq_some_iff.mpr ⟨c, text ++ rest, rfl, hc, hstops.dropWhile_append text⟩

theorem skipInteger_append {text after : List Char} (h : skipInteger text = some after)
    {rest : List Char} (hstops : Stops rest) : skipInteger (text ++ rest) = some (after ++ rest) := by
  have hunsigned : ∀ unsigned : List Char,
      (if unsigned.head? = some '0' then some (unsigned.drop 1) else skipDigits unsigned) = some after →
      (if (unsigned ++ rest).head? = some '0' then some ((unsigned ++ rest).drop 1)
        else skipDigits (unsigned ++ rest)) = some (after ++ rest) := by
    intro unsigned hskip
    cases unsigned with
    | nil => cases hskip
    | cons c unsigned =>
        by_cases hzero : c = '0'
        · subst hzero
          cases hskip
          rfl
        · have hne : (c :: unsigned).head? ≠ some '0' := by simpa using hzero
          rw [if_neg hne] at hskip
          rw [List.cons_append, if_neg (by simpa using hzero), ← List.cons_append,
            skipDigits_append hskip hstops]
  cases text with
  | nil => cases h
  | cons c text =>
      by_cases hsign : c = '-'
      · subst hsign
        exact hunsigned text h
      · have hne : ∀ text' : List Char, (c :: text').head? ≠ some '-' := fun _ => by simpa using hsign
        unfold skipInteger at h ⊢
        rw [if_neg (hne text)] at h
        rw [List.cons_append, if_neg (hne _)]
        exact hunsigned (c :: text) h

theorem skipFraction_append {text after : List Char} (h : skipFraction text = some after)
    {rest : List Char} (hstops : Stops rest) : skipFraction (text ++ rest) = some (after ++ rest) := by
  cases text with
  | nil =>
      cases h
      rw [List.nil_append, skipFraction, if_neg (hstops.head_ne (by decide))]
  | cons c text =>
      by_cases hpoint : c = '.'
      · subst hpoint
        exact @skipDigits_append text _ h _ hstops
      · have hne : ∀ text' : List Char, (c :: text').head? ≠ some '.' := fun _ => by simpa using hpoint
        rw [skipFraction, if_neg (hne text)] at h
        cases h
        rw [List.cons_append, skipFraction, if_neg (hne _)]

theorem skipExponent_append {text after : List Char} (h : skipExponent text = some after)
    {rest : List Char} (hstops : Stops rest) : skipExponent (text ++ rest) = some (after ++ rest) := by
  cases text with
  | nil =>
      cases h
      rw [List.nil_append, skipExponent,
        if_neg (not_or.mpr ⟨hstops.head_ne (by decide), hstops.head_ne (by decide)⟩)]
  | cons c text =>
      by_cases hletter : c = 'e' ∨ c = 'E'
      · have hhead : ∀ text' : List Char,
            (c :: text').head? = some 'e' ∨ (c :: text').head? = some 'E' := fun _ => by
          simpa using hletter
        rw [skipExponent, if_pos (hhead text)] at h
        rw [List.cons_append, skipExponent, if_pos (hhead _)]
        cases text with
        | nil => cases h
        | cons sign text =>
            by_cases hsign : sign = '+' ∨ sign = '-'
            · have hskip : skipDigits text = some after := by simpa [hsign] using h
              simpa [hsign] using skipDigits_append hskip hstops
            · have hskip : skipDigits (sign :: text) = some after := by simpa [hsign] using h
              simpa [hsign] using skipDigits_append hskip hstops
      · have hne : ∀ text' : List Char,
            ¬ ((c :: text').head? = some 'e' ∨ (c :: text').head? = some 'E') := fun _ => by
          simpa using hletter
        rw [skipExponent, if_neg (hne text)] at h
        cases h
        rw [List.cons_append, skipExponent, if_neg (hne _)]

theorem skipNumber_append {text : List Char} (h : skipNumber text = some []) {rest : List Char}
    (hstops : Stops rest) : skipNumber (text ++ rest) = some rest := by
  obtain ⟨afterFraction, hfraction, hexponent⟩ := Option.bind_eq_some_iff.mp h
  obtain ⟨afterInteger, hinteger, hfraction⟩ := Option.bind_eq_some_iff.mp hfraction
  rw [skipNumber, skipInteger_append hinteger hstops, Option.bind_some,
    skipFraction_append hfraction hstops, Option.bind_some, skipExponent_append hexponent hstops]
  rfl

/-- A number begins with a sign or a digit. -/
theorem skipNumber_head {text after : List Char} (h : skipNumber text = some after) :
    ∃ c rest, text = c :: rest ∧ (c = '-' ∨ isDecimal c = true) := by
  cases text with
  | nil => cases h
  | cons c rest =>
      refine ⟨c, rest, rfl, ?_⟩
      by_contra hne
      obtain ⟨hsign, hdecimal⟩ := not_or.mp hne
      have hzero : c ≠ '0' := by
        rintro rfl
        exact hdecimal rfl
      simp [skipNumber, skipInteger, skipDigits, hsign, hzero, hdecimal] at h

/-! ### Values -/

/-- A printed number is a number of the grammar, and is read as what was printed. -/
structure PrintsNumber (number : String → JsNumber) (numberText : JsNumber → String)
    (value : JsNumber) : Prop where
  grammar : skipNumber (numberText value).toList = some []
  readBack : number (numberText value) = value

theorem skipSpace_cons {c : Char} (h : isSpace c = false) (text : List Char) :
    skipSpace (c :: text) = c :: text := by
  rw [skipSpace, List.dropWhile_cons, h]
  rfl

variable {number : String → JsNumber} {numberText : JsNumber → String}

theorem parseValue_number {value : JsNumber} (h : PrintsNumber number numberText value) (fuel : Nat)
    {rest : List Char} (hstops : Stops rest) :
    parseValue number (fuel + 1) ((stringify numberText (.num value)).toList ++ rest) =
      some (.num value, rest) := by
  rw [stringify]
  have hparsed : parseNumber number ((numberText value).toList ++ rest) = some (.num value, rest) := by
    rw [parseNumber, skipNumber_append h.grammar hstops, Option.map_some, List.length_append,
      Nat.add_sub_cancel_right, List.take_left, String.ofList_toList, h.readBack]
  obtain ⟨c, text, htext, hc⟩ := skipNumber_head h.grammar
  rw [htext, List.cons_append] at hparsed ⊢
  have hother : ∀ c', isDecimal c' = false → c' ≠ '-' → c ≠ c' := by
    rintro c' hdecimal hsign rfl
    rcases hc with rfl | hc
    · exact hsign rfl
    · rw [hdecimal] at hc
      cases hc
  have hspace : isSpace c = false := by
    simp [isSpace, hother ' ' rfl (by decide), hother '\t' rfl (by decide),
      hother '\n' rfl (by decide), hother '\r' rfl (by decide)]
  rw [parseValue, skipSpace_cons hspace]
  simp only [hother '"' rfl (by decide), hother '{' rfl (by decide), hother '[' rfl (by decide),
    hother 't' rfl (by decide), hother 'f' rfl (by decide), hother 'n' rfl (by decide), ↓reduceIte,
    hparsed]

theorem parseWord_append (word : String) (value : Json) (rest : List Char) :
    parseWord word value (word.toList ++ rest) = some (value, rest) := by
  simp [parseWord, ← String.length_toList]

theorem parseValue_word {value : Json} (h : value = .null ∨ ∃ b, value = .bool b) (fuel : Nat)
    (rest : List Char) :
    parseValue number (fuel + 1) ((stringify numberText value).toList ++ rest) =
      some (value, rest) := by
  rcases h with rfl | ⟨b, rfl⟩
  · have hword := parseWord_append "null" .null rest
    rw [stringify, parseValue, show "null".toList ++ rest = 'n' :: ("ull".toList ++ rest) from rfl,
      skipSpace_cons rfl]
    simpa using hword
  cases b with
  | false =>
      have hword := parseWord_append "false" (.bool false) rest
      rw [stringify, parseValue]
      rw [if_neg Bool.false_ne_true, show "false".toList ++ rest = 'f' :: ("alse".toList ++ rest) from rfl,
        skipSpace_cons rfl]
      simpa using hword
  | true =>
      have hword := parseWord_append "true" (.bool true) rest
      rw [stringify, parseValue]
      rw [if_pos rfl, show "true".toList ++ rest = 't' :: ("rue".toList ++ rest) from rfl,
        skipSpace_cons rfl]
      simpa using hword

theorem parseValue_string (value : String) (fuel : Nat) (rest : List Char) :
    parseValue number (fuel + 1) ((stringify numberText (.str value)).toList ++ rest) =
      some (.str value, rest) := by
  rw [stringify, toList_jsonString, List.cons_append, List.append_assoc, parseValue, skipSpace_cons rfl]
  simp only [↓reduceIte, List.singleton_append, parseString_jsonString, Option.map_some]

/-- What a printed value begins with. -/
theorem stringify_head (value : Json) (h : ∀ n ∈ numbers value, PrintsNumber number numberText n) :
    ∃ c text, (stringify numberText value).toList = c :: text ∧ isSpace c = false ∧ c ≠ ']' := by
  cases value with
  | null => exact ⟨'n', "ull".toList, by simp [stringify], rfl, by decide⟩
  | bool value =>
      cases value with
      | false => exact ⟨'f', "alse".toList, by simp [stringify], rfl, by decide⟩
      | true => exact ⟨'t', "rue".toList, by simp [stringify], rfl, by decide⟩
  | num value =>
      obtain ⟨c, text, htext, hc⟩ := skipNumber_head (h value (by simp [numbers])).grammar
      refine ⟨c, text, by rw [stringify, htext], ?_⟩
      rcases hc with rfl | hc
      · exact ⟨rfl, by decide⟩
      · constructor
        · cases hspace : isSpace c with
          | false => rfl
          | true =>
              simp only [isSpace, Bool.or_eq_true, decide_eq_true_eq] at hspace
              rcases hspace with ((rfl | rfl) | rfl) | rfl <;> cases hc
        · rintro rfl
          cases hc
  | str value => exact ⟨'"', _, by rw [stringify, toList_jsonString], rfl, by decide⟩
  | arr items => exact ⟨'[', _, by rw [stringify, toList_brackets], rfl, by decide⟩
  | obj fields => exact ⟨'{', _, by rw [stringify, toList_jsonObject], rfl, by decide⟩

theorem parseMembers_member {fuel : Nat} (name : String) {text rest : List Char} {value : Json} {c : Char}
    (hc : isSpace c = false) (hvalue : parseValue number fuel (text ++ c :: rest) = some (value, c :: rest)) :
    parseMembers number (fuel + 1) ((jsonString name).toList ++ ':' :: (text ++ c :: rest)) =
      if c = '}' then some ([(name, value)], rest)
      else if c = ',' then
        (parseMembers number fuel rest).map fun (fields, rest) => ((name, value) :: fields, rest)
      else none := by
  rw [toList_jsonString, List.cons_append, List.append_assoc, parseMembers, skipSpace_cons rfl]
  simp only [ne_eq, not_true_eq_false, ↓reduceIte, List.singleton_append, parseString_jsonString,
    Option.bind_some]
  rw [skipSpace_cons rfl]
  simp only [List.head?_cons, not_true_eq_false, ↓reduceIte, List.drop_succ_cons, List.drop_zero,
    hvalue, Option.bind_some, skipSpace_cons hc, Option.some.injEq]

theorem parseItems_item {fuel : Nat} {text rest : List Char} {value : Json} {c : Char}
    (hc : isSpace c = false) (hvalue : parseValue number fuel (text ++ c :: rest) = some (value, c :: rest)) :
    parseItems number (fuel + 1) (text ++ c :: rest) =
      if c = ']' then some ([value], rest)
      else if c = ',' then
        (parseItems number fuel rest).map fun (items, rest) => (value :: items, rest)
      else none := by
  rw [parseItems, hvalue]
  simp only [Option.bind_some, skipSpace_cons hc, List.head?_cons, Option.some.injEq,
    List.drop_succ_cons, List.drop_zero]

theorem itemsText_cons (value : String) (values : List String) :
    itemsText (value :: values) = value.toList ++ (if values = [] then [']'] else ',' :: itemsText values) := by
  cases values <;> rfl

theorem membersText_cons (name value : String) (fields : List (String × String)) :
    membersText ((name, value) :: fields) = (jsonString name).toList ++ ':' ::
      (value.toList ++ (if fields = [] then ['}'] else ',' :: membersText fields)) := by
  cases fields <;> rfl

theorem stops_cons {c : Char} (hc : c = ',' ∨ c = '}' ∨ c = ']') (rest : List Char) :
    Stops (c :: rest) := fun _ hhead => Option.some.inj hhead ▸ hc

mutual

theorem parseValue_stringify : ∀ value : Json,
    (∀ n ∈ numbers value, PrintsNumber number numberText n) → ∀ {fuel : Nat},
      2 * (stringify numberText value).toList.length ≤ fuel → ∀ {rest : List Char}, Stops rest →
        parseValue number fuel ((stringify numberText value).toList ++ rest) =
          some (kept value, rest) := by
  intro value hnumbers fuel hfuel rest hstops
  obtain ⟨c, text, htext, -⟩ := stringify_head value hnumbers
  obtain ⟨fuel, rfl⟩ : ∃ smaller, fuel = smaller + 1 := by
    rw [htext, List.length_cons] at hfuel
    exact ⟨fuel - 1, by omega⟩
  cases value with
  | null => exact parseValue_word (.inl rfl) fuel rest
  | bool value => exact parseValue_word (.inr ⟨value, rfl⟩) fuel rest
  | num value => exact parseValue_number (hnumbers value (by simp [numbers])) fuel hstops
  | str value => exact parseValue_string value fuel rest
  | arr items =>
      rw [stringify, toList_brackets, List.length_cons] at hfuel
      rw [stringify, toList_brackets, List.cons_append, parseValue, skipSpace_cons rfl]
      by_cases hitems : items = []
      · subst hitems
        rfl
      · have hread := parseItems_stringify items hitems hnumbers (show _ ≤ fuel by omega) rest
        have hopen : (skipSpace (itemsText (stringifyItems numberText items) ++ rest)).head? ≠ some ']' := by
          obtain ⟨item, items, rfl⟩ := List.exists_cons_of_ne_nil hitems
          obtain ⟨c, text, htext, hspace, hne⟩ := stringify_head item fun n hn =>
            hnumbers n (List.mem_append_left _ hn)
          rw [stringifyItems, itemsText_cons, htext, List.cons_append, List.cons_append,
            skipSpace_cons hspace]
          simpa using hne
        simp only [Char.reduceEq, ↓reduceIte, hopen, hread, Option.map_some, kept]
  | obj fields =>
      rw [stringify, toList_jsonObject, List.length_cons] at hfuel
      rw [stringify, toList_jsonObject, List.cons_append, parseValue, skipSpace_cons rfl]
      by_cases hfields : fields = []
      · subst hfields
        rfl
      · have hread := parseMembers_stringify fields hfields hnumbers (show _ ≤ fuel by omega) rest
        have hopen :
            (skipSpace (membersText (stringifyFields numberText fields) ++ rest)).head? ≠ some '}' := by
          obtain ⟨⟨name, value⟩, fields, rfl⟩ := List.exists_cons_of_ne_nil hfields
          rw [stringifyFields, membersText_cons, toList_jsonString, List.cons_append, List.cons_append,
            skipSpace_cons rfl]
          simp
        simp only [Char.reduceEq, ↓reduceIte, hopen, hread, Option.map_some, kept]

theorem parseItems_stringify : ∀ items : List Json, items ≠ [] →
    (∀ n ∈ numbersOfItems items, PrintsNumber number numberText n) → ∀ {fuel : Nat},
      2 * (itemsText (stringifyItems numberText items)).length ≤ fuel → ∀ rest : List Char,
        parseItems number fuel (itemsText (stringifyItems numberText items) ++ rest) =
          some (keptItems items, rest) := by
  intro items hne hnumbers fuel hfuel rest
  cases items with
  | nil => exact absurd rfl hne
  | cons item items =>
      have hitem : ∀ n ∈ numbers item, PrintsNumber number numberText n := fun n hn =>
        hnumbers n (List.mem_append_left _ hn)
      rw [stringifyItems, itemsText_cons] at hfuel ⊢
      obtain ⟨fuel, rfl⟩ : ∃ smaller, fuel = smaller + 1 := by
        obtain ⟨c, text, htext, -⟩ := stringify_head item hitem
        rw [htext, List.cons_append, List.length_cons] at hfuel
        exact ⟨fuel - 1, by omega⟩
      rw [List.length_append] at hfuel
      by_cases hitems : items = []
      · subst hitems
        rw [stringifyItems, if_pos rfl, List.length_singleton] at hfuel
        have hvalue := parseValue_stringify item hitem (show _ ≤ fuel by omega)
          (stops_cons (.inr (.inr rfl)) rest)
        rw [stringifyItems, if_pos rfl, List.append_assoc, List.singleton_append,
          parseItems_item rfl hvalue, if_pos rfl]
        rfl
      · have hprinted : stringifyItems numberText items ≠ [] := by
          obtain ⟨next, items, rfl⟩ := List.exists_cons_of_ne_nil hitems
          exact List.cons_ne_nil _ _
        rw [if_neg hprinted, List.length_cons] at hfuel
        have hvalue := parseValue_stringify item hitem (show _ ≤ fuel by omega)
          (stops_cons (.inl rfl) (itemsText (stringifyItems numberText items) ++ rest))
        have hrest := parseItems_stringify items hitems
          (fun n hn => hnumbers n (List.mem_append_right _ hn)) (show _ ≤ fuel by omega) rest
        rw [if_neg hprinted, List.append_assoc, List.cons_append, parseItems_item rfl hvalue,
          if_neg (by decide), if_pos rfl, hrest]
        rfl

theorem parseMembers_stringify : ∀ fields : List (String × Json), fields ≠ [] →
    (∀ n ∈ numbersOfFields fields, PrintsNumber number numberText n) → ∀ {fuel : Nat},
      2 * (membersText (stringifyFields numberText fields)).length ≤ fuel → ∀ rest : List Char,
        parseMembers number fuel (membersText (stringifyFields numberText fields) ++ rest) =
          some (keptFields fields, rest) := by
  intro fields hne hnumbers fuel hfuel rest
  cases fields with
  | nil => exact absurd rfl hne
  | cons field fields =>
      obtain ⟨name, value⟩ := field
      have hmember : ∀ n ∈ numbers value, PrintsNumber number numberText n := fun n hn =>
        hnumbers n (List.mem_append_left _ hn)
      rw [stringifyFields, membersText_cons, List.length_append, List.length_cons,
        List.length_append] at hfuel
      rw [stringifyFields, membersText_cons]
      obtain ⟨fuel, rfl⟩ : ∃ smaller, fuel = smaller + 1 := ⟨fuel - 1, by omega⟩
      by_cases hfields : fields = []
      · subst hfields
        have hvalue := parseValue_stringify value hmember (show _ ≤ fuel by omega)
          (stops_cons (.inr (.inl rfl)) rest)
        rw [stringifyFields, if_pos rfl, List.append_assoc, List.cons_append, List.append_assoc,
          List.singleton_append, parseMembers_member name rfl hvalue, if_pos rfl]
        rfl
      · have hprinted : stringifyFields numberText fields ≠ [] := by
          obtain ⟨next, fields, rfl⟩ := List.exists_cons_of_ne_nil hfields
          exact List.cons_ne_nil _ _
        rw [if_neg hprinted, List.length_cons] at hfuel
        have hvalue := parseValue_stringify value hmember (show _ ≤ fuel by omega)
          (stops_cons (.inl rfl) (membersText (stringifyFields numberText fields) ++ rest))
        have hrest := parseMembers_stringify fields hfields
          (fun n hn => hnumbers n (List.mem_append_right _ hn)) (show _ ≤ fuel by omega) rest
        rw [if_neg hprinted, List.append_assoc, List.cons_append, List.append_assoc, List.cons_append,
          parseMembers_member name rfl hvalue, if_neg (by decide), if_pos rfl, hrest]
        rfl

end

/-- **JSON.parse reads what JSON.stringify prints**, for every value whose numbers are read as they were. -/
theorem parse_stringify (value : Json) (h : ∀ n ∈ numbers value, PrintsNumber number numberText n) :
    parse number (stringify numberText value) = some (kept value) := by
  have hstops : Stops [] := by simp [Stops]
  have hread := parseValue_stringify value h
    (Nat.le_succ (2 * (stringify numberText value).toList.length)) hstops
  rw [List.append_nil] at hread
  rw [parse, hread]
  rfl

/-! ### Values whose objects have each name once -/

mutual

/-- No object in the value has a name twice. -/
def NamedOnce : Json → Prop
  | .arr items => NamedOnceItems items
  | .obj fields => (fields.map (·.1)).Nodup ∧ NamedOnceFields fields
  | _ => True

def NamedOnceItems : List Json → Prop
  | [] => True
  | item :: items => NamedOnce item ∧ NamedOnceItems items

def NamedOnceFields : List (String × Json) → Prop
  | [] => True
  | (_, value) :: fields => NamedOnce value ∧ NamedOnceFields fields

end

theorem define_of_new {name : String} {fields : List (String × Json)} (hnew : name ∉ fields.map (·.1))
    (value : Json) : define name value fields = fields ++ [(name, value)] := by
  induction fields with
  | nil => rfl
  | cons field fields ih =>
      obtain ⟨other, old⟩ := field
      rw [List.map_cons, List.mem_cons, not_or] at hnew
      rw [define, if_neg (Ne.symm hnew.1), ih hnew.2, List.cons_append]

theorem properties_of_nodup {members : List (String × Json)} (h : (members.map (·.1)).Nodup) :
    properties members = members := by
  -- what is defined so far has none of the names that are left
  suffices hfrom : ∀ members fields : List (String × Json), ((fields ++ members).map (·.1)).Nodup →
      members.foldl (fun fields member => define member.1 member.2 fields) fields = fields ++ members from
    hfrom members [] h
  intro members
  induction members with
  | nil => exact fun fields _ => (List.append_nil fields).symm
  | cons member members ih =>
      obtain ⟨name, value⟩ := member
      intro fields hnodup
      have hnew : name ∉ fields.map (·.1) := by
        intro hmem
        rw [List.map_append, List.nodup_append] at hnodup
        exact hnodup.2.2 name hmem name List.mem_cons_self rfl
      rw [List.foldl_cons, define_of_new hnew, ih _ (by simpa using hnodup), List.append_assoc,
        List.singleton_append]

mutual

theorem kept_of_namedOnce : ∀ value : Json, NamedOnce value → kept value = value
  | .arr items, h => congrArg Json.arr (keptItems_of_namedOnce items h)
  | .obj fields, h => by
      rw [kept, keptFields_of_namedOnce fields h.2, properties_of_nodup h.1]
  | .null, _ => rfl
  | .bool _, _ => rfl
  | .num _, _ => rfl
  | .str _, _ => rfl

theorem keptItems_of_namedOnce : ∀ items : List Json, NamedOnceItems items → keptItems items = items
  | [], _ => rfl
  | item :: items, h => by
      rw [keptItems, kept_of_namedOnce item h.1, keptItems_of_namedOnce items h.2]

theorem keptFields_of_namedOnce : ∀ fields : List (String × Json), NamedOnceFields fields →
    keptFields fields = fields
  | [], _ => rfl
  | (name, value) :: fields, h => by
      rw [keptFields, kept_of_namedOnce value h.1, keptFields_of_namedOnce fields h.2]

end

theorem namedOnceFields_iff {fields : List (String × Json)} :
    NamedOnceFields fields ↔ ∀ field ∈ fields, NamedOnce field.2 := by
  induction fields with
  | nil => simp [NamedOnceFields]
  | cons field fields ih => rw [NamedOnceFields, ih, List.forall_mem_cons]

theorem numbersOfFields_eq_flatMap (fields : List (String × Json)) :
    numbersOfFields fields = fields.flatMap fun field => numbers field.2 := by
  induction fields with
  | nil => rfl
  | cons field fields ih => rw [numbersOfFields, ih, List.flatMap_cons]

theorem mem_define {name : String} {value : Json} {fields : List (String × Json)} {field : String × Json}
    (h : field ∈ define name value fields) : field = (name, value) ∨ field ∈ fields := by
  induction fields with
  | nil => exact .inl (List.mem_singleton.mp h)
  | cons first fields ih =>
      rw [define] at h
      split at h
      · exact (List.mem_cons.mp h).imp_right (List.mem_cons_of_mem _)
      · rcases List.mem_cons.mp h with rfl | h
        · exact .inr List.mem_cons_self
        · exact (ih h).imp_right (List.mem_cons_of_mem _)

theorem names_define_of_mem {name : String} {fields : List (String × Json)}
    (hmem : name ∈ fields.map (·.1)) (value : Json) :
    (define name value fields).map (·.1) = fields.map (·.1) := by
  induction fields with
  | nil => cases hmem
  | cons first fields ih =>
      rw [define]
      split
      · next hsame => rw [List.map_cons, List.map_cons, hsame]
      · next hother =>
          have htail := (List.mem_cons.mp hmem).resolve_left (Ne.symm hother)
          rw [List.map_cons, List.map_cons, ih htail]

theorem nodup_define {name : String} {fields : List (String × Json)} (h : (fields.map (·.1)).Nodup)
    (value : Json) : ((define name value fields).map (·.1)).Nodup := by
  by_cases hmem : name ∈ fields.map (·.1)
  · rwa [names_define_of_mem hmem]
  · rw [define_of_new hmem, List.map_append]
    refine List.nodup_append.mpr ⟨h, List.pairwise_singleton .., fun other hother last hlast heq => ?_⟩
    obtain rfl : last = name := List.mem_singleton.mp hlast
    exact hmem (heq ▸ hother)

/-- An object takes its properties from the members, and has each name once. -/
theorem properties_spec (members : List (String × Json)) :
    ((properties members).map (·.1)).Nodup ∧ properties members ⊆ members := by
  suffices hfrom : ∀ members fields : List (String × Json), (fields.map (·.1)).Nodup →
      ((members.foldl (fun fields member => define member.1 member.2 fields) fields).map (·.1)).Nodup ∧
        members.foldl (fun fields member => define member.1 member.2 fields) fields ⊆ fields ++ members from
    hfrom members [] List.nodup_nil
  intro members
  induction members with
  | nil => exact fun fields h => ⟨h, List.subset_append_left fields []⟩
  | cons member members ih =>
      intro fields h
      obtain ⟨hnodup, hsubset⟩ := ih (define member.1 member.2 fields) (nodup_define h member.2)
      refine ⟨hnodup, fun field hfield => ?_⟩
      rcases List.mem_append.mp (hsubset hfield) with hdefined | hlater
      · rcases mem_define hdefined with rfl | hold
        · exact List.mem_append_right _ List.mem_cons_self
        · exact List.mem_append_left _ hold
      · exact List.mem_append_right _ (List.mem_cons_of_mem _ hlater)

mutual

theorem namedOnce_kept : ∀ value : Json, NamedOnce (kept value)
  | .arr items => namedOnceItems_keptItems items
  | .obj fields =>
      ⟨(properties_spec _).1, namedOnceFields_iff.mpr fun field hfield =>
        namedOnceFields_iff.mp (namedOnceFields_keptFields fields) field ((properties_spec _).2 hfield)⟩
  | .null => trivial
  | .bool _ => trivial
  | .num _ => trivial
  | .str _ => trivial

theorem namedOnceItems_keptItems : ∀ items : List Json, NamedOnceItems (keptItems items)
  | [] => trivial
  | item :: items => ⟨namedOnce_kept item, namedOnceItems_keptItems items⟩

theorem namedOnceFields_keptFields : ∀ fields : List (String × Json), NamedOnceFields (keptFields fields)
  | [] => trivial
  | (_, value) :: fields => ⟨namedOnce_kept value, namedOnceFields_keptFields fields⟩

end

mutual

theorem numbers_kept : ∀ value : Json, numbers (kept value) ⊆ numbers value
  | .arr items => numbersOfItems_keptItems items
  | .obj fields => by
      rw [kept, numbers, numbers, numbersOfFields_eq_flatMap]
      refine List.Subset.trans (fun n hn => ?_) (numbersOfFields_keptFields fields)
      obtain ⟨field, hfield, hn⟩ := List.mem_flatMap.mp hn
      rw [numbersOfFields_eq_flatMap]
      exact List.mem_flatMap.mpr ⟨field, (properties_spec _).2 hfield, hn⟩
  | .null => List.Subset.refl _
  | .bool _ => List.Subset.refl _
  | .num _ => List.Subset.refl _
  | .str _ => List.Subset.refl _

theorem numbersOfItems_keptItems : ∀ items : List Json, numbersOfItems (keptItems items) ⊆ numbersOfItems items
  | [] => List.Subset.refl _
  | item :: items =>
      List.append_subset_of_subset_of_subset
        (List.subset_append_of_subset_left _ (numbers_kept item))
        (List.subset_append_of_subset_right _ (numbersOfItems_keptItems items))

theorem numbersOfFields_keptFields : ∀ fields : List (String × Json),
    numbersOfFields (keptFields fields) ⊆ numbersOfFields fields
  | [] => List.Subset.refl _
  | (_, value) :: fields =>
      List.append_subset_of_subset_of_subset
        (List.subset_append_of_subset_left _ (numbers_kept value))
        (List.subset_append_of_subset_right _ (numbersOfFields_keptFields fields))

end

/-- A value whose objects have each name once is read back as it is. -/
theorem parse_stringify_of_namedOnce {value : Json} (hnamed : NamedOnce value)
    (h : ∀ n ∈ numbers value, PrintsNumber number numberText n) :
    parse number (stringify numberText value) = some value := by
  rw [parse_stringify value h, kept_of_namedOnce value hnamed]

end FacilitatorX402.JsonText
