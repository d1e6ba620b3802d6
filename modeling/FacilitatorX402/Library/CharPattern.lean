import Mathlib.Data.List.Basic
import Mathlib.Tactic.Common

/-!
# Anchored patterns

A pattern is a list of tests, one for each character, anchored at the start of a text. A text that is
cut by separators is matched segment by segment, when no test of a segment accepts a separator.
-/

namespace CharPattern

abbrev Pattern := List (Char → Bool)

/-- The text begins with characters that pass the tests. -/
def begins : Pattern → List Char → Bool
  | [], _ => true
  | _ :: _, [] => false
  | test :: tests, c :: text => test c && begins tests text

/-- The text has as many characters as there are tests, and they pass. -/
def whole : Pattern → List Char → Bool
  | [], [] => true
  | test :: tests, c :: text => test c && whole tests text
  | _, _ => false

/-- These characters. -/
def lit (text : String) : Pattern := text.toList.map fun c c' => c' == c

/-- These characters, of either case. -/
def litAnyCase (text : String) : Pattern := text.toList.map fun c c' => c'.toLower == c

/-- One character out of a range. -/
def range (low high : Char) : Char → Bool := fun c => low ≤ c && c ≤ high

/-- Any hexadecimal digit. -/
def hexAnyCase (c : Char) : Bool := range '0' '9' c || range 'a' 'f' c.toLower

/-- The text ends with characters that pass the tests. -/
def ends (tests : Pattern) (text : List Char) : Bool :=
  whole tests (text.drop (text.length - tests.length))

/-- Up to a separator the segment is matched as a whole. -/
theorem begins_append_cons {tests : Pattern} (rest : Pattern) {sep sep' : Char}
    {segment : List Char} (text : List Char) (htests : ∀ test ∈ tests, test sep' = false)
    (hsegment : sep ∉ segment) :
    begins (tests ++ (fun c => c == sep) :: rest) (segment ++ sep' :: text) =
      (whole tests segment && sep' == sep && begins rest text) := by
  induction tests generalizing segment with
  | nil =>
      cases segment with
      | nil => simp [begins, whole]
      | cons c segment =>
          have hne : c ≠ sep := fun h => hsegment (h ▸ List.mem_cons_self)
          simp [begins, whole, hne]
  | cons test tests ih =>
      cases segment with
      | nil => simp [begins, whole, htests test List.mem_cons_self]
      | cons c segment =>
          have hrest := ih (fun test' hmem => htests test' (List.mem_cons_of_mem _ hmem))
            (fun hmem => hsegment (List.mem_cons_of_mem c hmem))
          simp [begins, whole, hrest, Bool.and_assoc]

theorem begins_of_ne {test : Char → Bool} {tests : Pattern} {c : Char} {text : List Char}
    (h : test c = false) : begins (test :: tests) (c :: text) = false := by
  simp [begins, h]

theorem whole_map_iff {tested : List Char} {text : List Char} :
    whole (tested.map fun c c' => c' == c) text = true ↔ text = tested := by
  induction tested generalizing text with
  | nil => cases text <;> simp [whole]
  | cons c tested ih =>
      cases text with
      | nil => simp [whole]
      | cons c' text => simp [whole, ih]

theorem whole_lit_iff {literal : String} {text : List Char} :
    whole (lit literal) text = true ↔ text = literal.toList := whole_map_iff

theorem mem_litAnyCase {literal : String} {c : Char} (h : c ∈ literal.toList) :
    (fun c' : Char => c'.toLower == c) ∈ litAnyCase literal :=
  List.mem_map.mpr ⟨c, h, rfl⟩

/-- Where a whole text is matched, every test is passed by one of its characters. -/
theorem exists_of_whole {tests : Pattern} {text : List Char} (h : whole tests text = true) :
    ∀ test ∈ tests, ∃ c ∈ text, test c = true := by
  induction tests generalizing text with
  | nil => simp
  | cons test tests ih =>
      cases text with
      | nil => cases h
      | cons c text =>
          obtain ⟨hc, hrest⟩ : test c = true ∧ whole tests text = true := by
            simpa [whole] using h
          intro test' hmem
          rcases List.mem_cons.mp hmem with rfl | hmem
          · exact ⟨c, List.mem_cons_self, hc⟩
          · obtain ⟨c', hc', htest⟩ := ih hrest test' hmem
            exact ⟨c', List.mem_cons_of_mem _ hc', htest⟩

theorem exists_of_ends {tests : Pattern} {text : List Char} (h : ends tests text = true) :
    ∀ test ∈ tests, ∃ c ∈ text, test c = true := by
  intro test hmem
  obtain ⟨c, hc, htest⟩ := exists_of_whole h test hmem
  exact ⟨c, List.mem_of_mem_drop hc, htest⟩

theorem whole_nil_append (text : List Char) (c : Char) : whole [] (text ++ [c]) = false := by
  cases text <;> rfl

theorem whole_append_nil (tests : Pattern) (test : Char → Bool) :
    whole (tests ++ [test]) [] = false := by
  cases tests <;> rfl

/-- The last test looks at the last character. -/
theorem whole_concat (tests : Pattern) (test : Char → Bool) (text : List Char) (c : Char) :
    whole (tests ++ [test]) (text ++ [c]) = (whole tests text && test c) := by
  induction tests generalizing text with
  | nil =>
      cases text with
      | nil => simp [whole]
      | cons c' text => simp [whole, whole_nil_append]
  | cons test' tests ih =>
      cases text with
      | nil => simp [whole, whole_append_nil]
      | cons c' text => simp [whole, ih, Bool.and_assoc]

theorem ends_concat {tests : Pattern} {test : Char → Bool} {text : List Char} {c : Char}
    (h : test c = false) : ends (tests ++ [test]) (text ++ [c]) = false := by
  have hdrop : (text ++ [c]).drop ((text ++ [c]).length - (tests ++ [test]).length) =
      text.drop (text.length - tests.length) ++ [c] := by
    rw [List.length_append, List.length_append, List.length_singleton, List.length_singleton,
      Nat.add_sub_add_right, List.drop_append_of_le_length (Nat.sub_le _ _)]
  rw [ends, hdrop, whole_concat, h, Bool.and_false]

end CharPattern
