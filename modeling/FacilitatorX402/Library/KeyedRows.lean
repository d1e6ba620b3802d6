import Mathlib.Data.List.Nodup
import Mathlib.Tactic.Common

/-!
# Rows with a primary key

A table is the list of its rows, in the order of their insertion. A primary key keeps the keys of a
table distinct; an update replaces the row of one key. `Evolves` compares an earlier state of a table
with a later one: no row is ever lost, and each has moved along a given relation.
-/

namespace KeyedRows

variable {α κ : Type}

/-- The key column is a primary key. -/
def Unique (key : α → κ) (rows : List α) : Prop := (rows.map key).Nodup

instance [DecidableEq κ] (key : α → κ) (rows : List α) : Decidable (Unique key rows) :=
  inferInstanceAs (Decidable (rows.map key).Nodup)

/-- Every row is still there, and has moved along `R`. -/
def Evolves (key : α → κ) (R : α → α → Prop) (rows rows' : List α) : Prop :=
  ∀ row ∈ rows, ∃ row' ∈ rows', key row' = key row ∧ R row row'

theorem Unique.eq {key : α → κ} {rows : List α} (h : Unique key rows) {row row' : α}
    (hrow : row ∈ rows) (hrow' : row' ∈ rows) (hkey : key row = key row') : row = row' :=
  List.inj_on_of_nodup_map h hrow hrow' hkey

theorem Unique.append {key : α → κ} {rows : List α} (h : Unique key rows) {row : α}
    (hfresh : ∀ other ∈ rows, key other ≠ key row) : Unique key (rows ++ [row]) := by
  rw [Unique, List.map_append, List.nodup_append]
  refine ⟨h, List.nodup_singleton _, ?_⟩
  rintro _ hold _ hnew rfl
  obtain ⟨other, hother, hkey⟩ := List.mem_map.mp hold
  rw [List.map_singleton, List.mem_singleton] at hnew
  exact hfresh other hother (hkey.trans hnew)

theorem Unique.length_filter_le_one [DecidableEq κ] {key : α → κ} {rows : List α}
    (h : Unique key rows) (k : κ) : (rows.filter (key · = k)).length ≤ 1 := by
  have hcount := List.nodup_iff_count_le_one.mp h k
  rwa [List.count, List.countP_map, List.countP_eq_length_filter] at hcount

theorem Evolves.append {key : α → κ} {R : α → α → Prop} (hrefl : ∀ row, R row row) (rows : List α)
    (row : α) : Evolves key R rows (rows ++ [row]) :=
  fun old hold => ⟨old, List.mem_append_left _ hold, rfl, hrefl old⟩

theorem Evolves.refl {key : α → κ} {R : α → α → Prop} (hrefl : ∀ row, R row row) (rows : List α) :
    Evolves key R rows rows :=
  fun old hold => ⟨old, hold, rfl, hrefl old⟩

theorem Evolves.trans {key : α → κ} {R : α → α → Prop}
    (htrans : ∀ a b c, R a b → R b c → R a c) {rows rows' rows'' : List α}
    (h : Evolves key R rows rows') (h' : Evolves key R rows' rows'') : Evolves key R rows rows'' := by
  intro row hrow
  obtain ⟨row', hrow', hkey', hR'⟩ := h row hrow
  obtain ⟨row'', hrow'', hkey'', hR''⟩ := h' row' hrow'
  exact ⟨row'', hrow'', hkey''.trans hkey', htrans _ _ _ hR' hR''⟩

section Update

variable [DecidableEq κ]

/-- Replace the row of one key. -/
def update (key : α → κ) (k : κ) (f : α → α) (rows : List α) : List α :=
  rows.map fun row => if key row = k then f row else row

theorem mem_update {key : α → κ} {k : κ} {f : α → α} {rows : List α} {row : α} :
    row ∈ update key k f rows ↔
      (row ∈ rows ∧ key row ≠ k) ∨ ∃ old ∈ rows, key old = k ∧ row = f old := by
  rw [update, List.mem_map]
  constructor
  · rintro ⟨old, hold, rfl⟩
    by_cases hkey : key old = k
    · rw [if_pos hkey]
      exact .inr ⟨old, hold, hkey, rfl⟩
    · rw [if_neg hkey]
      exact .inl ⟨hold, hkey⟩
  · rintro (⟨hrow, hkey⟩ | ⟨old, hold, hkey, rfl⟩)
    · exact ⟨row, hrow, if_neg hkey⟩
    · exact ⟨old, hold, if_pos hkey⟩

theorem mem_update_of_ne {key : α → κ} {k : κ} {f : α → α} {rows : List α} {row : α}
    (hrow : row ∈ rows) (hne : key row ≠ k) : row ∈ update key k f rows :=
  mem_update.mpr (.inl ⟨hrow, hne⟩)

theorem mem_update_of_eq {key : α → κ} {k : κ} {f : α → α} {rows : List α} {row : α}
    (hrow : row ∈ rows) (heq : key row = k) : f row ∈ update key k f rows :=
  mem_update.mpr (.inr ⟨row, hrow, heq, rfl⟩)

/-- A column that the update leaves alone stays as it is. -/
theorem map_update {β : Type} {key : α → κ} {column : α → β} {f : α → α}
    (hf : ∀ row, column (f row) = column row) (k : κ) (rows : List α) :
    (update key k f rows).map column = rows.map column := by
  rw [update, List.map_map]
  refine List.map_congr_left fun row _ => ?_
  by_cases hkey : key row = k
  · rw [Function.comp_apply, if_pos hkey, hf]
  · rw [Function.comp_apply, if_neg hkey]

theorem find?_update {key : α → κ} {f : α → α} (hf : ∀ row, key (f row) = key row) (k : κ)
    (rows : List α) :
    (update key k f rows).find? (key · = k) = (rows.find? (key · = k)).map f := by
  induction rows with
  | nil => rfl
  | cons row rows ih =>
      rw [update, List.map_cons, ← update]
      by_cases hkey : key row = k
      · rw [if_pos hkey, List.find?_cons_of_pos (by simpa [hf] using hkey),
          List.find?_cons_of_pos (by simpa using hkey), Option.map_some]
      · rw [if_neg hkey, List.find?_cons_of_neg (by simpa using hkey),
          List.find?_cons_of_neg (by simpa using hkey), ih]

theorem Unique.replace {key : α → κ} {rows : List α} (h : Unique key rows) {k : κ} {f : α → α}
    (hf : ∀ row, key row = k → key (f row) = k) : Unique key (KeyedRows.update key k f rows) := by
  have hmap : (KeyedRows.update key k f rows).map key = rows.map key := by
    rw [KeyedRows.update, List.map_map]
    refine List.map_congr_left fun row _ => ?_
    by_cases hkey : key row = k
    · rw [Function.comp_apply, if_pos hkey, hf row hkey, hkey]
    · rw [Function.comp_apply, if_neg hkey]
  rw [Unique, hmap]
  exact h

/-- Another key stays a key when the update leaves its column alone. -/
theorem Unique.update_other {β : Type} {key : α → κ} {column : α → β} {rows : List α}
    (h : Unique column rows) {f : α → α} (hf : ∀ row, column (f row) = column row) (k : κ) :
    Unique column (update key k f rows) := by
  rw [Unique, map_update hf]
  exact h

theorem Unique.update {key : α → κ} {rows : List α} (h : Unique key rows) {f : α → α}
    (hf : ∀ row, key (f row) = key row) (k : κ) : Unique key (update key k f rows) :=
  h.update_other hf k

/-- An update moves the one row of its key along `R`. -/
theorem Evolves.update {key : α → κ} {R : α → α → Prop} (hrefl : ∀ row, R row row) {f : α → α}
    (hf : ∀ row, key (f row) = key row) {k : κ} {rows : List α}
    (hR : ∀ row ∈ rows, key row = k → R row (f row)) :
    Evolves key R rows (KeyedRows.update key k f rows) := by
  intro row hrow
  by_cases hkey : key row = k
  · exact ⟨f row, mem_update_of_eq hrow hkey, hf row, hR row hrow hkey⟩
  · exact ⟨row, mem_update_of_ne hrow hkey, rfl, hrefl row⟩

end Update

/-! ## Looking rows up -/

section Lookup

variable [DecidableEq κ] {key : α → κ} {rows : List α}

theorem Unique.find?_eq_some_iff (h : Unique key rows) {k : κ} {row : α} :
    rows.find? (key · = k) = some row ↔ row ∈ rows ∧ key row = k := by
  constructor
  · intro hfind
    exact ⟨List.mem_of_find?_eq_some hfind, by simpa using List.find?_some hfind⟩
  · rintro ⟨hrow, hkey⟩
    cases hfind : rows.find? (key · = k) with
    | none => simpa [hkey] using List.find?_eq_none.mp hfind row hrow
    | some other =>
        have hother : key other = k := by simpa using List.find?_some hfind
        rw [h.eq (List.mem_of_find?_eq_some hfind) hrow (hother.trans hkey.symm)]

/-- From which end a table is scanned does not matter for a primary key. -/
theorem Unique.find?_reverse (h : Unique key rows) (k : κ) :
    rows.reverse.find? (key · = k) = rows.find? (key · = k) := by
  have hreverse : Unique key rows.reverse := by
    rw [Unique, List.map_reverse, List.nodup_reverse]
    exact h
  ext row
  rw [hreverse.find?_eq_some_iff, h.find?_eq_some_iff, List.mem_reverse]

/-- A further condition is a condition on the row with the key. -/
theorem Unique.find?_and (h : Unique key rows) (k : κ) (p : α → Bool) :
    rows.find? (fun row => key row = k ∧ p row) = (rows.find? (key · = k)).filter p := by
  ext row
  rw [Option.filter_eq_some_iff, h.find?_eq_some_iff]
  constructor
  · intro hfind
    obtain ⟨hkey, hp⟩ : key row = k ∧ p row := by simpa using List.find?_some hfind
    exact ⟨⟨List.mem_of_find?_eq_some hfind, hkey⟩, hp⟩
  · rintro ⟨⟨hrow, hkey⟩, hp⟩
    cases hfind : rows.find? (fun row => key row = k ∧ p row) with
    | none => simpa [hkey, hp] using List.find?_eq_none.mp hfind row hrow
    | some other =>
        have hother : key other = k ∧ p other := by simpa using List.find?_some hfind
        rw [h.eq (List.mem_of_find?_eq_some hfind) hrow (hother.1.trans hkey.symm)]

end Lookup

end KeyedRows
