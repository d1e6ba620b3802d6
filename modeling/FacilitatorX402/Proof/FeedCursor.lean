import FacilitatorX402.Http.DashboardFeed
import Mathlib.Data.List.Nodup
import Mathlib.Order.Nat

/-!
# The cursor of the feed

The cursor is an id, and the pages are in the order of creation. What has been written is what the cursor
has passed, for as long as each page is a stretch of ids and each insertion comes after the cursor.
-/

namespace FacilitatorX402

open Requests

namespace DashboardFeed

variable {ι : Type} [LinearOrder ι]

/-- Settlements have ids of their own and come in the order of their times, and a poll finds what the
database has. -/
def Arrives : Admits (DashboardFeed ι) (FeedMove ι) (Option (List (FeedSettlement ι))) :=
  fun _ feed move =>
    match move with
    | .insert settlement => ∀ row ∈ feed.settlements,
        row.id ≠ settlement.id ∧ row.createdAt ≤ settlement.createdAt
    | .poll found => feed.Finds found
    | .pollFails => True

/-- The page is the window of the ids after the cursor up to its last. -/
def PageIsWindow (feed : DashboardFeed ι) (page : List (FeedSettlement ι)) : Prop :=
  ∀ last ∈ page.getLast?, ∀ row ∈ feed.settlements, isAfter feed.lastId row.id = true →
    (row ∈ page ↔ row.id ≤ last.id)

/-- Each insertion comes after the cursor, and each page is a window. -/
def InOrder : Admits (DashboardFeed ι) (FeedMove ι) (Option (List (FeedSettlement ι))) :=
  fun log feed move => Arrives log feed move ∧
    match move with
    | .insert settlement => isAfter feed.lastId settlement.id = true
    | .poll found => feed.PageIsWindow (found.take pageSize)
    | .pollFails => True

instance (feed : DashboardFeed ι) (found : List (FeedSettlement ι)) : Decidable (feed.Finds found) :=
  inferInstanceAs (Decidable (_ ∧ _))

instance (feed : DashboardFeed ι) (page : List (FeedSettlement ι)) :
    Decidable (feed.PageIsWindow page) :=
  inferInstanceAs (Decidable (∀ last ∈ page.getLast?, ∀ row ∈ feed.settlements, _ → (_ ↔ _)))

instance decidableArrives (log : Log (FeedMove ι) (Option (List (FeedSettlement ι))))
    (feed : DashboardFeed ι) : (move : FeedMove ι) → Decidable (Arrives log feed move)
  | .insert settlement => inferInstanceAs (Decidable (∀ row ∈ feed.settlements,
      row.id ≠ settlement.id ∧ row.createdAt ≤ settlement.createdAt))
  | .poll found => inferInstanceAs (Decidable (feed.Finds found))
  | .pollFails => inferInstanceAs (Decidable True)

instance decidableInOrder (log : Log (FeedMove ι) (Option (List (FeedSettlement ι))))
    (feed : DashboardFeed ι) : (move : FeedMove ι) → Decidable (InOrder log feed move)
  | .insert settlement => inferInstanceAs (Decidable (Arrives log feed (.insert settlement) ∧
      isAfter feed.lastId settlement.id = true))
  | .poll found => inferInstanceAs (Decidable (Arrives log feed (.poll found) ∧
      feed.PageIsWindow (found.take pageSize)))
  | .pollFails => inferInstanceAs (Decidable (Arrives log feed .pollFails ∧ True))

/-- What has been written is what the cursor has passed. -/
structure Passed (feed : DashboardFeed ι) : Prop where
  distinct : (feed.settlements.map (·.id)).Nodup
  once : feed.written.Nodup
  passed : ∀ id, id ∈ feed.written ↔
    ∃ row ∈ feed.settlements, row.id = id ∧ isAfter feed.lastId row.id = false

variable {feed : DashboardFeed ι} {page : List (FeedSettlement ι)}

omit [LinearOrder ι] in
theorem foldl_write (feed : DashboardFeed ι) (page : List (FeedSettlement ι)) :
    page.foldl write feed =
      { settlements := feed.settlements
        lastId := (page.getLast?.map (·.id)).or feed.lastId
        written := feed.written ++ page.map (·.id) } := by
  induction page generalizing feed with
  | nil => simp
  | cons row page ih =>
      rw [List.foldl_cons, ih]
      cases page with
      | nil => simp [write]
      | cons next rest =>
          have hlast := List.getLast?_eq_some_getLast (List.cons_ne_nil next rest)
          rw [List.getLast?_cons_cons, hlast]
          simp [write]

theorem isAfter_trans {lastId : Option ι} {id id' : ι} (h : isAfter lastId id = true) (hle : id ≤ id') :
    isAfter lastId id' = true := by
  cases lastId with
  | none => rfl
  | some last => exact decide_eq_true ((of_decide_eq_true h).trans_le hle)

theorem isAfter_some {last id : ι} : isAfter (some last) id = false ↔ id ≤ last := by
  simp [isAfter]

omit [LinearOrder ι] in
theorem nodup_ids_append {settlements : List (FeedSettlement ι)} {settlement : FeedSettlement ι}
    (h : (settlements.map (·.id)).Nodup) (hfresh : ∀ row ∈ settlements, row.id ≠ settlement.id) :
    ((settlements ++ [settlement]).map (·.id)).Nodup := by
  rw [List.map_append, List.map_singleton]
  refine List.nodup_append.mpr ⟨h, List.nodup_singleton _, ?_⟩
  intro id hid id' hid'
  obtain ⟨row, hrow, rfl⟩ := List.mem_map.mp hid
  rw [List.mem_singleton.mp hid']
  exact hfresh row hrow

theorem Passed.insert (h : feed.Passed) {settlement : FeedSettlement ι}
    (hfresh : ∀ row ∈ feed.settlements, row.id ≠ settlement.id)
    (hafter : isAfter feed.lastId settlement.id = true) :
    { feed with settlements := feed.settlements ++ [settlement] }.Passed where
  distinct := nodup_ids_append h.distinct hfresh
  once := h.once
  passed id := by
    rw [h.passed]
    constructor
    · rintro ⟨row, hrow, hid, hpassed⟩
      exact ⟨row, List.mem_append_left _ hrow, hid, hpassed⟩
    · rintro ⟨row, hrow, hid, hpassed⟩
      rcases List.mem_append.mp hrow with hrow | hrow
      · exact ⟨row, hrow, hid, hpassed⟩
      · rw [List.mem_singleton.mp hrow, hafter] at hpassed
        cases hpassed

theorem Passed.poll (h : feed.Passed) {found : List (FeedSettlement ι)} (hfinds : feed.Finds found)
    (hwindow : feed.PageIsWindow (found.take pageSize)) : (feed.poll found).Passed := by
  have hpage : ∀ row ∈ found.take pageSize,
      row ∈ feed.settlements ∧ isAfter feed.lastId row.id = true := by
    intro row hrow
    have hmem := hfinds.1.mem_iff.mp (List.mem_of_mem_take hrow)
    exact List.mem_filter.mp hmem
  have hnodup : ((found.take pageSize).map (·.id)).Nodup := by
    have hfiltered : ((feed.settlements.filter (isAfter feed.lastId ·.id)).map (·.id)).Nodup :=
      h.distinct.sublist (List.filter_sublist.map _)
    have hfound := (hfinds.1.map (·.id)).nodup_iff.mpr hfiltered
    exact hfound.sublist ((List.take_sublist _ _).map _)
  rw [DashboardFeed.poll, foldl_write]
  generalize found.take pageSize = page at hpage hnodup hwindow
  cases hlast : page.getLast? with
  | none =>
      rw [List.getLast?_eq_none_iff] at hlast
      subst hlast
      simpa using h
  | some last =>
      have hmem : last ∈ page := List.mem_of_getLast? hlast
      have hwindow' := hwindow last hlast
      refine ⟨h.distinct, ?_, fun id => ?_⟩
      · -- the ids of the page are after the cursor, so none has been written
        refine List.nodup_append.mpr ⟨h.once, hnodup, ?_⟩
        rintro id hold id' hid' rfl
        obtain ⟨row, hrow, rfl⟩ := List.mem_map.mp hid'
        obtain ⟨row', -, hsame, hpassed⟩ := (h.passed _).mp hold
        rw [hsame, (hpage row hrow).2] at hpassed
        cases hpassed
      · simp only [Option.map_some, Option.some_or, List.mem_append, h.passed, isAfter_some]
        constructor
        · rintro (⟨row, hrow, hid, hpassed⟩ | hid)
          · refine ⟨row, hrow, hid, le_of_not_gt fun hlt => ?_⟩
            rw [isAfter_trans (hpage last hmem).2 hlt.le] at hpassed
            cases hpassed
          · obtain ⟨row, hrow, rfl⟩ := List.mem_map.mp hid
            have hmatch := hpage row hrow
            exact ⟨row, hmatch.1, rfl, (hwindow' row hmatch.1 hmatch.2).mp hrow⟩
        · rintro ⟨row, hrow, rfl, hle⟩
          cases hafter : isAfter feed.lastId row.id with
          | false => exact .inl ⟨row, hrow, rfl, hafter⟩
          | true => exact .inr (List.mem_map_of_mem ((hwindow' row hrow hafter).mpr hle))

theorem Passed.step (h : feed.Passed) {move : FeedMove ι}
    {log : Log (FeedMove ι) (Option (List (FeedSettlement ι)))} (horder : InOrder log feed move) :
    (feed.serve move).2.Passed := by
  cases move with
  | insert settlement => exact h.insert (fun row hrow => (horder.1 row hrow).1) horder.2
  | poll found => exact h.poll horder.1 horder.2
  | pollFails => exact h

theorem Finds.none_after {found : List (FeedSettlement ι)} (h : feed.Finds found)
    (hempty : found.take pageSize = []) {row : FeedSettlement ι} (hrow : row ∈ feed.settlements) :
    isAfter feed.lastId row.id = false := by
  have hnil : found = [] := (List.take_eq_nil_iff.mp hempty).resolve_left (by decide)
  rw [← Bool.not_eq_true]
  intro hafter
  have hmem := h.1.mem_iff.mpr (List.mem_filter.mpr ⟨hrow, hafter⟩)
  rw [hnil] at hmem
  cases hmem

/-- **The feed is exactly once.** In every run whose insertions come after the cursor and whose pages are
windows of ids, a poll that returns no rows finds every settlement written once. -/
theorem feed_exactly_once {log : Log (FeedMove ι) (Option (List (FeedSettlement ι)))}
    (hrun : Run serve InOrder empty log feed) {found : List (FeedSettlement ι)}
    (hempty : log.head? = some ⟨.poll found, some []⟩) :
    ∀ row ∈ feed.settlements, feed.written.count row.id = 1 := by
  have hpassed : feed.Passed ∧ (log.head? = some ⟨.poll found, some []⟩ →
      ∀ row ∈ feed.settlements, isAfter feed.lastId row.id = false) := by
    refine hrun.invariant (I := fun log feed => feed.Passed ∧
      (log.head? = some ⟨.poll found, some []⟩ →
        ∀ row ∈ feed.settlements, isAfter feed.lastId row.id = false)) ⟨?_, by simp⟩ ?_
    · exact ⟨List.nodup_nil, List.nodup_nil, by simp [empty]⟩
    · rintro log feed move ⟨hpassed, -⟩ horder
      refine ⟨hpassed.step horder, fun hhead => ?_⟩
      rw [List.head?_cons, Option.some.injEq, Exchange.mk.injEq] at hhead
      obtain ⟨rfl, hpage⟩ := hhead
      have hpage' : found.take pageSize = [] := Option.some.inj hpage
      intro row hrow
      rw [serve, DashboardFeed.poll, hpage', List.foldl_nil] at hrow ⊢
      exact horder.1.none_after hpage' hrow
  intro row hrow
  have hmem := (hpassed.1.passed row.id).mpr ⟨row, hrow, rfl, hpassed.2 hempty row hrow⟩
  exact List.count_eq_one_of_mem hpassed.1.once hmem

/-- Two settlements in the order of their ids. -/
def orderedMoves : List (FeedMove Nat) :=
  [.poll [], .poll [⟨2, 5⟩], .insert ⟨2, 5⟩, .poll [⟨1, 5⟩], .insert ⟨1, 5⟩]

theorem feed_exactly_once_ordered :
    let feed : DashboardFeed Nat := (served serve empty orderedMoves).2
    ∀ row ∈ feed.settlements, feed.written.count row.id = 1 := by
  have hadmitted : Admitted serve InOrder (empty : DashboardFeed Nat) orderedMoves := by decide
  exact feed_exactly_once (run_served hadmitted) rfl

/-- A later settlement with a smaller id. In one page with the earlier one it is the new cursor, and the
earlier one is written again; after the page it is never found. -/
theorem not_feed_exactly_once :
    let twice : List (FeedMove Nat) :=
      [.poll [], .poll [⟨2, 5⟩], .poll [⟨2, 5⟩, ⟨1, 6⟩], .insert ⟨1, 6⟩, .insert ⟨2, 5⟩]
    let lost : List (FeedMove Nat) := [.poll [], .insert ⟨1, 6⟩, .poll [⟨2, 5⟩], .insert ⟨2, 5⟩]
    Admitted serve Arrives empty twice ∧ (served serve empty twice).2.written.count 2 = 2 ∧
      Admitted serve Arrives empty lost ∧ (served serve empty lost).2.written.count 1 = 0 := by
  decide

/-! ### Ids that ascend -/

/-- Each settlement comes with a later id and a later time than those before it. -/
def Ascends : Admits (DashboardFeed ι) (FeedMove ι) (Option (List (FeedSettlement ι))) :=
  fun _ feed move =>
    match move with
    | .insert settlement => ∀ row ∈ feed.settlements,
        row.id < settlement.id ∧ row.createdAt < settlement.createdAt
    | .poll found => feed.Finds found
    | .pollFails => True

/-- The rows are in one order by their times and by their ids, and the cursor is the id of one. -/
structure Ascending (feed : DashboardFeed ι) : Prop where
  distinct : (feed.settlements.map (·.id)).Nodup
  ordered : ∀ row ∈ feed.settlements, ∀ next ∈ feed.settlements,
    row.createdAt ≤ next.createdAt → row.id ≤ next.id
  cursor : ∀ id ∈ feed.lastId, ∃ row ∈ feed.settlements, row.id = id

theorem Ascending.isAfter_of_lt (h : feed.Ascending) {id : ι}
    (hlt : ∀ row ∈ feed.settlements, row.id < id) : isAfter feed.lastId id = true := by
  cases hcursor : feed.lastId with
  | none => rfl
  | some last =>
      obtain ⟨row, hrow, rfl⟩ := h.cursor last hcursor
      exact decide_eq_true (hlt row hrow)

theorem Ascending.insert (h : feed.Ascending) {settlement : FeedSettlement ι}
    (hlt : ∀ row ∈ feed.settlements, row.id < settlement.id ∧ row.createdAt < settlement.createdAt) :
    { feed with settlements := feed.settlements ++ [settlement] }.Ascending where
  distinct := nodup_ids_append h.distinct fun row hrow => (hlt row hrow).1.ne
  ordered := by
    intro row hrow next hnext hle
    rcases List.mem_append.mp hrow with hrow | hrow <;> rcases List.mem_append.mp hnext with hnext | hnext
    · exact h.ordered row hrow next hnext hle
    · rw [List.mem_singleton.mp hnext]
      exact (hlt row hrow).1.le
    · rw [List.mem_singleton.mp hrow] at hle
      exact absurd (hlt next hnext).2 (not_lt.mpr hle)
    · rw [List.mem_singleton.mp hrow, List.mem_singleton.mp hnext]
  cursor id hid := by
    obtain ⟨row, hrow, hsame⟩ := h.cursor id hid
    exact ⟨row, List.mem_append_left _ hrow, hsame⟩

theorem Ascending.pageIsWindow (h : feed.Ascending) {found : List (FeedSettlement ι)}
    (hfinds : feed.Finds found) : feed.PageIsWindow (found.take pageSize) := by
  intro last hlast row hrow hafter
  have hstored : ∀ {row}, row ∈ found → row ∈ feed.settlements := fun hfound =>
    (List.mem_filter.mp (hfinds.1.mem_iff.mp hfound)).1
  have hordered : found.Pairwise (·.id ≤ ·.id) :=
    hfinds.2.imp_of_mem fun hrow hnext => h.ordered _ (hstored hrow) _ (hstored hnext)
  have hfound : row ∈ found := hfinds.1.mem_iff.mpr (List.mem_filter.mpr ⟨hrow, hafter⟩)
  have hlastPage : last ∈ found.take pageSize := List.mem_of_getLast? hlast
  rw [← List.take_append_drop pageSize found] at hordered hfound
  obtain ⟨hpage, -, hlater⟩ := List.pairwise_append.mp hordered
  constructor
  · intro hmem
    obtain ⟨page, hpage'⟩ := List.getLast?_eq_some_iff.mp hlast
    rw [hpage'] at hpage hmem
    rcases List.mem_append.mp hmem with hmem | hmem
    · exact (List.pairwise_append.mp hpage).2.2 row hmem last (List.mem_singleton_self _)
    · rw [List.mem_singleton.mp hmem]
  · intro hle
    rcases List.mem_append.mp hfound with hmem | hmem
    · exact hmem
    · -- a row behind the page would have the id of the last row of the page
      have hsame : row.id = last.id := le_antisymm hle (hlater last hlastPage row hmem)
      have hrow' := List.inj_on_of_nodup_map h.distinct hrow
        (hstored (List.mem_of_mem_take hlastPage)) hsame
      rwa [hrow']

theorem Ascending.poll (h : feed.Ascending) {found : List (FeedSettlement ι)}
    (hfinds : feed.Finds found) : (feed.poll found).Ascending := by
  rw [DashboardFeed.poll, foldl_write]
  refine ⟨h.distinct, h.ordered, fun id hid => ?_⟩
  rcases Option.or_eq_some_iff.mp hid with hpage | ⟨-, hcursor⟩
  · obtain ⟨last, hlast, rfl⟩ := Option.map_eq_some_iff.mp hpage
    have hmem := List.mem_of_mem_take (List.mem_of_getLast? hlast)
    exact ⟨last, (List.mem_filter.mp (hfinds.1.mem_iff.mp hmem)).1, rfl⟩
  · exact h.cursor id hcursor

/-- Ids that ascend with the times are in order for the feed. -/
theorem run_inOrder {log : Log (FeedMove ι) (Option (List (FeedSettlement ι)))}
    (hrun : Run serve Ascends empty log feed) : Run serve InOrder empty log feed := by
  refine (hrun.invariant (I := fun log feed => feed.Ascending ∧ Run serve InOrder empty log feed)
    ⟨⟨List.nodup_nil, by simp [empty], by simp [empty]⟩, .nil⟩ ?_).2
  rintro log feed move ⟨hascending, hinOrder⟩ hmove
  cases move with
  | insert settlement =>
      have hafter := hascending.isAfter_of_lt fun row hrow => (hmove row hrow).1
      have harrives : Arrives log feed (.insert settlement) := fun row hrow =>
        ⟨(hmove row hrow).1.ne, (hmove row hrow).2.le⟩
      exact ⟨hascending.insert hmove, hinOrder.cons ⟨harrives, hafter⟩⟩
  | poll found =>
      exact ⟨hascending.poll hmove, hinOrder.cons ⟨hmove, hascending.pageIsWindow hmove⟩⟩
  | pollFails => exact ⟨hascending, hinOrder.cons ⟨trivial, trivial⟩⟩

end DashboardFeed

end FacilitatorX402
