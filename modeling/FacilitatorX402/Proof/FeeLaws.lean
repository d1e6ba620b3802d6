import FacilitatorX402.Library.Rounding
import FacilitatorX402.Settlement.FeeEngine

/-!
# What the fee engine charges

The rate of a settlement, and the shares taken at that rate. Within the configured bounds a settlement
pays out exactly what came in, a larger one is never charged less, and payments split into many lose the
platform a unit or two for each cut.

The free tier looks at the volume before a settlement, not at the settlement: the one that crosses the
threshold is free as a whole.
-/

namespace FacilitatorX402

open Rounding

namespace FeeEngine

/-- Every rate the engine can apply is between nothing and everything. -/
structure InRange (engine : FeeEngine) : Prop where
  platform : 0 ≤ engine.platformFeeBps ∧ engine.platformFeeBps ≤ 10000
  developer : 0 ≤ engine.developerShareBps ∧ engine.developerShareBps ≤ 10000
  premium : ∀ tier ∈ engine.premiumTiers, 0 ≤ tier.feeBps ∧ tier.feeBps ≤ 10000

/-- The settlement falls under the free tier. -/
def Free (engine : FeeEngine) (monthlyVolumeToDate : Int) : Prop :=
  0 < engine.freeTierMonthlyUnits ∧ monthlyVolumeToDate < engine.freeTierMonthlyUnits

instance (engine : FeeEngine) (monthlyVolumeToDate : Int) :
    Decidable (engine.Free monthlyVolumeToDate) :=
  inferInstanceAs (Decidable (_ ∧ _))

end FeeEngine

/-- The tier names the seller, up to letter case, and has not expired. -/
def PremiumTier.Applies (tier : PremiumTier) (host : Host) (now : Int) (sellerAddress : String) :
    Prop :=
  host.toLowerCase tier.sellerAddress = host.toLowerCase sellerAddress ∧
    ∀ expiresAt, tier.expiresAt = some expiresAt → ∃ ms, expiresAt = some ms ∧ now < ms

theorem PremiumTier.inForce_iff (tier : PremiumTier) (now : Int) : tier.inForce now = true ↔
    ∀ expiresAt, tier.expiresAt = some expiresAt → ∃ ms, expiresAt = some ms ∧ now < ms := by
  obtain ⟨sellerAddress, feeBps, _ | _ | ms⟩ := tier <;> simp [inForce]

namespace FeeEngine

section Laws

variable {host : Host} {engine : FeeEngine} {now : Int} {sellerAddress : String}
  {monthlyVolumeToDate : Int}

/-- The rate of a settlement: none in the free tier, else that of the first tier that applies, else the
standard one. -/
inductive Rate (host : Host) (engine : FeeEngine) (now : Int) (sellerAddress : String)
    (monthlyVolumeToDate : Int) : Int → Prop
  | free (hfree : engine.Free monthlyVolumeToDate) :
      Rate host engine now sellerAddress monthlyVolumeToDate 0
  | premium {before after : List PremiumTier} {tier : PremiumTier}
      (hcharged : ¬engine.Free monthlyVolumeToDate)
      (htiers : engine.premiumTiers = before ++ tier :: after)
      (happlies : tier.Applies host now sellerAddress)
      (hfirst : ∀ other ∈ before, ¬other.Applies host now sellerAddress) :
      Rate host engine now sellerAddress monthlyVolumeToDate tier.feeBps
  | standard (hcharged : ¬engine.Free monthlyVolumeToDate)
      (hnone : ∀ tier ∈ engine.premiumTiers, ¬tier.Applies host now sellerAddress) :
      Rate host engine now sellerAddress monthlyVolumeToDate engine.platformFeeBps

/-- The share of the fee that is reversed: none without a referral code. -/
def developerRate (engine : FeeEngine) (referralCode : Option String) : Int :=
  if (referralCode.getD "").isEmpty then 0 else engine.developerShareBps

theorem rate_resolveFeeBps (hcharged : ¬engine.Free monthlyVolumeToDate) :
    Rate host engine now sellerAddress monthlyVolumeToDate
      (engine.resolveFeeBps host now sellerAddress) := by
  have happlies : ∀ tier : PremiumTier, (host.toLowerCase tier.sellerAddress ==
      host.toLowerCase sellerAddress && tier.inForce now) = true ↔
        tier.Applies host now sellerAddress := by
    intro tier
    rw [Bool.and_eq_true, beq_iff_eq, tier.inForce_iff, PremiumTier.Applies]
  unfold resolveFeeBps
  split
  · rename_i tier hfind
    obtain ⟨hfound, before, after, htiers, hfirst⟩ := List.find?_eq_some_iff_append.mp hfind
    apply Rate.premium hcharged htiers ((happlies tier).mp hfound)
    intro other hother hother'
    have hmissed := hfirst other hother
    rw [(happlies other).mpr hother'] at hmissed
    cases hmissed
  · rename_i hfind
    apply Rate.standard hcharged
    intro tier htier htier'
    exact List.find?_eq_none.mp hfind tier htier ((happlies tier).mpr htier')

theorem Rate.bounds {rate : Int} (hengine : engine.InRange)
    (h : Rate host engine now sellerAddress monthlyVolumeToDate rate) : 0 ≤ rate ∧ rate ≤ 10000 := by
  cases h with
  | free => decide
  | @premium before after tier hcharged htiers =>
      apply hengine.premium
      rw [htiers]
      exact List.mem_append_right _ List.mem_cons_self
  | standard => exact hengine.platform

theorem developerRate_bounds (hengine : engine.InRange) (referralCode : Option String) :
    0 ≤ engine.developerRate referralCode ∧ engine.developerRate referralCode ≤ 10000 := by
  unfold developerRate
  split
  · decide
  · exact hengine.developer

/-- A settlement is charged its share at its rate, whether or not it is free. -/
theorem compute_shares (host : Host) (engine : FeeEngine) (now grossAmount : Int)
    (sellerAddress : String) (referralCode : Option String) (monthlyVolumeToDate : Int) :
    ∃ rate, Rate host engine now sellerAddress monthlyVolumeToDate rate ∧
      let fees := engine.compute host now grossAmount sellerAddress referralCode monthlyVolumeToDate
      fees.platformFee = share 10000 rate grossAmount ∧
        fees.developerShare = share 10000 (engine.developerRate referralCode) fees.platformFee ∧
        fees.netToSeller = grossAmount - fees.platformFee := by
  by_cases hfree : engine.Free monthlyVolumeToDate
  · refine ⟨0, .free hfree, ?_⟩
    rw [FeeEngine.Free] at hfree
    rw [compute, if_pos hfree]
    simp [share]
  · refine ⟨_, rate_resolveFeeBps hfree, ?_⟩
    rw [FeeEngine.Free] at hfree
    rw [compute, if_neg hfree]
    refine ⟨rfl, ?_, rfl⟩
    rw [developerRate]
    split
    · simp [share]
    · rfl

/-- **Fee conservation.** The fee and the developer share are the rounded-down shares at the rate of the
settlement, each within what it is taken from, and the seller gets the rest. -/
theorem fees_conserved (hengine : engine.InRange) {grossAmount : Int} (hgross : 0 ≤ grossAmount)
    (referralCode : Option String) :
    ∃ rate, Rate host engine now sellerAddress monthlyVolumeToDate rate ∧
      let fees := engine.compute host now grossAmount sellerAddress referralCode monthlyVolumeToDate
      (0 ≤ fees.developerShare ∧ fees.developerShare ≤ fees.platformFee ∧
        fees.platformFee ≤ grossAmount) ∧
      fees.netToSeller + fees.platformFee = grossAmount ∧
      fees.platformFee = grossAmount * rate / 10000 ∧
      ((∃ code, referralCode = some code ∧ code ≠ "") →
        fees.developerShare = fees.platformFee * engine.developerShareBps / 10000) ∧
      ((¬∃ code, referralCode = some code ∧ code ≠ "") → fees.developerShare = 0) := by
  obtain ⟨rate, hrate, hfee, hshare, hnet⟩ := compute_shares host engine now grossAmount
    sellerAddress referralCode monthlyVolumeToDate
  refine ⟨rate, hrate, ?_⟩
  obtain ⟨hlow, hhigh⟩ := hrate.bounds hengine
  obtain ⟨hlow', hhigh'⟩ := developerRate_bounds hengine referralCode
  have hfeeBounds := share_of_le (by decide) hlow hhigh le_rfl hgross
  have hfeeNonneg := share_nonneg (show (0 : Int) < 10000 by decide) hlow hgross
  have hshareBounds := share_of_le (show (0 : Int) < 10000 by decide) hlow' hhigh' le_rfl hfeeNonneg
  have hzero : ∀ rate, share 10000 rate 0 = 0 := fun rate => by simp [share]
  rw [hzero] at hfeeBounds hshareBounds
  have hcode : (referralCode.getD "").isEmpty = true ↔ ¬∃ code, referralCode = some code ∧ code ≠ "" := by
    cases referralCode <;> simp
  dsimp only
  rw [hnet, hshare, hfee]
  refine ⟨⟨hshareBounds.1, by omega, by omega⟩, by omega, share_eq_ediv hlow hgross, ?_, ?_⟩
  · intro hgiven
    rw [share_eq_ediv hlow' hfeeNonneg, developerRate, if_neg fun hempty => hcode.mp hempty hgiven]
  · intro hmissing
    rw [developerRate, if_pos (hcode.mpr hmissing)]
    simp [share]

/-! ### Splitting payments -/

/-- Without a free tier, the rate of a seller at an instant depends on nothing else. -/
theorem exists_rate (hoff : ¬0 < engine.freeTierMonthlyUnits) (hengine : engine.InRange) :
    ∃ rate, (0 ≤ rate ∧ rate ≤ 10000) ∧
      ∀ (grossAmount : Int) (referralCode : Option String) (monthlyVolumeToDate : Int),
        let fees := engine.compute host now grossAmount sellerAddress referralCode monthlyVolumeToDate
        fees.platformFee = share 10000 rate grossAmount ∧
          fees.developerShare
            = (share 10000 (engine.developerRate referralCode) ∘ share 10000 rate) grossAmount ∧
          fees.netToSeller = grossAmount - share 10000 rate grossAmount := by
  have hcharged : ∀ volume, ¬engine.Free volume := fun volume hfree => hoff hfree.1
  have hrate := @rate_resolveFeeBps host engine now sellerAddress 0 (hcharged 0)
  refine ⟨_, hrate.bounds hengine, ?_⟩
  intro grossAmount referralCode volume
  have hfree := hcharged volume
  rw [FeeEngine.Free] at hfree
  rw [compute, if_neg hfree]
  refine ⟨rfl, ?_, rfl⟩
  change _ = share 10000 (engine.developerRate referralCode) _
  rw [developerRate]
  split
  · simp [share]
  · rfl

/-- **What splitting costs.** One seller, one code, one instant, no free tier: a larger amount is worth
more to everyone, and an amount paid in `n` parts yields at most `n - 1` less of the fee and at most
`2 (n - 1)` less of the developer share. -/
theorem fees_of_split (hoff : ¬0 < engine.freeTierMonthlyUnits) (hengine : engine.InRange)
    (referralCode : Option String) :
    let compute := fun (grossAmount monthlyVolumeToDate : Int) =>
      engine.compute host now grossAmount sellerAddress referralCode monthlyVolumeToDate
    (∀ a b volume volume', a ≤ b →
      (compute a volume).platformFee ≤ (compute b volume').platformFee ∧
      (compute a volume).developerShare ≤ (compute b volume').developerShare ∧
      (compute a volume).netToSeller ≤ (compute b volume').netToSeller) ∧
    ∀ (amounts : List Int) (volumeAt : Int → Int) (volume : Int), amounts ≠ [] →
      (∀ amount ∈ amounts, 0 ≤ amount) →
      let fees := amounts.map fun amount => compute amount (volumeAt amount)
      let whole := compute amounts.sum volume
      (((fees.map (·.platformFee)).sum ≤ whole.platformFee ∧
        whole.platformFee ≤ (fees.map (·.platformFee)).sum + (amounts.length - 1)) ∧
      (fees.map (·.developerShare)).sum ≤ whole.developerShare ∧
        whole.developerShare ≤ (fees.map (·.developerShare)).sum + 2 * (amounts.length - 1)) := by
  obtain ⟨rate, ⟨hlow, hhigh⟩, hfees⟩ := @exists_rate host engine now sellerAddress hoff hengine
  obtain ⟨hlow', hhigh'⟩ := developerRate_bounds hengine referralCode
  have hden : (0 : Int) < 10000 := by decide
  have hfee := contraction_share hden hlow hhigh
  have hshare := contraction_share hden hlow' hhigh'
  have hsplits := splits_share hden hlow
  have hsplits' := (splits_share hden hlow').comp hshare hsplits
  refine ⟨fun a b volume volume' hle => ?_, fun amounts volumeAt volume hne hamounts => ?_⟩
  · obtain ⟨hfeeA, hshareA, hnetA⟩ := hfees a referralCode volume
    obtain ⟨hfeeB, hshareB, hnetB⟩ := hfees b referralCode volume'
    rw [hfeeA, hshareA, hnetA, hfeeB, hshareB, hnetB]
    exact ⟨hfee.mono a b hle, (hshare.comp hfee).mono a b hle, hfee.rest_mono hle⟩
  · obtain ⟨hwhole, hwhole', -⟩ := hfees amounts.sum referralCode volume
    have hparts := hsplits.sum hne hamounts
    have hparts' := hsplits'.sum hne hamounts
    have hfeeOf : (fun fees : FeeBreakdown => fees.platformFee) ∘ (fun amount => engine.compute host now
        amount sellerAddress referralCode (volumeAt amount)) = share 10000 rate :=
      funext fun amount => (hfees amount referralCode (volumeAt amount)).1
    have hshareOf : (fun fees : FeeBreakdown => fees.developerShare) ∘ (fun amount => engine.compute host
        now amount sellerAddress referralCode (volumeAt amount))
          = share 10000 (engine.developerRate referralCode) ∘ share 10000 rate :=
      funext fun amount => (hfees amount referralCode (volumeAt amount)).2.1
    dsimp only
    rw [hwhole, hwhole', List.map_map, List.map_map, hfeeOf, hshareOf]
    rw [one_mul] at hparts
    exact ⟨hparts, hparts'⟩

/-! ### The free tier of a month -/

/-- A settlement of the month. -/
structure MonthlySettlement where
  grossAmount : Int
  referralCode : Option String
  settledAt : Int

/-- The volume that settlements add to the month. -/
def volumeOf (settlements : List MonthlySettlement) : Int :=
  (settlements.map (·.grossAmount)).sum

/-- The settlements of a month one after the other, each on the volume of those before it. -/
def computeMonth (host : Host) (engine : FeeEngine) (sellerAddress : String) :
    Int → List MonthlySettlement → List FeeBreakdown
  | _, [] => []
  | monthlyVolumeToDate, settlement :: rest =>
      engine.compute host settlement.settledAt settlement.grossAmount sellerAddress
        settlement.referralCode monthlyVolumeToDate ::
          computeMonth host engine sellerAddress (monthlyVolumeToDate + settlement.grossAmount) rest

/-- What was settled free of charge. -/
def freeVolume (breakdowns : List FeeBreakdown) : Int :=
  ((breakdowns.filter (·.freeTierApplied)).map (·.grossAmount)).sum

/-- No settlement takes the volume from below the threshold to above it. -/
def NeverCrosses (engine : FeeEngine) (settlements : List MonthlySettlement) : Prop :=
  ∀ before settlement after, settlements = before ++ settlement :: after →
    volumeOf before < engine.freeTierMonthlyUnits →
      volumeOf before + settlement.grossAmount ≤ engine.freeTierMonthlyUnits

/-- The same, from some volume on. -/
def NeverCrossesFrom (engine : FeeEngine) : Int → List MonthlySettlement → Prop
  | _, [] => True
  | volume, settlement :: rest =>
      (volume < engine.freeTierMonthlyUnits →
        volume + settlement.grossAmount ≤ engine.freeTierMonthlyUnits) ∧
      NeverCrossesFrom engine (volume + settlement.grossAmount) rest

theorem neverCrossesFrom_iff (volume : Int) (settlements : List MonthlySettlement) :
    engine.NeverCrossesFrom volume settlements ↔
      ∀ before settlement after, settlements = before ++ settlement :: after →
        volume + volumeOf before < engine.freeTierMonthlyUnits →
          volume + volumeOf before + settlement.grossAmount ≤ engine.freeTierMonthlyUnits := by
  induction settlements generalizing volume with
  | nil =>
      refine ⟨fun _ before settlement after heq => ?_, fun _ => trivial⟩
      simp at heq
  | cons head rest ih =>
      rw [NeverCrossesFrom, ih]
      constructor
      · rintro ⟨hhead, hrest⟩ before settlement after heq
        cases before with
        | nil =>
            obtain ⟨rfl, rfl⟩ := List.cons.inj heq
            simpa [volumeOf] using hhead
        | cons first before =>
            obtain ⟨rfl, hlast⟩ := List.cons.inj heq
            have hlater := hrest before settlement after hlast
            simpa [volumeOf, add_assoc] using hlater
      · intro hall
        refine ⟨?_, fun before settlement after heq => ?_⟩
        · simpa [volumeOf] using hall [] head rest rfl
        · have hlater := hall (head :: before) settlement after (by rw [heq, List.cons_append])
          simpa [volumeOf, add_assoc] using hlater

theorem freeVolume_of_le {volume : Int} (hvolume : engine.freeTierMonthlyUnits ≤ volume)
    {settlements : List MonthlySettlement} (hgross : ∀ s ∈ settlements, 0 ≤ s.grossAmount) :
    freeVolume (engine.computeMonth host sellerAddress volume settlements) = 0 := by
  induction settlements generalizing volume with
  | nil => rfl
  | cons settlement rest ih =>
      have hhead := hgross settlement List.mem_cons_self
      have hlater : engine.freeTierMonthlyUnits ≤ volume + settlement.grossAmount := by omega
      have hrest := ih hlater fun s hs => hgross s (List.mem_cons_of_mem _ hs)
      rw [computeMonth, compute, if_neg (by omega)]
      exact hrest

/-- From a volume within the threshold, the free volume fits exactly if nothing crosses. -/
theorem freeVolume_le_iff (hon : 0 < engine.freeTierMonthlyUnits) {volume : Int}
    (hvolume : volume ≤ engine.freeTierMonthlyUnits) {settlements : List MonthlySettlement}
    (hgross : ∀ s ∈ settlements, 0 ≤ s.grossAmount) :
    volume + freeVolume (engine.computeMonth host sellerAddress volume settlements)
        ≤ engine.freeTierMonthlyUnits ↔ engine.NeverCrossesFrom volume settlements := by
  induction settlements generalizing volume with
  | nil => simpa [computeMonth, freeVolume, NeverCrossesFrom] using hvolume
  | cons settlement rest ih =>
      have hhead := hgross settlement List.mem_cons_self
      have hlater : ∀ s ∈ rest, 0 ≤ s.grossAmount := fun s hs => hgross s (List.mem_cons_of_mem _ hs)
      rw [NeverCrossesFrom]
      rcases lt_or_eq_of_le hvolume with hbelow | rfl
      · have hfree : freeVolume (engine.computeMonth host sellerAddress volume (settlement :: rest))
            = settlement.grossAmount + freeVolume (engine.computeMonth host sellerAddress
                (volume + settlement.grossAmount) rest) := by
          rw [computeMonth, compute, if_pos ⟨hon, hbelow⟩]
          rfl
        rw [hfree, ← add_assoc]
        rcases le_or_gt (volume + settlement.grossAmount) engine.freeTierMonthlyUnits with hle | hgt
        · rw [ih hle hlater]
          exact ⟨fun h => ⟨fun _ => hle, h⟩, fun h => h.2⟩
        · -- the settlement that crosses the threshold is free as a whole
          rw [freeVolume_of_le hgt.le hlater]
          exact ⟨fun h => absurd h (by omega), fun h => absurd (h.1 hbelow) (by omega)⟩
      · have hnever : engine.NeverCrossesFrom (engine.freeTierMonthlyUnits + settlement.grossAmount)
            rest := by
          rw [neverCrossesFrom_iff]
          intro before other after heq hlow
          have hsum : 0 ≤ volumeOf before := by
            apply List.sum_nonneg
            intro amount hmem
            obtain ⟨s, hs, rfl⟩ := List.mem_map.mp hmem
            exact hlater s (heq ▸ List.mem_append_left _ hs)
          omega
        rw [freeVolume_of_le le_rfl hgross]
        exact ⟨fun _ => ⟨fun h => absurd h (lt_irrefl _), hnever⟩, fun _ => by omega⟩

/-- **The free budget of a month.** What is settled free of charge fits in the free tier if and only if
no settlement crosses its threshold. -/
theorem free_budget_iff (hon : 0 < engine.freeTierMonthlyUnits) {settlements : List MonthlySettlement}
    (hgross : ∀ s ∈ settlements, 0 ≤ s.grossAmount) :
    freeVolume (engine.computeMonth host sellerAddress 0 settlements) ≤ engine.freeTierMonthlyUnits ↔
      engine.NeverCrosses settlements := by
  have hfrom := @freeVolume_le_iff host engine sellerAddress hon 0 hon.le settlements hgross
  simp only [zero_add, neverCrossesFrom_iff] at hfrom
  exact hfrom

end Laws

/-! ### Samples -/

/-- Text as it is, and no signature recovered. -/
def plainHost : Host where
  sha256 _ := ⟨List.replicate 32 1, rfl⟩
  numberText := toString
  toLowerCase := HexText.lowerCase
  toUpperCase text := text
  recoverTypedDataAddress _ _ _ := .error (.raised "no signature")

def standardEngine : FeeEngine := createFeeEngine 50 2000 none none

theorem standardEngine_inRange : standardEngine.InRange :=
  ⟨by decide, by decide, by simp [standardEngine, createFeeEngine]⟩

theorem fees_conserved_partner :
    let fees := standardEngine.compute plainHost 0 1000001 "0xab" (some "PARTNER") 0
    fees.netToSeller + fees.platformFee = 1000001 := by
  obtain ⟨rate, -, -, hnet, -⟩ := @fees_conserved plainHost standardEngine 0 "0xab" 0
    standardEngine_inRange 1000001 (by decide) (some "PARTNER")
  exact hnet

theorem fees_of_split_halves :
    let share := fun amount =>
      (standardEngine.compute plainHost 0 amount "0xab" (some "PARTNER") 0).developerShare
    share 1999 ≤ share 1000 + share 999 + 2 := by
  have hsplit := (@fees_of_split plainHost standardEngine 0 "0xab" (by decide)
    standardEngine_inRange (some "PARTNER")).2 [1000, 999] (fun _ => 0) 0 (by decide) (by decide)
  simpa using hsplit.2.2

/-- The first 100 units of a month are free. -/
def freeTierEngine : FeeEngine := createFeeEngine 50 2000 (some 100) none

def settlementsOf (amounts : List Int) : List MonthlySettlement :=
  amounts.map fun amount => { grossAmount := amount, referralCode := none, settledAt := 0 }

theorem free_budget_exact : freeTierEngine.NeverCrosses (settlementsOf [60, 40, 500]) :=
  (@free_budget_iff plainHost freeTierEngine "0xab" (by decide) _
    (by simp [settlementsOf])).mp (by decide)

/-- A settlement of any size is free if one unit of the budget is left. -/
theorem free_budget_exceeded : ¬∀ (engine : FeeEngine) (settlements : List MonthlySettlement),
    0 < engine.freeTierMonthlyUnits → (∀ s ∈ settlements, 0 ≤ s.grossAmount) →
    freeVolume (engine.computeMonth plainHost "0xab" 0 settlements) ≤ engine.freeTierMonthlyUnits := by
  intro hclaim
  have hfits := hclaim freeTierEngine (settlementsOf [99, 1000000]) (by decide) (by decide)
  exact absurd hfits (by decide)

end FeeEngine

end FacilitatorX402
