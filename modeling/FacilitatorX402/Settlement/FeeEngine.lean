import FacilitatorX402.Crypto.SignatureVerifier

/-!
# The fee engine

Fees in basis points, in big-integer arithmetic that truncates.
-/

namespace FacilitatorX402

structure PremiumTier where
  sellerAddress : String
  feeBps : Int
  expiresAt : Option JsDate

structure FeeEngine where
  platformFeeBps : Int
  developerShareBps : Int
  freeTierMonthlyUnits : Int
  premiumTiers : List PremiumTier

structure FeeBreakdown where
  grossAmount : Int
  platformFee : Int
  developerShare : Int
  netToSeller : Int
  effectiveFeeBps : Int
  freeTierApplied : Bool
  referralCode : Option String
  deriving DecidableEq

def bpsDenominator : Int := 10000

/-- A tier without an expiry is always in force; an invalid date is after no instant. -/
def PremiumTier.inForce (tier : PremiumTier) (now : Int) : Bool :=
  match tier.expiresAt with
  | none => true
  | some none => false
  | some (some expiry) => decide (now < expiry)

namespace FeeEngine

def resolveFeeBps (host : Host) (engine : FeeEngine) (now : Int) (sellerAddress : String) : Int :=
  match engine.premiumTiers.find? fun tier =>
      host.toLowerCase tier.sellerAddress == host.toLowerCase sellerAddress
        && tier.inForce now with
  | some tier => tier.feeBps
  | none => engine.platformFeeBps

def compute (host : Host) (engine : FeeEngine) (now : Int) (grossAmount : Int)
    (sellerAddress : String) (referralCode : Option String) (monthlyVolumeToDate : Int) :
    FeeBreakdown :=
  if 0 < engine.freeTierMonthlyUnits ∧ monthlyVolumeToDate < engine.freeTierMonthlyUnits then
    { grossAmount := grossAmount
      platformFee := 0
      developerShare := 0
      netToSeller := grossAmount
      effectiveFeeBps := 0
      freeTierApplied := true
      referralCode := referralCode }
  else
    let effectiveFeeBps := engine.resolveFeeBps host now sellerAddress
    let platformFee := (grossAmount * effectiveFeeBps).tdiv bpsDenominator
    -- an empty referral code is falsy, like a missing one
    let developerShare :=
      if (referralCode.getD "").isEmpty then 0
      else (platformFee * engine.developerShareBps).tdiv bpsDenominator
    { grossAmount := grossAmount
      platformFee := platformFee
      developerShare := developerShare
      netToSeller := grossAmount - platformFee
      effectiveFeeBps := effectiveFeeBps
      freeTierApplied := false
      referralCode := referralCode }

end FeeEngine

def createFeeEngine (platformFeeBps developerShareBps : Int) (freeTierMonthlyUnits : Option Int)
    (premiumTiers : Option (List PremiumTier)) : FeeEngine :=
  { platformFeeBps := platformFeeBps
    developerShareBps := developerShareBps
    freeTierMonthlyUnits := freeTierMonthlyUnits.getD 0
    premiumTiers := premiumTiers.getD [] }

end FacilitatorX402
