import FacilitatorX402.Infrastructure.Receipts
import FacilitatorX402.Settlement.SettlePayment
import Mathlib.Algebra.BigOperators.Group.List.Basic

/-!
# Referral statistics

What partners are paid from: three totals over the confirmed settlements of a referral code. And what a
seller has been paid in a month.
-/

namespace FacilitatorX402

namespace Payment

structure ReferralStats where
  referralCode : String
  totalSettlements : Nat
  totalGrossVolume : Int
  totalPlatformFee : Int
  totalDeveloperShare : Int
  firstUsedAt : Option Nat
  lastUsedAt : Option Nat

namespace Db

/-- The confirmed settlements that carry a code. -/
def referred (db : Db) (referralCode : String) : List PaymentSettlement :=
  db.settlements.filter fun row =>
    row.referralCode = some referralCode ∧ row.settlementStatus = .confirmed

/-- The amount of the request that a settlement joins, or 0. -/
def grossOf (db : Db) (row : PaymentSettlement) : Int :=
  ((db.requests.find? (·.id = row.requestId)).map (·.amount)).getD 0

end Db

/-- The settlements come in the order of their creation, whose times are a column of their own. -/
def getReferralStats (createdAt : PaymentSettlement → Nat) (db : Db) (referralCode : String) :
    ReferralStats :=
  let settlements := (db.referred referralCode).mergeSort fun row other =>
    createdAt row ≤ createdAt other
  { referralCode := referralCode
    totalSettlements := settlements.length
    totalGrossVolume := settlements.foldl (fun acc row => acc + db.grossOf row) 0
    totalPlatformFee := settlements.foldl (fun acc row => acc + row.feeAmount.getD 0) 0
    totalDeveloperShare := settlements.foldl (fun acc row => acc + row.developerShare.getD 0) 0
    firstUsedAt := settlements.head?.map createdAt
    lastUsedAt := settlements.getLast?.map createdAt }

/-! ### Monthly volume -/

/-- When the months begin in the time zone of the process, counted from January of year 0. -/
structure Calendar where
  start : Int → Int
  mono : ∀ month later, month < later → start month < start later

/-- The constructor of a date takes 0 to 99 for years of the twentieth century. -/
def fullYear (year : Int) : Int := if 0 ≤ year ∧ year ≤ 99 then 1900 + year else year

/-- `new Date(year, month, 1)`, with months from 0 on and past December. -/
def Calendar.date (calendar : Calendar) (year month : Int) : Int :=
  calendar.start (12 * fullYear year + month)

/-- `month` counts from 1. -/
def getMonthlyVolumeForSeller (calendar : Calendar) (createdAt : PaymentSettlement → Nat) (db : Db)
    (seller : String) (year month : Int) : Int :=
  let «from» := calendar.date year (month - 1)
  let «to» := calendar.date year month
  let settlements := db.settlements.filter fun row =>
    row.settlementStatus = .confirmed ∧ «from» ≤ createdAt row ∧ createdAt row < «to» ∧
      db.paidBy seller row.requestId
  settlements.foldl (fun acc row => acc + db.grossOf row) 0

end Payment

end FacilitatorX402
