import FacilitatorX402.Http.Errors
import FacilitatorX402.Infrastructure.ApiKey
import FacilitatorX402.Library.KeyedRows

/-!
# The table of sellers

Its rows in the order of a scan, with the three unique columns of the schema, and the statements the
services run on it. A statement can fail, or violate a constraint, and then changes nothing.
-/

namespace FacilitatorX402.Sellers

open KeyedRows

inductive DeviceType where
  | server
  | robot
  | iot
  | agent
  deriving DecidableEq

structure Seller where
  id : String
  name : String
  apiKeyHash : String
  walletAddress : String
  referralCode : Option String
  deviceType : DeviceType
  webhookUrl : Option String
  active : Bool
  createdAt : Nat
  deriving DecidableEq

def Seller.withKeyHash (seller : Seller) (apiKeyHash : String) : Seller :=
  { seller with apiKeyHash := apiKeyHash }

theorem withKeyHash_walletAddress (apiKeyHash : String) (seller : Seller) :
    (seller.withKeyHash apiKeyHash).walletAddress = seller.walletAddress := rfl

structure SellerTable where
  rows : List Seller
  idUnique : KeyedRows.Unique Seller.id rows
  apiKeyHashUnique : KeyedRows.Unique Seller.apiKeyHash rows
  walletAddressUnique : KeyedRows.Unique Seller.walletAddress rows

/-- Whether the database carries out the next write, or fails with an error. -/
abbrev Fault := Option Err

def uniqueViolation : Err := .raised "Unique constraint failed"

def recordNotFound : Err := .raised "Record to update not found"

namespace SellerTable

def empty : SellerTable := ⟨[], List.nodup_nil, List.nodup_nil, List.nodup_nil⟩

/-- `findUnique({ where: { apiKeyHash } })`. -/
def findByApiKeyHash (table : SellerTable) (apiKeyHash : String) : Option Seller :=
  table.rows.find? (·.apiKeyHash = apiKeyHash)

/-- `findMany({ where: { active: true } })`. -/
def findActive (table : SellerTable) : List Seller := table.rows.filter (·.active)

/-- `findFirst({ where: { active: true } })`: without an order, the first row the scan meets. -/
def findFirstActive (table : SellerTable) : Option Seller := table.rows.find? (·.active)

/-- No row has a value of the new row in a unique column. -/
def Free (table : SellerTable) (seller : Seller) : Prop :=
  ∀ row ∈ table.rows, row.id ≠ seller.id ∧ row.apiKeyHash ≠ seller.apiKeyHash ∧
    row.walletAddress ≠ seller.walletAddress

instance (table : SellerTable) (seller : Seller) : Decidable (table.Free seller) :=
  inferInstanceAs (Decidable (∀ row ∈ table.rows, _))

def create (table : SellerTable) (seller : Seller) (fault : Fault) :
    Except Err Seller × SellerTable :=
  match fault with
  | some error => (.error error, table)
  | none =>
      if hfree : table.Free seller then
        (.ok seller,
          { rows := table.rows ++ [seller]
            idUnique := table.idUnique.append fun row hrow => (hfree row hrow).1
            apiKeyHashUnique := table.apiKeyHashUnique.append fun row hrow => (hfree row hrow).2.1
            walletAddressUnique :=
              table.walletAddressUnique.append fun row hrow => (hfree row hrow).2.2 })
      else (.error uniqueViolation, table)

/-- The rows once the key hash of one seller is replaced. -/
def rekeyed (table : SellerTable) (id apiKeyHash : String) : List Seller :=
  KeyedRows.update Seller.id id (·.withKeyHash apiKeyHash) table.rows

/-- `update({ where: { id }, data: { apiKeyHash } })`. -/
def updateApiKeyHash (table : SellerTable) (id apiKeyHash : String) (fault : Fault) :
    Except Err Unit × SellerTable :=
  match fault with
  | some error => (.error error, table)
  | none =>
      if id ∉ table.rows.map Seller.id then (.error recordNotFound, table)
      else if hunique : KeyedRows.Unique Seller.apiKeyHash (table.rekeyed id apiKeyHash) then
        (.ok (),
          { rows := table.rekeyed id apiKeyHash
            idUnique := table.idUnique.replace fun _ hrow => hrow
            apiKeyHashUnique := hunique
            walletAddressUnique := by
              rw [KeyedRows.Unique, rekeyed, KeyedRows.map_update (withKeyHash_walletAddress apiKeyHash)]
              exact table.walletAddressUnique })
      else (.error uniqueViolation, table)

end SellerTable

end FacilitatorX402.Sellers
