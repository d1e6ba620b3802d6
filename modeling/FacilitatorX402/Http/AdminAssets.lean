import FacilitatorX402.Http.Routes
import FacilitatorX402.Library.KeyedRows
import FacilitatorX402.Library.Requests

/-!
# The assets of a network

Two routes of the admin API, behind the hook that asks for its key. An asset is stored under the symbol
that it was added with, and looked for under a symbol in upper case. It is never removed: what the second
route takes away is its `active` flag.
-/

namespace FacilitatorX402.Admin

open Requests Service

/-! ### The table -/

structure NetworkAsset where
  id : String
  networkId : String
  symbol : String
  address : Address
  decimals : Nat
  minAmount : String
  maxAmount : String
  active : Bool
  deriving DecidableEq

/-- `@@unique([networkId, symbol])`. -/
def NetworkAsset.symbolKey (asset : NetworkAsset) : String × String := (asset.networkId, asset.symbol)

/-- `@@unique([networkId, address])`. -/
def NetworkAsset.addressKey (asset : NetworkAsset) : String × Address := (asset.networkId, asset.address)

def NetworkAsset.disabled (asset : NetworkAsset) : NetworkAsset := { asset with active := false }

@[simp]
theorem NetworkAsset.id_disabled (asset : NetworkAsset) : asset.disabled.id = asset.id := rfl

@[simp]
theorem NetworkAsset.symbolKey_disabled (asset : NetworkAsset) :
    asset.disabled.symbolKey = asset.symbolKey := rfl

@[simp]
theorem NetworkAsset.addressKey_disabled (asset : NetworkAsset) :
    asset.disabled.addressKey = asset.addressKey := rfl

structure NetworkAssets where
  rows : List NetworkAsset
  ids : KeyedRows.Unique NetworkAsset.id rows
  symbols : KeyedRows.Unique NetworkAsset.symbolKey rows
  addresses : KeyedRows.Unique NetworkAsset.addressKey rows

namespace NetworkAssets

def empty : NetworkAssets := ⟨[], List.nodup_nil, List.nodup_nil, List.nodup_nil⟩

/-- A row that conflicts with another one under any of the three keys is not stored. -/
def create (table : NetworkAssets) (asset : NetworkAsset) : Option NetworkAssets :=
  if hfree : (∀ other ∈ table.rows, other.id ≠ asset.id) ∧
      (∀ other ∈ table.rows, other.symbolKey ≠ asset.symbolKey) ∧
        ∀ other ∈ table.rows, other.addressKey ≠ asset.addressKey then
    some ⟨table.rows ++ [asset], table.ids.append hfree.1, table.symbols.append hfree.2.1,
      table.addresses.append hfree.2.2⟩
  else none

/-- `updateMany` where the network and the symbol are these, with `active: false`. -/
def updateMany (table : NetworkAssets) (networkId symbol : String) : NetworkAssets where
  rows := KeyedRows.update NetworkAsset.symbolKey (networkId, symbol) NetworkAsset.disabled table.rows
  ids := table.ids.update_other NetworkAsset.id_disabled _
  symbols := table.symbols.update NetworkAsset.symbolKey_disabled _
  addresses := table.addresses.update_other NetworkAsset.addressKey_disabled _

end NetworkAssets

/-! ### The body -/

structure AddAssetBody where
  symbol : String
  address : Address
  decimals : Nat
  minAmount : String
  maxAmount : String
  active : Bool

/-- A missing field has its default. -/
def checkDefault {α : Type} (default : α) (check : Option Json → Checked α) : Option Json → Checked α
  | none => .ok default
  | some value => check (some value)

/-- `z.number().int().min(0).max(18)`. The replies name the first issue only. -/
def checkDecimals (path : String) : Option Json → Checked Nat
  | some (.num (.int value)) =>
      if value < 0 then .error [⟨path, "Number must be greater than or equal to 0"⟩]
      else if 18 < value then .error [⟨path, "Number must be less than or equal to 18"⟩]
      else .ok value.toNat
  | some (.num (.nonInteger _)) => .error [⟨path, "Expected integer, received float"⟩]
  | other => .error [invalidType path "number" other]

def checkBoolean (path : String) : Option Json → Checked Bool
  | some (.bool value) => .ok value
  | other => .error [invalidType path "boolean" other]

def parseAddAssetFields (fields : List (String × Json)) : Checked AddAssetBody :=
  let checked :=
    (checkBounded "symbol" 1 20 (fields.lookup "symbol")).both <|
    (checkHex (2 * 20) "address" "Invalid" (fields.lookup "address")).both <|
    (checkDefault 6 (checkDecimals "decimals") (fields.lookup "decimals")).both <|
    (checkDefault "1" (checkString "minAmount") (fields.lookup "minAmount")).both <|
    (checkDefault "1000000000" (checkString "maxAmount") (fields.lookup "maxAmount")).both <|
    checkDefault true (checkBoolean "active") (fields.lookup "active")
  checked.map fun (symbol, address, decimals, minAmount, maxAmount, active) =>
    { symbol := symbol, address := address, decimals := decimals, minAmount := minAmount
      maxAmount := maxAmount, active := active }

def parseAddAssetBody (raw : Json) : Checked AddAssetBody :=
  checkNested "" parseAddAssetFields (some raw)

/-! ### The routes -/

/-- A request that has passed the hook. The server draws an id for the asset to add. -/
inductive AssetRequest where
  | addAsset (chainId : Int) (body : Json) (ulid : String)
  | disableAsset (chainId : Int) (symbol : String)

inductive AssetReply where
  | refused (httpStatus : Nat) (code reason : String) (message : Option String)
  | created (asset : NetworkAsset)
  | noContent
  deriving DecidableEq

/-- `POST /admin/networks/:chainId/assets`. -/
def addAsset (networks : Int → Option String) (table : NetworkAssets) (chainId : Int) (body : Json)
    (ulid : String) : AssetReply × NetworkAssets :=
  match parseAddAssetBody body with
  | .error issues =>
      (.refused 400 "invalid_payload" "Validation failed" (issues.head?.map (·.message)), table)
  | .ok body =>
      match networks chainId with
      | none =>
          (.refused 404 "not_found" "Network not found"
            (some ("chainId " ++ toString chainId ++ " not found")), table)
      | some networkId =>
          let asset : NetworkAsset :=
            { id := ulid, networkId := networkId, symbol := body.symbol, address := body.address
              decimals := body.decimals, minAmount := body.minAmount, maxAmount := body.maxAmount
              active := body.active }
          match table.create asset with
          | none =>
              (.refused 409 "duplicate_asset" "Asset already registered on this network"
                (some (body.symbol ++ " already exists on chainId " ++ toString chainId)), table)
          | some table => (.created asset, table)

/-- `DELETE /admin/networks/:chainId/assets/:symbol`. -/
def disableAsset (host : Host) (networks : Int → Option String) (table : NetworkAssets) (chainId : Int)
    (symbol : String) : AssetReply × NetworkAssets :=
  match networks chainId with
  | none => (.refused 404 "not_found" "Network not found" (some ""), table)
  | some networkId => (.noContent, table.updateMany networkId (host.toUpperCase symbol))

/-- The server, with the ids of its networks. -/
def serveAssets (host : Host) (networks : Int → Option String) :
    Handler NetworkAssets AssetRequest AssetReply := fun table request =>
  match request with
  | .addAsset chainId body ulid => addAsset networks table chainId body ulid
  | .disableAsset chainId symbol => disableAsset host networks table chainId symbol

end FacilitatorX402.Admin
