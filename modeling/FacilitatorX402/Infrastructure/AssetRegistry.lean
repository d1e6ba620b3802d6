import FacilitatorX402.Settlement.OnChain

/-!
# Networks and assets of the payment pipeline

The registry the payment pipeline is given, and the configuration it reads. The assets of a network
are a plain object keyed by symbol, so that a lookup also finds what every object inherits.
-/

namespace FacilitatorX402

namespace Payment

structure AssetConfig where
  symbol : String
  contractAddress : String
  decimals : Nat
  eip712Version : String
  deriving DecidableEq

structure NetworkConfig where
  chainId : Int
  name : String
  assets : List (String × AssetConfig)
  deriving DecidableEq

/-- What a lookup in an assets object gives: its fields are undefined for an inherited property. -/
structure FoundAsset where
  contractAddress : Option String
  eip712Version : Option String
  deriving DecidableEq

/-- `getNetwork`. -/
abbrev NetworkRegistry := String → Option NetworkConfig

/-- The properties every object inherits. -/
def inheritedProperties : List String :=
  ["constructor", "__defineGetter__", "__defineSetter__", "hasOwnProperty", "__lookupGetter__",
    "__lookupSetter__", "isPrototypeOf", "propertyIsEnumerable", "toString", "valueOf",
    "__proto__", "toLocaleString"]

/-- `network.assets[symbol]`. -/
def NetworkConfig.asset (network : NetworkConfig) (symbol : String) : Option FoundAsset :=
  match network.assets.lookup symbol with
  | some asset => some ⟨some asset.contractAddress, some asset.eip712Version⟩
  | none => if symbol ∈ inheritedProperties then some ⟨none, none⟩ else none

/-- The environment variables settlement reads. -/
structure FacilitatorConfig where
  rpcUrl : String
  rpcUrlFallback : String
  platformFeeBps : Int
  developerShareBps : Int
  deriving DecidableEq

end Payment

end FacilitatorX402
