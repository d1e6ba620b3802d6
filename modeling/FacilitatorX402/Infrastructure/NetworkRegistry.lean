import FacilitatorX402.Settlement.OnChain

/-!
# The network registry of the services

The networks the services know: a map keyed by chain id, in the order in which the ids were first
set. Only enabled networks are loaded.
-/

namespace FacilitatorX402

namespace Service

structure AssetConfig where
  symbol : String
  address : String
  decimals : Nat
  name : String
  eip712Version : Option String
  deriving DecidableEq

structure NetworkConfig where
  chainId : Int
  name : String
  rpcUrl : String
  fallbackRpcUrl : Option String
  assets : List AssetConfig
  enabled : Bool
  deriving DecidableEq

/-- A network as `GET /supported` shows it. -/
structure SupportedNetwork where
  name : String
  chainId : Int
  assets : List String
  deriving DecidableEq

structure SettlementOptions where
  feeModel : String
  feeBps : Int
  referralCodeSupported : Bool
  deriving DecidableEq

structure SupportedPayload where
  x402Versions : List String
  networks : List SupportedNetwork
  schemes : List String
  extensions : List String
  settlementOptions : SettlementOptions
  deriving DecidableEq

/-- The entries of the map, as `networks.values()` lists them. -/
structure NetworkRegistry where
  networks : List NetworkConfig

namespace NetworkRegistry

/-- `networks.set(net.chainId, net)`: a known id keeps its place. -/
def set (registry : NetworkRegistry) (net : NetworkConfig) : NetworkRegistry :=
  if registry.networks.any (·.chainId = net.chainId) then
    { networks := registry.networks.map fun old => if old.chainId = net.chainId then net else old }
  else { networks := registry.networks ++ [net] }

def load (configs : List NetworkConfig) : NetworkRegistry :=
  configs.foldl (fun registry net => if net.enabled then registry.set net else registry) ⟨[]⟩

/-- Without a list, the default networks are loaded. -/
def reload (defaultNetworks : List NetworkConfig) (configs : Option (List NetworkConfig)) :
    NetworkRegistry := load (configs.getD defaultNetworks)

def getNetwork (registry : NetworkRegistry) (chainId : Int) : Option NetworkConfig :=
  registry.networks.find? (·.chainId = chainId)

def getNetworkByName (registry : NetworkRegistry) (name : String) : Option NetworkConfig :=
  registry.networks.find? (·.name = name)

def getAllNetworks (registry : NetworkRegistry) : List NetworkConfig := registry.networks

/-- The rate is that of the environment, `Number(process.env.PLATFORM_FEE_BPS ?? 50)`. -/
def toSupportedPayload (registry : NetworkRegistry) (platformFeeBps : Int) : SupportedPayload :=
  { x402Versions := ["1"]
    networks := registry.getAllNetworks.map fun network =>
      { name := network.name
        chainId := network.chainId
        assets := network.assets.map (·.symbol) }
    schemes := ["exact"]
    extensions := []
    settlementOptions :=
      { feeModel := "basis_points"
        feeBps := platformFeeBps
        referralCodeSupported := true } }

end NetworkRegistry

/-- `network.assets.find((a) => a.symbol === symbol)`. -/
def NetworkConfig.findAsset (network : NetworkConfig) (symbol : String) : Option AssetConfig :=
  network.assets.find? (·.symbol = symbol)

end Service

end FacilitatorX402
