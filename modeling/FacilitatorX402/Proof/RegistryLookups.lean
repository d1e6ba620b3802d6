import FacilitatorX402.Application.RunSettle
import FacilitatorX402.Library.KeyedRows
import FacilitatorX402.Proof.PaymentRules

/-!
# Lookups in the registry

The registry advertises the symbols as they are configured. A verification finds a network by its name
and looks the capitalised symbol up; a settlement finds the network by its chain id, which always gives
the same one, and looks the symbol up as the client sent it.
-/

namespace FacilitatorX402

open Interact KeyedRows

namespace Service

/-! ### The map of networks -/

namespace NetworkRegistry

theorem set_eq (registry : NetworkRegistry) (net : NetworkConfig) :
    (registry.set net).networks =
      if registry.networks.any (·.chainId = net.chainId) then
        update (·.chainId) net.chainId (fun _ => net) registry.networks
      else registry.networks ++ [net] := by
  unfold set
  split <;> rfl

theorem unique_set {registry : NetworkRegistry} (h : Unique (·.chainId) registry.networks)
    (net : NetworkConfig) : Unique (·.chainId) (registry.set net).networks := by
  rw [set_eq]
  split
  · exact h.replace fun _ _ => rfl
  · rename_i hnone
    apply h.append
    intro other hother heq
    exact hnone (List.any_eq_true.mpr ⟨other, hother, decide_eq_true heq⟩)

theorem unique_load (configs : List NetworkConfig) : Unique (·.chainId) (load configs).networks := by
  have hfold : ∀ registry : NetworkRegistry, Unique (·.chainId) registry.networks →
      Unique (·.chainId) (configs.foldl (fun registry net =>
        if net.enabled then registry.set net else registry) registry).networks := by
    induction configs with
    | nil => exact fun registry h => h
    | cons net configs ih =>
        intro registry h
        rw [List.foldl_cons]
        apply ih
        by_cases henabled : net.enabled = true
        · rw [if_pos henabled]
          exact unique_set h net
        · rw [if_neg henabled]
          exact h
  exact hfold ⟨[]⟩ List.nodup_nil

/-- The chain id of a loaded network leads back to it. -/
theorem getNetwork_load {configs : List NetworkConfig} {network : NetworkConfig}
    (hmem : network ∈ (load configs).networks) :
    (load configs).getNetwork network.chainId = some network := by
  have hsome : ((load configs).getNetwork network.chainId).isSome = true :=
    List.find?_isSome.mpr ⟨network, hmem, decide_eq_true rfl⟩
  obtain ⟨found, hfound⟩ := Option.isSome_iff_exists.mp hsome
  have hid : decide (found.chainId = network.chainId) = true := by
    rw [getNetwork] at hfound
    simpa using List.find?_some hfound
  rw [hfound, (unique_load configs).eq (List.mem_of_find?_eq_some hfound) hmem (of_decide_eq_true hid)]

theorem mem_of_getNetworkByName {registry : NetworkRegistry} {name : String} {network : NetworkConfig}
    (h : registry.getNetworkByName name = some network) : network ∈ registry.networks :=
  List.mem_of_find?_eq_some h

end NetworkRegistry

/-! ### The two lookups -/

section Lookups

variable {imports : Imports} {body : VerifyRequest} {network : NetworkConfig} {asset : AssetConfig}

/-- The lookup of `runVerify`. -/
structure VerifyFinds (imports : Imports) (name symbol : String) (network : NetworkConfig)
    (asset : AssetConfig) : Prop where
  supported : imports.networkRegistry.getNetworkByName name = some network
  listed : network.findAsset (imports.host.toUpperCase symbol) = some asset

/-- The lookup of `runSettle`. -/
structure SettleFinds (imports : Imports) (chainId : Int) (symbol : String) (network : NetworkConfig)
    (asset : AssetConfig) : Prop where
  supported : imports.networkRegistry.getNetwork chainId = some network
  listed : network.findAsset symbol = some asset

/-- A payload that passes the lookup goes on to the checks. -/
theorem VerifyFinds.verifyParsed (h : VerifyFinds imports body.network body.asset network asset)
    (requestId : String) :
    verifyParsed imports body requestId = verifyChecked imports network asset body requestId := by
  rw [Service.verifyParsed, h.supported]
  dsimp only
  rw [h.listed]

/-- Any other payload is rejected for its network or its asset. -/
theorem verifyParsed_of_not_finds
    (h : ¬∃ network asset, VerifyFinds imports body.network body.asset network asset)
    (requestId : String) : ∃ code message, (code = "unsupported_network" ∨ code = "unsupported_asset") ∧
      verifyParsed imports body requestId = reject requestId code message 402 := by
  unfold verifyParsed
  split
  · exact ⟨_, _, .inl rfl, rfl⟩
  · rename_i network hnetwork
    split
    · exact ⟨_, _, .inr rfl, rfl⟩
    · rename_i asset hasset
      exact absurd ⟨network, asset, hnetwork, hasset⟩ h

/-- A settlement whose lookup succeeds submits to the asset it has found. -/
theorem SettleFinds.settleBody {opts : SettleOpts} {verification : PaymentVerification}
    {paymentRequest : PaymentRequest} {networkRecord : Network} (settlementId : String)
    (h : SettleFinds imports networkRecord.chainId paymentRequest.asset network asset) :
    settleBody imports opts verification paymentRequest networkRecord settlementId = (do
      let value ← Program.ofExcept (grossAmount paymentRequest.amount)
      let recipient ← payee paymentRequest
      let args ← Program.ofExcept
        (submitArgs paymentRequest verification network asset value recipient)
      let onChainResult ← submit args
      settleSubmitted imports opts paymentRequest network value settlementId onChainResult) := by
  have hfound : (do
      let network ← imports.networkRegistry.getNetwork networkRecord.chainId
      let asset ← network.findAsset paymentRequest.asset
      return (network, asset) : Option (NetworkConfig × AssetConfig)) = some (network, asset) := by
    rw [h.supported, Option.bind_eq_bind, Option.bind_some, h.listed]
    rfl
  simp only [Service.settleBody, hfound]

/-- One whose lookup fails submits nothing. -/
theorem settleBody_of_not_finds {opts : SettleOpts} {verification : PaymentVerification}
    {paymentRequest : PaymentRequest} {networkRecord : Network} (settlementId : String)
    (h : ¬∃ network asset,
      SettleFinds imports networkRecord.chainId paymentRequest.asset network asset) :
    settleBody imports opts verification paymentRequest networkRecord settlementId =
      .throw (.raised "Network or asset not found in registry for settlement") := by
  have hnone : (do
      let network ← imports.networkRegistry.getNetwork networkRecord.chainId
      let asset ← network.findAsset paymentRequest.asset
      return (network, asset) : Option (NetworkConfig × AssetConfig)) = none := by
    rw [Option.bind_eq_bind, Option.bind_eq_none_iff]
    intro network hnetwork
    rw [Option.bind_eq_bind, Option.bind_eq_none_iff]
    intro asset hasset
    exact absurd ⟨network, asset, hnetwork, hasset⟩ h
  simp only [settleBody, hnone]

/-! ### Where they agree -/

/-- The first network that is advertised under this name has the symbol in capitals. -/
def Capitalised (host : Host) (payload : SupportedPayload) (name symbol : String) : Prop :=
  ∃ before network after, payload.networks = before ++ network :: after ∧ network.name = name ∧
    (∀ other ∈ before, other.name ≠ name) ∧ host.toUpperCase symbol ∈ network.assets

theorem exists_verifyFinds_iff (imports : Imports) (platformFeeBps : Int) (name symbol : String) :
    (∃ network asset, VerifyFinds imports name symbol network asset) ↔
      Capitalised imports.host (imports.networkRegistry.toSupportedPayload platformFeeBps) name symbol := by
  constructor
  · rintro ⟨network, asset, hnetwork, hasset⟩
    obtain ⟨hname, before, after, hsplit, hbefore⟩ := List.find?_eq_some_iff_append.mp hnetwork
    refine ⟨before.map fun other => ⟨other.name, other.chainId, other.assets.map (·.symbol)⟩,
      ⟨network.name, network.chainId, network.assets.map (·.symbol)⟩,
      after.map fun other => ⟨other.name, other.chainId, other.assets.map (·.symbol)⟩, ?_,
      of_decide_eq_true hname, ?_, ?_⟩
    · rw [NetworkRegistry.toSupportedPayload, NetworkRegistry.getAllNetworks, hsplit]
      simp
    · intro other hother
      obtain ⟨config, hconfig, rfl⟩ := List.mem_map.mp hother
      simpa using hbefore config hconfig
    · have hsymbol := List.find?_some hasset
      exact List.mem_map.mpr ⟨asset, List.mem_of_find?_eq_some hasset, of_decide_eq_true hsymbol⟩
  · rintro ⟨before, advertised, after, hsplit, hname, hbefore, hsymbol⟩
    rw [NetworkRegistry.toSupportedPayload, NetworkRegistry.getAllNetworks] at hsplit
    obtain ⟨before', rest, hnetworks, rfl, hrest⟩ := List.map_eq_append_iff.mp hsplit
    obtain ⟨network, after', rfl, rfl, rfl⟩ := List.map_eq_cons_iff.mp hrest
    obtain ⟨asset, hasset, hupper⟩ := List.mem_map.mp hsymbol
    have hnetwork : imports.networkRegistry.getNetworkByName name = some network := by
      apply List.find?_eq_some_iff_append.mpr
      refine ⟨decide_eq_true hname, before', after', hnetworks, fun other hother => ?_⟩
      have hother' := hbefore _ (List.mem_map_of_mem hother)
      simpa using hother'
    have hlisted : (network.findAsset (imports.host.toUpperCase symbol)).isSome = true :=
      List.find?_isSome.mpr ⟨asset, hasset, decide_eq_true hupper⟩
    obtain ⟨found, hfound⟩ := Option.isSome_iff_exists.mp hlisted
    exact ⟨network, found, hnetwork, hfound⟩

/-- The network lists the symbol as it is, at the address it lists it in capitals. -/
def SameAsSent (host : Host) (network : NetworkConfig) (symbol : String) : Prop :=
  ∃ asset, network.findAsset symbol = some asset ∧
    (network.findAsset (host.toUpperCase symbol)).map (·.address) = some asset.address

/-- **Which lookups agree.** For every list of networks, an advertised pair passes the lookup of a
verification exactly if the first network of the name is advertised with the symbol in capitals, and what
has passed is resolved by the settlement to the same network and address exactly if the network lists the
symbol, as it was sent, at that address too. -/
theorem lookups_agree_iff (imports : Imports) (defaultNetworks configs : List NetworkConfig)
    (platformFeeBps : Int) (hloaded : imports.networkRegistry = .reload defaultNetworks (some configs)) :
    let payload := imports.networkRegistry.toSupportedPayload platformFeeBps
    (∀ advertised ∈ payload.networks, ∀ symbol ∈ advertised.assets,
      (∃ network asset, VerifyFinds imports advertised.name symbol network asset) ↔
        Capitalised imports.host payload advertised.name symbol) ∧
    ∀ (body : VerifyRequest) (network : NetworkConfig) (asset : AssetConfig) (requestId : String)
      (networkRecord : Network), VerifyFinds imports body.network body.asset network asset →
      networkRecord.chainId = network.chainId →
      let stored := paymentRequestRow body requestId networkRecord.id
      ((∃ network' asset', SettleFinds imports networkRecord.chainId stored.asset network' asset' ∧
          network' = network ∧ asset'.address = asset.address) ↔
        SameAsSent imports.host network body.asset) := by
  refine ⟨fun advertised _ symbol _ => exists_verifyFinds_iff imports platformFeeBps _ _, ?_⟩
  intro body network asset requestId networkRecord hfinds hrecord
  have hback : imports.networkRegistry.getNetwork networkRecord.chainId = some network := by
    rw [hrecord, hloaded]
    apply NetworkRegistry.getNetwork_load
    have hmem := NetworkRegistry.mem_of_getNetworkByName hfinds.supported
    rwa [hloaded] at hmem
  constructor
  · rintro ⟨network', asset', hsettle, rfl, haddress⟩
    refine ⟨asset', hsettle.listed, ?_⟩
    rw [hfinds.listed, Option.map_some, haddress]
  · rintro ⟨asset', hsent, haddress⟩
    rw [hfinds.listed, Option.map_some] at haddress
    exact ⟨network, asset', ⟨hback, hsent⟩, rfl, (Option.some.inj haddress).symm⟩

end Lookups

/-! ### One network, with its asset in either letter case -/

section Samples

def oneNetwork (symbol : String) : NetworkConfig where
  chainId := 8453
  name := "base"
  rpcUrl := "https://rpc.example"
  fallbackRpcUrl := none
  assets := [
    { symbol := symbol
      address := "0x833589fCD6eDb6E08f4c7C32D4f71b54bdA02913"
      decimals := 6
      name := "USD Coin"
      eip712Version := some "2" }]
  enabled := true

def importsFor (configs : List NetworkConfig) : Imports where
  host := Payment.trustingHost
  networkRegistry := .reload [] (some configs)
  parseMessage _ := "Invalid payload"
  verifyTransferAuthorization _ _ _ _ := .ok { valid := true, error := none }
  computeFees value :=
    { platformFee := value / 200
      developerShare := 0
      netAmount := value - value / 200
      feeBps := 50 }

/-- A payment whose asset is sent in small letters. -/
def smallLetters : VerifyRequest :=
  { Payment.firstPayment 0 with
    asset := "usdc"
    asset_ne := by decide }

theorem lookups_agree_capitals : ∃ network asset,
    SettleFinds (importsFor [oneNetwork "USDC"]) 8453 "USDC" network asset := by
  have hagree := lookups_agree_iff (importsFor [oneNetwork "USDC"]) [] [oneNetwork "USDC"] 50 rfl
  obtain ⟨network, asset, hsettle, -⟩ := (hagree.2 (Payment.firstPayment 0) (oneNetwork "USDC") _
    "req-0" { id := "net-0", chainId := 8453, name := "base" } ⟨rfl, rfl⟩ rfl).mpr ⟨_, rfl, by decide⟩
  exact ⟨network, asset, hsettle⟩

/-- A symbol configured in small letters is advertised and not found; one configured in capitals is
found for a payment in small letters, which is then not settled. -/
theorem lookups_disagree :
    (∃ advertised ∈ ((importsFor [oneNetwork "usdc"]).networkRegistry.toSupportedPayload 50).networks,
      ∃ symbol ∈ advertised.assets, ¬∃ network asset,
        VerifyFinds (importsFor [oneNetwork "usdc"]) advertised.name symbol network asset) ∧
    ∃ network asset, VerifyFinds (importsFor [oneNetwork "USDC"]) smallLetters.network
        smallLetters.asset network asset ∧
      ¬∃ network' asset', SettleFinds (importsFor [oneNetwork "USDC"]) network.chainId
        smallLetters.asset network' asset' := by
  constructor
  · refine ⟨_, List.mem_singleton_self _, "usdc", List.mem_singleton_self _, ?_⟩
    rw [exists_verifyFinds_iff _ 50]
    rintro ⟨before, network, after, hsplit, -, -, hsymbol⟩
    have hnone : ∀ network ∈ ((importsFor [oneNetwork "usdc"]).networkRegistry.toSupportedPayload
        50).networks, (importsFor [oneNetwork "usdc"]).host.toUpperCase "usdc" ∉ network.assets := by
      decide
    exact hnone network (hsplit ▸ List.mem_append_right _ List.mem_cons_self) hsymbol
  · refine ⟨oneNetwork "USDC", _, ⟨rfl, rfl⟩, ?_⟩
    rintro ⟨network', asset', hnetwork, hasset⟩
    obtain rfl : oneNetwork "USDC" = network' := Option.some.inj hnetwork
    exact absurd (show (oneNetwork "USDC").findAsset "usdc" = some asset' from hasset)
      (by rw [show (oneNetwork "USDC").findAsset "usdc" = none by decide]; exact Option.some_ne_none _ ∘ Eq.symm)

end Samples

end Service

end FacilitatorX402
