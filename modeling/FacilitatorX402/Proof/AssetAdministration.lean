import FacilitatorX402.Http.AdminAssets
import FacilitatorX402.Infrastructure.ApiKey
import FacilitatorX402.Library.Trace

/-!
# Adding and disabling assets

An asset is active when it was added as an active one and has not been disabled since. That is so for as
long as nobody disables under a symbol that is not in upper case, while an asset of that symbol, or of the
symbol in upper case, is active.
-/

namespace FacilitatorX402.Admin

open Requests Service

/-! ### The assets that are active -/

def NetworkAssets.Active (table : NetworkAssets) (networkId symbol : String) : Prop :=
  ∃ row ∈ table.rows, row.symbolKey = (networkId, symbol) ∧ row.active = true

instance (table : NetworkAssets) (networkId symbol : String) : Decidable (table.Active networkId symbol) :=
  inferInstanceAs (Decidable (∃ row ∈ table.rows, _))

section Table

variable {table table' : NetworkAssets} {networkId symbol networkId' symbol' : String}

theorem rows_create {asset : NetworkAsset} (h : table.create asset = some table') :
    table'.rows = table.rows ++ [asset] := by
  unfold NetworkAssets.create at h
  split at h
  · cases h
    rfl
  · cases h

theorem active_create {asset : NetworkAsset} (h : table.create asset = some table') :
    table'.Active networkId symbol ↔
      table.Active networkId symbol ∨ asset.symbolKey = (networkId, symbol) ∧ asset.active = true := by
  simp [NetworkAssets.Active, rows_create h, or_and_right, exists_or]

theorem mem_updateMany {row : NetworkAsset} :
    row ∈ (table.updateMany networkId symbol).rows ↔
      (row ∈ table.rows ∧ row.symbolKey ≠ (networkId, symbol)) ∨
        ∃ old ∈ table.rows, old.symbolKey = (networkId, symbol) ∧ row = old.disabled :=
  KeyedRows.mem_update

/-- A disabled asset is not active, and every other one is as it was. -/
theorem active_updateMany :
    (table.updateMany networkId symbol).Active networkId' symbol' ↔
      table.Active networkId' symbol' ∧ (networkId', symbol') ≠ (networkId, symbol) := by
  constructor
  · rintro ⟨row, hrow, hkey, hactive⟩
    rcases mem_updateMany.mp hrow with ⟨hrow, hne⟩ | ⟨old, -, -, rfl⟩
    · exact ⟨⟨row, hrow, hkey, hactive⟩, hkey ▸ hne⟩
    · cases hactive
  · rintro ⟨⟨row, hrow, hkey, hactive⟩, hne⟩
    exact ⟨row, mem_updateMany.mpr (.inl ⟨hrow, hkey ▸ hne⟩), hkey, hactive⟩

/-- No row changes that is of another symbol or was not active. -/
theorem mem_updateMany_iff {row : NetworkAsset}
    (h : row.symbolKey ≠ (networkId, symbol) ∨ ¬ table.Active networkId symbol) :
    row ∈ (table.updateMany networkId symbol).rows ↔ row ∈ table.rows := by
  have hsame : ∀ old ∈ table.rows, old.symbolKey = (networkId, symbol) →
      ¬ table.Active networkId symbol → old.disabled = old := by
    intro old hold hkey hinactive
    have hold : old.active = false :=
      Bool.eq_false_iff.mpr fun hactive => hinactive ⟨old, hold, hkey, hactive⟩
    rw [NetworkAsset.disabled, ← hold]
  constructor
  · intro hrow
    rcases mem_updateMany.mp hrow with ⟨hrow, -⟩ | ⟨old, hold, hkey, rfl⟩
    · exact hrow
    · rcases h with hne | hinactive
      · exact absurd hkey hne
      · rwa [hsame old hold hkey hinactive]
  · intro hrow
    by_cases hkey : row.symbolKey = (networkId, symbol)
    · rcases h with hne | hinactive
      · exact absurd hkey hne
      · exact mem_updateMany.mpr (.inr ⟨row, hrow, hkey, (hsame row hrow hkey hinactive).symm⟩)
    · exact mem_updateMany.mpr (.inl ⟨hrow, hkey⟩)

end Table

/-! ### What was asked for -/

section Requested

variable (networks : Int → Option String)

/-- An asset of the symbol was asked for as an active one, and it was created. -/
def Adds (networkId symbol : String) (x : Exchange AssetRequest AssetReply) : Prop :=
  ∃ chainId body ulid parsed asset, x.request = .addAsset chainId body ulid ∧
    networks chainId = some networkId ∧ parseAddAssetBody body = .ok parsed ∧
      parsed.symbol = symbol ∧ parsed.active = true ∧ x.reply = .created asset

/-- A `DELETE` of exactly this symbol on the network. -/
def Names (networkId symbol : String) (request : AssetRequest) : Prop :=
  ∃ chainId, request = .disableAsset chainId symbol ∧ networks chainId = some networkId

/-- The asset was added as an active one, or active from the start, and no later request named it. -/
def AddedActive (start : NetworkAssets) (log : Log AssetRequest AssetReply)
    (networkId symbol : String) : Prop :=
  Interact.Since (Adds networks networkId symbol) (Names networks networkId symbol ·.request) log ∨
    start.Active networkId symbol ∧ ∀ x ∈ log, ¬ Names networks networkId symbol x.request

/-- The active assets are those of which nobody has disabled the symbol since. -/
def AsRequested (start : NetworkAssets) (log : Log AssetRequest AssetReply) (table : NetworkAssets) :
    Prop :=
  ∀ networkId symbol, table.Active networkId symbol ↔ AddedActive networks start log networkId symbol

/-- A `DELETE` keeps every row of a symbol that it does not name. -/
def KeepsOthers (table : NetworkAssets) (request : AssetRequest) (after : NetworkAssets) : Prop :=
  match request with
  | .addAsset _ _ _ => True
  | .disableAsset _ _ => ∀ row : NetworkAsset, ¬ Names networks row.networkId row.symbol request →
      (row ∈ after.rows ↔ row ∈ table.rows)

variable (host : Host)

/-- A request has the effect that was asked for. -/
def FollowsRequests (start : NetworkAssets) : Admits NetworkAssets AssetRequest AssetReply :=
  fun log table request =>
    let (reply, after) := serveAssets host networks table request
    AsRequested networks start (⟨request, reply⟩ :: log) after ∧ KeepsOthers networks table request after

/-- A `DELETE` names its symbol in upper case, or neither as it is nor in upper case is it active. -/
def NamesExactly : Admits NetworkAssets AssetRequest AssetReply := fun _ table request =>
  match request with
  | .addAsset _ _ _ => True
  | .disableAsset chainId symbol => ∀ networkId, networks chainId = some networkId →
      host.toUpperCase symbol = symbol ∨
        ¬ table.Active networkId symbol ∧ ¬ table.Active networkId (host.toUpperCase symbol)

end Requested

/-! ### One request -/

section Steps

variable {networks : Int → Option String} {host : Host} {start table : NetworkAssets}
  {log : Log AssetRequest AssetReply} {networkId symbol : String}

theorem addedActive_cons {x : Exchange AssetRequest AssetReply} :
    AddedActive networks start (x :: log) networkId symbol ↔
      Adds networks networkId symbol x ∨
        ¬ Names networks networkId symbol x.request ∧ AddedActive networks start log networkId symbol := by
  simp only [AddedActive, Interact.Since, List.forall_mem_cons]
  tauto

theorem asRequested_nil : AsRequested networks start [] start := by
  intro networkId symbol
  simp [AddedActive, Interact.Since]

theorem names_disableAsset {chainId : Int} {named : String} :
    Names networks networkId symbol (.disableAsset chainId named) ↔
      networks chainId = some networkId ∧ symbol = named := by
  constructor
  · rintro ⟨_, heq, hnetwork⟩
    cases heq
    exact ⟨hnetwork, rfl⟩
  · rintro ⟨hnetwork, rfl⟩
    exact ⟨chainId, rfl, hnetwork⟩

theorem not_names_addAsset {chainId : Int} {body : Json} {ulid : String} :
    ¬ Names networks networkId symbol (.addAsset chainId body ulid) := by
  rintro ⟨_, heq, -⟩
  cases heq

theorem not_adds_disableAsset {chainId : Int} {named : String} {reply : AssetReply} :
    ¬ Adds networks networkId symbol ⟨.disableAsset chainId named, reply⟩ := by
  rintro ⟨_, _, _, _, _, heq, -⟩
  cases heq

/-- What adding an asset can do: it is refused, or the asset of the body is created. -/
theorem addAsset_cases (networks : Int → Option String) (table : NetworkAssets) (chainId : Int) (body : Json)
    (ulid : String) :
    (∃ status code reason message, addAsset networks table chainId body ulid =
      (.refused status code reason message, table)) ∨
    ∃ parsed networkId asset after, parseAddAssetBody body = .ok parsed ∧
      networks chainId = some networkId ∧ asset.symbolKey = (networkId, parsed.symbol) ∧
        asset.active = parsed.active ∧ table.create asset = some after ∧
          addAsset networks table chainId body ulid = (.created asset, after) := by
  unfold addAsset
  split
  · exact .inl ⟨_, _, _, _, rfl⟩
  · rename_i parsed hparsed
    split
    · exact .inl ⟨_, _, _, _, rfl⟩
    · rename_i networkId hnetwork
      dsimp only
      split
      · exact .inl ⟨_, _, _, _, rfl⟩
      · rename_i after hcreate
        exact .inr ⟨parsed, networkId, _, after, hparsed, hnetwork, rfl, rfl, hcreate, rfl⟩

/-- Adding an asset always has its effect. -/
theorem AsRequested.addAsset (h : AsRequested networks start log table) (chainId : Int) (body : Json)
    (ulid : String) :
    AsRequested networks start
      (⟨.addAsset chainId body ulid, (addAsset networks table chainId body ulid).1⟩ :: log)
      (addAsset networks table chainId body ulid).2 := by
  intro networkId symbol
  rw [addedActive_cons, ← h networkId symbol]
  simp only [not_names_addAsset, not_false_eq_true, true_and]
  rcases addAsset_cases networks table chainId body ulid with
    ⟨_, _, _, _, heq⟩ | ⟨parsed, stored, asset, after, hparsed, hnetwork, hkey, hactive, hcreate, heq⟩
  · rw [heq]
    constructor
    · exact .inr
    · rintro (⟨_, _, _, _, _, -, -, -, -, -, hreply⟩ | hbefore)
      · cases hreply
      · exact hbefore
  · rw [heq, active_create hcreate, hkey, hactive, or_comm]
    refine or_congr_left ?_
    constructor
    · rintro ⟨heq, hactive⟩
      cases heq
      exact ⟨chainId, body, ulid, parsed, asset, rfl, hnetwork, hparsed, rfl, hactive, rfl⟩
    · rintro ⟨_, _, _, parsed', _, hrequest, hnetwork', hparsed', rfl, hactive', -⟩
      cases hrequest
      cases Option.some.inj (hnetwork.symm.trans hnetwork')
      cases Except.ok.inj (hparsed.symm.trans hparsed')
      exact ⟨rfl, hactive'⟩

/-- Disabling has its effect exactly when the symbol is named as it is stored, or nothing is active under
either form of it. -/
theorem AsRequested.disableAsset_iff (h : AsRequested networks start log table) (chainId : Int)
    (named : String) :
    FollowsRequests networks host start log table (.disableAsset chainId named) ↔
      NamesExactly networks host log table (.disableAsset chainId named) := by
  simp only [FollowsRequests, NamesExactly, KeepsOthers, AsRequested, serveAssets, disableAsset,
    addedActive_cons, not_adds_disableAsset, names_disableAsset, false_or, ← h _ _]
  cases hnetwork : networks chainId with
  | none => simp
  | some stored =>
      simp only [Option.some.injEq, forall_eq', active_updateMany]
      constructor
      · rintro ⟨hafter, -⟩
        refine or_iff_not_imp_left.mpr fun hupper => ⟨fun hactive => ?_, fun hactive => ?_⟩
        · exact ((hafter stored named).mp ⟨hactive, by simpa using Ne.symm hupper⟩).1 ⟨rfl, rfl⟩
        · exact ((hafter stored _).mpr ⟨by simpa using hupper, hactive⟩).2 rfl
      · rintro (hupper | ⟨hnamed, hother⟩)
        · rw [hupper]
          refine ⟨fun networkId symbol => ?_, fun row hrow => mem_updateMany_iff (.inl fun hkey => hrow ?_)⟩
          · rw [and_comm, Ne, Prod.mk.injEq, eq_comm (a := networkId)]
          · cases hkey
            exact ⟨rfl, rfl⟩
        · refine ⟨fun networkId symbol => and_comm.trans (and_congr_left fun hactive => ?_),
            fun row _ => mem_updateMany_iff (.inr hother)⟩
          refine iff_of_true ?_ ?_
          · intro hkey
            cases hkey
            exact hother hactive
          · rintro ⟨rfl, rfl⟩
            exact hnamed hactive

end Steps

/-- **Assets are administered as requested exactly when every symbol is named exactly.** -/
theorem followsRequests_iff (networks : Int → Option String) (host : Host) (start : NetworkAssets)
    (requests : List AssetRequest) :
    Admitted (serveAssets host networks) (FollowsRequests networks host start) start requests ↔
      Admitted (serveAssets host networks) (NamesExactly networks host) start requests := by
  refine admitted_congr (I := AsRequested networks start) asRequested_nil ?_ ?_ requests
  · intro log table request _ hfollows
    exact hfollows.1
  · intro log table request h
    cases request with
    | disableAsset chainId named => exact h.disableAsset_iff chainId named
    | addAsset chainId body ulid => exact iff_of_true ⟨h.addAsset chainId body ulid, trivial⟩ trivial

/-! ### Two spellings -/

def onlyNetwork (chainId : Int) : Option String := if chainId = 84532 then some "net-0" else none

/-- A token with a symbol, at the address that ends in a digit. -/
def tokenRequest (symbol : String) (digit : Char) (ulid : String) : AssetRequest :=
  .addAsset 84532 (.obj [("symbol", .str symbol),
    ("address", .str (String.ofList ('0' :: 'x' :: List.replicate 39 '0' ++ [digit])))]) ulid

/-- Two tokens are added, and the one that was added in lower case is disabled. -/
def twoSpellings : List AssetRequest :=
  [.disableAsset 84532 "usdc", tokenRequest "USDC" '2' "asset-2", tokenRequest "usdc" '1' "asset-1"]

/-- The token that was named is active after the last request, and the other one is not. -/
theorem disable_other_spelling :
    let after := (served (serveAssets truncatingHost onlyNetwork) .empty twoSpellings).2
    after.Active "net-0" "usdc" ∧ ¬ after.Active "net-0" "USDC" ∧
      ¬ Admitted (serveAssets truncatingHost onlyNetwork)
        (FollowsRequests onlyNetwork truncatingHost .empty) .empty twoSpellings := by
  have hactive : (served (serveAssets truncatingHost onlyNetwork) .empty twoSpellings).2.Active
      "net-0" "usdc" := by decide +kernel
  refine ⟨hactive, by decide +kernel, ?_⟩
  rintro ⟨-, hrequested, -⟩
  have hadded := (hrequested "net-0" "usdc").mp hactive
  rcases addedActive_cons.mp hadded with hadds | ⟨hnamed, -⟩
  · exact not_adds_disableAsset hadds
  · exact hnamed (names_disableAsset.mpr ⟨rfl, rfl⟩)

end FacilitatorX402.Admin
