import FacilitatorX402.Infrastructure.RpcClient

/-!
# Broadcasts of one sendTransaction

The failover is made for calls that may be repeated. A transaction that the primary endpoint has
broadcast is out, whether its hash comes late or not at all; the fallback is then asked to send once
more. What the breakers record does not matter for this, only whether they are open.
-/

namespace FacilitatorX402.RpcClient

variable {σ ε α τ ρ : Type} {config : RpcConfig} {fn : String → σ → Race ε α × σ}
  {around : RpcSurroundings} {breakers : RpcBreakers} {world : σ}

/-- At most one transaction is among those broadcast. -/
def SentAtMostOne (sent : List τ) : Prop := ∀ first ∈ sent, ∀ second ∈ sent, first = second

/-- The breakers that a failed attempt at the primary endpoint finds at its end. -/
def afterPrimary (around : RpcSurroundings) (breakers : RpcBreakers) : RpcBreakers :=
  around.duringPrimary
    { breakers with primaryCb := (breakers.primaryCb.isOpen around.primaryStart).2 }

/-- Both endpoints are asked, and broadcast different transactions: the primary broadcasts one without
answering its hash in time, a fallback is configured, its breaker is not open, and it broadcasts
another. -/
structure SendsAgain (config : RpcConfig) (wallets : WalletClients ε ρ τ) (txRequest : ρ)
    (around : RpcSurroundings) (breakers : RpcBreakers) (first second : τ) : Prop where
  primaryAsked : (breakers.primaryCb.isOpen around.primaryStart).1 = false
  primaryFails : ∀ hash, (wallets config.RPC_URL txRequest []).race ≠ .fulfilled hash
  primarySends : (wallets config.RPC_URL txRequest []).broadcast = some first
  configured : config.RPC_URL_FALLBACK ≠ ""
  fallbackAsked :
    ((afterPrimary around breakers).fallbackCb.isOpen around.fallbackStart).1 = false
  fallbackSends : (wallets config.RPC_URL_FALLBACK txRequest [first]).broadcast = some second
  different : first ≠ second

theorem enter_of_isOpen {cb : CircuitBreaker} {now : Int} (h : (cb.isOpen now).1 = true) :
    ∃ refusal cb', @CircuitBreaker.enter ε cb now = (some refusal, cb') := by
  simp [CircuitBreaker.enter, h]

theorem enter_of_not_isOpen {cb : CircuitBreaker} {now : Int} (h : (cb.isOpen now).1 = false) :
    @CircuitBreaker.enter ε cb now = (none, (cb.isOpen now).2) := by
  simp [CircuitBreaker.enter, h]

/-! ## What is done to the world -/

theorem withFallback_world_of_idle
    (h : config.RPC_URL_FALLBACK = "" ∨
      (breakers.fallbackCb.isOpen around.fallbackStart).1 = true) :
    (withFallback config fn around breakers world).2.2 = world := by
  rcases h with hurl | hopen
  · simp [withFallback, hurl]
  · obtain ⟨refusal, cb, henter⟩ := @enter_of_isOpen ε _ _ hopen
    simp only [withFallback, henter]
    split <;> rfl

theorem withFallback_world_of_asked (hurl : config.RPC_URL_FALLBACK ≠ "")
    (hopen : (breakers.fallbackCb.isOpen around.fallbackStart).1 = false) :
    (withFallback config fn around breakers world).2.2 = (fn config.RPC_URL_FALLBACK world).2 := by
  simp only [withFallback, if_neg hurl, enter_of_not_isOpen hopen]
  split <;> rfl

theorem withPrimary_of_refused (h : (breakers.primaryCb.isOpen around.primaryStart).1 = true) :
    ∃ cb, withPrimary config fn around breakers world =
      withFallback config fn around { breakers with primaryCb := cb } world := by
  obtain ⟨refusal, cb, henter⟩ := @enter_of_isOpen ε _ _ h
  exact ⟨cb, by simp only [withPrimary, henter]⟩

theorem withPrimary_of_fulfilled {value : α}
    (h : (breakers.primaryCb.isOpen around.primaryStart).1 = false)
    (hrace : (fn config.RPC_URL world).1 = .fulfilled value) :
    (withPrimary config fn around breakers world).2.2 = (fn config.RPC_URL world).2 := by
  simp only [withPrimary, enter_of_not_isOpen h, hrace, BreakerSettings.withTimeout]

theorem withPrimary_of_failed (h : (breakers.primaryCb.isOpen around.primaryStart).1 = false)
    (hrace : ∀ value, (fn config.RPC_URL world).1 ≠ .fulfilled value) :
    ∃ cb, withPrimary config fn around breakers world =
      withFallback config fn around
        { afterPrimary around breakers with primaryCb := cb }
        (fn config.RPC_URL world).2 := by
  have herror : ∀ cb : CircuitBreaker,
      ∃ thrown, cb.withTimeout (fn config.RPC_URL world).1 = .error thrown := by
    intro cb
    cases hcase : (fn config.RPC_URL world).1 with
    | fulfilled value => exact absurd hcase (hrace value)
    | rejected thrown => exact ⟨thrown, rfl⟩
    | timer => exact ⟨_, rfl⟩
  obtain ⟨thrown, hthrown⟩ := herror (afterPrimary around breakers).primaryCb
  refine ⟨(afterPrimary around breakers).primaryCb.leave
    (.error thrown : Except (Thrown ε) α) around.primaryEnd, ?_⟩
  simp only [afterPrimary] at hthrown ⊢
  simp only [withPrimary, enter_of_not_isOpen h, hthrown]

/-! ## What is sent -/

theorem sentAtMostOne_toList (sent : Option τ) : SentAtMostOne sent.toList := by
  intro first hfirst second hsecond
  rw [Option.mem_toList] at hfirst hsecond
  exact Option.mem_unique hfirst hsecond

theorem sentAtMostOne_pair {first second : τ} :
    SentAtMostOne [second, first] ↔ first = second := by
  constructor
  · intro h
    exact h first (by simp) second (by simp)
  · rintro rfl a ha b hb
    simp_all

variable {wallets : WalletClients ε ρ τ} {txRequest : ρ}

/-- The fallback alone sends at most one transaction. -/
theorem sentAtMostOne_withFallback :
    SentAtMostOne
      (withFallback config (sendThrough wallets txRequest) around breakers []).2.2 := by
  by_cases hidle : config.RPC_URL_FALLBACK = "" ∨
      (breakers.fallbackCb.isOpen around.fallbackStart).1 = true
  · rw [withFallback_world_of_idle hidle]
    exact sentAtMostOne_toList none
  · obtain ⟨hurl, hopen⟩ := not_or.mp hidle
    rw [withFallback_world_of_asked hurl (Bool.not_eq_true _ ▸ hopen)]
    simpa [sendThrough] using sentAtMostOne_toList _

/-- After the primary has sent a transaction, the fallback sends none, or one more. -/
theorem sentAtMostOne_withFallback_iff {first : τ} :
    SentAtMostOne
        (withFallback config (sendThrough wallets txRequest) around breakers [first]).2.2 ↔
      ¬ ∃ second, config.RPC_URL_FALLBACK ≠ "" ∧
        (breakers.fallbackCb.isOpen around.fallbackStart).1 = false ∧
          (wallets config.RPC_URL_FALLBACK txRequest [first]).broadcast = some second ∧
            first ≠ second := by
  by_cases hidle : config.RPC_URL_FALLBACK = "" ∨
      (breakers.fallbackCb.isOpen around.fallbackStart).1 = true
  · rw [withFallback_world_of_idle hidle]
    refine iff_of_true (sentAtMostOne_toList (some first)) ?_
    rintro ⟨second, hurl, hopen, -⟩
    rcases hidle with hidle | hidle
    · exact hurl hidle
    · simp [hopen] at hidle
  · obtain ⟨hurl, hopen⟩ := not_or.mp hidle
    have hopen := Bool.not_eq_true _ ▸ hopen
    rw [withFallback_world_of_asked hurl hopen]
    cases hsends : (wallets config.RPC_URL_FALLBACK txRequest [first]).broadcast with
    | none => simpa [sendThrough, hsends] using sentAtMostOne_toList (some first)
    | some second => simp [sendThrough, hsends, sentAtMostOne_pair, hurl, hopen]

/-- One call sends at most one transaction exactly when it does not send again. -/
theorem sent_at_most_one_iff (config : RpcConfig) (wallets : WalletClients ε ρ τ) (txRequest : ρ)
    (around : RpcSurroundings) (breakers : RpcBreakers) :
    SentAtMostOne (sendTransaction config wallets txRequest around breakers []).2.2 ↔
      ¬ ∃ first second, SendsAgain config wallets txRequest around breakers first second := by
  unfold sendTransaction
  cases hprimary : (breakers.primaryCb.isOpen around.primaryStart).1 with
  | true =>
      obtain ⟨cb, hcall⟩ := @withPrimary_of_refused _ _ _ config (sendThrough wallets txRequest)
        around breakers [] hprimary
      rw [hcall]
      refine iff_of_true sentAtMostOne_withFallback ?_
      rintro ⟨first, second, h⟩
      simp [h.primaryAsked] at hprimary
  | false =>
      by_cases hrace : ∃ hash, (wallets config.RPC_URL txRequest []).race = .fulfilled hash
      · obtain ⟨hash, hhash⟩ := hrace
        rw [@withPrimary_of_fulfilled _ _ _ config (sendThrough wallets txRequest) around breakers
          [] hash hprimary hhash]
        refine iff_of_true (by simpa [sendThrough] using sentAtMostOne_toList _) ?_
        rintro ⟨first, second, h⟩
        exact h.primaryFails hash hhash
      · have hfails := not_exists.mp hrace
        obtain ⟨cb, hcall⟩ := @withPrimary_of_failed _ _ _ config (sendThrough wallets txRequest)
          around breakers [] hprimary hfails
        rw [hcall]
        cases hsends : (wallets config.RPC_URL txRequest []).broadcast with
        | none =>
            have hsent : (sendThrough wallets txRequest config.RPC_URL []).2 = [] := by
              simp [sendThrough, hsends]
            rw [hsent]
            refine iff_of_true sentAtMostOne_withFallback ?_
            rintro ⟨first, second, h⟩
            simp [h.primarySends] at hsends
        | some first =>
            have hsent : (sendThrough wallets txRequest config.RPC_URL []).2 = [first] := by
              simp [sendThrough, hsends]
            rw [hsent, sentAtMostOne_withFallback_iff]
            refine not_congr ⟨?_, ?_⟩
            · rintro ⟨second, hurl, hopen, hsecond, hne⟩
              exact ⟨first, second, hprimary, hfails, hsends, hurl, hopen, hsecond, hne⟩
            · rintro ⟨first', second, h⟩
              obtain rfl : first = first' := by simpa [hsends] using h.primarySends
              exact ⟨second, h.configured, h.fallbackAsked, h.fallbackSends, h.different⟩

/-! ## A transaction sent twice -/

def sampleRpcConfig : RpcConfig :=
  { RPC_URL := "https://mainnet.base.org", RPC_URL_FALLBACK := "https://base.drpc.org" }

def freshBreakers : RpcBreakers :=
  { primaryCb := .new { name := "rpc-primary" }, fallbackCb := .new { name := "rpc-fallback" } }

/-- Nothing else goes on; the primary is given up after ten seconds. -/
def quietSurroundings : RpcSurroundings :=
  { primaryStart := 0
    primaryEnd := 10000
    duringPrimary := id
    fallbackStart := 10001
    fallbackEnd := 10050
    duringFallback := id }

/-- The transaction is the request with the number of those sent before as its nonce; the primary
endpoint broadcasts it and answers too late. -/
def slowPrimary : WalletClients Unit Nat (Nat × Nat) := fun url txRequest sent =>
  { broadcast := some (txRequest, sent.length)
    race := if url = "https://mainnet.base.org" then .timer else .fulfilled "0x02" }

theorem not_sent_at_most_one :
    ¬ ∀ (config : RpcConfig) (wallets : WalletClients Unit Nat (Nat × Nat)) (txRequest : Nat)
      (around : RpcSurroundings) (breakers : RpcBreakers),
        SentAtMostOne (sendTransaction config wallets txRequest around breakers []).2.2 := by
  intro h
  have hsent := h sampleRpcConfig slowPrimary 7 quietSurroundings freshBreakers
  have hboth : (sendTransaction sampleRpcConfig slowPrimary 7 quietSurroundings freshBreakers
      []).2.2 = [(7, 1), (7, 0)] := by
    decide
  rw [hboth, sentAtMostOne_pair] at hsent
  exact absurd hsent (by decide)

end FacilitatorX402.RpcClient
