import FacilitatorX402.Infrastructure.KeyProvider

/-!
# The key after an invalidation

A call that has its answer writes the cache when it goes on, whatever has happened since. The cache holds
a key of the time after the last invalidation for as long as no invalidation comes between the two.
-/

namespace FacilitatorX402

open Requests

namespace KeyProvider

/-- The key of a reply was fetched after the invalidations that the call came after. -/
def FetchedSince : KeyReply → Prop
  | .yields _ startedAt fetchedAt => startedAt ≤ fetchedAt
  | _ => True

instance : DecidablePred FetchedSince
  | .yields _ startedAt fetchedAt => inferInstanceAs (Decidable (startedAt ≤ fetchedAt))
  | .none => inferInstanceAs (Decidable True)
  | .throws _ => inferInstanceAs (Decidable True)

/-- A call has been answered with a key and has not gone on. -/
def KeyOnItsWay (env : KeyEnv) (provider : KeyProvider) : Prop :=
  ∃ who request service startedAt fetchedAt key,
    provider.phase who = .answered request service startedAt fetchedAt ∧
      env.resume service request = .resolves key

/-- The cache is invalidated when no key is on its way. -/
def InvalidatesCalmly (env : KeyEnv) : Admits KeyProvider KeyMove KeyReply := fun _ provider move =>
  match move with
  | .invalidateKeyCache => ¬ provider.KeyOnItsWay env
  | _ => True

/-- What is remembered of a call. A key on its way is of the time after the last invalidation. -/
def PhaseFresh (env : KeyEnv) (invalidations : Nat) : KeyPhase → Prop
  | .idle => True
  | .waiting _ startedAt => startedAt ≤ invalidations
  | .answered request service startedAt fetchedAt =>
      startedAt ≤ fetchedAt ∧ fetchedAt ≤ invalidations ∧
        ∀ key, env.resume service request = .resolves key → fetchedAt = invalidations

/-- So is a key in the cache. -/
structure Fresh (env : KeyEnv) (provider : KeyProvider) : Prop where
  cached : provider._cachedKey ≠ none → provider.cachedAt = provider.invalidations
  phases : ∀ who, PhaseFresh env provider.invalidations (provider.phase who)

section Steps

variable {env : KeyEnv} {provider : KeyProvider} {who : Nat}

theorem Fresh.setPhase (h : provider.Fresh env) {phase : KeyPhase}
    (hphase : PhaseFresh env provider.invalidations phase) : (provider.setPhase who phase).Fresh env where
  cached := h.cached
  phases other := by
    by_cases hother : other = who
    · subst hother
      simpa only [KeyProvider.setPhase, Function.update_self] using hphase
    · simpa only [KeyProvider.setPhase, Function.update_of_ne hother] using h.phases other

/-- A call goes on with a key of the time after the last invalidation, or with none. -/
theorem Fresh.take (h : provider.Fresh env) {startedAt fetchedAt : Nat} {step : KeyStep}
    (horder : startedAt ≤ fetchedAt) (hpast : fetchedAt ≤ provider.invalidations)
    (hkey : ∀ key, step = .resolves key → fetchedAt = provider.invalidations) :
    (provider.take who startedAt fetchedAt step).2.Fresh env ∧
      FetchedSince (provider.take who startedAt fetchedAt step).1 := by
  cases step with
  | sends request => exact ⟨h.setPhase (Nat.le_trans horder hpast), trivial⟩
  | throws message => exact ⟨h.setPhase trivial, trivial⟩
  | resolves key =>
      have hcached : { provider with _cachedKey := some key, cachedAt := fetchedAt }.Fresh env :=
        ⟨fun _ => hkey key rfl, h.phases⟩
      exact ⟨hcached.setPhase trivial, horder⟩

theorem Fresh.getPrivateKey (h : provider.Fresh env) :
    (provider.getPrivateKey env who).2.Fresh env ∧
      FetchedSince (provider.getPrivateKey env who).1 := by
  unfold KeyProvider.getPrivateKey
  cases hphase : provider.phase who with
  | waiting request startedAt => exact ⟨h, trivial⟩
  | answered request service startedAt fetchedAt => exact ⟨h, trivial⟩
  | idle =>
      cases hcached : provider._cachedKey with
      | some key => exact ⟨h, Nat.le_of_eq (h.cached (by simp [hcached])).symm⟩
      | none => exact h.take (Nat.le_refl _) (Nat.le_refl _) fun _ _ => rfl

theorem Fresh.answer (h : provider.Fresh env) (service : KeyService) :
    (provider.answer who service).Fresh env := by
  have hfresh := h.phases who
  unfold KeyProvider.answer
  cases hphase : provider.phase who with
  | idle => exact h
  | answered request service startedAt fetchedAt => exact h
  | waiting request startedAt =>
      rw [hphase] at hfresh
      exact h.setPhase ⟨hfresh, Nat.le_refl _, fun _ _ => rfl⟩

theorem Fresh.resume (h : provider.Fresh env) :
    (provider.resume env who).2.Fresh env ∧ FetchedSince (provider.resume env who).1 := by
  have hfresh := h.phases who
  unfold KeyProvider.resume
  cases hphase : provider.phase who with
  | idle => exact ⟨h, trivial⟩
  | waiting request startedAt => exact ⟨h, trivial⟩
  | answered request service startedAt fetchedAt =>
      rw [hphase] at hfresh
      exact h.take hfresh.1 hfresh.2.1 hfresh.2.2

theorem Fresh.invalidateKeyCache (h : provider.Fresh env) (hcalm : ¬ provider.KeyOnItsWay env) :
    provider.invalidateKeyCache.Fresh env where
  cached hsome := absurd rfl hsome
  phases who := by
    have hfresh := h.phases who
    change PhaseFresh env (provider.invalidations + 1) (provider.phase who)
    cases hphase : provider.phase who with
    | idle => trivial
    | waiting request startedAt =>
        rw [hphase] at hfresh
        exact Nat.le_succ_of_le hfresh
    | answered request service startedAt fetchedAt =>
        rw [hphase] at hfresh
        refine ⟨hfresh.1, Nat.le_succ_of_le hfresh.2.1, fun key hkey => ?_⟩
        exact absurd ⟨who, request, service, startedAt, fetchedAt, key, hphase, hkey⟩ hcalm

theorem Fresh.step (h : provider.Fresh env) {log : Log KeyMove KeyReply} {move : KeyMove}
    (hcalm : InvalidatesCalmly env log provider move) :
    (provider.serve env move).2.Fresh env ∧ FetchedSince (provider.serve env move).1 := by
  cases move with
  | getPrivateKey who => exact h.getPrivateKey
  | answer who service => exact ⟨h.answer service, trivial⟩
  | resume who => exact h.resume
  | invalidateKeyCache => exact ⟨h.invalidateKeyCache hcalm, trivial⟩

end Steps

/-- **An invalidation is effective.** In every run in which the cache is invalidated only when no key is
on its way, a call yields no key that was fetched before an invalidation that the call came after. -/
theorem invalidation_effective {env : KeyEnv} {log : Log KeyMove KeyReply} {provider : KeyProvider}
    (hrun : Run (serve env) (InvalidatesCalmly env) empty log provider) :
    ∀ x ∈ log, FetchedSince x.reply := by
  have hfresh : provider.Fresh env ∧ ∀ x ∈ log, FetchedSince x.reply := by
    refine hrun.invariant
      (I := fun log provider => provider.Fresh env ∧ ∀ x ∈ log, FetchedSince x.reply)
      ⟨⟨fun hsome => absurd rfl hsome, fun _ => trivial⟩, by simp⟩ ?_
    rintro log provider move ⟨hfresh, hearlier⟩ hcalm
    obtain ⟨hnext, hreply⟩ := hfresh.step hcalm
    exact ⟨hnext, List.forall_mem_cons.mpr ⟨hreply, hearlier⟩⟩
  exact hfresh.2

/-- A vault that holds a key of one repeated digit. -/
def vaultWith (digit : Char) : KeyService where
  sdkInstalled := false
  decrypt _ _ _ := .error "no SDK"
  login _ _ _ := .ok { status := 403, json := .ok {} }
  read _ _ := .ok {
    status := 200
    json := .ok { data := fun _ => some (String.ofList (List.replicate 64 digit)) } }

def vaultEnv : KeyEnv where
  PRIVATE_KEY_PROVIDER := some "vault"
  VAULT_ADDR := some "https://vault.example.com"
  VAULT_TOKEN := some "s.token"

def keyOf (digit : Char) : String := "0x" ++ String.ofList (List.replicate 64 digit)

/-- The key is fetched, the cache is invalidated, and the key is fetched again. -/
def calmMoves : List KeyMove :=
  [.resume 1, .answer 1 (vaultWith '2'), .getPrivateKey 1, .invalidateKeyCache, .resume 0,
    .answer 0 (vaultWith '1'), .getPrivateKey 0]

theorem invalidation_effective_calm :
    (∀ x ∈ (served (serve vaultEnv) empty calmMoves).1, FetchedSince x.reply) ∧
      ((served (serve vaultEnv) empty calmMoves).1.head?.map (·.reply)) =
        some (.yields (keyOf '2') 1 1) := by
  refine ⟨@invalidation_effective vaultEnv _ _
    (run_served ⟨⟨⟨⟨⟨⟨⟨trivial, trivial⟩, trivial⟩, trivial⟩, ?_⟩, trivial⟩, trivial⟩, trivial⟩), ?_⟩
  · rintro ⟨who, request, service, startedAt, fetchedAt, key, hphase, -⟩
    cases who with
    | zero => cases hphase
    | succ who => cases hphase
  · decide

/-- An invalidation while the first call's key is on its way: the call that comes after it yields the old
key. -/
def hastyMoves : List KeyMove :=
  [.getPrivateKey 1, .resume 0, .invalidateKeyCache, .answer 0 (vaultWith '1'), .getPrivateKey 0]

theorem not_invalidation_effective :
    ¬ ∀ x ∈ (served (serve vaultEnv) empty hastyMoves).1, FetchedSince x.reply := by
  intro h
  have hyields : (served (serve vaultEnv) empty hastyMoves).1.head?.map (·.reply) =
      some (.yields (keyOf '1') 1 0) := by decide
  obtain ⟨x, hx, hreply⟩ := Option.map_eq_some_iff.mp hyields
  have hsince := h x (List.mem_of_mem_head? hx)
  rw [hreply] at hsince
  exact absurd hsince (by decide)

end KeyProvider

end FacilitatorX402
