import FacilitatorX402.Library.Answered
import FacilitatorX402.Sdk.FacilitatorClient

/-!
# The attempts of the client

An attempt is left with a value, with an error, or for the next attempt, and never both with an error
and for the next attempt: so the attempts of a request are one loop, in which each outcome but the last
is one that may be tried again.
-/

namespace FacilitatorX402.Sdk

open Interact

/-- How one `fetch` ends: it fails, or it is answered. -/
abbrev FetchOutcome := Except TransportFailure HttpResponse

/-- The n-th `fetch` ends with the n-th outcome. -/
def fetches (outcomes : Nat → FetchOutcome) (n : Nat) (_http : HttpRequest) :
    Except ClientError HttpResponse := (outcomes n).mapError .fetch

/-- What a client ends with says how the `fetch` has ended. -/
inductive Describes : FetchOutcome → Except ClientError (Option Json) → Prop
  | value {response : HttpResponse} {json : Json} (hok : response.ok = true)
      (hbody : response.body = .ok json) : Describes (.ok response) (.ok (some json))
  | aborted : Describes (.error .aborted) (.error .timeout)
  | network (message : String) :
      Describes (.error (.network message)) (.error (.network ("Network error: " ++ message)))
  | unreadable {response : HttpResponse} {message : String} (hbody : response.body = .error message) :
      Describes (.ok response) (.error (.network ("Network error: " ++ message)))
  | refused {response : HttpResponse} {json : Json} {error : FacilitatorAPIError}
      (hok : response.ok = false) (hbody : response.body = .ok json)
      (hdecoded : Package.decodeRefusal response.status json = .ok error) :
      Describes (.ok response) (.error (.api error))
  | undecodable {response : HttpResponse} {json : Json} {message : String} (hok : response.ok = false)
      (hbody : response.body = .ok json)
      (hdecoded : Package.decodeRefusal response.status json = .error message) :
      Describes (.ok response) (.error (.network ("Network error: " ++ message)))

/-- A success with a body that is read ends with the body. -/
theorem Describes.eq_value {response : HttpResponse} {json : Json}
    {result : Except ClientError (Option Json)} (h : Describes (.ok response) result)
    (hok : response.ok = true) (hbody : response.body = .ok json) : result = .ok (some json) := by
  cases h with
  | value _ hread =>
      rw [hbody] at hread
      cases hread
      rfl
  | unreadable hread =>
      rw [hbody] at hread
      cases hread
  | refused hrefused _ _ =>
      rw [hok] at hrefused
      cases hrefused
  | undecodable hrefused _ _ =>
      rw [hok] at hrefused
      cases hrefused

/-- An outcome after which nothing is tried: an abort, a value, or an error that is not retryable. -/
inductive IsLast : FetchOutcome → Prop
  | aborted : IsLast (.error .aborted)
  | value {response : HttpResponse} {json : Json} (hok : response.ok = true)
      (hbody : response.body = .ok json) : IsLast (.ok response)
  | refused {response : HttpResponse} {json : Json} {error : FacilitatorAPIError}
      (hok : response.ok = false) (hbody : response.body = .ok json)
      (hdecoded : Package.decodeRefusal response.status json = .ok error)
      (hretryable : Package.FacilitatorAPIError.isRetryable error = false) : IsLast (.ok response)

namespace FacilitatorClient

variable {client : FacilitatorClient} {attempt : Nat}

/-- How an attempt may be left. -/
inductive Leaves (client : FacilitatorClient) (attempt : Nat) (outcome : FetchOutcome) :
    Except ClientError (Completion (attempt < client.retries)) → Prop
  | value {json : Json} (h : Describes outcome (.ok (some json))) :
      Leaves client attempt outcome (.ok (.value json))
  | next (hretry : attempt < client.retries) (h : ¬ IsLast outcome) :
      Leaves client attempt outcome (.ok (.next hretry))
  | error {error : ClientError} (h : Describes outcome (.error error)) :
      Leaves client attempt outcome (.error error)

/-- An error that is neither decoded nor an abort is tried again while attempts are left. -/
theorem leaves_otherError {outcome : FetchOutcome} {message : String} (hlast : ¬ IsLast outcome)
    (hdescribes : Describes outcome (.error (.network ("Network error: " ++ message)))) :
    Leaves client attempt outcome (client.catchClause attempt (otherError message)) := by
  rw [otherError, catchClause]
  by_cases hretry : attempt < client.retries
  · rw [dif_pos hretry]
    exact .next hretry hlast
  · rw [dif_neg hretry]
    exact .error hdescribes

theorem completion_leaves (client : FacilitatorClient) (attempt : Nat) (outcome : FetchOutcome) :
    Leaves client attempt outcome (client.completion attempt (outcome.mapError .fetch)) := by
  cases outcome with
  | error failure =>
      cases failure with
      | aborted => exact .error .aborted
      | network message => exact leaves_otherError nofun (.network message)
  | ok response =>
      simp only [Except.mapError, completion, tryBlock]
      cases hbody : response.body with
      | error message =>
          refine leaves_otherError ?_ (.unreadable hbody)
          rintro (_ | ⟨-, hvalue⟩ | ⟨-, hrefused, -, -⟩)
          · rw [hbody] at hvalue
            cases hvalue
          · rw [hbody] at hrefused
            cases hrefused
      | ok json =>
          cases hok : response.ok with
          | true =>
              simp only [if_true]
              exact .value (.value hok hbody)
          | false =>
              simp only [Bool.false_eq_true, if_false]
              cases hdecoded : Package.decodeRefusal response.status json with
              | error message =>
                  refine leaves_otherError ?_ (.undecodable hok hbody hdecoded)
                  rintro (_ | ⟨hvalue, -⟩ | ⟨-, hrefused, hdecoded', -⟩)
                  · rw [hok] at hvalue
                    cases hvalue
                  · rw [hbody] at hrefused
                    cases hrefused
                    rw [hdecoded] at hdecoded'
                    cases hdecoded'
              | ok apiErr =>
                  by_cases hretry :
                      Package.FacilitatorAPIError.isRetryable apiErr = true ∧ attempt < client.retries
                  · simp only [dif_pos hretry]
                    refine .next hretry.2 ?_
                    rintro (_ | ⟨hvalue, -⟩ | ⟨-, hrefused, hdecoded', hretryable⟩)
                    · rw [hok] at hvalue
                      cases hvalue
                    · rw [hbody] at hrefused
                      cases hrefused
                      rw [hdecoded] at hdecoded'
                      cases hdecoded'
                      rw [hretry.1] at hretryable
                      cases hretryable
                  · simp only [dif_neg hretry]
                    exact .error (.refused hok hbody hdecoded)

theorem attempt_fetch_bind (http : HttpRequest)
    (f : Except ClientError HttpResponse → ClientProgram (Option Json)) :
    (fetch http).attempt.bind f = .perform http f :=
  @Program.attempt_call_bind clientInterface _ _ http f

theorem request_eq (client : FacilitatorClient) (http : HttpRequest) (attempt : Nat) :
    client.request http attempt = .perform http fun outcome =>
      match client.completion attempt outcome with
      | .ok (.value json) => .ret (some json)
      | .ok (.next _) => client.request http (attempt + 1)
      | .error error => .throw error := by
  rw [request]
  exact attempt_fetch_bind http _

/-- A request from one of its attempts on, from one of the outcomes on. -/
theorem answered_request (client : FacilitatorClient) (http : HttpRequest)
    (outcomes : Nat → FetchOutcome) (attempt n : Nat) :
    ∃ more ≤ client.retries - attempt,
      ((client.request http attempt).answered (fetches outcomes) n).1 = List.replicate (more + 1) http ∧
      (∀ i < more, ¬ IsLast (outcomes (n + i))) ∧
      Describes (outcomes (n + more))
        ((client.request http attempt).answered (fetches outcomes) n).2 := by
  induction hleft : client.retries - attempt using Nat.strongRecOn generalizing attempt n with
  | ind left ih =>
      have hleaves := completion_leaves client attempt (outcomes n)
      rw [request_eq, Program.answered_perform]
      simp only [fetches]
      generalize client.completion attempt ((outcomes n).mapError .fetch) = completion at hleaves ⊢
      cases hleaves with
      | value h => exact ⟨0, Nat.zero_le _, rfl, fun i hi => absurd hi (Nat.not_lt_zero i), h⟩
      | error h => exact ⟨0, Nat.zero_le _, rfl, fun i hi => absurd hi (Nat.not_lt_zero i), h⟩
      | next hretry h =>
          obtain ⟨more, hmore, hops, hbefore, hlast⟩ :=
            ih (client.retries - (attempt + 1)) (by omega) (attempt + 1) (n + 1) rfl
          refine ⟨more + 1, by omega, ?_, ?_, ?_⟩
          · exact congrArg (http :: ·) hops
          · intro i hi
            cases i with
            | zero => exact h
            | succ i =>
                have hi' := hbefore i (by omega)
                rwa [show n + (i + 1) = n + 1 + i by omega]
          · rwa [show n + (more + 1) = n + 1 + more by omega]

/-- **The request loop is bounded and honest.** A request sends itself at most `retries + 1` times. No
outcome but the last is an abort, a value or an error that is not retryable, and what the client ends with
describes the last. -/
theorem request_bounded_honest (client : FacilitatorClient) (http : HttpRequest)
    (outcomes : Nat → FetchOutcome) :
    let run := (client.request http 0).answered (fetches outcomes) 0
    ∃ last ≤ client.retries, run.1 = List.replicate (last + 1) http ∧
      (∀ i < last, ¬ IsLast (outcomes i)) ∧ Describes (outcomes last) run.2 := by
  obtain ⟨last, hlast, hops, hbefore, hdescribes⟩ := answered_request client http outcomes 0 0
  refine ⟨last, hlast, hops, fun i hi => ?_, ?_⟩
  · have hlast := hbefore i hi
    rwa [Nat.zero_add] at hlast
  · rwa [Nat.zero_add] at hdescribes

/-! ### The loop of both clients -/

/-- An attempt is left as the loop goes on. -/
inductive Agrees (client : FacilitatorClient) (attempt : Nat) :
    Received → Except ClientError (Completion (attempt < client.retries)) → Prop
  | done (json : Json) : Agrees client attempt (.done (some json)) (.ok (.value json))
  | retry (error : ClientError) (h : attempt < client.retries) :
      Agrees client attempt (.retry error) (.ok (.next h))
  | giveUp (error : ClientError) (h : ¬ attempt < client.retries) :
      Agrees client attempt (.retry error) (.error error)
  | fail (error : ClientError) : Agrees client attempt (.fail error) (.error error)

theorem agrees_otherError (message : String) :
    Agrees client attempt (.retry (.network ("Network error: " ++ message)))
      (client.catchClause attempt (otherError message)) := by
  rw [otherError, catchClause]
  by_cases hretry : attempt < client.retries
  · rw [dif_pos hretry]
    exact .retry _ hretry
  · rw [dif_neg hretry]
    exact .giveUp _ hretry

theorem completion_agrees (client : FacilitatorClient) (attempt : Nat)
    (outcome : Except ClientError HttpResponse) :
    Agrees client attempt (Package.received outcome) (client.completion attempt outcome) := by
  cases outcome with
  | error error =>
      cases error with
      | fetch failure =>
          cases failure with
          | aborted => exact .fail _
          | network message => exact agrees_otherError message
      | _ => exact .fail _
  | ok response =>
      simp only [Package.received, completion, tryBlock]
      cases response.body with
      | error message => exact agrees_otherError message
      | ok json =>
          cases response.ok with
          | true =>
              simp only [if_true]
              exact .done json
          | false =>
              simp only [Bool.false_eq_true, if_false, Package.receivedRefusal]
              cases Package.decodeRefusal response.status json with
              | error message => exact agrees_otherError message
              | ok apiErr =>
                  by_cases hretryable : Package.FacilitatorAPIError.isRetryable apiErr = true
                  · by_cases hretry : attempt < client.retries
                    · simp only [hretryable, hretry, and_self, dite_true, if_true]
                      exact .retry _ hretry
                    · simp only [hretryable, hretry, and_false, dite_false, if_true]
                      exact .giveUp _ hretry
                  · simp only [hretryable]
                    exact .fail _

/-- The two calls of `request` by itself are one loop. -/
theorem request_eq_loop (client : FacilitatorClient) (http : HttpRequest) (attempt : Nat) :
    client.request http attempt =
      Sdk.request Package.received http (client.retries - attempt) := by
  induction hleft : client.retries - attempt generalizing attempt with
  | zero =>
      rw [request_eq, Sdk.request, attempt_fetch_bind]
      congr 1
      funext outcome
      have hagrees := completion_agrees client attempt outcome
      generalize client.completion attempt outcome = completion at hagrees ⊢
      generalize Package.received outcome = received at hagrees ⊢
      cases hagrees with
      | done json => rfl
      | fail error => rfl
      | giveUp error h => rfl
      | retry error h => exact absurd h (by omega)
  | succ left ih =>
      rw [request_eq, Sdk.request, attempt_fetch_bind]
      congr 1
      funext outcome
      have hagrees := completion_agrees client attempt outcome
      generalize client.completion attempt outcome = completion at hagrees ⊢
      generalize Package.received outcome = received at hagrees ⊢
      cases hagrees with
      | done json => rfl
      | fail error => rfl
      | giveUp error h => exact absurd h (by omega)
      | retry error h => exact ih (attempt + 1) (by omega)

end FacilitatorClient

end FacilitatorX402.Sdk
