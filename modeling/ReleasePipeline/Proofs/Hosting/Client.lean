import ReleasePipeline.Hosting.Client
import ReleasePipeline.Proofs.Publish.Reach

/-!
# `ReleasePipeline.Proofs.Hosting.Client`: a host that is called by sending requests

The client does nothing but send requests. So whatever preorder holds of this from one world to
the next holds of all calls to the host as well (`hostMoves_client`). All calls but one are a
single exchange. The search for a tag goes from page to page, and `findFrom_eq` is what it does
with any page, the last one that can be asked for included.
-/

set_option autoImplicit false

namespace ReleasePipeline.Proofs

open ReleaseClient (exchange)

/-- What a search for a tag does with a page. -/
theorem findFrom_eq {m : Type → Type} [Monad m] (client : ReleaseClient)
    (transport : Http.Transport m) (tag : String) (page more : Nat) :
    client.findFrom transport tag page more =
      client.list transport page >>= fun
        | .error error => pure (.error error)
        | .ok releases =>
          match releases.find? (·.tagName == tag) with
          | some release => pure (.ok (some release))
          | none =>
            if releases.length < pageSize then pure (.ok none)
            else
              match more with
              | 0 => pure (.error (.requestFailed "no further page can be asked for"))
              | more + 1 => client.findFrom transport tag (page + 1) more :=
  ReleaseClient.findFrom.eq_def client transport tag page more

section
variable {σ : Type} {R : σ → σ → Prop} [IsPreorder σ R] {transport : Http.Transport (StateM σ)}
  (hsend : ∀ request, Moves R (transport.send request))
include hsend

/-- Answering a request leads where sending it does. One that cannot be made is not sent. -/
theorem moves_exchange {α : Type} (request : Except HostError Http.Request)
    (answer : Http.Response → Except HostError α) :
    Moves R (exchange transport request answer) := by
  cases request with
  | error error => exact moves_pure _
  | ok request =>
      refine (hsend request).bind fun result => ?_
      cases result <;> exact moves_pure _

/-- So does a search. The induction is on how many pages may follow. -/
theorem moves_findFrom (client : ReleaseClient) (tag : String) (page more : Nat) :
    Moves R (client.findFrom transport tag page more) := by
  -- What is done with the page does not depend on how many may follow.
  induction more using Nat.strongRecOn generalizing page with
  | _ more ih =>
      rw [findFrom_eq]
      refine (moves_exchange hsend _ _).bind fun listed => ?_
      cases listed with
      | error error => exact moves_pure _
      | ok releases =>
          show Moves R (match releases.find? (·.tagName == tag) with
            | some release => _
            | none => _)
          cases releases.find? (·.tagName == tag) with
          | some release => exact moves_pure _
          | none =>
              refine Moves.ite _ (moves_pure _) ?_
              cases more with
              | zero => exact moves_pure _
              | succ more => exact ih more (Nat.lt_succ_self more) (page + 1)

/-- A host that is called by sending requests leads where sending requests does. -/
theorem hostMoves_client (client : ReleaseClient) : HostMoves R (client.host transport) := by
  unfold ReleaseClient.host
  -- Without this the calls are compared by putting their requests together.
  refine ⟨?_, ?_, ?_, ?_⟩ <;> dsimp only
  · intro tag
    exact moves_findFrom hsend client tag 1 (lastPage - 1)
  · intro release
    exact moves_exchange hsend _ _
  · intro release name contents
    exact moves_exchange hsend _ _
  · intro id
    exact moves_exchange hsend _ _

end

end ReleasePipeline.Proofs
