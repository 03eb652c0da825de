import BootcOperator.Effects.Polling
import BootcOperator.Effects.Requests

/-!
# What a request that returns has done

A `Reconcile` whose parts are known to return can be taken apart request by
request; each rule gives the state that such a request leaves.
-/

namespace BootcOperator

open Program BootcNodePoolReconciler

section Requests

variable {env : Env} {call : Call} {s s' : PassState}

variable {value : Unit} {name : String}

def PassState.sent (s : PassState) (call : Call) : PassState :=
  { s with issued := s.issued ++ [call] }

theorem ok_of_send (returned : Pass.send env call s = (.ok value, s')) :
    s' = s :=
  (readsOnly_send env call).state_eq returned

theorem ok_of_sendWrite
    (returned : Pass.sendWrite env call s = (.ok value, s')) :
    s' = s.sent call := by
  obtain ⟨_, mid, issued, accepted⟩ := ok_of_bind returned
  cases issued
  exact ok_of_send accepted

theorem ok_of_query
    {α : Type} {look : Cluster → α} {value : α}
    (fresh : env.Fresh)
    (returned : Pass.query env call look s = (.ok value, s')) :
    value = look s.world.api ∧ s' = s := by
  rw [Pass.query_apply, Env.answer] at returned
  cases refused : env.fails call with
  | some message => simp [refused] at returned
  | none =>
      simp only [refused, fresh, Prod.mk.injEq, Except.ok.injEq] at returned
      exact ⟨returned.1.symm, returned.2.symm⟩

theorem ok_of_getNode
    {node : Node} (fresh : env.Fresh)
    (returned : Pass.getNode env call name s = (.ok node, s')) :
    s.world.api.node name = some node ∧ s' = s := by
  obtain ⟨found, mid, looked, last⟩ := ok_of_bind returned
  obtain ⟨isFound, rfl⟩ := ok_of_query fresh looked
  cases found with
  | none => cases last
  | some object =>
      cases last
      exact ⟨isFound.symm, rfl⟩

theorem ok_of_patchBootcNode
    {base modified : BootcNode}
    (returned : Pass.patchBootcNode env call name base modified s =
      (.ok value, s')) :
    ∃ server, s.world.api.bootcNode name = some server ∧
      s' = (s.sent call).patched call name (base.merge modified server) := by
  obtain ⟨_, mid, sent, answered⟩ := ok_of_bind returned
  have isSent := ok_of_sendWrite sent
  subst isSent
  have answered := ok_of_bindRead answered
  cases stored : s.world.api.bootcNode name with
  | none =>
      rw [show (s.sent call).world.api.bootcNode name = none from stored]
        at answered
      cases answered
  | some server =>
      rw [show (s.sent call).world.api.bootcNode name = some server from
        stored] at answered
      cases answered
      exact ⟨server, rfl, rfl⟩

theorem ok_of_patchNode
    {node modified stored : Node}
    (returned : Pass.patchNode env call name node modified s =
      (.ok stored, s')) :
    ∃ server, s.world.api.node name = some server ∧
      stored = server.store modified ∧
      s' = (s.sent call).perform (.wrote call)
        (s.world.putNode name stored) := by
  obtain ⟨_, mid, sent, answered⟩ := ok_of_bind returned
  have isSent := ok_of_sendWrite sent
  subst isSent
  have answered := ok_of_bindRead answered
  cases present : s.world.api.node name with
  | none =>
      rw [show (s.sent call).world.api.node name = none from present]
        at answered
      cases answered
  | some server =>
      rw [show (s.sent call).world.api.node name = some server from present]
        at answered
      dsimp only at answered
      split at answered
      · cases answered
      · cases answered
        exact ⟨server, rfl, rfl, rfl⟩

theorem ok_of_patchNodeClaim
    {claim modified : NodeClaim}
    (returned : Pass.patchNodeClaim env call name claim modified s =
      (.ok value, s')) :
    ∃ server, s.world.api.nodeClaim name = some server ∧
      s' = (s.sent call).perform (.wrote call)
        (s.world.putNodeClaim name (claim.merge modified server)) := by
  obtain ⟨_, mid, sent, answered⟩ := ok_of_bind returned
  have isSent := ok_of_sendWrite sent
  subst isSent
  have answered := ok_of_bindRead answered
  cases present : s.world.api.nodeClaim name with
  | none =>
      rw [show (s.sent call).world.api.nodeClaim name = none from present]
        at answered
      cases answered
  | some server =>
      rw [show (s.sent call).world.api.nodeClaim name = some server from
        present] at answered
      cases answered
      exact ⟨server, rfl, rfl⟩

end Requests

end BootcOperator
