import BootcOperator.Effects.Effect

/-!
# Requests as effects

One rule of the program logic for each request of `Controller.Requests`: a
request that fails is no step at all, a request that succeeds is one step.
The first-hand facts about merge patches are here as well.
-/

namespace BootcOperator

open Program

/-- Reads see all earlier writes. -/
abbrev Env.Fresh (env : Env) : Prop :=
  ∀ call cluster, env.view call cluster = cluster

/-! ## Merge patches of an object that has not changed -/

theorem BootcNodeSpec.merge_self (base modified : BootcNodeSpec) :
    base.merge modified base = modified := by
  simp [BootcNodeSpec.merge]

theorem Annotations.merge_self
    {κ : Type} {base modified : Annotations κ}
    (sameOther : modified.other = base.other) :
    base.merge modified base = modified := by
  refine Annotations.eq_of_known_of_other ?_ sameOther.symm
  intro key
  simp [Annotations.merge]

theorem BootcNode.merge_spec (base : BootcNode) (spec : BootcNodeSpec) :
    base.merge { base with spec := spec } base = base.setSpec spec := by
  simp [BootcNode.merge, BootcNode.setSpec, BootcNodeSpec.merge_self,
    Annotations.merge_self]

theorem BootcNode.merge_annotations
    (base : BootcNode) {annotations : Annotations BootcNodeKey}
    (sameOther : annotations.other = base.annotations.other) :
    base.merge { base with annotations := annotations } base =
      { base with annotations := annotations } := by
  simp [BootcNode.merge, BootcNodeSpec.merge_self,
    Annotations.merge_self sameOther]

theorem NodeClaim.merge_annotations
    (base : NodeClaim) {annotations : Annotations KarpenterKey}
    (sameOther : annotations.other = base.annotations.other) :
    base.merge { base with annotations := annotations } base =
      { base with annotations := annotations } := by
  simp [NodeClaim.merge, Annotations.merge_self sameOther]

/-- The result of a read. -/
def Env.answer {α : Type} (env : Env) (call : Call) (look : Cluster → α)
    (cluster : Cluster) : Except ApiError α :=
  match env.fails call with
  | some message => .error ⟨.other, message⟩
  | none => .ok (look (env.view call cluster))

theorem Pass.query_apply
    {α : Type} (env : Env) (call : Call) (look : Cluster → α)
    (s : PassState) :
    Pass.query env call look s = (env.answer call look s.world.api, s) := by
  unfold Pass.query Pass.send Env.answer
  cases env.fails call <;> rfl

theorem Pass.get_apply
    {α : Type} (env : Env) (call : Call) (look : Cluster → Option α)
    (resource name : String) (s : PassState) :
    Pass.get env call look resource name s =
      (match env.answer call look s.world.api with
        | .error e => .error e
        | .ok none =>
            .error ⟨.notFound,
              resource ++ " " ++ name.goQuote ++ " not found"⟩
        | .ok (some object) => .ok object, s) := by
  unfold Pass.get
  rw [bind_apply, Pass.query_apply]
  rcases env.answer call look s.world.api with e | found
  · rfl
  · cases found <;> rfl

section Rules

variable {step : Seen → Seen → Prop} {env : Env} {call : Call} {α : Type}
  {pre : PassState → Prop} {exc : ApiError → PassState → Prop}

variable {name : String} {post : Unit → PassState → Prop}

/-- The facts that a request may not disturb by being sent. -/
def IgnoresIssued (pre : PassState → Prop) : Prop :=
  ∀ s calls, pre s → pre { s with issued := calls }

/-- An error that no caller looks at more closely. -/
def ApiError.Routine (e : ApiError) : Prop :=
  e.kind = .other ∨ e.kind = .notFound

/-- An error postcondition that promises nothing about routine errors. -/
def Tolerant (exc : ApiError → PassState → Prop) : Prop :=
  ∀ e s, e.Routine → exc e s

theorem Tolerant.wrap (stopped : Tolerant exc) (text : String) :
    Tolerant fun e s => exc (e.wrap text) s :=
  fun e s => stopped (e.wrap text) s

/-- No promise is made about the state in which a pass has failed. -/
def AnyError : ApiError → PassState → Prop :=
  fun _ _ => True

theorem anyError (e : ApiError) (s : PassState) : AnyError e s :=
  trivial

theorem AnyError.tolerant : Tolerant AnyError :=
  fun e s _ => anyError e s

/-- A request that fails may end the pass here. -/
def Stops (pre : PassState → Prop) (exc : ApiError → PassState → Prop) :
    Prop :=
  ∀ e s, e.Routine → pre s → exc e s

def Env.Failing (env : Env) : Prop :=
  ∃ call, env.fails call ≠ none

theorem Tolerant.stops (stopped : Tolerant exc) :
    env.Failing → Stops pre exc :=
  fun _ e s routine _ => stopped e s routine

/-- An error postcondition that promises nothing once some request fails. -/
def Yields (env : Env) (exc : ApiError → PassState → Prop) : Prop :=
  env.Failing → Tolerant exc

theorem Tolerant.yields (stopped : Tolerant exc) : Yields env exc :=
  fun _ => stopped

theorem Yields.wrap (stopped : Yields env exc) (text : String) :
    Yields env fun e s => exc (e.wrap text) s :=
  fun failing => (stopped failing).wrap text

theorem Yields.stops (stopped : Yields env exc) :
    env.Failing → Stops pre exc :=
  fun failing e s routine _ => stopped failing e s routine

theorem follows_send
    (stopped : env.Failing → Stops pre exc) :
    (observing step).Follows pre (Pass.send env call) (fun _ s => pre s) exc := by
  unfold Pass.send
  cases failed : env.fails call with
  | none => exact .ret fun _ holds => holds
  | some message =>
      have failing : env.Failing := ⟨call, by simp [failed]⟩
      exact .fail fun s before => stopped failing _ s (.inl rfl) before

theorem follows_sendWrite
    (ignores : IgnoresIssued pre)
    (stopped : env.Failing → Stops pre exc) :
    (observing step).Follows pre (Pass.sendWrite env call)
      (fun _ s => pre s) exc :=
  .bind (.update (fun _ _ => rfl) fun s holds => ignores s _ holds)
    fun _ => follows_send stopped

theorem follows_sendWrite_refused (ignores : IgnoresIssued pre) :
    (observing step).Follows pre (Pass.sendWrite env call)
      (fun _ s => pre s)
      (fun e s => (e.Routine ∧ env.fails call ≠ none) ∧ pre s) := by
  refine .bindVia (fun _ => pre)
    (.update (fun _ _ => rfl) fun s holds => ignores s _ holds) fun _ => ?_
  unfold Pass.send
  cases refused : env.fails call with
  | none => exact .ret fun _ holds => holds
  | some message =>
      exact .fail fun s before => ⟨⟨.inl rfl, by simp⟩, before⟩

/-- A read returns what its snapshot shows. -/
theorem follows_query_view
    {look : Cluster → α} (stopped : env.Failing → Stops pre exc) :
    (observing step).Follows pre (Pass.query env call look)
      (fun value s => pre s ∧ value = look (env.view call s.world.api))
      exc :=
  .bind (follows_send stopped) fun _ => .read fun _ holds => ⟨holds, rfl⟩

theorem follows_query
    {look : Cluster → α}
    (fresh : env.Fresh)
    (stopped : env.Failing → Stops pre exc) :
    (observing step).Follows pre (Pass.query env call look)
      (fun value s => pre s ∧ value = look s.world.api) exc := by
  refine .conseq (follows_query_view stopped) (fun _ holds => holds)
    (fun value s after => ⟨after.1, ?_⟩) fun _ _ holds => holds
  rw [after.2, fresh]

theorem follows_get_view
    {look : Cluster → Option α} {resource : String}
    (stopped : env.Failing → Stops pre exc)
    (absent : ∀ e s, e.Routine → pre s →
      look (env.view call s.world.api) = none → exc e s) :
    (observing step).Follows pre (Pass.get env call look resource name)
      (fun value s => pre s ∧
        look (env.view call s.world.api) = some value) exc := by
  refine .bind (follows_query_view stopped) fun found => ?_
  cases found with
  | none =>
      exact .fail fun s before =>
        absent _ s (.inr rfl) before.1 before.2.symm
  | some value => exact .ret fun s holds => ⟨holds.1, holds.2.symm⟩

theorem follows_get
    {look : Cluster → Option α} {resource : String} (fresh : env.Fresh)
    (stopped : env.Failing → Stops pre exc)
    (absent : ∀ e s, e.Routine → pre s → look s.world.api = none → exc e s) :
    (observing step).Follows pre (Pass.get env call look resource name)
      (fun value s => pre s ∧ look s.world.api = some value) exc := by
  refine .conseq (follows_get_view stopped ?_) (fun _ holds => holds)
    (fun value s after => ⟨after.1, ?_⟩) fun _ _ holds => holds
  · intro e s routine before isNone
    rw [fresh] at isNone
    exact absent e s routine before isNone
  · rw [← after.2, fresh]

theorem follows_note
    {action : Action}
    (seen : ∀ s, pre s → step s.seen (s.perform action s.world).seen)
    (holds : ∀ s, pre s → post () (s.perform action s.world)) :
    (observing step).Follows pre (Pass.note action) post exc :=
  .step seen holds

/-- The patch is stored and adopted. -/
def PassState.patched (s : PassState) (call : Call) (name : String)
    (stored : BootcNode) : PassState :=
  (s.perform (.wrote call)
    (s.world.putBootcNode name (some stored))).setOwned name (some stored)

/-- A patch is applied to whatever BootcNode the API server holds. -/
theorem follows_patchBootcNode_merged
    {base modified : BootcNode} (ignores : IgnoresIssued pre)
    (stopped : env.Failing → Stops pre exc)
    (absent : ∀ e s, e.Routine → pre s →
      s.world.api.bootcNode name = none → exc e s)
    (seen : ∀ s server, pre s → s.world.api.bootcNode name = some server →
      step s.seen
        (s.patched call name (base.merge modified server)).seen)
    (holds : ∀ s server, pre s → s.world.api.bootcNode name = some server →
      post () (s.patched call name (base.merge modified server))) :
    (observing step).Follows pre
      (Pass.patchBootcNode env call name base modified) post exc := by
  refine .bind (follows_sendWrite ignores stopped) fun _ => ?_
  refine .bindRead fun found => ?_
  cases found with
  | none =>
      exact .fail fun s before => 
        absent _ s (.inr rfl) before.1 before.2
  | some server =>
      exact .step (fun s before => seen s server before.1 before.2)
        fun s before => holds s server before.1 before.2

theorem follows_patchBootcNode
    {base modified stored : BootcNode} (ignores : IgnoresIssued pre)
    (stopped : env.Failing → Stops pre exc)
    (known : ∀ s, pre s → s.world.api.bootcNode name = some base)
    (merged : base.merge modified base = stored)
    (seen : ∀ s, pre s → step s.seen (s.patched call name stored).seen)
    (holds : ∀ s, pre s → post () (s.patched call name stored)) :
    (observing step).Follows pre
      (Pass.patchBootcNode env call name base modified) post exc := by
  have isBase : ∀ s server, pre s →
      s.world.api.bootcNode name = some server → base = server := by
    intro s server before found
    exact Option.some.inj ((known s before).symm.trans found)
  refine follows_patchBootcNode_merged ignores stopped ?_ ?_ ?_
  · intro e s _ before absent
    rw [known s before] at absent
    cases absent
  · intro s server before found
    rw [← isBase s server before found, merged]
    exact seen s before
  · intro s server before found
    rw [← isBase s server before found, merged]
    exact holds s before

/-- A Node patch is applied only to the version it was made for. -/
theorem follows_patchNode_locked
    {node modified : Node} {post : Node → PassState → Prop}
    (ignores : IgnoresIssued pre) (stopped : env.Failing → Stops pre exc)
    (refused : ∀ e s, e.Routine → pre s →
      (∀ server, s.world.api.node name = some server →
        server.resourceVersion ≠ node.resourceVersion) → exc e s)
    (locked : ∀ s server, pre s → s.world.api.node name = some server →
      server.resourceVersion = node.resourceVersion → server = node)
    (seen : ∀ s, pre s → s.world.api.node name = some node →
      step s.seen
        (s.perform (.wrote call)
          (s.world.putNode name (node.store modified))).seen)
    (holds : ∀ s, pre s → s.world.api.node name = some node →
      post (node.store modified)
        (s.perform (.wrote call)
          (s.world.putNode name (node.store modified)))) :
    (observing step).Follows pre
      (Pass.patchNode env call name node modified) post exc := by
  refine .bind (follows_sendWrite ignores stopped) fun _ => ?_
  refine .bindRead fun found => ?_
  cases found with
  | none =>
      refine .fail fun s before => refused _ s (.inr rfl) before.1 ?_
      intro server isServer
      rw [before.2] at isServer
      cases isServer
  | some server =>
      refine .ite (fun changed => .fail fun s before =>
        refused _ s (.inl rfl) before.1 ?_) fun unlocked => ?_
      · intro other isOther
        rw [before.2, Option.some.injEq] at isOther
        exact isOther ▸ changed
      refine .bindVia (fun _ => post (server.store modified)) ?_ fun _ =>
        .ret fun _ after => after
      have isNode : ∀ s, pre s → s.world.api.node name = some server →
          server = node := fun s before found =>
        locked s server before found (not_not.mp unlocked)
      refine .step (fun s before => ?_) fun s before => ?_
      · have same := isNode s before.1 before.2
        subst same
        exact seen s before.1 before.2
      · have same := isNode s before.1 before.2
        subst same
        exact holds s before.1 before.2

theorem follows_patchNode
    {node modified : Node} {post : Node → PassState → Prop}
    (ignores : IgnoresIssued pre) (stopped : env.Failing → Stops pre exc)
    (known : ∀ s, pre s → s.world.api.node name = some node)
    (seen : ∀ s, pre s →
      step s.seen
        (s.perform (.wrote call)
          (s.world.putNode name (node.store modified))).seen)
    (holds : ∀ s, pre s →
      post (node.store modified)
        (s.perform (.wrote call)
          (s.world.putNode name (node.store modified)))) :
    (observing step).Follows pre
      (Pass.patchNode env call name node modified) post exc :=
  follows_patchNode_locked ignores stopped
    (fun _ s _ before changed =>
      absurd rfl (changed node (known s before)))
    (fun s _ before found _ =>
      Option.some.inj (found.symm.trans (known s before)))
    (fun s before _ => seen s before) fun s before _ => holds s before

theorem follows_patchNodeClaim
    {claim modified stored : NodeClaim} (ignores : IgnoresIssued pre)
    (stopped : env.Failing → Stops pre exc)
    (known : ∀ s, pre s → s.world.api.nodeClaim name = some claim)
    (merged : claim.merge modified claim = stored) (seen : ∀ s, pre s →
      step s.seen
        (s.perform (.wrote call) (s.world.putNodeClaim name stored)).seen)
    (holds : ∀ s, pre s →
      post () (s.perform (.wrote call)
        (s.world.putNodeClaim name stored))) :
    (observing step).Follows pre
      (Pass.patchNodeClaim env call name claim modified) post exc := by
  refine .bind (follows_sendWrite ignores stopped) fun _ => ?_
  refine .bindRead fun found => ?_
  cases found with
  | none =>
      refine .fail fun s before => ?_
      have present := known s before.1
      rw [before.2] at present
      cases present
  | some server =>
      have isClaim : ∀ s : PassState,
          pre s ∧ s.world.api.nodeClaim name = some server →
            server = claim := by
        intro s before
        have same := known s before.1
        rw [before.2, Option.some.injEq] at same
        exact same
      refine .step (fun s before => ?_) fun s before => ?_
      · have same := isClaim s before
        subst same
        exact merged ▸ seen s before.1
      · have same := isClaim s before
        subst same
        exact merged ▸ holds s before.1

theorem follows_createBootcNode
    {bn : BootcNode} (ignores : IgnoresIssued pre)
    (stopped : env.Failing → Stops pre exc)
    (refused : ∀ e s, e.kind = .alreadyExists → pre s →
      s.world.api.bootcNode name ≠ none → exc e s)
    (seen : ∀ s, pre s → s.world.api.bootcNode name = none →
      step s.seen
        (s.perform (.wrote call)
          (s.world.putBootcNode name (some bn))).seen)
    (holds : ∀ s, pre s → s.world.api.bootcNode name = none →
      post () (s.perform (.wrote call)
        (s.world.putBootcNode name (some bn)))) :
    (observing step).Follows pre
      (Pass.createBootcNode env call name bn) post exc := by
  refine .bind (follows_sendWrite ignores stopped) fun _ => ?_
  refine .bindRead fun found => ?_
  cases found with
  | some _ =>
      exact .fail fun s before =>
        refused _ s rfl before.1 (by simp [before.2])
  | none =>
      exact .step (fun s before => seen s before.1 before.2)
        fun s before => holds s before.1 before.2

theorem follows_deleteBootcNode
    (ignores : IgnoresIssued pre) (stopped : env.Failing → Stops pre exc)
    (seen : ∀ s, pre s →
      step s.seen
        (s.perform (.wrote call) (s.world.putBootcNode name none)).seen)
    (holds : ∀ s, pre s →
      post () (s.perform (.wrote call)
        (s.world.putBootcNode name none))) :
    (observing step).Follows pre
      (Pass.deleteBootcNode env call name) post exc :=
  .bind (follows_sendWrite ignores stopped) fun _ =>
    .step seen holds

end Rules

end BootcOperator
