import BootcOperator.Controller.Watches
import BootcOperator.Properties.MembershipExact

/-!
# The watch on Nodes

Every pool for which `syncMembership` does something else after an event of a
Node is requested by the watch.
-/

namespace BootcOperator

open Program BootcNodePoolReconciler

variable {selector : Labels → Bool}

theorem nodup_addRequests
    {requests : List String} (nodup : requests.Nodup) (names : List String) :
    (addRequests requests names).Nodup := by
  induction names generalizing requests with
  | nil => exact nodup
  | cons name rest ih =>
      refine ih ?_
      dsimp only
      split
      · exact nodup
      · next absent =>
          refine List.nodup_append.mpr ⟨nodup, List.nodup_singleton name, ?_⟩
          intro other member last isLast same
          rw [same, List.mem_singleton.mp isLast] at member
          exact absent member

theorem mem_addRequests_iff
    {requests names : List String} {request : String} :
    request ∈ addRequests requests names ↔
      request ∈ requests ∨ request ∈ names := by
  induction names generalizing requests with
  | nil => simp [addRequests]
  | cons name rest ih =>
      refine ih.trans ?_
      by_cases present : name ∈ requests
      · have absorbed : request = name → request ∈ requests :=
          fun same => same ▸ present
        simp only [if_pos present, List.mem_cons]
        tauto
      · simp [if_neg present, or_assoc]

section Requests

variable {r : BootcNodePoolReconciler} {pools : List BootcNodePool}

theorem nodup_mapNodeToPoolRequests
    (bootcNode : Option BootcNode) (node : Node) :
    (r.mapNodeToPoolRequests pools bootcNode node).Nodup := by
  have selected : (addRequests [] (r.matchingPools pools node)).Nodup :=
    nodup_addRequests List.nodup_nil _
  unfold mapNodeToPoolRequests
  cases bootcNode with
  | none => exact selected
  | some bn => exact nodup_addRequests selected _

/-- A pool whose selector matches the Node is requested. -/
theorem requested_of_selected
    {pool : BootcNodePool} {node : Node} (member : pool ∈ pools)
    (valid : r.labelSelectorAsSelector pool.spec.nodeSelector = .ok selector)
    (selected : selector node.labels = true) (bootcNode : Option BootcNode) :
    pool.name ∈ r.mapNodeToPoolRequests pools bootcNode node := by
  have listed : pool.name ∈ r.matchingPools pools node := by
    refine List.mem_map_of_mem (List.mem_filter.mpr ⟨member, ?_⟩)
    simp [nodeSelectorMatchesNode, valid, Except.map, selected]
  unfold mapNodeToPoolRequests
  cases bootcNode with
  | none => exact mem_addRequests_iff.mpr (.inr listed)
  | some bn =>
      exact mem_addRequests_iff.mpr (.inl (mem_addRequests_iff.mpr
        (.inr listed)))

end Requests

/-! ## What a synchronisation does -/

/-- The world with another Node under the name. -/
def World.withNode (w : World) (name : String) (node : Option Node) : World :=
  { w with
    api := { w.api with node := Function.update w.api.node name node } }

/-- The results of a `syncMembership`: the BootcNodes it leaves, with their
annotations, those it returns as owned, the Nodes to which it adds the managed
label, and the pool with the conflicts it has found. -/
structure MembershipResult where
  outcome : Except ApiError Unit
  bootcNode : String → Option BootcNode
  owned : String → Option BootcNode
  labels : String → Bool
  pool : BootcNodePool

/-- The Node bears the label of managed nodes. -/
def managed (node : Option Node) : Bool :=
  node.any fun node => node.labels.managed.isSome

/-- The state in which `syncMembership` is called for a pool. -/
def PassState.startFor (pool : BootcNodePool) (w : World) : PassState :=
  { PassState.start w with pool := pool }

/-- What the membership phase has decided. -/
def resultsOf (w : World) (run : Except ApiError Unit × PassState) :
    MembershipResult :=
  { outcome := run.1
    bootcNode := run.2.world.api.bootcNode
    owned := run.2.owned
    labels := fun name =>
      managed (run.2.world.api.node name) && !managed (w.api.node name)
    pool := run.2.pool }

/-- What `syncMembership` does for a pool in a world. -/
def membershipResult (r : BootcNodePoolReconciler) (env : Env)
    (pool : BootcNodePool) (w : World) : MembershipResult :=
  resultsOf w (r.syncMembership env (.startFor pool w))

/-- What membership reads of a Node: its labels and the startup taint. -/
def Node.relevant (node : Node) : Labels × Bool :=
  (node.labels, nodeHasOsNotReadyTaint node)

theorem conflictMessage_congr
    {first second : List String}
    (same : ∀ name, name ∈ first ↔ name ∈ second) :
    conflictMessage first = conflictMessage second := by
  have permuted : first.dedup.Perm second.dedup :=
    (List.perm_ext_iff_of_nodup first.nodup_dedup second.nodup_dedup).mpr
      fun name => by simpa using same name
  unfold conflictMessage
  congr 2
  refine List.Perm.eq_of_pairwise
    (fun _ _ _ _ forward backward => String.le_antisymm forward backward)
    (List.pairwise_insertionSort _ _) (List.pairwise_insertionSort _ _) ?_
  exact (List.perm_insertionSort _ _).trans
    (permuted.trans (List.perm_insertionSort _ _).symm)

/-- The BootcNode exists and belongs to another pool. -/
def Foreign (pool : BootcNodePool) (bn : Option BootcNode) : Bool :=
  bn.any fun bn => !bn.isControlledBy pool

/-- What a synchronisation leaves under a name: the BootcNode, the owned
BootcNode, and whether the Node has been given the managed label. -/
def memberResult (r : BootcNodePoolReconciler) (pool : BootcNodePool)
    (bn : Option BootcNode) (selected : Option Node) :
    Option BootcNode × Option BootcNode × Bool :=
  if Foreign pool bn then (bn, none, false)
  else
    match selected with
    | none => (none, none, false)
    | some node =>
        (some (memberBootcNode r pool node bn),
          some (memberBootcNode r pool node bn), !node.labels.managed.isSome)

section Result

variable {r : BootcNodePoolReconciler} {env : Env} {s s₂ s₃ s' : PassState}
  {conflicting : List String}

theorem managed_of_labelled
    {node node' : Node}
    (labelled : node'.unversioned = node.labelled.unversioned) :
    managed (some node') = true := by
  have labels : node'.labels = node.labelled.labels := by
    simpa [Node.unversioned] using congrArg Node.labels labelled
  simp [managed, labels, Node.labelled]

/-- A Node that is handed back has not been given the label. -/
theorem managed_of_handedBack
    {bn : BootcNode} {before after : Option Node}
    (handedBack : HandedBack bn before after) :
    (managed after && !managed before) = false := by
  cases before with
  | none =>
      rw [show after = none from handedBack]
      rfl
  | some node =>
      unfold HandedBack at handedBack
      dsimp only at handedBack
      split at handedBack
      · obtain ⟨node', isAfter, same⟩ := handedBack
        rw [isAfter]
        simp [managed, (restored_of_unversioned same).labels]
      · rw [handedBack]
        simp

variable (faithful : env.Faithful s.world)
  (members : MembersSynced r env (selectedNodes selector s.world)
    s.partitioned s₂ s₃ conflicting s')

include faithful members

theorem MembersSynced.result (name : String) :
    (s'.world.api.bootcNode name, s'.owned name,
        managed (s'.world.api.node name) &&
          !managed (s.world.api.node name)) =
      memberResult r s.pool (s.world.api.bootcNode name)
        (selectedNodes selector s.world name) := by
  have split : (s'.world.api.bootcNode name, s'.owned name,
      managed (s'.world.api.node name) && !managed (s.world.api.node name)) =
      ((s'.look name).bootcNode, (s'.look name).owned,
        managed (s'.look name).node && !managed (s.world.api.node name)) :=
    rfl
  rw [split]
  by_cases foreign : Foreign s.pool (s.world.api.bootcNode name) = true
  · unfold memberResult
    rw [if_pos foreign]
    obtain ⟨bn, stored, isForeign⟩ := (Option.any_eq_true _ _).mp foreign
    rw [members.foreign faithful stored (by simpa using isForeign), stored]
    simp
  have controlled : ∀ bn, s.world.api.bootcNode name = some bn →
      bn.isControlledBy s.pool = true := by
    intro bn stored
    simpa [Foreign, stored] using foreign
  unfold memberResult
  rw [if_neg foreign]
  cases matched : selectedNodes selector s.world name with
  | some node =>
      obtain ⟨node', labelled, isLook⟩ :=
        members.joined faithful matched controlled
      have stored := (Option.filter_eq_some_iff.mp matched).1
      rw [isLook, stored]
      dsimp only
      rw [managed_of_labelled labelled]
      simp [managed]
  | none =>
      cases stored : s.world.api.bootcNode name with
      | none =>
          rw [members.others matched stored]
          simp
      | some bn =>
          obtain ⟨after, isLook, handedBack⟩ :=
            members.left faithful matched stored (controlled bn stored)
          rw [isLook]
          simp [managed_of_handedBack handedBack]

end Result

/-- The two worlds have the same BootcNodes, and the same Nodes match, with
the same relevant parts. -/
structure SameMembers (selector : Labels → Bool) (w w' : World) : Prop where
  bootcNode : w'.api.bootcNode = w.api.bootcNode
  selected : ∀ name,
    (selectedNodes selector w' name).map Node.relevant =
      (selectedNodes selector w name).map Node.relevant

theorem memberResult_congr
    {r : BootcNodePoolReconciler} {pool : BootcNodePool}
    {bn : Option BootcNode} {selected selected' : Option Node}
    (same : selected'.map Node.relevant = selected.map Node.relevant) :
    memberResult r pool bn selected' = memberResult r pool bn selected := by
  cases selected with
  | none => rw [Option.map_eq_none_iff.mp same]
  | some node =>
      obtain ⟨node', rfl, relevant⟩ := Option.map_eq_some_iff.mp same
      obtain ⟨labels, taint⟩ := Prod.mk.inj relevant
      have sameNew : r.newBootcNode pool node' = r.newBootcNode pool node := by
        rw [newBootcNode, newBootcNode, taint]
      have sameMember : memberBootcNode r pool node' bn =
          memberBootcNode r pool node bn := by
        cases bn with
        | none => exact sameNew
        | some known => rfl
      simp only [memberResult, sameMember, labels]

section Unchanged

variable {r : BootcNodePoolReconciler} {env : Env} {pool : BootcNodePool}
  {w w' : World}

theorem Env.yields_of_calm
    (unfailing : ∀ call, env.fails call = none) :
    Yields env fun _ _ => False :=
  fun failing => absurd (unfailing failing.choose) failing.choose_spec

/-- A synchronisation in which no request fails returns. -/
theorem returns_syncMembership
    {s : PassState} (unfailing : ∀ call, env.fails call = none)
    (faithful : env.Faithful s.world)
    (valid : r.labelSelectorAsSelector s.pool.spec.nodeSelector =
      .ok selector) :
    ∃ s₂ s₃ conflicting s',
      r.syncMembership env s = (.ok (), s') ∧
      MembersSynced r env (selectedNodes selector s.world) s.partitioned
        s₂ s₃ conflicting s' := by
  have ends := (yields_syncMembership (r := r) (Env.yields_of_calm unfailing)
    faithful valid s rfl).2
  rcases outcome : r.syncMembership env s with ⟨result, s'⟩
  rw [outcome] at ends
  cases result with
  | error e => exact ends.elim
  | ok _ =>
      obtain ⟨s₂, s₃, conflicting, members⟩ := ends
      exact ⟨s₂, s₃, conflicting, s', rfl, members⟩

theorem conflicts_congr
    {matching matching' : String → Option Node}
    {bootcNodes : String → Option BootcNode}
    (same : ∀ name, matching' name = none ↔ matching name = none)
    (conflict : String) :
    (∃ name ref, Conflicts pool matching' bootcNodes name ref ∧
        ref.name = conflict) ↔
      ∃ name ref, Conflicts pool matching bootcNodes name ref ∧
        ref.name = conflict := by
  unfold Conflicts
  simp only [ne_eq, same]

/-- The results depend on the relevant parts of the Nodes that match. -/
theorem membershipResult_congr
    (unfailing : ∀ call, env.fails call = none) (faithful : env.Faithful w)
    (faithful' : env.Faithful w')
    (valid : r.labelSelectorAsSelector pool.spec.nodeSelector = .ok selector)
    (same : SameMembers selector w w') :
    membershipResult r env pool w' = membershipResult r env pool w := by
  obtain ⟨s₂, s₃, conflicting, after, returned, members⟩ :=
    returns_syncMembership (s := .startFor pool w) unfailing faithful valid
  obtain ⟨t₂, t₃, conflicting', after', returned', members'⟩ :=
    returns_syncMembership (s := .startFor pool w') unfailing faithful' valid
  have parts : ∀ name,
      (after'.world.api.bootcNode name, after'.owned name,
        managed (after'.world.api.node name) &&
          !managed (w'.api.node name)) =
      (after.world.api.bootcNode name, after.owned name,
        managed (after.world.api.node name) &&
          !managed (w.api.node name)) := by
    intro name
    refine (members'.result faithful' name).trans
      (.trans ?_ (members.result faithful name).symm)
    have sameBootcNode :
        (PassState.startFor pool w').world.api.bootcNode name =
          (PassState.startFor pool w).world.api.bootcNode name :=
      congrFun same.bootcNode name
    rw [sameBootcNode]
    exact memberResult_congr (same.selected name)
  have matchAlike : ∀ name,
      selectedNodes selector w' name = none ↔
        selectedNodes selector w name = none := by
    intro name
    rw [← Option.map_eq_none_iff (f := Node.relevant), same.selected,
      Option.map_eq_none_iff]
  have conflicts : ∀ name, name ∈ conflicting' ↔ name ∈ conflicting := by
    intro name
    rw [members'.conflict_iff faithful', members.conflict_iff faithful]
    have sameBootcNodes :
        (PassState.startFor pool w').world.api.bootcNode =
          (PassState.startFor pool w).world.api.bootcNode :=
      same.bootcNode
    rw [sameBootcNodes]
    exact conflicts_congr matchAlike name
  have empty : conflicting' = [] ↔ conflicting = [] := by
    simp only [List.eq_nil_iff_forall_not_mem, conflicts]
  have samePool : after'.pool = after.pool := by
    rw [members'.pool_eq, members.pool_eq, conflictMessage_congr conflicts]
    simp only [empty]
    rfl
  unfold membershipResult resultsOf
  rw [returned, returned', samePool]
  congr 1
  · exact funext fun name => (Prod.mk.inj (parts name)).1
  · exact funext fun name => (Prod.mk.inj (Prod.mk.inj (parts name)).2).1
  · exact funext fun name => (Prod.mk.inj (Prod.mk.inj (parts name)).2).2

/-- An invalid selector stops the synchronisation before it reads anything. -/
theorem membershipResult_of_invalid
    {err : String}
    (invalid : r.labelSelectorAsSelector pool.spec.nodeSelector = .error err)
    (sameBootcNodes : w'.api.bootcNode = w.api.bootcNode) :
    membershipResult r env pool w' = membershipResult r env pool w := by
  have stops : ∀ s : PassState, s.pool = pool →
      r.syncMembership env s =
        (.error ⟨.invalidSpec,
          "listing matching nodes: " ++ ("invalid nodeSelector: " ++ err)⟩,
          s) := by
    intro s isPool
    have listing : r.listMatchingNodes env s =
        (.error ⟨.invalidSpec, "invalid nodeSelector: " ++ err⟩, s) := by
      unfold listMatchingNodes
      rw [bind_apply, read_apply]
      dsimp only
      rw [isPool, invalid]
      rfl
    refine bind_apply_of_error ?_
    unfold mapError
    rw [listing]
    rfl
  unfold membershipResult resultsOf
  rw [stops _ rfl, stops _ rfl]
  simp [PassState.startFor, PassState.start, sameBootcNodes]

end Unchanged

section Events

variable {r : BootcNodePoolReconciler} {w : World} {name : String}

theorem selectedNodes_withNode (node : Option Node) (other : String) :
    selectedNodes selector (w.withNode name node) other =
      if other = name then node.filter fun node => selector node.labels
      else selectedNodes selector w other := by
  unfold selectedNodes World.withNode
  dsimp only
  rw [Function.update_apply]
  split <;> rfl

theorem sameMembers_withNode
    {old new : Option Node}
    (same : (new.filter fun node => selector node.labels).map Node.relevant =
      (old.filter fun node => selector node.labels).map Node.relevant) :
    SameMembers selector (w.withNode name old) (w.withNode name new) := by
  refine ⟨rfl, fun other => ?_⟩
  rw [selectedNodes_withNode, selectedNodes_withNode]
  split
  · exact same
  · rfl

theorem relevant_of_dropped
    {old new : Node} (dropped : nodePredicates (.update old new) = false) :
    new.relevant = old.relevant := by
  simp only [nodePredicates, decide_eq_false_iff_not, not_or,
    not_not] at dropped
  exact Prod.ext dropped.1.symm dropped.2.2.2.2.symm

/-- A pool whose selector matches neither object, or whose event is dropped,
finds the same members. -/
theorem sameMembers_of_unwatched
    {event : ObjectEvent Node}
    (unwatched : nodePredicates event = false ∨
      ∀ node ∈ event.mapped, selector node.labels = false) :
    SameMembers selector (w.withNode name event.before)
      (w.withNode name event.after) := by
  refine sameMembers_withNode ?_
  rcases unwatched with dropped | unmatched
  · cases event with
    | create new => cases dropped
    | delete old => cases dropped
    | update old new =>
        have relevant := relevant_of_dropped dropped
        have labels : new.labels = old.labels := congrArg Prod.fst relevant
        simp only [ObjectEvent.before, ObjectEvent.after, Option.filter_some,
          labels]
        split
        · exact congrArg some relevant
        · rfl
  · cases event with
    | create new =>
        have newUnmatched := unmatched new (by simp [ObjectEvent.mapped])
        simp [ObjectEvent.before, ObjectEvent.after, Option.filter_some,
          newUnmatched]
    | delete old =>
        have oldUnmatched := unmatched old (by simp [ObjectEvent.mapped])
        simp [ObjectEvent.before, ObjectEvent.after, Option.filter_some,
          oldUnmatched]
    | update old new =>
        have newUnmatched := unmatched new (by simp [ObjectEvent.mapped])
        have oldUnmatched := unmatched old (by simp [ObjectEvent.mapped])
        simp [ObjectEvent.before, ObjectEvent.after, Option.filter_some,
          newUnmatched, oldUnmatched]

end Events

/-- Every pool whose synchronisation has other results after the event of a
Node is requested, and no pool is requested twice for one object. -/
theorem node_watch_complete
    (r : BootcNodePoolReconciler) (env : Env) (pools : List BootcNodePool)
    (w : World) (name : String) (event : ObjectEvent Node)
    (unfailing : ∀ call, env.fails call = none)
    (faithful : env.Faithful (w.withNode name event.before))
    (faithful' : env.Faithful (w.withNode name event.after)) :
    (∀ pool ∈ pools,
      membershipResult r env pool (w.withNode name event.before) ≠
        membershipResult r env pool (w.withNode name event.after) →
      nodePredicates event = true ∧ ∃ node ∈ event.mapped,
        pool.name ∈
          r.mapNodeToPoolRequests pools (w.api.bootcNode name) node) ∧
    ∀ node ∈ event.mapped,
      (r.mapNodeToPoolRequests pools (w.api.bootcNode name) node).Nodup := by
  refine ⟨fun pool member differs => ?_,
    fun node _ => nodup_mapNodeToPoolRequests _ node⟩
  cases valid : r.labelSelectorAsSelector pool.spec.nodeSelector with
  | error err =>
      have same : membershipResult r env pool (w.withNode name event.after) =
          membershipResult r env pool (w.withNode name event.before) :=
        membershipResult_of_invalid valid rfl
      exact absurd same.symm differs
  | ok selector =>
      have watched : ¬ (nodePredicates event = false ∨
          ∀ node ∈ event.mapped, selector node.labels = false) :=
        fun unwatched => differs (membershipResult_congr unfailing faithful
          faithful' valid (sameMembers_of_unwatched unwatched)).symm
      obtain ⟨passes, matched⟩ := not_or.mp watched
      obtain ⟨node, isMapped, selected⟩ :
          ∃ node ∈ event.mapped, selector node.labels = true := by
        simpa using matched
      exact ⟨by simpa using passes, node, isMapped,
        requested_of_selected member valid selected _⟩

/-- The pool of a new Node creates a BootcNode for it and is requested. -/
theorem node_watch_complete_new_node :
    membershipResult osReconciler (.calm ["n1"] 0) (osPool "os@b")
        (({} : Tables).world.withNode "n1" none) ≠
      membershipResult osReconciler (.calm ["n1"] 0) (osPool "os@b")
        (({} : Tables).world.withNode "n1" (some plainNode)) ∧
    ∃ node ∈ (ObjectEvent.create plainNode).mapped,
      "workers" ∈
        osReconciler.mapNodeToPoolRequests [osPool "os@b"] none node := by
  have differs :
      membershipResult osReconciler (.calm ["n1"] 0) (osPool "os@b")
          (({} : Tables).world.withNode "n1" none) ≠
        membershipResult osReconciler (.calm ["n1"] 0) (osPool "os@b")
          (({} : Tables).world.withNode "n1" (some plainNode)) := by
    intro same
    have created := congrArg (fun result => (result.bootcNode "n1").isSome)
      same
    exact absurd created (by decide +kernel)
  have within : ∀ node : Option Node,
      (({} : Tables).world.withNode "n1" node).Within ["n1"] := by
    intro node
    refine ⟨fun name present => ?_, fun name present => absurd rfl present,
      fun name present => absurd rfl present⟩
    by_contra other
    have absent : (({} : Tables).world.withNode "n1" node).api.node name =
        none := by
      simp [World.withNode, Tables.world, List.mem_singleton.not.mp other]
    exact present absent
  have requested := (node_watch_complete osReconciler (.calm ["n1"] 0)
    [osPool "os@b"] ({} : Tables).world "n1" (.create plainNode)
    (fun _ => rfl) (Env.faithful_calm (within none) (by decide))
    (Env.faithful_calm (within (some plainNode)) (by decide))).1
    (osPool "os@b") (List.mem_singleton.mpr rfl) differs
  exact ⟨differs, requested.2⟩

end BootcOperator
