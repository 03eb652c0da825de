import BootcOperator.Effects.Tables
import BootcOperator.Effects.Transitions
import BootcOperator.Lag.Reconcile
import BootcOperator.Lib.Machine

/-!
# Runs with lagging reads

A run of reconciles whose reads are served from two watch caches, one of the
BootcNodes and one of the Nodes, interleaved with the other actors of the
cluster.  A run keeps all the worlds it has passed, after every single write;
each cache shows one of them and never goes back.

A status patch of a daemon that falls into a pass is one from before it: the
list of the pass may lag behind it, and the patches of the pass are merged with
it.
-/

namespace BootcOperator

open BootcNodePoolReconciler

variable {c : LagContext} {w w' : World} {budget : Option Int}
  {action : Action} {r : BootcNodePoolReconciler}

/-- The node is in a reboot slot. -/
def World.holdsSlot (w : World) (name : String) : Bool :=
  (w.api.bootcNode name).any (·.inRebootSlot)

/-- A moment of a run.  `priors` is history: for a node that holds a slot, the
cordon state of its Node just before the operator cordoned it first during
that slot. -/
structure Moment where
  world : World
  priors : String → Option Bool

def Action.cordons (name : String) : Action → Bool
  | .wrote (.cordonNode cordoned) => cordoned = name
  | _ => false

namespace Moment

variable {moment : Moment} {log : List Entry}

/-- The moment after an entry of the log. -/
def next (moment : Moment) (entry : Entry) : Moment :=
  { world := entry.after
    priors := fun name =>
      if entry.after.holdsSlot name = false then none
      else if entry.action.cordons name ∧ moment.priors name = none then
        moment.world.unschedulable name
      else moment.priors name }

def trace : Moment → List Entry → List (Moment × Entry)
  | _, [] => []
  | moment, entry :: rest => (moment, entry) :: (moment.next entry).trace rest

def after (moment : Moment) (log : List Entry) : Moment :=
  log.foldl next moment

theorem after_world (moment : Moment) (log : List Entry) :
    (moment.after log).world = worldAfter moment.world log := by
  induction log generalizing moment with
  | nil => rfl
  | cons entry rest ih =>
      exact ih (moment.next entry)

theorem transition_of_trace
    {before : Moment} {entry : Entry}
    (member : (before, entry) ∈ moment.trace log) :
    (before.world, entry) ∈ transitions moment.world log := by
  induction log generalizing moment with
  | nil => cases member
  | cons first rest ih =>
      simp only [trace, List.mem_cons, Prod.mk.injEq] at member
      rcases member with ⟨rfl, rfl⟩ | later
      · simp [transitions]
      · have isLater := ih later
        exact List.mem_cons_of_mem _ isLater

theorem invariant_of_trace
    (inv : Moment → Prop)
    (keeps : ∀ before entry, (before, entry) ∈ moment.trace log →
      inv before → inv (before.next entry)) (start : inv moment) :
    (∀ before entry, (before, entry) ∈ moment.trace log → inv before) ∧
      inv (moment.after log) := by
  induction log generalizing moment with
  | nil => exact ⟨by simp [trace], start⟩
  | cons first rest ih =>
      have next : inv (moment.next first) :=
        keeps moment first (by simp [trace]) start
      obtain ⟨around, final⟩ := ih
        (fun before entry member =>
          keeps before entry (by simp [trace, member])) next
      refine ⟨fun before entry member => ?_, final⟩
      simp only [trace, List.mem_cons, Prod.mk.injEq] at member
      rcases member with ⟨rfl, rfl⟩ | later
      · exact start
      · exact around before entry later

def path (moment : Moment) (log : List Entry) : List Moment :=
  (moment.trace log).map Prod.fst ++ [moment.after log]

theorem path_cons (moment : Moment) (entry : Entry) (log : List Entry) :
    moment.path (entry :: log) = moment :: (moment.next entry).path log :=
  rfl

theorem head?_path (moment : Moment) (log : List Entry) :
    (moment.path log).head? = some moment := by
  cases log <;> rfl

/-- A relation between the moments around every action, along a log. -/
theorem isChain_path
    {rel : Moment → Moment → Prop}
    (related : ∀ before entry, (before, entry) ∈ moment.trace log →
      rel before (before.next entry)) :
    (moment.path log).IsChain rel := by
  induction log generalizing moment with
  | nil => exact .singleton _
  | cons first rest ih =>
      rw [path_cons, List.isChain_cons]
      refine ⟨fun second isSecond => ?_, ?_⟩
      · rw [head?_path, Option.mem_some_iff] at isSecond
        exact isSecond ▸ related moment first (by simp [trace])
      · exact ih fun before entry member =>
          related before entry (by simp [trace, member])

end Moment

/-- A run so far.  The positions of the caches count the moments. -/
structure LagRun where
  earlier : List Moment
  now : Moment
  bootcNodeCache : Nat
  nodeCache : Nat

def LagRun.start (w : World) : LagRun :=
  ⟨[], ⟨w, fun _ => none⟩, 0, 0⟩

/-- All moments so far, which the caches may show. -/
def LagRun.moments (s : LagRun) : List Moment :=
  s.earlier ++ [s.now]

inductive LagAction where
  /-- a `Reconcile` with the positions of the caches in it -/
  | reconcile (env : Env) (request : String)
      (bootcNodeCache nodeCache : Nat)
  /-- a write of another actor -/
  | others (world : World)

def LagRun.reconciled (s : LagRun) (r : BootcNodePoolReconciler) (env : Env)
    (request : String) (bootcNodeCache nodeCache : Nat) : LagRun :=
  { earlier := s.earlier ++
      (s.now.trace (r.reconcile env request (.start s.now.world)).2.log).map
        Prod.fst
    now :=
      { s.now.after (r.reconcile env request (.start s.now.world)).2.log with
        world := (r.reconcile env request (.start s.now.world)).2.world }
    bootcNodeCache := bootcNodeCache
    nodeCache := nodeCache }

/-- The run after a write of another actor; a slot that is gone has no prior
state any more. -/
def LagRun.others (s : LagRun) (world : World) : LagRun :=
  { s with
    earlier := s.moments
    now :=
      { world := world
        priors := fun name =>
          if world.holdsSlot name then s.now.priors name else none } }

/-- Runs of reconciles and other actors; the caches do not go back. -/
def lagMachine (r : BootcNodePoolReconciler) : Machine LagRun LagAction where
  step s
    | .reconcile env request bootcNodeCache nodeCache =>
        if s.bootcNodeCache ≤ bootcNodeCache ∧ s.nodeCache ≤ nodeCache then
          some (s.reconciled r env request bootcNodeCache nodeCache)
        else none
    | .others world => some (s.others world)

/-- What a `Reconcile` that starts now works with. -/
def LagRun.context (s : LagRun) (r : BootcNodePoolReconciler) (env : Env)
    (request : String) : LagContext :=
  { reconciler := r
    env := env
    pool := ((env.view .getPool s.now.world.api).pool request).getD .zero
    start := s.now.world
    nodes := s.moments.map (·.world.api.node) }

/-- The reads of a `Reconcile` are served from the caches, and its loop over
the owned BootcNodes visits all of them. -/
structure Cached (s : LagRun) (env : Env) (bootcNodeCache nodeCache : Nat) :
    Prop where
  bootcNodes : ∃ moment, s.moments[bootcNodeCache]? = some moment ∧
    (env.view .listBootcNodes s.now.world.api).bootcNode =
      moment.world.api.bootcNode
  nodes : ∀ call cluster name, (∀ drained, call ≠ .getDraining drained) →
    (env.view call cluster).node name = cluster.node name ∨
      ∃ moment ∈ s.moments.drop nodeCache,
        (env.view call cluster).node name = moment.world.api.node name
  visits : ∀ name,
    (env.view .listBootcNodes s.now.world.api).bootcNode name ≠ none ∨
      (env.view .listNodes s.now.world.api).node name ≠ none →
    name ∈ env.order .classification

/-- What the other actors may do: daemons write the status of BootcNodes, a
BootcNode may be deleted, and a Node that is written gets a resource version
above all it has had. -/
structure Concurrent (s : LagRun) (w : World) : Prop where
  bootcNode : ∀ name bn, w.api.bootcNode name = some bn →
    ∃ old, s.now.world.api.bootcNode name = some old ∧
      bn.ownerReferences = old.ownerReferences ∧
      bn.slotRecord = old.slotRecord
  node : ∀ name node, w.api.node name = some node →
    s.now.world.api.node name = some node ∨
      ∀ moment ∈ s.moments, ∀ old, moment.world.api.node name = some old →
        old.resourceVersion < node.resourceVersion

/-- The steps of a run with two watch caches. -/
def WatchCaches (s : LagRun) : LagAction → Prop
  | .reconcile env _ bootcNodeCache nodeCache =>
      Cached s env bootcNodeCache nodeCache
  | .others w => Concurrent s w

def ListsSlots (r : BootcNodePoolReconciler) (s : LagRun) : LagAction → Prop
  | .reconcile env request _ _ => (s.context r env request).ShowsSlots
  | .others _ => True

/-! ## Every pass as a chain of its effects -/

/-- Every entry of the log is a `LagEffect`. -/
structure LagExplained (c : LagContext) (w : World) (seen : Seen) : Prop where
  current : worldAfter w seen.log = seen.world
  resolved : ∀ maxUnavail, seen.maxUnavail = some maxUnavail →
    ∃ nodeCount,
      c.reconciler.resolveMaxUnavailable c.pool nodeCount = .ok maxUnavail
  effect : ∀ before entry, (before, entry) ∈ transitions w seen.log →
    ∃ budget, (∀ maxUnavail, budget = some maxUnavail →
      ∃ nodeCount,
        c.reconciler.resolveMaxUnavailable c.pool nodeCount =
          .ok maxUnavail) ∧
      LagEffect c budget entry.action before entry.after

theorem lagExplained_start (c : LagContext) (w : World) :
    LagExplained c w (PassState.start w).seen := by
  refine ⟨rfl, ?_, ?_⟩
  · intro maxUnavail isResolved
    cases isResolved
  · intro before entry member
    cases member

theorem LagExplained.step
    {seen seen' : Seen} (explained : LagExplained c w seen)
    (step : LagStep c seen seen') :
    LagExplained c w seen' := by
  cases step with
  | halt =>
      exact ⟨explained.current, explained.resolved, explained.effect⟩
  | resolveMaxUnavailable result =>
      refine ⟨explained.current, fun maxUnavail isResolved => ?_,
        explained.effect⟩
      cases isResolved
      exact result
  | act effect =>
      refine ⟨worldAfter_append w _ _, explained.resolved,
        fun before entry member => ?_⟩
      rw [transitions_append, List.mem_append, transitions, transitions,
        List.mem_singleton] at member
      rcases member with earlier | last
      · exact explained.effect before entry earlier
      · cases last
        rw [explained.current]
        exact ⟨seen.maxUnavail, explained.resolved, effect⟩

/-- Each Node is an older version of the later one. -/
def World.Precedes (w w' : World) : Prop :=
  ∀ name node server, w.api.node name = some node →
    w'.api.node name = some server → node.IsVersionOf server

theorem World.Precedes.refl (w : World) : w.Precedes w := by
  intro name node server isNode isServer
  rw [isNode, Option.some.injEq] at isServer
  exact isServer ▸ .refl node

theorem LagEffect.node (effect : LagEffect c budget action w w') :
    w'.api.node = w.api.node ∨ ∃ name node modified,
      w.api.node name = some node ∧
        w'.api.node = (w.putNode name (node.store modified)).api.node := by
  cases effect with
  | aside _ _ same => exact .inl same
  | patchNode _ stored _ => exact .inr ⟨_, _, _, stored, rfl⟩
  | restoreNode stored _ => exact .inr ⟨_, _, _, stored, rfl⟩
  | cordonNode stored _ _ => exact .inr ⟨_, _, _, stored, rfl⟩
  | createBootcNode _ _ => exact .inl rfl
  | patchBootcNode _ _ _ _ _ same => exact .inl same
  | freeSlot _ _ _ _ => exact .inl rfl
  | deleteBootcNode => exact .inl rfl
  | assignSlot _ _ _ _ _ _ _ _ => exact .inl rfl

theorem World.Precedes.effect
    {old : World} (precedes : old.Precedes w)
    (effect : LagEffect c budget action w w') : old.Precedes w' := by
  intro name node server isNode isServer
  rcases effect.node with same | ⟨changed, stored, modified, isStored, same⟩
  · rw [same] at isServer
    exact precedes name node server isNode isServer
  · rw [same, w.putNode_node] at isServer
    split_ifs at isServer with isChanged
    · cases isServer
      subst isChanged
      exact (precedes name node stored isNode isStored).store modified
    · exact precedes name node server isNode isServer

def LagRun.Versioned (s : LagRun) : Prop :=
  ∀ moment ∈ s.moments, moment.world.Precedes s.now.world

theorem LagRun.versioned_start (w : World) : (LagRun.start w).Versioned := by
  intro moment member
  simp only [LagRun.moments, LagRun.start, List.nil_append,
    List.mem_singleton] at member
  exact member ▸ .refl w

section Reconcile

variable (r : BootcNodePoolReconciler) {s : LagRun} {env : Env}
  (request : String) {bootcNodeCache nodeCache : Nat}

theorem LagRun.admissible
    (versioned : s.Versioned) (cached : Cached s env bootcNodeCache nodeCache)
    (shows : (s.context r env request).ShowsSlots) :
    LagContext.Admissible (s.context r env request) where
  serves call cluster name matters := by
    refine (cached.nodes call cluster name matters).imp id ?_
    rintro ⟨moment, member, same⟩
    exact ⟨moment.world.api.node, List.mem_map.mpr
      ⟨moment, List.mem_of_mem_drop member, rfl⟩, same⟩
  shows := shows
  visits := cached.visits
  versions snapshot member name node server isNode isServer := by
    obtain ⟨moment, isMoment, rfl⟩ := List.mem_map.mp member
    exact versioned moment isMoment name node server isNode isServer

/-- The pass of a `Reconcile` whose list is up to date in the slots. -/
theorem LagRun.explained
    (versioned : s.Versioned) (cached : Cached s env bootcNodeCache nodeCache)
    (shows : (s.context r env request).ShowsSlots) :
    LagExplained (s.context r env request) s.now.world
      (r.reconcile env request (.start s.now.world)).2.seen := by
  have follows := lag_reconcile request
    (s.admissible r request versioned cached shows) ?_
  · exact Program.Regime.chain_invariant
      (LagExplained (s.context r env request) s.now.world)
      (fun step explained => explained.step step)
      (follows (.start s.now.world) rfl).1 (lagExplained_start _ _)
  · intro pool isPool
    have shown : (env.view .getPool s.now.world.api).pool request =
        some pool := isPool
    simp [LagRun.context, shown]

end Reconcile

/-! ## The steps of a run -/

/-- What a step of a run does. -/
inductive LagStepped (r : BootcNodePoolReconciler) (s : LagRun) :
    LagAction → LagRun → Prop
  | reconcile {env : Env} {request : String} {bootcNodeCache nodeCache : Nat}
      {log : List Entry} :
      (r.reconcile env request (.start s.now.world)).2.log = log →
      (∀ before entry, (before, entry) ∈ s.now.trace log →
        ∃ budget, (∀ maxUnavail, budget = some maxUnavail →
          ∃ nodeCount,
            r.resolveMaxUnavailable (s.context r env request).pool
              nodeCount = .ok maxUnavail) ∧
          LagEffect (s.context r env request) budget entry.action
            before.world entry.after) →
      LagStepped r s (.reconcile env request bootcNodeCache nodeCache)
        ⟨s.earlier ++ (s.now.trace log).map Prod.fst, s.now.after log,
          bootcNodeCache, nodeCache⟩
  | others {w : World} :
      Concurrent s w →
      LagStepped r s (.others w) (s.others w)

theorem lagStepped_of_step
    {s s' : LagRun} {action : LagAction} (versioned : s.Versioned)
    (caches : WatchCaches s action) (lists : ListsSlots r s action)
    (stepped : (lagMachine r).step s action = some s') :
    LagStepped r s action s' := by
  cases action with
  | others w =>
      cases stepped
      exact .others caches
  | reconcile env request bootcNodeCache nodeCache =>
      simp only [lagMachine] at stepped
      split_ifs at stepped
      cases stepped
      have explained := s.explained r request versioned caches lists
      have isNow : { s.now.after
            (r.reconcile env request (.start s.now.world)).2.log with
          world := (r.reconcile env request (.start s.now.world)).2.world } =
          s.now.after (r.reconcile env request (.start s.now.world)).2.log := by
        have current := (s.now.after_world _).trans explained.current
        change Moment.mk _ _ = Moment.mk _ _
        rw [Moment.mk.injEq]
        exact ⟨current.symm, rfl⟩
      rw [LagRun.reconciled, isNow]
      refine .reconcile rfl fun before entry member => ?_
      exact explained.effect before.world entry
        (Moment.transition_of_trace member)

/-- The moments after a pass go on from those before it. -/
theorem LagRun.moments_append_path (s : LagRun) (log : List Entry) :
    s.earlier ++ (s.now.trace log).map Prod.fst ++ [s.now.after log] =
      s.moments ++ (s.now.path log).tail := by
  have split := List.cons_head?_tail (s.now.head?_path log)
  rw [LagRun.moments, List.append_assoc, List.append_assoc,
    List.singleton_append, split, Moment.path]

theorem isChain_moments
    {rel : Moment → Moment → Prop} {s : LagRun} {log : List Entry}
    (chain : s.moments.IsChain rel)
    (related : ∀ before entry, (before, entry) ∈ s.now.trace log →
      rel before (before.next entry)) :
    (s.earlier ++ (s.now.trace log).map Prod.fst ++
      [s.now.after log]).IsChain rel := by
  have more := Moment.isChain_path related
  rw [← List.cons_head?_tail (s.now.head?_path log)] at more
  rw [s.moments_append_path, LagRun.moments, List.append_assoc,
    List.singleton_append]
  exact List.isChain_split.mpr ⟨chain, more⟩

section Versions

variable {s s' : LagRun} {action : LagAction}

/-- The worlds of a log precede the one at its end. -/
theorem Moment.precedes_after
    {moment : Moment} {log : List Entry}
    (effects : ∀ before entry, (before, entry) ∈ moment.trace log →
      ∃ budget, LagEffect c budget entry.action before.world entry.after)
    {old : Moment} (member : old ∈ moment.path log) :
    old.world.Precedes (moment.after log).world := by
  have onwards : ∀ (first : Moment) (rest : List Entry),
      (∀ before entry, (before, entry) ∈ first.trace rest →
        ∃ budget, LagEffect c budget entry.action before.world
          entry.after) →
      ∀ world : World, world.Precedes first.world →
        world.Precedes (first.after rest).world := by
    intro first rest steps world precedes
    refine (Moment.invariant_of_trace
      (fun moment => world.Precedes moment.world) ?_ precedes).2
    intro before entry isStep holds
    obtain ⟨_, effect⟩ := steps before entry isStep
    exact holds.effect effect
  induction log generalizing moment with
  | nil =>
      exact List.mem_singleton.mp member ▸ .refl _
  | cons first rest ih =>
      rw [path_cons, List.mem_cons] at member
      rcases member with rfl | later
      · exact onwards old (first :: rest) effects _ (.refl _)
      · exact ih (fun before entry isStep =>
          effects before entry (by simp [trace, isStep])) later

theorem LagStepped.versioned
    (stepped : LagStepped r s action s') (versioned : s.Versioned) :
    s'.Versioned := by
  cases stepped with
  | @reconcile env request _ _ log _ effects =>
      have steps : ∀ before entry, (before, entry) ∈ s.now.trace log →
          ∃ budget, LagEffect (s.context r env request) budget entry.action
            before.world entry.after := by
        intro before entry member
        obtain ⟨budget, _, effect⟩ := effects before entry member
        exact ⟨budget, effect⟩
      intro moment member
      simp only [LagRun.moments, List.append_assoc] at member
      rcases List.mem_append.mp member with before | during
      · have start := versioned moment
          (by simp [LagRun.moments, before])
        refine (Moment.invariant_of_trace
          (fun later => moment.world.Precedes later.world) ?_ start).2
        intro before entry isStep holds
        obtain ⟨_, effect⟩ := steps before entry isStep
        exact holds.effect effect
      · exact Moment.precedes_after steps during
  | @others w concurrent =>
      intro moment member name node server isNode isServer
      rcases List.mem_append.mp member with before | isNow
      · rcases concurrent.node name server isServer with same | newer
        · exact versioned moment before name node server isNode same
        · have older := newer moment before node isNode
          exact ⟨older.le, fun equal => absurd equal older.ne⟩
      · rw [List.mem_singleton] at isNow
        subst isNow
        exact World.Precedes.refl w name node server isNode isServer

end Versions

section

variable {bootcNodeCache nodeCache : Nat} {s : LagRun}

theorem lagMachine_reconcile
    (r : BootcNodePoolReconciler) (s : LagRun) (env : Env) (request : String)
    (forwards : s.bootcNodeCache ≤ bootcNodeCache ∧ s.nodeCache ≤ nodeCache) :
    (lagMachine r).step s (.reconcile env request bootcNodeCache nodeCache) =
      some (s.reconciled r env request bootcNodeCache nodeCache) :=
  if_pos forwards

theorem Env.listing_node
    (names : List String) (bootcNode : String → Option BootcNode)
    (call : Call) (cluster : Cluster) :
    ((Env.listing names bootcNode).view call cluster).node =
      cluster.node := by
  simp only [Env.listing]
  split_ifs <;> rfl

/-- Such a list is one of a cache when it shows a moment of the run. -/
theorem cached_listing
    {names : List String} {bootcNode : String → Option BootcNode}
    (shown : ∃ moment, s.moments[bootcNodeCache]? = some moment ∧
      bootcNode = moment.world.api.bootcNode)
    (visits : ∀ name, bootcNode name ≠ none ∨
      s.now.world.api.node name ≠ none → name ∈ names) :
    Cached s (.listing names bootcNode) bootcNodeCache nodeCache where
  bootcNodes := shown
  nodes call cluster name _ := by
    rw [Env.listing_node]
    exact .inl rfl
  visits name listed := by
    rw [Env.listing_node] at listed
    exact visits name listed

/-- A pass that has written something leaves the moments before it. -/
theorem getElem?_moments_reconciled
    {env : Env} {request : String} {i : Nat} {moment : Moment}
    (shown : s.moments[i]? = some moment)
    (wrote : (r.reconcile env request (.start s.now.world)).2.log ≠ []) :
    (s.reconciled r env request bootcNodeCache nodeCache).moments[i]? =
      some moment := by
  obtain ⟨entry, rest, isLog⟩ := List.exists_cons_of_ne_nil wrote
  have isPrefix : s.moments <+:
      (s.reconciled r env request bootcNodeCache nodeCache).moments := by
    simp only [LagRun.moments, LagRun.reconciled, isLog, Moment.trace,
      List.map_cons, List.append_assoc]
    exact (List.prefix_append_right_inj _).mpr (by simp)
  obtain ⟨more, isMore⟩ := isPrefix
  obtain ⟨inside, _⟩ := List.getElem?_eq_some_iff.mp shown
  rw [← isMore, List.getElem?_append_left inside]
  exact shown

theorem LagEffect.node_eq_none
    (effect : LagEffect c budget action w w') {name : String}
    (absent : w.api.node name = none) : w'.api.node name = none := by
  rcases effect.node with same | ⟨changed, node, modified, stored, same⟩
  · rwa [same]
  · rw [same, w.putNode_node]
    split_ifs with isChanged
    · rw [isChanged, stored] at absent
      cases absent
    · exact absent

/-- A pass whose list is up to date in the slots makes no Nodes. -/
theorem node_of_reconciled
    {env : Env} {request : String} {names : List String}
    (versioned : s.Versioned) (cached : Cached s env bootcNodeCache nodeCache)
    (shows : (s.context r env request).ShowsSlots)
    (within : ∀ name, s.now.world.api.node name ≠ none → name ∈ names) :
    ∀ name, (s.reconciled r env request bootcNodeCache
      nodeCache).now.world.api.node name ≠ none → name ∈ names := by
  intro name present
  by_contra unlisted
  have explained := s.explained r request versioned cached shows
  have start : s.now.world.api.node name = none :=
    not_not.mp fun stored => unlisted (within name stored)
  have final := (invariant_of_transitions
    (fun w => w.api.node name = none) (fun before entry member absent => by
      obtain ⟨_, _, effect⟩ := explained.effect before entry member
      exact effect.node_eq_none absent) start).2
  rw [explained.current] at final
  exact present final

end

end BootcOperator
