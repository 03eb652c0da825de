import BootcOperator.Effects.Reconcile
import BootcOperator.Lib.Machine

/-!
# The single writes of a pass

The log of a pass holds the world after every action.  `transitions` pairs
each entry with the world before it, and `explained_of_reconcile` says that
every such pair is an effect of the pass.  `clusterMachine` runs passes, each up
to some of its actions, in turn with everybody else.
-/

namespace BootcOperator

/-- Each entry of the log with the world before it. -/
def transitions : World → List Entry → List (World × Entry)
  | _, [] => []
  | w, entry :: rest => (w, entry) :: transitions entry.after rest

/-- The world after the last entry. -/
def worldAfter : World → List Entry → World
  | w, [] => w
  | _, entry :: rest => worldAfter entry.after rest

/-- The worlds that a pass goes through. -/
def PassState.moments (s : PassState) : List World :=
  s.log.map Entry.after ++ [s.world]

theorem transitions_append
    (w : World) (log more : List Entry) :
    transitions w (log ++ more) =
      transitions w log ++ transitions (worldAfter w log) more := by
  induction log generalizing w with
  | nil => rfl
  | cons first rest ih =>
      simp only [List.cons_append, transitions, worldAfter,
        ih]

theorem worldAfter_append
    (w : World) (log more : List Entry) :
    worldAfter w (log ++ more) = worldAfter (worldAfter w log) more := by
  induction log generalizing w with
  | nil => rfl
  | cons first rest ih =>
      exact ih first.after

section

variable {log : List Entry} {w : World}

theorem invariant_of_transitions
    (inv : World → Prop)
    (keeps : ∀ before entry, (before, entry) ∈ transitions w log →
      inv before → inv entry.after) (start : inv w) :
    (∀ before entry, (before, entry) ∈ transitions w log →
      inv before ∧ inv entry.after) ∧ inv (worldAfter w log) := by
  induction log generalizing w with
  | nil => exact ⟨by simp [transitions], start⟩
  | cons first rest ih =>
      have after : inv first.after :=
        keeps w first (by simp [transitions]) start
      obtain ⟨around, final⟩ := ih
        (fun before entry member =>
          keeps before entry (by simp [transitions, member])) after
      refine ⟨fun before entry member => ?_, final⟩
      simp only [transitions, List.mem_cons, Prod.mk.injEq] at member
      rcases member with ⟨rfl, rfl⟩ | later
      · exact ⟨start, after⟩
      · exact around before entry later

theorem exists_transition (w : World) {entry : Entry} (member : entry ∈ log) :
    ∃ before, (before, entry) ∈ transitions w log := by
  induction log generalizing w with
  | nil => cases member
  | cons first rest ih =>
      rcases List.mem_cons.mp member with rfl | later
      · exact ⟨w, by simp [transitions]⟩
      · obtain ⟨before, isTransition⟩ := ih first.after later
        exact ⟨before, by simp [transitions, isTransition]⟩

theorem mem_of_transition
    {before : World} {entry : Entry}
    (member : (before, entry) ∈ transitions w log) : entry ∈ log := by
  induction log generalizing w with
  | nil => cases member
  | cons first rest ih =>
      simp only [transitions, List.mem_cons, Prod.mk.injEq] at member
      rcases member with ⟨_, rfl⟩ | later
      · exact List.mem_cons_self
      · exact List.mem_cons_of_mem first (ih later)

theorem mem_transitions_of_take
    {count : Nat} {transition : World × Entry}
    (member : transition ∈ transitions w (log.take count)) :
    transition ∈ transitions w log := by
  rw [← List.take_append_drop count log, transitions_append]
  exact List.mem_append_left _ member

end

/-- Every entry of the log is an effect of the pass, done before the budget
was known or with the budget that is known now. -/
structure Explained (c : PassContext) (w : World) (seen : Seen) : Prop where
  current : worldAfter w seen.log = seen.world
  effect : ∀ before entry, (before, entry) ∈ transitions w seen.log →
    ∃ budget, (budget = none ∨ budget = seen.maxUnavail) ∧
      Effect c budget entry.action before entry.after

section Explained

variable {c : PassContext} {w : World} {seen seen' : Seen}

theorem Explained.step
    (explained : Explained c w seen) (step : Step c true seen seen') :
    Explained c w seen' := by
  cases step with
  | halt _ _ => exact ⟨explained.current, explained.effect⟩
  | resolveMaxUnavailable unresolved _ _ _ =>
      refine ⟨explained.current, fun before entry member => ?_⟩
      obtain ⟨budget, known, effect⟩ := explained.effect before entry member
      refine ⟨budget, .inl ?_, effect⟩
      exact known.elim id fun isCurrent => isCurrent.trans unresolved
  | act _ effect =>
      refine ⟨worldAfter_append w _ _, fun before entry member => ?_⟩
      rw [transitions_append, List.mem_append, transitions, transitions,
        List.mem_singleton] at member
      rcases member with earlier | last
      · exact explained.effect before entry earlier
      · cases last
        rw [explained.current]
        exact ⟨seen.maxUnavail, .inr rfl, effect⟩

theorem Explained.moments
    {s : PassState} (explained : Explained c w s.seen) (inv : World → Prop)
    (keeps : ∀ before entry, (before, entry) ∈ transitions w s.log →
      inv before → inv entry.after)
    (start : inv w) : ∀ moment ∈ s.moments, inv moment := by
  obtain ⟨around, final⟩ := invariant_of_transitions inv keeps start
  intro moment member
  rcases List.mem_append.mp member with logged | isFinal
  · obtain ⟨entry, isEntry, rfl⟩ := List.mem_map.mp logged
    obtain ⟨before, isTransition⟩ := exists_transition w isEntry
    exact (around before entry isTransition).2
  · rw [List.mem_singleton.mp isFinal]
    have atEnd : worldAfter w s.log = s.world := explained.current
    exact atEnd ▸ final

theorem Explained.invariant
    (explained : Explained c w seen) (inv : World → Prop)
    (keeps : ∀ {budget action w₁ w₂},
      Effect c budget action w₁ w₂ → inv w₁ → inv w₂) (start : inv w) :
    (∀ before entry, (before, entry) ∈ transitions w seen.log →
      inv before ∧ inv entry.after) ∧ inv seen.world := by
  rw [← explained.current]
  refine invariant_of_transitions inv (fun before entry member => ?_) start
  obtain ⟨_, _, effect⟩ := explained.effect before entry member
  exact keeps effect

end Explained

namespace BootcNodePoolReconciler

variable (r : BootcNodePoolReconciler) {env : Env} (request : String)
  {w : World}

theorem explained_of_reconcile (faithful : env.Faithful w) :
    Explained (r.contextOf env request w) w
      (r.reconcile env request (.start w)).2.seen :=
  Program.Regime.chain_invariant (Explained (r.contextOf env request w) w)
    (fun step explained => explained.step step)
    (r.steps_of_reconcile request faithful)
    ⟨rfl, by simp [PassState.seen, PassState.start, transitions]⟩

theorem moments_invariant
    (inv : World → Prop)
    (keeps : ∀ {budget action w₁ w₂},
      Effect (r.contextOf env request w) budget action w₁ w₂ →
        inv w₁ → inv w₂)
    (faithful : env.Faithful w) (start : inv w) :
    ∀ moment ∈ (r.reconcile env request (.start w)).2.moments, inv moment := by
  have explained := r.explained_of_reconcile request faithful
  refine explained.moments inv (fun before entry member => ?_) start
  obtain ⟨_, _, effect⟩ := explained.effect before entry member
  exact keeps effect

end BootcNodePoolReconciler

/-! ## Runs -/

/-- A run so far: the worlds after its single writes, and the present one. -/
structure ClusterRun where
  past : List World
  now : World

/-- A run that has not begun. -/
def ClusterRun.start (w : World) : ClusterRun :=
  ⟨[], w⟩

inductive ClusterAction where
  /-- a `Reconcile`, interrupted after so many actions if it has more -/
  | reconcile (env : Env) (request : String) (actions : Nat)
  /-- somebody else leaves this world behind -/
  | others (world : World)

/-- The part of the log of a `Reconcile` that is written before it is
interrupted. -/
def ClusterRun.written (s : ClusterRun) (r : BootcNodePoolReconciler)
    (env : Env) (request : String) (actions : Nat) : List Entry :=
  (r.reconcile env request (.start s.now)).2.log.take actions

/-- Reconciles of all pools by one controller, and other actors. -/
def clusterMachine (r : BootcNodePoolReconciler) :
    Machine ClusterRun ClusterAction where
  step s
    | .reconcile env request actions =>
        let log := s.written r env request actions
        some ⟨s.past ++ log.map Entry.after, worldAfter s.now log⟩
    | .others world => some ⟨s.past ++ [world], world⟩

/-- Every `Reconcile` reads what is stored, and the other actors do what
`others` allows. -/
def FreshlyRead (others : World → World → Prop) (s : ClusterRun) :
    ClusterAction → Prop
  | .reconcile env _ _ => env.Faithful s.now
  | .others world => others s.now world

section Runs

variable {r : BootcNodePoolReconciler} {others : World → World → Prop}
  {s s' : ClusterRun} {actions : List ClusterAction}

/-- What every effect and every other actor keeps holds throughout a run. -/
theorem invariant_of_clusterPath
    (inv : World → Prop)
    (effects : ∀ {c budget action w w'},
      Effect c budget action w w' → inv w → inv w')
    (acted : ∀ {w w'}, others w w' → inv w → inv w')
    (path : (clusterMachine r).Path (FreshlyRead others) s actions s')
    (start : inv s.now) : inv s'.now := by
  refine path.invariant (fun s => inv s.now) ?_ start
  intro s action s' holds meets stepped
  cases action with
  | others world =>
      cases stepped
      exact acted meets holds
  | reconcile env request count =>
      cases stepped
      have explained := r.explained_of_reconcile request meets
      refine (invariant_of_transitions inv (fun before entry member => ?_)
        holds).2
      obtain ⟨_, _, effect⟩ := explained.effect before entry
        (mem_transitions_of_take member)
      exact effects effect

end Runs

end BootcOperator
