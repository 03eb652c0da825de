import BootcOperator.Effects.Effect

/-!
# What an effect does to a drain

The one case analysis of the effects that every statement about `r.drains`
goes through: a drain is started, marked as stalled, or taken out in one of
four ways.
-/

namespace BootcOperator

/-- How an action may take a drain from the manager. -/
inductive DrainEnds (c : PassContext) (name : String) (status : DrainStatus)
    (w : World) : Action → Prop
  | cancelled {bn : BootcNode} :
      Owns c w name bn → DrainEnds c name status w (.cancelDrain name)
  | approved {bn : BootcNode} :
      OwnsTargeted c w name bn → status.outcome = .succeeded →
      DrainEnds c name status w (.wrote (.approve name))
  | reported {bn : BootcNode} {err : String} :
      Owns c w name bn → status.outcome = .failed err →
      DrainEnds c name status w (.event (drainFailedEvent c.pool name err))
  | lost :
      status.outcome ≠ .running →
      ((∀ bn, ¬ Owns c w name bn) ∨
        (status.outcome = .succeeded ∧
          c.env.fails (.approve name) ≠ none) ∨
        (status.outcome ≠ .succeeded ∧ status.cancelled = true)) →
      DrainEnds c name status w (.collectDrain name)

def Action.startsDrain (name : String) : Action → Bool
  | .startDrain started => started = name
  | _ => false

/-- What one action makes of the drain of a node. -/
inductive DrainChange (c : PassContext) (name : String) (w : World) :
    Action → Option DrainStatus → Prop
  | kept {action : Action} :
      action.startsDrain name = false →
      DrainChange c name w action (w.drains name)
  | ended {action : Action} {status : DrainStatus} :
      w.drains name = some status → DrainEnds c name status w action →
      DrainChange c name w action none
  | started {bn : BootcNode} :
      OwnsTargeted c w name bn →
      classifyNode c.reconciler.references bn = .ok .staged →
      bn.inRebootSlot = true → bn.spec.desiredImageState ≠ .booted →
      w.drains name = none →
      DrainChange c name w (.startDrain name)
        (some
          { outcome := .running
            cancelled := false
            startTime := c.env.now
            isStalled := false })
  | stalled {status : DrainStatus} :
      w.drains name = some status → status.isOverdue c.env.now = true →
      DrainChange c name w (.stallDrain name)
        (some { status with isStalled := true })

section Effects

variable {c : PassContext} {budget : Option Int} {action : Action}
  {w w' : World}

variable {name : String}

theorem DrainChange.of_eq
    {drain : Option DrainStatus} (same : drain = w.drains name)
    (startsOther : action.startsDrain name = false) :
    DrainChange c name w action drain :=
  same ▸ .kept startsOther

theorem World.putDrain_self (w : World) (name : String)
    (drain : Option DrainStatus) :
    (w.putDrain name drain).drains name = drain := by
  simp [World.putDrain_drains]

theorem World.putDrain_of_ne
    (w : World) {other : String} (different : other ≠ name)
    (drain : Option DrainStatus) :
    (w.putDrain name drain).drains other = w.drains other := by
  simp [World.putDrain_drains, different]

theorem DrainChange.putDrain
    {changed : String} {drain : Option DrainStatus}
    (change : DrainChange c changed w action drain)
    (startsOther : ∀ name, name ≠ changed → action.startsDrain name = false)
    (name : String) :
    DrainChange c name w action ((w.putDrain changed drain).drains name) := by
  by_cases same : name = changed
  · subst same
    rw [w.putDrain_self]
    exact change
  · exact .of_eq (w.putDrain_of_ne same drain) (startsOther name same)

theorem Effect.drainChange
    (effect : Effect c budget action w w') (name : String) :
    DrainChange c name w action (w'.drains name) := by
  cases effect with
  | cancelDrain owns =>
      refine DrainChange.putDrain ?_ (fun _ _ => rfl) name
      cases entry : w.drains _ with
      | none => exact .of_eq entry.symm rfl
      | some status => exact .ended entry (.cancelled owns)
  | collectDrain entry finished lost =>
      exact DrainChange.putDrain (.ended entry (.lost finished lost))
        (fun _ _ => rfl) name
  | reportDrain owns entry failed _ =>
      exact DrainChange.putDrain (.ended entry (.reported owns failed))
        (fun _ _ => rfl) name
  | approve owns entry succeeded =>
      exact DrainChange.putDrain (.ended entry (.approved owns succeeded))
        (fun _ _ => rfl) name
  | startDrain owns staged slotted unapproved undrained =>
      refine DrainChange.putDrain
        (.started owns staged slotted unapproved undrained)
        (fun other different => ?_) name
      simpa [Action.startsDrain] using fun same => different same.symm
  | stallDrain entry overdue =>
      exact DrainChange.putDrain (.stalled entry overdue) (fun _ _ => rfl)
        name
  | _ => exact .kept rfl

theorem Effect.running
    (effect : Effect c budget action w w')
    (running : ∀ status, w.drains name = some status →
      status.outcome = .running) :
    ∀ status, w'.drains name = some status → status.outcome = .running := by
  have change := effect.drainChange name
  intro status entry
  rw [entry] at change
  generalize isDrain : some status = drain at change
  cases change with
  | kept _ => exact running status isDrain.symm
  | ended _ _ => cases isDrain
  | started _ _ _ _ _ => cases isDrain; rfl
  | stalled before _ =>
      cases isDrain
      have stillRunning := running _ before
      exact stillRunning

theorem Step.running
    {loud : Bool} {seen seen' : Seen} (step : Step c loud seen seen')
    (running : ∀ status, seen.world.drains name = some status →
      status.outcome = .running) :
    ∀ status, seen'.world.drains name = some status →
      status.outcome = .running := by
  cases step with
  | act _ effect => exact effect.running running
  | halt _ _ => exact running
  | resolveMaxUnavailable _ _ _ _ => exact running

end Effects

end BootcOperator
