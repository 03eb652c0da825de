import BootcOperator.Daemon.Sections

/-!
# Which image a stage failure is charged to

`stageOp` keeps one pending error and one retry counter, without the image
they belong to.  A ledger kept beside the daemon records for every published
result which image it was about and when the desired image changed.  The
counter agrees with the ledger as long as every change of the desired image,
every result and every reset leaves no failure of another image behind.
-/

namespace BootcOperator

variable {lib : ReferenceLibrary} {input : ReconcileInput} {image err : String}
  {a : StageOp.Action} {actions : List StageOp.Action} {bn : BootcNode}

/-- What the failures of a stage are counted by. -/
inductive LedgerEntry where
  /-- the desired image became another one -/
  | desired (image : Option String)
  /-- `Stage` of the image failed, and the failure was published -/
  | failed (image err : String)
  /-- `Stage` of the image succeeded, and this was published -/
  | succeeded (image : String)
  deriving DecidableEq, Repr

/-- The entries of a run, newest first. -/
abbrev Ledger := List LedgerEntry

namespace Ledger

/-- The consecutive failed stages of `image` since the desired image last
changed. -/
def failures (image : String) : Ledger → Nat
  | [] => 0
  | .desired _ :: _ => 0
  | .failed other _ :: rest =>
      if other = image then failures image rest + 1 else failures image rest
  | .succeeded other :: rest =>
      if other = image then 0 else failures image rest

/-- The latest result of `image` since the desired image last changed is a
success. -/
def lastSucceeded (image : String) : Ledger → Bool
  | [] => false
  | .desired _ :: _ => false
  | .failed other _ :: rest =>
      if other = image then false else lastSucceeded image rest
  | .succeeded other :: rest =>
      if other = image then true else lastSucceeded image rest

/-- The image and the error of the latest failure. -/
def latestFailure : Ledger → Option (String × String)
  | [] => none
  | .failed image err :: _ => some (image, err)
  | _ :: rest => latestFailure rest

theorem failures_of_lastSucceeded
    {ledger : Ledger} (succeeded : lastSucceeded image ledger = true) :
    failures image ledger = 0 := by
  induction ledger with
  | nil => rfl
  | cons entry rest ih =>
      cases entry with
      | desired _ => rfl
      | failed other err =>
          by_cases same : other = image
          · simp [lastSucceeded, same] at succeeded
          · simp only [lastSucceeded, same, if_false] at succeeded
            simpa [failures, same] using ih succeeded
      | succeeded other =>
          by_cases same : other = image
          · simp [failures, same]
          · simp only [lastSucceeded, same, if_false] at succeeded
            simpa [failures, same] using ih succeeded

end Ledger

/-- The stage operation with its ledger. -/
structure Account where
  op : StageOp
  ledger : Ledger

namespace Account

open StageOp

/-- What a step of the protocol adds to the ledger: a result that is
published, which a cancelled `run` call does not do. -/
def entries (s : StageOp) : StageOp.Action → List LedgerEntry
  | .publish i =>
      if (s.runs i).cancelled then []
      else
        match (s.runs i).phase with
        | .stageReturned (some err) => [.failed (s.runs i).image err]
        | .stageReturned none => [.succeeded (s.runs i).image]
        | _ => []
  | _ => []

def step (account : Account) (a : StageOp.Action) : Option Account :=
  (account.op.step a).map fun op =>
    { op := op, ledger := entries account.op a ++ account.ledger }

def machine : Machine Account StageOp.Action :=
  ⟨step⟩

theorem step_eq_some
    {account account' : Account}
    (stepped : machine.step account a = some account') :
    account.op.step a = some account'.op ∧
      account'.ledger = entries account.op a ++ account.ledger := by
  simp only [machine, step, Option.map_eq_some_iff] at stepped
  obtain ⟨op, moved, rfl⟩ := stepped
  exact ⟨moved, rfl⟩

theorem path_of_op
    {condition : StageOp → StageOp.Action → Prop} {s s' : StageOp}
    (path : StageOp.machine.Path condition s actions s') (ledger : Ledger) :
    ∃ ledger',
      machine.Path (fun account a => condition account.op a) ⟨s, ledger⟩
        actions ⟨s', ledger'⟩ := by
  induction path generalizing ledger with
  | nil s => exact ⟨ledger, .nil _⟩
  | @cons s middle s' a rest meets stepped _ ih =>
      obtain ⟨ledger', later⟩ :=
        ih (entries s a ++ ledger)
      refine ⟨ledger', .cons meets ?_ later⟩
      simp only [StageOp.machine] at stepped
      simp [machine, step, stepped]

/-! ## The tally -/

/-- The failures charged to the desired image. -/
def tally (desired : Option String) (ledger : Ledger) : Nat :=
  match desired with
  | some image => ledger.failures image
  | none => 0

/-- The desired image was staged successfully and not tried again since. -/
def Settled (desired : Option String) (ledger : Ledger) : Prop :=
  ∃ image, desired = some image ∧ ledger.lastSucceeded image = true

section

variable {desired : Option String} {ledger : Ledger} {op : StageOp}
  {account account' : Account} {i : Nat}

theorem tally_of_settled (settled : Settled desired ledger) :
    tally desired ledger = 0 := by
  obtain ⟨image, rfl, succeeded⟩ := settled
  exact Ledger.failures_of_lastSucceeded succeeded

/-- The pending error is one of the desired image, and `retries` counts the
failures the desired image is charged with, up to the limit. -/
structure Tallied (desired : Option String) (account : Account) : Prop where
  pending : ∀ err, account.op.err = some err →
    ∃ image, desired = some image ∧
      account.ledger.latestFailure = some (image, err) ∧
      1 ≤ account.ledger.failures image ∧
      account.op.retries =
        min (account.ledger.failures image - 1) stageMaxBackoffExponent
  waiting : account.op.err = none → account.op.cancel = none →
    account.op.retries =
        min (tally desired account.ledger) stageMaxBackoffExponent ∨
      Settled desired account.ledger
  staging : account.op.cancel ≠ none → desired = some account.op.image →
    account.op.retries =
      min (tally desired account.ledger) stageMaxBackoffExponent
  replaced : account.op.cancel ≠ none → desired ≠ some account.op.image →
    tally desired account.ledger = 0

/-- The condition on single steps: a stage of another image than the desired
one ends in success and with no failure counted; the worker acquires with no
error pending, and not again after a success while failures are counted; and
it resets the counter only when no failure of the desired image is counted or
pending. -/
def Separates (desired : Option String) (account : Account) :
    StageOp.Action → Prop
  | .publish i =>
      (account.op.runs i).cancelled = false →
      desired ≠ some (account.op.runs i).image →
      (account.op.runs i).phase = .stageReturned none ∧
        account.op.retries = 0
  | .acquire _ =>
      account.op.err = none ∧
        (account.op.cancel = none →
          account.op.retries = 0 ∨ ¬ Settled desired account.ledger)
  | .reset =>
      account.op.err = none ∧
        (account.op.retries = 0 ∨
          (account.op.cancel ≠ none ∧ desired ≠ some account.op.image) ∨
          Settled desired account.ledger)
  | _ => True

/-- `acquire` is called for the desired image, and not while that image is
the one being staged. -/
def Warranted (desired : Option String) (s : StageOp)
    (a : StageOp.Action) : Prop :=
  ∀ image, a = .acquire image →
    desired = some image ∧ (s.cancel ≠ none → s.image ≠ image)

theorem warranted_of_not_acquire
    {s : StageOp} (other : ∀ image, a ≠ .acquire image) :
    Warranted desired s a :=
  fun image isAcquire => (other image isAcquire).elim

theorem warranted_of_byRun
    (desired : Option String) (s : StageOp) (a : StageOp.Action)
    (byRun : a.runOf.isSome ∨ a = .receive) :
    Warranted desired s a := by
  refine warranted_of_not_acquire fun image isAcquire => ?_
  subst isAcquire
  simp [StageOp.Action.runOf] at byRun

theorem Tallied.congr
    (tallied : Tallied desired account)
    (sameImage : account'.op.image = account.op.image)
    (sameCancel : account'.op.cancel = account.op.cancel)
    (sameErr : account'.op.err = account.op.err)
    (sameRetries : account'.op.retries = account.op.retries)
    (sameLedger : account'.ledger = account.ledger) :
    Tallied desired account' := by
  obtain ⟨pending, waiting, staging, replaced⟩ := tallied
  constructor
  · simpa only [sameErr, sameRetries, sameLedger] using pending
  · simpa only [sameErr, sameCancel, sameRetries, sameLedger] using waiting
  · simpa only [sameCancel, sameImage, sameRetries, sameLedger] using
      staging
  · simpa only [sameCancel, sameImage, sameLedger] using replaced

/-- With nothing in flight and no error pending, only `waiting` is left to
show. -/
theorem tallied_of_waiting
    (noError : account.op.err = none) (published : account.op.cancel = none)
    (waiting : account.op.retries =
        min (tally desired account.ledger) stageMaxBackoffExponent ∨
      Settled desired account.ledger) :
    Tallied desired account where
  pending err pending := by simp [noError] at pending
  waiting _ _ := waiting
  staging current := (current published).elim
  replaced current := (current published).elim

theorem Tallied.takeErr
    (tallied : Tallied desired ⟨op, ledger⟩) (inv : Inv op) :
    Tallied desired ⟨op.takeErr.2, ledger⟩ := by
  cases noError : op.err with
  | none =>
      refine tallied.congr rfl rfl ?_ ?_ rfl
      · simp [StageOp.takeErr, noError]
      · simp [StageOp.takeErr, noError]
  | some err =>
      obtain ⟨image, isDesired, _, positive, counted⟩ :=
        tallied.pending err noError
      have published : op.cancel = none := by
        by_contra current
        simp [inv.err_of_current current] at noError
      refine tallied_of_waiting rfl published (.inl ?_)
      subst isDesired
      simp only [StageOp.takeErr, noError, Option.isSome_some, true_and,
        tally, stageMaxBackoffExponent] at *
      split <;> omega

theorem Tallied.reset
    (tallied : Tallied desired ⟨op, ledger⟩)
    (separates : Separates desired ⟨op, ledger⟩ .reset) :
    Tallied desired ⟨op.reset, ledger⟩ := by
  obtain ⟨noError, clear⟩ := separates
  refine ⟨?_, ?_, ?_, tallied.replaced⟩
  · intro err pending
    exact absurd (noError.symm.trans pending) (by simp)
  · intro _ published
    rcases clear with zero | ⟨current, _⟩ | settled
    · rcases tallied.waiting noError published with counted | settled
      · exact .inl (by simpa [StageOp.reset, ← counted] using zero.symm)
      · exact .inr settled
    · exact (current published).elim
    · exact .inr settled
  · intro current isDesired
    have counted := tallied.staging current isDesired
    rcases clear with zero | ⟨_, other⟩ | settled
    · simpa [StageOp.reset, ← counted] using zero.symm
    · exact (other isDesired).elim
    · simp [StageOp.reset, tally_of_settled settled]

theorem Tallied.acquire
    (tallied : Tallied desired ⟨op, ledger⟩)
    (separates : Separates desired ⟨op, ledger⟩ (.acquire image))
    (warranted : Warranted desired op (.acquire image)) :
    Tallied desired ⟨op.acquire image, ledger⟩ := by
  obtain ⟨noError, again⟩ := separates
  obtain ⟨isDesired, superseded⟩ := warranted image rfl
  refine ⟨?_, ?_, ?_, ?_⟩
  · intro err pending
    cases pending
  · intro _ published
    cases published
  · intro _ _
    by_cases published : op.cancel = none
    · simp only [StageOp.acquire, published, Option.isSome_none,
        Bool.false_eq_true, if_false]
      rcases tallied.waiting noError published with counted | settled
      · exact counted
      · rcases again published with zero | notSettled
        · simpa [tally_of_settled settled] using zero
        · exact (notSettled settled).elim
    · have other : desired ≠ some op.image := by
        rw [isDesired]
        intro same
        exact superseded published (Option.some.inj same).symm
      have current : op.cancel.isSome = true :=
        Option.isSome_iff_ne_none.mpr published
      simp [StageOp.acquire, current, tallied.replaced published other]
  · exact fun _ other => (other isDesired).elim

theorem Tallied.publishFailure
    (tallied : Tallied (some (op.runs i).image) ⟨op, ledger⟩)
    (current : op.cancel = some i)
    (uncancelled : (op.runs i).cancelled = false)
    (itsImage : op.image = (op.runs i).image) :
    Tallied (some (op.runs i).image)
      ⟨op.publish i (some err), .failed (op.runs i).image err :: ledger⟩ := by
  have counted := tallied.staging (by simp [current]) (by rw [itsImage])
  rw [StageOp.publish, uncancelled]
  refine ⟨?_, ?_, ?_, ?_⟩
  · intro other pending
    cases pending
    refine ⟨_, rfl, rfl, ?_, ?_⟩
    · simp [Ledger.failures]
    · simpa [Ledger.failures, tally, setRun] using counted
  · intro cleared
    cases cleared
  · exact fun held => (held rfl).elim
  · exact fun held => (held rfl).elim

theorem Tallied.publishSuccess
    (tallied : Tallied desired ⟨op, ledger⟩) (current : op.cancel = some i)
    (uncancelled : (op.runs i).cancelled = false)
    (itsImage : op.image = (op.runs i).image) (noError : op.err = none)
    (separates : desired ≠ some (op.runs i).image → op.retries = 0) :
    Tallied desired
      ⟨op.publish i none, .succeeded (op.runs i).image :: ledger⟩ := by
  rw [StageOp.publish, uncancelled]
  refine tallied_of_waiting noError rfl ?_
  by_cases isDesired : desired = some (op.runs i).image
  · exact .inr ⟨_, isDesired, by simp [Ledger.lastSucceeded]⟩
  · left
    have clear := tallied.replaced (by simp [current]) (by
      rw [itsImage]
      exact isDesired)
    have stillClear :
        tally desired (.succeeded (op.runs i).image :: ledger) = 0 := by
      cases desired with
      | none => rfl
      | some image =>
          have other : (op.runs i).image ≠ image :=
            fun same => isDesired (by rw [same])
          simpa [tally, Ledger.failures, other] using clear
    rw [stillClear]
    exact separates isDesired

theorem Tallied.publish
    {err : Option String} (tallied : Tallied desired ⟨op, ledger⟩)
    (inv : Inv op) (bound : i < op.count)
    (phase : (op.runs i).phase = .stageReturned err)
    (separates : Separates desired ⟨op, ledger⟩ (.publish i)) :
    Tallied desired
      ⟨op.publish i err, entries op (.publish i) ++ ledger⟩ := by
  cases cancelled : (op.runs i).cancelled with
  | true =>
      refine tallied.congr ?_ ?_ ?_ ?_ ?_ <;>
        simp [StageOp.publish, entries, cancelled, setPhase, setRun]
  | false =>
      obtain ⟨current, itsImage, noError⟩ :=
        inv.current_of_stageReturned bound phase cancelled
      cases err with
      | some message =>
          have recorded : entries op (.publish i) =
              [.failed (op.runs i).image message] := by
            simp [entries, cancelled, phase]
          have isDesired : desired = some (op.runs i).image := by
            by_contra other
            simpa [phase] using (separates cancelled other).1
          subst isDesired
          rw [recorded]
          exact tallied.publishFailure current cancelled itsImage
      | none =>
          have recorded : entries op (.publish i) =
              [.succeeded (op.runs i).image] := by
            simp [entries, cancelled, phase]
          rw [recorded]
          exact tallied.publishSuccess current cancelled itsImage noError
            fun other => (separates cancelled other).2

/-- Another image becomes the desired one. -/
theorem tallied_of_retarget
    {image : Option String} (ledger : Ledger) (noError : op.err = none)
    (clear : op.retries = 0 ∨ (op.cancel ≠ none ∧ image ≠ some op.image)) :
    Tallied image ⟨op, .desired image :: ledger⟩ := by
  have cleared : tally image (.desired image :: ledger) = 0 := by
    cases image <;> rfl
  refine ⟨?_, ?_, ?_, fun _ _ => cleared⟩
  · intro err pending
    exact absurd (noError.symm.trans pending) (by simp)
  · intro _ published
    rcases clear with zero | ⟨current, _⟩
    · exact .inl (by simp [cleared, zero])
    · exact (current published).elim
  · intro _ isDesired
    rcases clear with zero | ⟨_, other⟩
    · simp [cleared, zero]
    · exact (other isDesired).elim

/-- Every step of the protocol that meets the condition keeps the tally. -/
theorem Tallied.step
    (tallied : Tallied desired account) (inv : Inv account.op)
    (separates : Separates desired account a)
    (warranted : Warranted desired account.op a)
    (stepped : machine.step account a = some account') :
    Tallied desired account' := by
  obtain ⟨moved, recorded⟩ := step_eq_some stepped
  obtain ⟨op, ledger⟩ := account
  obtain ⟨op', ledger'⟩ := account'
  simp only at moved recorded inv warranted
  subst recorded
  cases a with
  | takeErr =>
      cases moved
      exact tallied.takeErr inv
  | reset =>
      cases moved
      exact tallied.reset separates
  | isInFlight image =>
      cases moved
      exact tallied
  | acquire image =>
      cases moved
      exact tallied.acquire separates warranted
  | publish i =>
      simp only [StageOp.step] at moved
      split at moved
      · next err phase =>
          split at moved
          · next bound =>
              cases moved
              exact tallied.publish inv bound phase separates
          · cases moved
      · cases moved
  | receive | spawn i | lockRun i | checkContext i | startStage i
  | stageReturns i err | send i | unlockRun i =>
      simp only [StageOp.step] at moved
      split at moved
      · cases moved
        exact tallied.congr rfl rfl rfl rfl rfl
      · cases moved

theorem Tallied.path
    (path : machine.Path (fun account a =>
      Warranted desired account.op a ∧ Separates desired account a)
      account actions account') (inv : Inv account.op)
    (tallied : Tallied desired account) :
    Inv account'.op ∧ Tallied desired account' := by
  refine path.invariant
    (fun account => Inv account.op ∧ Tallied desired account)
    ?_ ⟨inv, tallied⟩
  rintro account a account' ⟨inv, tallied⟩ ⟨warranted, separates⟩ stepped
  exact ⟨inv.step (step_eq_some stepped).1,
    tallied.step inv separates warranted stepped⟩

end

end Account

/-! ## The sections of a reconcile -/

namespace BootcNodeReconciler

open StageOp Account

/-- A stage that is started is for an image that is not in flight. -/
theorem not_inFlight_of_stage
    {inflight : StageOp} {digest : String}
    (starts : classifyAction lib inflight bn digest image = .stage) :
    inflight.image ≠ image := by
  unfold classifyAction at starts
  cases staged : infoMatchesDigest lib bn.status.staged digest with
  | true =>
      simp only [staged, not_true_eq_false, if_false] at starts
      split at starts <;> cases starts
  | false =>
      intro same
      simp [staged, isInFlight, same] at starts

section

variable (lib : ReferenceLibrary) (input : ReconcileInput)
  (r : BootcNodeReconciler) (stored : Option BootcNode)

/-- The worker acquires the desired image, and only when it is not in
flight. -/
theorem work_script :
    Section.Work (Warranted (stored.map (·.spec.desiredImage))) input.gap
      r.inflight (r.script lib input stored) := by
  rcases r.script_cases lib input stored
    with quiet | ⟨orig, host, digest, acquires⟩
  · exact (quiet r.inflight).mono fun s a => warranted_of_not_acquire
  · rw [acquires.script, acquires.read]
    have free : ∀ (s : StageOp) (a : StageOp.Action),
        (∀ image, a ≠ .acquire image) →
          Warranted (some orig.spec.desiredImage) s a :=
      fun s a => warranted_of_not_acquire
    refine ⟨_, .cons (free _ _ (by simp)) rfl (.nil _), _,
      .cons (free _ _ (by simp)) rfl (.nil _), _,
      path_start ?_ (free _ _ (by simp)), _, .nil _, trivial⟩
    intro image isAcquire
    cases isAcquire
    refine ⟨rfl, fun current same => ?_⟩
    have notInFlight := not_inFlight_of_stage acquires.starts
    rcases (interleave_spec (r.beforeAction input (reportHost host
      (started orig input.now))).inflight (input.gap .acquire)).2
      with published | ⟨_, sameImage⟩
    · exact current published
    · exact notInFlight (sameImage.symm.trans same)

theorem path_sections :
    StageOp.machine.Path (Warranted (stored.map (·.spec.desiredImage)))
      r.inflight (r.sections lib input stored)
      (r.reconcile lib input stored).reconciler.inflight := by
  rw [reconcile_inflight]
  exact Section.path_actions (warranted_of_byRun _)
    (r.work_script lib input stored)

theorem reconcile_desiredImage :
    (r.reconcile lib input stored).bootcNode.map (·.spec.desiredImage) =
      stored.map (·.spec.desiredImage) := by
  have reconciles := reconcile_reconciles lib input r stored
  generalize r.reconcile lib input stored = outcome at *
  cases reconciles with
  | skipped _ => rfl
  | failed => rfl
  | unpatched runs _ => rw [runs.stored]
  | persisted runs =>
      rw [issueReboot_bootcNode, runs.stored]
      rfl

end

/-! ## The report of a stage failure -/

/-- Two texts that differ within the first `n` characters do not become equal
by appending. -/
theorem take_of_append_eq
    {first second rest other : String} (n : Nat)
    (firstLength : n ≤ first.toList.length)
    (secondLength : n ≤ second.toList.length)
    (same : first ++ rest = second ++ other) :
    first.toList.take n = second.toList.take n := by
  have lists := congrArg (fun text => text.toList.take n) same
  simpa [List.take_append_of_le_length, firstLength, secondLength] using
    lists

theorem stageFailed_of_reconcileDesired
    {r : BootcNodeReconciler} {host : HostStatus} {digest : String}
    {inner : BootcNodeOutcome}
    (returned : r.reconcileDesired lib input (reportHost host bn)
      bn.spec.desiredImage digest = some inner)
    (message : inner.result.degradedMsg = "bootc stage failed: " ++ err) :
    infoMatchesDigest lib (convertBootEntry host.booted) digest = false ∧
      (r.afterTakeErr input).1 = some err ∧ inner.error = none ∧
      inner.result.needsReboot = false ∧
      inner.result.requeueAfter =
        stageBackoffMin * 2 ^ ((r.afterTakeErr input).2.retries - 1) := by
  have reports : "" ≠ "bootc stage failed: " ++ err :=
    (append_ne_empty _ (by decide)).symm
  unfold reconcileDesired at returned
  have sameBooted : (reportHost host bn).status.booted =
      convertBootEntry host.booted := rfl
  rw [sameBooted] at returned
  cases isBooted :
      infoMatchesDigest lib (convertBootEntry host.booted) digest with
  | true =>
      simp only [isBooted, if_true, Option.some.injEq] at returned
      subst returned
      exact (reports message).elim
  | false =>
      simp only [isBooted, Bool.false_eq_true, if_false] at returned
      change (match (r.afterTakeErr input).1 with
        | some _ => _
        | none => _) = some inner at returned
      cases taken : (r.afterTakeErr input).1 with
      | some pending =>
          have delay := backoff_of_takeErr taken (input.gap .backoff)
          simp only [taken, Option.map_eq_some_iff] at returned
          obtain ⟨computed, isDelay, rfl⟩ := returned
          rw [show StageOp.backoff _ = some computed from isDelay,
            Option.some.injEq] at delay
          have sameErr : pending = err := by
            have lists := congrArg String.toList message
            simp only [String.toList_append, List.append_cancel_left_eq]
              at lists
            exact String.toList_inj.mp lists
          exact ⟨rfl, by rw [sameErr], rfl, rfl, delay⟩
      | none =>
          simp only [taken, Option.some.injEq] at returned
          subst returned
          exact (reports message).elim

/-- A reconcile that reports a failed stage has taken that error. -/
theorem stageFailed_of_degradedMsg
    {r : BootcNodeReconciler} {inner : BootcNodeOutcome}
    (returned : r.reconcileBootcNode lib input bn = some inner)
    (message : inner.result.degradedMsg = "bootc stage failed: " ++ err) :
    ∃ host digest, input.status = .ok host ∧
      Comparable lib host bn digest ∧
      infoMatchesDigest lib (convertBootEntry host.booted) digest = false ∧
      (r.afterTakeErr input).1 = some err ∧ inner.error = none ∧
      inner.result.needsReboot = false ∧
      inner.result.requeueAfter =
        stageBackoffMin * 2 ^ ((r.afterTakeErr input).2.retries - 1) := by
  have notOther : ∀ {first rest : String} (n : Nat),
      n ≤ first.toList.length → n ≤ "bootc stage failed: ".toList.length →
      first.toList.take n ≠ "bootc stage failed: ".toList.take n →
      first ++ rest ≠ "bootc stage failed: " ++ err :=
    fun n firstLength secondLength differ same =>
      differ (take_of_append_eq n firstLength secondLength same)
  unfold reconcileBootcNode at returned
  cases status : input.status with
  | error unread =>
      simp only [populateBootcFields, status, Option.some.injEq] at returned
      subst returned
      exact (notOther 1 (by decide) (by decide) (by decide) message).elim
  | ok host =>
      simp only [populateBootcFields, status] at returned
      split at returned
      · simp only [Option.some.injEq] at returned
        subst returned
        have literal : "bootc status has no booted entry" ++ "" =
            "bootc stage failed: " ++ err := by
          rw [String.append_empty]
          exact message
        exact (notOther 10 (by decide) (by decide) (by decide) literal).elim
      · next booted =>
          have sameImage : (reportHost host bn).spec.desiredImage =
              bn.spec.desiredImage := rfl
          rw [sameImage] at returned
          cases parsed : lib.parseNamed bn.spec.desiredImage with
          | error unparsed =>
              simp only [parsed, Option.some.injEq] at returned
              subst returned
              simp only [degradedExit, String.append_assoc] at message
              exact (notOther 1 (by decide) (by decide) (by decide)
                message).elim
          | ok named =>
              cases digested : named.digest with
              | none =>
                  simp only [parsed, digested, Option.some.injEq] at returned
                  subst returned
                  simp only [degradedExit, String.append_assoc] at message
                  exact (notOther 1 (by decide) (by decide) (by decide)
                    message).elim
              | some digest =>
                  simp only [parsed, digested,
                    lib.text_of_parseNamed parsed] at returned
                  have comparable : Comparable lib host bn digest :=
                    ⟨booted, by
                      simp [ReferenceLibrary.digestOf, parsed, digested]⟩
                  exact ⟨host, digest, rfl, comparable,
                    stageFailed_of_reconcileDesired returned message⟩

end BootcNodeReconciler

/-! ## The daemon with its ledger -/

def DaemonSystem.desired (s : DaemonSystem) : Option String :=
  s.bootcNode.map (·.spec.desiredImage)

/-- The daemon with its ledger. -/
structure ChargedSystem where
  system : DaemonSystem
  ledger : Ledger

namespace ChargedSystem

open StageOp Account BootcNodeReconciler

def account (s : ChargedSystem) : Account :=
  ⟨s.system.reconciler.inflight, s.ledger⟩

def recorded (account : Account) (actions : List StageOp.Action) : Ledger :=
  ((Account.machine.run account actions).map (·.ledger)).getD account.ledger

def sections (lib : ReferenceLibrary) (s : ChargedSystem)
    (input : ReconcileInput) : List StageOp.Action :=
  s.system.reconciler.sections lib input s.system.bootcNode

/-- What an action adds to the ledger. -/
def ledgerAfter (lib : ReferenceLibrary) (s : ChargedSystem) :
    DaemonAction → Ledger
  | .change bootcNode =>
      let image := bootcNode.map (·.spec.desiredImage)
      if image = s.system.desired then s.ledger
      else .desired image :: s.ledger
  | .run action => recorded s.account [action]
  | .reconcile input => recorded s.account (s.sections lib input)

def step (lib : ReferenceLibrary) (s : ChargedSystem) (a : DaemonAction) :
    Option ChargedSystem :=
  (s.system.step lib a).map fun system =>
    { system := system, ledger := s.ledgerAfter lib a }

def machine (lib : ReferenceLibrary) : Machine ChargedSystem DaemonAction :=
  ⟨step lib⟩

def initial (nodeName : String) (bootcNode : Option BootcNode) :
    ChargedSystem :=
  { system := .initial nodeName bootcNode, ledger := [] }

/-- The condition on the steps of the daemon: the desired image changes only
with no error pending, and with no failure counted unless a stage of an image
other than the new one is in flight, which the next `acquire` cancels; and the
protocol steps meet `Separates`, those inside a reconcile included. -/
def Separated (lib : ReferenceLibrary) (s : ChargedSystem) :
    DaemonAction → Prop
  | .change bootcNode =>
      let image := bootcNode.map (·.spec.desiredImage)
      image ≠ s.system.desired →
        s.account.op.err = none ∧
          (s.account.op.retries = 0 ∨
            (s.account.op.cancel ≠ none ∧ image ≠ some s.account.op.image))
  | .run action => Separates s.system.desired s.account action
  | .reconcile input =>
      ∃ account', Account.machine.Path (Separates s.system.desired)
        s.account (s.sections lib input) account'

def ledgerAtTakeErr (s : ChargedSystem) (input : ReconcileInput) : Ledger :=
  recorded s.account (s.account.op.moves (input.gap .takeErr))

theorem recorded_of_path
    {condition : Account → StageOp.Action → Prop} {account account' : Account}
    (path : Account.machine.Path condition account actions account') :
    recorded account actions = account'.ledger := by
  simp [recorded, path.run_eq]

/-- `retries` agrees with the ledger. -/
structure Charged (s : ChargedSystem) : Prop where
  inv : Inv s.account.op
  tallied : Tallied s.system.desired s.account

theorem charged_initial
    (nodeName : String) (bootcNode : Option BootcNode) :
    Charged (initial nodeName bootcNode) := by
  refine ⟨inv_initial, tallied_of_waiting rfl rfl (.inl ?_)⟩
  cases bootcNode <;> rfl

section

variable {s : ChargedSystem}

theorem Charged.change
    (charged : Charged s) {bootcNode : Option BootcNode}
    (separated : Separated lib s (.change bootcNode)) :
    Charged
      { system := { s.system with bootcNode := bootcNode }
        ledger := s.ledgerAfter lib (.change bootcNode) } := by
  refine ⟨charged.inv, ?_⟩
  by_cases same :
      bootcNode.map (·.spec.desiredImage) = s.system.desired
  · have tallied := charged.tallied
    simp only [ledgerAfter, same, if_true]
    rw [← same] at tallied
    exact tallied
  · obtain ⟨noError, clear⟩ := separated same
    simp only [ledgerAfter, same, if_false]
    exact tallied_of_retarget s.ledger noError clear

theorem Charged.sections
    (charged : Charged s) (separated : Separated lib s (.reconcile input)) :
    Charged
      { system :=
          { bootcNode := (s.system.reconcile lib input).bootcNode
            reconciler := (s.system.reconcile lib input).reconciler }
        ledger := s.ledgerAfter lib (.reconcile input) } := by
  obtain ⟨account', separates⟩ := separated
  obtain ⟨ledger, warranted⟩ := path_of_op
    (s.system.reconciler.path_sections lib input s.system.bootcNode) s.ledger
  have ends := recorded_of_path warranted
  have same := s.system.reconciler.reconcile_desiredImage lib input
    s.system.bootcNode
  obtain ⟨inv, tallied⟩ := Tallied.path (warranted.and separates)
    charged.inv charged.tallied
  refine ⟨inv, ?_⟩
  change Tallied (Option.map _ _) ⟨_, s.ledgerAfter lib (.reconcile input)⟩
  rw [show s.ledgerAfter lib (.reconcile input) = ledger from ends]
  exact same ▸ tallied

theorem Charged.step
    {s' : ChargedSystem} {a : DaemonAction} (charged : Charged s)
    (separated : Separated lib s a)
    (stepped : (machine lib).step s a = some s') :
    Charged s' := by
  simp only [machine, ChargedSystem.step, Option.map_eq_some_iff] at stepped
  obtain ⟨system, moved, rfl⟩ := stepped
  cases a with
  | change bootcNode =>
      cases moved
      exact charged.change separated
  | reconcile input =>
      cases moved
      exact charged.sections separated
  | run action =>
      simp only [DaemonSystem.step] at moved
      split at moved
      · next byRun =>
          rw [Option.map_eq_some_iff] at moved
          obtain ⟨op, moved, rfl⟩ := moved
          have stepped : Account.machine.step s.account action =
              some ⟨op, entries s.account.op action ++ s.ledger⟩ := by
            simp [Account.machine, Account.step, account, moved]
          have ends : s.ledgerAfter lib (.run action) =
              entries s.account.op action ++ s.ledger := by
            simp [ledgerAfter, recorded, Machine.run, stepped]
          rw [ends]
          exact ⟨charged.inv.step moved,
            charged.tallied.step charged.inv separated
              (warranted_of_byRun _ _ _ byRun) stepped⟩
      · cases moved

theorem charged_of_path
    {nodeName : String} {bootcNode : Option BootcNode}
    {actions : List DaemonAction}
    (path : (machine lib).Path (Separated lib) (initial nodeName bootcNode)
      actions s) :
    Charged s :=
  path.invariant Charged
    (fun charged separated stepped => charged.step separated stepped)
    (charged_initial nodeName bootcNode)

end

/-! ## The report -/

theorem tallied_at_takeErr
    {s : ChargedSystem} (charged : Charged s)
    (separated : Separated lib s (.reconcile input)) {rest : List Section}
    (script : s.system.reconciler.script lib input s.system.bootcNode =
      takeErrSection :: rest) :
    Tallied s.system.desired
      ⟨s.account.op.interleave (input.gap .takeErr),
        s.ledgerAtTakeErr input⟩ := by
  obtain ⟨account', separates⟩ := separated
  rw [sections, BootcNodeReconciler.sections, script, Section.actions,
    List.append_assoc] at separates
  obtain ⟨middle, separates, -⟩ := separates.of_append
  obtain ⟨ledger, warranted⟩ := path_of_op
    (path_moves (warranted_of_byRun s.system.desired) s.account.op
      (input.gap .takeErr)) s.ledger
  obtain ⟨-, tallied⟩ := Tallied.path (warranted.and separates)
    charged.inv charged.tallied
  rw [ledgerAtTakeErr,
    show recorded s.account _ = ledger from recorded_of_path warranted]
  exact tallied

/-- The delay after `k` failures. -/
def stageDelay (k : Nat) : Duration :=
  stageBackoffMin * 2 ^ (min k stageMaxBackoffExponent - 1)

/-- In a run whose steps are `Separated`, a reconcile with desired image `I`
that reports a failed stage reports an error of `Stage(I)`, with the delay of
the consecutive failures of `I` since it last became the desired image. -/
theorem stage_failures_charged
    {lib : ReferenceLibrary} {nodeName : String}
    {bootcNode : Option BootcNode} {actions : List DaemonAction}
    {s : ChargedSystem}
    (path : (machine lib).Path (Separated lib) (initial nodeName bootcNode)
      actions s)
    {input : ReconcileInput} (separated : Separated lib s (.reconcile input))
    {inner : BootcNodeOutcome} {err : String}
    (persisted : (s.system.reconcile lib input).persisted = some inner)
    (reports : inner.result.degradedMsg = "bootc stage failed: " ++ err) :
    ∃ image, s.system.desired = some image ∧
      (s.ledgerAtTakeErr input).latestFailure = some (image, err) ∧
      1 ≤ (s.ledgerAtTakeErr input).failures image ∧
      (s.system.reconcile lib input).result =
        .ok (stageDelay ((s.ledgerAtTakeErr input).failures image)) := by
  have charged := charged_of_path path
  obtain ⟨orig, stored, request, notIssued, read, returned, outcome⟩ :=
    reconcile_of_persisted persisted
  obtain ⟨host, digest, status, comparable, notBooted, taken, noError,
    noReboot, delay⟩ := stageFailed_of_degradedMsg returned reports
  have script : s.system.reconciler.script lib input s.system.bootcNode =
      takeErrSection ::
        [⟨.backoff, fun _ => []⟩, ⟨.atReturn, fun _ => []⟩] := by
    simp [BootcNodeReconciler.script, innerSections, desiredSections,
      request, notIssued, read, stored, status, comparable.booted,
      comparable.desired, notBooted, taken]
  have tallied := tallied_at_takeErr charged separated script
  obtain ⟨image, isDesired, latest, positive, counted⟩ :=
    tallied.pending err taken
  refine ⟨image, isDesired, latest, positive, ?_⟩
  have retries : (s.system.reconciler.afterTakeErr input).2.retries =
      min ((s.ledgerAtTakeErr input).failures image)
        stageMaxBackoffExponent := by
    have taking := retries_takeErr_of_err taken
    change (s.system.reconciler.afterTakeErr input).2.retries = _ ∨
      _ ∧ (s.system.reconciler.afterTakeErr input).2.retries = _ at taking
    simp only [account, stageMaxBackoffExponent] at *
    omega
  rw [show s.system.reconcile lib input = _ from outcome, issueReboot,
    noReboot, persistedOutcome, noError, delay, retries]
  rfl

/-- `os@b` is desired, its stage is started and fails. -/
def failingRun : List DaemonAction :=
  [.change (some retargetedNode),
    .reconcile (calmInput DaemonSystem.hostOnA),
    .run (.lockRun 0), .run (.checkContext 0), .run (.startStage 0),
    .run (.stageReturns 0 (some "pull failed")), .run (.publish 0)]

def afterRun (actions : List DaemonAction) : ChargedSystem :=
  ((machine osLibrary).run (initial "n" none) actions).getD
    (initial "n" none)

theorem path_failingRun :
    (machine osLibrary).Path (Separated osLibrary) (initial "n" none)
      failingRun (afterRun failingRun) := by
  refine .cons (fun _ => ⟨rfl, .inl rfl⟩) rfl (.cons ?_ rfl
    (.cons trivial rfl (.cons trivial rfl (.cons trivial rfl
      (.cons trivial rfl (.cons ?_ rfl (.nil _)))))))
  · exact ⟨_, .cons trivial rfl (.cons trivial rfl
      (.cons ⟨rfl, fun _ => .inl rfl⟩ rfl (.cons trivial rfl (.nil _))))⟩
  · exact fun _ other => (other rfl).elim

/-- The failure of `os@b` is reported with the delay of one failure. -/
theorem stage_failures_charged_once :
    ((afterRun failingRun).system.reconcile osLibrary
      (calmInput DaemonSystem.hostOnA)).result = .ok (stageDelay 1) := by
  have separated : Separated osLibrary (afterRun failingRun)
      (.reconcile (calmInput DaemonSystem.hostOnA)) :=
    ⟨_, .cons trivial rfl (.nil _)⟩
  obtain ⟨inner, persisted, reports⟩ : ∃ inner,
      ((afterRun failingRun).system.reconcile osLibrary
        (calmInput DaemonSystem.hostOnA)).persisted = some inner ∧
      inner.result.degradedMsg =
        "bootc stage failed: " ++ "pull failed" :=
    ⟨_, rfl, rfl⟩
  obtain ⟨image, isDesired, _, _, result⟩ :=
    stage_failures_charged path_failingRun separated persisted reports
  cases isDesired
  exact result

/-- The failed stage of `os@b` is followed by a change to `os@c`. -/
def chargingRun : List DaemonAction :=
  failingRun ++
    [.change (some
      { retargetedNode with
        spec := { retargetedNode.spec with desiredImage := "os@c" } })]

/-- The reconcile with desired image `os@c` reports the failure of `os@b` and
is requeued, although `os@c` was never tried. -/
theorem failure_charged_to_next_image :
    ∃ s inner, (machine osLibrary).run (initial "n" none) chargingRun =
        some s ∧
      s.system.desired = some "os@c" ∧
      (s.system.reconcile osLibrary
        (calmInput DaemonSystem.hostOnA)).persisted = some inner ∧
      inner.result.degradedMsg = "bootc stage failed: " ++ "pull failed" ∧
      (s.system.reconcile osLibrary
        (calmInput DaemonSystem.hostOnA)).result = .ok (5 * second) ∧
      (s.ledgerAtTakeErr (calmInput DaemonSystem.hostOnA)).latestFailure =
        some ("os@b", "pull failed") ∧
      (s.ledgerAtTakeErr (calmInput DaemonSystem.hostOnA)).failures
        "os@c" = 0 :=
  ⟨_, _, rfl, rfl, rfl, rfl, rfl, rfl, rfl⟩

end ChargedSystem

end BootcOperator
