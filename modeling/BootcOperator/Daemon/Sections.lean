import BootcOperator.Daemon.InFlight

/-!
# The critical sections of a reconcile

`Reconcile` as the list of protocol actions it makes: before each critical
section of the worker the `run` calls may move, then the worker takes its
step.  `run_sections` says that these actions lead from the stage operation
before the reconcile to the one after it, so that a history kept over single
actions is a history of whole reconciles.
-/

namespace BootcOperator

namespace StageOp

variable {s : StageOp}

/-- The steps of `run` calls that `interleave` takes. -/
def moves (s : StageOp) : List Action → List Action
  | [] => []
  | a :: rest =>
      if a.runOf.isSome ∨ a = .receive then
        match s.step a with
        | some s' => a :: moves s' rest
        | none => moves s rest
      else moves s rest

theorem interleave_cons (s : StageOp) (a : Action) (rest : List Action) :
    s.interleave (a :: rest) =
      (if a.runOf.isSome ∨ a = .receive then (s.step a).getD s
        else s).interleave rest :=
  rfl

theorem run_moves (s : StageOp) (actions : List Action) :
    machine.run s (s.moves actions) = some (s.interleave actions) := by
  induction actions generalizing s with
  | nil => rfl
  | cons a rest ih =>
      rw [interleave_cons, moves]
      split
      · cases stepped : s.step a with
        | none => exact ih s
        | some s' =>
            simp only [Machine.run, machine, stepped]
            exact ih s'
      · exact ih s

/-- A condition on the worker's steps is met by the steps of `run` calls. -/
theorem path_moves
    {condition : StageOp → Action → Prop}
    (free : ∀ s a, a.runOf.isSome ∨ a = .receive → condition s a)
    (s : StageOp) (actions : List Action) :
    machine.Path condition s (s.moves actions) (s.interleave actions) := by
  induction actions generalizing s with
  | nil => exact .nil s
  | cons a rest ih =>
      rw [interleave_cons, moves]
      split
      · next byRun =>
          cases stepped : s.step a with
          | none => exact ih s
          | some s' =>
              exact .cons (free s a byRun) stepped (ih s')
      · exact ih s

theorem path_start
    {condition : StageOp → Action → Prop} {image : String}
    (acquires : condition s (.acquire image))
    (spawns : condition (s.acquire image) (.spawn s.count)) :
    machine.Path condition s [.acquire image, .spawn s.count]
      (s.start image) := by
  refine .cons acquires rfl (.cons spawns ?_ (.nil _))
  simp [machine, step, acquire, acquiredRun, start]

theorem run_acquire_spawn (s : StageOp) (image : String) :
    machine.run s [.acquire image, .spawn s.count] =
      some (s.start image) :=
  have path : machine.Path (fun _ _ => True) s _ (s.start image) :=
    path_start trivial trivial
  path.run_eq

theorem retries_of_run_step
    {s' : StageOp} {a : Action} (byRun : a.runOf.isSome ∨ a = .receive)
    (stepped : s.step a = some s') :
    s'.retries = s.retries := by
  cases a <;>
    simp only [Action.runOf, Option.isSome_none, Bool.false_eq_true,
      reduceCtorEq, or_self] at byRun <;>
    simp only [StageOp.step] at stepped
  case publish i =>
    split at stepped
    · split at stepped
      · cases stepped
        unfold StageOp.publish
        split <;> rfl
      · cases stepped
    · cases stepped
  all_goals
    split at stepped
    · cases stepped
      rfl
    · cases stepped

theorem interleave_retries (s : StageOp) (actions : List Action) :
    (s.interleave actions).retries = s.retries := by
  induction actions generalizing s with
  | nil => rfl
  | cons a rest ih =>
      rw [interleave_cons, ih]
      split
      · next byRun =>
          cases stepped : s.step a with
          | none => rfl
          | some s' => exact retries_of_run_step byRun stepped
      · rfl

theorem Inv.current_of_stageReturned
    (inv : Inv s) {i : Nat} {err : Option String} (bound : i < s.count)
    (phase : (s.runs i).phase = .stageReturned err)
    (uncancelled : (s.runs i).cancelled = false) :
    s.cancel = some i ∧ s.image = (s.runs i).image ∧ s.err = none := by
  have well := inv.wellPhased i bound
  simp only [RunCall.WellPhased, phase] at well
  have current := inv.live i bound well.1 uncancelled
  exact ⟨current, (inv.cancel_spec i current).2.2.2,
    inv.err_of_current (by simp [current])⟩

theorem retries_takeErr_of_err
    {err : String} (taken : s.takeErr.1 = some err) :
    s.takeErr.2.retries = min (s.retries + 1) stageMaxBackoffExponent ∨
      stageMaxBackoffExponent ≤ s.retries ∧
        s.takeErr.2.retries = s.retries := by
  have pending : s.err = some err := taken
  simp only [takeErr, pending, Option.isSome_some, true_and]
  split
  · next below =>
      left
      omega
  · next atLimit =>
      exact .inr ⟨by omega, rfl⟩

theorem backoff_of_takeErr
    {err : String} (taken : s.takeErr.1 = some err) (actions : List Action) :
    (s.takeErr.2.interleave actions).backoff =
      some (stageBackoffMin * 2 ^ (s.takeErr.2.retries - 1)) := by
  have counted : s.takeErr.2.retries ≠ 0 := by
    rcases retries_takeErr_of_err taken with counted | ⟨atLimit, same⟩
    · simp only [counted, stageMaxBackoffExponent]
      omega
    · simp only [stageMaxBackoffExponent] at atLimit
      omega
  simp [backoff, interleave_retries, counted]

end StageOp

/-- A place where the worker waits for `mu`, and what it does then. -/
structure Section where
  point : LockPoint
  work : StageOp → List StageOp.Action

namespace Section

open StageOp

/-- The moves of the sections, with those of the gaps. -/
def actions (gap : LockPoint → List Action) :
    StageOp → List Section → List Action
  | _, [] => []
  | s, next :: rest =>
      let entered := s.interleave (gap next.point)
      s.moves (gap next.point) ++ next.work entered ++
        actions gap ((machine.run entered (next.work entered)).getD entered)
          rest

def after (gap : LockPoint → List Action) :
    StageOp → List Section → StageOp
  | s, [] => s
  | s, next :: rest =>
      let entered := s.interleave (gap next.point)
      after gap ((machine.run entered (next.work entered)).getD entered) rest

/-- The work of a section never blocks. -/
def Enabled (sections : List Section) : Prop :=
  ∀ next ∈ sections, ∀ s, (machine.run s (next.work s)).isSome

section

variable {sections : List Section} {condition : StageOp → Action → Prop}
  {gap : LockPoint → List Action} {s : StageOp}

theorem run_actions
    (enabled : Enabled sections) (gap : LockPoint → List Action) (s : StageOp) :
    machine.run s (actions gap s sections) = some (after gap s sections) := by
  induction sections generalizing s with
  | nil => rfl
  | cons next rest ih =>
      obtain ⟨worked, executed⟩ := Option.isSome_iff_exists.mp
        (enabled next (by simp) (s.interleave (gap next.point)))
      have enabledRest : Enabled rest :=
        fun other member => enabled other (List.mem_cons_of_mem _ member)
      rw [actions, after, Machine.run_append, Machine.run_append, run_moves]
      simp only [Option.bind_some, executed, Option.getD_some]
      exact ih enabledRest worked

/-- The condition holds in all sections. -/
def Work (condition : StageOp → Action → Prop)
    (gap : LockPoint → List Action) : StageOp → List Section → Prop
  | _, [] => True
  | s, next :: rest =>
      let entered := s.interleave (gap next.point)
      ∃ worked,
        machine.Path condition entered (next.work entered) worked ∧
        Work condition gap worked rest

theorem Work.mono
    {weaker : StageOp → Action → Prop}
    (implies : ∀ s a, condition s a → weaker s a)
    (work : Work condition gap s sections) :
    Work weaker gap s sections := by
  induction sections generalizing s with
  | nil => trivial
  | cons next rest ih =>
      obtain ⟨worked, path, later⟩ := work
      exact ⟨worked, path.mono implies, ih later⟩

theorem Work.append
    {first rest : List Section} (before : Work condition gap s first)
    (after : ∀ s, Work condition gap s rest) :
    Work condition gap s (first ++ rest) := by
  induction first generalizing s with
  | nil => exact after s
  | cons next first ih =>
      obtain ⟨worked, path, later⟩ := before
      exact ⟨worked, path, ih later⟩

theorem path_actions
    (free : ∀ s a, a.runOf.isSome ∨ a = .receive → condition s a)
    (work : Work condition gap s sections) :
    machine.Path condition s (actions gap s sections)
      (after gap s sections) := by
  induction sections generalizing s with
  | nil => exact .nil s
  | cons next rest ih =>
      obtain ⟨worked, path, later⟩ := work
      rw [actions, after]
      simp only [path.run_eq, Option.getD_some]
      exact ((path_moves free s _).append path).append
        (ih later)

end

end Section

namespace BootcNodeReconciler

open StageOp

def takeErrSection : Section :=
  ⟨.takeErr, fun _ => [.takeErr]⟩

/-- The sections of the exits that compare the host with `digest`. -/
def desiredSections (lib : ReferenceLibrary) (input : ReconcileInput)
    (r : BootcNodeReconciler) (bn : BootcNode) (host : HostStatus)
    (digest : String) : List Section :=
  let image := bn.spec.desiredImage
  if infoMatchesDigest lib (convertBootEntry host.booted) digest then
    [⟨.reset, fun _ => [.reset]⟩]
  else if (r.afterTakeErr input).1.isSome then
    [takeErrSection, ⟨.backoff, fun _ => []⟩]
  else if r.nextAction lib input host bn digest = .stage then
    [takeErrSection, ⟨.isInFlight, fun _ => [.isInFlight image]⟩,
      ⟨.acquire, fun s => [.acquire image, .spawn s.count]⟩]
  else
    [takeErrSection, ⟨.isInFlight, fun _ => [.isInFlight image]⟩]

/-- The sections of the inner reconcile. -/
def innerSections (lib : ReferenceLibrary) (input : ReconcileInput)
    (r : BootcNodeReconciler) (bn : BootcNode) : List Section :=
  match input.status with
  | .error _ => []
  | .ok host =>
      if convertBootEntry host.booted = none then []
      else
        match lib.digestOf bn.spec.desiredImage with
        | none => []
        | some digest => r.desiredSections lib input bn host digest

/-- The sections of `Reconcile`; the last one is its return. -/
def script (lib : ReferenceLibrary) (input : ReconcileInput)
    (r : BootcNodeReconciler) (stored : Option BootcNode) : List Section :=
  if input.request ≠ r.nodeName ∨ r.rebootIssued ∨ input.getError.isSome then
    []
  else
    match stored with
    | none => []
    | some orig =>
        r.innerSections lib input (started orig input.now) ++
          [⟨.atReturn, fun _ => []⟩]

/-- All moves that a call of `Reconcile` makes. -/
def sections (lib : ReferenceLibrary) (input : ReconcileInput)
    (r : BootcNodeReconciler) (stored : Option BootcNode) : List Action :=
  Section.actions input.gap r.inflight (r.script lib input stored)

theorem enabled_desiredSections
    (lib : ReferenceLibrary) (input : ReconcileInput)
    (r : BootcNodeReconciler) (bn : BootcNode) (host : HostStatus)
    (digest : String) :
    Section.Enabled (r.desiredSections lib input bn host digest) := by
  intro next member s
  unfold desiredSections at member
  split_ifs at member <;>
    simp only [List.mem_cons, List.not_mem_nil, or_false] at member
  · subst member
    rfl
  · rcases member with rfl | rfl <;> rfl
  · rcases member with rfl | rfl | rfl
    · rfl
    · rfl
    · rw [run_acquire_spawn]
      rfl
  · rcases member with rfl | rfl <;> rfl

theorem enabled_script
    (lib : ReferenceLibrary) (input : ReconcileInput)
    (r : BootcNodeReconciler) (stored : Option BootcNode) :
    Section.Enabled (r.script lib input stored) := by
  intro next member s
  unfold script at member
  split_ifs at member
  · cases member
  · cases stored with
    | none => cases member
    | some orig =>
        simp only [List.mem_append, List.mem_singleton] at member
        rcases member with inner | rfl
        · unfold innerSections at inner
          split at inner
          · cases inner
          · split at inner
            · cases inner
            · split at inner
              · cases inner
              · exact enabled_desiredSections lib input r _ _ _ next inner s
        · rfl

/-! ## Sections that start a stage -/

def NotAcquire (_ : StageOp) (a : Action) : Prop :=
  ∀ image, a ≠ .acquire image

theorem notAcquire_of_byRun
    (s : StageOp) (a : Action) (byRun : a.runOf.isSome ∨ a = .receive) :
    NotAcquire s a := by
  rintro image rfl
  simp [Action.runOf] at byRun

def stagingSections (image : String) : List Section :=
  [takeErrSection, ⟨.isInFlight, fun _ => [.isInFlight image]⟩,
    ⟨.acquire, fun s => [.acquire image, .spawn s.count]⟩]

/-- `Reconcile` acquires in one exit only: it has read the BootcNode and the
host and has decided to stage the desired image. -/
structure Starts (lib : ReferenceLibrary) (input : ReconcileInput)
    (r : BootcNodeReconciler) (stored : Option BootcNode) (orig : BootcNode)
    (host : HostStatus) (digest : String) : Prop where
  read : stored = some orig
  status : input.status = .ok host
  desired : lib.digestOf orig.spec.desiredImage = some digest
  starts :
    r.nextAction lib input host (started orig input.now) digest = .stage
  script : r.script lib input stored =
    stagingSections orig.spec.desiredImage ++ [⟨.atReturn, fun _ => []⟩]

theorem work_desiredSections
    (lib : ReferenceLibrary) (input : ReconcileInput)
    (r : BootcNodeReconciler) (bn : BootcNode) (host : HostStatus)
    (digest : String) :
    (∀ s, Section.Work NotAcquire input.gap s
        (r.desiredSections lib input bn host digest)) ∨
      (r.nextAction lib input host bn digest = .stage ∧
        r.desiredSections lib input bn host digest =
          stagingSections bn.spec.desiredImage) := by
  unfold desiredSections
  split_ifs with booted failed starts
  · exact .inl fun s =>
      ⟨_, .cons (by simp [NotAcquire]) rfl (.nil _), trivial⟩
  · exact .inl fun s =>
      ⟨_, .cons (by simp [NotAcquire]) rfl (.nil _), _, .nil _, trivial⟩
  · exact .inr ⟨starts, rfl⟩
  · exact .inl fun s =>
      ⟨_, .cons (by simp [NotAcquire]) rfl (.nil _), _,
        .cons (by simp [NotAcquire]) rfl (.nil _), trivial⟩

theorem script_cases
    (lib : ReferenceLibrary) (input : ReconcileInput)
    (r : BootcNodeReconciler) (stored : Option BootcNode) :
    (∀ s, Section.Work NotAcquire input.gap s
        (r.script lib input stored)) ∨
      ∃ orig host digest, Starts lib input r stored orig host digest := by
  by_cases skipped : input.request ≠ r.nodeName ∨ r.rebootIssued ∨
      input.getError.isSome
  · exact .inl fun s => by simp [script, skipped, Section.Work]
  · cases stored with
    | none => exact .inl fun s => by simp [script, skipped, Section.Work]
    | some orig =>
        have isScript : r.script lib input (some orig) =
            r.innerSections lib input (started orig input.now) ++
              [⟨.atReturn, fun _ => []⟩] := by
          rw [script, if_neg skipped]
        have atReturn : ∀ s, Section.Work NotAcquire input.gap s
            [⟨.atReturn, fun _ => []⟩] :=
          fun s => ⟨_, .nil _, trivial⟩
        rw [isScript]
        cases status : input.status with
        | error err =>
            simp only [innerSections, status]
            exact .inl atReturn
        | ok host =>
            by_cases booted : convertBootEntry host.booted = none
            · simp only [innerSections, status, booted, if_true]
              exact .inl atReturn
            · cases desired : lib.digestOf orig.spec.desiredImage with
              | none =>
                  have noDigest : lib.digestOf
                      (started orig input.now).spec.desiredImage = none :=
                    desired
                  simp only [innerSections, status, booted, if_false,
                    noDigest]
                  exact .inl atReturn
              | some digest =>
                  have hasDigest : lib.digestOf
                      (started orig input.now).spec.desiredImage =
                        some digest := desired
                  have inner : r.innerSections lib input
                      (started orig input.now) =
                      r.desiredSections lib input (started orig input.now)
                        host digest := by
                    simp [innerSections, status, booted, hasDigest]
                  rw [inner] at isScript ⊢
                  rcases r.work_desiredSections lib input
                    (started orig input.now) host digest
                    with quiet | ⟨starts, staging⟩
                  · exact .inl fun s => (quiet s).append atReturn
                  · rw [staging] at isScript
                    exact .inr ⟨orig, host, digest,
                      ⟨rfl, status, desired, starts, isScript⟩⟩

/-! ## The stage operation after the sections -/

theorem after_append
    (gap : LockPoint → List Action) (s : StageOp)
    (first rest : List Section) :
    Section.after gap s (first ++ rest) =
      Section.after gap (Section.after gap s first) rest := by
  induction first generalizing s with
  | nil => rfl
  | cons next first ih =>
      exact ih _

section

variable (lib : ReferenceLibrary) (input : ReconcileInput)
  (r : BootcNodeReconciler)

theorem reconcileDesired_after
    {lib : ReferenceLibrary} {input : ReconcileInput} (bn : BootcNode)
    (host : HostStatus) (digest : String) :
    ∃ inner,
      r.reconcileDesired lib input (reportHost host bn)
        bn.spec.desiredImage digest = some inner ∧
      inner.reconciler.inflight =
        Section.after input.gap r.inflight
          (r.desiredSections lib input bn host digest) := by
  unfold reconcileDesired desiredSections
  have sameBooted : (reportHost host bn).status.booted =
      convertBootEntry host.booted := rfl
  rw [sameBooted]
  cases isBooted :
      infoMatchesDigest lib (convertBootEntry host.booted) digest with
  | true => exact ⟨_, rfl, rfl⟩
  | false =>
      simp only [Bool.false_eq_true, if_false]
      have sameTaken :
          (r.inflight.interleave (input.gap .takeErr)).takeErr =
            ((r.afterTakeErr input).1, (r.afterTakeErr input).2) := rfl
      rw [sameTaken]
      cases taken : (r.afterTakeErr input).1 with
      | some err =>
          have delay := backoff_of_takeErr taken (input.gap .backoff)
          simp only [Option.isSome_some, if_true]
          refine ⟨_, congrArg (Option.map _) delay, ?_⟩
          rfl
      | none =>
          simp only [Option.isSome_none, Bool.false_eq_true, if_false]
          refine ⟨_, rfl, ?_⟩
          change (r.actionOutcome lib input host bn
            digest).reconciler.inflight = _
          rw [actionOutcome, performAction_inflight]
          split
          · simp only [Section.after, run_acquire_spawn, Option.getD_some]
            rfl
          · rfl

theorem reconcileBootcNode_after (bn : BootcNode) :
    ∃ inner, r.reconcileBootcNode lib input bn = some inner ∧
      inner.reconciler.inflight =
        Section.after input.gap r.inflight
          (r.innerSections lib input bn) := by
  unfold reconcileBootcNode innerSections
  cases status : input.status with
  | error err =>
      simp only [populateBootcFields]
      exact ⟨_, rfl, rfl⟩
  | ok host =>
      simp only [populateBootcFields]
      have sameBooted : (reportHost host bn).status.booted =
          convertBootEntry host.booted := rfl
      rw [sameBooted]
      by_cases booted : convertBootEntry host.booted = none
      · rw [if_pos booted, if_pos booted]
        exact ⟨_, rfl, rfl⟩
      · rw [if_neg booted, if_neg booted]
        have sameImage : (reportHost host bn).spec.desiredImage =
            bn.spec.desiredImage := rfl
        rw [sameImage]
        cases parsed : lib.parseNamed bn.spec.desiredImage with
        | error err =>
            simp only [ReferenceLibrary.digestOf, parsed]
            exact ⟨_, rfl, rfl⟩
        | ok named =>
            cases digested : named.digest with
            | none =>
                simp only [ReferenceLibrary.digestOf, parsed, digested]
                exact ⟨_, rfl, rfl⟩
            | some digest =>
                simp only [ReferenceLibrary.digestOf, parsed, digested,
                  lib.text_of_parseNamed parsed]
                exact r.reconcileDesired_after bn host digest

theorem reconcile_inflight (stored : Option BootcNode) :
    (r.reconcile lib input stored).reconciler.inflight =
      Section.after input.gap r.inflight (r.script lib input stored) := by
  unfold reconcile script
  by_cases other : input.request ≠ r.nodeName
  · simp [other, Section.after]
  · by_cases issued : r.rebootIssued = true
    · simp [issued, Section.after]
    · cases getError : input.getError with
      | some err => simp [other, issued, Section.after]
      | none =>
          cases stored with
          | none => simp [other, issued, Section.after]
          | some orig =>
              simp only [other, issued, Bool.false_eq_true, if_false,
                Option.isSome_none, or_self]
              obtain ⟨inner, returned, inflight⟩ :=
                reconcileBootcNode_after lib input r
                  (started orig input.now)
              rw [after_append, ← inflight]
              simp only [started] at returned
              simp only [reconcileFound, returned]
              split
              · split
                · rfl
                · rw [issueReboot_inflight]
                  rfl
              · rw [issueReboot_inflight]
                rfl

theorem run_sections (stored : Option BootcNode) :
    machine.run r.inflight (r.sections lib input stored) =
      some (r.reconcile lib input stored).reconciler.inflight := by
  rw [sections, Section.run_actions (r.enabled_script lib input stored),
    reconcile_inflight]

end

end BootcNodeReconciler

end BootcOperator
