import BootcOperator.Daemon.Charges
import BootcOperator.Daemon.RebootDiscipline
import BootcOperator.Daemon.Watcher

/-!
# Repeated staging

The daemon together with its status watcher and the host.  A stage that
succeeds puts its image into the host's staged entry; the watcher's cache
learns of it only with a later refresh, while the in-flight marker is cleared
when the result is published.  A reconcile between the two starts the same
stage again.  As long as no reconcile decides from a cache that is behind the
host, and no cancelled stage succeeds, nothing is staged twice.
-/

namespace BootcOperator

/-- The host has this image staged. -/
def stagedIs (lib : ReferenceLibrary) (host : HostStatus) (image : String) :
    Bool :=
  match lib.digestOf image with
  | some digest =>
      infoMatchesDigest lib (convertBootEntry host.staged) digest
  | none => false

/-- A stage operation, the watcher with the host, and two histories:
`settled` is the desired image once its stage has succeeded, as long as it
stays desired and staged; `repeated` tells that the stage of a settled image
was started again. -/
structure Hosted where
  op : StageOp
  watcher : StatusWatcher
  settled : Option String
  repeated : Bool

namespace Hosted

open StageOp BootcNodeReconciler

section Steps

variable (lib : ReferenceLibrary) (stagedAs : String → BootEntry)
variable (desired : Option String)

/-- What is left of a settled image. -/
def keep (host : HostStatus) (settled : Option String) : Option String :=
  settled.filter fun image => desired = some image ∧ stagedIs lib host image

/-- The host after `Executor.Stage` has staged `image`. -/
def afterStage (watcher : StatusWatcher) (image : String) : StatusWatcher :=
  { watcher with
    host := { watcher.host with staged := some (stagedAs image) }
    changes := watcher.changes + 1 }

/-- What a step of the protocol that leads to `op` does to the host and to
the histories. -/
def advance (h : Hosted) (a : StageOp.Action) (op : StageOp) : Hosted :=
  match a with
  | .startStage i =>
      { h with
        op := op
        repeated :=
          h.repeated || decide (h.settled = some (h.op.runs i).image) }
  | .stageReturns i none =>
      let image := (h.op.runs i).image
      let watcher := afterStage stagedAs h.watcher image
      { h with
        op := op
        watcher := watcher
        settled := keep lib desired watcher.host
          (if desired = some image then some image else h.settled) }
  | _ => { h with op := op }

@[simp]
theorem advance_op (h : Hosted) (a : StageOp.Action) (op : StageOp) :
    (advance lib stagedAs desired h a op).op = op := by
  unfold advance
  split <;> rfl

def step (h : Hosted) (a : StageOp.Action) : Option Hosted :=
  (h.op.step a).map (advance lib stagedAs desired h a)

def machine : Machine Hosted StageOp.Action :=
  ⟨step lib stagedAs desired⟩

end Steps

/-- The phases before `Stage` is called. -/
def early : RunPhase → Bool
  | .acquired | .spawned | .holding | .checked => true
  | _ => false

/-- Once the desired image is settled, every operation that has not called
`Executor.Stage` is cancelled and has not passed its check. -/
structure Safe (lib : ReferenceLibrary) (desired : Option String)
    (h : Hosted) : Prop where
  inv : Inv h.op
  fresh : h.repeated = false
  settled : ∀ image, h.settled = some image →
    desired = some image ∧ stagedIs lib h.watcher.host image = true
  stopped : h.settled ≠ none → ∀ i < h.op.count,
    early (h.op.runs i).phase = true →
      (h.op.runs i).cancelled = true ∧ (h.op.runs i).phase ≠ .checked

/-- A stage whose context was cancelled does not succeed. -/
def Honest (h : Hosted) : StageOp.Action → Prop
  | .stageReturns i none => (h.op.runs i).cancelled = false
  | _ => True

section Invariant

variable {lib : ReferenceLibrary} {stagedAs : String → BootEntry}
variable {desired : Option String}

variable {h h' : Hosted} {image : String} {s : StageOp} {i : Nat}
  {a : StageOp.Action} {actions : List StageOp.Action}

theorem settled_keep
    {host : HostStatus} {settled : Option String}
    (kept : keep lib desired host settled = some image) :
    settled = some image ∧ desired = some image ∧
      stagedIs lib host image = true := by
  simp only [keep, Option.filter_eq_some_iff, decide_eq_true_eq] at kept
  exact kept

theorem stopped_setRun
    {run : RunCall} (stopped : ∀ j < s.count, early (s.runs j).phase = true →
      (s.runs j).cancelled = true ∧ (s.runs j).phase ≠ .checked)
    (changed : early run.phase = true →
      run.cancelled = true ∧ run.phase ≠ .checked) :
    ∀ j < s.count, early ((s.setRun i run).runs j).phase = true →
      ((s.setRun i run).runs j).cancelled = true ∧
        ((s.setRun i run).runs j).phase ≠ .checked := by
  intro j bound
  by_cases same : j = i
  · subst same
    simpa [setRun] using changed
  · simpa [setRun, same] using stopped j bound

/-- While a stage runs uncancelled, every earlier-phase operation is
cancelled and waits for `runMu`. -/
theorem stopped_of_staging
    (inv : Inv s) (bound : i < s.count) (staging : (s.runs i).phase = .staging)
    (uncancelled : (s.runs i).cancelled = false) :
    ∀ j < s.count, early (s.runs j).phase = true →
      (s.runs j).cancelled = true ∧ (s.runs j).phase ≠ .checked := by
  intro j below isEarly
  have different : j ≠ i := by
    rintro rfl
    simp [staging, early] at isEarly
  have holder := inv.mutex i bound (by simp [staging, RunPhase.holdsRunMu])
  constructor
  · by_contra live
    have wellI := inv.wellPhased i bound
    simp only [RunCall.WellPhased, staging] at wellI
    have unpublished : (s.runs j).published = false := by
      have wellJ := inv.wellPhased j below
      unfold RunCall.WellPhased at wellJ
      split at wellJ <;> simp_all [early]
    have currentI := inv.live i bound wellI.1 uncancelled
    have currentJ := inv.live j below unpublished (by simpa using live)
    rw [currentI, Option.some.injEq] at currentJ
    exact different currentJ.symm
  · intro checked
    have other := inv.mutex j below (by simp [checked, RunPhase.holdsRunMu])
    rw [holder, Option.some.injEq] at other
    exact different other.symm

theorem Safe.moved
    {op : StageOp} (safe : Safe lib desired h) (inv : Inv op)
    (stopped : h.settled ≠ none → ∀ i < op.count,
      early (op.runs i).phase = true →
        (op.runs i).cancelled = true ∧ (op.runs i).phase ≠ .checked) :
    Safe lib desired { h with op := op } :=
  ⟨inv, safe.fresh, safe.settled, stopped⟩

theorem Safe.stageReturns
    (safe : Safe lib desired h) (bound : i < h.op.count)
    (staging : (h.op.runs i).phase = .staging)
    (uncancelled : (h.op.runs i).cancelled = false)
    (inv : Inv (h.op.setPhase i (.stageReturned none))) :
    Safe lib desired
      { h with
        op := h.op.setPhase i (.stageReturned none)
        watcher := afterStage stagedAs h.watcher (h.op.runs i).image
        settled := keep lib desired
          (afterStage stagedAs h.watcher (h.op.runs i).image).host
          (if desired = some (h.op.runs i).image then
            some (h.op.runs i).image else h.settled) } := by
  refine ⟨inv, safe.fresh, ?_, fun _ => ?_⟩
  · intro image kept
    exact (settled_keep kept).2
  · exact stopped_setRun
      (stopped_of_staging safe.inv bound staging uncancelled)
      (by simp [early])

theorem Safe.step
    (safe : Safe lib desired h) (honest : Honest h a)
    (notAcquire : ∀ image, a ≠ .acquire image)
    (stepped : (machine lib stagedAs desired).step h a = some h') :
    Safe lib desired h' := by
  simp only [machine, Hosted.step, Option.map_eq_some_iff] at stepped
  obtain ⟨op, moved, rfl⟩ := stepped
  have inv := safe.inv.step moved
  cases a with
  | acquire image => exact (notAcquire image rfl).elim
  | takeErr | reset | isInFlight image =>
      cases moved
      exact safe.moved inv safe.stopped
  | receive =>
      simp only [StageOp.step] at moved
      split at moved <;> cases moved
      exact safe.moved inv safe.stopped
  | spawn i | lockRun i =>
      simp only [StageOp.step] at moved
      split at moved
      · next enabled =>
          cases moved
          refine safe.moved inv fun settled =>
            stopped_setRun (safe.stopped settled) ?_
          have before := safe.stopped settled i enabled.1
          simp_all [early]
      · cases moved
  | checkContext i =>
      simp only [StageOp.step] at moved
      split at moved
      · next enabled =>
          cases moved
          refine safe.moved inv fun settled =>
            stopped_setRun (safe.stopped settled) ?_
          have before := safe.stopped settled i enabled.1
          simp_all [early]
      · cases moved
  | startStage i =>
      simp only [StageOp.step] at moved
      split at moved
      · next enabled =>
          cases moved
          have unsettled : h.settled = none := by
            by_contra settled
            exact (safe.stopped settled i enabled.1
              (by simp [enabled.2, early])).2 enabled.2
          refine ⟨inv, ?_, ?_, ?_⟩
          · simp [advance, safe.fresh, unsettled]
          · simp [advance, unsettled]
          · simp [advance, unsettled]
      · cases moved
  | stageReturns i err =>
      simp only [StageOp.step] at moved
      split at moved
      · next enabled =>
          cases moved
          cases err with
          | some message =>
              exact safe.moved inv fun settled =>
                stopped_setRun (safe.stopped settled) (by simp [early])
          | none =>
              exact safe.stageReturns enabled.1 enabled.2 honest inv
      · cases moved
  | publish i =>
      simp only [StageOp.step] at moved
      split at moved
      · split at moved
        · cases moved
          refine safe.moved inv fun settled => ?_
          unfold StageOp.publish
          split
          · exact stopped_setRun (safe.stopped settled) (by simp [early])
          · exact stopped_setRun (safe.stopped settled) (by simp [early])
        · cases moved
      · cases moved
  | send i | unlockRun i =>
      simp only [StageOp.step] at moved
      split at moved
      · cases moved
        exact safe.moved inv fun settled =>
          stopped_setRun (safe.stopped settled) (by simp [early])
      · cases moved

theorem Safe.acquire
    (safe : Safe lib desired h) (unsettled : h.settled = none)
    (stepped : (machine lib stagedAs desired).step h (.acquire image) =
      some h') :
    Safe lib desired h' := by
  cases stepped
  exact ⟨safe.inv.acquire image, safe.fresh, safe.settled,
    fun settled => (settled unsettled).elim⟩

theorem path_of_op
    {condition : StageOp → StageOp.Action → Prop} {s' : StageOp}
    (path : StageOp.machine.Path condition s actions s') (sameOp : h.op = s) :
    ∃ h', h'.op = s' ∧ (machine lib stagedAs desired).Path
      (fun h a => condition h.op a) h actions h' := by
  induction path generalizing h with
  | nil s => exact ⟨h, sameOp, .nil _⟩
  | @cons s middle s' a rest meets stepped _ ih =>
      subst sameOp
      have moved : (machine lib stagedAs desired).step h a =
          some (advance lib stagedAs desired h a middle) := by
        simp only [StageOp.machine] at stepped
        simp [machine, Hosted.step, stepped]
      obtain ⟨h', sameEnd, later⟩ :=
        ih (advance_op lib stagedAs desired h a middle)
      exact ⟨h', sameEnd, .cons meets moved later⟩

theorem Safe.path
    {end' : Hosted} (safe : Safe lib desired h)
    (path : (machine lib stagedAs desired).Path Honest h actions h')
    (notAcquire : (machine lib stagedAs desired).Path
      (fun h a => NotAcquire h.op a) h actions end') :
    Safe lib desired h' :=
  (path.and notAcquire).invariant (Safe lib desired)
    (fun safe meets stepped => safe.step meets.1 meets.2 stepped) safe

theorem Safe.moves
    {gap : List StageOp.Action} (safe : Safe lib desired h)
    (path : (machine lib stagedAs desired).Path Honest h (h.op.moves gap) h') :
    Safe lib desired h' := by
  have opPath := path_moves notAcquire_of_byRun h.op gap
  obtain ⟨end', -, notAcquire⟩ : ∃ end' : Hosted, _ ∧
      (machine lib stagedAs desired).Path _ h (h.op.moves gap) end' :=
    path_of_op opPath rfl
  exact safe.path path notAcquire

theorem Safe.work
    (safe : Safe lib desired h) (notAcquire : ∀ image, a ≠ .acquire image)
    (path : (machine lib stagedAs desired).Path Honest h [a] h') :
    Safe lib desired h' := by
  cases path with
  | cons honest stepped done =>
      cases done
      exact safe.step honest notAcquire stepped

theorem run_op_of_path
    {condition : Hosted → StageOp.Action → Prop}
    (path : (machine lib stagedAs desired).Path condition h actions h') :
    StageOp.machine.run h.op actions = some h'.op := by
  induction path with
  | nil h => rfl
  | cons _ stepped _ ih =>
      simp only [machine, Hosted.step, Option.map_eq_some_iff] at stepped
      obtain ⟨op, moved, rfl⟩ := stepped
      rw [advance_op] at ih
      simpa [Machine.run, StageOp.machine, moved] using ih

/-- The path through one section, cut where the worker enters it and where
its work is done. -/
theorem path_section
    {condition : Hosted → StageOp.Action → Prop}
    {gap : LockPoint → List StageOp.Action} {next : Section}
    {rest : List Section}
    (path : (machine lib stagedAs desired).Path condition h
      (Section.actions gap h.op (next :: rest)) h') :
    ∃ entered worked,
      entered.op = h.op.interleave (gap next.point) ∧
      (machine lib stagedAs desired).Path condition h
        (h.op.moves (gap next.point)) entered ∧
      (machine lib stagedAs desired).Path condition entered
        (next.work entered.op) worked ∧
      (machine lib stagedAs desired).Path condition worked
        (Section.actions gap worked.op rest) h' := by
  rw [Section.actions, List.append_assoc] at path
  obtain ⟨entered, moved, path⟩ := path.of_append
  have sameOp : entered.op = h.op.interleave (gap next.point) := by
    have run := run_op_of_path moved
    rw [run_moves, Option.some.injEq] at run
    exact run.symm
  rw [← sameOp] at path
  obtain ⟨worked, work, later⟩ := path.of_append
  rw [run_op_of_path work, Option.getD_some] at later
  exact ⟨entered, worked, sameOp, moved, work, later⟩

/-- Nothing is settled and `image` is not in flight. -/
def Unsettled (image : String) (h : Hosted) : Prop :=
  h.settled = none ∧ (h.op.cancel ≠ none → h.op.image ≠ image)

/-- The `run` calls do not settle an image that is not in flight. -/
theorem Unsettled.step
    (unsettled : Unsettled image h) (safe : Safe lib desired h)
    (isDesired : desired = some image) (honest : Honest h a)
    (byRun : a.runOf.isSome ∨ a = .receive)
    (stepped : (machine lib stagedAs desired).step h a = some h') :
    Unsettled image h' := by
  simp only [machine, Hosted.step, Option.map_eq_some_iff] at stepped
  obtain ⟨op, moved, rfl⟩ := stepped
  unfold advance
  have notInFlight : op.cancel ≠ none → op.image ≠ image := by
    intro current
    rcases remains_of_run_step byRun moved with published | ⟨cancel, same⟩
    · exact (current published).elim
    · rw [same]
      exact unsettled.2 (cancel ▸ current)
  split
  · exact ⟨unsettled.1, notInFlight⟩
  · next i =>
      refine ⟨?_, notInFlight⟩
      simp only [StageOp.step] at moved
      split at moved
      · next enabled =>
          have well := safe.inv.wellPhased i enabled.1
          simp only [RunCall.WellPhased, enabled.2] at well
          have current := safe.inv.live i enabled.1 well.1 honest
          have other : (h.op.runs i).image ≠ image := by
            rw [← (safe.inv.cancel_spec i current).2.2.2]
            exact unsettled.2 (by simp [current])
          have notDesired : ¬ image = (h.op.runs i).image :=
            fun same => other same.symm
          simp [keep, isDesired, unsettled.1, notDesired]
      · cases moved
  · exact ⟨unsettled.1, notInFlight⟩

theorem Unsettled.path
    {gap : List StageOp.Action} (unsettled : Unsettled image h)
    (safe : Safe lib desired h) (isDesired : desired = some image)
    (path : (machine lib stagedAs desired).Path Honest h (h.op.moves gap) h') :
    Unsettled image h' ∧ Safe lib desired h' := by
  have opPath : StageOp.machine.Path
      (fun _ a => a.runOf.isSome ∨ a = .receive) h.op (h.op.moves gap) _ :=
    path_moves (fun _ _ byRun => byRun) h.op gap
  obtain ⟨end', -, byRun⟩ : ∃ end' : Hosted, _ ∧
      (machine lib stagedAs desired).Path _ h (h.op.moves gap) end' :=
    path_of_op opPath rfl
  refine (path.and byRun).invariant
    (fun h => Unsettled image h ∧ Safe lib desired h)
    ?_ ⟨unsettled, safe⟩
  rintro h a h' ⟨unsettled, safe⟩ ⟨honest, byRun⟩ stepped
  exact ⟨unsettled.step safe isDesired honest byRun stepped,
    safe.step honest (notAcquire_of_byRun h.op a byRun) stepped⟩

end Invariant

/-! ## The sections of a reconcile -/

/-- The condition on the steps during a reconcile that obtained `status`: a
cancelled stage does not succeed, and when the reconcile looks for a stage in
flight while the desired image is the host's staged entry, the status it
obtained shows that entry. -/
def Current (lib : ReferenceLibrary) (status : Except String HostStatus)
    (h : Hosted) : StageOp.Action → Prop
  | .isInFlight image =>
      ∀ host, status = .ok host →
        stagedIs lib h.watcher.host image = true →
          stagedIs lib host image = true
  | a => Honest h a

theorem honest_of_current
    {lib : ReferenceLibrary} {status : Except String HostStatus}
    {h : Hosted} {a : StageOp.Action} (current : Current lib status h a) :
    Honest h a := by
  cases a with
  | isInFlight image => trivial
  | _ => exact current

theorem path_honest
    {lib : ReferenceLibrary} {stagedAs : String → BootEntry}
    {desired : Option String} {status : Except String HostStatus}
    {h h' : Hosted} {actions : List StageOp.Action}
    (path : (machine lib stagedAs desired).Path (Current lib status) h
      actions h') :
    (machine lib stagedAs desired).Path Honest h actions h' :=
  path.mono fun _ _ current => honest_of_current current

end Hosted

namespace BootcNodeReconciler

open StageOp Hosted

section Reconcile

variable {lib : ReferenceLibrary} {stagedAs : String → BootEntry}

variable {input : ReconcileInput} {h h' : Hosted}

/-- A stage that is started is for an image the obtained status does not show
as staged. -/
theorem not_staged_of_stage
    {inflight : StageOp} {bn : BootcNode} {digest image : String}
    (starts : classifyAction lib inflight bn digest image = .stage) :
    infoMatchesDigest lib bn.status.staged digest = false := by
  unfold classifyAction at starts
  cases staged : infoMatchesDigest lib bn.status.staged digest with
  | false => rfl
  | true =>
      simp only [staged, not_true_eq_false, if_false] at starts
      split at starts <;> cases starts

/-- A list of sections without an `acquire` keeps the invariant. -/
theorem safe_of_sections
    {desired : Option String} {sections : List Section}
    (safe : Safe lib desired h)
    (work : Section.Work NotAcquire input.gap h.op sections)
    (path : (Hosted.machine lib stagedAs desired).Path Honest h
      (Section.actions input.gap h.op sections) h') :
    Safe lib desired h' := by
  have opPath := Section.path_actions notAcquire_of_byRun work
  obtain ⟨end', -, notAcquire⟩ : ∃ end' : Hosted, _ ∧
      (Hosted.machine lib stagedAs desired).Path _ h _ end' :=
    Hosted.path_of_op opPath rfl
  exact safe.path path notAcquire

/-- The sections of a reconcile that starts a stage. -/
theorem safe_of_starts
    {r : BootcNodeReconciler} {stored : Option BootcNode} {orig : BootcNode}
    {host : HostStatus} {digest : String} (sameOp : h.op = r.inflight)
    (acquires : Starts lib input r stored orig host digest)
    (safe : Safe lib (some orig.spec.desiredImage) h)
    (path : (Hosted.machine lib stagedAs (some orig.spec.desiredImage)).Path
      (Current lib input.status) h
      (Section.actions input.gap h.op
        (stagingSections orig.spec.desiredImage ++
          [⟨.atReturn, fun _ => []⟩])) h') :
    Safe lib (some orig.spec.desiredImage) h' := by
  -- `takeErr`
  obtain ⟨h1, h2, sameOp1, gap1, work1, path⟩ := path_section path
  have safe2 := (safe.moves (path_honest gap1)).work (by simp)
    (path_honest work1)
  have sameOp2 : h2.op = (r.afterTakeErr input).2 := by
    have run := run_op_of_path work1
    rw [sameOp1, sameOp] at run
    exact (Option.some.inj run).symm
  -- `isInFlight`: the image is not in flight and not settled
  obtain ⟨h3, h4, sameOp3, gap2, work2, path⟩ := path_section path
  have safe3 := safe2.moves (path_honest gap2)
  have sameOp3' : h3.op =
      (r.beforeAction input
        (reportHost host (started orig input.now))).inflight := by
    rw [sameOp3, sameOp2]
    rfl
  have isInformed : Current lib input.status h3
      (.isInFlight orig.spec.desiredImage) ∧ h4 = h3 := by
    cases work2 with
    | cons current looked done =>
        cases done
        cases looked
        exact ⟨current, rfl⟩
  obtain ⟨informed, same⟩ := isInformed
  subst same
  have unsettled : Unsettled orig.spec.desiredImage h4 := by
    refine ⟨?_, fun _ => ?_⟩
    · cases settled : h4.settled with
      | none => rfl
      | some image =>
          obtain ⟨isDesired, staged⟩ := safe3.settled image settled
          cases isDesired
          have shown := informed host acquires.status staged
          have notStaged : infoMatchesDigest lib
              (convertBootEntry host.staged) digest = false :=
            not_staged_of_stage acquires.starts
          simp [stagedIs, acquires.desired, notStaged] at shown
    · rw [sameOp3']
      exact not_inFlight_of_stage acquires.starts
  -- `acquire`
  obtain ⟨h5, h6, sameOp5, gap3, work3, path⟩ := path_section path
  obtain ⟨unsettled5, safe5⟩ := unsettled.path safe3 rfl (path_honest gap3)
  have safe6 : Safe lib (some orig.spec.desiredImage) h6 := by
    cases work3 with
    | cons _ acquired spawned =>
        exact (safe5.acquire unsettled5.1 acquired).work (by simp)
          (path_honest spawned)
  have atReturn : Section.Work NotAcquire input.gap h6.op
      [⟨.atReturn, fun _ => []⟩] :=
    ⟨_, .nil _, trivial⟩
  exact safe_of_sections safe6 atReturn (path_honest path)

theorem safe_of_reconcile
    {r : BootcNodeReconciler} {stored : Option BootcNode}
    (sameOp : h.op = r.inflight)
    (safe : Safe lib (stored.map (·.spec.desiredImage)) h)
    (path : (Hosted.machine lib stagedAs
        (stored.map (·.spec.desiredImage))).Path
      (Current lib input.status) h (r.sections lib input stored) h') :
    Safe lib (stored.map (·.spec.desiredImage)) h' := by
  rw [BootcNodeReconciler.sections, ← sameOp] at path
  rcases r.script_cases lib input stored
    with quiet | ⟨orig, host, digest, acquires⟩
  · exact safe_of_sections safe (quiet h.op) (path_honest path)
  · rw [acquires.script] at path
    have read := acquires.read
    subst read
    exact safe_of_starts sameOp acquires safe path

end Reconcile

end BootcNodeReconciler

/-! ## The daemon with its watcher and host -/

/-- The daemon, its watcher with the host, what `GetStatus` returned to the
reconcile that is going on, and the histories of `Hosted`. -/
structure StagingSystem where
  daemon : DaemonSystem
  watcher : StatusWatcher
  fetched : Option (Except String HostStatus)
  settled : Option String
  repeated : Bool

/-- One move of the daemon, its watcher or the host. -/
inductive StagingAction where
  /-- the controller or a user changes the BootcNode -/
  | change (bootcNode : Option BootcNode)
  /-- the host changes, or the watcher or `GetStatus` moves -/
  | watch (action : StatusWatcher.Action)
  /-- a `run` call moves, or an event is taken from `done` -/
  | run (action : StageOp.Action)
  /-- a reconcile with the status it has obtained -/
  | reconcile (input : ReconcileInput)

namespace StagingSystem

open StageOp Hosted BootcNodeReconciler

/-- The status that `GetStatus` last returned. -/
def fetchedAfter (w : StatusWatcher)
    (fetched : Option (Except String HostStatus)) :
    StatusWatcher.Action → Option (Except String HostStatus)
  | .getStatus =>
      if w.phase .worker = .idle then w.obtained.map .ok else fetched
  | .store .worker => w.obtained.map .ok
  | .readHost .worker (some err) => some (.error err)
  | _ => fetched

/-- The stage operation and the watcher of the system. -/
def hosted (s : StagingSystem) : Hosted :=
  ⟨s.daemon.reconciler.inflight, s.watcher, s.settled, s.repeated⟩

def sections (lib : ReferenceLibrary) (s : StagingSystem)
    (input : ReconcileInput) : List StageOp.Action :=
  s.daemon.reconciler.sections lib input s.daemon.bootcNode

section Machine

variable (lib : ReferenceLibrary) (stagedAs : String → BootEntry)

def step (s : StagingSystem) : StagingAction → Option StagingSystem
  | .change bootcNode =>
      some
        { s with
          daemon := { s.daemon with bootcNode := bootcNode }
          settled := keep lib (bootcNode.map (·.spec.desiredImage))
            s.watcher.host s.settled }
  | .watch action =>
      (s.watcher.step action).map fun watcher =>
        { s with
          watcher := watcher
          fetched := fetchedAfter watcher s.fetched action
          settled := keep lib s.daemon.desired watcher.host s.settled }
  | .run action =>
      if action.runOf.isSome ∨ action = .receive then
        (s.hosted.step lib stagedAs s.daemon.desired action).map fun h =>
          { s with
            daemon :=
              { s.daemon with
                reconciler := { s.daemon.reconciler with inflight := h.op } }
            watcher := h.watcher
            settled := h.settled
            repeated := h.repeated }
      else none
  | .reconcile input =>
      -- a reconcile that returns before `GetStatus` changes nothing
      if s.fetched = some input.status then
        ((Hosted.machine lib stagedAs s.daemon.desired).run s.hosted
            (s.sections lib input)).map fun h =>
          { daemon := s.daemon.afterReconcile lib input
            watcher := h.watcher
            fetched := none
            settled := h.settled
            repeated := h.repeated }
      else none

def machine : Machine StagingSystem StagingAction :=
  ⟨step lib stagedAs⟩

/-- The condition on the steps: a cancelled stage does not succeed, and no
reconcile decides from a status that is behind the host's staged entry. -/
def Synced (s : StagingSystem) : StagingAction → Prop
  | .run action => Honest s.hosted action
  | .reconcile input =>
      ∃ h, (Hosted.machine lib stagedAs s.daemon.desired).Path
        (Current lib input.status) s.hosted (s.sections lib input) h
  | _ => True

end Machine

def initial (nodeName : String) (bootcNode : Option BootcNode)
    (host : HostStatus) (watches : Bool) : StagingSystem :=
  { daemon := .initial nodeName bootcNode
    watcher := (StatusWatcher.initial host).start watches
    fetched := none
    settled := none
    repeated := false }

variable {lib : ReferenceLibrary} {stagedAs : String → BootEntry}

/-- The invariant with another desired image or another host. -/
theorem safe_keep
    {s : StagingSystem} {desired desired' : Option String}
    {watcher : StatusWatcher} (safe : Safe lib desired s.hosted) :
    Safe lib desired'
      ⟨s.daemon.reconciler.inflight, watcher,
        keep lib desired' watcher.host s.settled, s.repeated⟩ := by
  refine ⟨safe.inv, safe.fresh, ?_, ?_⟩
  · intro image kept
    exact (settled_keep kept).2
  · intro settled
    obtain ⟨image, kept⟩ := Option.ne_none_iff_exists'.mp settled
    refine safe.stopped ?_
    rw [show s.hosted.settled = some image from (settled_keep kept).1]
    simp

theorem safe_step
    {s s' : StagingSystem} {a : StagingAction}
    (safe : Safe lib s.daemon.desired s.hosted)
    (synced : Synced lib stagedAs s a)
    (stepped : (machine lib stagedAs).step s a = some s') :
    Safe lib s'.daemon.desired s'.hosted := by
  cases a with
  | change bootcNode =>
      cases stepped
      exact safe_keep safe
  | watch action =>
      simp only [machine, StagingSystem.step, Option.map_eq_some_iff]
        at stepped
      obtain ⟨watcher, -, rfl⟩ := stepped
      exact safe_keep safe
  | run action =>
      simp only [machine, StagingSystem.step] at stepped
      split at stepped
      · next byRun =>
          rw [Option.map_eq_some_iff] at stepped
          obtain ⟨h, moved, rfl⟩ := stepped
          exact safe.step synced
            (notAcquire_of_byRun s.hosted.op action byRun) moved
      · cases stepped
  | reconcile input =>
      simp only [machine, StagingSystem.step] at stepped
      split at stepped
      · rw [Option.map_eq_some_iff] at stepped
        obtain ⟨h, moved, rfl⟩ := stepped
        obtain ⟨h', path⟩ := synced
        have same := path.run_eq
        rw [moved, Option.some.injEq] at same
        subst same
        have inflight : (s.daemon.afterReconcile lib
            input).reconciler.inflight = h.op := by
          have run := run_op_of_path path
          rw [sections, show s.hosted.op = s.daemon.reconciler.inflight
            from rfl, run_sections, Option.some.injEq] at run
          exact run
        have desired : (s.daemon.afterReconcile lib input).desired =
            s.daemon.desired :=
          s.daemon.reconciler.reconcile_desiredImage lib input
            s.daemon.bootcNode
        change Safe lib (s.daemon.afterReconcile lib input).desired
          ⟨(s.daemon.afterReconcile lib input).reconciler.inflight,
            h.watcher, h.settled, h.repeated⟩
        rw [inflight, desired]
        exact safe_of_reconcile rfl safe path
      · cases stepped

/-- In every run whose steps are `Synced`, no stage of a settled image is
started again. -/
theorem no_repeated_staging
    {nodeName : String} {bootcNode : Option BootcNode} {host : HostStatus}
    {watches : Bool} {actions : List StagingAction} {s : StagingSystem}
    (path : (machine lib stagedAs).Path (Synced lib stagedAs)
      (initial nodeName bootcNode host watches) actions s) :
    s.repeated = false := by
  have start : Safe lib (initial nodeName bootcNode host
      watches).daemon.desired (initial nodeName bootcNode host
        watches).hosted :=
    { inv := inv_initial
      fresh := rfl
      settled := fun _ settled => nomatch settled
      stopped := fun settled => (settled rfl).elim }
  exact (path.invariant
    (fun s => Safe lib s.daemon.desired s.hosted)
    (fun safe synced stepped => safe_step safe synced stepped) start).fresh

/-- `os@b` is desired; the cold cache is filled, the stage of `os@b` is
started and succeeds. -/
def stagingRun : List StagingAction :=
  [.watch .getStatus, .watch (.readHost .worker none),
    .watch (.store .worker),
    .reconcile (calmInput DaemonSystem.hostOnA),
    .run (.lockRun 0), .run (.checkContext 0), .run (.startStage 0),
    .run (.stageReturns 0 none), .run (.publish 0), .run (.send 0)]

/-- The watcher notices the staged image before the next reconcile. -/
def refreshedRun : List StagingAction :=
  stagingRun ++
    [.watch (.fsEvent { chmod := true, create := false }),
      .watch (.readHost .loop none), .watch (.store .loop),
      .watch .getStatus, .reconcile (calmInput hostStagedB),
      .run .receive, .run (.unlockRun 0)]

/-- The event of the finished stage comes before the refresh. -/
def overtakingRun : List StagingAction :=
  stagingRun ++
    [.run .receive, .watch .getStatus,
      .reconcile (calmInput DaemonSystem.hostOnA),
      .run (.unlockRun 0), .run (.lockRun 1), .run (.checkContext 1),
      .run (.startStage 1)]

def stagedEntry (image : String) : BootEntry :=
  bootEntry image "b"

def retargetedSystem : StagingSystem :=
  initial "n" (some retargetedNode) DaemonSystem.hostOnA true

def refreshedSystem : StagingSystem :=
  ((machine osLibrary stagedEntry).run retargetedSystem refreshedRun).getD
    retargetedSystem

/-- With the cache refreshed, `os@b` is staged once. -/
theorem no_repeated_staging_refreshed :
    refreshedSystem.settled = some "os@b" ∧
      refreshedSystem.repeated = false := by
  have path : (machine osLibrary stagedEntry).Path
      (Synced osLibrary stagedEntry) retargetedSystem refreshedRun
      refreshedSystem := by
    refine .cons trivial rfl <| .cons trivial rfl <| .cons trivial rfl <|
      .cons ?_ rfl <| .cons trivial rfl <| .cons trivial rfl <|
      .cons trivial rfl <| .cons rfl rfl <| .cons trivial rfl <|
      .cons trivial rfl <| .cons trivial rfl <| .cons trivial rfl <|
      .cons trivial rfl <| .cons trivial rfl <| .cons ?_ rfl <|
      .cons trivial rfl <| .cons trivial rfl <| .nil _
    · refine ⟨_, .cons trivial rfl (.cons ?_ rfl (.cons trivial rfl
        (.cons trivial rfl (.nil _))))⟩
      intro host status staged
      exact absurd staged (by decide)
    · refine ⟨_, .cons trivial rfl (.cons ?_ rfl (.nil _))⟩
      intro host status _
      cases status
      decide
  exact ⟨rfl, no_repeated_staging path⟩

/-- The reconcile of the finished stage still obtains the old status and
stages `os@b` a second time. -/
theorem stage_repeated_from_stale_cache :
    ∃ s, (machine osLibrary stagedEntry).run retargetedSystem
        overtakingRun = some s ∧
      s.settled = some "os@b" ∧
      stagedIs osLibrary s.watcher.host "os@b" = true ∧
      s.daemon.desired = some "os@b" ∧ s.repeated = true := by
  exact ⟨_, rfl, rfl, by decide, rfl, rfl⟩

end StagingSystem

end BootcOperator
