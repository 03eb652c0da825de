import BootcOperator.Api.Types
import BootcOperator.Lib.Machine
import Mathlib.Logic.Function.Basic

/-!
# The status watcher of the daemon

`StatusWatcher` in `internal/daemon/watcher.go`: the cache of the host's bootc
status that the watcher loop and the reconcile worker share.  Both fill it by
`refresh`, which reads the host outside the lock and stores the result under
it, so a host read and its store are two steps of the machine.

`epoch`, `changes`, `latest`, `obtained` and `received` are history: no step
reads them.
-/

namespace BootcOperator

/-- A parsed result of `Executor.Status`. -/
structure Reading where
  status : HostStatus
  /-- how many changes of the host came before the read -/
  epoch : Nat
  deriving DecidableEq, Repr

/-- How far a call of `refresh` has come. -/
inductive RefreshPhase where
  | idle
  /-- `refresh` is called, the host is not yet read -/
  | called
  /-- the host is read, the result is not yet stored -/
  | read (reading : Reading)
  /-- `refreshAndNotify` has stored a change and not yet called `sendEvent` -/
  | notifying
  deriving DecidableEq, Repr

/-- Who calls `refresh`. -/
inductive Refresher where
  /-- the loop of `Start` -/
  | loop
  /-- `GetStatus`, called by the reconcile worker -/
  | worker
  deriving DecidableEq, Repr

/-- The bits of an fsnotify event the loop looks at. -/
structure FsnotifyEvent where
  chmod : Bool
  create : Bool
  deriving DecidableEq, Repr

/-- `StatusWatcher`, the goroutines that use it and the host. -/
structure StatusWatcher where
  host : HostStatus
  changes : Nat
  cached : Option Reading
  started : Bool
  /-- the loop of `Start` has not returned -/
  looping : Bool
  /-- `evCh` is open; the ticker runs otherwise -/
  fsnotify : Bool
  phase : Refresher → RefreshPhase
  /-- events waiting in `Events` -/
  events : Nat
  /-- the result of the latest host read that succeeded -/
  latest : Option Reading
  /-- what `GetStatus` returned last -/
  obtained : Option HostStatus
  /-- an event was received since the store of the cached value -/
  received : Bool

namespace StatusWatcher

def eventsCapacity : Nat := 1

def initial (host : HostStatus) : StatusWatcher :=
  { host := host
    changes := 0
    cached := none
    started := false
    looping := false
    fsnotify := false
    phase := fun _ => .idle
    events := 0
    latest := none
    obtained := none
    received := false }

def setPhase (w : StatusWatcher) (caller : Refresher) (phase : RefreshPhase) :
    StatusWatcher :=
  { w with phase := Function.update w.phase caller phase }

/-- `Start` up to its loop; `watches` tells whether `setupFsnotify` returned a
watcher. -/
def start (w : StatusWatcher) (watches : Bool) : StatusWatcher :=
  { w with started := true, looping := true, fsnotify := watches }

/-- `GetStatus` up to its return or its call of `refresh`. -/
def getStatus (w : StatusWatcher) : StatusWatcher :=
  match w.cached with
  | some reading =>
      if w.started then { w with obtained := some reading.status }
      else w.setPhase .worker .called
  | none => w.setPhase .worker .called

/-- The read of `refresh`; `Executor.Status` or `ParseStatus` may fail. -/
def readHost (w : StatusWatcher) (caller : Refresher) (err : Option String) :
    StatusWatcher :=
  match err with
  | some _ => w.setPhase caller .idle
  | none =>
      let reading : Reading := { status := w.host, epoch := w.changes }
      { w.setPhase caller (.read reading) with latest := some reading }

/-- `!reflect.DeepEqual(s, w.cached)` -/
def changed (w : StatusWatcher) (reading : Reading) : Bool :=
  w.cached.map Reading.status ≠ some reading.status

/-- The critical section of `refresh`. -/
def store (w : StatusWatcher) (reading : Reading) : StatusWatcher :=
  { w with
    cached := some reading
    received := if w.changed reading then false else w.received }

/-- What the caller of `refresh` does with its result. -/
def finish (w : StatusWatcher) (caller : Refresher) (reading : Reading) :
    StatusWatcher :=
  match caller with
  | .loop =>
      (w.store reading).setPhase .loop
        (if w.changed reading then .notifying else .idle)
  | .worker =>
      { (w.store reading).setPhase .worker .idle with
        obtained := some reading.status }

/-- A send that is dropped when the channel is full. -/
def sendEvent (w : StatusWatcher) : StatusWatcher :=
  if w.events < eventsCapacity then { w with events := w.events + 1 } else w

/-- One move of the watcher or of the host. -/
inductive Action where
  | hostChanges (status : HostStatus)
  | start (watches : Bool)
  | fsEvent (event : FsnotifyEvent)
  | fsError
  | tick
  /-- the loop sees that its context is done -/
  | stop
  | getStatus
  | readHost (caller : Refresher) (err : Option String)
  | store (caller : Refresher)
  | sendEvent
  | receive
  deriving DecidableEq, Repr

/-- The loop waits in its `select`. -/
def Selecting (w : StatusWatcher) : Prop :=
  w.looping = true ∧ w.phase .loop = .idle

instance (w : StatusWatcher) : Decidable w.Selecting :=
  inferInstanceAs (Decidable (_ ∧ _))

def step (w : StatusWatcher) : Action → Option StatusWatcher
  | .hostChanges status =>
      some { w with host := status, changes := w.changes + 1 }
  | .start watches =>
      if w.started then none else some (w.start watches)
  | .fsEvent event =>
      if w.Selecting ∧ w.fsnotify then
        some (if event.chmod || event.create then w.setPhase .loop .called
          else w)
      else none
  | .fsError =>
      if w.Selecting ∧ w.fsnotify then some { w with fsnotify := false }
      else none
  | .tick =>
      if w.Selecting ∧ ¬ w.fsnotify then some (w.setPhase .loop .called)
      else none
  | .stop =>
      if w.Selecting then some { w with looping := false } else none
  | .getStatus =>
      if w.phase .worker = .idle then some w.getStatus else none
  | .readHost caller err =>
      if w.phase caller = .called then some (w.readHost caller err) else none
  | .store caller =>
      match w.phase caller with
      | .read reading => some (w.finish caller reading)
      | _ => none
  | .sendEvent =>
      if w.phase .loop = .notifying then
        some (w.sendEvent.setPhase .loop .idle)
      else none
  | .receive =>
      if 0 < w.events then
        some { w with events := w.events - 1, received := true }
      else none

def machine : Machine StatusWatcher Action :=
  ⟨step⟩

/-- The state after a step, up to what no statement below speaks about. -/
inductive Stepped (w : StatusWatcher) : Action → StatusWatcher → Prop
  | aside {a : Action} {w' : StatusWatcher} :
      w'.cached = w.cached → w'.latest = w.latest → w'.phase = w.phase →
      w'.obtained = w.obtained → w'.events = w.events →
      w'.received = w.received → w.changes ≤ w'.changes → Stepped w a w'
  | moved {a : Action} {caller : Refresher} {phase : RefreshPhase} :
      w.phase caller = .idle ∨ w.phase caller = .called →
      phase = .idle ∨ phase = .called →
      Stepped w a (w.setPhase caller phase)
  | hit {reading : Reading} :
      w.cached = some reading →
      Stepped w .getStatus { w with obtained := some reading.status }
  | read {caller : Refresher} :
      w.phase caller = .called →
      Stepped w (.readHost caller none) (w.readHost caller none)
  | stored {caller : Refresher} {reading : Reading} :
      w.phase caller = .read reading →
      Stepped w (.store caller) (w.finish caller reading)
  | sent :
      w.phase .loop = .notifying →
      Stepped w .sendEvent (w.sendEvent.setPhase .loop .idle)
  | received :
      Stepped w .receive { w with events := w.events - 1, received := true }

variable {a : Action} {caller : Refresher} {reading : Reading}
  {actions : List Action}

section Steps

variable {w w' : StatusWatcher}

theorem stepped_getStatus (idle : w.phase .worker = .idle) :
    Stepped w .getStatus w.getStatus := by
  unfold getStatus
  split
  · next held =>
      split_ifs
      · exact .hit held
      · exact .moved (.inl idle) (.inr rfl)
  · exact .moved (.inl idle) (.inr rfl)

theorem stepped_readHost
    (called : w.phase caller = .called) (err : Option String) :
    Stepped w (.readHost caller err) (w.readHost caller err) := by
  cases err with
  | none => exact .read called
  | some message => exact .moved (.inr called) (.inl rfl)

theorem stepped_of_step (stepped : w.step a = some w') : Stepped w a w' := by
  cases a <;> simp only [step] at stepped
  case hostChanges status =>
    cases stepped
    exact .aside rfl rfl rfl rfl rfl rfl (Nat.le_succ _)
  case fsEvent event =>
    split at stepped
    · next ready =>
        cases stepped
        split_ifs
        · exact .moved (.inl ready.1.2) (.inr rfl)
        · exact .aside rfl rfl rfl rfl rfl rfl le_rfl
    · cases stepped
  case tick =>
    split at stepped
    · next ready =>
        cases stepped
        exact .moved (.inl ready.1.2) (.inr rfl)
    · cases stepped
  case getStatus =>
    split at stepped
    · next idle =>
        cases stepped
        exact stepped_getStatus idle
    · cases stepped
  case readHost caller err =>
    split at stepped
    · next called =>
        cases stepped
        exact stepped_readHost called err
    · cases stepped
  case store caller =>
    split at stepped
    · next read =>
        cases stepped
        exact .stored read
    · cases stepped
  case sendEvent =>
    split at stepped
    · next notifying =>
        cases stepped
        exact .sent notifying
    · cases stepped
  case receive =>
    split at stepped <;> cases stepped
    exact .received
  all_goals
    split at stepped <;> cases stepped
    exact .aside rfl rfl rfl rfl rfl rfl le_rfl

theorem finish_phase (w : StatusWatcher) (caller : Refresher)
    (reading : Reading) :
    ∃ phase, (∀ other, phase ≠ .read other) ∧
      (w.finish caller reading).phase =
        Function.update w.phase caller phase := by
  cases caller with
  | loop =>
      refine ⟨if w.changed reading then .notifying else .idle, ?_, rfl⟩
      intro other
      split_ifs <;> simp
  | worker => exact ⟨.idle, by simp, rfl⟩

@[simp]
theorem finish_cached (w : StatusWatcher) (caller : Refresher)
    (reading : Reading) :
    (w.finish caller reading).cached = some reading := by
  cases caller <;> rfl

@[simp]
theorem finish_latest (w : StatusWatcher) (caller : Refresher)
    (reading : Reading) :
    (w.finish caller reading).latest = w.latest := by
  cases caller <;> rfl

@[simp]
theorem finish_changes (w : StatusWatcher) (caller : Refresher)
    (reading : Reading) :
    (w.finish caller reading).changes = w.changes := by
  cases caller <;> rfl

@[simp]
theorem sendEvent_cached (w : StatusWatcher) :
    w.sendEvent.cached = w.cached := by
  unfold sendEvent; split_ifs <;> rfl

@[simp]
theorem sendEvent_latest (w : StatusWatcher) :
    w.sendEvent.latest = w.latest := by
  unfold sendEvent; split_ifs <;> rfl

@[simp]
theorem sendEvent_phase (w : StatusWatcher) :
    w.sendEvent.phase = w.phase := by
  unfold sendEvent; split_ifs <;> rfl

@[simp]
theorem sendEvent_changes (w : StatusWatcher) :
    w.sendEvent.changes = w.changes := by
  unfold sendEvent; split_ifs <;> rfl

end Steps

/-! ## The order of reads and stores -/

/-- The caller has read a status and not stored it. -/
def Unstored (w : StatusWatcher) (caller : Refresher) : Prop :=
  ∃ reading, w.phase caller = .read reading

/-- No refresh is under way. -/
def Quiescent (w : StatusWatcher) : Prop :=
  ∀ caller, w.phase caller = .idle

/-- The host is read only while no other refresh is between its read and its
store. -/
def ReadsAlone (w : StatusWatcher) : Action → Prop
  | .readHost caller _ => ∀ other, other ≠ caller → ¬ w.Unstored other
  | _ => True

/-- Stores come in the order of the reads. -/
structure Ordered (w : StatusWatcher) : Prop where
  unstored : ∀ caller reading, w.phase caller = .read reading →
    w.latest = some reading ∧ ∀ other, other ≠ caller → ¬ w.Unstored other
  settled : (∀ caller, ¬ w.Unstored caller) → w.cached = w.latest
  behind : ∀ old ∈ w.cached, ∃ reading ∈ w.latest, old.epoch ≤ reading.epoch
  past : ∀ reading ∈ w.latest, reading.epoch ≤ w.changes

/-- The cache of `w'` is not older than the cache of `w`. -/
def NotOlder (w w' : StatusWatcher) : Prop :=
  ∀ old ∈ w.cached, ∃ reading ∈ w'.cached, old.epoch ≤ reading.epoch

section Order

variable {w w' : StatusWatcher}

variable {phase : RefreshPhase}

theorem NotOlder.of_eq (same : w'.cached = w.cached) : w.NotOlder w' :=
  fun old held => ⟨old, same ▸ held, le_rfl⟩

theorem NotOlder.trans {w'' : StatusWatcher} (first : w.NotOlder w')
    (rest : w'.NotOlder w'') : w.NotOlder w'' := by
  intro old held
  obtain ⟨middle, heldNext, notLess⟩ := first old held
  obtain ⟨reading, heldLast, notLessNext⟩ := rest middle heldNext
  exact ⟨reading, heldLast, notLess.trans notLessNext⟩

theorem unstored_update
    {other : Refresher}
    (same : w'.phase = Function.update w.phase caller phase)
    (different : other ≠ caller) :
    w'.Unstored other ↔ w.Unstored other := by
  simp [Unstored, same, Function.update_of_ne different]

theorem not_unstored_update
    (same : w'.phase = Function.update w.phase caller phase)
    (notRead : ∀ reading, phase ≠ .read reading) :
    ¬ w'.Unstored caller := by
  rintro ⟨reading, read⟩
  rw [same, Function.update_self] at read
  exact notRead reading read

theorem Ordered.setPhase
    (ordered : w.Ordered) (before : ¬ w.Unstored caller)
    (notRead : ∀ reading, phase ≠ .read reading) :
    (w.setPhase caller phase).Ordered := by
  have unstored : ∀ other,
      (w.setPhase caller phase).Unstored other ↔ w.Unstored other := by
    intro other
    by_cases same : other = caller
    · subst same
      exact iff_of_false (not_unstored_update rfl notRead) before
    · exact unstored_update rfl same
  constructor
  · intro other reading read
    have different : other ≠ caller := by
      rintro rfl
      exact not_unstored_update rfl notRead ⟨reading, read⟩
    have readBefore : w.phase other = .read reading :=
      (Function.update_of_ne different ..).symm.trans read
    obtain ⟨isLatest, alone⟩ := ordered.unstored other reading readBefore
    refine ⟨isLatest, fun third distinct => ?_⟩
    rw [unstored]
    exact alone third distinct
  · intro none
    exact ordered.settled fun other => (unstored other).not.mp (none other)
  · exact ordered.behind
  · exact ordered.past

theorem Ordered.readHost
    (ordered : w.Ordered)
    (alone : ∀ other, other ≠ caller → ¬ w.Unstored other) :
    (w.readHost caller none).Ordered := by
  have others : ∀ other, other ≠ caller →
      ¬ (w.readHost caller none).Unstored other := by
    intro other different
    rw [unstored_update rfl different]
    exact alone other different
  have held : (w.readHost caller none).phase caller =
      .read { status := w.host, epoch := w.changes } :=
    Function.update_self ..
  constructor
  · intro other reading read
    have same : other = caller := by
      by_contra different
      exact others other different ⟨reading, read⟩
    subst same
    rw [held] at read
    cases read
    exact ⟨rfl, others⟩
  · exact fun none => (none caller ⟨_, held⟩).elim
  · intro old cached
    obtain ⟨reading, read, notLess⟩ := ordered.behind old cached
    exact ⟨_, rfl, notLess.trans (ordered.past reading read)⟩
  · rintro reading ⟨⟩
    exact le_rfl

theorem Ordered.finish
    (ordered : w.Ordered) (read : w.phase caller = .read reading) :
    (w.finish caller reading).Ordered := by
  obtain ⟨isLatest, alone⟩ := ordered.unstored caller reading read
  obtain ⟨phase, notRead, samePhase⟩ := w.finish_phase caller reading
  have none : ∀ other, ¬ (w.finish caller reading).Unstored other := by
    intro other
    by_cases same : other = caller
    · subst same
      exact not_unstored_update samePhase notRead
    · rw [unstored_update samePhase same]
      exact alone other same
  have agree : (w.finish caller reading).cached =
      (w.finish caller reading).latest := by
    rw [finish_cached, finish_latest, isLatest]
  constructor
  · intro other held stillRead
    exact (none other ⟨held, stillRead⟩).elim
  · exact fun _ => agree
  · intro old held
    exact ⟨old, agree ▸ held, le_rfl⟩
  · rw [finish_latest, finish_changes]
    exact ordered.past

theorem Ordered.of_eq
    (ordered : w.Ordered) (sameCached : w'.cached = w.cached)
    (sameLatest : w'.latest = w.latest) (samePhase : w'.phase = w.phase)
    (changes : w.changes ≤ w'.changes) :
    w'.Ordered := by
  have unstored : w'.Unstored = w.Unstored := by
    funext caller
    simp only [Unstored, samePhase]
  constructor
  · rw [samePhase, sameLatest, unstored]
    exact ordered.unstored
  · rw [sameCached, sameLatest, unstored]
    exact ordered.settled
  · rw [sameCached, sameLatest]
    exact ordered.behind
  · rw [sameLatest]
    exact fun reading read => (ordered.past reading read).trans changes

theorem Ordered.step
    (ordered : w.Ordered) (alone : w.ReadsAlone a)
    (stepped : w.step a = some w') :
    w'.Ordered := by
  cases stepped_of_step stepped with
  | aside sameCached sameLatest samePhase _ _ _ changes =>
      exact ordered.of_eq sameCached sameLatest samePhase changes
  | moved before after =>
      refine ordered.setPhase ?_ ?_
      · rintro ⟨reading, read⟩
        simp [read] at before
      · rintro reading rfl
        simp at after
  | hit _ => exact ordered.of_eq rfl rfl rfl le_rfl
  | read _ => exact ordered.readHost alone
  | stored read => exact ordered.finish read
  | sent notifying =>
      have sent : w.sendEvent.Ordered :=
        ordered.of_eq w.sendEvent_cached w.sendEvent_latest
          w.sendEvent_phase w.sendEvent_changes.ge
      exact sent.setPhase (by simp [Unstored, notifying]) (by simp)
  | received => exact ordered.of_eq rfl rfl rfl le_rfl

theorem Ordered.notOlder (ordered : w.Ordered) (stepped : w.step a = some w') :
    w.NotOlder w' := by
  cases stepped_of_step stepped with
  | aside sameCached _ _ _ _ _ _ => exact .of_eq sameCached
  | moved _ _ => exact .of_eq rfl
  | hit _ => exact .of_eq rfl
  | read _ => exact .of_eq rfl
  | stored read =>
      intro old held
      obtain ⟨reading, isLatest, notLess⟩ := ordered.behind old held
      rw [(ordered.unstored _ _ read).1] at isLatest
      cases isLatest
      exact ⟨_, finish_cached .., notLess⟩
  | sent _ => exact .of_eq w.sendEvent_cached
  | received => exact .of_eq rfl

theorem ordered_initial (host : HostStatus) : (initial host).Ordered where
  unstored := by simp [initial]
  settled := by simp [initial]
  behind := by simp [initial]
  past := by simp [initial]

theorem ordered_of_path
    {host : HostStatus}
    (path : machine.Path ReadsAlone (initial host) actions w) :
    w.Ordered :=
  path.invariant Ordered (fun ordered alone stepped =>
    ordered.step alone stepped) (ordered_initial host)

theorem notOlder_of_path
    (ordered : w.Ordered) (path : machine.Path ReadsAlone w actions w') :
    w.NotOlder w' := by
  have both := path.invariant (fun reached => reached.Ordered ∧
    w.NotOlder reached) ?_ ⟨ordered, .of_eq rfl⟩
  · exact both.2
  · rintro s a s' ⟨orderedHere, notOlder⟩ alone stepped
    exact ⟨orderedHere.step alone stepped,
      notOlder.trans (orderedHere.notOlder stepped)⟩

end Order

/-! ## What the reconciler learns -/

/-- The worker has the cached status, or is told of it. -/
def Informed (w : StatusWatcher) : Prop :=
  ∀ reading ∈ w.cached,
    w.obtained = some reading.status ∨ 0 < w.events ∨ w.received = true

/-- `Informed` up to the event the loop is about to send. -/
def Announced (w : StatusWatcher) : Prop :=
  w.phase .loop = .notifying ∨ w.Informed

section Announcements

variable {w w' : StatusWatcher}

theorem Announced.of_eq
    (announced : w.Announced) (sameLoop : w'.phase .loop = w.phase .loop)
    (sameCached : w'.cached = w.cached)
    (sameObtained : w'.obtained = w.obtained)
    (sameEvents : w'.events = w.events)
    (sameReceived : w'.received = w.received) :
    w'.Announced := by
  unfold Announced Informed at *
  rwa [sameLoop, sameCached, sameObtained, sameEvents, sameReceived]

theorem Announced.setPhase
    (announced : w.Announced)
    (before : w.phase caller = .idle ∨ w.phase caller = .called)
    (phase : RefreshPhase) :
    (w.setPhase caller phase).Announced := by
  rcases announced with notifying | informed
  · left
    have different : Refresher.loop ≠ caller := by
      rintro rfl
      simp [notifying] at before
    exact (Function.update_of_ne different ..).trans notifying
  · exact .inr informed

/-- A store that does not change the cached value keeps what the reconciler
knows of it. -/
theorem Informed.store
    (informed : w.Informed) (unchanged : w.changed reading = false) :
    (w.store reading).Informed := by
  have sameValue : w.cached.map Reading.status = some reading.status := by
    simpa [changed] using unchanged
  obtain ⟨old, held, same⟩ := Option.map_eq_some_iff.mp sameValue
  rintro new ⟨⟩
  have before := informed old held
  rw [same] at before
  simpa [StatusWatcher.store, unchanged] using before

theorem Announced.finish
    (announced : w.Announced) (read : w.phase caller = .read reading) :
    (w.finish caller reading).Announced := by
  cases caller with
  | worker =>
      right
      rintro other ⟨⟩
      exact .inl rfl
  | loop =>
      have informed := announced.resolve_left (by simp [read])
      cases isChanged : w.changed reading with
      | true =>
          left
          simp [StatusWatcher.finish, isChanged, StatusWatcher.setPhase]
      | false =>
          right
          exact informed.store isChanged

theorem informed_sendEvent (w : StatusWatcher) : w.sendEvent.Informed := by
  intro reading _
  right; left
  unfold sendEvent eventsCapacity
  split_ifs with room
  · exact Nat.succ_pos _
  · omega

theorem Announced.step
    (announced : w.Announced) (stepped : w.step a = some w') :
    w'.Announced := by
  cases stepped_of_step stepped with
  | aside sameCached _ samePhase sameObtained sameEvents sameReceived _ =>
      exact announced.of_eq (congrFun samePhase _) sameCached sameObtained
        sameEvents sameReceived
  | moved before _ => exact announced.setPhase before _
  | hit held =>
      right
      intro reading cached
      left
      exact congrArg (Option.map Reading.status) (held.symm.trans cached)
  | read called =>
      have moved := announced.setPhase (.inr called) (.read
        { status := w.host, epoch := w.changes })
      exact moved.of_eq rfl rfl rfl rfl rfl
  | stored read => exact announced.finish read
  | sent _ => exact .inr w.informed_sendEvent
  | received => exact .inr fun _ _ => .inr (.inr rfl)

theorem announced_of_path
    {condition : StatusWatcher → Action → Prop} {host : HostStatus}
    (path : machine.Path condition (initial host) actions w) :
    w.Announced :=
  path.invariant Announced (fun announced _ stepped =>
    announced.step stepped) (.inr (by simp [Informed, initial]))

end Announcements

/-! ## Convergence of the cache -/

/-- With no refresh in progress, the cache holds the result of the latest host
read and the reconciler knows or will know of it. -/
def Converged (w : StatusWatcher) : Prop :=
  w.Quiescent → w.cached = w.latest ∧ w.Informed

/-- In every run in which the host is read only while no other refresh is
between its read and its store, the cache converges and never goes back. -/
theorem status_cache_converges
    {host : HostStatus} {actions : List Action} {w : StatusWatcher}
    (path : machine.Path ReadsAlone (initial host) actions w) :
    w.Converged ∧
      ∀ rest w', machine.Path ReadsAlone w rest w' → w.NotOlder w' := by
  have ordered := ordered_of_path path
  have announced := announced_of_path path
  refine ⟨fun quiescent => ⟨ordered.settled ?_, ?_⟩, ?_⟩
  · rintro caller ⟨reading, read⟩
    simp [quiescent caller] at read
  · exact announced.resolve_left (by simp [quiescent .loop])
  · intro rest w' continued
    exact notOlder_of_path ordered continued

def hostEntry (version digest : String) : BootEntry :=
  { image := some
      { image := "quay.io/example/os:" ++ version
        version := some version
        timestamp := none
        imageDigest := digest
        architecture := "amd64" }
    incompatible := false
    softRebootCapable := false }

def unstagedHost : HostStatus :=
  { staged := none
    booted := some (hostEntry "1" "sha256:one")
    rollback := none }

def stagedHost : HostStatus :=
  { unstagedHost with staged := some (hostEntry "2" "sha256:two") }

/-- A cold `GetStatus`, then a change of the host the loop notices. -/
def sequentialRefreshes : List Action :=
  [.start true, .getStatus, .readHost .worker none, .store .worker,
    .hostChanges stagedHost, .fsEvent { chmod := true, create := false },
    .readHost .loop none, .store .loop, .sendEvent]

/-- One refresh after the other finds the staged image. -/
theorem status_cache_converges_sequential :
    ∃ w, machine.run (initial unstagedHost) sequentialRefreshes = some w ∧
      w.Quiescent ∧
      w.cached = some { status := stagedHost, epoch := 1 } ∧
      w.cached = w.latest ∧ w.Informed := by
  have path : machine.Path ReadsAlone (initial unstagedHost)
      sequentialRefreshes _ :=
    .cons trivial rfl <| .cons trivial rfl <|
      .cons (by rintro (_ | _) _ ⟨_, ⟨⟩⟩) rfl <| .cons trivial rfl <|
      .cons trivial rfl <| .cons trivial rfl <|
      .cons (by rintro (_ | _) _ ⟨_, ⟨⟩⟩) rfl <| .cons trivial rfl <|
      .cons trivial rfl <| .nil _
  refine ⟨_, rfl, ?_, rfl, (status_cache_converges path).1 ?_⟩ <;>
    intro caller <;> cases caller <;> rfl

/-- The worker reads the host, the host changes, and the loop reads and stores
the change before the worker stores what it has read. -/
def overtakenRefresh : List Action :=
  [.start true, .getStatus, .readHost .worker none,
    .hostChanges stagedHost, .fsEvent { chmod := true, create := false },
    .readHost .loop none, .store .loop, .sendEvent]

/-- The overtaken store takes the cache back, and the event the change has
caused makes the worker obtain the outdated status. -/
theorem overtaken_store_reverts_cache :
    ∃ w w',
      machine.run (initial unstagedHost) overtakenRefresh = some w ∧
      machine.run w [.store .worker, .receive, .getStatus] = some w' ∧
      ¬ w'.Converged ∧ ¬ w.NotOlder w' ∧
      w'.host = stagedHost ∧ w'.obtained = some unstagedHost := by
  refine ⟨_, _, rfl, rfl, ?_, ?_, rfl, rfl⟩
  · intro converged
    have agree := (converged fun caller => by cases caller <;> rfl).1
    cases agree
  · intro notOlder
    obtain ⟨reading, held, notLess⟩ := notOlder _ rfl
    cases held
    exact absurd notLess (by decide)

end StatusWatcher

end BootcOperator
