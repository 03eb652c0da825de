import BootcOperator.Effects.Observations
import BootcOperator.Effects.Tables
import BootcOperator.Properties.Provenance
import Mathlib.Data.List.Destutter

/-!
# Node transition events

Over the whole life of a BootcNode the controller announces each transition it
observes once.  The observation is persisted as one text, so two observations
must not have the same text: the images of the observations are references
with a digest, and the grammar of references keeps them apart whatever the
reasons are.
-/

namespace BootcOperator

open Program BootcNodePoolReconciler

section Texts

variable {α : Type}

/-- Two lists are cut at the same place by the first occurrence of a
separator. -/
theorem cut_at_first
    {separator : α} {front front' back back' : List α}
    (notFront : separator ∉ front) (notFront' : separator ∉ front')
    (same : front ++ separator :: back = front' ++ separator :: back') :
    front = front' ∧ back = back' := by
  rcases List.append_eq_append_iff.mp same with
    ⟨more, isFront', isBack⟩ | ⟨more, isFront, isBack'⟩
  · cases more with
    | nil => exact ⟨by simpa using isFront'.symm, by simpa using isBack⟩
    | cons x rest =>
        obtain ⟨rfl, _⟩ := List.cons.inj isBack
        exact (notFront' (by simp [isFront'])).elim
  · cases more with
    | nil => exact ⟨by simpa using isFront, by simpa using isBack'.symm⟩
    | cons x rest =>
        obtain ⟨rfl, _⟩ := List.cons.inj isBack'
        exact (notFront (by simp [isFront])).elim

/-- Two lists are cut at the same place by the last occurrence of a
separator. -/
theorem cut_at_last
    {separator : α} {front front' back back' : List α}
    (notBack : separator ∉ back) (notBack' : separator ∉ back')
    (same : front ++ separator :: back = front' ++ separator :: back') :
    front = front' ∧ back = back' := by
  have reversed : back.reverse ++ separator :: front.reverse =
      back'.reverse ++ separator :: front'.reverse := by
    simpa using congrArg List.reverse same
  obtain ⟨backs, fronts⟩ := cut_at_first (by simpa using notBack)
    (by simpa using notBack') reversed
  exact ⟨List.reverse_injective fronts, List.reverse_injective backs⟩

end Texts

/-- References as the grammar of `distribution/reference` has them: what
stands behind a colon in a name is not a name itself, and there is no `@` in a
digest. -/
structure ReferenceLibrary.Grammatical (lib : ReferenceLibrary) : Prop where
  names : ∀ {text text' named named'}, lib.parseNamed text = .ok named →
    lib.parseNamed text' = .ok named' →
      ∀ front : String, named'.trimmed ≠ front ++ ":" ++ named.trimmed
  digests : ∀ {text named digest}, lib.parseNamed text = .ok named →
    named.digest = some digest → '@' ∉ digest.toList

/-- The name of a reference with a digest. -/
def ReferenceLibrary.Names (lib : ReferenceLibrary) (image : String) : Prop :=
  ∃ text named digest, lib.parseNamed text = .ok named ∧
    '@' ∉ digest.toList ∧ image = named.trimmed ++ "@" ++ digest

theorem ReferenceLibrary.Grammatical.images
    {lib : ReferenceLibrary} (grammatical : lib.Grammatical)
    {image image' : String} (names : lib.Names image)
    (names' : lib.Names image') (front : List Char) :
    image'.toList ≠ front ++ ':' :: image.toList := by
  obtain ⟨text, named, digest, parsed, plain, rfl⟩ := names
  obtain ⟨text', named', digest', parsed', plain', rfl⟩ := names'
  intro same
  have characters : named'.trimmed.toList ++ '@' :: digest'.toList =
      (front ++ ':' :: named.trimmed.toList) ++ '@' :: digest.toList := by
    simpa using same
  have cut := (cut_at_last plain' plain characters).1
  refine grammatical.names parsed parsed' (String.ofList front)
    (String.toList_inj.mp ?_)
  simpa using cut

theorem ConditionStatus.text_injective
    {status status' : ConditionStatus} (same : status.text = status'.text) :
    status = status' := by
  cases status <;> cases status' <;> first | rfl | exact absurd same (by decide)

theorem ConditionStatus.no_colon (status : ConditionStatus) :
    ':' ∉ status.text.toList := by
  cases status <;> decide

/-- The text of an observation determines it. -/
theorem Observation.text_injective
    {lib : ReferenceLibrary} (grammatical : lib.Grammatical)
    {o p : Observation} (names : lib.Names o.image)
    (names' : lib.Names p.image) (same : o.text = p.text) : o = p := by
  have characters :
      o.status.text.toList ++ ':' :: (o.reason.toList ++ ':' :: o.image.toList) =
        p.status.text.toList ++
          ':' :: (p.reason.toList ++ ':' :: p.image.toList) := by
    simpa [Observation.text] using congrArg String.toList same
  obtain ⟨statuses, rest⟩ := cut_at_first o.status.no_colon p.status.no_colon
    characters
  have status := ConditionStatus.text_injective (String.toList_inj.mp statuses)
  -- the longer of two reasons would begin an image that ends with the other
  have reasonAndImage : o.reason = p.reason ∧ o.image = p.image := by
    rcases List.append_eq_append_iff.mp rest with
      ⟨more, isReason, isImage⟩ | ⟨more, isReason, isImage⟩
    · cases more with
      | nil =>
          exact ⟨String.toList_inj.mp (by simpa using isReason.symm),
            String.toList_inj.mp (by simpa using isImage)⟩
      | cons x more =>
          exact (grammatical.images names' names more
            (List.cons.inj isImage).2).elim
    · cases more with
      | nil =>
          exact ⟨String.toList_inj.mp (by simpa using isReason),
            String.toList_inj.mp (by simpa using isImage.symm)⟩
      | cons x more =>
          exact (grammatical.images names names' more
            (List.cons.inj isImage).2).elim
  cases o
  cases p
  simp_all

section Repetitions

variable {α : Type} [DecidableEq α]

theorem destutter'_append_one (first last : α) (l : List α) :
    (l ++ [last]).destutter' (· ≠ ·) first =
      if l.getLast?.getD first = last then l.destutter' (· ≠ ·) first
      else l.destutter' (· ≠ ·) first ++ [last] := by
  induction l generalizing first with
  | nil =>
      by_cases same : first = last <;> simp [List.destutter', same]
  | cons x rest ih =>
      have lastOf : (x :: rest).getLast?.getD first = rest.getLast?.getD x := by
        rw [List.getLast?_cons, Option.getD_some]
      rw [lastOf, List.cons_append]
      by_cases repeats : first = x
      · subst repeats
        rw [List.destutter'_cons_neg _ (by simp),
          List.destutter'_cons_neg _ (by simp)]
        exact ih first
      · rw [List.destutter'_cons_pos _ repeats,
          List.destutter'_cons_pos _ repeats, ih x]
        split_ifs <;> rfl

/-- One more element is kept unless it repeats the last one. -/
theorem destutter_append_one (l : List α) (last : α) :
    (l ++ [last]).destutter (· ≠ ·) =
      if l.getLast? = some last then l.destutter (· ≠ ·)
      else l.destutter (· ≠ ·) ++ [last] := by
  cases l with
  | nil => rfl
  | cons first rest =>
      rw [List.cons_append, List.destutter_cons', List.destutter_cons',
        destutter'_append_one, List.getLast?_cons]
      simp only [Option.some.injEq]

theorem getLast?_destutter (l : List α) :
    (l.destutter (· ≠ ·)).getLast? = l.getLast? := by
  induction l using List.reverseRecOn with
  | nil => rfl
  | append_singleton rest last ih =>
      rw [destutter_append_one]
      split_ifs with repeats
      · rw [ih, repeats, List.getLast?_concat]
      · simp

end Repetitions

/-! ## Runs -/

/-- The events that a sequence of observations calls for. -/
def dueEvents (afterActive : Bool) :
    List Observation → List (String × EventNote)
  | [] => []
  | o :: rest => (o.due afterActive).toList ++ dueEvents o.isActive rest

theorem dueEvents_append_one
    (afterActive : Bool) (l : List Observation) (o : Observation) :
    dueEvents afterActive (l ++ [o]) =
      dueEvents afterActive l ++
        (o.due ((l.getLast?.map Observation.isActive).getD
          afterActive)).toList := by
  induction l generalizing afterActive with
  | nil => simp [dueEvents]
  | cons first rest ih =>
      rw [List.cons_append, dueEvents, dueEvents, ih,
        List.append_assoc, List.getLast?_cons]
      cases rest.getLast? <;> rfl

/-- A run in which one node is watched: what the controller has observed on
its BootcNode so far, and the events it has emitted. -/
structure WatchedRun where
  world : World
  observed : List Observation
  emitted : List (String × EventNote)

inductive WatchAction where
  | reconcile (env : Env) (request : String)
  | others (world : World)

def WatchedRun.reconciled (s : WatchedRun) (r : BootcNodePoolReconciler)
    (name : String) (env : Env) (request : String) : WatchedRun :=
  let final := (r.reconcile env request (.start s.world)).2
  { world := final.world
    observed := s.observed ++ (observedIn r env request s.world name).toList
    emitted := s.emitted ++ announcements name final.log }

/-- A `Reconcile` of any pool, or anything that somebody else does, a restart
of the controller included. -/
def watchMachine (r : BootcNodePoolReconciler) (name : String) :
    Machine WatchedRun WatchAction where
  step s
    | .reconcile env request => some (s.reconciled r name env request)
    | .others world => some { s with world := world }

/-- The answers of a resolver are digests. -/
def PlainAnswers (env : Env) : Prop :=
  ∀ ref secretData digest, env.resolve ref secretData = .ok digest →
    '@' ∉ digest.toList

/-- The pass does not delete the BootcNode of the node. -/
def KeepsBootcNode (r : BootcNodePoolReconciler) (env : Env)
    (request : String) (w : World) (name : String) : Prop :=
  ∀ entry ∈ (r.reconcile env request (.start w)).2.log,
    entry.action.deletes name = false

/-- The steps in the life of a BootcNode in which every pass reads the marker
as it was last written, and all marker patches succeed.  Nobody else writes
the marker or the status of a pool. -/
def WatchStep (r : BootcNodePoolReconciler) (name : String)
    (s : WatchedRun) : WatchAction → Prop
  | .reconcile env request =>
      env.Faithful s.world ∧ PlainAnswers env ∧
        KeepsBootcNode r env request s.world name ∧
        env.fails (.markObserved name) = none
  | .others world =>
      EditsSpecs s.world world ∧ world.marker name = s.world.marker name

/-- No persisted digest has an `@` in it. -/
def PlainDigests (w : World) : Prop :=
  ∀ request pool, w.api.pool request = some pool →
    '@' ∉ pool.status.targetDigest.toList

/-- The BootcNode is not created yet, or nothing has been observed on it. -/
structure WatchStarts (name : String) (s : WatchedRun) : Prop where
  unmarked : s.world.marker name = none
  unobserved : s.observed = []
  silent : s.emitted = []
  digests : PlainDigests s.world

section Digests

variable {r : BootcNodePoolReconciler} {env : Env} {w : World}
  {pool : BootcNodePool}

/-- A pool settles on a reference that parses, and on a digest. -/
theorem names_of_settle
    (grammatical : r.references.Grammatical) (answers : PlainAnswers env)
    (plain : '@' ∉ pool.status.targetDigest.toList) {resolution : Resolution}
    (settled : r.settle env w pool = some resolution) :
    '@' ∉ resolution.pool.status.targetDigest.toList ∧
      r.references.Names (r.desiredImageFromPool resolution.pool) := by
  obtain ⟨secretData, _, resolved⟩ := settle_eq_some settled
  obtain ⟨named, parsed, outcome⟩ := resolveTargetDigest_cases resolved
  have digest : '@' ∉ resolution.pool.status.targetDigest.toList := by
    split_ifs at outcome
    · rcases outcome with isDigest | answered
      · exact grammatical.digests parsed isDigest
      · exact answers _ _ _ (answer_of_resolveTargetDigest resolved answered)
    · rw [outcome, targetDigest_clearPoolDegradedReason]
      exact plain
  have spec := (resolveTargetDigest_keeps resolved).2.2
  refine ⟨digest, _, named, _, parsed, digest, ?_⟩
  rw [desiredImageFromPool, spec, parsed]

theorem PlainDigests.reconcile
    (grammatical : r.references.Grammatical) (answers : PlainAnswers env)
    (faithful : env.Faithful w) (request : String) (plain : PlainDigests w) :
    PlainDigests (r.reconcile env request (.start w)).2.world := by
  have plainTargets : TargetsSatisfy (fun digest => '@' ∉ digest.toList) w :=
    plain
  exact plainTargets.reconcile faithful request
    fun pool resolution stored settled =>
      (names_of_settle grammatical answers (plain request pool stored)
        settled).1

/-- The images that are observed are references with a digest. -/
theorem names_of_observedIn
    (grammatical : r.references.Grammatical) (answers : PlainAnswers env)
    (faithful : env.Faithful w) (plain : PlainDigests w)
    {request name : String} {o : Observation}
    (observed : observedIn r env request w name = some o) :
    r.references.Names o.image := by
  obtain ⟨visited, visit, observed⟩ := Option.bind_eq_some_iff.mp observed
  obtain ⟨bn, owned, isObservation⟩ := Option.bind_eq_some_iff.mp observed
  obtain ⟨pool, resolution, stored, settled, _⟩ := visitOf_eq_some visit
  have targeted := (explained_of_visit faithful visit).1.targeted name bn owned
  have image : o.image = bn.spec.desiredImage := by
    obtain ⟨idle, _, isIdle⟩ := Option.map_eq_some_iff.mp isObservation
    rw [← isIdle]
  rw [image, targeted, PassContext.desiredImage,
    contextOf_pool r request env stored, settledPool, settled]
  exact (names_of_settle grammatical answers (plain request pool stored)
    settled).2

end Digests

/-- The events emitted are those due for the changes observed. -/
structure Announces (lib : ReferenceLibrary) (name : String)
    (s : WatchedRun) : Prop where
  digests : PlainDigests s.world
  images : ∀ o ∈ s.observed, lib.Names o.image
  marker : s.world.marker name = s.observed.getLast?.map Observation.text
  emitted : s.emitted = dueEvents false (s.observed.destutter (· ≠ ·))

section Announces

variable {lib : ReferenceLibrary} {name : String}

/-- The events of one more observation, compared with its text, are those it
calls for in the sequence. -/
theorem dueEvents_of_announced
    (grammatical : lib.Grammatical) {observed : List Observation}
    {o : Observation} (images : ∀ p ∈ observed, lib.Names p.image)
    (image : lib.Names o.image) :
    dueEvents false ((observed ++ [o]).destutter (· ≠ ·)) =
      dueEvents false (observed.destutter (· ≠ ·)) ++
        o.announced (observed.getLast?.map Observation.text) := by
  rw [destutter_append_one, Observation.announced]
  cases isLast : observed.getLast? with
  | none =>
      have fresh : "" ≠ o.text := o.text_ne_empty.symm
      have inactive : isActiveObservation "" = false := by decide
      simp [dueEvents_append_one, getLast?_destutter, isLast, fresh, inactive]
  | some last =>
      have lastImage := images last (List.mem_of_getLast? isLast)
      have sameText : last.text = o.text ↔ last = o :=
        ⟨fun same => Observation.text_injective grammatical lastImage image same,
          fun same => congrArg Observation.text same⟩
      simp only [Option.some.injEq, Option.map_some, Option.getD_some, sameText]
      split_ifs
      · simp
      · rw [dueEvents_append_one, getLast?_destutter, isLast,
          Observation.isActiveObservation_text, Option.map_some,
          Option.getD_some]

theorem Announces.step
    {r : BootcNodePoolReconciler} (grammatical : r.references.Grammatical)
    {s s' : WatchedRun} {action : WatchAction}
    (announces : Announces r.references name s)
    (meets : WatchStep r name s action)
    (stepped : (watchMachine r name).step s action = some s') :
    Announces r.references name s' := by
  cases action with
  | others world =>
      cases stepped
      obtain ⟨edits, marker⟩ := meets
      refine ⟨fun request pool stored => ?_, announces.images,
        marker.trans announces.marker, announces.emitted⟩
      rcases edits request pool stored with isEmpty | ⟨old, isOld, status⟩
      · rw [isEmpty]
        decide
      · rw [status]
        exact announces.digests request old isOld
  | reconcile env request =>
      cases stepped
      obtain ⟨faithful, answers, kept, succeeds⟩ := meets
      have digests := announces.digests.reconcile grammatical answers faithful
        request
      obtain ⟨events, marked⟩ := announcements_of_reconcile faithful kept
      have marker := marked succeeds
      cases observed : observedIn r env request s.world name with
      | none =>
          rw [observed] at events marker
          refine ⟨digests, ?_, ?_, ?_⟩
          · simpa [WatchedRun.reconciled, observed] using announces.images
          · rw [WatchedRun.reconciled, marker, announces.marker]
            simp [observed]
          · simp only [WatchedRun.reconciled, events, observed,
              announces.emitted]
            simp
      | some o =>
          have image := names_of_observedIn grammatical answers faithful
            announces.digests observed
          rw [observed] at events marker
          refine ⟨digests, ?_, ?_, ?_⟩
          · simp only [WatchedRun.reconciled, observed, Option.toList_some,
              List.mem_append, List.mem_singleton]
            rintro p (earlier | rfl)
            · exact announces.images p earlier
            · exact image
          · rw [WatchedRun.reconciled, marker]
            simp [observed]
          · simp only [WatchedRun.reconciled, observed, Option.toList_some]
            rw [dueEvents_of_announced grammatical announces.images image,
              ← announces.emitted, ← announces.marker, events]
            simp

end Announces

/-- Over the life of a BootcNode, with any number of restarts, the events are
those that the observations call for, repetitions removed, as long as the
marker patches succeed; and the event that a pass has to emit does not depend
on its marker patch. -/
theorem node_events_once
    (r : BootcNodePoolReconciler) (grammatical : r.references.Grammatical)
    (name : String) :
    (∀ {start s : WatchedRun} {actions : List WatchAction},
      WatchStarts name start →
      (watchMachine r name).Path (WatchStep r name) start actions s →
        s.emitted = dueEvents false (s.observed.destutter (· ≠ ·))) ∧
    ∀ {w : World} {env : Env} {request : String} {o : Observation},
      env.Faithful w → KeepsBootcNode r env request w name →
      observedIn r env request w name = some o →
      w.marker name ≠ some o.text →
        announcements name (r.reconcile env request (.start w)).2.log =
          (o.due (isActiveObservation ((w.marker name).getD ""))).toList := by
  constructor
  · intro start s actions starts path
    have begins : Announces r.references name start :=
      { digests := starts.digests
        images := by simp [starts.unobserved]
        marker := by simp [starts.unmarked, starts.unobserved]
        emitted := by simp [starts.silent, starts.unobserved, dueEvents] }
    exact (path.invariant (Announces r.references name)
      (fun announces meets stepped => announces.step grammatical meets stepped)
      begins).emitted
  · intro w env request o faithful kept observed changed
    obtain ⟨events, _⟩ := announcements_of_reconcile faithful kept
    have differs : (w.marker name).getD "" ≠ o.text := by
      cases marker : w.marker name with
      | none => exact o.text_ne_empty.symm
      | some text =>
          rw [marker] at changed
          exact fun same => changed (congrArg some same)
    rw [events, observed, Option.toList_some, List.flatMap_singleton,
      Observation.announced, if_neg differs]

def stagingNode : Tables :=
  { nodes := [("n1", plainNode)]
    bootcNodes :=
      [("n1",
        { stagedNode "os@b" "os@a" with
          annotations := .empty
          status :=
            { (stagedNode "os@b" "os@a").status with
              conditions :=
                [{ type := nodeIdle
                   status := .conditionFalse
                   reason := nodeReasonStaging
                   message := ""
                   observedGeneration := 1
                   lastTransitionTime := 0 }] } })]
    pools := [("workers", osPool "os@b")] }

/-- The daemon reports that it is idle. -/
def World.reportIdle (w : World) (name : String) : World :=
  w.putBootcNode name
    ((w.api.bootcNode name).map fun bn =>
      { bn with
        status :=
          { bn.status with
            conditions :=
              [{ type := nodeIdle
                 status := .conditionTrue
                 reason := nodeReasonIdle
                 message := ""
                 observedGeneration := 1
                 lastTransitionTime := 0 }] } })

/-- A table without colons in its names. -/
theorem grammatical_ofTable
    {table : List (String × String × Option String)}
    (names : ∀ entry ∈ table, ':' ∉ entry.2.1.toList)
    (digests : ∀ entry ∈ table, ∀ digest, entry.2.2 = some digest →
      '@' ∉ digest.toList) :
    (ReferenceLibrary.ofTable table).Grammatical where
  names := by
    intro text text' named named' parsed parsed' front same
    have plain := names _ (mem_of_parseNamed parsed')
    dsimp only at plain
    simp [same] at plain
  digests := fun parsed isDigest =>
    digests _ (mem_of_parseNamed parsed) _ isDigest

theorem grammatical_osLibrary : osLibrary.Grammatical :=
  grammatical_ofTable (by decide) (by decide)

def watchedStart : WatchedRun :=
  { world := stagingNode.world
    observed := []
    emitted := [] }

theorem watchStarts_watchedStart : WatchStarts "n1" watchedStart := by
  refine ⟨by decide, rfl, rfl, fun request pool stored => ?_⟩
  have listed : (request, pool) ∈ stagingNode.pools :=
    mem_of_lookup_eq_some stored
  obtain ⟨rfl, rfl⟩ : request = "workers" ∧ pool = osPool "os@b" := by
    simpa [stagingNode] using listed
  decide

/-- The node is looked at twice while it stages the image. -/
def watchedStaging : WatchedRun :=
  (watchedStart.reconciled osReconciler "n1" (.calm ["n1"] 0)
    "workers").reconciled osReconciler "n1" (.calm ["n1"] second) "workers"

def watchedReturn : WatchedRun :=
  { watchedStaging with world := watchedStaging.world.reportIdle "n1" }

theorem keepsBootcNode_of_all
    {r : BootcNodePoolReconciler} {env : Env} {request : String} {w : World}
    {name : String}
    (all : ((r.reconcile env request (.start w)).2.log.all fun entry =>
      !entry.action.deletes name) = true) :
    KeepsBootcNode r env request w name := by
  intro entry member
  simpa using List.all_eq_true.mp all entry member

/-- The write of the observation fails with a conflict. -/
def unmarkingEnv : Env :=
  { Env.calm ["n1"] (2 * second) with
    fails := fun call =>
      if call = .markObserved "n1" then some "conflict" else none }

theorem plainAnswers_calm (names : List String) (now : Time) :
    PlainAnswers (.calm names now) := by
  intro ref secretData digest answered
  cases answered

/-- Staging is announced once, and the return to idle even when its marker
cannot be written. -/
theorem node_events_of_one_update :
    watchedStaging.emitted = [(nodeReasonStaging, .nodeStaging "os@b")] ∧
      dueEvents false (watchedStaging.observed.destutter (· ≠ ·)) =
        watchedStaging.emitted ∧
      announcements "n1"
        (osReconciler.reconcile unmarkingEnv "workers"
          (.start watchedReturn.world)).2.log =
        [(nodeReasonIdle, .nodeIdle "os@b")] := by
  have within₀ : watchedStart.world.Within ["n1"] := stagingNode.within_names
  have faithful₀ : (Env.calm ["n1"] 0).Faithful watchedStart.world :=
    Env.faithful_calm within₀ (by decide)
  have within₁ := osReconciler.reconcile_within "workers" faithful₀ within₀
  have faithful₁ : (Env.calm ["n1"] second).Faithful
      (watchedStart.reconciled osReconciler "n1" (.calm ["n1"] 0)
        "workers").world := Env.faithful_calm within₁ (by decide)
  have within₂ : watchedStaging.world.Within ["n1"] :=
    osReconciler.reconcile_within "workers" faithful₁ within₁
  have path : (watchMachine osReconciler "n1").Path
      (WatchStep osReconciler "n1") watchedStart
      [.reconcile (.calm ["n1"] 0) "workers",
        .reconcile (.calm ["n1"] second) "workers"] watchedStaging :=
    .cons ⟨faithful₀, plainAnswers_calm _ _,
      keepsBootcNode_of_all (by decide +kernel), rfl⟩ rfl
      (.cons ⟨faithful₁, plainAnswers_calm _ _,
        keepsBootcNode_of_all (by decide +kernel), rfl⟩ rfl (.nil _))
  obtain ⟨once, unsuppressed⟩ :=
    node_events_once osReconciler grammatical_osLibrary "n1"
  refine ⟨by decide +kernel, (once watchStarts_watchedStart path).symm, ?_⟩
  have faithful₂ : unmarkingEnv.Faithful watchedReturn.world :=
    ⟨fun _ _ => rfl, fun _ => List.nodup_singleton "n1", fun _ =>
      within₂.putBootcNode (by decide) _⟩
  have observed : observedIn osReconciler unmarkingEnv "workers"
      watchedReturn.world "n1" =
        some ⟨.conditionTrue, nodeReasonIdle, "os@b"⟩ := by decide +kernel
  have events := unsuppressed faithful₂
    (keepsBootcNode_of_all (by decide +kernel)) observed (by decide +kernel)
  rw [events]
  decide +kernel

/-- The second pass lists the BootcNode as it was before the marker. -/
def watchedUnmarked : WatchedRun :=
  (watchedStart.reconciled osReconciler "n1" (.calm ["n1"] 0)
    "workers").reconciled osReconciler "n1"
      (.listing ["n1"] watchedStart.world.api.bootcNode) "workers"

/-- Every request succeeds and the node stays at one observation, whose event
is emitted by both passes. -/
theorem staging_announced_twice :
    WatchStarts "n1" watchedStart ∧
      (∀ call, (Env.calm ["n1"] 0).fails call = none ∧
        (Env.listing ["n1"] watchedStart.world.api.bootcNode).fails call =
          none) ∧
      watchedUnmarked.observed.destutter (· ≠ ·) =
        [⟨.conditionFalse, nodeReasonStaging, "os@b"⟩] ∧
      dueEvents false (watchedUnmarked.observed.destutter (· ≠ ·)) =
        [(nodeReasonStaging, .nodeStaging "os@b")] ∧
      watchedUnmarked.emitted =
        [(nodeReasonStaging, .nodeStaging "os@b"),
          (nodeReasonStaging, .nodeStaging "os@b")] := by
  refine ⟨watchStarts_watchedStart, fun _ => ⟨rfl, rfl⟩, ?_, ?_, ?_⟩ <;>
    decide +kernel

end BootcOperator
