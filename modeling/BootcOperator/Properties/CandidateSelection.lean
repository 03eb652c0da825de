import BootcOperator.Effects.Candidates
import BootcOperator.Effects.Diagnosis
import BootcOperator.Effects.Quiet
import BootcOperator.Effects.Tables

/-!
# The selection of candidates

A rollout pass that is not halted gives its free slots to the first eligible
candidates in the order of their names, and to nobody else; every node that
then holds a slot, is eligible and not yet approved has a drain.
-/

namespace BootcOperator

open Program BootcNodePoolReconciler

variable {env : Env} {s s' : PassState} {name : String} {t t' a d : PassState}
  {names : List String}

/-! ## Collecting drains -/

theorem DrainSettled.congr
    (settled : DrainSettled name t t') (before : t.cell name = s.cell name)
    (after : s'.cell name = t'.cell name) : DrainSettled name s s' := by
  have ownedBefore : t.owned name = s.owned name :=
    congrArg (fun cell => cell.owned) before
  have drainBefore : t.world.drains name = s.world.drains name :=
    congrArg Cell.drain before
  have ownedAfter : s'.owned name = t'.owned name :=
    congrArg (fun cell => cell.owned) after
  have storedAfter : s'.world.api.bootcNode name =
      t'.world.api.bootcNode name :=
    congrArg (fun cell => cell.bootcNode) after
  have drainAfter : s'.world.drains name = t'.world.drains name :=
    congrArg Cell.drain after
  refine ⟨fun bn owned => ?_, ?_, fun status present isRunning => ?_⟩
  · rw [storedAfter]
    exact settled.tracked bn (ownedAfter ▸ owned)
  · rw [ownedAfter, ← ownedBefore]
    exact settled.core
  · rw [drainAfter]
    exact settled.running status (drainBefore.trans present) isRunning

/-- Only the cell of its node is touched by the body of a loop. -/
theorem keepsCell_of_confined
    {α : Type} {admitted : Action → Bool} {other : String} {m : Pass α}
    (confined : Moves (Confined admitted other) m)
    (different : other ≠ name) :
    Moves (Keeping fun s : PassState => s.cell name) m :=
  fun s => (confined s).elsewhere name different.symm

theorem tracked_congr
    (same : t.cell name = s.cell name) (tracked : s.Tracked name) :
    t.Tracked name := by
  intro bn owned
  have sameOwned : t.owned name = s.owned name :=
    congrArg (fun cell => cell.owned) same
  have sameStored : t.world.api.bootcNode name = s.world.api.bootcNode name :=
    congrArg (fun cell => cell.bootcNode) same
  rw [sameStored]
  exact tracked bn (sameOwned ▸ owned)

theorem drainSettled_of_collectDrainResults
    (nodup : (env.order .drainResults).Nodup) (tracked : s.Tracked name)
    (returned : collectDrainResults env s = (.ok (), s')) :
    DrainSettled name s s' := by
  have confined (other : String) :
      Moves (Confined Action.settles other) (collectDrainResult env other) :=
    confined_collectDrainResult env (.self _)
  by_cases member : name ∈ env.order .drainResults
  · obtain ⟨mid, mid', atMid, visited, final⟩ :=
      part_of_forEach_ok (fun s => s.cell name) nodup member
        (fun other different =>
          keepsCell_of_confined (confined other) different) returned
    exact (ok_of_collectDrainResult (tracked_congr atMid tracked)
      visited).congr atMid final
  · have kept : Moves (Keeping fun s : PassState => s.cell name)
        (collectDrainResults env) :=
      Moves.forEach_mem fun other isOther =>
        keepsCell_of_confined (confined other) fun same =>
          member (same ▸ isOther)
    have same := kept s
    rw [returned] at same
    exact (DrainSettled.refl tracked).congr rfl same

/-! ## Freeing slots -/

/-- One element of a list without repetitions fails a test that it has passed
before. -/
theorem length_filter_of_one_fewer
    (nodup : names.Nodup) (member : name ∈ names)
    {before after : String → Bool} (was : before name = true)
    (isNot : after name = false)
    (others : ∀ other, other ≠ name → after other = before other) :
    ((names.filter after).length : Int) = (names.filter before).length - 1 := by
  have erased : names.filter after = (names.filter before).erase name := by
    rw [(nodup.filter _).erase_eq_filter, List.filter_filter]
    refine List.filter_congr fun other _ => ?_
    by_cases same : other = name
    · simp [same, isNot]
    · simp [same, others other same]
  have isMember : name ∈ names.filter before :=
    List.mem_filter.mpr ⟨member, was⟩
  have positive := List.length_pos_of_mem isMember
  rw [erased, List.length_erase_of_mem isMember]
  omega

theorem holdsSlot_congr (same : t.cell name = s.cell name) :
    t.holdsSlot name = s.holdsSlot name := by
  have sameOwned : t.owned name = s.owned name :=
    congrArg (fun cell => cell.owned) same
  simp only [PassState.holdsSlot, slottedWith, sameOwned]

/-- What holds in the loop over the completed nodes, with the names of the pool
and the completed nodes to come. -/
structure SlotsSettled (names completed : List String) (a : PassState)
    (rest : List String) (t : PassState) : Prop where
  nodup : rest.Nodup
  listed : ∀ name ∈ rest, name ∈ names ∧ name ∈ completed
  unvisited : ∀ name ∈ rest, t.cell name = a.cell name
  tracked : ∀ name, t.Tracked name
  count : t.rs.occupiedSlots = (names.filter t.holdsSlot).length
  held : ∀ name, t.holdsSlot name = true → a.holdsSlot name = true
  claims : ∀ claimName,
    (∀ name ∈ completed, ∀ node, a.world.api.node name = some node →
      ¬ node.RefersTo claimName) →
    t.world.api.nodeClaim claimName = a.world.api.nodeClaim claimName

theorem SlotsSettled.step
    {completed rest : List String} (fresh : env.Fresh)
    (namesNodup : names.Nodup)
    (settled : SlotsSettled names completed a (name :: rest) t)
    (returned : freeCompletedSlot env name t = (.ok (), t')) :
    SlotsSettled names completed a rest t' := by
  obtain ⟨notLater, nodup⟩ := List.nodup_cons.mp settled.nodup
  have here := settled.unvisited name (by simp)
  obtain ⟨isListed, isCompleted⟩ := settled.listed name (by simp)
  have slot := ok_of_freeCompletedSlot fresh (settled.tracked name) returned
  have confined : Confined Action.settles name t
      (freeCompletedSlot env name t).2 :=
    confined_freeCompletedSlot env (.self _) t
  rw [returned] at confined
  have elsewhere : ∀ other, other ≠ name → t'.cell other = t.cell other :=
    confined.elsewhere
  refine ⟨nodup, fun other later => settled.listed other (by simp [later]),
    fun other later => ?_, fun other => ?_, ?_, fun other => ?_,
    fun claimName unrelated => ?_⟩
  · have different : other ≠ name := fun same => notLater (same ▸ later)
    exact (elsewhere other different).trans
      (settled.unvisited other (by simp [later]))
  · by_cases same : other = name
    · exact same ▸ slot.tracked
    · exact tracked_congr (elsewhere other same) (settled.tracked other)
  · rcases slot.count with ⟨sameSlot, sameCount⟩ | ⟨was, isNot, fewer⟩
    · rw [sameCount, settled.count]
      congr 2
      refine List.filter_congr fun other _ => ?_
      by_cases same : other = name
      · rw [same, sameSlot]
      · exact (holdsSlot_congr (elsewhere other same)).symm
    · rw [fewer, settled.count]
      exact (length_filter_of_one_fewer namesNodup isListed was isNot
        fun other different => holdsSlot_congr (elsewhere other
          different)).symm
  · intro held
    by_cases same : other = name
    · subst same
      rcases slot.count with ⟨sameSlot, _⟩ | ⟨_, isNot, _⟩
      · exact settled.held other (sameSlot ▸ held)
      · rw [isNot] at held
        cases held
    · rw [holdsSlot_congr (elsewhere other same)] at held
      exact settled.held other held
  · rw [slot.claims claimName, settled.claims claimName unrelated]
    intro node present
    have sameNode : t.world.api.node name = a.world.api.node name :=
      congrArg (fun cell => cell.node) here
    exact unrelated name isCompleted node (sameNode ▸ present)

theorem SlotsSettled.of_freeCompletedSlots
    (fresh : env.Fresh) (namesNodup : names.Nodup)
    (tracked : ∀ name, a.Tracked name) (nodup : a.rs.upToDate.Nodup)
    (listed : ∀ name ∈ a.rs.upToDate, name ∈ names)
    (count : a.rs.occupiedSlots = (names.filter a.holdsSlot).length)
    (returned : freeCompletedSlots env a = (.ok (), s')) :
    SlotsSettled names a.rs.upToDate a [] s' := by
  have loop := ok_of_bindRead returned
  refine forEach_ok_invariant (SlotsSettled names a.rs.upToDate a)
    (fun name rest t t' settled visited =>
      settled.step fresh namesNodup visited) ?_ loop
  exact ⟨nodup, fun name member => ⟨listed name member, member⟩,
    fun _ _ => rfl, tracked, count, fun _ held => held, fun _ _ => rfl⟩

theorem cell_of_freeCompletedSlots
    (unfinished : name ∉ s.rs.upToDate)
    (returned : freeCompletedSlots env s = (.ok (), s')) :
    s'.cell name = s.cell name := by
  have loop := ok_of_bindRead returned
  have kept : Moves (Keeping fun s : PassState => s.cell name)
      (forEach s.rs.upToDate (freeCompletedSlot env)) :=
    Moves.forEach_mem fun other isOther => keepsCell_of_confined
      (confined_freeCompletedSlot env (.self Action.settles)) fun same =>
        unfinished (same ▸ isOther)
  have same := kept s
  rw [loop] at same
  exact same

/-! ## Processing candidates -/

/-- A BootcNode apart from its annotations. -/
def BootcNode.work (bn : BootcNode) : BootcNodeSpec × BootcNodeStatus :=
  (bn.spec, bn.status)

/-- What holds in the loops over the candidates, with the nodes that were given
a slot, for the first time or again. -/
structure Selecting (a : PassState) (chosen : Set String) (t : PassState) :
    Prop where
  tracked : ∀ name, t.Tracked name
  work : ∀ name, (t.owned name).map BootcNode.work =
    (a.owned name).map BootcNode.work
  nodes : ∀ name, (t.world.api.node name).map Node.disruption =
    (a.world.api.node name).map Node.disruption
  undisturbed : DisruptionKept a t
  shared : t.shared = a.shared
  occupied : t.rs.occupiedSlots = a.rs.occupiedSlots
  others : ∀ name, name ∉ chosen → t.cell name = a.cell name
  slotted : ∀ name ∈ chosen, t.holdsSlot name = true
  claims : ∀ claimName,
    (∀ name ∈ chosen, ∀ node, a.world.api.node name = some node →
      ¬ node.RefersTo claimName) →
    t.world.api.nodeClaim claimName = a.world.api.nodeClaim claimName
  log : ∃ done, t.log = a.log ++ done ∧ ∀ entry ∈ done, ∃ name ∈ chosen,
    Allowed Action.keepsSlots name entry.action

section

variable {chosen : Set String}

theorem Selecting.start (tracked : ∀ name, a.Tracked name) :
    Selecting a ∅ a where
  tracked := tracked
  work _ := rfl
  nodes _ := rfl
  undisturbed := refl a
  shared := rfl
  occupied := rfl
  others _ _ := rfl
  slotted _ member := member.elim
  claims _ _ := rfl
  log := ⟨[], by simp, by simp⟩

theorem Selecting.isEligible
    (selecting : Selecting a chosen t) (name : String) :
    t.world.api.isEligible name = a.world.api.isEligible name :=
  Cluster.isEligible_congr (selecting.nodes name)
    selecting.undisturbed.claims

theorem keepsOccupied_processCandidate (env : Env) (name : String) :
    Moves (Keeping fun s : PassState => s.rs.occupiedSlots)
      (processCandidate env name) := by
  have lift {α : Type} {m : Pass α} (keeps : KeepsRollout m) :
      Moves (Keeping fun s : PassState => s.rs.occupiedSlots) m :=
    fun s => congrArg RolloutState.occupiedSlots (keeps s)
  have requeue : Moves (Keeping fun s : PassState => s.rs.occupiedSlots)
      requeueForKarpenter := Moves.update fun _ => rfl
  refine Moves.bind (Moves.read _) fun owned => ?_
  cases owned with
  | none => exact Moves.ret _
  | some bn =>
      refine Moves.bind (lift (readsOnly_getNode env _
        name).keepsRollout.mapError) fun node => ?_
      refine Moves.bind (lift (readsOnly_isKarpenterDisruptionActive env _
        node).keepsRollout.mapError) fun disruption => ?_
      refine Moves.ite (Moves.bind requeue fun _ => Moves.ret _) ?_
      refine Moves.bind (lift (keepsRollout_assignRebootSlot env name bn node
        _).mapError) fun _ => ?_
      exact Moves.ite (Moves.bind requeue fun _ => Moves.ret _) (Moves.ret _)

/-- A candidate that is not eligible is left alone. -/
theorem Selecting.skip
    (selecting : Selecting a chosen t) (world : t'.world = t.world)
    (owned : t'.owned = t.owned) (log : t'.log = t.log)
    (shared : t'.shared = t.shared)
    (occupied : t'.rs.occupiedSlots = t.rs.occupiedSlots) :
    Selecting a chosen t' := by
  have cells : ∀ name, t'.cell name = t.cell name := by
    intro name
    simp only [PassState.cell, PassState.look, world, owned]
  refine
    { tracked := fun name => tracked_congr (cells name)
        (selecting.tracked name)
      work := fun name => owned ▸ selecting.work name
      nodes := fun name => world ▸ selecting.nodes name
      undisturbed := ⟨world ▸ selecting.undisturbed.drains,
        world ▸ selecting.undisturbed.claims⟩
      shared := shared.trans selecting.shared
      occupied := occupied.trans selecting.occupied
      others := fun name isOther => (cells name).trans
        (selecting.others name isOther)
      slotted := fun name isChosen => (holdsSlot_congr (cells name)).trans
        (selecting.slotted name isChosen)
      claims := fun claimName unrelated =>
        world ▸ selecting.claims claimName unrelated
      log := log ▸ selecting.log }

/-- A candidate that is eligible is given a slot. -/
theorem Selecting.assign
    {bn : BootcNode} {node : Node} (selecting : Selecting a chosen t)
    (isNew : name ∉ chosen) (owned : t.owned name = some bn)
    (present : t.world.api.node name = some node)
    (assigned : SlotAssigned name bn node t t')
    (confined : Confined Action.keepsSlots name t t')
    (undisturbed : DisruptionKept t t')
    (occupied : t'.rs.occupiedSlots = t.rs.occupiedSlots) :
    Selecting a (insert name chosen) t' := by
  obtain ⟨annotations, slot, owned', stored'⟩ := assigned.owned
  obtain ⟨node', present', sameNode⟩ := assigned.patched
  have here := selecting.others name isNew
  have presentBefore : a.world.api.node name = some node :=
    (congrArg (fun cell => cell.node) here).symm.trans present
  refine
    { tracked := fun other => ?_
      work := fun other => ?_
      nodes := fun other => ?_
      undisturbed := IsTrans.trans _ _ _ selecting.undisturbed undisturbed
      shared := confined.shared.trans selecting.shared
      occupied := occupied.trans selecting.occupied
      others := fun other isOther => ?_
      slotted := fun other isChosen => ?_
      claims := fun claimName unrelated => ?_
      log := ?_ }
  · by_cases same : other = name
    · subst same
      intro bn' isOwned
      rw [owned', Option.some.injEq] at isOwned
      rw [stored', isOwned]
    · exact tracked_congr (confined.elsewhere other same)
        (selecting.tracked other)
  · by_cases same : other = name
    · subst same
      rw [← selecting.work other, owned', owned]
      rfl
    · rw [show t'.owned other = t.owned other from
        congrArg (fun cell => cell.owned) (confined.elsewhere other same)]
      exact selecting.work other
  · by_cases same : other = name
    · subst same
      rw [present', presentBefore, Option.map_some, Option.map_some,
        sameNode]
    · rw [show t'.world.api.node other = t.world.api.node other from
        congrArg (fun cell => cell.node) (confined.elsewhere other same)]
      exact selecting.nodes other
  · rw [Set.mem_insert_iff, not_or] at isOther
    exact (confined.elsewhere other isOther.1).trans
      (selecting.others other isOther.2)
  · by_cases same : other = name
    · subst same
      rw [PassState.holdsSlot_of_owned owned']
      exact slot
    · rw [holdsSlot_congr (confined.elsewhere other same)]
      exact selecting.slotted other (isChosen.resolve_left same)
  · rw [assigned.claims claimName (unrelated name (Set.mem_insert _ _) node
      presentBefore)]
    exact selecting.claims claimName fun other isChosen =>
      unrelated other (Set.mem_insert_of_mem _ isChosen)
  · obtain ⟨before, isBefore, allowedBefore⟩ := selecting.log
    obtain ⟨after, isAfter, allowedAfter⟩ := confined.log
    refine ⟨before ++ after, by rw [isAfter, isBefore, List.append_assoc],
      fun entry member => ?_⟩
    rcases List.mem_append.mp member with earlier | later
    · obtain ⟨other, isChosen, allowed⟩ := allowedBefore entry earlier
      exact ⟨other, Set.mem_insert_of_mem _ isChosen, allowed⟩
    · exact ⟨name, Set.mem_insert _ _, allowedAfter entry later⟩

/-- A candidate is given a slot exactly when it is eligible. -/
theorem Selecting.step
    {isSlotted : Bool} (fresh : env.Fresh) (selecting : Selecting a chosen t)
    (isNew : name ∉ chosen) (isOwned : a.owned name ≠ none)
    (returned : processCandidate env name t = (.ok isSlotted, t')) :
    isSlotted = a.world.api.isEligible name ∧
      Selecting a (if isSlotted then insert name chosen else chosen) t' := by
  have here := selecting.others name isNew
  obtain ⟨bn, isBn⟩ := Option.ne_none_iff_exists'.mp isOwned
  have owned : t.owned name = some bn :=
    (congrArg (fun cell => cell.owned) here).trans isBn
  have confined : Confined Action.keepsSlots name t
      (processCandidate env name t).2 :=
    confined_processCandidate env (.self _) t
  have undisturbed := disruptionKept_processCandidate env name t
  have occupied : (processCandidate env name t).2.rs.occupiedSlots =
      t.rs.occupiedSlots := keepsOccupied_processCandidate env name t
  rw [returned] at confined undisturbed occupied
  obtain ⟨isEligible, node, present, outcome⟩ :=
    ok_of_processCandidate fresh owned (selecting.tracked name) returned
  refine ⟨isEligible.trans (selecting.isEligible name), ?_⟩
  cases isSlotted with
  | true =>
      exact selecting.assign isNew owned present outcome confined undisturbed
        occupied
  | false =>
      obtain ⟨world, sameOwned, log⟩ := outcome
      exact selecting.skip world sameOwned log confined.shared occupied

/-- The loop over the candidates that hold a slot. -/
theorem selecting_of_slotted
    {slotted : List String} (fresh : env.Fresh)
    (tracked : ∀ name, a.Tracked name) (nodup : slotted.Nodup)
    (owned : ∀ name ∈ slotted, a.owned name ≠ none)
    (returned : forEach slotted (retryCandidate env) a = (.ok (), s')) :
    Selecting a {name | name ∈ slotted ∧
      a.world.api.isEligible name = true} s' := by
  let inv (rest : List String) (t : PassState) : Prop :=
    ∃ done, slotted = done ++ rest ∧
      Selecting a {name | name ∈ done ∧
        a.world.api.isEligible name = true} t
  have final : inv [] s' := by
    refine forEach_ok_invariant inv ?_ ⟨[], rfl, ?_⟩ returned
    · rintro name rest t t' ⟨done, split, selecting⟩ visited
      obtain ⟨isSlotted, _, processed, last⟩ := ok_of_bind visited
      cases last
      have notDone : name ∉ done := by
        rw [split] at nodup
        intro member
        exact (List.nodup_append.mp nodup).2.2 name member name (by simp)
          rfl
      obtain ⟨isEligible, next⟩ := selecting.step fresh
        (fun member => notDone member.1) (owned name (by simp [split]))
        processed
      refine ⟨done ++ [name], by simp [split], ?_⟩
      subst isEligible
      convert next using 1
      ext other
      cases eligible : a.world.api.isEligible name with
      | true =>
          simp only [List.mem_append, List.mem_singleton, Set.mem_ofPred_eq,
            if_true, Set.mem_insert_iff]
          constructor
          · rintro ⟨member | rfl, isEligible⟩
            · exact .inr ⟨member, isEligible⟩
            · exact .inl rfl
          · rintro (rfl | ⟨member, isEligible⟩)
            · exact ⟨.inr rfl, eligible⟩
            · exact ⟨.inl member, isEligible⟩
      | false =>
          simp only [List.mem_append, List.mem_singleton, Set.mem_ofPred_eq,
            Bool.false_eq_true, if_false]
          constructor
          · rintro ⟨member | rfl, isEligible⟩
            · exact ⟨member, isEligible⟩
            · rw [eligible] at isEligible
              cases isEligible
          · exact fun member => ⟨.inl member.1, member.2⟩
    · have empty : {name | name ∈ ([] : List String) ∧
          a.world.api.isEligible name = true} = ∅ := by
        ext other
        simp
      rw [empty]
      exact .start tracked
  obtain ⟨done, whole, selecting⟩ := final
  rw [List.append_nil] at whole
  exact whole ▸ selecting

/-- The loop over the candidates without a slot stops when the slots are
used up. -/
theorem selecting_of_assignUnslotted
    {availableSlots assignedSlots : Int} (fresh : env.Fresh)
    (selecting : Selecting a chosen t) (nodup : names.Nodup)
    (isNew : ∀ name ∈ names, name ∉ chosen)
    (owned : ∀ name ∈ names, a.owned name ≠ none)
    (returned : assignUnslotted env availableSlots assignedSlots names t =
      (.ok (), s')) :
    Selecting a (chosen ∪ {name | name ∈
      (names.filter a.world.api.isEligible).take
        (availableSlots - assignedSlots).toNat}) s' := by
  induction names generalizing t chosen assignedSlots with
  | nil =>
      cases returned
      simpa using selecting
  | cons name rest ih =>
      obtain ⟨notLater, restNodup⟩ := List.nodup_cons.mp nodup
      unfold assignUnslotted at returned
      by_cases full : availableSlots ≤ assignedSlots
      · rw [if_pos full] at returned
        cases returned
        have none_ : (availableSlots - assignedSlots).toNat = 0 := by omega
        simpa [none_] using selecting
      · rw [if_neg full] at returned
        obtain ⟨isSlotted, t₁, processed, later⟩ := ok_of_bind returned
        obtain ⟨isEligible, next⟩ := selecting.step fresh
          (isNew name (by simp)) (owned name (by simp)) processed
        have ownedRest : ∀ other ∈ rest, a.owned other ≠ none :=
          fun other member => owned other (by simp [member])
        cases isSlotted with
        | false =>
            have rest_ := ih next restNodup
              (fun other member => isNew other (by simp [member]))
              ownedRest later
            rw [List.filter_cons_of_neg (by simp [← isEligible])]
            exact rest_
        | true =>
            have rest_ := ih next restNodup
              (fun other member => ?_) ownedRest later
            · rw [List.filter_cons_of_pos isEligible.symm]
              have more : (availableSlots - assignedSlots).toNat =
                  (availableSlots - (assignedSlots + 1)).toNat + 1 := by
                omega
              rw [more, List.take_succ_cons]
              convert rest_ using 1
              ext other
              simp only [Set.mem_union, Set.mem_ofPred_eq, List.mem_cons,
                if_true, Set.mem_insert_iff]
              tauto
            · rintro (rfl | isChosen)
              · exact notLater member
              · exact isNew other (by simp [member]) isChosen

end

/-! ## Starting drains -/

/-- Since `d`, the drains due in `done` were started, and nothing else. -/
structure Draining (d : PassState) (done : List String) (t : PassState) :
    Prop where
  owned : t.owned = d.owned
  api : t.world.api = d.world.api
  shared : t.shared = d.shared
  kept : ∀ name status, d.world.drains name = some status →
    t.world.drains name = some status
  started : ∀ name ∈ done, ∀ bn, d.owned name = some bn →
    bn.awaitsDrain = true → d.world.api.isEligible name = true →
    t.world.drains name ≠ none
  log : ∃ new, t.log = d.log ++ new ∧ ∀ entry ∈ new, ∃ name ∈ done,
    d.world.api.isEligible name = true ∧ entry.action = .startDrain name

theorem Draining.step
    {done : List String} (fresh : env.Fresh) (draining : Draining d done t)
    (returned : drainStaged env name t = (.ok (), t')) :
    Draining d (done ++ [name]) t' := by
  have ensured := ok_of_drainStaged fresh returned
  have confined : Confined Action.keepsSlots name t
      (drainStaged env name t).2 := confined_drainStaged env (.self _) t
  rw [returned] at confined
  have elsewhere : ∀ other, other ≠ name →
      t'.world.drains other = t.world.drains other :=
    fun other different =>
      congrArg Cell.drain (confined.elsewhere other different)
  have kept : ∀ other status, t.world.drains other = some status →
      t'.world.drains other = some status := by
    intro other status present
    by_cases same : other = name
    · subst same
      exact ensured.kept status present
    · rw [elsewhere other same, present]
  refine
    { owned := ensured.owned.trans draining.owned
      api := ensured.api.trans draining.api
      shared := confined.shared.trans draining.shared
      kept := fun other status present =>
        kept other status (draining.kept other status present)
      started := fun other member bn isOwned awaits eligible => ?_
      log := ?_ }
  · rcases List.mem_append.mp member with earlier | last
    · obtain ⟨status, present⟩ := Option.ne_none_iff_exists'.mp
        (draining.started other earlier bn isOwned awaits eligible)
      simp [kept other status present]
    · have same := List.mem_singleton.mp last
      subst same
      exact ensured.started bn (draining.owned ▸ isOwned) awaits
        (draining.api ▸ eligible)
  · obtain ⟨new, isNew, about⟩ := draining.log
    rcases ensured.log with unchanged | ⟨eligible, entry, added, isStart⟩
    · refine ⟨new, by rw [unchanged, isNew], fun entry member => ?_⟩
      obtain ⟨other, isDone, isEligible, isAction⟩ := about entry member
      exact ⟨other, by simp [isDone], isEligible, isAction⟩
    · refine ⟨new ++ [entry], by rw [added, isNew, List.append_assoc],
        fun other member => ?_⟩
      rcases List.mem_append.mp member with earlier | last
      · obtain ⟨node, isDone, isEligible, isAction⟩ := about other earlier
        exact ⟨node, by simp [isDone], isEligible, isAction⟩
      · rw [List.mem_singleton.mp last]
        exact ⟨name, by simp, draining.api ▸ eligible, isStart⟩

theorem draining_of_drainStaged
    {staged : List String} (fresh : env.Fresh)
    (returned : forEach staged (drainStaged env) d = (.ok (), s')) :
    Draining d staged s' := by
  let inv (rest : List String) (t : PassState) : Prop :=
    ∃ done, staged = done ++ rest ∧ Draining d done t
  have final : inv [] s' := by
    refine forEach_ok_invariant inv ?_ ⟨[], rfl, ?_⟩ returned
    · rintro name rest t t' ⟨done, split, draining⟩ visited
      exact ⟨done ++ [name], by simp [split], draining.step fresh visited⟩
    · exact
        { owned := rfl
          api := rfl
          shared := rfl
          kept := fun _ _ present => present
          started := by simp
          log := ⟨[], by simp, by simp⟩ }
  obtain ⟨done, whole, draining⟩ := final
  rw [List.append_nil] at whole
  exact whole ▸ draining

/-! ## Up to the assignment of slots -/

theorem stateOf_of_core
    {lib : ReferenceLibrary} {owned owned' : String → Option BootcNode}
    (same : (owned' name).map BootcNode.core =
      (owned name).map BootcNode.core) :
    stateOf lib owned' name = stateOf lib owned name := by
  unfold stateOf
  cases isOwned : owned name with
  | none =>
      rw [isOwned, Option.map_none, Option.map_eq_none_iff] at same
      rw [same]
  | some bn =>
      rw [isOwned, Option.map_some, Option.map_eq_some_iff] at same
      obtain ⟨bn', isOwned', sameCore⟩ := same
      have status : bn'.status = bn.status :=
        congrArg (Prod.fst ∘ Prod.snd) sameCore
      have image : bn'.spec.desiredImage = bn.spec.desiredImage :=
        congrArg (Prod.snd ∘ Prod.snd) sameCore
      rw [isOwned']
      simp only [Option.bind_some, classifyNode_congr image status]

theorem holdsSlot_of_core
    (same : (t.owned name).map BootcNode.core =
      (s.owned name).map BootcNode.core) :
    t.holdsSlot name = s.holdsSlot name := by
  cases isOwned : s.owned name with
  | none =>
      rw [isOwned, Option.map_none, Option.map_eq_none_iff] at same
      simp [PassState.holdsSlot, slottedWith, isOwned, same]
  | some bn =>
      rw [isOwned, Option.map_some, Option.map_eq_some_iff] at same
      obtain ⟨bn', isOwned', sameCore⟩ := same
      have annotations : bn'.annotations = bn.annotations :=
        congrArg Prod.fst sameCore
      rw [PassState.holdsSlot_of_owned isOwned,
        PassState.holdsSlot_of_owned isOwned', BootcNode.inRebootSlot,
        annotations]
      rfl

/-- What a rollout pass has done before it comes to its candidates. -/
structure Prepared (lib : ReferenceLibrary) (names : List String)
    (s a : PassState) : Prop where
  tracked : ∀ name, a.Tracked name
  staged : a.rs.staged =
    names.filter fun name => stateOf lib s.owned name = some .staged
  core : ∀ name, stateOf lib s.owned name = some .staged →
    (a.owned name).map BootcNode.core = (s.owned name).map BootcNode.core
  node : ∀ name, stateOf lib s.owned name = some .staged →
    a.world.api.node name = s.world.api.node name
  claims : s.world.api.SameClaims a.world.api
  claimKept : ∀ claimName,
    (∀ name node, s.owned name ≠ none → s.world.api.node name = some node →
      node.RefersTo claimName → stateOf lib s.owned name = some .staged) →
    a.world.api.nodeClaim claimName = s.world.api.nodeClaim claimName
  held : ∀ name, a.holdsSlot name = true → s.holdsSlot name = true
  count : a.rs.occupiedSlots = (names.filter a.holdsSlot).length
  running : ∀ name status, s.world.drains name = some status →
    status.outcome = .running → a.world.drains name = some status
  spec : a.pool.spec = s.pool.spec
  log : ∃ done, a.log = s.log ++ done ∧
    ∀ entry ∈ done, entry.action.settles = true

/-- What `collectDrainResults` may change between `s` and `c`. -/
structure DrainsCollected (s c : PassState) : Prop where
  settled : ∀ name, DrainSettled name s c
  targets : c.targets = s.targets
  pool : c.pool = s.pool
  log : ∃ done, c.log = s.log ++ done ∧
    ∀ entry ∈ done, entry.action.settles = true

theorem collected_of_collectDrainResults
    (nodup : (env.order .drainResults).Nodup)
    (tracked : ∀ name, s.Tracked name)
    (returned : collectDrainResults env s = (.ok (), s')) :
    DrainsCollected s s' := by
  have targets : (collectDrainResults env s).2.targets = s.targets :=
    keepsTargets_collectDrainResults env s
  have quiet : Quietly Action.settles s (collectDrainResults env s).2 :=
    Moves.forEach (fun _ => quiet_of_confined
      (confined_collectDrainResult env (.self Action.settles))) s
  rw [returned] at targets quiet
  exact ⟨fun name => drainSettled_of_collectDrainResults nodup
    (tracked name) returned, targets, congrArg Findings.pool quiet.findings,
    quiet.log⟩

/-- What the later phases use of the classification. -/
structure Classified (lib : ReferenceLibrary) (names : List String)
    (c d : PassState) : Prop where
  owned : d.owned = c.owned
  world : d.world = c.world
  log : d.log = c.log
  spec : d.pool.spec = c.pool.spec
  upToDate : d.rs.upToDate =
    names.filter fun name => stateOf lib c.owned name = some .upToDate
  staged : d.rs.staged =
    names.filter fun name => stateOf lib c.owned name = some .staged
  count : d.rs.occupiedSlots = (names.filter d.holdsSlot).length

theorem classified_of_classifyNodes
    {r : BootcNodePoolReconciler}
    (returned : r.classifyNodes env s = (.ok (), s')) :
    Classified r.references (env.order .classification) s s' := by
  cases returned
  refine ⟨rfl, rfl, rfl, ?_, ?_, ?_, ?_⟩
  · dsimp only
    split
    · exact ((BootcNodePool.SameTarget.refl s.pool).setPoolDegraded env.now
        _ _).spec
    · rfl
  · rw [← bucket_buildRolloutState r.references s.owned _ .upToDate]
    dsimp only
    unfold applyRebootTimeouts
    split <;> rfl
  · rw [← bucket_buildRolloutState r.references s.owned _ .staged]
    dsimp only
    unfold applyRebootTimeouts
    split <;> rfl
  · exact ((sorted_buildRolloutState r.references s.owned
      _).applyRebootTimeouts _ _).occupied

theorem prepared_of_freeCompletedSlots
    {lib : ReferenceLibrary} {c : PassState} (fresh : env.Fresh)
    (nodup : names.Nodup) (collected : DrainsCollected s c)
    (classified : Classified lib names c d)
    (returned : freeCompletedSlots env d = (.ok (), a)) :
    Prepared lib names s a := by
  have states : stateOf lib c.owned = stateOf lib s.owned :=
    funext fun name => stateOf_of_core (collected.settled name).core
  have tracked : ∀ name, d.Tracked name := by
    intro name bn owned
    rw [classified.world]
    rw [classified.owned] at owned
    exact (collected.settled name).tracked bn owned
  have upToDate := classified.upToDate
  rw [states] at upToDate
  have settled := SlotsSettled.of_freeCompletedSlots fresh nodup tracked
    (upToDate ▸ nodup.filter _)
    (fun name member => (List.mem_filter.mp (upToDate ▸ member)).1)
    classified.count returned
  have loop := ok_of_bindRead returned
  have undisturbed : DisruptionKept d
      (forEach d.rs.upToDate (freeCompletedSlot env) d).2 :=
    Moves.forEach (fun name => disruptionKept_freeCompletedSlot env name) d
  have keepsShared : Moves (Keeping PassState.shared)
      (forEach d.rs.upToDate (freeCompletedSlot env)) :=
    Moves.forEach fun name s =>
      (confined_freeCompletedSlot env (.self Action.settles) s).shared
  have shared : (forEach d.rs.upToDate (freeCompletedSlot env) d).2.shared =
      d.shared := keepsShared d
  have quiet : Quietly Action.settles d
      (forEach d.rs.upToDate (freeCompletedSlot env) d).2 :=
    Moves.forEach (fun _ => quiet_of_confined
      (confined_freeCompletedSlot env (.self Action.settles))) d
  rw [loop] at undisturbed shared quiet
  have cells : ∀ name, stateOf lib s.owned name = some .staged →
      a.cell name = d.cell name := by
    intro name staged
    refine cell_of_freeCompletedSlots (fun member => ?_) returned
    rw [upToDate, List.mem_filter, staged] at member
    simp at member
  have sameNode : d.world.api.node = s.world.api.node := by
    rw [classified.world]
    exact congrArg Prod.fst collected.targets
  have sameClaim : d.world.api.nodeClaim = s.world.api.nodeClaim := by
    rw [classified.world]
    exact congrArg (Prod.fst ∘ Prod.snd) collected.targets
  have sameCRD : d.world.api.nodeClaimCRD = s.world.api.nodeClaimCRD := by
    rw [classified.world]
    exact congrArg (Prod.snd ∘ Prod.snd) collected.targets
  have cores : ∀ name, (d.owned name).map BootcNode.core =
      (s.owned name).map BootcNode.core := by
    rw [classified.owned]
    exact fun name => (collected.settled name).core
  refine
    { tracked := settled.tracked
      staged := ?_
      core := fun name staged => ?_
      node := fun name staged => ?_
      claims := Cluster.SameClaims.trans ⟨sameCRD, fun name => by
        rw [sameClaim]⟩ undisturbed.claims
      claimKept := fun claimName onlyStaged => ?_
      held := fun name slotted => ?_
      count := settled.count
      running := fun name status present isRunning => ?_
      spec := ?_
      log := ?_ }
  · rw [show a.rs.staged = d.rs.staged from
      congrArg (fun shared => shared.buckets.staged) shared,
      classified.staged, states]
  · rw [show a.owned name = d.owned name from
      congrArg (fun cell => cell.owned) (cells name staged)]
    exact cores name
  · rw [show a.world.api.node name = d.world.api.node name from
      congrArg (fun cell => cell.node) (cells name staged), sameNode]
  · rw [settled.claims claimName ?_, sameClaim]
    intro name member node present refers
    rw [upToDate, List.mem_filter, decide_eq_true_eq] at member
    have isOwned : s.owned name ≠ none := by
      intro unowned
      simp [stateOf, unowned] at member
    have staged := onlyStaged name node isOwned (sameNode ▸ present) refers
    rw [staged] at member
    simp at member
  · rw [← holdsSlot_of_core (cores name)]
    exact settled.held name slotted
  · rw [undisturbed.drains, classified.world]
    exact (collected.settled name).running status present isRunning
  · rw [show a.pool = d.pool from congrArg Shared.pool shared,
      classified.spec, collected.pool]
  · obtain ⟨first, isFirst, settlesFirst⟩ := collected.log
    obtain ⟨second, isSecond, settlesSecond⟩ := quiet.log
    refine ⟨first ++ second, by rw [isSecond, classified.log, isFirst,
      List.append_assoc], fun entry member => ?_⟩
    rcases List.mem_append.mp member with early | late
    · exact settlesFirst entry early
    · exact settlesSecond entry late

/-! ## The assignment of slots -/

/-- The candidates that can be given a slot, by name. -/
def PassState.candidates (a : PassState) : List String :=
  (partitionSlottedNodes a.owned a.rs.staged).2.filter a.world.api.isEligible

/-- The candidates that are given a slot, anew or again. -/
def PassState.chosen (a : PassState) (availableSlots : Int) : Set String :=
  {name | name ∈ (partitionSlottedNodes a.owned a.rs.staged).1 ∧
      a.world.api.isEligible name = true} ∪
    {name | name ∈ a.candidates.take availableSlots.toNat}

section Advance

theorem mem_slotted :
    name ∈ (partitionSlottedNodes a.owned a.rs.staged).1 ↔
      name ∈ a.rs.staged ∧ a.holdsSlot name = true := by
  rw [partitionSlottedNodes, mem_sortNames, List.mem_filter]
  rfl

theorem mem_unslotted :
    name ∈ (partitionSlottedNodes a.owned a.rs.staged).2 ↔
      name ∈ a.rs.staged ∧ a.holdsSlot name = false := by
  rw [partitionSlottedNodes, mem_sortNames, List.mem_filter,
    Bool.not_eq_true']
  rfl

theorem nodup_sortNames (nodup : names.Nodup) :
    (sortNames names).Nodup :=
  (List.perm_insertionSort _ _).nodup_iff.mpr nodup

theorem mem_candidates :
    name ∈ a.candidates ↔ name ∈ a.rs.staged ∧ a.holdsSlot name = false ∧
      a.world.api.isEligible name = true := by
  rw [PassState.candidates, List.mem_filter, mem_unslotted, and_assoc]

theorem pairwise_candidates (nodup : a.rs.staged.Nodup) :
    a.candidates.Pairwise (· < ·) := by
  refine List.Pairwise.filter _ ?_
  have sorted : (sortNames (a.rs.staged.filter fun name =>
      !slottedWith a.owned (fun _ => true) name)).Pairwise (· ≤ ·) :=
    List.pairwise_insertionSort _ _
  exact (sorted.and (nodup_sortNames (nodup.filter _))).imp fun both =>
    Std.lt_of_le_of_ne both.1 both.2

theorem chosen_staged
    {availableSlots : Int} (isChosen : name ∈ a.chosen availableSlots) :
    name ∈ a.rs.staged ∧ a.world.api.isEligible name = true := by
  rcases isChosen with ⟨slotted, eligible⟩ | taken
  · exact ⟨(mem_slotted.mp slotted).1, eligible⟩
  · obtain ⟨staged, _, eligible⟩ :=
      mem_candidates.mp (List.mem_of_mem_take taken)
    exact ⟨staged, eligible⟩

theorem advanceRollout_selects
    {r : BootcNodePoolReconciler}
    (fresh : env.Fresh)
    (tracked : ∀ name, a.Tracked name) (nodup : a.rs.staged.Nodup)
    (owned : ∀ name ∈ a.rs.staged, a.owned name ≠ none)
    (returned : r.advanceRollout env a = (.ok (), s')) :
    ∃ maxUnavail d,
      r.resolveMaxUnavailable a.pool a.rs.nodeCount = .ok maxUnavail ∧
      Selecting { a with maxUnavail := some maxUnavail }
        (a.chosen (max 0 (maxUnavail - a.rs.occupiedSlots))) d ∧
      Draining d a.rs.staged s' := by
  have afterPool := ok_of_bindRead returned
  have afterRollout := ok_of_bindRead afterPool
  obtain ⟨maxUnavail, a₀, resolved, afterBudget⟩ := ok_of_bind afterRollout
  obtain ⟨isResolved, rfl⟩ := ok_of_ofExcept resolved
  obtain ⟨_, a₁, isStart, afterStart⟩ := ok_of_bind afterBudget
  cases isStart
  have loops := ok_of_bindRead afterStart
  obtain ⟨_, s₁, retried, afterRetries⟩ := ok_of_bind loops
  obtain ⟨_, s₂, assigned, afterSlots⟩ := ok_of_bind afterRetries
  obtain ⟨_, s₃, requeued, drained⟩ := ok_of_bind afterSlots
  let start : PassState := { a₀ with maxUnavail := some maxUnavail }
  have selecting₁ := selecting_of_slotted (a := start) fresh tracked
    (nodup_sortNames (nodup.filter _))
    (fun name member => owned name (mem_slotted.mp member).1) retried
  have selecting₂ := selecting_of_assignUnslotted fresh selecting₁
    (nodup_sortNames (nodup.filter _))
    (fun name member both => ?_)
    (fun name member => owned name (mem_unslotted.mp member).1) assigned
  · refine ⟨maxUnavail, s₃, isResolved, ?_, draining_of_drainStaged fresh
      drained⟩
    rw [sub_zero] at selecting₂
    cases requeued
    dsimp only
    split
    · exact selecting₂.skip rfl rfl rfl rfl rfl
    · exact selecting₂
  · have free := (mem_unslotted.mp member).2
    have slotted := (mem_slotted.mp both.1).2
    exact absurd (slotted.symm.trans free) (by simp)

end Advance

/-! ## A rollout pass -/

/-- The actions of candidate processing and of the start of a drain. -/
def Action.selects : Action → Bool
  | .wrote (.assignSlot _) | .wrote (.fenceClaim _)
  | .wrote (.cordonNode _) | .startDrain _ => true
  | _ => false

theorem selects_of_settles
    {action : Action} (settles : action.settles = true) :
    action.selects = false := by
  unfold Action.settles at settles
  split at settles <;> first | rfl | cases settles

/-- The pass's copy of the BootcNode is classified as staged. -/
def PassState.IsStaged (s : PassState) (r : BootcNodePoolReconciler)
    (name : String) : Prop :=
  stateOf r.references s.owned name = some .staged

/-- The pass gives the node a slot. -/
def NewlySlotted (s s' : PassState) (name : String) : Prop :=
  s.holdsSlot name = false ∧ s'.holdsSlot name = true

/-- The number of slots that both states hold. -/
noncomputable def keptSlots (s s' : PassState) : Nat :=
  {name | s.holdsSlot name = true ∧ s'.holdsSlot name = true}.ncard

/-- The slots go to the first eligible candidates. -/
def FillsSlots (r : BootcNodePoolReconciler) (s s' : PassState) : Prop :=
  ∃ (maxUnavail : Int) (candidates : List String),
    r.resolveMaxUnavailable s.pool s'.rs.nodeCount = .ok maxUnavail ∧
    candidates.Pairwise (· < ·) ∧
    (∀ name, name ∈ candidates ↔ s.IsStaged r name ∧
      s.holdsSlot name = false ∧ s.world.api.isEligible name = true) ∧
    ∀ name, NewlySlotted s s' name ↔
      name ∈ candidates.take
        (min (max 0 (maxUnavail - keptSlots s s')).toNat
          candidates.length)

/-- No node is worked on that is not an eligible candidate. -/
structure SparesIneligible (r : BootcNodePoolReconciler) (s s' : PassState) :
    Prop where
  log : ∃ done, s'.log = s.log ++ done ∧
    ∀ entry ∈ done, entry.action.selects = true →
      ∃ name, entry.action.nodeName = some name ∧ s.IsStaged r name ∧
        s.world.api.isEligible name = true
  node : ∀ name, s.IsStaged r name → s.world.api.isEligible name = false →
    s'.world.api.node name = s.world.api.node name
  bootcNode : ∀ name, s.IsStaged r name →
    s.world.api.isEligible name = false →
    (s'.world.api.bootcNode name).map BootcNode.core =
      (s.world.api.bootcNode name).map BootcNode.core
  nodeClaim : ∀ claimName,
    (∀ name node, s.owned name ≠ none → s.world.api.node name = some node →
      node.RefersTo claimName →
        s.IsStaged r name ∧ s.world.api.isEligible name = false) →
    s'.world.api.nodeClaim claimName = s.world.api.nodeClaim claimName

/-- Every eligible node in a slot that is not approved has a drain, and no
drain is disturbed. -/
structure DrainsCandidates (r : BootcNodePoolReconciler) (s s' : PassState) :
    Prop where
  drained : ∀ name bn, s.IsStaged r name → s'.owned name = some bn →
    bn.inRebootSlot = true → bn.spec.desiredImageState ≠ .booted →
    s.world.api.isEligible name = true → s'.world.drains name ≠ none
  running : ∀ name status, s.world.drains name = some status →
    status.outcome = .running → s'.world.drains name = some status

section Assembly

variable {r : BootcNodePoolReconciler} {maxUnavail : Int}

/-- A pass that is not halted, phase by phase. -/
theorem phases_of_driveRollout
    (fresh : env.Fresh)
    (nodup : ∀ loop, (env.order loop).Nodup)
    (tracked : ∀ name, s.Tracked name)
    (returned : r.driveRollout env s = (.ok (), s'))
    (going : s'.rolloutHalted = false) :
    ∃ a maxUnavail d,
      Prepared r.references (env.order .classification) s a ∧
      r.resolveMaxUnavailable a.pool a.rs.nodeCount = .ok maxUnavail ∧
      Selecting { a with maxUnavail := some maxUnavail }
        (a.chosen (max 0 (maxUnavail - a.rs.occupiedSlots))) d ∧
      Draining d a.rs.staged s' := by
  obtain ⟨_, c, collected, afterDrains⟩ := ok_of_bind returned
  obtain ⟨_, e, classified, afterStates⟩ := ok_of_bind afterDrains
  obtain ⟨_, a, freed, afterSlots⟩ := ok_of_bind afterStates
  have decided := ok_of_bindRead afterSlots
  have prepared := prepared_of_freeCompletedSlots fresh
    (nodup .classification)
    (collected_of_collectDrainResults (nodup .drainResults) tracked
      (ok_of_mapError collected))
    (classified_of_classifyNodes classified) (ok_of_mapError freed)
  split at decided
  · cases decided
    cases going
  · have stagedNodup : a.rs.staged.Nodup := by
      rw [prepared.staged]
      exact (nodup .classification).filter _
    have owned : ∀ name ∈ a.rs.staged, a.owned name ≠ none := by
      intro name member unowned
      rw [prepared.staged, List.mem_filter, decide_eq_true_eq] at member
      have core := prepared.core name member.2
      rw [unowned, Option.map_none, eq_comm, Option.map_eq_none_iff] at core
      have staged := member.2
      simp [stateOf, core] at staged
    obtain ⟨maxUnavail, d, resolved, selecting, draining⟩ :=
      advanceRollout_selects fresh prepared.tracked stagedNodup owned decided
    exact ⟨a, maxUnavail, d, prepared, resolved, selecting, draining⟩

variable (prepared : Prepared r.references names s a)
  (selecting : Selecting { a with maxUnavail := some maxUnavail }
    (a.chosen (max 0 (maxUnavail - a.rs.occupiedSlots))) d)
  (draining : Draining d a.rs.staged s')

include prepared

theorem isStaged_of_mem (member : name ∈ a.rs.staged) : s.IsStaged r name := by
  rw [prepared.staged, List.mem_filter, decide_eq_true_eq] at member
  exact member.2

theorem isEligible_of_staged (staged : s.IsStaged r name) :
    a.world.api.isEligible name = s.world.api.isEligible name :=
  Cluster.isEligible_congr (by rw [prepared.node name staged])
    prepared.claims

theorem holdsSlot_of_staged (staged : s.IsStaged r name) :
    a.holdsSlot name = s.holdsSlot name :=
  holdsSlot_of_core (prepared.core name staged)

include selecting draining

omit prepared in
/-- A slot at the end was kept or given in the pass. -/
theorem holdsSlot_iff :
    s'.holdsSlot name = true ↔ a.holdsSlot name = true ∨
      name ∈ a.candidates.take
        (max 0 (maxUnavail - a.rs.occupiedSlots)).toNat := by
  have final : s'.holdsSlot name = d.holdsSlot name := by
    simp only [PassState.holdsSlot, draining.owned]
  rw [final]
  by_cases isChosen :
      name ∈ a.chosen (max 0 (maxUnavail - a.rs.occupiedSlots))
  · have slotted := selecting.slotted name isChosen
    simp only [slotted, true_iff]
    rcases isChosen with ⟨held, _⟩ | taken
    · exact .inl (mem_slotted.mp held).2
    · exact .inr taken
  · have same : d.holdsSlot name = a.holdsSlot name :=
      holdsSlot_congr (selecting.others name isChosen)
    rw [same, iff_self_or]
    exact fun taken => absurd (.inr taken) isChosen

/-- The slots that were occupied when the pass came to its candidates. -/
theorem keptSlots_eq (nodup : names.Nodup)
    (covers : ∀ name, s.owned name ≠ none → name ∈ names) :
    a.rs.occupiedSlots = keptSlots s s' := by
  have same : {name | s.holdsSlot name = true ∧ s'.holdsSlot name = true} =
      ((names.filter a.holdsSlot).toFinset : Set String) := by
    ext name
    simp only [Set.mem_ofPred_eq, List.coe_toFinset, List.mem_filter,
      holdsSlot_iff selecting draining]
    constructor
    · rintro ⟨held, kept | taken⟩
      · refine ⟨covers name fun unowned => ?_, kept⟩
        simp [PassState.holdsSlot, slottedWith, unowned] at held
      · obtain ⟨staged, free, _⟩ :=
          mem_candidates.mp (List.mem_of_mem_take taken)
        rw [holdsSlot_of_staged prepared (isStaged_of_mem prepared staged),
          held] at free
        cases free
    · exact fun kept => ⟨prepared.held name kept.2, .inl kept.2⟩
  rw [keptSlots, same, Set.ncard_coe_finset,
    List.toFinset_card_of_nodup (nodup.filter _), prepared.count]

theorem fillsSlots_of_phases (nodup : names.Nodup)
    (covers : ∀ name, s.owned name ≠ none → name ∈ names)
    (resolved : r.resolveMaxUnavailable a.pool a.rs.nodeCount =
      .ok maxUnavail) :
    FillsSlots r s s' := by
  have stagedNodup : a.rs.staged.Nodup := by
    rw [prepared.staged]
    exact nodup.filter _
  have buckets : s'.rs.nodeCount = a.rs.nodeCount :=
    congrArg (fun shared => shared.buckets.nodeCount)
      (draining.shared.trans selecting.shared)
  refine ⟨maxUnavail, a.candidates, ?_, pairwise_candidates stagedNodup,
    fun name => ?_, fun name => ?_⟩
  · rw [buckets, ← resolveMaxUnavailable_congr prepared.spec, resolved]
  · rw [mem_candidates]
    constructor
    · rintro ⟨member, free, eligible⟩
      have staged := isStaged_of_mem prepared member
      exact ⟨staged, holdsSlot_of_staged prepared staged ▸ free,
        isEligible_of_staged prepared staged ▸ eligible⟩
    · rintro ⟨staged, free, eligible⟩
      have isOwned : s.owned name ≠ none := by
        intro unowned
        simp [PassState.IsStaged, stateOf, unowned] at staged
      refine ⟨?_, ?_, ?_⟩
      · rw [prepared.staged, List.mem_filter, decide_eq_true_eq]
        exact ⟨covers name isOwned, staged⟩
      · rw [holdsSlot_of_staged prepared staged, free]
      · rw [isEligible_of_staged prepared staged, eligible]
  · rw [NewlySlotted, holdsSlot_iff selecting draining,
      ← keptSlots_eq prepared selecting draining nodup covers,
      ← List.take_eq_take_min]
    constructor
    · rintro ⟨free, kept | taken⟩
      · rw [prepared.held name kept] at free
        cases free
      · exact taken
    · intro taken
      obtain ⟨member, free, _⟩ :=
        mem_candidates.mp (List.mem_of_mem_take taken)
      have staged := isStaged_of_mem prepared member
      exact ⟨holdsSlot_of_staged prepared staged ▸ free, .inr taken⟩

omit draining in
/-- A node that is not chosen keeps its cell. -/
theorem cell_of_ineligible
    (staged : s.IsStaged r name)
    (ineligible : s.world.api.isEligible name = false) :
    d.cell name = a.cell name := by
  refine selecting.others name fun isChosen => ?_
  have eligible := (chosen_staged isChosen).2
  rw [show PassState.world { a with maxUnavail := some maxUnavail } =
    a.world from rfl, isEligible_of_staged prepared staged, ineligible]
    at eligible
  cases eligible

theorem sparesIneligible_of_phases (tracked : ∀ name, s.Tracked name) :
    SparesIneligible r s s' := by
  refine ⟨?_, fun name staged ineligible => ?_,
    fun name staged ineligible => ?_, fun claimName spared => ?_⟩
  · obtain ⟨first, isFirst, settles⟩ := prepared.log
    obtain ⟨second, isSecond, selected⟩ := selecting.log
    obtain ⟨third, isThird, started⟩ := draining.log
    refine ⟨first ++ second ++ third, ?_, fun entry member isSelection => ?_⟩
    · rw [isThird, isSecond]
      simp only [isFirst, List.append_assoc]
    · rcases List.mem_append.mp member with early | late
      · rcases List.mem_append.mp early with first | second
        · rw [selects_of_settles (settles entry first)] at isSelection
          cases isSelection
        · obtain ⟨name, isChosen, about, _⟩ := selected entry second
          obtain ⟨member, eligible⟩ := chosen_staged isChosen
          have staged := isStaged_of_mem prepared member
          exact ⟨name, about, staged,
            isEligible_of_staged prepared staged ▸ eligible⟩
      · obtain ⟨name, member, eligible, isStart⟩ := started entry late
        have staged := isStaged_of_mem prepared member
        rw [selecting.isEligible] at eligible
        exact ⟨name, by rw [isStart]; rfl, staged,
          isEligible_of_staged prepared staged ▸ eligible⟩
  · have same := cell_of_ineligible prepared selecting staged ineligible
    rw [draining.api, show d.world.api.node name = a.world.api.node name from
      congrArg (fun cell => cell.node) same, prepared.node name staged]
  · have same := cell_of_ineligible prepared selecting staged ineligible
    have core := prepared.core name staged
    obtain ⟨bn, owned, _⟩ := (stateOf_eq_some _ _).mp staged
    rw [owned, Option.map_some, Option.map_eq_some_iff] at core
    obtain ⟨bn', owned', sameCore⟩ := core
    rw [draining.api, show d.world.api.bootcNode name =
      a.world.api.bootcNode name from
        congrArg (fun cell => cell.bootcNode) same,
      prepared.tracked name bn' owned', tracked name bn owned,
      Option.map_some, Option.map_some, sameCore]
  · rw [draining.api, selecting.claims claimName fun name isChosen node
      present refers => ?_]
    · exact prepared.claimKept claimName fun name node owned present refers =>
        (spared name node owned present refers).1
    · obtain ⟨member, eligible⟩ := chosen_staged isChosen
      have staged := isStaged_of_mem prepared member
      obtain ⟨bn, owned, _⟩ := (stateOf_eq_some _ _).mp staged
      have ineligible := (spared name node (by simp [owned])
        (prepared.node name staged ▸ present) refers).2
      rw [isEligible_of_staged prepared staged, ineligible] at eligible
      cases eligible

theorem drainsCandidates_of_phases
    (covers : ∀ name, s.owned name ≠ none → name ∈ names) :
    DrainsCandidates r s s' := by
  refine ⟨fun name bn staged owned slotted unapproved eligible => ?_,
    fun name status present isRunning => ?_⟩
  · have isOwned : s.owned name ≠ none := by
      intro unowned
      simp [PassState.IsStaged, stateOf, unowned] at staged
    have member : name ∈ a.rs.staged := by
      rw [prepared.staged, List.mem_filter, decide_eq_true_eq]
      exact ⟨covers name isOwned, staged⟩
    refine draining.started name member bn (draining.owned ▸ owned) ?_ ?_
    · simp [BootcNode.awaitsDrain, slotted, unapproved]
    · rw [selecting.isEligible]
      exact (isEligible_of_staged prepared staged).trans eligible
  · refine draining.kept name status ?_
    rw [selecting.undisturbed.drains]
    exact prepared.running name status present isRunning

end Assembly

/-- A rollout pass that returns and is not halted gives the free slots to the
first eligible candidates in the order of their names, spares every node that
is not eligible, and leaves a drain for each eligible node in a slot that is
not approved yet. -/
theorem candidate_selection
    {r : BootcNodePoolReconciler} (fresh : env.Fresh)
    (nodup : ∀ loop, (env.order loop).Nodup)
    (covers : ∀ name, s.owned name ≠ none → name ∈ env.order .classification)
    (tracked : ∀ name, s.Tracked name)
    (returned : r.driveRollout env s = (.ok (), s'))
    (going : s'.rolloutHalted = false) :
    FillsSlots r s s' ∧ SparesIneligible r s s' ∧ DrainsCandidates r s s' := by
  obtain ⟨a, maxUnavail, d, prepared, resolved, selecting, draining⟩ :=
    phases_of_driveRollout fresh nodup tracked returned going
  exact ⟨fillsSlots_of_phases prepared selecting draining
      (nodup .classification) covers resolved,
    sparesIneligible_of_phases prepared selecting draining tracked,
    drainsCandidates_of_phases prepared selecting draining covers⟩

/-! ## Passes over two staged nodes -/

def claimedNode : Node :=
  { plainNode with
    ownerReferences :=
      [{ apiVersion := nodeClaimAPIVersion
         kind := nodeClaimKind
         name := "claim"
         uid := "claim-uid"
         controller := false }] }

/-- Two staged nodes, with a NodeClaim behind their owner reference. -/
def claimStart (first second : Node) (claim : NodeClaim) : PassState :=
  let w := Tables.world
    { nodes := [("a", first), ("b", second)]
      bootcNodes := [("a", stagedNode "os@b" "os@a"),
        ("b", stagedNode "os@b" "os@a")] }
  { PassState.start
      { w with
        api :=
          { w.api with
            nodeClaim := fun name =>
              if name = "claim" then some claim else none
            nodeClaimCRD := true } } with
    pool := osPool "os@b"
    owned := w.api.bootcNode }

def plainClaim : NodeClaim :=
  { annotations := .empty
    deletionTimestamp := none
    conditions := .ok [] }

theorem claimStart_tracked (first second : Node) (claim : NodeClaim) :
    ∀ name, (claimStart first second claim).Tracked name :=
  fun _ _ owned => owned

theorem claimStart_covers (first second : Node) (claim : NodeClaim) :
    ∀ name, (claimStart first second claim).owned name ≠ none →
      name ∈ ["a", "b"] := by
  intro name owned
  exact mem_of_lookup_ne_none owned

/-- The first node is being deleted; the second refers to the NodeClaim. -/
abbrev deletedStart : PassState :=
  claimStart { plainNode with deletionTimestamp := some 0 } claimedNode
    plainClaim

/-- The slot goes past the node that is being deleted. -/
theorem candidate_selection_past_deleted :
    ∃ s', osReconciler.driveRollout (.calm ["a", "b"] 0) deletedStart =
        (.ok (), s') ∧
      s'.holdsSlot "a" = false ∧ s'.holdsSlot "b" = true ∧
      FillsSlots osReconciler deletedStart s' ∧
      SparesIneligible osReconciler deletedStart s' ∧
      DrainsCandidates osReconciler deletedStart s' := by
  have succeeded : (osReconciler.driveRollout (.calm ["a", "b"] 0)
      deletedStart).1 = .ok () := by decide +kernel
  have returned := eq_of_fst_eq_ok succeeded
  have nodup : ["a", "b"].Nodup := by decide
  refine ⟨_, returned, by decide +kernel, by decide +kernel, ?_⟩
  exact candidate_selection (fun _ _ => rfl) (fun _ => nodup)
    (claimStart_covers _ _ _) (claimStart_tracked _ _ _) returned
    (by decide +kernel)

/-- The conditions of the NodeClaim of the first node are unreadable. -/
abbrev unreadableStart : PassState :=
  claimStart claimedNode plainNode
    { plainClaim with conditions := .error "not a list" }

/-- The pass ends before any slot is assigned. -/
theorem not_fillsSlots_unreadable :
    ¬ FillsSlots osReconciler unreadableStart
      (osReconciler.driveRollout (.calm ["a", "b"] 0) unreadableStart).2 := by
  generalize isStopped : (osReconciler.driveRollout (.calm ["a", "b"] 0)
    unreadableStart).2 = stopped
  rintro ⟨maxUnavail, candidates, resolved, _, isCandidate, selected⟩
  have isOne : maxUnavail = 1 := Except.ok.inj (resolved.symm.trans rfl)
  have unslotted : ∀ name ∈ ["a", "b"], stopped.holdsSlot name = false := by
    rw [← isStopped]
    decide +kernel
  have unheld : ∀ name, unreadableStart.holdsSlot name = true → False := by
    intro name held
    obtain ⟨bn, owned, _⟩ := slottedWith_eq_true.mp held
    have member : name ∈ ["a", "b"] :=
      claimStart_covers _ _ _ name
        (Option.ne_none_iff_exists'.mpr ⟨bn, owned⟩)
    simp only [List.mem_cons, List.not_mem_nil, or_false] at member
    rcases member with rfl | rfl
    · exact absurd held (by decide)
    · exact absurd held (by decide)
  have kept : keptSlots unreadableStart stopped = 0 := by
    have empty : {name | unreadableStart.holdsSlot name = true ∧
        stopped.holdsSlot name = true} = ∅ :=
      Set.eq_empty_of_forall_notMem fun name member => unheld name member.1
    rw [keptSlots, empty, Set.ncard_empty]
  have firstStaged : unreadableStart.IsStaged osReconciler "a" := by
    unfold PassState.IsStaged
    decide
  have first : "a" ∈ candidates :=
    (isCandidate "a").mpr ⟨firstStaged, by decide, by decide⟩
  obtain ⟨head, rest, rfl⟩ := List.exists_cons_of_ne_nil
    (List.ne_nil_of_mem first)
  have isNew : NewlySlotted unreadableStart stopped head := by
    rw [selected, isOne, kept]
    simp
  have staged := ((isCandidate head).mp (by simp)).1
  obtain ⟨bn, owned, _⟩ := (stateOf_eq_some _ _).mp staged
  have free := unslotted head (claimStart_covers _ _ _ head
    (Option.ne_none_iff_exists'.mpr ⟨bn, owned⟩))
  rw [isNew.2] at free
  cases free

/-- Both nodes refer to one NodeClaim, and the first is being deleted. -/
abbrev sharedStart : PassState :=
  claimStart { claimedNode with deletionTimestamp := some 0 } claimedNode
    plainClaim

/-- Although no request fails and the rollout is not halted, a NodeClaim with
unreadable conditions ends the pass before any slot is assigned, and a
NodeClaim of a node that is not eligible is written for another node that
refers to it. -/
theorem selection_stops_or_shares :
    let env := Env.calm ["a", "b"] 0
    let stopped := (osReconciler.driveRollout env unreadableStart).2
    let shared := (osReconciler.driveRollout env sharedStart).2
    (∀ call, env.fails call = none) ∧
    (stopped.rolloutHalted = false ∧
      ¬ FillsSlots osReconciler unreadableStart stopped) ∧
    shared.rolloutHalted = false ∧
      sharedStart.world.api.isEligible "a" = false ∧
      (∃ node, sharedStart.world.api.node "a" = some node ∧
        node.RefersTo "claim") ∧
      shared.world.api.nodeClaim "claim" ≠
        sharedStart.world.api.nodeClaim "claim" := by
  intro env stopped shared
  refine ⟨fun _ => rfl, ⟨by decide +kernel, not_fillsSlots_unreadable⟩,
    by decide +kernel, by decide +kernel, ⟨_, rfl, _, rfl, rfl⟩,
    fun same => ?_⟩
  have sameAnnotations := congrArg (Option.map NodeClaim.annotations) same
  exact absurd sameAnnotations (by decide +kernel)

end BootcOperator
