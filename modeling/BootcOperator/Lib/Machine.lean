import Mathlib.Logic.Basic

/-!
# Machines and their runs

A `Machine` has a partial step function: `step s a` is `none` when the action
`a` is not enabled in `s`.  `Machine.Path` is a run in which every step also
meets a condition on the action and the state before it; with the condition
that always holds it is an arbitrary run.

The induction over a run is made once, in `Path.invariant`.
-/

/-- A state machine whose actions may be disabled. -/
structure Machine (σ α : Type) where
  step : σ → α → Option σ

namespace Machine

variable {σ α : Type} (M : Machine σ α)

/-- Execute a list of actions; `none` when one of them is not enabled. -/
def run : σ → List α → Option σ
  | s, [] => some s
  | s, a :: rest =>
      match M.step s a with
      | some s' => run s' rest
      | none => none

/-- A run whose steps all meet `condition`, with the actions it takes. -/
inductive Path (condition : σ → α → Prop) : σ → List α → σ → Prop
  | nil (s : σ) : Path condition s [] s
  | cons {s middle s' : σ} {a : α} {rest : List α} :
      condition s a →
      M.step s a = some middle →
      Path condition middle rest s' →
      Path condition s (a :: rest) s'

/-- Some run leads from one state to the other. -/
def Reaches (s s' : σ) : Prop :=
  ∃ actions, M.run s actions = some s'

variable {M}

variable (inv : σ → Prop) {s s' : σ} {condition : σ → α → Prop}
  {actions : List α}

/-- What holds initially and is kept by every step that meets the condition
holds at the end of every run. -/
theorem Path.invariant
    (keeps : ∀ {s a s'}, inv s → condition s a → M.step s a = some s' →
      inv s') (path : M.Path condition s actions s') (start : inv s) :
    inv s' := by
  induction path with
  | nil s =>
      exact start
  | cons meets stepped _ ih =>
      exact ih (keeps start meets stepped)

theorem Path.mono
    {weaker : σ → α → Prop} (path : M.Path condition s actions s')
    (implies : ∀ s a, condition s a → weaker s a) :
    M.Path weaker s actions s' := by
  induction path with
  | nil s =>
      exact Path.nil s
  | cons meets stepped _ ih =>
      exact Path.cons (implies _ _ meets) stepped ih

theorem Path.append
    {middle : σ} {first rest : List α}
    (before : M.Path condition s first middle)
    (after : M.Path condition middle rest s') :
    M.Path condition s (first ++ rest) s' := by
  induction before with
  | nil s =>
      exact after
  | cons meets stepped _ ih =>
      exact Path.cons meets stepped (ih after)

theorem Path.of_append
    {first rest : List α} (path : M.Path condition s (first ++ rest) s') :
    ∃ middle, M.Path condition s first middle ∧
      M.Path condition middle rest s' := by
  induction first generalizing s with
  | nil =>
      exact ⟨s, .nil s, path⟩
  | cons a first ih =>
      cases path with
      | cons meets stepped later =>
          obtain ⟨middle, before, after⟩ := ih later
          exact ⟨middle, .cons meets stepped before, after⟩

/-- A run leads to one state only, so two conditions on it can be joined. -/
theorem Path.and
    {other : σ → α → Prop} {s'' : σ} (path : M.Path condition s actions s')
    (otherPath : M.Path other s actions s'') :
    M.Path (fun s a => condition s a ∧ other s a) s actions s' := by
  induction path with
  | nil s =>
      exact Path.nil s
  | cons meets stepped _ ih =>
      cases otherPath with
      | cons otherMeets otherStepped rest =>
          rw [stepped, Option.some.injEq] at otherStepped
          subst otherStepped
          exact Path.cons ⟨meets, otherMeets⟩ stepped
            (ih rest)

/-- Allowed actions that keep an invariant meet what follows from it. -/
theorem Path.keeping
    {check : σ → α → Prop} {allowed : α → Prop}
    (keeps : ∀ {s a s'}, allowed a → inv s → check s a →
      M.step s a = some s' → condition s a ∧ inv s')
    (path : M.Path check s actions s') (all : ∀ a ∈ actions, allowed a)
    (start : inv s) :
    M.Path (fun s a => condition s a ∧ inv s ∧ check s a) s actions s' ∧
      inv s' := by
  induction path with
  | nil s =>
      exact ⟨.nil s, start⟩
  | cons meets stepped _ ih =>
      obtain ⟨holds, kept⟩ :=
        keeps (all _ List.mem_cons_self) start meets stepped
      obtain ⟨path, final⟩ := ih
        (fun a later => all a (List.mem_cons_of_mem _ later)) kept
      exact ⟨.cons ⟨holds, start, meets⟩ stepped path, final⟩

theorem Path.run_eq (path : M.Path condition s actions s') :
    M.run s actions = some s' := by
  induction path with
  | nil s =>
      rfl
  | cons _ stepped _ ih =>
      simpa [run, stepped] using ih

theorem path_of_run (executed : M.run s actions = some s') :
    M.Path (fun _ _ => True) s actions s' := by
  induction actions generalizing s with
  | nil =>
      simp only [run, Option.some.injEq] at executed
      subst executed
      exact Path.nil s
  | cons a rest ih =>
      simp only [run] at executed
      split at executed
      · next stepped =>
          exact Path.cons trivial stepped (ih executed)
      · cases executed

/-- A run whose steps all pass a check. -/
def checks (M : Machine σ α) (check : σ → α → Bool) : σ → List α → Bool
  | _, [] => true
  | s, a :: rest =>
      check s a &&
        match M.step s a with
        | some s' => checks M check s' rest
        | none => false

theorem path_of_checks
    {check : σ → α → Bool} (passes : M.checks check s actions = true) :
    ∃ s', M.Path (fun s a => check s a = true) s actions s' := by
  induction actions generalizing s with
  | nil =>
      exact ⟨s, .nil s⟩
  | cons a rest ih =>
      simp only [checks, Bool.and_eq_true] at passes
      obtain ⟨here, later⟩ := passes
      split at later
      · next middle stepped =>
          obtain ⟨s', path⟩ := ih later
          exact ⟨s', .cons here stepped path⟩
      · cases later

theorem run_append (s : σ) (first rest : List α) :
    M.run s (first ++ rest) = (M.run s first).bind (M.run · rest) := by
  induction first generalizing s with
  | nil =>
      rfl
  | cons a first ih =>
      simp only [List.cons_append, run]
      cases M.step s a with
      | none => rfl
      | some s' => exact ih s'

theorem Reaches.refl (s : σ) : M.Reaches s s :=
  ⟨[], rfl⟩

theorem Reaches.trans
    {middle : σ} (first : M.Reaches s middle) (rest : M.Reaches middle s') :
    M.Reaches s s' := by
  obtain ⟨firstActions, firstRun⟩ := first
  obtain ⟨restActions, restRun⟩ := rest
  exact ⟨firstActions ++ restActions, by
    rw [run_append, firstRun, Option.bind_some, restRun]⟩

theorem Reaches.step {a : α} (stepped : M.step s a = some s') :
    M.Reaches s s' :=
  ⟨[a], by simp [run, stepped]⟩

theorem Reaches.invariant
    (keeps : ∀ {s a s'}, inv s → M.step s a = some s' → inv s')
    (reached : M.Reaches s s') (start : inv s) :
    inv s' := by
  obtain ⟨actions, executed⟩ := reached
  exact (path_of_run executed).invariant inv
    (fun holds _ stepped => keeps holds stepped) start

end Machine
