import Mathlib.Logic.Relation
import Mathlib.Order.Defs.Unbundled

/-!
# Programs with a state and errors

A `Program` reads and updates a state and may stop with an error; the state
reached when it stops is kept, as it is for a procedure that has already sent
some of its requests when the next one is refused.

Two ways of reasoning about programs follow.  `Moves` says that a program
moves the state along a preorder, whatever it starts from and however it ends.

The rest is a small program logic.  A `Regime` fixes what an observer
sees of the state and the steps the observed part may take.  `Regime.Follows`
is the triple: from a state with the precondition, every run of the program
moves the observed part along admitted steps only, and establishes one
postcondition when it returns and another when it stops with an error.
-/

/-- A computation over the state `σ` that returns an `α` or stops with an
`ε`. -/
def Program (σ ε α : Type) : Type :=
  σ → Except ε α × σ

namespace Program

variable {σ ε α β : Type} {body : β → Program σ ε Unit} {s s' : σ}
  {rewrite : ε → ε} {m first : Program σ ε α} {change : σ → σ} {items : List β}

def ret (value : α) : Program σ ε α :=
  fun s => (.ok value, s)

def andThen (first : Program σ ε α) (next : α → Program σ ε β) :
    Program σ ε β :=
  fun s =>
    match first s with
    | (.ok value, s') => next value s'
    | (.error e, s') => (.error e, s')

instance : Monad (Program σ ε) where
  pure := ret
  bind := andThen

def fail (e : ε) : Program σ ε α :=
  fun s => (.error e, s)

def read (part : σ → α) : Program σ ε α :=
  fun s => (.ok (part s), s)

def update (change : σ → σ) : Program σ ε Unit :=
  fun s => (.ok (), change s)

/-- Errors are wrapped, results are left. -/
def mapError (rewrite : ε → ε) (m : Program σ ε α) : Program σ ε α :=
  fun s =>
    match m s with
    | (.ok value, s') => (.ok value, s')
    | (.error e, s') => (.error (rewrite e), s')

/-- Turn an error into a value the caller can inspect. -/
def attempt (m : Program σ ε α) : Program σ ε (Except ε α) :=
  fun s => (.ok (m s).1, (m s).2)

/-- Return the value of a computation that is not stateful. -/
def ofExcept : Except ε α → Program σ ε α
  | .ok value => ret value
  | .error e => fail e

/-- A loop that ends with the first error. -/
def forEach : List β → (β → Program σ ε Unit) → Program σ ε Unit
  | [], _ => pure ()
  | x :: xs, body => do
      body x
      forEach xs body

/-- A loop that collects what its rounds return. -/
def gather {γ : Type} :
    List β → (β → Program σ ε (List γ)) → Program σ ε (List γ)
  | [], _ => pure []
  | x :: xs, body => do
      let first ← body x
      let rest ← gather xs body
      pure (first ++ rest)

/-- The elements of a list with the states in which a loop comes to them, if
the body does not stop. -/
def visits {γ : Type} (body : β → Program σ ε γ) : List β → σ → List (β × σ)
  | [], _ => []
  | x :: xs, s => (x, s) :: visits body xs (body x s).2

@[simp]
theorem pure_apply (value : α) (s : σ) :
    (pure value : Program σ ε α) s = (.ok value, s) :=
  rfl

theorem bind_apply
    (first : Program σ ε α) (next : α → Program σ ε β) (s : σ) :
    (first >>= next) s =
      match first s with
      | (.ok value, s') => next value s'
      | (.error e, s') => (.error e, s') :=
  rfl

@[simp]
theorem fail_apply (e : ε) (s : σ) :
    (fail e : Program σ ε α) s = (.error e, s) :=
  rfl

@[simp]
theorem read_apply (part : σ → α) (s : σ) :
    (read part : Program σ ε α) s = (.ok (part s), s) :=
  rfl

@[simp]
theorem update_apply (change : σ → σ) (s : σ) :
    (update change : Program σ ε Unit) s = (.ok (), change s) :=
  rfl

@[simp]
theorem attempt_apply (m : Program σ ε α) (s : σ) :
    attempt m s = (.ok (m s).1, (m s).2) :=
  rfl

section

variable {next : α → Program σ ε β} {value : α}

/-- A first program that returns hands its value and its state over. -/
theorem bind_apply_of_ok (returned : first s = (.ok value, s')) :
    (first >>= next) s = next value s' := by
  rw [bind_apply, returned]

/-- A first program that stops also stops the sequence. -/
theorem bind_apply_of_error {e : ε} (stopped : first s = (.error e, s')) :
    (first >>= next) s = (.error e, s') := by
  rw [bind_apply, stopped]

/-- A sequence that returns is made of two programs that return. -/
theorem ok_of_bind
    {last : β} (returned : (first >>= next) s = (.ok last, s')) :
    ∃ value mid, first s = (.ok value, mid) ∧
      next value mid = (.ok last, s') := by
  rw [bind_apply] at returned
  rcases outcome : first s with ⟨result, mid⟩
  rw [outcome] at returned
  cases result with
  | error e => cases returned
  | ok value => exact ⟨value, mid, rfl, returned⟩

/-- A read hands the part over. -/
theorem ok_of_bindRead
    {part : σ → α} {last : β}
    (returned : (read part >>= next) s = (.ok last, s')) :
    next (part s) s = (.ok last, s') :=
  returned

theorem ok_of_mapError (returned : mapError rewrite m s = (.ok value, s')) :
    m s = (.ok value, s') := by
  unfold mapError at returned
  rcases outcome : m s with ⟨result, mid⟩
  rw [outcome] at returned
  cases result with
  | error e => cases returned
  | ok value => exact returned

theorem ok_of_ofExcept
    {result : Except ε α} (returned : ofExcept result s = (.ok value, s')) :
    result = .ok value ∧ s' = s := by
  cases result with
  | error e => cases returned
  | ok value =>
      cases returned
      exact ⟨rfl, rfl⟩

theorem eq_of_fst_eq_ok
    {outcome : Except ε α × σ} (returned : outcome.1 = .ok value) :
    outcome = (.ok value, outcome.2) :=
  Prod.ext returned rfl

end

/-- An outcome without an error is a value and a state. -/
theorem exists_of_isOk
    {outcome : Except ε α × σ} (isOk : outcome.1.isOk = true) :
    ∃ value s, outcome = (.ok value, s) := by
  rcases outcome with ⟨result, s⟩
  cases result with
  | error e => cases isOk
  | ok value => exact ⟨value, s, rfl⟩

/-! ## Programs that move along a preorder -/

/-- Every run is a move of the relation, whether it fails or not. -/
def Moves (rel : σ → σ → Prop) (m : Program σ ε α) : Prop :=
  ∀ s, rel s (m s).2

section Moves

variable {rel : σ → σ → Prop} [IsPreorder σ rel]

theorem Moves.ret (value : α) :
    Moves rel (pure value : Program σ ε α) :=
  fun s => refl s

theorem Moves.fail (e : ε) : Moves rel (fail e : Program σ ε α) :=
  fun s => refl s

theorem Moves.read (part : σ → α) :
    Moves rel (read part : Program σ ε α) :=
  fun s => refl s

omit [IsPreorder σ rel] in
theorem Moves.update (moves : ∀ s, rel s (change s)) :
    Moves rel (update change : Program σ ε Unit) :=
  moves

theorem Moves.bind
    {next : α → Program σ ε β} (firstMoves : Moves rel first)
    (nextMoves : ∀ v, Moves rel (next v)) :
    Moves rel (first >>= next) := by
  intro s
  have here := firstMoves s
  rw [bind_apply]
  rcases outcome : first s with ⟨result, s'⟩
  rw [outcome] at here
  cases result with
  | error e => exact here
  | ok value => exact Trans.trans here (nextMoves value s')

omit [IsPreorder σ rel] in
theorem Moves.mapError (moves : Moves rel m) :
    Moves rel (mapError rewrite m) := by
  intro s
  have here := moves s
  unfold Program.mapError
  rcases outcome : m s with ⟨result, s'⟩
  rw [outcome] at here
  cases result <;> exact here

omit [IsPreorder σ rel] in
theorem Moves.attempt (moves : Moves rel m) :
    Moves rel (attempt m) :=
  moves

theorem Moves.ofExcept (result : Except ε α) :
    Moves rel (ofExcept result : Program σ ε α) := by
  cases result with
  | ok value => exact .ret value
  | error e => exact .fail e

omit [IsPreorder σ rel] in
theorem Moves.ite
    {condition : Prop} [Decidable condition] {yes no : Program σ ε α}
    (whenTrue : Moves rel yes) (whenFalse : Moves rel no) :
    Moves rel (if condition then yes else no) := by
  split
  · exact whenTrue
  · exact whenFalse

theorem Moves.forEach_mem (each : ∀ x ∈ items, Moves rel (body x)) :
    Moves rel (forEach items body) := by
  induction items with
  | nil => exact .ret ()
  | cons x rest ih =>
      refine (each x List.mem_cons_self).bind fun _ => ?_
      exact ih fun y later =>
        each y (List.mem_cons_of_mem x later)

theorem Moves.forEach (each : ∀ x, Moves rel (body x)) :
    Moves rel (forEach items body) :=
  .forEach_mem fun x _ => each x

theorem Moves.gather
    {γ : Type} {body : β → Program σ ε (List γ)}
    (each : ∀ x, Moves rel (body x)) : Moves rel (gather items body) := by
  induction items with
  | nil => exact .ret []
  | cons x rest ih =>
      refine (each x).bind fun first => ?_
      exact ih.bind fun more => .ret (first ++ more)

end Moves

/-- The part is left as it was. -/
def Keeping (part : σ → β) (s s' : σ) : Prop :=
  part s' = part s

instance (part : σ → β) : IsPreorder σ (Keeping part) where
  refl := fun _ => rfl
  trans := fun _ _ _ first second => Eq.trans second first

section

/-- A loop that returns and visits `x` once does to a part of the state what
the body does for `x`, if the body touches that part for no other element. -/
theorem part_of_forEach_ok
    {γ : Type} (part : σ → γ) {x : β} (nodup : items.Nodup)
    (member : x ∈ items) (others : ∀ y, y ≠ x → Moves (Keeping part) (body y))
    (returned : forEach items body s = (.ok (), s')) :
    ∃ mid mid', part mid = part s ∧ body x mid = (.ok (), mid') ∧
      part s' = part mid' := by
  induction items generalizing s with
  | nil => cases member
  | cons y rest ih =>
      obtain ⟨notLater, restNodup⟩ := List.nodup_cons.mp nodup
      obtain ⟨_, next, first, later⟩ := ok_of_bind returned
      by_cases same : y = x
      · subst same
        have keeps : Moves (Keeping part) (forEach rest body) :=
          .forEach_mem fun z isLater => others z fun isFirst =>
            notLater (isFirst ▸ isLater)
        have kept := keeps next
        rw [later] at kept
        exact ⟨s, next, rfl, first, kept⟩
      · have isLater : x ∈ rest :=
          (List.mem_cons.mp member).resolve_left fun isFirst =>
            same isFirst.symm
        obtain ⟨mid, mid', atMid, visited, final⟩ :=
          ih restNodup isLater later
        have kept := others y same s
        rw [first] at kept
        exact ⟨mid, mid', atMid.trans kept, visited, final⟩

/-- The loop rule for a run that returns: `inv rest s` is what holds when the
elements of `rest` are still to come. -/
theorem forEach_ok_invariant
    (inv : List β → σ → Prop)
    (each : ∀ x rest s s', inv (x :: rest) s → body x s = (.ok (), s') →
      inv rest s') (start : inv items s)
    (returned : forEach items body s = (.ok (), s')) : inv [] s' := by
  induction items generalizing s with
  | nil =>
      cases returned
      exact start
  | cons x rest ih =>
      obtain ⟨_, next, first, later⟩ := ok_of_bind returned
      exact ih (each x rest s next start first) later

theorem forEach_returns (returns : ∀ y s, (body y s).1 = .ok ()) (s : σ) :
    (forEach items body s).1 = .ok () := by
  induction items generalizing s with
  | nil => rfl
  | cons y rest ih =>
      have first : body y s = (.ok (), (body y s).2) :=
        Prod.ext (returns y s) rfl
      have unrolled : forEach (y :: rest) body s =
          forEach rest body (body y s).2 := bind_apply_of_ok first
      rw [unrolled]
      exact ih _

theorem part_of_forEach
    {γ : Type} (part : σ → γ) {x : β} (nodup : items.Nodup)
    (member : x ∈ items) (others : ∀ y, y ≠ x → Moves (Keeping part) (body y))
    (returns : ∀ y s, (body y s).1 = .ok ()) (s : σ) :
    ∃ mid, part mid = part s ∧
      part (forEach items body s).2 = part (body x mid).2 := by
  have returned : forEach items body s =
      (.ok (), (forEach items body s).2) :=
    Prod.ext (forEach_returns returns s) rfl
  obtain ⟨mid, mid', atMid, visited, final⟩ :=
    part_of_forEach_ok part nodup member others returned
  exact ⟨mid, atMid, by rw [final, visited]⟩

end

/-- What an observer of a program sees of its state, and the steps the
observed part may take. -/
structure Regime (σ ω : Type) where
  view : σ → ω
  step : ω → ω → Prop

namespace Regime

variable {ω : Type} {R : Regime σ ω}

/-- What one run of a program has to satisfy when it ends with `outcome`. -/
def Ends (R : Regime σ ω) (post : α → σ → Prop) (exc : ε → σ → Prop)
    (s : σ) (outcome : Except ε α × σ) : Prop :=
  Relation.ReflTransGen R.step (R.view s) (R.view outcome.2) ∧
    match outcome.1 with
    | .ok value => post value outcome.2
    | .error e => exc e outcome.2

/-- A triple whose steps are those of the regime. -/
def Follows (R : Regime σ ω) (pre : σ → Prop) (m : Program σ ε α)
    (post : α → σ → Prop) (exc : ε → σ → Prop) : Prop :=
  ∀ s, pre s → R.Ends post exc s (m s)

variable {pre : σ → Prop} {post : α → σ → Prop} {exc : ε → σ → Prop}

variable {last : β → σ → Prop} {next : α → Program σ ε β} {part : σ → α}

/-- The postcondition of a run that returns. -/
theorem Follows.returns
    (follows : R.Follows pre m post exc) {value : α} (before : pre s)
    (returned : m s = (.ok value, s')) : post value s' := by
  have ends := (follows s before).2
  rw [returned] at ends
  exact ends

/-- What a run establishes however it ends. -/
theorem Follows.final
    {inv : σ → Prop} (follows : R.Follows pre m (fun _ => inv) (fun _ => inv))
    (before : pre s) : inv (m s).2 := by
  have ends := (follows s before).2
  cases result : (m s).1 with
  | error e => simpa [result] using ends
  | ok value => simpa [result] using ends

theorem Follows.ret
    {value : α} (holds : ∀ s, pre s → post value s) :
    R.Follows pre (pure value) post exc := by
  intro s before
  exact ⟨.refl, holds s before⟩

theorem Follows.bind
    {mid : α → σ → Prop} (firstFollows : R.Follows pre first mid exc)
    (nextFollows : ∀ value, R.Follows (mid value) (next value) last exc) :
    R.Follows pre (first >>= next) last exc := by
  intro s before
  have firstEnds := firstFollows s before
  unfold Ends at firstEnds
  rw [bind_apply]
  rcases outcome : first s with ⟨result, s'⟩
  rw [outcome] at firstEnds
  obtain ⟨firstChain, firstPost⟩ := firstEnds
  cases result with
  | error e =>
      exact ⟨firstChain, firstPost⟩
  | ok value =>
      obtain ⟨nextChain, nextPost⟩ := nextFollows value s' firstPost
      exact ⟨firstChain.trans nextChain, nextPost⟩

/-- A sequence with the condition in between given. -/
theorem Follows.bindVia
    (mid : α → σ → Prop) (firstFollows : R.Follows pre first mid exc)
    (nextFollows : ∀ value, R.Follows (mid value) (next value) last exc) :
    R.Follows pre (first >>= next) last exc :=
  firstFollows.bind nextFollows

theorem Follows.conseq
    {pre' : σ → Prop} {post' : α → σ → Prop} {exc' : ε → σ → Prop}
    (follows : R.Follows pre' m post' exc') (before : ∀ s, pre s → pre' s)
    (after : ∀ value s, post' value s → post value s)
    (stopped : ∀ e s, exc' e s → exc e s) :
    R.Follows pre m post exc := by
  intro s holds
  obtain ⟨chain, result⟩ := follows s (before s holds)
  refine ⟨chain, ?_⟩
  cases outcome : (m s).1 with
  | error e =>
      simp only [outcome] at result
      exact stopped e _ result
  | ok value =>
      simp only [outcome] at result
      exact after value _ result

theorem Follows.weaken
    {pre' : σ → Prop} (follows : R.Follows pre' m post exc)
    (before : ∀ s, pre s → pre' s) : R.Follows pre m post exc :=
  fun s holds => follows s (before s holds)

/-- What every step keeps, a chain of steps keeps. -/
theorem chain_invariant
    {step : ω → ω → Prop} (inv : ω → Prop)
    (keeps : ∀ {seen seen'}, step seen seen' → inv seen → inv seen')
    {first last : ω} (chain : Relation.ReflTransGen step first last)
    (start : inv first) : inv last := by
  induction chain with
  | refl => exact start
  | tail _ taken ih => exact keeps taken ih

/-- What every step keeps, a program keeps. -/
theorem Follows.withInvariant
    (inv : ω → Prop)
    (keeps : ∀ {seen seen'}, R.step seen seen' → inv seen → inv seen')
    (follows : R.Follows pre m post exc) :
    R.Follows (fun s => pre s ∧ inv (R.view s)) m
      (fun value s => post value s ∧ inv (R.view s))
      (fun e s => exc e s ∧ inv (R.view s)) := by
  intro s before
  obtain ⟨chain, result⟩ := follows s before.1
  have kept := chain_invariant inv keeps chain before.2
  refine ⟨chain, ?_⟩
  cases outcome : (m s).1 with
  | error e =>
      simp only [outcome] at result
      exact ⟨result, kept⟩
  | ok value =>
      simp only [outcome] at result
      exact ⟨result, kept⟩

theorem Follows.mono
    {step : ω → ω → Prop}
    (more : ∀ {seen seen'}, R.step seen seen' → step seen seen')
    (follows : R.Follows pre m post exc) :
    Follows ⟨R.view, step⟩ pre m post exc := by
  intro s before
  obtain ⟨chain, result⟩ := follows s before
  exact ⟨chain.lift id fun _ _ => more, result⟩

/-- A fact of the precondition that does not depend on the state. -/
theorem Follows.assume
    {fact : Prop} (follows : fact → R.Follows pre m post exc) :
    R.Follows (fun s => pre s ∧ fact) m post exc :=
  fun s before => follows before.2 s before.1

theorem Follows.know
    (fact : Prop) (known : ∀ s, pre s → fact)
    (follows : fact → R.Follows pre m post exc) :
    R.Follows pre m post exc :=
  fun s before => follows (known s before) s before

theorem Follows.given
    {ι : Sort*} {pre : ι → σ → Prop}
    (follows : ∀ x, R.Follows (pre x) m post exc) :
    R.Follows (fun s => ∃ x, pre x s) m post exc :=
  fun s ⟨x, before⟩ => follows x s before

theorem Follows.fail
    {e : ε} (allowed : ∀ s, pre s → exc e s) :
    R.Follows pre (Program.fail e : Program σ ε α) post exc := by
  intro s before
  exact ⟨.refl, allowed s before⟩

/-- Read a part of the state and go on with its value. -/
theorem Follows.bindRead
    (follows : ∀ value,
      R.Follows (fun s => pre s ∧ part s = value) (next value) last exc) :
    R.Follows pre (Program.read part >>= next) last exc :=
  fun s before => follows (part s) s ⟨before, rfl⟩

/-- Read a part of the state that does not matter. -/
theorem Follows.bindReadAny
    (follows : ∀ value, R.Follows pre (next value) last exc) :
    R.Follows pre (Program.read part >>= next) last exc :=
  fun s before => follows (part s) s before

/-- Read a part of the state of which something is known. -/
theorem Follows.bindReadOf
    (fact : α → Prop) (known : ∀ s, pre s → fact (part s))
    (follows : ∀ value, fact value →
      R.Follows (fun s => pre s ∧ part s = value) (next value) last exc) :
    R.Follows pre (Program.read part >>= next) last exc :=
  fun s before => follows (part s) (known s before) s ⟨before, rfl⟩

theorem Follows.read (holds : ∀ s, pre s → post (part s) s) :
    R.Follows pre (Program.read part : Program σ ε α) post exc := by
  intro s before
  exact ⟨.refl, holds s before⟩

/-- An update that the observer does not see. -/
theorem Follows.update
    {post : Unit → σ → Prop}
    (unseen : ∀ s, pre s → R.view (change s) = R.view s)
    (holds : ∀ s, pre s → post () (change s)) :
    R.Follows pre (Program.update change : Program σ ε Unit) post exc := by
  intro s before
  refine ⟨?_, holds s before⟩
  simp only [update_apply]
  rw [unseen s before]

/-- An update that the observer sees as one step. -/
theorem Follows.step
    {post : Unit → σ → Prop}
    (seen : ∀ s, pre s → R.step (R.view s) (R.view (change s)))
    (holds : ∀ s, pre s → post () (change s)) :
    R.Follows pre (Program.update change : Program σ ε Unit) post exc :=
  fun s before => ⟨.single (seen s before), holds s before⟩

theorem Follows.mapError
    (follows : R.Follows pre m post fun e s => exc (rewrite e) s) :
    R.Follows pre (Program.mapError rewrite m) post exc := by
  intro s before
  have ends := follows s before
  unfold Ends Program.mapError at *
  rcases outcome : m s with ⟨result, s'⟩
  rw [outcome] at ends
  cases result <;> exact ends

/-- A caught error leaves what the program promised for it. -/
theorem Follows.attempt
    {exc' : ε → σ → Prop} (follows : R.Follows pre m post exc) :
    R.Follows pre (Program.attempt m)
      (fun result s =>
        match result with
        | .ok value => post value s
        | .error e => exc e s) exc' :=
  fun s before => follows s before

theorem Follows.ofExcept
    {result : Except ε α}
    (returned : ∀ value, result = .ok value → ∀ s, pre s → post value s)
    (stopped : ∀ e, result = .error e → ∀ s, pre s → exc e s) :
    R.Follows pre (Program.ofExcept result : Program σ ε α) post exc := by
  cases result with
  | ok value =>
      exact Follows.ret (returned value rfl)
  | error e =>
      exact Follows.fail (stopped e rfl)

theorem Follows.ite
    {condition : Prop} [Decidable condition] {yes no : Program σ ε α}
    (whenTrue : condition → R.Follows pre yes post exc)
    (whenFalse : ¬ condition → R.Follows pre no post exc) :
    R.Follows pre (if condition then yes else no) post exc := by
  by_cases holds : condition
  · rw [if_pos holds]
    exact whenTrue holds
  · rw [if_neg holds]
    exact whenFalse holds

/-- The loop rule: `Done done s` is what holds after the elements of `done`
have been processed. -/
theorem Follows.forEach
    (Done : List β → σ → Prop)
    (each : ∀ done x rest, items = done ++ x :: rest →
      R.Follows (Done done) (body x) (fun _ s => Done (done ++ [x]) s) exc) :
    R.Follows (Done []) (Program.forEach items body)
      (fun _ s => Done items s) exc := by
  suffices general : ∀ rest done, items = done ++ rest →
      R.Follows (Done done) (Program.forEach rest body)
        (fun _ s => Done items s) exc from general items [] rfl
  intro rest
  induction rest with
  | nil =>
      intro done split
      have whole : items = done := by simpa using split
      subst whole
      exact Follows.ret fun _ holds => holds
  | cons x rest ih =>
      intro done split
      refine Follows.bind (each done x rest split) fun _ => ?_
      exact ih (done ++ [x]) (by simpa using split)

/-- The loop rule for a fact that every iteration keeps. -/
theorem Follows.forEach_keeps
    (each : ∀ x ∈ items, R.Follows pre (body x) (fun _ s => pre s) exc) :
    R.Follows pre (Program.forEach items body) (fun _ s => pre s) exc := by
  refine Follows.forEach (fun _ s => pre s) ?_
  intro done x rest split
  exact each x (by simp [split])

/-- The loop rule for a loop that collects what its body returns. -/
theorem Follows.gather
    {γ : Type} {body : β → Program σ ε (List γ)}
    (Done : List β → List γ → σ → Prop)
    (each : ∀ done x rest gathered, items = done ++ x :: rest →
      R.Follows (Done done gathered) (body x)
        (fun more s => Done (done ++ [x]) (gathered ++ more) s) exc) :
    R.Follows (Done [] []) (Program.gather items body)
      (fun gathered s => Done items gathered s) exc := by
  suffices general : ∀ rest done gathered, items = done ++ rest →
      R.Follows (Done done gathered) (Program.gather rest body)
        (fun more s => Done items (gathered ++ more) s) exc from
    general items [] [] rfl
  intro rest
  induction rest with
  | nil =>
      intro done gathered split
      have whole : items = done := by simpa using split
      subst whole
      exact Follows.ret fun _ holds => by simpa using holds
  | cons x rest ih =>
      intro done gathered split
      refine Follows.bind (each done x rest gathered split) fun first => ?_
      refine Follows.bind
        (ih (done ++ [x]) (gathered ++ first)
          (by simpa using split)) fun more => ?_
      exact Follows.ret fun _ holds => by
        simpa [List.append_assoc] using holds

end Regime

end Program
