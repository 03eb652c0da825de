import BootcOperator.Lib.Program

/-!
# Two runs of programs

`Relates` compares the runs of two programs that start in related states: they
end in the same way and in related states.  A program that is related to
itself when both states are one state with an invariant keeps the invariant.
-/

namespace Program

variable {σ τ ε α β γ δ : Type}

/-- Both runs return values that correspond, or both stop with the same error,
and they end in related states. -/
inductive EndAlike (rel : σ → τ → Prop) (same : α → β → Prop) :
    Except ε α × σ → Except ε β × τ → Prop
  | returned {a : α} {b : β} {s : σ} {t : τ} :
      same a b → rel s t → EndAlike rel same (.ok a, s) (.ok b, t)
  | stopped {e : ε} {s : σ} {t : τ} :
      rel s t → EndAlike rel same (.error e, s) (.error e, t)

/-- From related states the two programs end alike. -/
def Relates (rel : σ → τ → Prop) (same : α → β → Prop)
    (m : Program σ ε α) (n : Program τ ε β) : Prop :=
  ∀ s t, rel s t → EndAlike rel same (m s) (n t)

section EndAlike

variable {rel : σ → τ → Prop}

variable {first : Except ε α × σ}

theorem EndAlike.states
    {same : α → β → Prop} {second : Except ε β × τ}
    (alike : EndAlike rel same first second) : rel first.2 second.2 := by
  cases alike with
  | returned _ related => exact related
  | stopped related => exact related

theorem EndAlike.results
    {second : Except ε α × τ} (alike : EndAlike rel Eq first second) :
    first.1 = second.1 := by
  cases alike with
  | returned isSame _ => rw [isSame]
  | stopped _ => rfl

theorem EndAlike.of_eq
    {second : Except ε α × τ} (results : first.1 = second.1)
    (states : rel first.2 second.2) :
    EndAlike rel Eq first second := by
  obtain ⟨result, s⟩ := first
  obtain ⟨result', t⟩ := second
  obtain rfl : result = result' := results
  cases result with
  | ok value => exact .returned rfl states
  | error e => exact .stopped states

end EndAlike

namespace Relates

variable {rel : σ → τ → Prop} {same : α → β → Prop}

variable {m : Program σ ε α} {n : Program τ ε β}

theorem ret {a : α} {b : β} (isSame : same a b) :
    Relates rel same (pure a : Program σ ε α) (pure b : Program τ ε β) :=
  fun _ _ related => .returned isSame related

theorem fail (e : ε) :
    Relates rel same (Program.fail e : Program σ ε α)
      (Program.fail e : Program τ ε β) :=
  fun _ _ related => .stopped related

theorem read
    {part : σ → α} {part' : τ → β}
    (agree : ∀ s t, rel s t → same (part s) (part' t)) :
    Relates rel same (Program.read part : Program σ ε α)
      (Program.read part' : Program τ ε β) :=
  fun s t related => .returned (agree s t related) related

theorem update
    {change : σ → σ} {change' : τ → τ}
    (keeps : ∀ s t, rel s t → rel (change s) (change' t)) :
    Relates rel Eq (Program.update change : Program σ ε Unit)
      (Program.update change' : Program τ ε Unit) :=
  fun s t related => .returned rfl (keeps s t related)

theorem imp
    {same' : α → β → Prop} (relates : Relates rel same m n)
    (weaker : ∀ a b, same a b → same' a b) : Relates rel same' m n := by
  intro s t related
  have ends := relates s t related
  generalize m s = outcome at ends ⊢
  generalize n t = outcome' at ends ⊢
  cases ends with
  | returned isSame after => exact .returned (weaker _ _ isSame) after
  | stopped after => exact .stopped after

/-- A sequence whose first programs return values that correspond. -/
theorem bindOf
    {last : γ → δ → Prop} {next : α → Program σ ε γ}
    {next' : β → Program τ ε δ} (first : Relates rel same m n)
    (second : ∀ a b, same a b → Relates rel last (next a) (next' b)) :
    Relates rel last (m >>= next) (n >>= next') := by
  intro s t related
  have ends := first s t related
  rw [bind_apply, bind_apply]
  generalize m s = outcome at ends
  generalize n t = outcome' at ends
  cases ends with
  | returned isSame after => exact second _ _ isSame _ _ after
  | stopped after => exact .stopped after

theorem bind
    {last : γ → δ → Prop} {n : Program τ ε α} {next : α → Program σ ε γ}
    {next' : α → Program τ ε δ} (first : Relates rel Eq m n)
    (second : ∀ a, Relates rel last (next a) (next' a)) :
    Relates rel last (m >>= next) (n >>= next') :=
  first.bindOf fun a _ isSame => isSame ▸ second a

theorem mapError {rewrite : ε → ε} (relates : Relates rel same m n) :
    Relates rel same (Program.mapError rewrite m)
      (Program.mapError rewrite n) := by
  intro s t related
  have ends := relates s t related
  unfold Program.mapError
  generalize m s = outcome at ends
  generalize n t = outcome' at ends
  cases ends with
  | returned isSame after => exact .returned isSame after
  | stopped after => exact .stopped after

theorem attempt {n : Program τ ε α} (relates : Relates rel Eq m n) :
    Relates rel Eq (Program.attempt m) (Program.attempt n) := by
  intro s t related
  have ends := relates s t related
  exact .returned ends.results ends.states

theorem ofExcept (result : Except ε α) :
    Relates rel Eq (Program.ofExcept result : Program σ ε α)
      (Program.ofExcept result : Program τ ε α) := by
  cases result with
  | ok value => exact ret rfl
  | error e => exact fail e

theorem ite
    {condition : Prop} [Decidable condition]
    {yes no : Program σ ε α} {yes' no' : Program τ ε β}
    (whenTrue : Relates rel same yes yes')
    (whenFalse : Relates rel same no no') :
    Relates rel same (if condition then yes else no)
      (if condition then yes' else no') := by
  split
  · exact whenTrue
  · exact whenFalse

theorem forEach
    {items : List γ} {body : γ → Program σ ε Unit}
    {body' : γ → Program τ ε Unit}
    (each : ∀ x, Relates rel Eq (body x) (body' x)) :
    Relates rel Eq (Program.forEach items body)
      (Program.forEach items body') := by
  induction items with
  | nil => exact ret rfl
  | cons x rest ih =>
      exact (each x).bind fun _ => ih

theorem gather
    {items : List γ} {body : γ → Program σ ε (List δ)}
    {body' : γ → Program τ ε (List δ)}
    (each : ∀ x, Relates rel Eq (body x) (body' x)) :
    Relates rel Eq (Program.gather items body)
      (Program.gather items body') := by
  induction items with
  | nil => exact ret rfl
  | cons x rest ih =>
      refine (each x).bind fun first => ?_
      exact ih.bind fun more => ret rfl

end Relates

section Invariant

variable {inv : σ → Prop}

/-- Both states are one state with an invariant. -/
def Keeps (inv : σ → Prop) (s t : σ) : Prop :=
  s = t ∧ inv s

/-- A program that keeps an invariant is related to itself. -/
theorem relates_of_keeps
    {m : Program σ ε α} (keeps : ∀ s, inv s → inv (m s).2) :
    Relates (Keeps inv) Eq m m := by
  rintro s t ⟨rfl, holds⟩
  exact .of_eq rfl ⟨rfl, keeps s holds⟩

theorem Relates.keeps
    {m : Program σ ε α} (relates : Relates (Keeps inv) Eq m m)
    {s : σ} (holds : inv s) : inv (m s).2 :=
  (relates s s ⟨rfl, holds⟩).states.2

end Invariant

end Program
