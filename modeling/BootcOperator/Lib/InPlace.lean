import Mathlib.Data.List.Basic

/-!
# Filtering a slice in place

A loop reads the elements of an array in order and writes those it keeps to
the front of the same array, as Go's `kept := xs[:0]` idiom does, while it
takes notes of every element.  The writes stay behind the reads, so the loop
reads the original elements: the front is the filtered list, and the notes are
a fold over it.
-/

namespace InPlace

variable {α β : Type}

/-- A loop that filters a slice into its own array. -/
structure Scan (α β : Type) where
  array : List α
  /-- the length of the front that has been written -/
  kept : Nat
  notes : β

def Scan.visit (keep : α → Bool) (note : β → α → β) (scan : Scan α β)
    (i : Nat) : Scan α β :=
  match scan.array[i]? with
  | none => scan
  | some x =>
      if keep x then
        { array := scan.array.set scan.kept x
          kept := scan.kept + 1
          notes := note scan.notes x }
      else { scan with notes := note scan.notes x }

def scan (keep : α → Bool) (note : β → α → β) (xs : List α) (notes : β) :
    Scan α β :=
  (List.range xs.length).foldl (Scan.visit keep note) ⟨xs, 0, notes⟩

/-- What has been kept, `xs[:kept]`. -/
def Scan.front (scan : Scan α β) : List α :=
  scan.array.take scan.kept

/-- The invariant of the loop after `n` elements. -/
structure Scanned (keep : α → Bool) (note : β → α → β) (xs : List α)
    (notes : β) (n : Nat) (scan : Scan α β) : Prop where
  length : scan.array.length = xs.length
  behind : scan.kept ≤ n
  unread : scan.array.drop n = xs.drop n
  front : scan.front = (xs.take n).filter keep
  notes : scan.notes = (xs.take n).foldl note notes

variable {keep : α → Bool} {note : β → α → β} {xs : List α} {notes : β}

theorem take_succ_set
    {ys : List α} {k : Nat} (inside : k < ys.length) (x : α) :
    (ys.set k x).take (k + 1) = ys.take k ++ [x] := by
  rw [List.set_eq_take_append_cons_drop, if_pos inside]
  have length : (ys.take k).length = k := by
    rw [List.length_take]
    omega
  rw [List.take_append, length, List.take_of_length_le (by omega)]
  simp

theorem Scanned.visit
    {n : Nat} {scan : Scan α β} (inside : n < xs.length)
    (scanned : Scanned keep note xs notes n scan) :
    Scanned keep note xs notes (n + 1) (scan.visit keep note n) := by
  obtain ⟨x, isNext⟩ : ∃ x, xs[n]? = some x :=
    ⟨xs[n], List.getElem?_eq_getElem inside⟩
  have isRead : scan.array[n]? = some x := by
    have first := congrArg (·[0]?) scanned.unread
    simp only [List.getElem?_drop, Nat.add_zero] at first
    exact first.trans isNext
  have taken : xs.take (n + 1) = xs.take n ++ [x] := by
    rw [List.take_add_one, isNext]
    rfl
  have unread : scan.array.drop (n + 1) = xs.drop (n + 1) := by
    rw [← List.drop_drop, scanned.unread, List.drop_drop]
  have behind := scanned.behind
  unfold Scan.visit
  rw [isRead]
  cases kept : keep x with
  | true =>
      simp only [kept, if_true]
      refine ⟨?_, Nat.succ_le_succ behind, ?_, ?_, ?_⟩
      · rw [List.length_set, scanned.length]
      · rw [List.drop_set_of_lt (by omega), unread]
      · have room : scan.kept < scan.array.length := by
          rw [scanned.length]
          omega
        have front := scanned.front
        unfold Scan.front at front ⊢
        rw [take_succ_set room, front, taken, List.filter_append]
        simp [kept]
      · rw [scanned.notes, taken, List.foldl_append]
        rfl
  | false =>
      simp only [kept, Bool.false_eq_true, if_false]
      refine ⟨scanned.length, Nat.le_succ_of_le behind, unread, ?_, ?_⟩
      · have front := scanned.front
        unfold Scan.front at front ⊢
        rw [front, taken, List.filter_append]
        simp [kept]
      · rw [scanned.notes, taken, List.foldl_append]
        rfl

theorem scanned_scan (keep : α → Bool) (note : β → α → β) (xs : List α)
    (notes : β) :
    Scanned keep note xs notes xs.length (scan keep note xs notes) := by
  suffices general : ∀ n ≤ xs.length, Scanned keep note xs notes n
      ((List.range n).foldl (Scan.visit keep note) ⟨xs, 0, notes⟩) from
    general xs.length (Nat.le_refl _)
  intro n
  induction n with
  | zero => exact fun _ => ⟨rfl, Nat.le_refl 0, rfl, rfl, rfl⟩
  | succ n ih =>
      intro inside
      rw [List.range_succ, List.foldl_append]
      exact (ih (by omega)).visit (by omega)

/-- The front is the filtered list. -/
theorem front_scan (keep : α → Bool) (note : β → α → β) (xs : List α)
    (notes : β) : (scan keep note xs notes).front = xs.filter keep := by
  have front := (scanned_scan keep note xs notes).front
  rwa [List.take_length] at front

theorem notes_scan (keep : α → Bool) (note : β → α → β) (xs : List α)
    (notes : β) : (scan keep note xs notes).notes = xs.foldl note notes := by
  have taken := (scanned_scan keep note xs notes).notes
  rwa [List.take_length] at taken

end InPlace
