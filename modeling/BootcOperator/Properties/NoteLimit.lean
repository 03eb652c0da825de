import BootcOperator.Controller.Notes

/-!
# The limit of event notes

`capNote` cuts a note at a byte offset.  The offset is a rune boundary of the
repaired note, so that the prefix is valid again, and the greatest one that
leaves room for the suffix.
-/

namespace BootcOperator

open Utf8

theorem valid_toValidUTF8 (note : List UInt8) : Valid (toValidUTF8 note) :=
  valid_toValid _ ⟨['�'], by decide⟩ false note

section

variable {note : List UInt8}

theorem toValidUTF8_of_valid (valid : Valid note) :
    toValidUTF8 note = note := by
  obtain ⟨runes, rfl⟩ := valid
  exact toValid_encode _ false runes

theorem valid_eventNoteSuffix : Valid eventNoteSuffix :=
  ⟨['.', '.', '.'], by decide⟩

/-- The bytes begin with `front`, cut between two runes. -/
def IsRunePrefix (front bytes : List UInt8) : Prop :=
  ∃ before after, front = encode before ∧ bytes = encode (before ++ after)

/-- The longest prefix of at most `limit` bytes that ends between runes. -/
structure IsLongestRunePrefix (limit : Nat) (front bytes : List UInt8) :
    Prop where
  runes : IsRunePrefix front bytes
  length : front.length ≤ limit
  longest : ∀ other, IsRunePrefix other bytes → other.length ≤ limit →
    other.length ≤ front.length

/-- The prefix up to the boundary that the scan finds. -/
theorem longestRunePrefix_take
    {runes : List Char} {limit last : Nat} (bound : last ≤ limit)
    (boundary : Boundary runes last)
    (greatest : ∀ offset ≤ limit, Boundary runes offset → offset ≤ last) :
    IsLongestRunePrefix limit ((encode runes).take last) (encode runes) := by
  obtain ⟨before, after, rfl, rfl⟩ := boundary
  rw [encode_append, List.take_left]
  refine ⟨⟨before, after, rfl, (encode_append _ _).symm⟩, bound, ?_⟩
  rintro other ⟨otherBefore, otherAfter, rfl, isBytes⟩ otherBound
  rw [← encode_append] at isBytes
  have sameRunes : before ++ after = otherBefore ++ otherAfter :=
    encode_injective isBytes
  exact greatest _ otherBound ⟨otherBefore, otherAfter, sameRunes, rfl⟩

theorem capNote_of_short (short : (toValidUTF8 note).length ≤ eventNoteLimit) :
    capNote note = some (toValidUTF8 note) := by
  unfold capNote
  exact if_pos short

theorem capNote_of_long (long : eventNoteLimit < (toValidUTF8 note).length) :
    ∃ front, capNote note = some (front ++ eventNoteSuffix) ∧
      IsLongestRunePrefix 1021 front (toValidUTF8 note) := by
  obtain ⟨runes, isEncoded⟩ := valid_toValidUTF8 note
  have inRange : eventNoteLimit - eventNoteSuffix.length <
      (encode runes).length := by
    rw [← isEncoded]
    exact Nat.lt_of_le_of_lt (Nat.sub_le _ _) long
  obtain ⟨last, bound, found, boundary, greatest⟩ :=
    lastStart_encode runes inRange
  refine ⟨(encode runes).take last, ?_, ?_⟩
  · unfold capNote
    dsimp only
    rw [if_neg (Nat.not_le.mpr long), isEncoded, found, Option.map_some]
  · rw [isEncoded]
    exact longestRunePrefix_take bound boundary greatest

/-- A short valid note is left alone. -/
theorem capNote_of_valid
    (valid : Valid note) (short : note.length ≤ eventNoteLimit) :
    capNote note = some note := by
  have same := toValidUTF8_of_valid valid
  rw [capNote_of_short (by rwa [same]), same]

end

/-- `capNote` is a bounded truncation of the note with its invalid bytes
replaced, and a valid note has none. -/
theorem capNote_is_bounded_truncation (s : List UInt8) :
    (Valid s → toValidUTF8 s = s) ∧
    ∃ note, capNote s = some note ∧ Valid note ∧
      note.length ≤ eventNoteLimit ∧
      ((toValidUTF8 s).length ≤ eventNoteLimit → note = toValidUTF8 s) ∧
      (eventNoteLimit < (toValidUTF8 s).length →
        ∃ front, note = front ++ eventNoteSuffix ∧
          IsLongestRunePrefix 1021 front (toValidUTF8 s)) ∧
      capNote note = some note := by
  refine ⟨toValidUTF8_of_valid, ?_⟩
  rcases Nat.lt_or_ge eventNoteLimit (toValidUTF8 s).length with long | short
  · obtain ⟨front, isCapped, longest⟩ := capNote_of_long long
    have valid : Valid (front ++ eventNoteSuffix) := by
      obtain ⟨before, _, isFront, _⟩ := longest.runes
      exact Valid.append ⟨before, isFront⟩ valid_eventNoteSuffix
    have bound : (front ++ eventNoteSuffix).length ≤ eventNoteLimit := by
      have frontBound := longest.length
      rw [List.length_append]
      exact Nat.add_le_add_right frontBound 3
    exact ⟨_, isCapped, valid, bound,
      fun short => absurd short (Nat.not_le.mpr long),
      fun _ => ⟨front, rfl, longest⟩, capNote_of_valid valid bound⟩
  · have valid := valid_toValidUTF8 s
    exact ⟨_, capNote_of_short short, valid, short, fun _ => rfl,
      fun long => absurd short (Nat.not_le.mpr long),
      capNote_of_valid valid short⟩

/-- The test of the source with an invalid byte. -/
example : capNote [0x61, 0xFF, 0x62] =
    some [0x61, 0xEF, 0xBF, 0xBD, 0x62] := by
  decide +kernel

end BootcOperator
