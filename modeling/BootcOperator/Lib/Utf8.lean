import Mathlib.Data.List.Basic

/-!
# Runes and their boundaries in UTF-8

Byte strings as lists of bytes.  A valid string is the encoding of a list of
runes; a prefix of it ends at a rune boundary when it encodes a prefix of the
runes.  `isRuneStart` recognises the boundaries of a valid string by one byte,
which a scan from an arbitrary offset relies on.
-/

namespace Utf8

open String

def encode (runes : List Char) : List UInt8 :=
  runes.flatMap utf8EncodeChar

/-- The encoding of some text. -/
def Valid (bytes : List UInt8) : Prop :=
  ∃ runes, bytes = encode runes

/-- `utf8.RuneStart`. -/
def isRuneStart (b : UInt8) : Bool :=
  b &&& 0xC0 != 0x80

/-- The rune at the front of a byte string, if there is a valid one. -/
def decodeRune (bytes : List UInt8) : Option Char :=
  bytes.toByteArray.utf8DecodeChar? 0

@[simp]
theorem encode_nil : encode [] = [] := rfl

section

variable (c : Char) (runes : List Char)

@[simp]
theorem encode_cons :
    encode (c :: runes) = utf8EncodeChar c ++ encode runes := rfl

@[simp]
theorem encode_append (left right : List Char) :
    encode (left ++ right) = encode left ++ encode right :=
  List.flatMap_append

theorem Valid.append
    {left right : List UInt8} (first : Valid left) (second : Valid right) :
    Valid (left ++ right) := by
  obtain ⟨leftRunes, rfl⟩ := first
  obtain ⟨rightRunes, rfl⟩ := second
  exact ⟨leftRunes ++ rightRunes, (encode_append _ _).symm⟩

theorem isRuneStart_ofNat :
    ∀ n < 256, isRuneStart (UInt8.ofNat n) = decide (n / 64 ≠ 2) := by
  decide +kernel

def continuation (n : Nat) : UInt8 :=
  UInt8.ofNat (n % 64 + 128)

theorem isRuneStart_continuation (n : Nat) :
    isRuneStart (continuation n) = false := by
  rw [continuation, isRuneStart_ofNat _ (by omega), decide_eq_false_iff_not,
    not_not]
  omega

theorem isRuneStart_of_not_continuation
    {n : Nat} (bound : n < 256) (notContinuation : n / 64 ≠ 2) :
    isRuneStart (UInt8.ofNat n) = true := by
  rw [isRuneStart_ofNat n bound, decide_eq_true_eq]
  exact notContinuation

/-- A rune is one byte that starts it and continuation bytes. -/
theorem utf8EncodeChar_eq_cons :
    ∃ first ns, utf8EncodeChar c = first :: List.map continuation ns ∧
      isRuneStart first = true := by
  have start {n : Nat} := @isRuneStart_of_not_continuation n
  generalize isCode : c.val.toNat = code
  unfold utf8EncodeChar
  rw [isCode]
  dsimp only
  split_ifs
  · exact ⟨_, [], rfl, start (by omega) (by omega)⟩
  · exact ⟨_, [code], rfl, start (by omega) (by omega)⟩
  · exact ⟨_, [code / 64, code], rfl, start (by omega) (by omega)⟩
  · exact ⟨_, [code / 4096, code / 64, code], rfl,
      start (by omega) (by omega)⟩

theorem decodeRune_encode_append (rest : List UInt8) :
    decodeRune (utf8EncodeChar c ++ rest) = some c := by
  rw [decodeRune, List.toByteArray_append]
  exact ByteArray.utf8DecodeChar?_utf8EncodeChar_append

theorem eq_of_decodeRune
    {bytes : List UInt8} {c : Char} (decoded : decodeRune bytes = some c) :
    ∃ rest, bytes = utf8EncodeChar c ++ rest := by
  obtain ⟨rest, isRest⟩ := ByteArray.exists_of_utf8DecodeChar?_eq_some decoded
  refine ⟨rest.data.toList, ?_⟩
  have lists := congrArg (fun array => array.data.toList) isRest
  simpa using lists

theorem encode_injective {left right : List Char}
    (same : encode left = encode right) : left = right := by
  induction left generalizing right with
  | nil =>
      cases right with
      | nil => rfl
      | cons d right =>
          obtain ⟨first, ns, isRune, _⟩ := utf8EncodeChar_eq_cons d
          rw [encode_cons, isRune] at same
          cases same
  | cons c left ih =>
      cases right with
      | nil =>
          obtain ⟨first, ns, isRune, _⟩ := utf8EncodeChar_eq_cons c
          rw [encode_cons, isRune] at same
          cases same
      | cons d right =>
          rw [encode_cons, encode_cons] at same
          have sameRune : c = d := by
            have decoded := decodeRune_encode_append c (encode left)
            rw [same, decodeRune_encode_append] at decoded
            exact (Option.some.inj decoded).symm
          subst sameRune
          rw [ih (List.append_cancel_left same)]

/-- The offset lies between two characters. -/
def Boundary (runes : List Char) (offset : Nat) : Prop :=
  ∃ before after, runes = before ++ after ∧ offset = (encode before).length

theorem boundary_zero : Boundary runes 0 :=
  ⟨[], runes, rfl, rfl⟩

theorem boundary_cons_iff (offset : Nat) :
    Boundary (c :: runes) offset ↔
      offset = 0 ∨ ∃ later, Boundary runes later ∧
        offset = (utf8EncodeChar c).length + later := by
  constructor
  · rintro ⟨before, after, split, rfl⟩
    cases before with
    | nil => exact .inl rfl
    | cons first before =>
        obtain ⟨rfl, rfl⟩ := List.cons.inj split
        refine .inr ⟨_, ⟨before, after, rfl, rfl⟩, ?_⟩
        rw [encode_cons, List.length_append]
  · rintro (rfl | ⟨_, ⟨before, after, rfl, rfl⟩, rfl⟩)
    · exact boundary_zero _
    · refine ⟨c :: before, after, rfl, ?_⟩
      rw [encode_cons, List.length_append]

/-- In a valid string, the bytes that start a rune are those at the
boundaries. -/
theorem isRuneStart_iff_boundary
    {runes : List Char} {offset : Nat} {b : UInt8}
    (isByte : (encode runes)[offset]? = some b) :
    isRuneStart b = true ↔ Boundary runes offset := by
  induction runes generalizing offset with
  | nil => cases isByte
  | cons c runes ih =>
      obtain ⟨first, ns, isRune, isStart⟩ := utf8EncodeChar_eq_cons c
      rw [boundary_cons_iff, isRune]
      rw [encode_cons, isRune] at isByte
      rcases Nat.lt_or_ge offset (first :: ns.map continuation).length with
        within | behind
      · rw [List.getElem?_append_left within] at isByte
        cases offset with
        | zero =>
            cases isByte
            simpa using isStart
        | succ offset =>
            obtain ⟨n, _, rfl⟩ := List.mem_map.mp
              (List.mem_of_getElem? (by simpa using isByte) :
                b ∈ ns.map continuation)
            have notLater : ¬ ∃ later, Boundary runes later ∧
                offset + 1 = (first :: ns.map continuation).length + later := by
              rintro ⟨later, _, isOffset⟩
              omega
            simp only [isRuneStart_continuation, Bool.false_eq_true,
              Nat.add_eq_zero_iff, Nat.one_ne_zero, and_false, false_or,
              notLater]
      · rw [List.getElem?_append_right behind] at isByte
        rw [ih isByte]
        constructor
        · intro boundary
          exact .inr ⟨_, boundary, by omega⟩
        · rintro (zero | ⟨later, boundary, isOffset⟩)
          · rw [List.length_cons] at behind
            omega
          · rwa [isOffset, Nat.add_sub_cancel_left]

/-- The scan from an offset back to a byte that starts a rune; `none` is an
index out of range. -/
def lastStart (bytes : List UInt8) : Nat → Option Nat
  | 0 => some 0
  | limit + 1 =>
      match bytes[limit + 1]? with
      | none => none
      | some b =>
          if isRuneStart b then some (limit + 1) else lastStart bytes limit

/-- The scan stops at the last boundary. -/
theorem lastStart_encode
    {limit : Nat} (inRange : limit < (encode runes).length) :
    ∃ last ≤ limit, lastStart (encode runes) limit = some last ∧
      Boundary runes last ∧
      ∀ offset ≤ limit, Boundary runes offset → offset ≤ last := by
  induction limit with
  | zero =>
      exact ⟨0, Nat.le_refl 0, rfl, boundary_zero runes, fun _ bound _ => bound⟩
  | succ limit ih =>
      have isByte := List.getElem?_eq_getElem inRange
      have isStart := isRuneStart_iff_boundary isByte
      rw [lastStart, isByte]
      dsimp only
      split_ifs with starts
      · exact ⟨limit + 1, Nat.le_refl _, rfl, isStart.mp starts,
          fun _ bound _ => bound⟩
      · obtain ⟨last, bound, found, boundary, greatest⟩ :=
          ih (Nat.lt_of_succ_lt inRange)
        refine ⟨last, Nat.le_succ_of_le bound, found, boundary, ?_⟩
        intro offset offsetBound offsetBoundary
        rcases Nat.lt_or_eq_of_le offsetBound with less | rfl
        · exact greatest offset (Nat.lt_succ_iff.mp less) offsetBoundary
        · exact absurd (isStart.mpr offsetBoundary) starts

end

/-- Copy the valid runes and replace every run of invalid bytes; `skip` counts
the bytes of the present rune that are left, and `invalid` tells that the byte
before was part of a run. -/
def toValid (replacement : List UInt8) : Nat → Bool → List UInt8 → List UInt8
  | _, _, [] => []
  | skip + 1, _, b :: rest => b :: toValid replacement skip false rest
  | 0, invalid, b :: rest =>
      match decodeRune (b :: rest) with
      | some c => b :: toValid replacement (c.utf8Size - 1) false rest
      | none =>
          (if invalid then [] else replacement) ++
            toValid replacement 0 true rest

section Repair

variable (replacement : List UInt8)

theorem toValid_skip (bytes rest : List UInt8) :
    toValid replacement bytes.length false (bytes ++ rest) =
      bytes ++ toValid replacement 0 false rest := by
  induction bytes with
  | nil => rfl
  | cons b bytes ih =>
      exact congrArg (b :: ·) ih

theorem toValid_rune (invalid : Bool) (c : Char) (rest : List UInt8) :
    toValid replacement 0 invalid (utf8EncodeChar c ++ rest) =
      utf8EncodeChar c ++ toValid replacement 0 false rest := by
  have decoded := decodeRune_encode_append c rest
  have size := length_utf8EncodeChar c
  obtain ⟨first, ns, isRune, _⟩ := utf8EncodeChar_eq_cons c
  rw [isRune] at decoded size ⊢
  have tail : c.utf8Size - 1 = (ns.map continuation).length := by
    rw [← size]
    rfl
  rw [List.cons_append] at decoded ⊢
  rw [toValid, decoded]
  dsimp only
  rw [tail, toValid_skip, List.cons_append]

theorem toValid_encode (invalid : Bool) (runes : List Char) :
    toValid replacement 0 invalid (encode runes) = encode runes := by
  induction runes generalizing invalid with
  | nil => cases invalid <;> rfl
  | cons c runes ih =>
      rw [encode_cons, toValid_rune, ih]

theorem valid_toValid
    (valid : Valid replacement) (invalid : Bool) (bytes : List UInt8) :
    Valid (toValid replacement 0 invalid bytes) := by
  -- a rune consumes several bytes, so the induction is on the length
  induction size : bytes.length using Nat.strongRecOn
    generalizing invalid bytes with
  | ind n ih =>
      cases bytes with
      | nil => exact ⟨[], by cases invalid <;> rfl⟩
      | cons b rest =>
          cases decoded : decodeRune (b :: rest) with
          | none =>
              rw [toValid, decoded]
              dsimp only
              have later : Valid (toValid replacement 0 true rest) :=
                ih rest.length (by simp [← size]) true rest
                  rfl
              split_ifs
              · exact later
              · exact valid.append later
          | some c =>
              obtain ⟨later, isBytes⟩ := eq_of_decodeRune decoded
              have shorter : later.length < n := by
                rw [← size, isBytes, List.length_append,
                  length_utf8EncodeChar]
                have positive := c.utf8Size_pos
                omega
              rw [isBytes, toValid_rune]
              exact Valid.append ⟨[c], (List.append_nil _).symm⟩
                (ih later.length shorter false later rfl)

end Repair

end Utf8
