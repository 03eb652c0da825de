import BootcOperator.Lib.Utf8

/-!
# Event notes

`capNote` in `internal/controller/events.go`, on byte strings.
-/

namespace BootcOperator

def eventNoteLimit : Nat := 1024

/-- The text `...` -/
def eventNoteSuffix : List UInt8 := [0x2E, 0x2E, 0x2E]

/-- `strings.ToValidUTF8` with U+FFFD. -/
def toValidUTF8 (note : List UInt8) : List UInt8 :=
  Utf8.toValid [0xEF, 0xBF, 0xBD] 0 false note

/-- `capNote`; `none` is the panic of an index out of range. -/
def capNote (note : List UInt8) : Option (List UInt8) :=
  let note := toValidUTF8 note
  if note.length ≤ eventNoteLimit then some note
  else
    (Utf8.lastStart note (eventNoteLimit - eventNoteSuffix.length)).map
      fun limit => note.take limit ++ eventNoteSuffix

end BootcOperator
