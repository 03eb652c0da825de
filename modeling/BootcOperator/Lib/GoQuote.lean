import Mathlib.Data.List.Basic

/-!
# Quoted text

The verb `%q` of Go for strings, which is `strconv.Quote`.  Characters beyond
ASCII are taken to be printable.
-/

/-- The characters with an escape of their own, and its letter. -/
def quoteEscapes : List (Nat × Char) :=
  [(0x07, 'a'), (0x08, 'b'), (0x09, 't'), (0x0A, 'n'), (0x0B, 'v'),
    (0x0C, 'f'), (0x0D, 'r'), (0x22, .ofNat 0x22), (0x5C, .ofNat 0x5C)]

def quoteRune (c : Char) : List Char :=
  match quoteEscapes.lookup c.toNat with
  | some letter => [.ofNat 0x5C, letter]
  | none =>
      if c.toNat < 0x20 ∨ c.toNat = 0x7F then
        [.ofNat 0x5C, 'x', (c.toNat / 16).digitChar, (c.toNat % 16).digitChar]
      else [c]

/-- The text in double quotes. -/
def String.goQuote (text : String) : String :=
  .ofList (.ofNat 0x22 :: text.toList.flatMap quoteRune ++ [.ofNat 0x22])
