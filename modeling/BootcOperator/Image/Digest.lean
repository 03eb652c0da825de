import BootcOperator.Api.Types

/-!
# Image references and digests

`internal/image/digest.go` over the `distribution/reference` library.  The
library itself is a parameter: its parser may accept any set of texts, as long
as a reference it accepts prints as the text it was parsed from, which
`reference.ParseNamed` checks before it returns.
-/

namespace BootcOperator

/-- What the operator uses of a `reference.Named`. -/
structure Named where
  /-- `String()` -/
  text : String
  /-- `reference.TrimNamed(ref).String()` -/
  trimmed : String
  /-- `Digest().String()` when the reference is a `reference.Digested` -/
  digest : Option String
  deriving DecidableEq, Repr

/-- `reference.ParseNamed`, whose results print as their input. -/
structure ReferenceLibrary where
  parseNamed : String → Except String Named
  text_of_parseNamed : ∀ {text named},
    parseNamed text = .ok named → named.text = text

namespace ReferenceLibrary

/-- The library that accepts the texts of a table, each with its trimmed name
and digest. -/
def ofTable (table : List (String × String × Option String)) :
    ReferenceLibrary where
  parseNamed text :=
    match table.lookup text with
    | some (trimmed, digest) => .ok ⟨text, trimmed, digest⟩
    | none => .error "invalid reference format"
  text_of_parseNamed := by
    intro text named parsed
    split at parsed
    · cases parsed
      rfl
    · cases parsed

/-- The digest in a text that parses as a digested reference. -/
def digestOf (lib : ReferenceLibrary) (text : String) : Option String :=
  match lib.parseNamed text with
  | .ok named => named.digest
  | .error _ => none

end ReferenceLibrary

/-- A library for concrete runs: three digested references of one repository,
two of its tags, and a tag of another repository. -/
def osLibrary : ReferenceLibrary :=
  .ofTable [("os@a", "os", some "a"), ("os@b", "os", some "b"),
    ("os@c", "os", some "c"), ("os:1", "os", none), ("os:2", "os", none),
    ("vm:1", "vm", none), ("vm@a", "vm", some "a")]

/-- `InfoMatchesDigest`: the resolved content digest or the digest of the
pullspec is the given one. -/
def infoMatchesDigest (lib : ReferenceLibrary) (info : Option ImageInfo)
    (digest : String) : Bool :=
  match info with
  | none => false
  | some info =>
      if info.imageDigest = digest then true
      else
        match lib.parseNamed info.image with
        | .error _ => false
        | .ok ref =>
            match ref.digest with
            | none => false
            | some digested => digested = digest

@[simp]
theorem infoMatchesDigest_none (lib : ReferenceLibrary) (digest : String) :
    infoMatchesDigest lib none digest = false :=
  rfl

end BootcOperator
