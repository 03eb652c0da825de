import BootcOperator.Lib.GoQuote
import Mathlib.Data.List.DropRight

/-!
# The namespaces of pull secrets

`ParsePullSecretNamespaces` in `internal/controller/pullsecret.go`.
-/

namespace BootcOperator

/-- `unicode.IsSpace` -/
def isSpace (c : Char) : Bool :=
  c.toNat ∈ [0x09, 0x0A, 0x0B, 0x0C, 0x0D, 0x20, 0x85, 0xA0, 0x1680, 0x2028,
      0x2029, 0x202F, 0x205F, 0x3000] ||
    (0x2000 ≤ c.toNat && c.toNat ≤ 0x200A)

/-- `strings.TrimSpace` -/
def trimSpace (text : String) : String :=
  .ofList ((text.toList.dropWhile isSpace).rdropWhile isSpace)

/-- `strings.Split(text, ",")` -/
def splitCommas (text : String) : List String :=
  (text.toList.splitOn ',').map .ofList

/-- One iteration of `ParsePullSecretNamespaces`; `isDNS1123Label` returns the
errors of `validation.IsDNS1123Label`. -/
def addNamespace (isDNS1123Label : String → List String)
    (namespaces : List String) (entry : String) :
    Except String (List String) :=
  let ns := trimSpace entry
  if ns = "" ∨ ns ∈ namespaces then .ok namespaces
  else
    let errs := isDNS1123Label ns
    if errs ≠ [] then
      .error ("invalid namespace " ++ ns.goQuote ++ ": " ++
        String.intercalate "; " errs)
    else .ok (namespaces ++ [ns])

def parsePullSecretNamespaces (isDNS1123Label : String → List String)
    (value operatorNamespace : String) : Except String (List String) :=
  ([operatorNamespace] ++ splitCommas value).foldlM
    (addNamespace isDNS1123Label) []

end BootcOperator
