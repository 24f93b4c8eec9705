import Assay.Number.Digits
import Assay.Text.Run

/-!
# Globally unique identifiers

An identifier is a number of 128 bits, written as 32 hexadecimal digits in lower case: plainly, in
five groups with hyphens, in braces, or as a uniform resource name.
-/

namespace Assay

/-- An identifier of 128 bits. -/
structure Guid where
  value : Nat
  deriving DecidableEq, Repr

namespace Guid

/-! ## 1. Texts -/

/-- The identifier all of whose bits are zero. -/
def nil : Guid := ⟨0⟩

/-- The 32 digits. -/
def hexDigits (g : Guid) : List Char := List.leftpad 32 '0' (Nat.toDigits 16 g.value)

/-- The digits without anything between them. -/
def simple (g : Guid) : String := String.ofList g.hexDigits

/-- The digits in groups of 8, 4, 4, 4 and 12. -/
def hyphenated (g : Guid) : String :=
  let ds := g.hexDigits
  String.ofList (ds.take 8 ++ '-' :: (ds.drop 8).take 4 ++ '-' :: (ds.drop 12).take 4 ++
    '-' :: (ds.drop 16).take 4 ++ '-' :: ds.drop 20)

/-- The groups in braces. -/
def braced (g : Guid) : String := "\x7b" ++ g.hyphenated ++ "\x7d"

/-- The groups as a uniform resource name. -/
def urn (g : Guid) : String := "urn:uuid:" ++ g.hyphenated

/-! ## 2. Reading -/

/-- 32 hexadecimal digits, plain or in groups with hyphens. -/
def read (text : String) : Option Guid :=
  let chars := text.toList
  let grouped := chars.length = 36 ∧ [8, 13, 18, 23].all fun i => chars[i]? = some '-'
  let ds := if grouped then chars.filter (· != '-') else chars
  if ds.length = 32 ∧ ds.all (fun c => (Text.hexDigit? c).isSome) then
    some ⟨Text.hexValue ds⟩
  else none

end Guid

end Assay
