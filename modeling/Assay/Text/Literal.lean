import Assay.Text.Category

/-!
# Texts as literals

A text is shown to developers between double quotes. Quotes, backslashes and line ends are escaped,
and so is every character that would not be seen, or that would join the one before it.
-/

namespace Assay.Text

/-! ## 1. Characters that are seen -/

/-- Joining marks that are not among the nonspacing and enclosing ones. -/
def otherJoiners : List Run := Run.readAll [
  "9BE 9D7 B3E B57 BBE BD7 CC0 CC2 CC7-CC8 CCA-CCB CD5-CD6 D3E D57 DCF DDF 1715 1734 1B35 1B3B",
  "1B3D 1B43-1B44 1BAA 1BF2-1BF3 200C 302E-302F A953 A9C0 FF9E-FF9F 111C0 11235 1133E 1134D",
  "11357 113B8 113C2 113C5 113C7-113C9 113CF 114B0 114BD 115AF 116B6 11930 1193D 11F41",
  "16FF0-16FF1 1D165-1D166 1D16D-1D172 E0020-E007F"]

/-- The character joins the one before it. -/
def joins (c : Char) : Bool := hasCategory ["mn", "me"] c || Run.anyHolds otherJoiners c.toNat

/-- The character is assigned and leaves a mark. -/
def isVisible (c : Char) : Bool :=
  c == ' ' || (isAssigned c &&
    !hasCategory ["cc", "cf", "co", "zl", "zp", "zs"] c)

/-! ## 2. Literals -/

/-- A character by its number. -/
def numbered (c : Char) : String :=
  "\\u\x7b" ++ String.ofList (Nat.toDigits 16 c.toNat) ++ "\x7d"

/-- A character within a literal. -/
def literalChar (c : Char) : String :=
  if c = '\x00' then "\\0"
  else if c = '\t' then "\\t"
  else if c = '\r' then "\\r"
  else if c = '\n' then "\\n"
  else if c = '"' then "\\\""
  else if c = '\\' then "\\\\"
  else if ' ' ≤ c ∧ c < '\x7f' then c.toString
  else if joins c || !isVisible c then numbered c
  else c.toString

/-- A text as a literal. -/
def literal (text : String) : String :=
  "\"" ++ String.join (text.toList.map literalChar) ++ "\""

end Assay.Text
