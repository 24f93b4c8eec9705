/-!
# Blank characters

Unicode's white space: the ASCII blanks and line ends with the vertical tab, the next line, the
no-break space, the spaces of fixed widths, the separators, and the ideographic space. A space of
zero width is not among them.
-/

namespace Assay.Text

/-- A white-space character. -/
def isBlank (c : Char) : Bool :=
  let n := c.toNat
  (9 ≤ n && n ≤ 13) || n == 0x20 || n == 0x85 || n == 0xA0 || n == 0x1680 ||
    (0x2000 ≤ n && n ≤ 0x200A) || n == 0x2028 || n == 0x2029 || n == 0x202F || n == 0x205F ||
    n == 0x3000

end Assay.Text
