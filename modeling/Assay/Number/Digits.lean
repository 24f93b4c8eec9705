/-!
# Decimal digits in a field of given width

Numbers in messages are written in decimal. A field may ask for more room than the digits need; it
is then filled with zeros, which stand between the sign and the digits. **The width counts the
sign.**
-/

namespace Assay.Number

/-- The decimal digits of a natural number, without leading zeros (`0` for zero). -/
def digits (n : Nat) : List Char := Nat.toDigits 10 n

/-- The sign in front of a written number; only `-` is written. -/
def signText (negative : Bool) : List Char := if negative then ['-'] else []

/-- Sign, zeros up to the width, and then the body. -/
def zeroFill (width : Nat) (negative : Bool) (body : List Char) : List Char :=
  signText negative ++ List.leftpad (width - (signText negative).length) '0' body

/-- An integer without filling. -/
def integerText (n : Int) : String := String.ofList (zeroFill 0 (n < 0) (digits n.natAbs))

/-- An integer in a zero-filled field. -/
def integerField (width : Nat) (n : Int) : String :=
  String.ofList (zeroFill width (n < 0) (digits n.natAbs))

/-- A natural number in a zero-filled field. -/
def naturalField (width : Nat) (n : Nat) : String :=
  String.ofList (List.leftpad width '0' (digits n))

/-- Digits with a point before the last `places` of them; no point if `places` is 0. There are more
    digits than places. -/
def pointed (places : Nat) (ds : List Char) : List Char :=
  if places = 0 then ds
  else ds.take (ds.length - places) ++ '.' :: ds.drop (ds.length - places)

end Assay.Number
