import Assay.Text.Run
import Assay.Text.Split

/-!
# Reading JSON

A JSON text is read into a tree that keeps what readers of records need to know: the order of
members, and keys that occur twice. A string with a lone half of a surrogate pair is well formed but
stands for no text, and is kept as such, so that only those who need the text refuse it.
-/

namespace Assay.Json

/-! ## 1. Values -/

/-- A JSON value; a string that stands for no text is `text none`. -/
inductive Value where
  | null
  | flag (value : Bool)
  | number
  | text (value : Option String)
  | list (items : List Value)
  | record (members : List (Option String × Value))
  deriving Repr

/-! ## 2. Strings -/

/-- The code units of a string's content, `none` for the lone half of a pair. -/
abbrev Units := List (Option Char)

/-- The number four hexadecimal digits stand for. -/
def fourDigits? (a b c d : Char) : Option Nat :=
  if [a, b, c, d].all fun c => (Text.hexDigit? c).isSome then some (Text.hexValue [a, b, c, d])
  else none

/-- The first half of a pair. -/
def isHigh (n : Nat) : Bool := 0xD800 ≤ n && n < 0xDC00

/-- The second half of a pair. -/
def isLow (n : Nat) : Bool := 0xDC00 ≤ n && n < 0xE000

/-- The character a pair stands for. -/
def ofPair (high low : Nat) : Char := Char.ofNat (0x10000 + (high - 0xD800) * 0x400 + (low - 0xDC00))

/-- The character behind a backslash and a letter. -/
def escaped? : Char → Option Char
  | '"' => some '"'
  | '\\' => some '\\'
  | '/' => some '/'
  | 'b' => some '\x08'
  | 'f' => some '\x0c'
  | 'n' => some '\n'
  | 'r' => some '\r'
  | 't' => some '\t'
  | _ => none

/-- A unit in front of what was taken. -/
def put (unit : Option Char) (taken : Option (Units × List Char)) : Option (Units × List Char) :=
  taken.map fun (units, rest) => (unit :: units, rest)

/-- A first half that no second half follows, in front of what was taken. -/
def putLone (half : Option Nat) (taken : Option (Units × List Char)) :
    Option (Units × List Char) :=
  if half.isSome then put none taken else taken

/-- The content of a string up to its closing quote, and what follows it. The first half of a pair
    may have been read already. -/
def takeString (half : Option Nat) : List Char → Option (Units × List Char)
  | '"' :: rest => putLone half (some ([], rest))
  | '\\' :: 'u' :: a :: b :: c :: d :: rest =>
    (fourDigits? a b c d).bind fun n =>
      if isHigh n then putLone half (takeString (some n) rest)
      else if isLow n then put (half.map (ofPair · n)) (takeString none rest)
      else putLone half (put (some (Char.ofNat n)) (takeString none rest))
  | '\\' :: e :: rest =>
    (escaped? e).bind fun c => putLone half (put (some c) (takeString none rest))
  | c :: rest =>
    if ' ' ≤ c && c != '\\' then putLone half (put (some c) (takeString none rest)) else none
  | [] => none

/-- The text that units stand for. -/
def textOf (units : Units) : Option String := (units.mapM id).map String.ofList

/-! ## 3. Numbers and words -/

def dropSpace (text : List Char) : List Char :=
  text.dropWhile fun c => c == ' ' || c == '\n' || c == '\t' || c == '\r'

/-- The text behind one or more digits. -/
def dropDigits? (text : List Char) : Option (List Char) :=
  match text with
  | c :: rest => if c.isDigit then some (rest.dropWhile Char.isDigit) else none
  | [] => none

/-- The text behind the whole part of a number, which has no zero in front. -/
def dropWhole? : List Char → Option (List Char)
  | '0' :: rest => some rest
  | text => dropDigits? text

/-- The text behind a fraction, if there is one. -/
def dropFraction? : List Char → Option (List Char)
  | '.' :: rest => dropDigits? rest
  | text => some text

/-- The text behind a power of ten, if there is one. -/
def dropPower? : List Char → Option (List Char)
  | c :: rest =>
    if c == 'e' || c == 'E' then
      match rest with
      | '+' :: rest | '-' :: rest => dropDigits? rest
      | rest => dropDigits? rest
    else some (c :: rest)
  | [] => some []

/-- The text behind a number. -/
def dropNumber? (text : List Char) : Option (List Char) := do
  let text := match text with
    | '-' :: rest => rest
    | _ => text
  dropPower? (← dropFraction? (← dropWhole? text))

/-- A value that is a single word. -/
def takeWord (text : List Char) : Option (Value × List Char) :=
  match text with
  | 'n' :: 'u' :: 'l' :: 'l' :: rest => some (.null, rest)
  | 't' :: 'r' :: 'u' :: 'e' :: rest => some (.flag true, rest)
  | 'f' :: 'a' :: 'l' :: 's' :: 'e' :: rest => some (.flag false, rest)
  | _ => (dropNumber? text).map (.number, ·)

/-! ## 4. Lists and records -/

/-- Items with commas between them up to a closing mark, each read by `takeOne`. -/
def takeUntil {α : Type} (close : Char) (takeOne : List Char → Option (α × List Char)) :
    (fuel : Nat) → (text : List Char) → Option (List α × List Char)
  | 0, _ => none
  | fuel + 1, text => do
    let (item, rest) ← takeOne (dropSpace text)
    match dropSpace rest with
    | ',' :: rest =>
      let (items, rest) ← takeUntil close takeOne fuel rest
      some (item :: items, rest)
    | c :: rest => if c = close then some ([item], rest) else none
    | [] => none

/-- Items up to a closing mark; there may be none. -/
def takeAll {α : Type} (close : Char) (takeOne : List Char → Option (α × List Char))
    (text : List Char) : Option (List α × List Char) :=
  match dropSpace text with
  | c :: rest =>
    if c = close then some ([], rest) else takeUntil close takeOne (rest.length + 1) (c :: rest)
  | [] => none

/-- A key with its value. -/
def takeMember (takeValue : List Char → Option (Value × List Char)) (text : List Char) :
    Option ((Option String × Value) × List Char) :=
  match text with
  | '"' :: rest => do
    let (units, rest) ← takeString none rest
    match dropSpace rest with
    | ':' :: rest =>
      let (value, rest) ← takeValue rest
      some ((textOf units, value), rest)
    | _ => none
  | _ => none

/-- A value and what follows it; brackets nest no deeper than the fuel. -/
def takeValue : (fuel : Nat) → (text : List Char) → Option (Value × List Char)
  | 0, _ => none
  | fuel + 1, text =>
    match dropSpace text with
    | '"' :: rest => (takeString none rest).map fun (units, rest) => (.text (textOf units), rest)
    | '[' :: rest =>
      (takeAll ']' (takeValue fuel) rest).map fun (items, rest) => (.list items, rest)
    | '\x7b' :: rest =>
      (takeAll '\x7d' (takeMember (takeValue fuel)) rest).map fun (members, rest) =>
        (.record members, rest)
    | text => takeWord text

/-- The value a whole text is. -/
def read? (text : String) : Option Value := do
  let chars := text.toList
  let (value, rest) ← takeValue (chars.length + 1) chars
  if (dropSpace rest).isEmpty then some value else none

end Assay.Json
