import Assay.Text.Run

/-!
# Texts of a document

A text stands between single or double quotes, on one line or, between three quotes on each side, on
several. Between double quotes a backslash starts an escape. Every reader takes the text after the
opening quotes and gives the content and what follows the closing quotes.
-/

namespace Assay.Toml

/-- The characters of a text and what follows it. -/
abbrev Taken := Option (List Char × List Char)

/-- A character in front of what was taken. -/
def put (c : Char) (taken : Taken) : Taken := taken.map fun (text, rest) => (c :: text, rest)

/-! ## 1. Characters -/

/-- A character that may stand in a line: a tab or no control character. -/
def isPrintable (c : Char) : Bool := c == '\t' || (' ' ≤ c && c != '\x7f')

def isBlank (c : Char) : Bool := c == ' ' || c == '\t'

/-- The character with a hexadecimal number, if there is one. -/
def character? (digits : List Char) : Option Char :=
  if digits.all fun c => (Text.hexDigit? c).isSome then
    let n := Text.hexValue digits
    if n.isValidChar then some (Char.ofNat n) else none
  else none

/-- The character behind a backslash and a letter. -/
def escaped? : Char → Option Char
  | 'b' => some '\x08'
  | 't' => some '\t'
  | 'n' => some '\n'
  | 'f' => some '\x0c'
  | 'r' => some '\r'
  | '"' => some '"'
  | '\\' => some '\\'
  | _ => none

/-! ## 2. Texts on one line -/

/-- A text up to a double quote. -/
def takeBasic : List Char → Taken
  | '"' :: rest => some ([], rest)
  | '\\' :: 'u' :: a :: b :: c :: d :: rest =>
    (character? [a, b, c, d]).bind fun ch => put ch (takeBasic rest)
  | '\\' :: 'U' :: a :: b :: c :: d :: e :: f :: g :: h :: rest =>
    (character? [a, b, c, d, e, f, g, h]).bind fun ch => put ch (takeBasic rest)
  | '\\' :: e :: rest => (escaped? e).bind fun ch => put ch (takeBasic rest)
  | c :: rest => if isPrintable c && c != '\\' then put c (takeBasic rest) else none
  | [] => none

/-- A text up to a single quote, without escapes. -/
def takeLiteral : List Char → Taken
  | '\'' :: rest => some ([], rest)
  | c :: rest => if isPrintable c then put c (takeLiteral rest) else none
  | [] => none

/-! ## 3. Texts on several lines -/

/-- Only blanks stand before the end of the line. -/
def endsLine (text : List Char) : Bool :=
  match text.dropWhile isBlank with
  | '\n' :: _ => true
  | '\r' :: '\n' :: _ => true
  | _ => false

/-- The text without one line end in front. -/
def dropLineEnd : List Char → List Char
  | '\n' :: rest => rest
  | '\r' :: '\n' :: rest => rest
  | text => text

/-- A text up to three double quotes; one or two more in front of them belong to the text. After a
    backslash at the end of a line, blanks and line ends are passed over (`skipping`). -/
def takeBasicLines (skipping : Bool) : List Char → Taken
  | '"' :: '"' :: '"' :: '"' :: '"' :: rest => some (['"', '"'], rest)
  | '"' :: '"' :: '"' :: '"' :: rest => some (['"'], rest)
  | '"' :: '"' :: '"' :: rest => some ([], rest)
  | '\\' :: 'u' :: a :: b :: c :: d :: rest =>
    (character? [a, b, c, d]).bind fun ch => put ch (takeBasicLines false rest)
  | '\\' :: 'U' :: a :: b :: c :: d :: e :: f :: g :: h :: rest =>
    (character? [a, b, c, d, e, f, g, h]).bind fun ch => put ch (takeBasicLines false rest)
  | '\\' :: e :: rest =>
    if endsLine (e :: rest) then takeBasicLines true rest
    else (escaped? e).bind fun ch => put ch (takeBasicLines false rest)
  | '\r' :: '\n' :: rest =>
    if skipping then takeBasicLines true rest else put '\n' (takeBasicLines false rest)
  | c :: rest =>
    if skipping && (isBlank c || c == '\n') then takeBasicLines true rest
    else if (isPrintable c && c != '\\') || c == '\n' then put c (takeBasicLines false rest)
    else none
  | [] => none

/-- A text up to three single quotes, without escapes. -/
def takeLiteralLines : List Char → Taken
  | '\'' :: '\'' :: '\'' :: '\'' :: '\'' :: rest => some (['\'', '\''], rest)
  | '\'' :: '\'' :: '\'' :: '\'' :: rest => some (['\''], rest)
  | '\'' :: '\'' :: '\'' :: rest => some ([], rest)
  | '\r' :: '\n' :: rest => put '\n' (takeLiteralLines rest)
  | c :: rest => if isPrintable c || c == '\n' then put c (takeLiteralLines rest) else none
  | [] => none

/-! ## 4. Any text -/

/-- A text on one line, with its opening quote. -/
def takeLine : List Char → Taken
  | '"' :: rest => takeBasic rest
  | '\'' :: rest => takeLiteral rest
  | _ => none

/-- A text with its opening quotes. A line end right behind three quotes is no part of the text. -/
def takeText : List Char → Taken
  | '"' :: '"' :: '"' :: rest => takeBasicLines false (dropLineEnd rest)
  | '\'' :: '\'' :: '\'' :: rest => takeLiteralLines (dropLineEnd rest)
  | text => takeLine text

end Assay.Toml
