import Assay.Regex
import Assay.Regex.Property
import Assay.Text.Run

/-!
# Flags and escapes

A backslash makes a character plain that otherwise has a meaning, and gives a meaning to some that
have none. What an escape stands for can depend on the flags that are on where it is written.
-/

namespace Assay.Regex

/-! ## 1. Flags -/

/-- The flags of a part of a pattern. -/
structure Flags where
  /-- Case variants are accepted. -/
  caseless : Bool
  /-- `^` and `$` also stand for the ends of lines. -/
  multiLine : Bool
  /-- The dot accepts line ends. -/
  dotAll : Bool
  /-- Characters are those of Unicode, and not only of ASCII. -/
  unicode : Bool
  /-- Blanks and comments are passed over. -/
  extended : Bool
  /-- Carriage returns end lines, too. -/
  carriage : Bool
  deriving DecidableEq, Repr

/-- The flags a pattern begins with. -/
def Flags.start : Flags := ⟨false, false, false, true, false, false⟩

/-- What the case flag makes of a set. -/
def Flags.fold (f : Flags) (s : CharSet) : CharSet :=
  if f.caseless then
    if f.unicode then .caseless s else .both (.caseless s) (.either s .ascii)
  else s

/-- A set as part of a pattern; without Unicode it must be within ASCII. -/
def Flags.set? (f : Flags) (s : CharSet) : Option CharSet :=
  if f.unicode || s.isAscii then some s else none

/-- The text behind a comment. -/
def dropComment (text : List Char) : List Char := text.dropWhile (· != '\n')

/-- The text behind blanks and comments, if these are passed over. -/
def dropPassed (f : Flags) (fuel : Nat) (text : List Char) : List Char :=
  match fuel with
  | 0 => text
  | fuel + 1 =>
    if f.extended then
      match text.dropWhile Text.isBlank with
      | '#' :: rest => dropPassed f fuel (dropComment rest)
      | text => text
    else text

/-- The text behind what is passed over. -/
def Flags.pass (f : Flags) (text : List Char) : List Char := dropPassed f (text.length + 1) text

/-! ## 2. Escapes -/

/-- What an escape stands for. -/
inductive Escaped where
  | char (c : Char)
  /-- A character given by a number of two digits. -/
  | byte (c : Char)
  | set (s : CharSet)
  | look (l : Look)
  deriving Repr

/-- A character that may be escaped and then stands for itself. -/
def isEscapable (c : Char) : Bool := c.toNat < 128 && !c.isAlphanum && c != '<' && c != '>'

/-- The letters that stand for a character. -/
def letterChar? : Char → Option Char
  | 'a' => some '\x07'
  | 'f' => some '\x0c'
  | 't' => some '\t'
  | 'n' => some '\n'
  | 'r' => some '\r'
  | 'v' => some '\x0b'
  | _ => none

/-- The letters that stand for a place. -/
def letterLook? (ascii : Bool) : Char → Option Look
  | 'A' => some .textStart
  | 'z' => some .textEnd
  | 'b' => some (.wordBoundary ascii)
  | 'B' => some (.noWordBoundary ascii)
  | '<' => some (.wordStart ascii)
  | '>' => some (.wordEnd ascii)
  | _ => none

/-- The letters that stand for a class. -/
def letterSet? (unicode : Bool) : Char → Option CharSet
  | 'd' => some (if unicode then .named .digit else .span '0' '9')
  | 's' => some (if unicode then .named .blank else .either (.span '\t' '\r') (.single ' '))
  | 'w' => some (if unicode then .named .word else
      .union [.span '0' '9', .span 'A' 'Z', .single '_', .span 'a' 'z'])
  | _ => none

/-- The character with a hexadecimal number. -/
def numbered? (digits : List Char) : Option Char :=
  if !digits.isEmpty && digits.all fun c => (Text.hexDigit? c).isSome then
    let n := Text.hexValue digits
    if n.isValidChar then some (Char.ofNat n) else none
  else none

/-- The text up to a closing brace, and what follows it. -/
def takeBraced (f : Flags) (text : List Char) : Option (List Char × List Char) :=
  (Text.splitOnce '\x7d' text).map fun (inner, rest) =>
    (if f.extended then inner.filter (!Text.isBlank ·) else inner, rest)

/-- A character by its number: in braces, or with a fixed number of digits. -/
def takeNumbered (f : Flags) (width : Nat) (text : List Char) : Option (Escaped × List Char) :=
  match f.pass text with
  | '\x7b' :: rest => do
    let (digits, rest) ← takeBraced f rest
    some (.char (← numbered? digits), rest)
  | text =>
    if text.length < width then none
    else (numbered? (text.take width)).map fun c =>
      (if width = 2 then .byte c else .char c, text.drop width)

/-- A set by its name: in braces, or with one letter. -/
def takeProperty (f : Flags) (negated : Bool) (text : List Char) :
    Option (Escaped × List Char) := do
  let (found, rest) ← match f.pass text with
    | '\x7b' :: rest => do
      let (name, rest) ← takeBraced f rest
      pure (← propertySet? name, rest)
    | c :: rest => if c = '\\' then none else pure (← setNamed? [c], rest)
    | [] => none
  if f.unicode then
    let found := f.fold found
    some (.set (if negated then .complement found else found), rest)
  else none

/-- The places that words in braces behind `\b` stand for. -/
def boundaryNamed? (ascii : Bool) (name : List Char) : Option Look :=
  if name = "start".toList then some (.wordStart ascii)
  else if name = "end".toList then some (.wordEnd ascii)
  else if name = "start-half".toList then some (.wordStartHalf ascii)
  else if name = "end-half".toList then some (.wordEndHalf ascii)
  else none

/-- A boundary: `\b` alone, or with a word in braces. Braces without a word are left alone. -/
def takeBoundary (f : Flags) (text : List Char) : Option (Escaped × List Char) :=
  let isLetter (c : Char) : Bool := c.isAlpha || c == '-'
  match text with
  | '\x7b' :: rest =>
    match f.pass rest with
    | [] => none
    | c :: rest =>
      if isLetter c then
        match (c :: rest).dropWhile isLetter with
        | '\x7d' :: after =>
          (boundaryNamed? (!f.unicode) ((c :: rest).takeWhile isLetter)).map fun l =>
            (.look l, after)
        | _ => none
      else some (.look (.wordBoundary (!f.unicode)), text)
  | _ => some (.look (.wordBoundary (!f.unicode)), text)

/-- What stands behind a backslash. -/
def takeEscape (f : Flags) (text : List Char) : Option (Escaped × List Char) :=
  match text with
  | [] => none
  | 'x' :: rest => takeNumbered f 2 rest
  | 'u' :: rest => takeNumbered f 4 rest
  | 'U' :: rest => takeNumbered f 8 rest
  | 'p' :: rest => takeProperty f false rest
  | 'P' :: rest => takeProperty f true rest
  | 'b' :: rest => takeBoundary f rest
  | c :: rest =>
    if isEscapable c then some (.char c, rest)
    else
      let positive := (letterSet? f.unicode c).map Escaped.set
      let negative := if c.isUpper then
          (letterSet? f.unicode c.toLower).map fun s => Escaped.set (.complement s)
        else none
      let char := (letterChar? c).map Escaped.char
      let look := (letterLook? (!f.unicode) c).map Escaped.look
      (((positive.or negative).or char).or look).map (·, rest)

end Assay.Regex
