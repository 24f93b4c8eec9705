import Assay.Toml
import Assay.Toml.Number
import Assay.Toml.Quoted

/-!
# Reading a document

A document is a run of lines: headers, entries, comments and empty lines. What belongs under a
header is added to the tree entry by entry, and the first line that breaks a rule makes the whole
document unreadable: there is one answer for every fault, so the reader keeps no more than whether
there was one.
-/

namespace Assay.Toml

/-! ## 1. Blanks and comments -/

def dropBlanks (text : List Char) : List Char := text.dropWhile isBlank

/-- The text behind the end of a line that has nothing more than a comment. -/
def takeLineEnd (text : List Char) : Option (List Char) :=
  match dropBlanks text with
  | [] => some []
  | '\n' :: rest => some rest
  | '\r' :: '\n' :: rest => some rest
  | '#' :: comment =>
    match comment.dropWhile isPrintable with
    | [] => some []
    | '\n' :: rest => some rest
    | '\r' :: '\n' :: rest => some rest
    | _ => none
  | _ => none

/-- The text behind blanks, line ends and comments. -/
def dropSpaceFrom : (fuel : Nat) → (text : List Char) → List Char
  | 0, text => text
  | fuel + 1, text =>
    match dropBlanks text with
    | [] => []
    | c :: rest =>
      if c == '\n' || c == '\r' || c == '#' then
        match takeLineEnd (c :: rest) with
        | some rest => dropSpaceFrom fuel rest
        | none => c :: rest
      else c :: rest

def dropSpace (text : List Char) : List Char := dropSpaceFrom text.length text

/-! ## 2. Keys -/

/-- A character of a key without quotes. -/
def isBare (c : Char) : Bool := c.isAlphanum || c == '-' || c == '_'

/-- One part of a key. -/
def takeName (text : List Char) : Option (String × List Char) :=
  match text with
  | '"' :: _ | '\'' :: _ => (takeLine text).map fun (name, rest) => (String.ofList name, rest)
  | _ =>
    let name := text.takeWhile isBare
    if name.isEmpty then none else some (String.ofList name, text.dropWhile isBare)

/-- How many parts a key has, and how deep brackets nest, at most. -/
def depthLimit : Nat := 79

/-- The parts of a key, with dots between them: all but the last, and the last. -/
def takeKey : (fuel : Nat) → (text : List Char) → Option ((List String × String) × List Char)
  | 0, _ => none
  | fuel + 1, text => do
    let (name, rest) ← takeName (dropBlanks text)
    match dropBlanks rest with
    | '.' :: rest =>
      let ((path, last), rest) ← takeKey fuel rest
      some ((name :: path, last), rest)
    | rest => some (([], name), rest)

/-! ## 3. Values -/

/-- A character of a number. -/
def isNumberChar (c : Char) : Bool :=
  c.isAlphanum || c == '+' || c == '-' || c == '_' || c == '.'

/-- A value that is a single word. -/
def takeWord (text : List Char) : Option (Item × List Char) :=
  match takeMoment text with
  | some (shown, rest) => some (.moment shown, rest)
  | none =>
    let word := text.takeWhile isNumberChar
    let rest := text.dropWhile isNumberChar
    if word == "true".toList then some (.flag true, rest)
    else if word == "false".toList then some (.flag false, rest)
    else if isNumber word then some (.number (String.ofList word), rest)
    else none

/-- The items of a list behind its bracket, read with a reader of values. -/
def takeItems (takeValue : List Char → Option (Item × List Char)) :
    (fuel : Nat) → (text : List Char) → Option (List Item × List Char)
  | 0, _ => none
  | fuel + 1, text =>
    match dropSpace text with
    | ']' :: rest => some ([], rest)
    | text => do
      let (item, rest) ← takeValue text
      match dropSpace rest with
      | ']' :: rest => some ([item], rest)
      | ',' :: rest =>
        let (items, rest) ← takeItems takeValue fuel rest
        some (item :: items, rest)
      | _ => none

/-- An entry: a key, `=` and a value. -/
def takeEntry (takeValue : List Char → Option (Item × List Char)) (text : List Char) :
    Option ((List String × String × Item) × List Char) := do
  let ((path, key), rest) ← takeKey depthLimit text
  match rest with
  | '=' :: rest =>
    let (item, rest) ← takeValue (dropBlanks rest)
    some ((path, key, item), rest)
  | _ => none

/-- The entries of a table between braces, behind an entry has been asked for. -/
def takeBraced (takeValue : List Char → Option (Item × List Char)) :
    (fuel : Nat) → (entries : Entries) → (text : List Char) → Option (Entries × List Char)
  | 0, _, _ => none
  | fuel + 1, entries, text => do
    let ((path, key, item), rest) ← takeEntry takeValue text
    let entries ← addDotted key item path entries
    match dropBlanks rest with
    | '\x7d' :: rest => some (entries, rest)
    | ',' :: rest => takeBraced takeValue fuel entries rest
    | _ => none

/-- A value with brackets nested no deeper than the given depth. -/
def takeValue : (depth : Nat) → (text : List Char) → Option (Item × List Char)
  | 0, text =>
    match text with
    | '"' :: _ | '\'' :: _ =>
      (takeText text).map fun (value, rest) => (.text (String.ofList value), rest)
    | _ => takeWord text
  | depth + 1, text =>
    match text with
    | '"' :: _ | '\'' :: _ =>
      (takeText text).map fun (value, rest) => (.text (String.ofList value), rest)
    | '[' :: rest =>
      (takeItems (takeValue depth) (rest.length + 1) rest).map fun (items, rest) =>
        (.list items, rest)
    | '\x7b' :: rest =>
      match dropBlanks rest with
      | '\x7d' :: rest => some (.table .braced [], rest)
      | rest =>
        (takeBraced (takeValue depth) (rest.length + 1) [] rest).map fun (entries, rest) =>
          (.table .braced entries, rest)
    | _ => takeWord text

/-! ## 4. Lines -/

/-- Where entries are added: at the top, in a table, or in one of several tables. -/
inductive Header where
  | top
  | table (path : List String) (key : String)
  | row (path : List String) (key : String)
  deriving DecidableEq, Repr

/-- The entries of the lines under one header, put into the tree. -/
def Header.place (header : Header) (fill : Entries → Option Entries) (tree : Entries) :
    Option Entries :=
  match header with
  | .top => fill tree
  | .table path key => declare path key fill tree
  | .row path key => declareRow path key fill tree

/-- Several entries added one after another. -/
def addAll (added : List (List String × String × Item)) (entries : Entries) : Option Entries :=
  added.foldlM (fun entries (path, key, item) => addDotted key item path entries) entries

/-- A header line behind its first bracket. -/
def takeHeader (text : List Char) : Option (Header × List Char) :=
  match text with
  | '[' :: rest => do
    let ((path, key), rest) ← takeKey depthLimit rest
    match rest with
    | ']' :: ']' :: rest => some (.row path key, ← takeLineEnd rest)
    | _ => none
  | _ => do
    let ((path, key), rest) ← takeKey depthLimit text
    match rest with
    | ']' :: rest => some (.table path key, ← takeLineEnd rest)
    | _ => none

/-- Reads the lines of a document one after another. The entries under the header last met wait, the
    newest first, until the next header or the end. -/
def readLines : (fuel : Nat) → (tree : Entries) → (header : Header) →
    (waiting : List (List String × String × Item)) → (text : List Char) → Option Entries
  | 0, _, _, _, _ => none
  | fuel + 1, tree, header, waiting, text =>
    match dropBlanks text with
    | [] => header.place (addAll waiting.reverse) tree
    | '[' :: rest => do
      let tree ← header.place (addAll waiting.reverse) tree
      let (header, rest) ← takeHeader rest
      readLines fuel tree header [] rest
    | c :: rest =>
      if c == '\n' || c == '\r' || c == '#' then do
        readLines fuel tree header waiting (← takeLineEnd (c :: rest))
      else do
        let (entry, rest) ← takeEntry (takeValue depthLimit) (c :: rest)
        readLines fuel tree header (entry :: waiting) (← takeLineEnd rest)

/-- The document without a byte order mark in front. -/
def dropMark : List Char → List Char
  | '\ufeff' :: rest => rest
  | text => text

/-- The entries of a document. -/
def read? (text : String) : Option Entries :=
  let text := dropMark text.toList
  readLines (text.length + 1) [] .top [] text

end Assay.Toml
