/-!
# Documents of tables

The settings of a program are written as a TOML document: a tree of tables whose leaves are texts,
truth values, numbers and moments. Entries stand in the order of the document.

A table remembers how it came to be, because that decides whether a later line may add to it
(`Origin`). The reader is in `Assay.Toml.Document`.
-/

namespace Assay.Toml

/-! ## 1. Items -/

/-- How a table came to be. -/
inductive Origin where
  /-- It is only known as the parent of a table with a header. -/
  | implied
  /-- It stands to the left of a dot in the key of an entry. -/
  | dotted
  /-- It has a header. -/
  | declared
  /-- It stands between braces and is complete. -/
  | braced
  deriving DecidableEq, Repr

/-- What a key stands for. -/
inductive Item where
  | text (value : String)
  | flag (value : Bool)
  /-- A number as it is written. -/
  | number (written : String)
  /-- A date, a time or both, as it is shown. -/
  | moment (shown : String)
  | list (items : List Item)
  | table (origin : Origin) (entries : List (String × Item))
  /-- Tables with one header, in order. -/
  | tables (rows : List (List (String × Item)))
  deriving Repr

/-- Keys with what they stand for. -/
abbrev Entries := List (String × Item)

/-- The key under which a moment holds its text where a table is asked for. -/
def momentKey : String := "$__toml_private_datetime"

namespace Item

/-- The text an item is. -/
def text? : Item → Option String
  | .text value => some value
  | _ => none

/-- The truth value an item is. -/
def flag? : Item → Option Bool
  | .flag value => some value
  | _ => none

/-- The entries of an item that can be read as a table. -/
def entries? : Item → Option Entries
  | .table _ entries => some entries
  | .moment shown => some [(momentKey, .text shown)]
  | _ => none

end Item

/-! ## 2. Adding to a table -/

/-- What stands under a key is replaced or added, or the change is refused. -/
def alter (key : String) (change : Option Item → Option Item) : Entries → Option Entries
  | [] => (change none).map fun item => [(key, item)]
  | (k, item) :: rest =>
    if k = key then (change (some item)).map fun item => (k, item) :: rest
    else (alter key change rest).map ((k, item) :: ·)

/-- A change to the last of several tables. -/
def alterLast (change : Entries → Option Entries) : List Entries → Option (List Entries)
  | [] => none
  | [row] => (change row).map ([·])
  | row :: rest => (alterLast change rest).map (row :: ·)

/-- Adds an entry; a key with a meaning is refused. -/
def addNew (key : String) (item : Item) : Entries → Option Entries :=
  alter key fun
    | none => some item
    | some _ => none

/-- Adds an entry under a dotted key. The tables on the way are new or were opened by dotted keys
    in the same place. -/
def addDotted (key : String) (item : Item) : List String → Entries → Option Entries
  | [] => addNew key item
  | name :: path => alter name fun
    | none => (addDotted key item path []).map (.table .dotted)
    | some (.table .dotted entries) => (addDotted key item path entries).map (.table .dotted)
    | some _ => none

/-- A change to the table that a header names by its parents. Of several tables with one header the
    last is meant. -/
def alterUnder (change : Entries → Option Entries) : List String → Entries → Option Entries
  | [] => change
  | name :: path => alter name fun
    | none => (alterUnder change path []).map (.table .implied)
    | some (.table .braced _) => none
    | some (.table origin entries) => (alterUnder change path entries).map (.table origin)
    | some (.tables rows) => (alterLast (alterUnder change path) rows).map .tables
    | some _ => none

/-- The entries under a header, put in their place. A header may name a table that so far was only
    implied, and no other that is there already. -/
def declare (path : List String) (key : String) (fill : Entries → Option Entries) :
    Entries → Option Entries :=
  alterUnder (alter key fun
    | none => (fill []).map (.table .declared)
    | some (.table .implied entries) => (fill entries).map (.table .declared)
    | some _ => none) path

/-- The entries under a doubled header: one more table of that name. -/
def declareRow (path : List String) (key : String) (fill : Entries → Option Entries) :
    Entries → Option Entries :=
  alterUnder (alter key fun
    | none => (fill []).map fun row => .tables [row]
    | some (.tables rows) => (fill []).map fun row => .tables (rows ++ [row])
    | some _ => none) path

end Assay.Toml
