import Assay.Guid
import Assay.Number.Binary
import Assay.Time.Moment

/-!
# Dynamic values

Where the values to be tested are only known by name and kind, they are data: texts, numbers,
containers, and objects with named fields. Objects are kept in a graph and referred to by number, so
that one object can be held in several places, and can hold itself.
-/

namespace Assay.Model

open Assay.Number Assay.Time

/-! ## 1. Kinds -/

/-- The ranges of whole numbers. -/
inductive Width where
  | i8
  | i16
  | i32
  | i64
  | isize
  | u8
  | u16
  | u32
  | u64
  | usize
  deriving DecidableEq, Repr

/-- The kinds of data; `any` stands for data of every kind. -/
inductive Kind where
  | text
  | integer (width : Width)
  | single
  | double
  | flag
  | guid
  | time
  | list
  | map
  | numbered
  | option
  | object
  | any
  deriving DecidableEq, Repr

/-- The names of the kinds. -/
def Kind.names : List (String × Kind) := [
  ("text", .text), ("i8", .integer .i8), ("i16", .integer .i16), ("i32", .integer .i32),
  ("i64", .integer .i64), ("isize", .integer .isize), ("u8", .integer .u8),
  ("u16", .integer .u16), ("u32", .integer .u32), ("u64", .integer .u64),
  ("usize", .integer .usize), ("f32", .single), ("f64", .double), ("bool", .flag),
  ("guid", .guid), ("time", .time), ("list", .list), ("map", .map), ("imap", .numbered),
  ("opt", .option), ("obj", .object), ("val", .any)]

/-- The kind with a name. -/
def Kind.ofName? (name : String) : Option Kind := names.lookup name

/-! ## 2. Data -/

/-- A value of some kind. -/
inductive Datum where
  | null
  | text (value : String)
  | integer (width : Width) (value : Int)
  | single (value : Single)
  | double (value : Double)
  | flag (value : Bool)
  | guid (value : Guid)
  | time (value : Moment)
  | list (items : List Datum)
  /-- Values by text, in the order of the keys. -/
  | map (entries : List (String × Datum))
  /-- Values by number, in the order of the keys. -/
  | numbered (entries : List (Int × Datum))
  | option (inner : Option Datum)
  /-- An object of the graph. -/
  | object (node : Nat)
  /-- An object that is not in the graph. -/
  | copied (fields : List (String × Datum))
  deriving Repr

/-- Values by the names of fields. -/
abbrev Fields := List (String × Datum)

/-- The objects of a model. The object with number 0 has no fields. -/
structure Graph where
  nodes : Array Fields
  deriving Repr

namespace Graph

/-- The graph with the object without fields alone. -/
def start : Graph := ⟨#[[]]⟩

/-- The graph with one more object, and its number. -/
def add (g : Graph) (fields : Fields) : Graph × Nat := (⟨g.nodes.push fields⟩, g.nodes.size)

/-- The graph with other fields for an object. -/
def define (g : Graph) (node : Nat) (fields : Fields) : Graph := ⟨g.nodes.setIfInBounds node fields⟩

end Graph

namespace Datum

/-- The kind of a value; null has none. -/
def kind? : Datum → Option Kind
  | null => none
  | text _ => some .text
  | integer width _ => some (.integer width)
  | single _ => some .single
  | double _ => some .double
  | flag _ => some .flag
  | guid _ => some .guid
  | time _ => some .time
  | list _ => some .list
  | map _ => some .map
  | numbered _ => some .numbered
  | option _ => some .option
  | object _ | copied _ => some .object

/-- The value is of a kind. -/
def isOf (kind : Kind) (d : Datum) : Bool := kind == .any || d.kind? == some kind

/-- What a field of a kind holds when it is missing. -/
def missing : Kind → Datum
  | .text => .text ""
  | .integer width => .integer width 0
  | .single => .single Binary.zero
  | .double => .double Binary.zero
  | .flag => .flag false
  | .guid => .guid Guid.nil
  | .time => .time Moment.epoch
  | .list => .list []
  | .map => .map []
  | .numbered => .numbered []
  | .option => .option none
  | .object => .object 0
  | .any => .null

/-- An entry put in its place by the number that is its key; it replaces one with that key. -/
def insertNumbered (key : Int) (d : Datum) : List (Int × Datum) → List (Int × Datum)
  | [] => [(key, d)]
  | (k, v) :: rest =>
    if key = k then (key, d) :: rest
    else if key < k then (key, d) :: (k, v) :: rest
    else (k, v) :: insertNumbered key d rest

/-- Entries in the order of their keys; of two with one key the later counts. -/
def sorted (entries : List (Int × Datum)) : List (Int × Datum) :=
  entries.foldl (fun sorted (key, d) => insertNumbered key d sorted) []

/-! ## 3. Views -/

/-- The fields of an object. -/
def fields? (g : Graph) : Datum → Option Fields
  | object node => g.nodes[node]?
  | copied fields => some fields
  | _ => none

def text? : Datum → Option String
  | text value => some value
  | _ => none

def integer? : Datum → Option Int
  | integer _ value => some value
  | _ => none

def single? : Datum → Option Single
  | single value => some value
  | _ => none

def double? : Datum → Option Double
  | double value => some value
  | _ => none

def flag? : Datum → Option Bool
  | flag value => some value
  | _ => none

def guid? : Datum → Option Guid
  | guid value => some value
  | _ => none

def time? : Datum → Option Moment
  | time value => some value
  | _ => none

def items? : Datum → Option (List Datum)
  | list items => some items
  | _ => none

/-- How many items a list has. -/
def itemCount? (d : Datum) : Option Nat := d.items?.map List.length

/-- How many characters, items, entries or fields there are. -/
def size? (g : Graph) : Datum → Option Nat
  | text value => some value.length
  | list items => some items.length
  | map entries => some entries.length
  | numbered entries => some entries.length
  | d => (d.fields? g).map List.length

/-- An optional value that holds nothing. -/
def isNone : Datum → Bool
  | option none => true
  | _ => false

end Datum

end Assay.Model
