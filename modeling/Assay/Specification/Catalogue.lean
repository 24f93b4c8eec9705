import Assay.Specification.Draft

/-!
# Catalogues

Specifications refer to each other, also in circles, so they are declared before they are defined. A
catalogue holds them by number. A declared specification may be defined once.
-/

namespace Assay

variable {V : Type}

/-- A specification: its type, and its draft once it is defined. -/
structure Specification (V : Type) where
  typeName : String
  draft : Option (Draft V)

/-- Specifications by number. -/
structure Catalogue (V : Type) where
  specs : List (Specification V)

namespace Catalogue

def empty : Catalogue V := ⟨[]⟩

/-- The catalogue with one more specification, and its number. -/
def declare (c : Catalogue V) (typeName : String) : Catalogue V × SpecId :=
  (⟨c.specs ++ [⟨typeName, none⟩]⟩, c.specs.length)

def get? (c : Catalogue V) (id : SpecId) : Option (Specification V) := c.specs[id]?

/-- The draft of a specification, if it is defined. -/
def draft? (c : Catalogue V) (id : SpecId) : Option (Draft V) := (c.get? id).bind (·.draft)

/-- The type of a specification. -/
def typeName (c : Catalogue V) (id : SpecId) : String := ((c.get? id).map (·.typeName)).getD ""

def isDefined (c : Catalogue V) (id : SpecId) : Bool := (c.draft? id).isSome

/-- The catalogue with a specification defined; `none` if it was defined before. -/
def define? (c : Catalogue V) (id : SpecId) (draft : Draft V) : Option (Catalogue V) :=
  if c.isDefined id then none
  else some ⟨c.specs.modify id fun s => { s with draft := some draft }⟩

end Catalogue

end Assay
