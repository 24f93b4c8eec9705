import Assay.Path

/-!
# Index markers of a path

A scheme speaks of paths with bare markers, a visit knows at which positions it is. `Path.fill` puts
positions in, `Path.strip` takes them out.

**The innermost position goes to the last marker.** Positions come innermost first. If a path has
fewer markers than there are positions, it was moved out of the innermost collections, and their
positions are passed over; if it has more, the outer markers stay bare.
-/

namespace Assay.Path

/-! ## 1. Taking positions out -/

/-- Every marker bare. -/
def strip (path : String) : String :=
  ofSegments ((segments path).map fun s => if isIndex s then marker else s)

/-! ## 2. Putting positions in -/

/-- Walks the segments back to front and hands the positions to the bare markers it meets. -/
def fillBack : List String → List String → List String
  | [], segs => segs
  | _, [] => []
  | index :: indexes, seg :: segs =>
    if seg = marker then ("#" ++ index) :: fillBack indexes segs
    else seg :: fillBack (index :: indexes) segs

/-- The path with its bare markers filled from the positions, innermost first. -/
def fill (path : String) (indexes : List String) : String :=
  let segs := segments path
  let markers := segs.count marker
  ofSegments (fillBack (indexes.drop (indexes.length - markers)) segs.reverse).reverse

end Assay.Path
