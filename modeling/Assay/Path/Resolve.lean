import Assay.Path

/-!
# Reading an authored path against another

`Path.resolve base relative` appends `relative` below `base`, after it has left one level of `base`
for every `<` in front of `relative`. Climbing further than `base` is deep leaves the rest of
`relative` alone, so a fault can be moved to the top of the model and never above it.
-/

namespace Assay.Path

/-! ## 1. Climbing -/

/-- Leaves the last `levels` levels of a path that is given back to front; nothing if it has fewer
    dots than that. -/
def climb : Nat → List Char → Option (List Char)
  | 0, path => some path
  | levels + 1, path =>
    match path.dropWhile (· != '.') with
    | [] => none
    | _ :: rest => climb levels rest

/-- The path without its last `levels` levels. -/
def ancestor (levels : Nat) (path : List Char) : Option (List Char) :=
  (climb levels path.reverse).map List.reverse

/-! ## 2. Resolving -/

/-- Below a path; below the empty path nothing is prepended. -/
def below (base core : List Char) : List Char :=
  if base.isEmpty then core else base ++ '.' :: core

/-- `relative` read at `base`. -/
def resolve (base relative : String) : String :=
  let rel := relative.toList
  if rel.isEmpty then base
  else
    let levels := (rel.takeWhile (· == '<')).length
    let core := rel.dropWhile (· == '<')
    if levels = 0 then String.ofList (below base.toList rel)
    else match ancestor levels base.toList with
      | none => String.ofList core
      | some up => String.ofList (if core.isEmpty then up else up ++ '.' :: core)

/-- A relative path read at `base`; `base` itself if there is none. -/
def along (base : String) : Option String → String
  | none => base
  | some relative => resolve base relative

end Assay.Path
