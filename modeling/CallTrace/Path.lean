/-!
# Paths

A path names a place in the file tree by components between slashes.  Repeated slashes, a slash
at the end and components `.` say nothing, except that a relative path may begin with `.`; two
paths are the same place name when what remains agrees.  A component `..` is kept, because where
it leads depends on the tree.
-/

namespace CallTrace

/-- A text cut at every slash; there is always one piece more than there are slashes. -/
def splitAtSlashes : List Char → List (List Char)
  | [] => [[]]
  | c :: rest =>
    match splitAtSlashes rest with
    | [] => [[c]]
    | piece :: more => if c = '/' then [] :: piece :: more else (c :: piece) :: more

/-- A path in normal form: whether it starts at the root, and the components that matter. -/
structure Path where
  isAbsolute : Bool
  components : List String
deriving DecidableEq, Repr

namespace Path

/-- The normal form of a written path. -/
def ofString (text : String) : Path :=
  let isAbsolute := text.toList.head? = some '/'
  let pieces := (splitAtSlashes text.toList).map String.ofList
  let leading := if isAbsolute then [] else (pieces.take 1).filter (· = ".")
  ⟨isAbsolute, leading ++ pieces.filter fun piece => piece ≠ "" ∧ piece ≠ "."⟩

/-- The name of the file a path leads to: its last component, unless that is `.` or `..`. -/
def fileName? (path : Path) : Option String :=
  path.components.getLast?.filter fun name => name ≠ "." ∧ name ≠ ".."

end Path

end CallTrace
