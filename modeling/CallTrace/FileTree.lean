import CallTrace.Path

/-!
# File trees

A file tree holds the contents of files under absolute paths.  The directories above a listed
file exist with it, and so does the root.  A path is walked component by component: `.` stays,
`..` goes up (and stays at the root), and every step needs a directory to stand in, also the
empty step behind a slash at the end.  A path that does not begin with a slash starts in a directory
outside of the tree, where nothing is known but that directory and those above it.
-/

namespace CallTrace

/-- The bytes of a file. -/
abbrev Bytes := Array UInt8

/-- Why the operating system refuses to open or to map a file. -/
inductive OsError where
  | notFound
  | permissionDenied
  | noDevice
  | notDirectory
  | nameTooLong
  | nulInName
deriving DecidableEq, Repr

/-- The system's text for an error. -/
def OsError.message : OsError → String
  | notFound => "No such file or directory (os error 2)"
  | permissionDenied => "Permission denied (os error 13)"
  | noDevice => "No such device (os error 19)"
  | notDirectory => "Not a directory (os error 20)"
  | nameTooLong => "File name too long (os error 36)"
  | nulInName => "file name contained an unexpected NUL byte"

/-- What stands at a place of the tree. -/
inductive FileNode where
  | file (contents : Bytes)
  | directory
deriving DecidableEq, Repr

/-- A file tree as the list of its known places, each by the components of its path. -/
structure FileTree where
  places : List (List String × FileNode)
deriving Repr

namespace FileTree

/-- The tree that knows nothing but its root. -/
def empty : FileTree := ⟨[]⟩

/-- A tree from paths with contents; no contents means a directory. -/
def ofList (files : List (String × Option Bytes)) : FileTree :=
  ⟨files.map fun (path, contents) =>
    ((Path.ofString path).components, contents.elim .directory .file)⟩

/-- What stands at a place given by its components, root first. -/
def at? (tree : FileTree) (place : List String) : Option FileNode :=
  match tree.places.find? (·.1 = place) with
  | some (_, node) => some node
  | none =>
    if place = [] ∨ tree.places.any (fun known => place.isPrefixOf known.1) then some .directory
    else none

/-- The most bytes one component may have. -/
def nameLimit : Nat := 255

/-- A path of this many bytes or more is too long as a whole. -/
def pathLimit : Nat := 4096

/-- Takes the steps of a path from `place`, whose components stand innermost first. -/
def walk (tree : FileTree) : (place : List String) → List String → Except OsError FileNode
  | place, [] => (tree.at? place.reverse).elim (.error .notFound) .ok
  | place, step :: steps =>
    match tree.at? place.reverse with
    | none => .error .notFound
    | some (.file _) => .error .notDirectory
    | some .directory =>
      if step = "" ∨ step = "." then walk tree place steps
      else if step = ".." then walk tree place.tail steps
      else if step.utf8ByteSize > nameLimit then .error .nameTooLong
      else if (tree.at? (step :: place).reverse).isNone then .error .notFound
      else walk tree (step :: place) steps

/-- What a path leads to. -/
def resolve (tree : FileTree) (path : String) : Except OsError FileNode :=
  if '\x00' ∈ path.toList then .error .nulInName
  else if path = "" then .error .notFound
  else if path.utf8ByteSize ≥ pathLimit then .error .nameTooLong
  else
    let start := if path.toList.head? = some '/' then tree else empty
    start.walk [] ((splitAtSlashes path.toList).map String.ofList)

/-- The bytes of a file, mapped into memory; a directory can be opened but not mapped. -/
def contents (tree : FileTree) (path : String) : Except OsError Bytes :=
  match tree.resolve path with
  | .error cause => .error cause
  | .ok .directory => .error .noDevice
  | .ok (.file bytes) => .ok bytes

end FileTree

end CallTrace
