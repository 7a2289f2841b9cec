import CallTrace.Address
import CallTrace.FileTree
import CallTrace.Notice
import CallTrace.Text.Blank
import CallTrace.Text.Lines

/-!
# Memory maps

The text in which the kernel lists the mappings of a process, one per line:
`start-end perms offset dev inode path`.  Mappings of one file make up a module, which reaches
from the lowest to the highest of them.  Lines that have another form, mappings without a file and
mappings of deleted files are left out.
-/

namespace CallTrace

/-- A mapping of a file into memory. -/
structure Mapping where
  start : Address
  stop : Address
  /-- Where in the file the mapping begins. -/
  offset : UInt64
  path : String
deriving DecidableEq, Repr

/-- A file with the range of addresses that its mappings span. -/
structure MappedModule where
  path : String
  /-- The lowest mapped address. -/
  start : Address
  /-- One past the highest mapped address. -/
  stop : Address
  /-- Where the beginning of the file is mapped, if it is. -/
  base : Option Address
deriving DecidableEq, Repr

namespace Mapping

/-- A hexadecimal word of 64 bits. -/
def word? (text : List Char) : Option UInt64 := (Numeral.read? 16 UInt64.size text).map UInt64.ofNat

/-- The two words of an address range, which its first dash separates. -/
def range? (text : List Char) : Option (Address × Address) :=
  match text.dropWhile (· ≠ '-') with
  | [] => none
  | _ :: high =>
    (word? (text.takeWhile (· ≠ '-'))).bind fun start => (word? high).map fun stop => (start, stop)

/-- The end of a path whose file was deleted after it had been mapped. -/
def deletedMark : List Char := [' ', '(', 'd', 'e', 'l', 'e', 't', 'e', 'd', ')']

/-- Whether a path names a file that is still there. -/
def isFilePath (path : List Char) : Bool :=
  path.head? = some '/' && !deletedMark.isSuffixOf path

/-- The mapping of a file that a line describes, if it describes one. -/
def ofLine? (line : List Char) : Option Mapping := do
  let (range, rest) ← Text.nextField? line
  let (_, rest) ← Text.nextField? rest
  let (offset, rest) ← Text.nextField? rest
  let (_, rest) ← Text.nextField? rest
  let (_, rest) ← Text.nextField? rest
  let (start, stop) ← range? range
  let offset ← word? offset
  let path := Text.trim rest
  if isFilePath path then some ⟨start, stop, offset, String.ofList path⟩ else none

/-- Where the file begins, if the mapping shows it. -/
def base? (mapping : Mapping) : Option Address :=
  if mapping.offset = 0 then some mapping.start else none

end Mapping

namespace MappedModule

/-- The module that a first mapping makes. -/
def ofMapping (mapping : Mapping) : MappedModule :=
  ⟨mapping.path, mapping.start, mapping.stop, mapping.base?⟩

/-- A module with one more mapping of its file. -/
def extend (m : MappedModule) (mapping : Mapping) : MappedModule :=
  { m with
    start := min m.start mapping.start
    stop := max m.stop mapping.stop
    base := m.base.or mapping.base? }

/-- Adds a mapping to the module of its file, which is made if there is none. -/
def add (mapping : Mapping) : List MappedModule → List MappedModule
  | [] => [ofMapping mapping]
  | m :: rest =>
    if m.path = mapping.path then m.extend mapping :: rest else m :: add mapping rest

/-- Mappings grouped into modules, in the order in which their files first appear. -/
def ofMappings (mappings : List Mapping) : List MappedModule :=
  mappings.foldl (fun modules mapping => add mapping modules) []

/-- The modules that a text of mappings describes. -/
def ofText (text : String) : List MappedModule :=
  ofMappings ((Text.lines text.toList).filterMap Mapping.ofLine?)

end MappedModule

/-- The four bytes at the front of every object file. -/
def objectMagic : List UInt8 := [0x7f, 0x45, 0x4c, 0x46]

/-- Whether a path leads to an object file.  What cannot be opened passes; what can be opened and
does not begin with the magic bytes is none. -/
def FileTree.isObjectFile (tree : FileTree) (path : String) : Bool :=
  match tree.resolve path with
  | .error _ => true
  | .ok .directory => false
  | .ok (.file bytes) => (bytes.extract 0 4).toList = objectMagic

namespace MappedModule

/-- The modules whose files are object files; every other one is noted. -/
def retainObjectFiles (tree : FileTree) (modules : List MappedModule) :
    List MappedModule × List Notice :=
  let (kept, dropped) := modules.partition (tree.isObjectFile ·.path)
  (kept, dropped.map (.ignoredMapping ·.path))

end MappedModule

end CallTrace
