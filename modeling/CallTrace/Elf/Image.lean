import CallTrace.Elf.Format
import CallTrace.Export

/-!
# ELF images

Reading an ELF file checks it in a fixed order and stops at the first defect.  What remains of
the file is its image: the addresses of its loadable segments and its dynamic symbols.

The link base of an image is the page of its lowest loadable segment; a module that is mapped
elsewhere is moved by the difference, its bias, and all of it is computed in words of 64 bits
that wrap.
-/

namespace CallTrace.Elf

/-- The string table of a symbol table: the range of the file that holds the names. -/
structure StringTable where
  start : Nat
  stop : Nat
deriving DecidableEq, Repr

/-- A symbol table: its entries, and its strings if it has any. -/
structure SymbolTable where
  symbols : List Symbol
  strings : Option StringTable
deriving DecidableEq, Repr

/-- What reading keeps of a file. -/
structure Image where
  file : Bytes
  /-- The link-time addresses of the loadable segments. -/
  segments : List Address
  /-- The dynamic symbols. -/
  dynamic : SymbolTable
deriving DecidableEq, Repr

/-! ## Headers -/

/-- The format that the first bytes of a file announce.  Object files of other kinds than ELF are
not told apart from files that are no object files at all: their magic is unknown. -/
def readFormat (file : Bytes) : Except ElfError Format :=
  if file.size < 16 then .error .noMagic
  else
    let word? : Option WordClass :=
      if (file.extract 0 4).toList ≠ [0x7f, 0x45, 0x4c, 0x46] then none
      else if file[4]? = some 1 then some .bits32
      else if file[4]? = some 2 then some .bits64
      else none
    match word? with
    | none => .error .unknownMagic
    | some word =>
      if file.size < Format.fileHeaderSize ⟨word, .little⟩ then .error .shortHeader
      else if file[6]? ≠ some 1 then .error .unsupportedHeader
      else if file[5]? = some 1 then .ok ⟨word, .little⟩
      else if file[5]? = some 2 then .ok ⟨word, .big⟩
      else .error .unsupportedHeader

/-- The first section header, which also holds counts that do not fit the file header; there is
none if the file has no section headers. -/
def firstSection (format : Format) (file : Bytes) (header : FileHeader) :
    Except ElfError (Option SectionHeader) :=
  if header.sectionOffset = 0 then .ok none
  else if header.sectionEntrySize ≠ format.sectionHeaderSize then .error .sectionEntrySize
  else
    match slice? file header.sectionOffset format.sectionHeaderSize with
    | none => .error .firstSection
    | some record => .ok (some (format.sectionHeader record))

/-- The number of program headers. -/
def segmentCount (format : Format) (file : Bytes) (header : FileHeader) : Except ElfError Nat :=
  if header.segmentCount < 0xffff then .ok header.segmentCount
  else
    match firstSection format file header with
    | .error cause => .error cause
    | .ok none => .error .noSectionForSegmentCount
    | .ok (some first) => .ok first.info

/-- The program headers. -/
def readProgramHeaders (format : Format) (file : Bytes) (header : FileHeader) :
    Except ElfError (List ProgramHeader) := do
  if header.segmentOffset = 0 then return []
  let count ← segmentCount format file header
  if count = 0 then return []
  if header.segmentEntrySize ≠ format.programHeaderSize then throw .segmentEntrySize
  match slice? file header.segmentOffset (count * format.programHeaderSize) with
  | none => throw .segmentTable
  | some table => return (records format.programHeaderSize table).map format.programHeader

/-- The number of section headers. -/
def sectionCount (format : Format) (file : Bytes) (header : FileHeader) : Except ElfError Nat :=
  if header.sectionCount ≠ 0 then .ok header.sectionCount
  else
    match firstSection format file header with
    | .error cause => .error cause
    | .ok none => .ok 0
    | .ok (some first) => .ok first.size

/-- The section headers. -/
def readSectionHeaders (format : Format) (file : Bytes) (header : FileHeader) :
    Except ElfError (List SectionHeader) := do
  if header.sectionOffset = 0 then return []
  let count ← sectionCount format file header
  if count = 0 then return []
  if header.sectionEntrySize ≠ format.sectionHeaderSize then throw .sectionEntrySize
  match slice? file header.sectionOffset (count * format.sectionHeaderSize) with
  | none => throw .sectionTable
  | some table => return (records format.sectionHeaderSize table).map format.sectionHeader

/-! ## Checks of sections -/

/-- The index of the section with the names of sections. -/
def nameSectionIndex (format : Format) (file : Bytes) (header : FileHeader) :
    Except ElfError Nat :=
  if header.nameSection ≠ 0xffff then .ok header.nameSection
  else
    match firstSection format file header with
    | .error cause => .error cause
    | .ok none => .ok 0
    | .ok (some first) => .ok first.link

/-- The section with the names of sections has to exist, and its range must not wrap. -/
def checkNameSection (format : Format) (file : Bytes) (header : FileHeader)
    (sections : List SectionHeader) : Except ElfError Unit := do
  if sections.isEmpty then return
  let index ← nameSectionIndex format file header
  if index = 0 then throw .noNameSection
  match sections[index]? with
  | none => throw .nameSection
  | some names =>
    if names.type ≠ emptySectionType ∧ names.offset + names.size ≥ UInt64.size then throw .nameTable

/-- The strings that a section index leads to; index 0 stands for none. -/
def readStrings (sections : List SectionHeader) (index : Nat) :
    Except ElfError (Option StringTable) :=
  if index = 0 then .ok none
  else
    match sections[index]? with
    | none => .error .sectionIndex
    | some strings =>
      if strings.type ≠ stringTableType then .error .stringSectionType
      else if strings.offset + strings.size ≥ UInt64.size then .error .stringSection
      else .ok (some ⟨strings.offset, strings.offset + strings.size⟩)

/-- The contents of a section as records of `size` bytes, if they lie in the file and come out
even.  A section without contents has no records, wherever it is said to lie. -/
def sectionRecords? (file : Bytes) (size : Nat) (s : SectionHeader) : Option (List Bytes) :=
  if s.size = 0 then some []
  else
    match slice? file s.offset s.size with
    | none => none
    | some contents => if s.size % size = 0 then some (records size contents) else none

/-- Every section that extends the section numbers of the table at `index` has to hold words. -/
def checkExtendedIndices (file : Bytes) (sections : List SectionHeader) (index : Nat) :
    Except ElfError Unit :=
  if sections.all fun s =>
      s.type ≠ extendedIndexType || s.link ≠ index || (sectionRecords? file 4 s).isSome then
    .ok ()
  else .error .extendedIndexData

/-- The symbol table in the first section of a type; without such a section it is empty. -/
def readSymbolTable (format : Format) (file : Bytes) (sections : List SectionHeader)
    (type : Nat) : Except ElfError SymbolTable :=
  match sections.findIdx? (·.type = type) with
  | none => .ok ⟨[], none⟩
  | some index =>
    match sections[index]? with
    | none => .ok ⟨[], none⟩
    | some s => do
      match sectionRecords? file format.symbolSize s with
      | none => throw .symbolData
      | some entries =>
        let strings ← readStrings sections s.link
        checkExtendedIndices file sections index
        return ⟨entries.map format.symbol, strings⟩

/-- A section with relocations for the symbol table at `symbols` has to name a section to which
they apply, and not one with relocations itself. -/
def checkRelocation (sections : List SectionHeader) (symbols : Nat) (s : SectionHeader) :
    Except ElfError Unit :=
  if !isRelocationType s.type || s.link ≠ symbols || s.info = 0 then .ok ()
  else
    match sections[s.info]? with
    | none => .error .relocationTarget
    | some target => if isRelocationType target.type then .error .nestedRelocation else .ok ()

/-- Checks the sections with relocations, the last one first. -/
def checkRelocations (sections : List SectionHeader) : Except ElfError Unit :=
  let symbols := (sections.findIdx? (·.type = symbolTableType)).getD 0
  sections.reverse.forM (checkRelocation sections symbols)

/-! ## Images -/

namespace Image

/-- Reads the image of a file. -/
def read (file : Bytes) : Except ElfError Image := do
  let format ← readFormat file
  let header := format.fileHeader file
  let segments ← readProgramHeaders format file header
  let sections ← readSectionHeaders format file header
  checkNameSection format file header sections
  let _ ← readSymbolTable format file sections symbolTableType
  let dynamic ← readSymbolTable format file sections dynamicTableType
  checkRelocations sections
  let loaded := segments.filter (·.type = loadSegment)
  return ⟨file, loaded.map (UInt64.ofNat ·.address), dynamic⟩

/-- The page of the lowest loadable segment; the page at 0 if there is no such segment. -/
def linkBase (image : Image) : Address := (image.segments.min?.getD 0).pageStart

/-- How far a module is moved whose file is mapped from `base` on. -/
def loadBias (image : Image) (base : Address) : Address := base - image.linkBase

/-- The name of a symbol: the bytes from its place in the string table up to the first null byte,
if the string table lies in the file, there is such a byte in it, and the bytes are UTF-8. -/
def nameOf? (image : Image) (symbol : Symbol) : Option String := do
  let strings ← image.dynamic.strings
  let start := strings.start + symbol.name
  if start ≤ strings.stop ∧ strings.stop ≤ image.file.size then
    let rest := image.file.extract start strings.stop
    let name := rest.takeWhile (· ≠ 0)
    if name.size < rest.size then String.fromUTF8? ⟨name⟩ else none
  else none

/-- What the address of a symbol means. -/
def kindOf (symbol : Symbol) : ExportKind :=
  if symbol.type = indirectFunctionType then .indirect
  else if symbol.type = functionType then .code
  else .data

/-- The export that a symbol makes in a module moved by `bias`.  Symbols that are not defined,
that are local, or whose name is empty or unreadable make none. -/
def export? (image : Image) (bias : Address) (symbol : Symbol) : Option Export :=
  if symbol.definedIn = 0 ∨ symbol.binding = 0 then none
  else
    match image.nameOf? symbol with
    | none => none
    | some "" => none
    | some name => some ⟨name, UInt64.ofNat symbol.value + bias, kindOf symbol⟩

/-- The exports of a module moved by `bias`, in the order of the dynamic symbols.  The first
entry of the symbol table stands for no symbol. -/
def exports (image : Image) (bias : Address) : List Export :=
  (image.dynamic.symbols.drop 1).filterMap (image.export? bias)

/-- The image of a file in a tree. -/
def ofFile (tree : FileTree) (path : String) : Except ImageError Image :=
  match tree.contents path with
  | .error cause => .error (.unreadable path cause)
  | .ok bytes =>
    match read bytes with
    | .error cause => .error (.malformed path cause)
    | .ok image => .ok image

end Image

end CallTrace.Elf
