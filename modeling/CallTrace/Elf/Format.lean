import CallTrace.Elf.Error

/-!
# The layout of ELF files

An ELF file is written for words of 32 or of 64 bits, and in one of two byte orders.  Its tables
consist of records of fixed size; the records of the two classes have the same fields at other
places.  Offsets and sizes are natural numbers here, so that sums of them cannot wrap; a record is
only read where the file has all of its bytes.
-/

namespace CallTrace.Elf

/-- The order of the bytes in a number. -/
inductive ByteOrder where
  | little
  | big
deriving DecidableEq, Repr

namespace ByteOrder

/-- The number that bytes stand for, the least significant one first. -/
def ofLittle : List UInt8 → Nat
  | [] => 0
  | b :: rest => b.toNat + 256 * ofLittle rest

/-- The number that bytes stand for in a byte order. -/
def number (order : ByteOrder) (bytes : List UInt8) : Nat :=
  match order with
  | little => ofLittle bytes
  | big => ofLittle bytes.reverse

end ByteOrder

/-- The size of the words that a file is written for. -/
inductive WordClass where
  | bits32
  | bits64
deriving DecidableEq, Repr

/-- How a file is written. -/
structure Format where
  word : WordClass
  order : ByteOrder
deriving DecidableEq, Repr

/-- `size` bytes of a file from `offset` on, if the file has them. -/
def slice? (file : Bytes) (offset size : Nat) : Option Bytes :=
  if offset + size ≤ file.size then some (file.extract offset (offset + size)) else none

/-- Records of `size` bytes that fill a piece of a file. -/
def records (size : Nat) (bytes : Bytes) : List Bytes :=
  (List.range (bytes.size / size)).map fun i => bytes.extract (i * size) (i * size + size)

/-- The number in `width` bytes of a record from `offset` on. -/
def Format.field (format : Format) (record : Bytes) (offset width : Nat) : Nat :=
  format.order.number (record.extract offset (offset + width)).toList

/-- The header of a file, as far as reading needs it. -/
structure FileHeader where
  /-- Where the program headers are; 0 if there are none. -/
  segmentOffset : Nat
  /-- Where the section headers are; 0 if there are none. -/
  sectionOffset : Nat
  segmentEntrySize : Nat
  segmentCount : Nat
  sectionEntrySize : Nat
  sectionCount : Nat
  /-- The index of the section with the names of sections. -/
  nameSection : Nat
deriving DecidableEq, Repr

/-- A program header, as far as reading needs it. -/
structure ProgramHeader where
  type : Nat
  address : Nat
deriving DecidableEq, Repr

/-- A section header, as far as reading needs it. -/
structure SectionHeader where
  type : Nat
  offset : Nat
  size : Nat
  link : Nat
  info : Nat
deriving DecidableEq, Repr

/-- An entry of a symbol table. -/
structure Symbol where
  /-- Where in the string table the name begins. -/
  name : Nat
  /-- Binding and type, in the high and the low half of a byte. -/
  info : Nat
  /-- The section that defines the symbol; 0 if none does. -/
  definedIn : Nat
  value : Nat
deriving DecidableEq, Repr

/-- The binding of a symbol. -/
def Symbol.binding (symbol : Symbol) : Nat := symbol.info / 16

/-- The type of a symbol. -/
def Symbol.type (symbol : Symbol) : Nat := symbol.info % 16

namespace Format

/-- The size of the file header. -/
def fileHeaderSize (format : Format) : Nat :=
  match format.word with
  | .bits32 => 52
  | .bits64 => 64

/-- The size of a program header. -/
def programHeaderSize (format : Format) : Nat :=
  match format.word with
  | .bits32 => 32
  | .bits64 => 56

/-- The size of a section header. -/
def sectionHeaderSize (format : Format) : Nat :=
  match format.word with
  | .bits32 => 40
  | .bits64 => 64

/-- The size of a symbol. -/
def symbolSize (format : Format) : Nat :=
  match format.word with
  | .bits32 => 16
  | .bits64 => 24

/-- Reads a file header. -/
def fileHeader (format : Format) (record : Bytes) : FileHeader :=
  let field := format.field record
  match format.word with
  | .bits32 => ⟨field 28 4, field 32 4, field 42 2, field 44 2, field 46 2, field 48 2, field 50 2⟩
  | .bits64 => ⟨field 32 8, field 40 8, field 54 2, field 56 2, field 58 2, field 60 2, field 62 2⟩

/-- Reads a program header. -/
def programHeader (format : Format) (record : Bytes) : ProgramHeader :=
  let field := format.field record
  match format.word with
  | .bits32 => ⟨field 0 4, field 8 4⟩
  | .bits64 => ⟨field 0 4, field 16 8⟩

/-- Reads a section header. -/
def sectionHeader (format : Format) (record : Bytes) : SectionHeader :=
  let field := format.field record
  match format.word with
  | .bits32 => ⟨field 4 4, field 16 4, field 20 4, field 24 4, field 28 4⟩
  | .bits64 => ⟨field 4 4, field 24 8, field 32 8, field 40 4, field 44 4⟩

/-- Reads a symbol. -/
def symbol (format : Format) (record : Bytes) : Symbol :=
  let field := format.field record
  match format.word with
  | .bits32 => ⟨field 0 4, field 12 1, field 14 2, field 4 4⟩
  | .bits64 => ⟨field 0 4, field 4 1, field 6 2, field 8 8⟩

end Format

/-! ## Codes -/

/-- The type of a program header whose segment is loaded. -/
def loadSegment : Nat := 1

/-- The type of a section with a symbol table. -/
def symbolTableType : Nat := 2

/-- The type of a section with strings. -/
def stringTableType : Nat := 3

/-- The type of a section without contents in the file. -/
def emptySectionType : Nat := 8

/-- The type of a section with the dynamic symbol table. -/
def dynamicTableType : Nat := 11

/-- The type of a section that extends the section numbers of a symbol table. -/
def extendedIndexType : Nat := 18

/-- Whether sections of a type hold relocations. -/
def isRelocationType (type : Nat) : Bool := type = 4 || type = 9 || type = 0x40000014

/-- The type of a symbol that names a function. -/
def functionType : Nat := 2

/-- The type of a symbol that names the resolver of a function. -/
def indirectFunctionType : Nat := 10

end CallTrace.Elf
