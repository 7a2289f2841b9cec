import CallTrace.Proofs.ObjectImage
import CallTrace.Proofs.ObjectRecords

/-!
# Layouts of object files

This file says what it means that an object file lays out dynamic symbols and loadable segments,
without saying how such a file is read.

The parts of a file may stand in any order and with anything between them, so a layout is a relation
(`LaysOut`): there are records and strings, and each stands where the headers say it does
(`StandsAt`).  Of a section that is not part of the layout only that is asked which the format asks
of every section of its type (`SectionHeader.Sound`).

Two things of the format take an extra case.  A count or an index that does not fit its field in the
file header is noted in the first section header (`Noted`); and the name of a symbol may have got
lost, which is to say that it begins beyond the end of the string table.  The latter is no defect of
a file as a whole, so a layout comes with the set of the symbols whose names are lost.
-/

namespace CallTrace.Elf

/-! ## Symbols -/

/-- A dynamic symbol, apart from any file. -/
structure DynamicSymbol where
  name : String
  binding : BitVec 4
  type : BitVec 4
  /-- The section that defines the symbol; 0 if none does. -/
  definedIn : UInt16
  value : ℕ
  /-- In a string table, a null character ends a name. -/
  nul_notMem : '\x00' ∉ name.toList

namespace DynamicSymbol

/-- A symbol is exported if it is defined, not local (binding 0), and has a name. -/
def IsExported (symbol : DynamicSymbol) : Prop :=
  symbol.definedIn ≠ 0 ∧ symbol.binding ≠ 0 ∧ symbol.name ≠ ""

instance : DecidablePred IsExported := fun symbol =>
  inferInstanceAs (Decidable (_ ∧ symbol.binding ≠ 0 ∧ symbol.name ≠ ""))

/-- What the address of a symbol means: type 10 is that of the resolvers of functions, type 2 that of
functions. -/
def kind (symbol : DynamicSymbol) : ExportKind :=
  if symbol.type = 10 then .indirect else if symbol.type = 2 then .code else .data

/-- The export of a symbol in a module that is moved by `bias`. -/
def exportAt (bias : Address) (symbol : DynamicSymbol) : Export :=
  ⟨symbol.name, UInt64.ofNat symbol.value + bias, symbol.kind⟩

end DynamicSymbol

/-- The symbols whose names are not lost, in their order.  Symbols are numbered from 0. -/
def remaining (lost : Finset ℕ) (symbols : List DynamicSymbol) : List DynamicSymbol :=
  (symbols.zipIdx.filter fun (_, i) => i ∉ lost).map (·.1)

@[simp] lemma remaining_empty (symbols : List DynamicSymbol) : remaining ∅ symbols = symbols := by
  simp [remaining]

/-! ## Places -/

/-- Bytes stand at an offset of others. -/
def StandsAt (piece : List UInt8) (offset : ℕ) (bytes : List UInt8) : Prop :=
  ∃ before after, bytes = before ++ piece ++ after ∧ before.length = offset

namespace StandsAt

variable {piece more bytes : List UInt8} {offset : ℕ} {file : Bytes}

lemma end_le (h : StandsAt piece offset file.toList) : offset + piece.length ≤ file.size := by
  obtain ⟨before, after, hfile, rfl⟩ := h
  rw [← Array.length_toList, hfile, List.length_append, List.length_append]
  omega

lemma of_append (h : StandsAt (piece ++ more) offset bytes) : StandsAt piece offset bytes := by
  obtain ⟨before, after, rfl, hlength⟩ := h
  exact ⟨before, more ++ after, by simp, hlength⟩

/-- What stands in a piece stands in the whole. -/
lemma trans {inner : List UInt8} {start : ℕ} (hinner : StandsAt inner start piece)
    (h : StandsAt piece offset bytes) : StandsAt inner (offset + start) bytes := by
  obtain ⟨before, after, rfl, rfl⟩ := h
  obtain ⟨before', after', rfl, rfl⟩ := hinner
  exact ⟨before ++ before', after' ++ after, by simp, by simp⟩

end StandsAt

/-- Records, each a row of fields, stand one behind the other from an offset on, and every number
fits its field. -/
def Tabled (order : ByteOrder) (rows : List (List (ℕ × ℕ))) (offset : ℕ) (file : Bytes) : Prop :=
  (∀ row ∈ rows, Fit row) ∧ StandsAt (rows.flatMap order.write) offset file.toList

/-- A number is noted in its field, or elsewhere, and then the field holds a mark. -/
def Noted (field mark elsewhere n : ℕ) : Prop :=
  field = n ∧ n ≠ mark ∨ field = mark ∧ elsewhere = n

namespace SectionHeader

/-- A section that lies in the file. -/
def LiesIn (s : SectionHeader) (file : Bytes) : Prop := s.offset + s.size ≤ file.size

/-- A section with strings at an index other than 0. -/
def StringsAt (file : Bytes) (sections : List SectionHeader) (index : ℕ)
    (strings : SectionHeader) : Prop :=
  index ≠ 0 ∧ sections[index]? = some strings ∧ strings.type = stringTableType ∧
    strings.LiesIn file

/-- What the format asks of a section of any type that reading looks into. -/
structure Sound (format : Format) (file : Bytes) (sections : List SectionHeader)
    (s : SectionHeader) : Prop where
  /-- Symbols fill their section, and their strings are where they say. -/
  symbols : s.type = symbolTableType ∨ s.type = dynamicTableType →
    s.LiesIn file ∧ format.symbolSize ∣ s.size ∧
      (s.link = 0 ∨ ∃ strings, StringsAt file sections s.link strings)
  /-- Extended section numbers are words. -/
  indices : s.type = extendedIndexType → s.LiesIn file ∧ 4 ∣ s.size
  /-- Relocations do not apply to relocations. -/
  relocations : isRelocationType s.type → s.info ≠ 0 →
    ∃ target, sections[s.info]? = some target ∧ ¬isRelocationType target.type

end SectionHeader

/-! ## Layouts -/

/-- The parts of a file. -/
structure Layout where
  header : FileHeaderRecord
  segments : List ProgramHeaderRecord
  first : SectionHeaderRecord
  /-- The section headers after the first one. -/
  others : List SectionHeaderRecord
  /-- The entry of the symbol table that stands for no symbol. -/
  null : SymbolRecord
  symbols : List SymbolRecord
  strings : List UInt8

namespace Layout

/-- All section headers. -/
def sections (layout : Layout) : List SectionHeaderRecord :=
  layout.first :: layout.others

/-- All section headers, as far as reading needs them. -/
def sectionHeaders (layout : Layout) : List SectionHeader :=
  layout.sections.map (·.toSectionHeader)

/-- All entries of the symbol table. -/
def entries (layout : Layout) : List SymbolRecord := layout.null :: layout.symbols

/-- A file is well formed, and consists of the parts of a layout. -/
structure Fills (layout : Layout) (format : Format) (file : Bytes) : Prop where
  /-- Every offset in the file is a word. -/
  size_lt : file.size < UInt64.size
  header_tabled : Tabled format.order [format.fileHeaderFields layout.header] 0 file
  segments_noted :
    Noted layout.header.segmentCount 0xffff layout.first.info layout.segments.length
  segments_tabled : layout.segments ≠ [] →
    layout.header.segmentOffset ≠ 0 ∧
      layout.header.segmentEntrySize = format.programHeaderSize ∧
      Tabled format.order (layout.segments.map format.programHeaderFields)
        layout.header.segmentOffset file
  sections_noted :
    Noted layout.header.sectionCount 0 layout.first.size layout.sections.length
  sections_tabled : layout.header.sectionOffset ≠ 0 ∧
    layout.header.sectionEntrySize = format.sectionHeaderSize ∧
    Tabled format.order (layout.sections.map format.sectionHeaderFields)
      layout.header.sectionOffset file
  sections_sound : ∀ s ∈ layout.sectionHeaders, s.Sound format file layout.sectionHeaders
  /-- There is a section with the names of the sections. -/
  names_noted : ∃ index names, Noted layout.header.nameSection 0xffff layout.first.link index ∧
    SectionHeader.StringsAt file layout.sectionHeaders index names
  /-- The first section with dynamic symbols holds the entries, and leads to the strings. -/
  dynamic_listed : ∃ dynamic strings,
    layout.sectionHeaders.find? (·.type = dynamicTableType) = some dynamic ∧
      dynamic.size = layout.entries.length * format.symbolSize ∧
      Tabled format.order (layout.entries.map format.symbolFields) dynamic.offset file ∧
      SectionHeader.StringsAt file layout.sectionHeaders dynamic.link strings ∧
      strings.size = layout.strings.length ∧
      StandsAt layout.strings strings.offset file.toList

end Layout

/-! ## Symbols in a layout -/

/-- The bytes of a name in a string table. -/
def nameBytes (name : String) : List UInt8 := name.toUTF8.data.toList

/-- A record is that of a symbol.  Its name is in the string table, unless it got lost. -/
structure SymbolRecord.Holds (record : SymbolRecord) (strings : List UInt8) (lost : Prop)
    (symbol : DynamicSymbol) : Prop where
  info : record.info = symbol.binding.toNat * 16 + symbol.type.toNat
  definedIn : record.definedIn = symbol.definedIn.toNat
  value : record.value = symbol.value
  name : ¬lost → StandsAt (nameBytes symbol.name ++ [0]) record.name strings
  lost : lost → strings.length ≤ record.name

/-- A file lays out symbols, loadable segments at addresses, and nothing else that is loaded or
exported.  The names of the symbols with a number in `lost` are lost. -/
def LaysOut (format : Format) (addresses : List ℕ) (symbols : List DynamicSymbol)
    (lost : Finset ℕ) (file : Bytes) : Prop :=
  ∃ layout : Layout, layout.Fills format file ∧
    loadAddresses (layout.segments.map (·.toProgramHeader)) = addresses ∧
    List.Forall₂ (fun record (symbol, i) => record.Holds layout.strings (i ∈ lost) symbol)
      layout.symbols symbols.zipIdx

end CallTrace.Elf
