import CallTrace.Proofs.ObjectImage

/-!
# Records of object files, written

A record of an object file is a row of numbers, each in a field of a fixed number of bytes.  This
file gives the fields of every kind of record in both classes, those included that reading passes
over, and says how they are written in both byte orders.  What is written is read back, as long as
each number fits its field (`Fit`).

All four kinds are read back by one argument (`Format.field_write`): a field is found where the
fields in front of it end.
-/

namespace CallTrace.Elf

/-! ## Numbers -/

namespace ByteOrder

/-- The last `width` bytes of a number, the least significant one first. -/
def littleBytes : (width n : ℕ) → List UInt8
  | 0, _ => []
  | width + 1, n => UInt8.ofNat n :: littleBytes width (n / 256)

/-- The last `width` bytes of a number in a byte order. -/
def bytes (order : ByteOrder) (width n : ℕ) : List UInt8 :=
  match order with
  | little => littleBytes width n
  | big => (littleBytes width n).reverse

lemma length_littleBytes (width n : ℕ) : (littleBytes width n).length = width := by
  induction width generalizing n with
  | zero => rfl
  | succ width ih => rw [littleBytes, List.length_cons, ih]

@[simp] lemma length_bytes (order : ByteOrder) (width n : ℕ) :
    (order.bytes width n).length = width := by
  cases order with
  | little => exact length_littleBytes width n
  | big => rw [bytes, List.length_reverse, length_littleBytes]

lemma ofLittle_littleBytes {width n : ℕ} (h : n < 256 ^ width) :
    ofLittle (littleBytes width n) = n := by
  induction width generalizing n with
  | zero =>
    obtain rfl : n = 0 := by simpa using h
    rfl
  | succ width ih =>
    have hrest : n / 256 < 256 ^ width := by
      rw [Nat.pow_succ] at h
      omega
    rw [littleBytes, ofLittle, ih hrest, UInt8.toNat_ofNat']
    omega

lemma number_bytes {order : ByteOrder} {width n : ℕ} (h : n < 256 ^ width) :
    order.number (order.bytes width n) = n := by
  cases order with
  | little => exact ofLittle_littleBytes h
  | big => rw [number, bytes, List.reverse_reverse, ofLittle_littleBytes h]

/-- Numbers written one behind the other, each in as many bytes as stand in front of it. -/
def write (order : ByteOrder) (fields : List (ℕ × ℕ)) : List UInt8 :=
  fields.flatMap fun (width, n) => order.bytes width n

@[simp] lemma length_write (order : ByteOrder) (fields : List (ℕ × ℕ)) :
    (order.write fields).length = (fields.map (·.1)).sum := by
  simp [write, List.length_flatMap]

lemma write_append (order : ByteOrder) (fields more : List (ℕ × ℕ)) :
    order.write (fields ++ more) = order.write fields ++ order.write more :=
  List.flatMap_append

end ByteOrder

/-- Every number fits the bytes of its field. -/
def Fit (fields : List (ℕ × ℕ)) : Prop := ∀ field ∈ fields, field.2 < 256 ^ field.1

instance (fields : List (ℕ × ℕ)) : Decidable (Fit fields) :=
  inferInstanceAs (Decidable (∀ field ∈ fields, _))

namespace Format

/-- A number is read back from behind the fields in front of it. -/
lemma field_write (format : Format) {fields : List (ℕ × ℕ)} (hfit : Fit fields)
    (rest : List UInt8) (i offset width n : ℕ) (hfield : fields[i]? = some (width, n))
    (hoffset : ((fields.take i).map (·.1)).sum = offset) :
    format.field (format.order.write fields ++ rest).toArray offset width = n := by
  obtain ⟨hi, hget⟩ := List.getElem?_eq_some_iff.1 hfield
  have hcut : fields = fields.take i ++ (width, n) :: fields.drop (i + 1) := by
    rw [← hget, ← List.drop_eq_getElem_cons hi, List.take_append_drop]
  have hwritten : format.order.write fields ++ rest = format.order.write (fields.take i) ++
      (format.order.bytes width n ++ (format.order.write (fields.drop (i + 1)) ++ rest)) := by
    conv_lhs => rw [hcut, ByteOrder.write_append]
    simp [ByteOrder.write]
  have hlength : (format.order.write (fields.take i)).length = offset := by
    rw [ByteOrder.length_write, hoffset]
  have hbytes : ((format.order.write fields ++ rest).toArray.extract offset (offset + width)).toList =
      format.order.bytes width n := by
    rw [hwritten, List.extract_toArray, List.extract_eq_take_drop, ← hlength,
      Nat.add_sub_cancel_left, List.drop_left', List.take_left' (by simp)]
    rfl
  rw [field, hbytes]
  exact ByteOrder.number_bytes (hfit (width, n) (List.mem_of_getElem? hfield))

/-- The number of bytes in a word. -/
def wordSize (format : Format) : ℕ :=
  match format.word with
  | .bits32 => 4
  | .bits64 => 8

end Format

/-! ## File headers -/

/-- A file header with the fields that reading passes over. -/
structure FileHeaderRecord extends FileHeader where
  abi : ℕ
  abiVersion : ℕ
  kind : ℕ
  machine : ℕ
  version : ℕ
  entry : ℕ
  flags : ℕ
  headerSize : ℕ

namespace Format

/-- The code of a class. -/
def wordCode (format : Format) : ℕ :=
  match format.word with
  | .bits32 => 1
  | .bits64 => 2

/-- The code of a byte order. -/
def orderCode (format : Format) : ℕ :=
  match format.order with
  | .little => 1
  | .big => 2

/-- The fields of a file header.  The first ones identify the format, in single bytes. -/
def fileHeaderFields (format : Format) (header : FileHeaderRecord) : List (ℕ × ℕ) :=
  [(1, 0x7f), (1, 0x45), (1, 0x4c), (1, 0x46), (1, format.wordCode), (1, format.orderCode), (1, 1),
    (1, header.abi), (1, header.abiVersion), (7, 0), (2, header.kind), (2, header.machine),
    (4, header.version), (format.wordSize, header.entry),
    (format.wordSize, header.segmentOffset), (format.wordSize, header.sectionOffset),
    (4, header.flags), (2, header.headerSize), (2, header.segmentEntrySize),
    (2, header.segmentCount), (2, header.sectionEntrySize), (2, header.sectionCount),
    (2, header.nameSection)]

lemma fileHeader_write {format : Format} {header : FileHeaderRecord}
    (hfit : Fit (format.fileHeaderFields header)) (rest : List UInt8) :
    format.fileHeader (format.order.write (format.fileHeaderFields header) ++ rest).toArray =
      header.toFileHeader := by
  have hread (i offset width n : ℕ) := format.field_write hfit rest i offset width n
  cases hword : format.word with
  | bits32 =>
    simp only [fileHeader, hword]
    rw [hread 14 28 4 header.segmentOffset, hread 15 32 4 header.sectionOffset,
      hread 18 42 2 header.segmentEntrySize, hread 19 44 2 header.segmentCount,
      hread 20 46 2 header.sectionEntrySize, hread 21 48 2 header.sectionCount,
      hread 22 50 2 header.nameSection] <;> simp [fileHeaderFields, wordSize, hword]
  | bits64 =>
    simp only [fileHeader, hword]
    rw [hread 14 32 8 header.segmentOffset, hread 15 40 8 header.sectionOffset,
      hread 18 54 2 header.segmentEntrySize, hread 19 56 2 header.segmentCount,
      hread 20 58 2 header.sectionEntrySize, hread 21 60 2 header.sectionCount,
      hread 22 62 2 header.nameSection] <;> simp [fileHeaderFields, wordSize, hword]

end Format

/-! ## Program headers -/

/-- A program header with the fields that reading passes over. -/
structure ProgramHeaderRecord extends ProgramHeader where
  flags : ℕ
  offset : ℕ
  physicalAddress : ℕ
  fileSize : ℕ
  memorySize : ℕ
  alignment : ℕ

/-! ## Section headers -/

/-- A section header with the fields that reading passes over. -/
structure SectionHeaderRecord extends SectionHeader where
  name : ℕ
  flags : ℕ
  address : ℕ
  alignment : ℕ
  entrySize : ℕ

/-! ## Symbols -/

/-- A symbol with the fields that reading passes over. -/
structure SymbolRecord extends Symbol where
  size : ℕ
  other : ℕ

namespace Format

/-- The fields of a program header. -/
def programHeaderFields (format : Format) (segment : ProgramHeaderRecord) : List (ℕ × ℕ) :=
  match format.word with
  | .bits32 => [(4, segment.type), (4, segment.offset), (4, segment.address),
      (4, segment.physicalAddress), (4, segment.fileSize), (4, segment.memorySize),
      (4, segment.flags), (4, segment.alignment)]
  | .bits64 => [(4, segment.type), (4, segment.flags), (8, segment.offset), (8, segment.address),
      (8, segment.physicalAddress), (8, segment.fileSize), (8, segment.memorySize),
      (8, segment.alignment)]

/-- The fields of a section header. -/
def sectionHeaderFields (format : Format) (s : SectionHeaderRecord) : List (ℕ × ℕ) :=
  [(4, s.name), (4, s.type), (format.wordSize, s.flags), (format.wordSize, s.address),
    (format.wordSize, s.offset), (format.wordSize, s.size), (4, s.link), (4, s.info),
    (format.wordSize, s.alignment), (format.wordSize, s.entrySize)]

/-- The fields of a symbol. -/
def symbolFields (format : Format) (symbol : SymbolRecord) : List (ℕ × ℕ) :=
  match format.word with
  | .bits32 => [(4, symbol.name), (4, symbol.value), (4, symbol.size), (1, symbol.info),
      (1, symbol.other), (2, symbol.definedIn)]
  | .bits64 => [(4, symbol.name), (1, symbol.info), (1, symbol.other), (2, symbol.definedIn),
      (8, symbol.value), (8, symbol.size)]

lemma programHeader_write {format : Format} {segment : ProgramHeaderRecord}
    (hfit : Fit (format.programHeaderFields segment)) :
    format.programHeader (format.order.write (format.programHeaderFields segment)).toArray =
      segment.toProgramHeader := by
  have hread (i offset width n : ℕ) := format.field_write hfit [] i offset width n
  simp only [List.append_nil] at hread
  cases hword : format.word with
  | bits32 =>
    simp only [programHeader, hword]
    rw [hread 0 0 4 segment.type, hread 2 8 4 segment.address] <;>
      simp [programHeaderFields, hword]
  | bits64 =>
    simp only [programHeader, hword]
    rw [hread 0 0 4 segment.type, hread 3 16 8 segment.address] <;>
      simp [programHeaderFields, hword]

lemma sectionHeader_write {format : Format} {s : SectionHeaderRecord}
    (hfit : Fit (format.sectionHeaderFields s)) :
    format.sectionHeader (format.order.write (format.sectionHeaderFields s)).toArray =
      s.toSectionHeader := by
  have hread (i offset width n : ℕ) := format.field_write hfit [] i offset width n
  simp only [List.append_nil] at hread
  cases hword : format.word with
  | bits32 =>
    simp only [sectionHeader, hword]
    rw [hread 1 4 4 s.type, hread 4 16 4 s.offset, hread 5 20 4 s.size, hread 6 24 4 s.link,
      hread 7 28 4 s.info] <;> simp [sectionHeaderFields, wordSize, hword]
  | bits64 =>
    simp only [sectionHeader, hword]
    rw [hread 1 4 4 s.type, hread 4 24 8 s.offset, hread 5 32 8 s.size, hread 6 40 4 s.link,
      hread 7 44 4 s.info] <;> simp [sectionHeaderFields, wordSize, hword]

lemma symbol_write {format : Format} {symbol : SymbolRecord}
    (hfit : Fit (format.symbolFields symbol)) :
    format.symbol (format.order.write (format.symbolFields symbol)).toArray = symbol.toSymbol := by
  have hread (i offset width n : ℕ) := format.field_write hfit [] i offset width n
  simp only [List.append_nil] at hread
  cases hword : format.word with
  | bits32 =>
    simp only [Format.symbol, hword]
    rw [hread 0 0 4 symbol.name, hread 3 12 1 symbol.info, hread 5 14 2 symbol.definedIn,
      hread 1 4 4 symbol.value] <;> simp [symbolFields, hword]
  | bits64 =>
    simp only [Format.symbol, hword]
    rw [hread 0 0 4 symbol.name, hread 1 4 1 symbol.info, hread 3 6 2 symbol.definedIn,
      hread 4 8 8 symbol.value] <;> simp [symbolFields, hword]

/-! ## Sizes -/

lemma le_fileHeaderSize (format : Format) : 52 ≤ format.fileHeaderSize := by
  cases hword : format.word <;> simp [fileHeaderSize, hword]

lemma programHeaderSize_pos (format : Format) : 0 < format.programHeaderSize := by
  cases hword : format.word <;> simp [programHeaderSize, hword]

lemma sectionHeaderSize_pos (format : Format) : 0 < format.sectionHeaderSize := by
  cases hword : format.word <;> simp [sectionHeaderSize, hword]

lemma symbolSize_pos (format : Format) : 0 < format.symbolSize := by
  cases hword : format.word <;> simp [symbolSize, hword]

lemma length_write_fileHeader (format : Format) (header : FileHeaderRecord) :
    (format.order.write (format.fileHeaderFields header)).length = format.fileHeaderSize := by
  cases hword : format.word <;> simp [fileHeaderFields, fileHeaderSize, wordSize, hword]

lemma length_write_programHeader (format : Format) (segment : ProgramHeaderRecord) :
    (format.order.write (format.programHeaderFields segment)).length =
      format.programHeaderSize := by
  cases hword : format.word <;> simp [programHeaderFields, programHeaderSize, hword]

lemma length_write_sectionHeader (format : Format) (s : SectionHeaderRecord) :
    (format.order.write (format.sectionHeaderFields s)).length = format.sectionHeaderSize := by
  cases hword : format.word <;> simp [sectionHeaderFields, sectionHeaderSize, wordSize, hword]

lemma length_write_symbol (format : Format) (symbol : SymbolRecord) :
    (format.order.write (format.symbolFields symbol)).length = format.symbolSize := by
  cases hword : format.word <;> simp [symbolFields, symbolSize, hword]

/-- A table has as many bytes as its records have together. -/
lemma length_flatMap_write {α : Type} {order : ByteOrder} {fields : α → List (ℕ × ℕ)} {size : ℕ}
    (hsize : ∀ a, (order.write (fields a)).length = size) (xs : List α) :
    ((xs.map fields).flatMap order.write).length = xs.length * size := by
  have hsizes : ∀ row ∈ xs.map fields, (order.write row).length = size :=
    List.forall_mem_map.2 fun a _ => hsize a
  rw [List.length_flatMap, List.map_congr_left hsizes, List.map_const', List.sum_replicate_nat,
    List.length_map]

end Format

end CallTrace.Elf
