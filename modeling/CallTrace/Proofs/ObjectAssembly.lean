import CallTrace.Proofs.ObjectLayout

/-!
# Assembling object files

Layouts are a relation, and a relation can be empty.  This one is not: for symbols and addresses
that fit the format there is a file that lays them out (`assemble_laysOut`), and this file builds
it, in the order in which linkers do: the header, the program headers, the symbols, the section
headers, and behind them the strings.

The only bound beyond the fields of single symbols is the size of the file, which has to be less
than 4 GiB, as names are found through offsets of four bytes in every format.
-/

namespace CallTrace.Elf

namespace Assembly

/-! ## String tables -/

/-- A name in a string table ends with a null byte. -/
def terminated (name : String) : List UInt8 := nameBytes name ++ [0]

/-- A string table begins with the empty name. -/
def stringTable (names : List String) : List UInt8 := 0 :: names.flatMap terminated

/-- Where a name begins: behind those in front of it. -/
def nameOffset (names : List String) (i : ℕ) : ℕ := (stringTable (names.take i)).length

lemma standsAt_stringTable {names : List String} {i : ℕ} {name : String}
    (h : names[i]? = some name) :
    StandsAt (terminated name) (nameOffset names i) (stringTable names) := by
  obtain ⟨hi, hget⟩ := List.getElem?_eq_some_iff.1 h
  refine ⟨stringTable (names.take i), (names.drop (i + 1)).flatMap terminated, ?_, rfl⟩
  have hcut : names = names.take i ++ name :: names.drop (i + 1) := by
    rw [← hget, ← List.drop_eq_getElem_cons hi, List.take_append_drop]
  conv_lhs => rw [hcut]
  simp [stringTable]

/-- The names of the sections. -/
def sectionNames : List String := [".dynsym", ".dynstr", ".shstrtab"]

/-! ## Parts -/

variable (format : Format) (addresses : List ℕ) (symbols : List DynamicSymbol) (lost : Finset ℕ)

/-- The strings of the symbols. -/
def strings : List UInt8 := stringTable (symbols.map (·.name))

/-- The program header of a segment that is loaded at an address. -/
def segmentRecord (address : ℕ) : ProgramHeaderRecord where
  type := loadSegment
  address := address
  flags := 5
  offset := 0
  physicalAddress := address
  fileSize := 0
  memorySize := 0
  alignment := 0x1000

/-- The entry of the symbol with number `i`.  A name that is lost begins at the end of the
strings. -/
def symbolRecord (entry : DynamicSymbol × ℕ) : SymbolRecord where
  name := if entry.2 ∈ lost then (strings symbols).length
    else nameOffset (symbols.map (·.name)) entry.2
  info := entry.1.binding.toNat * 16 + entry.1.type.toNat
  definedIn := entry.1.definedIn.toNat
  value := entry.1.value
  size := 0
  other := 0

/-- Where the symbols begin. -/
def symbolsAt : ℕ := format.fileHeaderSize + addresses.length * format.programHeaderSize

/-- Where the section headers begin. -/
def sectionsAt : ℕ := symbolsAt format addresses + (symbols.length + 1) * format.symbolSize

/-- Where the strings begin. -/
def stringsAt : ℕ := sectionsAt format addresses symbols + 4 * format.sectionHeaderSize

/-- Where the names of the sections begin. -/
def namesAt : ℕ := stringsAt format addresses symbols + (strings symbols).length

/-- Where the file ends. -/
def size : ℕ := namesAt format addresses symbols + (stringTable sectionNames).length

/-- A section header; flags and addresses do not matter. -/
def sectionRecord (name type offset size link info : ℕ) : SectionHeaderRecord where
  name := name
  type := type
  offset := offset
  size := size
  link := link
  info := info
  flags := 0
  address := 0
  alignment := 1
  entrySize := 0

/-- The section with the symbols. -/
def symbolSection : SectionHeaderRecord :=
  sectionRecord (nameOffset sectionNames 0) dynamicTableType (symbolsAt format addresses)
    ((symbols.length + 1) * format.symbolSize) 2 1

/-- The section with the names of the symbols. -/
def stringSection : SectionHeaderRecord :=
  sectionRecord (nameOffset sectionNames 1) stringTableType (stringsAt format addresses symbols)
    (strings symbols).length 0 0

/-- The section with the names of the sections. -/
def nameSection : SectionHeaderRecord :=
  sectionRecord (nameOffset sectionNames 2) stringTableType (namesAt format addresses symbols)
    (stringTable sectionNames).length 0 0

/-- The parts of the file.  Of 65535 segments and more the number is noted in the first section
header. -/
def layout : Layout where
  header :=
    { segmentOffset := format.fileHeaderSize
      sectionOffset := sectionsAt format addresses symbols
      segmentEntrySize := format.programHeaderSize
      segmentCount := min addresses.length 0xffff
      sectionEntrySize := format.sectionHeaderSize
      sectionCount := 4
      nameSection := 3
      abi := 0
      abiVersion := 0
      kind := 3
      machine := 0
      version := 1
      entry := 0
      flags := 0
      headerSize := format.fileHeaderSize }
  segments := addresses.map segmentRecord
  first := sectionRecord 0 0 0 0 0 addresses.length
  others := [symbolSection format addresses symbols, stringSection format addresses symbols,
    nameSection format addresses symbols]
  null := ⟨⟨0, 0, 0, 0⟩, 0, 0⟩
  symbols := symbols.zipIdx.map (symbolRecord symbols lost)
  strings := strings symbols

/-- The bytes of the file, part by part. -/
def parts : List (List UInt8) :=
  let layout := layout format addresses symbols lost
  let table (rows : List (List (ℕ × ℕ))) : List UInt8 := rows.flatMap format.order.write
  [table [format.fileHeaderFields layout.header],
    table (layout.segments.map format.programHeaderFields),
    table (layout.entries.map format.symbolFields),
    table (layout.sections.map format.sectionHeaderFields),
    layout.strings, stringTable sectionNames]

end Assembly

open Assembly

/-- The file that lays out symbols and segments. -/
def assemble (format : Format) (addresses : List ℕ) (symbols : List DynamicSymbol)
    (lost : Finset ℕ) : Bytes :=
  (parts format addresses symbols lost).flatten.toArray

namespace Assembly

/-! ## Places -/

variable {format : Format} {addresses : List ℕ} {symbols : List DynamicSymbol} {lost : Finset ℕ}

lemma lengths_parts : (parts format addresses symbols lost).map List.length =
    [format.fileHeaderSize, addresses.length * format.programHeaderSize,
      (symbols.length + 1) * format.symbolSize, 4 * format.sectionHeaderSize,
      (strings symbols).length, (stringTable sectionNames).length] := by
  simp only [parts, List.map_cons, List.map_nil,
    Format.length_flatMap_write format.length_write_programHeader,
    Format.length_flatMap_write format.length_write_symbol,
    Format.length_flatMap_write format.length_write_sectionHeader]
  simp [layout, Layout.entries, Layout.sections, format.length_write_fileHeader]

lemma size_assemble :
    (assemble format addresses symbols lost).size = size format addresses symbols := by
  rw [assemble, List.size_toArray, List.length_flatten, lengths_parts]
  simp [size, namesAt, stringsAt, sectionsAt, symbolsAt, Nat.add_assoc]

/-- A part stands behind those in front of it. -/
lemma standsAt_part (i : ℕ) {part : List UInt8} {offset : ℕ}
    (hpart : (parts format addresses symbols lost)[i]? = some part)
    (hoffset : (((parts format addresses symbols lost).map List.length).take i).sum = offset) :
    StandsAt part offset (assemble format addresses symbols lost).toList := by
  obtain ⟨hi, hget⟩ := List.getElem?_eq_some_iff.1 hpart
  refine ⟨((parts format addresses symbols lost).take i).flatten,
    ((parts format addresses symbols lost).drop (i + 1)).flatten, ?_, ?_⟩
  · rw [assemble, ← hget, List.append_assoc, ← List.flatten_cons, ← List.drop_eq_getElem_cons hi,
      ← List.flatten_append, List.take_append_drop]
  · rw [List.length_flatten, List.map_take, hoffset]

/-! ## Fields -/

lemma le_wordSize (format : Format) : 2 ^ 32 ≤ 256 ^ format.wordSize := by
  cases hword : format.word <;> simp [Format.wordSize, hword]

lemma nameOffset_le (names : List String) (i : ℕ) :
    nameOffset names i ≤ (stringTable names).length := by
  have hcut : stringTable names =
      stringTable (names.take i) ++ (names.drop i).flatMap terminated := by
    rw [stringTable, stringTable, List.cons_append, ← List.flatMap_append, List.take_append_drop]
  rw [nameOffset, hcut, List.length_append]
  omega

/-- In a file of less than 4 GiB, all places and sizes fit four bytes. -/
structure Bounds (format : Format) (addresses : List ℕ) (symbols : List DynamicSymbol) : Prop where
  addresses_lt : addresses.length < 2 ^ 32
  symbolsAt_lt : symbolsAt format addresses < 2 ^ 32
  entries_lt : (symbols.length + 1) * format.symbolSize < 2 ^ 32
  sectionsAt_lt : sectionsAt format addresses symbols < 2 ^ 32
  stringsAt_lt : stringsAt format addresses symbols < 2 ^ 32
  strings_lt : (strings symbols).length < 2 ^ 32
  namesAt_lt : namesAt format addresses symbols < 2 ^ 32
  names_lt : (stringTable sectionNames).length < 2 ^ 32

lemma Bounds.of_size_lt (hsize : size format addresses symbols < 2 ^ 32) :
    Bounds format addresses symbols := by
  have hcount : addresses.length ≤ addresses.length * format.programHeaderSize :=
    Nat.le_mul_of_pos_right _ format.programHeaderSize_pos
  have hsymbols : symbolsAt format addresses =
    format.fileHeaderSize + addresses.length * format.programHeaderSize := rfl
  have hsections : sectionsAt format addresses symbols =
    symbolsAt format addresses + (symbols.length + 1) * format.symbolSize := rfl
  have hstrings : stringsAt format addresses symbols =
    sectionsAt format addresses symbols + 4 * format.sectionHeaderSize := rfl
  have hnames : namesAt format addresses symbols =
    stringsAt format addresses symbols + (strings symbols).length := rfl
  rw [size] at hsize
  constructor <;> omega

lemma fit_header (hsize : size format addresses symbols < 2 ^ 32) :
    Fit (format.fileHeaderFields (layout format addresses symbols lost).header) := by
  have hsections := (Bounds.of_size_lt hsize).sectionsAt_lt
  have hheader : format.fileHeaderSize < 2 ^ 8 := by
    cases hword : format.word <;> simp [Format.fileHeaderSize, hword]
  have hsegment : format.programHeaderSize < 2 ^ 8 := by
    cases hword : format.word <;> simp [Format.programHeaderSize, hword]
  have hsection : format.sectionHeaderSize < 2 ^ 8 := by
    cases hword : format.word <;> simp [Format.sectionHeaderSize, hword]
  have hword : format.wordCode < 256 ∧ format.orderCode < 256 := by
    cases hword : format.word <;> cases horder : format.order <;>
      simp [Format.wordCode, Format.orderCode, hword, horder]
  have hword' := le_wordSize format
  simp only [Fit, Format.fileHeaderFields, layout, List.forall_mem_cons, List.not_mem_nil,
    false_implies, implies_true, and_true]
  omega

lemma fit_segment {address : ℕ} (haddress : address < 256 ^ format.wordSize) :
    Fit (format.programHeaderFields (segmentRecord address)) := by
  cases hword : format.word <;> rw [Format.wordSize, hword] at haddress <;>
    simpa [Fit, Format.programHeaderFields, segmentRecord, loadSegment, hword] using haddress

lemma fit_section {name type offset size link info : ℕ} (hname : name < 2 ^ 32)
    (htype : type < 2 ^ 32) (hoffset : offset < 2 ^ 32) (hsize : size < 2 ^ 32)
    (hlink : link < 2 ^ 32) (hinfo : info < 2 ^ 32) :
    Fit (format.sectionHeaderFields (sectionRecord name type offset size link info)) := by
  have hword := le_wordSize format
  simp only [Fit, Format.sectionHeaderFields, sectionRecord, List.forall_mem_cons,
    List.not_mem_nil, false_implies, implies_true, and_true]
  omega

lemma fit_symbol {entry : DynamicSymbol × ℕ} (hstrings : (strings symbols).length < 2 ^ 32)
    (hvalue : entry.1.value < 256 ^ format.wordSize) :
    Fit (format.symbolFields (symbolRecord symbols lost entry)) := by
  generalize hrecord : symbolRecord symbols lost entry = record
  have hname : record.name < 2 ^ 32 := by
    have hoffset := nameOffset_le (symbols.map (·.name)) entry.2
    rw [← hrecord, symbolRecord]
    split_ifs
    · exact hstrings
    · exact lt_of_le_of_lt hoffset hstrings
  have hinfo : record.info < 256 := by
    have hbinding := entry.1.binding.isLt
    have htype := entry.1.type.isLt
    rw [← hrecord, symbolRecord]
    dsimp only
    omega
  have hdefined : record.definedIn < 2 ^ 16 := by
    rw [← hrecord]
    exact entry.1.definedIn.toNat_lt
  have hrest : record.value = entry.1.value ∧ record.size = 0 ∧ record.other = 0 := by
    rw [← hrecord]
    exact ⟨rfl, rfl, rfl⟩
  cases hword : format.word <;> simp only [Format.wordSize, hword] at hvalue <;>
    simp only [Fit, Format.symbolFields, hword, List.forall_mem_cons, List.not_mem_nil,
      false_implies, implies_true, and_true] <;> omega

/-! ## Layouts -/

lemma tabled_header (hsize : size format addresses symbols < 2 ^ 32) :
    Tabled format.order [format.fileHeaderFields (layout format addresses symbols lost).header] 0
      (assemble format addresses symbols lost) :=
  ⟨by simpa using fit_header hsize, standsAt_part 0 rfl rfl⟩

lemma tabled_segments (haddresses : ∀ address ∈ addresses, address < 256 ^ format.wordSize) :
    Tabled format.order
      ((layout format addresses symbols lost).segments.map format.programHeaderFields)
      format.fileHeaderSize (assemble format addresses symbols lost) := by
  refine ⟨?_, standsAt_part 1 rfl (by rw [lengths_parts]; simp)⟩
  simp only [layout, List.map_map, List.forall_mem_map]
  exact fun address haddress => fit_segment (haddresses address haddress)

lemma tabled_entries (lost : Finset ℕ) (hsize : size format addresses symbols < 2 ^ 32)
    (hvalues : ∀ symbol ∈ symbols, symbol.value < 256 ^ format.wordSize) :
    Tabled format.order
      ((layout format addresses symbols lost).entries.map format.symbolFields)
      (symbolsAt format addresses) (assemble format addresses symbols lost) := by
  refine ⟨?_, standsAt_part 2 rfl (by rw [lengths_parts]; simp [symbolsAt])⟩
  have hstrings := (Bounds.of_size_lt hsize).strings_lt
  simp only [layout, Layout.entries, List.map_cons, List.map_map, List.forall_mem_cons,
    List.forall_mem_map]
  refine ⟨?_, fun entry hentry => fit_symbol hstrings (hvalues _ ?_)⟩
  · cases hword : format.word <;> simp [Fit, Format.symbolFields, hword]
  · exact List.fst_mem_of_mem_zipIdx hentry

lemma tabled_sections (hsize : size format addresses symbols < 2 ^ 32) :
    Tabled format.order
      ((layout format addresses symbols lost).sections.map format.sectionHeaderFields)
      (sectionsAt format addresses symbols) (assemble format addresses symbols lost) := by
  have bounds := Bounds.of_size_lt hsize
  have hname (i : ℕ) : nameOffset sectionNames i < 2 ^ 32 :=
    lt_of_le_of_lt (nameOffset_le sectionNames i) bounds.names_lt
  refine ⟨?_, standsAt_part 3 rfl ?_⟩
  · simp only [layout, Layout.sections, List.map_cons, List.map_nil, List.forall_mem_cons]
    exact ⟨
      fit_section (by decide) (by decide) (by decide) (by decide) (by decide) bounds.addresses_lt,
      fit_section (hname 0) (by decide) bounds.symbolsAt_lt bounds.entries_lt (by decide)
        (by decide),
      fit_section (hname 1) (by decide) bounds.stringsAt_lt bounds.strings_lt (by decide)
        (by decide),
      fit_section (hname 2) (by decide) bounds.namesAt_lt bounds.names_lt (by decide) (by decide),
      by simp⟩
  · rw [lengths_parts]
    simp [sectionsAt, symbolsAt, Nat.add_assoc]

/-- The strings lie in the file, and so do the names of the sections. -/
lemma standsAt_strings :
    StandsAt (strings symbols) (stringsAt format addresses symbols)
      (assemble format addresses symbols lost).toList := by
  refine standsAt_part 4 rfl ?_
  rw [lengths_parts]
  simp [stringsAt, sectionsAt, symbolsAt, Nat.add_assoc]

lemma standsAt_names :
    StandsAt (stringTable sectionNames) (namesAt format addresses symbols)
      (assemble format addresses symbols lost).toList := by
  refine standsAt_part 5 rfl ?_
  rw [lengths_parts]
  simp [namesAt, stringsAt, sectionsAt, symbolsAt, Nat.add_assoc]

lemma stringsAt_strings : SectionHeader.StringsAt (assemble format addresses symbols lost)
    (layout format addresses symbols lost).sectionHeaders 2
    (stringSection format addresses symbols).toSectionHeader :=
  ⟨by decide, rfl, rfl, standsAt_strings.end_le⟩

lemma stringsAt_names : SectionHeader.StringsAt (assemble format addresses symbols lost)
    (layout format addresses symbols lost).sectionHeaders 3
    (nameSection format addresses symbols).toSectionHeader :=
  ⟨by decide, rfl, rfl, standsAt_names.end_le⟩

lemma length_entries :
    (layout format addresses symbols lost).entries.length = symbols.length + 1 := by
  simp [Layout.entries, layout]

/-- Of the sections only the one with symbols is looked into. -/
lemma sections_sound (hsize : size format addresses symbols < 2 ^ 32)
    (hvalues : ∀ symbol ∈ symbols, symbol.value < 256 ^ format.wordSize) :
    ∀ s ∈ (layout format addresses symbols lost).sectionHeaders,
      s.Sound format (assemble format addresses symbols lost)
        (layout format addresses symbols lost).sectionHeaders := by
  have hplain (s : SectionHeader) (htype : s.type = 0 ∨ s.type = stringTableType) :
      s.Sound format (assemble format addresses symbols lost)
        (layout format addresses symbols lost).sectionHeaders := by
    constructor <;> intro h <;> rcases htype with htype | htype <;> rw [htype] at h <;>
      exact absurd h (by decide)
  have hentries := (tabled_entries lost hsize hvalues).2.end_le
  rw [Format.length_flatMap_write format.length_write_symbol, length_entries] at hentries
  have hsymbols : (symbolSection format addresses symbols).Sound format
      (assemble format addresses symbols lost)
      (layout format addresses symbols lost).sectionHeaders :=
    { symbols := fun _ => ⟨hentries, ⟨_, Nat.mul_comm _ _⟩, Or.inr ⟨_, stringsAt_strings⟩⟩
      indices := fun h => absurd h (show ¬dynamicTableType = extendedIndexType by decide)
      relocations := fun h => absurd h (show ¬isRelocationType dynamicTableType by decide) }
  simp only [Layout.sectionHeaders, Layout.sections, layout, List.map_cons, List.map_nil,
    List.forall_mem_cons]
  exact ⟨hplain _ (Or.inl rfl), hsymbols, hplain _ (Or.inr rfl), hplain _ (Or.inr rfl), by simp⟩

lemma noted_min (n mark : ℕ) : Noted (min n mark) mark n n := by
  unfold Noted
  omega

lemma places_pos (format : Format) (addresses : List ℕ) (symbols : List DynamicSymbol) :
    format.fileHeaderSize ≠ 0 ∧ sectionsAt format addresses symbols ≠ 0 := by
  have hheader := format.le_fileHeaderSize
  rw [sectionsAt, symbolsAt]
  omega

lemma fills (hsize : size format addresses symbols < 2 ^ 32)
    (haddresses : ∀ address ∈ addresses, address < 256 ^ format.wordSize)
    (hvalues : ∀ symbol ∈ symbols, symbol.value < 256 ^ format.wordSize) :
    (layout format addresses symbols lost).Fills format (assemble format addresses symbols lost) where
  size_lt := by
    rw [size_assemble]
    exact lt_trans hsize (by decide)
  header_tabled := tabled_header hsize
  segments_noted := by simpa [layout, sectionRecord] using noted_min addresses.length 0xffff
  segments_tabled _ := ⟨(places_pos format addresses symbols).1, rfl, tabled_segments haddresses⟩
  sections_noted := Or.inl ⟨rfl, Nat.succ_ne_zero _⟩
  sections_tabled := ⟨(places_pos format addresses symbols).2, rfl, tabled_sections hsize⟩
  sections_sound := sections_sound hsize hvalues
  names_noted := ⟨3, _, Or.inl ⟨rfl, by decide⟩, stringsAt_names⟩
  dynamic_listed := ⟨_, _, rfl, by rw [length_entries]; rfl, tabled_entries lost hsize hvalues,
    stringsAt_strings, rfl, standsAt_strings⟩

lemma holds_symbolRecord {entry : DynamicSymbol × ℕ} (hentry : entry ∈ symbols.zipIdx) :
    (symbolRecord symbols lost entry).Holds (strings symbols) (entry.2 ∈ lost) entry.1 where
  info := rfl
  definedIn := rfl
  value := rfl
  name hkept := by
    have hget : (symbols.map (·.name))[entry.2]? = some entry.1.name := by
      rw [List.getElem?_map, List.mem_zipIdx_iff_getElem?.1 hentry, Option.map_some]
    rw [symbolRecord]
    dsimp only
    rw [if_neg hkept]
    exact standsAt_stringTable hget
  lost hlost := by simp [symbolRecord, hlost]

end Assembly

/-- Symbols and addresses that fit the format are laid out by the assembled file, if it is less than
4 GiB long. -/
theorem assemble_laysOut {format : Format} {addresses : List ℕ} {symbols : List DynamicSymbol}
    {lost : Finset ℕ} (hsize : (assemble format addresses symbols lost).size < 2 ^ 32)
    (haddresses : ∀ address ∈ addresses, address < 256 ^ format.wordSize)
    (hvalues : ∀ symbol ∈ symbols, symbol.value < 256 ^ format.wordSize) :
    LaysOut format addresses symbols lost (assemble format addresses symbols lost) := by
  rw [size_assemble] at hsize
  refine ⟨layout format addresses symbols lost, fills hsize haddresses hvalues, ?_, ?_⟩
  · simp [layout, loadAddresses, segmentRecord, List.filter_map, Function.comp_def]
  · rw [layout, List.forall₂_map_left_iff, List.forall₂_same]
    exact fun entry hentry => holds_symbolRecord hentry

end CallTrace.Elf
