import CallTrace.Proofs.ObjectLayout

/-!
# Reading laid-out files

Every stage of reading a file finds what the layout of the file says: the format and the header
(`Layout.Fills.fileHeader_eq`), the counts and indices, also where they are noted in the first
section header, the tables, and the sections that are looked into.

Two arguments carry this.  What stands at an offset is what a slice from there on contains
(`StandsAt.slice?`), and records of one size that stand one behind the other come out one by one
(`Tabled.read`).  Both tables of headers and the table of symbols are read by the second.
-/

namespace CallTrace.Elf

/-! ## Places -/

namespace StandsAt

variable {piece : List UInt8} {offset : ℕ} {file : Bytes}

lemma extract (h : StandsAt piece offset file.toList) :
    file.extract offset (offset + piece.length) = piece.toArray := by
  obtain ⟨before, after, hfile, rfl⟩ := h
  obtain rfl : file = (before ++ piece ++ after).toArray := by rw [← hfile, Array.toArray_toList]
  rw [List.extract_toArray, List.extract_eq_take_drop, Nat.add_sub_cancel_left, List.append_assoc,
    List.drop_left, List.take_left]

lemma slice? (h : StandsAt piece offset file.toList) :
    slice? file offset piece.length = some piece.toArray := by
  rw [Elf.slice?, if_pos h.end_le, h.extract]

end StandsAt

/-! ## Tables -/

lemma take_drop_flatten {pieces : List (List UInt8)} {size : ℕ}
    (hsize : ∀ piece ∈ pieces, piece.length = size) {i : ℕ} (hi : i < pieces.length) :
    (pieces.flatten.drop (i * size)).take size = pieces[i] := by
  induction pieces generalizing i with
  | nil => simp at hi
  | cons piece rest ih =>
    have hpiece : piece.length = size := hsize piece List.mem_cons_self
    have hrest : ∀ other ∈ rest, other.length = size := fun other hother =>
      hsize other (List.mem_cons_of_mem _ hother)
    cases i with
    | zero => rw [Nat.zero_mul, List.drop_zero, List.flatten_cons, List.take_left' hpiece]; rfl
    | succ i =>
      have hskip : (i + 1) * size = piece.length + i * size := by
        rw [hpiece, Nat.succ_mul, Nat.add_comm]
      rw [hskip, List.flatten_cons, List.drop_length_add_append, List.getElem_cons_succ]
      exact ih hrest (Nat.lt_of_succ_lt_succ hi)

/-- Pieces of one size are the records of what they make up. -/
lemma records_flatten {pieces : List (List UInt8)} {size : ℕ} (hpos : 0 < size)
    (hsize : ∀ piece ∈ pieces, piece.length = size) :
    records size pieces.flatten.toArray = pieces.map List.toArray := by
  have hlength : pieces.flatten.length = pieces.length * size := by
    rw [List.length_flatten, List.map_congr_left hsize, List.map_const', List.sum_replicate_nat]
  have hcount : pieces.flatten.toArray.size / size = pieces.length := by
    rw [List.size_toArray, hlength, Nat.mul_div_cancel _ hpos]
  rw [records, hcount]
  refine List.ext_getElem (by simp) fun i hi hi' => ?_
  rw [List.length_map] at hi'
  simp only [List.getElem_map, List.getElem_range, List.extract_toArray,
    List.extract_eq_take_drop, Nat.add_sub_cancel_left]
  rw [take_drop_flatten hsize hi']

/-- A table is read record by record. -/
lemma Tabled.read {α β : Type} {format : Format} {fields : α → List (ℕ × ℕ)} {decode : Bytes → β}
    {content : α → β} {size : ℕ}
    (hdecode : ∀ a, Fit (fields a) → decode (format.order.write (fields a)).toArray = content a)
    (hsize : ∀ a, (format.order.write (fields a)).length = size) (hpos : 0 < size) {xs : List α}
    {offset : ℕ} {file : Bytes} (h : Tabled format.order (xs.map fields) offset file) :
    ∃ table, slice? file offset (xs.length * size) = some table ∧
      (records size table).map decode = xs.map content := by
  obtain ⟨hfit, hstands⟩ := h
  have hslice := hstands.slice?
  rw [Format.length_flatMap_write hsize] at hslice
  have hpieces : ∀ piece ∈ xs.map fun a => format.order.write (fields a), piece.length = size := by
    rintro piece hpiece
    obtain ⟨a, -, rfl⟩ := List.mem_map.1 hpiece
    exact hsize a
  refine ⟨_, hslice, ?_⟩
  rw [List.flatMap_map, List.flatMap_def, records_flatten hpos hpieces, List.map_map, List.map_map]
  exact List.map_congr_left fun a ha => hdecode a (hfit _ (List.mem_map_of_mem ha))

/-! ## Headers -/

namespace Format

/-- The first bytes of a header identify the format, whatever the order of the bytes. -/
lemma write_fileHeaderFields (format : Format) (header : FileHeaderRecord) :
    ∃ rest, format.order.write (format.fileHeaderFields header) =
      [0x7f, 0x45, 0x4c, 0x46, UInt8.ofNat format.wordCode, UInt8.ofNat format.orderCode, 1] ++
        rest := by
  cases horder : format.order <;>
    exact ⟨_, by simp [fileHeaderFields, ByteOrder.write, ByteOrder.bytes, ByteOrder.littleBytes,
      orderCode, horder]; rfl⟩

end Format

/-- A file that begins with a header is read in the format of the header. -/
lemma readFormat_write (format : Format) (header : FileHeaderRecord) (rest : List UInt8) :
    readFormat (format.order.write (format.fileHeaderFields header) ++ rest).toArray =
      .ok format := by
  generalize hfile : (format.order.write (format.fileHeaderFields header) ++ rest).toArray = file
  have hlength : format.fileHeaderSize ≤ file.size := by
    rw [← hfile, List.size_toArray, List.length_append, Format.length_write_fileHeader]
    omega
  have hheader : ¬file.size < Format.fileHeaderSize ⟨format.word, .little⟩ := not_lt.2 hlength
  have hsize : ¬file.size < 16 := by
    have := format.le_fileHeaderSize
    omega
  obtain ⟨more, hmore⟩ := format.write_fileHeaderFields header
  rw [hmore] at hfile
  have hmagic : (file.extract 0 4).toList = [0x7f, 0x45, 0x4c, 0x46] := by simp [← hfile]
  have hword : file[4]? = some (UInt8.ofNat format.wordCode) := by simp [← hfile]
  have horder : file[5]? = some (UInt8.ofNat format.orderCode) := by simp [← hfile]
  have hversion : file[6]? = some 1 := by simp [← hfile]
  rw [readFormat, if_neg hsize, hmagic, hword, horder, hversion]
  obtain ⟨word, order⟩ := format
  cases word <;> cases order <;> simp [Format.wordCode, Format.orderCode, hheader]

namespace Layout.Fills

variable {layout : Layout} {format : Format} {file : Bytes}

lemma header_fit (h : layout.Fills format file) : Fit (format.fileHeaderFields layout.header) :=
  h.header_tabled.1 _ List.mem_cons_self

lemma exists_eq_write (h : layout.Fills format file) : ∃ rest,
    file = (format.order.write (format.fileHeaderFields layout.header) ++ rest).toArray := by
  obtain ⟨before, after, hfile, hbefore⟩ := h.header_tabled.2
  obtain rfl := List.eq_nil_of_length_eq_zero hbefore
  rw [List.nil_append, List.flatMap_singleton] at hfile
  exact ⟨after, by rw [← hfile, Array.toArray_toList]⟩

lemma readFormat_eq (h : layout.Fills format file) : readFormat file = .ok format := by
  obtain ⟨rest, rfl⟩ := h.exists_eq_write
  exact readFormat_write format layout.header rest

lemma fileHeader_eq (h : layout.Fills format file) :
    format.fileHeader file = layout.header.toFileHeader := by
  obtain ⟨rest, rfl⟩ := h.exists_eq_write
  exact Format.fileHeader_write h.header_fit rest

/-! ## Counts -/

lemma firstSection_eq (h : layout.Fills format file) :
    firstSection format file layout.header.toFileHeader =
      .ok (some layout.first.toSectionHeader) := by
  obtain ⟨hoffset, hentry, hfit, hstands⟩ := h.sections_tabled
  have hfirst : StandsAt (format.order.write (format.sectionHeaderFields layout.first))
      layout.header.sectionOffset file.toList := by
    rw [Layout.sections, List.map_cons, List.flatMap_cons] at hstands
    exact hstands.of_append
  have hslice := hfirst.slice?
  rw [format.length_write_sectionHeader] at hslice
  rw [firstSection, if_neg hoffset, if_neg (not_not_intro hentry), hslice]
  dsimp only
  rw [Format.sectionHeader_write (hfit _ (List.mem_map_of_mem List.mem_cons_self))]

lemma segmentCount_eq (h : layout.Fills format file) :
    segmentCount format file layout.header.toFileHeader = .ok layout.segments.length := by
  -- A field of two bytes does not exceed the mark.
  have hfit : layout.header.segmentCount < 0x10000 :=
    h.header_fit (2, layout.header.segmentCount) (by simp [Format.fileHeaderFields])
  rcases h.segments_noted with ⟨hcount, hmark⟩ | ⟨hmark, hfirst⟩
  · rw [segmentCount, if_pos (by omega), hcount]
  · rw [segmentCount, if_neg (by omega), h.firstSection_eq]
    exact congrArg _ hfirst

lemma sectionCount_eq (h : layout.Fills format file) :
    sectionCount format file layout.header.toFileHeader = .ok layout.sections.length := by
  rcases h.sections_noted with ⟨hcount, hmark⟩ | ⟨hmark, hfirst⟩
  · rw [sectionCount, if_pos (by omega), hcount]
  · rw [sectionCount, if_neg (not_not_intro hmark), h.firstSection_eq]
    exact congrArg _ hfirst

lemma nameSectionIndex_eq (h : layout.Fills format file) {index : ℕ}
    (hindex : Noted layout.header.nameSection 0xffff layout.first.link index) :
    nameSectionIndex format file layout.header.toFileHeader = .ok index := by
  rcases hindex with ⟨hname, hmark⟩ | ⟨hmark, hfirst⟩
  · rw [nameSectionIndex, if_pos (by omega), hname]
  · rw [nameSectionIndex, if_neg (not_not_intro hmark), h.firstSection_eq]
    exact congrArg _ hfirst

/-! ## Tables of headers -/

lemma readProgramHeaders_eq (h : layout.Fills format file) :
    readProgramHeaders format file layout.header.toFileHeader =
      .ok (layout.segments.map (·.toProgramHeader)) := by
  by_cases hnil : layout.segments = []
  · -- Without segments there may be a table offset or none; the count is 0 in both cases.
    rw [readProgramHeaders, h.segmentCount_eq, hnil]
    split <;> rfl
  · obtain ⟨hoffset, hentry, htabled⟩ := h.segments_tabled hnil
    obtain ⟨table, hslice, hread⟩ := htabled.read (fun _ => Format.programHeader_write)
      format.length_write_programHeader format.programHeaderSize_pos
    have hcount : layout.segments.length ≠ 0 := by simpa using hnil
    rw [readProgramHeaders, if_neg hoffset, h.segmentCount_eq]
    simp only [bind, Except.bind, if_neg hcount, if_neg (not_not_intro hentry)]
    rw [hslice]
    exact congrArg Except.ok hread

lemma readSectionHeaders_eq (h : layout.Fills format file) :
    readSectionHeaders format file layout.header.toFileHeader = .ok layout.sectionHeaders := by
  obtain ⟨hoffset, hentry, htabled⟩ := h.sections_tabled
  obtain ⟨table, hslice, hread⟩ := htabled.read (fun _ => Format.sectionHeader_write)
    format.length_write_sectionHeader format.sectionHeaderSize_pos
  have hcount : layout.sections.length ≠ 0 := Nat.succ_ne_zero _
  rw [readSectionHeaders, if_neg hoffset, h.sectionCount_eq]
  simp only [bind, Except.bind, if_neg hcount, if_neg (not_not_intro hentry)]
  rw [hslice]
  exact congrArg Except.ok hread

lemma checkNameSection_eq (h : layout.Fills format file) :
    checkNameSection format file layout.header.toFileHeader layout.sectionHeaders = .ok () := by
  obtain ⟨index, names, hindex, hnonzero, hget, -, hlies⟩ := h.names_noted
  have hend : ¬names.offset + names.size ≥ UInt64.size :=
    not_le.2 (lt_of_le_of_lt hlies h.size_lt)
  have hnonempty : ¬layout.sectionHeaders.isEmpty := by simp [sectionHeaders, Layout.sections]
  rw [checkNameSection, if_neg hnonempty, h.nameSectionIndex_eq hindex]
  simp only [bind, Except.bind, pure, Except.pure, if_neg hnonzero, hget]
  exact if_neg fun hwraps => hend hwraps.2

end Layout.Fills

/-! ## Sections -/

namespace SectionHeader

variable {format : Format} {file : Bytes} {sections : List SectionHeader} {s : SectionHeader}

lemma StringsAt.readStrings_eq {index : ℕ} {strings : SectionHeader}
    (h : StringsAt file sections index strings) (hsize : file.size < UInt64.size) :
    readStrings sections index = .ok (some ⟨strings.offset, strings.offset + strings.size⟩) := by
  obtain ⟨hindex, hget, htype, hlies⟩ := h
  have hend : ¬strings.offset + strings.size ≥ UInt64.size := not_le.2 (lt_of_le_of_lt hlies hsize)
  rw [readStrings, if_neg hindex, hget]
  dsimp only
  rw [if_neg (not_not_intro htype), if_neg hend]

/-- A section whose records come out even is read, wherever it lies in the file. -/
lemma LiesIn.exists_sectionRecords {size : ℕ} (h : s.LiesIn file) (heven : size ∣ s.size) :
    ∃ contents, sectionRecords? file size s = some contents := by
  by_cases hempty : s.size = 0
  · exact ⟨[], by rw [sectionRecords?, if_pos hempty]⟩
  · have hslice : slice? file s.offset s.size =
        some (file.extract s.offset (s.offset + s.size)) := by
      rw [slice?]
      exact if_pos h
    refine ⟨records size (file.extract s.offset (s.offset + s.size)), ?_⟩
    rw [sectionRecords?, if_neg hempty, hslice]
    exact if_pos (Nat.mod_eq_zero_of_dvd heven)

lemma checkExtendedIndices_eq (hsound : ∀ s ∈ sections, s.Sound format file sections)
    (index : ℕ) : checkExtendedIndices file sections index = .ok () := by
  refine if_pos (List.all_eq_true.2 fun s hs => ?_)
  by_cases htype : s.type = extendedIndexType
  · obtain ⟨hlies, heven⟩ := (hsound s hs).indices htype
    obtain ⟨contents, hcontents⟩ := hlies.exists_sectionRecords heven
    simp [hcontents]
  · simp [htype]

lemma forM_eq_ok {check : SectionHeader → Except ElfError Unit} {rest : List SectionHeader}
    (hcheck : ∀ s ∈ rest, check s = .ok ()) : rest.forM check = .ok () := by
  induction rest with
  | nil => rfl
  | cons s rest ih =>
    rw [List.forM_eq_forM, List.forM_cons, hcheck s List.mem_cons_self]
    exact ih fun other hother => hcheck other (List.mem_cons_of_mem _ hother)

lemma checkRelocations_eq (hsound : ∀ s ∈ sections, s.Sound format file sections) :
    checkRelocations sections = .ok () := by
  have hcheck (symbols : ℕ) : ∀ s ∈ sections, checkRelocation sections symbols s = .ok () := by
    intro s hs
    unfold checkRelocation
    split_ifs with hskip
    · rfl
    · simp only [Bool.or_eq_true, Bool.not_eq_true', decide_eq_true_eq, not_or] at hskip
      obtain ⟨⟨htype, -⟩, hinfo⟩ := hskip
      obtain ⟨target, htarget, hplain⟩ := (hsound s hs).relocations (by simpa using htype) hinfo
      rw [htarget]
      exact if_neg hplain
  exact forM_eq_ok fun s hs => hcheck _ s (List.mem_reverse.1 hs)

/-- The table of the first section of a type. -/
lemma readSymbolTable_eq {type : ℕ} (hsound : ∀ s ∈ sections, s.Sound format file sections)
    (hfind : sections.find? (·.type = type) = some s) {contents : List Bytes}
    (hcontents : sectionRecords? file format.symbolSize s = some contents)
    {strings : Option StringTable} (hstrings : readStrings sections s.link = .ok strings) :
    readSymbolTable format file sections type = .ok ⟨contents.map format.symbol, strings⟩ := by
  rw [List.find?_eq_bind_findIdx?_getElem?] at hfind
  obtain ⟨index, hindex, hget⟩ := Option.bind_eq_some_iff.1 hfind
  rw [readSymbolTable, hindex]
  dsimp only
  rw [hget]
  dsimp only
  rw [hcontents, hstrings]
  dsimp only
  rw [checkExtendedIndices_eq hsound]
  rfl

/-- Among sound sections every symbol table is read. -/
lemma exists_readSymbolTable {type : ℕ} (hsize : file.size < UInt64.size)
    (hsound : ∀ s ∈ sections, s.Sound format file sections)
    (htype : type = symbolTableType ∨ type = dynamicTableType) :
    ∃ table, readSymbolTable format file sections type = .ok table := by
  cases hfind : sections.find? (·.type = type) with
  | none =>
    have hnone : sections.findIdx? (·.type = type) = none :=
      List.findIdx?_eq_none_iff.2 (by simpa using hfind)
    exact ⟨⟨[], none⟩, by rw [readSymbolTable, hnone]⟩
  | some s =>
    have hs := List.mem_of_find?_eq_some hfind
    have hfound : s.type = type := by simpa using List.find?_some hfind
    obtain ⟨hlies, heven, hlink⟩ := (hsound s hs).symbols (by rwa [hfound])
    obtain ⟨contents, hcontents⟩ := hlies.exists_sectionRecords heven
    rcases hlink with hnone | ⟨strings, hstrings⟩
    · exact ⟨_, readSymbolTable_eq hsound hfind hcontents (if_pos hnone)⟩
    · exact ⟨_, readSymbolTable_eq hsound hfind hcontents (hstrings.readStrings_eq hsize)⟩

end SectionHeader

end CallTrace.Elf
