import CallTrace.Proofs.ObjectAssembly
import CallTrace.Proofs.ObjectReading

/-!
# Exports of laid-out files

A file that lays out symbols exports those of them that are defined, not local and named, in their
order and moved by the bias (`exports_of_laysOut`).

Each symbol is judged by its own record (`SymbolRecord.Holds.export?_eq`), so a symbol whose name is
lost takes no other one with it.  That a name is found rests on UTF-8: no byte of an encoded
character is null, unless the character is (`zero_notMem_utf8EncodeChar`), so the first null byte is
the one behind the name.
-/

namespace CallTrace.Elf

/-! ## Names -/

/-- Only the null character has a null byte. -/
lemma zero_notMem_utf8EncodeChar {c : Char} (h : c ≠ '\x00') : 0 ∉ String.utf8EncodeChar c := by
  have hval : c.val.toNat ≠ 0 := fun hzero => h (Char.ext (UInt32.toNat_inj.1 hzero))
  intro hmem
  rw [String.utf8EncodeChar] at hmem
  -- Every byte of a longer encoding has its high bit set.
  generalize c.val.toNat = v at hval hmem
  split_ifs at hmem <;> simp [← UInt8.toNat_inj] at hmem <;> omega

lemma zero_notMem_nameBytes {name : String} (h : '\x00' ∉ name.toList) : 0 ∉ nameBytes name := by
  rw [nameBytes, String.toUTF8_eq_toByteArray, ← String.utf8Encode_toList, List.utf8Encode,
    List.data_toByteArray, List.mem_flatMap]
  rintro ⟨c, hc, hzero⟩
  exact zero_notMem_utf8EncodeChar (fun hnull => h (hnull ▸ hc)) hzero

lemma fromUTF8?_nameBytes (name : String) :
    String.fromUTF8? ⟨(nameBytes name).toArray⟩ = some name := by
  rw [nameBytes, Array.toArray_toList, String.fromUTF8?]
  exact dif_pos name.isValidUTF8

namespace Image

variable {image : Image} {strings : List UInt8} {start : ℕ} {symbol : Symbol}

/-- The name of a symbol is the text up to the first null byte from its place on. -/
lemma nameOf?_of_standsAt
    (hstrings : image.dynamic.strings = some ⟨start, start + strings.length⟩)
    (hplace : StandsAt strings start image.file.toList) {name : String}
    (hname : StandsAt (nameBytes name ++ [0]) symbol.name strings)
    (hnul : '\x00' ∉ name.toList) : image.nameOf? symbol = some name := by
  obtain ⟨before, after, hcut, hbefore⟩ := hname
  -- The slice that is searched goes on to the end of the strings.
  have hrest : StandsAt (nameBytes name ++ 0 :: after) symbol.name strings :=
    ⟨before, [], by simp [hcut], hbefore⟩
  have hlength : symbol.name + (nameBytes name ++ 0 :: after).length = strings.length := by
    simp [hcut, hbefore]
  have hextract := (hrest.trans hplace).extract
  rw [Nat.add_assoc, hlength] at hextract
  have htake : (nameBytes name ++ 0 :: after).takeWhile (· ≠ 0) = nameBytes name := by
    have hkept : ∀ b ∈ nameBytes name, decide (b ≠ 0) = true := fun b hb =>
      decide_eq_true fun hzero => zero_notMem_nameBytes hnul (hzero ▸ hb)
    rw [List.takeWhile_append_of_pos hkept]
    simp
  have hinside : start + symbol.name ≤ start + strings.length ∧
      start + strings.length ≤ image.file.size := ⟨by omega, hplace.end_le⟩
  rw [nameOf?, hstrings]
  simp only [Option.bind_eq_bind, Option.bind_some]
  rw [if_pos hinside, hextract, List.takeWhile_toArray, htake, List.size_toArray,
    List.size_toArray, if_pos (by simp)]
  exact fromUTF8?_nameBytes name

/-- A name that begins beyond the strings cannot be read. -/
lemma nameOf?_of_le (hstrings : image.dynamic.strings = some ⟨start, start + strings.length⟩)
    (hname : strings.length ≤ symbol.name) : image.nameOf? symbol = none := by
  rw [nameOf?, hstrings]
  simp only [Option.bind_eq_bind, Option.bind_some]
  split_ifs with hinside hshort
  · -- Only the end of the strings is left, where nothing follows.
    rw [Array.extract_empty_of_stop_le_start (by omega)] at hshort
    simp at hshort
  · rfl
  · rfl

end Image

/-! ## Exports -/

namespace SymbolRecord.Holds

variable {record : SymbolRecord} {strings : List UInt8} {lost : Prop} {symbol : DynamicSymbol}

lemma binding_eq (h : record.Holds strings lost symbol) :
    record.binding = symbol.binding.toNat := by
  have htype := symbol.type.isLt
  rw [Symbol.binding, h.info]
  omega

lemma type_eq (h : record.Holds strings lost symbol) : record.toSymbol.type = symbol.type.toNat := by
  have htype := symbol.type.isLt
  rw [Symbol.type, h.info]
  omega

lemma kindOf_eq (h : record.Holds strings lost symbol) :
    Image.kindOf record.toSymbol = symbol.kind := by
  simp only [Image.kindOf, DynamicSymbol.kind, h.type_eq, indirectFunctionType, functionType,
    ← BitVec.toNat_inj]
  rfl

lemma skipped_iff (h : record.Holds strings lost symbol) :
    record.definedIn = 0 ∨ record.binding = 0 ↔ symbol.definedIn = 0 ∨ symbol.binding = 0 := by
  rw [h.definedIn, h.binding_eq, ← UInt16.toNat_inj, ← BitVec.toNat_inj]
  rfl

variable {image : Image} {start : ℕ}

/-- A record makes the export of its symbol, unless the name is lost. -/
lemma export?_eq [Decidable lost] (h : record.Holds strings lost symbol)
    (hstrings : image.dynamic.strings = some ⟨start, start + strings.length⟩)
    (hplace : StandsAt strings start image.file.toList) (bias : Address) :
    image.export? bias record.toSymbol =
      if ¬lost ∧ symbol.IsExported then some (symbol.exportAt bias) else none := by
  rw [Image.export?_eq, Image.exportedName?]
  by_cases hskipped : symbol.definedIn = 0 ∨ symbol.binding = 0
  · have hunexported : ¬symbol.IsExported := fun ⟨hdefined, hbinding, _⟩ =>
      hskipped.elim hdefined hbinding
    rw [if_pos (h.skipped_iff.2 hskipped), if_neg fun hexported => hunexported hexported.2]
    rfl
  · rw [if_neg (mt h.skipped_iff.1 hskipped)]
    by_cases hlost : lost
    · rw [Image.nameOf?_of_le hstrings (h.lost hlost), if_neg fun hexported => hexported.1 hlost]
      rfl
    · rw [Image.nameOf?_of_standsAt hstrings hplace (h.name hlost) symbol.nul_notMem]
      have hexported : symbol.IsExported ↔ symbol.name ≠ "" := by
        obtain ⟨hdefined, hbinding⟩ := not_or.1 hskipped
        exact ⟨fun h => h.2.2, fun hname => ⟨hdefined, hbinding, hname⟩⟩
      have hsame : record.exportAs symbol.name bias = symbol.exportAt bias := by
        rw [Symbol.exportAs, DynamicSymbol.exportAt, h.value, h.kindOf_eq]
      by_cases hname : symbol.name = "" <;> simp [hname, hlost, hexported, hsame]

end SymbolRecord.Holds

/-- Records make the exports of their symbols, in the same order. -/
lemma filterMap_export? {image : Image} {strings : List UInt8} {start : ℕ}
    (hstrings : image.dynamic.strings = some ⟨start, start + strings.length⟩)
    (hplace : StandsAt strings start image.file.toList) (bias : Address) {lost : Finset ℕ}
    {records : List SymbolRecord} {symbols : List (DynamicSymbol × ℕ)}
    (h : List.Forall₂ (fun record (symbol, i) => record.Holds strings (i ∈ lost) symbol)
      records symbols) :
    records.filterMap (fun record => image.export? bias record.toSymbol) =
      (((symbols.filter fun (_, i) => i ∉ lost).map (·.1)).filter (·.IsExported)).map
        (·.exportAt bias) := by
  induction h with
  | nil => rfl
  | @cons record symbol records symbols hholds _ ih =>
    rw [List.filterMap_cons, hholds.export?_eq hstrings hplace bias, ih]
    by_cases hlost : symbol.2 ∈ lost
    · simp [hlost]
    · by_cases hexported : symbol.1.IsExported <;> simp [hlost, hexported]

/-! ## Images -/

/-- What is read from a file that fills a layout. -/
lemma Layout.Fills.exists_read {layout : Layout} {format : Format} {file : Bytes}
    (h : layout.Fills format file) :
    ∃ image start, Image.read file = .ok image ∧ StandsAt layout.strings start image.file.toList ∧
      image.segments =
        (loadAddresses (layout.segments.map (·.toProgramHeader))).map UInt64.ofNat ∧
      image.dynamic =
        ⟨layout.entries.map (·.toSymbol), some ⟨start, start + layout.strings.length⟩⟩ := by
  obtain ⟨dynamic, strings, hfind, hsize, htabled, hstrings, hlength, hplace⟩ := h.dynamic_listed
  obtain ⟨static, hstatic⟩ :=
    SectionHeader.exists_readSymbolTable h.size_lt h.sections_sound (Or.inl rfl)
  obtain ⟨table, hslice, hread⟩ := htabled.read (fun _ => Format.symbol_write)
    format.length_write_symbol format.symbolSize_pos
  have hcontents : sectionRecords? file format.symbolSize dynamic =
      some (records format.symbolSize table) := by
    have hpos : 0 < layout.entries.length * format.symbolSize :=
      Nat.mul_pos (Nat.succ_pos _) format.symbolSize_pos
    rw [sectionRecords?, if_neg (by omega), hsize, hslice]
    exact if_pos (Nat.mul_mod_left _ _)
  have hdynamic := SectionHeader.readSymbolTable_eq h.sections_sound hfind hcontents
    (hstrings.readStrings_eq h.size_lt)
  rw [hread, hlength] at hdynamic
  refine ⟨_, strings.offset, Image.read_eq_ok_iff.2 ⟨format, _, _, static, _, h.readFormat_eq, ?_,
    ?_, ?_, hstatic, hdynamic, SectionHeader.checkRelocations_eq h.sections_sound, rfl⟩, hplace, rfl,
    rfl⟩
  · rw [h.fileHeader_eq, h.readProgramHeaders_eq]
  · rw [h.fileHeader_eq, h.readSectionHeaders_eq]
  · rw [h.fileHeader_eq, h.checkNameSection_eq]

/-- The image of a file that lays out symbols and segments. -/
lemma LaysOut.exists_image {format : Format} {addresses : List ℕ} {symbols : List DynamicSymbol}
    {lost : Finset ℕ} {file : Bytes} (hlaid : LaysOut format addresses symbols lost file)
    {tree : FileTree} {path : String} (hcontents : tree.contents path = .ok file) :
    ∃ image segments, Image.ofFile tree path = .ok image ∧ ListsSegments image.file segments ∧
      loadAddresses segments = addresses ∧ image.segments = addresses.map UInt64.ofNat ∧
      ∀ bias, image.exports bias =
        ((remaining lost symbols).filter (·.IsExported)).map (·.exportAt bias) := by
  obtain ⟨layout, hfills, rfl, hholds⟩ := hlaid
  obtain ⟨image, start, hread, hplace, hsegments, hdynamic⟩ := hfills.exists_read
  obtain rfl := Image.file_eq_of_read hread
  refine ⟨image, layout.segments.map (·.toProgramHeader),
    Image.ofFile_eq_ok_iff.2 ⟨image.file, hcontents, hread⟩,
    ⟨format, hfills.readFormat_eq, by rw [hfills.fileHeader_eq, hfills.readProgramHeaders_eq]⟩,
    rfl, hsegments, fun bias => ?_⟩
  rw [Image.exports, hdynamic, Layout.entries, List.map_cons, List.drop_succ_cons,
    List.drop_zero, List.filterMap_map]
  exact filterMap_export? (by rw [hdynamic]) hplace bias hholds

/-- **Reading gives back what was laid out.**  A file that lays out symbols and loadable segments
can be read.  Its link base is the page of the lowest segment, or 0 without segments, and under
every bias it exports the symbols that are to be exported, in their order.  Only those are missing
whose names are lost; they do not affect the others. -/
theorem exports_of_laysOut (format : Format) (addresses : List ℕ) (symbols : List DynamicSymbol)
    (lost : Finset ℕ) (file : Bytes) (tree : FileTree) (path : String)
    (hlaid : LaysOut format addresses symbols lost file)
    (hcontents : tree.contents path = .ok file) :
    ∃ image, Image.ofFile tree path = .ok image ∧
      image.linkBase.toNat = addresses.min?.getD 0 / 0x1000 * 0x1000 ∧
      ∀ bias, image.exports bias =
        ((remaining lost symbols).filter (·.IsExported)).map (·.exportAt bias) := by
  obtain ⟨image, segments, hopen, hlisted, rfl, hsegments, hexports⟩ := hlaid.exists_image hcontents
  exact ⟨image, hopen, image.linkBase_toNat hsegments fun _ => lt_of_mem_loadAddresses hlisted,
    hexports⟩

namespace Mixed

/-- A symbol of each kind that matters: exported functions and data, a local and an undefined
symbol, the resolver of a function, one without a name, and one whose name will be lost. -/
def symbols : List DynamicSymbol := [
  ⟨"open", 1, 2, 7, 0x8001500, by decide⟩,
  ⟨"λ", 2, 1, 9, 0xffffffff, by decide⟩,
  ⟨"helper", 0, 2, 7, 0x8001600, by decide⟩,
  ⟨"errno", 1, 6, 0, 0x8001700, by decide⟩,
  ⟨"memcpy", 1, 10, 7, 0x10, by decide⟩,
  ⟨"", 1, 2, 7, 0x8001800, by decide⟩,
  ⟨"forgotten", 1, 2, 7, 0x8001900, by decide⟩]

/-- Segments that do not stand in order. -/
def addresses : List ℕ := [0x8048000, 0x8001234, 0xfffff000]

def file : Bytes := assemble ⟨.bits32, .big⟩ addresses symbols {6}

def tree : FileTree := .ofList [("/lib/libmixed.so", some file)]

end Mixed

open Mixed in
/-- Three of the symbols are exported, each for its own kind of address. -/
theorem exports_of_mixed_symbols :
    ∃ image, Image.ofFile tree "/lib/libmixed.so" = .ok image ∧
      image.linkBase.toNat = 0x8001000 ∧
      ∀ bias, image.exports bias = [⟨"open", 0x8001500 + bias, .code⟩,
        ⟨"λ", 0xffffffff + bias, .data⟩, ⟨"memcpy", 0x10 + bias, .indirect⟩] := by
  have hlaid : LaysOut ⟨.bits32, .big⟩ addresses symbols {6} file :=
    assemble_laysOut (by decide +kernel) (by decide) (by decide)
  obtain ⟨image, hopen, hbase, hexports⟩ :=
    exports_of_laysOut _ addresses symbols {6} file tree "/lib/libmixed.so" hlaid rfl
  exact ⟨image, hopen, hbase, hexports⟩

end CallTrace.Elf
