import Mathlib.Algebra.Ring.Nat
import Mathlib.Data.Finset.Basic
import Mathlib.Data.List.MinMax
import Mathlib.Order.Bounds.Basic
import CallTrace.Elf.Image

/-!
# Images of object files

A file is read in a fixed order that stops at the first defect; `Image.read_eq_ok_iff` lists what
has to go well, and what the image then consists of.

An image is moved as a whole, so what it exports depends on the bias in one place only, the
addresses.  This file takes the rest out: `Image.exported` lists the symbols that make exports, each
under its name, without any bias, and `Image.exports_eq` says that moving the image adds the bias to
the value of each and changes nothing else.

The link base is the page of the lowest loadable segment, whatever order the segments come in
(`Image.linkBase_toNat`).  Rounding down to a page is done with a mask of bits; in numbers it is a
division, and a multiple of the page size passes through it (`Address.pageStart_add_of_dvd`).
-/

namespace CallTrace

namespace Address

/-- Rounding down clears the last twelve bits. -/
lemma pageStart_toNat (a : Address) : a.pageStart.toNat = a.toNat / 0x1000 * 0x1000 := by
  have hmask : (~~~0xfff : Address).toNat = 2 ^ 64 - ((2 ^ 12 - 1) + 1) := rfl
  rw [pageStart, UInt64.toNat_and, hmask]
  refine Nat.eq_of_testBit_eq fun i => ?_
  rw [Nat.testBit_and, Nat.testBit_two_pow_sub_succ (by decide), Nat.testBit_two_pow_sub_one,
    show (0x1000 : ℕ) = 2 ^ 12 from rfl, Nat.testBit_mul_two_pow, Nat.testBit_div_two_pow]
  by_cases hpage : 12 ≤ i
  · by_cases hword : i < 64
    · simp [hpage, hword]
    · -- Beyond the word there is no bit on either side.
      have hbound : a.toNat < 2 ^ i :=
        lt_of_lt_of_le a.toNat_lt (Nat.pow_le_pow_right (by decide) (by omega))
      simp [hpage, Nat.testBit_lt_two_pow hbound]
  · have hlow : i < 12 := by omega
    simp [hpage, hlow]

/-- Moving an address by whole pages moves the start of its page as far. -/
lemma pageStart_add_of_dvd {bias : Address} (h : 0x1000 ∣ bias.toNat) (a : Address) :
    (bias + a).pageStart = bias + a.pageStart := by
  obtain ⟨pages, hpages⟩ := h
  have hbias := bias.toNat_lt
  rw [← UInt64.toNat_inj, pageStart_toNat, UInt64.toNat_add, UInt64.toNat_add, pageStart_toNat]
  omega

end Address

namespace Elf

/-! ## Numbers in a file -/

namespace ByteOrder

lemma ofLittle_lt (bytes : List UInt8) : ofLittle bytes < 256 ^ bytes.length := by
  induction bytes with
  | nil => simp [ofLittle]
  | cons b rest ih =>
    have hb : b.toNat < 256 := b.toNat_lt
    rw [ofLittle, List.length_cons, Nat.pow_succ]
    omega

lemma number_lt (order : ByteOrder) (bytes : List UInt8) :
    order.number bytes < 256 ^ bytes.length := by
  cases order with
  | little => exact ofLittle_lt bytes
  | big =>
    have h := ofLittle_lt bytes.reverse
    rwa [List.length_reverse] at h

end ByteOrder

namespace Format

/-- A field of a record holds no more than its bytes can. -/
lemma field_lt (format : Format) (record : Bytes) (offset width : ℕ) :
    format.field record offset width < 256 ^ width := by
  have hsize : (record.extract offset (offset + width)).toList.length ≤ width := by
    rw [Array.length_toList, Array.size_extract]
    omega
  exact lt_of_lt_of_le (format.order.number_lt _) (Nat.pow_le_pow_right (by decide) hsize)

lemma address_programHeader_lt (format : Format) (record : Bytes) :
    (format.programHeader record).address < UInt64.size := by
  cases hword : format.word with
  | bits32 =>
    rw [programHeader, hword]
    exact lt_trans (format.field_lt record 8 4) (by decide)
  | bits64 =>
    rw [programHeader, hword]
    exact format.field_lt record 16 8

end Format

/-! ## Reading -/

/-- A stage answers if the stages before it do. -/
lemma bind_eq_ok_iff {α β : Type} {stage : Except ElfError α} {next : α → Except ElfError β}
    {b : β} : (stage >>= next) = .ok b ↔ ∃ a, stage = .ok a ∧ next a = .ok b := by
  cases stage <;> simp [bind, Except.bind]

/-- Every program header comes from a record. -/
lemma exists_record_of_readProgramHeaders {format : Format} {file : Bytes} {header : FileHeader}
    {segments : List ProgramHeader} (h : readProgramHeaders format file header = .ok segments)
    {segment : ProgramHeader} (hsegment : segment ∈ segments) :
    ∃ record, format.programHeader record = segment := by
  unfold readProgramHeaders at h
  split at h
  · cases h
    simp at hsegment
  · obtain ⟨count, -, h⟩ := bind_eq_ok_iff.1 h
    split at h
    · cases h
      simp at hsegment
    · dsimp only at h
      split at h
      · cases h
      · split at h
        · cases h
        · cases h
          obtain ⟨record, -, hrecord⟩ := List.mem_map.1 hsegment
          exact ⟨record, hrecord⟩

/-- The program headers of a file, in the order in which they stand there. -/
def ListsSegments (file : Bytes) (segments : List ProgramHeader) : Prop :=
  ∃ format, readFormat file = .ok format ∧
    readProgramHeaders format file (format.fileHeader file) = .ok segments

/-- The link-time addresses of the segments that are loaded. -/
def loadAddresses (segments : List ProgramHeader) : List ℕ :=
  (segments.filter (·.type = loadSegment)).map (·.address)

lemma lt_of_mem_loadAddresses {file : Bytes} {segments : List ProgramHeader}
    (h : ListsSegments file segments) {address : ℕ} (haddress : address ∈ loadAddresses segments) :
    address < UInt64.size := by
  obtain ⟨format, -, hsegments⟩ := h
  obtain ⟨segment, hsegment, rfl⟩ := List.mem_map.1 haddress
  obtain ⟨record, rfl⟩ :=
    exists_record_of_readProgramHeaders hsegments (List.mem_of_mem_filter hsegment)
  exact format.address_programHeader_lt record

namespace Image

/-- What has to go well for a file to be read, and what is kept of it. -/
lemma read_eq_ok_iff {file : Bytes} {image : Image} :
    read file = .ok image ↔
      ∃ format segments sections static dynamic, readFormat file = .ok format ∧
        readProgramHeaders format file (format.fileHeader file) = .ok segments ∧
        readSectionHeaders format file (format.fileHeader file) = .ok sections ∧
        checkNameSection format file (format.fileHeader file) sections = .ok () ∧
        readSymbolTable format file sections symbolTableType = .ok static ∧
        readSymbolTable format file sections dynamicTableType = .ok dynamic ∧
        checkRelocations sections = .ok () ∧
        image = ⟨file, (loadAddresses segments).map UInt64.ofNat, dynamic⟩ := by
  have hmap (segments : List ProgramHeader) : (loadAddresses segments).map UInt64.ofNat =
      (segments.filter (·.type = loadSegment)).map (UInt64.ofNat ·.address) := List.map_map
  simp only [read, bind_eq_ok_iff, hmap]
  constructor
  · rintro ⟨format, hformat, segments, hsegments, sections, hsections, _, hnames, static, hstatic,
      dynamic, hdynamic, _, hrelocations, himage⟩
    exact ⟨format, segments, sections, static, dynamic, hformat, hsegments, hsections, hnames,
      hstatic, hdynamic, hrelocations, (Except.ok.inj himage).symm⟩
  · rintro ⟨format, segments, sections, static, dynamic, hformat, hsegments, hsections, hnames,
      hstatic, hdynamic, hrelocations, rfl⟩
    exact ⟨format, hformat, segments, hsegments, sections, hsections, _, hnames, static, hstatic,
      dynamic, hdynamic, _, hrelocations, rfl⟩

lemma ofFile_eq_ok_iff {tree : FileTree} {path : String} {image : Image} :
    ofFile tree path = .ok image ↔
      ∃ file, tree.contents path = .ok file ∧ read file = .ok image := by
  unfold ofFile
  cases tree.contents path with
  | error cause => simp
  | ok file =>
    simp only [Except.ok.injEq, exists_eq_left']
    cases read file <;> simp

lemma file_eq_of_read {file : Bytes} {image : Image} (h : read file = .ok image) :
    image.file = file := by
  obtain ⟨_, _, _, _, _, -, -, -, -, -, -, -, rfl⟩ := read_eq_ok_iff.1 h
  rfl

/-- The segments of an image are those that its file lists. -/
lemma segments_eq_of_read {file : Bytes} {image : Image} (h : read file = .ok image)
    {segments : List ProgramHeader} (hsegments : ListsSegments file segments) :
    image.segments = (loadAddresses segments).map UInt64.ofNat := by
  obtain ⟨format, hformat, hlisted⟩ := hsegments
  obtain ⟨format', segments', _, _, _, hformat', hlisted', -, -, -, -, -, rfl⟩ :=
    read_eq_ok_iff.1 h
  obtain rfl : format = format' := Except.ok.inj (hformat.symm.trans hformat')
  obtain rfl : segments = segments' := Except.ok.inj (hlisted.symm.trans hlisted')
  rfl

variable {image : Image}

/-! ## The link base -/

/-- The link base is the page of the lowest loadable segment. -/
lemma linkBase_toNat {addresses : List ℕ}
    (hsegments : image.segments = addresses.map UInt64.ofNat)
    (hlt : ∀ address ∈ addresses, address < UInt64.size) :
    image.linkBase.toNat = addresses.min?.getD 0 / 0x1000 * 0x1000 := by
  have hmin : image.segments.min? = addresses.min?.map UInt64.ofNat := by
    cases hlowest : addresses.min? with
    | none =>
      rw [List.min?_eq_none_iff] at hlowest
      rw [hsegments, hlowest]
      rfl
    | some lowest =>
      obtain ⟨hmem, hle⟩ := List.min?_eq_some_iff.1 hlowest
      rw [hsegments, Option.map_some, List.min?_eq_some_iff]
      refine ⟨List.mem_map_of_mem hmem, fun other hother => ?_⟩
      obtain ⟨address, haddress, rfl⟩ := List.mem_map.1 hother
      rw [UInt64.le_iff_toNat_le, UInt64.toNat_ofNat_of_lt' (hlt lowest hmem),
        UInt64.toNat_ofNat_of_lt' (hlt address haddress)]
      exact hle address haddress
  rw [linkBase, Address.pageStart_toNat, hmin]
  cases hlowest : addresses.min? with
  | none => rfl
  | some lowest =>
    have hmem := (List.min?_eq_some_iff.1 hlowest).1
    rw [Option.map_some, Option.getD_some, Option.getD_some,
      UInt64.toNat_ofNat_of_lt' (hlt lowest hmem)]

/-! ## Exports -/

/-- The name under which a symbol is exported, if it is: the symbol has to be defined and not local,
and its name has to be readable and not empty. -/
def exportedName? (image : Image) (symbol : Symbol) : Option String :=
  if symbol.definedIn = 0 ∨ symbol.binding = 0 then none
  else (image.nameOf? symbol).filter (· ≠ "")

/-- The symbols that are exported, in their order and each under its name. -/
def exported (image : Image) : List (String × Symbol) :=
  (image.dynamic.symbols.drop 1).filterMap fun symbol =>
    (image.exportedName? symbol).map fun name => (name, symbol)

end Image

/-- The export of a symbol in a module that is moved by `bias`. -/
def Symbol.exportAs (symbol : Symbol) (name : String) (bias : Address) : Export :=
  ⟨name, UInt64.ofNat symbol.value + bias, Image.kindOf symbol⟩

namespace Image

lemma export?_eq (image : Image) (bias : Address) (symbol : Symbol) :
    image.export? bias symbol =
      (image.exportedName? symbol).map fun name => symbol.exportAs name bias := by
  unfold export? exportedName?
  split
  · rfl
  · split <;> rename_i hname <;> simp_all [Symbol.exportAs, Option.filter]

/-- Moving an image adds the bias to the value of each symbol. -/
lemma exports_eq (image : Image) (bias : Address) :
    image.exports bias = image.exported.map fun (name, symbol) => symbol.exportAs name bias := by
  rw [exports, exported, List.map_filterMap]
  refine List.filterMap_congr fun symbol _ => ?_
  rw [export?_eq, Option.map_map]
  rfl

end Image

end Elf

end CallTrace
