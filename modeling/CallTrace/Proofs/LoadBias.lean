import CallTrace.Proofs.Attribution
import CallTrace.Proofs.LaidOutExports
import CallTrace.Proofs.SnapshotPlan

/-!
# The bias of a loaded file

A loader moves a file by a bias of whole pages: what the file has at an address of its own stands in
the process at that address plus the bias, in words that wrap.  A snapshot does not know the bias.
It takes the difference between the start of the mapping that shows the beginning of the file and
the link base of the file.

`exports_at_load_bias` says that this is the loader's bias, whatever it is and wherever the file was
linked.  The only premise about the process is that its first mapping of the file's beginning starts
at the page that the loader gives to the lowest loadable segment.  Other lines of the text, and the
order of the program headers, do not matter; nor does it matter where in the file the segment
begins, since the page of the mapping is given.
-/

namespace CallTrace

/-! ## Files that can be read -/

namespace Elf

lemma readFormat_error_of_magic_ne {file : Bytes} (h : (file.extract 0 4).toList ≠ objectMagic)
    (format : Format) : readFormat file ≠ .ok format := by
  have hmagic : (file.extract 0 4).toList ≠ [0x7f, 0x45, 0x4c, 0x46] := h
  by_cases hsize : file.size < 16
  · rw [readFormat, if_pos hsize]
    simp
  · rw [readFormat, if_neg hsize, if_pos hmagic]
    simp

end Elf

/-- A file that can be read is an object file. -/
lemma FileTree.isObjectFile_of_ofFile {tree : FileTree} {path : String} {image : Elf.Image}
    (h : Elf.Image.ofFile tree path = .ok image) : tree.isObjectFile path := by
  obtain ⟨file, hfile, hread⟩ := Elf.Image.ofFile_eq_ok_iff.1 h
  obtain ⟨format, -, -, -, -, hformat, -⟩ := Elf.Image.read_eq_ok_iff.1 hread
  have hresolve : tree.resolve path = .ok (.file file) := by
    unfold contents at hfile
    split at hfile <;> simp_all
  rw [isObjectFile, hresolve]
  by_contra hmagic
  exact Elf.readFormat_error_of_magic_ne (by simpa using hmagic) format hformat

/-! ## Snapshots of a text -/

namespace Snapshot

/-- The modules of a snapshot are those of a text, where files that are no object files may have been
left out. -/
def Captures (snapshot : Snapshot) (text : String) : Prop :=
  snapshot.modules = MappedModule.ofText text ∨
    snapshot.modules =
      (MappedModule.retainObjectFiles snapshot.files (MappedModule.ofText text)).1

namespace Captures

variable {snapshot : Snapshot} {text : String}

lemma mem_of_isObjectFile (h : snapshot.Captures text) {mapped : MappedModule}
    (hmapped : mapped ∈ MappedModule.ofText text)
    (hfile : snapshot.files.isObjectFile mapped.path) : mapped ∈ snapshot.modules := by
  rcases h with h | h
  · rwa [h]
  · rw [h, MappedModule.retainObjectFiles, List.partition_eq_filter_filter]
    exact List.mem_filter.2 ⟨hmapped, hfile⟩

lemma sublist (h : snapshot.Captures text) :
    snapshot.modules.Sublist (MappedModule.ofText text) := by
  rcases h with h | h
  · rw [h]
  · rw [h, MappedModule.retainObjectFiles, List.partition_eq_filter_filter]
    exact List.filter_sublist

end Captures

/-- Of a file that is mapped and can be read there is exactly one module. -/
lemma exists_unique_module {snapshot : Snapshot} {text path : String} {mappings : List Mapping}
    (hcaptures : snapshot.Captures text)
    (hlisted : Mapping.Listed (Text.lines text.toList) mappings)
    (hfile : snapshot.files.isObjectFile path) (hmapped : ∃ mapping ∈ mappings, mapping.path = path) :
    ∃ mapped handle, snapshot.modules[handle]? = some mapped ∧ mapped.path = path ∧
      mapped.base = Mapping.firstBase? mappings path ∧
      ∀ other ∈ snapshot.reported, other.path = some path → other = moduleOf mapped handle := by
  have hgrouped : MappedModule.GroupedFrom mappings (MappedModule.ofText text) := by
    rw [MappedModule.ofText, Mapping.listed_iff.1 hlisted]
    exact MappedModule.groupedFrom_ofMappings mappings
  obtain ⟨mapped, hmem, rfl⟩ := List.mem_map.1 (hgrouped.mem_paths.2 hmapped)
  obtain ⟨handle, hhandle, hget⟩ :=
    List.mem_iff_getElem.1 (hcaptures.mem_of_isObjectFile hmem hfile)
  refine ⟨mapped, handle, List.getElem?_eq_some_iff.2 ⟨hhandle, hget⟩, rfl,
    (hgrouped.spans mapped hmem).base, fun other hother hpath => ?_⟩
  -- Two modules of one file would stand at two places of a list without repetitions.
  obtain ⟨handle', hhandle', rfl⟩ := List.mem_mapIdx.1 hother
  have hnodup : (snapshot.modules.map (·.path)).Nodup :=
    hgrouped.nodup.sublist (hcaptures.sublist.map _)
  have hsame : handle' = handle := by
    refine (List.getElem?_inj (by simpa using hhandle') hnodup).1 ?_
    rw [List.getElem?_map, List.getElem?_map, List.getElem?_eq_getElem hhandle',
      List.getElem?_eq_getElem hhandle, hget]
    exact hpath
  subst hsame
  rw [hget]

end Snapshot

/-! ## The bias -/

/-- The difference between the loader's page of the lowest segment and the link base is the
loader's bias. -/
lemma Elf.Image.loadBias_eq {image : Image} {segments : List ProgramHeader} {lowest : ℕ}
    {bias : Address} (hsegments : image.segments = (loadAddresses segments).map UInt64.ofNat)
    (hlt : ∀ address ∈ loadAddresses segments, address < UInt64.size)
    (hlowest : IsLeast {address | address ∈ loadAddresses segments} lowest)
    (hbias : 0x1000 ∣ bias.toNat) :
    image.loadBias (bias + UInt64.ofNat lowest).pageStart = bias := by
  have hmin : (loadAddresses segments).min? = some lowest :=
    List.min?_eq_some_iff.2 ⟨hlowest.1, fun address haddress => hlowest.2 haddress⟩
  have hbase : image.linkBase = Address.pageStart (UInt64.ofNat lowest) := by
    rw [← UInt64.toNat_inj, linkBase_toNat hsegments hlt, hmin, Address.pageStart_toNat,
      UInt64.toNat_ofNat_of_lt' (hlt lowest hlowest.1), Option.getD_some]
  rw [loadBias, hbase, Address.pageStart_add_of_dvd hbias, UInt64.add_sub_cancel]

open Elf in
/-- **Exports stand where the loader put them.**  Take a file that can be read and a bias of whole
pages, and let the first line that maps the file's beginning start at the page to which the bias
moves the lowest loadable segment.  Then the file has one module, and the engine lists its exports,
each at the value of its symbol plus the bias. -/
theorem exports_at_load_bias (snapshot : Snapshot) (text path : String) (mappings : List Mapping)
    (image : Image) (segments : List ProgramHeader) (lowest : ℕ) (bias : Address)
    (hcaptures : snapshot.Captures text)
    (hlisted : Mapping.Listed (Text.lines text.toList) mappings)
    (hopen : Image.ofFile snapshot.files path = .ok image)
    (hsegments : ListsSegments image.file segments)
    (hlowest : IsLeast {address | address ∈ loadAddresses segments} lowest)
    (hbias : 0x1000 ∣ bias.toNat)
    (hbase : Mapping.firstBase? mappings path = some (bias + UInt64.ofNat lowest).pageStart) :
    ∃ m ∈ snapshot.reported, m.path = some path ∧
      (∀ other ∈ snapshot.reported, other.path = some path → other = m) ∧
      snapshot.engine.exports m =
        .ok (image.exported.map fun (name, symbol) => symbol.exportAs name bias) := by
  obtain ⟨file, hfile, hread⟩ := Image.ofFile_eq_ok_iff.1 hopen
  obtain rfl := Image.file_eq_of_read hread
  have hmapped : ∃ mapping ∈ mappings, mapping.path = path := by
    obtain ⟨mapping, hfirst, -⟩ := Option.map_eq_some_iff.1 hbase
    have hfound := List.find?_some hfirst
    simp only [decide_eq_true_eq] at hfound
    exact ⟨mapping, List.mem_of_find?_eq_some hfirst, hfound.1⟩
  obtain ⟨mapped, handle, hget, hpath, hbase', hunique⟩ :=
    Snapshot.exists_unique_module hcaptures hlisted (FileTree.isObjectFile_of_ofFile hopen) hmapped
  obtain ⟨hhandle, hmem⟩ := List.getElem?_eq_some_iff.1 hget
  refine ⟨Snapshot.moduleOf mapped handle, List.mem_mapIdx.2 ⟨handle, hhandle, by rw [hmem]⟩,
    congrArg some hpath, hunique, ?_⟩
  rw [Snapshot.engine_exports_moduleOf hget, Snapshot.exportsOf, hpath, hopen, hbase', hbase,
    Except.map, Option.elim_some, Image.exports_eq,
    Image.loadBias_eq (Image.segments_eq_of_read hread hsegments)
      (fun _ haddress => lt_of_mem_loadAddresses hsegments haddress) hlowest hbias]

namespace Wrapping

open Elf

def symbols : List DynamicSymbol := [
  ⟨"low", 1, 2, 1, 0x2040, by decide⟩, ⟨"high", 1, 2, 1, 0x5010, by decide⟩]

/-- A library whose lowest segment is not its first. -/
def library : Bytes := assemble ⟨.bits64, .little⟩ [0x5000, 0x2000] symbols ∅

/-- The library is moved by three pages less than the address space.  The line with its data comes
first, but does not show its beginning. -/
def lines : List String := [
  "1000-2000 r-xp 00000000 00:00 0 /usr/bin/app",
  "2000-3000 rw-p 00003000 00:00 0 /lib/libwrap.so",
  "fffffffffffff000-ffffffffffffffff r-xp 00000000 00:00 0 /lib/libwrap.so"]

def text : String := String.ofList (lines.flatMap fun line => line.toList ++ ['\n'])

def mappings : List Mapping := [⟨0x1000, 0x2000, 0, "/usr/bin/app"⟩,
  ⟨0x2000, 0x3000, 0x3000, "/lib/libwrap.so"⟩,
  ⟨0xfffffffffffff000, 0xffffffffffffffff, 0, "/lib/libwrap.so"⟩]

lemma listed : Mapping.Listed (Text.lines text.toList) mappings := by
  rw [Mapping.listed_iff, text, String.toList_ofList]
  decide +kernel

def snapshot : Snapshot where
  pid := 1
  files := .ofList [("/lib/libwrap.so", some library)]
  modules := MappedModule.ofText text
  exe := some "/usr/bin/app"

lemma captures : snapshot.Captures text := by
  left
  rw [snapshot]

lemma isLeast : IsLeast {address | address ∈ [0x5000, 0x2000]} 0x2000 := by
  refine ⟨by decide, fun address haddress => ?_⟩
  rcases List.mem_pair.1 haddress with rfl | rfl <;> decide

end Wrapping

open Wrapping in
/-- The upper function of the file stands at the lower address of the process. -/
theorem exports_of_wrapping_library :
    ∃ m ∈ snapshot.reported, m.path = some "/lib/libwrap.so" ∧
      snapshot.engine.exports m =
        .ok [⟨"low", 0xfffffffffffff040, .code⟩, ⟨"high", 0x2010, .code⟩] := by
  have hlaid : Elf.LaysOut ⟨.bits64, .little⟩ [0x5000, 0x2000] symbols ∅ library :=
    Elf.assemble_laysOut (by decide +kernel) (by decide) (by decide)
  have hcontents : snapshot.files.contents "/lib/libwrap.so" = .ok library := rfl
  obtain ⟨image, segments, hopen, hsegments, haddresses, -, himage⟩ := hlaid.exists_image hcontents
  obtain ⟨m, hm, hpath, -, hexports⟩ :=
    exports_at_load_bias snapshot text "/lib/libwrap.so" mappings image segments 0x2000
      0xffffffffffffd000 captures listed hopen hsegments (by rw [haddresses]; exact isLeast)
      (by decide) (by decide +kernel)
  refine ⟨m, hm, hpath, hexports.trans ?_⟩
  rw [← Elf.Image.exports_eq, himage]
  decide +kernel

end CallTrace
