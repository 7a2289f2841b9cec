import CallTrace.FileTree

/-!
# Errors of object files

What can be wrong with an ELF file, and with the file that should hold one.
-/

namespace CallTrace

/-- The first defect that reading an ELF file meets. -/
inductive ElfError where
  | noMagic
  | unknownMagic
  | shortHeader
  | unsupportedHeader
  | noSectionForSegmentCount
  | segmentEntrySize
  | segmentTable
  | sectionEntrySize
  | firstSection
  | sectionTable
  | noNameSection
  | nameSection
  | nameTable
  | symbolData
  | sectionIndex
  | stringSectionType
  | stringSection
  | extendedIndexData
  | relocationTarget
  | nestedRelocation
deriving DecidableEq, Repr

/-- The text of a defect. -/
def ElfError.message : ElfError → String
  | noMagic => "Could not read file magic"
  | unknownMagic => "Unknown file magic"
  | shortHeader => "Invalid ELF header size or alignment"
  | unsupportedHeader => "Unsupported ELF header"
  | noSectionForSegmentCount => "Missing ELF section headers for e_phnum overflow"
  | segmentEntrySize => "Invalid ELF program header entry size"
  | segmentTable => "Invalid ELF program header size or alignment"
  | sectionEntrySize => "Invalid ELF section header entry size"
  | firstSection => "Invalid ELF section header offset or size"
  | sectionTable => "Invalid ELF section header offset/size/alignment"
  | noNameSection => "Missing ELF e_shstrndx"
  | nameSection => "Invalid ELF e_shstrndx"
  | nameTable => "Invalid ELF shstrtab size"
  | symbolData => "Invalid ELF symbol table data"
  | sectionIndex => "Invalid ELF section index"
  | stringSectionType => "Invalid ELF string section type"
  | stringSection => "Invalid ELF string section offset or size"
  | extendedIndexData => "Invalid ELF symtab_shndx data"
  | relocationTarget => "Invalid ELF sh_info for relocation section"
  | nestedRelocation => "Unsupported ELF sh_info for relocation section"

/-- Why the exports of a file cannot be read. -/
inductive ImageError where
  | unreadable (path : String) (cause : OsError)
  | malformed (path : String) (cause : ElfError)
deriving DecidableEq, Repr

namespace ImageError

/-- What lies beneath an error, in its own words. -/
def reason : ImageError → String
  | unreadable _ cause => cause.message
  | malformed _ cause => cause.message

/-- The text of an error, which ends with its reason. -/
def message : ImageError → String
  | unreadable path cause => "Failed to open " ++ path ++ ": " ++ cause.message
  | malformed path cause => "Failed to parse " ++ path ++ ": " ++ cause.message

end ImageError

end CallTrace
