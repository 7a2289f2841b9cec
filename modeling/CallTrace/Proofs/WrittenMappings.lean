import CallTrace.Proofs.Grouping

/-!
# Memory maps written and read back

A mapping is written as a line: its range, permissions, offset, device and inode with a space
between each two of them, then more spaces, and the path of its file.  `MappingLine` holds what such
a line is made of, and `MappingLine.file` is a file of lines.  Numbers are written in lower-case
hexadecimal digits behind any number of zeros.  A path is written as it is, whatever blanks, dashes
and digits stand in it: it comes behind five fields, and no more than five are cut off.

Reading finds every line again (`MappingLine.listed_file`), so the modules of a file are those that
the written mappings make up (`ofText_file_eq_iff`).  All that gets lost is the blanks at the end of
a path (`MappingLine.kept`).  A carriage return there may be taken for a part of the line's end; it
is a blank, so the path would lose it anyway (`Text.trimEnd_dropReturn`).
-/

namespace CallTrace

/-! ## Hexadecimal numbers -/

namespace Numeral

/-- A word in hexadecimal digits, with zeros in front of it. -/
def padded (zeros : Nat) (word : UInt64) : List Char :=
  List.replicate zeros '0' ++ write 16 word.toNat

namespace HexDigits

variable {digits : List Char} {n : Nat}

lemma nil : HexDigits [] 0 := ⟨[], by simp, rfl, rfl⟩

/-- A digit at the end moves those before it up one place. -/
lemma concat {value : Nat} (h : HexDigits digits n) (hvalue : value < 16) :
    HexDigits (digits ++ [Nat.digitChar value]) (16 * n + value) := by
  obtain ⟨values, hall, hdigits, rfl⟩ := h
  have hlower : (Nat.digitChar value).toLower = Nat.digitChar value := by
    interval_cases value <;> rfl
  refine ⟨values ++ [value], ?_, ?_, ?_⟩
  · intro other hother
    rcases List.mem_append.1 hother with hother | hother
    · exact hall other hother
    · rwa [List.mem_singleton.1 hother]
  · rw [List.map_append, List.map_append, hdigits, List.map_singleton, List.map_singleton, hlower]
  · rw [List.reverse_append, List.reverse_singleton, List.singleton_append, Nat.ofDigits_cons,
      Nat.add_comm]

/-- A zero in front makes no difference. -/
lemma cons_zero (h : HexDigits digits n) : HexDigits ('0' :: digits) n := by
  obtain ⟨values, hall, hdigits, rfl⟩ := h
  refine ⟨0 :: values, List.forall_mem_cons.2 ⟨by decide, hall⟩, ?_, ?_⟩
  · rw [List.map_cons, List.map_cons, hdigits]
    rfl
  · rw [ofDigits_reverse, ofDigits_reverse, List.foldl_cons]

lemma replicate_append (h : HexDigits digits n) (zeros : Nat) :
    HexDigits (List.replicate zeros '0' ++ digits) n := by
  induction zeros with
  | zero => exact h
  | succ zeros ih => exact ih.cons_zero

/-- Digits keep clear of what separates numbers. -/
lemma not_separator (h : HexDigits digits n) : ∀ c ∈ digits, ¬ Text.isBlank c ∧ c ≠ '-' := by
  intro c hc
  obtain ⟨values, hall, hdigits, -⟩ := h
  have hmem : c.toLower ∈ values.map Nat.digitChar := hdigits ▸ List.mem_map_of_mem hc
  obtain ⟨value, hvalue, hchar⟩ := List.mem_map.1 hmem
  have hcode : (if value < 10 then 48 + value else 87 + value) =
      if 65 ≤ c.toNat ∧ c.toNat ≤ 90 then c.toNat + 32 else c.toNat := by
    rw [← toNat_digitChar (hall value hvalue), hchar, toNat_toLower]
  have hlt : value < 16 := hall value hvalue
  constructor
  · intro hblank
    simp only [Text.isBlank, Bool.or_eq_true, Bool.and_eq_true, decide_eq_true_eq, beq_iff_eq]
      at hblank
    split_ifs at hcode <;> omega
  · rintro rfl
    rw [show '-'.toNat = 45 from rfl] at hcode
    split_ifs at hcode <;> omega

end HexDigits

lemma hexDigits_write (n : Nat) : HexDigits (write 16 n) n := by
  induction n using Nat.strongRecOn with
  | ind n ih =>
    rw [write, Nat.toDigits_eq_if (by decide)]
    split <;> rename_i hn
    · have hsingle := HexDigits.nil.concat hn
      rwa [Nat.mul_zero, Nat.zero_add] at hsingle
    · have hmore := (ih (n / 16) (by omega)).concat (Nat.mod_lt n (by decide : 0 < 16))
      rwa [Nat.div_add_mod] at hmore

lemma hexDigits_padded (zeros : Nat) (word : UInt64) : HexDigits (padded zeros word) word.toNat :=
  (hexDigits_write word.toNat).replicate_append zeros

lemma padded_ne_nil (zeros : Nat) (word : UInt64) : padded zeros word ≠ [] :=
  List.append_ne_nil_of_right_ne_nil _ Nat.toDigits_ne_nil

lemma isField_padded (zeros : Nat) (word : UInt64) : Text.IsField (padded zeros word) :=
  ⟨padded_ne_nil zeros word, fun c hc => ((hexDigits_padded zeros word).not_separator c hc).1⟩

end Numeral

lemma Mapping.spells_padded (zeros : Nat) (word : UInt64) :
    Spells (Numeral.padded zeros word) word :=
  ⟨_, .inl rfl, Numeral.padded_ne_nil zeros word, Numeral.hexDigits_padded zeros word⟩

/-! ## Lines and fields of a text -/

namespace Text

/-- A line without the carriage return at its end. -/
def dropReturn : List Char → List Char
  | [] => []
  | ['\r'] => []
  | c :: rest => c :: dropReturn rest

/-- The first line of a text goes as far as the first line feed. -/
lemma lines_append {line rest : List Char} (hline : '\n' ∉ line) :
    lines (line ++ '\n' :: rest) = dropReturn line :: lines rest := by
  fun_induction dropReturn line with
  | case1 => rfl
  | case2 => rfl
  | case3 c line hreturn ih =>
    rw [List.mem_cons, not_or] at hline
    -- The line feed behind a carriage return is the one at the end of the line.
    have hpair : ∀ more, c = '\r' → line ++ '\n' :: rest ≠ '\n' :: more := by
      rintro more rfl hmore
      cases line with
      | nil => exact hreturn rfl rfl
      | cons d line =>
        obtain ⟨rfl, -⟩ := List.cons.inj hmore
        exact hline.2 List.mem_cons_self
    rw [List.cons_append, lines, ih hline.2]
    · exact fun h => hline.1 h.symm
    · exact hpair

lemma dropReturn_append {front back : List Char} (hback : back ≠ []) :
    dropReturn (front ++ back) = front ++ dropReturn back := by
  induction front with
  | nil => rfl
  | cons c front ih =>
    have hne : front ++ back ≠ [] := List.append_ne_nil_of_right_ne_nil front hback
    rw [List.cons_append, dropReturn, ih, List.cons_append]
    exact fun _ => hne

lemma eq_dropReturn (line : List Char) :
    line = dropReturn line ∨ line = dropReturn line ++ ['\r'] := by
  fun_induction dropReturn line with
  | case1 => exact .inl rfl
  | case2 => exact .inr rfl
  | case3 c line _ ih =>
    rcases ih with ih | ih
    · exact .inl (congrArg (c :: ·) ih)
    · exact .inr (congrArg (c :: ·) ih)

/-- A carriage return is a blank, so at the end of a line it goes with the others. -/
lemma trimEnd_dropReturn (line : List Char) : trimEnd (dropReturn line) = trimEnd line := by
  rcases eq_dropReturn line with h | h
  · rw [← h]
  · have hblank : isBlank '\r' := by decide
    conv_rhs => rw [h]
    rw [trimEnd, trimEnd, List.reverse_append, List.reverse_singleton, List.singleton_append,
      List.dropWhile_cons_of_pos hblank]

/-- Blanks in front of a text that begins with none are taken away with those at its end. -/
lemma trimsTo_append {before text : List Char} (hbefore : IsGap before)
    (hhead : ∀ c ∈ (trimEnd text).head?, ¬ isBlank c) :
    TrimsTo (before ++ text) (trimEnd text) := by
  obtain ⟨after, htext, hafter, hlast⟩ := trimEnd_eq_iff.1 (rfl : trimEnd text = trimEnd text)
  refine ⟨⟨before, after, ?_, hbefore, hafter⟩, hhead, hlast⟩
  rw [List.append_assoc, ← htext]

/-- A text that begins with no blank still begins as it did. -/
lemma head?_trimEnd {text : List Char} {c : Char} (hhead : text.head? = some c)
    (hc : ¬ isBlank c) : (trimEnd text).head? = some c := by
  obtain ⟨after, htext, hafter, -⟩ := trimEnd_eq_iff.1 (rfl : trimEnd text = trimEnd text)
  have hne : trimEnd text ≠ [] := by
    intro hnil
    rw [hnil, List.nil_append] at htext
    exact hc (hafter c (htext ▸ List.mem_of_head? hhead))
  rwa [htext, List.head?_append_of_ne_nil _ hne] at hhead

lemma isBlank_newline : isBlank '\n' := by decide

lemma isBlank_space : isBlank ' ' := by decide

namespace BeginsWith

variable {text field more rest : List Char} {fields : List (List Char)}

/-- A field may stand at the very front. -/
lemma field_append (hfield : IsField field) (hmore : ∀ c ∈ more.head?, isBlank c)
    (h : BeginsWith more fields rest) : BeginsWith (field ++ more) (field :: fields) rest := by
  have hgap : IsGap [] := by simp [IsGap]
  exact .cons hgap hfield hmore h

/-- One more blank in front belongs to the gap that is there. -/
lemma cons_blank {c : Char} (hc : isBlank c) (h : BeginsWith text (field :: fields) rest) :
    BeginsWith (c :: text) (field :: fields) rest := by
  cases h with
  | cons hgap hfield hmore hrest =>
    have hgap' : IsGap (c :: _) := List.forall_mem_cons.2 ⟨hc, hgap⟩
    exact .cons hgap' hfield hmore hrest

end BeginsWith

/-- Fields with a space between each two of them are found as they are, whatever comes behind. -/
lemma beginsWith_intercalate {fields : List (List Char)} {rest : List Char}
    (hfields : ∀ field ∈ fields, IsField field) (hrest : ∀ c ∈ rest.head?, isBlank c) :
    BeginsWith ([' '].intercalate fields ++ rest) fields rest := by
  induction fields with
  | nil => exact .nil
  | cons field fields ih =>
    obtain ⟨hfield, hfields⟩ := List.forall_mem_cons.1 hfields
    cases fields with
    | nil =>
      rw [List.intercalate_singleton]
      exact .field_append hfield hrest .nil
    | cons next fields =>
      rw [List.intercalate_cons_cons, List.append_assoc, List.append_assoc, List.singleton_append]
      refine .field_append hfield (fun c hc => ?_) ((ih hfields).cons_blank isBlank_space)
      obtain rfl : ' ' = c := by simpa using hc
      exact isBlank_space

lemma mem_intercalate {fields : List (List Char)} {c : Char} (hc : c ∈ [' '].intercalate fields) :
    c = ' ' ∨ ∃ field ∈ fields, c ∈ field := by
  induction fields with
  | nil => simp at hc
  | cons field fields ih =>
    cases fields with
    | nil =>
      rw [List.intercalate_singleton] at hc
      exact .inr ⟨field, by simp, hc⟩
    | cons next fields =>
      rw [List.intercalate_cons_cons, List.mem_append, List.mem_append, List.mem_singleton] at hc
      rcases hc with (hc | hc) | hc
      · exact .inr ⟨field, by simp, hc⟩
      · exact .inl hc
      · refine (ih hc).imp_right ?_
        rintro ⟨other, hother, hmem⟩
        exact ⟨other, List.mem_cons_of_mem _ hother, hmem⟩

end Text

/-! ## Lines for mappings -/

/-- A line that is written for the mapping of a file: the mapping, with its path as it is written,
the fields that nobody reads, and how far apart everything stands. -/
structure MappingLine where
  mapping : Mapping
  permissions : String
  device : String
  inode : String
  /-- The numbers of zeros in front of the start, the end and the offset. -/
  startZeros : Nat
  stopZeros : Nat
  offsetZeros : Nat
  /-- The spaces in front of the path. -/
  spaces : Nat
  permissions_isField : Text.IsField permissions.toList
  device_isField : Text.IsField device.toList
  inode_isField : Text.IsField inode.toList
  spaces_pos : 0 < spaces
  newline_not_mem_path : '\n' ∉ mapping.path.toList
  head?_path : mapping.path.toList.head? = some '/'
  not_deleted : ¬ " (deleted)".toList <:+ Text.trimEnd mapping.path.toList

namespace MappingLine

variable (line : MappingLine)

/-- The range of addresses, as it is written. -/
def range : List Char :=
  Numeral.padded line.startZeros line.mapping.start ++
    '-' :: Numeral.padded line.stopZeros line.mapping.stop

/-- The five fields in front of the path. -/
def fields : List (List Char) :=
  [line.range, line.permissions.toList, Numeral.padded line.offsetZeros line.mapping.offset,
    line.device.toList, line.inode.toList]

/-- The path with the spaces in front of it. -/
def tail : List Char := List.replicate line.spaces ' ' ++ line.mapping.path.toList

/-- The line, as it is written. -/
def chars : List Char := [' '].intercalate line.fields ++ line.tail

/-- A file with a line feed behind each line. -/
def file (lines : List MappingLine) : String :=
  String.ofList (lines.flatMap fun line => line.chars ++ ['\n'])

/-- The path as it can be read again: without the blanks at its end. -/
def keptPath : String := String.ofList (Text.trimEnd line.mapping.path.toList)

/-- The mapping as it can be read again. -/
def kept : Mapping := { line.mapping with path := line.keptPath }

lemma isField_range : Text.IsField line.range := by
  refine ⟨List.append_ne_nil_of_left_ne_nil (Numeral.padded_ne_nil _ _) _, fun c hc => ?_⟩
  rcases List.mem_append.1 hc with hc | hc
  · exact (Numeral.isField_padded _ _).2 c hc
  · rcases List.mem_cons.1 hc with rfl | hc
    · decide
    · exact (Numeral.isField_padded _ _).2 c hc

lemma isField_of_mem_fields {field : List Char} (h : field ∈ line.fields) : Text.IsField field := by
  have hall : ∀ field ∈ line.fields, Text.IsField field := by
    simp only [fields, List.forall_mem_cons]
    exact ⟨line.isField_range, line.permissions_isField, Numeral.isField_padded _ _,
      line.device_isField, line.inode_isField, by simp⟩
  exact hall field h

lemma newline_not_mem_chars : '\n' ∉ line.chars := by
  intro hmem
  rcases List.mem_append.1 hmem with hmem | hmem
  · rcases Text.mem_intercalate hmem with hspace | ⟨field, hfield, hmem⟩
    · exact absurd hspace (by decide)
    · exact (line.isField_of_mem_fields hfield).2 '\n' hmem Text.isBlank_newline
  · rcases List.mem_append.1 hmem with hmem | hmem
    · exact absurd (List.eq_of_mem_replicate hmem) (by decide)
    · exact line.newline_not_mem_path hmem

lemma spellsRange : Mapping.SpellsRange line.range line.mapping.start line.mapping.stop := by
  refine ⟨_, _, rfl, fun hmem => ?_, ?_, ?_⟩
  · exact ((Numeral.hexDigits_padded _ _).not_separator '-' hmem).2 rfl
  · exact Mapping.spells_padded _ _
  · exact Mapping.spells_padded _ _

lemma namesFile : Mapping.NamesFile line.keptPath.toList := by
  rw [keptPath, String.toList_ofList]
  exact ⟨Text.head?_trimEnd line.head?_path (by decide), line.not_deleted⟩

/-- A path that ends in no blank is kept as it is. -/
lemma kept_eq (hlast : ∀ c ∈ line.mapping.path.toList.getLast?, ¬ Text.isBlank c) :
    line.kept = line.mapping := by
  have hcore : Text.trimEnd line.mapping.path.toList = line.mapping.path.toList :=
    Text.trimEnd_eq_iff.2 ⟨[], (List.append_nil _).symm, by simp [Text.IsGap], hlast⟩
  rw [kept, keptPath, hcore, String.ofList_toList]

lemma path_ne_nil : line.mapping.path.toList ≠ [] :=
  List.ne_nil_of_mem (List.mem_of_head? line.head?_path)

/-- The carriage return that a line may lose is one of its path. -/
lemma dropReturn_tail : Text.dropReturn line.tail =
    List.replicate line.spaces ' ' ++ Text.dropReturn line.mapping.path.toList :=
  Text.dropReturn_append line.path_ne_nil

lemma beginsWith_fields :
    Text.BeginsWith (Text.dropReturn line.chars) line.fields (Text.dropReturn line.tail) := by
  have htail : line.tail ≠ [] := List.append_ne_nil_of_right_ne_nil _ line.path_ne_nil
  rw [chars, Text.dropReturn_append htail]
  refine Text.beginsWith_intercalate (fun field => line.isField_of_mem_fields) ?_
  intro c hc
  obtain ⟨n, hn⟩ := Nat.exists_eq_succ_of_ne_zero line.spaces_pos.ne'
  rw [dropReturn_tail, hn, List.replicate_succ, List.cons_append, List.head?_cons,
    Option.mem_some_iff] at hc
  exact hc ▸ Text.isBlank_space

lemma trimsTo_keptPath : Text.TrimsTo (Text.dropReturn line.tail) line.keptPath.toList := by
  have hkept : line.keptPath.toList =
      Text.trimEnd (Text.dropReturn line.mapping.path.toList) := by
    rw [Text.trimEnd_dropReturn, keptPath, String.toList_ofList]
  have hhead := line.namesFile.1
  rw [hkept] at hhead
  rw [dropReturn_tail, hkept]
  apply Text.trimsTo_append
  · intro c hc
    rw [List.eq_of_mem_replicate hc]
    exact Text.isBlank_space
  · intro c hc
    obtain rfl : '/' = c := Option.some.inj (hhead.symm.trans hc)
    decide

/-- What a line becomes when the file is cut into lines describes the mapping. -/
lemma describes_kept : Mapping.Describes (Text.dropReturn line.chars) line.kept :=
  ⟨_, _, _, _, _, _, line.beginsWith_fields, line.spellsRange, Mapping.spells_padded _ _,
    line.trimsTo_keptPath, line.namesFile⟩

/-- Every line is found again. -/
lemma listed_file (lines : List MappingLine) :
    Mapping.Listed (Text.lines (file lines).toList) (lines.map kept) := by
  rw [file, String.toList_ofList]
  induction lines with
  | nil => exact .nil
  | cons line lines ih =>
    rw [List.flatMap_cons, List.append_assoc, List.singleton_append,
      Text.lines_append line.newline_not_mem_chars, List.map_cons]
    exact .describes line.describes_kept ih

end MappingLine

/-- **A written memory map is read back.**  The modules of a file are those that its mappings make
up, with the blanks at the end of their paths left out.  So a mapping whose path ends in no blank is
read as it is, and there is a module with exactly that path. -/
theorem ofText_file_eq_iff (lines : List MappingLine) :
    (∀ modules, MappedModule.ofText (MappingLine.file lines) = modules ↔
      MappedModule.GroupedFrom (lines.map MappingLine.kept) modules) ∧
    ∀ line ∈ lines, (∀ c ∈ line.mapping.path.toList.getLast?, ¬ Text.isBlank c) →
      line.kept = line.mapping ∧
        line.mapping.path ∈ (MappedModule.ofText (MappingLine.file lines)).map (·.path) := by
  have hgrouped : MappedModule.GroupedFrom (lines.map MappingLine.kept)
      (MappedModule.ofText (MappingLine.file lines)) := by
    rw [MappedModule.ofText, Mapping.listed_iff.1 (MappingLine.listed_file lines)]
    exact MappedModule.groupedFrom_ofMappings _
  refine ⟨fun modules => ⟨?_, hgrouped.unique⟩, fun line hline hlast => ?_⟩
  · rintro rfl
    exact hgrouped
  · have hkept : line.kept = line.mapping := line.kept_eq hlast
    refine ⟨hkept, hgrouped.mem_paths.2 ⟨line.kept, List.mem_map_of_mem hline, ?_⟩⟩
    rw [hkept]

/-! ## A path with blanks in it -/

namespace SpacedOut

def path : String := "/opt/my app - 7f00\tcopy.so"

/-- The code of the file, which does not stand at its beginning. -/
def code : MappingLine where
  mapping := ⟨0x7f10, 0x7f20, 0x1000, path⟩
  permissions := "r-xp"
  device := "08:01"
  inode := "42"
  startZeros := 4
  stopZeros := 0
  offsetZeros := 4
  spaces := 3
  permissions_isField := by decide
  device_isField := by decide
  inode_isField := by decide
  spaces_pos := by decide
  newline_not_mem_path := by decide
  head?_path := by decide
  not_deleted := by decide

/-- The beginning of the file, with its path in front of a space and a carriage return. -/
def beginning : MappingLine where
  mapping := ⟨0x7f00, 0x7f10, 0, path ++ " \r"⟩
  permissions := "r--p"
  device := "08:01"
  inode := "42"
  startZeros := 0
  stopZeros := 0
  offsetZeros := 2
  spaces := 1
  permissions_isField := by decide
  device_isField := by decide
  inode_isField := by decide
  spaces_pos := by decide
  newline_not_mem_path := by decide
  head?_path := by decide
  not_deleted := by decide

def lines : List MappingLine := [code, beginning]

/-- Both mappings are of one file, from its beginning to the end of its code. -/
def modules : List MappedModule := [⟨path, 0x7f00, 0x7f20, some 0x7f00⟩]

end SpacedOut

open SpacedOut in
/-- The path is read as it is written in the first line, and the second line has the same one. -/
theorem spaced_out_path_read :
    (code ∈ lines ∧ ∀ c ∈ code.mapping.path.toList.getLast?, ¬ Text.isBlank c) ∧
      MappedModule.GroupedFrom (lines.map MappingLine.kept) modules ∧
      code.kept = code.mapping ∧
      code.mapping.path ∈ (MappedModule.ofText (MappingLine.file lines)).map (·.path) := by
  have hmem : code ∈ lines := by simp [lines]
  have hlast : ∀ c ∈ code.mapping.path.toList.getLast?, ¬ Text.isBlank c := by
    intro c hc
    obtain rfl : 'o' = c := Option.some.inj hc
    decide
  obtain ⟨hmodules, hpaths⟩ := ofText_file_eq_iff lines
  exact ⟨⟨hmem, hlast⟩, (hmodules modules).1 (by decide +kernel), hpaths code hmem hlast⟩

example : MappingLine.file SpacedOut.lines =
    "00007f10-7f20 r-xp 00001000 08:01 42   /opt/my app - 7f00\tcopy.so\n" ++
      "7f00-7f10 r--p 000 08:01 42 /opt/my app - 7f00\tcopy.so \r\n" := by
  decide +kernel

end CallTrace
