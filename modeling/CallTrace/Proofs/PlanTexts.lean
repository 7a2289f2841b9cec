import Mathlib.Data.List.Forall2
import CallTrace.Plan
import CallTrace.Proofs.WrittenMappings

/-!
# What the text of a plan tells

The text of a plan escapes nothing: names stand in it as they are, whatever marks they contain.
`PlanLine.read?` is a reader that finds its way all the same.  It takes the last ` @0x` of a line
for the one in front of the address and the last `!` before that for the one behind the module, and
`Plan.text_read_back` says that it finds every row again if no name has a line feed in it and no
symbol a `!`.

Two things carry the argument.  An address is written in digits, and no digit is the blank that the
first mark begins with, so no such mark stands behind the one that was written.  And a mark in a
name comes before that one, where it does no harm.  For this `Text.cutAtLast?` is described without
the recursion that searches a text: it cuts where the mark stands and does not stand any later
(`Text.cutAtLast?_eq_some_iff`).
-/

namespace CallTrace

/-! ## Marks and line feeds -/

namespace Text

variable {mark text front back : List Char}

/-- What comes before and behind the last mark of a text, if the text has the mark at all. -/
def cutAtLast? (mark : List Char) : List Char → Option (List Char × List Char)
  | [] => none
  | c :: rest =>
    match cutAtLast? mark rest with
    | some (front, back) => some (c :: front, back)
    | none => if mark <+: c :: rest then some ([], (c :: rest).drop mark.length) else none

lemma cutAtLast?_eq_none_iff (hmark : mark ≠ []) :
    cutAtLast? mark text = none ↔ ¬ mark <:+: text := by
  induction text with
  | nil => simpa [cutAtLast?] using hmark
  | cons c rest ih =>
    rw [List.infix_cons_iff, not_or, ← ih, cutAtLast?]
    cases cutAtLast? mark rest with
    | none => simp
    | some cut => simp

/-- The mark stands between the two parts and nowhere behind that place. -/
lemma cutAtLast?_eq_some_iff (hmark : mark ≠ []) :
    cutAtLast? mark text = some (front, back) ↔
      text = front ++ mark ++ back ∧ ¬ mark <:+: (mark ++ back).tail := by
  induction text generalizing front with
  | nil => simp [cutAtLast?, hmark]
  | cons c rest ih =>
    cases front with
    | nil =>
      have hcut : cutAtLast? mark (c :: rest) = some ([], back) ↔
          cutAtLast? mark rest = none ∧ c :: rest = mark ++ back := by
        rw [cutAtLast?]
        split <;> rename_i hrest
        · simp [hrest]
        · rw [Option.ite_none_right_eq_some, Option.some_inj, Prod.mk.injEq,
            and_iff_right (rfl : [] = []), List.prefix_iff_eq_append, and_iff_right hrest]
          constructor
          · rintro ⟨happend, rfl⟩
            exact happend.symm
          · intro happend
            rw [happend, List.drop_left]
            exact ⟨rfl, rfl⟩
      rw [hcut, cutAtLast?_eq_none_iff hmark, List.nil_append, and_comm]
      refine and_congr_right fun happend => ?_
      rw [← happend, List.tail_cons]
    | cons d front =>
      have hcut : cutAtLast? mark (c :: rest) = some (d :: front, back) ↔
          c = d ∧ cutAtLast? mark rest = some (front, back) := by
        rw [cutAtLast?]
        split <;> rename_i hrest
        · simp [hrest, and_assoc]
        · simp [hrest]
      rw [hcut, ih, List.cons_append, List.cons_append, List.cons.injEq, and_assoc]

/-- A mark whose first character does not come again is the last one. -/
lemma cutAtLast?_append {c : Char} {more : List Char} (hmore : c ∉ more) (hback : c ∉ back) :
    cutAtLast? (c :: more) (front ++ c :: more ++ back) = some (front, back) := by
  refine (cutAtLast?_eq_some_iff (List.cons_ne_nil c more)).2 ⟨rfl, fun hagain => ?_⟩
  have hmem : c ∈ more ++ back := hagain.subset List.mem_cons_self
  exact (List.mem_append.1 hmem).elim hmore hback

lemma cutAtLast?_of_notMem {c : Char} (h : c ∉ text) : cutAtLast? [c] text = none := by
  refine (cutAtLast?_eq_none_iff (List.cons_ne_nil c [])).2 fun hmark => ?_
  exact h (hmark.subset List.mem_cons_self)

/-- A text of whole lines is cut into them, and nothing is left behind the last line feed. -/
lemma splitOn_newline {lines : List (List Char)} (h : ∀ line ∈ lines, '\n' ∉ line) :
    (lines.flatMap (· ++ ['\n'])).splitOn '\n' = lines ++ [[]] := by
  induction lines with
  | nil => rfl
  | cons line lines ih =>
    obtain ⟨hline, hlines⟩ := List.forall_mem_cons.1 h
    rw [List.flatMap_cons, List.append_assoc, List.singleton_append,
      List.splitOn_append_cons_self_of_not_mem hline, ih hlines, List.cons_append]

end Text

/-! ## The digits of an address -/

namespace Address

variable {pc : Address} {c : Char}

/-- No digit is a blank, so neither the mark in front of an address nor the end of its line can be
taken for a part of it. -/
lemma not_isBlank_of_mem_digits (hc : c ∈ digits pc) : ¬ Text.isBlank c :=
  ((Numeral.hexDigits_write pc.toNat).not_separator c hc).1

lemma word?_digits (pc : Address) : Mapping.word? (digits pc) = some pc :=
  Mapping.word?_eq_some_iff.2 (Mapping.spells_padded 0 pc)

end Address

/-! ## A line and a text -/

/-- The mark in front of an address. -/
def PlanLine.addressMark : List Char := [' ', '@', '0', 'x']

/-- What a line of a plan says: the name of a module, empty if there is none, a symbol and an
address. -/
def PlanLine.read? (line : List Char) : Option (String × String × Address) := do
  let (names, digits) ← Text.cutAtLast? addressMark line
  let pc ← Mapping.word? digits
  match Text.cutAtLast? ['!'] names with
  | some (module, symbol) => some (String.ofList module, String.ofList symbol, pc)
  | none => some ("", String.ofList names, pc)

namespace PlanRow

/-- The line of a row without its line feed. -/
def line (row : PlanRow) : List Char :=
  row.label.toList ++ PlanLine.addressMark ++ Address.digits row.pc

/-- The names of a row can be told apart in its line, and the line from others. -/
structure Legible (row : PlanRow) : Prop where
  newline_notMem_module : '\n' ∉ row.module.toList
  newline_notMem_symbol : '\n' ∉ row.symbol.toList
  bang_notMem_symbol : '!' ∉ row.symbol.toList

variable {row : PlanRow}

lemma label_of_unnamed (h : row.module = "") : row.label = row.symbol := if_pos h

lemma toList_label_of_named (h : row.module ≠ "") :
    row.label.toList = row.module.toList ++ ['!'] ++ row.symbol.toList := by
  rw [label, TraceLine.label, if_neg h, String.toList_append, String.toList_append]
  rfl

lemma toList_text (row : PlanRow) : row.text.toList = row.line ++ ['\n'] := by
  simp only [text_eq, Address.text, line, PlanLine.addressMark, String.toList_append,
    String.toList_ofList, List.append_assoc]
  rfl

lemma newline_notMem_line (h : row.Legible) : '\n' ∉ row.line := by
  have hlabel : '\n' ∉ row.label.toList := by
    by_cases hmodule : row.module = ""
    · rw [label_of_unnamed hmodule]
      exact h.newline_notMem_symbol
    · rw [toList_label_of_named hmodule]
      simpa using ⟨h.newline_notMem_module, h.newline_notMem_symbol⟩
  intro hmem
  rcases List.mem_append.1 hmem with hmem | hmem
  · rcases List.mem_append.1 hmem with hmem | hmem
    · exact hlabel hmem
    · exact absurd hmem (by decide)
  · exact Address.not_isBlank_of_mem_digits hmem Text.isBlank_newline

lemma read?_line (h : row.Legible) :
    PlanLine.read? row.line = some (row.module, row.symbol, row.pc) := by
  have haddress : Text.cutAtLast? PlanLine.addressMark row.line =
      some (row.label.toList, Address.digits row.pc) :=
    Text.cutAtLast?_append (by decide) fun hspace =>
      Address.not_isBlank_of_mem_digits hspace Text.isBlank_space
  unfold PlanLine.read?
  simp only [haddress, Address.word?_digits, Option.bind_eq_bind, Option.bind_some]
  by_cases hmodule : row.module = ""
  · simp only [label_of_unnamed hmodule, Text.cutAtLast?_of_notMem h.bang_notMem_symbol, hmodule,
      String.ofList_toList]
  · simp only [toList_label_of_named hmodule,
      Text.cutAtLast?_append List.not_mem_nil h.bang_notMem_symbol, String.ofList_toList]

end PlanRow

namespace Plan

lemma toList_text (plan : Plan) :
    plan.text.toList = (plan.rows.map PlanRow.line).flatMap (· ++ ['\n']) := by
  simp only [text, String.toList_join, List.flatMap_map, PlanRow.toList_text]

/-- **The text of a plan is read back.**  Cut at its line feeds it has one line for each row, in
order, with nothing behind the last line feed.  Each line tells the module, the symbol and the
address of its row, whichever of the 64-bit addresses it is and whatever marks the names contain,
as long as there is no line feed in a name and no `!` in a symbol. -/
theorem text_read_back (plan : Plan) (h : ∀ row ∈ plan.rows, row.Legible) :
    ∃ lines : List (List Char), plan.text.toList.splitOn '\n' = lines ++ [[]] ∧
      List.Forall₂ (fun row line => PlanLine.read? line = some (row.module, row.symbol, row.pc))
        plan.rows lines := by
  have hlines : ∀ line ∈ plan.rows.map PlanRow.line, '\n' ∉ line :=
    List.forall_mem_map.2 fun row hrow => PlanRow.newline_notMem_line (h row hrow)
  refine ⟨plan.rows.map PlanRow.line, ?_, ?_⟩
  · rw [toList_text, Text.splitOn_newline hlines]
  · rw [List.forall₂_map_right_iff, List.forall₂_same]
    exact fun row hrow => PlanRow.read?_line (h row hrow)

end Plan

/-! ## Names that look like lines -/

namespace MarkedNames

/-- The name of a module with every mark in it, and a symbol with the mark of an address. -/
def marked : PlanRow := ⟨0xffffffffffffffff, ⟨1⟩, "lib!copy @0x10.so", "step @0x2f"⟩

/-- A symbol without a module, at the lowest address. -/
def unnamed : PlanRow := ⟨0, ⟨1⟩, "", " @0x"⟩

def plan : Plan := ⟨1, none, false, [marked, unnamed]⟩

lemma legible : ∀ row ∈ plan.rows, row.Legible := by
  intro row hrow
  rcases List.mem_pair.1 hrow with rfl | rfl
  · exact ⟨by decide, by decide, by decide⟩
  · exact ⟨by decide, by decide, by decide⟩

end MarkedNames

open MarkedNames in
/-- The marks in the names are not taken for those between them. -/
theorem marked_names_read_back :
    (∀ row ∈ plan.rows, row.Legible) ∧
      plan.text = "lib!copy @0x10.so!step @0x2f @0xffffffffffffffff\n @0x @0x0\n" ∧
      ∃ lines : List (List Char), plan.text.toList.splitOn '\n' = lines ++ [[]] ∧
        List.Forall₂ (fun row line => PlanLine.read? line = some (row.module, row.symbol, row.pc))
          plan.rows lines :=
  ⟨legible, by decide +kernel, plan.text_read_back legible⟩

end CallTrace
