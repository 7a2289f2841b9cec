import Mathlib.Data.List.Basic
import Mathlib.Data.List.TakeWhile
import Mathlib.Data.Nat.Digits.Defs
import Mathlib.Tactic.IntervalCases
import CallTrace.Maps
import CallTrace.Proofs.Numerals

/-!
# What a line of a memory map describes

A line is read by cutting fields off its front.  This file says the same without any cutting:
`Mapping.Describes` relates a line to the mapping of a file in it by what the line consists of, and
`Mapping.ofLine?_eq_some_iff` states that reading a line finds that mapping if there is one.

The parts are taken one by one, each with a relation of its own: fields between blanks
(`Text.BeginsWith`), a text without the blanks around it (`Text.TrimsTo`), hexadecimal words
(`Mapping.Spells`), and paths of files that are still there (`Mapping.NamesFile`).  None of them
mentions the order in which a reader goes about it, so they serve a writer as well.
-/

namespace CallTrace

/-- A list is cut where a property ends for the first time. -/
lemma takeWhile_dropWhile_eq_iff {α : Type} {p : α → Bool} {l front back : List α} :
    l.takeWhile p = front ∧ l.dropWhile p = back ↔
      l = front ++ back ∧ (∀ a ∈ front, p a) ∧ ∀ a ∈ back.head?, ¬ p a := by
  constructor
  · rintro ⟨rfl, rfl⟩
    refine ⟨List.takeWhile_append_dropWhile.symm, fun a ha => List.mem_takeWhile_imp ha, ?_⟩
    intro a ha
    have hhead := List.head?_dropWhile_not p l
    rw [Option.mem_def.1 ha] at hhead
    simpa using hhead
  · rintro ⟨rfl, hfront, hback⟩
    have htake : back.takeWhile p = [] := by
      cases back with
      | nil => rfl
      | cons a back => exact List.takeWhile_cons_of_neg (hback a rfl)
    have hdrop : back.dropWhile p = back := by
      cases back with
      | nil => rfl
      | cons a back => exact List.dropWhile_cons_of_neg (hback a rfl)
    rw [List.takeWhile_append_of_pos hfront, List.dropWhile_append_of_pos hfront, htake, hdrop,
      List.append_nil]
    exact ⟨rfl, rfl⟩

namespace Text

/-! ## Fields -/

/-- A text of blanks alone. -/
def IsGap (text : List Char) : Prop := ∀ c ∈ text, isBlank c

/-- A text with something in it, and no blank. -/
def IsField (text : List Char) : Prop := text ≠ [] ∧ ∀ c ∈ text, ¬ isBlank c

instance (text : List Char) : Decidable (IsField text) :=
  decidable_of_iff ((!text.isEmpty && text.all (!isBlank ·)) = true) (by simp [IsField])

/-- A text begins with fields, each as long as it can be, and the rest comes behind them. -/
inductive BeginsWith : (text : List Char) → (fields : List (List Char)) → (rest : List Char) → Prop
  | nil {rest} : BeginsWith rest [] rest
  | cons {gap field more fields rest} : IsGap gap → IsField field →
      (∀ c ∈ more.head?, isBlank c) → BeginsWith more fields rest →
      BeginsWith (gap ++ field ++ more) (field :: fields) rest

/-- Cutting a field off finds the first one. -/
lemma nextField?_eq_some_iff {text field more : List Char} :
    nextField? text = some (field, more) ↔
      ∃ gap, text = gap ++ field ++ more ∧ IsGap gap ∧ IsField field ∧
        ∀ c ∈ more.head?, isBlank c := by
  have hfield : nextField? text = some (field, more) ↔ trimStart text ≠ [] ∧
      (trimStart text).takeWhile (!isBlank ·) = field ∧
        (trimStart text).dropWhile (!isBlank ·) = more := by
    unfold nextField?
    split <;> rename_i hstart
    · simp [hstart]
    · have hne : trimStart text ≠ [] := hstart
      simp [hne]
  rw [hfield, takeWhile_dropWhile_eq_iff]
  constructor
  · rintro ⟨hne, hcut, hfront, hback⟩
    obtain ⟨hgap, hgapAll, hgapEnd⟩ :=
      (takeWhile_dropWhile_eq_iff (p := isBlank) (l := text)).1 ⟨rfl, rfl⟩
    have hstart : trimStart text = text.dropWhile isBlank := rfl
    refine ⟨text.takeWhile isBlank, ?_, hgapAll, ⟨?_, by simpa using hfront⟩, by simpa using hback⟩
    · rw [List.append_assoc, ← hcut, hstart]
      exact hgap
    · -- What the blanks end at is no blank, so it belongs to the field.
      rintro rfl
      rw [List.nil_append] at hcut
      obtain ⟨c, more', hmore⟩ := List.exists_cons_of_ne_nil (hcut ▸ hne)
      have hblank : isBlank c := by simpa using hback c (by simp [hmore])
      exact hgapEnd c (by rw [← hstart, hcut, hmore]; rfl) hblank
  · rintro ⟨gap, rfl, hgap, ⟨hne, hall⟩, hmore⟩
    have hstart : trimStart (gap ++ field ++ more) = field ++ more := by
      refine (takeWhile_dropWhile_eq_iff.2 ⟨List.append_assoc .., hgap, fun c hc => ?_⟩).2
      rw [List.head?_append_of_ne_nil _ hne] at hc
      exact hall c (List.mem_of_head? hc)
    rw [hstart]
    exact ⟨by simp [hne], rfl, by simpa using hall, by simpa using hmore⟩

lemma beginsWith_nil_iff {text rest : List Char} : BeginsWith text [] rest ↔ text = rest := by
  constructor
  · rintro ⟨⟩
    rfl
  · rintro rfl
    exact .nil

lemma beginsWith_cons_iff {text field rest : List Char} {fields : List (List Char)} :
    BeginsWith text (field :: fields) rest ↔
      ∃ more, nextField? text = some (field, more) ∧ BeginsWith more fields rest := by
  constructor
  · intro h
    cases h with
    | cons hgap hfield hmore hrest =>
      exact ⟨_, nextField?_eq_some_iff.2 ⟨_, rfl, hgap, hfield, hmore⟩, hrest⟩
  · rintro ⟨more, hnext, hrest⟩
    obtain ⟨gap, rfl, hgap, hfield, hmore⟩ := nextField?_eq_some_iff.1 hnext
    exact .cons hgap hfield hmore hrest

/-! ## Blanks around a text -/

/-- What a text is without the blanks around it. -/
def TrimsTo (text core : List Char) : Prop :=
  (∃ before after, text = before ++ core ++ after ∧ IsGap before ∧ IsGap after) ∧
    (∀ c ∈ core.head?, ¬ isBlank c) ∧ ∀ c ∈ core.getLast?, ¬ isBlank c

lemma trimEnd_eq_iff {text core : List Char} :
    trimEnd text = core ↔
      ∃ after, text = core ++ after ∧ IsGap after ∧ ∀ c ∈ core.getLast?, ¬ isBlank c := by
  have hcut : trimEnd text = core ↔ ∃ after : List Char,
      text.reverse.takeWhile isBlank = after.reverse ∧
        text.reverse.dropWhile isBlank = core.reverse := by
    unfold trimEnd
    constructor
    · rintro rfl
      exact ⟨(text.reverse.takeWhile isBlank).reverse, by simp⟩
    · rintro ⟨_, -, hcore⟩
      rw [hcore, List.reverse_reverse]
  rw [hcut]
  refine exists_congr fun after => ?_
  rw [takeWhile_dropWhile_eq_iff, ← List.reverse_append, List.reverse_inj, List.head?_reverse]
  simp [IsGap]

lemma trim_eq_iff {text core : List Char} : trim text = core ↔ TrimsTo text core := by
  obtain ⟨hgap, hgapAll, hgapEnd⟩ :=
    (takeWhile_dropWhile_eq_iff (p := isBlank) (l := text)).1 ⟨rfl, rfl⟩
  rw [trim, trimEnd_eq_iff]
  constructor
  · rintro ⟨after, hstart, hafter, hlast⟩
    refine ⟨⟨text.takeWhile isBlank, after, ?_, hgapAll, hafter⟩, ?_, hlast⟩
    · rw [List.append_assoc, ← hstart]
      exact hgap
    · intro c hc
      refine hgapEnd c ?_
      rw [show text.dropWhile isBlank = core ++ after from hstart,
        List.head?_append_of_ne_nil _ (List.ne_nil_of_mem (List.mem_of_head? hc))]
      exact hc
  · rintro ⟨⟨before, after, rfl, hbefore, hafter⟩, hhead, hlast⟩
    by_cases hne : core = []
    · -- Nothing but blanks: they are all dropped from the front.
      subst hne
      have hnone : trimStart (before ++ [] ++ after) = [] := by
        rw [trimStart, List.dropWhile_eq_nil_iff]
        simpa [or_imp, forall_and] using ⟨hbefore, hafter⟩
      exact ⟨[], by rw [hnone]; rfl, by simp [IsGap], hlast⟩
    · have hstart : trimStart (before ++ core ++ after) = core ++ after := by
        refine (takeWhile_dropWhile_eq_iff.2 ⟨List.append_assoc .., hbefore, fun c hc => ?_⟩).2
        rw [List.head?_append_of_ne_nil _ hne] at hc
        exact hhead c hc
      exact ⟨after, hstart, hafter, hlast⟩

end Text

/-! ## Hexadecimal words -/

namespace Numeral

/-- Hexadecimal digits, the most significant first and letters of either case, with the number that
they stand for. -/
def HexDigits (digits : List Char) (n : Nat) : Prop :=
  ∃ values : List Nat, (∀ value ∈ values, value < 16) ∧
    digits.map Char.toLower = values.map Nat.digitChar ∧ Nat.ofDigits 16 values.reverse = n

lemma toNat_digitChar {value : Nat} (h : value < 16) :
    (Nat.digitChar value).toNat = if value < 10 then 48 + value else 87 + value := by
  interval_cases value <;> rfl

lemma toNat_toLower (c : Char) :
    c.toLower.toNat = if 65 ≤ c.toNat ∧ c.toNat ≤ 90 then c.toNat + 32 else c.toNat := by
  have hrange : (c.val ≥ 'A'.val ∧ c.val ≤ 'Z'.val) ↔ 65 ≤ c.toNat ∧ c.toNat ≤ 90 := by
    rw [ge_iff_le, UInt32.le_iff_toNat_le, UInt32.le_iff_toNat_le]
    rfl
  unfold Char.toLower
  by_cases h : c.val ≥ 'A'.val ∧ c.val ≤ 'Z'.val
  · rw [dif_pos h, if_pos (hrange.1 h)]
    have hbound := (hrange.1 h).2
    change (c.val + 32).toNat = c.toNat + 32
    rw [UInt32.toNat_add]
    change (c.toNat + 32) % 2 ^ 32 = c.toNat + 32
    omega
  · rw [dif_neg h, if_neg (mt hrange.2 h)]

lemma digitValue?_eq_some_iff {c : Char} {value : Nat} :
    digitValue? 16 c = some value ↔ value < 16 ∧ c.toLower = Nat.digitChar value := by
  have hle (a b : Char) : a ≤ b ↔ a.toNat ≤ b.toNat := Iff.rfl
  have hlower : (value < 16 ∧ c.toLower = Nat.digitChar value) ↔ value < 16 ∧
      (if 65 ≤ c.toNat ∧ c.toNat ≤ 90 then c.toNat + 32 else c.toNat) =
        if value < 10 then 48 + value else 87 + value := by
    refine and_congr_right fun hvalue => ?_
    rw [← Char.toNat_inj, toNat_toLower, toNat_digitChar hvalue]
  have hdigit : digitValue? 16 c = some value ↔ value < 16 ∧ value =
      if 48 ≤ c.toNat ∧ c.toNat ≤ 57 then c.toNat - 48
      else if 97 ≤ c.toNat ∧ c.toNat ≤ 102 then c.toNat - 97 + 10
      else if 65 ≤ c.toNat ∧ c.toNat ≤ 70 then c.toNat - 65 + 10
      else 16 := by
    unfold digitValue?
    simp only [hle, Option.ite_none_right_eq_some, Option.some.injEq]
    constructor
    · rintro ⟨h, rfl⟩
      exact ⟨h, rfl⟩
    · rintro ⟨h, rfl⟩
      exact ⟨h, rfl⟩
  rw [hlower, hdigit]
  refine and_congr_right fun hvalue => ?_
  split_ifs <;> omega

/-- Digits are read from the front, so what has been read so far moves up one place with each. -/
lemma readDigits?_eq_some_iff {digits : List Char} {sum n : Nat} :
    readDigits? 16 sum digits = some n ↔
      ∃ values : List Nat, (∀ value ∈ values, value < 16) ∧
        digits.map Char.toLower = values.map Nat.digitChar ∧
        values.foldl (fun sum value => sum * 16 + value) sum = n := by
  induction digits generalizing sum with
  | nil =>
    constructor
    · intro h
      exact ⟨[], by simp, rfl, by simpa [readDigits?] using h⟩
    · rintro ⟨values, -, hvalues, hsum⟩
      obtain rfl : values = [] := by simpa [eq_comm] using hvalues
      simpa [readDigits?] using hsum
  | cons c digits ih =>
    rw [readDigits?, Option.bind_eq_some_iff]
    constructor
    · rintro ⟨value, hvalue, hrest⟩
      obtain ⟨hlt, hc⟩ := digitValue?_eq_some_iff.1 hvalue
      obtain ⟨values, hall, hvalues, hsum⟩ := ih.1 hrest
      exact ⟨value :: values, by simpa using ⟨hlt, hall⟩, by simp [hc, hvalues], hsum⟩
    · rintro ⟨_ | ⟨value, values⟩, hall, hvalues, hsum⟩
      · simp at hvalues
      · obtain ⟨hlt, hrest⟩ := List.forall_mem_cons.1 hall
        obtain ⟨hc, hvalues⟩ := List.cons.inj hvalues
        exact ⟨value, digitValue?_eq_some_iff.2 ⟨hlt, hc⟩, ih.2 ⟨values, hrest, hvalues, hsum⟩⟩

lemma ofDigits_reverse (values : List Nat) :
    Nat.ofDigits 16 values.reverse = values.foldl (fun sum value => sum * 16 + value) 0 := by
  rw [Nat.ofDigits_eq_foldr, List.foldr_reverse]
  congr 1
  funext sum value
  rw [Nat.cast_id, Nat.add_comm, Nat.mul_comm]

lemma readDigits?_zero_eq_some_iff {digits : List Char} {n : Nat} :
    readDigits? 16 0 digits = some n ↔ HexDigits digits n := by
  rw [readDigits?_eq_some_iff, HexDigits]
  simp only [ofDigits_reverse]

lemma read?_eq_some_iff {bound n : Nat} {text : List Char} :
    read? 16 bound text = some n ↔
      n < bound ∧ ∃ digits, (text = digits ∨ text = '+' :: digits) ∧ digits ≠ [] ∧
        HexDigits digits n := by
  simp only [read?_eq_some_iff_exists_digits, readDigits?_zero_eq_some_iff]

end Numeral

/-! ## Lines -/

namespace Mapping

/-- A text spells a word: hexadecimal digits, at least one, with or without a plus sign. -/
def Spells (text : List Char) (word : UInt64) : Prop :=
  ∃ digits, (text = digits ∨ text = '+' :: digits) ∧ digits ≠ [] ∧
    Numeral.HexDigits digits word.toNat

/-- A text spells two words around its first dash. -/
def SpellsRange (text : List Char) (start stop : Address) : Prop :=
  ∃ low high, text = low ++ '-' :: high ∧ '-' ∉ low ∧ Spells low start ∧ Spells high stop

/-- A path begins with a slash, and it has no mark of a file that was deleted. -/
def NamesFile (path : List Char) : Prop :=
  path.head? = some '/' ∧ ¬ " (deleted)".toList <:+ path

/-- A line describes the mapping of a file: its five fields are a range, permissions, an offset, a
device and an inode, and what comes behind them, without the blanks around it, is the path. -/
def Describes (line : List Char) (mapping : Mapping) : Prop :=
  ∃ range permissions offset device inode rest,
    Text.BeginsWith line [range, permissions, offset, device, inode] rest ∧
      SpellsRange range mapping.start mapping.stop ∧ Spells offset mapping.offset ∧
      Text.TrimsTo rest mapping.path.toList ∧ NamesFile mapping.path.toList

lemma word?_eq_some_iff {text : List Char} {word : UInt64} :
    word? text = some word ↔ Spells text word := by
  have hread : word? text = some word ↔
      Numeral.read? 16 UInt64.size text = some word.toNat := by
    unfold word?
    rw [Option.map_eq_some_iff]
    constructor
    · rintro ⟨n, hn, rfl⟩
      have hlt : n < UInt64.size := (Numeral.read?_eq_some_iff.1 hn).1
      rwa [UInt64.toNat_ofNat_of_lt' hlt]
    · intro h
      exact ⟨word.toNat, h, UInt64.ofNat_toNat⟩
  rw [hread, Numeral.read?_eq_some_iff, and_iff_right word.toNat_lt]
  rfl

lemma range?_eq_some_iff {text : List Char} {start stop : Address} :
    range? text = some (start, stop) ↔ SpellsRange text start stop := by
  constructor
  · intro h
    unfold range? at h
    split at h
    · simp at h
    · rename_i c high hdash
      obtain ⟨hcut, hlow, hc⟩ := takeWhile_dropWhile_eq_iff.1 ⟨rfl, hdash⟩
      obtain rfl : c = '-' := by simpa using hc c rfl
      obtain ⟨low, hlowWord, hrest⟩ := Option.bind_eq_some_iff.1 h
      obtain ⟨high', hhighWord, hpair⟩ := Option.map_eq_some_iff.1 hrest
      obtain ⟨rfl, rfl⟩ := Prod.mk.inj hpair
      exact ⟨_, high, hcut, fun hmem => by simpa using hlow '-' hmem,
        word?_eq_some_iff.1 hlowWord, word?_eq_some_iff.1 hhighWord⟩
  · rintro ⟨low, high, rfl, hlow, hstart, hstop⟩
    have hall : ∀ c ∈ low, decide (c ≠ '-') := by
      intro c hc
      exact decide_eq_true fun hdash => hlow (hdash ▸ hc)
    obtain ⟨htake, hdrop⟩ := (takeWhile_dropWhile_eq_iff (p := fun c => decide (c ≠ '-'))
      (l := low ++ '-' :: high)).2 ⟨rfl, hall, by simp⟩
    unfold range?
    rw [hdrop, htake]
    simp [word?_eq_some_iff.2 hstart, word?_eq_some_iff.2 hstop]

lemma isFilePath_iff {path : List Char} : isFilePath path ↔ NamesFile path := by
  have hmark : deletedMark = " (deleted)".toList := rfl
  rw [isFilePath, NamesFile, hmark, Bool.and_eq_true, decide_eq_true_iff, Bool.not_eq_true',
    ← Bool.not_eq_true, List.isSuffixOf_iff_suffix]

/-- **What a line describes.**  Reading a line finds the mapping that it describes, and nothing if
it describes none. -/
lemma ofLine?_eq_some_iff {line : List Char} {mapping : Mapping} :
    ofLine? line = some mapping ↔ Describes line mapping := by
  simp only [ofLine?, Option.bind_eq_bind, Option.bind_eq_some_iff, Prod.exists,
    Option.ite_none_right_eq_some, Option.some.injEq, Describes, Text.beginsWith_cons_iff,
    Text.beginsWith_nil_iff]
  constructor
  · rintro ⟨range, text₁, hrange, permissions, text₂, hpermissions, offset, text₃, hoffset,
      device, text₄, hdevice, inode, rest, hinode, start, stop, hspells, word, hword, hfile, rfl⟩
    have htrim : Text.trim rest = (String.ofList (Text.trim rest)).toList := by simp
    exact ⟨range, permissions, offset, device, inode, rest,
      ⟨text₁, hrange, text₂, hpermissions, text₃, hoffset, text₄, hdevice, rest, hinode, rfl⟩,
      range?_eq_some_iff.1 hspells, word?_eq_some_iff.1 hword, Text.trim_eq_iff.1 htrim,
      isFilePath_iff.1 (htrim ▸ hfile)⟩
  · rintro ⟨range, permissions, offset, device, inode, _,
      ⟨text₁, hrange, text₂, hpermissions, text₃, hoffset, text₄, hdevice, rest, hinode, rfl⟩,
      hspells, hword, htrim, hfile⟩
    have hpath : Text.trim rest = mapping.path.toList := Text.trim_eq_iff.2 htrim
    refine ⟨range, text₁, hrange, permissions, text₂, hpermissions, offset, text₃, hoffset,
      device, text₄, hdevice, inode, rest, hinode, mapping.start, mapping.stop,
      range?_eq_some_iff.2 hspells, mapping.offset, word?_eq_some_iff.2 hword, ?_, ?_⟩
    · rw [hpath]
      exact isFilePath_iff.2 hfile
    · rw [hpath, String.ofList_toList]

end Mapping

end CallTrace
