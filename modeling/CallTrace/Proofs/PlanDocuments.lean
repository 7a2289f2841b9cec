import Mathlib.Data.List.Basic
import CallTrace.Plan.Json
import CallTrace.Proofs.Numerals

/-!
# What the document of a plan tells

The JSON document of a plan is written without a reader in this library, so it is said here that it
could be read in one way only: different plans have different documents (`Plan.json_injective`).

Names may hold whatever they like, also text that looks like a part of the document.  What keeps
them apart from it is that a quote and a backslash never stand for themselves inside a string.
`Json.IsValue` says which texts are laid out as values, and no value is the beginning of another one
(`Json.IsValue.append_inj`): a string ends with its quote, a list or map with its bracket, and a
number before the first character that is no digit.  So the items of a block can be cut apart one
after the other, and from the outermost block inwards nothing is lost.
-/

namespace CallTrace

namespace Json

/-! ## Strings -/

/-- The characters that are escaped by a mark behind the backslash, each with its mark. -/
def shortEscapes : List (Char × Char) :=
  [('"', '"'), ('\\', '\\'), ('\x08', 'b'), ('\x0c', 'f'), ('\n', 'n'), ('\r', 'r'), ('\t', 't')]

/-- How a character is written: by a mark, by its number, or as it is. -/
inductive Writes (c : Char) : List Char → Prop
  | short {mark : Char} (h : (c, mark) ∈ shortEscapes) : Writes c ['\\', mark]
  | control (h : c.toNat < 0x20) : Writes c (escapeControl c)
  | plain (hquote : c ≠ '"') (hbackslash : c ≠ '\\') : Writes c [c]

lemma writes_escapeChar (c : Char) : Writes c (escapeChar c) := by
  unfold escapeChar
  split
  case h_8 hquote hbackslash _ _ _ _ _ =>
    split
    · rename_i hcontrol
      exact .control hcontrol
    · exact .plain hquote hbackslash
  all_goals exact .short (by decide)

lemma digitChar_inj {m n : Nat} (hm : m < 16) (hn : n < 16)
    (h : Nat.digitChar m = Nat.digitChar n) : m = n := by
  have hall : ∀ m < 16, ∀ n < 16, Nat.digitChar m = Nat.digitChar n → m = n := by decide
  exact hall m hm n hn h

lemma escapeControl_inj {c d : Char} (hc : c.toNat < 0x20) (hd : d.toNat < 0x20)
    (h : escapeControl c = escapeControl d) : c = d := by
  simp only [escapeControl, List.cons.injEq, true_and, and_true] at h
  have hhigh := digitChar_inj (by omega) (by omega) h.1
  have hlow := digitChar_inj (by omega) (by omega) h.2
  exact Char.toNat_inj.1 (by omega)

/-- No written character is the beginning of another one. -/
lemma Writes.append_inj {c d : Char} {written other rest rest' : List Char}
    (hc : Writes c written) (hd : Writes d other) (h : written ++ rest = other ++ rest') :
    c = d ∧ rest = rest' := by
  have hmarks : ∀ first ∈ shortEscapes, ∀ second ∈ shortEscapes,
      first.2 = second.2 → first.1 = second.1 := by decide
  have hnumber : ∀ escape ∈ shortEscapes, escape.2 ≠ 'u' := by decide
  cases hc with
  | short hmark =>
    cases hd with
    | short hother =>
      simp only [List.cons_append, List.nil_append, List.cons.injEq, true_and] at h
      exact ⟨hmarks _ hmark _ hother h.1, h.2⟩
    | control _ =>
      simp only [escapeControl, List.cons_append, List.cons.injEq, true_and] at h
      exact absurd h.1 (hnumber _ hmark)
    | plain _ hbackslash =>
      simp only [List.cons_append, List.cons.injEq] at h
      exact absurd h.1.symm hbackslash
  | control hcontrol =>
    cases hd with
    | short hother =>
      simp only [escapeControl, List.cons_append, List.cons.injEq, true_and] at h
      exact absurd h.1.symm (hnumber _ hother)
    | control hother =>
      obtain ⟨hsame, hrest⟩ := List.append_inj h rfl
      exact ⟨escapeControl_inj hcontrol hother hsame, hrest⟩
    | plain _ hbackslash =>
      simp only [escapeControl, List.cons_append, List.cons.injEq] at h
      exact absurd h.1.symm hbackslash
  | plain _ hbackslash =>
    cases hd with
    | short _ =>
      simp only [List.cons_append, List.cons.injEq] at h
      exact absurd h.1 hbackslash
    | control _ =>
      simp only [escapeControl, List.cons_append, List.cons.injEq] at h
      exact absurd h.1 hbackslash
    | plain _ _ =>
      simp only [List.cons_append, List.nil_append, List.cons.injEq] at h
      exact h

/-- A quote at the front is none of the characters of a string. -/
lemma Writes.ne_quote_cons {c : Char} {written rest rest' : List Char} (h : Writes c written) :
    written ++ rest ≠ '"' :: rest' := by
  intro hquote
  cases h with
  | short _ => simp at hquote
  | control _ => simp [escapeControl] at hquote
  | plain hne _ => exact hne (List.cons.inj hquote).1

lemma flatMap_escapeChar_append_inj {s t rest rest' : List Char}
    (h : s.flatMap escapeChar ++ '"' :: rest = t.flatMap escapeChar ++ '"' :: rest') :
    s = t ∧ rest = rest' := by
  induction s generalizing t with
  | nil =>
    cases t with
    | nil => simpa using h
    | cons d t =>
      rw [List.flatMap_cons, List.append_assoc] at h
      exact absurd h.symm (writes_escapeChar d).ne_quote_cons
  | cons c s ih =>
    rw [List.flatMap_cons, List.append_assoc] at h
    cases t with
    | nil => exact absurd h (writes_escapeChar c).ne_quote_cons
    | cons d t =>
      rw [List.flatMap_cons, List.append_assoc] at h
      obtain ⟨rfl, hmore⟩ := (writes_escapeChar c).append_inj (writes_escapeChar d) h
      obtain ⟨rfl, hrest⟩ := ih hmore
      exact ⟨rfl, hrest⟩

/-- A string ends with its quote. -/
lemma string_append_inj {s t : String} {rest rest' : List Char}
    (h : string s ++ rest = string t ++ rest') : s = t ∧ rest = rest' := by
  simp only [string, List.cons_append, List.append_assoc, List.nil_append, List.cons.injEq,
    true_and] at h
  obtain ⟨hsame, hrest⟩ := flatMap_escapeChar_append_inj h
  exact ⟨String.toList_inj.1 hsame, hrest⟩

/-! ## Numbers -/

/-- A text does not begin with a digit, so that it may follow a number. -/
def NoDigit (text : List Char) : Prop := ∀ c ∈ text.head?, ¬ c.isDigit

lemma noDigit_nil : NoDigit [] := by simp [NoDigit]

lemma isDigit_of_mem_natural {n : Nat} : ∀ c ∈ natural n, c.isDigit := fun _ hc =>
  Nat.isDigit_of_mem_toDigits (by decide) (by decide) hc

lemma natural_inj {m n : Nat} (h : natural m = natural n) : m = n := by
  have hvalue : ∀ k, Nat.ofDigitChars 10 (natural k) 0 = k := fun _ =>
    Nat.ofDigitChars_toDigits (by decide) (by decide)
  rw [← hvalue m, h, hvalue n]

/-- The digits at the front of a number and what follows are its own. -/
lemma takeWhile_natural_append {n : Nat} {rest : List Char} (hrest : NoDigit rest) :
    (natural n ++ rest).takeWhile (·.isDigit) = natural n := by
  have hnone : rest.takeWhile (·.isDigit) = [] := by
    cases rest with
    | nil => rfl
    | cons c rest => exact List.takeWhile_cons_of_neg (hrest c rfl)
  rw [List.takeWhile_append_of_pos isDigit_of_mem_natural, hnone, List.append_nil]

lemma natural_append_inj {m n : Nat} {rest rest' : List Char} (hrest : NoDigit rest)
    (hrest' : NoDigit rest') (h : natural m ++ rest = natural n ++ rest') :
    m = n ∧ rest = rest' := by
  have hsame : natural m = natural n := by
    rw [← takeWhile_natural_append hrest, h, takeWhile_natural_append hrest']
  obtain rfl := natural_inj hsame
  exact ⟨rfl, List.append_cancel_left h⟩

lemma exists_natural_eq_cons (n : Nat) : ∃ c more, natural n = c :: more ∧ c.isDigit := by
  obtain ⟨c, more, hdigits⟩ : ∃ c more, natural n = c :: more :=
    List.exists_cons_of_ne_nil Nat.toDigits_ne_nil
  exact ⟨c, more, hdigits, isDigit_of_mem_natural c (hdigits ▸ List.mem_cons_self)⟩

lemma exists_integer_eq_cons (n : Int) :
    ∃ c more, integer n = c :: more ∧ (c = '-' ∨ c.isDigit) := by
  unfold integer
  split
  · exact ⟨_, _, rfl, .inl rfl⟩
  · obtain ⟨c, more, hdigits, hc⟩ := exists_natural_eq_cons n.natAbs
    exact ⟨c, more, hdigits, .inr hc⟩

/-- A number without a sign does not begin with one. -/
lemma natural_append_ne_minus_cons {n : Nat} {rest rest' : List Char} :
    natural n ++ rest ≠ '-' :: rest' := by
  obtain ⟨c, more, hdigits, hc⟩ := exists_natural_eq_cons n
  rintro h
  rw [hdigits, List.cons_append, List.cons.injEq] at h
  exact absurd hc (by rw [h.1]; decide)

lemma integer_append_inj {m n : Int} {rest rest' : List Char} (hrest : NoDigit rest)
    (hrest' : NoDigit rest') (h : integer m ++ rest = integer n ++ rest') :
    m = n ∧ rest = rest' := by
  unfold integer at h
  split_ifs at h with hm hn hn
  · obtain ⟨hsame, hmore⟩ := natural_append_inj hrest hrest' (List.cons.inj h).2
    exact ⟨by omega, hmore⟩
  · exact absurd h.symm natural_append_ne_minus_cons
  · exact absurd h natural_append_ne_minus_cons
  · obtain ⟨hsame, hmore⟩ := natural_append_inj hrest hrest' h
    exact ⟨by omega, hmore⟩

/-! ## Blocks -/

/-- Behind the first item each one follows a comma. -/
lemma intercalate_cons (separator item : List Char) (items : List (List Char)) :
    separator.intercalate (item :: items) = item ++ items.flatMap (separator ++ ·) := by
  induction items generalizing item with
  | nil => simp
  | cons next items ih =>
    rw [List.intercalate_cons_cons, ih, List.flatMap_cons, List.append_assoc, List.append_assoc]

/-- What follows an item of a block: further items, each behind a comma, and the end. -/
def remainder (right : Char) (depth : Nat) (items : List (List Char)) : List Char :=
  items.flatMap ((',' :: newLine (depth + 1)) ++ ·) ++ newLine depth ++ [right]

lemma remainder_cons (right : Char) (depth : Nat) (item : List Char) (items : List (List Char)) :
    remainder right depth (item :: items) =
      ',' :: newLine (depth + 1) ++ (item ++ remainder right depth items) := by
  simp only [remainder, List.flatMap_cons, List.append_assoc]

lemma block_cons (left right : Char) (depth : Nat) (item : List Char) (items : List (List Char)) :
    block left right depth (item :: items) =
      left :: newLine (depth + 1) ++ (item ++ remainder right depth items) := by
  rw [block, List.isEmpty_cons, if_neg (by decide), intercalate_cons]
  simp only [remainder, List.append_assoc, List.cons_append]

lemma noDigit_remainder_append (right : Char) (depth : Nat) (items : List (List Char))
    (rest : List Char) : NoDigit (remainder right depth items ++ rest) := by
  cases items <;> simp [NoDigit, remainder, newLine]

/-- Two texts stand at the front of one text only if they are the same, unless a digit follows. -/
def Apart (text other : List Char) : Prop :=
  ∀ rest rest', NoDigit rest → NoDigit rest' → text ++ rest = other ++ rest' → text = other

/-- After each item it can be seen whether another one follows, and what follows is no digit. -/
lemma remainder_append_inj {right : Char} {depth : Nat} {items items' : List (List Char)}
    {rest rest' : List Char} (hapart : ∀ item ∈ items, ∀ item' ∈ items', Apart item item')
    (h : remainder right depth items ++ rest = remainder right depth items' ++ rest') :
    items = items' ∧ rest = rest' := by
  induction items generalizing items' with
  | nil =>
    cases items' with
    | nil => exact ⟨rfl, List.append_cancel_left h⟩
    | cons item' items' => simp [remainder, newLine] at h
  | cons item items ih =>
    cases items' with
    | nil => simp [remainder, newLine] at h
    | cons item' items' =>
      rw [remainder_cons, remainder_cons] at h
      simp only [List.append_assoc] at h
      replace h := List.append_cancel_left h
      obtain rfl : item = item' := hapart _ List.mem_cons_self _ List.mem_cons_self _ _
        (noDigit_remainder_append _ _ _ _) (noDigit_remainder_append _ _ _ _) h
      have hmore : ∀ other ∈ items, ∀ other' ∈ items', Apart other other' :=
        fun _ hother _ hother' => hapart _ (List.mem_cons_of_mem _ hother) _
          (List.mem_cons_of_mem _ hother')
      obtain ⟨rfl, hrest⟩ := ih hmore (List.append_cancel_left h)
      exact ⟨rfl, hrest⟩

/-- A block ends with its bracket, and its items can be told apart. -/
lemma block_append_inj {left right : Char} {depth : Nat} {items items' : List (List Char)}
    {rest rest' : List Char} (hright : right ≠ '\n')
    (hapart : ∀ item ∈ items, ∀ item' ∈ items', Apart item item')
    (h : block left right depth items ++ rest = block left right depth items' ++ rest') :
    items = items' ∧ rest = rest' := by
  cases items with
  | nil =>
    cases items' with
    | nil => simpa [block] using h
    | cons item' items' =>
      rw [block_cons] at h
      simp [block, newLine, hright] at h
  | cons item items =>
    rw [block_cons] at h
    cases items' with
    | nil => simp [block, newLine, Ne.symm hright] at h
    | cons item' items' =>
      rw [block_cons] at h
      -- The first item stands behind the bracket as the others stand behind a comma.
      have hbehind : remainder right depth (item :: items) ++ rest =
          remainder right depth (item' :: items') ++ rest' := by
        rw [remainder_cons, remainder_cons]
        exact congrArg (',' :: ·) (List.cons.inj h).2
      exact remainder_append_inj hapart hbehind

/-! ## Values -/

lemma member_append_inj {entry entry' : String × List Char} {rest rest' : List Char}
    (h : member entry ++ rest = member entry' ++ rest') :
    entry.1 = entry'.1 ∧ entry.2 ++ rest = entry'.2 ++ rest' := by
  simp only [member, List.append_assoc] at h
  obtain ⟨hname, hvalue⟩ := string_append_inj h
  exact ⟨hname, List.append_cancel_left hvalue⟩

lemma member_injective : Function.Injective member := by
  intro entry entry' h
  obtain ⟨hname, hvalue⟩ := member_append_inj (congrArg (· ++ []) h)
  exact Prod.ext hname (List.append_cancel_right hvalue)

/-- A map ends with its bracket, and its members can be told apart if their values can. -/
lemma object_append_inj {depth : Nat} {members members' : List (String × List Char)}
    {rest rest' : List Char}
    (hapart : ∀ entry ∈ members, ∀ entry' ∈ members', Apart entry.2 entry'.2)
    (h : object depth members ++ rest = object depth members' ++ rest') :
    members = members' ∧ rest = rest' := by
  have hmembers : ∀ item ∈ members.map member, ∀ item' ∈ members'.map member,
      Apart item item' := by
    intro item hitem item' hitem' more more' hmore hmore' hsame
    obtain ⟨⟨name, value⟩, hentry, rfl⟩ := List.mem_map.1 hitem
    obtain ⟨⟨name', value'⟩, hentry', rfl⟩ := List.mem_map.1 hitem'
    obtain ⟨rfl, hvalue⟩ := member_append_inj hsame
    obtain rfl : value = value' := hapart _ hentry _ hentry' more more' hmore hmore' hvalue
    rfl
  obtain ⟨hsame, hrest⟩ := block_append_inj (by decide) hmembers h
  exact ⟨List.map_injective_iff.2 member_injective hsame, hrest⟩

/-- Texts that are laid out as values at a depth. -/
inductive IsValue : (depth : Nat) → List Char → Prop
  | string {depth : Nat} (text : String) : IsValue depth (string text)
  | integer {depth : Nat} (n : Int) : IsValue depth (integer n)
  | boolean {depth : Nat} (b : Bool) : IsValue depth (boolean b)
  | array {depth : Nat} {items : List (List Char)}
      (h : ∀ item ∈ items, IsValue (depth + 1) item) : IsValue depth (array depth items)
  | object {depth : Nat} {members : List (String × List Char)}
      (h : ∀ member ∈ members, IsValue (depth + 1) member.2) : IsValue depth (object depth members)

/-- What a value is can be seen from its first character. -/
inductive Kind where
  | string
  | number
  | truth
  | list
  | map
deriving DecidableEq

/-- The kind of the values that begin with a character. -/
def Kind.ofChar (c : Char) : Kind :=
  if c = '"' then string
  else if c = '[' then list
  else if c = '\x7b' then map
  else if c = 't' ∨ c = 'f' then truth
  else number

/-- The kind of the value at the front of a text. -/
def kind? (text : List Char) : Option Kind := text.head?.map Kind.ofChar

@[simp] lemma kind?_string_append (text : String) (rest : List Char) :
    kind? (string text ++ rest) = some .string := rfl

@[simp] lemma kind?_boolean_append (b : Bool) (rest : List Char) :
    kind? (boolean b ++ rest) = some .truth := by
  cases b <;> rfl

@[simp] lemma kind?_integer_append (n : Int) (rest : List Char) :
    kind? (integer n ++ rest) = some .number := by
  obtain ⟨c, more, hmore, hc⟩ := exists_integer_eq_cons n
  have hne : ∀ other : Char, ¬ (other = '-' ∨ other.isDigit) → c ≠ other := by
    rintro other hother rfl
    exact hother hc
  have hkind : Kind.ofChar c = .number := by
    simp [Kind.ofChar, hne '"' (by decide), hne '[' (by decide), hne '\x7b' (by decide),
      hne 't' (by decide), hne 'f' (by decide)]
  rw [hmore, List.cons_append, kind?, List.head?_cons, Option.map_some, hkind]

lemma kind?_block_append (left right : Char) (depth : Nat) (items : List (List Char))
    (rest : List Char) :
    kind? (block left right depth items ++ rest) = some (Kind.ofChar left) := by
  cases items with
  | nil => rfl
  | cons item items => rw [block_cons]; rfl

@[simp] lemma kind?_array_append (depth : Nat) (items : List (List Char)) (rest : List Char) :
    kind? (array depth items ++ rest) = some .list := kind?_block_append ..

@[simp] lemma kind?_object_append (depth : Nat) (members : List (String × List Char))
    (rest : List Char) : kind? (object depth members ++ rest) = some .map := kind?_block_append ..

lemma boolean_append_inj {b b' : Bool} {rest rest' : List Char}
    (h : boolean b ++ rest = boolean b' ++ rest') : b = b' ∧ rest = rest' := by
  cases b <;> cases b' <;> simp_all [boolean]

/-- **Values can be told apart.**  No value is the beginning of another one, unless what follows a
number is a digit. -/
theorem IsValue.append_inj {depth : Nat} {text other rest rest' : List Char}
    (htext : IsValue depth text) (hother : IsValue depth other) (hrest : NoDigit rest)
    (hrest' : NoDigit rest') (h : text ++ rest = other ++ rest') :
    text = other ∧ rest = rest' := by
  induction htext generalizing other rest rest' with
  | string s =>
    cases hother with
    | string t =>
      obtain ⟨rfl, hmore⟩ := string_append_inj h
      exact ⟨rfl, hmore⟩
    | _ => exact absurd (congrArg kind? h) (by simp)
  | integer m =>
    cases hother with
    | integer n =>
      obtain ⟨rfl, hmore⟩ := integer_append_inj hrest hrest' h
      exact ⟨rfl, hmore⟩
    | _ => exact absurd (congrArg kind? h) (by simp)
  | boolean b =>
    cases hother with
    | boolean b' =>
      obtain ⟨rfl, hmore⟩ := boolean_append_inj h
      exact ⟨rfl, hmore⟩
    | _ => exact absurd (congrArg kind? h) (by simp)
  | @array _ items _ ih =>
    cases hother with
    | @array _ items' hitems' =>
      have hapart : ∀ item ∈ items, ∀ item' ∈ items', Apart item item' :=
        fun item hitem item' hitem' _ _ hmore hmore' hsame =>
          (ih item hitem (hitems' item' hitem') hmore hmore' hsame).1
      obtain ⟨rfl, hmore⟩ := block_append_inj (by decide) hapart h
      exact ⟨rfl, hmore⟩
    | _ => exact absurd (congrArg kind? h) (by simp)
  | @object _ members _ ih =>
    cases hother with
    | @object _ members' hmembers' =>
      have hapart : ∀ entry ∈ members, ∀ entry' ∈ members', Apart entry.2 entry'.2 :=
        fun entry hentry entry' hentry' _ _ hmore hmore' hsame =>
          (ih entry hentry (hmembers' entry' hentry') hmore hmore' hsame).1
      obtain ⟨rfl, hmore⟩ := object_append_inj hapart h
      exact ⟨rfl, hmore⟩
    | _ => exact absurd (congrArg kind? h) (by simp)

lemma IsValue.apart {depth : Nat} {text other : List Char} (htext : IsValue depth text)
    (hother : IsValue depth other) : Apart text other :=
  fun _ _ hrest hrest' h => (htext.append_inj hother hrest hrest' h).1

lemma IsValue.natural {depth : Nat} (n : Nat) : IsValue depth (natural n) := .integer (n : Int)

lemma array_inj {depth : Nat} {items items' : List (List Char)}
    (hitems : ∀ item ∈ items, IsValue (depth + 1) item)
    (hitems' : ∀ item ∈ items', IsValue (depth + 1) item)
    (h : array depth items = array depth items') : items = items' :=
  (block_append_inj (by decide)
    (fun item hitem item' hitem' => (hitems item hitem).apart (hitems' item' hitem'))
    (congrArg (· ++ []) h)).1

lemma object_inj {depth : Nat} {members members' : List (String × List Char)}
    (hmembers : ∀ entry ∈ members, IsValue (depth + 1) entry.2)
    (hmembers' : ∀ entry ∈ members', IsValue (depth + 1) entry.2)
    (h : object depth members = object depth members') : members = members' :=
  (object_append_inj
    (fun entry hentry entry' hentry' => (hmembers entry hentry).apart (hmembers' entry' hentry'))
    (congrArg (· ++ []) h)).1

lemma string_inj {s t : String} (h : string s = string t) : s = t :=
  (string_append_inj (congrArg (· ++ []) h)).1

lemma integer_inj {m n : Int} (h : integer m = integer n) : m = n :=
  (integer_append_inj noDigit_nil noDigit_nil (congrArg (· ++ []) h)).1

lemma boolean_inj {b b' : Bool} (h : boolean b = boolean b') : b = b' :=
  (boolean_append_inj (congrArg (· ++ []) h)).1

end Json

/-! ## The document of a plan -/

open Json

namespace PlanRow

lemma isValue_of_mem_members {depth : Nat} {row : PlanRow} :
    ∀ entry ∈ row.members, IsValue depth entry.2 := by
  simp [members, IsValue.natural, IsValue.string]

lemma isValue_json (depth : Nat) (row : PlanRow) : IsValue depth (row.json depth) := by
  have hmembers : ∀ entry ∈ row.members, IsValue (depth + 1) entry.2 := isValue_of_mem_members
  exact .object hmembers

/-- Different rows are written differently. -/
lemma json_inj {depth : Nat} {row other : PlanRow} (h : row.json depth = other.json depth) :
    row = other := by
  have hmembers : row.members = other.members :=
    object_inj isValue_of_mem_members isValue_of_mem_members h
  simp only [members, List.cons.injEq, Prod.mk.injEq, true_and, and_true] at hmembers
  obtain ⟨hpc, hhook, hmodule, hsymbol⟩ := hmembers
  obtain ⟨pc, ⟨hook⟩, module, symbol⟩ := row
  obtain ⟨pc', ⟨hook'⟩, module', symbol'⟩ := other
  obtain rfl : pc = pc' := UInt64.toNat_inj.1 (natural_inj hpc)
  obtain rfl : hook = hook' := UInt64.toNat_inj.1 (natural_inj hhook)
  obtain rfl : module = module' := string_inj hmodule
  obtain rfl : symbol = symbol' := string_inj hsymbol
  rfl

end PlanRow

namespace Plan

lemma isValue_of_mem_map_json {depth : Nat} {rows : List PlanRow} :
    ∀ item ∈ rows.map (PlanRow.json depth), IsValue depth item := by
  intro item hitem
  obtain ⟨row, -, rfl⟩ := List.mem_map.1 hitem
  exact row.isValue_json depth

lemma isValue_of_mem_members {plan : Plan} : ∀ entry ∈ plan.members, IsValue 1 entry.2 := by
  have hmain : ∀ entry ∈ (plan.mainModule.map fun name => ("main_module", string name)).toList,
      IsValue 1 entry.2 := by
    cases plan.mainModule with
    | none => simp
    | some name => simp [IsValue.string]
  have hcounts : IsValue 1 (object 1 (plan.perModule.toList.map fun entry =>
      (entry.1, natural entry.2))) := by
    refine .object fun member hmember => ?_
    obtain ⟨entry, -, rfl⟩ := List.mem_map.1 hmember
    exact .natural entry.2
  have hrows : IsValue 1 (array 1 (plan.rows.map (PlanRow.json 2))) :=
    .array isValue_of_mem_map_json
  unfold members
  simp only [List.forall_mem_append, List.forall_mem_cons]
  exact ⟨⟨⟨.integer plan.pid, List.forall_mem_nil _⟩, hmain⟩, .boolean plan.onlyFromApp,
    .natural plan.total, hcounts, hrows, List.forall_mem_nil _⟩

/-- The member of the main module, which may be missing, does not pass for the one behind it. -/
lemma eq_of_members_eq {plan other : Plan} (h : plan.members = other.members) :
    integer plan.pid = integer other.pid ∧ plan.mainModule = other.mainModule ∧
      boolean plan.onlyFromApp = boolean other.onlyFromApp ∧
      array 1 (plan.rows.map (PlanRow.json 2)) = array 1 (other.rows.map (PlanRow.json 2)) := by
  unfold members at h
  cases hmain : plan.mainModule with
  | none =>
    cases hother : other.mainModule with
    | none =>
      simp only [hmain, hother, Option.map_none, Option.toList_none, List.append_nil,
        List.cons_append, List.nil_append, List.cons.injEq, Prod.mk.injEq, true_and,
        and_true] at h
      obtain ⟨hpid, hfilter, -, -, hrows⟩ := h
      exact ⟨hpid, rfl, hfilter, hrows⟩
    | some name' => simp [hmain, hother] at h
  | some name =>
    cases hother : other.mainModule with
    | none => simp [hmain, hother] at h
    | some name' =>
      simp only [hmain, hother, Option.map_some, Option.toList_some, List.cons_append,
        List.nil_append, List.cons.injEq, Prod.mk.injEq, true_and, and_true] at h
      obtain ⟨hpid, hname, hfilter, -, -, hrows⟩ := h
      exact ⟨hpid, congrArg some (string_inj hname), hfilter, hrows⟩

/-- **A document determines its plan.**  Plans that differ in the process, in the main module (also
by having none), in the filter, or in any part of the list of their rows have different
documents. -/
theorem json_injective : Function.Injective Plan.json := by
  intro plan other h
  have hmembers : plan.members = other.members :=
    object_inj isValue_of_mem_members isValue_of_mem_members (String.ofList_inj.1 h)
  obtain ⟨hpid, hmain, hfilter, hrows⟩ := eq_of_members_eq hmembers
  have hitems : plan.rows.map (PlanRow.json 2) = other.rows.map (PlanRow.json 2) :=
    array_inj isValue_of_mem_map_json isValue_of_mem_map_json hrows
  have hrows' : plan.rows = other.rows :=
    List.map_injective_iff.2 (fun _ _ => PlanRow.json_inj) hitems
  obtain ⟨pid, mainModule, onlyFromApp, rows⟩ := plan
  obtain rfl : pid = other.pid := integer_inj hpid
  obtain rfl : mainModule = other.mainModule := hmain
  obtain rfl : onlyFromApp = other.onlyFromApp := boolean_inj hfilter
  obtain rfl : rows = other.rows := hrows'
  rfl

end Plan

end CallTrace
