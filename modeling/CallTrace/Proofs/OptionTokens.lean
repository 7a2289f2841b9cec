import Mathlib.Data.Set.Subsingleton
import CallTrace.Options
import CallTrace.Proofs.MappingLines

/-!
# What an option string consists of

An option string is cut into tokens by a scanner that looks for the end of each token.  This file
says without any scanning what the string consists of: items, and runs of blanks in front of them
and behind the last one.  An item is either what stands between two equal quotes, or a bare run of
characters that goes on as far as it can (`Item.Precedes`).  So a quoted item may be followed by
another item at once, and a bare one may not.

`tokenize_iff` says that a string has tokens if and only if it can be cut up like this
(`Decomposition`).  There is one way at most, and the tokens are the contents of its items.
A string that cannot be cut up has a quote at the beginning of an item that is never closed
(`Unclosed`), and then the whole string is reported.
-/

namespace CallTrace.Options

open Text (isAsciiBlank)

/-! ## Items -/

/-- A run of ASCII blanks, which may be empty. -/
def IsAsciiGap (text : List Char) : Prop := ∀ c ∈ text, isAsciiBlank c

/-- An item of an option string. -/
inductive Item where
  /-- What stands between two equal quotes. -/
  | quoted (quote : Char) (content : List Char)
  /-- A run of characters without blanks. -/
  | bare (content : List Char)
deriving DecidableEq, Repr

namespace Item

/-- The token that an item stands for. -/
def content : Item → List Char
  | quoted _ content => content
  | bare content => content

/-- An item as it is written. -/
def written : Item → List Char
  | quoted quote content => quote :: content ++ [quote]
  | bare content => content

/-- An item as it may stand in front of the rest of a text.  A quoted one ends at the next quote of
its kind, whatever follows.  A bare one does not begin with a quote, and it ends only at a blank or
at the end of the text. -/
inductive Precedes : Item → (rest : List Char) → Prop
  | quoted {quote content rest} : isQuote quote → quote ∉ content →
      Precedes (.quoted quote content) rest
  | bare {content rest} : content ≠ [] → (∀ c ∈ content, ¬ isAsciiBlank c) →
      (∀ c ∈ content.head?, ¬ isQuote c) → (∀ c ∈ rest.head?, isAsciiBlank c) →
      Precedes (.bare content) rest

end Item

/-- A text begins with items, each of them behind a run of blanks, and the rest comes behind
them. -/
inductive StartsWith :
    (text : List Char) → (items : List (List Char × Item)) → (rest : List Char) → Prop
  | nil {rest} : StartsWith rest [] rest
  | cons {gap item more items rest} : IsAsciiGap gap → item.Precedes more →
      StartsWith more items rest →
      StartsWith (gap ++ item.written ++ more) ((gap, item) :: items) rest

/-- Items with the runs of blanks in front of them, and the run of blanks at the end. -/
structure Decomposition where
  items : List (List Char × Item)
  gap : List Char
deriving DecidableEq, Repr

namespace Decomposition

/-- The contents of the items. -/
def tokens (parts : Decomposition) : List (List Char) := parts.items.map (·.2.content)

/-- A text is cut up into these items and blanks, and nothing is left. -/
def Describes (parts : Decomposition) (text : List Char) : Prop :=
  StartsWith text parts.items parts.gap ∧ IsAsciiGap parts.gap

end Decomposition

/-- A text has a quote at the beginning of an item, and no such quote comes later. -/
def Unclosed (text : List Char) : Prop :=
  ∃ items gap quote rest, StartsWith text items (gap ++ quote :: rest) ∧ IsAsciiGap gap ∧
    isQuote quote ∧ quote ∉ rest

/-! ## How items begin -/

lemma not_isAsciiBlank_of_isQuote {c : Char} (h : isQuote c) : ¬ isAsciiBlank c := by
  simp only [isQuote, Bool.or_eq_true, decide_eq_true_iff] at h
  rcases h with rfl | rfl <;> decide

/-- No item begins with a blank. -/
lemma Item.Precedes.exists_head {item : Item} {rest : List Char} (h : item.Precedes rest) :
    ∃ c tail, item.written = c :: tail ∧ ¬ isAsciiBlank c := by
  cases h with
  | quoted hquote _ => exact ⟨_, _, rfl, not_isAsciiBlank_of_isQuote hquote⟩
  | @bare content rest hne hall _ _ =>
    obtain ⟨c, tail, rfl⟩ := List.exists_cons_of_ne_nil hne
    exact ⟨c, tail, rfl, hall c (by simp)⟩

/-- A quoted content ends where its quote comes for the first time. -/
lemma quoted_append_eq_iff {quote : Char} {content more text : List Char} :
    text = content ++ quote :: more ∧ quote ∉ content ↔
      quote ∈ text ∧ text.takeWhile (· ≠ quote) = content ∧
        (text.dropWhile (· ≠ quote)).tail = more := by
  constructor
  · rintro ⟨rfl, hnot⟩
    have hfront : ∀ c ∈ content, decide (c ≠ quote) := by
      intro c hc
      rw [decide_eq_true_iff]
      rintro rfl
      exact hnot hc
    obtain ⟨htake, hdrop⟩ := takeWhile_dropWhile_eq_iff.2
      ⟨rfl, hfront, show ∀ c ∈ (quote :: more).head?, ¬ decide (c ≠ quote) by simp⟩
    exact ⟨by simp, htake, by rw [hdrop, List.tail_cons]⟩
  · rintro ⟨hmem, rfl, rfl⟩
    obtain ⟨hcut, hfront, hback⟩ :=
      (takeWhile_dropWhile_eq_iff (p := (· ≠ quote)) (l := text)).1 ⟨rfl, rfl⟩
    have hnot : quote ∉ text.takeWhile (· ≠ quote) := fun h => by simpa using hfront quote h
    refine ⟨?_, hnot⟩
    obtain ⟨c, tail, hdrop⟩ := List.exists_cons_of_ne_nil (l := text.dropWhile (· ≠ quote)) <| by
      intro hnil
      rw [hnil, List.append_nil] at hcut
      exact hnot (hcut ▸ hmem)
    obtain rfl : c = quote := by simpa using hback c (by rw [hdrop]; rfl)
    rw [hdrop] at hcut
    rw [hdrop, List.tail_cons]
    exact hcut

/-- A bare content ends where a blank comes for the first time. -/
lemma bare_append_eq_iff {content more text : List Char} :
    text = content ++ more ∧ (∀ c ∈ content, ¬ isAsciiBlank c) ∧
        (∀ c ∈ more.head?, isAsciiBlank c) ↔
      text.takeWhile (!isAsciiBlank ·) = content ∧ text.dropWhile (!isAsciiBlank ·) = more := by
  rw [takeWhile_dropWhile_eq_iff]
  simp

/-! ## What the scanner makes of the parts -/

lemma tokens?_cons_of_blank {c : Char} {rest : List Char} (h : isAsciiBlank c) :
    tokens? (c :: rest) = tokens? rest := by
  rw [tokens?, if_pos h]

lemma tokens?_gap_append {gap : List Char} (rest : List Char) (h : IsAsciiGap gap) :
    tokens? (gap ++ rest) = tokens? rest := by
  induction gap with
  | nil => rfl
  | cons c gap ih =>
    obtain ⟨hc, hgap⟩ := List.forall_mem_cons.1 h
    rw [List.cons_append, tokens?_cons_of_blank hc, ih hgap]

lemma tokens?_item_append {item : Item} {rest : List Char} (h : item.Precedes rest) :
    tokens? (item.written ++ rest) = (tokens? rest).map (item.content :: ·) := by
  cases h with
  | @quoted quote content rest hquote hnot =>
    have hwritten : (Item.quoted quote content).written ++ rest =
        quote :: (content ++ quote :: rest) := by simp [Item.written]
    obtain ⟨hmem, htake, htail⟩ := quoted_append_eq_iff.1 ⟨rfl, hnot⟩
    rw [hwritten, tokens?, if_neg (not_isAsciiBlank_of_isQuote hquote), if_pos hquote,
      if_pos hmem, htake, htail]
    rfl
  | @bare content rest hne hall hhead hrest =>
    obtain ⟨c, tail, rfl⟩ := List.exists_cons_of_ne_nil hne
    obtain ⟨hc, htail⟩ := List.forall_mem_cons.1 hall
    obtain ⟨htake, hdrop⟩ := bare_append_eq_iff.1 ⟨rfl, htail, hrest⟩
    rw [Item.written, List.cons_append, tokens?, if_neg hc, if_neg (hhead c rfl), htake, hdrop]
    rfl

lemma tokens?_of_unclosed_quote {quote : Char} {rest : List Char} (hquote : isQuote quote)
    (hnot : quote ∉ rest) : tokens? (quote :: rest) = none := by
  rw [tokens?, if_neg (not_isAsciiBlank_of_isQuote hquote), if_pos hquote, if_neg hnot]

/-- The items at the front of a text give the first tokens. -/
lemma tokens?_of_startsWith {text rest : List Char} {items : List (List Char × Item)}
    (h : StartsWith text items rest) :
    tokens? text = (tokens? rest).map (items.map (·.2.content) ++ ·) := by
  induction h with
  | nil => simp
  | cons hgap hitem _ ih =>
    rw [List.append_assoc, tokens?_gap_append _ hgap, tokens?_item_append hitem, ih,
      Option.map_map]
    rfl

lemma tokens?_of_describes {parts : Decomposition} {text : List Char} (h : parts.Describes text) :
    tokens? text = some parts.tokens := by
  have hgap := tokens?_gap_append [] h.2
  rw [List.append_nil] at hgap
  rw [tokens?_of_startsWith h.1, hgap, tokens?, Option.map_some, List.append_nil]
  rfl

lemma tokens?_of_unclosed {text : List Char} (h : Unclosed text) : tokens? text = none := by
  obtain ⟨items, gap, quote, rest, hstart, hgap, hquote, hnot⟩ := h
  rw [tokens?_of_startsWith hstart, tokens?_gap_append _ hgap,
    tokens?_of_unclosed_quote hquote hnot, Option.map_none]

/-! ## Every text is cut up or has an unclosed quote -/

/-- A text is all blanks, or an item comes first, or a quote comes first that is not closed. -/
lemma gap_or_item_or_unclosed (text : List Char) :
    IsAsciiGap text ∨
      (∃ gap, ∃ item : Item, ∃ more, text = gap ++ item.written ++ more ∧ IsAsciiGap gap ∧
        item.Precedes more) ∨
      ∃ gap quote rest, text = gap ++ quote :: rest ∧ IsAsciiGap gap ∧ isQuote quote ∧
        quote ∉ rest := by
  obtain ⟨hcut, hgap, hend⟩ :=
    (takeWhile_dropWhile_eq_iff (p := isAsciiBlank) (l := text)).1 ⟨rfl, rfl⟩
  generalize text.takeWhile isAsciiBlank = gap at hcut hgap
  cases hcore : text.dropWhile isAsciiBlank with
  | nil =>
    rw [hcore, List.append_nil] at hcut
    exact .inl (hcut ▸ hgap)
  | cons c rest =>
    rw [hcore] at hcut hend
    have hc : ¬ isAsciiBlank c := hend c rfl
    by_cases hquote : isQuote c
    · by_cases hmem : c ∈ rest
      · obtain ⟨hrest, hnot⟩ := quoted_append_eq_iff.2 ⟨hmem, rfl, rfl⟩
        refine .inr (.inl ⟨gap, .quoted c (rest.takeWhile (· ≠ c)),
          (rest.dropWhile (· ≠ c)).tail, ?_, hgap, .quoted hquote hnot⟩)
        rw [hcut, Item.written, List.append_assoc, List.append_assoc, List.singleton_append,
          List.cons_append, ← hrest]
      · exact .inr (.inr ⟨gap, c, rest, hcut, hgap, hquote, hmem⟩)
    · obtain ⟨hrest, hall, hmore⟩ :=
        bare_append_eq_iff.2 ⟨(rfl : rest.takeWhile (!isAsciiBlank ·) = _), rfl⟩
      refine .inr (.inl ⟨gap, .bare (c :: rest.takeWhile (!isAsciiBlank ·)),
        rest.dropWhile (!isAsciiBlank ·), ?_, hgap, ?_⟩)
      · rw [hcut, Item.written, List.append_assoc, List.cons_append, ← hrest]
      · exact .bare (by simp) (List.forall_mem_cons.2 ⟨hc, hall⟩) (by simpa using hquote) hmore

lemma exists_describes_or_unclosed (text : List Char) :
    (∃ parts : Decomposition, parts.Describes text) ∨ Unclosed text := by
  rcases gap_or_item_or_unclosed text with hgap |
    ⟨gap, item, more, htext, hgap, hitem⟩ | ⟨gap, quote, rest, rfl, hgap, hquote, hnot⟩
  · exact .inl ⟨⟨[], text⟩, .nil, hgap⟩
  · have hshorter : more.length < text.length := by
      obtain ⟨c, tail, hwritten, -⟩ := hitem.exists_head
      rw [htext, hwritten]
      simp only [List.length_append, List.length_cons]
      omega
    rcases exists_describes_or_unclosed more with ⟨parts, hparts, hend⟩ |
      ⟨items, gap', quote, rest, hstart, hquoted⟩
    · exact .inl ⟨⟨(gap, item) :: parts.items, parts.gap⟩, htext ▸ .cons hgap hitem hparts, hend⟩
    · exact .inr ⟨(gap, item) :: items, gap', quote, rest, htext ▸ .cons hgap hitem hstart,
        hquoted⟩
  · exact .inr ⟨[], gap, quote, rest, .nil, hgap, hquote, hnot⟩
termination_by text.length

/-! ## One way at most -/

/-- What comes first in a text determines the blanks in front of it. -/
lemma gap_unique {gap gap' rest rest' : List Char} (h : gap ++ rest = gap' ++ rest')
    (hgap : IsAsciiGap gap) (hgap' : IsAsciiGap gap') (hrest : ∀ c ∈ rest.head?, ¬ isAsciiBlank c)
    (hrest' : ∀ c ∈ rest'.head?, ¬ isAsciiBlank c) : gap = gap' ∧ rest = rest' := by
  obtain ⟨htake, hdrop⟩ := takeWhile_dropWhile_eq_iff.2 ⟨rfl, hgap, hrest⟩
  obtain ⟨htake', hdrop'⟩ := takeWhile_dropWhile_eq_iff.2 ⟨h, hgap', hrest'⟩
  exact ⟨htake.symm.trans htake', hdrop.symm.trans hdrop'⟩

lemma Item.Precedes.unique {item item' : Item} {more more' : List Char}
    (h : item.written ++ more = item'.written ++ more') (hitem : item.Precedes more)
    (hitem' : item'.Precedes more') : item = item' ∧ more = more' := by
  cases hitem with
  | @quoted quote content more hquote hnot =>
    cases hitem' with
    | @quoted quote' content' more' hquote' hnot' =>
      obtain ⟨rfl, hrest⟩ : quote = quote' ∧
          content ++ quote :: more = content' ++ quote' :: more' := by
        simpa [written] using h
      obtain ⟨-, htake, htail⟩ := quoted_append_eq_iff.1 ⟨rfl, hnot⟩
      obtain ⟨-, htake', htail'⟩ := quoted_append_eq_iff.1 ⟨hrest, hnot'⟩
      exact ⟨by rw [← htake, htake'], htail.symm.trans htail'⟩
    | @bare content' more' hne _ hhead _ =>
      obtain ⟨c, tail, rfl⟩ := List.exists_cons_of_ne_nil hne
      obtain ⟨rfl, -⟩ := List.cons.inj h
      exact absurd hquote (hhead _ rfl)
  | @bare content more hne hall hhead hmore =>
    cases hitem' with
    | @quoted quote' content' more' hquote' _ =>
      obtain ⟨c, tail, rfl⟩ := List.exists_cons_of_ne_nil hne
      obtain ⟨rfl, -⟩ := List.cons.inj h
      exact absurd hquote' (hhead _ rfl)
    | @bare content' more' _ hall' _ hmore' =>
      obtain ⟨htake, hdrop⟩ := bare_append_eq_iff.1 ⟨rfl, hall, hmore⟩
      obtain ⟨htake', hdrop'⟩ := bare_append_eq_iff.1 ⟨h, hall', hmore'⟩
      obtain rfl : content = content' := htake.symm.trans htake'
      exact ⟨rfl, hdrop.symm.trans hdrop'⟩

/-- What comes behind blanks is not blank when it is an item. -/
lemma Item.Precedes.head?_append {item : Item} {more : List Char} (h : item.Precedes more) :
    ∀ c ∈ (item.written ++ more).head?, ¬ isAsciiBlank c := by
  obtain ⟨c, tail, hwritten, hc⟩ := h.exists_head
  simpa [hwritten] using hc

/-- A text that is all blanks has no item. -/
lemma StartsWith.eq_nil_of_isAsciiGap {text rest : List Char} {items : List (List Char × Item)}
    (h : StartsWith text items rest) (htext : IsAsciiGap text) : items = [] := by
  cases h with
  | nil => rfl
  | cons _ hitem _ =>
    obtain ⟨c, tail, hwritten, hc⟩ := hitem.exists_head
    exact absurd (htext c (by simp [hwritten])) hc

lemma StartsWith.unique {text gap gap' : List Char} {items items' : List (List Char × Item)}
    (h : StartsWith text items gap) (hgap : IsAsciiGap gap) (h' : StartsWith text items' gap')
    (hgap' : IsAsciiGap gap') : items = items' ∧ gap = gap' := by
  induction h generalizing items' with
  | @nil text =>
    obtain rfl := h'.eq_nil_of_isAsciiGap hgap
    cases h'
    exact ⟨rfl, rfl⟩
  | @cons front item more items gap hfront hitem hmore ih =>
    generalize htext : front ++ item.written ++ more = text at h'
    cases h' with
    | nil =>
      obtain ⟨c, tail, hwritten, hc⟩ := hitem.exists_head
      exact absurd (hgap' c (by simp [← htext, hwritten])) hc
    | @cons front' item' more' items' _ hfront' hitem' hmore' =>
      rw [List.append_assoc, List.append_assoc] at htext
      obtain ⟨rfl, hrest⟩ :=
        gap_unique htext hfront hfront' hitem.head?_append hitem'.head?_append
      obtain ⟨rfl, rfl⟩ := hitem.unique hrest hitem'
      obtain ⟨rfl, rfl⟩ := ih hgap hmore'
      exact ⟨rfl, rfl⟩

lemma Decomposition.subsingleton (text : List Char) :
    {parts : Decomposition | parts.Describes text}.Subsingleton := by
  rintro ⟨items, gap⟩ ⟨hstart, hgap⟩ ⟨items', gap'⟩ ⟨hstart', hgap'⟩
  obtain ⟨rfl, rfl⟩ := hstart.unique hgap hstart' hgap'
  rfl

/-! ## Tokens -/

lemma tokens?_eq_some_iff {text : List Char} {tokens : List (List Char)} :
    tokens? text = some tokens ↔
      ∃ parts : Decomposition, parts.Describes text ∧ parts.tokens = tokens := by
  constructor
  · intro h
    rcases exists_describes_or_unclosed text with ⟨parts, hparts⟩ | hunclosed
    · exact ⟨parts, hparts, Option.some.inj ((tokens?_of_describes hparts).symm.trans h)⟩
    · rw [tokens?_of_unclosed hunclosed] at h
      exact absurd h (by simp)
  · rintro ⟨parts, hparts, rfl⟩
    exact tokens?_of_describes hparts

lemma unclosed_iff {text : List Char} :
    Unclosed text ↔ ¬ ∃ parts : Decomposition, parts.Describes text := by
  constructor
  · rintro hunclosed ⟨parts, hparts⟩
    have hnone := tokens?_of_unclosed hunclosed
    rw [tokens?_of_describes hparts] at hnone
    exact absurd hnone (by simp)
  · exact (exists_describes_or_unclosed text).resolve_left

lemma tokens?_eq_none_iff {text : List Char} : tokens? text = none ↔ Unclosed text := by
  rw [unclosed_iff, Option.eq_none_iff_forall_ne_some]
  constructor
  · rintro hnone ⟨parts, hparts⟩
    exact hnone parts.tokens (tokens?_of_describes hparts)
  · intro hnot tokens htokens
    obtain ⟨parts, hparts, -⟩ := tokens?_eq_some_iff.1 htokens
    exact hnot ⟨parts, hparts⟩

/-- **The tokens of an option string.**  A string has tokens if and only if it consists of items
and blanks; there is one way at most to cut it up, and the tokens are the contents of the items.
Otherwise, that is if and only if a quote at the beginning of an item is not closed, the answer is
an error with the whole string. -/
theorem tokenize_iff (text : String) :
    (∀ tokens, tokenize text = .ok tokens ↔ ∃ parts : Decomposition,
      parts.Describes text.toList ∧ parts.tokens.map String.ofList = tokens) ∧
    {parts : Decomposition | parts.Describes text.toList}.Subsingleton ∧
    (∀ cause, tokenize text = .error cause ↔
      cause = .unterminatedQuote text ∧ Unclosed text.toList) ∧
    (Unclosed text.toList ↔ ¬ ∃ parts : Decomposition, parts.Describes text.toList) := by
  refine ⟨fun tokens => ?_, Decomposition.subsingleton _, fun cause => ?_, unclosed_iff⟩
  · have hok : tokenize text = .ok tokens ↔
        ∃ parts, tokens? text.toList = some parts ∧ parts.map String.ofList = tokens := by
      unfold tokenize
      split <;> rename_i hparts <;> simp [hparts]
    rw [hok]
    constructor
    · rintro ⟨_, htokens, rfl⟩
      obtain ⟨parts, hparts, rfl⟩ := tokens?_eq_some_iff.1 htokens
      exact ⟨parts, hparts, rfl⟩
    · rintro ⟨parts, hparts, rfl⟩
      exact ⟨parts.tokens, tokens?_of_describes hparts, rfl⟩
  · rw [← tokens?_eq_none_iff]
    unfold tokenize
    split <;> rename_i hparts <;> simp [hparts, eq_comm]

-- Nothing has to stand between quoted items, and a quote inside a bare one is ordinary.
example : tokenize "\"a b\"'c' d\"e" = .ok ["a b", "c", "d\"e"] := by
  cbv

-- A form feed separates tokens.  A vertical tab does not, nor do blanks beyond ASCII.
example : tokenize "a\u000cb\u000b\r\u0085c\u00a0" = .ok ["a", "b\u000b", "\u0085c\u00a0"] := by
  decide +kernel

end CallTrace.Options
