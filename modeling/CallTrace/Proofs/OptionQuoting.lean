import CallTrace.Proofs.OptionSettings
import CallTrace.Proofs.OptionTokens

/-!
# Option strings for given tokens

An option string has no escapes, so not every list of tokens has one.  A token can be put between
double quotes if it has none, and between single quotes if it has none.  A token with both kinds of
quotes can only stand as it is, and so it must not have a blank or begin with a quote.  Tokens that
can be written in one of these ways are `Representable`.

`quoting_round_trip` says that these are exactly the tokens that option strings have.  A list of
representable tokens is read back from the string that joins their written forms by spaces
(`joined`), and no string has another token.  For options this means that a string gives them just
if their directory can be written: flags and numbers never are an obstacle.
-/

namespace CallTrace.Options

open Text (isAsciiBlank)

/-! ## Tokens as items -/

/-- A token that some option string has. -/
def Representable (token : String) : Prop :=
  '"' ∉ token.toList ∨ '\'' ∉ token.toList ∨
    (token ≠ "" ∧ (∀ c ∈ token.toList, ¬ isAsciiBlank c) ∧ ∀ c ∈ token.toList.head?, ¬ isQuote c)

-- The quantifiers are decided on the token, and not over all characters.
instance (token : String) : Decidable (Representable token) :=
  decidable_of_iff ('"' ∉ token.toList ∨ '\'' ∉ token.toList ∨
      (token ≠ "" ∧ token.toList.all (!isAsciiBlank ·) ∧ token.toList.head?.all (!isQuote ·)))
    (by simp [Representable, Option.all_eq_true])

/-- The item that a token is written as: between double quotes if it has none, else between single
quotes if it has none, else as it is. -/
def Item.ofToken (token : List Char) : Item :=
  if '"' ∉ token then .quoted '"' token
  else if '\'' ∉ token then .quoted '\'' token
  else .bare token

/-- The written form of a token. -/
def quoted (token : String) : String := String.ofList (Item.ofToken token.toList).written

/-- Tokens in their written forms, with single spaces between them. -/
def joined (tokens : List String) : String := " ".intercalate (tokens.map quoted)

lemma Item.content_ofToken (token : List Char) : (Item.ofToken token).content = token := by
  unfold ofToken
  split_ifs <;> rfl

/-- The item of a representable token may stand in front of a blank and at the end of a text. -/
lemma Representable.precedes {token : String} (h : Representable token) {rest : List Char}
    (hrest : ∀ c ∈ rest.head?, isAsciiBlank c) : (Item.ofToken token.toList).Precedes rest := by
  unfold Item.ofToken
  by_cases hdouble : '"' ∈ token.toList
  · rw [if_neg (not_not.2 hdouble)]
    by_cases hsingle : '\'' ∈ token.toList
    · rw [if_neg (not_not.2 hsingle)]
      obtain ⟨-, hall, hhead⟩ :=
        (h.resolve_left (not_not.2 hdouble)).resolve_left (not_not.2 hsingle)
      exact .bare (List.ne_nil_of_mem hdouble) hall hhead hrest
    · rw [if_pos hsingle]
      exact .quoted rfl hsingle
  · rw [if_pos hdouble]
    exact .quoted rfl hdouble

/-- Whatever an item is written in front of, its content is representable. -/
lemma Item.Precedes.representable {item : Item} {rest : List Char} (h : item.Precedes rest) :
    Representable (String.ofList item.content) := by
  rw [Representable, String.toList_ofList]
  cases h with
  | @quoted quote content rest hquote hnot =>
    simp only [isQuote, Bool.or_eq_true, decide_eq_true_iff] at hquote
    rcases hquote with rfl | rfl
    · exact .inl hnot
    · exact .inr (.inl hnot)
  | @bare content rest hne hall hhead _ =>
    refine .inr (.inr ⟨?_, hall, hhead⟩)
    rwa [Ne, ← String.toList_inj, String.toList_ofList]

/-! ## Reading back -/

lemma toList_joined_cons (token : String) (tokens : List String) :
    (joined (token :: tokens)).toList = (Item.ofToken token.toList).written ++
      if tokens = [] then [] else ' ' :: (joined tokens).toList := by
  cases tokens with
  | nil => simp [joined, quoted]
  | cons other tokens =>
    rw [if_neg (List.cons_ne_nil _ _)]
    simp [joined, quoted]

lemma tokens?_joined {tokens : List String} (h : ∀ token ∈ tokens, Representable token) :
    tokens? (joined tokens).toList = some (tokens.map String.toList) := by
  induction tokens with
  | nil => simp [joined, tokens?]
  | cons token tokens ih =>
    obtain ⟨htoken, htokens⟩ := List.forall_mem_cons.1 h
    rw [toList_joined_cons]
    by_cases hlast : tokens = []
    · subst hlast
      rw [if_pos rfl, tokens?_item_append (htoken.precedes (by simp)), Item.content_ofToken,
        tokens?]
      rfl
    · have hspace : ∀ c ∈ (' ' :: (joined tokens).toList).head?, isAsciiBlank c := by
        simp [isAsciiBlank]
      rw [if_neg hlast, tokens?_item_append (htoken.precedes hspace), Item.content_ofToken,
        tokens?_cons_of_blank rfl, ih htokens]
      rfl

lemma tokenize_joined {tokens : List String} (h : ∀ token ∈ tokens, Representable token) :
    tokenize (joined tokens) = .ok tokens := by
  have hsame : (tokens.map String.toList).map String.ofList = tokens := by
    simp [List.map_map, Function.comp_def]
  rw [tokenize, tokens?_joined h]
  exact congrArg Except.ok hsame

/-! ## No other tokens -/

/-- Items at the front of a text have representable contents. -/
lemma StartsWith.representable {text rest : List Char} {items : List (List Char × Item)}
    (h : StartsWith text items rest) :
    ∀ item ∈ items, Representable (String.ofList item.2.content) := by
  induction h with
  | nil => simp
  | cons _ hitem _ ih => exact List.forall_mem_cons.2 ⟨hitem.representable, ih⟩

lemma representable_of_tokenize {text : String} {tokens : List String}
    (h : tokenize text = .ok tokens) : ∀ token ∈ tokens, Representable token := by
  unfold tokenize at h
  split at h <;> rename_i parts hparts
  · simp at h
  · obtain rfl := Except.ok.inj h
    obtain ⟨decomposition, hdescribes, rfl⟩ := tokens?_eq_some_iff.1 hparts
    simp only [Decomposition.tokens, List.map_map, List.forall_mem_map]
    exact hdescribes.1.representable

/-! ## Options -/

/-- A verbosity in decimal digits. -/
def Setting.ofVerbosity (n : UInt32) : Setting :=
  .verbose (String.ofList (Numeral.write 10 n.toNat)) n <| by
    rw [String.toList_ofList]
    exact Numeral.spellsDecimal_write n.toNat

/-- Settings that amount to given options. -/
def settingsFor (options : Options) : List Setting :=
  options.logDirectory.toList.map .logDirectory ++
    (if options.onlyFromApp then [.onlyFromApp] else []) ++ [.ofVerbosity options.verbose]

lemma ofSettings_settingsFor (options : Options) : ofSettings (settingsFor options) = options := by
  obtain ⟨directory, onlyFromApp, verbose⟩ := options
  rw [← foldl_set_defaults]
  cases directory <;> cases onlyFromApp <;> rfl

/-- No digit is a quote. -/
lemma representable_write (n : Nat) : Representable (String.ofList (Numeral.write 10 n)) := by
  rw [Representable, String.toList_ofList]
  refine .inl fun hquote => ?_
  have hdigit := Nat.isDigit_of_mem_toDigits (by decide) (by decide) hquote
  exact absurd hdigit (by decide)

lemma representable_settingsFor {options : Options}
    (h : ∀ path ∈ options.logDirectory, Representable path) :
    ∀ token ∈ tokensOf (settingsFor options), Representable token := by
  intro token htoken
  obtain ⟨setting, hsetting, htoken⟩ := List.mem_flatMap.1 htoken
  simp only [settingsFor, List.mem_append, List.mem_map, Option.mem_toList, List.mem_singleton,
    List.mem_ite_nil_right] at hsetting
  rcases hsetting with (⟨path, hpath, rfl⟩ | ⟨-, rfl⟩) | rfl
  · obtain rfl | rfl : token = "-logdir" ∨ token = path := by
      simpa [Setting.tokens] using htoken
    · exact .inl (by decide)
    · exact h _ hpath
  · obtain rfl : token = "-only_from_app" := by simpa [Setting.tokens] using htoken
    exact .inl (by decide)
  · obtain rfl | rfl : token = "-verbose" ∨
        token = String.ofList (Numeral.write 10 options.verbose.toNat) := by
      simpa [Setting.tokens, Setting.ofVerbosity] using htoken
    · exact .inl (by decide)
    · exact representable_write _

/-- The directory of options that are read is one of the tokens. -/
lemma mem_tokens_of_ofTokens {tokens : List String} {options : Options}
    (h : ofTokens tokens = .ok options) : ∀ path ∈ options.logDirectory, path ∈ tokens := by
  obtain ⟨settings, hfront, rfl⟩ := ofTokens_eq_ok_iff.1 h
  intro path hpath
  have hchosen : path ∈ settings.filterMap Setting.directory? := List.mem_of_getLast? hpath
  obtain ⟨setting, hsetting, hdirectory⟩ := List.mem_filterMap.1 hchosen
  rw [hfront.cut, List.append_nil]
  refine List.mem_flatMap.2 ⟨setting, hsetting, ?_⟩
  cases setting with
  | logDirectory other =>
    obtain rfl := Option.some.inj hdirectory
    simp [Setting.tokens]
  | onlyFromApp | verbose => simp [Setting.directory?] at hdirectory

lemma exists_parse_iff {options : Options} :
    (∃ text, parse text = .ok options) ↔ ∀ path ∈ options.logDirectory, Representable path := by
  constructor
  · rintro ⟨text, htext⟩ path hpath
    cases htokens : tokenize text with
    | error cause => simp [parse_of_tokenize_eq_error htokens] at htext
    | ok tokens =>
      rw [parse_of_tokenize_eq_ok htokens] at htext
      exact representable_of_tokenize htokens _ (mem_tokens_of_ofTokens htext path hpath)
  · intro h
    refine ⟨joined (tokensOf (settingsFor options)), ?_⟩
    rw [parse_of_tokenize_eq_ok (tokenize_joined (representable_settingsFor h))]
    exact (ofTokens_tokensOf _).trans (congrArg _ (ofSettings_settingsFor options))

/-- **Tokens are read back from their written forms.**  Representable tokens come back from the
string that joins them, and a string has no other tokens.  So the options that strings give are
those whose directory is representable, if they have one. -/
theorem quoting_round_trip :
    (∀ tokens : List String, (∀ token ∈ tokens, Representable token) →
      tokenize (joined tokens) = .ok tokens) ∧
    (∀ text tokens, tokenize text = .ok tokens → ∀ token ∈ tokens, Representable token) ∧
    ∀ options : Options, (∃ text, parse text = .ok options) ↔
      ∀ path ∈ options.logDirectory, Representable path :=
  ⟨fun _ => tokenize_joined, fun _ _ => representable_of_tokenize, fun _ => exists_parse_iff⟩

/-- Each of the three written forms, an empty token, and a directory that no string gives. -/
theorem mixed_tokens_read_back :
    tokenize "\"-logdir\" \"a b\" 'say \"it\"' x\"y'z \"\"" =
        .ok ["-logdir", "a b", "say \"it\"", "x\"y'z", ""] ∧
      ¬ ∃ text, parse text = .ok ⟨some "\"it's\"", false, 0⟩ := by
  obtain ⟨hback, -, hparse⟩ := quoting_round_trip
  refine ⟨?_, fun hsome => ?_⟩
  · have hjoined : joined ["-logdir", "a b", "say \"it\"", "x\"y'z", ""] =
        "\"-logdir\" \"a b\" 'say \"it\"' x\"y'z \"\"" := by decide +kernel
    rw [← hjoined]
    exact hback _ (by decide)
  · exact absurd ((hparse _).1 hsome _ rfl) (by decide)

end CallTrace.Options
