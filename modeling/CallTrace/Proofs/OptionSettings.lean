import Mathlib.Data.List.Induction
import Mathlib.Data.Prod.Basic
import CallTrace.Options
import CallTrace.Proofs.Numerals

/-!
# What a list of option tokens says

A token is an option or the argument of one, and which of them it is depends on everything in front
of it.  This file says without a reader what a list of tokens says.  A *setting* is an option
together with the argument that it takes, and a list of tokens begins with settings, as many as
there can be (`LongestFront`).  No setting is the beginning of another one (`tokens_append_inj`), so
there is just one way to take settings off the front, and the longest front is the one behind which
no setting comes.

`ofTokens_iff` says what becomes of a list.  If it consists of settings, its options are what these
amount to, the last of a repeated setting being the one that counts.  Otherwise the tokens behind
the longest front decide what is wrong (`Complaint`), and whatever comes later in the list does not
matter to a complaint about an unknown option or a bad number.  A reading has a result and notices,
and the lemmas about `readTokens` are about both, so that what was told is known with the result
(`told_eq`).
-/

namespace CallTrace.Options

open Numeral (SpellsDecimal)

/-! ## Settings -/

/-- An option with the argument that it takes. -/
inductive Setting where
  | onlyFromApp
  | logDirectory (path : String)
  | verbose (value : String) (n : UInt32) (spelled : SpellsDecimal value.toList n.toNat)
deriving DecidableEq

namespace Setting

/-- The tokens of a setting. -/
def tokens : Setting → List String
  | onlyFromApp => ["-only_from_app"]
  | logDirectory path => ["-logdir", path]
  | verbose value _ _ => ["-verbose", value]

/-- The directory that a setting chooses, if it chooses one. -/
def directory? : Setting → Option String
  | logDirectory path => some path
  | onlyFromApp | verbose .. => none

/-- The verbosity that a setting chooses, if it chooses one. -/
def verbosity? : Setting → Option UInt32
  | verbose _ n _ => some n
  | onlyFromApp | logDirectory _ => none

/-- The options after a setting. -/
def set (options : Options) : Setting → Options
  | onlyFromApp => { options with onlyFromApp := true }
  | logDirectory path => { options with logDirectory := some path }
  | verbose _ n _ => { options with verbose := n }

end Setting

/-- The tokens of settings in a row. -/
def tokensOf (settings : List Setting) : List String := settings.flatMap Setting.tokens

@[simp] lemma tokensOf_nil : tokensOf [] = [] := rfl

@[simp] lemma tokensOf_cons (setting : Setting) (settings : List Setting) :
    tokensOf (setting :: settings) = setting.tokens ++ tokensOf settings :=
  List.flatMap_cons

lemma tokensOf_concat (settings : List Setting) (setting : Setting) :
    tokensOf (settings ++ [setting]) = tokensOf settings ++ setting.tokens := by
  rw [tokensOf, List.flatMap_append, List.flatMap_singleton]
  rfl

/-- The options that settings amount to.  Of the directories and of the verbosities the last one
counts. -/
def ofSettings (settings : List Setting) : Options where
  logDirectory := (settings.filterMap Setting.directory?).getLast?
  onlyFromApp := .onlyFromApp ∈ settings
  verbose := (settings.filterMap Setting.verbosity?).getLastD 0

/-- Tokens begin with settings, as many as there can be, and the rest comes behind them. -/
structure LongestFront (tokens : List String) (settings : List Setting) (rest : List String) :
    Prop where
  cut : tokens = tokensOf settings ++ rest
  longest : ∀ others more, tokens = tokensOf others ++ more →
    (tokensOf others).length ≤ (tokensOf settings).length

/-- What is wrong with tokens at whose beginning there is no setting. -/
inductive Complaint : (rest : List String) → ConfigError → Prop
  | noDirectory : Complaint ["-logdir"] .missingLogDirectory
  | noVerbosity : Complaint ["-verbose"] .missingVerbosity
  | badVerbosity {value more} : (¬ ∃ n : UInt32, SpellsDecimal value.toList n.toNat) →
      Complaint ("-verbose" :: value :: more) (.invalidVerbosity value)
  | unknown {token more} : token ∉ ["-only_from_app", "-logdir", "-verbose"] →
      Complaint (token :: more) (.unrecognizedOption token)

/-! ## Reading settings -/

lemma verbosity?_eq_some_iff {value : String} {n : UInt32} :
    verbosity? value = some n ↔ SpellsDecimal value.toList n.toNat := by
  have hread : verbosity? value = some n ↔
      Numeral.read? 10 UInt32.size value.toList = some n.toNat := by
    unfold verbosity?
    rw [Option.map_eq_some_iff]
    constructor
    · rintro ⟨k, hk, rfl⟩
      have hlt : k < UInt32.size := (Numeral.read?_ten_eq_some_iff.1 hk).1
      rwa [UInt32.toNat_ofNat_of_lt' hlt]
    · intro h
      exact ⟨n.toNat, h, UInt32.ofNat_toNat⟩
  rw [hread, Numeral.read?_ten_eq_some_iff, and_iff_right n.toNat_lt]

lemma readTokens_tokens_append (options : Options) (setting : Setting) (rest : List String) :
    readTokens options (setting.tokens ++ rest) = readTokens (setting.set options) rest := by
  cases setting with
  | onlyFromApp => rw [Setting.tokens, List.singleton_append, readTokens, Setting.set]
  | logDirectory path => rw [Setting.tokens, List.cons_append, List.singleton_append, readTokens,
      Setting.set]
  | verbose value n spelled =>
    rw [Setting.tokens, List.cons_append, List.singleton_append, readTokens, Setting.set,
      verbosity?_eq_some_iff.2 spelled]

lemma readTokens_tokensOf_append (options : Options) (settings : List Setting)
    (rest : List String) :
    readTokens options (tokensOf settings ++ rest) =
      readTokens (settings.foldl Setting.set options) rest := by
  induction settings generalizing options with
  | nil => rfl
  | cons setting settings ih =>
    rw [tokensOf_cons, List.append_assoc, readTokens_tokens_append, ih, List.foldl_cons]

lemma ofSettings_concat (settings : List Setting) (setting : Setting) :
    ofSettings (settings ++ [setting]) = setting.set (ofSettings settings) := by
  cases setting <;> simp [ofSettings, Setting.set, Setting.directory?, Setting.verbosity?]

/-- Setting one after the other leaves the last values. -/
lemma foldl_set_defaults (settings : List Setting) :
    settings.foldl Setting.set defaults = ofSettings settings := by
  induction settings using List.reverseRecOn with
  | nil => rfl
  | append_singleton settings setting ih =>
    rw [List.foldl_append, ih, List.foldl_cons, List.foldl_nil, ofSettings_concat]

lemma readTokens_defaults_append (settings : List Setting) (rest : List String) :
    readTokens defaults (tokensOf settings ++ rest) = readTokens (ofSettings settings) rest := by
  rw [readTokens_tokensOf_append, foldl_set_defaults]

/-- Tokens that consist of settings are read as what the settings amount to, without a notice. -/
lemma readTokens_tokensOf (settings : List Setting) :
    readTokens defaults (tokensOf settings) = (.ok (ofSettings settings), []) := by
  rw [← List.append_nil (tokensOf settings), readTokens_defaults_append, readTokens]

lemma ofTokens_tokensOf (settings : List Setting) :
    ofTokens (tokensOf settings) = .ok (ofSettings settings) :=
  congrArg Prod.fst (readTokens_tokensOf settings)

/-! ## One way to take settings off the front -/

lemma Setting.length_tokens_pos (setting : Setting) : 0 < setting.tokens.length := by
  cases setting <;> simp [tokens]

/-- No setting is the beginning of another one. -/
lemma Setting.tokens_append_inj {setting other : Setting} {rest more : List String}
    (h : setting.tokens ++ rest = other.tokens ++ more) : setting = other ∧ rest = more := by
  cases setting with
  | onlyFromApp => cases other <;> simp_all [tokens]
  | logDirectory path => cases other <;> simp_all [tokens]
  | verbose value n spelled =>
    cases other with
    | onlyFromApp | logDirectory path => simp [tokens] at h
    | verbose value' n' spelled' =>
      obtain ⟨rfl, rfl⟩ : value = value' ∧ rest = more := by simpa [tokens] using h
      obtain rfl : n = n' := Option.some.inj
        ((verbosity?_eq_some_iff.2 spelled).symm.trans (verbosity?_eq_some_iff.2 spelled'))
      exact ⟨rfl, rfl⟩

/-- No setting stands at the beginning of the tokens. -/
def Unset (rest : List String) : Prop :=
  ∀ (setting : Setting) (more : List String), rest ≠ setting.tokens ++ more

/-- Tokens begin with settings behind which there is no further one. -/
lemma exists_front (tokens : List String) :
    ∃ settings rest, tokens = tokensOf settings ++ rest ∧ Unset rest := by
  by_cases hunset : Unset tokens
  · exact ⟨[], tokens, rfl, hunset⟩
  · simp only [Unset, not_forall, not_not] at hunset
    obtain ⟨setting, more, rfl⟩ := hunset
    have hshorter : more.length < (setting.tokens ++ more).length := by
      rw [List.length_append]
      exact Nat.lt_add_of_pos_left setting.length_tokens_pos
    obtain ⟨settings, rest, rfl, hrest⟩ := exists_front more
    exact ⟨setting :: settings, rest, by rw [tokensOf_cons, List.append_assoc], hrest⟩
termination_by tokens.length

/-- Settings that can be taken off the front are the first of those behind which there is none. -/
lemma exists_append_of_unset {settings others : List Setting} {rest more : List String}
    (hunset : Unset rest) (h : tokensOf settings ++ rest = tokensOf others ++ more) :
    ∃ last, settings = others ++ last ∧ more = tokensOf last ++ rest := by
  induction others generalizing settings with
  | nil => exact ⟨settings, rfl, h.symm⟩
  | cons other others ih =>
    rw [tokensOf_cons, List.append_assoc] at h
    cases settings with
    | nil => exact absurd h (hunset other _)
    | cons setting settings =>
      rw [tokensOf_cons, List.append_assoc] at h
      obtain ⟨rfl, hrest⟩ := Setting.tokens_append_inj h
      obtain ⟨last, rfl, hmore⟩ := ih hrest
      exact ⟨last, rfl, hmore⟩

lemma longestFront_iff {tokens : List String} {settings : List Setting} {rest : List String} :
    LongestFront tokens settings rest ↔ tokens = tokensOf settings ++ rest ∧ Unset rest := by
  constructor
  · rintro ⟨hcut, hlongest⟩
    refine ⟨hcut, ?_⟩
    rintro setting more rfl
    have hcut' : tokens = tokensOf (settings ++ [setting]) ++ more := by
      rw [hcut, tokensOf_concat, List.append_assoc]
    have hle := hlongest _ _ hcut'
    rw [tokensOf_concat, List.length_append] at hle
    have hpos := setting.length_tokens_pos
    omega
  · rintro ⟨hcut, hunset⟩
    refine ⟨hcut, fun others more hothers => ?_⟩
    obtain ⟨last, rfl, -⟩ := exists_append_of_unset hunset (hcut.symm.trans hothers)
    rw [tokensOf, tokensOf, List.flatMap_append, List.length_append]
    exact Nat.le_add_right _ _

/-- There is one longest front. -/
lemma existsUnique_longestFront (tokens : List String) :
    ∃! parts : List Setting × List String, LongestFront tokens parts.1 parts.2 := by
  obtain ⟨settings, rest, hcut, hunset⟩ := exists_front tokens
  refine ⟨(settings, rest), longestFront_iff.2 ⟨hcut, hunset⟩, ?_⟩
  rintro ⟨others, more⟩ hothers
  obtain ⟨hcut', hunset'⟩ := longestFront_iff.1 hothers
  obtain ⟨last, hlast, hmore⟩ := exists_append_of_unset hunset (hcut.symm.trans hcut')
  cases last with
  | nil =>
    rw [List.append_nil] at hlast
    exact Prod.ext hlast.symm hmore
  | cons setting last =>
    rw [tokensOf_cons, List.append_assoc] at hmore
    exact absurd hmore (hunset' setting _)

/-! ## What comes behind the settings -/

/-- Tokens without a setting at the beginning give rise to a complaint, unless there are none. -/
lemma Unset.exists_complaint {rest : List String} (h : Unset rest) (hne : rest ≠ []) :
    ∃ cause, Complaint rest cause := by
  obtain ⟨token, more, rfl⟩ := List.exists_cons_of_ne_nil hne
  by_cases hknown : token ∈ ["-only_from_app", "-logdir", "-verbose"]
  · simp only [List.mem_cons, List.not_mem_nil, or_false] at hknown
    rcases hknown with rfl | rfl | rfl
    · exact absurd rfl (h .onlyFromApp more)
    · cases more with
      | nil => exact ⟨_, .noDirectory⟩
      | cons path more => exact absurd rfl (h (.logDirectory path) more)
    · cases more with
      | nil => exact ⟨_, .noVerbosity⟩
      | cons value more =>
        refine ⟨_, .badVerbosity ?_⟩
        rintro ⟨n, spelled⟩
        exact h (.verbose value n spelled) more rfl
  · exact ⟨_, .unknown hknown⟩

/-- The complaint is what reading ends with, and it is told of as its error demands. -/
lemma Complaint.readTokens_eq {rest : List String} {cause : ConfigError} (h : Complaint rest cause)
    (options : Options) : readTokens options rest = (.error cause, cause.notices) := by
  cases h with
  | noDirectory => rw [readTokens, ConfigError.notices]
  | noVerbosity => rw [readTokens, ConfigError.notices]
  | @badVerbosity value more hbad =>
    have hnone : verbosity? value = none := by
      rw [Option.eq_none_iff_forall_ne_some]
      exact fun n hn => hbad ⟨n, verbosity?_eq_some_iff.1 hn⟩
    rw [readTokens, hnone, ConfigError.notices]
  | @unknown token more hunknown =>
    simp only [List.mem_cons, List.not_mem_nil, or_false, not_or] at hunknown
    obtain ⟨honly, hlogdir, hverbose⟩ := hunknown
    rw [readTokens, ConfigError.notices]
    all_goals simp [honly, hlogdir, hverbose]

/-- A complaint about an unknown option or a bad number is the same whatever comes later. -/
lemma Complaint.append {rest : List String} {cause : ConfigError} (h : Complaint rest cause)
    (hcause : ∃ text, cause = .unrecognizedOption text ∨ cause = .invalidVerbosity text)
    (more : List String) : Complaint (rest ++ more) cause := by
  cases h with
  | noDirectory | noVerbosity => simp at hcause
  | badVerbosity hbad => exact .badVerbosity hbad
  | unknown hunknown => exact .unknown hunknown

/-! ## Outcomes -/

lemma readTokens_of_complaint {settings : List Setting} {rest : List String} {cause : ConfigError}
    (h : Complaint rest cause) :
    readTokens defaults (tokensOf settings ++ rest) = (.error cause, cause.notices) := by
  rw [readTokens_defaults_append, h.readTokens_eq]

lemma ofTokens_of_complaint {settings : List Setting} {rest : List String} {cause : ConfigError}
    (h : Complaint rest cause) : ofTokens (tokensOf settings ++ rest) = .error cause :=
  congrArg Prod.fst (readTokens_of_complaint h)

/-- Either the tokens consist of settings, or there is a complaint about what comes behind them. -/
lemma exists_outcome (tokens : List String) :
    ∃ settings rest, LongestFront tokens settings rest ∧
      (rest = [] ∧ readTokens defaults tokens = (.ok (ofSettings settings), []) ∨
        ∃ cause, Complaint rest cause ∧
          readTokens defaults tokens = (.error cause, cause.notices)) := by
  obtain ⟨settings, rest, rfl, hunset⟩ := exists_front tokens
  refine ⟨settings, rest, longestFront_iff.2 ⟨rfl, hunset⟩, ?_⟩
  by_cases hnil : rest = []
  · subst hnil
    rw [List.append_nil]
    exact .inl ⟨rfl, readTokens_tokensOf settings⟩
  · obtain ⟨cause, hcause⟩ := hunset.exists_complaint hnil
    exact .inr ⟨cause, hcause, readTokens_of_complaint hcause⟩

lemma ofTokens_eq_ok_iff {tokens : List String} {options : Options} :
    ofTokens tokens = .ok options ↔
      ∃ settings, LongestFront tokens settings [] ∧ ofSettings settings = options := by
  constructor
  · intro hok
    obtain ⟨settings, rest, hfront, ⟨rfl, houtcome⟩ | ⟨cause, -, houtcome⟩⟩ :=
      exists_outcome tokens
    · rw [ofTokens, houtcome] at hok
      exact ⟨settings, hfront, Except.ok.inj hok⟩
    · rw [ofTokens, houtcome] at hok
      exact absurd hok (by simp)
  · rintro ⟨settings, hfront, rfl⟩
    rw [hfront.cut, List.append_nil, ofTokens_tokensOf]

lemma ofTokens_eq_error_iff {tokens : List String} {cause : ConfigError} :
    ofTokens tokens = .error cause ↔
      ∃ settings rest, LongestFront tokens settings rest ∧ Complaint rest cause := by
  constructor
  · intro herror
    obtain ⟨settings, rest, hfront, ⟨-, houtcome⟩ | ⟨other, hother, houtcome⟩⟩ :=
      exists_outcome tokens
    · rw [ofTokens, houtcome] at herror
      exact absurd herror (by simp)
    · rw [ofTokens, houtcome] at herror
      obtain rfl : other = cause := Except.error.inj herror
      exact ⟨settings, rest, hfront, hother⟩
  · rintro ⟨settings, rest, hfront, hcause⟩
    rw [hfront.cut, ofTokens_of_complaint hcause]

/-- What is told is what the error demands, and nothing without an error. -/
lemma told_eq (tokens : List String) :
    told tokens = match ofTokens tokens with
      | .ok _ => []
      | .error cause => cause.notices := by
  obtain ⟨settings, rest, -, ⟨-, houtcome⟩ | ⟨cause, -, houtcome⟩⟩ := exists_outcome tokens
  · rw [told, ofTokens, houtcome]
  · rw [told, ofTokens, houtcome]

/-- A quote that is never closed demands no notice, so that the same holds of option strings. -/
lemma read_snd_eq (text : String) :
    (read text).2 = match parse text with
      | .ok _ => []
      | .error cause => cause.notices := by
  unfold parse read tokenize
  cases tokens? text.toList with
  | none => rfl
  | some tokens => exact told_eq _

/-- Of the errors only that about an unknown option is told. -/
lemma exists_told_error_iff {tokens : List String} :
    (∃ notice ∈ told tokens, notice.level = .error) ↔
      ∃ token, ofTokens tokens = .error (.unrecognizedOption token) := by
  rw [told_eq]
  cases ofTokens tokens with
  | ok options => simp
  | error cause => cases cause <;> simp [ConfigError.notices, Notice.level]

/-- **What a list of option tokens says.**  There is one longest front of settings.  If it is the
whole list, the options are what the settings amount to; otherwise the error is the complaint about
what comes behind them, and it is told as an error if it is about an unknown option.  What is
appended to the list changes no complaint about an unknown option or a bad number. -/
theorem ofTokens_iff (tokens : List String) :
    (∃! parts : List Setting × List String, LongestFront tokens parts.1 parts.2) ∧
    (∀ options, ofTokens tokens = .ok options ↔
      ∃ settings, LongestFront tokens settings [] ∧ ofSettings settings = options) ∧
    (∀ cause, ofTokens tokens = .error cause ↔
      ∃ settings rest, LongestFront tokens settings rest ∧ Complaint rest cause) ∧
    ((∃ notice ∈ told tokens, notice.level = .error) ↔
      ∃ token, ofTokens tokens = .error (.unrecognizedOption token)) ∧
    ∀ cause, ofTokens tokens = .error cause →
      (∃ text, cause = .unrecognizedOption text ∨ cause = .invalidVerbosity text) →
      ∀ more, ofTokens (tokens ++ more) = .error cause := by
  refine ⟨existsUnique_longestFront tokens, fun _ => ofTokens_eq_ok_iff,
    fun _ => ofTokens_eq_error_iff, exists_told_error_iff, fun cause herror hcause more => ?_⟩
  obtain ⟨settings, rest, hfront, hcomplaint⟩ := ofTokens_eq_error_iff.1 herror
  rw [hfront.cut, List.append_assoc]
  exact ofTokens_of_complaint (hcomplaint.append hcause more)

/-- An argument may look like an option.  Behind a bad number anything may follow, even an option
without its argument. -/
theorem ofTokens_of_bad_number :
    ofTokens ["-logdir", "-verbose", "-verbose", "4294967296"] =
        .error (.invalidVerbosity "4294967296") ∧
      ofTokens (["-logdir", "-verbose", "-verbose", "4294967296"] ++ ["-bogus", "-logdir"]) =
        .error (.invalidVerbosity "4294967296") := by
  have herror : ofTokens ["-logdir", "-verbose", "-verbose", "4294967296"] =
      .error (.invalidVerbosity "4294967296") := by cbv
  obtain ⟨-, -, -, -, hmore⟩ := ofTokens_iff ["-logdir", "-verbose", "-verbose", "4294967296"]
  exact ⟨herror, hmore _ herror ⟨_, .inr rfl⟩ _⟩

end CallTrace.Options
