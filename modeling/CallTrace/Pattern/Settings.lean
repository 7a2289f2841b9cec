import CallTrace.Text.Blank

/-!
# Settings of patterns

A pattern is read under settings, which it may change from a place on or for a group.  Some of the
letters by which it does so only matter to matching; three decide what a pattern may hold.
-/

namespace CallTrace.Pattern

/-- What a pattern may hold. -/
structure Settings where
  /-- Whether letters of either case stand for each other. -/
  ignoresCase : Bool
  /-- Whether a pattern is about characters, and not about bytes. -/
  aboutCharacters : Bool
  /-- Whether blanks do not count, nor comments behind a number sign. -/
  isSpaced : Bool
deriving DecidableEq, Repr

namespace Settings

/-- The settings that a pattern starts with. -/
def initial : Settings := ⟨false, true, false⟩

/-- The letters of settings. -/
def letters : List Char := ['i', 'm', 's', 'U', 'u', 'R', 'x']

/-- Whether a text is a change of settings: letters to switch on, and letters to switch off behind a
dash, which is there only with such letters; no letter stands twice. -/
def isChange (text : List Char) : Bool :=
  text.all (fun c => c = '-' || letters.contains c) && text.Nodup && text.getLast? ≠ some '-'

/-- Switches a setting by its letter. -/
def switch (on : Bool) (settings : Settings) (letter : Char) : Settings :=
  match letter with
  | 'i' => { settings with ignoresCase := on }
  | 'u' => { settings with aboutCharacters := on }
  | 'x' => { settings with isSpaced := on }
  | _ => settings

/-- The settings behind a change. -/
def change (settings : Settings) (text : List Char) : Settings :=
  (text.dropWhile (· ≠ '-')).foldl (switch false)
    ((text.takeWhile (· ≠ '-')).foldl (switch true) settings)

end Settings

/-- A text without the blanks and comments in front; `inComment` tells that it begins within a
comment, which the line ends. -/
def dropBlanks (inComment : Bool) : List Char → List Char
  | [] => []
  | c :: rest =>
    if inComment then dropBlanks (c ≠ '\n') rest
    else if Text.isBlank c then dropBlanks false rest
    else if c = '#' then dropBlanks true rest
    else c :: rest

theorem length_dropBlanks_le (inComment : Bool) (text : List Char) :
    (dropBlanks inComment text).length ≤ text.length := by
  induction text generalizing inComment with
  | nil => simp [dropBlanks]
  | cons c rest ih =>
    rw [dropBlanks]
    have hc := ih (c ≠ '\n')
    have hf := ih false
    have ht := ih true
    split
    · simp only [List.length_cons]; omega
    · split
      · simp only [List.length_cons]; omega
      · split
        · simp only [List.length_cons]; omega
        · exact Nat.le_refl _

/-- What counts next in a pattern. -/
def Settings.skip (settings : Settings) (text : List Char) : List Char :=
  if settings.isSpaced then dropBlanks false text else text

theorem Settings.length_skip_le (settings : Settings) (text : List Char) :
    (settings.skip text).length ≤ text.length := by
  rw [skip]
  split
  · exact length_dropBlanks_le false text
  · exact Nat.le_refl _

end CallTrace.Pattern
