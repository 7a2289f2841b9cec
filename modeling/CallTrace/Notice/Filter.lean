import CallTrace.Notice
import CallTrace.Pattern
import CallTrace.Text.Decimal

/-!
# Filters of notices

A filter is a list of rules.  A rule gives a level of detail to the notices that it is about: all
notices, or those whose topic begins in a given way.  Of the rules about a notice the most specific
one decides, and of two that are equally specific the later one; a notice that no rule is about is
not shown.

A filter is written as rules between commas.  A rule is a level, or a topic, or a topic and a level
with an equals sign between them; a topic without a level stands for everything about it.  Behind
the topic there may be brackets with the name of a span, and in them braces with a field, which may
have a number or a pattern as its value.  Notices come outside of all spans, and the only field of a
notice is its message, without a value of its own.
-/

namespace CallTrace

/-- What a notice has to carry to be the business of a rule. -/
structure FieldTest where
  name : String
  value : Option String
deriving DecidableEq, Repr

/-- One rule of a filter. -/
structure FilterRule where
  /-- How the topic of a notice has to begin. -/
  topic : Option String
  /-- The span in which a notice has to come. -/
  span : Option String
  field : Option FieldTest
  level : LevelFilter
deriving DecidableEq, Repr

/-- What is wrong with the text of a rule. -/
inductive FilterError where
  | malformed
  | unknownLevel
  | value (cause : PatternError)
deriving DecidableEq, Repr

/-- The text of an error. -/
def FilterError.message : FilterError → String
  | malformed => "invalid filter directive"
  | value cause => "invalid field filter: " ++ cause.message
  | unknownLevel =>
    "error parsing level filter: expected one of \"off\", \"error\", \"warn\", \"info\", " ++
      "\"debug\", \"trace\", or a number 0-5"

/-- The test that the text between braces stands for: a name, and a value behind an equals sign,
which ends at the next one. -/
def FieldTest.parse (text : String) : Except FilterError FieldTest :=
  match text.splitOn "=" with
  | name :: value :: _ =>
    if Text.isNumber value.toList then .ok ⟨name, some value⟩
    else
      match Pattern.check value with
      | .error cause => .error (.value cause)
      | .ok _ => .ok ⟨name, some value⟩
  | _ => .ok ⟨text, none⟩

namespace FilterRule

/-! ## Reading

Places in a rule are counted in bytes from the first character that is no blank, but the pieces
between them are cut from the text as it is written.  So blanks in front of a rule move its pieces,
and blanks behind it belong to the last one. -/

/-- The number of bytes of some characters. -/
def width (piece : List Char) : Nat := (String.ofList piece).utf8ByteSize

/-- The piece of a text between two places; it must not cut through a character. -/
def piece (text : String) (start stop : Nat) : Except FilterError String :=
  match String.fromUTF8? (text.toUTF8.extract start stop) with
  | none => .error .malformed
  | some piece => .ok piece

/-- The level that stands from a place on; nothing stands for everything. -/
def readLevel (text : String) (start : Nat) : Except FilterError LevelFilter := do
  let name ← piece text start text.utf8ByteSize
  if name = "" then return .everything
  match LevelFilter.ofName? name with
  | none => throw .unknownLevel
  | some level => return level

/-- The level behind brackets that end at a place, `rest` being all that stands there. -/
def readEnd (text : String) (start : Nat) : List Char → Except FilterError LevelFilter
  | [] => .ok .everything
  | '=' :: _ => readLevel text (start + 1)
  | _ => .error .malformed

/-- The rule for a topic, with the brackets behind it that open in front of `start`. -/
def readBrackets (text : String) (topic : Option String) (start : Nat) (inner : List Char) :
    Except FilterError FilterRule := do
  let inName (c : Char) : Bool := c ≠ ']' && c ≠ '\x7b'
  let stop := start + width (inner.takeWhile inName)
  let span ← piece text start stop
  match inner.dropWhile inName with
  | ']' :: rest => return ⟨topic, some span, none, ← readEnd text (stop + 1) rest⟩
  | '\x7b' :: braced =>
    let inField (c : Char) : Bool := c ≠ '\x7d'
    let fieldStop := stop + 1 + width (braced.takeWhile inField)
    match braced.dropWhile inField with
    | [] => throw .malformed
    | _ :: behind =>
      let field ← piece text (stop + 1) fieldStop
      if field = "" then throw .malformed
      let test ← FieldTest.parse field
      match behind with
      | ']' :: rest =>
        return ⟨topic, if span = "" then none else some span, some test,
          ← readEnd text (fieldStop + 2) rest⟩
      | _ => throw .malformed
  | _ => throw .malformed

/-- Whether a topic may start with a character. -/
def startsTopic (c : Char) : Bool := c = '-' || c = ':' || c = '_' || Text.isAlphanumeric c

/-- The rule that a text spells. -/
def parse (text : String) : Except FilterError FilterRule := do
  let shape := Text.trim text.toList
  if !shape.head?.any (fun c => c = '[' || startsTopic c) then throw .malformed
  let inTopic (c : Char) : Bool := c ≠ '=' && c ≠ '['
  let stop := width (shape.takeWhile inTopic)
  match shape.dropWhile inTopic with
  | [] =>
    match LevelFilter.ofName? text with
    | some level => return ⟨none, none, none, level⟩
    | none => return ⟨some text, none, none, .everything⟩
  | '=' :: _ => return ⟨some (← piece text 0 stop), none, none, ← readLevel text (stop + 1)⟩
  | _ :: inner =>
    let topic ← if stop = 0 then pure none else some <$> piece text 0 stop
    readBrackets text topic (stop + 1) inner

/-! ## Deciding -/

/-- Whether a rule is about a notice. -/
def isAbout (rule : FilterRule) (notice : Notice) : Bool :=
  rule.span.isNone &&
    rule.topic.all (fun topic => topic.toList.isPrefixOf notice.topic.toList) &&
    rule.field.all fun test => test.name = "message" && test.value.isNone

/-- How specific a rule is: any topic is more than none, a longer one is more than a shorter one,
and among rules with the same topic a field is more than none. -/
def weight (rule : FilterRule) : Nat :=
  2 * rule.topic.elim 0 (·.utf8ByteSize + 1) + if rule.field.isSome then 1 else 0

end FilterRule

/-- A filter of notices. -/
structure NoticeFilter where
  rules : List FilterRule
deriving DecidableEq, Repr

namespace NoticeFilter

/-- The filter that gives one level of detail to all notices. -/
def ofLevel (level : LevelFilter) : NoticeFilter := ⟨[⟨none, none, none, level⟩]⟩

/-- The texts of the rules of a filter. -/
def ruleTexts (text : String) : List String := (text.splitOn ",").filter (· ≠ "")

/-- The filter that a text spells, without the rules that are none; if no rule is left, the level
`fallback` holds for all notices. -/
def ofString (fallback : LevelFilter) (text : String) : NoticeFilter :=
  match (ruleTexts text).filterMap fun rule => (FilterRule.parse rule).toOption with
  | [] => ofLevel fallback
  | rules => ⟨rules⟩

/-- What is said about the rules of a text that are none. -/
def complaints (text : String) : String :=
  String.join ((ruleTexts text).map fun rule =>
    match FilterRule.parse rule with
    | .ok _ => ""
    | .error cause => "ignoring `" ++ rule ++ "`: " ++ cause.message ++ "\n")

/-- The rule that decides about a notice. -/
def ruleFor? (filter : NoticeFilter) (notice : Notice) : Option FilterRule :=
  (filter.rules.filter (·.isAbout notice)).foldl (fun best rule =>
    if best.any (rule.weight < ·.weight) then best else some rule) none

/-- Whether a notice is shown. -/
def admits (filter : NoticeFilter) (notice : Notice) : Bool :=
  (filter.ruleFor? notice).any (·.level.admits notice.level)

end NoticeFilter

end CallTrace
