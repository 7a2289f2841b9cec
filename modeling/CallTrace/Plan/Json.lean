import CallTrace.Plan

/-!
# Plans as JSON

The document of a plan is laid out with one value per line, each level two blanks deeper than the
one around it; an empty list or map stays on its line.  In a string the double quote, the
backslash and the controls of ASCII are escaped, and everything else stands for itself.
-/

namespace CallTrace.Json

/-! ## Values -/

/-- A control behind `\u00`, by two hexadecimal digits. -/
def escapeControl (c : Char) : List Char :=
  ['\\', 'u', '0', '0', Nat.digitChar (c.toNat / 16), Nat.digitChar (c.toNat % 16)]

/-- One character of a string. -/
def escapeChar (c : Char) : List Char :=
  match c with
  | '"' => ['\\', '"']
  | '\\' => ['\\', '\\']
  | '\x08' => ['\\', 'b']
  | '\x0c' => ['\\', 'f']
  | '\n' => ['\\', 'n']
  | '\r' => ['\\', 'r']
  | '\t' => ['\\', 't']
  | _ => if c.toNat < 0x20 then escapeControl c else [c]

/-- A string. -/
def string (text : String) : List Char := '"' :: text.toList.flatMap escapeChar ++ ['"']

/-- A natural number. -/
def natural (n : Nat) : List Char := Numeral.write 10 n

/-- A whole number. -/
def integer (n : Int) : List Char := if n < 0 then '-' :: natural n.natAbs else natural n.natAbs

/-- A truth value. -/
def boolean (b : Bool) : List Char := if b then "true".toList else "false".toList

/-! ## Layout -/

/-- A new line at a depth. -/
def newLine (depth : Nat) : List Char := '\n' :: List.replicate (2 * depth) ' '

/-- Items on lines of their own between brackets that stand at `depth`. -/
def block (left right : Char) (depth : Nat) (items : List (List Char)) : List Char :=
  if items.isEmpty then [left, right]
  else
    left :: newLine (depth + 1) ++ (',' :: newLine (depth + 1)).intercalate items ++
      newLine depth ++ [right]

/-- A list at a depth. -/
def array (depth : Nat) (items : List (List Char)) : List Char := block '[' ']' depth items

/-- A member of a map: a name and a value. -/
def member (entry : String × List Char) : List Char := string entry.1 ++ [':', ' '] ++ entry.2

/-- A map from names to values at a depth. -/
def object (depth : Nat) (members : List (String × List Char)) : List Char :=
  block '\x7b' '\x7d' depth (members.map member)

end CallTrace.Json

namespace CallTrace

/-- The members of a row's map. -/
def PlanRow.members (row : PlanRow) : List (String × List Char) :=
  [("pc", Json.natural row.pc.toNat), ("hook", Json.natural row.hook.value.toNat),
    ("module", Json.string row.module), ("symbol", Json.string row.symbol)]

/-- A row of a plan, as a map at a depth. -/
def PlanRow.json (depth : Nat) (row : PlanRow) : List Char := Json.object depth row.members

/-- The members of a plan's document.  A plan without a main module has no member for it. -/
def Plan.members (plan : Plan) : List (String × List Char) :=
  [("pid", Json.integer plan.pid)] ++
    (plan.mainModule.map fun name => ("main_module", Json.string name)).toList ++
    [("only_from_app", Json.boolean plan.onlyFromApp), ("total", Json.natural plan.total),
      ("per_module", Json.object 1 (plan.perModule.toList.map fun (name, n) =>
        (name, Json.natural n))),
      ("registrations", Json.array 1 (plan.rows.map (PlanRow.json 2)))]

/-- The plan as a JSON document. -/
def Plan.json (plan : Plan) : String := String.ofList (Json.object 0 plan.members)

end CallTrace
