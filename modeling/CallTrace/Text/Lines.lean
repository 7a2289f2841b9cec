/-!
# Lines

A text cut at its line feeds.  One carriage return right before a line feed belongs to the
end of the line; what follows the last line feed is a line only if it is not empty.
-/

namespace CallTrace.Text

/-- The lines of a text, without their ends. -/
def lines : List Char → List (List Char)
  | [] => []
  | '\n' :: rest => [] :: lines rest
  | '\r' :: '\n' :: rest => [] :: lines rest
  | c :: rest =>
    match lines rest with
    | [] => [[c]]
    | line :: more => (c :: line) :: more

end CallTrace.Text
