import CallTrace.Text.Blank

/-!
# Option tokens

An option string is cut into tokens at ASCII blanks.  A token that begins with a double or a
single quote runs to the next such quote and holds what stands between the two, blanks included;
the quote closes the token, so that another one may follow directly.  A quote inside a bare token
is an ordinary character.
-/

namespace CallTrace.Options

open CallTrace.Text (isAsciiBlank)

/-- Whether a character opens a quoted token. -/
def isQuote (c : Char) : Bool := c = '"' || c = '\''

/-- The tokens of a text, or `none` if a quoted token is not closed. -/
def tokens? : List Char → Option (List (List Char))
  | [] => some []
  | c :: rest =>
    if isAsciiBlank c then tokens? rest
    else if isQuote c then
      if c ∈ rest then
        (tokens? (rest.dropWhile (· ≠ c)).tail).map (rest.takeWhile (· ≠ c) :: ·)
      else none
    else
      (tokens? (rest.dropWhile (!isAsciiBlank ·))).map
        ((c :: rest.takeWhile (!isAsciiBlank ·)) :: ·)
termination_by text => text.length
decreasing_by
  · simp
  · have shorter := (List.dropWhile_sublist (l := rest) (· ≠ c)).length_le
    simp only [List.length_tail, List.length_cons]
    omega
  · have shorter := (List.dropWhile_sublist (l := rest) (!isAsciiBlank ·)).length_le
    simp only [List.length_cons]
    omega

end CallTrace.Options
