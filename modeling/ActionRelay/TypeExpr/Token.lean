import ActionRelay.Text.Blank
import ActionRelay.Text.Identifier
/-!
# Type expressions — tokens

The text of a type is cut into words and signs. Blanks stand between tokens
and are dropped; a word is as long as it can be; a character that belongs to
neither makes the whole text no type.
-/

namespace ActionRelay

namespace TypeExpr

/-- A word or a sign of the text of a type. -/
inductive Token where
  /-- An identifier. -/
  | word (text : String)
  /-- One of the signs that build types out of others. -/
  | sign (mark : Char)
deriving DecidableEq

namespace Token

/-- The signs that build types out of others. -/
def signs : List Char :=
  ['(', ')', '[', ']', '<', '>', ',', ':', '.', '?']

/-- The tokens of a text, if it consists of words, signs and blanks. -/
def scan : List Char → Option (List Token)
  | [] => some []
  | c :: rest =>
    if Text.isBlank c then
      scan rest
    else if Text.startsIdentifier c then
      (scan (rest.dropWhile Text.continuesIdentifier)).map
        (word (String.ofList (c :: rest.takeWhile Text.continuesIdentifier)) :: ·)
    else if c ∈ signs then
      (scan rest).map (sign c :: ·)
    else
      none
termination_by cs => cs.length
decreasing_by
  · simp
  · have := (List.dropWhile_suffix Text.continuesIdentifier (l := rest)).length_le
    simp only [List.length_cons]
    omega
  · simp

end Token

end TypeExpr

end ActionRelay
