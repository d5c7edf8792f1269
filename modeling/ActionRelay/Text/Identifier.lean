import ActionRelay.Text.Alphabetic
import ActionRelay.Text.Numeric
/-!
# Text — identifiers

An identifier starts with an alphabetic character or an underscore and goes
on with alphabetic and numeric characters and underscores.
-/

namespace ActionRelay

namespace Text

/-- Characters an identifier may start with. -/
def startsIdentifier (c : Char) : Bool :=
  c == '_' || isAlphabetic c

/-- Characters an identifier may go on with. -/
def continuesIdentifier (c : Char) : Bool :=
  c == '_' || isAlphabetic c || isNumeric c

/-- Whether a text is an identifier as a whole. -/
def isIdentifier (text : String) : Bool :=
  match text.toList with
  | [] => false
  | c :: rest => startsIdentifier c && rest.all continuesIdentifier

theorem continuesIdentifier_of_starts {c : Char} (h : startsIdentifier c = true) :
    continuesIdentifier c = true := by
  simp only [startsIdentifier, Bool.or_eq_true] at h
  rcases h with h | h <;> simp [continuesIdentifier, h]

end Text

end ActionRelay
