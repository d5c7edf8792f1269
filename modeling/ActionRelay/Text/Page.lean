/-!
# Text — pages

A page is a text under construction. It is written in pieces; a line that is
not empty gets the margin in front of its first character, and a carriage
return directly before a line end is dropped. Blocks between braces have a
deeper margin.

The formatter that a renderer writes to comes from elsewhere, and the page is
what it is taken to be: this is its documented behaviour, assumed here and not
derived from anything. All that is said of rendered texts is said of texts on
such a page.
-/

namespace ActionRelay

namespace Text

/-- The characters of a piece as they go onto a page with the given margin,
at the start of a line or inside one. -/
def indentChars (margin : Nat) : (atStart : Bool) → List Char → List Char
  | _, [] => []
  | _, '\n' :: rest => '\n' :: indentChars margin true rest
  | _, '\r' :: '\n' :: rest => '\n' :: indentChars margin true rest
  | true, c :: rest => List.replicate margin ' ' ++ c :: indentChars margin false rest
  | false, c :: rest => c :: indentChars margin false rest

/-- Whether the next character goes to the start of a line, after the given
characters have been written. -/
def endsLine (atStart : Bool) (cs : List Char) : Bool :=
  match cs.getLast? with
  | none => atStart
  | some c => c == '\n'

/-- A text under construction. -/
structure Page where
  text : String := ""
  atStart : Bool := true
  margin : Nat := 0

namespace Page

/-- By how much the margin of a block is deeper. -/
def indentation : Nat := 4

/-- Writes a piece at the end of the page. -/
def write (page : Page) (piece : String) : Page :=
  { page with
    text := page.text ++ String.ofList (indentChars page.margin page.atStart piece.toList)
    atStart := endsLine page.atStart piece.toList }

/-- Writes several pieces one after another. -/
def writeAll (page : Page) (pieces : List String) : Page :=
  pieces.foldl write page

/-- Runs `body` with a deeper margin. -/
def indented (page : Page) (body : Page → Page) : Page :=
  { body { page with margin := page.margin + indentation } with margin := page.margin }

/-- Writes what `body` writes, with a deeper margin and between braces, of
which the first stands at the end of the line begun before. -/
def block (page : Page) (body : Page → Page) : Page :=
  let opened := if page.atStart then page else page.write " "
  ((opened.write "\x7b\n").indented body).write "\x7d\n"

end Page

end Text

end ActionRelay
