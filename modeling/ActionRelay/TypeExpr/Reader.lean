import ActionRelay.TypeExpr.Basic
import ActionRelay.TypeExpr.Token
/-!
# Type expressions — reading

A text is read by recursive descent over its tokens:

    type    ::= base '?'*
    base    ::= '(' ')' | '(' types ')' | '[' type ']' | '[' type ':' type ']' | path
    path    ::= segment ('.' segment)*
    segment ::= word | word '<' types '>'
    types   ::= type (',' type)*

Types may be nested up to `maxDepth` levels: each pair of brackets and each
list of generic arguments takes one level for what stands inside, and a type
with `n` marks `?` needs `n` levels of its own. A text that is no type, or
one nested too deeply, is kept as it stands without the blanks at its ends.
-/

namespace ActionRelay

namespace TypeExpr

/-- Nesting depth beyond which a type is kept as text. -/
def maxDepth : Nat := 128

/-- A value read from the front of `tokens` and the tokens left over, which
are fewer. -/
structure Parsed (α : Type) (tokens : List Token) where
  value : α
  rest : List Token
  shorter : rest.length < tokens.length

/-- A function that reads a value from the front of a list of tokens. -/
abbrev Reader (α : Type) := (tokens : List Token) → Option (Parsed α tokens)

/-- Types with commas between them, up to and including the sign `close`. -/
def readList (item : Reader TypeExpr) (close : Char) (tokens : List Token) :
    Option (Parsed (List TypeExpr) tokens) :=
  match item tokens with
  | none => none
  | some first =>
    match h : first.rest with
    | .sign mark :: rest =>
      have shorter : rest.length < tokens.length := by
        have := first.shorter
        simp only [h, List.length_cons] at this
        omega
      if mark = ',' then
        match readList item close rest with
        | none => none
        | some later =>
          some ⟨first.value :: later.value, later.rest, Nat.lt_trans later.shorter shorter⟩
      else if mark = close then
        some ⟨[first.value], rest, shorter⟩
      else
        none
    | _ => none
termination_by tokens.length

/-- A word and its generic arguments, if any. The reader `inner` reads what
stands between brackets; without one there is no room for brackets. -/
def readSegment (inner : Option (Reader TypeExpr)) : Reader Segment
  | .word name :: .sign '<' :: rest =>
    match inner with
    | none => none
    | some item =>
      match readList item '>' rest with
      | none => none
      | some arguments =>
        some ⟨⟨name, arguments.value⟩, arguments.rest, by
          have := arguments.shorter
          simp only [List.length_cons]
          omega⟩
  | .word name :: rest => some ⟨⟨name, []⟩, rest, by simp⟩
  | _ => none

/-- Segments with dots between them. -/
def readPath (inner : Option (Reader TypeExpr)) (tokens : List Token) :
    Option (Parsed (List Segment) tokens) :=
  match readSegment inner tokens with
  | none => none
  | some first =>
    match h : first.rest with
    | .sign '.' :: rest =>
      have shorter : rest.length < tokens.length := by
        have := first.shorter
        simp only [h, List.length_cons] at this
        omega
      match readPath inner rest with
      | none => none
      | some later =>
        some ⟨first.value :: later.value, later.rest, Nat.lt_trans later.shorter shorter⟩
    | _ => some ⟨[first.value], first.rest, first.shorter⟩
termination_by tokens.length

/-- An array or a dictionary whose opening bracket has been read. -/
def readBracketed (item : Reader TypeExpr) : Reader TypeExpr := fun tokens =>
  match item tokens with
  | none => none
  | some first =>
    match h : first.rest with
    | .sign ']' :: rest =>
      some ⟨.array first.value, rest, by
        have := first.shorter
        simp only [h, List.length_cons] at this
        omega⟩
    | .sign ':' :: rest =>
      match item rest with
      | none => none
      | some second =>
        match h' : second.rest with
        | .sign ']' :: rest' =>
          some ⟨.dictionary first.value second.value, rest', by
            have := first.shorter
            have := second.shorter
            simp only [h, h', List.length_cons] at *
            omega⟩
        | _ => none
    | _ => none

/-- A type without marks `?` at its end. -/
def readBase (inner : Option (Reader TypeExpr)) : Reader TypeExpr
  | .sign '(' :: .sign ')' :: rest =>
    match inner with
    | none => none
    | some _ => some ⟨.tuple [], rest, by simp only [List.length_cons]; omega⟩
  | .sign '(' :: rest =>
    match inner with
    | none => none
    | some item =>
      match readList item ')' rest with
      | none => none
      | some elements =>
        some ⟨.tuple elements.value, elements.rest, by
          have := elements.shorter
          simp only [List.length_cons]
          omega⟩
  | .sign '[' :: rest =>
    match inner with
    | none => none
    | some item =>
      match readBracketed item rest with
      | none => none
      | some bracketed =>
        some ⟨bracketed.value, bracketed.rest, by
          have := bracketed.shorter
          simp only [List.length_cons]
          omega⟩
  | tokens =>
    match readPath inner tokens with
    | none => none
    | some segments => some ⟨.named segments.value, segments.rest, segments.shorter⟩

/-- How many marks `?` stand in front, and the tokens behind them. -/
def countMarks : List Token → Nat × List Token
  | .sign '?' :: rest => ((countMarks rest).1 + 1, (countMarks rest).2)
  | tokens => (0, tokens)

theorem length_countMarks_le (tokens : List Token) :
    (countMarks tokens).2.length ≤ tokens.length := by
  fun_induction countMarks tokens with
  | case1 rest ih => simp only [List.length_cons]; omega
  | case2 => simp

/-- The type made optional `n` times. -/
def wrapOptional : Nat → TypeExpr → TypeExpr
  | 0, t => t
  | n + 1, t => .optional (wrapOptional n t)

/-- A type with its marks `?`, of which there may be `depth`, where `inner`
reads what stands between brackets. -/
def readMarked (depth : Nat) (inner : Option (Reader TypeExpr)) : Reader TypeExpr := fun tokens =>
  match readBase inner tokens with
  | none => none
  | some base =>
    if (countMarks base.rest).1 ≤ depth then
      some ⟨wrapOptional (countMarks base.rest).1 base.value, (countMarks base.rest).2,
        Nat.lt_of_le_of_lt (length_countMarks_le base.rest) base.shorter⟩
    else
      none

/-- A type for which `depth` levels of nesting are left. -/
def readType : (depth : Nat) → Reader TypeExpr
  | 0 => readMarked 0 none
  | depth + 1 => readMarked (depth + 1) (some (readType depth))

/-- The type that a list of tokens spells as a whole. -/
def ofTokens? (tokens : List Token) : Option TypeExpr :=
  match readType maxDepth tokens with
  | some ⟨t, [], _⟩ => some t
  | _ => none

/-- The type that a text spells, if it is one. -/
def read? (text : String) : Option TypeExpr :=
  (Token.scan text.toList).bind ofTokens?

/-- The type given by a text: what the text spells, or the text itself
without the blanks at its ends. -/
def ofText (text : String) : TypeExpr :=
  (read? text).getD (.verbatim (Text.trim text))

end TypeExpr

end ActionRelay
