import ActionRelay.TypeExpr.Reader
import ActionRelay.Proofs.TypeExpr.Token
/-!
# Type expressions — the grammar

`Derives` is the grammar of types, one constructor per production:

    type    ::= base '?'*
    base    ::= '(' ')' | '(' types ')' | '[' type ']' | '[' type ':' type ']' | path
    types   ::= type (',' type)*
    path    ::= segment ('.' segment)*
    segment ::= word | word '<' types '>'

It says nothing about depth; how many levels of nesting a type needs is its
`budget`. A text is a `Spelling` of a type if it spells tokens from which
the grammar derives the type.
-/

namespace ActionRelay

namespace TypeExpr

/-- A part of a type that the grammar has a name for. -/
inductive Phrase where
  | type (t : TypeExpr)
  | base (t : TypeExpr)
  | types (ts : List TypeExpr)
  | path (segments : List Segment)
  | segment (s : Segment)

/-- **The grammar of types.** -/
inductive Derives : Phrase → List Token → Prop
  | marked {b : TypeExpr} {tokens : List Token} (n : ℕ) :
      Derives (.base b) tokens →
      Derives (.type (wrapOptional n b)) (tokens ++ List.replicate n (.sign '?'))
  | unit : Derives (.base (.tuple [])) [.sign '(', .sign ')']
  | tuple {elements : List TypeExpr} {tokens : List Token} :
      Derives (.types elements) tokens →
      Derives (.base (.tuple elements)) (.sign '(' :: (tokens ++ [.sign ')']))
  | array {element : TypeExpr} {tokens : List Token} :
      Derives (.type element) tokens →
      Derives (.base (.array element)) (.sign '[' :: (tokens ++ [.sign ']']))
  | dictionary {key value : TypeExpr} {tokens tokens' : List Token} :
      Derives (.type key) tokens → Derives (.type value) tokens' →
      Derives (.base (.dictionary key value))
        (.sign '[' :: (tokens ++ .sign ':' :: (tokens' ++ [.sign ']'])))
  | named {segments : List Segment} {tokens : List Token} :
      Derives (.path segments) tokens → Derives (.base (.named segments)) tokens
  | lastType {t : TypeExpr} {tokens : List Token} :
      Derives (.type t) tokens → Derives (.types [t]) tokens
  | moreTypes {t : TypeExpr} {ts : List TypeExpr} {tokens tokens' : List Token} :
      Derives (.type t) tokens → Derives (.types ts) tokens' →
      Derives (.types (t :: ts)) (tokens ++ .sign ',' :: tokens')
  | lastSegment {s : Segment} {tokens : List Token} :
      Derives (.segment s) tokens → Derives (.path [s]) tokens
  | moreSegments {s : Segment} {segments : List Segment} {tokens tokens' : List Token} :
      Derives (.segment s) tokens → Derives (.path segments) tokens' →
      Derives (.path (s :: segments)) (tokens ++ .sign '.' :: tokens')
  | plain (name : String) : Derives (.segment ⟨name, []⟩) [.word name]
  | generic {arguments : List TypeExpr} {tokens : List Token} (name : String) :
      Derives (.types arguments) tokens →
      Derives (.segment ⟨name, arguments⟩)
        (.word name :: .sign '<' :: (tokens ++ [.sign '>']))

/-- **A text that spells a type.** -/
def Spelling (text : String) (t : TypeExpr) : Prop :=
  ∃ tokens, Token.Spells text.toList tokens ∧ Derives (.type t) tokens

/-! ## Levels of nesting -/

/-- The number of marks `?` at the end of a type. -/
def marks : TypeExpr → ℕ
  | .optional wrapped => wrapped.marks + 1
  | _ => 0

end TypeExpr

mutual

/-- **The levels of nesting that a type needs**: brackets and generic
arguments need one level more than what stands inside, and `n` marks `?`
need `n` levels, which they share with the type that they are put on. -/
def TypeExpr.budget : TypeExpr → ℕ
  | .named segments => TypeExpr.pathBudget segments
  | .tuple elements => TypeExpr.maxBudget elements + 1
  | .optional wrapped => max (wrapped.marks + 1) wrapped.budget
  | .array element => element.budget + 1
  | .dictionary key value => max key.budget value.budget + 1
  | .verbatim _ => 0

/-- The levels that a segment needs. -/
def Segment.budget : Segment → ℕ
  | ⟨_, arguments⟩ => if arguments.isEmpty then 0 else TypeExpr.maxBudget arguments + 1

/-- The levels that the deepest of several types needs. -/
def TypeExpr.maxBudget : List TypeExpr → ℕ
  | [] => 0
  | t :: ts => max t.budget (TypeExpr.maxBudget ts)

/-- The levels that the deepest segment of a path needs. -/
def TypeExpr.pathBudget : List Segment → ℕ
  | [] => 0
  | s :: ss => max s.budget (TypeExpr.pathBudget ss)

end

namespace TypeExpr

theorem marks_wrapOptional {b : TypeExpr} (hb : b.marks = 0) (n : ℕ) :
    (wrapOptional n b).marks = n := by
  induction n with
  | zero => exact hb
  | succ n ih => rw [wrapOptional, marks, ih]

/-- Marks and what they are put on share the levels. -/
theorem budget_wrapOptional {b : TypeExpr} (hb : b.marks = 0) (n : ℕ) :
    (wrapOptional n b).budget = max n b.budget := by
  induction n with
  | zero => rw [wrapOptional, Nat.zero_max]
  | succ n ih =>
    rw [wrapOptional, budget, ih, marks_wrapOptional hb]
    omega

/-- What the grammar calls a base has no marks of its own. -/
theorem Derives.marks_base {b : TypeExpr} {tokens : List Token} (h : Derives (.base b) tokens) :
    b.marks = 0 := by
  cases h <;> rfl

/-- The grammar has no empty list of types, so generic arguments always
take a level. -/
theorem Derives.isEmpty_types {ts : List TypeExpr} {tokens : List Token}
    (h : Derives (.types ts) tokens) : ts.isEmpty = false := by
  cases h <;> rfl

end TypeExpr

end ActionRelay
