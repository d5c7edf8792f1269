import ActionRelay.Declaration.Basic
import ActionRelay.Diagnostic
import ActionRelay.Text.Lowercase
/-!
# Parameter names

Every payload of a case becomes a parameter with a name. A name that the
payload declares is kept, unless it is reserved; any other name is made from
the payload's type or position, and takes a number at its end as long as it
collides with a reserved name, a declared one or one already given.

A number is found after finitely many steps, as there are more numbers than
names in use; `freeName` looks at no more of them.
-/

namespace ActionRelay

/-- How a payload that declares no name is called. -/
inductive Naming where
  /-- Like its type, with the first letter in lower case. -/
  | typeDerived
  /-- By its position, `value0`, `value1`, … -/
  | positional
deriving DecidableEq

namespace Slot

/-- The name that the payload declares: the second one, or else the
label. -/
def declaredName? (slot : Slot) : Option String :=
  slot.bind.or slot.label

/-- The name made for a payload that declares none. -/
def derivedName? (slot : Slot) (index : Nat) : Naming → Option String
  | .typeDerived => slot.type.baseName?.map Text.uncapitalize
  | .positional => some ("value" ++ Nat.repr index)

/-- The name of a payload by itself, without regard to others. -/
def name? (slot : Slot) (index : Nat) (naming : Naming) : Option String :=
  slot.declaredName?.or (slot.derivedName? index naming)

end Slot

/-- `base` followed by the first number from `number` on that makes it none
of the names `used`; only `tries` numbers are looked at before the next one
is taken. -/
def numberedName (used : List String) (base : String) : (tries number : Nat) → String
  | 0, number => base ++ Nat.repr number
  | tries + 1, number =>
    if base ++ Nat.repr number ∈ used then numberedName used base tries (number + 1)
    else base ++ Nat.repr number

/-- `base`, or else `base` with the first number from `number` on that makes
it none of the names `used`. -/
def freeName (used : List String) (base : String) (number : Nat) : String :=
  if base ∈ used then numberedName used base used.length number else base

/-- The declared names of the payloads that are not reserved. -/
def keptNames (reserved : List String) (slots : List Slot) : List String :=
  (slots.filterMap Slot.declaredName?).filter (· ∉ reserved)

/-- The name of the payload at `index`, when `taken` are the names given
before it. -/
def Slot.parameterName? (slot : Slot) (index : Nat) (naming : Naming)
    (reserved kept taken : List String) : Option String :=
  match slot.declaredName? with
  | some name =>
    some (if name ∈ reserved then freeName (reserved ++ kept ++ taken) name index else name)
  | none =>
    (slot.derivedName? index naming).map fun base =>
      freeName (reserved ++ kept ++ taken) base index

/-- Names the payloads from `index` on, when `taken` are the names given
before them. -/
def nameSlots (caseName : String) (naming : Naming) (reserved kept : List String) :
    (index : Nat) → (taken : List String) → List Slot → Except Diagnostic (List String)
  | _, _, [] => .ok []
  | index, taken, slot :: slots =>
    match slot.parameterName? index naming reserved kept taken with
    | none => .error ⟨.unnamedPayload caseName index, slot.span⟩
    | some name =>
      (nameSlots caseName naming reserved kept (index + 1) (taken ++ [name]) slots).map
        (name :: ·)

/-- The names of the payloads of a case, or the first one that cannot be
named. -/
def parameterNames (caseName : String) (slots : List Slot) (naming : Naming)
    (reserved : List String) : Except Diagnostic (List String) :=
  nameSlots caseName naming reserved (keptNames reserved slots) 0 [] slots

end ActionRelay
