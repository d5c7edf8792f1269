import ActionRelay.Declaration.Basic
/-!
# Argument labels

How a payload is passed to its handler: by position, under the name of the
parameter, or under a label of its own.
-/

namespace ActionRelay

/-- How an argument is named where a handler is called. -/
inductive ArgumentLabel where
  /-- By position. -/
  | unlabeled
  /-- Under the name of the parameter. -/
  | named
  /-- Under a label other than the name of the parameter. -/
  | relabeled (label : String)
deriving DecidableEq

/-- The label of the argument for a parameter called `name`. -/
def ArgumentLabel.callLabel? (name : String) : ArgumentLabel → Option String
  | unlabeled => none
  | named => some name
  | relabeled label => some label

namespace Slot

/-- How the payload is declared to be passed. -/
def declaredLabel (slot : Slot) : ArgumentLabel :=
  match slot.label, slot.bind with
  | none, _ => .unlabeled
  | some _, none => .named
  | some label, some _ => .relabeled label

/-- How the payload is passed once its parameter is called `name`: a payload
with a label keeps it, also where its parameter had to take another name. -/
def argumentLabel (slot : Slot) (name : String) : ArgumentLabel :=
  match slot.label, slot.bind with
  | none, _ => .unlabeled
  | some label, none => if label = name then .named else .relabeled label
  | some label, some _ => .relabeled label

end Slot

end ActionRelay
