import ActionRelay.Proofs.Rendering.Lines
/-!
# Rendering — where each line starts

The blocks of a text stand in each other, and each moves what is inside by
four columns. Here the lines are listed as they come out, each with the
column in which it starts: the wrapper's in `Dispatch.layout`, the
interface's in `Interface.layout`. `sourceRenderer_laysOut` says that what is
rendered has these lines and no others.
-/

namespace ActionRelay

namespace Text

/-- A line with the column in which it starts. -/
structure Line where
  column : ℕ
  content : String
deriving DecidableEq

/-- The line as it comes out, behind spaces up to its column. A line without
content has no spaces either. -/
def Line.text (line : Line) : String :=
  indentLine line.column line.content

/-- **Whether a text that is rendered has the given lines**: each with a line
end behind it and none inside, in their order, and nothing else. -/
def LaidOut (rendered : Except RenderError String) (lines : List Line) : Prop :=
  rendered = .ok (unlines (lines.map Line.text)) ∧ ∀ line ∈ lines, Unbroken line.text

/-- Inside a block, every line gets four columns. -/
theorem indent_eq_map (lines : List String) : indent lines = lines.map (indentLine 4) :=
  rfl

end Text

open Text

/-! ## The wrapper -/

/-- The two lines of an arm: the pattern stands under the `switch`, and what
is returned four columns further on. -/
def Arm.layout (noOp : String) (arm : Arm) : List Line :=
  [⟨8, arm.pattern⟩, ⟨12, "return " ++ arm.result noOp⟩]

/-- What the wrapper does with an action: the expression of no effect, or a
`switch` with its arms. -/
def Dispatch.bodyLayout (noOp : String) (dispatch : Dispatch) : List Line :=
  match dispatch.body with
  | none => [⟨8, noOp⟩]
  | some arms => ⟨8, "switch action \x7b"⟩ :: arms.flatMap (Arm.layout noOp) ++ [⟨8, "\x7d"⟩]

/-- **The lines of the wrapper**, each in its column. -/
def Dispatch.layout (names : Conventions) (dispatch : Dispatch) : List Line :=
  [⟨0, "private struct " ++ dispatch.name ++ ": " ++ dispatch.capability ++ " \x7b"⟩,
      ⟨4, "private let " ++ dispatch.handler⟩,
      ⟨0, ""⟩,
      ⟨4, "init(_ " ++ dispatch.handler ++ ")" ++ " \x7b"⟩,
      ⟨8, "self." ++ dispatch.handlerField ++ " = " ++ dispatch.handlerField⟩,
      ⟨4, "\x7d"⟩,
      ⟨0, ""⟩,
      ⟨4, names.methodHeader ++ " \x7b"⟩]
    ++ dispatch.bodyLayout names.noOp
    ++ [⟨4, "\x7d"⟩, ⟨0, "\x7d"⟩]

theorem Arm.map_text_layout (noOp : String) (arm : Arm) :
    (arm.layout noOp).map Line.text = (arm.lines noOp).map (indentLine 8) := by
  simp [layout, lines, indent_eq_map, Line.text, ← Page.indentLine_add]

/-- The body stands in two blocks. -/
theorem Dispatch.map_text_bodyLayout (noOp : String) (dispatch : Dispatch) :
    (dispatch.bodyLayout noOp).map Line.text
      = (dispatch.bodyLines noOp).map (indentLine 8) := by
  rw [bodyLayout, bodyLines]
  rcases dispatch.body with - | arms
  · rfl
  · have harms : (arms.flatMap (Arm.layout noOp)).map Line.text
        = (arms.flatMap (Arm.lines noOp)).map (indentLine 8) := by
      simp only [List.map_flatMap, Arm.map_text_layout]
    simp only [List.cons_append, List.map_cons, List.map_append, List.map_nil, harms]
    rfl

theorem Dispatch.map_text_layout (names : Conventions) (dispatch : Dispatch) :
    (dispatch.layout names).map Line.text = dispatch.lines names := by
  simp [layout, lines, handlerLines, blockLines, indent_eq_map, map_text_bodyLayout, Line.text,
    ← Page.indentLine_add, Function.comp_def]

/-! ## The interface -/

/-- **The lines of the interface**, each in its column. -/
def Interface.layout (interface : Interface) : List Line :=
  ⟨0, interface.header ++ " \x7b"⟩
    :: interface.aliases.map (fun entry => ⟨4, entry.line⟩)
    ++ (if interface.methods.isEmpty then [] else [⟨0, ""⟩])
    ++ interface.methods.map (fun method => ⟨4, method.text⟩)
    ++ [⟨0, "\x7d"⟩]

theorem Interface.map_text_layout (interface : Interface) :
    interface.layout.map Line.text = interface.lines := by
  have hgap : (if interface.methods.isEmpty then [] else [Line.mk 0 ""]).map Line.text
      = (if interface.methods.isEmpty then [] else [""]).map (indentLine 4) := by
    split <;> rfl
  simp only [layout, lines, bodyLines, blockLines, indent_eq_map, List.cons_append,
    List.map_cons, List.map_append, List.map_map, Function.comp_def, List.map_nil, hgap,
    Line.text, indentLine_zero]

/-! ## Both -/

/-- A text with unbroken lines has these lines. -/
theorem Text.laidOut_of_lines {text : String} {lines : List String} {layout : List Line}
    (htext : text = unlines lines) (hlines : ∀ line ∈ lines, Unbroken line)
    (hlayout : layout.map Line.text = lines) : LaidOut (.ok text) layout := by
  subst hlayout
  exact ⟨congrArg Except.ok htext, List.forall_mem_map.1 hlines⟩

/-- **What is rendered has the lines laid out**, and rendering never fails,
where no name and no type has a line end or a carriage return inside. -/
theorem sourceRenderer_laysOut (names : Conventions) (dispatch : Dispatch)
    (interface : Interface) :
    ((∀ name ∈ names.shown ++ dispatch.names, Unbroken name) →
        LaidOut (sourceRenderer.dispatch names dispatch) (dispatch.layout names)) ∧
      ((∀ text ∈ interface.texts, Unbroken text) →
        LaidOut (sourceRenderer.interface names interface) interface.layout) := by
  constructor
  · intro h
    obtain ⟨hshown, hnames⟩ := List.forall_mem_append.1 h
    exact laidOut_of_lines (Dispatch.text_write hshown hnames)
      (Dispatch.unbroken_lines hshown hnames) (dispatch.map_text_layout names)
  · intro h
    exact laidOut_of_lines (Interface.text_write h) (Interface.unbroken_lines h)
      interface.map_text_layout

/-- A wrapper with an arm that forwards and one that does not. -/
def lampDispatch : Dispatch where
  name := "Dispatch"
  capability := "Reducer"
  handlerField := "actionDelegate"
  handlerType := "LampActionDelegate"
  body := some
    [{ tag := "dim"
       bindings := ["by"]
       call := some
        { receiver := "actionDelegate"
          method := "dim"
          arguments := [⟨none, .binding "by"⟩, ⟨some "state", .state "state"⟩] } },
      { tag := "flicker", bindings := [], call := none }]

/-- An interface with an alias for an array, which is written in pieces, and
with one method. -/
def lampInterface : Interface where
  visibility := .privateScope
  name := "LampActionDelegate"
  aliases := [⟨"States", .array (.plain ["Lamp", "State"])⟩]
  methods :=
    [{ name := "dim"
       parameters := [⟨.unlabeled, "by", .optional (.plain ["Int"])⟩]
       state := ⟨"state", .plain ["State"]⟩
       returns := .named [⟨"Effect", [.plain ["Action"]]⟩] }]

theorem lamp_laysOut :
    LaidOut (sourceRenderer.dispatch {} lampDispatch)
        [⟨0, "private struct Dispatch: Reducer \x7b"⟩,
          ⟨4, "private let actionDelegate: LampActionDelegate"⟩,
          ⟨0, ""⟩,
          ⟨4, "init(_ actionDelegate: LampActionDelegate) \x7b"⟩,
          ⟨8, "self.actionDelegate = actionDelegate"⟩,
          ⟨4, "\x7d"⟩,
          ⟨0, ""⟩,
          ⟨4, "func reduce(into state: inout State, action: Action) -> Effect<Action> \x7b"⟩,
          ⟨8, "switch action \x7b"⟩,
          ⟨8, "case let .dim(by):"⟩,
          ⟨12, "return actionDelegate.dim(by, state: &state)"⟩,
          ⟨8, "case .flicker:"⟩,
          ⟨12, "return .none"⟩,
          ⟨8, "\x7d"⟩,
          ⟨4, "\x7d"⟩,
          ⟨0, "\x7d"⟩] ∧
      LaidOut (sourceRenderer.interface {} lampInterface)
        [⟨0, "private protocol LampActionDelegate \x7b"⟩,
          ⟨4, "typealias States = [Lamp.State]"⟩,
          ⟨0, ""⟩,
          ⟨4, "func dim(_ by: Int?, state: inout State) -> Effect<Action>"⟩,
          ⟨0, "\x7d"⟩] := by
  obtain ⟨hdispatch, hinterface⟩ := sourceRenderer_laysOut {} lampDispatch lampInterface
  exact ⟨hdispatch (by decide), hinterface (by decide)⟩

end ActionRelay
