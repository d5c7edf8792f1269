import ActionRelay.Conventions
import ActionRelay.Diagnostic
import ActionRelay.Dispatch
import ActionRelay.Interface
import ActionRelay.Text.Page
import ActionRelay.TypeExpr.Printer
/-!
# Rendering

The source text of the generated declarations, in the language of the
host. `sourceRenderer` never gives up.
-/

namespace ActionRelay

open Text (Page)

/-- Turns generated declarations into source text. -/
structure Renderer where
  dispatch : Conventions → Dispatch → Except RenderError String
  interface : Conventions → Interface → Except RenderError String

/-- Texts with a comma between them. -/
def commaSeparated (texts : List String) : String :=
  String.intercalate ", " texts

/-! ## The wrapper -/

/-- What is passed, as an expression. -/
def Call.Value.text : Call.Value → String
  | binding name => name
  | state name => "&" ++ name

/-- An argument, as it stands in a call. -/
def Call.Argument.text (argument : Call.Argument) : String :=
  match argument.label with
  | none => argument.value.text
  | some label => label ++ ": " ++ argument.value.text

/-- A call, as an expression. -/
def Call.text (call : Call) : String :=
  call.receiver ++ "." ++ call.method ++ "("
    ++ commaSeparated (call.arguments.map Call.Argument.text) ++ ")"

/-- Writes an arm: the pattern of the case, and below it what is returned. -/
def Arm.write (noOp : String) (page : Page) (arm : Arm) : Page :=
  let pattern :=
    if arm.bindings.isEmpty then ["case .", arm.tag, ":\n"]
    else ["case let .", arm.tag, "(", commaSeparated arm.bindings, "):\n"]
  (page.writeAll pattern).indented fun page =>
    page.writeAll ["return ", (arm.call.map Call.text).getD noOp, "\n"]

/-- Writes what the wrapper does with an action. -/
def Dispatch.writeBody (noOp : String) (dispatch : Dispatch) (page : Page) : Page :=
  match dispatch.body with
  | none => page.writeAll [noOp, "\n"]
  | some arms =>
    (arms.foldl (Arm.write noOp) (page.write "switch action \x7b\n")).write "\x7d\n"

/-- Writes the field that holds the handler and the initializer that sets
it. -/
def Dispatch.writeHandler (dispatch : Dispatch) (page : Page) : Page :=
  let field := dispatch.handlerField
  (((page.writeAll ["private let ", field, ": ", dispatch.handlerType, "\n"]).write "\n").writeAll
    ["init(_ ", field, ": ", dispatch.handlerType, ")"]).block fun page =>
      page.writeAll ["self.", field, " = ", field, "\n"]

/-- Writes the method that receives actions. -/
def Dispatch.writeMethod (names : Conventions) (dispatch : Dispatch) (page : Page) : Page :=
  (page.writeAll
    ["func ", names.dispatchMethod, "(into ", names.stateParameter, ": inout ", names.stateType,
      ", action: ", names.actionType, ") -> ", names.effectType, "<", names.actionType, ">"]).block
    (dispatch.writeBody names.noOp)

/-- Writes the wrapper. -/
def Dispatch.write (names : Conventions) (dispatch : Dispatch) (page : Page) : Page :=
  (page.writeAll ["private struct ", dispatch.name, ": ", dispatch.capability]).block fun page =>
    dispatch.writeMethod names ((dispatch.writeHandler page).write "\n")

/-! ## The interface -/

/-- A parameter, as it stands in a signature. -/
def Parameter.text (parameter : Parameter) : String :=
  let declared := parameter.name ++ ": " ++ parameter.type.text
  match parameter.label with
  | .unlabeled => "_ " ++ declared
  | .named => declared
  | .relabeled label => label ++ " " ++ declared

/-- The parameter that carries the state. -/
def StateParameter.text (state : StateParameter) : String :=
  state.name ++ ": inout " ++ state.type.text

/-- The declaration of a method. -/
def Signature.text (signature : Signature) : String :=
  "func " ++ signature.name ++ "("
    ++ commaSeparated (signature.parameters.map Parameter.text ++ [signature.state.text])
    ++ ") -> " ++ signature.returns.text

/-- Writes an alias on a line of its own. -/
def Alias.write (page : Page) (entry : Alias) : Page :=
  page.writeAll (["typealias ", entry.name, " = "] ++ entry.target.pieces ++ ["\n"])

/-- Writes a method on a line of its own. -/
def Signature.write (page : Page) (signature : Signature) : Page :=
  page.writeAll [signature.text, "\n"]

/-- Writes the aliases, and below them the methods. -/
def Interface.writeBody (interface : Interface) (page : Page) : Page :=
  let page := interface.aliases.foldl Alias.write page
  let page := if interface.methods.isEmpty then page else page.write "\n"
  interface.methods.foldl Signature.write page

/-- The modifier in front of the interface; none is needed for the usual
visibility. -/
def Visibility.modifier : Visibility → List String
  | .moduleScope => []
  | visibility => [visibility.keyword, " "]

/-- Writes the interface. -/
def Interface.write (interface : Interface) (page : Page) : Page :=
  (page.writeAll (interface.visibility.modifier ++ ["protocol ", interface.name])).block
    interface.writeBody

/-- Renders declarations in the language of the host. -/
def sourceRenderer : Renderer where
  dispatch names dispatch := .ok (dispatch.write names {}).text
  interface _ interface := .ok (interface.write {}).text

end ActionRelay
