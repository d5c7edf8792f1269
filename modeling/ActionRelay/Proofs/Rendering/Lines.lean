import ActionRelay.Rendering
import Mathlib.Data.List.Basic
/-!
# Rendering — the lines of a text

A page is written in pieces and keeps track of where a line starts. What
comes out is said here without pages: the wrapper and the interface are
lists of lines (`Dispatch.lines`, `Interface.lines`), and their texts are
these lines, each with a line end behind it (`Dispatch.text_write`,
`Interface.text_write`). This needs that no name and no type has a line end
or a carriage return inside.

`Page.Writes` says which lines a step of the writer adds to any page. There
is one lemma for each way in which steps are put together.
-/

namespace ActionRelay

namespace Text

/-- Whether no line ends inside a text. -/
def Unbroken (text : String) : Prop :=
  ∀ c ∈ text.toList, c ≠ '\n' ∧ c ≠ '\r'

instance (text : String) : Decidable (Unbroken text) :=
  List.decidableBAll (fun c => c ≠ '\n' ∧ c ≠ '\r') text.toList

/-- A line with spaces in front of it; a line that is empty stays so. -/
def indentLine (margin : ℕ) (line : String) : String :=
  if line = "" then "" else String.ofList (List.replicate margin ' ') ++ line

/-- The lines inside a block. -/
def indent (lines : List String) : List String :=
  lines.map (indentLine Page.indentation)

/-- A block: a line that opens it, the lines inside, and a line that closes
it. -/
def blockLines (header : String) (lines : List String) : List String :=
  (header ++ " \x7b") :: indent lines ++ ["\x7d"]

/-- The text that has the given lines. -/
def unlines (lines : List String) : String :=
  String.join (lines.map (· ++ "\n"))

@[simp]
theorem indentLine_zero (line : String) : indentLine 0 line = line := by
  rw [indentLine]
  split
  case isTrue hline => exact hline.symm
  case isFalse => simp

@[simp]
theorem indentLine_empty (margin : ℕ) : indentLine margin "" = "" :=
  if_pos rfl

section Unbroken

variable {a b : String} {margin : ℕ} {lines : List String}

@[simp]
theorem unbroken_append : Unbroken (a ++ b) ↔ Unbroken a ∧ Unbroken b := by
  rw [Unbroken, String.toList_append, List.forall_mem_append]
  rfl

theorem unbroken_join {pieces : List String} :
    Unbroken (String.join pieces) ↔ ∀ piece ∈ pieces, Unbroken piece := by
  induction pieces with
  | nil => simp [Unbroken]
  | cons piece pieces ih => rw [String.join_cons, unbroken_append, ih, List.forall_mem_cons]

/-- What holds of the characters of parts and of a separator holds of the
parts with the separator between them. -/
theorem forall_mem_intercalate {p : Char → Prop} (sep : String) {texts : List String}
    (hsep : ∀ c ∈ sep.toList, p c) (h : ∀ text ∈ texts, ∀ c ∈ text.toList, p c) :
    ∀ c ∈ (String.intercalate sep texts).toList, p c := by
  induction texts with
  | nil => simp
  | cons text texts ih =>
    rw [List.forall_mem_cons] at h
    cases texts with
    | nil => simpa using h.1
    | cons second later =>
      rw [String.intercalate_cons_cons]
      simp only [String.toList_append, List.forall_mem_append]
      exact ⟨⟨h.1, hsep⟩, ih h.2⟩

theorem unbroken_commaSeparated {texts : List String} (h : ∀ text ∈ texts, Unbroken text) :
    Unbroken (commaSeparated texts) := by
  have hcomma : Unbroken ", " := by decide
  exact forall_mem_intercalate ", " hcomma h

@[simp]
theorem unbroken_indentLine : Unbroken (indentLine margin a) ↔ Unbroken a := by
  rw [indentLine]
  split
  case isTrue ha => rw [ha]
  case isFalse =>
    have hmargin : Unbroken (String.ofList (List.replicate margin ' ')) := by
      intro c hc
      rw [String.toList_ofList] at hc
      rw [List.eq_of_mem_replicate hc]
      decide
    rw [unbroken_append, and_iff_right hmargin]

@[simp]
theorem forall_unbroken_indent :
    (∀ line ∈ indent lines, Unbroken line) ↔ ∀ line ∈ lines, Unbroken line := by
  simp [indent]

@[simp]
theorem forall_unbroken_blockLines {header : String} :
    (∀ line ∈ blockLines header lines, Unbroken line) ↔
      Unbroken header ∧ ∀ line ∈ lines, Unbroken line := by
  have hopen : Unbroken " \x7b" := by decide
  have hclose : Unbroken "\x7d" := by decide
  rw [blockLines, List.cons_append, List.forall_mem_cons, List.forall_mem_append,
    List.forall_mem_singleton, forall_unbroken_indent, unbroken_append, and_iff_left hopen,
    and_iff_left hclose]

end Unbroken

/-! ## Pieces -/

section Pieces

variable {margin : ℕ} {atStart : Bool} {c : Char} {cs rest : List Char}

theorem indentChars_cons (hn : c ≠ '\n') (hr : c ≠ '\r') :
    indentChars margin atStart (c :: rest)
      = (if atStart then List.replicate margin ' ' else [])
        ++ c :: indentChars margin false rest := by
  cases atStart <;> simp [indentChars, hr]

theorem endsLine_cons : endsLine atStart (c :: rest) = endsLine (c == '\n') rest := by
  rcases rest with - | ⟨d, rest⟩
  · rfl
  · rw [endsLine, endsLine, List.getLast?_cons_cons]
    simp [List.getLast?_cons]

/-- A piece goes on where the one before it has ended, unless a carriage
return is dropped between them. -/
theorem indentChars_append (hr : '\r' ∉ cs) :
    indentChars margin atStart (cs ++ rest)
      = indentChars margin atStart cs ++ indentChars margin (endsLine atStart cs) rest := by
  induction cs generalizing atStart with
  | nil => simp [indentChars, endsLine]
  | cons c cs ih =>
    simp only [List.mem_cons, not_or] at hr
    rw [List.cons_append, endsLine_cons]
    by_cases hn : c = '\n'
    -- the rest starts a line after a line end, and only then
    · subst hn
      simp [indentChars, ih hr.2]
    · rw [indentChars_cons hn (Ne.symm hr.1), indentChars_cons hn (Ne.symm hr.1), ih hr.2]
      rw [beq_eq_false_iff_ne.2 hn, List.append_assoc, List.cons_append]

theorem endsLine_append : endsLine atStart (cs ++ rest) = endsLine (endsLine atStart cs) rest := by
  induction cs generalizing atStart with
  | nil => rfl
  | cons c cs ih => rw [List.cons_append, endsLine_cons, ih, endsLine_cons]

/-- Inside a line, what does not end it is copied. -/
theorem indentChars_false (h : ∀ c ∈ cs, c ≠ '\n' ∧ c ≠ '\r') :
    indentChars margin false cs = cs := by
  induction cs with
  | nil => rfl
  | cons c cs ih =>
    rw [List.forall_mem_cons] at h
    rw [indentChars_cons h.1.1 h.1.2, ih h.2]
    rfl

/-- At the start of a line, it gets the margin. -/
theorem indentChars_true {line : String} (h : Unbroken line) :
    indentChars margin true line.toList = (indentLine margin line).toList := by
  rw [indentLine]
  split
  case isTrue hline =>
    rw [hline]
    rfl
  case isFalse hline =>
    rcases hcs : line.toList with - | ⟨c, cs⟩
    · exact absurd (String.toList_inj.1 hcs) hline
    · rw [Unbroken, hcs, List.forall_mem_cons] at h
      rw [indentChars_cons h.1.1 h.1.2, indentChars_false h.2, String.toList_append, hcs,
        String.toList_ofList]
      rfl

theorem endsLine_of_unbroken (h : ∀ c ∈ cs, c ≠ '\n' ∧ c ≠ '\r') (hcs : cs ≠ []) :
    endsLine atStart cs = false := by
  rw [endsLine, List.getLast?_eq_some_getLast hcs]
  simpa using (h _ (List.getLast_mem hcs)).1

end Pieces

namespace Page

variable {page : Page} {pieces : List String} {line : String}

theorem write_write {a : String} (b : String) (hr : '\r' ∉ a.toList) :
    (page.write a).write b = page.write (a ++ b) := by
  simp [write, indentChars_append hr, endsLine_append, String.ofList_append, String.append_assoc]

theorem write_empty : page.write "" = page := by
  simp [write, indentChars, endsLine]

/-- Written one after another, pieces are written as one. -/
theorem writeAll_eq_write (hr : ∀ piece ∈ pieces, '\r' ∉ piece.toList) :
    page.writeAll pieces = page.write (String.join pieces) := by
  induction pieces generalizing page with
  | nil => rw [String.join_nil, write_empty, writeAll, List.foldl_nil]
  | cons piece pieces ih =>
    rw [List.forall_mem_cons] at hr
    have hlater : page.writeAll (piece :: pieces) = (page.write piece).writeAll pieces := rfl
    rw [hlater, ih hr.2, write_write _ hr.1, String.join_cons]

/-- The page with lines added to it. -/
def addLines (page : Page) (lines : List String) : Page :=
  { page with text := page.text ++ unlines (lines.map (indentLine page.margin)) }

/-- **Whether a step adds the given lines** to every page that is at the
start of a line. -/
def Writes (body : Page → Page) (lines : List String) : Prop :=
  ∀ page, page.atStart = true → body page = page.addLines lines

/-! ## Steps -/

variable {body next : Page → Page} {lines later : List String}

theorem addLines_append :
    (page.addLines lines).addLines later = page.addLines (lines ++ later) := by
  simp [addLines, unlines, String.join_append, String.append_assoc]

theorem writes_nil : Writes id [] := by
  intro page _
  simp [addLines, unlines]

theorem Writes.andThen (h : Writes body lines) (hnext : Writes next later) :
    Writes (fun page => next (body page)) (lines ++ later) := by
  intro page hstart
  show next (body page) = _
  rw [h page hstart, hnext (page.addLines lines) hstart, addLines_append]

/-- A text that ends a line adds that line. -/
theorem writes_text {text : String} (htext : text = line ++ "\n") (h : Unbroken line) :
    Writes (·.write text) [line] := by
  intro page hstart
  have hr : '\r' ∉ line.toList := fun hmem => (h _ hmem).2 rfl
  have hchars : indentChars page.margin page.atStart (line ++ "\n").toList
      = (indentLine page.margin line ++ "\n").toList := by
    rw [String.toList_append, indentChars_append hr, hstart, indentChars_true h,
      String.toList_append]
    rfl
  have hend : endsLine page.atStart (line ++ "\n").toList = page.atStart := by
    rw [hstart, String.toList_append, endsLine_append]
    rfl
  show page.write text = _
  rw [htext, write, hchars, hend, String.ofList_toList]
  simp [addLines, unlines]

/-- **Pieces** that make up a line add it. -/
theorem writes_pieces (hjoin : String.join pieces = line ++ "\n") (h : Unbroken line) :
    Writes (·.writeAll pieces) [line] := by
  have hr : ∀ piece ∈ pieces, '\r' ∉ piece.toList := by
    intro piece hpiece hmem
    have hline : '\r' ∈ (line ++ "\n").toList := by
      rw [← hjoin, String.toList_join]
      exact List.mem_flatMap.2 ⟨piece, hpiece, hmem⟩
    rw [String.toList_append, List.mem_append] at hline
    rcases hline with hline | hline
    · exact (h _ hline).2 rfl
    · simp at hline
  intro page hstart
  show page.writeAll pieces = _
  rw [writeAll_eq_write hr]
  exact writes_text hjoin h page hstart

/-- **Steps for the entries of a list**, one after another. -/
theorem writes_foldl {α : Type} {step : Page → α → Page} {entries : List α}
    {linesOf : α → List String}
    (h : ∀ entry ∈ entries, Writes (fun page => step page entry) (linesOf entry)) :
    Writes (fun page => entries.foldl step page) (entries.flatMap linesOf) := by
  induction entries with
  | nil => exact writes_nil
  | cons entry entries ih =>
    rw [List.forall_mem_cons] at h
    exact h.1.andThen (ih h.2)

theorem indentLine_add (margin margin' : ℕ) (line : String) :
    indentLine (margin + margin') line = indentLine margin (indentLine margin' line) := by
  by_cases hline : line = ""
  · simp [indentLine, hline]
  · have hinner : String.ofList (List.replicate margin' ' ') ++ line ≠ "" := by
      simp [hline]
    simp only [indentLine, hline, if_false, hinner]
    rw [List.replicate_add, String.ofList_append, String.append_assoc]

/-- **A deeper margin** indents the lines. -/
theorem Writes.indented (h : Writes body lines) : Writes (·.indented body) (indent lines) := by
  intro page hstart
  show page.indented body = _
  rw [Page.indented, h { page with margin := page.margin + indentation } hstart]
  simp only [addLines, indent, List.map_map, Function.comp_def, funext (indentLine_add _ _)]

/-- **A block** puts braces around the lines. -/
theorem Writes.block {header : String} (hjoin : String.join pieces = header) (h : Unbroken header)
    (hheader : header ≠ "") (hbody : Writes body lines) :
    Writes (fun page => (page.writeAll pieces).block body) (blockLines header lines) := by
  intro page hstart
  have hpieces : ∀ piece ∈ pieces, Unbroken piece := by
    rwa [← unbroken_join, hjoin]
  have hr : '\r' ∉ (header ++ " ").toList := by
    intro hmem
    rw [String.toList_append, List.mem_append] at hmem
    rcases hmem with hmem | hmem
    · exact (h _ hmem).2 rfl
    · simp at hmem
  -- inside the line that is begun, the brace comes after a space
  have hinside : (page.write header).atStart = false := by
    refine endsLine_of_unbroken h fun hnil => hheader ?_
    exact String.toList_inj.1 hnil
  have hopen : ((page.write header).write " ").write "\x7b\n"
      = page.write (header ++ " \x7b" ++ "\n") := by
    rw [write_write _ (fun hmem => (h _ hmem).2 rfl), write_write _ hr, String.append_assoc,
      String.append_assoc]
    rfl
  have hunbroken : Unbroken (header ++ " \x7b") := unbroken_append.2 ⟨h, by decide⟩
  have hclose : Unbroken "\x7d" := by decide
  show (page.writeAll pieces).block body = _
  rw [writeAll_eq_write fun piece hpiece hmem => (hpieces piece hpiece _ hmem).2 rfl, hjoin]
  simp only [Page.block, hinside, Bool.false_eq_true, if_false, hopen]
  exact ((writes_text rfl hunbroken).andThen hbody.indented).andThen
    (writes_text (by decide) hclose) page hstart

/-- What is written on an empty page is the text of the lines. -/
theorem Writes.text_eq (h : Writes body lines) : (body {}).text = unlines lines := by
  rw [h {} rfl]
  simp [addLines, funext indentLine_zero]

end Page

end Text

open Text
open Text.Page

/-! ## The wrapper -/

/-- The line that starts an arm. -/
def Arm.pattern (arm : Arm) : String :=
  if arm.bindings.isEmpty then "case ." ++ arm.tag ++ ":"
  else "case let ." ++ arm.tag ++ "(" ++ commaSeparated arm.bindings ++ "):"

/-- What an arm returns. -/
def Arm.result (noOp : String) (arm : Arm) : String :=
  (arm.call.map Call.text).getD noOp

/-- The two lines of an arm. -/
def Arm.lines (noOp : String) (arm : Arm) : List String :=
  arm.pattern :: indent ["return " ++ arm.result noOp]

/-- The lines of what the wrapper does with an action. -/
def Dispatch.bodyLines (noOp : String) (dispatch : Dispatch) : List String :=
  match dispatch.body with
  | none => [noOp]
  | some arms => "switch action \x7b" :: arms.flatMap (Arm.lines noOp) ++ ["\x7d"]

/-- The line that opens the method of the wrapper, up to its brace. -/
def Conventions.methodHeader (names : Conventions) : String :=
  String.join ["func ", names.dispatchMethod, "(into ", names.stateParameter, ": inout ",
    names.stateType, ", action: ", names.actionType, ") -> ", names.effectType, "<",
    names.actionType, ">"]

/-- The field that holds the handler, and its type. -/
def Dispatch.handler (dispatch : Dispatch) : String :=
  dispatch.handlerField ++ ": " ++ dispatch.handlerType

/-- The lines of the field and of the initializer. -/
def Dispatch.handlerLines (dispatch : Dispatch) : List String :=
  ["private let " ++ dispatch.handler, ""]
    ++ blockLines ("init(_ " ++ dispatch.handler ++ ")")
      ["self." ++ dispatch.handlerField ++ " = " ++ dispatch.handlerField]

/-- **The lines of the wrapper.** -/
def Dispatch.lines (names : Conventions) (dispatch : Dispatch) : List String :=
  blockLines ("private struct " ++ dispatch.name ++ ": " ++ dispatch.capability)
    (dispatch.handlerLines ++ [""]
      ++ blockLines names.methodHeader (dispatch.bodyLines names.noOp))

/-- All names in an argument. -/
def Call.Argument.names (argument : Call.Argument) : List String :=
  argument.label.toList ++ [argument.value.name]

/-- All names in a call. -/
def Call.names (call : Call) : List String :=
  call.receiver :: call.method :: call.arguments.flatMap Call.Argument.names

/-- All names in an arm. -/
def Arm.names (arm : Arm) : List String :=
  arm.tag :: arm.bindings ++ arm.call.toList.flatMap Call.names

/-- All names in a wrapper. -/
def Dispatch.names (dispatch : Dispatch) : List String :=
  [dispatch.name, dispatch.capability, dispatch.handlerField, dispatch.handlerType]
    ++ dispatch.arms.flatMap Arm.names

/-- The names that show in a wrapper whatever it is made for. -/
def Conventions.shown (names : Conventions) : List String :=
  [names.dispatchMethod, names.stateParameter, names.stateType, names.actionType,
    names.effectType, names.noOp]

theorem Call.Argument.unbroken_text {argument : Call.Argument}
    (h : ∀ name ∈ argument.names, Unbroken name) : Unbroken argument.text := by
  have hmark : Unbroken "&" := by decide
  have hcolon : Unbroken ": " := by decide
  obtain ⟨label, value⟩ := argument
  simp only [names, List.forall_mem_append, List.forall_mem_singleton] at h
  have hvalue : Unbroken value.text := by
    cases value with
    | binding name => exact h.2
    | state name => exact unbroken_append.2 ⟨hmark, h.2⟩
  cases label with
  | none => exact hvalue
  | some label =>
    simp only [text, unbroken_append]
    exact ⟨⟨h.1 label (by simp), hcolon⟩, hvalue⟩

theorem Call.unbroken_text {call : Call} (h : ∀ name ∈ call.names, Unbroken name) :
    Unbroken call.text := by
  simp only [names, List.forall_mem_cons, List.forall_mem_flatMap] at h
  obtain ⟨hreceiver, hmethod, harguments⟩ := h
  have harguments : Unbroken (commaSeparated (call.arguments.map Call.Argument.text)) :=
    unbroken_commaSeparated (List.forall_mem_map.2 fun argument hargument =>
      Argument.unbroken_text (harguments argument hargument))
  have hmarks : Unbroken "." ∧ Unbroken "(" ∧ Unbroken ")" := by decide
  simp only [text, unbroken_append]
  exact ⟨⟨⟨⟨⟨hreceiver, hmarks.1⟩, hmethod⟩, hmarks.2.1⟩, harguments⟩, hmarks.2.2⟩

theorem Arm.unbroken_lines {noOp : String} {arm : Arm} (hnoOp : Unbroken noOp)
    (h : ∀ name ∈ arm.names, Unbroken name) : ∀ line ∈ arm.lines noOp, Unbroken line := by
  obtain ⟨tag, bindings, call⟩ := arm
  simp only [names, List.cons_append, List.forall_mem_cons, List.forall_mem_append,
    List.forall_mem_flatMap] at h
  obtain ⟨htag, hbindings, hcall⟩ := h
  have hmarks : Unbroken "case ." ∧ Unbroken ":" ∧ Unbroken "case let ." ∧ Unbroken "(" ∧
      Unbroken "):" ∧ Unbroken "return " := by decide
  have hpattern : Unbroken (pattern ⟨tag, bindings, call⟩) := by
    rw [pattern]
    split_ifs
    · simp only [unbroken_append, htag, hmarks, and_self]
    · simp only [unbroken_append, htag, hmarks, unbroken_commaSeparated hbindings, and_self]
  have hresult : Unbroken (result noOp ⟨tag, bindings, call⟩) := by
    cases call with
    | none => exact hnoOp
    | some call => exact Call.unbroken_text (hcall call (by simp))
  simp only [lines, List.forall_mem_cons, forall_unbroken_indent, unbroken_append]
  exact ⟨hpattern, ⟨hmarks.2.2.2.2.2, hresult⟩, List.forall_mem_nil _⟩

theorem Conventions.unbroken_methodHeader {names : Conventions}
    (h : ∀ name ∈ names.shown, Unbroken name) : Unbroken names.methodHeader := by
  simp only [shown, List.forall_mem_cons] at h
  obtain ⟨hmethod, hparameter, hstate, haction, heffect, -⟩ := h
  rw [methodHeader, unbroken_join]
  simp only [List.forall_mem_cons, hmethod, hparameter, hstate, haction, heffect, true_and]
  decide

theorem Dispatch.unbroken_bodyLines {noOp : String} {dispatch : Dispatch} (hnoOp : Unbroken noOp)
    (h : ∀ arm ∈ dispatch.arms, ∀ name ∈ arm.names, Unbroken name) :
    ∀ line ∈ dispatch.bodyLines noOp, Unbroken line := by
  have hmarks : Unbroken "switch action \x7b" ∧ Unbroken "\x7d" := by decide
  rw [arms] at h
  rw [bodyLines]
  generalize dispatch.body = body at h ⊢
  rcases body with - | arms
  · exact List.forall_mem_singleton.2 hnoOp
  · simp only [List.cons_append, List.forall_mem_cons, List.forall_mem_append,
      List.forall_mem_flatMap]
    exact ⟨hmarks.1, fun arm harm => Arm.unbroken_lines hnoOp (h arm harm), hmarks.2,
      List.forall_mem_nil _⟩

/-- No line of a wrapper is broken where its names are not. -/
theorem Dispatch.unbroken_lines {names : Conventions} {dispatch : Dispatch}
    (hshown : ∀ name ∈ names.shown, Unbroken name) (h : ∀ name ∈ dispatch.names, Unbroken name) :
    ∀ line ∈ dispatch.lines names, Unbroken line := by
  simp only [Dispatch.names, List.cons_append, List.forall_mem_cons, List.nil_append,
    List.forall_mem_flatMap] at h
  obtain ⟨hname, hcapability, hfield, htype, harms⟩ := h
  have hmarks : Unbroken "private struct " ∧ Unbroken ": " ∧ Unbroken "private let " ∧
      Unbroken "" ∧ Unbroken "init(_ " ∧ Unbroken ")" ∧ Unbroken "self." ∧ Unbroken " = " := by
    decide
  have hnoOp : Unbroken names.noOp := hshown _ (by simp [Conventions.shown])
  have hbody := Dispatch.unbroken_bodyLines hnoOp harms
  have hmethod := Conventions.unbroken_methodHeader hshown
  simp only [lines, handlerLines, handler, forall_unbroken_blockLines, List.forall_mem_append,
    List.forall_mem_cons, unbroken_append]
  simp only [hmarks, hname, hcapability, hfield, htype, hmethod, true_and]
  exact ⟨⟨⟨List.forall_mem_nil _, List.forall_mem_nil _⟩, List.forall_mem_nil _⟩, hbody⟩

theorem Arm.writes {noOp : String} {arm : Arm} (h : ∀ line ∈ arm.lines noOp, Unbroken line) :
    Writes (fun page => arm.write noOp page) (arm.lines noOp) := by
  simp only [lines, List.forall_mem_cons, forall_unbroken_indent] at h
  have hpattern : Writes
      (·.writeAll (if arm.bindings.isEmpty then ["case .", arm.tag, ":\n"]
        else ["case let .", arm.tag, "(", commaSeparated arm.bindings, "):\n"])) [arm.pattern] := by
    refine writes_pieces ?_ h.1
    rw [pattern]
    split
    · simp [String.join_cons, String.append_assoc]
    · simp [String.join_cons, String.append_assoc]
  have hresult : Writes (·.writeAll ["return ", arm.result noOp, "\n"])
      ["return " ++ arm.result noOp] := by
    refine writes_pieces ?_ h.2.1
    simp [String.join_cons, String.append_assoc]
  exact hpattern.andThen hresult.indented

theorem Dispatch.writes_body {noOp : String} {dispatch : Dispatch}
    (h : ∀ line ∈ dispatch.bodyLines noOp, Unbroken line) :
    Writes (dispatch.writeBody noOp) (dispatch.bodyLines noOp) := by
  unfold writeBody
  rw [bodyLines] at h ⊢
  rcases hbody : dispatch.body with - | arms
  · simp only [hbody, List.forall_mem_singleton] at h ⊢
    exact writes_pieces (by simp [String.join_cons]) h
  · simp only [hbody, List.cons_append, List.forall_mem_cons, List.forall_mem_append] at h ⊢
    have hopen : Writes (·.write "switch action \x7b\n") ["switch action \x7b"] :=
      writes_text (by decide) h.1
    have hclose : Writes (·.write "\x7d\n") ["\x7d"] := writes_text (by decide) (by decide)
    have harms : Writes (fun page => arms.foldl (Arm.write noOp) page)
        (arms.flatMap (Arm.lines noOp)) := by
      refine writes_foldl fun arm harm => Arm.writes fun line hline => ?_
      exact h.2.1 line (List.mem_flatMap.2 ⟨arm, harm, hline⟩)
    exact (hopen.andThen harms).andThen hclose

theorem Dispatch.writes_handler {dispatch : Dispatch}
    (h : ∀ line ∈ dispatch.handlerLines, Unbroken line) :
    Writes dispatch.writeHandler dispatch.handlerLines := by
  simp only [handlerLines, forall_unbroken_blockLines, List.forall_mem_append,
    List.forall_mem_cons] at h
  obtain ⟨⟨hfield, hempty, -⟩, hinit, hset, -⟩ := h
  have hfield : Writes
      (·.writeAll ["private let ", dispatch.handlerField, ": ", dispatch.handlerType, "\n"])
      ["private let " ++ dispatch.handler] := by
    refine writes_pieces ?_ hfield
    simp [String.join_cons, handler, String.append_assoc]
  have hempty : Writes (·.write "\n") [""] := writes_text (by decide) hempty
  have hset : Writes
      (·.writeAll ["self.", dispatch.handlerField, " = ", dispatch.handlerField, "\n"])
      ["self." ++ dispatch.handlerField ++ " = " ++ dispatch.handlerField] := by
    refine writes_pieces ?_ hset
    simp [String.join_cons, String.append_assoc]
  have hjoin : String.join ["init(_ ", dispatch.handlerField, ": ", dispatch.handlerType, ")"]
      = "init(_ " ++ dispatch.handler ++ ")" := by
    simp [String.join_cons, handler, String.append_assoc]
  exact (hfield.andThen hempty).andThen (hset.block hjoin hinit (by simp))

theorem Dispatch.writes {names : Conventions} {dispatch : Dispatch}
    (h : ∀ line ∈ dispatch.lines names, Unbroken line) :
    Writes (dispatch.write names) (dispatch.lines names) := by
  simp only [lines, forall_unbroken_blockLines, List.forall_mem_append, List.forall_mem_cons] at h
  obtain ⟨hheader, ⟨hhandler, hempty, -⟩, hmethod, hbody⟩ := h
  have hempty : Writes (·.write "\n") [""] := writes_text (by decide) hempty
  have hjoin : String.join ["private struct ", dispatch.name, ": ", dispatch.capability]
      = "private struct " ++ dispatch.name ++ ": " ++ dispatch.capability := by
    simp [String.join_cons, String.append_assoc]
  have hne : names.methodHeader ≠ "" := by
    rw [Conventions.methodHeader, String.join_cons]
    simp
  have hmethod : Writes (dispatch.writeMethod names)
      (blockLines names.methodHeader (dispatch.bodyLines names.noOp)) :=
    (writes_body hbody).block rfl hmethod hne
  exact (((writes_handler hhandler).andThen hempty).andThen hmethod).block hjoin hheader (by simp)

/-- **The text of the wrapper** has its lines. -/
theorem Dispatch.text_write {names : Conventions} {dispatch : Dispatch}
    (hshown : ∀ name ∈ names.shown, Unbroken name) (h : ∀ name ∈ dispatch.names, Unbroken name) :
    (dispatch.write names {}).text = unlines (dispatch.lines names) :=
  (writes (unbroken_lines hshown h)).text_eq

/-! ## The interface -/

/-- The line of an alias. -/
def Alias.line (entry : Alias) : String :=
  "typealias " ++ entry.name ++ " = " ++ entry.target.text

/-- The line that opens the interface, up to its brace. -/
def Interface.header (interface : Interface) : String :=
  String.join interface.visibility.modifier ++ "protocol " ++ interface.name

/-- The lines inside the interface: the aliases, and below an empty line the
methods. -/
def Interface.bodyLines (interface : Interface) : List String :=
  interface.aliases.map Alias.line ++ (if interface.methods.isEmpty then [] else [""])
    ++ interface.methods.map Signature.text

/-- **The lines of the interface.** -/
def Interface.lines (interface : Interface) : List String :=
  blockLines interface.header interface.bodyLines

/-- The label in a text, if it has a name of its own. -/
def ArgumentLabel.texts : ArgumentLabel → List String
  | .relabeled label => [label]
  | _ => []

/-- All names in a parameter, and the text of its type. -/
def Parameter.texts (parameter : Parameter) : List String :=
  parameter.label.texts ++ [parameter.name, parameter.type.text]

/-- All names in a method, and the texts of its types. -/
def Signature.texts (signature : Signature) : List String :=
  signature.name :: signature.parameters.flatMap Parameter.texts
    ++ [signature.state.name, signature.state.type.text, signature.returns.text]

/-- All names in an interface, and the texts of its types. -/
def Interface.texts (interface : Interface) : List String :=
  interface.name :: interface.aliases.flatMap (fun entry => [entry.name, entry.target.text])
    ++ interface.methods.flatMap Signature.texts

theorem Parameter.forall_mem_text {p : Char → Prop} {parameter : Parameter}
    (hmarks : p '_' ∧ p ' ' ∧ p ':') (h : ∀ text ∈ parameter.texts, ∀ c ∈ text.toList, p c) :
    ∀ c ∈ parameter.text.toList, p c := by
  obtain ⟨label, name, type⟩ := parameter
  simp only [texts, List.forall_mem_append, List.forall_mem_cons] at h
  obtain ⟨hlabel, hname, htype, -⟩ := h
  cases label with
  | unlabeled => simpa [text, or_imp, forall_and, hmarks] using ⟨hname, htype⟩
  | named => simpa [text, or_imp, forall_and, hmarks] using ⟨hname, htype⟩
  | relabeled label =>
    have hlabel := hlabel label (by simp [ArgumentLabel.texts])
    simpa [text, or_imp, forall_and, hmarks] using ⟨hlabel, hname, htype⟩

/-- What holds of the characters of parameters, of the state and of the
marks between them holds of the list of parameters. -/
theorem Signature.forall_mem_parameters {p : Char → Prop} {signature : Signature}
    (hmarks : ∀ c ∈ "_ :inout,".toList, p c)
    (h : ∀ text ∈ signature.texts, ∀ c ∈ text.toList, p c) :
    ∀ c ∈ (commaSeparated (signature.parameters.map Parameter.text
      ++ [signature.state.text])).toList, p c := by
  simp only [texts, List.cons_append, List.forall_mem_cons, List.forall_mem_append,
    List.forall_mem_flatMap] at h
  obtain ⟨-, hparameters, hstate, htype, -⟩ := h
  have hcomma : ", ".toList ⊆ "_ :inout,".toList := by decide
  have hinout : ": inout ".toList ⊆ "_ :inout,".toList := by decide
  refine forall_mem_intercalate ", " (fun c hc => hmarks c (hcomma hc)) ?_
  rw [List.forall_mem_append, List.forall_mem_singleton, List.forall_mem_map]
  constructor
  · intro parameter hparameter
    have hparameterMarks : p '_' ∧ p ' ' ∧ p ':' :=
      ⟨hmarks _ (by decide), hmarks _ (by decide), hmarks _ (by decide)⟩
    exact Parameter.forall_mem_text hparameterMarks (hparameters parameter hparameter)
  · simp only [StateParameter.text, String.toList_append, List.forall_mem_append]
    exact ⟨⟨hstate, fun c hc => hmarks c (hinout hc)⟩, htype⟩

theorem Signature.unbroken_text {signature : Signature}
    (h : ∀ text ∈ signature.texts, Unbroken text) : Unbroken signature.text := by
  have hmarks : Unbroken "_ :inout," ∧ Unbroken "func " ∧ Unbroken "(" ∧ Unbroken ") -> " := by
    decide
  have hlist : Unbroken (commaSeparated (signature.parameters.map Parameter.text
      ++ [signature.state.text])) := forall_mem_parameters hmarks.1 h
  simp only [texts, List.cons_append, List.forall_mem_cons, List.forall_mem_append] at h
  obtain ⟨hname, -, -, -, hreturns, -⟩ := h
  rw [text]
  simp only [unbroken_append, hname, hlist, hreturns, hmarks, and_self]

/-- No line of an interface is broken where its names and types are not. -/
theorem Interface.unbroken_lines {interface : Interface}
    (h : ∀ text ∈ interface.texts, Unbroken text) :
    ∀ line ∈ interface.lines, Unbroken line := by
  simp only [texts, List.cons_append, List.forall_mem_cons, List.forall_mem_append,
    List.forall_mem_flatMap] at h
  obtain ⟨hname, haliases, hmethods⟩ := h
  have hmarks : Unbroken "protocol " ∧ Unbroken "" ∧ Unbroken "typealias " ∧ Unbroken " = " := by
    decide
  have hheader : Unbroken interface.header := by
    have hmodifier : Unbroken (String.join interface.visibility.modifier) := by
      cases interface.visibility <;> decide
    rw [header]
    simp only [unbroken_append, hmodifier, hname, hmarks, and_self]
  simp only [lines, bodyLines, forall_unbroken_blockLines, List.forall_mem_append,
    List.forall_mem_map]
  refine ⟨hheader, ⟨fun entry hentry => ?_, ?_⟩, fun method hmethod => ?_⟩
  · obtain ⟨hname, htarget, -⟩ := haliases entry hentry
    rw [Alias.line]
    simp only [unbroken_append, hname, htarget, hmarks, and_self]
  · split_ifs
    · exact List.forall_mem_nil _
    · exact List.forall_mem_singleton.2 hmarks.2.1
  · exact Signature.unbroken_text (hmethods method hmethod)

/-- Cut into pieces, a type has the same text. -/
theorem TypeExpr.join_pieces (t : TypeExpr) : String.join t.pieces = t.text := by
  fun_induction pieces t with
  | case1 elements => simp [text, String.join_cons, String.append_assoc]
  | case2 wrapped ih => simp [text, String.join_append, ih]
  | case3 element ih => simp [text, String.join_append, ih, String.append_assoc]
  | case4 key value ihkey ihvalue =>
    simp [text, String.join_append, ihkey, ihvalue, String.append_assoc]
  | case5 t => simp

theorem Interface.writes {interface : Interface} (h : ∀ line ∈ interface.lines, Unbroken line) :
    Writes interface.write interface.lines := by
  simp only [lines, bodyLines, forall_unbroken_blockLines, List.forall_mem_append,
    List.forall_mem_map] at h
  obtain ⟨hheader, ⟨haliases, -⟩, hmethods⟩ := h
  have haliases : Writes (fun page => interface.aliases.foldl Alias.write page)
      (interface.aliases.flatMap fun entry => [entry.line]) := by
    -- the type of an alias is written in pieces of its own
    refine writes_foldl fun entry hentry => writes_pieces ?_ (haliases entry hentry)
    simp [String.join_cons, String.join_append, Alias.line, TypeExpr.join_pieces,
      String.append_assoc]
  have hgap : Writes (fun page => if interface.methods.isEmpty then page else page.write "\n")
      (if interface.methods.isEmpty then [] else [""]) := by
    split
    · exact writes_nil
    · exact writes_text (by decide) (by decide)
  have hmethods : Writes (fun page => interface.methods.foldl Signature.write page)
      (interface.methods.flatMap fun method => [method.text]) := by
    refine writes_foldl fun method hmethod => writes_pieces ?_ (hmethods method hmethod)
    simp [String.join_cons]
  rw [← List.map_eq_flatMap] at haliases hmethods
  refine ((haliases.andThen hgap).andThen hmethods).block ?_ hheader (by simp [header])
  simp [String.join_append, String.join_cons, header, String.append_assoc]

/-- **The text of the interface** has its lines. -/
theorem Interface.text_write {interface : Interface}
    (h : ∀ text ∈ interface.texts, Unbroken text) :
    (interface.write {}).text = unlines interface.lines :=
  (writes (unbroken_lines h)).text_eq

end ActionRelay
