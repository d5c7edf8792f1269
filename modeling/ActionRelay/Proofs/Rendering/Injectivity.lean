import ActionRelay.Proofs.Rendering.Parameters
import ActionRelay.Proofs.Rendering.Separators
/-!
# Rendering — the text determines the declaration

Wrappers and interfaces that are made of identifiers and proper types are
equal if their texts are (`sourceRenderer_injective`). A text is taken apart
from the outside: into lines, each line at separators that do not occur in
what stands before them, and lists at their commas. Only the parameters of
a method need more, as types have commas and colons of their own; they are
read from tokens.
-/

namespace ActionRelay

open Text

/-! ## The wrapper -/

/-- Whether all names in a wrapper are identifiers. -/
def Dispatch.isProper (dispatch : Dispatch) : Bool :=
  dispatch.names.all isIdentifier

theorem Call.Value.notMem_text {value : Call.Value} {c : Char}
    (h : isIdentifier value.name = true) (hc : continuesIdentifier c = false) (hmark : c ≠ '&') :
    c ∉ value.text.toList := by
  have hname := notMem_of_isIdentifier h hc
  cases value with
  | binding name => exact hname
  | state name => simpa [text, Value.name, hmark] using hname

theorem Call.Value.text_inj {value value' : Call.Value} (h : isIdentifier value.name = true)
    (h' : isIdentifier value'.name = true) (heq : value.text = value'.text) : value = value' := by
  have hmark : continuesIdentifier '&' = false := by decide
  have hname := notMem_of_isIdentifier h hmark
  have hname' := notMem_of_isIdentifier h' hmark
  cases value with
  | binding name =>
    cases value' with
    | binding name' => exact congrArg _ heq
    | state name' =>
      have heq : name = "&" ++ name' := heq
      simp [Value.name, heq] at hname
  | state name =>
    cases value' with
    | binding name' =>
      have heq : "&" ++ name = name' := heq
      simp [Value.name, ← heq] at hname'
    | state name' => exact congrArg _ ((String.append_right_inj _).1 heq)

theorem Call.Argument.text_inj {argument argument' : Call.Argument}
    (h : ∀ name ∈ argument.names, isIdentifier name = true)
    (h' : ∀ name ∈ argument'.names, isIdentifier name = true)
    (heq : argument.text = argument'.text) : argument = argument' := by
  obtain ⟨label, value⟩ := argument
  obtain ⟨label', value'⟩ := argument'
  simp only [names, List.forall_mem_append, List.forall_mem_singleton] at h h'
  have hcolon : continuesIdentifier ':' = false := by decide
  have hvalue : ':' ∉ value.text.toList := Value.notMem_text h.2 hcolon (by decide)
  have hvalue' : ':' ∉ value'.text.toList := Value.notMem_text h'.2 hcolon (by decide)
  -- a colon comes from a label only
  cases label with
  | none =>
    cases label' with
    | none => rw [Value.text_inj h.2 h'.2 heq]
    | some label' =>
      have heq : value.text = label' ++ ": " ++ value'.text := heq
      simp [heq] at hvalue
  | some label =>
    cases label' with
    | none =>
      have heq : label ++ ": " ++ value.text = value'.text := heq
      simp [← heq] at hvalue'
    | some label' =>
      have heq : label ++ ": " ++ value.text = label' ++ ": " ++ value'.text := heq
      rw [String.append_assoc, String.append_assoc] at heq
      obtain ⟨rfl, hrest⟩ := identifier_append_inj (h.1 label (by simp)) (h'.1 label' (by simp))
        (by decide) heq
      rw [Value.text_inj h.2 h'.2 hrest]

/-- An argument has something in it, but no comma. -/
theorem Call.Argument.text_between_commas {argument : Call.Argument}
    (h : ∀ name ∈ argument.names, isIdentifier name = true) :
    argument.text ≠ "" ∧ ',' ∉ argument.text.toList := by
  obtain ⟨label, value⟩ := argument
  simp only [names, List.forall_mem_append, List.forall_mem_singleton] at h
  have hcomma : continuesIdentifier ',' = false := by decide
  have hvalue : ',' ∉ value.text.toList := Value.notMem_text h.2 hcomma (by decide)
  cases label with
  | none =>
    refine ⟨?_, hvalue⟩
    have hname := ne_empty_of_isIdentifier h.2
    cases value with
    | binding name => exact hname
    | state name => simp [text, Value.text]
  | some label =>
    have hlabel := notMem_of_isIdentifier (h.1 label (by simp)) hcomma
    simp [text, hlabel, hvalue]

theorem Call.text_inj {call call' : Call} (h : ∀ name ∈ call.names, isIdentifier name = true)
    (h' : ∀ name ∈ call'.names, isIdentifier name = true) (heq : call.text = call'.text) :
    call = call' := by
  obtain ⟨receiver, method, arguments⟩ := call
  obtain ⟨receiver', method', arguments'⟩ := call'
  simp only [names, List.forall_mem_cons, List.forall_mem_flatMap] at h h'
  obtain ⟨hreceiver, hmethod, harguments⟩ := h
  obtain ⟨hreceiver', hmethod', harguments'⟩ := h'
  simp only [text, String.append_assoc] at heq
  obtain ⟨rfl, hcall⟩ := identifier_append_inj hreceiver hreceiver' (by decide) heq
  obtain ⟨rfl, hafter⟩ := identifier_append_inj hmethod hmethod' (by decide) hcall
  have htexts := commaSeparated_inj
    (List.forall_mem_map.2 fun a ha => Argument.text_between_commas (harguments a ha))
    (List.forall_mem_map.2 fun a ha => Argument.text_between_commas (harguments' a ha))
    ((String.append_left_inj _).1 hafter)
  obtain rfl := map_inj
    (fun a ha a' ha' => Argument.text_inj (harguments a ha) (harguments' a' ha')) htexts
  rfl

theorem Arm.pattern_inj {arm arm' : Arm} (h : ∀ name ∈ arm.names, isIdentifier name = true)
    (h' : ∀ name ∈ arm'.names, isIdentifier name = true) (heq : arm.pattern = arm'.pattern) :
    arm.tag = arm'.tag ∧ arm.bindings = arm'.bindings := by
  simp only [names, List.cons_append, List.forall_mem_cons, List.forall_mem_append] at h h'
  have hbindings : ∀ bindings : List String, (∀ name ∈ bindings, isIdentifier name = true) →
      ∀ name ∈ bindings, name ≠ "" ∧ ',' ∉ name.toList := fun bindings hall name hname =>
    ⟨ne_empty_of_isIdentifier (hall name hname),
      notMem_of_isIdentifier (hall name hname) (by decide)⟩
  simp only [pattern, List.isEmpty_iff] at heq
  -- a pattern with bindings has a `let`, one without has a dot in its place
  split_ifs at heq with hnone hnone' hnone'
  · refine ⟨?_, by rw [hnone, hnone']⟩
    simpa only [String.append_right_inj, String.append_left_inj] using heq
  · simp [← String.toList_inj] at heq
  · simp [← String.toList_inj] at heq
  · simp only [String.append_assoc, String.append_right_inj] at heq
    obtain ⟨htag, hafter⟩ := identifier_append_inj h.1 h'.1 (by decide) heq
    exact ⟨htag, commaSeparated_inj (hbindings _ h.2.1) (hbindings _ h'.2.1)
      ((String.append_left_inj _).1 hafter)⟩

/-- What an arm returns tells whether it calls anything, and what. -/
theorem Arm.result_inj {arm arm' : Arm} (h : ∀ name ∈ arm.names, isIdentifier name = true)
    (h' : ∀ name ∈ arm'.names, isIdentifier name = true)
    (heq : arm.result ".none" = arm'.result ".none") : arm.call = arm'.call := by
  obtain ⟨tag, bindings, call⟩ := arm
  obtain ⟨tag', bindings', call'⟩ := arm'
  simp only [names, List.cons_append, List.forall_mem_cons, List.forall_mem_append,
    List.forall_mem_flatMap] at h h'
  -- the receiver of a call does not start with a dot
  have hdot : ∀ call : Call, (∀ name ∈ call.names, isIdentifier name = true) →
      call.text ≠ ".none" := by
    intro call hcall htext
    simp only [Call.names, List.forall_mem_cons] at hcall
    have hreceiver : '.' ∉ call.receiver.toList := notMem_of_isIdentifier hcall.1 (by decide)
    have hempty := ne_empty_of_isIdentifier hcall.1
    rcases hchars : call.receiver.toList with - | ⟨first, later⟩
    · exact hempty (String.toList_inj.1 hchars)
    · simp [Call.text, ← String.toList_inj, hchars] at htext
      simp [hchars, htext.1] at hreceiver
  cases call with
  | none =>
    cases call' with
    | none => rfl
    | some call' => exact absurd heq.symm (hdot call' (h'.2.2 call' (by simp)))
  | some call =>
    cases call' with
    | none => exact absurd heq (hdot call (h.2.2 call (by simp)))
    | some call' =>
      have hcall := Call.text_inj (h.2.2 call (by simp)) (h'.2.2 call' (by simp)) heq
      exact congrArg some hcall

theorem Arm.lines_inj {arm arm' : Arm} (h : ∀ name ∈ arm.names, isIdentifier name = true)
    (h' : ∀ name ∈ arm'.names, isIdentifier name = true)
    (heq : arm.lines ".none" = arm'.lines ".none") : arm = arm' := by
  simp only [lines, indent, List.map_cons, List.map_nil, List.cons.injEq, and_true] at heq
  obtain ⟨htag, hbindings⟩ := Arm.pattern_inj h h' heq.1
  have hcall := Arm.result_inj h h'
    ((String.append_right_inj _).1 (indentLine_injective _ heq.2))
  cases arm
  cases arm'
  simp_all

theorem Dispatch.bodyLines_inj {dispatch dispatch' : Dispatch}
    (h : ∀ arm ∈ dispatch.arms, ∀ name ∈ arm.names, isIdentifier name = true)
    (h' : ∀ arm ∈ dispatch'.arms, ∀ name ∈ arm.names, isIdentifier name = true)
    (heq : dispatch.bodyLines ".none" = dispatch'.bodyLines ".none") :
    dispatch.body = dispatch'.body := by
  rw [arms] at h h'
  rw [bodyLines, bodyLines] at heq
  generalize dispatch.body = body at h heq ⊢
  generalize dispatch'.body = body' at h' heq ⊢
  cases body with
  | none =>
    cases body' with
    | none => rfl
    | some arms' => simp at heq
  | some arms =>
    cases body' with
    | none => simp at heq
    | some arms' =>
      -- each arm has two lines, so the lines of all arms are cut by counting
      simp only [List.cons_append, List.cons.injEq, List.append_left_inj, true_and] at heq
      obtain rfl := flatMap_inj (n := 1) (fun _ => rfl)
        (fun arm harm arm' harm' => Arm.lines_inj (h arm harm) (h' arm' harm')) heq
      rfl

/-- **The lines of a wrapper determine it.** -/
theorem Dispatch.lines_inj {dispatch dispatch' : Dispatch}
    (h : ∀ name ∈ dispatch.names, isIdentifier name = true)
    (h' : ∀ name ∈ dispatch'.names, isIdentifier name = true)
    (heq : dispatch.lines {} = dispatch'.lines {}) : dispatch = dispatch' := by
  simp only [names, List.cons_append, List.forall_mem_cons, List.nil_append,
    List.forall_mem_flatMap] at h h'
  obtain ⟨hname, hcapability, hfield, htype, harms⟩ := h
  obtain ⟨hname', hcapability', hfield', htype', harms'⟩ := h'
  obtain ⟨hheader, hinside⟩ := blockLines_inj heq
  -- the field and the initializer take as many lines in every wrapper
  obtain ⟨hhandler, hmethod⟩ := List.append_inj hinside (by simp [handlerLines, blockLines, indent])
  have hbody := Dispatch.bodyLines_inj harms harms' (blockLines_inj hmethod).2
  simp only [handlerLines, List.cons_append, List.cons.injEq, String.append_right_inj, handler,
    String.append_assoc] at hhandler hheader
  obtain ⟨hsameName, hsameCapability⟩ := identifier_append_inj hname hname' (by decide) hheader
  obtain ⟨hsameField, hsameType⟩ := identifier_append_inj hfield hfield' (by decide) hhandler.1
  cases dispatch
  cases dispatch'
  simp_all

/-! ## Types -/

mutual

/-- **The text of a proper type** is made of words, signs and spaces. -/
theorem TypeExpr.isTypeChar_text : (t : TypeExpr) → t.isProper = true →
    ∀ c ∈ t.text.toList, isTypeChar c = true
  | .named segments, h => by
    rw [TypeExpr.isProper, Bool.and_eq_true] at h
    rw [TypeExpr.text]
    exact forall_mem_intercalate "." (List.all_eq_true.1 (by decide))
      (TypeExpr.isTypeChar_segmentTexts segments h.2)
  | .tuple elements, h => by
    have htexts := forall_mem_intercalate ", " (List.all_eq_true.1 (by decide))
      (TypeExpr.isTypeChar_texts elements h)
    simp only [TypeExpr.text, String.toList_append, List.forall_mem_append]
    exact ⟨⟨List.all_eq_true.1 (by decide), htexts⟩, List.all_eq_true.1 (by decide)⟩
  | .optional wrapped, h => by
    simp only [TypeExpr.text, String.toList_append, List.forall_mem_append]
    exact ⟨TypeExpr.isTypeChar_text wrapped h, List.all_eq_true.1 (by decide)⟩
  | .array element, h => by
    simp only [TypeExpr.text, String.toList_append, List.forall_mem_append]
    exact ⟨⟨List.all_eq_true.1 (by decide), TypeExpr.isTypeChar_text element h⟩,
      List.all_eq_true.1 (by decide)⟩
  | .dictionary key value, h => by
    rw [TypeExpr.isProper, Bool.and_eq_true] at h
    simp only [TypeExpr.text, String.toList_append, List.forall_mem_append]
    exact ⟨⟨⟨⟨List.all_eq_true.1 (by decide), TypeExpr.isTypeChar_text key h.1⟩,
      List.all_eq_true.1 (by decide)⟩, TypeExpr.isTypeChar_text value h.2⟩,
      List.all_eq_true.1 (by decide)⟩
  | .verbatim text, h => by cases h

theorem Segment.isTypeChar_text : (s : Segment) → s.isProper = true →
    ∀ c ∈ s.text.toList, isTypeChar c = true
  | ⟨name, arguments⟩, h => by
    rw [Segment.isProper, Bool.and_eq_true] at h
    have hname := isTypeChar_of_isIdentifier h.1
    have htexts := forall_mem_intercalate ", " (List.all_eq_true.1 (by decide))
      (TypeExpr.isTypeChar_texts arguments h.2)
    rw [Segment.text]
    split
    · exact hname
    · simp only [String.toList_append, List.forall_mem_append]
      exact ⟨⟨⟨hname, List.all_eq_true.1 (by decide)⟩, htexts⟩, List.all_eq_true.1 (by decide)⟩

theorem TypeExpr.isTypeChar_texts : (ts : List TypeExpr) → TypeExpr.allProper ts = true →
    ∀ text ∈ TypeExpr.texts ts, ∀ c ∈ text.toList, isTypeChar c = true
  | [], _ => by simp [TypeExpr.texts]
  | t :: ts, h => by
    rw [TypeExpr.allProper, Bool.and_eq_true] at h
    rw [TypeExpr.texts, List.forall_mem_cons]
    exact ⟨TypeExpr.isTypeChar_text t h.1, TypeExpr.isTypeChar_texts ts h.2⟩

theorem TypeExpr.isTypeChar_segmentTexts : (ss : List Segment) →
    TypeExpr.allProperSegments ss = true →
    ∀ text ∈ TypeExpr.segmentTexts ss, ∀ c ∈ text.toList, isTypeChar c = true
  | [], _ => by simp [TypeExpr.segmentTexts]
  | s :: ss, h => by
    rw [TypeExpr.allProperSegments, Bool.and_eq_true] at h
    rw [TypeExpr.segmentTexts, List.forall_mem_cons]
    exact ⟨Segment.isTypeChar_text s h.1, TypeExpr.isTypeChar_segmentTexts ss h.2⟩

end

theorem TypeExpr.text_inj {t u : TypeExpr} (ht : t.isProper = true) (hu : u.isProper = true)
    (h : t.text = u.text) : t = u := by
  have hspelling := (u.printed hu).spelling
  rw [← h] at hspelling
  exact (t.printed ht).spelling.unique hspelling

/-! ## The interface -/

/-- Whether the name of an alias is an identifier and its type proper. -/
def Alias.isProper (entry : Alias) : Bool :=
  isIdentifier entry.name && entry.target.isProper

/-- Whether all names in a method are identifiers and all its types
proper. -/
def Signature.isProper (signature : Signature) : Bool :=
  isIdentifier signature.name && signature.parameters.all Parameter.isProper
    && signature.state.isProper && signature.returns.isProper

/-- Whether all names in an interface are identifiers, no label is `_`, and
all types are proper. -/
def Interface.isProper (interface : Interface) : Bool :=
  isIdentifier interface.name && interface.aliases.all Alias.isProper
    && interface.methods.all Signature.isProper

/-- The texts in a proper method are made of words, signs and spaces. -/
theorem Signature.isTypeChar_texts {signature : Signature} (h : signature.isProper = true) :
    ∀ text ∈ signature.texts, ∀ c ∈ text.toList, isTypeChar c = true := by
  simp only [isProper, StateParameter.isProper, Bool.and_eq_true, List.all_eq_true] at h
  obtain ⟨⟨⟨hname, hparameters⟩, hstate, htype⟩, hreturns⟩ := h
  have hparameter : ∀ parameter ∈ signature.parameters, ∀ text ∈ parameter.texts,
      ∀ c ∈ text.toList, isTypeChar c = true := by
    intro parameter hmem
    have hproper := hparameters parameter hmem
    obtain ⟨label, name, type⟩ := parameter
    simp only [Parameter.isProper, Bool.and_eq_true] at hproper
    obtain ⟨⟨hlabel, hname⟩, htype⟩ := hproper
    simp only [Parameter.texts, List.forall_mem_append, List.forall_mem_cons]
    refine ⟨?_, isTypeChar_of_isIdentifier hname, type.isTypeChar_text htype, List.forall_mem_nil _⟩
    cases label with
    | unlabeled => exact List.forall_mem_nil _
    | named => exact List.forall_mem_nil _
    | relabeled label =>
      simp only [ArgumentLabel.isProper, Bool.and_eq_true] at hlabel
      exact List.forall_mem_singleton.2 (isTypeChar_of_isIdentifier hlabel.1)
  simp only [texts, List.cons_append, List.forall_mem_cons, List.forall_mem_append,
    List.forall_mem_flatMap]
  exact ⟨isTypeChar_of_isIdentifier hname, hparameter, isTypeChar_of_isIdentifier hstate,
    signature.state.type.isTypeChar_text htype, signature.returns.isTypeChar_text hreturns,
    List.forall_mem_nil _⟩

theorem Interface.isTypeChar_texts {interface : Interface} (h : interface.isProper = true) :
    ∀ text ∈ interface.texts, ∀ c ∈ text.toList, isTypeChar c = true := by
  simp only [isProper, Alias.isProper, Bool.and_eq_true, List.all_eq_true] at h
  obtain ⟨⟨hname, haliases⟩, hmethods⟩ := h
  simp only [texts, List.cons_append, List.forall_mem_cons, List.forall_mem_append,
    List.forall_mem_flatMap]
  refine ⟨isTypeChar_of_isIdentifier hname, fun entry hentry => ?_, fun method hmethod => ?_⟩
  · exact ⟨isTypeChar_of_isIdentifier (haliases entry hentry).1,
      entry.target.isTypeChar_text (haliases entry hentry).2, List.forall_mem_nil _⟩
  · exact Signature.isTypeChar_texts (hmethods method hmethod)

theorem Alias.line_inj {entry entry' : Alias} (h : entry.isProper = true)
    (h' : entry'.isProper = true) (heq : entry.line = entry'.line) : entry = entry' := by
  obtain ⟨name, target⟩ := entry
  obtain ⟨name', target'⟩ := entry'
  simp only [isProper, Bool.and_eq_true] at h h'
  simp only [line, String.append_assoc, String.append_right_inj] at heq
  obtain ⟨rfl, htext⟩ := identifier_append_inj h.1 h'.1 (by decide) heq
  rw [TypeExpr.text_inj h.2 h'.2 htext]

/-- **The line of a method determines it.** -/
theorem Signature.text_inj {signature signature' : Signature} (h : signature.isProper = true)
    (h' : signature'.isProper = true) (heq : signature.text = signature'.text) :
    signature = signature' := by
  -- no parameter has an arrow in it, so the one behind the parameters is the first
  have harrow : ∀ signature : Signature, signature.isProper = true →
      '-' ∉ (commaSeparated (signature.parameters.map Parameter.text
        ++ [signature.state.text])).toList := fun signature hproper =>
    notMem_of_isTypeChar (forall_mem_parameters (List.all_eq_true.1 (by decide))
      (isTypeChar_texts hproper)) (by decide)
  have hlist := harrow signature h
  have hlist' := harrow signature' h'
  obtain ⟨name, parameters, state, returns⟩ := signature
  obtain ⟨name', parameters', state', returns'⟩ := signature'
  simp only [isProper, Bool.and_eq_true, List.all_eq_true] at h h'
  obtain ⟨⟨⟨hname, hparameters⟩, hstate⟩, hreturns⟩ := h
  obtain ⟨⟨⟨hname', hparameters'⟩, hstate'⟩, hreturns'⟩ := h'
  simp only [text, String.append_assoc, String.append_right_inj] at heq
  obtain ⟨rfl, hinside⟩ := identifier_append_inj hname hname' (by decide) heq
  obtain ⟨hlists, htext⟩ := append_sep_inj (by decide) hlist hlist' hinside
  obtain ⟨rfl, rfl⟩ := Parameter.parametersText_inj hparameters hstate hparameters' hstate' hlists
  rw [TypeExpr.text_inj hreturns hreturns' htext]

theorem Interface.header_inj {interface interface' : Interface}
    (heq : interface.header = interface'.header) :
    interface.visibility = interface'.visibility ∧ interface.name = interface'.name := by
  obtain ⟨visibility, name, aliases, methods⟩ := interface
  obtain ⟨visibility', name', aliases', methods'⟩ := interface'
  simp only [header, ← String.toList_inj] at heq
  -- two modifiers differ from each other, and from the word behind them, by the third letter
  cases visibility <;> cases visibility' <;>
    simp [Visibility.modifier, Visibility.keyword] at heq <;>
    exact ⟨rfl, String.toList_inj.1 heq⟩

/-- Whether a line starts with the given character. -/
def startsWith (first : Char) (line : String) : Bool :=
  line.toList.head? == some first

/-- Aliases and methods can be told apart by how their lines start. -/
theorem Interface.filter_bodyLines (interface : Interface) :
    interface.bodyLines.filter (startsWith 't') = interface.aliases.map Alias.line ∧
      interface.bodyLines.filter (startsWith 'f') = interface.methods.map Signature.text := by
  have halias : ∀ (c : Char) (entry : Alias), startsWith c entry.line = ('t' == c) := by
    intro c entry
    simp [startsWith, Alias.line]
  have hmethod : ∀ (c : Char) (method : Signature), startsWith c method.text = ('f' == c) := by
    intro c method
    simp [startsWith, Signature.text]
  have hgap : ∀ c, (if interface.methods.isEmpty then [] else [""]).filter (startsWith c) = [] := by
    intro c
    split <;> rfl
  simp only [bodyLines, List.filter_append, List.filter_map, Function.comp_def, halias, hmethod,
    hgap]
  simp

/-- **The lines of an interface determine it.** -/
theorem Interface.lines_inj {interface interface' : Interface} (h : interface.isProper = true)
    (h' : interface'.isProper = true) (heq : interface.lines = interface'.lines) :
    interface = interface' := by
  obtain ⟨hheader, hbody⟩ := blockLines_inj heq
  obtain ⟨hvisibility, hname⟩ := header_inj hheader
  obtain ⟨hfilter, hfilter'⟩ := interface.filter_bodyLines
  rw [hbody] at hfilter hfilter'
  simp only [isProper, Bool.and_eq_true, List.all_eq_true] at h h'
  have haliases : interface.aliases = interface'.aliases :=
    map_inj (fun entry hentry entry' hentry' => Alias.line_inj (h.1.2 entry hentry)
      (h'.1.2 entry' hentry')) (hfilter.symm.trans interface'.filter_bodyLines.1)
  have hmethods : interface.methods = interface'.methods :=
    map_inj (fun method hmethod method' hmethod' => Signature.text_inj (h.2 method hmethod)
      (h'.2 method' hmethod')) (hfilter'.symm.trans interface'.filter_bodyLines.2)
  cases interface
  cases interface'
  simp_all

/-! ## Texts -/

theorem Dispatch.unbroken_names {dispatch : Dispatch} (h : dispatch.isProper = true) :
    ∀ name ∈ dispatch.names, Unbroken name := fun name hname =>
  unbroken_of_isTypeChar (isTypeChar_of_isIdentifier (List.all_eq_true.1 h name hname))

theorem Interface.unbroken_texts {interface : Interface} (h : interface.isProper = true) :
    ∀ text ∈ interface.texts, Unbroken text := fun text htext =>
  unbroken_of_isTypeChar (isTypeChar_texts h text htext)

/-- **The text determines the declaration.** Equal texts come from equal
interfaces, and under the default conventions from equal wrappers, where all
names are identifiers, no label is `_` and all types are proper. -/
theorem sourceRenderer_injective :
    (∀ (names names' : Conventions) (interface interface' : Interface),
      interface.isProper = true → interface'.isProper = true →
      sourceRenderer.interface names interface = sourceRenderer.interface names' interface' →
      interface = interface') ∧
    ∀ dispatch dispatch' : Dispatch, dispatch.isProper = true → dispatch'.isProper = true →
      sourceRenderer.dispatch {} dispatch = sourceRenderer.dispatch {} dispatch' →
      dispatch = dispatch' := by
  constructor
  · intro names names' interface interface' h h' heq
    have htexts := interface.unbroken_texts h
    have htexts' := interface'.unbroken_texts h'
    have hlines : unlines interface.lines = unlines interface'.lines := by
      rw [← Interface.text_write htexts, ← Interface.text_write htexts']
      exact Except.ok.inj heq
    exact Interface.lines_inj h h' (unlines_inj (Interface.unbroken_lines htexts)
      (Interface.unbroken_lines htexts') hlines)
  · intro dispatch dispatch' h h' heq
    have hshown : ∀ name ∈ ({} : Conventions).shown, Unbroken name := by decide
    have hnames := dispatch.unbroken_names h
    have hnames' := dispatch'.unbroken_names h'
    have hlines : unlines (dispatch.lines {}) = unlines (dispatch'.lines {}) := by
      rw [← Dispatch.text_write hshown hnames, ← Dispatch.text_write hshown hnames']
      exact Except.ok.inj heq
    exact Dispatch.lines_inj (List.all_eq_true.1 h) (List.all_eq_true.1 h')
      (unlines_inj (Dispatch.unbroken_lines hshown hnames)
        (Dispatch.unbroken_lines hshown hnames') hlines)

/-- An interface with one method, whose parameter has the given label. -/
def stepInterface (label : ArgumentLabel) : Interface where
  visibility := .fileScope
  name := "StepActionDelegate"
  aliases := [⟨"State", .plain ["Step", "State"]⟩]
  methods :=
    [{ name := "step"
       parameters := [⟨label, "by", .dictionary (.plain ["Int"]) (.optional (.plain ["inout"]))⟩]
       state := ⟨"state", .plain ["State"]⟩
       returns := .named [⟨"Effect", [.plain ["Action"]]⟩] }]

/-- A wrapper with one arm, whose argument has the given label. -/
def stepDispatch (label : Option String) : Dispatch where
  name := "Dispatch"
  capability := "Reducer"
  handlerField := "actionDelegate"
  handlerType := "StepActionDelegate"
  body := some
    [{ tag := "step"
       bindings := ["by"]
       call := some
        { receiver := "actionDelegate"
          method := "step"
          arguments := [⟨label, .binding "by"⟩, ⟨some "state", .state "state"⟩] } }]

/-- A label shows in both texts. -/
theorem step_texts_ne :
    (stepInterface .unlabeled).isProper = true ∧
    (stepInterface (.relabeled "by")).isProper = true ∧
    sourceRenderer.interface {} (stepInterface .unlabeled)
      ≠ sourceRenderer.interface {} (stepInterface (.relabeled "by")) ∧
    (stepDispatch none).isProper = true ∧ (stepDispatch (some "by")).isProper = true ∧
    sourceRenderer.dispatch {} (stepDispatch none)
      ≠ sourceRenderer.dispatch {} (stepDispatch (some "by")) := by
  have hinterface : (stepInterface .unlabeled).isProper = true := by decide
  have hinterface' : (stepInterface (.relabeled "by")).isProper = true := by decide
  have hdispatch : (stepDispatch none).isProper = true := by decide
  have hdispatch' : (stepDispatch (some "by")).isProper = true := by decide
  refine ⟨hinterface, hinterface', fun heq => ?_, hdispatch, hdispatch', fun heq => ?_⟩
  · have hsame := sourceRenderer_injective.1 {} {} _ _ hinterface hinterface' heq
    simp [stepInterface] at hsame
  · have hsame := sourceRenderer_injective.2 _ _ hdispatch hdispatch' heq
    simp [stepDispatch] at hsame

end ActionRelay
