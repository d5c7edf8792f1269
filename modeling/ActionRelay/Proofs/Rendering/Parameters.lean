import ActionRelay.Rendering
import ActionRelay.Proofs.TypeExpr.RoundTrip
/-!
# Rendering — parameters are read in one way only

The parameters of a method stand between commas, and so do the parts of the
types among them. A list of parameters is scanned into tokens like a type,
and the grammar of types says where each type ends; so no two lists of
parameters have one text (`Parameter.parametersText_inj`).

The state comes last. It looks like a parameter whose type is called
`inout`, up to the token behind that word: there a type goes on or ends,
while another type starts for the state.
-/

namespace ActionRelay

/-! ## Proper parameters -/

/-- Whether a label is an identifier, and not the one that stands for no
label. -/
def ArgumentLabel.isProper : ArgumentLabel → Bool
  | .unlabeled => true
  | .named => true
  | .relabeled label => Text.isIdentifier label && label != "_"

/-- Whether the names of a parameter are identifiers and its type is
proper. -/
def Parameter.isProper (parameter : Parameter) : Bool :=
  parameter.label.isProper && Text.isIdentifier parameter.name && parameter.type.isProper

/-- Whether the name of the state is an identifier and its type proper. -/
def StateParameter.isProper (state : StateParameter) : Bool :=
  Text.isIdentifier state.name && state.type.isProper

/-- The text of the parameters of a method, the state included. -/
def Parameter.parametersText (parameters : List Parameter) (state : StateParameter) : String :=
  commaSeparated (parameters.map Parameter.text ++ [state.text])

/-! ## Tokens of parameters -/

open TypeExpr (Token Derives StopsAt)
open TypeExpr.Token (Prints Spells EndsWord)

/-- The tokens in front of the name of a parameter. -/
def ArgumentLabel.tokens : ArgumentLabel → List Token
  | .unlabeled => [.word "_"]
  | .named => []
  | .relabeled label => [.word label]

/-- **The tokens of a parameter.** -/
def Parameter.Derived (parameter : Parameter) (tokens : List Token) : Prop :=
  ∃ type, Derives (.type parameter.type) type ∧
    tokens = parameter.label.tokens ++ .word parameter.name :: .sign ':' :: type

/-- **The tokens of the state.** -/
def StateParameter.Derived (state : StateParameter) (tokens : List Token) : Prop :=
  ∃ type, Derives (.type state.type) type ∧
    tokens = .word state.name :: .sign ':' :: .word "inout" :: type

/-- **The tokens of a list of parameters** with the state at its end. -/
inductive Parameter.AllDerived (state : StateParameter) : List Parameter → List Token → Prop
  | last {tokens : List Token} : state.Derived tokens → AllDerived state [] tokens
  | more {parameter : Parameter} {later : List Parameter} {tokens tokens' : List Token} :
      parameter.Derived tokens → AllDerived state later tokens' →
      AllDerived state (parameter :: later) (tokens ++ .sign ',' :: tokens')

variable {parameter parameter' : Parameter} {state state' : StateParameter}
variable {tokens tokens' rest rest' : List Token}

/-! ## No list of tokens has two readings -/

/-- What the grammar derives starts with a word or an opening bracket. -/
theorem TypeExpr.Derives.exists_first {phrase : TypeExpr.Phrase} (h : Derives phrase tokens) :
    ∃ first later, tokens = first :: later ∧
      first ∉ [Token.sign '?', .sign '.', .sign '<', .sign ','] := by
  induction h with
  | marked n _ ih => obtain ⟨first, later, rfl, hfirst⟩ := ih; exact ⟨first, _, rfl, hfirst⟩
  | unit => exact ⟨_, _, rfl, by decide⟩
  | tuple _ _ => exact ⟨_, _, rfl, by decide⟩
  | array _ _ => exact ⟨_, _, rfl, by decide⟩
  | dictionary _ _ _ _ => exact ⟨_, _, rfl, by decide⟩
  | named _ ih => exact ih
  | lastType _ ih => exact ih
  | moreTypes _ _ ih _ => obtain ⟨first, later, rfl, hfirst⟩ := ih; exact ⟨first, _, rfl, hfirst⟩
  | lastSegment _ ih => exact ih
  | moreSegments _ _ ih _ =>
    obtain ⟨first, later, rfl, hfirst⟩ := ih
    exact ⟨first, _, rfl, hfirst⟩
  | plain name => exact ⟨_, _, rfl, by simp⟩
  | generic name _ _ => exact ⟨_, _, rfl, by simp⟩

/-- A parameter can be told from what follows the comma behind it. -/
theorem Parameter.Derived.append_inj (h : parameter.Derived tokens)
    (h' : parameter'.Derived tokens') (hlabel : parameter.label ≠ .relabeled "_")
    (hlabel' : parameter'.label ≠ .relabeled "_")
    (heq : tokens ++ .sign ',' :: rest = tokens' ++ .sign ',' :: rest') :
    parameter = parameter' ∧ rest = rest' := by
  obtain ⟨label, name, type⟩ := parameter
  obtain ⟨label', name', type'⟩ := parameter'
  obtain ⟨typeTokens, htype, rfl⟩ := h
  obtain ⟨typeTokens', htype', rfl⟩ := h'
  -- the words in front of the colon are as many as the label asks for
  have hwords : label = label' ∧ name = name' ∧
      typeTokens ++ .sign ',' :: rest = typeTokens' ++ .sign ',' :: rest' := by
    cases label <;> cases label' <;>
      simp_all [ArgumentLabel.tokens, ArgumentLabel.relabeled.injEq]
  obtain ⟨rfl, rfl, htypes⟩ := hwords
  obtain ⟨rfl, hrest⟩ := htype.append_inj htype' (TypeExpr.stopsAt_sign (by decide))
    (TypeExpr.stopsAt_sign (by decide)) htypes
  simpa using hrest

/-- No parameter with a comma behind it is the state. -/
theorem Parameter.Derived.append_ne (h : parameter.Derived tokens) (h' : state.Derived tokens') :
    tokens ++ .sign ',' :: rest ≠ tokens' := by
  intro heq
  obtain ⟨label, name, type⟩ := parameter
  obtain ⟨typeTokens, htype, rfl⟩ := h
  obtain ⟨stateTokens, hstate, rfl⟩ := h'
  obtain ⟨first, later, rfl, hfirst⟩ := hstate.exists_first
  cases label with
  | unlabeled => simp [ArgumentLabel.tokens] at heq
  | relabeled label => simp [ArgumentLabel.tokens] at heq
  | named =>
    -- the type of the parameter would be `inout`, and end where the type of the state starts
    simp only [ArgumentLabel.tokens, List.nil_append, List.cons_append, List.cons.injEq,
      Token.word.injEq, true_and] at heq
    have hinout : Derives (.type (TypeExpr.wrapOptional 0 (.named [⟨"inout", []⟩])))
        ([.word "inout"] ++ List.replicate 0 (.sign '?')) :=
      .marked 0 (.named (.lastSegment (.plain "inout")))
    have hstops : StopsAt ['?', '.', '<'] (first :: later) := by
      intro mark hmark hhead
      rw [List.head?_cons, Option.some.injEq] at hhead
      rw [hhead] at hfirst
      simp at hfirst hmark
      tauto
    obtain ⟨-, hrest⟩ := htype.append_inj hinout (TypeExpr.stopsAt_sign (by decide)) hstops heq.2
    rw [(List.cons.inj hrest).1] at hfirst
    simp at hfirst

/-- **No list of tokens is that of two lists of parameters.** -/
theorem Parameter.AllDerived.unique {parameters parameters' : List Parameter}
    (h : AllDerived state parameters tokens) (h' : AllDerived state' parameters' tokens)
    (hlabels : ∀ parameter ∈ parameters, parameter.label ≠ .relabeled "_")
    (hlabels' : ∀ parameter ∈ parameters', parameter.label ≠ .relabeled "_") :
    parameters = parameters' ∧ state = state' := by
  induction h generalizing parameters' with
  | last hstate =>
    cases h' with
    | last hstate' =>
      obtain ⟨typeTokens, htype, rfl⟩ := hstate
      obtain ⟨typeTokens', htype', heq⟩ := hstate'
      simp only [List.cons.injEq, Token.word.injEq, true_and] at heq
      obtain ⟨hname, rfl⟩ := heq
      have htypes := htype.unique htype'
      cases state
      cases state'
      simp_all
    | more hfirst _ => exact absurd rfl (hfirst.append_ne hstate)
  | @more parameter later tokens tokens' hfirst _ ih =>
    rw [List.forall_mem_cons] at hlabels
    generalize heq : tokens ++ .sign ',' :: tokens' = all at h'
    cases h' with
    | last hstate' => exact absurd heq (hfirst.append_ne hstate')
    | more hfirst' hlater' =>
      rw [List.forall_mem_cons] at hlabels'
      obtain ⟨rfl, rfl⟩ := hfirst.append_inj hfirst' hlabels.1 hlabels'.1 heq
      obtain ⟨rfl, rfl⟩ := ih hlater' hlabels.2 hlabels'.2
      exact ⟨rfl, rfl⟩

/-! ## Texts of parameters -/

theorem TypeExpr.Token.Prints.word_append {name text : String}
    (hname : Text.isIdentifier name = true) (h : Prints text tokens) :
    Prints (name ++ " " ++ text) (.word name :: tokens) := by
  intro cs more hends hcs
  have hblank : EndsWord (' ' :: (text.toList ++ cs)) := by
    intro c hc
    rw [List.head?_cons, Option.mem_some_iff] at hc
    exact hc ▸ Text.continuesIdentifier_of_isBlank (by decide)
  have hword := Token.prints_word hname _ _ hblank (Spells.blank (by decide) (h cs more hends hcs))
  simpa [String.toList_append] using hword

/-- The text of a parameter spells its tokens. -/
theorem Parameter.exists_prints (h : parameter.isProper = true) :
    ∃ tokens, parameter.Derived tokens ∧ Prints parameter.text tokens := by
  obtain ⟨label, name, type⟩ := parameter
  simp only [isProper, Bool.and_eq_true] at h
  obtain ⟨⟨hlabel, hname⟩, htype⟩ := h
  obtain ⟨tokens, hderives, hprints⟩ := type.printed htype
  have hdeclared : Prints (name ++ ": " ++ type.text) (.word name :: .sign ':' :: tokens) :=
    (TypeExpr.Token.prints_word hname).append_sign_append (by decide) hprints
  refine ⟨_, ⟨tokens, hderives, rfl⟩, ?_⟩
  cases label with
  | unlabeled =>
    have htext : text ⟨.unlabeled, name, type⟩ = "_" ++ " " ++ (name ++ ": " ++ type.text) := by
      have hmark : "_ " = "_" ++ " " := by decide
      simp only [text, hmark]
    rw [htext]
    exact hdeclared.word_append (by decide)
  | named => exact hdeclared
  | relabeled label =>
    simp only [ArgumentLabel.isProper, Bool.and_eq_true] at hlabel
    exact hdeclared.word_append hlabel.1

theorem StateParameter.exists_prints (h : state.isProper = true) :
    ∃ tokens, state.Derived tokens ∧ Prints state.text tokens := by
  simp only [isProper, Bool.and_eq_true] at h
  obtain ⟨tokens, hderives, hprints⟩ := state.type.printed h.2
  have hinout : Prints ("inout" ++ " " ++ state.type.text) (.word "inout" :: tokens) :=
    hprints.word_append (by decide)
  refine ⟨_, ⟨tokens, hderives, rfl⟩, ?_⟩
  have htext : state.text = state.name ++ ": " ++ ("inout" ++ " " ++ state.type.text) := by
    have hmiddle : ": inout " = ": " ++ "inout" ++ " " := by decide
    rw [text, hmiddle]
    simp only [String.append_assoc]
  rw [htext]
  exact (TypeExpr.Token.prints_word h.1).append_sign_append (by decide) hinout

/-- **The text of a list of parameters** spells its tokens. -/
theorem Parameter.exists_prints_parametersText {parameters : List Parameter}
    (h : ∀ parameter ∈ parameters, parameter.isProper = true) (hstate : state.isProper = true) :
    ∃ tokens, AllDerived state parameters tokens ∧
      Prints (parametersText parameters state) tokens := by
  induction parameters with
  | nil =>
    obtain ⟨tokens, hderived, hprints⟩ := state.exists_prints hstate
    refine ⟨tokens, .last hderived, ?_⟩
    rwa [parametersText, List.map_nil, List.nil_append, commaSeparated,
      String.intercalate_singleton]
  | cons parameter later ih =>
    rw [List.forall_mem_cons] at h
    obtain ⟨tokens, hderived, hprints⟩ := exists_prints h.1
    obtain ⟨tokens', hderived', hprints'⟩ := ih h.2
    refine ⟨_, .more hderived hderived', ?_⟩
    have htext : parametersText (parameter :: later) state
        = parameter.text ++ ", " ++ parametersText later state := by
      cases later with
      | nil => exact String.intercalate_cons_cons
      | cons next later => exact String.intercalate_cons_cons
    rw [htext]
    exact hprints.append_sign_append (by decide) hprints'

/-- **Parameters are read in one way only.** -/
theorem Parameter.parametersText_inj {parameters parameters' : List Parameter}
    (h : ∀ parameter ∈ parameters, parameter.isProper = true) (hstate : state.isProper = true)
    (h' : ∀ parameter ∈ parameters', parameter.isProper = true) (hstate' : state'.isProper = true)
    (heq : parametersText parameters state = parametersText parameters' state') :
    parameters = parameters' ∧ state = state' := by
  obtain ⟨tokens, hderived, hprints⟩ := exists_prints_parametersText h hstate
  obtain ⟨tokens', hderived', hprints'⟩ := exists_prints_parametersText h' hstate'
  have hlabels : ∀ parameter : Parameter, parameter.isProper = true →
      parameter.label ≠ .relabeled "_" := by
    intro parameter hproper hlabel
    simp [isProper, hlabel, ArgumentLabel.isProper] at hproper
  obtain rfl : tokens = tokens' := by
    have hspells := hprints.spells
    have hspells' := hprints'.spells
    rw [← heq] at hspells'
    exact Option.some.inj (hspells.scan_eq.symm.trans hspells'.scan_eq)
  exact hderived.unique hderived' (fun p hp => hlabels p (h p hp))
    fun p hp => hlabels p (h' p hp)

end ActionRelay
