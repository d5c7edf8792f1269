import ActionRelay.TypeExpr.Printer
import ActionRelay.Proofs.TypeExpr.Acceptance
import Mathlib.Data.List.DropRight
/-!
# Type expressions — reading undoes printing

Types are stored as texts, so a text that is printed has to be read as the
type it was printed from. This holds for the well-formed types
(`TypeExpr.WellFormed`), and these are all that is ever read. The text of a
type is a spelling of it in front of anything that does not go on with a
word (`TypeExpr.printed`); the rest is the grammar's.
-/

namespace ActionRelay

/-! ## Trimmed texts -/

namespace Text

theorem trimChars_eq (cs : List Char) :
    trimChars cs = (cs.dropWhile isBlank).rdropWhile isBlank :=
  rfl

/-- What is left at the front of a text that starts with no blank starts
with none. -/
theorem dropWhile_isBlank_of_prefix {cs ds : List Char} (h : cs <+: ds)
    (hds : ds.dropWhile isBlank = ds) : cs.dropWhile isBlank = cs := by
  rw [List.dropWhile_eq_self_iff] at hds ⊢
  intro hcs
  obtain ⟨rest, rfl⟩ := h
  have hhead := hds (by rw [List.length_append]; omega)
  rwa [List.getElem_append_left hcs] at hhead

/-- **Trimming a text twice is trimming it once.** -/
theorem trim_trim (text : String) : trim (trim text) = trim text := by
  have hfront : (trimChars text.toList).dropWhile isBlank = trimChars text.toList :=
    dropWhile_isBlank_of_prefix (List.rdropWhile_prefix _ _) (List.dropWhile_idempotent _ _)
  rw [trim, trim, String.toList_ofList, trimChars_eq (trimChars _), hfront, trimChars_eq,
    List.rdropWhile_idempotent]

end Text

/-! ## Well-formed types -/

mutual

/-- Whether no text kept as it stands occurs in a type and every path in it
has at least one step and identifiers for names. -/
def TypeExpr.isProper : TypeExpr → Bool
  | .named segments => !segments.isEmpty && TypeExpr.allProperSegments segments
  | .tuple elements => TypeExpr.allProper elements
  | .optional wrapped => wrapped.isProper
  | .array element => element.isProper
  | .dictionary key value => key.isProper && value.isProper
  | .verbatim _ => false

/-- Whether the name of a segment is an identifier and its arguments are
proper. -/
def Segment.isProper : Segment → Bool
  | ⟨name, arguments⟩ => Text.isIdentifier name && TypeExpr.allProper arguments

/-- Whether several types are proper. -/
def TypeExpr.allProper : List TypeExpr → Bool
  | [] => true
  | t :: ts => t.isProper && TypeExpr.allProper ts

/-- Whether the segments of a path are proper. -/
def TypeExpr.allProperSegments : List Segment → Bool
  | [] => true
  | s :: ss => s.isProper && TypeExpr.allProperSegments ss

end

namespace TypeExpr

/-- **A type that a text can give.** -/
inductive WellFormed : TypeExpr → Prop
  /-- A trimmed text that is not understood. -/
  | kept {text : String} : Text.trim text = text → (ofText text).isStructural = false →
      WellFormed (.verbatim text)
  /-- A proper type that fits the levels of nesting. -/
  | understood {t : TypeExpr} : t.isProper = true → t.budget ≤ maxDepth → WellFormed t

/-! ## What is read is well-formed -/

/-- Whether what a phrase is made of is proper. -/
def Phrase.isProper : Phrase → Bool
  | .type t => t.isProper
  | .base t => t.isProper
  | .types ts => allProper ts
  | .path segments => !segments.isEmpty && allProperSegments segments
  | .segment s => s.isProper

variable {t : TypeExpr} {tokens : List Token}

theorem isProper_wrapOptional (n : ℕ) : (wrapOptional n t).isProper = t.isProper := by
  induction n with
  | zero => rfl
  | succ n ih => rw [wrapOptional, isProper, ih]

/-- The words of a text are identifiers. -/
theorem Token.Spells.isIdentifier {cs : List Char} (h : Spells cs tokens) :
    ∀ name, .word name ∈ tokens → Text.isIdentifier name = true := by
  induction h with
  | nil => simp
  | blank _ _ ih => exact ih
  | word hstarts hw _ _ ih =>
    intro name hname
    rcases List.mem_cons.1 hname with heq | hlater
    · cases heq
      simpa [Text.isIdentifier, hstarts] using hw
    · exact ih name hlater
  | sign _ _ ih =>
    intro name hname
    rcases List.mem_cons.1 hname with heq | hlater
    · cases heq
    · exact ih name hlater

/-- What is derived from identifiers and signs is proper. -/
theorem Derives.isProper {phrase : Phrase} (h : Derives phrase tokens)
    (hwords : ∀ name, .word name ∈ tokens → Text.isIdentifier name = true) :
    phrase.isProper = true := by
  induction h with
  | marked n _ ih =>
    rw [Phrase.isProper, isProper_wrapOptional]
    exact ih fun name hname => hwords name (by simp [hname])
  | unit => rfl
  | tuple _ ih => exact ih fun name hname => hwords name (by simp [hname])
  | array _ ih => exact ih fun name hname => hwords name (by simp [hname])
  | dictionary _ _ ihkey ihvalue =>
    have hkey := ihkey fun name hname => hwords name (by simp [hname])
    have hvalue := ihvalue fun name hname => hwords name (by simp [hname])
    exact Bool.and_eq_true_iff.2 ⟨hkey, hvalue⟩
  | named _ ih => exact ih hwords
  | lastType _ ih => simpa [Phrase.isProper, allProper] using ih hwords
  | moreTypes _ _ ihfirst ihlater =>
    have hfirst := ihfirst fun name hname => hwords name (by simp [hname])
    have hlater := ihlater fun name hname => hwords name (by simp [hname])
    exact Bool.and_eq_true_iff.2 ⟨hfirst, hlater⟩
  | lastSegment _ ih => simpa [Phrase.isProper, allProperSegments] using ih hwords
  | moreSegments _ _ ihfirst ihlater =>
    have hfirst := ihfirst fun name hname => hwords name (by simp [hname])
    have hlater := ihlater fun name hname => hwords name (by simp [hname])
    exact Bool.and_eq_true_iff.2 ⟨hfirst, (Bool.and_eq_true_iff.1 hlater).2⟩
  | plain name =>
    have hname := hwords name (by simp)
    simp [Phrase.isProper, Segment.isProper, allProper, hname]
  | generic name _ ih =>
    have harguments := ih fun name hname => hwords name (by simp [hname])
    exact Bool.and_eq_true_iff.2 ⟨hwords name (by simp), harguments⟩

theorem wellFormed_of_read? {text : String} (h : read? text = some t) : t.WellFormed := by
  obtain ⟨⟨tokens, hspells, hderives⟩, hbudget⟩ := read?_eq_some_iff.1 h
  exact .understood (hderives.isProper hspells.isIdentifier) hbudget

/-- Trimming a text does not change whether it is understood. -/
theorem read?_trim (text : String) : read? (Text.trim text) = read? text := by
  rw [read?, Text.trim, String.toList_ofList, Token.scan_trimChars, read?]

/-- **What is read is well-formed.** -/
theorem wellFormed_ofText (text : String) : (ofText text).WellFormed := by
  obtain ⟨t, hread, hof, -⟩ | ⟨hread, hof⟩ := ofText_cases text
  · rw [hof]
    exact wellFormed_of_read? hread
  · rw [hof]
    refine .kept (Text.trim_trim text) ?_
    -- the trimmed text has the tokens of the text, so it is no type either
    rw [ofText, read?_trim, hread]
    rfl

/-! ## Texts that add tokens -/

namespace Token

/-- In front of anything that does not go on with a word, the text adds the
tokens. -/
def Prints (text : String) (tokens : List Token) : Prop :=
  ∀ cs more, EndsWord cs → Spells cs more → Spells (text.toList ++ cs) (tokens ++ more)

/-- Whether the text is a sign with blanks behind it. -/
def isSign (mark : Char) (text : String) : Bool :=
  match text.toList with
  | [] => false
  | c :: blanks => c == mark && signs.contains c && blanks.all Text.isBlank

variable {a b text : String} {tokens' : List Token} {mark : Char}

theorem spells_blanks {blanks cs : List Char} (hblanks : ∀ b ∈ blanks, Text.isBlank b = true)
    (h : Spells cs tokens) : Spells (blanks ++ cs) tokens := by
  induction blanks with
  | nil => exact h
  | cons b blanks ih =>
    have hlater := ih fun b' hb' => hblanks b' (List.mem_cons_of_mem b hb')
    exact .blank (hblanks b List.mem_cons_self) hlater

/-- A sign ends the word before it and adds itself. -/
theorem spells_sign {cs : List Char} (hsign : isSign mark text = true) (h : Spells cs tokens) :
    EndsWord (text.toList ++ cs) ∧ Spells (text.toList ++ cs) (.sign mark :: tokens) := by
  rcases htext : text.toList with - | ⟨c, blanks⟩
  · simp [isSign, htext] at hsign
  simp only [isSign, htext, Bool.and_eq_true, beq_iff_eq, List.contains_iff_mem,
    List.all_eq_true] at hsign
  obtain ⟨⟨rfl, hmark⟩, hblanks⟩ := hsign
  constructor
  · intro d hd
    rw [List.cons_append, List.head?_cons, Option.mem_some_iff] at hd
    exact hd ▸ (classes_of_mem_signs hmark).2.2
  · exact .sign hmark (spells_blanks hblanks h)

theorem prints_empty : Prints "" [] :=
  fun _ _ _ h => h

theorem prints_word {name : String} (hname : Text.isIdentifier name = true) :
    Prints name [.word name] := by
  intro cs more hends hcs
  rcases hchars : name.toList with - | ⟨c, w⟩
  · simp [Text.isIdentifier, hchars] at hname
  · simp only [Text.isIdentifier, hchars, Bool.and_eq_true, List.all_eq_true] at hname
    have hspells := Spells.word hname.1 hname.2 hends hcs
    rw [← hchars, String.ofList_toList, hchars] at hspells
    exact hspells

/-- Alone, a text spells the tokens that it adds. -/
theorem Prints.spells (h : Prints text tokens) : Spells text.toList tokens := by
  have hspells := h [] [] (by simp [EndsWord]) .nil
  rwa [List.append_nil, List.append_nil] at hspells

theorem Prints.sign_append (hsign : isSign mark text = true) (ha : Prints a tokens) :
    Prints (text ++ a) (.sign mark :: tokens) := by
  intro cs more hends hcs
  rw [String.toList_append, List.append_assoc]
  exact (spells_sign hsign (ha cs more hends hcs)).2

theorem Prints.append_sign (ha : Prints a tokens) (hsign : isSign mark text = true) :
    Prints (a ++ text) (tokens ++ [.sign mark]) := by
  intro cs more hends hcs
  obtain ⟨hends', hspells⟩ := spells_sign hsign hcs
  rw [String.toList_append, List.append_assoc, List.append_assoc]
  exact ha _ _ hends' hspells

/-- A sign may stand between what two texts add. -/
theorem Prints.append_sign_append (ha : Prints a tokens) (hsign : isSign mark text = true)
    (hb : Prints b tokens') : Prints (a ++ text ++ b) (tokens ++ .sign mark :: tokens') := by
  intro cs more hends hcs
  obtain ⟨hends', hspells⟩ := spells_sign hsign (hb cs more hends hcs)
  rw [String.toList_append, String.toList_append, List.append_assoc, List.append_assoc,
    List.append_assoc]
  exact ha _ _ hends' hspells

end Token

/-! ## The text of a type -/

/-- The text adds tokens from which the grammar derives the phrase. -/
def Printed (phrase : Phrase) (text : String) : Prop :=
  ∃ tokens, Derives phrase tokens ∧ Token.Prints text tokens

theorem Printed.of_base {b : TypeExpr} {text : String} (h : Printed (.base b) text) :
    Printed (.type b) text := by
  obtain ⟨tokens, hderives, hprints⟩ := h
  refine ⟨tokens, ?_, hprints⟩
  simpa [wrapOptional] using Derives.marked 0 hderives

/-- One mark more is one mark more at the end. -/
theorem Derives.optional (h : Derives (.type t) tokens) :
    Derives (.type (.optional t)) (tokens ++ [.sign '?']) := by
  cases h with
  | @marked b tokens n hbase =>
    rw [List.append_assoc, ← List.replicate_succ']
    exact .marked (n + 1) hbase

end TypeExpr

mutual

/-- **The text of a type is a spelling of it.** The four statements follow
the recursion of the text. -/
theorem TypeExpr.printed :
    (t : TypeExpr) → t.isProper = true → TypeExpr.Printed (.type t) t.text
  | .named segments, h => by
    rw [TypeExpr.isProper, Bool.and_eq_true] at h
    obtain ⟨tokens, hderives, hprints⟩ :=
      TypeExpr.printed_path segments (by simpa using h.1) h.2
    rw [TypeExpr.text]
    exact .of_base ⟨tokens, .named hderives, hprints⟩
  | .tuple [], _ => by
    rw [TypeExpr.text, TypeExpr.texts, String.intercalate_nil]
    exact .of_base ⟨_, .unit,
      (TypeExpr.Token.prints_empty.sign_append (by decide)).append_sign (by decide)⟩
  | .tuple (t :: ts), h => by
    obtain ⟨tokens, hderives, hprints⟩ := TypeExpr.printed_types (t :: ts) (by simp) h
    rw [TypeExpr.text]
    exact .of_base ⟨_, .tuple hderives, (hprints.sign_append (by decide)).append_sign (by decide)⟩
  | .optional wrapped, h => by
    obtain ⟨tokens, hderives, hprints⟩ := TypeExpr.printed wrapped h
    rw [TypeExpr.text]
    exact ⟨_, hderives.optional, hprints.append_sign (by decide)⟩
  | .array element, h => by
    obtain ⟨tokens, hderives, hprints⟩ := TypeExpr.printed element h
    rw [TypeExpr.text]
    exact .of_base ⟨_, .array hderives, (hprints.sign_append (by decide)).append_sign (by decide)⟩
  | .dictionary key value, h => by
    rw [TypeExpr.isProper, Bool.and_eq_true] at h
    obtain ⟨tokens, hkey, hprints⟩ := TypeExpr.printed key h.1
    obtain ⟨tokens', hvalue, hprints'⟩ := TypeExpr.printed value h.2
    -- the value is closed first, as the production has it
    rw [TypeExpr.text, String.append_assoc]
    exact .of_base ⟨_, .dictionary hkey hvalue, (hprints.sign_append (by decide)).append_sign_append
      (by decide) (hprints'.append_sign (by decide))⟩
  | .verbatim text, h => by cases h

theorem Segment.printed :
    (s : Segment) → s.isProper = true → TypeExpr.Printed (.segment s) s.text
  | ⟨name, []⟩, h => by
    rw [Segment.isProper, Bool.and_eq_true] at h
    exact ⟨_, .plain name, TypeExpr.Token.prints_word h.1⟩
  | ⟨name, t :: ts⟩, h => by
    rw [Segment.isProper, Bool.and_eq_true] at h
    obtain ⟨tokens, hderives, hprints⟩ := TypeExpr.printed_types (t :: ts) (by simp) h.2
    rw [Segment.text, if_neg (by simp)]
    exact ⟨_, .generic name hderives, ((TypeExpr.Token.prints_word h.1).append_sign_append
      (by decide) hprints).append_sign (by decide)⟩

theorem TypeExpr.printed_types :
    (ts : List TypeExpr) → ts ≠ [] → TypeExpr.allProper ts = true →
      TypeExpr.Printed (.types ts) (String.intercalate ", " (TypeExpr.texts ts))
  | [], h, _ => absurd rfl h
  | [t], _, h => by
    rw [TypeExpr.allProper, Bool.and_eq_true] at h
    obtain ⟨tokens, hderives, hprints⟩ := TypeExpr.printed t h.1
    rw [TypeExpr.texts, TypeExpr.texts, String.intercalate_singleton]
    exact ⟨tokens, .lastType hderives, hprints⟩
  | t :: u :: ts, _, h => by
    rw [TypeExpr.allProper, Bool.and_eq_true] at h
    obtain ⟨tokens, hderives, hprints⟩ := TypeExpr.printed t h.1
    obtain ⟨tokens', hderives', hprints'⟩ := TypeExpr.printed_types (u :: ts) (by simp) h.2
    rw [TypeExpr.texts] at hprints'
    rw [TypeExpr.texts, TypeExpr.texts, String.intercalate_cons_cons]
    exact ⟨_, .moreTypes hderives hderives', hprints.append_sign_append (by decide) hprints'⟩

theorem TypeExpr.printed_path :
    (segments : List Segment) → segments ≠ [] → TypeExpr.allProperSegments segments = true →
      TypeExpr.Printed (.path segments)
        (String.intercalate "." (TypeExpr.segmentTexts segments))
  | [], h, _ => absurd rfl h
  | [s], _, h => by
    rw [TypeExpr.allProperSegments, Bool.and_eq_true] at h
    obtain ⟨tokens, hderives, hprints⟩ := Segment.printed s h.1
    rw [TypeExpr.segmentTexts, TypeExpr.segmentTexts, String.intercalate_singleton]
    exact ⟨tokens, .lastSegment hderives, hprints⟩
  | s :: s' :: segments, _, h => by
    rw [TypeExpr.allProperSegments, Bool.and_eq_true] at h
    obtain ⟨tokens, hderives, hprints⟩ := Segment.printed s h.1
    obtain ⟨tokens', hderives', hprints'⟩ :=
      TypeExpr.printed_path (s' :: segments) (by simp) h.2
    rw [TypeExpr.segmentTexts] at hprints'
    rw [TypeExpr.segmentTexts, TypeExpr.segmentTexts, String.intercalate_cons_cons]
    exact ⟨_, .moreSegments hderives hderives', hprints.append_sign_append (by decide) hprints'⟩

end

namespace TypeExpr

/-! ## The round trip -/

theorem Printed.spelling {t : TypeExpr} {text : String} (h : Printed (.type t) text) :
    Spelling text t := by
  obtain ⟨tokens, hderives, hprints⟩ := h
  exact ⟨tokens, hprints.spells, hderives⟩

theorem WellFormed.ofText_text {t : TypeExpr} (h : t.WellFormed) : ofText t.text = t := by
  cases h with
  | @kept text htrim hkept =>
    obtain ⟨u, -, hof, hu⟩ | ⟨-, hof⟩ := ofText_cases text
    · rw [hof, hu] at hkept
      cases hkept
    · rw [TypeExpr.text, hof, htrim]
  | understood hproper hbudget =>
    have hread := read?_eq_some_iff.2 ⟨(t.printed hproper).spelling, hbudget⟩
    rw [ofText, hread]
    rfl

/-- **Reading undoes printing.** Every text gives a well-formed type, and
the text of a well-formed type gives that type; so reading what was printed
gives the type back, and printing it again gives the same text. -/
theorem ofText_roundTrip :
    (∀ text, (ofText text).WellFormed) ∧
      (∀ t : TypeExpr, t.WellFormed → ofText t.text = t) ∧
      (∀ text, ofText (ofText text).text = ofText text) ∧
      ∀ text, (ofText (ofText text).text).text = (ofText text).text := by
  have hback : ∀ text, ofText (ofText text).text = ofText text :=
    fun text => (wellFormed_ofText text).ofText_text
  exact ⟨wellFormed_ofText, fun t h => h.ofText_text, hback,
    fun text => congrArg TypeExpr.text (hback text)⟩

example : (ofText " Result < Int,[ Text:() ] > ? ").text = "Result<Int, [Text: ()]>?" := by cbv

end TypeExpr

end ActionRelay
