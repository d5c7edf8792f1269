import ActionRelay.TypeExpr.Token
import Mathlib.Data.List.TakeWhile
/-!
# Type expressions — the tokens of a text

`Token.Spells` says what it means that a text spells a list of tokens: blanks
may stand before every token and at the end, and a word goes on for as long
as it can. `Token.scan_eq_some_iff` says that scanning finds exactly the
tokens that a text spells. It rests on the classes of characters being
disjoint, since scanning asks for a blank first, then for a word, then for a
sign. Blanks at the ends of a text make no difference
(`Token.scan_trimChars`).
-/

namespace ActionRelay

/-! ## Classes of characters -/

namespace Text

/-- No code point of a blank belongs to a word; the ranges of blanks are
short enough to look at each of them. -/
theorem blankRanges_disjoint :
    (blankRanges.all fun r => (List.range' r.1 (r.2 - r.1 + 1)).all fun n =>
      n != '_'.toNat && !inRanges alphabeticRanges n && !inRanges numericRanges n) = true := by
  decide +kernel

theorem continuesIdentifier_of_isBlank {c : Char} (h : isBlank c = true) :
    continuesIdentifier c = false := by
  obtain ⟨r, hr, hfirst, hlast⟩ := exists_range_of_inRanges h
  have hall := List.all_eq_true.1 (List.all_eq_true.1 blankRanges_disjoint r hr) c.toNat
    (List.mem_range'_1.2 ⟨hfirst, by omega⟩)
  simp only [Bool.and_eq_true, bne_iff_ne, Bool.not_eq_true'] at hall
  have hne : c ≠ '_' := fun heq => hall.1.1 (heq ▸ rfl)
  simp [continuesIdentifier, isAlphabetic, isNumeric, hall.1.2, hall.2, hne]

/-- What does not belong to a word does not start one. -/
theorem startsIdentifier_eq_false {c : Char} (h : continuesIdentifier c = false) :
    startsIdentifier c = false := by
  by_contra hstarts
  have hcontinues := continuesIdentifier_of_starts (Bool.not_eq_false _ ▸ hstarts)
  simp [h] at hcontinues

end Text

namespace TypeExpr.Token

theorem signs_disjoint :
    (signs.all fun c => !Text.isBlank c && !Text.continuesIdentifier c) = true := by
  decide +kernel

/-- A sign is neither a blank nor part of a word. -/
theorem classes_of_mem_signs {c : Char} (h : c ∈ signs) :
    Text.isBlank c = false ∧ Text.startsIdentifier c = false ∧
      Text.continuesIdentifier c = false := by
  have hall := List.all_eq_true.1 signs_disjoint c h
  simp only [Bool.and_eq_true, Bool.not_eq_true'] at hall
  exact ⟨hall.1, Text.startsIdentifier_eq_false hall.2, hall.2⟩

/-! ## What a text spells -/

/-- Whether a text does not go on with a word. -/
def EndsWord (cs : List Char) : Prop :=
  ∀ c ∈ cs.head?, Text.continuesIdentifier c = false

/-- **The tokens of a text.** -/
inductive Spells : List Char → List Token → Prop
  | nil : Spells [] []
  /-- Blanks may stand before a token and at the end. -/
  | blank {c : Char} {cs : List Char} {tokens : List Token} :
      Text.isBlank c = true → Spells cs tokens → Spells (c :: cs) tokens
  /-- A word is a maximal run. -/
  | word {c : Char} {w cs : List Char} {tokens : List Token} :
      Text.startsIdentifier c = true → (∀ d ∈ w, Text.continuesIdentifier d = true) →
      EndsWord cs → Spells cs tokens →
      Spells (c :: w ++ cs) (word (String.ofList (c :: w)) :: tokens)
  | sign {c : Char} {cs : List Char} {tokens : List Token} :
      c ∈ signs → Spells cs tokens → Spells (c :: cs) (sign c :: tokens)

variable {cs : List Char} {tokens : List Token}

theorem endsWord_dropWhile (cs : List Char) :
    EndsWord (cs.dropWhile Text.continuesIdentifier) := by
  intro c hc
  have hnot := List.head?_dropWhile_not Text.continuesIdentifier cs
  rw [Option.mem_def.1 hc] at hnot
  simpa using hnot

theorem EndsWord.append {cs ds : List Char} (hcs : EndsWord cs) (hds : EndsWord ds) :
    EndsWord (cs ++ ds) := by
  rcases cs with - | ⟨c, cs⟩
  · exact hds
  · exact hcs

/-- A word is cut off where it ends. -/
theorem takeWhile_word {w : List Char} (hw : ∀ d ∈ w, Text.continuesIdentifier d = true)
    (hcs : EndsWord cs) :
    (w ++ cs).takeWhile Text.continuesIdentifier = w ∧
      (w ++ cs).dropWhile Text.continuesIdentifier = cs := by
  rw [List.takeWhile_append_of_pos hw, List.dropWhile_append_of_pos hw]
  rcases cs with - | ⟨c, cs⟩
  · simp
  · simp [hcs c rfl]

/-- Scanning finds only what the text spells. -/
theorem spells_of_scan (h : scan cs = some tokens) : Spells cs tokens := by
  fun_induction scan cs generalizing tokens with
  | case1 => exact Option.some.inj h ▸ Spells.nil
  | case2 c rest hblank ih => exact Spells.blank hblank (ih h)
  | case3 c rest hblank hstarts ih =>
    obtain ⟨later, hlater, rfl⟩ := Option.map_eq_some_iff.1 h
    have hword := Spells.word hstarts (w := rest.takeWhile Text.continuesIdentifier)
      (fun d hd => List.mem_takeWhile_imp hd) (endsWord_dropWhile rest) (ih hlater)
    rwa [List.cons_append, List.takeWhile_append_dropWhile] at hword
  | case4 c rest hblank hstarts hsign ih =>
    obtain ⟨later, hlater, rfl⟩ := Option.map_eq_some_iff.1 h
    exact Spells.sign hsign (ih hlater)
  | case5 => cases h

/-- Scanning finds what the text spells. -/
theorem Spells.scan_eq (h : Spells cs tokens) : scan cs = some tokens := by
  induction h with
  | nil => rw [scan]
  | blank hblank _ ih => rw [scan, if_pos hblank, ih]
  | @word c w cs tokens hstarts hw hends _ ih =>
    have hblank : ¬ Text.isBlank c = true := by
      intro hblank
      have hnot := Text.startsIdentifier_eq_false (Text.continuesIdentifier_of_isBlank hblank)
      simp [hstarts] at hnot
    obtain ⟨htake, hdrop⟩ := takeWhile_word hw hends
    rw [List.cons_append, scan, if_neg hblank, if_pos hstarts, htake, hdrop, ih]
    rfl
  | @sign c cs tokens hsign _ ih =>
    obtain ⟨hblank, hstarts, -⟩ := classes_of_mem_signs hsign
    rw [scan, if_neg (by simp [hblank]), if_neg (by simp [hstarts]), if_pos hsign, ih]
    rfl

/-- **Scanning finds exactly the tokens that a text spells.** -/
theorem scan_eq_some_iff : scan cs = some tokens ↔ Spells cs tokens :=
  ⟨spells_of_scan, Spells.scan_eq⟩

/-! ## Blanks at the ends -/

theorem scan_dropWhile_isBlank (cs : List Char) : scan (cs.dropWhile Text.isBlank) = scan cs := by
  induction cs with
  | nil => rfl
  | cons c cs ih =>
    by_cases hblank : Text.isBlank c = true
    · rw [List.dropWhile_cons_of_pos hblank, ih, scan, if_pos hblank]
    · rw [List.dropWhile_cons_of_neg hblank]

theorem scan_append_blank {b : Char} (hb : Text.isBlank b = true) (cs : List Char) :
    scan (cs ++ [b]) = scan cs := by
  have hends : EndsWord [b] := by
    intro c hc
    rw [Option.mem_def, List.head?_cons, Option.some.injEq] at hc
    exact hc ▸ Text.continuesIdentifier_of_isBlank hb
  fun_induction scan cs with
  | case1 => rw [List.nil_append, scan, if_pos hb, scan]
  | case2 c rest hblank ih => rw [List.cons_append, scan, if_pos hblank, ih]
  | case3 c rest hblank hstarts ih =>
    -- the word ends where it did, at the latest at the blank behind it
    obtain ⟨htake, hdrop⟩ := takeWhile_word
      (fun d hd => List.mem_takeWhile_imp (l := rest) hd) ((endsWord_dropWhile rest).append hends)
    rw [← List.append_assoc, List.takeWhile_append_dropWhile] at htake hdrop
    rw [List.cons_append, scan, if_neg hblank, if_pos hstarts, htake, hdrop, ih]
  | case4 c rest hblank hstarts hsign ih =>
    rw [List.cons_append, scan, if_neg hblank, if_neg hstarts, if_pos hsign, ih]
  | case5 c rest hblank hstarts hsign =>
    rw [List.cons_append, scan, if_neg hblank, if_neg hstarts, if_neg hsign]

theorem scan_reverse_dropWhile_isBlank (cs : List Char) :
    scan (cs.dropWhile Text.isBlank).reverse = scan cs.reverse := by
  induction cs with
  | nil => rfl
  | cons c cs ih =>
    by_cases hblank : Text.isBlank c = true
    · rw [List.dropWhile_cons_of_pos hblank, ih, List.reverse_cons, scan_append_blank hblank]
    · rw [List.dropWhile_cons_of_neg hblank]

/-- **Trimming a text keeps its tokens.** -/
theorem scan_trimChars (cs : List Char) : scan (Text.trimChars cs) = scan cs := by
  rw [Text.trimChars, scan_reverse_dropWhile_isBlank, List.reverse_reverse,
    scan_dropWhile_isBlank]

end TypeExpr.Token

end ActionRelay
