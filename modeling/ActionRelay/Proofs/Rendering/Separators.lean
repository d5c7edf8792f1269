import ActionRelay.Proofs.Rendering.Lines
import ActionRelay.TypeExpr.Token
/-!
# Rendering — taking texts apart

A text that is put together from parts can be taken apart again where it has
a separator with a character that does not occur before it
(`append_sep_inj`). This gives back the entries of a list between commas,
the lines of a text and the parts of a block. In identifiers and in proper
types, most characters that separate something do not occur.
-/

namespace ActionRelay

namespace Text

/-! ## Separators -/

theorem append_cons_inj {c : Char} {xs xs' ys ys' : List Char} (hxs : c ∉ xs) (hxs' : c ∉ xs')
    (h : xs ++ c :: ys = xs' ++ c :: ys') : xs = xs' ∧ ys = ys' := by
  induction xs generalizing xs' with
  | nil =>
    rcases xs' with - | ⟨x', xs'⟩
    · exact ⟨rfl, (List.cons.inj h).2⟩
    · exact absurd ((List.cons.inj h).1 ▸ List.mem_cons_self) hxs'
  | cons x xs ih =>
    rcases xs' with - | ⟨x', xs'⟩
    · exact absurd ((List.cons.inj h).1 ▸ List.mem_cons_self) hxs
    · obtain ⟨rfl, hrest⟩ := List.cons.inj h
      obtain ⟨rfl, rfl⟩ := ih (List.not_mem_of_not_mem_cons hxs)
        (List.not_mem_of_not_mem_cons hxs') hrest
      exact ⟨rfl, rfl⟩

variable {a a' sep rest rest' : String} {c : Char}

/-- **A separator** that has a character which does not occur before it
splits a text in one way only. -/
theorem append_sep_inj (hsep : c ∈ sep.toList) (ha : c ∉ a.toList) (ha' : c ∉ a'.toList)
    (h : a ++ (sep ++ rest) = a' ++ (sep ++ rest')) : a = a' ∧ rest = rest' := by
  obtain ⟨before, after, hsplit, hbefore⟩ := List.eq_append_cons_of_mem hsep
  have hchars : (a.toList ++ before) ++ c :: (after ++ rest.toList)
      = (a'.toList ++ before) ++ c :: (after ++ rest'.toList) := by
    simpa [hsplit] using congrArg String.toList h
  obtain ⟨hfront, hback⟩ := append_cons_inj (by simp [ha, hbefore]) (by simp [ha', hbefore]) hchars
  exact ⟨String.toList_inj.1 (List.append_cancel_right hfront),
    String.toList_inj.1 (List.append_cancel_left hback)⟩

theorem commaSeparated_singleton (text : String) : commaSeparated [text] = text :=
  String.intercalate_singleton

theorem commaSeparated_cons_cons (text second : String) (later : List String) :
    commaSeparated (text :: second :: later)
      = text ++ (", " ++ commaSeparated (second :: later)) := by
  rw [commaSeparated, String.intercalate_cons_cons, String.append_assoc, commaSeparated]

theorem commaSeparated_ne_empty {text : String} {texts : List String} (h : text ≠ "") :
    commaSeparated (text :: texts) ≠ "" := by
  rcases texts with - | ⟨second, later⟩
  · rwa [commaSeparated_singleton]
  · simp [commaSeparated_cons_cons]

/-- Blocks of one length can be told apart in a row. -/
theorem flatMap_inj {α β : Type} {f : α → List β} {n : ℕ} (hlen : ∀ x, (f x).length = n + 1)
    {xs ys : List α} (hf : ∀ x ∈ xs, ∀ y ∈ ys, f x = f y → x = y)
    (h : xs.flatMap f = ys.flatMap f) : xs = ys := by
  have hempty : ∀ x xs, List.flatMap f (x :: xs) ≠ [] := by
    intro x xs hnil
    have hlength := congrArg List.length hnil
    rw [List.flatMap_cons, List.length_append, hlen, List.length_nil] at hlength
    omega
  induction xs generalizing ys with
  | nil =>
    cases ys with
    | nil => rfl
    | cons y ys => exact absurd h.symm (hempty y ys)
  | cons x xs ih =>
    cases ys with
    | nil => exact absurd h (hempty x xs)
    | cons y ys =>
      rw [List.flatMap_cons, List.flatMap_cons] at h
      obtain ⟨hfirst, hlater⟩ := List.append_inj h (by rw [hlen, hlen])
      rw [hf x List.mem_cons_self y List.mem_cons_self hfirst, ih (fun x hx y hy =>
        hf x (List.mem_cons_of_mem _ hx) y (List.mem_cons_of_mem _ hy)) hlater]

theorem map_inj {α β : Type} {f : α → β} {xs ys : List α}
    (hf : ∀ x ∈ xs, ∀ y ∈ ys, f x = f y → x = y) (h : xs.map f = ys.map f) : xs = ys := by
  rw [List.map_eq_flatMap, List.map_eq_flatMap] at h
  refine flatMap_inj (n := 0) (fun _ => rfl) (fun x hx y hy hsame => ?_) h
  exact hf x hx y hy (List.singleton_inj.1 hsame)

/-- Lists of texts without commas are told apart when they are put between
commas. -/
theorem commaSeparated_inj {texts texts' : List String}
    (htexts : ∀ text ∈ texts, text ≠ "" ∧ ',' ∉ text.toList)
    (htexts' : ∀ text ∈ texts', text ≠ "" ∧ ',' ∉ text.toList)
    (h : commaSeparated texts = commaSeparated texts') : texts = texts' := by
  have hcomma : ',' ∈ ", ".toList := by decide
  induction texts generalizing texts' with
  | nil =>
    rcases texts' with - | ⟨text', texts'⟩
    · rfl
    · exact absurd h (commaSeparated_ne_empty (List.forall_mem_cons.1 htexts').1.1).symm
  | cons text texts ih =>
    rcases texts' with - | ⟨text', texts'⟩
    · exact absurd h (commaSeparated_ne_empty (List.forall_mem_cons.1 htexts).1.1)
    rw [List.forall_mem_cons] at htexts htexts'
    rcases texts with - | ⟨second, later⟩ <;> rcases texts' with - | ⟨second', later'⟩
    · rw [commaSeparated_singleton, commaSeparated_singleton] at h
      rw [h]
    · rw [commaSeparated_singleton, commaSeparated_cons_cons] at h
      simp [h] at htexts
    · rw [commaSeparated_singleton, commaSeparated_cons_cons] at h
      simp [← h] at htexts'
    · rw [commaSeparated_cons_cons, commaSeparated_cons_cons] at h
      obtain ⟨rfl, hlater⟩ := append_sep_inj hcomma htexts.1.2 htexts'.1.2 h
      rw [ih htexts.2 htexts'.2 hlater]

theorem unlines_cons (line : String) (lines : List String) :
    unlines (line :: lines) = line ++ ("\n" ++ unlines lines) := by
  simp [unlines, String.append_assoc]

/-- **Lines** can be read off their text. -/
theorem unlines_inj {lines lines' : List String} (hlines : ∀ line ∈ lines, Unbroken line)
    (hlines' : ∀ line ∈ lines', Unbroken line) (h : unlines lines = unlines lines') :
    lines = lines' := by
  induction lines generalizing lines' with
  | nil =>
    cases lines' with
    | nil => rfl
    | cons line' lines' => simp [unlines] at h
  | cons line lines ih =>
    cases lines' with
    | nil => simp [unlines] at h
    | cons line' lines' =>
      rw [List.forall_mem_cons] at hlines hlines'
      rw [unlines_cons, unlines_cons] at h
      have hend : '\n' ∈ "\n".toList := by decide
      obtain ⟨rfl, hrest⟩ := append_sep_inj hend (fun hmem => (hlines.1 _ hmem).1 rfl)
        (fun hmem => (hlines'.1 _ hmem).1 rfl) h
      rw [ih hlines.2 hlines'.2 hrest]

theorem indentLine_injective (margin : ℕ) : Function.Injective (indentLine margin) := by
  intro line line' h
  simp only [indentLine] at h
  split_ifs at h with hline hline' hline'
  · rw [hline, hline']
  · simp [hline'] at h
  · simp [hline] at h
  · exact (String.append_right_inj _).1 h

/-- The parts of a block can be read off its lines. -/
theorem blockLines_inj {header header' : String} {lines lines' : List String}
    (h : blockLines header lines = blockLines header' lines') :
    header = header' ∧ lines = lines' := by
  simp only [blockLines, List.cons_append, List.cons.injEq, List.append_left_inj] at h
  obtain ⟨hheader, hlines⟩ := h
  exact ⟨(String.append_left_inj _).1 hheader,
    (indentLine_injective _).list_map hlines⟩

/-! ## Identifiers -/

variable {name : String}

theorem continuesIdentifier_of_isIdentifier (h : isIdentifier name = true) :
    ∀ c ∈ name.toList, continuesIdentifier c = true := by
  rcases hchars : name.toList with - | ⟨first, later⟩
  · exact List.forall_mem_nil _
  · simp only [isIdentifier, hchars, Bool.and_eq_true, List.all_eq_true] at h
    exact List.forall_mem_cons.2 ⟨continuesIdentifier_of_starts h.1, h.2⟩

theorem notMem_of_isIdentifier (h : isIdentifier name = true)
    (hc : continuesIdentifier c = false) : c ∉ name.toList := by
  intro hmem
  rw [continuesIdentifier_of_isIdentifier h c hmem] at hc
  cases hc

/-- An identifier can be told from what follows a separator behind it that
is not made of the characters of identifiers. -/
theorem identifier_append_inj (ha : isIdentifier a = true) (ha' : isIdentifier a' = true)
    (hsep : sep.toList.any (!continuesIdentifier ·) = true)
    (h : a ++ (sep ++ rest) = a' ++ (sep ++ rest')) : a = a' ∧ rest = rest' := by
  obtain ⟨c, hc, hcontinues⟩ := List.any_eq_true.1 hsep
  rw [Bool.not_eq_true'] at hcontinues
  exact append_sep_inj hc (notMem_of_isIdentifier ha hcontinues)
    (notMem_of_isIdentifier ha' hcontinues) h

theorem ne_empty_of_isIdentifier (h : isIdentifier name = true) : name ≠ "" := by
  rintro rfl
  cases h

/-- Whether a character can stand in an identifier or in a proper type. -/
def isTypeChar (c : Char) : Bool :=
  continuesIdentifier c || TypeExpr.Token.signs.contains c || c == ' '

theorem isTypeChar_of_isIdentifier (h : isIdentifier name = true) :
    ∀ c ∈ name.toList, isTypeChar c = true := by
  intro c hc
  simp [isTypeChar, continuesIdentifier_of_isIdentifier h c hc]

theorem notMem_of_isTypeChar {text : String} (h : ∀ c ∈ text.toList, isTypeChar c = true)
    (hc : isTypeChar c = false) : c ∉ text.toList := by
  intro hmem
  rw [h c hmem] at hc
  cases hc

theorem unbroken_of_isTypeChar {text : String} (h : ∀ c ∈ text.toList, isTypeChar c = true) :
    Unbroken text := by
  intro c hc
  constructor
  · rintro rfl
    exact notMem_of_isTypeChar h (by decide) hc
  · rintro rfl
    exact notMem_of_isTypeChar h (by decide) hc

end Text

end ActionRelay
