import ActionRelay.Proofs.Json.Numbers
import ActionRelay.Proofs.Json.Strings
/-!
# JSON — the round trip

A printed value is read back as the value, whatever it is (`ofText?_print`),
so no text spells two values (`print_injective`). The two halves of reading
are followed one after the other: the printed text is cut into the tokens of
the value (`cuts_print`), and the machine puts these together to the value
again (`assemble_tokens`). Both hold in front of more text and more tokens,
which is what carries them through arrays and objects.
-/

namespace ActionRelay

namespace Json

/-! ## The tokens of a value -/

mutual

/-- The tokens of a value. -/
def tokens : Json → List Token
  | .array [] => [.openArray, .closeArray]
  | .array (item :: items) => .openArray :: (item.tokens ++ laterItems items)
  | .object [] => [.openObject, .closeObject]
  | .object ((key, value) :: fields) =>
    .openObject :: .scalar (.string key) :: .colon :: (value.tokens ++ laterFields fields)
  | scalar => [.scalar scalar]

/-- The tokens behind an item of an array. -/
def laterItems : List Json → List Token
  | [] => [.closeArray]
  | item :: items => .comma :: (item.tokens ++ laterItems items)

/-- The tokens behind a field of an object. -/
def laterFields : List (Option String × Json) → List Token
  | [] => [.closeObject]
  | (key, value) :: fields =>
    .comma :: .scalar (.string key) :: .colon :: (value.tokens ++ laterFields fields)

end

/-! ## Putting tokens together -/

/-- No value starts with the end of an array. -/
theorem tokens_append_ne_closeArray (j : Json) (rest later : List Token) :
    j.tokens ++ rest ≠ .closeArray :: later := by
  rcases j with - | - | - | - | - | ⟨- | -⟩ | ⟨- | -⟩ <;> simp [tokens]

mutual

/-- The tokens of a value complete the value, whatever is open around it. -/
theorem assemble_tokens (j : Json) (stack : List Frame) (rest : List Token) :
    assemble .before stack (j.tokens ++ rest) = assemble (.behind j) stack rest := by
  match j with
  | .null | .bool _ | .natural _ | .decimal _ | .string _ => rfl
  | .array [] => rfl
  | .array (item :: items) =>
    rw [tokens, List.cons_append, List.append_assoc, assemble,
      assemble_tokens item, assemble_laterItems items]
    · rfl
    · exact tokens_append_ne_closeArray item _
  | .object [] => rfl
  | .object ((key, value) :: fields) =>
    rw [tokens, List.cons_append, List.cons_append, List.cons_append, List.append_assoc, assemble,
      assemble_tokens value, assemble_laterFields fields]
    rfl

theorem assemble_laterItems (items : List Json) (item : Json) (done : List Json)
    (stack : List Frame) (rest : List Token) :
    assemble (.behind item) (.array done :: stack) (laterItems items ++ rest)
      = assemble (.behind (.array (done.reverse ++ item :: items))) stack rest := by
  match items with
  | [] =>
    rw [laterItems, List.singleton_append, assemble, List.reverse_cons]
  | next :: items =>
    rw [laterItems, List.cons_append, List.append_assoc, assemble, assemble_tokens next,
      assemble_laterItems items, List.reverse_cons, List.append_assoc]
    rfl

theorem assemble_laterFields (fields : List (Option String × Json)) (key : Option String)
    (value : Json) (done : List (Option String × Json)) (stack : List Frame)
    (rest : List Token) :
    assemble (.behind value) (.object done key :: stack) (laterFields fields ++ rest)
      = assemble (.behind (.object (done.reverse ++ (key, value) :: fields))) stack rest := by
  match fields with
  | [] =>
    rw [laterFields, List.singleton_append, assemble, List.reverse_cons]
  | (next, value) :: fields =>
    rw [laterFields, List.cons_append, List.cons_append, List.cons_append, List.append_assoc,
      assemble, assemble_tokens value, assemble_laterFields fields, List.reverse_cons,
      List.append_assoc]
    rfl

end

/-! ## Cutting the text -/

/-- `Cuts cs ts`: the text is cut into the tokens, which stand one behind the
other with no white space between them. -/
inductive Cuts : List Char → List Token → Prop
  | nil : Cuts [] []
  | cons {chars rest : List Char} {token : Token} {ts : List Token} :
      chars ≠ [] → firstToken? (chars ++ rest) = some (token, rest) → Cuts rest ts →
      Cuts (chars ++ rest) (token :: ts)

variable {rest : List Char} {ts : List Token}

/-- One character that is a token. -/
theorem Cuts.sign {c : Char} {token : Token} (hfirst : firstToken? (c :: rest) = some (token, rest))
    (h : Cuts rest ts) : Cuts (c :: rest) (token :: ts) :=
  .cons (List.cons_ne_nil c []) hfirst h

/-- No token starts with white space. -/
theorem firstToken?_of_isSpace {c : Char} (h : isSpace c = true) :
    firstToken? (c :: rest) = none := by
  have hspace : c = ' ' ∨ c = '\t' ∨ c = '\n' ∨ c = '\r' := by
    simpa [isSpace, or_assoc] using h
  rcases hspace with rfl | rfl | rfl | rfl <;> rfl

theorem tokensWithin_of_cuts {cs : List Char} (h : Cuts cs ts) (before : List Token) {fuel : ℕ}
    (hfuel : cs.length ≤ fuel) : tokensWithin before fuel cs = some (before.reverse ++ ts) := by
  induction h generalizing before fuel with
  | nil => simp [tokensWithin]
  | @cons chars rest token ts hne hfirst _ ih =>
    obtain ⟨c, others, rfl⟩ := List.exists_cons_of_ne_nil hne
    have hspace : isSpace c = false := by
      rcases hc : isSpace c with - | -
      · rfl
      · rw [List.cons_append, firstToken?_of_isSpace hc] at hfirst
        cases hfirst
    rcases fuel with - | fuel
    · simp at hfuel
    have hleft : rest.length ≤ fuel := by
      simp only [List.length_append, List.length_cons] at hfuel
      omega
    rw [List.cons_append] at hfirst ⊢
    rw [tokensWithin, hspace, if_neg Bool.false_ne_true, hfirst]
    simp only [ih (token :: before) hleft, List.reverse_cons, List.append_assoc,
      List.singleton_append]

theorem tokens?_of_cuts {cs : List Char} (h : Cuts cs ts) : tokens? cs = some ts :=
  tokensWithin_of_cuts h [] (Nat.le_refl _)

/-- The key of a field. -/
theorem Cuts.key (key : Option String) (h : Cuts rest ts) :
    Cuts ((quoted key).toList ++ ':' :: rest) (.scalar (.string key) :: .colon :: ts) :=
  .cons (quoted_ne_nil key) (firstToken?_quoted key) (.sign rfl h)

/-! ## The tokens of a printed value -/

theorem endsNumber_nil : EndsNumber [] :=
  ⟨by simp [EndsDigits], by simp, by simp⟩

theorem endsNumber_cons {c : Char} (h : c ∈ [',', ']', '\x7d']) : EndsNumber (c :: rest) := by
  simp only [List.mem_cons, List.not_mem_nil, or_false] at h
  rcases h with rfl | rfl | rfl <;> exact ⟨endsDigits_cons rfl, by simp, by simp⟩

/-- The texts behind the first one, each with the comma in front of it. -/
def laterChars (texts : List String) : List Char :=
  texts.flatMap fun text => ',' :: text.toList

/-- What stands behind a value in an array or an object goes on with no
number. -/
theorem endsNumber_laterChars (texts : List String) {close : Char} (h : close ∈ [']', '\x7d']) :
    EndsNumber (laterChars texts ++ close :: rest) := by
  rcases texts with - | ⟨text, texts⟩
  · exact endsNumber_cons (List.mem_cons_of_mem _ h)
  · exact endsNumber_cons List.mem_cons_self

theorem intercalate_comma (first : String) (later : List String) :
    [','].intercalate (first.toList :: later.map String.toList)
      = first.toList ++ laterChars later := by
  induction later generalizing first with
  | nil => simp [laterChars]
  | cons second later ih =>
    rw [List.map_cons, List.intercalate_cons_cons, ih]
    simp [laterChars]

mutual

/-- A printed value is cut into its tokens. -/
theorem cuts_print (j : Json) {rest : List Char} {ts : List Token} (hrest : EndsNumber rest)
    (h : Cuts rest ts) :
    Cuts (j.print.toList ++ rest) (j.tokens ++ ts) := by
  match j with
  | .null => exact .cons (by decide) rfl h
  | .bool true => exact .cons (by decide) rfl h
  | .bool false => exact .cons (by decide) rfl h
  | .natural n =>
    rw [print, Nat.toList_repr]
    exact .cons Nat.toDigits_ne_nil (firstToken?_natural n hrest) h
  | .decimal d =>
    exact .cons (decimalText_ne_nil d) (firstToken?_decimal d hrest.endsDigits) h
  | .string text =>
    exact .cons (quoted_ne_nil text) (firstToken?_quoted text) h
  | .array [] => exact .sign rfl (.sign rfl h)
  | .array (item :: items) =>
    have hchars : (print (.array (item :: items))).toList ++ rest
        = '[' :: (item.print.toList ++ (laterChars (printItems items) ++ ']' :: rest)) := by
      simp [print, printItems, intercalate_comma]
    rw [hchars, tokens, List.cons_append, List.append_assoc]
    exact .sign rfl
      (cuts_print item (endsNumber_laterChars _ (by decide)) (cuts_laterItems items h))
  | .object [] => exact .sign rfl (.sign rfl h)
  | .object ((key, value) :: fields) =>
    have hchars : (print (.object ((key, value) :: fields))).toList ++ rest
        = '\x7b' :: ((quoted key).toList ++ ':' :: (value.print.toList ++
          (laterChars (printFields fields) ++ '\x7d' :: rest))) := by
      simp [print, printFields, intercalate_comma]
    rw [hchars, tokens, List.cons_append, List.cons_append, List.cons_append, List.append_assoc]
    exact .sign rfl (.key key
      (cuts_print value (endsNumber_laterChars _ (by decide)) (cuts_laterFields fields h)))

theorem cuts_laterItems (items : List Json) {rest : List Char} {ts : List Token}
    (h : Cuts rest ts) :
    Cuts (laterChars (printItems items) ++ ']' :: rest) (laterItems items ++ ts) := by
  match items with
  | [] => exact .sign rfl h
  | item :: items =>
    have hchars : laterChars (printItems (item :: items)) ++ ']' :: rest
        = ',' :: (item.print.toList ++ (laterChars (printItems items) ++ ']' :: rest)) := by
      simp [printItems, laterChars]
    rw [hchars, laterItems, List.cons_append, List.append_assoc]
    exact .sign rfl
      (cuts_print item (endsNumber_laterChars _ (by decide)) (cuts_laterItems items h))

theorem cuts_laterFields (fields : List (Option String × Json)) {rest : List Char}
    {ts : List Token} (h : Cuts rest ts) :
    Cuts (laterChars (printFields fields) ++ '\x7d' :: rest) (laterFields fields ++ ts) := by
  match fields with
  | [] => exact .sign rfl h
  | (key, value) :: fields =>
    have hchars : laterChars (printFields ((key, value) :: fields)) ++ '\x7d' :: rest
        = ',' :: ((quoted key).toList ++ ':' :: (value.print.toList ++
          (laterChars (printFields fields) ++ '\x7d' :: rest))) := by
      simp [printFields, laterChars]
    rw [hchars, laterFields, List.cons_append, List.cons_append, List.cons_append,
      List.append_assoc]
    exact .sign rfl (.key key
      (cuts_print value (endsNumber_laterChars _ (by decide)) (cuts_laterFields fields h)))

end

/-! ## Reading back -/

/-- **A printed value is read back.** -/
theorem ofText?_print (j : Json) : ofText? j.print = some j := by
  have hcuts := cuts_print j endsNumber_nil .nil
  rw [List.append_nil, List.append_nil] at hcuts
  rw [ofText?, tokens?_of_cuts hcuts, Option.bind_some, ← List.append_nil j.tokens,
    assemble_tokens, assemble]

/-- No text spells two values. -/
theorem print_injective : Function.Injective print := by
  intro j k h
  have hj := ofText?_print j
  rw [h, ofText?_print k] at hj
  exact (Option.some.inj hj).symm

end Json

end ActionRelay
