import ActionRelay.Json.Printer
import ActionRelay.Json.Reader
import Mathlib.Data.Nat.Notation
import Mathlib.Tactic.SplitIfs
/-!
# JSON — strings are read back

Between quotes a character is written as one unit, or as two if it takes a
surrogate pair. The units are read back one by one (`readUnits_escapeChar`)
and join to the same characters (`joinUnits_unitsOf`), so that a string is
read back whatever follows it (`firstToken?_quoted`). A string without a text
is written as a half that stands alone, and has none again.
-/

namespace ActionRelay

namespace Json

variable {before : List ℕ} {done : List Char} {rest : List Char}

/-! ## Units -/

/-- No character is half of a surrogate pair. -/
theorem toNat_valid (c : Char) : c.toNat < 0xD800 ∨ 0xDFFF < c.toNat ∧ c.toNat < 0x110000 :=
  c.valid

/-- The units that a character is written as. -/
def unitsOf (c : Char) : List ℕ :=
  if c.toNat < 0x10000 then [c.toNat]
  else [0xD800 + (c.toNat - 0x10000) / 0x400, 0xDC00 + (c.toNat - 0x10000) % 0x400]

theorem unitsOf_of_lt {c : Char} (h : c.toNat < 0x10000) : unitsOf c = [c.toNat] :=
  if_pos h

theorem hexValue?_hexDigit : ∀ n < 16, hexValue? (hexDigit n) = some n := by decide

theorem readUnits_escapeUnit {unit : ℕ} (h : unit < 0x10000) :
    readUnits before ((escapeUnit unit).toList ++ rest) = readUnits (unit :: before) rest := by
  have hvalue : ((unit / 0x1000 % 16 * 16 + unit / 0x100 % 16) * 16 + unit / 0x10 % 16) * 16
      + unit % 16 = unit := by omega
  have hquad : hexQuad? (hexDigit (unit / 0x1000 % 16)) (hexDigit (unit / 0x100 % 16))
      (hexDigit (unit / 0x10 % 16)) (hexDigit (unit % 16)) = some unit := by
    simp only [hexQuad?, hexValue?_hexDigit _ (Nat.mod_lt _ (by decide : 0 < 16)),
      Option.bind_eq_bind, Option.bind_some, Option.pure_def, hvalue]
  rw [escapeUnit, String.toList_ofList]
  simp only [List.cons_append, List.nil_append, readUnits, hquad]

theorem readUnits_plain {c : Char} (hquote : c ≠ '"') (hslash : c ≠ '\\') (hle : 0x20 ≤ c.toNat) :
    readUnits before (c :: rest) = readUnits (c.toNat :: before) rest := by
  rw [readUnits, if_neg (Nat.not_lt.2 hle)]
  · exact hquote
  · exact fun _ _ _ _ _ heq => absurd heq hslash
  · exact fun _ _ heq => absurd heq hslash

/-- What stands for a character between quotes is read as its units. -/
theorem readUnits_escapeChar (c : Char) :
    readUnits before ((escapeChar c).toList ++ rest)
      = readUnits ((unitsOf c).reverse ++ before) rest := by
  rw [escapeChar]
  split_ifs with hquote hslash hplain hsmall
  · subst hquote
    simp [readUnits, shortEscape?, unitsOf]
  · subst hslash
    simp [readUnits, shortEscape?, unitsOf]
  · rw [unitsOf_of_lt (by omega), Char.toString, String.toList_singleton, List.singleton_append,
      readUnits_plain hquote hslash hplain.1]
    rfl
  · rw [unitsOf_of_lt hsmall, readUnits_escapeUnit hsmall]
    rfl
  · have hvalid := toNat_valid c
    rw [unitsOf, if_neg hsmall, String.toList_append, List.append_assoc,
      readUnits_escapeUnit (by omega), readUnits_escapeUnit (by omega)]
    rfl

theorem readUnits_escapeChars (cs : List Char) :
    readUnits before ((String.join (cs.map escapeChar)).toList ++ '"' :: rest)
      = some (before.reverse ++ cs.flatMap unitsOf, rest) := by
  rw [String.toList_join]
  induction cs generalizing before with
  | nil => simp [readUnits]
  | cons c cs ih =>
    rw [List.map_cons, List.flatMap_cons, List.append_assoc, readUnits_escapeChar, ih]
    simp

/-! ## Characters -/

theorem joinUnits_whole {unit : ℕ} {units : List ℕ} (hhigh : isHighHalf unit = false)
    (hlow : isLowHalf unit = false) :
    joinUnits done (unit :: units) = joinUnits (Char.ofNat unit :: done) units := by
  rcases units with - | ⟨next, later⟩
  · simp [joinUnits, hhigh, hlow]
  · simp [joinUnits, hhigh, hlow]

theorem joinUnits_pair {high low : ℕ} {units : List ℕ} (hhigh : isHighHalf high = true)
    (hlow : isLowHalf low = true) :
    joinUnits done (high :: low :: units)
      = joinUnits (Char.ofNat (0x10000 + (high - 0xD800) * 0x400 + (low - 0xDC00)) :: done)
          units := by
  simp [joinUnits, hhigh, hlow]

/-- The units of a character join to it: one alone is no half, and two are a
pair. -/
theorem joinUnits_unitsOf (c : Char) (units : List ℕ) :
    joinUnits done (unitsOf c ++ units) = joinUnits (c :: done) units := by
  have hvalid := toNat_valid c
  rw [unitsOf]
  split
  case isTrue hsmall =>
    rw [List.singleton_append, joinUnits_whole, Char.ofNat_toNat]
    · simp [isHighHalf]; omega
    · simp [isLowHalf]; omega
  case isFalse hlarge =>
    have hjoin : 0x10000 + (0xD800 + (c.toNat - 0x10000) / 0x400 - 0xD800) * 0x400
        + (0xDC00 + (c.toNat - 0x10000) % 0x400 - 0xDC00) = c.toNat := by omega
    rw [List.cons_append, List.singleton_append, joinUnits_pair, hjoin, Char.ofNat_toNat]
    · simp [isHighHalf]; omega
    · simp [isLowHalf]; omega

theorem joinUnits_flatMap_unitsOf (cs : List Char) :
    joinUnits done (cs.flatMap unitsOf) = some (done.reverse ++ cs) := by
  induction cs generalizing done with
  | nil => simp [joinUnits]
  | cons c cs ih => rw [List.flatMap_cons, joinUnits_unitsOf, ih]; simp

/-! ## Strings as tokens -/

theorem quoted_ne_nil (text : Option String) : (quoted text).toList ≠ [] := by
  rcases text with - | text <;> simp [quoted]

theorem firstToken?_quote {cs : List Char} {units : List ℕ}
    (h : readUnits [] cs = some (units, rest)) :
    firstToken? ('"' :: cs)
      = some (.scalar (.string ((joinUnits [] units).map String.ofList)), rest) := by
  rw [firstToken?, h]
  rfl

theorem firstToken?_quoted (text : Option String) :
    firstToken? ((quoted text).toList ++ rest) = some (.scalar (.string text), rest) := by
  rcases text with - | text
  · have hchars : (quoted none).toList ++ rest
        = '"' :: ((escapeUnit 0xD800).toList ++ '"' :: rest) := by simp [quoted]
    have hread : readUnits [] ((escapeUnit 0xD800).toList ++ '"' :: rest)
        = some ([0xD800], rest) := readUnits_escapeUnit (by decide)
    rw [hchars, firstToken?_quote hread]
    rfl
  · have hchars : (quoted (some text)).toList ++ rest
        = '"' :: ((String.join (text.toList.map escapeChar)).toList ++ '"' :: rest) := by
      simp [quoted]
    rw [hchars, firstToken?_quote (readUnits_escapeChars text.toList), List.reverse_nil,
      List.nil_append, joinUnits_flatMap_unitsOf, List.reverse_nil, List.nil_append,
      Option.map_some, String.ofList_toList]

end Json

end ActionRelay
