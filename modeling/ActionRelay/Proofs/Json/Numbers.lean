import ActionRelay.Json.Printer
import ActionRelay.Json.Reader
import Mathlib.Data.List.Induction
import Mathlib.Data.List.TakeWhile
import Mathlib.Tactic.IntervalCases
import Mathlib.Tactic.Ring
/-!
# JSON — numbers are read back

A number that is printed in front of other text is read back digit by digit,
and what is left is the text behind it (`firstToken?_natural`,
`firstToken?_decimal`). A number has no sign of its own that it is over, so
behind it there must be nothing that could go on with it (`EndsNumber`).
-/

namespace ActionRelay

namespace Json

/-! ## Digits -/

variable {digits rest : List Char} {n : ℕ}

/-- Whether a text starts with no digit. -/
def EndsDigits (rest : List Char) : Prop :=
  ∀ c ∈ rest.head?, c.isDigit = false

theorem spanDigits_append (hdigits : ∀ c ∈ digits, c.isDigit = true) (hrest : EndsDigits rest) :
    spanDigits (digits ++ rest) = (digits, rest) := by
  have htake : rest.takeWhile Char.isDigit = [] := by
    rcases rest with - | ⟨c, rest⟩
    · rfl
    · exact List.takeWhile_cons_of_neg (by simp [hrest c (by simp)])
  have hdrop : rest.dropWhile Char.isDigit = rest := by
    rcases rest with - | ⟨c, rest⟩
    · rfl
    · exact List.dropWhile_cons_of_neg (by simp [hrest c (by simp)])
  rw [spanDigits, List.takeWhile_append_of_pos hdigits, List.dropWhile_append_of_pos hdigits,
    htake, hdrop, List.append_nil]

theorem digitsValue_append (front back : List Char) :
    digitsValue (front ++ back) = digitsValue front * 10 ^ back.length + digitsValue back := by
  induction back using List.reverseRecOn with
  | nil => simp [digitsValue]
  | append_singleton back c ih =>
    have hlast : ∀ cs, digitsValue (cs ++ [c]) = digitsValue cs * 10 + (c.toNat - '0'.toNat) := by
      intro cs
      rw [digitsValue, List.foldl_append]
      rfl
    rw [← List.append_assoc, hlast, hlast, ih, List.length_append, List.length_singleton]
    ring

/-- Digits are read as the number they were written for. -/
theorem digitsValue_toDigits (n : ℕ) : digitsValue (Nat.toDigits 10 n) = n := by
  have hread := Nat.ofDigitChars_toDigits (b := 10) (n := n) (by decide) (by decide)
  simpa only [digitsValue, Nat.ofDigitChars, Nat.mul_comm] using hread

theorem isDigit_of_mem_toDigits : ∀ c ∈ Nat.toDigits 10 n, c.isDigit = true :=
  fun _ => Nat.isDigit_of_mem_toDigits (by decide) (by decide)

theorem exists_toDigits_cons (n : ℕ) :
    ∃ first later, Nat.toDigits 10 n = first :: later ∧ first.isDigit = true := by
  rcases hdigits : Nat.toDigits 10 n with - | ⟨first, later⟩
  · exact absurd hdigits Nat.toDigits_ne_nil
  · exact ⟨first, later, rfl, isDigit_of_mem_toDigits first (hdigits ▸ List.mem_cons_self)⟩

/-- No superfluous zero is written. -/
theorem toDigits_ne_zero_cons {c : Char} {later : List Char} :
    Nat.toDigits 10 n ≠ '0' :: c :: later := by
  induction n using Nat.strong_induction_on generalizing c later with
  | _ n ih =>
    intro h
    rcases Nat.lt_or_ge n 10 with hlt | hge
    · rw [Nat.toDigits_of_lt_base hlt] at h
      exact absurd (congrArg List.length h) (by simp)
    rw [Nat.toDigits_of_base_le (by decide) hge] at h
    rcases hfront : Nat.toDigits 10 (n / 10) with - | ⟨first, - | ⟨second, others⟩⟩
    · exact Nat.toDigits_ne_nil hfront
    · -- a zero alone in front is the digit of zero, but the number in front is not zero
      rw [hfront] at h
      obtain ⟨rfl, -⟩ := List.cons.inj h
      have hzero := digitsValue_toDigits (n / 10)
      rw [hfront] at hzero
      have hpos : 0 < n / 10 := Nat.div_pos hge (by decide)
      exact absurd hzero (Nat.ne_of_lt hpos)
    · rw [hfront] at h
      obtain ⟨rfl, -⟩ := List.cons.inj h
      exact ih (n / 10) (Nat.div_lt_self (by omega) (by decide)) hfront

theorem readWhole?_toDigits (h : EndsDigits rest) :
    readWhole? (Nat.toDigits 10 n ++ rest) = some (Nat.toDigits 10 n, rest) := by
  rw [readWhole?, spanDigits_append isDigit_of_mem_toDigits h]
  split
  · next heq => exact absurd (Prod.mk.inj heq).1 Nat.toDigits_ne_nil
  · next heq => exact absurd (Prod.mk.inj heq).1 toDigits_ne_zero_cons
  · rfl

theorem isDigit_ofNat {digit : ℕ} (h : digit < 10) :
    (Char.ofNat ('0'.toNat + digit)).isDigit = true := by
  interval_cases digit <;> decide

theorem toNat_ofNat_sub {digit : ℕ} (h : digit < 10) :
    (Char.ofNat ('0'.toNat + digit)).toNat - '0'.toNat = digit := by
  interval_cases digit <;> decide

theorem toList_digitText (digits : List ℕ) :
    (digitText digits).toList = digits.map fun digit => Char.ofNat ('0'.toNat + digit) :=
  String.toList_ofList

/-- The digits of a number are written as the number is. -/
theorem toList_digitText_digitsOf (n : ℕ) :
    (digitText (digitsOf n)).toList = Nat.toDigits 10 n := by
  have hback : ∀ c ∈ Nat.toDigits 10 n, Char.ofNat ('0'.toNat + (c.toNat - '0'.toNat)) = c := by
    intro c hc
    have hdigit := isDigit_of_mem_toDigits c hc
    have hle : '0'.toNat ≤ c.toNat := by
      simp only [Char.isDigit, Bool.and_eq_true, decide_eq_true_eq] at hdigit
      exact hdigit.1
    rw [Nat.add_sub_cancel' hle, Char.ofNat_toNat]
  rw [toList_digitText, digitsOf, List.map_map]
  exact (List.map_congr_left hback).trans (List.map_id _)

/-- The last digits of a number, as many as there are wanted, are those of
its rest. -/
theorem exists_lastDigits (count n : ℕ) (behind : List ℕ) :
    ∃ last, lastDigits count n behind = last ++ behind ∧ last.length = count ∧
      (∀ digit ∈ last, digit < 10) ∧ digitsValue (digitText last).toList = n % 10 ^ count := by
  induction count generalizing n behind with
  | zero =>
    exact ⟨[], rfl, rfl, List.forall_mem_nil _, by simp [digitText, digitsValue, Nat.mod_one]⟩
  | succ count ih =>
    obtain ⟨front, hfront, hlength, hdigits, hvalue⟩ := ih (n / 10) (n % 10 :: behind)
    have hlast : n % 10 < 10 := Nat.mod_lt n (by decide)
    refine ⟨front ++ [n % 10], ?_, by simp [hlength], ?_, ?_⟩
    · rw [lastDigits, hfront, List.append_assoc]
      rfl
    · exact List.forall_mem_append.2 ⟨hdigits, List.forall_mem_singleton.2 hlast⟩
    · have hsingle : digitsValue [Char.ofNat ('0'.toNat + n % 10)] = n % 10 := by
        rw [digitsValue, List.foldl_cons, List.foldl_nil, toNat_ofNat_sub hlast]
        omega
      rw [toList_digitText, List.map_append, digitsValue_append, ← toList_digitText, hvalue,
        List.map_singleton, hsingle, List.length_singleton, pow_one, pow_succ', Nat.mod_mul]
      omega

/-! ## Numbers -/

/-- Whether a text starts with nothing that could go on with a number. -/
structure EndsNumber (rest : List Char) : Prop where
  endsDigits : EndsDigits rest
  noPoint : ∀ later, rest ≠ '.' :: later
  noExponent : ∀ later, rest ≠ 'e' :: later ∧ rest ≠ 'E' :: later

theorem readFraction?_of_endsNumber (h : EndsNumber rest) :
    readFraction? rest = some (none, rest) := by
  rw [readFraction?]
  exact h.noPoint

theorem readExponent?_of_endsNumber (h : EndsNumber rest) :
    readExponent? rest = some (none, rest) := by
  have he : ∀ later, rest ≠ 'e' :: later := fun later => (h.noExponent later).1
  have hE : ∀ later, rest ≠ 'E' :: later := fun later => (h.noExponent later).2
  rw [readExponent?] <;> intro later <;> first | exact he _ | exact hE _

/-- A plain row of digits is read back. -/
theorem readNumber?_natural (n : ℕ) (h : EndsNumber rest) :
    readNumber? false (Nat.toDigits 10 n ++ rest) = some (.natural n, rest) := by
  rw [readNumber?, readWhole?_toDigits h.endsDigits]
  simp only [Option.bind_eq_bind, Option.bind_some, readFraction?_of_endsNumber h,
    readExponent?_of_endsNumber h, digitsValue_toDigits]
  rfl

theorem endsDigits_cons {c : Char} {later : List Char} (h : c.isDigit = false) :
    EndsDigits (c :: later) := by
  simpa [EndsDigits] using h

theorem readFraction?_point (hdigits : ∀ c ∈ digits, c.isDigit = true) (hne : digits ≠ [])
    (hrest : EndsDigits rest) :
    readFraction? ('.' :: (digits ++ rest)) = some (some digits, rest) := by
  rw [readFraction?, spanDigits_append hdigits hrest]
  rcases digits with - | ⟨first, later⟩
  · exact absurd rfl hne
  · rfl

theorem readExponentDigits?_toDigits (negative : Bool) (n : ℕ) (h : EndsDigits rest) :
    readExponentDigits? negative (Nat.toDigits 10 n ++ rest)
      = some (some (if negative then -(n : ℤ) else n), rest) := by
  rw [readExponentDigits?, spanDigits_append isDigit_of_mem_toDigits h]
  split
  · next heq => exact absurd (Prod.mk.inj heq).1 Nat.toDigits_ne_nil
  · next heq =>
    obtain ⟨rfl, rfl⟩ := Prod.mk.inj heq
    rw [digitsValue_toDigits]

/-- An exponent as it is written, its sign after the letter. -/
def exponentChars (exponent : ℤ) : List Char :=
  if exponent < 0 then 'e' :: '-' :: Nat.toDigits 10 exponent.natAbs
  else 'e' :: Nat.toDigits 10 exponent.natAbs

theorem readExponent?_exponentChars (exponent : ℤ) (h : EndsDigits rest) :
    readExponent? (exponentChars exponent ++ rest) = some (some exponent, rest) := by
  rw [exponentChars]
  split
  case isTrue hnegative =>
    rw [List.cons_append, List.cons_append, readExponent?,
      readExponentDigits?_toDigits true _ h, if_pos rfl,
      Int.ofNat_natAbs_of_nonpos (Int.le_of_lt hnegative), Int.neg_neg]
  case isFalse hpositive =>
    -- the first digit is no sign
    have hsign : ∀ {c later}, Nat.toDigits 10 exponent.natAbs ++ rest = c :: later →
        c.isDigit = true := by
      intro c later heq
      obtain ⟨first, others, hdigits, hfirst⟩ := exists_toDigits_cons exponent.natAbs
      rw [hdigits, List.cons_append] at heq
      exact (List.cons.inj heq).1 ▸ hfirst
    rw [List.cons_append, readExponent?, readExponentDigits?_toDigits false _ h, if_neg (by decide),
      Int.natAbs_of_nonneg (Int.not_lt.1 hpositive)]
    · exact fun later heq => absurd (hsign heq) (by decide)
    · exact fun later heq => absurd (hsign heq) (by decide)

/-- The digits behind the point, with the point if there are any. -/
def fractionChars (d : Decimal) : List Char :=
  if d.places = 0 then [] else '.' :: (digitText d.fractionDigits).toList

theorem readFraction?_fractionChars (d : Decimal) (exponent : ℤ) (rest : List Char) :
    ∃ fraction, readFraction? (fractionChars d ++ (exponentChars exponent ++ rest))
        = some (fraction, exponentChars exponent ++ rest) ∧
      (fraction.getD []).length = d.places ∧
      digitsValue (fraction.getD []) = d.mantissa % 10 ^ d.places := by
  have hletter : ∃ later, exponentChars exponent ++ rest = 'e' :: later := by
    rw [exponentChars]
    split <;> exact ⟨_, rfl⟩
  obtain ⟨later, hletter⟩ := hletter
  rw [fractionChars]
  split
  case isTrue hnone =>
    refine ⟨none, ?_, hnone.symm, by simp [digitsValue, hnone, Nat.mod_one]⟩
    rw [List.nil_append, hletter]
    rfl
  case isFalse hsome =>
    obtain ⟨last, hlast, hlength, hsmall, hvalue⟩ := exists_lastDigits d.places d.mantissa []
    have hlast : d.fractionDigits = last := hlast.trans (List.append_nil last)
    refine ⟨some (digitText last).toList, ?_, by simp [toList_digitText, hlength], hvalue⟩
    rw [hlast, List.cons_append, readFraction?_point]
    · rw [toList_digitText]
      exact List.forall_mem_map.2 fun digit hdigit => isDigit_ofNat (hsmall digit hdigit)
    · rw [toList_digitText]
      exact fun hnil => hsome (hlength ▸ List.length_eq_zero_iff.2 (List.map_eq_nil_iff.1 hnil))
    · rw [hletter]
      exact endsDigits_cons (by decide)

/-- A number in any other form is read back, digit by digit. -/
theorem readNumber?_decimal (d : Decimal) (h : EndsDigits rest) :
    readNumber? d.negative (Nat.toDigits 10 (d.mantissa / 10 ^ d.places) ++
      (fractionChars d ++ (exponentChars d.exponent ++ rest))) = some (.decimal d, rest) := by
  obtain ⟨fraction, hfraction, hlength, hvalue⟩ :=
    readFraction?_fractionChars d d.exponent rest
  have hends : EndsDigits (fractionChars d ++ (exponentChars d.exponent ++ rest)) := by
    rw [fractionChars, exponentChars]
    split_ifs <;> exact endsDigits_cons (by decide)
  have hmantissa : digitsValue (Nat.toDigits 10 (d.mantissa / 10 ^ d.places) ++ fraction.getD [])
      = d.mantissa := by
    rw [digitsValue_append, digitsValue_toDigits, hlength, hvalue, Nat.mul_comm, Nat.div_add_mod]
  rw [readNumber?, readWhole?_toDigits hends]
  simp only [Option.bind_eq_bind, Option.bind_some, hfraction, readExponent?_exponentChars _ h,
    hmantissa, hlength]
  -- what has an exponent is no plain row of digits
  split
  case h_1 heq => cases heq
  case h_2 => rfl

theorem toList_decimalText (d : Decimal) :
    (decimalText d).toList = (if d.negative then ['-'] else []) ++
      (Nat.toDigits 10 (d.mantissa / 10 ^ d.places) ++
        (fractionChars d ++ exponentChars d.exponent)) := by
  rw [decimalText, fractionChars, exponentChars]
  simp only [String.toList_append, Decimal.wholeDigits, toList_digitText_digitsOf,
    Nat.toList_repr]
  split_ifs <;> simp

/-! ## Numbers as tokens -/

/-- What starts with a digit is a number. -/
theorem firstToken?_of_isDigit {c : Char} {later : List Char} (h : c.isDigit = true) :
    firstToken? (c :: later)
      = (readNumber? false (c :: later)).map fun (n, behind) => (.scalar n, behind) := by
  rw [firstToken?] <;> rintro _ heq <;> obtain ⟨rfl, -⟩ := List.cons.inj heq <;>
    exact absurd h (by decide)

theorem firstToken?_natural (n : ℕ) (h : EndsNumber rest) :
    firstToken? (Nat.toDigits 10 n ++ rest) = some (.scalar (.natural n), rest) := by
  obtain ⟨first, later, hdigits, hfirst⟩ := exists_toDigits_cons n
  have hread := readNumber?_natural n h
  rw [hdigits, List.cons_append] at hread ⊢
  rw [firstToken?_of_isDigit hfirst, hread]
  rfl

theorem decimalText_ne_nil (d : Decimal) : (decimalText d).toList ≠ [] := by
  rw [toList_decimalText]
  exact fun h => Nat.toDigits_ne_nil (List.append_eq_nil_iff.1 (List.append_eq_nil_iff.1 h).2).1

theorem firstToken?_decimal (d : Decimal) (h : EndsDigits rest) :
    firstToken? ((decimalText d).toList ++ rest) = some (.scalar (.decimal d), rest) := by
  have hread := readNumber?_decimal d h
  rw [toList_decimalText]
  simp only [List.append_assoc]
  rcases hnegative : d.negative with - | -
  · obtain ⟨first, later, hdigits, hfirst⟩ := exists_toDigits_cons (d.mantissa / 10 ^ d.places)
    rw [hnegative, hdigits, List.cons_append] at hread
    rw [hdigits, if_neg (by decide), List.nil_append, List.cons_append,
      firstToken?_of_isDigit hfirst, hread]
    rfl
  · rw [hnegative] at hread
    rw [if_pos rfl, List.singleton_append, firstToken?, hread]
    rfl

end Json

end ActionRelay
