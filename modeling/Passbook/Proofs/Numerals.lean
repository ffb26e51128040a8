import Mathlib.Data.List.TakeWhile
import Passbook.Text.Blank
import Passbook.Text.Integer

/-!
# Numerals

What a text has to look like to be read as a whole number, said without its reader: `Digits`,
`Signed` and `Unsigned` give the numerals and the numbers that they stand for, of any length and
with zeros in front. The readers take exactly these, as long as the number is in range
(`parseInt64_ok`, `parseNat_ok`), and nothing that is written is lost (`signed_toString`). Blanks
around a numeral are all that trimming takes away (`parseNat_trim`).
-/

namespace Passbook.Text

-- ---------------------------------------------------------------------------
-- Numerals
-- ---------------------------------------------------------------------------

/-- The characters are decimal digits, one at least, and stand for the number. -/
structure Digits (cs : List Char) (n : Nat) : Prop where
  some : cs ≠ []
  digits : ∀ c ∈ cs, c.isDigit
  value : Nat.ofDigitChars 10 cs 0 = n

/-- A numeral of a natural number: a plus may stand in front of its digits. -/
inductive Unsigned : List Char → Nat → Prop
  | plain : Digits cs n → Unsigned cs n
  | plus : Digits cs n → Unsigned ('+' :: cs) n

/-- A numeral of a whole number: a sign may stand in front of its digits. -/
inductive Signed : List Char → Int → Prop
  | plain : Digits cs n → Signed cs n
  | plus : Digits cs n → Signed ('+' :: cs) n
  | minus : Digits cs n → Signed ('-' :: cs) (-n)

variable {cs : List Char} {n value limit bound : Nat} {beyond : IntegerFault}

-- ---------------------------------------------------------------------------
-- Digits
-- ---------------------------------------------------------------------------

theorem le_ofDigitChars (cs : List Char) (value : Nat) : value ≤ Nat.ofDigitChars 10 cs value := by
  rw [Nat.ofDigitChars_eq_ofDigitChars_zero]
  exact Nat.le_add_right_of_le (Nat.le_mul_of_pos_left value (Nat.pow_pos (by decide)))

theorem readDigits_ok (within : value ≤ limit) :
    readDigits limit beyond value cs = .ok n ↔
      (∀ c ∈ cs, c.isDigit) ∧ Nat.ofDigitChars 10 cs value = n ∧ n ≤ limit := by
  induction cs generalizing value with
  | nil =>
    simp only [readDigits, Nat.ofDigitChars_nil, Except.ok.injEq]
    constructor
    · rintro rfl; exact ⟨fun _ h => (nomatch h), rfl, within⟩
    · exact fun h => h.2.1
  | cons c rest ih =>
    simp only [readDigits, digitValue?, Nat.ofDigitChars_cons, List.forall_mem_cons]
    by_cases hc : c.isDigit
    · simp only [hc, if_true, true_and, Nat.mul_comm value 10]
      split
      · next within => exact ih within
      · next beyond =>
        refine iff_of_false (fun h => nomatch h) ?_
        rintro ⟨-, rfl, upto⟩
        exact beyond (Nat.le_trans (le_ofDigitChars rest _) upto)
    · simp [hc]

theorem readMagnitude_ok :
    readMagnitude limit beyond cs = .ok n ↔ Digits cs n ∧ n ≤ limit := by
  unfold readMagnitude
  split
  · next none => exact iff_of_false (fun h => nomatch h) fun h => h.1.some none
  · next some =>
    rw [readDigits_ok (Nat.zero_le limit)]
    exact ⟨fun ⟨digits, value, upto⟩ => ⟨⟨some, digits, value⟩, upto⟩,
      fun ⟨h, upto⟩ => ⟨h.digits, h.value, upto⟩⟩

theorem digits_toString (n : Nat) : Digits (toString n).toList n := by
  rw [Nat.toString_eq_repr, Nat.toList_repr]
  exact ⟨Nat.toDigits_ne_nil, fun c hc => Nat.isDigit_of_mem_toDigits (by decide) (by decide) hc,
    Nat.ofDigitChars_ten_toDigits⟩

theorem signed_toString (n : Int) : Signed (toString n).toList n := by
  rw [Int.toString_eq_repr, Int.repr_eq_if]
  split
  · next nonneg =>
    have digits := Signed.plain (digits_toString n.toNat)
    rwa [Int.toNat_of_nonneg nonneg] at digits
  · next negative =>
    have digits := Signed.minus (digits_toString (-n).toNat)
    rw [Int.toNat_of_nonneg (by omega), Int.neg_neg] at digits
    rw [String.toList_append]
    exact digits

-- ---------------------------------------------------------------------------
-- Signs
-- ---------------------------------------------------------------------------

theorem Digits.isDigit_head {c : Char} {rest : List Char} (h : Digits (c :: rest) n) : c.isDigit :=
  h.digits c List.mem_cons_self

theorem not_unsigned_nil : ¬Unsigned [] n := by
  rintro ⟨⟨h⟩⟩
  exact h rfl

theorem not_signed_nil {z : Int} : ¬Signed [] z := by
  rintro ⟨⟨h⟩⟩
  exact h rfl

theorem unsigned_iff_of_unmarked (unmarked : ∀ digits, cs ≠ '+' :: digits) :
    Unsigned cs n ↔ Digits cs n := by
  constructor
  · rintro (h | _)
    · exact h
    · exact (unmarked _ rfl).elim
  · exact .plain

theorem unsigned_plus : Unsigned ('+' :: cs) n ↔ Digits cs n := by
  constructor
  · rintro (h | h)
    · exact absurd h.isDigit_head (by decide)
    · exact h
  · exact .plus

theorem signed_plus {z : Int} : Signed ('+' :: cs) z ↔ ∃ n : Nat, Digits cs n ∧ z = n := by
  constructor
  · rintro (h | h | _)
    · exact absurd h.isDigit_head (by decide)
    · exact ⟨_, h, rfl⟩
  · rintro ⟨n, h, rfl⟩
    exact .plus h

theorem signed_minus {z : Int} : Signed ('-' :: cs) z ↔ ∃ n : Nat, Digits cs n ∧ z = -n := by
  constructor
  · rintro (h | _ | h)
    · exact absurd h.isDigit_head (by decide)
    · exact ⟨_, h, rfl⟩
  · rintro ⟨n, h, rfl⟩
    exact .minus h

theorem signed_iff_of_unmarked {z : Int} (unmarked : ∀ digits, cs ≠ '+' :: digits)
    (nonneg : ∀ digits, cs ≠ '-' :: digits) : Signed cs z ↔ ∃ n : Nat, Digits cs n ∧ z = n := by
  constructor
  · rintro (h | _ | _)
    · exact ⟨_, h, rfl⟩
    · exact (unmarked _ rfl).elim
    · exact (nonneg _ rfl).elim
  · rintro ⟨n, h, rfl⟩
    exact .plain h

-- ---------------------------------------------------------------------------
-- Readers
-- ---------------------------------------------------------------------------

theorem parseNat_ok {text : String} (pos : 0 < bound) :
    parseNat bound text = .ok n ↔ Unsigned text.toList n ∧ n < bound := by
  have upto : n ≤ bound - 1 ↔ n < bound := by omega
  unfold parseNat
  split
  · next empty =>
    rw [empty]
    exact iff_of_false (fun h => nomatch h) fun h => not_unsigned_nil h.1
  · next plus => rw [plus, unsigned_plus, readMagnitude_ok, upto]
  · next unmarked =>
    rw [unsigned_iff_of_unmarked unmarked, readMagnitude_ok, upto]

theorem readMagnitude_bind_ok (ofNat : Nat → Int) {x : Int64}
    (exact : ∀ n, n ≤ limit ↔ Int64.minValue.toInt ≤ ofNat n ∧ ofNat n ≤ Int64.maxValue.toInt) :
    (do let n ← readMagnitude limit beyond cs; pure (Int64.ofInt (ofNat n))) = Except.ok x ↔
      ∃ n, Digits cs n ∧ x.toInt = ofNat n := by
  cases h : readMagnitude limit beyond cs with
  | error _ =>
    refine iff_of_false (fun h => nomatch h) ?_
    rintro ⟨n, digits, value⟩
    have upto : n ≤ limit := (exact n).mpr (value ▸ ⟨x.minValue_le_toInt, x.toInt_le⟩)
    exact nomatch h.symm.trans (readMagnitude_ok.mpr ⟨digits, upto⟩)
  | ok n =>
    obtain ⟨digits, upto⟩ := readMagnitude_ok.mp h
    obtain ⟨low, high⟩ := (exact n).mp upto
    have value : (Int64.ofInt (ofNat n)).toInt = ofNat n :=
      Int64.toInt_ofInt_of_le low (Int.lt_of_le_of_lt high (by decide))
    constructor
    · intro h
      obtain rfl := Except.ok.inj h
      exact ⟨n, digits, value⟩
    · rintro ⟨m, again, hx⟩
      obtain rfl : n = m := digits.value.symm.trans again.value
      exact congrArg Except.ok (Int64.toInt_inj.mp (value.trans hx.symm))

theorem parseInt64_ok {text : String} {x : Int64} :
    parseInt64 text = .ok x ↔ Signed text.toList x.toInt := by
  have low : Int64.minValue.toInt = -2 ^ 63 := by decide
  have high : Int64.maxValue.toInt = 2 ^ 63 - 1 := by decide
  unfold parseInt64
  split
  · next empty =>
    rw [empty]
    exact iff_of_false (fun h => nomatch h) not_signed_nil
  · next minus =>
    rw [minus, signed_minus]
    exact readMagnitude_bind_ok (fun n => -n) fun n => by omega
  · next plus =>
    rw [plus, signed_plus]
    exact readMagnitude_bind_ok (fun n => n) fun n => by omega
  · next nonneg unmarked =>
    rw [signed_iff_of_unmarked unmarked nonneg]
    exact readMagnitude_bind_ok (fun n => n) fun n => by omega

-- ---------------------------------------------------------------------------
-- Blanks around a numeral
-- ---------------------------------------------------------------------------

/-- The text is a numeral of a natural number with nothing but blanks around it. -/
def Numeral (text : String) (n : Nat) : Prop :=
  ∃ before numeral after, text.toList = before ++ numeral ++ after ∧
    (∀ c ∈ before, isBlank c) ∧ Unsigned numeral n ∧ ∀ c ∈ after, isBlank c

variable {before marked after : List Char}

theorem dropBlanks_append_of_blank (blank : ∀ c ∈ before, isBlank c) :
    dropBlanks (before ++ cs) = dropBlanks cs :=
  List.dropWhile_append_of_pos blank

/-- What does not start with a blank is left as it is. -/
theorem dropBlanks_append_of_marked (none : ∀ c ∈ marked, ¬isBlank c) (some : marked ≠ [])
    (after : List Char) : dropBlanks (marked ++ after) = marked ++ after := by
  cases marked with
  | nil => exact absurd rfl some
  | cons c rest => exact List.dropWhile_cons_of_neg (none c List.mem_cons_self)

theorem dropBlanks_eq_nil (blank : ∀ c ∈ cs, isBlank c) : dropBlanks cs = [] :=
  List.dropWhile_eq_nil_iff.mpr blank

/-- Trimming takes away nothing but blanks. -/
theorem trimChars_surrounded (cs : List Char) :
    ∃ before after, cs = before ++ trimChars cs ++ after ∧ (∀ c ∈ before, isBlank c) ∧
      ∀ c ∈ after, isBlank c := by
  have split : ∀ cs : List Char, cs.takeWhile isBlank ++ dropBlanks cs = cs := fun cs =>
    List.takeWhile_append_dropWhile
  have blank : ∀ cs : List Char, ∀ c ∈ cs.takeWhile isBlank, isBlank c := fun cs =>
    List.all_eq_true.mp List.all_takeWhile
  refine ⟨cs.takeWhile isBlank, ((dropBlanks cs).reverse.takeWhile isBlank).reverse, ?_,
    blank cs, fun c hc => blank _ c (List.mem_reverse.mp hc)⟩
  calc cs = cs.takeWhile isBlank ++ (dropBlanks cs).reverse.reverse := by
        rw [List.reverse_reverse, split]
    _ = _ := by
        rw [← split (dropBlanks cs).reverse, List.reverse_append, trimChars, split,
          List.append_assoc]

theorem trimChars_append (blank : ∀ c ∈ before, isBlank c) (none : ∀ c ∈ marked, ¬isBlank c)
    (last : ∀ c ∈ after, isBlank c) : trimChars (before ++ marked ++ after) = marked := by
  rw [trimChars, List.append_assoc, dropBlanks_append_of_blank blank]
  by_cases some : marked = []
  · rw [some, List.nil_append, dropBlanks_eq_nil last]
    rfl
  · have rev : ∀ c ∈ marked.reverse, ¬isBlank c := fun c hc => none c (List.mem_reverse.mp hc)
    have tail := dropBlanks_append_of_marked rev (by simpa using some) []
    rw [List.append_nil] at tail
    rw [dropBlanks_append_of_marked none some after, List.reverse_append,
      dropBlanks_append_of_blank fun c hc => last c (List.mem_reverse.mp hc), tail,
      List.reverse_reverse]

theorem not_isBlank_of_isDigit {c : Char} (h : c.isDigit) : ¬isBlank c := by
  have range : 48 ≤ c.toNat ∧ c.toNat ≤ 57 := by
    simpa [Char.isDigit, UInt32.le_iff_toNat_le] using h
  simp only [isBlank, Ranges.contains, blankRanges, List.any_cons, List.any_nil, Bool.or_eq_true,
    Bool.and_eq_true, decide_eq_true_eq, Bool.false_eq_true, or_false, not_or, not_and]
  omega

theorem Unsigned.not_isBlank (h : Unsigned cs n) : ∀ c ∈ cs, ¬isBlank c := by
  cases h with
  | plain h => exact fun c hc => not_isBlank_of_isDigit (h.digits c hc)
  | plus h =>
    refine List.forall_mem_cons.mpr ⟨by decide, fun c hc => ?_⟩
    exact not_isBlank_of_isDigit (h.digits c hc)

theorem numeral_iff_trim {text : String} : Numeral text n ↔ Unsigned (trim text).toList n := by
  rw [trim, String.toList_ofList]
  constructor
  · rintro ⟨before, numeral, after, split, first, h, last⟩
    rwa [split, trimChars_append first h.not_isBlank last]
  · intro h
    obtain ⟨before, after, split, first, last⟩ := trimChars_surrounded text.toList
    exact ⟨before, _, after, split, first, h, last⟩

/-- A trimmed text is read as the number of the numeral that it has amid its blanks. -/
theorem parseNat_trim {text : String} (pos : 0 < bound) :
    parseNat bound (trim text) = .ok n ↔ Numeral text n ∧ n < bound := by
  rw [parseNat_ok pos, numeral_iff_trim]

end Passbook.Text
