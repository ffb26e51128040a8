import Passbook.Proofs.Calendar
import Passbook.Proofs.Numerals
import Passbook.Time.Rfc3339

/-!
# Timestamps read back

Each reader takes from the front of a text the number or mark that the writer puts there and leaves
the rest, so the readers go through a written instant part by part and meet all of its parts
(`readDate?_written`, `readTime?_written`). What the parts say is the instant: the calendar gives
back its day, and the sixtieth second of a minute its leap second (`parse?_render`).
-/
namespace Passbook.Time

open Text

variable {ds rest : List Char} {n width : Nat} {t : Instant}

-- -----------------------------------------------------------------------------
-- Numbers and marks
-- -----------------------------------------------------------------------------

theorem digitsNumber_eq (ds : List Char) : digitsNumber ds = Nat.ofDigitChars 10 ds 0 := by
  simp only [digitsNumber, Nat.ofDigitChars_eq_foldl, Nat.mul_comm]

/-- No digit comes next, so a number of any length ends here. -/
def Ends (rest : List Char) : Prop := ∀ c ∈ rest.head?, ¬c.isDigit

theorem ends_cons {c : Char} (h : ¬c.isDigit) : Ends (c :: rest) := by
  rintro _ ⟨⟩
  exact h

theorem Ends.take (h : Ends rest) (k : Nat) : Ends (rest.take k) := by
  intro c hc
  rw [List.head?_take] at hc
  split at hc
  · exact nomatch hc
  · exact h c hc

theorem takeWhile_digits (digits : ∀ c ∈ ds, c.isDigit) (ends : Ends rest) :
    (ds ++ rest).takeWhile Char.isDigit = ds := by
  rw [List.takeWhile_append_of_pos digits]
  cases rest with
  | nil => simp
  | cons c rest => rw [List.takeWhile_cons_of_neg (ends c rfl), List.append_nil]

theorem dropWhile_digits (digits : ∀ c ∈ ds, c.isDigit) (ends : Ends rest) :
    (ds ++ rest).dropWhile Char.isDigit = rest := by
  rw [List.dropWhile_append_of_pos digits]
  cases rest with
  | nil => rfl
  | cons c rest => exact List.dropWhile_cons_of_neg (ends c rfl)

theorem readNumber?_append (h : Digits ds n) (fits : ds.length ≤ width)
    (ends : ds.length = width ∨ Ends rest) : readNumber? width (ds ++ rest) = some (n, rest) := by
  have taken : ((ds ++ rest).take width).takeWhile Char.isDigit = ds := by
    obtain ⟨more, rfl⟩ := Nat.exists_eq_add_of_le fits
    rw [List.take_length_add_append]
    refine takeWhile_digits h.digits ?_
    rcases ends with full | ends
    · obtain rfl : more = 0 := by omega
      exact fun c hc => nomatch hc
    · exact ends.take more
  simp only [readNumber?, taken, if_neg h.some, List.drop_left, digitsNumber_eq, h.value]

theorem dropBlanks_digits (h : Digits ds n) : dropBlanks (ds ++ rest) = ds ++ rest :=
  dropBlanks_append_of_marked (fun c hc => not_isBlank_of_isDigit (h.digits c hc)) h.some rest

theorem padded_digits (width n : Nat) : Digits (padded width n).toList n where
  some := by simp [padded, String.toList_append]
  digits c hc := by
    simp only [padded, String.toList_append, String.toList_ofList, List.mem_append] at hc
    rcases hc with zero | digit
    · rw [List.eq_of_mem_replicate zero]
      rfl
    · exact (digits_toString n).digits c digit
  value := by
    simp only [padded, String.toList_append, String.toList_ofList, Nat.ofDigitChars_append,
      Nat.ofDigitChars_replicate_zero, Nat.mul_zero]
    exact (digits_toString n).value

theorem padded_length (small : n < 10 ^ width) (pos : 0 < width) :
    (padded width n).toList.length = width := by
  have short : (toString n).length ≤ width := (Nat.length_repr_le_iff pos).mpr small
  simp only [padded, String.toList_append, String.toList_ofList, List.length_append,
    List.length_replicate, String.length_toList]
  omega

theorem readField?_padded (small : n < 100) :
    readField? 2 ((padded 2 n).toList ++ rest) = some (n, rest) := by
  have len : (padded 2 n).toList.length = 2 := padded_length small (by decide)
  rw [readField?, dropBlanks_digits (padded_digits 2 n)]
  exact readNumber?_append (padded_digits 2 n) (Nat.le_of_eq len) (.inl len)

theorem dropMark?_cons {mark : Char} (h : ¬isBlank mark) :
    dropMark? mark (mark :: rest) = some rest := by
  rw [dropMark?, dropBlanks, List.dropWhile_cons_of_neg h]
  exact if_pos rfl

-- -----------------------------------------------------------------------------
-- Years
-- -----------------------------------------------------------------------------

theorem readYear?_digits (h : Digits ds n) :
    readYear? (ds ++ rest) =
      (readNumber? 4 (ds ++ rest)).map fun (n, rest) => ((n : Int), rest) := by
  have unsigned : ∀ c ∈ (ds ++ rest).head?, c.isDigit := by
    obtain ⟨c, ds, rfl⟩ := List.exists_cons_of_ne_nil h.some
    rintro _ ⟨⟩
    exact h.isDigit_head
  rw [readYear?, dropBlanks_digits h]
  split
  · next plus => exact absurd (unsigned '+' (by rw [plus]; rfl)) (by decide)
  · next minus => exact absurd (unsigned '-' (by rw [minus]; rfl)) (by decide)
  · rfl

theorem readYear?_signed (h : Digits ds n) (ends : Ends rest) :
    readYear? ('+' :: ds ++ rest) = some ((n : Int), rest) ∧
      readYear? ('-' :: ds ++ rest) = some (-(n : Int), rest) := by
  have read : readNumber? (ds ++ rest).length (ds ++ rest) = some (n, rest) :=
    readNumber?_append h (by simp) (.inr ends)
  constructor
  · rw [readYear?, dropBlanks, List.cons_append, List.dropWhile_cons_of_neg (by decide)]
    simp only [read, Option.map_some]
  · rw [readYear?, dropBlanks, List.cons_append, List.dropWhile_cons_of_neg (by decide)]
    simp only [read, Option.map_some]

theorem readYear?_yearText (year : Int) (ends : Ends rest) :
    readYear? ((yearText year).toList ++ rest) = some (year, rest) := by
  unfold yearText
  split
  · next common =>
    have len : (padded 4 year.toNat).toList.length = 4 := padded_length (by omega) (by decide)
    have digits := padded_digits 4 year.toNat
    rw [readYear?_digits digits, readNumber?_append digits (Nat.le_of_eq len) (.inl len)]
    simp only [Option.map_some, Int.toNat_of_nonneg common.1]
  · split
    · next negative =>
      rw [String.toList_append]
      refine (readYear?_signed (padded_digits 4 _) ends).2.trans ?_
      rw [show -(year.natAbs : Int) = year by omega]
    · next nonneg =>
      rw [String.toList_append]
      refine (readYear?_signed (padded_digits 4 _) ends).1.trans ?_
      rw [show (year.natAbs : Int) = year by omega]

-- -----------------------------------------------------------------------------
-- Fractions
-- -----------------------------------------------------------------------------

theorem readFraction?_point {nanos : Nat} (small : n < 10 ^ width) (pos : 0 < width)
    (fits : width ≤ 9) (ends : Ends rest) (scaled : n * 10 ^ (9 - width) = nanos) :
    readFraction? (("." ++ padded width n).toList ++ rest) = some (nanos, rest) := by
  have digits := padded_digits width n
  have len := padded_length small pos
  have point : ("." ++ padded width n).toList = '.' :: (padded width n).toList :=
    String.toList_append
  simp only [point, readFraction?, List.cons_append, takeWhile_digits digits.digits ends,
    dropWhile_digits digits.digits ends, if_neg digits.some, fractionNanos]
  rw [List.take_of_length_le (by omega), digitsNumber_eq, digits.value, len, Nat.pow_eq, scaled]

theorem readFraction?_fractionText {nanos : Nat} (small : nanos < Instant.nanosPerSecond) :
    readFraction? ((fractionText nanos).toList ++ ['Z']) = some (nanos, ['Z']) := by
  have ends : Ends ['Z'] := ends_cons (by decide)
  unfold Instant.nanosPerSecond at small
  unfold fractionText
  split
  · next zero =>
    subst zero
    rfl
  · split
    · next millis =>
      exact readFraction?_point (by omega) (by decide) (by decide) ends (by omega)
    · split
      · next micros =>
        exact readFraction?_point (by omega) (by decide) (by decide) ends (by omega)
      · exact readFraction?_point (by omega) (by decide) (by decide) ends (by omega)

-- -----------------------------------------------------------------------------
-- Dates and times of day
-- -----------------------------------------------------------------------------

theorem readDate?_written {date : Date} (month : date.month < 100) (day : date.day < 100) :
    readDate? ((yearText date.year).toList ++ '-' :: ((padded 2 date.month).toList ++
      '-' :: ((padded 2 date.day).toList ++ rest))) = some (date, rest) := by
  have ends (cs : List Char) : Ends ('-' :: cs) := ends_cons (by decide)
  have dash (cs : List Char) : dropMark? '-' ('-' :: cs) = some cs := dropMark?_cons (by decide)
  simp only [readDate?, Option.bind_eq_bind, Option.bind_some, readYear?_yearText _ (ends _), dash,
    readField?_padded month, readField?_padded day, Option.pure_def]

theorem readTime?_written {time : TimeOfDay} (hour : time.hour < 100) (minute : time.minute < 100)
    (second : time.second < 100) (nanos : time.nanos < Instant.nanosPerSecond) :
    readTime? ((padded 2 time.hour).toList ++ ':' :: ((padded 2 time.minute).toList ++
      ':' :: ((padded 2 time.second).toList ++ ((fractionText time.nanos).toList ++ ['Z'])))) =
      some (time, ['Z']) := by
  have colon (cs : List Char) : dropMark? ':' (':' :: cs) = some cs := dropMark?_cons (by decide)
  simp only [readTime?, Option.bind_eq_bind, Option.bind_some, colon, readField?_padded hour,
    readField?_padded minute, readField?_padded second, readFraction?_fractionText nanos,
    Option.pure_def]

theorem Date.Exists.two_digits {date : Date} (h : date.Exists) :
    date.month < 100 ∧ date.day < 100 := by
  have : monthLength date.year date.month ≤ 31 := by
    unfold monthLength
    split <;> first | decide | (split <;> decide)
  have ⟨_, month, _, day⟩ := h
  omega

/-- The date of an instant in UTC. -/
def dateOf (t : Instant) : Date := dateOfDay (t.second / 86400)

/-- The time of day of an instant in UTC. -/
def timeOf (t : Instant) : TimeOfDay :=
  let time := (t.second % 86400).toNat
  ⟨time / 3600, time / 60 % 60, time % 60 + t.nanos / Instant.nanosPerSecond,
    t.nanos % Instant.nanosPerSecond⟩

theorem toList_render (t : Instant) :
    (render t).toList =
      (yearText (dateOf t).year).toList ++ '-' :: ((padded 2 (dateOf t).month).toList ++
      '-' :: ((padded 2 (dateOf t).day).toList ++ 'T' :: ((padded 2 (timeOf t).hour).toList ++
      ':' :: ((padded 2 (timeOf t).minute).toList ++ ':' :: ((padded 2 (timeOf t).second).toList ++
      ((fractionText (timeOf t).nanos).toList ++ ['Z'])))))) := by
  simp [render, dateOf, timeOf]

-- -----------------------------------------------------------------------------
-- Instants
-- -----------------------------------------------------------------------------

theorem nanos_range (t : Instant) :
    t.nanos < Instant.nanosPerSecond ∨
      t.second % 60 = 59 ∧ t.nanos < 2 * Instant.nanosPerSecond :=
  t.representable.2.2

theorem dateOf_exists (t : Instant) : (dateOf t).Exists := dateOfDay_exists _

theorem timeOf_exists (t : Instant) : (timeOf t).Exists := by
  have := nanos_range t
  simp only [timeOf, TimeOfDay.Exists, Instant.nanosPerSecond] at *
  omega

theorem secondOfDay_timeOf (t : Instant) : (timeOf t).secondOfDay = t.second % 86400 := by
  have := nanos_range t
  simp only [timeOf, TimeOfDay.secondOfDay, Instant.nanosPerSecond] at *
  omega

theorem nanosOfSecond_timeOf (t : Instant) : (timeOf t).nanosOfSecond = t.nanos := by
  have := nanos_range t
  unfold TimeOfDay.nanosOfSecond
  split <;> simp only [timeOf, Instant.nanosPerSecond] at * <;> omega

theorem dateOf_year_range (t : Instant) :
    Instant.firstYear ≤ (dateOf t).year ∧ (dateOf t).year ≤ Instant.lastYear := by
  have ⟨first, last, _⟩ := t.representable
  simp only [Instant.firstSecond, Instant.lastSecond] at first last
  refine dateOfDay_year_range ?_ ?_
  · simp only [Instant.firstSecond]
    omega
  · simp only [Instant.lastSecond]
    omega

theorem instant?_of (t : Instant) : instant? (dateOf t) (timeOf t) 0 = some t := by
  have second : (dateOf t).dayNumber * 86400 + (timeOf t).secondOfDay - 0 = t.second := by
    rw [dateOf, dayNumber_dateOfDay, secondOfDay_timeOf]
    omega
  have ⟨first, last⟩ := dateOf_year_range t
  rw [instant?, if_pos ⟨dateOf_exists t, first, last, timeOf_exists t⟩, second,
    nanosOfSecond_timeOf, Instant.ofParts?, dif_pos t.representable]

theorem parse?_render (t : Instant) : parse? (render t) = some t := by
  have ⟨month, day⟩ := (dateOf_exists t).two_digits
  have ⟨hour, minute, second⟩ := timeOf_exists t
  have nanos : (timeOf t).nanos < Instant.nanosPerSecond := Nat.mod_lt _ (by decide)
  have separator (cs : List Char) : dropSeparator? ('T' :: cs) = some cs := by simp [dropSeparator?]
  have zone : readZone? (dropBlanks ['Z']) = some (0, []) := by decide
  simp only [parse?, toList_render, Option.bind_eq_bind, Option.bind_some,
    readDate?_written month day, separator,
    readTime?_written (by omega) (by omega) (by omega) nanos, zone, List.all_nil, if_true,
    instant?_of]

end Passbook.Time
