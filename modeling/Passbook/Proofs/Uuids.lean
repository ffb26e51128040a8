import Mathlib.Algebra.Ring.Nat
import Mathlib.Data.List.Basic
import Passbook.Uuid

/-!
# Spellings of UUIDs

A UUID is spelled in four ways, and `parse?_eq_some` says that they are the only texts that are
read as it, whatever the case of their letters. The one that is written is the hyphenated one in
lower case, so what is written is read back (`parse?_render`).
-/

namespace Passbook

-- ---------------------------------------------------------------------------
-- Lower case
-- ---------------------------------------------------------------------------

namespace Text

theorem toNat_toLower (c : Char) :
    c.toLower.toNat = if 65 ≤ c.toNat ∧ c.toNat ≤ 90 then c.toNat + 32 else c.toNat := by
  unfold Char.toLower
  simp only [ge_iff_le, UInt32.le_iff_toNat_le]
  split
  · next upper =>
    have upper : 65 ≤ c.toNat ∧ c.toNat ≤ 90 := upper
    rw [if_pos upper]
    show (c.val + 32).toNat = c.val.toNat + 32
    have bound : c.val.toNat ≤ 90 := upper.2
    rw [UInt32.toNat_add]
    simp
    omega
  · next other => exact (if_neg other).symm

/-- What is no letter in lower case was none before. -/
theorem eq_of_toLower {c d : Char} (h : c.toLower = d) (mark : d.toNat < 97 ∨ 122 < d.toNat) :
    c = d := by
  have lower := toNat_toLower c
  rw [h] at lower
  rw [← Char.toNat_inj]
  split at lower <;> omega

end Text

namespace Uuid

open Text (toNat_toLower eq_of_toLower)

-- ---------------------------------------------------------------------------
-- Spellings
-- ---------------------------------------------------------------------------

/-- The lower-case hexadecimal digits of a UUID. -/
def hex (u : Uuid) : List Char := u.digits.map fun d => "0123456789abcdef".toList[d]

/-- The digits in groups of 8, 4, 4, 4 and 12 with hyphens between them. -/
def hyphenated (u : Uuid) : List Char :=
  u.hex.extract 0 8 ++ '-' :: u.hex.extract 8 12 ++ '-' :: u.hex.extract 12 16 ++
    '-' :: u.hex.extract 16 20 ++ '-' :: u.hex.extract 20 32

/-- The ways to spell a UUID. -/
inductive Spelling
  | hyphenated
  | simple
  | braced
  | urn

/-- A UUID in lower case. -/
def spelled (u : Uuid) : Spelling → List Char
  | .hyphenated => u.hyphenated
  | .simple => u.hex
  | .braced => '{' :: u.hyphenated ++ ['}']
  | .urn => "urn:uuid:".toList ++ u.hyphenated

-- ---------------------------------------------------------------------------
-- Digits
-- ---------------------------------------------------------------------------

variable {cs ds : List Char} {u : Uuid}

theorem toNat_digitChar (d : Fin 16) :
    (digitChar d).toNat = if d.val < 10 then 48 + d.val else 87 + d.val := by
  revert d
  decide

theorem digit?_eq_some {c : Char} {d : Fin 16} : digit? c = some d ↔ c.toLower = digitChar d := by
  rw [← Char.toNat_inj, toNat_toLower, toNat_digitChar]
  have small := d.isLt
  have range (a b : Char) : a ≤ b ↔ a.toNat ≤ b.toNat := UInt32.le_iff_toNat_le
  have ofNat (n : Nat) : some (Fin.ofNat 16 n) = some d ↔ n % 16 = d.val := by
    rw [Option.some.injEq, Fin.ext_iff]
    rfl
  simp only [digit?, range, Char.reduceToNat]
  split
  · rw [ofNat]
    split <;> split <;> omega
  · split
    · rw [ofNat]
      split <;> split <;> omega
    · split
      · rw [ofNat]
        split <;> split <;> omega
      · simp only [reduceCtorEq, false_iff]
        split <;> split <;> omega

theorem mapM_digit?_eq_some {digits : List (Fin 16)} :
    cs.mapM digit? = some digits ↔ cs.map Char.toLower = digits.map digitChar := by
  induction cs generalizing digits with
  | nil => cases digits <;> simp
  | cons c rest ih =>
    cases digits with
    | nil => simp [List.mapM_cons, Option.bind_eq_some_iff]
    | cons d digits => simp [List.mapM_cons, Option.bind_eq_some_iff, digit?_eq_some, ih]

theorem ofDigits?_eq_some :
    ofDigits? cs = some u ↔ cs.map Char.toLower = u.digits.map digitChar := by
  simp only [ofDigits?, bind, Option.bind_eq_some_iff, mapM_digit?_eq_some]
  constructor
  · rintro ⟨digits, h, made⟩
    split at made
    · obtain rfl := Option.some.inj made
      exact h
    · exact nomatch made
  · intro h
    exact ⟨u.digits, h, dif_pos u.length_eq⟩

-- ---------------------------------------------------------------------------
-- Hyphens
-- ---------------------------------------------------------------------------

theorem dehyphenate?_hyphenate {gs : List Nat} (enough : gs.dropLast.sum ≤ ds.length) :
    dehyphenate? gs (hyphenate gs ds) = some ds := by
  fun_induction hyphenate gs ds with
  | case1 => rfl
  | case2 => rfl
  | case3 n rest cs more ih =>
    obtain ⟨m, rest, rfl⟩ := List.exists_cons_of_ne_nil more
    simp only [List.dropLast_cons_cons, List.sum_cons] at enough
    have len : (cs.take n).length = n := List.length_take_of_le (by omega)
    have ih := ih (by rw [List.length_drop]; omega)
    rw [dehyphenate?, List.drop_left' len, List.take_left' len]
    · simp only [ih, Option.map_some, List.take_append_drop]
    · exact more

theorem hyphenate_of_dehyphenate? {gs : List Nat} (h : dehyphenate? gs cs = some ds) :
    cs = hyphenate gs ds := by
  fun_induction dehyphenate? gs cs generalizing ds with
  | case1 => exact Option.some.inj h
  | case2 => exact Option.some.inj h
  | case3 n rest cs more tail dropped ih =>
    obtain ⟨ds', h', rfl⟩ := Option.map_eq_some_iff.mp h
    have len : (cs.take n).length = n := by
      have more := congrArg List.length dropped
      rw [List.length_drop, List.length_cons] at more
      exact List.length_take_of_le (by omega)
    rw [hyphenate, List.take_left' len, List.drop_left' len, ← ih h', ← dropped,
      List.take_append_drop]
    exact more
  | case4 => exact nomatch h

theorem map_hyphenate (gs : List Nat) (f : Char → Char) (hf : f '-' = '-') (ds : List Char) :
    (hyphenate gs ds).map f = hyphenate gs (ds.map f) := by
  fun_induction hyphenate gs ds with
  | case1 => rfl
  | case2 => rfl
  | case3 n rest cs more ih =>
    rw [hyphenate, List.map_append, List.map_cons, hf, ih, List.map_take, List.map_drop]
    exact more

theorem length_hyphenate {gs : List Nat} (ds : List Char) :
    (hyphenate gs ds).length = ds.length + (gs.length - 1) := by
  fun_induction hyphenate gs ds with
  | case1 => rfl
  | case2 => rfl
  | case3 n rest cs more ih =>
    obtain ⟨m, rest, rfl⟩ := List.exists_cons_of_ne_nil more
    simp only [List.length_append, List.length_cons, ih, List.length_take, List.length_drop]
    omega

theorem dehyphenate?_map_toLower (gs : List Nat) (cs : List Char) :
    dehyphenate? gs (cs.map Char.toLower) = (dehyphenate? gs cs).map (List.map Char.toLower) := by
  fun_induction dehyphenate? gs cs with
  | case1 => rfl
  | case2 => rfl
  | case3 n rest cs more tail dropped ih =>
    have dropped : (cs.map Char.toLower).drop n = '-' :: tail.map Char.toLower := by
      rw [← List.map_drop, dropped]
      rfl
    rw [dehyphenate?, dropped, ← List.map_take]
    · simp only [ih, Option.map_map]
      congr 1
      funext ds
      simp
    · exact more
  | case4 n rest cs more unmarked =>
    rw [dehyphenate?, ← List.map_drop]
    · split
      · next marked =>
        obtain ⟨c, tail, dropped, hc, -⟩ := List.map_eq_cons_iff.mp marked
        obtain rfl : c = '-' := eq_of_toLower hc (by decide)
        exact (unmarked tail dropped).elim
      · rfl
    · exact more

theorem length_toChars (u : Uuid) : u.toChars.length = 36 := by
  rw [toChars, length_hyphenate, List.length_map, u.length_eq]
  rfl

theorem ofHyphenated?_eq_some : ofHyphenated? cs = some u ↔ cs.map Char.toLower = u.toChars := by
  have enough : groups.dropLast.sum ≤ (u.digits.map digitChar).length := by
    rw [List.length_map, u.length_eq]
    decide
  constructor
  · intro h
    unfold ofHyphenated? at h
    split at h
    · obtain ⟨ds, split, read⟩ := Option.bind_eq_some_iff.mp h
      rw [hyphenate_of_dehyphenate? split, map_hyphenate groups _ rfl, ofDigits?_eq_some.mp read]
      rfl
    · exact nomatch h
  · intro h
    have len : cs.length = 36 := by rw [← List.length_map Char.toLower, h, length_toChars]
    have back := dehyphenate?_map_toLower groups cs
    rw [h, toChars, dehyphenate?_hyphenate enough] at back
    obtain ⟨ds, split, lower⟩ := Option.map_eq_some_iff.mp back.symm
    rw [ofHyphenated?, if_pos len, split]
    exact ofDigits?_eq_some.mpr lower

-- ---------------------------------------------------------------------------
-- Texts that are read
-- ---------------------------------------------------------------------------

theorem length_hex (u : Uuid) : u.hex.length = 32 := (List.length_map _).trans u.length_eq

theorem hex_eq (u : Uuid) : u.hex = u.digits.map digitChar := by
  have same : ∀ d : Fin 16, "0123456789abcdef".toList[d] = digitChar d := by decide
  exact List.map_congr_left fun d _ => same d

theorem toChars_eq (u : Uuid) : u.toChars = u.hyphenated := by
  have last : (u.hex.drop 20).length = 12 := by rw [List.length_drop, length_hex]
  rw [toChars, ← hex_eq]
  simp [hyphenated, groups, hyphenate, List.take_of_length_le (Nat.le_of_eq last)]

theorem braced?_eq_some {inner : List Char} :
    braced? cs = some inner ↔ cs = '{' :: inner ++ ['}'] := by
  unfold braced?
  split
  · next rest =>
    rw [List.cons_append, List.cons_inj_right]
    split
    · next last =>
      obtain ⟨front, rfl⟩ := List.getLast?_eq_some_iff.mp last
      rw [List.dropLast_concat, Option.some.injEq, List.append_cancel_right_eq]
    · next open_ =>
      refine iff_of_false (fun h => nomatch h) ?_
      rintro rfl
      exact open_ List.getLast?_concat
  · next other => exact iff_of_false (fun h => nomatch h) (other _)

/-- A text that starts with a digit is neither in braces nor a name. -/
theorem unmarked_of_digit {d : Fin 16} (h : cs.map Char.toLower = digitChar d :: ds) :
    braced? cs = none ∧ (cs.take urnMark.length).map Char.toLower ≠ urnMark := by
  have other : ∀ d, digitChar d ≠ '{' ∧ digitChar d ≠ 'u' := by decide
  obtain ⟨c, rest, rfl, hc, -⟩ := List.map_eq_cons_iff.mp h
  constructor
  · refine Option.eq_none_iff_forall_ne_some.mpr fun inner braced => (other d).1 ?_
    obtain rfl : c = '{' := (List.cons.inj (braced?_eq_some.mp braced)).1
    exact hc.symm
  · intro named
    exact (other d).2 (hc.symm.trans (List.cons.inj named).1)

theorem hex_cons (u : Uuid) : ∃ d rest, u.hex = digitChar d :: rest := by
  have len := u.length_hex
  rw [hex_eq] at len ⊢
  cases h : u.digits with
  | nil => rw [h] at len; exact nomatch len
  | cons d rest => exact ⟨d, _, rfl⟩

theorem hyphenated_cons (u : Uuid) : ∃ d rest, u.hyphenated = digitChar d :: rest := by
  obtain ⟨d, rest, h⟩ := u.hex_cons
  exact ⟨d, _, by rw [hyphenated, h]; rfl⟩

theorem spelled_of_ofChars? (h : ofChars? cs = some u) :
    ∃ s, cs.map Char.toLower = u.spelled s := by
  unfold ofChars? at h
  split at h
  · next inner braced =>
    refine ⟨.braced, ?_⟩
    rw [braced?_eq_some.mp braced, List.map_append, List.map_cons, ofHyphenated?_eq_some.mp h,
      toChars_eq]
    rfl
  · split at h
    · next named =>
      refine ⟨.urn, ?_⟩
      rw [← List.take_append_drop urnMark.length cs, List.map_append, named,
        ofHyphenated?_eq_some.mp h, toChars_eq]
      rfl
    · split at h
      · exact ⟨.simple, (ofDigits?_eq_some.mp h).trans u.hex_eq.symm⟩
      · exact ⟨.hyphenated, (ofHyphenated?_eq_some.mp h).trans u.toChars_eq⟩

theorem ofChars?_of_spelled {s : Spelling} (h : cs.map Char.toLower = u.spelled s) :
    ofChars? cs = some u := by
  unfold ofChars?
  cases s with
  | hyphenated =>
    have h : cs.map Char.toLower = u.hyphenated := h
    obtain ⟨d, rest, first⟩ := u.hyphenated_cons
    obtain ⟨bare, unnamed⟩ := unmarked_of_digit (h.trans first)
    have len : cs.length = 36 := by
      rw [← List.length_map Char.toLower, h, ← toChars_eq, length_toChars]
    simp only [bare, if_neg unnamed, len]
    exact ofHyphenated?_eq_some.mpr (h.trans u.toChars_eq.symm)
  | simple =>
    have h : cs.map Char.toLower = u.hex := h
    obtain ⟨d, rest, first⟩ := u.hex_cons
    obtain ⟨bare, unnamed⟩ := unmarked_of_digit (h.trans first)
    have len : cs.length = 32 := by
      rw [← List.length_map Char.toLower, h, length_hex]
    simp only [bare, if_neg unnamed, if_pos len]
    exact ofDigits?_eq_some.mpr (h.trans u.hex_eq)
  | braced =>
    obtain ⟨front, last, rfl, h, hl⟩ := List.map_eq_append_iff.mp h
    obtain ⟨b, inner, rfl, hb, hi⟩ := List.map_eq_cons_iff.mp h
    obtain ⟨c, rfl, hc⟩ := List.map_eq_singleton_iff.mp hl
    obtain rfl : b = '{' := eq_of_toLower hb (by decide)
    obtain rfl : c = '}' := eq_of_toLower hc (by decide)
    simp only [braced?_eq_some.mpr rfl]
    exact ofHyphenated?_eq_some.mpr (hi.trans u.toChars_eq.symm)
  | urn =>
    obtain ⟨front, rest, rfl, hf, hr⟩ := List.map_eq_append_iff.mp h
    have len : front.length = urnMark.length := by
      rw [← List.length_map Char.toLower, hf]
      rfl
    have bare : braced? (front ++ rest) = none := by
      refine Option.eq_none_iff_forall_ne_some.mpr fun inner braced => ?_
      rw [braced?_eq_some.mp braced] at h
      exact absurd (List.cons.inj h).1 (by decide)
    have named : front.map Char.toLower = urnMark := hf
    simp only [bare, List.take_left' len, List.drop_left' len, if_pos named]
    exact ofHyphenated?_eq_some.mpr (hr.trans u.toChars_eq.symm)

/-- A text is read as a UUID if, and only if, it spells it in one of the four ways, in letters of
either case. -/
theorem parse?_eq_some {text : String} :
    parse? text = some u ↔ ∃ s, text.toList.map Char.toLower = u.spelled s :=
  ⟨spelled_of_ofChars?, fun ⟨_, h⟩ => ofChars?_of_spelled h⟩

theorem toList_render (u : Uuid) : u.render.toList = u.hyphenated := by
  rw [render, String.toList_ofList, toChars_eq]

theorem toLower_render (u : Uuid) : u.render.toList.map Char.toLower = u.hyphenated := by
  have digit : ∀ d, (digitChar d).toLower = digitChar d := by decide
  rw [toList_render, ← toChars_eq, toChars, map_hyphenate groups _ rfl, List.map_map]
  congr 1
  exact List.map_congr_left fun d _ => digit d

theorem parse?_render (u : Uuid) : parse? u.render = some u :=
  parse?_eq_some.mpr ⟨.hyphenated, u.toLower_render⟩

end Uuid

end Passbook
