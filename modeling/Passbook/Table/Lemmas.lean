import Passbook.Table

/-!
# Laws of tables

A table is seen through `get?`: every operation has one equation that says what it does to the row
of each key, and two tables with the same row for every key are equal (`ext_get?`).
-/
namespace Passbook.Table

open Std

variable {κ ν : Type} [Ord κ]

@[simp] theorem get?_empty (k : κ) : (∅ : Table κ ν).get? k = none := rfl

variable [LawfulEqOrd κ]

theorem find_put [DecidableEq κ] (k key : κ) (value : ν) (rows : List (κ × ν)) :
    find k (put key value rows) = if k = key then some value else find k rows := by
  induction rows with
  | nil => simp [put, find]
  | cons head rest ih =>
    obtain ⟨k₀, v₀⟩ := head
    simp only [put]
    split
    · simp [find]
    · next heq =>
      obtain rfl := LawfulEqCmp.eq_of_compare heq
      by_cases hk : k = key <;> simp [find, hk]
    · next hgt =>
      have hne : key ≠ k₀ := fun h => by simp [h] at hgt
      by_cases hk : k = key
      · subst hk
        simp [find, hne, ih]
      · by_cases hk₀ : k = k₀
        · subst hk₀
          simp [find, hk]
        · simp [find, ih, hk, hk₀]

theorem find_filter_key (k : κ) (keep : κ → Bool) (rows : List (κ × ν)) :
    find k (rows.filter fun row => keep row.1) = if keep k then find k rows else none := by
  induction rows with
  | nil => simp [find]
  | cons head rest ih =>
    obtain ⟨k₀, v₀⟩ := head
    by_cases hk : k = k₀
    · subst hk
      by_cases hkeep : keep k = true <;> simp_all [find]
    · by_cases hkeep : keep k₀ = true <;> simp [find, hk, hkeep, ih]

theorem mem_of_find {k : κ} {v : ν} {rows : List (κ × ν)} (h : find k rows = some v) :
    (k, v) ∈ rows := by
  induction rows with
  | nil => simp [find] at h
  | cons head rest ih =>
    obtain ⟨k₀, v₀⟩ := head
    by_cases hk : k = k₀
    · subst hk
      simp only [find, compare_self, if_true, Option.some.injEq] at h
      simp [h]
    · simp only [find, Std.compare_eq_iff_eq, hk, if_false] at h
      exact List.mem_cons_of_mem _ (ih h)

theorem find_of_mem {k : κ} {v : ν} {rows : List (κ × ν)}
    (ascending : rows.Pairwise fun a b => compare a.1 b.1 = .lt) (h : (k, v) ∈ rows) :
    find k rows = some v := by
  induction rows with
  | nil => simp at h
  | cons head rest ih =>
    obtain ⟨k₀, v₀⟩ := head
    obtain ⟨hhead, hrest⟩ := List.pairwise_cons.1 ascending
    rcases List.mem_cons.1 h with h | hmem
    · obtain ⟨rfl, rfl⟩ := Prod.mk.inj h
      simp [find]
    · have hne : k ≠ k₀ := by
        rintro rfl
        have := hhead _ hmem
        simp at this
      simp [find, hne, ih hrest hmem]

theorem mem_rows_iff {t : Table κ ν} {k : κ} {v : ν} : (k, v) ∈ t.rows ↔ t.get? k = some v :=
  ⟨find_of_mem t.ascending, mem_of_find⟩

variable [TransOrd κ]

/-- Two tables with the same row for every key are equal. -/
theorem ext_get? {a b : Table κ ν} (h : ∀ k, a.get? k = b.get? k) : a = b := by
  apply ext_rows
  have hmem : ∀ row, row ∈ a.rows ↔ row ∈ b.rows := fun row => by
    rw [mem_rows_iff, mem_rows_iff, h]
  have hnodup : ∀ t : Table κ ν, t.rows.Nodup := fun t =>
    t.ascending.imp fun {x y} hxy e => by simp [e] at hxy
  refine List.Perm.eq_of_pairwise (fun x y _ _ hxy hyx => ?_) a.ascending b.ascending
    ((List.perm_ext_iff_of_nodup (hnodup a) (hnodup b)).2 hmem)
  exact absurd hyx (by simp [OrientedCmp.gt_of_lt hxy])

@[simp] theorem get?_insert [DecidableEq κ] (t : Table κ ν) (key : κ) (value : ν) (k : κ) :
    (t.insert key value).get? k = if k = key then some value else t.get? k :=
  find_put k key value t.rows

omit [TransOrd κ] in
@[simp] theorem get?_erase [DecidableEq κ] (t : Table κ ν) (key k : κ) :
    (t.erase key).get? k = if k = key then none else t.get? k := by
  have := find_filter_key k (fun k' => compare key k' != .eq) t.rows
  by_cases hk : k = key
  · subst hk
    simpa [get?, erase] using this
  · have hne : key ≠ k := Ne.symm hk
    simpa [get?, erase, hk, hne] using this

omit [TransOrd κ] in
/-- A row passes a filter when it is there and passes the test. -/
theorem get?_filter (t : Table κ ν) (keep : ν → Bool) (k : κ) :
    (t.filter keep).get? k = (t.get? k).filter keep := by
  cases h : t.get? k with
  | none =>
    cases h' : (t.filter keep).get? k with
    | none => rfl
    | some v =>
      have := (List.mem_filter.1 (mem_of_find h')).1
      rw [mem_rows_iff, h] at this
      cases this
  | some v =>
    have hmem := mem_rows_iff.2 h
    by_cases hkeep : keep v = true
    · rw [Option.filter_some_pos hkeep, ← mem_rows_iff]
      exact List.mem_filter.2 ⟨hmem, hkeep⟩
    · rw [Option.filter_some_neg (by simpa using hkeep)]
      cases h' : (t.filter keep).get? k with
      | none => rfl
      | some w =>
        obtain ⟨hw, hpass⟩ := List.mem_filter.1 (mem_of_find h')
        rw [mem_rows_iff, h] at hw
        cases hw
        exact absurd hpass hkeep

omit [TransOrd κ] in
theorem get?_foldl [DecidableEq κ] (step : Table κ ν → κ × ν → Table κ ν) (result : ν → Option ν)
    (hstep : ∀ t row k, (step t row).get? k = if k = row.1 then result row.2 else t.get? k)
    (rows : List (κ × ν)) (ascending : rows.Pairwise fun a b => compare a.1 b.1 = .lt)
    (base : Table κ ν) (k : κ) :
    (rows.foldl step base).get? k =
      match find k rows with
      | some v => result v
      | none => base.get? k := by
  induction rows generalizing base with
  | nil => simp [find]
  | cons head rest ih =>
    obtain ⟨k₀, v₀⟩ := head
    obtain ⟨hhead, hrest⟩ := List.pairwise_cons.1 ascending
    rw [List.foldl_cons, ih hrest, hstep]
    by_cases hk : k = k₀
    · subst hk
      have hnone : find k rest = none := by
        cases h : find k rest with
        | none => rfl
        | some v =>
          have := hhead _ (mem_of_find h)
          simp at this
      simp [find, hnone]
    · simp [find, hk]

/-- The upper table's row is in front of the lower one's. -/
@[simp] theorem get?_overlay (base top : Table κ ν) (k : κ) :
    (base.overlay top).get? k = (top.get? k <|> base.get? k) := by
  classical
  refine (get?_foldl _ some (fun t row k => get?_insert t row.1 row.2 k) top.rows top.ascending
    base k).trans ?_
  change _ = (find k top.rows <|> base.get? k)
  cases find k top.rows <;> rfl

/-- Of two rows of a key, the upper one decides whether the key is there. -/
theorem get?_overlayFilter (base top : Table κ ν) (keep : ν → Bool) (k : κ) :
    (base.overlayFilter top keep).get? k = (top.get? k <|> base.get? k).filter keep := by
  classical
  refine (get?_foldl _ (fun v => if keep v then some v else none) (fun t row k => ?_) top.rows
    top.ascending (base.filter keep) k).trans ?_
  · by_cases hkeep : keep row.2 = true <;> simp [hkeep]
  · rw [get?_filter]
    change _ = (find k top.rows <|> base.get? k).filter keep
    cases find k top.rows with
    | none => rfl
    | some v => by_cases hkeep : keep v = true <;> simp [hkeep, Option.filter]

end Passbook.Table
