
/-!
# Tables

A table holds one row for each of its keys, in ascending order of the keys. As the order is part of
the type, two tables are equal as soon as they have the same row for every key (`Table.ext_get?`).
-/
namespace Passbook

open Std

/-- Rows in strictly ascending order of their keys. -/
structure Table (κ ν : Type) [Ord κ] where
  rows : List (κ × ν)
  ascending : rows.Pairwise fun a b => compare a.1 b.1 = .lt

namespace Table

variable {κ ν : Type} [Ord κ]

theorem ext_rows {a b : Table κ ν} (h : a.rows = b.rows) : a = b := by
  cases a; cases b; cases h; rfl

instance [DecidableEq κ] [DecidableEq ν] : DecidableEq (Table κ ν) := fun a b =>
  if h : a.rows = b.rows then .isTrue (ext_rows h) else .isFalse fun e => h (e ▸ rfl)

def empty : Table κ ν := ⟨[], .nil⟩

instance : Inhabited (Table κ ν) := ⟨empty⟩
instance : EmptyCollection (Table κ ν) := ⟨empty⟩

/-- The rows without their keys, in order. -/
def values (t : Table κ ν) : List ν := t.rows.map Prod.snd

/-- The row of a key among some rows. -/
def find (key : κ) : List (κ × ν) → Option ν
  | [] => none
  | (k, v) :: rest => if compare key k = .eq then some v else find key rest

def get? (t : Table κ ν) (key : κ) : Option ν := find key t.rows

def contains (t : Table κ ν) (key : κ) : Bool := (t.get? key).isSome

/-- Puts a row in its place among ascending rows; an old row of its key makes way. -/
def put (key : κ) (value : ν) : List (κ × ν) → List (κ × ν)
  | [] => [(key, value)]
  | (k, v) :: rest =>
    match compare key k with
    | .lt => (key, value) :: (k, v) :: rest
    | .eq => (key, value) :: rest
    | .gt => (k, v) :: put key value rest

theorem mem_put {key : κ} {value : ν} {row : κ × ν} {rows : List (κ × ν)}
    (h : row ∈ put key value rows) : row = (key, value) ∨ row ∈ rows := by
  induction rows with
  | nil => simpa [put] using h
  | cons head rest ih =>
    obtain ⟨k, v⟩ := head
    simp only [put] at h
    split at h
    · simpa using h
    · rcases List.mem_cons.1 h with h | h <;> simp [h]
    · rcases List.mem_cons.1 h with h | h
      · simp [h]
      · rcases ih h with h | h <;> simp [h]

variable [TransOrd κ] [LawfulEqOrd κ]

theorem pairwise_put {key : κ} {value : ν} {rows : List (κ × ν)}
    (h : rows.Pairwise fun a b => compare a.1 b.1 = .lt) :
    (put key value rows).Pairwise fun a b => compare a.1 b.1 = .lt := by
  induction rows with
  | nil => simp [put]
  | cons head rest ih =>
    obtain ⟨k, v⟩ := head
    obtain ⟨hk, hrest⟩ := List.pairwise_cons.1 h
    simp only [put]
    split
    · next hlt =>
      refine List.pairwise_cons.2 ⟨fun row hrow => ?_, h⟩
      rcases List.mem_cons.1 hrow with rfl | hrow
      · exact hlt
      · exact TransCmp.lt_trans hlt (hk row hrow)
    · next heq =>
      cases LawfulEqCmp.eq_of_compare heq
      exact List.pairwise_cons.2 ⟨hk, hrest⟩
    · next hgt =>
      refine List.pairwise_cons.2 ⟨fun row hrow => ?_, ih hrest⟩
      rcases mem_put hrow with rfl | hrow
      · exact OrientedCmp.lt_of_gt hgt
      · exact hk row hrow

/-- The table with a row, which replaces an old row of its key. -/
def insert (t : Table κ ν) (key : κ) (value : ν) : Table κ ν :=
  ⟨put key value t.rows, pairwise_put t.ascending⟩

omit [TransOrd κ] [LawfulEqOrd κ] in
theorem pairwise_filter {p : κ × ν → Bool} {rows : List (κ × ν)}
    (h : rows.Pairwise fun a b => compare a.1 b.1 = .lt) :
    (rows.filter p).Pairwise fun a b => compare a.1 b.1 = .lt :=
  h.filter p

def erase (t : Table κ ν) (key : κ) : Table κ ν :=
  ⟨t.rows.filter fun row => compare key row.1 != .eq, pairwise_filter t.ascending⟩

def filter (t : Table κ ν) (keep : ν → Bool) : Table κ ν :=
  ⟨t.rows.filter fun row => keep row.2, pairwise_filter t.ascending⟩

/-- The table with the rows of another laid over it. -/
def overlay (base top : Table κ ν) : Table κ ν :=
  top.rows.foldl (fun t row => t.insert row.1 row.2) base

/-- The rows that pass a test when another table is laid over this one: a row of the upper table
hides the lower row of its key whether it passes or not. -/
def overlayFilter (base top : Table κ ν) (keep : ν → Bool) : Table κ ν :=
  top.rows.foldl (fun t row => if keep row.2 then t.insert row.1 row.2 else t.erase row.1)
    (base.filter keep)

end Table

end Passbook
