import Mathlib.Data.List.Basic
import Passbook.LockOrder

/-!
# The one lock order

Of any things that lock accounts there is exactly one arrangement in which the accounts ascend and
things of the same account stay in the order in which they were given (`InLockOrder.unique`), and
`lockOrdered` finds it (`lockOrdered_inLockOrder`). Two things are put into the same order by their
pair (`OrderedPair.inLockOrder`), which also knows the way back (`OrderedPair.restore_map`).
-/

namespace Passbook

variable {α : Type} [LockKey α]

-- ---------------------------------------------------------------------------
-- Ascending keys
-- ---------------------------------------------------------------------------

def KeysAscend (items : List α) : Prop :=
  items.Pairwise fun a b => (lockKey a).value ≤ (lockKey b).value

/-- Both have the same things of each key, in the same order. -/
def AgreeByKey (first second : List α) : Prop :=
  ∀ key, first.filter (lockKey · = key) = second.filter (lockKey · = key)

theorem keysAscend_iff {items : List α} :
    KeysAscend items ↔ (items.map lockKey).Pairwise fun a b => a.value ≤ b.value := by
  rw [KeysAscend, List.pairwise_map]

theorem KeysAscend.head_le {a b : α} {rest : List α} (h : KeysAscend (a :: rest))
    (hb : b ∈ a :: rest) : (lockKey a).value ≤ (lockKey b).value := by
  rcases List.mem_cons.mp hb with rfl | hb
  · exact Int64.le_refl _
  · exact List.rel_of_pairwise_cons h hb

namespace AgreeByKey

variable {a b : α} {first second third rest rest' : List α}

theorem symm (h : AgreeByKey first second) : AgreeByKey second first := fun key => (h key).symm

theorem trans (h : AgreeByKey first second) (h' : AgreeByKey second third) :
    AgreeByKey first third := fun key => (h key).trans (h' key)

theorem mem (h : AgreeByKey first second) (ha : a ∈ first) : a ∈ second := by
  have here : a ∈ first.filter (lockKey · = lockKey a) := List.mem_filter.mpr ⟨ha, by simp⟩
  rw [h] at here
  exact (List.mem_filter.mp here).1

/-- What comes first comes first among the things of its key. -/
theorem head (h : AgreeByKey (a :: rest) (b :: rest')) (key : lockKey a = lockKey b) : a = b := by
  have heads := h (lockKey a)
  rw [List.filter_cons_of_pos (by simp), List.filter_cons_of_pos (by simp [key])] at heads
  exact List.head_eq_of_cons_eq heads

theorem tail (h : AgreeByKey (a :: rest) (a :: rest')) : AgreeByKey rest rest' := by
  intro key
  have same := h key
  by_cases here : lockKey a = key
  · rw [List.filter_cons_of_pos (by simp [here]), List.filter_cons_of_pos (by simp [here])] at same
    exact List.tail_eq_of_cons_eq same
  · rwa [List.filter_cons_of_neg (by simp [here]), List.filter_cons_of_neg (by simp [here])]
      at same

/-- Things with ascending keys are known from what there is of each key. -/
theorem eq_of_ascending (h : AgreeByKey first second) (ascend : KeysAscend first)
    (ascend' : KeysAscend second) : first = second := by
  induction first generalizing second with
  | nil =>
    cases second with
    | nil => rfl
    | cons b rest' => exact nomatch h.symm.mem List.mem_cons_self
  | cons a rest ih =>
    cases second with
    | nil => exact nomatch h.mem List.mem_cons_self
    | cons b rest' =>
      -- Both heads have the lowest key there is.
      have less := ascend.head_le (h.symm.mem List.mem_cons_self)
      have more := ascend'.head_le (h.mem List.mem_cons_self)
      obtain rfl := h.head (congrArg Id.mk (Int64.le_antisymm less more))
      exact congrArg _ (ih h.tail ascend.of_cons ascend'.of_cons)

end AgreeByKey

-- ---------------------------------------------------------------------------
-- Lock order
-- ---------------------------------------------------------------------------

/-- The result has the same things, with ascending keys, and those of each key in the order in
which they were given. -/
structure InLockOrder (items result : List α) : Prop where
  perm : result.Perm items
  ascending : KeysAscend result
  stable : AgreeByKey result items

namespace InLockOrder

variable {items result items' result' : List α}

theorem unique (h : InLockOrder items result) (h' : InLockOrder items result') :
    result = result' :=
  (h.stable.trans h'.stable.symm).eq_of_ascending h.ascending h'.ascending

/-- The keys come in the same order, in whatever order the things were given. -/
theorem keys_eq (h : InLockOrder items result) (h' : InLockOrder items' result')
    (same : items.Perm items') : result.map lockKey = result'.map lockKey := by
  have perm : (result.map lockKey).Perm (result'.map lockKey) :=
    ((h.perm.trans same).trans h'.perm.symm).map _
  refine perm.eq_of_pairwise (fun a b _ _ less more => ?_)
    (keysAscend_iff.mp h.ascending) (keysAscend_iff.mp h'.ascending)
  exact congrArg Id.mk (Int64.le_antisymm less more)

end InLockOrder

-- ---------------------------------------------------------------------------
-- Any number of things
-- ---------------------------------------------------------------------------

theorem lockKey_le_trans (a b c : α) (ab : decide ((lockKey a).value ≤ (lockKey b).value))
    (bc : decide ((lockKey b).value ≤ (lockKey c).value)) :
    decide ((lockKey a).value ≤ (lockKey c).value) :=
  decide_eq_true (Int64.le_trans (of_decide_eq_true ab) (of_decide_eq_true bc))

theorem lockKey_le_total (a b : α) :
    decide ((lockKey a).value ≤ (lockKey b).value) ||
      decide ((lockKey b).value ≤ (lockKey a).value) := by
  simpa using Int64.le_total (lockKey a).value (lockKey b).value

theorem lockOrdered_perm (items : List α) : (lockOrdered items).Perm items :=
  List.mergeSort_perm ..

theorem lockOrdered_ascending (items : List α) : KeysAscend (lockOrdered items) :=
  (List.pairwise_mergeSort lockKey_le_trans lockKey_le_total items).imp of_decide_eq_true

/-- Things of the same key are in order already, and sorting leaves them so. -/
theorem lockOrdered_stable (items : List α) : AgreeByKey (lockOrdered items) items := by
  intro key
  have alike : ∀ a ∈ items.filter (lockKey · = key), lockKey a = key := fun a ha => by
    simpa using (List.mem_filter.mp ha).2
  have kept : (items.filter (lockKey · = key)).Sublist (lockOrdered items) := by
    refine List.sublist_mergeSort lockKey_le_trans lockKey_le_total ?_ List.filter_sublist
    refine List.pairwise_of_forall_mem_list fun a ha b hb => ?_
    rw [alike a ha, alike b hb]
    exact decide_eq_true (Int64.le_refl _)
  have among := kept.filter (lockKey · = key)
  simp only [List.filter_filter, Bool.and_self] at among
  exact (among.eq_of_length ((lockOrdered_perm items).filter _).length_eq.symm).symm

theorem lockOrdered_inLockOrder (items : List α) : InLockOrder items (lockOrdered items) :=
  ⟨lockOrdered_perm items, lockOrdered_ascending items, lockOrdered_stable items⟩

-- ---------------------------------------------------------------------------
-- Two things
-- ---------------------------------------------------------------------------

namespace OrderedPair

theorem inLockOrder (a b : α) : InLockOrder [a, b] (ofPair a b).toList := by
  unfold ofPair
  split
  case isTrue less =>
    refine ⟨.swap .., List.pairwise_pair.mpr (Int64.le_of_lt less), fun key => ?_⟩
    -- The keys differ, so that each is the key of one of the two at most.
    by_cases ha : lockKey a = key
    · have hb : lockKey b ≠ key := fun hb => Int64.lt_irrefl (ha ▸ hb ▸ less)
      simp [toList, ha, hb]
    · simp [toList, List.filter_cons, ha]
  case isFalse notLess =>
    exact ⟨.refl _, List.pairwise_pair.mpr (Int64.not_lt.mp notLess), fun _ => rfl⟩

theorem restore_map {β : Type} (f : α → β) (a b : α) :
    (ofPair a b).restore (f (ofPair a b).first) (f (ofPair a b).second) = (f a, f b) := by
  unfold ofPair
  split <;> rfl

end OrderedPair

/-- Lock order is what its three properties say, for any number of things. Two things are arranged
in the same way by their pair, which turns results around again if it has turned the things. -/
theorem lockOrdered_iff :
    (∀ items result : List α, lockOrdered items = result ↔ InLockOrder items result) ∧
    ∀ a b : α, let pair := OrderedPair.ofPair a b
      pair.toList = lockOrdered [a, b] ∧
      pair.toList.map lockKey = (OrderedPair.ofPair b a).toList.map lockKey ∧
      ∀ {β : Type} (f : α → β), pair.restore (f pair.first) (f pair.second) = (f a, f b) := by
  refine ⟨fun items result => ⟨?_, ?_⟩, fun a b => ?_⟩
  · rintro rfl
    exact lockOrdered_inLockOrder items
  · exact (lockOrdered_inLockOrder items).unique
  · intro pair
    have arranged : InLockOrder [a, b] pair.toList := OrderedPair.inLockOrder a b
    refine ⟨arranged.unique (lockOrdered_inLockOrder _), ?_, fun f => OrderedPair.restore_map f a b⟩
    exact arranged.keys_eq (OrderedPair.inLockOrder b a) (.swap ..)

example : lockOrdered [(⟨⟨4⟩, -5⟩ : BalanceAdjustment), ⟨⟨2⟩, 1⟩, ⟨⟨4⟩, 5⟩] =
    [⟨⟨2⟩, 1⟩, ⟨⟨4⟩, -5⟩, ⟨⟨4⟩, 5⟩] := by cbv

end Passbook
