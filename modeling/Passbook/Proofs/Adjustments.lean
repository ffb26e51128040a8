import Passbook.Proofs.AmongOthers
import Passbook.Work.Workflow

/-!
# Adjustments in lock order

Two balances are changed in lock order, whichever change is given first. This makes no difference:
changes of one account keep their order, and changes of two accounts have nothing to do with each
other (`View.adjustTwice_swap`). So a transaction comes to the same by `adjustInOrder` as by the
changes in their given order, as long as it need not wait for a lock (`adjustInOrder_refines`).
-/

namespace Passbook

open Store Work Dialogue

-- ---------------------------------------------------------------------------
-- Changes of balances
-- ---------------------------------------------------------------------------

namespace Store

namespace View

variable {v : View} {a b : BalanceAdjustment} {row x y : Account}

/-- The row that a change of its balance comes to. -/
def adjusted (v : View) (a : BalanceAdjustment) : Except Error Account := do
  let account ← v.requireAccount a.accountId
  return { account with balance := ← account.balanceAfter a.delta }

/-- The rows that one change after the other comes to. -/
def adjustTwice (v : View) (a b : BalanceAdjustment) : Except Error (Account × Account) := do
  let first ← v.adjusted a
  let second ← (v.wrote first).adjusted b
  return (first, second)

theorem adjusted_ok : v.adjusted a = .ok row ↔ ∃ old next, v.account? a.accountId = some old ∧
    old.balanceAfter a.delta = .ok next ∧ row = { old with balance := next } := by
  simp only [adjusted, requireAccount, bind_ok, require_ok, pure_ok]
  constructor
  · rintro ⟨old, found, next, fits, rfl⟩
    exact ⟨old, next, found, fits, rfl⟩
  · rintro ⟨old, next, found, fits, rfl⟩
    exact ⟨old, found, next, fits, rfl⟩

theorem adjustTwice_ok : v.adjustTwice a b = .ok (x, y) ↔
    v.adjusted a = .ok x ∧ (v.wrote x).adjusted b = .ok y := by
  simp only [adjustTwice, bind_ok, pure_ok, Prod.mk.injEq]
  constructor
  · rintro ⟨_, first, _, second, rfl, rfl⟩
    exact ⟨first, second⟩
  · rintro ⟨first, second⟩
    exact ⟨x, first, y, second, rfl, rfl⟩

theorem adjusted_id (keyed : v.Keyed) (h : v.adjusted a = .ok row) : row.id = a.accountId := by
  obtain ⟨old, next, found, -, rfl⟩ := adjusted_ok.mp h
  have id : old.id = a.accountId := keyed.account found
  exact id

theorem adjusted_live (h : v.adjusted a = .ok row) : a.accountId ∉ v.own.deleted := by
  obtain ⟨old, next, found, -, -⟩ := adjusted_ok.mp h
  exact (account?_eq_some.mp found).1

theorem adjusted_wrote (apart : a.accountId ≠ row.id) :
    (v.wrote row).adjusted a = v.adjusted a := by
  rw [adjusted, adjusted, requireAccount, requireAccount, wrote_other apart]

theorem adjustTwice_ids (keyed : v.Keyed) (h : v.adjustTwice a b = .ok (x, y)) :
    x.id = a.accountId ∧ y.id = b.accountId := by
  obtain ⟨first, second⟩ := adjustTwice_ok.mp h
  exact ⟨adjusted_id keyed first, adjusted_id (keyed.wrote x) second⟩

/-- The row of the second change is seen afterwards. -/
theorem adjustTwice_second (keyed : v.Keyed) (h : v.adjustTwice a b = .ok (x, y)) :
    ((v.wrote x).wrote y).account? b.accountId = some y := by
  have live := adjusted_live (adjustTwice_ok.mp h).2
  obtain ⟨-, id⟩ := adjustTwice_ids keyed h
  rw [← id] at live ⊢
  exact wrote_self live

/-- So is the row of the first change, unless the second one was of the same account. -/
theorem adjustTwice_first (keyed : v.Keyed) (apart : a.accountId ≠ b.accountId)
    (h : v.adjustTwice a b = .ok (x, y)) :
    ((v.wrote x).wrote y).account? a.accountId = some x := by
  have live := adjusted_live (adjustTwice_ok.mp h).1
  obtain ⟨id, id'⟩ := adjustTwice_ids keyed h
  rw [wrote_other (id' ▸ apart)]
  rw [← id] at live ⊢
  exact wrote_self live

/-- Changes of two accounts come to the same rows in either order. -/
theorem adjustTwice_swap (keyed : v.Keyed) (apart : a.accountId ≠ b.accountId)
    (h : v.adjustTwice a b = .ok (x, y)) : v.adjustTwice b a = .ok (y, x) := by
  obtain ⟨first, second⟩ := adjustTwice_ok.mp h
  have here := adjusted_id keyed first
  rw [adjusted_wrote (here ▸ apart.symm)] at second
  refine adjustTwice_ok.mpr ⟨second, ?_⟩
  rw [adjusted_wrote (adjusted_id keyed second ▸ apart)]
  exact first

end View

/-- Rows of two accounts can be written in either order. -/
theorem Transaction.apply_swap (own : Transaction) {x y : Account} (apart : x.id ≠ y.id) :
    (own.apply (.account x)).apply (.account y) = (own.apply (.account y)).apply (.account x) := by
  have same : (own.written.accounts.insert x.id x).insert y.id y =
      (own.written.accounts.insert y.id y).insert x.id x := by
    refine Table.ext_get? fun id => ?_
    rw [Table.get?_insert, Table.get?_insert, Table.get?_insert, Table.get?_insert]
    by_cases here : id = y.id
    · rw [if_pos here, if_neg (here ▸ apart.symm), if_pos here]
    · rw [if_neg here, if_neg here]
  simp only [apply, same]

end Store

-- ---------------------------------------------------------------------------
-- Both orders
-- ---------------------------------------------------------------------------

/-- The answers to two changes that were made in lock order. -/
def OrderedPair.answers (pair : OrderedPair BalanceAdjustment) (first second : Account) :
    Account × Account :=
  if first.id = second.id then (second, second) else pair.restore first second

/-- Two changes of balances, one after the other. -/
def Work.adjustBoth (a b : BalanceAdjustment) (answer : Account → Account → α) : Work α := do
  let first ← query (.adjustBalance a)
  let second ← query (.adjustBalance b)
  return answer first second

theorem adjustInOrder_eq (a b : BalanceAdjustment) : adjustInOrder a b =
    let pair := OrderedPair.ofPair a b
    adjustBoth pair.first pair.second pair.answers := by
  refine bind_congr fun first => bind_congr fun second => ?_
  unfold OrderedPair.answers
  split <;> rfl

/-- Two changes of balances, in the order in which they are given. -/
def Work.adjustInTurn (a b : BalanceAdjustment) : Work (Account × Account) := do
  let first ← query (.adjustBalance a)
  let second ← query (.adjustBalance b)
  return (first, second)

theorem adjustInTurn_eq (a b : BalanceAdjustment) : adjustInTurn a b = adjustBoth a b Prod.mk := rfl

/-- The rows are those of the two accounts, as they are seen. -/
def Store.View.ShowsBoth (v : View) (a b : BalanceAdjustment) (rows : Account × Account) : Prop :=
  (rows.1.id = a.accountId ∧ v.account? a.accountId = some rows.1) ∧
    rows.2.id = b.accountId ∧ v.account? b.accountId = some rows.2

section

variable {v : View} {a b : BalanceAdjustment} {first second x y : Account}

/-- The changes go through in lock order exactly if they do in the given order. -/
theorem adjustTwice_ordered (keyed : v.Keyed) :
    let pair := OrderedPair.ofPair a b
    (∃ rows, v.adjustTwice pair.first pair.second = .ok rows) ↔
      ∃ rows, v.adjustTwice a b = .ok rows := by
  intro pair
  by_cases swapped : b.accountId.value < a.accountId.value
  · have swap : pair = ⟨b, a, true⟩ := if_pos swapped
    have apart : b.accountId ≠ a.accountId := fun same => Int64.lt_irrefl (same ▸ swapped)
    rw [swap]
    constructor
    · rintro ⟨rows, h⟩
      exact ⟨_, View.adjustTwice_swap keyed apart h⟩
    · rintro ⟨rows, h⟩
      exact ⟨_, View.adjustTwice_swap keyed apart.symm h⟩
  · have same : pair = ⟨a, b, false⟩ := if_neg swapped
    rw [same]

/-- They then write the same rows, which are those that they answer. -/
theorem adjustTwice_answers (keyed : v.Keyed) (plain : v.adjustTwice a b = .ok (first, second)) :
    let pair := OrderedPair.ofPair a b
    v.adjustTwice pair.first pair.second = .ok (x, y) →
      (v.wrote x).wrote y = (v.wrote first).wrote second ∧
        ((v.wrote first).wrote second).ShowsBoth a b (pair.answers x y) := by
  intro pair ordered
  obtain ⟨first_id, second_id⟩ := View.adjustTwice_ids keyed plain
  have seen := View.adjustTwice_second keyed plain
  by_cases same : a.accountId = b.accountId
  · -- Both changes are of one account, whose last row is answered twice.
    have level : ¬b.accountId.value < a.accountId.value := same ▸ Int64.lt_irrefl
    have order : pair = ⟨a, b, false⟩ := if_neg level
    rw [order] at ordered ⊢
    obtain ⟨rfl, rfl⟩ := Prod.mk.inj (Except.ok.inj (ordered.symm.trans plain))
    rw [OrderedPair.answers, if_pos (first_id.trans (same.trans second_id.symm))]
    exact ⟨rfl, ⟨second_id.trans same.symm, same ▸ seen⟩, second_id, seen⟩
  · have seen' := View.adjustTwice_first keyed same plain
    by_cases swapped : b.accountId.value < a.accountId.value
    · have order : pair = ⟨b, a, true⟩ := if_pos swapped
      rw [order] at ordered ⊢
      have swap := View.adjustTwice_swap keyed same plain
      obtain ⟨rfl, rfl⟩ := Prod.mk.inj (Except.ok.inj (ordered.symm.trans swap))
      have apart : x.id ≠ y.id := by
        rw [first_id, second_id]
        exact Ne.symm same
      rw [OrderedPair.answers, if_neg apart]
      refine ⟨?_, ⟨first_id, seen'⟩, second_id, seen⟩
      exact congrArg (fun own => { v with own }) (v.own.apply_swap apart)
    · have order : pair = ⟨a, b, false⟩ := if_neg swapped
      rw [order] at ordered ⊢
      obtain ⟨rfl, rfl⟩ := Prod.mk.inj (Except.ok.inj (ordered.symm.trans plain))
      have apart : x.id ≠ y.id := by rwa [first_id, second_id]
      rw [OrderedPair.answers, if_neg apart]
      exact ⟨rfl, ⟨first_id, seen'⟩, second_id, seen⟩

end

-- ---------------------------------------------------------------------------
-- Queries
-- ---------------------------------------------------------------------------

namespace Store

variable {rows : Tables} {taken : RowKey → Bool} {faults : Faults}
  {queue : List Ticket} {own : Transaction} {s : Store}

theorem Plan.Comes.adjustBalance {a : BalanceAdjustment}
    (free : taken (.account a.accountId) = false) :
    (Query.adjustBalance a).plan.Comes rows taken own
      (fun e => (View.mk rows own default).adjusted a = .error e)
      fun row change => change = .account row ∧
        (View.mk rows own default).adjusted a = .ok row :=
  ⟨free, .write (fun _ _ refused => refused) fun _ _ wrote => ⟨rfl, wrote⟩⟩

/-- Two changes of balances come to what they come to in the view of their transaction. -/
theorem Attends.adjustTwice {a b : BalanceAdjustment} {answer : Account → Account → α}
    {target : List Request.Step → Store → Process β → Prop} {log : List Request.Step}
    {next : Except Error α → Program β} (amid : Amid tx rows taken faults queue own s)
    (free : taken (.account a.accountId) = false) (free' : taken (.account b.accountId) = false)
    (refused : ∀ {e own' s'}, (View.mk rows own default).adjustTwice a b = .error e →
      Amid tx rows taken faults queue own' s' →
        Attends target log s' ⟨some tx, .ready (next (.error e))⟩)
    (did : ∀ {x y s'}, (View.mk rows own default).adjustTwice a b = .ok (x, y) →
      Amid tx rows taken faults queue ((own.apply (.account x)).apply (.account y)) s' →
        Attends target log s' ⟨some tx, .ready (next (.ok (answer x y)))⟩) :
    Attends target log s ⟨some tx, .ready ((adjustBoth a b answer).within.andThen next)⟩ := by
  refine .query (.adjustBalance free) amid (fun {e s'} failed amid => ?_) ?_
  · refine refused ?_ amid
    rw [View.adjustTwice, failed]
    rfl
  rintro x _ s' ⟨rfl, first⟩ amid
  refine .query (.adjustBalance free') amid (fun {e s'} failed amid => ?_) ?_
  · have failed : ((View.mk rows own default).wrote x).adjusted b = .error e := failed
    refine refused ?_ amid
    simp only [View.adjustTwice, first, failed, bind, Except.bind]
  rintro y _ s' ⟨rfl, second⟩ amid
  exact did (View.adjustTwice_ok.mpr ⟨first, second⟩) amid

namespace System

variable {Name : Type} [DecidableEq Name] {Result : Name → Type}

/-- The system once a task goes on with another program in an open transaction. -/
def resuming (sys : System Result) (name : Name) (tx : TxId) (program : Program (Result name)) :
    System Result :=
  { sys with tasks := Function.update sys.tasks name (some (.start (some tx) program)) }

theorem resuming_task (sys : System Result) (name : Name) (tx : TxId)
    (program : Program (Result name)) :
    (sys.resuming name tx program).tasks name = some (.start (some tx) program) :=
  Function.update_self ..

/-- Whatever a task goes on with, its own moves bring the work to this outcome and to a store that
is so. -/
def ComesTo (sys : System Result) (name : Name) (tx : TxId) (work : Work α)
    (outcome : Except Error α) (reached : Store → Prop) : Prop :=
  ∀ (next : Except Error α → Program (Result name)) (around : Nat → Instant × Except String Unit),
    let before := sys.resuming name tx (work.within.andThen next)
    ∃ count, let after := before.run (attended name around count before)
      after.tasks name = some (.start (some tx) (next outcome)) ∧ reached after.store

theorem ComesTo.mono {sys : System Result} {name : Name} {work : Work α}
    {outcome : Except Error α} {reached reached' : Store → Prop}
    (h : sys.ComesTo name tx work outcome reached) (more : ∀ s, reached s → reached' s) :
    sys.ComesTo name tx work outcome reached' := by
  intro next around
  obtain ⟨count, there, so⟩ := h next around
  exact ⟨count, there, more _ so⟩

theorem comesTo_adjustBoth {sys : System Result} (name : Name) {a b : BalanceAdjustment}
    (answer : Account → Account → α) (amid : Amid tx rows taken faults queue own sys.store)
    (free : taken (.account a.accountId) = false) (free' : taken (.account b.accountId) = false)
    (result : Except Error (Account × Account))
    (comes : (View.mk rows own default).adjustTwice a b = result) :
    sys.ComesTo name tx (adjustBoth a b answer) (result.map fun rows => answer rows.1 rows.2)
      fun s => ∀ x y, result = .ok (x, y) →
        Amid tx rows taken faults queue ((own.apply (.account x)).apply (.account y)) s := by
  subst comes
  intro next around before
  let view := View.mk rows own default
  let target : List Request.Step → Store → Process (Result name) → Prop := fun _ s p =>
    p = .start (some tx) (next ((view.adjustTwice a b).map fun rows => answer rows.1 rows.2)) ∧
      ∀ x y, view.adjustTwice a b = .ok (x, y) →
        Amid tx rows taken faults queue ((own.apply (.account x)).apply (.account y)) s
  have course : Attends target [] before.store
      (.start (some tx) ((adjustBoth a b answer).within.andThen next)) := by
    refine .adjustTwice amid free free' (fun refused _ => .here ?_) fun did amid => .here ?_
    · refine ⟨by rw [refused]; rfl, fun x y did => ?_⟩
      exact nomatch refused.symm.trans did
    · refine ⟨by rw [did]; rfl, fun x y same => ?_⟩
      obtain ⟨rfl, rfl⟩ := Prod.mk.inj (Except.ok.inj (did.symm.trans same))
      exact amid
  obtain ⟨count, p, there, rfl, reached⟩ := course.run before (resuming_task ..) around
  exact ⟨count, there, reached⟩

/-- Two changes of balances in an open transaction, with the locks of both accounts free or its
own: those in lock order succeed exactly if those in the given order do. Both then write the same,
and what the former answer are the rows of the two accounts in their given order. -/
theorem adjustInOrder_refines (a b : BalanceAdjustment) (name : Name) (tx : TxId)
    (connections : Nat) (programs : (name : Name) → Program (Result name))
    (happenings : List (Happening Name)) :
    let sys := (start connections programs).run happenings
    sys.store.isOpen tx →
    (∀ key ∈ [RowKey.account a.accountId, .account b.accountId],
      sys.store.holder? key = none ∨ sys.store.Holds tx key) →
    ∃ (ordered plain : Except Error (Account × Account)) (staged : Transaction),
      ((∃ rows, ordered = .ok rows) ↔ ∃ rows, plain = .ok rows) ∧
      sys.ComesTo name tx (adjustInOrder a b) ordered (fun s => ∀ rows, ordered = .ok rows →
        s.transaction? tx = some staged ∧ ∀ now, (s.view tx now).ShowsBoth a b rows) ∧
      sys.ComesTo name tx (adjustInTurn a b) plain fun s => ∀ rows, plain = .ok rows →
        s.transaction? tx = some staged := by
  intro sys opened free
  obtain ⟨own, opened⟩ := Option.isSome_iff_exists.mp opened
  have amid := (ordered_run connections programs happenings).amid opened
  have guarded : sys.Guarded := guarded_run connections programs happenings
  let view := View.mk sys.store.committed own default
  have keyed : view.Keyed := by
    have keyed := guarded.store.keyed tx default
    rwa [amid.view] at keyed
  let pair := OrderedPair.ofPair a b
  have free : ∀ adjustment ∈ [a, b],
      sys.store.takenBeside tx (.account adjustment.accountId) = false := by
    intro adjustment here
    refine (amid.available_iff _).mpr (free _ ?_)
    rcases List.mem_pair.mp here with rfl | rfl <;> simp
  have both : pair.first ∈ [a, b] ∧ pair.second ∈ [a, b] := by
    unfold pair OrderedPair.ofPair
    split <;> simp
  have inTurn := comesTo_adjustBoth name Prod.mk amid (free a (by simp)) (free b (by simp))
  have inOrder := comesTo_adjustBoth name pair.answers amid (free _ both.1) (free _ both.2)
  rw [adjustInOrder_eq, adjustInTurn_eq]
  cases plain : view.adjustTwice a b with
  | error e =>
    cases ordered : view.adjustTwice pair.first pair.second with
    | error e' =>
      refine ⟨.error e', .error e, own, iff_of_false ?_ ?_, (inOrder _ ordered).mono ?_,
        (inTurn _ plain).mono ?_⟩
      · rintro ⟨_, ⟨⟩⟩
      · rintro ⟨_, ⟨⟩⟩
      · exact fun _ _ _ no => nomatch no
      · exact fun _ _ _ no => nomatch no
    | ok rows =>
      obtain ⟨rows', again⟩ := (adjustTwice_ordered keyed).mp ⟨rows, ordered⟩
      exact nomatch plain.symm.trans again
  | ok rows =>
    obtain ⟨first, second⟩ := rows
    obtain ⟨⟨x, y⟩, ordered⟩ := (adjustTwice_ordered keyed).mpr ⟨_, plain⟩
    obtain ⟨same, shows⟩ := adjustTwice_answers keyed plain ordered
    refine ⟨.ok (pair.answers x y), .ok (first, second),
      (own.apply (.account first)).apply (.account second), iff_of_true ⟨_, rfl⟩ ⟨_, rfl⟩,
      (inOrder _ ordered).mono ?_, (inTurn _ plain).mono ?_⟩
    · rintro s reached rows ⟨⟩
      have amid := reached x y rfl
      have staged : (own.apply (.account x)).apply (.account y) =
          (own.apply (.account first)).apply (.account second) := congrArg View.own same
      rw [staged] at amid
      refine ⟨amid.own, fun now => ?_⟩
      rw [amid.view]
      exact shows
    · exact fun s reached rows _ => (reached first second rfl).own

/-- Two who open an account, and one who moves money from the second account to the first. -/
inductive Mover
  | alice | bob | mover
  deriving DecidableEq

def Mover.Answer : Mover → Type
  | alice | bob => Except Error Account
  | mover => Except Error (Account × Account)

def Mover.program : (name : Mover) → Program name.Answer
  | alice => Query.run (.createAccount ⟨"alice", 100, .usd⟩)
  | bob => Query.run (.createAccount ⟨"bob", 50, .usd⟩)
  | mover => runInTransaction (adjustInOrder ⟨⟨2⟩, -30⟩ ⟨⟨1⟩, 30⟩)

/-- The debit is given first, although the account of the credit is the lower one. -/
theorem adjustInOrder_refines_upwards :
    let happenings := steps Mover.alice 8 ++ steps .bob 8 ++ steps .mover 1
    let sys := (start 1 Mover.program).run happenings
    (sys.run (steps .mover 12)).store.committed.accounts.values.map (·.balance) = [130, 20] ∧
      ∃ (ordered plain : Except Error (Account × Account)) (staged : Transaction),
        ((∃ rows, ordered = .ok rows) ↔ ∃ rows, plain = .ok rows) ∧
        sys.ComesTo .mover 2 (adjustInOrder ⟨⟨2⟩, -30⟩ ⟨⟨1⟩, 30⟩) ordered (fun s =>
          ∀ rows, ordered = .ok rows → s.transaction? 2 = some staged ∧
            ∀ now, (s.view 2 now).ShowsBoth ⟨⟨2⟩, -30⟩ ⟨⟨1⟩, 30⟩ rows) ∧
        sys.ComesTo .mover 2 (adjustInTurn ⟨⟨2⟩, -30⟩ ⟨⟨1⟩, 30⟩) plain fun s =>
          ∀ rows, plain = .ok rows → s.transaction? 2 = some staged := by
  intro happenings sys
  have unlocked : sys.store.locks = [] := by decide +kernel
  have free : ∀ key, sys.store.holder? key = none := fun key => by
    rw [holder?, unlocked]
    rfl
  exact ⟨by decide +kernel, adjustInOrder_refines ⟨⟨2⟩, -30⟩ ⟨⟨1⟩, 30⟩ .mover 2 1 Mover.program
    happenings (by decide +kernel) fun key _ => .inl (free key)⟩

end System

end Store

end Passbook
