import Passbook.Proofs.AllOrNothing
import Passbook.Work.Workflow

/-!
# The steps of a transfer

What the unit of work of a transfer asks for: first the record of the transfer, then the entries,
then the changes of the balances. The amount is only negated once the store has let the transfer
pass, so that the negation is exact (`transferSteps_asks`). A transfer that succeeds has done just
these five queries, the balances in lock order (`transferSteps_runs`).
-/

namespace Passbook

/-- Every amount but the least has a negation. -/
theorem neg_toInt_of_lt {amount : Int64} (h : Int64.minValue < amount) :
    (-amount).toInt = -amount.toInt := by
  have low : Int64.minValue.toInt < amount.toInt := Int64.lt_iff_toInt_lt.mp h
  have high := amount.toInt_lt
  rw [Int64.toInt_minValue] at low
  rw [Int64.toInt_neg]
  exact Int.bmod_eq_of_le (by omega) (by omega)

theorem neg_toInt {amount : Int64} (h : ¬amount ≤ 0) : (-amount).toInt = -amount.toInt :=
  neg_toInt_of_lt (Int64.lt_of_le_of_lt (Int64.minValue_le 0) (Int64.not_le.mp h))

-- ---------------------------------------------------------------------------
-- What a dialogue asks for
-- ---------------------------------------------------------------------------

/-- All that the dialogue asks for is so, as long as the replies are possible. -/
def Dialogue.Asks {Op : Type} {Reply : Op → Type} {α : Type} (possible : Step Reply → Prop)
    (wanted : Op → Prop) : Dialogue Reply α → Prop
  | .done _ => True
  | .ask op next => wanted op ∧ ∀ reply, possible ⟨op, reply⟩ → (next reply).Asks possible wanted

theorem Dialogue.Asks.trace {Op : Type} {Reply : Op → Type} {α : Type}
    {possible : Step Reply → Prop} {wanted : Op → Prop} {d rest : Dialogue Reply α}
    {steps : List (Step Reply)} (h : d.Asks possible wanted) (trace : d.Trace steps rest)
    (replies : ∀ s ∈ steps, possible s) : ∀ s ∈ steps, wanted s.1 := by
  induction trace with
  | nil => exact fun _ hs => (nomatch hs)
  | cons _ ih =>
    intro s hs
    rcases List.mem_cons.mp hs with rfl | hs
    · exact h.1
    · exact ih (h.2 _ (replies _ List.mem_cons_self))
        (fun s hs => replies s (List.mem_cons_of_mem _ hs)) s hs

-- ---------------------------------------------------------------------------
-- Transfers
-- ---------------------------------------------------------------------------

namespace NewTransfer

/-- The transfer changes an account by an amount, in whole numbers. -/
def Moves (t : NewTransfer) (id : AccountId) (amount : Int) : Prop :=
  id = t.fromAccountId ∧ amount = -t.amount.toInt ∨ id = t.toAccountId ∧ amount = t.amount.toInt

/-- What the unit of work of a transfer asks for. -/
def Wants (t : NewTransfer) : Request → Prop
  | .query (.createTransfer t') => t' = t
  | .query (.createEntry entry) => t.Moves entry.accountId entry.amount.toInt
  | .query (.adjustBalance a) => t.Moves a.accountId a.delta.toInt
  | _ => False

def changes (t : NewTransfer) : OrderedPair BalanceAdjustment :=
  .ofPair ⟨t.fromAccountId, -t.amount⟩ ⟨t.toAccountId, t.amount⟩

theorem changes_eq (t : NewTransfer) :
    t.changes = ⟨⟨t.fromAccountId, -t.amount⟩, ⟨t.toAccountId, t.amount⟩, false⟩ ∨
      t.changes = ⟨⟨t.toAccountId, t.amount⟩, ⟨t.fromAccountId, -t.amount⟩, true⟩ := by
  unfold changes OrderedPair.ofPair
  split
  · exact .inr rfl
  · exact .inl rfl

/-- The queries of a transfer that succeeds. -/
def queries (t : NewTransfer) : List Query :=
  [.createTransfer t, .createEntry ⟨t.fromAccountId, -t.amount⟩,
    .createEntry ⟨t.toAccountId, t.amount⟩, .adjustBalance t.changes.first,
    .adjustBalance t.changes.second]

/-- The two changes of balances, the one of the lower account first and else the debit. -/
def ordered (t : NewTransfer) : BalanceAdjustment × BalanceAdjustment :=
  if t.toAccountId.value < t.fromAccountId.value then
    (⟨t.toAccountId, t.amount⟩, ⟨t.fromAccountId, -t.amount⟩)
  else (⟨t.fromAccountId, -t.amount⟩, ⟨t.toAccountId, t.amount⟩)

/-- What is answered for the rows that the queries have answered. -/
def posting (t : NewTransfer) (transfer : Transfer) (debit credit : Entry)
    (first second : Account) : Posting :=
  if first.id = second.id then ⟨transfer, debit, credit, second, second⟩
  else if t.toAccountId.value < t.fromAccountId.value then ⟨transfer, debit, credit, second, first⟩
  else ⟨transfer, debit, credit, first, second⟩

def statements (t : NewTransfer) : List Query :=
  [.createTransfer t, .createEntry ⟨t.fromAccountId, -t.amount⟩,
    .createEntry ⟨t.toAccountId, t.amount⟩, .adjustBalance t.ordered.1, .adjustBalance t.ordered.2]

theorem changes_of (t : NewTransfer) :
    t.changes = if t.toAccountId.value < t.fromAccountId.value then
        ⟨⟨t.toAccountId, t.amount⟩, ⟨t.fromAccountId, -t.amount⟩, true⟩
      else ⟨⟨t.fromAccountId, -t.amount⟩, ⟨t.toAccountId, t.amount⟩, false⟩ := rfl

theorem ordered_eq (t : NewTransfer) : t.ordered = (t.changes.first, t.changes.second) := by
  rw [ordered, changes_of]
  split <;> rfl

theorem restore_eq (t : NewTransfer) (transfer : Transfer) (debit credit : Entry)
    {first second : Account} (apart : first.id ≠ second.id) :
    t.posting transfer debit credit first second =
      ⟨transfer, debit, credit, (t.changes.restore first second).1,
        (t.changes.restore first second).2⟩ := by
  rw [posting, if_neg apart, changes_of]
  split <;> rfl

theorem queries_eq (t : NewTransfer) : t.queries = t.statements := by
  rw [statements, ordered_eq]
  rfl

end NewTransfer

open Store Work Dialogue Trace

-- ---------------------------------------------------------------------------
-- Queries in a row
-- ---------------------------------------------------------------------------

/-- Work that starts with a query asks for it, and then for what its row leads to. -/
theorem query_asks {α : Type} {possible : Request.Step → Prop} {wanted : Request → Prop} {q : Query}
    {next : q.Row → Work α} (first : wanted (.query q))
    (rest : ∀ row, possible ⟨.query q, .ok row⟩ → (next row).run.Asks possible wanted) :
    (query q >>= next).run.Asks possible wanted := by
  refine ⟨first, fun reply h => ?_⟩
  cases reply with
  | error e => trivial
  | ok row => exact rest row h

theorem query_runs {α : Type} {q : Query} {next : q.Row → Work α} {inner : List Request.Step}
    {a : α} : (query q >>= next).run.Runs inner (.ok a) ↔
      ∃ row rest, inner = ⟨.query q, .ok row⟩ :: rest ∧ (next row).run.Runs rest (.ok a) := by
  constructor
  · intro h
    obtain ⟨reply, rest, rfl, hrest⟩ := ask_runs.mp h
    cases reply with
    | error e =>
      obtain ⟨-, ha⟩ := done_iff.mp hrest
      cases ha
    | ok row => exact ⟨row, rest, rfl, hrest⟩
  · rintro ⟨row, rest, rfl, h⟩
    exact .cons h

-- ---------------------------------------------------------------------------
-- The steps
-- ---------------------------------------------------------------------------

/-- A transfer is five queries in a row. -/
theorem transferSteps_eq (t : NewTransfer) : transferSteps t = (do
    let transfer ← query (.createTransfer t)
    let debit ← query (.createEntry ⟨t.fromAccountId, -t.amount⟩)
    let credit ← query (.createEntry ⟨t.toAccountId, t.amount⟩)
    let first ← query (.adjustBalance t.ordered.1)
    let second ← query (.adjustBalance t.ordered.2)
    return t.posting transfer debit credit first second) := by
  rw [t.ordered_eq]
  refine bind_congr fun transfer => bind_congr fun debit => bind_congr fun credit => ?_
  rw [adjustInOrder, bind_assoc]
  refine bind_congr fun first => ?_
  rw [bind_assoc]
  refine bind_congr fun second => ?_
  by_cases same : first.id = second.id
  · simp only [if_pos same, pure_bind, NewTransfer.posting]
  · simp only [if_neg same, pure_bind, t.restore_eq transfer debit credit same]
    rfl

/-- The amounts that a transfer asks for are exact. -/
theorem transferSteps_asks (t : NewTransfer) :
    (transferSteps t).run.Asks (fun s => Possible (.inside s)) t.Wants := by
  rw [transferSteps_eq]
  refine query_asks rfl fun transfer possible => ?_
  obtain ⟨v, number, change, did⟩ := possible
  have positive : ¬t.amount ≤ 0 := by
    cases did with
    | createTransfer positive => exact positive
    | read reads => exact nomatch reads
  have neg := neg_toInt positive
  have moves : t.Moves t.ordered.1.accountId t.ordered.1.delta.toInt ∧
      t.Moves t.ordered.2.accountId t.ordered.2.delta.toInt := by
    unfold NewTransfer.ordered
    split
    · exact ⟨.inr ⟨rfl, rfl⟩, .inl ⟨rfl, neg⟩⟩
    · exact ⟨.inl ⟨rfl, neg⟩, .inr ⟨rfl, rfl⟩⟩
  refine query_asks (.inl ⟨rfl, neg⟩) fun debit _ => ?_
  refine query_asks (.inr ⟨rfl, rfl⟩) fun credit _ => ?_
  refine query_asks moves.1 fun first _ => ?_
  exact query_asks moves.2 fun second _ => trivial

/-- A transfer that succeeds has had all its queries answered. -/
theorem transferSteps_ok_iff (t : NewTransfer) {inner : List Request.Step} {posting : Posting} :
    (transferSteps t).run.Runs inner (.ok posting) ↔ ∃ transfer debit credit first second,
      inner = [⟨.query (.createTransfer t), .ok transfer⟩,
        ⟨.query (.createEntry ⟨t.fromAccountId, -t.amount⟩), .ok debit⟩,
        ⟨.query (.createEntry ⟨t.toAccountId, t.amount⟩), .ok credit⟩,
        ⟨.query (.adjustBalance t.ordered.1), .ok first⟩,
        ⟨.query (.adjustBalance t.ordered.2), .ok second⟩] ∧
      posting = t.posting transfer debit credit first second := by
  rw [transferSteps_eq]
  constructor
  · intro runs
    obtain ⟨transfer, _, rfl, recorded⟩ := query_runs.mp runs
    obtain ⟨debit, _, rfl, debited⟩ := query_runs.mp recorded
    obtain ⟨credit, _, rfl, credited⟩ := query_runs.mp debited
    obtain ⟨first, _, rfl, moving⟩ := query_runs.mp credited
    obtain ⟨second, _, rfl, moved⟩ := query_runs.mp moving
    obtain ⟨rfl, result⟩ := done_iff.mp moved
    cases result
    exact ⟨transfer, debit, credit, first, second, rfl, rfl⟩
  · rintro ⟨transfer, debit, credit, first, second, rfl, rfl⟩
    exact query_runs.mpr ⟨transfer, _, rfl, query_runs.mpr ⟨debit, _, rfl, query_runs.mpr
      ⟨credit, _, rfl, query_runs.mpr ⟨first, _, rfl, query_runs.mpr ⟨second, _, rfl, .nil⟩⟩⟩⟩⟩

/-- A transfer that succeeds has done its queries, one after the other. -/
theorem transferSteps_runs {t : NewTransfer} {inner : List Request.Step} {posting : Posting}
    (runs : (transferSteps t).run.Runs inner (.ok posting)) :
    (successes inner).map (·.1) = t.queries := by
  obtain ⟨transfer, debit, credit, first, second, rfl, -⟩ := (transferSteps_ok_iff t).mp runs
  rw [t.queries_eq]
  rfl

end Passbook
