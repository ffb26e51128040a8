import Passbook.Proofs.TransferOutcome

/-!
# The check before a transfer

A caller checks a request against the rows of its two accounts; the workflow finds out the same from
the queries that it makes, in the order of the accounts' numbers. On a store at rest the two agree
(`transferMoney_checked`): a request that passes the check is carried out unless the target has no
room for the amount, and one that is refused fails with an error of the same category.

Where they part is the order of two refusals. The target is credited first if it has the lower
number, and when it has no room for the amount, the workflow says so and never gets to see that the
source has no funds either (`transferMoney_overflows_first`).
-/

namespace Passbook

open Store Work Dialogue

-- ---------------------------------------------------------------------------
-- Refusals of an account
-- ---------------------------------------------------------------------------

def balanceOverflow : Error := .validation "balance overflow"

namespace Account

variable {account : Account} {delta : Int64} {e : Error}

/-- A change is refused because the balance would leave 64 bits, or else because it would be
negative. -/
theorem balanceAfter_refused (h : account.balanceAfter delta = .error e) :
    (¬(Int64.minValue.toInt ≤ account.balance.toInt + delta.toInt ∧
        account.balance.toInt + delta.toInt ≤ Int64.maxValue.toInt) ∧ e = balanceOverflow) ∨
      (account.balance.toInt + delta.toInt < 0 ∧
        e = .insufficientFunds account.id.value delta) := by
  unfold balanceAfter at h
  cases hsum : exactSum? account.balance delta with
  | none =>
    rw [hsum] at h
    refine .inl ⟨fun range => ?_, (Except.error.inj h).symm⟩
    rw [exactSum?, if_pos range] at hsum
    cases hsum
  | some next =>
    rw [hsum] at h
    dsimp only at h
    split at h
    · next negative =>
      refine .inr ⟨?_, (Except.error.inj h).symm⟩
      rw [← exactSum?_toInt hsum]
      exact Int64.lt_iff_toInt_lt.mp negative
    · cases h

/-- Money that is paid in can only be too much. -/
theorem credit_refused (nonneg : 0 ≤ account.balance.toInt) (positive : 0 < delta.toInt)
    (h : account.balanceAfter delta = .error e) :
    Int64.maxValue.toInt < account.balance.toInt + delta.toInt ∧ e = balanceOverflow := by
  have low : Int64.minValue.toInt ≤ 0 := by decide
  rcases balanceAfter_refused h with ⟨out, rfl⟩ | ⟨negative, -⟩
  · exact ⟨by omega, rfl⟩
  · omega

/-- Money that is paid out can only be missing. -/
theorem debit_refused (nonneg : 0 ≤ account.balance.toInt) (positive : 0 < delta.toInt)
    (h : account.balanceAfter (-delta) = .error e) :
    account.balance < delta ∧ e = .insufficientFunds account.id.value (-delta) := by
  have negated : (-delta).toInt = -delta.toInt :=
    neg_toInt (by simpa [Int64.le_iff_toInt_le] using positive)
  have high := account.balance.toInt_le
  have low : Int64.minValue.toInt = -Int64.maxValue.toInt - 1 := by decide
  have delta_le := delta.toInt_le
  rcases balanceAfter_refused h with ⟨out, -⟩ | ⟨negative, rfl⟩
  · omega
  · exact ⟨Int64.lt_iff_toInt_lt.mpr (by omega), rfl⟩

end Account

-- ---------------------------------------------------------------------------
-- Refusals of a transfer
-- ---------------------------------------------------------------------------

namespace NewTransfer

variable (t : NewTransfer)

/-- The target has no room for the amount, which does not come out of its own balance. -/
def Overfills (target : Account) : Prop :=
  t.fromAccountId ≠ t.toAccountId ∧
    Int64.maxValue.toInt < target.balance.toInt + t.amount.toInt

instance (target : Account) : Decidable (t.Overfills target) := instDecidableAnd

/-- The target is credited before the source is debited. -/
def CreditsFirst : Prop := t.toAccountId.value < t.fromAccountId.value

instance : Decidable t.CreditsFirst := inferInstanceAs (Decidable (_ < _))

/-- The error that a transfer between the two accounts fails with, if it does. -/
def refusal? (source target : Account) : Option Error :=
  if t.amount ≤ 0 then some (.validation "transfer amount must be positive")
  else if t.CreditsFirst ∧ t.Overfills target then some balanceOverflow
  else if source.balance < t.amount then
    some (.insufficientFunds source.id.value (-t.amount))
  else if t.Overfills target then some balanceOverflow
  else none

/-- A transfer that fails does so with its refusal. -/
def Refuses (source target : Account) (_ : Transaction) : Except Error Posting → Prop
  | .ok _ => True
  | .error e => t.refusal? source target = some e

end NewTransfer

theorem NewTransfer.Covered.fits {t : NewTransfer} {rows : Tables} {target : Account}
    (covered : t.Covered rows) (there : rows.accounts.get? t.toAccountId = some target) :
    ¬t.Overfills target := by
  rintro ⟨apart, excess⟩
  obtain ⟨row, found, room⟩ := covered.room
  obtain rfl := Option.some.inj (there.symm.trans found)
  exact Int.not_lt.mpr (room.resolve_left apart) excess

theorem NewTransfer.Covered.unrefused {t : NewTransfer} {rows : Tables} {source target : Account}
    (covered : t.Covered rows) (there : rows.accounts.get? t.fromAccountId = some source)
    (there' : rows.accounts.get? t.toAccountId = some target) :
    t.refusal? source target = none := by
  obtain ⟨row, found, funds⟩ := covered.funds
  obtain rfl := Option.some.inj (there.symm.trans found)
  have amount : ¬t.amount ≤ 0 := by simpa [Int64.le_iff_toInt_le] using covered.positive
  have enough : ¬source.balance < t.amount := by simpa [Int64.lt_iff_toInt_lt] using funds
  have fits := covered.fits there'
  rw [refusal?, if_neg amount, if_neg fun excess => fits excess.2, if_neg enough, if_neg fits]

section

variable {t : NewTransfer} {seqs : Sequences} {rows : Tables} {source target : Account}
  {own : Transaction} {transfer : Transfer} {debit credit : Entry}

/-- The queries that move the money, after what was recorded before. -/
theorem moves_refused (keyed : rows.Keyed) (positive : 0 < t.amount.toInt)
    (nonneg : 0 ≤ source.balance.toInt) (nonneg' : 0 ≤ target.balance.toInt)
    (there : rows.accounts.get? t.fromAccountId = some source)
    (there' : rows.accounts.get? t.toAccountId = some target)
    (seen : own.Sees rows t.fromAccountId source) (seen' : own.Sees rows t.toAccountId target) :
    Yields rows (t.Refuses source target) own seqs (do
      let first ← query (.adjustBalance t.ordered.1)
      let second ← query (.adjustBalance t.ordered.2)
      return t.posting transfer debit credit first second : Work Posting).run := by
  have source_id := keyed.accounts there
  have target_id := keyed.accounts there'
  have amount : ¬t.amount ≤ 0 := by simpa [Int64.le_iff_toInt_le] using positive
  have negated : (-t.amount).toInt = -t.amount.toInt := neg_toInt amount
  by_cases upwards : t.toAccountId.value < t.fromAccountId.value
  · -- The credit comes first.
    have apart : t.fromAccountId ≠ t.toAccountId := fun same =>
      Int64.lt_irrefl (same ▸ upwards)
    rw [NewTransfer.ordered, if_pos upwards]
    refine adjustBalance_comes seen' (fun e h => ?_) fun row gained fits => ?_
    · obtain ⟨excess, rfl⟩ := Account.credit_refused nonneg' positive h
      have overfills : t.CreditsFirst ∧ t.Overfills target := ⟨upwards, apart, excess⟩
      simp only [NewTransfer.Refuses, NewTransfer.refusal?, if_neg amount, if_pos overfills]
    have seen := seen.other (gained.id.trans target_id ▸ apart)
    refine adjustBalance_comes seen (fun e h => ?_) fun _ _ _ => trivial
    obtain ⟨missing, rfl⟩ := Account.debit_refused nonneg positive h
    have fitting : ¬(t.CreditsFirst ∧ t.Overfills target) := fun excess =>
      Int.not_lt.mpr fits.2 excess.2.2
    simp only [NewTransfer.Refuses, NewTransfer.refusal?, if_neg amount, if_neg fitting,
      if_pos missing]
  · -- The debit comes first.
    have fitting : ¬(t.CreditsFirst ∧ t.Overfills target) := fun excess => upwards excess.1
    rw [NewTransfer.ordered, if_neg upwards]
    refine adjustBalance_comes seen (fun e h => ?_) fun row lost fits => ?_
    · obtain ⟨missing, rfl⟩ := Account.debit_refused nonneg positive h
      simp only [NewTransfer.Refuses, NewTransfer.refusal?, if_neg amount, if_neg fitting,
        if_pos missing]
    by_cases same : t.fromAccountId = t.toAccountId
    · -- The credit only gives back what the debit took.
      have seen := seen.changed (lost.id.trans source_id).symm
      refine adjustBalance_comes (same ▸ seen) (fun e h => ?_) fun _ _ _ => trivial
      have back : row.balance.toInt + t.amount.toInt = source.balance.toInt := by
        rw [lost.sum, negated]
        omega
      exact absurd (back ▸ ⟨nonneg, source.balance.toInt_le⟩) (Account.balanceAfter_error h)
    · have seen' := seen'.other (lost.id.trans source_id ▸ Ne.symm same)
      refine adjustBalance_comes seen' (fun e h => ?_) fun _ _ _ => trivial
      obtain ⟨excess, rfl⟩ := Account.credit_refused nonneg' positive h
      have covered : ¬source.balance < t.amount := by
        rw [Int64.lt_iff_toInt_lt]
        have funds := fits.1
        rw [negated] at funds
        omega
      have overfills : t.Overfills target := ⟨same, excess⟩
      simp only [NewTransfer.Refuses, NewTransfer.refusal?, if_neg amount, if_neg fitting,
        if_neg covered, if_pos overfills]

theorem transferSteps_refused (keyed : rows.Keyed)
    (nonneg : ∀ {id row}, rows.accounts.get? id = some row → 0 ≤ row.balance.toInt)
    (there : rows.accounts.get? t.fromAccountId = some source)
    (there' : rows.accounts.get? t.toAccountId = some target) :
    Yields rows (t.Refuses source target) {} seqs (transferSteps t).run := by
  have seen : Transaction.Sees {} rows t.fromAccountId source := there
  have seen' : Transaction.Sees {} rows t.toAccountId target := there'
  rw [transferSteps_eq]
  refine .query (.check (fun e h => ?_) fun passed => ?_)
  · by_cases amount : t.amount ≤ 0
    · rw [if_pos amount] at h
      simp only [NewTransfer.Refuses, NewTransfer.refusal?, if_pos amount, ← Except.error.inj h]
    · exact nomatch h.symm.trans (if_neg amount)
  have positive : 0 < t.amount.toInt := by
    simpa [Int64.le_iff_toInt_le] using refuse_ok.mp passed
  refine .insert (fun now e h => ?_) fun _ now _ => ?_
  · rw [requireAccount_ok.mpr seen, requireAccount_ok.mpr seen'] at h
    exact nomatch h
  refine createEntry_yields (fun e no => absurd ⟨source, there⟩ no) fun now' => ?_
  refine createEntry_yields (fun e no => absurd ⟨target, there'⟩ no) fun now'' => ?_
  exact moves_refused keyed positive (nonneg there) (nonneg there') there there' there there'

end

-- ---------------------------------------------------------------------------
-- The check
-- ---------------------------------------------------------------------------

namespace TransferRequest

variable {request : TransferRequest} {source target : Account}

/-- The request is about these two accounts, in their currency. -/
structure About (request : TransferRequest) (source target : Account) : Prop where
  source : source.id = request.fromAccountId ∧ source.currency = request.currency
  target : target.id = request.toAccountId ∧ target.currency = request.currency

theorem About.check (about : request.About source target) :
    request.checkPreconditions source target =
      if request.amount ≤ 0 then .error (.validation "amount must be positive")
      else if source.balance < request.amount then
        .error (.insufficientFunds source.id.value (-request.amount))
      else .ok () := by
  have named : ¬(source.id ≠ request.fromAccountId ∨ target.id ≠ request.toAccountId) :=
    not_or.mpr ⟨not_not.mpr about.source.1, not_not.mpr about.target.1⟩
  simp only [checkPreconditions, checkCurrency, if_neg named, if_pos about.source.2,
    if_pos about.target.2]
  split <;> [rfl; (split <;> rfl)]

/-- What passes the check is refused only for want of room. -/
theorem About.passed (about : request.About source target)
    (passed : request.checkPreconditions source target = .ok ()) :
    request.transfer.refusal? source target =
      if request.transfer.Overfills target then some balanceOverflow else none := by
  rw [about.check] at passed
  split at passed
  · cases passed
  next amount =>
  split at passed
  · cases passed
  next covered =>
  have amount : ¬request.transfer.amount ≤ 0 := amount
  have covered : ¬source.balance < request.transfer.amount := covered
  rw [NewTransfer.refusal?, if_neg amount, if_neg covered]
  by_cases first : request.transfer.CreditsFirst ∧ request.transfer.Overfills target
  · rw [if_pos first, if_pos first.2]
  · rw [if_neg first]

/-- What does not pass the check is refused, and for a reason of the same category unless the
target, which has no room, is credited first. -/
theorem About.failed {e : Error} (about : request.About source target)
    (failed : request.checkPreconditions source target = .error e) :
    ∃ e', request.transfer.refusal? source target = some e' ∧ e'.category =
      if request.transfer.CreditsFirst ∧ request.transfer.Overfills target then .validation
      else e.category := by
  rw [about.check] at failed
  split at failed
  · next amount =>
    obtain rfl := Except.error.inj failed
    have amount : request.transfer.amount ≤ 0 := amount
    exact ⟨_, if_pos amount, (ite_self _).symm⟩
  next amount =>
  split at failed
  · next missing =>
    obtain rfl := Except.error.inj failed
    have amount : ¬request.transfer.amount ≤ 0 := amount
    have missing : source.balance < request.transfer.amount := missing
    rw [NewTransfer.refusal?, if_neg amount, if_pos missing]
    by_cases first : request.transfer.CreditsFirst ∧ request.transfer.Overfills target
    · exact ⟨_, if_pos first, (if_pos first).symm⟩
    · exact ⟨_, if_neg first, (if_neg first).symm⟩
  · cases failed

end TransferRequest

-- ---------------------------------------------------------------------------
-- Systems
-- ---------------------------------------------------------------------------

namespace Store.System

/-- A request for a transfer between two committed accounts of its currency, on a store where no
transaction is open, no failure is due and a connection is free. The check and the transfer agree:
what passes the one is carried out by the other, unless the target has no room for the amount, and
what the one refuses the other refuses with an error of the same category and without any effect.
Only when the target has the lower number and no room either is the transfer refused for that. -/
theorem transferMoney_checked {Other : Type} [DecidableEq Other] {Result : Other → Type}
    (request : TransferRequest) (source target : Account) (connections : Nat)
    (programs : (name : Option Other) → Program (Beside Posting Result name))
    (happenings : List (Happening (Option Other))) (clock : Nat → Instant) :
    let sys := (System.start connections programs).run happenings
    let t := request.transfer
    sys.tasks none = some (.start none (transferMoney t)) → (∀ tx, ¬sys.store.isOpen tx) →
    0 < sys.store.idle → sys.store.faults = {} →
    sys.store.committed.accounts.get? request.fromAccountId = some source →
    sys.store.committed.accounts.get? request.toAccountId = some target →
    source.currency = request.currency → target.currency = request.currency →
    ∃ count p outcome,
      let after := sys.run (clockedSteps none clock count)
      after.tasks none = some p ∧ p.phase = .finished outcome ∧
      (∀ posting, outcome = .ok posting →
        request.checkPreconditions source target = .ok () ∧
          Transferred t sys.store.sequences sys.store.committed after.store.committed posting) ∧
      (∀ e, outcome = .error e → after.store.committed = sys.store.committed) ∧
      (request.checkPreconditions source target = .ok () →
        ((∃ posting, outcome = .ok posting) ↔ ¬t.Overfills target)) ∧
      ∀ e, request.checkPreconditions source target = .error e →
        ∃ e', outcome = .error e' ∧ e'.category =
          if t.CreditsFirst ∧ t.Overfills target then .validation else e.category := by
  intro sys t waiting closed idle faults there there' currency currency'
  have guarded : sys.Guarded := guarded_run connections programs happenings
  have replayed : sys.Replayed := replayed_run connections programs happenings
  have locked : sys.Locked := locked_run connections programs happenings
  have nonneg : ∀ {id row}, sys.store.committed.accounts.get? id = some row →
      0 ≤ row.balance.toInt := fun found => (replayed.account_exact found).2
  have keyed := guarded.store.committed
  have about : request.About source target :=
    ⟨⟨keyed.accounts there, currency⟩, keyed.accounts there', currency'⟩
  have steps : Yields sys.store.committed _ {} sys.store.sequences (transferSteps t).run :=
    (transferSteps_yields keyed nonneg).both (transferSteps_refused keyed nonneg there there')
  have course := leads_runWorkflow (locked.atRest closed idle faults) "money_transfer" steps
  obtain ⟨count, p, arrived, own, outcome, ⟨ends, refuses⟩, finished, committed⟩ :=
    course.run sys waiting clock
  refine ⟨count, p, outcome, arrived, finished, ?_⟩
  cases outcome with
  | ok posting =>
    obtain ⟨covered, transferred⟩ := ends
    have unrefused : t.refusal? source target = none := covered.unrefused there there'
    have passed : request.checkPreconditions source target = .ok () := by
      cases checked : request.checkPreconditions source target with
      | ok _ => rfl
      | error e =>
        obtain ⟨e', refused, -⟩ := about.failed checked
        exact nomatch unrefused.symm.trans refused
    refine ⟨?_, fun e no => (nomatch no), fun _ => ?_, fun e failed => ?_⟩
    · rintro _ ⟨⟩
      exact ⟨passed, committed ▸ transferred⟩
    · exact ⟨fun _ => covered.fits there', fun _ => ⟨posting, rfl⟩⟩
    · exact nomatch passed.symm.trans failed
  | error e =>
    have refused : t.refusal? source target = some e := refuses
    refine ⟨fun p no => (nomatch no), fun _ _ => committed, fun passed => ?_, fun e failed => ?_⟩
    · refine ⟨?_, fun fits => ?_⟩
      · rintro ⟨_, ⟨⟩⟩
      have unrefused := (about.passed passed).trans (if_neg fits)
      exact nomatch refused.symm.trans unrefused
    · obtain ⟨e', refused', category⟩ := about.failed failed
      exact ⟨e', congrArg Except.error (Option.some.inj (refused.symm.trans refused')), category⟩

/-- A request that asks for more than the source has is refused by both. -/
theorem transferMoney_checked_overdrawn :
    let request : TransferRequest := ⟨⟨2⟩, ⟨1⟩, 60, .usd⟩
    let sys := (System.start 1 (Opener.programs request.transfer)).run Opener.openings
    ∃ count p e,
      let after := sys.run (clockedSteps none default count)
      after.tasks none = some p ∧ p.phase = .finished (.error e) ∧
        e.category = .insufficientFunds ∧ after.store.committed = sys.store.committed := by
  intro request sys
  have closed : ∀ tx, ¬sys.store.isOpen tx := not_isOpen (by decide +kernel)
  obtain ⟨count, p, outcome, there, finished, -, unchanged, -, failed⟩ :=
    transferMoney_checked request ⟨⟨2⟩, "bob", 50, .usd, default⟩ ⟨⟨1⟩, "alice", 100, .usd, default⟩
      1 (Opener.programs request.transfer) Opener.openings default rfl closed (by decide +kernel)
      (by decide +kernel) (by decide +kernel) (by decide +kernel) rfl rfl
  obtain ⟨e, rfl, category⟩ := failed (.insufficientFunds 2 (-60)) (by decide)
  exact ⟨count, p, e, there, finished, category.trans (by decide), unchanged e rfl⟩

def Opener.brimming : Opener → Query
  | alice => .createAccount ⟨"alice", Int64.maxValue, .usd⟩
  | bob => .createAccount ⟨"bob", 0, .usd⟩

/-- The source has nothing, and the target, which has the lower number, is full: the check says that
the funds are missing, and the transfer that the balance would be too high. -/
theorem transferMoney_overflows_first :
    let request : TransferRequest := ⟨⟨2⟩, ⟨1⟩, 1, .usd⟩
    let programs : (name : Option Opener) →
        Program (Beside Posting (fun opener => Except Error opener.brimming.Row) name)
      | none => transferMoney request.transfer
      | some opener => opener.brimming.run
    let sys := (System.start 1 programs).run Opener.openings
    let source : Account := ⟨⟨2⟩, "bob", 0, .usd, default⟩
    let target : Account := ⟨⟨1⟩, "alice", Int64.maxValue, .usd, default⟩
    sys.tasks none = some (.start none (transferMoney request.transfer)) ∧
      sys.store.transactions = [] ∧ sys.store.idle = 1 ∧ sys.store.faults = {} ∧
      sys.store.committed.accounts.get? request.fromAccountId = some source ∧
      sys.store.committed.accounts.get? request.toAccountId = some target ∧
      request.checkPreconditions source target = .error (.insufficientFunds 2 (-1)) ∧
      ((sys.run (steps none 20)).tasks none).bind Process.result? =
        some (.error (.validation "balance overflow")) := by
  intro request programs sys source target
  refine ⟨rfl, ?_⟩
  decide +kernel

end Store.System

end Passbook
