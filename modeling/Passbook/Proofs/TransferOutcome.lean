import Passbook.Proofs.Alone
import Passbook.Proofs.Balance
import Passbook.Proofs.Lineage
import Passbook.Proofs.TransferProtocol

/-!
# The outcome of a transfer

A transfer that nothing disturbs goes through exactly if its amount is positive, both accounts are
there, the source has the funds and the target has room for them. It then adds one transfer and two
entries, moves the amount, and leaves every other row as it was; otherwise it changes nothing
(`transferMoney_outcome`). Which of the two accounts has the lower number makes no difference.
-/

namespace Passbook

open Store Work Dialogue

-- ---------------------------------------------------------------------------
-- Balances
-- ---------------------------------------------------------------------------

/-- The number is a balance that an account can have. -/
def InRange (n : Int) : Prop := 0 ≤ n ∧ n ≤ Int64.maxValue.toInt

/-- The new row is the old one with a balance that differs by `delta`, in whole numbers. -/
structure Account.AdjustedBy (old : Account) (delta : Int) (new : Account) : Prop where
  same : new = { old with balance := new.balance }
  sum : new.balance.toInt = old.balance.toInt + delta

namespace Account

theorem AdjustedBy.id {old new : Account} (h : old.AdjustedBy delta new) : new.id = old.id := by
  have same := congrArg Account.id h.same
  exact same

theorem AdjustedBy.trans {old mid new : Account} {delta delta' : Int}
    (h : old.AdjustedBy delta mid) (h' : mid.AdjustedBy delta' new) :
    old.AdjustedBy (delta + delta') new where
  same := h'.same.trans (congrArg (fun row => { row with balance := new.balance }) h.same)
  sum := by rw [h'.sum, h.sum, Int.add_assoc]

variable {account : Account} {delta : Int64}

theorem balanceAfter_adjusts {next : Int64} (h : account.balanceAfter delta = .ok next) :
    account.AdjustedBy delta.toInt { account with balance := next } ∧
      InRange (account.balance.toInt + delta.toInt) := by
  obtain ⟨sum, nonneg⟩ := balanceAfter_ok h
  exact ⟨⟨rfl, sum⟩, sum ▸ nonneg, sum ▸ next.toInt_le⟩

/-- A change is only refused when the balance would leave its range. -/
theorem balanceAfter_error {e : Error} (h : account.balanceAfter delta = .error e) :
    ¬InRange (account.balance.toInt + delta.toInt) := by
  rintro ⟨nonneg, high⟩
  have low : Int64.minValue.toInt ≤ account.balance.toInt + delta.toInt :=
    Int.le_trans (by decide) nonneg
  have exact : (Int64.ofInt (account.balance.toInt + delta.toInt)).toInt =
      account.balance.toInt + delta.toInt :=
    Int64.toInt_ofInt_of_le low (Int.lt_of_le_of_lt high (by decide))
  have covered : ¬Int64.ofInt (account.balance.toInt + delta.toInt) < 0 := by
    rw [Int64.lt_iff_toInt_lt, exact]
    exact Int.not_lt.mpr nonneg
  rw [balanceAfter, exactSum?, if_pos ⟨low, high⟩] at h
  simp only [if_neg covered] at h
  cases h

end Account

-- ---------------------------------------------------------------------------
-- What a transfer comes to
-- ---------------------------------------------------------------------------

namespace NewTransfer

variable (t : NewTransfer)

/-- The rows admit the transfer. -/
structure Covered (rows : Tables) : Prop where
  positive : 0 < t.amount.toInt
  funds : ∃ source, rows.accounts.get? t.fromAccountId = some source ∧
    t.amount.toInt ≤ source.balance.toInt
  room : ∃ target, rows.accounts.get? t.toAccountId = some target ∧
    (t.fromAccountId = t.toAccountId ∨
      target.balance.toInt + t.amount.toInt ≤ Int64.maxValue.toInt)

/-- The records that the transfer asks for, under the next numbers. -/
structure Recorded (seqs : Sequences) (transfer : Transfer) (debit credit : Entry) : Prop where
  moved : transfer.fromAccountId = t.fromAccountId ∧ transfer.toAccountId = t.toAccountId ∧
    transfer.amount = t.amount
  debited : debit.accountId = t.fromAccountId ∧ debit.amount = -t.amount ∧
    debit.amount.toInt = -t.amount.toInt
  credited : credit.accountId = t.toAccountId ∧ credit.amount = t.amount
  numbered : transfer.id = (seqs.draw .transfer).1 ∧ debit.id = (seqs.draw .entry).1 ∧
    credit.id = ((seqs.draw .entry).2.draw .entry).1
  apart : debit.id ≠ credit.id

/-- What one side of the transfer gains or loses: nothing when it is the other side as well. -/
def net (amount : Int) : Int := if t.fromAccountId = t.toAccountId then 0 else amount

end NewTransfer

/-- The rows after a transfer are those before it with the rows that it answers. -/
structure Transferred (t : NewTransfer) (seqs : Sequences) (before after : Tables)
    (p : Posting) : Prop extends t.Recorded seqs p.transfer p.fromEntry p.toEntry where
  source : p.fromAccount.id = t.fromAccountId ∧
    ∃ old, before.accounts.get? t.fromAccountId = some old ∧
      old.AdjustedBy (t.net (-t.amount.toInt)) p.fromAccount
  target : p.toAccount.id = t.toAccountId ∧
    ∃ old, before.accounts.get? t.toAccountId = some old ∧
      old.AdjustedBy (t.net t.amount.toInt) p.toAccount
  same : t.fromAccountId = t.toAccountId → p.fromAccount = p.toAccount
  transfers : ∀ id, after.transfers.get? id =
    if id = p.transfer.id then some p.transfer else before.transfers.get? id
  entries : ∀ id, after.entries.get? id =
    if id = p.fromEntry.id then some p.fromEntry
    else if id = p.toEntry.id then some p.toEntry
    else before.entries.get? id
  accounts : ∀ id, after.accounts.get? id =
    if id = t.fromAccountId then some p.fromAccount
    else if id = t.toAccountId then some p.toAccount
    else before.accounts.get? id
  others : after.users = before.users ∧ after.sessions = before.sessions ∧
    after.messages = before.messages

/-- No row has had the numbers of the posted transfer and entries before. -/
def Posting.New (p : Posting) (before : Tables) : Prop :=
  before.transfers.get? p.transfer.id = none ∧ before.entries.get? p.fromEntry.id = none ∧
    before.entries.get? p.toEntry.id = none

namespace NewTransfer

/-- What a transfer can come to that is alone on these rows. -/
def Ends (t : NewTransfer) (seqs : Sequences) (rows : Tables) (own : Transaction) :
    Except Error Posting → Prop
  | .ok posting => t.Covered rows ∧
      Transferred t seqs rows (rows.publish own.written own.deleted) posting
  | .error _ => ¬t.Covered rows

variable {t : NewTransfer} {rows : Tables}

theorem covered_iff {source target : Account} (apart : t.fromAccountId ≠ t.toAccountId)
    (positive : 0 < t.amount.toInt) (nonneg : 0 ≤ target.balance.toInt)
    (there : rows.accounts.get? t.fromAccountId = some source)
    (there' : rows.accounts.get? t.toAccountId = some target) :
    t.Covered rows ↔ InRange (source.balance.toInt + -t.amount.toInt) ∧
      InRange (target.balance.toInt + t.amount.toInt) := by
  have high := source.balance.toInt_le
  constructor
  · rintro ⟨-, ⟨row, found, funds⟩, row', found', room⟩
    obtain rfl := Option.some.inj (there.symm.trans found)
    obtain rfl := Option.some.inj (there'.symm.trans found')
    have room := room.resolve_left apart
    exact ⟨⟨by omega, by omega⟩, by omega, room⟩
  · rintro ⟨⟨funds, -⟩, -, room⟩
    exact ⟨positive, ⟨source, there, by omega⟩, target, there', .inr room⟩

theorem covered_iff_of_eq {account : Account} (same : t.fromAccountId = t.toAccountId)
    (positive : 0 < t.amount.toInt)
    (there : rows.accounts.get? t.fromAccountId = some account) :
    t.Covered rows ↔ InRange (account.balance.toInt + -t.amount.toInt) := by
  have high := account.balance.toInt_le
  constructor
  · rintro ⟨-, ⟨row, found, funds⟩, -⟩
    obtain rfl := Option.some.inj (there.symm.trans found)
    exact ⟨by omega, by omega⟩
  · rintro ⟨funds, -⟩
    exact ⟨positive, ⟨account, there, by omega⟩, account, same ▸ there, .inl same⟩

end NewTransfer

-- ---------------------------------------------------------------------------
-- The queries of a transfer
-- ---------------------------------------------------------------------------

/-- A transaction with these writes is shown the account. -/
def Store.Transaction.Sees (own : Transaction) (rows : Tables) (id : AccountId)
    (row : Account) : Prop := (alone rows own default).account? id = some row

section

variable {α : Type} {rows : Tables} {post : Transaction → Except Error α → Prop}
  {own : Transaction} {seqs : Sequences}

theorem requireAccount_ok {id : AccountId} {row : Account} {now : Instant} :
    (alone rows own now).requireAccount id = .ok row ↔ own.Sees rows id row := require_ok

namespace Store.Transaction.Sees

variable {id : AccountId} {old row : Account}

theorem other (seen : own.Sees rows id old) (apart : id ≠ row.id) :
    (own.apply (.account row)).Sees rows id old :=
  (View.wrote_other apart).trans seen

theorem changed (seen : own.Sees rows id old) (here : id = row.id) :
    (own.apply (.account row)).Sees rows id row := by
  subst here
  exact View.wrote_self (View.account?_eq_some.mp seen).1

end Store.Transaction.Sees

theorem createTransfer_yields {t : NewTransfer} {next : Transfer → Work α}
    (refused : ∀ e, ¬(0 < t.amount.toInt ∧ (∃ source, own.Sees rows t.fromAccountId source) ∧
      ∃ target, own.Sees rows t.toAccountId target) → post own (.error e))
    (did : ∀ now source target, 0 < t.amount.toInt → own.Sees rows t.fromAccountId source →
      own.Sees rows t.toAccountId target →
      let row := ⟨(seqs.draw .transfer).1, t.fromAccountId, t.toAccountId, t.amount, now⟩
      Yields rows post (own.apply (.transfer row)) (seqs.draw .transfer).2 (next row).run) :
    Yields rows post own seqs (query (.createTransfer t) >>= next).run := by
  have positive_iff : ¬t.amount ≤ 0 ↔ 0 < t.amount.toInt := by simp [Int64.le_iff_toInt_le]
  refine .query (.check (fun e h => refused e ?_) fun passed => ?_)
  · rintro ⟨positive, -⟩
    exact nomatch h.symm.trans (if_neg (positive_iff.mpr positive))
  have positive := positive_iff.mp (refuse_ok.mp passed)
  refine .insert (fun now e h => refused e ?_) fun _ now allowed => ?_
  · rintro ⟨-, ⟨source, there⟩, target, there'⟩
    rw [requireAccount_ok.mpr there, requireAccount_ok.mpr there'] at h
    exact nomatch h
  · obtain ⟨source, there, allowed⟩ := bind_ok.mp allowed
    obtain ⟨target, there', -⟩ := bind_ok.mp allowed
    exact did now source target positive (requireAccount_ok.mp there) (requireAccount_ok.mp there')

theorem createEntry_yields {entry : NewEntry} {next : Entry → Work α}
    (refused : ∀ e, ¬(∃ row, own.Sees rows entry.accountId row) → post own (.error e))
    (did : ∀ now, let row := ⟨(seqs.draw .entry).1, entry.accountId, entry.amount, now⟩
      Yields rows post (own.apply (.entry row)) (seqs.draw .entry).2 (next row).run) :
    Yields rows post own seqs (query (.createEntry entry) >>= next).run := by
  refine .query (.insert (fun now e h => refused e ?_) fun _ now _ => did now)
  rintro ⟨row, there⟩
  rw [requireAccount_ok.mpr there] at h
  exact nomatch h

/-- A change of a balance that is seen fails only with what the account refuses it with. -/
theorem adjustBalance_comes {a : BalanceAdjustment} {next : Account → Work α} {old : Account}
    (seen : own.Sees rows a.accountId old)
    (refused : ∀ e, old.balanceAfter a.delta = .error e → post own (.error e))
    (did : ∀ row, old.AdjustedBy a.delta.toInt row → InRange (old.balance.toInt + a.delta.toInt) →
      Yields rows post (own.apply (.account row)) seqs (next row).run) :
    Yields rows post own seqs (query (.adjustBalance a) >>= next).run := by
  refine .query fun now => ?_
  simp only [requireAccount_ok.mpr seen, bind, Except.bind]
  cases changed : old.balanceAfter a.delta with
  | error e => exact refused e changed
  | ok balance =>
    obtain ⟨adjusted, range⟩ := Account.balanceAfter_adjusts changed
    exact ⟨_, rfl, did _ adjusted range⟩

theorem adjustBalance_yields {a : BalanceAdjustment} {next : Account → Work α} {old : Account}
    (seen : own.Sees rows a.accountId old)
    (refused : ∀ e, ¬InRange (old.balance.toInt + a.delta.toInt) → post own (.error e))
    (did : ∀ row, old.AdjustedBy a.delta.toInt row → InRange (old.balance.toInt + a.delta.toInt) →
      Yields rows post (own.apply (.account row)) seqs (next row).run) :
    Yields rows post own seqs (query (.adjustBalance a) >>= next).run :=
  adjustBalance_comes seen (fun e h => refused e (Account.balanceAfter_error h)) did

theorem adjust_apart {a b : BalanceAdjustment} {x y : Account} {result : Account → Account → α}
    (here : own.Sees rows a.accountId x) (there : own.Sees rows b.accountId y)
    (apart : b.accountId ≠ x.id)
    (refused : ∀ own e, ¬(InRange (x.balance.toInt + a.delta.toInt) ∧
      InRange (y.balance.toInt + b.delta.toInt)) → post own (.error e))
    (did : ∀ x' y', x.AdjustedBy a.delta.toInt x' → y.AdjustedBy b.delta.toInt y' →
      InRange (x.balance.toInt + a.delta.toInt) → InRange (y.balance.toInt + b.delta.toInt) →
        post ((own.apply (.account x')).apply (.account y')) (.ok (result x' y'))) :
    Yields rows post own seqs (do
      let first ← query (.adjustBalance a)
      let second ← query (.adjustBalance b)
      return result first second : Work α).run := by
  refine adjustBalance_yields here (fun e no => refused own e fun fit => no fit.1) ?_
  intro x' first fits
  have there := there.other (first.id.symm ▸ apart)
  refine adjustBalance_yields there (fun e no => refused _ e fun fit => no fit.2) ?_
  intro y' second fits'
  exact did x' y' first second fits fits'

end

-- ---------------------------------------------------------------------------
-- The steps of a transfer
-- ---------------------------------------------------------------------------

/-- What a transfer has written before it moves the money. -/
def Store.Transaction.recording (transfer : Transfer) (debit credit : Entry) : Transaction :=
  ((({} : Transaction).apply (.transfer transfer)).apply (.entry debit)).apply (.entry credit)

open Transaction (recording)

section

variable {t : NewTransfer} {seqs seqs' : Sequences} {rows : Tables} {transfer : Transfer}
  {debit credit : Entry} {source target : Account}

theorem published_recording (rows : Tables) (transfer : Transfer) (debit credit : Entry)
    (x y : Account) :
    let own := ((recording transfer debit credit).apply (.account x)).apply (.account y)
    let after := rows.publish own.written own.deleted
    (∀ id, after.transfers.get? id =
      if id = transfer.id then some transfer else rows.transfers.get? id) ∧
    (∀ id, after.entries.get? id =
      if id = credit.id then some credit
      else if id = debit.id then some debit else rows.entries.get? id) ∧
    (∀ id, after.accounts.get? id =
      if id = y.id then some y else if id = x.id then some x else rows.accounts.get? id) := by
  intro own after
  refine ⟨fun id => ?_, fun id => ?_, fun id => ?_⟩
  · exact (Table.get?_overlay_insert ..).trans (if_congr .rfl rfl (Table.get?_overlay ..))
  · exact (Table.get?_overlay_insert ..).trans (if_congr .rfl rfl (Table.get?_overlay_insert ..))
  · exact (Table.get?_overlay_insert ..).trans (if_congr .rfl rfl (Table.get?_overlay_insert ..))

/-- The rows are as the posting says once the accounts are. -/
theorem Transferred.of_accounts {x y fromAccount toAccount : Account}
    (recorded : t.Recorded seqs transfer debit credit)
    (source : fromAccount.id = t.fromAccountId ∧
      ∃ old, rows.accounts.get? t.fromAccountId = some old ∧
        old.AdjustedBy (t.net (-t.amount.toInt)) fromAccount)
    (target : toAccount.id = t.toAccountId ∧
      ∃ old, rows.accounts.get? t.toAccountId = some old ∧
        old.AdjustedBy (t.net t.amount.toInt) toAccount)
    (same : t.fromAccountId = t.toAccountId → fromAccount = toAccount)
    (accounts : ∀ id,
      (if id = y.id then some y else if id = x.id then some x else rows.accounts.get? id) =
        if id = t.fromAccountId then some fromAccount
        else if id = t.toAccountId then some toAccount
        else rows.accounts.get? id) :
    let own := ((recording transfer debit credit).apply (.account x)).apply (.account y)
    Transferred t seqs rows (rows.publish own.written own.deleted)
      ⟨transfer, debit, credit, fromAccount, toAccount⟩ := by
  intro own
  obtain ⟨transfers, entries, accounts'⟩ := published_recording rows transfer debit credit x y
  refine {
    recorded with
    source, target, same, transfers
    entries := fun id => (entries id).trans ?_
    accounts := fun id => (accounts' id).trans (accounts id)
    others := ⟨rfl, rfl, rfl⟩ }
  by_cases here : id = debit.id
  · rw [if_pos here, if_neg (here ▸ recorded.apart), if_pos here]
  · rw [if_neg here, if_neg here]

theorem NewTransfer.Recorded.negated (recorded : t.Recorded seqs transfer debit credit) :
    (-t.amount).toInt = -t.amount.toInt := by
  obtain ⟨-, amount, exact⟩ := recorded.debited
  rw [← amount, exact]

/-- Between two accounts the money is moved if both changes fit, whichever of them comes first. -/
theorem moves_apart (recorded : t.Recorded seqs transfer debit credit) (keyed : rows.Keyed)
    (apart : t.fromAccountId ≠ t.toAccountId)
    (there : rows.accounts.get? t.fromAccountId = some source)
    (there' : rows.accounts.get? t.toAccountId = some target)
    (covered : t.Covered rows ↔ InRange (source.balance.toInt + -t.amount.toInt) ∧
      InRange (target.balance.toInt + t.amount.toInt)) :
    Yields rows (t.Ends seqs rows) (recording transfer debit credit) seqs' (do
      let first ← query (.adjustBalance t.ordered.1)
      let second ← query (.adjustBalance t.ordered.2)
      return t.posting transfer debit credit first second : Work Posting).run := by
  have net : ∀ amount, t.net amount = amount := fun _ => if_neg apart
  have source_id := keyed.accounts there
  have target_id := keyed.accounts there'
  by_cases upwards : t.toAccountId.value < t.fromAccountId.value
  · -- The credit comes first.
    rw [NewTransfer.ordered, if_pos upwards]
    refine adjust_apart there' there (target_id ▸ apart) ?_ ?_ <;> rw [recorded.negated]
    · exact fun own e no yes => no (covered.mp yes).symm
    intro x y gained lost fits fits'
    have x_id := gained.id.trans target_id
    have y_id := lost.id.trans source_id
    refine ⟨covered.mpr ⟨fits', fits⟩, ?_⟩
    rw [NewTransfer.posting, if_neg (x_id ▸ y_id ▸ apart.symm), if_pos upwards]
    refine .of_accounts recorded ⟨y_id, source, there, (net _).symm ▸ lost⟩
      ⟨x_id, target, there', (net _).symm ▸ gained⟩ (fun same => absurd same apart) fun id => ?_
    rw [x_id, y_id]
  · -- The debit comes first, so that the account of the credit is written last.
    rw [NewTransfer.ordered, if_neg upwards]
    refine adjust_apart there there' (source_id ▸ apart.symm) ?_ ?_ <;> rw [recorded.negated]
    · exact fun own e no yes => no (covered.mp yes)
    intro x y lost gained fits fits'
    have x_id := lost.id.trans source_id
    have y_id := gained.id.trans target_id
    refine ⟨covered.mpr ⟨fits, fits'⟩, ?_⟩
    rw [NewTransfer.posting, if_neg (x_id ▸ y_id ▸ apart), if_neg upwards]
    refine .of_accounts recorded ⟨x_id, source, there, (net _).symm ▸ lost⟩
      ⟨y_id, target, there', (net _).symm ▸ gained⟩ (fun same => absurd same apart) fun id => ?_
    rw [x_id, y_id]
    by_cases here : id = t.fromAccountId
    · rw [if_pos here, if_pos here, if_neg (here ▸ apart)]
    · rw [if_neg here, if_neg here]

/-- On one account the debit comes first, and the credit then makes up for it. -/
theorem moves_same (recorded : t.Recorded seqs transfer debit credit) (keyed : rows.Keyed)
    (same : t.fromAccountId = t.toAccountId) (nonneg : 0 ≤ source.balance.toInt)
    (there : rows.accounts.get? t.fromAccountId = some source)
    (covered : t.Covered rows ↔ InRange (source.balance.toInt + -t.amount.toInt)) :
    Yields rows (t.Ends seqs rows) (recording transfer debit credit) seqs' (do
      let first ← query (.adjustBalance t.ordered.1)
      let second ← query (.adjustBalance t.ordered.2)
      return t.posting transfer debit credit first second : Work Posting).run := by
  have net : ∀ amount, t.net amount = 0 := fun _ => if_pos same
  have source_id := keyed.accounts there
  have seen : (recording transfer debit credit).Sees rows t.fromAccountId source := there
  rw [NewTransfer.ordered, if_neg (same ▸ Int64.lt_irrefl)]
  dsimp only
  refine adjustBalance_yields seen (fun e no yes => no (recorded.negated ▸ covered.mp yes)) ?_
  intro debited lost fits
  have again := seen.changed (lost.id.trans source_id).symm
  -- The credit cannot overflow, since it only gives back what the debit took.
  have back : debited.balance.toInt + t.amount.toInt = source.balance.toInt := by
    rw [lost.sum, recorded.negated]
    omega
  refine adjustBalance_yields (same ▸ again) (fun e no => ?_) fun row gained _ => ?_
  · exact absurd (back ▸ ⟨nonneg, source.balance.toInt_le⟩) no
  have row_id := gained.id.trans (lost.id.trans source_id)
  have unchanged : source.AdjustedBy 0 row := by
    have both := lost.trans gained
    rwa [recorded.negated, Int.add_left_neg] at both
  refine ⟨covered.mpr (recorded.negated ▸ fits), ?_⟩
  rw [NewTransfer.posting, if_pos gained.id.symm]
  refine .of_accounts recorded ⟨row_id, source, there, (net _).symm ▸ unchanged⟩
    ⟨same ▸ row_id, source, same ▸ there, (net _).symm ▸ unchanged⟩ (fun _ => rfl) fun id => ?_
  rw [row_id, lost.id, source_id, ← same]
  split <;> rfl

theorem next_entries_apart (seqs : Sequences) :
    (seqs.draw .entry).1 ≠ ((seqs.draw .entry).2.draw .entry).1 := by
  intro same
  have same : seqs.entry + 1 = seqs.entry + 1 + 1 := congrArg Id.value same
  exact absurd (Int64.left_eq_add.mp same) (by decide)

theorem transferSteps_yields (keyed : rows.Keyed)
    (nonneg : ∀ {id row}, rows.accounts.get? id = some row → 0 ≤ row.balance.toInt) :
    Yields rows (t.Ends seqs rows) {} seqs (transferSteps t).run := by
  rw [transferSteps_eq]
  refine createTransfer_yields (fun e no covered => ?_) ?_
  · obtain ⟨positive, ⟨source, there, -⟩, target, there', -⟩ := covered
    exact no ⟨positive, ⟨source, there⟩, target, there'⟩
  intro now source target positive there there'
  -- No entry is refused: the record of the transfer was not, so both accounts are there.
  refine createEntry_yields (fun e no => absurd ⟨source, there⟩ no) fun now' => ?_
  refine createEntry_yields (fun e no => absurd ⟨target, there'⟩ no) fun now'' => ?_
  have negated : (-t.amount).toInt = -t.amount.toInt :=
    neg_toInt (by simpa [Int64.le_iff_toInt_le] using positive)
  have recorded : t.Recorded seqs
      ⟨(seqs.draw .transfer).1, t.fromAccountId, t.toAccountId, t.amount, now⟩
      ⟨(seqs.draw .entry).1, t.fromAccountId, -t.amount, now'⟩
      ⟨((seqs.draw .entry).2.draw .entry).1, t.toAccountId, t.amount, now''⟩ :=
    ⟨⟨rfl, rfl, rfl⟩, ⟨rfl, rfl, negated⟩, ⟨rfl, rfl⟩, ⟨rfl, rfl, rfl⟩, next_entries_apart seqs⟩
  by_cases same : t.fromAccountId = t.toAccountId
  · exact moves_same recorded keyed same (nonneg there) there
      (NewTransfer.covered_iff_of_eq same positive there)
  · exact moves_apart recorded keyed same there there'
      (NewTransfer.covered_iff same positive (nonneg there') there there')

end

-- ---------------------------------------------------------------------------
-- Systems
-- ---------------------------------------------------------------------------

namespace Store.System

section

variable {Name : Type} {Result : Name → Type} {sys : System Result}

/-- So many numbers of each kind can still be drawn before a sequence comes round to its start. -/
def Room (sys : System Result) (count : Nat) : Prop :=
  ∀ kind, (ofKind kind (sys.draws.map (·.2))).length + count ≤ Int64.size

theorem Archived.new {t : NewTransfer} {p : Posting} (a : sys.Archived) (room : sys.Room 2)
    (recorded : t.Recorded sys.store.sequences p.transfer p.fromEntry p.toEntry) :
    p.New sys.store.committed := by
  obtain ⟨transfer, debit, credit⟩ := recorded.numbered
  have soon : ∀ kind, (ofKind kind (sys.draws.map (·.2))).length + 0 < Int64.size := fun kind =>
    Nat.lt_of_lt_of_le (Nat.add_lt_add_left (by decide) _) (room kind)
  have of_transfer : ∀ {id row}, sys.store.committed.transfers.get? id = some row →
      ⟨.transfer, id⟩ ∈ numbersOf (deedsOf sys.history) := fun found =>
    number_of_key transfer_number (a.booked.transfers ▸ found)
  have of_entry : ∀ {id row}, sys.store.committed.entries.get? id = some row →
      ⟨.entry, id⟩ ∈ numbersOf (deedsOf sys.history) := fun found =>
    number_of_key entry_number (a.booked.entries ▸ found)
  refine ⟨?_, ?_, ?_⟩ <;> refine Option.eq_none_iff_forall_ne_some.mpr fun row found => ?_
  · refine a.numbered.unused 0 a.filed (soon .transfer) ?_ (of_transfer found)
    exact congrArg Id.value transfer
  · refine a.numbered.unused 0 a.filed (soon .entry) ?_ (of_entry found)
    exact congrArg Id.value debit
  · refine a.numbered.unused 1 a.filed (room .entry) ?_ (of_entry found)
    exact (congrArg Id.value credit).trans (Int64.add_assoc ..)

theorem Locked.atRest (l : sys.Locked) (closed : ∀ tx, ¬sys.store.isOpen tx)
    (idle : 0 < sys.store.idle) (faults : sys.store.faults = {}) : sys.store.AtRest where
  locks key := by
    cases holder : sys.store.holder? key with
    | none => rfl
    | some tx => exact absurd (l.store.holder_isOpen holder) (closed tx)
  idle := idle
  faults := faults

end

/-- A transfer that is about to run on a store where no transaction is open, no failure is due and
a connection is free comes to an end by its own steps. It succeeds exactly if it is covered; then
the committed rows are those before with what it answers, and otherwise they are the same. The
numbers of its records are new as long as no sequence has come round to its start. -/
theorem transferMoney_outcome {Other : Type} [DecidableEq Other] {Result : Other → Type}
    (t : NewTransfer) (connections : Nat)
    (programs : (name : Option Other) → Program (Beside Posting Result name))
    (happenings : List (Happening (Option Other))) (clock : Nat → Instant) :
    let sys := (System.start connections programs).run happenings
    sys.tasks none = some (.start none (transferMoney t)) → (∀ tx, ¬sys.store.isOpen tx) →
    0 < sys.store.idle → sys.store.faults = {} →
    ∃ count p outcome,
      let after := sys.run (clockedSteps none clock count)
      after.tasks none = some p ∧ p.phase = .finished outcome ∧
      ((∃ posting, outcome = .ok posting) ↔ t.Covered sys.store.committed) ∧
      (∀ posting, outcome = .ok posting →
        Transferred t sys.store.sequences sys.store.committed after.store.committed posting ∧
          (sys.Room 2 → posting.New sys.store.committed)) ∧
      ∀ e, outcome = .error e → after.store.committed = sys.store.committed := by
  intro sys waiting closed idle faults
  have guarded : sys.Guarded := guarded_run connections programs happenings
  have replayed : sys.Replayed := replayed_run connections programs happenings
  have archived : sys.Archived := archived_run connections programs happenings
  have locked : sys.Locked := locked_run connections programs happenings
  have course := leads_runWorkflow (locked.atRest closed idle faults) "money_transfer"
    (transferSteps_yields (t := t) guarded.store.committed fun found =>
      (replayed.account_exact found).2)
  obtain ⟨count, p, there, own, outcome, ends, finished, committed⟩ := course.run sys waiting clock
  refine ⟨count, p, outcome, there, finished, ?_⟩
  cases outcome with
  | ok posting =>
    obtain ⟨covered, transferred⟩ := ends
    refine ⟨⟨fun _ => covered, fun _ => ⟨posting, rfl⟩⟩, ?_, fun e no => (nomatch no)⟩
    rintro _ ⟨⟩
    exact ⟨committed ▸ transferred, fun room => archived.new room transferred.toRecorded⟩
  | error e =>
    refine ⟨⟨?_, fun covered => absurd covered ends⟩, fun p no => (nomatch no), fun _ _ => ?_⟩
    · rintro ⟨_, ⟨⟩⟩
    · exact committed

inductive Opener
  | alice | bob
  deriving DecidableEq

def Opener.query : Opener → Query
  | alice => .createAccount ⟨"alice", 100, .usd⟩
  | bob => .createAccount ⟨"bob", 50, .usd⟩

def Opener.programs (t : NewTransfer) : (name : Option Opener) →
    Program (Beside Posting (fun opener => Except Error opener.query.Row) name)
  | none => transferMoney t
  | some opener => opener.query.run

def Opener.openings : List (Happening (Option Opener)) :=
  steps (some .alice) 8 ++ steps (some .bob) 8

/-- Once both accounts are opened, money goes from the second to the first. -/
theorem transferMoney_outcome_upwards :
    let t : NewTransfer := ⟨⟨2⟩, ⟨1⟩, 30⟩
    let sys := (System.start 1 (Opener.programs t)).run Opener.openings
    t.Covered sys.store.committed ∧ sys.Room 2 ∧ ∃ count p posting,
      let after := sys.run (clockedSteps none default count)
      after.tasks none = some p ∧ p.phase = .finished (.ok posting) ∧
        Transferred t sys.store.sequences sys.store.committed after.store.committed posting ∧
        posting.New sys.store.committed := by
  intro t sys
  have covered : t.Covered sys.store.committed := {
    positive := by decide
    funds := ⟨⟨⟨2⟩, "bob", 50, .usd, default⟩, by decide +kernel, by decide⟩
    room := ⟨⟨⟨1⟩, "alice", 100, .usd, default⟩, by decide +kernel, .inr (by decide)⟩ }
  have room : sys.Room 2 := fun kind => by cases kind <;> decide +kernel
  have closed : ∀ tx, ¬sys.store.isOpen tx := not_isOpen (by decide +kernel)
  have ends := transferMoney_outcome t 1 (Opener.programs t) Opener.openings default rfl closed
    (by decide +kernel) (by decide +kernel)
  obtain ⟨count, p, outcome, there, finished, succeeds, transferred, -⟩ := ends
  obtain ⟨posting, rfl⟩ := succeeds.mpr covered
  obtain ⟨transferred, new⟩ := transferred posting rfl
  exact ⟨covered, room, count, p, posting, there, finished, transferred, new room⟩

end Store.System

end Passbook
