import Passbook.Proofs.Record
import Passbook.Work.Transaction

/-!
# Lists of rows

A transaction can read a row by its number, and it can list rows page by page. Both look at the
committed rows and at those it has written itself, each in a way of its own, and they agree: page
after page, from the first on and up to one that is not full, there are all the rows that belong on
the list and are found by their numbers, each once and in the order of the numbers (`listing_run`).
-/

namespace Passbook

open Store
open Outbox (Message Status)

-- ---------------------------------------------------------------------------
-- Lists
-- ---------------------------------------------------------------------------

/-- What can be listed page by page. -/
inductive Listing
  | accounts (owner : Option String)
  | entries (accountId : AccountId)
  /-- The transfers between two accounts, in either direction. -/
  | transfers (fromAccountId toAccountId : AccountId)

namespace Listing

abbrev kind : Listing → RowKind
  | accounts _ => .account
  | entries _ => .entry
  | transfers .. => .transfer

abbrev Row : Listing → Type
  | accounts _ => Account
  | entries _ => Entry
  | transfers .. => Transfer

def id : (l : Listing) → l.Row → Id l.kind
  | accounts _, row => row.id
  | entries _, row => row.id
  | transfers .., row => row.id

/-- The row belongs on the list. -/
def Admits : (l : Listing) → l.Row → Prop
  | accounts owner, row => ∀ name ∈ owner, row.owner = name
  | entries accountId, row => row.accountId = accountId
  | transfers a b, row => row.fromAccountId = a ∧ row.toAccountId = b ∨
      row.fromAccountId = b ∧ row.toAccountId = a

/-- What a transaction does to the store and is answered when it reads a row by its number. -/
def readRow (s : Store) (tx : TxId) (now : Instant) : (l : Listing) → Id l.kind →
    Store × Turn l.Row
  | accounts _, id => s.advance tx now (Query.getAccount id).plan
  | entries _, id => s.advance tx now (Query.getEntry id).plan
  | transfers .., id => s.advance tx now (Query.getTransfer id).plan

/-- What a transaction does to the store and is answered when it reads a page. -/
def readPage (s : Store) (tx : TxId) (now : Instant) (limit offset : UInt32) : (l : Listing) →
    Store × Turn (List l.Row)
  | accounts owner => s.advance tx now (Query.listAccounts { owner, limit, offset }).plan
  | entries accountId => s.advance tx now (Query.listEntries { accountId, limit, offset }).plan
  | transfers fromAccountId toAccountId =>
    s.advance tx now (Query.listTransfers { fromAccountId, toAccountId, limit, offset }).plan

variable {l : Listing} {s : Store} {tx : TxId} {rows : List l.Row}

/-- These are the rows that belong on the list and that the transaction finds by their numbers, in
the order of these. -/
structure Complete (l : Listing) (s : Store) (tx : TxId) (rows : List l.Row) : Prop where
  ascending : (rows.map fun row => (l.id row).value).Pairwise (· < ·)
  members : ∀ now row, row ∈ rows ↔
    l.Admits row ∧ l.readRow s tx now (l.id row) = (s, .finished (.ok row))

/-- The pages that the transaction reads from an offset on, up to the first that is not full. -/
inductive Pages (l : Listing) (s : Store) (tx : TxId) (limit : UInt32) :
    (offset : UInt32) → List (List l.Row) → Prop
  | last {offset : UInt32} {rows : List l.Row} (now : Instant) :
      l.readPage s tx now limit offset = (s, .finished (.ok rows)) → rows.length < limit.toNat →
      Pages l s tx limit offset [rows]
  | more {offset : UInt32} {rows : List l.Row} {rest : List (List l.Row)} (now : Instant) :
      l.readPage s tx now limit offset = (s, .finished (.ok rows)) → ¬rows.length < limit.toNat →
      Pages l s tx limit (offset + limit) rest → Pages l s tx limit offset (rows :: rest)

end Listing

-- ---------------------------------------------------------------------------
-- Pages
-- ---------------------------------------------------------------------------

/-- A page that is not full is the last one. -/
theorem page_short {rows : List α} {limit offset : UInt32}
    (short : (page rows limit offset).length < limit.toNat) :
    page rows limit offset = rows.drop offset.toNat := by
  rw [page, List.length_take] at short
  exact List.take_of_length_le (by omega)

/-- After a full page, the next offset is still within the rows. -/
theorem next_offset {rows : List α} {limit offset : UInt32}
    (full : ¬(page rows limit offset).length < limit.toNat) (few : rows.length < UInt32.size)
    (within : offset.toNat ≤ rows.length) :
    (offset + limit).toNat = offset.toNat + limit.toNat ∧
      offset.toNat + limit.toNat ≤ rows.length := by
  rw [page, List.length_take, List.length_drop] at full
  rw [UInt32.toNat_add]
  unfold UInt32.size at few
  omega

namespace Listing

variable {l : Listing} {s : Store} {tx : TxId} {rows : List l.Row} {limit : UInt32}

/-- Whatever page is read is that page of these rows. -/
def Reads (l : Listing) (s : Store) (tx : TxId) (rows : List l.Row) : Prop :=
  ∀ now limit offset,
    l.readPage s tx now limit offset = (s, .finished (.ok (page rows limit offset)))

theorem Pages.flatten {offset : UInt32} {pages : List (List l.Row)} (reads : l.Reads s tx rows)
    (few : rows.length < UInt32.size) (h : Pages l s tx limit offset pages)
    (within : offset.toNat ≤ rows.length) : pages.flatten = rows.drop offset.toNat := by
  induction h with
  | last now read short =>
    obtain rfl : page rows limit _ = _ := by simpa using (reads ..).symm.trans read
    rw [List.flatten_cons, List.flatten_nil, List.append_nil, page_short short]
  | @more offset _ rest now read full _ ih =>
    obtain rfl : page rows limit _ = _ := by simpa using (reads ..).symm.trans read
    obtain ⟨next, within'⟩ := next_offset full few within
    rw [List.flatten_cons, ih (next ▸ within'), next, ← List.drop_drop]
    exact List.take_append_drop ..

theorem Pages.exist {offset : UInt32} (reads : l.Reads s tx rows) (few : rows.length < UInt32.size)
    (pos : 0 < limit) (within : offset.toNat ≤ rows.length) :
    ∃ pages, Pages l s tx limit offset pages := by
  by_cases full : (page rows limit offset).length < limit.toNat
  · exact ⟨_, .last default (reads ..) full⟩
  · -- A full page ends within the rows, so that the next offset does not wrap around.
    obtain ⟨next, within'⟩ := next_offset full few within
    have less : rows.length - (offset + limit).toNat < rows.length - offset.toNat := by
      have : 0 < limit.toNat := pos
      omega
    have after : ∃ pages, Pages l s tx limit (offset + limit) pages :=
      Pages.exist reads few pos (by omega)
    obtain ⟨rest, h⟩ := after
    exact ⟨_, .more default (reads ..) full h⟩
termination_by rows.length - offset.toNat

end Listing

-- ---------------------------------------------------------------------------
-- Rows in the order of their numbers
-- ---------------------------------------------------------------------------

section
variable {kind : RowKind} {ν : Type} {t : Table (Id kind) ν} {id : ν → Id kind}

theorem Table.mem_values_filter (keyed : ∀ {k row}, t.get? k = some row → id row = k)
    {keep : ν → Bool} {row : ν} :
    row ∈ (t.filter keep).values ↔ keep row ∧ t.get? (id row) = some row := by
  simp only [Table.mem_values, Table.get?_filter, Option.filter_eq_some_iff]
  constructor
  · rintro ⟨k, found, kept⟩
    exact ⟨kept, (keyed found).symm ▸ found⟩
  · rintro ⟨kept, found⟩
    exact ⟨_, found, kept⟩

theorem Table.ascending_values_filter (keyed : ∀ {k row}, t.get? k = some row → id row = k)
    (keep : ν → Bool) :
    ((t.filter keep).values.map fun row => (id row).value).Pairwise (· < ·) := by
  have kept : ∀ {k row}, (t.filter keep).get? k = some row → id row = k := Table.keyed_filter keyed
  have ordered := Table.ascending_values kept
  exact List.pairwise_map.mpr (ordered.imp fun {a b} less => compareOfLessAndEq_eq_lt.mp less)

end

namespace Listing

variable {l : Listing} {s : Store} {tx : TxId}

/-- The rows of the list in these tables. -/
def rows (t : Tables) : (l : Listing) → List l.Row
  | accounts owner => (t.accounts.filter (AccountPage.admits { owner })).values
  | entries accountId => (t.entries.filter (EntryPage.admits { accountId })).values
  | transfers a b => (t.transfers.filter (TransferPage.admits ⟨a, b, 0, 0⟩)).values

/-- What the transaction would leave behind if it were committed now. -/
def seen (s : Store) (tx : TxId) : Tables := (s.view tx default).published

theorem advance_page (f : View → List α) {now : Instant} {rows : List α}
    (listed : f (s.view tx now) = rows) (limit offset : UInt32) :
    s.advance tx now (.read fun v => .ok (page (f v) limit offset)) =
      (s, .finished (.ok (page rows limit offset))) := by
  rw [advance_read, listed]

theorem advance_require [ToString κ] (f : View → Option α) {now : Instant} {entity : String}
    {key : κ} {row : α} {found : Option α} (sees : f (s.view tx now) = found) :
    s.advance tx now (.read fun v => View.require entity key (f v)) = (s, .finished (.ok row)) ↔
      found = some row := by
  rw [advance_read, sees]
  simp [require_ok]

theorem reads (g : s.Guarded) : l.Reads s tx (l.rows (seen s tx)) := by
  intro now limit offset
  have shows := (g.keyed tx now).shows
  cases l with
  | accounts owner => exact advance_page (·.accounts _) (shows.accounts _) limit offset
  | entries accountId => exact advance_page (·.entries _) (shows.entries _) limit offset
  | transfers a b => exact advance_page (·.transfers _) (shows.transfers _) limit offset

theorem complete (g : s.Guarded) : l.Complete s tx (l.rows (seen s tx)) where
  ascending := by
    have keyed := (g.keyed tx default).published
    cases l with
    | accounts => exact Table.ascending_values_filter keyed.accounts _
    | entries => exact Table.ascending_values_filter keyed.entries _
    | transfers => exact Table.ascending_values_filter keyed.transfers _
  members now row := by
    have keyed := (g.keyed tx now).published
    have shows := (g.keyed tx now).shows
    cases l with
    | accounts owner =>
      refine (Table.mem_values_filter keyed.accounts).trans (and_congr ?_ ?_)
      · cases owner <;> simp [Admits, AccountPage.admits, eq_comm]
      · exact (advance_require (·.account? row.id) (shows.account row.id)).symm
    | entries accountId =>
      refine (Table.mem_values_filter keyed.entries).trans (and_congr ?_ ?_)
      · simp [Admits, EntryPage.admits]
      · exact (advance_require (fun v => v.entry? row.id) (shows.entry row.id)).symm
    | transfers a b =>
      refine (Table.mem_values_filter keyed.transfers).trans (and_congr ?_ ?_)
      · simp [Admits, TransferPage.admits]
      · exact (advance_require (·.transfer? row.id) (shows.transfer row.id)).symm

theorem Complete.unique {rows rows' : List l.Row} (h : l.Complete s tx rows)
    (h' : l.Complete s tx rows') : rows = rows' := by
  -- Both have the same members, and there is one way to put these in order.
  have ordered := List.pairwise_map.mp h.ascending
  have ordered' := List.pairwise_map.mp h'.ascending
  have once : ∀ {rows : List l.Row},
      rows.Pairwise (fun a b => (l.id a).value < (l.id b).value) → rows.Nodup := by
    refine fun ordered => ordered.imp fun {a b} less => ?_
    rintro rfl
    exact Int64.lt_irrefl less
  refine List.Perm.eq_of_pairwise (fun a b _ _ less less' => ?_) ordered ordered'
    ((List.perm_ext_iff_of_nodup (once ordered) (once ordered')).mpr fun row => ?_)
  · exact absurd (Int64.lt_trans less less') Int64.lt_irrefl
  · rw [h.members default, h'.members default]

end Listing

-- ---------------------------------------------------------------------------
-- Any state of a store
-- ---------------------------------------------------------------------------

namespace Store

/-- These are the messages of a status, or all messages, that the transaction sees, in the order of
their numbers, and what it reads when it lists them are the first of these. -/
structure MessagesListed (s : Store) (tx : TxId) (status : Option Status) (rows : List Message) :
    Prop where
  ascending : (rows.map (·.id.value)).Pairwise (· < ·)
  members : ∀ now row, row ∈ rows ↔ (∀ wanted ∈ status, row.status = wanted) ∧
    (s.view tx now).message? row.id = some row
  read : ∀ now limit, s.advance tx now (Query.listMessages status limit).plan =
    (s, .finished (.ok (rows.take limit.toNat)))

theorem Guarded.messages_listed {s : Store} (g : s.Guarded) (tx : TxId) (status : Option Status) :
    ∃ rows, MessagesListed s tx status rows := by
  have keyed := (g.keyed tx default).published
  refine ⟨(((s.view tx default).published.messages.filter fun row =>
      status.all (row.status = ·))).values,
    Table.ascending_values_filter keyed.messages _, fun now row => ?_, fun now limit => ?_⟩
  · refine (Table.mem_values_filter keyed.messages).trans (and_congr ?_ ?_)
    · cases status <;> simp
    · exact ((g.keyed tx now).shows.message row.id) ▸ .rfl
  · exact Listing.advance_page (·.messages _) ((g.keyed tx now).shows.messages _) limit 0

namespace System

variable {Name : Type} [DecidableEq Name] {Result : Name → Type}

/-- In any state of a store, a transaction that lists accounts, entries, or transfers page by page
reads all rows that belong on the list and that it finds by their numbers, each once, in the order
of the numbers. When it lists messages, it reads the first of those that it sees. -/
theorem listing_run (connections : Nat) (programs : (name : Name) → Program (Result name))
    (happenings : List (Happening Name)) (tx : TxId) :
    let s := ((start connections programs).run happenings).store
    (∀ l : Listing, ∃ rows, l.Complete s tx rows ∧
      ∀ limit : UInt32, 0 < limit → rows.length < UInt32.size →
        (∃ pages, l.Pages s tx limit 0 pages) ∧
          ∀ pages, l.Pages s tx limit 0 pages → pages.flatten = rows) ∧
    ∀ status, ∃ rows, MessagesListed s tx status rows := by
  intro s
  have g : s.Guarded := (guarded_run connections programs happenings).store
  refine ⟨fun l => ⟨_, Listing.complete g, fun limit pos few => ⟨?_, fun pages h => ?_⟩⟩,
    g.messages_listed tx⟩
  · exact Listing.Pages.exist (Listing.reads g) few pos (Nat.zero_le _)
  · exact Listing.Pages.flatten (Listing.reads g) few h (Nat.zero_le _)

/-- The first task opens three accounts. The second one deletes one of them, changes another, and
opens a new one. -/
def restocking : Fin 2 → Program (Except Error Unit)
  | 0 => Work.runInTransaction do
    let _ ← Work.query (.createAccount ⟨"alice", 0, .usd⟩)
    let _ ← Work.query (.createAccount ⟨"bob", 20, .usd⟩)
    let _ ← Work.query (.createAccount ⟨"carol", 30, .usd⟩)
  | 1 => Work.runInTransaction do
    let _ ← Work.query (.deleteAccount ⟨1⟩)
    let _ ← Work.query (.adjustBalance ⟨⟨2⟩, 5⟩)
    let _ ← Work.query (.createAccount ⟨"dave", 40, .usd⟩)

theorem listing_restocking :
    let s := ((start 1 restocking).run (steps 0 20 ++ steps 1 10)).store
    s.committed.accounts.values.map (fun row => (row.owner, row.balance)) =
        [("alice", 0), ("bob", 20), ("carol", 30)] ∧
      ∃ rows pages, (Listing.accounts none).Complete s 1 rows ∧
        rows.map (fun row => (row.owner, row.balance)) =
          [("bob", 25), ("carol", 30), ("dave", 40)] ∧
        (Listing.accounts none).Pages s 1 2 0 pages ∧ pages.flatten = rows := by
  intro s
  have g : s.Guarded := (guarded_run 1 restocking _).store
  obtain ⟨rows, complete, paged⟩ :=
    (listing_run 1 restocking (steps 0 20 ++ steps 1 10) 1).1 (.accounts none)
  obtain rfl := complete.unique (Listing.complete g)
  obtain ⟨⟨pages, read⟩, all⟩ := paged 2 (by decide) (by decide +kernel)
  exact ⟨by decide +kernel, _, pages, complete, by decide +kernel, read, all pages read⟩

end System

end Store

end Passbook
