import Passbook.Proofs.Numbering

/-!
# Journals

What a transaction has written of entries, transfers and deleted accounts is what its journal says
(`Journaled`), and the committed entries and transfers are those of the committed journals
(`Booked`). None of this depends on what the tasks run.
-/

namespace Passbook.Store

-- ---------------------------------------------------------------------------
-- Rows that deeds have made
-- ---------------------------------------------------------------------------

def Deed.entry? : Deed → Option Entry
  | ⟨.createEntry _, row, _⟩ => some row
  | _ => none

def Deed.transfer? : Deed → Option Transfer
  | ⟨.createTransfer _, row, _⟩ => some row
  | _ => none

def Deed.message? : Deed → Option Outbox.Message
  | ⟨.enqueue _, row, _⟩ => some row
  | _ => none

def entriesOf (deeds : List Deed) : List Entry := deeds.filterMap Deed.entry?

def transfersOf (deeds : List Deed) : List Transfer := deeds.filterMap Deed.transfer?

def messagesOf (deeds : List Deed) : List Outbox.Message := deeds.filterMap Deed.message?

theorem entriesOf_append (first rest : List Deed) :
    entriesOf (first ++ rest) = entriesOf first ++ entriesOf rest := List.filterMap_append

theorem transfersOf_append (first rest : List Deed) :
    transfersOf (first ++ rest) = transfersOf first ++ transfersOf rest := List.filterMap_append

theorem messagesOf_append (first rest : List Deed) :
    messagesOf (first ++ rest) = messagesOf first ++ messagesOf rest := List.filterMap_append

theorem entry_number (d : Deed) (row : Entry) (h : d.entry? = some row) :
    d.number? = some ⟨.entry, row.id⟩ := by
  obtain ⟨q, made, now⟩ := d
  cases q with
  | createEntry entry =>
    obtain rfl := Option.some.inj h
    rfl
  | _ => exact nomatch h

theorem transfer_number (d : Deed) (row : Transfer) (h : d.transfer? = some row) :
    d.number? = some ⟨.transfer, row.id⟩ := by
  obtain ⟨q, made, now⟩ := d
  cases q with
  | createTransfer t =>
    obtain rfl := Option.some.inj h
    rfl
  | _ => exact nomatch h

theorem message_number (d : Deed) (row : Outbox.Message) (h : d.message? = some row) :
    d.number? = some ⟨.outbox, row.id⟩ := by
  obtain ⟨q, made, now⟩ := d
  cases q with
  | enqueue message =>
    obtain rfl := Option.some.inj h
    rfl
  | _ => exact nomatch h

theorem sublist_filterMap {f g : α → Option β} {l : List α} (h : ∀ a, f a = none ∨ f a = g a) :
    (l.filterMap f).Sublist (l.filterMap g) := by
  induction l with
  | nil => exact .refl _
  | cons a rest ih =>
    rw [List.filterMap_cons, List.filterMap_cons]
    rcases h a with none | same
    · rw [none]
      cases g a with
      | none => exact ih
      | some b => exact ih.cons b
    · rw [same]
      cases g a with
      | none => exact ih
      | some b => exact ih.cons_cons b

/-- Rows have different numbers when they bear the numbers of the deeds that made them. -/
theorem nodup_made {kind : RowKind} {made : Deed → Option ν} {id : ν → Id kind} {deeds : List Deed}
    (bears : ∀ d row, made d = some row → d.number? = some ⟨kind, id row⟩)
    (distinct : (numbersOf deeds).Nodup) : ((deeds.filterMap made).map id).Nodup := by
  have numbers : (((deeds.filterMap made).map id).map fun id => (⟨kind, id⟩ : Number)).Sublist
      (numbersOf deeds) := by
    rw [List.map_map, List.map_filterMap]
    refine sublist_filterMap fun d => ?_
    cases h : made d with
    | none => exact .inl rfl
    | some row => exact .inr (bears d row h).symm
  exact (numbers.nodup distinct).of_map _

theorem number_of_row {kind : RowKind} {made : Deed → Option ν} {id : ν → Id kind}
    {deeds : List Deed} {row : ν}
    (bears : ∀ d row, made d = some row → d.number? = some ⟨kind, id row⟩)
    (h : row ∈ deeds.filterMap made) : ⟨kind, id row⟩ ∈ numbersOf deeds := by
  obtain ⟨d, hd, hrow⟩ := List.mem_filterMap.mp h
  exact List.mem_filterMap.mpr ⟨d, hd, bears d row hrow⟩

/-- A table of rows that some deeds have made has no other numbers. -/
theorem number_of_key {kind : RowKind} {made : Deed → Option ν} {id : ν → Id kind}
    {deeds : List Deed} {key : Id kind} {row : ν}
    (bears : ∀ d row, made d = some row → d.number? = some ⟨kind, id row⟩)
    (h : (Table.ofRows id (deeds.filterMap made)).get? key = some row) :
    ⟨kind, key⟩ ∈ numbersOf deeds := by
  obtain ⟨there, rfl⟩ := Table.mem_of_ofRows h
  exact number_of_row bears there

def Tables.Names (t : Tables) (id : AccountId) : Prop :=
  (∃ row ∈ t.entries.values, row.accountId = id) ∨
    ∃ row ∈ t.transfers.values, row.fromAccountId = id ∨ row.toAccountId = id

theorem isReferenced_false {v : View} {id : AccountId} (h : v.isReferenced id = false) :
    ¬v.committed.Names id ∧ ¬v.own.written.Names id := by
  simp only [View.isReferenced, Bool.or_eq_false_iff, List.any_eq_false, decide_eq_true_eq] at h
  obtain ⟨⟨⟨entries, entries'⟩, transfers⟩, transfers'⟩ := h
  constructor
  · rintro (⟨row, hrow, here⟩ | ⟨row, hrow, here⟩)
    · exact entries row hrow here
    · exact transfers row hrow (by simpa using here)
  · rintro (⟨row, hrow, here⟩ | ⟨row, hrow, here⟩)
    · exact entries' row hrow here
    · exact transfers' row hrow (by simpa using here)

-- ---------------------------------------------------------------------------
-- Open transactions
-- ---------------------------------------------------------------------------

/-- The deed was once done: its row is what its query came to. -/
def Deed.Done (d : Deed) : Prop := ∃ v number change, d.query.Did v number d.row change

theorem entry_done {entry : NewEntry} {row : Entry} (h : Deed.Done ⟨.createEntry entry, row, now⟩) :
    row.accountId = entry.accountId ∧ row.amount = entry.amount := by
  obtain ⟨v, number, change, did⟩ := h
  cases did with
  | createEntry _ hr =>
    subst hr
    exact ⟨rfl, rfl⟩
  | read reads => exact nomatch reads

theorem transfer_done {t : NewTransfer} {row : Transfer}
    (h : Deed.Done ⟨.createTransfer t, row, now⟩) : ¬t.amount ≤ 0 ∧
      row.fromAccountId = t.fromAccountId ∧ row.toAccountId = t.toAccountId ∧
      row.amount = t.amount := by
  obtain ⟨v, number, change, did⟩ := h
  cases did with
  | createTransfer positive _ _ hr =>
    subst hr
    exact ⟨positive, rfl, rfl, rfl⟩
  | read reads => exact nomatch reads

/-- What a transaction with the locks `held` has written is what its journal says. -/
structure Journaled (held : RowKey → Prop) (own : Transaction) (journal : List Deed) : Prop where
  held : ∀ d ∈ journal, ∀ key ∈ d.query.locks d.row, held key
  done : ∀ d ∈ journal, d.Done
  entries : own.written.entries = .ofRows Entry.id (entriesOf journal)
  transfers : own.written.transfers = .ofRows Transfer.id (transfersOf journal)
  deleted : ∀ id ∈ own.deleted, .deleteAccount id ∈ journal.map Deed.query
  changed : ∀ a, .adjustBalance a ∈ journal.map Deed.query →
    a.accountId ∈ own.deleted ∨ (own.written.accounts.get? a.accountId).isSome

namespace Journaled

variable {held held' : RowKey → Prop} {own : Transaction} {journal : List Deed}

theorem empty : Journaled held {} [] where
  held _ h := nomatch h
  done _ h := nomatch h
  entries := rfl
  transfers := rfl
  deleted _ h := nomatch h
  changed _ h := nomatch h

theorem hold (j : Journaled held own journal) (sub : ∀ key, held key → held' key) :
    Journaled held' own journal :=
  { j with held := fun d hd key hk => sub key (j.held d hd key hk) }

end Journaled

variable {q : Query} {row : q.Row} {own : Transaction} {journal : List Deed} {held : RowKey → Prop}

theorem entries_apply (now : Instant) (own : Transaction) (did : q.Did v number row change) :
    (own.apply change).written.entries = (entriesOf [⟨q, row, now⟩]).foldl
      (fun t row => t.insert row.id row) own.written.entries := by
  cases did with
  | read reads => cases q <;> first | rfl | exact nomatch reads
  | _ => rfl

theorem transfers_apply (now : Instant) (own : Transaction) (did : q.Did v number row change) :
    (own.apply change).written.transfers = (transfersOf [⟨q, row, now⟩]).foldl
      (fun t row => t.insert row.id row) own.written.transfers := by
  cases did with
  | read reads => cases q <;> first | rfl | exact nomatch reads
  | _ => rfl

theorem deleted_apply (own : Transaction) (did : q.Did v number row change) :
    ∀ id ∈ (own.apply change).deleted, q = .deleteAccount id ∨ id ∈ own.deleted := by
  intro id h
  cases did with
  | deleteAccount => exact (List.mem_cons.mp h).imp_left fun same => congrArg _ same.symm
  | _ => exact .inr h

theorem changed_apply {id : AccountId} (change : Change)
    (h : id ∈ own.deleted ∨ (own.written.accounts.get? id).isSome) :
    id ∈ (own.apply change).deleted ∨ ((own.apply change).written.accounts.get? id).isSome := by
  cases change with
  | account row =>
    refine h.imp_right fun written => ?_
    rw [Transaction.apply, Table.get?_insert]
    split
    · rfl
    · exact written
  | deleteAccount deleted =>
    by_cases here : id = deleted
    · exact .inl (here ▸ List.mem_cons_self)
    · refine h.imp (List.mem_cons_of_mem _) fun written => ?_
      rw [Transaction.apply, Table.get?_erase, if_neg here]
      exact written
  | _ => exact h

theorem Journaled.did {v : View} (j : Journaled held v.own journal) (keyed : v.Keyed)
    (did : q.Did v number row change) (locked : ∀ key ∈ q.locks row, held key) :
    Journaled held (v.own.apply change) (journal ++ [⟨q, row, now⟩]) where
  held d hd := by
    rcases List.mem_append.mp hd with hd | hd
    · exact j.held d hd
    · obtain rfl := List.mem_singleton.mp hd
      exact locked
  done d hd := by
    rcases List.mem_append.mp hd with hd | hd
    · exact j.done d hd
    · obtain rfl := List.mem_singleton.mp hd
      exact ⟨v, number, change, did⟩
  entries := by
    rw [entries_apply now v.own did, j.entries, entriesOf_append, Table.ofRows_append]
  transfers := by
    rw [transfers_apply now v.own did, j.transfers, transfersOf_append, Table.ofRows_append]
  deleted id hid := by
    rw [List.map_append, List.map_singleton]
    rcases deleted_apply v.own did id hid with rfl | hid
    · exact List.mem_append_right _ (List.mem_singleton_self _)
    · exact List.mem_append_left _ (j.deleted id hid)
  changed a ha := by
    rw [List.map_append, List.map_singleton] at ha
    rcases List.mem_append.mp ha with ha | ha
    · exact changed_apply change (j.changed a ha)
    · obtain rfl : Query.adjustBalance a = q := List.mem_singleton.mp ha
      cases did with
      | adjustBalance seen _ hr =>
        subst hr
        refine .inr ?_
        rw [Transaction.apply, Table.get?_insert, if_pos (keyed.account seen).symm]
        rfl
      | read reads => cases reads

-- ---------------------------------------------------------------------------
-- Systems
-- ---------------------------------------------------------------------------

namespace System

variable {Name : Type} [DecidableEq Name] {Result : Name → Type} {sys sys' : System Result}

/-- What open transactions have written is what their journals say, and the committed entries and
transfers are those of the committed journals. -/
structure Booked (sys : System Result) : Prop where
  opened : ∀ {tx own}, sys.store.transaction? tx = some own →
    Journaled (sys.store.Holds tx) own (sys.journals tx)
  entries : sys.store.committed.entries = .ofRows Entry.id (entriesOf (deedsOf sys.history))
  transfers : sys.store.committed.transfers =
    .ofRows Transfer.id (transfersOf (deedsOf sys.history))

omit [DecidableEq Name] in
theorem Booked.start (connections : Nat) (programs : (name : Name) → Program (Result name)) :
    (start connections programs).Booked where
  opened h := nomatch h
  entries := rfl
  transfers := rfl

omit [DecidableEq Name] in
theorem deedsOf_snoc (history : List (Commit Name)) (c : Commit Name) :
    deedsOf (history ++ [c]) = deedsOf history ++ c.deeds := by
  simp [deedsOf]

theorem Booked.happened (t : sys.Tidy) (g : sys.Guarded) (b : sys.Booked) (h : Happened sys sys') :
    sys'.Booked where
  opened {tx own} opened := by
    refine open_happened t g h opened .empty (fun before kept => (b.opened before).hold kept.holds)
      fun was does holds _ => ?_
    have locked := fun key hk => does.locked key (.inl hk)
    exact ((b.opened was).did (g.store.keyed tx _) does.did locked).hold holds
  entries := by
    cases recorded h with
    | same committed history => rw [committed, history, b.entries]
    | commit _ opened _ committed history =>
      rw [committed, history, deedsOf_snoc, entriesOf_append, ← Table.overlay_ofRows, ← b.entries,
        ← (b.opened opened).entries]
      rfl
  transfers := by
    cases recorded h with
    | same committed history => rw [committed, history, b.transfers]
    | commit _ opened _ committed history =>
      rw [committed, history, deedsOf_snoc, transfersOf_append, ← Table.overlay_ofRows,
        ← b.transfers, ← (b.opened opened).transfers]
      rfl

end System

end Passbook.Store
