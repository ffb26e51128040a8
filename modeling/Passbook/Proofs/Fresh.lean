import Passbook.Proofs.Lineage

/-!
# Fresh numbers

Of every kind the numbers one, two, three and so on are drawn, in this order
(`Numbered.drawn_eq`). Whatever has a number has one that was drawn (`Archived.drawn_used`): a
committed row, a row that an open transaction has written, a row that was returned before its
transaction was rolled back, an account that has been deleted. So long as the sequences do not run
out of positive numbers, the next one is that of nothing (`neverReused_run`).
-/

namespace Passbook.Store

-- ---------------------------------------------------------------------------
-- Sequences
-- ---------------------------------------------------------------------------

theorem ofNat_toInt {i : Nat} (room : (i : Int) ≤ Int64.maxValue.toInt) :
    (Int64.ofNat i).toInt = i :=
  Int64.toInt_ofNat_of_lt (Nat.lt_succ_of_le (Int.ofNat_le.mp room))

theorem ofNat_lt {i j : Nat} (h : i < j) (room : (j : Int) ≤ Int64.maxValue.toInt) :
    Int64.ofNat i < Int64.ofNat j := by
  have h : (i : Int) < j := Int.ofNat_lt.mpr h
  rwa [Int64.lt_iff_toInt_lt, ofNat_toInt room, ofNat_toInt (Int.le_trans (Int.le_of_lt h) room)]

/-- The first numbers ascend as long as they are positive. -/
theorem firstNumbers_ascending {count : Nat} (room : (count : Int) ≤ Int64.maxValue.toInt) :
    (firstNumbers count).Pairwise (· < ·) := by
  refine List.pairwise_map.mpr (List.pairwise_lt_range.imp_of_mem fun {i j} _ hj h => ?_)
  have hj : ((j + 1 : Nat) : Int) ≤ count := Int.ofNat_le.mpr (List.mem_range.mp hj)
  exact ofNat_lt (Nat.succ_lt_succ h) (Int.le_trans hj room)

theorem firstNumbers_between {count : Nat} (room : (count : Int) ≤ Int64.maxValue.toInt)
    (h : number ∈ firstNumbers count) : 0 < number ∧ number ≤ .ofNat count := by
  obtain ⟨i, hi, rfl⟩ := List.mem_map.mp h
  have hi : ((i + 1 : Nat) : Int) ≤ count := Int.ofNat_le.mpr (List.mem_range.mp hi)
  have here := Int.le_trans hi room
  have first : Int64.ofNat 0 < Int64.ofNat (i + 1) := ofNat_lt (Nat.succ_pos i) here
  refine ⟨first, ?_⟩
  rw [Int64.le_iff_toInt_le, ofNat_toInt here, ofNat_toInt room]
  exact hi

/-- A row of the table of this kind has the number. -/
def Tables.HasRow (t : Tables) : {kind : RowKind} → Id kind → Prop
  | .account, id => ∃ row, t.accounts.get? id = some row
  | .entry, id => ∃ row, t.entries.get? id = some row
  | .transfer, id => ∃ row, t.transfers.get? id = some row
  | .outbox, id => ∃ row, t.messages.get? id = some row

/-- Deeds of the same number are the same deed. -/
theorem deed_unique {deeds : List Deed} {i j : Nat} {d d' : Deed}
    (distinct : (numbersOf deeds).Nodup) (first : deeds[i]? = some d)
    (second : deeds[j]? = some d') (made : d.number? = some number)
    (again : d'.number? = some number) : i = j := by
  obtain ⟨hi, rfl⟩ := List.getElem?_eq_some_iff.mp first
  obtain ⟨hj, rfl⟩ := List.getElem?_eq_some_iff.mp second
  have apart := List.pairwise_iff_getElem.mp (List.pairwise_filterMap.mp distinct)
  rcases Nat.lt_trichotomy i j with h | h | h
  · exact absurd rfl (apart i j hi hj h number made number again)
  · exact h
  · exact absurd rfl (apart j i hj hi h number again number made)

-- ---------------------------------------------------------------------------
-- Systems
-- ---------------------------------------------------------------------------

namespace System

variable {Name : Type} [DecidableEq Name] {Result : Name → Type} {sys sys' : System Result}

/-- The numbers of a kind that have been drawn, in order. -/
def drawn (sys : System Result) (kind : RowKind) : List Int64 := ofKind kind (sys.draws.map (·.2))

/-- Fewer numbers have been drawn of every kind than there are positive ones. -/
def BelowLimit (sys : System Result) : Prop :=
  ∀ kind, ((sys.drawn kind).length : Int) < Int64.maxValue.toInt

/-- The query that succeeded in the transaction after `i` others has made a row with this
number. -/
def Returned (sys : System Result) (tx : TxId) (i : Nat) (number : Number) : Prop :=
  ∃ deed, (sys.journals tx)[i]? = some deed ∧ deed.number? = some number

/-- Something has the number, or has had it. -/
inductive InUse (sys : System Result) : {kind : RowKind} → Id kind → Prop
  | committed {kind : RowKind} {id : Id kind} : sys.store.committed.HasRow id → InUse sys id
  | written {kind : RowKind} {id : Id kind} {tx : TxId} {own : Transaction} :
      sys.store.transaction? tx = some own → own.written.HasRow id → InUse sys id
  | returned {kind : RowKind} {id : Id kind} {tx : TxId} {i : Nat} :
      sys.Returned tx i ⟨kind, id⟩ → InUse sys id
  | deleted {id : AccountId} {tx : TxId} :
      .deleteAccount id ∈ (sys.journals tx).map Deed.query → InUse sys id

section

omit [DecidableEq Name]

/-- The numbers of accounts that were deleted had been drawn. -/
def DeletedDrawn (sys : System Result) : Prop :=
  ∀ tx id, .deleteAccount id ∈ (sys.journals tx).map Deed.query → id.value ∈ sys.drawn .account

theorem BelowLimit.enough (below : sys.BelowLimit) : sys.Enough := fun kind => by
  have limit : Int64.maxValue.toInt ≤ Int64.size := by decide
  exact Int.ofNat_le.mp (Int.le_trans (Int.le_of_lt (below kind)) limit)

theorem Numbered.drawn_eq (n : sys.Numbered) (kind : RowKind) :
    sys.drawn kind = firstNumbers (sys.drawn kind).length ∧
      sys.store.sequences.last kind = .ofNat (sys.drawn kind).length := by
  obtain ⟨count, numbers, last⟩ := n.counted kind
  have length : (sys.drawn kind).length = count :=
    (congrArg List.length numbers).trans (firstNumbers_length count)
  rw [length]
  exact ⟨numbers, last⟩

theorem Numbered.next_eq (n : sys.Numbered) (kind : RowKind) :
    (sys.store.sequences.draw kind).1.value = .ofNat ((sys.drawn kind).length + 1) := by
  have next : (sys.store.sequences.draw kind).1.value = sys.store.sequences.last kind + 1 :=
    (last_draw sys.store.sequences kind kind).trans (if_pos rfl)
  rw [next, (n.drawn_eq kind).2, Int64.ofNat_add]
  rfl

theorem Numbered.ascending (n : sys.Numbered) (below : sys.BelowLimit) (kind : RowKind) :
    (sys.drawn kind).Pairwise (· < ·) := by
  rw [(n.drawn_eq kind).1]
  exact firstNumbers_ascending (Int.le_of_lt (below kind))

theorem Numbered.last_lt (n : sys.Numbered) (below : sys.BelowLimit) (kind : RowKind) :
    sys.store.sequences.last kind < (sys.store.sequences.draw kind).1.value := by
  rw [n.next_eq, (n.drawn_eq kind).2]
  exact ofNat_lt (Nat.lt_succ_self _) (below kind)

theorem mem_drawn {kind : RowKind} {id : Id kind} (h : (tx, ⟨kind, id⟩) ∈ sys.draws) :
    id.value ∈ sys.drawn kind :=
  List.mem_filterMap.mpr ⟨⟨kind, id⟩, List.mem_map.mpr ⟨_, h, rfl⟩, if_pos rfl⟩

theorem Numbered.drawn_made {kind : RowKind} {id : Id kind} (n : sys.Numbered)
    (made : ⟨kind, id⟩ ∈ numbersOf (sys.journals tx)) : id.value ∈ sys.drawn kind :=
  mem_drawn (n.drawn made)

namespace Archived

variable {kind : RowKind} {id : Id kind} {own : Transaction}

theorem drawn_filed (a : sys.Archived) (made : ⟨kind, id⟩ ∈ numbersOf (deedsOf sys.history)) :
    id.value ∈ sys.drawn kind := by
  obtain ⟨c, -, drawn⟩ := a.numbered.drawn_committed a.filed made
  exact mem_drawn drawn

theorem drawn_committed (a : sys.Archived) (there : sys.store.committed.HasRow id) :
    id.value ∈ sys.drawn kind := by
  refine a.drawn_filed ?_
  cases kind <;> obtain ⟨row, found⟩ := there
  case account => exact a.lineal.accounts found
  case entry => exact number_of_key entry_number (a.booked.entries ▸ found)
  case transfer => exact number_of_key transfer_number (a.booked.transfers ▸ found)
  case outbox => exact a.lineal.messages found

theorem drawn_written (a : sys.Archived) (opened : sys.store.transaction? tx = some own)
    (there : own.written.HasRow id) : id.value ∈ sys.drawn kind := by
  have inherited := a.lineal.inherited opened
  have booked := a.booked.opened opened
  cases kind <;> obtain ⟨row, found⟩ := there
  case account =>
    rcases inherited.account found with made | ⟨old, found, -⟩
    · exact a.numbered.drawn_made made
    · exact a.drawn_committed ⟨old, found⟩
  case entry =>
    exact a.numbered.drawn_made (number_of_key entry_number (booked.entries ▸ found))
  case transfer =>
    exact a.numbered.drawn_made (number_of_key transfer_number (booked.transfers ▸ found))
  case outbox =>
    rcases inherited.message found with ⟨made, new, rfl, -⟩ | ⟨old, found, -⟩
    · exact a.numbered.drawn_made (number_of_made new)
    · exact a.drawn_committed ⟨old, found⟩

/-- An account that a transaction sees has a number that was drawn. -/
theorem drawn_seen {id : AccountId} (a : sys.Archived)
    (opened : sys.store.transaction? tx = some own)
    (seen : (sys.store.view tx now).account? id = some row) : id.value ∈ sys.drawn .account := by
  rcases (a.lineal.view opened now).seen_account seen with made | ⟨old, found, -⟩
  · exact a.numbered.drawn_made made
  · exact a.drawn_committed ⟨old, found⟩

theorem drawn_used (a : sys.Archived) (d : sys.DeletedDrawn) (used : sys.InUse id) :
    id.value ∈ sys.drawn kind := by
  cases used with
  | committed there => exact a.drawn_committed there
  | written opened there => exact a.drawn_written opened there
  | returned returned =>
    obtain ⟨deed, there, number⟩ := returned
    exact a.numbered.drawn_made
      (List.mem_filterMap.mpr ⟨deed, List.mem_of_getElem? there, number⟩)
  | deleted deleted => exact d _ _ deleted

theorem returned_once (a : sys.Archived) (enough : sys.Enough)
    (returned : sys.Returned tx i number) (again : sys.Returned tx' j number) :
    tx = tx' ∧ i = j := by
  obtain ⟨d, first, made⟩ := returned
  obtain ⟨d', second, made'⟩ := again
  have distinct := a.numbered.nodup_draws enough
  have drawn := a.numbered.drawn (List.mem_filterMap.mpr ⟨d, List.mem_of_getElem? first, made⟩)
  have drawn' := a.numbered.drawn (List.mem_filterMap.mpr ⟨d', List.mem_of_getElem? second, made'⟩)
  obtain rfl : tx = tx' := congrArg Prod.fst (List.inj_on_of_nodup_map distinct drawn drawn' rfl)
  exact ⟨rfl, deed_unique (a.numbered.nodup_journal enough tx) first second made made'⟩

/-- What is in use is positive and not ahead of its sequence. -/
theorem used_between (a : sys.Archived) (d : sys.DeletedDrawn) (below : sys.BelowLimit)
    (used : sys.InUse id) : 0 < id.value ∧ id.value ≤ sys.store.sequences.last kind := by
  have drawn := a.drawn_used d used
  rw [(a.numbered.drawn_eq kind).1] at drawn
  rw [(a.numbered.drawn_eq kind).2]
  exact firstNumbers_between (Int.le_of_lt (below kind)) drawn

end Archived

end

theorem drawn_grows (h : Happened sys sys') (kind : RowKind) :
    sys.drawn kind <+: sys'.drawn kind :=
  ((draws_grow h).map _).filterMap _

theorem DeletedDrawn.happened (t : sys.Tidy) (g : sys.Guarded) (a : sys.Archived)
    (d : sys.DeletedDrawn) (h : Happened sys sys') : sys'.DeletedDrawn := by
  intro tx id deleted
  refine (drawn_grows h .account).subset ?_
  cases fate t g h tx with
  | closed _ journal => exact d tx id (journal ▸ deleted)
  | opened _ _ journal => exact nomatch journal ▸ deleted
  | kept _ journal => exact d tx id (journal ▸ deleted)
  | @did deed own change was does _ journal _ _ =>
    rw [journal, List.map_append] at deleted
    rcases List.mem_append.mp deleted with before | now
    · exact d tx id before
    · have query : deed.query = .deleteAccount id := (List.mem_singleton.mp now).symm
      obtain ⟨query', row, now⟩ := deed
      obtain rfl : query' = .deleteAccount id := query
      cases does.did with
      | deleteAccount seen => exact a.drawn_seen was seen
      | read reads => exact nomatch reads

-- ---------------------------------------------------------------------------
-- Runs
-- ---------------------------------------------------------------------------

theorem deletedDrawn_run (connections : Nat) (programs : (name : Name) → Program (Result name))
    (happenings : List (Happening Name)) :
    ((start connections programs).run happenings).DeletedDrawn := by
  refine (run_induction (motive := fun sys => sys.Archived ∧ sys.DeletedDrawn)
    ⟨.start .., fun _ _ h => nomatch h⟩ ?_ happenings).2
  rintro sys sys' t g ⟨a, d⟩ h
  exact ⟨a.happened t g h, d.happened t g a h⟩

/-- What is promised of the numbers from one state of a system to a later one. -/
structure NeverReused (before after : System Result) : Prop where
  /-- The numbers of a kind ascend in the order in which they are drawn. -/
  ascending : ∀ kind, (after.drawn kind).Pairwise (· < ·)
  /-- A transaction returns rows with the numbers that it has drawn, in their order. -/
  returned : ∀ tx, (numbersOf (after.journals tx)).Sublist (after.drawsOf tx)
  once : ∀ {tx tx' i j number}, after.Returned tx i number → after.Returned tx' j number →
    tx = tx' ∧ i = j
  used : ∀ {kind} {id : Id kind}, after.InUse id →
    0 < id.value ∧ id.value ≤ after.store.sequences.last kind
  fresh : ∀ kind, after.store.sequences.last kind < (after.store.sequences.draw kind).1.value ∧
    ¬after.InUse (after.store.sequences.draw kind).1
  /-- What was drawn in between was in use nowhere before. -/
  later : ∀ kind, ∃ more, after.drawn kind = before.drawn kind ++ more ∧
    ∀ id : Id kind, before.InUse id → id.value ∉ more

/-- However transactions are interleaved and however they end, a number that was drawn is not drawn
again, as long as there are positive numbers left. -/
theorem neverReused_run (connections : Nat) (programs : (name : Name) → Program (Result name))
    (earlier later : List (Happening Name)) :
    let after := fun happenings => (start connections programs).run happenings
    (after (earlier ++ later)).BelowLimit →
      NeverReused (after earlier) (after (earlier ++ later)) := by
  intro after below
  have archived : ∀ happenings, (after happenings).Archived := archived_run connections programs
  have deleted : ∀ happenings, (after happenings).DeletedDrawn :=
    deletedDrawn_run connections programs
  have a := archived (earlier ++ later)
  have ascending := a.numbered.ascending below
  have used : ∀ {kind} {id : Id kind}, (after (earlier ++ later)).InUse id →
      0 < id.value ∧ id.value ≤ (after (earlier ++ later)).store.sequences.last kind :=
    a.used_between (deleted _) below
  refine ⟨ascending, a.numbered.journals, a.returned_once below.enough, used, fun kind => ?_,
    fun kind => ?_⟩
  · have next := a.numbered.last_lt below kind
    exact ⟨next, fun again => absurd next (Int64.not_lt.mpr (used again).2)⟩
  · obtain ⟨more, drawn⟩ : (after earlier).drawn kind <+: (after (earlier ++ later)).drawn kind :=
      prefix_run (fun h => drawn_grows h kind) earlier later
    refine ⟨more, drawn.symm, fun id before again => ?_⟩
    -- whatever was in use had been drawn, and what is drawn afterwards is greater
    have both := ascending kind
    rw [← drawn] at both
    have first := (archived earlier).drawn_used (deleted earlier) before
    exact Int64.lt_irrefl ((List.pairwise_append.mp both).2.2 _ first _ again)

/-- In a run of fewer happenings than there are positive numbers, none runs out. -/
theorem belowLimit_run (connections : Nat) (programs : (name : Name) → Program (Result name))
    {happenings : List (Happening Name)} (h : (happenings.length : Int) < Int64.maxValue.toInt) :
    ((start connections programs).run happenings).BelowLimit := fun kind => by
  have drawn : (((start connections programs).run happenings).drawn kind).length ≤
      ((start connections programs).run happenings).draws.length :=
    Nat.le_trans (List.length_filterMap_le ..) (Nat.le_of_eq (List.length_map ..))
  have draws := draws_length_run connections programs happenings
  exact Int.lt_of_le_of_lt (Int.ofNat_le.mpr (Nat.le_trans drawn draws)) h

/-- Accounts that come to different ends: one is rolled back, one is deleted, one stays and one is
not committed yet. -/
inductive Registering
  | lost | closed | kept | underway
  deriving DecidableEq

def Registering.work (name : Registering) : Work Account := do
  let row ← Work.query (.createAccount ⟨"alice", 0, .usd⟩)
  match name with
  | .lost => throw (.validation "not wanted")
  | .closed =>
    Work.query (.deleteAccount row.id)
    return row
  | .kept | .underway => return row

def registering (happenings : List (Happening Registering)) :
    System fun _ : Registering => Except Error Account :=
  (start 2 fun name => Work.runInTransaction name.work).run happenings

/-- Numbers that were lost or given up leave gaps. -/
theorem neverReused_registering :
    let earlier := steps .lost 8 ++ steps .closed 10
    let later := steps .underway 3 ++ steps .kept 8
    (registering (earlier ++ later)).drawn .account = [1, 2, 3, 4] ∧
      (registering (earlier ++ later)).store.committed.accounts.values.map (·.id.value) = [4] ∧
      (registering (earlier ++ later)).BelowLimit ∧
      NeverReused (registering earlier) (registering (earlier ++ later)) := by
  intro earlier later
  have below : (registering (earlier ++ later)).BelowLimit :=
    belowLimit_run 2 _ (by decide +kernel)
  exact ⟨by decide +kernel, by decide +kernel, below,
    neverReused_run 2 (fun name : Registering => Work.runInTransaction name.work) earlier later
      below⟩

end System

end Passbook.Store
