import Mathlib.Data.List.Induction
import Mathlib.Data.List.Nodup
import Mathlib.Data.List.Sort
import Passbook.Store.Basic
import Passbook.Table.Lemmas

/-!
# Rows that are seen

A transaction sees the committed rows with its own in front of them. What it sees of each row is
what the commit leaves behind (`publish_account?` and its siblings), and a list of rows holds
exactly those that are also found by their keys (`mem_users` and its siblings).
-/

namespace Passbook

open Std

-- ---------------------------------------------------------------------------
-- Tables
-- ---------------------------------------------------------------------------

namespace Table

section
variable {κ ν : Type} [Ord κ]

theorem mem_values [LawfulEqOrd κ] {t : Table κ ν} {row : ν} :
    row ∈ t.values ↔ ∃ key, t.get? key = some row := by
  constructor
  · intro h
    obtain ⟨⟨key, _⟩, hmem, rfl⟩ := List.mem_map.mp h
    exact ⟨key, mem_rows_iff.mp hmem⟩
  · rintro ⟨key, h⟩
    exact List.mem_map.mpr ⟨(key, row), mem_rows_iff.mpr h, rfl⟩

theorem get?_foldl_erase [LawfulEqOrd κ] [DecidableEq κ] (keys : List κ) (t : Table κ ν) (k : κ) :
    (keys.foldl erase t).get? k = if k ∈ keys then none else t.get? k := by
  induction keys generalizing t with
  | nil => simp
  | cons key rest ih =>
    rw [List.foldl_cons, ih, get?_erase]
    by_cases h : k = key <;> simp [h]

theorem get?_insert_eq_some [LawfulEqOrd κ] [TransOrd κ] [DecidableEq κ] {t : Table κ ν}
    {key k : κ} {row r : ν} (h : (t.insert key row).get? k = some r) :
    k = key ∧ r = row ∨ t.get? k = some r := by
  rw [get?_insert] at h
  split at h
  · next e => exact .inl ⟨e, (Option.some.inj h).symm⟩
  · exact .inr h

theorem get?_erase_eq_some [LawfulEqOrd κ] [DecidableEq κ] {t : Table κ ν} {key k : κ} {r : ν}
    (h : (t.erase key).get? k = some r) : k ≠ key ∧ t.get? k = some r := by
  rw [get?_erase] at h
  split at h
  · exact nomatch h
  · next ne => exact ⟨ne, h⟩

theorem get?_overlay_eq_some [LawfulEqOrd κ] [TransOrd κ] {base top : Table κ ν} {k : κ} {r : ν} :
    (base.overlay top).get? k = some r ↔
      top.get? k = some r ∨ top.get? k = none ∧ base.get? k = some r := by
  simp

theorem get?_overlay_insert [LawfulEqOrd κ] [TransOrd κ] [DecidableEq κ] (base top : Table κ ν)
    (key k : κ) (row : ν) : (base.overlay (top.insert key row)).get? k =
      if k = key then some row else (base.overlay top).get? k := by
  rw [get?_overlay, get?_insert, get?_overlay]
  split <;> rfl

theorem get?_overlay_insert_eq_some [LawfulEqOrd κ] [TransOrd κ] [DecidableEq κ]
    {base top : Table κ ν} {key k : κ} {row r : ν}
    (h : (base.overlay (top.insert key row)).get? k = some r) :
    k = key ∧ r = row ∨ (base.overlay top).get? k = some r := by
  rw [get?_overlay_insert] at h
  split at h
  · next e => exact .inl ⟨e, (Option.some.inj h).symm⟩
  · exact .inr h

theorem isSome_overlay_insert [LawfulEqOrd κ] [TransOrd κ] [DecidableEq κ] {base top : Table κ ν}
    {key k : κ} {row : ν} (h : ((base.overlay top).get? k).isSome) :
    ((base.overlay (top.insert key row)).get? k).isSome := by
  rw [get?_overlay_insert]
  split
  · rfl
  · exact h

theorem put_perm [LawfulEqOrd κ] {key : κ} {row : ν} {rows : List (κ × ν)}
    (new : find key rows = none) : (put key row rows).Perm ((key, row) :: rows) := by
  induction rows with
  | nil => exact .refl _
  | cons head rest ih =>
    obtain ⟨k, r⟩ := head
    simp only [find] at new
    simp only [put]
    split at new
    · cases new
    · next ne =>
      split
      · exact .refl _
      · next eq => exact absurd eq ne
      · exact ((ih new).cons _).trans (.swap ..)

/-- Rows that are kept under their own keys are in the order of these. -/
theorem ascending_values [LawfulEqOrd κ] {t : Table κ ν} {key : ν → κ}
    (keyed : ∀ {k row}, t.get? k = some row → key row = k) :
    t.values.Pairwise fun a b => compare (key a) (key b) = .lt := by
  refine List.pairwise_map.mpr (t.ascending.imp_of_mem fun {a b} ha hb less => ?_)
  rwa [keyed (mem_rows_iff.mp ha), keyed (mem_rows_iff.mp hb)]

theorem nodup_values [LawfulEqOrd κ] {t : Table κ ν} {key : ν → κ}
    (keyed : ∀ {k row}, t.get? k = some row → key row = k) : (t.values.map key).Nodup :=
  List.pairwise_map.mpr ((ascending_values keyed).imp fun {a b} less same => by
    rw [same, compare_self] at less
    cases less)

theorem keyed_filter [LawfulEqOrd κ] {t : Table κ ν} {key : ν → κ} {keep : ν → Bool}
    (keyed : ∀ {k row}, t.get? k = some row → key row = k)
    (found : (t.filter keep).get? k = some row) : key row = k := by
  rw [get?_filter, Option.filter_eq_some_iff] at found
  exact keyed found.1

/-- Rows of a table that are in the order of their keys stand in it in this order. -/
theorem sublist_values [LawfulEqOrd κ] [TransOrd κ] {t : Table κ ν} {key : ν → κ} {rows : List ν}
    (keyed : ∀ {k row}, t.get? k = some row → key row = k)
    (ascending : rows.Pairwise fun a b => compare (key a) (key b) = .lt)
    (there : ∀ row ∈ rows, t.get? (key row) = some row) : rows.Sublist t.values := by
  have : Std.Antisymm fun a b : ν => compare (key a) (key b) = .lt :=
    ⟨fun a b less more => absurd more (by simp [OrientedCmp.gt_of_lt less])⟩
  have distinct : rows.Nodup := ascending.imp fun {a b} less same => by
    rw [same, compare_self] at less
    cases less
  exact List.sublist_of_subperm_of_pairwise (List.subperm_of_subset distinct fun row mem =>
    mem_values.mpr ⟨key row, there row mem⟩) ascending (ascending_values keyed)

theorem values_insert [LawfulEqOrd κ] [TransOrd κ] {t : Table κ ν} {key : κ} {row : ν}
    (new : t.get? key = none) : (t.insert key row).values.Perm (row :: t.values) :=
  (put_perm new).map Prod.snd

end

-- ---------------------------------------------------------------------------
-- Tables of rows
-- ---------------------------------------------------------------------------

section
variable {κ ν : Type} [Ord κ] [LawfulEqOrd κ] [TransOrd κ] {key : ν → κ}

/-- The table of some rows; of two with the same key the later one is kept. -/
def ofRows (key : ν → κ) (rows : List ν) : Table κ ν :=
  rows.foldl (fun t row => t.insert (key row) row) ∅

theorem ofRows_append (first rest : List ν) : ofRows key (first ++ rest) =
    rest.foldl (fun t row => t.insert (key row) row) (ofRows key first) :=
  List.foldl_append

theorem ofRows_snoc (rows : List ν) (row : ν) :
    ofRows key (rows ++ [row]) = (ofRows key rows).insert (key row) row :=
  ofRows_append rows [row]

theorem overlay_ofRows (first rest : List ν) :
    (ofRows key first).overlay (ofRows key rest) = ofRows key (first ++ rest) := by
  classical
  induction rest using List.reverseRecOn with
  | nil => rw [List.append_nil]; rfl
  | append_singleton rest row ih =>
    rw [← List.append_assoc, ofRows_snoc, ofRows_snoc, ← ih]
    refine ext_get? fun k => ?_
    rw [get?_overlay, get?_insert, get?_insert, get?_overlay]
    split <;> rfl

theorem mem_of_ofRows {rows : List ν} {k : κ} {row : ν} (h : (ofRows key rows).get? k = some row) :
    row ∈ rows ∧ key row = k := by
  classical
  induction rows using List.reverseRecOn with
  | nil => exact nomatch h
  | append_singleton rest last ih =>
    rw [ofRows_snoc] at h
    rcases get?_insert_eq_some h with ⟨rfl, rfl⟩ | h
    · exact ⟨List.mem_append_right _ (List.mem_singleton_self _), rfl⟩
    · exact (ih h).imp_left (List.mem_append_left _)

theorem get?_ofRows_eq_none {rows : List ν} {k : κ} :
    (ofRows key rows).get? k = none ↔ k ∉ rows.map key := by
  classical
  induction rows using List.reverseRecOn with
  | nil => exact iff_of_true rfl List.not_mem_nil
  | append_singleton rest last ih =>
    rw [ofRows_snoc, get?_insert, List.map_append, List.mem_append, not_or, ← ih]
    by_cases here : k = key last <;> simp [here]

theorem values_ofRows {rows : List ν} (distinct : (rows.map key).Nodup) :
    (ofRows key rows).values.Perm rows := by
  classical
  induction rows using List.reverseRecOn with
  | nil => exact .refl _
  | append_singleton rest last ih =>
    rw [List.map_append, List.nodup_append] at distinct
    obtain ⟨before, -, apart⟩ := distinct
    have new : (ofRows key rest).get? (key last) = none := by
      cases h : (ofRows key rest).get? (key last) with
      | none => rfl
      | some row =>
        obtain ⟨mem, same⟩ := mem_of_ofRows h
        exact absurd same (apart _ (List.mem_map_of_mem mem) _ List.mem_cons_self)
    rw [ofRows_snoc]
    exact ((values_insert new).trans ((ih before).cons _)).trans
      (List.perm_append_singleton last rest).symm

theorem overlay_ofRows_of_mem {t : Table κ ν} {rows : List ν}
    (there : ∀ row ∈ rows, t.get? (key row) = some row) : t.overlay (ofRows key rows) = t := by
  refine ext_get? fun k => ?_
  rw [get?_overlay]
  cases top : (ofRows key rows).get? k with
  | none => rfl
  | some row =>
    obtain ⟨mem, rfl⟩ := mem_of_ofRows top
    exact (there row mem).symm

/-- Rows that are laid over a table stand there beside those of other keys. -/
theorem values_overlay_ofRows [DecidableEq κ] {t : Table κ ν} {rows : List ν}
    (keyed : ∀ {k row}, t.get? k = some row → key row = k) (distinct : (rows.map key).Nodup) :
    (t.overlay (ofRows key rows)).values.Perm
      (rows ++ t.values.filter fun row => key row ∉ rows.map key) := by
  have keyed' : ∀ {k row}, (t.overlay (ofRows key rows)).get? k = some row → key row = k :=
    fun found => (get?_overlay_eq_some.mp found).elim (fun new => (mem_of_ofRows new).2)
      fun old => keyed old.2
  refine (List.perm_ext_iff_of_nodup (List.Nodup.of_map key (nodup_values keyed')) ?_).mpr
    fun row => ?_
  · refine List.nodup_append.mpr ⟨List.Nodup.of_map key distinct,
      (List.Nodup.of_map key (nodup_values keyed)).filter _, fun a ha b hb same => ?_⟩
    exact of_decide_eq_true (List.mem_filter.mp hb).2 (same ▸ List.mem_map_of_mem ha)
  · rw [List.mem_append, ← (values_ofRows distinct).mem_iff, List.mem_filter]
    simp only [mem_values, get?_overlay_eq_some, get?_ofRows_eq_none, exists_or,
      decide_eq_true_eq]
    refine or_congr .rfl ⟨fun ⟨k, other, found⟩ => ?_, fun ⟨⟨k, found⟩, other⟩ => ?_⟩
    · exact ⟨⟨k, found⟩, (keyed found).symm ▸ other⟩
    · exact ⟨k, keyed found ▸ other, found⟩

end

end Table

namespace Store

-- ---------------------------------------------------------------------------
-- What a commit leaves behind
-- ---------------------------------------------------------------------------

/-- Every row is kept under its own key. -/
structure Tables.Keyed (t : Tables) : Prop where
  accounts : ∀ {id row}, t.accounts.get? id = some row → row.id = id
  entries : ∀ {id row}, t.entries.get? id = some row → row.id = id
  transfers : ∀ {id row}, t.transfers.get? id = some row → row.id = id
  users : ∀ {username row}, t.users.get? username = some row → row.username = username
  sessions : ∀ {id row}, t.sessions.get? id = some row → row.id = id
  messages : ∀ {id row}, t.messages.get? id = some row → row.id = id

theorem Tables.Keyed.empty : Tables.Keyed {} := by
  constructor <;> intro _ _ h <;> cases h

theorem Tables.Keyed.apply {own : Transaction} (h : own.written.Keyed) (change : Change) :
    (own.apply change).written.Keyed := by
  cases change with
  | nothing => exact h
  | account row =>
    refine { h with accounts := fun hr => ?_ }
    rcases Table.get?_insert_eq_some hr with ⟨rfl, rfl⟩ | hr
    · rfl
    · exact h.accounts hr
  | deleteAccount id =>
    exact { h with accounts := fun hr => h.accounts (Table.get?_erase_eq_some hr).2 }
  | entry row =>
    refine { h with entries := fun hr => ?_ }
    rcases Table.get?_insert_eq_some hr with ⟨rfl, rfl⟩ | hr
    · rfl
    · exact h.entries hr
  | transfer row =>
    refine { h with transfers := fun hr => ?_ }
    rcases Table.get?_insert_eq_some hr with ⟨rfl, rfl⟩ | hr
    · rfl
    · exact h.transfers hr
  | user row =>
    refine { h with users := fun hr => ?_ }
    rcases Table.get?_insert_eq_some hr with ⟨rfl, rfl⟩ | hr
    · rfl
    · exact h.users hr
  | session row =>
    refine { h with sessions := fun hr => ?_ }
    rcases Table.get?_insert_eq_some hr with ⟨rfl, rfl⟩ | hr
    · rfl
    · exact h.sessions hr
  | message row =>
    refine { h with messages := fun hr => ?_ }
    rcases Table.get?_insert_eq_some hr with ⟨rfl, rfl⟩ | hr
    · rfl
    · exact h.messages hr

namespace View

variable {v : View}

/-- The rows that a commit would leave behind. -/
def published (v : View) : Tables := v.committed.publish v.own.written v.own.deleted

theorem publish_account? (id : AccountId) :
    v.published.accounts.get? id = v.account? id := by
  rw [published, Tables.publish, Table.get?_foldl_erase, Table.get?_overlay]
  rfl

theorem publish_entry? (id : EntryId) : v.published.entries.get? id = v.entry? id :=
  Table.get?_overlay ..

theorem publish_transfer? (id : TransferId) : v.published.transfers.get? id = v.transfer? id :=
  Table.get?_overlay ..

theorem publish_user? (username : String) : v.published.users.get? username = v.user? username :=
  Table.get?_overlay ..

theorem publish_session? (id : SessionId) : v.published.sessions.get? id = v.session? id :=
  Table.get?_overlay ..

theorem publish_message? (id : OutboxId) : v.published.messages.get? id = v.message? id :=
  Table.get?_overlay ..

-- ---------------------------------------------------------------------------
-- Rows under their keys
-- ---------------------------------------------------------------------------

theorem account?_eq_some {id : AccountId} : v.account? id = some row ↔ id ∉ v.own.deleted ∧
    (v.own.written.accounts.get? id = some row ∨
      v.own.written.accounts.get? id = none ∧ v.committed.accounts.get? id = some row) := by
  unfold account?
  split <;> simp_all

theorem entry?_eq_some {id : EntryId} : v.entry? id = some row ↔
    v.own.written.entries.get? id = some row ∨
      v.own.written.entries.get? id = none ∧ v.committed.entries.get? id = some row := by
  unfold entry?
  simp

theorem transfer?_eq_some {id : TransferId} : v.transfer? id = some row ↔
    v.own.written.transfers.get? id = some row ∨
      v.own.written.transfers.get? id = none ∧ v.committed.transfers.get? id = some row := by
  simp [transfer?]

theorem session?_eq_some {id : SessionId} : v.session? id = some row ↔
    v.own.written.sessions.get? id = some row ∨
      v.own.written.sessions.get? id = none ∧ v.committed.sessions.get? id = some row := by
  simp [session?]

theorem user?_eq_some : v.user? username = some row ↔
    v.own.written.users.get? username = some row ∨
      v.own.written.users.get? username = none ∧ v.committed.users.get? username = some row := by
  simp [user?]

theorem message?_eq_some {id : OutboxId} : v.message? id = some row ↔
    v.own.written.messages.get? id = some row ∨
      v.own.written.messages.get? id = none ∧ v.committed.messages.get? id = some row := by
  simp [message?]

/-- Every row that is seen is kept under its own key. -/
structure Keyed (v : View) : Prop where
  committed : v.committed.Keyed
  own : v.own.written.Keyed

theorem Keyed.account {id : AccountId} (h : v.Keyed) (hr : v.account? id = some row) :
    row.id = id := by
  obtain ⟨-, ho | ⟨-, hc⟩⟩ := account?_eq_some.mp hr
  · exact h.own.accounts ho
  · exact h.committed.accounts hc

theorem Keyed.entry {id : EntryId} (h : v.Keyed) (hr : v.entry? id = some row) : row.id = id := by
  obtain ho | ⟨-, hc⟩ := entry?_eq_some.mp hr
  · exact h.own.entries ho
  · exact h.committed.entries hc

theorem Keyed.transfer {id : TransferId} (h : v.Keyed) (hr : v.transfer? id = some row) :
    row.id = id := by
  obtain ho | ⟨-, hc⟩ := transfer?_eq_some.mp hr
  · exact h.own.transfers ho
  · exact h.committed.transfers hc

theorem Keyed.session {id : SessionId} (h : v.Keyed) (hr : v.session? id = some row) :
    row.id = id := by
  obtain ho | ⟨-, hc⟩ := session?_eq_some.mp hr
  · exact h.own.sessions ho
  · exact h.committed.sessions hc

theorem Keyed.user (h : v.Keyed) (hr : v.user? username = some row) : row.username = username := by
  obtain ho | ⟨-, hc⟩ := user?_eq_some.mp hr
  · exact h.own.users ho
  · exact h.committed.users hc

theorem Keyed.message {id : OutboxId} (h : v.Keyed) (hr : v.message? id = some row) :
    row.id = id := by
  obtain ho | ⟨-, hc⟩ := message?_eq_some.mp hr
  · exact h.own.messages ho
  · exact h.committed.messages hc

/-- What is seen once the row has been written. -/
def wrote (v : View) (row : Account) : View := { v with own := v.own.apply (.account row) }

theorem Keyed.wrote (keyed : v.Keyed) (row : Account) : (v.wrote row).Keyed :=
  ⟨keyed.committed, keyed.own.apply (.account row)⟩

theorem wrote_other {row : Account} {id : AccountId} (apart : id ≠ row.id) :
    (v.wrote row).account? id = v.account? id := by
  simp [account?, View.wrote, Transaction.apply, Table.get?_insert, apart]

theorem wrote_self {row : Account} (live : row.id ∉ v.own.deleted) :
    (v.wrote row).account? row.id = some row := by
  simp [account?, View.wrote, Transaction.apply, Table.get?_insert, live]

theorem Keyed.published (h : v.Keyed) : v.published.Keyed where
  accounts hr := h.account ((v.publish_account? _).symm.trans hr)
  entries hr := h.entry ((v.publish_entry? _).symm.trans hr)
  transfers hr := h.transfer ((v.publish_transfer? _).symm.trans hr)
  users hr := h.user ((v.publish_user? _).symm.trans hr)
  sessions hr := h.session ((v.publish_session? _).symm.trans hr)
  messages hr := h.message ((v.publish_message? _).symm.trans hr)

-- ---------------------------------------------------------------------------
-- What is shown
-- ---------------------------------------------------------------------------

/-- The view shows these tables: all its reads, of one row or of many, find what is in them. -/
structure Shows (v : View) (t : Tables) : Prop where
  account : ∀ id, v.account? id = t.accounts.get? id
  entry : ∀ id, v.entry? id = t.entries.get? id
  transfer : ∀ id, v.transfer? id = t.transfers.get? id
  user : ∀ username, v.user? username = t.users.get? username
  session : ∀ id, v.session? id = t.sessions.get? id
  message : ∀ id, v.message? id = t.messages.get? id
  accounts : ∀ keep, v.accounts keep = (t.accounts.filter keep).values
  entries : ∀ keep, v.entries keep = (t.entries.filter keep).values
  transfers : ∀ keep, v.transfers keep = (t.transfers.filter keep).values
  users : ∀ keep, v.users keep = (t.users.filter keep).values
  messages : ∀ keep, v.messages keep = (t.messages.filter keep).values

theorem Keyed.accounts (h : v.Keyed) (keep : Account → Bool) :
    v.accounts keep = (v.published.accounts.filter keep).values := by
  rw [View.accounts]
  refine congrArg Table.values (Table.ext_get? fun id => ?_)
  rw [Table.get?_overlayFilter, Table.get?_filter, publish_account?, account?]
  cases ho : v.own.written.accounts.get? id with
  | some row =>
    have key := h.own.accounts ho
    by_cases hd : id ∈ v.own.deleted <;> simp [Option.filter, key, hd]
  | none =>
    cases hc : v.committed.accounts.get? id with
    | some row =>
      have key := h.committed.accounts hc
      by_cases hd : id ∈ v.own.deleted <;> simp [Option.filter, key, hd]
    | none => simp

/-- What a transaction is shown is what its commit would leave behind. -/
theorem Keyed.shows (h : v.Keyed) : v.Shows v.published where
  account id := (v.publish_account? id).symm
  entry id := (v.publish_entry? id).symm
  transfer id := (v.publish_transfer? id).symm
  user username := (v.publish_user? username).symm
  session id := (v.publish_session? id).symm
  message id := (v.publish_message? id).symm
  accounts := h.accounts
  entries keep := congrArg Table.values <| Table.ext_get? fun id => by
    rw [Table.get?_overlayFilter, Table.get?_filter, publish_entry?, entry?]
  transfers keep := congrArg Table.values <| Table.ext_get? fun id => by
    rw [Table.get?_overlayFilter, Table.get?_filter, publish_transfer?, transfer?]
  users keep := congrArg Table.values <| Table.ext_get? fun username => by
    rw [Table.get?_overlayFilter, Table.get?_filter, publish_user?, user?]
  messages keep := congrArg Table.values <| Table.ext_get? fun id => by
    rw [Table.get?_overlayFilter, Table.get?_filter, publish_message?, message?]

-- ---------------------------------------------------------------------------
-- Lists of messages
-- ---------------------------------------------------------------------------

section

variable {keep : Outbox.Message → Bool}

theorem mem_messages {m : Outbox.Message} :
    m ∈ v.messages keep ↔ ∃ id, v.message? id = some m ∧ keep m := by
  simp only [messages, Table.mem_values, Table.get?_overlayFilter, Option.filter_eq_some_iff]
  rfl

theorem Keyed.ascending_messages (h : v.Keyed) (keep : Outbox.Message → Bool) :
    (v.messages keep).Pairwise fun a b => compare a.id b.id = .lt := by
  rw [h.shows.messages]
  exact Table.ascending_values (Table.keyed_filter h.published.messages)

/-- Messages that are seen and pass the test, in the order of their numbers, are found in this order
by a scan. -/
theorem Keyed.sublist_messages (h : v.Keyed) {rows : List Outbox.Message}
    (ascending : rows.Pairwise fun a b => compare a.id b.id = .lt)
    (there : ∀ m ∈ rows, v.message? m.id = some m ∧ keep m) : rows.Sublist (v.messages keep) := by
  rw [h.shows.messages]
  refine Table.sublist_values (Table.keyed_filter h.published.messages) ascending fun m mem => ?_
  rw [Table.get?_filter, Option.filter_eq_some_iff, publish_message?]
  exact there m mem

end

-- ---------------------------------------------------------------------------
-- Addresses and references
-- ---------------------------------------------------------------------------

theorem mem_users : row ∈ v.users keep ↔ ∃ username, v.user? username = some row ∧ keep row := by
  simp only [users, Table.mem_values, Table.get?_overlayFilter, Option.filter_eq_some_iff]
  rfl

theorem isEmailTaken_iff : v.isEmailTaken email except = true ↔
    ∃ username row, v.user? username = some row ∧ row.email = email ∧
      some row.username ≠ except := by
  simp only [isEmailTaken, List.any_eq_true, mem_users, decide_eq_true_eq]
  constructor
  · rintro ⟨row, ⟨username, hr, he⟩, hn⟩
    exact ⟨username, row, hr, he, hn⟩
  · rintro ⟨username, row, hr, he, hn⟩
    exact ⟨row, ⟨username, hr, he⟩, hn⟩

end View

end Store

end Passbook
