import Passbook.Proofs.Open

/-!
# Rows and their locks

What a transaction has written it holds the locks of, and what it has found out about an address it
holds the lock of that address (`Staged`). A commit therefore spares the locks of all others, and a
query that has waited can still come to what it could come to at once (`Guarded`).
-/

namespace Passbook.Store

-- ---------------------------------------------------------------------------
-- Rows that are written
-- ---------------------------------------------------------------------------

/-- The locks `held` cover what a transaction has written. An address that was not locked is the
one that the user had before. -/
structure Staged (held : RowKey → Prop) (committed : Tables) (own : Transaction) : Prop where
  keyed : own.written.Keyed
  account : ∀ {id row}, own.written.accounts.get? id = some row → held (.account id)
  deleted : ∀ {id}, id ∈ own.deleted → held (.account id)
  user : ∀ {name row}, own.written.users.get? name = some row → held (.username name)
  message : ∀ {id row}, own.written.messages.get? id = some row → held (.outbox id)
  email : ∀ {name row}, own.written.users.get? name = some row → held (.email row.email) ∨
    ∃ old, committed.users.get? name = some old ∧ old.email = row.email

namespace Staged

variable {held held' : RowKey → Prop} {committed committed' : Tables} {own : Transaction}

theorem empty : Staged held committed {} where
  keyed := .empty
  account h := nomatch h
  deleted h := nomatch h
  user h := nomatch h
  message h := nomatch h
  email h := nomatch h

theorem hold (h : Staged held committed own) (sub : ∀ key, held key → held' key) :
    Staged held' committed own where
  keyed := h.keyed
  account hr := sub _ (h.account hr)
  deleted hd := sub _ (h.deleted hd)
  user hr := sub _ (h.user hr)
  message hr := sub _ (h.message hr)
  email hr := (h.email hr).imp_left (sub _)

theorem spare (h : Staged held committed own) (spared : Tables.Spared held committed committed') :
    Staged held committed' own :=
  { h with
    email := fun hr => (h.email hr).imp_right fun ⟨old, ho, he⟩ =>
      ⟨old, (spared.user (h.user hr)).trans ho, he⟩ }

/-- A query that has locked what it names and writes keeps what is written locked. -/
theorem apply {q : Query} {row : q.Row} {v : View} (h : Staged held v.committed v.own)
    (hv : v.Keyed) (did : q.Did v number row change)
    (locked : ∀ key, key ∈ q.locks row ∨ key ∈ change.keys → held key) :
    Staged held v.committed (v.own.apply change) := by
  have written := fun key hk => locked key (.inr hk)
  have keyed := h.keyed.apply change
  cases change with
  | account row =>
    refine { h with keyed, account := fun hr => ?_ }
    rcases Table.get?_insert_eq_some hr with ⟨rfl, rfl⟩ | hr
    · exact written _ (List.mem_singleton_self _)
    · exact h.account hr
  | deleteAccount id =>
    refine { h with keyed, account := fun hr => ?_, deleted := fun hd => ?_ }
    · exact h.account (Table.get?_erase_eq_some hr).2
    · rcases List.mem_cons.mp hd with rfl | hd
      · exact written _ (List.mem_singleton_self _)
      · exact h.deleted hd
  | user row =>
    refine { h with keyed, user := fun hr => ?_, email := fun hr => ?_ }
    · rcases Table.get?_insert_eq_some hr with ⟨rfl, rfl⟩ | hr
      · exact written _ (List.mem_singleton_self _)
      · exact h.user hr
    · rcases Table.get?_insert_eq_some hr with ⟨rfl, rfl⟩ | hr
      · rcases did.email hv with hk | ⟨old, ho, he⟩
        · exact .inl (locked _ (.inl hk))
        · rcases View.user?_eq_some.mp ho with ho | ⟨-, ho⟩
          · exact he ▸ h.email ho
          · exact .inr ⟨old, ho, he⟩
      · exact h.email hr
  | message row =>
    refine { h with keyed, message := fun hr => ?_ }
    rcases Table.get?_insert_eq_some hr with ⟨rfl, rfl⟩ | hr
    · exact written _ (List.mem_singleton_self _)
    · exact h.message hr
  | _ => exact { h with keyed }

end Staged

-- ---------------------------------------------------------------------------
-- Commits
-- ---------------------------------------------------------------------------

theorem Staged.published {v : View} (h : Staged held v.committed v.own) (hv : v.committed.Keyed)
    (apart : ∀ key, held' key → ¬held key) : Tables.Spared held' v.committed v.published where
  account {id} hk := by
    rw [v.publish_account?, View.account?, if_neg fun hd => apart _ hk (h.deleted hd)]
    cases ho : v.own.written.accounts.get? id with
    | none => rfl
    | some row => exact absurd (h.account ho) (apart _ hk)
  user {name} hk := by
    rw [v.publish_user?, View.user?]
    cases ho : v.own.written.users.get? name with
    | none => rfl
    | some row => exact absurd (h.user ho) (apart _ hk)
  message {id} hk := by
    rw [v.publish_message?, View.message?]
    cases ho : v.own.written.messages.get? id with
    | none => rfl
    | some row => exact absurd (h.message ho) (apart _ hk)
  email {address} hk {name row} hr he := by
    rw [v.publish_user?] at hr
    rcases View.user?_eq_some.mp hr with ho | ⟨-, hc⟩
    · rcases h.email ho with held | ⟨old, hold, hemail⟩
      · exact absurd (he ▸ held) (apart _ hk)
      · exact ⟨old, hold, hemail.trans he, (hv.users hold).trans (h.keyed.users ho).symm⟩
    · exact ⟨row, hc, he, rfl⟩

-- ---------------------------------------------------------------------------
-- Others
-- ---------------------------------------------------------------------------

/-- The transaction has all its rows and locks, and nothing was committed that needs its locks. -/
structure Unharmed (s s' : Store) (tx : TxId) : Prop where
  own : s'.transaction? tx = s.transaction? tx
  holds : ∀ key, s.Holds tx key → s'.Holds tx key
  spared : Tables.Spared (s.Holds tx) s.committed s'.committed

theorem Unharmed.close (s : Store) (faults : Faults) (apart : tx ≠ other) :
    s.Unharmed { s.close tx with faults } other where
  own := (close_transaction? ..).trans (if_neg fun e => apart e.symm)
  holds _ h := h.close fun e => apart e.symm
  spared := (close_committed s tx).symm ▸ .refl _

/-- What a transaction has written; nothing when it is not open. -/
def ownOf (s : Store) (tx : TxId) : Transaction := (s.transaction? tx).getD default

/-- What is left of the query that a process carries out. -/
def Underway (s : Store) (a : Stand α) : Prop :=
  ∀ tx w, a.tx = some tx → a.pending = some w →
    ∃ drawn, Left w.query w.plan w.awaits (s.Holds tx) s.committed (s.ownOf tx) drawn

theorem Underway.unharmed {s s' : Store} {a : Stand α} (h : s.Underway a)
    (kept : ∀ tx, a.tx = some tx → s.Unharmed s' tx) : s'.Underway a := by
  intro tx w htx hw
  have u := kept tx htx
  obtain ⟨drawn, l⟩ := h tx w htx hw
  exact ⟨drawn, by rw [ownOf, u.own]; exact (l.spare u.spared).hold u.holds⟩

-- ---------------------------------------------------------------------------
-- Moves
-- ---------------------------------------------------------------------------

/-- Rows are kept under their keys, and what a transaction writes it has locked. -/
structure Guarded (s : Store) : Prop where
  committed : s.committed.Keyed
  staged : ∀ tx, Staged (s.Holds tx) s.committed (s.ownOf tx)

theorem ownOf_eq {s : Store} {own : Transaction} (h : s.transaction? tx = some own) :
    s.ownOf tx = own := by
  rw [ownOf, h, Option.getD_some]

theorem view_published {s : Store} {own : Transaction} (h : s.transaction? tx = some own)
    (now : Instant) :
    (s.view tx now).published = s.committed.publish own.written own.deleted := by
  simp only [View.published, view, h, Option.getD_some]

theorem ownOf_none {s : Store} (h : s.transaction? tx = none) : s.ownOf tx = {} := by
  rw [ownOf, h]
  rfl

theorem Staged.of_none {s : Store} {committed : Tables} (h : s.transaction? tx = none) :
    Staged held committed (s.ownOf tx) := by
  rw [ownOf_none h]
  exact .empty

theorem ownOf_apply (s : Store) (tx : TxId) (change : Change) :
    (s.apply tx change).ownOf tx = {} ∨
      (s.apply tx change).ownOf tx = (s.ownOf tx).apply change := by
  have h := apply_transaction? s tx change tx
  rw [if_pos rfl] at h
  cases ho : s.transaction? tx with
  | none => exact .inl (ownOf_none (h.trans (by rw [ho]; rfl)))
  | some own => exact .inr (by rw [ownOf_eq ho]; exact ownOf_eq (h.trans (by rw [ho]; rfl)))

namespace Guarded

variable {s s' : Store} {a b : Stand α} {mark : Mark} {tx other : TxId}

theorem keyed (g : s.Guarded) (tx : TxId) (now : Instant) : (s.view tx now).Keyed :=
  ⟨g.committed, (g.staged tx).keyed⟩

/-- A query that succeeds has done what it could have done in one go. -/
theorem succeed {q : Query} {plan rest : Plan q.Row} {row : q.Row} (g : s.Guarded)
    (u : s.Underway ⟨some tx, program, some ⟨q, plan, none⟩⟩)
    (w : plan.Walk (s.view tx now) (s.Holds tx) s.sequences seqs rest)
    (ends : rest.Ends row change) :
    (∀ key, key ∈ q.locks row ∨ key ∈ change.keys → s.Holds tx key) ∧
      q.Did (s.view tx now) (.assign (q.number? row)) row change := by
  obtain ⟨drawn, l⟩ := u _ _ rfl rfl
  exact (l.succeed (v := s.view tx now) (g.keyed tx now) w ends).2

/-- Nobody loses rows or locks by the move of another. -/
theorem unharmed (g : s.Guarded) (m : Moved s a mark s' b)
    (ne : a.tx ≠ some other) :
    s.Unharmed s' other ∨ other = s.nextTx ∧ s'.transaction? other = some {} := by
  cases m with
  | locked _ free =>
    exact .inl ⟨rfl, fun _ h => h.acquire (.inl free) fun e => ne (e ▸ rfl), .refl _⟩
  | granted free =>
    exact .inl ⟨rfl, fun _ h => h.acquire (.inl free) fun e => ne (e ▸ rfl), .refl _⟩
  | won free =>
    exact .inl ⟨rfl, fun _ h => h.acquire (.inl free) fun e => ne (e ▸ rfl), .refl _⟩
  | did =>
    refine .inl ⟨?_, fun _ h => h, .refl _⟩
    rw [apply_transaction?, if_neg fun e => ne (congrArg some e.symm), moveOn_transaction?]
  | opened =>
    by_cases h : other = s.nextTx
    · exact .inr ⟨h, (openNext_transaction? ..).trans (if_pos h)⟩
    · exact .inl ⟨(openNext_transaction? ..).trans (if_neg h), fun _ h => h, .refl _⟩
  | published opened =>
    have apart := fun e => ne (congrArg some e)
    have closed := Unharmed.close s s.faults apart
    have staged := ownOf_eq opened ▸ g.staged _
    exact .inl ⟨closed.own, closed.holds, Staged.published (v := ⟨s.committed, _, default⟩)
      staged g.committed fun _ h h' => apart (h'.unique h)⟩
  | broke => exact .inl (.close s _ fun e => ne (congrArg some e))
  | rolledBack => exact .inl (.close s _ fun e => ne (congrArg some e))
  | _ => exact .inl ⟨rfl, fun _ h => h, .refl _⟩

theorem staged_own (g : s.Guarded) (u : s.Underway a) (m : Moved s a mark s' b)
    (htx : a.tx = some tx) : Staged (s'.Holds tx) s'.committed (s'.ownOf tx) := by
  have before := g.staged tx
  cases m with
  | locked =>
    obtain rfl := Option.some.inj htx
    exact before.hold fun _ h => acquire_holds.mpr (.inr h)
  | granted =>
    obtain rfl := Option.some.inj htx
    exact before.hold fun _ h => acquire_holds.mpr (.inr h)
  | won =>
    obtain rfl := Option.some.inj htx
    exact before.hold fun _ h => acquire_holds.mpr (.inr h)
  | did w ends =>
    obtain rfl := Option.some.inj htx
    obtain ⟨locked, did⟩ := g.succeed u w ends
    rcases ownOf_apply (s.moveOn _) _ _ with h | h
    · rw [h]
      exact .empty
    · rw [h]
      exact before.apply (v := s.view _ _) (g.keyed _ _) did locked
  | @opened _ _ _ pool =>
    have opened := openNext_transaction? (s.repool pool) tx
    split at opened
    · rw [ownOf_eq opened]
      exact .empty
    · rw [ownOf, opened]
      exact before
  | published =>
    obtain rfl := Option.some.inj htx
    exact .of_none ((close_transaction? s _ _).trans (if_pos rfl))
  | broke =>
    obtain rfl := Option.some.inj htx
    exact .of_none ((close_transaction? s _ _).trans (if_pos rfl))
  | rolledBack =>
    obtain rfl := Option.some.inj htx
    exact .of_none ((close_transaction? s _ _).trans (if_pos rfl))
  | _ => exact before

/-- The query that is carried out after a move can come to what it could come to now. -/
theorem underway (g : s.Guarded) (u : s.Underway a) (m : Moved s a mark s' b) : s'.Underway b := by
  cases m with
  | stays => exact u
  | asked =>
    rintro tx w - hw
    obtain rfl := Option.some.inj hw
    exact ⟨none, .start ..⟩
  | blocked walk =>
    rintro tx w htx hw
    obtain rfl := Option.some.inj htx
    obtain rfl := Option.some.inj hw
    obtain ⟨drawn, l⟩ := u _ _ rfl rfl
    obtain ⟨drawn', -, l'⟩ := l.walk (v := s.view _ _) (g.keyed _ _) walk trivial
    exact ⟨drawn', l'.await⟩
  | locked walk free =>
    rintro tx w htx hw
    obtain rfl := Option.some.inj htx
    obtain rfl := Option.some.inj hw
    obtain ⟨drawn, l⟩ := u _ _ rfl rfl
    obtain ⟨drawn', -, l'⟩ := l.walk (v := s.view _ _) (g.keyed _ _) walk trivial
    exact ⟨drawn', l'.await.grant fun _ => acquire_holds.mpr⟩
  | granted free =>
    rintro tx w htx hw
    obtain rfl := Option.some.inj htx
    obtain rfl := Option.some.inj hw
    obtain ⟨drawn, l⟩ := u _ _ rfl rfl
    exact ⟨drawn, l.grant fun _ => acquire_holds.mpr⟩
  | queued => exact fun _ _ _ hw => nomatch hw
  | reached walk =>
    rintro tx w htx hw
    obtain rfl := Option.some.inj htx
    obtain rfl := Option.some.inj hw
    obtain ⟨drawn, l⟩ := u _ _ rfl rfl
    obtain ⟨drawn', -, l'⟩ := l.walk (v := s.view _ _) (g.keyed _ _) walk trivial
    exact ⟨drawn', l'⟩
  | won free =>
    rintro tx w htx hw
    obtain rfl := Option.some.inj htx
    obtain rfl := Option.some.inj hw
    obtain ⟨drawn, l⟩ := u _ _ rfl rfl
    exact ⟨drawn, l.tried true fun _ hk => acquire_holds.mpr (hk.imp_left And.right)⟩
  | tried held =>
    rintro _ w htx hw
    obtain rfl := Option.some.inj htx
    obtain rfl := Option.some.inj hw
    obtain ⟨drawn, l⟩ := u _ _ rfl rfl
    refine ⟨drawn, l.tried _ ?_⟩
    rintro k (⟨own, rfl⟩ | hk)
    · exact held.trans (congrArg some (of_decide_eq_true own))
    · exact hk
  | _ => exact fun _ _ _ hw => nomatch hw

theorem moved (g : s.Guarded) (u : s.Underway a) (m : Moved s a mark s' b) : s'.Guarded where
  committed := by
    by_cases hmark : mark = .committed
    · obtain ⟨tx, own, -, -, opened, rfl⟩ := (hmark ▸ m).committed_ended
      exact view_published opened default ▸ (g.keyed tx default).published
    · exact m.committed_same hmark ▸ g.committed
  staged tx := by
    by_cases htx : a.tx = some tx
    · exact g.staged_own u m htx
    · rcases g.unharmed m htx with kept | ⟨-, new⟩
      · rw [ownOf, kept.own]
        exact ((g.staged tx).spare kept.spared).hold kept.holds
      · rw [ownOf_eq new]
        exact .empty

theorem repool (g : s.Guarded) (pool : Pool) : (s.repool pool).Guarded :=
  ⟨g.committed, g.staged⟩

theorem close (g : s.Guarded) (tx : TxId) : (s.close tx).Guarded where
  committed := (close_committed ..).symm ▸ g.committed
  staged other := by
    by_cases h : tx = other
    · exact .of_none ((close_transaction? s tx other).trans (if_pos h.symm))
    · have kept := Unharmed.close s (s.close tx).faults h
      have staged := ((g.staged other).spare kept.spared).hold kept.holds
      rw [ownOf, kept.own] at *
      exact staged

end Guarded

-- ---------------------------------------------------------------------------
-- Systems
-- ---------------------------------------------------------------------------

namespace System

variable {Name : Type} [DecidableEq Name] {Result : Name → Type} {sys sys' : System Result}

/-- Rows are kept under their keys, what is written is locked, and queries that wait can come to
what they could come to now. -/
structure Guarded (sys : System Result) : Prop where
  store : sys.store.Guarded
  underway : ∀ name p, sys.tasks name = some p → sys.store.Underway p.stand

omit [DecidableEq Name] in
theorem Guarded.start (connections : Nat) (programs : (name : Name) → Program (Result name)) :
    (start connections programs).Guarded where
  store := ⟨.empty, fun _ => .empty⟩
  underway name p hp := by
    obtain rfl := Option.some.inj hp
    exact fun _ _ htx => nomatch htx

omit [DecidableEq Name] in
theorem Guarded.bystander {name other : Name} {p : Process (Result name)}
    {q : Process (Result other)} {b : Stand (Result name)} (t : sys.Tidy) (g : sys.Guarded)
    (task : sys.tasks name = some p)
    (m : Moved sys.store p.stand mark s' b) (hq : sys.tasks other = some q) (ne : other ≠ name)
    (tx : TxId) (htx : q.tx = some tx) : sys.store.Unharmed s' tx := by
  have hother := (txOf_eq hq).trans htx
  have apart : p.tx ≠ some tx := fun hp => ne (t.apart hother ((txOf_eq task).trans hp))
  refine (g.store.unharmed m apart).resolve_right fun ⟨new, _⟩ => ?_
  exact absurd (t.fresh (t.opened hother)) (new ▸ Nat.lt_irrefl _)

theorem Guarded.happened (t : sys.Tidy) (g : sys.Guarded) (h : Happened sys sys') :
    sys'.Guarded := by
  cases h with
  | @moved mark next name p p' task m =>
    have u := g.underway _ _ task
    exact ⟨g.store.moved u m, forall_took (g.store.underway u m) fun other q ne hq =>
      (g.underway _ _ hq).unharmed (g.bystander t task m hq ne)⟩
  | @cancelled tx name p pool task htx =>
    refine ⟨(g.store.repool pool).close tx, fun other q hq => ?_⟩
    obtain ⟨ne, hq⟩ := task_of_dropped hq
    refine (g.underway _ _ hq).unharmed fun tx' htx' => ?_
    have apart : tx ≠ tx' := by
      rintro rfl
      exact ne (t.apart ((txOf_eq hq).trans htx') ((txOf_eq task).trans htx))
    have kept := Unharmed.close (sys.store.repool pool) sys.store.faults apart
    exact ⟨kept.own, kept.holds, kept.spared⟩
  | left =>
    exact ⟨g.store.repool _, fun other q hq => g.underway _ _ (task_of_dropped hq).2⟩
  | armed => exact ⟨⟨g.store.committed, g.store.staged⟩, g.underway⟩

end System

end Passbook.Store
