import Passbook.Proofs.Uniqueness
import Passbook.Work.Transaction

/-!
# Lineage

What a transaction has written of an account, a user or a message is a row that it has made itself,
under a new number or name, or it continues the committed row (`Inherited`). The committed row
cannot have changed meanwhile, since its lock is held. New numbers are in no committed row, so every
commit continues what was committed before it, and no number is used again (`auditTrail_run`).
-/

namespace Passbook

-- ---------------------------------------------------------------------------
-- Rows and what they were
-- ---------------------------------------------------------------------------

/-- The row is one of the same account, at another time. -/
structure Account.Continues (row old : Account) : Prop where
  owner : row.owner = old.owner
  currency : row.currency = old.currency
  createdAt : row.createdAt = old.createdAt

/-- The row is a later one of the same user: the address is not unverified again. -/
structure User.Continues (row old : User) : Prop where
  username : row.username = old.username
  createdAt : row.createdAt = old.createdAt
  verified : old.isEmailVerified → row.isEmailVerified

/-- The row is one of the same message, at another time. -/
structure Outbox.Message.Continues (row old : Outbox.Message) : Prop where
  topic : row.topic = old.topic
  payload : row.payload = old.payload
  createdAt : row.createdAt = old.createdAt

namespace Account.Continues

variable {row mid old : Account}

theorem refl (row : Account) : row.Continues row := ⟨rfl, rfl, rfl⟩

theorem trans (h : row.Continues mid) (h' : mid.Continues old) : row.Continues old :=
  ⟨h.owner.trans h'.owner, h.currency.trans h'.currency, h.createdAt.trans h'.createdAt⟩

end Account.Continues

namespace User.Continues

variable {row mid old : User}

theorem refl (row : User) : row.Continues row := ⟨rfl, rfl, id⟩

theorem trans (h : row.Continues mid) (h' : mid.Continues old) : row.Continues old :=
  ⟨h.username.trans h'.username, h.createdAt.trans h'.createdAt,
    fun verified => h.verified (h'.verified verified)⟩

theorem changed (user : User) (changes : UserChanges) : (changes.applyTo user).Continues user := by
  refine ⟨rfl, rfl, fun verified => ?_⟩
  simp only [User.isEmailVerified, UserChanges.applyTo] at verified ⊢
  cases changes.emailVerifiedAt with
  | none => exact verified
  | some instant => rfl

end User.Continues

namespace Outbox.Message.Continues

variable {row mid old : Outbox.Message}

theorem refl (row : Outbox.Message) : row.Continues row := ⟨rfl, rfl, rfl⟩

theorem trans (h : row.Continues mid) (h' : mid.Continues old) : row.Continues old :=
  ⟨h.topic.trans h'.topic, h.payload.trans h'.payload, h.createdAt.trans h'.createdAt⟩

theorem delivered (message : Outbox.Message) (instant : Instant) :
    (message.delivered instant).Continues message := ⟨rfl, rfl, rfl⟩

theorem failed (message : Outbox.Message) (reason : String) (retryAt : Option Instant) :
    (message.failed reason retryAt).Continues message := by
  cases retryAt <;> exact ⟨rfl, rfl, rfl⟩

end Outbox.Message.Continues

namespace Store

-- ---------------------------------------------------------------------------
-- Open transactions
-- ---------------------------------------------------------------------------

theorem number_of_made {deeds : List Deed} {made : Outbox.Message} (h : made ∈ messagesOf deeds) :
    ⟨.outbox, made.id⟩ ∈ numbersOf deeds :=
  number_of_row message_number h

/-- What a transaction has written continues what is committed, unless the transaction has made it
itself. -/
structure Inherited (committed : Tables) (own : Transaction) (journal : List Deed) : Prop where
  account : ∀ {id row}, own.written.accounts.get? id = some row →
    ⟨.account, id⟩ ∈ numbersOf journal ∨
      ∃ old, committed.accounts.get? id = some old ∧ row.Continues old
  user : ∀ {name row}, own.written.users.get? name = some row →
    (∃ user, .createUser user ∈ journal.map Deed.query ∧ user.username = name) ∨
      ∃ old, committed.users.get? name = some old ∧ row.Continues old
  message : ∀ {id row}, own.written.messages.get? id = some row →
    (∃ made ∈ messagesOf journal, made.id = id ∧ row.Continues made) ∨
      ∃ old, committed.messages.get? id = some old ∧ row.Continues old

namespace Inherited

variable {held : RowKey → Prop} {committed committed' : Tables} {own : Transaction}
  {journal : List Deed} {v : View}

theorem empty : Inherited committed {} [] where
  account h := nomatch h
  user h := nomatch h
  message h := nomatch h

theorem spare (i : Inherited committed own journal) (staged : Staged held committed own)
    (spared : Tables.Spared held committed committed') : Inherited committed' own journal where
  account written := (i.account written).imp_right fun ⟨old, found, continues⟩ =>
    ⟨old, (spared.account (staged.account written)).trans found, continues⟩
  user written := (i.user written).imp_right fun ⟨old, found, continues⟩ =>
    ⟨old, (spared.user (staged.user written)).trans found, continues⟩
  message written := (i.message written).imp_right fun ⟨old, found, continues⟩ =>
    ⟨old, (spared.message (staged.message written)).trans found, continues⟩

theorem before (i : Inherited committed own journal) (more : List Deed) :
    Inherited committed own (journal ++ more) where
  account written := (i.account written).imp_left fun own =>
    numbersOf_append journal more ▸ List.mem_append_left _ own
  user written := (i.user written).imp_left fun ⟨user, created, name⟩ =>
    ⟨user, by rw [List.map_append]; exact List.mem_append_left _ created, name⟩
  message written := (i.message written).imp_left fun ⟨made, mem, rest⟩ =>
    ⟨made, messagesOf_append journal more ▸ List.mem_append_left _ mem, rest⟩

/-- A row that is seen was written by the transaction, or it is the committed one. -/
theorem seen_account {id : AccountId} (i : Inherited v.committed v.own journal)
    (seen : v.account? id = some row) : ⟨.account, id⟩ ∈ numbersOf journal ∨
      ∃ old, v.committed.accounts.get? id = some old ∧ row.Continues old := by
  obtain ⟨-, written | ⟨-, found⟩⟩ := View.account?_eq_some.mp seen
  · exact i.account written
  · exact .inr ⟨row, found, .refl row⟩

theorem seen_user (i : Inherited v.committed v.own journal) (seen : v.user? name = some row) :
    (∃ user, .createUser user ∈ journal.map Deed.query ∧ user.username = name) ∨
      ∃ old, v.committed.users.get? name = some old ∧ row.Continues old := by
  rcases View.user?_eq_some.mp seen with written | ⟨-, found⟩
  · exact i.user written
  · exact .inr ⟨row, found, .refl row⟩

theorem seen_message {id : OutboxId} (i : Inherited v.committed v.own journal)
    (seen : v.message? id = some row) :
    (∃ made ∈ messagesOf journal, made.id = id ∧ row.Continues made) ∨
      ∃ old, v.committed.messages.get? id = some old ∧ row.Continues old := by
  rcases View.message?_eq_some.mp seen with written | ⟨-, found⟩
  · exact i.message written
  · exact .inr ⟨row, found, .refl row⟩

theorem write_account (i : Inherited v.committed v.own journal) (keyed : v.Keyed)
    {id : AccountId} {row old : Account} (seen : v.account? id = some old) (same : row.id = old.id)
    (continues : row.Continues old) :
    Inherited v.committed (v.own.apply (.account row)) journal := by
  refine { i with account := fun {id' row'} h => ?_ }
  rcases Table.get?_insert_eq_some h with ⟨rfl, rfl⟩ | h
  · rw [same, keyed.account seen]
    exact (i.seen_account seen).imp_right fun ⟨first, found, before⟩ =>
      ⟨first, found, continues.trans before⟩
  · exact i.account h

theorem write_user (i : Inherited v.committed v.own journal) (keyed : v.Keyed)
    {row old : User} (seen : v.user? name = some old) (continues : row.Continues old) :
    Inherited v.committed (v.own.apply (.user row)) journal := by
  refine { i with user := fun {name' row'} h => ?_ }
  rcases Table.get?_insert_eq_some h with ⟨rfl, rfl⟩ | h
  · rw [continues.username, keyed.user seen]
    exact (i.seen_user seen).imp_right fun ⟨first, found, before⟩ =>
      ⟨first, found, continues.trans before⟩
  · exact i.user h

theorem write_message (i : Inherited v.committed v.own journal) (keyed : v.Keyed)
    {id : OutboxId} {row old : Outbox.Message} (seen : v.message? id = some old)
    (same : row.id = old.id) (continues : row.Continues old) :
    Inherited v.committed (v.own.apply (.message row)) journal := by
  refine { i with message := fun {id' row'} h => ?_ }
  rcases Table.get?_insert_eq_some h with ⟨rfl, rfl⟩ | h
  · rw [same, keyed.message seen]
    exact (i.seen_message seen).imp (fun ⟨made, mem, number, before⟩ =>
      ⟨made, mem, number, continues.trans before⟩) fun ⟨first, found, before⟩ =>
      ⟨first, found, continues.trans before⟩
  · exact i.message h

theorem did {q : Query} {row : q.Row} (i : Inherited v.committed v.own journal) (keyed : v.Keyed)
    (did : q.Did v number row change) :
    Inherited v.committed (v.own.apply change) (journal ++ [⟨q, row, now⟩]) := by
  have i := i.before [⟨q, row, now⟩]
  cases did with
  | createAccount =>
    refine { i with account := fun {id row'} h => ?_ }
    rcases Table.get?_insert_eq_some h with ⟨rfl, rfl⟩ | h
    · left
      rw [numbersOf_append]
      exact List.mem_append_right _ (List.mem_singleton_self _)
    · exact i.account h
  | setBalance _ seen hr =>
    subst hr
    exact i.write_account keyed seen rfl ⟨rfl, rfl, rfl⟩
  | adjustBalance seen _ hr =>
    subst hr
    exact i.write_account keyed seen rfl ⟨rfl, rfl, rfl⟩
  | deleteAccount =>
    exact { i with account := fun h => i.account (Table.get?_erase_eq_some h).2 }
  | @createUser user row _ _ _ hr =>
    refine { i with user := fun {name row'} h => ?_ }
    rcases Table.get?_insert_eq_some h with ⟨rfl, rfl⟩ | h
    · subst hr
      refine .inl ⟨user, ?_, rfl⟩
      rw [List.map_append]
      exact List.mem_append_right _ (List.mem_singleton_self _)
    · exact i.user h
  | updateUser _ seen hr =>
    subst hr
    exact i.write_user keyed seen (.changed ..)
  | changePassword seen hr =>
    subst hr
    exact i.write_user keyed seen ⟨rfl, rfl, id⟩
  | enqueue =>
    refine { i with message := fun {id row'} h => ?_ }
    rcases Table.get?_insert_eq_some h with ⟨rfl, rfl⟩ | h
    · refine .inl ⟨_, ?_, rfl, .refl _⟩
      rw [messagesOf_append]
      exact List.mem_append_right _ (List.mem_singleton_self _)
    · exact i.message h
  | markDelivered seen hr =>
    subst hr
    exact i.write_message keyed seen rfl (.delivered ..)
  | @markFailed reason retryAt id row old seen hr =>
    subst hr
    refine i.write_message keyed seen ?_ (.failed ..)
    cases retryAt <;> rfl
  | _ => exact { i with }

end Inherited

-- ---------------------------------------------------------------------------
-- Systems
-- ---------------------------------------------------------------------------

namespace System

variable {Name : Type} [DecidableEq Name] {Result : Name → Type} {sys sys' : System Result}

omit [DecidableEq Name] in
/-- The number of a row that an open transaction has made is in no committed transaction. -/
theorem fresh_number {own : Transaction} (n : sys.Numbered) (f : sys.Filed) (enough : sys.Enough)
    (opened : sys.store.transaction? tx = some own) (made : number ∈ numbersOf (sys.journals tx)) :
    number ∉ numbersOf (deedsOf sys.history) := by
  intro again
  obtain ⟨c, hc, again⟩ := n.drawn_committed f again
  have same := List.inj_on_of_nodup_map (n.nodup_draws enough) (n.drawn made) again rfl
  obtain rfl : tx = c.tx := congrArg Prod.fst same
  exact nomatch (f.past c hc).2.symm.trans opened

/-- What open transactions have written continues what is committed or is new, and the numbers of
committed rows were given in committed transactions. -/
structure Lineal (sys : System Result) : Prop where
  inherited : ∀ {tx own}, sys.store.transaction? tx = some own →
    Inherited sys.store.committed own (sys.journals tx)
  accounts : ∀ {id row}, sys.store.committed.accounts.get? id = some row →
    ⟨.account, id⟩ ∈ numbersOf (deedsOf sys.history)
  messages : ∀ {id row}, sys.store.committed.messages.get? id = some row →
    ⟨.outbox, id⟩ ∈ numbersOf (deedsOf sys.history)

omit [DecidableEq Name] in
theorem Lineal.start (connections : Nat) (programs : (name : Name) → Program (Result name)) :
    (start connections programs).Lineal where
  inherited h := nomatch h
  accounts h := nomatch h
  messages h := nomatch h

omit [DecidableEq Name] in
/-- So does what an open transaction sees. -/
theorem Lineal.view {own : Transaction} (l : sys.Lineal)
    (opened : sys.store.transaction? tx = some own) (now : Instant) :
    Inherited (sys.store.view tx now).committed (sys.store.view tx now).own (sys.journals tx) := by
  have view : (sys.store.view tx now).own = own := ownOf_eq opened
  rw [view]
  exact l.inherited opened

theorem history_grows (h : Happened sys sys') : sys.history <+: sys'.history := by
  cases recorded h with
  | same _ history => exact history ▸ List.prefix_rfl
  | commit _ _ _ _ history => exact ⟨_, history.symm⟩

theorem journal_grows (h : Happened sys sys') (tx : TxId) :
    sys.journals tx <+: sys'.journals tx := by
  cases h with
  | @moved mark next name p p' task m =>
    by_cases htx : p.tx = some tx
    · cases mark with
      | did deed => exact ⟨[deed], by simp [took, htx]⟩
      | _ => exact ⟨[], by simp [took, htx]⟩
    · exact took_journals sys name p' htx ▸ List.prefix_rfl
  | _ => exact List.prefix_rfl

theorem number_stays (h : Happened sys sys') (given : number ∈ numbersOf (deedsOf sys.history)) :
    number ∈ numbersOf (deedsOf sys'.history) := by
  obtain ⟨more, history⟩ := history_grows h
  rw [← history, deedsOf, List.flatMap_append, numbersOf_append]
  exact List.mem_append_left _ given

theorem Lineal.happened (t : sys.Tidy) (g : sys.Guarded) (l : sys.Lineal) (h : Happened sys sys') :
    sys'.Lineal where
  inherited {tx own} opened := by
    refine open_happened t g h opened .empty (fun before kept => ?_) fun was does _ same => ?_
    · exact (l.inherited before).spare (ownOf_eq before ▸ g.store.staged tx) kept.spared
    · rw [same]
      exact (l.inherited was).did (g.store.keyed tx _) does.did
  accounts {id row} found := by
    cases recorded h with
    | same committed => exact number_stays h (l.accounts (committed ▸ found))
    | @commit name tx own _ opened _ committed history =>
      rw [committed, ← view_published opened default, View.publish_account?] at found
      rcases (l.view opened default).seen_account found with new | ⟨old, found, -⟩
      · rw [history, deedsOf_snoc, numbersOf_append]
        exact List.mem_append_right _ new
      · exact number_stays h (l.accounts found)
  messages {id row} found := by
    cases recorded h with
    | same committed => exact number_stays h (l.messages (committed ▸ found))
    | @commit name tx own _ opened _ committed history =>
      rw [committed, ← view_published opened default, View.publish_message?] at found
      rcases (l.view opened default).seen_message found with
        ⟨made, new, rfl, -⟩ | ⟨old, found, -⟩
      · rw [history, deedsOf_snoc, numbersOf_append]
        exact List.mem_append_right _ (number_of_made new)
      · exact number_stays h (l.messages found)

-- ---------------------------------------------------------------------------
-- Runs
-- ---------------------------------------------------------------------------

/-- Nothing that was recorded before is lost or taken back. An account is only ever what became of
one with its number, so that a number is not used again. -/
structure Continued (before after : System Result) : Prop where
  given : ∀ {number}, number ∈ numbersOf (deedsOf before.history) →
    number ∈ numbersOf (deedsOf after.history)
  entries : ∀ {id row}, before.store.committed.entries.get? id = some row →
    after.store.committed.entries.get? id = some row
  transfers : ∀ {id row}, before.store.committed.transfers.get? id = some row →
    after.store.committed.transfers.get? id = some row
  accounts : ∀ {id row}, ⟨.account, id⟩ ∈ numbersOf (deedsOf before.history) →
    after.store.committed.accounts.get? id = some row →
      ∃ old, before.store.committed.accounts.get? id = some old ∧ row.Continues old
  users : ∀ {name old}, before.store.committed.users.get? name = some old →
    ∃ row, after.store.committed.users.get? name = some row ∧ row.Continues old
  messages : ∀ {id old}, before.store.committed.messages.get? id = some old →
    ∃ row, after.store.committed.messages.get? id = some row ∧ row.Continues old

namespace Continued

variable {first last : System Result}

omit [DecidableEq Name]

theorem same (committed : sys'.store.committed = sys.store.committed)
    (history : sys'.history = sys.history) : sys.Continued sys' where
  given := by simp [history]
  entries := by simp [committed]
  transfers := by simp [committed]
  accounts _ found := ⟨_, committed ▸ found, .refl _⟩
  users found := ⟨_, committed ▸ found, .refl _⟩
  messages found := ⟨_, committed ▸ found, .refl _⟩

theorem trans (h : first.Continued sys) (h' : sys.Continued last) : first.Continued last where
  given hn := h'.given (h.given hn)
  entries found := h'.entries (h.entries found)
  transfers found := h'.transfers (h.transfers found)
  accounts hn found := by
    obtain ⟨old, found, later⟩ := h'.accounts (h.given hn) found
    obtain ⟨oldest, found, continues⟩ := h.accounts hn found
    exact ⟨oldest, found, later.trans continues⟩
  users found := by
    obtain ⟨row, found, continues⟩ := h.users found
    obtain ⟨last, found, later⟩ := h'.users found
    exact ⟨last, found, later.trans continues⟩
  messages found := by
    obtain ⟨row, found, continues⟩ := h.messages found
    obtain ⟨last, found, later⟩ := h'.messages found
    exact ⟨last, found, later.trans continues⟩

end Continued

/-- All that is known of the rows of a system and of the numbers that they were given. -/
structure Archived (sys : System Result) : Prop where
  numbered : sys.Numbered
  filed : sys.Filed
  booked : sys.Booked
  unique : sys.Unique
  lineal : sys.Lineal

omit [DecidableEq Name] in
theorem Archived.start (connections : Nat) (programs : (name : Name) → Program (Result name)) :
    (start connections programs).Archived :=
  ⟨.start .., .start .., .start .., .start .., .start ..⟩

theorem Archived.happened (t : sys.Tidy) (g : sys.Guarded) (a : sys.Archived)
    (h : Happened sys sys') : sys'.Archived where
  numbered := a.numbered.happened t h
  filed := a.filed.happened t g h
  booked := a.booked.happened t g h
  unique := a.unique.happened t g a.booked h
  lineal := a.lineal.happened t g h

/-- A row with a number of its own stays when more rows are put into the table. -/
theorem get?_ofRows_more {kind : RowKind} {id : ν → Id kind} {first rest : List ν}
    (distinct : ((first ++ rest).map id).Nodup)
    {number : Id kind} (found : (Table.ofRows id first).get? number = some row) :
    (Table.ofRows id (first ++ rest)).get? number = some row := by
  rw [← Table.overlay_ofRows, Table.get?_overlay_eq_some]
  refine .inr ⟨?_, found⟩
  cases again : (Table.ofRows id rest).get? number with
  | none => rfl
  | some row' =>
    obtain ⟨mem, rfl⟩ := Table.mem_of_ofRows found
    obtain ⟨mem', same⟩ := Table.mem_of_ofRows again
    rw [List.map_append, List.nodup_append] at distinct
    exact absurd same.symm
      (distinct.2.2 _ (List.mem_map_of_mem mem) _ (List.mem_map_of_mem mem'))

theorem Archived.continued (t : sys.Tidy) (g : sys.Guarded) (a : sys.Archived)
    (h : Happened sys sys') (enough : sys'.Enough) : sys.Continued sys' := by
  have a' := a.happened t g h
  have distinct := nodup_numbers a'.numbered a'.filed enough
  have fresh : ∀ {tx own number}, sys.store.transaction? tx = some own →
      number ∈ numbersOf (sys.journals tx) → number ∉ numbersOf (deedsOf sys.history) :=
    fun opened => fresh_number a.numbered a.filed (enough.before h) opened
  cases recorded h with
  | same committed history => exact .same committed history
  | @commit name tx own _ opened _ committed history =>
    have sees := a.lineal.view opened default
    rw [← view_published opened default] at committed
    rw [history, deedsOf_snoc] at distinct
    refine ⟨number_stays h, fun {id row} found => ?_, fun {id row} found => ?_,
      fun {id row} given found => ?_, fun {username old} found => ?_, fun {id old} found => ?_⟩
    · rw [a.booked.entries] at found
      rw [a'.booked.entries, history, deedsOf_snoc, entriesOf_append]
      refine get?_ofRows_more ?_ found
      rw [← entriesOf_append]
      exact nodup_made entry_number distinct
    · rw [a.booked.transfers] at found
      rw [a'.booked.transfers, history, deedsOf_snoc, transfersOf_append]
      refine get?_ofRows_more ?_ found
      rw [← transfersOf_append]
      exact nodup_made transfer_number distinct
    · rw [committed, View.publish_account?] at found
      exact (sees.seen_account found).resolve_left fun new => fresh opened new given
    · obtain ⟨row, there⟩ := Option.isSome_iff_exists.mp
        (user_stays h (Option.isSome_of_eq_some found))
      refine ⟨row, there, ?_⟩
      rw [committed, View.publish_user?] at there
      rcases sees.seen_user there with ⟨user, created, rfl⟩ | ⟨_, again, continues⟩
      · exact nomatch (a.unique.new opened user created).symm.trans found
      · obtain rfl := Option.some.inj (found.symm.trans again)
        exact continues
    · obtain ⟨row, there⟩ := Option.isSome_iff_exists.mp
        (message_stays h (Option.isSome_of_eq_some found))
      refine ⟨row, there, ?_⟩
      rw [committed, View.publish_message?] at there
      rcases sees.seen_message there with ⟨made, new, rfl, -⟩ | ⟨_, again, continues⟩
      · exact absurd (a.lineal.messages found) (fresh opened (number_of_made new))
      · obtain rfl := Option.some.inj (found.symm.trans again)
        exact continues

theorem archived_run (connections : Nat) (programs : (name : Name) → Program (Result name))
    (happenings : List (Happening Name)) : ((start connections programs).run happenings).Archived :=
  run_induction (.start connections programs) (fun _ _ t g a h => a.happened t g h) happenings

/-- Sequences that have not come round to their start have not done so before. -/
theorem Enough.earlier {connections : Nat} {programs : (name : Name) → Program (Result name)}
    {earlier later : List (Happening Name)}
    (enough : ((start connections programs).run (earlier ++ later)).Enough) :
    ((start connections programs).run earlier).Enough := by
  refine later_induction (motive := fun sys => sys.Enough →
    ((start connections programs).run earlier).Enough) id ?_ later enough
  exact fun _ _ _ _ before h enough => before (enough.before h)

/-- What only grows by what happens has all that it had earlier in a run. -/
theorem prefix_run {connections : Nat} {programs : (name : Name) → Program (Result name)}
    {part : System Result → List β}
    (grows : ∀ {sys sys'}, Happened sys sys' → part sys <+: part sys')
    (earlier later : List (Happening Name)) :
    part ((start connections programs).run earlier) <+:
      part ((start connections programs).run (earlier ++ later)) :=
  later_induction
    (motive := fun sys => part ((start connections programs).run earlier) <+: part sys)
    List.prefix_rfl (fun _ _ _ _ before h => before.trans (grows h)) later

theorem history_run (connections : Nat) (programs : (name : Name) → Program (Result name))
    (earlier later : List (Happening Name)) :
    ((start connections programs).run earlier).history <+:
      ((start connections programs).run (earlier ++ later)).history :=
  prefix_run history_grows earlier later

theorem journal_run (connections : Nat) (programs : (name : Name) → Program (Result name))
    (earlier later : List (Happening Name)) (tx : TxId) :
    ((start connections programs).run earlier).journals tx <+:
      ((start connections programs).run (earlier ++ later)).journals tx :=
  prefix_run (fun h => journal_grows h tx) earlier later

theorem continued_run (connections : Nat) (programs : (name : Name) → Program (Result name))
    (earlier later : List (Happening Name))
    (enough : ((start connections programs).run (earlier ++ later)).Enough) :
    ((start connections programs).run earlier).Continued
      ((start connections programs).run (earlier ++ later)) := by
  refine enough_induction Archived earlier later (archived_run connections programs earlier)
    (fun _ _ t g a h => a.happened t g h) (.same rfl rfl) ?_ enough
  exact fun _ _ t g a kept h enough => kept.trans (a.continued t g h enough)

/-- What is promised of the committed rows from one snapshot over a later one to the last. -/
structure AuditTrail (first between last : Tables) : Prop where
  entries : ∀ {id row}, first.entries.get? id = some row → last.entries.get? id = some row
  transfers : ∀ {id row}, first.transfers.get? id = some row → last.transfers.get? id = some row
  accounts : ∀ {id old row}, first.accounts.get? id = some old →
    last.accounts.get? id = some row → row.Continues old
  /-- The number of a deleted account is not used again. -/
  deleted : ∀ {id}, (first.accounts.get? id).isSome → between.accounts.get? id = none →
    last.accounts.get? id = none
  users : ∀ {name old}, first.users.get? name = some old →
    ∃ row, last.users.get? name = some row ∧ row.Continues old
  messages : ∀ {id old}, first.messages.get? id = some old →
    ∃ row, last.messages.get? id = some row ∧ row.Continues old
  keyed : last.Keyed

/-- Whatever transactions do at once, what they have committed is only ever added to: entries and
transfers stay as they are, and accounts, users and messages stay what they are. Only a sequence
that has come round to its start could break this, since a new row would then be written over an old
one; no run of `2 ^ 64` happenings or fewer gets there (`enough_run`). -/
theorem auditTrail_run (connections : Nat) (programs : (name : Name) → Program (Result name))
    (earlier between later : List (Happening Name)) :
    let after := fun happenings => (start connections programs).run happenings
    (after (earlier ++ between ++ later)).Enough →
      AuditTrail (after earlier).store.committed (after (earlier ++ between)).store.committed
        (after (earlier ++ between ++ later)).store.committed := by
  intro after enough
  have all : (after earlier).Continued (after (earlier ++ between ++ later)) := by
    have enough := enough
    rw [List.append_assoc] at enough ⊢
    exact continued_run connections programs earlier (between ++ later) enough
  have rest : (after (earlier ++ between)).Continued (after (earlier ++ between ++ later)) :=
    continued_run connections programs (earlier ++ between) later enough
  have archived : (after earlier).Archived := archived_run connections programs earlier
  have guarded : (after (earlier ++ between ++ later)).Guarded := guarded_run ..
  have given : ∀ {id row}, (after earlier).store.committed.accounts.get? id = some row →
      ⟨.account, id⟩ ∈ numbersOf (deedsOf (after (earlier ++ between)).history) :=
    fun found => later_induction (motive := fun sys => _ ∈ numbersOf (deedsOf sys.history))
      (archived.lineal.accounts found) (fun _ _ _ _ given h => number_stays h given) between
  exact {
    entries := all.entries
    transfers := all.transfers
    accounts := fun found later => by
      obtain ⟨old, again, continues⟩ := all.accounts (archived.lineal.accounts found) later
      obtain rfl := Option.some.inj (found.symm.trans again)
      exact continues
    deleted := fun {id} there gone => by
      obtain ⟨old, found⟩ := Option.isSome_iff_exists.mp there
      cases again : (after (earlier ++ between ++ later)).store.committed.accounts.get? id with
      | none => rfl
      | some row =>
        obtain ⟨_, kept, -⟩ := rest.accounts (given found) again
        exact nomatch gone.symm.trans kept
    users := all.users
    messages := all.messages
    keyed := guarded.store.committed }

/-- Who takes part when an account is closed: it is opened and deleted, and another is opened. -/
inductive Closing
  | opening | deletion | another
  deriving DecidableEq

def Closing.query : Closing → Query
  | opening => .createAccount ⟨"alice", 0, .usd⟩
  | deletion => .deleteAccount ⟨1⟩
  | another => .createAccount ⟨"alice", 0, .usd⟩

def closing (happenings : List (Happening Closing)) :
    System fun name : Closing => Except Error name.query.Row :=
  (start 1 fun name => name.query.run).run happenings

def numbersAfter (happenings : List (Happening Closing)) : List Int64 :=
  (closing happenings).store.committed.accounts.values.map fun row => row.id.value

/-- The account that is opened last has a number of its own. -/
theorem auditTrail_closing :
    let opened := steps .opening 8
    let deleted := opened ++ steps .deletion 8
    let another := deleted ++ steps .another 8
    numbersAfter opened = [1] ∧ numbersAfter deleted = [] ∧ numbersAfter another = [2] ∧
      (closing another).Enough ∧
      AuditTrail (closing opened).store.committed (closing deleted).store.committed
        (closing another).store.committed := by
  intro opened deleted another
  have enough : (closing another).Enough := enough_run 1 _ (by decide +kernel)
  exact ⟨by decide +kernel, by decide +kernel, by decide +kernel, enough,
    auditTrail_run 1 (fun name : Closing => name.query.run) (steps .opening 8) (steps .deletion 8)
      (steps .another 8) enough⟩

end System

end Store

end Passbook
