import Passbook.Proofs.Lineage
import Passbook.Proofs.Locks
import Passbook.Proofs.Passes

/-!
# Claims

What a transaction has claimed it has locked, and as long as it is open the committed rows are the
ones that were claimed (`Handling`). Whatever tasks run, a transaction that has claimed messages
once and then marked them one after the other has written what became of the claimed rows, and
nothing else. No two open transactions have claimed the same message (`Claiming.exclusive`).
-/

namespace Passbook

open Outbox

-- ---------------------------------------------------------------------------
-- Messages and what becomes of them
-- ---------------------------------------------------------------------------

/-- The row that is left of a message with that verdict. -/
inductive Outbox.RetryPolicy.Leaves (policy : RetryPolicy) (message : Message) :
    Verdict → Message → Prop
  | delivered : Leaves policy message .delivered (message.delivered instant)
  | retried : policy.shouldRetry (message.attempts + 1) →
      Leaves policy message .retried (message.failed reason (some instant))
  | deadLettered : Leaves policy message .deadLettered (message.failed reason none)

theorem Outbox.RetryPolicy.Leaves.id {policy : RetryPolicy} {message row : Message} {v : Verdict}
    (h : policy.Leaves message v row) : row.id = message.id := by
  cases h <;> rfl

namespace Store

/-- The row of a message that was written. -/
def Deed.posted? : Deed → Option Message
  | ⟨.enqueue _, row, _⟩ => some row
  | ⟨.markDelivered .., row, _⟩ => some row
  | ⟨.markFailed .., row, _⟩ => some row
  | _ => none

def postedBy (deeds : List Deed) : List Message := deeds.filterMap Deed.posted?

theorem postedBy_append (first rest : List Deed) :
    postedBy (first ++ rest) = postedBy first ++ postedBy rest := List.filterMap_append

/-- The deed records the verdict on a message. -/
structure Deed.Handles (policy : RetryPolicy) (message : Message) (d : Deed) (v : Verdict)
    (row : Message) : Prop where
  verdict : d.query.verdict? = some (message.id, v)
  posted : d.posted? = some row
  leaves : policy.Leaves message v row

variable {q : Query} {row : q.Row} {v : View} {policy : RetryPolicy}

theorem messages_apply (now : Instant) (own : Transaction) (did : q.Did v number row change) :
    (own.apply change).written.messages = (postedBy [⟨q, row, now⟩]).foldl
      (fun t row => t.insert row.id row) own.written.messages := by
  cases did with
  | read reads => cases q <;> first | rfl | exact nomatch reads
  | _ => rfl

/-- A mark on a message that is seen as it was claimed records what became of that row. -/
theorem marks_handles {m : Message} {verdict : Verdict} (now : Instant)
    (marks : policy.Marks m q verdict) (did : q.Did v number row change)
    (seen : v.message? m.id = some m) :
    ∃ left, Deed.Handles policy m ⟨q, row, now⟩ verdict left := by
  cases marks with
  | delivered =>
    cases did with
    | markDelivered found hr =>
      obtain rfl := Option.some.inj (seen.symm.trans found)
      exact ⟨row, rfl, rfl, hr ▸ .delivered⟩
    | read reads => exact nomatch reads
  | retried again =>
    cases did with
    | markFailed found hr =>
      obtain rfl := Option.some.inj (seen.symm.trans found)
      exact ⟨row, rfl, rfl, hr ▸ .retried again⟩
    | read reads => exact nomatch reads
  | deadLettered =>
    cases did with
    | markFailed found hr =>
      obtain rfl := Option.some.inj (seen.symm.trans found)
      exact ⟨row, rfl, rfl, hr ▸ .deadLettered⟩
    | read reads => exact nomatch reads

-- ---------------------------------------------------------------------------
-- What is claimed
-- ---------------------------------------------------------------------------

section

variable {messages : List Message}

/-- A message that is claimed is seen and due. -/
theorem claimed_seen {m : Message} (keyed : v.Keyed)
    (sub : messages.Sublist (v.messages (·.isDue now))) (h : m ∈ messages) :
    v.message? m.id = some m ∧ m.isDue now := by
  obtain ⟨id, found, due⟩ := View.mem_messages.mp (sub.subset h)
  exact ⟨(keyed.message found).symm ▸ found, due⟩

theorem claimed_distinct (keyed : v.Keyed)
    (sub : messages.Sublist (v.messages (·.isDue now))) : (messages.map Message.id).Nodup := by
  have rows : ((v.messages (·.isDue now)).map Message.id).Nodup := by
    refine Table.nodup_values fun {id row} h => ?_
    rw [Table.get?_overlayFilter, Option.filter_eq_some_iff] at h
    exact keyed.message h.1
  exact (sub.map _).nodup rows

end

/-- The messages were handled in the order in which they were claimed. -/
def Handled (policy : RetryPolicy) (messages : List Message) (marks : List Deed) : Prop :=
  ∀ (i : Nat) (d : Deed), marks[i]? = some d →
    ∃ m v row, messages[i]? = some m ∧ d.Handles policy m v row

theorem Handled.nil {messages : List Message} : Handled policy messages [] := by simp [Handled]

theorem Handled.snoc {messages : List Message} {marks : List Deed} {d : Deed} {m row : Message}
    {v : Verdict} (h : Handled policy messages marks) (next : messages[marks.length]? = some m)
    (handles : d.Handles policy m v row) : Handled policy messages (marks ++ [d]) := by
  intro i d' hd
  rw [List.getElem?_append] at hd
  split at hd
  · exact h i d' hd
  · next past =>
    simp only [List.getElem?_singleton, Option.ite_none_right_eq_some, Option.some.injEq] at hd
    obtain ⟨zero, rfl⟩ := hd
    obtain rfl : i = marks.length := by omega
    exact ⟨m, v, row, next, handles⟩

/-- What the marks have written are the rows that are left of the messages. -/
theorem Handled.posted {messages : List Message} {marks : List Deed} {left : Message}
    (h : Handled policy messages marks) (mem : left ∈ postedBy marks) :
    ∃ i m v, i < marks.length ∧ messages[i]? = some m ∧ policy.Leaves m v left := by
  obtain ⟨d, hd, posted⟩ := List.mem_filterMap.mp mem
  obtain ⟨i, hi, rfl⟩ := List.getElem_of_mem hd
  obtain ⟨m, v, row, here, handles⟩ := h i _ (List.getElem?_eq_getElem hi)
  obtain rfl := Option.some.inj (posted.symm.trans handles.posted)
  exact ⟨i, m, v, hi, here, handles.leaves⟩

theorem index_unique {messages : List Message} {m m' : Message} {i j : Nat}
    (distinct : (messages.map Message.id).Nodup) (h : messages[i]? = some m)
    (h' : messages[j]? = some m') (same : m.id = m'.id) : i = j := by
  have inside : i < (messages.map Message.id).length := by
    rw [List.length_map]
    exact (List.getElem?_eq_some_iff.mp h).1
  rw [← List.getElem?_inj inside distinct, List.getElem?_map, List.getElem?_map, h, h']
  exact congrArg some same

/-- What is known of a transaction with the locks `held` that has claimed messages once and then
marked them. -/
inductive Handling (policy : RetryPolicy) (held : RowKey → Prop) (committed : Tables) :
    List Deed → Prop
  | nothing : Handling policy held committed []
  | claimed {limit : UInt32} {now clock : Instant} {messages : List Message} {marks : List Deed} :
      (messages.map Message.id).Nodup →
      (∀ m ∈ messages, held (.outbox m.id) ∧ committed.messages.get? m.id = some m ∧ m.isDue now) →
      Handled policy messages marks →
      Handling policy held committed (⟨.claim limit now, messages, clock⟩ :: marks)

theorem Handling.keep {held held' : RowKey → Prop} {committed committed' : Tables}
    {journal : List Deed} (h : Handling policy held committed journal)
    (holds : ∀ key, held key → held' key) (spared : Tables.Spared held committed committed') :
    Handling policy held' committed' journal := by
  cases h with
  | nothing => exact .nothing
  | claimed distinct claimed marked =>
    refine .claimed distinct (fun m hm => ?_) marked
    obtain ⟨locked, found, due⟩ := claimed m hm
    exact ⟨holds _ locked, (spared.message locked).trans found, due⟩

/-- After what an orderly transaction does next, its locks and the committed rows are still those
of what it has claimed. -/
theorem Handling.did {s s' : Store} {deed : Deed} {change : Change} {own : Transaction}
    {journal : List Deed} (h : Handling policy (s.Holds tx) s.committed journal)
    (keyed : (s.view tx deed.now).Keyed) (posted : own.written.messages =
      .ofRows Message.id (postedBy journal))
    (opened : s.transaction? tx = some own) (does : Does s tx deed change)
    (orderly : Orderly policy ((journal ++ [deed]).map Deed.success))
    (holds : ∀ key, s.Holds tx key → s'.Holds tx key)
    (same : s'.committed = s.committed) :
    Handling policy (s'.Holds tx) s'.committed (journal ++ [deed]) := by
  obtain ⟨q, row, clock⟩ := deed
  have did : q.Did (s.view tx clock) _ row change := does.did
  have view : (s.view tx clock).own = own := ownOf_eq opened
  rw [List.map_append, List.map_singleton] at orderly
  rw [same]
  rcases orderly.snoc with ⟨nothing, limit, now, messages, next⟩ |
    ⟨limit, now, messages, marks, m, verdict, before, here, mark⟩
  · obtain rfl := List.map_eq_nil_iff.mp nothing
    cases next
    have none : own.written.messages = ∅ := posted
    cases did with
    | read reads => exact nomatch reads
    | claim sub =>
      refine .claimed (claimed_distinct keyed sub) (fun m hm => ?_) .nil
      obtain ⟨seen, due⟩ := claimed_seen keyed sub hm
      have locked := does.locked (.outbox m.id) (.inl (List.mem_map_of_mem hm))
      refine ⟨holds _ locked, ?_, due⟩
      rcases View.message?_eq_some.mp seen with own | ⟨-, found⟩
      · rw [view, none] at own
        exact nomatch own
      · exact found
  · obtain ⟨first, rest, rfl, claim, hmarks⟩ := List.map_eq_cons_iff.mp before
    cases h with
    | @claimed limit' now' clock' messages' _ distinct claimed marked =>
      cases claim
      subst hmarks
      rw [List.length_map] at here
      -- The transaction has written the rows of earlier messages only, so that it sees this one as
      -- it was claimed.
      have unmarked : own.written.messages.get? m.id = none := by
        refine Option.eq_none_iff_forall_ne_some.mpr fun left found => ?_
        rw [posted] at found
        obtain ⟨mem, name⟩ := Table.mem_of_ofRows found
        obtain ⟨i, m', v, less, there, leaves⟩ := marked.posted mem
        exact Nat.ne_of_lt less (index_unique distinct there here (leaves.id.symm.trans name))
      have found := (claimed m (List.mem_of_getElem? here)).2.1
      have seen : (s.view tx clock).message? m.id = some m :=
        View.message?_eq_some.mpr (.inr ⟨view.symm ▸ unmarked, found⟩)
      obtain ⟨left, handles⟩ := marks_handles clock mark did seen
      refine .claimed distinct (fun m hm => ?_) (marked.snoc here handles)
      obtain ⟨locked, rest⟩ := claimed m hm
      exact ⟨holds _ locked, rest⟩

/-- The messages that were claimed, and as of when. -/
def claimedIn (journal : List Deed) : List (Instant × Message) :=
  journal.flatMap fun
    | ⟨.claim _ now, messages, _⟩ => messages.map (now, ·)
    | _ => []

theorem claimedIn_marks {messages : List Message} {marks : List Deed}
    (h : Handled policy messages marks) : claimedIn marks = [] := by
  refine List.flatMap_eq_nil_iff.mpr fun d hd => ?_
  obtain ⟨i, hi, rfl⟩ := List.getElem_of_mem hd
  obtain ⟨m, v, row, -, handles⟩ := h i _ (List.getElem?_eq_getElem hi)
  have verdict := handles.verdict
  generalize marks[i] = d at verdict
  obtain ⟨q, row, clock⟩ := d
  cases q <;> first | rfl | exact nomatch verdict

theorem Handling.claimed_of_mem {held : RowKey → Prop} {committed : Tables} {journal : List Deed}
    {m : Message} (h : Handling policy held committed journal)
    (mem : (now, m) ∈ claimedIn journal) :
    held (.outbox m.id) ∧ committed.messages.get? m.id = some m ∧ m.isDue now := by
  cases h with
  | nothing => exact nomatch mem
  | claimed distinct claimed marked =>
    rw [claimedIn, List.flatMap_cons] at mem
    rcases List.mem_append.mp mem with mem | mem
    · obtain ⟨m, hm, same⟩ := List.mem_map.mp mem
      obtain ⟨rfl, rfl⟩ := Prod.mk.inj same
      exact claimed m hm
    · have none := claimedIn_marks marked
      rw [claimedIn] at none
      simp [none] at mem

/-- A mark is made on a message that was claimed, as it was claimed. -/
theorem Handling.marked_of_mem {held : RowKey → Prop} {committed : Tables} {journal : List Deed}
    {d : Deed} {id : OutboxId} {verdict : Verdict} (h : Handling policy held committed journal)
    (mem : d ∈ journal) (hv : d.query.verdict? = some (id, verdict)) :
    ∃ now m row, (now, m) ∈ claimedIn journal ∧ m.id = id ∧ d.Handles policy m verdict row := by
  cases h with
  | nothing => exact nomatch mem
  | @claimed limit now clock messages marks distinct claimed marked =>
    rcases List.mem_cons.mp mem with rfl | mem
    · exact nomatch hv
    · obtain ⟨i, hi, rfl⟩ := List.getElem_of_mem mem
      obtain ⟨m, verdict', row, here, handles⟩ := marked i _ (List.getElem?_eq_getElem hi)
      obtain ⟨rfl, rfl⟩ := Prod.mk.inj (Option.some.inj (handles.verdict.symm.trans hv))
      refine ⟨now, m, row, ?_, rfl, handles⟩
      rw [claimedIn, List.flatMap_cons]
      exact List.mem_append_left _ (List.mem_map_of_mem (List.mem_of_getElem? here))

namespace System

variable {Name : Type} [DecidableEq Name] {Result : Name → Type} {sys sys' : System Result}

/-- What open transactions have written of messages is what their journals say. Those that have
claimed messages once and then marked them still have what they have claimed. -/
structure Claiming (sys : System Result) : Prop where
  posted : ∀ {tx own}, sys.store.transaction? tx = some own →
    own.written.messages = .ofRows Message.id (postedBy (sys.journals tx))
  handling : ∀ {tx own policy}, sys.store.transaction? tx = some own →
    Orderly policy ((sys.journals tx).map Deed.success) →
      Handling policy (sys.store.Holds tx) sys.store.committed (sys.journals tx)

omit [DecidableEq Name] in
theorem Claiming.start (connections : Nat) (programs : (name : Name) → Program (Result name)) :
    (start connections programs).Claiming where
  posted h := nomatch h
  handling h := nomatch h

theorem Claiming.happened (t : sys.Tidy) (g : sys.Guarded) (c : sys.Claiming)
    (h : Happened sys sys') : sys'.Claiming where
  posted {tx own} opened := by
    refine open_happened (motive := fun own journal =>
        own.written.messages = .ofRows Message.id (postedBy journal))
      t g h opened rfl (fun before _ => c.posted before) fun was does _ _ => ?_
    rw [messages_apply _ _ does.did, c.posted was, postedBy_append,
      Table.ofRows_append]
  handling {tx own policy} opened orderly := by
    cases fate t g h tx with
    | closed closed => exact nomatch closed.symm.trans opened
    | opened _ _ journal =>
      rw [journal]
      exact .nothing
    | kept kept journal =>
      rw [journal] at orderly ⊢
      exact (c.handling (kept.own.symm.trans opened) orderly).keep kept.holds kept.spared
    | @did deed before change was does now journal holds same =>
      rw [journal] at orderly ⊢
      rw [List.map_append] at orderly
      refine (c.handling was orderly.before).did (g.store.keyed tx _) (c.posted was) was does
        ?_ holds same
      rwa [List.map_append]

/-- What a task has claimed in its open transaction, and as of when. -/
def claims (sys : System Result) (name : Name) : List (Instant × Message) :=
  match sys.txOf name with
  | some tx => claimedIn (sys.journals tx)
  | none => []

/-- The task calls a handler with a message, or is about to. -/
def Delivers (sys : System Result) (name : Name) (m : Message) : Prop :=
  ∃ p next, sys.tasks name = some p ∧ p.stand.program = .ask (.inside (.deliver m)) next

/-- All that a task can have done in its open transaction is what a pass can do. -/
def Passing (sys : System Result) (policy : RetryPolicy) (name : Name) : Prop :=
  ∀ tx, sys.txOf name = some tx → Orderly policy ((sys.journals tx).map Deed.success)

omit [DecidableEq Name] in
theorem claims_eq_some {name : Name} {m : Message} :
    (now, m) ∈ sys.claims name ↔
      ∃ tx, sys.txOf name = some tx ∧ (now, m) ∈ claimedIn (sys.journals tx) := by
  unfold claims
  cases sys.txOf name <;> simp

omit [DecidableEq Name] in
/-- What a pass has claimed it has locked, and it is still as it was. -/
theorem Claiming.claimed {name : Name} {m : Message} (t : sys.Tidy) (c : sys.Claiming)
    (passing : sys.Passing policy name) (claims : (now, m) ∈ sys.claims name) :
    ∃ tx, sys.txOf name = some tx ∧ sys.store.Holds tx (.outbox m.id) ∧
      sys.store.committed.messages.get? m.id = some m ∧ m.isDue now := by
  obtain ⟨tx, htx, mem⟩ := claims_eq_some.mp claims
  obtain ⟨own, opened⟩ := Option.isSome_iff_exists.mp (t.opened htx)
  exact ⟨tx, htx, (c.handling opened (passing tx htx)).claimed_of_mem mem⟩

omit [DecidableEq Name] in
/-- No two passes have claimed the same message. -/
theorem Claiming.exclusive {name other : Name} {m m' : Message} (t : sys.Tidy) (c : sys.Claiming)
    (passing : sys.Passing policy name) (passing' : sys.Passing policy' other)
    (claims : (now, m) ∈ sys.claims name) (claims' : (now', m') ∈ sys.claims other)
    (same : m.id = m'.id) : name = other := by
  obtain ⟨tx, htx, held, -⟩ := c.claimed t passing claims
  obtain ⟨tx', htx', held', -⟩ := c.claimed t passing' claims'
  obtain rfl := (same ▸ held).unique held'
  exact t.apart htx htx'

end System

end Store

end Passbook
