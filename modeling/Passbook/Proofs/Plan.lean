import Passbook.Proofs.Outcome

/-!
# What every plan keeps to

Four rules that the plan of every query keeps, each a predicate on plans by recursion:

* `Plan.StagesLast`: rows are changed when nothing can fail any more (`Query.plan_stagesLast`);
* `Plan.Locks`: what is read to be changed, and what is written, has been locked by then
  (`Query.plan_locks`);
* `Plan.Numbers`: at most one number is drawn, and it becomes the number of the row
  (`Query.plan_numbers`);
* `Plan.Patient`: what was found out before a wait or a try for a lock is still good for what comes
  after it, whatever others commit meanwhile without the locks held so far (`Query.plan_patient`).
-/

namespace Passbook

open Outbox (Message)

namespace Store

-- ---------------------------------------------------------------------------
-- Rows that are changed
-- ---------------------------------------------------------------------------

namespace Plan

/-- A change is followed by the answer, and by nothing else that a plan can do. -/
def StagesLast : Plan α → Prop
  | .finish _ => True
  | .look next => ∀ v, (next v).StagesLast
  | .draw _ next => ∀ id, (next id).StagesLast
  | .lock _ rest => rest.StagesLast
  | .tryLock _ next => ∀ got, (next got).StagesLast
  | .stage _ rest => ∃ row, rest = .finish (.ok row)

theorem check_stagesLast {passed : Except Error Unit} {next : Plan α} (h : next.StagesLast) :
    (check passed next).StagesLast := by
  cases passed with
  | ok _ => exact h
  | error e => trivial

theorem write_stagesLast {answer : View → Except Error α} {made : α → Change} :
    (write made answer).StagesLast := by
  intro v
  dsimp only
  cases answer v with
  | ok row => exact ⟨row, rfl⟩
  | error e => trivial

theorem insert_stagesLast {allowed : View → Except Error Unit} {made : α → Change}
    {new : Id kind → Instant → α} : (insert kind allowed made new).StagesLast :=
  fun _ => check_stagesLast fun _ => write_stagesLast

theorem updateUser_stagesLast : (updateUser changes).StagesLast := by
  unfold updateUser
  cases changes.email with
  | none => exact write_stagesLast
  | some email =>
    intro v
    dsimp only
    split
    · trivial
    · exact write_stagesLast

/-- A claim changes no rows at all. -/
theorem claimEach_stagesLast (limit : UInt32) (now : Instant) (claimed : List Message)
    (ids : List OutboxId) : (claimEach limit now claimed ids).StagesLast := by
  induction ids generalizing claimed with
  | nil => trivial
  | cons id rest ih =>
    rw [claimEach]
    split
    · trivial
    · rintro (_ | _)
      · exact ih claimed
      · intro v
        dsimp only
        split
        · exact ih _
        · trivial

end Plan

end Store

open Store

/-- No query changes rows and then fails, or waits for a lock, which it may not get. -/
theorem Query.plan_stagesLast (q : Query) : q.plan.StagesLast := by
  cases q with
  | createAccount account =>
    refine Plan.check_stagesLast fun id => ?_
    rw [Plan.StagesLast]
    exact Plan.write_stagesLast
  | setBalance overwrite => exact Plan.check_stagesLast Plan.write_stagesLast
  | createEntry entry => exact Plan.insert_stagesLast
  | createTransfer transfer => exact Plan.check_stagesLast Plan.insert_stagesLast
  | createUser user => exact Plan.check_stagesLast Plan.write_stagesLast
  | updateUser changes => exact Plan.updateUser_stagesLast
  | enqueue message =>
    intro id
    rw [Plan.StagesLast]
    exact Plan.write_stagesLast
  | claim limit now => exact fun v => Plan.claimEach_stagesLast limit now [] _
  | getAccount _ | lockAccount _ | listAccounts _ | getEntry _ | listEntries _ | getTransfer _
  | listTransfers _ | getUser _ | getSession _ | listMessages _ _ => exact fun _ => trivial
  | _ => exact Plan.write_stagesLast

-- ---------------------------------------------------------------------------
-- Rows that are locked
-- ---------------------------------------------------------------------------

namespace Store

/-- The rows that are written or deleted by a change. -/
def Change.keys : Change → List RowKey
  | .account row => [.account row.id]
  | .deleteAccount id => [.account id]
  | .user row => [.username row.username]
  | .message row => [.outbox row.id]
  | .nothing | .entry _ | .transfer _ | .session _ => []

namespace Plan

/-- Whoever has the locks `held` has locked what is written by the time of the change, and the keys
of the row when the plan succeeds. -/
def Locks (keys : α → List RowKey) : (RowKey → Prop) → Plan α → Prop
  | _, .finish (.error _) => True
  | held, .finish (.ok row) => ∀ key ∈ keys row, held key
  | held, .look next => ∀ v, v.Keyed → (next v).Locks keys held
  | held, .draw _ next => ∀ id, (next id).Locks keys held
  | held, .lock key rest => rest.Locks keys fun k => k = key ∨ held k
  | held, .tryLock key next =>
    ((next true).Locks keys fun k => k = key ∨ held k) ∧ (next false).Locks keys held
  | held, .stage change rest => (∀ key ∈ change.keys, held key) ∧ rest.Locks keys held

theorem Locks.mono {plan : Plan α} (h : plan.Locks keys held) (sub : ∀ k, held k → held' k) :
    plan.Locks keys held' := by
  induction plan generalizing held held' with
  | finish result =>
    cases result with
    | error e => trivial
    | ok row => exact fun key hk => sub key (h key hk)
  | look next ih => exact fun v hv => ih v (h v hv) sub
  | draw kind next ih => exact fun id => ih id (h id) sub
  | lock key rest ih => exact ih h fun k hk => hk.imp_right (sub k)
  | tryLock key next ih =>
    exact ⟨ih true h.1 fun k hk => hk.imp_right (sub k), ih false h.2 sub⟩
  | stage change rest ih => exact ⟨fun key hk => sub key (h.1 key hk), ih h.2 sub⟩

end Plan

end Store

namespace Query

/-- The rows that a query locks because it names them. -/
def keys : Query → List RowKey
  | lockAccount id | deleteAccount id => [.account id]
  | setBalance overwrite => [.account overwrite.id]
  | adjustBalance a => [.account a.accountId]
  | createUser user => [.username user.username, .email user.email]
  | updateUser changes => .username changes.username :: changes.email.toList.map .email
  | changePassword change => [.username change.username]
  | markDelivered id _ | markFailed id _ _ => [.outbox id]
  | createAccount _ | getAccount _ | listAccounts _ | createEntry _ | getEntry _ | listEntries _
  | createTransfer _ | getTransfer _ | listTransfers _ | getUser _ | createSession _
  | getSession _ | revokeSession _ | enqueue _ | claim .. | listMessages .. => []

/-- The rows that a query has locked because it names them or, when it claims messages, because it
answers them. -/
def locks : (q : Query) → q.Row → List RowKey
  | claim .., messages => messages.map fun m => .outbox m.id
  | q, _ => q.keys

theorem keys_subset_locks (q : Query) (row : q.Row) : q.keys ⊆ q.locks row := by
  cases q with
  | claim => exact List.nil_subset _
  | _ => exact List.Subset.refl _

end Query

namespace Store

namespace Plan

theorem read_locks {answer : View → Except Error α} (h : ∀ row, keys row = []) :
    (read answer).Locks keys held := by
  intro v _
  dsimp only
  cases answer v with
  | error e => trivial
  | ok row => simp [Locks, h]

theorem write_locks {answer : View → Except Error α} {made : α → Change}
    (hk : ∀ row, ∀ key ∈ keys row, held key)
    (h : ∀ v row, v.Keyed → answer v = .ok row → ∀ key ∈ (made row).keys, held key) :
    (write made answer).Locks keys held := by
  intro v hv
  dsimp only
  cases ha : answer v with
  | error e => trivial
  | ok row => exact ⟨h v row hv ha, hk row⟩

theorem check_locks {passed : Except Error Unit} {next : Plan α} (h : next.Locks keys held) :
    (check passed next).Locks keys held := by
  cases passed with
  | ok _ => exact h
  | error e => trivial

theorem insert_locks {allowed : View → Except Error Unit} {made : α → Change}
    {new : Id kind → Instant → α} (hk : ∀ row, keys row = []) (h : ∀ row, (made row).keys = []) :
    (insert kind allowed made new).Locks keys held := by
  intro v _
  refine check_locks fun id => write_locks (by simp [hk]) fun _ row _ _ key hkey => ?_
  rw [h row] at hkey
  cases hkey

theorem changeBalance_locks {id : AccountId} {balance : Account → Except Error Int64} :
    (changeBalance id balance).Locks (fun _ => [.account id]) held := by
  refine write_locks (by simp) fun v row hv h key hkey => ?_
  simp only [View.requireAccount, bind_ok, require_ok, pure_ok] at h
  obtain ⟨account, ha, next, _, rfl⟩ := h
  simp only [Change.keys, List.mem_singleton] at hkey
  exact .inl (by rw [hkey, hv.account ha])

theorem changeUser_locks {update : User → User}
    (hu : ∀ user, (update user).username = user.username)
    (hk : ∀ row, ∀ key ∈ keys row, key = .username username ∨ held key) :
    (changeUser username update).Locks keys held := by
  refine write_locks hk fun v row hv h key hkey => ?_
  simp only [View.requireUser, map_ok, require_ok] at h
  obtain ⟨user, hr, rfl⟩ := h
  simp only [Change.keys, List.mem_singleton] at hkey
  exact .inl (by rw [hkey, hu, hv.user hr])

theorem changeMessage_locks {id : OutboxId} {update : Message → Message}
    (hu : ∀ message, (update message).id = message.id) :
    (changeMessage id update).Locks (fun _ => [.outbox id]) held := by
  refine write_locks (by simp) fun v row hv h key hkey => ?_
  simp only [View.requireMessage, map_ok, require_ok] at h
  obtain ⟨message, hr, rfl⟩ := h
  simp only [Change.keys, List.mem_singleton] at hkey
  exact .inl (by rw [hkey, hu, hv.message hr])

theorem createUser_locks :
    (createUser user).Locks (fun _ => [.username user.username, .email user.email]) held := by
  refine check_locks (write_locks (by simp) fun v row _ h key hkey => ?_)
  have hrow : row.username = user.username := by
    revert h
    cases v.user? user.username <;> cases v.isEmailTaken user.email none <;>
      simp [throw, throwThe, MonadExceptOf.throw, bind, Except.bind, pure, Except.pure]
    rintro rfl
    rfl
  simp only [Change.keys, List.mem_singleton] at hkey
  exact .inr (.inl (by rw [hkey, hrow]))

theorem updateUser_locks :
    (updateUser changes).Locks (Query.updateUser changes).locks held := by
  unfold updateUser
  cases hm : changes.email with
  | none => exact changeUser_locks (fun _ => rfl) (by simp [Query.locks, Query.keys, hm])
  | some email =>
    intro v _
    dsimp only
    split
    · trivial
    · exact changeUser_locks (fun _ => rfl) (by simp [Query.locks, Query.keys, hm])

theorem claimEach_locks {limit : UInt32} {now : Instant} {claimed : List Message}
    {ids : List OutboxId} (h : ∀ m ∈ claimed, held (.outbox m.id)) :
    (claimEach limit now claimed ids).Locks (Query.claim limit now).locks held := by
  have done {claimed : List Message} {held : RowKey → Prop}
      (h : ∀ m ∈ claimed, held (.outbox m.id)) :
      (finish (.ok claimed)).Locks (Query.claim limit now).locks held :=
    fun key hk => by
      obtain ⟨m, mem, rfl⟩ := List.mem_map.mp hk
      exact h m mem
  induction ids generalizing claimed held with
  | nil => exact done h
  | cons id rest ih =>
    rw [claimEach]
    split
    · exact done h
    · refine ⟨fun v keyed => ?_, ih h⟩
      dsimp only
      cases found : v.requireMessage id with
      | error e => trivial
      | ok row =>
        obtain rfl := keyed.message (require_ok.mp found)
        refine ih fun m mem => ?_
        split at mem
        · rcases List.mem_append.mp mem with mem | mem
          · exact .inr (h m mem)
          · exact .inl (by rw [List.mem_singleton.mp mem])
        · exact .inr (h m mem)

end Plan

end Store

/-- Every query has locked the rows that it names to be changed or answers as claimed, and all rows
that it writes. -/
theorem Query.plan_locks (q : Query) : q.plan.Locks q.locks fun _ => False := by
  cases q with
  | createAccount account =>
    refine Plan.check_locks fun id => ?_
    rw [Plan.Locks]
    refine Plan.write_locks (fun _ _ hk => nomatch hk) ?_
    rintro v row _ h key hkey
    cases h
    simpa [Change.keys] using hkey
  | lockAccount id =>
    intro v _
    dsimp only
    cases v.requireAccount id with
    | error e => trivial
    | ok row => exact fun key hk => .inl (List.mem_singleton.mp hk)
  | setBalance overwrite => exact Plan.check_locks Plan.changeBalance_locks
  | adjustBalance a => exact Plan.changeBalance_locks
  | deleteAccount id =>
    exact Plan.write_locks (fun _ _ hk => .inl (List.mem_singleton.mp hk)) fun _ _ _ _ _ hk =>
      .inl (List.mem_singleton.mp hk)
  | createEntry entry => exact Plan.insert_locks (fun _ => rfl) fun _ => rfl
  | createTransfer transfer =>
    exact Plan.check_locks (Plan.insert_locks (fun _ => rfl) fun _ => rfl)
  | createUser user => exact Plan.createUser_locks
  | updateUser changes => exact Plan.updateUser_locks
  | changePassword change => exact Plan.changeUser_locks (fun _ => rfl) (by simp [locks, keys])
  | createSession session =>
    exact Plan.write_locks (by simp [locks, keys]) (by simp [Change.keys])
  | revokeSession id => exact Plan.write_locks (by simp [locks, keys]) (by simp [Change.keys])
  | enqueue message =>
    intro id
    rw [Plan.Locks]
    refine Plan.write_locks (fun _ _ hk => nomatch hk) ?_
    rintro v row _ h key hkey
    cases h
    simpa [Change.keys, Outbox.NewMessage.record] using hkey
  | claim limit now => exact fun v hv => Plan.claimEach_locks (by simp)
  | markDelivered id instant => exact Plan.changeMessage_locks fun _ => rfl
  | markFailed id reason retryAt =>
    refine Plan.changeMessage_locks fun message => ?_
    cases retryAt <;> rfl
  | _ => exact Plan.read_locks fun _ => rfl

/-- A user that is written has a locked address or the one that was there. -/
theorem Query.Did.email {q : Query} {row : q.Row} (h : q.Did v number row (.user user))
    (hv : v.Keyed) : .email user.email ∈ q.locks row ∨
      ∃ old, v.user? user.username = some old ∧ old.email = user.email := by
  cases h with
  | createUser _ _ _ hr => exact .inl (by simp [Query.locks, Query.keys, hr])
  | @updateUser changes _ old _ ho hr =>
    subst hr
    cases hm : changes.email with
    | some email => exact .inl (by simp [Query.locks, Query.keys, hm, UserChanges.applyTo])
    | none =>
      refine .inr ⟨old, ?_, by simp [UserChanges.applyTo, hm]⟩
      rw [show (changes.applyTo old).username = old.username from rfl, hv.user ho]
      exact ho
  | @changePassword change _ old ho hr =>
    subst hr
    refine .inr ⟨old, ?_, rfl⟩
    rw [show (change.applyTo old).username = old.username from rfl, hv.user ho]
    exact ho

-- ---------------------------------------------------------------------------
-- Numbers that are drawn
-- ---------------------------------------------------------------------------

namespace Store

abbrev Number := (kind : RowKind) × Id kind

/-- The numbers agree with one that has been drawn. -/
def Numbers.Extend (number : Numbers) (drawn : Option Number) : Prop :=
  ∀ kind id, drawn = some ⟨kind, id⟩ → number kind = id

def Numbers.assign (drawn : Option Number) : Numbers := fun kind =>
  match drawn with
  | some ⟨k, id⟩ => if h : k = kind then h ▸ id else default
  | none => default

theorem Numbers.assign_extend (drawn : Option Number) : (assign drawn).Extend drawn := by
  rintro kind id rfl
  simp [assign]

/-- At most one number is drawn, and it becomes the number of the row. -/
def Plan.Numbers (name : α → Option Number) : Option Number → Plan α → Prop
  | _, .finish (.error _) => True
  | drawn, .finish (.ok row) => name row = drawn
  | drawn, .look next => ∀ v, (next v).Numbers name drawn
  | drawn, .draw kind next => drawn = none ∧ ∀ id, (next id).Numbers name (some ⟨kind, id⟩)
  | drawn, .lock _ rest => rest.Numbers name drawn
  | drawn, .tryLock _ next => ∀ got, (next got).Numbers name drawn
  | drawn, .stage _ rest => rest.Numbers name drawn

namespace Plan

theorem read_numbers {answer : View → Except Error α} (h : ∀ row, name row = drawn) :
    (read answer).Numbers name drawn := by
  intro v
  dsimp only
  cases answer v with
  | error e => trivial
  | ok row => exact h row

theorem check_numbers {passed : Except Error Unit} {next : Plan α}
    (h : next.Numbers name drawn) : (check passed next).Numbers name drawn := by
  cases passed with
  | ok _ => exact h
  | error e => trivial

theorem write_numbers {answer : View → Except Error α} {made : α → Change}
    (h : ∀ v row, answer v = .ok row → name row = drawn) :
    (write made answer).Numbers name drawn := by
  intro v
  dsimp only
  cases ha : answer v with
  | error e => trivial
  | ok row => exact h v row ha

theorem insert_numbers {allowed : View → Except Error Unit} {made : α → Change}
    {new : Id kind → Instant → α} (h : ∀ id now, name (new id now) = some ⟨kind, id⟩) :
    (insert kind allowed made new).Numbers name none := by
  refine fun v => check_numbers ⟨rfl, fun id => write_numbers ?_⟩
  rintro v row ha
  cases ha
  exact h id v.now

theorem updateUser_numbers : (updateUser changes).Numbers (fun _ => none) none := by
  unfold updateUser
  cases changes.email with
  | none => exact write_numbers fun _ _ _ => rfl
  | some email =>
    intro v
    dsimp only
    split
    · trivial
    · exact write_numbers fun _ _ _ => rfl

theorem claimEach_numbers (limit : UInt32) (now : Instant) (claimed : List Message)
    (ids : List OutboxId) : (claimEach limit now claimed ids).Numbers (fun _ => none) none := by
  induction ids generalizing claimed with
  | nil => rfl
  | cons id rest ih =>
    rw [claimEach]
    split
    · rfl
    · rintro (_ | _)
      · exact ih claimed
      · intro v
        dsimp only
        split
        · exact ih _
        · trivial

end Plan

end Store

/-- The number of a row that a query has made. -/
def Query.number? : (q : Query) → q.Row → Option Number
  | .createAccount _, row => some ⟨.account, row.id⟩
  | .createEntry _, row => some ⟨.entry, row.id⟩
  | .createTransfer _, row => some ⟨.transfer, row.id⟩
  | .enqueue _, row => some ⟨.outbox, row.id⟩
  | _, _ => none

/-- Every query draws at most one number, which becomes the number of its row. -/
theorem Query.plan_numbers (q : Query) : q.plan.Numbers q.number? none := by
  cases q with
  | createAccount account =>
    refine Plan.check_numbers ⟨rfl, fun id => ?_⟩
    rw [Plan.Numbers]
    refine Plan.write_numbers ?_
    rintro v row h
    cases h
    rfl
  | setBalance overwrite => exact Plan.check_numbers (Plan.write_numbers fun _ _ _ => rfl)
  | createEntry entry => exact Plan.insert_numbers fun _ _ => rfl
  | createTransfer transfer => exact Plan.check_numbers (Plan.insert_numbers fun _ _ => rfl)
  | createUser user => exact Plan.check_numbers (Plan.write_numbers fun _ _ _ => rfl)
  | updateUser changes => exact Plan.updateUser_numbers
  | enqueue message =>
    refine ⟨rfl, fun id => ?_⟩
    rw [Plan.Numbers]
    refine Plan.write_numbers ?_
    rintro v row h
    cases h
    rfl
  | claim limit now => exact fun v => Plan.claimEach_numbers limit now [] _
  | getAccount _ | lockAccount _ | listAccounts _ | getEntry _ | listEntries _ | getTransfer _
  | listTransfers _ | getUser _ | getSession _ | listMessages _ _ =>
    exact Plan.read_numbers fun _ => rfl
  | _ => exact Plan.write_numbers fun _ _ _ => rfl

-- ---------------------------------------------------------------------------
-- What is seen before a wait
-- ---------------------------------------------------------------------------

namespace Store

/-- From `before` to `after` nothing was committed that needs the locks `held`: their rows are
the same, and nobody has taken their addresses. -/
structure Tables.Spared (held : RowKey → Prop) (before after : Tables) : Prop where
  account : ∀ {id}, held (.account id) → after.accounts.get? id = before.accounts.get? id
  user : ∀ {name}, held (.username name) → after.users.get? name = before.users.get? name
  message : ∀ {id}, held (.outbox id) → after.messages.get? id = before.messages.get? id
  email : ∀ {address}, held (.email address) → ∀ {name row}, after.users.get? name = some row →
    row.email = address →
      ∃ old, before.users.get? name = some old ∧ old.email = address ∧ old.username = row.username

namespace Tables.Spared

theorem refl (t : Tables) : Spared held t t :=
  ⟨fun _ => rfl, fun _ => rfl, fun _ => rfl, fun _ _ row h he => ⟨row, h, he, rfl⟩⟩

theorem trans (h : Spared held a b) (h' : Spared held b c) : Spared held a c where
  account hk := (h'.account hk).trans (h.account hk)
  user hk := (h'.user hk).trans (h.user hk)
  message hk := (h'.message hk).trans (h.message hk)
  email hk _ row hr he := by
    obtain ⟨middle, hm, hme, hmu⟩ := h'.email hk hr he
    obtain ⟨old, ho, hoe, hou⟩ := h.email hk hm hme
    exact ⟨old, ho, hoe, hou.trans hmu⟩

theorem mono (h : Spared held a b) (sub : ∀ k, held' k → held k) : Spared held' a b where
  account hk := h.account (sub _ hk)
  user hk := h.user (sub _ hk)
  message hk := h.message (sub _ hk)
  email hk := h.email (sub _ hk)

end Tables.Spared

theorem View.isEmailTaken_spared {v v' : View} (own : v'.own = v.own)
    (spared : Tables.Spared held v.committed v'.committed) (hk : held (.email email))
    (free : v.isEmailTaken email except = false) : v'.isEmailTaken email except = false := by
  rw [Bool.eq_false_iff] at free ⊢
  refine fun taken => free (isEmailTaken_iff.mpr ?_)
  obtain ⟨username, row, hr, he, hn⟩ := isEmailTaken_iff.mp taken
  rcases user?_eq_some.mp hr with ho | ⟨ho, hc⟩
  · exact ⟨username, row, user?_eq_some.mpr (.inl (own ▸ ho)), he, hn⟩
  · obtain ⟨old, hold, hemail, hname⟩ := spared.email hk hc he
    exact ⟨username, old, user?_eq_some.mpr (.inr ⟨own ▸ ho, hold⟩), hemail, hname ▸ hn⟩

namespace Plan

/-- There is a way through the plan to where it needs a lock or tries for one. -/
def Waits : Plan α → Prop
  | .finish _ => False
  | .look next => ∃ v, (next v).Waits
  | .draw _ next => ∃ id, (next id).Waits
  | .lock _ _ => True
  | .tryLock _ _ => True
  | .stage _ rest => rest.Waits

/-- What comes after a look that was made before a wait could also have come after a look that is
made now, when others have spared the locks that were held by then. -/
def Patient : (RowKey → Prop) → Plan α → Prop
  | _, .finish _ => True
  | held, .look next => (∀ v, (next v).Patient held) ∧
      ∀ v v' : View, v.Keyed → v'.Keyed → v'.own = v.own →
        Tables.Spared held v.committed v'.committed → (next v).Waits →
          ∀ number row change, (next v).Succeeds v' number row change →
            (next v').Succeeds v' number row change
  | held, .draw _ next => ∀ id, (next id).Patient held
  | held, .lock key rest => rest.Patient fun k => k = key ∨ held k
  | held, .tryLock key next =>
    ((next true).Patient fun k => k = key ∨ held k) ∧ (next false).Patient held
  | held, .stage _ rest => rest.Patient held

theorem read_patient {answer : View → Except Error α} : (read answer).Patient held :=
  ⟨fun _ => trivial, fun _ _ _ _ _ _ waits => waits.elim⟩

theorem write_patient {answer : View → Except Error α} {made : α → Change} :
    (write made answer).Patient held := by
  refine ⟨fun v => ?_, fun v _ _ _ _ _ waits => ?_⟩
  · dsimp only
    split <;> trivial
  · dsimp only at waits
    split at waits <;> exact waits.elim

theorem check_patient {passed : Except Error Unit} {next : Plan α} (h : next.Patient held) :
    (check passed next).Patient held := by
  cases passed with
  | ok _ => exact h
  | error e => trivial

theorem insert_patient {allowed : View → Except Error Unit} {made : α → Change}
    {new : Id kind → Instant → α} : (insert kind allowed made new).Patient held := by
  refine ⟨fun v => check_patient fun id => write_patient, fun v _ _ _ _ _ waits => ?_⟩
  -- Nothing waits once a number has been drawn.
  cases passed : allowed v with
  | error e => simp [check, passed, fail, Waits] at waits
  | ok _ =>
    simp only [passed] at waits
    obtain ⟨id, w, waits⟩ := waits
    exact waits.elim

theorem updateUser_patient : (updateUser changes).Patient held := by
  unfold updateUser
  cases changes.email with
  | none => exact write_patient
  | some email =>
    refine ⟨fun v => ?_, fun v v' _ _ own spared waits number row change succeeds => ?_⟩
    · dsimp only
      split
      · trivial
      · exact write_patient
    · cases free : v.isEmailTaken email (some changes.username)
      · have free' := View.isEmailTaken_spared own spared (.inl rfl) free
        simpa [free, free'] using succeeds
      · simp [free, fail, Waits] at waits

/-- A message that is locked is read the same way later on. -/
theorem claimEach_patient (limit : UInt32) (now : Instant) (claimed : List Message)
    (ids : List OutboxId) : (claimEach limit now claimed ids).Patient held := by
  induction ids generalizing claimed held with
  | nil => trivial
  | cons id rest ih =>
    rw [claimEach]
    split
    · trivial
    · refine ⟨⟨fun v => ?_, fun v v' _ _ own spared _ number row change succeeds => ?_⟩, ih claimed⟩
      · dsimp only
        split
        · exact ih _
        · trivial
      · have same : v'.requireMessage id = v.requireMessage id := by
          simp only [View.requireMessage, View.message?, own, spared.message (.inl rfl)]
        simpa only [same] using succeeds

/-- Whatever a scan has found, the messages that are claimed after it would be found again. -/
theorem claim_patient (limit : UInt32) (now : Instant) : (claim limit now).Patient held := by
  refine ⟨fun v => claimEach_patient limit now [] _,
    fun v v' keyed keyed' _ _ _ number row change ⟨tries, done⟩ => ?_⟩
  have succeeds : (claim limit now).Succeeds v' number row change :=
    (claim_succeeds keyed').mpr (scanned_ok keyed' keyed done)
  exact succeeds

end Plan

end Store

/-- What a query has found out before it waits is still good for what it does afterwards. -/
theorem Query.plan_patient (q : Query) : q.plan.Patient fun _ => False := by
  cases q with
  | createAccount account =>
    refine Plan.check_patient fun id => ?_
    rw [Plan.Patient]
    exact Plan.write_patient
  | setBalance overwrite => exact Plan.check_patient Plan.write_patient
  | createEntry entry => exact Plan.insert_patient
  | createTransfer transfer => exact Plan.check_patient Plan.insert_patient
  | createUser user => exact Plan.check_patient Plan.write_patient
  | updateUser changes => exact Plan.updateUser_patient
  | enqueue message =>
    intro id
    rw [Plan.Patient]
    exact Plan.write_patient
  | claim limit now => exact Plan.claim_patient limit now
  | getAccount _ | lockAccount _ | listAccounts _ | getEntry _ | listEntries _ | getTransfer _
  | listTransfers _ | getUser _ | getSession _ | listMessages _ _ => exact Plan.read_patient
  | _ => exact Plan.write_patient

end Passbook
