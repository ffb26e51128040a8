import Passbook.Proofs.Deadlock

/-!
# Locks of names and addresses

To create a user is to lock the name and then the address. To change an address is to lock the new
address and then the name. The two can wait for each other (`readdressing_deadlocks`), and nothing
else that users go through brings about a deadlock: on every cycle of waiting transactions a change
of an address waits for a creation, and that creation waits for a change to its very address
(`entangled_run`).
-/

namespace Passbook

open Store Work Relation

-- ---------------------------------------------------------------------------
-- Errands on users
-- ---------------------------------------------------------------------------

/-- A single query that writes a user, or the sign-up of a user with its task. -/
inductive UserErrand
  | create (user : NewUser)
  | signUp (user : NewUser)
  | update (changes : UserChanges)
  | changePassword (change : PasswordChange)
  | verify (username : String) (instant : Instant)

namespace UserErrand

def program : UserErrand → Program (Except Error User)
  | create user => (Query.createUser user).run
  | signUp user => createUserWithVerification user
  | update changes => (Query.updateUser changes).run
  | changePassword change => (Query.changePassword change).run
  | verify username instant => (Query.markEmailVerified username instant).run

def created? : UserErrand → Option NewUser
  | create user | signUp user => some user
  | _ => none

/-- The order in which an errand takes its locks. -/
inductive Before : UserErrand → RowKey → RowKey → Prop
  | address {errand user} : errand.created? = some user →
      Before errand (.username user.username) (.email user.email)
  | name {changes address} : changes.email = some address →
      Before (.update changes) (.email address) (.username changes.username)
  | task {user key id} : key = .username user.username ∨ key = .email user.email →
      Before (.signUp user) key (.outbox id)

end UserErrand

-- ---------------------------------------------------------------------------
-- Programs in order
-- ---------------------------------------------------------------------------

variable {before : RowKey → RowKey → Prop}

theorem Store.Plan.createUser_ascends {next : (RowKey → Prop) → User → Prop} {user : NewUser}
    (order : before (.username user.username) (.email user.email))
    (h : ∀ row, next (fun k => k = .email user.email ∨ k = .username user.username ∨ False) row) :
    (Plan.createUser user).Ascends before next fun _ => False := by
  refine check_ascends ⟨fun k hk => hk.elim, fun k hk => ?_, write_ascends h⟩
  obtain rfl := hk.resolve_right id
  exact .inr order

theorem Store.Plan.changeUser_ascends {username : String} {change : User → User}
    {held : RowKey → Prop} (order : ∀ k, held k → before k (.username username)) :
    (Plan.changeUser username change).Ascends before (fun _ _ => True) held :=
  ⟨fun k hk => .inr (order k hk), write_ascends fun _ => trivial⟩

theorem Store.Plan.updateUser_ascends (changes : UserChanges)
    (order : ∀ address, changes.email = some address →
      before (.email address) (.username changes.username)) :
    (Plan.updateUser changes).Ascends before (fun _ _ => True) fun _ => False := by
  unfold Plan.updateUser
  split
  case h_1 => exact changeUser_ascends fun k hk => hk.elim
  case h_2 address given =>
    refine ⟨fun k hk => hk.elim, fun v => ?_⟩
    simp only
    split
    · trivial
    · refine changeUser_ascends fun k hk => ?_
      obtain rfl := hk.resolve_right id
      exact order address given

namespace UserErrand

theorem createUserWithTask_ascends (user : NewUser) :
    (createUserWithTask user).within.Ascends (signUp user).Before (fun _ _ => True)
      fun _ => False := by
  have failed : ∀ (held : RowKey → Prop) (e : Error), True := fun _ _ => trivial
  refine .query failed (Plan.createUser_ascends (.address rfl) fun created => ?_)
  refine .query failed fun _ => ⟨fun k hk => ?_, Plan.write_ascends fun _ => trivial⟩
  exact .inr (.task (hk.elim .inr fun hk => .inl (hk.resolve_right id)))

/-- Every errand asks for its locks in its own order. -/
theorem program_ascends (errand : UserErrand) :
    errand.program.Ascends errand.Before (fun _ _ => True) fun _ => False := by
  cases errand with
  | create user =>
    exact Query.run_ascends (Plan.createUser_ascends (.address rfl) fun _ => trivial)
  | signUp user => exact runWorkflow_ascends _ (createUserWithTask_ascends user)
  | update changes => exact Query.run_ascends (Plan.updateUser_ascends changes fun _ => .name)
  | changePassword change => exact Query.run_ascends (Plan.changeUser_ascends fun _ hk => hk.elim)
  | verify username instant =>
    exact Query.run_ascends (Plan.updateUser_ascends ⟨username, none, none, some instant⟩ nofun)

end UserErrand

-- ---------------------------------------------------------------------------
-- Cycles
-- ---------------------------------------------------------------------------

namespace Store.System

variable {Name : Type} {Result : Name → Type} {errands : Name → UserErrand} {sys : System Result}
  {tx other : TxId} {key k : RowKey}

/-- The transaction creates the user. It has locked the name and waits for the address. -/
structure HalfCreated (errands : Name → UserErrand) (sys : System Result) (tx : TxId)
    (user : NewUser) : Prop where
  errand : ∃ name, sys.txOf name = some tx ∧ (errands name).created? = some user
  holds : sys.store.Holds tx (.username user.username)
  awaits : sys.Awaits tx (.email user.email)

/-- The transaction changes the user's address. It has locked the new one and waits for the name. -/
structure HalfChanged (errands : Name → UserErrand) (sys : System Result) (tx : TxId)
    (username address : String) : Prop where
  errand : ∃ name changes, sys.txOf name = some tx ∧ errands name = .update changes ∧
    changes.username = username ∧ changes.email = some address
  holds : sys.store.Holds tx (.email address)
  awaits : sys.Awaits tx (.username username)

/-- Whoever is on a cycle waits for another that is on it. -/
theorem next_on_cycle (cycle : TransGen sys.WaitsFor tx tx) :
    ∃ next, sys.WaitsFor tx next ∧ TransGen sys.WaitsFor next next := by
  obtain ⟨next, waits, back⟩ := TransGen.head'_iff.mp cycle
  exact ⟨next, waits, .tail' back waits⟩

theorem AscendingBy.turn (l : sys.Locked) (a : sys.AscendingBy fun name => (errands name).Before)
    (cycle : TransGen sys.WaitsFor tx tx) (holds : sys.store.Holds tx k) :
    ∃ next, sys.WaitsFor tx next ∧ TransGen sys.WaitsFor next next ∧
      ((∃ user, k = .username user.username ∧ sys.HalfCreated errands tx user ∧
          sys.store.Holds next (.email user.email)) ∨
        ∃ username address, k = .email address ∧ sys.HalfChanged errands tx username address ∧
          sys.store.Holds next (.username username)) := by
  obtain ⟨next, waits, onCycle⟩ := next_on_cycle cycle
  refine ⟨next, waits, onCycle, ?_⟩
  obtain ⟨key, awaits, holds'⟩ := waits
  obtain ⟨name, htx, order⟩ := a.awaited l awaits holds
  generalize he : errands name = errand at order
  cases order with
  | @address _ user creates =>
    exact .inl ⟨user, rfl, ⟨⟨name, htx, he ▸ creates⟩, holds, awaits⟩, holds'⟩
  | @name changes address given =>
    exact .inr ⟨_, address, rfl, ⟨⟨name, changes, htx, he, rfl, given⟩, holds, awaits⟩, holds'⟩
  | task =>
    -- Nothing is locked after the row of a task, so its holder waits for nobody.
    obtain ⟨-, ⟨last, awaits', -⟩, -⟩ := next_on_cycle onCycle
    obtain ⟨owner, -, order'⟩ := a.awaited l awaits' holds'
    generalize errands owner = errand at order'
    rcases order' with - | - | (same | same) <;> cases same

/-- Who holds an address on a cycle gives it to a user whose name the next one holds. -/
theorem AscendingBy.turn_address (l : sys.Locked)
    (a : sys.AscendingBy fun name => (errands name).Before) (cycle : TransGen sys.WaitsFor tx tx)
    (holds : sys.store.Holds tx (.email address)) :
    ∃ next username, sys.WaitsFor tx next ∧ TransGen sys.WaitsFor next next ∧
      sys.HalfChanged errands tx username address ∧ sys.store.Holds next (.username username) := by
  obtain ⟨next, waits, onCycle, h⟩ := a.turn l cycle holds
  rcases h with ⟨user, same, -⟩ | ⟨username, _, same, changed, holds'⟩
  · cases same
  · obtain rfl := RowKey.email.inj same
    exact ⟨next, username, waits, onCycle, changed, holds'⟩

/-- Who holds a name on a cycle creates its user, with an address that the next one holds. -/
theorem AscendingBy.turn_name (l : sys.Locked)
    (a : sys.AscendingBy fun name => (errands name).Before) (cycle : TransGen sys.WaitsFor tx tx)
    (holds : sys.store.Holds tx (.username username)) :
    ∃ next user, sys.WaitsFor tx next ∧ TransGen sys.WaitsFor next next ∧
      user.username = username ∧ sys.HalfCreated errands tx user ∧
      sys.store.Holds next (.email user.email) := by
  obtain ⟨next, waits, onCycle, h⟩ := a.turn l cycle holds
  rcases h with ⟨user, same, created, holds'⟩ | ⟨_, _, same, -⟩
  · obtain rfl := RowKey.username.inj same
    exact ⟨next, user, waits, onCycle, rfl, created, holds'⟩
  · cases same

/-- A deadlock among the errands is one between creations of users and changes of addresses. -/
structure Entangled (errands : Name → UserErrand) (sys : System Result) : Prop where
  unheld : ∀ {tx key}, sys.Awaits tx key → ¬sys.store.Holds tx key
  parties : ∀ {tx other}, sys.WaitsFor tx other → sys.store.isOpen tx ∧ sys.store.isOpen other
  /-- Whoever waits for itself is half-way through one or the other. -/
  halfway : ∀ {tx}, TransGen sys.WaitsFor tx tx →
    (∃ user, sys.HalfCreated errands tx user) ∨
      ∃ username address, sys.HalfChanged errands tx username address
  /-- Somewhere on its cycle a change waits for the creation of its user, and that creation for a
  change to its address. -/
  crossed : ∀ {tx}, TransGen sys.WaitsFor tx tx → ∃ one other third user username address,
    ReflTransGen sys.WaitsFor tx one ∧ sys.WaitsFor one other ∧ sys.WaitsFor other third ∧
      sys.HalfChanged errands one user.username address ∧ sys.HalfCreated errands other user ∧
      sys.HalfChanged errands third username user.email
  /-- Nobody waits for itself where no user is created with an address that another is changed
  to. -/
  acyclic : (∀ one other changes user, errands one = .update changes →
      (errands other).created? = some user → changes.email ≠ some user.email) →
    ∀ tx, ¬TransGen sys.WaitsFor tx tx

theorem AscendingBy.halfway (l : sys.Locked)
    (a : sys.AscendingBy fun name => (errands name).Before) (cycle : TransGen sys.WaitsFor tx tx) :
    (∃ user, sys.HalfCreated errands tx user) ∨
      ∃ username address, sys.HalfChanged errands tx username address := by
  obtain ⟨_, -, key, -, holds⟩ := TransGen.tail'_iff.mp cycle
  obtain ⟨_, -, -, h⟩ := a.turn l cycle holds
  rcases h with ⟨user, -, created, -⟩ | ⟨username, address, -, changed, -⟩
  · exact .inl ⟨user, created⟩
  · exact .inr ⟨username, address, changed⟩

/-- Who holds an address on a cycle waits for a creation, and that for a change to its address. -/
theorem AscendingBy.crossed_address (l : sys.Locked)
    (a : sys.AscendingBy fun name => (errands name).Before) (cycle : TransGen sys.WaitsFor tx tx)
    (holds : sys.store.Holds tx (.email address)) :
    ∃ other third user username, sys.WaitsFor tx other ∧ sys.WaitsFor other third ∧
      sys.HalfChanged errands tx user.username address ∧ sys.HalfCreated errands other user ∧
      sys.HalfChanged errands third username user.email := by
  obtain ⟨other, _, waits, cycle, changed, holds⟩ := a.turn_address l cycle holds
  obtain ⟨third, user, waits', cycle, rfl, created, holds⟩ := a.turn_name l cycle holds
  obtain ⟨-, username, -, -, changed', -⟩ := a.turn_address l cycle holds
  exact ⟨other, third, user, username, waits, waits', changed, created, changed'⟩

theorem AscendingBy.crossed (l : sys.Locked)
    (a : sys.AscendingBy fun name => (errands name).Before) (cycle : TransGen sys.WaitsFor tx tx) :
    ∃ one other third user username address,
      ReflTransGen sys.WaitsFor tx one ∧ sys.WaitsFor one other ∧ sys.WaitsFor other third ∧
        sys.HalfChanged errands one user.username address ∧ sys.HalfCreated errands other user ∧
        sys.HalfChanged errands third username user.email := by
  obtain ⟨_, -, key, -, holds⟩ := TransGen.tail'_iff.mp cycle
  obtain ⟨next, waits, onCycle, h⟩ := a.turn l cycle holds
  rcases h with ⟨user, -, -, holds'⟩ | ⟨-, address, rfl, -⟩
  · obtain ⟨other, third, user', username, rest⟩ := a.crossed_address l onCycle holds'
    exact ⟨next, other, third, user', username, user.email, .single waits, rest⟩
  · obtain ⟨other, third, user, username, rest⟩ := a.crossed_address l cycle holds
    exact ⟨tx, other, third, user, username, address, .refl, rest⟩

-- ---------------------------------------------------------------------------
-- Runs
-- ---------------------------------------------------------------------------

/-- No rows, and a task for each errand before its first step. -/
abbrev ofUserErrands (connections : Nat) (errands : Name → UserErrand) :
    System fun _ : Name => Except Error User :=
  start connections fun name => (errands name).program

/-- However many errands on users run at once, a deadlock comes about only where users are created
with addresses that others are changed to. -/
theorem entangled_run [DecidableEq Name] (connections : Nat) (errands : Name → UserErrand)
    (happenings : List (Happening Name)) :
    ((ofUserErrands connections errands).run happenings).Entangled errands := by
  have t := tidy_run connections (fun name => (errands name).program) happenings
  obtain ⟨l, a⟩ : ((ofUserErrands connections errands).run happenings).Locked ∧
      ((ofUserErrands connections errands).run happenings).AscendingBy fun name =>
        (errands name).Before :=
    run_induction
      (motive := fun sys => sys.Locked ∧ sys.AscendingBy fun name => (errands name).Before)
      ⟨.start .., .start _ fun name => (errands name).program_ascends⟩
      (fun _ _ t _ h happened => ⟨h.1.happened t happened, h.2.happened t h.1 happened⟩)
      happenings
  refine ⟨l.unheld, fun {tx other} waits => ?_, a.halfway l, a.crossed l, fun apart tx cycle => ?_⟩
  · obtain ⟨key, ⟨name, p, task, htx, -⟩, holds⟩ := waits
    exact ⟨t.opened ((txOf_eq task).trans htx), l.store.holder_isOpen holds⟩
  · obtain ⟨-, -, -, user, -, -, -, -, -, -, ⟨⟨creator, -, creates⟩, -, -⟩,
      ⟨⟨name, changes, -, updates, -, given⟩, -, -⟩⟩ := a.crossed l cycle
    exact apart name creator changes user updates creates given

def readdressing : Fin 2 → UserErrand
  | 0 => .create ⟨"alice", "Alice", "a@x", "h"⟩
  | 1 => .update { username := "alice", email := some "a@x" }

/-- A user is created, and at the same time its address is changed to the one that it is created
with: one has locked the name, the other one the address. -/
theorem readdressing_deadlocks :
    TransGen ((ofUserErrands 2 readdressing).run
      (steps 0 3 ++ steps 1 3 ++ steps 0 1 ++ steps 1 1)).WaitsFor 0 0 := by
  refine .tail (b := 1) (.single ⟨.email "a@x", ⟨0, _, rfl, rfl, rfl⟩, rfl⟩) ?_
  exact ⟨.username "alice", ⟨1, _, rfl, rfl, rfl⟩, rfl⟩

end Store.System

end Passbook
