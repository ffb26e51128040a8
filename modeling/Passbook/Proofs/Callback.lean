import Passbook.Proofs.Keeping
import Passbook.Proofs.Requests

/-!
# Creating a user with a callback

The callback of a user's creation is called once, if the transaction is begun and the user is
created, and never otherwise (`createUser_runs`). Whatever it fails with is the failure of a side
effect, and no reason to try again (`createUser_callback_fails`). While the callback makes its
queries, the new user is there to be read, and what it has done is committed together with the
user or not at all (`callbackContract_run`).
-/

namespace Passbook

open Store Dialogue Trace Action.Step

theorem Error.intoSideEffect_category (e : Error) :
    e.intoSideEffect.category = .sideEffectFailure := by
  cases e <;> rfl

-- ---------------------------------------------------------------------------
-- The course of a creation
-- ---------------------------------------------------------------------------

namespace Work

/-- What the creation of a user comes to when its callback has come to this. -/
def called (created : User) : Except Error Unit → Except Error User
  | .ok () => .ok created
  | .error e => .error e.intoSideEffect

/-- What has been asked for once the callback has been called with a user and has come this far. -/
def calledBack (user : NewUser) (created : User) (inner : List Request.Step) : List Action.Step :=
  ⟨.begin, .ok ()⟩ :: ⟨.inside (.query (.createUser user)), .ok created⟩ :: inner.map inside

/-- How the creation of a user goes, up to what is logged at the end: where the callback is called,
it is called once. -/
inductive Creation (user : NewUser) (callback : User → Work Unit) :
    List Action.Step → Except Error User → Prop
  | refused (e : Error) : Creation user callback [⟨.begin, .error e⟩] (.error e)
  | rejected {e : Error} {ending : List Action.Step} {outcome : Except Error User} :
      Ending (.error e) ending outcome →
      Creation user callback
        (⟨.begin, .ok ()⟩ :: ⟨.inside (.query (.createUser user)), .error e⟩ :: ending) outcome
  | called {created : User} {inner : List Request.Step} {result : Except Error Unit}
      {ending : List Action.Step} {outcome : Except Error User} :
      (callback created).run.Runs inner result → Ending (called created result) ending outcome →
      Creation user callback (calledBack user created inner ++ ending) outcome

def loggedCreation (outcome : Except Error User) : List Action.Step :=
  loggedError outcome ++ loggedWorkflow "user_creation" outcome

variable {user : NewUser} {callback : User → Work Unit} {steps : List Action.Step}
  {inner : List Request.Step} {outcome : Except Error User} {created : User}

theorem mapError_runs {f : Error → Error} {work : Work α} {outcome : Except Error α} :
    (mapError f work).run.Runs inner outcome ↔
      ∃ result, work.run.Runs inner result ∧ result.mapError f = outcome := map_runs

theorem createUserThen_runs : (createUserThen user callback).run.Runs inner outcome ↔
    (∃ e, inner = [⟨.query (.createUser user), .error e⟩] ∧ outcome = .error e) ∨
      ∃ created rest result, inner = ⟨.query (.createUser user), .ok created⟩ :: rest ∧
        (callback created).run.Runs rest result ∧ outcome = called created result := by
  constructor
  · intro h
    obtain ⟨e | created, rest, rfl, hrest⟩ := ask_runs.mp h
    · obtain ⟨rfl, ho⟩ := done_iff.mp hrest
      cases ho
      exact .inl ⟨e, rfl, rfl⟩
    rcases bind_runs.mp hrest with ⟨e, failed, rfl⟩ | ⟨u, first, second, rfl, succeeded, hend⟩
    · obtain ⟨result, runs, mapped⟩ := mapError_runs.mp failed
      cases result with
      | ok u => cases mapped
      | error e => cases mapped; exact .inr ⟨created, rest, .error e, rfl, runs, rfl⟩
    · obtain ⟨result, runs, mapped⟩ := mapError_runs.mp succeeded
      obtain ⟨rfl, ho⟩ := done_iff.mp hend
      cases ho
      cases result with
      | ok u => exact .inr ⟨created, first, .ok u, by rw [List.append_nil], runs, rfl⟩
      | error e => cases mapped
  · rintro (⟨e, rfl, rfl⟩ | ⟨created, rest, result, rfl, runs, rfl⟩)
    · exact .cons .nil
    · refine .cons (bind_runs.mpr ?_)
      cases result with
      | ok u => exact .inr ⟨u, rest, [], by simp, mapError_runs.mpr ⟨_, runs, rfl⟩, .nil⟩
      | error e => exact .inl ⟨_, mapError_runs.mpr ⟨_, runs, rfl⟩, rfl⟩

/-- On any store and with any replies, the creation of a user goes in one of these ways. -/
theorem createUser_runs : (createUser user callback).Runs steps outcome ↔
    ∃ course, Creation user callback course outcome ∧ steps = course ++ loggedCreation outcome := by
  constructor
  · intro h
    obtain ⟨_, hfirst, rfl⟩ := runWorkflow_runs.mp h
    obtain ⟨course, attempt, hcourse, rfl, rfl⟩ := runInTransaction_runs.mp hfirst
    refine ⟨course, ?_, List.append_assoc ..⟩
    cases hcourse with
    | refused e => exact .refused e
    | ran hinner ending =>
      rcases createUserThen_runs.mp hinner with
        ⟨e, rfl, rfl⟩ | ⟨created, rest, result, rfl, runs, rfl⟩
      · exact .rejected ending
      · exact .called runs ending
  · rintro ⟨course, hcourse, rfl⟩
    refine runWorkflow_runs.mpr ⟨_, runInTransaction_runs.mpr ?_, (List.append_assoc ..).symm⟩
    cases hcourse with
    | refused e => exact ⟨_, _, .refused e, rfl, rfl⟩
    | rejected ending =>
      exact ⟨_, _, .ran (createUserThen_runs.mpr (.inl ⟨_, rfl, rfl⟩)) ending, rfl, rfl⟩
    | called runs ending =>
      have unit : (createUserThen user callback).run.Runs _ _ :=
        createUserThen_runs.mpr (.inr ⟨_, _, _, rfl, runs, rfl⟩)
      exact ⟨_, _, .ran unit ending, rfl, rfl⟩

/-- Whatever a callback fails with, and however the rollback goes, what is returned is the failure
of a side effect. -/
theorem createUser_callback_fails {e : Error} {more : List Action.Step}
    (fails : (callback created).run.Runs inner (.error e))
    (h : (createUser user callback).Runs (calledBack user created inner ++ more) outcome) :
    ∃ e', outcome = .error e' ∧ e'.category = .sideEffectFailure ∧ e'.isRetryable = false := by
  obtain ⟨course, hcourse, same⟩ := createUser_runs.mp h
  cases hcourse with
  | refused e => cases same
  | rejected ending => cases same
  | @called created' inner' result ending outcome runs ends =>
    obtain ⟨one, others⟩ := List.cons.inj (List.cons.inj same).2
    cases one
    -- A callback that is answered the same comes to the same.
    obtain ⟨-, rfl⟩ := Trace.unique (within_runs.mpr ⟨inner, rfl, fails⟩)
      (within_runs.mpr ⟨inner', rfl, runs⟩) (others.trans (List.append_assoc ..))
    obtain ⟨e', rfl, category, retryable⟩ := Ending.category ends
    refine ⟨e', rfl, category.trans e.intoSideEffect_category, retryable.trans ?_⟩
    rw [Error.isRetryable, e.intoSideEffect_category]
    rfl

/-- A creation that has succeeded, and what has been done in its transaction: the user is created,
the callback has succeeded, and so has the commit. -/
def CreatedWith (user : NewUser) (callback : User → Work Unit) (steps : List Action.Step)
    (created : User) (done : List Success) : Prop :=
  ∃ inner, (callback created).run.Runs inner (.ok ()) ∧
    steps = calledBack user created inner ++ [⟨.commit, .ok ()⟩, logged .transactionCommitted,
      logged (.workflowCommitted "user_creation")] ∧
    done = ⟨.createUser user, created⟩ :: successes inner

/-- A creation succeeds when all its parts do, and then it returns the user that was created. -/
theorem createUser_succeeds : (createUser user callback).Runs steps (.ok created) ↔
    ∃ done, CreatedWith user callback steps created done := by
  rw [createUser_runs]
  constructor
  · rintro ⟨course, hcourse, rfl⟩
    cases hcourse with
    | rejected ending => cases ending
    | @called made inner result ending _ runs ends =>
      cases result with
      | error e => cases ends
      | ok u =>
        cases ends
        exact ⟨_, inner, runs, List.append_assoc .., rfl⟩
  · rintro ⟨done, inner, runs, rfl, rfl⟩
    refine ⟨_, .called runs (.committed created), ?_⟩
    rw [List.append_assoc]
    rfl

theorem tally_calledBack : tally (calledBack user created inner) =
    ⟨[], ⟨.createUser user, created⟩ :: successes inner⟩ :=
  tally_unit (⟨.query (.createUser user), .ok created⟩ :: inner)

theorem CreatedWith.committed {done : List Success}
    (h : CreatedWith user callback steps created done) : (tally steps).committed = [done] := by
  obtain ⟨inner, -, rfl, rfl⟩ := h
  rw [tally_append, tally_calledBack]
  rfl

theorem createUser_keeps :
    KeepsSuccess (createUser user callback) (CreatedWith user callback) := by
  intro steps outcome runs
  rcases runWorkflow_committed runs with ⟨none, e, rfl⟩ | ⟨created, inner, -, -, rfl⟩
  · exact none
  · obtain ⟨done, made⟩ := createUser_succeeds.mp runs
    exact ⟨done, made.committed, made⟩

end Work

-- ---------------------------------------------------------------------------
-- What a callback sees
-- ---------------------------------------------------------------------------

namespace Store

/-- No row of the user with this name is among what has been written. -/
def SparesUser (username : String) (done : List Success) : Prop :=
  ∀ s ∈ done, ∀ row, s.1.effect s.2 = .user row → row.username ≠ username

theorem Transaction.apply_user? (own : Transaction) {change : Change} {username : String}
    (spares : ∀ row, change = .user row → row.username ≠ username) :
    (own.apply change).written.users.get? username = own.written.users.get? username := by
  cases change with
  | user row =>
    rw [Transaction.apply, Table.get?_insert, if_neg fun same => spares row rfl same.symm]
  | _ => rfl

theorem Transaction.after_user? (own : Transaction) {done : List Success} {username : String}
    (spares : SparesUser username done) :
    (own.after done).written.users.get? username = own.written.users.get? username := by
  induction done generalizing own with
  | nil => rfl
  | cons s rest ih =>
    refine (ih _ fun s hs => spares s (List.mem_cons_of_mem _ hs)).trans ?_
    exact own.apply_user? (spares s List.mem_cons_self)

namespace System

variable {Name : Type} {Result : Name → Type} {sys : System Result}

/-- A user that was created in a transaction is read there as it was created, until the transaction
writes it again. -/
theorem created_read (t : sys.Tidy) (w : sys.Written) {name : Name} {tx : TxId} {user : NewUser}
    {created : User} {more : List Success} (here : sys.txOf name = some tx)
    (journal : sys.currentOf (some tx) = ⟨.createUser user, created⟩ :: more)
    (spares : SparesUser created.username more) (now : Instant) :
    sys.store.advance tx now (Query.getUser created.username).plan =
      (sys.store, .finished (.ok created)) := by
  obtain ⟨own, opened⟩ := Option.isSome_iff_exists.mp (t.opened here)
  have written : own.written.users.get? created.username = some created := by
    rw [w.opened opened, journal]
    refine (Transaction.after_user? (Transaction.apply {} (.user created)) spares).trans ?_
    rw [Transaction.apply, Table.get?_insert, if_pos rfl]
  have seen : (sys.store.view tx now).user? created.username = some created := by
    rw [View.user?, show (sys.store.view tx now).own = own from ownOf_eq opened, written]
    rfl
  rw [Query.plan, advance_read, View.requireUser, seen]
  rfl

-- ---------------------------------------------------------------------------
-- Beside other tasks
-- ---------------------------------------------------------------------------

variable {Other : Type} [DecidableEq Other] {Result : Other → Type}

/-- What becomes of the creation of a user with a callback, beside any other tasks. -/
structure CallbackContract (user : NewUser) (callback : User → Work Unit)
    (programs : (name : Option Other) → Program (Beside User Result name))
    (sys : System (Beside User Result)) (happenings : List (Happening (Option Other))) : Prop where
  /-- The task goes as its program does. -/
  follows : ∃ steps left, (sys.run happenings).Traced programs none steps left
  /-- From the call of the callback on, what it is answered when it reads the created user is that
  user, as long as it has not written it itself. -/
  readable : ∀ p steps left created inner, (sys.run happenings).tasks none = some p →
    (sys.run happenings).Traced programs none steps left →
    steps = Work.calledBack user created inner → SparesUser created.username (successes inner) →
    ∃ tx, p.tx = some tx ∧ ∀ now,
      (sys.run happenings).store.advance tx now (Query.getUser created.username).plan =
        ((sys.run happenings).store, .finished (.ok created))
  /-- The user and what the callback has done are committed together, if the task succeeds, and
  nothing is committed otherwise. -/
  kept : Kept (Work.CreatedWith user callback) programs sys happenings

theorem callbackContract (user : NewUser) (callback : User → Work Unit) (connections : Nat)
    (programs : (name : Option Other) → Program (Beside User Result name))
    (is : programs none = Work.createUser user callback)
    (happenings : List (Happening (Option Other))) :
    CallbackContract user callback programs (start connections programs) happenings where
  follows := follows_run connections programs happenings none
  readable p steps left created inner task traced begun spares := by
    have journal := (traced.here p task).2
    rw [begun, Work.tally_calledBack] at journal
    obtain ⟨tx, phase⟩ := p
    cases tx with
    | none => exact nomatch journal
    | some tx =>
      exact ⟨tx, rfl, created_read (tidy_run connections programs happenings)
        (written_run connections programs happenings) (txOf_eq task) journal spares⟩
  kept := kept_run connections programs (is ▸ Work.createUser_keeps) happenings

/-- On any store, the creation of a user with a callback goes in one of the ways of a `Creation`. It
succeeds when the user is created, the callback succeeds, and the commit does; when the callback
fails, the error is the failure of a side effect and not retryable. On the store in memory, beside
any other tasks, the callback can read the user, and what it has done is committed with the user or
not at all. -/
theorem callbackContract_run (user : NewUser) (callback : User → Work Unit) :
    (∀ steps outcome, (Work.createUser user callback).Runs steps outcome ↔
      ∃ course, Work.Creation user callback course outcome ∧
        steps = course ++ Work.loggedCreation outcome) ∧
    (∀ steps rest, (Work.createUser user callback).Trace steps rest →
      ∃ more outcome, (Work.createUser user callback).Runs (steps ++ more) outcome) ∧
    (∀ steps created, (Work.createUser user callback).Runs steps (.ok created) ↔
      ∃ done, Work.CreatedWith user callback steps created done) ∧
    (∀ created inner e more outcome, (callback created).run.Runs inner (.error e) →
      (Work.createUser user callback).Runs (Work.calledBack user created inner ++ more) outcome →
      ∃ e', outcome = .error e' ∧ e'.category = .sideEffectFailure ∧ e'.isRetryable = false) ∧
    ∀ (Other : Type) [DecidableEq Other] (Result : Other → Type) (connections : Nat)
      (programs : (name : Option Other) → Program (Beside User Result name))
      (happenings : List (Happening (Option Other))),
      programs none = Work.createUser user callback →
      CallbackContract user callback programs (start connections programs) happenings :=
  ⟨fun _ _ => Work.createUser_runs, fun _ _ => Trace.extend, fun _ _ => Work.createUser_succeeds,
    fun _ _ _ _ _ fails runs => Work.createUser_callback_fails fails runs,
    fun _ _ _ connections programs happenings is =>
      callbackContract user callback connections programs is happenings⟩

def newcomer : NewUser := ⟨"alice", "Alice", "alice@example.com", "hash"⟩

/-- Records the task to send a mail. -/
def greet (user : User) : Work Unit := do
  let _ ← Work.query (.enqueue (Outbox.VerificationTask.message ⟨user.username⟩))

/-- A user is created with a callback, while an account is opened. -/
def welcome : (name : Option Unit) → Program (Beside User (fun _ => Except Error Account) name)
  | none => Work.createUser newcomer greet
  | some () => (Query.createAccount ⟨"bob", 10, .usd⟩).run

theorem callbackContract_welcome :
    let happenings := (steps none 20).zip (steps (some ()) 20) |>.flatMap fun (a, b) => [a, b]
    let rows := ((start 2 welcome).run happenings).store.committed
    rows.users.values.map (·.username) = ["alice"] ∧ rows.messages.values.length = 1 ∧
      rows.accounts.values.map (·.owner) = ["bob"] ∧
      CallbackContract newcomer greet welcome (start 2 welcome) happenings := by
  intro happenings rows
  exact ⟨by decide +kernel, by decide +kernel, by decide +kernel,
    (callbackContract_run newcomer greet).2.2.2.2 _ _ 2 welcome happenings rfl⟩

end System

end Store

end Passbook
