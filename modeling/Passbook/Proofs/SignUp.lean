import Mathlib.Data.Set.Function
import Passbook.Outbox.Verification
import Passbook.Proofs.Lineage
import Passbook.Proofs.Passes

/-!
# Signing up

The committed users are those that committed transactions have created, each of them once, and so
are the committed messages (`Registered`, `Sent`). A sign-up creates a user and the task to send a
verification mail in one transaction. Where users and messages come from nowhere else, there is one
task for every user (`signUps_run`).
-/

namespace Passbook

open Outbox

namespace Store

-- ---------------------------------------------------------------------------
-- Users and messages of journals
-- ---------------------------------------------------------------------------

def Deed.username? : Deed → Option String
  | ⟨.createUser user, _, _⟩ => some user.username
  | _ => none

def usernamesOf (deeds : List Deed) : List String := deeds.filterMap Deed.username?

theorem usernamesOf_append (first rest : List Deed) :
    usernamesOf (first ++ rest) = usernamesOf first ++ usernamesOf rest := List.filterMap_append

theorem usernamesOf_deedsOf (history : List (Commit Name)) :
    usernamesOf (deedsOf history) = history.flatMap fun c => usernamesOf c.deeds := by
  rw [deedsOf, usernamesOf, List.filterMap_flatMap]
  rfl

theorem messagesOf_deedsOf (history : List (Commit Name)) :
    messagesOf (deedsOf history) = history.flatMap fun c => messagesOf c.deeds := by
  rw [deedsOf, messagesOf, List.filterMap_flatMap]
  rfl

theorem mem_usernamesOf {deeds : List Deed} {name : String} :
    name ∈ usernamesOf deeds ↔
      ∃ user, .createUser user ∈ deeds.map Deed.query ∧ user.username = name := by
  constructor
  · intro h
    obtain ⟨⟨q, row, now⟩, hd, created⟩ := List.mem_filterMap.mp h
    cases q with
    | createUser user => exact ⟨user, List.mem_map_of_mem hd, Option.some.inj created⟩
    | _ => cases created
  · rintro ⟨user, created, rfl⟩
    obtain ⟨⟨q, row, now⟩, hd, rfl⟩ := List.mem_map.mp created
    exact List.mem_filterMap.mpr ⟨_, hd, rfl⟩

variable {q : Query} {row : q.Row} {v : View} {own : Transaction} {journal : List Deed}

theorem user_apply (change : Change) (there : (own.written.users.get? name).isSome) :
    ((own.apply change).written.users.get? name).isSome := by
  cases change with
  | user row =>
    rw [Transaction.apply, Table.get?_insert]
    split
    · rfl
    · exact there
  | _ => exact there

theorem message_apply {id : OutboxId} (change : Change)
    (there : (own.written.messages.get? id).isSome) :
    ((own.apply change).written.messages.get? id).isSome := by
  cases change with
  | message row =>
    rw [Transaction.apply, Table.get?_insert]
    split
    · rfl
    · exact there
  | _ => exact there

/-- A user that is created was not seen before. -/
theorem username_done {name : String} (did : q.Did v number row change)
    (created : Deed.username? ⟨q, row, now⟩ = some name) :
    v.user? name = none ∧ ((v.own.apply change).written.users.get? name).isSome := by
  cases did with
  | createUser _ unseen _ hr =>
    subst hr
    obtain rfl := Option.some.inj created
    exact ⟨unseen, by rw [Transaction.apply, Table.get?_insert, if_pos rfl]; rfl⟩
  | read reads => cases q <;> first | cases created; done | cases reads
  | _ => cases created

theorem message_done {made : Message} (did : q.Did v number row change)
    (sent : Deed.message? ⟨q, row, now⟩ = some made) :
    ((v.own.apply change).written.messages.get? made.id).isSome := by
  cases did with
  | enqueue hr =>
    obtain rfl := Option.some.inj sent
    rw [Transaction.apply, Table.get?_insert, if_pos rfl]
    rfl
  | read reads => cases q <;> first | cases sent; done | cases reads
  | _ => cases sent

theorem user_done {user : NewUser} {row : User} (h : Deed.Done ⟨.createUser user, row, now⟩) :
    row.username = user.username := by
  obtain ⟨v, number, change, did⟩ := h
  cases did with
  | createUser _ _ _ hr =>
    subst hr
    rfl
  | read reads => cases reads

theorem sent_done {message : NewMessage} {row : Message}
    (h : Deed.Done ⟨.enqueue message, row, now⟩) :
    row.topic = message.topic ∧ row.payload = message.payload := by
  obtain ⟨v, number, change, did⟩ := h
  cases did with
  | enqueue hr =>
    subst hr
    exact ⟨rfl, rfl⟩
  | read reads => cases reads

/-- What a transaction has created it has written, and no user twice. -/
structure Registers (own : Transaction) (journal : List Deed) : Prop where
  users : ∀ name ∈ usernamesOf journal, (own.written.users.get? name).isSome
  messages : ∀ made ∈ messagesOf journal, (own.written.messages.get? made.id).isSome
  distinct : (usernamesOf journal).Nodup

theorem Registers.empty : Registers {} [] where
  users _ h := nomatch h
  messages _ h := nomatch h
  distinct := .nil

theorem Registers.did (r : Registers v.own journal) (did : q.Did v number row change) :
    Registers (v.own.apply change) (journal ++ [⟨q, row, now⟩]) where
  users name mem := by
    rw [usernamesOf_append] at mem
    rcases List.mem_append.mp mem with mem | mem
    · exact user_apply change (r.users name mem)
    · obtain ⟨d, hd, created⟩ := List.mem_filterMap.mp mem
      obtain rfl := List.mem_singleton.mp hd
      exact (username_done did created).2
  messages made mem := by
    rw [messagesOf_append] at mem
    rcases List.mem_append.mp mem with mem | mem
    · exact message_apply change (r.messages made mem)
    · obtain ⟨d, hd, sent⟩ := List.mem_filterMap.mp mem
      obtain rfl := List.mem_singleton.mp hd
      exact message_done did sent
  distinct := by
    rw [usernamesOf_append, List.nodup_append]
    refine ⟨r.distinct, ?_, fun name mem other mem' => ?_⟩
    · unfold usernamesOf
      rw [List.filterMap_cons]
      split <;> simp
    · obtain ⟨d, hd, created⟩ := List.mem_filterMap.mp mem'
      obtain rfl := List.mem_singleton.mp hd
      have unseen := (username_done did created).1
      rintro rfl
      obtain ⟨user, written⟩ := Option.isSome_iff_exists.mp (r.users name mem)
      exact nomatch unseen.symm.trans (View.user?_eq_some.mpr (.inl written))

-- ---------------------------------------------------------------------------
-- Systems
-- ---------------------------------------------------------------------------

namespace System

variable {Name : Type} [DecidableEq Name] {Result : Name → Type} {sys sys' : System Result}

/-- The committed users are those that committed transactions have created, each of them once, and
every committed message is what became of one that a committed transaction has made. -/
structure Registered (sys : System Result) : Prop where
  opened : ∀ {tx own}, sys.store.transaction? tx = some own → Registers own (sys.journals tx)
  users : ∀ name, (sys.store.committed.users.get? name).isSome ↔
    name ∈ usernamesOf (deedsOf sys.history)
  distinct : (usernamesOf (deedsOf sys.history)).Nodup
  messages : ∀ {id row}, sys.store.committed.messages.get? id = some row →
    ∃ made ∈ messagesOf (deedsOf sys.history), made.id = id ∧ row.Continues made
  done : ∀ d ∈ deedsOf sys.history, d.Done

omit [DecidableEq Name] in
theorem Registered.start (connections : Nat) (programs : (name : Name) → Program (Result name)) :
    (start connections programs).Registered where
  opened h := nomatch h
  users _ := ⟨(nomatch ·), (nomatch ·)⟩
  distinct := .nil
  messages h := nomatch h
  done _ h := nomatch h

theorem Registered.happened (t : sys.Tidy) (g : sys.Guarded) (a : sys.Archived)
    (r : sys.Registered) (h : Happened sys sys') : sys'.Registered := by
  refine ⟨fun {tx own} opened => ?_, ?_, ?_, ?_, ?_⟩
  · exact open_happened t g h opened .empty (fun before _ => r.opened before)
      fun was does _ _ => (r.opened was).did does.did
  · intro name
    cases recorded h with
    | same committed history => rw [committed, history, r.users]
    | @commit author tx own _ opened _ committed history =>
      rw [history, deedsOf_snoc, usernamesOf_append, List.mem_append, ← r.users]
      constructor
      · intro there
        obtain ⟨row, found⟩ := Option.isSome_iff_exists.mp there
        -- What is committed now is what the transaction saw last.
        rw [committed, ← view_published opened default, View.publish_user?] at found
        rcases (a.lineal.view opened default).seen_user found with created | ⟨old, found, -⟩
        · exact .inr (mem_usernamesOf.mpr created)
        · exact .inl (Option.isSome_of_eq_some found)
      · rintro (there | created)
        · exact user_stays h there
        · have written := (r.opened opened).users name created
          obtain ⟨row, written⟩ := Option.isSome_iff_exists.mp written
          rw [committed, Tables.publish]
          exact Option.isSome_of_eq_some (Table.get?_overlay_eq_some.mpr (.inl written))
  · cases recorded h with
    | same _ history => exact history ▸ r.distinct
    | commit _ opened _ _ history =>
      rw [history, deedsOf_snoc, usernamesOf_append, List.nodup_append]
      refine ⟨r.distinct, (r.opened opened).distinct, fun name there other created => ?_⟩
      rintro rfl
      obtain ⟨user, query, rfl⟩ := mem_usernamesOf.mp created
      rw [← r.users, a.unique.new opened user query] at there
      cases there
  · intro id row found
    cases recorded h with
    | same committed history => exact history ▸ r.messages (committed ▸ found)
    | @commit author tx own _ opened _ committed history =>
      rw [history, deedsOf_snoc, messagesOf_append]
      rw [committed, ← view_published opened default, View.publish_message?] at found
      rcases (a.lineal.view opened default).seen_message found with
        ⟨made, mem, rest⟩ | ⟨old, found, continues⟩
      · exact ⟨made, List.mem_append_right _ mem, rest⟩
      · obtain ⟨made, mem, number, before⟩ := r.messages found
        exact ⟨made, List.mem_append_left _ mem, number, continues.trans before⟩
  · cases recorded h with
    | same _ history => exact history ▸ r.done
    | commit _ opened _ _ history =>
      rw [history, deedsOf_snoc]
      intro d hd
      exact (List.mem_append.mp hd).elim (r.done d) ((a.booked.opened opened).done d)

/-- Every message that a committed transaction has made is there. -/
def Sent (sys : System Result) : Prop :=
  ∀ made ∈ messagesOf (deedsOf sys.history),
    ∃ row, sys.store.committed.messages.get? made.id = some row ∧ row.Continues made

theorem Sent.happened (t : sys.Tidy) (g : sys.Guarded) (a : sys.Archived) (r : sys.Registered)
    (sent : sys.Sent) (h : Happened sys sys') (enough : sys'.Enough) : sys'.Sent := by
  cases recorded h with
  | same committed history => rwa [Sent, committed, history]
  | @commit author tx own _ opened _ committed history =>
    intro made mem
    rw [history, deedsOf_snoc, messagesOf_append] at mem
    rcases List.mem_append.mp mem with mem | mem
    · obtain ⟨old, found, before⟩ := sent made mem
      obtain ⟨row, found, continues⟩ := (a.continued t g h enough).messages found
      exact ⟨row, found, continues.trans before⟩
    · obtain ⟨row, written⟩ := Option.isSome_iff_exists.mp ((r.opened opened).messages made mem)
      refine ⟨row, ?_, ?_⟩
      · rw [committed, Tables.publish]
        exact Table.get?_overlay_eq_some.mpr (.inl written)
      -- A number that was given to a new message belongs to no other message that was made in this
      -- transaction, and to none that was committed before.
      · rcases (a.lineal.inherited opened).message written with
          ⟨made', mem', same, continues⟩ | ⟨old, found, -⟩
        · have a' := a.happened t g h
          have distinct := nodup_numbers a'.numbered a'.filed enough
          rw [history, deedsOf_snoc, numbersOf_append] at distinct
          have ids := nodup_made message_number (List.nodup_append.mp distinct).2.1
          obtain rfl := List.inj_on_of_nodup_map ids mem' mem same
          exact continues
        · exact absurd (a.lineal.messages found) (fresh_number a.numbered a.filed
            (enough.before h) opened (number_of_made mem))

theorem registered_run (connections : Nat) (programs : (name : Name) → Program (Result name))
    (happenings : List (Happening Name)) :
    ((start connections programs).run happenings).Registered := by
  refine (run_induction (motive := fun sys => sys.Archived ∧ sys.Registered)
    ⟨.start .., .start ..⟩ ?_ happenings).2
  rintro sys sys' t g ⟨a, r⟩ h
  exact ⟨a.happened t g h, r.happened t g a h⟩

theorem sent_run (connections : Nat) (programs : (name : Name) → Program (Result name))
    (happenings : List (Happening Name))
    (enough : ((start connections programs).run happenings).Enough) :
    ((start connections programs).run happenings).Sent := by
  refine enough_induction (fun sys => sys.Archived ∧ sys.Registered) [] happenings
    ⟨.start .., .start ..⟩ ?_ (fun _ h => nomatch h) ?_ enough
  · exact fun _ _ t g ⟨a, r⟩ h => ⟨a.happened t g h, r.happened t g a h⟩
  · exact fun _ _ t g ⟨a, r⟩ sent h enough => sent.happened t g a r h enough

end System

end Store

-- ---------------------------------------------------------------------------
-- Who signs up
-- ---------------------------------------------------------------------------

open Store System Work Dialogue Trace

/-- The query creates a user or a message. -/
def Query.enrolls : Query → Bool
  | .createUser _ | .enqueue _ => true
  | _ => false

/-- A sign-up, or any program that creates neither users nor messages. -/
inductive Client : Type 1
  | signUp (user : NewUser)
  | other {α : Type} (program : Program α) (apart : AsksOnly (·.enrolls = false) program)

namespace Client

abbrev Result : Client → Type
  | signUp _ => Except Error User
  | @other α _ _ => α

def program : (client : Client) → Program client.Result
  | signUp user => createUserWithVerification user
  | other program _ => program

theorem pass_apart (d : Dispatch) : AsksOnly (·.enrolls = false) d.pass := by
  refine runInTransaction_asks (frames_only _) (batch_asks ?_ ?_ fun m => ⟨?_, ?_, ?_, ?_⟩)
  · rintro q ⟨⟩
  · rintro limit now q ⟨⟩
    rfl
  · rintro q ⟨⟩
  · rintro q ⟨⟩
  · rintro event q ⟨⟩
  · rintro q v marks q' ⟨⟩
    cases marks <;> rfl

/-- Passes of dispatchers create neither users nor messages. -/
def pass (d : Dispatch) : Client := .other d.pass (pass_apart d)

theorem signUp_or_apart (client : Client) :
    (∃ user, client = .signUp user) ∨ AsksOnly (·.enrolls = false) client.program := by
  cases client with
  | signUp user => exact .inl ⟨user, rfl⟩
  | other program apart => exact .inr apart

/-- What a sign-up has returned. -/
def returned : (client : Client) → Option (Process client.Result) → Option (Except Error User)
  | signUp _, some ⟨_, .finished outcome⟩ => some outcome
  | _, _ => none

theorem signUp_of_returned {client : Client} {p? : Option (Process client.Result)}
    (h : client.returned p? = some outcome) :
    (∃ user, client = .signUp user) ∧ ∃ p, p? = some p := by
  cases client with
  | signUp user =>
    cases p? with
    | none => cases h
    | some p => exact ⟨⟨user, rfl⟩, p, rfl⟩
  | other program apart => cases p? <;> cases h

/-- A sign-up that succeeds has created its user and the task that names the user. -/
theorem createUserWithTask_runs {user : NewUser} {created : User} {inner : List Request.Step}
    (runs : (createUserWithTask user).run.Runs inner (.ok created)) :
    ∃ made, successes inner = [⟨.createUser user, created⟩,
      ⟨.enqueue (VerificationTask.message ⟨created.username⟩), made⟩] := by
  obtain ⟨row, _, rfl, sends⟩ := query_runs.mp runs
  obtain ⟨made, _, rfl, ends⟩ := query_runs.mp sends
  obtain ⟨rfl, ho⟩ := done_iff.mp ends
  cases ho
  exact ⟨made, rfl⟩

variable {client : Client} {user : NewUser} {steps : List Action.Step}

/-- What a sign-up has committed is its user and the task. -/
theorem committed {rest : Program client.Result} (hc : client = .signUp user)
    (h : client.program.Trace steps rest) : ∀ done ∈ (tally steps).committed, ∃ created made,
      done = [⟨.createUser user, created⟩,
        ⟨.enqueue (VerificationTask.message ⟨created.username⟩), made⟩] := by
  subst hc
  obtain ⟨more, outcome, runs⟩ := h.extend
  have grows := committed_grows (tally steps) more
  rw [← tally_append] at grows
  intro done hdone
  obtain ⟨created, inner, runs, rfl⟩ := runWorkflow_commits runs done (grows.subset hdone)
  exact ⟨created, createUserWithTask_runs runs⟩

/-- A sign-up that has returned an error has committed nothing, and one that has returned a user
has committed that user and the task. -/
theorem returned_committed {p : Process client.Result} {outcome : Except Error User}
    (hc : client = .signUp user) (h : client.program.Trace steps p.stand.program)
    (returned : client.returned (some p) = some outcome) :
    ((tally steps).committed = [] ∧ ∃ e, outcome = .error e) ∨
      ∃ created made, outcome = .ok created ∧ (tally steps).committed =
        [[⟨.createUser user, created⟩,
          ⟨.enqueue (VerificationTask.message ⟨created.username⟩), made⟩]] := by
  subst hc
  obtain ⟨tx, phase⟩ := p
  cases phase with
  | finished result =>
    obtain rfl := Option.some.inj returned
    rcases runWorkflow_committed h with ⟨nothing, failed⟩ | ⟨created, inner, runs, one, succeeded⟩
    · exact .inl ⟨nothing, failed⟩
    · obtain ⟨made, did⟩ := createUserWithTask_runs runs
      exact .inr ⟨created, made, succeeded, did ▸ one⟩
  | _ => cases returned

end Client

/-- The user to whom a message asks to send a verification mail. -/
def Outbox.Message.verifies? (message : Message) : Option String :=
  (VerificationTask.ofPayload? message.payload).map (·.username)

theorem Outbox.VerificationTask.ofPayload?_payload (task : VerificationTask) :
    ofPayload? task.payload = some task := rfl

namespace Store

/-- For every user that is created there is one message, and it is the task for that user. -/
structure Enlists (deeds : List Deed) : Prop where
  tasks : (messagesOf deeds).map Message.verifies? = (usernamesOf deeds).map some
  topics : ∀ made ∈ messagesOf deeds, made.topic = VerificationTask.topic

theorem none_of_apart {deeds : List Deed} (apart : ∀ d ∈ deeds, d.query.enrolls = false) :
    usernamesOf deeds = [] ∧ messagesOf deeds = [] := by
  constructor <;> refine List.filterMap_eq_nil_iff.mpr fun ⟨q, row, now⟩ hd => ?_
  all_goals
    have apart := apart _ hd
    cases q <;> first | rfl | cases apart

theorem deed_of_success {d : Deed} {q : Query} {row : q.Row} (h : d.success = ⟨q, row⟩) :
    d = ⟨q, row, d.now⟩ := by
  cases d
  cases h
  rfl

/-- What a sign-up that has committed has made. -/
structure Enrolled (user : NewUser) (created : User) (made : Message) (deeds : List Deed) :
    Prop where
  usernames : usernamesOf deeds = [user.username]
  messages : messagesOf deeds = [made]
  username : created.username = user.username
  topic : made.topic = VerificationTask.topic
  task : made.verifies? = some created.username

theorem Enrolled.of_success {deeds : List Deed} {user : NewUser} {created : User} {made : Message}
    (done : ∀ d ∈ deeds, d.Done) (did : deeds.map Deed.success = [⟨.createUser user, created⟩,
      ⟨.enqueue (VerificationTask.message ⟨created.username⟩), made⟩]) :
    Enrolled user created made deeds := by
  obtain ⟨creates, _, rfl, first, did⟩ := List.map_eq_cons_iff.mp did
  obtain ⟨sends, _, rfl, second, did⟩ := List.map_eq_cons_iff.mp did
  obtain rfl := List.map_eq_nil_iff.mp did
  rw [deed_of_success first, deed_of_success second] at done ⊢
  obtain ⟨topic, payload⟩ := sent_done (done _ (List.mem_cons_of_mem _ List.mem_cons_self))
  exact ⟨rfl, rfl, user_done (done _ List.mem_cons_self), topic,
    by rw [Message.verifies?, payload]; exact congrArg _ (VerificationTask.ofPayload?_payload _)⟩

theorem Enlists.of_enrolled {deeds : List Deed} {user : NewUser} {created : User} {made : Message}
    (e : Enrolled user created made deeds) : Enlists deeds where
  tasks := by simp [e.usernames, e.messages, e.task, e.username]
  topics made' mem := by
    rw [e.messages] at mem
    exact List.mem_singleton.mp mem ▸ e.topic

theorem Enlists.history {Name : Type} {history : List (Commit Name)}
    (all : ∀ c ∈ history, Enlists c.deeds) : Enlists (deedsOf history) := by
  constructor
  · rw [messagesOf_deedsOf, usernamesOf_deedsOf, List.map_flatMap, List.map_flatMap]
    exact List.flatMap_congr fun c hc => (all c hc).tasks
  · intro made mem
    rw [messagesOf_deedsOf] at mem
    obtain ⟨c, hc, mem⟩ := List.mem_flatMap.mp mem
    exact (all c hc).topics made mem

namespace System

/-- No rows, and a task for each client before its first step. -/
abbrev ofClients {Name : Type} (connections : Nat) (clients : Name → Client) :
    System fun name => (clients name).Result :=
  start connections fun name => (clients name).program

variable {Name : Type} [DecidableEq Name] {clients : Name → Client}
  {sys : System fun name => (clients name).Result}

/-- What a sign-up has returned. -/
def returned (sys : System fun name => (clients name).Result) (name : Name) :
    Option (Except Error User) :=
  (clients name).returned (sys.tasks name)

omit [DecidableEq Name] in
theorem Registered.enrolled {c : Commit Name} {user : NewUser} {created : User} {made : Message}
    (r : sys.Registered) (hc : c ∈ sys.history)
    (did : c.deeds.map Deed.success = [⟨.createUser user, created⟩,
      ⟨.enqueue (VerificationTask.message ⟨created.username⟩), made⟩]) :
    Enrolled user created made c.deeds :=
  .of_success (fun d hd => r.done d (List.mem_flatMap.mpr ⟨c, hc, hd⟩)) did

/-- A commit is one of a sign-up, or it creates neither users nor messages. -/
theorem Follows.enrolled (f : sys.Follows fun name => (clients name).program)
    (r : sys.Registered) : ∀ c ∈ sys.history,
      (∃ user created made, clients c.author = .signUp user ∧
        Enrolled user created made c.deeds) ∨
          usernamesOf c.deeds = [] ∧ messagesOf c.deeds = [] := by
  intro c hc
  rcases (clients c.author).signUp_or_apart with ⟨user, hclient⟩ | apart
  · obtain ⟨steps, rest, traced⟩ := f c.author
    obtain ⟨created, made, did⟩ := Client.committed hclient traced.trace _ (traced.told hc)
    exact .inl ⟨user, created, made, hclient, r.enrolled hc did⟩
  · exact .inr (none_of_apart (f.committed_asked apart hc))

theorem Follows.enlists (f : sys.Follows fun name => (clients name).program)
    (r : sys.Registered) : Enlists (deedsOf sys.history) := by
  refine .history fun c hc => ?_
  rcases f.enrolled r c hc with ⟨user, created, made, -, enrolled⟩ | ⟨users, messages⟩
  · exact .of_enrolled enrolled
  · exact ⟨by rw [users, messages]; rfl, by simp [messages]⟩

omit [DecidableEq Name] in
theorem Registered.message_made {id : OutboxId} {row : Message} (r : sys.Registered)
    (found : sys.store.committed.messages.get? id = some row) :
    ∃ made ∈ messagesOf (deedsOf sys.history), made.id = id ∧ row.verifies? = made.verifies? ∧
      row.topic = made.topic := by
  obtain ⟨made, mem, number, continues⟩ := r.messages found
  exact ⟨made, mem, number, by rw [Message.verifies?, continues.payload]; rfl, continues.topic⟩

omit [DecidableEq Name] in
/-- Where every user was created with one task, tasks and users correspond. -/
theorem Registered.bijOn (r : sys.Registered) (sent : sys.Sent)
    (enlists : Enlists (deedsOf sys.history)) : Set.BijOn Message.verifies?
      {row | ∃ id, sys.store.committed.messages.get? id = some row}
      {name? | ∃ name, name? = some name ∧ (sys.store.committed.users.get? name).isSome} := by
  refine ⟨?_, ?_, ?_⟩
  · rintro row ⟨id, found⟩
    obtain ⟨made, mem, -, task, -⟩ := r.message_made found
    have named := List.mem_map_of_mem (f := Message.verifies?) mem
    rw [enlists.tasks, ← task] at named
    obtain ⟨name, mem, name?⟩ := List.mem_map.mp named
    exact ⟨name, name?.symm, (r.users name).mpr mem⟩
  · rintro row ⟨id, found⟩ row' ⟨id', found'⟩ same
    obtain ⟨made, mem, rfl, task, -⟩ := r.message_made found
    obtain ⟨made', mem', rfl, task', -⟩ := r.message_made found'
    have distinct : ((messagesOf (deedsOf sys.history)).map Message.verifies?).Nodup := by
      rw [enlists.tasks]
      exact r.distinct.map (Option.some_injective _)
    obtain rfl := List.inj_on_of_nodup_map distinct mem mem' (task.symm.trans (same.trans task'))
    exact Option.some.inj (found.symm.trans found')
  · rintro _ ⟨name, rfl, there⟩
    have named := List.mem_map_of_mem (f := some) ((r.users name).mp there)
    rw [← enlists.tasks] at named
    obtain ⟨made, mem, task⟩ := List.mem_map.mp named
    obtain ⟨row, found, continues⟩ := sent made mem
    exact ⟨row, ⟨made.id, found⟩, by rw [Message.verifies?, continues.payload]; exact task⟩

theorem Follows.returned_committed {name : Name} {outcome : Except Error User}
    (f : sys.Follows fun name => (clients name).program)
    (returned : sys.returned name = some outcome) :
    (sys.committedBy name = [] ∧ ∃ e, outcome = .error e) ∨
      ∃ user created made, outcome = .ok created ∧ sys.committedBy name =
        [[⟨.createUser user, created⟩,
          ⟨.enqueue (VerificationTask.message ⟨created.username⟩), made⟩]] := by
  obtain ⟨steps, rest, traced⟩ := f name
  obtain ⟨⟨user, hclient⟩, p, task⟩ := Client.signUp_of_returned returned
  rw [System.returned, task] at returned
  rw [traced.committed]
  have trace := (traced.here p task).1 ▸ traced.trace
  exact (Client.returned_committed hclient trace returned).imp_right fun committed =>
    ⟨user, committed⟩

/-- What is promised of users and verification tasks. -/
structure SignedUp (sys : System fun name => (clients name).Result) : Prop where
  topics : ∀ {id row}, sys.store.committed.messages.get? id = some row →
    row.topic = VerificationTask.topic
  /-- There is one task for every user. -/
  tasks : Set.BijOn Message.verifies?
    {row | ∃ id, sys.store.committed.messages.get? id = some row}
    {name? | ∃ name, name? = some name ∧ (sys.store.committed.users.get? name).isSome}
  /-- Users and messages are those of sign-ups that have committed. -/
  users : ∀ {name row}, sys.store.committed.users.get? name = some row →
    ∃ c ∈ sys.history, ∃ user, clients c.author = .signUp user ∧ user.username = name
  messages : ∀ {id row}, sys.store.committed.messages.get? id = some row →
    ∃ c ∈ sys.history, (∃ user, clients c.author = .signUp user) ∧
      ∃ made ∈ messagesOf c.deeds, made.id = id
  failed : ∀ {name e}, sys.returned name = some (.error e) → ∀ c ∈ sys.history, c.author ≠ name
  succeeded : ∀ {name user}, sys.returned name = some (.ok user) →
    ∃ c ∈ sys.history, c.author = name ∧ (sys.store.committed.users.get? user.username).isSome ∧
      ∃ made ∈ messagesOf c.deeds, ∃ row, sys.store.committed.messages.get? made.id = some row ∧
        row.verifies? = some user.username

variable (connections : Nat) (clients : Name → Client)

/-- However sign-ups, passes and other programs are interleaved, there is one verification task for
every user and none besides, and a sign-up has left both or neither. -/
theorem signUps_run (happenings : List (Happening Name)) :
    let sys := (ofClients connections clients).run happenings
    sys.Enough → SignedUp sys := by
  intro sys enough
  have registered : sys.Registered := registered_run ..
  have sent : sys.Sent := sent_run connections _ happenings enough
  have follows : sys.Follows fun name => (clients name).program :=
    follows_run connections _ happenings
  have enlists := follows.enlists registered
  exact {
    topics := fun found => by
      obtain ⟨made, mem, -, -, topic⟩ := registered.message_made found
      exact topic.trans (enlists.topics made mem)
    tasks := registered.bijOn sent enlists
    users := fun {name row} found => by
      have mem := (registered.users name).mp (Option.isSome_of_eq_some found)
      rw [usernamesOf_deedsOf] at mem
      obtain ⟨c, hc, mem⟩ := List.mem_flatMap.mp mem
      rcases follows.enrolled registered c hc with ⟨user, _, _, client, enrolled⟩ | ⟨none, -⟩
      · rw [enrolled.usernames] at mem
        exact ⟨c, hc, user, client, (List.mem_singleton.mp mem).symm⟩
      · rw [none] at mem
        exact nomatch mem
    messages := fun {id row} found => by
      obtain ⟨made, mem, number, -⟩ := registered.message_made found
      rw [messagesOf_deedsOf] at mem
      obtain ⟨c, hc, mem⟩ := List.mem_flatMap.mp mem
      rcases follows.enrolled registered c hc with ⟨user, _, _, client, -⟩ | ⟨-, none⟩
      · exact ⟨c, hc, ⟨user, client⟩, made, mem, number⟩
      · rw [none] at mem
        exact nomatch mem
    failed := fun {name e} returned c hc author => by
      rcases follows.returned_committed returned with ⟨nothing, -⟩ | ⟨_, _, _, ok, -⟩
      · have mem := mem_committedBy.mpr ⟨c, hc, author, rfl⟩
        rw [nothing] at mem
        exact nomatch mem
      · cases ok
    succeeded := fun {name user} returned => by
      rcases follows.returned_committed returned with ⟨-, _, failed⟩ | ⟨new, _, made, ok, one⟩
      · cases failed
      cases ok
      have mem : _ ∈ sys.committedBy name := one ▸ List.mem_singleton_self _
      obtain ⟨c, hc, author, did⟩ := mem_committedBy.mp mem
      have enrolled := registered.enrolled hc did
      have creates : new.username ∈ usernamesOf c.deeds := by simp [enrolled.usernames]
      have sends : made ∈ messagesOf c.deeds := by simp [enrolled.messages]
      have there : (sys.store.committed.users.get? user.username).isSome := by
        rw [registered.users, usernamesOf_deedsOf, enrolled.username]
        exact List.mem_flatMap.mpr ⟨c, hc, creates⟩
      obtain ⟨row, found, continues⟩ := sent made <| by
        rw [messagesOf_deedsOf]
        exact List.mem_flatMap.mpr ⟨c, hc, sends⟩
      refine ⟨c, hc, author, there, made, sends, row, found, ?_⟩
      rw [Message.verifies?, continues.payload]
      exact enrolled.task }

/-- Two sign-ups want the same name, another one does not, and a pass takes on their tasks. -/
inductive Opening
  | alice | again | bob | dispatch
  deriving DecidableEq

def Opening.client : Opening → Client
  | alice => .signUp ⟨"alice", "Alice", "alice@example.com", "hash"⟩
  | again => .signUp ⟨"alice", "Alicia", "alicia@example.com", "hash"⟩
  | bob => .signUp ⟨"bob", "Bob", "bob@example.com", "hash"⟩
  | dispatch => .pass ⟨fun _ => true, .noRetry, 10⟩

def opening : List (Happening Opening) :=
  (List.replicate 20 Opening.alice).flatMap
      (fun name => [.move name (.step default), .move .bob (.step default)]) ++
    steps .again 20 ++ steps .dispatch 9 ++ [.move .dispatch (.hear (.ok ()))] ++
    steps .dispatch 6 ++ [.move .dispatch (.hear (.ok ()))] ++ steps .dispatch 8

theorem signUps_opening :
    let sys := (ofClients 2 Opening.client).run opening
    sys.store.committed.users.values.map (·.username) = ["alice", "bob"] ∧
      sys.store.committed.messages.values.map (fun row => (row.verifies?, row.status)) =
        [(some "alice", .delivered), (some "bob", .delivered)] ∧
      sys.Enough ∧ SignedUp sys := by
  intro sys
  have enough : sys.Enough := enough_run 2 _ (by decide +kernel)
  exact ⟨by decide +kernel, by decide +kernel, enough, signUps_run 2 Opening.client opening enough⟩

end System

end Store

end Passbook
