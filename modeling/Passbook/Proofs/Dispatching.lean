import Passbook.Proofs.LifeCycle

/-!
# Dispatching

Passes of any number of dispatchers work on one outbox, beside programs that mark no messages: those
that enqueue messages or create users with a verification task, and any others. From what one commit
does to one message follows how the messages fare in every run (`lifeCycle_run`).
-/

namespace Passbook

open Outbox Store System Work

-- ---------------------------------------------------------------------------
-- Who works on an outbox
-- ---------------------------------------------------------------------------

/-- A pass of a dispatcher, or any program that marks no messages. -/
inductive Party : Type 1
  | pass (dispatch : Dispatch)
  | other {α : Type} (program : Program α) (unmarked : AsksOnly (·.verdict? = none) program)

namespace Party

abbrev Result : Party → Type
  | pass _ => Except Error Report
  | @other α _ _ => α

def program : (party : Party) → Program party.Result
  | pass d => d.pass
  | other program _ => program

def enqueue (message : NewMessage) : Party :=
  .other (Query.enqueue message).run (Query.run_asks (frames_only _) (by rintro _ ⟨⟩; rfl))

def signUp (user : NewUser) : Party :=
  .other (createUserWithVerification user) <| runWorkflow_asks (frames_only _) <|
    query_asks (by rintro _ ⟨⟩; rfl) fun _ _ => query_asks (by rintro _ ⟨⟩; rfl) fun _ _ => trivial

variable {party : Party} {d : Dispatch} {steps : List Action.Step}

theorem pass_or_unmarked (party : Party) :
    (∃ d, party = .pass d) ∨ AsksOnly (·.verdict? = none) party.program := by
  cases party with
  | pass d => exact .inl ⟨d, rfl⟩
  | other program unmarked => exact .inr unmarked

theorem orderly {rest : Program party.Result} (hp : party = .pass d)
    (h : party.program.Trace steps rest) : Orderly d.retryPolicy (tally steps).current := by
  subst hp
  exact pass_orderly h

theorem delivers {m : Message} {next : Except String Unit → Program party.Result}
    (hp : party = .pass d) (h : party.program.Trace steps (.ask (.inside (.deliver m)) next)) :
    ∃ limit now messages marks, (tally steps).current = ⟨.claim limit now, messages⟩ :: marks ∧
      m ∈ messages := by
  subst hp
  exact pass_delivers h

end Party

namespace Store.System

/-- No rows, and a task for each party before its first step. -/
abbrev ofParties {Name : Type} (connections : Nat) (parties : Name → Party) :
    System fun name => (parties name).Result :=
  start connections fun name => (parties name).program

/-- The policy is one of a pass. -/
def Used {Name : Type} (parties : Name → Party) (policy : RetryPolicy) : Prop :=
  ∃ name d, parties name = .pass d ∧ d.retryPolicy = policy

variable {Name : Type} [DecidableEq Name] {parties : Name → Party}
  {sys sys' : System fun name => (parties name).Result}

omit [DecidableEq Name] in
theorem currentOf_task {name : Name} {p : Process (parties name).Result}
    (task : sys.tasks name = some p) (htx : sys.txOf name = some tx) :
    sys.currentOf p.tx = (sys.journals tx).map Deed.success := by
  rw [← txOf_eq task, htx]
  rfl

/-- What a pass has done in its transaction so far is a claim and then marks. -/
theorem Follows.passing {name : Name} {d : Dispatch}
    (f : sys.Follows fun name => (parties name).program) (hp : parties name = .pass d) :
    sys.Passing d.retryPolicy name := by
  intro tx htx
  obtain ⟨steps, rest, traced⟩ := f name
  obtain ⟨p, task, -⟩ := Option.bind_eq_some_iff.mp htx
  rw [← currentOf_task task htx, (traced.here p task).2]
  exact Party.orderly hp traced.trace

/-- A pass calls handlers only with messages that it has claimed. -/
theorem Follows.delivers {name : Name} {d : Dispatch} {m : Message}
    (f : sys.Follows fun name => (parties name).program) (hp : parties name = .pass d)
    (delivers : sys.Delivers name m) : ∃ now, (now, m) ∈ sys.claims name := by
  obtain ⟨steps, rest, traced⟩ := f name
  obtain ⟨p, next, task, program⟩ := delivers
  obtain ⟨rfl, current⟩ := traced.here p task
  obtain ⟨limit, now, messages, marks, done, mem⟩ := Party.delivers hp (program ▸ traced.trace)
  rw [done] at current
  cases htx : p.tx with
  | none =>
    rw [htx] at current
    exact nomatch current
  | some tx =>
    have htx := (txOf_eq task).trans htx
    rw [currentOf_task task htx] at current
    obtain ⟨claim, rest, journal, hclaim, -⟩ := List.map_eq_cons_iff.mp current
    refine ⟨now, claims_eq_some.mpr ⟨tx, htx, ?_⟩⟩
    obtain ⟨q, row, clock⟩ := claim
    cases hclaim
    rw [journal, claimedIn, List.flatMap_cons]
    exact List.mem_append_left _ (List.mem_map_of_mem mem)

-- ---------------------------------------------------------------------------
-- Commits
-- ---------------------------------------------------------------------------

/-- All that is known of the tasks on an outbox. -/
structure Attended (parties : Name → Party) (sys : System fun name => (parties name).Result) :
    Prop where
  archived : sys.Archived
  locked : sys.Locked
  claiming : sys.Claiming
  follows : sys.Follows fun name => (parties name).program

theorem Attended.start (connections : Nat) (parties : Name → Party) :
    (ofParties connections parties).Attended parties :=
  ⟨.start .., .start .., .start .., .start _⟩

theorem Attended.happened (t : sys.Tidy) (g : sys.Guarded) (a : sys.Attended parties)
    (h : Happened sys sys') : sys'.Attended parties where
  archived := a.archived.happened t g h
  locked := a.locked.happened t h
  claiming := a.claiming.happened t g h
  follows := a.follows.happened t g h

/-- What a happening does to the messages. -/
inductive Posts (parties : Name → Party) (sys sys' : System fun name => (parties name).Result) :
    Prop
  | same : sys'.store.committed.messages = sys.store.committed.messages →
      sys'.history = sys.history → Posts parties sys sys'
  | commit (c : Commit Name) : sys'.history = sys.history ++ [c] →
      (∀ id, Fares (Used parties) (sys.store.committed.messages.get? id)
        (sys'.store.committed.messages.get? id) (verdictsOn id c.deeds)) → Posts parties sys sys'

theorem Attended.posts (a : sys.Attended parties) (enough : sys.Enough) (h : Happened sys sys') :
    Posts parties sys sys' := by
  cases recorded h with
  | same committed history => exact .same (congrArg _ committed) history
  | @commit name tx own author opened _ committed history =>
    refine .commit _ history fun id => ?_
    rw [committed, Tables.publish, a.claiming.posted opened]
    rcases (parties name).pass_or_unmarked with ⟨d, hp⟩ | unmarked
    · have orderly := a.follows.passing hp tx author
      exact (a.claiming.handling opened orderly).fares ⟨name, d, hp, rfl⟩ id
    · refine unmarked_fares (a.follows.opened_asked unmarked author)
        (a.archived.booked.opened opened).done (fun made hmade => ?_) id
      have new := fresh_number a.archived.numbered a.archived.filed enough opened
        (number_of_made hmade)
      exact Option.eq_none_iff_forall_ne_some.mpr fun row found =>
        new (a.archived.lineal.messages found)

/-- Committed rows tell how their messages have fared in all commits so far. -/
structure Told (parties : Name → Party) (sys : System fun name => (parties name).Result) :
    Prop where
  tells : ∀ id, Telling (Used parties) (verdictsOn id (deedsOf sys.history))
    (sys.store.committed.messages.get? id)
  once : ∀ c ∈ sys.history, ∀ id, (verdictsOn id c.deeds).length ≤ 1

omit [DecidableEq Name] in
theorem Told.start (connections : Nat) (parties : Name → Party) :
    (ofParties connections parties).Told parties where
  tells _ := rfl
  once _ h := nomatch h

omit [DecidableEq Name] in
theorem Told.posts (told : sys.Told parties) (posts : Posts parties sys sys') :
    sys'.Told parties := by
  cases posts with
  | same messages history =>
    refine ⟨fun id => ?_, ?_⟩
    · rw [history, messages]
      exact told.tells id
    · rw [history]
      exact told.once
  | commit c history fares =>
    refine ⟨fun id => ?_, fun c' hc id => ?_⟩
    · rw [history, deedsOf_snoc, verdictsOn_append]
      exact (fares id).telling (told.tells id)
    · rcases List.mem_append.mp (history ▸ hc) with hc | hc
      · exact told.once c' hc id
      · exact List.mem_singleton.mp hc ▸ (fares id).length_le

omit [DecidableEq Name] in
/-- The commits that have handled a message are as many as the verdicts on it. -/
theorem length_verdicts {id : OutboxId} {history : List (Commit Name)}
    (once : ∀ c ∈ history, (verdictsOn id c.deeds).length ≤ 1) :
    (verdictsOn id (deedsOf history)).length = history.countP (·.processes id) := by
  induction history with
  | nil => rfl
  | cons c rest ih =>
    have first := once c List.mem_cons_self
    rw [deedsOf, List.flatMap_cons, verdictsOn_append, List.length_append,
      ← deedsOf, ih fun c hc => once c (List.mem_cons_of_mem _ hc), List.countP_cons, Nat.add_comm]
    cases told : verdictsOn id c.deeds with
    | nil => simp [Commit.processes, told]
    | cons v more =>
      obtain rfl : more = [] := by simpa [told] using first
      simp [Commit.processes, told]

omit [DecidableEq Name] in
theorem Told.row {row : Message} {id : OutboxId} (told : sys.Told parties)
    (found : sys.store.committed.messages.get? id = some row) :
    Tells (Used parties) row (verdictsOn id (deedsOf sys.history)) := by
  have tells := told.tells id
  rwa [found] at tells

omit [DecidableEq Name] in
/-- Messages that were handled are there. -/
theorem Told.found {id : OutboxId} {v : Verdict} (told : sys.Told parties)
    (mem : v ∈ verdictsOn id (deedsOf sys.history)) :
    ∃ row, sys.store.committed.messages.get? id = some row ∧
      Tells (Used parties) row (verdictsOn id (deedsOf sys.history)) := by
  have tells := told.tells id
  cases found : sys.store.committed.messages.get? id with
  | none =>
    rw [found] at tells
    rw [show verdictsOn id (deedsOf sys.history) = [] from tells] at mem
    exact nomatch mem
  | some row => exact ⟨row, rfl, told.row found⟩

omit [DecidableEq Name] in
theorem Told.attempts {row : Message} {id : OutboxId} (told : sys.Told parties)
    (found : sys.store.committed.messages.get? id = some row) :
    row.attempts.toNat = sys.history.countP (·.processes id) := by
  rw [(told.row found).attempts, length_verdicts fun c hc => told.once c hc id]

-- ---------------------------------------------------------------------------
-- Runs
-- ---------------------------------------------------------------------------

variable (connections : Nat) (parties : Name → Party)

theorem attended_run (happenings : List (Happening Name)) :
    ((ofParties connections parties).run happenings).Attended parties :=
  run_induction (.start connections parties) (fun _ _ t g a h => a.happened t g h) happenings

theorem told_run (happenings : List (Happening Name))
    (enough : ((ofParties connections parties).run happenings).Enough) :
    ((ofParties connections parties).run happenings).Told parties := by
  refine enough_induction (motive := Told parties) (Attended parties) [] happenings
    (.start ..) (fun _ _ t g a h => a.happened t g h) (.start ..) ?_ enough
  exact fun _ _ _ _ a told h enough => told.posts (a.posts (enough.before h) h)

-- ---------------------------------------------------------------------------
-- From one snapshot to a later one
-- ---------------------------------------------------------------------------

/-- Nothing happens any more to a message that was delivered or given up. -/
theorem terminal_stays {id : OutboxId} {row : Message} (earlier later : List (Happening Name))
    (enough : ((ofParties connections parties).run (earlier ++ later)).Enough)
    (found : ((ofParties connections parties).run earlier).store.committed.messages.get? id =
      some row) (terminal : row.status.isTerminal) :
    ((ofParties connections parties).run (earlier ++ later)).store.committed.messages.get? id =
      some row := by
  refine enough_induction (motive := fun sys => sys.store.committed.messages.get? id = some row)
    (Attended parties) earlier later (attended_run connections parties earlier)
    (fun _ _ t g a h => a.happened t g h) found ?_ enough
  intro sys sys' _ _ a found h enough
  cases a.posts (enough.before h) h with
  | same messages => rw [messages, found]
  | commit c _ fares => exact (fares id).terminal found terminal

/-- The messages from one snapshot to a later one. -/
structure LifeCycle (parties : Name → Party)
    (before after : System fun name => (parties name).Result) : Prop where
  /-- A message stays. When it is no longer pending, its row does not change again. -/
  moves : ∀ {id old}, before.store.committed.messages.get? id = some old →
    ∃ row, after.store.committed.messages.get? id = some row ∧
      (old.status = .pending ∨ row = old)
  delivered : ∀ {id row}, after.store.committed.messages.get? id = some row →
    (row.deliveredAt.isSome ↔ row.status = .delivered)
  /-- Every commit that has handled a message counts as one attempt. -/
  attempts : ∀ {id row}, after.store.committed.messages.get? id = some row →
    row.attempts.toNat = after.history.countP (·.processes id)
  grows : ∃ more, after.history = before.history ++ more ∧
    ∀ {id old row}, before.store.committed.messages.get? id = some old →
      after.store.committed.messages.get? id = some row →
        row.attempts.toNat = old.attempts.toNat + more.countP (·.processes id)
  bounded : ∀ most, 1 ≤ most → (∀ policy, Used parties policy → policy.maxAttempts.toNat ≤ most) →
    ∀ {id row}, after.store.committed.messages.get? id = some row → row.attempts.toNat ≤ most
  /-- Only passes handle messages. -/
  passes : ∀ {c id}, c ∈ after.history → c.processes id → ∃ d, parties c.author = .pass d
  /-- What a pass has claimed is still as it was, it was due, and one more attempt fits. -/
  claimed : ∀ {name d now m}, parties name = .pass d → (now, m) ∈ after.claims name →
    after.store.committed.messages.get? m.id = some m ∧ m.status = .pending ∧
      m.availableAt ≤ now ∧ m.attempts.toNat + 1 < UInt32.size
  /-- Handlers are called with messages that were claimed. -/
  handed : ∀ {name d m}, parties name = .pass d → after.Delivers name m →
    ∃ now, (now, m) ∈ after.claims name
  /-- Marks are made on messages that were claimed, as they were claimed. -/
  marked : ∀ {name d tx deed id v}, parties name = .pass d → after.txOf name = some tx →
    deed ∈ after.journals tx → deed.query.verdict? = some (id, v) →
      ∃ now m row, (now, m) ∈ after.claims name ∧ m.id = id ∧
        deed.Handles d.retryPolicy m v row
  /-- No handler is called with a message that was delivered or given up. -/
  silent : ∀ {id old name d m}, before.store.committed.messages.get? id = some old →
    old.status.isTerminal → parties name = .pass d → after.Delivers name m → m.id ≠ id

/-- However passes and other programs are interleaved, messages are only handled while they are
pending, each attempt is counted once, and no message is handed out before its time. -/
theorem lifeCycle_run (earlier later : List (Happening Name)) :
    let after := fun happenings => (ofParties connections parties).run happenings
    (after (earlier ++ later)).Enough →
      LifeCycle parties (after earlier) (after (earlier ++ later)) := by
  intro after enough
  have told' : (after earlier).Told parties := told_run connections parties earlier enough.earlier
  have told : (after (earlier ++ later)).Told parties := told_run connections parties _ enough
  have attended : (after (earlier ++ later)).Attended parties := attended_run ..
  have tidy : (after (earlier ++ later)).Tidy := tidy_run ..
  have claimed : ∀ {name d now m}, parties name = .pass d →
      (now, m) ∈ (after (earlier ++ later)).claims name →
      (after (earlier ++ later)).store.committed.messages.get? m.id = some m ∧ m.isDue now := by
    intro name d now m hp claims
    obtain ⟨_, _, _, rest⟩ := attended.claiming.claimed tidy (attended.follows.passing hp) claims
    exact rest
  have stays : ∀ {id old}, (after earlier).store.committed.messages.get? id = some old →
      old.status.isTerminal →
        (after (earlier ++ later)).store.committed.messages.get? id = some old :=
    terminal_stays connections parties earlier later enough
  have continued := continued_run connections (fun name => (parties name).program) earlier later
    enough
  exact {
    moves := fun {id old} found => by
      cases terminal : old.status.isTerminal with
      | true => exact ⟨old, stays found terminal, .inr rfl⟩
      | false =>
        obtain ⟨row, there, -⟩ := continued.messages found
        exact ⟨row, there, .inl (by simpa [Status.isTerminal] using terminal)⟩
    delivered := fun found => (told.row found).delivered
    attempts := fun found => told.attempts found
    grows := by
      obtain ⟨more, history⟩ : (after earlier).history <+: (after (earlier ++ later)).history :=
        history_run ..
      refine ⟨more, history.symm, fun {id old row} found there => ?_⟩
      rw [told.attempts there, told'.attempts found, ← history, List.countP_append]
    bounded := fun most one bound _ _ found => (told.row found).bounded most one bound
    passes := fun {c id} hc processes => by
      refine (parties c.author).pass_or_unmarked.resolve_right fun unmarked => ?_
      have none := attended.follows.committed_asked unmarked hc
      have quiet : verdictsOn id c.deeds = [] :=
        verdictsOn_eq_nil fun d hd v verdict => by simp [none d hd] at verdict
      simp [Commit.processes, quiet] at processes
    claimed := fun hp claims => by
      obtain ⟨found, due⟩ := claimed hp claims
      have pending := pending_of_isDue due
      simp only [Message.isDue, Bool.and_eq_true, decide_eq_true_eq] at due
      exact ⟨found, pending, due.2, (told.row found).room pending⟩
    handed := fun hp delivers => attended.follows.delivers hp delivers
    marked := fun {name d tx deed id v} hp htx mem verdict => by
      obtain ⟨own, opened⟩ := Option.isSome_iff_exists.mp (tidy.opened htx)
      have orderly := attended.follows.passing hp tx htx
      obtain ⟨now, m, row, claims, rest⟩ :=
        (attended.claiming.handling opened orderly).marked_of_mem mem verdict
      exact ⟨now, m, row, claims_eq_some.mpr ⟨tx, htx, claims⟩, rest⟩
    silent := fun {id old name d m} found terminal hp delivers => by
      rintro rfl
      obtain ⟨now, claims⟩ := attended.follows.delivers hp delivers
      obtain ⟨there, due⟩ := claimed hp claims
      obtain rfl := Option.some.inj ((stays found terminal).symm.trans there)
      simp [Status.isTerminal, pending_of_isDue due] at terminal }

/-- Who takes part when mail is sent: two messages are recorded, and one pass takes them on. -/
inductive Mailing
  | first | second | dispatch
  deriving DecidableEq

def Mailing.party : Mailing → Party
  | first => .enqueue { topic := "mail", payload := .null }
  | second => .enqueue { topic := "mail", payload := .null }
  | dispatch => .pass ⟨fun _ => true, .noRetry, 2⟩

def recording : List (Happening Mailing) := steps .first 8 ++ steps .second 8

/-- The first message is delivered, and the second is given up. -/
def mailing : List (Happening Mailing) :=
  steps .dispatch 9 ++ [.move .dispatch (.hear (.ok ()))] ++ steps .dispatch 6 ++
    [.move .dispatch (.hear (.error "no such address"))] ++ steps .dispatch 8

def statuses (sys : System fun name : Mailing => name.party.Result) : List (Status × UInt32) :=
  sys.store.committed.messages.values.map fun row => (row.status, row.attempts)

theorem lifeCycle_mailing :
    let sys := (ofParties 1 Mailing.party).run (recording ++ mailing)
    sys.Enough ∧ statuses sys = [(.delivered, 1), (.deadLettered, 1)] ∧
      LifeCycle Mailing.party ((ofParties 1 Mailing.party).run recording) sys := by
  intro sys
  have enough : sys.Enough := enough_run 1 _ (by decide +kernel)
  exact ⟨enough, by decide +kernel, lifeCycle_run 1 Mailing.party recording mailing enough⟩

end Store.System

end Passbook
