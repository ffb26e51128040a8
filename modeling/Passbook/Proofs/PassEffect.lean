import Passbook.Proofs.AmongOthers
import Passbook.Proofs.Dispatching

/-!
# The effect of a pass

A pass of a dispatcher that other transactions do not interfere with takes on the first due messages
whose rows nobody has locked, in the order of their numbers (`Dispatch.batchOf`). It calls the
handler of each, and writes for each the row that follows from the answer (`Dispatch.row`), whatever
handlers answer and clocks show. When the commit goes through, these rows replace those of the
batch, every other row is as it was, and the report counts what has become of the messages;
otherwise nothing has changed (`pass_effect`).
-/

namespace Passbook

namespace Outbox

/-- A message that a pass has taken on: how its delivery went, and what the clock showed then. -/
structure Delivery where
  message : Message
  outcome : Except String Unit
  now : Instant

namespace Dispatch

variable (d : Dispatch)

/-- Only a handler can have delivered the message. -/
def Answers (x : Delivery) : Prop :=
  d.handles x.message.topic = false → x.outcome = .error s!"no handler for topic {x.message.topic}"

/-- What is heard in the course of a delivery: the answer of the handler, if there is one, and the
clock. -/
def heard (x : Delivery) : List Request.Step :=
  (if d.handles x.message.topic then [⟨.deliver x.message, x.outcome⟩] else []) ++ [⟨.clock, x.now⟩]

def verdict (x : Delivery) : Verdict :=
  match x.outcome with
  | .ok () => .delivered
  | .error _ =>
    match d.retryPolicy.onFailure (x.message.attempts + 1) x.now with
    | .retryAt _ => .retried
    | .deadLetter => .deadLettered

/-- The row that a delivery leaves behind. -/
def row (x : Delivery) : Message :=
  let tried := { x.message with attempts := x.message.attempts + 1 }
  match x.outcome with
  | .ok () => { tried with status := .delivered, deliveredAt := some x.now }
  | .error reason =>
    match d.retryPolicy.onFailure (x.message.attempts + 1) x.now with
    | .retryAt instant =>
      { tried with status := .pending, lastError := some reason, availableAt := instant }
    | .deadLetter => { tried with status := .deadLettered, lastError := some reason }

/-- The messages that a pass takes on: the first due ones whose rows are not locked. -/
def batchOf (rows : Store.Tables) (taken : Store.RowKey → Bool) (now : Instant) : List Message :=
  (rows.messages.values.filter fun m => m.isDue now && !taken (.outbox m.id)).take
    d.batchSize.toNat

/-- What a pass has written after these deliveries. -/
def posting (done : List Delivery) : Store.Transaction :=
  { written := { messages := .ofRows Message.id (done.map d.row) } }

theorem row_id (x : Delivery) : (d.row x).id = x.message.id := by
  unfold row
  split
  · rfl
  · split <;> rfl

theorem ids_of_rows (done : List Delivery) :
    (done.map d.row).map Message.id = done.map (·.message.id) := by
  rw [List.map_map]
  exact List.map_congr_left fun x _ => d.row_id x

theorem posting_snoc (done : List Delivery) (x : Delivery) :
    (d.posting done).apply (.message (d.row x)) = d.posting (done ++ [x]) := by
  rw [posting, posting, List.map_append, List.map_singleton, Table.ofRows_snoc]
  rfl

end Dispatch

end Outbox

open Outbox Store Work Plan

-- ---------------------------------------------------------------------------
-- One message
-- ---------------------------------------------------------------------------

section

variable {d : Dispatch} {rows : Tables} {taken : RowKey → Bool} {own : Transaction}
  {log : List Request.Step} {before : List Delivery} {m : Message}

theorem changeMessage_comes {id : OutboxId} {update : Message → Message}
    (seen : (View.mk rows own default).message? id = some m)
    (free : taken (.outbox id) = false) :
    (changeMessage id update).Comes rows taken own (fun _ => False) fun row change =>
      row = update m ∧ change = .message (update m) := by
  have found : ∀ now, (View.mk rows own now).requireMessage id = .ok m := fun now =>
    require_ok.mpr seen
  refine ⟨free, .write (fun now e refused => ?_) fun now row wrote => ?_⟩
  · exact nomatch (map_ok.mpr ⟨m, found now, rfl⟩).symm.trans refused
  · obtain rfl := Except.ok.inj ((map_ok.mpr ⟨m, found now, rfl⟩).symm.trans wrote)
    exact ⟨rfl, rfl⟩

/-- The pass sees a message that it has not written yet as it is committed. -/
theorem posting_sees (found : rows.messages.get? m.id = some m)
    (new : m.id ∉ before.map (·.message.id)) :
    (View.mk rows (d.posting before) default).message? m.id = some m := by
  refine View.message?_eq_some.mpr (.inr ⟨Table.get?_ofRows_eq_none.mpr ?_, found⟩)
  rwa [d.ids_of_rows]

/-- What a pass comes to after one more delivery. -/
def Dispatched (d : Dispatch) (log : List Request.Step) (before : List Delivery) (m : Message)
    (log' : List Request.Step) (own : Transaction) (report : Report) : Prop :=
  ∃ x : Delivery, x.message = m ∧ d.Answers x ∧ log' = log ++ d.heard x ∧
    own = d.posting (before ++ [x]) ∧ report = .of [d.verdict x]

theorem deliver_succeeds {post : List Request.Step → Transaction → Except String Unit → Prop}
    (h : ∀ outcome,
      (d.handles m.topic = false → outcome = .error s!"no handler for topic {m.topic}") →
      post (log ++ if d.handles m.topic then [⟨.deliver m, outcome⟩] else []) own outcome) :
    Succeeds rows taken post log own (d.deliver m).run := by
  unfold Dispatch.deliver
  cases handled : d.handles m.topic with
  | true =>
    intro outcome
    have heard := h outcome (by simp [handled])
    rwa [handled] at heard
  | false =>
    have heard := h _ fun _ => rfl
    rw [handled, if_neg Bool.false_ne_true, List.append_nil] at heard
    exact heard

theorem process_succeeds (found : rows.messages.get? m.id = some m)
    (new : m.id ∉ before.map (·.message.id)) (free : taken (.outbox m.id) = false) :
    Succeeds rows taken (Dispatched d log before m) log (d.posting before) (d.process m).run := by
  have seen := @posting_sees d rows before m found new
  refine .bind (deliver_succeeds fun outcome answers => ?_)
  -- Whatever row the mark makes of the message, it is written, logged and counted.
  have dispatched : ∀ x : Delivery, x.message = m → x.outcome = outcome →
      Dispatched d log before m
        ((log ++ if d.handles m.topic then [⟨.deliver m, outcome⟩] else []) ++ [⟨.clock, x.now⟩])
        ((d.posting before).apply (.message (d.row x))) (.of [d.verdict x]) := by
    rintro x rfl rfl
    exact ⟨x, rfl, answers, List.append_assoc .., d.posting_snoc before x, rfl⟩
  cases outcome with
  | ok _ =>
    refine .clock fun now => .query ((changeMessage_comes seen free).mono (fun _ no => no) ?_)
    rintro _ _ ⟨rfl, rfl⟩
    exact dispatched ⟨m, .ok (), now⟩ rfl rfl
  | error reason =>
    refine .clock fun now => ?_
    have counted := dispatched ⟨m, .error reason, now⟩ rfl rfl
    simp only [Dispatch.row, Dispatch.verdict] at counted
    cases policy : d.retryPolicy.onFailure (m.attempts + 1) now with
    | retryAt instant =>
      rw [policy] at counted
      refine .query ((changeMessage_comes seen free).mono (fun _ no => no) ?_)
      rintro _ _ ⟨rfl, rfl⟩
      exact counted
    | deadLetter =>
      rw [policy] at counted
      refine .query ((changeMessage_comes seen free).mono (fun _ no => no) ?_)
      rintro _ _ ⟨rfl, rfl⟩
      exact counted

-- ---------------------------------------------------------------------------
-- A batch
-- ---------------------------------------------------------------------------

/-- The deliveries of these messages, one after the other. -/
def DispatchedAll (d : Dispatch) (log : List Request.Step) (before : List Delivery)
    (messages : List Message) (log' : List Request.Step) (own : Transaction) (report : Report) :
    Prop :=
  ∃ done : List Delivery, done.map (·.message) = messages ∧ (∀ x ∈ done, d.Answers x) ∧
    log' = log ++ done.flatMap d.heard ∧ own = d.posting (before ++ done) ∧
    report = .of (done.map d.verdict)

theorem processAll_succeeds {messages : List Message}
    (found : ∀ m ∈ messages, rows.messages.get? m.id = some m)
    (free : ∀ m ∈ messages, taken (.outbox m.id) = false)
    (distinct : (messages.map Message.id).Nodup)
    (new : ∀ m ∈ messages, m.id ∉ before.map (·.message.id)) :
    Succeeds rows taken (DispatchedAll d log before messages) log (d.posting before)
      (d.processAll messages).run := by
  induction messages generalizing log before with
  | nil => exact ⟨[], rfl, fun x no => (nomatch no), by simp, by simp, rfl⟩
  | cons m rest ih =>
    obtain ⟨once, distinct'⟩ := List.nodup_cons.mp distinct
    obtain ⟨found, found'⟩ := List.forall_mem_cons.mp found
    obtain ⟨free, free'⟩ := List.forall_mem_cons.mp free
    obtain ⟨new, new'⟩ := List.forall_mem_cons.mp new
    refine .bind ((process_succeeds found new free).mono ?_)
    rintro _ _ _ ⟨x, rfl, answers, rfl, rfl, rfl⟩
    have new' : ∀ m ∈ rest, m.id ∉ (before ++ [x]).map (·.message.id) := fun m hm mem => by
      rw [List.map_append] at mem
      rcases List.mem_append.mp mem with mem | mem
      · exact new' m hm mem
      · have same : m.id = x.message.id := List.mem_singleton.mp mem
        exact once (same ▸ List.mem_map_of_mem hm)
    refine .bind ((ih found' free' distinct' new').mono ?_)
    rintro _ _ _ ⟨done, rfl, answered, rfl, rfl, rfl⟩
    refine ⟨x :: done, rfl, List.forall_mem_cons.mpr ⟨answers, answered⟩, ?_, ?_, ?_⟩
    · rw [List.flatMap_cons, List.append_assoc]
    · rw [List.append_assoc, List.singleton_append]
    · exact (Report.of_append [d.verdict x] (done.map d.verdict)).symm

theorem mem_batchOf {now : Instant} (keyed : rows.Keyed) (h : m ∈ d.batchOf rows taken now) :
    rows.messages.get? m.id = some m ∧ m.isDue now ∧ taken (.outbox m.id) = false := by
  obtain ⟨mem, due⟩ := List.mem_filter.mp (List.mem_of_mem_take h)
  obtain ⟨id, found⟩ := Table.mem_values.mp mem
  obtain ⟨due, free⟩ := Bool.and_eq_true_iff.mp due
  exact ⟨(keyed.messages found).symm ▸ found, due, by simpa using free⟩

theorem nodup_batchOf (keyed : rows.Keyed) (taken : RowKey → Bool) (now : Instant) :
    ((d.batchOf rows taken now).map Message.id).Nodup :=
  (((List.take_sublist ..).trans List.filter_sublist).map _).nodup
    (Table.nodup_values keyed.messages)

/-- Messages that are committed and due are claimed as far as their locks are there, and as long as
there is room. -/
theorem claimEach_comes {limit : UInt32} {now : Instant} {claimed messages : List Message}
    (found : ∀ m ∈ messages, rows.messages.get? m.id = some m ∧ m.isDue now) :
    (claimEach limit now claimed (messages.map Message.id)).Comes rows taken {} (fun _ => False)
      fun row change => change = .nothing ∧ row = claimed ++
        (messages.filter fun m => !taken (.outbox m.id)).take (limit.toNat - claimed.length) := by
  induction messages generalizing claimed with
  | nil => exact ⟨rfl, by simp⟩
  | cons m rest ih =>
    obtain ⟨⟨committed, due⟩, found'⟩ := List.forall_mem_cons.mp found
    rw [List.map_cons, claimEach]
    split
    · next full => exact ⟨rfl, by simp [Nat.sub_eq_zero_of_le full]⟩
    · next room =>
      cases locked : taken (.outbox m.id) with
      | true =>
        rw [Comes, locked, List.filter_cons_of_neg (by simp [locked])]
        exact ih found'
      | false =>
        rw [Comes, locked, List.filter_cons_of_pos (by simp [locked])]
        intro clock
        have seen : (View.mk rows {} clock).requireMessage m.id = .ok m := require_ok.mpr committed
        simp only [seen, due, if_true]
        refine (ih found').mono (fun _ no => no) ?_
        rintro row change ⟨rfl, rfl⟩
        have less : limit.toNat - claimed.length =
            (limit.toNat - (claimed ++ [m]).length) + 1 := by
          rw [List.length_append, List.length_singleton]
          omega
        rw [less, List.take_succ_cons, List.append_assoc, List.singleton_append]
        exact ⟨rfl, rfl⟩

/-- A claim comes to the batch. -/
theorem claim_comes (keyed : rows.Keyed) (now : Instant) :
    (Plan.claim d.batchSize now).Comes rows taken {} (fun _ => False) fun claimed change =>
      claimed = d.batchOf rows taken now ∧ change = .nothing := by
  intro clock
  have scanned : (View.mk rows {} clock).messages (·.isDue now) =
      rows.messages.values.filter (·.isDue now) := by
    show (rows.messages.rows.filter _).map Prod.snd = _
    rw [Table.values, List.filter_map]
    rfl
  dsimp only
  rw [scanned]
  refine (claimEach_comes fun m mem => ?_).mono (fun _ no => no) ?_
  · obtain ⟨mem, due⟩ := List.mem_filter.mp mem
    obtain ⟨id, found⟩ := Table.mem_values.mp mem
    exact ⟨(keyed.messages found).symm ▸ found, due⟩
  · rintro row change ⟨none, rfl⟩
    refine ⟨?_, none⟩
    rw [List.nil_append, List.filter_filter, Dispatch.batchOf, List.length_nil, Nat.sub_zero]
    congr 2
    funext m
    exact Bool.and_comm ..

/-- A pass over these rows as of an instant. -/
structure Outbox.Pass where
  now : Instant
  done : List Delivery

def Outbox.Dispatch.heardBy (d : Dispatch) (p : Pass) : List Request.Step :=
  ⟨.clock, p.now⟩ :: p.done.flatMap d.heard

/-- The pass has taken on the messages that it should, and has had an answer for each. -/
structure Outbox.Dispatch.Takes (d : Dispatch) (rows : Tables) (taken : RowKey → Bool) (p : Pass) :
    Prop where
  batch : p.done.map (·.message) = d.batchOf rows taken p.now
  answered : ∀ x ∈ p.done, d.Answers x

theorem batch_succeeds (keyed : rows.Keyed) :
    Succeeds rows taken (fun log' own report => ∃ p : Pass, d.Takes rows taken p ∧
      log' = log ++ d.heardBy p ∧ own = d.posting p.done ∧ report = .of (p.done.map d.verdict))
      log {} d.batch.run := by
  refine .clock fun now => .query ((claim_comes keyed now).mono (fun _ no => no) ?_)
  rintro _ _ ⟨rfl, rfl⟩
  have first : ∀ m ∈ d.batchOf rows taken now, m.id ∉ ([] : List Delivery).map (·.message.id) :=
    fun _ _ no => nomatch no
  refine (processAll_succeeds (fun m hm => (mem_batchOf keyed hm).1)
    (fun m hm => (mem_batchOf keyed hm).2.2) (nodup_batchOf keyed taken now) first).mono ?_
  rintro _ _ _ ⟨done, batch, answered, rfl, rfl, rfl⟩
  exact ⟨⟨now, done⟩, ⟨batch, answered⟩, List.append_assoc .., rfl, rfl⟩

-- ---------------------------------------------------------------------------
-- The rows afterwards
-- ---------------------------------------------------------------------------

/-- The rows once the pass is committed. -/
def Outbox.Dispatch.after (d : Dispatch) (rows : Tables) (p : Pass) : Tables :=
  { rows with messages := rows.messages.overlay (.ofRows Message.id (p.done.map d.row)) }

/-- Each message of the batch has the row that its delivery leaves behind, and every other row is as
it was. -/
structure Outbox.Dispatch.Effect (d : Dispatch) (p : Pass) (before after : Tables) : Prop where
  handled : ∀ x ∈ p.done, after.messages.get? x.message.id = some (d.row x)
  untouched : ∀ id, id ∉ p.done.map (·.message.id) →
    after.messages.get? id = before.messages.get? id
  others : after.accounts = before.accounts ∧ after.entries = before.entries ∧
    after.transfers = before.transfers ∧ after.users = before.users ∧
    after.sessions = before.sessions

theorem Outbox.Dispatch.Takes.distinct {p : Pass} (h : d.Takes rows taken p)
    (keyed : rows.Keyed) : (p.done.map (·.message.id)).Nodup := by
  have nodup := nodup_batchOf (d := d) keyed taken p.now
  rwa [← h.batch, List.map_map] at nodup

theorem Outbox.Dispatch.Takes.effect {p : Pass} (h : d.Takes rows taken p) (keyed : rows.Keyed) :
    d.Effect p rows (d.after rows p) where
  handled x hx := by
    have distinct : ((p.done.map d.row).map Message.id).Nodup :=
      d.ids_of_rows p.done ▸ h.distinct keyed
    refine Table.get?_overlay_eq_some.mpr (.inl ?_)
    rw [← d.row_id x]
    exact get?_ofRows_of_mem distinct (List.mem_map_of_mem hx)
  untouched id other := by
    have unwritten : (Table.ofRows Message.id (p.done.map d.row)).get? id = none :=
      Table.get?_ofRows_eq_none.mpr (d.ids_of_rows p.done ▸ other)
    rw [Dispatch.after, Table.get?_overlay, unwritten]
    rfl
  others := ⟨rfl, rfl, rfl, rfl, rfl⟩

/-- The messages of a pass are in the order of their numbers. -/
theorem Outbox.Dispatch.Takes.ascending {p : Pass} (h : d.Takes rows taken p)
    (keyed : rows.Keyed) : (p.done.map (·.message.id.value)).Pairwise (· < ·) := by
  have batch : (p.done.map (·.message)).Sublist rows.messages.values :=
    h.batch ▸ (List.take_sublist ..).trans List.filter_sublist
  have ordered := (Table.ascending_values keyed.messages).sublist batch
  refine List.pairwise_map.mpr ((List.pairwise_map.mp ordered).imp fun {a b} less => ?_)
  exact compareOfLessAndEq_eq_lt.mp less

-- ---------------------------------------------------------------------------
-- A pass
-- ---------------------------------------------------------------------------

/-- The moves of a task that is about to make a pass lead to what follows the pass. -/
theorem attends_pass {s : Store} {faults : Faults}
    {target : List Request.Step → Store → Process β → Prop}
    {next : Except Error Report → Program β} (between : Between rows taken faults s)
    (reached : faults.begin = false) (keyed : rows.Keyed)
    (published : ∀ {p s'}, d.Takes rows taken p → faults.commit = false →
      Between (d.after rows p) taken faults s' →
        Attends target (log ++ d.heardBy p) s'
          ⟨none, .ready (next (.ok (.of (p.done.map d.verdict))))⟩)
    (broke : ∀ {p s'}, d.Takes rows taken p → faults.commit = true →
      Between rows taken { faults with commit := false } s' →
        Attends target (log ++ d.heardBy p) s'
          ⟨none, .ready (next (.error (connectionReset "commit")))⟩) :
    Attends target log s ⟨none, .ready (d.pass.andThen next)⟩ := by
  refine attends_runInTransaction between reached (batch_succeeds keyed) ?_ ?_
  · rintro _ _ _ s' ⟨p, takes, rfl, rfl, rfl⟩ sound between
    exact published takes sound between
  · rintro _ _ _ s' ⟨p, takes, rfl, rfl, rfl⟩ due between
    exact broke takes due between

end

namespace Store.System

variable {Name : Type} [DecidableEq Name] {Result : Name → Type}

/-- A task is about to make a pass, no failure of a begin is due and a connection is free, and
others may have locked rows. The pass calls the handlers for the first messages that are due as of
its first look at the clock and whose rows are not locked, one after the other, and no others. If
the commit goes through, each of these messages has the row that follows from the answer and from
what the clock showed then, the report counts what became of them, and nothing else has changed.
Otherwise nothing has changed at all. -/
theorem pass_effect (d : Dispatch) (name : Name) (connections : Nat)
    (programs : (name : Name) → Program (Result name)) (happenings : List (Happening Name))
    (next : Except Error Report → Program (Result name))
    (around : Nat → Instant × Except String Unit) :
    let sys := (start connections programs).run happenings
    sys.tasks name = some ⟨none, .ready (d.pass.andThen next)⟩ → 0 < sys.store.idle →
    sys.store.faults.begin = false →
    ∃ count p outcome,
      let moves := attended name around count sys
      let after := sys.run moves
      after.tasks name = some ⟨none, .ready (next outcome)⟩ ∧
      heard name sys moves = d.heardBy p ∧
      d.Takes sys.store.committed sys.store.isTaken p ∧
      (p.done.map (·.message.id.value)).Pairwise (· < ·) ∧
      outcome = (if sys.store.faults.commit then .error (connectionReset "commit")
        else .ok (.of (p.done.map d.verdict))) ∧
      (∀ report, outcome = .ok report → d.Effect p sys.store.committed after.store.committed) ∧
      ∀ e, outcome = .error e → after.store.committed = sys.store.committed := by
  intro sys task idle reached
  have keyed : sys.store.committed.Keyed :=
    (guarded_run connections programs happenings).store.committed
  have between := (ordered_run connections programs happenings).between idle
    (queue_run connections programs happenings idle)
  have course : Attends (fun log s proc => ∃ p outcome, proc = ⟨none, .ready (next outcome)⟩ ∧
      log = d.heardBy p ∧ d.Takes sys.store.committed sys.store.isTaken p ∧
      (outcome = .ok (.of (p.done.map d.verdict)) ∧ sys.store.faults.commit = false ∧
          s.committed = d.after sys.store.committed p ∨
        outcome = .error (connectionReset "commit") ∧ sys.store.faults.commit = true ∧
          s.committed = sys.store.committed)) [] sys.store _ :=
    attends_pass between reached keyed
      (fun takes sound between =>
        .here ⟨_, _, rfl, rfl, takes, .inl ⟨rfl, sound, between.committed⟩⟩)
      fun takes due between => .here ⟨_, _, rfl, rfl, takes, .inr ⟨rfl, due, between.committed⟩⟩
  obtain ⟨count, _, there, p, outcome, rfl, log, takes, ends⟩ := course.run sys task around
  refine ⟨count, p, outcome, there, log, takes, takes.ascending keyed, ?_⟩
  rcases ends with ⟨rfl, sound, committed⟩ | ⟨rfl, due, committed⟩
  · refine ⟨by rw [sound]; rfl, fun _ _ => ?_, fun e no => nomatch no⟩
    exact committed ▸ takes.effect keyed
  · exact ⟨by rw [due]; rfl, fun _ no => (nomatch no), fun _ _ => committed⟩

/-- Two messages are there when the pass begins. -/
theorem pass_effect_mailing :
    let d : Dispatch := ⟨fun _ => true, .noRetry, 2⟩
    let sys := (ofParties 1 Mailing.party).run recording
    statuses sys = [(.pending, 0), (.pending, 0)] ∧ ∃ count p,
      let after := sys.run (attended .dispatch (fun _ => (default, .ok ())) count sys)
      after.tasks .dispatch = some ⟨none, .ready (.done (.ok (.of (p.done.map d.verdict))))⟩ ∧
        d.Effect p sys.store.committed after.store.committed := by
  intro d sys
  refine ⟨by decide +kernel, ?_⟩
  have waiting : sys.tasks .dispatch = some ⟨none, .ready (d.pass.andThen .done)⟩ :=
    congrArg (fun program : Program (Except Error Report) => some (Process.start none program))
      (Dialogue.andThen_done d.pass).symm
  obtain ⟨count, p, outcome, there, -, -, -, result, effect, -⟩ :=
    pass_effect d .dispatch 1 (fun name : Mailing => name.party.program) recording .done
      (fun _ => (default, .ok ())) waiting (by decide +kernel) (by decide +kernel)
  have sound : sys.store.faults.commit = false := by decide +kernel
  rw [sound] at result
  subst result
  exact ⟨count, p, there, effect _ rfl⟩

end Store.System

end Passbook
