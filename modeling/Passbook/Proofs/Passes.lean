import Passbook.Outbox.Dispatcher
import Passbook.Proofs.Requests

/-!
# Passes

What a dispatch pass asks for, on any store or server and with any replies: it claims messages once
and then marks them one after the other, each of them once (`Orderly`). A handler is only called
with a message that was claimed (`pass_delivers`), and a pass that succeeds reports what it has
committed (`pass_committed`).
-/

namespace Passbook

namespace Outbox

/-- What became of a delivery. -/
inductive Verdict
  | delivered
  | retried
  | deadLettered
  deriving DecidableEq

/-- The report of a pass with these verdicts. -/
def Report.of (verdicts : List Verdict) : Report where
  delivered := verdicts.count .delivered
  retried := verdicts.count .retried
  deadLettered := verdicts.count .deadLettered

theorem Report.of_append (first rest : List Verdict) :
    Report.of (first ++ rest) = .of first + .of rest := by
  simp only [Report.of, List.count_append]
  rfl

theorem Report.of_processed (verdicts : List Verdict) :
    (Report.of verdicts).processed = verdicts.length := by
  induction verdicts with
  | nil => rfl
  | cons v rest ih => cases v <;> simp_all [Report.of, Report.processed] <;> omega

end Outbox

open Outbox

/-- The verdict that a query records, and on which message. -/
def Query.verdict? : Query → Option (OutboxId × Verdict)
  | .markDelivered id _ => some (id, .delivered)
  | .markFailed id _ (some _) => some (id, .retried)
  | .markFailed id _ none => some (id, .deadLettered)
  | _ => none

/-- The query records what became of a message, as the policy has it. -/
inductive Outbox.RetryPolicy.Marks (policy : RetryPolicy) (message : Message) :
    Query → Verdict → Prop
  | delivered : Marks policy message (.markDelivered message.id instant) .delivered
  | retried : policy.shouldRetry (message.attempts + 1) →
      Marks policy message (.markFailed message.id reason (some instant)) .retried
  | deadLettered : Marks policy message (.markFailed message.id reason none) .deadLettered

theorem Outbox.RetryPolicy.Marks.verdict {policy : RetryPolicy} {message : Message} {q : Query}
    (h : policy.Marks message q v) : q.verdict? = some (message.id, v) := by
  cases h <;> rfl

theorem Outbox.RetryPolicy.onFailure_retryAt {policy : RetryPolicy}
    (h : policy.onFailure attempts now = .retryAt instant) : policy.shouldRetry attempts := by
  unfold onFailure at h
  split at h
  · assumption
  · cases h

namespace Store

/-- The messages of a pass are marked in the order in which they were claimed. -/
def Marked (policy : RetryPolicy) (messages : List Message) (marks : List Success) : Prop :=
  ∀ (i : Nat) (s : Success), marks[i]? = some s →
    ∃ m v, messages[i]? = some m ∧ policy.Marks m s.1 v

/-- All that a pass can have done: it has claimed messages once, and then marked them. -/
inductive Orderly (policy : RetryPolicy) : List Success → Prop
  | nothing : Orderly policy []
  | claimed {limit : UInt32} {now : Instant} {messages : List Message} {marks : List Success} :
      Marked policy messages marks → Orderly policy (⟨.claim limit now, messages⟩ :: marks)

def verdictsOf (done : List Success) : List (OutboxId × Verdict) := done.filterMap (·.1.verdict?)

variable {policy : RetryPolicy} {messages : List Message} {marks done more : List Success}
  {s : Success}

theorem Marked.nil : Marked policy messages [] := by simp [Marked]

theorem Marked.cons {m : Message} (first : policy.Marks m s.1 v)
    (rest : Marked policy messages marks) :
    Marked policy (m :: messages) (s :: marks) := by
  intro i s' h
  cases i with
  | zero =>
    obtain rfl := Option.some.inj h
    exact ⟨m, v, rfl, first⟩
  | succ i => exact rest i s' h

theorem Marked.before (h : Marked policy messages (marks ++ more)) :
    Marked policy messages marks := by
  intro i s hs
  exact h i s (by rw [List.getElem?_append_left (List.getElem?_eq_some_iff.mp hs).1, hs])

theorem Marked.last (h : Marked policy messages (marks ++ [s])) :
    ∃ m v, messages[marks.length]? = some m ∧ policy.Marks m s.1 v :=
  h _ s (by simp)

theorem Orderly.before (h : Orderly policy (done ++ more)) : Orderly policy done := by
  cases done with
  | nil => exact .nothing
  | cons s done =>
    cases h with
    | claimed marked => exact .claimed marked.before

/-- What comes next after all that a pass has done. -/
theorem Orderly.snoc (h : Orderly policy (done ++ [s])) :
    (done = [] ∧ ∃ limit now messages, s = ⟨.claim limit now, messages⟩) ∨
      ∃ limit now messages marks m v, done = ⟨.claim limit now, messages⟩ :: marks ∧
        messages[marks.length]? = some m ∧ policy.Marks m s.1 v := by
  cases done with
  | nil =>
    cases h with
    | claimed => exact .inl ⟨rfl, _, _, _, rfl⟩
  | cons first done =>
    cases h with
    | claimed marked =>
      obtain ⟨m, v, hm, marks⟩ := marked.last
      exact .inr ⟨_, _, _, _, m, v, rfl, hm, marks⟩

-- ---------------------------------------------------------------------------
-- One message
-- ---------------------------------------------------------------------------

open Work Dialogue Trace

theorem successes_append (first rest : List Request.Step) :
    successes (first ++ rest) = successes first ++ successes rest := List.filterMap_append

variable {d : Dispatch} {m : Message} {inner : List Request.Step} {outcome : Except Error Report}

theorem deliver_runs {reply : Except Error (Except String Unit)}
    (h : (d.deliver m).run.Runs inner reply) :
    successes inner = [] ∧ ∃ answer, reply = .ok answer := by
  unfold Dispatch.deliver at h
  split at h
  · obtain ⟨answer, rest, rfl, hrest⟩ := ask_runs.mp h
    obtain ⟨rfl, ho⟩ := done_iff.mp hrest
    cases ho
    exact ⟨rfl, answer, rfl⟩
  · obtain ⟨rfl, ho⟩ := done_iff.mp h
    cases ho
    exact ⟨rfl, _, rfl⟩

/-- A mark is recorded and logged, and counts for the report, unless the query fails. -/
theorem mark_runs {q : Query} {event : Logging.Event} {report : Report} (marks : policy.Marks m q v)
    (one : report = .of [v])
    (h : (query q >>= fun _ => record event >>= fun _ => (pure report : Work Report)).run.Runs inner
      outcome) :
    (successes inner = [] ∧ ∃ e, outcome = .error e) ∨
      ∃ q row v, successes inner = [⟨q, row⟩] ∧ policy.Marks m q v ∧ outcome = .ok (.of [v]) := by
  obtain ⟨reply, rest, rfl, hrest⟩ := ask_runs.mp h
  cases reply with
  | error e =>
    obtain ⟨rfl, ho⟩ := done_iff.mp hrest
    cases ho
    exact .inl ⟨rfl, e, rfl⟩
  | ok row =>
    obtain ⟨-, last, rfl, hlast⟩ := request_runs.mp hrest
    obtain ⟨rfl, ho⟩ := done_iff.mp hlast
    cases ho
    exact .inr ⟨q, row, v, rfl, marks, by rw [one]⟩

/-- A message is marked once, unless that fails. -/
theorem process_runs (h : (d.process m).run.Runs inner outcome) :
    (successes inner = [] ∧ ∃ e, outcome = .error e) ∨
      ∃ q row v, successes inner = [⟨q, row⟩] ∧ d.retryPolicy.Marks m q v ∧
        outcome = .ok (.of [v]) := by
  rcases bind_runs.mp h with ⟨e, hdeliver, rfl⟩ | ⟨answer, first, rest, rfl, hdeliver, hrest⟩
  · obtain ⟨-, _, ho⟩ := deliver_runs hdeliver
    cases ho
  obtain ⟨quiet, -⟩ := deliver_runs hdeliver
  rw [successes_append, quiet, List.nil_append]
  cases answer with
  | ok _ =>
    obtain ⟨instant, marking, rfl, hmark⟩ := request_runs.mp hrest
    have delivered : d.retryPolicy.Marks m (.markDelivered m.id instant) .delivered := .delivered
    have marked := mark_runs delivered rfl hmark
    exact marked
  | error reason =>
    obtain ⟨now, marking, rfl, hmark⟩ := request_runs.mp hrest
    revert hmark
    cases hpolicy : d.retryPolicy.onFailure (m.attempts + 1) now with
    | retryAt instant => exact mark_runs (.retried (RetryPolicy.onFailure_retryAt hpolicy)) rfl
    | deadLetter => exact mark_runs .deadLettered rfl

theorem processAll_runs {messages : List Message}
    (h : (d.processAll messages).run.Runs inner outcome) :
    Marked d.retryPolicy messages (successes inner) ∧ ∀ report, outcome = .ok report →
      report = .of ((verdictsOf (successes inner)).map Prod.snd) := by
  induction messages generalizing inner outcome with
  | nil =>
    obtain ⟨rfl, ho⟩ := done_iff.mp h
    cases ho
    refine ⟨.nil, fun report hr => ?_⟩
    cases hr
    rfl
  | cons m rest ih =>
    rcases bind_runs.mp h with ⟨e, hfirst, rfl⟩ | ⟨one, first, others, rfl, hfirst, hothers⟩
    · rcases process_runs hfirst with ⟨quiet, -⟩ | ⟨_, _, _, -, -, ho⟩
      · rw [quiet]
        exact ⟨.nil, nofun⟩
      · cases ho
    rcases process_runs hfirst with ⟨-, _, ho⟩ | ⟨q, row, v, success, marks, ho⟩
    · cases ho
    cases ho
    rw [successes_append, success, List.singleton_append]
    rcases bind_runs.mp hothers with ⟨e, hrest, rfl⟩ | ⟨two, _, _, rfl, hrest, hsum⟩
    · exact ⟨.cons marks (ih hrest).1, nofun⟩
    · obtain ⟨rfl, ho⟩ := done_iff.mp hsum
      cases ho
      rw [List.append_nil]
      obtain ⟨marked, report⟩ := ih hrest
      refine ⟨.cons marks marked, fun sum hsum => ?_⟩
      cases hsum
      rw [verdictsOf, List.filterMap_cons, marks.verdict]
      rw [report two rfl, ← Report.of_append]
      rfl

-- ---------------------------------------------------------------------------
-- Whole passes
-- ---------------------------------------------------------------------------

/-- A pass reads the clock and claims messages, and then it processes them. -/
theorem batch_runs (h : d.batch.run.Runs inner outcome) :
    ∃ now claim rest, inner = ⟨.clock, now⟩ :: ⟨.query (.claim d.batchSize now), claim⟩ :: rest ∧
      match claim with
      | .ok messages => (d.processAll messages).run.Runs rest outcome
      | .error e => rest = [] ∧ outcome = .error e := by
  obtain ⟨now, _, rfl, hclaim⟩ := request_runs.mp h
  obtain ⟨claim, rest, rfl, hrest⟩ := ask_runs.mp hclaim
  refine ⟨now, claim, rest, rfl, ?_⟩
  cases claim with
  | ok messages => exact hrest
  | error e =>
    obtain ⟨rfl, ho⟩ := done_iff.mp hrest
    cases ho
    exact ⟨rfl, rfl⟩

theorem batch_orderly (h : d.batch.run.Runs inner outcome) :
    Orderly d.retryPolicy (successes inner) ∧ ∀ report, outcome = .ok report →
      report = .of ((verdictsOf (successes inner)).map Prod.snd) := by
  obtain ⟨now, claim, rest, rfl, hrest⟩ := batch_runs h
  cases claim with
  | ok messages =>
    obtain ⟨marked, report⟩ := processAll_runs hrest
    exact ⟨.claimed marked, report⟩
  | error e =>
    obtain ⟨rfl, rfl⟩ := hrest
    exact ⟨.nothing, nofun⟩

/-- What a pass has to be free to ask for while it processes a message. -/
structure Tending (d : Dispatch) (wanted : Request → Prop) (m : Message) : Prop where
  deliver : wanted (.deliver m)
  clock : wanted .clock
  record : ∀ event, wanted (.record event)
  mark : ∀ q v, d.retryPolicy.Marks m q v → wanted (.query q)

variable {wanted : Request → Prop}

theorem process_asks (free : Tending d wanted m) :
    (d.process m).run.Asks (fun _ => True) wanted := by
  have mark : ∀ (q : Query) (v : Verdict) (event : Logging.Event) (report : Report),
      d.retryPolicy.Marks m q v →
      (query q >>= fun _ => record event >>= fun _ => (pure report : Work Report)).run.Asks
        (fun _ => True) wanted := fun q v event report marks =>
    query_asks (free.mark q v marks) fun _ _ => request_asks (free.record event) fun _ => trivial
  refine bind_asks ?_ fun answer => ?_
  · unfold Dispatch.deliver
    split
    · exact ⟨free.deliver, fun _ _ => trivial⟩
    · trivial
  · cases answer with
    | ok _ => exact request_asks free.clock fun now => mark _ _ _ _ .delivered
    | error reason =>
      refine request_asks free.clock fun now => ?_
      cases hpolicy : d.retryPolicy.onFailure (m.attempts + 1) now with
      | retryAt instant =>
        exact mark _ _ _ _ (.retried (RetryPolicy.onFailure_retryAt hpolicy))
      | deadLetter =>
        exact mark _ _ _ _ .deadLettered

theorem processAll_asks {messages : List Message} (free : ∀ m ∈ messages, Tending d wanted m) :
    (d.processAll messages).run.Asks (fun _ => True) wanted := by
  induction messages with
  | nil => trivial
  | cons m rest ih =>
    refine bind_asks (process_asks (free m List.mem_cons_self)) fun report => ?_
    exact bind_asks (ih fun m hm => free m (List.mem_cons_of_mem _ hm)) fun _ => trivial

theorem batch_asks (clock : wanted .clock)
    (claim : ∀ limit now, wanted (.query (.claim limit now))) (free : ∀ m, Tending d wanted m) :
    d.batch.run.Asks (fun _ => True) wanted :=
  request_asks clock fun _ => query_asks (claim ..) fun _ _ => processAll_asks fun m _ => free m

/-- When a pass calls a handler, it has claimed the message. -/
theorem batch_delivers {before later : List Request.Step} {reply : Except String Unit}
    (h : d.batch.run.Runs (before ++ ⟨.deliver m, reply⟩ :: later) outcome) :
    ∃ limit now messages marks, successes before = ⟨.claim limit now, messages⟩ :: marks ∧
      m ∈ messages := by
  obtain ⟨now, claim, rest, steps, hrest⟩ := batch_runs h
  match before, steps with
  | [], steps => cases steps
  | [_], steps => cases steps
  | _ :: _ :: before, steps =>
    simp only [List.cons_append, List.cons.injEq] at steps
    obtain ⟨rfl, rfl, rfl⟩ := steps
    cases claim with
    | error e => simp at hrest
    | ok messages =>
      have free : ∀ m ∈ messages, Tending d (fun r => ∀ m', r = .deliver m' → m' ∈ messages) m :=
        fun m hm => ⟨by rintro _ ⟨⟩; exact hm, by simp, by simp, by simp⟩
      have asked := (processAll_asks free).trace hrest (fun _ _ => trivial)
      exact ⟨_, now, messages, _, rfl, asked ⟨.deliver m, reply⟩ (by simp) m rfl⟩

/-- Whatever a pass has done in its transaction so far is a claim and then marks. -/
theorem pass_orderly {steps : List Action.Step} {rest : Program (Except Error Report)}
    (h : d.pass.Trace steps rest) : Orderly d.retryPolicy (tally steps).current := by
  cases runInTransaction_stands h with
  | @inside before after unit runs current =>
    have orderly := (batch_orderly runs).1
    rw [successes_append] at orderly
    exact current ▸ orderly.before
  | outside current =>
    rw [current]
    exact .nothing

theorem pass_delivers {steps : List Action.Step}
    {next : Except String Unit → Program (Except Error Report)}
    (h : d.pass.Trace steps (.ask (.inside (.deliver m)) next)) :
    ∃ limit now messages marks, (tally steps).current = ⟨.claim limit now, messages⟩ :: marks ∧
      m ∈ messages := by
  cases runInTransaction_stands h with
  | inside runs current asks =>
    obtain ⟨reply, later, rfl⟩ := asks _ _ rfl
    rw [current]
    exact batch_delivers runs
  | outside _ asks =>
    obtain ⟨event, no⟩ := asks _ _ rfl
    cases no

/-- A pass commits nothing, or once what it has done, and then its report is what it returns. -/
theorem pass_committed {steps : List Action.Step} {rest : Program (Except Error Report)}
    (h : d.pass.Trace steps rest) :
    ((tally steps).committed = [] ∧ ∀ report, rest ≠ .done (.ok report)) ∨
      ∃ done, Orderly d.retryPolicy done ∧ (tally steps).committed = [done] ∧
        Settled (Report.of ((verdictsOf done).map Prod.snd)) rest := by
  rcases runInTransaction_committed h with nothing | ⟨report, inner, runs, one, settled⟩
  · exact .inl nothing
  · obtain ⟨orderly, report⟩ := batch_orderly runs
    exact .inr ⟨_, orderly, one, report _ rfl ▸ settled⟩

end Store

end Passbook
