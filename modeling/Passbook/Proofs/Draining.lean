import Mathlib.Algebra.Order.BigOperators.Group.List
import Passbook.Proofs.PassEffect
import Passbook.Proofs.Sharing

/-!
# Draining an outbox

A drain makes one pass after the other until one has found nothing to do (`Dispatch.Drained`). What
a message can still see of attempts falls with every delivery (`RetryPolicy.Leaves.chances`), so
that the passes that take on anything are no more than the chances of all pending messages together,
whatever the handlers answer and however soon a retry is due. A drain that is allowed more passes
than that ends with a pass that has found nothing (`drain_empties`).
-/

namespace Passbook

namespace Outbox

def Verdict.status : Verdict → Status
  | .delivered => .delivered
  | .retried => .pending
  | .deadLettered => .deadLettered

/-- The deliveries that a message can see at most. One is made even if the policy leaves none. -/
def RetryPolicy.chances (policy : RetryPolicy) (m : Message) : Nat :=
  if m.status = .pending then max 1 (policy.maxAttempts.toNat - m.attempts.toNat) else 0

/-- The chances of all messages together. -/
def Dispatch.chances (d : Dispatch) (rows : Store.Tables) : Nat :=
  (rows.messages.values.map d.retryPolicy.chances).sum

/-- One more attempt at the message can be counted, or there will be none. -/
def Message.Countable (m : Message) : Prop :=
  m.status = .pending → m.attempts.toNat + 1 < UInt32.size

-- ---------------------------------------------------------------------------
-- One message
-- ---------------------------------------------------------------------------

namespace RetryPolicy.Leaves

variable {policy : RetryPolicy} {m row : Message} {v : Verdict}

theorem status (h : policy.Leaves m v row) : row.status = v.status := by
  cases h <;> rfl

theorem attempts (h : policy.Leaves m v row) (countable : m.attempts.toNat + 1 < UInt32.size) :
    row.attempts.toNat = m.attempts.toNat + 1 := by
  have more : (m.attempts + 1).toNat = m.attempts.toNat + 1 := by
    rw [UInt32.toNat_add]
    exact Nat.mod_eq_of_lt countable
  cases h <;> exact more

/-- A message that waits for a retry has been tried less often than the policy has it. -/
theorem fewer (h : policy.Leaves m v row) (pending : row.status = .pending) :
    row.attempts.toNat < policy.maxAttempts.toNat := by
  cases h with
  | retried again => exact UInt32.lt_iff_toNat_lt.mp (of_decide_eq_true again)
  | _ => cases pending

theorem countable (h : policy.Leaves m v row) : row.Countable := fun pending => by
  have fewer := h.fewer pending
  have := policy.maxAttempts.toNat_lt_size
  omega

/-- A delivery takes a chance of the message. -/
theorem chances (h : policy.Leaves m v row) (pending : m.status = .pending)
    (countable : m.attempts.toNat + 1 < UInt32.size) :
    policy.chances row + 1 ≤ policy.chances m := by
  have attempts := h.attempts countable
  rw [RetryPolicy.chances, RetryPolicy.chances, if_pos pending]
  split
  · next pending' =>
    have fewer := h.fewer pending'
    omega
  · omega

end RetryPolicy.Leaves

/-- What a delivery leaves behind is what the policy has it leave behind. -/
theorem Dispatch.row_leaves (d : Dispatch) (x : Delivery) :
    d.retryPolicy.Leaves x.message (d.verdict x) (d.row x) := by
  obtain ⟨m, outcome, now⟩ := x
  simp only [Dispatch.verdict, Dispatch.row]
  cases outcome with
  | ok _ => exact .delivered
  | error reason =>
    dsimp only
    cases policy : d.retryPolicy.onFailure (m.attempts + 1) now with
    | retryAt instant => exact .retried (RetryPolicy.onFailure_retryAt policy)
    | deadLetter => exact .deadLettered

end Outbox

open Outbox Store

-- ---------------------------------------------------------------------------
-- One pass
-- ---------------------------------------------------------------------------

theorem sum_succ (f : α → Nat) (l : List α) : (l.map (f · + 1)).sum = (l.map f).sum + l.length := by
  simp [List.sum_map_add]

variable {d : Dispatch} {rows : Tables} {taken : RowKey → Bool} {p : Pass} {x : Delivery}

theorem Outbox.Dispatch.keyed_after (d : Dispatch) (p : Pass) (keyed : rows.Keyed) :
    (d.after rows p).Keyed :=
  { keyed with
    messages := fun found => by
      rcases Table.get?_overlay_eq_some.mp found with new | ⟨-, old⟩
      · exact (Table.mem_of_ofRows new).2
      · exact keyed.messages old }

/-- One more attempt can be counted at every message that may see one. -/
structure Outbox.Counted (rows : Tables) : Prop extends rows.Keyed where
  countable : ∀ m ∈ rows.messages.values, m.Countable

namespace Outbox.Dispatch.Takes

theorem found (h : d.Takes rows taken p) (keyed : rows.Keyed) (mem : x ∈ p.done) :
    rows.messages.get? x.message.id = some x.message ∧ x.message.isDue p.now := by
  have chosen : x.message ∈ d.batchOf rows taken p.now := h.batch ▸ List.mem_map_of_mem mem
  obtain ⟨found, due, -⟩ := mem_batchOf keyed chosen
  exact ⟨found, due⟩

theorem pending (h : d.Takes rows taken p) (keyed : rows.Keyed) (mem : x ∈ p.done) :
    x.message.status = .pending :=
  pending_of_isDue (h.found keyed mem).2

/-- The messages that a pass does not handle are the same before and after. -/
theorem messages (h : d.Takes rows taken p) (keyed : rows.Keyed) : ∃ others,
    rows.messages.values.Perm (p.done.map (·.message) ++ others) ∧
      (d.after rows p).messages.values.Perm (p.done.map d.row ++ others) := by
  have ids : (p.done.map (·.message)).map Message.id = p.done.map (·.message.id) := List.map_map
  -- To lay the messages that it takes on over the table changes nothing, as they are there.
  have same : rows.messages.overlay (.ofRows Message.id (p.done.map (·.message))) =
      rows.messages :=
    Table.overlay_ofRows_of_mem <| List.forall_mem_map.mpr fun x hx => (h.found keyed hx).1
  have before := Table.values_overlay_ofRows keyed.messages (ids.symm ▸ h.distinct keyed)
  have after := Table.values_overlay_ofRows keyed.messages
    ((d.ids_of_rows p.done).symm ▸ h.distinct keyed)
  rw [same, ids] at before
  rw [d.ids_of_rows] at after
  exact ⟨_, before, after⟩

/-- What a pass adds to a sum over all messages it adds to the messages that it handles. -/
theorem sum (h : d.Takes rows taken p) (keyed : rows.Keyed) (f : Message → Nat) :
    ((d.after rows p).messages.values.map f).sum + (p.done.map (f ·.message)).sum =
      (rows.messages.values.map f).sum + (p.done.map (f <| d.row ·)).sum := by
  obtain ⟨others, before, after⟩ := h.messages keyed
  rw [(before.map f).sum_nat, (after.map f).sum_nat]
  simp only [List.map_append, List.map_map, List.sum_append, Function.comp_def]
  omega

theorem room (h : d.Takes rows taken p) (c : Counted rows) (mem : x ∈ p.done) :
    x.message.attempts.toNat + 1 < UInt32.size :=
  c.countable _ (Table.mem_values.mpr ⟨_, (h.found c.toKeyed mem).1⟩) (h.pending c.toKeyed mem)

theorem counted (h : d.Takes rows taken p) (c : Counted rows) : Counted (d.after rows p) where
  toKeyed := d.keyed_after p c.toKeyed
  countable m hm := by
    obtain ⟨others, before, after⟩ := h.messages c.toKeyed
    rcases List.mem_append.mp (after.mem_iff.mp hm) with done | other
    · obtain ⟨x, -, rfl⟩ := List.mem_map.mp done
      exact (d.row_leaves x).countable
    · exact c.countable m (before.mem_iff.mpr (List.mem_append_right _ other))

/-- Every delivery takes a chance. -/
theorem chances (h : d.Takes rows taken p) (c : Counted rows) :
    d.chances (d.after rows p) + p.done.length ≤ d.chances rows := by
  have less : (p.done.map (d.retryPolicy.chances <| d.row ·)).sum + p.done.length ≤
      (p.done.map (d.retryPolicy.chances ·.message)).sum := by
    rw [← sum_succ]
    exact List.sum_le_sum fun x hx =>
      (d.row_leaves x).chances (h.pending c.toKeyed hx) (h.room c hx)
  have sums := h.sum c.toKeyed d.retryPolicy.chances
  rw [Dispatch.chances, Dispatch.chances]
  omega

end Outbox.Dispatch.Takes

-- ---------------------------------------------------------------------------
-- Passes in a row
-- ---------------------------------------------------------------------------

def Outbox.deliveries (passes : List Pass) : List Delivery := passes.flatMap Pass.done

theorem Outbox.deliveries_cons (p : Pass) (passes : List Pass) :
    deliveries (p :: passes) = p.done ++ deliveries passes := List.flatMap_cons

theorem Outbox.Dispatch.after_nothing (d : Dispatch) (rows : Tables) {p : Pass}
    (nothing : p.done = []) : d.after rows p = rows := by
  rw [Dispatch.after, nothing]
  rfl

/-- The passes that a drain makes when nobody else works on the store, at most so many: each takes
on messages that the passes before it have left, and only the last one may find nothing to do. -/
inductive Outbox.Dispatch.Drained (d : Dispatch) : Nat → Tables → List Pass → Tables → Prop
  | out {rows : Tables} : Drained d 0 rows [] rows
  | dry {limit : Nat} {rows : Tables} {p : Pass} : d.Takes rows (fun _ => false) p → p.done = [] →
      Drained d (limit + 1) rows [p] rows
  | more {limit : Nat} {rows rows' : Tables} {p : Pass} {passes : List Pass} :
      d.Takes rows (fun _ => false) p → p.done ≠ [] →
      Drained d limit (d.after rows p) passes rows' → Drained d (limit + 1) rows (p :: passes) rows'

def Outbox.attemptsIn (rows : Tables) : Nat := (rows.messages.values.map (·.attempts.toNat)).sum

/-- How many messages have come to have that status. -/
def Outbox.newly (status : Status) (before after : Tables) : Nat :=
  after.messages.values.countP fun m =>
    m.status = status && !(before.messages.get? m.id).any (·.status = status)

theorem Store.Tables.Keyed.mem_messages {m : Message} (keyed : rows.Keyed) :
    m ∈ rows.messages.values ↔ rows.messages.get? m.id = some m :=
  Table.mem_values.trans
    ⟨fun ⟨_, found⟩ => (keyed.messages found).symm ▸ found, fun found => ⟨_, found⟩⟩

theorem Store.Tables.Keyed.nodup_messages (keyed : rows.Keyed) : rows.messages.values.Nodup :=
  List.Nodup.of_map _ (Table.nodup_values keyed.messages)

/-- If the messages of a status keep it, the others of that status have come to have it. -/
theorem newly_add {status : Status} {before after : Tables} (keyed : before.Keyed)
    (keyed' : after.Keyed) (stays : ∀ {id m}, before.messages.get? id = some m →
      m.status = status → after.messages.get? id = some m) :
    before.messages.values.countP (·.status = status) + newly status before after =
      after.messages.values.countP (·.status = status) := by
  -- Both sides count the same messages, each once.
  simp only [newly, List.countP_eq_length_filter, ← List.length_append]
  refine List.Perm.length_eq ((List.perm_ext_iff_of_nodup (List.nodup_append.mpr
    ⟨keyed.nodup_messages.filter _, keyed'.nodup_messages.filter _, ?_⟩)
    (keyed'.nodup_messages.filter _)).mpr fun m => ?_)
  · rintro m old _ new rfl
    simp only [List.mem_filter, keyed.mem_messages, decide_eq_true_eq] at old new
    simp [old] at new
  · simp only [List.mem_append, List.mem_filter, keyed.mem_messages, keyed'.mem_messages,
      Bool.and_eq_true, Bool.not_eq_true', decide_eq_true_eq]
    constructor
    · rintro (⟨old, same⟩ | ⟨found, same, -⟩)
      · exact ⟨stays old same, same⟩
      · exact ⟨found, same⟩
    · rintro ⟨found, same⟩
      cases there : before.messages.get? m.id with
      | none => exact .inr ⟨found, same, rfl⟩
      | some old =>
        by_cases was : old.status = status
        · obtain rfl := Option.some.inj ((stays there was).symm.trans found)
          exact .inl ⟨rfl, same⟩
        · exact .inr ⟨found, same, by simpa using was⟩

namespace Outbox.Dispatch.Drained

variable {limit : Nat} {rows' : Tables} {passes : List Pass}

theorem length_le (h : d.Drained limit rows passes rows') : passes.length ≤ limit := by
  induction h with
  | out => exact Nat.le_refl _
  | dry => exact Nat.le_add_left ..
  | more _ _ _ ih => exact Nat.succ_le_succ ih

/-- Every pass that takes on anything takes a chance. -/
theorem busy (h : d.Drained limit rows passes rows') (c : Counted rows) :
    passes.countP (·.done ≠ []) + d.chances rows' ≤ d.chances rows := by
  induction h with
  | out => exact Nat.le_of_eq (Nat.zero_add _)
  | dry _ nothing => simp [nothing]
  | more takes nonempty _ ih =>
    have rest := ih (takes.counted c)
    have first := takes.chances c
    have one := List.length_pos_iff.mpr nonempty
    rw [List.countP_cons_of_pos (by simpa using nonempty)]
    omega

/-- With more passes than there are chances, the last pass finds nothing to do. -/
theorem exhausted (h : d.Drained limit rows passes rows') (c : Counted rows)
    (enough : d.chances rows < limit) :
    ∃ earlier last, passes = earlier ++ [last] ∧ last.done = [] ∧
      d.Takes rows' (fun _ => false) last := by
  induction h with
  | out => exact absurd enough (Nat.not_lt_zero _)
  | dry takes nothing => exact ⟨[], _, rfl, nothing, takes⟩
  | @more _ _ _ p _ takes nonempty _ ih =>
    have first := takes.chances c
    have one := List.length_pos_iff.mpr nonempty
    obtain ⟨earlier, last, rfl, nothing, takes⟩ := ih (takes.counted c) (by omega)
    exact ⟨p :: earlier, last, rfl, nothing, takes⟩

/-- What the passes add to a sum over all messages they add to the messages that they handle. -/
theorem sum (h : d.Drained limit rows passes rows') (keyed : rows.Keyed) (f : Message → Nat) :
    (rows'.messages.values.map f).sum + ((deliveries passes).map (f ·.message)).sum =
      (rows.messages.values.map f).sum + ((deliveries passes).map (f <| d.row ·)).sum := by
  induction h with
  | out => rfl
  | dry _ nothing => simp [deliveries, nothing]
  | more takes _ _ ih =>
    have first := takes.sum keyed f
    have rest := ih (d.keyed_after _ keyed)
    simp only [deliveries_cons, List.map_append, List.sum_append] at rest ⊢
    omega

/-- The messages that are handled are pending then, and one more attempt can be counted. -/
theorem handled (h : d.Drained limit rows passes rows') (c : Counted rows)
    (mem : x ∈ deliveries passes) :
    x.message.status = .pending ∧ x.message.attempts.toNat + 1 < UInt32.size := by
  induction h with
  | out => exact nomatch mem
  | dry _ nothing => simp [deliveries, nothing] at mem
  | more takes _ _ ih =>
    rcases List.mem_append.mp mem with mem | mem
    · exact ⟨takes.pending c.toKeyed mem, takes.room c mem⟩
    · exact ih (takes.counted c) mem

/-- A message that was delivered or given up stays as it is. -/
theorem settled {id : OutboxId} {m : Message} (h : d.Drained limit rows passes rows')
    (keyed : rows.Keyed) (found : rows.messages.get? id = some m) (terminal : m.status ≠ .pending) :
    rows'.messages.get? id = some m := by
  induction h with
  | out => exact found
  | dry => exact found
  | @more _ _ _ p _ takes _ _ ih =>
    have other : id ∉ p.done.map (·.message.id) := fun mem => by
      obtain ⟨x, hx, rfl⟩ := List.mem_map.mp mem
      obtain rfl := Option.some.inj ((takes.found keyed hx).1.symm.trans found)
      exact terminal (takes.pending keyed hx)
    exact ih (d.keyed_after p keyed) (((takes.effect keyed).untouched id other).trans found)

theorem keyed (h : d.Drained limit rows passes rows') (keyed : rows.Keyed) : rows'.Keyed := by
  induction h with
  | out => exact keyed
  | dry => exact keyed
  | more _ _ _ ih => exact ih (d.keyed_after _ keyed)

theorem attempts (h : d.Drained limit rows passes rows') (c : Counted rows) :
    attemptsIn rows' = attemptsIn rows + (deliveries passes).length := by
  have sums := h.sum c.toKeyed (·.attempts.toNat)
  have more : (deliveries passes).map (fun x => (d.row x).attempts.toNat) =
      (deliveries passes).map (·.message.attempts.toNat + 1) :=
    List.map_congr_left fun x hx => (d.row_leaves x).attempts (h.handled c hx).2
  rw [more, sum_succ] at sums
  simp only [attemptsIn]
  omega

/-- The messages that have come to have a status are those that were given it. -/
theorem newly_eq {status : Status} (h : d.Drained limit rows passes rows') (c : Counted rows)
    (terminal : status ≠ .pending) :
    newly status rows rows' = (deliveries passes).countP fun x => (d.row x).status = status := by
  -- Summed up over the messages, a status counts those that have it.
  have sums := h.sum c.toKeyed fun m => if decide (m.status = status) then 1 else 0
  have unsettled : (deliveries passes).countP (·.message.status = status) = 0 := by
    refine List.countP_eq_zero.mpr fun x hx same => terminal ?_
    exact (of_decide_eq_true same).symm.trans (h.handled c hx).1
  have kept := newly_add c.toKeyed (h.keyed c.toKeyed) fun found same =>
    h.settled c.toKeyed found (same ▸ terminal)
  simp only [← countP_eq_sum, unsettled] at sums
  omega

end Outbox.Dispatch.Drained

-- ---------------------------------------------------------------------------
-- A drain
-- ---------------------------------------------------------------------------

theorem count_verdict (d : Dispatch) (done : List Delivery) (v : Verdict) :
    (done.map d.verdict).count v = done.countP fun x => (d.row x).status = v.status := by
  have same : ∀ x, (d.row x).status = v.status ↔ d.verdict x = v := fun x => by
    rw [(d.row_leaves x).status]
    cases d.verdict x <;> cases v <;> decide
  rw [List.count, List.countP_map]
  exact List.countP_congr fun x _ => by simp [same]

/-- The moves of a task that is about to drain the outbox lead to what follows the drain. -/
theorem attends_drain {limit : Nat} {rows : Tables} {s : Store} {log : List Request.Step}
    {target : List Request.Step → Store → Process β → Prop}
    {next : Except Error Report → Program β} (between : Between rows (fun _ => false) {} s)
    (keyed : rows.Keyed)
    (ends : ∀ {passes rows' s'}, d.Drained limit rows passes rows' →
      Between rows' (fun _ => false) {} s' → Attends target (log ++ passes.flatMap d.heardBy) s'
        ⟨none, .ready (next (.ok (.of ((deliveries passes).map d.verdict))))⟩) :
    Attends target log s ⟨none, .ready ((d.drain limit).andThen next)⟩ := by
  -- What follows one pass is the rest of the drain, on the rows that the pass has left, and then
  -- what adds the two reports.
  induction limit generalizing rows s log next with
  | zero =>
    have ended := ends .out between
    rw [List.flatMap_nil, List.append_nil] at ended
    exact ended
  | succ limit ih =>
    simp only [Dispatch.drain, Dialogue.bind_eq, Dialogue.andThen_assoc]
    refine attends_pass between rfl keyed (fun {p s'} takes _ between => ?_)
      fun _ due => nomatch due
    dsimp only
    rw [Report.of_processed, List.length_map]
    by_cases nothing : p.done = []
    · rw [if_pos (List.length_eq_zero_iff.mpr nothing)]
      have ended := ends (.dry takes nothing) (d.after_nothing rows nothing ▸ between)
      simpa [deliveries] using ended
    · rw [if_neg fun none => nothing (List.length_eq_zero_iff.mp none), Dialogue.andThen_assoc]
      refine ih between (d.keyed_after p keyed) fun drained between => ?_
      have ended := ends (.more takes nothing drained) between
      rw [List.flatMap_cons, ← List.append_assoc] at ended
      rwa [deliveries_cons, List.map_append, Report.of_append] at ended

theorem Outbox.Dispatch.Takes.nothing_due {rows : Tables} {p : Pass}
    (h : d.Takes rows (fun _ => false) p) (sized : 1 ≤ d.batchSize) (nothing : p.done = []) :
    ∀ m ∈ rows.messages.values, m.isDue p.now = false := by
  have size : d.batchSize.toNat ≠ 0 := Nat.ne_of_gt (UInt32.le_iff_toNat_le.mp sized)
  have batch := h.batch
  rw [nothing, List.map_nil, eq_comm, Dispatch.batchOf, List.take_eq_nil_iff] at batch
  intro m hm
  simpa using List.filter_eq_nil_iff.mp (batch.resolve_left size) m hm

/-- What a drain comes to that was allowed so many passes. -/
structure Outbox.Dispatch.Drains (d : Dispatch) (limit : Nat) (before after : Tables)
    (passes : List Pass) (report : Report) : Prop where
  course : d.Drained limit before passes after
  few : passes.length ≤ limit
  busy : passes.countP (·.done ≠ []) ≤ d.chances before
  exhausted : d.chances before < limit → ∃ earlier last, passes = earlier ++ [last] ∧
    last.done = [] ∧ ∀ m ∈ after.messages.values, m.isDue last.now = false
  delivered : report.delivered = newly .delivered before after
  deadLettered : report.deadLettered = newly .deadLettered before after
  retried : report.retried = (deliveries passes).countP fun x => (d.row x).status = .pending
  attempts : attemptsIn after = attemptsIn before + report.processed

theorem Outbox.Dispatch.Drained.drains {limit : Nat} {passes : List Pass} {rows' : Tables}
    (h : d.Drained limit rows passes rows') (c : Counted rows) (sized : 1 ≤ d.batchSize) :
    d.Drains limit rows rows' passes (.of ((deliveries passes).map d.verdict)) where
  course := h
  few := h.length_le
  busy := Nat.le_of_add_right_le (h.busy c)
  exhausted enough := by
    obtain ⟨earlier, last, same, nothing, takes⟩ := h.exhausted c enough
    exact ⟨earlier, last, same, nothing, takes.nothing_due sized nothing⟩
  delivered := (count_verdict d _ .delivered).trans
    (h.newly_eq c (by decide)).symm
  deadLettered := (count_verdict d _ .deadLettered).trans
    (h.newly_eq c (by decide)).symm
  retried := count_verdict d _ .retried
  attempts := by
    rw [Report.of_processed, List.length_map]
    exact h.attempts c

namespace Store.System

variable {Name : Type} [DecidableEq Name] {Result : Name → Type}

/-- A task is about to drain the outbox, no transaction is open, and no failure is due. A connection
is idle: with no transaction open all are, but for those handed to a begin that has yet to return.
Whatever the handlers answer and the clock shows, no more passes take on anything than the pending
messages have chances. If more passes are allowed than that, the last has found nothing to do, and
no message is due as of that pass. The report counts the messages that have come to be delivered or
given up and the retries, and together they are the attempts that were made. -/
theorem drain_empties (d : Dispatch) (limit : Nat) (name : Name) (connections : Nat)
    (programs : (name : Name) → Program (Result name)) (happenings : List (Happening Name))
    (next : Except Error Report → Program (Result name))
    (around : Nat → Instant × Except String Unit) :
    let sys := (start connections programs).run happenings
    sys.tasks name = some ⟨none, .ready ((d.drain limit).andThen next)⟩ →
    (∀ tx, ¬sys.store.isOpen tx) → 0 < sys.store.idle → sys.store.faults = {} →
    1 ≤ d.batchSize →
    (∀ m ∈ sys.store.committed.messages.values, m.Countable) →
    ∃ count passes report,
      let moves := attended name around count sys
      let after := sys.run moves
      after.tasks name = some ⟨none, .ready (next (.ok report))⟩ ∧
      heard name sys moves = passes.flatMap d.heardBy ∧
      d.Drains limit sys.store.committed after.store.committed passes report := by
  intro sys task closed idle faults sized countable
  have keyed : sys.store.committed.Keyed :=
    (guarded_run connections programs happenings).store.committed
  have between : Between sys.store.committed (fun _ => false) {} sys.store :=
    faults ▸ between_run connections programs happenings closed idle
  have course : Attends (fun log s proc => ∃ passes report,
      proc = ⟨none, .ready (next (.ok report))⟩ ∧ log = passes.flatMap d.heardBy ∧
        d.Drains limit sys.store.committed s.committed passes report) [] sys.store
      ⟨none, .ready ((d.drain limit).andThen next)⟩ :=
    attends_drain between keyed fun drained between => .here ⟨_, _, rfl, rfl,
      between.committed ▸ drained.drains ⟨keyed, countable⟩ sized⟩
  obtain ⟨count, _, there, passes, report, rfl, log, drains⟩ := course.run sys task around
  exact ⟨count, passes, report, there, log, drains⟩

/-- Dispatching of one message at a time, which is tried twice. -/
def tenacious : Dispatch := ⟨fun _ => true, .fixed 2 (.ofMillis 0), 1⟩

def Mailing.drained : (name : Mailing) → Program name.party.Result
  | .dispatch => (tenacious.drain 5).andThen .done
  | .first => Mailing.first.party.program
  | .second => Mailing.second.party.program

/-- Two messages are there, and every delivery fails. -/
theorem drain_empties_mailing :
    let sys := (start 1 Mailing.drained).run recording
    tenacious.chances sys.store.committed = 4 ∧ ∃ count report last,
      let after := sys.run (attended .dispatch (fun _ => (default, .error "down")) count sys)
      after.tasks .dispatch = some ⟨none, .ready (.done (.ok report))⟩ ∧
        ∀ m ∈ after.store.committed.messages.values, m.isDue last = false := by
  intro sys
  have chances : tenacious.chances sys.store.committed = 4 := by decide +kernel
  have closed : ∀ tx, ¬sys.store.isOpen tx := not_isOpen (by decide +kernel)
  have untried : ∀ m ∈ sys.store.committed.messages.values, m.attempts = 0 := by decide +kernel
  have countable : ∀ m ∈ sys.store.committed.messages.values, m.Countable := fun m hm _ => by
    rw [untried m hm]
    decide
  obtain ⟨count, passes, report, there, -, drains⟩ :=
    drain_empties tenacious 5 .dispatch 1 Mailing.drained recording .done
      (fun _ => (default, .error "down")) rfl closed (by decide +kernel) (by decide +kernel)
      (by decide) countable
  obtain ⟨-, last, -, -, none_due⟩ := drains.exhausted (by rw [chances]; decide)
  exact ⟨chances, count, report, last.now, there, none_due⟩

end Store.System

end Passbook
