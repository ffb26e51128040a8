import Passbook.Proofs.Claims

/-!
# The life of a message

Passes of any dispatchers and programs that mark no messages work on one outbox. What a commit does
to one message is nothing, or it records the message, or one pass handles it as it claimed it
(`Fares`). The row of a message therefore tells how it has fared in all commits so far (`Tells`):
it was retried some times, and then it was delivered or given up, or it is still pending.
-/

namespace Passbook

open Outbox

namespace Store

def verdictsOn (id : OutboxId) (deeds : List Deed) : List Verdict :=
  (verdictsOf (deeds.map Deed.success)).filterMap fun v => if v.1 = id then some v.2 else none

theorem verdictsOn_append (id : OutboxId) (first rest : List Deed) :
    verdictsOn id (first ++ rest) = verdictsOn id first ++ verdictsOn id rest := by
  simp [verdictsOn, verdictsOf]

theorem verdictsOn_eq_nil {id : OutboxId} {deeds : List Deed}
    (h : ∀ d ∈ deeds, ∀ v, d.query.verdict? ≠ some (id, v)) : verdictsOn id deeds = [] := by
  simp only [verdictsOn, verdictsOf, List.filterMap_eq_nil_iff, List.mem_filterMap]
  rintro ⟨other, v⟩ ⟨s, hs, verdict⟩
  obtain ⟨d, hd, rfl⟩ := List.mem_map.mp hs
  refine if_neg ?_
  rintro rfl
  exact h d hd v verdict

/-- A message was handled in the transaction. -/
def Commit.processes {Name : Type} (c : Commit Name) (id : OutboxId) : Bool :=
  !(verdictsOn id c.deeds).isEmpty

-- ---------------------------------------------------------------------------
-- One commit and one message
-- ---------------------------------------------------------------------------

/-- What a commit does to one message: nothing, or it records the message, or the message was due
and was handled under one of the policies. -/
inductive Fares (policies : RetryPolicy → Prop) (before after : Option Message) :
    List Verdict → Prop
  | untouched : after = before → Fares policies before after []
  | recorded {new : NewMessage} {id : OutboxId} {now : Instant} : before = none →
      after = some (new.record id now) → Fares policies before after []
  | handled {policy : RetryPolicy} {m row : Message} {v : Verdict} {now : Instant} :
      before = some m → m.isDue now → policies policy → policy.Leaves m v row →
      after = some row → Fares policies before after [v]

variable {policy : RetryPolicy} {policies : RetryPolicy → Prop} {held : RowKey → Prop}
  {committed : Tables} {journal : List Deed}

theorem get?_ofRows_of_mem {kind : RowKind} {id : ν → Id kind} {rows : List ν} {row : ν}
    (distinct : (rows.map id).Nodup) (mem : row ∈ rows) :
    (Table.ofRows id rows).get? (id row) = some row := by
  induction rows using List.reverseRecOn with
  | nil => exact nomatch mem
  | append_singleton rows last ih =>
    rw [List.map_append, List.nodup_append] at distinct
    rw [Table.ofRows_snoc, Table.get?_insert]
    rcases List.mem_append.mp mem with mem | mem
    · have apart := distinct.2.2 _ (List.mem_map_of_mem mem) _ List.mem_cons_self
      rw [if_neg apart]
      exact ih distinct.1 mem
    · obtain rfl := List.mem_singleton.mp mem
      exact if_pos rfl

/-- Where every key is there once, so is its value. -/
theorem filterMap_key [DecidableEq κ] {rows : List (κ × ν)} {key : κ} {value : ν}
    (distinct : (rows.map Prod.fst).Nodup) (mem : (key, value) ∈ rows) :
    (rows.filterMap fun row => if row.1 = key then some row.2 else none) = [value] := by
  induction rows with
  | nil => exact nomatch mem
  | cons row rest ih =>
    obtain ⟨new, distinct⟩ := List.nodup_cons.mp distinct
    rcases List.mem_cons.mp mem with rfl | mem
    · have none : (rest.filterMap fun row => if row.1 = key then some row.2 else none) = [] := by
        simp only [List.filterMap_eq_nil_iff]
        rintro other hother
        refine if_neg ?_
        rintro rfl
        exact new (List.mem_map.mpr ⟨other, hother, rfl⟩)
      simp [none]
    · have apart : row.1 ≠ key := by
        rintro rfl
        exact new (List.mem_map.mpr ⟨_, mem, rfl⟩)
      simp [apart, ih distinct mem]

/-- The marks are on the first messages, one on each. -/
theorem Handled.ids {messages : List Message} {marks : List Deed}
    (h : Handled policy messages marks) :
    (postedBy marks).map Message.id = (messages.map Message.id).take marks.length ∧
      (verdictsOf (marks.map Deed.success)).map Prod.fst =
        (messages.map Message.id).take marks.length := by
  induction marks using List.reverseRecOn with
  | nil => simp [postedBy, verdictsOf]
  | append_singleton marks d ih =>
    obtain ⟨m, v, row, here, handles⟩ := h marks.length d (by simp)
    obtain ⟨posted, verdicts⟩ := ih fun i d hd => h i d <| by
      rwa [List.getElem?_append_left (List.getElem?_eq_some_iff.mp hd).1]
    have next : (messages.map Message.id)[marks.length]?.toList = [m.id] := by
      rw [List.getElem?_map, here]
      rfl
    rw [List.length_append, List.length_singleton, List.take_add_one, next, postedBy_append,
      List.map_append, posted, List.map_append, verdictsOf, List.filterMap_append, List.map_append]
    refine ⟨?_, ?_⟩
    · simp [postedBy, handles.posted, handles.leaves.id]
    · rw [← verdicts]
      simp [verdictsOf, Deed.success, handles.verdict]

/-- A message that a pass has claimed was handled by one of its marks, or it was not touched. -/
theorem Handled.fares {messages : List Message} {marks : List Deed} {now : Instant}
    (h : Handled policy messages marks) (distinct : (messages.map Message.id).Nodup)
    (claimed : ∀ m ∈ messages, committed.messages.get? m.id = some m ∧ m.isDue now)
    (used : policies policy) (id : OutboxId) :
    Fares policies (committed.messages.get? id)
      ((committed.messages.overlay (.ofRows Message.id (postedBy marks))).get? id)
      (verdictsOn id marks) := by
  obtain ⟨posted, verdicts⟩ := h.ids
  have once := distinct.sublist (List.take_sublist marks.length _)
  by_cases there : ∃ d ∈ marks, ∃ v, d.query.verdict? = some (id, v)
  · obtain ⟨d, hd, v, verdict⟩ := there
    obtain ⟨i, hi, rfl⟩ := List.getElem_of_mem hd
    obtain ⟨m, v', row, here, handles⟩ := h i _ (List.getElem?_eq_getElem hi)
    obtain ⟨rfl, rfl⟩ := Prod.mk.inj (Option.some.inj (handles.verdict.symm.trans verdict))
    have found : (Table.ofRows Message.id (postedBy marks)).get? m.id = some row := by
      rw [← handles.leaves.id]
      exact get?_ofRows_of_mem (posted ▸ once) (List.mem_filterMap.mpr ⟨_, hd, handles.posted⟩)
    have told : verdictsOn m.id marks = [v'] := by
      have mem := List.mem_map_of_mem (f := Deed.success) hd
      exact filterMap_key (verdicts ▸ once) (List.mem_filterMap.mpr ⟨_, mem, handles.verdict⟩)
    obtain ⟨there, due⟩ := claimed m (List.mem_of_getElem? here)
    rw [told]
    exact .handled there due used handles.leaves (Table.get?_overlay_eq_some.mpr (.inl found))
  · have none : (Table.ofRows Message.id (postedBy marks)).get? id = none := by
      refine Option.eq_none_iff_forall_ne_some.mpr fun row found => ?_
      obtain ⟨mem, rfl⟩ := Table.mem_of_ofRows found
      obtain ⟨d, hd, hrow⟩ := List.mem_filterMap.mp mem
      obtain ⟨i, hi, rfl⟩ := List.getElem_of_mem hd
      obtain ⟨m, v, row', here, handles⟩ := h i _ (List.getElem?_eq_getElem hi)
      obtain rfl := Option.some.inj (hrow.symm.trans handles.posted)
      exact there ⟨_, hd, v, handles.leaves.id.symm ▸ handles.verdict⟩
    rw [verdictsOn_eq_nil fun d hd v verdict => there ⟨d, hd, v, verdict⟩]
    exact .untouched (by rw [Table.get?_overlay, none]; rfl)

theorem Handling.fares (h : Handling policy held committed journal) (used : policies policy)
    (id : OutboxId) : Fares policies (committed.messages.get? id)
      ((committed.messages.overlay (.ofRows Message.id (postedBy journal))).get? id)
      (verdictsOn id journal) := by
  cases h with
  | nothing => exact .untouched rfl
  | claimed distinct claimed marked =>
    exact marked.fares distinct (fun m hm => (claimed m hm).2) used id

/-- A program that marks no messages only records new ones. -/
theorem unmarked_fares (unmarked : ∀ d ∈ journal, d.query.verdict? = none)
    (done : ∀ d ∈ journal, d.Done)
    (fresh : ∀ made ∈ messagesOf journal, committed.messages.get? made.id = none) (id : OutboxId) :
    Fares policies (committed.messages.get? id)
      ((committed.messages.overlay (.ofRows Message.id (postedBy journal))).get? id)
      (verdictsOn id journal) := by
  have quiet : verdictsOn id journal = [] :=
    verdictsOn_eq_nil fun d hd v verdict => by simp [unmarked d hd] at verdict
  rw [quiet, Table.get?_overlay]
  cases found : (Table.ofRows Message.id (postedBy journal)).get? id with
  | none => exact .untouched rfl
  | some row =>
    obtain ⟨mem, rfl⟩ := Table.mem_of_ofRows found
    obtain ⟨⟨q, made, now⟩, hd, posted⟩ := List.mem_filterMap.mp mem
    have marked := unmarked _ hd
    cases q with
    | enqueue new =>
      obtain rfl := Option.some.inj posted
      have none := fresh made (List.mem_filterMap.mpr ⟨_, hd, rfl⟩)
      obtain ⟨v, number, change, did⟩ := done _ hd
      cases did with
      | enqueue hr => exact .recorded none (congrArg some hr)
      | read reads => exact nomatch reads
    | markDelivered => exact nomatch marked
    | markFailed _ _ retryAt => cases retryAt <;> exact nomatch marked
    | _ => exact nomatch posted

-- ---------------------------------------------------------------------------
-- What a row tells
-- ---------------------------------------------------------------------------

/-- The last verdict on a message. -/
def lastVerdict : Status → List Verdict
  | .pending => []
  | .delivered => [.delivered]
  | .deadLettered => [.deadLettered]

/-- The row tells how the message has fared: it was retried some times under the policies, each
time with attempts left, and then it was delivered or given up, or it is still pending. -/
structure Tells (policies : RetryPolicy → Prop) (row : Message) (verdicts : List Verdict) :
    Prop where
  story : ∃ retries, verdicts = List.replicate retries .retried ++ lastVerdict row.status ∧
    (retries = 0 ∨ ∃ policy, policies policy ∧ retries < policy.maxAttempts.toNat)
  attempts : row.attempts.toNat = verdicts.length
  delivered : row.deliveredAt.isSome ↔ row.status = .delivered

namespace Tells

variable {row row' : Message} {verdicts : List Verdict} {v : Verdict}

theorem recorded (new : NewMessage) (id : OutboxId) (now : Instant) :
    Tells policies (new.record id now) [] where
  story := ⟨0, rfl, .inl rfl⟩
  attempts := rfl
  delivered := by simp [NewMessage.record]

/-- A pending message has only been retried. -/
theorem pending (h : Tells policies row verdicts) (hs : row.status = .pending) :
    verdicts = List.replicate row.attempts.toNat .retried ∧ (row.attempts.toNat = 0 ∨
      ∃ policy, policies policy ∧ row.attempts.toNat < policy.maxAttempts.toNat) := by
  obtain ⟨retries, rfl, few⟩ := h.story
  have attempts := h.attempts
  simp only [hs, lastVerdict, List.append_nil, List.length_replicate] at attempts ⊢
  rw [attempts]
  exact ⟨rfl, few⟩

/-- As long as a message is pending, one more attempt can be counted. -/
theorem room (h : Tells policies row verdicts) (hs : row.status = .pending) :
    row.attempts.toNat + 1 < UInt32.size := by
  rcases (h.pending hs).2 with none | ⟨policy, -, few⟩
  · simp [none, UInt32.size]
  · have := policy.maxAttempts.toNat_lt_size
    omega

theorem attempts_succ (h : Tells policies row verdicts) (hs : row.status = .pending) :
    (row.attempts + 1).toNat = row.attempts.toNat + 1 := by
  rw [UInt32.toNat_add]
  exact Nat.mod_eq_of_lt (h.room hs)

theorem leaves (h : Tells policies row verdicts) (hs : row.status = .pending)
    (used : policies policy) (leaves : policy.Leaves row v row') :
    Tells policies row' (verdicts ++ [v]) := by
  obtain ⟨only, few⟩ := h.pending hs
  have more := h.attempts_succ hs
  have none : row.deliveredAt.isSome = false := by
    simpa [hs] using h.delivered
  have attempts := h.attempts
  cases leaves with
  | delivered =>
    exact ⟨⟨_, by rw [only]; rfl, few⟩, by simp [Message.delivered, more, attempts],
      by simp [Message.delivered]⟩
  | retried again =>
    have fewer : row.attempts.toNat + 1 < policy.maxAttempts.toNat := by
      rw [← more]
      exact UInt32.lt_iff_toNat_lt.mp (of_decide_eq_true again)
    refine ⟨⟨_, ?_, .inr ⟨policy, used, fewer⟩⟩, by simp [Message.failed, more, attempts],
      by simp [Message.failed, none]⟩
    rw [List.replicate_succ', ← only]
    simp [lastVerdict, Message.failed]
  | deadLettered =>
    exact ⟨⟨_, by rw [only]; rfl, few⟩, by simp [Message.failed, more, attempts],
      by simp [Message.failed, none]⟩

theorem last (h : Tells policies row verdicts) (mem : v ∈ verdicts) (hv : v ≠ .retried) :
    lastVerdict row.status = [v] := by
  obtain ⟨retries, rfl, -⟩ := h.story
  rcases List.mem_append.mp mem with mem | mem
  · exact absurd (List.eq_of_mem_replicate mem) hv
  · revert mem
    cases row.status <;> simp [lastVerdict, eq_comm]

/-- All but retries is the last verdict. -/
theorem final (h : Tells policies row verdicts) (p : Verdict → Bool)
    (retried : p .retried = false) : verdicts.countP p = (lastVerdict row.status).countP p := by
  obtain ⟨retries, rfl, -⟩ := h.story
  rw [List.countP_append, List.countP_replicate, retried]
  simp

theorem bounded (h : Tells policies row verdicts) (most : Nat) (one : 1 ≤ most)
    (bound : ∀ policy, policies policy → policy.maxAttempts.toNat ≤ most) :
    row.attempts.toNat ≤ most := by
  obtain ⟨retries, rfl, few⟩ := h.story
  have last : (lastVerdict row.status).length ≤ 1 := by cases row.status <;> simp [lastVerdict]
  have attempts := h.attempts
  rw [List.length_append, List.length_replicate] at attempts
  rcases few with rfl | ⟨policy, used, few⟩
  · omega
  · have := bound policy used
    omega

end Tells

theorem pending_of_isDue {m : Message} (h : m.isDue now) : m.status = .pending := by
  simp only [Message.isDue, Bool.and_eq_true, decide_eq_true_eq] at h
  exact h.1

/-- A message that is there tells how it has fared; nothing is known of one that is not. -/
def Telling (policies : RetryPolicy → Prop) (verdicts : List Verdict) : Option Message → Prop
  | some row => Tells policies row verdicts
  | none => verdicts = []

namespace Fares

variable {before after : Option Message} {verdicts more : List Verdict}

theorem telling (h : Fares policies before after more) (told : Telling policies verdicts before) :
    Telling policies (verdicts ++ more) after := by
  cases h with
  | untouched same =>
    rw [same, List.append_nil]
    exact told
  | recorded none made =>
    subst none made
    obtain rfl : verdicts = [] := told
    exact .recorded ..
  | handled there due used leaves left =>
    subst there left
    exact Tells.leaves told (pending_of_isDue due) used leaves

theorem length_le (h : Fares policies before after more) : more.length ≤ 1 := by
  cases h <;> simp

/-- A message that was delivered or given up is not touched. -/
theorem terminal {row : Message} (h : Fares policies before after more) (there : before = some row)
    (terminal : row.status.isTerminal) : after = some row := by
  cases h with
  | untouched same => exact same.trans there
  | recorded none => exact nomatch none.symm.trans there
  | handled found due =>
    obtain rfl := Option.some.inj (found.symm.trans there)
    simp [Status.isTerminal, pending_of_isDue due] at terminal

end Fares

end Store

end Passbook
