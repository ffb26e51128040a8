import Passbook.Store.Pool

/-!
# Connections that no transaction has

A connection that no transaction has is idle or was given to a ticket (`Pool.free`). No ticket is in
a pool twice, and none waits while a connection is idle (`Pool.Sound`). What a task can do to the
pool, with the ticket that it waits with, is an inductive (`Pool.Shift`), from which both follow for
every step.
-/

namespace Passbook.Store.Pool

variable {p : Pool}

-- ---------------------------------------------------------------------------
-- How many there are
-- ---------------------------------------------------------------------------

/-- The connections that no transaction has. -/
def free (p : Pool) : Nat := p.idle + p.handed.length

theorem take?_eq_some (h : p.take? = some p') : p = { p' with idle := p'.idle + 1 } := by
  obtain ⟨idle, queue, handed, nextTicket⟩ := p
  cases idle with
  | zero => cases h
  | succ idle =>
    cases h
    rfl

theorem take?_eq_none : p.take? = none ↔ p.idle = 0 := by
  unfold take?
  split <;> simp_all

theorem giveBack_free (p : Pool) : p.giveBack.free = p.free + 1 := by
  unfold giveBack
  split
  · exact Nat.add_right_comm p.idle 1 p.handed.length
  · rfl

theorem collect_free (given : ticket ∈ p.handed) : (p.collect ticket).free + 1 = p.free := by
  have some := List.length_pos_of_mem given
  have less := List.length_erase_of_mem given
  simp only [free, collect]
  omega

theorem leave_free (p : Pool) (ticket : Ticket) : (p.leave ticket).free = p.free := by
  unfold leave
  split
  · next given => rw [giveBack_free, collect_free given]
  · rfl

/-- The ways to get a connection. -/
inductive Gives (p : Pool) : Pool → Prop
  | idle : p.take? = some p' → Gives p p'
  | handed : ticket ∈ p.handed → Gives p (p.collect ticket)

/-- The pool without an attempt to begin, if one was given up. -/
inductive Without (p : Pool) : Pool → Prop
  | same : Without p p
  | left (ticket : Ticket) : Without p (p.leave ticket)

theorem Gives.free (h : p.Gives p') : p'.free + 1 = p.free := by
  cases h with
  | idle taken =>
    rw [take?_eq_some taken]
    exact Nat.add_right_comm p'.idle p'.handed.length 1
  | handed given => exact collect_free given

theorem Without.free (h : p.Without p') : p'.free = p.free := by
  cases h with
  | same => rfl
  | left ticket => exact leave_free p ticket

-- ---------------------------------------------------------------------------
-- Tickets
-- ---------------------------------------------------------------------------

/-- The tickets that wait or were given a connection. -/
def tickets (p : Pool) : List Ticket := p.queue ++ p.handed

theorem wait_tickets (p : Pool) : p.wait.tickets.Perm (p.nextTicket :: p.tickets) := by
  rw [tickets, wait, List.append_assoc]
  exact List.perm_middle

theorem giveBack_tickets (p : Pool) : p.giveBack.tickets.Perm p.tickets := by
  unfold giveBack
  split
  · exact .refl _
  · next ticket queue waiting =>
    rw [tickets, tickets, waiting]
    exact List.perm_middle

theorem collect_tickets (distinct : p.tickets.Nodup) (given : ticket ∈ p.handed) :
    (p.collect ticket).tickets = p.tickets.erase ticket := by
  have waits : ticket ∉ p.queue := fun h => (List.nodup_append.mp distinct).2.2 _ h _ given rfl
  rw [tickets, tickets, collect, List.erase_append_right _ waits]

theorem leave_tickets (distinct : p.tickets.Nodup) (ticket : Ticket) :
    (p.leave ticket).tickets.Perm (p.tickets.erase ticket) := by
  unfold leave
  split
  · next given => exact collect_tickets distinct given ▸ giveBack_tickets _
  · next given =>
    by_cases waits : ticket ∈ p.queue
    · rw [tickets, tickets, List.erase_append_left _ waits]
    · rw [tickets, tickets, List.erase_append_right _ waits, List.erase_of_not_mem waits,
        List.erase_of_not_mem given]

/-- No ticket is there twice, and none waits while a connection is idle. -/
structure Sound (p : Pool) : Prop where
  served : p.idle ≠ 0 → p.queue = []
  distinct : p.tickets.Nodup
  issued : ∀ ticket ∈ p.tickets, ticket < p.nextTicket

namespace Sound

theorem start (count : Nat) : Sound { idle := count } where
  served _ := rfl
  distinct := .nil
  issued _ h := nomatch h

theorem wait (s : p.Sound) (none : p.idle = 0) : p.wait.Sound where
  served some := absurd none some
  distinct := by
    refine (wait_tickets p).nodup_iff.mpr (List.nodup_cons.mpr ⟨fun again => ?_, s.distinct⟩)
    exact Nat.lt_irrefl _ (s.issued _ again)
  issued ticket h := by
    rcases List.mem_cons.mp ((wait_tickets p).mem_iff.mp h) with rfl | h
    · exact Nat.lt_succ_self _
    · exact Nat.lt_succ_of_lt (s.issued _ h)

theorem giveBack (s : p.Sound) : p.giveBack.Sound where
  served some := by
    unfold Pool.giveBack at some ⊢
    split
    · assumption
    · next waiting =>
      rw [waiting] at some
      exact absurd (s.served some) (by simp [waiting])
  distinct := (giveBack_tickets p).nodup_iff.mpr s.distinct
  issued ticket h := by
    have before := s.issued _ ((giveBack_tickets p).mem_iff.mp h)
    unfold Pool.giveBack
    split <;> exact before

theorem collect (s : p.Sound) (given : ticket ∈ p.handed) : (p.collect ticket).Sound where
  served := s.served
  distinct := collect_tickets s.distinct given ▸ s.distinct.erase ticket
  issued other h := by
    rw [collect_tickets s.distinct given] at h
    exact s.issued _ (List.mem_of_mem_erase h)

theorem leave (s : p.Sound) (ticket : Ticket) : (p.leave ticket).Sound := by
  by_cases given : ticket ∈ p.handed
  · rw [Pool.leave, if_pos given]
    exact (s.collect given).giveBack
  · have perm := leave_tickets s.distinct ticket
    have left : p.leave ticket = { p with queue := p.queue.erase ticket } := if_neg given
    refine ⟨fun some => ?_, perm.nodup_iff.mpr (s.distinct.erase ticket), fun other h => ?_⟩
    · rw [left] at some ⊢
      simp [s.served some]
    · have before := s.issued _ (List.mem_of_mem_erase (perm.mem_iff.mp h))
      rwa [left]

theorem take? (s : p.Sound) (taken : p.take? = some p') : p'.Sound := by
  obtain rfl := take?_eq_some taken
  exact ⟨fun _ => s.served (Nat.succ_ne_zero _), s.distinct, s.issued⟩

end Sound

-- ---------------------------------------------------------------------------
-- What a task does
-- ---------------------------------------------------------------------------

/-- What a task can do to the pool, with the ticket that it waits with before and afterwards. -/
inductive Shift (p : Pool) : Option Ticket → Pool → Option Ticket → Prop
  | stays : Shift p mine p mine
  | took : p.take? = some p' → Shift p none p' none
  | queued : p.take? = none → Shift p none p.wait (some p.nextTicket)
  | collected : ticket ∈ p.handed → Shift p (some ticket) (p.collect ticket) none
  | left : Shift p (some ticket) (p.leave ticket) none
  | gaveBack : Shift p none p.giveBack none

theorem Shift.sound (h : p.Shift mine p' mine') (s : p.Sound) : p'.Sound := by
  cases h with
  | stays => exact s
  | took taken => exact s.take? taken
  | queued none => exact s.wait (take?_eq_none.mp none)
  | collected given => exact s.collect given
  | left => exact s.leave _
  | gaveBack => exact s.giveBack

/-- A ticket that is there afterwards is the one that the task waits with, or was there before and
was not the one that the task had. -/
theorem Shift.mem_tickets (h : p.Shift mine p' mine') (s : p.Sound) (there : ticket ∈ p'.tickets) :
    mine' = some ticket ∨ ticket ∈ p.tickets ∧ mine ≠ some ticket := by
  cases h with
  | stays =>
    by_cases own : mine = some ticket
    · exact .inl own
    · exact .inr ⟨there, own⟩
  | took taken =>
    obtain rfl := take?_eq_some taken
    exact .inr ⟨there, nofun⟩
  | queued =>
    rcases List.mem_cons.mp ((wait_tickets p).mem_iff.mp there) with rfl | before
    · exact .inl rfl
    · exact .inr ⟨before, nofun⟩
  | collected given =>
    rw [collect_tickets s.distinct given] at there
    obtain ⟨other, before⟩ := s.distinct.mem_erase_iff.mp there
    exact .inr ⟨before, fun same => other (Option.some.inj same).symm⟩
  | left =>
    have there := (leave_tickets s.distinct _).mem_iff.mp there
    obtain ⟨other, before⟩ := s.distinct.mem_erase_iff.mp there
    exact .inr ⟨before, fun same => other (Option.some.inj same).symm⟩
  | gaveBack => exact .inr ⟨(giveBack_tickets p).mem_iff.mp there, nofun⟩

end Passbook.Store.Pool
