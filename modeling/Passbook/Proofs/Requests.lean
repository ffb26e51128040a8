import Passbook.Proofs.Jobs

/-!
# What programs ask for

A unit of work asks for nothing in a transaction that it does not ask for by itself
(`runInTransaction_asks`). What a task asks for bounds what it can have done: every deed in its
open transaction and in its committed ones is the answer to a query that its program asks for
(`Follows.opened_asked`, `Follows.committed_asked`).
-/

namespace Passbook

open Dialogue Trace

-- ---------------------------------------------------------------------------
-- Programs in parts
-- ---------------------------------------------------------------------------

section
variable {Op Op' : Type} {Reply : Op → Type} {Reply' : Op' → Type} {α β : Type}
  {possible : Dialogue.Step Reply → Prop} {wanted : Op → Prop}

theorem Dialogue.Asks.andThen {d : Dialogue Reply α} {f : α → Dialogue Reply β}
    (h : d.Asks possible wanted) (rest : ∀ a, (f a).Asks possible wanted) :
    (d.andThen f).Asks possible wanted := by
  induction d with
  | done a => exact rest a
  | ask op next ih => exact ⟨h.1, fun reply hr => ih reply (h.2 reply hr)⟩

theorem Dialogue.Asks.embed {wrap : Op → Op'} {unwrap : ∀ op, Reply' (wrap op) → Reply op}
    {possible : Dialogue.Step Reply' → Prop} {wanted : Op' → Prop} {d : Dialogue Reply α}
    (h : d.Asks (fun _ => True) fun op => wanted (wrap op)) :
    (d.embed wrap unwrap).Asks possible wanted := by
  induction d with
  | done a => trivial
  | ask op next ih => exact ⟨h.1, fun reply _ => ih _ (h.2 _ trivial)⟩

end

namespace Work

variable {α β : Type} {steps : List Request.Step}

theorem bind_runs {work : Work α} {f : α → Work β} {outcome : Except Error β} :
    (work >>= f).run.Runs steps outcome ↔
      (∃ e, work.run.Runs steps (.error e) ∧ outcome = .error e) ∨
        ∃ a first second, steps = first ++ second ∧ work.run.Runs first (.ok a) ∧
          (f a).run.Runs second outcome := by
  constructor
  · intro h
    obtain ⟨unit, first, second, rfl, hfirst, hsecond⟩ := andThen_runs.mp h
    cases unit with
    | error e =>
      obtain ⟨rfl, ho⟩ := done_iff.mp hsecond
      cases ho
      exact .inl ⟨e, (List.append_nil first).symm ▸ hfirst, rfl⟩
    | ok a => exact .inr ⟨a, first, second, rfl, hfirst, hsecond⟩
  · rintro (⟨e, h, rfl⟩ | ⟨a, first, second, rfl, hfirst, hsecond⟩)
    · exact andThen_runs.mpr ⟨.error e, steps, [], by simp, h, .nil⟩
    · exact andThen_runs.mpr ⟨.ok a, first, second, rfl, hfirst, hsecond⟩

theorem request_runs {r : Request} {next : r.Reply → Work α} {outcome : Except Error α} :
    (request r >>= next).run.Runs steps outcome ↔
      ∃ reply rest, steps = ⟨r, reply⟩ :: rest ∧ (next reply).run.Runs rest outcome :=
  ask_runs

-- ---------------------------------------------------------------------------
-- Units of work
-- ---------------------------------------------------------------------------

theorem bind_asks {possible : Request.Step → Prop} {wanted : Request → Prop} {work : Work α}
    {f : α → Work β} (h : work.run.Asks possible wanted)
    (rest : ∀ a, (f a).run.Asks possible wanted) : (work >>= f).run.Asks possible wanted := by
  refine Asks.andThen h fun unit => ?_
  cases unit with
  | ok a => exact rest a
  | error e => trivial

theorem request_asks {possible : Request.Step → Prop} {wanted : Request → Prop} {r : Request}
    {next : r.Reply → Work α} (first : wanted r)
    (rest : ∀ reply, (next reply).run.Asks possible wanted) :
    (request r >>= next).run.Asks possible wanted :=
  ⟨first, fun reply _ => rest reply⟩

/-- What a program is free to ask for beside the requests of its units of work: it begins and ends
transactions, and logs. -/
structure Frames (wanted : Action → Prop) : Prop where
  begin : wanted .begin
  commit : wanted .commit
  rollback : wanted .rollback
  record : ∀ event, wanted (.inside (.record event))

variable {wanted : Action → Prop} {work : Work α}

theorem runInTransaction_asks (frames : Frames wanted)
    (h : work.run.Asks (fun _ => True) fun r => wanted (.inside r)) :
    (runInTransaction work).Asks (fun _ => True) wanted := by
  have log : ∀ event, (Program.record event).Asks (fun _ => True) wanted := fun event =>
    ⟨frames.record event, fun _ _ => trivial⟩
  have settled : ∀ a : α, (settle a).Asks (fun _ => True) wanted := by
    intro a
    refine ⟨frames.commit, fun reply _ => ?_⟩
    cases reply with
    | ok _ => exact (log _).andThen fun _ => trivial
    | error e => trivial
  have undone : ∀ e, (undo e : Program (Except Error α)).Asks (fun _ => True) wanted := by
    intro e
    refine ⟨frames.rollback, fun reply _ => ?_⟩
    cases reply with
    | ok _ => exact (log _).andThen fun _ => trivial
    | error r => exact (log _).andThen fun _ => trivial
  have once : (attemptOnce work).Asks (fun _ => True) wanted := by
    refine ⟨frames.begin, fun reply _ => ?_⟩
    cases reply with
    | error e => trivial
    | ok _ =>
      refine (Asks.embed h : work.within.Asks _ _).andThen fun unit => ?_
      cases unit with
      | ok a => exact (settled a).andThen fun _ => trivial
      | error e => exact (undone e).andThen fun _ => trivial
  refine Asks.andThen (once.andThen fun attempt => ?_) fun _ => trivial
  refine Asks.andThen ?_ fun _ => trivial
  cases attempt.outcome with
  | ok a => trivial
  | error e => exact log _

theorem runWorkflow_asks {workflow : String} (frames : Frames wanted)
    (h : work.run.Asks (fun _ => True) fun r => wanted (.inside r)) :
    (runWorkflow workflow work).Asks (fun _ => True) wanted := by
  refine (runInTransaction_asks frames h).andThen fun outcome => ?_
  cases outcome with
  | ok a => exact ⟨frames.record _, fun _ _ => trivial⟩
  | error e => exact ⟨frames.record _, fun _ _ => ⟨frames.record _, fun _ _ => trivial⟩⟩

end Work

theorem Query.run_asks {wanted : Action → Prop} {q : Query} (frames : Work.Frames wanted)
    (h : wanted (.inside (.query q))) : q.run.Asks (fun _ => True) wanted :=
  Work.runInTransaction_asks frames ⟨h, fun reply _ => by cases reply <;> trivial⟩

-- ---------------------------------------------------------------------------
-- What tasks have done
-- ---------------------------------------------------------------------------

namespace Store

/-- What a program has been told was all asked for. -/
theorem tally_asked {steps : List Action.Step} {wanted : Query → Prop}
    (h : ∀ s ∈ steps, ∀ q, s.1 = .inside (.query q) → wanted q) :
    (∀ s ∈ (tally steps).current, wanted s.1) ∧
      ∀ done ∈ (tally steps).committed, ∀ s ∈ done, wanted s.1 := by
  induction steps using List.reverseRecOn with
  | nil => exact ⟨fun _ hs => (nomatch hs), fun _ hd => (nomatch hd)⟩
  | append_singleton steps step ih =>
    obtain ⟨current, committed⟩ := ih fun s hs => h s (List.mem_append_left _ hs)
    have last := h step (List.mem_append_right _ (List.mem_singleton_self _))
    rw [tally_append]
    obtain ⟨op, reply⟩ := step
    cases op with
    | begin =>
      cases reply with
      | error e => exact ⟨current, committed⟩
      | ok _ => exact ⟨by simp [Tally.after], committed⟩
    | commit =>
      cases reply with
      | error e => exact ⟨by simp [Tally.after], committed⟩
      | ok _ =>
        refine ⟨by simp [Tally.after], fun done hd => ?_⟩
        rcases List.mem_append.mp hd with hd | hd
        · exact committed done hd
        · exact List.mem_singleton.mp hd ▸ current
    | rollback => exact ⟨by simp [Tally.after], committed⟩
    | inside r =>
      cases r with
      | query q =>
        cases reply with
        | error e => exact ⟨current, committed⟩
        | ok row =>
          refine ⟨fun s hs => ?_, committed⟩
          rcases List.mem_append.mp hs with hs | hs
          · exact current s hs
          · exact List.mem_singleton.mp hs ▸ last q rfl
      | _ => exact ⟨current, committed⟩

-- ---------------------------------------------------------------------------
-- Where a unit of work stands
-- ---------------------------------------------------------------------------

/-- The step is not a request of a unit of work. -/
def IsFrame (s : Action.Step) : Prop := ∀ r, s.1 = .inside r → ∃ event, r = .record event

theorem isFrame_logged (event : Logging.Event) : IsFrame (.logged event) := by
  rintro r ⟨⟩
  exact ⟨event, rfl⟩

theorem current_of_frames {steps : List Action.Step} (h : ∀ s ∈ steps, IsFrame s) :
    (tally steps).current = [] := by
  have none : ∀ s ∈ steps, ∀ q, s.1 = .inside (.query q) → False := by
    intro s hs q query
    obtain ⟨event, no⟩ := h s hs _ query
    cases no
  exact List.eq_nil_iff_forall_not_mem.mpr (tally_asked none).1

theorem foldl_logged {steps : List Action.Step} (h : ∀ s ∈ steps, ∃ event, s = .logged event)
    (t : Tally) : steps.foldl Tally.after t = t := by
  induction steps with
  | nil => rfl
  | cons s rest ih =>
    obtain ⟨event, rfl⟩ := h s List.mem_cons_self
    exact ih fun s hs => h s (List.mem_cons_of_mem _ hs)

open Work

/-- The transaction of a unit of work ends in one step, and then there are only logs. -/
theorem ending_eq {unit outcome : Except Error α} {ending : List Action.Step}
    (h : Ending unit ending outcome) : ∃ last logs, ending ++ loggedError outcome = last :: logs ∧
      (∀ t : Tally, (t.after last).current = []) ∧ (∀ r, last.1 ≠ .inside r) ∧
      ∀ s ∈ logs, ∃ event, s = .logged event := by
  cases h with
  | committed a => exact ⟨_, [_], rfl, fun _ => rfl, by simp, by simp⟩
  | commitFailed a e => exact ⟨_, [_], rfl, fun _ => rfl, by simp, by simp⟩
  | rolledBack e => exact ⟨_, [_, _], rfl, fun _ => rfl, by simp, by simp⟩
  | rollbackFailed e r => exact ⟨_, [_, _], rfl, fun _ => rfl, by simp, by simp⟩

/-- A unit of work in a transaction is under way, and `before` is what it has been told, or the
transaction has not begun or has ended. -/
inductive Standing (work : Work α) (steps : List Action.Step)
    (rest : Program (Except Error α)) : Prop
  | inside {before after : List Request.Step} {unit : Except Error α} :
      work.run.Runs (before ++ after) unit →
      (tally steps).current = successes before →
      (∀ r next, rest = .ask (.inside r) next → ∃ reply later, after = ⟨r, reply⟩ :: later) →
      Standing work steps rest
  | outside : (tally steps).current = [] →
      (∀ r next, rest = .ask (.inside r) next → ∃ event, r = .record event) →
      Standing work steps rest

theorem runInTransaction_stands {work : Work α} {steps : List Action.Step}
    {rest : Program (Except Error α)} (h : (runInTransaction work).Trace steps rest) :
    Standing work steps rest := by
  obtain ⟨more, outcome, hmore⟩ := Trace.ends rest
  obtain ⟨course, attempt, hcourse, rfl, full⟩ := runInTransaction_runs.mp (h.trans hmore)
  have asked : ∀ r next, rest = .ask (.inside r) next → ∃ reply later,
      more = ⟨.inside r, reply⟩ :: later := by
    rintro r next rfl
    obtain ⟨reply, later, rfl, -⟩ := ask_runs.mp hmore
    exact ⟨reply, later, rfl⟩
  have outside : (tally steps).current = [] → (∀ s ∈ more.head?, IsFrame s) →
      Standing work steps rest := by
    refine fun current frames => .outside current fun r next hr => ?_
    obtain ⟨reply, later, rfl⟩ := asked r next hr
    exact frames _ rfl r rfl
  cases hcourse with
  | refused e =>
    have frames : ∀ s ∈ steps ++ more, IsFrame s := by
      rw [full]
      simp [loggedError, IsFrame, Action.Step.logged]
    refine outside (current_of_frames fun s hs => frames s (List.mem_append_left _ hs)) ?_
    exact fun s hs => frames s (List.mem_append_right _ (List.mem_of_mem_head? hs))
  | @ran inner unit outcome ending hinner hend =>
    obtain ⟨last, logs, hlast, ended, apart, logged⟩ := ending_eq hend
    rw [List.cons_append, List.append_assoc, hlast] at full
    cases steps with
    | nil =>
      obtain rfl : more = _ := full
      exact outside rfl (by simp [IsFrame])
    | cons first steps =>
      obtain ⟨rfl, tail⟩ := List.cons.inj full
      have inside : ∀ before later, inner = before ++ later → steps = before.map .inside →
          more = later.map .inside ++ last :: logs →
          Standing work (⟨.begin, .ok ()⟩ :: steps) rest := by
        rintro before later rfl rfl rfl
        refine .inside hinner (by rw [tally_unit]) fun r next hr => ?_
        obtain ⟨reply, rest, asks⟩ := asked r next hr
        cases later with
        | nil =>
          obtain ⟨rfl, -⟩ := List.cons.inj asks
          exact absurd rfl (apart r)
        | cons s later =>
          obtain ⟨r', reply'⟩ := s
          obtain ⟨same, -⟩ := List.cons.inj asks
          cases same
          exact ⟨_, _, rfl⟩
      rcases List.append_eq_append_iff.mp tail with ⟨after, hinner', rfl⟩ | ⟨past, rfl, hpast⟩
      · obtain ⟨before, later, hparts, rfl, rfl⟩ := List.map_eq_append_iff.mp hinner'
        exact inside before later hparts rfl rfl
      · cases past with
        | nil => exact inside inner [] (by simp) (by simp) hpast.symm
        | cons s past =>
          obtain ⟨rfl, rfl⟩ := List.cons.inj hpast
          refine outside ?_ fun s hs => ?_
          · rw [← List.cons_append, tally_append, tally_unit, List.foldl_cons, foldl_logged]
            · exact ended _
            · exact fun s hs => logged s (List.mem_append_left _ hs)
          · obtain ⟨event, rfl⟩ := logged s (List.mem_append_right _ (List.mem_of_mem_head? hs))
            exact isFrame_logged event

namespace System

variable {Name : Type} [DecidableEq Name] {Result : Name → Type} {sys : System Result}
  {programs : (name : Name) → Program (Result name)} {wanted : Query → Prop} {name : Name}

/-- The program asks for no queries but these. -/
def AsksOnly (wanted : Query → Prop) (program : Program α) : Prop :=
  program.Asks (fun _ => True) fun op => ∀ q, op = .inside (.query q) → wanted q

theorem frames_only (wanted : Query → Prop) :
    Work.Frames fun op => ∀ q, op = .inside (.query q) → wanted q where
  begin _ h := nomatch h
  commit _ h := nomatch h
  rollback _ h := nomatch h
  record _ _ h := nomatch h

omit [DecidableEq Name] in
/-- What a task has done in its transaction so far. -/
theorem currentOf_journal (sys : System Result) (tx : TxId) :
    sys.currentOf (some tx) = (sys.journals tx).map Deed.success := rfl

theorem Follows.opened_asked (f : sys.Follows programs) (asks : AsksOnly wanted (programs name))
    (htx : sys.txOf name = some tx) : ∀ d ∈ sys.journals tx, wanted d.query := by
  obtain ⟨steps, rest, traced⟩ := f name
  obtain ⟨p, task, htx⟩ := Option.bind_eq_some_iff.mp htx
  have current := (traced.here p task).2
  rw [htx, currentOf_journal] at current
  intro d hd
  exact (tally_asked (Asks.trace asks traced.trace fun _ _ => trivial)).1 d.success
    (current ▸ List.mem_map_of_mem hd)

theorem Follows.committed_asked (f : sys.Follows programs) {c : Commit Name}
    (asks : AsksOnly wanted (programs c.author)) (hc : c ∈ sys.history) :
    ∀ d ∈ c.deeds, wanted d.query := by
  obtain ⟨steps, rest, traced⟩ := f c.author
  intro d hd
  exact (tally_asked (Asks.trace asks traced.trace fun _ _ => trivial)).2 _ (traced.told hc)
    d.success (List.mem_map_of_mem hd)

end System

end Store

end Passbook
