import Passbook.Proofs.Writing

/-!
# All or nothing

A unit of work in a transaction happens as a whole or not at all. On any store it is committed
exactly if it succeeds and the commit does, and otherwise its error, the one of the beginning, or
the one of the commit is returned. On the store in memory the commit leaves behind what the unit
was shown, table by table, and no other step of its task changes a committed row
(`runInTransaction_allOrNothing`).
-/

namespace Passbook

namespace Store

-- ---------------------------------------------------------------------------
-- What a unit of work has been told
-- ---------------------------------------------------------------------------

def successes (inner : List Request.Step) : List Success :=
  inner.filterMap fun
    | ⟨.query q, .ok row⟩ => some ⟨q, row⟩
    | _ => none

theorem foldl_inside (inner : List Request.Step) (t : Tally) :
    (inner.map Action.Step.inside).foldl Tally.after t =
      { t with current := t.current ++ successes inner } := by
  induction inner generalizing t with
  | nil => simp [successes]
  | cons s rest ih =>
    obtain ⟨r, reply⟩ := s
    rw [List.map_cons, List.foldl_cons, ih]
    cases r with
    | query q => cases reply <;> simp [Action.Step.inside, Tally.after, successes]
    | _ => rfl

def commits : Action.Step → Bool
  | ⟨.commit, .ok _⟩ => true
  | _ => false

theorem after_committed (t : Tally) (s : Action.Step) :
    (t.after s).committed = t.committed ++ if commits s then [t.current] else [] := by
  obtain ⟨op, reply⟩ := s
  cases op with
  | begin => cases reply <;> simp [Tally.after, commits]
  | commit => cases reply <;> simp [Tally.after, commits]
  | rollback => simp [Tally.after, commits]
  | inside r =>
    cases r with
    | query q => cases reply <;> simp [Tally.after, commits]
    | _ => simp [Tally.after, commits]

theorem committed_grows (t : Tally) (steps : List Action.Step) :
    t.committed <+: (steps.foldl Tally.after t).committed := by
  induction steps generalizing t with
  | nil => exact List.prefix_rfl
  | cons s rest ih => exact (after_committed t s ▸ List.prefix_append ..).trans (ih (t.after s))

theorem committed_of_none (t : Tally) {steps : List Action.Step} (h : steps.any commits = false) :
    (steps.foldl Tally.after t).committed = t.committed := by
  induction steps generalizing t with
  | nil => rfl
  | cons s rest ih =>
    obtain ⟨hs, hrest⟩ := Bool.or_eq_false_iff.mp (List.any_cons ▸ h)
    rw [List.foldl_cons, ih _ hrest, after_committed, hs]
    exact List.append_nil _

theorem any_commits_inside (inner : List Request.Step) :
    (inner.map Action.Step.inside).any commits = false := by
  rw [List.any_map, List.any_eq_false]
  exact fun s _ => Bool.false_ne_true

end Store

-- ---------------------------------------------------------------------------
-- Commits of a unit of work
-- ---------------------------------------------------------------------------

namespace Work

open Store

variable {work : Work α} {steps : List Action.Step} {run : Attempt α}

theorem Course.error_commits (course : Course work steps run) (fails : run.outcome = .error e) :
    steps.any commits = false := by
  cases course with
  | refused => rfl
  | @ran inner _ _ ending _ ends =>
    have quiet : ending.any commits = false := by
      cases ends with
      | committed => cases fails
      | _ => rfl
    rw [List.any_cons, List.any_append, any_commits_inside, quiet]
    rfl

theorem Course.of_ok {a : α} (course : Course work steps run) (succeeds : run.outcome = .ok a) :
    ∃ inner, work.run.Runs inner (.ok a) ∧ steps = ⟨.begin, .ok ()⟩ ::
      (inner.map Action.Step.inside ++
        [⟨.commit, .ok ()⟩, Action.Step.logged .transactionCommitted]) := by
  cases course with
  | refused => cases succeeds
  | @ran inner _ _ _ runs ends =>
    cases ends with
    | committed => cases succeeds; exact ⟨inner, runs, rfl⟩
    | _ => cases succeeds

end Work

namespace Store

open Work Dialogue

variable {α : Type} {work : Work α} {steps : List Action.Step}

/-- The unit has succeeded and the transaction is committed; all that is left to do is to log this
and to return the result. -/
def Settled (a : α) (rest : Program (Except Error α)) : Prop :=
  rest = .ask (.inside (.record .transactionCommitted)) (fun _ => .done (.ok a)) ∨
    rest = .done (.ok a)

theorem Moved.settled {s s' : Store} {x y : Stand (Except Error α)} {mark : Mark} {a : α}
    (m : Moved s x mark s' y) (settled : Settled a x.program) : Settled a y.program := by
  cases m with
  | stays => exact settled
  | answered =>
    rcases settled with settled | settled
    · cases settled
      exact .inr rfl
    · cases settled
  | _ => rcases settled with settled | settled <;> cases settled

theorem foldl_unit (inner : List Request.Step) (t : Tally) :
    (⟨.begin, .ok ()⟩ :: inner.map Action.Step.inside).foldl Tally.after t =
      ⟨t.committed, successes inner⟩ := by
  rw [List.foldl_cons, foldl_inside]
  rfl

theorem tally_unit (inner : List Request.Step) :
    tally (⟨.begin, .ok ()⟩ :: inner.map Action.Step.inside) = ⟨[], successes inner⟩ :=
  foldl_unit inner {}

/-- A beginning of `first` with two more steps is a beginning of `first`, or has one of the two
more, or both. -/
theorem append_eq_append_pair {steps more first : List β} (h : steps ++ more = first ++ [x, y]) :
    (∃ a, steps ++ a = first ∧ more = a ++ [x, y]) ∨
      (steps = first ++ [x] ∧ more = [y]) ∨ steps = first ++ [x, y] ∧ more = [] := by
  rcases List.append_eq_append_iff.mp h with ⟨a, rfl, rfl⟩ | ⟨c, rfl, hc⟩
  · exact .inl ⟨a, rfl, rfl⟩
  · match c, hc with
    | [], hc => exact .inl ⟨[], by simp, by simpa using hc.symm⟩
    | [_], hc =>
      obtain ⟨rfl, rfl⟩ := List.cons.inj hc
      exact .inr (.inl ⟨rfl, rfl⟩)
    | [_, _], hc =>
      simp at hc
      obtain ⟨rfl, rfl, rfl⟩ := hc
      exact .inr (.inr ⟨rfl, rfl⟩)

/-- Of a unit of work that has succeeded, exactly what it has done is committed, once the commit
has succeeded. Before that, and otherwise, nothing is. -/
theorem runInTransaction_committed {rest : Program (Except Error α)}
    (h : (runInTransaction work).Trace steps rest) :
    ((tally steps).committed = [] ∧ ∀ a, rest ≠ .done (.ok a)) ∨
      ∃ a inner, work.run.Runs inner (.ok a) ∧ (tally steps).committed = [successes inner] ∧
        Settled a rest := by
  obtain ⟨more, outcome, hmore⟩ := Trace.ends rest
  obtain ⟨course, attempt, hcourse, rfl, full⟩ := runInTransaction_runs.mp (h.trans hmore)
  cases ho : attempt.outcome with
  | error e =>
    have quiet : (steps ++ more).any commits = false := by
      rw [full, List.any_append, hcourse.error_commits ho, ho]
      rfl
    rw [List.any_append, Bool.or_eq_false_iff] at quiet
    refine .inl ⟨committed_of_none {} quiet.1, ?_⟩
    rintro a rfl
    obtain ⟨-, same⟩ := Trace.done_iff.mp hmore
    exact nomatch ho.symm.trans (Dialogue.done.inj same)
  | ok a =>
    obtain ⟨inner, hinner, rfl⟩ := hcourse.of_ok ho
    rw [ho, loggedError, List.append_nil, ← List.cons_append] at full
    rw [ho] at hmore
    rcases append_eq_append_pair full with ⟨b, hb, rfl⟩ | ⟨rfl, rfl⟩ | ⟨rfl, rfl⟩
    · have quiet : (steps ++ b).any commits = false := by
        rw [hb, List.any_cons, any_commits_inside]
        rfl
      rw [List.any_append, Bool.or_eq_false_iff] at quiet
      refine .inl ⟨committed_of_none {} quiet.1, ?_⟩
      rintro a rfl
      obtain ⟨hb, -⟩ := Trace.done_iff.mp hmore
      simp at hb
    · refine .inr ⟨a, inner, hinner, by rw [tally_append, tally_unit]; rfl, .inl ?_⟩
      cases hmore with
      | cons hdone =>
        refine congrArg _ (funext fun u => ?_)
        exact Trace.nil_iff.mp hdone
    · refine .inr ⟨a, inner, hinner, by rw [tally_append, tally_unit]; rfl, .inr ?_⟩
      exact Trace.nil_iff.mp hmore

-- ---------------------------------------------------------------------------
-- A unit of work beside other tasks
-- ---------------------------------------------------------------------------

/-- The happening is a move of the task, or the task is dropped. -/
def Happening.isOf {Name : Type} [DecidableEq Name] (name : Name) : Happening Name → Bool
  | .move mover _ => mover = name
  | .drop dropped => dropped = name
  | .arm _ => false

namespace System

section
variable {Name : Type} [DecidableEq Name] {Result : Name → Type} {sys : System Result}

/-- The task changes no committed row while this happens. -/
def Untouched (name : Name) : System Result → List (Happening Name) → Prop
  | _, [] => True
  | sys, h :: rest => (h.isOf name → (sys.after h).store.committed = sys.store.committed) ∧
      Untouched name (sys.after h) rest

theorem untouched_snoc {name : Name} {sys : System Result} {happenings : List (Happening Name)}
    {h : Happening Name} : Untouched name sys (happenings ++ [h]) ↔
      Untouched name sys happenings ∧
        (h.isOf name → ((sys.run happenings).after h).store.committed =
          (sys.run happenings).store.committed) := by
  induction happenings generalizing sys with
  | nil => simp [Untouched]
  | cons first rest ih =>
    rw [List.cons_append, Untouched, Untouched, ih, and_assoc]
    rfl

/-- A happening commits nothing of a task, or it is the commit, which leaves behind what the task
was shown and publishes what it has done. -/
theorem after_commits (t : sys.Tidy) (g : sys.Guarded) (w : sys.Written) (name : Name)
    (h : Happening Name) :
    ((sys.after h).committedBy name = sys.committedBy name ∧
        (h.isOf name → (sys.after h).store.committed = sys.store.committed)) ∨
      ∃ move tx, h = .move name move ∧ sys.txOf name = some tx ∧
        (∀ now, (sys.store.view tx now).Shows (sys.after h).store.committed) ∧
        (sys.after h).store.committed = sys.store.committed.commit (sys.currentOf (some tx)) ∧
        (sys.after h).committedBy name = sys.committedBy name ++ [sys.currentOf (some tx)] := by
  cases h with
  | arm faults => exact .inl ⟨rfl, fun _ => rfl⟩
  | drop dropped =>
    simp only [after]
    cases sys.tasks dropped with
    | none => exact .inl ⟨rfl, fun _ => rfl⟩
    | some p =>
      obtain ⟨pool, -, withdrawn⟩ := withdraw_without (s := sys.store) p
      refine .inl ⟨rfl, fun _ => ?_⟩
      unfold Process.drop
      dsimp only
      split <;> simp [withdrawn]
  | move mover move =>
    cases task : sys.tasks mover with
    | none =>
      have same : sys.after (.move mover move) = sys := by simp only [after, task]
      rw [same]
      exact .inl ⟨rfl, fun _ => rfl⟩
    | some p =>
      have opened : ∀ tx, p.tx = some tx → sys.store.isOpen tx := fun tx htx =>
        t.opened ((txOf_eq task).trans htx)
      have m := p.make_moved move opened (t.staged _ _ task)
      rw [after_move move task]
      by_cases hn : name = mover
      case neg =>
        refine .inl ⟨committedBy_took_other _ _ hn, fun h => ?_⟩
        simp [Happening.isOf, Ne.symm hn] at h
      subst hn
      by_cases hmark : p.mark sys.store move = .committed
      · rw [hmark] at m ⊢
        obtain ⟨tx, own, htx, -, opened, hnext⟩ := m.committed_ended
        have htx : p.tx = some tx := htx
        rw [htx]
        have here := (txOf_eq task).trans htx
        refine .inr ⟨move, tx, rfl, here, fun now => ?_, ?_, committedBy_took ..⟩
        · have shows := (g.store.keyed tx now).shows
          rw [view_published opened] at shows
          simpa only [took, hnext] using shows
        · rw [took, hnext, Tables.commit, ← w.opened opened]
      · exact .inl ⟨committedBy_took_same _ _ hmark, fun _ => m.committed_same hmark⟩

/-- One move of a task, the commit of its transaction, stands out among all that happens, and the
others leave the committed rows as they are. -/
structure CommitsOnce (name : Name) (sys : System Result) (before : List (Happening Name))
    (move : Move) (rest : List (Happening Name)) (tx : TxId) : Prop where
  first : Untouched name sys before
  there : (sys.run before).txOf name = some tx
  shows : ∀ now, ((sys.run before).store.view tx now).Shows
    ((sys.run before).after (.move name move)).store.committed
  publishes : ((sys.run before).after (.move name move)).store.committed =
    (sys.run before).store.committed.commit ((sys.run before).currentOf (some tx))
  recorded : ((sys.run before).after (.move name move)).committedBy name =
    [(sys.run before).currentOf (some tx)]
  last : Untouched name ((sys.run before).after (.move name move)) rest

theorem CommitsOnce.snoc {name : Name} {before rest : List (Happening Name)} {move : Move}
    {tx : TxId} {h : Happening Name} (once : CommitsOnce name sys before move rest tx)
    (quiet : h.isOf name → ((sys.run (before ++ .move name move :: rest)).after h).store.committed =
      (sys.run (before ++ .move name move :: rest)).store.committed) :
    CommitsOnce name sys before move (rest ++ [h]) tx := by
  rw [run_append] at quiet
  exact { once with last := untouched_snoc.mpr ⟨once.last, quiet⟩ }

/-- A task whose program commits no more than once has committed nothing, or all it has done, in
one move. -/
theorem untouched_or_commitsOnce (connections : Nat)
    (programs : (name : Name) → Program (Result name)) (name : Name)
    (once : ∀ steps rest, (programs name).Trace steps rest → (tally steps).committed.length ≤ 1)
    (happenings : List (Happening Name)) :
    let sys := start connections programs
    (Untouched name sys happenings ∧ (sys.run happenings).committedBy name = []) ∨
      ∃ before move rest tx, happenings = before ++ .move name move :: rest ∧
        CommitsOnce name sys before move rest tx ∧
        (sys.run happenings).committedBy name = [(sys.run before).currentOf (some tx)] := by
  intro sys
  induction happenings using List.reverseRecOn with
  | nil => exact .inl ⟨trivial, rfl⟩
  | append_singleton happenings h ih =>
    have t := tidy_run connections programs happenings
    have g := guarded_run connections programs happenings
    have w := written_run connections programs happenings
    obtain ⟨steps, rest, traced⟩ := follows_run connections programs (happenings ++ [h]) name
    rw [run_snoc] at traced ⊢
    rcases after_commits t g w name h with
      ⟨same, quiet⟩ | ⟨move, tx, rfl, there, shows, publishes, more⟩
    · rcases ih with ⟨untouched, empty⟩ | ⟨before, move, rest, tx, rfl, first, one⟩
      · exact .inl ⟨untouched_snoc.mpr ⟨untouched, quiet⟩, same.trans empty⟩
      · exact .inr ⟨before, move, rest ++ [h], tx, by simp, first.snoc quiet, same.trans one⟩
    · have few : (sys.run happenings).committedBy name = [] := by
        have one := once steps rest traced.trace
        rw [← traced.committed, more, List.length_append, List.length_singleton] at one
        exact List.length_eq_zero_iff.mp (Nat.le_zero.mp (Nat.le_of_succ_le_succ one))
      rcases ih with ⟨untouched, -⟩ | ⟨before, move, rest, tx, -, -, one⟩
      · rw [few, List.nil_append] at more
        exact .inr ⟨happenings, move, [], tx, rfl,
          ⟨untouched, there, shows, publishes, more, trivial⟩, more⟩
      · exact absurd (few.symm.trans one) (List.cons_ne_nil _ _).symm

end

section
variable {Other : Type} [DecidableEq Other] {Result : Other → Type} {α : Type}

abbrev Beside (α : Type) (Result : Other → Type) : Option Other → Type
  | none => Except Error α
  | some other => Result other

/-- A unit of work in a transaction, and other tasks with any programs beside it. -/
def beside (work : Work α) (programs : (other : Other) → Program (Result other)) :
    (name : Option Other) → Program (Beside α Result name)
  | none => runInTransaction work
  | some other => programs other

/-- What a run of a unit of work beside other tasks has come to. -/
inductive AllOrNothing (work : Work α) (sys : System (Beside α Result))
    (happenings : List (Happening (Option Other))) : Prop
  /-- The unit's task has changed no committed row, and has not returned a success. -/
  | nothing : Untouched none sys happenings →
      (∀ p a, (sys.run happenings).tasks none = some p → p.phase ≠ .finished (.ok a)) →
      AllOrNothing work sys happenings
  /-- The unit has succeeded. One move has left behind what it was shown, and nothing else of its
  task has changed a committed row. From that move on the task is past its last wait: all that it
  still does is to return the success. -/
  | all {before rest : List (Happening (Option Other))} {move : Move} {tx : TxId}
      {inner : List Request.Step} {a : α} :
      happenings = before ++ .move none move :: rest → work.run.Runs inner (.ok a) →
      Untouched none sys before →
      (sys.run before).txOf none = some tx →
      (∀ now, ((sys.run before).store.view tx now).Shows
        ((sys.run before).after (.move none move)).store.committed) →
      (∃ p, ((sys.run before).after (.move none move)).tasks none = some p ∧
        Settled a p.stand.program) →
      Untouched none ((sys.run before).after (.move none move)) rest →
      (∀ p, (sys.run happenings).tasks none = some p → Settled a p.stand.program) →
      AllOrNothing work sys happenings

variable {work : Work α} {programs : (other : Other) → Program (Result other)}
  {sys : System (Beside α Result)} {happenings : List (Happening (Option Other))}

/-- A task with a unit of work commits nothing, or once, after the unit has succeeded. -/
theorem Follows.unit (f : sys.Follows (beside work programs)) :
    (sys.committedBy none = [] ∧
      ∀ p a, sys.tasks none = some p → p.phase ≠ .finished (.ok a)) ∨
      ∃ a inner, work.run.Runs inner (.ok a) ∧ sys.committedBy none = [successes inner] ∧
        ∀ p, sys.tasks none = some p → Settled a p.stand.program := by
  obtain ⟨steps, rest, traced⟩ := f none
  rcases runInTransaction_committed traced.trace with ⟨none, open_⟩ | ⟨a, inner, runs, one, settled⟩
  · refine .inl ⟨traced.committed.trans none, fun p a hp hphase => open_ a ?_⟩
    rw [← (traced.here p hp).1, Process.stand, hphase]
    rfl
  · refine .inr ⟨a, inner, runs, traced.committed.trans one, fun p hp => ?_⟩
    rw [(traced.here p hp).1]
    exact settled

theorem settled_happened {sys' : System (Beside α Result)} {a : α} (h : Happened sys sys')
    (settled : ∀ p, sys.tasks none = some p → Settled a p.stand.program) :
    ∀ p, sys'.tasks none = some p → Settled a p.stand.program := by
  intro q hq
  cases h with
  | @moved mark next mover p p' task m =>
    cases mover with
    | none =>
      obtain rfl : p' = q := by simpa [took] using hq
      exact m.settled (settled p task)
    | some other => exact settled q (by simpa [took] using hq)
  | cancelled => exact settled q (task_of_dropped hq).2
  | left => exact settled q (task_of_dropped hq).2
  | armed => exact settled q hq

theorem allOrNothing_run (connections : Nat) (work : Work α)
    (programs : (other : Other) → Program (Result other))
    (happenings : List (Happening (Option Other))) :
    AllOrNothing work (start connections (beside work programs)) happenings := by
  have unit := fun happenings =>
    (follows_run connections (beside work programs) happenings).unit
  have few : ∀ steps rest, (runInTransaction work).Trace steps rest →
      (tally steps).committed.length ≤ 1 := fun steps rest h => by
    rcases runInTransaction_committed h with ⟨none, -⟩ | ⟨a, inner, -, one, -⟩
    · rw [none]
      exact Nat.zero_le _
    · rw [one]
      exact Nat.le_refl _
  rcases untouched_or_commitsOnce connections (beside work programs) none few happenings with
    ⟨untouched, empty⟩ | ⟨before, move, rest, tx, rfl, once, -⟩
  · rcases unit happenings with ⟨-, unfinished⟩ | ⟨a, inner, -, one, -⟩
    · exact .nothing untouched unfinished
    · exact absurd (one.symm.trans empty) (List.cons_ne_nil _ _)
  · have now := unit (before ++ [.move none move])
    rw [run_snoc] at now
    rcases now with ⟨empty, -⟩ | ⟨a, inner, runs, -, settled⟩
    · exact absurd (once.recorded.symm.trans empty) (List.cons_ne_nil _ _)
    obtain ⟨p, task, -⟩ := Option.bind_eq_some_iff.mp once.there
    have there := task_after_move move task
    have t := tidy_run connections (beside work programs) (before ++ [.move none move])
    have g := guarded_run connections (beside work programs) (before ++ [.move none move])
    rw [run_snoc] at t g
    refine .all rfl runs once.first once.there once.shows ⟨_, there, settled _ there⟩ once.last ?_
    rw [run_append]
    exact run_induction_from t g settled (fun _ _ _ _ settled h => settled_happened h settled) rest

end

/-- On any store a unit of work in a transaction goes in one of the ways of a `Course`, and what is
returned for an error of the unit has the category of that error. On the store in memory, beside
any other tasks, it happens as a whole or not at all. -/
theorem runInTransaction_allOrNothing {α : Type} (work : Work α) :
    (∀ steps outcome, (runInTransaction work).Runs steps outcome ↔
      ∃ course attempt, Course work course attempt ∧ attempt.outcome = outcome ∧
        steps = course ++ loggedError outcome) ∧
    (∀ steps rest, (runInTransaction work).Trace steps rest →
      ∃ more outcome, (runInTransaction work).Runs (steps ++ more) outcome) ∧
    (∀ e steps outcome, Ending (.error e : Except Error α) steps outcome →
      ∃ e', outcome = .error e' ∧ e'.category = e.category ∧ e'.isRetryable = e.isRetryable) ∧
    ∀ (Other : Type) [DecidableEq Other] (Result : Other → Type) (connections : Nat)
      (programs : (other : Other) → Program (Result other))
      (happenings : List (Happening (Option Other))),
      AllOrNothing work (start connections (beside work programs)) happenings :=
  ⟨fun _ _ => runInTransaction_runs, fun _ _ => Trace.extend, fun _ _ _ => Ending.category,
    fun _ _ _ connections programs => allOrNothing_run connections work programs⟩

end System

end Store

end Passbook
