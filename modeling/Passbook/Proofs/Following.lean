import Passbook.Proofs.Record
import Passbook.Proofs.UnitOfWork

/-!
# Tasks follow their programs

What a task has done is a trace of its program, and the record has what the replies say
(`Follows`): the queries that have succeeded in the open transaction, and those of each committed
one. What the program text says about its traces is thus said about every run of a system.
-/

namespace Passbook.Store

-- ---------------------------------------------------------------------------
-- What replies tell
-- ---------------------------------------------------------------------------

abbrev Success := (q : Query) × q.Row

def Deed.success (d : Deed) : Success := ⟨d.query, d.row⟩

/-- What a program has been told: the successes in its committed transactions and in the current
one. -/
structure Tally where
  committed : List (List Success) := []
  current : List Success := []

/-- The tally after one more reply. -/
def Tally.after (t : Tally) : Action.Step → Tally
  | ⟨.begin, .ok _⟩ => { t with current := [] }
  | ⟨.commit, .ok _⟩ => { committed := t.committed ++ [t.current] }
  | ⟨.commit, .error _⟩ | ⟨.rollback, _⟩ => { t with current := [] }
  | ⟨.inside (.query q), .ok row⟩ => { t with current := t.current ++ [⟨q, row⟩] }
  | _ => t

def tally (steps : List Action.Step) : Tally := steps.foldl Tally.after {}

theorem tally_append (first second : List Action.Step) :
    tally (first ++ second) = second.foldl Tally.after (tally first) := by
  rw [tally, List.foldl_append]
  rfl

theorem after_idle {r : Request} {reply : r.Reply} (h : Idle r reply) (t : Tally) :
    t.after ⟨.inside r, reply⟩ = t := by
  cases r with
  | query q =>
    obtain ⟨e, rfl⟩ := h
    rfl
  | _ => rfl

/-- A reply that a store can give: what a query answers is what it can have done. -/
def Possible : Action.Step → Prop
  | ⟨.inside (.query q), .ok row⟩ => ∃ v number change, q.Did v number row change
  | _ => True

theorem possible_idle {r : Request} {reply : r.Reply} (h : Idle r reply) :
    Possible ⟨.inside r, reply⟩ := by
  cases r with
  | query q =>
    obtain ⟨e, rfl⟩ := h
    trivial
  | _ => trivial

/-- The tally after a move, from what is recorded of it and from whether the task stays in its
transaction. -/
def Tally.moved (t : Tally) (stays : Prop) [Decidable stays] : Mark → Tally
  | .nothing => if stays then t else { t with current := [] }
  | .did deed => { t with current := t.current ++ [deed.success] }
  | .committed => { committed := t.committed ++ [t.current] }

/-- A move is answered by replies that a store can give, and they tell what is recorded of it. -/
theorem Moved.replied {s s' : Store} {a b : Stand α} {mark : Mark} (g : s.Guarded)
    (u : s.Underway a) (m : Moved s a mark s' b) (fresh : a.tx ≠ some s.nextTx) (t : Tally)
    (outside : a.tx = none → t.current = []) :
    ∃ steps, a.program.Trace steps b.program ∧ (∀ s ∈ steps, Possible s) ∧
      steps.foldl Tally.after t = t.moved (b.tx = a.tx) mark := by
  have one : ∀ {op : Action} {reply : op.Reply} {next : op.Reply → Program α} {t' : Tally},
      Possible ⟨op, reply⟩ → t.after ⟨op, reply⟩ = t' →
      ∃ steps, Dialogue.Trace (.ask op next) steps (next reply) ∧ (∀ s ∈ steps, Possible s) ∧
        steps.foldl Tally.after t = t' := fun possible told =>
    ⟨[⟨_, _⟩], .cons .nil, List.forall_mem_singleton.mpr possible, told⟩
  have quiet : ∃ steps, a.program.Trace steps a.program ∧ (∀ s ∈ steps, Possible s) ∧
      steps.foldl Tally.after t = t := ⟨[], .nil, fun _ h => (nomatch h), rfl⟩
  have strayed : a.tx = none → { t with current := [] } = t := fun h => by rw [← outside h]
  cases m with
  | answered idle => exact one (possible_idle idle) (by rw [after_idle idle]; simp [Tally.moved])
  | failed => exact one trivial (by simp [Tally.moved, Tally.after])
  | did w ends => exact one ⟨_, _, _, (g.succeed u w ends).2⟩ rfl
  | opened =>
    refine one trivial ?_
    rw [Tally.moved, if_neg fun e => fresh e.symm]
    rfl
  | refused => exact one trivial (by simp [Tally.moved, Tally.after])
  | published => exact one trivial rfl
  | broke => exact one trivial (by simp [Tally.moved, Tally.after])
  | rolledBack => exact one trivial (by simp [Tally.moved, Tally.after])
  | strayedCommit => exact one trivial (by simpa [Tally.moved, Tally.after] using strayed rfl)
  | strayedRollback => exact one trivial (by simpa [Tally.moved, Tally.after] using strayed rfl)
  | _ => simpa [Tally.moved] using quiet

-- ---------------------------------------------------------------------------
-- Following
-- ---------------------------------------------------------------------------

namespace System

variable {Name : Type} [DecidableEq Name] {Result : Name → Type} {sys sys' : System Result}
  {programs : (name : Name) → Program (Result name)}

/-- What has been done in the transaction that a task is in. -/
def currentOf (sys : System Result) : Option TxId → List Success
  | some tx => (sys.journals tx).map Deed.success
  | none => []

def committedBy (sys : System Result) (name : Name) : List (List Success) :=
  (sys.history.filter (·.author = name)).map (·.deeds.map Deed.success)

structure Traced (sys : System Result) (programs : (name : Name) → Program (Result name))
    (name : Name) (steps : List Action.Step) (rest : Program (Result name)) : Prop where
  trace : (programs name).Trace steps rest
  possible : ∀ s ∈ steps, Possible s
  here : ∀ p, sys.tasks name = some p →
    p.stand.program = rest ∧ sys.currentOf p.tx = (tally steps).current
  committed : sys.committedBy name = (tally steps).committed

theorem mem_committedBy {sys : System Result} {name : Name}
    {done : List Success} : done ∈ sys.committedBy name ↔
      ∃ c ∈ sys.history, c.author = name ∧ c.deeds.map Deed.success = done := by
  simp [committedBy, and_assoc]

/-- What a task has committed it has been told. -/
theorem Traced.told {c : Commit Name} {steps : List Action.Step}
    {rest : Program (Result c.author)} (traced : sys.Traced programs c.author steps rest)
    (hc : c ∈ sys.history) : c.deeds.map Deed.success ∈ (tally steps).committed :=
  traced.committed ▸ mem_committedBy.mpr ⟨c, hc, rfl, rfl⟩

/-- Every task follows its program. -/
def Follows (programs : (name : Name) → Program (Result name)) (sys : System Result) : Prop :=
  ∀ name, ∃ steps rest, sys.Traced programs name steps rest

theorem Follows.start (connections : Nat) : (start connections programs).Follows programs :=
  fun name => ⟨[], programs name, .nil, fun _ h => (nomatch h),
    fun p hp => by obtain rfl := Option.some.inj hp; exact ⟨rfl, rfl⟩, rfl⟩

theorem committedBy_took (sys : System Result) (name : Name) (p : Process (Result name)) :
    (sys.took name (some tx) .committed s' p).committedBy name =
      sys.committedBy name ++ [sys.currentOf (some tx)] := by
  simp [took, committedBy, currentOf]

theorem committedBy_took_same (sys : System Result) (p : Process (Result name))
    (h : mark ≠ .committed) :
    (sys.took name tx? mark s' p).committedBy name = sys.committedBy name := by
  unfold took committedBy
  dsimp only
  split
  · exact absurd rfl h
  · rfl

theorem committedBy_took_other (sys : System Result) {name other : Name}
    (p : Process (Result name)) (ne : other ≠ name) :
    (sys.took name tx? mark s' p).committedBy other = sys.committedBy other := by
  unfold took committedBy
  dsimp only
  split
  · simp [Ne.symm ne]
  · rfl

theorem tally_took (t : sys.Tidy) {name : Name} {p p' : Process (Result name)}
    (m : Moved sys.store p.stand mark s' p'.stand) :
    Tally.moved ⟨sys.committedBy name, sys.currentOf p.tx⟩ (p'.tx = p.tx) mark =
      ⟨(sys.took name p.tx mark s' p').committedBy name,
        (sys.took name p.tx mark s' p').currentOf p'.tx⟩ := by
  cases mark with
  | nothing =>
    have quiet : (sys.took name p.tx .nothing s' p').committedBy name = sys.committedBy name ∧
        ∀ tx?, (sys.took name p.tx .nothing s' p').currentOf tx? = sys.currentOf tx? := by
      cases p.tx <;> exact ⟨rfl, fun _ => rfl⟩
    rw [quiet.1, quiet.2, Tally.moved]
    split
    · next same => rw [same]
    · next moved =>
      have passage : Passage sys.store p.tx s' p'.tx := m.passage
      generalize p.tx = a at passage moved
      generalize p'.tx = b at passage moved
      cases passage with
      | within => exact absurd rfl moved
      | began => rw [currentOf, t.unwritten (Nat.le_refl _), List.map_nil]
      | ended => rfl
  | did deed =>
    obtain ⟨tx, htx, htx'⟩ := m.did_within
    rw [show p.tx = some tx from htx, show p'.tx = some tx from htx']
    simp [Tally.moved, took, committedBy, currentOf]
  | committed =>
    obtain ⟨tx, own, htx, htx', -⟩ := m.committed_ended
    rw [show p.tx = some tx from htx, show p'.tx = none from htx', committedBy_took]
    rfl

theorem Follows.happened (t : sys.Tidy) (g : sys.Guarded) (f : sys.Follows programs)
    (h : Happened sys sys') : sys'.Follows programs := by
  intro name
  obtain ⟨steps, rest, traced⟩ := f name
  cases h with
  | @moved mark next mover p p' task m =>
    by_cases hn : name = mover
    · subst hn
      have fresh : p.tx ≠ some sys.store.nextTx := fun h =>
        Nat.lt_irrefl _ (t.fresh (t.opened ((txOf_eq task).trans h)))
      obtain ⟨program, current⟩ := traced.here p task
      obtain ⟨more, trace, possible, told⟩ :=
        m.replied g.store (g.underway _ _ task) fresh ⟨sys.committedBy name, sys.currentOf p.tx⟩
          fun h => by rw [show p.tx = none from h]; rfl
      have tallied := told.trans (tally_took t m)
      rw [traced.committed, current] at tallied
      refine ⟨steps ++ more, _, traced.trace.trans (program ▸ trace), ?_, ?_, ?_⟩
      · exact fun s hs => (List.mem_append.mp hs).elim (traced.possible s) (possible s)
      · intro q hq
        obtain rfl : p' = q := by simpa [System.took] using hq
        rw [tally_append]
        exact ⟨rfl, (congrArg Tally.current tallied).symm⟩
      · rw [tally_append]
        exact (congrArg Tally.committed tallied).symm
    · refine ⟨steps, rest, traced.trace, traced.possible, fun q hq => ?_, ?_⟩
      · have hq : sys.tasks name = some q := by simpa [System.took, hn] using hq
        obtain ⟨program, current⟩ := traced.here q hq
        refine ⟨program, current ▸ ?_⟩
        cases htx : q.tx with
        | none => rfl
        | some tx =>
          have apart : p.tx ≠ some tx := fun h =>
            hn (t.apart ((txOf_eq hq).trans htx) ((txOf_eq task).trans h))
          rw [currentOf, currentOf, took_journals sys mover p' apart]
      · rw [committedBy_took_other _ _ hn]
        exact traced.committed
  | @cancelled tx dropped p task htx =>
    refine ⟨steps, rest, traced.trace, traced.possible, ?_, traced.committed⟩
    exact fun q hq => traced.here q (task_of_dropped hq).2
  | @left dropped p task htx =>
    refine ⟨steps, rest, traced.trace, traced.possible, ?_, traced.committed⟩
    exact fun q hq => traced.here q (task_of_dropped hq).2
  | armed => exact ⟨steps, rest, traced.trace, traced.possible, traced.here, traced.committed⟩

theorem follows_run (connections : Nat) (programs : (name : Name) → Program (Result name))
    (happenings : List (Happening Name)) :
    ((start connections programs).run happenings).Follows programs :=
  run_induction (Follows.start connections) (fun _ _ t g f h => f.happened t g h) happenings

end System

end Passbook.Store
