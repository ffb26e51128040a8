import Passbook.Proofs.Plan

/-!
# How far a plan gets

`advance` walks through a plan up to its end, to a lock that has to be waited for or to one that is
tried for (`advance_spec`). `Left` says what is known of the rest of a query's plan: whatever it can
come to the whole query could come to now, whatever others have committed meanwhile (`Left.spare`),
and so a query that took a while has done what it could have done in one go (`Left.succeed`).
-/

namespace Passbook.Store

-- ---------------------------------------------------------------------------
-- Walks
-- ---------------------------------------------------------------------------

/-- A way through a plan, with the locks `held`, on which nothing is waited for. -/
inductive Plan.Walk (v : View) (held : RowKey → Prop) :
    Sequences → Plan α → Sequences → Plan α → Prop
  | stay : Walk v held seqs plan seqs plan
  | look {next : View → Plan α} : Walk v held seqs (next v) seqs' rest →
      Walk v held seqs (.look next) seqs' rest
  | draw {kind : RowKind} {next : Id kind → Plan α} :
      Walk v held (seqs.draw kind).2 (next (seqs.draw kind).1) seqs' rest →
      Walk v held seqs (.draw kind next) seqs' rest
  | lock : held key → Walk v held seqs plan seqs' rest →
      Walk v held seqs (.lock key plan) seqs' rest

def moveOn (s : Store) (sequences : Sequences) : Store := { s with sequences }

def Holds (s : Store) (tx : TxId) (key : RowKey) : Prop := s.holder? key = some tx

/-- What is left of a plan that is about to succeed: the answer, or a change and then the answer. -/
inductive Plan.Ends : Plan α → α → Change → Prop
  | read : Ends (.finish (.ok row)) row .nothing
  | wrote : Ends (.stage change (.finish (.ok row))) row change

/-- The four ways in which `advance` ends. -/
inductive Advanced (s : Store) (tx : TxId) (now : Instant) (plan : Plan α) :
    Store × Turn α → Prop
  | failed : plan.Walk (s.view tx now) (s.Holds tx) s.sequences seqs (.finish (.error e)) →
      Advanced s tx now plan (s.moveOn seqs, .finished (.error e))
  | succeeded : plan.Walk (s.view tx now) (s.Holds tx) s.sequences seqs rest →
      rest.Ends row change →
      Advanced s tx now plan ((s.moveOn seqs).apply tx change, .finished (.ok row))
  | waits : plan.Walk (s.view tx now) (s.Holds tx) s.sequences seqs (.lock key rest) →
      ¬s.Holds tx key → Advanced s tx now plan (s.moveOn seqs, .locking key rest)
  | tries : plan.Walk (s.view tx now) (s.Holds tx) s.sequences seqs (.tryLock key next) →
      Advanced s tx now plan (s.moveOn seqs, .trying key next)

theorem Advanced.of_walk {plan plan' : Plan α} (h : Advanced (s.moveOn seqs) tx now plan' result)
    (walk : ∀ {seqs' rest}, plan'.Walk (s.view tx now) (s.Holds tx) seqs seqs' rest →
      plan.Walk (s.view tx now) (s.Holds tx) s.sequences seqs' rest) :
    Advanced s tx now plan result := by
  cases h with
  | failed w => exact .failed (walk w)
  | succeeded w ends => exact .succeeded (walk w) ends
  | waits w hk => exact .waits (walk w) hk
  | tries w => exact .tries (walk w)

theorem apply_nothing (s : Store) (tx : TxId) : s.apply tx .nothing = s := by
  simp [apply, Transaction.apply]

theorem advance_spec (s : Store) (tx : TxId) (now : Instant) (staged : plan.StagesLast) :
    Advanced s tx now plan (s.advance tx now plan) := by
  induction plan generalizing s with
  | finish result =>
    cases result with
    | error e => exact .failed .stay
    | ok row =>
      have h : Advanced s tx now (.finish (.ok row)) ((s.moveOn _).apply tx .nothing, _) :=
        .succeeded .stay .read
      rwa [apply_nothing] at h
  | look next ih =>
    have h : Advanced (s.moveOn s.sequences) tx now _ _ := ih (s.view tx now) s (staged _)
    exact h.of_walk .look
  | draw kind next ih =>
    have h := ih (s.sequences.draw kind).1 (s.moveOn (s.sequences.draw kind).2) (staged _)
    exact h.of_walk .draw
  | lock key rest ih =>
    by_cases hk : s.holder? key = some tx
    · simp only [advance, hk, if_true]
      have h : Advanced (s.moveOn s.sequences) tx now _ _ := ih s staged
      exact h.of_walk (.lock hk)
    · simp only [advance, hk, if_false]
      exact .waits .stay hk
  | tryLock key next _ => exact .tries .stay
  | stage change rest _ =>
    obtain ⟨row, rfl⟩ := staged
    have walk : (Plan.stage change (.finish (.ok row))).Walk (s.view tx now) (s.Holds tx)
      s.sequences s.sequences _ := .stay
    exact .succeeded walk .wrote

/-- A query that only reads is answered at once and leaves the store as it is. -/
theorem advance_read (s : Store) (tx : TxId) (now : Instant) (answer : View → Except Error α) :
    s.advance tx now (.read answer) = (s, .finished (answer (s.view tx now))) := by
  rw [Plan.read, advance, advance]

-- ---------------------------------------------------------------------------
-- Walks and the rules of plans
-- ---------------------------------------------------------------------------

namespace Plan

variable {v : View} {held : RowKey → Prop} {seqs seqs' : Sequences} {plan rest : Plan α}

theorem Patient.mono (h : plan.Patient held) (sub : ∀ k, held k → held' k) :
    plan.Patient held' := by
  induction plan generalizing held held' with
  | finish result => trivial
  | look next ih =>
    exact ⟨fun v => ih v (h.1 v) sub, fun v v' keyed keyed' own spared =>
      h.2 v v' keyed keyed' own (spared.mono sub)⟩
  | draw kind next ih => exact fun id => ih id (h id) sub
  | lock key rest ih => exact ih h fun k hk => hk.imp_right (sub k)
  | tryLock key next ih =>
    exact ⟨ih true h.1 fun k hk => hk.imp_right (sub k), ih false h.2 sub⟩
  | stage change rest ih => exact ih h sub

theorem Locks.relock (h : (lock key plan).Locks keys held) (hk : held key) :
    plan.Locks keys held :=
  Locks.mono h fun _ hk' => hk'.elim (· ▸ hk) fun hk => hk

theorem Patient.relock (h : (lock key plan).Patient held) (hk : held key) : plan.Patient held :=
  Patient.mono h fun _ hk' => hk'.elim (· ▸ hk) fun hk => hk

theorem StagesLast.walk (h : plan.StagesLast) (w : plan.Walk v held seqs seqs' rest) :
    rest.StagesLast := by
  induction w with
  | stay => exact h
  | look _ ih => exact ih (h v)
  | draw _ ih => exact ih (h _)
  | lock _ _ ih => exact ih h

theorem Locks.walk (h : plan.Locks keys held) (hv : v.Keyed)
    (w : plan.Walk v held seqs seqs' rest) : rest.Locks keys held := by
  induction w with
  | stay => exact h
  | look _ ih => exact ih (h v hv)
  | draw _ ih => exact ih (h _)
  | lock hk _ ih => exact ih (h.relock hk)

theorem Patient.walk (h : plan.Patient held) (w : plan.Walk v held seqs seqs' rest) :
    rest.Patient held := by
  induction w with
  | stay => exact h
  | look _ ih => exact ih (h.1 v)
  | draw _ ih => exact ih (h _)
  | lock hk _ ih => exact ih (h.relock hk)

theorem Walk.waits (w : plan.Walk v held seqs seqs' rest) (h : rest.Waits) : plan.Waits := by
  induction w with
  | stay => exact h
  | look _ ih => exact ⟨v, ih h⟩
  | draw _ ih => exact ⟨_, ih h⟩
  | lock _ _ _ => trivial

/-- What has been drawn before and after a walk: the same, or one number more. -/
inductive Drew (seqs : Sequences) (drawn : Option Number) : Sequences → Option Number → Prop
  | nothing : Drew seqs drawn seqs drawn
  | number (kind : RowKind) : drawn = none →
      Drew seqs drawn (seqs.draw kind).2 (some ⟨kind, (seqs.draw kind).1⟩)

theorem Drew.extend {number : Store.Numbers} (d : Drew seqs drawn seqs' drawn')
    (h : number.Extend drawn') : number.Extend drawn := by
  cases d with
  | nothing => exact h
  | number kind hd => rintro _ _ hd'; rw [hd] at hd'; cases hd'

theorem Numbers.walk (h : plan.Numbers name drawn) (w : plan.Walk v held seqs seqs' rest) :
    ∃ drawn', rest.Numbers name drawn' ∧ Drew seqs drawn seqs' drawn' ∧
      ∀ number : Store.Numbers, number.Extend drawn' → ∀ row change,
        rest.Succeeds v number row change → plan.Succeeds v number row change := by
  induction w generalizing drawn with
  | stay => exact ⟨drawn, h, .nothing, fun _ _ _ _ succeeds => succeeds⟩
  | look _ ih => exact ih (h v)
  | @draw _ _ _ _ kind _ _ ih =>
    obtain ⟨hnone, hnext⟩ := h
    obtain ⟨drawn', hrest, drew, same⟩ := ih (hnext _)
    cases drew with
    | nothing =>
      refine ⟨_, hrest, .number kind hnone, fun number hn row change succeeds => ?_⟩
      obtain ⟨tries, done⟩ := same number hn row change succeeds
      exact ⟨tries, by rwa [outcome, hn kind _ rfl]⟩
    | number _ hd => cases hd
  | lock _ _ ih => exact ih h

/-- A walk to where the plan waits leads to what it could come to after others have committed. -/
theorem Walk.spared (w : plan.Walk v held seqs seqs' rest) (keyed : v.Keyed)
    (hp : plan.Patient held) (hn : plan.Numbers name drawn) (wait : rest.Waits) :
    ∃ drawn', rest.Numbers name drawn' ∧ Drew seqs drawn seqs' drawn' ∧
      ∀ v' : View, v'.Keyed → v'.own = v.own → Tables.Spared held v.committed v'.committed →
        ∀ number : Store.Numbers, number.Extend drawn' → ∀ row change,
          rest.Succeeds v' number row change → plan.Succeeds v' number row change := by
  induction w generalizing drawn with
  | stay => exact ⟨drawn, hn, .nothing, fun _ _ _ _ _ _ _ _ succeeds => succeeds⟩
  | look w ih =>
    obtain ⟨drawn', hrest, drew, same⟩ := ih (hp.1 v) (hn v) wait
    refine ⟨drawn', hrest, drew, fun v' keyed' own spared number hext row change succeeds => ?_⟩
    exact hp.2 v v' keyed keyed' own spared (w.waits wait) number row change
      (same v' keyed' own spared number hext row change succeeds)
  | @draw _ _ _ _ kind _ _ ih =>
    obtain ⟨hnone, hnext⟩ := hn
    obtain ⟨drawn', hrest, drew, same⟩ := ih (hp _) (hnext _) wait
    cases drew with
    | nothing =>
      refine ⟨_, hrest, .number kind hnone,
        fun v' keyed' own spared number hext row change succeeds => ?_⟩
      obtain ⟨tries, done⟩ := same v' keyed' own spared number hext row change succeeds
      exact ⟨tries, by rwa [outcome, hext kind _ rfl]⟩
    | number _ hd => cases hd
  | lock hk _ ih => exact ih (hp.relock hk) hn wait

theorem Ends.succeeds {number : Store.Numbers} (e : rest.Ends row change) :
    rest.Succeeds v number row change := by
  cases e with
  | read => exact ⟨[], rfl⟩
  | wrote => exact ⟨[], rfl⟩

theorem Ends.numbers (e : rest.Ends row change) (h : rest.Numbers name drawn) :
    name row = drawn := by
  cases e with
  | read => exact h
  | wrote => exact h

theorem Ends.locked (e : rest.Ends row change) (h : rest.Locks keys held) :
    ∀ key, key ∈ keys row ∨ key ∈ change.keys → held key := by
  cases e with
  | read => exact fun key hk => hk.elim (h key) fun hk => nomatch hk
  | wrote => exact fun key hk => hk.elim (h.2 key) (h.1 key)

end Plan

-- ---------------------------------------------------------------------------
-- What is left of a query
-- ---------------------------------------------------------------------------

/-- `plan` is what is left of a query once the lock `awaited` is there. So far the transaction has
the locks `held`, sees its rows `own` before the rows `committed`, and has drawn a number. -/
structure Left (q : Query) (plan : Plan q.Row) (awaited : Option RowKey) (held : RowKey → Prop)
    (committed : Tables) (own : Transaction) (drawn : Option Number) : Prop where
  locks : plan.Locks q.locks fun key => awaited = some key ∨ held key
  patient : plan.Patient fun key => awaited = some key ∨ held key
  numbers : plan.Numbers q.number? drawn
  same : ∀ v : View, v.Keyed → v.own = own → Tables.Spared held committed v.committed →
    ∀ number : Numbers, number.Extend drawn → ∀ row change,
      plan.Succeeds v number row change → q.plan.Succeeds v number row change

namespace Left

variable {q : Query} {plan : Plan q.Row} {held held' : RowKey → Prop} {committed : Tables}
  {own : Transaction} {drawn : Option Number} {v : View}

theorem start (q : Query) (held : RowKey → Prop) (committed : Tables) (own : Transaction) :
    Left q q.plan none held committed own none where
  locks := q.plan_locks.mono fun _ h => h.elim
  patient := q.plan_patient.mono fun _ h => h.elim
  numbers := q.plan_numbers
  same _ _ _ _ _ _ _ _ succeeds := succeeds

theorem spare (l : Left q plan awaited held committed own drawn)
    (h : Tables.Spared held committed committed') :
    Left q plan awaited held committed' own drawn :=
  { l with same := fun v keyed hv spared => l.same v keyed hv (h.trans spared) }

theorem hold (l : Left q plan awaited held committed own drawn) (h : ∀ key, held key → held' key) :
    Left q plan awaited held' committed own drawn where
  locks := l.locks.mono fun key hk => hk.imp_right (h key)
  patient := l.patient.mono fun key hk => hk.imp_right (h key)
  numbers := l.numbers
  same v keyed hv spared := l.same v keyed hv (spared.mono h)

theorem grant (l : Left q plan (some key) held committed own drawn)
    (h : ∀ k, k = key ∨ held k → held' k) : Left q plan none held' committed own drawn where
  locks := l.locks.mono fun k hk => .inr (h k (hk.imp_left fun e => (Option.some.inj e).symm))
  patient := l.patient.mono fun k hk => .inr (h k (hk.imp_left fun e => (Option.some.inj e).symm))
  numbers := l.numbers
  same v keyed hv spared := l.same v keyed hv (spared.mono fun k hk => h k (.inr hk))

theorem bare (l : Left q plan none held committed own drawn) :
    plan.Locks q.locks held ∧ plan.Patient held :=
  ⟨l.locks.mono fun _ h => h.elim (fun e => nomatch e) fun hk => hk,
    l.patient.mono fun _ h => h.elim (fun e => nomatch e) fun hk => hk⟩

/-- On the way to where a query waits or tries for a lock nothing is lost. -/
theorem walk {rest : Plan q.Row} (l : Left q plan none held v.committed v.own drawn)
    (keyed : v.Keyed) (w : plan.Walk v held seqs seqs' rest) (waits : rest.Waits) :
    ∃ drawn', Plan.Drew seqs drawn seqs' drawn' ∧
      Left q rest none held v.committed v.own drawn' := by
  obtain ⟨drawn', numbers, drew, same⟩ := w.spared keyed l.bare.2 l.numbers waits
  refine ⟨drawn', drew, (l.bare.1.walk keyed w).mono fun k hk => .inr hk,
    (l.bare.2.walk w).mono fun k hk => .inr hk, numbers,
    fun v' keyed' own spared number hn row change succeeds => ?_⟩
  exact l.same v' keyed' own spared number (drew.extend hn) row change
    (same v' keyed' own spared number hn row change succeeds)

/-- A query that comes to a lock waits for it. -/
theorem await {rest : Plan q.Row} (l : Left q (.lock key rest) none held committed own drawn) :
    Left q rest (some key) held committed own drawn where
  locks := Plan.Locks.mono l.bare.1 fun k hk => hk.imp_left fun e => by rw [e]
  patient := Plan.Patient.mono l.bare.2 fun k hk => hk.imp_left fun e => by rw [e]
  numbers := l.numbers
  same := l.same

/-- A query that has tried for a lock goes on either way. -/
theorem tried {next : Bool → Plan q.Row}
    (l : Left q (.tryLock key next) none held committed own drawn) (got : Bool)
    (h : ∀ k, got = true ∧ k = key ∨ held k → held' k) :
    Left q (next got) none held' committed own drawn where
  locks := by
    cases got with
    | true => exact l.bare.1.1.mono fun k hk => .inr (h k (hk.imp_left fun e => ⟨rfl, e⟩))
    | false => exact l.bare.1.2.mono fun k hk => .inr (h k (.inr hk))
  patient := by
    cases got with
    | true => exact l.bare.2.1.mono fun k hk => .inr (h k (hk.imp_left fun e => ⟨rfl, e⟩))
    | false => exact l.bare.2.2.mono fun k hk => .inr (h k (.inr hk))
  numbers := l.numbers got
  same v keyed own spared number hn row change := by
    rintro ⟨tries, done⟩
    have spared := spared.mono fun k hk => h k (.inr hk)
    exact l.same v keyed own spared number hn row change ⟨got :: tries, done⟩

/-- A query that has succeeded has locked what it names and writes, and has done what it could
have done in one go, with the number that its row has. -/
theorem succeed {rest : Plan q.Row} (l : Left q plan none held v.committed v.own drawn)
    (keyed : v.Keyed) (w : plan.Walk v held seqs seqs' rest) (ends : rest.Ends row change) :
    Plan.Drew seqs drawn seqs' (q.number? row) ∧
      (∀ key, key ∈ q.locks row ∨ key ∈ change.keys → held key) ∧
      q.Did v (.assign (q.number? row)) row change := by
  obtain ⟨drawn', numbers, drew, same⟩ := l.numbers.walk w
  obtain rfl := ends.numbers numbers
  have extend := Numbers.assign_extend (q.number? row)
  refine ⟨drew, ends.locked (l.bare.1.walk keyed w), Query.did keyed ?_⟩
  exact l.same v keyed rfl (.refl _) _ (drew.extend extend) row change
    (same _ extend row change ends.succeeds)

end Left

end Passbook.Store
