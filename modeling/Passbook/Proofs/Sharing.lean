import Mathlib.Algebra.BigOperators.Finprod
import Passbook.Proofs.Dispatching

/-!
# Passes share an outbox

However many passes work on one outbox at once, a message that one of them has claimed is left alone
by the others until the transaction of the claim ends. Every attempt is made in one commit, and that
commit is reported by the pass that made it, so that the reports of all passes add up to what the
rows say (`sharedOutbox_run`).
-/

namespace Passbook

open Outbox Store System Work

-- ---------------------------------------------------------------------------
-- Sums by key
-- ---------------------------------------------------------------------------

section
variable {α κ : Type} [DecidableEq κ] (key : α → κ) (amount : α → Nat)

theorem sum_filter_cons (a : α) (rest : List α) (k : κ) :
    (((a :: rest).filter (key · = k)).map amount).sum =
      (if key a = k then amount a else 0) + ((rest.filter (key · = k)).map amount).sum := by
  by_cases h : key a = k <;> simp [h]

/-- Key by key, everything is added up once. -/
theorem sum_by_key {l : List α} {keys : Finset κ} (covered : ∀ a ∈ l, key a ∈ keys) :
    ∑ k ∈ keys, ((l.filter (key · = k)).map amount).sum = (l.map amount).sum := by
  induction l with
  | nil => simp
  | cons a rest ih =>
    have there := ih fun a ha => covered a (List.mem_cons_of_mem _ ha)
    simp only [sum_filter_cons, Finset.sum_add_distrib, Finset.sum_ite_eq, there, List.map_cons,
      List.sum_cons, if_pos (covered a List.mem_cons_self)]

theorem sum_two_keys (l : List α) {k k' : κ} (apart : k ≠ k') :
    ((l.filter (key · = k)).map amount).sum + ((l.filter (key · = k')).map amount).sum ≤
      (l.map amount).sum := by
  induction l with
  | nil => simp
  | cons a rest ih =>
    have once : ¬(key a = k ∧ key a = k') := fun ⟨h, h'⟩ => apart (h.symm.trans h')
    rw [sum_filter_cons, sum_filter_cons, List.map_cons, List.sum_cons]
    split <;> split <;> first | omega | exact absurd ⟨‹_›, ‹_›⟩ once

end

theorem countP_eq_sum (p : α → Bool) (l : List α) :
    l.countP p = (l.map fun a => if p a then 1 else 0).sum := by
  induction l with
  | nil => rfl
  | cons a rest ih => rw [List.countP_cons, List.map_cons, List.sum_cons, ih, Nat.add_comm]

-- ---------------------------------------------------------------------------
-- What a pass reports
-- ---------------------------------------------------------------------------

def Store.Process.isFinished (p : Process α) : Bool :=
  match p.phase with
  | .finished _ => true
  | _ => false

namespace Party

/-- What a pass has returned. -/
def reported : (party : Party) → Option (Process party.Result) → Option Report
  | pass _, some ⟨_, .finished (.ok report)⟩ => some report
  | _, _ => none

variable {party : Party} {d : Dispatch} {steps : List Action.Step}

theorem reported_none (party : Party) : party.reported none = none := by
  cases party <;> rfl

theorem pass_or_silent (party : Party) :
    (∃ d, party = .pass d) ∨ AsksOnly (·.verdict? = none) party.program ∧
      ∀ p?, party.reported p? = none := by
  cases party with
  | pass d => exact .inl ⟨d, rfl⟩
  | other program unmarked => exact .inr ⟨unmarked, fun p? => by cases p? <;> rfl⟩

/-- A pass that has returned a report has committed what it reports. -/
theorem reported_committed {p : Process party.Result} (hp : party = .pass d)
    (h : party.program.Trace steps p.stand.program)
    (returned : party.reported (some p) = some report) :
    ∃ done, (tally steps).committed = [done] ∧
      report = Report.of ((verdictsOf done).map Prod.snd) := by
  subst hp
  obtain ⟨tx, phase⟩ := p
  cases phase with
  | finished outcome =>
    cases outcome with
    | ok report' =>
      obtain rfl := Option.some.inj returned
      rcases pass_committed h with ⟨-, no⟩ | ⟨done, -, one, asks | returns⟩
      · exact absurd rfl (no _)
      · cases asks
      · cases returns
        exact ⟨done, one, rfl⟩
    | error e => cases returned
  | _ => cases returned

/-- A pass that has committed and returned has reported what it has committed. -/
theorem committed_reported {p : Process party.Result} (hp : party = .pass d)
    (h : party.program.Trace steps p.stand.program) (finished : p.isFinished) :
    ((tally steps).committed = [] ∧ party.reported (some p) = none) ∨
      ∃ done, (tally steps).committed = [done] ∧
        party.reported (some p) = some (Report.of ((verdictsOf done).map Prod.snd)) := by
  subst hp
  obtain ⟨tx, phase⟩ := p
  cases phase with
  | finished outcome =>
    rcases pass_committed h with ⟨nothing, no⟩ | ⟨done, -, one, asks | returns⟩
    · cases outcome with
      | ok report => exact absurd rfl (no report)
      | error e => exact .inl ⟨nothing, rfl⟩
    · cases asks
    · cases returns
      exact .inr ⟨done, one, rfl⟩
  | _ => cases finished

end Party

namespace Store

def Commit.verdicts {Name : Type} (c : Commit Name) : List (OutboxId × Verdict) :=
  verdictsOf (c.deeds.map Deed.success)

namespace System

variable {Name : Type} [DecidableEq Name] {parties : Name → Party}
  {sys sys' : System fun name => (parties name).Result}

/-- What a pass has returned. -/
def reported (sys : System fun name => (parties name).Result) (name : Name) : Option Report :=
  (parties name).reported (sys.tasks name)

def report (sys : System fun name => (parties name).Result) (name : Name) : Report :=
  (sys.reported name).getD {}

/-- The verdicts in the commits of a task. -/
def verdictsBy (sys : System fun name => (parties name).Result) (name : Name) :
    List (OutboxId × Verdict) :=
  (sys.history.filter (·.author = name)).flatMap Commit.verdicts

/-- No pass is between its commit and its return. A pass does not wait there, so that it cannot be
dropped there either. -/
def AtRest (sys : System fun name => (parties name).Result) : Prop :=
  ∀ name d, parties name = .pass d → sys.committedBy name ≠ [] →
    (sys.tasks name).any Process.isFinished

theorem verdictsBy_eq (sys : System fun name => (parties name).Result) (name : Name) :
    sys.verdictsBy name = (sys.committedBy name).flatMap verdictsOf := by
  rw [verdictsBy, committedBy, List.flatMap_map]
  rfl

/-- When no pass is between its commit and its return, all that was committed is reported. -/
theorem Follows.report_eq (f : sys.Follows fun name => (parties name).program) (rest : sys.AtRest)
    (name : Name) : sys.report name = Report.of ((sys.verdictsBy name).map Prod.snd) := by
  rcases (parties name).pass_or_silent with ⟨d, hp⟩ | ⟨unmarked, silent⟩
  · rw [verdictsBy_eq]
    obtain ⟨steps, left, traced⟩ := f name
    have settled := rest name d hp
    cases task : sys.tasks name with
    | none =>
      have nothing : sys.committedBy name = [] := by
        by_contra some
        simpa [task] using settled some
      rw [nothing, report, reported, task, Party.reported_none]
      rfl
    | some p =>
      have trace := (traced.here p task).1 ▸ traced.trace
      rw [report, reported, task, traced.committed]
      by_cases nothing : (tally steps).committed = []
      · rw [nothing]
        cases returned : (parties name).reported (some p) with
        | none => rfl
        | some r =>
          obtain ⟨done, one, -⟩ := Party.reported_committed hp trace returned
          simp [one] at nothing
      · have finished : p.isFinished := by simpa [task] using settled (traced.committed ▸ nothing)
        rcases Party.committed_reported hp trace finished with ⟨none, -⟩ | ⟨done, one, returned⟩
        · exact absurd none nothing
        · rw [returned, one]
          simp
  · have nothing : sys.verdictsBy name = [] := by
      refine List.flatMap_eq_nil_iff.mpr fun c hc => List.filterMap_eq_nil_iff.mpr ?_
      obtain ⟨mem, author⟩ := List.mem_filter.mp hc
      obtain rfl : c.author = name := of_decide_eq_true author
      intro s hs
      obtain ⟨d, hd, rfl⟩ := List.mem_map.mp hs
      exact f.committed_asked unmarked mem d hd
    rw [nothing, report, reported, silent]
    rfl

/-- A pass that has returned a report has committed once, and that is what it reports. -/
theorem Follows.reported_eq {name : Name} {report : Report}
    (f : sys.Follows fun name => (parties name).program) (h : sys.reported name = some report) :
    ∃ c ∈ sys.history, sys.verdictsBy name = c.verdicts ∧
      report = Report.of (c.verdicts.map Prod.snd) := by
  rcases (parties name).pass_or_silent with ⟨d, hp⟩ | ⟨-, silent⟩
  · obtain ⟨steps, left, traced⟩ := f name
    cases task : sys.tasks name with
    | none =>
      rw [reported, task, Party.reported_none] at h
      exact nomatch h
    | some p =>
      rw [reported, task] at h
      obtain ⟨done, one, rfl⟩ :=
        Party.reported_committed hp ((traced.here p task).1 ▸ traced.trace) h
      have committed := traced.committed.trans one
      have mem : done ∈ sys.committedBy name := by
        rw [committed]
        exact List.mem_singleton_self _
      obtain ⟨c, hc, -, rfl⟩ := mem_committedBy.mp mem
      rw [verdictsBy_eq, committed, List.flatMap_singleton]
      exact ⟨c, hc, rfl, rfl⟩
  · rw [reported, silent] at h
    exact nomatch h

-- ---------------------------------------------------------------------------
-- Sums
-- ---------------------------------------------------------------------------

omit [DecidableEq Name] in
theorem verdicts_history (history : List (Commit Name)) :
    history.flatMap Commit.verdicts = verdictsOf ((deedsOf history).map Deed.success) := by
  rw [deedsOf, List.map_flatMap, verdictsOf, List.filterMap_flatMap]
  rfl

/-- All reports together are all verdicts that were committed. -/
theorem Follows.sum_reports {count : Report → Nat} {p : Verdict → Bool}
    (f : sys.Follows fun name => (parties name).program) (rest : sys.AtRest)
    (counts : ∀ verdicts, count (.of verdicts) = verdicts.countP p) :
    ∑ᶠ name, count (sys.report name) =
      (verdictsOf ((deedsOf sys.history).map Deed.success)).countP fun v => p v.2 := by
  have report : ∀ name, count (sys.report name) =
      ((sys.history.filter (·.author = name)).map fun c =>
        c.verdicts.countP fun v => p v.2).sum := by
    intro name
    rw [f.report_eq rest, counts, List.countP_map, verdictsBy, List.countP_flatMap]
    rfl
  have authors : (Function.support fun name => count (sys.report name)) ⊆
      ↑(sys.history.map (·.author)).toFinset := by
    intro name some
    by_contra none
    refine some ?_
    have nothing : sys.history.filter (·.author = name) = [] := by
      refine List.filter_eq_nil_iff.mpr fun c hc author => none ?_
      simpa using ⟨c, hc, of_decide_eq_true author⟩
    simp only [report, nothing]
    rfl
  have covered : ∀ c ∈ sys.history, c.author ∈ (sys.history.map (·.author)).toFinset :=
    fun c hc => List.mem_toFinset.mpr (List.mem_map_of_mem hc)
  calc ∑ᶠ name, count (sys.report name)
    _ = ∑ name ∈ (sys.history.map (·.author)).toFinset, count (sys.report name) :=
        finsum_eq_sum_of_support_subset _ authors
    _ = (sys.history.map fun c => c.verdicts.countP fun v => p v.2).sum := by
        simp only [report]
        exact sum_by_key _ _ covered
    _ = (verdictsOf ((deedsOf sys.history).map Deed.success)).countP fun v => p v.2 := by
        rw [← verdicts_history, List.countP_flatMap]
        rfl

omit [DecidableEq Name] in
/-- Row by row, all verdicts that were committed are there once. -/
theorem Told.sum_rows (told : sys.Told parties) (keyed : sys.store.committed.Keyed)
    (p : Verdict → Bool) :
    (verdictsOf ((deedsOf sys.history).map Deed.success)).countP (fun v => p v.2) =
      (sys.store.committed.messages.values.map fun row =>
        (verdictsOn row.id (deedsOf sys.history)).countP p).sum := by
  have distinct := Table.nodup_values keyed.messages
  have covered : ∀ v ∈ verdictsOf ((deedsOf sys.history).map Deed.success),
      v.1 ∈ (sys.store.committed.messages.values.map Message.id).toFinset := by
    intro v hv
    rw [List.mem_toFinset]
    have here : v.2 ∈ verdictsOn v.1 (deedsOf sys.history) :=
      List.mem_filterMap.mpr ⟨v, hv, if_pos rfl⟩
    obtain ⟨row, found, -⟩ := told.found here
    exact keyed.messages found ▸ List.mem_map_of_mem (Table.mem_values.mpr ⟨_, found⟩)
  have on : ∀ id, (verdictsOn id (deedsOf sys.history)).countP p =
      (((verdictsOf ((deedsOf sys.history).map Deed.success)).filter (·.1 = id)).map
        fun v => if p v.2 then 1 else 0).sum := by
    intro id
    rw [verdictsOn, List.countP_filterMap, ← countP_eq_sum, List.countP_filter]
    congr
    funext v
    by_cases h : v.1 = id <;> simp [h]
  calc (verdictsOf ((deedsOf sys.history).map Deed.success)).countP (fun v => p v.2)
    _ = _ := (countP_eq_sum ..).trans (sum_by_key (fun v => v.1) _ covered).symm
    _ = ∑ id ∈ (sys.store.committed.messages.values.map Message.id).toFinset,
          (verdictsOn id (deedsOf sys.history)).countP p := by simp only [on]
    _ = _ := by
        rw [List.sum_toFinset _ distinct, List.map_map]
        rfl

/-- When no pass is between its commit and its return, the reports add up to what the rows say. -/
theorem Told.sum_reports {count : Report → Nat} {p : Verdict → Bool} {amount : Message → Nat}
    (told : sys.Told parties) (keyed : sys.store.committed.Keyed)
    (f : sys.Follows fun name => (parties name).program) (rest : sys.AtRest)
    (counts : ∀ verdicts, count (.of verdicts) = verdicts.countP p)
    (tells : ∀ row verdicts, Tells (Used parties) row verdicts → verdicts.countP p = amount row) :
    ∑ᶠ name, count (sys.report name) = (sys.store.committed.messages.values.map amount).sum := by
  rw [f.sum_reports rest counts, told.sum_rows keyed]
  congr 1
  refine List.map_congr_left fun row mem => tells row _ ?_
  obtain ⟨id, found⟩ := Table.mem_values.mp mem
  obtain rfl : row.id = id := keyed.messages found
  exact told.row found

-- ---------------------------------------------------------------------------
-- Once and for all
-- ---------------------------------------------------------------------------

omit [DecidableEq Name] in
theorem verdictsOn_deedsOf (id : OutboxId) (history : List (Commit Name)) :
    verdictsOn id (deedsOf history) = history.flatMap fun c => verdictsOn id c.deeds := by
  rw [verdictsOn, ← verdicts_history, List.filterMap_flatMap]
  rfl

omit [DecidableEq Name] in
theorem mem_verdictsOn {id : OutboxId} {deeds : List Deed} {v : Verdict} :
    v ∈ verdictsOn id deeds ↔ (id, v) ∈ verdictsOf (deeds.map Deed.success) := by
  simp [verdictsOn, List.mem_filterMap]

omit [DecidableEq Name] in
/-- A commit that has handled no message twice has verdicts on different messages. -/
theorem nodup_verdicts {c : Commit Name} (once : ∀ id, (verdictsOn id c.deeds).length ≤ 1) :
    (c.verdicts.map Prod.fst).Nodup := by
  refine List.nodup_iff_count_le_one.mpr fun id => le_of_eq_of_le ?_ (once id)
  rw [verdictsOn, List.length_filterMap_eq_countP, List.count_eq_countP, List.countP_map]
  refine List.countP_congr fun v _ => ?_
  by_cases h : v.1 = id <;> simp [h]

omit [DecidableEq Name] in
/-- A message is delivered or given up at most once. -/
theorem Told.final (told : sys.Told parties) (id : OutboxId) :
    (verdictsOn id (deedsOf sys.history)).countP (· ≠ .retried) ≤ 1 := by
  cases verdicts : verdictsOn id (deedsOf sys.history) with
  | nil => exact Nat.zero_le 1
  | cons v rest =>
    obtain ⟨row, -, tells⟩ := told.found (verdicts ▸ List.mem_cons_self)
    rw [← verdicts, tells.final _ (by decide)]
    cases row.status <;> decide

/-- A verdict that is no retry is what the row says. -/
theorem Told.last {name : Name} {id : OutboxId} {v : Verdict} (told : sys.Told parties)
    (mem : (id, v) ∈ sys.verdictsBy name) (hv : v ≠ .retried) :
    ∃ row, sys.store.committed.messages.get? id = some row ∧ lastVerdict row.status = [v] := by
  have here : v ∈ verdictsOn id (deedsOf sys.history) := by
    obtain ⟨c, hc, mem⟩ := List.mem_flatMap.mp mem
    rw [verdictsOn_deedsOf]
    exact List.mem_flatMap.mpr ⟨c, (List.mem_filter.mp hc).1, mem_verdictsOn.mpr mem⟩
  obtain ⟨row, found, tells⟩ := told.found here
  exact ⟨row, found, tells.last here hv⟩

/-- Not two tasks have committed that a message was delivered or given up. -/
theorem Told.concluded {name other : Name} {id : OutboxId} {v v' : Verdict}
    (told : sys.Told parties) (here : (id, v) ∈ sys.verdictsBy name)
    (there : (id, v') ∈ sys.verdictsBy other) (last : v ≠ .retried) (last' : v' ≠ .retried) :
    name = other ∧ v = v' := by
  let concludes := fun c : Commit Name => (verdictsOn id c.deeds).countP (· ≠ .retried)
  have total : (sys.history.map concludes).sum ≤ 1 := by
    have final := told.final id
    rw [verdictsOn_deedsOf, List.countP_flatMap] at final
    exact final
  have one : ∀ {name v}, (id, v) ∈ sys.verdictsBy name → v ≠ .retried →
      1 ≤ ((sys.history.filter (·.author = name)).map concludes).sum := by
    intro name v mem last
    obtain ⟨c, hc, hv⟩ := List.mem_flatMap.mp mem
    have here : 1 ≤ concludes c :=
      List.one_le_countP_iff.mpr ⟨v, mem_verdictsOn.mpr hv, decide_eq_true last⟩
    exact here.trans (List.le_sum_of_mem (List.mem_map_of_mem hc))
  constructor
  · -- Two tasks have different commits, and one verdict each would be two.
    by_contra apart
    have both := sum_two_keys (·.author) concludes sys.history apart
    have := one here last
    have := one there last'
    omega
  · obtain ⟨row, found, one⟩ := told.last here last
    obtain ⟨row', found', one'⟩ := told.last there last'
    obtain rfl := Option.some.inj (found.symm.trans found')
    exact (List.cons.inj (one.symm.trans one')).1

-- ---------------------------------------------------------------------------
-- Runs
-- ---------------------------------------------------------------------------

variable (connections : Nat) (parties : Name → Party)

/-- What passes do at once, from one state to a later one. The sums are over all tasks; those that
have returned no report count for nothing. -/
structure SharedOutbox (before after : System fun name => (parties name).Result) : Prop where
  /-- What a task has claimed stays claimed as long as the transaction is open. -/
  kept : ∀ {name tx now m}, before.txOf name = some tx → after.txOf name = some tx →
    (now, m) ∈ before.claims name → (now, m) ∈ after.claims name
  claimed : ∀ {name other d d' now now' m m'}, parties name = .pass d → parties other = .pass d' →
    (now, m) ∈ after.claims name → (now', m') ∈ after.claims other → m.id = m'.id → name = other
  /-- Its lock is that of the task alone. Nobody else has got it, even in the midst of a claim. -/
  locked : ∀ {name d now m}, parties name = .pass d → (now, m) ∈ after.claims name →
    ∀ tx, after.store.Holds tx (.outbox m.id) ↔ after.txOf name = some tx
  handed : ∀ {name other d d' now m m'}, parties name = .pass d → parties other = .pass d' →
    (now, m) ∈ after.claims name → after.Delivers other m' → m.id = m'.id → name = other
  /-- A pass that has returned a report has counted every message that it has handled once. -/
  reported : ∀ {name report}, after.reported name = some report →
    report = Report.of ((after.verdictsBy name).map Prod.snd) ∧
      ((after.verdictsBy name).map Prod.fst).Nodup
  concluded : ∀ {name other id v v'}, (id, v) ∈ after.verdictsBy name →
    (id, v') ∈ after.verdictsBy other → v ≠ .retried → v' ≠ .retried → name = other ∧ v = v'
  delivered : after.AtRest → ∑ᶠ name, (after.report name).delivered =
    after.store.committed.messages.values.countP (·.status = .delivered)
  deadLettered : after.AtRest → ∑ᶠ name, (after.report name).deadLettered =
    after.store.committed.messages.values.countP (·.status = .deadLettered)
  processed : after.AtRest → ∑ᶠ name, (after.report name).processed =
    (after.store.committed.messages.values.map (·.attempts.toNat)).sum

/-- However passes and other programs are interleaved, no two passes work on the same message at the
same time, and what the passes report is what has become of the messages. -/
theorem sharedOutbox_run (earlier later : List (Happening Name)) :
    let after := fun happenings => (ofParties connections parties).run happenings
    (after (earlier ++ later)).Enough →
      SharedOutbox parties (after earlier) (after (earlier ++ later)) := by
  intro after enough
  have told : (after (earlier ++ later)).Told parties := told_run connections parties _ enough
  have attended : (after (earlier ++ later)).Attended parties := attended_run ..
  have tidy : (after (earlier ++ later)).Tidy := tidy_run ..
  have guarded : (after (earlier ++ later)).Guarded := guarded_run ..
  have claimed : ∀ {name other d d' now now' m m'}, parties name = .pass d →
      parties other = .pass d' → (now, m) ∈ (after (earlier ++ later)).claims name →
      (now', m') ∈ (after (earlier ++ later)).claims other → m.id = m'.id → name = other :=
    fun hp hp' => attended.claiming.exclusive tidy (attended.follows.passing hp)
      (attended.follows.passing hp')
  exact {
    kept := fun {name tx now m} htx htx' claims => by
      obtain ⟨more, journal⟩ : (after earlier).journals tx <+:
        (after (earlier ++ later)).journals tx := journal_run ..
      obtain ⟨tx', htx'', mem⟩ := claims_eq_some.mp claims
      obtain rfl := Option.some.inj (htx''.symm.trans htx)
      refine claims_eq_some.mpr ⟨_, htx', ?_⟩
      rw [← journal, claimedIn, List.flatMap_append]
      exact List.mem_append_left _ mem
    claimed := claimed
    locked := fun hp claims tx => by
      obtain ⟨own, htx, held, -⟩ :=
        attended.claiming.claimed tidy (attended.follows.passing hp) claims
      rw [htx]
      exact ⟨fun holds => congrArg some (held.unique holds),
        fun same => Option.some.inj same ▸ held⟩
    handed := fun hp hp' claims delivers same => by
      obtain ⟨now', claims'⟩ := attended.follows.delivers hp' delivers
      exact claimed hp hp' claims claims' same
    reported := fun returned => by
      obtain ⟨c, hc, same, rfl⟩ := attended.follows.reported_eq returned
      rw [same]
      exact ⟨rfl, nodup_verdicts fun id => told.once c hc id⟩
    concluded := told.concluded
    delivered := fun rest => by
      rw [told.sum_reports guarded.store.committed attended.follows rest
        (fun verdicts => rfl) (fun row verdicts tells => tells.final _ rfl), countP_eq_sum]
      refine congrArg _ (List.map_congr_left fun row _ => ?_)
      cases row.status <;> rfl
    deadLettered := fun rest => by
      rw [told.sum_reports guarded.store.committed attended.follows rest
        (fun verdicts => rfl) (fun row verdicts tells => tells.final _ rfl), countP_eq_sum]
      refine congrArg _ (List.map_congr_left fun row _ => ?_)
      cases row.status <;> rfl
    processed := fun rest => by
      refine told.sum_reports guarded.store.committed attended.follows rest
        (p := fun _ => true) (fun verdicts => ?_) (fun row verdicts tells => ?_)
      · rw [Report.of_processed, List.countP_true]
      · rw [List.countP_true, tells.attempts] }

/-- Two messages are recorded, and two passes work on them at the same time. -/
inductive Crew
  | first | second | early | late
  deriving DecidableEq

def Crew.party : Crew → Party
  | first => .enqueue { topic := "mail", payload := .null }
  | second => .enqueue { topic := "mail", payload := .null }
  | early => .pass ⟨fun _ => true, .noRetry, 1⟩
  | late => .pass ⟨fun _ => true, .noRetry, 2⟩

/-- One pass has found both messages, and has locked none, when the other claims the first. -/
def claiming : List (Happening Crew) :=
  steps .first 8 ++ steps .second 8 ++ steps .late 4 ++ steps .early 7

/-- The first message is given up, and its lock is free again, before the other pass comes to it. -/
def handling : List (Happening Crew) :=
  [.move .early (.hear (.error "no such address"))] ++ steps .early 10 ++ steps .late 5 ++
    [.move .late (.hear (.ok ()))] ++ steps .late 10

def claimedBy (sys : System fun name : Crew => name.party.Result) (name : Crew) : List OutboxId :=
  (sys.claims name).map (·.2.id)

/-- The pass that has found both messages claims only what the other has left, and both reports add
up. -/
theorem sharedOutbox_crew :
    let before := (ofParties 2 Crew.party).run claiming
    let after := (ofParties 2 Crew.party).run (claiming ++ handling)
    claimedBy before .early = [⟨1⟩] ∧ claimedBy before .late = [] ∧ after.Enough ∧
      after.AtRest ∧ after.report .early = { deadLettered := 1 } ∧
      after.report .late = { delivered := 1 } ∧ SharedOutbox Crew.party before after := by
  intro before after
  have enough : after.Enough := enough_run 2 _ (by decide +kernel)
  have rest : after.AtRest := by
    intro name d hp committed
    cases name <;> decide +kernel
  exact ⟨by decide +kernel, by decide +kernel, enough, rest, by decide +kernel, by decide +kernel,
    sharedOutbox_run 2 Crew.party claiming handling enough⟩

end System

end Store

end Passbook
