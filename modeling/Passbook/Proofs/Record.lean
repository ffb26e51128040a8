import Passbook.Proofs.Locks

/-!
# The record of a system

What one happening means for a transaction (`System.fate`): it is closed, or new, or keeps all it
has, or does what a query comes to. And what it means for the committed rows (`System.recorded`):
nothing, or the commit of one transaction.
-/

namespace Passbook.Store

/-- The transaction does a deed: its query can come to this row and this change, with all that it
names and writes locked. -/
structure Does (s : Store) (tx : TxId) (deed : Deed) (change : Change) : Prop where
  did : deed.query.Did (s.view tx deed.now) (.assign (deed.query.number? deed.row)) deed.row change
  locked : ∀ key, key ∈ deed.query.locks deed.row ∨ key ∈ change.keys → s.Holds tx key

/-- What was done in the committed transactions, in order. -/
def deedsOf (history : List (Commit Name)) : List Deed := history.flatMap (·.deeds)

namespace System

variable {Name : Type} [DecidableEq Name] {Result : Name → Type} {sys sys' : System Result}

/-- What can become of a transaction. -/
inductive Fate (sys sys' : System Result) (tx : TxId) : Prop
  | closed : sys'.store.transaction? tx = none → sys'.journals tx = sys.journals tx →
      Fate sys sys' tx
  | opened : tx = sys.store.nextTx → sys'.store.transaction? tx = some {} →
      sys'.journals tx = [] → Fate sys sys' tx
  | kept : sys.store.Unharmed sys'.store tx → sys'.journals tx = sys.journals tx → Fate sys sys' tx
  | did {deed : Deed} {own : Transaction} {change : Change} : sys.store.transaction? tx = some own →
      Does sys.store tx deed change →
      sys'.store.transaction? tx = some (own.apply change) →
      sys'.journals tx = sys.journals tx ++ [deed] →
      (∀ key, sys.store.Holds tx key → sys'.store.Holds tx key) →
      sys'.store.committed = sys.store.committed → Fate sys sys' tx

/-- What can become of the committed rows. -/
inductive Recorded (sys sys' : System Result) : Prop
  | same : sys'.store.committed = sys.store.committed → sys'.history = sys.history →
      Recorded sys sys'
  | commit {name : Name} {tx : TxId} {own : Transaction} : sys.txOf name = some tx →
      sys.store.transaction? tx = some own → sys'.store.transaction? tx = none →
      sys'.store.committed = sys.store.committed.publish own.written own.deleted →
      sys'.history = sys.history ++ [⟨name, tx, sys.journals tx⟩] → Recorded sys sys'

theorem took_fate {name : Name} {p p' : Process (Result name)} (t : sys.Tidy) (g : sys.Guarded)
    (task : sys.tasks name = some p) (m : Moved sys.store p.stand mark next p'.stand)
    (htx : p.tx = some tx) : Fate sys (sys.took name p.tx mark next p') tx := by
  have u := g.underway _ _ task
  have opened := t.opened ((txOf_eq task).trans htx)
  obtain ⟨own, hown⟩ := Option.isSome_iff_exists.mp opened
  have ha : p.stand.tx = some tx := htx
  rw [htx]
  generalize p.stand = a at m u ha
  generalize p'.stand = b at m
  cases m with
  | locked =>
    obtain rfl := Option.some.inj ha
    exact .kept ⟨rfl, fun _ h => acquire_holds.mpr (.inr h), .refl _⟩ (by simp [took])
  | granted =>
    obtain rfl := Option.some.inj ha
    exact .kept ⟨rfl, fun _ h => acquire_holds.mpr (.inr h), .refl _⟩ (by simp [took])
  | won =>
    obtain rfl := Option.some.inj ha
    exact .kept ⟨rfl, fun _ h => acquire_holds.mpr (.inr h), .refl _⟩ (by simp [took])
  | did w ends =>
    obtain rfl := Option.some.inj ha
    obtain ⟨locked, did⟩ := g.store.succeed u w ends
    have does : Does sys.store _ ⟨_, _, _⟩ _ := ⟨did, locked⟩
    refine .did hown does ?_ (Function.update_self ..) (fun _ h => h) rfl
    rw [took, apply_transaction?, if_pos rfl, moveOn_transaction?, hown]
    rfl
  | opened =>
    have apart : tx ≠ sys.store.nextTx := fun e => Nat.lt_irrefl _ (e ▸ t.fresh opened)
    exact .kept ⟨(openNext_transaction? ..).trans (if_neg apart), fun _ h => h, .refl _⟩
      (by simp [took])
  | published =>
    obtain rfl := Option.some.inj ha
    exact .closed ((close_transaction? ..).trans (if_pos rfl)) (by simp [took])
  | broke =>
    obtain rfl := Option.some.inj ha
    exact .closed ((close_transaction? ..).trans (if_pos rfl)) (by simp [took])
  | rolledBack =>
    obtain rfl := Option.some.inj ha
    exact .closed ((close_transaction? ..).trans (if_pos rfl)) (by simp [took])
  | _ => exact .kept ⟨rfl, fun _ h => h, .refl _⟩ (by simp [took])

theorem fate (t : sys.Tidy) (g : sys.Guarded) (h : Happened sys sys') (tx : TxId) :
    Fate sys sys' tx := by
  cases h with
  | @moved mark next name p p' task m =>
    by_cases htx : p.tx = some tx
    · exact took_fate t g task m htx
    · rcases g.store.unharmed m htx with kept | ⟨new, opened⟩
      · exact .kept kept (took_journals sys name p' htx)
      · refine .opened new opened ((took_journals sys name p' htx).trans ?_)
        exact t.unwritten (Nat.le_of_eq new.symm)
  | @cancelled closed name p pool task htx =>
    by_cases h : closed = tx
    · exact .closed ((close_transaction? ..).trans (if_pos h.symm)) rfl
    · have kept := Unharmed.close (sys.store.repool pool) sys.store.faults h
      exact .kept ⟨kept.own, kept.holds, kept.spared⟩ rfl
  | left => exact .kept ⟨rfl, fun _ h => h, .refl _⟩ rfl
  | armed => exact .kept ⟨rfl, fun _ h => h, .refl _⟩ rfl

/-- What holds of a new transaction, of one that is left alone, and of one that does a deed holds of
every open one. -/
theorem open_happened {motive : Transaction → List Deed → Prop} {own : Transaction} (t : sys.Tidy)
    (g : sys.Guarded) (h : Happened sys sys') (opened : sys'.store.transaction? tx = some own)
    (new : motive {} [])
    (kept : sys.store.transaction? tx = some own → sys.store.Unharmed sys'.store tx →
      motive own (sys.journals tx))
    (did : ∀ {deed change}, sys.store.transaction? tx = some (sys.store.view tx deed.now).own →
      Does sys.store tx deed change → (∀ key, sys.store.Holds tx key → sys'.store.Holds tx key) →
      sys'.store.committed = sys.store.committed →
      motive ((sys.store.view tx deed.now).own.apply change) (sys.journals tx ++ [deed])) :
    motive own (sys'.journals tx) := by
  cases fate t g h tx with
  | closed closed => exact nomatch closed.symm.trans opened
  | opened _ fresh journal =>
    obtain rfl := Option.some.inj (fresh.symm.trans opened)
    exact journal ▸ new
  | kept unharmed journal =>
    exact journal ▸ kept (unharmed.own.symm.trans opened) unharmed
  | @did deed before change was does now journal holds same =>
    obtain rfl := Option.some.inj (now.symm.trans opened)
    have own : (sys.store.view tx deed.now).own = before := ownOf_eq was
    rw [← own] at was
    exact journal ▸ own ▸ did was does holds same

theorem recorded (h : Happened sys sys') : Recorded sys sys' := by
  cases h with
  | @moved mark next name p p' task m =>
    generalize ha : p.stand = a at m
    generalize p'.stand = b at m
    cases m with
    | did => exact .same rfl (by simp [took])
    | published opened =>
      have htx : p.tx = some _ := congrArg Stand.tx ha
      exact .commit ((txOf_eq task).trans htx) opened
        ((close_transaction? ..).trans (if_pos rfl)) rfl (by simp [took, htx])
    | broke => exact .same (close_committed ..) (by simp [took])
    | rolledBack => exact .same (close_committed ..) (by simp [took])
    | _ => exact .same rfl (by simp [took])
  | cancelled => exact .same (close_committed ..) rfl
  | left => exact .same rfl rfl
  | armed => exact .same rfl rfl

/-- Users are never deleted. -/
theorem user_stays (h : Happened sys sys')
    (there : (sys.store.committed.users.get? username).isSome) :
    (sys'.store.committed.users.get? username).isSome := by
  cases recorded h with
  | same committed => exact committed ▸ there
  | commit _ _ _ committed =>
    rw [committed, Tables.publish, Table.get?_overlay]
    simp [there]

/-- Sessions are never deleted. -/
theorem session_stays {id : SessionId} (h : Happened sys sys')
    (there : (sys.store.committed.sessions.get? id).isSome) :
    (sys'.store.committed.sessions.get? id).isSome := by
  cases recorded h with
  | same committed => exact committed ▸ there
  | commit _ _ _ committed =>
    rw [committed, Tables.publish, Table.get?_overlay]
    simp [there]

/-- Messages are never deleted. -/
theorem message_stays {id : OutboxId} (h : Happened sys sys')
    (there : (sys.store.committed.messages.get? id).isSome) :
    (sys'.store.committed.messages.get? id).isSome := by
  cases recorded h with
  | same committed => exact committed ▸ there
  | commit _ _ _ committed =>
    rw [committed, Tables.publish, Table.get?_overlay]
    simp [there]

/-- What holds of all that was done in the commits since some state still does after one more
commit, if it holds of all that was done in that one. -/
theorem since_happened {before : List (Commit Name)} {holds : Commit Name → Deed → Prop}
    (since : ∃ commits, sys.history = before ++ commits ∧ ∀ c ∈ commits, ∀ d ∈ c.deeds, holds c d)
    (h : Happened sys sys')
    (new : ∀ {name tx own}, sys.store.transaction? tx = some own → ∀ d ∈ sys.journals tx,
      holds ⟨name, tx, sys.journals tx⟩ d) :
    ∃ commits, sys'.history = before ++ commits ∧ ∀ c ∈ commits, ∀ d ∈ c.deeds, holds c d := by
  obtain ⟨commits, history, since⟩ := since
  cases recorded h with
  | same _ same => exact ⟨commits, same.trans history, since⟩
  | @commit name tx own _ opened _ _ more =>
    refine ⟨commits ++ [⟨name, tx, sys.journals tx⟩], ?_, fun c hc => ?_⟩
    · rw [more, history, List.append_assoc]
    · rcases List.mem_append.mp hc with hc | hc
      · exact since c hc
      · obtain rfl := List.mem_singleton.mp hc
        exact new opened

/-- A committed transaction is over, it was committed once, and what is recorded of it is its
journal. -/
structure Filed (sys : System Result) : Prop where
  once : (sys.history.map (·.tx)).Nodup
  past : ∀ c ∈ sys.history, c.tx < sys.store.nextTx ∧ sys.store.transaction? c.tx = none
  deeds : ∀ c ∈ sys.history, c.deeds = sys.journals c.tx

omit [DecidableEq Name] in
theorem Filed.start (connections : Nat) (programs : (name : Name) → Program (Result name)) :
    (start connections programs).Filed where
  once := .nil
  past _ h := nomatch h
  deeds _ h := nomatch h

theorem nextTx_le (h : Happened sys sys') : sys.store.nextTx ≤ sys'.store.nextTx := by
  cases h with
  | @moved mark next name p p' task m =>
    have passage : Passage sys.store p.tx next p'.tx := m.passage
    have next_le : sys.store.nextTx ≤ next.nextTx := by
      generalize p.tx = a at passage
      generalize p'.tx = b at passage
      cases passage with
      | within same => exact Nat.le_of_eq same.symm
      | began more => exact more ▸ Nat.le_succ _
      | ended same => exact Nat.le_of_eq same.symm
    exact next_le
  | @cancelled tx _ _ pool => exact Nat.le_of_eq (close_nextTx (sys.store.repool pool) tx).symm
  | left => exact Nat.le_refl _
  | armed => exact Nat.le_refl _

/-- A transaction that is over stays so, and its journal stays as it is. -/
theorem past_happened (t : sys.Tidy) (g : sys.Guarded) (h : Happened sys sys')
    (old : tx < sys.store.nextTx) (past : sys'.store.transaction? tx = none) :
    sys'.journals tx = sys.journals tx := by
  cases fate t g h tx with
  | closed _ journal => exact journal
  | opened new => exact absurd (new ▸ old) (Nat.lt_irrefl _)
  | kept _ journal => exact journal
  | did _ _ opened => exact nomatch opened.symm.trans past

/-- A transaction that is over is not opened again. -/
theorem ended_happened (t : sys.Tidy) (g : sys.Guarded) (h : Happened sys sys')
    (old : tx < sys.store.nextTx) (ended : sys.store.transaction? tx = none) :
    tx < sys'.store.nextTx ∧ sys'.store.transaction? tx = none := by
  refine ⟨Nat.lt_of_lt_of_le old (nextTx_le h), ?_⟩
  cases fate t g h tx with
  | closed closed => exact closed
  | opened new => exact absurd (new ▸ old) (Nat.lt_irrefl _)
  | kept kept => exact kept.own.trans ended
  | did opened => exact nomatch ended.symm.trans opened

theorem Filed.happened (t : sys.Tidy) (g : sys.Guarded) (f : sys.Filed) (h : Happened sys sys') :
    sys'.Filed := by
  have past : ∀ c ∈ sys.history, c.tx < sys'.store.nextTx ∧ sys'.store.transaction? c.tx = none :=
    fun c hc => ended_happened t g h (f.past c hc).1 (f.past c hc).2
  have deeds : ∀ c ∈ sys.history, c.deeds = sys'.journals c.tx := fun c hc =>
    (f.deeds c hc).trans (past_happened t g h (f.past c hc).1 (past c hc).2).symm
  cases recorded h with
  | same _ history => exact ⟨history ▸ f.once, history ▸ past, history ▸ deeds⟩
  | @commit name tx own author opened closed _ history =>
    have old : tx < sys.store.nextTx := t.fresh (t.opened author)
    rw [← past_happened t g h old closed] at history
    refine ⟨?_, fun c hc => ?_, fun c hc => ?_⟩
    · rw [history, List.map_append, List.map_singleton]
      refine List.nodup_append.mpr ⟨f.once, List.pairwise_singleton .., ?_⟩
      rintro _ again _ htx rfl
      obtain ⟨c, hc, rfl⟩ := List.mem_map.mp again
      obtain rfl : c.tx = tx := List.mem_singleton.mp htx
      exact nomatch (f.past c hc).2.symm.trans opened
    · rcases List.mem_append.mp (history ▸ hc) with hc | hc
      · exact past c hc
      · obtain rfl := List.mem_singleton.mp hc
        exact ⟨Nat.lt_of_lt_of_le old (nextTx_le h), closed⟩
    · rcases List.mem_append.mp (history ▸ hc) with hc | hc
      · exact deeds c hc
      · obtain rfl := List.mem_singleton.mp hc
        rfl

-- ---------------------------------------------------------------------------
-- Runs
-- ---------------------------------------------------------------------------

def steps {Name : Type} (name : Name) (count : Nat) : List (Happening Name) :=
  List.replicate count (.move name (.step default))

/-- What holds in a tidy and guarded system and after every happening in one holds after every run
from there. -/
theorem run_induction_from {motive : System Result → Prop} (t : sys.Tidy) (g : sys.Guarded)
    (first : motive sys)
    (next : ∀ sys sys', sys.Tidy → sys.Guarded → motive sys → Happened sys sys' → motive sys')
    (happenings : List (Happening Name)) : motive (sys.run happenings) := by
  induction happenings generalizing sys with
  | nil => exact first
  | cons one rest ih =>
    have happened := after_happened t.opened t.staged one
    exact ih (t.happened happened) (g.happened t happened) (next _ _ t g first happened)

/-- What holds at the start and after every happening in a tidy and guarded system holds after
every run. -/
theorem run_induction {motive : System Result → Prop} {connections : Nat}
    {programs : (name : Name) → Program (Result name)} (first : motive (start connections programs))
    (next : ∀ sys sys', sys.Tidy → sys.Guarded → motive sys → Happened sys sys' → motive sys')
    (happenings : List (Happening Name)) :
    motive ((start connections programs).run happenings) :=
  run_induction_from (.start connections programs) (.start connections programs) first next
    happenings

theorem tidy_run (connections : Nat) (programs : (name : Name) → Program (Result name))
    (happenings : List (Happening Name)) : ((start connections programs).run happenings).Tidy :=
  run_induction (.start connections programs) (fun _ _ t _ _ h => t.happened h) happenings

theorem guarded_run (connections : Nat) (programs : (name : Name) → Program (Result name))
    (happenings : List (Happening Name)) : ((start connections programs).run happenings).Guarded :=
  run_induction (.start connections programs) (fun _ _ t g _ h => g.happened t h) happenings

theorem locked_run (connections : Nat) (programs : (name : Name) → Program (Result name))
    (happenings : List (Happening Name)) : ((start connections programs).run happenings).Locked :=
  run_induction (.start connections programs) (fun _ _ t _ l h => l.happened t h) happenings

/-- What holds after a run and after every happening from there holds after every longer run. -/
theorem later_induction {motive : System Result → Prop} {connections : Nat}
    {programs : (name : Name) → Program (Result name)} {earlier : List (Happening Name)}
    (first : motive ((start connections programs).run earlier))
    (next : ∀ sys sys', sys.Tidy → sys.Guarded → motive sys → Happened sys sys' → motive sys')
    (later : List (Happening Name)) :
    motive ((start connections programs).run (earlier ++ later)) := by
  rw [run_append]
  exact run_induction_from (tidy_run ..) (guarded_run ..) first next later

end System

end Passbook.Store
