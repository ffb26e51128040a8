import Passbook.Proofs.Journal
import Passbook.Work.Transaction

/-!
# Sessions

Sessions are created and revoked without a lock. What a transaction has written of a session it has
created itself, or it is the revoked row of one that was committed (`Issued`). A session whose name
was given once therefore stays as it was issued, and once revoked it stays revoked
(`sessionsKept_run`). A name can be given again only by a transaction that had done so before the
first session of that name was committed; such a commit takes a revocation back
(`revocation_lost`).
-/

namespace Passbook

-- ---------------------------------------------------------------------------
-- Rows and the sessions that were issued
-- ---------------------------------------------------------------------------

namespace Session

/-- The row is another one, or that other one revoked. -/
def StemsFrom (row made : Session) : Prop := row = made ∨ row = made.revoked

variable {row made : Session}

theorem StemsFrom.revoke (h : row.StemsFrom made) : row.revoked.StemsFrom made := by
  rcases h with rfl | rfl
  · exact .inr rfl
  · exact .inr rfl

theorem StemsFrom.trans {first : Session} (h : row.StemsFrom made) (h' : made.StemsFrom first) :
    row.StemsFrom first := by
  rcases h with rfl | rfl
  · exact h'
  · exact h'.revoke

/-- Of two rows of one session, a revoked one stems from the other. -/
theorem StemsFrom.of_blocked {other : Session} (h : row.StemsFrom made) (blocked : row.isBlocked)
    (h' : other.StemsFrom made) : row.StemsFrom other := by
  have revoked : row = made.revoked := by
    rcases h with rfl | rfl
    · obtain ⟨_, _, _, _, _, isBlocked, _, _⟩ := row
      obtain rfl : isBlocked = true := blocked
      rfl
    · rfl
  rcases h' with rfl | rfl
  · exact .inr revoked
  · exact .inl revoked

end Session

namespace Store

def Deed.session? : Deed → Option Session
  | ⟨.createSession _, row, _⟩ => some row
  | _ => none

def sessionsOf (deeds : List Deed) : List Session := deeds.filterMap Deed.session?

theorem sessionsOf_append (first rest : List Deed) :
    sessionsOf (first ++ rest) = sessionsOf first ++ sessionsOf rest := List.filterMap_append

/-- The row is one of a session that was created with that name. -/
def IssuedBy (deeds : List Deed) (id : SessionId) (row : Session) : Prop :=
  ∃ made ∈ sessionsOf deeds, made.id = id ∧ row.StemsFrom made

def timesIssued (id : SessionId) (deeds : List Deed) : Nat :=
  (sessionsOf deeds).countP (·.id = id)

namespace IssuedBy

variable {deeds : List Deed} {id : SessionId} {row : Session}

theorem before (h : IssuedBy deeds id row) (more : List Deed) :
    IssuedBy (deeds ++ more) id row := by
  obtain ⟨made, mem, rest⟩ := h
  exact ⟨made, sessionsOf_append deeds more ▸ List.mem_append_left _ mem, rest⟩

theorem after (h : IssuedBy deeds id row) (more : List Deed) : IssuedBy (more ++ deeds) id row := by
  obtain ⟨made, mem, rest⟩ := h
  exact ⟨made, sessionsOf_append more deeds ▸ List.mem_append_right _ mem, rest⟩

theorem revoke (h : IssuedBy deeds id row) : IssuedBy deeds id row.revoked := by
  obtain ⟨made, mem, name, stems⟩ := h
  exact ⟨made, mem, name, stems.revoke⟩

theorem times_pos (h : IssuedBy deeds id row) : 0 < timesIssued id deeds := by
  obtain ⟨made, mem, name, -⟩ := h
  exact List.countP_pos_iff.mpr ⟨made, mem, by simpa using name⟩

end IssuedBy

theorem timesIssued_append (id : SessionId) (first rest : List Deed) :
    timesIssued id (first ++ rest) = timesIssued id first + timesIssued id rest := by
  rw [timesIssued, sessionsOf_append, List.countP_append]
  rfl

/-- Where one session was created with a name, all its rows stem from that session. -/
theorem IssuedBy.unique {deeds : List Deed} {id : SessionId} {row other : Session}
    (h : IssuedBy deeds id row) (h' : IssuedBy deeds id other) (once : timesIssued id deeds ≤ 1) :
    ∃ made, row.StemsFrom made ∧ other.StemsFrom made := by
  obtain ⟨made, mem, name, stems⟩ := h
  obtain ⟨made', mem', name', stems'⟩ := h'
  rw [timesIssued, List.countP_eq_length_filter] at once
  have mem : made ∈ (sessionsOf deeds).filter (·.id = id) := by simp [mem, name]
  have mem' : made' ∈ (sessionsOf deeds).filter (·.id = id) := by simp [mem', name']
  obtain ⟨i, hi, rfl⟩ := List.getElem_of_mem mem
  obtain ⟨j, hj, rfl⟩ := List.getElem_of_mem mem'
  obtain rfl : i = j := by omega
  exact ⟨_, stems, stems'⟩

-- ---------------------------------------------------------------------------
-- Systems
-- ---------------------------------------------------------------------------

/-- What a transaction has written of a session: one that it has created itself, or the revoked row
of a committed one. -/
def Wrote (journal committed : List Deed) (id : SessionId) (row : Session) : Prop :=
  IssuedBy journal id row ∨ row.isBlocked ∧ IssuedBy committed id row

theorem Wrote.later {journal committed : List Deed} {id : SessionId} {row : Session}
    (h : Wrote journal committed id row) (more : List Deed) :
    Wrote journal (committed ++ more) id row :=
  h.imp_right fun h => ⟨h.1, h.2.before more⟩

theorem Wrote.did {q : Query} {row : q.Row} {v : View} {journal committed : List Deed}
    (did : q.Did v number row change) (keyed : v.Keyed)
    (issued : ∀ {id row}, v.committed.sessions.get? id = some row → IssuedBy committed id row)
    (wrote : ∀ {id row}, v.own.written.sessions.get? id = some row →
      Wrote journal committed id row) {id : SessionId} {session : Session}
    (h : (v.own.apply change).written.sessions.get? id = some session) :
    Wrote (journal ++ [⟨q, row, now⟩]) committed id session := by
  have old : ∀ {id row'}, v.own.written.sessions.get? id = some row' →
      Wrote (journal ++ [⟨q, row, now⟩]) committed id row' := fun h =>
    (wrote h).imp_left fun own => own.before _
  cases did with
  | createSession _ _ hr =>
    rcases Table.get?_insert_eq_some h with ⟨rfl, rfl⟩ | h
    · refine .inl (IssuedBy.after ?_ journal)
      exact ⟨_, List.mem_singleton_self _, rfl, .inl rfl⟩
    · exact old h
  | @revokeSession _ _ before hold hr =>
    rcases Table.get?_insert_eq_some h with ⟨rfl, rfl⟩ | h
    · subst hr
      have seen : v.session? before.id = some before := (keyed.session hold).symm ▸ hold
      rcases View.session?_eq_some.mp seen with own | ⟨-, found⟩
      · exact (old own).imp IssuedBy.revoke fun h => ⟨rfl, h.2.revoke⟩
      · exact .inr ⟨rfl, (issued found).revoke⟩
    · exact old h
  | _ => exact old h

namespace System

variable {Name : Type} [DecidableEq Name] {Result : Name → Type} {sys sys' : System Result}

/-- Committed sessions were created in committed transactions, and those that a transaction has
written it has created or revoked. -/
structure Issued (sys : System Result) : Prop where
  committed : ∀ {id row}, sys.store.committed.sessions.get? id = some row →
    IssuedBy (deedsOf sys.history) id row
  wrote : ∀ {tx own id row}, sys.store.transaction? tx = some own →
    own.written.sessions.get? id = some row → Wrote (sys.journals tx) (deedsOf sys.history) id row

omit [DecidableEq Name] in
theorem Issued.start (connections : Nat) (programs : (name : Name) → Program (Result name)) :
    (start connections programs).Issued where
  committed h := nomatch h
  wrote h := nomatch h

theorem Issued.happened (t : sys.Tidy) (g : sys.Guarded) (i : sys.Issued) (h : Happened sys sys') :
    sys'.Issued := by
  have grown : ∃ more, deedsOf sys'.history = deedsOf sys.history ++ more := by
    cases recorded h with
    | same _ history => exact ⟨[], by rw [history, List.append_nil]⟩
    | commit _ _ _ _ history => exact ⟨_, by rw [history, deedsOf_snoc]⟩
  refine ⟨fun {id row} found => ?_, fun {tx own id row} opened written => ?_⟩
  · cases recorded h with
    | same committed history =>
      rw [history]
      exact i.committed (committed ▸ found)
    | commit _ opened _ committed history =>
      rw [history, deedsOf_snoc]
      rw [committed] at found
      rcases Table.get?_overlay_eq_some.mp found with written | ⟨-, found⟩
      · rcases i.wrote opened written with own | ⟨-, issued⟩
        · exact own.after _
        · exact issued.before _
      · exact (i.committed found).before _
  · obtain ⟨more, grown⟩ := grown
    rw [grown]
    refine open_happened (motive := fun own journal => ∀ {id row},
        own.written.sessions.get? id = some row →
          Wrote journal (deedsOf sys.history ++ more) id row)
      t g h opened (fun h => nomatch h) (fun before _ _ _ written => ?_)
      (fun {deed _} was does _ _ id row written => ?_) written
    · exact (i.wrote before written).later more
    · have wrote : Wrote (sys.journals tx ++ [deed]) (deedsOf sys.history) id row :=
        .did does.did (g.store.keyed tx deed.now) i.committed (i.wrote was) written
      exact wrote.later more

-- ---------------------------------------------------------------------------
-- Runs
-- ---------------------------------------------------------------------------

/-- What is promised of sessions from an earlier state to a later one. -/
structure SessionsKept (before after : System Result) : Prop where
  /-- Only a transaction that had already created a session when another one of that name was
  committed can have been committed since then with it. -/
  again : ∃ commits, after.history = before.history ++ commits ∧
    ∀ c ∈ commits, ∀ d ∈ c.deeds, ∀ session, d.query = .createSession session →
      (before.store.committed.sessions.get? session.id).isSome → d ∈ before.journals c.tx
  /-- A session whose name was given only once stays as it is until it is revoked, and then it stays
  revoked. -/
  kept : ∀ {id row}, before.store.committed.sessions.get? id = some row →
    timesIssued id (deedsOf after.history) ≤ 1 →
      ∃ row', after.store.committed.sessions.get? id = some row' ∧ row'.StemsFrom row

/-- A transaction that creates a session after one of that name was committed had done so before. -/
structure Late (before sys : System Result) : Prop where
  stay : ∀ {id}, (before.store.committed.sessions.get? id).isSome →
    (sys.store.committed.sessions.get? id).isSome
  late : ∀ {tx d session}, d ∈ sys.journals tx → d.query = .createSession session →
    (before.store.committed.sessions.get? session.id).isSome → d ∈ before.journals tx

theorem Late.happened {before : System Result} (t : sys.Tidy) (g : sys.Guarded)
    (l : before.Late sys) (h : Happened sys sys') : before.Late sys' := by
  refine ⟨fun there => session_stays h (l.stay there), fun {tx d session} hd query there => ?_⟩
  cases fate t g h tx with
  | closed _ journal => exact l.late (journal ▸ hd) query there
  | opened _ _ journal =>
    rw [journal] at hd
    exact nomatch hd
  | kept _ journal => exact l.late (journal ▸ hd) query there
  | @did deed own change was does _ journal =>
    rw [journal] at hd
    rcases List.mem_append.mp hd with hd | hd
    · exact l.late hd query there
    · obtain rfl := List.mem_singleton.mp hd
      obtain ⟨q, row, now⟩ := d
      obtain rfl : q = .createSession session := query
      have unseen : (sys.store.view tx now).session? session.id = none := by
        cases does.did with
        | createSession _ unseen => exact unseen
        | read reads => exact nomatch reads
      obtain ⟨row, found⟩ := Option.isSome_iff_exists.mp (l.stay there)
      simp [View.session?, view, found] at unseen

theorem SessionsKept.happened {before : System Result} (i : sys.Issued) (l : before.Late sys)
    (k : before.SessionsKept sys) (h : Happened sys sys') : before.SessionsKept sys' := by
  refine ⟨since_happened k.again h fun _ d hd session query => l.late hd query,
    fun {id row} found once => ?_⟩
  cases recorded h with
  | same committed history =>
    rw [committed]
    exact k.kept found (history ▸ once)
  | @commit name tx own author opened _ committed history =>
    rw [history, deedsOf_snoc, timesIssued_append] at once
    dsimp only at once
    obtain ⟨row', found', stems⟩ := k.kept found (by omega)
    have issued' := i.committed found'
    rw [committed]
    cases written : own.written.sessions.get? id with
    | none => exact ⟨row', Table.get?_overlay_eq_some.mpr (.inr ⟨written, found'⟩), stems⟩
    | some last =>
      refine ⟨last, Table.get?_overlay_eq_some.mpr (.inl written), ?_⟩
      -- The transaction has not created the session, so that it has revoked the committed one.
      obtain ⟨blocked, issued⟩ := (i.wrote opened written).resolve_left fun own => by
        have := own.times_pos
        have := issued'.times_pos
        omega
      obtain ⟨made, stems', stems''⟩ := issued.unique issued' (by omega)
      exact (stems'.of_blocked blocked stems'').trans stems

/-- Whatever transactions do at once, a session whose name was given only once stays as it was
issued, and it is never usable again once it is revoked. A name is given again only by transactions
that had done so when its first session was committed. -/
theorem sessionsKept_run (connections : Nat) (programs : (name : Name) → Program (Result name))
    (earlier later : List (Happening Name)) :
    SessionsKept ((start connections programs).run earlier)
      ((start connections programs).run (earlier ++ later)) := by
  have first : ((start connections programs).run earlier).Issued :=
    run_induction (.start ..) (fun _ _ t g i h => i.happened t g h) earlier
  refine (later_induction (motive := fun sys => sys.Issued ∧
    ((start connections programs).run earlier).Late sys ∧
    ((start connections programs).run earlier).SessionsKept sys)
    ⟨first, ⟨id, fun hd _ _ => hd⟩, ⟨[], (List.append_nil _).symm, fun _ h => nomatch h⟩,
      fun found _ => ⟨_, found, .inl rfl⟩⟩ ?_ later).2.2
  rintro sys sys' t g ⟨i, l, k⟩ h
  exact ⟨i.happened t g h, l.happened t g h, k.happened i l h⟩

def sessionName : SessionId := ⟨⟨Uuid.hexDigits 32 1, Uuid.length_hexDigits 32 1⟩⟩

/-- Who takes part when a user signs in twice: two sessions of the same name are issued, and one is
revoked. -/
inductive SignIn
  | user | first | second | revoke
  deriving DecidableEq

def SignIn.query : SignIn → Query
  | user => .createUser ⟨"alice", "Alice", "alice@example.com", "hash"⟩
  | first => .createSession ⟨sessionName, "alice", "first", "agent", "address", ⟨1, 0, by decide⟩⟩
  | second => .createSession ⟨sessionName, "alice", "second", "agent", "address", ⟨1, 0, by decide⟩⟩
  | revoke => .revokeSession sessionName

/-- The second session is created before the first one is committed, which is then revoked. -/
def revocation : List (Happening SignIn) :=
  steps .user 10 ++ steps .first 3 ++ steps .second 3 ++ steps .first 5 ++ steps .revoke 8

/-- When both transactions are committed, the session can be used again after it was revoked. -/
theorem revocation_lost :
    let signedIn := start 3 fun name : SignIn => name.query.run
    let revoked := signedIn.run revocation
    let after := signedIn.run (revocation ++ steps .second 5)
    let usable := fun (sys : System _) =>
      sys.store.committed.sessions.values.map fun row => (row.refreshToken, row.isUsable default)
    usable revoked = [("first", false)] ∧ usable after = [("second", true)] ∧
      timesIssued sessionName (deedsOf after.history) = 2 := by
  decide +kernel

end System

end Store

end Passbook
