import Passbook.Proofs.Journal

/-!
# Unique users

Different users have different addresses, among the committed rows and in what every open
transaction sees, and a transaction that creates a user finds no committed one of that name for as
long as it is open (`Unique`). An address is found free under its lock, which is held until the
commit. An address that was not locked is the one that the user had before.
-/

namespace Passbook

namespace Store

-- ---------------------------------------------------------------------------
-- Addresses
-- ---------------------------------------------------------------------------

structure EmailsDiffer (users : Table String User) : Prop where
  same : ∀ {name other row row'}, users.get? name = some row → users.get? other = some row' →
    row.email = row'.email → name = other

theorem EmailsDiffer.empty : EmailsDiffer ∅ := ⟨fun h => nomatch h⟩

/-- The users that a transaction sees still have different addresses after others have committed
and spared its locks. -/
theorem Staged.emailsDiffer {committed committed' : Tables} {own : Transaction}
    (staged : Staged held committed own) (spared : Tables.Spared held committed committed')
    (after : EmailsDiffer committed'.users)
    (before : EmailsDiffer (committed.users.overlay own.written.users)) :
    EmailsDiffer (committed'.users.overlay own.written.users) := by
  -- One of the users was written by the transaction and the other one is committed.
  have mixed : ∀ {name other row row'}, own.written.users.get? name = some row →
      own.written.users.get? other = none → committed'.users.get? other = some row' →
      row.email = row'.email → name = other := by
    intro name other row row' written unwritten found same
    rcases staged.email written with held | ⟨old, hold, hemail⟩
    · obtain ⟨old, hold, hemail, -⟩ := spared.email held found same.symm
      exact before.same (Table.get?_overlay_eq_some.mpr (.inl written))
        (Table.get?_overlay_eq_some.mpr (.inr ⟨unwritten, hold⟩)) hemail.symm
    · have kept := (spared.user (staged.user written)).trans hold
      exact after.same kept found (hemail.trans same)
  refine ⟨fun {name other row row'} h h' same => ?_⟩
  rcases Table.get?_overlay_eq_some.mp h with written | ⟨unwritten, found⟩ <;>
    rcases Table.get?_overlay_eq_some.mp h' with written' | ⟨unwritten', found'⟩
  · exact before.same (Table.get?_overlay_eq_some.mpr (.inl written))
      (Table.get?_overlay_eq_some.mpr (.inl written')) same
  · exact mixed written unwritten' found' same
  · exact (mixed written' unwritten found same.symm).symm
  · exact after.same found found' same

/-- A row that is written keeps addresses different when no other user is seen to have its
address. -/
theorem EmailsDiffer.insert {committed own : Table String User} {name : String} {user : User}
    (before : EmailsDiffer (committed.overlay own))
    (free : ∀ {other row}, (committed.overlay own).get? other = some row →
      row.email = user.email → other = name) :
    EmailsDiffer (committed.overlay (own.insert name user)) := by
  refine ⟨fun h h' same => ?_⟩
  rcases Table.get?_overlay_insert_eq_some h with ⟨rfl, rfl⟩ | old <;>
    rcases Table.get?_overlay_insert_eq_some h' with ⟨rfl, rfl⟩ | old'
  · rfl
  · exact (free old' same.symm).symm
  · exact free old same
  · exact before.same old old' same

end Store

open Store

/-- A query that succeeds leaves the addresses of the users that are seen different. -/
theorem Query.Did.emailsDiffer {q : Query} {row : q.Row} {v : View}
    (did : q.Did v number row change) (keyed : v.Keyed)
    (before : EmailsDiffer (v.committed.users.overlay v.own.written.users)) :
    EmailsDiffer (v.committed.users.overlay (v.own.apply change).written.users) := by
  have seen : ∀ {name user}, (v.committed.users.overlay v.own.written.users).get? name = some user →
      v.user? name = some user := fun h => (v.publish_user? _).symm.trans h
  -- A user whose row is changed and who keeps the address is the only one with it.
  have keeps : ∀ {name} {old : User}, v.user? name = some old → ∀ other user,
      v.user? other = some user → user.email = old.email → other = name := fun hold _ _ h same =>
    before.same ((v.publish_user? _).trans h) ((v.publish_user? _).trans hold) same
  cases did with
  | createUser _ _ free hr =>
    subst hr
    refine before.insert fun h same => ?_
    have taken : v.isEmailTaken _ none := View.isEmailTaken_iff.mpr ⟨_, _, seen h, same, by simp⟩
    exact nomatch free.symm.trans taken
  | @updateUser changes _ old free hold hr =>
    subst hr
    have name : old.username = changes.username := keyed.user hold
    refine before.insert fun {other user} h same => Eq.trans ?_ name.symm
    cases hm : changes.email with
    | none => exact keeps hold _ _ (seen h) (by simpa [UserChanges.applyTo, hm] using same)
    | some email =>
      by_contra apart
      have taken : v.isEmailTaken email (some changes.username) := View.isEmailTaken_iff.mpr
        ⟨other, user, seen h, by simpa [UserChanges.applyTo, hm] using same,
          fun e => apart ((keyed.user (seen h)).symm.trans (Option.some.inj e))⟩
      simp [free email hm] at taken
  | @changePassword change _ old hold hr =>
    subst hr
    have name : old.username = change.username := keyed.user hold
    exact before.insert fun h same => (keeps hold _ _ (seen h) same).trans name.symm
  | _ => exact before

-- ---------------------------------------------------------------------------
-- Systems
-- ---------------------------------------------------------------------------

namespace Store.System

variable {Name : Type} [DecidableEq Name] {Result : Name → Type} {sys sys' : System Result}

/-- Different users have different addresses, as far as they are committed and as far as any open
transaction sees. A transaction that has created a user finds no committed one of that name. -/
structure Unique (sys : System Result) : Prop where
  committed : EmailsDiffer sys.store.committed.users
  seen : ∀ {tx own}, sys.store.transaction? tx = some own →
    EmailsDiffer (sys.store.committed.users.overlay own.written.users)
  new : ∀ {tx own}, sys.store.transaction? tx = some own → ∀ user,
    .createUser user ∈ (sys.journals tx).map Deed.query →
      sys.store.committed.users.get? user.username = none

omit [DecidableEq Name] in
theorem Unique.start (connections : Nat) (programs : (name : Name) → Program (Result name)) :
    (start connections programs).Unique where
  committed := .empty
  seen h := nomatch h
  new h := nomatch h

theorem Unique.happened (t : sys.Tidy) (g : sys.Guarded) (b : sys.Booked) (u : sys.Unique)
    (h : Happened sys sys') : sys'.Unique := by
  have committed : EmailsDiffer sys'.store.committed.users := by
    cases recorded h with
    | same committed => exact committed ▸ u.committed
    | commit _ opened _ committed =>
      rw [committed]
      exact u.seen opened
  refine ⟨committed, fun {tx own} opened => ?_, fun {tx own} opened => ?_⟩
  · refine open_happened
      (motive := fun own _ => EmailsDiffer (sys'.store.committed.users.overlay own.written.users))
      t g h opened committed (fun before kept => ?_) fun was does _ same => ?_
    · have staged := g.store.staged tx
      rw [ownOf_eq before] at staged
      exact staged.emailsDiffer kept.spared committed (u.seen before)
    · rw [same]
      exact does.did.emailsDiffer (g.store.keyed tx _) (u.seen was)
  · refine open_happened (motive := fun _ journal => ∀ user,
        .createUser user ∈ journal.map Deed.query →
          sys'.store.committed.users.get? user.username = none)
      t g h opened (fun _ h => nomatch h) (fun before kept user created => ?_)
      fun {deed _} was does _ same user created => ?_
    · obtain ⟨d, hd, query⟩ := List.mem_map.mp created
      have locks : .username user.username ∈ d.query.keys := query ▸ List.mem_cons_self
      have held : sys.store.Holds tx (.username user.username) :=
        (b.opened before).held d hd _ (d.query.keys_subset_locks d.row locks)
      exact (kept.spared.user held).trans (u.new before user created)
    · rw [List.map_append, List.map_singleton] at created
      rw [same]
      rcases List.mem_append.mp created with created | created
      · exact u.new was user created
      · obtain ⟨q, row, now⟩ := deed
        obtain rfl : Query.createUser user = q := List.mem_singleton.mp created
        have unseen : (sys.store.view tx now).user? user.username = none := by
          cases does.did with
          | createUser _ unseen => exact unseen
          | read reads => exact nomatch reads
        cases found : sys.store.committed.users.get? user.username with
        | none => rfl
        | some row => simp [View.user?, view, found] at unseen

-- ---------------------------------------------------------------------------
-- Runs
-- ---------------------------------------------------------------------------

/-- What is promised of users from an earlier state to a later one. -/
structure UsersUnique (before after : System Result) : Prop where
  emails : EmailsDiffer after.store.committed.users
  stay : ∀ {name}, (before.store.committed.users.get? name).isSome →
    (after.store.committed.users.get? name).isSome
  /-- No transaction that was committed in between created a user who was there before. -/
  created : ∃ commits, after.history = before.history ++ commits ∧
    ∀ c ∈ commits, ∀ d ∈ c.deeds, ∀ user, d.query = .createUser user →
      before.store.committed.users.get? user.username = none

theorem UsersUnique.happened {before : System Result} (t : sys.Tidy) (g : sys.Guarded)
    (b : sys.Booked) (u : sys.Unique) (kept : before.UsersUnique sys) (h : Happened sys sys') :
    before.UsersUnique sys' := by
  refine ⟨(u.happened t g b h).committed, fun there => user_stays h (kept.stay there),
    since_happened kept.created h fun {_ tx own} opened d hd user query => ?_⟩
  have absent := u.new opened user (List.mem_map.mpr ⟨d, hd, query⟩)
  cases there : before.store.committed.users.get? user.username with
  | none => rfl
  | some row =>
    have stayed := kept.stay (Option.isSome_iff_exists.mpr ⟨row, there⟩)
    rw [absent] at stayed
    exact nomatch stayed

/-- Whatever transactions do at once, different users never have the same address, and none that
is committed creates a user in the place of one who was committed earlier. -/
theorem usersUnique_run (connections : Nat) (programs : (name : Name) → Program (Result name))
    (earlier later : List (Happening Name)) :
    UsersUnique ((start connections programs).run earlier)
      ((start connections programs).run (earlier ++ later)) := by
  have first : ((start connections programs).run earlier).Booked ∧
      ((start connections programs).run earlier).Unique :=
    run_induction (motive := fun sys => sys.Booked ∧ sys.Unique) ⟨.start .., .start ..⟩
      (fun _ _ t g h happened => ⟨h.1.happened t g happened, h.2.happened t g h.1 happened⟩) earlier
  refine (later_induction (motive := fun sys => (sys.Booked ∧ sys.Unique) ∧
    ((start connections programs).run earlier).UsersUnique sys) ⟨first, first.2.committed, id,
      [], (List.append_nil _).symm, fun _ h => nomatch h⟩ ?_ later).2
  rintro sys sys' t g ⟨⟨b, u⟩, kept⟩ happened
  exact ⟨⟨b.happened t g happened, u.happened t g b happened⟩, kept.happened t g b u happened⟩

end Store.System

end Passbook
