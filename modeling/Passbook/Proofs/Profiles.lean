import Mathlib.Data.List.TakeWhile
import Passbook.Proofs.Replay
import Passbook.Work.Transaction

/-!
# Profiles

When a user is created, the shape of the name and of the other fields is checked. What a later
change makes of the full name, the address or the password hash is not. So every committed user has
a name of the right shape, and each of the other fields is what the last committed change made of
it, or still has the shape that was checked (`profilesKept_run`). A change can leave all three
without it (`profile_misshapen`).
-/

namespace Passbook

-- ---------------------------------------------------------------------------
-- Shapes
-- ---------------------------------------------------------------------------

namespace Text

theorem allBlank_of_trim {s : String} (h : trim s = "") : allBlank s := by
  have trimmed : trimChars s.toList = [] := by simpa [trim] using h
  have blank : ∀ c ∈ dropBlanks s.toList, isBlank c := by
    simpa [trimChars, dropBlanks, List.dropWhile_eq_nil_iff] using trimmed
  -- What is left after the first blanks does not start with one.
  have nothing : dropBlanks s.toList = [] := by
    by_contra more
    have first : isBlank (List.head _ more) = false := List.head_dropWhile_not isBlank more
    exact nomatch first.symm.trans (blank _ (List.head_mem more))
  simpa [allBlank] using List.dropWhile_eq_nil_iff.mp nothing

/-- A text whose characters take one byte each has as many bytes as characters. -/
theorem utf8ByteSize_eq_length {cs : List Char} (h : ∀ c ∈ cs, c.utf8Size = 1) :
    (String.ofList cs).utf8ByteSize = cs.length := by
  induction cs with
  | nil => rfl
  | cons c rest ih =>
    have size := ih fun d hd => h d (List.mem_cons_of_mem _ hd)
    rw [← List.singleton_append, String.ofList_append, String.utf8ByteSize_append, size]
    simp [h c List.mem_cons_self, Nat.add_comm]

end Text

/-- A name of three to a hundred lower-case letters, digits and underscores. -/
structure ShapedName (name : String) : Prop where
  length : 3 ≤ name.length ∧ name.length ≤ 100
  chars : ∀ c ∈ name.toList, 'a' ≤ c ∧ c ≤ 'z' ∨ '0' ≤ c ∧ c ≤ '9' ∨ c = '_'

theorem ShapedName.of_isUsername {name : String} (h : isUsername name) : ShapedName name := by
  simp only [isUsername, Bool.and_eq_true, Bool.or_eq_true, decide_eq_true_eq, List.all_eq_true,
    or_assoc] at h
  obtain ⟨bytes, chars⟩ := h
  have small : ∀ c ∈ name.toList, c.utf8Size = 1 := by
    intro c hc
    rw [Char.utf8Size_eq_one_iff]
    rcases chars c hc with ⟨-, upto⟩ | ⟨-, upto⟩ | rfl
    · exact Nat.le_trans upto (by decide)
    · exact Nat.le_trans upto (by decide)
    · decide
  have size := Text.utf8ByteSize_eq_length small
  rw [String.ofList_toList, String.length_toList] at size
  exact ⟨size ▸ bytes, chars⟩

namespace User

/-- A field whose shape is checked when a user is created, besides the name. -/
inductive Field
  | fullName
  | email
  | hashedPassword

def Field.value : Field → User → String
  | fullName => User.fullName
  | email => User.email
  | hashedPassword => User.hashedPassword

def Field.Fits : Field → String → Prop
  | fullName, value => Text.trim value ≠ ""
  | email, value => '@' ∈ value.toList
  | hashedPassword, value => value ≠ ""

structure WellShaped (row : User) : Prop where
  username : ShapedName row.username
  fields : ∀ field : Field, field.Fits (field.value row)

end User

open User (Field)

theorem NewUser.validate_ok {user : NewUser} (h : user.validate = .ok ()) :
    ShapedName user.username ∧ Field.fullName.Fits user.fullName ∧ Field.email.Fits user.email ∧
      Field.hashedPassword.Fits user.hashedPassword := by
  unfold validate at h
  split at h
  · exact nomatch h
  next name =>
  split at h
  · exact nomatch h
  next full =>
  split at h
  · exact nomatch h
  next email =>
  split at h
  · exact nomatch h
  next hash =>
  refine ⟨.of_isUsername (by simpa using name), fun blank => ?_, by simpa [Field.Fits] using email,
    hash⟩
  exact full (Text.allBlank_of_trim blank)

-- ---------------------------------------------------------------------------
-- What the fields were made
-- ---------------------------------------------------------------------------

/-- What the query makes of the user's field. -/
def Query.assigned? (name : String) (field : Field) : Query → Option String
  | updateUser changes =>
    if changes.username = name then
      match field with
      | .fullName => changes.fullName
      | .email => changes.email
      | .hashedPassword => none
    else none
  | changePassword change =>
    match field with
    | .hashedPassword => if change.username = name then some change.hashedPassword else none
    | _ => none
  | _ => none

namespace Store

/-- What the last of the deeds that change the user's field makes of it. -/
def lastAssigned (deeds : List Deed) (name : String) (field : Field) : Option String :=
  (deeds.filterMap fun d => d.query.assigned? name field).getLast?

theorem lastAssigned_snoc (deeds : List Deed) (d : Deed) (name : String) (field : Field) :
    lastAssigned (deeds ++ [d]) name field =
      (d.query.assigned? name field).or (lastAssigned deeds name field) := by
  rw [lastAssigned, List.filterMap_append, List.getLast?_append]
  cases h : d.query.assigned? name field <;> simp [h, lastAssigned]

theorem lastAssigned_filter (deeds : List Deed) (name : String) (field : Field) :
    lastAssigned (deeds.filter Deed.isReplayed) name field = lastAssigned deeds name field := by
  rw [lastAssigned, lastAssigned, List.filterMap_filter]
  congr 2
  funext ⟨q, row, now⟩
  cases q <;> rfl

/-- The row is of a user of that name, whose name has the right shape. Each of the other fields is
what the last of the deeds made of it, or has the right shape if none did. -/
structure Shaped (deeds : List Deed) (name : String) (row : User) : Prop where
  named : row.username = name
  username : ShapedName name
  assigned : ∀ field value, lastAssigned deeds name field = some value → field.value row = value
  fits : ∀ field, lastAssigned deeds name field = none → field.Fits (field.value row)

/-- A deed that does not change the user leaves the row in shape. -/
theorem Shaped.quiet {deeds : List Deed} {row : User} {d : Deed} (s : Shaped deeds name row)
    (quiet : ∀ field, d.query.assigned? name field = none) : Shaped (deeds ++ [d]) name row := by
  have same : ∀ field, lastAssigned (deeds ++ [d]) name field = lastAssigned deeds name field :=
    fun field => by rw [lastAssigned_snoc, quiet, Option.none_or]
  exact ⟨s.named, s.username, fun field value h => s.assigned field value (same field ▸ h),
    fun field h => s.fits field (same field ▸ h)⟩

theorem Shaped.of_filter {deeds : List Deed} {row : User}
    (s : Shaped (deeds.filter Deed.isReplayed) name row) : Shaped deeds name row where
  named := s.named
  username := s.username
  assigned field value h := s.assigned field value (by rwa [lastAssigned_filter])
  fits field h := s.fits field (by rwa [lastAssigned_filter])

/-- Where all changes keep the shapes, so do the rows. -/
theorem Shaped.wellShaped {deeds : List Deed} {row : User} (s : Shaped deeds name row)
    (kept : ∀ d ∈ deeds, ∀ name field value, d.query.assigned? name field = some value →
      field.Fits value) : row.WellShaped := by
  refine ⟨s.named ▸ s.username, fun field => ?_⟩
  cases h : lastAssigned deeds name field with
  | none => exact s.fits field h
  | some value =>
    obtain ⟨d, hd, made⟩ := List.mem_filterMap.mp (List.mem_of_getLast? h)
    rw [s.assigned field value h]
    exact kept d hd name field value made

-- ---------------------------------------------------------------------------
-- Serial runs
-- ---------------------------------------------------------------------------

/-- The users that are seen have the shapes that the deeds left them, and the deeds have changed no
others. -/
structure Profiled (committed : Tables) (own : Transaction) (deeds : List Deed) : Prop where
  shaped : ∀ now {name row}, (alone committed own now).user? name = some row →
    Shaped deeds name row
  unknown : ∀ now {name}, (alone committed own now).user? name = none →
    ∀ field, lastAssigned deeds name field = none

theorem user?_apply {committed : Tables} {own : Transaction} {now : Instant} (row : User)
    (name : String) : (alone committed (own.apply (.user row)) now).user? name =
      if name = row.username then some row else (alone committed own now).user? name := by
  simp only [View.user?, alone, Transaction.apply, Table.get?_insert]
  split <;> rfl

namespace Profiled

variable {committed : Tables} {own : Transaction} {deeds : List Deed} {d : Deed}

theorem empty : Profiled {} {} [] where
  shaped _ _ _ h := nomatch h
  unknown _ _ _ _ := rfl

/-- Deeds that leave the users alone leave their shapes alone. -/
theorem keep (p : Profiled committed own deeds) (same : own'.written.users = own.written.users)
    (quiet : ∀ name field, d.query.assigned? name field = none) :
    Profiled committed own' (deeds ++ [d]) where
  shaped now name row h := by
    simp only [View.user?, alone, same] at h
    exact (p.shaped now h).quiet (quiet name)
  unknown now name h field := by
    simp only [View.user?, alone, same] at h
    rw [lastAssigned_snoc, quiet]
    exact p.unknown now h field

/-- The user that a row is written of has the fields of that row, and the others have theirs. -/
theorem write (p : Profiled committed own deeds) {row : User}
    (here : Shaped (deeds ++ [d]) row.username row)
    (quiet : ∀ name field, name ≠ row.username → d.query.assigned? name field = none) :
    Profiled committed (own.apply (.user row)) (deeds ++ [d]) where
  shaped now name seen h := by
    rw [user?_apply] at h
    split at h
    · next same =>
      subst same
      exact Option.some.inj h ▸ here
    · next other => exact (p.shaped now h).quiet fun field => quiet name field other
  unknown now name h field := by
    rw [user?_apply] at h
    split at h
    · exact nomatch h
    · next other =>
      rw [lastAssigned_snoc, quiet name field other]
      exact p.unknown now h field

/-- A user that is seen gets other fields, as the deed says. -/
theorem update (p : Profiled committed own deeds) {now : Instant} {old row : User}
    (seen : (alone committed own now).user? name = some old) (named : row.username = old.username)
    (fields : ∀ field, field.value row = (d.query.assigned? name field).getD (field.value old))
    (quiet : ∀ other field, other ≠ name → d.query.assigned? other field = none) :
    Profiled committed (own.apply (.user row)) (deeds ++ [d]) := by
  have s := p.shaped now seen
  have same : row.username = name := named.trans s.named
  refine p.write (same ▸ ⟨same, s.username, fun field value h => ?_, fun field h => ?_⟩)
    (same ▸ quiet)
  · rw [lastAssigned_snoc] at h
    rw [fields]
    cases made : d.query.assigned? name field with
    | none => exact s.assigned field value (by simpa [made] using h)
    | some value' => simpa [made] using h
  · rw [lastAssigned_snoc, Option.or_eq_none_iff] at h
    rw [fields, h.1]
    exact s.fits field h.2

theorem did {q : Query} {row : q.Row} (p : Profiled committed own deeds)
    (did : q.Did (alone committed own now) number row change) :
    Profiled committed (own.apply change) (deeds ++ [⟨q, row, now⟩]) := by
  cases did with
  | @createUser user row valid unseen _ hr =>
    subst hr
    obtain ⟨name, fullName, email, hash⟩ := NewUser.validate_ok valid
    refine p.write ⟨rfl, name, fun field value h => ?_, fun field _ => ?_⟩ fun _ _ _ => rfl
    · rw [lastAssigned_snoc, p.unknown now unseen field] at h
      cases h
    · cases field <;> assumption
  | updateUser _ seen hr =>
    subst hr
    refine p.update seen rfl (fun field => ?_) fun other field ne => if_neg (Ne.symm ne)
    cases field <;> simp [Field.value, UserChanges.applyTo, Query.assigned?]
  | changePassword seen hr =>
    subst hr
    refine p.update seen rfl (fun field => ?_) fun other field ne => ?_
    · cases field <;> simp [Field.value, PasswordChange.applyTo, Query.assigned?]
    · cases field <;> simp [Query.assigned?, Ne.symm ne]
  | read reads => cases q <;> first | cases reads; done | exact p.keep rfl fun _ _ => rfl
  | _ => exact p.keep rfl fun _ _ => rfl

theorem published (p : Profiled committed own deeds) :
    Profiled (committed.publish own.written own.deleted) {} deeds := by
  have same : ∀ now name, (alone (committed.publish own.written own.deleted) {} now).user? name =
      (alone committed own now).user? name := fun now name =>
    (alone committed own now).publish_user? name
  exact ⟨fun now _ _ h => p.shaped now ((same ..).symm.trans h),
    fun now _ h => p.unknown now ((same ..).symm.trans h)⟩

end Profiled

-- ---------------------------------------------------------------------------
-- Runs
-- ---------------------------------------------------------------------------

namespace System

/-- What is promised of the fields of committed users. -/
structure ProfilesKept {Name : Type} {Result : Name → Type} (sys : System Result) : Prop where
  shaped : ∀ {name row}, sys.store.committed.users.get? name = some row →
    Shaped (deedsOf sys.history) name row
  /-- Where no committed change breaks a shape, no user is without it. -/
  wellShaped : (∀ d ∈ deedsOf sys.history, ∀ name field value,
      d.query.assigned? name field = some value → field.Fits value) →
    ∀ {name row}, sys.store.committed.users.get? name = some row → row.WellShaped

/-- The name of every committed user has the right shape, and it is only the last committed change
of another field that can leave that field without it. -/
theorem profilesKept_run {Name : Type} [DecidableEq Name] {Result : Name → Type}
    (connections : Nat) (programs : (name : Name) → Program (Result name))
    (happenings : List (Happening Name)) :
    ((start connections programs).run happenings).ProfilesKept := by
  have r := replayed_run connections programs happenings
  have p := replay_induction (motive := Profiled) (fun p did => p.did did) Profiled.published
    .empty .empty r.committed
  have shaped : ∀ {name row},
      ((start connections programs).run happenings).store.committed.users.get? name = some row →
        Shaped (deedsOf ((start connections programs).run happenings).history) name row :=
    fun found => (p.shaped default found).of_filter
  exact ⟨shaped, fun kept _ _ found => (shaped found).wellShaped kept⟩

def reshaping : Fin 3 → Query
  | 0 => .createUser ⟨"alice", "Alice", "a@x", "h"⟩
  | 1 => .updateUser { username := "alice", fullName := some " ", email := some "nowhere" }
  | 2 => .changePassword ⟨"alice", "", default⟩

/-- Two changes leave a user without the shape of any field but the name. -/
theorem profile_misshapen :
    ((start 1 fun name => (reshaping name).run).run
      (steps 0 8 ++ steps 1 8 ++ steps 2 8)).store.committed.users.get? "alice" =
        some ⟨"alice", " ", "nowhere", "", default, none, default⟩ ∧
      ∀ field : Field,
        ¬field.Fits (field.value ⟨"alice", " ", "nowhere", "", default, none, default⟩) := by
  refine ⟨by decide +kernel, fun field => ?_⟩
  cases field <;> simp only [Field.Fits] <;> decide

end System

end Store

end Passbook
