import Passbook.Id
import Passbook.Text.Blank
import Passbook.Time.Rfc3339

/-!
# Users

A user is named by a username that never changes. The password is kept as a hash that others have
made, and the hash is never written out: a user read back from its JSON has none.
-/
namespace Passbook

structure User where
  username : String
  fullName : String
  email : String
  hashedPassword : String
  passwordChangedAt : Instant
  emailVerifiedAt : Option Instant
  createdAt : Instant
  deriving DecidableEq, Repr

namespace User

def isEmailVerified (user : User) : Bool := user.emailVerifiedAt.isSome

instance : Encode User :=
  ⟨fun u => .object [("username", encode u.username), ("full_name", encode u.fullName),
    ("email", encode u.email), ("password_changed_at", encode u.passwordChangedAt),
    ("email_verified_at", encode u.emailVerifiedAt), ("created_at", encode u.createdAt)]⟩

instance : Decode User :=
  ⟨fun json => do
    let fields ← json.fields? ["username", "full_name", "email", "hashed_password",
      "password_changed_at", "email_verified_at", "created_at"]
    pure ⟨← fields.required "username", ← fields.required "full_name", ← fields.required "email",
      ← fields.withDefault "hashed_password" "", ← fields.required "password_changed_at",
      ← fields.optional "email_verified_at", ← fields.required "created_at"⟩⟩

end User

/-- Three to a hundred lower-case letters, digits and underscores. -/
def isUsername (username : String) : Bool :=
  3 ≤ username.utf8ByteSize && username.utf8ByteSize ≤ 100 &&
    username.toList.all fun c => ('a' ≤ c && c ≤ 'z') || ('0' ≤ c && c ≤ '9') || c = '_'

structure NewUser where
  username : String
  fullName : String
  email : String
  hashedPassword : String
  deriving DecidableEq, Repr

namespace NewUser

/-- The shape of a user's fields; that names are unique is up to the store. -/
def validate (user : NewUser) : Except Error Unit :=
  if !isUsername user.username then
    .error (.validation "username must be 3-100 lowercase letters, digits or underscores")
  else if Text.allBlank user.fullName then .error (.validation "full name must not be empty")
  else if !user.email.toList.contains '@' then .error (.validation "email is not valid")
  else if user.hashedPassword = "" then .error (.validation "password hash must not be empty")
  else .ok ()

instance : Encode NewUser :=
  ⟨fun u => .object [("username", encode u.username), ("full_name", encode u.fullName),
    ("email", encode u.email), ("hashed_password", encode u.hashedPassword)]⟩

instance : Decode NewUser :=
  ⟨fun json => do
    let fields ← json.fields? ["username", "full_name", "email", "hashed_password"]
    pure ⟨← fields.required "username", ← fields.required "full_name", ← fields.required "email",
      ← fields.required "hashed_password"⟩⟩

end NewUser

/-- Changes of a user's profile; what is absent stays as it is. -/
structure UserChanges where
  username : String
  fullName : Option String := none
  email : Option String := none
  emailVerifiedAt : Option Instant := none
  deriving DecidableEq, Repr

namespace UserChanges

def applyTo (changes : UserChanges) (user : User) : User :=
  { user with
    fullName := changes.fullName.getD user.fullName
    email := changes.email.getD user.email
    emailVerifiedAt := changes.emailVerifiedAt <|> user.emailVerifiedAt }

instance : Encode UserChanges :=
  ⟨fun c => .object [("username", encode c.username), ("full_name", encode c.fullName),
    ("email", encode c.email), ("email_verified_at", encode c.emailVerifiedAt)]⟩

instance : Decode UserChanges :=
  ⟨fun json => do
    let fields ← json.fields? ["username", "full_name", "email", "email_verified_at"]
    pure ⟨← fields.required "username", ← fields.optional "full_name", ← fields.optional "email",
      ← fields.optional "email_verified_at"⟩⟩

end UserChanges

structure PasswordChange where
  username : String
  hashedPassword : String
  passwordChangedAt : Instant
  deriving DecidableEq, Repr

namespace PasswordChange

def applyTo (change : PasswordChange) (user : User) : User :=
  { user with
    hashedPassword := change.hashedPassword
    passwordChangedAt := change.passwordChangedAt }

instance : Encode PasswordChange :=
  ⟨fun c => .object [("username", encode c.username), ("hashed_password", encode c.hashedPassword),
    ("password_changed_at", encode c.passwordChangedAt)]⟩

instance : Decode PasswordChange :=
  ⟨fun json => do
    let fields ← json.fields? ["username", "hashed_password", "password_changed_at"]
    pure ⟨← fields.required "username", ← fields.required "hashed_password",
      ← fields.required "password_changed_at"⟩⟩

end PasswordChange

end Passbook
