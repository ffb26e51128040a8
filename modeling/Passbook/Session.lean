import Passbook.User

/-!
# Sessions

A session is a refresh token that was issued to a user. It can be used until it expires, unless it
has been revoked before.
-/
namespace Passbook

structure Session where
  id : SessionId
  username : String
  refreshToken : String
  userAgent : String
  clientIp : String
  isBlocked : Bool
  expiresAt : Instant
  createdAt : Instant
  deriving DecidableEq, Repr

namespace Session

def isUsable (session : Session) (now : Instant) : Bool :=
  !session.isBlocked && now < session.expiresAt

def revoked (session : Session) : Session := { session with isBlocked := true }

instance : Encode Session :=
  ⟨fun s => .object [("id", encode s.id), ("username", encode s.username),
    ("refresh_token", encode s.refreshToken), ("user_agent", encode s.userAgent),
    ("client_ip", encode s.clientIp), ("is_blocked", encode s.isBlocked),
    ("expires_at", encode s.expiresAt), ("created_at", encode s.createdAt)]⟩

instance : Decode Session :=
  ⟨fun json => do
    let fields ← json.fields? ["id", "username", "refresh_token", "user_agent", "client_ip",
      "is_blocked", "expires_at", "created_at"]
    pure ⟨← fields.required "id", ← fields.required "username", ← fields.required "refresh_token",
      ← fields.required "user_agent", ← fields.required "client_ip",
      ← fields.required "is_blocked", ← fields.required "expires_at",
      ← fields.required "created_at"⟩⟩

end Session

/-- A session to be issued; its name is chosen by the issuer. -/
structure NewSession where
  id : SessionId
  username : String
  refreshToken : String
  userAgent : String
  clientIp : String
  expiresAt : Instant
  deriving DecidableEq, Repr

namespace NewSession

/-- The session as issued at an instant. -/
def issue (session : NewSession) (now : Instant) : Session where
  id := session.id
  username := session.username
  refreshToken := session.refreshToken
  userAgent := session.userAgent
  clientIp := session.clientIp
  isBlocked := false
  expiresAt := session.expiresAt
  createdAt := now

instance : Encode NewSession :=
  ⟨fun s => .object [("id", encode s.id), ("username", encode s.username),
    ("refresh_token", encode s.refreshToken), ("user_agent", encode s.userAgent),
    ("client_ip", encode s.clientIp), ("expires_at", encode s.expiresAt)]⟩

instance : Decode NewSession :=
  ⟨fun json => do
    let fields ← json.fields? ["id", "username", "refresh_token", "user_agent", "client_ip",
      "expires_at"]
    pure ⟨← fields.required "id", ← fields.required "username", ← fields.required "refresh_token",
      ← fields.required "user_agent", ← fields.required "client_ip",
      ← fields.required "expires_at"⟩⟩

end NewSession

end Passbook
