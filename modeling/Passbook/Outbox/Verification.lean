import Passbook.Outbox.Message

/-!
# Verification tasks

When a user signs up, a mail has to be sent that asks for a confirmation of the address. The task
is a message whose payload names the user.
-/
namespace Passbook.Outbox

/-- The task to send a verification mail. -/
structure VerificationTask where
  username : String
  deriving DecidableEq, Repr

namespace VerificationTask

def topic : String := "task:send_verify_email"

def payload (task : VerificationTask) : Json := .object [("username", .string task.username)]

def ofPayload? (payload : Json) : Option VerificationTask := do
  let fields ← payload.fields? ["username"]
  pure ⟨← fields.required "username"⟩

def message (task : VerificationTask) : NewMessage := { topic, payload := task.payload }

instance : Encode VerificationTask := ⟨payload⟩

end VerificationTask

end Passbook.Outbox
