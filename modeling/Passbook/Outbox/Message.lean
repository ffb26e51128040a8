import Passbook.Id
import Passbook.Time.Rfc3339

/-!
# Outbox messages

A message is a side effect that was recorded together with the change that caused it. It is pending
until it is delivered or given up, and while pending it waits for the instant at which it may be
tried again.
-/
namespace Passbook.Outbox

/-- How far the delivery of a message has come. -/
inductive Status
  | pending
  | delivered
  | deadLettered
  deriving DecidableEq, Repr

namespace Status

def name : Status → String
  | .pending => "pending"
  | .delivered => "delivered"
  | .deadLettered => "dead_lettered"

def ofName? : String → Option Status
  | "pending" => some .pending
  | "delivered" => some .delivered
  | "dead_lettered" => some .deadLettered
  | _ => none

def parse (text : String) : Except Error Status :=
  match ofName? text with
  | some status => .ok status
  | none => .error (.validation s!"unknown outbox status: {text}")

/-- Nothing more is done with the message. -/
def isTerminal (status : Status) : Bool := status ≠ .pending

instance : Encode Status := ⟨fun status => .string status.name⟩
instance : Decode Status := ⟨fun json => json.enumName?.bind ofName?⟩

end Status

structure Message where
  id : OutboxId
  /-- Tells which handler delivers the message. -/
  topic : String
  payload : Json
  status : Status
  /-- Deliveries tried so far. -/
  attempts : UInt32
  lastError : Option String
  /-- The message is not tried before this instant. -/
  availableAt : Instant
  deliveredAt : Option Instant
  createdAt : Instant
  deriving DecidableEq

namespace Message

def isDue (message : Message) (now : Instant) : Bool :=
  message.status = .pending && message.availableAt ≤ now

def delivered (message : Message) (instant : Instant) : Message :=
  { message with
    status := .delivered
    attempts := message.attempts + 1
    deliveredAt := some instant }

/-- The message once a delivery has failed: it waits for the retry, or is given up without one. -/
def failed (message : Message) (reason : String) (retryAt : Option Instant) : Message :=
  match retryAt with
  | some instant =>
    { message with
      attempts := message.attempts + 1
      lastError := some reason
      status := .pending
      availableAt := instant }
  | none =>
    { message with
      attempts := message.attempts + 1
      lastError := some reason
      status := .deadLettered }

instance : Encode Message :=
  ⟨fun m => .object [("id", encode m.id), ("topic", encode m.topic), ("payload", m.payload),
    ("status", encode m.status), ("attempts", encode m.attempts),
    ("last_error", encode m.lastError), ("available_at", encode m.availableAt),
    ("delivered_at", encode m.deliveredAt), ("created_at", encode m.createdAt)]⟩

instance : Decode Message :=
  ⟨fun json => do
    let fields ← json.fields? ["id", "topic", "payload", "status", "attempts", "last_error",
      "available_at", "delivered_at", "created_at"]
    pure ⟨← fields.required "id", ← fields.required "topic", ← fields.required "payload",
      ← fields.required "status", ← fields.required "attempts", ← fields.optional "last_error",
      ← fields.required "available_at", ← fields.optional "delivered_at",
      ← fields.required "created_at"⟩⟩

end Message

/-- A message to be recorded; it is available at once unless it says when. -/
structure NewMessage where
  topic : String
  payload : Json
  availableAt : Option Instant := none
  deriving DecidableEq

namespace NewMessage

/-- The same message, held back until an instant. -/
def delayedUntil (message : NewMessage) (instant : Instant) : NewMessage :=
  { message with availableAt := some instant }

def record (message : NewMessage) (id : OutboxId) (now : Instant) : Message where
  id
  topic := message.topic
  payload := message.payload
  status := .pending
  attempts := 0
  lastError := none
  availableAt := message.availableAt.getD now
  deliveredAt := none
  createdAt := now

instance : Encode NewMessage :=
  ⟨fun m => .object [("topic", encode m.topic), ("payload", m.payload),
    ("available_at", encode m.availableAt)]⟩

instance : Decode NewMessage :=
  ⟨fun json => do
    let fields ← json.fields? ["topic", "payload", "available_at"]
    pure ⟨← fields.required "topic", ← fields.required "payload", ← fields.optional "available_at"⟩⟩

end NewMessage

end Passbook.Outbox
