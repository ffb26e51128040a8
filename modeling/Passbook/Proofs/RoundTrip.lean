import Passbook.Outbox.Message
import Passbook.Proofs.Timestamps
import Passbook.Proofs.Uuids
import Passbook.Session
import Passbook.Transfer

/-!
# Records read back

A codec is lawful when it reads back every value that it writes. The codecs of the values in fields
are lawful one by one; a record is lawful when those of its fields are, for a field is found under
its name past the fields written before it. The user is the exception: its hash is not written, so
it comes back without one, and that is all that is lost (`records_readBack`).
-/
namespace Passbook

/-- What is written is read back. -/
class LawfulCodec (α : Type) [Encode α] [Decode α] : Prop where
  decode_encode : ∀ a : α, decode (encode a) = some a

/-- No value is written as the absent one. -/
class NeverNull (α : Type) [Encode α] : Prop where
  encode_ne_null : ∀ a : α, encode a ≠ .null

export LawfulCodec (decode_encode)
export NeverNull (encode_ne_null)

-- -----------------------------------------------------------------------------
-- Values
-- -----------------------------------------------------------------------------

instance : LawfulCodec Json := ⟨fun _ => rfl⟩

instance : LawfulCodec Bool := ⟨fun _ => rfl⟩

instance : LawfulCodec String := ⟨fun _ => rfl⟩

instance : LawfulCodec Int64 where
  decode_encode n := by
    show (if _ then _ else _) = some n
    rw [if_pos ⟨n.minValue_le_toInt, n.toInt_le⟩, Int64.ofInt_toInt]

instance : LawfulCodec UInt32 where
  decode_encode n := by
    show (if _ then _ else _) = some n
    rw [if_pos ⟨by omega, by exact_mod_cast n.toNat_lt⟩, Int.toNat_natCast, UInt32.ofNat_toNat]

instance : LawfulCodec Instant := ⟨Time.parse?_render⟩

instance : LawfulCodec Uuid := ⟨Uuid.parse?_render⟩

instance {kind : RowKind} : LawfulCodec (Id kind) where
  decode_encode id := by
    show (decode (encode id.value)).map Id.mk = some id
    rw [decode_encode, Option.map_some]

instance : LawfulCodec SessionId where
  decode_encode id := by
    show (decode (encode id.uuid)).map SessionId.mk = some id
    rw [decode_encode, Option.map_some]

instance : LawfulCodec Currency where
  decode_encode currency := by
    show (Currency.ofCode currency.code).toOption = some currency
    rw [Currency.ofCode, dif_pos currency.wellFormed]
    rfl

instance : LawfulCodec Outbox.Status where
  decode_encode status := by cases status <;> decide

instance : NeverNull String := ⟨fun _ h => nomatch h⟩

instance : NeverNull Instant := ⟨fun _ h => nomatch h⟩

instance {α : Type} [Encode α] [Decode α] [LawfulCodec α] [NeverNull α] :
    LawfulCodec (Option α) where
  decode_encode
    | none => rfl
    | some a => by
      have present := encode_ne_null a
      show (match encode a with | .null => some none | json => (decode json).map some) = _
      split
      · contradiction
      · rw [decode_encode, Option.map_some]

-- -----------------------------------------------------------------------------
-- Fields
-- -----------------------------------------------------------------------------

namespace Fields

variable {α : Type} [Decode α] {names : List String} {name other : String} {json : Json}
  {rest : List (String × Json)}

/-- The fields of an object. -/
def ofList (fields : List (String × Json)) : Fields := fun name => fields.lookup name

@[simp]
theorem fields?_object : (Json.object rest).fields? names = some (ofList rest) := rfl

theorem ofList_head : ofList ((name, json) :: rest) name = some json := by
  simp [ofList]

theorem ofList_tail (h : name ≠ other) :
    ofList ((other, json) :: rest) name = ofList rest name := by
  simp [ofList, List.lookup_cons, beq_false_of_ne h]

@[simp]
theorem required_head [Encode α] [LawfulCodec α] (a : α) :
    (ofList ((name, encode a) :: rest)).required name = some a := by
  rw [required, ofList_head, Option.bind_some, decode_encode]

@[simp]
theorem required_json : (ofList ((name, json) :: rest)).required name = some json := by
  rw [required, ofList_head, Option.bind_some]
  rfl

@[simp]
theorem required_tail (h : name ≠ other) :
    (ofList ((other, json) :: rest)).required (α := α) name = (ofList rest).required name := by
  rw [required, ofList_tail h, required]

@[simp]
theorem optional_head [Encode α] [LawfulCodec α] [NeverNull α] (a : Option α) :
    (ofList ((name, encode a) :: rest)).optional name = some a := by
  simp only [optional, ofList_head, decode_encode]

@[simp]
theorem optional_tail (h : name ≠ other) :
    (ofList ((other, json) :: rest)).optional (α := α) name = (ofList rest).optional name := by
  rw [optional, ofList_tail h, optional]

@[simp]
theorem withDefault_nil (a : α) : (ofList []).withDefault name a = some a := rfl

@[simp]
theorem withDefault_tail (h : name ≠ other) (a : α) :
    (ofList ((other, json) :: rest)).withDefault name a = (ofList rest).withDefault name a := by
  rw [withDefault, ofList_tail h, withDefault]

end Fields

-- -----------------------------------------------------------------------------
-- Records
-- -----------------------------------------------------------------------------

instance : LawfulCodec Money where
  decode_encode a := by
    show (Json.object _).fields? _ >>= _ = some a
    simp

instance : LawfulCodec Account where
  decode_encode a := by
    show (Json.object _).fields? _ >>= _ = some a
    simp

instance : LawfulCodec NewAccount where
  decode_encode a := by
    show (Json.object _).fields? _ >>= _ = some a
    simp

instance : LawfulCodec AccountPage where
  decode_encode a := by
    show (Json.object _).fields? _ >>= _ = some a
    simp

instance : LawfulCodec BalanceAdjustment where
  decode_encode a := by
    show (Json.object _).fields? _ >>= _ = some a
    simp

instance : LawfulCodec Entry where
  decode_encode a := by
    show (Json.object _).fields? _ >>= _ = some a
    simp

instance : LawfulCodec EntryPage where
  decode_encode a := by
    show (Json.object _).fields? _ >>= _ = some a
    simp

instance : LawfulCodec Transfer where
  decode_encode a := by
    show (Json.object _).fields? _ >>= _ = some a
    simp

instance : LawfulCodec TransferRequest where
  decode_encode a := by
    show (Json.object _).fields? _ >>= _ = some a
    simp

instance : LawfulCodec Posting where
  decode_encode a := by
    show (Json.object _).fields? _ >>= _ = some a
    simp

instance : LawfulCodec NewUser where
  decode_encode a := by
    show (Json.object _).fields? _ >>= _ = some a
    simp

instance : LawfulCodec UserChanges where
  decode_encode a := by
    show (Json.object _).fields? _ >>= _ = some a
    simp

instance : LawfulCodec PasswordChange where
  decode_encode a := by
    show (Json.object _).fields? _ >>= _ = some a
    simp

instance : LawfulCodec Session where
  decode_encode a := by
    show (Json.object _).fields? _ >>= _ = some a
    simp

instance : LawfulCodec NewSession where
  decode_encode a := by
    show (Json.object _).fields? _ >>= _ = some a
    simp

instance : LawfulCodec Outbox.Message where
  decode_encode a := by
    show (Json.object _).fields? _ >>= _ = some a
    simp

instance : LawfulCodec Outbox.NewMessage where
  decode_encode a := by
    show (Json.object _).fields? _ >>= _ = some a
    simp

namespace User

theorem decode_encode_user (user : User) :
    decode (encode user) = some { user with hashedPassword := "" } := by
  show (Json.object _).fields? _ >>= _ = _
  simp

theorem encode_withHash (user : User) (hash : String) :
    encode { user with hashedPassword := hash } = encode user := rfl

/-- Two users are written alike just when they differ at most in their hashes. -/
theorem encode_eq_iff {a b : User} :
    encode a = encode b ↔ { a with hashedPassword := "" } = { b with hashedPassword := "" } := by
  constructor
  · intro h
    have same : (decode (encode a) : Option User) = decode (encode b) := by rw [h]
    rw [decode_encode_user, decode_encode_user] at same
    exact Option.some.inj same
  · intro h
    rw [← encode_withHash a "", h, encode_withHash]

end User

/-- Every record but the user is read back as it was written. A user comes back without its hash,
of which its JSON tells nothing. -/
theorem records_readBack :
    (∀ a : Money, decode (encode a) = some a) ∧
    (∀ a : Account, decode (encode a) = some a) ∧
    (∀ a : NewAccount, decode (encode a) = some a) ∧
    (∀ a : AccountPage, decode (encode a) = some a) ∧
    (∀ a : BalanceAdjustment, decode (encode a) = some a) ∧
    (∀ a : Entry, decode (encode a) = some a) ∧
    (∀ a : EntryPage, decode (encode a) = some a) ∧
    (∀ a : Transfer, decode (encode a) = some a) ∧
    (∀ a : TransferRequest, decode (encode a) = some a) ∧
    (∀ a : Posting, decode (encode a) = some a) ∧
    (∀ a : NewUser, decode (encode a) = some a) ∧
    (∀ a : UserChanges, decode (encode a) = some a) ∧
    (∀ a : PasswordChange, decode (encode a) = some a) ∧
    (∀ a : Session, decode (encode a) = some a) ∧
    (∀ a : NewSession, decode (encode a) = some a) ∧
    (∀ a : Outbox.Message, decode (encode a) = some a) ∧
    (∀ a : Outbox.NewMessage, decode (encode a) = some a) ∧
    (∀ user : User, decode (encode user) = some { user with hashedPassword := "" }) ∧
    ∀ a b : User,
      encode a = encode b ↔ { a with hashedPassword := "" } = { b with hashedPassword := "" } := by
  exact ⟨decode_encode, decode_encode, decode_encode, decode_encode, decode_encode, decode_encode,
    decode_encode, decode_encode, decode_encode, decode_encode, decode_encode, decode_encode,
    decode_encode, decode_encode, decode_encode, decode_encode, decode_encode,
    User.decode_encode_user, fun _ _ => User.encode_eq_iff⟩

end Passbook
