import Mathlib.Algebra.Ring.Int.Defs
import Passbook.Id
import Passbook.Proofs.Numerals
import Passbook.Proofs.Uuids

/-!
# Identifiers as text

An identifier of a row is read from the numerals of the 64-bit words and from no other text, and a
session's from the spellings of its UUID. What is written of an identifier is read back as it
(`identifiers_readBack`).
-/

namespace Passbook

open Text (Signed)

namespace Id

variable {kind : RowKind} {text : String}

theorem parse_ok {id : Id kind} :
    parse kind text = .ok id ↔ Signed text.toList id.value.toInt := by
  rw [← Text.parseInt64_ok]
  unfold parse
  cases Text.parseInt64 text with
  | error fault => simp
  | ok n =>
    simp only [Except.ok.injEq]
    exact ⟨fun h => h ▸ rfl, fun h => h ▸ rfl⟩

theorem parse_render (id : Id kind) : parse kind id.render = .ok id :=
  parse_ok.mpr (Text.signed_toString _)

/-- The words are the whole numbers of 64 bits with a sign. -/
theorem exists_parse_ok : (∃ id : Id kind, parse kind text = .ok id) ↔
    ∃ n, Signed text.toList n ∧ -2 ^ 63 ≤ n ∧ n < 2 ^ 63 := by
  simp only [parse_ok]
  constructor
  · rintro ⟨id, signed⟩
    exact ⟨_, signed, id.value.le_toInt, id.value.toInt_lt⟩
  · rintro ⟨n, signed, low, high⟩
    refine ⟨⟨Int64.ofInt n⟩, ?_⟩
    rwa [Int64.toInt_ofInt_of_le low high]

theorem parse_fails : (∃ reason, parse kind text = .error (.validation reason)) ↔
    ¬∃ id : Id kind, parse kind text = .ok id := by
  unfold parse
  cases Text.parseInt64 text <;> simp

end Id

theorem SessionId.parse_ok {id : SessionId} {text : String} :
    SessionId.parse text = .ok id ↔
      ∃ spelling, text.toList.map Char.toLower = id.uuid.spelled spelling := by
  rw [← Uuid.parse?_eq_some]
  unfold SessionId.parse
  cases Uuid.parse? text with
  | none => simp
  | some uuid =>
    simp only [Except.ok.injEq, Option.some.injEq]
    exact ⟨fun h => h ▸ rfl, fun h => h ▸ rfl⟩

/-- What is written of an identifier is read back. The number of a row is read from its numerals,
and a text that is no numeral of a 64-bit word is not valid. A session's UUID is written with
hyphens in lower case and read from any of its spellings, in letters of either case. -/
theorem identifiers_readBack :
    (∀ (kind : RowKind) (id : Id kind), Id.parse kind id.render = .ok id) ∧
    (∀ (kind : RowKind) (text : String),
      (∀ id : Id kind, Id.parse kind text = .ok id ↔ Signed text.toList id.value.toInt) ∧
      ((∃ id : Id kind, Id.parse kind text = .ok id) ↔
        ∃ n, Signed text.toList n ∧ -2 ^ 63 ≤ n ∧ n < 2 ^ 63) ∧
      ((∃ reason, Id.parse kind text = .error (.validation reason)) ↔
        ¬∃ n, Signed text.toList n ∧ -2 ^ 63 ≤ n ∧ n < 2 ^ 63)) ∧
    ∀ id : SessionId, id.render.toList = id.uuid.hyphenated ∧ SessionId.parse id.render = .ok id ∧
      ∀ text, SessionId.parse text = .ok id ↔
        ∃ spelling, text.toList.map Char.toLower = id.uuid.spelled spelling := by
  refine ⟨fun _ => Id.parse_render, fun kind text => ⟨fun _ => Id.parse_ok, Id.exists_parse_ok, ?_⟩,
    fun id => ⟨?_, ?_, fun _ => SessionId.parse_ok⟩⟩
  · rw [← @Id.exists_parse_ok kind, Id.parse_fails]
  · exact id.uuid.toList_render
  · exact SessionId.parse_ok.mpr ⟨.hyphenated, id.uuid.toLower_render⟩

end Passbook
