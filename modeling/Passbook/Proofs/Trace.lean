import Passbook.Work.Dialogue

/-!
# Traces

A trace of a dialogue is what it asks for, operation by operation, with the replies that it gets.
The surroundings are free to reply anything, so what holds of all traces of a program holds on every
store and every server. Every trace is the beginning of a run that comes to an end (`extend`).
-/

namespace Passbook.Dialogue

variable {Op Op' : Type} {Reply : Op → Type} {Reply' : Op' → Type} {α β : Type}

/-- An operation with its reply. -/
abbrev Step (Reply : Op → Type) := (op : Op) × Reply op

/-- The dialogue asks for the operations of `steps`, gets their replies, and goes on as `rest`. -/
inductive Trace : Dialogue Reply α → List (Step Reply) → Dialogue Reply α → Prop
  | nil {d : Dialogue Reply α} : Trace d [] d
  | cons {op : Op} {reply : Reply op} {next : Reply op → Dialogue Reply α} :
      Trace (next reply) steps rest → Trace (.ask op next) (⟨op, reply⟩ :: steps) rest

/-- The dialogue asks for these operations, gets these replies, and ends with the result. -/
abbrev Runs (d : Dialogue Reply α) (steps : List (Step Reply)) (result : α) : Prop :=
  d.Trace steps (.done result)

namespace Trace

variable {d rest : Dialogue Reply α} {steps more : List (Step Reply)}

theorem trans (h : d.Trace steps rest) (h' : rest.Trace more last) :
    d.Trace (steps ++ more) last := by
  induction h with
  | nil => exact h'
  | cons _ ih => exact .cons (ih h')

theorem ends [∀ op, Nonempty (Reply op)] (d : Dialogue Reply α) :
    ∃ steps result, d.Runs steps result := by
  induction d with
  | done result => exact ⟨[], result, .nil⟩
  | ask op next ih =>
    obtain ⟨reply⟩ := (inferInstance : Nonempty (Reply op))
    obtain ⟨steps, result, runs⟩ := ih reply
    exact ⟨⟨op, reply⟩ :: steps, result, .cons runs⟩

theorem extend [∀ op, Nonempty (Reply op)] (h : d.Trace steps rest) :
    ∃ more result, d.Runs (steps ++ more) result := by
  obtain ⟨more, result, runs⟩ := ends rest
  exact ⟨more, result, h.trans runs⟩

@[simp] theorem done_iff {a : α} : Trace (.done a : Dialogue Reply α) steps rest ↔
    steps = [] ∧ rest = .done a := by
  constructor
  · rintro ⟨⟩
    exact ⟨rfl, rfl⟩
  · rintro ⟨rfl, rfl⟩
    exact .nil

theorem nil_iff : d.Trace [] rest ↔ d = rest := by
  constructor
  · rintro ⟨⟩
    rfl
  · rintro rfl
    exact .nil

theorem ask_runs {op : Op} {next : Reply op → Dialogue Reply α} {result : α} :
    Runs (.ask op next) steps result ↔
      ∃ reply rest, steps = ⟨op, reply⟩ :: rest ∧ (next reply).Runs rest result := by
  constructor
  · rintro (_ | h)
    exact ⟨_, _, rfl, h⟩
  · rintro ⟨reply, rest, rfl, h⟩
    exact .cons h

/-- The replies decide how a run goes and what comes of it. -/
theorem unique {first first' : List (Step Reply)} {a a' : α} (h : d.Runs first a)
    (h' : d.Runs first' a') (same : first ++ more = first' ++ more') :
    first = first' ∧ a = a' := by
  induction d generalizing first first' with
  | done b =>
    obtain ⟨rfl, ha⟩ := done_iff.mp h
    obtain ⟨rfl, ha'⟩ := done_iff.mp h'
    exact ⟨rfl, Dialogue.done.inj (ha.trans ha'.symm)⟩
  | ask op next ih =>
    obtain ⟨reply, rest, rfl, hrest⟩ := ask_runs.mp h
    obtain ⟨reply', rest', rfl, hrest'⟩ := ask_runs.mp h'
    obtain ⟨one, others⟩ := List.cons.inj same
    cases one
    obtain ⟨rfl, rfl⟩ := ih reply hrest hrest' others
    exact ⟨rfl, rfl⟩

theorem andThen_runs {f : α → Dialogue Reply β} {result : β} :
    (d.andThen f).Runs steps result ↔
      ∃ a first second, steps = first ++ second ∧ d.Runs first a ∧ (f a).Runs second result := by
  constructor
  · intro h
    induction d generalizing steps with
    | done a => exact ⟨a, [], steps, rfl, .nil, h⟩
    | ask op next ih =>
      obtain ⟨reply, rest, rfl, hrest⟩ := ask_runs.mp h
      obtain ⟨a, first, second, rfl, hd, hf⟩ := ih reply hrest
      exact ⟨a, ⟨op, reply⟩ :: first, second, rfl, .cons hd, hf⟩
  · rintro ⟨a, first, second, rfl, hd, hf⟩
    induction first generalizing d with
    | nil =>
      obtain rfl : d = .done a := by cases hd; rfl
      exact hf
    | cons step first ih =>
      cases hd with
      | cons hd => exact .cons (ih hd)

theorem perform_runs {op : Op} {f : Reply op → Dialogue Reply β} {result : β} :
    ((perform op).andThen f).Runs steps result ↔
      ∃ reply rest, steps = ⟨op, reply⟩ :: rest ∧ (f reply).Runs rest result := ask_runs

theorem map_runs {f : α → β} {result : β} :
    (d.andThen fun a => .done (f a)).Runs steps result ↔ ∃ a, d.Runs steps a ∧ f a = result := by
  constructor
  · intro h
    obtain ⟨a, first, second, rfl, hd, hend⟩ := andThen_runs.mp h
    obtain ⟨rfl, hr⟩ := done_iff.mp hend
    cases hr
    exact ⟨a, by rwa [List.append_nil], rfl⟩
  · rintro ⟨a, hd, rfl⟩
    exact andThen_runs.mpr ⟨a, steps, [], (List.append_nil _).symm, hd, .nil⟩

theorem embed_runs {wrap : Op → Op'} {result : α} {steps : List (Step Reply')}
    {unwrap : ∀ op, Reply' (wrap op) → Reply op} :
    (d.embed wrap unwrap).Runs steps result ↔
      ∃ inner : List ((op : Op) × Reply' (wrap op)), steps = inner.map (fun s => ⟨wrap s.1, s.2⟩) ∧
        d.Runs (inner.map fun s => ⟨s.1, unwrap s.1 s.2⟩) result := by
  induction d generalizing steps with
  | done a =>
    constructor
    · rintro ⟨⟩
      exact ⟨[], rfl, .nil⟩
    · rintro ⟨inner, rfl, h⟩
      cases inner with
      | nil =>
        cases h
        exact .nil
      | cons => exact nomatch h
  | ask op next ih =>
    constructor
    · intro h
      obtain ⟨reply, rest, rfl, hrest⟩ := ask_runs.mp h
      obtain ⟨inner, rfl, hinner⟩ := (ih _).mp hrest
      exact ⟨⟨op, reply⟩ :: inner, rfl, .cons hinner⟩
    · rintro ⟨inner, rfl, h⟩
      cases inner with
      | nil => exact nomatch h
      | cons step inner =>
        obtain ⟨_, reply⟩ := step
        cases h with
        | cons h => exact .cons ((ih _).mpr ⟨inner, rfl, h⟩)

end Trace

end Passbook.Dialogue
