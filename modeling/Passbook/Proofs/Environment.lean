import Passbook.Settings
import Passbook.Proofs.Numerals
import Passbook.Proofs.Results

/-!
# Settings from the surroundings

Which surroundings give settings, said without the reader: the address is set, and every numeric
variable is unset or set to a numeral in its range, with nothing but blanks around it. The settings
are then the ones that the variables give, and otherwise the error is the first one in the order of
reading (`ofEnvironment_decides`).
-/

namespace Passbook

open Text (Numeral)

/-- A numeric variable of the surroundings. The numbers that it takes are below the bound. -/
structure Variable where
  name : String
  bound : Nat
  /-- The number when the variable is not set. -/
  default : Nat
  bound_pos : 0 < bound := by decide

namespace Variable

def connections : Variable := ⟨"DB_MAX_CONNECTIONS", UInt32.size, 10, by decide⟩

def acquisition : Variable := ⟨"DB_ACQUIRE_TIMEOUT_MS", UInt64.size, 5000, by decide⟩

def statement : Variable := ⟨"DB_STATEMENT_TIMEOUT_MS", UInt64.size, 30000, by decide⟩

def lock : Variable := ⟨"DB_LOCK_TIMEOUT_MS", UInt64.size, 5000, by decide⟩

/-- The numeric variables in the order of reading. -/
def all : List Variable := [connections, acquisition, statement, lock]

/-- The number that the surroundings give to a variable. -/
inductive Gives (env : Environment) (v : Variable) : Nat → Prop
  | unset : env v.name = none → Gives env v v.default
  | set : env v.name = some raw → Numeral raw n → n < v.bound → Gives env v n

/-- The text that the variable is set to is no numeral in its range. -/
def IllFormed (env : Environment) (v : Variable) (raw : String) : Prop :=
  env v.name = some raw ∧ ∀ n, Numeral raw n → v.bound ≤ n

/-- The error names the first ill-formed variable and the text that it is set to. -/
inductive FirstFault (env : Environment) : List Variable → SettingsError → Prop
  | here : v.IllFormed env raw → FirstFault env (v :: rest) (.invalid v.name raw)
  | later : v.Gives env n → FirstFault env rest e → FirstFault env (v :: rest) e

variable {env : Environment} {v : Variable} {n : Nat} {e : SettingsError} {rest : List Variable}

def read (env : Environment) (v : Variable) : Except SettingsError Nat :=
  env.number v.name v.bound v.default

theorem gives_of_set {raw : String} (set : env v.name = some raw) :
    v.Gives env n ↔ Numeral raw n ∧ n < v.bound := by
  constructor
  · rintro (unset | ⟨again, numeral, below⟩)
    · exact nomatch set.symm.trans unset
    · obtain rfl := Option.some.inj (set.symm.trans again)
      exact ⟨numeral, below⟩
  · rintro ⟨numeral, below⟩
    exact .set set numeral below

theorem illFormed_iff {raw : String} :
    v.IllFormed env raw ↔ env v.name = some raw ∧ ∀ n, ¬v.Gives env n := by
  constructor
  · rintro ⟨set, ill⟩
    simp only [set, gives_of_set set, not_and, Nat.not_lt, true_and]
    exact ill
  · rintro ⟨set, none⟩
    simp only [gives_of_set set, not_and, Nat.not_lt] at none
    exact ⟨set, none⟩

theorem read_ok : v.read env = .ok n ↔ v.Gives env n := by
  unfold read Environment.number
  cases set : env v.name with
  | none =>
    constructor
    · rintro ⟨⟩
      exact .unset set
    · rintro (_ | again)
      · rfl
      · exact nomatch set.symm.trans again
  | some raw =>
    rw [gives_of_set set, ← Text.parseNat_trim v.bound_pos]
    cases parsed : Text.parseNat v.bound (Text.trim raw) <;> simp [parsed]

theorem read_fails :
    v.read env = .error e ↔ ∃ raw, v.IllFormed env raw ∧ e = .invalid v.name raw := by
  simp only [illFormed_iff, ← read_ok, and_assoc]
  unfold read Environment.number
  cases set : env v.name with
  | none => simp
  | some raw =>
    cases parsed : Text.parseNat v.bound (Text.trim raw) <;> simp [parsed, eq_comm]

theorem firstFault_nil : ¬FirstFault env [] e := by
  rintro ⟨⟩

theorem firstFault_cons : FirstFault env (v :: rest) e ↔
    v.read env = .error e ∨ ∃ n, v.read env = .ok n ∧ FirstFault env rest e := by
  simp only [read_fails, read_ok]
  constructor
  · rintro (ill | ⟨gives, later⟩)
    · exact .inl ⟨_, ill, rfl⟩
    · exact .inr ⟨_, gives, later⟩
  · rintro (⟨raw, ill, rfl⟩ | ⟨n, gives, later⟩)
    · exact .here ill
    · exact .later gives later

end Variable

namespace LedgerSettings

open Variable

/-- The settings are those that the surroundings give. -/
structure ReadFrom (settings : LedgerSettings) (env : Environment) : Prop where
  databaseUrl : env "DATABASE_URL" = some settings.databaseUrl
  maxConnections : connections.Gives env settings.maxConnections
  acquireTimeout : acquisition.Gives env settings.acquireTimeout
  statementTimeout : statement.Gives env settings.statementTimeout
  lockTimeout : lock.Gives env settings.lockTimeout

/-- The surroundings give no settings, for this reason. -/
inductive Refused (env : Environment) : SettingsError → Prop
  | missing : env "DATABASE_URL" = none → Refused env (.missing "DATABASE_URL")
  | invalid : env "DATABASE_URL" = some url → FirstFault env Variable.all e → Refused env e

variable {env : Environment} {settings : LedgerSettings} {e : SettingsError}

theorem ofEnvironment_missing (missing : env "DATABASE_URL" = none) :
    ofEnvironment env = .error (.missing "DATABASE_URL") := by
  rw [ofEnvironment, missing]
  rfl

theorem ofEnvironment_set {url : String} (set : env "DATABASE_URL" = some url) :
    ofEnvironment env = (do
      let maxConnections ← connections.read env
      let acquireTimeout ← acquisition.read env
      let statementTimeout ← statement.read env
      let lockTimeout ← lock.read env
      pure ⟨url, maxConnections, acquireTimeout, statementTimeout, lockTimeout⟩) := by
  rw [ofEnvironment, set]
  rfl

theorem ofEnvironment_ok : ofEnvironment env = .ok settings ↔ settings.ReadFrom env := by
  cases set : env "DATABASE_URL" with
  | none =>
    rw [ofEnvironment_missing set]
    refine iff_of_false (fun h => nomatch h) fun h => ?_
    exact nomatch set.symm.trans h.databaseUrl
  | some url =>
    simp only [ofEnvironment_set set, bind_ok, pure_ok, read_ok]
    constructor
    · rintro ⟨_, h₁, _, h₂, _, h₃, _, h₄, rfl⟩
      exact ⟨set, h₁, h₂, h₃, h₄⟩
    · rintro ⟨again, h₁, h₂, h₃, h₄⟩
      obtain rfl := Option.some.inj (set.symm.trans again)
      exact ⟨_, h₁, _, h₂, _, h₃, _, h₄, rfl⟩

theorem ofEnvironment_fails : ofEnvironment env = .error e ↔ Refused env e := by
  cases set : env "DATABASE_URL" with
  | none =>
    rw [ofEnvironment_missing set]
    constructor
    · rintro ⟨⟩
      exact .missing set
    · rintro (_ | ⟨again, -⟩)
      · rfl
      · exact nomatch set.symm.trans again
  | some url =>
    have refused : Refused env e ↔ FirstFault env Variable.all e := by
      constructor
      · rintro (missing | ⟨-, fault⟩)
        · exact nomatch set.symm.trans missing
        · exact fault
      · exact .invalid set
    simp only [refused, ofEnvironment_set set, Variable.all, firstFault_cons, firstFault_nil,
      bind_fails, pure, Except.pure, reduceCtorEq, and_false, exists_false, or_false,
      exists_and_right]

/-- Settings are given if, and only if, the address is set and every numeric variable is unset or
set to a numeral in its range. They are then those of the surroundings, and otherwise the first
fault in the order of reading is reported. -/
theorem ofEnvironment_decides (env : Environment) :
    ((∃ settings, ofEnvironment env = .ok settings) ↔
      (∃ url, env "DATABASE_URL" = some url) ∧ ∀ v ∈ Variable.all, ∃ n, v.Gives env n) ∧
    (∀ settings, ofEnvironment env = .ok settings ↔ settings.ReadFrom env) ∧
    ∀ e, ofEnvironment env = .error e ↔ Refused env e := by
  refine ⟨?_, fun _ => ofEnvironment_ok, fun _ => ofEnvironment_fails⟩
  simp only [ofEnvironment_ok, Variable.all, List.forall_mem_cons, List.not_mem_nil, false_implies,
    implies_true, and_true]
  constructor
  · rintro ⟨settings, set, h₁, h₂, h₃, h₄⟩
    exact ⟨⟨_, set⟩, ⟨_, h₁⟩, ⟨_, h₂⟩, ⟨_, h₃⟩, ⟨_, h₄⟩⟩
  · rintro ⟨⟨url, set⟩, ⟨n₁, h₁⟩, ⟨n₂, h₂⟩, ⟨n₃, h₃⟩, ⟨n₄, h₄⟩⟩
    exact ⟨⟨url, n₁, n₂, n₃, n₄⟩, set, h₁, h₂, h₃, h₄⟩

end LedgerSettings

end Passbook
