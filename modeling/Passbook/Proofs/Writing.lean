import Passbook.Proofs.Following

/-!
# What successes write

The row that a query has answered says what the query has changed (`Query.effect`). What an open
transaction has written is the work of the queries that have succeeded in it, in order, and the
committed rows are the work of the committed transactions (`written_run`). Nothing else writes.
-/

namespace Passbook

open Store

/-- What a query has changed in its transaction when it has answered this row. -/
def Query.effect : (q : Query) → q.Row → Change
  | .createAccount _, row | .setBalance _, row | .adjustBalance _, row => .account row
  | .deleteAccount id, _ => .deleteAccount id
  | .createEntry _, row => .entry row
  | .createTransfer _, row => .transfer row
  | .createUser _, row | .updateUser _, row | .changePassword _, row => .user row
  | .createSession _, row | .revokeSession _, row => .session row
  | .enqueue _, row | .markDelivered .., row | .markFailed .., row => .message row
  | .getAccount _, _ | .lockAccount _, _ | .listAccounts _, _ | .getEntry _, _
  | .listEntries _, _ | .getTransfer _, _ | .listTransfers _, _ | .getUser _, _
  | .getSession _, _ | .claim .., _ | .listMessages .., _ => .nothing

theorem Query.Did.change_eq {q : Query} {row : q.Row} (did : q.Did v number row change) :
    change = q.effect row := by
  cases did with
  | @read q row reads =>
    cases q with
    | getAccount id => rfl
    | listAccounts page => rfl
    | getEntry id => rfl
    | listEntries page => rfl
    | getTransfer id => rfl
    | listTransfers page => rfl
    | getUser username => rfl
    | getSession id => rfl
    | listMessages status limit => rfl
    | _ => cases reads
  | _ => rfl

namespace Store

/-- What a transaction has written once these queries have succeeded in it, too. -/
def Transaction.after (own : Transaction) (done : List Success) : Transaction :=
  done.foldl (fun own s => own.apply (s.1.effect s.2)) own

theorem Transaction.after_append (own : Transaction) (first rest : List Success) :
    own.after (first ++ rest) = (own.after first).after rest := List.foldl_append

/-- The rows once a transaction is committed in which these queries have succeeded. -/
def Tables.commit (rows : Tables) (done : List Success) : Tables :=
  rows.publish (Transaction.after {} done).written (Transaction.after {} done).deleted

namespace System

variable {Name : Type} [DecidableEq Name] {Result : Name → Type} {sys sys' : System Result}

/-- All that is written is the work of queries that have succeeded. -/
structure Written (sys : System Result) : Prop where
  opened : ∀ {tx own}, sys.store.transaction? tx = some own →
    own = Transaction.after {} (sys.currentOf (some tx))
  committed : sys.store.committed =
    (sys.history.map (·.deeds.map Deed.success)).foldl Tables.commit {}

omit [DecidableEq Name] in
theorem Written.start (connections : Nat) (programs : (name : Name) → Program (Result name)) :
    (start connections programs).Written where
  opened h := nomatch h
  committed := rfl

theorem Written.happened (t : sys.Tidy) (g : sys.Guarded) (w : sys.Written)
    (h : Happened sys sys') : sys'.Written where
  opened {tx own} opened := by
    refine open_happened
      (motive := fun own journal => own = Transaction.after {} (journal.map Deed.success))
      t g h opened rfl (fun before _ => w.opened before) fun {deed change} was does _ _ => ?_
    rw [List.map_append, Transaction.after_append, does.did.change_eq]
    exact congrArg (Transaction.apply · _) (w.opened was)
  committed := by
    cases recorded h with
    | same committed history => rw [committed, history, w.committed]
    | commit _ opened _ committed history =>
      rw [committed, history, List.map_append, List.foldl_append, ← w.committed,
        w.opened opened]
      rfl

theorem written_run (connections : Nat) (programs : (name : Name) → Program (Result name))
    (happenings : List (Happening Name)) : ((start connections programs).run happenings).Written :=
  run_induction (.start connections programs) (fun _ _ t g w h => w.happened t g h) happenings

end System

end Store

end Passbook
