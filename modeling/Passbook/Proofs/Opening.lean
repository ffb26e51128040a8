import Passbook.Proofs.Balance
import Passbook.Proofs.Profiles

/-!
# How accounts are opened

The owner and the currency of an account are checked when it is opened, and nothing changes them
afterwards. The check refuses a blank owner. It does not ask whether the currency is one of those
that are meant to be supported. So the owner of every committed account has more than blanks in it,
and the currency is the one that the account was opened in (`openings_run`), supported or not
(`opening_unsupported`).
-/

namespace Passbook

theorem NewAccount.validate_owner {account : NewAccount} (h : account.validate = .ok ()) :
    Text.trim account.owner ≠ "" := by
  unfold validate at h
  split at h
  · exact nomatch h
  · next shown => exact fun blank => shown (Text.allBlank_of_trim blank)

namespace Store

variable {deeds : List Deed} {row : Account} {d : Deed}

/-- One of the deeds has opened the account, as it was asked for. -/
structure Opened (deeds : List Deed) (row : Account) : Prop where
  asked : ∃ account first now, (⟨.createAccount account, first, now⟩ : Deed) ∈ deeds ∧
    first.id = row.id ∧ row.owner = account.owner ∧ row.currency = account.currency
  owned : Text.trim row.owner ≠ ""

theorem Opened.mono {more : List Deed} (o : Opened deeds row) (h : deeds ⊆ more) :
    Opened more row := by
  obtain ⟨account, first, now, did, same⟩ := o.asked
  exact ⟨⟨account, first, now, h did, same⟩, o.owned⟩

/-- Another balance leaves the account as it was opened. -/
theorem Opened.rebalance (o : Opened deeds row) (balance : Int64) :
    Opened deeds { row with balance } :=
  ⟨o.asked, o.owned⟩

/-- The accounts that are seen, at whatever time, are as the deeds have opened them. -/
def AllOpened (committed : Tables) (own : Transaction) (deeds : List Deed) : Prop :=
  ∀ now {id row}, (alone committed own now).account? id = some row → Opened deeds row

variable {committed : Tables} {own : Transaction}

theorem AllOpened.empty : AllOpened {} {} [] := by
  intro now id row h
  exact nomatch h

theorem AllOpened.write (o : AllOpened committed own deeds) (here : Opened (deeds ++ [d]) row) :
    AllOpened committed (own.apply (.account row)) (deeds ++ [d]) := by
  intro now id seen h
  rcases account?_apply (v := alone committed own now) h with ⟨-, rfl⟩ | ⟨-, h⟩
  · exact here
  · exact (o now h).mono (List.subset_append_left ..)

theorem AllOpened.did {q : Query} {row : q.Row} (o : AllOpened committed own deeds)
    (did : q.Did (alone committed own now) number row change) :
    AllOpened committed (own.apply change) (deeds ++ [⟨q, row, now⟩]) := by
  cases did with
  | createAccount valid hr =>
    subst hr
    refine o.write ⟨⟨_, _, now, ?_, rfl, rfl, rfl⟩, NewAccount.validate_owner valid⟩
    exact List.mem_append_right deeds (List.mem_singleton_self _)
  | setBalance _ ho hr =>
    subst hr
    exact o.write (((o now ho).mono (List.subset_append_left ..)).rebalance _)
  | adjustBalance ho _ hr =>
    subst hr
    exact o.write (((o now ho).mono (List.subset_append_left ..)).rebalance _)
  | deleteAccount =>
    exact fun now _ _ h => (o now (account?_delete h).2).mono (List.subset_append_left ..)
  | read reads =>
    intro now id row h
    cases q <;> first | cases reads; done | exact (o now h).mono (List.subset_append_left ..)
  | _ => exact fun now _ _ h => (o now h).mono (List.subset_append_left ..)

theorem AllOpened.published (o : AllOpened committed own deeds) :
    AllOpened (committed.publish own.written own.deleted) {} deeds := by
  exact fun now id _ h =>
    o now ((account?_published (alone committed own now) id now).symm.trans h)

-- ---------------------------------------------------------------------------
-- Systems
-- ---------------------------------------------------------------------------

namespace System

/-- What is promised of the owners and currencies of committed accounts. -/
structure Openings {Name : Type} {Result : Name → Type} (sys : System Result) : Prop where
  opened : ∀ row ∈ sys.store.committed.accounts.values, Opened (deedsOf sys.history) row
  /-- Where every account that was opened had a supported currency, so has every one there is. -/
  supported : (∀ d ∈ deedsOf sys.history, ∀ account, d.query = .createAccount account →
      account.currency.isSupported) →
    ∀ row ∈ sys.store.committed.accounts.values, row.currency.isSupported

/-- The owner of a committed account is not blank, and owner and currency are what the account was
opened with. -/
theorem openings_run {Name : Type} [DecidableEq Name] {Result : Name → Type} (connections : Nat)
    (programs : (name : Name) → Program (Result name)) (happenings : List (Happening Name)) :
    ((start connections programs).run happenings).Openings := by
  have r := replayed_run connections programs happenings
  have all := replay_induction (motive := AllOpened) (fun o did => o.did did) AllOpened.published
    .empty .empty r.committed
  generalize (start connections programs).run happenings = sys at all
  have opened : ∀ row ∈ sys.store.committed.accounts.values,
      Opened (deedsOf sys.history) row := by
    intro row h
    obtain ⟨id, h⟩ := Table.mem_values.mp h
    exact (all default h).mono (List.filter_subset_self _)
  refine ⟨opened, fun supported row h => ?_⟩
  obtain ⟨account, _, _, did, -, -, currency⟩ := (opened row h).asked
  exact currency ▸ supported _ did account rfl

/-- An account is opened in a currency that is not supported. -/
theorem opening_unsupported :
    let gbp : Currency := ⟨"GBP", by decide⟩
    ((start 1 fun _ : Unit => (Query.createAccount ⟨"alice", 0, gbp⟩).run).run
      (steps () 8)).store.committed.accounts.values = [⟨⟨1⟩, "alice", 0, gbp, default⟩] ∧
      gbp.isSupported = false := by
  decide +kernel

end System

end Store

end Passbook
