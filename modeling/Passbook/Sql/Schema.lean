/-!
# The schema

The tables of a ledger as a database server has them. The server itself sees to it that names and
addresses are unique, that rows refer to rows that exist, and that no balance is negative.
-/
namespace Passbook.Sql

/-- The statements that create the tables and indexes that are missing. -/
def schema : String :=
  "CREATE TABLE IF NOT EXISTS users (
    username            varchar PRIMARY KEY,
    full_name           varchar NOT NULL,
    email               varchar NOT NULL,
    hashed_password     varchar NOT NULL,
    password_changed_at timestamptz NOT NULL DEFAULT now(),
    email_verified_at   timestamptz,
    created_at          timestamptz NOT NULL DEFAULT now(),
    CONSTRAINT users_email_key UNIQUE (email)
);

CREATE TABLE IF NOT EXISTS accounts (
    id         bigserial PRIMARY KEY,
    owner      varchar NOT NULL,
    balance    bigint NOT NULL,
    currency   varchar NOT NULL,
    created_at timestamptz NOT NULL DEFAULT now(),
    CONSTRAINT accounts_balance_nonnegative CHECK (balance >= 0)
);

CREATE INDEX IF NOT EXISTS accounts_owner_idx ON accounts (owner);

CREATE TABLE IF NOT EXISTS entries (
    id         bigserial PRIMARY KEY,
    account_id bigint NOT NULL REFERENCES accounts (id),
    -- negative for debits, positive for credits
    amount     bigint NOT NULL,
    created_at timestamptz NOT NULL DEFAULT now()
);

CREATE INDEX IF NOT EXISTS entries_account_id_idx ON entries (account_id);

CREATE TABLE IF NOT EXISTS transfers (
    id              bigserial PRIMARY KEY,
    from_account_id bigint NOT NULL REFERENCES accounts (id),
    to_account_id   bigint NOT NULL REFERENCES accounts (id),
    amount          bigint NOT NULL,
    created_at      timestamptz NOT NULL DEFAULT now(),
    CONSTRAINT transfers_amount_positive CHECK (amount > 0)
);

CREATE INDEX IF NOT EXISTS transfers_from_to_idx ON transfers (from_account_id, to_account_id);
CREATE INDEX IF NOT EXISTS transfers_to_idx ON transfers (to_account_id);

CREATE TABLE IF NOT EXISTS sessions (
    id            uuid PRIMARY KEY,
    username      varchar NOT NULL REFERENCES users (username),
    refresh_token varchar NOT NULL,
    user_agent    varchar NOT NULL,
    client_ip     varchar NOT NULL,
    is_blocked    boolean NOT NULL DEFAULT false,
    expires_at    timestamptz NOT NULL,
    created_at    timestamptz NOT NULL DEFAULT now()
);

CREATE TABLE IF NOT EXISTS outbox (
    id           bigserial PRIMARY KEY,
    topic        varchar NOT NULL,
    payload      jsonb NOT NULL,
    status       varchar NOT NULL DEFAULT 'pending',
    attempts     integer NOT NULL DEFAULT 0,
    last_error   text,
    available_at timestamptz NOT NULL DEFAULT now(),
    delivered_at timestamptz,
    created_at   timestamptz NOT NULL DEFAULT now(),
    CONSTRAINT outbox_status_known CHECK (status IN ('pending', 'delivered', 'dead_lettered'))
);

CREATE INDEX IF NOT EXISTS outbox_pending_idx ON outbox (available_at, id) WHERE status = 'pending';
"

end Passbook.Sql
