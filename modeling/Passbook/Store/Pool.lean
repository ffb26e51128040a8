/-!
# The pool of connections

A store has a fixed number of connections, one for each open transaction. Whoever finds none idle
draws a ticket and waits. A connection that is given back goes to the ticket that has waited
longest, even before its holder goes on and takes it up; it is idle only when nobody waits.
-/
namespace Passbook.Store

/-- The number of an attempt to begin a transaction that has to wait for a connection. -/
abbrev Ticket := Nat

structure Pool where
  /-- Connections that nobody uses and nobody was given. -/
  idle : Nat
  /-- The tickets that wait, in the order of arrival. -/
  queue : List Ticket := []
  /-- The tickets that were given a connection, which has not been taken up yet. -/
  handed : List Ticket := []
  nextTicket : Ticket := 0
  deriving DecidableEq, Repr

namespace Pool

variable (p : Pool)

/-- The pool without one of its idle connections. -/
def take? : Option Pool :=
  match p.idle with
  | 0 => none
  | idle + 1 => some { p with idle }

/-- The next ticket waits, behind those that wait already. -/
def wait : Pool := { p with queue := p.queue ++ [p.nextTicket], nextTicket := p.nextTicket + 1 }

/-- A connection is given back. -/
def giveBack : Pool :=
  match p.queue with
  | [] => { p with idle := p.idle + 1 }
  | ticket :: queue => { p with queue, handed := ticket :: p.handed }

/-- The connection that a ticket was given is taken up. -/
def collect (ticket : Ticket) : Pool := { p with handed := p.handed.erase ticket }

/-- A ticket is given up. The connection that it may have been given is given back. -/
def leave (ticket : Ticket) : Pool :=
  if ticket ∈ p.handed then (p.collect ticket).giveBack
  else { p with queue := p.queue.erase ticket }

end Pool

end Passbook.Store
