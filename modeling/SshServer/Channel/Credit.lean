/-!
Contract: credit that is handed out fairly, in the order in which it was asked for.

Owns: free credit, the requests that wait for more with what each already holds, the requests that
were filled and have not been taken up, and the end of the window.
Does not own: what the credit is spent on (`Channel.Outbox`).

A request that cannot be met takes what is free at once and waits for the rest, so while anybody
waits nothing is free, and a later request cannot overtake an earlier one.
-/

namespace SshServer

/-- A request for credit that waits. -/
structure CreditWaiter where
  ticket : Nat
  needed : Nat
  held : Nat
deriving DecidableEq, Repr

/-- A fair supply of credit. -/
structure Credit where
  free : Nat
  waiters : List CreditWaiter := []
  /-- Filled requests that their owners have not taken up yet, with the amount of each. -/
  granted : List (Nat × Nat) := []
  /-- Whether the supply has ended, so that no request can be met any more. -/
  closed : Bool := false
deriving DecidableEq, Repr

namespace Credit

inductive Acquired where
  | granted
  | waiting
  | closed
deriving DecidableEq, Repr

/-- Asks for credit. A request for none is met at once. -/
def acquire (credit : Credit) (ticket needed : Nat) : Credit × Acquired :=
  if credit.closed then (credit, .closed)
  else if needed = 0 ∨ (credit.waiters = [] ∧ needed ≤ credit.free) then
    ({ credit with free := credit.free - needed }, .granted)
  else
    ({ credit with
        free := 0
        waiters := credit.waiters ++ [⟨ticket, needed, credit.free⟩] }, .waiting)

/-- Takes credit only if that is possible at once. -/
def tryAcquire (credit : Credit) (needed : Nat) : Credit × Acquired :=
  if credit.closed then (credit, .closed)
  else if needed ≤ credit.free then ({ credit with free := credit.free - needed }, .granted)
  else (credit, .waiting)

/-- Hands an amount to the waiters in turn: what is left over, who was filled, and who
still waits. -/
def assign : Nat → List CreditWaiter → Nat × List (Nat × Nat) × List CreditWaiter
  | amount, [] => (amount, [], [])
  | amount, waiter :: rest =>
    if waiter.held + amount < waiter.needed then
      (0, [], { waiter with held := waiter.held + amount } :: rest)
    else
      let (left, filled, waiting) := assign (amount - (waiter.needed - waiter.held)) rest
      (left, (waiter.ticket, waiter.needed) :: filled, waiting)

/-- Returns an amount. The first waiter has it until it is filled, then the next; what nobody waits
for becomes free. -/
def release (credit : Credit) (amount : Nat) : Credit :=
  let (left, filled, waiting) := assign amount credit.waiters
  { credit with
    free := credit.free + left
    granted := credit.granted ++ filled
    waiters := waiting }

def heldIn : List CreditWaiter → Nat
  | [] => 0
  | waiter :: rest => waiter.held + heldIn rest

def grantedIn : List (Nat × Nat) → Nat
  | [] => 0
  | grant :: rest => grant.2 + grantedIn rest

/-- What a request holds that is waiting or filled. -/
def heldBy (credit : Credit) (ticket : Nat) : Nat :=
  heldIn (credit.waiters.filter fun waiter => waiter.ticket == ticket) +
    grantedIn (credit.granted.filter fun grant => grant.1 == ticket)

/-- Removes every trace of a request, whatever it held. -/
def forget (credit : Credit) (ticket : Nat) : Credit :=
  { credit with
    waiters := credit.waiters.filter fun waiter => waiter.ticket != ticket
    granted := credit.granted.filter fun grant => grant.1 != ticket }

/-- A request is given up, and what it held is returned. -/
def cancel (credit : Credit) (ticket : Nat) : Credit :=
  (credit.forget ticket).release (credit.heldBy ticket)

/-- Takes up a request that waited. Once the supply has ended the request fails, filled or not. -/
def resume (credit : Credit) (ticket : Nat) : Credit × Acquired :=
  if credit.closed then (credit.forget ticket, .closed)
  else if credit.granted.any fun grant => grant.1 == ticket then (credit.forget ticket, .granted)
  else (credit, .waiting)

def close (credit : Credit) : Credit :=
  { credit with closed := true }

/-- Everything that is free or assigned to somebody. -/
def total (credit : Credit) : Nat :=
  credit.free + heldIn credit.waiters + grantedIn credit.granted

end Credit

end SshServer
