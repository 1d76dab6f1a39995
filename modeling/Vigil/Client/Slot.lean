/-!
# The Client Slot

A check that talks to a backend through a client keeps that client in a slot: it is made on first
use, used again until it is given up, and closed exactly when it leaves the slot. Clients are
numbered by the attempt that made them, failed attempts counting too.

The backend is a script of connection attempts and one of closes. After a script has ended,
everything succeeds at once.

## Main definitions

* `ClientSlot.get`: the client of the slot, made first if the slot is empty;
* `ClientSlot.release`, `ClientSlot.invalidate`: giving the client up, with or without regard to a
  failing close.
-/

namespace Vigil

/-- What happens to one attempt to connect. -/
structure Attempt where
  /-- The time until it is settled. -/
  delay : Nat := 0
  failure : Option String := none
  deriving DecidableEq, Repr

/-- A slot for one client, with the history that it has. -/
structure ClientSlot where
  cached : Option Nat := none
  /-- The number of attempts so far, which is the number of the next client. -/
  attempts : Nat := 0
  /-- The clients closed so far, in the order of closing. -/
  closed : List Nat := []
  /-- The attempts to come. -/
  connects : List Attempt := []
  /-- The closes to come, each with its failure. -/
  closes : List (Option String) := []
  deriving DecidableEq, Repr

namespace ClientSlot

/-- A client, or why there is none. -/
abbrev Answer := Except String Nat

/-- What happens to the next attempt. -/
def nextAttempt (s : ClientSlot) : Attempt := s.connects.head?.getD {}

/-- The slot after an attempt has begun. -/
def begin (s : ClientSlot) : ClientSlot :=
  { s with attempts := s.attempts + 1, connects := s.connects.tail }

/-- The slot after the attempt with the given number has come to its end. -/
def conclude (s : ClientSlot) (number : Nat) : Option String → Answer × ClientSlot
  | some failure => (.error failure, s)
  | none => (.ok number, { s with cached := some number })

/-- The client of the slot. Where there is none, one attempt is made to connect. -/
def get (s : ClientSlot) : Answer × ClientSlot :=
  match s.cached with
  | some client => (.ok client, s)
  | none => s.begin.conclude s.attempts s.nextAttempt.failure

/-- The slot emptied, and the failure of closing the client that was in it. The slot is empty
whether closing fails or not. -/
def release (s : ClientSlot) : Except String Unit × ClientSlot :=
  match s.cached with
  | none => (.ok (), s)
  | some client =>
    let emptied := { s with cached := none, closed := s.closed ++ [client], closes := s.closes.tail }
    match s.closes.head?.join with
    | some failure => (.error failure, emptied)
    | none => (.ok (), emptied)

/-- The slot emptied, whatever becomes of closing. -/
def invalidate (s : ClientSlot) : ClientSlot := s.release.2

/-- The answers of `n` uses one after another. -/
def getEach : Nat → ClientSlot → List Answer × ClientSlot
  | 0, s => ([], s)
  | n + 1, s =>
    let (answer, s) := s.get
    let (answers, s) := getEach n s
    (answer :: answers, s)

end ClientSlot

end Vigil
