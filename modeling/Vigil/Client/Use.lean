import Vigil.Client.Contention

/-!
# Uses of the Client Slot

A slot in use: the client is asked for, by one task or by several at once, and it is given up, with or
without regard to a failing close. Each use is kept with what it was answered and with the slot
before it and after it.
-/

namespace Vigil.ClientSlot

/-- A slot that has not been used, for a script of attempts and one of closes. -/
def ofScripts (connects : List Attempt) (closes : List (Option String)) : ClientSlot :=
  { connects, closes }

/-- What is done with a slot. -/
inductive Use
  | get
  /-- That many tasks want the client at once. -/
  | getMany (n : Nat)
  | release
  | invalidate
  deriving DecidableEq, Repr

/-- What a use is answered. -/
inductive Reply
  | client (answer : Answer)
  | clients (answers : List Answer)
  | released (result : Except String Unit)
  | none

/-- The answers to the tasks that wanted the client. -/
def Reply.answers : Reply → List Answer
  | .client answer => [answer]
  | .clients answers => answers
  | .released _ | .none => []

/-- A use of a slot. -/
structure Used where
  use : Use
  before : ClientSlot
  reply : Reply
  after : ClientSlot

/-- One use of a slot. -/
def use (s : ClientSlot) : Use → Used
  | .get =>
    let (answer, after) := s.get
    ⟨.get, s, .client answer, after⟩
  | .getMany n =>
    let (answers, after) := s.getMany n
    ⟨.getMany n, s, .clients answers, after⟩
  | .release =>
    let (result, after) := s.release
    ⟨.release, s, .released result, after⟩
  | .invalidate => ⟨.invalidate, s, .none, s.invalidate⟩

/-- Uses one after another. -/
def uses (s : ClientSlot) : List Use → List Used
  | [] => []
  | u :: rest =>
    let used := s.use u
    used :: used.after.uses rest

end Vigil.ClientSlot
