import ReliableTransport.Delivery
import ReliableTransport.Failure
/-!
This module holds the sending ends of byte streams. A datagram is written as its length in four
bytes, followed by its own bytes, so that the other end can tell where it ends. A stream may take
fewer bytes than it is offered. The writing then goes on behind the ones that it took.
-/

namespace ReliableTransport

/-- The sending end of a stream. -/
structure Outlet where
  isOpen : Bool := true
  deriving Repr, DecidableEq

namespace Outlet

/-- How a stream answers the offer of all pending bytes. -/
inductive Take where
  | took (count : Nat)
  | failed (failure : Failure)
  deriving Repr, DecidableEq

/-- How the writing of a datagram ends. -/
inductive Ending where
  | sent (length : Nat)
  | failed (failure : Failure)
  /-- The writing was given up while these pieces were pending. -/
  | givenUp (pending : List Bytes)
  /-- The stream took more bytes than it was offered. -/
  | overrun
  deriving Repr, DecidableEq

/-- A datagram that is too long for its length to be written. -/
def oversize : Failure := .ioText .invalidInput "datagram is too big for a u32 length prefix"

def closedFailure : Failure := .ioText .notConnected "send socket is closed"

/-- The parts of a message as they are written one behind the other. -/
def parts : Delivery → List Bytes
  | .whole data => [data]
  | .parts pieces => pieces

/-- The pieces that write a datagram: its length, and its parts without the empty ones. -/
def pieces (length : Nat) (parts : List Bytes) : List Bytes :=
  Bytes.ofWord length :: parts.filter fun part => !part.isEmpty

/-- What is pending behind a number of bytes. Nothing is if fewer bytes than that are pending. -/
def advance : Nat → List Bytes → Option (List Bytes)
  | 0, pending => some pending
  | _ + 1, [] => none
  | count + 1, piece :: rest =>
    if piece.length ≤ count + 1 then advance (count + 1 - piece.length) rest
    else some (piece.drop (count + 1) :: rest)

/-- Writes pending pieces: the bytes that the stream took, and how the writing ends. A stream that
takes nothing will not take more. -/
def write (length : Nat) : List Take → List Bytes → Bytes × Ending
  | _, [] => ([], .sent length)
  | [], pending => ([], .givenUp pending)
  | .failed failure :: _, _ => ([], .failed failure)
  | .took 0 :: _, _ => ([], .failed (.io .writeZero))
  | .took (count + 1) :: takes, pending =>
    match advance (count + 1) pending with
    | none => (pending.flatten, .overrun)
    | some rest =>
      let (written, ending) := write length takes rest
      (pending.flatten.take (count + 1) ++ written, ending)

/-- Sends a message as one datagram, whatever its parts. -/
def send (outlet : Outlet) (delivery : Delivery) (takes : List Take) : Bytes × Ending :=
  let length := delivery.length
  if Bytes.wordValues ≤ length then ([], .failed oversize)
  else if outlet.isOpen then write length takes (pieces length (parts delivery))
  else ([], .failed closedFailure)

/-- A closed end sends nothing more. -/
def close (_ : Outlet) : Outlet := { isOpen := false }

@[simp] theorem advance_zero (pending : List Bytes) : advance 0 pending = some pending := by
  cases pending <;> rfl

/-- The bytes that are pending behind some are the ones that follow them. -/
theorem flatten_advance {count : Nat} {pending rest : List Bytes}
    (advanced : advance count pending = some rest) :
    rest.flatten = pending.flatten.drop count := by
  induction pending generalizing count with
  | nil =>
    cases count with
    | zero => simp_all [advance]
    | succ count => simp [advance] at advanced
  | cons piece pieces ih =>
    cases count with
    | zero =>
      simp only [advance, Option.some.injEq] at advanced
      simp [← advanced]
    | succ count =>
      simp only [advance] at advanced
      split at advanced
      · next short =>
        rw [ih advanced, List.flatten_cons, List.drop_append,
          List.drop_eq_nil_of_le short, List.nil_append]
      · next long =>
        simp only [Option.some.injEq] at advanced
        rw [← advanced, List.flatten_cons, List.flatten_cons, List.drop_append,
          show count + 1 - piece.length = 0 by omega, List.drop_zero]

/-- There is something to go on with exactly if no more bytes were taken than were pending. -/
theorem advance_isSome_iff (count : Nat) (pending : List Bytes) :
    (advance count pending).isSome ↔ count ≤ pending.flatten.length := by
  induction pending generalizing count with
  | nil => cases count <;> simp [advance]
  | cons piece pieces ih =>
    cases count with
    | zero => simp [advance]
    | succ count =>
      simp only [advance]
      split
      · rw [ih, List.flatten_cons, List.length_append]
        omega
      · simp only [Option.isSome_some, List.flatten_cons, List.length_append, true_iff]
        omega

end Outlet

end ReliableTransport
