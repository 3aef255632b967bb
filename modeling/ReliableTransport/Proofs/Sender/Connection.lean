import Mathlib.Algebra.GroupWithZero.Nat
import ReliableTransport.Proofs.Sender.Deeds
/-!
This module says what a sender remembers of its connections: whether it is connected, whether a
missing socket means that a connection was lost, and how much was sent.
-/

namespace ReliableTransport

namespace DatagramSender

/-- A connect has succeeded. -/
@[simp] def Deed.Connects : Deed → Prop
  | .ends _ (.connected (.ok _)) => True
  | _ => False

@[simp] def Deed.Closes : Deed → Prop
  | .ends _ .closed => True
  | _ => False

/-- A connect is given the socket, a close is over, or a send finds that the connection is gone. -/
@[simp] def Deed.Parts : Deed → Prop
  | .obtains _ .connect => True
  | .ends _ .closed => True
  | .ends _ (.sent (.error failure)) => failure.isTransientIo = true
  | _ => False

/-- The length that a send returned. -/
@[simp] def Deed.returned? : Deed → Option Nat
  | .ends _ (.sent (.ok length)) => some length
  | _ => none

/-- What a sender remembers is what its log says. -/
structure Remembers (sender : DatagramSender Nat) (deeds : List Deed) : Prop where
  connected : sender.connected = true ↔ Since Deed.Connects Deed.Parts deeds
  lasting : sender.wasConnected = true ↔ Since Deed.Connects Deed.Closes deeds
  counted : sender.bytesSent = UInt64.ofNat (deeds.filterMap Deed.returned?).sum

/-- A sender that is connected has a socket, or a call is about to close it. -/
def Attached (sender : DatagramSender Nat) : Prop :=
  sender.connected = true → sender.socket = none →
    ∃ number socket, sender.calls.lookup number = some (.closing socket)

section Memory

variable {sender after : DatagramSender Nat} {deeds added : List Deed} {number : Nat}

/-- A call that is given the socket changes the memory as the log says. -/
theorem Works.remembers {job : Job} (works : Works sender number job after added)
    (attached : sender.socket = none → sender.connected = false)
    (remembers : Remembers sender deeds) :
    Remembers after (deeds ++ .obtains number job :: added) := by
  obtain ⟨connected, lasting, counted⟩ := remembers
  cases works with
  | replaces owns => constructor <;> simp [park, lasting, counted, List.filterMap_cons]
  | opens bare =>
      constructor <;> simp [park, lasting, counted, attached bare, List.filterMap_cons]
  | closes owns => constructor <;> simp [park, connected, lasting, counted, List.filterMap_cons]
  | rests bare => constructor <;> simp [depart, counted, List.filterMap_cons]
  | sends owns => constructor <;> simp [park, connected, lasting, counted, List.filterMap_cons]
  | misses bare =>
      have parted : ¬Since Deed.Connects Deed.Parts deeds := by
        rw [← connected, attached bare]
        exact Bool.false_ne_true
      constructor <;>
        simp [depart, lasting, counted, attached bare, parted, List.filterMap_cons]

/-- Whatever happens, the memory changes as the log says, as long as a sender without a socket is
not connected when a call is given the socket. -/
theorem Goes.remembers {usage : Usage} {event : Usage.Event} (goes : Goes usage event after added)
    (attached : ∀ number job turnstile, Obtains usage event number job turnstile →
      usage.sender.socket = none → usage.sender.connected = false)
    (remembers : Remembers usage.sender deeds) : Remembers after (deeds ++ added) := by
  obtain ⟨connected, lasting, counted⟩ := remembers
  cases goes with
  | refuses jobless =>
      have kind : (Failure.invalidOperation .rangeOutsideBuffer).isTransientIo = false := rfl
      constructor <;> simp [connected, lasting, counted, kind, List.filterMap_cons]
  | queues wants same => constructor <;> simp [park, connected, lasting, counted]
  | works obtains works =>
      exact works.remembers (attached _ _ _ obtains) ⟨connected, lasting, counted⟩
  | reopens waits => constructor <;> simp [park, connected, lasting, counted, List.filterMap_cons]
  | installs waits => constructor <;> simp [depart, counted, List.filterMap_cons]
  | fails waits => constructor <;> simp [depart, connected, lasting, counted, List.filterMap_cons]
  | @lands _ _ result waits =>
      cases result with
      | ok length =>
          constructor <;>
            simp [depart, countSent, connected, lasting, counted]
      | error failure =>
          rw [countSent]
          by_cases transient : failure.isTransientIo = true
          · rw [if_pos transient]
            constructor <;> simp [depart, lasting, counted, transient, List.filterMap_cons]
          · rw [if_neg transient]
            constructor <;>
              simp [depart, connected, lasting, counted, transient, List.filterMap_cons]
  | shuts waits => constructor <;> simp [depart, counted, List.filterMap_cons]
  | leaves => constructor <;> simp [depart, connected, lasting, counted]
  | stays => constructor <;> simp [connected, lasting, counted]

theorem Attached.bare (attached : Attached sender) (bare : sender.socket = none)
    (idle : ∀ number socket, sender.calls.lookup number ≠ some (.closing socket)) :
    sender.connected = false := by
  refine Bool.eq_false_iff.mpr fun connected => ?_
  obtain ⟨number, socket, found⟩ := attached connected bare
  exact idle number socket found

theorem Works.attached {job : Job} (works : Works sender number job after added)
    (attached : sender.socket = none → sender.connected = false) : Attached after := by
  cases works with
  | replaces owns => exact nofun
  | opens bare => exact fun connected _ => nomatch connected.symm.trans (attached bare)
  | @closes socket owns =>
      refine fun _ _ => ⟨number, socket, ?_⟩
      rw [lookup_parked, if_pos rfl]
  | rests bare => exact nofun
  | sends owns => exact fun _ bare => nomatch owns.symm.trans bare
  | misses bare => exact fun connected _ => nomatch connected.symm.trans (attached bare)

theorem Goes.sendAddress {usage : Usage} {event : Usage.Event}
    (goes : Goes usage event after added) : after.sendAddress = usage.sender.sendAddress := by
  cases goes with
  | works obtains works => cases works <;> rfl
  | lands waits =>
      obtain ⟨bytesSent, connected, counted⟩ := Usage.countSent_eq usage.sender _
      rw [counted]
      rfl
  | _ => rfl

/-- A sender without a socket is not connected when a call is given the socket. -/
theorem Obtains.attached {usage : Usage} {event : Usage.Event} {job : Job}
    {turnstile : Turnstile Nat} (obtains : Obtains usage event number job turnstile)
    (orderly : Orderly usage.sender usage.calls) (attached : Attached usage.sender)
    (bare : usage.sender.socket = none) : usage.sender.connected = false := by
  refine attached.bare bare fun other socket found => ?_
  obtain ⟨job, is⟩ := obtains.queued orderly found
  cases is

/-- Whatever happens, a sender that is connected has a socket, or a call is about to close it. This
holds as long as no close is given up. -/
theorem Goes.attached {usage : Usage} {event : Usage.Event} (goes : Goes usage event after added)
    (orderly : Orderly usage.sender usage.calls)
    (patient : ∀ number, event = .abandon number → usage.calls[number]? ≠ some .close)
    (attached : Attached usage.sender) : Attached after := by
  have parted {number : Nat} {stage : Stage} (inside : usage.sender.turnstile.inside = some number)
      (waits : usage.sender.calls.lookup number = some stage)
      (bare : usage.sender.socket = none) (closes : ∀ socket, stage ≠ .closing socket) :
      usage.sender.connected = false := by
    refine attached.bare bare fun other socket found => ?_
    cases orderly other _ found with
    | closing _ entered _ =>
        obtain rfl : number = other := Option.some.inj (inside.symm.trans entered)
        exact closes socket (Option.some.inj (waits.symm.trans found))
  cases goes with
  | refuses jobless => exact attached
  | queues wants same =>
      intro connected bare
      obtain ⟨number, socket, found⟩ := attached connected bare
      refine ⟨number, socket, ?_⟩
      rw [lookup_parked, if_neg (Nat.ne_of_lt (orderly number _ found).known)]
      exact found
  | works obtains works => exact works.attached (obtains.attached orderly attached)
  | reopens waits =>
      cases orderly _ _ waits with
      | replacing wants inside bare =>
          exact fun connected _ => nomatch connected.symm.trans (parted inside waits bare nofun)
  | installs waits => exact nofun
  | fails waits =>
      cases orderly _ _ waits with
      | opening wants inside bare =>
          exact fun connected _ => nomatch connected.symm.trans (parted inside waits bare nofun)
  | lands waits =>
      cases orderly _ _ waits with
      | sending wants inside owns =>
          obtain ⟨bytesSent, connected, counted⟩ := Usage.countSent_eq usage.sender _
          rw [counted]
          exact fun _ bare => nomatch owns.symm.trans bare
  | shuts waits => exact nofun
  | @leaves number =>
      intro connected bare
      obtain ⟨other, socket, found⟩ := attached connected bare
      refine ⟨other, socket, ?_⟩
      have different : other ≠ number := by
        rintro rfl
        cases orderly other _ found with
        | closing wants _ _ => exact patient other rfl wants.close
      rw [lookup_departed, if_neg different]
      exact found
  | stays => exact attached

end Memory

namespace History

variable (bindAddress sendAddress : Address) (limits : SendLimits)

def loopback : Address := { host := .dotted 127 0 0 1, port := 4530 }

/-- A message is sent, and then another connect is given up when it has closed the socket. -/
def lost : List Usage.Event :=
  [.call .connect, .answer 0 (.opened (.ok ())), .call (.send (.whole [97])),
    .answer 1 (.sent (.ok 1)), .call .connect, .answer 2 .closed, .abandon 2]

end History

end DatagramSender

end ReliableTransport
