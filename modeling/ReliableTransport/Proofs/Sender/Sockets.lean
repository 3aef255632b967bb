import ReliableTransport.Proofs.Sender.Deeds
/-!
This module follows the sockets of a sender from the moment when they are made until their close
begins. The sender never has two of them, it closes each once before it asks for another one, and it
sends with none that it closes.
-/

namespace ReliableTransport

namespace DatagramSender

/-- The close of a socket has begun. -/
def Shut (deeds : List Deed) (socket : Nat) : Prop :=
  ∃ number, .asks number (.closeSocket socket) ∈ deeds

/-- A socket was made, and its close has not begun. -/
def IsOpen (deeds : List Deed) (socket : Nat) : Prop :=
  .creates socket ∈ deeds ∧ ¬Shut deeds socket

/-- A deed is in order behind those that were done before. -/
def Deed.Lawful (front : List Deed) : Deed → Prop
  | .creates socket => .creates socket ∉ front ∧ ∀ other, ¬IsOpen front other
  | .asks _ (.openSocket _) => ∀ other, ¬IsOpen front other
  | .asks _ (.closeSocket socket) => IsOpen front socket
  | .asks _ (.send socket _) => IsOpen front socket
  | .obtains _ _ | .ends _ _ => True

/-- Every deed is in order. -/
def Lawful (deeds : List Deed) : Prop :=
  ∀ front deed back, deeds = front ++ deed :: back → deed.Lawful front

section Logs

variable {deeds front back : List Deed} {deed : Deed} {socket other : Nat}

theorem lawful_concat : Lawful (deeds ++ [deed]) ↔ Lawful deeds ∧ deed.Lawful deeds :=
  forall_split_concat

theorem shut_concat :
    Shut (deeds ++ [deed]) socket ↔
      Shut deeds socket ∨ ∃ number, deed = .asks number (.closeSocket socket) := by
  simp only [Shut, List.mem_append, List.mem_singleton, exists_or, eq_comm]

theorem isOpen_concat :
    IsOpen (deeds ++ [deed]) socket ↔
      (.creates socket ∈ deeds ∨ deed = .creates socket) ∧ ¬Shut deeds socket ∧
        ∀ number, deed ≠ .asks number (.closeSocket socket) := by
  rw [IsOpen, shut_concat, List.mem_append, List.mem_singleton, not_or, not_exists, eq_comm]

theorem Lawful.append_left (lawful : Lawful (front ++ back)) : Lawful front :=
  fun before deed behind same => lawful before deed (behind ++ back) (by simp [same])

/-- A socket is made before it is closed. -/
theorem Lawful.created (lawful : Lawful deeds) (shut : Shut deeds socket) :
    .creates socket ∈ deeds := by
  obtain ⟨number, among⟩ := shut
  obtain ⟨front, back, rfl⟩ := List.append_of_mem among
  have isOpen : IsOpen front socket := lawful front _ back rfl
  exact List.mem_append_left _ isOpen.1

/-- There are never two open sockets. -/
theorem Lawful.sole (lawful : Lawful deeds) (one : IsOpen deeds socket)
    (two : IsOpen deeds other) : socket = other := by
  induction deeds using List.reverseRecOn with
  | nil => cases one.1
  | append_singleton deeds deed ih =>
      rw [lawful_concat] at lawful
      rw [isOpen_concat] at one two
      obtain ⟨created | rfl, unshut, _⟩ := one
      · obtain ⟨made | rfl, spared, _⟩ := two
        · exact ih lawful.1 ⟨created, unshut⟩ ⟨made, spared⟩
        · exact absurd ⟨created, unshut⟩ (lawful.2.2 socket)
      · obtain ⟨made | same, spared, _⟩ := two
        · exact absurd ⟨made, spared⟩ (lawful.2.2 other)
        · exact Deed.creates.inj same

/-- Behind the close of a socket, the socket is neither closed again nor used. -/
theorem Lawful.spares {number : Nat}
    (lawful : Lawful (front ++ .asks number (.closeSocket socket) :: back)) :
    ¬Shut back socket ∧ ∀ caller delivery, .asks caller (.send socket delivery) ∉ back := by
  have shut (between : List Deed) :
      ¬IsOpen (front ++ .asks number (.closeSocket socket) :: between) socket := fun isOpen =>
    isOpen.2 ⟨number, by simp⟩
  constructor
  · rintro ⟨caller, among⟩
    obtain ⟨between, rest, rfl⟩ := List.append_of_mem among
    exact shut between (lawful _ (.asks caller (.closeSocket socket)) rest (by simp))
  · intro caller delivery among
    obtain ⟨between, rest, rfl⟩ := List.append_of_mem among
    exact shut between (lawful _ (.asks caller (.send socket delivery)) rest (by simp))

end Logs

/-- What a sender knows of its sockets is what its log says. -/
structure Owned (sender : DatagramSender Nat) (deeds : List Deed) : Prop where
  lawful : Lawful deeds
  owns : ∀ socket, sender.socket = some socket ↔ IsOpen deeds socket
  below : ∀ socket, .creates socket ∈ deeds → socket < sender.nextSocket
  /-- A socket that a call waits for is not there yet. -/
  awaited : ∀ number socket, sender.calls.lookup number = some (.opening socket) →
    socket < sender.nextSocket ∧ .creates socket ∉ deeds

section Ownership

variable {sender after : DatagramSender Nat} {deeds added : List Deed} {calls : List Call}
  {number socket : Nat} {deed : Deed}

namespace Owned

/-- The calls go on, and none of them comes to wait for a socket. -/
theorem carry (owned : Owned sender deeds) (same : after.socket = sender.socket)
    (next : after.nextSocket = sender.nextSocket)
    (waits : ∀ number socket, after.calls.lookup number = some (.opening socket) →
      sender.calls.lookup number = some (.opening socket)) : Owned after deeds where
  lawful := owned.lawful
  owns socket := by rw [same, owned.owns]
  below := next ▸ owned.below
  awaited number socket found := next ▸ owned.awaited number socket (waits number socket found)

/-- The sender changes, but not in its calls and its socket. -/
theorem keep (owned : Owned sender deeds) (turnstile : Turnstile Nat)
    (connected wasConnected : Bool) (bytesSent : UInt64) :
    Owned { sender with turnstile, connected, wasConnected, bytesSent } deeds :=
  owned.carry rfl rfl fun _ _ => id

theorem depart (owned : Owned sender deeds) (number : Nat) :
    Owned (sender.depart number).1 deeds := by
  refine owned.carry rfl rfl fun other socket found => ?_
  rw [lookup_departed] at found
  split at found
  · cases found
  · exact found

theorem park (owned : Owned sender deeds) (number : Nat) {stage : Stage}
    (settled : ∀ socket, stage ≠ .opening socket) : Owned (sender.park number stage) deeds := by
  refine owned.carry rfl rfl fun other socket found => ?_
  rw [lookup_parked] at found
  split at found
  · cases found
    exact absurd rfl (settled socket)
  · exact found

/-- The log goes on without the sockets. -/
theorem notes (owned : Owned sender deeds) (lawful : deed.Lawful deeds)
    (makes : ∀ socket, deed ≠ .creates socket)
    (closes : ∀ number socket, deed ≠ .asks number (.closeSocket socket)) :
    Owned sender (deeds ++ [deed]) where
  lawful := lawful_concat.mpr ⟨owned.lawful, lawful⟩
  owns socket := by
    rw [owned.owns, isOpen_concat, or_iff_left (makes socket), IsOpen]
    simp [closes]
  below socket among := by
    rcases List.mem_append.mp among with former | last
    · exact owned.below socket former
    · exact absurd (List.mem_singleton.mp last).symm (makes socket)
  awaited number socket found := by
    rw [List.mem_append, List.mem_singleton, not_or]
    exact ⟨(owned.awaited number socket found).1, (owned.awaited number socket found).2,
      (makes socket).symm⟩

theorem obtains (owned : Owned sender deeds) (number : Nat) (job : Job) :
    Owned sender (deeds ++ [.obtains number job]) := owned.notes trivial nofun nofun

theorem ends (owned : Owned sender deeds) (number : Nat) (result : Result) :
    Owned sender (deeds ++ [.ends number result]) := owned.notes trivial nofun nofun

theorem sends (owned : Owned sender deeds) (owns : sender.socket = some socket) (number : Nat)
    (delivery : Delivery) : Owned sender (deeds ++ [.asks number (.send socket delivery)]) :=
  owned.notes ((owned.owns socket).mp owns) nofun nofun

/-- The socket is given up, and its close begins. -/
theorem shuts (owned : Owned sender deeds) (owns : sender.socket = some socket) (number : Nat) :
    Owned { sender with socket := none } (deeds ++ [.asks number (.closeSocket socket)]) where
  lawful := lawful_concat.mpr ⟨owned.lawful, (owned.owns socket).mp owns⟩
  owns other := by
    rw [isOpen_concat]
    constructor
    · nofun
    · rintro ⟨created | impossible, unshut, spared⟩
      · have same := owned.lawful.sole ((owned.owns socket).mp owns) ⟨created, unshut⟩
        exact absurd (same ▸ rfl) (spared number)
      · cases impossible
  below other among := by
    refine owned.below other ((List.mem_append.mp among).resolve_right fun last => ?_)
    cases List.mem_singleton.mp last
  awaited caller other found := by
    refine ⟨(owned.awaited caller other found).1, fun among => ?_⟩
    rcases List.mem_append.mp among with former | last
    · exact (owned.awaited caller other found).2 former
    · cases List.mem_singleton.mp last

/-- A call asks for the next socket while there is none. -/
theorem opens (owned : Owned sender deeds) (bare : sender.socket = none) (number : Nat) :
    Owned ({ sender with nextSocket := sender.nextSocket + 1 }.park number
        (.opening sender.nextSocket))
      (deeds ++ [.asks number (.openSocket sender.nextSocket)]) := by
  have none : ∀ other, ¬IsOpen deeds other := fun other isOpen =>
    nomatch bare.symm.trans ((owned.owns other).mpr isOpen)
  have noted : Owned sender (deeds ++ [.asks number (.openSocket sender.nextSocket)]) :=
    owned.notes none nofun nofun
  refine ⟨noted.lawful, noted.owns, fun other among => ?_, fun caller other found => ?_⟩
  · exact Nat.lt_succ_of_lt (noted.below other among)
  · rw [lookup_parked] at found
    split at found
    · cases found
      exact ⟨Nat.lt_succ_self _, fun among => Nat.lt_irrefl _ (noted.below _ among)⟩
    · have awaited := noted.awaited caller other found
      exact ⟨Nat.lt_succ_of_lt awaited.1, awaited.2⟩

/-- The socket that a call has waited for is there. -/
theorem installs (owned : Owned sender deeds) (bare : sender.socket = none)
    (waits : sender.calls.lookup number = some (.opening socket))
    (alone : ∀ other, other ≠ number → ∀ socket,
      sender.calls.lookup other ≠ some (.opening socket)) :
    Owned
      ({ sender with
          socket := some socket, connected := true, wasConnected := true }.depart number).1
      (deeds ++ [.creates socket]) := by
  obtain ⟨below, unmade⟩ := owned.awaited number socket waits
  have none : ∀ other, ¬IsOpen deeds other := fun other isOpen =>
    nomatch bare.symm.trans ((owned.owns other).mpr isOpen)
  refine ⟨lawful_concat.mpr ⟨owned.lawful, unmade, none⟩, fun other => ?_, fun other among => ?_,
    fun caller other found => ?_⟩
  · rw [isOpen_concat]
    constructor
    · intro same
      cases same
      exact ⟨.inr rfl, fun shut => unmade (owned.lawful.created shut), nofun⟩
    · rintro ⟨created | same, unshut, _⟩
      · exact absurd ⟨created, unshut⟩ (none other)
      · exact congrArg some (Deed.creates.inj same)
  · rcases List.mem_append.mp among with former | last
    · exact owned.below other former
    · exact Deed.creates.inj (List.mem_singleton.mp last) ▸ below
  · rw [lookup_departed] at found
    split at found
    · cases found
    · next different => exact absurd found (alone caller different other)

end Owned

theorem Works.owned {job : Job} (works : Works sender number job after added)
    (owned : Owned sender deeds) : Owned after (deeds ++ added) := by
  cases works with
  | replaces owns =>
      refine Owned.park ?_ number nofun
      exact (owned.shuts owns number).keep _ _ _ _
  | opens bare => exact owned.opens bare number
  | closes owns => exact Owned.park (owned.shuts owns number) number nofun
  | rests bare =>
      refine Owned.depart ?_ number
      exact (owned.ends number _).keep _ _ _ _
  | sends owns => exact Owned.park (owned.sends owns number _) number nofun
  | misses bare => exact Owned.depart (owned.ends number _) number

/-- Whatever happens, what the sender knows of its sockets stays what the log says. -/
theorem Goes.owned {usage : Usage} {event : Usage.Event} (goes : Goes usage event after added)
    (orderly : Orderly usage.sender usage.calls) (owned : Owned usage.sender deeds) :
    Owned after (deeds ++ added) := by
  cases goes with
  | refuses jobless => exact owned.ends ..
  | queues wants same =>
      rw [List.append_nil]
      refine Owned.park ?_ _ nofun
      exact owned.keep ..
  | @works _ number job turnstile _ _ obtains works =>
      have obtained : Owned { usage.sender with turnstile } (deeds ++ [.obtains number job]) :=
        (owned.obtains number job).keep ..
      have whole := works.owned obtained
      rwa [List.append_assoc] at whole
  | reopens waits =>
      cases orderly _ _ waits with
      | replacing wants inside bare => exact owned.opens bare _
  | @installs number socket waits =>
      cases orderly _ _ waits with
      | opening wants inside bare =>
          have alone (other : Nat) (different : other ≠ number) (socket : Nat) :
              usage.sender.calls.lookup other ≠ some (.opening socket) := by
            intro found
            cases orderly _ _ found with
            | opening _ entered _ =>
                exact different (Option.some.inj (entered.symm.trans inside))
          have whole := (owned.installs bare waits alone).ends number (.connected (.ok ()))
          rwa [List.append_assoc] at whole
  | fails waits => exact Owned.depart (owned.ends ..) _
  | lands waits =>
      refine Owned.depart ?_ _
      obtain ⟨bytesSent, connected, counted⟩ := Usage.countSent_eq usage.sender _
      rw [counted]
      exact (owned.ends ..).keep ..
  | shuts waits =>
      refine Owned.depart ?_ _
      exact (owned.ends ..).keep ..
  | leaves =>
      rw [List.append_nil]
      exact owned.depart _
  | stays =>
      rw [List.append_nil]
      exact owned

end Ownership

namespace History

variable (bindAddress sendAddress : Address) (limits : SendLimits)

theorem run_owned (events : List Usage.Event) :
    let reached := (opened bindAddress sendAddress limits).run events
    Owned reached.usage.sender reached.deeds := by
  have first : Owned { bindAddress, sendAddress, limits } [] := by
    refine ⟨fun front deed back none => ?_, fun socket => ⟨nofun, ?_⟩, nofun, nofun⟩
    · cases front <;> cases none
    · rintro ⟨made, _⟩
      cases made
  have held := run_holds bindAddress sendAddress limits (fun sender _ deeds => Owned sender deeds)
    (fun _ _ => True) first (fun orderly went _ owned => went.owned orderly owned) events
    fun _ _ _ _ => trivial
  exact held.2

/-- In every run, the socket that the sender has is the only one that is open, and there were never
two. A number is never given to two sockets. A socket is only asked for when the close of all before
it has begun, only an open socket is closed, once, and only an open socket is used to send. -/
theorem run_owns_one (events : List Usage.Event) :
    let reached := (opened bindAddress sendAddress limits).run events
    (∀ socket, reached.usage.sender.socket = some socket ↔ IsOpen reached.deeds socket) ∧
      (∀ front back, reached.deeds = front ++ back →
        ∀ socket other, IsOpen front socket → IsOpen front other → socket = other) ∧
      (∀ front socket back, reached.deeds = front ++ .creates socket :: back →
        .creates socket ∉ front) ∧
      (∀ front number socket back,
        reached.deeds = front ++ .asks number (.openSocket socket) :: back →
          ∀ other, .creates other ∈ front → Shut front other) ∧
      (∀ front number socket back,
        reached.deeds = front ++ .asks number (.closeSocket socket) :: back →
          IsOpen front socket ∧ ¬Shut back socket ∧
            ∀ caller delivery, .asks caller (.send socket delivery) ∉ back) ∧
      ∀ front number socket delivery back,
        reached.deeds = front ++ .asks number (.send socket delivery) :: back →
          IsOpen front socket := by
  intro reached
  have owned : Owned reached.usage.sender reached.deeds :=
    run_owned bindAddress sendAddress limits events
  refine ⟨owned.owns, ?_, ?_, ?_, ?_, ?_⟩
  · intro front back split socket other one two
    have lawful : Lawful (front ++ back) := split ▸ owned.lawful
    exact lawful.append_left.sole one two
  · intro front socket back split
    exact (owned.lawful front (.creates socket) back split).1
  · intro front number socket back split other made
    have closed : ∀ other, ¬IsOpen front other := owned.lawful front _ back split
    exact not_not.mp fun unshut => closed other ⟨made, unshut⟩
  · intro front number socket back split
    have lawful : Lawful (front ++ .asks number (.closeSocket socket) :: back) :=
      split ▸ owned.lawful
    exact ⟨owned.lawful front _ back split, lawful.spares⟩
  · intro front number socket delivery back split
    exact owned.lawful front _ back split

end History

end DatagramSender

end ReliableTransport
