import ReliableTransport.Proofs.Sender.Connection
/-!
This module says when a sender is called connected although it has no socket. A close takes the
socket away at once, and only when the socket is closed does the sender stop being connected. A
close that is given up in between leaves the sender like that.
-/

namespace ReliableTransport

namespace DatagramSender

/-- A sender is called connected, but it has no socket to send with. -/
def Exposed (sender : DatagramSender Nat) : Prop := sender.connected = true ∧ sender.socket = none

/-- A close is given the socket of a sender that is connected. -/
def Strips (sender : DatagramSender Nat) (deeds : List Deed) : Prop :=
  sender.connected = true ∧ sender.socket ≠ none ∧ ∃ number, .obtains number .close ∈ deeds

/-- There is a socket again, or the sender is not connected any more. -/
@[simp] def Deed.Settles : Deed → Prop
  | .creates _ => True
  | .ends _ .closed => True
  | _ => False

section Exposure

variable {sender after : DatagramSender Nat} {added : List Deed} {number : Nat}

theorem Works.exposed_iff {job : Job} (works : Works sender number job after added) :
    Exposed after ↔ Strips sender (.obtains number job :: added) ∨
      Exposed sender ∧ ∀ deed ∈ .obtains number job :: added, ¬deed.Settles := by
  cases works with
  | replaces owns => simp [Exposed, Strips, park, owns]
  | opens bare => simp [Exposed, Strips, park, bare]
  | closes owns => simp [Exposed, Strips, park, owns]
  | rests bare => simp [Exposed, Strips, depart, bare]
  | sends owns => simp [Exposed, Strips, park, owns]
  | misses bare => simp [Exposed, Strips, depart, bare]

/-- A sender comes to be exposed by a close, and stays so until there is a socket again or a close
is over. -/
theorem Goes.exposed_iff {usage : Usage} {event : Usage.Event} (goes : Goes usage event after added)
    (orderly : Orderly usage.sender usage.calls) :
    Exposed after ↔ Strips usage.sender added ∨
      Exposed usage.sender ∧ ∀ deed ∈ added, ¬deed.Settles := by
  cases goes with
  | refuses jobless => simp [Strips]
  | queues wants same => simp [Exposed, Strips, park]
  | works obtains works => exact works.exposed_iff
  | reopens waits => simp [Exposed, Strips, park]
  | installs waits => simp [Exposed, Strips, depart]
  | fails waits => simp [Exposed, Strips, depart]
  | lands waits =>
      cases orderly _ _ waits with
      | sending wants inside owns =>
          obtain ⟨bytesSent, connected, counted⟩ := Usage.countSent_eq usage.sender _
          rw [counted]
          simp [Exposed, Strips, depart, owns]
  | shuts waits => simp [Exposed, Strips, depart]
  | leaves => simp [Exposed, Strips, depart]
  | stays => simp [Strips]

/-- A sender that is connected remembers that a connect has succeeded. -/
theorem Goes.lasting {usage : Usage} {event : Usage.Event} (goes : Goes usage event after added)
    (lasting : usage.sender.connected = true → usage.sender.wasConnected = true)
    (connected : after.connected = true) : after.wasConnected = true := by
  cases goes with
  | works obtains works =>
      cases works with
      | replaces owns => cases connected
      | rests bare => cases connected
      | _ => exact lasting connected
  | installs waits => rfl
  | @lands _ _ result waits =>
      cases result with
      | ok length => exact lasting connected
      | error failure =>
          rw [countSent] at connected ⊢
          split at connected
          · cases connected
          · next kept =>
            rw [if_neg kept]
            exact lasting connected
  | shuts waits => cases connected
  | _ => exact lasting connected

end Exposure

namespace History

variable (bindAddress sendAddress : Address) (limits : SendLimits)

/-- The moments at which a sender is exposed are those behind a close that was given its socket, as
long as no close is over and there is no new socket. -/
theorem run_exposed (events : List Usage.Event) :
    let start := opened bindAddress sendAddress limits
    Exposed (start.run events).usage.sender ↔ ∃ before event behind,
      events = before ++ event :: behind ∧
        Strips (start.run before).usage.sender ((start.run before).usage.deeds event) ∧
          ∀ deed ∈ (start.run (before ++ [event])).adds behind, ¬deed.Settles := by
  intro start
  induction events using List.reverseRecOn with
  | nil =>
      constructor
      · rintro ⟨impossible, _⟩
        cases impossible
      · rintro ⟨before, event, behind, none, _⟩
        exact absurd none.symm (List.append_ne_nil_of_right_ne_nil before (List.cons_ne_nil _ _))
  | append_singleton events event ih =>
      have orderly := run_orderly bindAddress sendAddress limits events
      have went := goes (start.run events).usage event
      have whole (before : List Usage.Event) (earlier : Usage.Event) (behind : List Usage.Event)
          (split : events = before ++ earlier :: behind) :
          (∀ deed ∈ (start.run (before ++ [earlier])).adds (behind ++ [event]), ¬deed.Settles) ↔
            (∀ deed ∈ (start.run (before ++ [earlier])).adds behind, ¬deed.Settles) ∧
              ∀ deed ∈ (start.run events).usage.deeds event, ¬deed.Settles := by
        rw [adds_concat, List.forall_mem_append, ← run_append, split, List.append_assoc]
        rfl
      rw [run_concat, step, went.exposed_iff orderly, ih]
      constructor
      · rintro (strips | ⟨⟨before, earlier, behind, split, strips, quiet⟩, spared⟩)
        · exact ⟨events, event, [], rfl, strips, by simp [adds_nil]⟩
        · exact ⟨before, earlier, behind ++ [event], by simp [split], strips,
            (whole before earlier behind split).mpr ⟨quiet, spared⟩⟩
      · rintro ⟨before, earlier, behind, split, strips, quiet⟩
        rcases split_concat split with ⟨rest, former, rfl⟩ | ⟨rfl, rfl, rfl⟩
        · obtain ⟨quiet, spared⟩ := (whole before earlier rest former).mp quiet
          exact .inr ⟨⟨before, earlier, rest, former, strips, quiet⟩, spared⟩
        · exact .inl strips

theorem run_lasting (events : List Usage.Event) :
    let sender := ((opened bindAddress sendAddress limits).run events).usage.sender
    sender.sendAddress = sendAddress ∧
      (sender.connected = true → sender.wasConnected = true) := by
  have held := run_holds bindAddress sendAddress limits
    (fun sender _ _ => sender.sendAddress = sendAddress ∧
      (sender.connected = true → sender.wasConnected = true))
    (fun _ _ => True) ⟨rfl, nofun⟩
    (fun _ went _ ⟨address, lasting⟩ => ⟨went.sendAddress.trans address, went.lasting lasting⟩)
    events fun _ _ _ _ => trivial
  exact held.2

/-- A sender is connected without a socket from the moment when a close is given the socket of a
connected sender until a close is over or there is a new socket. It is never so in a run exactly if
that moment never comes, and as long as it is so, every send that is given the socket fails. -/
theorem run_exposed_iff (events : List Usage.Event) :
    let start := opened bindAddress sendAddress limits
    let reached := start.run events
    (Exposed reached.usage.sender ↔ ∃ before event behind,
      events = before ++ event :: behind ∧
        Strips (start.run before).usage.sender ((start.run before).usage.deeds event) ∧
          ∀ deed ∈ (start.run (before ++ [event])).adds behind, ¬deed.Settles) ∧
      ((∀ before behind, events = before ++ behind → ¬Exposed (start.run before).usage.sender) ↔
        ∀ before event behind, events = before ++ event :: behind →
          ¬Strips (start.run before).usage.sender ((start.run before).usage.deeds event)) ∧
      (Exposed reached.usage.sender → ∀ event number delivery,
        reached.usage.gains? event = some (.obtains number (.send delivery)) →
          reached.usage.deeds event =
            [.obtains number (.send delivery), .ends number (.sent (.error (.ioText .notConnected
              ("connection to " ++ sendAddress.text ++ " was lost"))))]) := by
  intro start reached
  have exposed := run_exposed bindAddress sendAddress limits
  refine ⟨exposed events, ⟨fun covered before event behind split strips => ?_,
    fun spared before behind split seen => ?_⟩, ?_⟩
  · apply covered (before ++ [event]) behind (by simp [split])
    exact (exposed _).mpr ⟨before, event, [], rfl, strips, by simp [adds_nil]⟩
  · obtain ⟨earlier, event, between, rfl, strips, _⟩ := (exposed before).mp seen
    exact spared earlier event (between ++ behind) (by simp [split]) strips
  · rintro ⟨connected, bare⟩ event number delivery gains
    obtain ⟨address, lasting⟩ := run_lasting bindAddress sendAddress limits events
    rw [deeds_of_missed gains bare, noSocket, if_pos (lasting connected), address]

/-- A sender is connected, and a close begins to close its socket. -/
def closing : List Usage.Event := [.call .connect, .answer 0 (.opened (.ok ())), .call .close]

/-- Then the close is given up, and a connect gets no socket. -/
def halfClosed : List Usage.Event :=
  closing ++ [.abandon 1, .call .connect, .answer 2 (.opened (.error (.io .connectionRefused)))]

/-- A connected sender sends, and a connect waits behind the send. -/
def reconnecting : List Usage.Event :=
  [.call .connect, .answer 0 (.opened (.ok ())), .call (.send (.whole [97])), .call .connect]

/-- Another send joins them, and the connect gets no socket. -/
def refused : List Usage.Event :=
  reconnecting ++ [.call (.send (.whole [98])), .answer 1 (.sent (.ok 1)), .turn 2,
    .answer 2 .closed, .answer 2 (.opened (.error (.io .connectionRefused)))]

/-- A sender is called connected while a close is under way, and for good when the close is given
up, although it has no socket and sends fail for lack of one. While a connect waits, it is called
connected too, although a send that is made then comes to find no socket. -/
theorem half_closed_is_connected :
    let start := opened loopback loopback {}
    let lost := Failure.ioText .notConnected ("connection to " ++ loopback.text ++ " was lost")
    ((start.run closing).usage.sender.connected = true ∧
      (start.run closing).usage.sender.socket = none) ∧
      ((start.run halfClosed).usage.sender.connected = true ∧
        (start.run halfClosed).usage.sender.socket = none ∧
        (start.run halfClosed).usage.sender.calls = [] ∧
        (start.run halfClosed).usage.deeds (.call (.send (.whole [97]))) =
          [.obtains 3 (.send (.whole [97])), .ends 3 (.sent (.error lost))]) ∧
      (start.run reconnecting).usage.sender.connected = true ∧
        (start.run refused).usage.deeds (.turn 3) =
          [.obtains 3 (.send (.whole [98])), .ends 3 (.sent (.error lost))] := by
  refine ⟨⟨by decide, by decide⟩, ⟨by decide, by decide, by decide, ?_⟩, by decide, ?_⟩
  · exact deeds_of_missed rfl rfl
  · exact deeds_of_missed rfl rfl

end History

end DatagramSender

end ReliableTransport
