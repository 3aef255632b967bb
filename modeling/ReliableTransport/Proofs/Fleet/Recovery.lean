import ReliableTransport.Proofs.Fleet.Tales
import ReliableTransport.Proofs.Log
/-!
This module says how a fleet recovers from lost connections. A sender that was connected remembers
it, also when connecting again fails or is given up, so a send that finds it without a socket fails
for the lost connection and lets it connect again. Once that succeeds, the next send that is lent
the sender uses the new socket.
-/

namespace ReliableTransport

namespace Fleet

open DatagramSender (Answer)
open Pool (stocked)

/-- The sender has this new socket. -/
@[simp] def Deed.Joins (sender socket : Nat) : Deed → Prop
  | .joins _ owner new => owner = sender ∧ new = socket
  | _ => False

/-- The sender is lent to a send. -/
@[simp] def Deed.Leases (sender : Nat) : Deed → Prop
  | .leases _ lent _ => lent = sender
  | _ => False

variable {size number sender socket : Nat} {address : Address} {last : Fleet Nat}
  {history : History} {event : Event} {heard : List Deed}

theorem socket?_posted {fleet : Fleet Nat} {before : DatagramSender Nat}
    (known : fleet.senders[sender]? = some before) (state : DatagramSender Nat) :
    (fleet.posted sender state).socket? sender = state.socket := by
  rw [socket?, getElem?_posted known]
  rfl

theorem socket?_posted_of_ne {other : Nat} (different : other ≠ sender) (fleet : Fleet Nat)
    (state : DatagramSender Nat) :
    (fleet.posted other state).socket? sender = fleet.socket? sender := by
  rw [socket?, getElem?_posted_of_ne different.symm]
  rfl

/-- A sender that is free stays as it is until it is lent. -/
theorem Acts.keeps (lending : Pool.Lending size history.now history.sends history.fleet.pool)
    (acts : Acts history event last heard) (free : sender ∈ history.fleet.pool.queue.items)
    (spared : ∀ deed ∈ heard, ¬deed.Leases sender) :
    sender ∈ last.pool.queue.items ∧ last.socket? sender = history.fleet.socket? sender := by
  cases acts with
  | waits _ same | late _ same | leaves _ same => exact ⟨same ▸ free, rfl⟩
  | sends _ first | retries _ first =>
      have different := spared _ List.mem_cons_self
      rw [first] at free
      exact ⟨(List.mem_cons.mp free).resolve_left (Ne.symm different),
        socket?_posted_of_ne different _ _⟩
  | breaks found | reopens found =>
      exact ⟨free, socket?_posted_of_ne (lending.free_apart free found rfl) _ _⟩
  | connects found _ _ back | returns found _ _ back =>
      exact ⟨back ▸ List.mem_append_left _ free,
        socket?_posted_of_ne (lending.free_apart free found rfl) _ _⟩
  | yields found leased _ back =>
      exact ⟨back ▸ List.mem_append_left _ free,
        socket?_posted_of_ne (lending.free_apart free found leased) _ _⟩
  | stays => exact ⟨free, rfl⟩

/-- A sender that has a new socket is free. -/
theorem Acts.joins (acts : Acts history event last heard)
    (joins : Since (Deed.Joins sender socket) (Deed.Leases sender) heard) :
    sender ∈ last.pool.queue.items ∧ last.socket? sender = some socket := by
  cases acts with
  | waits | late | sends | retries | breaks | reopens | returns | leaves | yields | stays =>
      simp at joins
  | @connects _ lent new _ result state queue _ known _ back =>
      cases result with
      | error failure => simp [opened] at joins
      | ok _ =>
          obtain ⟨rfl, rfl⟩ : lent = sender ∧ new = socket := by simpa [opened] using joins
          have free : lent ∈ queue.items :=
            back ▸ List.mem_append_right _ (List.mem_singleton_self lent)
          exact ⟨free, @socket?_posted lent (history.fleet.pooled _) state known _⟩

/-- A send that is lent a sender learns of the socket that the sender has. -/
theorem Acts.leases (acts : Acts history event last heard) {front later : List Deed}
    {found : Option Nat} (split : heard = front ++ .leases number sender found :: later) :
    front = [] ∧ found = history.fleet.socket? sender := by
  have among : .leases number sender found ∈ heard :=
    split ▸ List.mem_append_right front List.mem_cons_self
  have lends {lent : Nat} {order : Order} {with? : Option Nat} {caller : Nat}
      (same : heard = [.leases caller lent with?, .asks caller order])
      (held : history.fleet.socket? lent = with?) :
      front = [] ∧ found = history.fleet.socket? sender := by
    rw [same] at split
    cases front with
    | nil =>
        obtain ⟨rfl, rfl, rfl⟩ := Deed.leases.inj (List.cons.inj split).1
        exact ⟨rfl, held.symm⟩
    | cons first rest =>
        have last : .leases number sender found ∈ [Deed.asks caller order] :=
          (List.cons.inj split).2 ▸ List.mem_append_right rest List.mem_cons_self
        simp at last
  cases acts with
  | waits | late | breaks | reopens | returns | leaves | yields | stays => simp at among
  | @connects _ _ _ _ result => cases result <;> simp [opened] at among
  | sends _ _ known owns =>
      refine lends rfl ?_
      rw [socket?, known]
      exact owns
  | retries _ _ known bare =>
      refine lends rfl ?_
      rw [socket?, known]
      exact bare

/-- No send fails because its sender was never connected. -/
theorem Acts.connected (staffed : Staffed address history.fleet) (sound : event.Sound)
    (acts : Acts history event last heard) (number : Nat) :
    .ends number (.sent (.error (.invalidOperation .sendBeforeConnect))) ∉ heard := by
  intro among
  cases acts with
  | waits | sends | retries | breaks | reopens | leaves | yields | stays => simp at among
  | late => simp [Pool.lateFailure] at among
  | @connects caller _ _ failure result _ _ found =>
      obtain ⟨state, _, holds⟩ := staffed.leased _ _ _ found rfl
      obtain ⟨-, rfl⟩ : number = caller ∧ .invalidOperation .sendBeforeConnect = failure := by
        cases result <;> simpa [opened] using among
      cases holds with
      | replaces broken | opens broken => cases broken
  | returns =>
      cases List.mem_singleton.mp among
      cases sound

/-- What a fleet remembers of its senders. -/
structure Recalls (history : History) : Prop where
  /-- A sender with a new socket that was not lent since is free and has that socket. -/
  fresh : ∀ sender socket, Since (Deed.Joins sender socket) (Deed.Leases sender) history.deeds →
    sender ∈ history.fleet.pool.queue.items ∧ history.fleet.socket? sender = some socket
  /-- A send that is lent such a sender finds the new socket. -/
  found : ∀ front deed later, history.deeds = front ++ deed :: later →
    ∀ number sender found socket, deed = .leases number sender found →
      Since (Deed.Joins sender socket) (Deed.Leases sender) front → found = some socket

theorem Recalls.step (recalls : Recalls history) (orderly : Orderly size address history)
    (event : Event) : Recalls (history.step event) := by
  have acts := orderly.acts event
  constructor
  · intro sender socket since
    rcases since_append.mp since with joins | ⟨before, spared⟩
    · exact acts.joins joins
    · obtain ⟨free, held⟩ := recalls.fresh sender socket before
      obtain ⟨stays, same⟩ := acts.keeps orderly.lending free spared
      exact ⟨stays, same.trans held⟩
  · refine forall_split_append.mpr ⟨recalls.found, ?_⟩
    rintro front deed later split number sender found socket rfl since
    obtain ⟨rfl, same⟩ := acts.leases split
    rw [List.append_nil] at since
    exact same.trans (recalls.fresh sender socket since).2

/-- All that is known of a fleet and of its log. -/
structure Recovers (size : Nat) (address : Address) (history : History) : Prop where
  orderly : Orderly size address history
  narrated : Narrated address history
  recalls : Recalls history
  connected : ∀ number,
    .ends number (.sent (.error (.invalidOperation .sendBeforeConnect))) ∉ history.deeds

theorem Recovers.step (recovers : Recovers size address history) {event : Event}
    (sound : event.Sound) : Recovers size address (history.step event) where
  orderly := recovers.orderly.step event
  narrated := recovers.narrated.step recovers.orderly event
  recalls := recovers.recalls.step recovers.orderly event
  connected number among :=
    (List.mem_append.mp among).elim (recovers.connected number)
      ((recovers.orderly.acts event).connected recovers.orderly.staffed sound number)

theorem Recovers.run (recovers : Recovers size address history) (events : List Event)
    (sound : ∀ event ∈ events, event.Sound) : Recovers size address (history.run events) := by
  induction events generalizing history with
  | nil => exact recovers
  | cons event rest ih =>
      refine ih (recovers.step (sound event List.mem_cons_self)) fun later among => ?_
      exact sound later (List.mem_cons_of_mem event among)

theorem Founded.recovers {settings : PoolSettings} {fleet : Fleet Nat}
    (founded : Founded settings fleet) (now : Nat) :
    Recovers settings.size settings.sendAddress (History.opened fleet now) where
  orderly := founded.orderly now
  narrated :=
    ⟨nofun, fun number => .unlent (sender?_of_missed (by
      rw [History.opened, founded.eq_stocked.1]
      rfl))⟩
  recalls :=
    ⟨fun _ _ since => absurd since since_nil,
      fun front _ _ none => absurd none.symm (by simp [History.opened])⟩
  connected _ := List.not_mem_nil

/-- A send with a socket was lent its sender with that socket. -/
theorem Direct.lent {sends : List Bytes} {told : List Deed} (direct : Direct sends number told)
    {found : Option Nat} (lent : .leases number sender found ∈ told) :
    ∃ socket data rest, found = some socket ∧ sends[number]? = some data ∧
      told = .leases number sender (some socket) ::
        .asks number { sender, order := .send socket (.whole data) } :: rest := by
  obtain ⟨owner, socket, data, rest, known, rfl, once⟩ := direct
  rcases List.mem_cons.mp lent with first | later
  · obtain ⟨-, rfl, rfl⟩ := Deed.leases.inj first
    exact ⟨socket, data, rest, rfl, known, rfl⟩
  · rcases List.mem_cons.mp later with asks | among
    · cases asks
    · exact absurd trivial (once _ among)

/-- A send that was lent a sender without a socket was lent no other one. -/
theorem lent_of_attempt {other : Nat} {more : List Deed} {found : Option Nat}
    (lent : .leases number sender found ∈ attempt number other socket ++ more)
    (quiet : ∀ deed ∈ more, ¬deed.Lends) : other = sender ∧ found = none := by
  rcases List.mem_append.mp lent with among | later
  · rcases List.mem_cons.mp among with first | asks
    · obtain ⟨-, rfl, rfl⟩ := Deed.leases.inj first
      exact ⟨rfl, rfl⟩
    · cases List.mem_singleton.mp asks
  · exact absurd trivial (quiet _ later)

theorem Retried.lent {other : Nat} {told : List Deed} (retried : Retried address number other told)
    {found : Option Nat} (lent : .leases number sender found ∈ told) :
    other = sender ∧ found = none := by
  cases retried with
  | failed socket result =>
      rw [List.append_assoc] at lent
      refine lent_of_attempt lent fun deed among => ?_
      cases result <;> simp [opened] at among <;> rcases among with rfl | rfl <;> exact not_false
  | dropped socket =>
      refine lent_of_attempt lent fun deed among => ?_
      obtain rfl := List.mem_singleton.mp among
      exact not_false

/-- The tale of a send that was lent a sender without a socket. -/
theorem Tale.retry {sends : List Bytes} {fleet : Fleet Nat} {told : List Deed}
    (tale : Tale address sends fleet number told) (lent : .leases number sender none ∈ told) :
    Retried address number sender told ∨
      ∃ socket state, told = attempt number sender socket ∧
        fleet.pool.calls.lookup number = some (.reconnecting sender (lostFailure address)) ∧
        fleet.senders[sender]? = some state ∧ state.Used number (.opening socket) := by
  have direct (direct : Direct sends number told) : False := by
    obtain ⟨_, _, _, impossible, _⟩ := direct.lent lent
    cases impossible
  cases tale with
  | unlent => cases lent
  | serves _ _ served => exact (direct served).elim
  | @retries other socket state found known used =>
      have lent : .leases number sender none ∈ attempt number other socket ++ [] := by
        rwa [List.append_nil]
      obtain ⟨rfl, -⟩ := lent_of_attempt lent nofun
      exact .inr ⟨socket, state, rfl, found, known, used⟩
  | ended gone settled =>
      rcases settled with unlent | served | ⟨other, retried⟩
      · exact absurd trivial (unlent _ lent)
      · exact (direct served).elim
      · obtain ⟨rfl, -⟩ := retried.lent lent
        exact .inl retried

/-- The tale of a send that was lent a sender with a socket. -/
theorem Tale.send {sends : List Bytes} {fleet : Fleet Nat} {told : List Deed}
    (tale : Tale address sends fleet number told)
    (lent : .leases number sender (some socket) ∈ told) :
    ∃ data rest, sends[number]? = some data ∧
      told = .leases number sender (some socket) ::
        .asks number { sender, order := .send socket (.whole data) } :: rest := by
  have direct (direct : Direct sends number told) :
      ∃ data rest, sends[number]? = some data ∧
        told = .leases number sender (some socket) ::
          .asks number { sender, order := .send socket (.whole data) } :: rest := by
    obtain ⟨_, data, rest, same, known, split⟩ := direct.lent lent
    obtain rfl := Option.some.inj same
    exact ⟨data, rest, known, split⟩
  cases tale with
  | unlent => cases lent
  | serves _ _ served => exact direct served
  | @retries other new =>
      have lent : .leases number sender (some socket) ∈ attempt number other new ++ [] := by
        rwa [List.append_nil]
      cases (lent_of_attempt lent nofun).2
  | ended gone settled =>
      rcases settled with unlent | served | ⟨other, retried⟩
      · exact absurd trivial (unlent _ lent)
      · exact direct served
      · cases (retried.lent lent).2

/-- Sends use a fleet in any order. They wait, send, fail, let their senders connect again, and are
given up at any point, with any outcome of their sends and connects. No send fails because its
sender was never connected. A send that is lent a sender without a socket lets it ask for a new
socket once, and unless it is given up before it has the answer, it fails for the lost connection.
If the sender has got a new socket, the next send that is lent it sends its data to that socket. -/
theorem run_recovers {settings : PoolSettings} {fleet : Fleet Nat}
    (founded : Founded settings fleet) (now : Nat) (events : List Event)
    (sound : ∀ event ∈ events, event.Sound) :
    let reached := (History.opened fleet now).run events
    (∀ number,
      .ends number (.sent (.error (.invalidOperation .sendBeforeConnect))) ∉ reached.deeds) ∧
    (∀ number sender, .leases number sender none ∈ reached.deeds →
      Retried settings.sendAddress number sender (own reached.deeds number) ∨
        ∃ socket, own reached.deeds number = attempt number sender socket ∧
          ∀ result, own (reached.step (.answer number (.opened result))).deeds number =
            attempt number sender socket ++ opened number sender socket result ++
              [.ends number (.sent (.error (lostFailure settings.sendAddress)))]) ∧
    ∀ front number sender found later socket,
      reached.deeds = front ++ .leases number sender found :: later →
        Since (Deed.Joins sender socket) (Deed.Leases sender) front →
          ∃ data rest, reached.sends[number]? = some data ∧
            own reached.deeds number = .leases number sender (some socket) ::
              .asks number { sender, order := .send socket (.whole data) } :: rest := by
  intro reached
  have recovers := (founded.recovers now).run events sound
  have tale := recovers.narrated.tales
  have told {number sender : Nat} {found : Option Nat}
      (among : .leases number sender found ∈ reached.deeds) :
      .leases number sender found ∈ own reached.deeds number :=
    List.mem_filter.mpr ⟨among, decide_eq_true rfl⟩
  refine ⟨recovers.connected, fun number sender lent => ?_,
    fun front number sender found later socket split since => ?_⟩
  · refine ((tale number).retry (told lent)).imp_right ?_
    rintro ⟨socket, state, same, found, known, used⟩
    refine ⟨socket, same, fun result => ?_⟩
    have adds := (moves_opened recovers.orderly.lending found known used result).2
    show own (reached.deeds ++ reached.adds (.answer number (.opened result))) number = _
    have concerned : ∀ deed ∈ opened number sender socket result ++
        [.ends number (.sent (.error (lostFailure settings.sendAddress)))],
          deed.number = number := by
      simpa [or_imp, forall_and, Deed.number] using number_opened result
    rw [own_append, same, adds, own_eq_self concerned, List.append_assoc]
  · obtain rfl := recovers.recalls.found front _ later split number sender found socket rfl since
    exact (tale number).send (told (split ▸ List.mem_append_right front List.mem_cons_self))

/-- A pool of one sender. -/
def single : PoolSettings where
  size := 1
  timeoutMillis := 1000
  bindAddress := { host := .dotted 127 0 0 1, port := 0 }
  sendAddress := { host := .dotted 127 0 0 1, port := 4530 }

/-- The fleet with that sender, which is connected. -/
def ferry : Fleet Nat :=
  (filling
    { pool := stocked 1 1000 0
      bindAddress := single.bindAddress
      sendAddress := single.sendAddress
      limits := single.limits } [(0, .opened (.ok ()))]).1

theorem ferry_founded : Founded single ferry := by
  refine .filled rfl ?_
  exact List.mem_cons_of_mem _ List.mem_cons_self

/-- The first send loses the connection, and connecting again fails. The second send finds no
socket, and connecting again succeeds. -/
def stormy : List Event :=
  [.send [1], .answer 0 (.sent (.error (.io .brokenPipe))), .answer 0 .closed,
    .answer 0 (.opened (.error (.io .connectionRefused))), .send [2], .answer 1 (.opened (.ok ())),
    .send [3]]

theorem stormy_deeds :
    ((History.opened ferry 0).run stormy).deeds =
      [.leases 0 0 (some 0), .asks 0 { sender := 0, order := .send 0 (.whole [1]) },
        .asks 0 { sender := 0, order := .closeSocket 0 },
        .asks 0 { sender := 0, order := .openSocket 1 },
        .ends 0 (.sent (.error (.io .brokenPipe))), .leases 1 0 none,
        .asks 1 { sender := 0, order := .openSocket 2 }, .joins 1 0 2,
        .ends 1 (.sent (.error (lostFailure single.sendAddress))), .leases 2 0 (some 2),
        .asks 2 { sender := 0, order := .send 2 (.whole [3]) }] := rfl

theorem run_recovers_stormy :
    Founded single ferry ∧ (∀ event ∈ stormy, event.Sound) ∧
      let reached := (History.opened ferry 0).run stormy
      (∀ number,
        .ends number (.sent (.error (.invalidOperation .sendBeforeConnect))) ∉ reached.deeds) ∧
      Retried single.sendAddress 1 0 (own reached.deeds 1) ∧
      ∃ data rest, reached.sends[2]? = some data ∧
        own reached.deeds 2 = .leases 2 0 (some 2) ::
          .asks 2 { sender := 0, order := .send 2 (.whole data) } :: rest := by
  have sound : ∀ event ∈ stormy, event.Sound := by
    simp [stormy, Event.Sound, Failure.ioKind?]
  refine ⟨ferry_founded, sound, ?_⟩
  intro reached
  obtain ⟨connected, retries, found⟩ := run_recovers ferry_founded 0 stormy sound
  have before : Since (Deed.Joins 0 2) (Deed.Leases 0) (reached.deeds.take 9) := by
    rw [show reached.deeds = _ from stormy_deeds]
    simp
  refine ⟨connected, ?_, found (reached.deeds.take 9) 2 0 (some 2) _ 2 rfl before⟩
  rcases retries 1 0 (by rw [stormy_deeds]; simp) with retried | ⟨socket, waits, _⟩
  · exact retried
  · rw [stormy_deeds] at waits
    cases congrArg List.length waits

end Fleet

end ReliableTransport
