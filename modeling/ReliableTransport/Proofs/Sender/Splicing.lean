import ReliableTransport.Proofs.Sender.Circuit
import ReliableTransport.Proofs.Stream.Reading
/-!
This module says what a receiver gets from a connected sender whose sends may fail or be given up.
The datagrams of the sends that succeeded come out in the order of the sends, up to the first send
that was cut off. As long as nothing is written behind that one, nothing else is received. A send
behind it goes on with the same stream, and its bytes are taken for the rest of the cut one.
-/

namespace ReliableTransport

namespace DatagramSender

/-- The whole datagram is in the stream. -/
def Entry.IsWhole (entry : Entry) : Prop := entry.bytes = entry.delivery.data.announced

instance (entry : Entry) : Decidable entry.IsWhole :=
  inferInstanceAs (Decidable (entry.bytes = entry.delivery.data.announced))

/-- A part of the datagram is in the stream. -/
def Entry.IsTorn (entry : Entry) : Prop := entry.bytes ≠ [] ∧ ¬entry.IsWhole

instance (entry : Entry) : Decidable entry.IsTorn :=
  inferInstanceAs (Decidable (entry.bytes ≠ [] ∧ ¬entry.IsWhole))

/-- The bytes of a cut datagram that stand behind its length. -/
def Entry.begun (entry : Entry) : Bytes := entry.bytes.drop 4

/-- How many bytes of the datagram are missing behind them. -/
def Entry.missing (entry : Entry) : Nat := entry.delivery.length - entry.begun.length

/-- The datagrams that are in the stream as a whole. -/
def wholes (log : List Entry) : List Bytes :=
  (log.filter fun entry => entry.IsWhole).map fun entry => entry.delivery.data

/-- Nothing is written behind a send that was cut off. -/
def Unbroken (log : List Entry) : Prop :=
  log.Pairwise fun torn later => torn.IsTorn → later.bytes = []

variable {entry torn : Entry} {log front behind : List Entry}

theorem Entry.Fair.ends (fair : entry.Fair) :
    Outlet.Ends entry.delivery.length entry.delivery.data.announced entry.bytes entry.ending := by
  obtain ⟨_, outlet, takes, sent⟩ := fair
  have ends := Outlet.send_ends outlet entry.delivery takes
  rwa [sent] at ends

theorem Entry.Fair.isPrefix (fair : entry.Fair) : entry.bytes <+: entry.delivery.data.announced :=
  fair.ends.isPrefix fair.1

theorem Entry.Fair.isWhole_iff (fair : entry.Fair) :
    entry.IsWhole ↔ entry.ending = .sent entry.delivery.length :=
  fair.ends.whole_iff fair.1

/-- A send that succeeds returns the length of its datagram. -/
theorem Entry.Fair.sent_iff (fair : entry.Fair) (length : Nat) :
    entry.ending = .sent length ↔ entry.IsWhole ∧ entry.delivery.length = length := by
  rw [fair.isWhole_iff]
  constructor
  · intro sent
    have ends := fair.ends
    rw [sent] at ends
    obtain rfl := ends.sent_length
    exact ⟨sent, rfl⟩
  · rintro ⟨sent, rfl⟩
    exact sent

theorem Entry.Fair.small (fair : entry.Fair) (wrote : entry.bytes ≠ []) :
    entry.delivery.data.length < Bytes.wordValues := by
  obtain ⟨_, outlet, takes, sent⟩ := fair
  refine Outlet.small_of_written outlet entry.delivery takes ?_
  rwa [sent]

theorem Entry.IsWhole.wrote (whole : entry.IsWhole) : entry.bytes ≠ [] :=
  fun none => Bytes.announced_ne_nil _ (whole.symm.trans none)

/-- The length of a cut datagram is read, and what is there of the datagram is not all of it. -/
theorem Entry.IsTorn.split (torn : entry.IsTorn) (fair : entry.Fair)
    (enough : 4 ≤ entry.bytes.length) :
    entry.bytes = Bytes.ofWord entry.delivery.data.length ++ entry.begun ∧
      entry.begun.length < entry.delivery.data.length := by
  have inside := fair.isPrefix
  have head : entry.bytes.take 4 = Bytes.ofWord entry.delivery.data.length := by
    obtain ⟨rest, split⟩ := inside
    rw [← List.take_append_of_le_length enough, split, Bytes.announced,
      List.take_left' (Bytes.ofWord_length _)]
  have shorter : entry.bytes.length < entry.delivery.data.announced.length :=
    Nat.lt_of_le_of_ne inside.length_le fun same => torn.2 (inside.eq_of_length same)
  refine ⟨?_, ?_⟩
  · rw [Entry.begun, ← head, List.take_append_drop]
  · rw [Bytes.announced_length] at shorter
    rw [Entry.begun, List.length_drop]
    omega

theorem wholes_cons_of_whole (whole : entry.IsWhole) :
    wholes (entry :: log) = entry.delivery.data :: wholes log := by
  rw [wholes, List.filter_cons_of_pos (by simpa using whole), List.map_cons, wholes]

theorem wholes_cons_of_partly (partly : ¬entry.IsWhole) : wholes (entry :: log) = wholes log := by
  rw [wholes, List.filter_cons_of_neg (by simpa using partly), wholes]

theorem wholes_of_unwritten (unwritten : ∀ entry ∈ log, entry.bytes = []) : wholes log = [] := by
  induction log with
  | nil => rfl
  | cons entry log ih =>
      obtain ⟨first, later⟩ := List.forall_mem_cons.mp unwritten
      rw [wholes_cons_of_partly fun whole => whole.wrote first, ih later]

/-- Up to the first send that was cut off, whole datagrams stand one behind the other. -/
theorem bytes_of_intact (intact : ∀ entry ∈ log, ¬entry.IsTorn) :
    log.flatMap Entry.bytes = (wholes log).flatMap Bytes.announced := by
  induction log with
  | nil => rfl
  | cons entry log ih =>
      obtain ⟨first, later⟩ := List.forall_mem_cons.mp intact
      rw [List.flatMap_cons, ih later]
      by_cases whole : entry.IsWhole
      · rw [wholes_cons_of_whole whole, List.flatMap_cons, whole]
      · have none : entry.bytes = [] := by
          by_contra wrote
          exact first ⟨wrote, whole⟩
        rw [none, List.nil_append, wholes_cons_of_partly whole]

/-- No send was cut off, or there was a first one. -/
theorem intact_or_torn (log : List Entry) :
    (∀ entry ∈ log, ¬entry.IsTorn) ∨
      ∃ front torn behind, log = front ++ torn :: behind ∧ (∀ entry ∈ front, ¬entry.IsTorn) ∧
        torn.IsTorn := by
  cases found : log.find? fun entry => entry.IsTorn with
  | none => exact .inl fun entry among => by simpa using List.find?_eq_none.mp found entry among
  | some torn =>
      obtain ⟨cut, front, behind, split, before⟩ := List.find?_eq_some_iff_append.mp found
      exact .inr ⟨front, torn, behind, split, fun entry among => by simpa using before entry among,
        by simpa using cut⟩

theorem small_wholes (fair : ∀ entry ∈ log, entry.Fair) :
    ∀ data ∈ wholes log, data.length < Bytes.wordValues := by
  intro data among
  obtain ⟨entry, kept, rfl⟩ := List.mem_map.mp among
  obtain ⟨member, whole⟩ := List.mem_filter.mp kept
  exact (fair entry member).small (Entry.IsWhole.wrote (by simpa using whole))

/-- Behind a cut datagram at the end of a stream there is no other one. -/
theorem receiveAll_torn (limit : Nat) (torn : entry.IsTorn) (fair : entry.Fair) :
    ∃ last, Inlet.receiveAll limit [entry.bytes] = [last] ∧ ∀ data, last ≠ .datagram data := by
  have joined : [entry.bytes].flatten = entry.bytes := List.flatten_singleton
  by_cases short : entry.bytes.length < 4
  · exact ⟨_, (Inlet.Finds.endsInLength torn.1 short).ends joined (by simp), by simp⟩
  · obtain ⟨split, missing⟩ := torn.split fair (Nat.le_of_not_lt short)
    rw [Inlet.receiveAll_ofWord (fair.small torn.1) (joined.trans split), if_pos missing]
    by_cases long : limit < entry.delivery.data.length
    · exact ⟨_, if_pos long, by simp⟩
    · exact ⟨_, if_neg long, by simp⟩

/-- What is received from a stream, up to the first send that was cut off. -/
theorem receiveAll_front {limit : Nat} {chunks : List Bytes} (fair : ∀ entry ∈ front, entry.Fair)
    (intact : ∀ entry ∈ front, ¬entry.IsTorn)
    (allowed : ∀ data ∈ wholes front, data.length ≤ limit)
    (joined : chunks.flatten = (front ++ torn :: behind).flatMap Entry.bytes) :
    Inlet.receiveAll limit chunks =
      (wholes front).map .datagram ++
        Inlet.receiveAll limit [torn.bytes ++ behind.flatMap Entry.bytes] := by
  rw [List.flatMap_append, List.flatMap_cons, bytes_of_intact intact] at joined
  exact Inlet.receiveAll_allowed (small_wholes fair) allowed joined

/-- If nothing is written behind a send that was cut off, the receiver gets the datagrams that are
whole, up to the first one that is too long for it. -/
theorem receiveAll_unbroken {limit : Nat} {chunks : List Bytes} (fair : ∀ entry ∈ log, entry.Fair)
    (unbroken : Unbroken log) (joined : chunks.flatten = log.flatMap Entry.bytes) :
    ∃ last, (∀ data, last ≠ .datagram data) ∧
      Inlet.receiveAll limit chunks =
        ((wholes log).takeWhile fun data => data.length ≤ limit).map .datagram ++ [last] := by
  rcases intact_or_torn log with intact | ⟨front, torn, behind, rfl, intact, cut⟩
  · have stream : chunks.flatten = (wholes log).flatMap Bytes.announced ++ [] := by
      rw [joined, bytes_of_intact intact, List.append_nil]
    exact Inlet.receiveAll_stops (small_wholes fair) stream (Inlet.Finds.closed.ends rfl (by simp))
      (by simp)
  · have silent : ∀ entry ∈ behind, entry.bytes = [] := fun entry among =>
      (List.pairwise_cons.mp (List.pairwise_append.mp unbroken).2.1).1 entry among cut
    have nothing : behind.flatMap Entry.bytes = [] := List.flatMap_eq_nil_iff.mpr silent
    have same : wholes (front ++ torn :: behind) = wholes front := by
      rw [wholes, List.filter_append, List.map_append, ← wholes, ← wholes,
        wholes_cons_of_partly cut.2, wholes_of_unwritten silent, List.append_nil]
    have stream : chunks.flatten = (wholes front).flatMap Bytes.announced ++ torn.bytes := by
      rw [joined, List.flatMap_append, List.flatMap_cons, nothing, bytes_of_intact intact,
        List.append_nil]
    obtain ⟨last, alone, none⟩ := receiveAll_torn limit cut (fair torn (by simp))
    rw [same]
    exact Inlet.receiveAll_stops
      (small_wholes fun entry among => fair entry (List.mem_append_left _ among)) stream alone none

/-- The bytes behind a cut datagram are taken for the rest of it. -/
theorem receiveAll_spliced {limit : Nat} {later : Bytes} (torn : entry.IsTorn) (fair : entry.Fair)
    (enough : 4 ≤ entry.bytes.length) (allowed : entry.delivery.length ≤ limit)
    (behind : entry.missing ≤ later.length) :
    Inlet.receiveAll limit [entry.bytes ++ later] =
      .datagram (entry.begun ++ later.take entry.missing) ::
        Inlet.receiveAll limit [later.drop entry.missing] := by
  obtain ⟨split, short⟩ := torn.split fair enough
  have joined : [entry.bytes ++ later].flatten =
      Bytes.ofWord entry.delivery.data.length ++ (entry.begun ++ later) := by
    rw [List.flatten_singleton, ← List.append_assoc, ← split]
  have fits : ¬limit < entry.delivery.data.length := Nat.not_lt_of_le allowed
  have whole : ¬(entry.begun ++ later).length < entry.delivery.data.length := by
    rw [List.length_append]
    rw [Entry.missing, Delivery.length] at behind
    omega
  rw [Inlet.receiveAll_ofWord (fair.small torn.1) joined, if_neg fits, if_neg whole,
    List.take_append, List.take_of_length_le (Nat.le_of_lt short), List.drop_append,
    List.drop_eq_nil_of_le (Nat.le_of_lt short), List.nil_append]
  rfl

namespace Circuit

/-- Sends on a connected sender come in any order, and any of them may fail or be given up. They
write in the order in which they came, each of them a part of its datagram from the front, and those
that return a length have written all of it, as any does whose stream goes on taking bytes. The
receiver gets the whole datagrams, in order, as long as nothing is written behind a send that was cut
off. If something is, and the length of the cut datagram is there, the next datagram begins with what
was written of the cut one and ends with bytes of the sends behind it. -/
theorem run_received {sender : DatagramSender Nat} (ready : sender.Ready) (events : List Event) :
    let after := (opened sender).run events
    (after.log.map Entry.number).Pairwise (· < ·) ∧
      (∀ entry ∈ after.log, after.usage.Sends entry.number entry.delivery ∧
        entry.bytes <+: entry.delivery.data.announced) ∧
      (∀ number length, (number, .sent (.ok length)) ∈ after.usage.endings ↔
        ∃ entry ∈ after.log,
          entry.number = number ∧ entry.IsWhole ∧ entry.delivery.length = length) ∧
      (∀ number delivery counts, after.underway? number = some delivery →
        delivery.length < Bytes.wordValues → Outlet.Drains (4 + delivery.length) counts →
        (after.step (.write number (counts.map .took))).log =
          after.log ++ [⟨number, delivery, delivery.data.announced, .sent delivery.length⟩]) ∧
      ∀ (limit : Nat) (chunks : List Bytes), chunks.flatten = after.bytes →
        (Unbroken after.log → ∃ last, (∀ data, last ≠ .datagram data) ∧
          Inlet.receiveAll limit chunks =
            ((wholes after.log).takeWhile fun data => data.length ≤ limit).map .datagram ++
              [last]) ∧
          ∀ front torn behind, after.log = front ++ torn :: behind →
            (∀ entry ∈ front, ¬entry.IsTorn) → (∀ data ∈ wholes front, data.length ≤ limit) →
            torn.IsTorn → 4 ≤ torn.bytes.length → torn.delivery.length ≤ limit →
            let later := behind.flatMap Entry.bytes
            torn.missing ≤ later.length →
            0 < torn.missing ∧
              Inlet.receiveAll limit chunks =
                (wholes front).map .datagram ++
                  .datagram (torn.begun ++ later.take torn.missing) ::
                    Inlet.receiveAll limit [later.drop torn.missing] := by
  intro after
  have orderly : Orderly after := (opened_orderly ready).run events
  have fair : ∀ entry ∈ after.log, entry.Fair := fun entry among =>
    (orderly.written entry among).2
  have ordered : (after.log.map Entry.number).Pairwise (· < ·) :=
    orderly.turns.sublist (List.sublist_append_left _ _)
  have returned (number length : Nat) : (number, .sent (.ok length)) ∈ after.usage.endings ↔
      ∃ entry ∈ after.log,
        entry.number = number ∧ entry.IsWhole ∧ entry.delivery.length = length := by
    rw [orderly.returned]
    refine exists_congr fun entry => and_congr_right fun among => and_congr_right fun _ => ?_
    exact (fair entry among).sent_iff length
  have wrote : ∀ entry ∈ after.log, after.usage.Sends entry.number entry.delivery ∧
      entry.bytes <+: entry.delivery.data.announced := fun entry among =>
    ⟨(orderly.written entry among).1, (fair entry among).isPrefix⟩
  have goesOut : after.outlet.isOpen = true :=
    congrArg Outlet.isOpen ((opened_orderly ready).run_outlet events)
  have writes (number : Nat) (delivery : Delivery) (counts : List Nat)
      (underway : after.underway? number = some delivery)
      (small : delivery.length < Bytes.wordValues)
      (drains : Outlet.Drains (4 + delivery.length) counts) :=
    log_write_drains goesOut underway small drains
  refine ⟨ordered, wrote, returned, writes, fun limit chunks joined =>
    ⟨fun unbroken => receiveAll_unbroken fair unbroken joined, ?_⟩⟩
  intro front torn behind split intact allowed cut enough fits later rest
  have among : torn ∈ after.log := by simp [split]
  have before : ∀ entry ∈ front, entry.Fair := fun entry member =>
    fair entry (by simp [split, member])
  have stream : chunks.flatten = (front ++ torn :: behind).flatMap Entry.bytes := by
    rw [joined, Circuit.bytes, split]
  refine ⟨Nat.sub_pos_of_lt (cut.split (fair torn among) enough).2, ?_⟩
  rw [receiveAll_front before intact allowed stream,
    receiveAll_spliced cut (fair torn among) enough fits rest]

/-- A sender that has just connected. -/
def linked : DatagramSender Nat where
  bindAddress := { host := .dotted 127 0 0 1, port := 0 }
  sendAddress := { host := .dotted 127 0 0 1, port := 4530 }
  limits := {}
  socket := some 0
  nextSocket := 1
  connected := true
  wasConnected := true

theorem linked_ready : linked.Ready := ⟨⟨0, rfl⟩, rfl, rfl⟩

/-- The second of three sends fails behind the first byte of its datagram, while the third one
waits. -/
def broken : List Event :=
  [.request (.send (.parts [[97], [98]])), .write 0 [.took 3, .took 3],
    .request (.send (.whole [119, 120, 121, 122])), .request (.sendRange [106, 107] 1 1),
    .write 1 [.took 5, .failed (.io .wouldBlock)], .turn 2, .write 2 [.took 5]]

theorem run_received_broken :
    linked.Ready ∧
      Inlet.receiveAll 4 [((opened linked).run broken).bytes] =
        [.datagram [97, 98], .datagram [119, 1, 0, 0], .failed Inlet.endsInLength] := by
  have received := (run_received linked_ready broken).2.2.2.2 4 _ List.flatten_singleton
  have log : ((opened linked).run broken).log =
      [⟨0, .parts [[97], [98]], [2, 0, 0, 0, 97, 98], .sent 2⟩] ++
        ⟨1, .whole [119, 120, 121, 122], [4, 0, 0, 0, 119], .failed (.io .wouldBlock)⟩ ::
          [⟨2, .whole [107], [1, 0, 0, 0, 107], .sent 1⟩] := by decide
  have spliced := (received.2 _ _ _ log (by decide) (by decide) (by decide) (by decide) (by decide)
    (by decide)).2
  have last : Inlet.receiveAll 4 [[0, 107]] = [.failed Inlet.endsInLength] :=
    (Inlet.Finds.endsInLength (by simp) (by decide)).ends rfl (by simp)
  exact ⟨linked_ready, spliced.trans (congrArg ([_] ++ _ :: ·) last)⟩

/-- A send is given up behind two bytes of its datagram, and another one follows. -/
def interrupted : List Event :=
  [.request (.send (.whole [97, 98, 99, 100])), .abandon 0 [.took 6],
    .request (.send (.whole [120, 121])), .write 1 [.took 6]]

/-- The receiver gets a datagram that nobody has sent. -/
theorem interrupted_splices :
    linked.Ready ∧
      let after := (opened linked).run interrupted
      .datagram [97, 98, 2, 0] ∈ Inlet.receiveAll 1500 [after.bytes] ∧
        ∀ number delivery, after.usage.Sends number delivery → delivery.data ≠ [97, 98, 2, 0] := by
  have bytes : ((opened linked).run interrupted).bytes =
      Bytes.ofWord 4 ++ [97, 98, 2, 0, 0, 0, 120, 121] := by decide
  have received : Inlet.receiveAll 1500 [((opened linked).run interrupted).bytes] =
      .datagram [97, 98, 2, 0] :: Inlet.receiveAll 1500 [[0, 0, 120, 121]] := by
    rw [Inlet.receiveAll_ofWord (by decide) (List.flatten_singleton.trans bytes)]
    rfl
  have calls : ((opened linked).run interrupted).usage.calls =
      [.send (.whole [97, 98, 99, 100]), .send (.whole [120, 121])] := by decide
  refine ⟨linked_ready, by simp [received], fun number delivery sends => ?_⟩
  obtain ⟨call, found, gives⟩ := Option.bind_eq_some_iff.mp sends
  rw [calls] at found
  match number, found with
  | 0, found =>
      cases found
      cases gives
      decide
  | 1, found =>
      cases found
      cases gives
      decide

end Circuit

end DatagramSender

end ReliableTransport
