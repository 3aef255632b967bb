import ReliableTransport.Proofs.Outbox.Packing
import ReliableTransport.Proofs.Outbox.Parting
/-!
This module follows the passes that the worker of a batched outbox begins. A pass goes on over
several turns: each send ends a turn, and the next one goes on with the messages behind it. Put
together, the sends of a pass are the frames that its messages are packed into.
-/

namespace ReliableTransport

/-- What is handed over is the frame of messages. -/
def Delivery.Writes (delivery : Delivery) (messages : List Bytes) : Prop :=
  Frame.Fits messages ∧ delivery.data = Frame.layout messages

namespace Outbox

open Mailbox (Role)

variable {Handler Result : Type} {outbox : Outbox Handler} {kind : Batch} {packageSize : Nat}

/-- Handlers are told of messages that no batch of a kind takes, and nothing else is asked of the
outside. -/
def Refusing (kind : Batch) (effects : List (Effect Role (Order Handler) Result)) : Prop :=
  ∀ order ∈ Effect.orders effects, ∃ handler message, kind.admits message = false ∧
    order = .report handler (.invalidOperation .oversizeMessage) [message]

theorem refusing_of_orders {effects : List (Effect Role (Order Handler) Result)}
    (quiet : Effect.orders effects = []) : Refusing kind effects := by
  intro order member
  rw [quiet] at member
  cases member

theorem Refusing.append {front back : List (Effect Role (Order Handler) Result)}
    (first : Refusing kind front) (second : Refusing kind back) :
    Refusing kind (front ++ back) := by
  intro order member
  rw [Effect.orders_append] at member
  rcases List.mem_append.mp member with earlier | later
  · exact first order earlier
  · exact second order later

theorem refusing_reports {message : Bytes} (refused : kind.admits message = false) :
    Refusing kind (outbox.reports (.invalidOperation .oversizeMessage) [message] :
      List (Effect Role (Order Handler) Result)) := by
  intro order member
  rw [orders_reports] at member
  obtain ⟨handler, _, rfl⟩ := List.mem_map.mp member
  exact ⟨handler, message, refused, rfl⟩

/-- What becomes of messages that are collected behind those of a batch. Either no frame comes of
them, or the first frame goes and the others come of the messages behind it. -/
inductive Fills (outbox : Outbox Handler) (kind : Batch) (messages : List Bytes)
    (coming : List (List Bytes)) : Progress Handler Result → Prop where
  | finishes {told : List (Effect Role (Order Handler) Result)} (none : coming = [])
      (refusing : Refusing kind told) :
      Fills outbox kind messages coming
        { outbox := { outbox with batch := some (kind.holding []) }
          effects := told
          complete := true }
  | departs {held : List Bytes} {flight : Flight} {delivery : Delivery}
      {told : List (Effect Role (Order Handler) Result)}
      (goes : coming = held :: frames outbox.packageSize (kind.holding []) flight.rest)
      (behind : flight.rest ⊆ messages) (together : ∀ message rest, flight ≠ .single message rest)
      (written : delivery.Writes held) (refusing : Refusing kind told) :
      Fills outbox kind messages coming
        { outbox := { outbox with batch := some (kind.holding held), flight := some flight }
          effects := told ++ [.order .worker (.send delivery)]
          complete := false }

theorem Fills.after {messages : List Bytes} {coming : List (List Bytes)}
    {progress : Progress Handler Result} (fills : Fills outbox kind messages coming progress)
    {told : List (Effect Role (Order Handler) Result)} (refusing : Refusing kind told) :
    Fills outbox kind messages coming (progress.after told) := by
  cases fills with
  | finishes none quiet => exact .finishes none (refusing.append quiet)
  | departs goes behind together written quiet =>
      rw [Progress.after]
      dsimp only
      rw [← List.append_assoc]
      exact .departs goes behind together written (refusing.append quiet)

theorem Fills.mono {few messages : List Bytes} {coming : List (List Bytes)}
    {progress : Progress Handler Result} (fills : Fills outbox kind few coming progress)
    (among : few ⊆ messages) : Fills outbox kind messages coming progress := by
  cases fills with
  | finishes none quiet => exact .finishes none quiet
  | departs goes behind together written quiet =>
      exact .departs goes (List.Subset.trans behind among) together written quiet

/-- A batch that a frame can hold goes. -/
theorem flush_fills {messages : List Bytes} {coming : List (List Bytes)} {held : List Bytes}
    {flight : Flight}
    (goes : coming = held :: frames outbox.packageSize (kind.holding []) flight.rest)
    (behind : flight.rest ⊆ messages) (together : ∀ message rest, flight ≠ .single message rest)
    (writable : Frame.sizeOf held ≤ Bytes.maxWord) :
    Fills outbox kind messages coming
      (outbox.flush (kind.holding held) flight : Progress Handler Result) := by
  have small : (kind.holding held).size < Bytes.wordValues := by
    simp only [Batch.holding, Bytes.maxWord, Bytes.wordValues] at writable ⊢
    omega
  have fits : Frame.Fits held := Frame.fits_of_sizeOf small
  have known : (kind.holding held).Measured := rfl
  obtain ⟨parts, written, joined⟩ := Batch.toParts_of_measured known small
  have silent : Refusing kind ([] : List (Effect Role (Order Handler) Result)) :=
    refusing_of_orders rfl
  have wrote : Delivery.Writes (.parts parts) held := ⟨fits, joined⟩
  simp only [flush, written]
  exact .departs goes behind together wrote silent

/-- The frames that go once a batch is full for the next message. -/
theorem frames_of_crowded {batch : Batch} {message : Bytes}
    (crowded : isCrowded batch message = true) (rest : List Bytes) :
    frames packageSize batch (message :: rest) =
      batch.messages :: frames packageSize (batch.holding []) (message :: rest) := by
  have admitted : batch.admits message = true := by
    rw [isCrowded_eq, Bool.and_eq_true] at crowded
    exact crowded.1
  have roomy : isCrowded batch.clear message = false := by
    have fits : batch.clear.fits message = true := admitted
    simp [isCrowded_eq, fits]
  have cleared : batch.holding [] = batch.clear := rfl
  rw [cleared, frames, frames]
  simp only [collect, roomFor, crowded, roomy, if_true, Bool.false_eq_true, if_false]
  cases batch.clear.add? message with
  | none => rfl
  | some grown =>
      by_cases below : grown.size < packageSize
      · simp only [if_pos below, List.singleton_append, List.nil_append]
      · simp only [if_neg below, List.nil_append, List.cons_append]

/-- A message that no batch takes makes no difference to the frames. -/
theorem frames_of_refused {batch : Batch} {message : Bytes}
    (roomy : isCrowded batch message = false) (refused : batch.add? message = none)
    (rest : List Bytes) :
    frames packageSize batch (message :: rest) = frames packageSize batch rest := by
  simp [frames, collect, roomFor, roomy, refused]

/-- The frames that go once a message has joined a batch. -/
theorem frames_of_taken {batch grown : Batch} {message : Bytes}
    (roomy : isCrowded batch message = false) (added : batch.add? message = some grown)
    (rest : List Bytes) :
    frames packageSize batch (message :: rest) =
      if grown.size < packageSize then frames packageSize grown rest
      else grown.messages :: frames packageSize (grown.holding []) rest := by
  simp only [frames, collect, roomFor, roomy, added, Bool.false_eq_true, if_false]
  by_cases below : grown.size < packageSize
  · simp only [if_pos below, List.nil_append]
  · simp only [if_neg below, List.nil_append, List.singleton_append]
    rfl

/-- An outbox that has its transport packs messages into frames. -/
theorem sendBatched_fills (attached : outbox.attached = true)
    (bounded : kind.maxSize ≤ Bytes.maxWord) (narrow : outbox.packageSize ≤ Bytes.maxWord)
    (messages : List Bytes) {held : List Bytes}
    (pending : Pending outbox.packageSize (kind.holding held))
    (room : [] ∈ messages → outbox.packageSize + Frame.lengthLength < Bytes.wordValues) :
    Fills outbox kind messages (frames outbox.packageSize (kind.holding held) messages)
      (outbox.sendBatched (kind.holding held) messages : Progress Handler Result) := by
  have below : Frame.sizeOf held < outbox.packageSize := pending.below
  induction messages generalizing held with
  | nil =>
      by_cases empty : held = []
      · subst empty
        have silent : Refusing kind ([] : List (Effect Role (Order Handler) Result)) :=
          refusing_of_orders rfl
        exact .finishes rfl silent
      · have goes : frames outbox.packageSize (kind.holding held) [] =
            held :: frames outbox.packageSize (kind.holding []) (Flight.rest .last) := by
          simp [frames, Batch.holding, Batch.isEmpty, Flight.rest, empty]
        have flushed : Fills outbox kind []
            (frames outbox.packageSize (kind.holding held) [])
            (outbox.flush (kind.holding held) .last : Progress Handler Result) :=
          flush_fills goes (List.Subset.refl _) (by simp) (by omega)
        simpa [sendBatched, Batch.holding, Batch.isEmpty, empty, attached] using flushed
  | cons message rest ih =>
      have roomRest (member : [] ∈ rest) := room (List.mem_cons_of_mem _ member)
      have later : rest ⊆ message :: rest := List.subset_cons_self message rest
      cases crowded : isCrowded (kind.holding held) message with
      | true =>
          have flushed : Fills outbox kind (message :: rest)
              (frames outbox.packageSize (kind.holding held) (message :: rest))
              (outbox.flush (kind.holding held) (.crowded message rest) :
                Progress Handler Result) :=
            flush_fills (frames_of_crowded crowded rest) (List.Subset.refl _) (by simp) (by omega)
          simpa [sendBatched, crowded, attached] using flushed
      | false =>
          have stays : (isCrowded (kind.holding held) message && outbox.attached) = false := by
            rw [crowded, Bool.false_and]
          have same : roomFor (kind.holding held) message = kind.holding held := by
            simp [roomFor, crowded]
          cases added : (kind.holding held).add? message with
          | none =>
              have refused : kind.admits message = false := by
                have roomy := fits_iff_admits pending.measured crowded
                have full : (kind.holding held).fits message = false := by
                  simpa [Batch.add?] using added
                exact roomy.symm.trans full
              rw [sendBatched_refuses stays (by rw [same, added]), same,
                frames_of_refused crowded added]
              exact ((ih pending roomRest below).mono later).after (refusing_reports refused)
          | some grown =>
              have taken := ((Batch.add?_eq_some_iff _ grown message).mp added).1
              have fits : (kind.holding held).fits message = true :=
                (Batch.fits_iff _ message).mpr taken
              have growing : (kind.holding held).Growing outbox.packageSize :=
                ⟨pending.measured, bounded, show Frame.sizeOf held ≤ _ by omega, .inr below⟩
              have writable :=
                growing.writable_add (fun empty => room (empty ▸ List.mem_cons_self)) added
              rw [sendBatched_takes stays (by rw [same, added]), if_pos attached,
                frames_of_taken crowded added]
              obtain rfl : grown = kind.holding (held ++ [message]) :=
                eq_holding_of_add? pending.measured added
              split
              next small => exact (ih (pending.joined fits small) roomRest small).mono later
              next reached =>
                have behind : Flight.rest (.full rest) ⊆ message :: rest := later
                exact flush_fills rfl behind (by simp) writable

/-- The outbox when a pass is over. -/
def Progress.passed (progress : Progress Handler Result) : Outbox Handler :=
  { progress.outbox with mailbox := progress.outbox.mailbox.endPass }

/-- The passes that the worker begins until it has to wait, each with its messages. -/
def begunPasses : Nat → Outbox Handler → List (List Bytes)
  | 0, _ => []
  | passes + 1, outbox =>
    match outbox.mailbox.takePass with
    | (_, none) => []
    | (mailbox, some messages) =>
      let progress : Progress Handler Reply := { outbox with mailbox }.workOn messages
      messages :: if progress.complete then begunPasses passes progress.passed else []

/-- The passes that begin when the worker takes queued messages. -/
def taken (outbox : Outbox Handler) : List (List Bytes) :=
  outbox.begunPasses (outbox.mailbox.queue.length + 1)

/-- The passes that begin after a part of a pass. -/
def Progress.taken (progress : Progress Handler Reply) : List (List Bytes) :=
  if progress.complete then progress.passed.taken else []

/-- What a turn of the worker makes of frames that are to come. Either there are none, or the first
one is under way, and the others come of the messages behind it. -/
inductive Lays (kind : Batch) (packageSize : Nat) (coming : List (List Bytes)) :
    Turn (Outbox Handler) Role (Order Handler) Result → Prop where
  | rests {outbox : Outbox Handler} {told : List (Effect Role (Order Handler) Result)}
      (same : outbox.packageSize = packageSize) (landed : outbox.flight = none)
      (fresh : outbox.batch = some (kind.holding [])) (none : coming = [])
      (refusing : Refusing kind told) : Lays kind packageSize coming (outbox, told)
  | flies {outbox : Outbox Handler} {flight : Flight} {held : List Bytes} {delivery : Delivery}
      {told : List (Effect Role (Order Handler) Result)}
      (same : outbox.packageSize = packageSize) (aloft : outbox.flight = some flight)
      (holds : outbox.batch = some (kind.holding held)) (carries : outbox.carried = held)
      (goes : coming = held :: frames packageSize (kind.holding []) flight.rest)
      (room : [] ∈ flight.rest → packageSize + Frame.lengthLength < Bytes.wordValues)
      (written : delivery.Writes held) (refusing : Refusing kind told) :
      Lays kind packageSize coming (outbox, told ++ [.order .worker (.send delivery)])

theorem Lays.after {coming : List (List Bytes)}
    {turn : Turn (Outbox Handler) Role (Order Handler) Result}
    (lays : Lays kind packageSize coming turn)
    {told : List (Effect Role (Order Handler) Result)} (refusing : Refusing kind told) :
    Lays kind packageSize coming (turn.1, told ++ turn.2) := by
  cases lays with
  | rests same landed fresh none quiet =>
      exact .rests same landed fresh none (refusing.append quiet)
  | flies same aloft holds carries goes room written quiet =>
      dsimp only
      rw [← List.append_assoc]
      exact .flies same aloft holds carries goes room written (refusing.append quiet)

/-- A part of a pass ends with a send, or leaves no frame behind for the passes after it. -/
theorem Fills.lays {messages : List Bytes} {coming : List (List Bytes)}
    {progress : Progress Handler Result} (fills : Fills outbox kind messages coming progress)
    {more : List (List Bytes)}
    (room : [] ∈ messages → outbox.packageSize + Frame.lengthLength < Bytes.wordValues)
    {next : Outbox Handler → Turn (Outbox Handler) Role (Order Handler) Result}
    (none : progress.complete = false → more = [])
    (further : progress.complete = true →
      Lays kind outbox.packageSize more (next progress.passed)) :
    Lays kind outbox.packageSize (coming ++ more) (progress.andThen next) := by
  cases fills with
  | finishes nothing refusing =>
      rw [nothing]
      exact (further rfl).after refusing
  | @departs held flight delivery told goes behind together written refusing =>
      rw [none rfl, List.append_nil]
      refine .flies rfl rfl rfl ?_ goes (fun member => room (behind member)) written refusing
      cases flight with
      | single message rest => exact absurd rfl (together message rest)
      | crowded | full | last => rfl

/-- Sizes of frames that settings allow. -/
structure Sizes (kind : Batch) (packageSize : Nat) : Prop where
  wide : Frame.headerLength < packageSize
  narrow : packageSize ≤ Bytes.maxWord
  bounded : kind.maxSize ≤ Bytes.maxWord

/-- A worker with messages at hand. -/
theorem workOn_fills (sizes : Sizes kind packageSize) (attached : outbox.attached = true)
    (same : outbox.packageSize = packageSize)
    (fresh : outbox.batch = some (kind.holding [])) (messages : List Bytes)
    (room : [] ∈ messages → packageSize + Frame.lengthLength < Bytes.wordValues) :
    Fills outbox kind messages (frames packageSize (kind.holding []) messages)
      (outbox.workOn messages : Progress Handler Result) := by
  subst same
  rw [workOn, fresh]
  exact sendBatched_fills attached sizes.bounded sizes.narrow messages
    (pending_holding_nil sizes.wide kind) room

/-- A worker that waits for messages begins passes until one of them has a frame. -/
theorem beginPasses_lays (sizes : Sizes kind packageSize) (passes : Nat)
    (attached : outbox.attached = true)
    (same : outbox.packageSize = packageSize) (landed : outbox.flight = none)
    (fresh : outbox.batch = some (kind.holding []))
    (room : ∀ pass ∈ outbox.begunPasses passes,
      [] ∈ pass → packageSize + Frame.lengthLength < Bytes.wordValues) :
    Lays kind packageSize
      ((outbox.begunPasses passes).flatMap (frames packageSize (kind.holding [])))
      (outbox.beginPasses passes : Turn (Outbox Handler) Role (Order Handler) Reply) := by
  induction passes generalizing outbox with
  | zero => exact .rests same landed fresh rfl (refusing_of_orders rfl)
  | succ passes ih =>
      rw [begunPasses] at room ⊢
      rw [beginPasses]
      cases began : outbox.mailbox.takePass with
      | mk mailbox items =>
          simp only [began] at room ⊢
          cases items with
          | none =>
              exact .rests same landed fresh rfl
                (refusing_of_orders (Mailbox.orders_wakeJoiner mailbox))
          | some messages =>
              simp only at room ⊢
              have roomy := room messages List.mem_cons_self
              have fills : Fills { outbox with mailbox } kind messages
                  (frames packageSize (kind.holding []) messages)
                  ({ outbox with mailbox }.workOn messages : Progress Handler Reply) :=
                @workOn_fills _ _ { outbox with mailbox } _ _ sizes attached same fresh messages
                  roomy
              generalize ({ outbox with mailbox }.workOn messages : Progress Handler Reply) =
                progress at fills room ⊢
              rw [List.flatMap_cons]
              subst same
              refine fills.lays roomy (fun waits => ?_) fun complete => ?_
              · rw [if_neg (by simp [waits]), List.flatMap_nil]
              · rw [if_pos complete] at room ⊢
                cases fills with
                | departs => cases complete
                | finishes none refusing =>
                    exact ih attached rfl landed rfl fun pass member =>
                      room pass (List.mem_cons_of_mem _ member)

end Outbox

end ReliableTransport
