import Mathlib.Data.List.Chain
import ReliableTransport.Proofs.Outbox.Soundness
/-!
This module says which frames an outbox makes of the messages of a pass. A frame goes when it
reaches the package size, when the next message has no room in it, or when the messages run out. The
frames follow from the messages, the package size and the size that a frame may reach, and from
nothing else.
-/

namespace ReliableTransport

namespace Batch

/-- A batch of the same kind that holds messages. -/
def holding (kind : Batch) (messages : List Bytes) : Batch :=
  { kind with messages, size := Frame.sizeOf messages }

theorem Measured.eq_holding {batch : Batch} (measured : batch.Measured) :
    batch = batch.holding batch.messages := by
  rw [holding, ← measured]

/-- Every message but the first of a frame fitted beside those before it. -/
def Fitted (kind : Batch) (frame : List Bytes) : Prop :=
  ∀ front message back, frame = front ++ message :: back → front ≠ [] →
    (kind.holding front).fits message = true

theorem fitted_nil (kind : Batch) : kind.Fitted [] := by
  intro front message back split
  simp at split

theorem Fitted.concat {kind : Batch} {frame : List Bytes} {message : Bytes}
    (fitted : kind.Fitted frame)
    (fits : frame ≠ [] → (kind.holding frame).fits message = true) :
    kind.Fitted (frame ++ [message]) := by
  intro front other back split behind
  rcases List.eq_nil_or_concat back with rfl | ⟨before, last, rfl⟩
  · obtain ⟨rfl, same⟩ := List.append_inj' split rfl
    obtain rfl := List.singleton_inj.mp same
    exact fits behind
  · rw [List.concat_eq_append, ← List.cons_append, ← List.append_assoc] at split
    exact fitted front other before (List.append_inj' split rfl).1 behind

end Batch

namespace Outbox

/-- What goes when a message comes, and what is collected further. A message that has no room beside
the others lets them go first. -/
def collect (packageSize : Nat) (batch : Batch) (message : Bytes) : List (List Bytes) × Batch :=
  let parted := if isCrowded batch message then [batch.messages] else []
  match (roomFor batch message).add? message with
  | none => (parted, roomFor batch message)
  | some grown =>
    if grown.size < packageSize then (parted, grown)
    else (parted ++ [grown.messages], grown.clear)

/-- The frames that go from a batch on which messages follow. -/
def frames (packageSize : Nat) (batch : Batch) : List Bytes → List (List Bytes)
  | [] => if batch.isEmpty then [] else [batch.messages]
  | message :: rest =>
    let step := collect packageSize batch message
    step.1 ++ frames packageSize step.2 rest

/-- What a message does to the messages that are collected. -/
inductive Collected (packageSize : Nat) (batch : Batch) (message : Bytes) :
    List (List Bytes) × Batch → Prop where
  | refuses (refused : batch.admits message = false) :
      Collected packageSize batch message ([], batch)
  | joins (fits : batch.fits message = true)
      (below : Frame.sizeOf (batch.messages ++ [message]) < packageSize) :
      Collected packageSize batch message ([], batch.holding (batch.messages ++ [message]))
  | fills (fits : batch.fits message = true)
      (reached : packageSize ≤ Frame.sizeOf (batch.messages ++ [message])) :
      Collected packageSize batch message
        ([batch.messages ++ [message]], batch.holding [])
  /-- The messages go without this one, which is collected after them. -/
  | parts (admitted : batch.admits message = true) (crowded : batch.fits message = false)
      (below : Frame.sizeOf [message] < packageSize) :
      Collected packageSize batch message ([batch.messages], batch.holding [message])
  /-- The messages go without this one, which goes alone. -/
  | partsAndFills (admitted : batch.admits message = true) (crowded : batch.fits message = false)
      (reached : packageSize ≤ Frame.sizeOf [message]) :
      Collected packageSize batch message ([batch.messages, [message]], batch.holding [])

variable {packageSize : Nat} {batch : Batch}

/-- A batch that knows its size still does when it has taken a message. -/
theorem eq_holding_of_add? {grown : Batch} {message : Bytes} (measured : batch.Measured)
    (added : batch.add? message = some grown) :
    grown = batch.holding (batch.messages ++ [message]) := by
  have still := Batch.measured_add measured added
  obtain ⟨_, same⟩ := (Batch.add?_eq_some_iff batch grown message).mp added
  rw [still.eq_holding, same]
  rfl

theorem collect_collected (packageSize : Nat) (measured : batch.Measured) (message : Bytes) :
    Collected packageSize batch message (collect packageSize batch message) := by
  have roomy := fits_roomFor measured message
  have known := measured_roomFor measured message
  unfold collect
  cases added : (roomFor batch message).add? message with
  | none =>
      have refused : batch.admits message = false := by
        rw [← roomy]
        simpa [Batch.add?] using added
      have stays : isCrowded batch message = false := by simp [isCrowded_eq, refused]
      simp only [stays, roomFor, Bool.false_eq_true, if_false]
      exact .refuses refused
  | some grown =>
      have fits : (roomFor batch message).fits message = true := by
        by_contra refused
        simp [Batch.add?, refused] at added
      have grew := eq_holding_of_add? known added
      cases crowded : isCrowded batch message with
      | true =>
          obtain ⟨admitted, full⟩ : _ ∧ _ := by simpa [isCrowded_eq] using crowded
          simp only [roomFor, crowded, if_true] at grew
          obtain rfl : grown = batch.holding [message] := grew
          simp only [if_true]
          split
          next below => exact .parts admitted full below
          next reached => exact .partsAndFills admitted full (Nat.le_of_not_lt reached)
      | false =>
          simp only [roomFor, crowded, Bool.false_eq_true, if_false] at fits grew
          subst grew
          simp only [Bool.false_eq_true, if_false]
          split
          next below => exact .joins fits below
          next reached => exact .fills fits (Nat.le_of_not_lt reached)

/-- What collecting goes on with: a batch that has not reached the package size. -/
structure Pending (packageSize : Nat) (batch : Batch) : Prop where
  measured : batch.Measured
  below : Frame.sizeOf batch.messages < packageSize
  fitted : batch.Fitted batch.messages
  admitted : ∀ message ∈ batch.messages, batch.admits message = true

theorem pending_holding_nil (wide : Frame.headerLength < packageSize) (kind : Batch) :
    Pending packageSize (kind.holding []) :=
  ⟨rfl, wide, kind.fitted_nil, by simp [Batch.holding]⟩

theorem pending_holding_singleton {kind : Batch} {message : Bytes}
    (admitted : kind.admits message = true) (below : Frame.sizeOf [message] < packageSize) :
    Pending packageSize (kind.holding [message]) := by
  refine ⟨rfl, below, kind.fitted_nil.concat fun nonempty => absurd rfl nonempty, ?_⟩
  intro other member
  obtain rfl := List.mem_singleton.mp member
  exact admitted

section Joined

variable {message : Bytes} (pending : Pending packageSize batch)
  (fits : batch.fits message = true)

include pending fits

theorem Pending.fitted_joined : batch.Fitted (batch.messages ++ [message]) := by
  refine pending.fitted.concat fun _ => ?_
  rw [← pending.measured.eq_holding]
  exact fits

theorem Pending.admitted_joined : ∀ other ∈ batch.messages ++ [message],
    batch.admits other = true := by
  intro other member
  rcases List.mem_append.mp member with earlier | latest
  · exact pending.admitted other earlier
  · obtain rfl := List.mem_singleton.mp latest
    exact Batch.admits_of_fits pending.measured fits

theorem Pending.joined (below : Frame.sizeOf (batch.messages ++ [message]) < packageSize) :
    Pending packageSize (batch.holding (batch.messages ++ [message])) :=
  ⟨rfl, below, pending.fitted_joined fits, pending.admitted_joined fits⟩

end Joined

/-- Why a frame goes without the message that the next one begins with. -/
def GoesWithout (packageSize : Nat) (kind : Batch) (frame next : List Bytes) : Prop :=
  packageSize ≤ Frame.sizeOf frame ∨
    ∃ first rest, next = first :: rest ∧
      kind.maxSize < Frame.sizeOf frame + Frame.lengthLength + first.length

/-- Messages are split into frames: those that an empty batch takes, in order and each once. A frame
without its last message is below the package size, and each of its messages but the first fitted
beside those before it. A frame that is followed by another one has reached the package size or has
no room for the next message. -/
structure Packed (packageSize : Nat) (kind : Batch) (messages : List Bytes)
    (frames : List (List Bytes)) : Prop where
  content : frames.flatten = messages.filter kind.admits
  full : ∀ frame ∈ frames, frame ≠ []
  below : ∀ frame ∈ frames, Frame.sizeOf frame.dropLast < packageSize
  fitted : ∀ frame ∈ frames, kind.Fitted frame
  parted : frames.IsChain (GoesWithout packageSize kind)

/-- A frame is put in front of others. -/
theorem Packed.cons {kind : Batch} {messages frame : List Bytes} {others : List (List Bytes)}
    (packed : Packed packageSize kind messages others)
    (admitted : ∀ message ∈ frame, kind.admits message = true) (full : frame ≠ [])
    (below : Frame.sizeOf frame.dropLast < packageSize) (fitted : kind.Fitted frame)
    (parted : ∀ next ∈ others.head?, GoesWithout packageSize kind frame next) :
    Packed packageSize kind (frame ++ messages) (frame :: others) := by
  refine ⟨?_, ?_, ?_, ?_, packed.parted.cons parted⟩
  · rw [List.flatten_cons, packed.content, List.filter_append, List.filter_eq_self.mpr admitted]
  · exact List.forall_mem_cons.mpr ⟨full, packed.full⟩
  · exact List.forall_mem_cons.mpr ⟨below, packed.below⟩
  · exact List.forall_mem_cons.mpr ⟨fitted, packed.fitted⟩

theorem packed_nil (packageSize : Nat) (kind : Batch) : Packed packageSize kind [] [] :=
  ⟨rfl, by simp, by simp, by simp, .nil⟩

/-- A message that no batch takes changes nothing. -/
theorem Packed.skip {kind : Batch} {message : Bytes} {front back : List Bytes}
    {frames : List (List Bytes)} (packed : Packed packageSize kind (front ++ back) frames)
    (refused : kind.admits message = false) :
    Packed packageSize kind (front ++ message :: back) frames := by
  refine ⟨?_, packed.full, packed.below, packed.fitted, packed.parted⟩
  rw [packed.content, List.filter_append, List.filter_append,
    List.filter_cons_of_neg (by simp [refused])]

/-- Which messages are in a batch does not matter for how others are packed. -/
theorem Packed.of_holding {kind : Batch} {held messages : List Bytes}
    {frames : List (List Bytes)} (packed : Packed packageSize (kind.holding held) messages frames) :
    Packed packageSize kind messages frames :=
  ⟨packed.content, packed.full, packed.below, packed.fitted, packed.parted⟩

/-- The first frame begins with the messages that were collected before. -/
theorem frames_extend (packageSize : Nat) (measured : batch.Measured) (full : batch.messages ≠ [])
    (messages : List Bytes) :
    ∃ more others, frames packageSize batch messages = (batch.messages ++ more) :: others := by
  induction messages generalizing batch with
  | nil => exact ⟨[], [], by simp [frames, Batch.isEmpty, full]⟩
  | cons message rest ih =>
      rw [frames]
      have collected := collect_collected packageSize measured message
      generalize collect packageSize batch message = step at collected
      cases collected with
      | refuses refused => exact ih measured full
      | joins fits below =>
          have known : (batch.holding (batch.messages ++ [message])).Measured := rfl
          obtain ⟨more, others, split⟩ := ih known (by simp [Batch.holding])
          exact ⟨message :: more, others, by simpa [Batch.holding] using split⟩
      | fills fits reached => exact ⟨[message], _, rfl⟩
      | parts | partsAndFills => exact ⟨[], _, by rw [List.append_nil]; rfl⟩

/-- A message that has no room beside others parts them from the frame that it begins. -/
theorem parted_of_crowded (measured : batch.Measured) {message : Bytes}
    (crowded : batch.fits message = false) (rest : List Bytes) :
    GoesWithout packageSize batch batch.messages (message :: rest) := by
  refine .inr ⟨message, rest, rfl, ?_⟩
  have full : ¬(batch.fits message = true) := by simp [crowded]
  rw [Batch.fits_iff, measured] at full
  omega

theorem sizeOf_dropLast_lt {frame : List Bytes} (below : Frame.sizeOf frame < packageSize) :
    Frame.sizeOf frame.dropLast < packageSize := by
  refine Nat.lt_of_le_of_lt ?_ below
  rcases List.eq_nil_or_concat frame with rfl | ⟨front, last, rfl⟩
  · exact Nat.le_refl _
  · rw [List.concat_eq_append, List.dropLast_concat, Frame.sizeOf, Frame.sizeOf,
      Frame.bodySize_append]
    omega

/-- A batch without room for a message is not empty. -/
theorem messages_ne_nil_of_parted (measured : batch.Measured) {message : Bytes}
    (admitted : batch.admits message = true) (crowded : batch.fits message = false) :
    batch.messages ≠ [] :=
  messages_ne_nil_of_crowded measured (by rw [isCrowded_eq, admitted, crowded]; rfl)

/-- The messages of a batch and those that follow are packed into the frames that go from it. -/
theorem frames_packed (wide : Frame.headerLength < packageSize)
    (pending : Pending packageSize batch) (messages : List Bytes) :
    Packed packageSize batch (batch.messages ++ messages)
      (frames packageSize batch messages) := by
  induction messages generalizing batch with
  | nil =>
      rw [frames]
      split
      next empty =>
        have none : batch.messages = [] := by simpa [Batch.isEmpty] using empty
        rw [none]
        exact packed_nil packageSize batch
      next some =>
        have full : batch.messages ≠ [] := by simpa [Batch.isEmpty] using some
        exact (packed_nil packageSize batch).cons pending.admitted full
          (sizeOf_dropLast_lt pending.below) pending.fitted (by simp)
  | cons message rest ih =>
      rw [frames]
      have collected := collect_collected packageSize pending.measured message
      generalize collect packageSize batch message = step at collected
      have afresh := (ih (pending_holding_nil wide batch)).of_holding
      cases collected with
      | refuses refused => exact (ih pending).skip refused
      | joins fits below =>
          have further := (ih (pending.joined fits below)).of_holding
          simpa [Batch.holding] using further
      | fills fits reached =>
          have grown := afresh.cons (pending.admitted_joined fits) (by simp)
            (by rw [List.dropLast_concat]; exact pending.below) (pending.fitted_joined fits)
            fun _ _ => .inl reached
          simpa [Batch.holding] using grown
      | parts admitted crowded below =>
          have full := messages_ne_nil_of_parted pending.measured admitted crowded
          have next := pending_holding_singleton admitted below
          obtain ⟨more, others, split⟩ :=
            frames_extend packageSize next.measured (by simp [Batch.holding]) rest
          have further := (ih next).of_holding
          simp only [split] at further ⊢
          refine further.cons pending.admitted full (sizeOf_dropLast_lt pending.below)
            pending.fitted fun _ first => ?_
          obtain rfl := Option.some.inj first
          exact parted_of_crowded pending.measured crowded _
      | partsAndFills admitted crowded reached =>
          have full := messages_ne_nil_of_parted pending.measured admitted crowded
          have single : ∀ other ∈ [message], batch.admits other = true := by simpa using admitted
          have alone := afresh.cons single (by simp) wide
            (batch.fitted_nil.concat fun nonempty => absurd rfl nonempty) fun _ _ => .inl reached
          refine alone.cons pending.admitted full (sizeOf_dropLast_lt pending.below)
            pending.fitted fun _ first => ?_
          obtain rfl := Option.some.inj first
          exact parted_of_crowded pending.measured crowded []

end Outbox

end ReliableTransport
