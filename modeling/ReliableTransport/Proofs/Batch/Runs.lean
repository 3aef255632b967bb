import Mathlib.Data.List.Induction
import ReliableTransport.Proofs.Batch.Encoding
/-!
This module follows batches through everything that can be done to them. A batch always knows its
size. The size stays within its bound unless an empty message is added to a batch without room for
another length: a message that takes no bytes always counts as one that fits.
-/

namespace ReliableTransport

namespace Batch

/-- What can be done to a batch. -/
inductive Action where
  | add (message : Bytes)
  | clear
  /-- The batch is replaced by the one that is read from data. -/
  | read (data : Bytes)

/-- A message that does not fit and data that is no frame leave the batch as it is. -/
def act (batch : Batch) : Action → Batch
  | .add message => (batch.add? message).getD batch
  | .clear => batch.clear
  | .read data =>
    match ofBytes data with
    | .ok other => other
    | .error _ => batch

def run (batch : Batch) (actions : List Action) : Batch := actions.foldl act batch

/-- A batch to which nothing was done yet. -/
inductive Fresh : Batch → Prop where
  | new (maxSize : Nat) : Fresh (withMaxSize maxSize)
  | read {data : Bytes} {batch : Batch} (read : ofBytes data = .ok batch) : Fresh batch

theorem run_append (batch : Batch) (front back : List Action) :
    batch.run (front ++ back) = (batch.run front).run back :=
  List.foldl_append

/-- What every action preserves holds after every run. -/
theorem run_preserves {holds : Batch → Prop}
    (step : ∀ batch action, holds batch → holds (batch.act action)) {batch : Batch}
    (initially : holds batch) (actions : List Action) : holds (batch.run actions) := by
  induction actions generalizing batch with
  | nil => exact initially
  | cons action rest ih => exact ih (step batch action initially)

/-- A message is taken exactly if it stays within the bound or is empty. -/
theorem fits_iff (batch : Batch) (message : Bytes) :
    batch.fits message ↔
      batch.size + Frame.lengthLength + message.length ≤ batch.maxSize ∨ message = [] := by
  rw [fits, decide_eq_true_iff, ← List.length_eq_zero_iff]
  omega

theorem add?_eq_some_iff (batch grown : Batch) (message : Bytes) :
    batch.add? message = some grown ↔
      (batch.size + Frame.lengthLength + message.length ≤ batch.maxSize ∨ message = []) ∧
        grown =
          { batch with
            messages := batch.messages ++ [message]
            size := batch.size + (Frame.lengthLength + message.length) } := by
  rw [← fits_iff, add?]
  split
  next taken => simp [taken, eq_comm]
  next refused => simp [refused]

theorem measured_add {batch grown : Batch} {message : Bytes} (measured : batch.Measured)
    (added : batch.add? message = some grown) : grown.Measured := by
  obtain ⟨_, rfl⟩ := (add?_eq_some_iff batch grown message).mp added
  simp only [Measured, Frame.sizeOf, Frame.bodySize_append, Frame.bodySize] at measured ⊢
  omega

/-- What an action can make of a batch. -/
inductive Becomes (batch : Batch) : Action → Batch → Prop where
  | takes {message : Bytes}
      (room : batch.size + Frame.lengthLength + message.length ≤ batch.maxSize ∨ message = []) :
      Becomes batch (.add message)
        { batch with
          messages := batch.messages ++ [message]
          size := batch.size + (Frame.lengthLength + message.length) }
  | refuses {message : Bytes} (notEmpty : message ≠ []) : Becomes batch (.add message) batch
  | clears : Becomes batch .clear batch.clear
  | replaces {data : Bytes} {other : Batch} (found : ofBytes data = .ok other) :
      Becomes batch (.read data) other
  | keeps {data : Bytes} : Becomes batch (.read data) batch

theorem act_becomes (batch : Batch) (action : Action) : batch.Becomes action (batch.act action) := by
  cases action with
  | add message =>
      rw [act]
      cases added : batch.add? message with
      | none =>
          apply Becomes.refuses
          rintro rfl
          rw [(add?_eq_some_iff batch _ []).mpr ⟨Or.inr rfl, rfl⟩] at added
          cases added
      | some grown =>
          obtain ⟨room, rfl⟩ := (add?_eq_some_iff batch grown message).mp added
          exact .takes room
  | clear => exact .clears
  | read data =>
      rw [act]
      split
      next other found => exact .replaces found
      · exact .keeps

theorem measured_act (batch : Batch) (action : Action) (measured : batch.Measured) :
    (batch.act action).Measured := by
  have becomes := batch.act_becomes action
  generalize batch.act action = after at becomes ⊢
  cases becomes with
  | takes room => exact measured_add measured ((add?_eq_some_iff _ _ _).mpr ⟨room, rfl⟩)
  | refuses _ => exact measured
  | clears => rfl
  | replaces found => exact measured_of_ofBytes found
  | keeps => exact measured

theorem Fresh.measured {batch : Batch} (fresh : Fresh batch) : batch.Measured := by
  cases fresh with
  | new maxSize => rfl
  | read found => exact measured_of_ofBytes found

/-- A batch always knows its size. Whenever a frame can have that size, reading what the batch
writes gives its messages back. The copy is the same batch exactly if the batch has the bound that
every batch has that was read. -/
theorem run_size_and_copy {start : Batch} (fresh : Fresh start) (actions : List Action) :
    let batch := start.run actions
    batch.size = Frame.sizeOf batch.messages ∧
      (batch.size ≤ Bytes.maxWord →
        ∃ data copy, batch.toBytes = .ok data ∧ ofBytes data = .ok copy ∧
          copy.messages = batch.messages ∧ copy.size = batch.size ∧
          (copy = batch ↔ batch.maxSize = Bytes.maxWord)) := by
  have measured := run_preserves measured_act fresh.measured actions
  refine ⟨measured, ?_⟩
  intro small
  generalize start.run actions = batch at measured small
  have inWord : batch.size < Bytes.wordValues := by
    simp only [Bytes.maxWord, Bytes.wordValues] at small ⊢
    omega
  have fits := Frame.fits_of_sizeOf (measured ▸ inWord)
  have size : batch.size = (Frame.layout batch.messages).length := by
    rw [Frame.layout_length, measured]
  refine ⟨_, { batch with maxSize := Bytes.maxWord }, toBytes_of_measured measured inWord,
    (ofBytes_ok_iff _ _).mpr ⟨fits, rfl, size, rfl⟩, rfl, rfl, ?_⟩
  obtain ⟨messages, size, maxSize⟩ := batch
  simp [eq_comm]

theorem run_size_and_copy_reused :
    let actions : List Action :=
      [.add [1, 2, 3], .add [4, 5, 6, 7, 8, 9], .add [], .clear, .add [7]]
    let batch := (withMaxSize 20).run actions
    Fresh (withMaxSize 20) ∧ batch.size = 13 ∧
      ∃ data copy, batch.toBytes = .ok data ∧ ofBytes data = .ok copy ∧ copy.messages = [[7]] ∧
        copy ≠ batch := by
  have fresh := Fresh.new 20
  obtain ⟨size, copied⟩ := run_size_and_copy fresh
    [.add [1, 2, 3], .add [4, 5, 6, 7, 8, 9], .add [], .clear, .add [7]]
  obtain ⟨data, copy, written, read, messages, _, same⟩ := copied (by decide)
  refine ⟨fresh, size.trans (by decide), data, copy, written, read, messages.trans (by decide), ?_⟩
  intro equal
  exact absurd (same.mp equal) (by decide)

/-- Every batch has a bound that a frame can reach. -/
theorem Fresh.maxSize_le {batch : Batch} (fresh : Fresh batch) : batch.maxSize ≤ Bytes.maxWord := by
  cases fresh with
  | new maxSize => exact Nat.min_le_right _ _
  | read found => exact Nat.le_of_eq ((ofBytes_ok_iff _ _).mp found).2.2.2

theorem maxSize_le_act (batch : Batch) (action : Action) (bounded : batch.maxSize ≤ Bytes.maxWord) :
    (batch.act action).maxSize ≤ Bytes.maxWord := by
  have becomes := batch.act_becomes action
  generalize batch.act action = after at becomes ⊢
  cases becomes with
  | takes _ | refuses _ | clears | keeps => exact bounded
  | replaces found => exact (Fresh.read found).maxSize_le

theorem Fresh.within {batch : Batch} (fresh : Fresh batch)
    (room : Frame.headerLength ≤ batch.maxSize) : batch.size ≤ batch.maxSize := by
  cases fresh with
  | new maxSize => exact room
  | read found =>
      obtain ⟨fits, layout, size, bound⟩ := (ofBytes_ok_iff _ _).mp found
      have sizeSmall := fits.1
      rw [size, bound, layout, Frame.layout_length]
      simp only [Bytes.wordValues, Bytes.maxWord] at sizeSmall ⊢
      omega

/-- Only an empty message can lift a batch over its bound. -/
theorem within_act_iff {batch : Batch} (measured : batch.Measured)
    (within : batch.size ≤ batch.maxSize) (action : Action) :
    (batch.act action).size ≤ (batch.act action).maxSize ↔
      (action = .add [] → batch.size + Frame.lengthLength ≤ batch.maxSize) := by
  have becomes := batch.act_becomes action
  generalize batch.act action = after at becomes ⊢
  cases becomes with
  | takes room =>
      rcases room with room | rfl
      · apply iff_of_true
        · simp only
          omega
        · intro empty
          obtain rfl := Action.add.inj empty
          exact room
      · simp
  | refuses notEmpty => simp [notEmpty, within]
  | clears =>
      have header := headerLength_le_size measured
      simp only [clear, reduceCtorEq, false_implies, iff_true]
      omega
  | replaces found =>
      have bound := ((ofBytes_ok_iff _ _).mp found).2.2.2
      have room : Frame.headerLength ≤ after.maxSize := by
        rw [bound]
        decide
      simp [(Fresh.read found).within room]
  | keeps => simp [within]

/-- A batch stays within its bound exactly as long as no empty message is added where no length has
room. A batch within its bound can be written. A message is taken exactly if the frame stays within
the bound or the message is empty. -/
theorem run_within_iff {start : Batch} (fresh : Fresh start)
    (room : Frame.headerLength ≤ start.maxSize) (actions : List Action) :
    ((∀ before, before <+: actions → (start.run before).size ≤ (start.run before).maxSize) ↔
      ∀ before, before ++ [.add []] <+: actions →
        (start.run before).size + Frame.lengthLength ≤ (start.run before).maxSize) ∧
    let batch := start.run actions
    batch.maxSize ≤ Bytes.maxWord ∧
      ((∃ parts, batch.toParts = .ok parts) ↔ batch.size ≤ Bytes.maxWord) ∧
      ∀ message, batch.add? message =
        if batch.size + Frame.lengthLength + message.length ≤ batch.maxSize ∨ message = [] then
          some
            { batch with
              messages := batch.messages ++ [message]
              size := batch.size + (Frame.lengthLength + message.length) }
        else none := by
  have measured := run_preserves measured_act fresh.measured
  have step (before : List Action) (action : Action)
      (within : (start.run before).size ≤ (start.run before).maxSize) :=
    within_act_iff (measured before) within action
  have run_snoc (before : List Action) (action : Action) :
      start.run (before ++ [action]) = (start.run before).act action :=
    run_append start before [action]
  refine ⟨⟨?_, ?_⟩, run_preserves maxSize_le_act fresh.maxSize_le actions,
    toParts_ok_iff (measured actions), ?_⟩
  · intro within before longer
    have now := within before ((List.prefix_append before _).trans longer)
    have after := within _ longer
    rw [run_snoc] at after
    exact (step before _ now).mp after rfl
  · intro spared before
    induction before using List.reverseRecOn with
    | nil =>
        intro _
        exact fresh.within room
    | append_singleton before action ih =>
        intro longer
        have now := ih ((List.prefix_append before _).trans longer)
        rw [run_snoc]
        refine (step before action now).mpr ?_
        rintro rfl
        exact spared before longer
  · intro message
    split
    next taken => exact (add?_eq_some_iff _ _ message).mpr ⟨taken, rfl⟩
    next refused =>
      rw [← fits_iff] at refused
      exact if_neg refused

/-- The bound is reached and refuses a message, and clearing makes room again. -/
theorem run_within_iff_reused :
    let actions : List Action := [.add [1, 2, 3, 4], .add [5], .clear, .add [6, 7, 8], .add []]
    let batch := (withMaxSize 19).run actions
    Fresh (withMaxSize 19) ∧ batch.size = batch.maxSize ∧ batch.messages = [[6, 7, 8], []] ∧
      batch.add? [9] = none ∧ ∃ parts, batch.toParts = .ok parts := by
  have fresh := Fresh.new 19
  obtain ⟨_, bound, written, taken⟩ := run_within_iff fresh (by decide)
    [.add [1, 2, 3, 4], .add [5], .clear, .add [6, 7, 8], .add []]
  refine ⟨fresh, by decide, by decide, ?_, written.mpr (by decide)⟩
  rw [taken [9]]
  decide

/-- An empty message is taken without room for its length. -/
theorem run_emptyMessage_exceeds :
    let batch := (withMaxSize 8).run [.add []]
    Fresh (withMaxSize 8) ∧ batch.messages = [[]] ∧ batch.maxSize < batch.size :=
  ⟨Fresh.new 8, by decide, by decide⟩

end Batch

end ReliableTransport
