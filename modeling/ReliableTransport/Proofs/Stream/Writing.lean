import ReliableTransport.Stream.Outlet
/-!
This module says what a send leaves in its stream. A stream that goes on taking bytes ends up with
the whole datagram behind its length, however many it takes with each write. A send that fails or is
given up leaves a part of that, from the front and never all of it.
-/

namespace ReliableTransport

/-- A datagram as it stands in a stream, behind its length. -/
def Bytes.announced (data : Bytes) : Bytes := ofWord data.length ++ data

@[simp] theorem Bytes.announced_length (data : Bytes) :
    data.announced.length = 4 + data.length := by
  rw [announced, List.length_append, ofWord_length]

theorem Bytes.announced_ne_nil (data : Bytes) : data.announced ≠ [] := by
  rw [← List.length_pos_iff, announced_length]
  omega

namespace Outlet

/-- A stream takes some of so many bytes with each write, and goes on until it has them all. -/
inductive Drains : Nat → List Nat → Prop where
  | done : Drains 0 []
  | took {left count : Nat} {counts : List Nat} (some : 0 < count) (offered : count ≤ left)
      (later : Drains (left - count) counts) : Drains left (count :: counts)

/-- How the writing of pending bytes can end, by the bytes that the stream took. -/
inductive Ends (length : Nat) (pending : Bytes) : Bytes → Ending → Prop where
  | sent : Ends length pending pending (.sent length)
  | failed {written rest : Bytes} {failure : Failure} (split : written ++ rest = pending)
      (missing : rest ≠ []) : Ends length pending written (.failed failure)
  | givenUp {written : Bytes} {pieces : List Bytes} (split : written ++ pieces.flatten = pending)
      (missing : pieces.flatten ≠ []) : Ends length pending written (.givenUp pieces)
  | overrun {written : Bytes} : Ends length pending written .overrun

variable {length : Nat} {pending rest : List Bytes}

theorem write_nil (takes : List Take) : write length takes [] = ([], .sent length) := by
  cases takes <;> rfl

/-- As long as no pending piece is empty, a byte is missing exactly if a piece is. -/
theorem flatten_eq_nil_iff (full : [] ∉ pending) : pending.flatten = [] ↔ pending = [] := by
  constructor
  · intro empty
    cases pending with
    | nil => rfl
    | cons piece pieces =>
        rw [List.flatten_cons, List.append_eq_nil_iff] at empty
        exact absurd (empty.1 ▸ List.mem_cons_self) full
  · rintro rfl
    rfl

/-- What is pending behind the bytes that were taken has no empty piece either. -/
theorem full_advance {count : Nat} (full : [] ∉ pending)
    (advanced : advance count pending = some rest) : [] ∉ rest := by
  induction pending generalizing count with
  | nil =>
      cases count with
      | zero => simp_all [advance]
      | succ count => simp [advance] at advanced
  | cons piece pieces ih =>
      have others : [] ∉ pieces := fun empty => full (List.mem_cons_of_mem _ empty)
      cases count with
      | zero =>
          rw [advance_zero, Option.some.injEq] at advanced
          exact advanced ▸ full
      | succ count =>
          simp only [advance] at advanced
          split at advanced
          · exact ih others advanced
          · next long =>
            rw [Option.some.injEq] at advanced
            subst advanced
            intro empty
            rcases List.mem_cons.mp empty with cut | later
            · have reached := List.drop_eq_nil_iff.mp cut.symm
              omega
            · exact others later

/-- A write for which the stream takes no more than it is offered. -/
theorem write_took {count : Nat} {takes : List Take} (some : 0 < count)
    (advanced : advance count pending = Option.some rest) :
    write length (.took count :: takes) pending =
      (pending.flatten.take count ++ (write length takes rest).1, (write length takes rest).2) := by
  obtain ⟨count, rfl⟩ := Nat.exists_eq_succ_of_ne_zero (Nat.ne_of_gt some)
  cases pending with
  | nil => simp [advance] at advanced
  | cons piece pieces => simp only [write, advanced]

/-- However many bytes the stream takes with each write, it ends up with all of them. -/
theorem write_drains {counts : List Nat} (full : [] ∉ pending)
    (drains : Drains pending.flatten.length counts) :
    write length (counts.map .took) pending = (pending.flatten, .sent length) := by
  generalize size : pending.flatten.length = left at drains
  induction drains generalizing pending with
  | done =>
      have none : pending = [] := (flatten_eq_nil_iff full).mp (List.length_eq_zero_iff.mp size)
      rw [none, write_nil, List.flatten_nil]
  | @took left count counts some offered later ih =>
      subst size
      obtain ⟨rest, advanced⟩ := Option.isSome_iff_exists.mp
        ((advance_isSome_iff count pending).mpr offered)
      have behind := flatten_advance advanced
      have shorter : rest.flatten.length = pending.flatten.length - count := by
        rw [behind, List.length_drop]
      rw [List.map_cons, write_took some advanced, ih (full_advance full advanced) shorter, behind,
        List.take_append_drop]

/-- Whatever the stream answers, it took a part of what was pending from the front, and all of it
only if the writing has succeeded. -/
theorem write_ends (full : [] ∉ pending) (takes : List Take) :
    Ends length pending.flatten (write length takes pending).1 (write length takes pending).2 := by
  induction takes generalizing pending with
  | nil =>
      cases pending with
      | nil => exact .sent
      | cons piece pieces =>
          exact .givenUp rfl fun empty =>
            List.cons_ne_nil _ _ ((flatten_eq_nil_iff full).mp empty)
  | cons take takes ih =>
      by_cases waits : pending = []
      · subst waits
        rw [write_nil]
        exact .sent
      have missing := mt (flatten_eq_nil_iff full).mp waits
      obtain ⟨piece, pieces, rfl⟩ := List.exists_cons_of_ne_nil waits
      match take with
      | .failed failure => exact .failed rfl missing
      | .took 0 => exact .failed rfl missing
      | .took (count + 1) =>
          cases advanced : advance (count + 1) (piece :: pieces) with
          | none =>
              simp only [write, advanced]
              exact .overrun
          | some rest =>
              rw [write_took (Nat.succ_pos count) advanced]
              have behind := flatten_advance advanced
              generalize (piece :: pieces).flatten = pending at behind ⊢
              -- What the later writes leave over is what is left over of all of it.
              have joined {written more : Bytes} (split : written ++ more = rest.flatten) :
                  pending.take (count + 1) ++ written ++ more = pending := by
                rw [List.append_assoc, split, behind, List.take_append_drop]
              have later := ih (full_advance full advanced)
              generalize write length takes rest = outcome at later ⊢
              obtain ⟨written, ending⟩ := outcome
              cases later with
              | sent =>
                  have whole := joined (List.append_nil rest.flatten)
                  rw [List.append_nil] at whole
                  rw [whole]
                  exact .sent
              | failed split missing => exact .failed (joined split) missing
              | givenUp split missing => exact .givenUp (joined split) missing
              | overrun => exact .overrun

/-- The pieces that write a datagram are the datagram behind its length, whatever its parts are. -/
theorem pieces_flatten (delivery : Delivery) :
    (pieces delivery.length (parts delivery)).flatten = delivery.data.announced := by
  have gathered : (parts delivery).flatten = delivery.data := by
    cases delivery with
    | whole data => exact List.append_nil data
    | parts pieces => rfl
  have same : ((parts delivery).filter fun part => !part.isEmpty).flatten = delivery.data := by
    rw [List.flatten_filter_not_isEmpty, gathered]
  rw [pieces, List.flatten_cons, same]
  rfl

theorem full_pieces (length : Nat) (parts : List Bytes) : [] ∉ pieces length parts := by
  intro empty
  rcases List.mem_cons.mp empty with first | later
  · cases first
  · have full := (List.mem_filter.mp later).2
    simp at full

/-- A send to a stream that goes on taking bytes leaves the datagram behind its length there, and
returns the length. -/
theorem send_drains {outlet : Outlet} {delivery : Delivery} {counts : List Nat}
    (opened : outlet.isOpen = true) (small : delivery.length < Bytes.wordValues)
    (drains : Drains (4 + delivery.length) counts) :
    outlet.send delivery (counts.map .took) = (delivery.data.announced, .sent delivery.length) := by
  have size : (pieces delivery.length (parts delivery)).flatten.length = 4 + delivery.length := by
    rw [pieces_flatten, Bytes.announced_length, Delivery.length]
  rw [send, if_neg (Nat.not_le_of_lt small), if_pos opened,
    write_drains (full_pieces _ _) (size ▸ drains), pieces_flatten]

/-- Whatever happens to a send, it leaves a part of its datagram in the stream, from the front, and
all of it only if it has succeeded. -/
theorem send_ends (outlet : Outlet) (delivery : Delivery) (takes : List Take) :
    Ends delivery.length delivery.data.announced (outlet.send delivery takes).1
      (outlet.send delivery takes).2 := by
  rw [send]
  split
  · exact .failed rfl (Bytes.announced_ne_nil _)
  split
  · rw [← pieces_flatten]
    exact write_ends (full_pieces _ _) takes
  · exact .failed rfl (Bytes.announced_ne_nil _)

/-- A send that writes anything has a datagram whose length can be written. -/
theorem small_of_written (outlet : Outlet) (delivery : Delivery) (takes : List Take)
    (wrote : (outlet.send delivery takes).1 ≠ []) : delivery.length < Bytes.wordValues := by
  refine Nat.lt_of_not_le fun oversized => wrote ?_
  rw [send, if_pos oversized]

variable {bytes written : Bytes} {ending : Ending}

/-- What the stream took stands at the front of what was pending. -/
theorem Ends.isPrefix (ends : Ends length bytes written ending) (fair : ending ≠ .overrun) :
    written <+: bytes := by
  cases ends with
  | sent => exact List.prefix_rfl
  | failed split _ => exact ⟨_, split⟩
  | givenUp split _ => exact ⟨_, split⟩
  | overrun => exact absurd rfl fair

theorem Ends.sent_length {count : Nat} (ends : Ends length bytes written (.sent count)) :
    count = length := by
  cases ends
  rfl

/-- The stream took everything exactly if the writing has succeeded. -/
theorem Ends.whole_iff (ends : Ends length bytes written ending) (fair : ending ≠ .overrun) :
    written = bytes ↔ ending = .sent length := by
  have partly {rest : Bytes} (split : written ++ rest = bytes) (missing : rest ≠ []) :
      written ≠ bytes := fun whole =>
    missing (List.append_cancel_left (split.trans (whole.symm.trans (List.append_nil _).symm)))
  cases ends with
  | sent => simp
  | failed split missing => simpa using partly split missing
  | givenUp split missing => simpa using partly split missing
  | overrun => exact absurd rfl fair

end Outlet

end ReliableTransport
