import ReliableTransport.Memory
import ReliableTransport.Proofs.Batch.Encoding
/-!
This module shows that reading a frame stays inside its data, whatever the data says. The place of
the scan and the bytes that it has left agree in front of every message, so what is checked on the
one holds for the other. The room for the messages is bounded by the data as well.
-/

namespace ReliableTransport

namespace Frame

namespace Cursor

/-- What becomes of a message in front of a cursor, with every read that this takes. -/
inductive Takes (data : Bytes) (cursor : Cursor) : Except Stop Cursor → Prop where
  | endsInside (short : cursor.rest.length < lengthLength) :
      Takes data cursor (.error (.malformed (.endsInsideLength cursor.messages.size)))
  | tooLong {length : Nat} {behind : Cursor} (four : lengthLength ≤ cursor.rest.length)
      (word : cursor.word = .ok (length, behind))
      (written : cursor.rest = Bytes.ofWord length ++ behind.rest) (small : length ≤ Bytes.maxWord)
      (short : behind.rest.length < length) :
      Takes data cursor
        (.error (.malformed (.messageTooLong cursor.messages.size length behind.rest.length)))
  | takes {length : Nat} {behind following : Cursor} {message : Bytes}
      (four : lengthLength ≤ cursor.rest.length) (word : cursor.word = .ok (length, behind))
      (written : cursor.rest = Bytes.ofWord length ++ behind.rest) (small : length ≤ Bytes.maxWord)
      (enough : length ≤ behind.rest.length) (skip : behind.skip length = .ok following)
      (inside : cursor.offset + lengthLength + length ≤ data.length)
      (slice : Bytes.range? data.toArray (cursor.offset + lengthLength) length = some message)
      (same : behind.rest = message ++ following.rest) :
      Takes data cursor
        (.ok
          { offset := cursor.offset + lengthLength + length
            rest := following.rest
            messages := cursor.messages.push message })

variable {data : Bytes} {cursor : Cursor}

/-- The offset and the bytes that are left make up the data. -/
theorem aligned_iff :
    cursor.Aligned data ↔
      cursor.offset + cursor.rest.length = data.length ∧ cursor.rest = data.drop cursor.offset := by
  constructor
  · rintro ⟨passed, split, place⟩
    rw [split, ← place, List.length_append, List.drop_left]
    exact ⟨rfl, rfl⟩
  · rintro ⟨total, left⟩
    refine ⟨data.take cursor.offset, ?_, List.length_take_of_le (by omega)⟩
    rw [left, List.take_append_drop]

/-- Skipping moves past bytes that are there. -/
theorem skip_of_le {length : Nat} (enough : length ≤ cursor.rest.length) :
    cursor.skip length = .ok { cursor with rest := cursor.rest.drop length } :=
  if_pos ((Bytes.reaches_iff _ _).mpr enough)

/-- A number is read as it was written. -/
theorem word_of_takeWord? {length : Nat} {rest : Bytes}
    (read : Bytes.takeWord? cursor.rest = some (length, rest)) :
    cursor.word = .ok (length, { cursor with rest }) := by
  rw [word, read]

/-- A message in front of an aligned cursor is taken or refused, and no read leaves the data. -/
theorem takes_next (aligned : cursor.Aligned data) :
    cursor.Takes data (cursor.next data.toArray) := by
  rw [next_eq aligned]
  obtain ⟨total, _⟩ := aligned_iff.mp aligned
  obtain ⟨passed, split, place⟩ := aligned
  cases read : Bytes.takeWord? cursor.rest with
  | none =>
      exact .endsInside ((Bytes.takeWord?_eq_none_iff _).mp read)
  | some found =>
      obtain ⟨length, rest⟩ := found
      have written := Bytes.eq_of_takeWord? read
      have size := congrArg List.length written
      rw [List.length_append, Bytes.ofWord_length] at size
      have four : lengthLength ≤ cursor.rest.length := by
        simp only [lengthLength]
        omega
      have small : length ≤ Bytes.maxWord := Nat.le_sub_one_of_lt (Bytes.takeWord?_lt read)
      have word := word_of_takeWord? read
      by_cases enough : length ≤ rest.length
      · simp only [if_pos enough]
        have inside : cursor.offset + lengthLength + length ≤ data.length := by
          simp only [lengthLength]
          omega
        -- The offset behind the length is the place of the rest, as both have passed four bytes.
        have slice : Bytes.range? data.toArray (cursor.offset + lengthLength) length =
            some (rest.take length) := by
          rw [Bytes.range?_toArray, if_pos inside, split, written, ← place, ← List.append_assoc,
            List.drop_left' (by rw [List.length_append, Bytes.ofWord_length]; rfl)]
        exact .takes four word written small enough (skip_of_le enough) inside slice
          (List.take_append_drop _ _).symm
      · simp only [if_neg enough]
        exact .tooLong four word written small (Nat.lt_of_not_le enough)

/-- A run goes on from where a shorter one has come to. -/
theorem run_add (data : Array UInt8) (front back : Nat) (cursor : Cursor) :
    cursor.run data (front + back) = (cursor.run data front).bind (run data back) := by
  induction front generalizing cursor with
  | zero => rw [Nat.zero_add, run, Except.bind]
  | succ front ih =>
      rw [Nat.add_right_comm, run, run]
      cases cursor.next data with
      | error stop => rfl
      | ok following => exact ih following

/-- In front of every message the offset and the bytes that are left name the same place. -/
theorem run_aligned (count : Nat) {cursor last : Cursor} (aligned : cursor.Aligned data)
    (ran : cursor.run data.toArray count = .ok last) : last.Aligned data := by
  induction count generalizing cursor with
  | zero =>
      cases ran
      exact aligned
  | succ count ih =>
      rw [run] at ran
      cases stepped : cursor.next data.toArray with
      | error stop =>
          rw [stepped] at ran
          cases ran
      | ok following =>
          rw [stepped] at ran
          obtain ⟨_, _, _, _, moved⟩ := next_exact aligned stepped
          exact ih moved ran

/-- The cursor keeps as many messages as it has passed. -/
theorem run_size (count : Nat) {cursor last : Cursor} (aligned : cursor.Aligned data)
    (ran : cursor.run data.toArray count = .ok last) :
    last.messages.size = cursor.messages.size + count := by
  obtain ⟨messages, counted, _, taken⟩ := run_exact count aligned ran
  have sizes := congrArg List.length taken
  simpa [counted] using sizes

end Cursor

/-- The numbers of the header are there if the data is as long as a header. -/
theorem header_words {data : Bytes} (long : headerLength ≤ data.length) (offset : Nat) :
    ∃ total behind count start,
      ({ offset, rest := data, messages := #[] } : Cursor).word = .ok (total, behind) ∧
        behind.word = .ok (count, start) := by
  obtain ⟨total, count, body, totalSmall, countSmall, rfl⟩ := header_of_length long
  exact ⟨total, _, count, _, Cursor.word_of_takeWord? (Bytes.takeWord?_ofWord total totalSmall _),
    Cursor.word_of_takeWord? (Bytes.takeWord?_ofWord count countSmall body)⟩

/-- A header that is accepted counts no more messages than there is room for their lengths. -/
theorem scanHeader_count_le {data : Bytes} {header : Header} {cursor : Cursor}
    (accepted : scanHeader data = .ok (header, cursor)) :
    header.count ≤ (data.length - headerLength) / lengthLength := by
  have long : headerLength ≤ data.length := by
    refine Nat.le_of_not_lt fun short => ?_
    rw [scanHeader, if_pos short] at accepted
    cases accepted
  obtain ⟨total, count, body, totalSmall, countSmall, words⟩ := header_of_length long
  rw [scanHeader_words totalSmall countSmall words] at accepted
  split at accepted
  · cases accepted
  split at accepted
  · cases accepted
  next room =>
    cases accepted
    exact Nat.le_of_not_lt room

end Frame

namespace Batch

/-- Whatever the data is, reading it never looks beyond it. The numbers of the header are read only
from data that has them. In front of every message the offset and the bytes that are left name the
same place of the data. Whatever length stands there, the message is taken from this place or
refused with every read inside. The room for the messages is reserved for no more of them than the
data can have lengths, and memory has it. -/
theorem ofBytes_stays_inside (data : Bytes) :
    ofBytes data ≠ .error .outside ∧
      (Frame.headerLength ≤ data.length → ∃ total behind count start,
        ({ offset := Frame.headerLength, rest := data, messages := #[] } : Frame.Cursor).word =
            .ok (total, behind) ∧
          behind.word = .ok (count, start)) ∧
      ∀ header start, Frame.scanHeader data = .ok (header, start) →
        header.count ≤ (data.length - 8) / 4 ∧
          Memory.hasRoom header.count Bytes.slotSize = true ∧
          ∀ index ≤ header.count, ∀ head, start.run data.toArray index = .ok head →
            start.run data.toArray header.count =
                head.run data.toArray (header.count - index) ∧
              head.messages.size = index ∧
              head.offset + head.rest.length = data.length ∧
              head.rest = data.drop head.offset ∧
              head.Takes data (head.next data.toArray) := by
  refine ⟨fun outside => ?_, fun long => Frame.header_words long Frame.headerLength,
    fun header start accepted => ?_⟩
  · obtain ⟨fault, malformed⟩ := ofBytes_stop outside
    cases malformed
  obtain ⟨_, countSmall, _, fresh, aligned⟩ := Frame.scanHeader_exact accepted
  refine ⟨Frame.scanHeader_count_le accepted, ?_, fun index within head ran => ?_⟩
  · rw [Memory.hasRoom_iff, Memory.maxPiece, Bytes.slotSize]
    simp only [Bytes.wordValues] at countSmall
    omega
  have placed := Frame.Cursor.run_aligned index aligned ran
  have sized := Frame.Cursor.run_size index aligned ran
  obtain ⟨total, left⟩ := Frame.Cursor.aligned_iff.mp placed
  refine ⟨?_, ?_, total, left, Frame.Cursor.takes_next placed⟩
  · obtain ⟨more, count⟩ := Nat.exists_eq_add_of_le within
    rw [count, Frame.Cursor.run_add, ran, Nat.add_sub_cancel_left]
    rfl
  · simpa [fresh] using sized

/-- A frame of two messages, the second of which claims the greatest length there is. -/
def greedy : Bytes := [18, 0, 0, 0, 2, 0, 0, 0, 2, 0, 0, 0, 7, 9, 255, 255, 255, 255]

theorem ofBytes_stays_inside_greedy :
    ∃ header start head, Frame.scanHeader greedy = .ok (header, start) ∧ 1 ≤ header.count ∧
      start.run greedy.toArray 1 = .ok head ∧ header.count ≤ (18 - 8) / 4 ∧
      head.offset + head.rest.length = 18 ∧ head.rest = greedy.drop head.offset ∧
      head.Takes greedy (.error (.malformed (.messageTooLong 1 4294967295 0))) ∧
      ofBytes greedy ≠ .error .outside := by
  obtain ⟨inside, -, scanned⟩ := ofBytes_stays_inside greedy
  let start : Frame.Cursor := { offset := 8, rest := greedy.drop 8, messages := #[] }
  let head : Frame.Cursor := { offset := 14, rest := greedy.drop 14, messages := #[[7, 9]] }
  have accepted : Frame.scanHeader greedy = .ok ({ total := 18, count := 2 }, start) := rfl
  have ran : start.run greedy.toArray 1 = .ok head := rfl
  obtain ⟨bounded, -, visited⟩ := scanned _ _ accepted
  obtain ⟨-, -, total, left, takes⟩ := visited 1 (by decide) head ran
  exact ⟨_, start, head, accepted, by decide, ran, bounded, total, left, takes, inside⟩

end Batch

end ReliableTransport
