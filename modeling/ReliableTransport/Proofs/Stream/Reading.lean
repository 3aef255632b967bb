import Mathlib.Data.List.TakeWhile
import ReliableTransport.Proofs.Stream.Writing
import ReliableTransport.Stream.Inlet
/-!
This module says what is received from the bytes of a stream. It is the same however the bytes are
split into chunks: first the datagrams that stand there one behind the other, and then what becomes
of the bytes behind them.
-/

namespace ReliableTransport

namespace Inlet

/-- What the next receive finds in the bytes of a stream, and the bytes that it leaves. -/
inductive Finds (limit : Nat) : Bytes → Reception → Bytes → Prop where
  | datagram {data rest : Bytes} (small : data.length < Bytes.wordValues)
      (allowed : data.length ≤ limit) : Finds limit (data.announced ++ rest) (.datagram data) rest
  | closed : Finds limit [] .closed []
  | endsInLength {bytes : Bytes} (begun : bytes ≠ []) (short : bytes.length < 4) :
      Finds limit bytes (.failed endsInLength) []
  | tooLong {length : Nat} {rest : Bytes} (small : length < Bytes.wordValues)
      (long : limit < length) :
      Finds limit (Bytes.ofWord length ++ rest) (.failed (tooLong length limit)) rest
  | endsEarly {length : Nat} {rest : Bytes} (small : length < Bytes.wordValues)
      (allowed : length ≤ limit) (short : rest.length < length) :
      Finds limit (Bytes.ofWord length ++ rest) (.failed endsEarly) []

variable {limit : Nat} {bytes rest : Bytes} {chunks : List Bytes} {reception : Reception}

/-- Reading takes bytes from the front, wherever the chunks end. -/
theorem fill_fst (count : Nat) (chunks : List Bytes) :
    (fill count chunks).1 = chunks.flatten.take count := by
  induction chunks generalizing count with
  | nil => cases count <;> simp [fill]
  | cons chunk rest ih =>
      cases count with
      | zero => simp [fill]
      | succ count =>
          simp only [fill]
          split
          · next short =>
            rw [ih, List.flatten_cons, List.take_append, List.take_of_length_le short]
          · next long =>
            rw [List.flatten_cons, List.take_append_of_le_length (by omega)]

theorem fill_snd (count : Nat) (chunks : List Bytes) :
    (fill count chunks).2.flatten = chunks.flatten.drop count := by
  have kept := fill_append count chunks
  rw [fill_fst] at kept
  exact List.append_cancel_left (kept.trans (List.take_append_drop count chunks.flatten).symm)

/-- A length at the front is read out of the first four bytes. -/
theorem takeWord?_take {length : Nat} (small : length < Bytes.wordValues) (rest : Bytes) :
    Bytes.takeWord? ((Bytes.ofWord length ++ rest).take 4) = some (length, []) := by
  have front : (Bytes.ofWord length ++ rest).take 4 = Bytes.ofWord length ++ [] := by
    rw [List.append_nil, List.take_left' (Bytes.ofWord_length length)]
  rw [front, Bytes.takeWord?_ofWord length small]

theorem drop_ofWord (length : Nat) (rest : Bytes) :
    (Bytes.ofWord length ++ rest).drop 4 = rest :=
  List.drop_left' (Bytes.ofWord_length length)

/-- What a receive finds does not depend on the chunks in which the bytes come. -/
theorem Finds.received (finds : Finds limit bytes reception rest)
    (joined : chunks.flatten = bytes) :
    (receive limit chunks).1 = reception ∧ (receive limit chunks).2.flatten = rest := by
  subst joined
  generalize whole : chunks.flatten = bytes at finds
  cases finds with
  | @datagram data rest small allowed =>
      rw [Bytes.announced, List.append_assoc] at whole
      have body : (fill data.length (fill 4 chunks).2).1 = data := by
        rw [fill_fst, fill_snd, whole, drop_ofWord]
        exact List.take_left
      have behind : (fill data.length (fill 4 chunks).2).2.flatten = rest := by
        rw [fill_snd, fill_snd, whole, drop_ofWord]
        exact List.drop_left
      simp [receive, fill_fst 4, whole, takeWord?_take small, Nat.not_lt_of_le allowed, body, behind]
  | closed => simp [receive, fill_fst, fill_snd, whole, Bytes.takeWord?]
  | endsInLength begun short =>
      have all : bytes.take 4 = bytes := List.take_of_length_le (Nat.le_of_lt short)
      have none := (Bytes.takeWord?_eq_none_iff _).mpr short
      simp [receive, fill_fst, fill_snd, whole, all, none, begun, List.drop_eq_nil_of_le,
        Nat.le_of_lt short]
  | tooLong small long =>
      simp [receive, fill_fst, fill_snd, whole, takeWord?_take small, long, drop_ofWord]
  | @endsEarly length rest small allowed short =>
      have body : (fill length (fill 4 chunks).2).1 = rest := by
        rw [fill_fst, fill_snd, whole, drop_ofWord, List.take_of_length_le (Nat.le_of_lt short)]
      have behind : (fill length (fill 4 chunks).2).2.flatten = [] := by
        rw [fill_snd, fill_snd, whole, drop_ofWord, List.drop_eq_nil_of_le (Nat.le_of_lt short)]
      simp [receive, fill_fst 4, whole, takeWord?_take small, Nat.not_lt_of_le allowed, body, behind,
        Nat.ne_of_lt short]

/-- The bytes of a datagram stand at the front of what follows its length. -/
theorem Finds.enough {length : Nat} (small : length < Bytes.wordValues) (allowed : length ≤ limit)
    (enough : length ≤ rest.length) :
    Finds limit (Bytes.ofWord length ++ rest) (.datagram (rest.take length)) (rest.drop length) := by
  have size : (rest.take length).length = length := List.length_take_of_le enough
  have split : Bytes.ofWord length ++ rest =
      Bytes.announced (rest.take length) ++ rest.drop length := by
    rw [Bytes.announced, size, List.append_assoc, List.take_append_drop]
  rw [split]
  exact .datagram (by rwa [size]) (by rwa [size])

/-- There is something to be found in any bytes. -/
theorem exists_finds (limit : Nat) (bytes : Bytes) :
    ∃ reception rest, Finds limit bytes reception rest := by
  cases read : Bytes.takeWord? bytes with
  | none =>
      have short := (Bytes.takeWord?_eq_none_iff bytes).mp read
      by_cases none : bytes = []
      · exact none ▸ ⟨_, _, .closed⟩
      · exact ⟨_, _, .endsInLength none short⟩
  | some found =>
      obtain ⟨length, rest⟩ := found
      have small := Bytes.takeWord?_lt read
      rw [Bytes.eq_of_takeWord? read]
      by_cases long : limit < length
      · exact ⟨_, _, .tooLong small long⟩
      have allowed := Nat.le_of_not_lt long
      by_cases short : rest.length < length
      · exact ⟨_, _, .endsEarly small allowed short⟩
      exact ⟨_, _, .enough small allowed (Nat.le_of_not_lt short)⟩

theorem Finds.shorter {data : Bytes} (finds : Finds limit bytes (.datagram data) rest) :
    rest.length < bytes.length := by
  cases finds with
  | datagram small allowed =>
      rw [List.length_append, Bytes.announced_length]
      omega

theorem receiveAll_eq (limit : Nat) (chunks : List Bytes) :
    receiveAll limit chunks =
      match receive limit chunks with
      | (.datagram data, rest) => .datagram data :: receiveAll limit rest
      | (other, _) => [other] := by
  rw [receiveAll]
  split <;> simp_all

/-- Behind a datagram the receiving goes on. -/
theorem Finds.goes_on {data : Bytes} (finds : Finds limit bytes (.datagram data) rest)
    (joined : chunks.flatten = bytes) :
    ∃ left, left.flatten = rest ∧
      receiveAll limit chunks = .datagram data :: receiveAll limit left := by
  obtain ⟨found, left⟩ := finds.received joined
  refine ⟨(receive limit chunks).2, left, ?_⟩
  rw [receiveAll_eq]
  generalize receive limit chunks = outcome at found
  obtain ⟨_, behind⟩ := outcome
  cases found
  rfl

/-- Anything but a datagram comes last. -/
theorem Finds.ends (finds : Finds limit bytes reception rest) (joined : chunks.flatten = bytes)
    (last : ∀ data, reception ≠ .datagram data) : receiveAll limit chunks = [reception] := by
  obtain ⟨found, _⟩ := finds.received joined
  rw [receiveAll_eq]
  generalize receive limit chunks = outcome at found
  obtain ⟨other, behind⟩ := outcome
  subst found
  cases other with
  | datagram data => exact absurd rfl (last data)
  | closed => rfl
  | failed failure => rfl

/-- What is received from a stream does not depend on how its bytes are split into chunks. -/
theorem receiveAll_congr {chunks others : List Bytes} (same : chunks.flatten = others.flatten) :
    receiveAll limit chunks = receiveAll limit others := by
  obtain ⟨reception, rest, finds⟩ := exists_finds limit others.flatten
  cases reception with
  | datagram data =>
      obtain ⟨left, behind, goesOn⟩ := finds.goes_on same
      obtain ⟨right, beyond, goesOnToo⟩ := finds.goes_on rfl
      have shorter : left.flatten.length < chunks.flatten.length := by
        rw [same, behind]
        exact finds.shorter
      rw [goesOn, goesOnToo, receiveAll_congr (behind.trans beyond.symm)]
  | closed => rw [finds.ends same (by simp), finds.ends rfl (by simp)]
  | failed failure => rw [finds.ends same (by simp), finds.ends rfl (by simp)]
termination_by chunks.flatten.length
decreasing_by exact shorter

/-- Datagrams that stand one behind the other are received one after the other, up to the first one
that is too long. If none is, the bytes behind them come next. -/
theorem receiveAll_announced {datagrams : List Bytes}
    (small : ∀ data ∈ datagrams, data.length < Bytes.wordValues)
    (joined : chunks.flatten = datagrams.flatMap Bytes.announced ++ rest) :
    receiveAll limit chunks =
      (datagrams.takeWhile fun data => data.length ≤ limit).map .datagram ++
        match datagrams.dropWhile fun data => data.length ≤ limit with
        | [] => receiveAll limit [rest]
        | long :: _ => [.failed (tooLong long.length limit)] := by
  induction datagrams generalizing chunks with
  | nil =>
      refine receiveAll_congr ?_
      rw [joined]
      simp
  | cons data datagrams ih =>
      obtain ⟨first, later⟩ := List.forall_mem_cons.mp small
      rw [List.flatMap_cons, List.append_assoc] at joined
      by_cases allowed : data.length ≤ limit
      · have finds : Finds limit (data.announced ++ (datagrams.flatMap Bytes.announced ++ rest))
            (.datagram data) (datagrams.flatMap Bytes.announced ++ rest) := .datagram first allowed
        obtain ⟨left, behind, goesOn⟩ := finds.goes_on joined
        rw [goesOn, ih later behind, List.takeWhile_cons_of_pos (by simpa using allowed),
          List.dropWhile_cons_of_pos (by simpa using allowed)]
        rfl
      · rw [Bytes.announced, List.append_assoc] at joined
        have finds : Finds limit _ (.failed (tooLong data.length limit))
            (data ++ (datagrams.flatMap Bytes.announced ++ rest)) :=
          .tooLong first (Nat.lt_of_not_le allowed)
        rw [finds.ends joined (by simp), List.takeWhile_cons_of_neg (by simpa using allowed),
          List.dropWhile_cons_of_neg (by simpa using allowed)]
        rfl

/-- Behind datagrams that the receiver takes, the bytes that follow come next. -/
theorem receiveAll_allowed {datagrams : List Bytes}
    (small : ∀ data ∈ datagrams, data.length < Bytes.wordValues)
    (allowed : ∀ data ∈ datagrams, data.length ≤ limit)
    (joined : chunks.flatten = datagrams.flatMap Bytes.announced ++ rest) :
    receiveAll limit chunks = datagrams.map .datagram ++ receiveAll limit [rest] := by
  have fits : ∀ data ∈ datagrams, decide (data.length ≤ limit) = true := fun data among =>
    decide_eq_true (allowed data among)
  rw [receiveAll_announced small joined, List.takeWhile_eq_self_iff.mpr fits,
    List.dropWhile_eq_nil_iff.mpr fits]

/-- If nothing behind them is a datagram, the receiver gets datagrams that stand one behind the other
up to the first one that is too long, and then none. -/
theorem receiveAll_stops {datagrams : List Bytes} {last : Reception}
    (small : ∀ data ∈ datagrams, data.length < Bytes.wordValues)
    (joined : chunks.flatten = datagrams.flatMap Bytes.announced ++ rest)
    (behind : receiveAll limit [rest] = [last]) (none : ∀ data, last ≠ .datagram data) :
    ∃ last, (∀ data, last ≠ .datagram data) ∧
      receiveAll limit chunks =
        (datagrams.takeWhile fun data => data.length ≤ limit).map .datagram ++ [last] := by
  rw [receiveAll_announced small joined]
  cases datagrams.dropWhile fun data => decide (data.length ≤ limit) with
  | nil => exact ⟨last, none, by rw [behind]⟩
  | cons long _ => exact ⟨_, by simp, rfl⟩

/-- A length that so many bytes follow. -/
theorem receiveAll_ofWord {length : Nat} (small : length < Bytes.wordValues)
    (joined : chunks.flatten = Bytes.ofWord length ++ rest) :
    receiveAll limit chunks =
      if limit < length then [.failed (tooLong length limit)]
      else if rest.length < length then [.failed endsEarly]
      else .datagram (rest.take length) :: receiveAll limit [rest.drop length] := by
  split
  · next long => exact (Finds.tooLong small long).ends joined (by simp)
  next fits =>
  have allowed := Nat.le_of_not_lt fits
  split
  · next short => exact (Finds.endsEarly small allowed short).ends joined (by simp)
  · next enough =>
    obtain ⟨left, behind, goesOn⟩ :=
      (Finds.enough small allowed (Nat.le_of_not_lt enough)).goes_on joined
    have same : left.flatten = [rest.drop length].flatten := by
      rw [behind, List.flatten_singleton]
    rw [goesOn, receiveAll_congr same]

end Inlet

end ReliableTransport
