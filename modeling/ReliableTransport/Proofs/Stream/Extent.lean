import ReliableTransport.Proofs.Stream.Reading
/-!
This module says what is received from a whole stream. The bytes alone decide: first come the
complete datagrams at their front, as many as there are, and then one outcome that says how the
bytes go on behind them.
-/

namespace ReliableTransport

namespace Inlet

/-- A datagram that a receiver takes. Its length fits into four bytes, and within the limit. -/
structure Takes (limit : Nat) (data : Bytes) : Prop where
  small : data.length < Bytes.wordValues
  allowed : data.length ≤ limit

/-- Datagrams that a receiver takes stand at the front of the bytes, each behind its length. -/
def Leads (limit : Nat) (datagrams : List Bytes) (bytes : Bytes) : Prop :=
  (∀ data ∈ datagrams, Takes limit data) ∧ datagrams.flatMap Bytes.announced <+: bytes

/-- What comes behind the last complete datagram. -/
inductive Closes (limit : Nat) : Bytes → Reception → Prop where
  /-- The stream ends there. -/
  | orderly : Closes limit [] .closed
  /-- The next four bytes declare more than the limit. -/
  | tooLong {length : Nat} {rest : Bytes} (small : length < Bytes.wordValues)
      (long : limit < length) :
      Closes limit (Bytes.ofWord length ++ rest) (.failed (tooLong length limit))
  /-- The stream ends inside a datagram that may be long enough for the limit. -/
  | early {bytes : Bytes} {failure : Failure} (begun : bytes ≠ [])
      (allowed : ∀ length rest, length < Bytes.wordValues → bytes = Bytes.ofWord length ++ rest →
        length ≤ limit)
      (unexpected : failure.ioKind? = some .unexpectedEof) :
      Closes limit bytes (.failed failure)

variable {limit : Nat} {bytes rest : Bytes}

/-- The bytes leave no choice of what is found in them. -/
theorem Finds.unique {left : Bytes} {reception other : Reception}
    (finds : Finds limit bytes reception rest) (findsToo : Finds limit bytes other left) :
    reception = other ∧ rest = left := by
  have joined : [bytes].flatten = bytes := List.flatten_singleton
  obtain ⟨found, behind⟩ := finds.received joined
  obtain ⟨foundToo, behindToo⟩ := findsToo.received joined
  exact ⟨found.symm.trans foundToo, behind.symm.trans behindToo⟩

/-- The length at the front of the bytes is the only one that stands there. -/
theorem ofWord_inj {length other : Nat} {left : Bytes} (small : length < Bytes.wordValues)
    (smallToo : other < Bytes.wordValues)
    (same : Bytes.ofWord length ++ rest = Bytes.ofWord other ++ left) : length = other := by
  have read := Bytes.takeWord?_ofWord length small rest
  rw [same, Bytes.takeWord?_ofWord other smallToo left] at read
  exact (Prod.mk.inj (Option.some.inj read)).1.symm

/-- Whatever is found that is no datagram is the outcome that comes last. -/
theorem Finds.closes {reception : Reception} (finds : Finds limit bytes reception rest)
    (last : ∀ data, reception ≠ .datagram data) : Closes limit bytes reception := by
  cases finds with
  | @datagram data => exact absurd rfl (last data)
  | closed => exact .orderly
  | endsInLength begun short =>
      refine .early begun (fun length rest _ same => ?_) rfl
      have enough := congrArg List.length same
      rw [List.length_append, Bytes.ofWord_length] at enough
      omega
  | tooLong small long => exact .tooLong small long
  | endsEarly small allowed short =>
      refine .early (List.cons_ne_nil _ _) (fun length rest smallToo same => ?_) rfl
      exact ofWord_inj small smallToo same ▸ allowed

/-- Behind a datagram, what leads the bytes is the datagram and what leads the bytes behind it. -/
theorem Leads.cons {data : Bytes} {datagrams : List Bytes} (takes : Takes limit data)
    (leads : Leads limit datagrams rest) :
    Leads limit (data :: datagrams) (data.announced ++ rest) := by
  obtain ⟨taken, front⟩ := leads
  refine ⟨List.forall_mem_cons.mpr ⟨takes, taken⟩, ?_⟩
  rw [List.flatMap_cons]
  exact (List.prefix_append_right_inj _).mpr front

/-- The first of the datagrams that lead the bytes is the one that is found there. -/
theorem Leads.finds {data : Bytes} {datagrams : List Bytes}
    (leads : Leads limit (data :: datagrams) bytes) :
    ∃ left, Finds limit bytes (.datagram data) left ∧ Leads limit datagrams left := by
  obtain ⟨taken, behind, same⟩ := leads
  obtain ⟨takes, others⟩ := List.forall_mem_cons.mp taken
  rw [List.flatMap_cons, List.append_assoc] at same
  subst same
  exact ⟨_, .datagram takes.small takes.allowed, others, List.prefix_append _ _⟩

/-- What is received from a stream depends on its bytes only, and not on the chunks in which they
come. First come the datagrams that stand complete at the front of the bytes, and no longer sequence
of complete datagrams stands there. If the bytes end behind them, the receiver is told that the
stream was closed. If the next length is more than the limit, the receiver fails for that, and
otherwise because the stream ends too early. -/
theorem receiveAll_longest (limit : Nat) (bytes : Bytes) :
    ∃ datagrams rest last,
      bytes = datagrams.flatMap Bytes.announced ++ rest ∧
        Leads limit datagrams bytes ∧
        (∀ others, Leads limit others bytes → others <+: datagrams) ∧
        Closes limit rest last ∧
        ∀ chunks : List Bytes, chunks.flatten = bytes →
          receiveAll limit chunks = datagrams.map .datagram ++ [last] := by
  obtain ⟨reception, rest, finds⟩ := exists_finds limit bytes
  -- Either nothing more is received, or a datagram is taken and fewer bytes are left.
  by_cases more : ∃ data, reception = .datagram data
  · obtain ⟨data, rfl⟩ := more
    have shorter := finds.shorter
    obtain ⟨datagrams, behind, last, split, leads, longest, closes, received⟩ :=
      receiveAll_longest limit rest
    have first : Takes limit data ∧ bytes = data.announced ++ rest := by
      cases finds with
      | datagram small allowed => exact ⟨⟨small, allowed⟩, rfl⟩
    obtain ⟨takes, whole⟩ := first
    refine ⟨data :: datagrams, behind, last, ?_, ?_, ?_, closes, ?_⟩
    · rw [whole, List.flatMap_cons, List.append_assoc, ← split]
    · rw [whole]
      exact leads.cons takes
    · intro others leadsToo
      cases others with
      | nil => exact List.nil_prefix
      | cons other more =>
          obtain ⟨left, findsToo, further⟩ := leadsToo.finds
          obtain ⟨same, rfl⟩ := finds.unique findsToo
          obtain rfl : data = other := Reception.datagram.inj same
          exact List.cons_prefix_cons.mpr ⟨rfl, longest more further⟩
    · intro chunks joined
      obtain ⟨left, joinedToo, goesOn⟩ := finds.goes_on joined
      rw [goesOn, received left joinedToo]
      rfl
  · have none (data : Bytes) : reception ≠ .datagram data := fun same => more ⟨data, same⟩
    refine ⟨[], bytes, reception, rfl, ⟨nofun, List.nil_prefix⟩, ?_, finds.closes none, ?_⟩
    · intro others leadsToo
      cases others with
      | nil => exact List.nil_prefix
      | cons other further =>
          obtain ⟨left, findsToo, _⟩ := leadsToo.finds
          exact absurd (finds.unique findsToo).1 (none other)
    · intro chunks joined
      exact finds.ends joined none
termination_by bytes.length

end Inlet

end ReliableTransport
