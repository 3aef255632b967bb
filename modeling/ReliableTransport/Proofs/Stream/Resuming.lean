import Mathlib.Data.Nat.Find
import ReliableTransport.Proofs.Stream.Writing
/-!
This module shows that the writing of a datagram comes to an end, whatever the stream answers to the
offers of what is pending. Each answer that does not end the writing leaves fewer bytes pending, and
what is pending begins inside a piece. So the writing never offers nothing and never looks for a
piece that is not there, and it fails only if bytes are missing in the stream.
-/

namespace ReliableTransport

namespace Outlet

namespace Take

/-- A stream can answer so to the offer of a number of bytes. It takes no more than it is
offered. -/
def Answers (offered : Nat) : Take → Prop
  | .took count => count ≤ offered
  | .failed _ => True

/-- The failure that an answer ends the writing with. -/
def failure? : Take → Option Failure
  | .took 0 => some (.io .writeZero)
  | .took (_ + 1) => none
  | .failed failure => some failure

end Take

/-- The pieces from a place in their list on. The piece at this place may have lost bytes at its
front, but not all of them. -/
def Remains (whole rest : List Bytes) : Prop :=
  ∃ (place gone : Nat) (piece : Bytes), whole[place]? = some piece ∧ gone < piece.length ∧
    rest = piece.drop gone :: whole.drop (place + 1)

section Remains

variable {whole pending rest : List Bytes}

theorem Remains.ne_nil (remains : Remains whole rest) : rest ≠ [] := by
  obtain ⟨_, _, _, _, _, rfl⟩ := remains
  exact List.cons_ne_nil _ _

/-- Pieces without an empty one remain as they are. -/
theorem remains_self (full : [] ∉ whole) (waits : whole ≠ []) : Remains whole whole := by
  obtain ⟨piece, pieces, rfl⟩ := List.exists_cons_of_ne_nil waits
  refine ⟨0, 0, piece, rfl, ?_, rfl⟩
  refine List.length_pos_iff.mpr fun empty => full ?_
  exact empty ▸ List.mem_cons_self

/-- What remains behind a first piece remains of all pieces. -/
theorem Remains.cons (remains : Remains whole rest) (piece : Bytes) :
    Remains (piece :: whole) rest := by
  obtain ⟨place, gone, first, found, cut, rfl⟩ := remains
  exact ⟨place + 1, gone, first, found, cut, rfl⟩

theorem Remains.trans (first : Remains whole pending) (second : Remains pending rest) :
    Remains whole rest := by
  obtain ⟨place, gone, piece, found, cut, rfl⟩ := first
  obtain ⟨further, lost, other, next, shorter, rfl⟩ := second
  -- Either the same piece has lost more of its bytes, or a later piece is the first one now.
  cases further with
  | zero =>
      obtain rfl : piece.drop gone = other := Option.some.inj next
      rw [List.length_drop] at shorter
      exact ⟨place, gone + lost, piece, found, by omega, by rw [List.drop_drop]; rfl⟩
  | succ further =>
      rw [List.getElem?_cons_succ, List.getElem?_drop] at next
      refine ⟨place + 1 + further, lost, other, next, shorter, ?_⟩
      rw [List.drop_succ_cons, List.drop_drop, Nat.add_assoc (place + 1)]

/-- What is pending behind bytes that the stream took remains of what was pending. -/
theorem remains_advance {count : Nat} (full : [] ∉ pending)
    (advanced : advance count pending = some rest) (missing : rest ≠ []) :
    Remains pending rest := by
  induction pending generalizing count with
  | nil =>
      cases count with
      | zero => exact absurd (Option.some.inj advanced).symm missing
      | succ count => cases advanced
  | cons piece pieces ih =>
      cases count with
      | zero =>
          rw [advance_zero, Option.some.injEq] at advanced
          subst advanced
          exact remains_self full missing
      | succ count =>
          rw [advance] at advanced
          split at advanced
          · exact (ih (fun empty => full (List.mem_cons_of_mem _ empty)) advanced).cons piece
          · next long =>
            obtain rfl := Option.some.inj advanced
            exact ⟨0, count + 1, piece, rfl, Nat.lt_of_not_le long, rfl⟩

/-- No empty piece is left over. -/
theorem Remains.full (remains : Remains whole rest) (full : [] ∉ whole) : [] ∉ rest := by
  obtain ⟨place, gone, piece, found, cut, rfl⟩ := remains
  intro empty
  rcases List.mem_cons.mp empty with first | later
  · have reached := List.drop_eq_nil_iff.mp first.symm
    omega
  · exact full (List.mem_of_mem_drop later)

end Remains

section Offer

variable {length : Nat} {pending : List Bytes}

/-- What comes of one offer of all pending pieces. -/
inductive Offer (length : Nat) (pending : List Bytes) : Take → Bytes × Ending → Prop where
  | fails {take : Take} {failure : Failure} (stops : take.failure? = some failure) :
      Offer length pending take ([], .failed failure)
  | finishes {count : Nat} (whole : count = pending.flatten.length) :
      Offer length pending (.took count) (pending.flatten, .sent length)
  | goesOn {front : Bytes} {rest : List Bytes} (some : front ≠ [])
      (split : front ++ rest.flatten = pending.flatten) (remains : Remains pending rest) :
      Offer length pending (.took front.length) (front, .givenUp rest)

theorem write_offer {take : Take} (full : [] ∉ pending) (waits : pending ≠ [])
    (answers : take.Answers pending.flatten.length) :
    Offer length pending take (write length [take] pending) := by
  cases take with
  | failed failure =>
      obtain ⟨piece, pieces, rfl⟩ := List.exists_cons_of_ne_nil waits
      exact .fails rfl
  | took count =>
      cases count with
      | zero =>
          obtain ⟨piece, pieces, rfl⟩ := List.exists_cons_of_ne_nil waits
          exact .fails rfl
      | succ count =>
          have offered : count + 1 ≤ pending.flatten.length := answers
          obtain ⟨rest, advanced⟩ := Option.isSome_iff_exists.mp
            ((advance_isSome_iff (count + 1) pending).mpr offered)
          have behind := flatten_advance advanced
          have size : (pending.flatten.take (count + 1)).length = count + 1 :=
            List.length_take_of_le offered
          rw [write_took (Nat.succ_pos count) advanced]
          cases rest with
          | nil =>
              have all : pending.flatten.length ≤ count + 1 :=
                List.drop_eq_nil_iff.mp behind.symm
              rw [write_nil, List.append_nil, List.take_of_length_le all]
              exact .finishes (Nat.le_antisymm offered all)
          | cons piece pieces =>
              have remains := remains_advance full advanced (List.cons_ne_nil _ _)
              have split : pending.flatten.take (count + 1) ++ (piece :: pieces).flatten =
                  pending.flatten := by
                rw [behind, List.take_append_drop]
              have front : pending.flatten.take (count + 1) ≠ [] :=
                List.ne_nil_of_length_eq_add_one size
              have offer : Offer length pending _ _ := .goesOn front split remains
              rw [size] at offer
              simpa [write] using offer

/-- Writing with further answers goes on from where it had come to, unless it was over. -/
theorem write_append (front back : List Take) (pending : List Bytes) :
    write length (front ++ back) pending =
      match write length front pending with
      | (written, .givenUp rest) =>
        (written ++ (write length back rest).1, (write length back rest).2)
      | outcome => outcome := by
  induction front generalizing pending with
  | nil =>
      cases pending with
      | nil => rw [List.nil_append, write_nil, write_nil]
      | cons piece pieces => rfl
  | cons take front ih =>
      cases pending with
      | nil => rw [List.cons_append, write_nil, write_nil]
      | cons piece pieces =>
          match take with
          | .failed failure => rfl
          | .took 0 => rfl
          | .took (count + 1) =>
              simp only [List.cons_append, write]
              cases advance (count + 1) (piece :: pieces) with
              | none => rfl
              | some rest =>
                  simp only [ih rest]
                  generalize write length front rest = outcome
                  obtain ⟨written, ending⟩ := outcome
                  cases ending <;> simp

end Offer

section Offers

/-- The writing of a datagram after a number of offers, each of which has its answer. -/
def writing (length : Nat) (chunks : List Bytes) (answers : Nat → Take) (offers : Nat) :
    Bytes × Ending :=
  write length ((List.range offers).map answers) (pieces length chunks)

/-- Every answer is one that a stream can give to the offer of what is pending then. -/
def Fair (length : Nat) (chunks : List Bytes) (answers : Nat → Take) : Prop :=
  ∀ offers pending, (writing length chunks answers offers).2 = .givenUp pending →
    (answers offers).Answers pending.flatten.length

/-- Bytes are pending after a number of offers. -/
def GoesOn (length : Nat) (chunks : List Bytes) (answers : Nat → Take) (offers : Nat) : Prop :=
  ∃ rest, (writing length chunks answers offers).2 = .givenUp rest

/-- How the writing of pieces stands after a number of offers. As long as it goes on, what is
pending remains of the pieces, and every offer has brought the stream a byte. -/
inductive Stands (whole : List Bytes) (offers : Nat) : Bytes × Ending → Prop where
  | pending {written : Bytes} {rest : List Bytes} (remains : Remains whole rest)
      (grown : offers ≤ written.length) : Stands whole offers (written, .givenUp rest)
  | sent {written : Bytes} {length : Nat} : Stands whole offers (written, .sent length)
  | failed {written : Bytes} {failure : Failure} : Stands whole offers (written, .failed failure)

variable {length : Nat} {chunks : List Bytes} {answers : Nat → Take} {offers : Nat}

theorem flatten_pieces (length : Nat) (chunks : List Bytes) :
    (pieces length chunks).flatten = Bytes.ofWord length ++ chunks.flatten := by
  rw [pieces, List.flatten_cons, List.flatten_filter_not_isEmpty]

/-- The next offer is one of what is pending. -/
theorem writing_succ {written : Bytes} {rest : List Bytes}
    (waits : writing length chunks answers offers = (written, .givenUp rest)) :
    writing length chunks answers (offers + 1) =
      (written ++ (write length [answers offers] rest).1,
        (write length [answers offers] rest).2) := by
  rw [writing] at waits
  rw [writing, List.range_succ, List.map_append, write_append, waits]
  rfl

/-- A writing that is over stays as it is. -/
theorem writing_succ_of_over (ended : ¬ GoesOn length chunks answers offers) :
    writing length chunks answers (offers + 1) = writing length chunks answers offers := by
  rw [GoesOn, writing] at ended
  rw [writing, List.range_succ, List.map_append, write_append, writing]
  split
  · next rest same => exact absurd ⟨rest, congrArg Prod.snd same⟩ ended
  · rfl

theorem writing_of_over (ended : ¬ GoesOn length chunks answers offers) (more : Nat) :
    writing length chunks answers (offers + more) = writing length chunks answers offers := by
  induction more with
  | zero => rfl
  | succ more ih => rw [← Nat.add_assoc, writing_succ_of_over (by rwa [GoesOn, ih]), ih]

/-- The stream only gets more. -/
theorem writing_grows (offers more : Nat) :
    (writing length chunks answers offers).1 <+:
      (writing length chunks answers (offers + more)).1 := by
  induction more with
  | zero => exact List.prefix_rfl
  | succ more ih =>
      refine ih.trans ?_
      rw [← Nat.add_assoc]
      generalize offers + more = reached
      by_cases goesOn : GoesOn length chunks answers reached
      · obtain ⟨rest, waits⟩ := goesOn
        rw [writing_succ (Prod.ext rfl waits)]
        exact List.prefix_append _ _
      · simp only [writing_succ_of_over goesOn, List.prefix_rfl]

/-- What comes of the next offer of a writing that goes on. -/
theorem offer_next (fair : Fair length chunks answers) {written : Bytes} {rest : List Bytes}
    (waits : writing length chunks answers offers = (written, .givenUp rest))
    (remains : Remains (pieces length chunks) rest) :
    Offer length rest (answers offers) (write length [answers offers] rest) :=
  write_offer (remains.full (full_pieces length chunks)) remains.ne_nil
    (fair offers rest (congrArg Prod.snd waits))

theorem Stands.next (fair : Fair length chunks answers)
    (stands : Stands (pieces length chunks) offers (writing length chunks answers offers)) :
    Stands (pieces length chunks) (offers + 1) (writing length chunks answers (offers + 1)) := by
  generalize state : writing length chunks answers offers = outcome at stands
  cases stands with
  | @pending written rest remains grown =>
      have offer := offer_next fair state remains
      rw [writing_succ state]
      generalize write length [answers offers] rest = result at offer
      generalize answers offers = take at offer
      cases offer with
      | fails stops => exact .failed
      | finishes whole => exact .sent
      | @goesOn front later some split left =>
          have brought := List.length_pos_iff.mpr some
          refine .pending (remains.trans left) ?_
          show offers + 1 ≤ (written ++ front).length
          rw [List.length_append]
          omega
  | sent =>
      rw [writing_succ_of_over (by simp [GoesOn, state]), state]
      exact .sent
  | failed =>
      rw [writing_succ_of_over (by simp [GoesOn, state]), state]
      exact .failed

/-- The writing stands so after any number of offers. -/
theorem stands_writing (fair : Fair length chunks answers) (offers : Nat) :
    Stands (pieces length chunks) offers (writing length chunks answers offers) := by
  induction offers with
  | zero =>
      exact .pending (remains_self (full_pieces length chunks) (List.cons_ne_nil _ _))
        (Nat.zero_le _)
  | succ offers ih => exact ih.next fair

section Pending

variable {written : Bytes} {rest : List Bytes}

/-- A writing that goes on has written what is no longer pending, and bytes are missing. -/
theorem split_of_waits (waits : writing length chunks answers offers = (written, .givenUp rest)) :
    written ++ rest.flatten = (pieces length chunks).flatten ∧ rest.flatten ≠ [] := by
  have ends : Ends length _ _ _ := write_ends (full_pieces length chunks)
    ((List.range offers).map answers)
  rw [← writing, waits] at ends
  cases ends with
  | givenUp split missing => exact ⟨split, missing⟩

theorem remains_of_waits (fair : Fair length chunks answers)
    (waits : writing length chunks answers offers = (written, .givenUp rest)) :
    Remains (pieces length chunks) rest ∧ offers ≤ written.length := by
  have stands := stands_writing fair offers
  rw [waits] at stands
  cases stands with
  | pending remains grown => exact ⟨remains, grown⟩

/-- A writing that goes on has fewer offers behind it than it has bytes to write. -/
theorem offers_lt (fair : Fair length chunks answers)
    (waits : writing length chunks answers offers = (written, .givenUp rest)) :
    offers < (pieces length chunks).flatten.length := by
  obtain ⟨split, missing⟩ := split_of_waits waits
  obtain ⟨_, grown⟩ := remains_of_waits fair waits
  have short := List.length_pos_iff.mpr missing
  rw [← split, List.length_append]
  omega

end Pending

theorem not_overrun (fair : Fair length chunks answers) (offers : Nat) :
    (writing length chunks answers offers).2 ≠ .overrun := by
  have stands := stands_writing fair offers
  generalize writing length chunks answers offers = outcome at stands
  cases stands <;> nofun

/-- The last offer is one of no more than there are bytes to write. -/
theorem exists_last (fair : Fair length chunks answers) :
    ∃ last < (pieces length chunks).flatten.length,
      (∀ offers ≤ last, GoesOn length chunks answers offers) ∧
        ¬ GoesOn length chunks answers (last + 1) := by
  classical
  have bounded : ¬ GoesOn length chunks answers (pieces length chunks).flatten.length := by
    rintro ⟨rest, waits⟩
    exact Nat.lt_irrefl _ (offers_lt fair (Prod.ext rfl waits))
  -- The last offer is the one before the first number of offers after which nothing is pending.
  have ends : ∃ offers, ¬ GoesOn length chunks answers offers := ⟨_, bounded⟩
  have begun : Nat.find ends ≠ 0 := by
    intro none
    exact absurd ⟨pieces length chunks, rfl⟩ ((Nat.find_eq_zero ends).mp none)
  obtain ⟨last, first⟩ := Nat.exists_eq_succ_of_ne_zero begun
  have within := Nat.find_min' ends bounded
  have ended : ¬ GoesOn length chunks answers (Nat.find ends) := Nat.find_spec ends
  rw [first] at ended
  refine ⟨last, by omega, fun offers reached => ?_, ended⟩
  exact Classical.not_not.mp (Nat.find_min ends (by omega))

/-- With the last offer the stream has everything, or its answer is a failure. -/
theorem writing_last (fair : Fair length chunks answers)
    (goesOn : GoesOn length chunks answers offers)
    (ended : ¬ GoesOn length chunks answers (offers + 1)) :
    writing length chunks answers (offers + 1) = ((pieces length chunks).flatten, .sent length) ∨
      ∃ failure, (answers offers).failure? = some failure ∧
        writing length chunks answers (offers + 1) =
          ((writing length chunks answers offers).1, .failed failure) := by
  obtain ⟨rest, goes⟩ := goesOn
  have waits : writing length chunks answers offers =
      ((writing length chunks answers offers).1, .givenUp rest) := Prod.ext rfl goes
  obtain ⟨split, _⟩ := split_of_waits waits
  have offer := offer_next fair waits (remains_of_waits fair waits).1
  rw [GoesOn, writing_succ waits] at ended
  rw [writing_succ waits]
  generalize write length [answers offers] rest = result at offer ended ⊢
  generalize answers offers = take at offer ⊢
  cases offer with
  | @fails _ failure stops => exact .inr ⟨failure, stops, by rw [List.append_nil]⟩
  | finishes all => exact .inl (by rw [split])
  | goesOn => exact absurd ⟨_, rfl⟩ ended

end Offers

theorem failure?_eq_some_iff (take : Take) (failure : Failure) :
    take.failure? = some failure ↔
      take = .took 0 ∧ failure = .io .writeZero ∨ take = .failed failure := by
  match take with
  | .took 0 => simp [Take.failure?, eq_comm]
  | .took (count + 1) => simp [Take.failure?]
  | .failed other => simp [Take.failure?]

/-- Whatever chunks a datagram is given in, and whatever its stream answers to the offers of what
is pending, its writing is over after no more offers than there are bytes to write. Up to the last
offer what is pending begins inside a piece, so no offer is empty, and no answer leads behind the
last piece. What the stream has taken at any time is the front of the length in four bytes and the
chunks behind it, and only gets more. The writing succeeds, and returns the length, exactly if the
stream has taken all of this. Otherwise it fails, because the last answer is a failure or takes
nothing, and nothing is taken with it. A send over an open stream is such a writing. -/
theorem writing_ends {length : Nat} (small : length < Bytes.wordValues) (chunks : List Bytes)
    {answers : Nat → Take} (fair : Fair length chunks answers) :
    let whole := Bytes.ofWord length ++ chunks.flatten
    let state := writing length chunks answers
    Bytes.takeWord? whole = some (length, chunks.flatten) ∧
      (∀ offers, (state offers).2 ≠ .overrun ∧ (state offers).1 <+: whole ∧
        (∀ more, (state offers).1 <+: (state (offers + more)).1) ∧
        ((state offers).2 = .sent length ↔ (state offers).1 = whole)) ∧
      (∃ last < whole.length,
        (∀ offers ≤ last, ∃ rest, (state offers).2 = .givenUp rest ∧
          Remains (pieces length chunks) rest) ∧
        (∀ more, state (last + 1 + more) = state (last + 1)) ∧
        (state (last + 1) = (whole, .sent length) ∨
          ∃ failure, (answers last = .took 0 ∧ failure = .io .writeZero ∨
              answers last = .failed failure) ∧
            state (last + 1) = ((state last).1, .failed failure))) ∧
      ∀ (outlet : Outlet) delivery, outlet.isOpen = true → delivery.length = length →
        parts delivery = chunks → ∀ offers,
          outlet.send delivery ((List.range offers).map answers) = state offers := by
  intro whole state
  have flat : (pieces length chunks).flatten = whole := flatten_pieces length chunks
  refine ⟨Bytes.takeWord?_ofWord length small _, fun offers => ?_, ?_,
    fun outlet delivery opened sized given offers => ?_⟩
  · have ends : Ends length _ (state offers).1 (state offers).2 :=
      write_ends (full_pieces length chunks) ((List.range offers).map answers)
    have inside := not_overrun fair offers
    rw [flat] at ends
    exact ⟨inside, ends.isPrefix inside, writing_grows offers, (ends.whole_iff inside).symm⟩
  · obtain ⟨last, within, goesOn, ended⟩ := exists_last fair
    refine ⟨last, flat ▸ within, fun offers reached => ?_, writing_of_over ended, ?_⟩
    · obtain ⟨rest, goes⟩ := goesOn offers reached
      exact ⟨rest, goes, (remains_of_waits fair (Prod.ext rfl goes)).1⟩
    · rw [← flat]
      simpa only [failure?_eq_some_iff] using writing_last fair (goesOn last (Nat.le_refl _)) ended
  · subst sized given
    rw [send, if_neg (Nat.not_le_of_lt small), if_pos opened]
    rfl

/-- A stream that takes five bytes, then one, and then nothing any more. -/
def halting : Nat → Take
  | 0 => .took 5
  | 1 => .took 1
  | _ + 2 => .took 0

theorem writing_ends_halting :
    let chunks : List Bytes := [[1], [], [2, 3]]
    3 < Bytes.wordValues ∧ Fair 3 chunks halting ∧
      (writing 3 chunks halting 2).2 = .givenUp [[3]] ∧
      (writing 3 chunks halting 3).2 = .failed (.io .writeZero) ∧
      (writing 3 chunks halting 3).1 <+: [3, 0, 0, 0, 1, 2, 3] ∧
      (writing 3 chunks halting 3).1 ≠ [3, 0, 0, 0, 1, 2, 3] := by
  intro chunks
  have small : 3 < Bytes.wordValues := by decide
  have fair : Fair 3 chunks halting := by
    intro offers pending goesOn
    match offers with
    | 0 =>
        obtain rfl : [[3, 0, 0, 0], [1], [2, 3]] = pending := Ending.givenUp.inj goesOn
        show 5 ≤ 7
        decide
    | 1 =>
        obtain rfl : [[2, 3]] = pending := Ending.givenUp.inj goesOn
        show 1 ≤ 2
        decide
    | _ + 2 => exact Nat.zero_le _
  obtain ⟨-, stands, -⟩ := writing_ends small chunks fair
  obtain ⟨-, front, -, sent⟩ := stands 3
  exact ⟨small, fair, rfl, rfl, front, mt sent.mpr nofun⟩

end Outlet

end ReliableTransport
