import Mathlib.Data.List.Basic
import ReliableTransport.Proofs.Settings
import ReliableTransport.Proofs.Stream.Reading
/-!
This module takes datagrams through a stream. Where the parts of a datagram end, where the writes
end and where the reads end has nothing to do with where the datagrams end, and all of them come out
as they went in.
-/

namespace ReliableTransport

namespace Outlet

/-- A datagram is sent while its stream takes so many bytes with each write. -/
structure Sending where
  delivery : Delivery
  counts : List Nat

/-- What a sending leaves in the stream, and what it returns. -/
def Sending.outcome (outlet : Outlet) (sending : Sending) : Bytes × Ending :=
  outlet.send sending.delivery (sending.counts.map .took)

/-- The stream goes on taking bytes until it has the whole datagram. -/
def Sending.Drains (sending : Sending) : Prop :=
  Outlet.Drains (4 + sending.delivery.length) sending.counts

/-- Datagrams are sent one after the other, each in one piece or in parts, and the receiver takes
datagrams of their lengths. As long as the stream goes on taking bytes, however many with each
write, every send returns the length of its datagram. However the bytes are split into chunks, the
receiver gets exactly the datagrams, in order, whatever follows them. If the stream ends behind
them, the receiver is told so then. -/
theorem sendings_received {limits : ReceiveLimits} (checked : limits.check = .ok ())
    {outlet : Outlet} (opened : outlet.isOpen = true) {sendings : List Sending}
    (allowed : ∀ sending ∈ sendings, sending.delivery.length ≤ limits.maxDatagram)
    (drains : ∀ sending ∈ sendings, sending.Drains) :
    let written := sendings.flatMap fun sending => (sending.outcome outlet).1
    let datagrams := sendings.map fun sending => sending.delivery.data
    (∀ sending ∈ sendings, (sending.outcome outlet).2 = .sent sending.delivery.length) ∧
      (∀ chunks : List Bytes, chunks.flatten = written →
        Inlet.receiveAll limits.maxDatagram chunks = datagrams.map .datagram ++ [.closed]) ∧
      ∀ (chunks : List Bytes) (rest : Bytes), chunks.flatten = written ++ rest →
        Inlet.receiveAll limits.maxDatagram chunks =
          datagrams.map .datagram ++ Inlet.receiveAll limits.maxDatagram [rest] := by
  intro written datagrams
  have small : ∀ sending ∈ sendings, sending.delivery.length < Bytes.wordValues := by
    intro sending among
    have most := ((ReceiveLimits.check_ok_iff limits).mp checked).2
    have fits := allowed sending among
    simp only [Bytes.maxWord, Bytes.wordValues] at most ⊢
    omega
  have outcomes : ∀ sending ∈ sendings, sending.outcome outlet =
      (sending.delivery.data.announced, .sent sending.delivery.length) := fun sending among =>
    send_drains opened (small sending among) (drains sending among)
  have stream : written = datagrams.flatMap Bytes.announced := by
    rw [List.flatMap_map]
    exact List.flatMap_congr fun sending among => congrArg Prod.fst (outcomes sending among)
  have received : ∀ (chunks : List Bytes) (rest : Bytes), chunks.flatten = written ++ rest →
      Inlet.receiveAll limits.maxDatagram chunks =
        datagrams.map .datagram ++ Inlet.receiveAll limits.maxDatagram [rest] := by
    intro chunks rest joined
    have fits : ∀ data ∈ datagrams, data.length ≤ limits.maxDatagram := by
      intro data among
      obtain ⟨sending, member, rfl⟩ := List.mem_map.mp among
      exact allowed sending member
    have lengths : ∀ data ∈ datagrams, data.length < Bytes.wordValues := by
      intro data among
      obtain ⟨sending, member, rfl⟩ := List.mem_map.mp among
      exact small sending member
    exact Inlet.receiveAll_allowed lengths fits (stream ▸ joined)
  refine ⟨fun sending among => congrArg Prod.snd (outcomes sending among), ?_, received⟩
  intro chunks joined
  rw [received chunks [] (joined.trans (List.append_nil written).symm),
    Inlet.Finds.closed.ends rfl (by simp)]

/-- Three datagrams, one of them empty and one in parts. Writes end inside a length, behind it and
inside a part. -/
def mixed : List Sending :=
  [{ delivery := .whole [1, 2, 3], counts := [2, 2, 1, 2] },
    { delivery := .whole [], counts := [4] },
    { delivery := .parts [[4], [], [5, 6]], counts := [5, 1, 1] }]

theorem sendings_received_mixed :
    let limits : ReceiveLimits := { maxDatagram := 3 }
    let chunks : List Bytes :=
      [[3], [0, 0, 0, 1, 2], [3, 0, 0], [0, 0, 3, 0], [0, 0, 4], [5, 6]]
    limits.check = .ok () ∧
      (∀ sending ∈ mixed, sending.delivery.length ≤ limits.maxDatagram) ∧
      (∀ sending ∈ mixed, sending.Drains) ∧
      chunks.flatten = mixed.flatMap (fun sending => (sending.outcome {}).1) ∧
      Inlet.receiveAll limits.maxDatagram chunks =
        [.datagram [1, 2, 3], .datagram [], .datagram [4, 5, 6], .closed] := by
  intro limits chunks
  have checked : limits.check = .ok () := rfl
  have allowed : ∀ sending ∈ mixed, sending.delivery.length ≤ limits.maxDatagram := by decide
  have drains : ∀ sending ∈ mixed, sending.Drains := by
    have first : Outlet.Drains 7 [2, 2, 1, 2] :=
      .took (by decide) (by decide) (.took (by decide) (by decide)
        (.took (by decide) (by decide) (.took (by decide) (by decide) .done)))
    have second : Outlet.Drains 4 [4] := .took (by decide) (by decide) .done
    have third : Outlet.Drains 7 [5, 1, 1] :=
      .took (by decide) (by decide) (.took (by decide) (by decide)
        (.took (by decide) (by decide) .done))
    simp only [mixed, List.forall_mem_cons]
    exact ⟨first, second, third, by simp⟩
  have joined : chunks.flatten = mixed.flatMap fun sending => (sending.outcome {}).1 := by decide
  have received := (sendings_received checked rfl allowed drains).2.1 chunks joined
  exact ⟨checked, allowed, drains, joined, received⟩

end Outlet

end ReliableTransport
