import ReliableTransport.Pool
import ReliableTransport.Proofs.Sender.Usage
/-!
This module compares the two verdicts on a failed send: that of the sender, which looks at the
kind of the socket error only, and that of a pool, which looks at all causes below it as well. The
sender forgets its connection on the first verdict, and the pool connects again on the second.
-/

namespace ReliableTransport

namespace Failure

/-- What a socket error holds in the end, behind all socket errors that hold one another. -/
def content : Failure → Failure
  | ioHolding _ held => held.content
  | failure => failure

/-- The cause that a failure names itself. -/
def cause? : Failure → Option Failure
  | caused _ cause => some cause
  | context _ inner => some inner
  | _ => none

/-- The causes begin below what a socket error holds in the end. What it holds is passed over. -/
theorem causes_eq (failure : Failure) :
    failure.causes = failure.content.cause?.elim [] chain := by
  induction failure with
  | ioHolding kind held ih => exact ih
  | caused text cause _ => rfl
  | context text inner _ => rfl
  | io kind => rfl
  | ioText kind text => rfl
  | malformedFrame fault => rfl
  | timeout limit operation => rfl
  | invalidOperation misuse => rfl
  | plain text => rfl

theorem isTransient_eq_or_causes (failure : Failure) :
    failure.isTransient = (failure.isTransientIo || failure.causes.any isTransientIo) := rfl

/-- A failure is transient by itself, or through the cause of what it holds in the end. -/
theorem isTransient_eq (failure : Failure) :
    failure.isTransient = (failure.isTransientIo || failure.content.cause?.any isTransient) := by
  rw [isTransient_eq_or_causes, causes_eq]
  cases failure.content.cause? <;> rfl

theorem isTransientIo_eq {failure : Failure} {kind : IoKind}
    (socketError : failure.ioKind? = some kind) : failure.isTransientIo = kind.isTransient := by
  rw [isTransientIo, socketError]
  rfl

/-- The two verdicts agree if there is nothing to find below the failure, or no need to look. -/
theorem verdicts_agree_iff (failure : Failure) :
    failure.isTransientIo = failure.isTransient ↔
      failure.isTransientIo = true ∨ ∀ cause ∈ failure.causes, cause.isTransientIo = false := by
  rw [isTransient_eq_or_causes]
  cases failure.isTransientIo <;> simp [eq_comm (a := false)]

end Failure

namespace DatagramSender

/-- A sender stays connected through a failed send unless the kind of the error is transient. -/
theorem countSent_connected (sender : DatagramSender Nat) (failure : Failure) :
    (sender.countSent (.error failure)).connected =
      (sender.connected && !failure.isTransientIo) := by
  rw [countSent]
  cases failure.isTransientIo <;> simp

/-- A pool that gets the failure of a missing socket connects again if there was a connection. -/
theorem noSocket_isTransient (sender : DatagramSender Nat) :
    sender.noSocket.isTransient = sender.wasConnected := by
  rw [noSocket]
  cases sender.wasConnected <;> rfl

end DatagramSender

namespace Pool

theorem orders_giveBack (pool : Pool Nat) (sender : Nat) :
    Effect.orders (pool.giveBack sender).2 = [] := by
  rw [giveBack]
  cases pool.queue.push? sender with
  | none => rfl
  | some pushed => exact Effect.orders_ready pushed.2

/-- A pool that gets the failure of a send has its sender connect again if the failure is
transient, and asks for nothing otherwise. -/
theorem orders_answered_sent (pool : Pool Nat) {number sender : Nat} (now : Nat)
    (sends : pool.calls.lookup number = some (.sending sender)) (failure : Failure) :
    Effect.orders (pool.answered now number (.sent (.error failure))).2 =
      if failure.isTransient then [.connect sender] else [] := by
  simp only [answered, sends]
  split
  · rfl
  · simp only [finishSend, Pool.after, Pool.finish, Effect.orders_append, orders_giveBack,
      Effect.orders_done, Effect.orders_nil, List.append_nil]

end Pool

namespace Failure

/-- For every socket error, whatever it holds and whatever causes are named there: a pool takes it
for transient if the sender does, or if the cause of what it holds in the end is transient. So the
verdicts agree exactly if the kind itself is transient or no cause is a transient socket error. A
send that its socket fails ends with the error, and a sender that was connected is so no more only
if a pool that gets the error connects again, and exactly then where the verdicts agree. A send
without a socket leaves a sender that is not connected so, and a pool that gets its failure
connects again exactly if there was a connection. -/
theorem send_verdicts (failure : Failure) {kind : IoKind}
    (socketError : failure.ioKind? = some kind) (sender : DatagramSender Nat) (call : Nat)
    (pool : Pool Nat) {lease member : Nat}
    (leased : pool.calls.lookup lease = some (.sending member)) (now : Nat) :
    let reconnects (failure : Failure) : Prop :=
      .connect member ∈ Effect.orders (pool.answered now lease (.sent (.error failure))).2
    let agree : Prop :=
      kind.isTransient = true ∨ ∀ cause ∈ failure.causes, cause.isTransientIo = false
    failure.isTransientIo = kind.isTransient ∧
      failure.isTransient =
        (failure.isTransientIo || failure.content.cause?.any isTransient) ∧
      failure.causes = failure.content.cause?.elim [] chain ∧
      (failure.isTransientIo = failure.isTransient ↔ agree) ∧
      (∀ failure, reconnects failure ↔ failure.isTransient = true) ∧
      (∀ socket, sender.calls.lookup call = some (.sending socket) →
        let turn := sender.answered call (.sent (.error failure))
        Effect.results turn.2 = [(call, .sent (.error failure))] ∧
          turn.1.connected = (sender.connected && !failure.isTransientIo) ∧
          (sender.connected = true →
            (turn.1.connected = false → reconnects failure) ∧
              ((turn.1.connected = false ↔ reconnects failure) ↔ agree))) ∧
      (sender.socket = none → sender.connected = false → ∀ delivery,
        let turn := sender.proceed call (.send delivery)
        Effect.results turn.2 = [(call, .sent (.error sender.noSocket))] ∧
          turn.1.connected = false ∧
          (reconnects sender.noSocket ↔ sender.wasConnected = true)) := by
  intro reconnects agree
  have ownKind := isTransientIo_eq socketError
  have agreement : failure.isTransientIo = failure.isTransient ↔ agree := by
    rw [verdicts_agree_iff, ownKind]
  have reconnection (failure : Failure) : reconnects failure ↔ failure.isTransient = true := by
    simp only [reconnects, pool.orders_answered_sent now leased]
    cases failure.isTransient <;> simp
  refine ⟨ownKind, failure.isTransient_eq, failure.causes_eq, agreement, reconnection,
    fun socket sends => ?_, fun bare parted delivery => ?_⟩
  · intro turn
    have ends :
        turn = (sender.countSent (.error failure)).finish call (.sent (.error failure)) := by
      simp only [turn, DatagramSender.answered, sends]
    have left : turn.1.connected = (sender.connected && !failure.isTransientIo) := by
      rw [ends]
      exact sender.countSent_connected failure
    refine ⟨by rw [ends, DatagramSender.results_finish], left, fun connected => ?_⟩
    rw [left, connected, reconnection, ← agreement, isTransient_eq_or_causes]
    cases failure.isTransientIo <;> cases failure.causes.any isTransientIo <;> simp
  · intro turn
    have misses : turn = sender.finish call (.sent (.error sender.noSocket)) := by
      simp only [turn, DatagramSender.proceed, bare]
    refine ⟨by rw [misses, DatagramSender.results_finish], ?_, ?_⟩
    · rw [misses]
      exact parted
    · rw [reconnection, sender.noSocket_isTransient]

/-- A socket error of no transient kind that holds a failure with a broken connection as its
cause. -/
def buried : Failure := .ioHolding .other (.caused "write failed" (.io .connectionReset))

/-- A connected sender whose call waits for its socket to send. -/
def writing : DatagramSender Nat where
  bindAddress := { host := .dotted 127 0 0 1, port := 0 }
  sendAddress := { host := .dotted 127 0 0 1, port := 4530 }
  limits := {}
  socket := some 0
  nextSocket := 1
  connected := true
  wasConnected := true
  turnstile := { inside := some 0 }
  calls := [(0, .sending 0)]

/-- A pool whose only sender is sending. -/
def lending : Pool Nat where
  queue := { capacity := 1 }
  live := 1
  timeout := 100
  calls := [(0, .sending 0)]

/-- The broken connection counts for the pool and not for the sender. -/
theorem buried_divides :
    (∃ kind, buried.ioKind? = some kind) ∧ buried.isTransientIo = false ∧
      buried.isTransient = true ∧
      (writing.answered 0 (.sent (.error buried))).1.connected = true ∧
      .connect 0 ∈ Effect.orders (lending.answered 0 0 (.sent (.error buried))).2 :=
  ⟨⟨.other, rfl⟩, by decide⟩

/-- The same below an error that is transient by its own kind. -/
def covered : Failure := .ioHolding .brokenPipe buried

theorem send_verdicts_covered :
    covered.ioKind? = some .brokenPipe ∧ lending.calls.lookup 0 = some (.sending 0) ∧
      (writing.answered 0 (.sent (.error covered))).1.connected = false ∧
      .connect 0 ∈ Effect.orders (lending.answered 0 0 (.sent (.error covered))).2 := by
  obtain ⟨own, -, -, -, -, ends, -⟩ :=
    @send_verdicts covered .brokenPipe rfl writing 0 lending 0 0 rfl 0
  obtain ⟨-, left, meets⟩ := ends 0 rfl
  have parted := left.trans (by rw [own])
  exact ⟨rfl, rfl, parted, (meets rfl).1 parted⟩

end Failure

end ReliableTransport
