import ReliableTransport.Address
import ReliableTransport.Bytes
import ReliableTransport.Failure
/-!
This module holds the settings of the components, their defaults and the checks that every
component makes before it takes its settings.
-/

namespace ReliableTransport

/-- Why settings are refused. -/
inductive SettingsFault where
  | packageTooSmall
  | packageTooBig
  | emptySendPass
  | emptyReceivePass
  | rateTooLow
  | emptyWindow
  | emptyDatagrams
  | datagramsTooBig
  | emptyPool
  deriving Repr, DecidableEq

namespace SettingsFault

def message : SettingsFault → String
  | packageTooSmall => "package size must be bigger than the batch header"
  | packageTooBig => "package size must fit the batch header's u32 size field"
  | emptySendPass => "a pass must process at least one message"
  | emptyReceivePass => "a pass must process at least one package"
  | rateTooLow => "send rate must be at least 8 kbit/s"
  | emptyWindow => "send window must not be empty"
  | emptyDatagrams => "max datagram size must be positive"
  | datagramsTooBig => "max datagram size must fit into a u32 length prefix"
  | emptyPool => "sender pool must contain at least one sender"

def toFailure (fault : SettingsFault) : Failure := .plain fault.message

end SettingsFault

/-- The settings of an outbox. -/
structure OutboxSettings where
  /-- Messages are collected into frames. -/
  batched : Bool := false
  /-- The frame size in bytes at which a batch is flushed. -/
  packageSize : Nat := 32 * 1024
  /-- How many queued messages one pass takes at most. -/
  messagesPerPass : Nat := 1024
  deriving Repr, DecidableEq

namespace OutboxSettings

def check (settings : OutboxSettings) : Except SettingsFault Unit := do
  if settings.packageSize ≤ 8 then throw .packageTooSmall
  if Bytes.maxWord < settings.packageSize then throw .packageTooBig
  if settings.messagesPerPass = 0 then throw .emptySendPass

end OutboxSettings

/-- The settings of an inbox. -/
structure InboxSettings where
  /-- Every received package is a frame, and its messages are delivered one by one. -/
  batched : Bool := false
  /-- How many received packages one pass takes at most. -/
  packagesPerPass : Nat := 256
  deriving Repr, DecidableEq

namespace InboxSettings

def check (settings : InboxSettings) : Except SettingsFault Unit := do
  if settings.packagesPerPass = 0 then throw .emptyReceivePass

end InboxSettings

/-- Rate and window of a sending socket. The window is the time for which sent data is kept. -/
structure SendLimits where
  kilobitsPerSecond : Nat := 100 * 1024 * 8
  windowMillis : Nat := 5000
  deriving Repr, DecidableEq

namespace SendLimits

/-- An eighth of the kilobits per second is the bytes per millisecond. -/
def windowBytes (limits : SendLimits) : Nat := limits.kilobitsPerSecond / 8 * limits.windowMillis

def check (limits : SendLimits) : Except SettingsFault Unit := do
  if limits.kilobitsPerSecond < 8 then throw .rateTooLow
  if limits.windowMillis = 0 then throw .emptyWindow

end SendLimits

/-- What a listening socket takes. -/
structure ReceiveLimits where
  /-- A bigger datagram breaks the protocol. -/
  maxDatagram : Nat := 16 * 1024 * 1024
  /-- The size of the receive buffer, where it differs from the system's choice. -/
  receiveBuffer : Option Nat := none
  deriving Repr, DecidableEq

namespace ReceiveLimits

def check (limits : ReceiveLimits) : Except SettingsFault Unit := do
  if limits.maxDatagram = 0 then throw .emptyDatagrams
  if Bytes.maxWord < limits.maxDatagram then throw .datagramsTooBig

end ReceiveLimits

/-- The settings of a pool of datagram senders. -/
structure PoolSettings where
  size : Nat := 4
  /-- How long a call waits for a sender. -/
  timeoutMillis : Nat := 5000
  bindAddress : Address
  sendAddress : Address
  limits : SendLimits := {}
  deriving Repr, DecidableEq

namespace PoolSettings

def check (settings : PoolSettings) : Except SettingsFault Unit := do
  if settings.size = 0 then throw .emptyPool
  settings.limits.check

end PoolSettings

end ReliableTransport
