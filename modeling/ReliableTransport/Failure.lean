import ReliableTransport.Duration
/-!
This module holds the failures that operations report: what failed, the text that says so, the
chain of causes below a failure, and which failures a new connection may cure.
-/

namespace ReliableTransport

/-- The kinds of socket and file errors. -/
inductive IoKind where
  | notFound | permissionDenied | connectionRefused | connectionReset | hostUnreachable
  | networkUnreachable | connectionAborted | notConnected | addrInUse | addrNotAvailable
  | networkDown | brokenPipe | alreadyExists | wouldBlock | notADirectory | isADirectory
  | directoryNotEmpty | readOnlyFilesystem | staleNetworkFileHandle | invalidInput | invalidData
  | timedOut | writeZero | storageFull | notSeekable | quotaExceeded | fileTooLarge | resourceBusy
  | executableFileBusy | deadlock | crossesDevices | tooManyLinks | invalidFilename
  | argumentListTooLong | interrupted | unsupported | unexpectedEof | outOfMemory | other
  deriving Repr, DecidableEq

namespace IoKind

/-- The name of every kind, in one table that is read in both directions. -/
def names : List (IoKind × String) :=
  [(notFound, "NotFound"), (permissionDenied, "PermissionDenied"),
    (connectionRefused, "ConnectionRefused"), (connectionReset, "ConnectionReset"),
    (hostUnreachable, "HostUnreachable"), (networkUnreachable, "NetworkUnreachable"),
    (connectionAborted, "ConnectionAborted"), (notConnected, "NotConnected"),
    (addrInUse, "AddrInUse"), (addrNotAvailable, "AddrNotAvailable"),
    (networkDown, "NetworkDown"), (brokenPipe, "BrokenPipe"), (alreadyExists, "AlreadyExists"),
    (wouldBlock, "WouldBlock"), (notADirectory, "NotADirectory"), (isADirectory, "IsADirectory"),
    (directoryNotEmpty, "DirectoryNotEmpty"), (readOnlyFilesystem, "ReadOnlyFilesystem"),
    (staleNetworkFileHandle, "StaleNetworkFileHandle"), (invalidInput, "InvalidInput"),
    (invalidData, "InvalidData"), (timedOut, "TimedOut"), (writeZero, "WriteZero"),
    (storageFull, "StorageFull"), (notSeekable, "NotSeekable"), (quotaExceeded, "QuotaExceeded"),
    (fileTooLarge, "FileTooLarge"), (resourceBusy, "ResourceBusy"),
    (executableFileBusy, "ExecutableFileBusy"), (deadlock, "Deadlock"),
    (crossesDevices, "CrossesDevices"), (tooManyLinks, "TooManyLinks"),
    (invalidFilename, "InvalidFilename"), (argumentListTooLong, "ArgumentListTooLong"),
    (interrupted, "Interrupted"), (unsupported, "Unsupported"), (unexpectedEof, "UnexpectedEof"),
    (outOfMemory, "OutOfMemory"), (other, "Other")]

def name (kind : IoKind) : String := (names.lookup kind).getD "Other"

/-- An unknown name stands for the kind without further meaning. -/
def ofName (text : String) : IoKind :=
  ((names.find? fun entry => entry.2 == text).map Prod.fst).getD other

/-- These kinds say that a connection broke, so a new connection is a reasonable reaction. -/
def isTransient : IoKind → Bool
  | connectionReset | notConnected | connectionAborted | brokenPipe => true
  | _ => false

end IoKind

/-- What is wrong with bytes that should be a frame. -/
inductive FrameFault where
  | shorterThanHeader (length : Nat)
  | sizeMismatch (declared actual : Nat)
  | tooManyMessages (length count : Nat)
  | endsInsideLength (index : Nat)
  | messageTooLong (index length remaining : Nat)
  | trailingBytes (count : Nat)
  | described (text : String)
  deriving Repr, DecidableEq

namespace FrameFault

def message : FrameFault → String
  | shorterThanHeader length =>
    "frame of " ++ toString length ++ " bytes is shorter than the header"
  | sizeMismatch declared actual =>
    "frame declares a size of " ++ toString declared ++ " bytes but has " ++ toString actual
  | tooManyMessages length count =>
    "frame of " ++ toString length ++ " bytes can not contain " ++ toString count ++ " messages"
  | endsInsideLength index =>
    "frame ends inside the length prefix of message #" ++ toString index
  | messageTooLong index length remaining =>
    "message #" ++ toString index ++ " has length " ++ toString length ++ " but only " ++
      toString remaining ++ " bytes remain"
  | trailingBytes count => toString count ++ " trailing bytes after the last message"
  | described text => text

end FrameFault

/-- Why an operation is not allowed in the state that it found. -/
inductive Misuse where
  | sendBeforeConnect
  | rangeOutsideBuffer
  | poolClosed
  | oversizeMessage
  | described (text : String)
  deriving Repr, DecidableEq

namespace Misuse

def message : Misuse → String
  | sendBeforeConnect => "send before connect"
  | rangeOutsideBuffer => "send range exceeds the buffer"
  | poolClosed => "sender pool is closed"
  | oversizeMessage => "message exceeds the maximum batch frame size"
  | described text => text

end Misuse

/-- A failure with everything that it stands on. -/
inductive Failure where
  /-- A socket error without a text of its own. -/
  | io (kind : IoKind)
  /-- A socket error that was made with a text. -/
  | ioText (kind : IoKind) (text : String)
  /-- A socket error that was made from another failure and stands in its place. -/
  | ioHolding (kind : IoKind) (held : Failure)
  | malformedFrame (fault : FrameFault)
  | timeout (limit : Duration) (operation : String)
  | invalidOperation (misuse : Misuse)
  /-- A failure that is known by its text only. -/
  | plain (text : String)
  /-- A failure that is known by its text and names its cause. -/
  | caused (text : String) (cause : Failure)
  /-- A text that says what was going on when the inner failure arose. -/
  | context (text : String) (inner : Failure)
  deriving Repr, DecidableEq

namespace Failure

/-- The causes of a failure, the nearest first. A failure that a socket error holds is no cause
itself. Only the causes of the held failure are. -/
def causes : Failure → List Failure
  | ioHolding _ held => held.causes
  | caused _ cause => cause :: cause.causes
  | context _ inner => inner :: inner.causes
  | _ => []

/-- The failure and all its causes, the outermost first. -/
def chain (failure : Failure) : List Failure := failure :: failure.causes

/-- The kind of a socket error. Other failures have none. -/
def ioKind? : Failure → Option IoKind
  | io kind | ioText kind _ | ioHolding kind _ => some kind
  | _ => none

/-- A socket error is transient by its own kind, whatever it stands on. -/
def isTransientIo (failure : Failure) : Bool := failure.ioKind?.any IoKind.isTransient

/-- A failure is transient if a socket error anywhere in its chain is. -/
def isTransient (failure : Failure) : Bool := failure.chain.any isTransientIo

/-- The failure below all contexts. -/
def root : Failure → Failure
  | context _ inner => inner.root
  | failure => failure

/-- The text of a failure itself. A socket error has one only if it was made with one. -/
def message? : Failure → Option String
  | io _ => none
  | ioText _ text => some text
  | ioHolding _ held => held.message?
  | malformedFrame fault => some ("malformed batch frame: " ++ fault.message)
  | timeout limit operation =>
    some ("timed out after " ++ limit.text ++ " waiting to " ++ operation)
  | invalidOperation misuse => some ("invalid operation: " ++ misuse.message)
  | plain text | caused text _ | context text _ => some text

end Failure

end ReliableTransport
