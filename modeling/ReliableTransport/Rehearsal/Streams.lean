import ReliableTransport.Defect
import ReliableTransport.Settings
import ReliableTransport.Stream.Gate
import ReliableTransport.Stream.Inlet
import ReliableTransport.Stream.Outlet
/-!
This module runs byte streams through a list of steps. Each stream has a name, an end that writes
and an end that reads. An end is plain, or it sends or receives datagrams. A step that needs an end
that does not exist is a defect.
-/

namespace ReliableTransport.Rehearsal.Streams

/-- The network between the ends. -/
inductive Network where
  /-- Every stream comes to be whose gate is open. -/
  | connected
  /-- Nobody can be reached. -/
  | isolated
  deriving Repr, DecidableEq

/-- What is on the way from one end of a stream to the other. -/
structure Pipe where
  chunks : List Bytes := []
  /-- The end that writes is closed. -/
  closed : Bool := false

inductive Step where
  /-- A plain end connects to the gate, behind which datagrams are received. -/
  | joinPlain (name : String)
  /-- An end that sends datagrams connects to the gate. -/
  | joinOutlet (name : String)
  /-- An end that sends datagrams connects to a plain one. -/
  | joinOutletPlain (name : String)
  | write (name : String) (chunks : List Bytes)
  | shutDown (name : String)
  | read (name : String) (length : Nat)
  | readAll (name : String)
  | send (name : String) (delivery : Delivery)
  | close (name : String)
  | receive (name : String)
  | receiveAll (name : String)
  /-- Receives in the background. -/
  | spawnReceive (name : String)
  | accept
  /-- Accepts in the background. -/
  | spawnAccept (name : String)
  /-- The result of what was begun in the background. -/
  | join (name : String)
  | localAddress
  | closeGate

inductive Answer where
  | nothing
  | done (result : Except Failure Unit)
  | length (result : Except Failure Nat)
  | data (result : Except Failure Bytes)
  | reception (reception : Inlet.Reception)
  | receptions (receptions : List Inlet.Reception)
  /-- Whether the gate has an address. -/
  | address (result : Except Failure Unit)

/-- What was begun in the background. -/
inductive Background where
  | receiving
  | accepting (result : Option (Except Failure Unit))

structure Stage where
  network : Network
  /-- How long a received datagram may be. -/
  limit : Nat
  gate : Gate String Unit := {}
  pipes : List (String × Pipe) := []
  /-- The plain ends. -/
  plains : List String := []
  outlets : List (String × Outlet) := []
  /-- The ends that receive datagrams. -/
  inlets : List String := []
  background : List (String × Background) := []

namespace Stage

def pipe (stage : Stage) (name : String) : Pipe := (stage.pipes.lookup name).getD {}

def withPipe (stage : Stage) (name : String) (pipe : Pipe) : Stage :=
  { stage with pipes := (name, pipe) :: stage.pipes.filter fun entry => entry.1 != name }

def withOutlet (stage : Stage) (name : String) (outlet : Outlet) : Stage :=
  { stage with outlets := (name, outlet) :: stage.outlets.filter fun entry => entry.1 != name }

/-- Makes a stream if there is a way to its other end. -/
def connect (stage : Stage) (name : String) (isOpen : Bool) (ends : Stage → Stage) :
    Stage × Answer :=
  match stage.network with
  | .isolated => (stage, .done (.error (.io .networkUnreachable)))
  | .connected =>
    if isOpen then (ends (stage.withPipe name {}), .done (.ok ()))
    else (stage, .done (.error (.io .connectionRefused)))

def needPlain (stage : Stage) (name : String) : Except Defect Unit :=
  if name ∈ stage.plains then .ok () else .error .missingEnd

def needInlet (stage : Stage) (name : String) : Except Defect Unit :=
  if name ∈ stage.inlets then .ok () else .error .missingEnd

def needOutlet (stage : Stage) (name : String) : Except Defect Outlet :=
  match stage.outlets.lookup name with
  | some outlet => .ok outlet
  | none => .error .missingEnd

/-- Writes to a stream, which takes everything at once. -/
def send (stage : Stage) (name : String) (outlet : Outlet) (delivery : Delivery) :
    Stage × Answer :=
  let pipe := stage.pipe name
  match outlet.send delivery [.took (delivery.length + 4)] with
  | (written, .sent length) =>
    (stage.withPipe name { pipe with chunks := pipe.chunks ++ [written] }, .length (.ok length))
  | (_, .failed failure) => (stage, .length (.error failure))
  | _ => (stage, .nothing)

/-- Receives from a stream. A stream that is not closed and ends too early makes its reader wait. -/
def receive (stage : Stage) (name : String) : Stage × Answer :=
  let pipe := stage.pipe name
  match Inlet.receive stage.limit pipe.chunks with
  | (.datagram data, chunks) =>
    (stage.withPipe name { pipe with chunks }, .reception (.datagram data))
  | (reception, chunks) =>
    let ended := reception = .closed || reception = .failed Inlet.endsInLength ||
      reception = .failed Inlet.endsEarly
    if ended && !pipe.closed then (stage, .nothing)
    else (stage.withPipe name { pipe with chunks }, .reception reception)

def read (stage : Stage) (name : String) (length : Nat) : Stage × Answer :=
  let pipe := stage.pipe name
  let (data, chunks) := Inlet.fill length pipe.chunks
  (stage.withPipe name { pipe with chunks },
    .data (if data.length = length then .ok data else .error Inlet.endsEarly))

/-- The result of an accept. -/
def accept (stage : Stage) (name : String) : Stage × Option (Except Failure Unit) :=
  let (gate, result) := stage.gate.accept name
  ({ stage with gate }, result)

/-- Closes the gate and tells those who wait. -/
def closeGate (stage : Stage) : Stage :=
  let (gate, away) := stage.gate.close
  { stage with
    gate
    background := stage.background.map fun entry =>
      if entry.1 ∈ away then (entry.1, .accepting (some (.error Gate.closedMeanwhile)))
      else entry }

/-- Takes the result of what was begun in the background. -/
def join (stage : Stage) (name : String) : Except Defect (Stage × Answer) :=
  let rest := { stage with background := stage.background.filter fun entry => entry.1 != name }
  match stage.background.lookup name with
  | none => .error .missingEnd
  | some (.accepting (some result)) => .ok (rest, .done result)
  | some (.accepting none) => .ok (rest, .nothing)
  | some .receiving => .ok ({ rest with inlets := name :: rest.inlets }.receive name)

def perform (stage : Stage) : Step → Except Defect (Stage × Answer)
  | .joinPlain name =>
    .ok (stage.connect name stage.gate.isOpen fun stage =>
      { stage with plains := name :: stage.plains, inlets := name :: stage.inlets })
  | .joinOutlet name =>
    .ok (stage.connect name stage.gate.isOpen fun stage =>
      { stage.withOutlet name {} with inlets := name :: stage.inlets })
  | .joinOutletPlain name =>
    .ok (stage.connect name true fun stage =>
      { stage.withOutlet name {} with plains := name :: stage.plains })
  | .write name chunks => do
    stage.needPlain name
    let pipe := stage.pipe name
    pure (stage.withPipe name { pipe with chunks := pipe.chunks ++ chunks }, .nothing)
  | .shutDown name => do
    stage.needPlain name
    pure (stage.withPipe name { stage.pipe name with closed := true }, .nothing)
  | .read name length => do
    stage.needPlain name
    pure (stage.read name length)
  | .readAll name => do
    stage.needPlain name
    let pipe := stage.pipe name
    pure (stage.withPipe name { pipe with chunks := [] }, .data (.ok pipe.chunks.flatten))
  | .send name delivery => do
    let outlet ← stage.needOutlet name
    pure (stage.send name outlet delivery)
  | .close name => do
    let outlet ← stage.needOutlet name
    let closed := stage.withOutlet name outlet.close
    pure (closed.withPipe name { stage.pipe name with closed := true }, .nothing)
  | .receive name => do
    stage.needInlet name
    pure (stage.receive name)
  | .receiveAll name => do
    stage.needInlet name
    let pipe := stage.pipe name
    pure (stage.withPipe name { pipe with chunks := [] },
      .receptions (Inlet.receiveAll stage.limit pipe.chunks))
  | .spawnReceive name => do
    stage.needInlet name
    pure ({ stage with
        inlets := stage.inlets.filter (· != name)
        background := (name, .receiving) :: stage.background }, .nothing)
  | .accept =>
    let (stage, result) := stage.accept ""
    .ok (stage, (result.map .done).getD .nothing)
  | .spawnAccept name =>
    let (stage, result) := stage.accept name
    .ok ({ stage with background := (name, .accepting result) :: stage.background }, .nothing)
  | .join name => stage.join name
  | .localAddress => .ok (stage, .address stage.gate.check)
  | .closeGate => .ok (stage.closeGate, .nothing)

def run (stage : Stage) : List Step → Except Defect (List Answer)
  | [] => .ok []
  | step :: rest => do
    let (stage, answer) ← stage.perform step
    pure (answer :: (← stage.run rest))

end Stage

/-- Runs the steps behind a gate that takes datagrams up to a limit. -/
def run (network : Network) (limits : ReceiveLimits) (steps : List Step) :
    Except Defect (List Answer) :=
  Stage.run { network, limit := limits.maxDatagram } steps

end ReliableTransport.Rehearsal.Streams
