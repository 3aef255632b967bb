/-!
This module holds registries of handlers. Each registry numbers its subscriptions from zero and
never uses a number again. A notification goes to the handlers that are registered when it begins.
-/

namespace ReliableTransport

structure Registry (Handler : Type) where
  /-- The number of the next subscription. -/
  nextId : Nat := 0
  /-- The registered handlers in the order of their subscription. -/
  entries : List (Nat × Handler) := []

namespace Registry

variable {Handler : Type}

/-- Registers a handler behind the others and says its number. -/
def subscribe (registry : Registry Handler) (handler : Handler) : Registry Handler × Nat :=
  ({ nextId := registry.nextId + 1, entries := registry.entries ++ [(registry.nextId, handler)] },
    registry.nextId)

/-- A number is registered until it is unsubscribed. -/
def isRegistered (registry : Registry Handler) (id : Nat) : Bool :=
  registry.entries.any fun entry => entry.1 == id

/-- Removes the handler of a number and says whether there was one. -/
def unsubscribe (registry : Registry Handler) (id : Nat) : Registry Handler × Bool :=
  ({ registry with entries := registry.entries.filter fun entry => entry.1 != id },
    registry.isRegistered id)

def size (registry : Registry Handler) : Nat := registry.entries.length

def isEmpty (registry : Registry Handler) : Bool := registry.entries.isEmpty

/-- The handlers that a notification goes to, in the order of their subscription. -/
def handlers (registry : Registry Handler) : List Handler := registry.entries.map Prod.snd

end Registry

end ReliableTransport
