/-!
# Broadcasts

Everyone who listens to a channel gets what is published while they listen.  The channel keeps the
latest things only, so a listener who is far behind misses some.

* `Channel`: the messages published, and the place of each listener;
* `Channel.publish`, `Channel.subscribe`, `Channel.unsubscribe`;
* `Channel.receive`: the next event for a listener, or the number of those missed.
-/

namespace Mockup

/-- A broadcast channel: the number of messages that it keeps, all messages published so far, and
for each listener the place of its next message, or nothing once it has left. -/
structure Channel (α : Type) where
  capacity : Nat
  log : List α := []
  listeners : List (Option Nat) := []
  deriving DecidableEq, Repr

/-- The next message, the number of messages that were missed, or nothing new. -/
inductive Received (α : Type) where
  | item (a : α)
  | lagged (missed : Nat)
  | empty
  deriving DecidableEq, Repr

namespace Channel

variable {α : Type}

/-- A channel that keeps at least this many messages, and at least one.  The capacity is a power of
two. -/
def withCapacity (least : Nat) : Channel α :=
  { capacity := (max least 1).nextPowerOfTwo }

def listenerCount (c : Channel α) : Nat :=
  c.listeners.countP Option.isSome

/-- Publishes a message, which is lost if nobody listens. -/
def publish (c : Channel α) (a : α) : Channel α :=
  if c.listenerCount = 0 then c else { c with log := c.log ++ [a] }

def publishAll (c : Channel α) (as : List α) : Channel α :=
  as.foldl publish c

/-- The channel with one more listener, whose number is the number of listeners before. -/
def subscribe (c : Channel α) : Channel α :=
  { c with listeners := c.listeners ++ [some c.log.length] }

def unsubscribe (c : Channel α) (listener : Nat) : Channel α :=
  { c with listeners := c.listeners.set listener none }

/-- The place of the oldest message that is kept. -/
def oldest (c : Channel α) : Nat :=
  c.log.length - c.capacity

/-- The next message at a place, or the number of missed ones, and the place to go on from. -/
def readAt (c : Channel α) (place : Nat) : Received α × Nat :=
  if place < c.oldest then (.lagged (c.oldest - place), c.oldest)
  else match c.log[place]? with
    | some a => (.item a, place + 1)
    | none => (.empty, place)

/-- The next message for a listener, if there is such a listener. -/
def receive (c : Channel α) (listener : Nat) : Option (Received α × Channel α) :=
  (c.listeners.getD listener none).map fun place =>
    let (received, next) := c.readAt place
    (received, { c with listeners := c.listeners.set listener (some next) })

/-- All messages for a listener at this place, at most `fuel` of them. -/
def drainFrom (c : Channel α) : Nat → Nat → List (Received α)
  | 0, _ => []
  | fuel + 1, place =>
    match c.readAt place with
    | (.empty, _) => []
    | (received, next) => received :: drainFrom c fuel next

/-- All messages for a listener.  Each is received once at most, and messages are missed once at
most. -/
def drain (c : Channel α) (listener : Nat) : List (Received α) :=
  match c.listeners.getD listener none with
  | some place => c.drainFrom (c.log.length + 1) place
  | none => []

end Channel

end Mockup
