import PrplMesh.Lib.AList
import PrplMesh.Lib.Machine

/-!
This module contains the event loop and the CMDU server, which registers handlers for the stream
sockets of its clients with it, and what the kernel keeps for these sockets.
-/

namespace PrplMesh.EventLoop

abbrev Fd := Nat

inductive Handler where
  | handleRead
  | handleClose
  deriving DecidableEq

structure EventHandlers where
  onRead : Option Handler := none
  onWrite : Option Handler := none
  onDisconnect : Option Handler := none
  onError : Option Handler := none
  deriving DecidableEq

structure EpollEvents where
  epollIn : Bool := false
  epollOut : Bool := false
  epollRdHup : Bool := false
  epollErr : Bool := false
  epollHup : Bool := false
  deriving DecidableEq

structure Socket where
  unread : List UInt8 := []
  closed : Bool := false
  deriving DecidableEq

structure Loop where
  fdToEventHandlers : AList (fun _ : Fd => EventHandlers)
  connections : AList (fun _ : Fd => Socket)

inductive Entry where
  | registered (fd : Fd)
  | removed (fd : Fd)
  | read (fd : Fd) (bytes : List UInt8)
  | disconnected (fd : Fd)
  deriving DecidableEq

namespace Loop

def init : Loop := ⟨∅, ∅⟩

variable (loop : Loop) (fd : Fd)

def registerHandlers (handlers : EventHandlers) : Bool × List Entry × Loop :=
  if fd ∈ loop.fdToEventHandlers then
    (false, [], loop)
  else
    (true, [.registered fd],
      { loop with fdToEventHandlers := loop.fdToEventHandlers.insert fd handlers })

def removeHandlers : Bool × List Entry × Loop :=
  if fd ∈ loop.fdToEventHandlers then
    (true, [.removed fd], { loop with fdToEventHandlers := loop.fdToEventHandlers.erase fd })
  else
    (false, [], loop)

def serverHandlers : EventHandlers where
  onRead := some .handleRead
  onDisconnect := some .handleClose
  onError := some .handleClose

def addConnection : List Entry × Loop :=
  match loop.registerHandlers fd serverHandlers with
  | (true, entries, loop) => (entries, { loop with connections := loop.connections.insert fd {} })
  | (false, entries, loop) => (entries, loop)

-- If the handlers are not removed here, the event loop has done so before.
def removeConnection (removeHandlers : Bool) : List Entry × Loop :=
  if fd ∉ loop.connections then
    ([], loop)
  else if removeHandlers then
    match loop.removeHandlers fd with
    | (true, entries, loop) => (entries, { loop with connections := loop.connections.erase fd })
    | (false, entries, loop) => (entries, loop)
  else
    ([], { loop with connections := loop.connections.erase fd })

-- Up to a number of bytes is read, which depends on the room in the buffer of the connection.
def handleRead (size : Nat) : List Entry × Loop :=
  match loop.connections.lookup fd with
  | none => ([], loop)
  | some socket =>
    ([.read fd (socket.unread.take size)],
      { loop with
        connections := loop.connections.insert fd
          { socket with unread := socket.unread.drop size } })

def handleClose : List Entry × Loop :=
  let (entries, loop') := loop.removeConnection fd false
  (.disconnected fd :: entries, loop')

def call (handler : Option Handler) (fd : Fd) (size : Nat) : List Entry × Loop :=
  match handler with
  | none => ([], loop)
  | some .handleRead => loop.handleRead fd size
  | some .handleClose => loop.handleClose fd

def handleEvent (events : EpollEvents) (size : Nat) : List Entry × Loop :=
  match loop.fdToEventHandlers.lookup fd with
  | none => ([], loop)
  | some handlers =>
    if events.epollErr then
      let (_, removed, loop) := loop.removeHandlers fd
      let (entries, loop) := loop.call handlers.onError fd size
      (removed ++ entries, loop)
    else if events.epollRdHup || events.epollHup then
      let (_, removed, loop) := loop.removeHandlers fd
      let (entries, loop) := loop.call handlers.onDisconnect fd size
      (removed ++ entries, loop)
    else if events.epollIn then
      loop.call handlers.onRead fd size
    else if events.epollOut then
      loop.call handlers.onWrite fd size
    else
      ([], loop)

def peerWrite (bytes : List UInt8) : Loop :=
  { loop with
    connections := loop.connections.adjust fd fun socket =>
      if socket.closed then socket else { socket with unread := socket.unread ++ bytes } }

def peerClose : Loop :=
  { loop with
    connections := loop.connections.adjust fd fun socket => { socket with closed := true } }

end Loop

inductive Input where
  | connect (fd : Fd)
  | peerWrite (fd : Fd) (bytes : List UInt8)
  | peerClose (fd : Fd)
  | disconnect (fd : Fd)
  | event (fd : Fd) (events : EpollEvents) (size : Nat)
  deriving DecidableEq

def machine : Machine Loop Input (List Entry) where
  step loop input :=
    match input with
    | .connect fd => loop.addConnection fd
    | .peerWrite fd bytes => ([], loop.peerWrite fd bytes)
    | .peerClose fd => ([], loop.peerClose fd)
    | .disconnect fd => loop.removeConnection fd true
    | .event fd events size => loop.handleEvent fd events size

end PrplMesh.EventLoop
