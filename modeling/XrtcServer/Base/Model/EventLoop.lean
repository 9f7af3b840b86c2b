import Mathlib.Data.Nat.Notation
import Mathlib.Data.Int.Notation
/-!
# IO watchers

What `EventLoop` does to a watcher: `start_io_event` and `stop_io_event`
add and remove interest in events. The fields are those of the `ev_io`
inside. Stopping it clears `active` and leaves `events` as it was.
-/

namespace XrtcServer

namespace Base

/-- A mask of READ and WRITE. -/
structure IOMask where
  read : Bool
  write : Bool
deriving DecidableEq, Repr

namespace IOMask

def READ : IOMask := ⟨true, false⟩
def WRITE : IOMask := ⟨false, true⟩
def NONE : IOMask := ⟨false, false⟩

def union (a b : IOMask) : IOMask := ⟨a.read || b.read, a.write || b.write⟩
def diff (a b : IOMask) : IOMask := ⟨a.read && !b.read, a.write && !b.write⟩

end IOMask

/-- `IOWatcher`. -/
structure IOWatcher where
  active : Bool := false
  fd : ℤ := -1
  events : IOMask := .NONE
deriving DecidableEq, Repr

namespace IOWatcher

/-- `create_io_event`. `ev_init` sets neither the descriptor nor the events:
they are what the memory held. -/
def createIoEvent (fd : ℤ) (events : IOMask) : IOWatcher :=
  { active := false, fd := fd, events := events }

/-- `start_io_event`. -/
def startIoEvent (w : IOWatcher) (fd : ℤ) (mask : IOMask) : IOWatcher :=
  if w.active then
    let events := mask.union w.events
    if events = w.events then w else { active := true, fd := fd, events := events }
  else { active := true, fd := fd, events := mask }

/-- `stop_io_event`. It never looks at `active`, and where no event is left
the watcher keeps the events it had. -/
def stopIoEvent (w : IOWatcher) (fd : ℤ) (mask : IOMask) : IOWatcher :=
  let events := w.events.diff mask
  if events = w.events then w
  else if events = .NONE then { w with active := false }
  else { active := true, fd := fd, events := events }

end IOWatcher

end Base

end XrtcServer
