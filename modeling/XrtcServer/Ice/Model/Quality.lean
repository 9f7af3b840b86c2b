import XrtcServer.Ice.Model.Controller
/-!
# What connections are compared by

`_compare_connections` and the sort see a connection through four of its
getters. `Quality` has what they return, whatever the connection is.
-/

namespace XrtcServer

namespace Ice

/-- `write_state()`, `receiving()`, `priority()` and `rtt()` of a connection. -/
structure Quality where
  writeState : WriteState
  receiving : Bool
  priority : UInt64
  rtt : ℤ
deriving DecidableEq, Repr

namespace IceConnection

def quality (c : IceConnection) : Quality :=
  { writeState := c.writeState, receiving := c.receiving, priority := c.priority, rtt := c.rtt }

end IceConnection

namespace Quality

/-- `writable()`. -/
def writable (q : Quality) : Bool := q.writeState = .writable

/-- `_compare_connections`. -/
def compareConnections (a b : Quality) : ℤ :=
  if a.writable && !b.writable then a_is_better
  else if !a.writable && b.writable then b_is_better
  else if a.writeState.value < b.writeState.value then a_is_better
  else if a.writeState.value > b.writeState.value then b_is_better
  else if a.receiving && !b.receiving then a_is_better
  else if !a.receiving && b.receiving then b_is_better
  else if a.priority > b.priority then a_is_better
  else if a.priority < b.priority then b_is_better
  else 0

/-- The comparison `sort_and_switch_connection` passes to `stable_sort`. -/
def better (conn1 conn2 : Quality) : Bool :=
  let cmp := compareConnections conn1 conn2
  if cmp ≠ 0 then cmp > 0 else conn1.rtt < conn2.rtt

/-- The controller compares connections by their quality. -/
@[simp] theorem compareConnections_quality (a b : IceConnection) :
    a.quality.compareConnections b.quality = IceController.compareConnections a b := rfl

@[simp] theorem better_quality (a b : IceConnection) :
    a.quality.better b.quality = IceController.better a b := rfl

end Quality

end Ice

end XrtcServer
