import MeshReadings.Gateway.Basic

/-!
The queue between a gateway and who routes its events. It holds a limited number of
events; a sender waits while it is full and gives up once nobody reads it any more.
-/

namespace MeshReadings

structure EventQueue where
  capacity : Nat := 256
  isOpen : Bool := true
  items : List AttributeEvent := []

namespace EventQueue

def hasRoom (q : EventQueue) : Bool := q.items.length < q.capacity

/-- Queues as many events as there is room for, and returns those left over. A closed
queue swallows all. -/
def push (q : EventQueue) : List AttributeEvent → EventQueue × List AttributeEvent
  | [] => (q, [])
  | e :: es =>
    if !q.isOpen then (q, [])
    else if q.hasRoom then push { q with items := q.items ++ [e] } es
    else (q, e :: es)

def take? (q : EventQueue) : Option (AttributeEvent × EventQueue) :=
  match q.items with
  | [] => none
  | e :: es => some (e, { q with items := es })

def close (q : EventQueue) : EventQueue := { q with isOpen := false, items := [] }

end EventQueue
end MeshReadings
