/-!
The sending half of a connection to a broker: a queue of requests that the connection
drains. A request is refused when nobody reads the queue any more, when the queue is full,
and when it publishes to a topic with wildcards; what is subscribed to is left to the
broker to judge.
-/

namespace MeshReadings
namespace Mqtt

def isWildcard (c : Char) : Bool := c = '+' || c = '#'

def isTopic (s : String) : Bool := !s.toList.any isWildcard

inductive Request
  | publish (topic : String) (qos : Nat) (retain : Bool) (payload : String)
  | subscribe (filter : String) (qos : Nat)
  | unsubscribe (filter : String)
deriving DecidableEq

namespace Request

def isWellFormed : Request → Bool
  | publish topic .. => isTopic topic
  | subscribe .. | unsubscribe _ => true

end Request

structure Client where
  capacity : Option Nat
  isOpen : Bool
  queue : List Request
deriving DecidableEq

namespace Client

def ofCapacity (capacity : Option Nat) : Client := ⟨capacity, true, []⟩

def isFull (c : Client) : Bool :=
  match c.capacity with
  | none => false
  | some n => n ≤ c.queue.length

def accepts (c : Client) (r : Request) : Bool := r.isWellFormed && c.isOpen && !c.isFull

/-- Queues a request, unless it is refused. -/
def send? (c : Client) (r : Request) : Option Client :=
  if c.accepts r then some { c with queue := c.queue ++ [r] } else none

/-- Queues a request or lets it go. -/
def offer (c : Client) (r : Request) : Client := (c.send? r).getD c

def take? (c : Client) : Option (Request × Client) :=
  match c.queue with
  | [] => none
  | r :: rs => some (r, { c with queue := rs })

/-- Nobody reads the queue from here on. -/
def close (c : Client) : Client := { c with isOpen := false, queue := [] }

theorem send?_eq_some_iff {c d : Client} {r : Request} :
    c.send? r = some d ↔ c.accepts r = true ∧ d = { c with queue := c.queue ++ [r] } := by
  unfold send?
  split <;> rename_i h
  · simp only [Option.some.injEq, h, true_and, eq_comm]
  · simp only [h, reduceCtorEq, false_and]

theorem queue_offer (c : Client) (r : Request) :
    (c.offer r).queue = if c.accepts r then c.queue ++ [r] else c.queue := by
  simp only [offer, send?]
  split <;> rfl

end Client
end Mqtt
end MeshReadings
