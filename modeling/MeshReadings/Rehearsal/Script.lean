import MeshReadings.Gateway.Basic

/-!
A gateway that answers by script. Each operation has an answer, which may come late or
never; the answer that counts is the one set when the call begins.
-/

namespace MeshReadings
namespace Rehearsal

inductive Operation
  | resolve
  | bind
  | report
  | read
  | listen
  | unlisten
deriving DecidableEq

namespace Operation

def all : List Operation := [resolve, bind, report, read, listen, unlisten]

def name : Operation → String
  | resolve => "resolve"
  | bind => "bind"
  | report => "reporting"
  | read => "read"
  | listen => "listen"
  | unlisten => "unlisten"

def ofName? (s : String) : Option Operation := all.find? (·.name == s)

def ofCall : Call → Operation
  | .resolve => resolve
  | .bind => bind
  | .report .. => report
  | .read => read
  | .listen => listen
  | .unlisten => unlisten

end Operation

inductive Answer
  | reply (r : Reply)
  | never
  | after (ms : Nat) (answer : Answer)

def Answer.due? (now : Nat) : Answer → Option (Nat × Reply)
  | reply r => some (now, r)
  | never => none
  | after ms a => a.due? (now + ms)

structure Script where
  answers : List (Operation × Answer) := []
  waits : List (Ticket × Nat × Reply) := []

namespace Script

/-- Without a set answer an operation succeeds. -/
def answer (s : Script) (o : Operation) : Answer :=
  match s.answers.find? (·.1 == o) with
  | some entry => entry.2
  | none => .reply .ok

def set (s : Script) (o : Operation) (a : Answer) : Script :=
  { s with answers := (o, a) :: s.answers.filter (·.1 != o) }

def abandon (s : Script) (t : Ticket) : Script :=
  { s with waits := s.waits.filter (·.1 != t) }

def call (s : Script) (now : Nat) (t : Ticket) (c : Call) : Script :=
  match (s.answer (.ofCall c)).due? now with
  | none => s
  | some due => { s with waits := (t, due) :: s.waits }

def wait? (s : Script) (t : Ticket) : Option (Nat × Reply) :=
  (s.waits.find? (·.1 == t)).map (·.2)

def reply? (s : Script) (now : Nat) (t : Ticket) : Option Reply :=
  match s.wait? t with
  | some (due, r) => if due ≤ now then some r else none
  | none => none

def deadline? (s : Script) (t : Ticket) : Option Nat := (s.wait? t).map (·.1)

end Script
end Rehearsal
end MeshReadings
