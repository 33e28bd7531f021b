import MeshReadings.Rehearsal.Turn

/-!
Running a session step by step. A step waits for its command to end, and then for all
tasks that can go on without time passing; time passes only while the command has not
ended and no task can act.
-/

namespace MeshReadings
namespace Rehearsal
namespace Session

def nextDeadline? (s : Session) : Option Nat :=
  ((s.tasks.flatMap s.deadlines).filter (s.now < ·)).min?

def turnLimit : Nat := 10000000

def run : Nat → Session → Session
  | 0, s => s
  | limit + 1, s =>
    if s.isBroken then s
    else match s.ready with
      | t :: rest => run limit ({ s with ready := rest }.take t)
      | [] =>
        if s.result.isSome then s
        else match s.nextDeadline? with
          | none => s
          | some time => run limit { s with now := time }.wake

/-- Carries out a command. One with a label goes on in the background. -/
def carryOut (s : Session) (label : Option String) (c : Command) : Session :=
  let t := s.tickets
  let (audience, result) : Audience × Option Result := match label with
    | none => (.step, none)
    | some label => (.label label, some .nothing)
  let s := { s with tickets := t + 1, log := [], result := result, ready := t :: s.ready }
  run turnLimit (s.putTask ⟨t, audience, .command c⟩)

end Session
end Rehearsal
end MeshReadings
