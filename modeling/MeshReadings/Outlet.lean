import MeshReadings.Channel
import MeshReadings.Engine.Step

/-!
An engine whose readings go out through a client of a broker. The engine takes note of
what it publishes before the client is offered it, and the client may refuse; the broker
takes requests off the client's queue whenever it likes.
-/

namespace MeshReadings

def Engine.Effect.update? (channel : String) : Effect → Option Channel.Update
  | .publish v => some ⟨channel, v⟩
  | _ => none

structure Outlet where
  engine : Engine
  client : Mqtt.Client
  base : String

namespace Outlet

inductive Event
  | engine (event : Engine.Event)
  /-- The broker takes the next request. -/
  | drain

/-- What becomes of an update that the client is offered, and what the broker takes. -/
inductive Effect
  | accepted (u : Channel.Update)
  | refused (u : Channel.Update)
  | drained (r : Mqtt.Request)
deriving DecidableEq

abbrev Step := Outlet × List Effect

def offer (o : Outlet) (u : Channel.Update) : Step :=
  ({ o with client := Channel.publish o.base o.client u },
    [if o.client.accepts (u.request o.base) then .accepted u else .refused u])

def offerAll (o : Outlet) : List Channel.Update → Step
  | [] => (o, [])
  | u :: us =>
    let (o, effects) := o.offer u
    let (o, more) := o.offerAll us
    (o, effects ++ more)

def drain (o : Outlet) : Step :=
  match o.client.take? with
  | none => (o, [])
  | some (r, client) => ({ o with client := client }, [.drained r])

def step (o : Outlet) (now : Nat) : Event → Step
  | .engine event =>
    let (e, effects) := o.engine.step now event
    { o with engine := e }.offerAll
      (effects.filterMap (Engine.Effect.update? o.engine.channel))
  | .drain => o.drain

end Outlet
end MeshReadings
