import MeshReadings.Proofs.Engine.Readings

/-!
What the broker was really given. An engine compares a reading with the one it published
last, whether or not the client accepted that; so a reading that was refused is taken for
published when it comes again, and the broker keeps the value before it until the reading
changes.
-/

namespace MeshReadings
namespace Outlet

abbrev Moment := MeshReadings.Moment Outlet Event Effect

abbrev History := List Moment

/-- A history of the engine of a spec with a client, and what it leads to. -/
def RunOf (spec : Spec) (client : Mqtt.Client) (base : String) (h : History)
    (o : Outlet) : Prop :=
  ∃ e, Engine.ofSpec? spec = some e ∧ Run step ⟨e, client, base⟩ h o

/-- The reading that an event brings to the engine, if any. -/
def reading? (d : Decoder) (m : Moment) : Option Value :=
  match m.event with
  | .engine event => Engine.reading? d (.taken Engine.step m.before.engine m.now event)
  | .drain => none

def Effect.accepted? : Effect → Option Channel.Update
  | accepted u => some u
  | _ => none

/-- The update that the client was offered. -/
def Effect.offered? : Effect → Option Channel.Update
  | accepted u | refused u => some u
  | drained _ => none

def Effect.drained? : Effect → Option Mqtt.Request
  | drained r => some r
  | _ => none

def offers (h : History) : List Effect :=
  (h.flatMap (·.effects)).filter (·.offered?.isSome)

/-- All updates that the client accepted. -/
def accepted (h : History) : List Channel.Update :=
  (h.flatMap (·.effects)).filterMap Effect.accepted?

/-- All requests that the broker took. -/
def drained (h : History) : List Mqtt.Request :=
  (h.flatMap (·.effects)).filterMap Effect.drained?

/-- The last request that the client accepted carries a value equal to some other. -/
def Carries (base channel : String) (v : Value) (h : History) : Prop :=
  ∃ u, (accepted h).getLast? = some u ∧
    ∃ w : Value, w.same v = true ∧
      u.request base = (⟨channel, w⟩ : Channel.Update).request base

/-- An equal value was offered last, and refused. -/
def RefusedLast (v : Value) (h : History) : Prop :=
  ∃ u, (offers h).getLast? = some (.refused u) ∧ u.value.same v = true

theorem offers_snoc (h : History) (m : Moment) :
    offers (h ++ [m]) = offers h ++ m.effects.filter (·.offered?.isSome) := by
  simp [offers]

theorem accepted_snoc (h : History) (m : Moment) :
    accepted (h ++ [m]) = accepted h ++ m.effects.filterMap Effect.accepted? := by
  simp [accepted]

theorem drained_snoc (h : History) (m : Moment) :
    drained (h ++ [m]) = drained h ++ m.effects.filterMap Effect.drained? := by
  simp [drained]

theorem accepted_eq (h : History) :
    accepted h = (offers h).filterMap Effect.accepted? := by
  rw [accepted, offers, List.filterMap_filter]
  congr 1
  funext f
  cases f <;> rfl

section
variable {o : Outlet} {now : Nat} {event : Engine.Event} {v : Value}

/-- The update of a reading, and what becomes of it. -/
def verdict (o : Outlet) (v : Value) : Effect :=
  if o.client.accepts ((⟨o.engine.channel, v⟩ : Channel.Update).request o.base) then
    .accepted ⟨o.engine.channel, v⟩
  else .refused ⟨o.engine.channel, v⟩

theorem offered?_verdict (o : Outlet) (v : Value) :
    (o.verdict v).offered? = some ⟨o.engine.channel, v⟩ := by
  simp only [verdict]
  split <;> rfl

theorem step_unread
    (unread : Engine.reading? o.engine.decoder (.taken Engine.step o.engine now event) =
      none) :
    o.step now (.engine event) =
      ({ o with engine := (o.engine.step now event).1 }, []) := by
  have noted := Engine.step_of_reading o.engine now event
  simp only [unread] at noted
  simp only [step, noted.1, offerAll]

theorem step_repeated
    (reads : Engine.reading? o.engine.decoder (.taken Engine.step o.engine now event) =
      some v)
    (old : o.engine.binding.isNew v = false) :
    o.step now (.engine event) =
      ({ o with engine := (o.engine.step now event).1 }, []) := by
  have noted := Engine.step_of_reading o.engine now event
  simp only [reads] at noted
  simp [step, noted.2.1, old, offerAll]

theorem step_new
    (reads : Engine.reading? o.engine.decoder (.taken Engine.step o.engine now event) =
      some v)
    (new : o.engine.binding.isNew v = true) :
    o.step now (.engine event) =
      ({ o with
          engine := (o.engine.step now event).1
          client :=
            Channel.publish o.base o.client ⟨o.engine.channel, v⟩ }, [o.verdict v]) := by
  have noted := Engine.step_of_reading o.engine now event
  simp only [reads] at noted
  simp [step, noted.2.1, new, offerAll, offer, verdict]

theorem step_drain (o : Outlet) (now : Nat) :
    (o.step now .drain).1.engine = o.engine ∧ (o.step now .drain).1.base = o.base ∧
      ∀ f ∈ (o.step now .drain).2, f.offered? = none := by
  simp only [step, drain]
  split
  · exact ⟨rfl, rfl, by simp⟩
  · exact ⟨rfl, rfl, by simp [Effect.offered?]⟩

end

/-- What the engine takes for published is what was offered last, whatever became of
it. -/
structure Noted (spec : Spec) (base : String) (h : History) (o : Outlet) : Prop where
  base : o.base = base
  life : ∃ h, Engine.RunOf spec h o.engine
  channel : ∀ f ∈ offers h, ∀ u, f.offered? = some u → u.channel = spec.channel
  last : o.engine.disposed = false →
    o.engine.binding.lastValue = (offers h).getLast?.bind fun f =>
      f.offered?.map (·.value)

section
variable {spec : Spec} {client : Mqtt.Client} {base : String} {h h₁ h₂ : History}
  {o : Outlet} {m : Moment} {now : Nat}

/-- A step that offers nothing. -/
theorem Noted.quiet (inv : Noted spec base h o) {o' : Outlet} (same : o'.base = o.base)
    (life : ∃ h, Engine.RunOf spec h o'.engine)
    (silent : ∀ f ∈ m.effects, f.offered? = none)
    (last : o'.engine.disposed = false → o.engine.disposed = false ∧
      o'.engine.binding.lastValue = o.engine.binding.lastValue) :
    Noted spec base (h ++ [m]) o' := by
  have nothing : m.effects.filter (·.offered?.isSome) = [] :=
    List.filter_eq_nil_iff.mpr fun f member => by simp [silent f member]
  have offers : offers (h ++ [m]) = offers h := by
    rw [offers_snoc, nothing, List.append_nil]
  refine ⟨same.trans inv.base, life, offers ▸ inv.channel, fun live => ?_⟩
  rw [offers, (last live).2]
  exact inv.last (last live).1

theorem Noted.step (inv : Noted spec base h o) (now : Nat) (event : Event) :
    Noted spec base (h ++ [.taken step o now event]) (o.step now event).1 := by
  cases event with
  | drain =>
      obtain ⟨engine, same, silent⟩ := o.step_drain now
      refine inv.quiet same (engine ▸ inv.life) silent fun live => ?_
      rw [engine] at live ⊢
      exact ⟨live, rfl⟩
  | engine event =>
      obtain ⟨life, run⟩ := inv.life
      obtain ⟨channel, decoder⟩ := run.channel_decoder
      have run := run.next now event
      have noted := Engine.step_of_reading o.engine now event
      cases reading : Engine.reading? o.engine.decoder
        (.taken Engine.step o.engine now event) with
      | none =>
          simp only [reading] at noted
          rw [step_unread reading]
          refine inv.quiet rfl ⟨_, run⟩ (by simp [Moment.taken, step_unread reading])
            fun live => ?_
          exact ⟨(Engine.step_move o.engine now event).live_before live, noted.2 live⟩
      | some v =>
          simp only [reading] at noted
          obtain ⟨live, -, binding⟩ := noted
          cases new : o.engine.binding.isNew v with
          | false =>
              rw [step_repeated reading new]
              refine inv.quiet rfl ⟨_, run⟩
                (by simp [Moment.taken, step_repeated reading new]) fun _ => ⟨live, ?_⟩
              simp [binding, Binding.record, new]
          | true =>
              have offers : offers (h ++ [.taken Outlet.step o now (.engine event)]) =
                  offers h ++ [o.verdict v] := by
                rw [offers_snoc]
                simp [Moment.taken, step_new reading new, offered?_verdict]
              rw [step_new reading new]
              refine ⟨inv.base, ⟨_, run⟩, ?_, fun _ => ?_⟩
              · rw [offers]
                intro f member u offered
                rcases List.mem_append.mp member with earlier | latest
                · exact inv.channel f earlier u offered
                · rw [List.mem_singleton.mp latest, offered?_verdict] at offered
                  cases offered
                  exact channel
              · rw [offers]
                simp [binding, Binding.record, new, offered?_verdict]

theorem noted_of_run (run : RunOf spec client base h o) : Noted spec base h o := by
  obtain ⟨e, opened, run⟩ := run
  induction run with
  | nil =>
      obtain ⟨c, -, rfl⟩ := Option.map_eq_some_iff.mp opened
      exact ⟨rfl, ⟨[], .start opened⟩, by simp [offers], fun _ => rfl⟩
  | snoc run now event ih => exact ih.step now event

theorem accepted_of_last {u : Channel.Update}
    (last : (offers h).getLast? = some (.accepted u)) :
    (accepted h).getLast? = some u := by
  obtain ⟨earlier, whole⟩ := List.getLast?_eq_some_iff.mp last
  simp [accepted_eq, whole, Effect.accepted?]

/-- A reading that equals the one offered last is carried unless that one was refused. -/
theorem Noted.carries_of_old (inv : Noted spec base h o)
    (live : o.engine.disposed = false) {v : Value}
    (old : o.engine.binding.isNew v = false) :
    RefusedLast v h ∨ Carries base spec.channel v h := by
  cases published : o.engine.binding.lastValue with
  | none => simp [Binding.isNew, published] at old
  | some l =>
      have same : l.same v = true := by simpa [Binding.isNew, published] using old
      have noted := inv.last live
      rw [published] at noted
      obtain ⟨f, last, offered⟩ := Option.bind_eq_some_iff.mp noted.symm
      cases f with
      | accepted u =>
          have mine : u.channel = spec.channel :=
            inv.channel _ (List.mem_of_getLast? last) u rfl
          cases offered
          exact Or.inr ⟨u, accepted_of_last last, u.value, same, by rw [← mine]⟩
      | refused u =>
          cases offered
          exact Or.inl ⟨u, last, same⟩
      | drained r => cases offered

/-- A reading that the client would accept is carried afterwards if an equal one was not
refused right before. -/
theorem Noted.carries_iff (inv : Noted spec base h o) {event : Engine.Event} {v : Value}
    (reads : Engine.reading? o.engine.decoder (.taken Engine.step o.engine now event) =
      some v)
    (number : v.same v = true) (channel : o.engine.channel = spec.channel)
    (accepts : o.client.accepts ((⟨spec.channel, v⟩ : Channel.Update).request base) =
      true) :
    Carries base spec.channel v (h ++ [.taken Outlet.step o now (.engine event)]) ↔
      (RefusedLast v h → Carries base spec.channel v h) := by
  have noted := Engine.step_of_reading o.engine now event
  simp only [reads] at noted
  cases new : o.engine.binding.isNew v with
  | true =>
      have carries : Carries base spec.channel v
          (h ++ [.taken Outlet.step o now (.engine event)]) := by
        refine ⟨⟨spec.channel, v⟩, ?_, v, number, rfl⟩
        simp [accepted_snoc, Moment.taken, step_new reads new, verdict, channel, inv.base,
          accepts, Effect.accepted?]
      refine ⟨fun _ refused => ?_, fun _ => carries⟩
      obtain ⟨u, last, same⟩ := refused
      have published := inv.last noted.1
      rw [last] at published
      simp [Binding.isNew, published, Effect.offered?, same] at new
  | false =>
      have unchanged :
          Carries base spec.channel v (h ++ [.taken Outlet.step o now (.engine event)]) ↔
          Carries base spec.channel v h := by
        simp [Carries, accepted_snoc, Moment.taken, step_repeated reads new]
      rw [unchanged]
      exact ⟨fun carries _ => carries,
        fun otherwise => (inv.carries_of_old noted.1 new).elim otherwise id⟩

/-- A reading that the client would accept is the last that it accepted, up to equality,
unless an equal one was offered right before, and refused, and what it accepted before
that is not equal. If it never refused anything, this does not happen. -/
theorem carries_unless_refused (run : RunOf spec client base (h₁ ++ m :: h₂) o)
    {v : Value} (reads : reading? spec.decoder m = some v) (number : v.same v = true)
    (accepts : m.before.client.accepts
      ((⟨spec.channel, v⟩ : Channel.Update).request base) = true) :
    (Carries base spec.channel v (h₁ ++ [m]) ↔
      (RefusedLast v h₁ → Carries base spec.channel v h₁)) ∧
    ((∀ m' ∈ h₁, ∀ u, .refused u ∉ m'.effects) →
      Carries base spec.channel v (h₁ ++ [m])) := by
  obtain ⟨e, opened, run⟩ := run
  obtain ⟨before, taken⟩ := run.reaches_before
  have inv : Noted spec base h₁ m.before := noted_of_run ⟨e, opened, before⟩
  obtain ⟨_, life⟩ := inv.life
  obtain ⟨channel, decoder⟩ := life.channel_decoder
  have law : Carries base spec.channel v (h₁ ++ [m]) ↔
      (RefusedLast v h₁ → Carries base spec.channel v h₁) := by
    cases event : m.event with
    | drain => simp [reading?, event] at reads
    | engine event' =>
        simp only [reading?, event, ← decoder] at reads
        rw [event] at taken
        rw [taken]
        exact inv.carries_iff reads number channel accepts
  refine ⟨law, fun unrefused => law.mpr fun refused => ?_⟩
  obtain ⟨u, last, -⟩ := refused
  have member := List.mem_of_getLast? last
  simp only [offers, List.mem_filter, List.mem_flatMap] at member
  obtain ⟨⟨m', earlier, effect⟩, -⟩ := member
  exact absurd effect (unrefused m' earlier u)

/-- What the client accepted is what the broker took, in order, and what it has yet to
take. -/
theorem queue_of_run (run : RunOf spec client base h o) :
    client.queue ++ (accepted h).map (·.request base) = drained h ++ o.client.queue := by
  obtain ⟨e, opened, run⟩ := run
  induction run with
  | nil => simp [accepted, drained]
  | @snoc h o run now event ih =>
      have inv : Noted spec base h o := noted_of_run ⟨e, opened, run⟩
      rw [accepted_snoc, drained_snoc, List.map_append, ← List.append_assoc, ih,
        List.append_assoc, List.append_assoc, List.append_cancel_left_eq]
      cases event with
      | drain =>
          cases queue : o.client.queue with
          | nil => simp [Moment.taken, step, drain, Mqtt.Client.take?, queue]
          | cons r rest =>
              simp [Moment.taken, step, drain, Mqtt.Client.take?, queue, Effect.accepted?,
                Effect.drained?]
      | engine event =>
          cases reading : Engine.reading? o.engine.decoder
            (.taken Engine.step o.engine now event) with
          | none => simp [Moment.taken, step_unread reading]
          | some v =>
              cases new : o.engine.binding.isNew v with
              | false => simp [Moment.taken, step_repeated reading new]
              | true =>
                  simp only [Moment.taken, step_new reading new, Channel.publish,
                    Mqtt.Client.queue_offer, verdict, inv.base]
                  cases o.client.accepts
                    ((⟨o.engine.channel, v⟩ : Channel.Update).request base) <;>
                    simp [List.filterMap, Effect.accepted?, Effect.drained?]

end

/-- The hall sensor with a client that has room for one request. -/
def narrow : Outlet := ⟨Engine.hallEngine, .ofCapacity (some 1), "home"⟩

/-- Somebody is noticed. Before the broker has taken that, nobody is there any more. -/
def hasty : List (Nat × Event) :=
  [(0, .engine (.notify (.bool true))), (1, .engine (.notify (.bool false))), (2, .drain)]

def hastyHistory : History := (play step narrow hasty).1

def hastyOutlet : Outlet := (play step narrow hasty).2

/-- The client would take what the sensor repeats, and it is not offered: the broker keeps
somebody in an empty hall. -/
theorem refused_reading_is_lost :
    RunOf Engine.hallSensor (.ofCapacity (some 1)) "home" hastyHistory hastyOutlet ∧
      hastyOutlet.client.accepts
        ((⟨"occupancy", .onOff false⟩ : Channel.Update).request "home") = true ∧
      accepted hastyHistory = [⟨"occupancy", .onOff true⟩] ∧
      ¬ Carries "home" "occupancy" (.onOff false)
        (hastyHistory ++ [.taken step hastyOutlet 3 (.engine (.notify (.bool false)))]) := by
  have run :
      RunOf Engine.hallSensor (.ofCapacity (some 1)) "home" hastyHistory hastyOutlet :=
    ⟨Engine.hallEngine, rfl, Run.nil.append_play hasty⟩
  obtain ⟨accepts, kept, refused⟩ :
      hastyOutlet.client.accepts ((⟨"occupancy", .onOff false⟩ : Channel.Update).request
        "home") = true ∧ accepted hastyHistory = [⟨"occupancy", .onOff true⟩] ∧
        (offers hastyHistory).getLast? = some (.refused ⟨"occupancy", .onOff false⟩) := by
      decide +kernel
  have again : RunOf Engine.hallSensor (.ofCapacity (some 1)) "home"
      (hastyHistory ++ [.taken step hastyOutlet 3 (.engine (.notify (.bool false)))]) _ :=
    ⟨Engine.hallEngine, rfl,
      Run.snoc (Run.nil.append_play hasty) 3 (.engine (.notify (.bool false)))⟩
  have reads : reading? Engine.hallSensor.decoder
      (.taken step hastyOutlet 3 (.engine (.notify (.bool false)))) =
        some (.onOff false) := by
    decide +kernel
  have law := (carries_unless_refused again reads rfl accepts).1
  refine ⟨run, accepts, kept, fun carries => ?_⟩
  obtain ⟨u, last, w, same, request⟩ := law.mp carries ⟨_, refused, rfl⟩
  rw [kept] at last
  cases last
  cases w with
  | onOff on =>
      obtain rfl : on = false := by simpa [Value.same] using same
      exact absurd request (by decide +kernel)
  | decimal | quantity | text => cases same

end Outlet
end MeshReadings
