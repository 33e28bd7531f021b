import MeshReadings.Outlet
import MeshReadings.Proofs.Engine.Disposal
import MeshReadings.Proofs.Reading.Changes

/-!
What an engine publishes over its life. A raw value reaches a live engine as a
notification or as the reply to a read; those that can be decoded are its readings, and of
them it publishes each that differs from the one right before it. The engine compares with
what it published last, which comes to the same, because a reading that was not published
equals the one before it.
-/

namespace MeshReadings

theorem Binding.mark_lastValue (b : Binding) (m : Mark) :
    (b.mark m).lastValue = b.lastValue := by
  simp only [mark]
  split <;> rfl

namespace Engine

def Stage.isReading : Stage → Bool
  | .reading .. => true
  | _ => false

/-- The raw value that an event brings to a live engine, if any. A read brings one while
it is awaited. -/
def arrival? (e : Engine) (event : Event) : Option Raw :=
  if e.disposed then none
  else match event with
    | .notify raw => some raw
    | .reply t (.reading raw) =>
        if (e.stage? t).any Stage.isReading then some raw else none
    | _ => none

def reading? (d : Decoder) (m : Moment) : Option Value :=
  (m.before.arrival? m.event).bind fun raw => (d.decode raw).toOption

/-- All readings of a history, in the order in which they arrived. -/
def readings (d : Decoder) (h : History) : List Value := h.filterMap (reading? d)

/-- All that an engine gave its channel, in order. -/
def updates (h : History) : List Channel.Update :=
  h.flatMap fun m => m.effects.filterMap (Effect.update? m.before.channel)

theorem readings_snoc (d : Decoder) (h : History) (m : Moment) :
    readings d (h ++ [m]) = readings d h ++ (reading? d m).toList := by
  cases reading : reading? d m <;> simp [readings, reading]

theorem updates_snoc (h : History) (m : Moment) :
    updates (h ++ [m]) =
      updates h ++ m.effects.filterMap (Effect.update? m.before.channel) := by
  simp [updates]

/-- The value published last equals the last reading, or is the last reading. -/
def Stands (published? last? : Option Value) : Prop :=
  published? = last? ∨ ∃ v w, published? = some v ∧ last? = some w ∧ v.same w = true

section
variable {b : Binding} {last? : Option Value}

theorem Stands.isNew (stands : Stands b.lastValue last?) (v : Value) :
    b.isNew v = !v.repeats last? := by
  obtain rfl | ⟨u, w, published, rfl, same⟩ := stands
  · cases last : b.lastValue <;> simp [Binding.isNew, Value.repeats, last]
  · simp [Binding.isNew, Value.repeats, published, Value.same_congr same]

/-- A reading that is not new equals the last one published, which goes on standing for
it. -/
theorem stands_record (b : Binding) (v : Value) (now : Nat) :
    Stands (b.record v now).lastValue (some v) := by
  cases new : b.isNew v with
  | true => exact Or.inl (by simp [Binding.record, new])
  | false =>
      cases last : b.lastValue with
      | none => simp [Binding.isNew, last] at new
      | some w =>
          refine Or.inr ⟨w, v, by simp [Binding.record, new, last], rfl, ?_⟩
          simpa [Binding.isNew, last] using new

end

section
variable {e : Engine} {now : Nat} {event : Event} {s : Step}

theorem notice_of_live (live : e.disposed = false) (raw : Raw) :
    e.notice now raw = match (e.decoder.decode raw).toOption with
      | none => (e, none)
      | some v => (e.noting now v, if e.binding.isNew v then some v else none) := by
  cases decoded : e.decoder.decode raw
    <;> simp [notice, decoded, live, Except.toOption, noting]

theorem notice_of_disposed (gone : e.disposed = true) (raw : Raw) :
    e.notice now raw = (e, none) := by
  cases decoded : e.decoder.decode raw <;> simp [notice, decoded, gone]

theorem live_of_arrival {raw : Raw} (arrival : e.arrival? event = some raw) :
    e.disposed = false := by
  cases gone : e.disposed with
  | false => rfl
  | true => simp [arrival?, gone] at arrival

theorem updates_published (channel : String) (v? : Option Value) :
    (published v?).filterMap (Effect.update? channel) =
      (v?.map (⟨channel, ·⟩)).toList := by
  cases v? <;> rfl

theorem updates_afterRead (channel : String) (t : Ticket) (p : Option Nat) :
    (e.afterRead now t p).2.filterMap (Effect.update? channel) = [] := by
  cases p <;> rfl

/-- A raw value that arrives is noticed, whichever way it came. -/
theorem step_of_arrival (now : Nat) {raw : Raw} (arrival : e.arrival? event = some raw) :
    (e.step now event).1.binding = (e.notice now raw).1.binding ∧
      ∀ channel, (e.step now event).2.filterMap (Effect.update? channel) =
        ((e.notice now raw).2.map (⟨channel, ·⟩)).toList := by
  have live := live_of_arrival arrival
  simp only [arrival?, live, Bool.false_eq_true, if_false] at arrival
  split at arrival
  · next raw' =>
      cases arrival
      exact ⟨rfl, fun channel => updates_published channel _⟩
  · next t raw' =>
      split at arrival
      · next awaited =>
          cases arrival
          cases stage : e.stage? t with
          | none => simp [stage] at awaited
          | some p =>
              cases p with
              | reading d poller =>
                  simp only [step, reply, stage]
                  refine ⟨afterRead_binding .., fun channel => ?_⟩
                  rw [List.filterMap_append, updates_published, updates_afterRead,
                    List.append_nil]
              | _ => simp [stage, Stage.isReading] at awaited
      · contradiction
  · contradiction

/-- While nothing arrives nothing is published, and a live engine keeps what it published
last. -/
theorem Move.quiet (move : Move e now event s) (quiet : e.arrival? event = none)
    (channel : String) :
    s.2.filterMap (Effect.update? channel) = [] ∧
      (s.1.disposed = false → s.1.binding.lastValue = e.binding.lastValue) := by
  cases move with
  | idle | enqueued | turnedAway | stayedFailed | bindSent | stored | reportSent
  | resolveSent | dropped | resolveFailed | reopenedLate | reopened | readSent
  | disposedAgain | unlistened | pollStarted | rested | pollerStopped =>
      exact ⟨rfl, fun _ => rfl⟩
  | bound | settled => exact ⟨rfl, fun _ => Binding.mark_lastValue _ _⟩
  | readSkipped | readOver =>
      exact ⟨updates_afterRead ..,
        fun _ => congrArg Binding.lastValue (afterRead_binding ..)⟩
  | readFailed =>
      refine ⟨updates_afterRead .., fun _ => ?_⟩
      rw [afterRead_binding]
      exact Binding.mark_lastValue _ _
  | disposed => exact ⟨rfl, fun live => by cases live⟩
  | readNoted stage live => simp [arrival?, live, stage, Stage.isReading] at quiet
  | noted live => simp [arrival?, live] at quiet

end

section
variable {spec : Spec} {h : History} {e : Engine} {now : Nat} {event : Event}

@[simp] theorem afterRead_spec (t : Ticket) (p : Option Nat) :
    (e.afterRead now t p).1.channel = e.channel ∧
    (e.afterRead now t p).1.decoder = e.decoder := by
  cases p <;> exact ⟨rfl, rfl⟩

theorem RunOf.channel_decoder (run : RunOf spec h e) :
    e.channel = spec.channel ∧ e.decoder = spec.decoder := by
  apply run.invariant
  · intro e opened
    obtain ⟨c, -, rfl⟩ := Option.map_eq_some_iff.mp opened
    exact ⟨rfl, rfl⟩
  · intro e now event s move inv
    cases move with
    | readSkipped | readNoted | readFailed | readOver =>
        simpa [noting, transition] using inv
    | _ => exact inv

/-- A step publishes its reading if it has one that is new, and takes note of it. -/
theorem step_of_reading (e : Engine) (now : Nat) (event : Event) :
    match reading? e.decoder (.taken step e now event) with
    | none => (∀ channel, (e.step now event).2.filterMap (Effect.update? channel) = []) ∧
        ((e.step now event).1.disposed = false →
          (e.step now event).1.binding.lastValue = e.binding.lastValue)
    | some v => e.disposed = false ∧
        (∀ channel, (e.step now event).2.filterMap (Effect.update? channel) =
          if e.binding.isNew v then [⟨channel, v⟩] else []) ∧
        (e.step now event).1.binding = e.binding.record v now := by
  simp only [reading?, Moment.taken]
  cases arrival : e.arrival? event with
  | none =>
      have move := step_move e now event
      exact ⟨fun channel => (move.quiet arrival channel).1, (move.quiet arrival "").2⟩
  | some raw =>
      have live := live_of_arrival arrival
      obtain ⟨binding, effects⟩ := step_of_arrival now arrival
      rw [notice_of_live live] at binding effects
      simp only [Option.bind_some]
      cases decoded : (e.decoder.decode raw).toOption with
      | none =>
          rw [decoded] at binding effects
          exact ⟨effects, fun _ => congrArg Binding.lastValue binding⟩
      | some v =>
          rw [decoded] at binding effects
          refine ⟨live, fun channel => ?_, binding⟩
          rw [effects]
          dsimp only
          cases e.binding.isNew v <;> rfl

/-- What a step publishes is its reading, if there is one and it is new; that is then the
last one. -/
theorem step_publishes (e : Engine) (now : Nat) (event : Event) {last? : Option Value}
    (stands : e.disposed = false → Stands e.binding.lastValue last?) :
    (∀ channel, (e.step now event).2.filterMap (Effect.update? channel) =
      match reading? e.decoder (.taken step e now event) with
      | none => []
      | some v => if v.repeats last? then [] else [⟨channel, v⟩]) ∧
    ((e.step now event).1.disposed = false →
      Stands (e.step now event).1.binding.lastValue
        ((reading? e.decoder (.taken step e now event)).or last?)) := by
  have noted := step_of_reading e now event
  cases reading : reading? e.decoder (.taken step e now event) with
  | none =>
      simp only [reading] at noted
      refine ⟨noted.1, fun live => ?_⟩
      rw [noted.2 live]
      exact stands ((step_move e now event).live_before live)
  | some v =>
      simp only [reading] at noted
      obtain ⟨live, effects, binding⟩ := noted
      refine ⟨fun channel => ?_, fun _ => ?_⟩
      · rw [effects, (stands live).isNew]
        dsimp only
        cases v.repeats last? <;> rfl
      · rw [binding]
        exact stands_record e.binding v now

theorem RunOf.publications (run : RunOf spec h e) :
    updates h = (Value.changes (readings spec.decoder h)).map (⟨spec.channel, ·⟩) ∧
      (e.disposed = false →
        Stands e.binding.lastValue (readings spec.decoder h).getLast?) := by
  refine run.induct
    (P := fun h e =>
      updates h = (Value.changes (readings spec.decoder h)).map (⟨spec.channel, ·⟩) ∧
      (e.disposed = false →
        Stands e.binding.lastValue (readings spec.decoder h).getLast?))
    ?_ ?_
  · intro e opened
    obtain ⟨c, -, rfl⟩ := Option.map_eq_some_iff.mp opened
    exact ⟨rfl, fun _ => Or.inl rfl⟩
  · intro h e now event run ih
    obtain ⟨earlier, stands⟩ := ih
    obtain ⟨channel, decoder⟩ := run.channel_decoder
    obtain ⟨published, stands⟩ := step_publishes e now event stands
    rw [decoder] at published stands
    have effects : updates (h ++ [.taken step e now event]) =
        updates h ++ (e.step now event).2.filterMap (Effect.update? spec.channel) := by
      rw [updates_snoc, ← channel]
      rfl
    rw [effects, readings_snoc, earlier, published spec.channel]
    cases reading : reading? spec.decoder (.taken step e now event) with
    | none =>
        rw [reading] at stands
        simpa using stands
    | some v =>
        rw [reading] at stands
        refine ⟨?_, fun live => by simpa using stands live⟩
        rw [Option.toList_some, Value.changes_snoc, List.map_append]
        dsimp only
        split <;> rfl

/-- A notification is a reading of a live engine if its value can be decoded. -/
theorem live_notified (live : e.disposed = false) (now : Nat) (raw : Raw) :
    (e.step now (.notify raw)).1.disposed = false ∧ ∀ d h,
      readings d (h ++ [.taken step e now (.notify raw)]) =
        readings d h ++ (d.decode raw).toOption.toList := by
  constructor
  · simp only [step, notice_of_live live]
    split <;> exact live
  · intro d h
    rw [readings_snoc]
    simp [reading?, arrival?, Moment.taken, live]

/-- Over its whole life an engine gives its channel exactly the readings that differ from
the one right before them, whatever else it does in between. A notification is reported as
published exactly if it was, which is when its value can be decoded and does not repeat
the reading before it. -/
theorem publishes_changes (run : RunOf spec h e) :
    updates h = (Value.changes (readings spec.decoder h)).map (⟨spec.channel, ·⟩) ∧
    ∀ h₁ m h₂ raw, h = h₁ ++ m :: h₂ → m.event = .notify raw →
      ((m.before.notice m.now raw).2.isSome = true ↔ ∃ v, .publish v ∈ m.effects) ∧
      ((m.before.notice m.now raw).2.isSome = true ↔
        ∃ v, reading? spec.decoder m = some v ∧
          v.repeats (readings spec.decoder h₁).getLast? = false) := by
  refine ⟨run.publications.1, ?_⟩
  intro h₁ m h₂ raw split event
  subst split
  obtain ⟨before, taken⟩ := run.reaches_before
  have effects : m.effects = published (m.before.notice m.now raw).2 := by
    rw [taken, event]
    rfl
  constructor
  · rw [effects]
    cases (m.before.notice m.now raw).2 <;> simp [published]
  · obtain ⟨-, decoder⟩ := before.channel_decoder
    cases gone : m.before.disposed with
    | true => simp [notice_of_disposed gone, reading?, arrival?, gone]
    | false =>
        have stands := before.publications.2 gone
        rw [notice_of_live gone, decoder]
        simp only [reading?, arrival?, gone, event, Bool.false_eq_true, if_false,
          Option.bind_some]
        cases (spec.decoder.decode raw).toOption with
        | none => simp
        | some v => simp [stands.isNew]

/-- The hall sensor notices someone twice while it is activated, is opened anew after its
gateway was closed, and then reads that someone is still there before a notification says
that nobody is. -/
def lingering : List (Nat × Event) :=
  [(0, .notify (.bool true)), (1, .start 0 (.exchange .activate)),
    (2, .notify (.text "?")),
    (3, .notify (.integer 1)), (4, .reply 0 (.fault .gatewayClosed)),
    (5, .start 1 (.exchange .reopen)),
    (6, .reply 1 .ok), (7, .start 2 .refresh), (8, .reply 2 (.reading (.bool true))),
    (9, .notify (.bool false))]

theorem lingering_publishes_twice :
    let (h, e) := play step hallEngine lingering
    RunOf hallSensor h e ∧
      readings hallSensor.decoder h = [.onOff true, .onOff true, .onOff true,
        .onOff false] ∧
      updates h = [⟨"occupancy", .onOff true⟩, ⟨"occupancy", .onOff false⟩] := by
  have run := RunOf.play_hall lingering
  have heard : readings hallSensor.decoder (play step hallEngine lingering).1 =
      [.onOff true, .onOff true, .onOff true, .onOff false] := by decide
  have law := (publishes_changes run).1
  rw [heard] at law
  exact ⟨run, heard, law⟩

end
end Engine
end MeshReadings
