import MeshReadings.Proofs.Engine.Commands

/-!
What a live engine at rest knows of its device. While no exchange is in progress, a
binding that reports was set up by the last configuration sent, which the device accepted
and which is still in force, and a binding that is polled has a period that the policy or
the configuration gives.
-/

namespace MeshReadings

theorem Binary64.eq_or_zero_of_same {x y : Binary64} (same : x.same y = true) :
    x = y ∨ x.magnitude = 0 ∧ y.magnitude = 0 := by
  simp only [Binary64.same, Bool.and_eq_true, beq_iff_eq] at same
  have ranks := same.2
  obtain ⟨negative, magnitude⟩ := x
  obtain ⟨negative', magnitude'⟩ := y
  cases negative <;> cases negative'
    <;> simp only [rank, Bool.false_eq_true, ite_true, ite_false] at ranks
  · exact Or.inl (by congr 1; omega)
  · exact Or.inr (by constructor <;> dsimp only <;> omega)
  · exact Or.inr (by constructor <;> dsimp only <;> omega)
  · exact Or.inl (by congr 1; omega)

namespace Reporting

/-- The same change, where zeros count as one whatever their signs. -/
def SameChange (a b : Option Binary64) : Prop :=
  a = b ∨ ∃ x y, a = some x ∧ b = some y ∧ x.magnitude = 0 ∧ y.magnitude = 0

theorem SameChange.trans {a b c : Option Binary64} (first : SameChange a b)
    (second : SameChange b c) : SameChange a c := by
  obtain rfl | ⟨x, y, rfl, rfl, none, none'⟩ := first
  · exact second
  · obtain rfl | ⟨y', z, same, rfl, -, none''⟩ := second
    · exact Or.inr ⟨x, y, rfl, rfl, none, none'⟩
    · exact Or.inr ⟨x, z, rfl, rfl, none, none''⟩

theorem sameChange_of_same {a b : Option Binary64}
    (same : sameOption Binary64.same a b = true) : SameChange a b := by
  cases a with
  | none => cases b with
    | none => exact Or.inl rfl
    | some y => simp [sameOption] at same
  | some x => cases b with
    | none => simp [sameOption] at same
    | some y =>
        obtain rfl | ⟨none, none'⟩ := Binary64.eq_or_zero_of_same same
        · exact Or.inl rfl
        · exact Or.inr ⟨x, y, rfl, rfl, none, none'⟩

theorem Config.update_of_quiet {c : Config} {u : Update}
    (quiet : c.isChangedBy u = false) :
    (c.update u).minInterval = c.minInterval ∧ (c.update u).maxInterval = c.maxInterval ∧
      SameChange c.change (c.update u).change ∧
      (c.update u).pollingPeriod = c.pollingPeriod := by
  simp only [isChangedBy, Bool.not_eq_false', same, Bool.and_eq_true, beq_iff_eq] at quiet
  obtain ⟨⟨⟨⟨min, max⟩, change⟩, -⟩, period⟩ := quiet
  refine ⟨min, max, ?_, period⟩
  obtain same | ⟨x, y, left, right, none, none'⟩ := sameChange_of_same change
  · exact Or.inl same.symm
  · exact Or.inr ⟨y, x, right, left, none', none⟩

end Reporting

namespace Engine
open Binding (Mark)

/-- A reporting configuration as it was sent, and the answer to it that came in time. -/
structure Instruction where
  ticket : Ticket
  min : Nat
  max : Nat
  change : Option Binary64
  answer : Option Reply

def Effect.instruction? : Effect → Option Instruction
  | .call t (.report min max change) => some ⟨t, min, max, change, none⟩
  | _ => none

namespace Instruction

/-- An instruction is answered by a reply to its operation while that awaits one. -/
def hear (i : Instruction) (m : Moment) : Instruction :=
  match m.event with
  | .reply t r =>
    if t = i.ticket ∧ (m.before.stage? t).any Stage.isConfiguring then
      { i with answer := some r }
    else i
  | _ => i

def Carries (i : Instruction) (c : Reporting.Config) : Prop :=
  i.min = c.minInterval ∧ i.max = c.maxInterval ∧ Reporting.SameChange i.change c.change

end Instruction

/-- The last instruction after one more moment. -/
def hearing (last? : Option Instruction) (m : Moment) : Option Instruction :=
  (m.effects.filterMap Effect.instruction?).getLast?.or (last?.map (·.hear m))

def lastInstruction? (h : History) : Option Instruction := h.foldl hearing none

theorem lastInstruction?_snoc (h : History) (m : Moment) :
    lastInstruction? (h ++ [m]) = hearing (lastInstruction? h) m := by
  simp [lastInstruction?]

/-- The periods to poll with. -/
def Allows (p : PollingPolicy) (c : Reporting.Config) (period : Nat) : Prop :=
  period = p.normal.toNat ∨ period = p.high.toNat ∨ period = c.pollingPeriod

/-- What holds while no command is in flight. -/
structure Concord (b : Binding) (c : Reporting.Config) (p : PollingPolicy)
    (last? : Option Instruction) : Prop where
  decided : b.state ≠ .bound
  reporting : b.state = .reporting →
      ∃ i r, last? = some i ∧ i.answer = some r ∧ r.isSuccess = true ∧
    i.Carries c ∧ b.period = c.maxInterval
  polling : b.state = .polling → Allows p c b.period

/-- What holds of a command in flight. -/
def Stage.Pends (c : Reporting.Config) (p : PollingPolicy) (t : Ticket)
    (last? : Option Instruction) : Stage → Prop
  | .binding min max change _ =>
      min = c.minInterval ∧ max = c.maxInterval ∧ change = c.change
  | .configuring refusedPeriod faultPeriod max _ =>
    max = c.maxInterval ∧ Allows p c refusedPeriod ∧ Allows p c faultPeriod ∧
      ∃ i, last? = some i ∧ i.ticket = t ∧ i.Carries c
  | _ => True

structure Agreement (e : Engine) (last? : Option Instruction) : Prop where
  pending : ∀ t s, e.command? t = some s → s.Pends e.config e.polling t last?
  settled : Quiet e → Concord e.binding e.config e.polling last?

section
variable {c : Reporting.Config} {p : PollingPolicy} {b : Binding}
  {last? : Option Instruction} {m : Moment}

theorem Instruction.hear_eq (i : Instruction) (m : Moment) :
    ∃ a, i.hear m = { i with answer := a } := by
  simp only [hear]
  split
  · split
    · exact ⟨_, rfl⟩
    · exact ⟨i.answer, rfl⟩
  · exact ⟨i.answer, rfl⟩

theorem Instruction.Carries.hear {i : Instruction} (carries : i.Carries c) :
    (i.hear m).Carries c := by
  obtain ⟨a, heard⟩ := i.hear_eq m
  rw [heard]
  exact carries

theorem Instruction.hear_answer {i : Instruction} {r : Reply} {s : Stage}
    (event : m.event = .reply i.ticket r) (stage : m.before.stage? i.ticket = some s)
    (configuring : s.isConfiguring = true) : (i.hear m).answer = some r := by
  simp [hear, event, stage, configuring]

theorem Instruction.hear_of_quiet (quiet : Quiet m.before) (i : Instruction) :
    i.hear m = i := by
  simp only [hear]
  split
  · next t r event =>
      have none : (m.before.stage? t).any Stage.isConfiguring = false := by
        cases stage : m.before.stage? t with
        | none => rfl
        | some s =>
            have off := quiet t
            rw [command?_of_stage stage] at off
            cases s with
            | configuring _ _ _ _ => simp [Stage.isCommand] at off
            | _ => rfl
      simp [none]
  · rfl

theorem hearing_of_mute (mute : ∀ t c, .call t c ∈ m.effects → c.negotiates = false) :
    hearing last? m = last?.map (·.hear m) := by
  have none : m.effects.filterMap Effect.instruction? = [] := by
    rw [List.filterMap_eq_nil_iff]
    intro fx member
    cases fx with
    | call t c => cases c with
      | report _ _ _ => exact absurd (mute t _ member) (by simp [Call.negotiates])
      | _ => rfl
    | _ => rfl
  simp [hearing, none]

theorem hearing_of_quiet (quiet : Quiet m.before)
    (mute : ∀ t c, .call t c ∈ m.effects → c.negotiates = false) :
    hearing last? m = last? := by
  rw [hearing_of_mute mute]
  cases last? with
  | none => rfl
  | some i => exact congrArg some (i.hear_of_quiet quiet)

theorem Stage.Pends.hear {t : Ticket} {s : Stage} (pends : s.Pends c p t last?) :
    s.Pends c p t (last?.map (·.hear m)) := by
  cases s with
  | configuring _ _ _ _ =>
      obtain ⟨max, refused, fault, i, rfl, ticket, carries⟩ := pends
      obtain ⟨a, heard⟩ := i.hear_eq m
      have same : (i.hear m).ticket = i.ticket := by rw [heard]
      exact ⟨max, refused, fault, i.hear m, rfl, same.trans ticket, carries.hear⟩
  | _ => exact pends

theorem concord_of_state (off : b.state = .failed ∨ b.state = .unbound) :
    Concord b c p last? := by
  obtain state | state := off
  all_goals refine ⟨?_, ?_, ?_⟩ <;> simp [state]

theorem Concord.update {u : Reporting.Update} (concord : Concord b c p last?)
    (why : c.isChangedBy u = false ∨ b.state = .unbound ∨ b.state = .failed) :
    Concord b (c.update u) p last? := by
  obtain quiet | off := why
  · obtain ⟨min, max, change, period⟩ := Reporting.Config.update_of_quiet quiet
    refine ⟨concord.decided, fun reporting => ?_, fun polling => ?_⟩
    · obtain ⟨i, r, last, answer, success, ⟨sentMin, sentMax, sentChange⟩, ceiling⟩ :=
        concord.reporting reporting
      refine ⟨i, r, last, answer, success, ⟨?_, ?_, sentChange.trans change⟩, ?_⟩
      · rw [sentMin, min]
      · rw [sentMax, max]
      · rw [ceiling, max]
    · have allowed := concord.polling polling
      rwa [Allows, period]
  · exact concord_of_state off.symm

theorem concord_failed : Concord (b.mark .failed) c p last? := by
  refine concord_of_state (.inl ?_)
  rw [b.mark_state]
  split <;> rfl

theorem concord_polling {period : Nat} (allowed : Allows p c period) :
    Concord (b.mark (.polling period)) c p last? := by
  by_cases failed : b.state = .failed
  · exact concord_of_state (.inl (by rw [b.mark_state, if_pos failed]))
  · have state : (b.mark (.polling period)).state = .polling := by
      rw [b.mark_state, if_neg failed]; rfl
    refine ⟨by simp [state], by simp [state], fun _ => ?_⟩
    rwa [b.mark_period _ failed]

theorem concord_reporting {i : Instruction} {r : Reply} {max : Nat}
    (answer : i.answer = some r) (success : r.isSuccess = true) (carries : i.Carries c)
    (ceiling : max = c.maxInterval) : Concord (b.mark (.reporting max)) c p (some i) := by
  by_cases failed : b.state = .failed
  · exact concord_of_state (.inl (by rw [b.mark_state, if_pos failed]))
  · have state : (b.mark (.reporting max)).state = .reporting := by
      rw [b.mark_state, if_neg failed]; rfl
    refine ⟨by simp [state], fun _ => ⟨i, r, rfl, answer, success, carries, ?_⟩,
      by simp [state]⟩
    rw [b.mark_period _ failed]
    exact ceiling

end

section
variable {e : Engine} {now : Nat} {event : Event} {s : Step} {last? : Option Instruction}

theorem Settles.concord {t : Ticket} {mark : Mark} {after : Engine} {fx : List Effect}
    (settles : Settles e now event t mark) (inv : Agreement e last?) :
    Concord (e.binding.mark mark) e.config e.polling
      (last?.map (·.hear ⟨now, event, e, after, fx⟩)) := by
  have pending {p : Stage} (stage : e.stage? t = some p) (command : p.isCommand = true) :
      p.Pends e.config e.polling t last? := by
    refine inv.pending t p ?_
    rw [command?_of_stage stage, if_pos command]
  cases settles with
  | bindRefused | bindLost | bindExpired => exact concord_polling (.inr (.inl rfl))
  | bindFailed | reportFailed => exact concord_failed
  | reportRefused stage =>
      obtain ⟨-, refused, -, -⟩ := pending stage rfl
      exact concord_polling refused
  | reportLost stage | reportExpired stage =>
      obtain ⟨-, -, fault, -⟩ := pending stage rfl
      exact concord_polling fault
  | reportAccepted stage success =>
      obtain ⟨ceiling, -, -, i, rfl, rfl, carries⟩ := pending stage rfl
      exact concord_reporting (Instruction.hear_answer rfl stage rfl) success
        carries.hear ceiling

theorem agreement_wait {t : Ticket} {p : Stage} (alone : ∀ u, u ≠ t → e.command? u = none)
    (command : p.isCommand = true) (pends : p.Pends e.config e.polling t last?)
    (fx : List Effect) : Agreement (e.wait t p fx).1 last? := by
  constructor
  · intro u q flying
    obtain ⟨rfl, rfl⟩ := command?_put_alone alone flying
    exact pends
  · intro quiet
    have none := quiet t
    simp [command] at none

theorem agreement_finish {t : Ticket} (alone : ∀ u, u ≠ t → e.command? u = none)
    (o : Outcome) (concord : Concord e.binding e.config e.polling last?) :
    Agreement (e.finish t o).1 last? := by
  refine ⟨fun u q flying => ?_, fun _ => concord⟩
  rw [quiet_finish alone o u] at flying
  contradiction

theorem Aside.agreement (same : Aside e s.1)
    (mute : ∀ t c, .call t c ∈ s.2 → c.negotiates = false) (inv : Agreement e last?) :
    Agreement s.1 (hearing last? ⟨now, event, e, s.1, s.2⟩) := by
  refine ⟨fun t p command => ?_, fun quiet => ?_⟩
  · rw [hearing_of_mute mute, same.config, same.polling]
    exact (inv.pending t p (same.commands t ▸ command)).hear
  · have quiet : Quiet e := fun t => same.commands t ▸ quiet t
    obtain failed | ⟨state, period⟩ := same.binding
    · exact concord_of_state (.inl failed)
    · have concord := inv.settled quiet
      rw [hearing_of_quiet quiet mute, same.config, same.polling]
      have state : s.1.binding.state = e.binding.state := state
      refine ⟨state ▸ concord.decided, ?_, ?_⟩
      · rw [state, period]
        exact concord.reporting
      · rw [state, period]
        exact concord.polling

theorem Course.agreement (course : Course e now event s) (exclusive : Exclusive e)
    (honest : ∀ t, event ≠ .reply t (.fault .disposed)) (inv : Agreement e last?)
    (live : s.1.disposed = false) :
    Agreement s.1 (hearing last? ⟨now, event, e, s.1, s.2⟩) := by
  cases course with
  | aside same mute => exact same.agreement mute inv
  | claimedGone => exact absurd rfl (honest _)
  | disposed gone =>
      rw [live] at gone
      contradiction
  | bindSent takes =>
      apply agreement_wait
      · intro u _
        exact takes.quiet exclusive u
      · rfl
      · exact ⟨rfl, rfl, rfl⟩
  | stored takes why =>
      have quiet := takes.quiet exclusive
      apply agreement_finish
      · intro u _
        exact quiet u
      · rw [hearing_of_quiet quiet (by simp)]
        exact (inv.settled quiet).update why
  | reportSent takes =>
      apply agreement_wait
      · intro u _
        exact takes.quiet exclusive u
      · rfl
      · exact ⟨rfl, .inr (.inr rfl), .inr (.inr rfl), _, rfl, rfl, rfl, rfl, .inl rfl⟩
  | bound stage =>
      apply agreement_wait
      · intro u other
        exact exclusive.alone stage rfl other
      · rfl
      · obtain ⟨rfl, rfl, rfl⟩ := inv.pending _ _ (command?_of_stage stage)
        exact ⟨rfl, .inl rfl, .inr (.inl rfl), _, rfl, rfl, rfl, rfl, .inl rfl⟩
  | settled settles =>
      obtain ⟨p, stage, command⟩ := settles.stage
      apply agreement_finish
      · intro u other
        exact exclusive.alone stage (holdsLock_of_command command) other
      · rw [hearing_of_mute (by simp)]
        exact settles.concord inv
  | reopened stage =>
      apply agreement_finish
      · intro u other
        exact exclusive.alone stage rfl other
      · exact concord_of_state (.inr rfl)

end

section
variable {spec : Spec} {h : History} {e : Engine}

theorem Move.polling {now : Nat} {event : Event} {s : Step} (move : Move e now event s) :
    s.1.polling = e.polling := by
  cases move with
  | readSkipped | readNoted | readFailed | readOver => exact afterRead_polling ..
  | _ => rfl

theorem RunOf.polling (run : RunOf spec h e) : e.polling = spec.polling := by
  apply run.invariant
  · intro e opened
    exact (ofSpec?_eq_some opened).2.2.2
  · intro e now event s move inv
    exact move.polling.trans inv

theorem RunOf.agreement (run : RunOf spec h e) (honest : Honest h)
    (live : e.disposed = false) : Agreement e (lastInstruction? h) := by
  refine run.induct (P := fun h e => Honest h → e.disposed = false →
    Agreement e (lastInstruction? h)) ?_ ?_ honest live
  · intro e opened _ _
    obtain ⟨none, -, state, -⟩ := ofSpec?_eq_some opened
    refine ⟨fun t s command => ?_, fun _ => concord_of_state (.inr state)⟩
    simp [command?, stage?, none] at command
  · intro h e now event run ih honest live
    obtain ⟨earlier, honest⟩ := honest_snoc honest
    have move := step_move e now event
    have before := move.live_before live
    rw [lastInstruction?_snoc]
    exact (move.course before).agreement run.exclusive honest (ih earlier before) live

/-- No exchange is in progress. -/
def AtRest (e : Engine) : Prop := ∀ t s, e.stage? t = some s → s.isExchange = false

theorem atRest_of_idle (idle : e.operations = []) : AtRest e := by
  intro t s stage
  simp [stage?, idle] at stage

theorem AtRest.quiet (rest : AtRest e) : Quiet e := by
  intro t
  cases command : e.command? t with
  | none => rfl
  | some s =>
      obtain ⟨stage, command⟩ := stage?_of_command? command
      have other := rest t s stage
      cases s <;> simp [Stage.isCommand, Stage.isExchange] at command other

/-- When no exchange is in progress, a live engine is not in the middle of anything. If it
reports, the last configuration sent was accepted and is the one in force, up to the sign
of a zero, and its ceiling is the period; if it polls, the period comes from the policy or
the configuration. -/
theorem rest_agrees_with_device (run : RunOf spec h e) (honest : Honest h)
    (live : e.disposed = false) (rest : AtRest e) :
    e.state ≠ .bound ∧
    (e.state = .reporting →
      ∃ i r, lastInstruction? h = some i ∧ i.answer = some r ∧ r.isSuccess = true ∧
      i.min = e.config.minInterval ∧ i.max = e.config.maxInterval ∧
      Reporting.SameChange i.change e.config.change ∧
      e.binding.period = e.config.maxInterval) ∧
    (e.state = .polling → e.binding.period = spec.polling.normal.toNat ∨
      e.binding.period = spec.polling.high.toNat ∨
      e.binding.period = e.config.pollingPeriod) := by
  have concord := (run.agreement honest live).settled rest.quiet
  refine ⟨concord.decided, fun reporting => ?_, fun polling => ?_⟩
  · obtain ⟨i, r, last, answer, success, ⟨min, max, change⟩, ceiling⟩ :=
      concord.reporting reporting
    exact ⟨i, r, last, answer, success, min, max, change, ceiling⟩
  · rw [← run.polling]
    exact concord.polling polling

/-- The hall sensor is activated, and then asked to report no more than every thirty
seconds. -/
def slowedDown : List (Nat × Event) :=
  [(0, .start 0 (.exchange .activate)), (1, .reply 0 .ok), (2, .reply 0 .ok),
    (3, .start 1 (.exchange (.reconcile { minInterval := some 30 }))), (4, .reply 1 .ok)]

theorem slowed_down_agrees :
    let (h, e) := play step hallEngine slowedDown
    RunOf hallSensor h e ∧ Honest h ∧ e.disposed = false ∧ AtRest e ∧
    e.state = .reporting ∧
      ∃ i r, lastInstruction? h = some i ∧ i.answer = some r ∧ r.isSuccess = true ∧
        i.min = 30 := by
  have run := RunOf.play_hall slowedDown
  have honest : Honest (play step hallEngine slowedDown).1 := by
    simp [Honest, play, slowedDown, Moment.taken]
  have rest : AtRest (play step hallEngine slowedDown).2 := atRest_of_idle rfl
  obtain ⟨i, r, last, answer, success, min, -⟩ :=
    (rest_agrees_with_device run honest rfl rest).2.1 rfl
  exact ⟨run, honest, rfl, rest, rfl, i, r, last, answer, success, min⟩

/-- A sensor whose changes count from none on, between minus one and one. -/
def nullSensor : Spec :=
  { hallSensor with
    channel := "null"
    defaults := { change := some ⟨.zero, .neg (.ofNat 1), .ofNat 1⟩ } }

/-- It is activated, and then asked to report on changes of minus zero. -/
def signFlipped : List (Nat × Event) :=
  [(0, .start 0 (.exchange .activate)), (1, .reply 0 .ok), (2, .reply 0 .ok),
    (3, .start 1 (.exchange (.reconcile { change := some (.neg .zero) })))]

/-- Zeros count as one change, so the configuration may differ from what was sent in the
sign of a zero. -/
theorem zero_sign_not_sent :
    ¬ ∀ spec h e, RunOf spec h e → Honest h → e.disposed = false → AtRest e →
      e.state = .reporting →
      ∃ i, lastInstruction? h = some i ∧ i.change = e.config.change := by
  intro exactly
  have run : RunOf nullSensor _ _ := RunOf.play rfl signFlipped
  obtain ⟨i, last, change⟩ :=
    exactly _ _ _ run (by simp [Honest, play, signFlipped, Moment.taken]) rfl
      (atRest_of_idle rfl) rfl
  cases last
  cases change

end

end Engine
end MeshReadings
