import MeshReadings.Proofs.Engine.Commands

/-!
How an exchange of commands goes when nobody else uses the engine. Which calls it makes,
and how it leaves the binding, depends on the answers alone, silence until the deadline
being one of them. Each row of `Activation` and `Reconciliation` says how the exchange
stands after some answers, and every further answer leads from row to row.
-/

namespace MeshReadings

/-- What an answer means for the command: a device took it or refused it, or no device
answered, which polling can make up for or not. -/
inductive Verdict
  | accepted
  | refused
  | lost
  | fatal
deriving DecidableEq

def Reply.verdict : Reply → Verdict
  | .ok | .reading _ => .accepted
  | .refused _ => .refused
  | .fault f => if f.isRecoverable then .lost else .fatal

/-- The mark that an answer calls for; a fatal one always fails the binding. -/
def Verdict.mark (accepted refused lost : Binding.Mark) : Verdict → Binding.Mark
  | .accepted => accepted
  | .refused => refused
  | .lost => lost
  | .fatal => .failed

namespace Engine
open Binding (Mark)

def Effect.callOf? (t : Ticket) : Effect → Option Call
  | .call u c => if u = t then some c else none
  | _ => none

def Effect.outcomeOf? (t : Ticket) : Effect → Option Outcome
  | .finish u o => if u = t then some o else none
  | _ => none

/-- The calls that an operation has made. -/
def callsOf (t : Ticket) (h : History) : List Call :=
  (h.flatMap (·.effects)).filterMap (Effect.callOf? t)

/-- What an operation has returned. -/
def outcomesOf (t : Ticket) (h : History) : List Outcome :=
  (h.flatMap (·.effects)).filterMap (Effect.outcomeOf? t)

/-- The answer that an event brings to an operation: a reply, or silence until its
deadline. -/
def answer? (t : Ticket) (m : Moment) : Option Reply :=
  match m.event with
  | .reply u r => if u = t then some r else none
  | .expire u =>
    if u = t ∧ (m.before.deadline? t).any (· ≤ m.now) then
      some (.fault (.timeout m.before.timeout))
    else none
  | _ => none

/-- The answer to a command in flight, with its time. -/
def heard? (t : Ticket) (m : Moment) : Option (Nat × Reply) :=
  if (m.before.command? t).isSome then (answer? t m).map ((m.now, ·)) else none

def answersTo (t : Ticket) (h : History) : List (Nat × Reply) := h.filterMap (heard? t)

/-- Only the operation moves, or a reading arrives, and the gateway never claims that the
engine was disposed. -/
def Alone (t : Ticket) (m : Moment) : Prop :=
  m.event.wakes? = some t ∧ m.event ≠ .reply t (.fault .disposed) ∨
    ∃ raw, m.event = .notify raw

/-- How an exchange stands: the calls it has made, the state and period of the binding,
what it has returned, and where it waits. -/
structure StandsAt (t : Ticket) (h : History) (e : Engine) (calls : List Call)
    (s : BindingState) (period : Nat) (outcomes : List Outcome) (stage : Option Stage) :
    Prop where
  calls : callsOf t h = calls
  state : e.state = s
  period : e.binding.period = period
  outcomes : outcomesOf t h = outcomes
  stage : e.stage? t = stage

abbrev Waits (t : Ticket) (h : History) (e : Engine) (calls : List Call)
    (s : BindingState) (period : Nat) (stage : Stage) : Prop :=
  StandsAt t h e calls s period [] (some stage)

abbrev Ends (t : Ticket) (h : History) (e : Engine) (calls : List Call) (s : BindingState)
    (period : Nat) : Prop :=
  StandsAt t h e calls s period [.settled s] none

/-- How the activation of an engine stands after the answers to its commands. -/
inductive Activation (e : Engine) (now : Nat) (t : Ticket) (h : History) (e' : Engine) :
    List (Nat × Reply) → Prop
  | asked
      (waits : Waits t h e' [.bind] e.state e.binding.period
        (.binding e.config.minInterval e.config.maxInterval e.config.change
          (now + e.timeout))) :
      Activation e now t h e' []
  | unbound {at₁ a} (why : a.verdict = .refused ∨ a.verdict = .lost)
      (ends : Ends t h e' [.bind] .polling e.polling.high.toNat) :
      Activation e now t h e' [(at₁, a)]
  | bindFatal {at₁ a} (why : a.verdict = .fatal)
      (ends : Ends t h e' [.bind] .failed e.binding.period) :
      Activation e now t h e' [(at₁, a)]
  | bound {at₁ a} (why : a.verdict = .accepted)
      (waits : Waits t h e' [.bind, report e.config] .bound e.binding.period
        (.configuring e.polling.normal.toNat e.polling.high.toNat e.config.maxInterval
          (at₁ + e.timeout))) :
      Activation e now t h e' [(at₁, a)]
  | accepted {at₁ a at₂ b} (first : a.verdict = .accepted) (why : b.verdict = .accepted)
      (ends : Ends t h e' [.bind, report e.config] .reporting e.config.maxInterval) :
      Activation e now t h e' [(at₁, a), (at₂, b)]
  | refused {at₁ a at₂ b} (first : a.verdict = .accepted) (why : b.verdict = .refused)
      (ends : Ends t h e' [.bind, report e.config] .polling e.polling.normal.toNat) :
      Activation e now t h e' [(at₁, a), (at₂, b)]
  | lost {at₁ a at₂ b} (first : a.verdict = .accepted) (why : b.verdict = .lost)
      (ends : Ends t h e' [.bind, report e.config] .polling e.polling.high.toNat) :
      Activation e now t h e' [(at₁, a), (at₂, b)]
  | fatal {at₁ a at₂ b} (first : a.verdict = .accepted) (why : b.verdict = .fatal)
      (ends : Ends t h e' [.bind, report e.config] .failed e.binding.period) :
      Activation e now t h e' [(at₁, a), (at₂, b)]

/-- How a reconciliation that has something to tell the device stands after the answer. -/
inductive Reconciliation (e : Engine) (c : Reporting.Config) (now : Nat) (t : Ticket)
    (h : History) (e' : Engine) :
    List (Nat × Reply) → Prop
  | asked
      (waits : Waits t h e' [report c] e.state e.binding.period
        (.configuring c.pollingPeriod c.pollingPeriod c.maxInterval (now + e.timeout))) :
      Reconciliation e c now t h e' []
  | accepted {at₁ a} (why : a.verdict = .accepted)
      (ends : Ends t h e' [report c] .reporting c.maxInterval) :
      Reconciliation e c now t h e' [(at₁, a)]
  | missed {at₁ a} (why : a.verdict = .refused ∨ a.verdict = .lost)
      (ends : Ends t h e' [report c] .polling c.pollingPeriod) :
      Reconciliation e c now t h e' [(at₁, a)]
  | fatal {at₁ a} (why : a.verdict = .fatal)
      (ends : Ends t h e' [report c] .failed e.binding.period) :
      Reconciliation e c now t h e' [(at₁, a)]

/-- The end of an exchange with a mark on the binding. -/
def conclude (e : Engine) (t : Ticket) (m : Mark) : Step :=
  (e.transition (·.mark m)).finish t (.settled (e.binding.mark m).state)

/-- Nothing differs but the last reading. -/
structure OnlyReads (e e' : Engine) : Prop where
  rest : e' = { e with binding := e'.binding }
  state : e'.state = e.state
  period : e'.binding.period = e.binding.period

/-- What stays as it is in all of an exchange once it has begun. -/
structure Steady (e : Engine) (c : Reporting.Config) (e' : Engine) : Prop where
  config : e'.config = c
  polling : e'.polling = e.polling
  timeout : e'.timeout = e.timeout
  live : e'.disposed = false

section
variable {e e' e'' : Engine} {now : Nat} {t : Ticket} {event : Event} {h : History}
  {m : Moment} {r : Reply}

theorem callsOf_snoc (t : Ticket) (h : History) (m : Moment) :
    callsOf t (h ++ [m]) = callsOf t h ++ m.effects.filterMap (Effect.callOf? t) := by
  simp [callsOf]

theorem outcomesOf_snoc (t : Ticket) (h : History) (m : Moment) :
    outcomesOf t (h ++ [m]) =
      outcomesOf t h ++ m.effects.filterMap (Effect.outcomeOf? t) := by
  simp [outcomesOf]

theorem answersTo_snoc (t : Ticket) (h : History) (m : Moment) :
    answersTo t (h ++ [m]) = answersTo t h ++ (heard? t m).toList := by
  simp [answersTo, List.filterMap_append, List.filterMap_cons]
  cases heard? t m <;> rfl

theorem onlyReads_self : OnlyReads e e := ⟨rfl, rfl, rfl⟩

theorem onlyReads_noting (v : Value) : OnlyReads e (e.noting now v) := ⟨rfl, rfl, rfl⟩

theorem Steady.onlyReads {c : Reporting.Config} (steady : Steady e c e')
    (reads : OnlyReads e' e'') : Steady e c e'' := by
  rw [reads.rest]
  exact ⟨steady.config, steady.polling, steady.timeout, steady.live⟩

/-- Who is not in progress cannot go on. -/
theorem step_of_absent (absent : e.stage? t = none) (wakes : event.wakes? = some t) :
    e.step now event = (e, []) := by
  cases event with
  | start _ _ | notify _ => cases wakes
  | proceed u | reply u _ | expire u | cancel u | tick u | notice u =>
      obtain rfl : u = t := Option.some.inj wakes
      simp [step, proceed, reply, expire, cancel, tick, restart, absent]

/-- A command of a live engine goes on with its answer only. -/
theorem step_of_unanswered (live : e.disposed = false) {s : Stage}
    (stage : e.stage? t = some s) (command : s.isCommand = true)
    (wakes : event.wakes? = some t)
    (silent : answer? t (.taken step e now event) = none) :
    e.step now event = (e, []) := by
  cases event with
  | start _ _ | notify _ => cases wakes
  | reply u _ =>
      obtain rfl : u = t := Option.some.inj wakes
      simp [answer?, Moment.taken] at silent
  | expire u =>
      obtain rfl : u = t := Option.some.inj wakes
      cases s with
      | binding _ _ _ d | configuring _ _ _ d =>
          have early : ¬ d ≤ now := by
            intro late
            simp [answer?, Moment.taken, deadline?, stage, late] at silent
          simp only [step, expire, stage, if_neg early]
      | _ => cases command
  | proceed u | cancel u | tick u | notice u =>
      obtain rfl : u = t := Option.some.inj wakes
      cases s with
      | binding _ _ _ _ | configuring _ _ _ _ =>
          simp [step, proceed, cancel, tick, restart, stage, live]
      | _ => cases command

/-- While no answer comes, nothing happens but that readings arrive. -/
theorem step_unheard (live : e.disposed = false)
    (waits : ∀ s, e.stage? t = some s → s.isCommand = true)
    (alone : Alone t (.taken step e now event))
    (silent : heard? t (.taken step e now event) = none) :
    OnlyReads e (e.step now event).1 ∧ ∀ fx ∈ (e.step now event).2, ∃ v,
      fx = .publish v := by
  obtain ⟨wakes, -⟩ | ⟨raw, arrives⟩ := alone
  · have idle : e.step now event = (e, []) := by
      cases stage : e.stage? t with
      | none => exact step_of_absent stage wakes
      | some s =>
          have awaited : (e.command? t).isSome := by
            simp [command?_of_stage stage, waits s stage]
          have none : answer? t (.taken step e now event) = none := by
            simpa [heard?, Moment.taken, awaited] using silent
          exact step_of_unanswered live stage (waits s stage) wakes none
    rw [idle]
    exact ⟨onlyReads_self, by simp⟩
  · obtain rfl : event = .notify raw := arrives
    simp only [step]
    obtain nothing | ⟨v, -, -, something⟩ := notice_cases e now raw
    · rw [nothing]
      exact ⟨onlyReads_self, by simp [published]⟩
    · rw [something]
      refine ⟨onlyReads_noting v, fun fx member => ?_⟩
      exact ⟨v, (mem_news.mp member).1⟩

theorem heard?_eq_some {at₁ : Nat} {a : Reply} (alone : Alone t (.taken step e now event))
    (heard : heard? t (.taken step e now event) = some (at₁, a)) :
    at₁ = now ∧ a ≠ .fault .disposed ∧ (event = .reply t a ∨
      event = .expire t ∧ a = .fault (.timeout e.timeout) ∧ ∃ d, e.deadline? t = some d ∧
        d ≤ now) := by
  simp only [heard?, Option.ite_none_right_eq_some, Option.map_eq_some_iff,
    Prod.mk.injEq] at heard
  obtain ⟨-, _, answers, rfl, rfl⟩ := heard
  refine ⟨rfl, ?_⟩
  cases event with
  | reply u r =>
      simp only [answer?, Moment.taken, Option.ite_none_right_eq_some,
        Option.some.injEq] at answers
      obtain ⟨rfl, rfl⟩ := answers
      obtain ⟨-, sound⟩ | ⟨raw, bad⟩ := alone
      · exact ⟨fun same => sound (same ▸ rfl), .inl rfl⟩
      · cases bad
  | expire u =>
      simp only [answer?, Moment.taken, Option.ite_none_right_eq_some, Option.some.injEq,
        Option.any_eq_true] at answers
      obtain ⟨⟨rfl, d, deadline, late⟩, rfl⟩ := answers
      exact ⟨by simp, .inr ⟨rfl, rfl, d, deadline, of_decide_eq_true late⟩⟩
  | start _ _ | proceed _ | cancel _ | tick _ | notice _ | notify _ =>
      simp [answer?, Moment.taken] at answers

theorem settle_eq (live : e.disposed = false) (m : Mark) :
    e.settle t (·.mark m) = e.conclude t m := by
  simp [settle, live, conclude]

theorem settleFault_eq (live : e.disposed = false) {f : Fault}
    (other : Reply.fault f ≠ .fault .disposed) (accepted refused : Mark) (period : Nat) :
    e.settleFault t f period =
      e.conclude t ((Reply.fault f).verdict.mark accepted refused (.polling period)) := by
  have other : f ≠ .disposed := fun same => other (same ▸ rfl)
  simp only [settleFault, if_neg other, settle_eq live, Reply.verdict]
  split <;> rfl

/-- The answer to a reporting configuration ends the exchange. -/
theorem step_report_answered {refusedPeriod faultPeriod max d at₁ : Nat} {a : Reply}
    (live : e.disposed = false)
    (stage : e.stage? t = some (.configuring refusedPeriod faultPeriod max d))
    (alone : Alone t (.taken step e now event))
    (heard : heard? t (.taken step e now event) = some (at₁, a)) :
    e.step now event =
      e.conclude t (a.verdict.mark (.reporting max) (.polling refusedPeriod)
        (.polling faultPeriod)) := by
  obtain ⟨-, sound, rfl | ⟨rfl, rfl, d', deadline, late⟩⟩ := heard?_eq_some alone heard
  · cases a with
    | ok | refused _ | reading _ =>
        simp only [step, reply, stage, settle_eq live]
        rfl
    | fault f =>
        simp only [step, reply, stage]
        exact settleFault_eq live sound _ _ _
  · obtain rfl : d = d' := by simpa [deadline?, stage] using deadline
    simp only [step, expire, stage, if_pos late]
    exact settleFault_eq live sound _ _ _

/-- The answer to a bind ends the exchange, or the configuration is sent. -/
theorem step_bind_answered {min max d at₁ : Nat} {change : Option Binary64} {a : Reply}
    (live : e.disposed = false) (stage : e.stage? t = some (.binding min max change d))
    (alone : Alone t (.taken step e now event))
    (heard : heard? t (.taken step e now event) = some (at₁, a)) :
    e.step now event =
      if a.verdict = .accepted then (e.transition (·.mark .bound)).wait t
        (.configuring e.normalPeriod e.highPeriod max (at₁ + e.timeout))
          [.call t (.report min max change)]
      else e.conclude t
          (a.verdict.mark .bound (.polling e.highPeriod) (.polling e.highPeriod)) := by
  obtain ⟨rfl, sound, rfl | ⟨rfl, rfl, d', deadline, late⟩⟩ := heard?_eq_some alone heard
  · cases a with
    | ok | reading _ => simp [step, reply, stage, live, Reply.verdict]
    | refused _ =>
        simp only [step, reply, stage, settle_eq live]
        rfl
    | fault f =>
        have missed : (Reply.fault f).verdict ≠ .accepted := by
          simp only [Reply.verdict]
          split <;> simp
        rw [if_neg missed]
        simp only [step, reply, stage]
        exact settleFault_eq live sound _ _ _
  · obtain rfl : d = d' := by simpa [deadline?, stage] using deadline
    simp only [step, expire, stage, if_pos late]
    exact settleFault_eq live sound _ _ _

end

section
variable {e : Engine} {now : Nat} {t : Ticket} {event : Event} {h : History}
  {cs : List Call} {s : BindingState} {period : Nat} {os : List Outcome}
  {stage : Option Stage}

/-- Without an answer, an exchange stands as it did. -/
theorem StandsAt.unheard (stands : StandsAt t h e cs s period os stage)
    (reads : OnlyReads e (e.step now event).1)
    (mute : ∀ fx ∈ (e.step now event).2, ∃ v, fx = .publish v) :
    StandsAt t (h ++ [.taken step e now event])
      (e.step now event).1 cs s period os stage := by
  have none {β : Type} {f : Effect → Option β}
      (skips : ∀ v, f (.publish v) = Option.none) :
      (e.step now event).2.filterMap f = [] := by
    rw [List.filterMap_eq_nil_iff]
    intro fx member
    obtain ⟨v, rfl⟩ := mute fx member
    exact skips v
  have operations : (e.step now event).1.stage? t = e.stage? t := by rw [reads.rest]; rfl
  refine ⟨?_, reads.state.trans stands.state, reads.period.trans stands.period, ?_,
    operations.trans stands.stage⟩
  · rw [callsOf_snoc, stands.calls, Moment.taken, none fun _ => rfl, List.append_nil]
  · rw [outcomesOf_snoc, stands.outcomes, Moment.taken, none fun _ => rfl,
      List.append_nil]

/-- An exchange that was waiting ends with a mark. -/
theorem StandsAt.conclude {m : Mark} (stands : StandsAt t h e cs s period [] stage)
    (sound : s ≠ .failed) (step : e.step now event = e.conclude t m) :
    Ends t (h ++ [.taken Engine.step e now event]) (e.step now event).1 cs m.state
      (m.period?.getD period) := by
  have sound : e.binding.state ≠ .failed := by
    have state : e.binding.state = s := stands.state
    rwa [state]
  have marked : (e.binding.mark m).state = m.state := by
    rw [Binding.mark_state, if_neg sound]
  refine ⟨?_, ?_, ?_, ?_, ?_⟩
  · simp [callsOf_snoc, stands.calls, Moment.taken, step, Engine.conclude, Effect.callOf?]
  · rw [step]
    exact marked
  · rw [step, ← stands.period]
    exact Binding.mark_period _ _ sound
  · simp [outcomesOf_snoc, stands.outcomes, Moment.taken, step, Engine.conclude,
      Effect.outcomeOf?, marked]
  · rw [step, Engine.conclude, stage?_finish, if_pos rfl]

/-- A bind that is accepted is followed by the configuration. -/
theorem StandsAt.configure {e' : Engine} {c : Reporting.Config} {later at₁ : Nat}
    (steady : Steady e c e')
    (waits : Waits t h e' cs s period (.binding c.minInterval c.maxInterval c.change now))
    (sound : s ≠ .failed)
    (step : e'.step later event = (e'.transition (·.mark .bound)).wait t
      (.configuring e'.normalPeriod e'.highPeriod c.maxInterval (at₁ + e'.timeout))
      [.call t (.report c.minInterval c.maxInterval c.change)]) :
    Waits t (h ++ [.taken Engine.step e' later event]) (e'.step later event).1
      (cs ++ [report c]) .bound period
      (.configuring e.polling.normal.toNat e.polling.high.toNat c.maxInterval
        (at₁ + e.timeout)) := by
  have sound : e'.binding.state ≠ .failed := by
    have state : e'.binding.state = s := waits.state
    rwa [state]
  refine ⟨?_, ?_, ?_, ?_, ?_⟩
  · simp [callsOf_snoc, waits.calls, Moment.taken, step, Effect.callOf?, report]
  · rw [step, wait_state, transition_state, Binding.mark_state, if_neg sound]
    rfl
  · rw [step, ← waits.period]
    exact Binding.mark_period _ _ sound
  · simp [outcomesOf_snoc, waits.outcomes, Moment.taken, step, Effect.outcomeOf?]
  · rw [step, stage?_wait, if_pos rfl, normalPeriod, highPeriod, steady.polling,
      steady.timeout]

theorem not_heard_of_absent (absent : e.stage? t = none) :
    heard? t (.taken step e now event) = none := by
  simp [heard?, Moment.taken, command?_fresh absent]

theorem command_of_stage (here : e.stage? t = stage)
    (command : ∀ p, stage = some p → p.isCommand = true) (p : Stage)
    (found : e.stage? t = some p) : p.isCommand = true :=
  command p (here.symm.trans found)

end

section
variable {e e' : Engine} {now later : Nat} {t : Ticket} {event : Event} {h : History}
  {as : List (Nat × Reply)} {c : Reporting.Config} {at₁ : Nat} {a : Reply}

/-- What waits at a command, or waits no more, is as it was after a step that brings no
answer. -/
theorem Steady.unheard (steady : Steady e c e') {cs : List Call} {s : BindingState}
    {period : Nat} {os : List Outcome} {stage : Option Stage}
    (command : ∀ p, stage = some p → p.isCommand = true)
    (alone : Alone t (.taken step e' later event))
    (silent : heard? t (.taken step e' later event) = none)
    (stands : StandsAt t h e' cs s period os stage) :
    StandsAt t (h ++ [.taken step e' later event]) (e'.step later event).1 cs s period
      os stage := by
  obtain ⟨reads, mute⟩ :=
    step_unheard steady.live (command_of_stage stands.stage command) alone silent
  exact stands.unheard reads mute

theorem Activation.unheard (inv : Activation e now t h e' as) (steady : Steady e c e')
    (alone : Alone t (.taken step e' later event))
    (silent : heard? t (.taken step e' later event) = none) :
    Activation e now t (h ++ [.taken step e' later event])
      (e'.step later event).1 as := by
  have waiting {cs s period p} (command : p.isCommand = true)
      (waits : Waits t h e' cs s period p) :
      Waits t (h ++ [.taken step e' later event]) (e'.step later event).1 cs s period p :=
    steady.unheard (fun q same => Option.some.inj same ▸ command) alone silent waits
  have ended {cs s period} (ends : Ends t h e' cs s period) :
      Ends t (h ++ [.taken step e' later event]) (e'.step later event).1 cs s period :=
    steady.unheard nofun alone silent ends
  cases inv with
  | asked waits => exact .asked (waiting rfl waits)
  | unbound why ends => exact .unbound why (ended ends)
  | bindFatal why ends => exact .bindFatal why (ended ends)
  | bound why waits => exact .bound why (waiting rfl waits)
  | accepted first why ends => exact .accepted first why (ended ends)
  | refused first why ends => exact .refused first why (ended ends)
  | lost first why ends => exact .lost first why (ended ends)
  | fatal first why ends => exact .fatal first why (ended ends)

/-- Each answer leads to the next row. -/
theorem Activation.heard (inv : Activation e now t h e' as)
    (steady : Steady e e.config e') (sound : e.state ≠ .failed)
    (alone : Alone t (.taken step e' later event))
    (heard : heard? t (.taken step e' later event) = some (at₁, a)) :
    Activation e now t (h ++ [.taken step e' later event]) (e'.step later event).1
      (as ++ [(at₁, a)]) := by
  have ended {cs s period} (ends : Ends t h e' cs s period) : False := by
    rw [not_heard_of_absent ends.stage] at heard
    contradiction
  have high : e'.highPeriod = e.polling.high.toNat := by rw [highPeriod, steady.polling]
  cases inv with
  | unbound _ ends | bindFatal _ ends | accepted _ _ ends | refused _ _ ends
  | lost _ _ ends | fatal _ _ ends =>
      exact (ended ends).elim
  | asked waits =>
      have answered := step_bind_answered steady.live waits.stage alone heard
      cases verdict : a.verdict with
      | accepted =>
          rw [if_pos verdict] at answered
          exact .bound verdict (waits.configure steady sound answered)
      | refused =>
          rw [verdict, if_neg (by simp), high] at answered
          exact .unbound (.inl verdict) (waits.conclude sound answered)
      | lost =>
          rw [verdict, if_neg (by simp), high] at answered
          exact .unbound (.inr verdict) (waits.conclude sound answered)
      | fatal =>
          rw [verdict, if_neg (by simp)] at answered
          exact .bindFatal verdict (waits.conclude sound answered)
  | bound first waits =>
      have answered := step_report_answered steady.live waits.stage alone heard
      cases verdict : a.verdict with
      | accepted =>
          rw [verdict] at answered
          exact .accepted first verdict (waits.conclude (by simp) answered)
      | refused =>
          rw [verdict] at answered
          exact .refused first verdict (waits.conclude (by simp) answered)
      | lost =>
          rw [verdict] at answered
          exact .lost first verdict (waits.conclude (by simp) answered)
      | fatal =>
          rw [verdict] at answered
          exact .fatal first verdict (waits.conclude (by simp) answered)

theorem Activation.command (inv : Activation e now t h e' as) (p : Stage)
    (stage : e'.stage? t = some p) : p.isCommand = true := by
  cases inv with
  | asked waits | bound _ waits =>
      cases waits.stage.symm.trans stage
      rfl
  | unbound _ ends | bindFatal _ ends | accepted _ _ ends | refused _ _ ends
  | lost _ _ ends | fatal _ _ ends =>
      cases ends.stage.symm.trans stage

theorem Reconciliation.unheard (inv : Reconciliation e c now t h e' as)
    (steady : Steady e c e') (alone : Alone t (.taken step e' later event))
    (silent : heard? t (.taken step e' later event) = none) :
    Reconciliation e c now t (h ++ [.taken step e' later event])
      (e'.step later event).1 as := by
  have ended {cs s period} (ends : Ends t h e' cs s period) :
      Ends t (h ++ [.taken step e' later event]) (e'.step later event).1 cs s period :=
    steady.unheard nofun alone silent ends
  cases inv with
  | asked waits =>
      exact .asked
        (steady.unheard (fun _ same => Option.some.inj same ▸ rfl) alone silent waits)
  | accepted why ends => exact .accepted why (ended ends)
  | missed why ends => exact .missed why (ended ends)
  | fatal why ends => exact .fatal why (ended ends)

theorem Reconciliation.heard (inv : Reconciliation e c now t h e' as)
    (steady : Steady e c e') (sound : e.state ≠ .failed)
    (alone : Alone t (.taken step e' later event))
    (heard : heard? t (.taken step e' later event) = some (at₁, a)) :
    Reconciliation e c now t (h ++ [.taken step e' later event]) (e'.step later event).1
      (as ++ [(at₁, a)]) := by
  cases inv with
  | accepted _ ends | missed _ ends | fatal _ ends =>
      rw [not_heard_of_absent ends.stage] at heard
      contradiction
  | asked waits =>
      have answered := step_report_answered steady.live waits.stage alone heard
      cases verdict : a.verdict with
      | accepted =>
          rw [verdict] at answered
          exact .accepted verdict (waits.conclude sound answered)
      | refused =>
          rw [verdict] at answered
          exact .missed (.inl verdict) (waits.conclude sound answered)
      | lost =>
          rw [verdict] at answered
          exact .missed (.inr verdict) (waits.conclude sound answered)
      | fatal =>
          rw [verdict] at answered
          exact .fatal verdict (waits.conclude sound answered)

theorem Reconciliation.command (inv : Reconciliation e c now t h e' as) (p : Stage)
    (stage : e'.stage? t = some p) : p.isCommand = true := by
  cases inv with
  | asked waits =>
      cases waits.stage.symm.trans stage
      rfl
  | accepted _ ends | missed _ ends | fatal _ ends => cases ends.stage.symm.trans stage

theorem Steady.step (steady : Steady e c e')
    (command : ∀ p, e'.stage? t = some p → p.isCommand = true)
    (alone : Alone t (.taken step e' later event)) :
    Steady e c (e'.step later event).1 := by
  have concluded (m : Mark) : Steady e c (e'.conclude t m).1 :=
    ⟨steady.config, steady.polling, steady.timeout, steady.live⟩
  cases heard : heard? t (.taken Engine.step e' later event) with
  | none => exact steady.onlyReads (step_unheard steady.live command alone heard).1
  | some answer =>
      obtain ⟨at₁, a⟩ := answer
      cases stage : e'.stage? t with
      | none => cases (not_heard_of_absent stage).symm.trans heard
      | some p =>
          cases p with
          | binding _ _ _ _ =>
              rw [step_bind_answered steady.live stage alone heard]
              split
              · exact ⟨steady.config, steady.polling, steady.timeout, steady.live⟩
              · exact concluded _
          | configuring _ _ _ _ =>
              rw [step_report_answered steady.live stage alone heard]
              exact concluded _
          | _ => cases command _ stage

end

section
variable {e e' : Engine} {now : Nat} {t : Ticket} {h : History}

/-- What holds at the first call of an exchange and is kept by its answers, and by all
that happens between them, holds of the whole exchange. -/
theorem induct_answers {P : History → Engine → List (Nat × Reply) → Prop}
    {c : Reporting.Config} {e₁ : Engine} {first : Moment}
    (start : P [first] e₁ [] ∧ heard? t first = none ∧ Steady e c e₁)
    (command : ∀ h e' as, P h e' as → ∀ p, e'.stage? t = some p → p.isCommand = true)
    (unheard : ∀ h e' as later event, P h e' as → Steady e c e' →
      Alone t (.taken step e' later event) → heard? t (.taken step e' later event) =
      none → P (h ++ [.taken step e' later event]) (e'.step later event).1 as)
    (heard : ∀ h e' as later event answer, P h e' as → Steady e c e' → Alone t
      (.taken step e' later event) → heard? t (.taken step e' later event) = some answer →
      P (h ++ [.taken step e' later event]) (e'.step later event).1 (as ++ [answer]))
    (run : Run step e₁ h e') (alone : ∀ m ∈ h, Alone t m) :
    P (first :: h) e' (answersTo t (first :: h)) ∧ Steady e c e' := by
  induction run with
  | nil =>
      obtain ⟨begun, silent, steady⟩ := start
      have none : answersTo t [first] = [] := by simp [answersTo, silent]
      exact ⟨none ▸ begun, steady⟩
  | @snoc h e' run later event ih =>
      obtain ⟨inv, steady⟩ := ih fun m member => alone m (by simp [member])
      have last : Alone t (.taken step e' later event) := alone _ (by simp)
      refine ⟨?_, steady.step (command _ _ _ inv) last⟩
      rw [← List.cons_append, answersTo_snoc]
      cases answer : heard? t (.taken step e' later event) with
      | none => simpa using unheard _ _ _ later event inv steady last answer
      | some answered => exact heard _ _ _ later event answered inv steady last answer

theorem ends_at_once {e₀ : Engine} {event : Event} {s : BindingState}
    (state : e₀.state = s) (ended : e.step now event = e₀.finish t (.settled s)) :
    Ends t [.taken step e now event] (e.step now event).1 [] s e₀.binding.period := by
  refine ⟨?_, ?_, ?_, ?_, ?_⟩
  · simp [callsOf, Moment.taken, ended, Effect.callOf?]
  · rw [ended]
    exact state
  · rw [ended]
    rfl
  · simp [outcomesOf, Moment.taken, ended, Effect.outcomeOf?]
  · rw [ended, stage?_finish, if_pos rfl]

theorem waits_first {e₀ : Engine} {event : Event} {p : Stage} {call : Call}
    (begun : e.step now event = e₀.wait t p [.call t call]) :
    Waits t [.taken step e now event] (e.step now event).1
      [call] e₀.state e₀.binding.period p := by
  refine ⟨?_, ?_, ?_, ?_, ?_⟩
  · simp [callsOf, Moment.taken, begun, Effect.callOf?]
  · rw [begun]
    rfl
  · rw [begun]
    rfl
  · simp [outcomesOf, Moment.taken, begun, Effect.outcomeOf?]
  · rw [begun, stage?_wait, if_pos rfl]

/-- An exchange that has ended stays as it is. -/
theorem ended_stays {e₁ : Engine} {first : Moment} {c : Reporting.Config} {cs : List Call}
    {s : BindingState} {period : Nat} (ends : Ends t [first] e₁ cs s period)
    (silent : heard? t first = none) (steady : Steady e c e₁) (run : Run step e₁ h e')
    (alone : ∀ m ∈ h, Alone t m) :
    Ends t (first :: h) e' cs s period ∧ Steady e c e' := by
  apply induct_answers (P := fun h e' _ => Ends t h e' cs s period)
    ⟨ends, silent, steady⟩ _ _ _ run alone
  · intro h e' _ ends p stage
    cases ends.stage.symm.trans stage
  · intro h e' _ later event ends steady last silent
    exact steady.unheard nofun last silent ends
  · intro h e' _ later event answer ends _ _ heard
    rw [not_heard_of_absent ends.stage] at heard
    contradiction

section
variable (live : e.disposed = false) (free : e.lock.holder = none)
  (fresh : e.stage? t = none)
include free fresh

theorem start_free (now : Nat) (x : Exchange) :
    e.step now (.start t (.exchange x)) = (e.claim t).commence now t x :=
  (Takes.free fresh free).step now

include live

theorem start_activation (sound : e.state ≠ .failed) (now : Nat) :
    e.step now (.start t (.exchange .activate)) = (e.claim t).wait t
      (.binding e.config.minInterval e.config.maxInterval e.config.change
        (now + e.timeout))
      [.call t .bind] := by
  rw [start_free free fresh]
  simp [commence, live, sound]

theorem start_failed (failed : e.state = .failed) (now : Nat) :
    e.step now (.start t (.exchange .activate)) =
      (e.claim t).finish t (.settled .failed) := by
  rw [start_free free fresh]
  simp [commence, live, failed]

theorem start_quiet {u : Reporting.Update}
    (quiet : e.config.isChangedBy u = false ∨ e.state = .unbound ∨ e.state = .failed)
    (now : Nat) :
    e.step now (.start t (.exchange (.reconcile u))) =
      ((e.claim t).configure u).finish t (.settled e.state) :=
  (Takes.free fresh free).stored live quiet now

theorem start_reconciliation {u : Reporting.Update}
    (changed : e.config.isChangedBy u = true) (attached : e.state ≠ .unbound)
    (sound : e.state ≠ .failed) (now : Nat) :
    e.step now (.start t (.exchange (.reconcile u))) = ((e.claim t).configure u).wait t
      (.configuring (e.config.update u).pollingPeriod (e.config.update u).pollingPeriod
        (e.config.update u).maxInterval (now + e.timeout))
      [.call t (report (e.config.update u))] := by
  have busy : ¬ (!e.config.isChangedBy u || decide (e.state = .unbound) ||
      decide (e.state = .failed)) = true := by
    simp [changed, attached, sound]
  rw [start_free free fresh, commence, if_neg (by simp [live])]
  exact if_neg busy

/-- A negotiation that has the engine to itself. An activation of a failed binding makes
no call. Any other binds once, configures reporting once and exactly when the bind was
accepted, and ends as the answers say; so does a reconciliation, without binding, unless
it has nothing to tell the device, when it only keeps the configuration. -/
theorem negotiation_outcome (now : Nat) :
    (∀ h e', Run step (e.step now (.start t (.exchange .activate))).1 h e' →
      (∀ m ∈ h, Alone t m) →
      let whole := .taken step e now (.start t (.exchange .activate)) :: h
      e'.config = e.config ∧
      (e.state = .failed → Ends t whole e' [] .failed e.binding.period) ∧
      (e.state ≠ .failed → Activation e now t whole e' (answersTo t whole))) ∧
    ∀ u h e', Run step (e.step now (.start t (.exchange (.reconcile u)))).1 h e' →
      (∀ m ∈ h, Alone t m) →
      let whole := .taken step e now (.start t (.exchange (.reconcile u))) :: h
      e'.config = e.config.update u ∧
      (e.config.isChangedBy u = false ∨ e.state = .unbound ∨ e.state = .failed →
        Ends t whole e' [] e.state e.binding.period) ∧
      (e.config.isChangedBy u = true → e.state ≠ .unbound → e.state ≠ .failed →
        Reconciliation e (e.config.update u) now t whole e' (answersTo t whole)) := by
  have silent (x : Exchange) :
      heard? t (.taken step e now (.start t (.exchange x))) = none :=
    not_heard_of_absent fresh
  refine ⟨fun h e' run alone => ?_, fun u h e' run alone => ?_⟩
  · by_cases failed : e.state = .failed
    · have start := start_failed live free fresh failed now
      have steady : Steady e e.config (e.step now (.start t (.exchange .activate))).1 :=
        start ▸ ⟨rfl, rfl, rfl, live⟩
      have ended := ends_at_once ((claim_state e t).trans failed) start
      obtain ⟨ends, steady⟩ := ended_stays ended (silent _) steady run alone
      exact ⟨steady.config, fun _ => ends, fun sound => absurd failed sound⟩
    · have start := start_activation live free fresh failed now
      have steady : Steady e e.config (e.step now (.start t (.exchange .activate))).1 :=
        start ▸ ⟨rfl, rfl, rfl, live⟩
      have waits := waits_first start
      obtain ⟨stands, steady⟩ :=
        induct_answers (P := Activation e now t) ⟨.asked waits, silent _, steady⟩
          (fun _ _ _ inv => inv.command) (fun _ _ _ _ _ inv => inv.unheard)
          (fun _ _ _ _ _ _ inv steady => inv.heard steady failed) run alone
      exact ⟨steady.config, fun bad => absurd bad failed, fun _ => stands⟩
  · by_cases quiet : e.config.isChangedBy u = false ∨ e.state = .unbound ∨
      e.state = .failed
    · have start := start_quiet live free fresh quiet now
      have steady : Steady e (e.config.update u)
          (e.step now (.start t (.exchange (.reconcile u)))).1 :=
        start ▸ ⟨rfl, rfl, rfl, live⟩
      have ended := ends_at_once rfl start
      obtain ⟨ends, steady⟩ := ended_stays ended (silent _) steady run alone
      refine ⟨steady.config, fun _ => ends, fun changed attached sound => ?_⟩
      simp [changed, attached, sound] at quiet
    · simp only [not_or, Bool.not_eq_false] at quiet
      obtain ⟨changed, attached, sound⟩ := quiet
      have start := start_reconciliation live free fresh changed attached sound now
      have steady : Steady e (e.config.update u)
          (e.step now (.start t (.exchange (.reconcile u)))).1 :=
        start ▸ ⟨rfl, rfl, rfl, live⟩
      have waits := waits_first start
      obtain ⟨stands, steady⟩ :=
        induct_answers (P := Reconciliation e (e.config.update u) now t) ⟨.asked waits,
          silent _, steady⟩ (fun _ _ _ inv => inv.command) (fun _ _ _ _ _ inv =>
          inv.unheard) (fun _ _ _ _ _ _ inv steady => inv.heard steady sound) run alone
      refine ⟨steady.config, fun bad => ?_, fun _ _ _ => stands⟩
      simp [changed, attached, sound] at bad

end

/-- The hall sensor takes its bind and reports, but never answers its configuration,
whatever is asked too early. -/
def unanswered : List (Nat × Event) :=
  [(3, .reply 0 .ok), (4, .notify (.bool true)), (10002, .expire 0), (10003, .expire 0)]

theorem unanswered_configuration_is_lost :
    let bound := (hallEngine.step 0 (.start 0 (.exchange .activate))).1
    let (h, e) := play step bound unanswered
    hallEngine.disposed = false ∧ hallEngine.lock.holder = none ∧
    hallEngine.stage? 0 = none ∧
      Run step bound h e ∧ (∀ m ∈ h, Alone 0 m) ∧ callsOf 0 h = [.report 1 7200 none] ∧
      e.state = .polling ∧ e.binding.period = 86400 ∧
      outcomesOf 0 h = [.settled .polling] := by
  intro bound
  have run :
      Run step bound (play step bound unanswered).1 (play step bound unanswered).2 :=
    Run.nil.append_play unanswered
  have alone : ∀ m ∈ (play step bound unanswered).1, Alone 0 m := by
    simp [Alone, play, unanswered, Moment.taken, Event.wakes?]
  obtain ⟨-, -, stands⟩ :=
    (negotiation_outcome (e := hallEngine) (t := 0) rfl rfl rfl 0).1 _ _ run alone
  cases stands (by decide) with
  | lost first why ends =>
      exact ⟨rfl, rfl, rfl, run, alone, rfl, ends.state, ends.period, rfl⟩
  | accepted _ why | refused _ why | fatal _ why => cases why

end
end Engine
end MeshReadings
