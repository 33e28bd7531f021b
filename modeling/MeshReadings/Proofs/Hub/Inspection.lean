import Mathlib.Data.List.Nodup
import MeshReadings.Proofs.Hub.Visits

/-!
What a whole inspection does. It visits its engines in order, whatever becomes of those
before, and for each of them it does what the engine needs as it is visited: one that has
failed is resolved and, if that succeeds, activated; of any other live one it is noted
whether it is stale. The steps that concern other engines keep the account of an engine as
it is.
-/

namespace MeshReadings
namespace Hub

/-- The calls that an inspection has made for an engine. -/
def callsOn (t : Ticket) (id : EngineId) (h : History) : List Call :=
  h.flatMap fun m => if m.after.inspected? t = some id then callsIn t m else []

def Resolved (t : Ticket) (id : EngineId) (h : History) : Prop := ∃ m ∈ h, Resolves t id m

/-- A resolution, and if it succeeds an activation, which binds first. -/
def Served (t : Ticket) (id : EngineId) (h : History) : Prop :=
  ¬ Resolved t id h ∧ callsOn t id h = [.resolve] ∨
    Resolved t id h ∧ ∃ more, callsOn t id h = .resolve :: .bind :: more ∧
      (more = [] ∨ ∃ min max change, more = [.report min max change])

/-- What an inspection does for an engine that it found in some state at some moment. -/
inductive Treatment (hub₀ : Hub) (t : Ticket) (h : History) (hub : Hub) (id : EngineId)
    (m : Moment) (e : Engine) : Prop
  | served (live : e.disposed = false) (failed : e.state = .failed)
      (served : Served t id h)
      (flag : hub.stale.contains e.channel = hub₀.stale.contains e.channel)
  | noted (live : e.disposed = false) (sound : e.state ≠ .failed)
      (calls : callsOn t id h = [])
      (flag : hub.stale.contains e.channel = e.isStale m.now)
  | skipped (gone : e.disposed = true) (calls : callsOn t id h = [])
      (flag : hub.stale.contains e.channel = hub₀.stale.contains e.channel)

/-- The calls for the engine that an inspection waits for. -/
def Phase.Calls : Phase → List Call → Prop
  | .reopening, cs => cs = [.resolve]
  | .binding, cs => cs = [.resolve, .bind]
  | .reporting, cs => ∃ min max change, cs = [.resolve, .bind, .report min max change]

/-- The answers that a visit still takes at most. -/
def Phase.left : Phase → Nat
  | .reopening => 3
  | .binding => 2
  | .reporting => 1

def Position.left (p : Position) : Nat :=
  3 * p.todo.length + (p.visit?.map (·.1.left)).getD 0

/-- How far an inspection has come with an engine. -/
inductive Account (hub₀ : Hub) (t : Ticket) (h : History) (hub : Hub) (p : Position)
    (id : EngineId) (c : String) : Prop
  | ahead (waits : id ∈ p.todo) (calls : callsOn t id h = [])
      (unresolved : ¬ Resolved t id h)
      (flag : hub.stale.contains c = hub₀.stale.contains c)
  | met {m e} (behind : id ∉ p.todo) (member : m ∈ h) (visited : id ∈ visits t m)
      (here : m.before.engine? id = some e) (channel : e.channel = c)
      (treatment : Treatment hub₀ t h hub id m e)
      (current : ∀ phase, p.visit? = some (phase, id) →
        e.disposed = false ∧ e.state = .failed ∧
        phase.Calls (callsOn t id h) ∧ (Resolved t id h ↔ phase ≠ .reopening))

/-- How far an inspection has come. -/
structure Inspects (hub₀ : Hub) (ids : List EngineId) (t : Ticket) (h : History)
    (hub : Hub) (p : Position) : Prop where
  clear : Clear hub t
  stands : Stands hub t p
  order : h.flatMap (visits t) ++ p.todo = ids
  current : ∀ phase id, p.visit? = some (phase, id) → id ∈ h.flatMap (visits t)
  few : h.countP (answered t) + p.left ≤ 3 * ids.length
  channels : ∀ id c, hub₀.channel? id = some c → hub.channel? id = some c
  accounts : ∀ id ∈ ids, ∀ c, hub₀.channel? id = some c → Account hub₀ t h hub p id c
  others : ∀ c, (∀ id ∈ ids, hub₀.channel? id ≠ some c) →
      hub.stale.contains c = hub₀.stale.contains c
  addressed : ∀ m ∈ h, Addressed t m

section
variable {hub₀ hub : Hub} {ids : List EngineId} {t : Ticket} {h : History} {m : Moment}
  {p p' : Position} {id : EngineId} {c : String}

theorem callsOn_snoc (t : Ticket) (id : EngineId) (h : History) (m : Moment) :
    callsOn t id (h ++ [m]) = callsOn t id h ++ if m.after.inspected? t = some id then
      callsIn t m else [] := by
  simp [callsOn]

theorem resolved_snoc (t : Ticket) (id : EngineId) (h : History) (m : Moment) :
    Resolved t id (h ++ [m]) ↔ Resolved t id h ∨ Resolves t id m := by
  simp [Resolved, or_and_right, exists_or]

/-- What is still to visit after a step is what was to visit before it, less what the step
visits. -/
theorem visits_turn (turn : Turn t m p p') (next : due t m = p.todo)
    (after : m.after.todo t = p'.todo) : p.todo = visits t m ++ p'.todo := by
  have suffix (visited : List EngineId) (split : p.todo = visited ++ p'.todo) :
      p.todo = visits t m ++ p'.todo := by
    rw [visits_of_split (next.trans split) after, split]
  cases turn with
  | stays | resolved | accepted => exact suffix [] rfl
  | ends => exact suffix p.todo (List.append_nil _).symm
  | @stops _ passed id later _ split => exact suffix (passed ++ [id]) (by simp [split])

theorem Phase.one_le_left (phase : Phase) : 1 ≤ phase.left := by
  cases phase <;> simp [left]

/-- Every answer brings an inspection nearer to its end. -/
theorem left_turn (turn : Turn t m p p')
    (begun : p.visit? = none → answered t m = false) :
    p'.left + (if answered t m then 1 else 0) ≤ p.left := by
  have reopening : Phase.reopening.left = 3 := rfl
  cases turn with
  | stays _ _ _ unanswered => simp [unanswered]
  | resolved | accepted =>
      simp only [Position.left, Option.map_some, Option.getD_some, Phase.left]
      split <;> omega
  | ends =>
      cases visit : p.visit? with
      | none => simp [begun visit, Position.left]
      | some v =>
          have := v.1.one_le_left
          simp only [Position.left, visit, Option.map_some, Option.getD_some,
            Option.map_none, Option.getD_none, List.length_nil]
          split <;> omega
  | stops split =>
      simp only [Position.left, split, List.length_append, List.length_cons,
        Option.map_some, Option.getD_some, reopening]
      cases visit : p.visit? with
      | none =>
          simp only [begun visit, Bool.false_eq_true, if_false, Option.map_none,
            Option.getD_none]
          omega
      | some v =>
          have := v.1.one_le_left
          simp only [Option.map_some, Option.getD_some]
          split <;> omega

/-- A step that makes no call for an engine, and does not resolve it. -/
structure Spares (t : Ticket) (id : EngineId) (h : History) (m : Moment) : Prop where
  calls : callsOn t id (h ++ [m]) = callsOn t id h
  unresolved : ¬ Resolves t id m

theorem spares_of_silent (silent : callsIn t m = []) (unresolved : ¬ Resolves t id m) :
    Spares t id h m := by
  refine ⟨?_, unresolved⟩
  rw [callsOn_snoc, silent, ite_self, List.append_nil]

theorem spares_of_ne (stands : m.after.Stands t p')
    (other : ∀ phase, p'.visit? ≠ some (phase, id)) (unresolved : ¬ Resolves t id m) :
    Spares t id h m := by
  refine ⟨?_, unresolved⟩
  have elsewhere : m.after.inspected? t ≠ some id := by
    rw [inspected?_of_stands stands]
    intro here
    obtain ⟨⟨phase, u⟩, visit, rfl⟩ := Option.map_eq_some_iff.mp here
    exact other phase visit
  rw [callsOn_snoc, if_neg elsewhere, List.append_nil]

theorem Spares.resolved (spares : Spares t id h m) :
    Resolved t id (h ++ [m]) ↔ Resolved t id h := by
  rw [resolved_snoc]
  exact or_iff_left spares.unresolved

theorem Treatment.keep {m₀ : Moment} {e : Engine}
    (treatment : Treatment hub₀ t h hub id m₀ e) (spares : Spares t id h m)
    (flag : m.after.stale.contains e.channel = hub.stale.contains e.channel) :
    Treatment hub₀ t (h ++ [m]) m.after id m₀ e := by
  cases treatment with
  | served live failed served same =>
      refine .served live failed ?_ (flag.trans same)
      rwa [Served, spares.resolved, spares.calls]
  | noted live sound calls same =>
      exact .noted live sound (spares.calls.trans calls) (flag.trans same)
  | skipped gone calls same =>
      exact .skipped gone (spares.calls.trans calls) (flag.trans same)

/-- The account of an engine is kept by a step that spares it and leaves it where it
is. -/
theorem Account.keep (account : Account hub₀ t h hub p id c) (spares : Spares t id h m)
    (flag : m.after.stale.contains c = hub.stale.contains c)
    (place : id ∈ p'.todo ↔ id ∈ p.todo)
    (current : ∀ phase, p'.visit? = some (phase, id) → p.visit? = some (phase, id)) :
    Account hub₀ t (h ++ [m]) m.after p' id c := by
  cases account with
  | ahead waits calls unresolved same =>
      refine .ahead (place.mpr waits) (spares.calls.trans calls) ?_ (flag.trans same)
      rwa [spares.resolved]
  | met behind member visited here channel treatment doing =>
      subst channel
      refine .met (fun waits => behind (place.mp waits)) (List.mem_append_left _ member)
        visited here rfl (treatment.keep spares flag) fun phase visit => ?_
      rw [spares.calls, spares.resolved]
      exact doing phase (current phase visit)

/-- The account of an engine is kept by a step that takes the inspection to another
one. -/
theorem Account.elsewhere {phase : Phase} {u : EngineId}
    (account : Account hub₀ t h hub p id c) (stands : m.after.Stands t p')
    (visit : p'.visit? = some (phase, u)) (other : id ≠ u)
    (unresolved : ¬ Resolves t id m)
    (flag : m.after.stale.contains c = hub.stale.contains c)
    (place : id ∈ p'.todo ↔ id ∈ p.todo) : Account hub₀ t (h ++ [m]) m.after p' id c := by
  have away (phase' : Phase) : p'.visit? ≠ some (phase', id) := by
    rw [visit]
    rintro ⟨⟩
    exact other rfl
  exact account.keep (spares_of_ne stands away unresolved) flag place fun phase' same =>
    absurd same (away phase')

theorem served_of_phase {phase : Phase} (calls : phase.Calls (callsOn t id h))
    (resolved : Resolved t id h ↔ phase ≠ .reopening) : Served t id h := by
  cases phase with
  | reopening => exact Or.inl ⟨by simpa using resolved, calls⟩
  | binding => exact Or.inr ⟨resolved.mpr nofun, [], calls, Or.inl rfl⟩
  | reporting =>
      obtain ⟨min, max, change, calls⟩ := calls
      exact Or.inr ⟨resolved.mpr nofun, [.report min max change], calls,
        Or.inr ⟨min, max, change, rfl⟩⟩

/-- The account of the engine that an inspection waits for. -/
structure Doing (hub₀ : Hub) (t : Ticket) (h : History) (hub : Hub) (id : EngineId)
    (c : String) (phase : Phase) : Prop where
  found : ∃ m ∈ h, id ∈ visits t m ∧ ∃ e, m.before.engine? id = some e ∧ e.channel = c ∧
      e.disposed = false ∧ e.state = .failed
  calls : phase.Calls (callsOn t id h)
  resolved : Resolved t id h ↔ phase ≠ .reopening
  flag : hub.stale.contains c = hub₀.stale.contains c

theorem Doing.account {phase : Phase} (doing : Doing hub₀ t h hub id c phase)
    (behind : id ∉ p.todo) (visit : p.visit? = some (phase, id)) :
    Account hub₀ t h hub p id c := by
  obtain ⟨m, member, visited, e, here, rfl, live, failed⟩ := doing.found
  refine .met behind member visited here rfl (.served live failed
    (served_of_phase doing.calls doing.resolved) doing.flag) fun phase' visit' => ?_
  obtain rfl : phase = phase' := by simpa [visit] using visit'
  exact ⟨live, failed, doing.calls, doing.resolved⟩

theorem Account.doing {phase : Phase} (account : Account hub₀ t h hub p id c)
    (apart : id ∉ p.todo) (visit : p.visit? = some (phase, id)) :
    Doing hub₀ t h hub id c phase := by
  cases account with
  | ahead waits => exact absurd waits apart
  | @met m e _ member visited here channel treatment doing =>
      obtain ⟨live, failed, calls, resolved⟩ := doing phase visit
      refine ⟨⟨m, member, visited, e, here, channel, live, failed⟩, calls, resolved, ?_⟩
      cases treatment with
      | served _ _ _ flag => exact channel ▸ flag
      | noted _ sound => exact absurd failed sound
      | skipped gone => cases live.symm.trans gone

theorem callsOn_of_stands {phase : Phase} (stands : m.after.Stands t p')
    (visit : p'.visit? = some (phase, id)) :
    callsOn t id (h ++ [m]) = callsOn t id h ++ callsIn t m := by
  have inspected : m.after.inspected? t = some id := by
    rw [inspected?_of_stands stands, visit]
    rfl
  rw [callsOn_snoc, if_pos inspected]

theorem Doing.next {phase phase' : Phase} (doing : Doing hub₀ t h hub id c phase)
    (stands : m.after.Stands t p') (visit : p'.visit? = some (phase', id))
    (stale : m.after.stale = hub.stale)
    (calls : ∀ cs, phase.Calls cs → phase'.Calls (cs ++ callsIn t m))
    (resolved : Resolved t id (h ++ [m]) ↔ phase' ≠ .reopening) :
    Doing hub₀ t (h ++ [m]) m.after id c phase' := by
  obtain ⟨m₀, member, visited⟩ := doing.found
  refine ⟨⟨m₀, List.mem_append_left _ member, visited⟩, ?_, resolved,
    by rw [stale]; exact doing.flag⟩
  rw [callsOn_of_stands stands visit]
  exact calls _ doing.calls

/-- An engine that is passed by is noted, if it is live. -/
theorem Account.pass {e : Engine} (account : Account hub₀ t h hub p id c)
    (waits : id ∈ p.todo) (behind : id ∉ p'.todo)
    (left : ∀ phase, p'.visit? ≠ some (phase, id)) (visited : id ∈ visits t m)
    (here : m.before.engine? id = some e) (channel : e.channel = c)
    (passes : e.disposed = true ∨ e.state ≠ .failed) (spares : Spares t id h m)
    (flag : m.after.stale.contains c = if e.disposed then hub.stale.contains c
      else e.isStale m.now) :
    Account hub₀ t (h ++ [m]) m.after p' id c := by
  subst channel
  cases account with
  | met behind => exact absurd waits behind
  | ahead _ calls _ same =>
      refine .met behind (by simp) visited here rfl ?_ fun phase visit =>
        absurd visit (left phase)
      cases gone : e.disposed with
      | true =>
          rw [gone, if_pos rfl] at flag
          exact .skipped gone (spares.calls.trans calls) (flag.trans same)
      | false =>
          rw [gone] at flag
          exact .noted gone (passes.resolve_left (by simp [gone]))
            (spares.calls.trans calls) flag

/-- The inspection comes to an engine that has failed. -/
theorem Account.come {e : Engine} (account : Account hub₀ t h hub p id c)
    (waits : id ∈ p.todo) (stands : m.after.Stands t p')
    (visit : p'.visit? = some (.reopening, id)) (visited : id ∈ visits t m)
    (here : m.before.engine? id = some e) (channel : e.channel = c)
    (live : e.disposed = false) (failed : e.state = .failed)
    (calls : callsIn t m = [.resolve]) (unresolved : ¬ Resolves t id m)
    (flag : m.after.stale.contains c = hub.stale.contains c) :
    Doing hub₀ t (h ++ [m]) m.after id c .reopening := by
  cases account with
  | met behind => exact absurd waits behind
  | ahead _ none not_yet same =>
      refine ⟨⟨m, by simp, visited, e, here, channel, live, failed⟩, ?_, ?_,
        flag.trans same⟩
      · rw [callsOn_of_stands stands visit, none, calls]
        rfl
      · rw [resolved_snoc]
        exact iff_of_false (not_or.mpr ⟨not_yet, unresolved⟩) fun other => other rfl

theorem Resolves.unique {u : EngineId} (resolves : Resolves t u m) (other : id ≠ u) :
    ¬ Resolves t id m := by
  intro again
  obtain ⟨r, event, -⟩ := resolves
  obtain ⟨r', event', -⟩ := again
  exact other (Event.engine.inj (event'.symm.trans event)).1

theorem Inspects.agree (inv : Inspects hub₀ ids t h hub p)
    (present : ∀ id ∈ ids, (hub₀.channel? id).isSome) (member : id ∈ ids) :
    hub.channel? id = hub₀.channel? id := by
  obtain ⟨c, channel⟩ := Option.isSome_iff_exists.mp (present id member)
  rw [inv.channels id c channel, channel]

theorem Inspects.todo_sublist (inv : Inspects hub₀ ids t h hub p) :
    p.todo.Sublist ids := by
  rw [← inv.order]
  exact List.sublist_append_right ..

theorem Inspects.behind (inv : Inspects hub₀ ids t h hub p) (nodup : ids.Nodup)
    {phase : Phase} (visit : p.visit? = some (phase, id)) : id ∉ p.todo := by
  rw [← inv.order] at nodup
  intro waits
  exact (List.nodup_append.mp nodup).2.2 id (inv.current phase id visit) id waits rfl

/-- What is noted of other engines leaves the flag of an engine as it is. -/
theorem Inspects.unnoted {now : Nat} {passed : List EngineId}
    (inv : Inspects hub₀ ids t h hub p) (present : ∀ id ∈ ids, (hub₀.channel? id).isSome)
    (apart : (ids.map hub₀.channel?).Nodup) (member : id ∈ ids)
    (channel : hub₀.channel? id = some c) (part : passed.Sublist p.todo)
    (away : id ∉ passed) :
    (hub.noteAll now passed).stale.contains c = hub.stale.contains c := by
  refine stale_noteAll_of_ne fun u listed same => ?_
  have listed' := inv.todo_sublist.subset (part.subset listed)
  rw [inv.agree present listed', ← channel] at same
  exact away (List.inj_on_of_nodup_map apart listed' member same ▸ listed)

/-- What is noted of an engine is what holds of it. -/
theorem Inspects.noted {now : Nat} {passed : List EngineId} {e : Engine}
    (inv : Inspects hub₀ ids t h hub p) (present : ∀ id ∈ ids, (hub₀.channel? id).isSome)
    (apart : (ids.map hub₀.channel?).Nodup) (part : passed.Sublist p.todo)
    (before : id ∈ passed) (here : hub.engine? id = some e) :
    (hub.noteAll now passed).stale.contains e.channel =
      if e.disposed then hub.stale.contains e.channel else e.isStale now := by
  have listed := part.trans inv.todo_sublist
  refine stale_noteAll ?_ before here
  rw [List.map_congr_left fun u member => inv.agree present (listed.subset member)]
  exact apart.sublist (listed.map _)

/-- A step takes the account of each engine along. -/
theorem Inspects.account (inv : Inspects hub₀ ids t h m.before p) (leads : Leads t m p p')
    (split : p.todo = visits t m ++ p'.todo)
    (present : ∀ id ∈ ids, (hub₀.channel? id).isSome)
    (apart : (ids.map hub₀.channel?).Nodup) (member : id ∈ ids)
    (channel : hub₀.channel? id = some c) :
    Account hub₀ t (h ++ [m]) m.after p' id c := by
  have nodup := List.Nodup.of_map _ apart
  have account := inv.accounts id member c channel
  obtain ⟨e, here, named⟩ := Option.map_eq_some_iff.mp (inv.channels id c channel)
  cases leads.turn with
  | stays calls stale unresolved =>
      exact account.keep (spares_of_silent calls (unresolved id)) (by rw [stale]) Iff.rfl
        fun _ same => same
  | @resolved u todo calls stale resolves =>
      by_cases same : id = u
      · subst same
        have behind := inv.behind nodup rfl
        refine ((account.doing behind rfl).next leads.stands rfl stale ?_ ?_).account
          behind rfl
        · rintro cs rfl
          rw [calls]
          rfl
        · exact iff_of_true ((resolved_snoc ..).mpr (.inr resolves)) nofun
      · exact account.elsewhere leads.stands rfl same (resolves.unique same)
          (by rw [stale]) Iff.rfl
  | @accepted u todo min max change calls stale unresolved =>
      by_cases same : id = u
      · subst same
        have behind := inv.behind nodup rfl
        have doing := account.doing behind rfl
        refine (doing.next leads.stands rfl stale ?_ ?_).account behind rfl
        · rintro cs rfl
          rw [calls]
          exact ⟨min, max, change, rfl⟩
        · exact iff_of_true
            ((resolved_snoc ..).mpr (.inl (doing.resolved.mpr nofun))) nofun
      · exact account.elsewhere leads.stands rfl same (unresolved id)
          (by rw [stale]) Iff.rfl
  | ends passes calls stale unresolved =>
      have spares : Spares t id h m := spares_of_silent calls (unresolved id)
      by_cases waits : id ∈ p.todo
      · refine account.pass waits nofun nofun ?_ here named
          (passes id waits e here) spares ?_
        · simpa [split] using waits
        · rw [stale, ← named]
          exact inv.noted present apart (.refl _) waits here
      · refine account.keep spares ?_ (iff_of_false nofun waits) nofun
        rw [stale]
        exact inv.unnoted present apart member channel (.refl _) waits
  | @stops _ passed u later e' split' passes here' live failed calls stale unresolved =>
      have part : passed.Sublist p.todo := split' ▸ List.sublist_append_left ..
      have unnoted (away : id ∉ passed) :
          m.after.stale.contains c = m.before.stale.contains c := by
        rw [stale]
        exact inv.unnoted present apart member channel part away
      have waiting := nodup.sublist inv.todo_sublist
      rw [split'] at waiting
      obtain ⟨-, rest, disjoint⟩ := List.nodup_append.mp waiting
      have visited (waits : id ∈ p.todo) (behind : id ∉ later) : id ∈ visits t m := by
        rw [split] at waits
        exact (List.mem_append.mp waits).resolve_right behind
      by_cases same : id = u
      · subst same
        have waits : id ∈ p.todo := by simp [split']
        have away : id ∉ passed := fun before => disjoint id before id (by simp) rfl
        have behind : id ∉ later := (List.nodup_cons.mp rest).1
        cases here.symm.trans here'
        have doing :=
          account.come waits leads.stands rfl (visited waits behind) here named
            live failed calls (unresolved id) (unnoted away)
        exact doing.account behind rfl
      · by_cases before : id ∈ passed
        · have waits : id ∈ p.todo := part.subset before
          have behind : id ∉ later :=
            fun after => disjoint id before id (List.mem_cons_of_mem _ after) rfl
          have elsewhere (phase : Phase) :
              some (Phase.reopening, u) ≠ some (phase, id) := by
            rintro ⟨⟩
            exact same rfl
          refine account.pass waits behind elsewhere (visited waits behind) here named
            (passes id before e here)
            (spares_of_ne leads.stands elsewhere (unresolved id)) ?_
          rw [stale, ← named]
          exact inv.noted present apart part before here
        · refine account.elsewhere leads.stands rfl same (unresolved id)
            (unnoted before) ?_
          simp [split', before, same]

/-- Only an engine that a step visits can have its flag changed by the step. -/
theorem stale_turn (turn : Turn t m p p')
    (other : ∀ id ∈ p.todo, m.before.channel? id ≠ some c) :
    m.after.stale.contains c = m.before.stale.contains c := by
  cases turn with
  | stays _ stale | resolved _ stale | accepted _ stale => rw [stale]
  | ends _ _ stale =>
      rw [stale]
      exact stale_noteAll_of_ne other
  | stops split _ _ _ _ _ stale =>
      rw [stale]
      exact stale_noteAll_of_ne fun id member => other id (by simp [split, member])

/-- An inspection has come to an engine that it visits now or has visited before. -/
theorem visited_turn (turn : Turn t m p p') (split : p.todo = visits t m ++ p'.todo)
    {phase : Phase} (visit : p'.visit? = some (phase, id)) :
    (∃ phase, p.visit? = some (phase, id)) ∨ id ∈ visits t m := by
  cases turn with
  | stays => exact .inl ⟨phase, visit⟩
  | resolved | accepted =>
      cases visit
      exact .inl ⟨_, rfl⟩
  | ends => cases visit
  | @stops _ passed _ later _ split' =>
      cases visit
      have same : passed ++ [id] ++ later = visits t m ++ later := by
        simpa [split'] using split
      exact .inr (List.append_cancel_right same ▸ by simp)

theorem inspects_nil (clear : Clear hub₀ t) (fresh : hub₀.inspection? t = none) :
    Inspects hub₀ ids t [] hub₀ ⟨none, ids⟩ := by
  refine ⟨clear, fresh, rfl, nofun, by simp [Position.left], fun _ _ same => same, ?_,
    fun _ _ => rfl, by simp⟩
  intro id member c channel
  exact .ahead member rfl (by simp [Resolved]) rfl

theorem Inspects.next (inv : Inspects hub₀ ids t h m.before p) (leads : Leads t m p p')
    (next : due t m = p.todo) (begun : p.visit? = none → answered t m = false)
    (present : ∀ id ∈ ids, (hub₀.channel? id).isSome)
    (apart : (ids.map hub₀.channel?).Nodup) :
    Inspects hub₀ ids t (h ++ [m]) m.after p' := by
  have split := visits_turn leads.turn next (todo_of_stands leads.stands leads.finished)
  refine ⟨leads.clear, leads.stands, ?_, ?_, ?_, ?_, ?_, ?_, ?_⟩
  · simp [← inv.order, split]
  · intro phase id visit
    obtain ⟨before, visit⟩ | now := visited_turn leads.turn split visit
    · simp [inv.current before id visit]
    · simp [now]
  · have nearer := left_turn leads.turn begun
    have few := inv.few
    rw [List.countP_append, List.countP_singleton]
    omega
  · exact fun id c channel => leads.channels id c (inv.channels id c channel)
  · exact fun id member c channel => inv.account leads split present apart member channel
  · intro c other
    refine (stale_turn leads.turn fun id waits => ?_).trans (inv.others c other)
    have listed := inv.todo_sublist.subset waits
    rw [inv.agree present listed]
    exact other id listed
  · intro m' member
    obtain earlier | rfl := by simpa using member
    · exact inv.addressed m' earlier
    · exact leads.addressed

theorem due_of_respects (respects : Respects t m) : due t m = m.before.todo t := by
  cases event : m.event with
  | inspect u ids => exact absurd event (respects.sole u ids)
  | openEngine | reply | engine | deliver => simp only [due, event]

theorem unanswered_of_stands (stands : m.before.Stands t p) (nowhere : p.visit? = none) :
    answered t m = false := by
  apply Bool.eq_false_iff.mpr
  intro answered
  obtain ⟨id, -, -, -, inspected⟩ := about_of_answered answered
  simp [inspected?_of_stands stands, nowhere] at inspected

/-- A run of an inspection is accounted for from its first visit on. -/
theorem inspects_of_run {now : Nat} (clear : Clear hub₀ t)
    (fresh : hub₀.inspection? t = none) (present : ∀ id ∈ ids, (hub₀.channel? id).isSome)
    (apart : (ids.map hub₀.channel?).Nodup)
    (run : Run step (hub₀.step now (.inspect t ids)).1 h hub)
    (respects : ∀ m ∈ h, Respects t m)
    (idle : ∀ m ∈ .taken step hub₀ now (.inspect t ids) :: h, FindsIdle t m) :
    ∃ p, Inspects hub₀ ids t (.taken step hub₀ now (.inspect t ids) :: h) hub p ∧
      (p.visit? = none → p.todo = []) := by
  have nodup := List.Nodup.of_map _ apart
  induction run with
  | nil =>
      obtain ⟨p, leads⟩ := leads_start clear fresh (idle _ List.mem_cons_self)
      have due : due t (.taken step hub₀ now (.inspect t ids)) = ids := if_pos rfl
      exact ⟨p, (inspects_nil clear fresh).next leads due (fun _ => rfl) present apart,
        leads.finished⟩
  | @snoc h hub run later event ih =>
      have earlier {m : Moment}
          (member : m ∈ .taken step hub₀ now (.inspect t ids) :: h) :
          m ∈ .taken step hub₀ now (.inspect t ids) ::
            (h ++ [.taken step hub later event]) := by
        rw [← List.cons_append]
        exact List.mem_append_left _ member
      obtain ⟨p, inv, finished⟩ :=
        ih (fun m member => respects m (List.mem_append_left _ member))
          (fun m member => idle m (earlier member))
      have latest := respects (.taken step hub later event) (by simp)
      obtain ⟨p', leads⟩ :=
        leads_step inv.clear inv.stands (fun _ _ => inv.behind nodup) finished latest
          (idle _ (by simp))
      have due : due t (.taken step hub later event) = p.todo :=
        (due_of_respects latest).trans (todo_of_stands inv.stands finished)
      exact ⟨p', inv.next leads due (unanswered_of_stands inv.stands) present apart,
        leads.finished⟩

theorem Phase.At.awaits {phase : Phase} {s : Engine.Stage} (fits : phase.At s) :
    ∃ c, s.Awaits c := by
  cases s with
  | binding => exact ⟨.bind, rfl⟩
  | configuring _ _ max => exact ⟨.report 0 max none, _, _, rfl⟩
  | resolving => exact ⟨.resolve, rfl⟩
  | queued | reading | unlistening | arming | waiting => cases phase <;> cases fits

/-- An inspection that is not over waits for a call, and has had fewer answers than it can
take. -/
theorem Inspects.waits (inv : Inspects hub₀ ids t h hub p) {i : Inspection}
    (inspecting : hub.inspection? t = some i) :
    h.countP (answered t) < 3 * ids.length ∧
      ∃ e s c, hub.engine? i.current = some e ∧ e.stage? t = some s ∧ s.Awaits c := by
  have stands := inv.stands
  have few := inv.few
  cases visit : p.visit? with
  | none =>
      simp only [Stands, visit] at stands
      cases stands.symm.trans inspecting
  | some v =>
      obtain ⟨phase, id⟩ := v
      simp only [Stands, visit] at stands
      obtain ⟨at_, e, here, -, -, s, stage, fits⟩ := stands
      obtain ⟨c, awaits⟩ := fits.awaits
      obtain rfl := Option.some.inj (at_.symm.trans inspecting)
      have := phase.one_le_left
      simp only [Position.left, visit, Option.map_some, Option.getD_some] at few
      exact ⟨by omega, e, s, c, here, stage, awaits⟩

/-- An inspection visits its engines in order and waits for one call after another until
it is over. Each engine that it has not come to yet is as it was; each other is treated
for what it was when it was visited. -/
theorem inspection_serves_each {now : Nat} {whole : History} (clear : Clear hub₀ t)
    (fresh : hub₀.inspection? t = none) (present : ∀ id ∈ ids, (hub₀.channel? id).isSome)
    (apart : (ids.map hub₀.channel?).Nodup)
    (run : Run step (hub₀.step now (.inspect t ids)).1 h hub)
    (begins : whole = .taken step hub₀ now (.inspect t ids) :: h)
    (respects : ∀ m ∈ h, Respects t m) (idle : ∀ m ∈ whole, FindsIdle t m) :
    whole.flatMap (visits t) ++ hub.todo t = ids ∧
    (∀ i, hub.inspection? t = some i → whole.countP (answered t) < 3 * ids.length ∧
      ∃ e s c, hub.engine? i.current = some e ∧ e.stage? t = some s ∧ s.Awaits c) ∧
    (∀ m ∈ whole, Addressed t m) ∧
    (∀ id ∈ ids, ∀ c, hub₀.channel? id = some c →
      id ∈ hub.todo t ∧ callsOn t id whole = [] ∧
      hub.stale.contains c = hub₀.stale.contains c ∨
      ∃ m ∈ whole, id ∈ visits t m ∧ ∃ e, m.before.engine? id = some e ∧ e.channel = c ∧
        Treatment hub₀ t whole hub id m e) ∧
    ∀ c, (∀ id ∈ ids, hub₀.channel? id ≠ some c) →
      hub.stale.contains c = hub₀.stale.contains c := by
  subst begins
  obtain ⟨p, inv, finished⟩ := inspects_of_run clear fresh present apart run respects idle
  have waiting : hub.todo t = p.todo := todo_of_stands inv.stands finished
  refine ⟨waiting ▸ inv.order, fun i inspecting => inv.waits inspecting, inv.addressed,
    ?_, inv.others⟩
  intro id member c channel
  cases inv.accounts id member c channel with
  | ahead waits calls _ flag => exact .inl ⟨waiting ▸ waits, calls, flag⟩
  | met _ member visited here channel treatment =>
      exact .inr ⟨_, member, visited, _, here, channel, treatment⟩

end

/-- The hall sensor has failed and the landing sensor was stale when an inspection comes
to the hall sensor. The landing sensor reports before the inspection gets to it. -/
def household : List (Nat × Event) :=
  [(0, .openEngine 0 Engine.hallSensor), (0, .reply 0 .ok), (0, .reply 0 .ok),
    (0, .openEngine 1 (Spec.ofKind "landing" "0x00158d0001a2b3c5" 1 .occupancy)),
    (0, .reply 1 .ok), (0, .reply 1 .ok), (1, .engine 0 (.start 2 (.exchange .activate))),
    (2, .engine 0 (.reply 2 (.fault .gatewayClosed))), (3, .inspect 3 [1])]

def mending : List (Nat × Event) :=
  [(11, .engine 1 (.notify (.bool true))), (12, .engine 0 (.reply 4 .ok)),
    (13, .engine 0 (.reply 4 .ok)), (14, .engine 0 (.reply 4 .ok))]

theorem clear_of_engines {hub : Hub} {t : Ticket} (sole : hub.inspections = [])
    (unopened : hub.opening? t = none) (idle : ∀ e ∈ hub.engines, e.stage? t = none) :
    Clear hub t := by
  refine ⟨fun u _ => by simp [inspection?, sole], unopened, fun id _ => ?_⟩
  cases here : hub.engine? id with
  | none => simp [stageAt, here]
  | some e =>
      rw [stageAt, here, Option.bind_some]
      exact idle e (List.mem_of_getElem? here)

/-- An answer to the inspection is a matter of the engine that it waits for. -/
theorem respects_of_answer {hub : Hub} {t : Ticket} {id : EngineId}
    (inspected : hub.inspected? t = some id) (now : Nat) (r : Reply) :
    Respects t (.taken step hub now (.engine id (.reply t r))) := by
  refine ⟨?_, ?_, ?_, ?_⟩
  · rintro _ _ ⟨⟩
  · rintro _ ⟨⟩
  · rintro _ _ ⟨⟩ -
    exact inspected
  · intro u current
    cases inspected.symm.trans current
    exact .inl ⟨_, rfl, rfl⟩

theorem findsIdle_of_all {t : Ticket} {m : Moment}
    (idle : ∀ id ∈ visits t m, (m.before.engine? id).all (·.lock = ⟨none, []⟩) = true) :
    FindsIdle t m := by
  intro id visited e here _ _
  simpa [here] using idle id visited

theorem household_is_mended :
    let hub₀ := (play step empty household).2
    let (h, hub) := play step (hub₀.step 10 (.inspect 4 [0, 1])).1 mending
    let whole := .taken step hub₀ 10 (.inspect 4 [0, 1]) :: h
    hub₀.stale = ["landing"] ∧ whole.flatMap (visits 4) = [0, 1] ∧ Served 4 0 whole ∧
    Resolved 4 0 whole ∧ hub.stale = [] := by
  intro hub₀
  have clear : Clear hub₀ 4 := clear_of_engines rfl rfl (by decide)
  have run : Run step (hub₀.step 10 (.inspect 4 [0, 1])).1
      (play step (hub₀.step 10 (.inspect 4 [0, 1])).1 mending).1
      (play step (hub₀.step 10 (.inspect 4 [0, 1])).1 mending).2 :=
    Run.nil.append_play mending
  have respects :
      ∀ m ∈ (play step (hub₀.step 10 (.inspect 4 [0, 1])).1 mending).1, Respects 4 m := by
    simp only [mending, play, List.forall_mem_cons]
    refine ⟨⟨?_, ?_, ?_, ?_⟩, respects_of_answer (by decide) ..,
      respects_of_answer (by decide) .., respects_of_answer (by decide) .., by simp⟩
    · rintro _ _ ⟨⟩
    · rintro _ ⟨⟩
    · rintro _ _ ⟨⟩ ⟨⟩
    · rintro _ ⟨⟩
      exact .inr rfl
  obtain ⟨order, -, -, each, -⟩ :=
    inspection_serves_each clear rfl (by decide) (by decide) run rfl respects
      fun m member => findsIdle_of_all (by revert m; decide)
  have finished :
      (play step (hub₀.step 10 (.inspect 4 [0, 1])).1 mending).2.todo 4 = [] := by
    decide
  rw [finished, List.append_nil] at order
  have calls : callsOn 4 0 (.taken step hub₀ 10 (.inspect 4 [0, 1]) ::
      (play step (hub₀.step 10 (.inspect 4 [0, 1])).1 mending).1) = [.resolve, .bind,
      .report 1 7200 none] := by
    decide
  obtain ⟨waits, -⟩ | ⟨m, -, -, e, -, -, treatment⟩ := each 0 (by simp) "occupancy" rfl
  · rw [finished] at waits
    cases waits
  · cases treatment with
    | served _ _ served =>
        obtain ⟨-, single⟩ | ⟨resolved, calls⟩ := served
        · cases calls.symm.trans single
        · exact ⟨by decide, order, .inr ⟨resolved, calls⟩, resolved, by decide⟩
    | noted _ _ none | skipped _ none => cases calls.symm.trans none

end Hub
end MeshReadings
