import MeshReadings.Proofs.Bridge.Listeners

/-!
What is subscribed to. The topic of a device is subscribed to when the first key is filed
under its name, and given up when the last is taken away. So while the client takes every
request, the names in the table of listeners are those whose topics are subscribed to,
whatever the devices were called in between.
-/

namespace MeshReadings

namespace Mqtt

def Request.isPublish : Request → Bool
  | publish .. => true
  | subscribe .. | unsubscribe _ => false

/-- The topics subscribed to when a request was granted. -/
def Request.grant (topics : List String) : Request → List String
  | publish .. => topics
  | subscribe topic _ => topic :: topics
  | unsubscribe topic => topics.filter (· != topic)

/-- The topics subscribed to when requests were granted one after the other. -/
def subscribed (topics : List String) (requests : List Request) : List String :=
  requests.foldl Request.grant topics

/-- A client that takes every request that can be made. -/
def Client.Obliging (c : Client) : Prop :=
  ∀ r : Request, r.isWellFormed = true → c.accepts r = true

/-- What becomes of a request: the client takes it or lets it go. -/
def Client.taking (c : Client) (r : Request) : List Request :=
  if c.accepts r then [r] else []

theorem mem_grant {topics : List String} {topic : String} {r : Request} :
    topic ∈ r.grant topics ↔
      (∃ qos, r = .subscribe topic qos) ∨ topic ∈ topics ∧ r ≠ .unsubscribe topic := by
  cases r with
  | publish => simp [Request.grant]
  | subscribe other _ =>
      rw [Request.grant, List.mem_cons, @eq_comm _ topic]
      simp
  | unsubscribe other =>
      rw [Request.grant, List.mem_filter, bne_iff_ne, ne_comm]
      simp

theorem subscribed_append (topics : List String) (first rest : List Request) :
    subscribed topics (first ++ rest) = subscribed (subscribed topics first) rest :=
  List.foldl_append

theorem subscribed_of_publish {topics : List String} {requests : List Request}
    (publish : ∀ r ∈ requests, r.isPublish = true) :
    subscribed topics requests = topics := by
  induction requests with
  | nil => rfl
  | cons first rest ih =>
      obtain ⟨here, there⟩ := List.forall_mem_cons.mp publish
      have granted : first.grant topics = topics := by
        cases first with
        | publish => rfl
        | subscribe | unsubscribe => cases here
      rw [subscribed, List.foldl_cons, granted]
      exact ih there

theorem Client.obliging_iff {c : Client} :
    c.Obliging ↔ c.isOpen = true ∧ c.isFull = false := by
  constructor
  · intro obliging
    simpa [accepts, Request.isWellFormed] using obliging (.unsubscribe "") rfl
  · intro both r formed
    simp [accepts, formed, both]

theorem Client.Obliging.taking {c : Client} (obliging : c.Obliging) {r : Request}
    (formed : r.isWellFormed = true) : c.taking r = [r] :=
  if_pos (obliging r formed)

theorem Client.queue_offer_eq (c : Client) (r : Request) :
    (c.offer r).queue = c.queue ++ c.taking r := by
  rw [queue_offer, Client.taking]
  split
  · rfl
  · exact (List.append_nil _).symm

end Mqtt

namespace Bridge
open Mqtt (subscribed)

def Effect.request? : Effect → Option Mqtt.Request
  | send r => some r
  | _ => none

/-- The requests that the client was given at a step. -/
def asked (m : Moment) : List Mqtt.Request := m.effects.filterMap Effect.request?

/-- All requests that the client was given, in their order. -/
def requests (h : History) : List Mqtt.Request := h.flatMap asked

/-- The topic that the states of a device with a name come on. -/
def stateTopic (b : Bridge) (name : String) : String := b.baseTopic ++ "/" ++ name

def Obliged (h : History) : Prop := ∀ m ∈ h, m.before.client.Obliging

/-- Every name in a table of listeners is there once, and with keys. -/
structure Tidy (table : List (String × List Key)) : Prop where
  once : (table.map (·.1)).Nodup
  filled : ∀ entry ∈ table, entry.2 ≠ []

/-- What a step asks of the broker, and what it does to the names that keys are filed
under. -/
inductive Asks (m : Moment) : Prop
  | nothing (publish : ∀ r ∈ asked m, r.isPublish = true)
      (kept : ∀ name, m.after.keysAt name = [] ↔ m.before.keysAt name = [])
  | subscription {key : Key} {name : String}
      (subscribe : asked m = [.subscribe (m.before.stateTopic name) 0])
      (files : Files key name m) (alone : m.after.keysAt name = [key])
      (others : ∀ other, other ≠ name → m.after.keysAt other = m.before.keysAt other)
  | release {key : Key} {name : String}
      (unsubscribe : asked m = [.unsubscribe (m.before.stateTopic name)])
      (unfiles : Unfiles key name m) (alone : m.before.keysAt name = [key])
      (gone : m.after.keysAt name = [])
      (others : ∀ other, other ≠ name → m.after.keysAt other = m.before.keysAt other)

/-- What a step tries to ask of the broker, whatever the client takes of it. -/
inductive Bids (m : Moment) : Prop
  | nothing (publish : ∀ r ∈ asked m, r.isPublish = true)
      (kept : ∀ name, m.after.keysAt name = [] ↔ m.before.keysAt name = [])
  | subscription {key : Key} {name : String}
      (subscribe : asked m =
        m.before.client.taking (.subscribe (m.before.stateTopic name) 0))
      (files : Files key name m) (alone : m.after.keysAt name = [key])
      (others : ∀ other, other ≠ name → m.after.keysAt other = m.before.keysAt other)
  | release {key : Key} {name : String}
      (unsubscribe : asked m =
        m.before.client.taking (.unsubscribe (m.before.stateTopic name)))
      (unfiles : Unfiles key name m) (alone : m.before.keysAt name = [key])
      (gone : m.after.keysAt name = [])
      (others : ∀ other, other ≠ name → m.after.keysAt other = m.before.keysAt other)

/-- Nothing but publications went to the client on the way from one state to another. -/
def Publishes (b b' : Bridge) : Prop :=
  ∃ added, b'.client.queue = b.client.queue ++ added ∧ ∀ r ∈ added, r.isPublish = true

theorem requests_snoc (h : History) (m : Moment) :
    requests (h ++ [m]) = requests h ++ asked m := by
  simp [requests]

theorem mem_asked {m : Moment} {r : Mqtt.Request} :
    r ∈ asked m ↔ .send r ∈ m.effects := by
  simp only [asked, List.mem_filterMap]
  constructor
  · intro given
    obtain ⟨effect, member, same⟩ := given
    cases effect with
    | send r' =>
        cases same
        exact member
    | reply | event => cases same
  · intro member
    exact ⟨_, member, rfl⟩

theorem eq_singleton_of_filter_ne {key : Key} {keys : List Key} (distinct : keys.Nodup)
    (filled : keys ≠ []) (gone : keys.filter (· != key) = []) : keys = [key] := by
  have only : ∀ k ∈ keys, k = key := by simpa using gone
  cases keys with
  | nil => exact absurd rfl filled
  | cons first rest =>
      obtain ⟨rfl, only⟩ := List.forall_mem_cons.mp only
      cases rest with
      | nil => rfl
      | cons second _ =>
          cases only second List.mem_cons_self
          exact absurd List.mem_cons_self (List.nodup_cons.mp distinct).1

section
variable (b : Bridge) (now : Nat) {t : Ticket} {key : Key} {name : String}

theorem stateTopic_inj {other : String} :
    b.stateTopic name = b.stateTopic other ↔ name = other := by
  simp [stateTopic, ← String.toList_inj]

/-- The requests of a call are what it adds to the client's queue. -/
theorem asked_call {c : Call} {added : List Mqtt.Request}
    (queue : (b.step now (.call t key c)).1.client.queue = b.client.queue ++ added) :
    asked (.taken step b now (.call t key c)) = added := by
  have replies (r? : Option Reply) :
      (r?.map (Effect.reply t)).toList.filterMap Effect.request? = [] := by
    cases r? <;> rfl
  have sends (rs : List Mqtt.Request) :
      (rs.map Effect.send).filterMap Effect.request? = rs := by
    simp [List.filterMap_map, Function.comp_def, Effect.request?]
  simp only [asked, Moment.taken, step] at queue ⊢
  rw [List.filterMap_append, replies, List.append_nil, sent, sends, queue, List.drop_left]

theorem tidy_setKeys (tidy : Tidy b.listeners) (name : String) (keys : List Key) :
    Tidy (b.setKeys name keys).listeners := by
  have others : Tidy (b.listeners.filter (·.1 != name)) :=
    ⟨tidy.once.sublist (List.filter_sublist.map _),
      fun entry member => tidy.filled entry (List.mem_filter.mp member).1⟩
  cases keys with
  | nil => exact others
  | cons first rest =>
      refine ⟨?_, fun entry member => ?_⟩
      · simpa [setKeys] using others.once
      · obtain rfl | member := List.mem_cons.mp member
        · exact List.cons_ne_nil first rest
        · exact others.filled entry member

theorem tidy_listen (tidy : Tidy b.listeners) : Tidy (b.listen key).1.listeners := by
  simp only [listen]
  split
  · exact tidy
  · next name _ =>
      generalize (if (b.keysAt name).contains key then b.keysAt name
        else b.keysAt name ++ [key]) = keys
      have filed := b.tidy_setKeys tidy name keys
      split
      · split
        · exact filed
        · exact filed
      · exact filed

theorem tidy_unlisten (tidy : Tidy b.listeners) : Tidy (b.unlisten key).listeners := by
  simp only [unlisten]
  split
  · exact tidy
  · next name _ =>
      split
      · exact tidy
      · next keys _ =>
          have filed := b.tidy_setKeys tidy name (keys.filter (· != key))
          split
          · exact filed
          · exact filed

theorem tidy_step (tidy : Tidy b.listeners) (event : Event) :
    Tidy (b.step now event).1.listeners := by
  obtain ⟨_, _, -, -, same⟩ | ⟨_, _, -, -, same⟩ | ⟨-, same⟩ := b.filing_cases now event
  · exact same ▸ b.tidy_listen tidy
  · exact same ▸ b.tidy_unlisten tidy
  · exact same ▸ tidy

/-- The table has the names that keys are filed under. -/
theorem mem_listeners_iff (tidy : Tidy b.listeners) (name : String) (keys : List Key) :
    (name, keys) ∈ b.listeners ↔ b.keysAt name = keys ∧ keys ≠ [] := by
  constructor
  · intro member
    obtain ⟨entry, found, rfl⟩ :=
      Option.map_eq_some_iff.mp (value_of_mem tidy.once member)
    exact ⟨by rw [keysAt, found], tidy.filled (name, entry.2) member⟩
  · intro both
    obtain ⟨rfl, filled⟩ := both
    rw [keysAt] at filled ⊢
    split at filled
    · next entry found => exact mem_of_value (by simp [found])
    · exact absurd rfl filled

theorem queue_listen (known : b.friendlyName? key = some name) :
    (b.listen key).1.client.queue = b.client.queue ++
      if ((b.listen key).1.keysAt name).length = 1 then
          b.client.taking (.subscribe (b.stateTopic name) 0) else [] := by
  rw [keysAt_listen, if_pos known]
  simp only [listen, known]
  generalize (if (b.keysAt name).contains key then b.keysAt name
    else b.keysAt name ++ [key]) = keys
  split
  · rw [Mqtt.Client.taking]
    split
    · next refused =>
        have lost : b.client.send? (.subscribe (b.stateTopic name) 0) = none := refused
        simp only [Mqtt.Client.send?, ite_eq_right_iff, reduceCtorEq, imp_false] at lost
        rw [if_neg lost, List.append_nil]
        rfl
    · next client sent =>
        obtain ⟨accepted, rfl⟩ := Mqtt.Client.send?_eq_some_iff.mp sent
        exact congrArg (b.client.queue ++ ·) (if_pos accepted).symm
  · exact (List.append_nil _).symm

theorem queue_unlisten (tidy : Tidy b.listeners)
    (known : b.friendlyName? key = some name) :
    (b.unlisten key).client.queue = b.client.queue ++
      if b.keysAt name ≠ [] ∧ (b.unlisten key).keysAt name = [] then
        b.client.taking (.unsubscribe (b.stateTopic name))
      else [] := by
  rw [keysAt_unlisten, if_pos known]
  simp only [unlisten, known]
  split
  · next absent => simp [keysAt, absent]
  · next keys found =>
      have entry : b.keysAt name = keys := by rw [keysAt, found]
      have filled : keys ≠ [] := tidy.filled _ (List.mem_of_find?_eq_some found)
      rw [entry]
      split
      · next empty =>
          rw [if_pos ⟨filled, List.isEmpty_iff.mp empty⟩]
          exact b.client.queue_offer_eq _
      · next more =>
          rw [if_neg fun both => more (List.isEmpty_iff.mpr both.2)]
          exact (List.append_nil _).symm

/-- The first key that is filed under a name calls for the subscription. -/
theorem listen_cases (key : Key) :
    ((b.listen key).1.client.queue = b.client.queue ∧
      ∀ name, (b.listen key).1.keysAt name = [] ↔ b.keysAt name = []) ∨
    ∃ name, b.friendlyName? key = some name ∧
      (b.listen key).1.client.queue =
        b.client.queue ++ b.client.taking (.subscribe (b.stateTopic name) 0) ∧
      (b.listen key).1.keysAt name = [key] ∧
      ∀ other, other ≠ name → (b.listen key).1.keysAt other = b.keysAt other := by
  have elsewhere (name : String) (other : b.friendlyName? key ≠ some name) :
      (b.listen key).1.keysAt name = b.keysAt name := by
    rw [keysAt_listen, if_neg other]
  cases known : b.friendlyName? key with
  | none =>
      refine Or.inl ⟨by simp [listen, known], fun name => ?_⟩
      rw [elsewhere name (by simp [known])]
  | some name =>
      have queue := b.queue_listen known
      have here : key ∈ (b.listen key).1.keysAt name :=
        (b.mem_keysAt_listen ..).mpr (.inl ⟨rfl, known⟩)
      have others (other : String) (apart : other ≠ name) :
          (b.listen key).1.keysAt other = b.keysAt other :=
        elsewhere other (by simp [known, Ne.symm apart])
      by_cases single : ((b.listen key).1.keysAt name).length = 1
      · rw [if_pos single] at queue
        obtain ⟨only, alone⟩ := List.length_eq_one_iff.mp single
        rw [alone, List.mem_singleton] at here
        exact Or.inr ⟨name, rfl, queue, here ▸ alone, others⟩
      · rw [if_neg single, List.append_nil] at queue
        refine Or.inl ⟨queue, fun other => ?_⟩
        by_cases same : other = name
        · subst same
          -- Had the name been without keys, this one would now be its only one.
          refine iff_of_false (List.ne_nil_of_mem here) fun empty => single ?_
          rw [keysAt_listen, if_pos known, empty]
          rfl
        · rw [others other same]

/-- The last key that is taken away from under a name is to take the subscription with
it. -/
theorem unlisten_cases (key : Key) (tidy : Tidy b.listeners)
    (distinct : ∀ name, (b.keysAt name).Nodup) :
    ((b.unlisten key).client.queue = b.client.queue ∧
      ∀ name, (b.unlisten key).keysAt name = [] ↔ b.keysAt name = []) ∨
    ∃ name, b.friendlyName? key = some name ∧
      (b.unlisten key).client.queue =
        b.client.queue ++ b.client.taking (.unsubscribe (b.stateTopic name)) ∧
      b.keysAt name = [key] ∧ (b.unlisten key).keysAt name = [] ∧
      ∀ other, other ≠ name → (b.unlisten key).keysAt other = b.keysAt other := by
  have elsewhere (name : String) (other : b.friendlyName? key ≠ some name) :
      (b.unlisten key).keysAt name = b.keysAt name := by
    rw [keysAt_unlisten, if_neg other]
  cases known : b.friendlyName? key with
  | none =>
      refine Or.inl ⟨by simp [unlisten, known], fun name => ?_⟩
      rw [elsewhere name (by simp [known])]
  | some name =>
      have queue := b.queue_unlisten tidy known
      have left : (b.unlisten key).keysAt name = (b.keysAt name).filter (· != key) := by
        rw [keysAt_unlisten, if_pos known]
      have others (other : String) (apart : other ≠ name) :
          (b.unlisten key).keysAt other = b.keysAt other :=
        elsewhere other (by simp [known, Ne.symm apart])
      by_cases last : b.keysAt name ≠ [] ∧ (b.unlisten key).keysAt name = []
      · rw [if_pos last] at queue
        obtain ⟨filled, gone⟩ := last
        -- No key is filed twice, so the one whose removal leaves nothing was the only
        -- one.
        have alone :=
          eq_singleton_of_filter_ne (distinct name) filled (left.symm.trans gone)
        exact Or.inr ⟨name, rfl, queue, alone, gone, others⟩
      · rw [if_neg last, List.append_nil] at queue
        refine Or.inl ⟨queue, fun other => ?_⟩
        by_cases same : other = name
        · subst same
          refine ⟨fun gone => ?_, fun empty => by rw [left, empty, List.filter_nil]⟩
          by_contra filled
          exact last ⟨filled, gone⟩
        · rw [others other same]

theorem publishes_self : Publishes b b := ⟨[], (List.append_nil _).symm, by simp⟩

theorem publishes_of_send? {b' : Bridge} {r : Mqtt.Request}
    (accepted : b.client.send? r = some b'.client) (publish : r.isPublish = true) :
    Publishes b b' :=
  ⟨[r], congrArg Mqtt.Client.queue (Mqtt.Client.send?_eq_some_iff.mp accepted).2,
    List.forall_mem_singleton.mpr publish⟩

theorem publishes_request (operation : String) (fields : List (String × Json)) :
    Publishes b (b.request now t operation fields).1 := by
  simp only [request]
  split
  · exact b.publishes_self
  · split
    · exact b.publishes_self
    · next client accepted => exact b.publishes_of_send? accepted rfl

theorem publishes_read (key : Key) : Publishes b (b.read key).1 := by
  simp only [read]
  split
  · exact b.publishes_self
  · split
    · exact b.publishes_self
    · split
      · exact b.publishes_self
      · split
        · exact b.publishes_self
        · next client accepted => exact b.publishes_of_send? accepted rfl

theorem publishes_place (key : Key) {c : Call} (other : c ≠ .listen ∧ c ≠ .unlisten) :
    Publishes b (b.place now t key c).1 := by
  cases c with
  | listen => exact absurd rfl other.1
  | unlisten => exact absurd rfl other.2
  | resolve => exact b.publishes_self
  | bind => exact b.publishes_request now _ _
  | report min max change =>
      simp only [place]
      split
      · exact b.publishes_self
      · exact b.publishes_request now _ _
  | read => exact b.publishes_read key

/-- Nothing but listening and stopping to do so asks for more than publications. -/
theorem publishes_step (event : Event)
    (other : ∀ key c, Calls key c (.taken step b now event) →
      c ≠ .listen ∧ c ≠ .unlisten) :
    ∀ r ∈ asked (.taken step b now event), r.isPublish = true := by
  cases event with
  | call t key c =>
      have publishes : Publishes b (b.step now (.call t key c)).1 := by
        simp only [step, call]
        split
        · exact b.publishes_self
        · next fresh =>
            exact b.publishes_place now key
              (other key c ((calls_iff b key key).mpr ⟨rfl, rfl, by simpa using fresh⟩))
      obtain ⟨added, queue, publish⟩ := publishes
      rwa [b.asked_call now queue]
  | message topic payload => simp [mem_asked, Moment.taken, step]
  | collect t =>
      simp only [mem_asked, Moment.taken, step, collect]
      split <;> simp
  | abandon t | close | client c => simp [mem_asked, Moment.taken, step]

theorem step_bids (tidy : Tidy b.listeners) (distinct : ∀ name, (b.keysAt name).Nodup)
    (event : Event) : Bids (.taken step b now event) := by
  have quiet {after : Bridge} {t : Ticket} {key : Key} {c : Call}
      (leads : (b.step now (.call t key c)).1 = after)
      (queue : after.client.queue = b.client.queue)
      (kept : ∀ name, after.keysAt name = [] ↔ b.keysAt name = []) :
      Bids (.taken step b now (.call t key c)) := by
    subst leads
    refine .nothing ?_ kept
    rw [b.asked_call now (queue.trans (List.append_nil _).symm)]
    simp
  obtain ⟨t, key, rfl, fresh, -⟩ | ⟨t, key, rfl, fresh, -⟩ | ⟨other, same⟩ :=
    b.filing_cases now event
  · have leads := b.step_listen key now fresh
    obtain ⟨queue, kept⟩ | ⟨name, known, queue, alone, others⟩ := b.listen_cases key
    · exact quiet leads queue kept
    · rw [← leads] at queue alone others
      exact .subscription (b.asked_call now queue) ⟨⟨t, rfl, fresh⟩, known⟩ alone others
  · have leads := b.step_unlisten key now fresh
    obtain ⟨queue, kept⟩ | ⟨name, known, queue, alone, gone, others⟩ :=
      b.unlisten_cases key tidy distinct
    · exact quiet leads queue kept
    · rw [← leads] at queue gone others
      exact .release (b.asked_call now queue) ⟨⟨t, rfl, fresh⟩, known⟩ alone gone others
  · exact .nothing (b.publishes_step now event other) fun name =>
      iff_of_eq (congrArg (· = []) (keysAt_congr same name))

end

section
variable {m : Moment} {topics : List String} {name : String}

/-- A client that takes every request is asked for all that is tried. -/
theorem Bids.asks (bids : Bids m) (obliging : m.before.client.Obliging) : Asks m := by
  cases bids with
  | nothing publish kept => exact .nothing publish kept
  | subscription subscribe files alone others =>
      rw [obliging.taking rfl] at subscribe
      exact .subscription subscribe files alone others
  | release unsubscribe unfiles alone gone others =>
      rw [obliging.taking rfl] at unsubscribe
      exact .release unsubscribe unfiles alone gone others

/-- A name has its topic subscribed to after a step if it has keys then, provided that it
was so before. -/
theorem Asks.subscribed_iff (asks : Asks m)
    (before : m.before.stateTopic name ∈ topics ↔ m.before.keysAt name ≠ []) :
    m.before.stateTopic name ∈ subscribed topics (asked m) ↔
      m.after.keysAt name ≠ [] := by
  have granted (r : Mqtt.Request) : subscribed topics [r] = r.grant topics := rfl
  cases asks with
  | nothing publish kept =>
      rw [Mqtt.subscribed_of_publish publish, before]
      exact not_congr (kept name).symm
  | @subscription key present subscribe _ alone others =>
      rw [subscribe, granted, Mqtt.mem_grant]
      by_cases same : name = present
      · subst same
        simp [alone]
      · simp [others name same, before, stateTopic_inj, Ne.symm same]
  | @release key present unsubscribe _ _ gone others =>
      rw [unsubscribe, granted, Mqtt.mem_grant]
      by_cases same : name = present
      · subst same
        simp [gone]
      · simp [others name same, before, stateTopic_inj, Ne.symm same]

end

section
variable {s : Settings} {h : History} {b : Bridge}

theorem RunOf.tidy (run : RunOf s h b) : Tidy b.listeners := by
  refine run.induct (P := fun _ b => Tidy b.listeners) ?_ ?_
  · exact ⟨List.nodup_nil, by simp [ofSettings]⟩
  · intro _ b now event _ tidy
    exact b.tidy_step now tidy event

theorem RunOf.bids (run : RunOf s h b) (now : Nat) (event : Event) :
    Bids (.taken step b now event) :=
  b.step_bids now run.tidy run.nodup_keysAt event

theorem RunOf.asks (run : RunOf s h b) (obliging : b.client.Obliging) (now : Nat)
    (event : Event) : Asks (.taken step b now event) :=
  (run.bids now event).asks obliging

theorem RunOf.stateTopic_eq (run : RunOf s h b) (name : String) :
    b.stateTopic name = s.baseTopic ++ "/" ++ name := by
  rw [stateTopic, baseTopic, run.settings]

theorem RunOf.subscribed_iff (run : RunOf s h b) (obliged : Obliged h)
    {topics : List String} {name : String}
    (elsewhere : s.baseTopic ++ "/" ++ name ∉ topics) :
    s.baseTopic ++ "/" ++ name ∈ subscribed topics (requests h) ↔ b.keysAt name ≠ [] := by
  refine run.induct (P := fun h b => Obliged h →
    (s.baseTopic ++ "/" ++ name ∈ subscribed topics (requests h) ↔ b.keysAt name ≠ []))
    ?_ ?_ obliged
  · intro _
    simpa [requests, subscribed, ofSettings, keysAt] using elsewhere
  · intro h b now event run ih obliged
    obtain ⟨earlier, latest⟩ := List.forall_mem_append.mp obliged
    have asks := run.asks (latest _ (List.mem_singleton_self _)) now event
    rw [← run.stateTopic_eq] at ih ⊢
    rw [requests_snoc, Mqtt.subscribed_append]
    exact asks.subscribed_iff (ih earlier)

/-- As long as the client takes every request, the names in the table of listeners are
those whose topics are subscribed to, whatever else may have been before. No name is there
twice or without keys, and no key twice under one name. A topic is given up only when the
last key under its name is listened to no more. -/
theorem subscribed_iff_listed (run : RunOf s h b) (obliged : Obliged h) :
    (∀ topics name, s.baseTopic ++ "/" ++ name ∉ topics →
      (s.baseTopic ++ "/" ++ name ∈ subscribed topics (requests h) ↔
        ∃ keys, (name, keys) ∈ b.listeners)) ∧
    (b.listeners.map (·.1)).Nodup ∧
    (∀ name keys, (name, keys) ∈ b.listeners → keys ≠ [] ∧ keys.Nodup) ∧
    ∀ m ∈ h, ∀ name, .send (.unsubscribe (s.baseTopic ++ "/" ++ name)) ∈ m.effects →
      (∃ key, Unfiles key name m ∧ m.before.keysAt name = [key]) ∧
      m.after.keysAt name = [] := by
  have listed := b.mem_listeners_iff run.tidy
  refine ⟨fun topics name elsewhere => ?_, run.tidy.once, fun name keys member => ?_,
    fun m member name released => ?_⟩
  · rw [run.subscribed_iff obliged elsewhere]
    simp [listed]
  · obtain ⟨rfl, filled⟩ := (listed name keys).mp member
    exact ⟨filled, run.nodup_keysAt name⟩
  · obtain ⟨h₁, h₂, rfl⟩ := List.append_of_mem member
    obtain ⟨before, taken⟩ := run.reaches_before
    have asks : Asks m := by
      rw [taken]
      exact before.asks (obliged m member) m.now m.event
    rw [← before.stateTopic_eq, ← mem_asked] at released
    cases asks with
    | nothing publish _ => cases publish _ released
    | subscription subscribe =>
        rw [subscribe] at released
        simp at released
    | release unsubscribe unfiles alone gone =>
        rw [unsubscribe, List.mem_singleton, Mqtt.Request.unsubscribe.injEq,
          stateTopic_inj] at released
        subst released
        exact ⟨⟨_, unfiles, alone⟩, gone⟩

end

/-- The same sensor also tells the temperature. -/
def hallWarmth : Key := ⟨"0x00158d0001a2b3c4", 1, .temperatureMeasurement, 0⟩

/-- Two keys of the hall sensor are listened to, and one of them is not any more. -/
def shared : List (Nat × Event) :=
  [(0, .message "zigbee2mqtt/bridge/devices" (hallNamed "hall")),
    (0, .call 0 hallKey .listen),
    (0, .call 1 hallWarmth .listen), (1, .call 0 hallKey .unlisten)]

theorem shared_topic_kept :
    let (h, b) := play step (ofSettings {}) shared
    RunOf {} h b ∧ Obliged h ∧ b.listeners = [("hall", [hallWarmth])] ∧
      "zigbee2mqtt/hall" ∈ subscribed [] (requests h) := by
  have run := RunOf.play {} shared
  obtain ⟨ready, table⟩ :
      (∀ m ∈ (play step (ofSettings {}) shared).1, m.before.client.isOpen = true ∧
        m.before.client.isFull = false) ∧
        (play step (ofSettings {}) shared).2.listeners = [("hall", [hallWarmth])] := by
    decide +kernel
  have obliged : Obliged (play step (ofSettings {}) shared).1 := fun m member =>
    Mqtt.Client.obliging_iff.mpr (ready m member)
  have listed := (subscribed_iff_listed run obliged).1 [] "hall" List.not_mem_nil
  exact ⟨run, obliged, table, listed.mpr ⟨[hallWarmth], by simp [table]⟩⟩

end Bridge
end MeshReadings
