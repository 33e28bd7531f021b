import MeshReadings.Proofs.Bridge.Subscriptions

/-!
What a client that refuses requests does to those who listen. A key is filed before its
topic is subscribed to, and stays filed when the subscription is refused. Whoever listens
to another key of that device then finds the table in use, subscribes to nothing and is
told that all is well, until a subscription is tried again and taken.
-/

namespace MeshReadings

/-- What is subscribed to was so before, or it was asked for. -/
theorem Mqtt.mem_of_subscribed {topics : List String} {requests : List Request}
    {topic : String} (member : topic ∈ subscribed topics requests) :
    topic ∈ topics ∨ ∃ qos, .subscribe topic qos ∈ requests := by
  induction requests generalizing topics with
  | nil => exact .inl member
  | cons first rest ih =>
      obtain granted | ⟨qos, asked⟩ := ih member
      · obtain ⟨qos, rfl⟩ | ⟨earlier, -⟩ := mem_grant.mp granted
        · exact .inr ⟨qos, List.mem_cons_self⟩
        · exact .inl earlier
      · exact .inr ⟨qos, List.mem_cons_of_mem _ asked⟩

/-- What is subscribed to stays so unless it is given up. -/
theorem Mqtt.subscribed_of_mem {topics : List String} {requests : List Request}
    {topic : String} (member : topic ∈ topics) (kept : .unsubscribe topic ∉ requests) :
    topic ∈ subscribed topics requests := by
  induction requests generalizing topics with
  | nil => exact member
  | cons first rest ih =>
      rw [List.mem_cons, not_or] at kept
      exact ih (mem_grant.mpr (.inr ⟨member, Ne.symm kept.1⟩)) kept.2

theorem Mqtt.Client.mem_taking {c : Client} {r r' : Request} (member : r ∈ c.taking r') :
    r = r' := by
  rw [taking] at member
  split at member
  · exact List.mem_singleton.mp member
  · contradiction

namespace Bridge
open Mqtt (subscribed)

/-- A caller is told that listening to a key under a name failed, and the topic of the
name is not subscribed to. -/
def Refused (name : String) (h : History) (m : Moment) : Prop :=
  (∃ key, Files key name m) ∧ (∃ t f, .reply t (.fault f) ∈ m.effects) ∧
    m.before.stateTopic name ∉ subscribed [] (requests (h ++ [m]))

/-- Since such a failure no subscription to the topic of the name was taken. -/
def Deaf (name : String) (h : History) : Prop :=
  Since (Refused name)
    (fun m => ∀ qos, .send (.subscribe (m.before.stateTopic name) qos) ∉ m.effects) h

theorem mem_of_reply {effects : List Effect} {t : Ticket} {r : Reply}
    (told : (t, r) ∈ effects.filterMap Effect.reply?) : .reply t r ∈ effects := by
  obtain ⟨effect, member, same⟩ := List.mem_filterMap.mp told
  cases effect with
  | reply =>
      cases same
      exact member
  | send | event => cases same

section
variable (b : Bridge) {now : Nat} {t : Ticket} {key : Key} {name : String}

/-- Listening fails where it is the subscription that fails. -/
theorem listen_reply_eq (known : b.friendlyName? key = some name) :
    (b.listen key).2 =
      if ((b.listen key).1.keysAt name).length = 1 ∧
        b.client.accepts (.subscribe (b.stateTopic name) 0) = false then
        .fault .clientRefused
      else .ok := by
  rw [keysAt_listen, if_pos known]
  simp only [listen, known]
  generalize (if (b.keysAt name).contains key then b.keysAt name
    else b.keysAt name ++ [key]) = keys
  have same : b.client.send? (.subscribe (b.stateTopic name) 0) =
    (b.setKeys name keys).client.send?
      (.subscribe ((b.setKeys name keys).baseTopic ++ "/" ++ name) 0) :=
  rfl
  split
  · next single =>
      rw [← same]
      cases accepted : b.client.accepts (.subscribe (b.stateTopic name) 0) <;>
        simp [Mqtt.Client.send?, accepted, single]
  · next more => simp [more]

/-- A first key's failure to be subscribed to is told. -/
theorem fault_of_refused {event : Event}
    (files : Files key name (.taken step b now event))
    (alone : (b.step now event).1.keysAt name = [key])
    (refuses : b.client.accepts (.subscribe (b.stateTopic name) 0) = false) :
    ∃ t f, .reply t (.fault f) ∈ (b.step now event).2 := by
  obtain ⟨⟨t, same, fresh⟩, known⟩ := files
  cases same
  rw [b.step_listen key now fresh] at alone
  have fails : (b.listen key).2 = .fault .clientRefused := by
    rw [b.listen_reply_eq known, if_pos ⟨by rw [alone]; rfl, refuses⟩]
  refine ⟨t, .clientRefused, mem_of_reply ?_⟩
  rw [b.replies_listen key now fresh, fails]
  exact List.mem_singleton_self _

theorem keysAt_listen_alone (distinct : (b.keysAt name).Nodup)
    (known : b.friendlyName? key = some name) :
    ((b.listen key).1.keysAt name).length = 1 ↔ ∀ k ∈ b.keysAt name, k = key := by
  have here : key ∈ (b.listen key).1.keysAt name :=
    (b.mem_keysAt_listen ..).mpr (.inl ⟨rfl, known⟩)
  constructor
  · intro single k member
    obtain ⟨only, alone⟩ := List.length_eq_one_iff.mp single
    have kept : k ∈ (b.listen key).1.keysAt name :=
      (b.mem_keysAt_listen ..).mpr (.inr member)
    rw [alone, List.mem_singleton] at here kept
    rw [kept, here]
  · intro lone
    have alone : (b.listen key).1.keysAt name = [key] := by
      apply eq_singleton_of_filter_ne (b.nodup_keysAt_listen key name distinct)
        (List.ne_nil_of_mem here)
      rw [List.filter_eq_nil_iff]
      intro k member
      obtain ⟨same, -⟩ | earlier := (b.mem_keysAt_listen ..).mp member
      · simp [same]
      · simp [lone k earlier]
    rw [alone]
    rfl

/-- A single key filed under the name is the one listened to, and nothing else in the
table has changed. -/
theorem keysAt_listen_of_single (known : b.friendlyName? key = some name)
    (single : ((b.listen key).1.keysAt name).length = 1) (other : String) :
    (b.listen key).1.keysAt other = if some name = some other then [key]
      else b.keysAt other := by
  split
  · next same =>
      cases same
      have here : key ∈ (b.listen key).1.keysAt name :=
        (b.mem_keysAt_listen ..).mpr (.inl ⟨rfl, known⟩)
      obtain ⟨only, alone⟩ := List.length_eq_one_iff.mp single
      rw [alone, List.mem_singleton] at here
      rw [alone, here]
  · next apart => rw [keysAt_listen, if_neg (known ▸ apart)]

end

section
variable {s : Settings} {h : History} {b : Bridge} {m : Moment} {name : String}

theorem not_subscribed_of_deaf (run : RunOf s h b) (deaf : Deaf name h) :
    s.baseTopic ++ "/" ++ name ∉ subscribed [] (requests h) := by
  refine run.induct (P := fun h _ => Deaf name h →
    s.baseTopic ++ "/" ++ name ∉ subscribed [] (requests h)) ?_ ?_ deaf
  · intro deaf
    exact absurd deaf not_since_nil
  · intro h b now event run ih deaf
    rw [← run.stateTopic_eq] at ih ⊢
    obtain ⟨-, -, missed⟩ | ⟨earlier, still⟩ := (since_snoc ..).mp deaf
    · exact missed
    · intro subscribed
      rw [requests_snoc, Mqtt.subscribed_append] at subscribed
      obtain before | ⟨qos, asked⟩ := Mqtt.mem_of_subscribed subscribed
      · exact ih earlier before
      · exact still qos (mem_asked.mp asked)

/-- A moment that asks for nothing about a topic leaves it subscribed to, or its name
deaf. -/
theorem subscribed_or_deaf_snoc
    (others : ∀ r ∈ asked m, r ≠ .unsubscribe (m.before.stateTopic name) ∧
      ∀ qos, r ≠ .subscribe (m.before.stateTopic name) qos)
    (before : m.before.stateTopic name ∈ subscribed [] (requests h) ∨ Deaf name h) :
    m.before.stateTopic name ∈ subscribed [] (requests (h ++ [m])) ∨
    Deaf name (h ++ [m]) := by
  obtain granted | deaf := before
  · rw [requests_snoc, Mqtt.subscribed_append]
    exact .inl (Mqtt.subscribed_of_mem granted fun released => (others _ released).1 rfl)
  · exact .inr ((since_snoc ..).mpr
      (.inr ⟨deaf, fun qos sent => (others _ (mem_asked.mpr sent)).2 qos rfl⟩))

/-- The first key under a name has its topic subscribed to. If the client refuses, the
name is deaf from then on, unless a subscription from before has stayed. -/
theorem subscribed_or_deaf_of_first {now : Nat} {event : Event} {key : Key}
    (files : Files key name (.taken step b now event))
    (alone : (b.step now event).1.keysAt name = [key])
    (given : asked (.taken step b now event) =
      b.client.taking (.subscribe (b.stateTopic name) 0)) :
    b.stateTopic name ∈ subscribed [] (requests (h ++ [.taken step b now event])) ∨
      Deaf name (h ++ [.taken step b now event]) := by
  cases accepts : b.client.accepts (.subscribe (b.stateTopic name) 0) with
  | true =>
      rw [requests_snoc, Mqtt.subscribed_append, given, Mqtt.Client.taking,
        if_pos accepts]
      exact .inl List.mem_cons_self
  | false =>
      have same : requests (h ++ [.taken step b now event]) = requests h := by
        rw [requests_snoc, given, Mqtt.Client.taking, if_neg (by simp [accepts]),
          List.append_nil]
      by_cases before : b.stateTopic name ∈ subscribed [] (requests h)
      · exact .inl (same ▸ before)
      · exact .inr ((since_snoc ..).mpr
          (.inl ⟨⟨key, files⟩, b.fault_of_refused files alone accepts, same ▸ before⟩))

/-- A name has its topic subscribed to or is deaf while keys are filed under it. -/
theorem subscribed_or_deaf (run : RunOf s h b) (filled : b.keysAt name ≠ []) :
    s.baseTopic ++ "/" ++ name ∈ subscribed [] (requests h) ∨ Deaf name h := by
  refine run.induct (P := fun h b => b.keysAt name ≠ [] →
    s.baseTopic ++ "/" ++ name ∈ subscribed [] (requests h) ∨ Deaf name h) ?_ ?_ filled
  · intro filled
    exact absurd rfl filled
  · intro h b now event run ih filled
    rw [← run.stateTopic_eq] at ih ⊢
    cases run.bids now event with
    | nothing publish kept =>
        refine subscribed_or_deaf_snoc (fun r given => ?_)
          (ih fun empty => filled ((kept name).mpr empty))
        have published := publish r given
        constructor
        · rintro rfl
          contradiction
        · rintro qos rfl
          contradiction
    | @subscription key present subscribe files alone others =>
        by_cases same : name = present
        · exact subscribed_or_deaf_of_first (same ▸ files) (same ▸ alone)
            (same ▸ subscribe)
        · refine subscribed_or_deaf_snoc (fun r given => ?_)
            (ih (others name same ▸ filled))
          rw [subscribe] at given
          obtain rfl := Mqtt.Client.mem_taking given
          simp [Moment.taken, stateTopic_inj, Ne.symm same]
    | @release key present unsubscribe _ _ gone others =>
        by_cases same : name = present
        · exact absurd (same ▸ gone) filled
        · refine subscribed_or_deaf_snoc (fun r given => ?_)
            (ih (others name same ▸ filled))
          rw [unsubscribe] at given
          obtain rfl := Mqtt.Client.mem_taking given
          simp [Moment.taken, stateTopic_inj, Ne.symm same]

/-- What comes of listening to a key. It fails if the device has no name, or if no other
key is filed under the name and the client refuses the subscription, and then the key is
filed under the name all the same: the table is as before only if there is no name, or the
key was filed there already. Otherwise it succeeds, and then the topic of the name is
subscribed to unless the name is deaf. -/
theorem listening_succeeds_deaf_or_subscribed (run : RunOf s h b) {t : Ticket}
    (fresh : b.wait? t = none) (now : Nat) (key : Key) :
    let m : Moment := .taken step b now (.call t key .listen)
    ((∃ f, m.effects.filterMap Effect.reply? = [(t, .fault f)]) ∧
      (∀ name, b.friendlyName? key = some name → (∀ k ∈ b.keysAt name, k = key) ∧
        b.client.accepts (.subscribe (s.baseTopic ++ "/" ++ name) 0) = false) ∧
      ∀ name, m.after.keysAt name = if b.friendlyName? key = some name then [key]
        else b.keysAt name) ∨
    m.effects.filterMap Effect.reply? = [(t, .ok)] ∧
      ∃ name, b.friendlyName? key = some name ∧
        ((∃ k ∈ b.keysAt name, k ≠ key) ∨
          b.client.accepts (.subscribe (s.baseTopic ++ "/" ++ name) 0) = true) ∧
        (s.baseTopic ++ "/" ++ name ∈ subscribed [] (requests (h ++ [m])) ↔
          ¬ Deaf name (h ++ [m])) := by
  have replies := b.replies_listen key now fresh
  have leads := b.step_listen key now fresh
  cases known : b.friendlyName? key with
  | none =>
      refine .inl ⟨⟨.attributeNotFound key.display, ?_⟩, ?_, fun name => ?_⟩
      · rw [Moment.taken, replies]
        simp [listen, known]
      · intro name named
        contradiction
      · rw [Moment.taken, leads, keysAt_listen, if_neg (by simp [known]),
          if_neg (by simp)]
  | some name =>
      have reply := b.listen_reply_eq known
      have lone := b.keysAt_listen_alone (run.nodup_keysAt name) known
      have here : key ∈ (b.step now (.call t key .listen)).1.keysAt name := by
        rw [leads]
        exact (b.mem_keysAt_listen ..).mpr (.inl ⟨rfl, known⟩)
      rw [run.stateTopic_eq] at reply
      by_cases fails : ((b.listen key).1.keysAt name).length = 1 ∧
          b.client.accepts (.subscribe (s.baseTopic ++ "/" ++ name) 0) = false
      · rw [if_pos fails] at reply
        refine .inl
          ⟨⟨.clientRefused, by rw [Moment.taken, replies, reply]⟩, ?_, fun other => ?_⟩
        · rintro _ ⟨⟩
          exact ⟨lone.mp fails.1, fails.2⟩
        · rw [Moment.taken, leads, b.keysAt_listen_of_single known fails.1]
      · rw [if_neg fails] at reply
        have after : RunOf s (h ++ [.taken step b now (.call t key .listen)]) _ :=
          run.snoc now _
        refine .inr ⟨by rw [Moment.taken, replies, reply], name, rfl, ?_, ?_⟩
        · rw [not_and_or, lone] at fails
          simpa using fails
        · constructor
          · intro subscribed deaf
            exact not_subscribed_of_deaf after deaf subscribed
          · intro hears
            exact (subscribed_or_deaf after (List.ne_nil_of_mem here)).resolve_right hears

end

/-- The client is closed while somebody listens to the hall sensor, and back before
anything else is asked. -/
def closedMeanwhile : List (Nat × Event) :=
  [(0, .message "zigbee2mqtt/bridge/devices" (hallNamed "hall")),
    (1, .client (.close (.ofCapacity none))),
    (2, .call 0 hallKey .listen), (3, .client (.ofCapacity none))]

/-- Whoever listens to the sensor's temperature then succeeds, and hears nothing. -/
theorem second_key_unsubscribed :
    let (h, b) := play step (ofSettings {}) closedMeanwhile
    let m : Moment := .taken step b 4 (.call 1 hallWarmth .listen)
    RunOf {} h b ∧ b.wait? 1 = none ∧ b.keysAt "hall" = [hallKey] ∧
    b.client.isOpen = true ∧
      m.effects = [.reply 1 .ok] ∧
      "zigbee2mqtt/hall" ∉ subscribed [] (requests (h ++ [m])) ∧
      Deaf "hall" (h ++ [m]) := by
  let here := play step (ofSettings {}) closedMeanwhile
  have run : RunOf {} here.1 here.2 := RunOf.play {} closedMeanwhile
  obtain ⟨fresh, filed, ready, named, told, missed⟩ :
      here.2.wait? 1 = none ∧ here.2.keysAt "hall" = [hallKey] ∧
      here.2.client.isOpen = true ∧ here.2.friendlyName? hallWarmth = some "hall" ∧
        (here.2.step 4 (.call 1 hallWarmth .listen)).2 = [.reply 1 .ok] ∧
        "zigbee2mqtt/hall" ∉ subscribed []
          (requests (here.1 ++ [.taken step here.2 4 (.call 1 hallWarmth .listen)])) := by
    decide +kernel
  obtain ⟨⟨f, failed⟩, -⟩ | ⟨-, name, known, -, hears⟩ :=
    listening_succeeds_deaf_or_subscribed run fresh 4 hallWarmth
  · simp [Moment.taken, told, Effect.reply?] at failed
  · cases named.symm.trans known
    have deaf := Classical.byContradiction fun undeaf => missed (hears.mpr undeaf)
    exact ⟨run, fresh, filed, ready, told, missed, deaf⟩

end Bridge
end MeshReadings
