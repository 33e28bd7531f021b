import Mathlib.Data.List.Infix
import MeshReadings.Proofs.Bridge.Correlation

/-!
What is listened to. A key is filed under the name that its device has when a caller
listens to it, and taken from under the name that the device has when a caller stops; the
list of devices may change in between, and nothing moves what was filed. So the state of a
device becomes an event for a key exactly if the key is filed under the name that the
state came with, which is the device's present name only while devices keep their names.
-/

namespace MeshReadings
namespace Bridge

/-- A caller that does not wait makes a call. -/
def Calls (key : Key) (c : Call) (m : Moment) : Prop :=
  ∃ t, m.event = .call t key c ∧ m.before.wait? t = none

/-- A key is listened to while its device has a name. -/
def Files (key : Key) (name : String) (m : Moment) : Prop :=
  Calls key .listen m ∧ m.before.friendlyName? key = some name

/-- A key is listened to no more while its device has a name. -/
def Unfiles (key : Key) (name : String) (m : Moment) : Prop :=
  Calls key .unlisten m ∧ m.before.friendlyName? key = some name

def Filed (key : Key) (name : String) (h : History) : Prop :=
  Since (fun _ m => Files key name m) (fun m => ¬ Unfiles key name m) h

/-- A key is listened to, whatever its device was called meanwhile. -/
def Listened (key : Key) (h : History) : Prop :=
  Since (fun _ m => Calls key .listen m) (fun m => ¬ Calls key .unlisten m) h

/-- The event that the state of a device has for a key. -/
def told? (payload : String) (key : Key) : Option AttributeEvent :=
  (Json.readText (Json.Reader.dictionary Json.Reader.any) payload).toOption.bind
    (event? · key)

/-- A device's name and state, when a message brings one. -/
def stated? (base topic payload : String) : Option (String × String) :=
  match Subject.ofTopic? base topic with
  | some (.state name) => some (name, payload)
  | _ => none

/-- The events of a key that come of a step. -/
def eventsFor (key : Key) (m : Moment) : List AttributeEvent :=
  (m.effects.filterMap Effect.event?).filter (·.key = key)

theorem key_of_event? {state : List (String × Json)} {key : Key} {e : AttributeEvent}
    (made : event? state key = some e) : e.key = key := by
  simp only [event?, Option.bind_eq_bind, Option.bind_eq_some_iff] at made
  obtain ⟨_, -, _, -, _, -, same⟩ := made
  cases same
  rfl

theorem key_of_told? {payload : String} {key : Key} {e : AttributeEvent}
    (told : told? payload key = some e) : e.key = key := by
  obtain ⟨_, -, made⟩ := Option.bind_eq_some_iff.mp told
  exact key_of_event? made

theorem ofPath?_eq_state {path : List Char} {name : String} :
    Subject.ofPath? path = some (.state name) ↔
      path = name.toList ∧ ¬ bridgeTopic <+: name.toList := by
  have list : bridgeTopic <+: devicesTopic := by decide
  have replies : bridgeTopic <+: responseTopic := by decide
  simp only [Subject.ofPath?, List.isPrefixOf_iff_prefix]
  constructor
  · intro state
    split at state
    · cases state
    · split at state
      · cases state
      · split at state
        · cases state
        · next other =>
            cases state
            simpa using other
  · intro state
    obtain ⟨rfl, other⟩ := state
    rw [if_neg fun (same : name.toList = devicesTopic) => other (same ▸ list),
      if_neg fun reply => other (replies.trans reply), if_neg other, String.ofList_toList]

/-- The state of a device comes on the topic of its name, which is not the bridge's
own. -/
theorem stated?_eq_some {base topic payload name said : String} :
    stated? base topic payload = some (name, said) ↔
      topic = base ++ "/" ++ name ∧ ¬ bridgeTopic <+: name.toList ∧ payload = said := by
  have subject : Subject.ofTopic? base topic = some (.state name) ↔
      topic = base ++ "/" ++ name ∧ ¬ bridgeTopic <+: name.toList := by
    simp only [Subject.ofTopic?, Option.bind_eq_some_iff,
      List.isPrefixOf?_eq_some_iff_append_eq,
      ofPath?_eq_state, ← @String.toList_inj topic, String.toList_append]
    constructor
    · intro below
      obtain ⟨_, split, rfl, other⟩ := below
      exact ⟨split.symm, other⟩
    · intro below
      exact ⟨_, below.1.symm, rfl, below.2⟩
  constructor
  · intro stated
    simp only [stated?] at stated
    split at stated
    · next found =>
        cases stated
        exact ⟨(subject.mp found).1, (subject.mp found).2, rfl⟩
    · cases stated
  · intro stated
    obtain ⟨below, other, rfl⟩ := stated
    simp only [stated?, subject.mpr ⟨below, other⟩]

section
variable (b : Bridge) (key k : Key) (name : String)

theorem keysAt_congr {b b' : Bridge} (same : b'.listeners = b.listeners) (name : String) :
    b'.keysAt name = b.keysAt name := by
  simp only [keysAt, same]

@[simp] theorem keysAt_setKeys (keys : List Key) (other : String) :
    (b.setKeys name keys).keysAt other = if other = name then keys
      else b.keysAt other := by
  have left : (b.setKeys name keys).listeners.find? (·.1 == other) =
      if other = name then if keys.isEmpty then none else some (name, keys)
      else b.listeners.find? (·.1 == other) := by
    by_cases same : other = name
    · cases keys <;> simp [setKeys, same]
    · cases keys <;> simp [setKeys, same, Ne.symm same, find?_removed_of_ne same]
  rw [keysAt, keysAt, left]
  by_cases same : other = name
  · cases keys <;> simp [same]
  · simp [same]

theorem listeners_request (now : Nat) (t : Ticket) (operation : String)
    (fields : List (String × Json)) :
    (b.request now t operation fields).1.listeners = b.listeners := by
  simp only [request]
  split
  · rfl
  · split <;> rfl

theorem listeners_read : (b.read key).1.listeners = b.listeners := by
  simp only [read]
  split
  · rfl
  · split
    · rfl
    · split
      · rfl
      · split <;> rfl

theorem listeners_handle (topic payload : String) :
    (b.handle topic payload).1.listeners = b.listeners := by
  simp only [handle]
  split
  · rfl
  · simp only [handleDevices]
    split <;> rfl
  · simp only [handleResponse]
    split
    · rfl
    · split
      · rfl
      · split <;> rfl
  · rfl

theorem keysAt_listen :
    (b.listen key).1.keysAt name =
      if b.friendlyName? key = some name then
        if (b.keysAt name).contains key then b.keysAt name else b.keysAt name ++ [key]
      else b.keysAt name := by
  simp only [listen]
  split
  · next unknown => simp [unknown]
  · next present known =>
      generalize kept : (if (b.keysAt present).contains key then b.keysAt present
        else b.keysAt present ++ [key]) = keys
      have filed : (b.setKeys present keys).keysAt name =
          if b.friendlyName? key = some name then
            if (b.keysAt name).contains key then b.keysAt name else b.keysAt name ++ [key]
          else b.keysAt name := by
        by_cases same : name = present
        · simp [known, same, ← kept]
        · simp [known, same, Ne.symm same]
      split
      · split
        · exact filed
        · exact filed
      · exact filed

theorem keysAt_unlisten :
    (b.unlisten key).keysAt name =
      if b.friendlyName? key = some name then (b.keysAt name).filter (· != key)
          else b.keysAt name := by
  simp only [unlisten]
  split
  · next unknown => simp [unknown]
  · next present known =>
      split
      · next absent =>
          have entry : b.keysAt present = [] := by rw [keysAt, absent]
          by_cases same : name = present
          · simp [known, same, entry]
          · simp [known, Ne.symm same]
      · next keys found =>
          have entry : b.keysAt present = keys := by rw [keysAt, found]
          have filed : (b.setKeys present (keys.filter (· != key))).keysAt name =
              if b.friendlyName? key = some name then (b.keysAt name).filter (· != key)
              else b.keysAt name := by
            by_cases same : name = present
            · simp [known, same, entry]
            · simp [known, same, Ne.symm same]
          split
          · exact filed
          · exact filed

theorem mem_keysAt_listen :
    k ∈ (b.listen key).1.keysAt name ↔
      k = key ∧ b.friendlyName? key = some name ∨ k ∈ b.keysAt name := by
  rw [keysAt_listen]
  split
  · next known =>
      split
      · next here =>
          have here : key ∈ b.keysAt name := by simpa using here
          exact ⟨Or.inr, fun either => either.elim (fun both => both.1 ▸ here) id⟩
      · simp [known, or_comm]
  · next other => simp [other]

theorem mem_keysAt_unlisten :
    k ∈ (b.unlisten key).keysAt name ↔
      k ∈ b.keysAt name ∧ ¬ (k = key ∧ b.friendlyName? key = some name) := by
  rw [keysAt_unlisten]
  split
  · next known => simp [known]
  · next other => simp [other]

theorem nodup_keysAt_listen (distinct : (b.keysAt name).Nodup) :
    ((b.listen key).1.keysAt name).Nodup := by
  rw [keysAt_listen]
  split
  · split
    · exact distinct
    · next absent =>
        refine List.nodup_append.mpr ⟨distinct, by simp, ?_⟩
        rintro k member _ single rfl
        rw [List.mem_singleton.mp single] at member
        simp [member] at absent
  · exact distinct

theorem nodup_keysAt_unlisten (distinct : (b.keysAt name).Nodup) :
    ((b.unlisten key).keysAt name).Nodup := by
  rw [keysAt_unlisten]
  split
  · exact distinct.filter _
  · exact distinct

theorem calls_iff {now : Nat} {t : Ticket} {c c' : Call} :
    Calls k c' (.taken step b now (.call t key c)) ↔
      key = k ∧ c = c' ∧ b.wait? t = none := by
  constructor
  · intro calls
    obtain ⟨_, same, fresh⟩ := calls
    cases same
    exact ⟨rfl, rfl, fresh⟩
  · intro both
    obtain ⟨rfl, rfl, fresh⟩ := both
    exact ⟨t, rfl, fresh⟩

/-- Only listening to a key and stopping to do so change what is filed. -/
theorem listeners_step (now : Nat) (event : Event)
    (other : ∀ key c, Calls key c (.taken step b now event) →
      c ≠ .listen ∧ c ≠ .unlisten) :
    (b.step now event).1.listeners = b.listeners := by
  cases event with
  | call t key c =>
      simp only [step, call]
      split
      · rfl
      · next fresh =>
          have asked :=
            other key c ((calls_iff b key key).mpr ⟨rfl, rfl, by simpa using fresh⟩)
          cases c with
          | listen => exact absurd rfl asked.1
          | unlisten => exact absurd rfl asked.2
          | resolve => rfl
          | bind => exact b.listeners_request now t _ _
          | report min max change =>
              simp only [place]
              split
              · rfl
              · exact b.listeners_request now t _ _
          | read => exact b.listeners_read key
  | message topic payload => exact b.listeners_handle topic payload
  | collect t =>
      simp only [step, collect]
      split
      · rfl
      · simp only [settle]
        split <;> rfl
  | close =>
      simp only [step, close]
      split <;> rfl
  | abandon t | client c => rfl

theorem step_listen (now : Nat) {t : Ticket} (fresh : b.wait? t = none) :
    (b.step now (.call t key .listen)).1 = (b.listen key).1 := by
  simp [step, call, fresh, place]

/-- Who listens is told at once. -/
theorem replies_listen (now : Nat) {t : Ticket} (fresh : b.wait? t = none) :
    (b.step now (.call t key .listen)).2.filterMap Effect.reply? =
      [(t, (b.listen key).2)] := by
  have silent (after : Bridge) : (b.sent after).filterMap Effect.reply? = [] := by
    simp only [sent, List.filterMap_map]
    exact List.filterMap_eq_nil_iff.mpr fun _ _ => rfl
  simp [step, call, fresh, place, silent, Effect.reply?]

theorem step_unlisten (now : Nat) {t : Ticket} (fresh : b.wait? t = none) :
    (b.step now (.call t key .unlisten)).1 = b.unlisten key := by
  simp [step, call, fresh, place]

/-- A step listens to a key, stops listening to one or leaves everything where it is. -/
theorem filing_cases (now : Nat) (event : Event) :
    (∃ t key, event = .call t key .listen ∧ b.wait? t = none ∧
      (b.step now event).1.listeners = (b.listen key).1.listeners) ∨
    (∃ t key, event = .call t key .unlisten ∧ b.wait? t = none ∧
      (b.step now event).1.listeners = (b.unlisten key).listeners) ∨
    (∀ key c, Calls key c (.taken step b now event) → c ≠ .listen ∧ c ≠ .unlisten) ∧
      (b.step now event).1.listeners = b.listeners := by
  by_cases listens : ∃ key, Calls key .listen (.taken step b now event)
  · obtain ⟨key, t, same, fresh⟩ := listens
    cases same
    exact Or.inl ⟨t, key, rfl, fresh, by rw [b.step_listen key now fresh]⟩
  · by_cases stops : ∃ key, Calls key .unlisten (.taken step b now event)
    · obtain ⟨key, t, same, fresh⟩ := stops
      cases same
      exact Or.inr (Or.inl ⟨t, key, rfl, fresh, by rw [b.step_unlisten key now fresh]⟩)
    · have other (key : Key) (c : Call) (calls : Calls key c (.taken step b now event)) :
          c ≠ .listen ∧ c ≠ .unlisten := by
        constructor
        · rintro rfl
          exact listens ⟨key, calls⟩
        · rintro rfl
          exact stops ⟨key, calls⟩
      exact Or.inr (Or.inr ⟨other, b.listeners_step now event other⟩)

/-- Keys are filed by those who listen and taken away by those who stop. -/
theorem mem_keysAt_step (now : Nat) (event : Event) :
    k ∈ (b.step now event).1.keysAt name ↔ Files k name (.taken step b now event) ∨
      k ∈ b.keysAt name ∧ ¬ Unfiles k name (.taken step b now event) := by
  simp only [Files, Unfiles]
  obtain ⟨t, key, rfl, fresh, same⟩ | ⟨t, key, rfl, fresh, same⟩ | ⟨other, same⟩ :=
    b.filing_cases now event
  · rw [keysAt_congr same, mem_keysAt_listen]
    by_cases here : k = key
    · subst here
      simp only [calls_iff]
      simp [fresh, Moment.taken]
    · simp [calls_iff, here, Ne.symm here]
  · rw [keysAt_congr same, mem_keysAt_unlisten]
    by_cases here : k = key
    · subst here
      simp only [calls_iff]
      simp [fresh, Moment.taken]
    · simp [calls_iff, here, Ne.symm here]
  · rw [keysAt_congr same]
    refine ⟨fun member => Or.inr ⟨member, fun unfiles => ?_⟩, fun either => ?_⟩
    · exact (other k _ unfiles.1).2 rfl
    · exact (either.resolve_left fun files => (other k _ files.1).1 rfl).1

theorem nodup_keysAt_step (now : Nat) (event : Event) (distinct : (b.keysAt name).Nodup) :
    ((b.step now event).1.keysAt name).Nodup := by
  obtain ⟨t, key, -, -, same⟩ | ⟨t, key, -, -, same⟩ | ⟨-, same⟩ :=
    b.filing_cases now event
  · rw [keysAt_congr same]
    exact b.nodup_keysAt_listen key name distinct
  · rw [keysAt_congr same]
    exact b.nodup_keysAt_unlisten key name distinct
  · rw [keysAt_congr same]
    exact distinct

theorem handle_events (topic payload : String) :
    (b.handle topic payload).2 =
      match stated? b.baseTopic topic payload with
      | some (name, payload) => b.events name payload
      | none => [] := by
  simp only [handle, stated?]
  cases Subject.ofTopic? b.baseTopic topic with
  | none => rfl
  | some subject => cases subject <;> rfl

/-- Only messages come out as events. -/
theorem step_events (now : Nat) (event : Event) :
    (b.step now event).2.filterMap Effect.event? =
      match event with
      | .message topic payload => (b.handle topic payload).2
      | _ => [] := by
  cases event with
  | call t key c =>
      have sends (after : Bridge) : (b.sent after).filterMap Effect.event? = [] := by
        simp only [sent, List.filterMap_map]
        exact List.filterMap_eq_nil_iff.mpr fun _ _ => rfl
      have replies (r? : Option Reply) :
          (r?.map (Effect.reply t)).toList.filterMap Effect.event? = [] := by
        cases r? <;> rfl
      simp only [step, List.filterMap_append, sends, replies, List.append_nil]
  | message topic payload =>
      simp [step, List.filterMap_map, Function.comp_def, Effect.event?]
  | collect t =>
      simp only [step, collect]
      split <;> rfl
  | abandon t | close | client c => rfl

/-- The events of a key in a device's state: one if the key is filed under the name and
has something to hear. -/
theorem events_filter_key (payload : String) (distinct : (b.keysAt name).Nodup) :
    (b.events name payload).filter (·.key = key) =
      if key ∈ b.keysAt name then (told? payload key).toList else [] := by
  have told : b.events name payload = (b.keysAt name).filterMap (told? payload) := by
    unfold events told?
    split
    · next unread => simp [unread, Except.toOption]
    · next state read => simp [read, Except.toOption]
  rw [told]
  generalize b.keysAt name = keys at distinct
  induction keys with
  | nil => rfl
  | cons first rest ih =>
      obtain ⟨absent, distinct⟩ := List.nodup_cons.mp distinct
      by_cases same : first = key
      · subst same
        rw [if_neg absent] at ih
        cases mine : told? payload first with
        | none => simpa [mine] using ih distinct
        | some e => simpa [mine, key_of_told? mine] using ih distinct
      · cases other : told? payload first with
        | none => simpa [other, Ne.symm same] using ih distinct
        | some e =>
            simpa [other, key_of_told? other, same, Ne.symm same] using ih distinct

end

section
variable {s : Settings} {h : History} {b : Bridge} {key : Key} {name : String}

theorem RunOf.mem_keysAt_iff (run : RunOf s h b) (key : Key) (name : String) :
    key ∈ b.keysAt name ↔ Filed key name h := by
  refine run.induct (P := fun h b => key ∈ b.keysAt name ↔ Filed key name h) ?_ ?_
  · simp [ofSettings, keysAt, Filed, not_since_nil]
  · intro h b now event _ ih
    rw [Filed, since_snoc, mem_keysAt_step, ih, Filed]

theorem RunOf.nodup_keysAt (run : RunOf s h b) (name : String) :
    (b.keysAt name).Nodup := by
  refine run.induct (P := fun _ b => (b.keysAt name).Nodup) ?_ ?_
  · simp [ofSettings, keysAt]
  · intro _ b now event _ distinct
    exact b.nodup_keysAt_step name now event distinct

/-- While a device keeps its name, its keys are filed under that name for as long as they
are listened to. -/
theorem filed_iff_listened
    (steady : ∀ m ∈ h, Calls key .listen m ∨ Calls key .unlisten m →
      m.before.friendlyName? key = some name)
    (present : String) : Filed key present h ↔ present = name ∧ Listened key h := by
  constructor
  · intro filed
    obtain ⟨h₁, m, h₂, rfl, ⟨listens, known⟩, stays⟩ := filed
    have named := steady m (by simp) (Or.inl listens)
    obtain rfl : present = name := Option.some.inj (known.symm.trans named)
    refine ⟨rfl, h₁, m, h₂, rfl, listens,
      fun m' later stops => stays m' later ⟨stops, ?_⟩⟩
    exact steady m' (by simp [later]) (Or.inr stops)
  · intro both
    obtain ⟨rfl, h₁, m, h₂, rfl, listens, stays⟩ := both
    refine ⟨h₁, m, h₂, rfl, ⟨listens, steady m (by simp) (Or.inl listens)⟩,
      fun m' later unfiles => ?_⟩
    exact stays m' later unfiles.1

theorem RunOf.eventsFor_message (run : RunOf s h b) (key : Key) (now : Nat)
    {name : String} (payload : String) (other : ¬ bridgeTopic <+: name.toList) :
    eventsFor key (.taken step b now (.message (s.baseTopic ++ "/" ++ name) payload)) =
      if key ∈ b.keysAt name then (told? payload key).toList else [] := by
  have stated :
      stated? b.baseTopic (s.baseTopic ++ "/" ++ name) payload = some (name, payload) :=
    stated?_eq_some.mpr ⟨by rw [baseTopic, run.settings], other, rfl⟩
  simp only [eventsFor, Moment.taken, step_events, handle_events, stated]
  exact b.events_filter_key key name payload (run.nodup_keysAt name)

/-- The state of a device becomes an event for the keys filed under the name that it comes
with, and nothing else becomes an event. Keys are filed under the present names of their
devices only while these keep their names. -/
theorem forwards_iff_filed {h₁ h₂ : History} {m : Moment}
    (run : RunOf s (h₁ ++ m :: h₂) b) (key : Key) :
    (∀ name payload, m.event = .message (s.baseTopic ++ "/" ++ name) payload →
      ¬ bridgeTopic <+: name.toList →
      (Filed key name h₁ → eventsFor key m = (told? payload key).toList) ∧
      (¬ Filed key name h₁ → eventsFor key m = [])) ∧
    ((∀ name payload, m.event = .message (s.baseTopic ++ "/" ++ name) payload →
      bridgeTopic <+: name.toList) → eventsFor key m = []) ∧
    ∀ name, (∀ m' ∈ h₁, Calls key .listen m' ∨ Calls key .unlisten m' →
        m'.before.friendlyName? key = some name) →
      ∀ present, Filed key present h₁ ↔ present = name ∧ Listened key h₁ := by
  obtain ⟨before, taken⟩ := run.reaches_before
  refine ⟨fun name payload comes other => ?_, fun unrelated => ?_,
    fun name => filed_iff_listened⟩
  · rw [taken, comes,
      before.eventsFor_message key m.now payload other, ← before.mem_keysAt_iff]
    exact ⟨fun filed => if_pos filed, fun unfiled => if_neg unfiled⟩
  · rw [taken]
    simp only [eventsFor, Moment.taken, step_events]
    split
    · next topic payload comes =>
        rw [handle_events]
        split
        · next name said stated =>
            obtain ⟨rfl, other, rfl⟩ := stated?_eq_some.mp stated
            rw [baseTopic, before.settings] at comes
            exact absurd (unrelated name payload comes) other
        · rfl
    · rfl

end

/-- A list of devices with the hall sensor in it, under some name. -/
def hallNamed (name : String) : String :=
  "[\x7b\"ieee_address\":\"0x00158d0001a2b3c4\",\"friendly_name\":\"" ++ name ++ "\"\x7d]"

def occupied : String := "\x7b\"occupancy\":true\x7d"

/-- The hall sensor is listened to, and called landing from then on. -/
def renamed : List (Nat × Event) :=
  [(0, .message "zigbee2mqtt/bridge/devices" (hallNamed "hall")),
    (0, .call 0 hallKey .listen),
    (1, .message "zigbee2mqtt/bridge/devices" (hallNamed "landing"))]

def renamedHistory : History := (play step (ofSettings {}) renamed).1

def renamedBridge : Bridge := (play step (ofSettings {}) renamed).2

def released : Moment := .taken step renamedBridge 2 (.call 0 hallKey .unlisten)

/-- What the hall sensor says under its new name is heard by nobody. What comes under the
old name is heard when nobody listens any more. -/
theorem renamed_unheard_then_heard :
    renamedBridge.friendlyName? hallKey = some "landing" ∧
      (RunOf {} renamedHistory renamedBridge ∧ Listened hallKey renamedHistory ∧
        eventsFor hallKey
          (.taken step renamedBridge 2 (.message "zigbee2mqtt/landing" occupied)) = []) ∧
      RunOf {} (renamedHistory ++ [released]) released.after ∧
        ¬ Listened hallKey (renamedHistory ++ [released]) ∧
        eventsFor hallKey
          (.taken step released.after 3 (.message "zigbee2mqtt/hall" occupied)) =
          [⟨hallKey, .bool true⟩] := by
  obtain ⟨named, unfiled, filed, told⟩ :
      renamedBridge.friendlyName? hallKey = some "landing" ∧
      hallKey ∉ renamedBridge.keysAt "landing" ∧
        hallKey ∈ released.after.keysAt "hall" ∧
        told? occupied hallKey = some ⟨hallKey, .bool true⟩ := by
    decide +kernel
  have before : RunOf {} renamedHistory renamedBridge := .play {} renamed
  have after : RunOf {} (renamedHistory ++ [released]) released.after :=
    .snoc before 2 (.call 0 hallKey .unlisten)
  have unheard :=
    ((forwards_iff_filed
        (before.snoc 2 (.message "zigbee2mqtt/landing" occupied)) hallKey).1
      "landing" occupied rfl (by decide)).2
      (mt (before.mem_keysAt_iff hallKey "landing").mpr unfiled)
  have heard :=
    ((forwards_iff_filed
        (after.snoc 3 (.message "zigbee2mqtt/hall" occupied)) hallKey).1
      "hall" occupied rfl (by decide)).1
      ((after.mem_keysAt_iff hallKey "hall").mp filed)
  rw [told] at heard
  refine ⟨named, ⟨before, ⟨[_], _, [_], rfl, ⟨0, rfl, rfl⟩, ?_⟩, unheard⟩, after,
    fun listened => ?_, heard⟩
  · intro m later stops
    obtain rfl := List.mem_singleton.mp later
    obtain ⟨_, other, -⟩ := stops
    cases other
  · rw [Listened, since_snoc] at listened
    obtain ⟨_, other, -⟩ | ⟨-, listens⟩ := listened
    · cases other
    · exact listens ⟨0, rfl, rfl⟩

end Bridge
end MeshReadings
