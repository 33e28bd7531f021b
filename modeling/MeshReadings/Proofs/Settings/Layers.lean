import MeshReadings.Proofs.Json.Records
import MeshReadings.Settings.Layers

/-!
Where each setting comes from. The environment goes over the file and the file over the
defaults, field by field, and what is checked is the outcome: neither a file nor an
environment is good or bad by itself.
-/

namespace MeshReadings

namespace Environment
variable {env : Environment} {name other value : String}

/-- The variables but one. -/
def without (env : Environment) (name : String) : Environment := env.filter (·.1 ≠ name)

theorem get?_cons_self : get? ((name, value) :: env) name = some value := by
  simp [get?]

theorem get?_cons_of_ne (apart : name ≠ other) :
    get? ((name, value) :: env) other = get? env other := by
  simp [get?, apart]

theorem get?_without_self : get? (env.without name) name = none := by
  simp [get?, without]

theorem get?_without_of_ne (apart : name ≠ other) :
    get? (env.without name) other = get? env other := by
  simp only [get?, without, List.find?_filter]
  congr 2
  funext entry
  by_cases here : entry.1 = other <;> simp [here, Ne.symm apart]

end Environment

namespace Settings
open Json (Outline outline)
open Json.Reader

/-- What a file says at a path of sections and fields, each with its place and its
name. -/
def said? (text? : Option String) (path : List (Nat × String)) : Option Outline :=
  path.foldl (fun v? (place, name) => v?.bind (·.field? place name))
    (text?.map fun text => (outline text.toList).1)

/-- What is given counts, and if nothing is given what lies below. -/
def Overlaid (given? : Option α) (taken : α → Prop) (below : Prop) : Prop :=
  match given? with
  | some x => taken x
  | none => below

/-- Every setting is what the environment says, or else what the file says, or else its
default. A number that the environment spells in no way that can be read is not given. -/
structure Layered (text? : Option String) (env : Environment) (s : Settings) : Prop where
  host : Overlaid (env.get? "MQTT_BROKER_HOST") (s.broker.host = ·)
    (Gives string (some "localhost") (said? text? [(0, "mqtt"), (0, "broker_host")])
      s.broker.host)
  tcpPort :
      Overlaid (env.getNumber? "MQTT_BROKER_PORT" 65535) (s.broker.tcpPort.toNat = ·)
    (Gives uint16 (some 1883) (said? text? [(0, "mqtt"), (1, "broker_port")])
      s.broker.tcpPort)
  clientId : Overlaid (env.get? "MQTT_CLIENT_ID") (s.broker.clientId = ·)
    (Gives string (some "zigbee-attribute-sync")
      (said? text? [(0, "mqtt"), (2, "client_id")]) s.broker.clientId)
  username : Overlaid (env.get? "MQTT_USERNAME") (s.broker.username = some ·)
    (Gives (option string) (some none) (said? text? [(0, "mqtt"), (3, "username")])
      s.broker.username)
  password : Overlaid (env.get? "MQTT_PASSWORD") (s.broker.password = some ·)
    (Gives (option string) (some none) (said? text? [(0, "mqtt"), (4, "password")])
      s.broker.password)
  baseTopic : Overlaid (env.get? "Z2M_BASE_TOPIC") (s.bridge.baseTopic = ·)
    (Gives string (some "zigbee2mqtt")
      (said? text? [(1, "zigbee2mqtt"), (0, "base_topic")]) s.bridge.baseTopic)
  coordinator :
    Gives string (some "Coordinator")
      (said? text? [(1, "zigbee2mqtt"), (1, "coordinator")]) s.bridge.coordinator
  responseTimeout : Gives uint64 (some 10)
      (said? text? [(1, "zigbee2mqtt"), (2, "response_timeout_secs")])
    s.bridge.responseTimeout
  commandTimeout :
    Overlaid (env.getNumber? "SYNC_COMMAND_TIMEOUT_SECS" (UInt64.size - 1))
      (s.sync.commandTimeout.toNat = ·)
      (Gives uint64 (some 10) (said? text? [(2, "sync"), (0, "command_timeout_secs")])
        s.sync.commandTimeout)
  publishTopic : Overlaid (env.get? "SYNC_PUBLISH_TOPIC") (s.sync.publishTopic = some ·)
    (Gives (option string) (some none) (said? text? [(2, "sync"), (1, "publish_topic")])
      s.sync.publishTopic)
  attributes :
    Gives (list SyncedAttribute.reader) (some [])
      (said? text? [(3, "attributes")]) s.attributes

def channels (s : Settings) : List String := s.attributes.map (·.channel)

/-- What becomes of settings that are checked: no time for commands is found first, and
otherwise the first channel that an attribute before has too. -/
structure Checked (s : Settings) (outcome : Except Fault Settings) : Prop where
  fails : (∃ f, outcome = .error f) ↔ s.sync.commandTimeout = 0 ∨ ¬ s.channels.Nodup
  timeout : s.sync.commandTimeout = 0 →
      outcome = .error (.settings "command_timeout_secs must be positive")
  channel : s.sync.commandTimeout ≠ 0 →
      ∀ before c after, s.channels = before ++ c :: after → before.Nodup →
    c ∈ before → outcome = .error (.settings ("duplicate channel '" ++ c ++ "'"))
  passes : s.sync.commandTimeout ≠ 0 → s.channels.Nodup → outcome = .ok s

/-- The settings of a file, or the defaults if there is none. -/
def ReadAs (text? : Option String) (s : Settings) : Prop :=
  match text? with
  | none => s = {}
  | some text => read text = .ok s

section
variable {text? : Option String} {env : Environment} {s file : Settings}

theorem ReadAs.gives (reads : ReadAs text? file) :
    Gives reader (some {}) (text?.map fun text => (outline text.toList).1) file := by
  cases text? with
  | none => exact congrArg some (Eq.symm reads)
  | some text => exact ⟨_, Json.read_of_readText reads⟩

theorem Checked.of_ok {checked : Settings} {outcome : Except Fault Settings}
    (check : Checked checked outcome) (passed : outcome = .ok s) :
    s = checked ∧ checked.sync.commandTimeout ≠ 0 ∧ checked.channels.Nodup := by
  have sound : ¬ (checked.sync.commandTimeout = 0 ∨ ¬ checked.channels.Nodup) := by
    rw [← check.fails, passed]
    rintro ⟨_, failed⟩
    cases failed
  obtain ⟨positive, distinct⟩ := not_or.mp sound
  have distinct := Decidable.not_not.mp distinct
  exact ⟨Except.ok.inj (passed.symm.trans (check.passes positive distinct)),
    positive, distinct⟩

theorem load_of_readAs (reads : ReadAs text? file) :
    load text? env = (file.overlay env).validate := by
  cases text? with
  | none =>
      cases reads
      rfl
  | some text =>
      simp only [ReadAs] at reads
      simp [load, ofText, reads, Except.mapError, bind, Except.bind]

theorem readAs_of_load (loaded : load text? env = .ok s) : ∃ file, ReadAs text? file := by
  cases text? with
  | none => exact ⟨{}, rfl⟩
  | some text =>
      cases reads : read text with
      | ok file => exact ⟨file, reads⟩
      | error _ =>
          simp [load, ofText, reads, Except.mapError, bind, Except.bind] at loaded

theorem bounded_of_number? {bound n : Nat} {text : String}
    (spelled : Environment.number? bound text = some n) : n ≤ bound := by
  simp only [Environment.number?, Option.ite_none_right_eq_some, Option.some.injEq,
    Bool.and_eq_true, decide_eq_true_eq] at spelled
  omega

theorem bounded_of_getNumber? {name : String} {bound n : Nat}
    (given : env.getNumber? name bound = some n) : n ≤ bound := by
  obtain ⟨_, -, spelled⟩ := Option.bind_eq_some_iff.mp given
  exact bounded_of_number? spelled

section
variable {read : Json.Reader α} {default? : Option α} {v? : Option Outline} {x : α}

theorem overlaid_getD {given? : Option α} (below : Gives read default? v? x) :
    Overlaid given? (given?.getD x = ·) (Gives read default? v? (given?.getD x)) := by
  cases given? with
  | none => exact below
  | some _ => rfl

theorem overlaid_orElse {given? x : Option α} {read : Json.Reader (Option α)}
    {default? : Option (Option α)} (below : Gives read default? v? x) :
    Overlaid given? ((given?.orElse fun _ => x) = some ·)
      (Gives read default? v? (given?.orElse fun _ => x)) := by
  cases given? with
  | none => exact below
  | some _ => rfl

theorem overlaid_number {name : String} {bound : Nat} {ofNat : Nat → α} {toNat : α → Nat}
    (exact : ∀ n ≤ bound, toNat (ofNat n) = n) (below : Gives read default? v? x) :
    Overlaid (env.getNumber? name bound)
      (toNat (((env.getNumber? name bound).map ofNat).getD x) = ·)
      (Gives read default? v? (((env.getNumber? name bound).map ofNat).getD x)) := by
  cases given : env.getNumber? name bound with
  | none => exact below
  | some n => exact exact n (bounded_of_getNumber? given)

end

theorem ReadAs.layered (reads : ReadAs text? file) :
    Layered text? env (file.overlay env) := by
  have whole := reads.gives
  have broker :=
    whole.field (·.broker) 0 rfl (by decide) (fun _ _ => rfl) (by simp [keeps_field])
  have bridge :=
    whole.field (·.bridge) 1 rfl (by decide) (fun _ _ => rfl) (by simp [keeps_field])
  have sync :=
    whole.field (·.sync) 2 rfl (by decide) (fun _ _ => rfl) (by simp [keeps_field])
  constructor
  case host =>
      exact overlaid_getD
        (broker.field (·.host) 0 rfl (by decide) (fun _ _ => rfl) (by simp [keeps_field]))
  case tcpPort =>
      exact overlaid_number
        (fun _ small => UInt16.toNat_ofNat_of_lt' (Nat.lt_succ_of_le small))
        (broker.field (·.tcpPort) 1 rfl (by decide) (fun _ _ => rfl)
          (by simp [keeps_field]))
  case clientId =>
      exact overlaid_getD (broker.field (·.clientId) 2 rfl (by decide) (fun _ _ => rfl)
        (by simp [keeps_field]))
  case username =>
      exact overlaid_orElse (broker.field (·.username) 3 rfl (by decide) (fun _ _ => rfl)
        (by simp [keeps_field]))
  case password =>
      exact overlaid_orElse (broker.field (·.password) 4 rfl (by decide) (fun _ _ => rfl)
        (by simp [keeps_field]))
  case baseTopic =>
      exact overlaid_getD (bridge.field (·.baseTopic) 0 rfl (by decide) (fun _ _ => rfl)
        (by simp [keeps_field]))
  case coordinator =>
      exact bridge.field (·.coordinator) 1 rfl (by decide) (fun _ _ => rfl)
        (by simp [keeps_field])
  case responseTimeout =>
      exact bridge.field (·.responseTimeout) 2 rfl (by decide) (fun _ _ => rfl)
        (by simp [keeps_field])
  case commandTimeout =>
      exact overlaid_number
        (fun _ small => UInt64.toNat_ofNat_of_lt' (Nat.lt_succ_of_le small))
        (sync.field (·.commandTimeout) 0 rfl (by decide) (fun _ _ => rfl)
          (by simp [keeps_field]))
  case publishTopic =>
      exact overlaid_orElse (sync.field (·.publishTopic) 1 rfl (by decide)
        (fun _ _ => rfl) (by simp [keeps_field]))
  case attributes =>
      exact whole.field (·.attributes) 3 rfl (by decide) (fun _ _ => rfl)
        (by simp [keeps_field])

end

section
variable {text? : Option String} {env : Environment}

/-- No channel comes twice, and none is one of those before. -/
theorem firstRepeated?_eq_none {earlier channels : List String} :
    firstRepeated? earlier channels = none ↔
      channels.Nodup ∧ ∀ c ∈ channels, c ∉ earlier := by
  induction channels generalizing earlier with
  | nil => simp [firstRepeated?]
  | cons c channels ih =>
      simp only [firstRepeated?, List.contains_iff_mem]
      split
      · next met => simp [met]
      · next unmet =>
          rw [ih]
          simp only [List.nodup_cons, List.mem_cons, not_or, forall_eq_or_imp]
          grind

/-- Behind channels that differ from each other and from those before, the next one that
is among them is found. -/
theorem firstRepeated?_append {earlier before after : List String} {c : String}
    (distinct : before.Nodup) (fresh : ∀ d ∈ before, d ∉ earlier)
    (met : c ∈ before ∨ c ∈ earlier) :
    firstRepeated? earlier (before ++ c :: after) = some c := by
  induction before generalizing earlier with
  | nil =>
      have met : c ∈ earlier := by simpa using met
      simp [firstRepeated?, met]
  | cons d before ih =>
      obtain ⟨apart, distinct⟩ := List.nodup_cons.mp distinct
      obtain ⟨unmet, fresh⟩ := List.forall_mem_cons.mp fresh
      rw [List.cons_append, firstRepeated?, if_neg (by simpa using unmet)]
      refine ih distinct ?_ (by grind)
      intro x member again
      obtain rfl | again := List.mem_cons.mp again
      · exact apart member
      · exact fresh x member again

theorem validate_of_repeated {s : Settings} {c : String}
    (positive : s.sync.commandTimeout ≠ 0)
    (found : firstRepeated? [] s.channels = some c) :
    s.validate = .error (.settings ("duplicate channel '" ++ c ++ "'")) := by
  rw [channels] at found
  simp only [validate, if_neg positive, found]

theorem validate_of_distinct {s : Settings} (positive : s.sync.commandTimeout ≠ 0)
    (none : firstRepeated? [] s.channels = none) : s.validate = .ok s := by
  rw [channels] at none
  simp only [validate, if_neg positive, none]

theorem validate_checks (s : Settings) : Checked s s.validate := by
  by_cases idle : s.sync.commandTimeout = 0
  · have refused :
        s.validate = .error (.settings "command_timeout_secs must be positive") :=
      if_pos idle
    constructor <;> simp [refused, idle]
  · have repeats : firstRepeated? [] s.channels = none ↔ s.channels.Nodup := by
      simp [firstRepeated?_eq_none]
    constructor
    case fails =>
      rw [← repeats]
      cases found : firstRepeated? [] s.channels with
      | none => simp [validate_of_distinct idle found, idle]
      | some c => simp [validate_of_repeated idle found]
    case timeout => exact fun zero => absurd zero idle
    case channel =>
      intro _ before c after listed distinct met
      refine validate_of_repeated idle ?_
      rw [listed, firstRepeated?_append distinct (by simp) (Or.inl met)]
    case passes =>
        exact fun _ distinct => validate_of_distinct idle (repeats.mpr distinct)

theorem ReadAs.checked {file : Settings} (reads : ReadAs text? file) :
    Checked (file.overlay env) (load text? env) := by
  rw [load_of_readAs reads]
  exact validate_checks _

theorem distinct_of_load {s : Settings} (loaded : load text? env = .ok s) :
    s.channels.Nodup := by
  obtain ⟨file, reads⟩ := readAs_of_load loaded
  obtain ⟨rfl, -, distinct⟩ := reads.checked.of_ok loaded
  exact distinct

open Environment in
/-- A number that cannot be read is as good as none. -/
theorem load_unreadable {name value : String} {bound : Nat}
    (number : (name, bound) ∈
      [("MQTT_BROKER_PORT", 65535), ("SYNC_COMMAND_TIMEOUT_SECS", UInt64.size - 1)])
    (unreadable : Environment.number? bound value = none) :
    load text? ((name, value) :: env) = load text? (env.without name) := by
  have same (s : Settings) :
      s.overlay ((name, value) :: env) = s.overlay (env.without name) := by
    simp only [List.mem_cons, Prod.mk.injEq, List.not_mem_nil, or_false] at number
    obtain ⟨rfl, rfl⟩ | ⟨rfl, rfl⟩ := number <;>
      simp (disch := decide) only [overlay, getNumber?, get?_cons_self,
        get?_cons_of_ne, get?_without_self, get?_without_of_ne, Option.bind_some,
        Option.bind_none, unreadable]
  simp only [load, same]

/-- Settings come in layers, and what is checked is what comes out. So a number in the
environment can mend what a file says and can spoil it, and one that cannot be read does
neither. -/
theorem load_layers (text? : Option String) (env : Environment) :
    (∀ s, load text? env = .ok s → Layered text? env s) ∧
    (∀ file, ReadAs text? file →
      ∃ merged, Layered text? env merged ∧ Checked merged (load text? env)) ∧
    (∀ name value bound,
      (name, bound) ∈ [("MQTT_BROKER_PORT", 65535),
        ("SYNC_COMMAND_TIMEOUT_SECS", UInt64.size - 1)] →
      Environment.number? bound value = none →
      load text? ((name, value) :: env) = load text? (env.without name)) ∧
    (∃ text value, (∃ f, load (some text) [] = .error f) ∧
      ∃ s, load (some text) [("SYNC_COMMAND_TIMEOUT_SECS", value)] = .ok s) ∧
    (∃ text value, (∃ s, load (some text) [] = .ok s) ∧
      ∃ f, load (some text) [("SYNC_COMMAND_TIMEOUT_SECS", value)] = .error f) := by
  refine ⟨fun s loaded => ?_, fun file reads => ⟨_, reads.layered, reads.checked⟩,
    fun name value bound => load_unreadable,
    ⟨"\x7b\"sync\": \x7b\"command_timeout_secs\": 0\x7d\x7d", "5", ⟨_, rfl⟩, ⟨_, rfl⟩⟩,
    ⟨"\x7b\"sync\": \x7b\"command_timeout_secs\": 5\x7d\x7d", "0", ⟨_, rfl⟩, ⟨_, rfl⟩⟩⟩
  obtain ⟨file, reads⟩ := readAs_of_load loaded
  obtain ⟨rfl, -⟩ := reads.checked.of_ok loaded
  exact reads.layered

end
end Settings
end MeshReadings
