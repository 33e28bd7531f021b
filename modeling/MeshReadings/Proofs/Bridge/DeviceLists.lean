import MeshReadings.Proofs.Bridge.Listeners
import MeshReadings.Proofs.Json.Records

/-!
Which keys resolve. The bridge goes by the last list of devices that it could read, and by
that list alone: what stands there in the last entry for a device decides which clusters
its endpoints have. Lists that cannot be read leave everything as it was.
-/

namespace MeshReadings
namespace Bridge
open Json (Outline outline)

/-- The topic on which lists of devices come. -/
def listTopic (base : String) : String := base ++ "/bridge/devices"

/-- The entries of a list of devices, when a message brings one that can be read. -/
def listing? (base : String) : Event → Option (List Outline)
  | .message topic payload =>
    match Directory.read payload, (outline payload.toList).1 with
    | .ok _, .arr entries _ => if topic = listTopic base then some entries else none
    | _, _ => none
  | _ => none

def lastListing? (base : String) (h : History) : Option (List Outline) :=
  (h.filterMap fun m => listing? base m.event).getLast?

/-- The device that an entry is about. -/
def entryAddress? (entry : Outline) : Option String :=
  match entry.field? 0 "ieee_address" with
  | some (.str address) => address
  | _ => none

/-- What an entry says of the input clusters of an endpoint. Of several endpoints with one
name the last counts. -/
def entryInputs? (endpoint : String) (entry : Outline) : Option Outline :=
  (((entry.field? 2 "endpoints").bind (·.member? endpoint)).bind
    (·.field? 0 "clusters")).bind (·.field? 0 "input")

/-- An entry says that a cluster is among the inputs of an endpoint. -/
def EntryOffers (entry : Outline) (endpoint cluster : String) : Prop :=
  ∃ vs ending, entryInputs? endpoint entry = some (.arr vs ending) ∧
    .str (some cluster) ∈ vs

/-- The last entry for the device of a key says that the key's endpoint has the key's
cluster. -/
def Offered (entries : List Outline) (key : Key) : Prop :=
  ∃ entry, entries.reverse.find? (entryAddress? · == some key.device) = some entry ∧
    EntryOffers entry (String.ofList (Text.digits key.endpoint.toNat))
      key.cluster.bridgeName

/-- What a device was read from. -/
structure Describes (entry : Outline) (d : Device) : Prop where
  address : entryAddress? entry = some d.address
  inputs : ∀ endpoint cluster,
    (∃ clusters, d.clusters? endpoint = some clusters ∧ cluster ∈ clusters) ↔
      EntryOffers entry endpoint cluster

section
open Json.Reader
variable {depth : Nat} {v : Outline} {d : Device} {clusters : List String}

theorem mem_endpointReader (gives : Device.endpointReader depth v = .ok clusters)
    (cluster : String) :
    cluster ∈ clusters ↔ ∃ vs ending,
      (v.field? 0 "clusters").bind (·.field? 0 "input") = some (.arr vs ending) ∧
      .str (some cluster) ∈ vs := by
  have outer := record_field id 0 rfl (by decide) (fun _ _ => rfl) (by simp) gives
  have inner : Gives (list string) (some [])
      ((v.field? 0 "clusters").bind (·.field? 0 "input")) clusters :=
    outer.field id 0 rfl (by decide) (fun _ _ => rfl) (by simp)
  cases said : (v.field? 0 "clusters").bind (·.field? 0 "input") with
  | none =>
      rw [said] at inner
      obtain rfl : [] = clusters := Option.some.inj inner
      simp
  | some u =>
      rw [said] at inner
      obtain ⟨_, made⟩ := inner
      obtain ⟨ending, rfl⟩ := list_string_eq made
      simp

theorem describes_of_read (gives : Device.reader depth v = .ok d) : Describes v d := by
  have address :=
    record_field (·.address) 0 rfl (by decide) (fun _ _ => rfl)
      (by simp [keeps_field]) gives
  have endpoints :=
    record_field (·.endpoints) 2 rfl (by decide) (fun _ _ => rfl)
      (by simp [keeps_field]) gives
  constructor
  case address =>
      cases said : v.field? 0 "ieee_address" with
      | none =>
          rw [said] at address
          cases address
      | some u =>
          rw [said] at address
          obtain ⟨_, made⟩ := address
          simp [entryAddress?, said, string_eq_ok.mp made]
  case inputs =>
      intro endpoint cluster
      simp only [EntryOffers, entryInputs?, Device.clusters?]
      cases said : v.field? 2 "endpoints" with
      | none =>
          rw [said] at endpoints
          have none : [] = d.endpoints := Option.some.inj endpoints
          simp [← none]
      | some u =>
          rw [said] at endpoints
          obtain ⟨_, made⟩ := endpoints
          obtain ⟨es, ending, _, rfl, each⟩ := dictionary_forall₂ made
          simp only [Option.bind_some, Outline.member?]
          obtain ⟨unnamed, unread⟩ | ⟨e, x, named, read, -, made⟩ :=
            find?_reverse_rel (p := (·.1 == some endpoint))
              (q := (·.1 == endpoint)) each (by grind)
          · simp [unnamed, unread]
          · simp [named, read, mem_endpointReader made]

theorem Device.serves_iff (describes : Describes v d) (key : Key) : d.serves key = true ↔
    EntryOffers v (String.ofList (Text.digits key.endpoint.toNat))
      key.cluster.bridgeName ∧
      (KnownAttribute.find? key.cluster key.attributeId).isSome = true := by
  rw [← describes.inputs]
  simp only [Device.serves]
  split
  · next absent => simp [absent]
  · next clusters present => simp [present]

theorem Directory.serves_iff {entries : List Outline} {ds : Directory}
    (described : List.Forall₂ Describes entries ds) (key : Key) : serves ds key = true ↔
      Offered entries key ∧
      (KnownAttribute.find? key.cluster key.attributeId).isSome = true := by
  simp only [serves, find?, Offered]
  obtain ⟨unlisted, unknown⟩ | ⟨entry, d, listed, known, describes⟩ :=
    find?_reverse_rel (p := (entryAddress? · == some key.device))
      (q := (·.address == key.device)) described
      fun entry d describes => by simp [describes.address]
  · simp [unlisted, unknown]
  · simp [listed, known, Device.serves_iff describes key]

theorem described_of_read {payload : String} {ds : Directory}
    (gives : Directory.read payload = .ok ds) :
    ∃ entries ending, (outline payload.toList).1 = .arr entries ending ∧
      List.Forall₂ Describes entries ds := by
  obtain ⟨entries, ending, _, same, each⟩ := list_forall₂ (Json.read_of_readText gives)
  exact ⟨entries, ending, same, each.imp fun _ _ made => describes_of_read made⟩

end

/-- The bridge goes by a list. -/
structure GoesBy (b : Bridge) (entries : List Outline) : Prop where
  loaded : b.isLoaded = true
  described : List.Forall₂ Describes entries b.devices

section
variable {b b' : Bridge} {now : Nat} {entries : List Outline}

theorem KnowsAlike.goesBy (alike : KnowsAlike b b') (goes : GoesBy b entries) :
    GoesBy b' entries :=
  ⟨alike.isLoaded.trans goes.loaded, alike.devices ▸ goes.described⟩

theorem ofTopic?_eq_devices {base topic : String} :
    Subject.ofTopic? base topic = some .devices ↔ topic = listTopic base := by
  have path (cs : List Char) :
      Subject.ofPath? cs = some .devices ↔ cs = devicesTopic := by
    simp only [Subject.ofPath?]
    grind
  have parts : "/bridge/devices".toList = ['/'] ++ devicesTopic := by decide
  simp only [Subject.ofTopic?, Option.bind_eq_some_iff,
    List.isPrefixOf?_eq_some_iff_append_eq, path, exists_eq_right, ←
    @String.toList_inj topic, listTopic, String.toList_append, parts, List.append_assoc]
  exact eq_comm

theorem listing?_eq_some {base topic payload : String}
    (brings : listing? base (.message topic payload) = some entries) :
    topic = listTopic base ∧ ∃ ds, Directory.read payload = .ok ds ∧
      List.Forall₂ Describes entries ds := by
  simp only [listing?] at brings
  split at brings
  · next ds entries' _ reads here =>
      obtain ⟨same, rfl⟩ :=
        Option.ite_none_right_eq_some.mp brings |>.imp_right Option.some.inj
      obtain ⟨_, _, there, described⟩ := described_of_read reads
      cases here.symm.trans there
      exact ⟨same, ds, reads, described⟩
  · contradiction

theorem listing?_eq_none {base payload : String}
    (none : listing? base (.message (listTopic base) payload) = none) :
    ∃ e, Directory.read payload = .error e := by
  cases reads : Directory.read payload with
  | error e => exact ⟨e, rfl⟩
  | ok ds =>
      obtain ⟨_, _, there, -⟩ := described_of_read reads
      simp [listing?, reads, there] at none

/-- A list that can be read is what the bridge goes by from there on. -/
theorem goesBy_step {event : Event} (brings : listing? b.baseTopic event = some entries) :
    GoesBy (b.step now event).1 entries := by
  cases event with
  | message topic payload =>
      obtain ⟨rfl, ds, reads, described⟩ := listing?_eq_some brings
      simp only [step, handle, ofTopic?_eq_devices.mpr rfl, handleDevices, reads]
      exact ⟨rfl, described⟩
  | _ => cases brings

theorem step_unreadable {payload : String} {e : Json.ReadError}
    (unreadable : Directory.read payload = .error e) :
    b.step now (.message (listTopic b.baseTopic) payload) = (b, []) := by
  simp [step, handle, ofTopic?_eq_devices.mpr rfl, handleDevices, unreadable]

/-- Nothing else changes what the bridge goes by. -/
theorem alike_step {event : Event} (other : listing? b.baseTopic event = none) :
    KnowsAlike b (b.step now event).1 := by
  cases event with
  | call t key c => exact alike_call t key c
  | message topic payload =>
      by_cases list : topic = listTopic b.baseTopic
      · obtain ⟨e, unreadable⟩ := listing?_eq_none (list ▸ other)
        rw [list, step_unreadable unreadable]
        exact .refl b
      · have unlisted : Subject.ofTopic? b.baseTopic topic ≠ some .devices :=
          mt ofTopic?_eq_devices.mp list
        simp only [step, handle]
        split
        · exact .refl b
        · next subject => exact absurd subject unlisted
        · exact alike_response payload
        · exact .refl b
  | collect t =>
      simp only [step, collect]
      split
      · exact .refl b
      · simp only [settle]
        split <;> exact ⟨rfl, rfl⟩
  | close =>
      simp only [step, close]
      split <;> exact ⟨rfl, rfl⟩
  | abandon t | client c => exact ⟨rfl, rfl⟩

end

section
variable {s : Settings} {h : History} {b : Bridge} {entries : List Outline} {key : Key}

theorem lastListing?_snoc (base : String) (h : History) (m : Moment) :
    lastListing? base (h ++ [m]) = (listing? base m.event).or (lastListing? base h) := by
  cases brings : listing? base m.event <;> simp [lastListing?, brings]

theorem RunOf.goesBy (run : RunOf s h b) :
    ∀ entries, lastListing? s.baseTopic h = some entries → GoesBy b entries := by
  refine run.induct (P := fun h b =>
    ∀ entries, lastListing? s.baseTopic h = some entries → GoesBy b entries) ?_ ?_
  · intro entries none
    cases none
  · intro h b now event run ih entries last
    have base : b.baseTopic = s.baseTopic := by rw [baseTopic, run.settings]
    rw [lastListing?_snoc] at last
    cases brings : listing? s.baseTopic event with
    | some latest =>
        obtain rfl : latest = entries := by simpa [Moment.taken, brings] using last
        exact goesBy_step (base ▸ brings)
    | none =>
        refine (alike_step (base ▸ brings)).goesBy (ih entries ?_)
        simpa [Moment.taken, brings] using last

/-- What a caller who asks to resolve a key hears without waiting for anything. -/
def resolvedAtOnce (b : Bridge) (now : Nat) (t : Ticket) (key : Key) : List Effect :=
  let (b', fx) := b.step now (.call t key .resolve)
  fx ++ (b'.step now (.collect t)).2

/-- A caller who waits to have a key resolved is told that it is there. -/
def Confirms (b : Bridge) (key : Key) : Prop :=
  ∃ now t deadline, b.wait? t = some (.devices key deadline) ∧
    .reply t .ok ∈ (b.step now (.collect t)).2

theorem resolvedAtOnce_eq (loaded : b.isLoaded = true) {t : Ticket}
    (fresh : b.wait? t = none) (now : Nat) :
    resolvedAtOnce b now t key = [.reply t (b.resolution key)] := by
  have alone : b.sent (b.putWait t (.devices key (now + b.timeout))) = [] := b.sent_self
  have known : (b.putWait t (.devices key (now + b.timeout))).reply? now t =
      some (b.resolution key) := by
    simp only [reply?, wait?_putWait, if_true, show (b.putWait t _).isLoaded = true
      from loaded, Bool.true_or]
    rfl
  simp [resolvedAtOnce, step, call, fresh, place, alone, collect, known]

theorem serves_of_confirms (confirms : b.Confirms key) :
    Directory.serves b.devices key = true := by
  obtain ⟨now, t, deadline, waits, told⟩ := confirms
  simp only [step, collect, reply?, waits] at told
  by_cases served : Directory.serves b.devices key = true
  · exact served
  · have refused : b.resolution key = .fault (.attributeNotFound key.display) :=
      if_neg served
    split at told
    · simp at told
    · next r known =>
        obtain rfl : .ok = r := by simpa using told
        split at known
        · rw [refused] at known
          cases known
        · cases known

/-- Who listens is not told that the attribute is missing, if its device has a name. -/
theorem not_missing_of_named (named : (b.friendlyName? key).isSome = true) (now : Nat)
    (u : Ticket) (what : String) :
    .reply u (.fault (.attributeNotFound what)) ∉
      (b.step now (.call u key .listen)).2 := by
  intro told
  cases waits : b.wait? u with
  | some _ => simp [step, call, waits] at told
  | none =>
      have heard := List.mem_filterMap.mpr ⟨_, told, (rfl : Effect.reply? _ = some _)⟩
      rw [b.replies_listen key now waits, List.mem_singleton] at heard
      obtain ⟨-, reply⟩ := Prod.mk.inj heard
      obtain ⟨name, present⟩ := Option.isSome_iff_exists.mp named
      simp only [listen, present] at reply
      generalize (if (b.keysAt name).contains key then b.keysAt name
        else b.keysAt name ++ [key]) = keys at reply
      split at reply
      · split at reply <;> cases reply
      · cases reply

/-- Whether a key resolves is what the last list says that could be read, whatever came
after it that could not. Once a key has resolved, who listens to it is not told that it is
missing, as long as what is known of devices stays. -/
theorem resolves_as_last_listed (run : RunOf s h b)
    (last : lastListing? s.baseTopic h = some entries) (key : Key) :
    (∀ now t, b.wait? t = none →
      (Offered entries key ∧
        (KnownAttribute.find? key.cluster key.attributeId).isSome = true →
        resolvedAtOnce b now t key = [.reply t .ok]) ∧
      (¬ (Offered entries key ∧
        (KnownAttribute.find? key.cluster key.attributeId).isSome = true) →
        resolvedAtOnce b now t key =
          [.reply t (.fault (.attributeNotFound key.display))])) ∧
    (∀ now payload e, Directory.read payload = .error e →
      b.step now (.message (listTopic s.baseTopic) payload) = (b, [])) ∧
    ∀ b₁ b₂ : Bridge, b₁.Confirms key → b₂.devices = b₁.devices → ∀ now u what,
      .reply u (.fault (.attributeNotFound what)) ∉
        (b₂.step now (.call u key .listen)).2 := by
  have goes := run.goesBy entries last
  have served := Directory.serves_iff goes.described key
  refine ⟨fun now t fresh => ?_, fun now payload e unreadable => ?_,
    fun b₁ b₂ confirms same now u what => ?_⟩
  · rw [resolvedAtOnce_eq goes.loaded fresh, ← served]
    exact ⟨fun yes => by rw [resolution, if_pos yes],
      fun no => by rw [resolution, if_neg no]⟩
  · have base : b.baseTopic = s.baseTopic := by rw [baseTopic, run.settings]
    rw [← base]
    exact step_unreadable unreadable
  · refine not_missing_of_named ?_ now u what
    rw [friendlyName?, same]
    exact Directory.isSome_friendlyName_of_serves (serves_of_confirms confirms)

end

/-- A list with a sensor that has an endpoint. -/
def sensorList : String :=
  "[\x7b\"ieee_address\":\"0xaa\",\"friendly_name\":\"hall\",\"endpoints\":" ++
    "\x7b\"1\":\x7b\"clusters\":\x7b\"input\":[\"msOccupancySensing\"]\x7d\x7d\x7d\x7d]"

def sensorEntries : List Outline :=
  [.obj
    [(some "ieee_address", .str (some "0xaa")),
      (some "friendly_name", .str (some "hall")),
      (some "endpoints", .obj [(some "1", .obj [(some "clusters", .obj [(some "input",
        .arr [.str (some "msOccupancySensing")] .closed)] .closed)] .closed)]
          .closed)] .closed]

def sensorKey : Key := ⟨"0xaa", 1, .occupancySensing, 0⟩

/-- The list comes, and then one that breaks off. -/
def listedThenCut : List (Nat × Event) :=
  [(0, .message "zigbee2mqtt/bridge/devices" sensorList),
    (1, .message "zigbee2mqtt/bridge/devices" "[\x7b")]

def cutHistory : History := (play step (ofSettings {}) listedThenCut).1

def cutBridge : Bridge := (play step (ofSettings {}) listedThenCut).2

set_option maxRecDepth 8000 in
theorem cut_list_keeps_sensor_resolved :
    RunOf {} cutHistory cutBridge ∧
    lastListing? "zigbee2mqtt" cutHistory = some sensorEntries ∧
      Offered sensorEntries sensorKey ∧
      resolvedAtOnce cutBridge 2 0 sensorKey = [.reply 0 .ok] ∧
      resolvedAtOnce cutBridge 2 0 { sensorKey with endpoint := 2 } =
        [.reply 0 (.fault (.attributeNotFound "0xaa/2 0x0406/0x0000"))] := by
  have run : RunOf {} cutHistory cutBridge := .play {} listedThenCut
  have last : lastListing? "zigbee2mqtt" cutHistory = some sensorEntries := rfl
  have fresh : cutBridge.wait? 0 = none := by decide +kernel
  obtain ⟨one, two, shown⟩ :
      String.ofList (Text.digits 1) = "1" ∧ String.ofList (Text.digits 2) = "2" ∧
      { sensorKey with endpoint := 2 }.display = "0xaa/2 0x0406/0x0000" := by
    decide +kernel
  have offered : Offered sensorEntries sensorKey := by
    refine ⟨_, rfl, ?_⟩
    change EntryOffers _ (String.ofList (Text.digits 1)) _
    rw [one]
    exact ⟨_, _, rfl, .head _⟩
  refine ⟨run, last, offered, ?_, ?_⟩
  · exact ((resolves_as_last_listed run last sensorKey).1 2 0 fresh).1 ⟨offered, rfl⟩
  · rw [← shown]
    refine ((resolves_as_last_listed run last { sensorKey with endpoint := 2 }).1
      2 0 fresh).2 ?_
    rintro ⟨⟨entry, here, offers⟩, -⟩
    change EntryOffers _ (String.ofList (Text.digits 2)) _ at offers
    rw [two] at offers
    obtain ⟨_, _, inputs, -⟩ := offers
    cases here
    cases inputs

end Bridge
end MeshReadings
