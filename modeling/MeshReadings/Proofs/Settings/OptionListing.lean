import MeshReadings.Proofs.Hub.Startup
import MeshReadings.Proofs.Settings.Layers
import MeshReadings.Settings.OptionListing

/-!
What the listing of options promises. It has one entry for each attribute, in the order of
their channels, and the options in it are the ones that the engine of the attribute offers
once it was opened and asked for what the settings ask of reporting.
-/

namespace MeshReadings

/-- Every kind starts from bounds that are numbers. -/
theorem Kind.ofDefaults?_defaults (k : Kind) :
    ∃ c, Reporting.Config.ofDefaults? k.defaults = some c := by
  cases k <;> exact ⟨_, rfl⟩

namespace Settings
variable {text? : Option String} {env : Environment} {s : Settings} {a : SyncedAttribute}

theorem SyncedAttribute.options?_eq (a : SyncedAttribute) (timeout : UInt64) :
    ∃ c, Reporting.Config.ofDefaults? (a.toSpec timeout).defaults = some c ∧
      a.options? timeout = some (c.update a.reporting).options := by
  obtain ⟨c, made⟩ := a.kind.ofDefaults?_defaults
  have made : Reporting.Config.ofDefaults? (a.toSpec timeout).defaults = some c := made
  exact ⟨c, made, by simp [options?, made]⟩

/-- There is one entry for each attribute. -/
theorem optionListing_perm (s : Settings) :
    (s.optionListing.map (·.1)).Perm s.channels := by
  have named (a : SyncedAttribute) :
      ((a.options? s.sync.commandTimeout).map fun options => (a.channel, options)).map
      (·.1) = some a.channel := by
    obtain ⟨c, -, shown⟩ := a.options?_eq s.sync.commandTimeout
    simp [shown]
  refine ((List.mergeSort_perm _ _).map _).trans (.of_eq ?_)
  simp only [List.map_filterMap, named, channels, List.filterMap_eq_map']

theorem optionListing_sorted (distinct : s.channels.Nodup) :
    (s.optionListing.map (·.1)).Pairwise (· < ·) := by
  have apart : (s.optionListing.map (·.1)).Nodup :=
    s.optionListing_perm.nodup_iff.mpr distinct
  have ordered : s.optionListing.Pairwise fun a b => a.1 ≤ b.1 := by
    refine (List.pairwise_mergeSort ?_ ?_ _).imp of_decide_eq_true
    · intro a b c first second
      exact decide_eq_true
        (String.le_trans (of_decide_eq_true first) (of_decide_eq_true second))
    · intro a b
      simpa using String.le_total a.1 b.1
  have ordered := List.pairwise_map.mpr ordered
  exact (ordered.and apart).imp fun both => Std.lt_of_le_of_ne both.1 both.2

theorem mem_optionListing {options : List Reporting.EditableOption}
    (member : a ∈ s.attributes)
    (shown : a.options? s.sync.commandTimeout = some options) :
    (a.channel, options) ∈ s.optionListing := by
  refine (List.mergeSort_perm _ _).mem_iff.mpr (List.mem_filterMap.mpr ⟨a, member, ?_⟩)
  rw [shown, Option.map_some]

/-- The listing of settings that were accepted has one entry for each attribute, sorted by
channel. Its options are the ones that the attribute's engine offers after it was opened,
whatever the gateway did meanwhile, and asked for what the settings ask of reporting. -/
theorem listing_shows_offered_options (loaded : load text? env = .ok s) :
    ∃ entries : List (String × List Reporting.EditableOption),
      s.optionListingJson = .obj (entries.map fun (channel, options) =>
        (channel, .arr (options.map (·.toJson)))) ∧
      (entries.map (·.1)).Perm s.channels ∧ (entries.map (·.1)).Pairwise (· < ·) ∧
      ∀ a ∈ s.attributes, ∃ options, (a.channel, options) ∈ entries ∧
        ∀ (h : Hub.History) hub id now t, Run Hub.step .empty h hub →
          Hub.Initialized (a.toSpec s.sync.commandTimeout) id h →
          hub.inspection? t = none →
          let (hub', effects) :=
            hub.step now (.engine id (.start t (.exchange (.reconcile a.reporting))))
          effects = [.finish t (.engine (.settled .unbound))] ∧
            ∃ e, hub'.engine? id = some e ∧ e.channel = a.channel ∧
              e.options = options := by
  refine ⟨s.optionListing, rfl, s.optionListing_perm,
    optionListing_sorted (distinct_of_load loaded), ?_⟩
  intro a member
  obtain ⟨c, made, shown⟩ := a.options?_eq s.sync.commandTimeout
  refine ⟨_, mem_optionListing member shown, ?_⟩
  intro h hub id now t run init free
  obtain ⟨ends, e, c', here, channel, made', config⟩ :=
    init.reconcile run free now a.reporting
  cases made.symm.trans made'
  exact ⟨ends, e, here, channel, by rw [Engine.options, config]⟩

/-- Settings for one sensor, which ask for reports once a minute. -/
def doorText : String :=
  "\x7b\"attributes\":[\x7b\"channel\":\"door\",\"device\":\"0xaa\"," ++
    "\"kind\":\"occupancy\",\"reporting\":\x7b\"zigbee_reporting_max\":60\x7d\x7d]\x7d"

def door : SyncedAttribute where
  channel := "door"
  device := "0xaa"
  kind := .occupancy
  reporting := { maxInterval := some 60 }

/-- The sensor's engine is opened, and the sensor speaks before anything is asked of the
engine. -/
def doorOpens : List (Nat × Hub.Event) :=
  [(0, .openEngine 0 (door.toSpec 10)), (1, .reply 0 .ok), (2, .reply 0 .ok),
    (3, .deliver ⟨(door.toSpec 10).key, .bool true⟩)]

def doorHistory : Hub.History := (play Hub.step .empty doorOpens).1

def doorHub : Hub := (play Hub.step .empty doorOpens).2

theorem door_initialized : Hub.Initialized (door.toSpec 10) 0 doorHistory := by
  refine ⟨⟨_, .tail _ (.head _), 0, .ok, rfl, nofun, rfl, rfl, rfl⟩, ?_, ?_⟩
  · exact ⟨_, .tail _ (.tail _ (.head _)), .ok, nofun, 0, rfl, rfl⟩
  · intro m member asked
    have events : doorHistory.map (·.event) = doorOpens.map (·.2) := rfl
    have among : m.event ∈ doorOpens.map (·.2) := events ▸ List.mem_map_of_mem member
    intro same
    simp [same, doorOpens] at among

set_option maxRecDepth 8000 in
theorem door_offers_what_is_listed :
    load (some doorText) [] = .ok { attributes := [door] } ∧
    Run Hub.step .empty doorHistory doorHub ∧
      Hub.Initialized (door.toSpec 10) 0 doorHistory ∧ doorHub.inspection? 0 = none ∧
      ∃ options e, optionListingJson { attributes := [door] } =
        .obj [("door", .arr (options.map (·.toJson)))] ∧
        (doorHub.step 4
          (.engine 0 (.start 0 (.exchange (.reconcile door.reporting))))).1.engine? 0 =
            some e ∧
        e.options = options := by
  have loaded : load (some doorText) [] = .ok { attributes := [door] } := rfl
  have run : Run Hub.step .empty doorHistory doorHub := Run.nil.append_play doorOpens
  refine ⟨loaded, run, door_initialized, rfl, ?_⟩
  obtain ⟨entries, listing, single, -, offers⟩ := listing_shows_offered_options loaded
  obtain ⟨options, shown, engine⟩ := offers door (by simp)
  obtain ⟨-, e, here, -, same⟩ :=
    engine doorHistory doorHub 0 4 0 run door_initialized rfl
  obtain ⟨entry, rfl⟩ : ∃ entry, entries = [entry] :=
    List.length_eq_one_iff.mp (by simpa [channels] using single.length_eq)
  obtain rfl := List.mem_singleton.mp shown
  exact ⟨options, e, listing, here, same⟩

end Settings
end MeshReadings
