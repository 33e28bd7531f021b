import Mathlib.Logic.Function.Basic
import MeshReadings.Proofs.Settings.Assignments
import MeshReadings.Settings.Source

/-!
What an environment file adds to an environment. Setting a variable changes the
environment that the next one is looked for in, so a name is set at most once, with its
first value, and nothing that was set before is touched.
-/

namespace MeshReadings
namespace EnvFile

/-- The first of the text's lines that assigns the name anything assigns it the value. -/
def FirstAssigns (text name value : String) : Prop :=
  ∃ before line after, lines text.toList = before ++ line :: after ∧
    Assigns name.toList value.toList line ∧
    ∀ earlier ∈ before, ∀ other, ¬ Assigns name.toList other earlier

section
variable {name value text : String} {line : List Char}

theorem ofList_eq_iff {cs : List Char} {s : String} :
    String.ofList cs = s ↔ cs = s.toList :=
  ⟨fun same => by rw [← same, String.toList_ofList],
    fun same => by rw [same, String.ofList_toList]⟩

/-- The entry that a line gives, if it gives one. -/
theorem entry_eq_some_iff :
    (assignment? line).map (fun (name, value) =>
      (String.ofList name, String.ofList value)) = some (name, value) ↔
      Assigns name.toList value.toList line := by
  rw [← assignment?_eq_some_iff]
  cases assignment? line with
  | none => simp
  | some entry => simp [Prod.ext_iff, ofList_eq_iff]

theorem mem_assignments : (name, value) ∈ assignments text.toList ↔
    ∃ line ∈ lines text.toList, Assigns name.toList value.toList line := by
  simp only [assignments, List.mem_filterMap, entry_eq_some_iff]

/-- The first entry for a name comes from the first line that assigns it. -/
theorem find?_assignments_eq_some_iff :
    (assignments text.toList).find? (·.1 = name) = some (name, value) ↔
      FirstAssigns text name value := by
  have unassigned (earlier : List Char) :
      (!((assignment? earlier).map
        (fun (name, value) => (String.ofList name, String.ofList value))).any
        (·.1 = name)) = true ↔ ∀ other, ¬ Assigns name.toList other earlier := by
    simp only [← assignment?_eq_some_iff]
    cases assignment? earlier with
    | none => simp
    | some entry => simp [Prod.ext_iff, ofList_eq_iff]
  simp only [assignments, List.find?_filterMap, Option.bind_eq_some_iff,
    List.find?_eq_some_iff_append, entry_eq_some_iff, unassigned]
  constructor
  · rintro ⟨line, ⟨-, before, after, split, none⟩, assigns⟩
    exact ⟨before, line, after, split, assigns, none⟩
  · rintro ⟨before, line, after, split, assigns, none⟩
    refine ⟨line, ⟨?_, before, after, split, none⟩, assigns⟩
    rw [entry_eq_some_iff.mpr assigns]
    simp

/-! ### No null character comes from anywhere else than the text -/

theorem mem_of_mem_lines {text : List Char} (member : line ∈ lines text) {c : Char}
    (inLine : c ∈ line) : c ∈ text := by
  induction text generalizing line with
  | nil => simp_all [lines]
  | cons d text ih =>
      rw [lines] at member
      split at member
      · obtain rfl | later := List.mem_cons.mp member
        · contradiction
        · exact List.mem_cons_of_mem _ (ih later inLine)
      · cases parts : lines text with
        | nil => simp_all
        | cons l ls => grind

theorem Spells.sublist {value spelled : List Char} (spells : Spells value spelled) :
    value.Sublist spelled := by
  cases spells with
  | quoted => exact (List.sublist_append_left ..).cons _
  | plain => exact .refl _

theorem Assigns.sublist {name value : List Char} (assigns : Assigns name value line) :
    (name ++ value).Sublist line := by
  obtain ⟨-, a, b, c, d, spelled, -, -, -, -, spells, rfl⟩ := assigns
  have inner : (name ++ value).Sublist (name ++ b ++ '=' :: (c ++ spelled)) :=
    .append (List.sublist_append_left ..)
      (.cons _ (spells.sublist.trans (List.sublist_append_right ..)))
  exact (inner.trans (List.sublist_append_right ..)).trans (List.sublist_append_left ..)

theorem exportable_of_mem (clean : '\x00' ∉ text.toList) {entry : String × String}
    (member : entry ∈ assignments text.toList) : isExportable entry = true := by
  obtain ⟨line, inText, assigns⟩ := mem_assignments.mp member
  have absent {cs : List Char} (sub : cs.Sublist line) : '\x00' ∉ cs :=
    fun null => clean (mem_of_mem_lines inText (sub.mem null))
  have nameFree := absent ((List.sublist_append_left ..).trans assigns.sublist)
  have valueFree := absent ((List.sublist_append_right ..).trans assigns.sublist)
  simp [isExportable, nameFree, valueFree]

/-! ### What is added -/

variable {ω : Type} [DecidableEq ω] {encode : String → ω}
  {entries : List (String × String)}

/-- What is added to the environment are the first entries for the names that are not set
there. -/
theorem exportAll_eq (faithful : Function.Injective encode) (env : List (ω × ω))
    (exportable : ∀ entry ∈ entries, isExportable entry = true) :
    ∃ added : List (String × String),
      exportAll encode env entries =
        some (env ++ added.map (Prod.map encode encode), added.length) ∧
      (added.map (·.1)).Nodup ∧
      ∀ entry, entry ∈ added ↔
        encode entry.1 ∉ env.map (·.1) ∧ entries.find? (·.1 = entry.1) = some entry := by
  induction entries generalizing env with
  | nil => exact ⟨[], by simp [exportAll], .nil, by simp⟩
  | cons first rest ih =>
      have later :=
        fun entry member => exportable entry (List.mem_cons_of_mem first member)
      by_cases isSet : encode first.1 ∈ env.map (·.1)
      · -- The name is set already, be it by an entry before this one.
        obtain ⟨added, result, distinct, members⟩ := ih env later
        refine ⟨added, by rw [exportAll, if_pos isSet, result], distinct, fun entry => ?_⟩
        rw [members]
        refine and_congr_right fun unset => ?_
        have other : first.1 ≠ entry.1 := fun same => unset (same ▸ isSet)
        rw [List.find?_cons_of_neg (by simpa using other)]
      · -- From here on the name is set, so that no later entry for it counts.
        obtain ⟨added, result, distinct, members⟩ :=
          ih (env ++ [first.map encode encode]) later
        have names (name : String) :
            encode name ∉ (env ++ [first.map encode encode]).map (·.1) ↔
            encode name ∉ env.map (·.1) ∧ name ≠ first.1 := by
          simp [faithful.eq_iff, not_or]
        refine ⟨first :: added, ?_, ?_, fun entry => ?_⟩
        · rw [exportAll, if_neg isSet,
            if_pos (exportable first List.mem_cons_self), result]
          simp
        · refine List.nodup_cons.mpr ⟨fun again => ?_, distinct⟩
          obtain ⟨entry, member, same⟩ := List.mem_map.mp again
          exact ((names entry.1).mp ((members entry).mp member).1).2 same
        · rw [List.mem_cons, members, names]
          by_cases same : first.1 = entry.1
          · rw [List.find?_cons_of_pos (by simpa using same)]
            grind
          · rw [List.find?_cons_of_neg (by simpa using same)]
            grind

/-- After a file is loaded, the environment is what it was and behind it, for each name
that the file assigns and that was not set, the value that the first of the lines with the
name assigns. The count is that of these variables. Without a text nothing changes. The
words of an environment need be no texts: `encode` makes words of texts. -/
theorem load_adds_first_assignments (faithful : Function.Injective encode) (files : Files)
    (path : String) (env : List (ω × ω)) :
    (∀ text, files path = .ok text → '\x00' ∉ text.toList →
      ∃ added : List (String × String),
        loadInto encode (files path).toOption env =
          some (env ++ added.map (Prod.map encode encode), added.length) ∧
        (added.map (·.1)).Nodup ∧
        ∀ name value, (name, value) ∈ added ↔
          encode name ∉ env.map (·.1) ∧ FirstAssigns text name value) ∧
    ∀ fault, files path = .error fault →
      loadInto encode (files path).toOption env = some (env, 0) := by
  constructor
  · intro text content clean
    obtain ⟨added, result, distinct, members⟩ :=
      exportAll_eq faithful env fun _ member => exportable_of_mem clean member
    refine ⟨added, by rw [content]; exact result, distinct, fun name value => ?_⟩
    rw [members, find?_assignments_eq_some_iff]
  · intro fault failed
    rw [failed]
    rfl

/-- A path that is no text stays as it is, and of two user names the first counts. -/
theorem first_user_name_is_added :
    let text := "MQTT_USERNAME = hall\n# PATH=/sbin\nPATH=/bin\nMQTT_USERNAME='other'"
    let bytes : String → List UInt8 := fun s => s.toUTF8.data.toList
    let env := [(bytes "PATH", [0x2F, 0xFF])]
    let files : Files := fun path => if path = ".env" then .ok text else .error .missing
    Function.Injective bytes ∧ '\x00' ∉ text.toList ∧
      (∃ added : List (String × String),
        loadInto bytes (files ".env").toOption env =
          some (env ++ added.map (Prod.map bytes bytes), added.length) ∧
        (∀ value, ("MQTT_USERNAME", value) ∈ added ↔ value = "hall") ∧
        ∀ value, ("PATH", value) ∉ added) ∧
      loadInto bytes (files ".env.local").toOption env = some (env, 0) := by
  intro text bytes env files
  have faithful : Function.Injective bytes :=
    fun _ _ same => String.toByteArray_inj.mp (ByteArray.ext (Array.toList_inj.mp same))
  have clean : '\x00' ∉ text.toList := by decide
  have read : assignments text.toList =
      [("MQTT_USERNAME", "hall"), ("PATH", "/bin"), ("MQTT_USERNAME", "other")] := by
    decide
  obtain ⟨added, result, -, members⟩ :=
    (load_adds_first_assignments faithful files ".env" env).1 text rfl clean
  refine ⟨faithful, clean, ⟨added, result, fun value => ?_, fun value member => ?_⟩,
    (load_adds_first_assignments faithful files ".env.local" env).2 .missing rfl⟩
  · have other : bytes "MQTT_USERNAME" ≠ bytes "PATH" := faithful.ne (by decide)
    have unset : bytes "MQTT_USERNAME" ∉ env.map (·.1) :=
      List.not_mem_cons_of_ne_of_not_mem other List.not_mem_nil
    rw [members, ← find?_assignments_eq_some_iff, read, and_iff_right unset]
    simp [eq_comm]
  · exact ((members "PATH" value).mp member).1 List.mem_cons_self

end
end EnvFile
end MeshReadings
