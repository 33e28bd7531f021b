/-!
Tables: lists of entries, each of them under a key. Several parts of the program keep what
is in progress in one.
-/

namespace MeshReadings
section
variable {α β : Type} [BEq α] [LawfulBEq α]

theorem mem_of_value {key : α} {value : β} {entries : List (α × β)}
    (holds : (entries.find? (·.1 == key)).map (·.2) = some value) :
    (key, value) ∈ entries := by
  obtain ⟨entry, found, rfl⟩ := Option.map_eq_some_iff.mp holds
  have same : entry.1 = key := by simpa using List.find?_some found
  exact same ▸ List.mem_of_find?_eq_some found

/-- Where no key has two entries, each entry is the one that is found under its key. -/
theorem value_of_mem {key : α} {value : β} {entries : List (α × β)}
    (once : (entries.map (·.1)).Nodup) (member : (key, value) ∈ entries) :
    (entries.find? (·.1 == key)).map (·.2) = some value := by
  induction entries with
  | nil => cases member
  | cons first rest ih =>
      obtain ⟨absent, once⟩ := List.nodup_cons.mp once
      obtain rfl | later := List.mem_cons.mp member
      · simp
      · have other : first.1 ≠ key :=
          fun same => absent (List.mem_map.mpr ⟨_, later, same.symm⟩)
        rw [List.find?_cons_of_neg (by simpa using other)]
        exact ih once later

/-- What is removed under one key is missed under no other. -/
theorem find?_removed_of_ne {removed key : α} (other : key ≠ removed)
    (entries : List (α × β)) :
    (entries.filter (·.1 != removed)).find? (·.1 == key) =
      entries.find? (·.1 == key) := by
  rw [List.find?_filter]
  congr 1
  funext entry
  by_cases here : entry.1 = key
  · simp [here, other]
  · simp [here]

end
end MeshReadings
