import Mathlib.Data.List.Forall2
import MeshReadings.Json.Reader

/-!
What readers take from an outline. A record is an object or an array; what it says of a
field stands in the object under the field's name, or in the array at the field's place. A
record that can be read holds in each field what the field's reader makes of what stands
there, and its default if nothing does.
-/

namespace MeshReadings
namespace Json

/-- What an object holds under a name: of several entries the last. -/
def Outline.member? (name : String) : Outline → Option Outline
  | .obj entries _ => (entries.reverse.find? (·.1 == some name)).map (·.2)
  | _ => none

/-- What a record says of a field. -/
def Outline.field? (place : Nat) (name : String) : Outline → Option Outline
  | .arr items _ => items[place]?
  | v => v.member? name

namespace Reader

/-- A value is what its reader makes of what stands there, or the default if nothing
does. -/
def Gives (read : Reader β) (default? : Option β) : Option Outline → β → Prop
  | none, x => default? = some x
  | some v, x => ∃ depth, read depth v = .ok x

/-- Reading a field leaves something else about the record as it was. -/
def Field.Keeps (get : α → β) (f : Field α) : Prop :=
  ∀ depth v r r', f.read depth v r = .ok r' → get r' = get r

theorem keeps_field {get : α → β} {name : String} {required : Bool} {read : Reader γ}
    {set : α → γ → α} (keeps : ∀ r x, get (set r x) = get r) :
    (field name required read set).Keeps get := by
  intro depth v r r' gives
  cases made : read depth v with
  | error _ => simp [field, made, Except.map] at gives
  | ok x =>
      simp only [field, made, Except.map, Except.ok.injEq] at gives
      rw [← gives, keeps]

section
variable {get : α → β} {name title : String} {required : Bool} {read : Reader β}
  {set : α → β → α}
variable {fields : List (Field α)} {depth : Nat} {ending : Ending} {initial r r' : α}
  {seen seen' : List String}
variable {entries : List (Option String × Outline)}

theorem read_field {v : Outline} (sets : ∀ r x, get (set r x) = x)
    (gives : (field name required read set).read depth v r = .ok r') :
    read depth v = .ok (get r') := by
  cases made : read depth v with
  | error _ => simp [field, made, Except.map] at gives
  | ok x =>
      simp only [field, made, Except.map, Except.ok.injEq] at gives
      rw [← gives, sets]

/-- One entry of a record is skipped or read into the field of its name, which is met for
the first time. -/
theorem recordEntries_cons {entry : Option String × Outline}
    (gives : recordEntries fields depth ending (entry :: entries) seen r =
      .ok (seen', r')) :
    ∃ k, entry.1 = some k ∧
      (fields.find? (·.name == k) = none ∧
        recordEntries fields depth ending entries seen r = .ok (seen', r') ∨
        ∃ f r₁, fields.find? (·.name == k) = some f ∧ k ∉ seen ∧
          f.read depth entry.2 r = .ok r₁ ∧
          recordEntries fields depth ending entries (k :: seen) r₁ =
            .ok (seen', r')) := by
  obtain ⟨k?, v⟩ := entry
  cases k? with
  | none => simp [recordEntries, Reader.name, bind, Except.bind] at gives
  | some k =>
      refine ⟨k, rfl, ?_⟩
      simp only [recordEntries, Reader.name, bind, Except.bind] at gives
      split at gives
      · next unknown =>
          split at gives
          · contradiction
          · exact Or.inl ⟨unknown, gives⟩
      · next f known =>
          split at gives
          · contradiction
          · next fresh =>
              cases made : f.read depth v r with
              | error _ => simp [made] at gives
              | ok r₁ =>
                  rw [made] at gives
                  exact Or.inr ⟨f, r₁, known, by simpa using fresh, made, gives⟩

theorem lookup_cons (entry : Option String × Outline) (name : String) :
    ((entry :: entries).reverse.find? (·.1 == some name)).map (·.2) =
      ((entries.reverse.find? (·.1 == some name)).map (·.2)).or
        (if entry.1 = some name then some entry.2 else none) := by
  rw [List.reverse_cons, List.find?_append, Option.map_or]
  congr 1
  by_cases here : entry.1 = some name <;> simp [here]

section
variable (mine : fields.find? (·.name == name) = some (field name required read set))
  (others : ∀ g ∈ fields, g.name ≠ name → g.Keeps get)
include mine others

/-- A name that was met is not met again. -/
theorem recordEntries_met (met : name ∈ seen)
    (gives : recordEntries fields depth ending entries seen r = .ok (seen', r')) :
    name ∈ seen' ∧ get r' = get r ∧
    (entries.reverse.find? (·.1 == some name)).map (·.2) = none := by
  induction entries generalizing seen r with
  | nil =>
      simp only [recordEntries, bind, Except.bind] at gives
      split at gives
      · contradiction
      · cases gives
        exact ⟨met, rfl, rfl⟩
  | cons entry entries ih =>
      obtain ⟨k, named, ⟨unknown, rest⟩ | ⟨f, r₁, known, fresh, made, rest⟩⟩ :=
        recordEntries_cons gives
      · have other : k ≠ name := by
          rintro rfl
          cases unknown.symm.trans mine
        obtain ⟨met', same, absent⟩ := ih met rest
        exact ⟨met', same, by rw [lookup_cons, absent, named]; simp [other]⟩
      · have other : k ≠ name := by
          rintro rfl
          exact fresh met
        have called : f.name = k := by simpa using List.find?_some known
        have kept :=
          others f (List.mem_of_find?_eq_some known) (called ▸ other) _ _ _ _ made
        obtain ⟨met', same, absent⟩ := ih (List.mem_cons_of_mem k met) rest
        exact ⟨met', same.trans kept, by rw [lookup_cons, absent, named]; simp [other]⟩

theorem recordEntries_field (sets : ∀ r x, get (set r x) = x) (unmet : name ∉ seen)
    (gives : recordEntries fields depth ending entries seen r = .ok (seen', r')) :
    match (entries.reverse.find? (·.1 == some name)).map (·.2) with
    | none => name ∉ seen' ∧ get r' = get r
    | some v => read depth v = .ok (get r') := by
  -- Until the field is met nothing touches it; from there on `recordEntries_met` says
  -- that it is not met again, so that the first entry of its name is the last as well.
  induction entries generalizing seen r with
  | nil =>
      simp only [recordEntries, bind, Except.bind] at gives
      split at gives
      · contradiction
      · cases gives
        exact ⟨unmet, rfl⟩
  | cons entry entries ih =>
      rw [lookup_cons]
      obtain ⟨k, named, ⟨unknown, rest⟩ | ⟨f, r₁, known, fresh, made, rest⟩⟩ :=
        recordEntries_cons gives
      · have other : k ≠ name := by
          rintro rfl
          cases unknown.symm.trans mine
        simpa [named, other] using ih unmet rest
      · have called : f.name = k := by simpa using List.find?_some known
        by_cases here : k = name
        · subst here
          cases known.symm.trans mine
          obtain ⟨-, same, absent⟩ :=
            recordEntries_met mine others List.mem_cons_self rest
          rw [absent, named, Option.none_or, if_pos rfl, same]
          exact read_field sets made
        · have kept :=
            others f (List.mem_of_find?_eq_some known) (called ▸ here) _ _ _ _ made
          have unmet' : name ∉ k :: seen := by simp [unmet, Ne.symm here]
          simpa [named, here, kept] using ih unmet' rest

end

theorem recordItems_keeps {count index : Nat} {items : List Outline}
    (others : ∀ g ∈ fields, g.Keeps get)
    (gives : recordItems title count depth ending index fields items r = .ok r') :
    get r' = get r := by
  induction fields generalizing index items r with
  | nil =>
      cases items with
      | nil =>
          simp only [recordItems, bind, Except.bind] at gives
          split at gives
          · contradiction
          · cases gives
            rfl
      | cons _ _ => simp [recordItems] at gives
  | cons f fields ih =>
      obtain ⟨first, rest⟩ := List.forall_mem_cons.mp others
      cases items with
      | nil =>
          simp only [recordItems, bind, Except.bind] at gives
          split at gives
          · contradiction
          · split at gives
            · contradiction
            · exact ih rest gives
      | cons v items =>
          cases made : f.read depth v r with
          | error _ => simp [recordItems, made, bind, Except.bind] at gives
          | ok r₁ =>
              simp only [recordItems, made, bind, Except.bind] at gives
              exact (ih rest gives).trans (first _ _ _ _ made)

theorem recordItems_field {count index place : Nat} {items : List Outline}
    (sets : ∀ r x, get (set r x) = x)
    (mine : fields[place]? = some (field name required read set))
    (others : ∀ g ∈ fields.eraseIdx place, g.Keeps get)
    (gives : recordItems title count depth ending index fields items r = .ok r') :
    match items[place]? with
    | none => required = false ∧ get r' = get r
    | some v => read depth v = .ok (get r') := by
  induction fields generalizing index items r place with
  | nil => simp at mine
  | cons f fields ih =>
      cases items with
      | nil =>
          simp only [recordItems, bind, Except.bind] at gives
          split at gives
          · contradiction
          · split at gives
            · contradiction
            · next optional =>
                cases place with
                | zero =>
                    cases Option.some.inj mine
                    exact ⟨by simpa [field] using optional,
                      recordItems_keeps others gives⟩
                | succ place =>
                    have rest := ih mine (List.forall_mem_cons.mp others).2 gives
                    simpa using rest
      | cons v items =>
          cases made : f.read depth v r with
          | error _ => simp [recordItems, made, bind, Except.bind] at gives
          | ok r₁ =>
              simp only [recordItems, made, bind, Except.bind] at gives
              cases place with
              | zero =>
                  cases Option.some.inj mine
                  have same := recordItems_keeps others gives
                  simp only [List.getElem?_cons_zero, same]
                  exact read_field sets made
              | succ place =>
                  obtain ⟨first, others⟩ := List.forall_mem_cons.mp others
                  simpa [first _ _ _ _ made] using ih mine others gives

/-- Among fields of different names, a name tells which field is meant. -/
theorem find?_name_eq (distinct : (fields.map (·.name)).Nodup) {f : Field α} {place : Nat}
    (mine : fields[place]? = some f) : fields.find? (·.name == f.name) = some f := by
  induction fields generalizing place with
  | nil => simp at mine
  | cons g fields ih =>
      obtain ⟨apart, distinct⟩ := List.nodup_cons.mp distinct
      cases place with
      | zero =>
          cases Option.some.inj mine
          simp
      | succ place =>
          have later : f ∈ fields := List.mem_of_getElem? mine
          have other : g.name ≠ f.name :=
            fun same => apart (List.mem_map.mpr ⟨f, later, same.symm⟩)
          simpa [other] using ih distinct mine

/-- A record that can be read holds in a field what the field's reader makes of what the
record says of it. -/
theorem record_field {v : Outline} (get : α → β) (place : Nat)
    (mine : fields[place]? = some (field name required read set))
    (distinct : (fields.map (·.name)).Nodup) (sets : ∀ r x, get (set r x) = x)
    (others : ∀ g ∈ fields.eraseIdx place, g.Keeps get)
    (gives : record title fields initial depth v = .ok r) :
    Gives read (if required then none else some (get initial))
      (v.field? place name) (get r) := by
  cases v with
  | obj entries ending =>
      simp only [record, bind, Except.bind] at gives
      split at gives
      · contradiction
      · next d _ =>
          split at gives
          · contradiction
          · next result reads =>
              obtain ⟨seen, r'⟩ := result
              split at gives
              · contradiction
              · next present =>
                  cases gives
                  have known : fields.find? (·.name == name) =
                      some (field name required read set) :=
                    find?_name_eq distinct mine
                  have apart : ∀ g ∈ fields, g.name ≠ name → g.Keeps get := by
                    intro g member other
                    obtain ⟨i, here⟩ := List.getElem?_of_mem member
                    refine others g (List.mem_eraseIdx_iff_getElem?.mpr ⟨i, ?_, here⟩)
                    rintro rfl
                    cases here.symm.trans mine
                    exact other rfl
                  have taken :=
                    recordEntries_field known apart sets List.not_mem_nil reads
                  simp only [Outline.field?, Outline.member?]
                  cases said : (entries.reverse.find? (·.1 == some name)).map (·.2) with
                  | some u =>
                      rw [said] at taken
                      exact ⟨d, taken⟩
                  | none =>
                      rw [said] at taken
                      obtain ⟨unmet, same⟩ := taken
                      have optional : required = false := by
                        have found :=
                          List.find?_eq_none.mp present _ (List.mem_of_getElem? mine)
                        simpa [field, unmet] using found
                      simp [Gives, optional, same]
  | arr items ending =>
      simp only [record, bind, Except.bind] at gives
      split at gives
      · contradiction
      · next d _ =>
          have taken := recordItems_field sets mine others gives
          simp only [Outline.field?]
          cases said : items[place]? with
          | some u =>
              rw [said] at taken
              exact ⟨d, taken⟩
          | none =>
              rw [said] at taken
              simp [Gives, taken.1, taken.2]
  | _ => simp [record] at gives

/-- The same of a record that may be left out, whose fields may be too. -/
theorem Gives.field {v? : Option Outline}
    (gives : Gives (record title fields initial) (some initial) v? r) (get : α → β)
    (place : Nat) (mine : fields[place]? = some (Reader.field name false read set))
    (distinct : (fields.map (·.name)).Nodup) (sets : ∀ r x, get (set r x) = x)
    (others : ∀ g ∈ fields.eraseIdx place, g.Keeps get) :
    Gives read (some (get initial)) (v?.bind (·.field? place name)) (get r) := by
  cases v? with
  | none =>
      cases Option.some.inj gives
      rfl
  | some v =>
      obtain ⟨depth, gives⟩ := gives
      exact record_field get place mine distinct sets others gives

end

section
variable {read : Reader α} {depth : Nat} {v : Outline}

theorem string_eq_ok {s : String} : string depth v = .ok s ↔ v = .str (some s) := by
  cases v with
  | str said => cases said <;> simp [string]
  | _ => simp [string]

theorem items_forall₂ {read : Outline → Except ReadError α} {ending : Ending}
    {vs : List Outline} {xs : List α} (gives : items read ending vs = .ok xs) :
    List.Forall₂ (fun v x => read v = .ok x) vs xs := by
  induction vs generalizing xs with
  | nil =>
      simp only [items, bind, Except.bind] at gives
      split at gives
      · contradiction
      · cases gives
        exact .nil
  | cons v vs ih =>
      simp only [items, bind, Except.bind] at gives
      split at gives
      · contradiction
      · next x made =>
          split at gives
          · contradiction
          · next rest =>
              cases gives
              exact .cons made (ih rest)

theorem entries_forall₂ {read : Outline → Except ReadError α} {ending : Ending}
    {es : List (Option String × Outline)} {xs : List (String × α)}
    (gives : entries read ending es = .ok xs) :
    List.Forall₂ (fun e x => e.1 = some x.1 ∧ read e.2 = .ok x.2) es xs := by
  induction es generalizing xs with
  | nil =>
      simp only [entries, bind, Except.bind] at gives
      split at gives
      · contradiction
      · cases gives
        exact .nil
  | cons e es ih =>
      obtain ⟨k?, v⟩ := e
      cases k? with
      | none => simp [entries, name, bind, Except.bind] at gives
      | some k =>
          simp only [entries, name, bind, Except.bind] at gives
          split at gives
          · contradiction
          · next x made =>
              split at gives
              · contradiction
              · next rest =>
                  cases gives
                  exact .cons ⟨rfl, made⟩ (ih rest)

theorem list_forall₂ {xs : List α} (gives : list read depth v = .ok xs) :
    ∃ vs ending d, v = .arr vs ending ∧
      List.Forall₂ (fun v x => read d v = .ok x) vs xs := by
  cases v with
  | arr vs ending =>
      simp only [list, bind, Except.bind] at gives
      split at gives
      · contradiction
      · exact ⟨vs, ending, _, rfl, items_forall₂ gives⟩
  | _ => simp [list] at gives

theorem list_string_eq {xs : List String} (gives : list string depth v = .ok xs) :
    ∃ ending, v = .arr (xs.map fun s => .str (some s)) ending := by
  obtain ⟨vs, ending, _, rfl, each⟩ := list_forall₂ gives
  simp only [string_eq_ok] at each
  have same : vs = xs.map fun s => .str (some s) := by
    rw [← List.forall₂_eq_eq_eq]
    exact List.forall₂_map_right_iff.mpr each
  exact ⟨ending, by rw [same]⟩

theorem dictionary_forall₂ {xs : List (String × α)}
    (gives : dictionary read depth v = .ok xs) :
    ∃ es ending d, v = .obj es ending ∧
      List.Forall₂ (fun e x => e.1 = some x.1 ∧ read d e.2 = .ok x.2) es xs := by
  cases v with
  | obj es ending =>
      simp only [dictionary, bind, Except.bind] at gives
      split at gives
      · contradiction
      · exact ⟨es, ending, _, rfl, entries_forall₂ gives⟩
  | _ => simp [dictionary] at gives

end

/-- Of things that were read one by one, the last that fits was read from the last that
fits. -/
theorem find?_reverse_rel {R : α → β → Prop} {p : α → Bool} {q : β → Bool} {xs : List α}
    {ys : List β} (related : List.Forall₂ R xs ys) (agree : ∀ x y, R x y → p x = q y) :
    xs.reverse.find? p = none ∧ ys.reverse.find? q = none ∨
      ∃ x y, xs.reverse.find? p = some x ∧ ys.reverse.find? q = some y ∧ R x y := by
  have backwards := List.forall₂_reverse_iff.mpr related
  generalize xs.reverse = xs, ys.reverse = ys at backwards
  induction backwards with
  | nil => exact Or.inl ⟨rfl, rfl⟩
  | @cons x y xs ys first rest ih =>
      rw [List.find?_cons, List.find?_cons, agree x y first]
      cases q y with
      | true => exact Or.inr ⟨x, y, rfl, rfl, first⟩
      | false => exact ih

end Reader

/-- A text that can be read is read from its outline. -/
theorem read_of_readText {read : Reader α} {text : String} {x : α}
    (gives : readText read text = .ok x) :
    read nestingLimit (outline text.toList).1 = .ok x := by
  simp only [readText, bind, Except.bind] at gives
  split at gives
  · contradiction
  · next made =>
      split at gives
      · cases gives
        exact made
      · contradiction

end Json
end MeshReadings
