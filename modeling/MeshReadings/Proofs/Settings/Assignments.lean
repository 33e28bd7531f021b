import Mathlib.Data.List.TakeWhile
import MeshReadings.Settings.EnvFile

/-!
What the lines of an environment file assign. `Assigns` says how an assignment is written:
a name, an equals sign and a value that is quoted or stands for itself, with blanks around
each of them. A line is read as an assignment exactly if it is written as one, so that
reading undoes writing, on a line and in a file.
-/

namespace MeshReadings

namespace Text

def Blank (cs : List Char) : Prop := ∀ c ∈ cs, isBlank c = true

instance (cs : List Char) : Decidable (Blank cs) := List.decidableBAll _ cs

section
variable {a b cs : List Char}

theorem trim_blank_append (blank : Blank a) (cs : List Char) :
    trim (a ++ cs) = trim cs := by
  rw [trim, trim, List.dropWhile_append_of_pos blank]

theorem trim_append_blank (blank : Blank b) (cs : List Char) :
    trim (cs ++ b) = trim cs := by
  simp only [trim, List.dropWhile_append, List.isEmpty_iff]
  split
  · next allBlank =>
      rw [allBlank, List.dropWhile_eq_nil_iff.mpr blank]
  · rw [List.reverse_append, List.dropWhile_append_of_pos]
    intro c member
    exact blank c (List.mem_reverse.mp member)

/-- What is trimmed away is blank. -/
theorem trim_spec (cs : List Char) :
    ∃ a b, Blank a ∧ Blank b ∧ cs = a ++ trim cs ++ b := by
  refine ⟨cs.takeWhile isBlank, ((cs.dropWhile isBlank).reverse.takeWhile
    isBlank).reverse, fun c => List.mem_takeWhile_imp,
    fun c member => List.mem_takeWhile_imp (List.mem_reverse.mp member), ?_⟩
  rw [trim, List.append_assoc, ← List.reverse_append, List.takeWhile_append_dropWhile,
    List.reverse_reverse, List.takeWhile_append_dropWhile]

theorem trim_trim (cs : List Char) : trim (trim cs) = trim cs := by
  obtain ⟨a, b, before, after, whole⟩ := trim_spec cs
  calc trim (trim cs) = trim (a ++ trim cs ++ b) := by
        rw [trim_append_blank after, trim_blank_append before]
    _ = trim cs := by rw [← whole]

theorem trim_sublist (cs : List Char) : (trim cs).Sublist cs := by
  obtain ⟨a, b, -, -, whole⟩ := trim_spec cs
  have inside : (trim cs).Sublist (a ++ trim cs ++ b) :=
    (List.sublist_append_right ..).trans (List.sublist_append_left ..)
  rwa [← whole] at inside

/-- Text is trimmed if no blank stands at either of its ends. -/
theorem trim_of_ends (first : ∀ c ∈ cs.head?, isBlank c = false)
    (last : ∀ c ∈ cs.getLast?, isBlank c = false) : trim cs = cs := by
  have starts {ds : List Char} (first : ∀ c ∈ ds.head?, isBlank c = false) :
      ds.dropWhile isBlank = ds := by
    cases ds with
    | nil => rfl
    | cons d ds => exact List.dropWhile_cons_of_neg (by simp [first d rfl])
  rw [trim, starts first, starts, List.reverse_reverse]
  rwa [List.head?_reverse]

/-- No blank stands at the start of trimmed text. -/
theorem head_of_trim (trimmed : trim cs = cs) : ∀ c ∈ cs.head?, isBlank c = false := by
  intro c first
  obtain ⟨rest, rfl⟩ := List.head?_eq_some_iff.mp first
  refine Bool.eq_false_iff.mpr fun blank => ?_
  have shorter := (trim_sublist rest).length_le
  have front : Blank [c] := List.forall_mem_singleton.mpr blank
  rw [← trim_blank_append front rest, List.singleton_append, trimmed,
    List.length_cons] at shorter
  omega

/-- No blank stands at the end of trimmed text. -/
theorem last_of_trim (trimmed : trim cs = cs) : ∀ c ∈ cs.getLast?, isBlank c = false := by
  intro c last
  obtain ⟨rest, rfl⟩ := List.getLast?_eq_some_iff.mp last
  refine Bool.eq_false_iff.mpr fun blank => ?_
  have shorter := (trim_sublist rest).length_le
  have back : Blank [c] := List.forall_mem_singleton.mpr blank
  rw [← trim_append_blank back rest, trimmed, List.length_append,
    List.length_singleton] at shorter
  omega

end
end Text

namespace EnvFile
open Text (Blank trim)

/-- The quotes that may stand around a value. -/
def IsQuote (c : Char) : Prop := c = '"' ∨ c = '\''

/-- What can be written as a name: no blank stands at its ends, no equals sign in it and
no mark of a comment before it. -/
structure IsName (name : List Char) : Prop where
  nonempty : name ≠ []
  trimmed : trim name = name
  undivided : '=' ∉ name
  uncommented : name.head? ≠ some '#'

/-- How a value may be written: between two quotes of a kind, or for itself if it does not
look like that and has no blank at its ends. -/
inductive Spells (value : List Char) : List Char → Prop
  | quoted {quote : Char} (kind : IsQuote quote) :
      Spells value (quote :: (value ++ [quote]))
  | plain (trimmed : trim value = value)
      (unquoted : ∀ quote, IsQuote quote → ∀ inner, value ≠ quote :: (inner ++ [quote])) :
      Spells value value

/-- The line gives the name the value, with blanks wherever they may stand. -/
def Assigns (name value line : List Char) : Prop :=
  IsName name ∧ ∃ a b c d spelled, Blank a ∧ Blank b ∧ Blank c ∧ Blank d ∧
    Spells value spelled ∧ line = a ++ (name ++ b ++ '=' :: (c ++ spelled)) ++ d

section
variable {name value line spelled cs : List Char}

theorem between?_eq_some_iff {quote : Char} {inner : List Char} :
    between? quote cs = some inner ↔ cs = quote :: (inner ++ [quote]) := by
  cases cs with
  | nil => simp [between?]
  | cons c rest =>
      simp only [between?]
      rcases List.eq_nil_or_concat rest with rfl | ⟨body, d, rfl⟩
      · simp
      · have ends : body ++ [d] = inner ++ [quote] ↔ body = inner ∧ d = quote :=
          ⟨fun same =>
            ⟨(List.append_inj' same rfl).1, by simpa using (List.append_inj' same rfl).2⟩,
            fun ⟨bodies, quotes⟩ => by rw [bodies, quotes]⟩
        simp only [List.concat_eq_append, List.reverse_append, List.reverse_cons,
          List.reverse_nil, List.nil_append, List.singleton_append, List.reverse_reverse,
          Option.ite_none_right_eq_some, Option.some.injEq, List.cons.injEq,
          ends, and_comm]

theorem between?_eq_none_iff {quote : Char} :
    between? quote cs = none ↔ ∀ inner, cs ≠ quote :: (inner ++ [quote]) := by
  simp [Option.eq_none_iff_forall_ne_some, between?_eq_some_iff]

theorem unquote_quoted {quote : Char} (kind : IsQuote quote) (value : List Char) :
    unquote (quote :: (value ++ [quote])) = value := by
  obtain rfl | rfl := kind
  · rw [unquote, between?_eq_some_iff.mpr rfl]
  · have other : between? '"' ('\'' :: (value ++ ['\''])) = none := by simp [between?]
    rw [unquote, other, between?_eq_some_iff.mpr rfl, Option.getD_some]

theorem unquote_plain
    (unquoted : ∀ quote, IsQuote quote → ∀ inner, value ≠ quote :: (inner ++ [quote])) :
    unquote value = value := by
  rw [unquote, between?_eq_none_iff.mpr (unquoted '"' (.inl rfl)),
    between?_eq_none_iff.mpr (unquoted '\'' (.inr rfl)), Option.getD_none]

theorem Spells.unquote (spells : Spells value spelled) : unquote spelled = value := by
  cases spells with
  | quoted kind => exact unquote_quoted kind value
  | plain _ unquoted => exact unquote_plain unquoted

theorem Spells.trimmed (spells : Spells value spelled) : trim spelled = spelled := by
  cases spells with
  | @quoted quote kind =>
      have solid : Text.isBlank quote = false := by
        obtain rfl | rfl := kind <;> rfl
      apply Text.trim_of_ends
      · simpa using solid
      · rw [← List.cons_append, List.getLast?_concat]
        simpa using solid
  | plain trimmed => exact trimmed

theorem spells_unquote (trimmed : trim spelled = spelled) :
    Spells (EnvFile.unquote spelled) spelled := by
  by_cases quoted : ∃ quote, IsQuote quote ∧
    ∃ inner, spelled = quote :: (inner ++ [quote])
  · obtain ⟨quote, kind, inner, rfl⟩ := quoted
    rw [unquote_quoted kind]
    exact .quoted kind
  · have unquoted : ∀ quote, IsQuote quote →
        ∀ inner, spelled ≠ quote :: (inner ++ [quote]) :=
      fun quote kind inner same => quoted ⟨quote, kind, inner, same⟩
    rw [unquote_plain unquoted]
    exact .plain trimmed unquoted

/-- The first equals sign divides the text. -/
theorem splitAssignment?_eq_some_iff :
    splitAssignment? cs = some (name, value) ↔
      '=' ∉ name ∧ cs = name ++ '=' :: value := by
  induction cs generalizing name with
  | nil => simp [splitAssignment?]
  | cons c cs ih =>
      rw [splitAssignment?]
      split
      · cases name <;> grind
      · cases tail : splitAssignment? cs <;> cases name <;> grind

/-- What is read from a line, in terms of the parts that its first equals sign makes of
it. -/
theorem assignment?_parts : assignment? line = some (name, value) ↔
    ∃ left right, trim line = left ++ '=' :: right ∧ '=' ∉ left ∧
      (trim line).head? ≠ some '#' ∧
      trim left = name ∧ name ≠ [] ∧ unquote (trim right) = value := by
  constructor
  · intro reads
    simp only [assignment?] at reads
    split at reads
    · contradiction
    · next uncommented =>
        split at reads
        · contradiction
        · next left right found =>
            obtain ⟨undivided, parts⟩ := splitAssignment?_eq_some_iff.mp found
            split at reads
            · contradiction
            · next nonempty =>
                obtain ⟨rfl, rfl⟩ := Prod.mk.inj (Option.some.inj reads)
                exact ⟨left, right, parts, undivided, uncommented, rfl,
                  by simpa using nonempty, rfl⟩
  · rintro ⟨left, right, parts, undivided, uncommented, rfl, nonempty, rfl⟩
    have found := splitAssignment?_eq_some_iff.mpr ⟨undivided, parts⟩
    simp [assignment?, uncommented, found, nonempty]

theorem assigns_of_assignment? (reads : assignment? line = some (name, value)) :
    Assigns name value line := by
  obtain ⟨left, right, parts, undivided, uncommented, rfl, nonempty, rfl⟩ :=
    assignment?_parts.mp reads
  obtain ⟨a, d, before, after, line_eq⟩ := Text.trim_spec line
  obtain ⟨a', b, before', between, left_eq⟩ := Text.trim_spec left
  obtain ⟨c, d', between', after', right_eq⟩ := Text.trim_spec right
  have fit : IsName (trim left) := by
    refine ⟨nonempty, Text.trim_trim left,
      fun divided => undivided ((Text.trim_sublist left).mem divided), ?_⟩
    intro comment
    obtain ⟨name, shape⟩ := List.head?_eq_some_iff.mp comment
    rw [shape] at left_eq
    -- The mark of the comment would be the first character of the line as well, unless a
    -- blank is.
    cases a' with
    | nil => exact uncommented (by rw [parts, left_eq]; rfl)
    | cons x a' =>
        have first : (trim line).head? = some x := by rw [parts, left_eq]; rfl
        have solid := Text.head_of_trim (Text.trim_trim line) x first
        rw [before' x List.mem_cons_self] at solid
        contradiction
  refine ⟨fit, a ++ a', b, c, d' ++ d, trim right,
    List.forall_mem_append.mpr ⟨before, before'⟩, between, between',
    List.forall_mem_append.mpr ⟨after', after⟩, spells_unquote (Text.trim_trim right), ?_⟩
  calc line = a ++ (left ++ '=' :: right) ++ d := by rw [← parts, ← line_eq]
    _ = a ++ (a' ++ trim left ++ b ++ '=' :: (c ++ trim right ++ d')) ++ d := by
        rw [← left_eq, ← right_eq]
    _ = a ++ a' ++ (trim left ++ b ++ '=' :: (c ++ trim right)) ++ (d' ++ d) := by simp

/-- The blanks around an assignment fall away; those behind the equals sign are left for
the value. -/
theorem trim_line {a b c d : List Char} (fit : IsName name) (before : Blank a)
    (between : Blank c) (after : Blank d) (trimmed : trim spelled = spelled) :
    ∃ rest,
      trim (a ++ (name ++ b ++ '=' :: (c ++ spelled)) ++ d) = name ++ b ++ '=' :: rest ∧
      trim rest = spelled := by
  obtain ⟨n, name', rfl⟩ := List.exists_cons_of_ne_nil fit.nonempty
  have first := Text.head_of_trim fit.trimmed n rfl
  rw [Text.trim_append_blank after, Text.trim_blank_append before]
  by_cases empty : spelled = []
  · refine ⟨[], ?_, by rw [empty]; rfl⟩
    have whole :
        n :: name' ++ b ++ '=' :: (c ++ spelled) = n :: name' ++ b ++ ['='] ++ c := by
      simp [empty]
    rw [whole, Text.trim_append_blank between]
    apply Text.trim_of_ends
    · simpa using first
    · simp only [List.getLast?_concat, Option.mem_some_iff, forall_eq']
      decide
  · refine ⟨c ++ spelled, ?_, by rw [Text.trim_blank_append between, trimmed]⟩
    apply Text.trim_of_ends
    · simpa using first
    · have whole : n :: name' ++ b ++ '=' :: (c ++ spelled) =
          n :: name' ++ b ++ '=' :: c ++ spelled := by
        simp
      rw [whole, List.getLast?_append, List.getLast?_eq_some_getLast empty,
        Option.some_or, ← List.getLast?_eq_some_getLast empty]
      exact Text.last_of_trim trimmed

theorem Assigns.assignment? (assigns : Assigns name value line) :
    assignment? line = some (name, value) := by
  obtain ⟨fit, a, b, c, d, spelled, before, between, between', after, spells, rfl⟩ :=
    assigns
  obtain ⟨rest, parts, value_eq⟩ :=
    trim_line (b := b) fit before between' after spells.trimmed
  have undivided : '=' ∉ name ++ b := by
    intro divided
    obtain inName | inBlanks := List.mem_append.mp divided
    · exact fit.undivided inName
    · exact absurd (between '=' inBlanks) (by decide)
  have uncommented : (name ++ b ++ '=' :: rest).head? ≠ some '#' := by
    obtain ⟨n, name', rfl⟩ := List.exists_cons_of_ne_nil fit.nonempty
    simpa using fit.uncommented
  refine assignment?_parts.mpr
    ⟨name ++ b, rest, parts, undivided, parts ▸ uncommented, ?_, fit.nonempty, ?_⟩
  · rw [Text.trim_append_blank between, fit.trimmed]
  · rw [value_eq, spells.unquote]

/-- A line is read as an assignment exactly if it is written as one. -/
theorem assignment?_eq_some_iff :
    assignment? line = some (name, value) ↔ Assigns name value line :=
  ⟨assigns_of_assignment?, Assigns.assignment?⟩

theorem Assigns.append_blank {d : List Char} (assigns : Assigns name value line)
    (after : Blank d) : Assigns name value (line ++ d) := by
  obtain ⟨fit, a, b, c, d', spelled, before, between, between', after', spells, rfl⟩ :=
    assigns
  exact ⟨fit, a, b, c, d' ++ d, spelled, before, between, between',
    List.forall_mem_append.mpr ⟨after', after⟩, spells, List.append_assoc ..⟩

/-! ### Files -/

theorem lines_of_not_mem (single : '\n' ∉ line) : lines line = [line] := by
  induction line with
  | nil => rfl
  | cons c cs ih =>
      obtain ⟨other, single⟩ := not_or.mp (mt List.mem_cons.mpr single)
      rw [lines, if_neg (Ne.symm other), ih single]

theorem lines_append (xs ys : List Char) :
    lines (xs ++ '\n' :: ys) = lines xs ++ lines ys := by
  induction xs with
  | nil => simp [lines]
  | cons c xs ih =>
      rw [List.cons_append, lines, lines, ih]
      split
      · rfl
      · -- No text is without lines, so the first line is one of those of `xs`.
        cases first : lines xs with
        | nil => cases xs <;> grind [lines]
        | cons l ls => rfl

theorem assignments_append (xs ys : List Char) :
    assignments (xs ++ '\n' :: ys) = assignments xs ++ assignments ys := by
  rw [assignments, lines_append, List.filterMap_append, ← assignments, ← assignments]

theorem assignments_nil : assignments [] = [] := rfl

/-- What a file assigns before the start of a line and what it assigns from there on do
not depend on each other. -/
theorem assignments_append_of_start {before : List Char}
    (start : ∀ c ∈ before.getLast?, c = '\n') (after : List Char) :
    assignments (before ++ after) = assignments before ++ assignments after := by
  rcases List.eq_nil_or_concat before with rfl | ⟨text, c, rfl⟩
  · rw [List.nil_append, assignments_nil, List.nil_append]
  · rw [List.concat_eq_append] at start ⊢
    cases start c List.getLast?_concat
    rw [assignments_append, assignments_nil, List.append_nil, List.append_assoc,
      List.singleton_append, assignments_append]

theorem assignments_line (assigns : Assigns name value line) (single : '\n' ∉ line) :
    assignments line = [(String.ofList name, String.ofList value)] := by
  simp [assignments, lines_of_not_mem single, assignment?_eq_some_iff.mpr assigns]

/-- Reading undoes writing. What a line assigns is read back, whatever the value holds and
wherever blanks stand, and a file with that line assigns the same beside what is assigned
before it and after it, whichever way its lines end. -/
theorem reading_undoes_writing (assigns : Assigns name value line) :
    assignment? line = some (name, value) ∧
      ∀ before ending after : List Char, '\n' ∉ line → (∀ c ∈ before.getLast?, c = '\n') →
        (ending = ['\n'] ∨ ending = ['\r', '\n'] ∨ ending = [] ∧ after = []) →
        assignments (before ++ line ++ ending ++ after) =
          assignments before ++ (String.ofList name, String.ofList value) ::
            assignments after := by
  refine ⟨assignment?_eq_some_iff.mpr assigns,
    fun before ending after single start ends => ?_⟩
  have here : assignments (line ++ ending ++ after) =
      (String.ofList name, String.ofList value) :: assignments after := by
    obtain rfl | rfl | ⟨rfl, rfl⟩ := ends
    · rw [List.append_assoc, List.singleton_append, assignments_append,
        assignments_line assigns single, List.singleton_append]
    · -- The carriage return is one more blank behind the value.
      have wider : Assigns name value (line ++ ['\r']) :=
        assigns.append_blank (List.forall_mem_singleton.mpr rfl)
      have single : '\n' ∉ line ++ ['\r'] := by simpa using single
      have whole : line ++ ['\r', '\n'] ++ after = line ++ ['\r'] ++ '\n' :: after := by
        simp
      rw [whole, assignments_append, assignments_line wider single, List.singleton_append]
    · rw [List.append_nil, List.append_nil, assignments_line assigns single,
        assignments_nil]
  rw [List.append_assoc, List.append_assoc, ← List.append_assoc line,
    assignments_append_of_start start, here]

/-- A password with both quotes, an equals sign, a comment mark and blanks at its ends, in
a file with either form of line ends. -/
theorem quoted_password_is_read :
    assignment? "MQTT_PASSWORD = ' \"a' = #b \"' ".toList =
      some ("MQTT_PASSWORD".toList, " \"a' = #b \"".toList) ∧
      assignments "A=1\nMQTT_PASSWORD = ' \"a' = #b \"' \r\n# B=2\nC='".toList =
        [("A", "1"), ("MQTT_PASSWORD", " \"a' = #b \""), ("C", "'")] := by
  have fit : IsName "MQTT_PASSWORD".toList := ⟨by decide, by decide, by decide, by decide⟩
  have written : Assigns "MQTT_PASSWORD".toList " \"a' = #b \"".toList
      "MQTT_PASSWORD = ' \"a' = #b \"' ".toList :=
    ⟨fit, [], [' '], [' '], [' '], _, by decide, by decide, by decide, by decide,
      .quoted (.inr rfl), rfl⟩
  obtain ⟨line, file⟩ := reading_undoes_writing written
  exact ⟨line, file "A=1\n".toList ['\r', '\n'] "# B=2\nC='".toList (by decide) (by simp)
    (.inr (.inl rfl))⟩

end

end EnvFile
end MeshReadings
