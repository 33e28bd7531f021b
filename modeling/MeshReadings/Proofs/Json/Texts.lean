import MeshReadings.Json.Reader

/-!
The texts of values as a reader meets them. The outline of a value's compact text is the
value itself, whatever characters its strings hold, as long as its numbers are whole and
fit sixty-four bits.
-/

namespace MeshReadings
namespace Json

/-! ### Numbers -/

theorem isDigit_digits (n : Nat) : ∀ c ∈ Text.digits n, isDigit c = true := by
  have one : ∀ d < 10, isDigit (Text.digitChar d) = true := by decide
  induction n using Text.digits.induct with
  | case1 n small =>
      rw [Text.digits, if_pos small]
      simpa using one n small
  | case2 n large ih =>
      rw [Text.digits, if_neg large]
      exact List.forall_mem_append.mpr ⟨ih, by simpa using one (n % 10) (by omega)⟩

/-- The digits of a number start with a zero only if that is all of them. -/
theorem digits_eq_cons (n : Nat) :
    ∃ c cs, Text.digits n = c :: cs ∧ (c = '0' → cs = []) := by
  induction n using Text.digits.induct with
  | case1 n small => exact ⟨_, [], by rw [Text.digits, if_pos small], fun _ => rfl⟩
  | case2 n large ih =>
      obtain ⟨c, cs, front, alone⟩ := ih
      refine ⟨c, cs ++ [Text.digitChar (n % 10)],
        by rw [Text.digits, if_neg large, front, List.cons_append], ?_⟩
      rintro rfl
      have value := Text.number_digits (n / 10)
      rw [front, alone rfl] at value
      have zero : n / 10 = 0 := value.symm
      omega

/-- Digits of a number within sixty-four bits all fit the significand. -/
theorem foldl_pushWhole_digits {n : Nat} (fits : n < UInt64.size) :
    (Text.digits n).foldl Spelling.Significand.pushWhole ⟨0, 0, false⟩ =
      ⟨n, 0, false⟩ := by
  induction n using Text.digits.induct with
  | case1 n small =>
      rw [Text.digits, if_pos small]
      simp [Spelling.Significand.pushWhole, Spelling.fits,
        Text.digitValue_digitChar small, fits]
  | case2 n large ih =>
      have value : n / 10 * 10 + n % 10 = n := by omega
      rw [Text.digits, if_neg large, List.foldl_append, ih (by omega)]
      simp [Spelling.Significand.pushWhole, Spelling.fits,
        Text.digitValue_digitChar (Nat.mod_lt n (by decide)), value, fits]

/-- What can follow a number without becoming part of it. -/
def EndsNumber (rest : List Char) : Prop :=
  ∀ c ∈ rest.head?, isDigit c = false ∧ c ≠ '.' ∧ c ≠ 'e' ∧ c ≠ 'E'

theorem scanNumber_digits (negative : Bool) (n : Nat) {rest : List Char}
    (ends : EndsNumber rest) :
    scanNumber negative (Text.digits n ++ rest) =
      (.number (Spelling.mk negative (Text.digits n) none none).number?, some rest) := by
  have taken : (Text.digits n ++ rest).takeWhile isDigit = Text.digits n := by
    rw [List.takeWhile_append_of_pos (isDigit_digits n)]
    cases rest with
    | nil => simp
    | cons c rest => simp [(ends c rfl).1]
  have left : (Text.digits n ++ rest).dropWhile isDigit = rest := by
    rw [List.dropWhile_append_of_pos (isDigit_digits n)]
    cases rest with
    | nil => rfl
    | cons c rest => simp [(ends c rfl).1]
  have whole (s : Spelling) : scanFraction s rest = (.number s.number?, some rest) := by
    cases rest with
    | nil => rfl
    | cons c rest =>
        obtain ⟨-, point, lower, upper⟩ := ends c rfl
        simp [scanFraction, scanExponent, point, lower, upper]
  obtain ⟨c, cs, shape, alone⟩ := digits_eq_cons n
  rw [scanNumber, taken, left, shape]
  split
  · contradiction
  · next first second others =>
      cases others
      cases alone rfl
  · exact whole _

/-- The whole numbers that are read as they are written. -/
def Whole (n : Int) : Prop := Int64.minValue.toInt ≤ n ∧ n < UInt64.size

theorem number?_natural {n : Nat} (fits : n < UInt64.size) :
    (Spelling.mk false (Text.digits n) none none).number? = some (.whole n) := by
  simp [Spelling.number?, Spelling.significand, foldl_pushWhole_digits fits]

theorem number?_negative {n : Nat} (negative : n ≠ 0) (fits : n ≤ UInt64.size / 2) :
    (Spelling.mk true (Text.digits n) none none).number? = some (.whole (-n)) := by
  have fits' : n < UInt64.size := Nat.lt_of_le_of_lt fits (by decide)
  simp [Spelling.number?, Spelling.significand, foldl_pushWhole_digits fits', negative,
    Nat.not_lt.mpr fits]

theorem skipSpace_cons {c : Char} (solid : isSpace c = false) (cs : List Char) :
    skipSpace (c :: cs) = c :: cs := by
  simp [skipSpace, solid]

theorem digit_solid {c : Char} (digit : isDigit c = true) :
    isSpace c = false ∧ c ≠ ']' := by
  simp only [isDigit, Bool.and_eq_true, decide_eq_true_eq] at digit
  have low : 48 ≤ c.toNat := digit.1
  have high : c.toNat ≤ 57 := digit.2
  have all : ∀ n < 58, 48 ≤ n → isSpace (Char.ofNat n) = false ∧ Char.ofNat n ≠ ']' := by
    decide
  simpa using all c.toNat (by omega) low

theorem scanValue_integer {n : Int} (whole : Whole n) (fuel : Nat) {rest : List Char}
    (ends : EndsNumber rest) :
    scanValue (fuel + 1) (Text.integer n ++ rest) =
      (.number (some (.whole n)), some rest) := by
  obtain ⟨low, high⟩ := whole
  by_cases negative : n < 0
  · have fits : n.natAbs ≤ UInt64.size / 2 := by
      have : Int64.minValue.toInt = -(UInt64.size / 2 : Nat) := by decide
      omega
    rw [Text.integer, if_pos negative, List.cons_append, scanValue, skipSpace_cons rfl]
    simp only [scanNumber_digits true _ ends]
    rw [number?_negative (by omega) fits,
      Int.ofNat_natAbs_of_nonpos (by omega), Int.neg_neg]
  · have fits : n.natAbs < UInt64.size := by omega
    have same : ((n.natAbs : Nat) : Int) = n := by omega
    obtain ⟨c, cs, shape, -⟩ := digits_eq_cons n.natAbs
    have digit : isDigit c = true := isDigit_digits n.natAbs c (by simp [shape])
    have scanned : scanNumber false (c :: (cs ++ rest)) =
        (.number (some (.whole n)), some rest) := by
      rw [← List.cons_append, ← shape, scanNumber_digits false _ ends,
        number?_natural fits, same]
    rw [Text.integer, if_neg negative, shape, List.cons_append, scanValue,
      skipSpace_cons (digit_solid digit).1]
    split
    all_goals simp_all [isDigit]

/-! ### Strings -/

/-- What a character of a string becomes in its text: control characters without a short
escape are written by their numbers. -/
def piece (c : Char) : Piece :=
  if c.toNat < 32 ∧ c ∉ ['\x08', '\t', '\n', '\x0c', '\r'] then .unit c.toNat
  else .plain c

theorem scanString_escape (c : Char) (rest : List Char) :
    scanString (escape c ++ rest) = (scanString rest).push (piece c) := by
  by_cases short : c ∈ ['"', '\\', '\x08', '\t', '\n', '\x0c', '\r']
  · simp only [List.mem_cons, List.not_mem_nil, or_false] at short
    obtain rfl | rfl | rfl | rfl | rfl | rfl | rfl := short <;> rfl
  · simp only [List.mem_cons, List.not_mem_nil, or_false, not_or] at short
    by_cases control : c.toNat < 32
    · have digits : ∀ n < 32, Text.hex false 4 n =
          ['0', '0', Text.hexDigit false (n / 16), Text.hexDigit false (n % 16)] ∧
            hexUnit? '0' '0' (Text.hexDigit false (n / 16))
              (Text.hexDigit false (n % 16)) = some n := by
          decide
      obtain ⟨written, read⟩ := digits c.toNat control
      simp [escape, piece, short, control, written, scanString, read]
    · have plain : piece c = .plain c := if_neg fun special => control special.1
      have itself : escape c = [c] := by simp [escape, short, control]
      rw [itself, plain, List.singleton_append, scanString, if_neg control]
      all_goals simp [short]

theorem scanString_text (cs rest : List Char) :
    scanString (cs.flatMap escape ++ '"' :: rest) = .complete (cs.map piece) rest := by
  induction cs with
  | nil => rfl
  | cons c cs ih =>
      rw [List.flatMap_cons, List.append_assoc, scanString_escape, ih]
      rfl

theorem assemble_unit {n : Nat} (small : n < 0xD800) (pieces : List Piece) :
    assemble (.unit n :: pieces) = (assemble pieces).map (Char.ofNat n :: ·) := by
  have high : isHighHalf n = false := by simp [isHighHalf]; omega
  have low : isLowHalf n = false := by simp [isLowHalf]; omega
  rcases pieces with _ | ⟨_ | m, pieces⟩ <;> simp [assemble, high, low]

theorem assemble_pieces (cs : List Char) : assemble (cs.map piece) = some cs := by
  induction cs with
  | nil => rfl
  | cons c cs ih =>
      rw [List.map_cons, piece]
      split
      · next control =>
            rw [assemble_unit (by omega), ih, Option.map_some, Char.ofNat_toNat]
      · rw [assemble, ih, Option.map_some]

/-! ### Values -/

mutual

/-- The outline of a value's text. -/
def outlined : Json → Outline
  | .null => .null
  | .bool b => .bool b
  | .int n => .number (some (.whole n))
  | .num x => .number (some (.real x))
  | .str s => .str (some s)
  | .arr vs => .arr (outlinedItems vs) .closed
  | .obj es => .obj (outlinedEntries es) .closed

def outlinedItems : List Json → List Outline
  | [] => []
  | v :: vs => outlined v :: outlinedItems vs

def outlinedEntries : List (String × Json) → List (Option String × Outline)
  | [] => []
  | (k, v) :: es => (some k, outlined v) :: outlinedEntries es

end

mutual

/-- All numbers in a value are whole and fit sixty-four bits. -/
def Exact : Json → Prop
  | .null | .bool _ | .str _ => True
  | .int n => Whole n
  | .num _ => False
  | .arr vs => ExactItems vs
  | .obj es => ExactEntries es

def ExactItems : List Json → Prop
  | [] => True
  | v :: vs => Exact v ∧ ExactItems vs

def ExactEntries : List (String × Json) → Prop
  | [] => True
  | (_, v) :: es => Exact v ∧ ExactEntries es

end

theorem scanString_name (s : String) (rest : List Char) :
    scanString (s.toList.flatMap escape ++ '"' :: rest) =
      .complete (s.toList.map piece) rest ∧
      (assemble (s.toList.map piece)).map String.ofList = some s := by
  rw [scanString_text, assemble_pieces, Option.map_some, String.ofList_toList]
  exact ⟨rfl, rfl⟩

/-- No value starts with a space or the end of an array. -/
theorem render_eq_cons {v : Json} (exact : v.Exact) :
    ∃ c cs, v.render = c :: cs ∧ isSpace c = false ∧ c ≠ ']' := by
  cases v with
  | int n =>
      obtain ⟨c, cs, shape, -⟩ := digits_eq_cons n.natAbs
      have digit : isDigit c = true := isDigit_digits n.natAbs c (by simp [shape])
      rw [render, Text.integer, shape]
      split
      · exact ⟨_, _, rfl, by decide, by decide⟩
      · exact ⟨c, cs, rfl, digit_solid digit⟩
  | num x => contradiction
  | bool b => cases b <;> exact ⟨_, _, rfl, by decide, by decide⟩
  | arr vs => cases vs <;> exact ⟨_, _, by rw [render], by decide, by decide⟩
  | obj es => cases es <;> exact ⟨_, _, by rw [render], by decide, by decide⟩
  | null => exact ⟨_, _, by rw [render], by decide, by decide⟩
  | str s => exact ⟨_, _, by rw [render, quote]; rfl, by decide, by decide⟩

theorem endsNumber_items (vs : List Json) (rest : List Char) :
    EndsNumber (renderItems vs ++ rest) := by
  cases vs <;> simp [renderItems, EndsNumber, isDigit]

theorem endsNumber_entries (es : List (String × Json)) (rest : List Char) :
    EndsNumber (renderEntries es ++ rest) := by
  cases es <;> simp [renderEntries, EndsNumber, isDigit]

/-- With so many steps the texts of values, of items and of entries are read as what they
were written for, and what follows them is left. -/
structure ReadsBack (fuel : Nat) : Prop where
  value (v : Json) (rest : List Char) : v.Exact → EndsNumber rest →
      2 * v.render.length ≤ fuel →
    scanValue fuel (v.render ++ rest) = (v.outlined, some rest)
  items (v : Json) (vs : List Json) (rest : List Char) : ExactItems (v :: vs) →
    2 * (v.render.length + (renderItems vs).length) ≤ fuel →
    scanItems fuel (v.render ++ (renderItems vs ++ rest)) =
      (outlinedItems (v :: vs), .closed, some rest)
  entries (unfinished : ReadError → ReadError → Ending) (k : String) (v : Json)
    (es : List (String × Json)) (rest : List Char) :
    ExactEntries ((k, v) :: es) →
    2 * (v.render.length + (renderEntries es).length) ≤ fuel →
    scanEntries fuel unfinished (k.toList.flatMap escape ++ '"' :: ':' ::
      (v.render ++ (renderEntries es ++ rest))) =
      (outlinedEntries ((k, v) :: es), .closed, some rest)

section
variable {fuel : Nat} {v : Json} {rest : List Char}

theorem scanValue_render (ih : ReadsBack fuel) (exact : v.Exact) (ends : EndsNumber rest)
    (enough : 2 * v.render.length ≤ fuel + 1) :
    scanValue (fuel + 1) (v.render ++ rest) = (v.outlined, some rest) := by
  cases v with
  | null => rfl
  | bool b => cases b <;> rfl
  | int n => rw [render, scanValue_integer exact fuel ends, outlined]
  | num x => contradiction
  | str s =>
      obtain ⟨scanned, assembled⟩ := scanString_name s rest
      simp only [render, quote, List.cons_append, List.append_assoc, List.nil_append,
        scanValue, skipSpace_cons (c := '"') rfl, scanned, assembled, outlined]
  | arr vs =>
      cases vs with
      | nil => rfl
      | cons v vs =>
          obtain ⟨c, cs, front, solid, item⟩ := render_eq_cons exact.1
          have items := ih.items v vs rest exact (by simp [render] at enough; omega)
          rw [front, List.cons_append] at items
          rw [render, List.cons_append, List.append_assoc, front, List.cons_append,
            scanValue, skipSpace_cons rfl]
          simp only [skipSpace_cons solid]
          split
          · contradiction
          · simp_all
          · rw [items, outlined]
  | obj es =>
      cases es with
      | nil => rfl
      | cons e es =>
          have entries :=
            ih.entries .cut e.1 e.2 es rest exact (by simp [render] at enough; omega)
          simp only [render, quote, List.cons_append, List.append_assoc, List.nil_append,
            scanValue, skipSpace_cons (c := '\x7b') rfl, skipSpace_cons (c := '"') rfl,
            entries, outlined]

theorem scanItems_render (ih : ReadsBack fuel) {vs : List Json}
    (exact : ExactItems (v :: vs))
    (enough : 2 * (v.render.length + (renderItems vs).length) ≤ fuel + 1) :
    scanItems (fuel + 1) (v.render ++ (renderItems vs ++ rest)) =
      (outlinedItems (v :: vs), .closed, some rest) := by
  have longer : 0 < (renderItems vs).length := by cases vs <;> simp [renderItems]
  have first := ih.value v _ exact.1 (endsNumber_items vs rest) (by omega)
  cases vs with
  | nil =>
      rw [scanItems, first]
      rfl
  | cons w vs =>
      obtain ⟨c, cs, front, solid, item⟩ := render_eq_cons exact.2.1
      have later := ih.items w vs rest exact.2 (by simp [renderItems] at enough; omega)
      rw [front, List.cons_append] at later
      rw [scanItems, first, renderItems, front]
      simp only [List.cons_append, List.append_assoc, skipSpace_cons (c := ',') rfl,
        skipSpace_cons solid]
      split
      · contradiction
      · simp_all
      · rw [later]
        rfl

theorem scanEntries_render (ih : ReadsBack fuel) {k : String} {es : List (String × Json)}
    (exact : ExactEntries ((k, v) :: es)) (unfinished : ReadError → ReadError → Ending)
    (enough : 2 * (v.render.length + (renderEntries es).length) ≤ fuel + 1) :
    scanEntries (fuel + 1) unfinished
        (k.toList.flatMap escape ++ '"' :: ':' ::
          (v.render ++ (renderEntries es ++ rest))) =
      (outlinedEntries ((k, v) :: es), .closed, some rest) := by
  have longer : 0 < (renderEntries es).length := by cases es <;> simp [renderEntries]
  have first := ih.value v _ exact.1 (endsNumber_entries es rest) (by omega)
  obtain ⟨scanned, assembled⟩ :=
    scanString_name k (':' :: (v.render ++ (renderEntries es ++ rest)))
  rw [scanEntries, scanned]
  simp only [skipSpace_cons (c := ':') rfl, first, assembled]
  cases es with
  | nil => rfl
  | cons e es =>
      have later :=
        ih.entries .dangling e.1 e.2 es rest exact.2
          (by simp [renderEntries] at enough; omega)
      simp only [renderEntries, quote, List.cons_append, List.append_assoc,
        List.nil_append, skipSpace_cons (c := ',') rfl,
        skipSpace_cons (c := '"') rfl, later]
      rfl

end

theorem readsBack (fuel : Nat) : ReadsBack fuel := by
  induction fuel with
  | zero =>
      have written {v : Json} (exact : v.Exact) : 0 < v.render.length := by
        obtain ⟨c, cs, front, -⟩ := render_eq_cons exact
        simp [front]
      exact ⟨fun v rest exact ends enough => absurd (written exact) (by omega),
        fun v vs rest exact enough => absurd (written exact.1) (by omega),
        fun unfinished k v es rest exact enough => absurd (written exact.1) (by omega)⟩
  | succ fuel ih =>
      exact ⟨fun v rest => scanValue_render ih, fun v vs rest => scanItems_render ih,
        fun unfinished k v es rest exact => scanEntries_render ih exact unfinished⟩

/-- A text written for a value is read as the value. -/
theorem readText_compact {read : Reader α} {v : Json} (exact : v.Exact) :
    readText read v.compact = read nestingLimit v.outlined := by
  have whole : outline v.compact.toList = (v.outlined, some []) := by
    have scanned :=
      (readsBack _).value v [] exact (by simp [EndsNumber]) (Nat.le_add_right _ 2)
    rwa [List.append_nil, ← String.toList_ofList (l := v.render)] at scanned
  simp only [readText, whole]
  cases read nestingLimit v.outlined <;> rfl

end Json
end MeshReadings
