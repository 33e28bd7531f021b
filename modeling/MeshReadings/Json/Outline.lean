import MeshReadings.Json.Number

/-!
The outline of a JSON text: every value in it and, where the text stops being JSON, what
is wrong there. What is wrong can depend on whether the place is read or skipped over, so
an outline keeps both; reading an outline in order then meets faults of shape and faults
of text in the order in which they stand.
-/

namespace MeshReadings
namespace Json

/-- Why a text could not be read: it ends too soon, it is not JSON, or it is JSON of
another shape. -/
inductive ReadError
  | truncated
  | malformed
  | mismatch (message : String)
deriving DecidableEq

/-- How the list of items or entries ends. A cut list lacks a separator or a close; a
dangling one has a comma with no entry after it. Both say what is wrong for a reader and
for one who skips. -/
inductive Ending
  | closed
  | cut (reading skipping : ReadError)
  | dangling (reading skipping : ReadError)

inductive Outline
  | null
  | bool (b : Bool)
  /-- A number, unless it is too large. -/
  | number (n : Option Number)
  /-- A string, unless its escapes leave half of a surrogate pair. -/
  | str (s : Option String)
  | arr (items : List Outline) (ending : Ending)
  | obj (entries : List (Option String × Outline)) (ending : Ending)
  /-- An object whose first entry does not start with a name, and what stands there
  instead. -/
  | unnamed (first : Outline)
  | broken (reading skipping : ReadError)

def isSpace (c : Char) : Bool := c = ' ' || c = '\n' || c = '\t' || c = '\r'

def skipSpace (cs : List Char) : List Char := cs.dropWhile isSpace

def isDigit (c : Char) : Bool := '0' ≤ c && c ≤ '9'

def hexValue? (c : Char) : Option Nat :=
  if isDigit c then some (c.toNat - 48)
  else if 'a' ≤ c && c ≤ 'f' then some (c.toNat - 87)
  else if 'A' ≤ c && c ≤ 'F' then some (c.toNat - 55)
  else none

/-- A character of a string or a sixteen-bit unit from an escape. -/
inductive Piece
  | plain (c : Char)
  | unit (n : Nat)

/-- The pieces of a string up to its end or to where it breaks. -/
inductive Scanned
  | complete (pieces : List Piece) (rest : List Char)
  | broken (pieces : List Piece) (error : ReadError)

def Scanned.push (p : Piece) : Scanned → Scanned
  | .complete ps rest => .complete (p :: ps) rest
  | .broken ps e => .broken (p :: ps) e

def shortEscape? (c : Char) : Option Char :=
  if c = '"' || c = '\\' || c = '/' then some c
  else if c = 'b' then some '\x08'
  else if c = 'f' then some '\x0c'
  else if c = 'n' then some '\n'
  else if c = 'r' then some '\r'
  else if c = 't' then some '\t'
  else none

def hexUnit? (a b c d : Char) : Option Nat := do
  let a ← hexValue? a
  let b ← hexValue? b
  let c ← hexValue? c
  let d ← hexValue? d
  return ((a * 16 + b) * 16 + c) * 16 + d

/-- A numeric escape that is not four digits: too few bytes are left, or they are no
digits. -/
def badUnit (rest : List Char) : ReadError :=
  if ((rest.take 4).map Char.utf8Size).foldr (· + ·) 0 < 4 then .truncated else .malformed

def scanString : List Char → Scanned
  | [] => .broken [] .truncated
  | '"' :: rest => .complete [] rest
  | ['\\'] => .broken [] .truncated
  | '\\' :: 'u' :: a :: b :: c :: d :: rest =>
    match hexUnit? a b c d with
    | some n => (scanString rest).push (.unit n)
    | none => .broken [] (badUnit (a :: b :: c :: d :: rest))
  | '\\' :: 'u' :: rest => .broken [] (badUnit rest)
  | '\\' :: c :: rest =>
    match shortEscape? c with
    | some x => (scanString rest).push (.plain x)
    | none => .broken [] .malformed
  | c :: rest =>
      if c.toNat < 32 then .broken [] .malformed else (scanString rest).push (.plain c)

def isHighHalf (n : Nat) : Bool := 0xD800 ≤ n && n < 0xDC00

def isLowHalf (n : Nat) : Bool := 0xDC00 ≤ n && n < 0xE000

def joinHalves (high low : Nat) : Char :=
  Char.ofNat (0x10000 + (high - 0xD800) * 0x400 + (low - 0xDC00))

/-- The characters of the pieces, unless a surrogate half stands alone. -/
def assemble : List Piece → Option (List Char)
  | [] => some []
  | .plain c :: ps => (assemble ps).map (c :: ·)
  | .unit high :: .unit low :: ps =>
    if isHighHalf high then
      if isLowHalf low then (assemble ps).map (joinHalves high low :: ·) else none
    else if isLowHalf high then none
    else (assemble (.unit low :: ps)).map (Char.ofNat high :: ·)
  | .unit n :: ps =>
    if isHighHalf n || isLowHalf n then none else (assemble ps).map (Char.ofNat n :: ·)

/-- Whether pieces that break off can still become a string: a last high half may yet be
completed. -/
def canContinue (ps : List Piece) : Bool :=
  (assemble ps).isSome ||
    match ps.reverse with
    | .unit n :: before => isHighHalf n && (assemble before.reverse).isSome
    | _ => false

/-- What a reader finds wrong in a string that breaks off. -/
def brokenString (ps : List Piece) (e : ReadError) : ReadError :=
  if canContinue ps then e else .malformed

/-- The rest of a text, unless the text broke off before it. -/
abbrev Rest := Option (List Char)

/-- The letters of a word such as `null` after its first. -/
def scanWord (v : Outline) : List Char → List Char → Outline × Rest
  | [], rest => (v, some rest)
  | _ :: _, [] => (.broken .truncated .truncated, none)
  | w :: ws, c :: rest =>
      if w = c then scanWord v ws rest else (.broken .malformed .malformed, none)

/-- Digits that must be there: at the end of the text a reader finds it truncated. -/
def missingDigits (rest : List Char) : Outline × Rest :=
  (.broken (if rest.isEmpty then .truncated else .malformed) .malformed, none)

def scanExponent (s : Spelling) (cs : List Char) : Outline × Rest :=
  match cs with
  | c :: rest =>
    if c = 'e' || c = 'E' then
      let (negative, rest) := match rest with
        | '+' :: r => (false, r)
        | '-' :: r => (true, r)
        | r => (false, r)
      let ds := rest.takeWhile isDigit
      let rest := rest.dropWhile isDigit
      if ds.isEmpty then missingDigits rest
      else (.number { s with exponent := some (negative, ds) }.number?, some rest)
    else (.number s.number?, some cs)
  | [] => (.number s.number?, some [])

def scanFraction (s : Spelling) (cs : List Char) : Outline × Rest :=
  match cs with
  | '.' :: rest =>
    let ds := rest.takeWhile isDigit
    let rest := rest.dropWhile isDigit
    if ds.isEmpty then missingDigits rest
    else scanExponent { s with fraction := some ds } rest
  | _ => scanExponent s cs

/-- A number after its sign. A leading zero stands alone. -/
def scanNumber (negative : Bool) (cs : List Char) : Outline × Rest :=
  let ds := cs.takeWhile isDigit
  let rest := cs.dropWhile isDigit
  match ds with
  | [] => missingDigits rest
  | '0' :: _ :: _ => (.broken .malformed .malformed, none)
  | _ => scanFraction ⟨negative, ds, none, none⟩ rest

mutual

def scanValue : Nat → List Char → Outline × Rest
  | 0, _ => (.broken .malformed .malformed, none)
  | fuel + 1, cs =>
    match skipSpace cs with
    | [] => (.broken .truncated .truncated, none)
    | 'n' :: rest => scanWord .null ['u', 'l', 'l'] rest
    | 't' :: rest => scanWord (.bool true) ['r', 'u', 'e'] rest
    | 'f' :: rest => scanWord (.bool false) ['a', 'l', 's', 'e'] rest
    | '"' :: rest =>
      match scanString rest with
      | .complete ps rest => (.str ((assemble ps).map String.ofList), some rest)
      | .broken ps e => (.broken (brokenString ps e) e, none)
    | '[' :: rest =>
      match skipSpace rest with
      | [] => (.arr [] (.cut .truncated .truncated), none)
      | ']' :: rest => (.arr [] .closed, some rest)
      | rest =>
        let (items, ending, rest) := scanItems fuel rest
        (.arr items ending, rest)
    | '\x7b' :: rest =>
      match skipSpace rest with
      | [] => (.obj [] (.cut .truncated .truncated), none)
      | '\x7d' :: rest => (.obj [] .closed, some rest)
      | '"' :: rest =>
        let (entries, ending, rest) := scanEntries fuel .cut rest
        (.obj entries ending, rest)
      | rest => (.unnamed (scanValue fuel rest).1, none)
    | '-' :: rest => scanNumber true rest
    | c :: rest =>
        if isDigit c then scanNumber false (c :: rest)
        else (.broken .malformed .malformed, none)

def scanItems : Nat → List Char → List Outline × Ending × Rest
  | 0, _ => ([], .cut .malformed .malformed, none)
  | fuel + 1, cs =>
    match scanValue fuel cs with
    | (v, none) => ([v], .closed, none)
    | (v, some rest) =>
      match skipSpace rest with
      | [] => ([v], .cut .truncated .truncated, none)
      | ']' :: rest => ([v], .closed, some rest)
      | ',' :: rest =>
        match skipSpace rest with
        | [] => ([v], .dangling .truncated .truncated, none)
        | ']' :: _ => ([v], .dangling .malformed .malformed, none)
        | rest =>
          let (vs, ending, rest) := scanItems fuel rest
          (v :: vs, ending, rest)
      | _ => ([v], .cut .malformed .malformed, none)

/-- The entries of an object after the opening quote of a name; `unfinished` says how a
list ends whose name breaks off. -/
def scanEntries : Nat → (ReadError → ReadError → Ending) → List Char →
    List (Option String × Outline) × Ending × Rest
  | 0, _, _ => ([], .cut .malformed .malformed, none)
  | fuel + 1, unfinished, cs =>
    match scanString cs with
    | .broken ps e => ([], unfinished (brokenString ps e) e, none)
    | .complete ps rest =>
      let name := (assemble ps).map String.ofList
      match skipSpace rest with
      | [] => ([(name, .broken .truncated .truncated)], .closed, none)
      | ':' :: rest =>
        match scanValue fuel rest with
        | (v, none) => ([(name, v)], .closed, none)
        | (v, some rest) =>
          match skipSpace rest with
          | [] => ([(name, v)], .cut .truncated .truncated, none)
          | '\x7d' :: rest => ([(name, v)], .closed, some rest)
          | ',' :: rest =>
            match skipSpace rest with
            | [] => ([(name, v)], .dangling .truncated .truncated, none)
            | '"' :: rest =>
              let (es, ending, rest) := scanEntries fuel .dangling rest
              ((name, v) :: es, ending, rest)
            | _ => ([(name, v)], .dangling .malformed .malformed, none)
          | _ => ([(name, v)], .cut .malformed .malformed, none)
      | _ => ([(name, .broken .malformed .malformed)], .closed, none)

end

/-- The outline of a text and what follows its value. Each step uses up a character of the
text, so its length bounds the steps. -/
def outline (cs : List Char) : Outline × Rest := scanValue (2 * cs.length + 2) cs

mutual

/-- What is wrong for one who skips a value, if anything. -/
def Outline.skipFault : Outline → Option ReadError
  | .null | .bool _ | .number _ | .str _ => none
  | .arr items ending => itemsFault ending items
  | .obj entries ending => entriesFault ending entries
  | .unnamed _ => some .malformed
  | .broken _ e => some e

def itemsFault (ending : Ending) : List Outline → Option ReadError
  | [] => match ending with
    | .closed => none
    | .cut _ e | .dangling _ e => some e
  | v :: vs => match v.skipFault with
    | some e => some e
    | none => itemsFault ending vs

def entriesFault (ending : Ending) : List (Option String × Outline) → Option ReadError
  | [] => match ending with
    | .closed => none
    | .cut _ e | .dangling _ e => some e
  | (_, v) :: es => match v.skipFault with
    | some e => some e
    | none => entriesFault ending es

end

end Json
end MeshReadings
