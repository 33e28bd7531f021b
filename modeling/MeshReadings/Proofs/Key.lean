import Mathlib.Algebra.Group.Nat.Defs
import Mathlib.Data.List.DropRight
import MeshReadings.Key
import MeshReadings.Proofs.Json.Texts

/-!
Whose text it is. An address is read from its end: behind its last slash stand the digits
of the endpoint, so that slashes in the device's name do no harm. A display goes on behind
the address with as many characters for one key as for another. Keys of the same display
are therefore the same key, and keys of the same address mean the same endpoint.
-/

namespace MeshReadings

namespace Text

theorem digits_injective {m n : Nat} (same : digits m = digits n) : m = n := by
  rw [← number_digits m, same, number_digits]

theorem slash_not_mem_digits (n : Nat) : '/' ∉ digits n := by
  intro member
  have digit : Json.isDigit '/' = true := Json.isDigit_digits n '/' member
  exact absurd digit (by decide)

@[simp]
theorem length_hex (upper : Bool) (width n : Nat) :
    (hex upper width n).length = width := by
  induction width generalizing n with
  | zero => rfl
  | succ width ih => rw [hex, List.length_append, ih, List.length_singleton]

theorem hexDigit_injective {upper : Bool} {d e : Nat} (small : d < 16) (small' : e < 16)
    (same : hexDigit upper d = hexDigit upper e) : d = e := by
  have all : ∀ upper, ∀ d < 16, ∀ e < 16, hexDigit upper d = hexDigit upper e →
      d = e := by
    decide
  exact all upper d small e small' same

/-- Numbers of which no digit is left out are told apart by their digits. -/
theorem hex_injective {upper : Bool} {width m n : Nat} (fits : m < 16 ^ width)
    (fits' : n < 16 ^ width) (same : hex upper width m = hex upper width n) : m = n := by
  induction width generalizing m n with
  | zero => omega
  | succ width ih =>
      obtain ⟨front, last⟩ := List.append_inj' same rfl
      have quotients : m / 16 = n / 16 := ih (by omega) (by omega) front
      have remainders : m % 16 = n % 16 :=
        hexDigit_injective (Nat.mod_lt m (by decide)) (Nat.mod_lt n (by decide))
          (List.singleton_inj.mp last)
      omega

theorem hex_word_injective {m n : UInt16}
    (same : hex true 4 m.toNat = hex true 4 n.toNat) : m = n :=
  UInt16.toNat_inj.mp (hex_injective m.toNat_lt n.toNat_lt same)

section
variable {mark : Char} {a b cs ds : List Char}

/-- What stands behind the last mark. -/
theorem rtakeWhile_of_last (last : mark ∉ cs) (a : List Char) :
    (a ++ mark :: cs).rtakeWhile (· ≠ mark) = cs := by
  induction cs using List.reverseRecOn with
  | nil => exact List.rtakeWhile_concat_neg _ a mark (by simp)
  | append_singleton cs c ih =>
      obtain ⟨front, other⟩ := not_or.mp (List.mem_append.not.mp last)
      have passed : decide (c ≠ mark) = true :=
        decide_eq_true (Ne.symm (List.mem_singleton.not.mp other))
      rw [← List.cons_append, ← List.append_assoc,
        List.rtakeWhile_concat_pos _ _ c passed, ih front]

/-- Text falls apart at its last mark in one way only, whether or not the mark stands
further to the front as well. -/
theorem append_cons_inj_of_last (last : mark ∉ cs) (last' : mark ∉ ds) :
    a ++ mark :: cs = b ++ mark :: ds ↔ a = b ∧ cs = ds := by
  constructor
  · intro same
    have behind : cs = ds := by
      rw [← rtakeWhile_of_last last a, same, rtakeWhile_of_last last' b]
    cases behind
    exact ⟨List.append_cancel_right same, rfl⟩
  · rintro ⟨rfl, rfl⟩
    rfl

end
end Text

namespace Key
variable {k l : Key}

theorem endpointAddress_eq_iff :
    k.endpointAddress = l.endpointAddress ↔
      k.device = l.device ∧ k.endpoint = l.endpoint := by
  have split (k : Key) :
      k.endpointAddress.toList =
        k.device.toList ++ '/' :: Text.digits k.endpoint.toNat := by
    simp [endpointAddress]
  rw [← String.toList_inj, split, split, Text.append_cons_inj_of_last
    (Text.slash_not_mem_digits _) (Text.slash_not_mem_digits _), String.toList_inj]
  refine and_congr_right fun _ => ⟨fun digits => ?_, fun endpoint => by rw [endpoint]⟩
  exact UInt8.toNat_inj.mp (Text.digits_injective digits)

theorem display_eq_iff :
    k.display = l.display ↔
      k.endpointAddress = l.endpointAddress ∧ k.cluster = l.cluster ∧
      k.attributeId = l.attributeId := by
  constructor
  · intro same
    have texts := congrArg String.toList same
    simp only [display, String.toList_append, String.toList_ofList] at texts
    -- The parts behind the address have one length for all keys, so they come off from
    -- the end.
    obtain ⟨texts, id⟩ := List.append_inj' texts (by simp)
    obtain ⟨texts, cluster⟩ := List.append_inj' (List.append_cancel_right texts) (by simp)
    have address := String.toList_inj.mp (List.append_cancel_right texts)
    exact ⟨address, Cluster.id_injective (Text.hex_word_injective cluster),
      Text.hex_word_injective id⟩
  · rintro ⟨address, cluster, id⟩
    rw [display, display, address, cluster, id]

/-- Different attributes are shown by different texts and different endpoints have
different addresses, whatever characters the names of the devices hold. -/
theorem texts_tell_keys_apart (k l : Key) :
    (k.display = l.display ↔ k = l) ∧
      (k.endpointAddress = l.endpointAddress ↔
        k.device = l.device ∧ k.endpoint = l.endpoint) := by
  refine ⟨⟨fun same => ?_, congrArg display⟩, endpointAddress_eq_iff⟩
  obtain ⟨address, cluster, id⟩ := display_eq_iff.mp same
  obtain ⟨device, endpoint⟩ := endpointAddress_eq_iff.mp address
  cases k
  cases l
  rw [mk.injEq]
  exact ⟨device, endpoint, cluster, id⟩

/-- A device may be named like the text of an attribute. -/
example :
    let k : Key := ⟨"hall/1", 2, .relativeHumidityMeasurement, 0⟩
    let l : Key := ⟨k.display, 21, .electricalMeasurement, 0x0505⟩
    k.display = "hall/1/2 0x0405/0x0000" ∧
    l.display = "hall/1/2 0x0405/0x0000/21 0x0B04/0x0505" := by
  decide +kernel

end Key
end MeshReadings
