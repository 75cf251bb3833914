import Bbsim.Foundation.Strconv
import Bbsim.Devices.DhcpDialogue
import Bbsim.Devices.VlanTags

/-! Transaction ids of the DHCP clients. `macAddressToTxId` writes the bytes of an address in
decimal one after the other, and keeps the low 32 bits of the number. -/

namespace Bbsim.Devices

open Foundation Common Responders Dhcp

theorem decimals_eq (mac : Mac) : decimals mac = String.join ((mac.map UInt8.toNat).map toString) := by
  rw [decimals, List.map_map]
  rfl

/-- The number whose low 32 bits are the id. -/
def macNumber (mac : Mac) : Nat := joinedAll (mac.map UInt8.toNat)

variable {mac : Mac}

theorem toNat?_decimals (nonempty : mac ≠ []) : (decimals mac).toNat? = some (macNumber mac) := by
  rw [decimals_eq, toNat?_join (by simpa using nonempty), macNumber]

theorem macAddressToTxId_eq (nonempty : mac ≠ []) :
    macAddressToTxId mac = UInt32.ofNat (macNumber mac) := by
  have read := toNat?_decimals nonempty
  rw [decimals] at read
  rw [macAddressToTxId, read, Option.getD_some]

theorem macAddressToTxId_eq_iff {mac other : Mac} (nonempty : mac ≠ []) (otherNonempty : other ≠ []) :
    macAddressToTxId mac = macAddressToTxId other ↔ macNumber mac ≡ macNumber other [MOD 2 ^ 32] := by
  rw [macAddressToTxId_eq nonempty, macAddressToTxId_eq otherNonempty, ← UInt32.toNat_inj,
    UInt32.toNat_ofNat', UInt32.toNat_ofNat']
  rfl

theorem digitCount_byte {number : Nat} (byte : number < 256) : digitCount number ≤ 3 :=
  (digitCount_le_iff (by decide)).mpr (by omega)

private theorem macNumber_lt (mac : Mac) : macNumber mac < 10 ^ (3 * mac.length) := by
  -- each byte puts up to three digits behind what was read before it
  suffices step : ∀ start digits, start < 10 ^ digits →
      (mac.map UInt8.toNat).foldl joined start < 10 ^ (digits + 3 * mac.length) by
    simpa [macNumber, joinedAll] using step 0 0 (by decide)
  induction mac with
  | nil => simp
  | cons byte rest ih =>
    intro start digits small
    have next : joined start byte.toNat < 10 ^ (digits + 3) :=
      (joined_lt small _).trans_le
        (Nat.pow_le_pow_right (by decide) (Nat.add_le_add_left (digitCount_byte byte.toNat_lt) _))
    rw [List.map_cons, List.foldl_cons, List.length_cons, show digits + 3 * (rest.length + 1) =
      digits + 3 + 3 * rest.length by omega]
    exact ih _ _ next

/-- The text of six bytes is a number for `Atoi`, so the process goes on. -/
theorem atoi_decimals (six : mac.length = 6) : atoi (decimals mac) = some (macNumber mac) := by
  have nonempty : mac ≠ [] := by
    rintro rfl
    cases six
  have text := isTxId_decimals six
  have small := macNumber_lt mac
  rw [six] at small
  exact atoi_of_digits text.digits (by simpa using text.nonempty) (toNat?_decimals nonempty) (by omega)

/-- The last four bytes of an address. -/
structure Parts where
  pon : Nat
  onu : Nat
  uni : Nat
  service : Nat
deriving DecidableEq

namespace Parts

/-- The number of the digits of the parts. -/
def tail (parts : Parts) : Nat :=
  joined (joined (joined parts.pon parts.onu) parts.uni) parts.service

def digits (parts : Parts) : Nat :=
  digitCount parts.pon + digitCount parts.onu + digitCount parts.uni + digitCount parts.service

/-- The digits of the first two bytes are in front. -/
def number (olt : Nat) (parts : Parts) : Nat := joined 46 olt * 10 ^ parts.digits + parts.tail

end Parts

def ServicePlace.parts (place : ServicePlace) : Parts :=
  ⟨place.onu.1 % 256, (place.onu.2 + 1) % 256, place.uni % 256, place.service % 256⟩

def oltByte (oltId : Int) : Nat := (UInt8.ofInt oltId).toNat

private theorem macNumber_mac (oltId : Int) (place : ServicePlace) :
    macNumber (place.mac oltId) = place.parts.number (oltByte oltId) := by
  have low : ∀ id : Nat, (UInt32.ofNat id).toUInt8.toNat = id % 256 := by
    intro id
    rw [UInt32.toNat_toUInt8, UInt32.toNat_ofNat']
    omega
  have bytes : (place.mac oltId).map UInt8.toNat = [46, oltByte oltId, place.parts.pon, place.parts.onu,
      place.parts.uni, place.parts.service] := by
    simp only [ServicePlace.mac, serviceMac, List.map_cons, List.map_nil, low, UInt8.toNat_ofNat']
    rfl
  have first : joined 0 46 = 46 := rfl
  rw [macNumber, bytes, joinedAll]
  simp only [List.foldl_cons, List.foldl_nil, first]
  have start : joined (joined 46 (oltByte oltId)) place.parts.pon =
      joined 46 (oltByte oltId) * 10 ^ digitCount place.parts.pon + place.parts.pon := rfl
  rw [start, joined_block, joined_block, joined_block]
  rfl

variable {oltId : Int}

theorem parts_eq_iff {place other : ServicePlace} :
    place.mac oltId = other.mac oltId ↔ place.parts = other.parts := by
  rw [ServicePlace.mac_inj, ServicePlace.parts, ServicePlace.parts, Parts.mk.injEq]

/-- The ids of two services. -/
theorem txId_eq_iff {place other : ServicePlace} :
    macAddressToTxId (place.mac oltId) = macAddressToTxId (other.mac oltId) ↔
      place.parts.number (oltByte oltId) ≡ other.parts.number (oltByte oltId) [MOD 2 ^ 32] := by
  have nonempty : ∀ place : ServicePlace, place.mac oltId ≠ [] := fun _ => List.cons_ne_nil _ _
  rw [macAddressToTxId_eq_iff (nonempty place) (nonempty other), macNumber_mac, macNumber_mac]

/-- Numbers of different lengths stay apart in 32 bits, whatever the id of the OLT is. -/
theorem lengths_apart : ∀ olt : Fin 256, ∀ long ∈ [5, 6, 7], ∀ short ∈ [4, 5, 6], short < long →
    10 ^ 7 ≤ joined 46 olt.val * (10 ^ long - 10 ^ short) % 2 ^ 32 ∧
      joined 46 olt.val * (10 ^ long - 10 ^ short) % 2 ^ 32 + 10 ^ 7 ≤ 2 ^ 32 := by
  decide +kernel

namespace Parts

variable {parts other : Parts}

/-- The parts have no more than seven digits. -/
def Short (parts : Parts) : Prop := parts.digits ≤ 7

private theorem four_le_digits (parts : Parts) : 4 ≤ parts.digits := by
  have pon := digitCount_pos parts.pon
  have onu := digitCount_pos parts.onu
  have uni := digitCount_pos parts.uni
  have service := digitCount_pos parts.service
  unfold digits
  omega

private theorem tail_lt (parts : Parts) : parts.tail < 10 ^ parts.digits :=
  joined_lt (joined_lt (joined_lt (lt_pow_digitCount parts.pon) _) _) _

theorem Short.tail_lt (short : parts.Short) : parts.tail < 10 ^ 7 :=
  parts.tail_lt.trans_le (Nat.pow_le_pow_right (by decide) short)

/-- More digits make another number. -/
theorem Short.not_modEq {olt : Nat} (small : olt < 256) (short : parts.Short) (otherShort : other.Short)
    (more : other.digits < parts.digits) : ¬ parts.number olt ≡ other.number olt [MOD 2 ^ 32] := by
  intro same
  have four := other.four_le_digits
  have seven : parts.digits ≤ 7 := short
  obtain ⟨above, below⟩ := lengths_apart ⟨olt, small⟩ parts.digits (by simp; omega) other.digits
    (by simp; omega) more
  have tail := short.tail_lt
  have otherTail := otherShort.tail_lt
  have split : joined 46 olt * 10 ^ parts.digits =
      joined 46 olt * 10 ^ other.digits + joined 46 olt * (10 ^ parts.digits - 10 ^ other.digits) := by
    rw [← Nat.mul_add, Nat.add_sub_cancel' (Nat.pow_le_pow_right (by decide) more.le)]
  rw [number, number, split, Nat.add_assoc] at same
  have rest := same.add_left_cancel' _
  dsimp only at above below
  rw [Nat.ModEq, Nat.add_mod] at rest
  omega

/-- Short parts whose numbers agree in 32 bits are written with the same digits. -/
theorem Short.same_digits {olt : Nat} (small : olt < 256) (short : parts.Short) (otherShort : other.Short)
    (same : parts.number olt ≡ other.number olt [MOD 2 ^ 32]) :
    parts.digits = other.digits ∧ parts.tail = other.tail := by
  have digits : parts.digits = other.digits := by
    rcases Nat.lt_trichotomy parts.digits other.digits with less | count | more
    · exact absurd same.symm (otherShort.not_modEq small short less)
    · exact count
    · exact absurd same (short.not_modEq small otherShort more)
  refine ⟨digits, ?_⟩
  rw [number, number, digits] at same
  have tail := short.tail_lt
  have otherTail := otherShort.tail_lt
  exact Nat.ModEq.eq_of_lt_of_lt (same.add_left_cancel' _) (by omega) (by omega)

theorem eq_ten_of_more_digits {pon otherPon : Nat} (few : otherPon ≤ 10)
    (more : digitCount pon < digitCount otherPon) : otherPon = 10 ∧ digitCount otherPon = 2 := by
  have positive := digitCount_pos pon
  have ten : 10 ^ 1 ≤ otherPon := pow_le_of_lt_digitCount (by decide) (by omega)
  obtain rfl : otherPon = 10 := by omega
  exact ⟨rfl, by decide⟩

variable {pon onu otherPon otherOnu : Nat}

/-- A PON id of up to 10 has no digit that comes of an ONU id. -/
theorem not_shifts_of_few_pons (few : otherPon ≤ 10)
    (digits : digitCount pon + digitCount onu = digitCount otherPon + digitCount otherOnu) :
    ¬ Shifts pon onu otherPon otherOnu := by
  intro shifts
  have fewer := shifts.fewer
  have positive := digitCount_pos pon
  obtain ⟨ten, two⟩ := @eq_ten_of_more_digits pon otherPon few (by omega)
  obtain ⟨digit, nonzero, small, front⟩ := shifts.one_digit (by omega)
  omega

/-- Of an ONU id of up to 10 only a zero would be left. -/
theorem not_shifts_of_few_onus (few : onu ≤ 10) (nonzero : 1 ≤ otherOnu) :
    ¬ Shifts pon onu otherPon otherOnu := by
  intro shifts
  have fewer := shifts.fewer
  have positive := digitCount_pos otherOnu
  have ten : 10 ^ 1 ≤ onu := pow_le_of_lt_digitCount (by decide) (by omega)
  have two : digitCount onu ≤ 2 := (digitCount_le_iff (by decide)).mpr (by omega)
  have back := shifts.back
  obtain rfl : onu = 10 := by omega
  rw [show digitCount otherOnu = 1 by omega] at back
  omega

theorem eq_of_ids
    (ids : (pon ≤ 10 ∧ otherPon ≤ 10) ∨ ((1 ≤ onu ∧ onu ≤ 10) ∧ (1 ≤ otherOnu ∧ otherOnu ≤ 10)))
    (digits : digitCount pon + digitCount onu = digitCount otherPon + digitCount otherOnu)
    (same : joined pon onu = joined otherPon otherOnu) : pon = otherPon ∧ onu = otherOnu := by
  rcases joined_eq_iff.mp same with equal | shifts | shifts
  · exact equal
  · rcases ids with pons | onus
    · exact absurd shifts (not_shifts_of_few_pons pons.2 (by omega))
    · exact absurd shifts (not_shifts_of_few_onus onus.1.2 onus.2.1)
  · rcases ids with pons | onus
    · exact absurd shifts (not_shifts_of_few_pons pons.1 (by omega))
    · exact absurd shifts (not_shifts_of_few_onus onus.2.2 onus.1.1)

def FewPons (parts : Parts) : Prop := parts.pon ≤ 10

def FewOnus (parts : Parts) : Prop := 1 ≤ parts.onu ∧ parts.onu ≤ 10

/-- The UNI and the service are written with one digit each. -/
def FewServices (parts : Parts) : Prop := parts.uni < 10 ∧ parts.service < 10

private theorem eq_of_few_services (few : parts.FewServices) (otherFew : other.FewServices)
    (ids : (parts.FewPons ∧ other.FewPons) ∨ (parts.FewOnus ∧ other.FewOnus))
    (digits : parts.digits = other.digits) (tail : parts.tail = other.tail) : parts = other := by
  obtain ⟨pon, onu, uni, service⟩ := parts
  obtain ⟨otherPon, otherOnu, otherUni, otherService⟩ := other
  obtain ⟨uniDigit, serviceDigit⟩ := few
  obtain ⟨otherUniDigit, otherServiceDigit⟩ := otherFew
  dsimp only [FewPons, FewOnus] at *
  rw [Parts.tail, Parts.tail, joined_digit _ uniDigit, joined_digit _ serviceDigit,
    joined_digit _ otherUniDigit, joined_digit _ otherServiceDigit] at tail
  rw [Parts.digits, Parts.digits, digitCount_of_lt_ten uniDigit, digitCount_of_lt_ten serviceDigit,
    digitCount_of_lt_ten otherUniDigit, digitCount_of_lt_ten otherServiceDigit] at digits
  dsimp only at *
  obtain rfl : service = otherService := by omega
  obtain rfl : uni = otherUni := by omega
  obtain ⟨rfl, rfl⟩ := eq_of_ids ids (by omega) (by omega)
  rfl

/-- The ONU and the UNI are written with one digit each, and the ONU id is not zero. -/
def OneDigitOnus (parts : Parts) : Prop := 1 ≤ parts.onu ∧ parts.onu < 10 ∧ parts.uni < 4

/-- With few PONs and few ONUs no digit of the service can be shifted. -/
theorem not_shifts_of_oneDigitOnus {pon onu uni service otherPon otherOnu otherUni otherService : Nat}
    (nonzero : 1 ≤ onu) (few : onu < 10 ∧ uni < 4) (otherFew : otherOnu < 10 ∧ otherUni < 4)
    (pons : otherPon ≤ 10)
    (digits : digitCount pon + digitCount service = digitCount otherPon + digitCount otherService) :
    ¬ Shifts ((pon * 10 + onu) * 10 + uni) service ((otherPon * 10 + otherOnu) * 10 + otherUni)
      otherService := by
  intro shifts
  have fewer := shifts.fewer
  have positive := digitCount_pos pon
  obtain ⟨ten, two⟩ := @eq_ten_of_more_digits pon otherPon pons (by omega)
  obtain ⟨digit, -, small, front⟩ := shifts.one_digit (by omega)
  -- four digits of the one side would have to read 10, ONU, UNI
  omega

private theorem eq_of_oneDigitOnus (few : parts.OneDigitOnus) (otherFew : other.OneDigitOnus)
    (pons : parts.FewPons) (otherPons : other.FewPons)
    (digits : parts.digits = other.digits) (tail : parts.tail = other.tail) : parts = other := by
  obtain ⟨pon, onu, uni, service⟩ := parts
  obtain ⟨otherPon, otherOnu, otherUni, otherService⟩ := other
  obtain ⟨nonzero, onuDigit, uniDigit⟩ := few
  obtain ⟨otherNonzero, otherOnuDigit, otherUniDigit⟩ := otherFew
  dsimp only [FewPons] at *
  rw [Parts.tail, Parts.tail] at tail
  rw [Parts.digits, Parts.digits] at digits
  dsimp only at *
  rw [joined_digit _ onuDigit, joined_digit _ (show uni < 10 by omega), joined_digit _ otherOnuDigit,
    joined_digit _ (show otherUni < 10 by omega)] at tail
  rw [digitCount_of_lt_ten onuDigit, digitCount_of_lt_ten (show uni < 10 by omega),
    digitCount_of_lt_ten otherOnuDigit, digitCount_of_lt_ten (show otherUni < 10 by omega)] at digits
  rcases joined_eq_iff.mp tail with ⟨front, rfl⟩ | shifts | shifts
  · obtain rfl : uni = otherUni := by omega
    obtain rfl : onu = otherOnu := by omega
    obtain rfl : pon = otherPon := by omega
    rfl
  · exact absurd shifts (not_shifts_of_oneDigitOnus nonzero ⟨onuDigit, uniDigit⟩
      ⟨otherOnuDigit, otherUniDigit⟩ otherPons (by omega))
  · exact absurd shifts (not_shifts_of_oneDigitOnus otherNonzero ⟨otherOnuDigit, otherUniDigit⟩
      ⟨onuDigit, uniDigit⟩ pons (by omega))

/-- Behind a UNI id of zero no digit of the service can be shifted, unless the longest parts have more than
seven digits. -/
theorem not_shifts_of_zero_uni {pon onu service otherPon otherOnu otherService : Nat} (byte : service < 256)
    (digits : digitCount pon + digitCount onu + digitCount service =
      digitCount otherPon + digitCount otherOnu + digitCount otherService)
    (short : digitCount otherPon + digitCount otherOnu + digitCount service ≤ 6) :
    ¬ Shifts (joined pon onu * 10) service (joined otherPon otherOnu * 10) otherService := by
  intro shifts
  have fewer := shifts.fewer
  have positive := digitCount_pos pon
  have onuPositive := digitCount_pos onu
  have servicePositive := digitCount_pos otherService
  have three := digitCount_byte byte
  -- a digit that is not zero would have to be the UNI
  obtain ⟨digit, nonzero, small, front⟩ := shifts.one_digit (by omega)
  omega

private theorem eq_of_zero_uni (zero : parts.uni = 0) (otherZero : other.uni = 0)
    (byte : parts.service < 256) (otherByte : other.service < 256)
    (short : ({ other with service := parts.service } : Parts).Short)
    (otherShort : ({ parts with service := other.service } : Parts).Short)
    (ids : (parts.FewPons ∧ other.FewPons) ∨ (parts.FewOnus ∧ other.FewOnus))
    (digits : parts.digits = other.digits) (tail : parts.tail = other.tail) : parts = other := by
  obtain ⟨pon, onu, uni, service⟩ := parts
  obtain ⟨otherPon, otherOnu, otherUni, otherService⟩ := other
  dsimp only [FewPons, FewOnus, Short, Parts.digits, Parts.tail] at *
  subst zero otherZero
  rw [joined_digit _ (by decide : 0 < 10), joined_digit _ (by decide : 0 < 10), Nat.add_zero,
    Nat.add_zero] at tail
  rw [digitCount_of_lt_ten (by decide : 0 < 10)] at digits short otherShort
  rcases joined_eq_iff.mp tail with ⟨front, rfl⟩ | shifts | shifts
  · obtain ⟨rfl, rfl⟩ := eq_of_ids ids (by omega) (Nat.eq_of_mul_eq_mul_right (by decide) front)
    rfl
  · exact absurd shifts (not_shifts_of_zero_uni byte (by omega) (by omega))
  · exact absurd shifts (not_shifts_of_zero_uni otherByte (by omega) (by omega))

end Parts

variable {loaded : Loaded} {cli : CliParams} {files : Files} {olt : Olt} {place other : ServicePlace}

/-- Where the configuration puts services. -/
structure ServicePlace.Within (loaded : Loaded) (place : ServicePlace) : Prop
    extends place.Inside loaded where
  service : place.service < loaded.services.length

private theorem within_of_serviceAt {service : Service} (created : createOlt loaded = .ok olt)
    (present : olt.serviceAt place = some service) : place.Within loaded :=
  ⟨serviceAt_inside created present, (serviceAt_created created present).position⟩

theorem ServicePlace.Within.exists_serviceAt (within : place.Within loaded)
    (created : createOlt loaded = .ok olt) :
    ∃ service, olt.serviceAt place = some service ∧ service.CreatedAt loaded place := by
  obtain ⟨service, present⟩ :=
    Devices.exists_serviceAt created place within.pon within.index within.uni within.service
  exact ⟨service, present, serviceAt_created created present⟩

/-- What the source wants of the ids: services with different addresses have different ids, and an id can
be made of every address. -/
structure Olt.UniqueTxIds (olt : Olt) : Prop where
  distinct : ∀ place other service twin, olt.serviceAt place = some service →
    olt.serviceAt other = some twin → service.hwAddress ≠ twin.hwAddress →
    macAddressToTxId service.hwAddress ≠ macAddressToTxId twin.hwAddress
  read : ∀ mac : Mac, mac.length = 6 →
    ∃ number : Nat, atoi (decimals mac) = some number ∧ macAddressToTxId mac = UInt32.ofNat number

/-- Places that are written differently have numbers that are not a multiple of `2^32` apart. -/
def NumbersApart (loaded : Loaded) : Prop :=
  ∀ place other : ServicePlace, place.Within loaded → other.Within loaded →
    place.parts.number (oltByte loaded.config.olt.id) ≡ other.parts.number (oltByte loaded.config.olt.id)
      [MOD 2 ^ 32] → place.parts = other.parts

theorem uniqueTxIds_iff (created : createOlt loaded = .ok olt) :
    olt.UniqueTxIds ↔ NumbersApart loaded := by
  constructor
  · intro unique place other within otherWithin same
    obtain ⟨service, present, made⟩ := within.exists_serviceAt created
    obtain ⟨twin, twinPresent, twinMade⟩ := otherWithin.exists_serviceAt created
    by_contra differ
    refine unique.distinct place other service twin present twinPresent ?_ ?_
    · rw [made.hwAddress, twinMade.hwAddress]
      exact fun equal => differ (parts_eq_iff.mp equal)
    · rw [made.hwAddress, twinMade.hwAddress]
      exact txId_eq_iff.mpr same
  · intro apart
    refine ⟨fun place other service twin present twinPresent differ same => ?_, fun mac six => ?_⟩
    · have within := within_of_serviceAt created present
      have twinWithin := within_of_serviceAt created twinPresent
      rw [(serviceAt_created created present).hwAddress,
        (serviceAt_created created twinPresent).hwAddress] at differ same
      exact differ (parts_eq_iff.mpr (apart place other within twinWithin (txId_eq_iff.mp same)))
    · have nonempty : mac ≠ [] := List.ne_nil_of_length_pos (by omega)
      exact ⟨macNumber mac, atoi_decimals six, macAddressToTxId_eq nonempty⟩

/-- With few services per UNI the ids of the PONs and ONUs decide. Two UNIs and a service with two digits
need few of both. -/
structure TxIdBounds (loaded : Loaded) : Prop where
  ids : loaded.config.olt.ponPorts ≤ 11 ∨ loaded.config.olt.onusPonPort ≤ 10
  unis : 10 < loaded.services.length → 1 < loaded.config.olt.uniPorts →
    loaded.config.olt.ponPorts ≤ 11 ∧ loaded.config.olt.onusPonPort ≤ 9

/-- With one UNI and a service with two digits, seven digits are enough for every place. -/
structure TxIdsApart (loaded : Loaded) : Prop extends TxIdBounds loaded where
  digits : 10 < loaded.services.length → loaded.config.olt.uniPorts ≤ 1 →
    ∀ place : ServicePlace, place.Within loaded → place.parts.Short

section

variable (within : place.Within loaded)
include within

theorem ServicePlace.Within.fewPons (few : loaded.config.olt.ponPorts ≤ 11) : place.parts.FewPons := by
  have bound := within.pon
  have few : loaded.config.olt.ponPorts.toNat ≤ 11 := UInt32.le_iff_toNat_le.mp few
  exact (Nat.mod_le _ _).trans (by omega)

theorem ServicePlace.Within.fewOnus (few : loaded.config.olt.onusPonPort ≤ 10) :
    place.parts.FewOnus := by
  have bound := within.index
  have few : loaded.config.olt.onusPonPort.toNat ≤ 10 := UInt32.le_iff_toNat_le.mp few
  simp only [Parts.FewOnus, parts]
  omega

theorem ServicePlace.Within.ids (otherWithin : other.Within loaded)
    (ids : loaded.config.olt.ponPorts ≤ 11 ∨ loaded.config.olt.onusPonPort ≤ 10) :
    (place.parts.FewPons ∧ other.parts.FewPons) ∨ (place.parts.FewOnus ∧ other.parts.FewOnus) :=
  ids.imp (fun few => ⟨within.fewPons few, otherWithin.fewPons few⟩)
    fun few => ⟨within.fewOnus few, otherWithin.fewOnus few⟩

theorem ServicePlace.Within.few_unis (created : createOlt loaded = .ok olt) : place.uni < 4 := by
  obtain ⟨_, -, made⟩ := within.exists_serviceAt created
  exact made.uni

theorem ServicePlace.Within.fewServices (created : createOlt loaded = .ok olt)
    (few : loaded.services.length ≤ 10) :
    place.parts.FewServices := by
  have bound := within.service
  have unis := within.few_unis created
  simp only [Parts.FewServices, parts]
  omega

end

theorem Parts.short_of_few_services {parts : Parts} (few : parts.FewServices)
    (bytes : parts.pon < 256 ∧ parts.onu < 256) (ids : parts.FewPons ∨ parts.FewOnus) : parts.Short := by
  have pon := digitCount_byte bytes.1
  have onu := digitCount_byte bytes.2
  have two : digitCount parts.pon ≤ 2 ∨ digitCount parts.onu ≤ 2 := by
    refine ids.imp (fun few => ?_) fun few => ?_
    · exact (digitCount_le_iff (by decide)).mpr (few.trans_lt (by decide))
    · exact (digitCount_le_iff (by decide)).mpr (few.2.trans_lt (by decide))
  rw [Short, digits, digitCount_of_lt_ten few.1, digitCount_of_lt_ten few.2]
  omega

theorem Parts.short_of_oneDigitOnus {parts : Parts} (few : parts.OneDigitOnus) (pons : parts.FewPons)
    (byte : parts.service < 256) : parts.Short := by
  have pon : digitCount parts.pon ≤ 2 := (digitCount_le_iff (by decide)).mpr (pons.trans_lt (by decide))
  have service := digitCount_byte byte
  rw [Short, digits, digitCount_of_lt_ten few.2.1, digitCount_of_lt_ten (few.2.2.trans (by decide))]
  omega

theorem ServicePlace.parts_bytes (place : ServicePlace) :
    (place.parts.pon < 256 ∧ place.parts.onu < 256) ∧ place.parts.service < 256 :=
  ⟨⟨Nat.mod_lt _ (by decide), Nat.mod_lt _ (by decide)⟩, Nat.mod_lt _ (by decide)⟩

theorem oltByte_lt (oltId : Int) : oltByte oltId < 256 := UInt8.toNat_lt _

private theorem numbersApart_of_few_services (created : createOlt loaded = .ok olt)
    (few : loaded.services.length ≤ 10)
    (ids : loaded.config.olt.ponPorts ≤ 11 ∨ loaded.config.olt.onusPonPort ≤ 10) : NumbersApart loaded := by
  intro place other within otherWithin same
  have ids := within.ids otherWithin ids
  have services := within.fewServices created few
  have otherServices := otherWithin.fewServices created few
  obtain ⟨digits, tail⟩ := Parts.Short.same_digits (oltByte_lt _)
    (Parts.short_of_few_services services place.parts_bytes.1 (ids.imp And.left And.left))
    (Parts.short_of_few_services otherServices other.parts_bytes.1 (ids.imp And.right And.right)) same
  exact Parts.eq_of_few_services services otherServices ids digits tail

theorem ServicePlace.Within.oneDigitOnus (within : place.Within loaded)
    (created : createOlt loaded = .ok olt) (few : loaded.config.olt.onusPonPort ≤ 9) :
    place.parts.OneDigitOnus := by
  have bound := within.index
  have unis := within.few_unis created
  have few : loaded.config.olt.onusPonPort.toNat ≤ 9 := UInt32.le_iff_toNat_le.mp few
  simp only [Parts.OneDigitOnus, ServicePlace.parts]
  omega

private theorem numbersApart_of_few_onus (created : createOlt loaded = .ok olt)
    (pons : loaded.config.olt.ponPorts ≤ 11) (onus : loaded.config.olt.onusPonPort ≤ 9) :
    NumbersApart loaded := by
  intro place other within otherWithin same
  have oneDigit := within.oneDigitOnus created onus
  have otherOneDigit := otherWithin.oneDigitOnus created onus
  have pon := within.fewPons pons
  have otherPon := otherWithin.fewPons pons
  obtain ⟨digits, tail⟩ := Parts.Short.same_digits (oltByte_lt _)
    (Parts.short_of_oneDigitOnus oneDigit pon place.parts_bytes.2)
    (Parts.short_of_oneDigitOnus otherOneDigit otherPon other.parts_bytes.2) same
  exact Parts.eq_of_oneDigitOnus oneDigit otherOneDigit pon otherPon digits tail

theorem ServicePlace.Within.zero_uni (within : place.Within loaded)
    (one : loaded.config.olt.uniPorts ≤ 1) : place.parts.uni = 0 := by
  have bound := within.uni
  have one : loaded.config.olt.uniPorts.toNat ≤ 1 := UInt32.le_iff_toNat_le.mp one
  simp only [ServicePlace.parts]
  omega

private theorem numbersApart_of_one_uni (one : loaded.config.olt.uniPorts ≤ 1)
    (ids : loaded.config.olt.ponPorts ≤ 11 ∨ loaded.config.olt.onusPonPort ≤ 10)
    (short : ∀ place : ServicePlace, place.Within loaded → place.parts.Short) : NumbersApart loaded := by
  intro place other within otherWithin same
  obtain ⟨digits, tail⟩ := (short place within).same_digits (oltByte_lt _) (short other otherWithin) same
  -- the services may be exchanged without leaving the OLT
  have mixed := short { other with service := place.service }
    ⟨⟨otherWithin.pon, otherWithin.index, otherWithin.uni⟩, within.service⟩
  have otherMixed := short { place with service := other.service }
    ⟨⟨within.pon, within.index, within.uni⟩, otherWithin.service⟩
  exact Parts.eq_of_zero_uni (within.zero_uni one) (otherWithin.zero_uni one) place.parts_bytes.2
    other.parts_bytes.2 mixed otherMixed (within.ids otherWithin ids) digits tail

theorem TxIdsApart.numbersApart (apart : TxIdsApart loaded) (created : createOlt loaded = .ok olt) :
    NumbersApart loaded := by
  rcases Nat.lt_or_ge 10 loaded.services.length with many | few
  · rcases UInt32.lt_or_le 1 loaded.config.olt.uniPorts with unis | one
    · obtain ⟨pons, onus⟩ := apart.unis many unis
      exact numbersApart_of_few_onus created pons onus
    · exact numbersApart_of_one_uni one apart.ids (apart.digits many one)
  · exact numbersApart_of_few_services created few apart.ids

/-- Places that are written with the same digits. -/
theorem NumbersApart.parts_eq (apart : NumbersApart loaded) (within : place.Within loaded)
    (otherWithin : other.Within loaded) (digits : place.parts.digits = other.parts.digits)
    (tail : place.parts.tail = other.parts.tail) : place.parts = other.parts := by
  refine apart place other within otherWithin ?_
  rw [Parts.number, Parts.number, digits, tail]

theorem NumbersApart.bounds (apart : NumbersApart loaded) (populated : loaded.config.olt.Populated)
    (offered : loaded.services ≠ []) : TxIdBounds loaded := by
  obtain ⟨somePon, someOnu, someUni⟩ := populated.positive
  have someService := List.length_pos_of_ne_nil offered
  refine ⟨?_, fun many unis => ⟨?_, ?_⟩⟩
  · -- PON 1 with ONU 11 and PON 11 with ONU 1
    by_contra more
    obtain ⟨pons, onus⟩ := not_or.mp more
    have pons : 11 < _ := UInt32.lt_iff_toNat_lt.mp (UInt32.not_le.mp pons)
    have onus : 10 < _ := UInt32.lt_iff_toNat_lt.mp (UInt32.not_le.mp onus)
    have equal := @NumbersApart.parts_eq _ ⟨(1, 10), 0, 0⟩ ⟨(11, 0), 0, 0⟩ apart
      ⟨⟨Nat.lt_of_lt_of_le (by decide) pons, onus, someUni⟩, someService⟩
      ⟨⟨pons, someOnu, someUni⟩, someService⟩
      (by decide) (by decide)
    cases equal
  · -- the first ONUs of PON 11 and PON 1, with services 0 and 10
    by_contra more
    have pons : 11 < _ := UInt32.lt_iff_toNat_lt.mp (UInt32.not_le.mp more)
    have unis : 1 < _ := UInt32.lt_iff_toNat_lt.mp unis
    have equal := @NumbersApart.parts_eq _ ⟨(11, 0), 1, 0⟩ ⟨(1, 0), 1, 10⟩ apart
      ⟨⟨pons, someOnu, unis⟩, someService⟩ ⟨⟨Nat.lt_of_lt_of_le (by decide) pons, someOnu, unis⟩, many⟩
      (by decide) (by decide)
    cases equal
  · -- ONU 10 and ONU 1, with services 0 and 10
    by_contra more
    have onus : 9 < _ := UInt32.lt_iff_toNat_lt.mp (UInt32.not_le.mp more)
    have unis : 1 < _ := UInt32.lt_iff_toNat_lt.mp unis
    have equal := @NumbersApart.parts_eq _ ⟨(0, 9), 1, 0⟩ ⟨(0, 0), 0, 10⟩ apart
      ⟨⟨somePon, onus, unis⟩, someService⟩ ⟨⟨somePon, someOnu, someUni⟩, many⟩ (by decide) (by decide)
    cases equal

/-- The ids of an OLT that is built from an accepted configuration are unique where its places are written
with few digits, and the bounds that do not count the digits are necessary. -/
theorem dhcp_transaction_ids_unique (accepted : loadConfig cli files = .ok loaded)
    (created : createOlt loaded = .ok olt) :
    (loaded.services = [] ∨ TxIdsApart loaded → olt.UniqueTxIds) ∧
      (olt.UniqueTxIds → loaded.services = [] ∨ TxIdBounds loaded) := by
  obtain ⟨populated, -⟩ := loadConfig_accepted accepted
  rw [uniqueTxIds_iff created]
  constructor
  · rintro (none | apart)
    · intro place other within
      have some := within.service
      rw [none] at some
      cases some
    · exact apart.numbersApart created
  · intro apart
    by_cases offered : loaded.services = []
    · exact .inl offered
    · exact .inr (apart.bounds populated offered)

theorem two_onus_unique_txIds :
    ∃ olt, loadConfig { onu := some 2 } hsiaFiles = .ok (loadedHsia 2) ∧
      createOlt (loadedHsia 2) = .ok olt ∧ olt.UniqueTxIds := by
  obtain ⟨olt, created⟩ := @loadedHsia_created 2 (by decide) (by decide +kernel)
  have accepted : loadConfig { onu := some 2 } hsiaFiles = .ok (loadedHsia 2) :=
    eq_ok_of_toOption (by decide +kernel)
  refine ⟨olt, accepted, created, (dhcp_transaction_ids_unique accepted created).1 (.inr ?_)⟩
  exact ⟨⟨by decide, fun many => absurd many (by decide)⟩, fun many => absurd many (by decide)⟩

/-- The defaults with 12 PONs of 11 ONUs each. -/
def loadedGrid : Loaded where
  config := { getDefaultOps with olt := { getDefaultOps.olt with ponPorts := 12, onusPonPort := 11 } }
  services := [hsia]
  pons := ⟨12, [⟨⟨0, 11⟩, "XGS-PON", ⟨1, 11⟩, ⟨1024, 1068⟩, ⟨1024, 1376⟩⟩]⟩

private theorem loadedGrid_created : ∃ olt, createOlt loadedGrid = .ok olt := by
  refine exists_createOlt mib_of_defaults (fun pon member => ?_) (by decide +kernel)
  have few : pon < 12 := List.mem_range.mp member
  have found : loadedGrid.pons.getPonConfigById pon = loadedGrid.pons.ranges.head? := by
    revert pon
    decide +kernel
  exact ⟨_, found, by decide +kernel, by decide⟩

/-- The decimals of 2e:00:01:0b:00:00 and 2e:00:0b:01:00:00 are the same text. -/
theorem shifted_ids_share_txId :
    ∃ olt service twin,
      loadConfig { pon := some 12, onu := some 11 } hsiaFiles = .ok loadedGrid ∧
      createOlt loadedGrid = .ok olt ∧ olt.serviceAt ⟨(1, 10), 0, 0⟩ = some service ∧
      olt.serviceAt ⟨(11, 0), 0, 0⟩ = some twin ∧ service.hwAddress = [46, 0, 1, 11, 0, 0] ∧
      twin.hwAddress = [46, 0, 11, 1, 0, 0] ∧
      macAddressToTxId service.hwAddress = macAddressToTxId twin.hwAddress := by
  obtain ⟨olt, created⟩ := loadedGrid_created
  obtain ⟨service, present, made⟩ := @ServicePlace.Within.exists_serviceAt loadedGrid olt
    ⟨(1, 10), 0, 0⟩ ⟨⟨by decide, by decide, by decide⟩, by decide⟩ created
  obtain ⟨twin, twinPresent, twinMade⟩ := @ServicePlace.Within.exists_serviceAt loadedGrid olt
    ⟨(11, 0), 0, 0⟩ ⟨⟨by decide, by decide, by decide⟩, by decide⟩ created
  have mac := made.hwAddress
  have twinMac := twinMade.hwAddress
  refine ⟨olt, service, twin, eq_ok_of_toOption (by decide +kernel), created, present, twinPresent,
    mac.trans (by decide), twinMac.trans (by decide), ?_⟩
  rw [mac, twinMac, txId_eq_iff]
  rfl

end Bbsim.Devices
