import Bbsim.Devices.CreatedOlt
import Bbsim.Devices.FlowAgreement
import Bbsim.Responders.DhcpServer

/-! Serial numbers, MAC addresses and IP addresses. They are made of the positions, one byte each.
No check of the configuration keeps the positions below 256, and beyond they repeat. -/

namespace Bbsim.Devices

open Foundation Common Responders.Dhcp

def hexDigits (byte : UInt8) : List Char :=
  [Nat.digitChar (byte.toNat / 16), Nat.digitChar (byte.toNat % 16)]

def onuSnToString (vendorId : String) (vendorSpecific : List UInt8) : String :=
  vendorSpecific.foldl (fun text byte => text ++ String.ofList (hexDigits byte)) vendorId

def Onu.sn (onu : Onu) : String := onuSnToString "BBSM" onu.vendorSpecific

/-- `FindOnuBySn` with the text that it is given. -/
def Olt.findOnuBySerialText (olt : Olt) (serialNumber : String) : Option Position :=
  olt.positions.find? fun position => (olt.onuAt position).any fun onu => onu.sn = serialNumber

/-- The ONU that the search finds, with its position. -/
def Olt.onuBySerialText (olt : Olt) (serialNumber : String) : Option (Position × Onu) :=
  (olt.findOnuBySerialText serialNumber).bind fun position => (olt.onuAt position).map (position, ·)

/-- The source compares the addresses as texts. -/
def UniPort.findServiceByMacAddress (uni : UniPort) (macAddress : List UInt8) : Option Nat :=
  uni.services.findIdx? fun service => service.hwAddress = macAddress

def Onu.findServiceByMacAddress (onu : Onu) (macAddress : List UInt8) : Option (Nat × Nat) :=
  onu.uniPorts.zipIdx.findSome? fun (uni, index) =>
    (uni.findServiceByMacAddress macAddress).map (index, ·)

def Olt.findServiceByMacAddress (olt : Olt) (mac : List UInt8) : Option ServicePlace :=
  olt.positions.findSome? fun position => (olt.onuAt position).bind fun onu =>
    (onu.findServiceByMacAddress mac).map fun (uni, service) => ⟨position, uni, service⟩

/-- Whoever is asked for by its identity is found. -/
structure Olt.UniqueIdentities (olt : Olt) : Prop where
  serials : ∀ position other onu twin, olt.onuAt position = some onu → olt.onuAt other = some twin →
    onu.vendorSpecific = twin.vendorSpecific → position = other
  findOnuBySn : ∀ position onu, olt.onuAt position = some onu →
    olt.findOnuBySerialText onu.sn = some position
  getOnuBySn : ∀ position onu, olt.onuAt position = some onu →
    olt.getOnuBySn position.1 onu.vendorSpecific = some position
  macs : ∀ place other service twin, olt.serviceAt place = some service →
    olt.serviceAt other = some twin → service.hwAddress = twin.hwAddress → place = other
  findService : ∀ place service, olt.serviceAt place = some service →
    olt.findServiceByMacAddress service.hwAddress = some place
  assigned : ∀ place other service twin, olt.serviceAt place = some service →
    olt.serviceAt other = some twin →
    ∀ packet reply asked answer, packet.layer.clientHwAddr = service.hwAddress →
      asked.layer.clientHwAddr = twin.hwAddress → handleServerPacket packet = .ok reply →
      handleServerPacket asked = .ok answer →
      reply.layer.yourClientIp = answer.layer.yourClientIp → place = other

private theorem hexDigits_injective : Function.Injective hexDigits := by
  intro byte other same
  have digits : ∀ digit other : Fin 16,
      Nat.digitChar digit = Nat.digitChar other → digit = other := by decide
  have high := digits ⟨byte.toNat / 16, by have := byte.toNat_lt; omega⟩
    ⟨other.toNat / 16, by have := other.toNat_lt; omega⟩ (List.cons.inj same).1
  have low := digits ⟨byte.toNat % 16, by omega⟩ ⟨other.toNat % 16, by omega⟩
    (List.cons.inj (List.cons.inj same).2).1
  rw [← UInt8.toNat_inj]
  simp only [Fin.mk.injEq] at high low
  omega

theorem onuSnToString_toList (vendorId : String) (vendorSpecific : List UInt8) :
    (onuSnToString vendorId vendorSpecific).toList =
      vendorId.toList ++ vendorSpecific.flatMap hexDigits := by
  unfold onuSnToString
  induction vendorSpecific generalizing vendorId with
  | nil => simp
  | cons byte rest ih =>
    rw [List.foldl_cons, ih]
    simp

private theorem flatMap_hexDigits_injective : Function.Injective (List.flatMap hexDigits) := by
  intro bytes
  induction bytes with
  | nil =>
    intro others same
    cases others with
    | nil => rfl
    | cons other rest => cases same
  | cons byte rest ih =>
    intro others same
    cases others with
    | nil => cases same
    | cons other others =>
      obtain ⟨first, later⟩ := List.append_inj same rfl
      rw [hexDigits_injective first, ih later]

theorem onuSnToString_injective (vendorId : String) : Function.Injective (onuSnToString vendorId) := by
  intro bytes others same
  have texts := congrArg String.toList same
  rw [onuSnToString_toList, onuSnToString_toList] at texts
  exact flatMap_hexDigits_injective (List.append_cancel_left texts)

theorem byte_eq_iff (first second : Nat) :
    (UInt32.ofNat first).toUInt8 = (UInt32.ofNat second).toUInt8 ↔ first % 256 = second % 256 := by
  rw [← UInt8.toNat_inj]
  simp only [UInt32.toNat_toUInt8, UInt32.toNat_ofNat']
  omega

variable {oltId : Int}

theorem Position.serial_inj {position other : Position} :
    position.serial oltId = other.serial oltId ↔
      position.1 % 256 = other.1 % 256 ∧ (position.2 + 1) % 256 = (other.2 + 1) % 256 := by
  simp only [serial, newSN, List.cons.injEq, byte_eq_iff, true_and, and_true]

theorem ServicePlace.mac_inj {place other : ServicePlace} :
    place.mac oltId = other.mac oltId ↔
      place.onu.1 % 256 = other.onu.1 % 256 ∧ (place.onu.2 + 1) % 256 = (other.onu.2 + 1) % 256 ∧
        place.uni % 256 = other.uni % 256 ∧ place.service % 256 = other.service % 256 := by
  have last : UInt8.ofNat place.service = UInt8.ofNat other.service ↔
      place.service % 256 = other.service % 256 := by
    rw [← UInt8.toNat_inj, UInt8.toNat_ofNat', UInt8.toNat_ofNat']
  simp only [mac, serviceMac, List.cons.injEq, byte_eq_iff, last, true_and, and_true]

/-- The server tells the services apart as their MAC addresses do. -/
theorem createIpFromMacAddress_mac {place other : ServicePlace} {ip : List UInt8}
    (first : createIpFromMacAddress (place.mac oltId) = .ok ip)
    (second : createIpFromMacAddress (other.mac oltId) = .ok ip) :
    place.mac oltId = other.mac oltId := by
  rw [ServicePlace.mac, serviceMac, createIpFromMacAddress] at first second
  have same := Except.ok.inj (first.trans second.symm)
  simp only [List.cons.injEq, UInt8.add_right_inj, and_true] at same
  simp only [ServicePlace.mac, serviceMac, List.cons.injEq, true_and, and_true]
  exact same

variable {olt : Olt} {position : Position} {place : ServicePlace}

variable {serialNumber : String}

theorem Olt.findOnuBySerialText_sound
    (found : olt.findOnuBySerialText serialNumber = some position) :
    ∃ onu, olt.onuAt position = some onu ∧ onu.sn = serialNumber := by
  have matched := List.find?_some found
  simpa [Option.any_eq_true] using matched

variable {onu : Onu}

theorem Olt.findOnuBySerialText_complete (present : olt.onuAt position = some onu) :
    ∃ found, olt.findOnuBySerialText onu.sn = some found := by
  rw [← Option.isSome_iff_exists, findOnuBySerialText, List.find?_isSome]
  exact ⟨position, by simp [mem_positions_iff, present], by simp [present]⟩

theorem Olt.onuAt_of_onuBySerialText
    (found : olt.onuBySerialText serialNumber = some (position, onu)) :
    olt.onuAt position = some onu := by
  obtain ⟨place, -, present⟩ := Option.bind_eq_some_iff.mp found
  obtain ⟨same, present, pair⟩ := Option.map_eq_some_iff.mp present
  cases pair
  exact present

theorem Olt.getOnuBySn_sound {pon : Nat} {vendorSpecific : List UInt8}
    (found : olt.getOnuBySn pon vendorSpecific = some position) :
    ∃ onu, olt.onuAt position = some onu ∧ onu.vendorSpecific = vendorSpecific := by
  obtain ⟨index, listed, rfl⟩ := Option.map_eq_some_iff.mp found
  obtain ⟨port, foundPon, searched⟩ := Option.bind_eq_some_iff.mp listed
  obtain ⟨inside, same, -⟩ := List.findIdx?_eq_some_iff_getElem.mp searched
  refine ⟨port.onus[index], ?_, of_decide_eq_true same⟩
  rw [onuAt, foundPon]
  exact List.getElem?_eq_getElem inside

theorem Olt.getOnuBySn_complete (present : olt.onuAt position = some onu) :
    ∃ found, olt.getOnuBySn position.1 onu.vendorSpecific = some found := by
  obtain ⟨port, foundPon, present⟩ := Option.bind_eq_some_iff.mp present
  have some : (port.onus.findIdx? fun other => other.vendorSpecific = onu.vendorSpecific).isSome := by
    rw [List.findIdx?_isSome, List.any_eq_true]
    exact ⟨onu, List.mem_of_getElem? present, by simp⟩
  obtain ⟨index, found⟩ := Option.isSome_iff_exists.mp some
  refine ⟨(position.1, index), ?_⟩
  rw [getOnuBySn, foundPon, Option.bind_some, found]
  rfl

theorem Olt.findServiceByMacAddress_sound {mac : List UInt8}
    (found : olt.findServiceByMacAddress mac = some place) :
    ∃ service, olt.serviceAt place = some service ∧ service.hwAddress = mac := by
  obtain ⟨position, -, onOnu⟩ := List.exists_of_findSome?_eq_some found
  obtain ⟨onu, foundOnu, inside⟩ := Option.bind_eq_some_iff.mp onOnu
  obtain ⟨⟨uni, index⟩, onUni, rfl⟩ := Option.map_eq_some_iff.mp inside
  obtain ⟨⟨port, listed⟩, member, onPort⟩ := List.exists_of_findSome?_eq_some onUni
  obtain ⟨service, searched, same⟩ := Option.map_eq_some_iff.mp onPort
  obtain ⟨rfl, rfl⟩ := Prod.mk.inj same
  obtain ⟨inside, same, -⟩ := List.findIdx?_eq_some_iff_getElem.mp searched
  refine ⟨port.services[service], ?_, of_decide_eq_true same⟩
  rw [serviceAt, foundOnu, Option.bind_some, List.mem_zipIdx_iff_getElem?.mp member, Option.bind_some]
  exact List.getElem?_eq_getElem inside

theorem Olt.findServiceByMacAddress_complete {service : Service}
    (present : olt.serviceAt place = some service) :
    ∃ found, olt.findServiceByMacAddress service.hwAddress = some found := by
  obtain ⟨onu, foundOnu, present⟩ := Option.bind_eq_some_iff.mp present
  obtain ⟨uni, foundUni, present⟩ := Option.bind_eq_some_iff.mp present
  have inUni : (uni.findServiceByMacAddress service.hwAddress).isSome := by
    rw [UniPort.findServiceByMacAddress, List.findIdx?_isSome, List.any_eq_true]
    exact ⟨service, List.mem_of_getElem? present, by simp⟩
  have inOnu : (onu.findServiceByMacAddress service.hwAddress).isSome := by
    rw [Onu.findServiceByMacAddress, List.findSome?_isSome_iff]
    exact ⟨(uni, place.uni), List.mem_zipIdx_iff_getElem?.mpr foundUni, by simpa using inUni⟩
  rw [← Option.isSome_iff_exists, findServiceByMacAddress, List.findSome?_isSome_iff]
  exact ⟨place.onu, by simp [mem_positions_iff, foundOnu], by simpa [foundOnu] using inOnu⟩

/-- Identities that are told apart are found. -/
theorem Olt.UniqueIdentities.of_distinct
    (serials : ∀ position other onu twin, olt.onuAt position = some onu → olt.onuAt other = some twin →
      onu.vendorSpecific = twin.vendorSpecific → position = other)
    (macs : ∀ place other service twin, olt.serviceAt place = some service →
      olt.serviceAt other = some twin → service.hwAddress = twin.hwAddress → place = other)
    (ips : ∀ place other service twin, olt.serviceAt place = some service →
      olt.serviceAt other = some twin → ∀ ip, createIpFromMacAddress service.hwAddress = .ok ip →
      createIpFromMacAddress twin.hwAddress = .ok ip → service.hwAddress = twin.hwAddress) :
    olt.UniqueIdentities where
  serials := serials
  findOnuBySn := by
    intro position onu present
    obtain ⟨found, searched⟩ := findOnuBySerialText_complete present
    obtain ⟨twin, twinPresent, same⟩ := findOnuBySerialText_sound searched
    rw [searched, serials found position twin onu twinPresent present (onuSnToString_injective _ same)]
  getOnuBySn := by
    intro position onu present
    obtain ⟨found, searched⟩ := getOnuBySn_complete present
    obtain ⟨twin, twinPresent, same⟩ := getOnuBySn_sound searched
    rw [searched, serials found position twin onu twinPresent present same]
  macs := macs
  findService := by
    intro place service present
    obtain ⟨found, searched⟩ := findServiceByMacAddress_complete present
    obtain ⟨twin, twinPresent, same⟩ := findServiceByMacAddress_sound searched
    rw [searched, macs found place twin service twinPresent present same]
  assigned := by
    intro place other service twin present twinPresent packet reply asked answer client twinClient
      replied answered same
    have first := handleServerPacket_yourClientIp replied
    have second := handleServerPacket_yourClientIp answered
    rw [client] at first
    rw [twinClient, ← same] at second
    exact macs place other service twin present twinPresent
      (ips place other service twin present twinPresent _ first second)

variable {loaded : Loaded} {cli : CliParams} {files : Files}

section

variable (created : createOlt loaded = .ok olt)
include created

/-- Two ONUs whose positions agree up to a byte. -/
theorem exists_same_serial (position other : Position)
    (pons : position.1 < loaded.config.olt.ponPorts.toNat ∧ other.1 < loaded.config.olt.ponPorts.toNat)
    (onus : position.2 < loaded.config.olt.onusPonPort.toNat ∧ other.2 < loaded.config.olt.onusPonPort.toNat)
    (same : position.serial loaded.config.olt.id = other.serial loaded.config.olt.id) :
    ∃ onu twin, olt.onuAt position = some onu ∧ olt.onuAt other = some twin ∧
      onu.vendorSpecific = twin.vendorSpecific := by
  obtain ⟨onu, present⟩ := exists_onuAt created position pons.1 onus.1
  obtain ⟨twin, twinPresent⟩ := exists_onuAt created other pons.2 onus.2
  refine ⟨onu, twin, present, twinPresent, ?_⟩
  rw [(onuAt_created created present).vendorSpecific,
    (onuAt_created created twinPresent).vendorSpecific, same]

/-- Two services of the first UNI of the OLT whose positions agree up to a byte. -/
theorem exists_same_mac (populated : loaded.config.olt.Populated) (position other : Nat)
    (services : position < loaded.services.length ∧ other < loaded.services.length)
    (same : position % 256 = other % 256) :
    ∃ service twin, olt.serviceAt ⟨(0, 0), 0, position⟩ = some service ∧
      olt.serviceAt ⟨(0, 0), 0, other⟩ = some twin ∧ service.hwAddress = twin.hwAddress := by
  obtain ⟨pons, onus, unis⟩ := populated.positive
  obtain ⟨service, present⟩ := exists_serviceAt created ⟨(0, 0), 0, position⟩ pons onus unis services.1
  obtain ⟨twin, twinPresent⟩ := exists_serviceAt created ⟨(0, 0), 0, other⟩ pons onus unis services.2
  refine ⟨service, twin, present, twinPresent, ?_⟩
  rw [(serviceAt_created created present).hwAddress, (serviceAt_created created twinPresent).hwAddress]
  exact ServicePlace.mac_inj.mpr ⟨rfl, rfl, rfl, same⟩

/-- Every position fits a byte. -/
structure FitsByte (loaded : Loaded) : Prop where
  pons : loaded.config.olt.ponPorts ≤ 256
  onus : loaded.config.olt.onusPonPort ≤ 256
  services : loaded.services.length ≤ 256

private theorem fitsByte_of_unique (populated : loaded.config.olt.Populated)
    (unique : olt.UniqueIdentities) : FitsByte loaded := by
  obtain ⟨somePon, someOnu, -⟩ := populated.positive
  constructor
  · -- the first ONUs of PON 0 and PON 256
    by_contra many
    have many := UInt32.lt_iff_toNat_lt.mp (UInt32.not_le.mp many)
    obtain ⟨onu, twin, present, twinPresent, same⟩ := exists_same_serial created (0, 0) (256, 0)
      ⟨somePon, many⟩ ⟨someOnu, someOnu⟩ (Position.serial_inj.mpr ⟨rfl, rfl⟩)
    cases unique.serials _ _ onu twin present twinPresent same
  · -- the first and the 257th ONU of PON 0
    by_contra many
    have many := UInt32.lt_iff_toNat_lt.mp (UInt32.not_le.mp many)
    obtain ⟨onu, twin, present, twinPresent, same⟩ := exists_same_serial created (0, 0) (0, 256)
      ⟨somePon, somePon⟩ ⟨someOnu, many⟩ (Position.serial_inj.mpr ⟨rfl, rfl⟩)
    cases unique.serials _ _ onu twin present twinPresent same
  · -- the first and the 257th service of a UNI
    by_contra many
    obtain ⟨service, twin, present, twinPresent, same⟩ := exists_same_mac created populated 0 256
      ⟨by omega, by omega⟩ rfl
    cases unique.macs _ _ service twin present twinPresent same

private theorem unique_of_fitsByte (fits : FitsByte loaded) : olt.UniqueIdentities := by
  have fewPons : loaded.config.olt.ponPorts.toNat ≤ 256 := UInt32.le_iff_toNat_le.mp fits.pons
  have fewOnus : loaded.config.olt.onusPonPort.toNat ≤ 256 := UInt32.le_iff_toNat_le.mp fits.onus
  have fewServices := fits.services
  refine .of_distinct ?_ ?_ ?_
  · intro position other onu twin present twinPresent same
    obtain ⟨pon, index, -, -, serial, -⟩ := onuAt_created created present
    obtain ⟨twinPon, twinIndex, -, -, twinSerial, -⟩ := onuAt_created created twinPresent
    rw [serial, twinSerial, Position.serial_inj] at same
    exact Prod.ext (by omega) (by omega)
  · intro place other service twin present twinPresent same
    obtain ⟨pon, index, uni, position, mac⟩ := serviceAt_created created present
    obtain ⟨twinPon, twinIndex, twinUni, twinPosition, twinMac⟩ := serviceAt_created created twinPresent
    rw [mac, twinMac, ServicePlace.mac_inj] at same
    obtain ⟨⟨ponId, onuIndex⟩, uniIndex, serviceIndex⟩ := place
    obtain ⟨⟨otherPon, otherOnu⟩, otherUni, otherService⟩ := other
    dsimp only at *
    obtain rfl : ponId = otherPon := by omega
    obtain rfl : onuIndex = otherOnu := by omega
    obtain rfl : uniIndex = otherUni := by omega
    obtain rfl : serviceIndex = otherService := by omega
    rfl
  · intro place other service twin present twinPresent ip first second
    rw [(serviceAt_created created present).hwAddress] at first ⊢
    rw [(serviceAt_created created twinPresent).hwAddress] at second ⊢
    exact createIpFromMacAddress_mac first second

end

/-- The identities of an OLT that is built from an accepted configuration are unique exactly if every
position fits a byte. -/
theorem identities_unique_iff (accepted : loadConfig cli files = .ok loaded)
    (created : createOlt loaded = .ok olt) : olt.UniqueIdentities ↔ FitsByte loaded := by
  obtain ⟨populated, -⟩ := loadConfig_accepted accepted
  exact ⟨fitsByte_of_unique created populated, unique_of_fitsByte created⟩

def hsia : ServiceYaml where
  name := "hsia"
  cTag := 900
  sTag := 900
  needsEapol := true
  needsDhcp := true
  needsIgmp := false
  cTagAllocation := "shared"
  sTagAllocation := "shared"
  usPonCTagPriority := 0
  usPonSTagPriority := 0

/-- Only the file of services can be read. -/
def hsiaFiles : Files where
  config := fun _ => .unreadable
  services := fun _ => .parsed (some [hsia])
  pons := fun _ => .unreadable

/-- The defaults with this many ONUs on the PON. -/
def loadedHsia (onus : UInt32) : Loaded where
  config := { getDefaultOps with olt := { getDefaultOps.olt with onusPonPort := onus } }
  services := [hsia]
  pons := ⟨1, [⟨⟨0, 0⟩, "XGS-PON", ⟨1, onus⟩, ⟨1024, 1024 + onus * 4⟩, ⟨1024, 1024 + onus * 4 * 8⟩⟩]⟩

theorem loadedHsia_ponAccepted {onus : UInt32} (range : ¬ onus - 1 + 1 < onus) :
    ∀ pon ∈ ponIds (loadedHsia onus), PonAccepted (loadedHsia onus) pon := by
  intro pon member
  obtain rfl : pon = 0 := Nat.lt_one_iff.mp (List.mem_range.mp member)
  exact ⟨_, rfl, by simp [ponTechnologyFromString], range⟩

theorem loadedHsia_created {onus : UInt32} (range : ¬ onus - 1 + 1 < onus)
    (planned : (plannedOnus (loadedHsia onus)).isSome = true) :
    ∃ olt, createOlt (loadedHsia onus) = .ok olt :=
  exists_createOlt mib_of_defaults (loadedHsia_ponAccepted range) planned

theorem two_onus_unique :
    ∃ olt, loadConfig { onu := some 2 } hsiaFiles = .ok (loadedHsia 2) ∧
      createOlt (loadedHsia 2) = .ok olt ∧ olt.UniqueIdentities := by
  obtain ⟨olt, created⟩ := @loadedHsia_created 2 (by decide) (by decide +kernel)
  have accepted : loadConfig { onu := some 2 } hsiaFiles = .ok (loadedHsia 2) :=
    eq_ok_of_toOption (by decide +kernel)
  refine ⟨olt, accepted, created, (identities_unique_iff accepted created).mpr ?_⟩
  exact ⟨by decide, by decide, by decide⟩

/-- With 257 ONUs on a PON the last one has the serial number of the first. -/
theorem serial_number_repeated :
    ∃ olt onu twin, loadConfig { onu := some 257 } hsiaFiles = .ok (loadedHsia 257) ∧
      createOlt (loadedHsia 257) = .ok olt ∧ olt.onuAt (0, 0) = some onu ∧
      olt.onuAt (0, 256) = some twin ∧ onu.vendorSpecific = twin.vendorSpecific := by
  obtain ⟨olt, created⟩ := @loadedHsia_created 257 (by decide) (by decide +kernel)
  have accepted : loadConfig { onu := some 257 } hsiaFiles = .ok (loadedHsia 257) :=
    eq_ok_of_toOption (by decide +kernel)
  obtain ⟨onu, twin, present, twinPresent, same⟩ := exists_same_serial created (0, 0) (0, 256)
    (by decide) (by decide) (Position.serial_inj.mpr ⟨rfl, rfl⟩)
  exact ⟨olt, onu, twin, accepted, created, present, twinPresent, same⟩

end Bbsim.Devices
