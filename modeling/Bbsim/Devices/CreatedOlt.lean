import Bbsim.Devices.CreateOlt

/-! The devices of a created OLT by position. What `CreateOLT` makes of a configuration at each
place: the ids are positions, the serial number of an ONU and the address of a service are made of
them. -/

namespace Bbsim.Devices

open Foundation Common Omci

/-- The place of a service: its ONU, the position of the UNI, the position of the service. -/
structure ServicePlace where
  onu : Position
  uni : Nat
  service : Nat
deriving DecidableEq, Repr

/-- The serial number of the ONU at a position. -/
def Position.serial (oltId : Int) (position : Position) : List UInt8 :=
  newSN oltId (UInt32.ofNat position.1) (UInt32.ofNat (position.2 + 1))

/-- The address of the service at a place. -/
def ServicePlace.mac (oltId : Int) (place : ServicePlace) : List UInt8 :=
  serviceMac oltId (UInt32.ofNat place.onu.1) (UInt32.ofNat (place.onu.2 + 1))
    (UInt32.ofNat place.uni) place.service

structure UniCreated (loaded : Loaded) (position : Position) (uni : Nat) (port : UniPort) : Prop where
  few : uni < 4
  id : port.id = UInt32.ofNat uni
  count : port.services.length = loaded.services.length
  services : ∀ index service, port.services[index]? = some service →
    service.id = UInt32.ofNat index ∧
      service.hwAddress = ServicePlace.mac loaded.config.olt.id ⟨position, uni, index⟩

structure OnuCreated (loaded : Loaded) (position : Position) (config : OnuConfig) : Prop where
  vendorSpecific : config.vendorSpecific = Position.serial loaded.config.olt.id position
  count : config.uniPorts.length = loaded.config.olt.uniPorts.toNat
  unis : ∀ index port, config.uniPorts[index]? = some port → UniCreated loaded position index port

structure PonCreated (loaded : Loaded) (pon : Nat) (configs : List OnuConfig) : Prop where
  count : configs.length = loaded.config.olt.onusPonPort.toNat
  onus : ∀ index config, configs[index]? = some config → OnuCreated loaded (pon, index) config

variable {loaded : Loaded}

theorem ensures_newService {oltId : Int} {ponPortId onuId uniId : UInt32} {entry : ServiceYaml × Nat}
    {tags : Tags} :
    Ensures (newService oltId ponPortId onuId uniId entry tags) fun result =>
      result.1.id = UInt32.ofNat entry.2 ∧
        result.1.hwAddress = serviceMac oltId ponPortId onuId uniId entry.2 := by
  unfold newService
  exact ensures_bind_of_forall fun _ => ensures_bind_of_forall fun _ => ⟨rfl, rfl⟩

private theorem newUniPort_eq_some {uni : Nat} (small : uni < UInt32.size) {port : UniPort}
    (made : newUniPort (UInt32.ofNat uni) [] = some port) :
    uni < 4 ∧ port.id = UInt32.ofNat uni := by
  rw [newUniPort] at made
  split at made
  · cases made
  · next within =>
    obtain rfl := Option.some.inj made
    refine ⟨?_, rfl⟩
    have below : (UInt32.ofNat uni).toNat ≤ 3 := UInt32.le_iff_toNat_le.mp (UInt32.not_lt.mp within)
    rw [UInt32.toNat_ofNat_of_lt' small] at below
    omega

theorem ensures_newUni {position : Position} {uni : Nat} {tags : Tags} (small : uni < UInt32.size) :
    Ensures (newUni loaded.config.olt.id (UInt32.ofNat position.1) (UInt32.ofNat (position.2 + 1))
      loaded.services uni tags) fun result => UniCreated loaded position uni result.1 := by
  unfold newUni
  split
  · trivial
  · next port made =>
    obtain ⟨few, id⟩ := newUniPort_eq_some small made
    rw [Ensures, yields_bind]
    refine (yields_traverseWith_items (fun entry service => service.id = UInt32.ofNat entry.2 ∧
      service.hwAddress = ServicePlace.mac loaded.config.olt.id ⟨position, uni, entry.2⟩)
      fun _ _ _ => ensures_newService).mono ?_
    rintro ⟨services, tags⟩ created
    obtain ⟨count, each⟩ := forall₂_zipIdx_iff.mp created
    refine ⟨few, id, count, fun index service present => ?_⟩
    obtain ⟨config, -, holds⟩ := each index service present
    exact holds

private theorem ensures_createOnu {technology : PonTechnology} {position : Position} {tags : Tags} :
    Ensures (createOnu loaded technology position.1 position.2 tags) fun result =>
      OnuCreated loaded position result.1 := by
  unfold createOnu
  rw [Ensures, yields_bind]
  refine (yields_traverseWith_items (UniCreated loaded position) fun uni member _ => ?_).mono ?_
  · refine ensures_newUni ?_
    exact (List.mem_range.mp member).trans loaded.config.olt.uniPorts.toNat_lt
  · rintro ⟨uniPorts, tags⟩ created
    obtain ⟨count, each⟩ := forall₂_range_iff.mp created
    dsimp only
    split
    · trivial
    · exact ⟨rfl, count, each⟩

private theorem ensures_createPon {pon : Nat} {tags : Tags} :
    Ensures (createPon loaded pon tags) fun result => PonCreated loaded pon result.1 := by
  have each : ∀ technology index tags, Ensures (createOnu loaded technology pon index tags)
      fun result => OnuCreated loaded (pon, index) result.1 :=
    fun technology index tags => @ensures_createOnu loaded technology (pon, index) tags
  unfold createPon
  split
  · trivial
  · split
    · trivial
    · split
      · trivial
      · next technology _ _ =>
        refine (yields_traverseWith_items _ fun index _ tags => each technology index tags).mono ?_
        intro result created
        obtain ⟨count, onus⟩ := forall₂_range_iff.mp created
        exact ⟨count, onus⟩

/-- The PONs of an OLT that is created. -/
theorem createOlt_eq_ok {olt : Olt} (created : createOlt loaded = .ok olt) :
    ∃ configs, olt = Olt.create loaded.config.bbSim.enablePerf configs ∧
      configs.length = loaded.config.olt.ponPorts.toNat ∧
      ∀ pon onus, configs[pon]? = some onus → PonCreated loaded pon onus := by
  have made : Ensures (createOlt loaded) fun olt =>
      ∃ configs, olt = Olt.create loaded.config.bbSim.enablePerf configs ∧
        List.Forall₂ (PonCreated loaded) (ponIds loaded) configs := by
    rw [createOlt, Ensures, yields_map, createPons]
    refine (yields_traverseWith_items (PonCreated loaded) fun _ _ _ => ensures_createPon).mono ?_
    exact fun result each => ⟨result.1, rfl, each⟩
  obtain ⟨configs, same, each⟩ := made.value created
  exact ⟨configs, same, forall₂_range_iff.mp each⟩

def Olt.serviceAt (olt : Olt) (place : ServicePlace) : Option Service :=
  (olt.onuAt place.onu).bind fun onu =>
    onu.uniPorts[place.uni]?.bind fun uni => uni.services[place.service]?

/-- What `CreateOLT` makes of the ONU at a position. -/
structure Onu.CreatedAt (loaded : Loaded) (position : Position) (onu : Onu) : Prop where
  pon : position.1 < loaded.config.olt.ponPorts.toNat
  index : position.2 < loaded.config.olt.onusPonPort.toNat
  id : onu.id = UInt32.ofNat (position.2 + 1)
  ponPortId : onu.ponPortId = UInt32.ofNat position.1
  vendorSpecific : onu.vendorSpecific = position.serial loaded.config.olt.id
  count : onu.uniPorts.length = loaded.config.olt.uniPorts.toNat
  unis : ∀ index port, onu.uniPorts[index]? = some port → UniCreated loaded position index port

/-- What it makes of the service at a place. -/
structure Service.CreatedAt (loaded : Loaded) (place : ServicePlace) (service : Service) : Prop where
  pon : place.onu.1 < loaded.config.olt.ponPorts.toNat
  index : place.onu.2 < loaded.config.olt.onusPonPort.toNat
  uni : place.uni < 4
  position : place.service < loaded.services.length
  hwAddress : service.hwAddress = place.mac loaded.config.olt.id

theorem Olt.onuAt_create (enablePerf : Bool) (configs : List (List OnuConfig)) (position : Position) :
    (Olt.create enablePerf configs).onuAt position = configs[position.1]?.bind fun onus =>
      onus[position.2]?.map fun config =>
        Onu.create (position.2 + 1).toUInt32 position.1.toUInt32 position.2 config.vendorSpecific
          config.uniPorts config.potsPorts config.omciResponseRate := by
  rw [onuAt, create, List.getElem?_mapIdx, Option.bind_map]
  cases configs[position.1]? with
  | none => rfl
  | some onus => exact List.getElem?_mapIdx

section

variable {olt : Olt} (created : createOlt loaded = .ok olt)
include created

theorem onuAt_created {position : Position} {onu : Onu} (present : olt.onuAt position = some onu) :
    onu.CreatedAt loaded position := by
  obtain ⟨configs, rfl, count, pons⟩ := createOlt_eq_ok created
  rw [Olt.onuAt_create] at present
  obtain ⟨onus, foundPon, present⟩ := Option.bind_eq_some_iff.mp present
  obtain ⟨config, foundOnu, rfl⟩ := Option.map_eq_some_iff.mp present
  have pon := pons position.1 onus foundPon
  have onu := pon.onus position.2 config foundOnu
  obtain ⟨insidePon, -⟩ := List.getElem?_eq_some_iff.mp foundPon
  obtain ⟨inside, -⟩ := List.getElem?_eq_some_iff.mp foundOnu
  exact ⟨count ▸ insidePon, pon.count ▸ inside, rfl, rfl, onu.vendorSpecific, onu.count, onu.unis⟩

theorem exists_onuAt (position : Position) (pon : position.1 < loaded.config.olt.ponPorts.toNat)
    (index : position.2 < loaded.config.olt.onusPonPort.toNat) :
    ∃ onu, olt.onuAt position = some onu := by
  obtain ⟨configs, rfl, count, pons⟩ := createOlt_eq_ok created
  have foundPon := List.getElem?_eq_getElem (count ▸ pon)
  have onus := pons position.1 _ foundPon
  have foundOnu := List.getElem?_eq_getElem (onus.count ▸ index)
  rw [Olt.onuAt_create, foundPon, Option.bind_some, foundOnu]
  exact ⟨_, rfl⟩

theorem serviceAt_created {place : ServicePlace} {service : Service}
    (present : olt.serviceAt place = some service) : service.CreatedAt loaded place := by
  obtain ⟨onu, foundOnu, present⟩ := Option.bind_eq_some_iff.mp present
  obtain ⟨uni, foundUni, present⟩ := Option.bind_eq_some_iff.mp present
  have onu := onuAt_created created foundOnu
  have uni := onu.unis place.uni uni foundUni
  obtain ⟨inside, -⟩ := List.getElem?_eq_some_iff.mp present
  exact ⟨onu.pon, onu.index, uni.few, uni.count ▸ inside, (uni.services _ _ present).2⟩

theorem exists_serviceAt (place : ServicePlace) (pon : place.onu.1 < loaded.config.olt.ponPorts.toNat)
    (index : place.onu.2 < loaded.config.olt.onusPonPort.toNat)
    (uni : place.uni < loaded.config.olt.uniPorts.toNat)
    (service : place.service < loaded.services.length) :
    ∃ service, olt.serviceAt place = some service := by
  obtain ⟨onu, foundOnu⟩ := exists_onuAt created place.onu pon index
  have made := onuAt_created created foundOnu
  have foundUni := List.getElem?_eq_getElem (made.count ▸ uni)
  have port := made.unis place.uni _ foundUni
  have foundService := List.getElem?_eq_getElem (port.count ▸ service)
  rw [Olt.serviceAt, foundOnu, Option.bind_some, foundUni, Option.bind_some, foundService]
  exact ⟨_, rfl⟩

end

end Bbsim.Devices
