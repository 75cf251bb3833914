import Bbsim.Foundation.Strconv
import Bbsim.Devices.Identities

/-! The subscriber database. The SADIS server lists an entry for each UNI of the OLT in its static
configuration, and looks single entries up by an id that it splits and reads as a number. Ids in the
list count the UNIs from 1. -/

namespace Bbsim.Responders.Sadis

open Foundation Devices

/-- The settings of a service that only its entry is made of. -/
structure ServiceProfile where
  needsPppoe : Bool
  technologyProfileId : Int
  enableMacLearning : Bool
  uniTagMatch : Int
  configureMacAddress : Bool
  dsPonCTagPriority : UInt8
  dsPonSTagPriority : UInt8
deriving DecidableEq, Repr

structure SadisUniTag where
  uniTagMatch : Int
  ponCTag : Int
  ponSTag : Int
  technologyProfileId : Int
  upstreamBandwidthProfile : String
  downstreamBandwidthProfile : String
  isDhcpRequired : Bool
  isIgmpRequired : Bool
  isPppoeRequired : Bool
  configuredMacAddress : String
  enableMacLearning : Bool
  usPonCTagPriority : UInt8
  usPonSTagPriority : UInt8
  dsPonCTagPriority : UInt8
  dsPonSTagPriority : UInt8
  serviceName : String
deriving DecidableEq, Repr

structure SadisOnuEntryV2 where
  id : String
  nasPortId : String := ""
  circuitId : String := ""
  remoteId : String := ""
  uniTagList : List SadisUniTag
deriving DecidableEq, Repr

structure SadisOltEntry where
  id : String
  hardwareIdentifier : String
  ipAddress : String
  nasId : String
  uplinkPort : Int
  nniDhcpTrapVid : Int
deriving DecidableEq, Repr

/-- An entry of a UNI is a pointer; `none` is nil and encoded as `null`. -/
inductive SadisEntry where
  | olt (entry : SadisOltEntry)
  | onu (entry : Option SadisOnuEntryV2)
deriving DecidableEq, Repr

def SadisEntry.id : SadisEntry → Option String
  | .olt entry => some entry.id
  | .onu entry => entry.map SadisOnuEntryV2.id

structure SadisBwpEntry where
  id : String
  cbs : Int
  cir : Int
  air : Int := 0
  ebs : Int := 0
  eir : Int := 0
  gir : Int := 0
  pir : Int := 0
  pbs : Int := 0
deriving DecidableEq, Repr

def bandwidthProfiles (format : String) : List SadisBwpEntry :=
  if format = "mef" then [
    { id := "User_Bandwidth1", air := 100000, cbs := 10000, cir := 30000, ebs := 1000, eir := 100000 },
    { id := "User_Bandwidth2", air := 100000, cbs := 5000, cir := 100000, ebs := 5000, eir := 100000 },
    { id := "User_Bandwidth3", air := 100000, cbs := 5000, cir := 1000000, ebs := 5000, eir := 1000000 },
    { id := "Default", air := 100000, cbs := 30, cir := 600, ebs := 30, eir := 400 }]
  else if format = "ietf" then [
    { id := "User_Bandwidth1", cbs := 10000, cir := 30000, gir := 100000, pir := 20000, pbs := 1000 },
    { id := "User_Bandwidth2", cbs := 5000, cir := 100000, gir := 100000, pir := 30000, pbs := 5000 },
    { id := "User_Bandwidth3", cbs := 5000, cir := 1000000, gir := 100000, pir := 40000, pbs := 5000 },
    { id := "Default", cbs := 30, cir := 600, gir := 0, pir := 32000, pbs := 30 }]
  else []

structure SadisIntegration where
  url : String
  cacheEnabled : Bool
  cacheMaxSize : Int
  cacheTtl : String
deriving DecidableEq, Repr

structure SadisConfig where
  integration : SadisIntegration
  entries : List SadisEntry
  bandwidthIntegration : SadisIntegration
  bandwidthEntries : List SadisBwpEntry
deriving DecidableEq, Repr

inductive Body where
  | entry (entry : SadisEntry)
  | config (config : SadisConfig)
  /-- The text `{}` in JSON. -/
  | emptyObject
  | message (text : String)
  | nothing
deriving DecidableEq, Repr

structure Reply where
  status : Nat
  body : Body
deriving DecidableEq, Repr

/-- The OLT with what the server knows about it beyond. -/
structure SadisServer where
  olt : Olt
  serialNumber : String
  nniDhcpTrapVid : Int
  deviceId : String
  ipAddress : String
  sadisRestAddress : String
  bandwidthProfileFormat : String
  profile : ServicePlace → ServiceProfile

/-- `strings.Split` with a separator of one character. -/
def split (separator : Char) (text : String) : List String :=
  (text.toList.splitOn separator).map String.ofList

def macText (hwAddress : List UInt8) : String :=
  ":".intercalate (hwAddress.map fun byte => String.ofList (hexDigits byte))

/-- The fields that are set on a condition have the default where it fails. -/
def uniTag (service : Service) (profile : ServiceProfile) : SadisUniTag where
  serviceName := service.name
  isIgmpRequired := service.needsIgmp
  isDhcpRequired := service.needsDhcp
  isPppoeRequired := profile.needsPppoe
  technologyProfileId := profile.technologyProfileId
  upstreamBandwidthProfile := "User_Bandwidth1"
  downstreamBandwidthProfile := "User_Bandwidth2"
  enableMacLearning := profile.enableMacLearning
  ponCTag := service.cTag
  ponSTag := service.sTag
  uniTagMatch := if profile.uniTagMatch ≠ 0 then profile.uniTagMatch else 0
  configuredMacAddress := if profile.configureMacAddress then macText service.hwAddress else ""
  usPonCTagPriority := if service.usPonCTagPriority ≠ 0 then service.usPonCTagPriority else 0
  usPonSTagPriority := if service.usPonSTagPriority ≠ 0 then service.usPonSTagPriority else 0
  dsPonCTagPriority := if profile.dsPonCTagPriority ≠ 0 then profile.dsPonCTagPriority else 0
  dsPonSTagPriority := if profile.dsPonSTagPriority ≠ 0 then profile.dsPonSTagPriority else 0

namespace SadisServer

def getOltEntry (server : SadisServer) : SadisOltEntry where
  id := server.serialNumber
  hardwareIdentifier := server.deviceId
  ipAddress := server.ipAddress
  nasId := server.serialNumber
  uplinkPort := 16777216
  nniDhcpTrapVid := server.nniDhcpTrapVid

def uniTagList (server : SadisServer) (position : Position) (onu : Onu) (index : Nat) :
    List SadisUniTag :=
  ((onu.uniPorts[index]?.map UniPort.services).getD []).mapIdx fun number service =>
    uniTag service (server.profile ⟨position, index, number⟩)

/-- Nil where the text is no number or there is no such UNI. The number is an `uint64` until it is cut, so
0 stands for the greatest id. -/
def getOnuEntryV2 (server : SadisServer) (position : Position) (onu : Onu) (uniStr : String) :
    Option SadisOnuEntryV2 :=
  (parseUint 32 uniStr).bind fun uniId =>
    (onu.findUniById (UInt64.ofNat uniId - 1).toUInt32).map fun index =>
      { id := onu.sn ++ "-" ++ uniStr, uniTagList := server.uniTagList position onu index }

def port (server : SadisServer) : String := (split ':' server.sadisRestAddress).getLastD ""

def getSadisConfig (server : SadisServer) (version : String) : SadisConfig where
  integration :=
    ⟨"http://bbsim:" ++ server.port ++ "/" ++ version ++ "/subscribers/%s", false, 50, "PT0m"⟩
  entries := [.olt server.getOltEntry]
  bandwidthIntegration :=
    ⟨"http://bbsim:" ++ server.port ++ "/" ++ version ++ "/bandwidthprofiles/%s", true, 40, "PT1m"⟩
  bandwidthEntries := []

def onuEntries (server : SadisServer) : List SadisEntry :=
  server.olt.positions.flatMap fun position =>
    ((server.olt.onuAt position).map fun onu =>
      onu.uniPorts.map fun uni =>
        SadisEntry.onu (server.getOnuEntryV2 position onu (toString (uni.id + 1)))).getD []

def serveStaticConfig (server : SadisServer) (version : String) : Reply :=
  if version = "v1" then ⟨400, .message "api-v1-unsupported\n"⟩
  else
    let config := server.getSadisConfig version
    ⟨200, .config
      { config with
        integration := { config.integration with url := "" }
        entries := config.entries ++ if version = "v2" then server.onuEntries else []
        bandwidthIntegration := { config.bandwidthIntegration with url := "" }
        bandwidthEntries := bandwidthProfiles server.bandwidthProfileFormat }⟩

/-- A version that is not known gets an answer without a body. -/
def serveEntry (server : SadisServer) (version id : String) : Reply :=
  if server.serialNumber = id then ⟨200, .entry (.olt server.getOltEntry)⟩
  else match split '-' id with
    | [sn, uni] =>
      match server.olt.onuBySerialText sn with
      | none => ⟨404, .emptyObject⟩
      | some (position, onu) =>
        if version = "v1" then
          ⟨400, .message
            "\"Sadis v1 is not supported anymore, please go back to an earlier BBSim version\"\n"⟩
        -- the error of a missing entry is dropped
        else if version = "v2" then ⟨200, .entry (.onu (server.getOnuEntryV2 position onu uni))⟩
        else ⟨200, .nothing⟩
    | _ => ⟨422, .emptyObject⟩

/-- The first entry that the static configuration has for an id. -/
def staticEntry (server : SadisServer) (id : String) : Option SadisEntry :=
  match (server.serveStaticConfig "v2").body with
  | .config config => config.entries.find? fun entry => entry.id = some id
  | _ => none

structure Agrees (server : SadisServer) (id : String) : Prop where
  listed : ∀ entry, server.staticEntry id = some entry →
    server.serveEntry "v2" id = ⟨200, .entry entry⟩
  unlisted : server.staticEntry id = none →
    400 ≤ (server.serveEntry "v2" id).status ∧ (server.serveEntry "v2" id).body = .emptyObject

/-- The ONU and the text for the UNI that an id consists of. -/
def subscriber (server : SadisServer) (id : String) : Option (Position × Onu × String) :=
  match split '-' id with
  | [sn, uni] => (server.olt.onuBySerialText sn).map fun (position, onu) => (position, onu, uni)
  | _ => none

end SadisServer

private theorem eq_of_split {separator : Char} {text front back : String}
    (pair : split separator text = [front, back]) :
    text = front ++ String.singleton separator ++ back := by
  have parts : text.toList.splitOn separator = [front.toList, back.toList] := by
    have lists := congrArg (List.map String.toList) pair
    simpa [split, Function.comp_def] using lists
  have whole := @List.intercalate_splitOn _ text.toList _ _ separator
  rw [parts] at whole
  rw [← String.toList_inj, ← whole]
  simp [List.intercalate]

theorem split_of_separated {separator : Char} {front back : String} (inFront : separator ∉ front.toList)
    (inBack : separator ∉ back.toList) :
    split separator (front ++ String.singleton separator ++ back) = [front, back] := by
  have parts := @List.splitOn_intercalate _ [front.toList, back.toList] _ _ separator
    (by simp [inFront, inBack]) (List.cons_ne_nil _ _)
  have whole : (front ++ String.singleton separator ++ back).toList =
      [separator].intercalate [front.toList, back.toList] := by
    simp [List.intercalate]
  rw [split, whole, parts]
  simp

private theorem dash_not_mem_sn (onu : Onu) : '-' ∉ onu.sn.toList := by
  have digits : ∀ digit : Fin 16, Nat.digitChar digit ≠ '-' := by decide
  rw [Onu.sn, onuSnToString_toList, List.mem_append, not_or]
  refine ⟨by decide, fun member => ?_⟩
  obtain ⟨byte, -, member⟩ := List.mem_flatMap.mp member
  have bound := byte.toNat_lt
  rcases List.mem_cons.mp member with high | low
  · exact digits ⟨byte.toNat / 16, by omega⟩ high.symm
  · exact digits ⟨byte.toNat % 16, by omega⟩ (List.mem_singleton.mp low).symm

private theorem dash_not_mem_toString (id : UInt32) : '-' ∉ (toString id).toList := by
  intro member
  cases isDigit_of_mem_toString member

namespace SadisServer

variable {server : SadisServer} {position : Position} {onu : Onu} {id uni : String}

private theorem getOnuEntryV2_id {entry : SadisOnuEntryV2}
    (made : server.getOnuEntryV2 position onu uni = some entry) : entry.id = onu.sn ++ "-" ++ uni := by
  obtain ⟨number, -, found⟩ := Option.bind_eq_some_iff.mp made
  obtain ⟨index, -, rfl⟩ := Option.map_eq_some_iff.mp found
  rfl

/-- There is an entry for the number of a UNI as the list counts them. -/
theorem getOnuEntryV2_isSome (number : UInt32) :
    (server.getOnuEntryV2 position onu (toString number)).isSome = true ↔
      ∃ port ∈ onu.uniPorts, port.id + 1 = number := by
  have text : toString number = toString number.toNat := rfl
  have cut : (UInt64.ofNat number.toNat - 1).toUInt32 = number - 1 := by
    have bound := number.toNat_lt
    rw [← UInt32.toNat_inj, UInt64.toNat_toUInt32, UInt64.toNat_sub, UInt64.toNat_ofNat',
      UInt32.toNat_sub]
    change (2 ^ 64 - 1 + number.toNat % 2 ^ 64) % 2 ^ 64 % 2 ^ 32 = (2 ^ 32 - 1 + number.toNat) % 2 ^ 32
    omega
  rw [getOnuEntryV2, text, parseUint_toString number.toNat_lt, Option.bind_some, Option.isSome_map, cut,
    Onu.findUniById, List.findIdx?_isSome, List.any_eq_true]
  refine exists_congr fun port => and_congr_right fun _ => ?_
  rw [decide_eq_true_iff, eq_sub_iff_add_eq]

/-- The id of an entry of the list. -/
theorem id_of_own {port : UniPort} (member : port ∈ onu.uniPorts) :
    (SadisEntry.onu (server.getOnuEntryV2 position onu (toString (port.id + 1)))).id =
      some (onu.sn ++ "-" ++ toString (port.id + 1)) := by
  have made := (@getOnuEntryV2_isSome server position onu (port.id + 1)).mpr ⟨port, member, rfl⟩
  obtain ⟨entry, made⟩ := Option.isSome_iff_exists.mp made
  rw [made, SadisEntry.id, Option.map_some, getOnuEntryV2_id made]

theorem mem_onuEntries {entry : SadisEntry} : entry ∈ server.onuEntries ↔
    ∃ position onu, server.olt.onuAt position = some onu ∧ ∃ port ∈ onu.uniPorts,
      SadisEntry.onu (server.getOnuEntryV2 position onu (toString (port.id + 1))) = entry := by
  rw [onuEntries, List.mem_flatMap]
  constructor
  · rintro ⟨position, -, member⟩
    cases present : server.olt.onuAt position with
    | none => simp [present] at member
    | some onu =>
      rw [present, Option.map_some, Option.getD_some, List.mem_map] at member
      exact ⟨position, onu, present, member⟩
  · rintro ⟨position, onu, present, member⟩
    refine ⟨position, by simp [Olt.mem_positions_iff, present], ?_⟩
    rw [present, Option.map_some, Option.getD_some, List.mem_map]
    exact member

theorem staticEntry_eq_find? : server.staticEntry id =
    (.olt server.getOltEntry :: server.onuEntries).find? fun entry => entry.id = some id := by
  rw [staticEntry, serveStaticConfig, if_neg (by decide), if_pos rfl]
  rfl

theorem staticEntry_eq (differ : server.serialNumber ≠ id) :
    server.staticEntry id = server.onuEntries.find? fun entry => entry.id = some id := by
  rw [staticEntry_eq_find?, List.find?_cons_of_neg]
  simpa [SadisEntry.id, getOltEntry] using differ

private theorem staticEntry_serialNumber :
    server.staticEntry server.serialNumber = some (.olt server.getOltEntry) := by
  rw [staticEntry_eq_find?, List.find?_cons_of_pos]
  simp [SadisEntry.id, getOltEntry]

theorem split_own (onu : Onu) (number : UInt32) :
    split '-' (onu.sn ++ "-" ++ toString number) = [onu.sn, toString number] :=
  split_of_separated (dash_not_mem_sn onu) (dash_not_mem_toString number)

/-- What is known of a request that names an ONU. -/
theorem subscriber_eq_some_iff : server.subscriber id = some (position, onu, uni) ↔
    split '-' id = [onu.sn, uni] ∧ server.olt.onuBySerialText onu.sn = some (position, onu) := by
  unfold subscriber
  constructor
  · intro asked
    split at asked
    · next sn text parts =>
      obtain ⟨⟨place, holder⟩, found, same⟩ := Option.map_eq_some_iff.mp asked
      cases same
      obtain ⟨first, searched, there⟩ := Option.bind_eq_some_iff.mp found
      obtain ⟨here, held, pair⟩ := Option.map_eq_some_iff.mp there
      cases pair
      obtain ⟨twin, present, same⟩ := Olt.findOnuBySerialText_sound searched
      rw [held] at present
      cases present
      rw [same]
      exact ⟨parts, found⟩
    · cases asked
  · rintro ⟨parts, found⟩
    rw [parts]
    exact congrArg (Option.map fun pair : Position × Onu => (pair.1, pair.2, uni)) found

/-- An entry of the list is asked for by its id, though perhaps of another ONU with the serial number. -/
theorem subscriber_of_listed (present : server.olt.onuAt position = some onu) (number : UInt32) :
    ∃ first holder, server.subscriber (onu.sn ++ "-" ++ toString number) =
      some (first, holder, toString number) := by
  obtain ⟨first, found⟩ := Olt.findOnuBySerialText_complete present
  obtain ⟨holder, held, same⟩ := Olt.findOnuBySerialText_sound found
  refine ⟨first, holder, subscriber_eq_some_iff.mpr ⟨same ▸ split_own onu number, ?_⟩⟩
  rw [same, Olt.onuBySerialText, found, Option.bind_some, held, Option.map_some]

/-- Among the entries of an ONU the first with the id of a UNI is the one that is made for the text. -/
theorem find?_own (named : ∃ port ∈ onu.uniPorts, toString (port.id + 1) = uni) :
    ((onu.uniPorts.map fun port =>
      SadisEntry.onu (server.getOnuEntryV2 position onu (toString (port.id + 1)))).find?
        fun entry => entry.id = some (onu.sn ++ "-" ++ uni)) =
      some (.onu (server.getOnuEntryV2 position onu uni)) := by
  rw [List.find?_map]
  cases first : onu.uniPorts.find? _ with
  | none =>
    -- the UNI of the text would have been found
    obtain ⟨port, member, text⟩ := named
    have missed := List.find?_eq_none.mp first port member
    rw [Function.comp_apply, id_of_own member, text] at missed
    simp at missed
  | some port =>
    have member := List.mem_of_find?_eq_some first
    have same := List.find?_some first
    rw [Function.comp_apply, id_of_own member, decide_eq_true_iff, Option.some.injEq,
      String.append_right_inj] at same
    rw [Option.map_some, same]

/-- The entries of an ONU with another serial number have other ids. -/
theorem find?_other {stranger : Onu} {sn : String} (parts : split '-' id = [sn, uni])
    (other : stranger.sn ≠ sn) :
    ((stranger.uniPorts.map fun port =>
      SadisEntry.onu (server.getOnuEntryV2 position stranger (toString (port.id + 1)))).find?
        fun entry => entry.id = some id) = none := by
  rw [List.find?_eq_none]
  intro entry made same
  obtain ⟨port, ofPort, rfl⟩ := List.mem_map.mp made
  rw [id_of_own ofPort, decide_eq_true_iff, Option.some.injEq] at same
  have equal := split_own stranger (port.id + 1)
  rw [same, parts] at equal
  exact other (List.cons.inj equal).1.symm

/-- The first entry of the list with the id of a UNI is the one that is made for the request. -/
theorem find?_onuEntries (asked : server.subscriber id = some (position, onu, uni))
    (named : ∃ port ∈ onu.uniPorts, toString (port.id + 1) = uni) :
    (server.onuEntries.find? fun entry => entry.id = some id) =
      some (.onu (server.getOnuEntryV2 position onu uni)) := by
  obtain ⟨parts, found⟩ := subscriber_eq_some_iff.mp asked
  have present := Olt.onuAt_of_onuBySerialText found
  obtain ⟨place, searched, there⟩ := Option.bind_eq_some_iff.mp found
  obtain ⟨here, held, pair⟩ := Option.map_eq_some_iff.mp there
  cases pair
  obtain ⟨-, before, after, order, others⟩ := List.find?_eq_some_iff_append.mp searched
  rw [onuEntries, List.find?_flatMap, List.findSome?_eq_some_iff]
  refine ⟨before, position, after, order, ?_, fun other member => ?_⟩
  · rw [present, Option.map_some, Option.getD_some, eq_of_split parts]
    exact find?_own named
  · cases there : server.olt.onuAt other with
    | none => rfl
    | some stranger =>
      have differs := others other member
      simp only [there, Option.any_some, Bool.not_eq_true', decide_eq_false_iff_not] at differs
      exact find?_other parts differs

theorem serveEntry_of_subscriber (differ : server.serialNumber ≠ id)
    (asked : server.subscriber id = some (position, onu, uni)) :
    server.serveEntry "v2" id = ⟨200, .entry (.onu (server.getOnuEntryV2 position onu uni))⟩ := by
  obtain ⟨parts, found⟩ := subscriber_eq_some_iff.mp asked
  rw [serveEntry, if_neg differ, parts]
  dsimp only
  rw [found]
  dsimp only
  rw [if_neg (by decide), if_pos rfl]

theorem serveEntry_of_stranger (differ : server.serialNumber ≠ id) (asked : server.subscriber id = none) :
    400 ≤ (server.serveEntry "v2" id).status ∧ (server.serveEntry "v2" id).body = .emptyObject := by
  rw [serveEntry, if_neg differ]
  unfold subscriber at asked
  split
  · next sn text parts =>
    rw [parts] at asked
    have missing := Option.map_eq_none_iff.mp asked
    rw [missing]
    exact ⟨(by decide : 400 ≤ 404), rfl⟩
  · exact ⟨by decide, rfl⟩

/-- An id that names no ONU is not in the list. -/
theorem find?_of_stranger (asked : server.subscriber id = none) :
    (server.onuEntries.find? fun entry => entry.id = some id) = none := by
  rw [List.find?_eq_none]
  intro entry listed same
  obtain ⟨position, onu, present, port, member, rfl⟩ := mem_onuEntries.mp listed
  rw [id_of_own member, decide_eq_true_iff, Option.some.injEq] at same
  obtain ⟨first, holder, found⟩ := @subscriber_of_listed server position onu present (port.id + 1)
  rw [same, asked] at found
  cases found

/-- An id whose last part is not the number of a UNI as it is printed. -/
theorem not_agrees (differ : server.serialNumber ≠ id)
    (asked : server.subscriber id = some (position, onu, uni))
    (unnamed : ¬ ∃ port ∈ onu.uniPorts, toString (port.id + 1) = uni) : ¬ server.Agrees id := by
  intro agrees
  have served := serveEntry_of_subscriber differ asked
  cases found : server.staticEntry id with
  | none =>
    have error := (agrees.unlisted found).1
    rw [served] at error
    exact absurd error (by decide : ¬ 400 ≤ 200)
  | some entry =>
    -- then another ONU has the serial number, and there is no entry for this one
    have answer := agrees.listed entry found
    rw [staticEntry_eq differ] at found
    obtain ⟨place, holder, -, port, member, rfl⟩ := mem_onuEntries.mp (List.mem_of_find?_eq_some found)
    have same := List.find?_some found
    rw [id_of_own member, decide_eq_true_iff, Option.some.injEq] at same
    have parts := split_own holder (port.id + 1)
    rw [same, (subscriber_eq_some_iff.mp asked).1] at parts
    obtain ⟨-, rest⟩ := List.cons.inj parts
    obtain ⟨rfl, -⟩ := List.cons.inj rest
    have none : server.getOnuEntryV2 position onu (toString (port.id + 1)) = none := by
      rw [← Option.not_isSome_iff_eq_none, getOnuEntryV2_isSome]
      rintro ⟨own, ofOnu, number⟩
      exact unnamed ⟨own, ofOnu, congrArg toString number⟩
    have some := (@getOnuEntryV2_isSome server place holder (port.id + 1)).mpr ⟨port, member, rfl⟩
    rw [served, none] at answer
    cases made : server.getOnuEntryV2 place holder (toString (port.id + 1)) with
    | none => simp [made] at some
    | some entry => simp [made] at answer

/-- Looking an id up and finding it in the static configuration agree exactly if the id, where it names an
ONU, goes on with the number of one of its UNIs as it is printed. -/
theorem sadis_lookup_agrees_iff (server : SadisServer) (id : String) :
    server.Agrees id ↔ id = server.serialNumber ∨
      ∀ position onu uni, server.subscriber id = some (position, onu, uni) →
        ∃ port ∈ onu.uniPorts, toString (port.id + 1) = uni := by
  by_cases differ : server.serialNumber = id
  · refine iff_of_true ⟨fun entry found => ?_, fun missing => ?_⟩ (.inl differ.symm)
    · rw [← differ, staticEntry_serialNumber] at found
      rw [serveEntry, if_pos differ, Option.some.inj found]
    · rw [← differ, staticEntry_serialNumber] at missing
      cases missing
  · constructor
    · intro agrees
      refine .inr fun position onu uni asked => ?_
      by_contra unnamed
      exact not_agrees differ asked unnamed agrees
    · rintro (same | named)
      · exact absurd same.symm differ
      · cases asked : server.subscriber id with
        | none =>
          have missing := find?_of_stranger asked
          refine ⟨fun entry found => ?_, fun _ => serveEntry_of_stranger differ asked⟩
          rw [staticEntry_eq differ, missing] at found
          cases found
        | some request =>
          obtain ⟨position, onu, uni⟩ := request
          have found := find?_onuEntries asked (named position onu uni asked)
          rw [← staticEntry_eq differ] at found
          refine ⟨fun entry listed => ?_, fun missing => ?_⟩
          · rw [serveEntry_of_subscriber differ asked, Option.some.inj (found.symm.trans listed)]
          · rw [found] at missing
            cases missing

/-- A server for one ONU with one UNI. -/
def ofOneUni : SadisServer where
  olt := Olt.createdOlt
  serialNumber := "BBSIM_OLT_0"
  nniDhcpTrapVid := 0
  deviceId := "0a:0a:0a:0a:0a:00"
  ipAddress := "10.0.0.1"
  sadisRestAddress := ":50074"
  bandwidthProfileFormat := "mef"
  profile := fun _ => ⟨false, 64, false, 0, false, 0, 0⟩

/-- None of these is in the static configuration, and all are answered with success: three with `null`,
one with an entry. -/
theorem unknown_unis_answered :
    ["2", "0", "x", "01"].map (fun uni => ofOneUni.staticEntry ("BBSM00000001-" ++ uni)) =
        [none, none, none, none] ∧
      ["2", "0", "x", "01"].map (fun uni => ofOneUni.serveEntry "v2" ("BBSM00000001-" ++ uni)) =
        [⟨200, .entry (.onu none)⟩, ⟨200, .entry (.onu none)⟩, ⟨200, .entry (.onu none)⟩,
          ⟨200, .entry (.onu (some { id := "BBSM00000001-01", uniTagList := [] }))⟩] := by
  decide +kernel

end SadisServer

end Bbsim.Responders.Sadis
