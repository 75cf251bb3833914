import Bbsim.Omci.OnuMibDb

/-! Configuration. `LoadConfig`: the defaults, the YAML file over a copy of the defaults, and the
command line over another copy, merged in this order. A value that is zero or empty never replaces
another one. The parsing of files is not part of the model: a file is what its parser makes of it. -/

namespace Bbsim.Common

open Omci

/-- The fields of `OltConfig` that `CreateOLT` and the PON ranges read. -/
structure OltConfig where
  id : Int
  ponPorts : UInt32
  onusPonPort : UInt32
  uniPorts : UInt32
  potsPorts : UInt32
  omciResponseRate : UInt8
deriving DecidableEq

structure BBSimConfig where
  configFile : String
  serviceConfigFile : String
  ponsConfigFile : String
  enablePerf : Bool
  injectOmciUnknownMe : Bool
  injectOmciUnknownAttributes : Bool
deriving DecidableEq

structure GlobalConfig where
  bbSim : BBSimConfig
  olt : OltConfig
deriving DecidableEq

structure IdRange where
  startId : UInt32
  endId : UInt32
deriving DecidableEq

structure PonRangeConfig where
  ponRange : IdRange
  technology : String
  onuRange : IdRange
  allocIdRange : IdRange
  gemportRange : IdRange
deriving DecidableEq

structure PonPortsConfig where
  number : UInt32
  ranges : List PonRangeConfig
deriving DecidableEq

structure ServiceYaml where
  name : String
  cTag : Int64
  sTag : Int64
  needsEapol : Bool
  needsDhcp : Bool
  needsIgmp : Bool
  cTagAllocation : String
  sTagAllocation : String
  usPonCTagPriority : UInt8
  usPonSTagPriority : UInt8
deriving DecidableEq

def ponTechnologyFromString (technology : String) : Option PonTechnology :=
  if technology = "GPON" then some .gpon
  else if technology = "XGS-PON" then some .xgspon
  else none

/-- A file as `ReadFile` and `yaml.Unmarshal` leave it. -/
inductive Content (Value : Type) where
  | unreadable
  | malformed
  | parsed (value : Value)

/-- The keys that a configuration file has. -/
structure GlobalYaml where
  serviceConfigFile : Option String := none
  ponsConfigFile : Option String := none
  enablePerf : Option Bool := none
  injectOmciUnknownMe : Option Bool := none
  injectOmciUnknownAttributes : Option Bool := none
  id : Option Int := none
  ponPorts : Option UInt32 := none
  onusPonPort : Option UInt32 := none
  uniPorts : Option UInt32 := none
  potsPorts : Option UInt32 := none
  omciResponseRate : Option UInt8 := none

/-- A list of ranges replaces the default one as a whole. -/
structure PonsYaml where
  number : Option UInt32 := none
  ranges : Option (List PonRangeConfig) := none

structure Files where
  config : String → Content GlobalYaml
  /-- `none` is the nil slice of a file without services. -/
  services : String → Content (Option (List ServiceYaml))
  pons : String → Content PonsYaml

/-- The flags that are given. -/
structure CliParams where
  config : Option String := none
  services : Option String := none
  ponPortConfigFile : Option String := none
  bpFormat : Option String := none
  oltId : Option Int := none
  pon : Option Int := none
  onu : Option Int := none
  uni : Option Int := none
  pots : Option Int := none
  omciResponseRate : Option Int := none
  enablePerf : Option Bool := none
  injectOmciUnknownMe : Option Bool := none
  injectOmciUnknownAttributes : Option Bool := none

inductive PonsFault where
  | noPonPorts
  | notATechnology (technology : String)
  | ponLimits (range : Nat)
  | ponBeyond (pon range max : Nat)
  | ponDuplicate (pon range : Nat)
  | onuLimits (range : Nat)
  | allocIdLimits (range : Nat)
  | gemportLimits (range : Nat)
  | ponUndefined (pon : Nat)
deriving DecidableEq, Repr

def PonsFault.message : PonsFault → String
  | .noPonPorts => "no-pon-ports"
  | .notATechnology technology => s!"{technology}-is-not-a-valid-pon-technology"
  | .ponLimits range => s!"invalid-pon-ports-limits-in-range-{range}"
  | .ponBeyond pon range max => s!"pon-port-{pon}-in-range-{range}-but-max-is-{max}"
  | .ponDuplicate pon range => s!"pon-port-{pon}-has-duplicate-definition-in-range-{range}"
  | .onuLimits range => s!"invalid-onus-limits-in-range-{range}"
  | .allocIdLimits range => s!"invalid-allocid-limits-in-range-{range}"
  | .gemportLimits range => s!"invalid-gemport-limits-in-range-{range}"
  | .ponUndefined pon => s!"pon-port-{pon}-is-not-defined-in-ranges"

/-- How `LoadConfig` ends the program. -/
inductive LoadFault where
  | invalidBpFormat (format : String)
  | cantReadConfigFile
  | cantReadServicesFile
  | mandatoryTagAllocation
  | cTagAllocationNotValid (allocation : String)
  | cantLoadPonDefaults
  | cantReadPonsFile
  | invalidPons (fault : PonsFault)
deriving DecidableEq, Repr

def getDefaultOps : GlobalConfig where
  bbSim := {
    configFile := "configs/bbsim.yaml"
    serviceConfigFile := "configs/att-services.yaml"
    ponsConfigFile := ""
    enablePerf := false
    injectOmciUnknownMe := false
    injectOmciUnknownAttributes := false }
  olt := {
    id := 0
    ponPorts := 1
    onusPonPort := 1
    uniPorts := 4
    potsPorts := 0
    omciResponseRate := 10 }

/-- `yaml.Unmarshal` over a filled structure. -/
def unmarshal (config : GlobalConfig) (yaml : GlobalYaml) : GlobalConfig where
  bbSim := { config.bbSim with
    serviceConfigFile := yaml.serviceConfigFile.getD config.bbSim.serviceConfigFile
    ponsConfigFile := yaml.ponsConfigFile.getD config.bbSim.ponsConfigFile
    enablePerf := yaml.enablePerf.getD config.bbSim.enablePerf
    injectOmciUnknownMe := yaml.injectOmciUnknownMe.getD config.bbSim.injectOmciUnknownMe
    injectOmciUnknownAttributes :=
      yaml.injectOmciUnknownAttributes.getD config.bbSim.injectOmciUnknownAttributes }
  olt := {
    id := yaml.id.getD config.olt.id
    ponPorts := yaml.ponPorts.getD config.olt.ponPorts
    onusPonPort := yaml.onusPonPort.getD config.olt.onusPonPort
    uniPorts := yaml.uniPorts.getD config.olt.uniPorts
    potsPorts := yaml.potsPorts.getD config.olt.potsPorts
    omciResponseRate := yaml.omciResponseRate.getD config.olt.omciResponseRate }

/-- `mergo.WithOverride` on one field. -/
def override {Value : Type} [DecidableEq Value] (zero dst src : Value) : Value :=
  if src = zero then dst else src

def OltConfig.merge (dst src : OltConfig) : OltConfig where
  id := override 0 dst.id src.id
  ponPorts := override 0 dst.ponPorts src.ponPorts
  onusPonPort := override 0 dst.onusPonPort src.onusPonPort
  uniPorts := override 0 dst.uniPorts src.uniPorts
  potsPorts := override 0 dst.potsPorts src.potsPorts
  omciResponseRate := override 0 dst.omciResponseRate src.omciResponseRate

def BBSimConfig.merge (dst src : BBSimConfig) : BBSimConfig where
  configFile := override "" dst.configFile src.configFile
  serviceConfigFile := override "" dst.serviceConfigFile src.serviceConfigFile
  ponsConfigFile := override "" dst.ponsConfigFile src.ponsConfigFile
  enablePerf := override false dst.enablePerf src.enablePerf
  injectOmciUnknownMe := override false dst.injectOmciUnknownMe src.injectOmciUnknownMe
  injectOmciUnknownAttributes :=
    override false dst.injectOmciUnknownAttributes src.injectOmciUnknownAttributes

def GlobalConfig.merge (dst src : GlobalConfig) : GlobalConfig :=
  ⟨dst.bbSim.merge src.bbSim, dst.olt.merge src.olt⟩

def readCliParams (cli : CliParams) : Except LoadFault GlobalConfig :=
  let conf := getDefaultOps
  let format := cli.bpFormat.getD "mef"
  if format ≠ "mef" ∧ format ≠ "ietf" then .error (.invalidBpFormat format)
  else .ok {
    bbSim := {
      configFile := cli.config.getD conf.bbSim.configFile
      serviceConfigFile := cli.services.getD conf.bbSim.serviceConfigFile
      ponsConfigFile := cli.ponPortConfigFile.getD conf.bbSim.ponsConfigFile
      enablePerf := cli.enablePerf.getD conf.bbSim.enablePerf
      injectOmciUnknownMe := cli.injectOmciUnknownMe.getD conf.bbSim.injectOmciUnknownMe
      injectOmciUnknownAttributes :=
        cli.injectOmciUnknownAttributes.getD conf.bbSim.injectOmciUnknownAttributes }
    olt := {
      id := cli.oltId.getD conf.olt.id
      ponPorts := UInt32.ofInt (cli.pon.getD conf.olt.ponPorts.toNat)
      onusPonPort := UInt32.ofInt (cli.onu.getD conf.olt.onusPonPort.toNat)
      uniPorts := UInt32.ofInt (cli.uni.getD conf.olt.uniPorts.toNat)
      potsPorts := UInt32.ofInt (cli.pots.getD conf.olt.potsPorts.toNat)
      omciResponseRate := UInt8.ofInt (cli.omciResponseRate.getD conf.olt.omciResponseRate.toNat) } }

/-- A file that cannot be read leaves the defaults. -/
def loadBBSimConf : Content GlobalYaml → Except LoadFault GlobalConfig
  | .unreadable => .ok getDefaultOps
  | .malformed => .error .cantReadConfigFile
  | .parsed yaml => .ok (unmarshal getDefaultOps yaml)

/-- `unicode.IsSpace`. -/
def isSpace (char : Char) : Bool :=
  char ∈ ['\t', '\n', Char.ofNat 0x0b, Char.ofNat 0x0c, '\r', ' ', Char.ofNat 0x85, Char.ofNat 0xa0,
    Char.ofNat 0x1680, Char.ofNat 0x2028, Char.ofNat 0x2029, Char.ofNat 0x202f, Char.ofNat 0x205f,
    Char.ofNat 0x3000] ∨ (0x2000 ≤ char.toNat ∧ char.toNat ≤ 0x200a)

def trimSpace (text : String) : String :=
  String.ofList (((text.toList.dropWhile isSpace).reverse.dropWhile isSpace).reverse)

def tagAllocationValues : List String := ["unknown", "shared", "unique"]

inductive TagAllocation where
  | unknown
  | shared
  | unique
deriving DecidableEq, Repr

def TagAllocation.string : TagAllocation → String
  | .unknown => "unknown"
  | .shared => "shared"
  | .unique => "unique"

def tagAllocationFromString (allocation : String) : Option TagAllocation :=
  [TagAllocation.unknown, .shared, .unique].find? fun value => trimSpace allocation = value.string

theorem isSome_tagAllocationFromString (allocation : String) :
    (tagAllocationFromString allocation).isSome = true ↔ trimSpace allocation ∈ tagAllocationValues := by
  simp only [tagAllocationFromString, List.find?_isSome, decide_eq_true_eq]
  simp [tagAllocationValues, TagAllocation.string]

def checkService (service : ServiceYaml) : Except LoadFault Unit :=
  if service.cTagAllocation = "" ∨ service.sTagAllocation = "" then .error .mandatoryTagAllocation
  else if trimSpace service.cTagAllocation ∈ tagAllocationValues then .ok ()
  -- only the allocation of C-tags is looked at
  else .error (.cTagAllocationNotValid service.cTagAllocation)

def loadBBSimServices :
    Content (Option (List ServiceYaml)) → Except LoadFault (Option (List ServiceYaml))
  | .unreadable | .malformed => .error .cantReadServicesFile
  | .parsed services => ((services.getD []).forM checkService).map fun _ => services

def defaultOnuIdStart : UInt32 := 1
def defaultAllocIdStart : UInt32 := 1024
def defaultGemPortIdPerAllocId : UInt32 := 8
def defaultGemportIdStart : UInt32 := 1024

/-- One range for all PONs; `none` if there are no services to count. -/
def getDefaultPonsConfig (config : OltConfig) (services : Option (List ServiceYaml)) :
    Option PonPortsConfig :=
  services.map fun services =>
    let allocIdPerOnu := config.uniPorts * UInt32.ofNat services.length
    { number := config.ponPorts
      ranges := [{
        ponRange := ⟨0, config.ponPorts - 1⟩
        technology := "XGS-PON"
        onuRange := ⟨defaultOnuIdStart, defaultOnuIdStart + (config.onusPonPort - 1)⟩
        allocIdRange :=
          ⟨defaultAllocIdStart, defaultAllocIdStart + config.onusPonPort * allocIdPerOnu⟩
        gemportRange :=
          ⟨defaultGemportIdStart, defaultGemportIdStart +
            config.onusPonPort * allocIdPerOnu * defaultGemPortIdPerAllocId⟩ }] }

/-- The file over the defaults. -/
def loadBBSimPons (defaults : PonPortsConfig) : Content PonsYaml → Except LoadFault PonPortsConfig
  | .unreadable => .ok defaults
  | .malformed => .error .cantReadPonsFile
  | .parsed yaml => .ok ⟨yaml.number.getD defaults.number, yaml.ranges.getD defaults.ranges⟩

/-- The ids that a loop from `StartId` to `EndId` visits. The loop variable has 32 bits: where the loop
does not end before, `EndId` is less than the largest value. -/
def IdRange.ids (range : IdRange) : List Nat :=
  List.range' range.startId.toNat (range.endId.toNat + 1 - range.startId.toNat)

def IdRange.contains (range : IdRange) (id : Nat) : Bool :=
  range.startId.toNat ≤ id ∧ id ≤ range.endId.toNat

/-- `definedPorts` has a counter for each port. -/
def definePort (number range : Nat) (definedPorts : List Nat) (pon : Nat) :
    Except PonsFault (List Nat) :=
  if pon > number - 1 then .error (.ponBeyond pon range (number - 1))
  else
    let definedPorts := definedPorts.modify pon (· + 1)
    if definedPorts[pon]?.getD 0 > 1 then .error (.ponDuplicate pon range) else .ok definedPorts

def checkLimits (range : IdRange) (fault : PonsFault) : Except PonsFault Unit :=
  if range.endId < range.startId then .error fault else .ok ()

def checkRange (number : Nat) (definedPorts : List Nat) (entry : PonRangeConfig × Nat) :
    Except PonsFault (List Nat) := do
  let (range, index) := entry
  if ponTechnologyFromString range.technology = none then throw (.notATechnology range.technology)
  checkLimits range.ponRange (.ponLimits index)
  let definedPorts ← range.ponRange.ids.foldlM (definePort number index) definedPorts
  checkLimits range.onuRange (.onuLimits index)
  checkLimits range.allocIdRange (.allocIdLimits index)
  checkLimits range.gemportRange (.gemportLimits index)
  return definedPorts

def validatePonsConfig (pons : PonPortsConfig) : Except PonsFault Unit := do
  let number := pons.number.toNat
  if number = 0 then throw .noPonPorts
  let definedPorts ← pons.ranges.zipIdx.foldlM (checkRange number) (List.replicate number 0)
  match definedPorts.findIdx? (· < 1) with
  | some pon => throw (.ponUndefined pon)
  | none => return ()

structure Loaded where
  config : GlobalConfig
  services : List ServiceYaml
  pons : PonPortsConfig
deriving DecidableEq

/-- The configuration: defaults, then YAML, then the command line. -/
def mergeConfigs (cli : CliParams) (files : Files) : Except LoadFault GlobalConfig := do
  let cliConf ← readCliParams cli
  let yamlConf ← loadBBSimConf (files.config cliConf.bbSim.configFile)
  return (getDefaultOps.merge yamlConf).merge cliConf

def loadPons (config : GlobalConfig) (services : Option (List ServiceYaml)) (files : Files) :
    Except LoadFault PonPortsConfig :=
  match getDefaultPonsConfig config.olt services with
  | none =>
    .error (if config.bbSim.ponsConfigFile = "" then .cantLoadPonDefaults else .cantReadPonsFile)
  | some defaults =>
    if config.bbSim.ponsConfigFile = "" then .ok defaults
    else loadBBSimPons defaults (files.pons config.bbSim.ponsConfigFile)

def loadConfig (cli : CliParams) (files : Files) : Except LoadFault Loaded := do
  let config ← mergeConfigs cli files
  let services ← loadBBSimServices (files.services config.bbSim.serviceConfigFile)
  let pons ← loadPons config services files
  match validatePonsConfig pons with
  | .error fault => throw (.invalidPons fault)
  | .ok () => return ⟨config, services.getD [], pons⟩

/-- `GetPonConfigById`. -/
def PonPortsConfig.getPonConfigById (pons : PonPortsConfig) (id : Nat) : Option PonRangeConfig :=
  pons.ranges.find? fun range => range.ponRange.contains id

end Bbsim.Common
