import Bbsim.Foundation.Outcome
import Bbsim.Common.Options

/-! What the validation of PON ranges accepts. The ports from 0 to `Number - 1` are each in one
range, and no range has another port. -/

namespace Bbsim.Common

theorem IdRange.mem_ids (range : IdRange) (id : Nat) :
    id ∈ range.ids ↔ range.contains id = true := by
  simp only [ids, contains, List.mem_range'_1, decide_eq_true_eq]
  omega

theorem IdRange.count_ids (range : IdRange) (id : Nat) :
    range.ids.count id = if range.contains id then 1 else 0 := by
  have distinct : range.ids.Nodup := List.nodup_range'
  rw [distinct.count]
  simp only [mem_ids]

namespace PonPortsConfig

/-- How many ranges have the port. -/
def definitions (ranges : List PonRangeConfig) (pon : Nat) : Nat :=
  ranges.countP fun range => range.ponRange.contains pon

end PonPortsConfig

open Foundation PonPortsConfig

/-- The counters of the ports after some definitions. -/
structure Counted (number : Nat) (definedPorts : List Nat) (count : Nat → Nat) : Prop where
  length : definedPorts.length = number
  counters : ∀ pon < number, definedPorts[pon]? = some (count pon)
  once : ∀ pon, count pon ≤ 1
  beyond : ∀ pon, number ≤ pon → count pon = 0

variable {definedPorts : List Nat} {number : Nat}

theorem Counted.congr {count other : Nat → Nat} (counted : Counted number definedPorts count)
    (same : ∀ pon, other pon = count pon) :
    Counted number definedPorts other := by
  obtain rfl : other = count := funext same
  exact counted

variable {count : Nat → Nat}

private theorem yields_definePort {number range pon : Nat} (positive : 0 < number)
    (counted : Counted number definedPorts count) :
    Yields (definePort number range definedPorts pon) (fun _ => number ≤ pon ∨ 1 ≤ count pon)
      fun after => Counted number after fun port => count port + if port = pon then 1 else 0 := by
  unfold definePort
  split
  · next larger => exact .inl (by omega)
  · next inside =>
    have inside : pon < number := by omega
    have own : (definedPorts.modify pon (· + 1))[pon]? = some (count pon + 1) := by
      rw [List.getElem?_modify_eq, counted.counters pon inside]
      rfl
    dsimp only
    split
    · next twice =>
      rw [own, Option.getD_some] at twice
      exact .inr (by omega)
    · next single =>
      rw [own] at single
      refine ⟨by rw [List.length_modify, counted.length], ?_, ?_, ?_⟩
      · intro port smaller
        by_cases same : port = pon
        · rw [if_pos same, same, own]
        · rw [if_neg same, List.getElem?_modify_ne _ _ (Ne.symm same), counted.counters port smaller]
          rfl
      · intro port
        by_cases same : port = pon
        · rw [if_pos same, same]
          simpa using single
        · rw [if_neg same]
          exact counted.once port
      · intro port larger
        rw [if_neg (by omega), counted.beyond port larger]

/-- The loop over ports fails only at a port that is not there or that is counted twice. -/
theorem yields_definePorts {number range : Nat} (positive : 0 < number)
    (counted : Counted number definedPorts count) (pons : List Nat) :
    Yields (pons.foldlM (definePort number range) definedPorts)
      (fun _ => (∃ pon ∈ pons, number ≤ pon) ∨ ∃ pon, 2 ≤ count pon + pons.count pon)
      fun after => Counted number after fun port => count port + pons.count port := by
  refine yields_foldlM (fun done after => Counted number after fun port => count port + done.count port)
    (by simpa using counted) fun done pon rest state whole counted => ?_
  refine ((yields_definePort positive counted).monoError ?_).mono fun after counted =>
    counted.congr fun port => ?_
  · rintro _ (larger | counted)
    · exact .inl ⟨pon, by simp [whole], larger⟩
    · refine .inr ⟨pon, ?_⟩
      rw [whole, List.count_append, List.count_cons_self]
      omega
  · rw [List.count_append, List.count_singleton]
    by_cases same : port = pon
    · simp [same, Nat.add_assoc]
    · simp [same, Ne.symm same]

theorem yields_checkLimits {range : IdRange} {fault : PonsFault} :
    Yields (checkLimits range fault) (fun _ => ¬ range.startId ≤ range.endId)
      fun _ => range.startId ≤ range.endId := by
  unfold checkLimits
  split
  · next inverted => exact UInt32.not_le.mpr inverted
  · next ordered => exact UInt32.not_lt.mp ordered

/-- What the validation asks of a range besides its ports. -/
structure PonRangeConfig.WellFormed (range : PonRangeConfig) : Prop where
  technology : ponTechnologyFromString range.technology ≠ none
  onus : range.onuRange.startId ≤ range.onuRange.endId
  allocIds : range.allocIdRange.startId ≤ range.allocIdRange.endId
  gemports : range.gemportRange.startId ≤ range.gemportRange.endId

/-- The limits of the PONs are in order as well. -/
def PonRangeConfig.Ordered (range : PonRangeConfig) : Prop :=
  range.WellFormed ∧ range.ponRange.startId ≤ range.ponRange.endId

/-- A range is refused for what it is, or for a port that is not there or is counted twice. -/
theorem yields_checkRange {entry : PonRangeConfig × Nat} (positive : 0 < number)
    (counted : Counted number definedPorts count) :
    Yields (checkRange number definedPorts entry)
      (fun _ => entry.1.Ordered → (∃ pon, entry.1.ponRange.contains pon = true ∧ number ≤ pon) ∨
        ∃ pon, 2 ≤ count pon + if entry.1.ponRange.contains pon then 1 else 0)
      fun after => entry.1.Ordered ∧
        Counted number after fun port => count port + if entry.1.ponRange.contains port then 1 else 0 := by
  unfold checkRange
  dsimp only
  split
  · next unknown => exact fun ordered => absurd unknown ordered.1.technology
  · next technology =>
    simp only [yields_bind, yields_pure]
    refine (yields_checkLimits.monoError fun _ inverted ordered => absurd ordered.2 inverted).mono
      fun _ pons => ?_
    refine ((yields_definePorts positive counted _).monoError ?_).mono fun after counted => ?_
    · rintro _ refused -
      simpa only [IdRange.mem_ids, IdRange.count_ids] using refused
    refine (yields_checkLimits.monoError fun _ inverted ordered => absurd ordered.1.onus inverted).mono
      fun _ onus => ?_
    refine (yields_checkLimits.monoError fun _ inverted ordered => absurd ordered.1.allocIds inverted).mono
      fun _ allocIds => ?_
    refine (yields_checkLimits.monoError fun _ inverted ordered => absurd ordered.1.gemports inverted).mono
      fun _ gemports => ?_
    refine ⟨⟨⟨technology, onus, allocIds, gemports⟩, pons⟩, counted.congr fun port => ?_⟩
    rw [IdRange.count_ids]

/-- Each port is in one range, and the ranges have no other ports. -/
structure PonPortsConfig.Partitioned (pons : PonPortsConfig) : Prop where
  positive : 0 < pons.number.toNat
  wellFormed : ∀ range ∈ pons.ranges, range.WellFormed
  once : ∀ pon < pons.number.toNat, definitions pons.ranges pon = 1
  beyond : ∀ pon, pons.number.toNat ≤ pon → definitions pons.ranges pon = 0

/-- A partition into ranges with their limits in order. -/
structure PonPortsConfig.Valid (pons : PonPortsConfig) : Prop extends pons.Partitioned where
  ponLimits : ∀ range ∈ pons.ranges, range.ponRange.startId ≤ range.ponRange.endId

variable {pons : PonPortsConfig} {range : PonRangeConfig}

theorem PonPortsConfig.Valid.ordered (valid : pons.Valid) (member : range ∈ pons.ranges) :
    range.Ordered :=
  ⟨valid.wellFormed range member, valid.ponLimits range member⟩

private theorem definitions_append (ranges others : List PonRangeConfig) (pon : Nat) :
    definitions (ranges ++ others) pon = definitions ranges pon + definitions others pon :=
  List.countP_append

theorem definitions_cons (range : PonRangeConfig) (ranges : List PonRangeConfig) (pon : Nat) :
    definitions (range :: ranges) pon =
      (if range.ponRange.contains pon then 1 else 0) + definitions ranges pon := by
  rw [definitions, List.countP_cons, definitions, Nat.add_comm]

/-- No range of a valid configuration has a port that is not there. -/
theorem PonPortsConfig.Valid.within (valid : pons.Valid) (member : range ∈ pons.ranges)
    {pon : Nat} (inside : range.ponRange.contains pon = true) : pon < pons.number.toNat := by
  by_contra larger
  have none := valid.beyond pon (Nat.not_lt.mp larger)
  rw [definitions, List.countP_eq_zero] at none
  exact none range member inside

theorem PonPortsConfig.Valid.definitions_le (valid : pons.Valid) (pon : Nat) :
    definitions pons.ranges pon ≤ 1 := by
  rcases Nat.lt_or_ge pon pons.number.toNat with smaller | larger
  · rw [valid.once pon smaller]
  · rw [valid.beyond pon larger]
    exact Nat.zero_le 1

/-- The loop over ranges fails only on a configuration that is not valid. -/
theorem yields_checkRanges (positive : 0 < pons.number.toNat) :
    Yields (pons.ranges.zipIdx.foldlM (checkRange pons.number.toNat)
      (List.replicate pons.number.toNat 0)) (fun _ => ¬ pons.Valid) fun after =>
      (∀ range ∈ pons.ranges, range.Ordered) ∧
        Counted pons.number.toNat after (definitions pons.ranges) := by
  suffices all : Yields (pons.ranges.zipIdx.foldlM (checkRange pons.number.toNat)
      (List.replicate pons.number.toNat 0)) (fun _ => ¬ pons.Valid) fun after =>
      (∀ entry ∈ pons.ranges.zipIdx, entry.1.Ordered) ∧
        Counted pons.number.toNat after (definitions (pons.ranges.zipIdx.map Prod.fst)) by
    refine all.mono ?_
    rintro after ⟨ordered, counted⟩
    rw [List.zipIdx_map_fst] at counted
    refine ⟨fun range member => ?_, counted⟩
    obtain ⟨index, present⟩ := List.mem_iff_getElem?.mp member
    exact ordered (range, index) (List.mem_zipIdx_iff_getElem?.mpr present)
  refine yields_foldlM (fun done after => (∀ entry ∈ done, entry.1.Ordered) ∧
    Counted pons.number.toNat after (definitions (done.map Prod.fst)))
    ⟨fun _ member => absurd member List.not_mem_nil, List.length_replicate, ?_,
      fun _ => Nat.zero_le _, fun _ _ => rfl⟩ ?_
  · intro pon smaller
    rw [List.getElem?_replicate, if_pos smaller]
    rfl
  · rintro done entry rest state whole ⟨ordered, counted⟩
    have split : pons.ranges = done.map Prod.fst ++ entry.1 :: rest.map Prod.fst := by
      rw [← List.zipIdx_map_fst 0 pons.ranges, whole, List.map_append, List.map_cons]
    refine ((yields_checkRange positive counted).monoError ?_).mono ?_
    · intro _ refused valid
      have member : entry.1 ∈ pons.ranges := by simp [split]
      rcases refused (valid.ordered member) with ⟨pon, inside, larger⟩ | ⟨pon, twice⟩
      · exact absurd (valid.within member inside) (Nat.not_lt.mpr larger)
      · have single := valid.definitions_le pon
        rw [split, definitions_append, definitions_cons] at single
        omega
    · rintro after ⟨formed, counted⟩
      refine ⟨?_, counted.congr fun port => ?_⟩
      · exact List.forall_mem_append.mpr ⟨ordered, List.forall_mem_singleton.mpr formed⟩
      · rw [List.map_append, definitions_append, List.map_singleton, definitions_cons]
        rfl

/-- The validation accepts exactly the valid configurations. -/
theorem validatePonsConfig_eq_ok_iff (pons : PonPortsConfig) :
    validatePonsConfig pons = .ok () ↔ pons.Valid := by
  suffices exact : Yields (validatePonsConfig pons) (fun _ => ¬ pons.Valid) fun _ => pons.Valid by
    refine ⟨exact.value, fun valid => ?_⟩
    cases returned : validatePonsConfig pons with
    | error fault => exact absurd valid (exact.error returned)
    | ok _ => rfl
  unfold validatePonsConfig
  dsimp only
  split
  · next zero =>
    intro valid
    have positive := valid.positive
    omega
  · next nonzero =>
    have positive : 0 < pons.number.toNat := Nat.pos_of_ne_zero nonzero
    simp only [yields_bind]
    refine (yields_checkRanges positive).mono ?_
    rintro after ⟨ordered, counted⟩
    split
    · next pon undefined =>
      intro valid
      obtain ⟨inside, small, -⟩ := List.findIdx?_eq_some_iff_getElem.mp undefined
      have smaller : pon < pons.number.toNat := counted.length ▸ inside
      have counter := counted.counters pon smaller
      rw [List.getElem?_eq_getElem inside, valid.once pon smaller] at counter
      rw [Option.some.inj counter] at small
      cases small
    · next all =>
      refine ⟨⟨positive, fun range member => (ordered range member).1, fun pon smaller => ?_,
        counted.beyond⟩, fun range member => (ordered range member).2⟩
      have counter := counted.counters pon smaller
      have defined := List.findIdx?_eq_none_iff.mp all _ (List.mem_of_getElem? counter)
      have single := counted.once pon
      simp only [decide_eq_false_iff_not, Nat.not_lt] at defined
      omega

theorem getPonConfigById_eq_none_iff (pons : PonPortsConfig) (pon : Nat) :
    pons.getPonConfigById pon = none ↔ definitions pons.ranges pon = 0 := by
  rw [getPonConfigById, List.find?_eq_none, definitions, List.countP_eq_zero]

private theorem override_ne_zero {Value : Type} [DecidableEq Value] {zero dst src : Value}
    (set : dst ≠ zero) : override zero dst src ≠ zero := by
  unfold override
  split
  · exact set
  · assumption

/-- What a merge of configurations never loses. -/
structure OltConfig.Populated (config : OltConfig) : Prop where
  ponPorts : config.ponPorts ≠ 0
  onusPonPort : config.onusPonPort ≠ 0
  uniPorts : config.uniPorts ≠ 0

variable {config : OltConfig}

theorem OltConfig.Populated.positive (populated : config.Populated) :
    0 < config.ponPorts.toNat ∧ 0 < config.onusPonPort.toNat ∧ 0 < config.uniPorts.toNat := by
  have positive : ∀ count : UInt32, count ≠ 0 → 0 < count.toNat :=
    fun count nonzero => Nat.pos_of_ne_zero fun none => nonzero (UInt32.toNat_inj.mp none)
  exact ⟨positive _ populated.ponPorts, positive _ populated.onusPonPort, positive _ populated.uniPorts⟩

theorem OltConfig.Populated.merge (populated : config.Populated) (other : OltConfig) :
    (config.merge other).Populated :=
  ⟨override_ne_zero populated.ponPorts, override_ne_zero populated.onusPonPort,
    override_ne_zero populated.uniPorts⟩

variable {cli : CliParams} {files : Files}

private theorem mergeConfigs_populated {config : GlobalConfig}
    (merged : mergeConfigs cli files = .ok config) : config.olt.Populated := by
  suffices ensured : Ensures (mergeConfigs cli files) fun config => config.olt.Populated from
    ensured.value merged
  have defaults : getDefaultOps.olt.Populated := ⟨by decide, by decide, by decide⟩
  unfold mergeConfigs
  rw [Ensures, yields_bind]
  cases readCliParams cli with
  | error fault => trivial
  | ok cliConf =>
    rw [yields_ok, yields_bind]
    cases loadBBSimConf (files.config cliConf.bbSim.configFile) with
    | error fault => trivial
    | ok yamlConf => exact (defaults.merge yamlConf.olt).merge cliConf.olt

/-- What an accepted configuration is. -/
structure Loaded.Accepted (loaded : Loaded) : Prop where
  populated : loaded.config.olt.Populated
  partitioned : loaded.pons.Partitioned

theorem loadConfig_accepted {loaded : Loaded} (accepted : loadConfig cli files = .ok loaded) :
    loaded.Accepted := by
  suffices ensured : Ensures (loadConfig cli files) Loaded.Accepted from ensured.value accepted
  unfold loadConfig
  rw [Ensures, yields_bind]
  cases merged : mergeConfigs cli files with
  | error fault => trivial
  | ok config =>
    rw [yields_ok, yields_bind]
    cases loadBBSimServices (files.services config.bbSim.serviceConfigFile) with
    | error fault => trivial
    | ok services =>
      rw [yields_ok, yields_bind]
      cases loadPons config services files with
      | error fault => trivial
      | ok pons =>
        rw [yields_ok]
        cases valid : validatePonsConfig pons with
        | error fault => trivial
        | ok _ =>
          exact ⟨mergeConfigs_populated merged,
            ((validatePonsConfig_eq_ok_iff pons).mp valid).toPartitioned⟩

end Bbsim.Common
