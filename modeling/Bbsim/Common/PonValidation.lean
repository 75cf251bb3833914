import Bbsim.Foundation.CountedLoop
import Bbsim.Common.PonRanges

/-! The validation of PON configurations with its loops. The ids of a range are visited with a
counter of 32 bits up to an inclusive bound. A range up to the largest id would be visited without
end; the validation never comes to that, since there is no such port. -/

namespace Bbsim.Common

open Foundation PonPortsConfig

variable {State Error : Type}

/-- `for id := StartId; id <= EndId; id++`. -/
def IdRange.loop (range : IdRange) (fuel : Nat) (body : State → Nat → Except Error State)
    (state : State) : ExceptT Error Option State :=
  ExceptT.mk (countedLoop UInt32.size body range.endId.toNat fuel range.startId.toNat state)

theorem IdRange.loop_eq {range : IdRange} {fuel : Nat} {body : State → Nat → Except Error State}
    {state : State} (enough : UInt32.size < fuel)
    (ends : range.endId.toNat + 1 < UInt32.size ∨
      ∃ error, range.ids.foldlM body state = .error error) :
    range.loop fuel body state = ended (range.ids.foldlM body state) := by
  have inRange : range.endId.toNat < UInt32.size := range.endId.toNat_lt
  exact congrArg ExceptT.mk (countedLoop_eq_foldlM inRange (by omega) ends)

def runCheckRange (fuel number : Nat) (definedPorts : List Nat) (entry : PonRangeConfig × Nat) :
    ExceptT PonsFault Option (List Nat) := do
  let (range, index) := entry
  if ponTechnologyFromString range.technology = none then throw (.notATechnology range.technology)
  ended (checkLimits range.ponRange (.ponLimits index))
  let definedPorts ← range.ponRange.loop fuel (definePort number index) definedPorts
  ended (checkLimits range.onuRange (.onuLimits index))
  ended (checkLimits range.allocIdRange (.allocIdLimits index))
  ended (checkLimits range.gemportRange (.gemportLimits index))
  return definedPorts

/-- `validatePonsConfig` with the loops that it runs. -/
def runValidatePonsConfig (fuel : Nat) (pons : PonPortsConfig) : ExceptT PonsFault Option Unit := do
  let number := pons.number.toNat
  if number = 0 then throw .noPonPorts
  let definedPorts ← pons.ranges.zipIdx.foldlM (runCheckRange fuel number) (List.replicate number 0)
  match definedPorts.findIdx? (· < 1) with
  | some pon => throw (.ponUndefined pon)
  | none => return ()

/-- A port that is not there stops the loop. -/
theorem definePorts_error {number range pon : Nat} {pons definedPorts : List Nat} (member : pon ∈ pons)
    (larger : number - 1 < pon) :
    ∃ error, pons.foldlM (definePort number range) definedPorts = .error error := by
  have defined : Ensures (pons.foldlM (definePort number range) definedPorts) fun _ =>
      ∀ port ∈ pons, port ≤ number - 1 := by
    refine yields_foldlM (fun done _ => ∀ port ∈ done, port ≤ number - 1) nofun
      fun done item _ state _ small => ?_
    unfold definePort
    split
    · trivial
    · next inside =>
      have all : ∀ port ∈ done ++ [item], port ≤ number - 1 :=
        List.forall_mem_append.mpr ⟨small, List.forall_mem_singleton.mpr (by omega)⟩
      dsimp only
      split
      · trivial
      · exact all
  cases folded : pons.foldlM (definePort number range) definedPorts with
  | error error => exact ⟨error, rfl⟩
  | ok after => exact absurd (defined.value folded pon member) (Nat.not_le.mpr larger)

theorem runCheckRange_eq {fuel number : Nat} (enough : UInt32.size < fuel)
    (small : number < UInt32.size) (definedPorts : List Nat) (entry : PonRangeConfig × Nat) :
    runCheckRange fuel number definedPorts entry = ended (checkRange number definedPorts entry) := by
  obtain ⟨range, index⟩ := entry
  unfold runCheckRange checkRange
  dsimp only
  split
  · rfl
  · refine ended_bind fun _ limits => ?_
    have ordered := UInt32.le_iff_toNat_le.mp (yields_checkLimits.value limits)
    have visited : range.ponRange.loop fuel (definePort number index) definedPorts =
        ended (range.ponRange.ids.foldlM (definePort number index) definedPorts) := by
      refine IdRange.loop_eq enough ?_
      rcases Nat.lt_or_ge (range.ponRange.endId.toNat + 1) UInt32.size with ends | last
      · exact .inl ends
      · have member : range.ponRange.endId.toNat ∈ range.ponRange.ids :=
          (range.ponRange.mem_ids _).mpr (decide_eq_true ⟨ordered, le_rfl⟩)
        have many : 1 < UInt32.size := by decide
        exact .inr (definePorts_error member (by omega))
    rw [visited]
    refine ended_bind fun after _ => ?_
    refine ended_bind fun _ _ => ?_
    refine ended_bind fun _ _ => ?_
    exact ended_bind fun _ _ => rfl

/-- The validation comes to an end. -/
theorem runValidatePonsConfig_eq {fuel : Nat} (enough : UInt32.size < fuel) (pons : PonPortsConfig) :
    runValidatePonsConfig fuel pons = ended (validatePonsConfig pons) := by
  unfold runValidatePonsConfig validatePonsConfig
  dsimp only
  split
  · rfl
  · have checked := foldlM_eq_ended
      (fun entry (_ : entry ∈ pons.ranges.zipIdx) ports =>
        runCheckRange_eq enough pons.number.toNat_lt ports entry)
      (List.replicate pons.number.toNat 0)
    rw [checked]
    refine ended_bind fun after _ => ?_
    cases after.findIdx? fun counter => decide (counter < 1) <;> rfl

section

variable {pons : PonPortsConfig}

theorem getPonConfigById_of_valid (valid : pons.Valid) {id : Nat} (small : id < pons.number.toNat) :
    ∃ range ∈ pons.ranges, pons.getPonConfigById id = some range ∧
      range.ponRange.contains id = true ∧
      ∀ other ∈ pons.ranges, other.ponRange.contains id = true → other = range := by
  have once := valid.once id small
  cases found : pons.getPonConfigById id with
  | none =>
    rw [getPonConfigById_eq_none_iff, once] at found
    cases found
  | some range =>
    have inside := List.find?_some found
    have member := List.mem_of_find?_eq_some found
    refine ⟨range, member, rfl, inside, fun other listed contained => ?_⟩
    -- the one range of the filtered list is both
    rw [definitions, List.countP_eq_length_filter] at once
    obtain ⟨only, single⟩ := List.length_eq_one_iff.mp once
    have first : range ∈ [only] := single ▸ List.mem_filter.mpr ⟨member, inside⟩
    have second : other ∈ [only] := single ▸ List.mem_filter.mpr ⟨listed, contained⟩
    rw [List.mem_singleton.mp first, List.mem_singleton.mp second]

theorem getPonConfigById_beyond (valid : pons.Valid) {id : Nat} (large : pons.number.toNat ≤ id) :
    pons.getPonConfigById id = none :=
  (getPonConfigById_eq_none_iff pons id).mpr (valid.beyond id large)

end

inductive PoolType where
  | onuId
  | allocId
  | gemportId
deriving DecidableEq, Repr

structure Pool where
  type : PoolType
  start : UInt32
  last : UInt32
deriving DecidableEq

/-- `DeviceInfo_DeviceResourceRanges`. -/
structure DeviceResourceRanges where
  intfIds : List Nat
  technology : String
  pools : List Pool
deriving DecidableEq

def PonRangeConfig.pools (range : PonRangeConfig) : List Pool :=
  [⟨.onuId, range.onuRange.startId, range.onuRange.endId⟩,
    ⟨.allocId, range.allocIdRange.startId, range.allocIdRange.endId⟩,
    ⟨.gemportId, range.gemportRange.startId, range.gemportRange.endId⟩]

/-- One range in `GetDeviceInfo`; the loop over its ids cannot fail. -/
def PonRangeConfig.deviceRange (range : PonRangeConfig) (fuel : Nat) :
    ExceptT Empty Option DeviceResourceRanges := do
  let intfIds ← range.ponRange.loop fuel (fun ids id => .ok (ids ++ [id])) []
  return ⟨intfIds, range.technology, range.pools⟩

/-- The `Ranges` of `GetDeviceInfo`. -/
def PonPortsConfig.deviceRanges (pons : PonPortsConfig) (fuel : Nat) :
    ExceptT Empty Option (List DeviceResourceRanges) :=
  pons.ranges.mapM fun range => range.deviceRange fuel

private theorem foldlM_collect (ids listed : List Nat) :
    ids.foldlM (fun ids id => (.ok (ids ++ [id]) : Except Empty (List Nat))) listed =
      .ok (listed ++ ids) := by
  induction ids generalizing listed with
  | nil =>
    rw [List.append_nil]
    rfl
  | cons id rest ih =>
    rw [List.foldlM_cons]
    exact (ih (listed ++ [id])).trans (by rw [List.append_assoc, List.singleton_append])

theorem deviceRange_eq {range : PonRangeConfig} {fuel : Nat} (enough : UInt32.size < fuel)
    (small : range.ponRange.endId.toNat + 1 < UInt32.size) :
    range.deviceRange fuel = ended (.ok ⟨range.ponRange.ids, range.technology, range.pools⟩) := by
  rw [PonRangeConfig.deviceRange, IdRange.loop_eq enough (.inl small), foldlM_collect]
  rfl

/-- The ranges of an accepted configuration are listed with all their ids. -/
theorem deviceRanges_eq {pons : PonPortsConfig} {fuel : Nat} (enough : UInt32.size < fuel)
    (valid : pons.Valid) :
    pons.deviceRanges fuel = ended (.ok (pons.ranges.map fun range =>
      ⟨range.ponRange.ids, range.technology, range.pools⟩)) := by
  refine mapM_eq_ended fun range member => deviceRange_eq enough ?_
  have ordered := UInt32.le_iff_toNat_le.mp (valid.ponLimits range member)
  have inside : range.ponRange.contains range.ponRange.endId.toNat = true :=
    decide_eq_true ⟨ordered, le_rfl⟩
  have below := valid.within member inside
  have bounded : pons.number.toNat < UInt32.size := pons.number.toNat_lt
  omega

private theorem count_flatMap_ids (ranges : List PonRangeConfig) (id : Nat) :
    (ranges.flatMap fun range => range.ponRange.ids).count id = definitions ranges id := by
  induction ranges with
  | nil => rfl
  | cons range rest ih =>
    rw [List.flatMap_cons, List.count_append, ih, IdRange.count_ids, definitions_cons]

/-- The validation ends and accepts the valid configurations, the search by id finds the one range of
each port, and the device lists each port once. -/
structure PonPortsConfig.ValidatedExactly (pons : PonPortsConfig) (fuel : Nat) : Prop where
  ends : ∃ outcome, runValidatePonsConfig fuel pons = ended outcome
  accepts : runValidatePonsConfig fuel pons = ended (.ok ()) ↔ pons.Valid
  found : pons.Valid → ∀ id < pons.number.toNat, ∃ range ∈ pons.ranges,
    pons.getPonConfigById id = some range ∧ range.ponRange.contains id = true ∧
      ∀ other ∈ pons.ranges, other.ponRange.contains id = true → other = range
  missing : pons.Valid → ∀ id, pons.number.toNat ≤ id → pons.getPonConfigById id = none
  listed : pons.Valid → ∃ info, pons.deviceRanges fuel = ended (.ok info) ∧
    ∀ id, (info.flatMap DeviceResourceRanges.intfIds).count id =
      if id < pons.number.toNat then 1 else 0

/-- For every configuration, with fuel for the loops over 32 bits. -/
theorem pon_validation_exact (pons : PonPortsConfig) {fuel : Nat} (enough : UInt32.size < fuel) :
    pons.ValidatedExactly fuel where
  ends := ⟨_, runValidatePonsConfig_eq enough pons⟩
  accepts := by
    rw [← validatePonsConfig_eq_ok_iff, runValidatePonsConfig_eq enough]
    exact ⟨fun same => Option.some.inj same, congrArg ended⟩
  found := fun valid _ small => getPonConfigById_of_valid valid small
  missing := fun valid _ large => getPonConfigById_beyond valid large
  listed := by
    intro valid
    refine ⟨_, deviceRanges_eq enough valid, fun id => ?_⟩
    rw [List.flatMap_map, count_flatMap_ids]
    split
    · next small => exact valid.once id small
    · next large => exact valid.beyond id (Nat.not_lt.mp large)

/-- Two PONs in two ranges. -/
def twoRanges : PonPortsConfig where
  number := 2
  ranges := [⟨⟨1, 1⟩, "GPON", ⟨1, 32⟩, ⟨1024, 1055⟩, ⟨1024, 2047⟩⟩,
    ⟨⟨0, 0⟩, "XGS-PON", ⟨1, 64⟩, ⟨1024, 1087⟩, ⟨1024, 4095⟩⟩]

theorem twoRanges_validated : twoRanges.ValidatedExactly (UInt32.size + 1) ∧ twoRanges.Valid := by
  refine ⟨pon_validation_exact twoRanges (Nat.lt_succ_self _), ?_⟩
  rw [← validatePonsConfig_eq_ok_iff]
  exact eq_ok_of_toOption (by decide +kernel)

end Bbsim.Common
