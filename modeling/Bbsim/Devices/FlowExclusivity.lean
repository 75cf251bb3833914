import Bbsim.Devices.FlowResources

/-! Exclusive GEM ports and alloc ids. The check and the stores of a `FlowAdd` are separate lock
sections. Ids stay exclusive in every run in which no two flows that compete for an id are between
check and store at the same time. -/

namespace Bbsim.Devices

open Foundation ResourceIds

/-- Two flows for different ONUs of one PON that share a GEM port or an alloc id. -/
def Competing (flow other : Flow) : Prop :=
  flow.ponId = other.ponId ∧ flow.onuIndex ≠ other.onuIndex ∧
    ((∃ gem ∈ flow.gemPorts, gem ∈ other.gemPorts) ∨ flow.allocId = other.allocId)

variable {flow other : Flow}

theorem Competing.symm (competing : Competing flow other) : Competing other flow := by
  obtain ⟨pon, onu, shared⟩ := competing
  refine ⟨pon.symm, onu.symm, ?_⟩
  rcases shared with ⟨gem, own, theirs⟩ | same
  · exact Or.inl ⟨gem, theirs, own⟩
  · exact Or.inr same.symm

/-- A `FlowAdd` enters its checks only when no competing one is between check and last store. -/
def Uncontended (tables : FlowTables) : TableStep → Prop
  | .start _ => True
  | .advance caller => ∀ flow, tables.calls[caller]? = some (.checkGemPorts flow) →
      ∀ call ∈ tables.calls, ∀ other, call.checked = some other → ¬ Competing flow other

/-- None of the ids is recorded under another ONU of the flow's PON. -/
def Unshared (table : ResourceIds) (flow : Flow) (ids : List Int32) : Prop :=
  ∀ onu ≠ flow.onuIndex, ∀ id ∈ ids, ¬ Records table flow.ponId onu id

theorem validateGemPorts_eq_none_iff (table : ResourceIds) (flow : Flow) :
    validateGemPorts table flow = none ↔ Unshared table flow flow.gemPorts := by
  rw [validateGemPorts, Option.map_eq_none_iff, conflict_eq_none_iff]
  rfl

theorem validateAllocId_eq_none_iff (table : ResourceIds) (flow : Flow) :
    validateAllocId table flow = none ↔ Unshared table flow [flow.allocId] := by
  rw [validateAllocId, Option.map_eq_none_iff, conflict_eq_none_iff]
  rfl

/-- The tables are exclusive, what a call has checked still holds, and no two checked flows
compete. -/
structure FlowTables.Guarded (tables : FlowTables) : Prop where
  gemPorts : Exclusive tables.gemPortIDs
  allocIds : Exclusive tables.allocIDs
  gemPortsFree : ∀ (caller : Nat) call flow, tables.calls[caller]? = some call →
    call.checked = some flow → Unshared tables.gemPortIDs flow flow.gemPorts
  allocIdFree : ∀ (caller : Nat) call flow, tables.calls[caller]? = some call →
    call.validated = some flow → Unshared tables.allocIDs flow [flow.allocId]
  apart : ∀ (caller rival : Nat) call other flow theirs, caller ≠ rival →
    tables.calls[caller]? = some call → tables.calls[rival]? = some other →
    call.checked = some flow → other.checked = some theirs → ¬ Competing flow theirs

section

variable {table next : ResourceIds} {owner : Option Flow} {ids : Flow → List Int32}

/-- The table shrinks, or grows by ids of the owner under its ONU. -/
def Growth (table next : ResourceIds) (owner : Option Flow) (ids : Flow → List Int32) : Prop :=
  ∀ pon onu id, Records next pon onu id → Records table pon onu id ∨
    ∃ flow, owner = some flow ∧ pon = flow.ponId ∧ onu = flow.onuIndex ∧ id ∈ ids flow

theorem Growth.exclusive (growth : Growth table next owner ids) (exclusive : Exclusive table)
    (unshared : ∀ flow, owner = some flow → Unshared table flow (ids flow)) : Exclusive next := by
  intro pon id onu other recorded recordedOther
  rcases growth pon onu id recorded with old | ⟨flow, owned, rfl, rfl, mine⟩
  · rcases growth pon other id recordedOther with oldOther | ⟨flow, owned, rfl, rfl, theirs⟩
    · exact exclusive pon id onu other old oldOther
    · by_contra different
      exact unshared flow owned onu different id theirs old
  · rcases growth _ other id recordedOther with oldOther | ⟨flow', owned', -, rfl, -⟩
    · by_contra different
      exact unshared flow owned other (Ne.symm different) id mine oldOther
    · obtain rfl := Option.some.inj (owned.symm.trans owned')
      rfl

/-- Growth by a flow that shares no id is no concern of another flow. -/
theorem Growth.unshared (growth : Growth table next owner ids) {other : Flow}
    (unshared : Unshared table other (ids other))
    (apart : ∀ flow, owner = some flow → flow.ponId = other.ponId →
      flow.onuIndex ≠ other.onuIndex → ∀ id ∈ ids flow, id ∉ ids other) :
    Unshared next other (ids other) := by
  intro onu different id listed recorded
  rcases growth _ onu id recorded with old | ⟨flow, owned, samePon, rfl, mine⟩
  · exact unshared onu different id listed old
  · exact apart flow owned samePon.symm different id mine listed

end

theorem not_competing_gemPorts (apart : ¬ Competing flow other) (pon : flow.ponId = other.ponId)
    (onu : flow.onuIndex ≠ other.onuIndex) :
    ∀ gem ∈ flow.gemPorts, gem ∉ other.gemPorts :=
  fun gem mine theirs => apart ⟨pon, onu, Or.inl ⟨gem, mine, theirs⟩⟩

theorem not_competing_allocId (apart : ¬ Competing flow other) (pon : flow.ponId = other.ponId)
    (onu : flow.onuIndex ≠ other.onuIndex) :
    ∀ id ∈ [flow.allocId], id ∉ [other.allocId] := by
  intro id mine theirs
  obtain rfl := List.mem_singleton.mp mine
  exact apart ⟨pon, onu, Or.inr (List.mem_singleton.mp theirs)⟩

/-- A call that stands at `caller` after the section is the one it left there. -/
theorem getElem?_set_cases {calls : List Call} {caller index : Nat} {after call : Call}
    (found : (calls.set caller after)[index]? = some call) :
    (index = caller ∧ call = after) ∨ (index ≠ caller ∧ calls[index]? = some call) := by
  by_cases same : caller = index
  · subst same
    rw [List.getElem?_set_self'] at found
    obtain ⟨_, _, rfl⟩ := Option.map_eq_some_iff.mp found
    exact Or.inl ⟨rfl, rfl⟩
  · rw [List.getElem?_set_ne same] at found
    exact Or.inr ⟨Ne.symm same, found⟩

section

variable {calls : List Call} {caller : Nat} {call after : Call} (found : calls[caller]? = some call)

include found

/-- What calls have found unshared stays so while one of them stores ids that no other call claims. -/
theorem Growth.still_unshared {table next : ResourceIds} {ids : Flow → List Int32}
    (growth : Growth table next call.validated ids) {passed : Call → Option Flow}
    (checked : ∀ other flow, passed other = some flow → other.checked = some flow)
    (free : ∀ (index : Nat) other flow, calls[index]? = some other → passed other = some flow →
      Unshared table flow (ids flow))
    (entered : ∀ flow, passed after = some flow →
      passed call = some flow ∨ call.validated = none ∧ Unshared table flow (ids flow))
    (rivals : ∀ (index : Nat) other theirs, index ≠ caller → calls[index]? = some other →
      other.checked = some theirs → ∀ flow, call.validated = some flow →
      flow.ponId = theirs.ponId → flow.onuIndex ≠ theirs.onuIndex → ∀ id ∈ ids flow, id ∉ ids theirs)
    (index : Nat) (other : Call) (flow : Flow) (listed : (calls.set caller after)[index]? = some other)
    (holds : passed other = some flow) : Unshared next flow (ids flow) := by
  rcases getElem?_set_cases listed with ⟨-, rfl⟩ | ⟨different, old⟩
  · rcases entered flow holds with before | ⟨storesNothing, unshared⟩
    · refine growth.unshared (free caller call flow found before) fun owner own _ elsewhere => ?_
      have same : owner = flow :=
        Option.some.inj ((Call.checked_of_validated own).symm.trans (checked call flow before))
      exact absurd (congrArg Flow.onuIndex same) elsewhere
    · refine growth.unshared unshared fun owner own => ?_
      cases storesNothing.symm.trans own
  · exact growth.unshared (free index other flow old holds)
      (rivals index other flow different old (checked other flow holds))

/-- Checked flows stay apart if the one that is checked now competes with none of them. -/
theorem apart_set
    (apart : ∀ (caller rival : Nat) call other flow theirs, caller ≠ rival →
      calls[caller]? = some call → calls[rival]? = some other → call.checked = some flow →
      other.checked = some theirs → ¬ Competing flow theirs)
    (entered : ∀ flow, after.checked = some flow → call.checked = some flow ∨
      ∀ other ∈ calls, ∀ theirs, other.checked = some theirs → ¬ Competing flow theirs)
    (index rival : Nat) (one other : Call) (flow theirs : Flow) (different : index ≠ rival)
    (listed : (calls.set caller after)[index]? = some one)
    (rivalListed : (calls.set caller after)[rival]? = some other)
    (passed : one.checked = some flow) (theirsPassed : other.checked = some theirs) :
    ¬ Competing flow theirs := by
  have newApart {rival : Nat} {other : Call} {flow theirs : Flow} (elsewhere : rival ≠ caller)
      (old : calls[rival]? = some other) (passed : after.checked = some flow)
      (theirsChecked : other.checked = some theirs) : ¬ Competing flow theirs := by
    rcases entered flow passed with before | alone
    · exact apart caller rival call other flow theirs (Ne.symm elsewhere) found old before
        theirsChecked
    · exact alone other (List.mem_of_getElem? old) theirs theirsChecked
  rcases getElem?_set_cases listed with ⟨rfl, rfl⟩ | ⟨elsewhere, old⟩
  · rcases getElem?_set_cases rivalListed with ⟨rfl, -⟩ | ⟨rivalElsewhere, rivalOld⟩
    · exact absurd rfl different
    · exact newApart rivalElsewhere rivalOld passed theirsPassed
  · rcases getElem?_set_cases rivalListed with ⟨rfl, rfl⟩ | ⟨rivalElsewhere, rivalOld⟩
    · exact fun competing => newApart elsewhere old theirsPassed passed competing.symm
    · exact apart index rival one other flow theirs different old rivalOld passed theirsPassed

end

private theorem lockSection_guarded {tables next : FlowTables} {caller : Nat} {call : Call}
    (guarded : tables.Guarded) (uncontended : Uncontended tables (.advance caller))
    (found : tables.calls[caller]? = some call) (effect : SectionEffect tables caller call next) :
    next.Guarded := by
  obtain ⟨gemGrowth, allocGrowth, after, shape, checked, validated⟩ := effect
  have gemGrowth : Growth tables.gemPortIDs next.gemPortIDs call.validated Flow.gemPorts := gemGrowth
  have allocGrowth : Growth tables.allocIDs next.allocIDs call.validated fun flow => [flow.allocId] :=
    allocGrowth
  -- a flow checked in another call does not compete with the one that stores
  have rivals (rival : Nat) (other : Call) (theirs : Flow) (different : rival ≠ caller)
      (listed : tables.calls[rival]? = some other) (theirsChecked : other.checked = some theirs)
      (flow : Flow) (own : call.validated = some flow) : ¬ Competing flow theirs :=
    guarded.apart caller rival call other flow theirs (Ne.symm different) found listed
      (Call.checked_of_validated own) theirsChecked
  constructor
  · exact gemGrowth.exclusive guarded.gemPorts fun flow own =>
      guarded.gemPortsFree caller call flow found (Call.checked_of_validated own)
  · exact allocGrowth.exclusive guarded.allocIds fun flow own =>
      guarded.allocIdFree caller call flow found own
  · rw [shape]
    refine gemGrowth.still_unshared found (fun _ _ passed => passed) guarded.gemPortsFree ?_ ?_
    · intro flow passed
      rcases checked flow passed with before | ⟨rfl, valid⟩
      · exact .inl before
      · exact .inr ⟨rfl, (validateGemPorts_eq_none_iff _ _).mp valid⟩
    · exact fun rival other theirs different listed passed flow own =>
        not_competing_gemPorts (rivals rival other theirs different listed passed flow own)
  · rw [shape]
    refine allocGrowth.still_unshared found (fun _ _ => Call.checked_of_validated)
      guarded.allocIdFree ?_ ?_
    · intro flow passed
      rcases validated flow passed with before | ⟨rfl, valid⟩
      · exact .inl before
      · exact .inr ⟨rfl, (validateAllocId_eq_none_iff _ _).mp valid⟩
    · exact fun rival other theirs different listed passed flow own =>
        not_competing_allocId (rivals rival other theirs different listed passed flow own)
  · rw [shape]
    refine apart_set found guarded.apart fun flow passed => ?_
    rcases checked flow passed with before | ⟨rfl, -⟩
    · exact .inl before
    · exact .inr (uncontended flow found)

private theorem entry_checked (request : Request) : request.entry.checked = none := by
  cases request <;> rfl

private theorem getElem?_snoc_cases {calls : List Call} {entry call : Call} {index : Nat}
    (found : (calls ++ [entry])[index]? = some call) : calls[index]? = some call ∨ call = entry := by
  rw [List.getElem?_append] at found
  split at found
  · exact Or.inl found
  · exact Or.inr (List.mem_singleton.mp (List.mem_of_getElem? found))

variable {tables : FlowTables}

/-- A call that has only begun has checked nothing. -/
theorem start_guarded (guarded : tables.Guarded) (request : Request) :
    { tables with calls := tables.calls ++ [request.entry] : FlowTables }.Guarded := by
  have earlier {index : Nat} {call : Call} {flow : Flow}
      (found : (tables.calls ++ [request.entry])[index]? = some call)
      (passed : call.checked = some flow) : tables.calls[index]? = some call := by
    rcases getElem?_snoc_cases found with old | rfl
    · exact old
    · simp [entry_checked] at passed
  refine ⟨guarded.gemPorts, guarded.allocIds, ?_, ?_, ?_⟩
  · intro caller call flow found passed
    exact guarded.gemPortsFree caller call flow (earlier found passed) passed
  · intro caller call flow found passed
    exact guarded.allocIdFree caller call flow
      (earlier found (Call.checked_of_validated passed)) passed
  · intro caller rival call other flow theirs different found rivalFound passed theirsPassed
    exact guarded.apart caller rival call other flow theirs different (earlier found passed)
      (earlier rivalFound theirsPassed) passed theirsPassed

private theorem step_guarded (tables : FlowTables) (label : TableStep) (next : FlowTables)
    (guarded : tables.Guarded) (uncontended : Uncontended tables label)
    (taken : tables.step label = some next) : next.Guarded := by
  cases label with
  | start request =>
    obtain rfl := Option.some.inj taken
    exact start_guarded guarded request
  | advance caller =>
    obtain ⟨call, found, run⟩ := Option.bind_eq_some_iff.mp taken
    exact lockSection_guarded guarded uncontended found (lockSection_effect run)

/-- No call in progress and nothing recorded, as the OLT is created or left by a reboot. -/
structure FlowTables.Fresh (tables : FlowTables) : Prop where
  idle : tables.calls = []
  noGemPort : ∀ pon onu id, ¬ Records tables.gemPortIDs pon onu id
  noAllocId : ∀ pon onu id, ¬ Records tables.allocIDs pon onu id

theorem FlowTables.Fresh.guarded (fresh : tables.Fresh) : tables.Guarded where
  gemPorts := fun pon id onu _ recorded => absurd recorded (fresh.noGemPort pon onu id)
  allocIds := fun pon id onu _ recorded => absurd recorded (fresh.noAllocId pon onu id)
  gemPortsFree := fun _ _ flow _ _ onu _ id _ => fresh.noGemPort flow.ponId onu id
  allocIdFree := fun _ _ flow _ _ onu _ id _ => fresh.noAllocId flow.ponId onu id
  apart := fun caller _ _ _ _ _ _ found => by simp [fresh.idle] at found

/-- In every run whose checks are uncontended, ids are recorded under at most one ONU of a PON. -/
theorem uncontended_run_exclusive {start tables : FlowTables}
    {history : List (FlowTables × TableStep)} (fresh : start.Fresh)
    (run : Run FlowTables.step start history tables) (uncontended : Meets Uncontended history) :
    Exclusive tables.gemPortIDs ∧ Exclusive tables.allocIDs := by
  have guarded : tables.Guarded := run.invariant uncontended fresh.guarded step_guarded
  exact ⟨guarded.gemPorts, guarded.allocIds⟩

def classifierAny : Classifier := ⟨0, 0, 0, 0, 0, 0⟩

/-- Flow of an ONU on PON 0, with one number for its GEM port and its alloc id. -/
def gemFlow (flowId : UInt64) (onuId id : Int32) : Flow :=
  ⟨flowId, .upstream, 0, onuId, 0, 256, id, id, false, ∅, classifierAny⟩

/-- One PON, no ONU activated yet. -/
def onePon : FlowTables :=
  ⟨(∅ : ResourceIds).insert 0 ∅, (∅ : ResourceIds).insert 0 ∅, []⟩

private theorem onePon_fresh : onePon.Fresh := by
  have empty : ∀ pon onu id, ¬ Records ((∅ : ResourceIds).insert 0 ∅) pon onu id := by
    rintro pon onu id ⟨onuValues, found, -⟩
    rw [onuIds, FiniteMap.lookup_insert_eq] at found
    split at found <;> simp at found
  exact ⟨rfl, empty, empty⟩

instance (flow other : Flow) : Decidable (Competing flow other) :=
  inferInstanceAs (Decidable (_ ∧ _ ∧ (_ ∨ _)))

/-- No competing flow is between check and last store. -/
def uncontended (tables : FlowTables) : TableStep → Bool
  | .start _ => true
  | .advance caller =>
    match tables.calls[caller]? with
    | some (.checkGemPorts flow) => tables.calls.all fun call =>
        call.checked.all fun other => !decide (Competing flow other)
    | _ => true

theorem uncontended_of_check {label : TableStep} (checked : uncontended tables label = true) :
    Uncontended tables label := by
  cases label with
  | start request => trivial
  | advance caller =>
    intro flow found call member other passed
    simp only [uncontended, found, List.all_eq_true] at checked
    simpa [passed] using checked call member

/-- The flows of two ONUs are checked together and stored in turns. A third then asks for the GEM
port of the first ONU, for the second. -/
def apartLabels : List TableStep :=
  [.start (.activateOnu 0 1), .advance 0, .advance 0, .start (.activateOnu 0 2), .advance 1,
    .advance 1, .start (.flowAdd (gemFlow 1 1 1024)), .start (.flowAdd (gemFlow 2 2 1032)),
    .advance 2, .advance 3, .advance 2, .advance 3, .advance 2, .advance 3, .advance 3, .advance 2,
    .start (.flowAdd (gemFlow 3 2 1024)), .advance 4]

theorem uncontended_run_exclusive_apart : ∃ final : FlowTables,
    (Records final.gemPortIDs 0 1 1024 ∧ Records final.gemPortIDs 0 2 1032 ∧
      Records final.allocIDs 0 1 1024 ∧ Records final.allocIDs 0 2 1032) ∧
    Exclusive final.gemPortIDs ∧ Exclusive final.allocIDs := by
  obtain ⟨history, final, run, checked, stored⟩ :=
    run_of_guarded_replay (fun tables label => uncontended tables label = true) FlowTables.step onePon
      apartLabels (fun final => Records final.gemPortIDs 0 1 1024 ∧
        Records final.gemPortIDs 0 2 1032 ∧ Records final.allocIDs 0 1 1024 ∧
        Records final.allocIDs 0 2 1032) (by decide +kernel)
  refine ⟨final, stored, uncontended_run_exclusive onePon_fresh run ?_⟩
  exact fun entry member => uncontended_of_check (checked entry member)

/-- Both calls validate before either of them stores. -/
def raceLabels : List TableStep :=
  [.start (.activateOnu 0 1), .advance 0, .advance 0, .start (.activateOnu 0 2), .advance 1,
    .advance 1, .start (.flowAdd (gemFlow 1 1 1024)), .start (.flowAdd (gemFlow 2 2 1024)),
    .advance 2, .advance 2, .advance 3, .advance 3, .advance 2, .advance 2, .advance 3, .advance 3]

theorem racing_flows_share_gem : ∃ history final, Run FlowTables.step onePon history final ∧
    ¬ Exclusive final.gemPortIDs := by
  obtain ⟨history, final, run, one, two⟩ := run_of_replay FlowTables.step onePon raceLabels
    (fun final => Records final.gemPortIDs 0 1 1024 ∧ Records final.gemPortIDs 0 2 1024)
    (by decide +kernel)
  refine ⟨history, final, run, fun exclusive => ?_⟩
  exact absurd (exclusive 0 1024 1 2 one two) (by decide)

end Bbsim.Devices
