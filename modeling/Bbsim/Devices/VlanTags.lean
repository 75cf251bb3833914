import Bbsim.Devices.Identities

/-! The VLAN tags of the services. The tags come from counters by the name of the service, which go
through the creation of every UNI of every ONU of every PON. The allocation is accepted with blanks
around it, and used only without; the limit is looked at only where a tag is counted up. -/

namespace Bbsim.Devices

open Foundation Common Omci

/-- What is configured for one of the two tags of a service. -/
structure TagRule where
  name : String
  tag : Int64
  allocation : String

def cTagRule (config : ServiceYaml) : TagRule := ⟨config.name, config.cTag, config.cTagAllocation⟩

def sTagRule (config : ServiceYaml) : TagRule := ⟨config.name, config.sTag, config.sTagAllocation⟩

namespace TagRule

/-- The tag is counted up for each service but the first of its name. -/
def isUnique (rule : TagRule) : Bool := rule.allocation == "unique"

/-- The services of a name. -/
def namesakes (rules : List TagRule) (name : String) : List TagRule :=
  rules.filter fun rule => rule.name == name

/-- How often the counter of a name is counted up for its services. -/
def countUps (namesakes : List TagRule) : Nat := namesakes.tail.countP isUnique

/-- The counter of a name once these services have their tags. -/
def counter (seen : List TagRule) (name : String) : Option Int64 :=
  (namesakes seen name).head?.map fun first =>
    first.tag + Int64.ofNat (countUps (namesakes seen name))

/-- The tag of a service that comes after these. -/
def tagAfter (rule : TagRule) (seen : List TagRule) : Int64 :=
  let mates := namesakes seen rule.name ++ [rule]
  (mates.headD rule).tag + Int64.ofNat (countUps mates)

/-- The tag is counted up for a service after these. -/
structure CountedUp (rule : TagRule) (seen : List TagRule) : Prop where
  known : namesakes seen rule.name ≠ []
  unique : rule.isUnique = true

/-- No counter has passed the limit. -/
def Within (seen : List TagRule) : Prop :=
  ∀ before (rule : TagRule), before ++ [rule] <+: seen → rule.CountedUp before →
    rule.tagAfter before ≤ 4096

/-- The service after these is the first for which a tag is counted beyond the limit. -/
structure StopsAfter (rule : TagRule) (seen : List TagRule) : Prop where
  counted : rule.CountedUp seen
  beyond : 4096 < rule.tagAfter seen
  first : Within seen

/-- These services have their tags. -/
structure Reached (tags : FiniteMap String Int64) (seen : List TagRule) : Prop where
  counters : ∀ name, tags.lookup name = counter seen name
  within : Within seen

/-- The tag is that of a service after these. -/
structure Given (rule : TagRule) (seen : List TagRule) (tag : Int) : Prop where
  value : tag = (rule.tagAfter seen).toInt
  within : Within (seen ++ [rule])

variable {rule : TagRule} {seen rules : List TagRule} {tags : FiniteMap String Int64} {name : String}

theorem isUnique_iff : rule.isUnique = true ↔ rule.allocation = "unique" := beq_iff_eq

private theorem reached_empty : Reached ∅ [] := by
  refine ⟨fun name => AList.lookup_empty _, fun before rule early => ?_⟩
  simp at early

theorem within_snoc : Within (seen ++ [rule]) ↔
    Within seen ∧ (rule.CountedUp seen → rule.tagAfter seen ≤ 4096) := by
  simp only [Within, List.prefix_concat_iff]
  constructor
  · exact fun within => ⟨fun before other early => within before other (Or.inr early),
      within seen rule (Or.inl rfl)⟩
  · rintro ⟨within, last⟩ before other (same | early)
    · obtain ⟨rfl, rfl⟩ := List.concat_inj.mp (by simpa using same)
      exact last
    · exact within before other early

theorem namesakes_append (first second : List TagRule) (name : String) :
    namesakes (first ++ second) name = namesakes first name ++ namesakes second name :=
  List.filter_append ..

theorem namesakes_self (rule : TagRule) : namesakes [rule] rule.name = [rule] := by
  simp [namesakes]

theorem namesakes_other (different : rule.name ≠ name) : namesakes [rule] name = [] := by
  simp [namesakes, different]

private theorem counter_snoc_self (seen : List TagRule) (rule : TagRule) :
    counter (seen ++ [rule]) rule.name = some (rule.tagAfter seen) := by
  rw [counter, tagAfter, namesakes_append, namesakes_self]
  cases namesakes seen rule.name <;> rfl

private theorem counter_snoc_other (different : rule.name ≠ name) :
    counter (seen ++ [rule]) name = counter seen name := by
  rw [counter, counter, namesakes_append, namesakes_other different, List.append_nil]

theorem counter_eq_none_iff : counter seen name = none ↔ namesakes seen name = [] := by
  rw [counter, Option.map_eq_none_iff, List.head?_eq_none_iff]

theorem tagAfter_of_new (new : namesakes seen rule.name = []) : rule.tagAfter seen = rule.tag := by
  rw [tagAfter, new]
  exact Int64.add_zero rule.tag

/-- The tag of a service whose name is known, from the counter. -/
theorem tagAfter_of_known {previous : Int64} (known : counter seen rule.name = some previous) :
    rule.tagAfter seen = if rule.isUnique then previous + 1 else previous := by
  obtain ⟨first, head, rfl⟩ := Option.map_eq_some_iff.mp known
  obtain ⟨later, mates⟩ := List.head?_eq_some_iff.mp head
  rw [tagAfter, mates, countUps, countUps]
  simp only [List.headD_cons, List.cons_append, List.tail_cons, List.countP_append]
  split
  · next unique => rw [List.countP_singleton, if_pos unique, Int64.ofNat_add, ← Int64.add_assoc]; rfl
  · next shared => rw [List.countP_singleton, if_neg shared, Nat.add_zero]

/-- The next tag is the one of the next service, or it is the first beyond the limit. -/
theorem yields_nextTag (rule : TagRule) (reached : Reached tags seen) (fault : CreateFault) :
    Yields (nextTag tags rule.name rule.tag rule.allocation fault)
      (fun raised => raised = fault ∧ rule.StopsAfter seen) fun tag =>
        rule.Given seen tag.toInt ∧ Reached (tags.insert rule.name tag) (seen ++ [rule]) := by
  have counted : ∀ tag, tag = rule.tagAfter seen →
      (rule.CountedUp seen → rule.tagAfter seen ≤ 4096) →
      rule.Given seen tag.toInt ∧ Reached (tags.insert rule.name tag) (seen ++ [rule]) := by
    rintro tag rfl limit
    have within := within_snoc.mpr ⟨reached.within, limit⟩
    refine ⟨⟨rfl, within⟩, fun name => ?_, within⟩
    by_cases same : rule.name = name
    · rw [← same, counter_snoc_self]
      exact AList.lookup_insert _
    · rw [counter_snoc_other same, ← reached.counters name]
      exact AList.lookup_insert_ne (Ne.symm same)
  rw [nextTag, reached.counters]
  cases known : counter seen rule.name with
  | none =>
    have new := counter_eq_none_iff.mp known
    exact counted _ (tagAfter_of_new new).symm fun up => absurd new up.known
  | some previous =>
    have mates : namesakes seen rule.name ≠ [] := fun none => by
      rw [counter_eq_none_iff.mpr none] at known
      cases known
    have value := tagAfter_of_known known
    dsimp only
    by_cases unique : rule.allocation = "unique"
    · have isUnique := isUnique_iff.mpr unique
      rw [if_pos isUnique] at value
      rw [if_pos unique, ← value]
      split
      · next beyond => exact ⟨rfl, ⟨mates, isUnique⟩, beyond, reached.within⟩
      · next within => exact counted _ rfl fun _ => Int64.not_lt.mp within
    · have shared : ¬ rule.isUnique = true := fun isUnique => unique (isUnique_iff.mp isUnique)
      rw [if_neg shared] at value
      rw [if_neg unique]
      exact counted _ value.symm fun up => absurd up.unique shared

/-- The services that have their tags before a position of the UNI with this number. -/
def visited (rules : List TagRule) (number position : Nat) : List TagRule :=
  (List.replicate number rules).flatten ++ rules.take position

theorem visited_next {position : Nat} (present : rules[position]? = some rule) (number : Nat) :
    visited rules number (position + 1) = visited rules number position ++ [rule] := by
  rw [visited, List.take_add_one, present, visited, List.append_assoc]
  rfl

private theorem visited_length (rules : List TagRule) (number : Nat) :
    visited rules number rules.length = visited rules (number + 1) 0 := by
  rw [visited, visited, List.take_length, List.replicate_succ', List.flatten_append]
  simp

end TagRule

open TagRule in
/-- The counters before a position of the UNI with this number. -/
structure Counted (services : List ServiceYaml) (number position : Nat) (tags : Tags) : Prop where
  cTags : Reached tags.cTags (visited (services.map cTagRule) number position)
  sTags : Reached tags.sTags (visited (services.map sTagRule) number position)

open TagRule in
/-- The tags of the service at a position of the UNI with this number. -/
structure Tagged (services : List ServiceYaml) (number position : Nat) (config : ServiceYaml)
    (service : Service) : Prop where
  cTag : (cTagRule config).Given (visited (services.map cTagRule) number position) service.cTag
  sTag : (sTagRule config).Given (visited (services.map sTagRule) number position) service.sTag

open TagRule in
/-- A limit that is reached is that of a service of this name, on one of so many UNIs. -/
def Justified (services : List ServiceYaml) (total : Nat) : CreateFault → Prop
  | .cTagLimitReached name => ∃ number < total, ∃ (position : Nat) (config : ServiceYaml),
      services[position]? = some config ∧ config.name = name ∧
        (cTagRule config).StopsAfter (visited (services.map cTagRule) number position)
  | .sTagLimitReached name => ∃ number < total, ∃ (position : Nat) (config : ServiceYaml),
      services[position]? = some config ∧ config.name = name ∧
        (sTagRule config).StopsAfter (visited (services.map sTagRule) number position)
  | _ => True

variable {config : ServiceYaml}

section

variable {services : List ServiceYaml} {total number : Nat} (bound : number < total)
include bound

variable {oltId : Int}

private theorem yields_newService {ponPortId onuId uniId : UInt32} {position : Nat}
    (present : services[position]? = some config) {tags : Tags}
    (counted : Counted services number position tags) :
    Yields (newService oltId ponPortId onuId uniId (config, position) tags) (Justified services total)
      fun result => Tagged services number position config result.1 ∧
        Counted services number (position + 1) result.2 := by
  have rule (of : ServiceYaml → TagRule) : (services.map of)[position]? = some (of config) := by
    rw [List.getElem?_map, present]
    rfl
  rw [newService]
  dsimp only
  rw [yields_bind]
  refine ((TagRule.yields_nextTag (cTagRule config) counted.cTags _).monoError ?_).mono ?_
  · rintro fault ⟨rfl, stops⟩
    exact ⟨number, bound, position, config, present, rfl, stops⟩
  rintro cTag ⟨cGiven, cReached⟩
  rw [yields_bind]
  refine ((TagRule.yields_nextTag (sTagRule config) counted.sTags _).monoError ?_).mono ?_
  · rintro fault ⟨rfl, stops⟩
    exact ⟨number, bound, position, config, present, rfl, stops⟩
  rintro sTag ⟨sGiven, sReached⟩
  refine ⟨⟨cGiven, sGiven⟩, ?_, ?_⟩
  · rw [TagRule.visited_next (rule cTagRule)]
    exact cReached
  · rw [TagRule.visited_next (rule sTagRule)]
    exact sReached

/-- The services of a UNI have the tags of its number. -/
def UniTagged (services : List ServiceYaml) (number : Nat) (port : UniPort) : Prop :=
  ∀ (position : Nat) service, port.services[position]? = some service →
    ∃ config, services[position]? = some config ∧ Tagged services number position config service

private theorem yields_newUni {ponPortId onuId : UInt32} {uni : Nat} {tags : Tags}
    (counted : Counted services number 0 tags) :
    Yields (newUni oltId ponPortId onuId services uni tags) (Justified services total)
      fun result => UniTagged services number result.1 ∧ Counted services (number + 1) 0 result.2 := by
  unfold newUni
  split
  · trivial
  · rw [yields_bind]
    refine (yields_traverseWith_counted (fun position service => ∃ config,
        services[position]? = some config ∧ Tagged services number position config service)
      (Counted services number) counted ?_).mono ?_
    · rintro position ⟨config, index⟩ present tags counted
      rw [List.getElem?_zipIdx, Nat.zero_add] at present
      obtain ⟨_, found, ⟨⟩⟩ := Option.map_eq_some_iff.mp present
      refine (yields_newService bound found counted).mono ?_
      exact fun result made => ⟨⟨config, found, made.1⟩, made.2⟩
    · rintro ⟨made, tags⟩ ⟨tagged, cTags, sTags⟩
      have all (of : ServiceYaml → TagRule) :
          TagRule.visited (services.map of) number services.zipIdx.length =
            TagRule.visited (services.map of) (number + 1) 0 := by
        rw [← TagRule.visited_length, List.length_zipIdx, List.length_map]
      exact ⟨tagged, all cTagRule ▸ cTags, all sTagRule ▸ sTags⟩

end

section

variable {loaded : Loaded} {total : Nat}

theorem getElem?_range_eq_some {count position index : Nat}
    (present : (List.range count)[position]? = some index) : position < count ∧ index = position := by
  obtain ⟨inside, rfl⟩ := List.getElem?_eq_some_iff.mp present
  rw [List.length_range] at inside
  exact ⟨inside, List.getElem_range _⟩

/-- The UNIs of an ONU, of which so many were created before. -/
def OnuTagged (services : List ServiceYaml) (before : Nat) (config : OnuConfig) : Prop :=
  ∀ uni port, config.uniPorts[uni]? = some port → UniTagged services (before + uni) port

private theorem yields_createOnu {technology : PonTechnology} {pon index before : Nat} {tags : Tags}
    (bound : before + loaded.config.olt.uniPorts.toNat ≤ total)
    (counted : Counted loaded.services before 0 tags) :
    Yields (createOnu loaded technology pon index tags) (Justified loaded.services total)
      fun result => OnuTagged loaded.services before result.1 ∧
        Counted loaded.services (before + loaded.config.olt.uniPorts.toNat) 0 result.2 := by
  unfold createOnu
  rw [yields_bind]
  refine (yields_traverseWith_counted (fun uni => UniTagged loaded.services (before + uni))
    (fun uni => Counted loaded.services (before + uni) 0) counted ?_).mono ?_
  · intro position uni present tags counted
    obtain ⟨inside, rfl⟩ := getElem?_range_eq_some present
    exact yields_newUni (by omega) counted
  · rintro ⟨uniPorts, tags⟩ ⟨tagged, counted⟩
    rw [List.length_range] at counted
    dsimp only
    split
    · trivial
    · exact ⟨tagged, counted⟩

/-- How many UNIs a PON has. -/
def perPon (loaded : Loaded) : Nat :=
  loaded.config.olt.onusPonPort.toNat * loaded.config.olt.uniPorts.toNat

def PonTagged (loaded : Loaded) (before : Nat) (configs : List OnuConfig) : Prop :=
  ∀ index config, configs[index]? = some config →
    OnuTagged loaded.services (before + index * loaded.config.olt.uniPorts.toNat) config

theorem yields_createPon {pon before : Nat} {tags : Tags} (bound : before + perPon loaded ≤ total)
    (counted : Counted loaded.services before 0 tags) :
    Yields (createPon loaded pon tags) (Justified loaded.services total)
      fun result => PonTagged loaded before result.1 ∧
        Counted loaded.services (before + perPon loaded) 0 result.2 := by
  unfold createPon
  split
  · trivial
  · split
    · trivial
    · split
      · trivial
      · refine (yields_traverseWith_counted
          (fun index => OnuTagged loaded.services (before + index * loaded.config.olt.uniPorts.toNat))
          (fun index => Counted loaded.services
            (before + index * loaded.config.olt.uniPorts.toNat) 0) ?_ ?_).mono ?_
        · simpa using counted
        · intro position index present tags counted
          obtain ⟨inside, rfl⟩ := getElem?_range_eq_some present
          have next := Nat.mul_le_mul_right loaded.config.olt.uniPorts.toNat (Nat.succ_le_of_lt inside)
          rw [Nat.succ_mul] at next
          rw [Nat.succ_mul, ← Nat.add_assoc]
          exact yields_createOnu (by unfold perPon at bound; omega) counted
        · rintro ⟨configs, tags⟩ ⟨tagged, counted⟩
          rw [List.length_range] at counted
          exact ⟨tagged, counted⟩

/-- How many UNIs the OLT has. -/
def uniTotal (loaded : Loaded) : Nat := loaded.config.olt.ponPorts.toNat * perPon loaded

/-- How many UNIs are created before that of a place. -/
def uniNumber (loaded : Loaded) (place : ServicePlace) : Nat :=
  place.onu.1 * perPon loaded + place.onu.2 * loaded.config.olt.uniPorts.toNat + place.uni

/-- The services of an OLT have the tags that the counters give on the UNI with its number. -/
def CountedTags (loaded : Loaded) (olt : Olt) : Prop :=
  ∀ place service, olt.serviceAt place = some service →
    ∃ config, loaded.services[place.service]? = some config ∧
      Tagged loaded.services (uniNumber loaded place) place.service config service

theorem yields_createOlt :
    Yields (createOlt loaded) (Justified loaded.services (uniTotal loaded)) (CountedTags loaded) := by
  rw [createOlt, yields_map, createPons]
  refine (yields_traverseWith_counted (fun pon => PonTagged loaded (pon * perPon loaded))
    (fun pon => Counted loaded.services (pon * perPon loaded) 0) ?_ ?_).mono ?_
  · rw [Nat.zero_mul]
    exact ⟨TagRule.reached_empty, TagRule.reached_empty⟩
  · intro position pon present tags counted
    obtain ⟨inside, rfl⟩ := getElem?_range_eq_some present
    have next := Nat.mul_le_mul_right (perPon loaded) (Nat.succ_le_of_lt inside)
    rw [Nat.succ_mul] at next ⊢
    exact yields_createPon next counted
  · rintro ⟨configs, tags⟩ ⟨tagged, -⟩ place service present
    obtain ⟨onu, atPosition, inOnu⟩ := Option.bind_eq_some_iff.mp present
    obtain ⟨port, foundPort, inPort⟩ := Option.bind_eq_some_iff.mp inOnu
    rw [Olt.onuAt_create] at atPosition
    obtain ⟨onus, foundPon, inPon⟩ := Option.bind_eq_some_iff.mp atPosition
    obtain ⟨config, foundOnu, rfl⟩ := Option.map_eq_some_iff.mp inPon
    exact tagged place.onu.1 onus foundPon place.onu.2 config foundOnu place.uni port foundPort
      place.service service inPort

end

/-- The place of a service on the UNI with this number. -/
def placeOf (loaded : Loaded) (number service : Nat) : ServicePlace where
  onu := (number / loaded.config.olt.uniPorts.toNat / loaded.config.olt.onusPonPort.toNat,
    number / loaded.config.olt.uniPorts.toNat % loaded.config.olt.onusPonPort.toNat)
  uni := number % loaded.config.olt.uniPorts.toNat
  service := service

/-- The place is within the configured numbers. -/
structure ServicePlace.Inside (loaded : Loaded) (place : ServicePlace) : Prop where
  pon : place.onu.1 < loaded.config.olt.ponPorts.toNat
  index : place.onu.2 < loaded.config.olt.onusPonPort.toNat
  uni : place.uni < loaded.config.olt.uniPorts.toNat

section

variable {loaded : Loaded}

theorem uniNumber_eq (place : ServicePlace) :
    place.uni + loaded.config.olt.uniPorts.toNat *
      (place.onu.2 + loaded.config.olt.onusPonPort.toNat * place.onu.1) = uniNumber loaded place := by
  rw [uniNumber, perPon, Nat.mul_add]
  ac_rfl

variable {place : ServicePlace}

/-- The place is read off the number by dividing, UNI first. -/
theorem placeOf_uniNumber (inside : place.Inside loaded) :
    placeOf loaded (uniNumber loaded place) place.service = place := by
  obtain ⟨quotient, uni⟩ := (Nat.div_mod_unique (Nat.zero_lt_of_lt inside.uni)).mpr
    ⟨uniNumber_eq place, inside.uni⟩
  obtain ⟨pon, index⟩ := (Nat.div_mod_unique (Nat.zero_lt_of_lt inside.index)).mpr
    ⟨rfl, inside.index⟩
  rw [placeOf, quotient, uni, pon, index]

private theorem uniNumber_placeOf (number service : Nat) :
    uniNumber loaded (placeOf loaded number service) = number := by
  rw [← uniNumber_eq, placeOf]
  dsimp only
  rw [Nat.mod_add_div, Nat.mod_add_div]

private theorem placeOf_inside {number : Nat} (small : number < uniTotal loaded) (service : Nat) :
    (placeOf loaded number service).Inside loaded := by
  rw [uniTotal, perPon] at small
  have unis : 0 < loaded.config.olt.uniPorts.toNat := by
    refine Nat.pos_of_ne_zero fun none => ?_
    rw [none, Nat.mul_zero, Nat.mul_zero] at small
    exact absurd small (Nat.not_lt_zero _)
  have onus : 0 < loaded.config.olt.onusPonPort.toNat := by
    refine Nat.pos_of_ne_zero fun none => ?_
    rw [none, Nat.zero_mul, Nat.mul_zero] at small
    exact absurd small (Nat.not_lt_zero _)
  refine ⟨?_, Nat.mod_lt _ onus, Nat.mod_lt _ unis⟩
  rw [placeOf, Nat.div_div_eq_div_mul, Nat.mul_comm loaded.config.olt.uniPorts.toNat]
  exact Nat.div_lt_of_lt_mul (by rwa [Nat.mul_comm])

theorem uniNumber_lt (inside : place.Inside loaded) : uniNumber loaded place < uniTotal loaded := by
  have onu := Nat.mul_le_mul_right loaded.config.olt.uniPorts.toNat (Nat.succ_le_of_lt inside.index)
  have pon := Nat.mul_le_mul_right (perPon loaded) (Nat.succ_le_of_lt inside.pon)
  have last := inside.uni
  rw [Nat.succ_mul] at onu pon
  rw [uniNumber, uniTotal]
  unfold perPon at pon ⊢
  omega

theorem serviceAt_inside {olt : Olt} (created : createOlt loaded = .ok olt) {service : Service}
    (present : olt.serviceAt place = some service) : place.Inside loaded := by
  obtain ⟨onu, foundOnu, inOnu⟩ := Option.bind_eq_some_iff.mp present
  obtain ⟨port, foundPort, -⟩ := Option.bind_eq_some_iff.mp inOnu
  have made := onuAt_created created foundOnu
  exact ⟨made.pon, made.index, made.count ▸ (List.getElem?_eq_some_iff.mp foundPort).1⟩

end

namespace TagRule

variable {rule : TagRule} {seen rules : List TagRule} {name : String} {total number position : Nat}

theorem toInt_add_one {tag : Int64} (small : tag ≤ 4096) : (tag + 1).toInt = tag.toInt + 1 := by
  have limit : tag.toInt ≤ 4096 := Int64.le_iff_toInt_le.mp small
  have lower := tag.le_toInt
  have one : (1 : Int64).toInt = 1 := rfl
  rw [Int64.toInt_add, one, Int.bmod_eq_of_le] <;> omega

/-- Counters do not wrap as long as no tag has passed the limit. -/
theorem Within.counter (within : Within seen) {first : TagRule} {later : List TagRule}
    (mates : namesakes seen name = first :: later) (small : first.tag ≤ 4096) :
    first.tag + Int64.ofNat (later.countP isUnique) ≤ 4096 ∧
      (first.tag + Int64.ofNat (later.countP isUnique)).toInt =
        first.tag.toInt + later.countP isUnique := by
  induction seen using List.reverseRecOn generalizing later with
  | nil => cases mates
  | append_singleton seen rule ih =>
    obtain ⟨before, last⟩ := within_snoc.mp within
    by_cases same : rule.name = name
    · subst same
      rw [namesakes_append, namesakes_self] at mates
      cases known : namesakes seen rule.name with
      | nil =>
        rw [known] at mates
        obtain ⟨rfl, rfl⟩ := List.cons.inj mates
        rw [List.countP_nil]
        exact ⟨(Int64.add_zero rule.tag).symm ▸ small,
          (congrArg Int64.toInt (Int64.add_zero rule.tag)).trans (Int.add_zero _).symm⟩
      | cons head tail =>
        rw [known] at mates
        obtain ⟨rfl, rfl⟩ := List.cons.inj (mates.symm.trans (List.cons_append ..)).symm
        obtain ⟨limit, value⟩ := ih before known
        have counted : TagRule.counter seen rule.name =
            some (head.tag + Int64.ofNat (tail.countP isUnique)) := by
          rw [TagRule.counter, known]
          rfl
        have next := tagAfter_of_known counted
        rw [List.countP_append, List.countP_singleton]
        by_cases unique : rule.isUnique = true
        · rw [if_pos unique] at next
          have up := last ⟨by rw [known]; exact List.cons_ne_nil _ _, unique⟩
          rw [next] at up
          rw [if_pos unique, Int64.ofNat_add, ← Int64.add_assoc]
          refine ⟨up, (toInt_add_one limit).trans ?_⟩
          rw [value]
          omega
        · rw [if_neg unique]
          exact ⟨limit, value⟩
    · rw [namesakes_append, namesakes_other same, List.append_nil] at mates
      exact ih before mates

theorem Within.tagAfter (within : Within (seen ++ [rule]))
    (small : ((namesakes seen rule.name ++ [rule]).headD rule).tag ≤ 4096) :
    rule.tagAfter seen ≤ 4096 ∧ (rule.tagAfter seen).toInt =
      ((namesakes seen rule.name ++ [rule]).headD rule).tag.toInt +
        countUps (namesakes seen rule.name ++ [rule]) := by
  have mates : namesakes (seen ++ [rule]) rule.name = namesakes seen rule.name ++ [rule] := by
    rw [namesakes_append, namesakes_self]
  cases listed : namesakes seen rule.name ++ [rule] with
  | nil => exact absurd listed (List.append_ne_nil_of_right_ne_nil _ (List.cons_ne_nil _ _))
  | cons first later =>
    rw [listed] at small mates
    rw [TagRule.tagAfter, listed]
    exact within.counter mates small

theorem Within.of_prefix {before : List TagRule} (within : Within seen) (early : before <+: seen) :
    Within before :=
  fun other rule part => within other rule (part.trans early)

private theorem countP_eq_countUps (mates : List TagRule) :
    mates.countP isUnique = (mates.take 1).countP isUnique + countUps mates := by
  rw [countUps, ← List.drop_one, ← List.countP_append, List.take_append_drop]

theorem headD_eq_of_take {one other : List TagRule} (same : one.take 1 = other.take 1) :
    one.headD rule = other.headD rule := by
  cases one <;> cases other <;> simp_all

/-- The services of a name that come before, with one more. -/
theorem namesakes_visited (rules : List TagRule) (rule : TagRule) (number position : Nat) :
    namesakes (visited rules number position) rule.name ++ [rule] =
      (List.replicate number (namesakes rules rule.name)).flatten ++
        (namesakes (rules.take position) rule.name ++ [rule]) := by
  rw [visited, namesakes_append, List.append_assoc]
  congr 1
  rw [namesakes, List.filter_flatten, List.map_replicate]
  rfl

section

variable (present : rules[position]? = some rule)
include present

private theorem namesakes_split : namesakes rules rule.name =
    namesakes (rules.take position) rule.name ++
      rule :: namesakes (rules.drop (position + 1)) rule.name := by
  obtain ⟨inside, found⟩ := List.getElem?_eq_some_iff.mp present
  have split : rules = rules.take position ++ ([rule] ++ rules.drop (position + 1)) := by
    rw [List.singleton_append, ← found, ← List.drop_eq_getElem_cons, List.take_append_drop]
  conv_lhs => rw [split, namesakes_append, namesakes_append, namesakes_self]
  rfl

theorem take_one_visited (number : Nat) :
    (namesakes (visited rules number position) rule.name ++ [rule]).take 1 =
      (namesakes (rules.take position) rule.name ++ [rule]).take 1 := by
  rw [namesakes_visited, namesakes_split present]
  cases number with
  | zero => rfl
  | succ number =>
    rw [List.replicate_succ, List.flatten_cons]
    cases namesakes (rules.take position) rule.name <;> rfl

/-- Each UNI counts the tags of a name up by the number of its services that are spelled unique. -/
theorem countUps_visited (number : Nat) :
    countUps (namesakes (visited rules number position) rule.name ++ [rule]) =
      countUps (namesakes (rules.take position) rule.name ++ [rule]) +
        number * (namesakes rules rule.name).countP isUnique := by
  have all := countP_eq_countUps (namesakes (visited rules number position) rule.name ++ [rule])
  have first := countP_eq_countUps (namesakes (rules.take position) rule.name ++ [rule])
  rw [take_one_visited present, namesakes_visited, List.countP_append, List.countP_flatten,
    List.map_replicate, List.sum_replicate_nat, ← namesakes_visited] at all
  omega

theorem tagAfter_visited (number : Nat) : rule.tagAfter (visited rules number position) =
    rule.tagAfter (rules.take position) +
      Int64.ofNat (number * (namesakes rules rule.name).countP isUnique) := by
  rw [tagAfter, tagAfter, headD_eq_of_take (take_one_visited present number),
    countUps_visited present, Int64.ofNat_add, Int64.add_assoc]

private theorem take_prefix_visited (number : Nat) :
    rules.take position ++ [rule] <+: visited rules number position ++ [rule] := by
  cases number with
  | zero => exact List.prefix_refl _
  | succ number =>
    have whole : rules.take position ++ [rule] = rules.take (position + 1) := by
      rw [List.take_add_one, present]
      rfl
    rw [whole, visited, List.replicate_succ, List.flatten_cons, List.append_assoc, List.append_assoc]
    exact (List.take_prefix _ _).trans (List.prefix_append _ _)

theorem head_mem_rules : (namesakes (rules.take position) rule.name ++ [rule]).headD rule ∈ rules := by
  cases known : namesakes (rules.take position) rule.name with
  | nil => exact List.mem_of_getElem? present
  | cons first later =>
    have member : first ∈ namesakes (rules.take position) rule.name :=
      known ▸ List.mem_cons_self
    exact List.mem_of_mem_take (List.mem_filter.mp member).1

/-- The tag on a UNI as an integer. -/
theorem toInt_visited (limit : ∀ other ∈ rules, other.tag ≤ 4096)
    (within : Within (visited rules number position ++ [rule])) :
    rule.tagAfter (visited rules number position) ≤ 4096 ∧
      (rule.tagAfter (visited rules number position)).toInt =
        (rule.tagAfter (rules.take position)).toInt +
          number * (namesakes rules rule.name).countP isUnique := by
  have small := limit _ (head_mem_rules present)
  have head := @headD_eq_of_take rule _ _ (take_one_visited present number)
  obtain ⟨bound, value⟩ := within.tagAfter (head ▸ small)
  obtain ⟨-, first⟩ := (within.of_prefix (take_prefix_visited present number)).tagAfter small
  refine ⟨bound, ?_⟩
  rw [value, first, head, countUps_visited present]
  push_cast
  omega

end

/-- The tag of a service that is the only one. -/
theorem tagAfter_replicate (rule : TagRule) (number : Nat) :
    rule.tagAfter (List.replicate number rule) =
      rule.tag + Int64.ofNat (if rule.isUnique then number else 0) := by
  have alone := @tagAfter_visited rule [rule] 0 rfl number
  rw [visited, List.take_zero, List.append_nil, List.flatten_replicate_singleton, namesakes_self,
    List.countP_singleton, @tagAfter_of_new rule [] rfl] at alone
  rw [alone]
  split <;> simp

/-- A tag follows what the allocation was accepted as, is the one of a service that has the OLT for
itself, and the limit is kept. -/
structure Follows (rule : TagRule) (number : Nat) (tag : Int) : Prop where
  unique : tagAllocationFromString rule.allocation = some .unique → tag = rule.tag.toInt + number
  shared : tagAllocationFromString rule.allocation = some .shared → tag = rule.tag.toInt
  own : tag = (rule.tagAfter (List.replicate number rule)).toInt
  limit : tag ≤ 4096

/-- Services that so many UNIs can be given tags by. -/
structure Accurate (rules : List TagRule) (total : Nat) : Prop where
  limit : 0 < total → ∀ rule ∈ rules, rule.tag ≤ 4096
  spelled : 1 < total → ∀ rule ∈ rules, tagAllocationFromString rule.allocation = some .unique →
    rule.allocation = "unique"
  /-- A service whose name was there before has the tag that the counter has come to. -/
  starts : 0 < total → ∀ (position : Nat) rule first later, rules[position]? = some rule →
    namesakes (rules.take position) rule.name = first :: later →
    rule.tag = first.tag + Int64.ofNat ((later ++ [rule]).countP isUnique)
  /-- On the next UNI the counter of a name has moved as each of its services expects. -/
  apart : 1 < total → ∀ rule ∈ rules,
    (namesakes rules rule.name).countP isUnique = if rule.isUnique then 1 else 0

theorem tagAfter_take_eq_iff : rule.tagAfter (rules.take position) = rule.tag ↔
    ∀ first later, namesakes (rules.take position) rule.name = first :: later →
      rule.tag = first.tag + Int64.ofNat ((later ++ [rule]).countP isUnique) := by
  cases known : namesakes (rules.take position) rule.name with
  | nil => simp [tagAfter_of_new known]
  | cons head tail =>
    rw [tagAfter, known]
    constructor
    · rintro same first later ⟨⟩
      exact same.symm
    · exact fun all => (all head tail rfl).symm

private theorem follows_of_given {tag : Int} (accurate : Accurate rules total)
    (present : rules[position]? = some rule) (small : number < total)
    (given : rule.Given (visited rules number position) tag) : rule.Follows number tag := by
  have positive := Nat.zero_lt_of_lt small
  have member := List.mem_of_getElem? present
  have start := tagAfter_take_eq_iff.mpr fun first later =>
    accurate.starts positive position rule first later present
  obtain ⟨limit, value⟩ := toInt_visited present (accurate.limit positive) given.within
  have moved : number * (namesakes rules rule.name).countP isUnique =
      if rule.isUnique then number else 0 := by
    rcases Nat.eq_zero_or_pos number with rfl | later
    · simp
    · rw [accurate.apart (by omega) rule member]
      split <;> simp
  have exact64 := tagAfter_visited present number
  rw [start, moved] at exact64
  rw [start, ← Nat.cast_mul, moved] at value
  obtain ⟨rfl, -⟩ := given
  refine ⟨fun accepted => ?_, fun accepted => ?_, ?_, Int64.le_iff_toInt_le.mp limit⟩
  · rcases Nat.eq_zero_or_pos number with rfl | later
    · rw [value]
      simp
    · have spelled := accurate.spelled (by omega) rule member accepted
      rw [value, if_pos (isUnique_iff.mpr spelled)]
  · have other : ¬ rule.isUnique = true := by
      intro unique
      rw [isUnique_iff.mp unique] at accepted
      exact absurd accepted (by decide)
    rw [value, if_neg other, Nat.cast_zero, Int.add_zero]
  · rw [exact64, tagAfter_replicate]

theorem Follows.ne {tag other : Int} {second : Nat} (follows : rule.Follows number tag)
    (otherFollows : rule.Follows second other) (different : number ≠ second)
    (unique : tagAllocationFromString rule.allocation = some .unique) : tag ≠ other := by
  rw [follows.unique unique, otherFollows.unique unique]
  omega

private theorem accurate_of_follows
    (follows : ∀ number < total, ∀ (position : Nat) (rule : TagRule), rules[position]? = some rule →
      ∃ tag, rule.Given (visited rules number position) tag ∧ rule.Follows number tag) :
    Accurate rules total := by
  have start (positive : 0 < total) (position : Nat) (rule : TagRule)
      (present : rules[position]? = some rule) : rule.tagAfter (rules.take position) = rule.tag := by
    obtain ⟨tag, given, follow⟩ := follows 0 positive position rule present
    have own := follow.own
    rw [given.value, List.replicate_zero, @tagAfter_of_new rule [] rfl] at own
    exact Int64.toInt_inj.mp own
  have limit (positive : 0 < total) (rule : TagRule) (member : rule ∈ rules) : rule.tag ≤ 4096 := by
    obtain ⟨position, present⟩ := List.mem_iff_getElem?.mp member
    obtain ⟨tag, given, follow⟩ := follows 0 positive position rule present
    have bound := follow.limit
    rw [given.value] at bound
    rw [← start positive position rule present]
    exact Int64.le_iff_toInt_le.mpr bound
  have second (several : 1 < total) (rule : TagRule) (member : rule ∈ rules) :
      rule.Follows 1 (rule.tag.toInt + (namesakes rules rule.name).countP isUnique) := by
    obtain ⟨position, present⟩ := List.mem_iff_getElem?.mp member
    obtain ⟨tag, given, follow⟩ := follows 1 several position rule present
    have value := (toInt_visited present (limit (by omega)) given.within).2
    rw [start (by omega) position rule present, Nat.cast_one, Int.one_mul] at value
    rwa [given.value, value] at follow
  have apart (several : 1 < total) (rule : TagRule) (member : rule ∈ rules) :
      (namesakes rules rule.name).countP isUnique = if rule.isUnique then 1 else 0 := by
    have own := (second several rule member).own
    have next := toInt_add_one (limit (by omega) rule member)
    rw [tagAfter_replicate] at own
    split at own
    · rw [if_pos (by assumption)]
      have one : rule.tag + Int64.ofNat 1 = rule.tag + 1 := rfl
      rw [one] at own
      omega
    · rw [if_neg (by assumption)]
      have same : rule.tag + Int64.ofNat 0 = rule.tag := Int64.add_zero rule.tag
      rw [same] at own
      omega
  refine ⟨limit, fun several rule member accepted => ?_, ?_, apart⟩
  · have expected := (second several rule member).unique accepted
    have counts := apart several rule member
    by_contra other
    rw [if_neg fun unique => other (isUnique_iff.mp unique)] at counts
    omega
  · exact fun positive position rule first later present =>
      tagAfter_take_eq_iff.mp (start positive position rule present) first later

end TagRule

/-- The tags of an OLT follow the configured allocation. -/
structure TagsAllocated (loaded : Loaded) (olt : Olt) : Prop where
  follows : ∀ place service config, olt.serviceAt place = some service →
    loaded.services[place.service]? = some config →
    (cTagRule config).Follows (uniNumber loaded place) service.cTag ∧
      (sTagRule config).Follows (uniNumber loaded place) service.sTag
  /-- On two UNIs a unique tag of a service is not the same. -/
  distinct : ∀ place other service twin config, olt.serviceAt place = some service →
    olt.serviceAt other = some twin → place.service = other.service → place ≠ other →
    loaded.services[place.service]? = some config →
    (tagAllocationFromString config.cTagAllocation = some .unique → service.cTag ≠ twin.cTag) ∧
      (tagAllocationFromString config.sTagAllocation = some .unique → service.sTag ≠ twin.sTag)

/-- Every service can be given tags on all UNIs. -/
structure AccurateTags (loaded : Loaded) : Prop where
  cTags : TagRule.Accurate (loaded.services.map cTagRule) (uniTotal loaded)
  sTags : TagRule.Accurate (loaded.services.map sTagRule) (uniTotal loaded)

section

variable {loaded : Loaded} {olt : Olt} (created : createOlt loaded = .ok olt)
  (counted : CountedTags loaded olt)
include created counted

theorem accurateTags_of_allocated (allocated : TagsAllocated loaded olt) : AccurateTags loaded := by
  have given : ∀ number < uniTotal loaded, ∀ (position : Nat) (config : ServiceYaml),
      loaded.services[position]? = some config → ∃ service,
        Tagged loaded.services number position config service ∧
          (cTagRule config).Follows number service.cTag ∧
          (sTagRule config).Follows number service.sTag := by
    intro number small position config found
    have inside := (List.getElem?_eq_some_iff.mp found).1
    have placed := placeOf_inside small position
    obtain ⟨service, present⟩ := exists_serviceAt created (placeOf loaded number position) placed.pon
      placed.index placed.uni inside
    obtain ⟨_, same, tagged⟩ := counted _ _ present
    obtain rfl := Option.some.inj (same.symm.trans found)
    have follows := allocated.follows _ _ _ present found
    rw [uniNumber_placeOf] at tagged follows
    exact ⟨service, tagged, follows⟩
  constructor <;> refine TagRule.accurate_of_follows fun number small position rule present => ?_
  · rw [List.getElem?_map] at present
    obtain ⟨config, found, rfl⟩ := Option.map_eq_some_iff.mp present
    obtain ⟨service, tagged, follows, -⟩ := given number small position config found
    exact ⟨_, tagged.cTag, follows⟩
  · rw [List.getElem?_map] at present
    obtain ⟨config, found, rfl⟩ := Option.map_eq_some_iff.mp present
    obtain ⟨service, tagged, -, follows⟩ := given number small position config found
    exact ⟨_, tagged.sTag, follows⟩

theorem allocated_of_accurateTags (accurate : AccurateTags loaded) : TagsAllocated loaded olt := by
  have follows : ∀ place service config, olt.serviceAt place = some service →
      loaded.services[place.service]? = some config →
      (cTagRule config).Follows (uniNumber loaded place) service.cTag ∧
        (sTagRule config).Follows (uniNumber loaded place) service.sTag := by
    intro place service config present found
    obtain ⟨_, found', tagged⟩ := counted place service present
    obtain rfl := Option.some.inj (found.symm.trans found')
    have small := uniNumber_lt (serviceAt_inside created present)
    have rule (of : ServiceYaml → TagRule) :
        (loaded.services.map of)[place.service]? = some (of config) := by
      rw [List.getElem?_map, found]
      rfl
    exact ⟨TagRule.follows_of_given accurate.cTags (rule cTagRule) small tagged.cTag,
      TagRule.follows_of_given accurate.sTags (rule sTagRule) small tagged.sTag⟩
  refine ⟨follows, ?_⟩
  intro place other service twin config present otherPresent sameService different found
  have numbers : uniNumber loaded place ≠ uniNumber loaded other := by
    intro same
    apply different
    rw [← placeOf_uniNumber (serviceAt_inside created present), same, sameService,
      placeOf_uniNumber (serviceAt_inside created otherPresent)]
  obtain ⟨cFollows, sFollows⟩ := follows place service config present found
  obtain ⟨cTwin, sTwin⟩ := follows other twin config otherPresent (sameService ▸ found)
  exact ⟨cFollows.ne cTwin numbers, sFollows.ne sTwin numbers⟩

end

private theorem loadBBSimServices_accepted {content : Content (Option (List ServiceYaml))}
    {services : Option (List ServiceYaml)} (accepted : loadBBSimServices content = .ok services)
    (member : config ∈ services.getD []) :
    (tagAllocationFromString config.cTagAllocation).isSome = true := by
  cases content with
  | unreadable | malformed => cases accepted
  | parsed read =>
    rw [loadBBSimServices] at accepted
    cases checked : (read.getD []).forM checkService with
    | error fault => rw [checked] at accepted; cases accepted
    | ok value =>
      rw [checked] at accepted
      obtain rfl := Except.ok.inj accepted
      have passed := forM_eq_ok_iff.mp checked config member
      rw [isSome_tagAllocationFromString]
      unfold checkService at passed
      split at passed
      · cases passed
      · split at passed
        · assumption
        · cases passed

/-- For every accepted list of services: every C-tag allocation is accepted, a limit that is reached is
that of the first tag beyond it, each service gets the tags of the counters of its name, and these follow
the allocation exactly if no configured tag is beyond the limit, with two UNIs or more what is accepted as
unique is spelled so, and services that share a name expect one and the same counter. -/
theorem vlan_tags_follow_iff {content : Content (Option (List ServiceYaml))}
    {services : Option (List ServiceYaml)} (accepted : loadBBSimServices content = .ok services)
    (loaded : Loaded) (configured : loaded.services = services.getD []) :
    (∀ config ∈ loaded.services, (tagAllocationFromString config.cTagAllocation).isSome = true) ∧
      Yields (createOlt loaded) (Justified loaded.services (uniTotal loaded)) fun olt =>
        CountedTags loaded olt ∧ (TagsAllocated loaded olt ↔ AccurateTags loaded) := by
  refine ⟨fun config member => loadBBSimServices_accepted accepted (configured ▸ member), ?_⟩
  have made := @yields_createOlt loaded
  cases created : createOlt loaded with
  | error fault => exact made.error created
  | ok olt =>
    have counted := made.value created
    exact ⟨counted, accurateTags_of_allocated created counted,
      allocated_of_accurateTags created counted⟩

/-- The defaults with one ONU and these services. -/
def loadedWith (services : List ServiceYaml) : Loaded := { loadedHsia 1 with services := services }

theorem loadedWith_created {services : List ServiceYaml}
    (planned : (plannedOnus (loadedWith services)).isSome = true) :
    ∃ olt, createOlt (loadedWith services) = .ok olt :=
  exists_createOlt mib_of_defaults
    (fun pon member => @loadedHsia_ponAccepted 1 (by decide) pon member) planned

/-- A C-tag for each UNI. -/
def uniqueHsia : ServiceYaml := { hsia with cTagAllocation := "unique" }

/-- One name for two services with the same tags. -/
def tripleServices : List ServiceYaml :=
  [uniqueHsia, { hsia with name := "iptv" }, { hsia with name := "iptv", needsIgmp := true }]

private theorem tripleServices_accurate : AccurateTags (loadedWith tripleServices) := by
  have few (position : Nat) {rule : TagRule} {of : ServiceYaml → TagRule}
      (present : (tripleServices.map of)[position]? = some rule) : position < 3 :=
    (List.getElem?_eq_some_iff.mp present).1
  refine ⟨⟨fun _ => by decide, fun _ => by decide, ?_, fun _ => by decide⟩,
    ⟨fun _ => by decide, fun _ => by decide, ?_, fun _ => by decide⟩⟩
  all_goals
    intro _ position rule first later present mates
    match position, few position present with
    | 0, _ => cases mates
    | 1, _ =>
      cases present
      cases mates
    | 2, _ =>
      cases present
      obtain ⟨rfl, rfl⟩ := List.cons.inj mates
      rfl

theorem tripleServices_allocated :
    ∃ olt, createOlt (loadedWith tripleServices) = .ok olt ∧
      TagsAllocated (loadedWith tripleServices) olt := by
  obtain ⟨olt, created⟩ := @loadedWith_created tripleServices (by decide +kernel)
  have accepted : loadBBSimServices (.parsed (some tripleServices)) = .ok (some tripleServices) :=
    eq_ok_of_toOption (by decide +kernel)
  have made := vlan_tags_follow_iff accepted (loadedWith tripleServices) rfl
  exact ⟨_, created, (made.2.value created).2.mpr tripleServices_accurate⟩

/-- The C-tag is accepted as unique, the S-tag is beyond the limit. -/
def spacedHsia : ServiceYaml := { hsia with cTagAllocation := " unique", sTag := 5000 }

/-- The second UNI gets the C-tag of the first, and the S-tag is given. Of two services with one name the
second one gets the tag of the first. -/
theorem spacedHsia_misallocated :
    loadBBSimServices (.parsed (some [spacedHsia])) = .ok (some [spacedHsia]) ∧
      tagAllocationFromString spacedHsia.cTagAllocation = some .unique ∧
      (∃ olt service, createOlt (loadedWith [spacedHsia]) = .ok olt ∧
        olt.serviceAt ⟨(0, 0), 1, 0⟩ = some service ∧ service.cTag = 900 ∧ service.sTag = 5000) ∧
      (newUni 0 0 1 [hsia, { hsia with cTag := 901 }] 0 ⟨∅, ∅⟩).toOption.map
        (fun result => result.1.services.map Service.cTag) = some [900, 900] := by
  refine ⟨eq_ok_of_toOption (by decide +kernel), by decide, ?_, by decide +kernel⟩
  obtain ⟨olt, created⟩ := @loadedWith_created [spacedHsia] (by decide +kernel)
  obtain ⟨service, present⟩ := exists_serviceAt created ⟨(0, 0), 1, 0⟩ (by decide) (by decide)
    (by decide) (by decide)
  obtain ⟨_, ⟨⟩, tagged⟩ := yields_createOlt.value created _ _ present
  exact ⟨olt, service, created, present, tagged.cTag.value, tagged.sTag.value⟩

end Bbsim.Devices
