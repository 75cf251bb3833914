import Mathlib.Data.List.Basic

/-! Searching a list by position. The first match in a list, and in a list that starts with an image
of it, as a table and the parts of it that another structure shows. -/

namespace Bbsim.Foundation

variable {Item Image : Type*}

variable {items : List Item} {test : Item → Bool} {index : Nat} {item : Item}

/-- First of its kind. -/
theorem findIdx?_eq_some_iff_first (present : items[index]? = some item)
    (passes : test item = true) :
    items.findIdx? test = some index ↔
      ∀ earlier < index, ∀ other, items[earlier]? = some other → test other = false := by
  obtain ⟨inside, rfl⟩ := List.getElem?_eq_some_iff.mp present
  rw [List.findIdx?_eq_some_iff_getElem]
  constructor
  · rintro ⟨_, _, first⟩ earlier before other there
    obtain ⟨_, rfl⟩ := List.getElem?_eq_some_iff.mp there
    exact Bool.eq_false_iff.mpr (first earlier before)
  · intro first
    refine ⟨inside, passes, fun earlier before => ?_⟩
    exact Bool.eq_false_iff.mp (first earlier before _ (List.getElem?_eq_getElem (by omega)))

/-- The first match with its position. -/
def firstMatch (test : Item → Bool) (items : List Item) : Option (Nat × Item) :=
  (items.findIdx? test).bind fun index => items[index]?.map (index, ·)

theorem firstMatch_eq_some (found : firstMatch test items = some (index, item)) :
    items[index]? = some item ∧ test item = true ∧
      ∀ earlier < index, ∀ other, items[earlier]? = some other → test other = false := by
  obtain ⟨position, first, paired⟩ := Option.bind_eq_some_iff.mp found
  obtain ⟨listed, there, same⟩ := Option.map_eq_some_iff.mp paired
  obtain ⟨rfl, rfl⟩ := Prod.mk.inj same
  obtain ⟨inside, passes, -⟩ := List.findIdx?_eq_some_iff_getElem.mp first
  have passes : test listed = true := by
    rw [List.getElem?_eq_getElem inside] at there
    exact Option.some.inj there ▸ passes
  exact ⟨there, passes, (findIdx?_eq_some_iff_first there passes).mp first⟩

theorem firstMatch_of_first (present : items[index]? = some item) (passes : test item = true)
    (first : ∀ earlier < index, ∀ other, items[earlier]? = some other → test other = false) :
    firstMatch test items = some (index, item) := by
  rw [firstMatch, (findIdx?_eq_some_iff_first present passes).mpr first, Option.bind_some, present]
  rfl

/-- The first match stays the first one when another takes its place. -/
theorem firstMatch_set {item replaced : Item} (found : firstMatch test items = some (index, item))
    (passes : test replaced = true) :
    firstMatch test (items.set index replaced) = some (index, replaced) := by
  obtain ⟨present, -, first⟩ := firstMatch_eq_some found
  obtain ⟨inside, -⟩ := List.getElem?_eq_some_iff.mp present
  refine firstMatch_of_first (List.getElem?_set_self inside) passes fun earlier before other listed => ?_
  rw [List.getElem?_set_ne (by omega)] at listed
  exact first earlier before other listed

variable {image : Item → Image}

theorem getElem?_image (present : items[index]? = some item) (rest : List Image) :
    (items.map image ++ rest)[index]? = some (image item) := by
  obtain ⟨inside, -⟩ := List.getElem?_eq_some_iff.mp present
  rw [List.getElem?_append_left (by simpa using inside), List.getElem?_map, present, Option.map_some]

/-- The search of the image finds the same place, where it passes over what the first one passes
over. -/
theorem firstMatch_image {search : Image → Bool}
    (found : firstMatch test items = some (index, item)) (passes : search (image item) = true)
    (others : ∀ other, test other = false → search (image other) = false) (rest : List Image) :
    firstMatch search (items.map image ++ rest) = some (index, image item) := by
  obtain ⟨present, -, first⟩ := firstMatch_eq_some found
  obtain ⟨inside, -⟩ := List.getElem?_eq_some_iff.mp present
  refine firstMatch_of_first (getElem?_image present rest) passes fun earlier before other listed => ?_
  rw [List.getElem?_append_left (by simp; omega), List.getElem?_map] at listed
  obtain ⟨original, there, rfl⟩ := Option.map_eq_some_iff.mp listed
  exact others original (first earlier before original there)

/-- One item replaced, and its image changed. -/
theorem modify_image {update : Image → Image} {item replaced : Item}
    (present : items[index]? = some item) (same : update (image item) = image replaced)
    (rest : List Image) :
    (items.map image ++ rest).modify index update = (items.set index replaced).map image ++ rest := by
  obtain ⟨inside, -⟩ := List.getElem?_eq_some_iff.mp present
  rw [List.modify_eq_set_getElem?, getElem?_image present, List.map_set,
    ← List.set_append_left _ _ (by simpa using inside), ← same]
  rfl

end Bbsim.Foundation
