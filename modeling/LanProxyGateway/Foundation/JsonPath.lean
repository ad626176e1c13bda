import LanProxyGateway.Foundation.Json

/-!
# Places inside a JSON value

A program that edits a JSON value in place walks down along keys and through arrays, and does
nothing where the value is of another kind. `overMember` and `overItems` are the two steps of such a
walk.

`DiffersAt R path j j'` says that two values are the same but for what stands at the places that a
path leads to, where they are related by `R`. A walk along the path whose last step makes related
values equal makes the two values equal: `overMember_eq` and `overItems_eq` are the steps of that
argument.
-/

namespace Foundation

namespace Json

/-- `if (j.contains(key) && ok(j[key])) j[key] = f(j[key])`. -/
def overMember (key : String) (ok : Json → Bool) (f : Json → Json) : Json → Json
  | .object members =>
    match OrderedMap.get? (ByteString.ofString key) members with
    | some v =>
      if ok v then .object (OrderedMap.set (ByteString.ofString key) (f v) members)
      else .object members
    | none => .object members
  | j => j

/-- `for (auto& item : j) item = f(item)`, for an array. -/
def overItems (f : Json → Json) : Json → Json
  | .array items => .array (items.map f)
  | j => j

/-- A step on the way to a place. -/
inductive Place
  | member (key : String)
  | items

/-- Two values that are the same but for the places a path leads to. -/
def DiffersAt (R : Json → Json → Prop) : List Place → Json → Json → Prop
  | [], j, j' => R j j'
  | .member key :: path, j, j' => ∃ members v v', j = .object members ∧
      OrderedMap.get? (ByteString.ofString key) members = some v ∧
      j' = .object (OrderedMap.set (ByteString.ofString key) v' members) ∧ DiffersAt R path v v'
  | .items :: path, j, j' => ∃ items items', j = .array items ∧ j' = .array items' ∧
      List.Forall₂ (fun v v' ↦ v = v' ∨ DiffersAt R path v v') items items'

variable {R : Json → Json → Prop} {path : List Place} {key : String} {ok : Json → Bool}
  {f : Json → Json} {j j' : Json}

theorem overMember_eq (h : DiffersAt R (.member key :: path) j j')
    (hok : ∀ v v', DiffersAt R path v v' → ok v = true ∧ ok v' = true)
    (hf : ∀ v v', DiffersAt R path v v' → f v = f v') :
    overMember key ok f j = overMember key ok f j' := by
  obtain ⟨members, v, v', rfl, hv, rfl, hdiff⟩ := h
  obtain ⟨hok, hok'⟩ := hok v v' hdiff
  rw [overMember, overMember, hv, OrderedMap.get?_set_self]
  simp only
  rw [if_pos hok, if_pos hok', OrderedMap.set_set, hf v v' hdiff]

theorem overItems_eq (h : DiffersAt R (.items :: path) j j')
    (hf : ∀ v v', DiffersAt R path v v' → f v = f v') : overItems f j = overItems f j' := by
  obtain ⟨items, items', rfl, rfl, hall⟩ := h
  rw [overItems, overItems]
  congr 1
  induction hall with
  | nil => rfl
  | cons hfirst _ ih =>
    rw [List.map_cons, List.map_cons, ih]
    rcases hfirst with rfl | hdiff
    · rfl
    · rw [hf _ _ hdiff]

theorem isArray_of_differsAt (h : DiffersAt R (.items :: path) j j') :
    j.isArray = true ∧ j'.isArray = true := by
  obtain ⟨items, items', rfl, rfl, -⟩ := h
  exact ⟨rfl, rfl⟩

theorem isObject_of_differsAt (h : DiffersAt R (.member key :: path) j j') :
    j.isObject = true ∧ j'.isObject = true := by
  obtain ⟨members, v, v', rfl, -, rfl, -⟩ := h
  exact ⟨rfl, rfl⟩

end Json

end Foundation
