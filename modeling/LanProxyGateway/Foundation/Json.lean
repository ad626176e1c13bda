import LanProxyGateway.Foundation.OrderedMap
import LanProxyGateway.Foundation.Text
import Mathlib.Data.Rat.Defs

/-!
# JSON values as a typed-access library presents them

The value a JSON parser returns, and the accessors of a library that converts on access: `contains`,
`operator[]` followed by a conversion, and `value(key, default)`. A conversion that meets the wrong
kind of value throws; here it is `none`, and so is `value` on something that is no object.

Strings are byte strings: a value that a program puts together may hold bytes that are no UTF-8, and
only writing it out as text (`isSerializable`) finds that out. Objects are ordered maps. A
floating-point number is its exact rational value.
-/

namespace Foundation

/-- A JSON value. -/
inductive Json
  | null
  | boolean (b : Bool)
  | integer (n : Int)
  | float (x : ℚ)
  | string (s : ByteString)
  | array (items : List Json)
  | object (members : List (ByteString × Json))

namespace Json

/-- A 64-bit number cast to `int`. -/
def castInt (n : Int) : Int := n.bmod (2 ^ 32)

theorem castInt_of_bounds {n : Int} (hlo : -2147483648 ≤ n) (hhi : n ≤ 2147483647) :
    castInt n = n := Int.bmod_eq_of_le (by omega) (by omega)

/-- A number cast to `int64_t`. -/
def castInt64 (n : Int) : Int := n.bmod (2 ^ 64)

@[simp] theorem castInt_castInt (n : Int) : castInt (castInt n) = castInt n := Int.bmod_bmod

@[simp] theorem castInt64_castInt64 (n : Int) : castInt64 (castInt64 n) = castInt64 n :=
  Int.bmod_bmod

theorem castInt64_of_bounds {n : Int} (hlo : -9223372036854775808 ≤ n)
    (hhi : n ≤ 9223372036854775807) : castInt64 n = n := Int.bmod_eq_of_le (by omega) (by omega)

/-- `get<int>()`: any number, or a boolean. A fraction is cut off towards zero. -/
def getInt : Json → Option Int
  | .integer n => some (castInt n)
  | .float x => some (castInt (x.num.tdiv x.den))
  | .boolean b => some (if b then 1 else 0)
  | _ => none

/-- `get<double>()`. -/
def getDouble : Json → Option ℚ
  | .integer n => some n
  | .float x => some x
  | _ => none

/-- `get<int64_t>()`. -/
def getInt64 : Json → Option Int
  | .integer n => some (castInt64 n)
  | .float x => some (castInt64 (x.num.tdiv x.den))
  | _ => none

/-- `get<bool>()`. -/
def getBool : Json → Option Bool
  | .boolean b => some b
  | _ => none

/-- `get<std::string>()`. -/
def getString : Json → Option ByteString
  | .string s => some s
  | _ => none

@[simp] theorem getInt_integer (n : Int) : getInt (.integer n) = some (castInt n) := rfl

@[simp] theorem getBool_boolean (b : Bool) : getBool (.boolean b) = some b := rfl

@[simp] theorem getString_string (s : ByteString) : getString (.string s) = some s := rfl

/-- `get<std::string>()` from a value that a parser returned. A parser refuses what is not UTF-8, so
nothing is lost by taking such a string as a text. -/
def getText (j : Json) : Option Text :=
  j.getString.bind fun s ↦ if h : ByteString.Utf8 s then some ⟨s, h⟩ else none

theorem getText_string {s : ByteString} (h : ByteString.Utf8 s) :
    getText (.string s) = some ⟨s, h⟩ := dif_pos h

/-- The member of an object under a key. -/
def member? (key : ByteString) : Json → Option Json
  | .object members => OrderedMap.get? key members
  | _ => none

/-- `j.contains(key)`, false on anything but an object. -/
def contains (key : ByteString) (j : Json) : Bool := (j.member? key).isSome

/-- `j.value(key, default)`: the converted member, the default where there is none, an exception
where `j` is no object or the conversion fails. -/
def value {α : Type} (convert : Json → Option α) (key : String) (default : α) : Json → Option α
  | .object members =>
    match member? (ByteString.ofString key) (.object members) with
    | some v => convert v
    | none => some default
  | _ => none

/-- The elements of an array, and nothing for any other value. -/
def arrayItems : Json → List Json
  | .array items => items
  | _ => []

/-- The members of an object, and nothing for any other value. -/
def members : Json → List (ByteString × Json)
  | .object members => members
  | _ => []

def isObject : Json → Bool
  | .object _ => true
  | _ => false

def isArray : Json → Bool
  | .array _ => true
  | _ => false

def isNumber : Json → Bool
  | .integer _ => true
  | .float _ => true
  | _ => false

/-- What a call that met the wrong kind of value comes to. -/
def orThrow {α : Type} (x : Option α) : Except CxxException α := x.elim (.error .typeError) .ok

@[simp] theorem orThrow_some {α : Type} (x : α) : orThrow (some x) = .ok x := rfl

theorem orThrow_eq_ok {α : Type} {x : Option α} {a : α} : orThrow x = .ok a ↔ x = some a := by
  rcases x with _ | b
  · exact ⟨nofun, nofun⟩
  · simp

@[simp] theorem ok_bind {α β : Type} (x : α) (f : α → Except CxxException β) :
    (Except.ok x >>= f) = f x := rfl

@[simp] theorem map_ok {α β : Type} (x : α) (f : α → β) :
    (Except.ok x : Except CxxException α).map f = .ok (f x) := rfl

theorem bind_eq_ok {α β : Type} {x : Except CxxException α}
    {f : α → Except CxxException β} {y : β} :
    (x >>= f) = .ok y ↔ ∃ a, x = .ok a ∧ f a = .ok y := by
  rcases x with e | a
  · exact ⟨nofun, nofun⟩
  · simp

theorem exists_ok_bind {α β : Type} {x : Except CxxException α} {a : α}
    {f : α → Except CxxException β} (hx : x = .ok a) (hf : ∃ y, f a = .ok y) :
    ∃ y, (x >>= f) = .ok y := by
  obtain ⟨y, hy⟩ := hf
  exact ⟨y, bind_eq_ok.mpr ⟨a, hx, hy⟩⟩

theorem map_eq_ok {α β : Type} {x : Except CxxException α} {f : α → β} {y : β} :
    x.map f = .ok y ↔ ∃ a, x = .ok a ∧ f a = y := by
  rcases x with e | a
  · exact ⟨nofun, nofun⟩
  · simp

/-! ## Putting values together -/

/-- An object literal. Of two entries with the same key the first one counts. -/
def ofFields (fields : List (String × Json)) : Json :=
  .object (fields.foldr (fun f m ↦ OrderedMap.set (ByteString.ofString f.1) f.2 m) [])

mutual

/-- `j.dump()` does not throw: all strings are UTF-8. -/
def isSerializable : Json → Bool
  | .string s => decide (ByteString.Utf8 s)
  | .array items => areSerializable items
  | .object members => membersSerializable members
  | _ => true

def areSerializable : List Json → Bool
  | [] => true
  | j :: js => j.isSerializable && areSerializable js

def membersSerializable : List (ByteString × Json) → Bool
  | [] => true
  | (key, j) :: ms => decide (ByteString.Utf8 key) && j.isSerializable && membersSerializable ms

end

/-! ## Reading what was put together -/

theorem member?_object (key : ByteString) (ms : List (ByteString × Json)) :
    (Json.object ms).member? key = OrderedMap.get? key ms := rfl

@[simp] theorem member?_ofFields_nil (key : ByteString) : (ofFields []).member? key = none := rfl

@[simp] theorem member?_ofFields_cons (key name : String) (v : Json)
    (fields : List (String × Json)) :
    (ofFields ((name, v) :: fields)).member? (.ofString key) =
      if name = key then some v else (ofFields fields).member? (.ofString key) := by
  rw [ofFields, List.foldr_cons, member?_object, OrderedMap.get?_set]
  simp only [ByteString.ofString_inj]
  rfl

/-- An entry of an object literal is read back, if no key comes twice. -/
theorem member?_ofFields_of_getElem? {fields : List (String × Json)} {i : ℕ} {name : String}
    {v : Json} (hnodup : (fields.map Prod.fst).Nodup) (h : fields[i]? = some (name, v)) :
    (ofFields fields).member? (.ofString name) = some v := by
  induction fields generalizing i with
  | nil => cases h
  | cons f fields ih =>
    rw [List.map_cons, List.nodup_cons] at hnodup
    rw [member?_ofFields_cons]
    cases i with
    | zero =>
      rw [List.getElem?_cons_zero] at h
      rw [Option.some.inj h, if_pos rfl]
    | succ i =>
      rw [List.getElem?_cons_succ] at h
      rw [if_neg, ih hnodup.2 h]
      rintro rfl
      exact hnodup.1 (List.mem_map.mpr ⟨_, List.mem_of_getElem? h, rfl⟩)

/-- `value` on an object. -/
theorem value_of_isObject {α : Type} (convert : Json → Option α) (key : String) (default : α)
    {j : Json} (hj : j.isObject) :
    value convert key default j = (j.member? (.ofString key)).elim (some default) convert := by
  cases j with
  | object ms =>
    rw [value]
    rcases member? (.ofString key) (.object ms) with _ | v <;> rfl
  | _ => cases hj

@[simp] theorem isObject_ofFields (fields : List (String × Json)) :
    (ofFields fields).isObject := rfl

@[simp] theorem value_ofFields {α : Type} (convert : Json → Option α) (key : String) (default : α)
    (fields : List (String × Json)) : value convert key default (ofFields fields) =
      ((ofFields fields).member? (.ofString key)).elim (some default) convert :=
  value_of_isObject convert key default (isObject_ofFields fields)

/-- What `value` gives is the default or comes out of the conversion. -/
theorem eq_or_convert_of_value {α : Type} {convert : Json → Option α} {key : String}
    {default x : α} {j : Json} (h : value convert key default j = some x) :
    default = x ∨ ∃ v, convert v = some x := by
  cases j with
  | object ms =>
    rw [value] at h
    split at h
    · exact .inr ⟨_, h⟩
    · exact .inl (Option.some.inj h)
  | _ => cases h

/-- What was read as an `int64_t` is one. -/
theorem castInt64_of_getInt64 {j : Json} {n : Int} (h : j.getInt64 = some n) :
    castInt64 n = n := by
  cases j with
  | integer k =>
    rw [← Option.some.inj h, castInt64_castInt64]
  | float x =>
    rw [← Option.some.inj h, castInt64_castInt64]
  | _ => cases h

/-- What was read as an `int` is one. -/
theorem castInt_of_getInt {j : Json} {n : Int} (h : j.getInt = some n) : castInt n = n := by
  cases j with
  | integer k => rw [← Option.some.inj h, castInt_castInt]
  | float x => rw [← Option.some.inj h, castInt_castInt]
  | boolean b =>
    rw [← Option.some.inj h]
    split_ifs
    · exact castInt_of_bounds (by omega) (by omega)
    · exact castInt_of_bounds (by omega) (by omega)
  | _ => cases h

theorem member?_of_not_isObject {key : ByteString} {j : Json} (hj : ¬j.isObject) :
    j.member? key = none := by
  cases j with
  | object ms => exact absurd rfl hj
  | _ => rfl

theorem member?_eq_get?_members (key : ByteString) (j : Json) :
    j.member? key = OrderedMap.get? key j.members := by
  cases j <;> rfl

/-! ## Writing values out -/

theorem areSerializable_iff {js : List Json} : areSerializable js ↔ ∀ j ∈ js, j.isSerializable := by
  induction js with
  | nil => simp [areSerializable]
  | cons j js ih => simp [areSerializable, ih]

theorem membersSerializable_iff {ms : List (ByteString × Json)} :
    membersSerializable ms ↔ ∀ e ∈ ms, ByteString.Utf8 e.1 ∧ e.2.isSerializable := by
  induction ms with
  | nil => simp [membersSerializable]
  | cons e ms ih => simp [membersSerializable, ih]

@[simp] theorem isSerializable_string (s : ByteString) :
    (Json.string s).isSerializable ↔ ByteString.Utf8 s := by
  rw [isSerializable, decide_eq_true_iff]

@[simp] theorem isSerializable_array (js : List Json) :
    (Json.array js).isSerializable ↔ ∀ j ∈ js, j.isSerializable := by
  rw [isSerializable, areSerializable_iff]

theorem isSerializable_object (ms : List (ByteString × Json)) :
    (Json.object ms).isSerializable ↔ ∀ e ∈ ms, ByteString.Utf8 e.1 ∧ e.2.isSerializable := by
  rw [isSerializable, membersSerializable_iff]

/-- A member of a value that can be written out can be written out. -/
theorem isSerializable_of_member? {key : ByteString} {j v : Json} (hj : j.isSerializable)
    (h : j.member? key = some v) : v.isSerializable := by
  cases j with
  | object ms =>
    rw [isSerializable_object] at hj
    exact (hj _ (OrderedMap.mem_of_get? h)).2
  | _ => cases h

/-- So can what a member is replaced by, and the rest. -/
theorem isSerializable_set {key : ByteString} {v : Json} {ms : List (ByteString × Json)}
    (hms : (Json.object ms).isSerializable) (hkey : ByteString.Utf8 key) (hv : v.isSerializable) :
    (Json.object (OrderedMap.set key v ms)).isSerializable := by
  rw [isSerializable_object] at hms ⊢
  intro e he
  rcases OrderedMap.mem_set he with rfl | he
  · exact ⟨hkey, hv⟩
  · exact hms e he

theorem isSerializable_fill {key : ByteString} {ok : Json → Bool} {v : Json}
    {ms : List (ByteString × Json)} (hms : (Json.object ms).isSerializable)
    (hkey : ByteString.Utf8 key) (hv : v.isSerializable) :
    (Json.object (OrderedMap.fill key ok v ms)).isSerializable := by
  rw [OrderedMap.fill]
  split
  · exact hms
  · exact isSerializable_set hms hkey hv

/-- An object literal can be written out when its values can. -/
theorem isSerializable_ofFields {fields : List (String × Json)}
    (h : ∀ f ∈ fields, f.2.isSerializable) : (ofFields fields).isSerializable := by
  rw [ofFields]
  induction fields with
  | nil => rfl
  | cons f fields ih =>
    rw [List.forall_mem_cons] at h
    exact isSerializable_set (ih h.2) (ByteString.utf8_ofString f.1) h.1

/-- And only then, if no key comes twice. -/
theorem isSerializable_ofFields_iff {fields : List (String × Json)}
    (hnodup : (fields.map Prod.fst).Nodup) :
    (ofFields fields).isSerializable ↔ ∀ f ∈ fields, f.2.isSerializable := by
  refine ⟨fun h f hf ↦ ?_, isSerializable_ofFields⟩
  obtain ⟨i, hi⟩ := List.mem_iff_getElem?.mp hf
  exact isSerializable_of_member? h (member?_ofFields_of_getElem? hnodup hi)

/-- The members of a value that can be written out, as an object. -/
theorem isSerializable_members {j : Json} (hj : j.isSerializable) :
    (Json.object j.members).isSerializable := by
  cases j with
  | object ms => exact hj
  | _ => rfl

end Json

/-- What reading a file and parsing it as JSON can find. -/
inductive FileContent
  | absent
  | malformed
  | json (j : Json)

end Foundation
