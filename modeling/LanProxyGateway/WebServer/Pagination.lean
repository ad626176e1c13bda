import LanProxyGateway.Foundation.Paging
import LanProxyGateway.UserManager.UserManager

/-!
# Pages of users

`GET /api/users` and `GET /api/concurrency/users` each take a page and its size from the URL and
compute in `int` where the page starts and where it ends. Nobody checks what they are given. The
first looks whether the start is behind the table, and cuts the page out with two iterators; the
second looks at nothing, and indexes the table in a loop.

Both give the right pages to whoever asks for the right ones: `paginates_iff` says exactly when a
request is safe and the pages of its size make up the table. Page zero is not safe in either.
-/

open Foundation ByteString

namespace LanProxyGateway

open Paging

/-! ## Access to a vector -/

/-- `std::vector(l.begin() + start, l.begin() + stop)`: undefined unless the two are positions of
the vector, in order. -/
def iteratorRange? {α : Type} (l : List α) (start stop : CInt) : Option (List α) :=
  if 0 ≤ start.val ∧ start.val ≤ stop.val ∧ stop.val ≤ l.length then
    some ((l.take stop.val.toNat).drop start.val.toNat)
  else none

/-- `l[i]`, `l[i + 1]`, … for a number of indices: undefined where one is outside the vector. -/
def elements? {α : Type} (l : List α) : ℕ → Int → Option (List α)
  | 0, _ => some []
  | n + 1, i =>
    if 0 ≤ i then do
      let a ← l[i.toNat]?
      let rest ← elements? l n (i + 1)
      some (a :: rest)
    else none

/-- `std::min(a, b)`. -/
def minInt (a b : CInt) : CInt := if b.val < a.val then b else a

/-! ## The two pagers -/

/-- What `user_manager::list_users_paginated` does with the list of all users. -/
def listPage {α : Type} (all : List α) (page pageSize : CInt) : Option (List α) := do
  let before ← page.sub? (.ofInt 1)
  let start ← before.mul? pageSize
  if (CInt.ofInt all.length).val ≤ start.val then some []
  else
    let stop ← start.add? pageSize
    iteratorRange? all start (minInt stop (.ofInt all.length))

/-- The users in the order of the table. -/
def UserManager.allUsers (m : UserManager) : List UserInfo := m.users.entries.map fun e ↦ e.2

/-- `user_manager::list_users_paginated`. -/
def UserManager.listUsersPaginated (m : UserManager) (page pageSize : CInt) :
    Option (List UserInfo) :=
  listPage m.allUsers page pageSize

/-- The users that the loop of `GET /api/concurrency/users` puts into its answer, for
`i = start, …, end - 1`. -/
def loopPage {α : Type} (users : List α) (page size : CInt) : Option (List α) := do
  let before ← page.sub? (.ofInt 1)
  let start ← before.mul? size
  let sum ← start.add? size
  let stop := minInt sum (.ofInt users.length)
  elements? users (stop.val - start.val).toNat start.val

/-! ## The two requests -/

/-- An `int` from the URL. -/
def urlInt (param : Option ByteString) (default : Int) : Except CxxException CInt :=
  match param with
  | none => .ok (.ofInt default)
  | some s => (stoi s).map CInt.ofInt

def listedUserJson (u : UserInfo) : Json := .ofFields [
  ("username", .string u.username),
  ("expire_time", .integer u.expireTime),
  ("active", .boolean u.active)]

/-- `GET /api/users`, behind its guard, up to writing out the answer: an exception, or undefined,
or a JSON value. -/
def getUsers (m : UserManager) (pageParam pageSizeParam : Option ByteString) :
    Except CxxException (Option Json) := do
  let page ← urlInt pageParam 1
  let pageSize ← urlInt pageSizeParam 20
  .ok ((m.listUsersPaginated page pageSize).map fun users ↦ .ofFields [
    ("users", .array (users.map listedUserJson)),
    ("page", .integer page.val),
    ("page_size", .integer pageSize.val)])

/-- `user_metrics`. -/
structure UserMetrics where
  username : ByteString := []
  activeConnections : Int := 0
  totalConnections : Int := 0
  bytesUp : UInt64 := 0
  bytesDown : UInt64 := 0
  deriving DecidableEq, Repr

def userMetricsJson (u : UserMetrics) : Json := .ofFields [
  ("username", .string u.username),
  ("active_connections", .integer u.activeConnections),
  ("total_connections", .integer u.totalConnections),
  ("bytes_up", .integer u.bytesUp.toNat),
  ("bytes_down", .integer u.bytesDown.toNat)]

/-- `GET /api/concurrency/users`, behind its guard, for what `get_all_user_metrics` returns. -/
def getConcurrencyUsers (users : List UserMetrics) (pageParam sizeParam : Option ByteString) :
    Except CxxException (Option Json) := do
  let page ← urlInt pageParam 1
  let size ← urlInt sizeParam 50
  .ok ((loopPage users page size).map fun users ↦ .array (users.map userMetricsJson))

/-! ## Where a page starts -/

section Pages

variable {α : Type} {l : List α} {page size : CInt}

/-- `(page - 1) * size`, as an exact number. -/
def startOf (page size : CInt) : Int := (page.val - 1) * size.val

/-- The start can be computed. -/
def StartFits (page size : CInt) : Prop := CInt.Fits (page.val - 1) ∧ CInt.Fits (startOf page size)

theorem one_val : (CInt.ofInt 1).val = 1 := CInt.val_ofInt (by decide)

/-- What a pager does after it has computed the start. -/
theorem start_bind_eq_some_iff {β : Type} {f : CInt → Option β} {x : β} :
    ((page.sub? (.ofInt 1)).bind fun before ↦ (before.mul? size).bind f) = some x ↔
      StartFits page size ∧ ∃ start : CInt, start.val = startOf page size ∧ f start = some x := by
  simp only [Option.bind_eq_some_iff]
  constructor
  · rintro ⟨before, hsub, start, hmul, hx⟩
    have hbefore := CInt.checked_eq_some_iff.mp hsub
    have hstart := CInt.checked_eq_some_iff.mp hmul
    rw [one_val] at hbefore
    rw [hbefore, ← startOf] at hstart
    exact ⟨⟨hbefore ▸ before.fits_val, hstart ▸ start.fits_val⟩, start, hstart, hx⟩
  · rintro ⟨hfits, start, hstart, hx⟩
    obtain ⟨before, hbefore, hsub⟩ := CInt.exists_sub? (a := page) (b := .ofInt 1)
      (by rw [one_val]; exact hfits.1)
    rw [one_val] at hbefore
    refine ⟨before, hsub, start, CInt.checked_eq_some_iff.mpr ?_, hx⟩
    rw [hstart, hbefore, startOf]

/-- `(int)size()`. -/
def intLength (l : List α) : Int := (CInt.ofInt l.length).val

theorem intLength_le (l : List α) : intLength l ≤ l.length := CInt.val_ofInt_natCast_le _

theorem intLength_eq (h : l.length ≤ 2147483647) : intLength l = l.length :=
  CInt.val_ofInt ⟨by omega, by omega⟩

/-- What is on a page, where anything is. -/
def onPage (l : List α) (page size : CInt) : List α :=
  (l.drop (startOf page size).toNat).take (min size.val (intLength l - startOf page size)).toNat

theorem take_eq_onPage {n : ℕ} (hn : n = min size.val (intLength l - startOf page size)) :
    (l.drop (startOf page size).toNat).take n = onPage l page size := by
  rw [onPage, ← hn, Int.toNat_natCast]

theorem count_eq {start stop length sizeVal : Int} (hpos : 0 ≤ start)
    (hstop : stop = start + sizeVal) (hle : start ≤ min stop length) :
    (((min stop length).toNat - start.toNat : ℕ) : Int) = min sizeVal (length - start) := by
  omega

theorem val_minInt (a b : CInt) : (minInt a b).val = min a.val b.val := by
  rw [minInt]
  split <;> omega

/-! ## What the pagers do -/

theorem iteratorRange?_eq_some_iff {start stop : CInt} {entries : List α} :
    iteratorRange? l start stop = some entries ↔
      (0 ≤ start.val ∧ start.val ≤ stop.val ∧ stop.val ≤ l.length) ∧
        (l.drop start.val.toNat).take (stop.val.toNat - start.val.toNat) = entries := by
  rw [iteratorRange?]
  split
  · rename_i h
    rw [Option.some_inj, List.drop_take]
    exact (and_iff_right h).symm
  · rename_i h
    exact ⟨nofun, fun h' ↦ absurd h'.1 h⟩

theorem elements?_eq {n i : ℕ} (h : i + n ≤ l.length) :
    elements? l n i = some ((l.drop i).take n) := by
  induction n generalizing i with
  | zero => rfl
  | succ n ih =>
    have hlt : i < l.length := by omega
    have hnext := ih (i := i + 1) (by omega)
    push_cast at hnext
    rw [elements?, if_pos (Int.natCast_nonneg i), Int.toNat_natCast, List.getElem?_eq_getElem hlt,
      hnext, List.drop_eq_getElem_cons hlt, List.take_succ_cons]
    rfl

theorem elements?_of_neg {n : ℕ} {i : Int} (hn : n ≠ 0) (hi : i < 0) : elements? l n i = none := by
  obtain ⟨m, rfl⟩ := Nat.exists_eq_succ_of_ne_zero hn
  rw [elements?, if_neg (by omega)]

/-- **A page of `GET /api/users`** is empty where it starts behind the table, and otherwise what it
should be, unless something is negative or its end does not fit. -/
theorem listPage_eq_some_iff {entries : List α} : listPage l page size = some entries ↔
    StartFits page size ∧ (intLength l ≤ startOf page size ∧ entries = [] ∨
      startOf page size < intLength l ∧ 0 ≤ startOf page size ∧ 0 ≤ size.val ∧
        startOf page size + size.val ≤ 2147483647 ∧ entries = onPage l page size) := by
  have hlength := intLength_le l
  simp only [listPage, Option.bind_eq_bind]
  rw [start_bind_eq_some_iff]
  refine and_congr_right fun hfits ↦ ?_
  constructor
  · rintro ⟨start, hstart, h⟩
    rw [← intLength, hstart] at h
    split at h
    · rename_i hbehind
      exact .inl ⟨hbehind, (Option.some.inj h).symm⟩
    · rename_i hbehind
      obtain ⟨stop, hsum, h⟩ := Option.bind_eq_some_iff.mp h
      obtain ⟨⟨hpos, hle, -⟩, rfl⟩ := iteratorRange?_eq_some_iff.mp h
      have hstop := CInt.checked_eq_some_iff.mp hsum
      have hhi := stop.hi
      rw [val_minInt, ← intLength] at hle ⊢
      rw [hstart] at hpos hle hstop ⊢
      have hcount := count_eq hpos hstop hle
      exact .inr ⟨by omega, hpos, by omega, by omega, take_eq_onPage hcount⟩
  · obtain ⟨start, hstart, -⟩ := CInt.checked_of_fits hfits.2
    rintro (⟨hbehind, hentries⟩ | ⟨hlt, hpos, hsize, hle, hentries⟩)
    · refine ⟨start, hstart, ?_⟩
      rw [← intLength, hstart, if_pos hbehind, hentries]
    · refine ⟨start, hstart, ?_⟩
      obtain ⟨stop, hstop, hsum⟩ := CInt.exists_add? (a := start) (b := size)
        ⟨by omega, by omega⟩
      rw [hstart] at hstop
      have hmin : startOf page size ≤ min stop.val (intLength l) := by omega
      rw [← intLength, hstart, if_neg (by omega), hsum, Option.bind_some,
        iteratorRange?_eq_some_iff, val_minInt, ← intLength, hstart, hentries]
      exact ⟨⟨hpos, hmin, by omega⟩, take_eq_onPage (count_eq hpos hstop hmin)⟩

/-- The loop over the indices of a page. -/
theorem elements?_eq_some_iff {stop : Int} (hstop : stop = startOf page size + size.val)
    {entries : List α} :
    elements? l (min stop (intLength l) - startOf page size).toNat (startOf page size) =
        some entries ↔
      (size.val ≤ 0 ∨ intLength l ≤ startOf page size) ∧ entries = [] ∨
        0 < size.val ∧ startOf page size < intLength l ∧ 0 ≤ startOf page size ∧
          entries = onPage l page size := by
  have hlength := intLength_le l
  by_cases hempty : size.val ≤ 0 ∨ intLength l ≤ startOf page size
  · have hcount : (min stop (intLength l) - startOf page size).toNat = 0 := by omega
    rw [hcount, elements?, Option.some_inj, eq_comm]
    exact ⟨fun h ↦ .inl ⟨hempty, h⟩, fun h ↦ h.elim And.right fun h ↦ absurd hempty (by omega)⟩
  by_cases hneg : startOf page size < 0
  · rw [elements?_of_neg (by omega) hneg]
    exact ⟨nofun, fun h ↦ h.elim (fun h ↦ absurd h.1 hempty) fun h ↦ absurd h.2.2.1 (by omega)⟩
  obtain ⟨i, hi⟩ := Int.eq_ofNat_of_zero_le (Int.not_lt.mp hneg)
  have hcount : min size.val (intLength l - startOf page size) =
      min stop (intLength l) - startOf page size := by omega
  have hread := elements?_eq (l := l) (i := i)
    (n := (min stop (intLength l) - startOf page size).toNat) (by omega)
  rw [← hi] at hread
  rw [hread, Option.some_inj, onPage, hcount, hi, Int.toNat_natCast, eq_comm]
  exact ⟨fun h ↦ .inr ⟨by omega, by omega, by omega, h⟩, fun h ↦ h.elim
    (fun h ↦ absurd h.1 (by omega)) fun h ↦ h.2.2.2⟩

/-- **A page of `GET /api/concurrency/users`**: its end is computed whatever its start is, and its
start may be negative only where nothing is read. -/
theorem loopPage_eq_some_iff {entries : List α} : loopPage l page size = some entries ↔
    StartFits page size ∧ CInt.Fits (startOf page size + size.val) ∧
      ((size.val ≤ 0 ∨ intLength l ≤ startOf page size) ∧ entries = [] ∨
        0 < size.val ∧ startOf page size < intLength l ∧ 0 ≤ startOf page size ∧
          entries = onPage l page size) := by
  simp only [loopPage, Option.bind_eq_bind]
  rw [start_bind_eq_some_iff]
  refine and_congr_right fun hfits ↦ ?_
  constructor
  · rintro ⟨start, hstart, h⟩
    obtain ⟨stop, hsum, h⟩ := Option.bind_eq_some_iff.mp h
    have hstop := CInt.checked_eq_some_iff.mp hsum
    rw [hstart] at hstop
    rw [val_minInt, ← intLength, hstart, elements?_eq_some_iff hstop] at h
    exact ⟨hstop ▸ stop.fits_val, h⟩
  · rintro ⟨hsum, h⟩
    obtain ⟨start, hstart, -⟩ := CInt.checked_of_fits hfits.2
    rw [← hstart] at hsum
    obtain ⟨stop, hstop, hadd⟩ := CInt.exists_add? hsum
    rw [hstart] at hstop
    refine ⟨start, hstart, ?_⟩
    rw [hadd, Option.bind_some, val_minInt, ← intLength, hstart, elements?_eq_some_iff hstop]
    exact h

/-! ## Both are pagers -/

theorem startOf_add (page size : CInt) : startOf page size + size.val = page.val * size.val := by
  rw [startOf, Int.sub_mul, Int.one_mul, Int.sub_add_cancel]

theorem length_onPage_le (hsize : 0 ≤ size.val) :
    ((onPage l page size).length : Int) ≤ size.val := by
  have := List.length_take_le (min size.val (intLength l - startOf page size)).toNat
    (l.drop (startOf page size).toNat)
  rw [onPage]
  omega

section Exact

variable {k s : ℕ} (hpage : page.val = (k + 1 : ℕ)) (hsize : size.val = s)
  (hlength : l.length ≤ 2147483647)

include hpage hsize

theorem startOf_eq : startOf page size = (k * s : ℕ) := by
  rw [startOf, hpage, hsize, Int.natCast_add, Int.natCast_one, Int.add_sub_cancel, Int.natCast_mul]

include hlength

theorem onPage_eq (hbefore : k * s < l.length) : onPage l page size = Paging.page s k l := by
  rw [onPage, startOf_eq hpage hsize, intLength_eq hlength, hsize, Paging.page, Int.toNat_natCast,
    List.take_eq_take_iff, List.length_drop]
  omega

end Exact

theorem page_eq_nil {k s : ℕ} (h : l.length ≤ k * s) : Paging.page s k l = [] := by
  rw [Paging.page, List.drop_eq_nil_of_le h, List.take_nil]

/-- The start of a page that ends in range. -/
theorem startFits_of_le {k s : ℕ} (hpage : page.val = (k + 1 : ℕ)) (hsize : size.val = s)
    (hs : 1 ≤ s) (hend : (k + 1) * s ≤ 2147483647) : StartFits page size := by
  have hstart := startOf_eq hpage hsize
  have hk : k + 1 ≤ (k + 1) * s := Nat.le_mul_of_pos_right _ hs
  rw [Nat.succ_mul] at hend hk
  refine ⟨⟨by omega, by omega⟩, ?_⟩
  rw [hstart]
  exact ⟨by omega, by omega⟩

theorem isPager_listPage (l : List α) : IsPager l (listPage l) where
  length_le h hsize := by
    rcases (listPage_eq_some_iff.mp h).2 with ⟨-, hnil⟩ | ⟨-, -, -, -, hentries⟩
    · rw [hnil, List.length_nil]
      omega
    · rw [hentries]
      exact length_onPage_le (by omega)
  end_le h hne := by
    rcases (listPage_eq_some_iff.mp h).2 with ⟨-, hnil⟩ | ⟨-, -, -, hend, -⟩
    · exact absurd hnil hne
    · rwa [← startOf_add]
  eq_page := by
    intro number size k s hnumber hsize hs hend hlength
    have hstart := startOf_eq hnumber hsize
    rw [listPage_eq_some_iff, hstart, intLength_eq hlength, hsize]
    refine ⟨startFits_of_le hnumber hsize hs hend, ?_⟩
    rw [Nat.succ_mul] at hend
    rcases Nat.lt_or_ge (k * s) l.length with hbefore | hbehind
    · exact .inr ⟨by omega, by omega, by omega, by omega,
        (onPage_eq hnumber hsize hlength hbefore).symm⟩
    · exact .inl ⟨by omega, page_eq_nil hbehind⟩

theorem isPager_loopPage (l : List α) : IsPager l (loopPage l) where
  length_le h hsize := by
    rcases (loopPage_eq_some_iff.mp h).2.2 with ⟨-, hnil⟩ | ⟨-, -, -, hentries⟩
    · rw [hnil, List.length_nil]
      omega
    · rw [hentries]
      exact length_onPage_le (by omega)
  end_le h _ := by
    rw [← startOf_add]
    exact (loopPage_eq_some_iff.mp h).2.1.2
  eq_page := by
    intro number size k s hnumber hsize hs hend hlength
    have hstart := startOf_eq hnumber hsize
    rw [loopPage_eq_some_iff, hstart, intLength_eq hlength, hsize]
    refine ⟨startFits_of_le hnumber hsize hs hend, ?_⟩
    rw [Nat.succ_mul] at hend
    refine ⟨⟨by omega, by omega⟩, ?_⟩
    rcases Nat.lt_or_ge (k * s) l.length with hbefore | hbehind
    · exact .inr ⟨by omega, by omega, by omega, (onPage_eq hnumber hsize hlength hbefore).symm⟩
    · exact .inl ⟨.inr (by omega), page_eq_nil hbehind⟩

/-! ## Requests -/

/-- A request with this page and size is safe; and if the size is positive, the pages of that size
make up the table, and the page is empty if it is none of them. -/
structure Paginates (l : List α) (paginate : CInt → CInt → Option (List α)) (page size : CInt) :
    Prop where
  safe : paginate page size ≠ none
  exact : 1 ≤ size.val →
    concatPages paginate size (pageCount l.length size.val.toNat) = some l
  later : 1 ≤ size.val → (pageCount l.length size.val.toNat : Int) < page.val →
    paginate page size = some []

/-- The end of the last page with an entry is an `int`. -/
def LastFits (n : ℕ) (size : CInt) : Prop :=
  1 ≤ size.val → pageCount n size.val.toNat * size.val.toNat ≤ 2147483647

/-- What `list_users_paginated` needs. -/
structure ListSafe (l : List α) (page size : CInt) : Prop where
  start : StartFits page size
  range : intLength l ≤ startOf page size ∨
    0 ≤ startOf page size ∧ 0 ≤ size.val ∧ startOf page size + size.val ≤ 2147483647

/-- What the loop needs. -/
structure LoopSafe (l : List α) (page size : CInt) : Prop where
  start : StartFits page size
  stop : CInt.Fits (startOf page size + size.val)
  range : 0 ≤ startOf page size ∨ size.val ≤ 0 ∨ intLength l ≤ startOf page size

theorem listPage_ne_none_iff : listPage l page size ≠ none ↔ ListSafe l page size := by
  rw [Option.ne_none_iff_exists']
  simp only [listPage_eq_some_iff]
  constructor
  · rintro ⟨entries, hfits, hrange⟩
    exact ⟨hfits, hrange.imp And.left fun h ↦ ⟨h.2.1, h.2.2.1, h.2.2.2.1⟩⟩
  · rintro ⟨hfits, hrange⟩
    by_cases hbehind : intLength l ≤ startOf page size
    · exact ⟨[], hfits, .inl ⟨hbehind, rfl⟩⟩
    · obtain ⟨hpos, hsize, hend⟩ := hrange.resolve_left hbehind
      exact ⟨_, hfits, .inr ⟨Int.not_le.mp hbehind, hpos, hsize, hend, rfl⟩⟩

theorem loopPage_ne_none_iff : loopPage l page size ≠ none ↔ LoopSafe l page size := by
  rw [Option.ne_none_iff_exists']
  simp only [loopPage_eq_some_iff]
  constructor
  · rintro ⟨entries, hfits, hsum, hrange⟩
    refine ⟨hfits, hsum, ?_⟩
    rcases hrange with ⟨hempty, -⟩ | ⟨-, -, hpos, -⟩
    · exact .inr hempty
    · exact .inl hpos
  · rintro ⟨hfits, hsum, hrange⟩
    by_cases hempty : size.val ≤ 0 ∨ intLength l ≤ startOf page size
    · exact ⟨[], hfits, hsum, .inl ⟨hempty, rfl⟩⟩
    · have hpos := hrange.resolve_right hempty
      rw [not_or, Int.not_le, Int.not_le] at hempty
      exact ⟨_, hfits, hsum, .inr ⟨hempty.1, hempty.2, hpos, rfl⟩⟩

/-- A later page starts behind the table. -/
theorem intLength_le_of_later (hsize : 1 ≤ size.val)
    (hlater : (pageCount l.length size.val.toNat : Int) < page.val) :
    intLength l ≤ startOf page size := by
  have hsizeNat : (size.val.toNat : Int) = size.val := Int.toNat_of_nonneg (by omega)
  have hcover := le_pageCount_mul l.length (s := size.val.toNat) (by omega)
  calc intLength l ≤ (l.length : Int) := intLength_le l
    _ ≤ (pageCount l.length size.val.toNat * size.val.toNat : ℕ) := Int.ofNat_le.mpr hcover
    _ = (pageCount l.length size.val.toNat : Int) * size.val := by
      rw [Int.natCast_mul, hsizeNat]
    _ ≤ (page.val - 1) * size.val :=
      Int.mul_le_mul_of_nonneg_right (Int.le_sub_one_of_lt hlater) (by omega)

/-- For a pager, the parts of `Paginates` but for the first come down to the end of the last
page. -/
theorem paginates_iff_of_isPager {paginate : CInt → CInt → Option (List α)} {Safe : Prop}
    (hpager : IsPager l paginate) (hsafe : paginate page size ≠ none ↔ Safe)
    (hlater : Safe → 1 ≤ size.val → intLength l ≤ startOf page size →
      paginate page size = some []) :
    Paginates l paginate page size ↔ Safe ∧ LastFits l.length size := by
  have hexact : 1 ≤ size.val → (concatPages paginate size (pageCount l.length size.val.toNat) =
      some l ↔ pageCount l.length size.val.toNat * size.val.toNat ≤ 2147483647) := fun hsize ↦
    hpager.concatPages_eq_some_iff (Int.toNat_of_nonneg (by omega)).symm (by omega)
  constructor
  · rintro ⟨hpage, hall, -⟩
    exact ⟨hsafe.mp hpage, fun hsize ↦ (hexact hsize).mp (hall hsize)⟩
  · rintro ⟨hpage, hfits⟩
    exact ⟨hsafe.mpr hpage, fun hsize ↦ (hexact hsize).mpr (hfits hsize),
      fun hsize hbehind ↦ hlater hpage hsize (intLength_le_of_later hsize hbehind)⟩

end Pages

/-- **Both requests page** as they should exactly where their arithmetic stays in range, the page
they compute lies in the table, and the last page with an entry ends in range. -/
theorem paginates_iff (m : UserManager) (users : List UserMetrics) (page size : CInt) :
    (Paginates m.allUsers m.listUsersPaginated page size ↔
      ListSafe m.allUsers page size ∧ LastFits m.allUsers.length size) ∧
    (Paginates users (loopPage users) page size ↔
      LoopSafe users page size ∧ LastFits users.length size) := by
  constructor
  · refine paginates_iff_of_isPager (isPager_listPage _) listPage_ne_none_iff ?_
    exact fun hsafe _ hbehind ↦ listPage_eq_some_iff.mpr ⟨hsafe.start, .inl ⟨hbehind, rfl⟩⟩
  · refine paginates_iff_of_isPager (isPager_loopPage _) loopPage_ne_none_iff ?_
    exact fun hsafe _ hbehind ↦
      loopPage_eq_some_iff.mpr ⟨hsafe.start, hsafe.stop, .inl ⟨.inr hbehind, rfl⟩⟩

/-- The second page of three entries has one of them. -/
example : listPage [1, 2, 3] (.ofInt 2) (.ofInt 2) = some [3] ∧
    loopPage [1, 2, 3] (.ofInt 2) (.ofInt 2) = some [3] := by decide

/-- One user with metrics. -/
def oneMetrics : List UserMetrics := [{ username := ofString "alice" }]

/-- A table with one user. -/
def oneUser : UserManager where
  users := AList.insert (ofString "alice") { username := ofString "alice" } ∅

/-- Page zero, of the default size, starts before the table in both. -/
theorem pageZero_not_paginates :
    getUsers oneUser (some (ofString "0")) none = .ok none ∧
    getConcurrencyUsers oneMetrics (some (ofString "0")) none = .ok none ∧
    ¬Paginates oneUser.allUsers oneUser.listUsersPaginated (.ofInt 0) (.ofInt 20) ∧
    ¬Paginates oneMetrics (loopPage oneMetrics) (.ofInt 0) (.ofInt 50) := by
  have hlist : oneUser.listUsersPaginated (.ofInt 0) (.ofInt 20) = none := by decide
  have hloop : loopPage oneMetrics (.ofInt 0) (.ofInt 50) = none := by decide
  have hparam : urlInt (some (ofString "0")) 1 = .ok (.ofInt 0) := by decide +kernel
  refine ⟨?_, ?_, fun h ↦ h.safe hlist, fun h ↦ h.safe hloop⟩
  · rw [getUsers, hparam]
    exact congrArg (fun o ↦ Except.ok (Option.map _ o)) hlist
  · rw [getConcurrencyUsers, hparam]
    exact congrArg (fun o ↦ Except.ok (Option.map _ o)) hloop

end LanProxyGateway
