import LanProxyGateway.UserManager.UserManager

/-!
# Do users survive a restart?

Every account of a table is under its own name, and its end is a `time_t`: loading makes such tables
only, and no call changes that. So an account is written as it is and read as it was written.

An entry without a name is skipped by a load, but `add_user` takes the empty name like any other.
And a save that could not write all of its text puts the part it wrote in the place of the old file.
-/

open Foundation ByteString

namespace LanProxyGateway

namespace UserManager

/-! ## The tables that there can be -/

/-- A change of the table. -/
inductive Call
  | addUser (lib : HashLibrary) (salt : ByteString) (time : Int) (username password : ByteString)
      (days : Int)
  | removeUser (username : ByteString)
  | setStatus (username : ByteString) (active : Bool)
  | updatePassword (lib : HashLibrary) (salt username newPassword : ByteString)

def call (m : UserManager) : Call → UserManager
  | .addUser lib salt time username password days =>
    (m.addUser lib salt time username password days).2
  | .removeUser username => (m.removeUser username).2
  | .setStatus username active => (m.setStatus username active).2
  | .updatePassword lib salt username newPassword =>
    (m.updatePassword lib salt username newPassword).2

/-- A file is loaded, and then calls are made. An unordered map may put its entries into any order
in between. -/
inductive Reachable : UserManager → Prop
  | load (filepath : ByteString) (file : FileContent) : Reachable (load filepath file).2
  | call {m : UserManager} (c : Call) (h : Reachable m) : Reachable (m.call c)
  | reorder {m : UserManager} {users : AList fun _ : ByteString ↦ UserInfo} (h : Reachable m)
      (hperm : users.entries.Perm m.users.entries) : Reachable { m with users := users }

/-! ## Accounts under their names -/

/-- The account under a name is the one of that name, and its end is a `time_t`. -/
def Filed (users : AList fun _ : ByteString ↦ UserInfo) : Prop :=
  ∀ name info, users.lookup name = some info →
    info.username = name ∧ Json.castInt64 info.expireTime = info.expireTime

variable {users : AList fun _ : ByteString ↦ UserInfo} {m : UserManager} {info : UserInfo}

theorem filed_empty : Filed ∅ := by
  intro name info h
  rw [AList.lookup_empty] at h
  cases h

theorem Filed.insert {name : ByteString} (h : Filed users) (hname : info.username = name)
    (hinfo : Json.castInt64 info.expireTime = info.expireTime) :
    Filed (users.insert name info) := by
  intro name' info' hlookup
  by_cases heq : name' = name
  · subst heq
    rw [AList.lookup_insert, Option.some.injEq] at hlookup
    exact hlookup ▸ ⟨hname, hinfo⟩
  · rw [AList.lookup_insert_ne heq] at hlookup
    exact h name' info' hlookup

theorem Filed.erase (h : Filed users) (name : ByteString) : Filed (users.erase name) := by
  intro name' info' hlookup
  by_cases hname : name' = name
  · rw [hname, AList.lookup_erase] at hlookup
    cases hlookup
  · rw [AList.lookup_erase_ne hname] at hlookup
    exact h name' info' hlookup

/-- A change that leaves the name and the end of an account alone. -/
theorem Filed.modifyUser (h : Filed m.users) (username : ByteString) {f : UserInfo → UserInfo}
    (hname : ∀ info, (f info).username = info.username)
    (hexpire : ∀ info, (f info).expireTime = info.expireTime) :
    Filed (m.modifyUser username f).2.users := by
  rw [UserManager.modifyUser]
  rcases hlookup : m.users.lookup username with _ | info
  · exact h
  · obtain ⟨rfl, hinfo⟩ := h username info hlookup
    exact h.insert (hname info) (by rw [hexpire, hinfo])

/-- **No call moves an account away from its name.** -/
theorem Filed.call (h : Filed m.users) (c : Call) : Filed (m.call c).users := by
  cases c with
  | addUser lib salt time username password days =>
    rw [UserManager.call, addUser]
    split
    · exact h
    · refine h.insert rfl ?_
      simp only
      split
      · rw [Json.castInt64_castInt64]
      · rfl
  | removeUser username =>
    rw [UserManager.call, removeUser]
    split
    · exact h.erase username
    · exact h
  | setStatus username active => exact h.modifyUser username (fun _ ↦ rfl) fun _ ↦ rfl
  | updatePassword lib salt username newPassword =>
    exact h.modifyUser username (fun _ ↦ rfl) fun _ ↦ rfl

/-- The end of an account that was read is a `time_t`. -/
theorem castInt64_of_readUser {u : Json} (h : readUser u = some info) :
    Json.castInt64 info.expireTime = info.expireTime := by
  simp only [readUser, Option.bind_eq_bind, Option.bind_eq_some_iff, Option.some.injEq] at h
  obtain ⟨_, -, _, -, expireTime, hexpire, _, -, rfl⟩ := h
  rcases Json.eq_or_convert_of_value hexpire with rfl | ⟨v, hv⟩
  · rfl
  · exact Json.castInt64_of_getInt64 hv

theorem Filed.readUsers (h : Filed users) (us : List Json) : Filed (readUsers users us).2 := by
  induction us generalizing users with
  | nil => exact h
  | cons u us ih =>
    rw [UserManager.readUsers]
    rcases hread : readUser u with _ | info
    · exact h
    · apply ih
      split
      · exact h
      · exact h.insert rfl (castInt64_of_readUser hread)

theorem filed_of_reachable (h : Reachable m) : Filed m.users := by
  induction h with
  | load filepath file =>
    cases file with
    | json j => exact filed_empty.readUsers _
    | _ => exact filed_empty
  | call c _ ih => exact ih.call c
  | reorder _ hperm ih =>
    intro name info hlookup
    rw [AList.perm_lookup hperm] at hlookup
    exact ih name info hlookup

/-! ## Reading what was written -/

/-- An account with an end that is a `time_t` is read as it was written. -/
theorem readUser_userJson (h : Json.castInt64 info.expireTime = info.expireTime) :
    readUser (userJson info) = some info := by
  simp only [readUser, userJson, Json.value_ofFields, Json.member?_ofFields_cons, String.reduceEq,
    if_false, if_true, Option.elim_some, Json.getString_string, Json.getInt64, Json.getBool_boolean,
    h, Option.bind_eq_bind, Option.bind_some]

/-- The entries of a table that have a name, put into another one. -/
def putNamed (users : AList fun _ : ByteString ↦ UserInfo)
    (es : List (Σ _ : ByteString, UserInfo)) : AList fun _ : ByteString ↦ UserInfo :=
  es.foldl (fun users e ↦
    if e.2.username = [] then users else users.insert e.2.username e.2) users

variable {es : List (Σ _ : ByteString, UserInfo)}

/-- The entries are all read, and those that have a name are put into the table. -/
theorem readUsers_map_userJson
    (hes : ∀ e ∈ es, Json.castInt64 e.2.expireTime = e.2.expireTime) :
    readUsers users (es.map fun e ↦ userJson e.2) = (true, putNamed users es) := by
  induction es generalizing users with
  | nil => rfl
  | cons e es ih =>
    rw [List.forall_mem_cons] at hes
    rw [List.map_cons, readUsers, readUser_userJson hes.1]
    exact ih hes.2

/-- What is in the table then: the accounts that have a name. -/
theorem lookup_putNamed (hnodup : es.NodupKeys) (hes : ∀ e ∈ es, e.2.username = e.1)
    (name : ByteString) : (putNamed users es).lookup name =
      if name = [] then users.lookup name else (es.dlookup name).or (users.lookup name) := by
  induction es generalizing users with
  | nil => rw [List.dlookup_nil, Option.none_or, ite_self, putNamed, List.foldl_nil]
  | cons e es ih =>
    obtain ⟨key, info⟩ := e
    rw [List.nodupKeys_cons] at hnodup
    rw [List.forall_mem_cons] at hes
    obtain rfl : info.username = key := hes.1
    have hcons : putNamed users (⟨info.username, info⟩ :: es) = putNamed
        (if info.username = [] then users else users.insert info.username info) es := rfl
    rw [hcons, ih hnodup.2 hes.2]
    by_cases hname : name = info.username
    · subst hname
      -- an account without a name is skipped, and no other entry has its key
      by_cases hnil : info.username = []
      · rw [if_pos hnil, if_pos hnil, if_pos hnil]
      · rw [if_neg hnil, if_neg hnil, if_neg hnil, List.dlookup_cons_eq, AList.lookup_insert,
          List.dlookup_eq_none.mpr hnodup.1, Option.none_or, Option.some_or]
    · have hother : AList.lookup name (if info.username = [] then users
          else users.insert info.username info) = users.lookup name := by
        split
        · rfl
        · exact AList.lookup_insert_ne hname
      rw [hother, List.dlookup_cons_ne _ _ hname]

/-- **The table that a load makes of a written one** lacks the account without a name. -/
theorem load_usersJson (h : Filed m.users) : ∃ users, load m.filepath (.json m.usersJson) =
    (true, { filepath := m.filepath, users := users }) ∧
      ∀ name, users.lookup name = if name = [] then none else m.users.lookup name := by
  have hentry : ∀ e ∈ m.users.entries, e.2.username = e.1 ∧
      Json.castInt64 e.2.expireTime = e.2.expireTime := by
    intro e he
    exact h e.1 e.2 (AList.mem_lookup_iff.mpr he)
  have hread : (m.usersJson.member? (ofString "users")).elim [] Json.arrayItems =
      m.users.entries.map fun e ↦ userJson e.2 := by
    simp only [usersJson, Json.member?_ofFields_cons, String.reduceEq, if_false, if_true,
      Option.elim_some, Json.arrayItems]
  refine ⟨putNamed ∅ m.users.entries, ?_, ?_⟩
  · rw [load, hread, readUsers_map_userJson fun e he ↦ (hentry e he).2]
  · intro name
    rw [lookup_putNamed m.users.nodupKeys fun e he ↦ (hentry e he).1, AList.lookup_empty,
      Option.or_none]
    rfl

/-! ## The restart -/

/-- A new `user_manager` loads the file, and has the same accounts. -/
def Reloads (m : UserManager) (file : FileContent) : Prop :=
  ∃ m', load m.filepath file = (true, m') ∧ m'.users.entries.Perm m.users.entries

/-- What a save that succeeds has put into the file. -/
theorem eq_of_save {answer : SaveAnswer} {old file : FileContent}
    (hsave : save answer m old = .ok (true, file)) :
    file = if answer.writes then .json m.usersJson else .malformed := by
  rw [save] at hsave
  split_ifs at hsave <;> simp_all

/-- **Users survive a restart** exactly when all of the text was written and nobody has the empty
name. -/
theorem reloads_iff (h : Reachable m) {answer : SaveAnswer} {old file : FileContent}
    (hsave : save answer m old = .ok (true, file)) :
    Reloads m file ↔ answer.writes ∧ m.users.lookup [] = none := by
  rw [eq_of_save hsave, Reloads]
  by_cases hwrites : answer.writes
  · obtain ⟨users, hload, hlookup⟩ := load_usersJson (filed_of_reachable h)
    rw [if_pos hwrites, hload, and_iff_right hwrites]
    constructor
    · rintro ⟨_, ⟨⟩, hperm⟩
      rw [← AList.perm_lookup hperm, hlookup, if_pos rfl]
    -- two tables with the same lookups are the same up to order
    · intro hnil
      refine ⟨_, rfl, ?_⟩
      apply List.lookup_ext users.nodupKeys m.users.nodupKeys
      intro name info
      have hsame : users.lookup name = m.users.lookup name := by
        rw [hlookup]
        split
        · rw [‹name = []›, hnil]
        · rfl
      rw [← AList.lookup, ← AList.lookup, hsame]
  · rw [if_neg hwrites]
    apply iff_of_false
    · rintro ⟨_, hload, -⟩
      cases hload
    · exact fun hand ↦ hwrites hand.1

/-! ## Two accounts -/

/-- The key of one password under one salt; there is no `python3`. -/
def secretHash : HashLibrary where
  popen := fun _ ↦ some []
  pbkdf2HmacSha256 := fun _ _ _ ↦
    [63, 235, 177, 96, 37, 45, 167, 170, 176, 8, 125, 1, 240, 250, 33, 56,
    20, 196, 219, 231, 103, 180, 107, 30, 121, 47, 197, 214, 10, 230, 239, 233]

/-- A table with one account, made in an empty one. -/
def oneAccount (username : String) : UserManager :=
  (load (ofString "users.json") .absent).2.call (.addUser secretHash
    [0, 1, 2, 3, 4, 5, 6, 7, 8, 9, 10, 11, 12, 13, 14, 15] 1750000000 (ofString username)
    (ofString "secret") 30)

theorem reachable_oneAccount (username : String) : Reachable (oneAccount username) :=
  (Reachable.load (ofString "users.json") .absent).call _

theorem save_oneAccount {username : String} (h : (oneAccount username).usersJson.isSerializable)
    (old : FileContent) :
    save {} (oneAccount username) old = .ok (true, .json (oneAccount username).usersJson) := by
  rw [save, h]
  rfl

/-- An account with a name survives. -/
theorem reloads_alice :
    Reloads (oneAccount "alice") (.json (oneAccount "alice").usersJson) :=
  (reloads_iff (reachable_oneAccount "alice")
    (save_oneAccount (by decide +kernel) .absent)).mpr ⟨rfl, by decide +kernel⟩

/-- An account without one does not, though the save says that it succeeded. -/
theorem not_reloads_nameless :
    Reachable (oneAccount "") ∧
      save {} (oneAccount "") .absent = .ok (true, .json (oneAccount "").usersJson) ∧
      ¬Reloads (oneAccount "") (.json (oneAccount "").usersJson) := by
  have hsave : save {} (oneAccount "") .absent = .ok (true, .json (oneAccount "").usersJson) :=
    save_oneAccount (by decide +kernel) .absent
  refine ⟨reachable_oneAccount "", hsave, ?_⟩
  rintro ⟨m', hload, hperm⟩
  obtain ⟨users, hload', hlookup⟩ :=
    load_usersJson (filed_of_reachable (reachable_oneAccount ""))
  obtain rfl : { filepath := (oneAccount "").filepath, users := users } = m' := by
    rw [hload'] at hload
    exact (Prod.mk.inj hload).2
  have hthere : (oneAccount "").users.lookup [] ≠ none := by decide +kernel
  have hgone : users.lookup [] = none := (hlookup []).trans (if_pos rfl)
  exact hthere ((AList.perm_lookup hperm).symm.trans hgone)

end UserManager

end LanProxyGateway
