/-
  THE LAST ADMINISTRATOR: the requests of `app/api/v1/admin.py` that write users, and logins, as
  transactions that interleave.

  `update_user` and `delete_user` count the active administrators before they take one away, and
  nobody may do it to himself.  But a count locks nothing: what it said is old when the transaction
  commits.  Demoting somebody is not counted at all, and `authenticate_ldap` gives a user the role
  his groups have, with no look at who is left.

  A step is a statement of a transaction: `begin` (`require_admin`), `load` (`db.get`, or the INSERT
  of `create_user`), `check` (what follows up to the commit, with the count), `login`, `commit`,
  `abort`.  An UPDATE holds the lock of its row until the commit, so it is applied with the commit;
  it writes the attributes that differ from the ones the session has loaded (`patch`).

  If whoever takes an administrator away is still one when that commits, an administrator is left
  (`admin_left`): he is another one, since nobody does it to himself.
-/
import Dtsys.Lib.Rows
import Dtsys.Lib.Run
import Dtsys.Server.Accounts
import Mathlib.Data.List.Nodup
import Mathlib.Data.Rat.Floor

namespace Dtsys

namespace Accounts

/-! ## `app/api/v1/admin.py` -/

/-- `User.role == "admin", User.is_active`. -/
def isAdmin (u : User) : Bool := u.role == "admin" && u.isActive

/-- The roles a user can have. -/
def userRoles : List String := ["admin", "viewer"]

/-- The part of `update_user` about `role`. -/
def setUserRole (caller user : User) : Option String → Except PyErr User
  | none => .ok user
  | some role =>
    if userRoles.contains role = false then .error (.http 400 "Role must be admin or viewer")
    else if user.id = caller.id ∧ role ≠ "admin" then
      .error (.http 400 "Cannot remove your own admin role")
    else .ok { user with role := role }

/-- The part of `update_user` about `is_active`; the count sees what is flushed before it. -/
def setUserActive (adminCount : User → Nat) (caller user : User) : Option Bool → Except PyErr User
  | none => .ok user
  | some isActive =>
    if user.id = caller.id ∧ isActive = false then .error (.http 400 "Cannot deactivate yourself")
    else if isActive = false ∧ user.role = "admin" ∧ adminCount user ≤ 1 then
      .error (.http 400 "Cannot deactivate the last admin")
    else .ok { user with isActive := isActive }

/-- PATCH `/admin/users/{user_id}`, for a user that is there. -/
def updateUser (adminCount : User → Nat) (caller user : User) (role : Option String)
    (isActive : Option Bool) : Except PyErr User := do
  let user ← setUserRole caller user role
  setUserActive adminCount caller user isActive

/-- DELETE `/admin/users/{user_id}`, for a user that is there. -/
def deleteUser (adminCount : User → Nat) (caller user : User) : Except PyErr User :=
  if user.id = caller.id then .error (.http 400 "Cannot delete yourself")
  else if isAdmin user = true ∧ adminCount user ≤ 1 then
    .error (.http 400 "Cannot delete the last admin")
  else .ok { user with isActive := false }

/-- POST `/admin/users`: the row of the INSERT. -/
def createUser (username passwordHash role : String) (id : Uuid) : Except PyErr User :=
  if userRoles.contains role = false then .error (.http 400 "Role must be admin or viewer")
  else .ok ⟨id, username, passwordHash, role, true, none⟩

/-- The UPDATE of a row: the attributes of the instance that are not as loaded. -/
def patch (loaded user row : User) : User :=
  if row.id = loaded.id then
    { row with
      role := if user.role = loaded.role then row.role else user.role
      isActive := if user.isActive = loaded.isActive then row.isActive else user.isActive }
  else row

end Accounts

open Accounts

/-! ## Transactions -/

/-- A request of an administrator. -/
inductive AdminJob
  | create (username passwordHash role : String) (id : Uuid)
  | update (target : Uuid) (role : Option String) (isActive : Option Bool)
  | delete (target : Uuid)
  deriving DecidableEq, Repr

/-- Where a transaction stands. -/
inductive AdminPhase
  | idle
  /-- `require_admin` has let the caller in -/
  | admitted (job : AdminJob) (caller : User)
  /-- the target has been read -/
  | loaded (job : AdminJob) (caller target : User)
  /-- next is the commit: of a request, or of a login (no caller) -/
  | ready (caller : Option User) (target user : User)
  /-- next is the commit of a new row -/
  | inserting (user : User)
  deriving DecidableEq, Repr

/-- The users, and the requests about them. -/
structure Directory where
  accounts : Accounts
  phase : Nat → AdminPhase

namespace Directory

/-- The statements of the requests, and logins through LDAP. -/
inductive Label (τ K : Type)
  | begin (n : Nat) (v : K) (credentials : Option τ) (job : AdminJob)
  | load (n : Nat)
  | check (n : Nat)
  | login (n : Nat) (username password : String) (answer : LdapAnswer) (id : Uuid) (hash : String)
  | commit (n : Nat)
  | abort (n : Nat)

/-- The users as committed. -/
def users (s : Directory) : List User := s.accounts.users

/-- Request `n` goes on. -/
def set (s : Directory) (n : Nat) (p : AdminPhase) : Directory :=
  { s with phase := Function.update s.phase n p }

/-- The users are written. -/
def setUsers (s : Directory) (users : List User) : Directory :=
  { s with accounts := { s.accounts with users } }

/-- `db.get(User, id)`: the caller's row is in the session already. -/
def getUser (caller : User) (id : Uuid) (users : List User) : Option User :=
  if id = caller.id then some caller else users.find? fun u => u.id == id

/-- `load`: the target of a request, or the new row. -/
def loadPhase (users : List User) (caller : User) : AdminJob → AdminPhase
  | .create username passwordHash role id =>
    match createUser username passwordHash role id with
    | .ok user => .inserting user
    | .error _ => .idle
  | .update target role isActive =>
    match getUser caller target users with
    | some user => .loaded (.update target role isActive) caller user
    | none => .idle
  | .delete target =>
    match getUser caller target users with
    | some user => .loaded (.delete target) caller user
    | none => .idle

/-- `count(*)` of the active administrators, after the flush of what the session has changed. -/
def adminCount (users : List User) (target user : User) : Nat :=
  (users.map (patch target user)).countP isAdmin

/-- `check`: the request up to its commit. -/
def checkPhase (users : List User) (caller target : User) : AdminJob → AdminPhase
  | .create .. => .idle
  | .update _ role isActive =>
    match updateUser (adminCount users target) caller target role isActive with
    | .ok user => .ready (some caller) target user
    | .error _ => .idle
  | .delete _ =>
    match deleteUser (adminCount users target) caller target with
    | .ok user => .ready (some caller) target user
    | .error _ => .idle

section

variable {τ K : Type} [Field K] [LinearOrder K] [FloorRing K] (A : AuthEnv τ)

/-- `login`: the user as `authenticate` leaves it in the session. -/
def loginPhase (accounts : Accounts) (username password : String) (answer : LdapAnswer) (id : Uuid)
    (hash : String) : AdminPhase :=
  match authenticate A username password answer id hash accounts with
  | (.ok user, _) =>
    match accounts.users.find? fun u => u.id == user.id with
    | some target => .ready none target user
    | none => .inserting user
  | (.error _, _) => .idle

/-- The users after a commit. -/
def commitUsers (users : List User) : AdminPhase → Option (List User)
  | .ready _ target user => some (users.map (patch target user))
  | .inserting user =>
    -- the primary key, and `username` is unique
    if users.any fun u => u.id == user.id || u.username == user.username then some users
    else some (users ++ [user])
  | _ => none

/-- One statement of one transaction. -/
def step (s : Directory) : Label τ K → Option Directory
  | .begin n v credentials job =>
    if s.phase n = .idle then
      match requireAdmin A v credentials s.accounts with
      | (.ok caller, _) => some (s.set n (.admitted job caller))
      | (.error _, _) => some s
    else none
  | .load n =>
    match s.phase n with
    | .admitted job caller => some (s.set n (loadPhase s.users caller job))
    | _ => none
  | .check n =>
    match s.phase n with
    | .loaded job caller target => some (s.set n (checkPhase s.users caller target job))
    | _ => none
  | .login n username password answer id hash =>
    if s.phase n = .idle then
      some (s.set n (loginPhase A s.accounts username password answer id hash))
    else none
  | .commit n => (commitUsers s.users (s.phase n)).map fun users => (s.setUsers users).set n .idle
  | .abort n => some (s.set n .idle)

end

/-! ## Taking an administrator away -/

/-- The commit makes an active administrator one no more. -/
def TakesAway (users : List User) (target user : User) : Prop :=
  ∃ row ∈ users, isAdmin row = true ∧ isAdmin (patch target user row) = false

instance (users : List User) (target user : User) : Decidable (TakesAway users target user) :=
  List.decidableBEx ..

/-- Whoever takes an administrator away is still an administrator; and where the directory does, the
    count of the two requests would let it pass. -/
def Covered (users : List User) : AdminPhase → Prop
  | .ready (some caller) target user =>
    TakesAway users target user → ∃ u ∈ users, u.id = caller.id ∧ isAdmin u = true
  | .ready none target user => TakesAway users target user → 1 < users.countP isAdmin
  | _ => True

instance (users : List User) : ∀ p, Decidable (Covered users p)
  | .ready (some _) _ _ => inferInstanceAs (Decidable (_ → _))
  | .ready none _ _ => inferInstanceAs (Decidable (_ → _))
  | .idle | .admitted .. | .loaded .. | .inserting _ => inferInstanceAs (Decidable True)

/-- A commit is covered by the administrators that are left. -/
def Safe {τ K : Type} (s : Directory) : Label τ K → Prop
  | .commit n => Covered s.users (s.phase n)
  | _ => True

instance {τ K : Type} (s : Directory) : ∀ l : Label τ K, Decidable (Safe s l)
  | .commit _ => inferInstanceAs (Decidable (Covered ..))
  | .begin .. | .load _ | .check _ | .login .. | .abort _ => inferInstanceAs (Decidable True)

/-- Somebody is an active administrator. -/
def HasAdmin (users : List User) : Prop := ∃ u ∈ users, isAdmin u = true

/-! ## Requests -/

theorem isAdmin_iff {u : User} : isAdmin u = true ↔ u.role = "admin" ∧ u.isActive = true := by
  rw [isAdmin, Bool.and_eq_true, beq_iff_eq]

/-- What a transaction knows of its instances. -/
def Sound : AdminPhase → Prop
  | .admitted _ caller => isAdmin caller = true
  | .loaded _ caller target =>
    isAdmin caller = true ∧ (target.id = caller.id → target = caller)
  | .ready (some caller) target user =>
    target.id = caller.id → user.role = target.role ∧ user.isActive = target.isActive
  | _ => True

/-- `require_admin` lets administrators through. -/
theorem requireAdmin_admin {τ K : Type} [Field K] [LinearOrder K] [FloorRing K] {A : AuthEnv τ}
    {v : K} {credentials : Option τ} {accounts t : Accounts} {caller : User}
    (h : requireAdmin A v credentials accounts = (.ok caller, t)) : isAdmin caller = true := by
  obtain ⟨user, u, huser, h⟩ := Act.ok_of_bind h
  obtain ⟨hrole, h⟩ := ok_of_require h
  obtain rfl : user = caller := Except.ok.inj (Prod.mk.inj h).1
  exact isAdmin_iff.mpr ⟨hrole, (getCurrentUser_ok huser).2⟩

/-- The request has loaded what it changes. -/
theorem loadPhase_sound {users : List User} {caller : User} (hcaller : isAdmin caller = true)
    (job : AdminJob) : Sound (loadPhase users caller job) := by
  have hself : ∀ {target : Uuid} {user : User}, getUser caller target users = some user →
      user.id = caller.id → user = caller := by
    intro target user hget hid
    rw [getUser] at hget
    split at hget
    · exact (Option.some.inj hget).symm
    · rename_i hne
      obtain ⟨-, hfound⟩ := Rows.find_eq_some hget
      exact absurd (hfound.symm.trans hid) hne
  cases job with
  | create username passwordHash role id =>
    dsimp only [loadPhase]
    split
    · trivial
    · trivial
  | update target role isActive =>
    dsimp only [loadPhase]
    split
    · rename_i user hget
      exact ⟨hcaller, hself hget⟩
    · trivial
  | delete target =>
    dsimp only [loadPhase]
    split
    · rename_i user hget
      exact ⟨hcaller, hself hget⟩
    · trivial

/-- An administrator cannot change their own role. -/
theorem setUserRole_self {caller user : User} {role : Option String}
    (h : setUserRole caller caller role = .ok user) (hcaller : isAdmin caller = true) :
    user = caller := by
  unfold setUserRole at h
  split at h
  · exact (Except.ok.inj h).symm
  · rename_i role
    split at h
    · cases h
    · split at h
      · cases h
      · rename_i hself
        have hrole : role = "admin" := by
          by_contra hne
          exact hself ⟨rfl, hne⟩
        obtain rfl := Except.ok.inj h
        rw [hrole, ← (isAdmin_iff.mp hcaller).1]

theorem setUserActive_self {count : User → Nat} {caller user : User} {isActive : Option Bool}
    (h : setUserActive count caller caller isActive = .ok user) (hcaller : isAdmin caller = true) :
    user = caller := by
  unfold setUserActive at h
  split at h
  · exact (Except.ok.inj h).symm
  · rename_i isActive
    split at h
    · cases h
    · rename_i hself
      split at h
      · cases h
      · have hactive : isActive = true := by
          by_contra hne
          exact hself ⟨rfl, by simpa using hne⟩
        obtain rfl := Except.ok.inj h
        rw [hactive, ← (isAdmin_iff.mp hcaller).2]

/-- Nobody changes his own role or deactivates himself. -/
theorem updateUser_self {count : User → Nat} {caller user : User} {role : Option String}
    {isActive : Option Bool} (h : updateUser count caller caller role isActive = .ok user)
    (hcaller : isAdmin caller = true) : user = caller := by
  rw [updateUser] at h
  cases hrole : setUserRole caller caller role with
  | error e =>
    rw [hrole] at h
    cases h
  | ok user' =>
    obtain rfl := setUserRole_self hrole hcaller
    rw [hrole] at h
    exact setUserActive_self h hcaller

/-- The request has made its checks. -/
theorem checkPhase_sound {users : List User} {caller target : User} (hcaller : isAdmin caller = true)
    (hself : target.id = caller.id → target = caller) (job : AdminJob) :
    Sound (checkPhase users caller target job) := by
  cases job with
  | create username passwordHash role id => trivial
  | update id role isActive =>
    dsimp only [checkPhase]
    split
    · rename_i user hrun
      intro hid
      obtain rfl := hself hid
      obtain rfl := updateUser_self hrun hcaller
      exact ⟨rfl, rfl⟩
    · trivial
  | delete id =>
    dsimp only [checkPhase]
    split
    · rename_i user hrun
      intro hid
      rw [deleteUser, if_pos hid] at hrun
      cases hrun
    · trivial

/-! ## Commits -/

section

variable {users users' : List User} {target user row : User}

theorem patch_id : (patch target user row).id = row.id := by
  rw [patch]
  split
  · rfl
  · rfl

theorem patch_of_ne (h : row.id ≠ target.id) : patch target user row = row := if_neg h

/-- An UPDATE of nothing. -/
theorem patch_same (hrole : user.role = target.role) (hactive : user.isActive = target.isActive) :
    patch target user row = row := by
  rw [patch, if_pos hrole, if_pos hactive]
  split
  · rfl
  · rfl

/-- A write that takes no administrator away leaves one. -/
theorem hasAdmin_patch (h : HasAdmin users) (hnot : ¬ TakesAway users target user) :
    HasAdmin (users.map (patch target user)) := by
  obtain ⟨u, hu, hadmin⟩ := h
  refine ⟨patch target user u, List.mem_map_of_mem hu, ?_⟩
  by_contra hlost
  exact hnot ⟨u, hu, hadmin, by simpa using hlost⟩

/-- An administrator who is not the target stays. -/
theorem hasAdmin_of_other (hrow : row ∈ users) (hadmin : isAdmin row = true)
    (hne : row.id ≠ target.id) : HasAdmin (users.map (patch target user)) := by
  refine ⟨patch target user row, List.mem_map_of_mem hrow, ?_⟩
  rw [patch_of_ne hne]
  exact hadmin

/-- Of two rows with a property one is not `k`'s. -/
theorem exists_other {p : User → Bool} (hids : (users.map User.id).Nodup) (h : 1 < users.countP p)
    (k : Uuid) : ∃ u ∈ users, p u = true ∧ u.id ≠ k := by
  by_contra hnone
  have hall : ∀ i ∈ (users.filter p).map User.id, i = k := by
    intro i hi
    obtain ⟨u, hu, rfl⟩ := List.mem_map.mp hi
    obtain ⟨hmem, hp⟩ := List.mem_filter.mp hu
    by_contra hne
    exact hnone ⟨u, hmem, hp, hne⟩
  have hnodup : ((users.filter p).map User.id).Nodup := hids.sublist (List.filter_sublist.map _)
  rw [List.eq_replicate_of_mem hall, List.nodup_replicate, List.length_map,
    ← List.countP_eq_length_filter] at hnodup
  omega

/-- A commit that is covered leaves an administrator. -/
theorem hasAdmin_commit {p : AdminPhase} (hids : (users.map User.id).Nodup) (hsound : Sound p)
    (hcovered : Covered users p) (h : HasAdmin users) (hcommit : commitUsers users p = some users') :
    HasAdmin users' := by
  cases p with
  | idle => cases hcommit
  | admitted job caller => cases hcommit
  | loaded job caller target => cases hcommit
  | ready caller target user =>
    obtain rfl := Option.some.inj hcommit
    by_cases haway : TakesAway users target user
    · cases caller with
      | none =>
        obtain ⟨u, hu, hadmin, hne⟩ := exists_other hids (hcovered haway) target.id
        exact hasAdmin_of_other hu hadmin hne
      | some caller =>
        obtain ⟨u, hu, hid, hadmin⟩ := hcovered haway
        apply hasAdmin_of_other hu hadmin
        intro heq
        -- the caller is the target: then nothing is taken away
        obtain ⟨hrole, hactive⟩ := hsound (heq.symm.trans hid)
        obtain ⟨row, -, hbefore, hafter⟩ := haway
        rw [patch_same hrole hactive, hbefore] at hafter
        cases hafter
    · exact hasAdmin_patch h haway
  | inserting user =>
    dsimp only [commitUsers] at hcommit
    split at hcommit
    · obtain rfl := Option.some.inj hcommit
      exact h
    · obtain rfl := Option.some.inj hcommit
      obtain ⟨u, hu, hadmin⟩ := h
      exact ⟨u, List.mem_append_left _ hu, hadmin⟩

theorem nodup_commit {p : AdminPhase} (hids : (users.map User.id).Nodup)
    (hcommit : commitUsers users p = some users') : (users'.map User.id).Nodup := by
  cases p with
  | idle => cases hcommit
  | admitted job caller => cases hcommit
  | loaded job caller target => cases hcommit
  | ready caller target user =>
    obtain rfl := Option.some.inj hcommit
    have hsame : users.map (User.id ∘ patch target user) = users.map User.id :=
      List.map_congr_left fun _ _ => patch_id
    rw [List.map_map, hsame]
    exact hids
  | inserting user =>
    dsimp only [commitUsers] at hcommit
    split at hcommit
    · obtain rfl := Option.some.inj hcommit
      exact hids
    · rename_i hfree
      obtain rfl := Option.some.inj hcommit
      rw [List.map_append]
      refine List.Nodup.append hids (List.nodup_singleton _) ?_
      intro i hi hi'
      obtain ⟨u, hu, rfl⟩ := List.mem_map.mp hi
      refine hfree (List.any_eq_true.mpr ⟨u, hu, ?_⟩)
      rw [Bool.or_eq_true, beq_iff_eq]
      exact .inl (List.mem_singleton.mp hi')

end

/-! ## Runs -/

/-- What holds in every state. -/
structure Inv (s : Directory) : Prop where
  admin : HasAdmin s.users
  ids : (s.users.map User.id).Nodup
  sound : ∀ n, Sound (s.phase n)

/-- No transaction is open. -/
def init (accounts : Accounts) : Directory := ⟨accounts, fun _ => .idle⟩

theorem inv_init {accounts : Accounts} (hadmin : HasAdmin accounts.users)
    (hids : (accounts.users.map User.id).Nodup) : Inv (init accounts) :=
  ⟨hadmin, hids, fun _ => trivial⟩

/-- A transaction goes on. -/
theorem Inv.set {s : Directory} (h : Inv s) (n : Nat) {p : AdminPhase} (hp : Sound p) :
    Inv (s.set n p) := by
  refine ⟨h.admin, h.ids, fun m => ?_⟩
  have hphase : (s.set n p).phase m = if m = n then p else s.phase m :=
    Function.update_apply s.phase n p m
  rw [hphase]
  split
  · exact hp
  · exact h.sound m

theorem loginPhase_sound {τ : Type} (A : AuthEnv τ) (accounts : Accounts)
    (username password : String) (answer : LdapAnswer) (id : Uuid) (hash : String) :
    Sound (loginPhase A accounts username password answer id hash) := by
  rw [loginPhase]
  split
  · split
    · trivial
    · trivial
  · trivial

section

variable {τ K : Type} [Field K] [LinearOrder K] [FloorRing K] {A : AuthEnv τ}

/-- What a step that is covered preserves. -/
theorem inv_step (s : Directory) (l : Label τ K) (t : Directory) (hsafe : Safe s l)
    (hstep : step A s l = some t) (h : Inv s) : Inv t := by
  cases l with
  | begin n v credentials job =>
    simp only [step] at hstep
    split at hstep
    · split at hstep
      · rename_i caller _ hcaller
        cases hstep
        exact h.set n (requireAdmin_admin hcaller)
      · cases hstep
        exact h
    · cases hstep
  | load n =>
    simp only [step] at hstep
    split at hstep
    · rename_i job caller hphase
      cases hstep
      have hsound := h.sound n
      rw [hphase] at hsound
      exact h.set n (loadPhase_sound hsound job)
    · cases hstep
  | check n =>
    simp only [step] at hstep
    split at hstep
    · rename_i job caller target hphase
      cases hstep
      have hsound := h.sound n
      rw [hphase] at hsound
      exact h.set n (checkPhase_sound hsound.1 hsound.2 job)
    · cases hstep
  | login n username password answer id hash =>
    simp only [step] at hstep
    split at hstep
    · cases hstep
      exact h.set n (loginPhase_sound ..)
    · cases hstep
  -- Only a commit writes users, and here the condition on the step is needed.
  | commit n =>
    obtain ⟨users, hcommit, rfl⟩ := Option.map_eq_some_iff.mp hstep
    have hwritten : Inv (s.setUsers users) :=
      ⟨hasAdmin_commit h.ids (h.sound n) hsafe h.admin hcommit, nodup_commit h.ids hcommit, h.sound⟩
    exact hwritten.set n trivial
  | abort n =>
    cases hstep
    exact h.set n trivial

/-- In every interleaving in which whoever takes an active administrator away is still one when that
    commits, and the directory takes none away that the count of the requests would keep, an active
    administrator is left.

    A demotion is not counted, and a count locks nothing.  The invariant is that there is one, and that every open
    transaction has made its checks (`Sound`); what a commit takes away is covered by the administrator who asked
    for it, or by the count. -/
theorem admin_left {accounts : Accounts} {ls : List (Label τ K)} {t : Directory}
    (hadmin : HasAdmin accounts.users) (hids : (accounts.users.map User.id).Nodup)
    (hguard : Run.Guarded (step A) Safe (init accounts) ls)
    (hrun : Run.exec (step A) (init accounts) ls = some t) : HasAdmin t.users :=
  (Run.exec_inv inv_step hguard hrun (inv_init hadmin hids)).admin

end

/-! ## Alice and Bob, both administrators -/

/-- Two administrators. -/
def twoAdmins : Accounts := ⟨[.sample 1 "alice" "admin", .sample 2 "bob" "admin"], [], [], []⟩

/-- Alice's request about Bob in transaction 0, up to its commit. -/
def aliceAsks (job : AdminJob) : List (Label Claims ℚ) :=
  [.begin 0 0 (some (.accessOf 1)) job, .load 0, .check 0]

/-- Bob's request about Alice in transaction 1, up to its commit. -/
def bobAsks (job : AdminJob) : List (Label Claims ℚ) :=
  [.begin 1 0 (some (.accessOf 2)) job, .load 1, .check 1]

/-- Alice deletes Bob, who asks for the same afterwards. -/
theorem one_deletes_the_other :
    ∃ t, Run.exec (step AuthEnv.sample) (init twoAdmins)
        (aliceAsks (.delete 2) ++ [.commit 0, .begin 1 0 (some (.accessOf 2)) (.delete 1)]) =
          some t ∧
      t.users.map isAdmin = [true, false] ∧ HasAdmin t.users := by
  have hrun : (Run.exec (step AuthEnv.sample) (init twoAdmins)
      (aliceAsks (.delete 2) ++ [.commit 0, .begin 1 0 (some (.accessOf 2)) (.delete 1)])).map
        (fun t => t.users.map isAdmin) = some [true, false] := by decide +kernel
  obtain ⟨t, ht, hadmins⟩ := Option.map_eq_some_iff.mp hrun
  refine ⟨t, ht, hadmins, admin_left ?_ (by decide) ?_ ht⟩
  · exact ⟨_, List.mem_cons_self, by decide⟩
  · decide +kernel

/-- Each takes the other's role, and nobody is left. -/
theorem each_demotes_the_other :
    ∃ t, Run.exec (step AuthEnv.sample) (init twoAdmins)
        (aliceAsks (.update 2 (some "viewer") none) ++ bobAsks (.update 1 (some "viewer") none) ++
          [.commit 0, .commit 1]) = some t ∧ ¬ HasAdmin t.users := by
  have hrun : (Run.exec (step AuthEnv.sample) (init twoAdmins)
      (aliceAsks (.update 2 (some "viewer") none) ++ bobAsks (.update 1 (some "viewer") none) ++
        [.commit 0, .commit 1])).map (fun t => t.users.any isAdmin) = some false := by decide +kernel
  obtain ⟨t, ht, hnone⟩ := Option.map_eq_some_iff.mp hrun
  refine ⟨t, ht, fun ⟨u, hu, hadmin⟩ => ?_⟩
  have hany : t.users.any isAdmin = true := List.any_eq_true.mpr ⟨u, hu, hadmin⟩
  rw [hnone] at hany
  cases hany

end Directory

end Dtsys
