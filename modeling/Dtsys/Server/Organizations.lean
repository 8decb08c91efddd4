/-
  ORGANIZATIONS: the requests of `app/api/v1/organizations.py` that write.

  Every one of them but `create_org` first asks for the caller's own membership
  (`_require_membership`: 404 without one) and most of them for its role; the target's role is
  guarded separately.

  * `users.active_org_id` and `devices.org_id` reference the organization without `ON DELETE`, so
    `delete_org` fails while one of them names it; the memberships go with the organization.
  * `active_org_id` is written by `create_org`, when there is none yet, and by `switch_org`.
-/
import Dtsys.Server.Accounts

namespace Dtsys

namespace Accounts

variable {τ K : Type} [Field K] [LinearOrder K] [FloorRing K]

/-! ## Memberships -/

/-- The membership rows of a user in an organization. -/
def memberRows (org user : Uuid) (s : Accounts) : List OrganizationMember :=
  s.members.filter fun m => m.orgId == org && m.userId == user

/-- `_require_membership`. -/
def requireMembership (org user : Uuid) : Act Accounts PyErr OrganizationMember := do
  let rows ← Act.read (memberRows org user)
  let member ← Act.ofExcept (oneOrNone rows)
  match member with
  | none => Act.raise (.http 404 "Organization not found")
  | some member => pure member

/-- `member.role not in {"owner", "admin"}` is a 403. -/
def requireManager (org user : Uuid) : Act Accounts PyErr Unit := do
  let member ← requireMembership org user
  require (member.role = "owner" ∨ member.role = "admin") (.http 403 "Insufficient permissions")

/-- The membership a request is about. -/
def requireTarget (org user : Uuid) : Act Accounts PyErr OrganizationMember := do
  let rows ← Act.read (memberRows org user)
  let target ← Act.ofExcept (oneOrNone rows)
  match target with
  | none => Act.raise (.http 404 "Member not found")
  | some target => pure target

/-! ## Changes of the tables -/

/-- An organization and the membership of its owner. -/
def insertOrg (org : Organization) (owner : Uuid) (s : Accounts) : Accounts :=
  { s with
    organizations := s.organizations ++ [org]
    members := s.members ++ [⟨org.id, owner, "owner"⟩] }

/-- The organization, and by the cascade its memberships. -/
def dropOrg (org : Uuid) (s : Accounts) : Accounts :=
  { s with
    organizations := s.organizations.filter fun o => o.id != org
    members := s.members.filter fun m => m.orgId != org }

/-- `db.add(OrganizationMember(...))`. -/
def insertMember (m : OrganizationMember) (s : Accounts) : Accounts :=
  { s with members := s.members ++ [m] }

/-- The DELETE of a membership. -/
def dropMember (org user : Uuid) (s : Accounts) : Accounts :=
  { s with members := s.members.filter fun m => !(m.orgId == org && m.userId == user) }

/-- The UPDATE of a member's role. -/
def setRole (org user : Uuid) (role : String) (s : Accounts) : Accounts :=
  { s with members := s.members.map fun m =>
      if m.orgId = org ∧ m.userId = user then { m with role := role } else m }

/-- `user.active_org_id = org`. -/
def setActiveOrg (org : Uuid) (u : User) : User := { u with activeOrgId := some org }

/-! ## Requests -/

/-- `SLUG_RE`. -/
def slugMatches (slug : String) : Bool :=
  decide (3 ≤ slug.length ∧ slug.length ≤ 64) &&
    slug.toList.all fun c => c.isLower || c.isDigit || c == '-'

/-- `_validate_slug`. -/
def validateSlug (A : AuthEnv τ) (slug : String) : Except PyErr String :=
  let normalized := A.stripLower slug
  if slugMatches normalized then .ok normalized else .error (.http 400 "Invalid slug")

/-- `OrganizationCreate`: the lengths of both fields. -/
def validCreate (name slug : String) : Bool :=
  decide (2 ≤ name.length ∧ name.length ≤ 255) && decide (3 ≤ slug.length ∧ slug.length ≤ 64)

/-- POST `/organizations`; `id` is the new organization's `uuid4()`. -/
def createOrg (A : AuthEnv τ) (user : User) (name slug : String) (id : Uuid) :
    Act Accounts PyErr Unit := do
  require (validCreate name slug = true) (.http 422 "")
  let slug ← Act.ofExcept (validateSlug A slug)
  let rows ← Act.read fun s => s.organizations.filter fun o => o.slug == slug
  let existing ← Act.ofExcept (oneOrNone rows)
  require (existing = none) (conflictError "Organization slug already exists")
  let taken ← Act.read fun s => s.organizations.any fun o => o.id == id
  require (taken = false) .db
  Act.modify (insertOrg ⟨id, name, slug, some user.id⟩ user.id)
  if user.activeOrgId = none then Act.modify (setUser user.id (setActiveOrg id))
  else pure ()

/-- Something that does not go with the organization still names it. -/
def referenced (org : Uuid) (s : Accounts) : Bool :=
  s.users.any (fun u => u.activeOrgId == some org) || s.devices.any fun d => d.orgId == some org

/-- DELETE `/organizations/{org_id}`. -/
def deleteOrg (user : User) (org : Uuid) : Act Accounts PyErr Unit := do
  let member ← requireMembership org user.id
  require (member.role = "owner") (.http 403 "Owner role required")
  let found ← Act.read fun s => s.organizations.any fun o => o.id == org
  require (found = true) (.http 404 "Organization not found")
  let kept ← Act.read (referenced org)
  require (kept = false) .db
  Act.modify (dropOrg org)

/-- The roles of an organization. -/
def orgRoles : List String := ["owner", "admin", "member"]

/-- The users an invitation can mean. -/
def invitees (username : String) (s : Accounts) : List User :=
  s.users.filter fun u => u.username == username && u.isActive

/-- POST `/organizations/{org_id}/members`. -/
def inviteMember (user : User) (org : Uuid) (username role : String) : Act Accounts PyErr Unit := do
  requireManager org user.id
  let rows ← Act.read (invitees username)
  let invited ← Act.ofExcept (oneOrNone rows)
  match invited with
  | none => Act.raise (.http 404 "User not found")
  | some invited => do
    let role := if orgRoles.contains role then role else "member"
    let rows ← Act.read (memberRows org invited.id)
    let existing ← Act.ofExcept (oneOrNone rows)
    require (existing = none) (conflictError "User already a member")
    Act.modify (insertMember ⟨org, invited.id, role⟩)

/-- DELETE `/organizations/{org_id}/members/{user_id}`. -/
def removeMember (user : User) (org target : Uuid) : Act Accounts PyErr Unit := do
  requireManager org user.id
  let member ← requireTarget org target
  require (member.role ≠ "owner") (.http 400 "Cannot remove org owner")
  -- the user's `active_org_id` stays what it is
  Act.modify (dropMember org target)

/-- PATCH `/organizations/{org_id}/members/{user_id}`. -/
def updateMember (user : User) (org target : Uuid) (role : String) : Act Accounts PyErr Unit := do
  requireManager org user.id
  let member ← requireTarget org target
  require (member.role = "owner" → role = "owner") (.http 400 "Cannot demote org owner")
  require (orgRoles.contains role = true) (.http 400 "Invalid role")
  Act.modify (setRole org target role)

/-- POST `/organizations/{org_id}/switch`. -/
def switchOrg (A : AuthEnv τ) (v : K) (user : User) (org : Uuid) :
    Act Accounts PyErr (Tokens τ) := do
  let _ ← requireMembership org user.id
  Act.modify (setUser user.id (setActiveOrg org))
  pure (issueTokens A v (setActiveOrg org user))

/-! ## What a request that returned has done -/

section

variable {s t : Accounts} {user : User} {org target : Uuid}

/-- A query for one row whose absence is an error. -/
theorem row_of_one {α : Type} {f : Accounts → List α} {g : Option α → Act Accounts PyErr α}
    {e : PyErr} {a : α} (hnone : g none = Act.raise e) (hsome : ∀ b, g (some b) = pure b)
    (h : (Act.read f >>= fun rows => Act.ofExcept (oneOrNone rows) >>= g) s = (.ok a, t)) :
    t = s ∧ f s = [a] := by
  obtain ⟨found, hfound, hrest⟩ := ok_of_one h
  cases found with
  | none =>
    rw [hnone] at hrest
    cases hrest
  | some b =>
    rw [hsome] at hrest
    obtain ⟨hb, rfl⟩ := Prod.mk.inj hrest
    obtain rfl : b = a := Except.ok.inj hb
    exact ⟨rfl, oneOrNone_eq_some hfound⟩

theorem requireMembership_ok {member : OrganizationMember} {id : Uuid}
    (h : requireMembership org id s = (.ok member, t)) :
    t = s ∧ memberRows org id s = [member] :=
  row_of_one rfl (fun _ => rfl) h

/-- The user's membership has one of the two managing roles. -/
def Manages (s : Accounts) (org user : Uuid) : Prop :=
  Sole (memberRows org user s) fun m => m.role = "owner" ∨ m.role = "admin"

theorem requireManager_ok {id : Uuid} (h : requireManager org id s = (.ok (), t)) :
    t = s ∧ Manages s org id := by
  obtain ⟨member, u, hmember, hrest⟩ := Act.ok_of_bind h
  obtain ⟨rfl, hrows⟩ := requireMembership_ok hmember
  obtain ⟨hrole, rfl⟩ := require_ok hrest
  exact ⟨rfl, member, hrows, hrole⟩

/-- The membership of the other user. -/
theorem requireTarget_ok {member : OrganizationMember}
    (h : requireTarget org target s = (.ok member, t)) :
    t = s ∧ memberRows org target s = [member] :=
  row_of_one rfl (fun _ => rfl) h

/-- What `create_org` does. -/
theorem createOrg_ok {A : AuthEnv τ} {name slug : String} {id : Uuid}
    (h : createOrg A user name slug id s = (.ok (), t)) :
    (∀ o ∈ s.organizations, o.id ≠ id) ∧ ∃ org : Organization,
      org.id = id ∧ org.ownerId = some user.id ∧
        t = if user.activeOrgId = none
          then setUser user.id (setActiveOrg id) (insertOrg org user.id s)
          else insertOrg org user.id s := by
  obtain ⟨-, h⟩ := ok_of_require h
  obtain ⟨slug', -, h⟩ := Act.ok_of_ofExcept h
  obtain ⟨existing, -, h⟩ := ok_of_one h
  obtain ⟨-, h⟩ := ok_of_require h
  rw [Act.read_bind] at h
  obtain ⟨hfree, h⟩ := ok_of_require h
  rw [Act.modify_bind] at h
  refine ⟨fun o ho hid => ?_, ⟨id, name, slug', some user.id⟩, rfl, rfl, ?_⟩
  · have htaken : s.organizations.any (fun o => o.id == id) = true :=
      List.any_eq_true.mpr ⟨o, ho, by simpa using hid⟩
    rw [htaken] at hfree
    cases hfree
  · by_cases hnone : user.activeOrgId = none
    · rw [if_pos hnone] at h ⊢
      exact (Prod.mk.inj h).2.symm
    · rw [if_neg hnone] at h ⊢
      exact (Prod.mk.inj h).2.symm

/-- What `delete_org` does. -/
theorem deleteOrg_ok (h : deleteOrg user org s = (.ok (), t)) :
    Sole (memberRows org user.id s) (fun m => m.role = "owner") ∧
      referenced org s = false ∧ t = dropOrg org s := by
  obtain ⟨member, u, hmember, hrest⟩ := Act.ok_of_bind h
  obtain ⟨rfl, hrows⟩ := requireMembership_ok hmember
  obtain ⟨hrole, hrest⟩ := ok_of_require hrest
  rw [Act.read_bind] at hrest
  obtain ⟨-, hrest⟩ := ok_of_require hrest
  rw [Act.read_bind] at hrest
  obtain ⟨hfree, hrest⟩ := ok_of_require hrest
  exact ⟨⟨member, hrows, hrole⟩, hfree, (Prod.mk.inj hrest).2.symm⟩

/-- What `invite_member` does. -/
theorem inviteMember_ok {username role : String}
    (h : inviteMember user org username role s = (.ok (), t)) :
    Manages s org user.id ∧ ∃ invited, invitees username s = [invited] ∧
      memberRows org invited.id s = [] ∧
      t = insertMember ⟨org, invited.id, if orgRoles.contains role then role else "member"⟩ s := by
  obtain ⟨_, u, hmanager, hrest⟩ := Act.ok_of_bind h
  obtain ⟨rfl, hmanages⟩ := requireManager_ok hmanager
  obtain ⟨found, hfound, hrest⟩ := ok_of_one hrest
  cases found with
  | none => cases hrest
  | some invited =>
    obtain ⟨existing, hexisting, hrest⟩ := ok_of_one hrest
    obtain ⟨rfl, hrest⟩ := ok_of_require hrest
    exact ⟨hmanages, invited, oneOrNone_eq_some hfound, oneOrNone_eq_none hexisting,
      (Prod.mk.inj hrest).2.symm⟩

/-- What `remove_member` does. -/
theorem removeMember_ok (h : removeMember user org target s = (.ok (), t)) :
    Manages s org user.id ∧
      Sole (memberRows org target s) (fun m => m.role ≠ "owner") ∧
      t = dropMember org target s := by
  obtain ⟨_, u, hmanager, hrest⟩ := Act.ok_of_bind h
  obtain ⟨rfl, hmanages⟩ := requireManager_ok hmanager
  obtain ⟨member, u, hmember, hchange⟩ := Act.ok_of_bind hrest
  obtain ⟨rfl, hrows⟩ := requireTarget_ok hmember
  obtain ⟨hrole, hchange⟩ := ok_of_require hchange
  exact ⟨hmanages, ⟨member, hrows, hrole⟩, (Prod.mk.inj hchange).2.symm⟩

/-- What `update_member` does. -/
theorem updateMember_ok {role : String} (h : updateMember user org target role s = (.ok (), t)) :
    Manages s org user.id ∧
      Sole (memberRows org target s) (fun m => m.role = "owner" → role = "owner") ∧
      t = setRole org target role s := by
  obtain ⟨_, u, hmanager, hrest⟩ := Act.ok_of_bind h
  obtain ⟨rfl, hmanages⟩ := requireManager_ok hmanager
  obtain ⟨member, u, hmember, hchange⟩ := Act.ok_of_bind hrest
  obtain ⟨rfl, hrows⟩ := requireTarget_ok hmember
  obtain ⟨hrole, hchange⟩ := ok_of_require hchange
  obtain ⟨-, hchange⟩ := ok_of_require hchange
  exact ⟨hmanages, ⟨member, hrows, hrole⟩, (Prod.mk.inj hchange).2.symm⟩

/-- What `switch_org` does. -/
theorem switchOrg_ok {A : AuthEnv τ} {v : K} {r : Tokens τ}
    (h : switchOrg A v user org s = (.ok r, t)) :
    (∃ member, memberRows org user.id s = [member]) ∧
      t = setUser user.id (setActiveOrg org) s ∧
      r = issueTokens A v (setActiveOrg org user) := by
  obtain ⟨member, u, hmember, hrest⟩ := Act.ok_of_bind h
  obtain ⟨rfl, hrows⟩ := requireMembership_ok hmember
  rw [Act.modify_bind] at hrest
  obtain ⟨hr, rfl⟩ := Prod.mk.inj hrest
  exact ⟨⟨member, hrows⟩, rfl, (Except.ok.inj hr).symm⟩

end

end Accounts

end Dtsys
