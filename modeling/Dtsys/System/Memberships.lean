/-
  MEMBERSHIPS over runs: any requests of `organizations.py`, logins and refreshes, by anybody, in
  any order.

  `Did` says once what each request does to the tables when it returns, for whom it issues tokens,
  and what it has checked; everything about runs is by cases on it.

  TOKENS.  The `org_id` of an access token is a copy of `users.active_org_id`, and nobody asks
     for the membership again.  The invariant is `Backed`: the active organization of every user is
     one of the user's memberships.  One request breaks it, the removal of a member whose active
     organization this is (`Strands`); in a run without it every token is backed when it is issued
     (`token_backed`).
-/
import Dtsys.Lib.Run
import Dtsys.Server.Organizations
import Mathlib.Data.Rat.Floor

namespace Dtsys

namespace Accounts

/-- A request; ids and hashes are those drawn while it runs. -/
inductive Request (τ : Type)
  | createOrg (name slug : String) (id : Uuid)
  | inviteMember (org : Uuid) (username role : String)
  | removeMember (org user : Uuid)
  | updateMember (org user : Uuid) (role : String)
  | deleteOrg (org : Uuid)
  | switchOrg (org : Uuid)
  | login (username password : String) (answer : LdapAnswer) (id : Uuid) (hash : String)
  | refresh (token : τ)

/-- A request as it comes in: when, and with which bearer token. -/
structure Call (τ K : Type) where
  time : K
  credentials : Option τ
  request : Request τ

variable {τ K : Type} [Field K] [LinearOrder K] [FloorRing K] (A : AuthEnv τ)

/-- A request that needs a user and returns no tokens. -/
def asUser (v : K) (credentials : Option τ) (x : User → Act Accounts PyErr Unit) :
    Act (Auth τ K) PyErr (Option (Tokens τ)) :=
  onAccounts do
    let user ← getCurrentUser A v credentials
    x user
    pure none

/-- The request, with the tokens it returns. -/
def handle (c : Call τ K) : Act (Auth τ K) PyErr (Option (Tokens τ)) :=
  match c.request with
  | .createOrg name slug id => asUser A c.time c.credentials fun u => createOrg A u name slug id
  | .inviteMember org username role =>
    asUser A c.time c.credentials fun u => inviteMember u org username role
  | .removeMember org target => asUser A c.time c.credentials fun u => removeMember u org target
  | .updateMember org target role =>
    asUser A c.time c.credentials fun u => updateMember u org target role
  | .deleteOrg org => asUser A c.time c.credentials fun u => deleteOrg u org
  | .switchOrg org => onAccounts do
    let user ← getCurrentUser A c.time c.credentials
    let tokens ← switchOrg A c.time user org
    pure (some tokens)
  | .login username password answer id hash => onAccounts do
    let tokens ← login A c.time username password answer id hash
    pure (some tokens)
  | .refresh token => do
    let tokens ← refresh A c.time token
    pure (some tokens)

/-- One request of a run. -/
def step (s : Auth τ K) (c : Call τ K) : Option (Auth τ K) := some (transaction (handle A c) s).2

/-- Who makes the request. -/
def requester (s : Auth τ K) (c : Call τ K) : Option Uuid :=
  match (getCurrentUser A c.time c.credentials s.accounts).1 with
  | .ok user => some user.id
  | .error _ => none

/-! ## What a request does -/

/-- The request, made by the user, leads from `s` to these tables and issues tokens for this
    user. -/
inductive Did (s : Accounts) : Request τ → Option User → Accounts → Option User → Prop
  | created (user : User) (name slug : String) (org : Organization)
      (hfree : ∀ o ∈ s.organizations, o.id ≠ org.id) (howner : org.ownerId = some user.id) :
      Did s (.createOrg name slug org.id) (some user)
        (if user.activeOrgId = none
          then setUser user.id (setActiveOrg org.id) (insertOrg org user.id s)
          else insertOrg org user.id s) none
  | invited (user : User) (org : Uuid) (username role : String) (invited : User)
      (hmanages : Manages s org user.id) (hinvited : invitees username s = [invited])
      (hnew : memberRows org invited.id s = []) :
      Did s (.inviteMember org username role) (some user)
        (insertMember ⟨org, invited.id, if orgRoles.contains role then role else "member"⟩ s) none
  | removed (user : User) (org target : Uuid) (hmanages : Manages s org user.id)
      (htarget : Sole (memberRows org target s) fun m => m.role ≠ "owner") :
      Did s (.removeMember org target) (some user) (dropMember org target s) none
  | updated (user : User) (org target : Uuid) (role : String) (hmanages : Manages s org user.id)
      (htarget : Sole (memberRows org target s) fun m => m.role = "owner" → role = "owner") :
      Did s (.updateMember org target role) (some user) (setRole org target role s) none
  | deleted (user : User) (org : Uuid)
      (howner : Sole (memberRows org user.id s) fun m => m.role = "owner")
      (hfree : referenced org s = false) :
      Did s (.deleteOrg org) (some user) (dropOrg org s) none
  | switched (user : User) (org : Uuid) (member : OrganizationMember)
      (hmember : memberRows org user.id s = [member]) :
      Did s (.switchOrg org) (some user) (setUser user.id (setActiveOrg org) s)
        (some (setActiveOrg org user))
  | loggedIn (username password : String) (answer : LdapAnswer) (id : Uuid) (hash : String)
      (t : Accounts) (user : User) (hsame : SameOrgs s t) (huser : user ∈ t.users) :
      Did s (.login username password answer id hash) none t (some user)
  | refreshed (token : τ) (user : User) (huser : user ∈ s.users) :
      Did s (.refresh token) none s (some user)

section

variable {A} {s t : Auth τ K} {c : Call τ K}

/-- A request of a user: who it is, and what has been done. -/
theorem asUser_ok {v : K} {credentials : Option τ} {x : User → Act Accounts PyErr Unit}
    {r : Option (Tokens τ)} (h : asUser A v credentials x s = (.ok r, t)) :
    r = none ∧ ∃ user, (getCurrentUser A v credentials s.accounts).1 = .ok user ∧
      x user s.accounts = (.ok (), t.accounts) := by
  have hrun := onAccounts_ok h
  obtain ⟨user, u, huser, hrest⟩ := Act.ok_of_bind hrun
  have hu : u = s.accounts := by
    have hread := getCurrentUser_readOnly A v credentials s.accounts
    rw [huser] at hread
    exact hread
  subst hu
  obtain ⟨_, u, hx, hpure⟩ := Act.ok_of_bind hrest
  obtain ⟨hr, rfl⟩ := Prod.mk.inj hpure
  refine ⟨(Except.ok.inj hr).symm, user, ?_, hx⟩
  rw [huser]

/-- **What a request that returned has done**, and for whom. -/
theorem handle_ok {r : Option (Tokens τ)} (h : handle A c s = (.ok r, t)) :
    ∃ user issued, Did s.accounts c.request user t.accounts issued ∧
      r = issued.map (issueTokens A c.time) ∧
      ∀ u, user = some u → requester A s c = some u.id := by
  obtain ⟨v, credentials, request⟩ := c
  have hwho : ∀ {user : User}, (getCurrentUser A v credentials s.accounts).1 = .ok user →
      ∀ u, some user = some u → requester A s ⟨v, credentials, request⟩ = some u.id := by
    intro user huser u hu
    obtain rfl := Option.some.inj hu
    rw [requester, huser]
  cases request with
  | createOrg name slug id =>
    obtain ⟨rfl, user, huser, hx⟩ := asUser_ok h
    obtain ⟨hfree, org, rfl, howner, ht⟩ := createOrg_ok hx
    rw [ht]
    exact ⟨some user, none, .created user name slug org hfree howner, rfl, hwho huser⟩
  | inviteMember org username role =>
    obtain ⟨rfl, user, huser, hx⟩ := asUser_ok h
    obtain ⟨hmanages, invited, hinvited, hnew, ht⟩ := inviteMember_ok hx
    rw [ht]
    exact ⟨some user, none, .invited user org username role invited hmanages hinvited hnew, rfl,
      hwho huser⟩
  | removeMember org target =>
    obtain ⟨rfl, user, huser, hx⟩ := asUser_ok h
    obtain ⟨hmanages, htarget, ht⟩ := removeMember_ok hx
    rw [ht]
    exact ⟨some user, none, .removed user org target hmanages htarget, rfl, hwho huser⟩
  | updateMember org target role =>
    obtain ⟨rfl, user, huser, hx⟩ := asUser_ok h
    obtain ⟨hmanages, htarget, ht⟩ := updateMember_ok hx
    rw [ht]
    exact ⟨some user, none, .updated user org target role hmanages htarget, rfl, hwho huser⟩
  | deleteOrg org =>
    obtain ⟨rfl, user, huser, hx⟩ := asUser_ok h
    obtain ⟨howner, hfree, ht⟩ := deleteOrg_ok hx
    rw [ht]
    exact ⟨some user, none, .deleted user org howner hfree, rfl, hwho huser⟩
  -- Tokens come from three requests: the switch, a login and a refresh.
  | switchOrg org =>
    obtain ⟨user, u, huser, hrest⟩ := Act.ok_of_bind (onAccounts_ok h)
    have hread := getCurrentUser_readOnly A v credentials s.accounts
    rw [huser] at hread
    obtain rfl : u = s.accounts := hread
    obtain ⟨tokens, w, hswitch, hpure⟩ := Act.ok_of_bind hrest
    obtain ⟨⟨member, hmember⟩, ht, hissued⟩ := switchOrg_ok hswitch
    obtain ⟨hr, hw⟩ := Prod.mk.inj hpure
    rw [← hw, ht]
    refine ⟨some user, _, .switched user org member hmember, ?_, hwho (by rw [huser])⟩
    rw [← Except.ok.inj hr, hissued]
    rfl
  | login username password answer id hash =>
    obtain ⟨tokens, w, hlogin, hpure⟩ := Act.ok_of_bind (onAccounts_ok h)
    obtain ⟨hsame, user, huser, hissued⟩ := login_ok hlogin
    obtain ⟨hr, rfl⟩ := Prod.mk.inj hpure
    refine ⟨none, some user, .loggedIn username password answer id hash _ user hsame huser, ?_,
      fun _ hu => (nomatch hu)⟩
    rw [← Except.ok.inj hr, hissued]
    rfl
  | refresh token =>
    obtain ⟨tokens, w, hrefresh, hpure⟩ := Act.ok_of_bind h
    obtain ⟨haccounts, user, huser, hissued⟩ := refresh_ok hrefresh
    obtain ⟨hr, rfl⟩ := Prod.mk.inj hpure
    rw [haccounts]
    refine ⟨none, some user, .refreshed token user huser, ?_, fun _ hu => (nomatch hu)⟩
    rw [← Except.ok.inj hr, hissued]
    rfl

/-- **One step**: nothing, or what its request does. -/
theorem step_cases (h : step A s c = some t) :
    t = s ∨ ∃ user issued, Did s.accounts c.request user t.accounts issued ∧
      ∀ u, user = some u → requester A s c = some u.id := by
  obtain rfl := Option.some.inj h
  rcases hrun : transaction (handle A c) s with ⟨e | r, u⟩
  · exact .inl (transaction_of_error hrun)
  · obtain ⟨user, issued, hdid, -, hwho⟩ := handle_ok (transaction_of_ok hrun)
    exact .inr ⟨user, issued, hdid, hwho⟩

end

/-! ## Active organizations -/

/-- The user is a member of the organization. -/
def IsMember (s : Accounts) (org user : Uuid) : Prop :=
  ∃ m ∈ s.members, m.orgId = org ∧ m.userId = user

/-- The user's active organization, if there is one, is one the user is a member of. -/
def BackedUser (s : Accounts) (u : User) : Prop :=
  ∀ org, u.activeOrgId = some org → IsMember s org u.id

/-- Every user is backed. -/
def Backed (s : Accounts) : Prop := ∀ u ∈ s.users, BackedUser s u

/-- A removal that goes through takes the membership of a user's active organization. -/
def Strands (s : Auth τ K) (c : Call τ K) : Prop :=
  match c.request with
  | .removeMember org target =>
    (∃ user ∈ requester A s c, Manages s.accounts org user) ∧
      Sole (memberRows org target s.accounts) (fun m => m.role ≠ "owner") ∧
      ∃ u ∈ s.accounts.users, u.id = target ∧ u.activeOrgId = some org
  | _ => False

section

variable {s t : Accounts} {u : User}

theorem isMember_of_rows {org user : Uuid} {m : OrganizationMember}
    (h : memberRows org user s = [m]) : IsMember s org user := by
  have hmem : m ∈ memberRows org user s := by
    rw [h]
    exact List.mem_singleton_self m
  obtain ⟨hin, hm⟩ := List.mem_filter.mp hmem
  obtain ⟨horg, huser⟩ := Bool.and_eq_true_iff.mp hm
  exact ⟨m, hin, by simpa using horg, by simpa using huser⟩

/-- More memberships back more. -/
theorem BackedUser.mono (h : BackedUser s u) (hsub : ∀ m ∈ s.members, m ∈ t.members) :
    BackedUser t u := by
  intro org horg
  obtain ⟨m, hm, hkey⟩ := h org horg
  exact ⟨m, hsub m hm, hkey⟩

/-- Memberships that keep their keys back the same. -/
theorem BackedUser.setRole (h : BackedUser s u) (org user : Uuid) (role : String) :
    BackedUser (setRole org user role s) u := by
  intro o ho
  obtain ⟨m, hm, hkey⟩ := h o ho
  refine ⟨_, List.mem_map.mpr ⟨m, hm, rfl⟩, ?_⟩
  split
  · exact hkey
  · exact hkey

/-- A user is switched to an organization of which the user is a member. -/
theorem Backed.setActiveOrg (h : Backed s) {org user : Uuid} (hmember : IsMember s org user) :
    Backed (setUser user (setActiveOrg org) s) := by
  intro u hu
  obtain ⟨u', hu', rfl⟩ := List.mem_map.mp hu
  by_cases hid : u'.id = user
  · rw [if_pos hid]
    intro o ho
    obtain rfl : org = o := Option.some.inj ho
    show IsMember s org u'.id
    rw [hid]
    exact hmember
  · rw [if_neg hid]
    exact h u' hu'

/-- A new organization, with its owner. -/
theorem Backed.insertOrg (h : Backed s) (org : Organization) (owner : Uuid) :
    Backed (insertOrg org owner s) :=
  fun u hu => (h u hu).mono fun _ hm => List.mem_append_left _ hm

/-- A member that goes, who acts for the organization nowhere. -/
theorem Backed.dropMember (h : Backed s) {org target : Uuid}
    (hfree : ∀ u ∈ s.users, u.id = target → u.activeOrgId ≠ some org) :
    Backed (dropMember org target s) := by
  intro u hu o ho
  obtain ⟨m, hm, horg, huser⟩ := h u hu o ho
  refine ⟨m, List.mem_filter.mpr ⟨hm, ?_⟩, horg, huser⟩
  by_contra hgone
  have hkey : m.orgId = org ∧ m.userId = target := by simpa using hgone
  apply hfree u hu (huser ▸ hkey.2)
  rw [ho, ← horg, hkey.1]

/-- Nobody is in the organization that is deleted. -/
theorem Backed.dropOrg (h : Backed s) {org : Uuid} (hfree : referenced org s = false) :
    Backed (dropOrg org s) := by
  intro u hu o ho
  obtain ⟨m, hm, horg, huser⟩ := h u hu o ho
  refine ⟨m, List.mem_filter.mpr ⟨hm, ?_⟩, horg, huser⟩
  by_contra hgone
  have hkey : m.orgId = org := by simpa using hgone
  have hin : s.users.any (fun u => u.activeOrgId == some org) = true := by
    apply List.any_eq_true.mpr
    refine ⟨u, hu, ?_⟩
    rw [ho, ← horg, hkey]
    exact beq_self_eq_true _
  rw [referenced, hin] at hfree
  cases hfree

theorem Backed.sameOrgs (h : Backed s) (hsame : SameOrgs s t) : Backed t := by
  obtain ⟨-, hmembers, husers⟩ := hsame
  intro u hu o ho
  rcases husers u hu with hnone | ⟨u', hu', hid, horg⟩
  · rw [hnone] at ho
    cases ho
  · obtain ⟨m, hm, hkey⟩ := h u' hu' o (horg.trans ho)
    rw [hid] at hkey
    exact ⟨m, by rw [hmembers]; exact hm, hkey⟩

/-- What a request does to `Backed`, and whom it issues tokens for. -/
theorem Did.backed {request : Request τ} {user issued : Option User}
    (h : Did s request user t issued) (hs : Backed s)
    (hremove : ∀ org target r, request = .removeMember org target → user = some r →
      Manages s org r.id → Sole (memberRows org target s) (fun m => m.role ≠ "owner") →
      ∀ u ∈ s.users, u.id = target → u.activeOrgId ≠ some org) :
    Backed t ∧ ∀ u, issued = some u → BackedUser t u := by
  cases h with
  | created user name slug org hfree howner =>
    have hinsert : Backed (insertOrg org user.id s) := hs.insertOrg org user.id
    refine ⟨?_, fun u hu => (nomatch hu)⟩
    split
    · refine hinsert.setActiveOrg ⟨⟨org.id, user.id, "owner"⟩, ?_, rfl, rfl⟩
      exact List.mem_append_right _ (List.mem_singleton_self _)
    · exact hinsert
  | invited user org username role invited hmanages hinvited hnew =>
    refine ⟨fun u hu => (hs u hu).mono ?_, fun u hu => (nomatch hu)⟩
    exact fun _ hm => List.mem_append_left _ hm
  -- The one request that takes a membership away and leaves its organization there.
  | removed user org target hmanages htarget =>
    refine ⟨hs.dropMember ?_, fun u hu => (nomatch hu)⟩
    exact hremove org target user rfl rfl hmanages htarget
  | updated user org target role hmanages htarget =>
    exact ⟨fun u hu => (hs u hu).setRole org target role, fun u hu => (nomatch hu)⟩
  | deleted user org howner hfree => exact ⟨hs.dropOrg hfree, fun u hu => (nomatch hu)⟩
  | switched user org member hmember =>
    have hin : IsMember s org user.id := isMember_of_rows hmember
    refine ⟨hs.setActiveOrg hin, fun u hu o ho => ?_⟩
    obtain rfl := Option.some.inj hu
    obtain rfl : org = o := Option.some.inj ho
    exact hin
  | loggedIn username password answer id hash t user hsame huser =>
    have ht : Backed t := hs.sameOrgs hsame
    refine ⟨ht, fun u hu => ?_⟩
    obtain rfl := Option.some.inj hu
    exact ht user huser
  | refreshed token user huser =>
    refine ⟨hs, fun u hu => ?_⟩
    obtain rfl := Option.some.inj hu
    exact hs user huser

/-- A removal issues no tokens. -/
theorem Did.issued_of_removeMember {user issued : Option User} {org target : Uuid}
    (h : Did s (.removeMember org target : Request τ) user t issued) : issued = none := by
  cases h
  rfl

end

/-! ## Tokens -/

/-- The token names no organization, or one that its user is a member of. -/
def BackedToken (s : Accounts) (r : Tokens τ) : Prop :=
  ∀ claims, A.jose.verify r.accessToken = some claims →
    ∀ org, claims.orgId = some org → IsMember s org claims.sub

section

variable {A} {s t : Auth τ K} {c : Call τ K}

/-- The condition of a run, on the request that removes. -/
theorem not_strands {user : Option User} (hno : ¬ Strands A s c)
    (hwho : ∀ u, user = some u → requester A s c = some u.id) :
    ∀ org target r, c.request = .removeMember org target → user = some r →
      Manages s.accounts org r.id →
      Sole (memberRows org target s.accounts) (fun m => m.role ≠ "owner") →
      ∀ u ∈ s.accounts.users, u.id = target → u.activeOrgId ≠ some org := by
  intro org target r hrequest huser hmanages htarget u hu hid hactive
  apply hno
  rw [Strands, hrequest]
  exact ⟨⟨r.id, hwho r huser, hmanages⟩, htarget, u, hu, hid, hactive⟩

/-- **One step** that strands nobody. -/
theorem backed_step (s : Auth τ K) (c : Call τ K) (t : Auth τ K) (hno : ¬ Strands A s c)
    (hstep : step A s c = some t) (h : Backed s.accounts) : Backed t.accounts := by
  rcases step_cases hstep with rfl | ⟨user, issued, hdid, hwho⟩
  · exact h
  · exact (hdid.backed h (not_strands hno hwho)).1

/-- **No token outlives the membership** it is issued for, in a run that strands nobody.

    `remove_member` leaves `users.active_org_id`, which login and refresh go by.  `Backed` says that an active
    organization has a membership behind it; the condition keeps it at the one step that could break it. -/
theorem token_backed {ls : List (Call τ K)} (hstart : Backed s.accounts)
    (hguard : Run.Guarded (step A) (fun s c => ¬ Strands A s c) s ls)
    (hrun : Run.exec (step A) s ls = some t) {u : Auth τ K} {r : Tokens τ}
    (hissue : handle A c t = (.ok (some r), u)) : BackedToken A u.accounts r := by
  have ht : Backed t.accounts :=
    Run.exec_inv (I := fun s : Auth τ K => Backed s.accounts) backed_step hguard hrun hstart
  obtain ⟨user, issued, hdid, hr, hwho⟩ := handle_ok hissue
  have hnone : ∀ org target, c.request = .removeMember org target → issued = none := by
    intro org target hrequest
    rw [hrequest] at hdid
    exact hdid.issued_of_removeMember
  cases issued with
  | none => cases hr
  | some who =>
    obtain rfl : r = issueTokens A c.time who := Option.some.inj hr
    have hbacked : BackedUser u.accounts who := by
      refine (hdid.backed ht ?_).2 who rfl
      intro org target _ hrequest
      cases hnone org target hrequest
    intro claims hclaims org horg
    obtain rfl := Option.some.inj ((A.jose.verify_encode _).symm.trans hclaims)
    exact hbacked org horg

end

/-! ## Alice and Bob -/

/-- The users Alice (1) and Bob (2), and no organization. -/
def aliceAndBob : Auth Claims ℚ where
  accounts := ⟨[.sample 1 "alice" "admin", .sample 2 "bob" "viewer"], [], [], []⟩
  revoked := fun _ => none

/-- A request of the user with this id. -/
def Call.by (id : Uuid) (request : Request Claims) : Call Claims ℚ := ⟨0, some (.accessOf id), request⟩

/-- Alice makes organization 7 and invites Bob. -/
def inviteBob (role : String) : List (Call Claims ℚ) :=
  [.by 1 (.createOrg "Acme" "acme" 7), .by 1 (.inviteMember 7 "bob" role)]

/-- The subject and the organization of the access token a request returns, and who is a member
    of the organization then. -/
def issued (org : Uuid) (s : Auth Claims ℚ) (c : Call Claims ℚ) :
    Option (Uuid × Option Uuid × List Uuid) :=
  match handle .sample c s with
  | (.ok (some r), t) => some (r.accessToken.sub, r.accessToken.orgId,
      (t.accounts.members.filter fun m => m.orgId == org).map (·.userId))
  | _ => none

/-- A token that is issued names a member. -/
theorem exists_of_issued {org user : Uuid} {s : Auth Claims ℚ} {c : Call Claims ℚ}
    {o : Option Uuid} {members : List Uuid} (h : issued org s c = some (user, o, members)) :
    ∃ r t, handle .sample c s = (.ok (some r), t) ∧ r.accessToken.sub = user ∧
      r.accessToken.orgId = o ∧ ∀ id, IsMember t.accounts org id → id ∈ members := by
  rw [issued] at h
  rcases hrun : handle .sample c s with ⟨e | _ | r, t⟩
  · rw [hrun] at h
    cases h
  · rw [hrun] at h
    cases h
  · rw [hrun] at h
    obtain ⟨rfl, hrest⟩ := Prod.mk.inj (Option.some.inj h)
    obtain ⟨rfl, rfl⟩ := Prod.mk.inj hrest
    refine ⟨r, t, rfl, rfl, rfl, fun id ⟨m, hm, horg, hid⟩ => ?_⟩
    exact List.mem_map.mpr ⟨m, List.mem_filter.mpr ⟨hm, by simpa using horg⟩, hid⟩

/-- Bob is removed before he has switched, and Alice logs in. -/
theorem token_backed_unswitched :
    ∃ t r u, Run.exec (step .sample) aliceAndBob
        (inviteBob "member" ++ [.by 1 (.removeMember 7 2)]) = some t ∧
      handle .sample (.by 1 (.login "alice" "hash" .none 0 "")) t = (.ok (some r), u) ∧
      r.accessToken.orgId = some 7 ∧ BackedToken .sample u.accounts r := by
  have hissued : (Run.exec (step .sample) aliceAndBob
      (inviteBob "member" ++ [.by 1 (.removeMember 7 2)])).map
        (fun t => issued 7 t (.by 1 (.login "alice" "hash" .none 0 ""))) =
      some (some (1, some 7, [1])) := by decide +kernel
  obtain ⟨t, ht, hout⟩ := Option.map_eq_some_iff.mp hissued
  obtain ⟨r, u, hlogin, -, hr, -⟩ := exists_of_issued hout
  have hstart : Backed aliceAndBob.accounts := by
    intro u hu org horg
    have hnone : ∀ u ∈ aliceAndBob.accounts.users, u.activeOrgId = none := by decide
    rw [hnone u hu] at horg
    cases horg
  have hguard : Run.Guarded (step .sample) (fun s c => ¬ Strands .sample s c) aliceAndBob
      (inviteBob "member" ++ [.by 1 (.removeMember 7 2)]) := by
    refine ⟨fun h => h, fun s₁ h₁ => ⟨fun h => h, fun s₂ h₂ => ⟨?_, fun _ _ => trivial⟩⟩⟩
    obtain rfl := Option.some.inj h₁
    obtain rfl := Option.some.inj h₂
    rintro ⟨-, -, u, hu, hid, hactive⟩
    have hnowhere : ∀ u ∈ (transaction (handle .sample (.by 1 (.inviteMember 7 "bob" "member")))
        (transaction (handle .sample (.by 1 (.createOrg "Acme" "acme" 7)))
          aliceAndBob).2).2.accounts.users, u.id = 2 → u.activeOrgId ≠ some 7 := by decide +kernel
    exact hnowhere u hu hid hactive
  exact ⟨t, r, u, ht, hlogin, hr, token_backed hstart hguard ht hlogin⟩

/-- Bob is removed after he has switched, and logs in: his token is for organization 7. -/
theorem token_after_removal :
    ∃ t r u, Run.exec (step .sample) aliceAndBob
        (inviteBob "member" ++ [.by 2 (.switchOrg 7), .by 1 (.removeMember 7 2)]) = some t ∧
      handle .sample (.by 2 (.login "bob" "hash" .none 0 "")) t = (.ok (some r), u) ∧
      r.accessToken.sub = 2 ∧ r.accessToken.orgId = some 7 ∧ ¬ IsMember u.accounts 7 2 := by
  have hissued : (Run.exec (step .sample) aliceAndBob
      (inviteBob "member" ++ [.by 2 (.switchOrg 7), .by 1 (.removeMember 7 2)])).map
        (fun t => issued 7 t (.by 2 (.login "bob" "hash" .none 0 ""))) =
      some (some (2, some 7, [1])) := by decide +kernel
  obtain ⟨t, ht, hout⟩ := Option.map_eq_some_iff.mp hissued
  obtain ⟨r, u, hlogin, hsub, hr, hmembers⟩ := exists_of_issued hout
  refine ⟨t, r, u, ht, hlogin, hsub, hr, fun hbob => ?_⟩
  have hlisted : (2 : Uuid) ∈ [(1 : Uuid)] := hmembers 2 hbob
  exact absurd hlisted (by decide)

end Accounts

end Dtsys
