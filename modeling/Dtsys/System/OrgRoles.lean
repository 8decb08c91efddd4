/-
  ROLES of an organization over the runs of `Dtsys.System.Memberships`.

  * `Owned` — the user who created an organization is one of its owners for as long as it is there.
    Every request keeps that: nobody removes or demotes an owner, and `delete_org` takes the
    organization too.  An organization made by `create_org` is one whose `owner_id` is set.
  * `OwnersOnly` — a request makes somebody an owner, or deletes the organization, only if its
    requester is an owner.  `delete_org` asks for that; `invite_member` and `update_member` take an
    admin for granted whatever role is given, so an admin can make owners, itself included
    (`Escalates`).  In a run in which no admin does, all steps are `OwnersOnly`.
-/
import Dtsys.System.Memberships

namespace Dtsys

namespace Accounts

variable {τ K : Type} [Field K] [LinearOrder K] [FloorRing K] (A : AuthEnv τ)

/-- The user is an owner of the organization. -/
def IsOwner (s : Accounts) (org user : Uuid) : Prop :=
  ∃ m ∈ s.members, (m.orgId = org ∧ m.userId = user) ∧ m.role = "owner"

/-- Who created an organization is one of its owners. -/
def Owned (s : Accounts) : Prop :=
  ∀ o ∈ s.organizations, ∀ creator, o.ownerId = some creator → IsOwner s o.id creator

/-- The organization is there. -/
def OrgExists (s : Accounts) (org : Uuid) : Prop := ∃ o ∈ s.organizations, o.id = org

instance (s : Accounts) (org user : Uuid) : Decidable (IsOwner s org user) :=
  inferInstanceAs (Decidable (∃ m ∈ s.members, _))

instance (s : Accounts) (org : Uuid) : Decidable (OrgExists s org) :=
  inferInstanceAs (Decidable (∃ o ∈ s.organizations, _))

/-- Owners are made, and organizations deleted, by owners. -/
def OwnersOnly (s : Auth τ K) (c : Call τ K) : Prop :=
  ∀ t, step A s c = some t → ∀ org, OrgExists s.accounts org →
    ((∃ user, ¬ IsOwner s.accounts org user ∧ IsOwner t.accounts org user) ∨
      ¬ OrgExists t.accounts org) →
    ∃ user ∈ requester A s c, IsOwner s.accounts org user

/-- A request that goes through gives the role of owner to somebody who does not have it, and its
    requester is only an admin. -/
def Escalates (s : Auth τ K) (c : Call τ K) : Prop :=
  match c.request with
  | .inviteMember org username role =>
    role = "owner" ∧
      (∃ user ∈ requester A s c, Sole (memberRows org user s.accounts) fun m => m.role = "admin") ∧
      Sole (invitees username s.accounts) fun u => memberRows org u.id s.accounts = []
  | .updateMember org target role =>
    role = "owner" ∧
      (∃ user ∈ requester A s c, Sole (memberRows org user s.accounts) fun m => m.role = "admin") ∧
      Sole (memberRows org target s.accounts) fun m => m.role ≠ "owner"
  | _ => False

/-! ## Owners and the changes of the tables -/

section

variable {s t : Accounts} {org user : Uuid}

theorem mem_memberRows {m : OrganizationMember} :
    m ∈ memberRows org user s ↔ m ∈ s.members ∧ m.orgId = org ∧ m.userId = user := by
  rw [memberRows, List.mem_filter, Bool.and_eq_true_iff, beq_iff_eq, beq_iff_eq]

/-- The only row of a user says whether the user is an owner. -/
theorem isOwner_iff_of_rows {p : OrganizationMember → Prop} (h : Sole (memberRows org user s) p) :
    IsOwner s org user ↔ Sole (memberRows org user s) fun m => m.role = "owner" := by
  obtain ⟨m, hrows, -⟩ := h
  constructor
  · rintro ⟨m', hm', hkey, hrole⟩
    have hin : m' ∈ memberRows org user s := mem_memberRows.mpr ⟨hm', hkey⟩
    rw [hrows] at hin
    obtain rfl := List.mem_singleton.mp hin
    exact ⟨m', hrows, hrole⟩
  · rintro ⟨m', hrows', hrole⟩
    have hin : m' ∈ memberRows org user s := by
      rw [hrows']
      exact List.mem_singleton_self m'
    obtain ⟨hm', hkey⟩ := mem_memberRows.mp hin
    exact ⟨m', hm', hkey, hrole⟩

/-- Somebody who manages and is no owner is an admin. -/
theorem Manages.admin (h : Manages s org user) (hno : ¬ IsOwner s org user) :
    Sole (memberRows org user s) fun m => m.role = "admin" := by
  obtain ⟨m, hrows, howner | hadmin⟩ := h
  · have hsole : Sole (memberRows org user s) fun m => m.role = "owner" := ⟨m, hrows, howner⟩
    exact absurd ((isOwner_iff_of_rows hsole).mpr hsole) hno
  · exact ⟨m, hrows, hadmin⟩

/-- More members, and still an owner. -/
theorem IsOwner.mono (h : IsOwner s org user) (hsub : ∀ m ∈ s.members, m ∈ t.members) :
    IsOwner t org user := by
  obtain ⟨m, hm, hkey⟩ := h
  exact ⟨m, hsub m hm, hkey⟩

/-- A row that is added makes an owner if it says so. -/
theorem isOwner_insertMember {m : OrganizationMember} :
    IsOwner (insertMember m s) org user ↔
      IsOwner s org user ∨ (m.orgId = org ∧ m.userId = user) ∧ m.role = "owner" := by
  constructor
  · rintro ⟨m', hm', hrest⟩
    rcases List.mem_append.mp hm' with hold | hnew
    · exact .inl ⟨m', hold, hrest⟩
    · obtain rfl := List.mem_singleton.mp hnew
      exact .inr hrest
  · rintro (hold | hnew)
    · exact hold.mono fun _ hm => List.mem_append_left _ hm
    · exact ⟨m, List.mem_append_right _ (List.mem_singleton_self m), hnew⟩

/-- Only a member who is no owner can be dropped. -/
theorem isOwner_dropMember {o target : Uuid}
    (h : Sole (memberRows o target s) fun m => m.role ≠ "owner") :
    IsOwner (dropMember o target s) org user ↔ IsOwner s org user := by
  constructor
  · rintro ⟨m, hm, hrest⟩
    exact ⟨m, (List.mem_filter.mp hm).1, hrest⟩
  · rintro ⟨m, hm, hkey, hrole⟩
    refine ⟨m, List.mem_filter.mpr ⟨hm, ?_⟩, hkey, hrole⟩
    by_contra hgone
    have hat : m.orgId = o ∧ m.userId = target := by simpa using hgone
    obtain ⟨m', hrows, hno⟩ := h
    have hin : m ∈ memberRows o target s := mem_memberRows.mpr ⟨hm, hat⟩
    rw [hrows] at hin
    obtain rfl := List.mem_singleton.mp hin
    exact hno hrole

/-- An owner stays one when a role is set that an owner may be given. -/
theorem IsOwner.setRole (h : IsOwner s org user) {o target : Uuid} {role : String}
    (htarget : Sole (memberRows o target s) fun m => m.role = "owner" → role = "owner") :
    IsOwner (setRole o target role s) org user := by
  obtain ⟨m, hm, hkey, hrole⟩ := h
  refine ⟨_, List.mem_map.mpr ⟨m, hm, rfl⟩, ?_⟩
  by_cases hat : m.orgId = o ∧ m.userId = target
  · obtain ⟨m', hrows, hkeep⟩ := htarget
    have hin : m ∈ memberRows o target s := mem_memberRows.mpr ⟨hm, hat⟩
    rw [hrows] at hin
    obtain rfl := List.mem_singleton.mp hin
    rw [if_pos hat]
    exact ⟨hkey, hkeep hrole⟩
  · rw [if_neg hat]
    exact ⟨hkey, hrole⟩

/-- Who becomes an owner when a role is set. -/
theorem isOwner_of_setRole {o target : Uuid} {role : String}
    (h : IsOwner (setRole o target role s) org user) :
    IsOwner s org user ∨ (o = org ∧ target = user) ∧ role = "owner" := by
  obtain ⟨m, hm, hrest⟩ := h
  obtain ⟨m', hm', rfl⟩ := List.mem_map.mp hm
  by_cases hat : m'.orgId = o ∧ m'.userId = target
  · rw [if_pos hat] at hrest
    obtain ⟨⟨horg, huser⟩, hrole⟩ := hrest
    exact .inr ⟨⟨hat.1.symm.trans horg, hat.2.symm.trans huser⟩, hrole⟩
  · rw [if_neg hat] at hrest
    exact .inl ⟨m', hm', hrest⟩

/-- An organization that goes leaves the others their owners. -/
theorem isOwner_dropOrg {o : Uuid} (hne : org ≠ o) :
    IsOwner (dropOrg o s) org user ↔ IsOwner s org user := by
  constructor
  · rintro ⟨m, hm, hrest⟩
    exact ⟨m, (List.mem_filter.mp hm).1, hrest⟩
  · rintro ⟨m, hm, hkey, hrole⟩
    refine ⟨m, List.mem_filter.mpr ⟨hm, ?_⟩, hkey, hrole⟩
    rw [hkey.1]
    simpa using hne

end

/-! ## Every request keeps the owners -/

section

variable {s t : Accounts} {request : Request τ} {requester issued : Option User}

/-- Every request keeps the owners. -/
theorem Did.owned (h : Did s request requester t issued) (hs : Owned s) : Owned t := by
  cases h with
  | created user name slug org hfree howner =>
    have hinsert : Owned (insertOrg org user.id s) := by
      intro o ho creator hcreator
      rcases List.mem_append.mp ho with hold | hnew
      · exact (hs o hold creator hcreator).mono fun _ hm => List.mem_append_left _ hm
      · obtain rfl := List.mem_singleton.mp hnew
        obtain rfl := Option.some.inj (howner.symm.trans hcreator)
        refine ⟨⟨o.id, user.id, "owner"⟩, ?_, ⟨rfl, rfl⟩, rfl⟩
        exact List.mem_append_right _ (List.mem_singleton_self _)
    split
    · exact hinsert
    · exact hinsert
  | invited user org username role invited hmanages hinvited hnew =>
    exact fun o ho creator hc => isOwner_insertMember.mpr (.inl (hs o ho creator hc))
  | removed user org target hmanages htarget =>
    exact fun o ho creator hc => (isOwner_dropMember htarget).mpr (hs o ho creator hc)
  | updated user org target role hmanages htarget =>
    exact fun o ho creator hc => (hs o ho creator hc).setRole htarget
  | deleted user org howner hfree =>
    intro o ho creator hc
    obtain ⟨hold, hne⟩ := List.mem_filter.mp ho
    exact (isOwner_dropOrg (by simpa using hne)).mpr (hs o hold creator hc)
  | switched user org member hmember => exact hs
  | loggedIn username password answer id hash t user hsame huser =>
    obtain ⟨horgs, hmembers, -⟩ := hsame
    intro o ho creator hc
    rw [horgs] at ho
    exact (hs o ho creator hc).mono fun m hm => by rw [hmembers]; exact hm
  | refreshed token user huser => exact hs

/-- **Who makes owners and deletes organizations**: an owner, or an admin who gives the role of
    owner away. -/
theorem Did.ownersOnly (h : Did s request requester t issued) {org : Uuid}
    (horg : OrgExists s org)
    (hchange : (∃ user, ¬ IsOwner s org user ∧ IsOwner t org user) ∨ ¬ OrgExists t org) :
    ∃ r, requester = some r ∧ (IsOwner s org r.id ∨
      Sole (memberRows org r.id s) (fun m => m.role = "admin") ∧
        ((∃ username, request = .inviteMember org username "owner" ∧
            Sole (invitees username s) fun u => memberRows org u.id s = []) ∨
          ∃ target, request = .updateMember org target "owner" ∧
            Sole (memberRows org target s) fun m => m.role ≠ "owner")) := by
  -- a request after which the owners and the organizations are those there were
  have hsame : (∀ user, IsOwner t org user → IsOwner s org user) → (OrgExists s org → OrgExists t org) →
      False := by
    intro howners hexists
    rcases hchange with ⟨user, hno, hyes⟩ | hgone
    · exact hno (howners user hyes)
    · exact hgone (hexists horg)
  cases h with
  | created user name slug new hfree howner =>
    have hinsert : ∀ id, IsOwner (insertOrg new user.id s) org id → IsOwner s org id := by
      rintro id ⟨m, hm, ⟨hmorg, hid⟩, hrole⟩
      rcases List.mem_append.mp hm with hold | hnew
      · exact ⟨m, hold, ⟨hmorg, hid⟩, hrole⟩
      · obtain rfl := List.mem_singleton.mp hnew
        obtain ⟨o, ho, hoid⟩ := horg
        exact absurd (hoid.trans hmorg.symm) (hfree o ho)
    have hexists : OrgExists s org → OrgExists (insertOrg new user.id s) org :=
      fun ⟨o, ho, hid⟩ => ⟨o, List.mem_append_left _ ho, hid⟩
    exfalso
    split at hsame
    · exact hsame hinsert hexists
    · exact hsame hinsert hexists
  | invited user o username role invited hmanages hinvited hnew =>
    rcases hchange with ⟨id, hno, hyes⟩ | hgone
    · rcases isOwner_insertMember.mp hyes with hold | ⟨⟨rfl, -⟩, hrole⟩
      · exact absurd hold hno
      · have howner : role = "owner" := by
          dsimp only at hrole
          split at hrole
          · exact hrole
          · exact absurd hrole (by decide)
        subst howner
        refine ⟨user, rfl, ?_⟩
        by_cases hisowner : IsOwner s o user.id
        · exact .inl hisowner
        · exact .inr ⟨hmanages.admin hisowner, .inl ⟨username, rfl, invited, hinvited, hnew⟩⟩
    · exact absurd horg hgone
  | removed user o target hmanages htarget =>
    exact (hsame (fun _ h => (isOwner_dropMember htarget).mp h) fun h => h).elim
  | updated user o target role hmanages htarget =>
    rcases hchange with ⟨id, hno, hyes⟩ | hgone
    · rcases isOwner_of_setRole hyes with hold | ⟨⟨rfl, rfl⟩, rfl⟩
      · exact absurd hold hno
      · refine ⟨user, rfl, ?_⟩
        by_cases hisowner : IsOwner s o user.id
        · exact .inl hisowner
        · refine .inr ⟨hmanages.admin hisowner, .inr ⟨target, rfl, ?_⟩⟩
          obtain ⟨m, hrows, -⟩ := htarget
          refine ⟨m, hrows, fun hrole => hno ?_⟩
          have hsole : Sole (memberRows o target s) fun m => m.role = "owner" := ⟨m, hrows, hrole⟩
          exact (isOwner_iff_of_rows hsole).mpr hsole
    · exact absurd horg hgone
  | deleted user o howner hfree =>
    refine ⟨user, rfl, .inl ?_⟩
    have hat : org = o := by
      by_contra hne
      refine hsame (fun _ h => (isOwner_dropOrg hne).mp h) fun ⟨o', ho', hid⟩ => ?_
      refine ⟨o', List.mem_filter.mpr ⟨ho', ?_⟩, hid⟩
      rw [hid]
      simpa using hne
    rw [hat]
    exact (isOwner_iff_of_rows howner).mpr howner
  | switched user o member hmember => exact (hsame (fun _ h => h) fun h => h).elim
  | loggedIn username password answer id hash t user hsameOrgs huser =>
    obtain ⟨horgs, hmembers, -⟩ := hsameOrgs
    refine (hsame (fun id h => h.mono fun m hm => ?_) fun ⟨o, ho, hid⟩ => ⟨o, ?_, hid⟩).elim
    · rw [← hmembers]
      exact hm
    · rw [horgs]
      exact ho
  | refreshed token user huser => exact (hsame (fun _ h => h) fun h => h).elim

end

/-! ## Runs -/

section

variable {A} {s t : Auth τ K}

theorem owned_step (s : Auth τ K) (c : Call τ K) (t : Auth τ K) (_ : True)
    (hstep : step A s c = some t) (h : Owned s.accounts) : Owned t.accounts := by
  rcases step_cases hstep with rfl | ⟨user, issued, hdid, -⟩
  · exact h
  · exact hdid.owned h

/-- **One step** in which no admin escalates. -/
theorem ownersOnly_of_not_escalates (s : Auth τ K) (c : Call τ K) (hno : ¬ Escalates A s c) :
    OwnersOnly A s c := by
  intro t hstep org horg hchange
  rcases step_cases hstep with rfl | ⟨user, issued, hdid, hwho⟩
  · rcases hchange with ⟨id, hno, hyes⟩ | hgone
    · exact absurd hyes hno
    · exact absurd horg hgone
  · obtain ⟨r, rfl, hisowner | ⟨hadmin, hgives⟩⟩ := hdid.ownersOnly horg hchange
    · exact ⟨r.id, hwho r rfl, hisowner⟩
    · refine absurd ?_ hno
      rw [Escalates]
      rcases hgives with ⟨username, hrequest, hinvited⟩ | ⟨target, hrequest, htarget⟩
      · rw [hrequest]
        exact ⟨rfl, ⟨r.id, hwho r rfl, hadmin⟩, hinvited⟩
      · rw [hrequest]
        exact ⟨rfl, ⟨r.id, hwho r rfl, hadmin⟩, htarget⟩

/-- **Owners are in control** in every run in which no admin escalates: what `create_org` has made
    has an owner, and only owners make owners and delete.

    An admin may give the role `owner`, also to himself.  That every organization has an owner needs no condition
    (`Did.owned`); that only owners act as owners needs it. -/
theorem owners_in_control {ls : List (Call τ K)}
    (hstart : ∀ o ∈ s.accounts.organizations, o.ownerId = none)
    (hguard : Run.Guarded (step A) (fun s c => ¬ Escalates A s c) s ls)
    (hrun : Run.exec (step A) s ls = some t) :
    (∀ o ∈ t.accounts.organizations, o.ownerId ≠ none → ∃ user, IsOwner t.accounts o.id user) ∧
      Run.Guarded (step A) (OwnersOnly A) s ls := by
  have howned : Owned t.accounts := by
    refine Run.exec_inv (I := fun s : Auth τ K => Owned s.accounts) owned_step
      (Run.guarded_true ls s) hrun ?_
    intro o ho creator hcreator
    rw [hstart o ho] at hcreator
    cases hcreator
  refine ⟨fun o ho hmade => ?_, hguard.imp ownersOnly_of_not_escalates⟩
  obtain ⟨creator, hcreator⟩ := Option.ne_none_iff_exists'.mp hmade
  exact ⟨creator, howned o ho creator hcreator⟩

end

/-- Alice, who made the organization, invites Bob as another owner. -/
theorem owners_in_control_invited :
    ∃ t, Run.exec (step .sample) aliceAndBob (inviteBob "owner") = some t ∧
      (∀ o ∈ t.accounts.organizations, o.ownerId ≠ none → ∃ user, IsOwner t.accounts o.id user) ∧
      Run.Guarded (step .sample) (OwnersOnly .sample) aliceAndBob (inviteBob "owner") := by
  refine ⟨_, rfl, owners_in_control ?_ ?_ rfl⟩
  · exact fun o ho => (nomatch ho)
  · refine ⟨fun h => h, fun s₁ h₁ => ⟨?_, fun _ _ => trivial⟩⟩
    have hobserved : (step .sample aliceAndBob (.by 1 (.createOrg "Acme" "acme" 7))).map (fun s =>
        (requester .sample s (.by 1 (.inviteMember 7 "bob" "owner")), memberRows 7 1 s.accounts)) =
        some (some 1, [⟨7, 1, "owner"⟩]) := by decide +kernel
    rw [h₁] at hobserved
    obtain ⟨hwho, hrows⟩ := Prod.mk.inj (Option.some.inj hobserved)
    rintro ⟨-, ⟨user, huser, m, hm, hadmin⟩, -⟩
    rw [hwho] at huser
    obtain rfl := Option.some.inj huser
    rw [hrows] at hm
    obtain rfl := List.singleton_inj.mp hm
    exact absurd hadmin (by decide)

/-- Alice invites Bob as an admin, and Bob makes himself an owner. -/
theorem admin_becomes_owner :
    ∃ t, Run.exec (step .sample) aliceAndBob (inviteBob "admin") = some t ∧
      ¬ OwnersOnly .sample t (.by 2 (.updateMember 7 2 "owner")) := by
  have hobserved : (Run.exec (step .sample) aliceAndBob (inviteBob "admin")).map (fun t =>
      (decide (OrgExists t.accounts 7), decide (IsOwner t.accounts 7 2),
        requester .sample t (.by 2 (.updateMember 7 2 "owner")),
        (step .sample t (.by 2 (.updateMember 7 2 "owner"))).map fun u =>
          decide (IsOwner u.accounts 7 2))) = some (true, false, some 2, some true) := by
    decide +kernel
  obtain ⟨t, ht, hout⟩ := Option.map_eq_some_iff.mp hobserved
  obtain ⟨horg, hrest⟩ := Prod.mk.inj hout
  obtain ⟨hbefore, hrest⟩ := Prod.mk.inj hrest
  obtain ⟨hwho, hstep⟩ := Prod.mk.inj hrest
  obtain ⟨u, hu, hafter⟩ := Option.map_eq_some_iff.mp hstep
  refine ⟨t, ht, fun honly => ?_⟩
  obtain ⟨user, huser, howner⟩ := honly u hu 7 (of_decide_eq_true horg)
    (.inl ⟨2, of_decide_eq_false hbefore, of_decide_eq_true hafter⟩)
  rw [hwho] at huser
  obtain rfl := Option.some.inj huser
  exact of_decide_eq_false hbefore howner

end Accounts

end Dtsys
