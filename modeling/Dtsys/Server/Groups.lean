/-
  THE ENDPOINTS OF GROUPS, one by one: exactly when a request is isolated from the other
  organizations.

  Each endpoint has one lemma, `Isolated … ↔ …`, of two halves:

  * what stays inside is isolated: renaming the ids of others does not change the run
    (`isolated_of_fixed`), and what it writes and returns is the organization's own;
  * what does not is found out by one id (`not_isolated`): with the id of another organization's row
    replaced by an id nobody has, the response is another one.
-/
import Dtsys.Lib.Rows
import Dtsys.Server.Ownership

namespace Dtsys

namespace Resources

section

variable {E : Env} {C : Cron} {Q : Queries} {org user : Uuid} {now : Nat} {drawn : Nat → Uuid}
  {R S : Resources} {k : Table} {i j g d : Uuid} {ρ : Table → Uuid → Uuid}
  {run : Request → Except PyErr (Reply × Resources)} {request : Request}

/-! ## Foreign rows -/

theorem foreign_own : foreign org (some org) = false := by
  show (org != org) = false
  rw [bne_self_eq_false]

/-- An organization is not foreign to itself alone. -/
theorem foreign_eq_false {o : Uuid} : foreign org (some o) = false ↔ o = org := by
  show (o != org) = false ↔ o = org
  exact bne_eq_false_iff_eq

theorem not_foreign {orgId : Option Uuid} (h : ¬ foreign org orgId = true) :
    foreign org orgId = false := Bool.eq_false_iff.mpr h

/-- Whether a group is another organization's can be seen from the rows of others. -/
theorem foreignGroup_congr (h : (S.groups.filter fun g => foreign org (some g.orgId)) =
    R.groups.filter fun g => foreign org (some g.orgId)) (g : Uuid) :
    ForeignGroup org S g ↔ ForeignGroup org R g := by
  have hmem : ∀ x : DeviceGroup, x ∈ S.groups ∧ foreign org (some x.orgId) = true ↔
      x ∈ R.groups ∧ foreign org (some x.orgId) = true := by
    intro x
    rw [← List.mem_filter (p := fun g : DeviceGroup => foreign org (some g.orgId)), h,
      List.mem_filter]
  constructor
  · rintro ⟨x, hx, hid, hforeign⟩
    obtain ⟨hx', -⟩ := (hmem x).mp ⟨hx, hforeign⟩
    exact ⟨x, hx', hid, hforeign⟩
  · rintro ⟨x, hx, hid, hforeign⟩
    obtain ⟨hx', -⟩ := (hmem x).mpr ⟨hx, hforeign⟩
    exact ⟨x, hx', hid, hforeign⟩

theorem Kept.refl (R : Resources) : Kept org R R := ⟨rfl, rfl, rfl, rfl, rfl⟩

/-- Changes of groups and memberships. -/
theorem Kept.of_groups {groups : List DeviceGroup} {memberships : List DeviceGroupMembership}
    (hgroups : (groups.filter fun g => foreign org (some g.orgId)) =
      R.groups.filter fun g => foreign org (some g.orgId))
    (hmemberships : (memberships.filter fun m => ForeignMembership org R m) =
      R.memberships.filter fun m => ForeignMembership org R m) :
    Kept org R { R with groups, memberships } := by
  refine ⟨hgroups, ?_, rfl, rfl, rfl⟩
  rw [← hmemberships]
  apply List.filter_congr
  intro m _
  have hgroup := foreignGroup_congr (S := { R with groups, memberships }) (R := R) hgroups m.groupId
  exact decide_eq_decide.mpr (or_congr hgroup Iff.rfl)

/-- The ids of others are ids. -/
theorem mem_ids_of_foreign (h : Foreign org R k i) : i ∈ R.ids k := by
  cases k with
  | device =>
    obtain ⟨r, hr, rfl, -⟩ := h
    exact List.mem_map_of_mem hr
  | group =>
    obtain ⟨x, hx, rfl, -⟩ := h
    exact List.mem_map_of_mem hx
  | schedule =>
    obtain ⟨s, hs, rfl, -⟩ := h
    exact List.mem_map_of_mem hs
  | rule =>
    obtain ⟨r, hr, rfl, -⟩ := h
    exact List.mem_map_of_mem hr
  | alert =>
    obtain ⟨a, ha, rfl, -⟩ := h
    exact List.mem_map_of_mem ha

/-! ## The two halves -/

/-- What is the organization's own is not renamed. -/
theorem Hides.fixed (h : Hides org R ρ) (hown : ¬ Foreign org R k i) : ρ k i = i := by
  rcases h k i with heq | ⟨hforeign, -⟩
  · exact heq
  · exact absurd hforeign hown

/-- Runs that do not see the renaming, and keep to the organization's rows. -/
theorem isolated_of_fixed
    (hfixed : ∀ ρ, Hides org R ρ → run (request.rename ρ) = run request)
    (hok : ∀ reply S, run request = .ok (reply, S) → Kept org R S ∧ Own org R reply) :
    Isolated org E R run request := by
  refine ⟨?_, fun reply S hrun => (hok reply S hrun).2, fun ρ hρ => ?_⟩
  · cases hrun : run request with
    | error e => exact Kept.refl R
    | ok out =>
      obtain ⟨reply, S⟩ := out
      exact (hok reply S hrun).1
  · rw [hfixed ρ hρ]
    exact ⟨rfl, rfl⟩

/-- `j` for the id `i`. -/
def move (k : Table) (i j : Uuid) : Table → Uuid → Uuid := fun k' i' =>
  if k' = k ∧ i' = i then j else i'

@[simp] theorem move_self (k : Table) (i j : Uuid) : move k i j k i = j := if_pos ⟨rfl, rfl⟩

theorem move_of_table {k' : Table} (h : k' ≠ k) (i' : Uuid) : move k i j k' i' = i' :=
  if_neg fun hmoved => h hmoved.1

/-- A row of another organization, moved to an id that nobody has. -/
theorem hides_move (hforeign : Foreign org R k i) (hj : j ∉ R.ids k) : Hides org R (move k i j) := by
  intro k' i'
  rw [move]
  split
  · rename_i hmoved
    obtain ⟨rfl, rfl⟩ := hmoved
    exact .inr ⟨hforeign, hj⟩
  · exact .inl rfl

/-- The id of another organization's row is found out. -/
theorem not_isolated (hforeign : Foreign org R k i) (hj : j ∉ R.ids k)
    (h : response E (run (request.rename (move k i j))) ≠ response E (run request)) :
    ¬ Isolated org E R run request := fun hisolated =>
  h (hisolated.unseen _ (hides_move hforeign hj)).1

/-! ## Groups -/

/-- The handlers with the organization of the token. -/
abbrev requests (E : Env) (C : Cron) (Q : Queries) (org user : Uuid) (now : Nat)
    (drawn : Nat → Uuid) (R : Resources) : Request → Except PyErr (Reply × Resources) :=
  fun request => handle E C Q user (.ok org) now drawn request R

/-- A group of the organization, or of nobody. -/
theorem own_group (hown : ¬ Foreign org R .group g) {x : DeviceGroup} (hx : x ∈ R.groups)
    (hid : x.id = g) : foreign org (some x.orgId) = false :=
  not_foreign fun hforeign => hown ⟨x, hx, hid, hforeign⟩

/-- A PATCH does not move a group to another organization. -/
theorem GroupPatch.apply_ok {p : GroupPatch} {x y : DeviceGroup} (h : GroupPatch.apply p x = .ok y) :
    y.orgId = x.orgId := by
  obtain ⟨name, -, h⟩ := ok_of_except_bind h
  obtain ⟨color, -, h⟩ := ok_of_except_bind h
  cases h
  rfl

/-- What a PATCH is refused for is refused by the database. -/
theorem GroupPatch.apply_error {p : GroupPatch} {x : DeviceGroup} {e : PyErr}
    (h : GroupPatch.apply p x = .error e) : e = .db := by
  rw [GroupPatch.apply] at h
  cases hname : p.name <;> cases hcolor : p.color <;> rw [hname, hcolor] at h <;> cases h <;> rfl

/-- PATCH of a group that is there is not answered by 404. -/
theorem updateGroup_found {x : DeviceGroup} (h : getGroup g R = some x) (patch : GroupPatch) :
    response E (updateGroup E g patch R) ≠ .error (404, "Group not found") := by
  intro hresponse
  rw [updateGroup, h] at hresponse
  cases happly : GroupPatch.apply patch x with
  | error e =>
    obtain rfl := GroupPatch.apply_error happly
    simp only [happly] at hresponse
    cases hresponse
  | ok y =>
    simp only [happly] at hresponse
    by_cases hrefused : (nameTaken y R || !groupAccepted E y) = true
    · have hdb : response E (.error .db) = .error (404, "Group not found") := by
        rw [← hresponse]
        exact congrArg (response E) (if_pos hrefused).symm
      cases hdb
    · have hok : response E (.ok (.message "Updated", R)) = .error (404, "Group not found") := by
        rw [← hresponse]
        show _ = response E (if _ then _ else _)
        rw [if_neg hrefused]
        rfl
      cases hok

/-- PATCH of a group: isolated exactly if the group is not of another organization. -/
theorem updateGroup_isolated (hj : j ∉ R.ids .group) (patch : GroupPatch) :
    Isolated org E R (requests E C Q org user now drawn R) (.updateGroup g patch) ↔
      ¬ Foreign org R .group g := by
  constructor
  · intro hisolated hforeign
    refine not_isolated hforeign hj ?_ hisolated
    obtain ⟨x, hx⟩ := Rows.find_of_mem (l := R.groups) (mem_ids_of_foreign hforeign)
    show response E (updateGroup E (move .group g j .group g) patch R) ≠
      response E (updateGroup E g patch R)
    rw [move_self, updateGroup, getGroup, Rows.find_eq_none hj]
    exact (updateGroup_found hx patch).symm
  · intro hown
    refine isolated_of_fixed (fun ρ hρ => ?_) fun reply S hrun => ?_
    · show updateGroup E (ρ .group g) patch R = updateGroup E g patch R
      rw [hρ.fixed hown]
    · have hupdate : updateGroup E g patch R = .ok (reply, S) := hrun
      rw [updateGroup] at hupdate
      cases hget : getGroup g R with
      | none =>
        rw [hget] at hupdate
        cases hupdate
      | some x =>
        rw [hget] at hupdate
        obtain ⟨y, happly, hupdate⟩ := ok_of_except_bind hupdate
        obtain ⟨-, hupdate⟩ := ok_of_guard hupdate
        cases hupdate
        obtain ⟨hx, hid⟩ := Rows.find_eq_some hget
        have hy : foreign org (some y.orgId) = false := by
          rw [GroupPatch.apply_ok happly]
          exact own_group hown hx hid
        exact ⟨Kept.of_groups (Rows.filter_update (fun z hz => own_group hown hz) hy) rfl, trivial⟩

/-- A membership of others is not lost. -/
theorem Kept.mem (h : Kept org R S) {m : DeviceGroupMembership} (hm : m ∈ R.memberships)
    (hforeign : ForeignMembership org R m) : m ∈ S.memberships := by
  have hkept : m ∈ R.memberships.filter fun m => ForeignMembership org R m :=
    List.mem_filter.mpr ⟨hm, decide_eq_true hforeign⟩
  rw [← h.memberships] at hkept
  exact (List.mem_filter.mp hkept).1

/-- DELETE of a group: it takes the memberships with it. -/
theorem deleteGroup_isolated (hvalid : Valid R) (hj : j ∉ R.ids .group) :
    Isolated org E R (requests E C Q org user now drawn R) (.deleteGroup g) ↔
      ¬ Foreign org R .group g ∧ ∀ m ∈ R.memberships, m.groupId = g → ¬ ForeignMembership org R m := by
  have hgroup : Isolated org E R (requests E C Q org user now drawn R) (.deleteGroup g) →
      ¬ Foreign org R .group g := by
    intro hisolated hforeign
    refine not_isolated hforeign hj ?_ hisolated
    obtain ⟨x, hx⟩ := Rows.find_of_mem (l := R.groups) (mem_ids_of_foreign hforeign)
    show response E (deleteGroup (move .group g j .group g) R) ≠ response E (deleteGroup g R)
    rw [move_self, deleteGroup, deleteGroup, getGroup, getGroup, Rows.find_eq_none hj, hx]
    exact fun hsame => nomatch hsame
  constructor
  · intro hisolated
    refine ⟨hgroup hisolated, fun m hm hg hforeign => ?_⟩
    obtain ⟨x, hx⟩ := Rows.find_of_mem (l := R.groups) (hg ▸ hvalid.groupIds m hm)
    have hkept := hisolated.kept.mem hm hforeign
    have hleft : m ∈ (settled R (deleteGroup g R)).memberships := hkept
    rw [deleteGroup, getGroup, hx] at hleft
    obtain ⟨-, hne⟩ := List.mem_filter.mp hleft
    exact bne_iff_ne.mp hne hg
  · rintro ⟨hown, hmembers⟩
    refine isolated_of_fixed (fun ρ hρ => ?_) fun reply S hrun => ?_
    · show deleteGroup (ρ .group g) R = deleteGroup g R
      rw [hρ.fixed hown]
    · have hdelete : deleteGroup g R = .ok (reply, S) := hrun
      rw [deleteGroup] at hdelete
      cases hget : getGroup g R with
      | none =>
        rw [hget] at hdelete
        cases hdelete
      | some x =>
        rw [hget] at hdelete
        cases hdelete
        refine ⟨Kept.of_groups (Rows.filter_delete fun z hz hforeign => ?_)
          (Rows.filter_delete fun m hm hforeign => ?_), trivial⟩
        · rw [bne_iff_ne]
          exact fun hid => hown ⟨z, hz, hid, hforeign⟩
        · rw [bne_iff_ne]
          exact fun hg => hmembers m hm hg (of_decide_eq_true hforeign)

/-- The new memberships are of this group. -/
theorem mem_newMemberships {ids : List Uuid} {m : DeviceGroupMembership}
    (h : m ∈ newMemberships drawn g ids) : m.groupId = g ∧ m.deviceId ∈ ids := by
  obtain ⟨n, hn, rfl⟩ := List.mem_mapIdx.mp h
  exact ⟨rfl, List.getElem_mem hn⟩

/-- Where the INSERTs go through, no device has been renamed. -/
theorem fixed_of_insertable (hvalid : Valid R) (hρ : Hides org R ρ) {ids : List Uuid}
    (h : insertable drawn g (ids.map (ρ .device)) R) : ∀ i ∈ ids, ρ .device i = i := by
  intro i hi
  rcases hρ .device i with heq | ⟨-, hnew⟩
  · exact heq
  · -- a new id is in no membership, so it is inserted
    have hmissing : ρ .device i ∈ missing g (ids.map (ρ .device)) R := by
      refine List.mem_filter.mpr ⟨List.mem_map_of_mem hi, ?_⟩
      rw [Bool.not_eq_true', List.any_eq_false]
      intro m hm hmember
      rw [Bool.and_eq_true, beq_iff_eq, beq_iff_eq] at hmember
      exact hnew (hmember.2 ▸ hvalid.deviceIds m hm)
    exact absurd (h.1 _ hmissing) hnew

theorem map_fixed {ids : List Uuid} (h : ∀ i ∈ ids, ρ k i = i) : ids.map (ρ k) = ids := by
  rw [List.map_congr_left h, List.map_id']

/-- Without the group there is a 404. -/
theorem addDevices_not_there (h : g ∉ R.ids .group) (ids : List Uuid) :
    addDevicesToGroup drawn g ids R = .error (.http 404 "Group not found") := by
  rw [addDevicesToGroup, getGroup, Rows.find_eq_none h]

/-- With it, the missing memberships are added. -/
theorem addDevices_there (h : g ∈ R.ids .group) (ids : List Uuid) :
    addDevicesToGroup drawn g ids R = if insertable drawn g ids R then
      .ok (.message "Devices added",
        { R with memberships := R.memberships ++ newMemberships drawn g (missing g ids R) })
      else .error .db := by
  obtain ⟨x, hx⟩ := Rows.find_of_mem (l := R.groups) h
  rw [addDevicesToGroup, getGroup, hx]

/-- Another organization's group is found out: its answer is never 404. -/
theorem addDevices_group (hg : j ∉ R.ids .group) {ids : List Uuid}
    (h : Isolated org E R (requests E C Q org user now drawn R) (.addDevicesToGroup g ids)) :
    ¬ Foreign org R .group g := by
  intro hforeign
  refine not_isolated hforeign hg ?_ h
  show response E (addDevicesToGroup drawn (move .group g j .group g) (ids.map _) R) ≠
    response E (addDevicesToGroup drawn g ids R)
  rw [move_self, addDevices_not_there hg, addDevices_there (mem_ids_of_foreign hforeign)]
  split
  · exact fun hsame => nomatch hsame
  · exact fun hsame => nomatch hsame

/-- So is another organization's device, where it would be added. -/
theorem addDevices_device (hvalid : Valid R) (hd : j ∉ R.ids .device) {ids : List Uuid}
    (h : Isolated org E R (requests E C Q org user now drawn R) (.addDevicesToGroup g ids))
    (hthere : g ∈ R.ids .group) (hinsertable : insertable drawn g ids R) (hmem : d ∈ ids) :
    ¬ Foreign org R .device d := by
  intro hforeign
  refine not_isolated hforeign hd ?_ h
  have hnot : ¬ insertable drawn g (ids.map (move .device d j .device)) R := by
    intro hrenamed
    have hsame := fixed_of_insertable hvalid (hides_move hforeign hd) hrenamed d hmem
    rw [move_self] at hsame
    exact hd (hsame ▸ mem_ids_of_foreign hforeign)
  show response E (addDevicesToGroup drawn (move .device d j .group g) (ids.map _) R) ≠
    response E (addDevicesToGroup drawn g ids R)
  rw [move_of_table (by decide), addDevices_there hthere, addDevices_there hthere, if_neg hnot,
    if_pos hinsertable]
  exact fun hsame => nomatch hsame

/-- With the organization's devices only, a renaming changes nothing. -/
theorem addDevices_renamed (hvalid : Valid R) (hρ : Hides org R ρ) {ids : List Uuid}
    (hdevices : g ∈ R.ids .group → insertable drawn g ids R → ∀ d ∈ ids, ¬ Foreign org R .device d) :
    addDevicesToGroup drawn g (ids.map (ρ .device)) R = addDevicesToGroup drawn g ids R := by
  by_cases hthere : g ∈ R.ids .group
  · by_cases hinsertable : insertable drawn g ids R
    · rw [map_fixed fun i hi => hρ.fixed (hdevices hthere hinsertable i hi)]
    · have hnot : ¬ insertable drawn g (ids.map (ρ .device)) R := by
        intro hrenamed
        rw [map_fixed (fixed_of_insertable hvalid hρ hrenamed)] at hrenamed
        exact hinsertable hrenamed
      rw [addDevices_there hthere, addDevices_there hthere, if_neg hnot, if_neg hinsertable]
  · rw [addDevices_not_there hthere, addDevices_not_there hthere]

/-- And the new memberships are the organization's own. -/
theorem addDevices_kept {ids : List Uuid} {reply : Reply} (hown : ¬ Foreign org R .group g)
    (hdevices : g ∈ R.ids .group → insertable drawn g ids R → ∀ d ∈ ids, ¬ Foreign org R .device d)
    (h : addDevicesToGroup drawn g ids R = .ok (reply, S)) : Kept org R S ∧ Own org R reply := by
  by_cases hthere : g ∈ R.ids .group
  · rw [addDevices_there hthere] at h
    split at h
    · rename_i hinsertable
      cases h
      refine ⟨Kept.of_groups rfl (Rows.filter_insert fun m hm => ?_), trivial⟩
      obtain ⟨hmg, hmd⟩ := mem_newMemberships hm
      rw [decide_eq_false_iff_not]
      rintro (hforeign | hforeign)
      · rw [hmg] at hforeign
        exact hown hforeign
      · exact hdevices hthere hinsertable _ (List.mem_filter.mp hmd).1 hforeign
    · cases h
  · rw [addDevices_not_there hthere] at h
    cases h

/-- POST of devices: isolated exactly if neither the group nor, as far as rows are written, a device is of
    another organization. -/
theorem addDevicesToGroup_isolated (hvalid : Valid R) (hg : j ∉ R.ids .group)
    (hd : j ∉ R.ids .device) (ids : List Uuid) :
    Isolated org E R (requests E C Q org user now drawn R) (.addDevicesToGroup g ids) ↔
      ¬ Foreign org R .group g ∧
        (g ∈ R.ids .group → insertable drawn g ids R → ∀ d ∈ ids, ¬ Foreign org R .device d) := by
  constructor
  · intro h
    exact ⟨addDevices_group hg h, fun hthere hinsertable d hmem =>
      addDevices_device hvalid hd h hthere hinsertable hmem⟩
  · rintro ⟨hown, hdevices⟩
    refine isolated_of_fixed (fun ρ hρ => ?_) fun reply S hrun => addDevices_kept hown hdevices hrun
    show addDevicesToGroup drawn (ρ .group g) (ids.map (ρ .device)) R =
      addDevicesToGroup drawn g ids R
    rw [hρ.fixed hown]
    exact addDevices_renamed hvalid hρ hdevices

/-! ## Memberships -/

/-- No membership names what is not there. -/
theorem Valid.no_group (h : Valid R) (hj : j ∉ R.ids .group) :
    ∀ m ∈ R.memberships, m.groupId ≠ j := fun m hm hmj => hj (hmj ▸ h.groupIds m hm)

/-- Nobody is a member under an id that nobody has. -/
theorem Valid.no_device (h : Valid R) (hj : j ∉ R.ids .device) :
    ∀ m ∈ R.memberships, m.deviceId ≠ j := fun m hm hmj => hj (hmj ▸ h.deviceIds m hm)

/-- Without the membership there is a 404. -/
theorem removeDevice_missing (h : ∀ m ∈ R.memberships, m.groupId = g → m.deviceId ≠ d) :
    removeDeviceFromGroup g d R = .error (.http 404 "Membership not found") := by
  have hnone : (R.memberships.filter fun m => m.groupId == g && m.deviceId == d) = [] := by
    rw [List.filter_eq_nil_iff]
    intro m hm hmember
    rw [Bool.and_eq_true, beq_iff_eq, beq_iff_eq] at hmember
    exact h m hm hmember.1 hmember.2
  rw [removeDeviceFromGroup, hnone]
  rfl

/-- With it there is none. -/
theorem removeDevice_found {m : DeviceGroupMembership} (hm : m ∈ R.memberships)
    (hg : m.groupId = g) (hd : m.deviceId = d) :
    response E (removeDeviceFromGroup g d R) ≠ .error (404, "Membership not found") := by
  intro hresponse
  have hmem : m ∈ R.memberships.filter fun m => m.groupId == g && m.deviceId == d := by
    refine List.mem_filter.mpr ⟨hm, ?_⟩
    rw [hg, hd, beq_self_eq_true, beq_self_eq_true, Bool.and_self]
  rw [removeDeviceFromGroup] at hresponse
  rcases hrows : (R.memberships.filter fun m => m.groupId == g && m.deviceId == d)
    with _ | ⟨a, _ | ⟨b, rest⟩⟩
  · rw [hrows] at hmem
    cases hmem
  · rw [hrows] at hresponse
    cases hresponse
  · rw [hrows] at hresponse
    cases hresponse

/-- DELETE of a device in a group: isolated exactly if no such membership is of another organization. -/
theorem removeDeviceFromGroup_isolated (hvalid : Valid R) (hg : j ∉ R.ids .group)
    (hd : j ∉ R.ids .device) :
    Isolated org E R (requests E C Q org user now drawn R) (.removeDeviceFromGroup g d) ↔
      ∀ m ∈ R.memberships, m.groupId = g → m.deviceId = d → ¬ ForeignMembership org R m := by
  constructor
  -- A foreign membership is found by its ids; with the foreign id exchanged the answer is a 404.
  · rintro hisolated m hm hmg hmd (hforeign | hforeign)
    · rw [hmg] at hforeign
      refine not_isolated (k := .group) hforeign hg ?_ hisolated
      show response E (removeDeviceFromGroup (move .group g j .group g) (move .group g j .device d) R) ≠
        response E (removeDeviceFromGroup g d R)
      rw [move_self, removeDevice_missing fun m hm hmj => absurd hmj (hvalid.no_group hg m hm)]
      exact (removeDevice_found hm hmg hmd).symm
    · rw [hmd] at hforeign
      refine not_isolated (k := .device) hforeign hd ?_ hisolated
      show response E (removeDeviceFromGroup (move .device d j .group g) (move .device d j .device d) R) ≠
        response E (removeDeviceFromGroup g d R)
      rw [move_self, removeDevice_missing fun m hm _ => hvalid.no_device hd m hm]
      exact (removeDevice_found hm hmg hmd).symm
  · intro hmembers
    refine isolated_of_fixed (fun ρ hρ => ?_) fun reply S hrun => ?_
    · show removeDeviceFromGroup (ρ .group g) (ρ .device d) R = removeDeviceFromGroup g d R
      rcases hρ .group g with hgroup | ⟨hforeign, hnew⟩
      · rcases hρ .device d with hdevice | ⟨hforeign, hnew⟩
        · rw [hgroup, hdevice]
        · rw [removeDevice_missing fun m hm _ => hvalid.no_device hnew m hm,
            removeDevice_missing fun m hm hmg hmd =>
              hmembers m hm hmg hmd (.inr (hmd.symm ▸ hforeign))]
      · rw [removeDevice_missing fun m hm hmg => absurd hmg (hvalid.no_group hnew m hm),
          removeDevice_missing fun m hm hmg hmd =>
            hmembers m hm hmg hmd (.inl (hmg.symm ▸ hforeign))]
    · have hremove : removeDeviceFromGroup g d R = .ok (reply, S) := hrun
      rw [removeDeviceFromGroup] at hremove
      obtain ⟨found, hfound, hremove⟩ := ok_of_except_bind hremove
      cases found with
      | none => cases hremove
      | some x =>
        cases hremove
        obtain ⟨hx, hmember⟩ := Accounts.mem_of_oneOrNone hfound
        rw [Bool.and_eq_true, beq_iff_eq, beq_iff_eq] at hmember
        refine ⟨Kept.of_groups rfl (Rows.filter_delete fun m hm hforeign => ?_), trivial⟩
        rw [bne_iff_ne]
        intro hid
        obtain rfl := List.inj_on_of_nodup_map hvalid.memberships hm hx hid
        exact hmembers m hm hmember.1 hmember.2 (of_decide_eq_true hforeign)

/-- The devices of a group are those its memberships name. -/
theorem mem_groupDevices {r : DeviceRow} :
    r ∈ groupDevices g R ↔ r ∈ R.devices ∧ ∃ m ∈ R.memberships, m.groupId = g ∧ m.deviceId = r.id := by
  rw [groupDevices, List.mem_flatMap]
  constructor
  · rintro ⟨m, hm, hr⟩
    obtain ⟨hm, hg⟩ := List.mem_filter.mp hm
    obtain ⟨hr, hid⟩ := List.mem_filter.mp hr
    exact ⟨hr, m, hm, beq_iff_eq.mp hg, (beq_iff_eq.mp hid).symm⟩
  · rintro ⟨hr, m, hm, hg, hid⟩
    exact ⟨m, List.mem_filter.mpr ⟨hm, beq_iff_eq.mpr hg⟩,
      List.mem_filter.mpr ⟨hr, beq_iff_eq.mpr hid.symm⟩⟩

theorem mem_deviceGroups {x : DeviceGroup} :
    x ∈ deviceGroups d R ↔ x ∈ R.groups ∧ ∃ m ∈ R.memberships, m.deviceId = d ∧ m.groupId = x.id := by
  rw [deviceGroups, List.mem_flatMap]
  constructor
  · rintro ⟨m, hm, hx⟩
    obtain ⟨hm, hd⟩ := List.mem_filter.mp hm
    obtain ⟨hx, hid⟩ := List.mem_filter.mp hx
    exact ⟨hx, m, hm, beq_iff_eq.mp hd, (beq_iff_eq.mp hid).symm⟩
  · rintro ⟨hx, m, hm, hd, hid⟩
    exact ⟨m, List.mem_filter.mpr ⟨hm, beq_iff_eq.mpr hd⟩,
      List.mem_filter.mpr ⟨hx, beq_iff_eq.mpr hid.symm⟩⟩

theorem groupDevices_eq_nil (h : ∀ m ∈ R.memberships, m.groupId ≠ g) : groupDevices g R = [] := by
  rw [List.eq_nil_iff_forall_not_mem]
  intro r hr
  obtain ⟨-, m, hm, hg, -⟩ := mem_groupDevices.mp hr
  exact h m hm hg

theorem deviceGroups_eq_nil (h : ∀ m ∈ R.memberships, m.deviceId ≠ d) : deviceGroups d R = [] := by
  rw [List.eq_nil_iff_forall_not_mem]
  intro x hx
  obtain ⟨-, m, hm, hd, -⟩ := mem_deviceGroups.mp hx
  exact h m hm hd

theorem orderBy_nil {α : Type} (le : α → α → Bool) : Q.orderBy le ([] : List α) = [] := by
  rw [List.eq_nil_iff_forall_not_mem]
  intro a ha
  exact absurd (Q.mem_orderBy.mp ha) (Multiset.notMem_zero a)

theorem orderBy_ne_nil {α : Type} {le : α → α → Bool} {l : List α} {a : α} (h : a ∈ l) :
    Q.orderBy le l ≠ [] := by
  intro hnil
  have hmem : a ∈ Q.orderBy le l := Q.mem_orderBy.mpr (Multiset.mem_coe.mpr h)
  rw [hnil] at hmem
  cases hmem

/-- GET of the devices of a group. -/
theorem listGroupDevices_isolated (hvalid : Valid R) (hj : j ∉ R.ids .group) :
    Isolated org E R (requests E C Q org user now drawn R) (.listGroupDevices g) ↔
      ∀ m ∈ R.memberships, m.groupId = g → ¬ ForeignMembership org R m := by
  constructor
  · rintro hisolated m hm hg (hforeign | ⟨r, hr, hid, hforeign⟩)
    · rw [hg] at hforeign
      refine not_isolated (k := .group) hforeign hj ?_ hisolated
      obtain ⟨r, hr, hid⟩ := List.mem_map.mp (hvalid.deviceIds m hm)
      have hthere : r ∈ groupDevices g R := mem_groupDevices.mpr ⟨hr, m, hm, hg, hid.symm⟩
      show response E (listGroupDevices Q (move .group g j .group g) R) ≠
        response E (listGroupDevices Q g R)
      rw [move_self, listGroupDevices, listGroupDevices,
        groupDevices_eq_nil (hvalid.no_group hj), orderBy_nil]
      intro hsame
      have hbodies : ([] : List Json) = (Q.orderBy _ (groupDevices g R)).map (memberBody E) :=
        Json.arr.inj (Except.ok.inj hsame)
      exact orderBy_ne_nil hthere (List.map_eq_nil_iff.mp hbodies.symm)
    · have hthere : r ∈ groupDevices g R := mem_groupDevices.mpr ⟨hr, m, hm, hg, hid.symm⟩
      have hown := hisolated.own _ _ rfl r (Q.mem_orderBy.mpr (Multiset.mem_coe.mpr hthere))
      rw [hforeign] at hown
      cases hown
  · intro hmembers
    refine isolated_of_fixed (fun ρ hρ => ?_) fun reply S hrun => ?_
    · show listGroupDevices Q (ρ .group g) R = listGroupDevices Q g R
      rcases hρ .group g with hgroup | ⟨hforeign, hnew⟩
      · rw [hgroup]
      · rw [listGroupDevices, listGroupDevices,
          groupDevices_eq_nil (hvalid.no_group hnew),
          groupDevices_eq_nil fun m hm hmg => hmembers m hm hmg (.inl (hmg.symm ▸ hforeign))]
    · cases hrun
      refine ⟨Kept.refl R, fun r hr => ?_⟩
      obtain ⟨hr, m, hm, hg, hid⟩ := mem_groupDevices.mp (Multiset.mem_coe.mp (Q.mem_orderBy.mp hr))
      exact not_foreign fun hforeign => hmembers m hm hg (.inr ⟨r, hr, hid.symm, hforeign⟩)

/-- GET of the groups of a device. -/
theorem listDeviceGroups_isolated (hvalid : Valid R) (hj : j ∉ R.ids .device) :
    Isolated org E R (requests E C Q org user now drawn R) (.listDeviceGroups d) ↔
      ∀ m ∈ R.memberships, m.deviceId = d → ¬ ForeignMembership org R m := by
  constructor
  · rintro hisolated m hm hd (⟨x, hx, hid, hforeign⟩ | hforeign)
    · have hthere : x ∈ deviceGroups d R := mem_deviceGroups.mpr ⟨hx, m, hm, hd, hid.symm⟩
      have hown := hisolated.own _ _ rfl x (Q.mem_orderBy.mpr (Multiset.mem_coe.mpr hthere))
      rw [hforeign] at hown
      cases hown
    · rw [hd] at hforeign
      refine not_isolated (k := .device) hforeign hj ?_ hisolated
      obtain ⟨x, hx, hid⟩ := List.mem_map.mp (hvalid.groupIds m hm)
      have hthere : x ∈ deviceGroups d R := mem_deviceGroups.mpr ⟨hx, m, hm, hd, hid.symm⟩
      show response E (listDeviceGroups Q (move .device d j .device d) R) ≠
        response E (listDeviceGroups Q d R)
      rw [move_self, listDeviceGroups, listDeviceGroups,
        deviceGroups_eq_nil (hvalid.no_device hj), orderBy_nil]
      intro hsame
      have hbodies : ([] : List Json) =
          (Q.orderBy _ (deviceGroups d R)).map fun g => .obj (groupBody g) :=
        Json.arr.inj (Except.ok.inj hsame)
      exact orderBy_ne_nil hthere (List.map_eq_nil_iff.mp hbodies.symm)
  · intro hmembers
    refine isolated_of_fixed (fun ρ hρ => ?_) fun reply S hrun => ?_
    · show listDeviceGroups Q (ρ .device d) R = listDeviceGroups Q d R
      rcases hρ .device d with hdevice | ⟨hforeign, hnew⟩
      · rw [hdevice]
      · rw [listDeviceGroups, listDeviceGroups,
          deviceGroups_eq_nil (hvalid.no_device hnew),
          deviceGroups_eq_nil fun m hm hmd => hmembers m hm hmd (.inr (hmd.symm ▸ hforeign))]
    · cases hrun
      refine ⟨Kept.refl R, fun x hx => ?_⟩
      obtain ⟨hx, m, hm, hd, hid⟩ := mem_deviceGroups.mp (Multiset.mem_coe.mp (Q.mem_orderBy.mp hx))
      exact not_foreign fun hforeign => hmembers m hm hd (.inl ⟨x, hx, hid.symm, hforeign⟩)

end

end Resources

end Dtsys
