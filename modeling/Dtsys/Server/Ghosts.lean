/-
  GHOST COMMANDS: a request that transmits and is then rolled back leaves an agent with a command
  whose row does not exist.

  * the single dispatch has nothing left that can raise once it has transmitted;
  * the bulk request catches every exception of an element, and cannot raise after its loop;
  * the update dispatch lets the first exception of an element end the request, AFTER the elements
    before it were transmitted.  `Ghosts` says which lists do that: a target that is rejected behind
    an admitted one that can be reached.

  For the first two kinds of request there is one property, `Careful`: they return and have only added
  commands, or raise with nothing on the wire and nothing committed (`postCommand_careful`,
  `postBulk_careful`).

  For the third, `updateAll_run` is by induction over the targets; `Progress` is what the dispatches so
  far have changed, which is only the queue of their devices.
-/
import Dtsys.Server.Bulk

namespace Dtsys

namespace Server

variable {E : Env} {w : World}

/-- The three requests that dispatch commands. -/
inductive DispatchRequest where
  | single (d : Uuid) (commandType : String) (payload : List (String × Json))
  | bulk (deviceIds : List Uuid) (commandType : String) (payload : List (String × Json))
  | updates (names : List String) (deviceIds : List Uuid)

/-- The endpoint of a request. -/
def serveRequest (E : Env) (user : User) (org : Uuid) : DispatchRequest → Server Unit
  | .single d commandType payload => do
    let _ ← postCommand E user org d commandType payload
    pure ()
  | .bulk deviceIds commandType payload => do
    let _ ← postBulk E user org deviceIds commandType payload
    pure ()
  | .updates names deviceIds => do
    let _ ← dispatchUpdates E user org names deviceIds
    pure ()

/-- If the request raises, nothing has been put on the wire. -/
def NoGhost (E : Env) (w : World) (user : User) (org : Uuid) (r : DispatchRequest) : Prop :=
  ∀ e, (getDb E (serveRequest E user org r) w).1 = .error e →
    (getDb E (serveRequest E user org r) w).2.wire = w.wire

/-- A computation that returns with a settled session that has only gained commands, or raises with
    nothing on the wire and nothing committed. -/
def Careful {α : Type} (x : Server α) (w : World) : Prop :=
  (∃ a w', x w = (.ok a, w') ∧ w'.Settled ∧ Extends w w') ∨
    ∃ e w', x w = (.error e, w') ∧ w'.wire = w.wire ∧ w'.committed = w.committed

/-- A careful handler that raises has sent nothing. -/
theorem Careful.noGhost {x : Server Unit} (h : Careful x w) (e : PyErr)
    (he : (getDb E x w).1 = .error e) : (getDb E x w).2.wire = w.wire := by
  rcases h with ⟨a, w', hrun, hset, -⟩ | ⟨e', w', hrun, hwire, -⟩
  -- a settled session has nothing left that a commit could refuse
  · rw [getDb_of_settled E hrun hset] at he
    cases he
  · rw [getDb_of_error E hrun]
    exact hwire

/-- What it returns makes no difference. -/
theorem Careful.discard {α : Type} {x : Server α} (h : Careful x w) :
    Careful (x >>= fun _ => pure ()) w := by
  rcases h with ⟨a, w', hrun, hdone⟩ | ⟨e, w', hrun, hfail⟩
  · exact .inl ⟨(), w', Act.bind_of_ok hrun, hdone⟩
  · exact .inr ⟨e, w', Act.bind_of_error hrun, hfail⟩

/-! ## The single dispatch -/

theorem ensure_run (c : Bool) (e : PyErr) (w : World) :
    ensure c e w = (.ok (), w) ∨ ensure c e w = (.error e, w) := by
  cases c with
  | true => exact .inl rfl
  | false => exact .inr rfl

/-- The audit row carries no value from outside. -/
theorem logAction_run (h : w.Settled) (user : User) (action resourceType resourceId : String)
    (details : Json) : ∃ w', logAction E user action resourceType resourceId details w =
      (.ok (), w') ∧ w'.Settled ∧ Extends w w' := by
  rw [logAction, now, newId_bind]
  simp only [Act.read_bind, add, Act.modify_bind]
  have hacc : ∀ r, E.driver.acceptsRow (.audit r) = true := fun _ => rfl
  exact ⟨_, flush_add h (hacc _) _, ⟨h.pending, h.loaded⟩, [], by simp [Db.insert]⟩

/-- The lookup of a device changes nothing. -/
theorem getDeviceForOrg_run (h : w.Settled) (d org : Uuid) :
    (∃ r, getDeviceForOrg E d org w = (.ok r, w)) ∨ ∃ e, getDeviceForOrg E d org w = (.error e, w) := by
  rw [getDeviceForOrg, Act.bind_of_ok (select_settled h _)]
  generalize w.db.devices.filter _ = rows
  rcases rows with _ | ⟨r, _ | ⟨r', rest⟩⟩
  · exact .inr ⟨_, rfl⟩
  · exact .inl ⟨_, rfl⟩
  · exact .inr ⟨_, rfl⟩

theorem postCommand_careful (h : w.Settled) (user : User) (org d : Uuid) (commandType : String)
    (payload : List (String × Json)) :
    Careful (postCommand E user org d commandType payload) w := by
  rw [postCommand]
  rcases ensure_run (validShellPayload payload) _ w with hv | hv
  · rw [Careful, Act.bind_of_ok hv]
    rcases getDeviceForOrg_run (E := E) h d org with ⟨r, hr⟩ | ⟨e, hr⟩
    · rw [Act.bind_of_ok hr]
      rcases dispatchCommand_run (E := E) h d commandType payload (some user.id) true with
        ⟨-, hrun⟩ | ⟨-, e, w', hrun, hwire, hcom, -⟩
      · rw [Act.bind_of_ok hrun]
        obtain ⟨w₂, hlog, hset, hext⟩ := logAction_run (E := E) (afterDispatch_settled h _ true) user
          "command_dispatched" "device" d.str (.obj [("command_type", .str commandType)])
        refine .inl ⟨_, _, (Act.bind_of_ok hlog).trans (Act.bind_of_ok (commit_settled E hset)), ?_⟩
        exact ⟨⟨hset.pending, hset.loaded⟩, (afterDispatch_extends w _ true).trans hext⟩
      · exact .inr ⟨e, w', Act.bind_of_error hrun, hwire, hcom⟩
    · exact .inr ⟨e, w, Act.bind_of_error hr, rfl, rfl⟩
  · exact .inr ⟨_, w, Act.bind_of_error hv, rfl, rfl⟩

/-! ## The bulk request -/

/-- So is a bulk dispatch, with its savepoints. -/
theorem postBulk_careful (h : w.Settled) (user : User) (org : Uuid) (deviceIds : List Uuid)
    (commandType : String) (payload : List (String × Json)) :
    Careful (postBulk E user org deviceIds commandType payload) w := by
  rw [postBulk]
  rcases ensure_run (!deviceIds.isEmpty) _ w with hne | hne
  · rcases ensure_run (validShellPayload payload) _ w with hv | hv
    · rw [Careful, Act.bind_of_ok hne, Act.bind_of_ok hv, Act.bind_of_ok (select_settled h _)]
      obtain ⟨outs, w₁, hrun, hset, hext⟩ := bulkAll_run (E := E) user
        ((w.db.devices.filter fun r => r.orgId == some org && deviceIds.contains r.id).map Device.id)
        commandType payload deviceIds w h
      rw [Act.bind_of_ok hrun, Act.bind_of_ok (commit_settled E hset)]
      exact .inl ⟨_, _, rfl, ⟨hset.pending, hset.loaded⟩, hext⟩
    · exact .inr ⟨_, w, (Act.bind_of_ok hne).trans (Act.bind_of_error hv), rfl, rfl⟩
  · exact .inr ⟨_, w, Act.bind_of_error hne, rfl, rfl⟩

/-! ## The update dispatch -/

/-- The devices of the organization among those asked for. -/
def orgDevices (w : World) (org : Uuid) (deviceIds : List Uuid) : List Device :=
  w.db.devices.filter fun r => deviceIds.contains r.id && r.orgId == some org

/-- The payload for a device. -/
def updatePayload (names : List String) (device : Device) : List (String × Json) :=
  [("command", .str (buildUpdateCommand device.osType names))]

/-- The ids the loop dispatches to: those of the devices it looked up. -/
def targets (devices : List Device) (deviceIds : List Uuid) : List Uuid :=
  deviceIds.filter fun d => (devices.find? fun r => r.id == d).isSome

/-- The dispatch to `d` goes through when those to `pre` have gone through before it in the same
    request: each of them has put a command in its device's queue. -/
structure AdmitsAfter (E : Env) (w : World) (names : List String) (devices : List Device)
    (pre : List Uuid) (d : Uuid) : Prop where
  queue : (w.db.commands.filter (queued d)).length + pre.count d < 100
  device : (w.db.devices.filter fun r => r.id == d && !r.isRevoked).length = 1
  payload : ∀ device, (devices.find? fun r => r.id == d) = some device →
    E.driver.accepts (nullable .jsonb) (.obj (updatePayload names device)) = true

/-- The loop has dispatched to `pre`, starting from `w`. -/
structure Progress (w : World) (pre : List Uuid) (v : World) : Prop where
  settled : v.Settled
  committed : v.committed = w.committed
  clock : v.clock = w.clock
  grown : Extends w v
  devices : v.db.devices = w.db.devices
  live : ∀ d, live v d = live w d
  queue : ∀ d, (v.db.commands.filter (queued d)).length =
    (w.db.commands.filter (queued d)).length + pre.count d
  wire : ∃ sent, v.wire = w.wire ++ sent ∧ (sent = [] ↔ ∀ d ∈ pre, Server.live w d = none)

theorem Progress.start (h : w.Settled) : Progress w [] w :=
  ⟨h, rfl, rfl, .refl w, rfl, fun _ => rfl, fun _ => by simp, [], by simp, by simp⟩

/-- In a shell command nothing is added to the payload. -/
theorem withTargetTime_shell (payload : List (String × Json)) (t : Nat) :
    withTargetTime E "shell" payload t = payload := by
  rw [withTargetTime, if_neg (by simp)]

/-- Whether a dispatch goes through, after those before it. -/
theorem Progress.admits_iff {pre : List Uuid} {v : World} (hp : Progress w pre v)
    {names : List String} {devices : List Device} {d : Uuid} {device : Device}
    (hfind : (devices.find? fun r => r.id == d) = some device) :
    Admits E v d "shell" (updatePayload names device) ↔ AdmitsAfter E w names devices pre d := by
  constructor
  · rintro ⟨-, hq, hdev, hpay⟩
    rw [withTargetTime_shell] at hpay
    refine ⟨by rw [← hp.queue]; exact hq, by rw [← hp.devices]; exact hdev, ?_⟩
    intro device' hfind'
    rw [hfind] at hfind'
    cases hfind'
    exact hpay
  · rintro ⟨hq, hdev, hpay⟩
    refine ⟨by decide, by rw [hp.queue]; exact hq, by rw [hp.devices]; exact hdev, ?_⟩
    rw [withTargetTime_shell]
    exact hpay device hfind

/-- One dispatch: one more command in the device's queue, and on the wire if it can be reached. -/
theorem Progress.step {pre : List Uuid} {v : World} (hp : Progress w pre v) (d : Uuid)
    (commandType : String) (payload : List (String × Json)) (issuedBy : Option Uuid) :
    Progress w (pre ++ [d])
      (afterDispatch v (newCommand E v d commandType payload issuedBy) false) where
  settled := afterDispatch_settled hp.settled _ _
  committed := hp.committed
  clock := hp.clock
  grown := hp.grown.trans (afterDispatch_extends v _ false)
  devices := hp.devices
  live d' := (live_afterDispatch _ _ _ d').trans (hp.live d')
  queue d' := by
    have hst : ∀ b, (settleDispatch b false v.clock (newCommand E v d commandType payload issuedBy)) =
        { newCommand E v d commandType payload issuedBy with
          status := if b then .sent else .pending } := by
      intro b
      cases b <;> rfl
    show ((v.db.commands ++ [settleDispatch _ false v.clock _]).filter (queued d')).length = _
    rw [List.filter_append, List.length_append, hp.queue, hst, List.count_append, Nat.add_assoc]
    congr 2
    -- `sent` and `pending` both count as queued
    by_cases hd : d = d'
    · subst hd
      cases (Server.live v (newCommand E v d commandType payload issuedBy).deviceId).isSome <;>
        simp [queued, newCommand]
    · simp [queued, newCommand, hd]
  wire := by
    obtain ⟨sent, hwire, hnil⟩ := hp.wire
    refine ⟨sent ++ transmitted v d (.command (E.uuid4 v.drawn) commandType
      (withTargetTime E commandType payload v.clock)), ?_, ?_⟩
    · show v.wire ++ transmitted v d _ = _
      rw [hwire, List.append_assoc]
      rfl
    · have hone : transmitted v d (.command (E.uuid4 v.drawn) commandType
          (withTargetTime E commandType payload v.clock)) = [] ↔ Server.live w d = none := by
        rw [← hp.live d]
        rw [transmitted]
        cases Server.live v d <;> simp
      rw [List.append_eq_nil_iff, hnil, hone]
      simp [or_imp, forall_and]

/-- A list of targets that leaves a ghost: one of them is rejected, and one admitted before it can
    be reached. -/
def GhostList (E : Env) (w : World) (names : List String) (devices : List Device)
    (pre ds : List Uuid) : Prop :=
  ∃ mid x post, ds = mid ++ x :: post ∧
    (∀ p y q, mid = p ++ y :: q → AdmitsAfter E w names devices (pre ++ p) y) ∧
    ¬ AdmitsAfter E w names devices (pre ++ mid) x ∧ ∃ y ∈ pre ++ mid, (live w y).isSome = true

section GhostList

variable {names : List String} {devices : List Device} {pre ds : List Uuid} {d : Uuid}

theorem not_ghostList_nil : ¬ GhostList E w names devices pre [] := by
  rintro ⟨mid, x, post, heq, -⟩
  cases mid <;> cases heq

/-- An admitted target moves on to the next one. -/
theorem ghostList_cons_admitted (h : AdmitsAfter E w names devices pre d) :
    GhostList E w names devices pre (d :: ds) ↔ GhostList E w names devices (pre ++ [d]) ds := by
  constructor
  · rintro ⟨mid, x, post, heq, hadm, hrej, hlive⟩
    cases mid with
    | nil =>
      cases heq
      rw [List.append_nil] at hrej
      exact absurd h hrej
    | cons d' mid =>
      cases heq
      refine ⟨mid, x, post, rfl, ?_, by simpa using hrej, by simpa using hlive⟩
      intro p y q hmid
      have := hadm (d :: p) y q (by rw [hmid]; rfl)
      simpa using this
  · rintro ⟨mid, x, post, rfl, hadm, hrej, hlive⟩
    refine ⟨d :: mid, x, post, rfl, ?_, by simpa using hrej, by simpa using hlive⟩
    intro p y q hmid
    cases p with
    | nil =>
      cases hmid
      simpa using h
    | cons d' p =>
      cases hmid
      have := hadm p y q rfl
      simpa using this

/-- A rejected target stops the loop: the ghosts are among those before it. -/
theorem ghostList_cons_rejected (h : ¬ AdmitsAfter E w names devices pre d) :
    GhostList E w names devices pre (d :: ds) ↔ ∃ y ∈ pre, (live w y).isSome = true := by
  constructor
  · rintro ⟨mid, x, post, heq, hadm, hrej, hlive⟩
    cases mid with
    | nil => simpa using hlive
    | cons d' mid =>
      cases heq
      exact absurd (by simpa using hadm [] d mid rfl) h
  · intro hlive
    refine ⟨[], d, ds, rfl, ?_, by simpa using h, by simpa using hlive⟩
    intro p y q hmid
    cases p <;> cases hmid

end GhostList

/-- The loop raises with something on the wire exactly on the lists that leave a ghost; if it
    returns, the session is settled. -/
theorem updateAll_run (user : User) (names : List String) (devices : List Device) :
    ∀ (ds pre : List Uuid) (v : World), Progress w pre v →
      ((∃ outs v', updateAll E user names devices ds v = (.ok outs, v') ∧ v'.Settled ∧
          Extends w v') ∧ ¬ GhostList E w names devices pre (targets devices ds)) ∨
      ∃ e v', updateAll E user names devices ds v = (.error e, v') ∧ v'.committed = w.committed ∧
        (v'.wire ≠ w.wire ↔ GhostList E w names devices pre (targets devices ds)) := by
  intro ds
  induction ds with
  -- `pre` are the targets already dispatched to; `Progress` carries what they left to the next one
  | nil => intro pre v hp; exact .inl ⟨⟨[], v, rfl, hp.settled, hp.grown⟩, not_ghostList_nil⟩
  | cons d ds ih =>
    intro pre v hp
    cases hfind : devices.find? (fun r => r.id == d) with
    | none =>
      have htar : targets devices (d :: ds) = targets devices ds := by simp [targets, hfind]
      have hrun : updateAll E user names devices (d :: ds) v =
          updateAll E user names devices ds v := by rw [updateAll, hfind]
      rw [htar, hrun]
      exact ih pre v hp
    | some device =>
      have htar : targets devices (d :: ds) = d :: targets devices ds := by simp [targets, hfind]
      rw [htar, updateAll, hfind]
      rcases dispatchCommand_run (E := E) hp.settled d "shell" (updatePayload names device)
        (some user.id) false with ⟨hadm, hrun⟩ | ⟨hrej, e, v', hrun, hwire, hcom, -⟩
      · rw [ghostList_cons_admitted ((hp.admits_iff hfind).mp hadm)]
        rcases ih (pre ++ [d]) _ (hp.step (E := E) d "shell" (updatePayload names device) (some user.id)) with
          ⟨⟨outs, v', hrest, hset⟩, hno⟩ | ⟨e, v', hrest, hiff⟩
        · refine .inl ⟨⟨_, v', (Act.bind_of_ok hrun).trans (Act.bind_of_ok hrest), hset⟩, hno⟩
        · exact .inr ⟨e, v', (Act.bind_of_ok hrun).trans (Act.bind_of_error hrest), hiff⟩
      -- the exception: what is on the wire is what `pre` put there
      · rw [ghostList_cons_rejected fun hadm => hrej ((hp.admits_iff hfind).mpr hadm)]
        refine .inr ⟨e, v', Act.bind_of_error hrun, hcom.trans hp.committed, ?_⟩
        obtain ⟨sent, hsent, hnil⟩ := hp.wire
        have hself : w.wire ++ sent = w.wire ↔ sent = [] := by simp
        rw [hwire, hsent, Ne, hself, hnil]
        simp [Option.isSome_iff_ne_none]

/-! ## The requests -/

/-- The requests that leave a ghost. -/
def Ghosts (E : Env) (w : World) (org : Uuid) : DispatchRequest → Prop
  | .updates names deviceIds =>
    GhostList E w names (orgDevices w org deviceIds) [] (targets (orgDevices w org deviceIds) deviceIds)
  | _ => False

/-- The update dispatch: it returns, or raises with something on the wire iff the list leaves a
    ghost. -/
theorem dispatchUpdates_run (h : w.Settled) (user : User) (org : Uuid) (names : List String)
    (deviceIds : List Uuid) :
    ((∃ outs w', dispatchUpdates E user org names deviceIds w = (.ok outs, w') ∧ w'.Settled ∧
        Extends w w') ∧ ¬ Ghosts E w org (.updates names deviceIds)) ∨
    ∃ e w', dispatchUpdates E user org names deviceIds w = (.error e, w') ∧
      w'.committed = w.committed ∧
      (w'.wire ≠ w.wire ↔ Ghosts E w org (.updates names deviceIds)) := by
  rw [dispatchUpdates, Act.bind_of_ok (select_settled h _)]
  rcases updateAll_run (E := E) user names (orgDevices w org deviceIds) deviceIds [] w (.start h) with
    ⟨⟨outs, w', hrun, hset, hext⟩, hno⟩ | ⟨e, w', hrun, hiff⟩
  · refine .inl ⟨⟨outs, _,
      (Act.bind_of_ok hrun).trans (Act.bind_of_ok (commit_settled E hset)), ?_⟩, hno⟩
    exact ⟨⟨hset.pending, hset.loaded⟩, hext⟩
  · exact .inr ⟨e, w', Act.bind_of_error hrun, hiff⟩

/-- **The updates**: there is a ghost exactly if a dispatch raises after one that was sent. -/
theorem noGhost_updates_iff (h : w.Settled) (user : User) (org : Uuid) (names : List String)
    (deviceIds : List Uuid) : NoGhost E w user org (.updates names deviceIds) ↔
      ¬ Ghosts E w org (.updates names deviceIds) := by
  rw [NoGhost]
  rcases dispatchUpdates_run (E := E) h user org names deviceIds with
    ⟨⟨outs, w', hrun, hset, -⟩, hno⟩ | ⟨e, w', hrun, -, hiff⟩
  · have hserve : serveRequest E user org (.updates names deviceIds) w = (.ok (), w') :=
      Act.bind_of_ok hrun
    refine ⟨fun _ => hno, fun _ e he => ?_⟩
    rw [getDb_of_settled E hserve hset] at he
    cases he
  · -- the roll-back takes the rows back, not what is on the wire
    have hserve : serveRequest E user org (.updates names deviceIds) w = (.error e, w') :=
      Act.bind_of_error hrun
    rw [getDb_of_error E hserve, ← hiff]
    constructor
    · intro hall hne
      exact hne (hall e rfl)
    · intro hno _ _
      exact not_not.mp hno

/-- **No ghost commands**, exactly for the requests that are not such a list of updates.

    Only the update dispatch lets the exception of an element end the request.  `Ghosts` says of its list which
    elements are rejected, counting what the request itself has queued, and that one before them was transmitted. -/
theorem noGhost_iff (hc : w.Clean) (user : User) (org : Uuid) (r : DispatchRequest) :
    NoGhost E w user org r ↔ ¬ Ghosts E w org r := by
  cases r with
  | single d commandType payload =>
    refine ⟨fun _ hg => hg, fun _ => ?_⟩
    exact (postCommand_careful hc.toSettled user org d commandType payload).discard.noGhost
  | bulk deviceIds commandType payload =>
    refine ⟨fun _ hg => hg, fun _ => ?_⟩
    exact (postBulk_careful hc.toSettled user org deviceIds commandType payload).discard.noGhost
  | updates names deviceIds => exact noGhost_updates_iff hc.toSettled user org names deviceIds

/-- Two devices of an organization; the first one's socket is open, the second one is revoked. -/
def revokedSecond : World :=
  { World.start { Db.empty with
      devices := [{ Device.sample 1 with orgId := some 3 },
        { Device.sample 2 with orgId := some 3, isRevoked := true }] } (.sample 1) with
    manager := Manager.empty.register 1 7 ⟨0, "10.0.0.5"⟩ }

theorem revokedSecond_clean : revokedSecond.Clean := ⟨⟨rfl, rfl⟩, rfl⟩

/-- A single dispatch to the open socket leaves no ghost. -/
theorem noGhost_single : revokedSecond.Clean ∧
    NoGhost Env.sample revokedSecond ⟨9, "admin"⟩ 3 (.single 1 "shell" []) :=
  ⟨revokedSecond_clean, (noGhost_iff revokedSecond_clean ⟨9, "admin"⟩ 3 _).mpr fun h => h⟩

/-- Updates for both: the first device gets its command, the second raises, the row is gone. -/
theorem updates_leave_ghost :
    ¬ NoGhost Env.sample revokedSecond ⟨9, "admin"⟩ 3 (.updates ["curl"] [1, 2]) := by
  rw [noGhost_updates_iff revokedSecond_clean.toSettled, not_not]
  refine ⟨[1], 2, [], rfl, ?_, ?_, 1, by simp, rfl⟩
  · intro p y q hmid
    cases p with
    | nil =>
      cases hmid
      exact ⟨by decide, by decide, fun _ _ => rfl⟩
    | cons d p => cases p <;> cases hmid
  · intro hadm
    exact absurd hadm.device (by decide)

end Server

end Dtsys
