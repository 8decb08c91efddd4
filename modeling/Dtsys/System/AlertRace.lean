/-
  WHO MAY RAISE AN ALERT, when several transactions try: the websocket sessions of a device's current
  and previous connection, the periodic `_check_offline_devices_async`.

  `create_alert` and the periodic task share one pattern: look for an unresolved alert of the device
  and type with `scalar_one_or_none`, and add one if there is none.  Nothing in the database keeps two
  of them apart.  A session sees what is committed and what it has added itself; so two sessions that
  look before either has committed both add an alert, and from then on the lookup RAISES, in every
  session, until somebody resolves one of the two.

  A step is a statement of a session: `lookup`, `insert`, `resolve` (an UPDATE of a handler, or the
  request of a user), `commit`, `rollback`; and the nightly `cleanup` of resolved alerts.

  If a lookup that finds nothing is never made while another session is between its own such lookup
  and its end, every pair of device and type has at most one unresolved alert (`alert_unique`).
-/
import Dtsys.Lib.Claim
import Dtsys.Lib.Run
import Dtsys.Server.AlertRuns

namespace Dtsys

open Server

/-- Where a session stands. -/
inductive AlertPhase
  | ready
  /-- the lookup found no alert; next is the INSERT -/
  | absent (d : Uuid) (ty : AlertType)
  /-- the lookup raised `MultipleResultsFound` -/
  | raised
  deriving DecidableEq, Repr

/-- The alerts, and what the sessions have done to them. -/
structure AlertTable where
  committed : List Alert
  /-- what a session has added and not committed -/
  added : Nat → List Alert
  /-- what a session has resolved and not committed, with the time -/
  resolved : Nat → List (Uuid × Nat)
  phase : Nat → AlertPhase

/-- The alert as a session that has resolved `ids` sees it. -/
def Alert.marked (ids : List (Uuid × Nat)) (a : Alert) : Alert :=
  match ids.lookup a.id with
  | some t => { a with isResolved := true, resolvedAt := some t }
  | none => a

namespace AlertTable

/-- The statements of the sessions. -/
inductive Label
  | lookup (n : Nat) (d : Uuid) (ty : AlertType)
  | insert (n : Nat) (a : Alert)
  | resolve (n : Nat) (id : Uuid) (t : Nat)
  | commit (n : Nat)
  | rollback (n : Nat)
  | cleanup (t : Nat)

/-- No session has begun. -/
def init : AlertTable where
  committed := []
  added := fun _ => []
  resolved := fun _ => []
  phase := fun _ => .ready

/-- When a step can be taken. -/
def Enabled (s : AlertTable) : Label → Prop
  | .lookup n _ _ => s.phase n = .ready
  | .insert n a => s.phase n = .absent a.deviceId a.alertType ∧ a.isResolved = false
  | .resolve n _ _ => s.phase n = .ready
  | .commit n => s.phase n = .ready
  | .rollback _ => True
  | .cleanup _ => True

instance (s : AlertTable) : ∀ l, Decidable (Enabled s l)
  | .lookup .. | .resolve .. | .commit .. => inferInstanceAs (Decidable (_ = _))
  | .insert .. => inferInstanceAs (Decidable (_ ∧ _))
  | .rollback .. | .cleanup .. => inferInstanceAs (Decidable True)

/-- What session `n` sees: its own statements and what is committed. -/
def view (s : AlertTable) (n : Nat) : List Alert :=
  (s.committed ++ s.added n).map (Alert.marked (s.resolved n))

/-- `scalar_one_or_none` over the unresolved alerts of a device and type. -/
def lookupAlert (rows : List Alert) (d : Uuid) (ty : AlertType) : AlertPhase :=
  match rows.filter (unresolved d ty) with
  | [] => .absent d ty
  | [_] => .ready
  | _ => .raised

/-- The session is over, and a new transaction begins. -/
def reset (s : AlertTable) (n : Nat) : AlertTable :=
  { s with
    added := Function.update s.added n []
    resolved := Function.update s.resolved n []
    phase := Function.update s.phase n .ready }

/-- What a statement does. -/
def effect (s : AlertTable) : Label → AlertTable
  | .lookup n d ty =>
    { s with phase := Function.update s.phase n (lookupAlert (s.view n) d ty) }
  | .insert n a =>
    { s with
      added := Function.update s.added n (s.added n ++ [a])
      phase := Function.update s.phase n .ready }
  | .resolve n id t =>
    { s with resolved := Function.update s.resolved n ((id, t) :: s.resolved n) }
  | .commit n => { s.reset n with committed := s.view n }
  | .rollback n => s.reset n
  | .cleanup t =>
    { s with committed := s.committed.filter fun a => !(a.isResolved && decide (a.createdAt < t)) }

/-- One statement of one session. -/
def step : AlertTable → Label → Option AlertTable := Run.guardedStep Enabled effect

/-! ## Unresolved alerts -/

/-- The committed unresolved alerts of a device and type. -/
def outstanding (s : AlertTable) (k : Uuid × AlertType) : Nat := s.committed.countP (unresolved k.1 k.2)

/-- Those of them that session `n` has not resolved. -/
def seen (s : AlertTable) (n : Nat) (k : Uuid × AlertType) : Nat :=
  (s.committed.map (Alert.marked (s.resolved n))).countP (unresolved k.1 k.2)

/-- Those that session `n` has added. -/
def own (s : AlertTable) (n : Nat) (k : Uuid × AlertType) : Nat :=
  ((s.added n).map (Alert.marked (s.resolved n))).countP (unresolved k.1 k.2)

/-- Session `n` has looked and found nothing, and has not ended since. -/
def Claims (s : AlertTable) (n : Nat) (k : Uuid × AlertType) : Prop :=
  s.phase n = .absent k.1 k.2 ∨ 0 < s.own n k

/-- A lookup that finds nothing is made by one session at a time. -/
def Alone (s : AlertTable) : Label → Prop
  | .lookup n d ty =>
    lookupAlert (s.view n) d ty = .absent d ty → ∀ m, s.Claims m (d, ty) → m = n
  | _ => True

/-- No two open alerts of one type, and a claim of at most one session on each. -/
structure Inv (s : AlertTable) : Prop where
  excl : Exclusive s.Claims s.outstanding s.seen
  own : ∀ n k, s.own n k ≤ 1
  absent : ∀ n k, s.phase n = .absent k.1 k.2 → s.own n k = 0
  calm : ∀ n, s.phase n ≠ .raised

theorem inv_init : Inv init := by
  refine ⟨⟨fun _ => Nat.zero_le _, ?_, ?_⟩, fun _ _ => Nat.zero_le _, fun _ _ h => (nomatch h),
    fun _ h => (nomatch h)⟩
  · rintro i j k (hi | hi)
    · cases hi
    · exact absurd hi (Nat.lt_irrefl 0)
  · rintro i k (hi | hi)
    · cases hi
    · exact absurd hi (Nat.lt_irrefl 0)

/-! ## Counting -/

/-- A resolved alert is not unresolved. -/
theorem unresolved_marked {ids : List (Uuid × Nat)} {a : Alert} {d : Uuid} {ty : AlertType}
    (h : unresolved d ty (a.marked ids) = true) : unresolved d ty a = true := by
  rw [Alert.marked] at h
  cases hl : ids.lookup a.id with
  | none =>
    rw [hl] at h
    exact h
  | some t =>
    rw [hl] at h
    simp [unresolved] at h

/-- The more a session has resolved, the fewer it sees. -/
theorem unresolved_marked_cons {id : Uuid} {t : Nat} {ids : List (Uuid × Nat)} {a : Alert} {d : Uuid}
    {ty : AlertType} (h : unresolved d ty (a.marked ((id, t) :: ids)) = true) :
    unresolved d ty (a.marked ids) = true := by
  unfold Alert.marked at h ⊢
  by_cases hid : a.id = id
  · rw [hid, List.lookup_cons_self] at h
    simp [unresolved] at h
  · have hne : (a.id == id) = false := by simpa using hid
    rw [List.lookup_cons, hne] at h
    exact h

/-- Marking does not make alerts unresolved. -/
theorem countP_marked_le (ids : List (Uuid × Nat)) (rows : List Alert) (d : Uuid) (ty : AlertType) :
    (rows.map (Alert.marked ids)).countP (unresolved d ty) ≤ rows.countP (unresolved d ty) := by
  rw [List.countP_map]
  exact List.countP_mono_left fun a _ h => unresolved_marked h

theorem countP_marked_cons_le (id : Uuid) (t : Nat) (ids : List (Uuid × Nat)) (rows : List Alert)
    (d : Uuid) (ty : AlertType) :
    (rows.map (Alert.marked ((id, t) :: ids))).countP (unresolved d ty) ≤
      (rows.map (Alert.marked ids)).countP (unresolved d ty) := by
  rw [List.countP_map, List.countP_map]
  exact List.countP_mono_left fun a _ h => unresolved_marked_cons h

section

variable {s s' : AlertTable}

theorem seen_le (s : AlertTable) (n : Nat) (k : Uuid × AlertType) : s.seen n k ≤ s.outstanding k :=
  countP_marked_le ..

/-- What a session sees: what it read, and what it added. -/
theorem countP_view (s : AlertTable) (n : Nat) (k : Uuid × AlertType) :
    (s.view n).countP (unresolved k.1 k.2) = s.seen n k + s.own n k := by
  rw [view, List.map_append, List.countP_append]
  rfl

/-- In a state of the invariant, no lookup finds two alerts. -/
theorem Inv.view_le (h : Inv s) (n : Nat) (k : Uuid × AlertType) : s.seen n k + s.own n k ≤ 1 := by
  have hcount := h.excl.count k
  have hseen := seen_le s n k
  have hown := h.own n k
  by_cases hpos : 0 < s.own n k
  · have hzero := h.excl.clear n k (.inr hpos)
    omega
  · omega

/-- The outcomes of a lookup, by what the session sees. -/
theorem lookupAlert_cases (s : AlertTable) (n : Nat) (d : Uuid) (ty : AlertType) :
    s.seen n (d, ty) + s.own n (d, ty) = 0 ∧ lookupAlert (s.view n) d ty = .absent d ty ∨
      s.seen n (d, ty) + s.own n (d, ty) = 1 ∧ lookupAlert (s.view n) d ty = .ready ∨
      2 ≤ s.seen n (d, ty) + s.own n (d, ty) ∧ lookupAlert (s.view n) d ty = .raised := by
  have hview := countP_view s n (d, ty)
  rw [List.countP_eq_length_filter] at hview
  replace hview : ((s.view n).filter (unresolved d ty)).length = _ := hview
  rw [← hview]
  rw [lookupAlert]
  rcases (s.view n).filter (unresolved d ty) with _ | ⟨a, _ | ⟨b, rest⟩⟩
  · exact .inl ⟨rfl, rfl⟩
  · exact .inr (.inl ⟨rfl, rfl⟩)
  · refine .inr (.inr ⟨?_, rfl⟩)
    rw [List.length_cons, List.length_cons]
    omega

/-- The step is the lookup of `create_alert`: it raises where that raises, and where it finds nothing
    `create_alert` adds an alert. -/
theorem lookupAlert_createAlert {E : Env} {w : World} (hw : w.Settled)
    (hm : w.device.maintenanceMode = false) {n : Nat} (hview : w.db.alerts = s.view n)
    (ty : AlertType) (severity : Severity) (message : String) :
    (lookupAlert (s.view n) w.device.id ty = .raised ↔
        (createAlert E ty severity message w).1 = .error .multipleResultsFound) ∧
      (lookupAlert (s.view n) w.device.id ty = .absent w.device.id ty →
        NewAlert E w (createAlert E ty severity message w).2) := by
  have hrun := createAlert_run (E := E) hw ty severity message
  have hopen : (s.view n).filter (unresolved w.device.id ty) = openAlerts w ty := by
    rw [← hview]
    rfl
  generalize createAlert E ty severity message w = r at hrun ⊢
  rw [lookupAlert, hopen]
  cases hrun with
  | raised hd =>
    have htwo := hd.2
    rcases hrows : openAlerts w ty with _ | ⟨a, _ | ⟨b, rest⟩⟩
    · rw [hrows] at htwo
      exact absurd htwo (by decide)
    · rw [hrows] at htwo
      exact absurd htwo (by simp)
    · exact ⟨⟨fun _ => rfl, fun _ => rfl⟩, fun h => nomatch h⟩
  | skipped hone =>
    have hlen : (openAlerts w ty).length = 1 := by
      rcases hone with hmaint | hlen
      · rw [hm] at hmaint
        cases hmaint
      · exact hlen
    obtain ⟨a, ha⟩ := List.length_eq_one_iff.mp hlen
    rw [ha]
    exact ⟨⟨(nomatch ·), (nomatch ·)⟩, (nomatch ·)⟩
  | created hm' h0 hk hn =>
    rw [h0]
    exact ⟨⟨(nomatch ·), (nomatch ·)⟩, fun _ => hn⟩

/-! ## One statement -/

/-- Sessions other than `n` are where they were. -/
def OnlyMoved (n : Nat) (s s' : AlertTable) : Prop :=
  ∀ m, m ≠ n → s'.phase m = s.phase m ∧ s'.added m = s.added m ∧ s'.resolved m = s.resolved m

/-- A step of one session leaves the others what they added. -/
theorem OnlyMoved.own {n m : Nat} (h : OnlyMoved n s s') (hm : m ≠ n) (k : Uuid × AlertType) :
    s'.own m k = s.own m k := by
  obtain ⟨-, hadded, hresolved⟩ := h m hm
  unfold AlertTable.own
  rw [hadded, hresolved]

/-- A session that has not moved claims what it claimed. -/
theorem OnlyMoved.claims {n m : Nat} (h : OnlyMoved n s s') (hm : m ≠ n) {k : Uuid × AlertType}
    (hc : s'.Claims m k) : s.Claims m k := by
  unfold Claims at hc ⊢
  rw [(h m hm).1, h.own hm] at hc
  exact hc

/-- For a step of session `n`, only session `n` has to be looked at. -/
theorem Inv.of_session (h : Inv s) {n : Nat} (hmoved : OnlyMoved n s s')
    (hexcl : Exclusive s'.Claims s'.outstanding s'.seen) (hown : ∀ k, s'.own n k ≤ 1)
    (habsent : ∀ k, s'.phase n = .absent k.1 k.2 → s'.own n k = 0) (hcalm : s'.phase n ≠ .raised) :
    Inv s' := by
  refine ⟨hexcl, ?_, ?_, ?_⟩
  · intro m k
    by_cases hm : m = n
    · rw [hm]
      exact hown k
    · rw [hmoved.own hm]
      exact h.own m k
  · intro m k hp
    by_cases hm : m = n
    · rw [hm] at hp ⊢
      exact habsent k hp
    · rw [(hmoved m hm).1] at hp
      rw [hmoved.own hm]
      exact h.absent m k hp
  · intro m
    by_cases hm : m = n
    · rw [hm]
      exact hcalm
    · rw [(hmoved m hm).1]
      exact h.calm m

/-- Session `n` looks up; what it finds sets its phase. -/
theorem Inv.lookup (h : Inv s) {n : Nat} {d : Uuid} {ty : AlertType} (hn : s.phase n = .ready)
    (halone : Alone s (.lookup n d ty)) : Inv (effect s (.lookup n d ty)) := by
  have hle := h.view_le n (d, ty)
  rcases lookupAlert_cases s n d ty with ⟨hnone, hfound⟩ | ⟨hone, hfound⟩ | ⟨htwo, hfound⟩
  -- nothing: from now on the session has a claim
  · have hphase : (effect s (.lookup n d ty)).phase n = .absent d ty :=
      (Function.update_self ..).trans hfound
    have hmoved : OnlyMoved n s (effect s (.lookup n d ty)) :=
      fun m hm => ⟨Function.update_of_ne hm .., rfl, rfl⟩
    have hzero : s.own n (d, ty) = 0 := by omega
    refine h.of_session hmoved ?_ (h.own n) ?_ (by rw [hphase]; simp)
    · refine h.excl.claim (i := n) (k := (d, ty)) ?_ (halone hfound) (by omega)
      intro m k hm
      by_cases hmn : m = n
      · subst hmn
        rcases hm with hp | hpos
        · rw [hphase] at hp
          cases hp
          exact .inr ⟨rfl, rfl⟩
        · exact .inl (.inr hpos)
      · exact .inl (hmoved.claims hmn hm)
    · intro k hk
      rw [hphase] at hk
      cases hk
      exact hzero
  · have hsame : effect s (.lookup n d ty) = s := by
      show ({ s with phase := Function.update s.phase n _ } : AlertTable) = s
      rw [hfound, ← hn, Function.update_eq_self]
    rw [hsame]
    exact h
  · omega

/-- Session `n` adds an alert of the pair it has looked up. -/
theorem Inv.insert (h : Inv s) {n : Nat} {a : Alert}
    (hn : s.phase n = .absent a.deviceId a.alertType) : Inv (effect s (.insert n a)) := by
  have hphase : (effect s (.insert n a)).phase n = .ready := Function.update_self ..
  have hadded : (effect s (.insert n a)).added n = s.added n ++ [a] := Function.update_self ..
  have hmoved : OnlyMoved n s (effect s (.insert n a)) :=
    fun m hm => ⟨Function.update_of_ne hm .., Function.update_of_ne hm .., rfl⟩
  have hown : ∀ k, (effect s (.insert n a)).own n k = s.own n k +
      [a.marked (s.resolved n)].countP (unresolved k.1 k.2) := by
    intro k
    rw [AlertTable.own, hadded, List.map_append, List.countP_append]
    rfl
  -- the new alert counts for its own pair only
  have hpair : ∀ k, k ≠ (a.deviceId, a.alertType) →
      (effect s (.insert n a)).own n k = s.own n k := by
    intro k hk
    have hno : [a.marked (s.resolved n)].countP (unresolved k.1 k.2) = 0 := by
      rw [List.countP_eq_zero]
      intro x hx hun
      rw [List.mem_singleton.mp hx] at hun
      have hua := unresolved_marked hun
      rw [unresolved] at hua
      simp only [Bool.and_eq_true, beq_iff_eq] at hua
      exact hk (Prod.ext hua.1.1.symm hua.1.2.symm)
    rw [hown k, hno, Nat.add_zero]
  have hzero : s.own n (a.deviceId, a.alertType) = 0 := h.absent n (_, _) hn
  refine h.of_session hmoved ?_ ?_ (fun k hk => by rw [hphase] at hk; cases hk)
    (by rw [hphase]; simp)
  · refine h.excl.shrink ?_ (fun _ => Nat.le_refl _) fun _ _ _ => Nat.le_refl _
    intro m k hm
    by_cases hmn : m = n
    · subst hmn
      by_cases hk : k = (a.deviceId, a.alertType)
      · subst hk
        exact .inl hn
      · rcases hm with hp | hpos
        · rw [hphase] at hp
          cases hp
        · rw [hpair k hk] at hpos
          exact .inr hpos
    · exact hmoved.claims hmn hm
  · intro k
    by_cases hk : k = (a.deviceId, a.alertType)
    · subst hk
      have hlen : [a.marked (s.resolved n)].countP (unresolved a.deviceId a.alertType) ≤ 1 :=
        List.countP_le_length
      rw [hown, hzero, Nat.zero_add]
      exact hlen
    · rw [hpair k hk]
      exact h.own n k

/-- Session `n` resolves an alert. -/
theorem Inv.resolve (h : Inv s) {n : Nat} (hn : s.phase n = .ready) (id : Uuid) (t : Nat) :
    Inv (effect s (.resolve n id t)) := by
  have hresolved : (effect s (.resolve n id t)).resolved n = (id, t) :: s.resolved n :=
    Function.update_self ..
  have hmoved : OnlyMoved n s (effect s (.resolve n id t)) :=
    fun m hm => ⟨rfl, rfl, Function.update_of_ne hm ..⟩
  have hown : ∀ k, (effect s (.resolve n id t)).own n k ≤ s.own n k := by
    intro k
    rw [AlertTable.own, hresolved]
    exact countP_marked_cons_le ..
  refine h.of_session hmoved ?_ (fun k => Nat.le_trans (hown k) (h.own n k)) ?_ (h.calm n)
  · refine h.excl.shrink ?_ (fun _ => Nat.le_refl _) ?_
    · intro m k hm
      by_cases hmn : m = n
      · subst hmn
        rcases hm with hp | hpos
        · exact .inl hp
        · exact .inr (Nat.lt_of_lt_of_le hpos (hown k))
      · exact hmoved.claims hmn hm
    · intro m k _
      rw [seen]
      by_cases hmn : m = n
      · subst hmn
        rw [hresolved]
        exact countP_marked_cons_le ..
      · rw [(hmoved m hmn).2.2]
        exact Nat.le_refl _
  · intro k hk
    replace hk : s.phase n = .absent k.1 k.2 := hk
    rw [hn] at hk
    cases hk

/-! ## The end of a transaction -/

theorem reset_moved (s : AlertTable) (n : Nat) : OnlyMoved n s (s.reset n) :=
  fun _ hm => ⟨Function.update_of_ne hm .., Function.update_of_ne hm .., Function.update_of_ne hm ..⟩

theorem reset_own (s : AlertTable) (n : Nat) (k : Uuid × AlertType) : (s.reset n).own n k = 0 := by
  have hadded : (s.reset n).added n = [] := Function.update_self ..
  rw [AlertTable.own, hadded]
  rfl

theorem reset_phase (s : AlertTable) (n : Nat) : (s.reset n).phase n = .ready :=
  Function.update_self ..

/-- A session that has ended claims nothing. -/
theorem reset_claims {n m : Nat} {k : Uuid × AlertType} (h : (s.reset n).Claims m k) :
    m ≠ n ∧ s.Claims m k := by
  by_cases hmn : m = n
  · subst hmn
    rcases h with hp | hpos
    · rw [reset_phase] at hp
      cases hp
    · rw [reset_own] at hpos
      exact absurd hpos (Nat.lt_irrefl 0)
  · exact ⟨hmn, (reset_moved s n).claims hmn h⟩

theorem Inv.rollback (h : Inv s) (n : Nat) : Inv (s.reset n) := by
  refine h.of_session (reset_moved s n) ?_ (fun k => by rw [reset_own]; exact Nat.zero_le _)
    (fun k _ => reset_own s n k) (by rw [reset_phase]; simp)
  refine h.excl.shrink (fun _ _ hm => (reset_claims hm).2) (fun _ => Nat.le_refl _) ?_
  intro m k hm
  rw [seen, ((reset_moved s n) m (reset_claims hm).1).2.2]
  exact Nat.le_refl _

/-- What another session resolves after session `n` has committed. -/
theorem unresolved_marked_twice {ids jds : List (Uuid × Nat)} {a : Alert} {d : Uuid} {ty : AlertType}
    (h : unresolved d ty ((a.marked ids).marked jds) = true) :
    unresolved d ty (a.marked jds) = true := by
  have hid : (a.marked ids).id = a.id := by
    rw [Alert.marked]
    split
    · rfl
    · rfl
  unfold Alert.marked at h ⊢
  rw [show (match ids.lookup a.id with
    | some t => { a with isResolved := true, resolvedAt := some t }
    | none => a) = a.marked ids from rfl, hid] at h
  cases hl : jds.lookup a.id with
  | none =>
    rw [hl] at h
    exact unresolved_marked h
  | some t =>
    rw [hl] at h
    simp [unresolved] at h

/-- A commit, which publishes what the session added. -/
theorem Inv.commit (h : Inv s) (n : Nat) : Inv (effect s (.commit n)) := by
  have hmoved : OnlyMoved n s (effect s (.commit n)) := reset_moved s n
  have hzero : ∀ k, (effect s (.commit n)).own n k = 0 := reset_own s n
  have hphase : (effect s (.commit n)).phase n = .ready := reset_phase s n
  have hcount : ∀ k, (effect s (.commit n)).outstanding k = s.seen n k + s.own n k := countP_view s n
  have hnone : ∀ k, ¬ s.Claims n k → s.own n k = 0 := by
    intro k hno
    by_contra hne
    exact hno (.inr (Nat.pos_of_ne_zero hne))
  refine h.of_session hmoved ?_ (fun k => by rw [hzero]; exact Nat.zero_le _)
    (fun k _ => hzero k) (by rw [hphase]; simp)
  refine h.excl.settle n (fun _ _ hm => reset_claims hm) ?_ ?_ ?_
  · intro k _
    have hown := h.own n k
    rw [hcount]
    omega
  · intro k hno
    have hown := hnone k hno
    have hseen := seen_le s n k
    rw [hcount]
    omega
  -- another session sees no more of this key than before
  · intro m k hm hno
    have hmn : m ≠ n := (reset_claims hm).1
    have hown := hnone k hno
    unfold seen
    rw [(hmoved m hmn).2.2]
    show ((s.view n).map _).countP _ ≤ _
    rw [view, List.map_append, List.map_append, List.countP_append]
    have hadded := countP_marked_le (s.resolved m) ((s.added n).map (Alert.marked (s.resolved n)))
      k.1 k.2
    have hcommitted : ((s.committed.map (Alert.marked (s.resolved n))).map
        (Alert.marked (s.resolved m))).countP (unresolved k.1 k.2) ≤
        (s.committed.map (Alert.marked (s.resolved m))).countP (unresolved k.1 k.2) := by
      rw [List.map_map, List.countP_map, List.countP_map]
      exact List.countP_mono_left fun a _ hun => unresolved_marked_twice hun
    rw [AlertTable.own] at hown
    omega

theorem Inv.cleanup (h : Inv s) (t : Nat) : Inv (effect s (.cleanup t)) := by
  have hsub : (effect s (.cleanup t)).committed.Sublist s.committed := List.filter_sublist
  refine ⟨h.excl.shrink (fun _ _ hm => hm) ?_ ?_, h.own, h.absent, h.calm⟩
  · exact fun k => hsub.countP_le
  · exact fun m k _ => (hsub.map _).countP_le

/-! ## Whole runs -/

/-- **One statement** of a session that looks up alone. -/
theorem inv_step (s : AlertTable) (l : Label) (s' : AlertTable) (hl : Alone s l)
    (hs : step s l = some s') (h : Inv s) : Inv s' := by
  obtain ⟨hen, rfl⟩ := Run.guardedStep_eq_some.mp hs
  cases l with
  | lookup n d ty => exact h.lookup hen hl
  | insert n a => exact h.insert hen.1
  | resolve n id t => exact h.resolve hen id t
  | commit n => exact h.commit n
  | rollback n => exact h.rollback n
  | cleanup t => exact h.cleanup t

end

/-- **One unresolved alert** for each device and type, in every committed state of a run whose
    fruitless lookups do not overlap; and no lookup raises.

    The table has no unique index, so two sessions whose lookups overlap both insert.  A lookup that finds nothing
    is a claim on the device and the type, which the session holds to the end of its transaction; inside the
    condition no two sessions have one claim (`Exclusive`). -/
theorem alert_unique {ls : List Label} {s : AlertTable} (halone : Run.Guarded step Alone init ls)
    (hrun : Run.exec step init ls = some s) :
    (∀ d ty, (s.committed.filter (unresolved d ty)).length ≤ 1) ∧ ∀ n, s.phase n ≠ .raised := by
  have hinv : Inv s := Run.exec_inv inv_step halone hrun inv_init
  refine ⟨fun d ty => ?_, hinv.calm⟩
  rw [← List.countP_eq_length_filter]
  exact hinv.excl.count (d, ty)

/-- A CPU alert of device 1. -/
def cpuAlert (id : Uuid) : Alert := ⟨id, 1, .highCpu, .warning, "CPU", false, 0, none⟩

/-- The second session looks after the first has committed. -/
def inTurn : List Label :=
  [.lookup 0 1 .highCpu, .insert 0 (cpuAlert 10), .commit 0, .lookup 1 1 .highCpu, .commit 1]

theorem alert_unique_in_turn :
    ∃ s, Run.exec step init inTurn = some s ∧ s.committed = [cpuAlert 10] ∧
      ∀ d ty, (s.committed.filter (unresolved d ty)).length ≤ 1 := by
  have halone : Run.Guarded step Alone init inTurn := by
    refine .cons rfl ?_ (.cons rfl trivial (.cons rfl trivial (.cons rfl ?_ (.cons rfl trivial
      trivial))))
    · rintro - m (hp | hpos)
      · cases hp
      · exact absurd hpos (Nat.lt_irrefl 0)
    · intro hfound
      cases hfound
  exact ⟨_, rfl, rfl, (alert_unique halone rfl).1⟩

/-- Both sessions look before one has committed; a third one looks later. -/
def bothLook : List Label :=
  [.lookup 0 1 .highCpu, .lookup 1 1 .highCpu, .insert 0 (cpuAlert 10), .insert 1 (cpuAlert 11),
    .commit 0, .commit 1, .lookup 2 1 .highCpu]

/-- There are two alerts, and the lookup raises. -/
theorem alert_twice :
    ∃ s, Run.exec step init bothLook = some s ∧
      (s.committed.filter (unresolved 1 .highCpu)).length = 2 ∧ s.phase 2 = .raised :=
  ⟨_, rfl, rfl, rfl⟩

end AlertTable

end Dtsys
