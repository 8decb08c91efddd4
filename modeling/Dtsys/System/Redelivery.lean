/-
  HOW OFTEN A COMMAND IS STARTED, across lost connections.

  The server hands a command over when it is dispatched, and AGAIN in every connect sequence that
  finds its committed row `sent` and not older than an hour.  The agent keeps no record of the
  commands it has seen: whatever arrives is started, also while the same command is still running or
  its result is still queued.  So delivery is AT LEAST ONCE by design.

  * the server: `dispatch` (transmit, settle the row), `commit` or `rollback` of the request,
    `connect` of a device, the `select` of its connect sequence and a `resend` for each row found (or
    `abandon`, when the sequence raises), `disconnect`, `handle` of a result, the `cleanup` of stale
    commands;
  * the agent: `deliver` (a goroutine for `onCommand`) or `discard` (the data does not decode),
    `finish` or `vanish` (an update restarts the agent), `upload` by the write pump, and `lose`: the
    read loop ends and `drainSendCh` empties the queue.

  A send goes to the connection the server's table holds for the device, which may be dead already:
  the message is then on a wire nobody reads.
-/
import Dtsys.Lib.Run
import Dtsys.Server.Router
import Dtsys.Server.Commands
import Dtsys.Server.Lifecycle

namespace Dtsys

/-- The server, the agents and the messages between them; connections are numbered. -/
structure Fleet where
  /-- committed rows -/
  rows : List Command
  /-- rows of requests that have not ended -/
  uncommitted : List Command
  issued : List Uuid
  used : List Nat
  /-- the connection the server has for a device -/
  table : Uuid → Option Nat
  /-- connections in front of the `select` of their connect sequence -/
  greeting : List (Nat × Uuid)
  /-- what the connect sequences have found and not sent yet: connection, device, command -/
  todo : List (Nat × Uuid × Uuid)
  /-- commands on a connection -/
  wire : List (Nat × Uuid)
  /-- the connection an agent reads -/
  agent : Uuid → Option Nat
  /-- every start of a command -/
  started : List Uuid
  running : List (Uuid × Uuid)
  sendCh : Uuid → List Uuid
  /-- results on a connection -/
  uplink : List (Nat × Uuid)

namespace Fleet

/-- The steps of the requests, of the handshakes and of the agent. -/
inductive Label
  | dispatch (c : Command) (reached failIfOffline : Bool) (t : Nat)
  | commit (id : Uuid)
  | rollback (id : Uuid)
  | connect (d : Uuid) (k : Nat)
  | select (k : Nat) (d : Uuid) (t : Nat)
  | resend (k : Nat) (d id : Uuid) (reached : Bool)
  | abandon (k : Nat)
  | disconnect (d : Uuid)
  | lose (d : Uuid)
  | deliver (k : Nat) (d id : Uuid)
  | discard (k : Nat) (d id : Uuid)
  | finish (d id : Uuid)
  | vanish (d id : Uuid)
  | upload (k : Nat) (d id : Uuid)
  | handle (k : Nat) (id : Uuid) (exitCode : Int) (output : String) (t : Nat)
  | cleanup (t : Nat)

/-- No commands. -/
def init : Fleet where
  rows := []
  uncommitted := []
  issued := []
  used := []
  table := fun _ => none
  greeting := []
  todo := []
  wire := []
  agent := fun _ => none
  started := []
  running := []
  sendCh := fun _ => []
  uplink := []

/-- When a step can be taken. -/
def Enabled (s : Fleet) : Label → Prop
  | .dispatch c reached _ _ =>
    c.id ∉ s.issued ∧ c.status = .pending ∧ (reached = true → (s.table c.deviceId).isSome = true)
  | .commit id => id ∈ s.uncommitted.map Command.id
  | .rollback id => id ∈ s.uncommitted.map Command.id
  | .connect d k => k ∉ s.used ∧ s.agent d = none
  | .select k d _ => (k, d) ∈ s.greeting
  | .resend k d id reached =>
    (k, d, id) ∈ s.todo ∧ (reached = true → (s.table d).isSome = true)
  | .abandon _ => True
  | .disconnect _ => True
  | .lose d => (s.agent d).isSome = true
  | .deliver k d id => s.agent d = some k ∧ s.wire.find? (fun m => m.1 == k) = some (k, id)
  | .discard k d id => s.agent d = some k ∧ s.wire.find? (fun m => m.1 == k) = some (k, id)
  | .finish d id => (d, id) ∈ s.running
  | .vanish d id => (d, id) ∈ s.running
  | .upload k d id => s.agent d = some k ∧ (s.sendCh d).head? = some id
  | .handle k id _ _ _ => (k, id) ∈ s.uplink
  | .cleanup _ => True

instance (s : Fleet) : ∀ l, Decidable (Enabled s l)
  | .dispatch .. => inferInstanceAs (Decidable (_ ∧ _ ∧ (_ → _)))
  | .connect .. => inferInstanceAs (Decidable (_ ∧ _))
  | .resend .. => inferInstanceAs (Decidable (_ ∧ (_ → _)))
  | .deliver .. | .discard .. | .upload .. => inferInstanceAs (Decidable (_ ∧ _))
  | .commit .. | .rollback .. | .select .. | .finish .. | .vanish .. | .handle .. =>
    inferInstanceAs (Decidable (_ ∈ _))
  | .lose .. => inferInstanceAs (Decidable (_ = _))
  | .abandon .. | .disconnect .. | .cleanup .. => inferInstanceAs (Decidable True)

/-- `send_to_device` of a command. -/
def transmit (s : Fleet) (d id : Uuid) (reached : Bool) : List (Nat × Uuid) :=
  if reached then s.wire ++ ((s.table d).map fun k => (k, id)).toList else s.wire

/-- The agent takes the message off the wire. -/
def receive (s : Fleet) (k : Nat) (id : Uuid) : Fleet := { s with wire := s.wire.erase (k, id) }

/-- What a step does. -/
def effect (s : Fleet) : Label → Fleet
  | .dispatch c reached failIfOffline t =>
    { s with
      issued := c.id :: s.issued
      uncommitted := s.uncommitted ++ [Server.settleDispatch reached failIfOffline t c]
      wire := s.transmit c.deviceId c.id reached }
  | .commit id =>
    { s with
      rows := s.rows ++ s.uncommitted.filter fun c => c.id == id
      uncommitted := s.uncommitted.filter fun c => !(c.id == id) }
  | .rollback id => { s with uncommitted := s.uncommitted.filter fun c => !(c.id == id) }
  | .connect d k =>
    { s with
      used := k :: s.used
      table := Function.update s.table d (some k)
      agent := Function.update s.agent d (some k)
      greeting := s.greeting ++ [(k, d)] }
  | .select k d t =>
    { s with
      greeting := s.greeting.erase (k, d)
      todo := s.todo ++ (s.rows.filter (Server.resendable d t)).map fun c => (k, d, c.id) }
  | .resend k d id reached =>
    { s with todo := s.todo.erase (k, d, id), wire := s.transmit d id reached }
  | .abandon k =>
    { s with
      greeting := s.greeting.filter fun g => !(g.1 == k)
      todo := s.todo.filter fun g => !(g.1 == k) }
  | .disconnect d => { s with table := Function.update s.table d none }
  | .lose d =>
    { s with
      agent := Function.update s.agent d none
      sendCh := Function.update s.sendCh d [] }
  | .deliver k d id =>
    { s.receive k id with started := s.started ++ [id], running := s.running ++ [(d, id)] }
  | .discard k _ id => s.receive k id
  | .finish d id =>
    { s with
      running := s.running.erase (d, id)
      sendCh := Function.update s.sendCh d (s.sendCh d ++ [id]) }
  | .vanish d id => { s with running := s.running.erase (d, id) }
  | .upload k d id =>
    { s with
      sendCh := Function.update s.sendCh d (s.sendCh d).tail
      uplink := s.uplink ++ [(k, id)] }
  | .handle k id exitCode output t =>
    { s with
      uplink := s.uplink.erase (k, id)
      rows := s.rows.map fun c =>
        if c.id = id then Server.resultValues (.int exitCode) (.str output) t c else c }
  | .cleanup t =>
    { s with rows := s.rows.map fun c => if Server.stale t c then Server.expire t c else c }

/-- One step of one party. -/
def step : Fleet → Label → Option Fleet := Run.guardedStep Enabled effect

/-- A connect sequence that finds the command. -/
def finds (id : Uuid) (s : Fleet) : Label → Bool
  | .select _ d t => s.rows.any fun c => c.id == id && Server.resendable d t c
  | _ => false

/-! ## The ids of the rows -/

/-- The ids of the rows there are. -/
def ids (s : Fleet) : List Uuid := (s.rows ++ s.uncommitted).map Command.id

/-- A row is there once, and its id has been issued. -/
structure Inv (s : Fleet) : Prop where
  nodup : s.ids.Nodup
  issued : ∀ id ∈ s.ids, id ∈ s.issued

theorem inv_init : Inv init := ⟨List.nodup_nil, fun _ h => nomatch h⟩

theorem settleDispatch_id (sent failIfOffline : Bool) (t : Nat) (c : Command) :
    (Server.settleDispatch sent failIfOffline t c).id = c.id := by
  rw [Server.settleDispatch]
  split
  · rfl
  · split
    · rfl
    · rfl

/-- Rows that keep their ids. -/
theorem ids_map {s s' : Fleet} {f : Command → Command} (hf : ∀ c, (f c).id = c.id)
    (hrows : s'.rows = s.rows.map f) (hunc : s'.uncommitted = s.uncommitted) : s'.ids = s.ids := by
  unfold ids
  rw [hrows, hunc, List.map_append, List.map_append, List.map_map]
  congr 2
  exact funext hf

/-- The invariant looks at the rows and the issued ids only. -/
theorem Inv.congr {s s' : Fleet} (h : Inv s) (hids : s'.ids = s.ids) (hissued : s'.issued = s.issued) :
    Inv s' := by
  refine ⟨?_, ?_⟩
  · rw [hids]; exact h.nodup
  · rw [hids, hissued]; exact h.issued

theorem ids_commit (s : Fleet) (id : Uuid) : (effect s (.commit id)).ids.Perm s.ids := by
  show ((s.rows ++ s.uncommitted.filter (fun c => c.id == id)) ++
    s.uncommitted.filter (fun c => !(c.id == id))).map Command.id |>.Perm _
  rw [List.append_assoc]
  exact ((List.filter_append_perm _ s.uncommitted).append_left s.rows).map Command.id

theorem step_inv (s : Fleet) (l : Label) (s' : Fleet) (hs : step s l = some s') (h : Inv s) :
    Inv s' := by
  obtain ⟨hen, rfl⟩ := Run.guardedStep_eq_some.mp hs
  cases l with
  -- The id is new; the other steps move commands or change their columns, and the ids stay.
  | dispatch c reached failIfOffline t =>
    have hids : (effect s (.dispatch c reached failIfOffline t)).ids = s.ids ++ [c.id] := by
      show (s.rows ++ (s.uncommitted ++ [_])).map Command.id = _
      rw [ids, ← List.append_assoc, List.map_append, List.map_singleton, settleDispatch_id]
    refine ⟨?_, ?_⟩
    · rw [hids, List.nodup_append]
      refine ⟨h.nodup, List.nodup_singleton _, ?_⟩
      intro a ha b hb hab
      obtain rfl := List.mem_singleton.mp hb
      exact hen.1 (hab ▸ h.issued a ha)
    · intro id hid
      rw [hids, List.mem_append, List.mem_singleton] at hid
      rcases hid with hold | rfl
      · exact List.mem_cons_of_mem _ (h.issued id hold)
      · exact List.mem_cons_self
  | commit id =>
    exact ⟨(ids_commit s id).nodup_iff.mpr h.nodup,
      fun id' hid => h.issued id' ((ids_commit s id).mem_iff.mp hid)⟩
  | rollback id =>
    have hsub : (effect s (.rollback id)).ids.Sublist s.ids :=
      ((List.Sublist.refl s.rows).append List.filter_sublist).map Command.id
    exact ⟨h.nodup.sublist hsub, fun id' hid => h.issued id' (hsub.subset hid)⟩
  | handle k id exitCode output t =>
    refine h.congr (ids_map ?_ rfl rfl) rfl
    intro c
    split
    · rfl
    · rfl
  | cleanup t =>
    refine h.congr (ids_map ?_ rfl rfl) rfl
    intro c
    split
    · rfl
    · rfl
  | _ => exact h.congr rfl rfl

/-! ## Every start has been paid for -/

/-- The starts of a command, and what may still become one: its copies on a wire, those a connect
    sequence is going to send, and its dispatch. -/
def potential (id : Uuid) (s : Fleet) : Nat :=
  s.started.count id + (s.wire.map Prod.snd).count id + (s.todo.map fun g => g.2.2).count id +
    (1 - s.issued.count id)

/-- Taking an element out takes its value out once. -/
theorem count_map_erase {α : Type} [BEq α] [LawfulBEq α] {l : List α} {a : α} (h : a ∈ l) (f : α → Uuid)
    (id : Uuid) : (l.map f).count id = ((l.erase a).map f).count id + if f a = id then 1 else 0 := by
  rw [((List.perm_cons_erase h).map f).count_eq, List.map_cons, List.count_cons]
  simp

/-- A send puts one message at most on the wire. -/
theorem count_transmit (s : Fleet) (d id' : Uuid) (reached : Bool) (id : Uuid) :
    ((s.transmit d id' reached).map Prod.snd).count id ≤
      (s.wire.map Prod.snd).count id + if id' = id then 1 else 0 := by
  rw [transmit]
  cases reached with
  | false => simp
  | true =>
    cases s.table d with
    | none => simp
    | some k => simp [List.count_cons]

/-- A connect sequence finds a command once, or not at all. -/
theorem count_found (s : Fleet) (h : Inv s) (k : Nat) (d : Uuid) (t : Nat) (id : Uuid) :
    (((s.rows.filter (Server.resendable d t)).map fun c => (k, d, c.id)).map fun g => g.2.2).count id ≤
      if finds id s (.select k d t) then 1 else 0 := by
  rw [List.map_map]
  show ((s.rows.filter (Server.resendable d t)).map Command.id).count id ≤ _
  -- ids are unique among the rows, so the SELECT returns the command at most once
  have hnodup : ((s.rows.filter (Server.resendable d t)).map Command.id).Nodup := by
    have hsub : (s.rows.filter (Server.resendable d t)).Sublist (s.rows ++ s.uncommitted) :=
      List.filter_sublist.trans (List.sublist_append_left ..)
    exact h.nodup.sublist (hsub.map Command.id)
  split
  · exact List.nodup_iff_count_le_one.mp hnodup id
  · rename_i hno
    rw [Nat.le_zero, List.count_eq_zero]
    intro hmem
    obtain ⟨c, hc, rfl⟩ := List.mem_map.mp hmem
    obtain ⟨hrow, hre⟩ := List.mem_filter.mp hc
    refine hno (List.any_eq_true.mpr ⟨c, hrow, ?_⟩)
    rw [hre, beq_self_eq_true]
    rfl

/-- Taking a message off the wire pays for one start. -/
theorem count_receive {s : Fleet} {k : Nat} {id' : Uuid}
    (h : s.wire.find? (fun m => m.1 == k) = some (k, id')) (id : Uuid) :
    (s.wire.map Prod.snd).count id =
      ((s.wire.erase (k, id')).map Prod.snd).count id + if id' = id then 1 else 0 :=
  count_map_erase (List.mem_of_find?_eq_some h) Prod.snd id

/-- **One step** raises the potential only when a connect sequence finds the command, by one. -/
theorem step_potential (id : Uuid) (s : Fleet) (l : Label) (s' : Fleet) (hs : step s l = some s')
    (h : Inv s) : potential id s' ≤ potential id s + if finds id s l then 1 else 0 := by
  obtain ⟨hen, rfl⟩ := Run.guardedStep_eq_some.mp hs
  cases l with
  | dispatch c reached failIfOffline t =>
    have hwire := count_transmit s c.deviceId c.id reached id
    have hissued : (c.id :: s.issued).count id = s.issued.count id + if c.id = id then 1 else 0 := by
      simp [List.count_cons]
    -- the unit for the dispatch is spent on the copy it puts on the wire
    have hnew : c.id = id → s.issued.count id = 0 := by
      rintro rfl
      exact List.count_eq_zero.mpr hen.1
    show s.started.count id + ((s.transmit c.deviceId c.id reached).map Prod.snd).count id +
      (s.todo.map fun g => g.2.2).count id + (1 - (c.id :: s.issued).count id) ≤ potential id s + 0
    rw [potential]
    split at hissued
    · rename_i hid
      have := hnew hid
      rw [if_pos hid] at hwire
      omega
    · rename_i hid
      rw [if_neg hid] at hwire
      omega
  | select k d t =>
    have hfound := count_found s h k d t id
    show s.started.count id + (s.wire.map Prod.snd).count id +
      ((s.todo ++ _).map fun g => g.2.2).count id + (1 - s.issued.count id) ≤ _
    rw [List.map_append, List.count_append]
    rw [potential]
    omega
  | resend k d id' reached =>
    have htodo : (s.todo.map fun g => g.2.2).count id =
        ((s.todo.erase (k, d, id')).map fun g => g.2.2).count id + if id' = id then 1 else 0 :=
      count_map_erase hen.1 (fun g => g.2.2) id
    have hwire := count_transmit s d id' reached id
    show s.started.count id + ((s.transmit d id' reached).map Prod.snd).count id +
      ((s.todo.erase (k, d, id')).map fun g => g.2.2).count id + (1 - s.issued.count id) ≤
        potential id s + 0
    rw [potential]
    omega
  | abandon k =>
    have hsub : ((s.todo.filter fun g => !(g.1 == k)).map fun g => g.2.2).count id ≤
        (s.todo.map fun g => g.2.2).count id := (List.filter_sublist.map _).count_le id
    show s.started.count id + (s.wire.map Prod.snd).count id +
      ((s.todo.filter fun g => !(g.1 == k)).map fun g => g.2.2).count id +
        (1 - s.issued.count id) ≤ potential id s + 0
    rw [potential]
    omega
  | deliver k d id' =>
    have hwire := count_receive hen.2 id
    have hstart : (s.started ++ [id']).count id = s.started.count id + if id' = id then 1 else 0 := by
      simp [List.count_append, List.count_cons]
    show (s.started ++ [id']).count id + ((s.wire.erase (k, id')).map Prod.snd).count id +
      (s.todo.map fun g => g.2.2).count id + (1 - s.issued.count id) ≤ potential id s + 0
    rw [potential]
    omega
  | discard k d id' =>
    have hwire := count_receive hen.2 id
    show s.started.count id + ((s.wire.erase (k, id')).map Prod.snd).count id +
      (s.todo.map fun g => g.2.2).count id + (1 - s.issued.count id) ≤ potential id s + 0
    rw [potential]
    omega
  | _ => exact Nat.le_add_right ..

/-- **How often a command is started**: at most once for its dispatch, and once for each connect
    sequence that finds its committed row `sent` and not older than an hour.

    The `potential` of a command is how often it was started and may still be: its copies on a wire, those a connect
    sequence is going to send, and its dispatch.  Only a connect sequence that finds it `sent` raises the potential,
    and by one. -/
theorem starts_bounded {ls : List Label} {s : Fleet} (hrun : Run.exec step init ls = some s)
    (id : Uuid) : s.started.count id ≤ 1 + Run.tally step (finds id) init ls := by
  have hpot := Run.exec_tally step_inv (step_potential id) hrun inv_init
  have hinit : potential id init = 1 := by simp [potential, init]
  have hstarts : s.started.count id ≤ potential id s := by
    rw [potential]
    omega
  omega

/-- A command of device 1, dispatched while the device is connected, and started. -/
def firstStart : List Label :=
  [.connect 1 1, .select 1 1 0, .dispatch (.sample 20 1 .pending) true true 5, .commit 20,
    .deliver 1 1 20]

/-- Its result is handled before the device connects again. -/
def resultFirst : List Label :=
  firstStart ++ [.finish 1 20, .upload 1 1 20, .handle 1 20 0 "ok" 9, .lose 1, .connect 1 2,
    .select 2 1 10]

theorem starts_bounded_result_first :
    ∃ s, Run.exec step init resultFirst = some s ∧ s.started.count 20 ≤ 1 := by
  obtain ⟨s, hs⟩ : ∃ s, Run.exec step init resultFirst = some s := ⟨_, rfl⟩
  have htally : Run.tally step (finds 20) init resultFirst = 0 := by decide
  have hbound := starts_bounded hs 20
  rw [htally] at hbound
  exact ⟨s, hs, hbound⟩

/-- The connection drops while it is running: the reconnect sends it again, and it is started
    again. -/
theorem started_twice :
    ∃ s, Run.exec step init (firstStart ++ [.lose 1, .connect 1 2, .select 2 1 10,
        .resend 2 1 20 true, .deliver 2 1 20]) = some s ∧ s.started.count 20 = 2 ∧
      s.running = [(1, 20), (1, 20)] :=
  ⟨_, rfl, by decide, rfl⟩

end Fleet

end Dtsys
