/-
  WHAT A RECONNECT DELIVERS.

  When the endpoint enters its receive loop it has handed to `send_to_device`, in this order, the
  stored configuration (if any) and every command of the device that is `sent` and not older than
  an hour (`connectSequence_spec`).  A command that is still `pending` — queued by the bulk
  endpoint, by the scheduler or by the update dispatch while the device was away — is not among
  them, whatever its age (`connect_delivers_iff`).

  1. `resend_run` — the loop that sends the commands again, by induction over the rows; it writes
     nothing.
  2. `markOnline_run` — the transaction that marks the device online, which leaves the commands alone.
  3. `connectSequence_spec` — both, with the configuration between them, in the order in which they are
     handed over.

  `undelivered` are the commands an operator would expect on the wire: without an answer, and not older than
  an hour.  `connect_delivers_iff`: all of them are handed over exactly when none is `pending`.
-/
import Dtsys.Server.Router
import Mathlib.Data.List.Nodup

namespace Dtsys

namespace Server

variable {E : Env} {d : Uuid}

/-! ## The run of the connect sequence -/

/-- A send is handed over, whether or not the socket takes it, and is nothing to the database. -/
theorem sendToDevice_run (d : Uuid) (msg : ServerMessage) (w : World) :
    ∃ b w', sendToDevice d msg w = (.ok b, w') ∧ w'.handed = w.handed ++ [(d, msg)] ∧
      w'.db = w.db ∧ w'.committed = w.committed ∧ w'.clock = w.clock ∧
      (w.Settled → w'.Settled) := by
  rw [sendToDevice]
  dsimp only
  split
  · exact ⟨_, _, rfl, rfl, rfl, rfl, rfl, fun h => ⟨h.pending, h.loaded⟩⟩
  · split
    · exact ⟨_, _, rfl, rfl, rfl, rfl, rfl, fun h => ⟨h.pending, h.loaded⟩⟩
    · exact ⟨_, _, rfl, rfl, rfl, rfl, rfl, fun h => ⟨h.pending, h.loaded⟩⟩

/-- The loop that sends again hands over each command, and writes nothing. -/
theorem resend_run : ∀ (cmds : List Command) (w : World), ∃ w', resend d cmds w = (.ok (), w') ∧
    w'.handed = w.handed ++ cmds.map (fun c => (d, commandMessage c)) ∧ w'.db = w.db ∧
    w'.committed = w.committed ∧ w'.clock = w.clock := by
  intro cmds
  induction cmds with
  | nil => intro w; exact ⟨w, rfl, by simp, rfl, rfl, rfl⟩
  | cons c cmds ih =>
    intro w
    obtain ⟨b, w₁, hrun, hh, hdb, hcom, hcl, -⟩ := sendToDevice_run d (commandMessage c) w
    obtain ⟨w₂, hrest, hh₂, hdb₂, hcom₂, hcl₂⟩ := ih w₁
    refine ⟨w₂, ?_, ?_, hdb₂.trans hdb, hcom₂.trans hcom, hcl₂.trans hcl⟩
    · show Act.forEach (c :: cmds) _ w = _
      rw [Act.forEach_cons, Act.bind_assoc_run, Act.bind_of_ok hrun]
      exact hrest
    · rw [hh₂, hh]
      simp

/-- The configuration is handed over as one message or not at all. -/
theorem sendConfig_run {w : World} (h : w.Settled) : ∃ w' cfg, sendConfig E d w = (.ok (), w') ∧
    w'.handed = w.handed ++ cfg ∧ (∀ x ∈ cfg, ∃ data, x = (d, .configUpdate data)) ∧
    w'.db = w.db ∧ w'.committed = w.committed ∧ w'.clock = w.clock ∧ w'.Settled := by
  rw [sendConfig, Act.bind_of_ok (select_settled h _)]
  cases w.db.deviceConfigs.find? (fun r => r.deviceId == d) with
  | none => exact ⟨w, [], rfl, by simp, by simp, rfl, rfl, rfl, h⟩
  | some r =>
    obtain ⟨b, w₁, hrun, hh, hdb, hcom, hcl, hset⟩ := sendToDevice_run d (.configUpdate r.config) w
    refine ⟨w₁, [(d, .configUpdate r.config)], ?_, hh, ?_, hdb, hcom, hcl, hset h⟩
    · show (sendToDevice d (.configUpdate r.config) >>= fun _ => pure ()) w = _
      rw [Act.bind_of_ok hrun]
      rfl
    · intro x hx
      exact ⟨r.config, by simpa using hx⟩

/-- `mark_online` touches no command. -/
theorem markOnline_run {w : World} (h : w.Settled) (t : Nat) :
    ∃ w', markOnline E d t w = (.ok (), w') ∧ w'.db.commands = w.db.commands ∧
      w'.handed = w.handed ∧ w'.clock = w.clock ∧ w'.Settled := by
  rw [markOnline]
  dsimp only
  rw [Act.bind_of_ok (execute_settled h _)]
  exact ⟨_, rfl, rfl, rfl, rfl, h.pending, by simp [h.loaded]⟩

/-- Marking the device online and logging it: committed, and nothing of it is a command. -/
theorem goOnline_run {w : World} (h : w.Settled) (ws : Socket) (ip : String) (began : Nat) :
    ∃ w', goOnline E d ws ip began w = (.ok (), w') ∧
    w'.db.commands = w.db.commands ∧ w'.handed = w.handed ∧ w'.clock = w.clock ∧ w'.Clean := by
  rw [goOnline, managerConnect, now]
  simp only [Act.modify_bind, Act.read_bind]
  have h₁ : ({ w with manager := (w.manager.closeOld d).register d ws ⟨w.clock, ip⟩ } :
    World).Settled := ⟨h.pending, h.loaded⟩
  obtain ⟨w₂, hrun, hcmd, hh, hcl, hset⟩ := markOnline_run (E := E) (d := d) h₁ w.clock
  rw [Act.bind_of_ok hrun, Act.bind_of_ok (select_settled hset _)]
  -- the uptime row carries no value from outside, so the commit goes through
  have hacc : ∀ r n, flushAccepted E { w₂ with drawn := n, pending := w₂.pending ++ [.uptime r] }
      = true := fun r n => flushAccepted_add hset (.uptime r) n
  refine ⟨_, commit_accepted E (hacc _ _), ?_, hh, hcl, ⟨⟨rfl, rfl⟩, rfl⟩⟩
  exact (congrArg Db.commands (view_add hset _ _)).trans hcmd

/-- What the connect sequence hands over, and the commands it leaves as they were. -/
theorem connectSince_spec {w : World} (h : w.Settled) (ws : Socket) (ip : String) (began : Nat) :
    ∃ w' cfg, connectSince E d ws ip began w = (.ok (), w') ∧
      w'.handed = w.handed ++
        (cfg ++ (w.db.commands.filter (resendable d w.clock)).map fun c => (d, commandMessage c)) ∧
      (∀ x ∈ cfg, ∃ data, x = (d, .configUpdate data)) ∧
      w'.db.commands = w.db.commands ∧ w'.committed.commands = w.db.commands ∧
      w'.clock = w.clock := by
  obtain ⟨w₁, hrun₁, hcmd₁, hh₁, hcl₁, hclean⟩ := goOnline_run (E := E) (d := d) h
    ws ip began
  obtain ⟨w₂, cfg, hrun₂, hh₂, hcfg, hdb₂, hcom₂, hcl₂, hset₂⟩ :=
    sendConfig_run (E := E) (d := d) hclean.toSettled
  obtain ⟨w₃, hrun₃, hh₃, hdb₃, hcom₃, hcl₃⟩ :=
    resend_run (d := d) (w₂.db.commands.filter (resendable d w₂.clock)) w₂
  refine ⟨w₃, cfg, ?_, ?_, hcfg, ?_, ?_, ?_⟩
  · rw [connectSince, Act.bind_of_ok hrun₁, Act.bind_of_ok hrun₂]
    rw [resendSent, now, Act.read_bind, Act.bind_of_ok (select_settled hset₂ _)]
    exact hrun₃
  · rw [hh₃, hh₂, hh₁, hdb₂, hcmd₁, hcl₂, hcl₁, List.append_assoc]
  · rw [hdb₃, hdb₂, hcmd₁]
  · rw [hcom₃, hcom₂, ← hclean.db, hcmd₁]
  · rw [hcl₃, hcl₂, hcl₁]

/-- **The connect sequence**: what it hands to the socket, and the commands it leaves as they were. -/
theorem connectSequence_spec {w : World} (h : w.Settled) (ws : Socket) (ip : String) :
    ∃ w' cfg, connectSequence E d ws ip w = (.ok (), w') ∧
      w'.handed = w.handed ++
        (cfg ++ (w.db.commands.filter (resendable d w.clock)).map fun c => (d, commandMessage c)) ∧
      (∀ x ∈ cfg, ∃ data, x = (d, .configUpdate data)) ∧
      w'.db.commands = w.db.commands ∧ w'.committed.commands = w.db.commands ∧
      w'.clock = w.clock :=
  connectSince_spec h ws ip w.clock

/-! ## Delivery -/

/-- A command the device has not answered and that is not older than an hour. -/
def undelivered (d : Uuid) (t : Nat) (c : Command) : Prop :=
  c.deviceId = d ∧ (c.status = .pending ∨ c.status = .sent) ∧ t ≤ c.createdAt + hour

/-- After the connect sequence every such command has been handed to `send_to_device`. -/
def Delivered (d : Uuid) (w w' : World) : Prop :=
  ∀ c ∈ w'.db.commands, undelivered d w'.clock c →
    (d, commandMessage c) ∈ w'.handed.drop w.handed.length

/-- **Delivery on reconnect.**  The connect sequence returns, and it has handed over every
    unanswered command of the last hour exactly when none of them is still `pending`.

    The query of the connect sequence has `status == "sent"`, and nobody else sends a `pending` command.  From left
    to right a pending command of the last hour would have to be among what was handed over, which is `sent` only.
    -/
theorem connect_delivers_iff {w : World} (h : w.Settled)
    (hkey : (w.db.commands.map Command.id).Nodup) (ws : Socket) (ip : String) :
    (∃ w', connectSequence E d ws ip w = (.ok (), w') ∧ Delivered d w w') ↔
      ∀ c ∈ w.db.commands, c.deviceId = d → c.status = .pending → ¬ w.clock ≤ c.createdAt + hour := by
  obtain ⟨w', cfg, hrun, hh, hcfg, hcmd, -, hcl⟩ := connectSequence_spec (E := E) (d := d) h
    ws ip
  have hdrop : w'.handed.drop w.handed.length =
      cfg ++ (w.db.commands.filter (resendable d w.clock)).map fun c => (d, commandMessage c) := by
    rw [hh, List.drop_left]
  constructor
  · rintro ⟨w₂, hrun₂, hdel⟩ c hc hd hpend hyoung
    obtain rfl : w' = w₂ := by
      rw [hrun] at hrun₂
      exact (Prod.mk.inj hrun₂).2
    have hin := hdel c (by rw [hcmd]; exact hc) ⟨hd, .inl hpend, by rw [hcl]; exact hyoung⟩
    rw [hdrop] at hin
    rcases List.mem_append.mp hin with hin | hin
    · obtain ⟨data, heq⟩ := hcfg _ hin
      cases heq
    · -- only a `sent` row with the same id could have been sent in its place
      obtain ⟨c', hc', heq⟩ := List.mem_map.mp hin
      obtain ⟨hmem, hre⟩ := List.mem_filter.mp hc'
      have hid : c'.id = c.id := by
        have hmsg := (Prod.mk.inj heq).2
        rw [commandMessage] at hmsg
        injection hmsg
      obtain rfl : c' = c := List.inj_on_of_nodup_map hkey hmem hc hid
      simp [resendable, hpend] at hre
  · intro hnone
    refine ⟨w', hrun, ?_⟩
    intro c hc ⟨hd, hst, hyoung⟩
    rw [hcmd] at hc
    rw [hcl] at hyoung
    rw [hdrop]
    refine List.mem_append_right _ (List.mem_map.mpr ⟨c, List.mem_filter.mpr ⟨hc, ?_⟩, rfl⟩)
    -- the query asks for `sent` only
    rcases hst with hpend | hsent
    · exact absurd hyoung (hnone c hc hd hpend)
    · simp [resendable, hd, hsent, hyoung]

/-- One device whose only command has the given status; ten minutes have passed. -/
def oneCommand (status : CommandStatus) : World :=
  { World.start { Db.empty with devices := [.sample 1], commands := [.sample 10 1 status] }
      (.sample 1) with clock := 600 * second }

theorem oneCommand_settled (status : CommandStatus) : (oneCommand status).Settled := ⟨rfl, rfl⟩

/-- A command on the wire when the connection was lost is handed over again. -/
theorem connect_delivers_sent : ∃ w', connectSequence Env.sample 1 7 "10.0.0.5" (oneCommand .sent) =
    (.ok (), w') ∧ Delivered 1 (oneCommand .sent) w' := by
  refine (connect_delivers_iff (oneCommand_settled .sent) (by decide) 7 "10.0.0.5").mpr ?_
  intro c hc _ hpend
  obtain rfl : c = .sample 10 1 .sent := by simpa [oneCommand, World.start] using hc
  cases hpend

/-- A command queued while the device was away is not. -/
theorem connect_skips_pending :
    ∃ w', connectSequence Env.sample 1 7 "10.0.0.5" (oneCommand .pending) = (.ok (), w') ∧
      ¬ Delivered 1 (oneCommand .pending) w' := by
  obtain ⟨w', cfg, hrun, hh, hcfg, hcmd, -, hcl⟩ := connectSequence_spec (E := Env.sample) (d := 1)
    (oneCommand_settled .pending) 7 "10.0.0.5"
  refine ⟨w', hrun, fun hdel => ?_⟩
  have hin := hdel (.sample 10 1 .pending) (by rw [hcmd]; exact List.mem_cons_self)
    ⟨rfl, .inl rfl, by rw [hcl]; decide⟩
  rw [hh, List.drop_left] at hin
  rcases List.mem_append.mp hin with hin | hin
  · obtain ⟨data, heq⟩ := hcfg _ hin
    cases heq
  · have hnone : (oneCommand .pending).db.commands.filter (resendable 1 (oneCommand .pending).clock)
      = [] := rfl
    rw [hnone] at hin
    cases hin

end Server

end Dtsys
