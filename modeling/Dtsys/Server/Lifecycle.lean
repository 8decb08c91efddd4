/-
  THE LIFE OF A COMMAND: `pending → sent → running → completed | failed`, over every run of the five
  writers of the status column.

  A run is a list of `LifeStep`s — messages of agents, dispatching requests, scheduler ticks,
  `cleanup_stale_commands`, reconnects, and the passing of time — each a transaction of its own.
  Rows are followed by their POSITION in the table (rows are appended, never moved), so nothing has
  to be assumed about ids.

  1. `step_commands`: a step rewrites the rows by one function (`rewrites`) and appends new ones;
  2. `rewrites_forward`: that function moves a row forward, IF the step is `Orderly`;
  3. `lifecycle_forward`: so does a whole orderly run.

  No writer reads the status it replaces.  What is not orderly is a message for a command that is
  already `completed` or `failed`: late output sets it back to `running`, a late result after the
  stale clean-up turns `failed` into `completed`.
-/
import Dtsys.Lib.Run
import Dtsys.Server.Atomicity
import Dtsys.Server.Ghosts
import Dtsys.Server.Reconnect

namespace Dtsys

/-! ## The order -/

namespace CommandStatus

/-- How far a status is. -/
def rank : CommandStatus → Nat
  | .pending => 0
  | .sent => 1
  | .running => 2
  | .completed => 3
  | .failed => 3

/-- Forward: the same status or a later one (`completed` and `failed` do not turn into each
    other). -/
def Forward (s s' : CommandStatus) : Prop := s = s' ∨ s.rank < s'.rank

/-- `completed` or `failed`. -/
def terminal (s : CommandStatus) : Bool := s == .completed || s == .failed

theorem Forward.refl (s : CommandStatus) : Forward s s := .inl rfl

theorem Forward.trans {s t u : CommandStatus} (h : Forward s t) (h' : Forward t u) :
    Forward s u := by
  rcases h with rfl | h
  · exact h'
  · rcases h' with rfl | h'
    · exact .inr h
    · exact .inr (h.trans h')

/-- Nothing comes after a terminal status. -/
theorem Forward.of_terminal {s s' : CommandStatus} (ht : s.terminal = true) (h : Forward s s') :
    s' = s := by
  rcases h with rfl | h
  · rfl
  · cases s <;> cases s' <;> simp [terminal, rank] at ht h

theorem rank_lt_of_not_terminal {s : CommandStatus} (h : s.terminal = false) : s.rank < 3 := by
  cases s <;> simp_all [terminal, rank]

end CommandStatus

namespace Server

variable {E : Env}

/-! ## The writers -/

/-- A new session on what is committed, of an endpoint that holds the instance `device`. -/
def newSession (w : World) (device : Device) : World :=
  { w with db := w.committed, pending := [], device := device, loaded := device }

theorem newSession_clean (w : World) (device : Device) : (newSession w device).Clean :=
  ⟨⟨rfl, rfl⟩, rfl⟩

/-- One message on a connection: `receive`, and if it raises the end of the endpoint. -/
def afterMessage (E : Env) (ws : Socket) (message : Json) (w : World) : World :=
  match receive E ws message w with
  | (.ok _, w') => w'
  | (.error _, w') => (getDb E (managerDisconnect w.device.id) w').2

/-- `sent` for more than ten minutes. -/
def stale (t : Nat) (c : Command) : Bool :=
  c.status == .sent && decide (c.createdAt + 600 * second < t)

/-- What the clean-up makes of a stale command. -/
def expire (t : Nat) (c : Command) : Command :=
  { c with
    status := .failed
    output := .str "Connection lost before result received"
    completedAt := some t }

/-- `cleanup_stale_commands`. -/
def cleanupStaleCommands (E : Env) : Server Nat := do
  let t ← now
  let rowcount ← select E fun db => (db.commands.filter (stale t)).length
  execute E fun db =>
    { db with commands := db.commands.map fun c => if stale t c then expire t c else c }
  commit E
  pure rowcount

/-- The steps of a run. -/
inductive LifeStep where
  | wait (micros : Nat)
  | message (device : Device) (ws : Socket) (message : Json)
  | request (user : User) (org : Uuid) (r : DispatchRequest)
  | scheduled (jobs : List ScheduledJob)
  | cleanupStale
  | reconnect (device : Device) (ws : Socket) (ip : String)

/-- One step; each works in a session of its own. -/
def lifeStep (E : Env) (w : World) : LifeStep → Option World
  | .wait micros => some { w with clock := w.clock + micros }
  | .message device ws message => some (afterMessage E ws message (newSession w device))
  | .request user org r => some (getDb E (serveRequest E user org r) (newSession w w.device)).2
  | .scheduled jobs => some (getDb E (runScheduledCommands E jobs) (newSession w w.device)).2
  | .cleanupStale => some (getDb E (cleanupStaleCommands E) (newSession w w.device)).2
  | .reconnect device ws ip => some (connectSequence E device.id ws ip (newSession w device)).2

/-- An UPDATE, if there is one, as a function on rows. -/
def writeRow : Option (Uuid × (Command → Command)) → Command → Command
  | some (id, f), c => if c.id = id then f c else c
  | none, c => c

/-- What a step does to the rows that are there. -/
def rewrites (E : Env) (w : World) : LifeStep → Command → Command
  | .message _ _ message => writeRow (commandWrite E w.clock message)
  | .cleanupStale => fun c => if stale w.clock c then expire w.clock c else c
  | _ => id

/-! ## What a step does to the table -/

/-- The command table does not see what a scoped handler writes. -/
theorem scoped_commands (d : Uuid) : Scoped d Db.commands where
  congr r hab := by cases r <;> simp_all [Db.insert]
  insert db r _ hc := by cases r <;> first | rfl | cases hc
  device _ _ _ _ := rfl
  alerts _ _ _ := rfl
  software _ := rfl
  network _ := rfl
  sshKeys _ := rfl
  pushTokens _ _ := rfl

/-- A message that has been handled. -/
theorem afterMessage_of_ok {w w' : World} {ws : Socket} {message : Json}
    (h : receive E ws message w = (.ok (), w')) : afterMessage E ws message w = w' := by
  rw [afterMessage, h]

/-- The message raised: the endpoint returns, and `get_db` commits what can be flushed. -/
theorem afterMessage_of_error {w w' : World} {ws : Socket} {message : Json} {e : PyErr}
    (h : receive E ws message w = (.error e, w')) :
    (afterMessage E ws message w).committed =
      if flushAccepted E w' then w'.view else w'.committed := by
  rw [afterMessage, h]
  exact getDb_disconnect_committed _ _

theorem sendAck_run (ws : Socket) (w : World) :
    (∃ w', sendAck ws w = (.ok (), w') ∧ w'.committed = w.committed) ∨
      sendAck ws w = (.error .runtimeError, w) := by
  rw [sendAck]
  split
  · exact .inr rfl
  · exact .inl ⟨_, rfl, rfl⟩

/-- What a message leaves committed, whether or not it raises. -/
theorem afterMessage_committed {w : World} (hc : w.Clean) (ws : Socket) (message : Json) :
    (afterMessage E ws message w).committed =
      if flushAccepted E (handle E message w).2 then (handle E message w).2.view
      else w.committed := by
  have hcom : (handle E message w).2.committed = w.committed :=
    (handle_spec (E := E) (scoped_unit w.device.id) hc.toSettled message).2
  rcases hrun : handle E message w with ⟨e | u, w₁⟩
  · rw [hrun] at hcom
    rw [afterMessage_of_error (Act.bind_of_error hrun), show w₁.committed = _ from hcom]
  · rw [hrun] at hcom
    cases hacc : flushAccepted E w₁ with
    | true =>
      let w₂ : World := { w₁ with
        committed := w₁.view, db := w₁.view, pending := [], loaded := w₁.device }
      have hset : w₂.Settled := ⟨rfl, rfl⟩
      have hrecv : receive E ws message w = sendAck ws w₂ :=
        (Act.bind_of_ok hrun).trans (Act.bind_of_ok (commit_accepted E hacc))
      rcases sendAck_run ws w₂ with ⟨w₃, hack, hcom₃⟩ | hack
      · rw [afterMessage_of_ok (hrecv.trans hack), hcom₃]
        rfl
      · -- the ack failed: the session is settled, the second commit changes nothing
        rw [afterMessage_of_error (hrecv.trans hack), if_pos (flushAccepted_settled hset),
          hset.view_eq]
        rfl
    | false =>
      have hrecv : receive E ws message w = (.error .db, w₁) :=
        (Act.bind_of_ok hrun).trans (Act.bind_of_error (commit_refused E hacc))
      rw [afterMessage_of_error hrecv, hacc]
      exact hcom

/-- A write to one row is one on each, which leaves the others. -/
theorem applyWrite_commands (db : Db) (write : Option (Uuid × (Command → Command))) :
    (applyWrite db write).commands = db.commands.map (writeRow write) := by
  cases write with
  | none => exact (List.map_id _).symm
  | some write => rfl

/-- A careful handler adds commands, and changes none. -/
theorem Careful.commands {w : World} {x : Server Unit} (hc : w.Clean) (h : Careful x w) :
    ∃ new, (getDb E x w).2.committed.commands = w.committed.commands ++ new := by
  rcases h with ⟨a, w', hrun, hset, new, hnew⟩ | ⟨e, w', hrun, -, hcom⟩
  · rw [getDb_of_settled E hrun hset]
    exact ⟨new, by rw [← hc.db]; exact hnew⟩
  · rw [getDb_of_error E hrun]
    exact ⟨[], by rw [List.append_nil]; exact congrArg Db.commands hcom⟩

/-- A request appends commands and changes none. -/
theorem request_commands {w : World} (hc : w.Clean) (user : User) (org : Uuid)
    (r : DispatchRequest) :
    ∃ new, (getDb E (serveRequest E user org r) w).2.committed.commands =
      w.committed.commands ++ new := by
  cases r with
  | single d commandType payload =>
    exact (postCommand_careful hc.toSettled user org d commandType payload).discard.commands hc
  | bulk deviceIds commandType payload =>
    exact (postBulk_careful hc.toSettled user org deviceIds commandType payload).discard.commands hc
  | updates names deviceIds =>
    rcases dispatchUpdates_run (E := E) hc.toSettled user org names deviceIds with
      ⟨⟨outs, w', hrun, hset, new, hnew⟩, -⟩ | ⟨e, w', hrun, hcom, -⟩
    · have hserve : serveRequest E user org (.updates names deviceIds) w = (.ok (), w') :=
        Act.bind_of_ok hrun
      rw [getDb_of_settled E hserve hset]
      exact ⟨new, by rw [← hc.db]; exact hnew⟩
    · have hserve : serveRequest E user org (.updates names deviceIds) w = (.error e, w') :=
        Act.bind_of_error hrun
      rw [getDb_of_error E hserve]
      exact ⟨[], by rw [List.append_nil]; exact congrArg Db.commands hcom⟩

/-- A job of a bulk dispatch adds a command, or raises. -/
theorem runJob_run {w : World} (h : w.Settled) (job : ScheduledJob) :
    (∃ w', runJob E job w = (.ok (), w') ∧ w'.Settled ∧ Extends w w' ∧ w'.committed = w.committed) ∨
      ∃ e w', runJob E job w = (.error e, w') ∧ w'.committed = w.committed := by
  rcases dispatchCommand_run (E := E) h job.deviceId job.commandType job.payload job.createdBy
    false with ⟨-, hrun⟩ | ⟨-, e, w', hrun, -, hcom, -⟩
  · exact .inl ⟨_, Act.bind_of_ok hrun, afterDispatch_settled h _ false,
      afterDispatch_extends w _ false, rfl⟩
  · exact .inr ⟨e, w', Act.bind_of_error hrun, hcom⟩

theorem runJobs_run : ∀ (jobs : List ScheduledJob) (w : World), w.Settled →
    (∃ w', Act.forEach jobs (runJob E) w = (.ok (), w') ∧ w'.Settled ∧ Extends w w') ∨
      ∃ e w', Act.forEach jobs (runJob E) w = (.error e, w') ∧ w'.committed = w.committed := by
  intro jobs
  induction jobs with
  | nil => intro w h; exact .inl ⟨w, rfl, h, .refl w⟩
  | cons job jobs ih =>
    intro w h
    rw [Act.forEach_cons]
    rcases runJob_run (E := E) h job with ⟨w₁, hrun, hset, hext, hcom⟩ | ⟨e, w₁, hrun, hcom⟩
    · rw [Act.bind_of_ok hrun]
      rcases ih w₁ hset with ⟨w₂, hrest, hset₂, hext₂⟩ | ⟨e, w₂, hrest, hcom₂⟩
      · exact .inl ⟨w₂, hrest, hset₂, hext.trans hext₂⟩
      · exact .inr ⟨e, w₂, hrest, hcom₂.trans hcom⟩
    · exact .inr ⟨e, w₁, Act.bind_of_error hrun, hcom⟩

/-- So does a tick of the scheduler. -/
theorem scheduled_commands {w : World} (hc : w.Clean) (jobs : List ScheduledJob) :
    ∃ new, (getDb E (runScheduledCommands E jobs) w).2.committed.commands =
      w.committed.commands ++ new := by
  rcases runJobs_run (E := E) jobs w hc.toSettled with
    ⟨w', hrun, hset, new, hnew⟩ | ⟨e, w', hrun, hcom⟩
  · have hall : runScheduledCommands E jobs w = (.ok (), { w' with committed := w'.db }) :=
      (Act.bind_of_ok hrun).trans (commit_settled E hset)
    rw [getDb_of_settled E hall ⟨hset.pending, hset.loaded⟩]
    exact ⟨new, by rw [← hc.db]; exact hnew⟩
  · have hall : runScheduledCommands E jobs w = (.error e, w') := Act.bind_of_error hrun
    rw [getDb_of_error E hall]
    exact ⟨[], by rw [List.append_nil]; exact congrArg Db.commands hcom⟩

/-- What the clean-up makes of the commands. -/
theorem cleanup_commands {w : World} (hc : w.Clean) :
    (getDb E (cleanupStaleCommands E) w).2.committed.commands =
      w.committed.commands.map (rewrites E w .cleanupStale) := by
  have hset : ∀ db : Db, ({ w with db := db } : World).Settled := fun _ => ⟨hc.pending, hc.loaded⟩
  have hrun : cleanupStaleCommands E w = (.ok ((w.db.commands.filter (stale w.clock)).length),
      { w with
        db := { w.db with commands := w.db.commands.map (rewrites E w .cleanupStale) }
        committed := { w.db with commands := w.db.commands.map (rewrites E w .cleanupStale) } }) := by
    rw [cleanupStaleCommands, now]
    rw [Act.read_bind, Act.bind_of_ok (select_settled hc.toSettled _),
      Act.bind_of_ok (execute_settled hc.toSettled _), Act.bind_of_ok (commit_settled E (hset _))]
    rfl
  rw [getDb_of_settled E hrun ⟨hc.pending, hc.loaded⟩, hc.db]

/-- **What a step does**: it rewrites the rows by `rewrites` or leaves them, and appends new ones. -/
theorem step_commands {w w' : World} {l : LifeStep} (h : lifeStep E w l = some w') :
    ∃ f new, (f = id ∨ f = rewrites E w l) ∧
      w'.committed.commands = w.committed.commands.map f ++ new := by
  have happend : ∀ {new : List Command}, w'.committed.commands = w.committed.commands ++ new →
      ∃ f new, (f = id ∨ f = rewrites E w l) ∧
        w'.committed.commands = w.committed.commands.map f ++ new :=
    fun hnew => ⟨id, _, .inl rfl, by rw [hnew, List.map_id]⟩
  cases l with
  | wait micros =>
    cases h
    exact happend (List.append_nil _).symm
  | message device ws message =>
    cases h
    have hclean := newSession_clean w device
    rw [afterMessage_committed hclean]
    split
    · refine ⟨_, [], .inr rfl, ?_⟩
      -- to this table a message is its UPDATE, whatever else the handler wrote
      rw [(handle_spec (scoped_commands _) hclean.toSettled message).1, applyWrite_commands,
        List.append_nil]
      rfl
    · exact ⟨id, [], .inl rfl, by rw [List.map_id, List.append_nil]; rfl⟩
  | request user org r =>
    cases h
    obtain ⟨new, hnew⟩ := request_commands (E := E) (newSession_clean w w.device) user org r
    exact happend hnew
  | scheduled jobs =>
    cases h
    obtain ⟨new, hnew⟩ := scheduled_commands (E := E) (newSession_clean w w.device) jobs
    exact happend hnew
  | cleanupStale =>
    cases h
    refine ⟨_, [], .inr rfl, ?_⟩
    rw [cleanup_commands (newSession_clean w w.device), List.append_nil]
    rfl
  | reconnect device ws ip =>
    cases h
    obtain ⟨w₁, cfg, hrun, -, -, -, hcom, -⟩ := connectSequence_spec (E := E) (d := device.id)
      (newSession_clean w device).toSettled ws ip
    rw [hrun] at happend ⊢
    exact happend (hcom.trans (List.append_nil _).symm)

/-! ## Forward -/

/-- A message for a command that is already `completed` or `failed` is a result with the same
    status. -/
def Orderly (E : Env) (w : World) : LifeStep → Prop
  | .message _ _ message => ∀ id f, commandWrite E w.clock message = some (id, f) →
      ∀ c ∈ w.committed.commands, c.id = id → c.status.terminal = true → (f c).status = c.status
  | _ => True

/-- The output a `command_result` message carries. -/
def ResultOutput (output : Json) : LifeStep → Prop
  | .message _ _ message => ∃ data, dispatched message = some (.commandResult, data) ∧
      data.getD "output" (.str "") = .ok output
  | _ => False

/-- A row has moved forward in the steps `ls`; a final output has only been replaced by that of
    another result. -/
structure Moved (ls : List LifeStep) (c c' : Command) : Prop where
  id : c'.id = c.id
  status : c.status.Forward c'.status
  output : c.status.terminal = true → c'.output = c.output ∨ ∃ l ∈ ls, ResultOutput c'.output l

theorem Moved.refl (ls : List LifeStep) (c : Command) : Moved ls c c :=
  ⟨rfl, .refl _, fun _ => .inl rfl⟩

theorem Moved.trans {l : LifeStep} {ls : List LifeStep} {c c' c'' : Command} (h : Moved [l] c c')
    (h' : Moved ls c' c'') : Moved (l :: ls) c c'' where
  id := h'.id.trans h.id
  status := h.status.trans h'.status
  output ht := by
    have ht' : c'.status.terminal = true := by rw [h.status.of_terminal ht]; exact ht
    rcases h'.output ht' with hsame | ⟨k, hk, hout⟩
    · rcases h.output ht with hsame' | ⟨k, hk, hout⟩
      · exact .inl (hsame.trans hsame')
      · rw [List.mem_singleton] at hk
        subst hk
        exact .inr ⟨k, List.mem_cons_self, by rw [hsame]; exact hout⟩
    · exact .inr ⟨k, List.mem_cons_of_mem _ hk, hout⟩

/-- The stale clean-up moves forward: it fails what was `sent`. -/
theorem expire_moved (l : LifeStep) {t : Nat} {c : Command} (h : stale t c = true) :
    Moved [l] c (expire t c) := by
  have hsent : c.status = .sent := by
    have := h
    rw [stale] at this
    simp only [Bool.and_eq_true, beq_iff_eq] at this
    exact this.1
  refine ⟨rfl, .inr ?_, fun ht => ?_⟩
  · rw [hsent]
    show CommandStatus.rank .sent < CommandStatus.rank .failed
    decide
  · rw [hsent] at ht
    cases ht

/-- A message moves a row forward unless the row was terminal; then it must be a result that agrees
    with it. -/
theorem writeRow_moved {w : World} {device : Device} {ws : Socket} {message : Json} {id : Uuid}
    {f : Command → Command} (hw : commandWrite E w.clock message = some (id, f)) {c : Command}
    (hterm : c.status.terminal = true → (f c).status = c.status) :
    Moved [.message device ws message] c (f c) := by
  refine ⟨(commandWrite_keeps hw c).1, ?_, fun ht => .inr ⟨_, List.mem_singleton.mpr rfl, ?_⟩⟩
  · cases ht : c.status.terminal with
    | true => exact .inl (hterm ht).symm
    | false =>
      have hlt := CommandStatus.rank_lt_of_not_terminal ht
      -- not terminal yet: whatever is written comes later in the order
      rcases commandWrite_cases hw with ⟨output, rfl⟩ | ⟨exitCode, output, rfl⟩
      · -- output: `pending` and `sent` become `running`, `running` stays
        show c.status.Forward .running
        cases hs : c.status with
        | pending => exact .inr (by decide)
        | sent => exact .inr (by decide)
        | running => exact .inl rfl
        | completed => rw [hs] at ht; cases ht
        | failed => rw [hs] at ht; cases ht
      · show c.status.Forward (resultStatus exitCode)
        refine .inr ?_
        rw [resultStatus]
        split
        · exact hlt
        · exact hlt
  -- a terminal row keeps its status, so the write was not that of streamed output
  · refine commandWrite_result hw fun hrun => ?_
    rw [hterm ht] at hrun
    rw [hrun] at ht
    cases ht

/-- **One orderly step** moves every row forward. -/
theorem rewrites_moved {w : World} {l : LifeStep} (ho : Orderly E w l) {c : Command}
    (hc : c ∈ w.committed.commands) : Moved [l] c (rewrites E w l c) := by
  cases l with
  | message device ws message =>
    show Moved _ c (writeRow (commandWrite E w.clock message) c)
    cases hw : commandWrite E w.clock message with
    | none => exact .refl _ c
    | some write =>
      obtain ⟨id, f⟩ := write
      unfold writeRow
      dsimp only
      split
      · rename_i hid
        exact writeRow_moved hw (ho id f hw c hc hid)
      · exact .refl _ c
  | cleanupStale =>
    rw [rewrites]
    dsimp only
    split
    · rename_i hst
      exact expire_moved _ hst
    · exact .refl _ c
  | wait _ => exact .refl _ c
  | request _ _ _ => exact .refl _ c
  | scheduled _ => exact .refl _ c
  | reconnect _ _ _ => exact .refl _ c

/-- **A step** moves each command forward. -/
theorem step_moved {w w' : World} {l : LifeStep} (ho : Orderly E w l)
    (h : lifeStep E w l = some w') {i : Nat} {c : Command}
    (hi : w.committed.commands[i]? = some c) :
    ∃ c', w'.committed.commands[i]? = some c' ∧ Moved [l] c c' := by
  obtain ⟨f, new, hf, hcmd⟩ := step_commands h
  have hlt : i < w.committed.commands.length := (List.getElem?_eq_some_iff.mp hi).1
  refine ⟨f c, ?_, ?_⟩
  · rw [hcmd, List.getElem?_append_left (by simpa using hlt), List.getElem?_map, hi]
    rfl
  · rcases hf with rfl | rfl
    · exact .refl _ c
    · exact rewrites_moved ho (List.mem_of_getElem? hi)

/-- **The life of a command.**  In a run whose steps are all orderly, between any two states of the
    run every row has moved forward, and a final output was only replaced by that of a result.

    `_handle_command_output` sets `running` whatever the status was.  `Orderly` is a condition on the message and
    the row before it: what addresses a command that is over is a result, with the status the row has.  The run
    lemma composes the steps, since forward is transitive. -/
theorem lifecycle_forward {s u t : World} {ls ms : List LifeStep}
    (hg : Run.Guarded (lifeStep E) (Orderly E) s (ls ++ ms))
    (hu : Run.exec (lifeStep E) s ls = some u) (ht : Run.exec (lifeStep E) u ms = some t) {i : Nat}
    {c : Command} (hi : u.committed.commands[i]? = some c) :
    ∃ c', t.committed.commands[i]? = some c' ∧ Moved ms c c' := by
  -- the steps in front of `u` are only there to make it a state of the run
  have hgu := hg.of_append hu
  clear hg hu
  induction ms generalizing u c with
  | nil =>
    obtain rfl : u = t := by simpa using ht
    exact ⟨c, hi, .refl _ c⟩
  | cons l ms ih =>
    obtain ⟨v, hstep, hrest⟩ := Run.exec_cons_eq.mp ht
    obtain ⟨c₁, hi₁, hm₁⟩ := step_moved hgu.1 hstep hi
    obtain ⟨c₂, hi₂, hm₂⟩ := ih hrest hi₁ (hgu.2 v hstep)
    exact ⟨c₂, hi₂, hm₁.trans hm₂⟩

/-- A device with a command on the wire. -/
def oneSent : World :=
  .start { Db.empty with devices := [.sample 1], commands := [.sample 10 1 .sent] } (.sample 1)

/-- The result of the command. -/
def resultMessage : Json :=
  clientMessage "command_result" (.obj [("command_id", .str "0000000000000000000000000000000a"),
    ("exit_code", .int 0), ("output", .str "final")])

/-- Streamed output of the command. -/
def streamMessage : Json :=
  clientMessage "command_output" (.obj [("command_id", .str "0000000000000000000000000000000a"),
    ("output", .str "part")])

/-- Output first, then the result: the run is orderly. -/
theorem lifecycle_output_then_result :
    ∃ t, Run.exec (lifeStep Env.sample) oneSent
        [.message (.sample 1) 7 streamMessage, .message (.sample 1) 7 resultMessage] = some t ∧
      ∃ c', t.committed.commands[0]? = some c' ∧
        Moved [.message (.sample 1) 7 streamMessage, .message (.sample 1) 7 resultMessage]
          (.sample 10 1 .sent) c' := by
  have hg : Run.Guarded (lifeStep Env.sample) (Orderly Env.sample) oneSent
      ([] ++ [.message (.sample 1) 7 streamMessage, .message (.sample 1) 7 resultMessage]) := by
    refine ⟨?_, fun s hs => ⟨?_, fun _ _ => trivial⟩⟩
    · intro id f _ c hc _ ht
      obtain rfl : c = .sample 10 1 .sent := by simpa [oneSent, World.start] using hc
      cases ht
    · intro id f _ c hc _ ht
      cases hs
      have hrun : ((afterMessage Env.sample 7 streamMessage
        (newSession oneSent (.sample 1))).committed.commands.all
          fun c => !c.status.terminal) = true := by decide
      have hnot := List.all_eq_true.mp hrun c hc
      rw [ht] at hnot
      cases hnot
  exact ⟨_, rfl, lifecycle_forward (u := oneSent) hg rfl rfl rfl⟩

/-- The same two messages the other way round: a completed command is `running` again. -/
theorem lifecycle_result_then_output :
    ∃ u t, Run.exec (lifeStep Env.sample) oneSent [.message (.sample 1) 7 resultMessage] = some u ∧
      Run.exec (lifeStep Env.sample) u [.message (.sample 1) 7 streamMessage] = some t ∧
      u.committed.commands.map Command.status = [.completed] ∧
      t.committed.commands.map Command.status = [.running] ∧
      ¬ CommandStatus.Forward .completed .running := by
  refine ⟨_, _, rfl, rfl, by decide, by decide, ?_⟩
  rintro (h | h)
  · cases h
  · exact absurd h (by decide)

end Server

end Dtsys
