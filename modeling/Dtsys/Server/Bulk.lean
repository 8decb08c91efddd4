/-
  THE BULK REQUEST ACCOUNTS FOR EVERY ELEMENT (`dispatch_bulk_command`).

  The loop runs every element in a savepoint and catches whatever it raises.  An element that goes through
  leaves one row and at most one message, and one that does not leaves nothing (`bulkOne_run`): the message
  is sent when nothing in the element can raise any more.  So whatever the mixture, the response splits the
  list of the request in two, in its order, and the rows and the messages are those of the first part
  (`bulk_accounts`).

  `bulkLoop` keeps the two lists of the response as the source does; `bulkLoop_collects` is its relation
  to the loop of `postBulk`, that keeps the outcomes in one list.
-/
import Dtsys.Server.Dispatch
import Mathlib.Data.List.Nodup

namespace Dtsys

namespace Server

section

variable (E : Env)

/-- The response: the id of each device with that of its command, or with the exception. -/
structure BulkResponse where
  dispatched : List (Uuid × Uuid)
  failed : List (Uuid × PyErr)

/-- One `append`. -/
def BulkResponse.add (r : BulkResponse) : Uuid × Except PyErr Command → BulkResponse
  | (d, .ok command) => { r with dispatched := r.dispatched ++ [(d, command.id)] }
  | (d, .error e) => { r with failed := r.failed ++ [(d, e)] }

/-- The loop of `dispatch_bulk_command`. -/
def bulkLoop (user : User) (allowed : List Uuid) (commandType : String)
    (payload : List (String × Json)) : List Uuid → BulkResponse → Server BulkResponse
  | [], r => pure r
  | d :: ds, r => do
    let out ← bulkOne E user allowed commandType payload d
    bulkLoop user allowed commandType payload ds (r.add (d, out))

/-- `dispatch_bulk_command`, with the checks of its body. -/
def dispatchBulkCommand (user : User) (org : Uuid) (deviceIds : List Uuid) (commandType : String)
    (payload : List (String × Json)) : Server BulkResponse := do
  ensure (!deviceIds.isEmpty) (unprocessable "device_ids must have at least one item")
  ensure (validShellPayload payload)
    (unprocessable "shell command payload must be 10000 characters or less")
  let allowed ← select E fun db =>
    (db.devices.filter fun r => r.orgId == some org && deviceIds.contains r.id).map Device.id
  let r ← bulkLoop E user allowed commandType payload deviceIds ⟨[], []⟩
  commit E
  pure r

end

variable {E : Env} {w w' : World}

/-- The two lists hold what the outcomes say. -/
theorem bulkLoop_collects (user : User) (allowed : List Uuid) (commandType : String)
    (payload : List (String × Json)) : ∀ (ds : List Uuid) (r : BulkResponse) (w : World),
    bulkLoop E user allowed commandType payload ds r w =
      (bulkAll E user allowed commandType payload ds >>= fun outs =>
        pure (outs.foldl BulkResponse.add r)) w := by
  intro ds
  induction ds with
  | nil => exact fun _ _ => rfl
  | cons d ds ih =>
    intro r w
    rw [bulkLoop, bulkAll, Act.bind_assoc_run]
    refine Act.bind_congr_run fun out w₁ _ => ?_
    rw [ih, Act.bind_assoc_run]
    exact Act.bind_congr_run fun outs w₂ _ => rfl

/-! ## One element -/

theorem nested_of_ok {α : Type} {x : Server α} {a : α} {w' : World} (h : w.Settled)
    (hx : x w = (.ok a, w')) (hs : w'.Settled) : nested E x w = (.ok a, w') := by
  have hsave : savepoint x w = (.ok a, w') := by
    rw [savepoint, hx]
  rw [nested, Act.bind_of_ok (flush_settled h), Act.bind_of_ok hsave, Act.bind_of_ok (flush_settled hs)]
  rfl

/-- A savepoint that is rolled back to: what was written since is undone, and what was sent is not. -/
theorem nested_of_error {α : Type} {x : Server α} {e : PyErr} {w' : World} (h : w.Settled)
    (hx : x w = (.error e, w')) :
    nested E x w = (.error e, { w' with db := w.db, pending := [] }) := by
  have hsave : savepoint x w = (.error e, { w' with db := w.db, pending := [] }) := by
    rw [savepoint, hx]
  rw [nested, Act.bind_of_ok (flush_settled h), Act.bind_of_error hsave]

/-- What was put on the wire for the row, and its status: `sent` if it was transmitted, else `pending`. -/
def SettledBy (w : World) (row : Command) (wire : List (Socket × ServerMessage)) : Prop :=
  (row.status = .sent ∧ ∃ ws, live w row.deviceId = some ws ∧
      wire = [(ws, .command row.id row.commandType row.payload)]) ∨
    (row.status = .pending ∧ live w row.deviceId = none ∧ wire = [])

/-- The row of a dispatch, settled by the outcome of the send. -/
theorem settledBy_dispatch {c : Command} (hpending : c.status = .pending) :
    SettledBy w (settleDispatch (live w c.deviceId).isSome false w.clock c)
      (transmitted w c.deviceId (.command c.id c.commandType c.payload)) := by
  rw [transmitted]
  cases hlive : live w c.deviceId with
  | some ws => exact .inl ⟨rfl, ws, hlive, rfl⟩
  | none => exact .inr ⟨hpending, hlive, rfl⟩

theorem settleDispatch_deviceId (sent : Bool) (t : Nat) (c : Command) :
    (settleDispatch sent false t c).deviceId = c.deviceId := by
  cases sent <;> rfl

/-- What an element leaves alone. -/
structure SameSession (w w' : World) : Prop where
  settled : w'.Settled
  committed : w'.committed = w.committed
  live : ∀ d, live w' d = live w d

/-- **The run of an element**: it always returns, with a row and what was transmitted for it, or with the
    exception and nothing. -/
theorem bulkOne_run (h : w.Settled) (user : User) (allowed : List Uuid) (commandType : String)
    (payload : List (String × Json)) (d : Uuid) :
    ∃ out w', bulkOne E user allowed commandType payload d w = (.ok out, w') ∧ SameSession w w' ∧
      ((∃ row wire, out = .ok row ∧ d ∈ allowed ∧ row.deviceId = d ∧ SettledBy w row wire ∧
          w'.db = { w.db with commands := w.db.commands ++ [row] } ∧ w'.wire = w.wire ++ wire) ∨
        (∃ e, out = .error e ∧ w'.db = w.db ∧ w'.wire = w.wire)) := by
  rw [bulkOne]
  split
  · rename_i hallowed
    rcases dispatchCommand_run (E := E) h d commandType payload (some user.id) false with
      ⟨-, hrun⟩ | ⟨-, e, w', hrun, hwire, hcom, hdb, hdev, hload, hmanager, hdead⟩
    · let c := newCommand E w d commandType payload (some user.id)
      have hset := afterDispatch_settled h c false
      have hrow : SettledBy w (settleDispatch (live w c.deviceId).isSome false w.clock c)
        (transmitted w c.deviceId (.command c.id c.commandType c.payload)) := settledBy_dispatch rfl
      exact ⟨_, _, Act.attempt_of_ok (Act.bind_of_ok (nested_of_ok h hrun hset)),
        ⟨hset, rfl, live_afterDispatch w c false⟩,
        .inl ⟨_, _, rfl, List.contains_iff_mem.mp hallowed, settleDispatch_deviceId _ _ c, hrow, rfl, rfl⟩⟩
    -- the savepoint takes the row back, so the session is settled again
    · refine ⟨_, _, Act.attempt_of_error (Act.bind_of_error (nested_of_error h hrun)), ⟨⟨rfl, ?_⟩,
        hcom, fun d' => ?_⟩, .inr ⟨e, rfl, rfl, hwire⟩⟩
      · show w'.loaded = w'.device
        rw [hload, hdev, h.loaded]
      · unfold live
        rw [hmanager, hdead]
  · exact ⟨_, _, rfl, ⟨h, rfl, fun _ => rfl⟩, .inr ⟨_, rfl, rfl, rfl⟩⟩

/-- The loop of `postBulk` always returns, and commands have only been added. -/
theorem bulkAll_run (user : User) (allowed : List Uuid) (commandType : String)
    (payload : List (String × Json)) : ∀ (ds : List Uuid) (w : World), w.Settled →
    ∃ outs w', bulkAll E user allowed commandType payload ds w = (.ok outs, w') ∧ w'.Settled ∧
      Extends w w' := by
  intro ds
  induction ds with
  | nil => intro w h; exact ⟨[], w, rfl, h, .refl w⟩
  | cons d ds ih =>
    intro w h
    obtain ⟨out, w₁, hrun₁, hsame, hout⟩ := bulkOne_run (E := E) h user allowed commandType payload d
    have hext₁ : Extends w w₁ := by
      rcases hout with ⟨row, -, -, -, -, -, hdb, -⟩ | ⟨-, -, hdb, -⟩
      · exact ⟨[row], by rw [hdb]⟩
      · exact ⟨[], by rw [hdb, List.append_nil]⟩
    obtain ⟨outs, w₂, hrun₂, h₂, hext₂⟩ := ih w₁ hsame.settled
    refine ⟨(d, out) :: outs, w₂, ?_, h₂, hext₁.trans hext₂⟩
    rw [bulkAll, Act.bind_of_ok hrun₁, Act.bind_of_ok hrun₂]
    rfl

/-! ## The list -/

/-- The first list is dealt out to the two others, in its order. -/
inductive Dealt {α : Type} : List α → List α → List α → Prop
  | nil : Dealt [] [] []
  | left {x : α} {l a b : List α} : Dealt l a b → Dealt (x :: l) (x :: a) b
  | right {x : α} {l a b : List α} : Dealt l a b → Dealt (x :: l) a (x :: b)

/-- The response, the rows that were added and what was transmitted for each of them. -/
structure Accounted (w : World) (allowed ds : List Uuid) (r : BulkResponse) (rows : List Command)
    (wires : List (List (Socket × ServerMessage))) : Prop where
  dealt : Dealt ds (r.dispatched.map Prod.fst) (r.failed.map Prod.fst)
  entries : List.Forall₂ (fun e row => row.deviceId = e.1 ∧ row.id = e.2) r.dispatched rows
  settled : List.Forall₂ (SettledBy w) rows wires
  allowed : ∀ e ∈ r.dispatched, e.1 ∈ allowed

/-- **The run of the loop.** -/
theorem bulkLoop_run (user : User) (allowed : List Uuid) (commandType : String)
    (payload : List (String × Json)) : ∀ (ds : List Uuid) (r : BulkResponse) (w : World), w.Settled →
    ∃ new rows wires w', bulkLoop E user allowed commandType payload ds r w =
        (.ok ⟨r.dispatched ++ new.dispatched, r.failed ++ new.failed⟩, w') ∧ SameSession w w' ∧
      Accounted w allowed ds new rows wires ∧
      w'.db = { w.db with commands := w.db.commands ++ rows } ∧ w'.wire = w.wire ++ wires.flatten := by
  intro ds
  induction ds with
  | nil =>
    intro r w h
    refine ⟨⟨[], []⟩, [], [], w, ?_, ⟨h, rfl, fun _ => rfl⟩, ⟨.nil, .nil, .nil, nofun⟩, ?_, ?_⟩
    · rw [List.append_nil, List.append_nil]
      rfl
    · rw [List.append_nil]
    · rw [List.flatten_nil, List.append_nil]
  | cons d ds ih =>
    intro r w h
    obtain ⟨out, w₁, hrun₁, hsame, hout⟩ := bulkOne_run (E := E) h user allowed commandType payload d
    obtain ⟨new, rows, wires, w₂, hrun₂, hsame₂, hacc, hdb₂, hwire₂⟩ := ih (r.add (d, out)) w₁ hsame.settled
    have hsettledBy : SettledBy w₁ = SettledBy w := by
      funext row wire
      unfold SettledBy
      rw [hsame.live]
    have hwires : List.Forall₂ (SettledBy w) rows wires := hsettledBy ▸ hacc.settled
    have hsession : SameSession w w₂ :=
      ⟨hsame₂.settled, hsame₂.committed.trans hsame.committed, fun d' => (hsame₂.live d').trans (hsame.live d')⟩
    have hloop : bulkLoop E user allowed commandType payload (d :: ds) r w =
        bulkLoop E user allowed commandType payload ds (r.add (d, out)) w₁ := by
      rw [bulkLoop, Act.bind_of_ok hrun₁]
    rw [hloop, hrun₂]
    -- The device goes to one of the two lists: with its row and its messages, or with its error and neither.
    rcases hout with ⟨row, wire, rfl, hallowed, hdevice, hrow, hdb, hwire⟩ | ⟨e, rfl, hdb, hwire⟩
    · refine ⟨⟨(d, row.id) :: new.dispatched, new.failed⟩, row :: rows, wire :: wires, w₂, ?_, hsession,
        ⟨.left hacc.dealt, .cons ⟨hdevice, rfl⟩ hacc.entries, .cons hrow hwires, ?_⟩, ?_, ?_⟩
      · simp [BulkResponse.add]
      · intro x hx
        rcases List.mem_cons.mp hx with rfl | hx
        · exact hallowed
        · exact hacc.allowed x hx
      · rw [hdb₂, hdb]
        dsimp only
        rw [← List.append_cons]
      · rw [hwire₂, hwire, List.flatten_cons, List.append_assoc]
    · refine ⟨⟨new.dispatched, (d, e) :: new.failed⟩, rows, wires, w₂, ?_, hsession,
        ⟨.right hacc.dealt, hacc.entries, hwires, hacc.allowed⟩, ?_, ?_⟩
      · simp [BulkResponse.add]
      · rw [hdb₂, hdb]
      · rw [hwire₂, hwire]

/-- A request whose body is well formed returns. -/
theorem dispatchBulkCommand_run (h : w.Settled) (user : User) (org : Uuid) {deviceIds : List Uuid}
    (hne : deviceIds.isEmpty = false) (commandType : String) {payload : List (String × Json)}
    (hshell : validShellPayload payload = true) :
    ∃ r rows wires w₁, dispatchBulkCommand E user org deviceIds commandType payload w =
        (.ok r, { w₁ with committed := w₁.db }) ∧ SameSession w w₁ ∧
      Accounted w ((w.db.devices.filter fun d => d.orgId == some org && deviceIds.contains d.id).map Device.id)
        deviceIds r rows wires ∧
      w₁.db = { w.db with commands := w.db.commands ++ rows } ∧ w₁.wire = w.wire ++ wires.flatten := by
  obtain ⟨new, rows, wires, w₁, hloop, hsame, hacc, hdb, hwire⟩ := bulkLoop_run (E := E) user
    ((w.db.devices.filter fun r => r.orgId == some org && deviceIds.contains r.id).map Device.id)
    commandType payload deviceIds ⟨[], []⟩ w h
  refine ⟨new, rows, wires, w₁, ?_, hsame, hacc, hdb, hwire⟩
  rw [dispatchBulkCommand]
  rw [hne, hshell, Bool.not_false, Act.bind_of_ok (ensure_true _ w), Act.bind_of_ok (ensure_true _ w),
    Act.bind_of_ok (select_settled h _), Act.bind_of_ok hloop,
    Act.bind_of_ok (commit_settled E hsame.settled)]
  rfl

/-- Any other raises. -/
theorem wellFormed_of_ok {user : User} {org : Uuid} {deviceIds : List Uuid} {commandType : String}
    {payload : List (String × Json)} {r : BulkResponse}
    (hrun : dispatchBulkCommand E user org deviceIds commandType payload w = (.ok r, w')) :
    deviceIds.isEmpty = false ∧ validShellPayload payload = true := by
  rw [dispatchBulkCommand] at hrun
  cases hne : deviceIds.isEmpty with
  | true =>
    rw [hne] at hrun
    cases hrun
  | false =>
    cases hshell : validShellPayload payload with
    | true => exact ⟨rfl, rfl⟩
    | false =>
      rw [hne, hshell] at hrun
      cases hrun

/-- **Every element is accounted for**: if the request returns, its list is dealt out to `dispatched` and
    `failed`; the rows that were committed are those of the dispatched entries, each `sent` with its
    message on the wire or `pending` without one, and nothing else was written or sent; and the dispatched
    devices are the organization's.

    By induction over the list, one element at a time: an element is dispatched, or its savepoint is rolled back and
    it is reported.  Duplicates and ids of others are elements like the rest. -/
theorem bulk_accounts (h : w.Clean) (hkey : (w.committed.devices.map Device.id).Nodup) {user : User}
    {org : Uuid} {deviceIds : List Uuid} {commandType : String} {payload : List (String × Json)}
    {r : BulkResponse}
    (hrun : dispatchBulkCommand E user org deviceIds commandType payload w = (.ok r, w')) :
    Dealt deviceIds (r.dispatched.map Prod.fst) (r.failed.map Prod.fst) ∧
      (∃ rows wires,
        List.Forall₂ (fun e row => row.deviceId = e.1 ∧ row.id = e.2) r.dispatched rows ∧
        List.Forall₂ (SettledBy w) rows wires ∧
        w'.committed = { w.committed with commands := w.committed.commands ++ rows } ∧
        w'.wire = w.wire ++ wires.flatten) ∧
      ∀ e ∈ r.dispatched, ∀ dev ∈ w.committed.devices, dev.id = e.1 → dev.orgId = some org := by
  obtain ⟨hne, hshell⟩ := wellFormed_of_ok hrun
  obtain ⟨new, rows, wires, w₁, hrun', -, hacc, hdb, hwire⟩ :=
    dispatchBulkCommand_run (E := E) h.toSettled user org hne commandType hshell
  obtain ⟨hr, rfl⟩ := Prod.mk.inj (hrun'.symm.trans hrun)
  obtain rfl : new = r := Except.ok.inj hr
  refine ⟨hacc.dealt, ⟨rows, wires, hacc.entries, hacc.settled, ?_, hwire⟩, ?_⟩
  · rw [← h.db]
    exact hdb
  · intro e he dev hdev hid
    obtain ⟨dev', hdev', hid'⟩ := List.mem_map.mp (hacc.allowed e he)
    obtain ⟨hmem, hown⟩ := List.mem_filter.mp hdev'
    rw [h.db] at hmem
    obtain rfl := List.inj_on_of_nodup_map hkey hmem hdev (hid'.trans hid.symm)
    exact beq_iff_eq.mp (Bool.and_eq_true_iff.mp hown).1

/-! ## A run -/

/-- Two devices of the organization, of which one is connected, and one of nobody. -/
def bulkWorld : World :=
  let db : Db := { Db.empty with
    devices := [{ Device.sample 1 with orgId := some 7 }, { Device.sample 2 with orgId := some 7 },
      Device.sample 3] }
  { World.start db (Device.sample 1) with manager := Manager.empty.register 1 10 ⟨0, "10.0.0.1"⟩ }

/-- Twice the connected device, the other two, and one that does not exist. -/
theorem bulk_accounts_mixed :
    ∃ r w', dispatchBulkCommand .sample ⟨9, "operator"⟩ 7 [1, 1, 2, 3, 4] "reboot" [] bulkWorld =
        (.ok r, w') ∧
      Dealt [1, 1, 2, 3, 4] (r.dispatched.map Prod.fst) (r.failed.map Prod.fst) := by
  have h : bulkWorld.Clean := ⟨⟨rfl, rfl⟩, rfl⟩
  have hne : ([1, 1, 2, 3, 4] : List Uuid).isEmpty = false := rfl
  have hshell : validShellPayload [] = true := rfl
  obtain ⟨r, -, -, w₁, hrun, -⟩ :=
    dispatchBulkCommand_run (E := .sample) h.toSettled ⟨9, "operator"⟩ 7 hne "reboot" hshell
  exact ⟨r, _, hrun, (bulk_accounts h (by decide) hrun).1⟩

end Server

end Dtsys
