/-
  WHO WRITES THE COMMAND LIBRARY: the requests of `app/api/v1/saved_commands.py` as transactions that interleave,
  while users come and go and change their roles.

  A step is a statement of one request: `begin` (`get_current_user` loads the caller), `get` (the handler up to
  its commit, with the row as it is then), `commit`, `abort`.  An UPDATE writes the columns in which the
  instance is not as loaded (`patch`), and nothing locks the row before.

  * Each column of a row was written by the owner of the row or by an administrator, and a command is global
    only if an administrator has made it so (`columns_permitted`).
  * What users see of others was written by an administrator as a whole, if no UPDATE meets a row that has
    changed since the request loaded it (`shown_as_published`).  A PUT that changes nothing is no UPDATE.
-/
import Dtsys.Lib.Rows
import Dtsys.Lib.Run
import Dtsys.Server.SavedCommands
import Mathlib.Data.List.Nodup
import Mathlib.Logic.Function.Basic

namespace Dtsys

open Accounts (User)

variable {π : Type}

namespace SavedCommands

/-- The requests of the router. -/
inductive Request (π : Type)
  | create (id : Uuid) (now : Nat) (body : SavedCommandRequest π)
  | update (id : Uuid) (body : SavedCommandRequest π)
  | delete (id : Uuid)

/-- Where a request stands; the caller is as `get_current_user` has loaded it. -/
inductive Phase (π : Type)
  | idle
  | begun (caller : User) (request : Request π)
  /-- next is the commit: of an INSERT, an UPDATE or a DELETE -/
  | creating (caller : User) (command : SavedCommand π)
  | changing (caller : User) (loaded command : SavedCommand π)
  | deleting (loaded : SavedCommand π)

/-- What was committed, and for whom. -/
structure Write (π : Type) where
  caller : User
  command : SavedCommand π

/-- The UPDATE of a row: the attributes of the instance that are not as loaded. -/
def patch [DecidableEq π] (loaded command row : SavedCommand π) : SavedCommand π :=
  { row with
    name := Columns.merge loaded.name command.name row.name
    description := Columns.merge loaded.description command.description row.description
    commandType := Columns.merge loaded.commandType command.commandType row.commandType
    payload := Columns.merge loaded.payload command.payload row.payload
    deviceId := Columns.merge loaded.deviceId command.deviceId row.deviceId
    isGlobal := Columns.merge loaded.isGlobal command.isGlobal row.isGlobal }

/-- What a body sets. -/
structure Contents (π : Type) where
  name : String
  description : Option String
  commandType : String
  payload : π
  deviceId : Option Uuid
  isGlobal : Bool
  deriving DecidableEq

/-- What a body has set of a command. -/
def contents (c : SavedCommand π) : Contents π :=
  ⟨c.name, c.description, c.commandType, c.payload, c.deviceId, c.isGlobal⟩

end SavedCommands

open SavedCommands

/-- The table, the requests that are at work on it, and what has been written to it. -/
structure CommandLibrary (π : Type) where
  users : List User
  devices : List Uuid
  rows : List (SavedCommand π)
  phase : Nat → Phase π
  written : List (Write π)

namespace CommandLibrary

/-- The statements of the requests, and what others do to the users and the devices. -/
inductive Label (π : Type)
  | begin (n : Nat) (caller : User) (request : Request π)
  | get (n : Nat)
  | commit (n : Nat)
  | abort (n : Nat)
  /-- the users, after requests about them -/
  | accounts (users : List User)
  /-- the devices that are left -/
  | devices (devices : List Uuid)

/-- No commands, and no users. -/
def init : CommandLibrary π := ⟨[], [], [], fun _ => .idle, []⟩

/-- Request `n` goes on. -/
def set (s : CommandLibrary π) (n : Nat) (p : Phase π) : CommandLibrary π :=
  { s with phase := Function.update s.phase n p }

/-- `db.get(SavedCommand, id)`. -/
def find (id : Uuid) (rows : List (SavedCommand π)) : Option (SavedCommand π) := rows.find? fun r => r.id == id

/-- `get`: the handler up to its commit. -/
def handle (rows : List (SavedCommand π)) (caller : User) : Request π → Phase π
  | .create id now body =>
    match createSavedCommand caller body id now with
    | .ok command => .creating caller command
    | .error _ => .idle
  | .update id body =>
    match find id rows, updateSavedCommand caller body (find id rows) with
    | some loaded, .ok command => .changing caller loaded command
    | _, _ => .idle
  | .delete id =>
    match deleteSavedCommand caller (find id rows) with
    | .ok loaded => .deleting loaded
    | .error _ => .idle

/-- `ON DELETE SET NULL` of `created_by`. -/
def disown (users : List User) (c : SavedCommand π) : SavedCommand π :=
  { c with createdBy := c.createdBy.filter fun u => users.any fun user => user.id == u }

/-- `ON DELETE CASCADE` of `device_id`. -/
def onDevice (devices : List Uuid) (c : SavedCommand π) : Bool := c.deviceId.all fun d => devices.contains d

section

variable (accepts : SavedCommand π → Bool)

/-- The table takes the row: the driver does (`accepts`), what it refers to is there, and no other row has
    its name. -/
def storable (s : CommandLibrary π) (c : SavedCommand π) : Bool :=
  accepts c && (c.createdBy.all fun u => s.users.any fun user => user.id == u) && onDevice s.devices c &&
    s.rows.all fun r => r.name != c.name || r.id == c.id

variable [DecidableEq π]

/-- The commit of a request; what the database refuses is rolled back. -/
def commit (s : CommandLibrary π) : Phase π → Option (CommandLibrary π)
  | .creating caller command =>
    -- no id is drawn twice
    if s.written.any fun w => w.command.id == command.id then none
    else if storable accepts s command then
      some { s with rows := s.rows ++ [command], written := s.written ++ [⟨caller, command⟩] }
    else some s
  | .changing caller loaded command =>
    match find loaded.id s.rows with
    -- an instance that is as loaded is not written; a row that is gone cannot be
    | none => some s
    | some row =>
      if command = loaded then some s
      else if storable accepts s (patch loaded command row) then
        some { s with
          rows := Columns.update SavedCommand.id patch loaded command s.rows
          written := s.written ++ [⟨caller, command⟩] }
      else some s
  | .deleting loaded => some { s with rows := s.rows.filter fun r => r.id != loaded.id }
  | _ => none

/-- One statement of one request, or what others do. -/
def step (s : CommandLibrary π) : Label π → Option (CommandLibrary π)
  | .begin n caller request =>
    match s.phase n with
    | .idle => if caller ∈ s.users ∧ caller.isActive = true then some (s.set n (.begun caller request)) else none
    | _ => none
  | .get n =>
    match s.phase n with
    | .begun caller request => some (s.set n (handle s.rows caller request))
    | _ => none
  | .commit n => (commit accepts s (s.phase n)).map fun s => s.set n .idle
  | .abort n => some (s.set n .idle)
  | .accounts users => some { s with users, rows := s.rows.map (disown users) }
  | .devices devices => some { s with devices, rows := s.rows.filter (onDevice devices) }

end

/-! ## What a row goes back to -/

/-- A write of this row that a handler has let through. -/
structure Explains (w : Write π) (r : SavedCommand π) : Prop where
  id : w.command.id = r.id
  permitted : Permitted w.caller w.command
  createdBy : r.createdBy = w.command.createdBy ∨ r.createdBy = none

/-- A request about to commit. -/
def Sound (s : CommandLibrary π) : Phase π → Prop
  | .creating caller command => Permitted caller command
  | .changing caller loaded command =>
    Permitted caller command ∧ command.id = loaded.id ∧ (∃ w ∈ s.written, w.command.id = loaded.id) ∧
      ∀ r ∈ s.rows, r.id = loaded.id → r.createdBy = command.createdBy ∨ r.createdBy = none
  | _ => True

/-- What `f` reads of the row goes back to one write of it. -/
def Traced {α : Type} (f : SavedCommand π → α) (s : CommandLibrary π) (r : SavedCommand π) : Prop :=
  ∃ w ∈ s.written, Explains w r ∧ f w.command = f r

/-- Every row goes back to a write that was permitted, as far as `f` sees it. -/
structure Inv {α : Type} (f : SavedCommand π → α) (s : CommandLibrary π) : Prop where
  ids : (s.rows.map SavedCommand.id).Nodup
  traced : ∀ r ∈ s.rows, Traced f s r
  requests : ∀ n, Sound s (s.phase n)

/-- A row of a later state: one that is there already, perhaps written to since, or a new one. -/
def Follows (s : CommandLibrary π) (r : SavedCommand π) : Prop :=
  (∃ q ∈ s.rows, r.id = q.id ∧ (r.createdBy = q.createdBy ∨ r.createdBy = none)) ∨
    ∀ w ∈ s.written, w.command.id ≠ r.id

variable {s s' : CommandLibrary π} {α : Type} {f : SavedCommand π → α}

theorem follows_of_mem {r : SavedCommand π} (h : r ∈ s.rows) : Follows s r := .inl ⟨r, h, rfl, .inl rfl⟩

/-- A phase stays sound while the library goes on. -/
theorem Sound.follow {p : Phase π} (h : Sound s p) (hwritten : ∀ w ∈ s.written, w ∈ s'.written)
    (hrows : ∀ r ∈ s'.rows, Follows s r) : Sound s' p := by
  cases p with
  | changing caller loaded command =>
    obtain ⟨hpermitted, hid, ⟨w, hw, hwid⟩, howner⟩ := h
    refine ⟨hpermitted, hid, ⟨w, hwritten w hw, hwid⟩, fun r hr hrid => ?_⟩
    rcases hrows r hr with ⟨q, hq, hqid, hsame | hnone⟩ | hnew
    · rw [hsame]
      exact howner q hq (hqid.symm.trans hrid)
    · exact .inr hnone
    · exact absurd (hwid.trans hrid.symm) (hnew w hw)
  | _ => exact h

/-- What a step leaves to be shown: the rows, and the phase of the request that moves. -/
theorem Inv.follow (h : Inv f s) (hids : (s'.rows.map SavedCommand.id).Nodup)
    (hwritten : ∀ w ∈ s.written, w ∈ s'.written) (hrows : ∀ r ∈ s'.rows, Follows s r ∧ Traced f s' r)
    (hphase : ∀ n, s'.phase n = s.phase n ∨ Sound s' (s'.phase n)) : Inv f s' := by
  refine ⟨hids, fun r hr => (hrows r hr).2, fun n => ?_⟩
  rcases hphase n with hsame | hsound
  · rw [hsame]
    exact (h.requests n).follow hwritten fun r hr => (hrows r hr).1
  · exact hsound

/-- A row that was traced stays so. -/
theorem Traced.follow {r q : SavedCommand π} (h : Traced f s q) (hwritten : ∀ w ∈ s.written, w ∈ s'.written)
    (hid : r.id = q.id) (howner : r.createdBy = q.createdBy ∨ r.createdBy = none) (hf : f r = f q) :
    Traced f s' r := by
  obtain ⟨w, hw, hexplains, hsame⟩ := h
  refine ⟨w, hwritten w hw, ⟨hexplains.id.trans hid.symm, hexplains.permitted, ?_⟩, hsame.trans hf.symm⟩
  rcases howner with heq | hnone
  · rw [heq]
    exact hexplains.createdBy
  · exact .inr hnone

/-- One session moves, and the others stay where they were. -/
theorem phase_set {n : Nat} {p : Phase π} (hp : Sound (s.set n p) p) :
    ∀ m, (s.set n p).phase m = s.phase m ∨ Sound (s.set n p) ((s.set n p).phase m) := by
  intro m
  by_cases hm : m = n
  · right
    rw [hm]
    dsimp only [set]
    rw [Function.update_self]
    exact hp
  · exact .inl (Function.update_of_ne hm ..)

/-- A step of a request that writes nothing. -/
theorem Inv.set (h : Inv f s) {n : Nat} {p : Phase π} (hp : Sound s p) : Inv f (s.set n p) :=
  h.follow h.ids (fun _ hw => hw) (fun r hr => ⟨follows_of_mem hr, h.traced r hr⟩)
    (phase_set (hp.follow (fun _ hw => hw) fun _ hr => follows_of_mem hr))

/-- A row is left out, or loses its owner. -/
theorem Inv.rewrite (h : Inv f s) (g : SavedCommand π → SavedCommand π) {rows : List (SavedCommand π)}
    (hrows : rows.Sublist s.rows) (hid : ∀ r, (g r).id = r.id) (hf : ∀ r, f (g r) = f r)
    (howner : ∀ r, (g r).createdBy = r.createdBy ∨ (g r).createdBy = none) (hs : s'.rows = rows.map g)
    (hwritten : s'.written = s.written) (hphase : s'.phase = s.phase) : Inv f s' := by
  have hmem : ∀ w ∈ s.written, w ∈ s'.written := fun w hw => hwritten ▸ hw
  refine h.follow ?_ hmem ?_ fun n => .inl (congrFun hphase n)
  · rw [hs, List.map_map, show SavedCommand.id ∘ g = SavedCommand.id from funext hid]
    exact (hrows.map _).nodup h.ids
  · intro r hr
    rw [hs] at hr
    obtain ⟨q, hq, rfl⟩ := List.mem_map.mp hr
    have hq' := hrows.subset hq
    exact ⟨.inl ⟨q, hq', hid q, howner q⟩, (h.traced q hq').follow hmem (hid q) (howner q) (hf q)⟩

theorem find_some {id : Uuid} {rows : List (SavedCommand π)} {r : SavedCommand π} (h : find id rows = some r) :
    r ∈ rows ∧ r.id = id :=
  Rows.find_eq_some h

/-- **The handlers** leave a request that may commit. -/
theorem Inv.handle_sound (h : Inv f s) (caller : User) (request : Request π) :
    Sound s (handle s.rows caller request) := by
  cases request with
  | create id now body =>
    dsimp only [handle]
    split
    · rename_i command hok
      exact (createSavedCommand_ok hok).1
    · trivial
  | update id body =>
    dsimp only [handle]
    split
    · rename_i loaded command hfind hok
      rw [hfind] at hok
      obtain ⟨_, hsome, hpermitted, hid, howner⟩ := updateSavedCommand_ok hok
      obtain rfl := Option.some.inj hsome
      obtain ⟨hmem, -⟩ := find_some hfind
      obtain ⟨w, hw, hexplains, -⟩ := h.traced loaded hmem
      refine ⟨hpermitted, hid, ⟨w, hw, hexplains.id⟩, fun r hr hrid => .inl ?_⟩
      rw [howner, List.inj_on_of_nodup_map h.ids hr hmem hrid]
    · trivial
  | delete id =>
    dsimp only [handle]
    split
    · trivial
    · trivial

theorem inv_init : Inv f (init : CommandLibrary π) := ⟨List.nodup_nil, nofun, fun _ => trivial⟩

/-- An INSERT, with an id that is new. -/
theorem Inv.create (h : Inv f s) {caller : User} {command : SavedCommand π} (hp : Permitted caller command)
    (hnew : ∀ w ∈ s.written, w.command.id ≠ command.id) :
    Inv f { s with rows := s.rows ++ [command], written := s.written ++ [⟨caller, command⟩] } := by
  refine h.follow ?_ (fun w hw => List.mem_append_left _ hw) ?_ fun n => .inl rfl
  · rw [List.map_append, List.nodup_append]
    refine ⟨h.ids, List.nodup_singleton _, fun id hid _ hlast heq => ?_⟩
    obtain ⟨r, hr, rfl⟩ := List.mem_map.mp hid
    obtain ⟨w, hw, hexplains, -⟩ := h.traced r hr
    exact hnew w hw (hexplains.id.trans (heq.trans (List.mem_singleton.mp hlast)))
  · intro r hr
    rcases List.mem_append.mp hr with hr | hr
    · exact ⟨follows_of_mem hr, (h.traced r hr).follow (fun w hw => List.mem_append_left _ hw) rfl (.inl rfl) rfl⟩
    · obtain rfl := List.mem_singleton.mp hr
      exact ⟨.inr hnew, _, List.mem_append_right _ (List.mem_singleton_self _), ⟨rfl, hp, .inl rfl⟩, rfl⟩

/-! ## Runs -/

variable [DecidableEq π]

/-- The UPDATE leaves what `f` reads of the row, or makes it what the request wanted. -/
def Carries {α : Type} (f : SavedCommand π → α) (s : CommandLibrary π) : Label π → Prop
  | .commit n =>
    match s.phase n with
    | .changing _ loaded command => ∀ r ∈ s.rows, r.id = loaded.id →
        f (patch loaded command r) = f r ∨ f (patch loaded command r) = f command
    | _ => True
  | _ => True

variable {accepts : SavedCommand π → Bool}

/-- **An UPDATE**: what `f` reads goes back to an earlier write, or to this one. -/
theorem Inv.update (h : Inv f s) {caller : User} {loaded command : SavedCommand π}
    (hsound : Sound s (.changing caller loaded command))
    (hcarries : ∀ r ∈ s.rows, r.id = loaded.id →
      f (patch loaded command r) = f r ∨ f (patch loaded command r) = f command) :
    Inv f { s with
      rows := Columns.update SavedCommand.id patch loaded command s.rows
      written := s.written ++ [⟨caller, command⟩] } := by
  obtain ⟨hpermitted, hid, -, howner⟩ := hsound
  have hkept : ∀ w ∈ s.written, w ∈ s.written ++ [⟨caller, command⟩] := fun w hw => List.mem_append_left _ hw
  refine h.follow ?_ hkept ?_ fun n => .inl rfl
  · rw [Columns.update, List.map_map]
    have hsame : (SavedCommand.id ∘ fun r => if r.id = loaded.id then patch loaded command r else r) =
        SavedCommand.id := by
      funext r
      dsimp only [Function.comp]
      split
      · rfl
      · rfl
    rw [hsame]
    exact h.ids
  · intro r hr
    rcases Columns.mem_update hr with hr | ⟨q, hq, hqid, rfl⟩
    · exact ⟨follows_of_mem hr, (h.traced r hr).follow hkept rfl (.inl rfl) rfl⟩
    · refine ⟨.inl ⟨q, hq, rfl, .inl rfl⟩, ?_⟩
      rcases hcarries q hq hqid with hold | hnew
      · exact (h.traced q hq).follow hkept rfl (.inl rfl) hold
      · exact ⟨_, List.mem_append_right _ (List.mem_singleton_self _),
          ⟨hid.trans hqid.symm, hpermitted, howner q hq hqid⟩, hnew.symm⟩

/-- A commit, when it carries the column. -/
theorem inv_commit (h : Inv f s) {n : Nat} (hcarries : Carries f s (.commit n))
    (hs : commit accepts s (s.phase n) = some s') : Inv f s' := by
  have hsound := h.requests n
  rw [Carries] at hcarries
  cases hphase : s.phase n with
  | creating caller command =>
    rw [hphase] at hsound hs
    rw [commit] at hs
    split at hs
    · cases hs
    · rename_i hnew
      split at hs
      · obtain rfl := Option.some.inj hs
        refine h.create hsound fun w hw hid => hnew (List.any_eq_true.mpr ⟨w, hw, beq_iff_eq.mpr hid⟩)
      · obtain rfl := Option.some.inj hs
        exact h
  -- A row that is gone, or that the database refuses, is no write.
  | changing caller loaded command =>
    rw [hphase] at hsound hs hcarries
    rw [commit] at hs
    split at hs
    · obtain rfl := Option.some.inj hs
      exact h
    · split at hs
      · obtain rfl := Option.some.inj hs
        exact h
      · split at hs
        · obtain rfl := Option.some.inj hs
          exact h.update hsound hcarries
        · obtain rfl := Option.some.inj hs
          exact h
  | deleting loaded =>
    rw [hphase] at hs
    obtain rfl := Option.some.inj hs
    exact h.rewrite id List.filter_sublist (fun _ => rfl) (fun _ => rfl) (fun _ => .inl rfl)
      (List.map_id _).symm rfl rfl
  | idle =>
    rw [hphase] at hs
    cases hs
  | begun caller request =>
    rw [hphase] at hs
    cases hs

theorem inv_step (hf : ∀ users r, f (disown users r) = f r) {l : Label π} (hcarries : Carries f s l)
    (hs : step accepts s l = some s') (h : Inv f s) : Inv f s' := by
  cases l with
  | begin n caller request =>
    rw [step] at hs
    split at hs
    · split at hs
      · obtain rfl := Option.some.inj hs
        exact h.set trivial
      · cases hs
    · cases hs
  | get n =>
    rw [step] at hs
    split at hs
    · obtain rfl := Option.some.inj hs
      exact h.set (h.handle_sound _ _)
    · cases hs
  | commit n =>
    obtain ⟨t, ht, rfl⟩ := Option.map_eq_some_iff.mp hs
    exact (inv_commit h hcarries ht).set trivial
  | abort n =>
    obtain rfl := Option.some.inj hs
    exact h.set trivial
  -- ON DELETE SET NULL: `created_by` becomes NULL, and no other column changes.
  | accounts users =>
    obtain rfl := Option.some.inj hs
    refine h.rewrite (disown users) (List.Sublist.refl _) (fun _ => rfl) (hf users) (fun r => ?_) rfl rfl rfl
    dsimp only [disown]
    cases r.createdBy with
    | none => exact .inl rfl
    | some u =>
      rw [Option.filter_some]
      split
      · exact .inl rfl
      · exact .inr rfl
  | devices devices =>
    obtain rfl := Option.some.inj hs
    exact h.rewrite id List.filter_sublist (fun _ => rfl) (fun _ => rfl) (fun _ => .inl rfl)
      (List.map_id _).symm rfl rfl

/-! ## Columns -/

theorem column_disown [DecidableEq α] (hf : Columns.Column patch f) (users : List User) (r : SavedCommand π) :
    f (disown users r) = f r := by
  refine hf.eq_of_write ?_
  rw [patch]
  simp only [Columns.merge, disown, if_true]

/-- A column is carried by every step. -/
theorem carries_column [DecidableEq α] (hf : Columns.Column patch f) (s : CommandLibrary π) (l : Label π) :
    Carries f s l := by
  cases l with
  | commit n =>
    rw [Carries]
    cases s.phase n with
    | changing caller loaded command => exact fun r _ _ => hf.eq_or_eq loaded command r
    | _ => trivial
  | _ => trivial

/-- **Every column** of a command was written by the owner of the row or by an administrator, in a write that
    makes the command global only if it is an administrator's.

    Column by column (`Dtsys.Lib.Columns`), since overlapping sessions write only the columns they have changed.  A
    row as a whole may be nobody's. -/
theorem columns_permitted {ls : List (Label π)} (hs : Run.exec (step accepts) init ls = some s)
    {r : SavedCommand π} (hr : r ∈ s.rows) [DecidableEq α] (hf : Columns.Column patch f) :
    ∃ w ∈ s.written, w.command.id = r.id ∧ f w.command = f r ∧
      (w.caller.role = "admin" ∨ w.command.createdBy = some w.caller.id) ∧
      (w.command.isGlobal = true → w.caller.role = "admin") ∧
      (r.createdBy = w.command.createdBy ∨ r.createdBy = none) := by
  have hinv : Inv f s := Run.exec_inv (fun _ _ _ hl => inv_step (column_disown hf) hl)
    ((Run.guarded_true ls init).imp fun s l _ => carries_column hf s l) hs inv_init
  obtain ⟨w, hw, hexplains, hsame⟩ := hinv.traced r hr
  exact ⟨w, hw, hexplains.id, hsame, hexplains.permitted.owner, hexplains.permitted.global, hexplains.createdBy⟩

/-- An administrator. -/
def admin : User := User.sample 1 "root" "admin"

/-- A user who is none. -/
def viewer : User := User.sample 2 "guest" "viewer"

/-- A body to run the model with. -/
def request (name command : String) (isGlobal : Bool)
    (h : 1 ≤ name.length ∧ name.length ≤ 120 := by decide) : SavedCommandRequest String where
  name := name
  commandType := "shell"
  payload := command
  isGlobal := isGlobal
  name_length := h
  description_length := by simp

/-- The viewer saves a command. -/
def saved : List (Label String) :=
  [.accounts [admin, viewer], .begin 0 viewer (.create 7 0 (request "disk" "df" false)), .get 0, .commit 0]

/-- An administrator publishes it. -/
def published : List (Label String) :=
  saved ++ [.begin 1 admin (.update 7 (request "disk" "df" true)), .get 1, .commit 1]

/-- The row that all see in the end. -/
def publishedRow : SavedCommand String := ⟨7, "disk", none, "shell", "df", some 2, none, true, 0⟩

theorem columns_permitted_published :
    ∃ s : CommandLibrary String, Run.exec (step fun _ => true) init published = some s ∧
      ∃ r ∈ s.rows, r.isGlobal = true ∧ ∃ w ∈ s.written, w.command.id = r.id ∧
        w.command.isGlobal = r.isGlobal ∧
        (w.caller.role = "admin" ∨ w.command.createdBy = some w.caller.id) ∧
        (w.command.isGlobal = true → w.caller.role = "admin") ∧
        (r.createdBy = w.command.createdBy ∨ r.createdBy = none) := by
  have hrun : Run.exec (step fun _ : SavedCommand String => true) init published = some _ := rfl
  exact ⟨_, hrun, _, .head _, rfl, columns_permitted hrun (.head _) fun _ _ _ => rfl⟩

/-! ## Whole rows -/

/-- The row is as the request has loaded it, if the request changes it at all. -/
def AsLoaded (rows : List (SavedCommand π)) : Phase π → Prop
  | .changing _ loaded command => command = loaded ∨ ∀ r ∈ rows, r.id = loaded.id → contents r = contents loaded
  | _ => True

instance (rows : List (SavedCommand π)) : ∀ p, Decidable (AsLoaded rows p)
  | .changing _ loaded command =>
    inferInstanceAs (Decidable (command = loaded ∨ ∀ r ∈ rows, r.id = loaded.id → contents r = contents loaded))
  | .idle | .begun .. | .creating .. | .deleting _ => inferInstanceAs (Decidable True)

/-- An UPDATE finds the row as the request has loaded it. -/
def Unmoved (s : CommandLibrary π) : Label π → Prop
  | .commit n => AsLoaded s.rows (s.phase n)
  | _ => True

instance (s : CommandLibrary π) : ∀ l : Label π, Decidable (Unmoved s l)
  | .commit _ => inferInstanceAs (Decidable (AsLoaded ..))
  | .begin .. | .get _ | .abort _ | .accounts _ | .devices _ => inferInstanceAs (Decidable True)

/-- A patch writes the contents as a whole. -/
theorem contents_patch {loaded command row : SavedCommand π} (h : contents row = contents loaded) :
    contents (patch loaded command row) = contents command := by
  simp only [contents, Contents.mk.injEq] at h ⊢
  obtain ⟨hname, hdescription, htype, hpayload, hdevice, hglobal⟩ := h
  have hcolumn : ∀ {β : Type} [DecidableEq β] {a b c : β}, c = a → Columns.merge a b c = b := by
    intro β _ a b c hc
    rw [Columns.merge, hc]
    split
    · exact Eq.symm ‹_›
    · rfl
  exact ⟨hcolumn hname, hcolumn hdescription, hcolumn htype, hcolumn hpayload, hcolumn hdevice, hcolumn hglobal⟩

/-- An instance that is as loaded changes no column. -/
theorem contents_patch_self (command row : SavedCommand π) :
    contents (patch command command row) = contents row := by
  simp only [contents, patch, Columns.merge, if_true]

/-- A commit over the row that was loaded carries the contents. -/
theorem carries_contents {l : Label π} (h : Unmoved s l) : Carries contents s l := by
  cases l with
  | commit n =>
    rw [Unmoved] at h
    rw [Carries]
    cases hphase : s.phase n with
    | changing caller loaded command =>
      rw [hphase, AsLoaded] at h
      intro r hr hid
      rcases h with rfl | hloaded
      · exact .inl (contents_patch_self command r)
      · exact .inr (contents_patch (hloaded r hr hid))
    | _ => trivial
  | _ => trivial

/-- **What a user is shown of others** is as an administrator has written it, where every UPDATE finds its row
    as it was loaded.

    Under `Unmoved` a commit finds its row as it was loaded, and the columns that are shown come from one write. -/
theorem shown_as_published {ls : List (Label π)} (hs : Run.exec (step accepts) init ls = some s)
    (hunmoved : Run.Guarded (step accepts) Unmoved init ls) {collate : String → String → Bool} {user : User}
    {c : SavedCommand π} (hc : c ∈ listSavedCommands collate user s.rows) (hother : c.createdBy ≠ some user.id) :
    ∃ w ∈ s.written, w.command.id = c.id ∧ contents w.command = contents c ∧ w.caller.role = "admin" := by
  have hinv : Inv contents s := Run.exec_inv (fun _ _ _ hl => inv_step (fun _ _ => rfl) hl)
    (hunmoved.imp fun _ _ => carries_contents) hs inv_init
  rw [listSavedCommands, List.mem_mergeSort, List.mem_filter] at hc
  obtain ⟨hmem, hvisible⟩ := hc
  obtain ⟨w, hw, hexplains, hsame⟩ := hinv.traced c hmem
  have hglobal : c.isGlobal = true := by
    rcases Bool.or_eq_true_iff.mp hvisible with howner | hglobal
    · exact absurd (beq_iff_eq.mp howner) hother
    · exact hglobal
  have hwritten : w.command.isGlobal = c.isGlobal := congrArg Contents.isGlobal hsame
  exact ⟨w, hw, hexplains.id, hsame, hexplains.permitted.global (hwritten.trans hglobal)⟩

theorem shown_as_published_published :
    ∃ s : CommandLibrary String, Run.exec (step fun _ => true) init published = some s ∧
      ∃ c ∈ listSavedCommands (fun _ _ => true) admin s.rows, ∃ w ∈ s.written, w.command.id = c.id ∧
        contents w.command = contents c ∧ w.caller.role = "admin" := by
  have hrun : Run.exec (step fun _ : SavedCommand String => true) init published = some _ := rfl
  have hunmoved : Run.Guarded (step fun _ : SavedCommand String => true) Unmoved init published := by
    decide
  have hshown : publishedRow ∈ listSavedCommands (fun _ _ => true) admin [publishedRow] := by
    rw [listSavedCommands, List.mem_mergeSort]
    exact List.mem_filter.mpr ⟨.head [], rfl⟩
  exact ⟨_, hrun, _, hshown, shown_as_published hrun hunmoved hshown (by decide)⟩

/-- The viewer has loaded the row before it is published, and writes it afterwards. -/
def overlapping : List (Label String) :=
  saved ++ [.begin 1 admin (.update 7 (request "disk" "df" true)), .get 1,
    .begin 2 viewer (.update 7 (request "disk" "reboot" false)), .get 2, .commit 1, .commit 2]

example : ∃ s : CommandLibrary String, Run.exec (step fun _ => true) init overlapping = some s ∧
    s.rows.map (fun r => (r.payload, r.isGlobal)) = [("reboot", true)] := ⟨_, rfl, rfl⟩

end CommandLibrary

end Dtsys
