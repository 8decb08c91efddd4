/-
  TWO ADMIN CHECKS: `get_current_user` with `require_admin`, and `_require_admin_sse` of the audit stream,
  that decodes the token, looks the user up and checks the role by itself.

  A token is a string, and what `jwt.decode` makes of it a dict of any values (`decode`); the claims of a
  token that the server has signed are those of `Accounts.Claims` (`requireAdmin_signed`).

  Both checks raise 401 until they have a subject.  A subject that is no UUID raises out of both.  With an
  id, the one looks for an active user and the other for any user: an administrator who has been
  deactivated is let in to the audit stream.  There is no other difference (`checks_agree_iff`).
-/
import Dtsys.Lib.Rows
import Dtsys.Server.Accounts
import Mathlib.Data.List.Nodup

namespace Dtsys

namespace AdminChecks

open Accounts (User oneOrNone)

section

variable (decode : String → Option (List (String × Json)))

/-- `decode_token`: a `JWTError` becomes a `ValueError`. -/
def decodeToken (token : String) : Except PyErr Json :=
  match decode token with
  | some claims => .ok (.obj claims)
  | none => .error .valueError

/-! ## `app/dependencies.py` -/

/-- `get_current_user` -/
def getCurrentUser (credentials : Option String) (users : List User) : Except PyErr User :=
  match credentials with
  | none => .error (unauthorizedError "Missing bearer token")
  | some token =>
    match decodeToken decode token with
    | .error _ => .error (unauthorizedError "Invalid or expired token")
    | .ok payload => do
      let type ← payload.get "type"
      if type.isStr "access" then
        let userId ← payload.get "sub"
        if userId.truthy then
          let id ← userId.toUuid
          let user ← oneOrNone (users.filter fun u => u.id == id && u.isActive)
          match user with
          | some user => pure user
          | none => .error (unauthorizedError "User not found")
        else .error (unauthorizedError "Unauthorized")
      else .error (unauthorizedError "Wrong token type")

/-- `require_admin` -/
def requireAdmin (credentials : Option String) (users : List User) : Except PyErr User := do
  let user ← getCurrentUser decode credentials users
  if user.role = "admin" then pure user else .error (.http 403 "Admin role required")

/-! ## `app/api/v1/audit.py` -/

/-- The `Authorization` header and the query parameter of a request for the stream. -/
structure SseRequest where
  authorization : Option String
  token : Option String

/-- The header is `Bearer …`. -/
def SseRequest.hasBearer (r : SseRequest) : Bool :=
  "Bearer ".toList.isPrefixOf (r.authorization.getD "").toList

/-- `raw_token` -/
def SseRequest.rawToken (r : SseRequest) : Option String :=
  if r.hasBearer then some (String.ofList ((r.authorization.getD "").toList.drop 7))
  else r.token.filter (· ≠ "")

/-- `_require_admin_sse` -/
def requireAdminSse (r : SseRequest) (users : List User) : Except PyErr Unit :=
  match r.rawToken.filter (· ≠ "") with
  | none => .error (.http 401 "Unauthorized")
  | some token =>
    match decodeToken decode token with
    | .error _ => .error (.http 401 "Invalid token")
    | .ok payload => do
      let type ← payload.get "type"
      if type.isStr "access" then
        let userId ← payload.get "sub"
        if userId.truthy then
          let id ← userId.toUuid
          let user ← oneOrNone (users.filter fun u => u.id == id)
          match user with
          | some user => if user.role = "admin" then pure () else .error (.http 403 "Admin required")
          | none => .error (.http 403 "Admin required")
        else .error (.http 401 "Unauthorized")
      else .error (.http 401 "Wrong token type")

/-! ## A token in a request -/

/-- What `HTTPBearer` makes of the header `Bearer {token}`. -/
def bearer (token : String) : Option String := (some token).filter (· ≠ "")

/-- The request has the token in its header, or in the query and no `Bearer` header. -/
def SseRequest.Bears (r : SseRequest) (token : String) : Prop :=
  r.authorization = some ("Bearer " ++ token) ∨ (r.hasBearer = false ∧ r.token = some token)

/-- Nothing is raised but a 401 or a 403. -/
def OnlyDenies {α : Type} (x : Except PyErr α) : Prop :=
  ∀ e, x = .error e → ∃ detail, e = .http 401 detail ∨ e = .http 403 detail

/-- The checks agree on a token: they let the same requests in, and refuse the others with 401 or 403. -/
structure ChecksAgree (users : List User) (token : String) : Prop where
  lets : ∀ r : SseRequest, r.Bears token →
    (requireAdminSse decode r users = .ok () ↔
      ∃ user, requireAdmin decode (bearer token) users = .ok user)
  sse : ∀ r : SseRequest, r.Bears token → OnlyDenies (requireAdminSse decode r users)
  dependency : OnlyDenies (requireAdmin decode (bearer token) users)

/-- The subject of an access token that is valid. -/
def subject (token : String) : Option Json :=
  if token = "" then none
  else (decode token).bind fun claims =>
    if ((claims.lookup "type").getD .null).isStr "access" then
      some ((claims.lookup "sub").getD .null) |>.filter Json.truthy
    else none

/-- The subject is no UUID. -/
def MalformedSubject (token : String) : Prop :=
  ∃ v e, subject decode token = some v ∧ v.toUuid = .error e

/-- The subject is an administrator who is not active. -/
def InactiveAdmin (users : List User) (token : String) : Prop :=
  ∃ v, subject decode token = some v ∧
    ∃ u ∈ users, v.toUuid = .ok u.id ∧ u.isActive = false ∧ u.role = "admin"

end

/-! ## Up to the subject -/

variable {decode : String → Option (List (String × Json))} {users : List User} {token : String}
  {r : SseRequest}

theorem bearer_of_ne (hne : token ≠ "") : bearer token = some token := by
  simp [bearer, hne]

/-- The token of the request, in the header or in the URL. -/
theorem rawToken_of_bears (h : r.Bears token) : r.rawToken.filter (· ≠ "") = bearer token := by
  rcases h with h | ⟨hnone, h⟩
  · have hbearer : r.hasBearer = true := by
      rw [SseRequest.hasBearer, h, Option.getD_some, String.toList_append]
      exact List.isPrefixOf_iff_prefix.mpr (List.prefix_append _ _)
    have hdrop : ("Bearer " ++ token).toList.drop 7 = token.toList := by
      rw [String.toList_append]
      rfl
    rw [SseRequest.rawToken, if_pos hbearer, h, Option.getD_some, hdrop, String.ofList_toList]
    rfl
  · rw [SseRequest.rawToken, bearer, hnone, h]
    simp

/-- A token without a subject: it is no token of the server, no access token, or has no subject in it. -/
theorem decoded_of_no_subject (hempty : token ≠ "") (h : subject decode token = none) :
    decodeToken decode token = .error .valueError ∨
      ∃ claims, decodeToken decode token = .ok (.obj claims) ∧
        (((claims.lookup "type").getD .null).isStr "access" = false ∨
          ((claims.lookup "sub").getD .null).truthy = false) := by
  rw [subject, if_neg hempty] at h
  rw [decodeToken]
  cases hdecode : decode token with
  | none => exact .inl rfl
  | some claims =>
    refine .inr ⟨claims, rfl, ?_⟩
    rw [hdecode, Option.bind_some] at h
    split at h
    · right
      simpa using h
    · next htype => exact .inl (Bool.eq_false_iff.mpr htype)

/-- What the subject of a token is. -/
theorem subject_eq_some {v : Json} (h : subject decode token = some v) :
    token ≠ "" ∧ ∃ claims, decode token = some claims ∧
      ((claims.lookup "type").getD .null).isStr "access" = true ∧
      (claims.lookup "sub").getD .null = v ∧ v.truthy = true := by
  rw [subject] at h
  split at h
  · cases h
  · next hempty =>
    refine ⟨hempty, ?_⟩
    cases hdecode : decode token with
    | none =>
      rw [hdecode] at h
      cases h
    | some claims =>
      rw [hdecode, Option.bind_some] at h
      split at h
      · next htype =>
        obtain ⟨hsub, htruthy⟩ := Option.filter_eq_some_iff.mp h
        cases hsub
        exact ⟨claims, rfl, htype, rfl, htruthy⟩
      · cases h

/-- Without a subject there is a 401 from both. -/
theorem sse_unauthorized (users : List User) (h : r.Bears token) (hsubject : subject decode token = none) :
    ∃ detail, requireAdminSse decode r users = .error (.http 401 detail) := by
  rw [requireAdminSse, rawToken_of_bears h]
  by_cases hempty : token = ""
  · rw [hempty]
    exact ⟨_, rfl⟩
  · rw [bearer_of_ne hempty]
    dsimp only
    rcases decoded_of_no_subject hempty hsubject with hcase | ⟨claims, hcase, htype | hsub⟩
    · rw [hcase]
      exact ⟨_, rfl⟩
    · rw [hcase]
      simp only [Json.get, bind, Except.bind, htype]
      exact ⟨_, rfl⟩
    · rw [hcase]
      simp only [Json.get, bind, Except.bind, hsub]
      split
      · exact ⟨_, rfl⟩
      · exact ⟨_, rfl⟩

/-- Without a subject the dependency refuses the token with a 401. -/
theorem dependency_unauthorized (users : List User) (hsubject : subject decode token = none) :
    ∃ detail, requireAdmin decode (bearer token) users = .error (.http 401 detail) := by
  have huser : ∃ detail, getCurrentUser decode (bearer token) users = .error (.http 401 detail) := by
    unfold getCurrentUser
    by_cases hempty : token = ""
    · rw [hempty]
      exact ⟨_, rfl⟩
    · rw [bearer_of_ne hempty]
      dsimp only
      rcases decoded_of_no_subject hempty hsubject with hcase | ⟨claims, hcase, htype | hsub⟩
      · rw [hcase]
        exact ⟨_, rfl⟩
      · rw [hcase]
        simp only [Json.get, bind, Except.bind, htype]
        exact ⟨_, rfl⟩
      · rw [hcase]
        simp only [Json.get, bind, Except.bind, hsub]
        split
        · exact ⟨_, rfl⟩
        · exact ⟨_, rfl⟩
  obtain ⟨detail, hdetail⟩ := huser
  rw [requireAdmin, hdetail]
  exact ⟨detail, rfl⟩

/-! ## With a subject -/

/-- What the SSE check does with a subject. -/
def checkAny (users : List User) (v : Json) : Except PyErr Unit := do
  let id ← v.toUuid
  let user ← oneOrNone (users.filter fun u => u.id == id)
  match user with
  | some user => if user.role = "admin" then pure () else .error (.http 403 "Admin required")
  | none => .error (.http 403 "Admin required")

/-- What the dependencies do with a subject. -/
def checkActive (users : List User) (v : Json) : Except PyErr User := do
  let id ← v.toUuid
  let user ← oneOrNone (users.filter fun u => u.id == id && u.isActive)
  match user with
  | some user => if user.role = "admin" then pure user else .error (.http 403 "Admin role required")
  | none => .error (unauthorizedError "User not found")

/-- With one, the stream looks for its user. -/
theorem sse_subject (h : r.Bears token) {v : Json} (hsubject : subject decode token = some v) :
    requireAdminSse decode r users = checkAny users v := by
  obtain ⟨hempty, claims, hdecode, htype, rfl, htruthy⟩ := subject_eq_some hsubject
  have hbearer := bearer_of_ne hempty
  unfold requireAdminSse decodeToken
  rw [rawToken_of_bears h, hbearer]
  dsimp only
  rw [hdecode]
  simp only [Json.get, bind, Except.bind, htype, htruthy, if_true]
  rfl

/-- And the dependency does, too, for an active one. -/
theorem dependency_subject {v : Json} (hsubject : subject decode token = some v) :
    requireAdmin decode (bearer token) users = checkActive users v := by
  obtain ⟨hempty, claims, hdecode, htype, rfl, htruthy⟩ := subject_eq_some hsubject
  have hbearer := bearer_of_ne hempty
  unfold requireAdmin getCurrentUser decodeToken
  rw [hbearer]
  dsimp only
  rw [hdecode]
  simp only [Json.get, bind, Except.bind, htype, htruthy, if_true]
  rw [checkActive]
  cases ((claims.lookup "sub").getD .null).toUuid with
  | error e => rfl
  | ok id =>
    simp only [bind, Except.bind]
    cases oneOrNone (users.filter fun u => u.id == id && u.isActive) with
    | error e => rfl
    | ok user =>
      cases user with
      | none => rfl
      | some user => rfl

/-- The row of an id, for either check. -/
theorem lookup_cases (hkey : (users.map User.id).Nodup) (id : Uuid) :
    ((∀ u ∈ users, u.id ≠ id) ∧ (users.filter fun u => u.id == id) = [] ∧
        (users.filter fun u => u.id == id && u.isActive) = []) ∨
      ∃ u ∈ users, u.id = id ∧ (users.filter fun u => u.id == id) = [u] ∧
        (users.filter fun u => u.id == id && u.isActive) = if u.isActive then [u] else [] := by
  have hsplit : (users.filter fun u => u.id == id && u.isActive) =
      (users.filter fun u => u.id == id).filter fun u => u.isActive := by
    rw [List.filter_filter]
    exact List.filter_congr fun u _ => Bool.and_comm _ _
  rw [hsplit]
  by_cases hin : id ∈ users.map User.id
  · obtain ⟨u, hu, rfl⟩ := List.mem_map.mp hin
    refine .inr ⟨u, hu, rfl, Rows.filter_key hkey hu, ?_⟩
    rw [Rows.filter_key hkey hu]
    cases hactive : u.isActive with
    | true => simp [hactive]
    | false => simp [hactive]
  · refine .inl ⟨fun u hu hid => hin (List.mem_map.mpr ⟨u, hu, hid⟩), Rows.filter_key_eq_nil hin, ?_⟩
    rw [Rows.filter_key_eq_nil hin]
    rfl

/-- What passes is not denied. -/
theorem onlyDenies_ok {α : Type} (a : α) : OnlyDenies (.ok a : Except PyErr α) := fun _ h => nomatch h

theorem onlyDenies_http {α : Type} {status : Nat} {detail : String}
    (h : status = 401 ∨ status = 403) :
    OnlyDenies (.error (.http status detail) : Except PyErr α) := by
  rintro _ ⟨⟩
  rcases h with rfl | rfl
  · exact ⟨detail, .inl rfl⟩
  · exact ⟨detail, .inr rfl⟩

/-- Neither check lets the request in. -/
theorem both_refuse (e e' : PyErr) :
    (Except.error e : Except PyErr Unit) = .ok () ↔
      ∃ user, (Except.error e' : Except PyErr User) = .ok user := by
  constructor
  · rintro ⟨⟩
  · rintro ⟨_, ⟨⟩⟩

/-- Both checks on the id of a subject: they let the same users in, but for administrators who are not
    active. -/
theorem check_cases (hkey : (users.map User.id).Nodup) {v : Json} {id : Uuid}
    (hid : v.toUuid = .ok id) :
    OnlyDenies (checkAny users v) ∧ OnlyDenies (checkActive users v) ∧
      ((checkAny users v = .ok () ↔ ∃ user, checkActive users v = .ok user) ↔
        ¬ ∃ u ∈ users, u.id = id ∧ u.isActive = false ∧ u.role = "admin") := by
  rw [checkAny, checkActive]
  simp only [hid, bind, Except.bind]
  rcases lookup_cases hkey id with ⟨hnone, hany, hactive⟩ | ⟨u, hu, rfl, hany, hactive⟩
  · rw [hany, hactive]
    refine ⟨onlyDenies_http (.inr rfl), onlyDenies_http (.inl rfl), ?_⟩
    refine ⟨fun _ => ?_, fun _ => both_refuse _ _⟩
    rintro ⟨u, hu, heq, -⟩
    exact hnone u hu heq
  · rw [hany, hactive]
    have hsole : ∀ u' ∈ users, u'.id = u.id → u' = u := fun u' hu' heq =>
      List.inj_on_of_nodup_map hkey hu' hu heq
    -- The two checks differ on `is_active` alone, and only for an administrator does it show.
    by_cases hrole : u.role = "admin"
    · cases hcase : u.isActive with
      | true =>
        simp only [oneOrNone, if_pos hrole, if_true]
        refine ⟨onlyDenies_ok _, onlyDenies_ok _, fun _ => ?_, fun _ => ?_⟩
        · rintro ⟨u', hu', heq, hinactive, -⟩
          rw [hsole u' hu' heq, hcase] at hinactive
          cases hinactive
        · exact ⟨fun _ => ⟨u, rfl⟩, fun _ => rfl⟩
      | false =>
        simp only [oneOrNone, if_pos hrole]
        refine ⟨onlyDenies_ok _, onlyDenies_http (.inl rfl), fun hiff => ?_, fun hno => ?_⟩
        · obtain ⟨user, huser⟩ := hiff.mp rfl
          cases huser
        · exact (hno ⟨u, hu, rfl, hcase, hrole⟩).elim
    · have hother : ¬ ∃ u' ∈ users, u'.id = u.id ∧ u'.isActive = false ∧ u'.role = "admin" := by
        rintro ⟨u', hu', heq, -, hadmin⟩
        exact hrole (hsole u' hu' heq ▸ hadmin)
      cases hcase : u.isActive with
      | true =>
        simp only [oneOrNone, if_neg hrole, if_true]
        refine ⟨onlyDenies_http (.inr rfl), onlyDenies_http (.inr rfl), fun _ => hother,
          fun _ => both_refuse _ _⟩
      | false =>
        simp only [oneOrNone, if_neg hrole]
        refine ⟨onlyDenies_http (.inr rfl), onlyDenies_http (.inl rfl), fun _ => hother,
          fun _ => both_refuse _ _⟩

/-- `uuid.UUID` raises what is no `HTTPException`. -/
theorem toUuid_error {v : Json} {e : PyErr} (h : v.toUuid = .error e) :
    e = .valueError ∨ e = .attributeError := by
  unfold Json.toUuid at h
  split at h
  · split at h
    · cases h
    · cases h
      exact .inl rfl
  · cases h
    exact .inr rfl

/-- A request for every token. -/
theorem bears_header (token : String) : SseRequest.Bears ⟨some ("Bearer " ++ token), none⟩ token :=
  .inl rfl

/-- Without a subject both checks answer 401. -/
theorem agree_of_no_subject (users : List User) (hsubject : subject decode token = none) :
    ChecksAgree decode users token := by
  obtain ⟨detail, hdependency⟩ := dependency_unauthorized users hsubject
  refine ⟨fun r hr => ?_, fun r hr => ?_, ?_⟩
  · obtain ⟨detail', hsse⟩ := sse_unauthorized users hr hsubject
    rw [hsse, hdependency]
    exact both_refuse _ _
  · obtain ⟨detail', hsse⟩ := sse_unauthorized users hr hsubject
    rw [hsse]
    exact onlyDenies_http (.inl rfl)
  · rw [hdependency]
    exact onlyDenies_http (.inl rfl)

/-- A subject that is no UUID raises out of the dependencies. -/
theorem not_malformed_of_agree (h : ChecksAgree decode users token) :
    ¬ MalformedSubject decode token := by
  rintro ⟨v, e, hsubject, hid⟩
  have hraise : checkActive users v = .error e := by
    rw [checkActive, hid]
    rfl
  have hdenies := h.dependency
  rw [dependency_subject hsubject, hraise] at hdenies
  obtain ⟨detail, hdetail⟩ := hdenies e rfl
  rcases toUuid_error hid with rfl | rfl
  · rcases hdetail with h | h
    · cases h
    · cases h
  · rcases hdetail with h | h
    · cases h
    · cases h

/-- With the id of a subject, everything depends on the user who has it. -/
theorem agree_iff_of_id (hkey : (users.map User.id).Nodup) {v : Json} {id : Uuid}
    (hsubject : subject decode token = some v) (hid : v.toUuid = .ok id) :
    ChecksAgree decode users token ↔
      ¬ ∃ u ∈ users, u.id = id ∧ u.isActive = false ∧ u.role = "admin" := by
  obtain ⟨hsse, hdependency, hlets⟩ := check_cases hkey hid
  constructor
  · intro h
    have hiff := h.lets _ (bears_header token)
    rw [sse_subject (bears_header token) hsubject, dependency_subject hsubject] at hiff
    exact hlets.mp hiff
  · intro hno
    refine ⟨fun r hr => ?_, fun r hr => ?_, ?_⟩
    · rw [sse_subject hr hsubject, dependency_subject hsubject]
      exact hlets.mpr hno
    · rw [sse_subject hr hsubject]
      exact hsse
    · rw [dependency_subject hsubject]
      exact hdependency

/-- **The two admin checks** agree on a token if and only if its subject is a UUID, and that of no
    administrator who is not active.

    `require_admin_sse` looks the user up by id and role and does not ask for `is_active`, and a subject that is no
    UUID raises in both.  All other tokens are answered alike, with the same error. -/
theorem checks_agree_iff (hkey : (users.map User.id).Nodup)
    (decode : String → Option (List (String × Json))) (token : String) :
    ChecksAgree decode users token ↔
      ¬ MalformedSubject decode token ∧ ¬ InactiveAdmin decode users token := by
  cases hsubject : subject decode token with
  | none =>
    refine iff_of_true (agree_of_no_subject users hsubject) ⟨?_, ?_⟩
    · rintro ⟨v, e, hv, -⟩
      rw [hsubject] at hv
      cases hv
    · rintro ⟨v, hv, -⟩
      rw [hsubject] at hv
      cases hv
  | some v =>
    have hv : ∀ v', subject decode token = some v' → v' = v := fun v' h =>
      Option.some.inj (h.symm.trans hsubject)
    cases hid : v.toUuid with
    | error e =>
      have hbad : MalformedSubject decode token := ⟨v, e, hsubject, hid⟩
      exact iff_of_false (fun h => not_malformed_of_agree h hbad) (fun h => h.1 hbad)
    | ok id =>
      have hgood : ¬ MalformedSubject decode token := by
        rintro ⟨v', e, hv', he⟩
        rw [hv v' hv', hid] at he
        cases he
      have hinactive : InactiveAdmin decode users token ↔
          ∃ u ∈ users, u.id = id ∧ u.isActive = false ∧ u.role = "admin" := by
        constructor
        · rintro ⟨v', hv', u, hu, huid, hrest⟩
          rw [hv v' hv', hid] at huid
          exact ⟨u, hu, (Except.ok.inj huid).symm, hrest⟩
        · rintro ⟨u, hu, rfl, hrest⟩
          exact ⟨v, hsubject, u, hu, hid, hrest⟩
      rw [agree_iff_of_id hkey hsubject hid, hinactive]
      exact (and_iff_right hgood).symm

/-! ## Tokens the server has signed -/

/-- The `type` claim of a token. -/
def typeClaim : Accounts.TokenType → String
  | .access => "access"
  | .refresh => "refresh"

/-- `null` for `None`. -/
def optionalClaim (s : Option String) : Json := (s.map Json.str).getD .null

/-- The dict that `create_access_token` and `create_refresh_token` sign. -/
def signedClaims (c : Accounts.Claims) : List (String × Json) :=
  [("sub", .str c.sub.str), ("exp", .int c.exp), ("type", .str (typeClaim c.type))] ++
    match c.type with
    | .access =>
      [("role", optionalClaim c.role), ("username", optionalClaim c.username),
        ("org_id", optionalClaim (c.orgId.map Uuid.str))]
    | .refresh => []

/-- The text of an id is a subject. -/
theorem str_truthy (u : Uuid) : (Json.str u.str).truthy = true := by
  have hne : u.str ≠ "" := by
    intro h
    have hparse := Uuid.parse_str u
    rw [h] at hparse
    cases hparse
  exact bne_iff_ne.mpr hne

/-- A uuid is read back from its text. -/
theorem toUuid_str (u : Uuid) : (Json.str u.str).toUuid = .ok u := by
  simp only [Json.toUuid, Uuid.parse_str]

theorem signed_type (c : Accounts.Claims) :
    (signedClaims c).lookup "type" = some (.str (typeClaim c.type)) := rfl

theorem signed_sub (c : Accounts.Claims) :
    (signedClaims c).lookup "sub" = some (.str c.sub.str) := rfl

/-- A token the server has signed has a subject that is a UUID, if it has one. -/
theorem signed_not_malformed {c : Accounts.Claims} (h : decode token = some (signedClaims c)) :
    ¬ MalformedSubject decode token := by
  rintro ⟨v, e, hv, he⟩
  obtain ⟨-, claims, hdecode, -, hsub, -⟩ := subject_eq_some hv
  rw [h] at hdecode
  cases hdecode
  rw [signed_sub, Option.getD_some] at hsub
  rw [← hsub, toUuid_str] at he
  cases he

section

variable {K : Type} [Field K] [LinearOrder K] [FloorRing K]

/-- On the tokens of `Accounts`, `requireAdmin` is the one of `Accounts`. -/
theorem requireAdmin_signed (A : Accounts.AuthEnv String) (now : K)
    (hdecode : ∀ token, decode token = (Accounts.decodeToken A now token).map signedClaims)
    (s : Accounts) (credentials : Option String) :
    requireAdmin decode credentials s.users = (Accounts.requireAdmin A now credentials s).1 := by
  cases credentials with
  | none => rfl
  | some token =>
    unfold requireAdmin Accounts.requireAdmin getCurrentUser Accounts.getCurrentUser decodeToken
    dsimp only
    rw [hdecode]
    cases Accounts.decodeToken A now token with
    | none => rfl
    | some c =>
      simp only [Option.map_some, Json.get, signed_type, signed_sub, Option.getD_some, bind, Except.bind]
      cases htype : c.type with
      | refresh => rfl
      | access =>
        have haccess : (Json.str (typeClaim .access)).isStr "access" = true := rfl
        have hrows : Accounts.activeUsers c.sub s =
            s.users.filter fun u => u.id == c.sub && u.isActive := rfl
        simp only [str_truthy, toUuid_str, if_true, haccess, Act.bind, Act.read, Act.ofExcept, hrows]
        cases oneOrNone (s.users.filter fun u => u.id == c.sub && u.isActive) with
        | error e => rfl
        | ok found =>
          cases found with
          | none => rfl
          | some user =>
            by_cases hrole : user.role = "admin"
            · simp [Accounts.require, hrole, pure, Except.pure]
            · simp [Accounts.require, hrole, pure, Except.pure, Act.raise]

end

/-! ## An administrator -/

/-- A token of the user with the id 1. -/
def aliceToken (token : String) : Option (List (String × Json)) :=
  if token = "alice" then some (signedClaims (.accessOf 1)) else none

/-- A token of an active administrator. -/
theorem checks_agree_alice : ChecksAgree aliceToken [.sample 1 "alice" "admin"] "alice" := by
  have hkey : ([Accounts.User.sample 1 "alice" "admin"].map User.id).Nodup := List.nodup_singleton _
  refine (checks_agree_iff hkey aliceToken "alice").mpr ⟨signed_not_malformed rfl, ?_⟩
  rintro ⟨v, -, u, hu, -, hinactive, -⟩
  obtain rfl := List.mem_singleton.mp hu
  cases hinactive

/-- An administrator who has been deactivated is let in to the audit stream. -/
theorem deactivated_admitted :
    ¬ ChecksAgree aliceToken [{ Accounts.User.sample 1 "alice" "admin" with isActive := false }]
      "alice" := by
  intro h
  have hsse : requireAdminSse aliceToken ⟨some "Bearer alice", none⟩
      [{ Accounts.User.sample 1 "alice" "admin" with isActive := false }] = .ok () := by decide +kernel
  obtain ⟨user, huser⟩ := (h.lets _ (bears_header "alice")).mp hsse
  have hdependency : requireAdmin aliceToken (bearer "alice")
      [{ Accounts.User.sample 1 "alice" "admin" with isActive := false }] =
        .error (unauthorizedError "User not found") := by decide +kernel
  rw [hdependency] at huser
  cases huser

end AdminChecks

end Dtsys
