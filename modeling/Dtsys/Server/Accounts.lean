/-
  ACCOUNTS: users, organizations and memberships, the tokens a user holds, and the requests of
  `app/api/v1/auth.py` (`app/core/security.py`, `app/services/auth_service.py`,
  `app/dependencies.py`).

  A request is ONE transaction here: it returns and its changes stay, or it raises and
  `transaction` takes them back.  Requests follow each other; a request a limiter or the database
  refuses leaves no trace and is one that is not made.

  * Time is an ordered field with a floor, so that the fraction of a second is there: jose compares
    whole seconds, `time.time()` does not.  One request reads one time.
  * `Jose τ` is the token library: strings `τ`, and claims.  It checks the signature; whether a
    token has expired is decided here (`decodeToken`).
  * `AuthEnv` is what the requests get from outside the repository: tokens, `bcrypt.checkpw`,
    `str.strip().lower()` on Unicode strings, and the two lifetimes of `app/config.py`.
-/
import Dtsys.Lib.Act
import Dtsys.Server.Models
import Mathlib.Algebra.Order.Field.Basic
import Mathlib.Algebra.Order.Floor.Ring
import Mathlib.Logic.Function.Basic

namespace Dtsys

/-- `UnauthorizedError(detail)` of `app/core/exceptions.py`. -/
def unauthorizedError (detail : String) : PyErr := .http 401 detail

/-! ## Tables -/

namespace Accounts

/-- `app/models/user.py`. -/
structure User where
  id : Uuid
  username : String
  passwordHash : String
  role : String
  isActive : Bool
  activeOrgId : Option Uuid
  deriving DecidableEq, Repr

/-- `app/models/organization.py`. -/
structure Organization where
  id : Uuid
  name : String
  slug : String
  ownerId : Option Uuid
  deriving DecidableEq, Repr

/-- `app/models/organization.py`, the membership rows; `role` is owner|admin|member. -/
structure OrganizationMember where
  orgId : Uuid
  userId : Uuid
  role : String
  deriving DecidableEq, Repr

end Accounts

/-- The tables the account requests read and write. -/
structure Accounts where
  users : List Accounts.User
  organizations : List Accounts.Organization
  members : List Accounts.OrganizationMember
  devices : List Device

namespace Accounts

/-! ## Tokens -/

/-- The `type` of a token. -/
inductive TokenType where
  | access
  | refresh
  deriving DecidableEq, Repr

/-- The claims of a token the server has signed; the last three are those of an access token. -/
structure Claims where
  sub : Uuid
  exp : Int
  type : TokenType
  role : Option String := none
  username : Option String := none
  orgId : Option Uuid := none
  deriving DecidableEq, Repr

/-- `jose.jwt` with the server's key: what was signed is found again. -/
structure Jose (τ : Type) where
  encode : Claims → τ
  verify : τ → Option Claims
  verify_encode : ∀ c, verify (encode c) = some c

/-- What the account handlers are run with. -/
structure AuthEnv (τ : Type) where
  jose : Jose τ
  verifyPassword : String → String → Bool
  stripLower : String → String
  accessTokenExpireMinutes : Nat
  refreshTokenExpireDays : Nat

/-- Tokens that are their own claims, to run the model with. -/
def AuthEnv.sample : AuthEnv Claims where
  jose := ⟨id, some, fun _ => rfl⟩
  verifyPassword := fun password hash => password == hash
  stripLower := fun s => s
  accessTokenExpireMinutes := 60
  refreshTokenExpireDays := 30

/-- A user to run the model with. -/
def User.sample (id : Uuid) (username role : String) : User where
  id := id
  username := username
  passwordHash := "hash"
  role := role
  isActive := true
  activeOrgId := none

/-- An access token of the user. -/
def Claims.accessOf (id : Uuid) : Claims := { sub := id, exp := 3600, type := .access }

/-- What a login, a refresh and a switch of the organization return. -/
structure Tokens (τ : Type) where
  accessToken : τ
  refreshToken : τ
  deriving DecidableEq, Repr

/-- The state: the tables, and `revoked:refresh:{token}` in Redis with the end of its life. -/
structure Auth (τ K : Type) where
  accounts : Accounts
  revoked : τ → Option K

/-- A request: its changes stay if it returns. -/
def transaction {σ α : Type} (x : Act σ PyErr α) : Act σ PyErr α := fun s =>
  match x s with
  | (.ok a, s') => (.ok a, s')
  | (.error e, _) => (.error e, s)

/-- What is committed was done. -/
theorem transaction_of_ok {σ α : Type} {x : Act σ PyErr α} {s t : σ} {a : α}
    (h : transaction x s = (.ok a, t)) : x s = (.ok a, t) := by
  rw [transaction] at h
  rcases hx : x s with ⟨e | b, u⟩
  · rw [hx] at h
    cases h
  · rw [hx] at h
    exact h

/-- A request that raised has changed nothing. -/
theorem transaction_of_error {σ α : Type} {x : Act σ PyErr α} {s t : σ} {e : PyErr}
    (h : transaction x s = (.error e, t)) : t = s := by
  rw [transaction] at h
  rcases hx : x s with ⟨e' | b, u⟩
  · rw [hx] at h
    exact (Prod.mk.inj h).2.symm
  · rw [hx] at h
    cases h

/-- `if not c: raise e`. -/
def require {σ : Type} (c : Prop) [Decidable c] (e : PyErr) : Act σ PyErr Unit :=
  if c then pure () else Act.raise e

theorem ok_of_require {σ α : Type} {c : Prop} [Decidable c] {e : PyErr} {f : Unit → Act σ PyErr α}
    {s t : σ} {a : α} (h : (require c e >>= f) s = (.ok a, t)) : c ∧ f () s = (.ok a, t) := by
  by_cases hc : c
  · rw [require, if_pos hc] at h
    exact ⟨hc, h⟩
  · rw [require, if_neg hc] at h
    cases h

theorem require_ok {σ : Type} {c : Prop} [Decidable c] {e : PyErr} {s t : σ}
    (h : require c e s = (.ok (), t)) : c ∧ s = t := by
  by_cases hc : c
  · rw [require, if_pos hc] at h
    exact ⟨hc, (Prod.mk.inj h).2⟩
  · rw [require, if_neg hc] at h
    cases h

/-- A computation that only reads. -/
def readOnly {σ : Type} : Act.Frame σ where
  rel s t := t = s
  refl _ := rfl
  trans h h' := h'.trans h

/-- `scalar_one_or_none()`. -/
def oneOrNone {α : Type} : List α → Except PyErr (Option α)
  | [] => .ok none
  | [a] => .ok (some a)
  | _ => .error .multipleResultsFound

theorem oneOrNone_eq_some {α : Type} {rows : List α} {a : α} (h : oneOrNone rows = .ok (some a)) :
    rows = [a] := by
  rcases rows with _ | ⟨b, _ | ⟨c, rest⟩⟩
  · cases h
  · cases h
    rfl
  · cases h

/-- The row that was found is one of those selected. -/
theorem mem_of_oneOrNone {α : Type} {p : α → Bool} {l : List α} {a : α}
    (h : oneOrNone (l.filter p) = .ok (some a)) : a ∈ l ∧ p a = true := by
  have hmem : a ∈ l.filter p := by
    rw [oneOrNone_eq_some h]
    exact List.mem_singleton_self a
  exact List.mem_filter.mp hmem

/-- A query for one row that found one. -/
theorem ok_of_one {σ α β : Type} {f : σ → List α} {g : Option α → Act σ PyErr β} {s t : σ} {b : β}
    (h : (Act.read f >>= fun rows => Act.ofExcept (oneOrNone rows) >>= g) s = (.ok b, t)) :
    ∃ found, oneOrNone (f s) = .ok found ∧ g found s = (.ok b, t) :=
  Act.ok_of_ofExcept (f := g) (x := oneOrNone (f s)) h

/-- There is one row, and it is of this kind. -/
def Sole {α : Type} (rows : List α) (p : α → Prop) : Prop := ∃ a, rows = [a] ∧ p a

instance {α : Type} (p : α → Prop) [DecidablePred p] : ∀ rows : List α, Decidable (Sole rows p)
  | [] => isFalse fun ⟨_, h, _⟩ => nomatch h
  | [a] => decidable_of_iff (p a)
    ⟨fun h => ⟨a, rfl, h⟩, fun ⟨_, h, hp⟩ => (List.singleton_inj.mp h) ▸ hp⟩
  | _ :: _ :: _ => isFalse fun ⟨_, h, _⟩ => nomatch h

theorem oneOrNone_eq_none {α : Type} {rows : List α} (h : oneOrNone rows = .ok none) :
    rows = [] := by
  rcases rows with _ | ⟨b, _ | ⟨c, rest⟩⟩
  · rfl
  · cases h
  · cases h

section

variable {τ K : Type} [Field K] [LinearOrder K] [FloorRing K] (A : AuthEnv τ) (v : K)

/-! ## `app/core/security.py` -/

/-- The `exp` of a token made now: the encoder keeps whole seconds. -/
def expireAfter (secs : Nat) : Int := ⌊v + secs⌋

/-- `create_access_token`. -/
def createAccessToken (subject : Uuid) (role username : String) (orgId : Option Uuid) : τ :=
  A.jose.encode
    { sub := subject, exp := expireAfter v (A.accessTokenExpireMinutes * 60), type := .access,
      role := some role, username := some username, orgId := orgId }

/-- `create_refresh_token`. -/
def createRefreshToken (subject : Uuid) : τ :=
  A.jose.encode
    { sub := subject, exp := expireAfter v (A.refreshTokenExpireDays * 86400), type := .refresh }

/-- `decode_token`; `none` is the `ValueError`. -/
def decodeToken (token : τ) : Option Claims :=
  (A.jose.verify token).filter fun c => decide (⌊v⌋ ≤ c.exp)

/-- `decode_token`: the signature is good, and the token has not expired. -/
theorem decodeToken_eq_some {A : AuthEnv τ} {v : K} {token : τ} {c : Claims} :
    decodeToken A v token = some c ↔ A.jose.verify token = some c ∧ ⌊v⌋ ≤ c.exp := by
  rw [decodeToken, Option.filter_eq_some_iff, decide_eq_true_eq]

/-! ## `AuthService` -/

/-- What the directory says of a user name and a password: `authenticate_ldap` answers `None` (not
    enabled, no such entry, wrong password, an exception inside), the role of the user's groups, or
    raises (the service account cannot bind). -/
inductive LdapAnswer where
  | none
  | role (admin : Bool)
  | raises
  deriving DecidableEq, Repr

/-- Rows of `users` with an id, active ones only. -/
def activeUsers (id : Uuid) (s : Accounts) : List User :=
  s.users.filter fun u => u.id == id && u.isActive

/-- Set columns of the user with an id. -/
def setUser (id : Uuid) (f : User → User) (s : Accounts) : Accounts :=
  { s with users := s.users.map fun u => if u.id = id then f u else u }

/-- `authenticate_ldap`: the role follows the directory, an unknown user is made. -/
def authenticateLdap (username : String) (answer : LdapAnswer) (id : Uuid) (hash : String) :
    Act Accounts PyErr (Option User) :=
  match answer with
  | .none => pure none
  | .raises => Act.raise .runtimeError
  | .role admin => do
    let role := if admin then "admin" else "viewer"
    let rows ← Act.read fun s => s.users.filter fun u => u.username == username
    let user ← Act.ofExcept (oneOrNone rows)
    match user with
    | Option.none => do
      let user : User := ⟨id, username, hash, role, true, Option.none⟩
      let taken ← Act.read fun s => s.users.any fun u => u.id == id
      -- a flush that fails leaves a session in which the next query raises
      require (taken = false) .db
      Act.modify fun s => { s with users := s.users ++ [user] }
      pure (some user)
    | some user => do
      Act.modify (setUser user.id fun u => { u with role := role, isActive := true })
      pure (some { user with role := role, isActive := true })

/-- `authenticate`. -/
def authenticate (username password : String) (answer : LdapAnswer) (id : Uuid) (hash : String) :
    Act Accounts PyErr User := do
  let ldapUser ← authenticateLdap username answer id hash
  match ldapUser with
  | some user => pure user
  | none => do
    let rows ← Act.read fun s => s.users.filter fun u => u.username == username && u.isActive
    let user ← Act.ofExcept (oneOrNone rows)
    match user with
    | some user =>
      if A.verifyPassword password user.passwordHash then pure user
      else Act.raise (unauthorizedError "Invalid username or password")
    | none => Act.raise (unauthorizedError "Invalid username or password")

/-- `issue_tokens`. -/
def issueTokens (user : User) : Tokens τ where
  accessToken := createAccessToken A v user.id user.role user.username user.activeOrgId
  refreshToken := createRefreshToken A v user.id

/-- `refresh_access_token`. -/
def refreshAccessToken (token : τ) : Act Accounts PyErr (Tokens τ) :=
  match decodeToken A v token with
  | none => Act.raise (unauthorizedError "Invalid refresh token")
  | some payload =>
    if payload.type = .refresh then do
      let rows ← Act.read (activeUsers payload.sub)
      let user ← Act.ofExcept (oneOrNone rows)
      match user with
      | none => Act.raise (unauthorizedError "User not found")
      | some user => pure (issueTokens A v user)
    else Act.raise (unauthorizedError "Wrong token type")

/-! ## `app/dependencies.py` -/

/-- `get_current_user`. -/
def getCurrentUser (credentials : Option τ) : Act Accounts PyErr User :=
  match credentials with
  | none => Act.raise (unauthorizedError "Missing bearer token")
  | some token =>
    match decodeToken A v token with
    | none => Act.raise (unauthorizedError "Invalid or expired token")
    | some payload =>
      if payload.type = .access then do
        let rows ← Act.read (activeUsers payload.sub)
        let user ← Act.ofExcept (oneOrNone rows)
        match user with
        | none => Act.raise (unauthorizedError "User not found")
        | some user => pure user
      else Act.raise (unauthorizedError "Wrong token type")

/-- `get_current_user` writes nothing. -/
theorem getCurrentUser_readOnly (credentials : Option τ) :
    Act.Within readOnly (getCurrentUser A v credentials) := by
  unfold getCurrentUser
  split
  · exact Act.Within.raise _
  · split
    · exact Act.Within.raise _
    · refine Act.Within.ite ?_ (Act.Within.raise _)
      refine Act.Within.bind (Act.Within.read _) fun rows => ?_
      refine Act.Within.bind (Act.Within.ofExcept _) fun user => ?_
      split
      · exact Act.Within.raise _
      · exact Act.Within.pure _

/-- `require_admin`. -/
def requireAdmin (credentials : Option τ) : Act Accounts PyErr User := do
  let user ← getCurrentUser A v credentials
  require (user.role = "admin") (.http 403 "Admin role required")
  pure user

/-- `get_current_org_id`. -/
def getCurrentOrgId (credentials : Option τ) : Act Accounts PyErr Uuid :=
  match credentials with
  | none => Act.raise (unauthorizedError "Missing bearer token")
  | some token =>
    match decodeToken A v token with
    | none => Act.raise (unauthorizedError "Invalid or expired token")
    | some payload =>
      if payload.type = .access then
        match payload.orgId with
        | none => Act.raise (unauthorizedError "Missing organization")
        | some org => pure org
      else Act.raise (unauthorizedError "Wrong token type")

/-! ## `app/api/v1/auth.py` -/

/-- The part of a request that works on the tables. -/
def onAccounts {α : Type} (x : Act Accounts PyErr α) : Act (Auth τ K) PyErr α := fun s =>
  match x s.accounts with
  | (r, accounts) => (r, { s with accounts })

omit [Field K] [LinearOrder K] [FloorRing K] in
/-- Nor does it as a part of the whole state. -/
theorem onAccounts_readOnly {α : Type} {x : Act Accounts PyErr α} (h : Act.Within readOnly x) :
    Act.Within readOnly (onAccounts x : Act (Auth τ K) PyErr α) := by
  intro s
  show ({ s with accounts := (x s.accounts).2 } : Auth τ K) = s
  rw [show (x s.accounts).2 = s.accounts from h s.accounts]

/-- POST `/auth/login`; what it commits on a failure is a row of the audit log. -/
def login (username password : String) (answer : LdapAnswer) (id : Uuid) (hash : String) :
    Act Accounts PyErr (Tokens τ) := do
  let user ← authenticate A username password answer id hash
  pure (issueTokens A v user)

/-- GET of the marker: a key that has expired is not there. -/
def isRevoked (s : Auth τ K) (token : τ) : Bool :=
  match s.revoked token with
  | some e => decide (v < e)
  | none => false

/-- POST `/auth/refresh`. -/
def refresh (token : τ) : Act (Auth τ K) PyErr (Tokens τ) := do
  let marked ← Act.read fun s => isRevoked v s token
  if marked then Act.raise (unauthorizedError "Refresh token revoked")
  else onAccounts (refreshAccessToken A v token)

/-- Python's `int(x)`: towards zero. -/
def truncate (x : K) : Int := if 0 ≤ x then ⌊x⌋ else ⌈x⌉

/-- The life of the marker in seconds, `ttl or 3600`. -/
def markerTtl (exp : Int) : Int :=
  let ttl := if exp = 0 then 0 else max (truncate ((exp : K) - v)) 0
  if ttl = 0 then 3600 else ttl

/-- `logout`, for a caller that has been authenticated. -/
def logout [DecidableEq τ] (token : τ) : Act (Auth τ K) PyErr Unit :=
  match decodeToken A v token with
  | none => Act.raise (unauthorizedError "Invalid refresh token")
  | some payload =>
    if payload.type = .refresh then
      Act.modify fun s => { s with
        revoked := Function.update s.revoked token (some (v + (markerTtl v payload.exp : Int))) }
    else Act.raise (unauthorizedError "Wrong token type")

/-- POST `/auth/logout`. -/
def postLogout [DecidableEq τ] (credentials : Option τ) (token : τ) :
    Act (Auth τ K) PyErr Unit := do
  let _ ← onAccounts (getCurrentUser A v credentials)
  logout A v token

end

/-! ## What logins and refreshes that returned have done -/

/-- The users after a login: nobody's active organization has changed, and a new user has none. -/
def SameOrgs (s t : Accounts) : Prop :=
  t.organizations = s.organizations ∧ t.members = s.members ∧
    ∀ u ∈ t.users, u.activeOrgId = none ∨
      ∃ u' ∈ s.users, u'.id = u.id ∧ u'.activeOrgId = u.activeOrgId

theorem SameOrgs.refl (s : Accounts) : SameOrgs s s :=
  ⟨rfl, rfl, fun u hu => .inr ⟨u, hu, rfl, rfl⟩⟩

/-- A new user belongs to no organization. -/
theorem sameOrgs_insert (s : Accounts) {user : User} (h : user.activeOrgId = none) :
    SameOrgs s { s with users := s.users ++ [user] } := by
  refine ⟨rfl, rfl, fun u hu => ?_⟩
  rcases List.mem_append.mp hu with hold | hnew
  · exact .inr ⟨u, hold, rfl, rfl⟩
  · obtain rfl := List.mem_singleton.mp hnew
    exact .inl h

/-- A change of other columns. -/
theorem sameOrgs_setUser (s : Accounts) (id : Uuid) {f : User → User}
    (hid : ∀ u, (f u).id = u.id) (horg : ∀ u, (f u).activeOrgId = u.activeOrgId) :
    SameOrgs s (setUser id f s) := by
  refine ⟨rfl, rfl, fun u hu => .inr ?_⟩
  obtain ⟨u', hmem, rfl⟩ := List.mem_map.mp hu
  refine ⟨u', hmem, ?_⟩
  split
  · exact ⟨(hid u').symm, (horg u').symm⟩
  · exact ⟨rfl, rfl⟩

theorem mem_setUser {s : Accounts} {user : User} (f : User → User) (h : user ∈ s.users) :
    f user ∈ (setUser user.id f s).users :=
  List.mem_map.mpr ⟨user, h, if_pos rfl⟩

section

variable {τ K : Type} [Field K] [LinearOrder K] [FloorRing K] {A : AuthEnv τ} {v : K}

/-- The user of a request is there, and active. -/
theorem getCurrentUser_ok {credentials : Option τ} {user : User} {s t : Accounts}
    (h : getCurrentUser A v credentials s = (.ok user, t)) :
    user ∈ s.users ∧ user.isActive = true := by
  cases credentials with
  | none => cases h
  | some token =>
    cases hdecode : decodeToken A v token with
    | none =>
      simp only [getCurrentUser, hdecode] at h
      cases h
    | some payload =>
      simp only [getCurrentUser, hdecode] at h
      by_cases htype : payload.type = .access
      · rw [if_pos htype] at h
        obtain ⟨found, hfound, h⟩ := ok_of_one h
        cases found with
        | none => cases h
        | some u =>
          obtain rfl : u = user := Except.ok.inj (Prod.mk.inj h).1
          obtain ⟨hin, hrow⟩ := mem_of_oneOrNone hfound
          rw [Bool.and_eq_true] at hrow
          exact ⟨hin, hrow.2⟩
      · rw [if_neg htype] at h
        cases h

/-- `get_current_user` looks at the rows of the token's subject only. -/
theorem getCurrentUser_congr {token : τ} {payload : Claims} {s t : Accounts}
    (hdecode : decodeToken A v token = some payload)
    (h : activeUsers payload.sub s = activeUsers payload.sub t) :
    (getCurrentUser A v (some token) s).1 = (getCurrentUser A v (some token) t).1 := by
  simp only [getCurrentUser, hdecode]
  split
  · rw [Act.read_bind, Act.read_bind, h]
    rcases oneOrNone (activeUsers payload.sub t) with e | _ | user
    · rfl
    · rfl
    · rfl
  · rfl

/-- The organization of a token that is not for refreshing. -/
theorem getCurrentOrgId_decoded {token : τ} {payload : Claims} {org : Uuid} {s : Accounts}
    (hdecode : decodeToken A v token = some payload) (horg : payload.orgId = some org) :
    (getCurrentOrgId A v (some token) s).1 =
      if payload.type = .access then .ok org else .error (unauthorizedError "Wrong token type") := by
  simp only [getCurrentOrgId, hdecode, horg]
  split
  · rfl
  · rfl

/-- **A login through LDAP** leaves the organizations as they are. -/
theorem authenticateLdap_ok {username hash : String} {answer : LdapAnswer} {id : Uuid}
    {found : Option User} {s t : Accounts}
    (h : authenticateLdap username answer id hash s = (.ok found, t)) :
    SameOrgs s t ∧ ∀ user, found = some user → user ∈ t.users := by
  cases answer with
  | none =>
    obtain ⟨hnone, rfl⟩ := Prod.mk.inj h
    obtain rfl := Except.ok.inj hnone
    exact ⟨SameOrgs.refl s, fun _ hu => (nomatch hu)⟩
  | raises => cases h
  | role admin =>
    obtain ⟨existing, hexisting, hrest⟩ := ok_of_one h
    cases existing with
    | none =>
      dsimp only at hrest
      rw [Act.read_bind] at hrest
      obtain ⟨-, hinsert⟩ := ok_of_require hrest
      obtain ⟨hnew, rfl⟩ := Prod.mk.inj hinsert
      obtain rfl := Except.ok.inj hnew
      refine ⟨sameOrgs_insert s rfl, fun user hu => ?_⟩
      obtain rfl := Option.some.inj hu
      exact List.mem_append_right _ (List.mem_singleton_self _)
    | some user =>
      obtain ⟨hknown, rfl⟩ := Prod.mk.inj hrest
      obtain rfl := Except.ok.inj hknown
      refine ⟨sameOrgs_setUser s user.id (fun _ => rfl) (fun _ => rfl), fun u hu => ?_⟩
      obtain rfl := Option.some.inj hu
      exact mem_setUser (fun u => { u with role := _, isActive := true })
        (mem_of_oneOrNone hexisting).1

/-- **A login** gives out tokens of a user. -/
theorem login_ok {username password hash : String} {answer : LdapAnswer} {id : Uuid}
    {r : Tokens τ} {s t : Accounts}
    (h : login A v username password answer id hash s = (.ok r, t)) :
    SameOrgs s t ∧ ∃ user ∈ t.users, r = issueTokens A v user := by
  obtain ⟨user, u, huser, hissue⟩ := Act.ok_of_bind h
  obtain ⟨hr, rfl⟩ := Prod.mk.inj hissue
  obtain rfl := Except.ok.inj hr
  obtain ⟨found, w, hldap, hrest⟩ := Act.ok_of_bind huser
  obtain ⟨hsame, hmem⟩ := authenticateLdap_ok hldap
  cases found with
  | some known =>
    obtain ⟨hknown, rfl⟩ := Prod.mk.inj hrest
    obtain rfl := Except.ok.inj hknown
    exact ⟨hsame, known, hmem known rfl, rfl⟩
  | none =>
    obtain ⟨local_, hlocal, hcheck⟩ := ok_of_one hrest
    cases local_ with
    | none => cases hcheck
    | some known =>
      dsimp only at hcheck
      split at hcheck
      · obtain ⟨hknown, rfl⟩ := Prod.mk.inj hcheck
        obtain rfl := Except.ok.inj hknown
        exact ⟨hsame, known, (mem_of_oneOrNone hlocal).1, rfl⟩
      · cases hcheck

/-- **A refresh** gives out tokens of a user, and changes nothing. -/
theorem refreshAccessToken_ok {token : τ} {r : Tokens τ} {s t : Accounts}
    (h : refreshAccessToken A v token s = (.ok r, t)) :
    t = s ∧ ∃ user ∈ s.users, r = issueTokens A v user := by
  rw [refreshAccessToken] at h
  cases hdec : decodeToken A v token with
  | none =>
    rw [hdec] at h
    cases h
  | some payload =>
    rw [hdec] at h
    dsimp only at h
    split at h
    · obtain ⟨found, hfound, hrest⟩ := ok_of_one h
      cases found with
      | none => cases hrest
      | some user =>
        obtain ⟨hr, rfl⟩ := Prod.mk.inj hrest
        obtain rfl := Except.ok.inj hr
        exact ⟨rfl, user, (mem_of_oneOrNone hfound).1, rfl⟩
    · cases h

omit [Field K] [LinearOrder K] [FloorRing K] in
theorem onAccounts_ok {α : Type} {x : Act Accounts PyErr α} {a : α} {s t : Auth τ K}
    (h : onAccounts x s = (.ok a, t)) : x s.accounts = (.ok a, t.accounts) := by
  obtain ⟨hr, rfl⟩ := Prod.mk.inj h
  exact Prod.ext hr rfl

theorem refresh_ok {token : τ} {r : Tokens τ} {s t : Auth τ K}
    (h : refresh A v token s = (.ok r, t)) :
    t.accounts = s.accounts ∧ ∃ user ∈ s.accounts.users, r = issueTokens A v user := by
  rw [refresh, Act.read_bind] at h
  split at h
  · cases h
  · exact refreshAccessToken_ok (onAccounts_ok h)

end

end Accounts

end Dtsys
