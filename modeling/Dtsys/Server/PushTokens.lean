/-
  PUSH TOKENS (`register_push_token`, `unregister_push_token`): at most ten for a user, one user for a
  token.

  The table is a multiset of rows, told apart by their token; what the queries leave open, here which of
  the oldest tokens goes, the database chooses for every request.

  A new token takes the place of the oldest one when there are ten.  A token that another user holds is
  handed over, and nothing is counted then: a user who has ten gets an eleventh, and keeps it.  So the
  limit holds in a sequence of requests if and only if no token is handed to a user who has ten
  (`tokens_kept_iff`); every token has one owner in any case.
-/
import Dtsys.Server.Reads
import Dtsys.Lib.Run

namespace Dtsys

/-- `app/models/push_token.py`, with the columns only the requests write. -/
structure PushTokenRow extends PushToken where
  platform : Option String
  createdAt : Nat
  deriving DecidableEq

namespace PushTokens

/-! ## The format of a token -/

/-- `$` matches before a newline at the end, too. -/
def chomp (cs : List Char) : List Char :=
  if cs.getLast? = some '\n' then cs.dropLast else cs

/-- `^ExponentPushToken\[.{1,256}\]$` -/
def isExpoToken (token : String) : Bool :=
  let cs := chomp token.toList
  let rest := cs.drop "ExponentPushToken[".length
  "ExponentPushToken[".toList.isPrefixOf cs && rest.getLast? == some ']' &&
    decide (1 ≤ rest.dropLast.length ∧ rest.dropLast.length ≤ 256) && !rest.dropLast.contains '\n'

/-- A character of a raw device token. -/
def rawChar (c : Char) : Bool :=
  ('A' ≤ c && c ≤ 'Z') || ('a' ≤ c && c ≤ 'z') || ('0' ≤ c && c ≤ '9') || c == ':' || c == '_' || c == '-'

/-- `^[A-Za-z0-9:_\-]{8,256}$` -/
def isRawToken (token : String) : Bool :=
  let cs := chomp token.toList
  cs.all rawChar && decide (8 ≤ cs.length ∧ cs.length ≤ 256)

/-- `_validate_token` -/
def validToken (token : String) : Bool := isExpoToken token || isRawToken token

/-- `platform_allowed` -/
def validPlatform : Option String → Bool
  | none => true
  | some platform => platform == "ios" || platform == "android"

/-! ## The requests -/

/-- `_MAX_TOKENS_PER_USER` -/
def maxTokensPerUser : Nat := 10

/-- How many tokens a user has. -/
def owned (user : Uuid) (rows : Multiset PushTokenRow) : Nat :=
  (rows.filter fun r => r.userId = user).card

section

variable (D : Driver) (Q : Queries) (now : Nat) (user : Uuid) (token : String)

/-- The driver takes the token for a parameter: PostgreSQL's texts have no NUL. -/
def stored : Bool := D.accepts (required (.string 512)) (.str token)

/-- ORDER BY `created_at`, LIMIT 1. -/
def oldest (rows : Multiset PushTokenRow) : Option PushTokenRow :=
  (Q.orderBy (fun a b => decide (a.createdAt ≤ b.createdAt))
    (rows.filter fun r => r.userId = user)).head?

/-- The rows that stay when a token is added. -/
def makeRoom (rows : Multiset PushTokenRow) : Multiset PushTokenRow :=
  if maxTokensPerUser ≤ owned user rows then
    match oldest Q user rows with
    | some row => rows.erase row
    | none => rows
  else rows

/-- POST `/push-tokens`. -/
def registerPushToken (platform : Option String) (rows : Multiset PushTokenRow) :
    Except PyErr (Multiset PushTokenRow) :=
  if validToken token && validPlatform platform then
    if stored D token then do
      let existing ← Q.one (rows.filter fun r => r.token = token)
      match existing with
      | none => pure (⟨⟨user, token, none⟩, platform, now⟩ ::ₘ makeRoom Q user rows)
      | some row => pure ({ row with userId := user, platform := platform } ::ₘ rows.erase row)
    else .error .db
  else .error (.http 422 "")

/-- DELETE `/push-tokens/{token}`. -/
def unregisterPushToken (rows : Multiset PushTokenRow) : Except PyErr (Multiset PushTokenRow) :=
  if validToken token then
    if stored D token then pure (rows.filter fun r => ¬ (r.token = token ∧ r.userId = user))
    else .error .db
  else .error (.http 400 "Invalid push token format")

end

/-- A request of a user. -/
inductive Request
  | register (user : Uuid) (token : String) (platform : Option String)
  | unregister (user : Uuid) (token : String)

/-- A request, its time, and which choices the database makes for it. -/
structure Call where
  choice : Nat
  now : Nat
  request : Request

/-- The table, and whether the last request was answered with 200. -/
structure State where
  rows : Multiset PushTokenRow
  answered : Bool

/-- A request, with the choices of the database for it. -/
def Call.run (D : Driver) (Q : Nat → Queries) (c : Call) (rows : Multiset PushTokenRow) :
    Except PyErr (Multiset PushTokenRow) :=
  match c.request with
  | .register user token platform => registerPushToken D (Q c.choice) c.now user token platform rows
  | .unregister user token => unregisterPushToken D user token rows

/-- A request that fails is rolled back. -/
def step (D : Driver) (Q : Nat → Queries) (s : State) (c : Call) : Option State :=
  match c.run D Q s.rows with
  | .ok rows => some ⟨rows, true⟩
  | .error _ => some ⟨s.rows, false⟩

/-! ## What is kept -/

/-- At most ten tokens for a user, one user for a token. -/
structure Kept (rows : Multiset PushTokenRow) : Prop where
  limit : ∀ user, owned user rows ≤ maxTokensPerUser
  single : (rows.map fun r => r.token).Nodup

/-- After a request: the table is kept, and a token just registered belongs to who registered it. -/
structure KeptBy (c : Call) (s : State) : Prop where
  kept : Kept s.rows
  owner : ∀ user token platform, c.request = .register user token platform → s.answered = true →
    ∃ r ∈ s.rows, r.token = token ∧ r.userId = user

/-- No token is handed to a user who has ten. -/
def Fair (D : Driver) (s : State) (c : Call) : Prop :=
  ∀ user token platform, c.request = .register user token platform → validToken token = true →
    validPlatform platform = true → stored D token = true →
    ∀ r ∈ s.rows, r.token = token → r.userId ≠ user → owned user s.rows < maxTokensPerUser

/-! ## Rows of a user -/

variable {D : Driver} {Q : Queries} {now : Nat} {user : Uuid} {token : String}
  {platform : Option String} {rows rest : Multiset PushTokenRow}

theorem owned_cons (user : Uuid) (r : PushTokenRow) (rows : Multiset PushTokenRow) :
    owned user (r ::ₘ rows) = owned user rows + if r.userId = user then 1 else 0 := by
  unfold owned
  split
  · next h =>
    rw [Multiset.filter_cons_of_pos (p := fun r : PushTokenRow => r.userId = user) _ h,
      Multiset.card_cons]
  · next h =>
    rw [Multiset.filter_cons_of_neg (p := fun r : PushTokenRow => r.userId = user) _ h]
    rfl

theorem owned_le (user : Uuid) (h : rest ≤ rows) : owned user rest ≤ owned user rows :=
  Multiset.card_le_card (Multiset.filter_le_filter _ h)

/-- The oldest token is one of the user. -/
theorem oldest_mem {row : PushTokenRow} (h : oldest Q user rows = some row) :
    row ∈ rows ∧ row.userId = user := by
  have hmem := (Q.mem_orderBy).mp (List.mem_of_head? h)
  exact Multiset.mem_filter.mp hmem

/-- There is one, if the user has any. -/
theorem oldest_isSome (h : 0 < owned user rows) : ∃ row, oldest Q user rows = some row := by
  obtain ⟨row, hrow⟩ := Multiset.card_pos_iff_exists_mem.mp h
  have hmem : row ∈ Q.orderBy (fun a b => decide (a.createdAt ≤ b.createdAt))
      (rows.filter fun r => r.userId = user) := Q.mem_orderBy.mpr hrow
  rw [oldest]
  cases hcase : Q.orderBy (fun a b => decide (a.createdAt ≤ b.createdAt))
      (rows.filter fun r => r.userId = user) with
  | nil =>
    rw [hcase] at hmem
    exact (List.not_mem_nil hmem).elim
  | cons first others => exact ⟨first, rfl⟩

/-- Only tokens are dropped to make room. -/
theorem makeRoom_le : makeRoom Q user rows ≤ rows := by
  rw [makeRoom]
  split
  · split
    · exact Multiset.erase_le _ _
    · exact le_refl _
  · exact le_refl _

/-- There is room for one more. -/
theorem makeRoom_room (h : owned user rows ≤ maxTokensPerUser) :
    owned user (makeRoom Q user rows) < maxTokensPerUser := by
  rw [makeRoom]
  split
  · next hfull =>
    obtain ⟨row, hrow⟩ := oldest_isSome (Q := Q) (Nat.lt_of_lt_of_le (by decide) hfull)
    obtain ⟨hmem, hown⟩ := oldest_mem hrow
    obtain ⟨rest, rfl⟩ := Multiset.exists_cons_of_mem hmem
    rw [owned_cons, if_pos hown] at h
    rw [hrow]
    show owned user ((row ::ₘ rest).erase row) < maxTokensPerUser
    rw [Multiset.erase_cons_head]
    omega
  · omega

/-! ## A new token, and a token handed over -/

/-- A token is added where there is room. -/
theorem Kept.add (h : Kept rows) (hle : rest ≤ rows) {r : PushTokenRow}
    (hnew : ∀ x ∈ rows, x.token ≠ r.token) (hroom : owned r.userId rest < maxTokensPerUser) :
    Kept (r ::ₘ rest) := by
  refine ⟨fun u => ?_, ?_⟩
  · have hrest := (owned_le u hle).trans (h.limit u)
    rw [owned_cons]
    split
    · next hu =>
      subst hu
      omega
    · omega
  · rw [Multiset.map_cons, Multiset.nodup_cons]
    refine ⟨fun hin => ?_, Multiset.nodup_of_le (Multiset.map_le_map hle) h.single⟩
    obtain ⟨x, hx, heq⟩ := Multiset.mem_map.mp hin
    exact hnew x (Multiset.mem_of_le hle hx) heq

/-- A row given to `user`: the tokens are the same, and only `user` has more of them. -/
theorem Kept.hand {row : PushTokenRow} (h : Kept (row ::ₘ rest)) (user : Uuid)
    (platform : Option String)
    (hroom : row.userId ≠ user → owned user (row ::ₘ rest) < maxTokensPerUser) :
    Kept ({ row with userId := user, platform := platform } ::ₘ rest) := by
  refine ⟨fun u => ?_, ?_⟩
  · have hu := h.limit u
    rw [owned_cons] at hu ⊢
    by_cases hsame : row.userId = user
    · subst hsame
      exact hu
    · have huser := hroom hsame
      rw [owned_cons, if_neg hsame] at huser
      show owned u rest + (if user = u then 1 else 0) ≤ maxTokensPerUser
      split
      · next heq =>
        subst heq
        omega
      · omega
  · have hsingle := h.single
    rw [Multiset.map_cons] at hsingle ⊢
    exact hsingle

/-- A handed token counts for the user it is handed to. -/
theorem owned_hand {row : PushTokenRow} (hother : row.userId ≠ user) (platform : Option String) :
    owned user ({ row with userId := user, platform := platform } ::ₘ rest) =
      owned user (row ::ₘ rest) + 1 := by
  rw [owned_cons, owned_cons, if_neg hother]
  show owned user rest + (if user = user then 1 else 0) = _
  rw [if_pos rfl]

/-! ## What a registration does -/

theorem one_zero {α : Type} : Q.one (0 : Multiset α) = .ok none := by
  have hrows : Q.rows (0 : Multiset α) = [] := (Multiset.coe_eq_zero _).mp (Q.coe_rows 0)
  rw [Queries.one, hrows]
  rfl

theorem one_singleton {α : Type} (a : α) : Q.one ({a} : Multiset α) = .ok (some a) := by
  have hrows : Q.rows ({a} : Multiset α) = [a] := Multiset.coe_eq_singleton.mp (Q.coe_rows {a})
  rw [Queries.one, hrows]
  rfl

/-- A token nobody has is added; a token somebody has, the only one of its kind, is handed over. -/
theorem registerPushToken_cases (Q : Queries) (now : Nat) (user : Uuid) (platform : Option String)
    (h : (rows.map fun r => r.token).Nodup)
    (hvalid : validToken token = true) (hplatform : validPlatform platform = true)
    (hstored : stored D token = true) :
    ((∀ r ∈ rows, r.token ≠ token) ∧
      registerPushToken D Q now user token platform rows =
        .ok (⟨⟨user, token, none⟩, platform, now⟩ ::ₘ makeRoom Q user rows)) ∨
    ∃ row rest, rows = row ::ₘ rest ∧ row.token = token ∧
      registerPushToken D Q now user token platform rows =
        .ok ({ row with userId := user, platform := platform } ::ₘ rest) := by
  have hcheck : (validToken token && validPlatform platform) = true := by rw [hvalid, hplatform]; rfl
  rw [registerPushToken, if_pos hcheck, if_pos hstored]
  by_cases hheld : ∃ row ∈ rows, row.token = token
  · obtain ⟨row, hmem, rfl⟩ := hheld
    obtain ⟨rest, rfl⟩ := Multiset.exists_cons_of_mem hmem
    refine .inr ⟨row, rest, rfl, rfl, ?_⟩
    rw [Multiset.map_cons, Multiset.nodup_cons] at h
    have hrest : rest.filter (fun r => r.token = row.token) = 0 := by
      rw [Multiset.filter_eq_nil]
      exact fun x hx heq => h.1 (Multiset.mem_map.mpr ⟨x, hx, heq⟩)
    have hfound : (row ::ₘ rest).filter (fun r => r.token = row.token) = {row} := by
      rw [Multiset.filter_cons_of_pos (p := fun r : PushTokenRow => r.token = row.token) _ rfl, hrest]
      rfl
    have herase : (row ::ₘ rest).erase row = rest := Multiset.erase_cons_head row rest
    rw [hfound, one_singleton]
    show Except.ok (_ ::ₘ (row ::ₘ rest).erase row) = _
    rw [herase]
  · have hnone : ∀ r ∈ rows, r.token ≠ token := fun r hr heq => hheld ⟨r, hr, heq⟩
    refine .inl ⟨hnone, ?_⟩
    rw [Multiset.filter_eq_nil.mpr hnone, one_zero]
    rfl

/-! ## What a request keeps -/

/-- The tokens that are left after an `unregister` are few enough. -/
theorem Kept.unregister (h : Kept rows) (user : Uuid) (token : String) :
    Kept (rows.filter fun r => ¬ (r.token = token ∧ r.userId = user)) :=
  have hle := Multiset.filter_le (fun r => ¬ (r.token = token ∧ r.userId = user)) rows
  ⟨fun u => (owned_le u hle).trans (h.limit u), Multiset.nodup_of_le (Multiset.map_le_map hle) h.single⟩

/-- A request that is not carried out. -/
theorem registerPushToken_refused (Q : Queries) (now : Nat) (user : Uuid) (rows : Multiset PushTokenRow)
    (h : ¬ (validToken token = true ∧ validPlatform platform = true ∧ stored D token = true)) :
    ∃ e, registerPushToken D Q now user token platform rows = .error e := by
  rw [registerPushToken]
  split
  · next hvalid =>
    rw [Bool.and_eq_true] at hvalid
    rw [if_neg fun hstored => h ⟨hvalid.1, hvalid.2, hstored⟩]
    exact ⟨_, rfl⟩
  · exact ⟨_, rfl⟩

/-- What `unregister` does, unless the database refuses the token. -/
theorem unregisterPushToken_cases (D : Driver) (user : Uuid) (token : String)
    (rows : Multiset PushTokenRow) :
    unregisterPushToken D user token rows =
      .ok (rows.filter fun r => ¬ (r.token = token ∧ r.userId = user)) ∨
    ∃ e, unregisterPushToken D user token rows = .error e := by
  rw [unregisterPushToken]
  split
  · split
    · exact .inl rfl
    · exact .inr ⟨_, rfl⟩
  · exact .inr ⟨_, rfl⟩

/-- Every request is answered. -/
theorem step_total (D : Driver) (Q : Nat → Queries) (s : State) (c : Call) :
    (∃ rows, c.run D Q s.rows = .ok rows ∧ step D Q s c = some ⟨rows, true⟩) ∨
    (∃ e, c.run D Q s.rows = .error e ∧ step D Q s c = some ⟨s.rows, false⟩) := by
  rw [step]
  cases hrun : c.run D Q s.rows with
  | ok rows => exact .inl ⟨rows, rfl, rfl⟩
  | error e => exact .inr ⟨e, rfl, rfl⟩

/-- **A fair call** keeps at most ten tokens of each user, the one registered among them. -/
theorem step_good {Q : Nat → Queries} {s s' : State} {c : Call} (hfair : Fair D s c) (hs : step D Q s c = some s')
    (h : Kept s.rows) : Kept s'.rows ∧ KeptBy c s' := by
  obtain ⟨n, now, request⟩ := c
  rcases step_total D Q s ⟨n, now, request⟩ with ⟨rows', hrun, hstep⟩ | ⟨e, -, hstep⟩
  · rw [hstep] at hs
    cases hs
    cases request with
    | register user token platform =>
      have hrun : registerPushToken D (Q n) now user token platform s.rows = .ok rows' := hrun
      -- A request that the checks refuse changes nothing; of the others, the token is new or belongs to a row.
      by_cases hok : validToken token = true ∧ validPlatform platform = true ∧ stored D token = true
      · obtain ⟨hvalid, hplatform, hstored⟩ := hok
        have hhand := hfair user token platform rfl hvalid hplatform hstored
        rcases registerPushToken_cases (Q n) now user platform h.single hvalid hplatform hstored with
          ⟨hnew, hres⟩ | ⟨row, rest, hrows, htoken, hres⟩
        · rw [hres] at hrun
          cases hrun
          have hkept : Kept (⟨⟨user, token, none⟩, platform, now⟩ ::ₘ makeRoom (Q n) user s.rows) :=
            h.add makeRoom_le hnew (makeRoom_room (h.limit user))
          refine ⟨hkept, hkept, ?_⟩
          rintro _ _ _ ⟨⟩ -
          exact ⟨_, Multiset.mem_cons_self _ _, rfl, rfl⟩
        · rw [hres] at hrun
          cases hrun
          rw [hrows] at h hhand
          have hkept := h.hand user platform (hhand row (Multiset.mem_cons_self _ _) htoken)
          refine ⟨hkept, hkept, ?_⟩
          rintro _ _ _ ⟨⟩ -
          exact ⟨_, Multiset.mem_cons_self _ _, htoken, rfl⟩
      · obtain ⟨e, he⟩ := registerPushToken_refused (Q n) now user s.rows hok
        rw [he] at hrun
        cases hrun
    | unregister user token =>
      have hrun : unregisterPushToken D user token s.rows = .ok rows' := hrun
      rcases unregisterPushToken_cases D user token s.rows with hres | ⟨e, hres⟩
      · rw [hres] at hrun
        cases hrun
        have hkept := h.unregister user token
        refine ⟨hkept, hkept, ?_⟩
        rintro _ _ _ ⟨⟩
      · rw [hres] at hrun
        cases hrun
  · rw [hstep] at hs
    cases hs
    exact ⟨h, h, fun _ _ _ _ hanswer => nomatch hanswer⟩

/-- A token handed to a user who has ten makes eleven. -/
theorem step_bad {Q : Nat → Queries} {s s' : State} {c : Call} (hs : step D Q s c = some s') (h : Kept s.rows)
    (hafter : KeptBy c s') : Fair D s c := by
  obtain ⟨n, now, request⟩ := c
  rintro user token platform ⟨⟩ hvalid hplatform hstored r hr htoken hother
  rcases registerPushToken_cases (Q n) now user platform h.single hvalid hplatform hstored with
    ⟨hnew, -⟩ | ⟨row, rest, hrows, hrow, hres⟩
  · exact (hnew r hr htoken).elim
  · have hrun : Call.run D Q ⟨n, now, .register user token platform⟩ s.rows = _ := hres
    rw [step, hrun] at hs
    cases hs
    have hsame : r = row := by
      have hmem : row ∈ s.rows := hrows ▸ Multiset.mem_cons_self row rest
      exact Multiset.inj_on_of_nodup_map h.single r hr row hmem (htoken.trans hrow.symm)
    subst hsame
    have hlimit := hafter.kept.limit user
    rw [owned_hand hother, ← hrows] at hlimit
    omega

/-- The requests of a sequence are all answered. -/
theorem exec_total (D : Driver) (Q : Nat → Queries) : ∀ (calls : List Call) (s : State),
    ∃ t, Run.exec (step D Q) s calls = some t := by
  intro calls
  induction calls with
  | nil => exact fun s => ⟨s, rfl⟩
  | cons c calls ih =>
    intro s
    obtain ⟨s', hs⟩ : ∃ s', step D Q s c = some s' := by
      rcases step_total D Q s c with ⟨_, -, hs⟩ | ⟨_, -, hs⟩
      · exact ⟨_, hs⟩
      · exact ⟨_, hs⟩
    obtain ⟨t, ht⟩ := ih s'
    exact ⟨t, Run.exec_cons_eq.mpr ⟨s', hs, ht⟩⟩

/-- **The calls** keep the tokens exactly if each of them is fair. -/
theorem after_iff_fair {Q : Nat → Queries} {s : State} (h : Kept s.rows) (calls : List Call) :
    Run.After (step D Q) KeptBy s calls ↔ Run.Guarded (step D Q) (Fair D) s calls := by
  obtain ⟨t, ht⟩ := exec_total D Q calls s
  refine Run.after_iff_guarded_of_inv (I := fun s => Kept s.rows) ?_ ?_ ht h
  · exact fun s c s' hfair hs h => step_good hfair hs h
  · exact fun s c s' hs h hafter => step_bad hs h hafter

/-- The table before the first registration. -/
def State.init : State := ⟨0, true⟩

theorem kept_init : Kept State.init.rows := ⟨fun _ => Nat.zero_le _, Multiset.nodup_zero⟩

/-- **The limit.**  In every sequence of requests, the users stay at ten tokens, the tokens at one user,
    and a token just registered belongs to who registered it, if and only if no request hands a token to
    a user who has ten.

    The branch for a token that exists hands it over without a count.  The invariant `Kept` is about every user and
    every token at once. -/
theorem tokens_kept_iff (D : Driver) (Q : Nat → Queries) (calls : List Call) :
    Run.After (step D Q) KeptBy State.init calls ↔ Run.Guarded (step D Q) (Fair D) State.init calls :=
  after_iff_fair kept_init calls

/-! ## Ten tokens, and one handed over -/

/-- A registration without a platform. -/
def Call.register (user : Uuid) (token : String) : Call := ⟨0, 0, .register user token none⟩

/-- The row it adds. -/
def newRow (user : Uuid) (token : String) : PushTokenRow := ⟨⟨user, token, none⟩, none, 0⟩

/-- A token nobody has, where there is room. -/
theorem step_new {Q : Nat → Queries} {s : State} (user : Uuid) (h : (s.rows.map fun r => r.token).Nodup)
    (hvalid : validToken token = true) (hstored : stored D token = true)
    (hnew : ∀ r ∈ s.rows, r.token ≠ token) (hroom : owned user s.rows < maxTokensPerUser) :
    step D Q s (.register user token) = some ⟨newRow user token ::ₘ s.rows, true⟩ := by
  have hstay : makeRoom (Q 0) user s.rows = s.rows := if_neg (Nat.not_le.mpr hroom)
  have hrun : Call.run D Q (.register user token) s.rows = .ok (newRow user token ::ₘ s.rows) := by
    rcases registerPushToken_cases (Q 0) 0 user none h hvalid rfl hstored with
      ⟨-, hres⟩ | ⟨row, rest, hrows, hrow, -⟩
    · rw [hstay] at hres
      exact hres
    · exact (hnew row (hrows ▸ Multiset.mem_cons_self row rest) hrow).elim
  rw [step, hrun]

/-- New tokens up to the limit are all added. -/
theorem exec_fill (Q : Nat → Queries) (user : Uuid) : ∀ (tokens : List String) (s : State),
    (s.rows.map fun r => r.token).Nodup → tokens.Nodup →
    (∀ t ∈ tokens, validToken t = true ∧ stored D t = true) →
    (∀ t ∈ tokens, ∀ r ∈ s.rows, r.token ≠ t) →
    owned user s.rows + tokens.length ≤ maxTokensPerUser →
    ∃ s', Run.exec (step D Q) s (tokens.map (Call.register user)) = some s' ∧
      s'.rows = (tokens.map (newRow user) : Multiset PushTokenRow) + s.rows := by
  intro tokens
  induction tokens with
  | nil => exact fun s _ _ _ _ _ => ⟨s, rfl, (zero_add _).symm⟩
  | cons token tokens ih =>
    intro s h hnodup hvalid hnew hroom
    obtain ⟨hfirst, hrest⟩ := List.nodup_cons.mp hnodup
    obtain ⟨hv, hst⟩ := hvalid token List.mem_cons_self
    have hfresh := hnew token List.mem_cons_self
    rw [List.length_cons] at hroom
    have hs := step_new (Q := Q) user h hv hst hfresh (by omega)
    have hkeys : ((newRow user token ::ₘ s.rows).map fun r => r.token).Nodup := by
      rw [Multiset.map_cons, Multiset.nodup_cons]
      refine ⟨fun hin => ?_, h⟩
      obtain ⟨r, hr, heq⟩ := Multiset.mem_map.mp hin
      exact hfresh r hr heq
    have hothers : ∀ t ∈ tokens, ∀ r ∈ newRow user token ::ₘ s.rows, r.token ≠ t := by
      intro t ht r hr
      rcases Multiset.mem_cons.mp hr with rfl | hr
      · rintro rfl
        exact hfirst ht
      · exact hnew t (List.mem_cons_of_mem _ ht) r hr
    have hcount : owned user (newRow user token ::ₘ s.rows) + tokens.length ≤ maxTokensPerUser := by
      have hone := owned_cons user (newRow user token) s.rows
      rw [if_pos (show (newRow user token).userId = user from rfl)] at hone
      omega
    obtain ⟨s', hexec, hrows⟩ := ih ⟨newRow user token ::ₘ s.rows, true⟩ hkeys hrest
      (fun t ht => hvalid t (List.mem_cons_of_mem _ ht)) hothers hcount
    refine ⟨s', Run.exec_cons_eq.mpr ⟨_, hs, hexec⟩, ?_⟩
    rw [hrows, Multiset.add_cons, List.map_cons, ← Multiset.cons_coe, Multiset.cons_add]

/-- The tokens of the first user. -/
def tenTokens : List String :=
  ["device00", "device01", "device02", "device03", "device04", "device05", "device06", "device07",
    "device08", "device09"]

/-- The second user registers a token, the first one ten, and then the token of the second. -/
def handedOver : List Call :=
  (["handed-on"].map (Call.register 2) ++ tenTokens.map (Call.register 1)) ++
    [.register 1 "handed-on"]

/-- An eleventh token, which another user has held. -/
theorem eleventh_token :
    ¬ Run.After (step .typed fun _ => Reads.anyOrder) KeptBy State.init handedOver := by
  rw [after_iff_fair kept_init]
  obtain ⟨s₁, hexec₁, hrows₁⟩ := exec_fill (D := .typed) (fun _ => Reads.anyOrder) 2 ["handed-on"]
    State.init Multiset.nodup_zero (List.nodup_singleton _) (by decide +kernel)
    (fun _ _ _ hr => (Multiset.notMem_zero _ hr).elim) (by decide +kernel)
  have hone : s₁.rows = {newRow 2 "handed-on"} := hrows₁
  obtain ⟨s₂, hexec₂, hrows₂⟩ := exec_fill (D := .typed) (fun _ => Reads.anyOrder) 1 tenTokens s₁
    (hone ▸ Multiset.nodup_singleton _) (by decide +kernel) (by decide +kernel)
    (by rw [hone]; decide +kernel) (by rw [hone]; decide +kernel)
  refine Run.not_guarded_of_last (Run.exec_append hexec₁ hexec₂) fun hfair => ?_
  have hroom := hfair 1 "handed-on" none rfl (by decide +kernel) rfl (by decide +kernel)
    (newRow 2 "handed-on") (by rw [hrows₂, hone]; decide +kernel) rfl (by decide)
  rw [hrows₂, hone] at hroom
  exact absurd hroom (by decide +kernel)

end PushTokens

end Dtsys
