/-
  LOGOUT: how long a refresh token that has been logged out stays refused.

  `logout` leaves a marker in Redis, `refresh` asks for the marker and then for the token's own
  expiry.  The two ends are computed differently:

  * the marker ends at `u + int(exp - u)`, at most `exp`, or at `u + 3600` when less than a second
    is left;
  * the token ends at `exp + 1`, because `decode_token` compares whole seconds.

  So the marker outlives the token exactly when `logout` falls into the token's last second
  (`Covered`), and `logout_final_iff` says that this is when logging out is final.  What happens
  after the logout is arbitrary: time passes, other requests change the tables in any way, and
  anybody logs out anything, the same token included.
-/
import Dtsys.Lib.Run
import Dtsys.Server.Accounts
import Mathlib.Tactic.Linarith
import Mathlib.Tactic.NormNum

namespace Dtsys

open Accounts

/-- The server with the time of the last request. -/
structure Sessions (τ K : Type) where
  clock : K
  auth : Auth τ K

namespace Sessions

variable {τ K : Type} [DecidableEq τ] [Field K] [LinearOrder K] [FloorRing K]

/-- A request at time `v`: a logout, or anything that happens to the tables. -/
inductive Label (τ K : Type)
  | logout (v : K) (credentials : Option τ) (token : τ)
  | tables (v : K) (accounts : Accounts)

/-- When the request is handled. -/
def Label.time : Label τ K → K
  | .logout v _ _ => v
  | .tables v _ => v

variable (A : AuthEnv τ)

/-- A logout, or what other requests do to the accounts. -/
def effect (s : Sessions τ K) : Label τ K → Sessions τ K
  | .logout v credentials token => ⟨v, (postLogout A v credentials token s.auth).2⟩
  | .tables v accounts => ⟨v, { s.auth with accounts }⟩

/-- Time does not go back. -/
def step : Sessions τ K → Label τ K → Option (Sessions τ K) :=
  Run.guardedStep (fun s l => s.clock ≤ l.time) (effect A)

/-- From here on no refresh with the token returns. -/
def Final (token : τ) (s : Sessions τ K) : Prop :=
  ∀ ls t, Run.exec (step A) s ls = some t → ∀ v, t.clock ≤ v →
    ∀ r, (refresh A v token t.auth).1 ≠ .ok r

/-- The logout falls into the last second of the token's life.  An `exp` of 0 is falsy and gives the
    marker an hour. -/
def Covered (u : K) (exp : Int) : Prop := if exp = 0 then 1 ≤ u + 3600 else (exp : K) < u + 1

/-! ## The end of the marker and the end of the token -/

section Ends

theorem markerTtl_zero (u : K) : markerTtl u 0 = 3600 := rfl

theorem markerTtl_pos (u : K) (exp : Int) : 0 < markerTtl u exp := by
  have hmax : 0 ≤ (if exp = 0 then 0 else max (truncate ((exp : K) - u)) 0) := by
    split
    · exact le_refl 0
    · exact le_max_right ..
  unfold markerTtl
  dsimp only
  split
  · omega
  · omega

/-- Less than a second is truncated to none. -/
theorem truncate_eq_zero {x : K} (hlow : -1 < x) (hhigh : x < 1) : truncate x = 0 := by
  rw [truncate]
  by_cases h : 0 ≤ x
  · rw [if_pos h]
    exact Int.floor_eq_zero_iff.mpr ⟨h, hhigh⟩
  · rw [if_neg h, Int.ceil_eq_iff]
    constructor
    · simpa using hlow
    · simpa using (not_le.mp h).le

variable [IsStrictOrderedRing K]

/-- In the last second the marker gets its hour. -/
theorem markerTtl_short {u : K} {exp : Int} (hlow : u < exp + 1) (hhigh : (exp : K) < u + 1) :
    markerTtl u exp = 3600 := by
  have htrunc : truncate ((exp : K) - u) = 0 := truncate_eq_zero (by linarith) (by linarith)
  rw [markerTtl, htrunc]
  split
  · rfl
  · rfl

/-- Before the last second it gets the whole seconds that are left. -/
theorem markerTtl_long {u : K} {exp : Int} (hne : exp ≠ 0) (h : u + 1 ≤ exp) :
    markerTtl u exp = ⌊(exp : K) - u⌋ := by
  have hone : 1 ≤ ⌊(exp : K) - u⌋ := by
    apply Int.le_floor.mpr
    rw [Int.cast_one]
    linarith
  have htrunc : truncate ((exp : K) - u) = ⌊(exp : K) - u⌋ := by
    rw [truncate, if_pos (by linarith)]
  have hmax : max ⌊(exp : K) - u⌋ 0 = ⌊(exp : K) - u⌋ := max_eq_left (by omega)
  rw [markerTtl, if_neg hne, htrunc, hmax]
  exact if_neg (by omega)

/-- **The marker outlives the token** exactly in the token's last second. -/
theorem outlives_iff {u : K} {exp : Int} (hvalid : ⌊u⌋ ≤ exp) :
    (exp : K) + 1 ≤ u + (markerTtl u exp : Int) ↔ Covered u exp := by
  have hlow : u < exp + 1 := by
    have hfloor : u < ⌊u⌋ + 1 := Int.lt_floor_add_one u
    have hcast : ((⌊u⌋ : Int) : K) ≤ exp := Int.cast_le.mpr hvalid
    linarith
  rw [Covered]
  by_cases hne : exp = 0
  · subst hne
    rw [if_pos rfl, markerTtl_zero]
    norm_num
  · rw [if_neg hne]
    rcases lt_or_ge (exp : K) (u + 1) with hshort | hlong
    · rw [markerTtl_short hlow hshort]
      refine iff_of_true ?_ hshort
      push_cast
      linarith
    · rw [markerTtl_long hne hlong]
      have hfloor : ((⌊(exp : K) - u⌋ : Int) : K) ≤ exp - u := Int.floor_le _
      refine iff_of_false ?_ (not_lt.mpr hlong)
      intro hle
      linarith

omit [FloorRing K] in
/-- Once covered, covered at any later time. -/
theorem Covered.mono {u v : K} {exp : Int} (huv : u ≤ v) (h : Covered u exp) : Covered v exp := by
  unfold Covered at h ⊢
  by_cases hzero : exp = 0
  · rw [if_pos hzero] at h ⊢
    linarith
  · rw [if_neg hzero] at h ⊢
    linarith

end Ends

/-! ## The two requests -/

section Requests

variable {A} {token : τ} {s s' : Auth τ K} {c : Claims}

/-- A logout raises and changes nothing, or sets the marker of a token that is still good. -/
theorem postLogout_cases (A : AuthEnv τ) (u : K) (credentials : Option τ) (token : τ)
    (s : Auth τ K) :
    (∃ e, postLogout A u credentials token s = (.error e, s)) ∨
      ∃ c, A.jose.verify token = some c ∧ c.type = .refresh ∧ ⌊u⌋ ≤ c.exp ∧
        postLogout A u credentials token s = (.ok (), { s with
          revoked := Function.update s.revoked token (some (u + (markerTtl u c.exp : Int))) }) := by
  have hread : (onAccounts (getCurrentUser A u credentials) s).2 = s :=
    onAccounts_readOnly (getCurrentUser_readOnly A u credentials) s
  rw [postLogout]
  rcases hcur : onAccounts (getCurrentUser A u credentials) s with ⟨e | user, t⟩
  · rw [hcur] at hread
    obtain rfl : t = s := hread
    exact .inl ⟨e, Act.bind_of_error hcur⟩
  · rw [hcur] at hread
    obtain rfl : t = s := hread
    rw [Act.bind_of_ok hcur]
    rw [logout]
    cases hdec : decodeToken A u token with
    | none => exact .inl ⟨_, rfl⟩
    | some c =>
      obtain ⟨hver, hexp⟩ := decodeToken_eq_some.mp hdec
      dsimp only
      by_cases htype : c.type = .refresh
      · rw [if_pos htype]
        exact .inr ⟨c, hver, htype, hexp, rfl⟩
      · rw [if_neg htype]
        exact .inl ⟨_, rfl⟩

omit [DecidableEq τ] in
/-- While the marker is there, or after the token's last second, a refresh raises. -/
theorem refresh_refused {v : K} (hc : A.jose.verify token = some c)
    (h : isRevoked v s token = true ∨ c.exp < ⌊v⌋) (r : Tokens τ) :
    (refresh A v token s).1 ≠ .ok r := by
  intro hr
  cases hmark : isRevoked v s token with
  | true =>
    have hraise : refresh A v token s = (.error (unauthorizedError "Refresh token revoked"), s) := by
      rw [refresh, Act.read_bind, hmark]
      rfl
    rw [hraise] at hr
    cases hr
  | false =>
    have hexp : c.exp < ⌊v⌋ := by
      rcases h with h | h
      · rw [hmark] at h
        cases h
      · exact h
    have hdec : decodeToken A v token = none := by
      cases hd : decodeToken A v token with
      | none => rfl
      | some d =>
        obtain ⟨hver, hle⟩ := decodeToken_eq_some.mp hd
        obtain rfl : c = d := Option.some.inj (hc.symm.trans hver)
        omega
    have hraise : (refresh A v token s).1 = .error (unauthorizedError "Invalid refresh token") := by
      unfold refresh onAccounts refreshAccessToken
      rw [Act.read_bind, hmark, hdec]
      rfl
    rw [hraise] at hr
    cases hr

omit [DecidableEq τ] in
/-- Without a marker, a token that is still good refreshes an active user's session. -/
theorem refresh_passes {v : K} {user : User} (hc : A.jose.verify token = some c)
    (htype : c.type = .refresh) (hexp : ⌊v⌋ ≤ c.exp) (hmark : isRevoked v s token = false)
    (huser : activeUsers c.sub s.accounts = [user]) :
    (refresh A v token s).1 = .ok (issueTokens A v user) := by
  have hdec : decodeToken A v token = some c := decodeToken_eq_some.mpr ⟨hc, hexp⟩
  have hservice : refreshAccessToken A v token s.accounts = (.ok (issueTokens A v user), s.accounts) := by
    rw [refreshAccessToken, hdec]
    dsimp only
    rw [if_pos htype, Act.read_bind, huser]
    rfl
  rw [refresh, Act.read_bind, hmark]
  show (onAccounts (refreshAccessToken A v token) s).1 = _
  rw [onAccounts, hservice]

end Requests

/-! ## Runs after the logout -/

section Runs

variable {A} [IsStrictOrderedRing K]

/-- The marker of the token is there for longer than the token is good. -/
def Held (token : τ) (c : Claims) (u : K) (s : Sessions τ K) : Prop :=
  u ≤ s.clock ∧ ∃ e, s.auth.revoked token = some e ∧ (c.exp : K) + 1 ≤ e

/-- A covered token stays held: its marker may be set again, but not to an earlier end. -/
theorem held_step {token : τ} {c : Claims} {u : K} (hc : A.jose.verify token = some c)
    (hcov : Covered u c.exp) (s : Sessions τ K) (l : Label τ K) (s' : Sessions τ K)
    (hs : step A s l = some s') (h : Held token c u s) : Held token c u s' := by
  obtain ⟨htime, rfl⟩ := Run.guardedStep_eq_some.mp hs
  obtain ⟨hclock, e, he, hend⟩ := h
  have hlater : u ≤ l.time := hclock.trans htime
  cases l with
  | tables v accounts => exact ⟨hlater, e, he, hend⟩
  | logout v credentials other =>
    refine ⟨hlater, ?_⟩
    show ∃ e, (postLogout A v credentials other s.auth).2.revoked token = some e ∧ _
    rcases postLogout_cases A v credentials other s.auth with ⟨err, hrun⟩ | ⟨d, hd, -, hexp, hrun⟩
    · rw [hrun]
      exact ⟨e, he, hend⟩
    · rw [hrun]
      dsimp only
      by_cases hsame : token = other
      · subst hsame
        obtain rfl : c = d := Option.some.inj (hc.symm.trans hd)
        rw [Function.update_self]
        exact ⟨_, rfl, (outlives_iff hexp).mpr (hcov.mono hlater)⟩
      · rw [Function.update_of_ne hsame]
        exact ⟨e, he, hend⟩

omit [DecidableEq τ] in
/-- A held token is refused. -/
theorem Held.refused {token : τ} {c : Claims} {u v : K} {s : Sessions τ K} (h : Held token c u s)
    (hc : A.jose.verify token = some c) (r : Tokens τ) : (refresh A v token s.auth).1 ≠ .ok r := by
  obtain ⟨-, e, he, hend⟩ := h
  apply refresh_refused hc
  rw [isRevoked, he]
  rcases lt_or_ge v e with hlive | hover
  · exact .inl (decide_eq_true hlive)
  · right
    apply Int.lt_floor_iff.mpr
    linarith

/-- Somebody the token belongs to. -/
def owner (c : Claims) : User := ⟨c.sub, "user", "hash", "viewer", true, none⟩

/-- When the marker has ended and the token has not, its owner gets new tokens. -/
theorem refresh_after_marker {token : τ} {c : Claims} {u : K} {s : Auth τ K}
    (hc : A.jose.verify token = some c) (htype : c.type = .refresh)
    (hmark : s.revoked token = some (u + (markerTtl u c.exp : Int)))
    (hearly : u + (markerTtl u c.exp : Int) < (c.exp : K) + 1) : ¬ Final A token ⟨u, s⟩ := by
  intro hfinal
  have hpos : (0 : K) < (markerTtl u c.exp : Int) := Int.cast_pos.mpr (markerTtl_pos u c.exp)
  generalize hv : u + (markerTtl u c.exp : Int) = v at hmark hearly
  have hlater : u ≤ v := by linarith
  have hgood : ⌊v⌋ ≤ c.exp := by
    have hlt : ⌊v⌋ < c.exp + 1 := by
      apply Int.floor_lt.mpr
      push_cast
      exact hearly
    omega
  have hrun : Run.exec (step A) ⟨u, s⟩ [.tables v ⟨[owner c], [], [], []⟩] =
      some ⟨v, ⟨⟨[owner c], [], [], []⟩, s.revoked⟩⟩ :=
    Run.exec_cons_eq.mpr ⟨_, Run.guardedStep_eq_some.mpr ⟨hlater, rfl⟩, rfl⟩
  have hgone : isRevoked v (⟨⟨[owner c], [], [], []⟩, s.revoked⟩ : Auth τ K) token = false := by
    rw [isRevoked]
    dsimp only
    rw [hmark]
    exact decide_eq_false (lt_irrefl _)
  have huser : activeUsers c.sub ⟨[owner c], [], [], []⟩ = [owner c] := by
    show List.filter _ [owner c] = [owner c]
    simp [owner]
  exact hfinal _ _ hrun v le_rfl _ (refresh_passes hc htype hgood hgone huser)

/-- **Logging out is final** exactly when it happens in the last second of the token's life.

    The marker lives for `int(exp - now)` seconds, and `decode_token` accepts a token to the end of its last whole
    second.  So there is a gap between the two, unless the fallback of an hour applies. -/
theorem logout_final_iff {token : τ} {u : K} {credentials : Option τ} {s s' : Auth τ K}
    (hout : postLogout A u credentials token s = (.ok (), s')) :
    Final A token ⟨u, s'⟩ ↔ ∀ c, A.jose.verify token = some c → Covered u c.exp := by
  rcases postLogout_cases A u credentials token s with ⟨e, hrun⟩ | ⟨c, hc, htype, hexp, hrun⟩
  · rw [hrun] at hout
    cases hout
  · obtain rfl : _ = s' := (Prod.mk.inj (hrun.symm.trans hout)).2
    constructor
    · intro hfinal d hd
      obtain rfl : c = d := Option.some.inj (hc.symm.trans hd)
      by_contra hno
      have hearly := not_le.mp (mt (outlives_iff hexp).mp hno)
      exact refresh_after_marker hc htype (Function.update_self ..) hearly hfinal
    · intro hcov ls t ht v _ r
      have hheld : Held token c u t := by
        refine Run.exec_inv (C := fun _ _ => True)
          (fun s l s' _ hs => held_step hc (hcov c hc) s l s' hs) (Run.guarded_true ls _) ht ?_
        exact ⟨le_rfl, _, Function.update_self .., (outlives_iff hexp).mpr (hcov c hc)⟩
      exact hheld.refused hc r

end Runs

/-! ## A token that expires in second 10 -/

/-- A refresh token that expires at 10. -/
def refreshToken : Claims := { sub := 1, exp := 10, type := .refresh }

/-- One active user. -/
def start : Auth Claims ℚ where
  accounts := ⟨[.sample 1 "admin" "admin"], [], [], []⟩
  revoked := fun _ => none

/-- Logged out in the last second, at 9.5. -/
theorem logout_final_in_time :
    Final .sample refreshToken ⟨19 / 2, (postLogout .sample (19 / 2 : ℚ) (some (Claims.accessOf 1)) refreshToken
      start).2⟩ := by
  have hout : postLogout .sample (19 / 2 : ℚ) (some (Claims.accessOf 1)) refreshToken start =
      (.ok (), (postLogout .sample (19 / 2 : ℚ) (some (Claims.accessOf 1)) refreshToken start).2) := by
    have hok : (postLogout .sample (19 / 2 : ℚ) (some (Claims.accessOf 1)) refreshToken start).1 = .ok () := by
      decide +kernel
    exact Prod.ext hok rfl
  refine (logout_final_iff hout).mpr fun c hc => ?_
  obtain rfl : refreshToken = c := Option.some.inj hc
  show (if (10 : Int) = 0 then _ else ((10 : Int) : ℚ) < 19 / 2 + 1)
  norm_num

/-- Logged out at 0.5, the marker ends at 9.5 and the token is still good at 10. -/
theorem logout_not_final :
    (postLogout .sample (1 / 2 : ℚ) (some (Claims.accessOf 1)) refreshToken start).1 = .ok () ∧
      (refresh .sample (10 : ℚ) refreshToken
        (postLogout .sample (1 / 2 : ℚ) (some (Claims.accessOf 1)) refreshToken start).2).1.isOk = true := by
  decide +kernel

end Sessions

end Dtsys
