/-
  THE API CLIENT of the web page (`frontend/src/api/client.ts`), beside that of the app
  (`mobile/src/api/client.ts`).

  Both retry a request that was answered with 401 once the access token has been refreshed, and both
  do so by sending it through the client again — so its answer comes back to the same interceptor.
  The app marks the request with `_retry`; the page does not.

  A call is a sequence of ROUNDS: the request is sent, its answer arrives, and the interceptor lets
  it pass, gives up, or sends it again.  What the server answers and what the rest of the page does
  to `localStorage` in the meantime is given for each round.

  * `webRound`, `mobileRound` — one round.
  * `Ends` — the call settles after at most two requests and one refresh.
  * `mobile_ends` — in the app, always; `web_ends_iff` — on the page, unless the second answer is
    a 401 as well.
-/
import Mathlib.Logic.Basic

namespace Dtsys

namespace Web

/-! ## A call -/

/-- `localStorage` (in the app `SecureStore`), as far as the client reads it. -/
structure Tokens where
  accessToken : Option String
  refreshToken : Option String
  deriving DecidableEq, Repr

/-- `if (token)`. -/
def present : Option String → Bool
  | some token => token != ""
  | none => false

/-- What the caller gets. -/
inductive Settled
  | resolved (status : Nat)
  | rejected (status : Option Nat)
  deriving DecidableEq, Repr

/-- What `/auth/refresh` answers: an access token and a refresh token. -/
structure Renewal where
  accessToken : String
  refreshToken : String
  deriving DecidableEq, Repr

/-- A round, from outside: the status of the answer (`none`: there was none), what happened to the
    tokens until it arrived, and what a refresh would get (`none`: it fails). -/
structure Round where
  status : Option Nat
  meanwhile : Tokens → Tokens
  refresh : Option Renewal

/-- A call made through the client. -/
structure Call where
  tokens : Tokens
  authorization : Option String
  retry : Bool
  sent : Nat
  refreshes : Nat
  outcome : Option Settled

/-- The call is made. -/
def Call.made (tokens : Tokens) : Call := ⟨tokens, none, false, 0, 0, none⟩

/-- The request interceptor, the request, and the time until its answer. -/
def Call.send (r : Round) (c : Call) : Call :=
  { c with authorization := if present c.tokens.accessToken then c.tokens.accessToken
                            else c.authorization
           sent := c.sent + 1
           tokens := r.meanwhile c.tokens }

/-- An answer that the interceptor does not touch. -/
def Call.settle (status : Option Nat) (c : Call) : Call :=
  { c with outcome := some (match status with
      | some s => if 200 ≤ s ∧ s < 300 then .resolved s else .rejected status
      | none => .rejected none) }

/-- `catch`: the tokens are removed, and the error is passed on. -/
def Call.giveUp (c : Call) : Call :=
  { c with tokens := ⟨none, none⟩, outcome := some (.rejected (some 401)) }

/-- `POST /auth/refresh`; if it succeeds the tokens are saved and the request is to be sent again. -/
def Call.refresh (save : Renewal → Tokens → Tokens) (answer : Option Renewal) (c : Call) : Call :=
  match answer with
  | some renewal =>
    { c with tokens := save renewal c.tokens
             authorization := some renewal.accessToken
             refreshes := c.refreshes + 1 }
  | none => { c.giveUp with refreshes := c.refreshes + 1 }

/-- The page keeps its refresh token. -/
def saveAccessToken (renewal : Renewal) (tokens : Tokens) : Tokens :=
  { tokens with accessToken := some renewal.accessToken }

/-- `saveTokens` of the app. -/
def saveTokens (renewal : Renewal) (_ : Tokens) : Tokens :=
  ⟨some renewal.accessToken, some renewal.refreshToken⟩

/-- One round on the page. -/
def webRound (r : Round) (c : Call) : Call :=
  if c.outcome.isSome then c
  else if r.status = some 401 ∧ present (c.send r).tokens.refreshToken then
    (c.send r).refresh saveAccessToken r.refresh
  else (c.send r).settle r.status

/-- One round in the app. -/
def mobileRound (r : Round) (c : Call) : Call :=
  if c.outcome.isSome then c
  else if r.status = some 401 ∧ c.retry = false then
    -- `original._retry = true`; without a refresh token it throws into the same `catch`
    if present (c.send r).tokens.refreshToken then
      { c.send r with retry := true }.refresh saveTokens r.refresh
    else { c.send r with retry := true }.giveUp
  else (c.send r).settle r.status

/-- The call after `n` rounds. -/
def callAfter (round : Round → Call → Call) (env : Nat → Round) (tokens : Tokens) : Nat → Call
  | 0 => .made tokens
  | n + 1 => round (env n) (callAfter round env tokens n)

/-- The call settles, after at most two requests and one refresh. -/
def Ends (round : Round → Call → Call) (env : Nat → Round) (tokens : Tokens) : Prop :=
  ∃ n, (callAfter round env tokens n).outcome.isSome = true ∧
    (callAfter round env tokens n).sent ≤ 2 ∧ (callAfter round env tokens n).refreshes ≤ 1

/-! ## Rounds -/

variable {r : Round} {c : Call}

theorem webRound_settled (h : c.outcome.isSome = true) : webRound r c = c := if_pos h

/-- A round that does not refresh settles the call. -/
theorem webRound_settles (hopen : c.outcome = none)
    (hno : ¬ (r.status = some 401 ∧ present (r.meanwhile c.tokens).refreshToken = true)) :
    webRound r c = (c.send r).settle r.status := by
  rw [webRound, hopen]
  exact if_neg hno

/-- A 401 with a refresh token asks for another. -/
theorem webRound_refreshes (hopen : c.outcome = none)
    (h : r.status = some 401 ∧ present (r.meanwhile c.tokens).refreshToken = true) :
    webRound r c = (c.send r).refresh saveAccessToken r.refresh := by
  rw [webRound, hopen]
  exact if_pos h

/-- The number of refreshes never goes down. -/
theorem webRound_mono (r : Round) (c : Call) : c.refreshes ≤ (webRound r c).refreshes := by
  by_cases hsettled : c.outcome.isSome = true
  · exact Nat.le_of_eq (congrArg Call.refreshes (webRound_settled hsettled)).symm
  have hopen : c.outcome = none := by simpa using hsettled
  by_cases h : r.status = some 401 ∧ present (r.meanwhile c.tokens).refreshToken = true
  · rw [webRound_refreshes hopen h]
    cases r.refresh <;> exact Nat.le_succ _
  · rw [webRound_settles hopen h]
    exact Nat.le_refl _

theorem callAfter_mono (env : Nat → Round) (tokens : Tokens) (n : Nat) : ∀ k,
    (callAfter webRound env tokens n).refreshes ≤
      (callAfter webRound env tokens (n + k)).refreshes := by
  intro k
  induction k with
  | zero => exact Nat.le_refl _
  | succ k ih => exact Nat.le_trans ih (webRound_mono (env (n + k)) _)

/-! ## When a call ends -/

/-- What is no 401, or is one for a marked request, settles the call. -/
theorem mobileRound_settles (hopen : c.outcome = none)
    (hno : ¬ (r.status = some 401 ∧ c.retry = false)) :
    mobileRound r c = (c.send r).settle r.status := by
  rw [mobileRound, if_neg (by simp [hopen]), if_neg hno]

/-- What the mobile client does at its first 401. -/
theorem mobileRound_unauthorized (hopen : c.outcome = none) (hstatus : r.status = some 401)
    (hretry : c.retry = false) :
    mobileRound r c = if present (r.meanwhile c.tokens).refreshToken then
        { c.send r with retry := true }.refresh saveTokens r.refresh
      else { c.send r with retry := true }.giveUp := by
  rw [mobileRound, if_neg (by simp [hopen]), if_pos ⟨hstatus, hretry⟩]
  rfl

/-- In the app a call always ends. -/
theorem mobile_ends (env : Nat → Round) (tokens : Tokens) : Ends mobileRound env tokens := by
  by_cases hunauth : (env 0).status = some 401
  · have hone : callAfter mobileRound env tokens 1 = _ :=
      mobileRound_unauthorized (c := .made tokens) rfl hunauth rfl
    by_cases htoken : present ((env 0).meanwhile (Call.made tokens).tokens).refreshToken = true
    · rw [if_pos htoken] at hone
      rcases hrefresh : (env 0).refresh with _ | renewal <;> rw [hrefresh] at hone
      · exact ⟨1, hone ▸ ⟨rfl, Nat.le_succ 1, Nat.le_refl 1⟩⟩
      · -- the request is marked: the second answer settles the call, whatever it is
        have htwo : callAfter mobileRound env tokens 2 = _ :=
          mobileRound_settles (r := env 1) (c := callAfter mobileRound env tokens 1)
            (by rw [hone]; rfl) (fun h => by rw [hone] at h; cases h.2)
        rw [hone] at htwo
        exact ⟨2, htwo ▸ ⟨rfl, Nat.le_refl 2, Nat.le_refl 1⟩⟩
    · rw [if_neg htoken] at hone
      exact ⟨1, hone ▸ ⟨rfl, Nat.le_succ 1, Nat.zero_le 1⟩⟩
  · have hone : callAfter mobileRound env tokens 1 = _ :=
      mobileRound_settles (c := .made tokens) rfl fun h => hunauth h.1
    exact ⟨1, hone ▸ ⟨rfl, Nat.le_succ 1, Nat.zero_le 1⟩⟩

/-- The first answer is a 401 and the refresh succeeds: the request is sent again. -/
def RetriedWith (env : Nat → Round) (tokens : Tokens) (renewal : Renewal) : Prop :=
  (env 0).status = some 401 ∧ present ((env 0).meanwhile tokens).refreshToken = true ∧
    (env 0).refresh = some renewal

/-- The second answer is a 401 too, and there is still a refresh token. -/
def UnauthorizedAgain (env : Nat → Round) (tokens : Tokens) (renewal : Renewal) : Prop :=
  (env 1).status = some 401 ∧
    present ((env 1).meanwhile
      (saveAccessToken renewal ((env 0).meanwhile tokens))).refreshToken = true

theorem callAfter_retried {env : Nat → Round} {tokens : Tokens} {renewal : Renewal}
    (h : RetriedWith env tokens renewal) : callAfter webRound env tokens 1 =
      ((Call.made tokens).send (env 0)).refresh saveAccessToken (some renewal) := by
  rw [← h.2.2]
  exact webRound_refreshes rfl ⟨h.1, h.2.1⟩

/-- **A call made on the page ends** unless the retried request is answered with a 401 as well.

    The interceptor does not mark the request that it retries, so a second 401 is answered like the first.  Inside
    the condition the call settles after two requests at most. -/
theorem web_ends_iff (env : Nat → Round) (tokens : Tokens) :
    Ends webRound env tokens ↔
      ¬ ∃ renewal, RetriedWith env tokens renewal ∧ UnauthorizedAgain env tokens renewal := by
  constructor
  · rintro ⟨n, hsettled, -, hrefreshes⟩ ⟨renewal, hretried, hagain⟩
    -- After the first round the retry is in hand, after the second a second refresh has been made.
    have hone := callAfter_retried hretried
    have hopen : (callAfter webRound env tokens 1).outcome = none := by rw [hone]; rfl
    have htwo : (callAfter webRound env tokens 2).refreshes = 2 := by
      have hround := webRound_refreshes (r := env 1) hopen (by rw [hone]; exact hagain)
      show (webRound (env 1) _).refreshes = 2
      rw [hround, hone]
      cases (env 1).refresh <;> rfl
    match n with
    | 0 => cases hsettled
    | 1 =>
      rw [hopen] at hsettled
      cases hsettled
    | k + 2 =>
      have hmono := callAfter_mono env tokens 2 k
      rw [Nat.add_comm 2 k] at hmono
      omega
  · intro hno
    by_cases hfirst : (env 0).status = some 401 ∧
        present ((env 0).meanwhile tokens).refreshToken = true
    · have hone : callAfter webRound env tokens 1 =
          ((Call.made tokens).send (env 0)).refresh saveAccessToken (env 0).refresh :=
        webRound_refreshes rfl hfirst
      rcases hrefresh : (env 0).refresh with _ | renewal <;> rw [hrefresh] at hone
      · exact ⟨1, hone ▸ ⟨rfl, Nat.le_succ 1, Nat.le_refl 1⟩⟩
      · have hretried : RetriedWith env tokens renewal := ⟨hfirst.1, hfirst.2, hrefresh⟩
        have hround := webRound_settles (r := env 1) (c := callAfter webRound env tokens 1)
          (by rw [hone]; rfl) (fun hagain => hno ⟨renewal, hretried, by rwa [hone] at hagain⟩)
        refine ⟨2, ?_⟩
        show (webRound (env 1) _).outcome.isSome = true ∧ (webRound (env 1) _).sent ≤ 2 ∧
          (webRound (env 1) _).refreshes ≤ 1
        rw [hround, hone]
        exact ⟨rfl, Nat.le_refl 2, Nat.le_refl 1⟩
    · have hone : callAfter webRound env tokens 1 =
          ((Call.made tokens).send (env 0)).settle (env 0).status := webRound_settles rfl hfirst
      exact ⟨1, hone ▸ ⟨rfl, Nat.le_succ 1, Nat.zero_le 1⟩⟩

/-! ## A user without an active organization -/

/-- The tokens of a user who is logged in. -/
def loggedIn : Tokens := ⟨some "access", some "refresh"⟩

/-- Every request is answered with 401, every refresh with a token. -/
def alwaysUnauthorized : Nat → Round :=
  fun _ => ⟨some 401, id, some ⟨"access", "refresh"⟩⟩

/-- The call is still open after any number of rounds, and has sent a request in each. -/
theorem callAfter_unauthorized : ∀ n,
    (callAfter webRound alwaysUnauthorized loggedIn n).outcome = none ∧
      (callAfter webRound alwaysUnauthorized loggedIn n).sent = n ∧
      (callAfter webRound alwaysUnauthorized loggedIn n).tokens = loggedIn := by
  intro n
  induction n with
  | zero => exact ⟨rfl, rfl, rfl⟩
  | succ n ih =>
    obtain ⟨hopen, hsent, htokens⟩ := ih
    have hround := webRound_refreshes (r := alwaysUnauthorized n) hopen
      ⟨rfl, show present (id _ : Tokens).refreshToken = true by rw [htokens]; rfl⟩
    show (webRound _ _).outcome = none ∧ (webRound _ _).sent = n + 1 ∧ (webRound _ _).tokens = _
    rw [hround]
    refine ⟨hopen, congrArg (· + 1) hsent, ?_⟩
    show saveAccessToken ⟨"access", "refresh"⟩
      (callAfter webRound alwaysUnauthorized loggedIn n).tokens = loggedIn
    rw [htokens]
    rfl

/-- It never settles. -/
theorem web_never_ends : ¬ Ends webRound alwaysUnauthorized loggedIn := by
  rintro ⟨n, hsettled, -⟩
  rw [(callAfter_unauthorized n).1] at hsettled
  cases hsettled

end Web

end Dtsys
