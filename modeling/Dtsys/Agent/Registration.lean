/-
  REGISTRATION of an agent that has no credentials (`register` of `cmd/agent/main.go`).

  The loop posts, looks at the answer, and either returns or sleeps and posts again.  One turn of it is a
  function of the answer (`turn`); the operator is asked for credentials after a 409, and `Save` may fail.

  * `register_waits` — how long the loop sleeps after each attempt, whatever the answers are.
  * `turn_unattended` — where the credentials in memory come from.

  `json.Unmarshal` is a parameter.
-/
import Dtsys.Agent.ConfigFile
import Dtsys.Agent.Events

namespace Dtsys

namespace Agent

/-- `registerResponse`. -/
structure RegisterResponse where
  deviceId : String
  apiKey : String
  deriving DecidableEq, Repr

/-- What `client.Post` gives. -/
inductive Posted
  | failed (err : String)
  | answered (statusCode : Nat) (body : String)
  deriving DecidableEq, Repr

/-- What `attemptRegistration` returns. -/
structure Attempt where
  result : RegisterResponse
  statusCode : Nat
  responseBody : String
  err : Option String

/-- What the operator types; `none`: `Scanln` fails. -/
structure Typed where
  deviceId : Option String
  apiKey : Option String

/-- How `register` ends. -/
inductive RegisterEnd
  | registered
  | error (text : String)
  /-- the process stops while it saves the configuration -/
  | stopped
  deriving DecidableEq, Repr

/-- The variables of the loop, the configuration file, and the status file that is written when nothing
    helps. -/
structure RegisterLoop where
  attempt : Nat
  /-- seconds -/
  backoff : Nat
  memory : Config
  file : FileBytes
  status : Option String

/-- How a turn of the loop ends. -/
inductive Turn
  | ended (how : RegisterEnd) (s : RegisterLoop)
  | sleeps (secs : Nat) (s : RegisterLoop)

/-- `5 * time.Minute`. -/
def fiveMinutes : Nat := 300

/-- The variables in front of the loop. -/
def RegisterLoop.start (cfg : Config) (file : FileBytes) : RegisterLoop := ⟨0, 5, cfg, file, none⟩

section

variable (unmarshal : String → Except String RegisterResponse)

/-- `attemptRegistration`, by what the request has given. -/
def attemptRegistration : Posted → Attempt
  | .failed err => ⟨⟨"", ""⟩, 0, "", some ("register request: " ++ err)⟩
  | .answered statusCode body =>
    if statusCode ≠ 200 then
      ⟨⟨"", ""⟩, statusCode, (trimSpace (.ofString body)).text, some s!"server returned {statusCode}"⟩
    else
      match unmarshal body with
      | .error err => ⟨⟨"", ""⟩, statusCode, body, some ("parse response: " ++ err)⟩
      | .ok result => ⟨result, statusCode, body, none⟩

end

variable (encode : Config → FileBytes)

/-- `config.Save(cfgPath, cfg)` with new credentials in memory. -/
def RegisterLoop.save (s : RegisterLoop) (deviceId apiKey : String) (run : SaveRun) : RegisterLoop :=
  let cfg := { s.memory with deviceId := deviceId, apiKey := apiKey }
  { s with memory := cfg, file := savedFile encode s.file cfg run }

/-- What the operator has typed, if it is not blank. -/
def answeredPrompt (typed : Option String) : Option String :=
  typed.bind fun text =>
    let text := (trimSpace (.ofString text)).text
    if text = "" then none else some text

/-- `reuseExistingCredentials`: whether `register` ends with it, and what is in memory then. -/
def reuseExistingCredentials (s : RegisterLoop) (typed : Typed) (run : SaveRun) :
    Option RegisterEnd × RegisterLoop :=
  match answeredPrompt typed.deviceId, answeredPrompt typed.apiKey with
  | some deviceId, some apiKey =>
    (if run.stops then some .stopped else if run.reportsError then none else some .registered,
      s.save encode deviceId apiKey run)
  | _, _ => (none, s)

/-- `register` sleeps: after `attempt` attempts, the last of them with this status code. -/
def waitAfter (attempt backoff statusCode : Nat) : Nat :=
  if 10 ≤ attempt then fiveMinutes
  else if 400 ≤ statusCode ∧ statusCode < 500 ∧ statusCode ≠ 409 then fiveMinutes
  else backoff

/-- `backoff *= 2`, up to five minutes. -/
def nextBackoff (backoff : Nat) : Nat := if backoff < fiveMinutes then min (backoff * 2) fiveMinutes else backoff

/-- The text of `%v` of an error. -/
def errorText (err : Option String) : String := err.getD "<nil>"

/-- The variables after a turn that does not return. -/
def RegisterLoop.next (s : RegisterLoop) (a : Attempt) : RegisterLoop :=
  { s with
    backoff := nextBackoff s.backoff
    status := if 10 ≤ s.attempt then
        some s!"registration still failing after {s.attempt} attempts: {errorText a.err} {a.responseBody}\n"
      else s.status }

/-- The end of a turn: `time.Sleep(wait)`, and the next `backoff`. -/
def RegisterLoop.sleep (s : RegisterLoop) (a : Attempt) : Turn :=
  .sleeps (waitAfter s.attempt s.backoff a.statusCode) (s.next a)

variable (unmarshal : String → Except String RegisterResponse)

/-- One turn of the loop of `register`. -/
def turn (s : RegisterLoop) (posted : Posted) (typed : Typed) (run : SaveRun) : Turn :=
  let s := { s with attempt := s.attempt + 1 }
  let a := attemptRegistration unmarshal posted
  if a.err = none ∧ a.statusCode = 200 then
    .ended (if run.stops then .stopped else if run.reportsError then .error "save config" else .registered)
      (s.save encode a.result.deviceId a.result.apiKey run)
  else if a.statusCode = 400 then
    .ended (.error "registration failed: invalid or expired enrollment token") s
  else if a.statusCode = 409 then
    match reuseExistingCredentials encode s typed run with
    | (some how, s) => .ended how s
    | (none, s) => s.sleep a
  else s.sleep a

/-- What one turn is given from outside. -/
structure Answer where
  posted : Posted
  typed : Typed
  run : SaveRun

/-- `register`, given one answer after the other: how long it has slept each time, and how it has ended. -/
def register : RegisterLoop → List Answer → List Nat × Option RegisterEnd × RegisterLoop
  | s, [] => ([], none, s)
  | s, x :: xs =>
    match turn encode unmarshal s x.posted x.typed x.run with
    | .ended how s => ([], some how, s)
    | .sleeps secs s =>
      let rest := register s xs
      (secs :: rest.1, rest.2)

/-! ## How long it sleeps -/

/-- The operator has typed credentials, and `Save` has returned no error. -/
def Answer.reused (x : Answer) : Bool :=
  (answeredPrompt x.typed.deviceId).isSome && (answeredPrompt x.typed.apiKey).isSome &&
    (x.run.stops || !x.run.reportsError)

/-- The loop ends with this answer. -/
def Answer.ends (x : Answer) : Bool :=
  let a := attemptRegistration unmarshal x.posted
  (a.err.isNone && a.statusCode == 200) || a.statusCode == 400 || (a.statusCode == 409 && x.reused)

/-- The status code of the attempt; 0 if the request has failed. -/
def Answer.statusCode (x : Answer) : Nat := (attemptRegistration unmarshal x.posted).statusCode

/-- The wait after the `n`-th attempt. -/
def waitOf (n statusCode : Nat) : Nat :=
  if 10 ≤ n ∨ (400 ≤ statusCode ∧ statusCode < 500 ∧ statusCode ≠ 409) then 300 else min (5 * 2 ^ (n - 1)) 300

/-- `backoff` after `n` attempts. -/
def backoffAfter (n : Nat) : Nat := min (5 * 2 ^ n) 300

theorem nextBackoff_after (n : Nat) : nextBackoff (backoffAfter n) = backoffAfter (n + 1) := by
  rw [nextBackoff, backoffAfter, backoffAfter, fiveMinutes, pow_succ]
  split
  · omega
  · omega

/-- The wait of an attempt, in closed form. -/
theorem waitAfter_after (n statusCode : Nat) :
    waitAfter (n + 1) (backoffAfter n) statusCode = waitOf (n + 1) statusCode := by
  rw [waitAfter, waitOf, fiveMinutes, Nat.add_sub_cancel]
  by_cases hten : 10 ≤ n + 1
  · rw [if_pos hten, if_pos (.inl hten)]
  · by_cases hcode : 400 ≤ statusCode ∧ statusCode < 500 ∧ statusCode ≠ 409
    · rw [if_neg hten, if_pos hcode, if_pos (.inr hcode)]
    · rw [if_neg hten, if_neg hcode, if_neg (not_or.mpr ⟨hten, hcode⟩)]
      rfl

variable {encode} {unmarshal} {s : RegisterLoop}

/-- The reuse ends the loop exactly if somebody types credentials that can be saved. -/
theorem reuse_ends (x : Answer) :
    (reuseExistingCredentials encode s x.typed x.run).1.isSome = x.reused := by
  rw [reuseExistingCredentials, Answer.reused]
  cases answeredPrompt x.typed.deviceId with
  | none => rfl
  | some deviceId =>
    cases answeredPrompt x.typed.apiKey with
    | none => rfl
    | some apiKey => cases x.run <;> rfl

/-- `reuseExistingCredentials` leaves the variables of the loop alone. -/
theorem reuse_loop (typed : Typed) (run : SaveRun) :
    let s' := (reuseExistingCredentials encode s typed run).2
    s'.attempt = s.attempt ∧ s'.backoff = s.backoff := by
  rw [reuseExistingCredentials]
  split
  · exact ⟨rfl, rfl⟩
  · exact ⟨rfl, rfl⟩

/-- **One turn**: it ends with an answer that ends the loop, and otherwise sleeps. -/
theorem turn_cases (x : Answer) :
    (x.ends unmarshal = true ∧ ∃ how s', turn encode unmarshal s x.posted x.typed x.run = .ended how s') ∨
    (x.ends unmarshal = false ∧ ∃ s',
      turn encode unmarshal s x.posted x.typed x.run =
        .sleeps (waitAfter (s.attempt + 1) s.backoff (x.statusCode unmarshal)) s' ∧
      s'.attempt = s.attempt + 1 ∧ s'.backoff = nextBackoff s.backoff) := by
  rw [turn, Answer.ends, Answer.statusCode]
  generalize attemptRegistration unmarshal x.posted = a
  by_cases hok : a.err = none ∧ a.statusCode = 200
  · exact .inl ⟨by simp [hok.1, hok.2], _, _, if_pos hok⟩
  have hok' : (a.err.isNone && a.statusCode == 200) = false := by simpa using hok
  rw [if_neg hok, hok']
  by_cases h400 : a.statusCode = 400
  · exact .inl ⟨by simp [h400], _, _, if_pos h400⟩
  rw [if_neg h400]
  by_cases h409 : a.statusCode = 409
  · rw [if_pos h409]
    have hends := @reuse_ends encode { s with attempt := s.attempt + 1 } x
    obtain ⟨hattempt, hback⟩ := @reuse_loop encode { s with attempt := s.attempt + 1 } x.typed x.run
    rcases hreuse : reuseExistingCredentials encode { s with attempt := s.attempt + 1 } x.typed x.run with ⟨how, s'⟩
    rw [hreuse] at hends hattempt hback
    cases how with
    | some how => exact .inl ⟨by simp [h409, ← hends], how, s', rfl⟩
    | none =>
      replace hattempt : s'.attempt = s.attempt + 1 := hattempt
      replace hback : s'.backoff = s.backoff := hback
      refine .inr ⟨by simp [h409, ← hends], s'.next a, ?_, hattempt, congrArg nextBackoff hback⟩
      show Turn.sleeps (waitAfter s'.attempt s'.backoff a.statusCode) _ = _
      rw [hattempt, hback]
  · rw [if_neg h409]
    exact .inr ⟨by simp [h400, h409], _, rfl, rfl, rfl⟩

/-- **The loop**, from any attempt on. -/
theorem waits_from (encode : Config → FileBytes) (unmarshal : String → Except String RegisterResponse) :
    ∀ (xs : List Answer) (s : RegisterLoop), s.backoff = backoffAfter s.attempt →
      (register encode unmarshal s xs).1 = (xs.takeWhile fun x => !x.ends unmarshal).mapIdx
        (fun i x => waitOf (s.attempt + i + 1) (x.statusCode unmarshal)) ∧
      ((register encode unmarshal s xs).2.1.isSome ↔ ∃ x ∈ xs, x.ends unmarshal = true) := by
  intro xs
  induction xs with
  | nil => exact fun s _ => ⟨rfl, by simp [register]⟩
  | cons x xs ih =>
    intro s hback
    obtain ⟨hends, how, s', hturn⟩ | ⟨hends, s', hturn, hattempt, hnext⟩ := @turn_cases encode unmarshal s x
    · rw [register, hturn, List.takeWhile_cons, hends]
      exact ⟨rfl, by simp [hends]⟩
    · rw [hback, nextBackoff_after, ← hattempt] at hnext
      obtain ⟨hwaits, hended⟩ := ih s' hnext
      rw [register, hturn, List.takeWhile_cons, hends]
      refine ⟨?_, ?_⟩
      · show _ :: (register encode unmarshal s' xs).1 = List.mapIdx _ (x :: _)
        rw [List.mapIdx_cons, hwaits, hback, waitAfter_after, hattempt]
        simp only [Nat.add_zero, List.cons.injEq, true_and]
        refine congrArg (fun f => List.mapIdx f _) ?_
        funext i y
        rw [Nat.add_right_comm s.attempt 1 i, Nat.add_assoc s.attempt i 1]
      · show (register encode unmarshal s' xs).2.1.isSome ↔ _
        rw [hended]
        simp [hends]

/-- **The waits of `register`**: five minutes after a client error other than a conflict (409) and from the tenth
    attempt on, and otherwise five seconds that double up to five minutes; until the first answer that ends the
    loop.

    The wait of an attempt is a function of its number and of the answer (`waitOf`), as long as no answer ends the
    loop; the state of the loop is then computed by induction. -/
theorem register_waits (encode : Config → FileBytes) (unmarshal : String → Except String RegisterResponse)
    (cfg : Config) (file : FileBytes) (xs : List Answer) :
    (register encode unmarshal (.start cfg file) xs).1 =
      (xs.takeWhile fun x => !x.ends unmarshal).mapIdx
        (fun i x => waitOf (i + 1) (x.statusCode unmarshal)) ∧
    ((register encode unmarshal (.start cfg file) xs).2.1.isSome ↔ ∃ x ∈ xs, x.ends unmarshal = true) := by
  have h := waits_from encode unmarshal xs (.start cfg file) rfl
  simpa [RegisterLoop.start] using h

/-! ## Where credentials come from -/

/-- The variables after a turn. -/
def Turn.state : Turn → RegisterLoop
  | .ended _ s => s
  | .sleeps _ s => s

/-- The reply that a turn takes credentials from. -/
def Posted.credentials (unmarshal : String → Except String RegisterResponse) : Posted → Option RegisterResponse
  | .answered statusCode body => if statusCode = 200 then (unmarshal body).toOption else none
  | .failed _ => none

/-- An attempt without an error has credentials. -/
theorem attempt_ok {p : Posted} (h : (attemptRegistration unmarshal p).err = none) :
    p.credentials unmarshal = some (attemptRegistration unmarshal p).result := by
  cases p with
  | failed err => cases h
  | answered statusCode body =>
    rw [attemptRegistration] at h ⊢
    rw [Posted.credentials]
    by_cases hcode : statusCode = 200
    · rw [if_neg (not_not.mpr hcode)] at h ⊢
      rw [if_pos hcode]
      cases hbody : unmarshal body with
      | error err => rw [hbody] at h; cases h
      | ok result => rfl
    · rw [if_pos hcode] at h
      cases h

theorem ended_error_ne {text : String} {s s' : RegisterLoop} : Turn.ended (.error text) s ≠ .ended .registered s' :=
  nofun

theorem sleeps_ne {secs : Nat} {s s' : RegisterLoop} : Turn.sleeps secs s ≠ .ended .registered s' := nofun

/-- **With nobody at the prompt**, only a reply brings credentials. -/
theorem turn_unattended (posted : Posted) {typed : Typed} (htyped : typed.deviceId = none) (run : SaveRun) :
    let t := turn encode unmarshal s posted typed run
    (t.state.memory = s.memory ∧ ∀ s', t ≠ .ended .registered s') ∨
    ∃ r, posted.credentials unmarshal = some r ∧
      t.state.memory = { s.memory with deviceId := r.deviceId, apiKey := r.apiKey } := by
  intro t
  by_cases hok : (attemptRegistration unmarshal posted).err = none ∧
      (attemptRegistration unmarshal posted).statusCode = 200
  · right
    refine ⟨_, attempt_ok hok.1, ?_⟩
    rw [show t = _ from if_pos hok]
    rfl
  · left
    rw [show t = _ from if_neg hok]
    split
    · exact ⟨rfl, fun _ => ended_error_ne⟩
    · split
      · have hreuse : ∀ s₀, reuseExistingCredentials encode s₀ typed run = (none, s₀) := by
          intro s₀
          rw [reuseExistingCredentials, htyped]
          rfl
        rw [hreuse]
        exact ⟨rfl, fun _ => sleeps_ne⟩
      · exact ⟨rfl, fun _ => sleeps_ne⟩

end Agent

end Dtsys
