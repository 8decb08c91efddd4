/-
  ENROLLMENT TOKENS: POST `/devices/register`, POST `/enroll` and `generate_enrollment_token`, any
  number of requests at once.

  Both endpoints do the same thing with a token, in this order:

      GET the token from Redis          → 400 if it is not there
      look the fingerprint up           → 409, or MultipleResultsFound
      INSERT the device, COMMIT
      DELETE the token

  Every line is a step of its own (there is an `await` between two of them), and a request may fail
  after any of them.  Reading a token and using it up are thus apart: two requests that both read it
  both enroll a device, and so does one that comes after a crash between COMMIT and DELETE.

  A token is used once as long as no request reads it while another one that has read it is on its
  way to the COMMIT, or after a device has been enrolled with it (`token_single_use`).
-/
import Dtsys.Lib.Claim
import Dtsys.Lib.Run
import Dtsys.Server.Registry

namespace Dtsys

open Server

/-- The two endpoints; they count their clients' attempts separately. -/
inductive Endpoint
  | register
  | enroll
  deriving DecidableEq, Repr

/-- The `limit` of an endpoint's `check_rate_limit`. -/
def Endpoint.limit : Endpoint → Nat
  | .register => 5
  | .enroll => 30

/-- A request: the endpoint, the client's address and the body. -/
structure EnrollRequest where
  endpoint : Endpoint
  clientIp : String
  hostname : String
  osType : String
  osVersion : Option String
  arch : Option String
  fingerprint : String
  ipAddress : Option String
  enrollmentToken : String
  deriving DecidableEq, Repr

/-- The arguments of `register_device`. -/
def EnrollRequest.registration (r : EnrollRequest) (org : Uuid) : Registration where
  hostname := r.hostname
  osType := r.osType
  osVersion := r.osVersion
  arch := r.arch
  fingerprint := r.fingerprint
  ipAddress := r.ipAddress
  orgId := some org

/-- Where a request stands. -/
inductive EnrollPhase
  | idle
  /-- in front of the rate limit -/
  | begun (r : EnrollRequest)
  /-- in front of `redis.get` -/
  | admitted (r : EnrollRequest)
  /-- the token was there; next is the lookup of the fingerprint -/
  | holding (r : EnrollRequest) (org : Uuid)
  /-- no device stands in the way; next is the `flush` -/
  | cleared (r : EnrollRequest) (org : Uuid)
  /-- in front of `db.commit` -/
  | flushed (r : EnrollRequest) (d : Device)
  /-- in front of `redis.delete` -/
  | committed (r : EnrollRequest)
  /-- answered, failed or gone -/
  | finished
  deriving DecidableEq, Repr

/-- The token of a request that has read it and has not committed. -/
def EnrollPhase.token : EnrollPhase → Option String
  | .holding r _ | .cleared r _ | .flushed r _ => some r.enrollmentToken
  | _ => none

/-- A committed device, with the token it was enrolled with. -/
structure EnrolledDevice where
  token : String
  device : Device

/-- The tokens, the devices, and the requests for both. -/
structure Enrollment where
  /-- `enrollment:{token}` in Redis; the document holds an organization -/
  tokens : String → Option Uuid
  /-- every token `generate_enrollment_token` has returned -/
  issued : List String
  attempts : Endpoint → String → Nat
  rows : List EnrolledDevice
  requests : Nat → EnrollPhase

namespace Enrollment

/-- The statements of the requests, and the expiry of keys. -/
inductive Label
  | generate (token : String) (org : Uuid)
  | expire (token : String)
  | begin (n : Nat) (r : EnrollRequest)
  | limit (n : Nat) (r : EnrollRequest)
  | expireLimit (e : Endpoint) (ip : String)
  | get (n : Nat) (r : EnrollRequest)
  | lookup (n : Nat) (r : EnrollRequest) (org : Uuid)
  | insert (n : Nat) (r : EnrollRequest) (org id : Uuid) (key : String)
  | commit (n : Nat) (r : EnrollRequest) (d : Device)
  | delete (n : Nat) (r : EnrollRequest)
  | fail (n : Nat)
  | revoke (d : Uuid)

/-- Nothing has been asked for. -/
def init : Enrollment where
  tokens := fun _ => none
  issued := []
  attempts := fun _ _ => 0
  rows := []
  requests := fun _ => .idle

variable (E : Env)

/-- When a step can be taken. -/
def Enabled (s : Enrollment) : Label → Prop
  -- `secrets.token_urlsafe` does not return a token twice
  | .generate token _ => token ∉ s.issued
  | .expire _ => True
  | .begin n _ => s.requests n = .idle
  | .limit n r => s.requests n = .begun r
  | .expireLimit .. => True
  | .get n r => s.requests n = .admitted r
  | .lookup n r org => s.requests n = .holding r org
  | .insert n r org _ _ => s.requests n = .cleared r org ∧ (r.registration org).fits E = true
  | .commit n r d => s.requests n = .flushed r d
  | .delete n r => s.requests n = .committed r
  | .fail n => s.requests n ≠ .idle
  | .revoke _ => True

/-- The request moves on. -/
def move (s : Enrollment) (n : Nat) (p : EnrollPhase) : Enrollment :=
  { s with requests := Function.update s.requests n p }

/-- The outcome of the lookup in `register_device`: `false` when it raises. -/
def lookupPasses (f : String) (rows : List EnrolledDevice) : Bool :=
  match withFingerprint f (rows.map EnrolledDevice.device) with
  | [] => true
  | [d] => d.isRevoked
  | _ => false

/-- What a statement does. -/
def effect (s : Enrollment) : Label → Enrollment
  | .generate token org =>
    { s with tokens := Function.update s.tokens token (some org), issued := token :: s.issued }
  | .expire token => { s with tokens := Function.update s.tokens token none }
  | .begin n r => s.move n (.begun r)
  | .limit n r =>
    let current := s.attempts r.endpoint r.clientIp + 1
    { s.move n (if current < r.endpoint.limit then .admitted r else .finished) with
      attempts := Function.update s.attempts r.endpoint
        (Function.update (s.attempts r.endpoint) r.clientIp current) }
  | .expireLimit e ip =>
    { s with attempts := Function.update s.attempts e (Function.update (s.attempts e) ip 0) }
  | .get n r =>
    s.move n (match s.tokens r.enrollmentToken with
      | some org => .holding r org
      | none => .finished)
  | .lookup n r org =>
    s.move n (if lookupPasses r.fingerprint s.rows then .cleared r org else .finished)
  | .insert n r org id key => s.move n (.flushed r ((r.registration org).device E id key))
  | .commit n r d =>
    { s.move n (.committed r) with rows := s.rows ++ [⟨r.enrollmentToken, d⟩] }
  | .delete n r =>
    { s.move n .finished with tokens := Function.update s.tokens r.enrollmentToken none }
  -- whatever the transaction held is rolled back
  | .fail n => s.move n .finished
  | .revoke d => { s with rows := s.rows.map fun x => { x with device := Server.revoke d x.device } }

instance (s : Enrollment) : ∀ l, Decidable (Enabled E s l)
  | .generate .. => inferInstanceAs (Decidable (_ ∉ _))
  | .begin .. | .limit .. | .get .. | .lookup .. | .commit .. | .delete .. =>
    inferInstanceAs (Decidable (_ = _))
  | .insert .. => inferInstanceAs (Decidable (_ ∧ _))
  | .fail _ => inferInstanceAs (Decidable (_ ≠ _))
  | .expire _ | .expireLimit .. | .revoke _ => inferInstanceAs (Decidable True)

/-- One step of one request. -/
def step : Enrollment → Label → Option Enrollment := Run.guardedStep (Enabled E) (effect E)

/-! ## Tokens in use -/

/-- The request has read the token, and is on its way to the COMMIT. -/
def Claims (s : Enrollment) (n : Nat) (token : String) : Prop := (s.requests n).token = some token

/-- The devices enrolled with a token. -/
def enrolledWith (s : Enrollment) (token : String) : Nat :=
  s.rows.countP fun x => x.token == token

/-- A token that is found is not in use and has not been used. -/
def Unused (s : Enrollment) : Label → Prop
  | .get _ r => (s.tokens r.enrollmentToken).isSome = true →
    (∀ m, ¬ s.Claims m r.enrollmentToken) ∧ s.enrolledWith r.enrollmentToken = 0
  | _ => True

/-- One device per token, one claim per token, and no device of a token somebody claims. -/
def Inv (s : Enrollment) : Prop := Exclusive s.Claims s.enrolledWith fun _ => s.enrolledWith

theorem inv_init : Inv init :=
  ⟨fun _ => Nat.zero_le _, fun _ _ _ h => (nomatch h), fun _ _ h => (nomatch h)⟩

section

variable {E} {s s' : Enrollment}

/-- The lookup passes exactly when `register_device`, on these rows, succeeds. -/
theorem lookupPasses_iff {w : World} {r : Registration} (hw : w.Settled) (hfits : r.fits E = true)
    {rows : List EnrolledDevice} (hrows : w.db.devices = rows.map EnrolledDevice.device) :
    lookupPasses r.fingerprint rows = true ↔ ∃ a, (registerDevice E r w).1 = .ok a := by
  have hrun := Registry.registerDevice_run (E := E) hw r
  have hpass : lookupPasses r.fingerprint rows =
      match withFingerprint r.fingerprint w.db.devices with
      | [] => true
      | [d] => d.isRevoked
      | _ => false := by rw [hrows]; rfl
  generalize registerDevice E r w = out at hrun ⊢
  rw [hpass]
  cases hrun with
  | conflict hfound hlive detail =>
    rw [hfound]
    simp [hlive]
  | several hfound =>
    rw [hfound]
    simp
  | inserted hlen hnone a =>
    refine iff_of_true ?_ ⟨a, rfl⟩
    rcases hfound : withFingerprint r.fingerprint w.db.devices with _ | ⟨d, _ | ⟨d', rest⟩⟩
    · rfl
    · have hmem : d ∈ withFingerprint r.fingerprint w.db.devices := by rw [hfound]; simp
      have hin : d ∈ w.db.devices := (List.mem_filter.mp hmem).1
      show d.isRevoked = true
      by_contra hlive
      have hact := (Registry.active_iff hin).mpr ⟨hmem, by simpa using hlive⟩
      rw [hnone d hin] at hact
      cases hact
    · rw [hfound, List.length_cons, List.length_cons] at hlen
      omega
  | refused hlen hnone hno =>
    rw [hfits] at hno
    cases hno

/-- Only request `n` has moved. -/
theorem claims_move {n m : Nat} {p : EnrollPhase} {token : String}
    (h : (s.move n p).Claims m token) : m = n ∧ p.token = some token ∨ m ≠ n ∧ s.Claims m token := by
  replace h : (Function.update s.requests n p m).token = some token := h
  by_cases hm : m = n
  · subst hm
    rw [Function.update_self] at h
    exact .inl ⟨rfl, h⟩
  · rw [Function.update_of_ne hm] at h
    exact .inr ⟨hm, h⟩

/-- A request that reads no token moves on. -/
theorem Inv.move (h : Inv s) {n : Nat} {p : EnrollPhase}
    (hp : ∀ token, p.token = some token → s.Claims n token) : Inv (s.move n p) := by
  refine h.shrink ?_ (fun _ => Nat.le_refl _) fun _ _ _ => Nat.le_refl _
  intro m token hm
  rcases claims_move hm with ⟨rfl, ht⟩ | ⟨-, hold⟩
  · exact hp token ht
  · exact hold

/-- Nothing that the invariant is about has changed. -/
theorem Inv.same (h : Inv s) (hreq : s'.requests = s.requests)
    (hrows : ∀ token, s'.enrolledWith token = s.enrolledWith token) : Inv s' := by
  refine h.shrink ?_ (fun k => Nat.le_of_eq (hrows k)) fun _ k _ => Nat.le_of_eq (hrows k)
  intro m token hm
  unfold Claims at hm ⊢
  rw [← hreq]
  exact hm

theorem enrolledWith_append (s : Enrollment) (x : EnrolledDevice) (token : String) :
    (s.rows ++ [x]).countP (fun x => x.token == token) =
      s.enrolledWith token + if x.token = token then 1 else 0 := by
  rw [List.countP_append]
  show s.enrolledWith token + _ = _
  by_cases h : x.token = token
  · simp [h]
  · simp [h]

/-- The COMMIT: the claim becomes a device. -/
theorem Inv.commit (h : Inv s) {n : Nat} {r : EnrollRequest} {d : Device}
    (hn : s.requests n = .flushed r d) : Inv (effect E s (.commit n r d)) := by
  have hclaim : s.Claims n r.enrollmentToken := by
    rw [Claims, hn]
    rfl
  have hrows := enrolledWith_append s ⟨r.enrollmentToken, d⟩
  have hsame : ∀ token, ¬ s.Claims n token →
      (effect E s (.commit n r d)).enrolledWith token ≤ s.enrolledWith token := by
    intro token hno
    have hne : r.enrollmentToken ≠ token := by
      rintro rfl
      exact hno hclaim
    show (s.rows ++ [_]).countP _ ≤ _
    rw [hrows token, if_neg hne]
    exact Nat.le_refl _
  refine h.settle n ?_ ?_ hsame fun _ token _ hno => hsame token hno
  · intro m token hm
    rcases claims_move (s := s) hm with ⟨-, ht⟩ | ⟨hne, hold⟩
    · cases ht
    · exact ⟨hne, hold⟩
  · intro token _
    show (s.rows ++ [_]).countP _ ≤ _
    rw [hrows token]
    split
    · exact Nat.le_refl _
    · exact Nat.le_succ _

/-- **One step** of a run that reads only unused tokens. -/
theorem inv_step (s : Enrollment) (l : Label) (s' : Enrollment) (hl : Unused s l)
    (hs : step E s l = some s') (h : Inv s) : Inv s' := by
  obtain ⟨hen, rfl⟩ := Run.guardedStep_eq_some.mp hs
  -- a request that keeps the token it has read, or gives it up
  have hkeep : ∀ {n : Nat} {p q : EnrollPhase}, s.requests n = p →
      (q.token = none ∨ q.token = p.token) → Inv (s.move n q) := by
    intro n p q hn hq
    refine h.move fun token ht => ?_
    rcases hq with hq | hq
    · rw [hq] at ht
      cases ht
    · rw [Claims, hn, ← hq]
      exact ht
  cases l with
  | generate token org => exact h.same rfl fun _ => rfl
  | expire token => exact h.same rfl fun _ => rfl
  | begin n r => exact hkeep hen (.inl rfl)
  | limit n r =>
    refine (hkeep (q := if s.attempts r.endpoint r.clientIp + 1 < r.endpoint.limit
      then .admitted r else .finished) hen (.inl ?_)).same rfl fun _ => rfl
    split
    · rfl
    · rfl
  | expireLimit e ip => exact h.same rfl fun _ => rfl
  | get n r =>
    cases htok : s.tokens r.enrollmentToken with
    | none =>
      have heff : effect E s (.get n r) = s.move n .finished := by
        unfold effect
        dsimp only
        rw [htok]
      rw [heff]
      exact hkeep hen (.inl rfl)
    -- here the condition on the run is used: nobody else has read this token
    | some org =>
      have heff : effect E s (.get n r) = s.move n (.holding r org) := by
        unfold effect
        dsimp only
        rw [htok]
      obtain ⟨hfree, hnone⟩ := hl (by rw [htok]; rfl)
      rw [heff]
      refine h.claim (i := n) (k := r.enrollmentToken) ?_ (fun m hm => absurd hm (hfree m)) hnone
      intro m token hm
      rcases claims_move hm with ⟨rfl, ht⟩ | ⟨-, hold⟩
      · exact .inr ⟨rfl, (Option.some.inj ht).symm⟩
      · exact .inl hold
  | lookup n r org =>
    refine hkeep hen ?_
    split
    · exact .inr rfl
    · exact .inl rfl
  | insert n r org id key => exact hkeep hen.1 (.inr rfl)
  | commit n r d => exact h.commit hen
  | delete n r => exact (hkeep (q := .finished) hen (.inl rfl)).same rfl fun _ => rfl
  | fail n => exact hkeep rfl (.inl rfl)
  | revoke d =>
    refine h.same rfl fun token => ?_
    show (s.rows.map _).countP _ = s.rows.countP _
    rw [List.countP_map]
    rfl

end

/-- **Tokens are single use** in every run that reads only unused ones.

    The token is read, the device inserted and committed, and only then the token deleted, so two requests may both
    have read it.  The invariant says who claims a token that has been read. -/
theorem token_single_use {ls : List Label} {s : Enrollment}
    (hunused : Run.Guarded (step E) Unused init ls) (hrun : Run.exec (step E) init ls = some s)
    (token : String) : s.enrolledWith token ≤ 1 := by
  have hinv : Inv s := Run.exec_inv inv_step hunused hrun inv_init
  exact hinv.count token

/-- A host that enrolls with the token `"token"`. -/
def host (fingerprint : String) : EnrollRequest where
  endpoint := .enroll
  clientIp := "10.0.0.1"
  hostname := "host"
  osType := "linux"
  osVersion := none
  arch := none
  fingerprint := fingerprint
  ipAddress := none
  enrollmentToken := "token"

/-- Its device, with id `id`. -/
def hostDevice (fingerprint : String) (id : Uuid) : Device :=
  ((host fingerprint).registration 7).device Env.sample id "key"

/-- One host enrolls; a second one comes with the same token and is turned away. -/
def oneAfterTheOther : List Label :=
  [.generate "token" 7, .begin 0 (host "a"), .limit 0 (host "a"), .get 0 (host "a"),
    .lookup 0 (host "a") 7, .insert 0 (host "a") 7 1 "key", .commit 0 (host "a") (hostDevice "a" 1),
    .delete 0 (host "a"), .begin 1 (host "b"), .limit 1 (host "b"), .get 1 (host "b")]

theorem token_single_use_in_turn :
    ∃ s, Run.exec (step Env.sample) init oneAfterTheOther = some s ∧ s.enrolledWith "token" ≤ 1 := by
  have hunused : Run.Guarded (step Env.sample) Unused init oneAfterTheOther := by
    refine .cons rfl trivial (.cons rfl trivial (.cons rfl trivial (.cons rfl ?_ (.cons rfl trivial
      (.cons rfl trivial (.cons rfl trivial (.cons rfl trivial (.cons rfl trivial (.cons rfl trivial
      (.cons rfl ?_ trivial))))))))))
    -- nobody else has begun yet
    · refine fun _ => ⟨fun m hm => ?_, rfl⟩
      by_cases h0 : m = 0
      · subst h0
        cases hm
      · rw [Claims] at hm
        simp [effect, Enrollment.move, init, h0, EnrollPhase.token] at hm
    · intro htoken
      cases htoken
  exact ⟨_, rfl, token_single_use Env.sample hunused rfl "token"⟩

/-- Two hosts read the token before one of them has used it up. -/
def bothRead : List Label :=
  [.generate "token" 7, .begin 0 (host "a"), .begin 1 (host "b"), .limit 0 (host "a"),
    .limit 1 (host "b"), .get 0 (host "a"), .get 1 (host "b"), .lookup 0 (host "a") 7,
    .lookup 1 (host "b") 7, .insert 0 (host "a") 7 1 "key", .insert 1 (host "b") 7 2 "key",
    .commit 0 (host "a") (hostDevice "a" 1), .commit 1 (host "b") (hostDevice "b" 2),
    .delete 0 (host "a"), .delete 1 (host "b")]

/-- Both are enrolled. -/
theorem token_used_twice :
    ∃ s, Run.exec (step Env.sample) init bothRead = some s ∧ s.enrolledWith "token" = 2 :=
  ⟨_, rfl, rfl⟩

end Enrollment

end Dtsys
