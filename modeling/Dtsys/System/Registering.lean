/-
  AGENTS THAT REGISTER: the loop of `register` on any number of hosts against POST `/devices/register`.

  A state is the server of `Dtsys.System.Enrollment`, what it has answered, and the agents, each with the
  variables of its loop.  A request outlives the agent's interest in it: the agent gives up after 30 s
  (`lost`), and then the request is still on its way, or its answer is.

  The credentials that an agent without an operator has stored are those of a device that is enrolled for it
  (`stored_credentials`): a request is followed from the key it draws to the answer that carries it.

  1. The server: `ServerAt` says of a request where it is, what its answer is, and that an answer with
     credentials has its row; `served_step` keeps it, whatever request moves.
  2. The agent: `AgentAt` says that an id in its memory comes from an answer to a request of its own;
     `AgentAt.turned` is one round of the loop, as `Dtsys.Agent.Registration` computes it.
  3. Together: `inv_step` and `stored_credentials` — what an agent holds in memory are the credentials of a
     row of the table, for its own host and with the token of its configuration.

  A reply may be lost, late, or of a request that the agent has given up; the labels decide, and the
  result is for all of them.
-/
import Dtsys.Agent.Registration
import Dtsys.System.Enrollment

namespace Dtsys

open Server Agent

/-- What the endpoint answers. -/
inductive RegisterReply
  | registered (id : Uuid) (key : String)
  /-- `Too many registration attempts` -/
  | rateLimited
  /-- `Invalid or expired enrollment token` -/
  | invalidToken
  /-- `Device with fingerprint already registered` -/
  | conflict
  /-- an exception that nobody handles -/
  | failed

/-- The status code of a reply. -/
def RegisterReply.statusCode : RegisterReply → Nat
  | .registered .. => 200
  | .rateLimited => 429
  | .invalidToken => 400
  | .conflict => 409
  | .failed => 500

/-- What is between the two programs, and what they take from outside. -/
structure Wire where
  env : Env
  encode : Config → FileBytes
  unmarshal : String → Except String RegisterResponse
  body : RegisterReply → String
  /-- the agent reads what the server writes -/
  reads : ∀ id key, unmarshal (body (.registered id key)) = .ok ⟨id.str, key⟩

/-- Where the agent stands in `register`. -/
inductive AgentPhase
  | ready
  /-- in front of the answer of request `n` -/
  | awaiting (n : Nat)
  | sleeping (secs : Nat)
  | ended (how : RegisterEnd)
  deriving DecidableEq

/-- An agent that registers. -/
structure AgentProcess where
  /-- hostname, system and fingerprint of the host, and its address -/
  host : EnrollRequest
  loop : RegisterLoop
  phase : AgentPhase

/-- What it posts. -/
def AgentProcess.request (a : AgentProcess) : EnrollRequest :=
  { a.host with endpoint := .register, ipAddress := none, enrollmentToken := a.loop.memory.enrollmentToken }

/-- Where the agent stands after a turn of its loop. -/
def Agent.Turn.phase : Turn → AgentPhase
  | .ended how _ => .ended how
  | .sleeps secs _ => .sleeping secs

/-- The server, the requests on the network and the agents. -/
structure Registering where
  server : Enrollment
  /-- the bodies of the requests -/
  asked : Nat → Option EnrollRequest
  /-- the id and the key of the device that a request adds -/
  drawn : Nat → Option (Uuid × String)
  replies : Nat → Option RegisterReply
  agents : Nat → AgentProcess

namespace Registering

/-- The steps of the server, of the network and of the agents. -/
inductive Label
  /-- a step of the server, or of another client -/
  | server (l : Enrollment.Label)
  | post (a n : Nat)
  | answered (a : Nat) (typed : Typed) (run : SaveRun)
  | lost (a : Nat) (err : String)
  | wake (a : Nat)

/-- Agents that start without credentials. -/
def init (agents : Nat → AgentProcess) : Registering where
  server := Enrollment.init
  asked := fun _ => none
  drawn := fun _ => none
  replies := fun _ => none
  agents := agents

/-- Request `n` is answered. -/
def answer (s : Registering) (n : Nat) (r : Option RegisterReply) : Registering :=
  { s with replies := Function.update s.replies n r }

/-- What a step of the server says, beside what `Enrollment.effect` does. -/
def record (s : Registering) : Enrollment.Label → Registering
  | .begin n r => { s with asked := Function.update s.asked n (some r) }
  | .limit n r =>
    if s.server.attempts r.endpoint r.clientIp + 1 < r.endpoint.limit then s else s.answer n (some .rateLimited)
  | .get n r =>
    match s.server.tokens r.enrollmentToken with
    | some _ => s
    | none => s.answer n (some .invalidToken)
  | .lookup n r _ =>
    if Enrollment.lookupPasses r.fingerprint s.server.rows then s
    else s.answer n (some
      (if (withFingerprint r.fingerprint (s.server.rows.map EnrolledDevice.device)).length = 1 then .conflict
        else .failed))
  | .insert n _ _ id key => { s with drawn := Function.update s.drawn n (some (id, key)) }
  | .delete n _ => s.answer n ((s.drawn n).map fun p => .registered p.1 p.2)
  | .fail n => s.answer n ((s.replies n).or (some .failed))
  | .generate .. | .expire _ | .expireLimit .. | .commit .. | .revoke _ => s

section

variable (W : Wire)

/-- A step of the server. -/
def serve (s : Registering) (l : Enrollment.Label) : Option Registering :=
  (Enrollment.step W.env s.server l).map fun server => { s.record l with server := server }

/-- Agent `a` goes on. -/
def turned (s : Registering) (a : Nat) (posted : Posted) (typed : Typed) (run : SaveRun) : Registering :=
  let t := turn W.encode W.unmarshal (s.agents a).loop posted typed run
  { s with agents := Function.update s.agents a { s.agents a with loop := t.state, phase := t.phase } }

/-- One step. -/
def step (s : Registering) : Label → Option Registering
  | .server l => s.serve W l
  | .post a n =>
    if (s.agents a).phase = .ready then
      (s.serve W (.begin n (s.agents a).request)).map fun s =>
        { s with agents := Function.update s.agents a { s.agents a with phase := .awaiting n } }
    else none
  | .answered a typed run =>
    match (s.agents a).phase with
    | .awaiting n => (s.replies n).map fun r => s.turned W a (.answered r.statusCode (W.body r)) typed run
    | _ => none
  -- no answer within 30 s
  | .lost a err =>
    match (s.agents a).phase with
    | .awaiting _ => some (s.turned W a (.failed err) ⟨none, none⟩ .openFails)
    | _ => none
  | .wake a =>
    match (s.agents a).phase with
    | .sleeping _ => some
      { s with agents := Function.update s.agents a { s.agents a with phase := .ready } }
    | _ => none

end

/-- Nobody sits at the prompt of `reuseExistingCredentials`. -/
def Unattended : Label → Prop
  | .answered _ typed _ => typed.deviceId = none
  | _ => True

end Registering

/-- The request in a phase. -/
def EnrollPhase.request : EnrollPhase → Option EnrollRequest
  | .begun r | .admitted r | .holding r _ | .cleared r _ | .flushed r _ | .committed r => some r
  | .idle | .finished => none

namespace Registering

variable {W : Wire} {s s' : Registering}

/-! ## Rows and replies -/

/-- A device is enrolled for the request, with this id and this key. -/
def Holds (W : Wire) (s : Registering) (r : EnrollRequest) (id : Uuid) (key : String) : Prop :=
  ∃ x ∈ s.server.rows, x.token = r.enrollmentToken ∧ x.device.id = id ∧
    x.device.apiKeyHash = W.env.hashApiKey key ∧ x.device.fingerprint = some r.fingerprint

/-- What is known of a request from the phase it is in. -/
structure ServerAt (W : Wire) (s : Registering) (n : Nat) : Prop where
  idle : s.server.requests n = .idle → s.asked n = none ∧ s.replies n = none
  asked : ∀ r, (s.server.requests n).request = some r → s.asked n = some r
  flushed : ∀ r d, s.server.requests n = .flushed r d → ∃ id key, s.drawn n = some (id, key) ∧
    ∃ org, d = (r.registration org).device W.env id key
  committed : ∀ r, s.server.requests n = .committed r → ∃ id key, s.drawn n = some (id, key) ∧
    s.Holds W r id key
  replied : ∀ id key, s.replies n = some (.registered id key) → ∃ r, s.asked n = some r ∧ s.Holds W r id key

/-- What a request has got stays while the rows do. -/
theorem ServerAt.mono {n : Nat} (h : ServerAt W s n)
    (hreq : s'.server.requests n = s.server.requests n) (hasked : s'.asked n = s.asked n)
    (hdrawn : s'.drawn n = s.drawn n) (hreplies : s'.replies n = s.replies n)
    (hrows : ∀ r id key, s.Holds W r id key → s'.Holds W r id key) : ServerAt W s' n := by
  constructor
  · rw [hreq, hasked, hreplies]
    exact h.idle
  · rw [hreq, hasked]
    exact h.asked
  · rw [hreq, hdrawn]
    exact h.flushed
  · rw [hreq, hdrawn]
    intro r hr
    obtain ⟨id, key, hd, hrow⟩ := h.committed r hr
    exact ⟨id, key, hd, hrows r id key hrow⟩
  · rw [hreplies, hasked]
    intro id key hr
    obtain ⟨r, ha, hrow⟩ := h.replied id key hr
    exact ⟨r, ha, hrows r id key hrow⟩

/-- Rows are added, and revoked. -/
theorem holds_rows (hrows : ∀ x ∈ s.server.rows, ∃ y ∈ s'.server.rows, y.token = x.token ∧
      y.device.id = x.device.id ∧ y.device.apiKeyHash = x.device.apiKeyHash ∧
      y.device.fingerprint = x.device.fingerprint) {r : EnrollRequest} {id : Uuid} {key : String}
    (h : s.Holds W r id key) : s'.Holds W r id key := by
  obtain ⟨x, hx, htoken, hid, hkey, hfp⟩ := h
  obtain ⟨y, hy, htoken', hid', hkey', hfp'⟩ := hrows x hx
  exact ⟨y, hy, htoken'.trans htoken, hid'.trans hid, hkey'.trans hkey, hfp'.trans hfp⟩

theorem holds_same (hrows : s'.server.rows = s.server.rows) {r : EnrollRequest} {id : Uuid} {key : String}
    (h : s.Holds W r id key) : s'.Holds W r id key :=
  holds_rows (fun x hx => ⟨x, hrows ▸ hx, rfl, rfl, rfl, rfl⟩) h

/-- A registration that commits holds its row. -/
theorem holds_registered {r : EnrollRequest} {org id : Uuid} {key : String} {rows : List EnrolledDevice}
    (hrows : s.server.rows = rows ++ [⟨r.enrollmentToken, (r.registration org).device W.env id key⟩]) :
    s.Holds W r id key :=
  ⟨_, by rw [hrows]; exact List.mem_append_right _ (List.mem_singleton_self _), rfl, rfl, rfl, rfl⟩

/-- What a step of the server keeps. -/
structure Served (W : Wire) (s s' : Registering) : Prop where
  at' : ∀ n, ServerAt W s' n
  rows : ∀ r id key, s.Holds W r id key → s'.Holds W r id key
  asked : ∀ n r, s.asked n = some r → s'.asked n = some r
  agents : s'.agents = s.agents

/-- A step about request `n` that adds no row. -/
theorem served_move (h : ∀ n, ServerAt W s n) {n : Nat} (hrows : s'.server.rows = s.server.rows)
    (hreq : ∀ m, m ≠ n → s'.server.requests m = s.server.requests m)
    (hasked : ∀ m, m ≠ n → s'.asked m = s.asked m) (hdrawn : ∀ m, m ≠ n → s'.drawn m = s.drawn m)
    (hreplies : ∀ m, m ≠ n → s'.replies m = s.replies m) (hn : ServerAt W s' n)
    (hkeep : ∀ r, s.asked n = some r → s'.asked n = some r) (hagents : s'.agents = s.agents) :
    Served W s s' := by
  refine ⟨fun m => ?_, fun _ _ _ => holds_same hrows, fun m r hm => ?_, hagents⟩
  · by_cases hm : m = n
    · rw [hm]
      exact hn
    · exact (h m).mono (hreq m hm) (hasked m hm) (hdrawn m hm) (hreplies m hm) fun _ _ _ => holds_same hrows
  · by_cases hmn : m = n
    · subst hmn
      exact hkeep r hm
    · rw [hasked m hmn]
      exact hm

/-- A step that changes no request. -/
theorem served_rows (h : ∀ n, ServerAt W s n) (hreq : s'.server.requests = s.server.requests)
    (hasked : s'.asked = s.asked) (hdrawn : s'.drawn = s.drawn) (hreplies : s'.replies = s.replies)
    (hrows : ∀ r id key, s.Holds W r id key → s'.Holds W r id key) (hagents : s'.agents = s.agents) :
    Served W s s' :=
  ⟨fun n => (h n).mono (congrFun hreq n) (congrFun hasked n) (congrFun hdrawn n) (congrFun hreplies n) hrows,
    hrows, fun _ _ hr => hasked ▸ hr, hagents⟩

/-- What a phase in which no device has been drawn asks for. -/
structure Early (s : Registering) (n : Nat) (p : EnrollPhase) : Prop where
  begun : p ≠ .idle
  asked : ∀ r, p.request = some r → s.asked n = some r
  flushed : ∀ r d, p ≠ .flushed r d
  committed : ∀ r, p ≠ .committed r

theorem early_finished (n : Nat) : Early s n .finished := by
  constructor
  · simp
  · simp [EnrollPhase.request]
  · simp
  · simp

/-- The request goes on without a device, or it is answered with an error. -/
theorem served_early (h : ∀ n, ServerAt W s n) {l : Enrollment.Label} {n : Nat} {p : EnrollPhase}
    {server : Enrollment} (reply : Option RegisterReply) (hrecord : s.record l = s.answer n reply)
    (hrows : server.rows = s.server.rows)
    (hreq : server.requests = Function.update s.server.requests n p) (hp : Early s n p)
    (hreply : reply = s.replies n ∨ ∀ id key, reply ≠ some (.registered id key)) :
    Served W s { s.record l with server := server } := by
  rw [hrecord]
  have hpn : server.requests n = p := by rw [hreq, Function.update_self]
  refine served_move h hrows (fun m hm => ?_) (fun _ _ => rfl) (fun _ _ => rfl)
    (fun m hm => Function.update_of_ne hm ..) ?_ (fun _ hr => hr) rfl
  · show server.requests m = _
    rw [hreq, Function.update_of_ne hm]
  · constructor
    · exact fun hidle => absurd (hpn.symm.trans hidle) hp.begun
    · exact fun r hr => hp.asked r (hpn ▸ hr)
    · exact fun r d hr => absurd (hpn.symm.trans hr) (hp.flushed r d)
    · exact fun r hr => absurd (hpn.symm.trans hr) (hp.committed r)
    · intro id key hr
      replace hr : Function.update s.replies n reply n = some (.registered id key) := hr
      rw [Function.update_self] at hr
      rcases hreply with hsame | hne
      · obtain ⟨r, hasked, hrow⟩ := (h n).replied id key (hsame ▸ hr)
        exact ⟨r, hasked, holds_same hrows hrow⟩
      · exact absurd hr (hne id key)

/-- **One step of the server.** -/
theorem served_step (h : ∀ n, ServerAt W s n) {l : Enrollment.Label} (hs : s.serve W l = some s') :
    Served W s s' := by
  obtain ⟨server, hstep, rfl⟩ := Option.map_eq_some_iff.mp hs
  obtain ⟨hen, rfl⟩ := Run.guardedStep_eq_some.mp hstep
  -- a request that keeps what it was asked, in a phase without a device
  have hkeep : ∀ {n r p}, s.server.requests n = p → p.request = some r → s.asked n = some r :=
    fun hn hp => (h _).asked _ (hn ▸ hp)
  have hsame : ∀ n, s.answer n (s.replies n) = s := fun n => by
    rw [answer, Function.update_eq_self]
  cases l with
  | generate token org => exact served_rows h rfl rfl rfl rfl (fun _ _ _ => holds_same rfl) rfl
  | expire token => exact served_rows h rfl rfl rfl rfl (fun _ _ _ => holds_same rfl) rfl
  | expireLimit e ip => exact served_rows h rfl rfl rfl rfl (fun _ _ _ => holds_same rfl) rfl
  | revoke d =>
    refine served_rows h rfl rfl rfl rfl (fun r id key => holds_rows fun x hx => ?_) rfl
    refine ⟨_, List.mem_map_of_mem hx, rfl, ?_⟩
    show (revoke d x.device).id = _ ∧ (revoke d x.device).apiKeyHash = _ ∧ (revoke d x.device).fingerprint = _
    rw [revoke]
    split
    · exact ⟨rfl, rfl, rfl⟩
    · exact ⟨rfl, rfl, rfl⟩
  | begin n r =>
    obtain ⟨hasked, hreplies⟩ := (h n).idle hen
    refine served_move (n := n) h rfl (fun m hm => Function.update_of_ne hm ..)
      (fun m hm => Function.update_of_ne hm ..) (fun _ _ => rfl) (fun _ _ => rfl) ?_
      (fun r' hr' => by rw [hasked] at hr'; cases hr') rfl
    have hphase : (Enrollment.effect W.env s.server (.begin n r)).requests n = .begun r := Function.update_self ..
    have hnow : Function.update s.asked n (some r) n = some r := Function.update_self ..
    constructor
    · exact fun hidle => by cases hphase.symm.trans hidle
    · intro r' hr'
      replace hr' : (EnrollPhase.begun r).request = some r' := hphase ▸ hr'
      rw [← hr']
      exact hnow
    · exact fun _ _ hr' => by cases hphase.symm.trans hr'
    · exact fun _ hr' => by cases hphase.symm.trans hr'
    · intro id key hr'
      replace hr' : s.replies n = some (.registered id key) := hr'
      rw [hreplies] at hr'
      cases hr'
  | limit n r =>
    have hasked := hkeep hen rfl
    by_cases hlt : s.server.attempts r.endpoint r.clientIp + 1 < r.endpoint.limit
    · refine served_early h (s.replies n) ((if_pos hlt).trans (hsame n).symm) rfl
        (congrArg (Function.update s.server.requests n) (if_pos hlt)) ?_ (.inl rfl)
      constructor <;> simp [EnrollPhase.request, hasked]
    · exact served_early h (some .rateLimited) (if_neg hlt) rfl
        (congrArg (Function.update s.server.requests n) (if_neg hlt)) (early_finished n)
        (.inr (by simp))
  | get n r =>
    have hasked := hkeep hen rfl
    cases htok : s.server.tokens r.enrollmentToken with
    | some org =>
      refine served_early h (s.replies n) (p := .holding r org) ?_ rfl ?_ ?_ (.inl rfl)
      · rw [record, htok, hsame]
      · show Function.update s.server.requests n (match s.server.tokens r.enrollmentToken with
          | some org => .holding r org
          | none => .finished) = _
        rw [htok]
      · constructor <;> simp [EnrollPhase.request, hasked]
    | none =>
      refine served_early h (some .invalidToken) ?_ rfl ?_ (early_finished n) (.inr (by simp))
      · rw [record, htok]
      · show Function.update s.server.requests n (match s.server.tokens r.enrollmentToken with
          | some org => .holding r org
          | none => .finished) = _
        rw [htok]
  | lookup n r org =>
    have hasked := hkeep hen rfl
    by_cases hpass : Enrollment.lookupPasses r.fingerprint s.server.rows = true
    · refine served_early h (s.replies n) ((if_pos hpass).trans (hsame n).symm) rfl
        (congrArg (Function.update s.server.requests n) (if_pos hpass)) ?_ (.inl rfl)
      constructor <;> simp [EnrollPhase.request, hasked]
    · refine served_early h _ (if_neg hpass) rfl
        (congrArg (Function.update s.server.requests n) (if_neg hpass)) (early_finished n) (.inr ?_)
      intro id key
      split <;> simp
  | insert n r org id key =>
    have hasked := hkeep hen.1 rfl
    refine served_move (n := n) h rfl (fun m hm => Function.update_of_ne hm ..) (fun _ _ => rfl)
      (fun m hm => Function.update_of_ne hm ..) (fun _ _ => rfl) ?_ (fun _ hr => hr) rfl
    have hphase : (Enrollment.effect W.env s.server (.insert n r org id key)).requests n =
        .flushed r ((r.registration org).device W.env id key) := Function.update_self ..
    constructor
    · exact fun hidle => by cases hphase.symm.trans hidle
    · intro r' hr'
      replace hr' : some r = some r' := (congrArg EnrollPhase.request hphase).symm.trans hr'
      rw [← hr']
      exact hasked
    · intro r' d hr'
      obtain ⟨rfl, rfl⟩ := EnrollPhase.flushed.inj (hphase.symm.trans hr')
      exact ⟨id, key, Function.update_self .., org, rfl⟩
    · exact fun _ hr' => by cases hphase.symm.trans hr'
    · exact fun id' key' hr' => (h n).replied id' key' hr'
  | commit n r d =>
    have hasked := hkeep hen rfl
    obtain ⟨id, key, hdrawn, org, rfl⟩ := (h n).flushed r d hen
    let l : Enrollment.Label := .commit n r ((r.registration org).device W.env id key)
    have hgrow : ∀ r' id' key', s.Holds W r' id' key' →
        Holds W { s with server := Enrollment.effect W.env s.server l } r' id' key' :=
      fun _ _ _ => holds_rows fun x hx => ⟨x, List.mem_append_left _ hx, rfl, rfl, rfl, rfl⟩
    have hphase : (Enrollment.effect W.env s.server l).requests n = .committed r := Function.update_self ..
    refine ⟨fun m => ?_, hgrow, fun _ _ hr => hr, rfl⟩
    by_cases hm : m = n
    · subst hm
      constructor
      · exact fun hidle => by cases hphase.symm.trans hidle
      · intro r' hr'
        replace hr' : some r = some r' := (congrArg EnrollPhase.request hphase).symm.trans hr'
        rw [← hr']
        exact hasked
      · exact fun _ _ hr' => by cases hphase.symm.trans hr'
      · intro r' hr'
        obtain rfl := EnrollPhase.committed.inj (hphase.symm.trans hr')
        exact ⟨id, key, hdrawn, holds_registered rfl⟩
      · intro id' key' hr'
        obtain ⟨r', ha, hrow⟩ := (h m).replied id' key' hr'
        exact ⟨r', ha, hgrow _ _ _ hrow⟩
    · exact (h m).mono (Function.update_of_ne hm ..) rfl rfl rfl hgrow
  | delete n r =>
    obtain ⟨id, key, hdrawn, hrow⟩ := (h n).committed r hen
    have hasked := hkeep hen rfl
    refine served_move (n := n) h rfl (fun m hm => Function.update_of_ne hm ..) (fun _ _ => rfl)
      (fun _ _ => rfl) (fun m hm => Function.update_of_ne hm ..) ?_ (fun _ hr => hr) rfl
    have hphase : (Enrollment.effect W.env s.server (.delete n r)).requests n = .finished :=
      Function.update_self ..
    constructor
    · exact fun hidle => by cases hphase.symm.trans hidle
    · exact fun _ hr' => by cases (congrArg EnrollPhase.request hphase).symm.trans hr'
    · exact fun _ _ hr' => by cases hphase.symm.trans hr'
    · exact fun _ hr' => by cases hphase.symm.trans hr'
    · intro id' key' hr'
      replace hr' : Function.update s.replies n ((s.drawn n).map fun p => .registered p.1 p.2) n =
        some (.registered id' key') := hr'
      rw [Function.update_self, hdrawn] at hr'
      obtain ⟨rfl, rfl⟩ := RegisterReply.registered.inj (Option.some.inj hr')
      exact ⟨r, hasked, holds_same rfl hrow⟩
  | fail n =>
    refine served_early h _ rfl rfl rfl (early_finished n) ?_
    cases s.replies n with
    | none => exact .inr (by simp)
    | some reply => exact .inl rfl

/-! ## Credentials -/

/-- What is known of an agent. -/
structure AgentAt (W : Wire) (s : Registering) (a : Nat) : Prop where
  awaiting : ∀ n, (s.agents a).phase = .awaiting n → s.asked n = some (s.agents a).request
  stored : (s.agents a).loop.memory.deviceId ≠ "" ∨ (s.agents a).phase = .ended .registered →
    ∃ id, (s.agents a).loop.memory.deviceId = id.str ∧
      s.Holds W (s.agents a).request id (s.agents a).loop.memory.apiKey

/-- What holds of the requests and of the agents in every state of a run. -/
structure Inv (W : Wire) (s : Registering) : Prop where
  server : ∀ n, ServerAt W s n
  agents : ∀ a, AgentAt W s a

/-- Agents that start without credentials. -/
def Fresh (agents : Nat → AgentProcess) : Prop :=
  ∀ a, (agents a).loop.memory.deviceId = "" ∧ (agents a).phase = .ready

theorem inv_init {agents : Nat → AgentProcess} (h : Fresh agents) : Inv W (init agents) := by
  have hserver : ∀ n, ServerAt W (init agents) n := by
    intro n
    constructor <;> simp [init, Enrollment.init, EnrollPhase.request]
  refine ⟨hserver, fun a => ⟨fun n hn => ?_, fun hor => ?_⟩⟩
  · cases (h a).2.symm.trans hn
  · rcases hor with hne | hreg
    · exact absurd (h a).1 hne
    · cases (h a).2.symm.trans hreg

/-- What an agent knows stays so when the server goes on. -/
theorem AgentAt.served {a : Nat} (h : AgentAt W s a) (hs : Served W s s') : AgentAt W s' a := by
  constructor
  · rw [hs.agents]
    exact fun n hn => hs.asked n _ (h.awaiting n hn)
  · rw [hs.agents]
    intro hor
    obtain ⟨id, hid, hrow⟩ := h.stored hor
    exact ⟨id, hid, hs.rows _ _ _ hrow⟩

theorem turned_self (a : Nat) (posted : Posted) (typed : Typed) (run : SaveRun) :
    (s.turned W a posted typed run).agents a =
      let t := turn W.encode W.unmarshal (s.agents a).loop posted typed run
      { s.agents a with loop := t.state, phase := t.phase } := Function.update_self ..

theorem turned_other {a b : Nat} (hb : b ≠ a) (posted : Posted) (typed : Typed) (run : SaveRun) :
    (s.turned W a posted typed run).agents b = s.agents b := Function.update_of_ne hb ..

theorem turn_phase_ne (t : Turn) (n : Nat) : t.phase ≠ .awaiting n ∧ t.phase ≠ .ready := by
  cases t with
  | ended how s => exact ⟨nofun, nofun⟩
  | sleeps secs s => exact ⟨nofun, nofun⟩

/-- An agent that is answered: with credentials only if the server holds them for it. -/
theorem AgentAt.turned {a : Nat} (h : AgentAt W s a) {posted : Posted} {typed : Typed} {run : SaveRun}
    (htyped : typed.deviceId = none)
    (hposted : ∀ c, posted.credentials W.unmarshal = some c → ∃ id, c.deviceId = id.str ∧
      s.Holds W (s.agents a).request id c.apiKey) :
    AgentAt W (s.turned W a posted typed run) a := by
  have hself := turned_self (W := W) (s := s) a posted typed run
  have hturn := @turn_unattended W.encode W.unmarshal (s.agents a).loop posted typed htyped run
  dsimp only at hself hturn
  generalize turn W.encode W.unmarshal (s.agents a).loop posted typed run = t at hself hturn
  constructor
  · rw [hself]
    exact fun n hn => absurd hn (turn_phase_ne t n).1
  · rw [hself, AgentProcess.request]
    dsimp only
    rcases hturn with ⟨hmemory, hnot⟩ | ⟨c, hc, hmemory⟩
    · rw [hmemory]
      rintro (hne | hreg)
      · exact h.stored (.inl hne)
      · cases t with
        | ended how s₀ =>
          obtain rfl : how = .registered := AgentPhase.ended.inj hreg
          exact absurd rfl (hnot s₀)
        | sleeps secs s₀ => cases hreg
    · rw [hmemory]
      exact fun _ => hposted c hc

/-- Credentials come from a registration. -/
theorem credentials_registered {r : RegisterReply} {c : RegisterResponse}
    (h : (Posted.answered r.statusCode (W.body r)).credentials W.unmarshal = some c) :
    ∃ id key, r = .registered id key ∧ c = ⟨id.str, key⟩ := by
  cases r with
  | registered id key =>
    rw [Posted.credentials, RegisterReply.statusCode, if_pos rfl, W.reads] at h
    exact ⟨id, key, rfl, (Option.some.inj h).symm⟩
  | rateLimited => cases h
  | invalidToken => cases h
  | conflict => cases h
  | failed => cases h

/-- Only agent `a` has moved. -/
theorem Inv.agent (h : Inv W s) {a : Nat} (hserver : s'.server = s.server) (hasked : s'.asked = s.asked)
    (hdrawn : s'.drawn = s.drawn) (hreplies : s'.replies = s.replies)
    (hother : ∀ b, b ≠ a → s'.agents b = s.agents b) (ha : AgentAt W s' a) : Inv W s' := by
  have hrows : ∀ r id key, s.Holds W r id key → s'.Holds W r id key :=
    fun _ _ _ => holds_same (congrArg Enrollment.rows hserver)
  refine ⟨fun n => ?_, fun b => ?_⟩
  · exact (h.server n).mono (congrFun (congrArg Enrollment.requests hserver) n) (congrFun hasked n)
      (congrFun hdrawn n) (congrFun hreplies n) hrows
  · by_cases hb : b = a
    · rw [hb]
      exact ha
    · have hold := h.agents b
      constructor
      · rw [hother b hb, hasked]
        exact hold.awaiting
      · rw [hother b hb]
        intro hor
        obtain ⟨id, hid, hrow⟩ := hold.stored hor
        exact ⟨id, hid, hrows _ _ _ hrow⟩

/-- **One step.** -/
theorem inv_step (s : Registering) (l : Label) (s' : Registering) (hl : Unattended l)
    (hs : step W s l = some s') (h : Inv W s) : Inv W s' := by
  have hserved : ∀ {l s'}, s.serve W l = some s' → Inv W s' := fun hserve =>
    let hs := served_step h.server hserve
    ⟨hs.at', fun a => (h.agents a).served hs⟩
  cases l with
  | server l => exact hserved hs
  -- The request the agent waits for is the one it has just posted, under a number of its own.
  | post a n =>
    rw [step] at hs
    split at hs
    · obtain ⟨s₁, hserve, rfl⟩ := Option.map_eq_some_iff.mp hs
      have h₁ := hserved hserve
      have hagents := (served_step h.server hserve).agents
      have hnow : s₁.asked n = some (s.agents a).request := by
        obtain ⟨server, -, rfl⟩ := Option.map_eq_some_iff.mp hserve
        exact Function.update_self ..
      refine h₁.agent (a := a) rfl rfl rfl rfl (fun b hb => Function.update_of_ne hb ..) ?_
      have hself : Function.update s₁.agents a { s₁.agents a with phase := .awaiting n } a =
          { s₁.agents a with phase := .awaiting n } := Function.update_self ..
      constructor
      · intro m hm
        dsimp only at hm ⊢
        rw [hself] at hm ⊢
        obtain rfl := AgentPhase.awaiting.inj hm
        rw [hnow, hagents]
        rfl
      · dsimp only
        rw [hself]
        rintro (hne | hreg)
        · exact (h₁.agents a).stored (.inl hne)
        · cases hreg
    · cases hs
  -- An answer with credentials comes from a row that was enrolled by this request.
  | answered a typed run =>
    rw [step] at hs
    split at hs
    · rename_i n hphase
      obtain ⟨r, hr, rfl⟩ := Option.map_eq_some_iff.mp hs
      refine h.agent (a := a) rfl rfl rfl rfl (fun b hb => turned_other hb ..) ?_
      refine (h.agents a).turned hl fun c hc => ?_
      obtain ⟨id, key, rfl, rfl⟩ := credentials_registered hc
      obtain ⟨r', hasked, hrow⟩ := (h.server n).replied id key hr
      rw [(h.agents a).awaiting n hphase] at hasked
      exact ⟨id, rfl, Option.some.inj hasked ▸ hrow⟩
    · cases hs
  -- A lost answer and a wake-up leave the configuration as it is.
  | lost a err =>
    rw [step] at hs
    split at hs
    · obtain rfl := Option.some.inj hs
      exact h.agent (a := a) rfl rfl rfl rfl (fun b hb => turned_other hb ..)
        ((h.agents a).turned rfl fun c hc => by cases hc)
    · cases hs
  | wake a =>
    rw [step] at hs
    split at hs
    · obtain rfl := Option.some.inj hs
      refine h.agent (a := a) rfl rfl rfl rfl (fun b hb => Function.update_of_ne hb ..) ?_
      have hself : Function.update s.agents a { s.agents a with phase := .ready } a =
          { s.agents a with phase := .ready } := Function.update_self ..
      constructor
      · dsimp only
        rw [hself]
        exact fun n hn => by cases hn
      · dsimp only
        rw [hself]
        rintro (hne | hreg)
        · exact (h.agents a).stored (.inl hne)
        · cases hreg
    · cases hs

/-- **Stored credentials** are those of a device that was enrolled for this host, with the token of its
    configuration; and an agent that has registered has some.

    What the server has answered is tied to the table by `ServerAt`, and what the agent has stored to an answer by
    `AgentAt`.  The two are kept together by every step. -/
theorem stored_credentials (W : Wire) {agents : Nat → AgentProcess} (hfresh : Fresh agents) {ls : List Label}
    {s : Registering} (hunattended : Run.Guarded (step W) (fun _ l => Unattended l) (init agents) ls)
    (hrun : Run.exec (step W) (init agents) ls = some s) (a : Nat)
    (ha : (s.agents a).loop.memory.deviceId ≠ "" ∨ (s.agents a).phase = .ended .registered) :
    ∃ x ∈ s.server.rows, (s.agents a).loop.memory.deviceId = x.device.id.str ∧
      x.device.apiKeyHash = W.env.hashApiKey (s.agents a).loop.memory.apiKey ∧
      x.device.fingerprint = some (s.agents a).host.fingerprint ∧
      x.token = (s.agents a).loop.memory.enrollmentToken := by
  have hinv : Inv W s := Run.exec_inv inv_step hunattended hrun (inv_init hfresh)
  obtain ⟨id, hid, x, hx, htoken, rfl, hkey, hfp⟩ := (hinv.agents a).stored ha
  exact ⟨x, hx, hid, hkey, hfp, htoken⟩

/-- The id on a line of its own, then the key. -/
def lines (r : RegisterReply) : String :=
  match r with
  | .registered id key => String.ofList (id.str.toList ++ '\n' :: key.toList)
  | _ => ""

/-- Reads what `lines` has written. -/
def readLines (text : String) : RegisterResponse where
  deviceId := String.ofList (text.toList.takeWhile (· ≠ '\n'))
  apiKey := String.ofList ((text.toList.dropWhile (· ≠ '\n')).drop 1)

/-- A file is read as it was written. -/
theorem readLines_lines (id : Uuid) (key : String) :
    readLines (lines (.registered id key)) = ⟨id.str, key⟩ := by
  have hid : ∀ c ∈ id.str.toList, decide (c ≠ '\n') = true := by
    intro c hc
    rw [decide_eq_true_eq]
    rcases Uuid.mem_str hc with rfl | hc
    · decide
    · obtain ⟨d, hd, rfl⟩ := Uuid.mem_hexDigits hc
      have hdigit : ∀ d < 16, Nat.digitChar d ≠ '\n' := by decide
      exact hdigit d hd
  rw [readLines, lines, String.toList_ofList, List.takeWhile_append_of_pos hid, List.dropWhile_append_of_pos hid]
  simp

/-- Programs that write an answer in two lines. -/
def Wire.sample : Wire where
  env := .sample
  encode := fun _ => []
  unmarshal := fun text => .ok (readLines text)
  body := lines
  reads := fun id key => congrArg Except.ok (readLines_lines id key)

/-- Hosts `"a"` with the token `"token"`. -/
def sampleAgents : Nat → AgentProcess := fun _ =>
  ⟨Enrollment.host "a", .start { defaultConfig with enrollmentToken := "token" } [], .ready⟩

theorem sampleAgents_fresh : Fresh sampleAgents := fun _ => ⟨rfl, rfl⟩

/-- The request of the sample agent. -/
def sampleRequest : EnrollRequest := (sampleAgents 0).request

/-- The device that the request makes. -/
def sampleDevice : Device := (sampleRequest.registration 7).device Env.sample 1 "key"

/-- The server enrolls a device for agent 0. -/
def enrolled : List Label := [.server (.generate "token" 7), .post 0 0, .server (.limit 0 sampleRequest),
  .server (.get 0 sampleRequest), .server (.lookup 0 sampleRequest 7),
  .server (.insert 0 sampleRequest 7 1 "key"), .server (.commit 0 sampleRequest sampleDevice),
  .server (.delete 0 sampleRequest)]

theorem stored_credentials_enrolled :
    ∃ s, Run.exec (step Wire.sample) (init sampleAgents)
        (enrolled ++ [.answered 0 ⟨none, none⟩ .succeeds]) = some s ∧
      ∃ x ∈ s.server.rows, (s.agents 0).loop.memory.deviceId = x.device.id.str ∧
        x.device.apiKeyHash = Wire.sample.env.hashApiKey (s.agents 0).loop.memory.apiKey ∧
        x.device.fingerprint = some (s.agents 0).host.fingerprint ∧
        x.token = (s.agents 0).loop.memory.enrollmentToken := by
  have hunattended : ∀ l ∈ enrolled ++ [.answered 0 ⟨none, none⟩ .succeeds], Unattended l := by
    simp [enrolled, Unattended]
  exact ⟨_, rfl, stored_credentials Wire.sample sampleAgents_fresh (Run.guarded_of_forall _ hunattended) rfl 0
    (.inr rfl)⟩

end Registering

end Dtsys
