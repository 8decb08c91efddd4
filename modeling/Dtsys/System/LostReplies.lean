/-
  LOST REPLIES to a registration.

  An agent that did not get the answer of the request which enrolled its device does not get another one with
  credentials, before that device is revoked (`lost_reply`): its fingerprint is taken (`Taken`), which no step
  of the server changes, and whatever it still waits for brings nothing (`GivenUp`).

  1. `Taken` — the fingerprint is in the table, in a row that is not revoked, and no request has found it
     free and still has to commit.  `Taken.serve` keeps it through every step that does not revoke the device.
  2. `serve_replied` — credentials are the answer of a request that has committed, and none commits.
  3. `GivenUp` — the agent waits for no answer that was given before.
  4. `locked_step`, `lost_reply` — by induction over the run, the agent never holds credentials.

  An operator who types in the credentials of the old device at the prompt of the agent is left out
  (`Unattended`).
-/
import Dtsys.System.Registering

namespace Dtsys

open Server Agent

namespace Registering

variable {W : Wire} {s s' : Registering}

/-! ## What stays -/

/-- The request has seen that no device stands in the way, and has not committed. -/
def Adds (p : EnrollPhase) (f : String) : Prop :=
  match p with
  | .cleared r _ | .flushed r _ => r.fingerprint = f
  | _ => False

/-- Device `d` is enrolled with this fingerprint and not revoked, and no request is about to add another. -/
structure Taken (s : Registering) (d : Uuid) (f : String) : Prop where
  live : ∃ x ∈ s.server.rows, x.device.id = d ∧ x.device.fingerprint = some f ∧ x.device.isRevoked = false
  quiet : ∀ n, ¬ Adds (s.server.requests n) f

/-- Agent `a` does not wait for an answer that brings credentials. -/
structure GivenUp (s : Registering) (a : Nat) : Prop where
  awaiting : ∀ n, (s.agents a).phase = .awaiting n → (∀ r, s.server.requests n ≠ .committed r) ∧
    ∀ id key, s.replies n ≠ some (.registered id key)
  unregistered : (s.agents a).phase ≠ .ended .registered

/-- Device `d` is not revoked. -/
def Spares (d : Uuid) : Label → Prop
  | .server (.revoke d') => d' ≠ d
  | _ => True

/-- A fingerprint that is taken is not enrolled again. -/
theorem Taken.lookup {d : Uuid} {f : String} (h : Taken s d f) :
    Enrollment.lookupPasses f s.server.rows = false := by
  obtain ⟨x, hx, -, hfp, hlive⟩ := h.live
  have hmem : x.device ∈ withFingerprint f (s.server.rows.map EnrolledDevice.device) := by
    rw [withFingerprint, List.mem_filter]
    exact ⟨List.mem_map_of_mem hx, by simp [hfp]⟩
  rw [Enrollment.lookupPasses]
  rcases hrows : withFingerprint f (s.server.rows.map EnrolledDevice.device) with _ | ⟨e, _ | ⟨e', rest⟩⟩
  · rw [hrows] at hmem
    cases hmem
  · rw [hrows] at hmem
    rw [← List.mem_singleton.mp hmem]
    exact hlive
  · rfl

/-- A step about request `n`. -/
theorem Taken.move {d : Uuid} {f : String} (h : Taken s d f) {server : Enrollment} {n : Nat} {p : EnrollPhase}
    {r : Registering} (hrows : ∀ x ∈ s.server.rows, x ∈ server.rows)
    (hreq : server.requests = Function.update s.server.requests n p) (hp : ¬ Adds p f) :
    Taken { r with server := server } d f := by
  obtain ⟨x, hx, hlive⟩ := h.live
  refine ⟨⟨x, hrows x hx, hlive⟩, fun m hm => ?_⟩
  dsimp only at hm
  rw [hreq] at hm
  by_cases hmn : m = n
  · rw [hmn, Function.update_self] at hm
    exact hp hm
  · rw [Function.update_of_ne hmn] at hm
    exact h.quiet m hm

/-- **As long as the device is not revoked**, nothing else is enrolled with its fingerprint. -/
theorem Taken.serve {d : Uuid} {f : String} (h : Taken s d f) {l : Enrollment.Label}
    (hl : Spares d (.server l)) (hs : s.serve W l = some s') : Taken s' d f := by
  obtain ⟨server, hstep, rfl⟩ := Option.map_eq_some_iff.mp hs
  obtain ⟨hen, rfl⟩ := Run.guardedStep_eq_some.mp hstep
  cases l with
  | generate token org => exact ⟨h.live, h.quiet⟩
  | expire token => exact ⟨h.live, h.quiet⟩
  | expireLimit e ip => exact ⟨h.live, h.quiet⟩
  | begin n r => exact h.move (fun _ hx => hx) rfl id
  | limit n r =>
    refine h.move (fun _ hx => hx) rfl ?_
    split <;> exact id
  | get n r =>
    refine h.move (fun _ hx => hx) rfl ?_
    split <;> exact id
  -- The lookup finds the device, so the request does not pass.
  | lookup n r org =>
    refine h.move (fun _ hx => hx) rfl ?_
    split
    · rename_i hpass
      rintro rfl
      rw [h.lookup] at hpass
      cases hpass
    · exact id
  | insert n r org id key =>
    refine h.move (fun _ hx => hx) rfl fun hf => h.quiet n ?_
    rw [show s.server.requests n = .cleared r org from hen.1]
    exact hf
  | commit n r e => exact h.move (fun _ hx => List.mem_append_left _ hx) rfl id
  | delete n r => exact h.move (fun _ hx => hx) rfl id
  | fail n => exact h.move (fun _ hx => hx) rfl id
  | revoke d' =>
    obtain ⟨x, hx, hid, hfp, hlive⟩ := h.live
    have hsame : revoke d' x.device = x.device := if_neg fun he => hl (he.symm.trans hid)
    refine ⟨⟨_, List.mem_map_of_mem hx, ?_⟩, h.quiet⟩
    dsimp only
    rw [hsame]
    exact ⟨hid, hfp, hlive⟩

theorem committed_of_update {requests : Nat → EnrollPhase} {m n : Nat} {p : EnrollPhase} {r : EnrollRequest}
    (h : Function.update requests m p n = .committed r) : requests n = .committed r ∨ n = m ∧ p = .committed r := by
  by_cases hn : n = m
  · subst hn
    rw [Function.update_self] at h
    exact .inr ⟨rfl, h⟩
  · rw [Function.update_of_ne hn] at h
    exact .inl h

/-- A request commits what it has flushed. -/
theorem serve_committed {l : Enrollment.Label} (hs : s.serve W l = some s') {n : Nat} {r : EnrollRequest}
    (hr : s'.server.requests n = .committed r) :
    s.server.requests n = .committed r ∨ ∃ e, s.server.requests n = .flushed r e := by
  obtain ⟨server, hstep, rfl⟩ := Option.map_eq_some_iff.mp hs
  obtain ⟨hen, rfl⟩ := Run.guardedStep_eq_some.mp hstep
  have hmoved : ∀ {m p}, Function.update s.server.requests m p n = .committed r → (∀ r, p ≠ .committed r) →
      s.server.requests n = .committed r ∨ ∃ e, s.server.requests n = .flushed r e := by
    intro m p hup hp
    rcases committed_of_update hup with hold | ⟨-, hnew⟩
    · exact .inl hold
    · exact absurd hnew (hp r)
  cases l with
  | generate token org => exact .inl hr
  | expire token => exact .inl hr
  | expireLimit e ip => exact .inl hr
  | revoke d => exact .inl hr
  | begin m r' => exact hmoved hr (by simp)
  | limit m r' =>
    refine hmoved hr fun _ => ?_
    split <;> simp
  | get m r' =>
    refine hmoved hr fun _ => ?_
    split <;> simp
  | lookup m r' org =>
    refine hmoved hr fun _ => ?_
    split <;> simp
  | insert m r' org id key => exact hmoved hr (by simp)
  | delete m r' => exact hmoved hr (by simp)
  | fail m => exact hmoved hr (by simp)
  | commit m r' e =>
    rcases committed_of_update hr with hold | ⟨rfl, hnew⟩
    · exact .inl hold
    · obtain rfl := EnrollPhase.committed.inj hnew
      exact .inr ⟨e, hen⟩

/-- The server answers with credentials when it has committed. -/
theorem serve_replied {l : Enrollment.Label} (hs : s.serve W l = some s') {n : Nat} {id : Uuid} {key : String}
    (hr : s'.replies n = some (.registered id key)) :
    s.replies n = some (.registered id key) ∨ ∃ r, s.server.requests n = .committed r := by
  obtain ⟨server, hstep, rfl⟩ := Option.map_eq_some_iff.mp hs
  obtain ⟨hen, rfl⟩ := Run.guardedStep_eq_some.mp hstep
  have hanswer : ∀ {m reply}, (s.answer m reply).replies n = some (.registered id key) →
      (∀ id key, reply ≠ some (.registered id key)) → s.replies n = some (.registered id key) := by
    intro m reply hreply hne
    replace hreply : Function.update s.replies m reply n = some (.registered id key) := hreply
    by_cases hn : n = m
    · subst hn
      rw [Function.update_self] at hreply
      exact absurd hreply (hne id key)
    · rwa [Function.update_of_ne hn] at hreply
  cases l with
  | generate token org => exact .inl hr
  | expire token => exact .inl hr
  | expireLimit e ip => exact .inl hr
  | revoke d => exact .inl hr
  | begin m r' => exact .inl hr
  | insert m r' org id key => exact .inl hr
  | commit m r' e => exact .inl hr
  -- The three steps that may refuse answer with an error, and with credentials never.
  | limit m r' =>
    dsimp only [record] at hr
    split at hr
    · exact .inl hr
    · exact .inl (hanswer hr (by simp))
  | get m r' =>
    dsimp only [record] at hr
    split at hr
    · exact .inl hr
    · exact .inl (hanswer hr (by simp))
  | lookup m r' org =>
    dsimp only [record] at hr
    split at hr
    · exact .inl hr
    · exact .inl (hanswer hr fun _ _ => by split <;> simp)
  -- The token is deleted after the commit, and then the row is answered.
  | delete m r' =>
    by_cases hn : n = m
    · subst hn
      exact .inr ⟨r', hen⟩
    · left
      replace hr : Function.update s.replies m _ n = some (.registered id key) := hr
      rwa [Function.update_of_ne hn] at hr
  -- A request that has been answered keeps its answer.
  | fail m =>
    left
    replace hr : Function.update s.replies m ((s.replies m).or (some .failed)) n = some (.registered id key) := hr
    by_cases hn : n = m
    · subst hn
      rw [Function.update_self] at hr
      cases hold : s.replies n with
      | none => rw [hold] at hr; simp at hr
      | some reply => rwa [hold] at hr
    · rwa [Function.update_of_ne hn] at hr

/-- The server goes on, and what the agent has given up stays so. -/
theorem GivenUp.serve {a : Nat} {d : Uuid} (h : GivenUp s a) (hinv : Inv W s)
    (ht : Taken s d (s.agents a).host.fingerprint) {l : Enrollment.Label} (hs : s.serve W l = some s') :
    GivenUp s' a := by
  have hagents := (served_step hinv.server hs).agents
  refine ⟨fun n hn => ?_, hagents ▸ h.unregistered⟩
  rw [hagents] at hn
  obtain ⟨hcommitted, hreplied⟩ := h.awaiting n hn
  refine ⟨fun r hr => ?_, fun id key hr => ?_⟩
  · rcases serve_committed hs hr with hold | ⟨e, hflushed⟩
    · exact hcommitted r hold
    · -- the fingerprint is taken, so nothing is flushed for it
      have hasked := (hinv.server n).asked r (by rw [hflushed]; rfl)
      rw [(hinv.agents a).awaiting n hn] at hasked
      refine ht.quiet n ?_
      rw [hflushed, ← Option.some.inj hasked]
      rfl
  · rcases serve_replied hs hr with hold | ⟨r, hr'⟩
    · exact hreplied id key hold
    · exact hcommitted r hr'

/-- The agent has lost its device: the fingerprint is taken, no answer brings credentials, and what is in memory
    stays. -/
structure LockedOut (W : Wire) (memory : Config) (a : Nat) (d : Uuid) (s : Registering) : Prop where
  inv : Inv W s
  taken : Taken s d (s.agents a).host.fingerprint
  givenUp : GivenUp s a
  memory : (s.agents a).loop.memory = memory

/-- An agent turns, or begins again. -/
theorem LockedOut.agent {memory : Config} {a b : Nat} {d : Uuid} (h : LockedOut W memory a d s)
    (hinv : Inv W s') (hserver : s'.server = s.server) (hreplies : s'.replies = s.replies)
    (hother : ∀ c, c ≠ b → s'.agents c = s.agents c)
    (hself : b = a → (s'.agents a).host = (s.agents a).host ∧ (s'.agents a).loop.memory = memory ∧
      (∀ n, (s'.agents a).phase ≠ .awaiting n) ∧ (s'.agents a).phase ≠ .ended .registered) :
    LockedOut W memory a d s' := by
  have htaken : ∀ {f}, Taken s d f → Taken s' d f := fun ht =>
    ⟨by rw [hserver]; exact ht.live, by rw [hserver]; exact ht.quiet⟩
  by_cases hb : b = a
  · obtain ⟨hhost, hmemory, hawait, hreg⟩ := hself hb
    refine ⟨hinv, ?_, ⟨fun n hn => absurd hn (hawait n), hreg⟩, hmemory⟩
    rw [hhost]
    exact htaken h.taken
  · have hsame := hother a (Ne.symm hb)
    refine ⟨hinv, ?_, ⟨fun n hn => ?_, ?_⟩, ?_⟩
    · rw [hsame]
      exact htaken h.taken
    · rw [hserver, hreplies]
      exact h.givenUp.awaiting n (hsame ▸ hn)
    · rw [hsame]
      exact h.givenUp.unregistered
    · rw [hsame]
      exact h.memory

/-- A turn without credentials. -/
theorem LockedOut.turned {memory : Config} {a b : Nat} {d : Uuid} (h : LockedOut W memory a d s)
    {posted : Posted} {typed : Typed} {run : SaveRun} (hinv : Inv W (s.turned W b posted typed run))
    (htyped : typed.deviceId = none)
    (hposted : b = a → posted.credentials W.unmarshal = none) :
    LockedOut W memory a d (s.turned W b posted typed run) := by
  refine h.agent (b := b) hinv rfl rfl (fun c hc => turned_other hc ..) ?_
  rintro rfl
  have hturn := @turn_unattended W.encode W.unmarshal (s.agents b).loop posted typed htyped run
  rw [turned_self]
  dsimp only at hturn ⊢
  generalize turn W.encode W.unmarshal (s.agents b).loop posted typed run = t at hturn ⊢
  rcases hturn with ⟨hmemory, hnot⟩ | ⟨c, hc, -⟩
  · refine ⟨rfl, hmemory.trans h.memory, fun n => (turn_phase_ne t n).1, fun hreg => ?_⟩
    cases t with
    | ended how s₀ =>
      obtain rfl : how = .registered := AgentPhase.ended.inj hreg
      exact hnot s₀ rfl
    | sleeps secs s₀ => cases hreg
  · rw [hposted rfl] at hc
    cases hc

/-- **One step**: whatever the others do, the agent stays locked out. -/
theorem locked_step {memory : Config} {a : Nat} {d : Uuid} (s : Registering) (l : Label) (s' : Registering)
    (hl : Unattended l ∧ Spares d l) (hs : step W s l = some s') (h : LockedOut W memory a d s) :
    LockedOut W memory a d s' := by
  have hinv := inv_step s l s' hl.1 hs h.inv
  have hserved : ∀ {l s'}, Spares d (.server l) → s.serve W l = some s' → LockedOut W memory a d s' := by
    intro l s' hl hserve
    have hserved := served_step h.inv.server hserve
    have hagents := hserved.agents
    refine ⟨⟨hserved.at', fun a => (h.inv.agents a).served hserved⟩, ?_,
      h.givenUp.serve h.inv h.taken hserve, ?_⟩
    · rw [hagents]
      exact h.taken.serve hl hserve
    · rw [hagents]
      exact h.memory
  cases l with
  | server l => exact hserved hl.2 hs
  | post b n =>
    rw [step] at hs
    split at hs
    · obtain ⟨s₁, hserve, rfl⟩ := Option.map_eq_some_iff.mp hs
      have h₁ := hserved (l := .begin n (s.agents b).request) trivial hserve
      by_cases hb : b = a
      · subst hb
        have hself : Function.update s₁.agents b { s₁.agents b with phase := .awaiting n } b =
            { s₁.agents b with phase := .awaiting n } := Function.update_self ..
        refine ⟨hinv, ?_, ?_, ?_⟩
        · dsimp only
          rw [hself]
          exact ⟨h₁.taken.live, h₁.taken.quiet⟩
        · -- the request is new: it has not committed, and it is not answered
          obtain ⟨server, hstep, rfl⟩ := Option.map_eq_some_iff.mp hserve
          obtain ⟨hen, rfl⟩ := Run.guardedStep_eq_some.mp hstep
          constructor
          · intro m hm
            dsimp only at hm ⊢
            rw [hself] at hm
            obtain rfl := AgentPhase.awaiting.inj hm
            refine ⟨fun r => ?_, fun id key => ?_⟩
            · rw [show (Enrollment.effect W.env s.server (.begin n (s.agents b).request)).requests n =
                .begun (s.agents b).request from Function.update_self ..]
              simp
            · rw [show (s.record (.begin n (s.agents b).request)).replies n = none from
                ((h.inv.server n).idle hen).2]
              simp
          · dsimp only
            rw [hself]
            simp
        · dsimp only
          rw [hself]
          exact h₁.memory
      · exact h₁.agent (b := b) hinv rfl rfl (fun c hc => Function.update_of_ne hc ..) fun he => absurd he hb
    · cases hs
  | answered b typed run =>
    rw [step] at hs
    split at hs
    · rename_i n hphase
      obtain ⟨r, hr, rfl⟩ := Option.map_eq_some_iff.mp hs
      refine h.turned hinv hl.1 ?_
      rintro rfl
      rw [Option.eq_none_iff_forall_not_mem]
      intro c hc
      obtain ⟨id, key, rfl, rfl⟩ := credentials_registered hc
      exact (h.givenUp.awaiting n hphase).2 id key hr
    · cases hs
  | lost b err =>
    rw [step] at hs
    split at hs
    · obtain rfl := Option.some.inj hs
      exact h.turned hinv rfl fun _ => rfl
    · cases hs
  | wake b =>
    rw [step] at hs
    split at hs
    · obtain rfl := Option.some.inj hs
      refine h.agent (b := b) hinv rfl rfl (fun c hc => Function.update_of_ne hc ..) ?_
      rintro rfl
      dsimp only
      rw [Function.update_self]
      exact ⟨rfl, h.memory, by simp, by simp⟩
    · cases hs

/-- **A lost reply is final**: once the device of an agent is enrolled and the agent has not got the answer,
    it gets no credentials from any later one, as long as the device is not revoked.

    `LockedOut` is the invariant: the fingerprint is taken and the agent waits for nothing that brings credentials.
    No step of a server that keeps the device, and no step of an agent nobody attends, leaves it. -/
theorem lost_reply (W : Wire) {agents : Nat → AgentProcess} (hfresh : Fresh agents) {ls ms : List Label}
    {s s' : Registering} (hls : Run.Guarded (step W) (fun _ l => Unattended l) (init agents) ls)
    (hs : Run.exec (step W) (init agents) ls = some s) {a : Nat} {d : Uuid}
    (htaken : Taken s d (s.agents a).host.fingerprint) (hlost : GivenUp s a)
    (hms : Run.Guarded (step W) (fun _ l => Unattended l ∧ Spares d l) s ms)
    (hs' : Run.exec (step W) s ms = some s') :
    (s'.agents a).phase ≠ .ended .registered ∧ (s'.agents a).loop.memory = (s.agents a).loop.memory := by
  have hinv : Inv W s := Run.exec_inv inv_step hls hs (inv_init hfresh)
  have hlocked : LockedOut W (s.agents a).loop.memory a d s' :=
    Run.exec_inv locked_step hms hs' ⟨hinv, htaken, hlost, rfl⟩
  exact ⟨hlocked.givenUp.unregistered, hlocked.memory⟩

/-- The answer is lost, and the agent asks again. -/
theorem lost_reply_enrolled :
    ∃ s s', Run.exec (step Wire.sample) (init sampleAgents) (enrolled ++ [.lost 0 "timeout"]) = some s ∧
      Run.exec (step Wire.sample) s [.wake 0, .post 0 1, .server (.limit 1 sampleRequest),
        .server (.get 1 sampleRequest), .answered 0 ⟨none, none⟩ .succeeds] = some s' ∧
      (s'.agents 0).phase ≠ .ended .registered ∧ (s'.agents 0).loop.memory = (s.agents 0).loop.memory := by
  have hunattended : ∀ l ∈ enrolled ++ [.lost 0 "timeout"], Unattended l := by
    simp [enrolled, Unattended]
  have hlater : ∀ l ∈ ([.wake 0, .post 0 1, .server (.limit 1 sampleRequest),
      .server (.get 1 sampleRequest), .answered 0 ⟨none, none⟩ .succeeds] : List Label),
      Unattended l ∧ Spares 1 l := by
    simp [Unattended, Spares]
  refine ⟨_, _, rfl, rfl, lost_reply Wire.sample sampleAgents_fresh (d := 1)
    (Run.guarded_of_forall _ hunattended) rfl (a := 0) ⟨⟨_, .head _, rfl, rfl, rfl⟩, fun n hn => ?_⟩ ?_
    (Run.guarded_of_forall _ hlater) rfl⟩
  · cases n with
    | zero => exact hn
    | succ n => exact hn
  · have hphase : ∀ p : AgentPhase, p = .sleeping 5 → (∀ n, p ≠ .awaiting n) ∧ p ≠ .ended .registered := by
      rintro _ rfl
      simp
    exact ⟨fun n hn => absurd hn ((hphase _ rfl).1 n), (hphase _ rfl).2⟩

end Registering

end Dtsys
