/-
  WHO GETS PAST THE HANDSHAKE of `device_websocket`, after any sequence of earlier attempts.

  The rate limit counts the attempts of an address; the first one of a window gives the counter 60
  seconds to live, an admitted one deletes it.  `attempts_key` is bound by the rate limit only, and the
  deletion names it on every path: an authenticated client on the same host, which the rate limit skips,
  raises `UnboundLocalError` instead.

  1. `handshake` — the endpoint up to `accept()`; `bcrypt.checkpw` is a parameter that may raise;
  2. `sinceReset` — the attempts of an address since its counter was last reset, from the log of the
     attempts; `Counts` says that Redis has this number;
  3. `handshake_lawful_iff` — the next attempt is answered as it should be exactly when no client on the
     same host has the right key, and `checkpw` does not raise.
-/
import Dtsys.Server.Router
import Dtsys.Lib.Run
import Dtsys.Lib.Rows
import Mathlib.Data.List.Nodup

namespace Dtsys

namespace Server

variable (E : Env) (checkpw : String → String → Except PyErr Bool)

/-! ## The handshake -/

/-- How the handshake of a connection ends when it returns. -/
inductive Handshaken where
  | accepted (device : Device)
  | closed (code : Nat)

/-- The device, if it exists, is not revoked and the token is its key. -/
def credentials (d : Uuid) (token : String) : Server (Option Device) := do
  let rows ← select E fun db => db.devices.filter fun r => r.id == d && !r.isRevoked
  let device ← scalarOneOrNone rows
  match device with
  | none => pure none
  | some r => do
    let verified ← Act.ofExcept (checkpw token r.apiKeyHash)
    pure (if verified then some r else none)

/-- The rate limit, which a client on the same host skips. -/
def rateLimited (ip : String) : Server Bool :=
  if isLoopback ip then pure false else connectRateLimited ip

/-- `device_websocket` up to `accept()`. -/
def handshake (d : Uuid) (token ip : String) : Server Handshaken := do
  let limited ← rateLimited ip
  if limited then pure (.closed 4029)
  else do
    let device ← credentials E checkpw d token
    match device with
    | none => pure (.closed 4001)
    | some device => do
      clearAttempts ip
      pure (.accepted device)

/-- What follows. -/
def serveAccepted (d : Uuid) (ws : Socket) (ip : String) (frames : List Incoming) :
    Handshaken → Server Unit
  | .closed _ => pure ()
  | .accepted device => do
    Act.modify fun w => { w with device := device, loaded := device }
    connectSequence E d ws ip
    serveLoop E d ws frames

/-- The credentials, with a check of the key that never raises. -/
theorem credentials_verify (d : Uuid) (token : String) :
    credentials E (fun key hash => .ok (E.verifyApiKey key hash)) d token = authenticate E d token := by
  funext w
  refine Act.bind_congr_run fun rows _ _ => Act.bind_congr_run fun device v _ => ?_
  cases device with
  | none => rfl
  | some r =>
    rw [Option.filter_some]
    rfl

/-- The endpoint is its handshake and what follows. -/
theorem deviceWebsocket_eq (d : Uuid) (token : String) (ws : Socket) (ip : String)
    (frames : List Incoming) :
    deviceWebsocket E d token ws ip frames =
      handshake E (fun key hash => .ok (E.verifyApiKey key hash)) d token ip >>=
        serveAccepted E d ws ip frames := by
  funext w
  have hlimit : deviceWebsocket E d token ws ip frames w =
      (rateLimited ip >>= fun limited => if limited then pure () else
        authenticate E d token >>= serveDevice E d ws ip frames) w := by
    rw [deviceWebsocket, rateLimited]
    split
    · rfl
    · rfl
  rw [hlimit, handshake, credentials_verify, Act.bind_assoc_run]
  refine Act.bind_congr_run fun limited v _ => ?_
  cases limited with
  | true => rfl
  | false =>
    refine (Act.bind_congr_run fun device u _ => ?_).trans (Act.bind_assoc_run _ _ _ v).symm
    cases device with
    | none => rfl
    | some device =>
      exact (Act.bind_assoc_run (clearAttempts ip) (fun _ => pure (.accepted device))
        (serveAccepted E d ws ip frames) u).symm

/-! ## The attempts since the counter was last reset -/

/-- An attempt: the address, when it came, and how it ended. -/
structure Knock where
  ip : String
  time : Nat
  outcome : Except PyErr Handshaken

/-- The attempt got past the handshake. -/
def Knock.admitted (a : Knock) : Bool :=
  match a.outcome with
  | .ok (.accepted _) => true
  | _ => false

/-- The attempts of one address since its counter was last reset: how many, and when the first came. -/
structure Window where
  count : Nat
  opened : Nat
  pos : 0 < count

/-- The window with one more attempt at time `t`; 60 seconds after its first attempt it is over. -/
def Window.next (t : Nat) : Option Window → Window
  | none => ⟨1, t, Nat.one_pos⟩
  | some v =>
    if t < v.opened + 60 * second then ⟨v.count + 1, v.opened, Nat.succ_pos _⟩
    else ⟨1, t, Nat.one_pos⟩

/-- What an attempt makes of the window of an address. -/
def Knock.count (ip : String) (v : Option Window) (a : Knock) : Option Window :=
  if a.ip = ip then (if a.admitted then none else some (Window.next a.time v)) else v

/-- An attempt of another address counts for nothing here. -/
theorem Knock.count_other {ip : String} {a : Knock} (h : a.ip ≠ ip) (v : Option Window) :
    a.count ip v = v :=
  if_neg h

theorem Knock.count_refused {a : Knock} (h : a.admitted = false) (v : Option Window) :
    a.count a.ip v = some (Window.next a.time v) := by
  rw [Knock.count, if_pos rfl, if_neg (by rw [h]; decide)]

/-- An admitted one clears the counter. -/
theorem Knock.count_admitted {a : Knock} (h : a.admitted = true) (v : Option Window) :
    a.count a.ip v = none := by
  rw [Knock.count, if_pos rfl, if_pos h]

/-- The window of an address after the attempts of the log, oldest first. -/
def sinceReset (ip : String) (log : List Knock) : Option Window := log.foldl (Knock.count ip) none

theorem sinceReset_concat (ip : String) (log : List Knock) (a : Knock) :
    sinceReset ip (log ++ [a]) = a.count ip (sinceReset ip log) := by
  rw [sinceReset, List.foldl_append]
  rfl

/-- The counter of a window. -/
def Window.counter (v : Window) : Counter := ⟨v.count, some (v.opened + 60 * second)⟩

variable {E checkpw} {w : World}

/-- **The rate limit** counts the window on. -/
theorem connectRateLimited_run {r : Redis} {ip : String} {v : Option Window}
    (hredis : w.redis = some r) (hcount : r.counters (.wsAttempts ip) = v.map Window.counter) :
    connectRateLimited ip w = (.ok (decide (30 < (Window.next w.clock v).count)),
      { w with redis := some { r with
        counters := Function.update r.counters (.wsAttempts ip)
          (some (Window.next w.clock v).counter) } }) := by
  rw [connectRateLimited, hredis]
  cases v with
  | none =>
    have hincr : r.incr (.wsAttempts ip) w.clock = (1, { r with
        counters := Function.update r.counters (.wsAttempts ip) (some ⟨1, none⟩) }) := by
      simp [Redis.incr, Redis.live, hcount]
    dsimp only
    rw [hincr]
    simp [Redis.expire, Redis.live, Option.filter_some, Window.next, Window.counter]
  | some v =>
    by_cases hlive : w.clock < v.opened + 60 * second
    · have hincr : r.incr (.wsAttempts ip) w.clock = (v.count + 1, { r with
          counters := Function.update r.counters (.wsAttempts ip)
            (some ⟨v.count + 1, some (v.opened + 60 * second)⟩) }) := by
        simp [Redis.incr, Redis.live, Option.filter_some, hcount, Window.counter, hlive]
      dsimp only
      rw [hincr]
      have hpos := v.pos
      have hne : v.count + 1 ≠ 1 := by omega
      dsimp only
      rw [if_neg hne]
      simp [Window.next, Window.counter, hlive]
    · have hincr : r.incr (.wsAttempts ip) w.clock = (1, { r with
          counters := Function.update r.counters (.wsAttempts ip) (some ⟨1, none⟩) }) := by
        simp [Redis.incr, Redis.live, Option.filter_some, hcount, Window.counter, hlive]
      dsimp only
      rw [hincr]
      simp [Redis.expire, Redis.live, Option.filter_some, Window.next, Window.counter, hlive]

/-! ## The run of a handshake -/

/-- What `credentials` makes of a database. -/
def credentialsIn (checkpw : String → String → Except PyErr Bool) (d : Uuid) (token : String)
    (db : Db) : Except PyErr (Option Device) :=
  match db.devices.filter fun r => r.id == d && !r.isRevoked with
  | [] => .ok none
  | [r] => (checkpw token r.apiKeyHash).map fun verified => if verified then some r else none
  | _ => .error .multipleResultsFound

/-- The check of the credentials changes nothing. -/
theorem credentials_run (h : w.Settled) (d : Uuid) (token : String) :
    credentials E checkpw d token w = (credentialsIn checkpw d token w.db, w) := by
  rw [credentials, credentialsIn, Act.bind_of_ok (select_settled h _)]
  generalize w.db.devices.filter (fun r => r.id == d && !r.isRevoked) = rows
  rcases rows with _ | ⟨r, _ | ⟨r', rest⟩⟩
  · rfl
  · show (Act.ofExcept (checkpw token r.apiKeyHash) >>= fun verified => pure _) w = (Except.map _ _, w)
    cases checkpw token r.apiKeyHash with
    | error e => rfl
    | ok b => rfl
  · rfl

variable (checkpw) in
/-- With a primary key: there is no such device, or `checkpw` decides. -/
theorem credentialsIn_cases {db : Db} (hkey : (db.devices.map Device.id).Nodup) (d : Uuid)
    (token : String) :
    ((∀ r ∈ db.devices, r.id = d → r.isRevoked = true) ∧
        credentialsIn checkpw d token db = .ok none) ∨
      ∃ r ∈ db.devices, r.id = d ∧ r.isRevoked = false ∧ credentialsIn checkpw d token db =
        (checkpw token r.apiKeyHash).map fun verified => if verified then some r else none := by
  have hsplit : (db.devices.filter fun r => r.id == d && !r.isRevoked) =
      (db.devices.filter fun r => r.id == d).filter fun r => !r.isRevoked := by
    rw [List.filter_filter]
    exact List.filter_congr fun r _ => Bool.and_comm _ _
  rw [credentialsIn, hsplit]
  by_cases hin : d ∈ db.devices.map Device.id
  · obtain ⟨r, hr, rfl⟩ := List.mem_map.mp hin
    rw [Rows.filter_key hkey hr]
    cases hrev : r.isRevoked with
    | true =>
      refine .inl ⟨fun x hx hid => ?_, by simp [hrev]⟩
      rw [List.inj_on_of_nodup_map hkey hx hr hid]
      exact hrev
    | false => exact .inr ⟨r, hr, rfl, hrev, by simp [hrev]⟩
  · rw [Rows.filter_key_eq_nil hin]
    exact .inl ⟨fun x hx hid => absurd (List.mem_map.mpr ⟨x, hx, hid⟩) hin, rfl⟩

/-- What follows the authentication; the name of the counter is bound by the rate limit only. -/
def answer (ip : String) : Option Device → Except PyErr Handshaken
  | none => .ok (.closed 4001)
  | some device =>
    if isLoopback ip then .error .unboundLocalError else .ok (.accepted device)

/-- A client on the same host. -/
theorem handshake_loopback (h : w.Settled) {ip : String} (hip : isLoopback ip = true) (d : Uuid)
    (token : String) :
    handshake E checkpw d token ip w = (credentialsIn checkpw d token w.db >>= answer ip, w) := by
  have hlimit : rateLimited ip w = (.ok false, w) := by
    rw [rateLimited, if_pos hip]
    rfl
  rw [handshake, Act.bind_of_ok hlimit]
  show (credentials E checkpw d token >>= _) w = _
  rw [Act.bind_run, credentials_run h]
  rcases credentialsIn checkpw d token w.db with e | _ | device
  · rfl
  · rfl
  · have hclear : clearAttempts ip w = (.error .unboundLocalError, w) := by
      rw [clearAttempts, if_pos hip]
      rfl
    have hanswer : answer ip (some device) = .error .unboundLocalError := if_pos hip
    show (clearAttempts ip >>= fun _ => pure (.accepted device)) w = (answer ip (some device), w)
    rw [Act.bind_of_error hclear, hanswer]

variable (E checkpw) in
/-- A client of another host: its counter goes up, and an admitted one deletes it. -/
theorem handshake_counted (h : w.Settled) {ip : String} (hip : isLoopback ip = false) (d : Uuid)
    (token : String) {r : Redis} {v : Option Window} (hredis : w.redis = some r)
    (hcount : r.counters (.wsAttempts ip) = v.map Window.counter) :
    ∃ outcome, outcome = (if 30 < (Window.next w.clock v).count then .ok (.closed 4029)
        else credentialsIn checkpw d token w.db >>= answer ip) ∧
      handshake E checkpw d token ip w = (outcome, { w with redis := some { r with
        counters := Function.update r.counters (.wsAttempts ip)
          (((⟨ip, w.clock, outcome⟩ : Knock).count ip v).map Window.counter) } }) := by
  have hlimit := connectRateLimited_run hredis hcount
  have hrate : rateLimited ip w = connectRateLimited ip w := by
    rw [rateLimited, if_neg (by rw [hip]; decide)]
  have hrefused : ∀ outcome : Except PyErr Handshaken, (⟨ip, w.clock, outcome⟩ : Knock).admitted = false →
      (⟨ip, w.clock, outcome⟩ : Knock).count ip v = some (Window.next w.clock v) :=
    fun outcome h => Knock.count_refused h v
  rw [handshake, Act.bind_of_ok (hrate.trans hlimit)]
  by_cases hmany : 30 < (Window.next w.clock v).count
  · refine ⟨.ok (.closed 4029), (if_pos hmany).symm, ?_⟩
    rw [if_pos (decide_eq_true hmany), hrefused _ rfl]
    rfl
  · refine ⟨_, (if_neg hmany).symm, ?_⟩
    rw [if_neg (by simpa using hmany), Act.bind_run, credentials_run (by exact ⟨h.pending, h.loaded⟩)]
    dsimp only
    rcases credentialsIn checkpw d token w.db with e | _ | device
    · rw [hrefused _ rfl]
      rfl
    · rw [hrefused _ rfl]
      rfl
    · have hanswer : (Except.ok (some device) >>= answer ip) = .ok (.accepted device) :=
        if_neg (by rw [hip]; decide)
      have hcounted : (⟨ip, w.clock, .ok (.accepted device)⟩ : Knock).count ip v = none :=
        Knock.count_admitted rfl v
      rw [hanswer, hcounted]
      rw [clearAttempts, if_neg (by rw [hip]; decide)]
      simp [Redis.delete]

/-! ## The attempts, one after the other -/

/-- The endpoint between two attempts, and the attempts so far. -/
structure Gate where
  world : World
  log : List Knock

/-- An attempt; time; what others write to the database, and to the counters of events. -/
inductive GateLabel where
  | knock (d : Uuid) (token ip : String)
  | wait (t : Nat)
  | write (db : Db)
  | events (d : Uuid) (c : Option Counter)

/-- An attempt is answered. -/
def Gate.knock (E : Env) (checkpw : String → String → Except PyErr Bool) (s : Gate) (d : Uuid)
    (token ip : String) : Gate where
  world := (handshake E checkpw d token ip s.world).2
  log := s.log ++ [⟨ip, s.world.clock, (handshake E checkpw d token ip s.world).1⟩]

/-- A connection attempt, the passing of time, or what other requests have made of the database. -/
def gateStep (E : Env) (checkpw : String → String → Except PyErr Bool) (s : Gate) :
    GateLabel → Option Gate
  | .knock d token ip => some (s.knock E checkpw d token ip)
  | .wait t => some { s with world := { s.world with clock := s.world.clock + t } }
  | .write db => some { s with world := { s.world with db := db, committed := db } }
  | .events d c => some { s with world := { s.world with
      redis := s.world.redis.map fun r =>
        { r with counters := Function.update r.counters (.eventRate d) c } } }

/-- Redis counts the attempts of every address the rate limit is for. -/
structure Counts (s : Gate) : Prop where
  settled : s.world.Settled
  redis : ∃ r, s.world.redis = some r ∧ ∀ ip, isLoopback ip = false →
    r.counters (.wsAttempts ip) = (sinceReset ip s.log).map Window.counter

theorem Counts.knock {s : Gate} (h : Counts s) (d : Uuid) (token ip : String) :
    Counts (s.knock E checkpw d token ip) := by
  obtain ⟨r, hredis, hcount⟩ := h.redis
  rw [Gate.knock]
  by_cases hip : isLoopback ip = true
  · rw [handshake_loopback h.settled hip]
    refine ⟨h.settled, r, hredis, fun ip' hip' => ?_⟩
    have hne : ip ≠ ip' := by
      rintro rfl
      rw [hip] at hip'
      cases hip'
    rw [sinceReset_concat, Knock.count_other hne]
    exact hcount ip' hip'
  · rw [Bool.not_eq_true] at hip
    obtain ⟨outcome, -, hrun⟩ := handshake_counted E checkpw h.settled hip
      d token hredis (hcount ip hip)
    rw [hrun]
    refine ⟨⟨h.settled.pending, h.settled.loaded⟩, _, rfl, fun ip' hip' => ?_⟩
    rw [sinceReset_concat]
    by_cases hne : ip = ip'
    · subst hne
      exact Function.update_self ..
    · have hother := Knock.count_other (a := ⟨ip, s.world.clock, outcome⟩) hne (sinceReset ip' s.log)
      rw [hother]
      refine (Function.update_of_ne (fun hkey => hne ?_) _ _).trans (hcount ip' hip')
      exact (CounterKey.wsAttempts.inj hkey).symm

theorem counts_step {s s' : Gate} {l : GateLabel} (hs : gateStep E checkpw s l = some s')
    (h : Counts s) : Counts s' := by
  obtain ⟨r, hredis, hcount⟩ := h.redis
  cases l with
  | knock d token ip =>
    obtain rfl := Option.some.inj hs
    exact h.knock d token ip
  | wait t =>
    obtain rfl := Option.some.inj hs
    exact ⟨⟨h.settled.pending, h.settled.loaded⟩, r, hredis, hcount⟩
  | write db =>
    obtain rfl := Option.some.inj hs
    exact ⟨⟨h.settled.pending, h.settled.loaded⟩, r, hredis, hcount⟩
  | events d c =>
    obtain rfl := Option.some.inj hs
    refine ⟨⟨h.settled.pending, h.settled.loaded⟩,
      { r with counters := Function.update r.counters (.eventRate d) c }, ?_, fun ip hip => ?_⟩
    · show s.world.redis.map _ = _
      rw [hredis]
      rfl
    · have hkey : CounterKey.wsAttempts ip ≠ .eventRate d := fun h => nomatch h
      exact (Function.update_of_ne hkey c r.counters).trans (hcount ip hip)

/-- The number of the next attempt of an address, since its counter was last reset. -/
def attemptNumber (s : Gate) (ip : String) : Nat :=
  (Window.next s.world.clock (sinceReset ip s.log)).count

/-- The rate limit lets the next attempt of the address pass. -/
def InTime (s : Gate) (ip : String) : Prop := isLoopback ip = true ∨ attemptNumber s ip ≤ 30

variable (E checkpw) in
/-- What the next handshake answers. -/
theorem handshake_outcome {s : Gate} (h : Counts s) (d : Uuid) (token ip : String) :
    (InTime s ip → (handshake E checkpw d token ip s.world).1 =
        credentialsIn checkpw d token s.world.db >>= answer ip) ∧
      (¬ InTime s ip → (handshake E checkpw d token ip s.world).1 = .ok (.closed 4029)) := by
  by_cases hip : isLoopback ip = true
  · rw [handshake_loopback h.settled hip]
    exact ⟨fun _ => rfl, fun hlate => absurd (.inl hip) hlate⟩
  · obtain ⟨r, hredis, hcount⟩ := h.redis
    have hip' : isLoopback ip = false := by simpa using hip
    obtain ⟨outcome, hout, hrun⟩ := handshake_counted E checkpw h.settled hip'
      d token hredis (hcount ip hip')
    rw [hrun]
    refine ⟨fun hin => ?_, fun hlate => ?_⟩
    · have hle : attemptNumber s ip ≤ 30 := hin.resolve_left hip
      exact hout.trans (if_neg (Nat.not_lt.mpr hle))
    · have hlt : 30 < attemptNumber s ip := Nat.lt_of_not_le fun hle => hlate (.inr hle)
      exact hout.trans (if_pos hlt)

/-! ## The handshake is answered as it should be -/

/-- The attempt is to be accepted. -/
def Admissible (checkpw : String → String → Except PyErr Bool) (s : Gate) (d : Uuid)
    (token ip : String) : Prop :=
  InTime s ip ∧ ∃ r ∈ s.world.db.devices, r.id = d ∧ r.isRevoked = false ∧
    checkpw token r.apiKeyHash = .ok true

/-- It is accepted if it is to be, it is closed with one of the two codes otherwise, and it does not
    raise. -/
structure Lawful (outcome : Except PyErr Handshaken) (admissible : Prop) : Prop where
  accepted : (∃ device, outcome = .ok (.accepted device)) ↔ admissible
  closed : ¬ admissible → outcome = .ok (.closed 4029) ∨ outcome = .ok (.closed 4001)

/-- A closed connection is lawful when it was not to be accepted. -/
theorem lawful_closed {outcome : Except PyErr Handshaken} {ok : Prop} (hnot : ¬ ok)
    (h : outcome = .ok (.closed 4029) ∨ outcome = .ok (.closed 4001)) : Lawful outcome ok := by
  refine ⟨iff_of_false ?_ hnot, fun _ => h⟩
  rintro ⟨device, rfl⟩
  rcases h with h | h
  · cases h
  · cases h

/-- A handshake that raises is not lawful. -/
theorem not_lawful_raised {e : PyErr} {ok : Prop} : ¬ Lawful (.error e) ok := by
  intro h
  by_cases hok : ok
  · obtain ⟨device, hout⟩ := h.accepted.mpr hok
    cases hout
  · rcases h.closed hok with hout | hout
    · cases hout
    · cases hout

/-- The answer to a client that names the device `row`. -/
theorem answered_lawful_iff {row : Device} {token ip : String} {ok : Prop}
    (hok : ok ↔ checkpw token row.apiKeyHash = .ok true) :
    Lawful (((checkpw token row.apiKeyHash).map fun verified => if verified then some row else none) >>=
        answer ip) ok ↔
      ∃ verified, checkpw token row.apiKeyHash = .ok verified ∧
        (verified = true → isLoopback ip = false) := by
  cases hpw : checkpw token row.apiKeyHash with
  | error e =>
    refine iff_of_false not_lawful_raised ?_
    rintro ⟨verified, hverified, -⟩
    cases hverified
  | ok verified =>
    rw [hpw] at hok
    cases verified with
    | false =>
      refine iff_of_true (lawful_closed ?_ (.inr rfl)) ⟨false, rfl, fun h => (nomatch h)⟩
      exact fun h => nomatch hok.mp h
    | true =>
      have hadm : ok := hok.mpr rfl
      by_cases hip : isLoopback ip = true
      · have hraised : answer ip (some row) = .error .unboundLocalError := if_pos hip
        show Lawful (answer ip (some row)) _ ↔ _
        rw [hraised]
        refine iff_of_false not_lawful_raised ?_
        rintro ⟨verified, hverified, hremote⟩
        obtain rfl := Except.ok.inj hverified
        rw [hip] at hremote
        cases hremote rfl
      · have haccepted : answer ip (some row) = .ok (.accepted row) := if_neg hip
        show Lawful (answer ip (some row)) _ ↔ _
        rw [haccepted]
        exact iff_of_true ⟨iff_of_true ⟨row, rfl⟩ hadm, fun hnot => absurd hadm hnot⟩
          ⟨true, rfl, fun _ => by simpa using hip⟩

/-- **Websocket admission**, after any sequence of earlier attempts: the next one is answered as it
    should be exactly when, if the rate limit lets it pass and there is such a device, `checkpw` returns
    and does not accept the key of a client on the same host.

    The outcomes of the handshake in the order of the code.  One should not be there: an authenticated client on the
    same host meets an UnboundLocalError, since `attempts_key` is bound for the other clients only. -/
theorem handshake_lawful_iff {w : World} (hw : w.Settled) {r : Redis} (hredis : w.redis = some r)
    (hfresh : ∀ ip, r.counters (.wsAttempts ip) = none) {ls : List GateLabel} {s : Gate}
    (hrun : Run.exec (gateStep E checkpw) ⟨w, []⟩ ls = some s)
    (hkey : (s.world.db.devices.map Device.id).Nodup) (d : Uuid) (token ip : String) :
    Lawful (handshake E checkpw d token ip s.world).1 (Admissible checkpw s d token ip) ↔
      (InTime s ip → ∀ r ∈ s.world.db.devices, r.id = d → r.isRevoked = false →
        ∃ verified, checkpw token r.apiKeyHash = .ok verified ∧
          (verified = true → isLoopback ip = false)) := by
  have hcounts : Counts s := Run.exec_inv (C := fun _ _ => True) (fun _ _ _ _ hs => counts_step hs)
    (Run.guarded_true ls _) hrun ⟨hw, r, hredis, fun ip _ => hfresh ip⟩
  obtain ⟨hpassed, hlimited⟩ := handshake_outcome E checkpw hcounts d token ip
  by_cases hin : InTime s ip
  · rw [hpassed hin]
    rcases credentialsIn_cases checkpw hkey d token with
      ⟨hnone, hcred⟩ | ⟨row, hrow, hid, hrev, hcred⟩
    · rw [hcred]
      refine iff_of_true (lawful_closed ?_ (.inr rfl)) fun _ r hr hrid hrrev => ?_
      · rintro ⟨-, r, hr, hrid, hrrev, -⟩
        rw [hnone r hr hrid] at hrrev
        cases hrrev
      · rw [hnone r hr hrid] at hrrev
        cases hrrev
    · -- no other row has this id
      have honly : ∀ r ∈ s.world.db.devices, r.id = d → r = row := fun r hr hrid =>
        List.inj_on_of_nodup_map hkey hr hrow (hrid.trans hid.symm)
      have hadmissible : Admissible checkpw s d token ip ↔ checkpw token row.apiKeyHash = .ok true := by
        constructor
        · rintro ⟨-, r, hr, hrid, -, hpw⟩
          rw [← honly r hr hrid]
          exact hpw
        · exact fun hpw => ⟨hin, row, hrow, hid, hrev, hpw⟩
      have hcond : (InTime s ip → ∀ r ∈ s.world.db.devices, r.id = d → r.isRevoked = false →
          ∃ verified, checkpw token r.apiKeyHash = .ok verified ∧
            (verified = true → isLoopback ip = false)) ↔
          ∃ verified, checkpw token row.apiKeyHash = .ok verified ∧
            (verified = true → isLoopback ip = false) := by
        constructor
        · exact fun h => h hin row hrow hid hrev
        · intro h _ r hr hrid _
          rw [honly r hr hrid]
          exact h
      rw [hcond, hcred]
      exact answered_lawful_iff hadmissible
  · rw [hlimited hin]
    exact iff_of_true (lawful_closed (fun h => hin h.1) (.inl rfl)) fun h => absurd h hin

/-- One device, with Redis up. -/
def oneDevice : World :=
  { World.start { Db.empty with devices := [.sample 1] } (.sample 1) with
    redis := some ⟨fun _ => none, fun _ => none⟩ }

theorem oneDevice_settled : oneDevice.Settled := ⟨rfl, rfl⟩

/-- The sample parameters' check. -/
def plainCheck (key hash : String) : Except PyErr Bool := .ok (key == hash)

/-- A client that has tried a wrong key before. -/
theorem handshake_lawful_second :
    ∃ s, Run.exec (gateStep Env.sample plainCheck) ⟨oneDevice, []⟩ [.knock 1 "wrong" "10.0.0.5"] =
        some s ∧
      Lawful (handshake Env.sample plainCheck 1 "key" "10.0.0.5" s.world).1
        (Admissible plainCheck s 1 "key" "10.0.0.5") := by
  have hrun : Run.exec (gateStep Env.sample plainCheck) ⟨oneDevice, []⟩
      [.knock 1 "wrong" "10.0.0.5"] =
    some ((⟨oneDevice, []⟩ : Gate).knock Env.sample plainCheck 1 "wrong" "10.0.0.5") := rfl
  refine ⟨_, hrun, (handshake_lawful_iff oneDevice_settled rfl (fun _ => rfl) hrun ?_ 1 "key"
    "10.0.0.5").mpr fun _ r _ _ _ => ⟨_, rfl, fun _ => by decide⟩⟩
  exact List.nodup_singleton _

/-- The agent on the server's own host. -/
theorem handshake_raises_loopback :
    ¬ Lawful (handshake Env.sample plainCheck 1 "key" "127.0.0.1" oneDevice).1
      (Admissible plainCheck ⟨oneDevice, []⟩ 1 "key" "127.0.0.1") := by
  have hraised : (handshake Env.sample plainCheck 1 "key" "127.0.0.1" oneDevice).1 =
    .error .unboundLocalError := rfl
  rw [hraised]
  exact not_lawful_raised

end Server

end Dtsys
