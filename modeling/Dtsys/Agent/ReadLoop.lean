/-
  `Client.readLoop` (`transport/client.go`) — the agent's end of one connection.

  The loop gives every read a deadline of two seconds, so that it can look at `ctx` when the server
  is silent, takes a timeout for "no message yet" and reads again.  What it relies on is
  gorilla/websocket, which is a PARAMETER here (`Gorilla`): of it we assume what is documented.  In
  gorilla an error of a read is FINAL, and whoever goes on reading is stopped by a panic.

  A frame is given by the GAP between it and the frame before it.  Handling a message takes no time.

  * `run` — the loop on a list of frames, `ctx` being cancelled at some time or never.
  * `Delivers` — the specification: it ends because the connection is closed or `ctx` cancelled, and
    every message that arrived before was delivered to its handler.
  * `InTime` — no gap outlives the deadline in force, every message decodes.
-/
import Dtsys.Agent.Messages

namespace Dtsys

namespace Agent

/-- A second, in nanoseconds (`time.Second`). -/
def second : Nat := 1000000000

/-- What arrives on the connection: a message, a control frame, the close frame of the peer. -/
inductive Frame
  | text (m : ServerMessage)
  | ping
  | pong
  | close (code : Nat)

/-- The errors of a read; the network does not fail. -/
inductive ReadError
  | timeout
  | closed (code : Nat)
  deriving DecidableEq, Repr

/-- How a call of `ReadJSON` ends. -/
inductive Read
  | message (m : ServerMessage)
  | error (e : ReadError)
  | panic

/-- gorilla/websocket, as far as the loop uses it.  `incoming` are the frames to arrive, with their
    times; `failed` is the error of the connection with the number of reads that returned it.
    `readJSON h c now` starts at time `now`, and returns with the time it ends; `h` is the deadline
    the pong handler sets. -/
structure Gorilla where
  Conn : Type
  incoming : Conn → List (Nat × Frame)
  deadline : Conn → Nat
  failed : Conn → Option (ReadError × Nat)
  dial : List (Nat × Frame) → Conn
  setReadDeadline : Conn → Nat → Conn
  readJSON : (Nat → Nat) → Conn → Nat → Read × Nat × Conn
  dial_incoming : ∀ frames, incoming (dial frames) = frames
  dial_failed : ∀ frames, failed (dial frames) = none
  set_incoming : ∀ c t, incoming (setReadDeadline c t) = incoming c
  set_deadline : ∀ c t, deadline (setReadDeadline c t) = t
  set_failed : ∀ c t, failed (setReadDeadline c t) = failed c
  /-- a message that arrives before the deadline is returned -/
  read_text : ∀ h c now t m rest, failed c = none → incoming c = (t, .text m) :: rest →
    now ≤ t → t < deadline c →
      ∃ c', readJSON h c now = (.message m, t, c') ∧ incoming c' = rest ∧ failed c' = none
  /-- so is the close frame of the peer, as an error -/
  read_close : ∀ h c now t code rest, failed c = none → incoming c = (t, .close code) :: rest →
    now ≤ t → t < deadline c → ∃ c', readJSON h c now = (.error (.closed code), t, c')
  /-- a ping is answered, and the read goes on -/
  read_ping : ∀ h c now t rest, failed c = none → incoming c = (t, .ping) :: rest →
    now ≤ t → t < deadline c →
      ∃ c', readJSON h c now = readJSON h c' t ∧ incoming c' = rest ∧ failed c' = none ∧
        deadline c' = deadline c
  /-- a pong calls its handler, and the read goes on -/
  read_pong : ∀ h c now t rest, failed c = none → incoming c = (t, .pong) :: rest →
    now ≤ t → t < deadline c →
      ∃ c', readJSON h c now = readJSON h c' t ∧ incoming c' = rest ∧ failed c' = none ∧
        deadline c' = h t
  /-- a read whose deadline passes returns a timeout -/
  read_timeout : ∀ h c now, failed c = none → now ≤ deadline c →
    (∀ t f rest, incoming c = (t, f) :: rest → deadline c ≤ t) →
      ∃ c', readJSON h c now = (.error .timeout, deadline c, c') ∧ failed c' = some (.timeout, 1)
  /-- after an error every read returns the same error at once -/
  read_failed : ∀ h c now e n, failed c = some (e, n) → n + 1 < 1000 →
    ∃ c', readJSON h c now = (.error e, now, c') ∧ failed c' = some (e, n + 1)
  /-- the 1000th such read panics -/
  read_panics : ∀ h c now e n, failed c = some (e, n) → 1000 ≤ n + 1 →
    (readJSON h c now).1 = .panic

/-! ## The loop -/

/-- How the loop ends. -/
inductive Ended
  | cancelled
  | closed (code : Nat)
  | panicked
  | outOfFuel
  deriving DecidableEq, Repr

/-- The calls the loop made, and how it ended. -/
structure Outcome where
  calls : List Call
  ended : Ended

/-- `pongWait`. -/
def pongWait : Nat := 60 * second

/-- `readPoll`. -/
def readPoll : Nat := 2 * second

/-- `ctx.Err() != nil` at time `t`. -/
def cancelled (cancel : Option Nat) (t : Nat) : Bool :=
  match cancel with
  | none => false
  | some u => decide (u ≤ t)

variable (G : Gorilla) (cancel : Option Nat)

/-- `for { … }`. -/
def readLoop : Nat → G.Conn → Nat → Outcome
  | 0, _, _ => ⟨[], .outOfFuel⟩
  | fuel + 1, c, now =>
    if cancelled cancel now then ⟨[], .cancelled⟩
    else match G.readJSON (fun t => t + pongWait) c now with
      | (.panic, _, _) => ⟨[], .panicked⟩
      | (.error (.closed code), _, _) => ⟨[], .closed code⟩
      -- "no message yet": reset and retry
      | (.error .timeout, t, c') => readLoop fuel (G.setReadDeadline c' (t + readPoll)) t
      | (.message m, t, c') =>
        let o := readLoop fuel (G.setReadDeadline c' (t + readPoll)) t
        ⟨(call m).toList ++ o.calls, o.ended⟩

/-- The times at which frames with these gaps arrive. -/
def arrivals : Nat → List (Nat × Frame) → List (Nat × Frame)
  | _, [] => []
  | now, (gap, f) :: rest => (now + gap, f) :: arrivals (now + gap) rest

/-- `readLoop(ctx)` on a new connection. -/
def run (fuel : Nat) (frames : List (Nat × Frame)) : Outcome :=
  readLoop G cancel fuel (G.setReadDeadline (G.dial (arrivals 0 frames)) readPoll) 0

/-! ## What it should do, and when it does -/

/-- The messages that arrive before the connection is closed and `ctx` cancelled. -/
def due (cancel : Option Nat) : Nat → List (Nat × Frame) → List ServerMessage
  | _, [] => []
  | now, (gap, f) :: rest =>
    if cancelled cancel (now + gap) then []
    else match f with
      | .text m => m :: due cancel (now + gap) rest
      | .ping => due cancel (now + gap) rest
      | .pong => due cancel (now + gap) rest
      | .close _ => []

/-- The loop stopped because it was told to, and every message of the list was delivered. -/
def Delivers (o : Outcome) (ms : List ServerMessage) : Prop :=
  (o.ended = .cancelled ∨ ∃ code, o.ended = .closed code) ∧
    ms.map call <+: o.calls.map some

/-- With `left` to go until the deadline: every frame arrives before the deadline in force, every
    message decodes, and so on until the connection is closed or `ctx` cancelled; when nothing
    arrives in time, `ctx` is cancelled by then. -/
def InTime (cancel : Option Nat) : Nat → Nat → List (Nat × Frame) → Prop
  | now, left, [] => cancelled cancel (now + left) = true
  | now, left, (gap, f) :: rest =>
    if gap < left then
      match f with
      | .text m => cancelled cancel (now + gap) = true ∨
          ((call m).isSome = true ∧ InTime cancel (now + gap) readPoll rest)
      | .ping => InTime cancel (now + gap) (left - gap) rest
      | .pong => InTime cancel (now + gap) pongWait rest
      | .close _ => True
    else cancelled cancel (now + left) = true

/-! ## One pass of the loop -/

variable {G cancel}

theorem readLoop_cancelled {now : Nat} (h : cancelled cancel now = true) (fuel : Nat) (c : G.Conn) :
    readLoop G cancel (fuel + 1) c now = ⟨[], .cancelled⟩ := by
  rw [readLoop, if_pos h]

/-- A message: its handler is started, and the deadline moves on. -/
theorem readLoop_message {now t : Nat} {c c' : G.Conn} {m : ServerMessage}
    (h : cancelled cancel now = false)
    (hr : G.readJSON (fun t => t + pongWait) c now = (.message m, t, c')) (fuel : Nat) :
    readLoop G cancel (fuel + 1) c now =
      ⟨(call m).toList ++ (readLoop G cancel fuel (G.setReadDeadline c' (t + readPoll)) t).calls,
        (readLoop G cancel fuel (G.setReadDeadline c' (t + readPoll)) t).ended⟩ := by
  rw [readLoop, h, hr]
  rfl

/-- A close frame ends the loop. -/
theorem readLoop_closed {now t code : Nat} {c c' : G.Conn} (h : cancelled cancel now = false)
    (hr : G.readJSON (fun t => t + pongWait) c now = (.error (.closed code), t, c')) (fuel : Nat) :
    readLoop G cancel (fuel + 1) c now = ⟨[], .closed code⟩ := by
  rw [readLoop, h, hr]
  rfl

/-- A timeout is no end: the loop looks at the context, and reads on. -/
theorem readLoop_timeout {now t : Nat} {c c' : G.Conn} (h : cancelled cancel now = false)
    (hr : G.readJSON (fun t => t + pongWait) c now = (.error .timeout, t, c')) (fuel : Nat) :
    readLoop G cancel (fuel + 1) c now =
      readLoop G cancel fuel (G.setReadDeadline c' (t + readPoll)) t := by
  rw [readLoop, h, hr]
  rfl

/-- A second read after an error panics. -/
theorem readLoop_panic {now : Nat} {c : G.Conn} (h : cancelled cancel now = false)
    (hr : (G.readJSON (fun t => t + pongWait) c now).1 = .panic) (fuel : Nat) :
    readLoop G cancel (fuel + 1) c now = ⟨[], .panicked⟩ := by
  have hread : G.readJSON (fun t => t + pongWait) c now =
      (.panic, (G.readJSON (fun t => t + pongWait) c now).2) := Prod.ext hr rfl
  rw [readLoop, h, hread]
  rfl

/-- On a connection whose read has timed out the loop spins, in no time, until the panic. -/
theorem readLoop_spins {now : Nat} (h : cancelled cancel now = false) :
    ∀ {fuel n : Nat} {c : G.Conn}, G.failed c = some (.timeout, n) → n < 1000 → 1000 ≤ n + fuel →
      readLoop G cancel fuel c now = ⟨[], .panicked⟩ := by
  intro fuel
  induction fuel with
  | zero => intro n c _ hn hfuel; omega
  | succ fuel ih =>
    intro n c hfail hn hfuel
    by_cases hlast : n + 1 < 1000
    -- a new deadline does not clear the error, and the read returns at once
    · obtain ⟨c', hr, hfail'⟩ := G.read_failed (fun t => t + pongWait) c now _ n hfail hlast
      rw [readLoop_timeout h hr]
      exact ih ((G.set_failed _ _).trans hfail') hlast (by omega)
    · exact readLoop_panic h (G.read_panics _ c now _ n hfail (by omega)) fuel

/-! ## The whole run -/

theorem cancelled_mono {t u : Nat} (htu : t ≤ u) (h : cancelled cancel t = true) :
    cancelled cancel u = true := by
  cases cancel with
  | none => exact h
  | some v =>
    have hv : v ≤ t := of_decide_eq_true h
    exact decide_eq_true (by omega)

theorem delivers_cancelled : Delivers ⟨[], .cancelled⟩ [] := ⟨Or.inl rfl, List.prefix_rfl⟩

/-- A loop that has panicked has delivered nothing that counts. -/
theorem not_delivers_panicked {calls : List Call} {ms : List ServerMessage} :
    ¬ Delivers ⟨calls, .panicked⟩ ms := by
  rintro ⟨h | ⟨code, h⟩, -⟩
  · cases h
  · cases h

/-- After a timeout the loop ends well only if `ctx` has been cancelled. -/
theorem timeout_delivers_iff {t fuel : Nat} {c : G.Conn} {ms : List ServerMessage}
    (hfail : G.failed c = some (.timeout, 1)) (hfuel : 999 ≤ fuel)
    (hms : cancelled cancel t = true → ms = []) :
    Delivers (readLoop G cancel fuel c t) ms ↔ cancelled cancel t = true := by
  cases hc : cancelled cancel t with
  | true =>
    obtain ⟨k, rfl⟩ : ∃ k, fuel = k + 1 := ⟨fuel - 1, by omega⟩
    rw [readLoop_cancelled hc, hms hc]
    exact ⟨fun _ => rfl, fun _ => delivers_cancelled⟩
  | false =>
    rw [readLoop_spins hc hfail (by omega) (by omega)]
    exact ⟨fun h => absurd h not_delivers_panicked, fun h => nomatch h⟩

/-- The first message counts as delivered exactly when it decodes. -/
theorem delivers_cons_iff {m : ServerMessage} {ms : List ServerMessage} {o : Outcome} :
    Delivers ⟨(call m).toList ++ o.calls, o.ended⟩ (m :: ms) ↔
      (call m).isSome = true ∧ Delivers o ms := by
  unfold Delivers
  cases hm : call m with
  | none =>
    refine ⟨fun h => ?_, fun h => nomatch h.1⟩
    have hpre : none :: ms.map call <+: o.calls.map some := by simpa [hm] using h.2
    cases hcalls : o.calls with
    | nil => rw [hcalls] at hpre; cases List.prefix_nil.mp hpre
    | cons x xs =>
      rw [hcalls] at hpre
      cases (List.cons_prefix_cons.mp hpre).1
  | some x => simp [hm, List.cons_prefix_cons]

/-- A frame that comes after the cancellation is not due. -/
theorem due_cons_cancelled {now gap : Nat} (h : cancelled cancel (now + gap) = true) (f : Frame)
    (rest : List (Nat × Frame)) : due cancel now ((gap, f) :: rest) = [] := by
  unfold due
  exact if_pos h

/-- Nothing is due once `ctx` is cancelled. -/
theorem due_of_cancelled {now : Nat} (h : cancelled cancel now = true) (frames : List (Nat × Frame)) :
    due cancel now frames = [] := by
  cases frames with
  | nil => rfl
  | cons frame rest => exact due_cons_cancelled (cancelled_mono (Nat.le_add_right ..) h) _ rest

/-- Once `ctx` is cancelled nothing can come too late. -/
theorem inTime_of_cancelled : ∀ (frames : List (Nat × Frame)) {now : Nat} (left : Nat),
    cancelled cancel now = true → InTime cancel now left frames := by
  intro frames
  induction frames with
  | nil => exact fun left h => cancelled_mono (Nat.le_add_right ..) h
  | cons frame rest ih =>
    obtain ⟨gap, f⟩ := frame
    intro now left h
    have hgap : cancelled cancel (now + gap) = true := cancelled_mono (Nat.le_add_right ..) h
    unfold InTime
    split
    · cases f with
      | text m => exact Or.inl hgap
      | ping => exact ih _ hgap
      | pong => exact ih _ hgap
      | close code => trivial
    · exact cancelled_mono (Nat.le_add_right ..) h

/-- A control frame is not a message. -/
theorem due_control (now gap : Nat) {f : Frame} (hf : f = .ping ∨ f = .pong)
    (rest : List (Nat × Frame)) :
    due cancel now ((gap, f) :: rest) = due cancel (now + gap) rest := by
  cases hc : cancelled cancel (now + gap) with
  | true => rw [due_cons_cancelled hc, due_of_cancelled hc]
  | false =>
    rcases hf with rfl | rfl
    · rw [due, hc]; rfl
    · rw [due, hc]; rfl

/-- The run, from inside a read that has got as far as `c` at time `now`.  Control frames are
    consumed by the read, so the induction is on the frames and not on the passes of the loop. -/
theorem readLoop_delivers_iff_inTime : ∀ (frames : List (Nat × Frame)) {now left start fuel : Nat}
    {c c₀ : G.Conn},
    G.readJSON (fun t => t + pongWait) c₀ start = G.readJSON (fun t => t + pongWait) c now →
    cancelled cancel start = false → G.failed c = none → G.incoming c = arrivals now frames →
    G.deadline c = now + left → frames.length + 999 ≤ fuel →
    (Delivers (readLoop G cancel (fuel + 1) c₀ start) (due cancel now frames) ↔
      InTime cancel now left frames) := by
  intro frames
  induction frames with
  | nil =>
    intro now left start fuel c c₀ hread hstart hfail hin hdl hfuel
    obtain ⟨c', hr, hfail'⟩ := G.read_timeout (fun t => t + pongWait) c now hfail (by omega)
      (fun t f rest h => by rw [hin] at h; cases h)
    rw [readLoop_timeout hstart (hread.trans hr), hdl]
    exact timeout_delivers_iff ((G.set_failed _ _).trans hfail') (by simpa using hfuel) fun _ => rfl
  | cons frame rest ih =>
    obtain ⟨gap, f⟩ := frame
    intro now left start fuel c c₀ hread hstart hfail hin hdl hfuel
    rw [List.length_cons] at hfuel
    have hin' : G.incoming c = (now + gap, f) :: arrivals (now + gap) rest := hin
    unfold InTime
    by_cases hgap : gap < left
    · have hlt : now + gap < G.deadline c := by omega
      rw [if_pos hgap]
      cases f with
      | text m =>
        obtain ⟨c', hr, hrest, hfail'⟩ :=
          G.read_text (fun t => t + pongWait) c now _ m _ hfail hin' (by omega) hlt
        -- a message costs one pass of the loop, the spin after a timeout at most 999
        obtain ⟨k, rfl⟩ : ∃ k, fuel = k + 1 := ⟨fuel - 1, by omega⟩
        rw [readLoop_message hstart (hread.trans hr)]
        cases hc : cancelled cancel (now + gap) with
        | true =>
          -- read, then `ctx` is looked at: what came after the cancellation is not due
          rw [due_cons_cancelled hc, readLoop_cancelled hc]
          exact ⟨fun _ => Or.inl rfl, fun _ => ⟨Or.inl rfl, List.nil_prefix⟩⟩
        | false =>
          have hnext := ih (c := G.setReadDeadline c' (now + gap + readPoll)) rfl hc
            ((G.set_failed _ _).trans hfail') ((G.set_incoming _ _).trans hrest)
            (G.set_deadline _ _) (by omega : rest.length + 999 ≤ k)
          rw [due, hc]
          simp only [Bool.false_eq_true, if_false, false_or]
          rw [delivers_cons_iff, hnext]
      | ping =>
        obtain ⟨c', hr, hrest, hfail', hdl'⟩ :=
          G.read_ping (fun t => t + pongWait) c now _ _ hfail hin' (by omega) hlt
        rw [due_control now gap (Or.inl rfl)]
        exact ih (hread.trans hr) hstart hfail' hrest (by omega) (by omega)
      | pong =>
        obtain ⟨c', hr, hrest, hfail', hdl'⟩ :=
          G.read_pong (fun t => t + pongWait) c now _ _ hfail hin' (by omega) hlt
        rw [due_control now gap (Or.inr rfl)]
        exact ih (hread.trans hr) hstart hfail' hrest hdl' (by omega)
      | close code =>
        obtain ⟨c', hr⟩ :=
          G.read_close (fun t => t + pongWait) c now _ code _ hfail hin' (by omega) hlt
        have hdue : due cancel now ((gap, .close code) :: rest) = [] := by
          rw [due]
          exact ite_self _
        rw [readLoop_closed hstart (hread.trans hr), hdue]
        exact ⟨fun _ => trivial, fun _ => ⟨Or.inr ⟨code, rfl⟩, List.nil_prefix⟩⟩
    · rw [if_neg hgap]
      obtain ⟨c', hr, hfail'⟩ := G.read_timeout (fun t => t + pongWait) c now hfail (by omega)
        (fun t f rest h => by rw [hin'] at h; cases h; omega)
      rw [readLoop_timeout hstart (hread.trans hr), hdl]
      refine timeout_delivers_iff ((G.set_failed _ _).trans hfail') (by omega) fun hc => ?_
      exact due_cons_cancelled (cancelled_mono (by omega) hc) f rest

/-- **The read loop does its duty** exactly on the runs in which no frame is later than the deadline
    in force and every message decodes, until the connection is closed or `ctx` cancelled.

    A deadline that passes is final for a Gorilla connection, and the thousandth read after it panics.  Both
    directions are by induction on the frames: inside the condition each read finds its frame in time, and the first
    frame outside of it is one the loop never hands over. -/
theorem run_delivers_iff_inTime (G : Gorilla) (cancel : Option Nat) (frames : List (Nat × Frame))
    {fuel : Nat} (hfuel : frames.length + 1000 ≤ fuel) :
    Delivers (run G cancel fuel frames) (due cancel 0 frames) ↔
      InTime cancel 0 readPoll frames := by
  obtain ⟨k, rfl⟩ : ∃ k, fuel = k + 1 := ⟨fuel - 1, by omega⟩
  rw [run]
  cases hc : cancelled cancel 0 with
  | true =>
    rw [readLoop_cancelled hc, due_of_cancelled hc]
    exact ⟨fun _ => inTime_of_cancelled frames readPoll hc, fun _ => delivers_cancelled⟩
  | false =>
    refine readLoop_delivers_iff_inTime frames rfl hc ((G.set_failed _ _).trans (G.dial_failed _))
      ((G.set_incoming _ _).trans (G.dial_incoming _)) ?_ (by omega)
    rw [G.set_deadline, Nat.zero_add]

/-! ## A connection in memory -/

/-- The state of a connection. -/
structure MemConn where
  incoming : List (Nat × Frame)
  deadline : Nat
  failed : Option (ReadError × Nat)

namespace MemConn

/-- The read on a connection without error. -/
def advance (h : Nat → Nat) : Nat → Nat → List (Nat × Frame) → Read × Nat × MemConn
  | deadline, _, [] => (.error .timeout, deadline, ⟨[], deadline, some (.timeout, 1)⟩)
  | deadline, now, (t, f) :: rest =>
    if t < deadline then
      match f with
      | .text m => (.message m, max now t, ⟨rest, deadline, none⟩)
      | .ping => advance h deadline (max now t) rest
      | .pong => advance h (h (max now t)) (max now t) rest
      | .close code => (.error (.closed code), max now t, ⟨rest, deadline, some (.closed code, 1)⟩)
    else (.error .timeout, deadline, ⟨(t, f) :: rest, deadline, some (.timeout, 1)⟩)

/-- `ReadJSON`. -/
def readJSON (h : Nat → Nat) (c : MemConn) (now : Nat) : Read × Nat × MemConn :=
  match c.failed with
  | none => advance h c.deadline now c.incoming
  | some (e, n) =>
    if n + 1 < 1000 then (.error e, now, { c with failed := some (e, n + 1) })
    else (.panic, now, { c with failed := some (e, n + 1) })

/-- A connection that has not failed reads its frames. -/
theorem readJSON_open {c : MemConn} (hf : c.failed = none) (h : Nat → Nat) (now : Nat) :
    c.readJSON h now = advance h c.deadline now c.incoming := by
  rw [readJSON, hf]

theorem advance_late {h : Nat → Nat} {deadline now : Nat} {frames : List (Nat × Frame)}
    (hlate : ∀ t f rest, frames = (t, f) :: rest → deadline ≤ t) :
    advance h deadline now frames =
      (.error .timeout, deadline, ⟨frames, deadline, some (.timeout, 1)⟩) := by
  cases frames with
  | nil => rfl
  | cons frame rest =>
    obtain ⟨t, f⟩ := frame
    unfold advance
    exact if_neg (Nat.not_lt.mpr (hlate t f rest rfl))

end MemConn

/-- gorilla/websocket on a connection in memory. -/
def gorilla : Gorilla where
  Conn := MemConn
  incoming := MemConn.incoming
  deadline := MemConn.deadline
  failed := MemConn.failed
  dial := fun frames => ⟨frames, 0, none⟩
  setReadDeadline := fun c t => { c with deadline := t }
  readJSON := fun h c now => c.readJSON h now
  dial_incoming := fun _ => rfl
  dial_failed := fun _ => rfl
  set_incoming := fun _ _ => rfl
  set_deadline := fun _ _ => rfl
  set_failed := fun _ _ => rfl
  read_text := by
    intro h c now t m rest hf hin hnow ht
    refine ⟨⟨rest, c.deadline, none⟩, ?_, rfl, rfl⟩
    rw [MemConn.readJSON_open hf, hin, MemConn.advance, if_pos ht, Nat.max_eq_right hnow]
  read_close := by
    intro h c now t code rest hf hin hnow ht
    refine ⟨⟨rest, c.deadline, some (.closed code, 1)⟩, ?_⟩
    rw [MemConn.readJSON_open hf, hin, MemConn.advance, if_pos ht, Nat.max_eq_right hnow]
  read_ping := by
    intro h c now t rest hf hin hnow ht
    refine ⟨⟨rest, c.deadline, none⟩, ?_, rfl, rfl, rfl⟩
    rw [MemConn.readJSON_open hf, hin, MemConn.advance, if_pos ht, Nat.max_eq_right hnow]
    rfl
  read_pong := by
    intro h c now t rest hf hin hnow ht
    refine ⟨⟨rest, h t, none⟩, ?_, rfl, rfl, rfl⟩
    rw [MemConn.readJSON_open hf, hin, MemConn.advance, if_pos ht, Nat.max_eq_right hnow]
    rfl
  read_timeout := by
    intro h c now hf _ hlate
    exact ⟨_, (MemConn.readJSON_open hf h now).trans (MemConn.advance_late hlate), rfl⟩
  read_failed := by
    intro h c now e n hf hn
    refine ⟨{ c with failed := some (e, n + 1) }, ?_, rfl⟩
    rw [MemConn.readJSON, hf]
    exact if_pos hn
  read_panics := by
    intro h c now e n hf hn
    rw [MemConn.readJSON, hf]
    simp only [if_neg (Nat.not_lt.mpr hn)]

/-- A command every second, and a close frame: all of it is in time. -/
theorem run_delivers_busy_connection :
    Delivers (run gorilla none 1003 [(second, .text (.command 20 "reboot" [])),
      (second, .text .ack), (second, .close 1000)]) [.command 20 "reboot" [], .ack] :=
  (run_delivers_iff_inTime gorilla none [(second, .text (.command 20 "reboot" [])),
    (second, .text .ack), (second, .close 1000)] (by decide)).mpr
      (by simp [InTime, second, readPoll, call, decodeFields])

/-- A server that is silent until its first ping, after thirty seconds. -/
def silentStart : List (Nat × Frame) := [(30 * second, .text .ping), (second, .close 1000)]

/-- The agent panics, and the ping is not delivered. -/
theorem run_panics_before_first_ping :
    run gorilla none 1002 silentStart = ⟨[], .panicked⟩ ∧
      ¬ Delivers (run gorilla none 1002 silentStart) (due none 0 silentStart) := by
  have hrun : run gorilla none 1002 silentStart = ⟨[], .panicked⟩ := by
    have hr : gorilla.readJSON (fun t => t + pongWait) ⟨arrivals 0 silentStart, readPoll, none⟩ 0 =
      (.error .timeout, readPoll, ⟨arrivals 0 silentStart, readPoll, some (.timeout, 1)⟩) := rfl
    have hstep : run gorilla none (1001 + 1) silentStart = _ := readLoop_timeout rfl hr 1001
    rw [hstep]
    exact readLoop_spins rfl rfl (by omega) (by omega)
  refine ⟨hrun, ?_⟩
  rw [hrun]
  exact not_delivers_panicked

end Agent

end Dtsys
