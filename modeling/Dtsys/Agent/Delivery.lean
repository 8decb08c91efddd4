/-
  ARE CRITICAL MESSAGES EVER LOST?

  `Send` blocks for a critical message instead of dropping it, so that when it returns the message
  is in `sendCh`.  From there it should only ever move on: into the hands of the pump, and from there
  onto the wire (`Held`).

  There are THREE steps that throw a message away, and none of them looks at its type: `drainSendCh`
  after a lost connection, a pump that has taken a message and finds no connection, and a write that
  fails.  As long as none of them meets a critical message, nothing critical is lost
  (`critical_not_lost`).  The crux is that the pump of an old connection is gone before a new one is
  started (`OnePump`), so that a reconnect takes no message out of anybody's hands.
-/
import Dtsys.Agent.Transport

namespace Dtsys

namespace Agent

/-- A message is skipped only if it is not critical. -/
def SendFrame.Spares : SendFrame → Prop
  | .offer m => m.type.isCritical = false
  | .dropped m => m.type.isCritical = false
  | _ => True

namespace Transport

/-- The message has been written, is being written, or is still queued. -/
def Held (s : Client) (m : Message) : Prop :=
  m ∈ s.written ∨ s.pump.current = some m ∨ m ∈ s.sendCh

/-- A critical message whose `Send` has returned is not lost. -/
def NoneLost (s : Client) : Prop :=
  ∀ m ∈ s.returned, m.type.isCritical = true → Held s m

/-- The step takes no critical message out of what is held. -/
def Retains (s : Client) (l : Label) : Prop :=
  ∀ s' m, step s l = some s' → m.type.isCritical = true → Held s m → Held s' m

/-- `drainSendCh` meets no critical message, a pump that has taken one finds the connection, and its
    write succeeds. -/
def Spared (s : Client) : Label → Prop
  | .discard m => m.type.isCritical = false
  | .takeConn m => m.type.isCritical = true → s.conn.isSome = true
  | .write _ m ok => m.type.isCritical = true → ok = true
  | _ => True

instance (s : Client) : ∀ l, Decidable (Spared s l)
  | .discard _ => inferInstanceAs (Decidable (_ = _))
  | .takeConn _ | .write .. => inferInstanceAs (Decidable (_ → _))
  | .check | .dial | .dialFails | .enter | .pong _ | .readFails .. | .shutdown _ | .clear
  | .closeStop .. | .closeConn _ | .await | .drained | .retry | .select | .stop _ | .tick _
  | .receive .. | .tickConn | .ping .. | .close | .send .. | .warn _ | .go .. | .cancel =>
    inferInstanceAs (Decidable True)

section

variable {s s' : Client} {m : Message}

/-! ## A step keeps what is held -/

/-- The step leaves the pump's message, and queues or writes no less than before. -/
theorem Held.mono (h : Held s m) (hpump : s'.pump.current = s.pump.current)
    (hwritten : s.written ⊆ s'.written) (hqueue : s.sendCh ⊆ s'.sendCh) : Held s' m := by
  rcases h with hw | hp | hq
  · exact Or.inl (hwritten hw)
  · exact Or.inr (Or.inl (hpump.trans hp))
  · exact Or.inr (Or.inr (hqueue hq))

/-- The pump has nothing in hand, before the step. -/
theorem Held.empty (h : Held s m) {p : PumpPhase} (hp : s.pump = p) (hnone : p.current = none) :
    m ∈ s.written ∨ m ∈ s.sendCh := by
  rcases h with hw | hc | hq
  · exact Or.inl hw
  · rw [hp, hnone] at hc
    cases hc
  · exact Or.inr hq

/-- Without the first one. -/
theorem mem_tail_of_ne {q : List Message} {x : Message} (hx : q.head? = some x) (hm : m ∈ q) :
    m = x ∨ m ∈ q.tail := by
  cases q with
  | nil => cases hm
  | cons y rest =>
    cases hx
    exact List.mem_cons.mp hm

/-- A goroutine that goes on takes nothing out of the channel. -/
theorem advance_sendCh {g : Goroutine} {rest : List SendFrame} {f : SendFrame} {t : Client}
    (h : Advanced s g rest f t) : s.sendCh ⊆ t.sendCh := by
  cases h with
  | pushed => exact fun _ hin => List.mem_append_left _ hin
  | taken => exact fun _ hin => List.mem_append_left _ hin
  | _ => exact fun _ hin => hin

/-- **One step** loses nothing critical, if it is spared. -/
theorem held_step {l : Label} (h : OnePump s) (hl : Spared s l) (hs : step s l = some s')
    (hm : m.type.isCritical = true) (hheld : Held s m) : Held s' m := by
  obtain ⟨⟨-, hen⟩, rfl⟩ := Run.guardedStep_eq_some.mp hs
  have hsame : ∀ {t : Client}, t.pump.current = s.pump.current → t.written = s.written →
      t.sendCh = s.sendCh → Held t m := fun hp hw hq =>
    hheld.mono hp (by rw [hw]; exact fun _ h => h) (by rw [hq]; exact fun _ h => h)
  cases l with
  -- there is no pump to take a message away from
  | dial =>
    have habs : s.pump = .absent := by
      by_contra hne
      have hc := h.connected hne
      rw [show s.run = .dialing from hen] at hc
      cases hc
    exact hsame (by rw [habs]; rfl) rfl rfl
  | discard x =>
    rcases hheld with hw | hp | hq
    · exact Or.inl hw
    · exact Or.inr (Or.inl hp)
    · rcases mem_tail_of_ne hen.2 hq with rfl | hq
      · rw [show m.type.isCritical = false from hl] at hm
        cases hm
      · exact Or.inr (Or.inr hq)
  | select => exact hsame (by rw [show s.pump = .looping from hen]; rfl) rfl rfl
  | stop k => exact hsame (by rw [hen.1]; rfl) rfl rfl
  | tick stop => exact hsame (by rw [show s.pump = .selecting stop from hen]; rfl) rfl rfl
  | receive stop x =>
    rcases hheld.empty hen.1 rfl with hw | hq
    · exact Or.inl hw
    · rcases mem_tail_of_ne hen.2 hq with rfl | hq
      · exact Or.inr (Or.inl rfl)
      · exact Or.inr (Or.inr hq)
  | tickConn =>
    refine hsame ?_ rfl rfl
    rw [show s.pump = .ticked from hen]
    dsimp only [effect]
    cases s.conn with
    | none => rfl
    | some k => rfl
  | takeConn x =>
    have hcur : s.pump.current = some x := by rw [show s.pump = .took x from hen]; rfl
    cases hconn : s.conn with
    | some k =>
      refine hsame ?_ rfl rfl
      rw [hcur]
      dsimp only [effect]
      rw [hconn]
      rfl
    | none =>
      rcases hheld with hw | hp | hq
      · exact Or.inl hw
      · rw [hcur] at hp
        cases hp
        have hsome := hl hm
        rw [hconn] at hsome
        cases hsome
      · exact Or.inr (Or.inr hq)
  | ping k ok =>
    cases ok with
    | true => exact hsame (by rw [hen.1]; rfl) rfl rfl
    | false => exact hsame (by rw [hen.1]; rfl) rfl rfl
  | write k x ok =>
    have hcur : s.pump.current = some x := by rw [hen.1]; rfl
    cases ok with
    | true =>
      rcases hheld with hw | hp | hq
      · exact Or.inl (List.mem_append_left _ hw)
      · rw [hcur] at hp
        cases hp
        exact Or.inl (List.mem_append_right _ List.mem_cons_self)
      · exact Or.inr (Or.inr hq)
    | false =>
      rcases hheld with hw | hp | hq
      · exact Or.inl hw
      · rw [hcur] at hp
        cases hp
        have hok := hl hm
        cases hok
      · exact Or.inr (Or.inr hq)
  | close => exact hsame (by rw [show s.pump = .exiting from hen]; rfl) rfl rfl
  | go g f rest =>
    have hf := (advanced s g rest f).untouched
    refine hheld.mono (congrArg PumpPhase.current hf.pump) ?_ (advance_sendCh (advanced s g rest f))
    show s.written ⊆ (advance s g rest f).written
    rw [hf.written]
    exact fun _ h => h
  | _ => exact hsame rfl rfl rfl

/-! ## What returns is queued -/

/-- A call that returns has queued its message, or skipped it. -/
theorem advance_returned {g : Goroutine} {rest : List SendFrame} {f : SendFrame} {t : Client}
    (h : Advanced s g rest f t) (hf : f.Spares) :
    ∀ m ∈ t.returned, m ∈ s.returned ∨ m ∈ t.sendCh ∨ m.type.isCritical = false := by
  have hqueue : ∀ x, ∀ m ∈ s.returned ++ [x],
      m ∈ s.returned ∨ m ∈ s.sendCh ++ [x] ∨ m.type.isCritical = false := by
    intro x m hm
    rcases List.mem_append.mp hm with hm | hm
    · exact Or.inl hm
    · exact Or.inr (Or.inl (List.mem_append_right _ hm))
  cases h with
  | pushed => exact hqueue _
  | taken => exact hqueue _
  | dropped =>
    intro m hm
    rcases List.mem_append.mp hm with hm | hm
    · exact Or.inl hm
    · rw [List.mem_singleton.mp hm]
      exact Or.inr (Or.inr hf)
  | _ => exact fun m hm => Or.inl hm

/-- What a step adds to what `Send` has returned is in the channel, or may be dropped. -/
theorem returned_step {l : Label} (hs : step s l = some s')
    (hspares : ∀ g, ∀ f ∈ s.stack g, f.Spares) :
    ∀ m ∈ s'.returned, m ∈ s.returned ∨ m ∈ s'.sendCh ∨ m.type.isCritical = false := by
  obtain ⟨⟨-, hen⟩, rfl⟩ := Run.guardedStep_eq_some.mp hs
  cases l with
  | go g f rest =>
    have hmem : f ∈ s.stack g := by
      rw [show s.stack g = f :: rest from hen.1]
      exact List.mem_cons_self
    exact advance_returned (advanced s g rest f) (hspares g f hmem)
  | ping k ok => cases ok <;> exact fun m h => Or.inl h
  | write k x ok => cases ok <;> exact fun m h => Or.inl h
  | _ => exact fun m h => Or.inl h

/-! ## Only what is not critical is skipped -/

/-- One goroutine goes on; nobody drops a critical message. -/
theorem spares_setStack (h : ∀ g, ∀ f ∈ s.stack g, f.Spares) (g : Goroutine) {fs : List SendFrame}
    (hfs : ∀ f ∈ fs, f.Spares) : ∀ g', ∀ f ∈ (setStack s g fs).stack g', f.Spares := by
  intro g' f hf
  replace hf : f ∈ Function.update s.stack g fs g' := hf
  by_cases hg : g' = g
  · subst hg
    rw [Function.update_self] at hf
    exact hfs f hf
  · rw [Function.update_of_ne hg] at hf
    exact h g' f hf

/-- `Send` takes the blocking branch for every critical message. -/
theorem advance_spares {g : Goroutine} {f : SendFrame} {rest : List SendFrame} {t : Client}
    (ha : Advanced s g rest f t) (h : ∀ g, ∀ f ∈ s.stack g, f.Spares) (hstack : s.stack g = f :: rest) :
    ∀ g', ∀ f' ∈ t.stack g', f'.Spares := by
  have hf : f.Spares := h g f (by rw [hstack]; exact List.mem_cons_self)
  have hrest : ∀ f' ∈ rest, f'.Spares := fun f' hf' => h g f' (by
    rw [hstack]; exact List.mem_cons_of_mem _ hf')
  have hcons : ∀ x : SendFrame, x.Spares → ∀ f' ∈ x :: rest, f'.Spares := by
    intro x hx f' hf'
    rcases List.mem_cons.mp hf' with rfl | hf'
    · exact hx
    · exact hrest f' hf'
  have hskip : ∀ x : Message, x.type.isCritical = false →
      ∀ f' ∈ SendFrame.log :: .dropped x :: rest, f'.Spares := by
    intro x hx f' hf'
    rcases List.mem_cons.mp hf' with rfl | hf'
    · trivial
    · exact hcons (.dropped x) hx f' hf'
  cases ha with
  | skips hdrop => exact spares_setStack h g (hskip _ (MsgType.not_critical_of_drop hdrop))
  | blocks => exact spares_setStack h g (hcons _ trivial)
  | offers hcrit => exact spares_setStack h g (hcons _ hcrit)
  | full => exact spares_setStack h g (hskip _ hf)
  | forwarded => exact spares_setStack h g (hcons _ trivial)
  | _ => exact spares_setStack h g hrest

/-- No goroutine comes to drop a critical message. -/
theorem spares_step {l : Label} (hs : step s l = some s') (h : ∀ g, ∀ f ∈ s.stack g, f.Spares) :
    ∀ g, ∀ f ∈ s'.stack g, f.Spares := by
  obtain ⟨⟨-, hen⟩, rfl⟩ := Run.guardedStep_eq_some.mp hs
  have hone : ∀ {x : SendFrame}, x.Spares → ∀ f ∈ [x], f.Spares := by
    intro x hx f hf
    rw [List.mem_singleton.mp hf]
    exact hx
  cases l with
  | dialFails => exact spares_setStack h .run (hone trivial)
  | pong k => exact spares_setStack h .run (hone trivial)
  | readFails k logged =>
    cases logged with
    | true => exact spares_setStack h .run (hone trivial)
    | false => exact spares_setStack h .run fun _ hf => nomatch hf
  | ping k ok =>
    cases ok with
    | true => exact h
    | false => exact spares_setStack h .pump (hone trivial)
  | write k x ok =>
    cases ok with
    | true => exact h
    | false => exact spares_setStack h .pump (hone trivial)
  | send n ty => exact spares_setStack h (.sender n) (hone trivial)
  | warn n => exact spares_setStack h (.sender n) (hone trivial)
  | go g f rest => exact advance_spares (advanced s g rest f) h hen.1
  | _ => exact h

/-! ## Whole runs -/

/-- The invariant of a run. -/
structure Sound (s : Client) : Prop where
  pump : OnePump s
  spares : ∀ g, ∀ f ∈ s.stack g, f.Spares
  held : NoneLost s

theorem sound_init : Sound init := ⟨onePump_init, fun _ _ h => (nomatch h), fun _ h => (nomatch h)⟩

/-- **A step** that spares the critical messages loses none. -/
theorem sound_step (s : Client) (l : Label) (s' : Client) (hl : Spared s l)
    (hs : step s l = some s') (h : Sound s) : Sound s' := by
  refine ⟨onePump_step l hs h.pump, spares_step hs h.spares, ?_⟩
  intro m hm hcrit
  rcases returned_step hs h.spares m hm with hold | hqueued | hskip
  · exact held_step h.pump hl hs hcrit (h.held m hold hcrit)
  · exact Or.inr (Or.inr hqueued)
  · rw [hskip] at hcrit
    cases hcrit

end

/-- **Critical messages are not lost** in a run whose drains, pumps and writes spare them: in the
    state it reaches every critical message whose `Send` has returned is written, being written or
    queued, and no step of it took one out of there.

    Three steps lose a message: the drain of a new connection, a pump that finds the connection gone, and a write
    that fails.  The condition names each of them before it happens, and the invariant is where a message can be in
    between. -/
theorem critical_not_lost {ls : List Label} {s : Client} (hspared : Run.Guarded step Spared init ls)
    (hrun : Run.exec step init ls = some s) : NoneLost s ∧ Run.Guarded step Retains init ls := by
  have hsound : Sound s := Run.exec_inv sound_step hspared hrun sound_init
  refine ⟨hsound.held, hspared.strengthen sound_step ?_ sound_init⟩
  intro s l hl h s' m hs hcrit hheld
  exact held_step h.pump hl hs hcrit hheld

/-- The first message of a run, the result of a command. -/
def firstResult : Message := ⟨0, .commandResult⟩

/-- Connected, with the result queued. -/
def resultQueued : List Label :=
  [.check, .dial, .enter, .select, .send 0 .commandResult, .go (.sender 0) (.enter firstResult) [],
    .go (.sender 0) (.push firstResult) []]

/-- The connection is lost after the pump has written the result; the client reconnects. -/
def writtenInTime : List Label :=
  resultQueued ++ [.receive (some 0) firstResult, .takeConn firstResult, .write 0 firstResult true,
    .readFails 0 false, .clear, .closeStop (some 0) (some 0), .closeConn (some 0), .select, .tick none,
    .tickConn, .close, .await, .drained, .retry, .check, .dial]

/-- A result is in the channel when the connection ends, and is written before the pump sees it. -/
theorem critical_not_lost_written_in_time :
    ∃ s, Run.exec step init writtenInTime = some s ∧ NoneLost s ∧ s.returned = [firstResult] := by
  have hspared : Run.Guarded step Spared init writtenInTime := by decide
  exact ⟨_, rfl, (critical_not_lost hspared rfl).1, rfl⟩

/-- The connection is lost while the result is queued. -/
def lostInQueue : List Label :=
  resultQueued ++ [.readFails 0 false, .clear, .closeStop (some 0) (some 0), .closeConn (some 0),
    .stop 0, .close, .await, .discard firstResult]

/-- `drainSendCh` has thrown the result away. -/
theorem critical_lost_in_queue :
    ∃ s, Run.exec step init lostInQueue = some s ∧ ¬ NoneLost s := by
  refine ⟨_, rfl, fun h => ?_⟩
  rcases h firstResult (by decide) rfl with hw | hp | hq
  · exact absurd hw (by decide)
  · exact absurd hp (by decide)
  · exact absurd hq (by decide)

end Transport

end Agent

end Dtsys
