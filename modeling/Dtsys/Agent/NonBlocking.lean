/-
  DOES A SEND EVER WAIT?

  `Send` waits for room in `sendCh` only for a critical message; any other one is dropped when there is no
  room.  But it logs a warning when it drops one, and `forwardingHandler` makes a critical message of the
  warning: connected, a `Send` that drops its message calls `Send` again, which puts one MORE message into
  the busy buffer, and waits if that is full.

  `Unhindered` says what a `Send` should be: its goroutine finishes it alone, and leaves in the buffer no
  more than its own message.  Other goroutines may move between any two of its steps, so the condition is
  given for every `Stage` of the call and every state (`send_unhindered_iff`).
-/
import Dtsys.Agent.Shutdown

namespace Dtsys

namespace Agent

namespace Transport

/-- A step of a call that goroutine `g` is in. -/
def Own (g : Goroutine) (l : Label) : Prop := ∃ f rest, l = .go g f rest

/-- How far the `Send` of a message that is not critical has come. -/
inductive Stage
  /-- called -/
  | entering
  /-- at the `select` with a `default` -/
  | offering
  /-- about to log that the message is dropped -/
  | warning
  /-- logged, about to return -/
  | dropping
  deriving DecidableEq, Repr

/-- The calls the goroutine is in. -/
def Stage.frames (m : Message) : Stage → List SendFrame
  | .entering => [.enter m]
  | .offering => [.offer m]
  | .warning => [.log, .dropped m]
  | .dropping => [.dropped m]

/-- `g` finishes the call by steps of its own, and either has queued its message, or dropped it and left
    no more messages in the buffer than there were. -/
def Unhindered (s : Client) (g : Goroutine) (m : Message) : Prop :=
  ∃ ls t, (∀ l ∈ ls, Own g l) ∧ Run.exec step s ls = some t ∧ t.stack g = [] ∧
    (t.sendCh = s.sendCh ++ [m] ∨ t.sendCh.length ≤ s.sendCh.length)

/-- The call is going to drop its message. -/
def Drops (s : Client) (m : Message) : Stage → Prop
  | .entering => (capacity * 3 / 4 ≤ s.sendCh.length ∧ m.type.shouldDropWhenBusy = true) ∨
      capacity ≤ s.sendCh.length
  | .offering => capacity ≤ s.sendCh.length
  | .warning => True
  | .dropping => False

/-! ## Steps of one goroutine -/

variable {s t : Client} {g : Goroutine} {m : Message} {f : SendFrame} {rest : List SendFrame}
  {ls : List Label}

/-- The next step of a call. -/
theorem go_step (hst : s.stack g = f :: rest) (hroom : f.isPush = true → s.sendCh.length < capacity) :
    step s (.go g f rest) = some (advance s g rest f) :=
  Run.guardedStep_eq_some.mpr ⟨⟨nofun, hst, hroom⟩, rfl⟩

/-- Alone, a goroutine goes on with its innermost call. -/
theorem own_run (hst : s.stack g = f :: rest) (hown : ∀ l ∈ ls, Own g l)
    (hrun : Run.exec step s ls = some t) (hend : t.stack g = []) :
    (f.isPush = true → s.sendCh.length < capacity) ∧
      ∃ ls', (∀ l ∈ ls', Own g l) ∧ Run.exec step (advance s g rest f) ls' = some t := by
  cases ls with
  | nil =>
    obtain rfl := Option.some.inj hrun
    rw [hst] at hend
    cases hend
  | cons l ls =>
    obtain ⟨s', hs, hrest⟩ := Run.exec_cons_eq.mp hrun
    obtain ⟨f', rest', rfl⟩ := hown l List.mem_cons_self
    obtain ⟨⟨-, hst', hroom⟩, rfl⟩ := Run.guardedStep_eq_some.mp hs
    obtain ⟨rfl, rfl⟩ := List.cons.inj (hst.symm.trans hst')
    exact ⟨hroom, ls, fun l hl => hown l (List.mem_cons_of_mem _ hl), hrest⟩

/-- Once its calls are over, it has no step of this kind. -/
theorem own_done (hst : s.stack g = []) (hown : ∀ l ∈ ls, Own g l)
    (hrun : Run.exec step s ls = some t) : s = t := by
  cases ls with
  | nil => exact Option.some.inj hrun
  | cons l ls =>
    obtain ⟨s', hs, -⟩ := Run.exec_cons_eq.mp hrun
    obtain ⟨f, rest, rfl⟩ := hown l List.mem_cons_self
    obtain ⟨⟨-, hst', -⟩, -⟩ := Run.guardedStep_eq_some.mp hs
    rw [hst] at hst'
    cases hst'

/-- A step that leaves the buffer alone, and does not wait, changes nothing about the rest of the call. -/
theorem unhindered_step (hst : s.stack g = f :: rest) (hpush : f.isPush = false)
    (hsame : (advance s g rest f).sendCh = s.sendCh) :
    Unhindered s g m ↔ Unhindered (advance s g rest f) g m := by
  constructor
  · rintro ⟨ls, t, hown, hrun, hend, hbuffer⟩
    obtain ⟨-, ls', hown', hrun'⟩ := own_run hst hown hrun hend
    exact ⟨ls', t, hown', hrun', hend, hsame.symm ▸ hbuffer⟩
  · rintro ⟨ls, t, hown, hrun, hend, hbuffer⟩
    rw [hsame] at hbuffer
    have hgo := go_step hst fun hp => absurd (hpush.symm.trans hp) Bool.false_ne_true
    refine ⟨.go g f rest :: ls, t, fun l hl => ?_, Run.exec_cons_eq.mpr ⟨_, hgo, hrun⟩, hend, hbuffer⟩
    rcases List.mem_cons.mp hl with rfl | hl
    · exact ⟨f, rest, rfl⟩
    · exact hown l hl

/-- The last step of the call. -/
theorem unhindered_last (hst : s.stack g = [f]) (hpush : f.isPush = false)
    (hend : (advance s g [] f).stack g = [])
    (hbuffer : (advance s g [] f).sendCh = s.sendCh ++ [m] ∨
      (advance s g [] f).sendCh.length ≤ s.sendCh.length) : Unhindered s g m := by
  have hgo := go_step hst fun hp => absurd (hpush.symm.trans hp) Bool.false_ne_true
  refine ⟨[.go g f []], _, fun l hl => ?_, Run.exec_cons_eq.mpr ⟨_, hgo, rfl⟩, hend, hbuffer⟩
  obtain rfl := List.mem_singleton.mp hl
  exact ⟨f, [], rfl⟩

/-! ## The stages, from the last -/

/-- Behind the drop there is nothing to wait for. -/
theorem unhindered_dropping (hst : s.stack g = [.dropped m]) : Unhindered s g m :=
  unhindered_last hst rfl (setStack_self s g []) (.inr (Nat.le_refl _))

/-- With a connection, the warning is sent: it waits for room, and is in the buffer in the end. -/
theorem not_unhindered_warning (hm : m.type.isCritical = false)
    (hst : s.stack g = [.log, .dropped m]) (hconn : s.conn.isSome = true) : ¬ Unhindered s g m := by
  rintro ⟨ls, t, hown, hrun, hend, hbuffer⟩
  let e : Message := ⟨s.calls, .eventReport⟩
  let s₁ := callSend s g .eventReport [.dropped m]
  let s₂ := setStack s₁ g [.push e, .dropped m]
  let s₃ := enqueue s₂ g e [.dropped m]
  let s₄ : Client := { setStack s₃ g [] with returned := s₃.returned ++ [m] }
  have hst₁ : s₁.stack g = [.enter e, .dropped m] := setStack_self s g _
  have hst₂ : s₂.stack g = [.push e, .dropped m] := setStack_self s₁ g _
  have hst₃ : s₃.stack g = [.dropped m] := setStack_self s₂ g _
  have hst₄ : s₄.stack g = [] := setStack_self s₃ g []
  -- `Handle` calls `Send`, that takes the blocking branch, and both return
  obtain ⟨-, ls₁, hown₁, hrun₁⟩ := own_run hst hown hrun hend
  rw [show advance s g [.dropped m] .log = s₁ from if_pos hconn] at hrun₁
  obtain ⟨-, ls₂, hown₂, hrun₂⟩ := own_run hst₁ hown₁ hrun₁ hend
  rw [advance_critical s₁ g [.dropped m] (m := e) rfl] at hrun₂
  obtain ⟨-, ls₃, hown₃, hrun₃⟩ := own_run hst₂ hown₂ hrun₂ hend
  obtain ⟨-, ls₄, hown₄, hrun₄⟩ := own_run hst₃ hown₃ hrun₃ hend
  obtain rfl : s₄ = t := own_done hst₄ hown₄ hrun₄
  have hsent : (s.sendCh ++ [e] = s.sendCh ++ [m]) ∨ (s.sendCh ++ [e]).length ≤ s.sendCh.length :=
    hbuffer
  rcases hsent with hsent | hsent
  · have hem : e = m := List.singleton_inj.mp (List.append_cancel_left hsent)
    rw [← hem] at hm
    cases hm
  · rw [List.length_append] at hsent
    exact Nat.not_succ_le_self _ hsent

/-- At the warning, the message may still come back as an event, if there is a connection. -/
theorem unhindered_warning (hm : m.type.isCritical = false) (hst : s.stack g = [.log, .dropped m]) :
    Unhindered s g m ↔ s.conn = none := by
  cases hconn : s.conn with
  | some k =>
    refine ⟨fun h => absurd h (not_unhindered_warning hm hst (by rw [hconn]; rfl)), fun h => ?_⟩
    cases h
  | none =>
    have hprint : advance s g [.dropped m] .log = setStack s g [.dropped m] :=
      if_neg (by rw [hconn]; exact Bool.false_ne_true)
    refine ⟨fun _ => rfl, fun _ => (unhindered_step hst rfl (by rw [hprint]; rfl)).mpr ?_⟩
    rw [hprint]
    exact unhindered_dropping (setStack_self s g _)

/-- At the channel, there is room, or nobody that reads it. -/
theorem unhindered_offering (hm : m.type.isCritical = false) (hst : s.stack g = [.offer m]) :
    Unhindered s g m ↔ s.conn = none ∨ s.sendCh.length < capacity := by
  by_cases hroom : s.sendCh.length < capacity
  · have htake : advance s g [] (.offer m) = enqueue s g m [] := if_pos hroom
    refine ⟨fun _ => .inr hroom, fun _ => unhindered_last hst rfl ?_ (.inl ?_)⟩
    · rw [htake]
      exact setStack_self s g []
    · rw [htake]
      rfl
  · have hfull : advance s g [] (.offer m) = setStack s g [.log, .dropped m] := if_neg hroom
    rw [or_iff_left hroom, unhindered_step hst rfl (by rw [hfull]; rfl), hfull,
      unhindered_warning hm (setStack_self s g _)]
    exact Iff.rfl

/-- Before the channel: what happens there depends on whether the message is going to be dropped. -/
theorem unhindered_entering (hm : m.type.isCritical = false) (hst : s.stack g = [.enter m]) :
    Unhindered s g m ↔ s.conn = none ∨ ¬ Drops s m .entering := by
  by_cases hbusy : capacity * 3 / 4 ≤ s.sendCh.length ∧ m.type.shouldDropWhenBusy = true
  · have hskip : advance s g [] (.enter m) = setStack s g [.log, .dropped m] := if_pos hbusy
    rw [or_iff_left fun h => h (.inl hbusy), unhindered_step hst rfl (by rw [hskip]; rfl), hskip,
      unhindered_warning hm (setStack_self s g _)]
    exact Iff.rfl
  · have hoffer : advance s g [] (.enter m) = setStack s g [.offer m] := by
      show (if _ then _ else if m.type.isCritical = true then _ else _) = _
      rw [if_neg hbusy, if_neg (by rw [hm]; exact Bool.false_ne_true)]
    have hdrops : Drops s m .entering ↔ capacity ≤ s.sendCh.length := or_iff_right hbusy
    rw [hdrops, Nat.not_le, unhindered_step hst rfl (by rw [hoffer]; rfl), hoffer,
      unhindered_offering hm (setStack_self s g _)]
    exact Iff.rfl

/-- **When a `Send` is unhindered**: at every stage and in every state, if there is no connection or it
    does not drop its message.

    A `Send` that drops its message logs, the log hook calls `Send` again with a critical message, and that one
    waits for room.  The theorem goes through every stage of the outer call. -/
theorem send_unhindered_iff (hm : m.type.isCritical = false) {stage : Stage}
    (hst : s.stack g = stage.frames m) :
    Unhindered s g m ↔ s.conn = none ∨ ¬ Drops s m stage := by
  cases stage with
  | entering => exact unhindered_entering hm hst
  | offering => exact (unhindered_offering hm hst).trans (or_congr_right Nat.not_le.symm)
  | warning => exact (unhindered_warning hm hst).trans (or_iff_left fun h => h trivial).symm
  | dropping => exact iff_of_true (unhindered_dropping hst) (.inr id)

/-! ## A full buffer -/

/-- Connected, with room: the call of a sender. -/
theorem send_unhindered_iff_fresh :
    ∃ s, Run.exec step init [.check, .dial, .send 1 .telemetry] = some s ∧
      (Unhindered s (.sender 1) ⟨0, .telemetry⟩ ↔
        s.conn = none ∨ ¬ Drops s ⟨0, .telemetry⟩ .entering) :=
  ⟨_, rfl, send_unhindered_iff rfl rfl⟩

/-- The pump is stalled in a write and results have filled the buffer: a `Send` of telemetry does not
    return by itself. -/
theorem send_waits :
    ∃ ls s m, Run.exec step init ls = some s ∧ m.type.isCritical = false ∧
      s.stack (.sender 1) = [.enter m] ∧ ¬ Unhindered s (.sender 1) m := by
  obtain ⟨s, hs⟩ : ∃ s, Run.exec step init writing = some s := ⟨_, rfl⟩
  have hidle : ∀ n, s.stack (.sender n) = [] := by
    cases hs
    intro n
    cases n <;> rfl
  have hempty : s.sendCh = [] := by
    cases hs
    rfl
  have hconn : s.conn = some 0 := by
    cases hs
    rfl
  have hfill := exec_fill capacity s (hidle 0) (by rw [hempty]; exact Nat.le_refl _)
  have hsend : Run.exec step (filled s capacity) [.send 1 .telemetry] =
      some (callSend (filled s capacity) (.sender 1) .telemetry []) :=
    Run.exec_cons_eq.mpr ⟨_, Run.guardedStep_eq_some.mpr ⟨⟨fun _ => hidle 1, trivial⟩, rfl⟩, rfl⟩
  have hst : (callSend (filled s capacity) (.sender 1) .telemetry []).stack (.sender 1) =
      [.enter ⟨(filled s capacity).calls, .telemetry⟩] := setStack_self (filled s capacity) (.sender 1) _
  refine ⟨_, _, _, Run.exec_append hs (Run.exec_append hfill hsend), rfl, hst, fun h => ?_⟩
  rcases (unhindered_entering rfl hst).mp h with hnone | hroom
  · have hup : (callSend (filled s capacity) (.sender 1) .telemetry []).conn = some 0 := hconn
    rw [hup] at hnone
    cases hnone
  · have hlen : (s.sendCh ++ results s.calls capacity).length = capacity := by
      rw [hempty, List.nil_append, length_results]
    exact hroom (.inr (Nat.le_of_eq hlen.symm))

end Transport

end Agent

end Dtsys
