/-
  The agent UPDATES ITSELF (`updater.CheckAndUpdate`, `updateLoop`, `runUpdateCommand`, `restartAgent`).

  1. **The machine** — the executable on disk, the processes that were started from it, and their tasks:
     number 0 is `updateLoop`, every other number an update command of the server (each runs in a
     goroutine of its own, so any of them may overlap).  A label is one stretch of a task, of the Windows
     script, or of whoever starts and ends processes.  `CheckAndUpdate` compares what is advertised with
     the version of the RUNNING process, and the rename replaces the executable on DISK; on Windows the
     script does that, when the process has ended.  A restart may fail: then the process goes on.

  2. **Specification** — the versions that have been on disk, latest first: each is `Newer` than all
     before (`List.Pairwise Newer`).

  3. **Crux** — an installed version is newer than the one of the process that decided for it.  That is
     what is on disk only if nobody has installed since that process was started (`Current`).
     `updateLoop` sees to it (it returns after an update): `loop_is_current`.  Update commands do not:
     `command_downgrades`.
-/
import Dtsys.Agent.Versions
import Dtsys.Lib.Run

namespace Dtsys

namespace Agent

namespace Updates

/-- Where a task that updates the agent stands. -/
inductive UpdateTask
  | idle
  /-- in `CheckAndUpdate`, waiting for the version response -/
  | asking
  /-- in `CheckAndUpdate`, on its way to the rename -/
  | downloading (v : GoString)
  /-- `CheckAndUpdate` has returned true, `restartAgent` is next -/
  | updated
  /-- `restartAgent` has returned, or is about to call `os.Exit` -/
  | returned
  deriving DecidableEq, Repr

namespace UpdateTask

/-- In `CheckAndUpdate`. -/
def checking : UpdateTask → Bool
  | .asking | .downloading _ => true
  | _ => false

/-- After an update. -/
def ended : UpdateTask → Bool
  | .updated | .returned => true
  | _ => false

end UpdateTask

/-- The `.new` file of Windows: its version, and the version of the process that has staged it. -/
structure Staged where
  version : GoString
  base : Option GoString
  deriving DecidableEq, Repr

/-- One installation of the agent. -/
structure Machine where
  /-- the version of the executable -/
  exe : GoString
  staged : Option Staged
  /-- `AgentVersion` of the processes that run -/
  version : Nat → Option GoString
  task : Nat → Nat → UpdateTask
  /-- how many update scripts run -/
  scripts : Nat

/-- Nothing runs, and nothing has been downloaded. -/
def init (exe : GoString) : Machine := ⟨exe, none, fun _ => none, fun _ _ => .idle, 0⟩

/-- The steps of the processes of the agent and of their update loops. -/
inductive Label
  | start (p : Nat)
  | exit (p : Nat)
  | check (p t : Nat)
  | answer (p t : Nat) (payload : VersionResponse)
  | checkFails (p t : Nat)
  | install (p t : Nat) (v : GoString)
  | stage (p t : Nat) (v : GoString)
  /-- the old `.new` file is gone, and the new one is there or not -/
  | stageFails (p t : Nat) (v : GoString) (renamed : Bool)
  | restart (p t q : Nat)
  | launch (p t : Nat)
  | restartFails (p t : Nat)
  | move (v : GoString)
  | scriptEnds (q : Nat)
  deriving DecidableEq, Repr

/-- The version that a step puts on disk as the executable. -/
def Label.installs : Label → Option GoString
  | .install _ _ v | .move v => some v
  | _ => none

variable (os : Platform)

/-- When a step can be taken. -/
def Enabled (s : Machine) : Label → Prop
  | .start p => s.version p = none
  | .exit p => s.version p ≠ none
  | .check p t => s.version p ≠ none ∧ s.task p t = .idle
  | .answer p t _ => s.task p t = .asking
  | .checkFails p t => (s.task p t).checking = true
  | .install p t v => os ≠ .windows ∧ s.task p t = .downloading v
  | .stage p t v | .stageFails p t v _ => os = .windows ∧ s.task p t = .downloading v
  | .restart p t q => os ≠ .windows ∧ s.task p t = .updated ∧ s.version q = none
  | .launch p t => os = .windows ∧ s.task p t = .updated
  | .restartFails p t => s.task p t = .updated
  | .move v => 0 < s.scripts ∧ s.staged.map Staged.version = some v
  | .scriptEnds q => 0 < s.scripts ∧ s.version q = none

instance (s : Machine) : ∀ l, Decidable (Enabled os s l)
  | .restart .. => inferInstanceAs (Decidable (_ ∧ _ ∧ _))
  | .check .. | .install .. | .stage .. | .stageFails .. | .launch .. | .move .. | .scriptEnds .. =>
    inferInstanceAs (Decidable (_ ∧ _))
  | .start .. | .answer .. | .checkFails .. | .restartFails .. => inferInstanceAs (Decidable (_ = _))
  | .exit .. => inferInstanceAs (Decidable (_ ≠ _))

/-- Task `t` of process `p` goes on. -/
def goto (s : Machine) (p t : Nat) (x : UpdateTask) : Machine :=
  { s with task := Function.update s.task p (Function.update (s.task p) t x) }

/-- Process `p` starts, from the executable on disk, or ends. -/
def setProcess (s : Machine) (p : Nat) (v : Option GoString) : Machine :=
  { s with
    version := Function.update s.version p v
    task := Function.update s.task p fun _ => .idle }

/-- What a task does once it has the response: the advertised version is compared with that of its
    own process. -/
def afterAnswer (s : Machine) (p : Nat) (payload : VersionResponse) : UpdateTask :=
  match s.version p with
  | some current =>
    if payload.wanted current = some true then .downloading payload.version else .idle
  | none => .idle

/-- What a step does. -/
def effect (s : Machine) : Label → Machine
  | .start p => setProcess s p (some s.exe)
  | .exit p => setProcess s p none
  | .check p t => goto s p t .asking
  | .answer p t payload => goto s p t (afterAnswer s p payload)
  | .checkFails p t => goto s p t .idle
  | .install p t v => goto { s with exe := v } p t .updated
  | .stage p t v => goto { s with staged := some ⟨v, s.version p⟩ } p t .updated
  | .stageFails p t v renamed =>
    goto { s with staged := if renamed then some ⟨v, s.version p⟩ else none } p t .idle
  | .restart p t q => setProcess (goto s p t .returned) q (some s.exe)
  | .launch p t => goto { s with scripts := s.scripts + 1 } p t .returned
  | .restartFails p t => goto s p t .returned
  | .move v => { s with exe := v, staged := none }
  | .scriptEnds q => setProcess { s with scripts := s.scripts - 1 } q (some s.exe)

/-- One step, where it can be done. -/
def step : Machine → Label → Option Machine := Run.guardedStep (Enabled os) effect

/-! ## What has been installed -/

/-- The versions that have been on disk, latest first. -/
def record (history : List GoString) (l : Label) : List GoString :=
  match l.installs with
  | some v => v :: history
  | none => history

/-- An update replaces the executable from which the process that decided for it was started. -/
def Current (s : Machine) : Label → Prop
  | .install p _ _ => s.version p = some s.exe
  | .move _ => s.staged.bind Staged.base = some s.exe
  | _ => True

instance (s : Machine) : ∀ l, Decidable (Current s l)
  | .install .. | .move .. => inferInstanceAs (Decidable (_ = _))
  | .start .. | .exit .. | .check .. | .answer .. | .checkFails .. | .stage .. | .stageFails .. | .restart ..
  | .launch .. | .restartFails .. | .scriptEnds .. => inferInstanceAs (Decidable True)

/-- What is about to be installed is newer than the process that has decided for it. -/
structure Inv (s : Machine) (history : List GoString) : Prop where
  last : history.head? = some s.exe
  forward : history.Pairwise Newer
  downloading : ∀ p t v, s.task p t = .downloading v → ∃ u, s.version p = some u ∧ Newer v u
  staged : ∀ x, s.staged = some x → ∃ u, x.base = some u ∧ Newer x.version u

theorem inv_init (v : GoString) : Inv (init v) [v] :=
  ⟨rfl, List.pairwise_singleton .., fun _ _ _ h => (nomatch h), fun _ h => nomatch h⟩

/-- What is newer than the latest is newer than all. -/
theorem forward_cons {v w : GoString} : ∀ {history : List GoString}, history.head? = some w →
    history.Pairwise Newer → Newer v w → (v :: history).Pairwise Newer := by
  intro history hlast hforward hnew
  cases history with
  | nil => cases hlast
  | cons w' history =>
    obtain rfl := Option.some.inj hlast
    refine List.pairwise_cons.mpr ⟨fun u hu => ?_, hforward⟩
    rcases List.mem_cons.mp hu with rfl | hu
    · exact hnew
    · exact newer_trans hnew ((List.pairwise_cons.mp hforward).1 u hu)

theorem task_goto (s : Machine) (p t q r : Nat) (x : UpdateTask) :
    (goto s p t x).task q r = if q = p ∧ r = t then x else s.task q r := by
  show Function.update s.task p _ q r = _
  by_cases hq : q = p
  · subst hq
    rw [Function.update_self, Function.update_apply]
    simp
  · rw [Function.update_of_ne hq, if_neg fun h => hq h.1]

/-- A process has been started, or has ended; it has no tasks. -/
theorem task_setProcess (s : Machine) (p q r : Nat) (v : Option GoString) :
    (setProcess s p v).task q r = if q = p then .idle else s.task q r := by
  show Function.update s.task p _ q r = _
  by_cases hq : q = p
  · subst hq
    rw [Function.update_self, if_pos rfl]
  · rw [Function.update_of_ne hq, if_neg hq]

section

variable {s : Machine} {history : List GoString}

/-- A task goes on, to a download only of what is newer than its process. -/
theorem Inv.goto (h : Inv s history) (p t : Nat) {x : UpdateTask}
    (hx : ∀ v, x = .downloading v → ∃ u, s.version p = some u ∧ Newer v u) :
    Inv (goto s p t x) history := by
  refine ⟨h.last, h.forward, fun q r v hv => ?_, h.staged⟩
  rw [task_goto] at hv
  split at hv
  · obtain ⟨rfl, -⟩ := ‹_ ∧ _›
    exact hx v hv
  · exact h.downloading q r v hv

/-- A process that ends or begins replaces no executable. -/
theorem Inv.setProcess (h : Inv s history) (p : Nat) (v : Option GoString) :
    Inv (setProcess s p v) history := by
  refine ⟨h.last, h.forward, fun q r w hw => ?_, h.staged⟩
  rw [task_setProcess] at hw
  split at hw
  · cases hw
  · obtain ⟨u, hu, hnew⟩ := h.downloading q r w hw
    exact ⟨u, (Function.update_of_ne ‹_› ..).trans hu, hnew⟩

/-- A new executable. -/
theorem Inv.install (h : Inv s history) {v : GoString} {o : Option Staged} (hnew : Newer v s.exe)
    (ho : ∀ x, o = some x → s.staged = some x) :
    Inv { s with exe := v, staged := o } (v :: history) :=
  ⟨rfl, forward_cons h.last h.forward hnew, h.downloading, fun x hx => h.staged x (ho x hx)⟩

/-- What is staged is newer than the process that stages it. -/
theorem Inv.stage (h : Inv s history) {o : Option Staged} (n : Nat)
    (ho : ∀ x, o = some x → ∃ u, x.base = some u ∧ Newer x.version u) :
    Inv { s with staged := o, scripts := n } history := ⟨h.last, h.forward, h.downloading, ho⟩

/-- A response is wanted only if its version is newer. -/
theorem newer_of_afterAnswer {p : Nat} {payload : VersionResponse} {v : GoString}
    (h : afterAnswer s p payload = .downloading v) : ∃ u, s.version p = some u ∧ Newer v u := by
  rw [afterAnswer] at h
  cases hu : s.version p with
  | none =>
    rw [hu] at h
    cases h
  | some u =>
    rw [hu] at h
    refine ⟨u, rfl, ?_⟩
    by_cases hwanted : payload.wanted u = some true
    · simp only [if_pos hwanted, UpdateTask.downloading.injEq] at h
      exact h ▸ VersionResponse.newer_of_wanted hwanted
    · simp [hwanted] at h

variable {os}

/-- **One step** keeps the invariant, if what it installs is for the executable on disk. -/
theorem step_inv (s : Machine) (history : List GoString) (l : Label) (s' : Machine) (hcurrent : Current s l)
    (hs : step os s l = some s') (h : Inv s history) : Inv s' (record history l) := by
  obtain ⟨hen, rfl⟩ := Run.guardedStep_eq_some.mp hs
  cases l with
  | start p => exact h.setProcess p _
  | exit p => exact h.setProcess p _
  | check p t => exact h.goto p t fun _ hx => nomatch hx
  | answer p t payload => exact h.goto p t fun v => newer_of_afterAnswer
  | checkFails p t => exact h.goto p t fun _ hx => nomatch hx
  -- The version downloaded is newer than the process, and the process is from the executable on disk.
  | install p t v =>
    obtain ⟨u, hu, hnew⟩ := h.downloading p t v hen.2
    obtain rfl : u = s.exe := Option.some.inj (hu.symm.trans hcurrent)
    exact (h.install hnew fun _ => id).goto p t fun _ hx => nomatch hx
  | stage p t v =>
    have hstaged := h.stage (o := some ⟨v, s.version p⟩) s.scripts fun x hx => by
      obtain rfl := Option.some.inj hx
      exact h.downloading p t v hen.2
    exact hstaged.goto p t (x := .updated) fun _ hx => nomatch hx
  | stageFails p t v renamed =>
    refine Inv.goto (x := .idle) (h.stage s.scripts fun x hx => ?_) p t fun _ hx => nomatch hx
    cases renamed with
    | false => cases hx
    | true =>
      obtain rfl := Option.some.inj hx
      exact h.downloading p t v hen.2
  | restart p t q => exact (h.goto p t (x := .returned) fun _ hx => nomatch hx).setProcess q _
  | launch p t =>
    exact (h.stage (s.scripts + 1) h.staged).goto p t (x := .returned) fun _ hx => nomatch hx
  | restartFails p t => exact h.goto p t fun _ hx => nomatch hx
  | move v =>
    obtain ⟨x, hx, rfl⟩ := Option.map_eq_some_iff.mp hen.2
    obtain ⟨u, hu, hnew⟩ := h.staged x hx
    have hbase : x.base = some s.exe := by
      have hbind : s.staged.bind Staged.base = some s.exe := hcurrent
      rwa [hx] at hbind
    obtain rfl : u = s.exe := Option.some.inj (hu.symm.trans hbase)
    exact h.install hnew fun _ hx => nomatch hx
  | scriptEnds q => exact (h.stage (s.scripts - 1) h.staged).setProcess q (some s.exe)

end

/-- **Updates only move forward**: `isNewerVersion` is a strict weak order on what `parseSemver` accepts,
    two versions being incomparable if they are read as the same numbers; and in every run whose updates
    replace the executable their process was started from, the versions on disk strictly increase.

    The version that is compared is that of the running process.  Inside the condition that is the version on disk,
    so what replaces it is newer. -/
theorem updates_move_forward (os : Platform) (v : GoString) (ls : List Label) (s : Machine)
    (hcurrent : Run.Guarded (step os) Current (init v) ls) (hrun : Run.exec (step os) (init v) ls = some s) :
    (IsStrictWeakOrder Accepted (fun v w => Newer v.1 w.1) ∧
      ∀ v w : Accepted, (¬ Newer v.1 w.1 ∧ ¬ Newer w.1 v.1) ↔ parseSemver v.1 = parseSemver w.1) ∧
    (ls.foldl record [v]).Pairwise Newer := by
  have hinv : Inv s (ls.foldl record [v]) := Run.exec_observed step_inv hcurrent hrun (inv_init v)
  exact ⟨⟨newer_strictWeakOrder, newer_incomparable_iff⟩, hinv.forward⟩

/-- The loop of the first process installs 2.0; that of the second has nothing to do. -/
def looped : List Label :=
  [.start 0, .check 0 0, .answer 0 0 ⟨.ofString "v2.0", .ofString "/agent"⟩, .install 0 0 (.ofString "v2.0"),
    .restart 0 0 1, .exit 0, .check 1 0, .answer 1 0 ⟨.ofString "2.0.0", .ofString "/agent"⟩]

/-- An older version is offered, and refused; and a newer one, and taken. -/
theorem updates_move_forward_looped :
    (∃ s, Run.exec (step .linux) (init (.ofString "1.10.3")) looped = some s ∧ s.task 1 0 = .idle) ∧
    [GoString.ofString "v2.0", .ofString "1.10.3"].Pairwise Newer :=
  ⟨⟨_, rfl, by decide⟩, (updates_move_forward .linux (.ofString "1.10.3") looped _ (by decide) rfl).2⟩

/-- The process fails to restart after its first update command, and serves another one. -/
def commanded : List Label :=
  [.start 0, .check 0 1, .answer 0 1 ⟨.ofString "2.0.0", .ofString "/agent"⟩, .install 0 1 (.ofString "2.0.0"),
    .restartFails 0 1, .check 0 2, .answer 0 2 ⟨.ofString "1.5.0", .ofString "/agent"⟩,
    .install 0 2 (.ofString "1.5.0")]

/-- The second command goes from 2.0.0 back to 1.5.0, which is newer than the process. -/
theorem command_downgrades :
    ∃ s, Run.exec (step .linux) (init (.ofString "1.0.0")) commanded = some s ∧
      s.exe = .ofString "1.5.0" ∧
      commanded.foldl record [.ofString "1.0.0"] = [.ofString "1.5.0", .ofString "2.0.0", .ofString "1.0.0"] ∧
      Newer (.ofString "2.0.0") s.exe ∧
      ¬ (commanded.foldl record [.ofString "1.0.0"]).Pairwise Newer :=
  ⟨_, rfl, rfl, rfl, by decide, by decide⟩

/-! ## The loop alone -/

/-- A process runs, and its `updateLoop` may still look for updates. -/
def Live (s : Machine) (p : Nat) : Prop := s.version p ≠ none ∧ (s.task p 0).ended = false

/-- No update commands, and one process at a time: a process is started, and the script replaces the
    executable, when no other process looks for updates. -/
def OneLoop (s : Machine) : Label → Prop
  | .check _ t => t = 0
  | .start _ | .restart .. | .move _ | .scriptEnds _ => ∀ p, ¬ Live s p
  | _ => True

/-- The process that looks for updates was started from what is on disk. -/
structure LoopInv (os : Platform) (s : Machine) : Prop where
  loop : ∀ p t, s.task p t ≠ .idle → t = 0 ∧ s.version p ≠ none
  one : ∀ p q, Live s p → Live s q → p = q
  current : ∀ p, Live s p → s.version p = some s.exe
  base : ∀ x, s.staged = some x → os = .windows ∧ x.base = some s.exe

theorem loopInv_init (v : GoString) : LoopInv os (init v) :=
  ⟨fun _ _ h => (h rfl).elim, fun _ _ h => (h.1 rfl).elim, fun _ h => (h.1 rfl).elim, fun _ h => nomatch h⟩

section

variable {os} {s : Machine}

/-- Nobody looks for updates any more. -/
theorem LoopInv.quiet {s' : Machine} (hloop : ∀ p t, s'.task p t ≠ .idle → t = 0 ∧ s'.version p ≠ none)
    (hquiet : ∀ p, ¬ Live s' p) (hbase : ∀ x, s'.staged = some x → os = .windows ∧ x.base = some s'.exe) :
    LoopInv os s' :=
  ⟨hloop, fun p _ hp => (hquiet p hp).elim, fun p hp => (hquiet p hp).elim, hbase⟩

/-- Only the loop of the process goes on. -/
theorem loop_goto (hloop : ∀ p t, s.task p t ≠ .idle → t = 0 ∧ s.version p ≠ none) {p : Nat}
    (hp : s.version p ≠ none) (x : UpdateTask) (q r : Nat) (hq : (goto s p 0 x).task q r ≠ .idle) :
    r = 0 ∧ s.version q ≠ none := by
  rw [task_goto] at hq
  split at hq
  · obtain ⟨rfl, rfl⟩ := ‹_ ∧ _›
    exact ⟨rfl, hp⟩
  · exact hloop q r hq

/-- A task that goes on is as alive as it was. -/
theorem live_goto {p q : Nat} {x : UpdateTask} (hx : x.ended = false → (s.task p 0).ended = false)
    (hq : Live (goto s p 0 x) q) : Live s q := by
  refine ⟨hq.1, ?_⟩
  have hended := hq.2
  rw [task_goto] at hended
  split at hended
  · obtain ⟨rfl, -⟩ := ‹_ ∧ _›
    exact hx hended
  · exact hended

/-- The loop of `p` goes on, or comes to its end. -/
theorem LoopInv.goto (h : LoopInv os s) {p : Nat} (hp : s.version p ≠ none) {x : UpdateTask}
    (hx : x.ended = false → (s.task p 0).ended = false) : LoopInv os (goto s p 0 x) :=
  ⟨loop_goto h.loop hp x, fun _ _ hq hr => h.one _ _ (live_goto hx hq) (live_goto hx hr),
    fun _ hq => h.current _ (live_goto hx hq), h.base⟩

/-- An update is the end of the only loop. -/
theorem LoopInv.not_live (h : LoopInv os s) {p : Nat} (hp : Live s p) {x : UpdateTask} (hx : x.ended = true)
    (q : Nat) : ¬ Live (Updates.goto s p 0 x) q := by
  intro hq
  obtain rfl := h.one q p (live_goto (fun hf => (Bool.eq_false_iff.mp hf hx).elim) hq) hp
  have hended := hq.2
  rw [task_goto, if_pos ⟨rfl, rfl⟩, hx] at hended
  cases hended

/-- A process begins or ends, without tasks. -/
theorem loop_setProcess (hloop : ∀ p t, s.task p t ≠ .idle → t = 0 ∧ s.version p ≠ none) (p : Nat)
    (v : Option GoString) (q r : Nat) (hq : (setProcess s p v).task q r ≠ .idle) :
    r = 0 ∧ (setProcess s p v).version q ≠ none := by
  rw [task_setProcess] at hq
  split at hq
  · exact (hq rfl).elim
  · obtain ⟨rfl, hv⟩ := hloop q r hq
    exact ⟨rfl, fun hn => hv ((Function.update_of_ne ‹_› ..).symm.trans hn)⟩

/-- Whoever starts or ends, another process looks for updates only if it did. -/
theorem live_setProcess {p q : Nat} {v : Option GoString} (hqp : q ≠ p) (hq : Live (setProcess s p v) q) :
    Live s q := by
  obtain ⟨hv, hended⟩ := hq
  rw [task_setProcess, if_neg hqp] at hended
  exact ⟨fun hn => hv ((Function.update_of_ne hqp ..).trans hn), hended⟩

/-- A process that ends takes its loop with it. -/
theorem LoopInv.exit (h : LoopInv os s) (p : Nat) : LoopInv os (setProcess s p none) := by
  have hother : ∀ q, Live (setProcess s p none) q → q ≠ p := by
    rintro q ⟨hv, -⟩ rfl
    exact hv (Function.update_self ..)
  have hlive : ∀ q, Live (setProcess s p none) q → Live s q := fun q hq => live_setProcess (hother q hq) hq
  refine ⟨loop_setProcess h.loop p none, fun q r hq hr => h.one q r (hlive q hq) (hlive r hr), fun q hq => ?_,
    h.base⟩
  exact (Function.update_of_ne (hother q hq) ..).trans (h.current q (hlive q hq))

/-- A process is started when nobody else looks for updates. -/
theorem LoopInv.start (h : LoopInv os s) (hquiet : ∀ p, ¬ Live s p) (p : Nat) :
    LoopInv os (setProcess s p (some s.exe)) := by
  have honly : ∀ q, Live (setProcess s p (some s.exe)) q → q = p := by
    intro q hq
    by_contra hqp
    exact hquiet q (live_setProcess hqp hq)
  refine ⟨loop_setProcess h.loop p _, fun q r hq hr => (honly q hq).trans (honly r hr).symm, fun q hq => ?_, h.base⟩
  rw [honly q hq]
  exact Function.update_self ..

/-- A task in the midst of a check is the loop of a live process. -/
theorem LoopInv.live (h : LoopInv os s) {p t : Nat} (hchecking : (s.task p t).checking = true) :
    t = 0 ∧ Live s p := by
  have hidle : s.task p t ≠ .idle := fun hi => by
    rw [hi] at hchecking
    cases hchecking
  obtain ⟨rfl, hp⟩ := h.loop p t hidle
  refine ⟨rfl, hp, ?_⟩
  cases htask : s.task p 0 with
  | idle | asking | downloading => rfl
  | updated | returned =>
    rw [htask] at hchecking
    cases hchecking

/-- **One step** of the loop. -/
theorem step_loopInv (s : Machine) (l : Label) (s' : Machine) (hone : OneLoop s l)
    (hs : step os s l = some s') (h : LoopInv os s) : LoopInv os s' := by
  obtain ⟨hen, rfl⟩ := Run.guardedStep_eq_some.mp hs
  cases l with
  | start p => exact h.start hone p
  | exit p => exact h.exit p
  | check p t =>
    obtain rfl : t = 0 := hone
    exact h.goto hen.1 fun _ => by rw [hen.2]; rfl
  | answer p t payload =>
    obtain ⟨rfl, hlive⟩ := h.live (p := p) (t := t) (by rw [hen]; rfl)
    exact h.goto hlive.1 fun _ => hlive.2
  | checkFails p t =>
    obtain ⟨rfl, hlive⟩ := h.live hen
    exact h.goto hlive.1 fun _ => hlive.2
  -- Files are staged on Windows only, and there no executable is replaced in place.
  | install p t v =>
    obtain ⟨rfl, hlive⟩ := h.live (p := p) (t := t) (by rw [hen.2]; rfl)
    refine .quiet (loop_goto h.loop hlive.1 _) (h.not_live hlive rfl) fun x hx => ?_
    exact (hen.1 (h.base x hx).1).elim
  | stage p t v =>
    obtain ⟨rfl, hlive⟩ := h.live (p := p) (t := t) (by rw [hen.2]; rfl)
    refine .quiet (loop_goto h.loop hlive.1 _) (h.not_live hlive rfl) fun x hx => ?_
    obtain rfl := Option.some.inj hx
    exact ⟨hen.1, h.current p hlive⟩
  | stageFails p t v renamed =>
    obtain ⟨rfl, hlive⟩ := h.live (p := p) (t := t) (by rw [hen.2]; rfl)
    have hgoto := h.goto (x := .idle) hlive.1 fun _ => hlive.2
    refine ⟨hgoto.loop, hgoto.one, hgoto.current, fun x hx => ?_⟩
    cases renamed with
    | false => cases hx
    | true =>
      obtain rfl := Option.some.inj hx
      exact ⟨hen.1, h.current p hlive⟩
  -- The new process runs the executable on disk, and the loop of the old one has returned.
  | restart p t q =>
    obtain ⟨rfl, hp⟩ := h.loop p t (by rw [hen.2.1]; exact nofun)
    have hover := h.goto (x := .returned) hp nofun
    exact hover.start (fun r hr => hone r (live_goto (x := .returned) nofun hr)) q
  | launch p t =>
    obtain ⟨rfl, hp⟩ := h.loop p t (by rw [hen.2]; exact nofun)
    have hover := h.goto (x := .returned) hp nofun
    exact ⟨hover.loop, hover.one, hover.current, hover.base⟩
  | restartFails p t =>
    obtain ⟨rfl, hp⟩ := h.loop p t (by rw [hen]; exact nofun)
    exact h.goto hp nofun
  | move v => exact .quiet h.loop hone fun _ hx => nomatch hx
  | scriptEnds q =>
    have hscripts : LoopInv os { s with scripts := s.scripts - 1 } := ⟨h.loop, h.one, h.current, h.base⟩
    exact hscripts.start hone q

/-- **`updateLoop` alone** replaces only the executable its process was started from. -/
theorem loop_is_current (v : GoString) {ls : List Label} (hrun : Run.exec (step os) (init v) ls = some s)
    (hone : Run.Guarded (step os) OneLoop (init v) ls) : Run.Guarded (step os) Current (init v) ls := by
  refine Run.Guarded.strengthen_run step_loopInv (fun s l s' _ hs h => ?_) hrun hone (loopInv_init os v)
  obtain ⟨hen, -⟩ := Run.guardedStep_eq_some.mp hs
  cases l with
  | install p t v =>
    obtain ⟨rfl, hlive⟩ := h.live (p := p) (t := t) (by rw [hen.2]; rfl)
    exact h.current p hlive
  | move v =>
    obtain ⟨x, hx, rfl⟩ := Option.map_eq_some_iff.mp hen.2
    show s.staged.bind Staged.base = some s.exe
    rw [hx]
    exact (h.base x hx).2
  | _ => trivial

end

end Updates

end Agent

end Dtsys
