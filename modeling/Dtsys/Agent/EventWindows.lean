/-
  THE WINDOWS OF THE EVENT POLLS (`eventLoop`, `collector/events_linux.go`).

  Each poll asks the journal for what was written since `lastChecked`, cut down to the second; then it runs
  `dmesg` and reads log files, and only when all that is done `lastChecked` becomes the time.  What is
  written while the other sources are read is in no window, unless it is of the second the poll ends in.
  And a poll that could not read the journal counts as successful if it could read anything else.

  * `pollOnce` — a turn of the loop, with the times at which it read the journal and ended.
  * `NoGap` — what was written before the journal was last read is in the window of some poll that read it
    later.
  * `noGap_iff` — exactly as long as each window begins where the journal was last read.
-/
import Dtsys.Agent.Events
import Dtsys.Lib.Run

namespace Dtsys

namespace Agent

namespace EventWindows

/-- A call of `CollectEvents`: for each source the events that were kept of it, if it could be read.  The
    times are those of the call, of the reading of the journal and of the return. -/
structure Poll where
  called : Int
  readAt : Int
  returned : Int
  journal : Option (List EventData)
  dmesg : Option (List EventData)
  dmesgFallback : Option (List EventData)
  logs : List (Option (List EventData))

/-- The sources in the order they are asked; `dmesg` is asked again only if it failed. -/
def Poll.sources (p : Poll) : List (Option (List EventData)) :=
  [p.journal, p.dmesg, if p.dmesg.isSome then none else p.dmesgFallback] ++ p.logs

/-- `CollectEvents`: an error if there are no events and nothing could be read. -/
def Poll.collectEvents (p : Poll) : Except Unit (List EventData) :=
  let events := p.sources.flatMap fun source => source.getD []
  let atLeastOneRead := p.sources.any Option.isSome
  if !events.isEmpty then .ok events else if atLeastOneRead then .ok [] else .error ()

/-- Where a window begins, and when the journal was read. -/
structure Window where
  since : Int
  readAt : Int
  deriving DecidableEq

/-- The loop: its own `lastChecked`, and the windows of the polls that read the journal, the last one
    first. -/
structure Loop where
  started : Int
  now : Int
  lastChecked : Int
  windows : List Window
  deriving DecidableEq

/-- `eventLoop` is called. -/
def Loop.start (now : Int) : Loop := ⟨now, now, now - 5 * 60 * timeSecond, []⟩

/-- `since.Format("2006-01-02 15:04:05")`: the fraction of the second is cut off. -/
def sinceArg (since : Int) : Int := since / timeSecond * timeSecond

/-- Time passes: since the last poll, until the journal is read, and until the call returns. -/
def InOrder (s : Loop) (p : Poll) : Prop :=
  s.now ≤ p.called ∧ p.called ≤ p.readAt ∧ p.readAt ≤ p.returned

instance (s : Loop) (p : Poll) : Decidable (InOrder s p) := inferInstanceAs (Decidable (_ ∧ _ ∧ _))

/-- A turn of the loop, when the ticker fires. -/
def pollOnce (s : Loop) (p : Poll) : Loop :=
  match p.collectEvents with
  | .error _ => { s with now := p.returned }
  | .ok _ =>
    { s with
      now := p.returned
      lastChecked := p.returned
      windows := if p.journal.isSome then ⟨sinceArg s.lastChecked, p.readAt⟩ :: s.windows else s.windows }

/-- One poll after the other. -/
def step : Loop → Poll → Option Loop := Run.guardedStep InOrder pollOnce

/-! ## What the windows are for -/

/-- When the journal was last read, or the loop began. -/
def Loop.lastRead (s : Loop) : Int := (s.windows.head?.map Window.readAt).getD s.started

/-- What was written at that time is in the window of a poll that read the journal later. -/
def Covered (s : Loop) (time : Int) : Prop := ∃ w ∈ s.windows, w.since ≤ time ∧ time ≤ w.readAt

/-- Everything written since the loop began, until the journal was last read, is in a window. -/
def NoGap (s : Loop) : Prop := ∀ time, s.started < time → time ≤ s.lastRead → Covered s time

/-- A poll that reads the journal has a window that begins where the journal was last read. -/
def Continues (s : Loop) (p : Poll) : Prop :=
  p.journal.isSome = true → sinceArg s.lastChecked ≤ s.lastRead + 1

instance (s : Loop) (p : Poll) : Decidable (Continues s p) := inferInstanceAs (Decidable (_ → _))

/-! ## One poll -/

/-- The call fails if no source could be read. -/
theorem collectEvents_of_read {p : Poll} (h : p.journal.isSome = true) :
    ∃ events, p.collectEvents = .ok events := by
  have hread : p.sources.any Option.isSome = true := by
    rw [Poll.sources, List.any_append, List.any_cons, h]
    rfl
  by_cases hempty : (!(p.sources.flatMap fun source => source.getD []).isEmpty) = true
  · exact ⟨_, if_pos hempty⟩
  · exact ⟨[], (if_neg hempty).trans (if_pos hread)⟩

/-- **The cases of a poll**: it fails, it reads the journal, or it reads something else. -/
theorem pollOnce_cases (s : Loop) (p : Poll) :
    (p.journal.isSome = false ∧ pollOnce s p = { s with now := p.returned }) ∨
    (p.journal.isSome = true ∧ pollOnce s p = ⟨s.started, p.returned, p.returned,
      ⟨sinceArg s.lastChecked, p.readAt⟩ :: s.windows⟩) ∨
    (p.journal.isSome = false ∧ pollOnce s p = ⟨s.started, p.returned, p.returned, s.windows⟩) := by
  cases hread : p.journal.isSome with
  | true =>
    obtain ⟨events, hok⟩ := collectEvents_of_read hread
    refine .inr (.inl ⟨rfl, ?_⟩)
    rw [pollOnce, hok, hread]
    rfl
  | false =>
    cases hcollect : p.collectEvents with
    | error e =>
      refine .inl ⟨rfl, ?_⟩
      rw [pollOnce, hcollect]
    | ok events =>
      refine .inr (.inr ⟨rfl, ?_⟩)
      rw [pollOnce, hcollect, hread]
      rfl

/-- The windows lie in the past, and begin and end in the order of the polls. -/
structure Inv (s : Loop) : Prop where
  checked : s.lastChecked ≤ s.now
  started : s.started ≤ s.lastRead
  read : s.lastRead ≤ s.now
  ends : ∀ w ∈ s.windows, w.readAt ≤ s.lastRead
  begins : ∀ w ∈ s.windows, w.since ≤ sinceArg s.lastChecked

/-- No poll, and no gap. -/
theorem inv_start (now : Int) : Inv (.start now) := by
  have hlast : (Loop.start now).lastRead = now := rfl
  refine ⟨?_, ?_, ?_, nofun, nofun⟩
  · show now - 5 * 60 * timeSecond ≤ now
    rw [timeSecond]
    omega
  · rw [hlast]
    exact Int.le_refl now
  · rw [hlast]
    exact Int.le_refl now

/-- A later `since` gives a later argument. -/
theorem sinceArg_mono {a b : Int} (h : a ≤ b) : sinceArg a ≤ sinceArg b := by
  rw [sinceArg, sinceArg, timeSecond]
  omega

/-- The argument is truncated to seconds. -/
theorem sinceArg_le (a : Int) : sinceArg a ≤ a := by
  rw [sinceArg, timeSecond]
  omega

variable {s s' : Loop} {p : Poll}

/-- Each poll asks for what has come since the poll before. -/
theorem inv_step (hs : step s p = some s') (h : Inv s) : Inv s' := by
  obtain ⟨⟨hcalled, hread, hreturned⟩, rfl⟩ := Run.guardedStep_eq_some.mp hs
  have hlater : s.now ≤ p.returned := by omega
  have hchecked := h.checked
  have hlast := h.read
  rcases pollOnce_cases s p with ⟨-, heq⟩ | ⟨-, heq⟩ | ⟨-, heq⟩
  · rw [heq]
    exact ⟨by show s.lastChecked ≤ p.returned; omega, h.started, by
      show s.lastRead ≤ p.returned; omega, h.ends, h.begins⟩
  · rw [heq]
    have hstarted := h.started
    refine ⟨Int.le_refl _, ?_, hreturned, fun w hw => ?_, fun w hw => ?_⟩
    · show s.started ≤ p.readAt
      omega
    · show w.readAt ≤ p.readAt
      rcases List.mem_cons.mp hw with rfl | hw
      · exact Int.le_refl _
      · have := h.ends w hw
        omega
    · have hmono : sinceArg s.lastChecked ≤ sinceArg p.returned := sinceArg_mono (by omega)
      rcases List.mem_cons.mp hw with rfl | hw
      · exact hmono
      · exact Int.le_trans (h.begins w hw) hmono
  · rw [heq]
    have hmono : sinceArg s.lastChecked ≤ sinceArg p.returned := sinceArg_mono (by omega)
    exact ⟨Int.le_refl _, h.started, by show s.lastRead ≤ p.returned; omega, h.ends, fun w hw =>
      Int.le_trans (h.begins w hw) hmono⟩

/-- **One poll** leaves no gap exactly if its window continues the ones before: what an old window misses,
    a later one misses too. -/
theorem noGap_step (hs : step s p = some s') (h : Inv s) : NoGap s' ↔ NoGap s ∧ Continues s p := by
  obtain ⟨⟨hcalled, hread, -⟩, rfl⟩ := Run.guardedStep_eq_some.mp hs
  rcases pollOnce_cases s p with ⟨hnot, heq⟩ | ⟨hjournal, heq⟩ | ⟨hnot, heq⟩
  · have hcontinues : Continues s p := fun htrue => absurd htrue (by rw [hnot]; exact Bool.false_ne_true)
    rw [heq]
    exact ⟨fun hgap => ⟨hgap, hcontinues⟩, And.left⟩
  · rw [heq]
    have hsince := sinceArg_le s.lastChecked
    have hchecked := h.checked
    constructor
    · intro hgap
      refine ⟨fun time hstart hlast => ?_, fun _ => ?_⟩
      · have hlast' : time ≤ p.readAt := by
          have := h.read
          omega
        obtain ⟨w, hw, hbegin, hend⟩ := hgap time hstart hlast'
        rcases List.mem_cons.mp hw with rfl | hw
        · -- the window of this poll begins after all the others, so the one before it will do
          cases hwindows : s.windows with
          | nil =>
            have hnone : s.lastRead = s.started := by rw [Loop.lastRead, hwindows]; rfl
            omega
          | cons v windows =>
            have hv : v ∈ s.windows := by rw [hwindows]; exact List.mem_cons_self
            have hvread : s.lastRead = v.readAt := by rw [Loop.lastRead, hwindows]; rfl
            have hvsince := h.begins v hv
            exact ⟨v, hv, by show v.since ≤ time; exact Int.le_trans hvsince hbegin, by omega⟩
        · exact ⟨w, hw, hbegin, hend⟩
      · refine Int.not_lt.mp fun hgapped => ?_
        have hstarted := h.started
        obtain ⟨w, hw, hbegin, hend⟩ := hgap (s.lastRead + 1)
          (by show s.started < s.lastRead + 1; omega) (by show s.lastRead + 1 ≤ p.readAt; omega)
        rcases List.mem_cons.mp hw with rfl | hw
        · exact absurd hbegin (by show ¬ sinceArg s.lastChecked ≤ s.lastRead + 1; omega)
        · have := h.ends w hw
          omega
    · rintro ⟨hgap, hcontinues⟩ time hstart hlast
      have hbegin := hcontinues hjournal
      rcases Int.lt_or_le s.lastRead time with hnew | hold
      · exact ⟨_, List.mem_cons_self, by show sinceArg s.lastChecked ≤ time; omega, hlast⟩
      · obtain ⟨w, hw, hcovers⟩ := hgap time hstart hold
        exact ⟨w, List.mem_cons_of_mem _ hw, hcovers⟩
  · have hcontinues : Continues s p := fun htrue => absurd htrue (by rw [hnot]; exact Bool.false_ne_true)
    rw [heq]
    exact ⟨fun hgap => ⟨hgap, hcontinues⟩, And.left⟩

/-! ## Runs -/

/-- **When the windows leave no gap.**

    The next window begins when the last poll had returned, not where it had read.  The condition compares the two,
    in whole seconds as `journalctl` takes them. -/
theorem noGap_iff {now : Int} {polls : List Poll} {s : Loop}
    (hrun : Run.exec step (.start now) polls = some s) :
    NoGap s ↔ Run.Guarded step Continues (.start now) polls := by
  have hstart : NoGap (.start now) := by
    intro time hstart hlast
    have hlast : time ≤ now := hlast
    have hstart : now < time := hstart
    omega
  have hiff := Run.last_iff_guarded (fun _ _ _ hs h => inv_step hs h)
    (fun _ _ _ hs h => noGap_step hs h) hrun (inv_start now)
  rw [hiff]
  exact ⟨And.right, fun h => ⟨hstart, h⟩⟩

/-! ## A poll that takes some seconds -/

/-- A poll that reads the journal when it is called, at second `at`, and returns after `seconds`. -/
def pollOf (second seconds : Int) (journal : Option (List EventData)) : Poll where
  called := second * timeSecond
  readAt := second * timeSecond
  returned := (second + seconds) * timeSecond
  journal := journal
  dmesg := some []
  dmesgFallback := none
  logs := []

/-- The first poll takes three seconds. -/
def slowPoll : List Poll := [pollOf 60 3 (some []), pollOf 120 0 (some [])]

/-- What is written one second after the journal was read is in no window. -/
theorem slow_poll_leaves_gap :
    ∃ s, Run.exec step (.start 0) slowPoll = some s ∧ ¬ NoGap s := by
  refine ⟨⟨0, 120 * timeSecond, 120 * timeSecond,
    [⟨63 * timeSecond, 120 * timeSecond⟩, ⟨-300 * timeSecond, 60 * timeSecond⟩]⟩, by decide, fun hgap => ?_⟩
  obtain ⟨w, hw, hbegin, hend⟩ := hgap (61 * timeSecond) (by decide) (by decide)
  rcases List.mem_cons.mp hw with rfl | hw
  · exact absurd hbegin (by decide)
  · obtain rfl := List.mem_singleton.mp hw
    exact absurd hend (by decide)

/-- Two polls that return within the second. -/
def quickPolls : List Poll := [pollOf 60 0 (some []), pollOf 120 0 (some [])]

/-- Two polls, each of which ends before the next begins. -/
theorem noGap_iff_quick :
    NoGap ⟨0, 120 * timeSecond, 120 * timeSecond,
        [⟨60 * timeSecond, 120 * timeSecond⟩, ⟨-300 * timeSecond, 60 * timeSecond⟩]⟩ ↔
      Run.Guarded step Continues (.start 0) quickPolls :=
  noGap_iff (by decide)

end EventWindows

end Agent

end Dtsys
