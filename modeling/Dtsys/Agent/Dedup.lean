/-
  WHAT THE EVENT FILTER SUPPRESSES (`shouldSkipEvent`), over any sequence of calls.

  An event that was let through should keep its repetitions out for `dedupWindow`, unless
  `dedupMaxEntries` other events of its source have been let through since; and nothing else is kept out.
  `Lawful` says this of the answers to every call that can come next.

  The code keeps a map from keys to times, and the keys in the order of their insertion.  A key that has
  EXPIRED leaves the map and stays in the order; let through again, it stands there twice.  When the old
  place comes to the front of a full order, the code deletes the entry of the new one (`DropsFresh`).

  The order is always the last `dedupMaxEntries` keys that were let through (`Inv`); the entries are right
  as long as no call drops a fresh one, and no longer (`dedup_lawful_iff`).
-/
import Dtsys.Agent.Events
import Dtsys.Lib.Run

namespace Dtsys

namespace Agent

/-- A call of `shouldSkipEvent`. -/
structure EventCall where
  time : Int
  source : GoString
  message : GoString
  deriving DecidableEq

namespace Dedup

/-- The table, the time of the last call, and the events that were let through, the last one first. -/
structure State where
  table : DedupTable
  now : Int
  passed : List EventCall

/-- Before the first call; `now` is not later than that. -/
def init (now : Int) : State := ⟨fun _ => .empty, now, []⟩

section

variable (cfg : EventFilterConfig) (lower : Char → Char)

/-- The key of the event. -/
def key (c : EventCall) : GoString := dedupKey lower c.source c.message

/-- `shouldSkipEvent` is called with `c`. -/
def skips (s : State) (c : EventCall) : Bool :=
  (shouldSkipEvent cfg lower c.time c.source c.message s.table).1

/-- A call not earlier than the last one, with a message that is neither empty nor excluded. -/
def Callable (s : State) (c : EventCall) : Prop := s.now ≤ c.time ∧ cfg.excludes c.message = false

instance (s : State) (c : EventCall) : Decidable (Callable cfg s c) := inferInstanceAs (Decidable (_ ∧ _))

/-- A call of `shouldSkipEvent`, with what is recorded of it. -/
def call (s : State) (c : EventCall) : State where
  table := (shouldSkipEvent cfg lower c.time c.source c.message s.table).2
  now := c.time
  passed := if skips cfg lower s c then s.passed else c :: s.passed

/-- One call after the other, on a clock that does not run backwards. -/
def step : State → EventCall → Option State := Run.guardedStep (Callable cfg) (call cfg lower)

/-! ## The law -/

/-- The events of a source that were let through. -/
def State.passedOf (s : State) (source : GoString) : List EventCall :=
  s.passed.filter fun a => a.source == source

/-- The events have the same fingerprint. -/
def Same (a c : EventCall) : Prop :=
  eventFingerprint lower a.message = eventFingerprint lower c.message

/-- An event of the source with this fingerprint was let through within the window, and fewer than
    `dedupMaxEntries` others of the source since. -/
def Due (s : State) (c : EventCall) : Prop :=
  ∃ since a before, s.passedOf c.source = since ++ a :: before ∧ Same lower a c ∧
    (∀ x ∈ since, ¬ Same lower x c) ∧ (since.length : Int) < cfg.dedupMaxEntries ∧
    c.time ≤ a.time + dedupWindow

/-- An event of the source with this fingerprint was let through within the window. -/
def Recent (s : State) (c : EventCall) : Prop :=
  ∃ a ∈ s.passedOf c.source, Same lower a c ∧ c.time ≤ a.time + dedupWindow

/-- Whatever call comes next, what is due is suppressed, and only what is recent. -/
def Lawful (s : State) : Prop :=
  ∀ c, Callable cfg s c → (Due cfg lower s c → skips cfg lower s c = true) ∧
    (skips cfg lower s c = true → Recent lower s c)

/-- There is an entry for the key that has not expired. -/
def Live (d : SourceDeduper) (now : Int) (k : GoString) : Prop :=
  ∃ ts, d.entries k = some ts ∧ now ≤ ts + dedupWindow

/-- The order is full, and its first key is that of the call, or stands there again and has not expired. -/
def DropsFresh (s : State) (c : EventCall) : Prop :=
  ∃ k rest, (s.table c.source).order = k :: rest ∧ cfg.dedupMaxEntries ≤ (rest.length : Int) + 1 ∧
    (k = key lower c ∨ (k ∈ rest ∧ Live (s.table c.source) c.time k))

/-- The call is a repetition, or drops no entry that is still needed. -/
def Keeps (s : State) (c : EventCall) : Prop :=
  Live (s.table c.source) c.time (key lower c) ∨ ¬ DropsFresh cfg lower s c

end

/-! ## The table -/

/-- What is left after the expiry. -/
theorem dropExpired_eq_some {now ts : Int} {entries : GoString → Option Int} {k : GoString} :
    dropExpired now entries k = some ts ↔ entries k = some ts ∧ now ≤ ts + dedupWindow := by
  rw [dropExpired, Option.filter_eq_some_iff, decide_eq_true_eq]
  exact and_congr_right fun _ => by omega

/-- What the loop that makes room leaves. -/
theorem dropOldest_eq : ∀ (n : Nat) (d : SourceDeduper),
    dropOldest n d = ⟨fun k => if k ∈ d.order.take n then none else d.entries k, d.order.drop n⟩ := by
  intro n
  induction n with
  | zero => intro d; simp [dropOldest]
  | succ n ih =>
    rintro ⟨entries, order⟩
    cases order with
    | nil => simp [dropOldest]
    | cons oldest order =>
      refine (ih _).trans ?_
      congr 1
      funext k
      by_cases hk : k = oldest
      · simp [hk]
      · simp [hk]

variable {cfg : EventFilterConfig} {lower : Char → Char} {s s' : State} {c : EventCall}

/-- Two events of one source have the same key if they have the same fingerprint. -/
theorem key_eq_iff {a c : EventCall} (hsource : a.source = c.source) :
    key lower a = key lower c ↔ Same lower a c := by
  unfold key dedupKey Same
  rw [hsource]
  constructor
  · intro h
    exact (List.cons.inj (List.append_cancel_left h)).2
  · exact fun h => by rw [h]

/-- The table of the source, without what has expired. -/
def swept (s : State) (c : EventCall) : SourceDeduper :=
  { s.table c.source with entries := dropExpired c.time (s.table c.source).entries }

/-- **The cases of a call**: a repetition, or an event that is let through. -/
theorem called (hmax : 0 < cfg.dedupMaxEntries) (hcall : Callable cfg s c) :
    (Live (s.table c.source) c.time (key lower c) ∧ skips cfg lower s c = true ∧
      call cfg lower s c = ⟨Function.update s.table c.source (swept s c), c.time, s.passed⟩) ∨
    (¬ Live (s.table c.source) c.time (key lower c) ∧ skips cfg lower s c = false ∧
      call cfg lower s c = ⟨Function.update s.table c.source
        ((swept s c).record cfg.dedupMaxEntries c.time (key lower c)), c.time, c :: s.passed⟩) := by
  have hexcluded : ¬ cfg.excludes c.message = true := by
    rw [hcall.2]
    exact Bool.false_ne_true
  cases hentry : (swept s c).entries (key lower c) with
  | some ts =>
    have hskip : shouldSkipEvent cfg lower c.time c.source c.message s.table =
        (true, Function.update s.table c.source (swept s c)) := by
      rw [shouldSkipEvent, judgeEvent, if_neg hexcluded, if_neg (by omega)]
      dsimp only
      rw [show dropExpired c.time (s.table c.source).entries (dedupKey lower c.source c.message) =
        some ts from hentry]
      rfl
    refine .inl ⟨⟨ts, dropExpired_eq_some.mp hentry⟩, ?_⟩
    rw [call, skips, hskip]
    exact ⟨rfl, rfl⟩
  | none =>
    have hskip : shouldSkipEvent cfg lower c.time c.source c.message s.table =
        (false, Function.update s.table c.source
          ((swept s c).record cfg.dedupMaxEntries c.time (key lower c))) := by
      rw [shouldSkipEvent, judgeEvent, if_neg hexcluded, if_neg (by omega)]
      dsimp only
      rw [show dropExpired c.time (s.table c.source).entries (dedupKey lower c.source c.message) =
        none from hentry]
      rfl
    refine .inr ⟨fun ⟨ts, hlive⟩ => ?_, ?_⟩
    · rw [show (swept s c).entries (key lower c) = some ts from dropExpired_eq_some.mpr hlive] at hentry
      cases hentry
    · rw [call, skips, hskip]
      exact ⟨rfl, rfl⟩

/-! ## The invariant -/

/-- The table of a source against the events of the source that were let through, the last one first. -/
structure Recorded (lower : Char → Char) (maxEntries : Nat) (d : SourceDeduper)
    (passed : List EventCall) : Prop where
  order : d.order.reverse = (passed.map (key lower)).take maxEntries
  entries : ∀ k ts, d.entries k = some ts → ∃ since a before, passed = since ++ a :: before ∧
    key lower a = k ∧ a.time = ts ∧ ∀ x ∈ since, key lower x ≠ k

/-- What is due has its entry, at the time `now`. -/
def Complete (lower : Char → Char) (maxEntries : Nat) (now : Int) (d : SourceDeduper)
    (passed : List EventCall) : Prop :=
  ∀ since a before, passed = since ++ a :: before → (∀ x ∈ since, key lower x ≠ key lower a) →
    since.length < maxEntries → now ≤ a.time + dedupWindow → d.entries (key lower a) = some a.time

section

variable {n : Nat} {d : SourceDeduper} {passed : List EventCall} {now : Int}

/-- Expired entries take nothing from what is recorded. -/
theorem Recorded.expire (h : Recorded lower n d passed) (t : Int) :
    Recorded lower n { d with entries := dropExpired t d.entries } passed :=
  ⟨h.order, fun k ts hk => h.entries k ts (dropExpired_eq_some.mp hk).1⟩

/-- Nor from what is complete, if the clock has gone on. -/
theorem Complete.expire (h : Complete lower n now d passed) {t : Int} (ht : now ≤ t) :
    Complete lower n t { d with entries := dropExpired t d.entries } passed :=
  fun since a before hpassed hsince hlen ha =>
    dropExpired_eq_some.mpr ⟨h since a before hpassed hsince hlen (by omega), ha⟩

/-- As time passes, less has to be there. -/
theorem Complete.mono (h : Complete lower n now d passed) {t : Int} (ht : now ≤ t) :
    Complete lower n t d passed :=
  fun since a before hpassed hsince hlen ha => h since a before hpassed hsince hlen (by omega)

/-- The order never has more keys than are allowed. -/
theorem Recorded.length_le (h : Recorded lower n d passed) : d.order.length ≤ n := by
  rw [← List.length_reverse, h.order]
  exact List.length_take_le _ _

/-- **Room for one more**: nothing is dropped, or the first key of the full order. -/
theorem record_eq (hpos : 0 < n) (hlen : d.order.length ≤ n) (t : Int) (k : GoString) :
    (d.order.length < n ∧
      d.record n t k = ⟨Function.update d.entries k (some t), d.order ++ [k]⟩) ∨
    (∃ oldest rest, d.order = oldest :: rest ∧ rest.length + 1 = n ∧
      d.record n t k = ⟨fun j => if j = oldest then none else Function.update d.entries k (some t) j,
        rest ++ [k]⟩) := by
  rw [SourceDeduper.record, dropOldest_eq, List.length_append, List.length_singleton]
  dsimp only
  by_cases hroom : d.order.length < n
  · refine .inl ⟨hroom, ?_⟩
    rw [show (((d.order.length + 1 : Nat) : Int) - n).toNat = 0 by omega]
    simp
  · rw [show (((d.order.length + 1 : Nat) : Int) - n).toNat = 1 by omega]
    cases horder : d.order with
    | nil =>
      rw [horder] at hroom
      exact absurd hpos hroom
    | cons oldest rest =>
      rw [horder] at hlen hroom
      rw [List.length_cons] at hlen hroom
      exact .inr ⟨oldest, rest, rfl, by omega, by simp⟩

theorem mem_take_append {k : GoString} {l m : List GoString} {j : Nat} (hj : l.length < j) :
    k ∈ (l ++ k :: m).take j := by
  rw [List.take_append, show j - l.length = j - l.length - 1 + 1 by omega, List.take_succ_cons]
  exact List.mem_append_right _ List.mem_cons_self

/-- In a full order, the keys after the first are the last ones but one. -/
theorem Recorded.rest (h : Recorded lower n d passed) {oldest : GoString} {rest : List GoString}
    (horder : d.order = oldest :: rest) (hfull : rest.length + 1 = n) :
    rest.reverse = (passed.map (key lower)).take rest.length := by
  have htake := congrArg (List.take rest.length) h.order
  rw [horder, List.reverse_cons, List.take_append_of_le_length (by rw [List.length_reverse]),
    List.take_of_length_le (by rw [List.length_reverse]), List.take_take] at htake
  rw [htake, Nat.min_eq_left (by omega)]

/-- **Recording** an event. -/
theorem Recorded.record (h : Recorded lower n d passed) (hpos : 0 < n) (c : EventCall) :
    Recorded lower n (d.record n c.time (key lower c)) (c :: passed) := by
  have hentries : ∀ k ts, Function.update d.entries (key lower c) (some c.time) k = some ts →
      ∃ since a before, c :: passed = since ++ a :: before ∧ key lower a = k ∧ a.time = ts ∧
        ∀ x ∈ since, key lower x ≠ k := by
    intro k ts hk
    by_cases hkey : k = key lower c
    · rw [hkey, Function.update_self] at hk
      exact ⟨[], c, passed, rfl, hkey.symm, Option.some.inj hk, nofun⟩
    · rw [Function.update_of_ne hkey] at hk
      obtain ⟨since, a, before, hpassed, ha, hts, hsince⟩ := h.entries k ts hk
      refine ⟨c :: since, a, before, congrArg _ hpassed, ha, hts, fun x hx => ?_⟩
      rcases List.mem_cons.mp hx with rfl | hx
      · exact fun heq => hkey heq.symm
      · exact hsince x hx
  obtain ⟨m, rfl⟩ : ∃ m, n = m + 1 := ⟨n - 1, by omega⟩
  rcases record_eq hpos h.length_le c.time (key lower c) with
    ⟨hroom, hrec⟩ | ⟨oldest, rest, horder, hfull, hrec⟩
  · rw [hrec]
    refine ⟨?_, hentries⟩
    have hlen := congrArg List.length h.order
    rw [List.length_reverse, List.length_take] at hlen
    show (d.order ++ [key lower c]).reverse = ((c :: passed).map (key lower)).take (m + 1)
    rw [List.reverse_append, h.order, List.map_cons, List.take_succ_cons,
      List.take_of_length_le (by omega), List.take_of_length_le (by omega)]
    rfl
  · rw [hrec]
    refine ⟨?_, fun k ts hk => hentries k ts ?_⟩
    · obtain rfl : rest.length = m := by omega
      show (rest ++ [key lower c]).reverse = ((c :: passed).map (key lower)).take (rest.length + 1)
      rw [List.reverse_append, h.rest horder hfull, List.map_cons, List.take_succ_cons]
      rfl
    · dsimp only at hk
      split at hk
      · cases hk
      · exact hk

/-- **Recording** an event that drops nothing fresh. -/
theorem Complete.record (hrec : Recorded lower n d passed) (hpos : 0 < n) {c : EventCall}
    (h : Complete lower n c.time d passed)
    (hkeep : ∀ k rest, d.order = k :: rest → rest.length + 1 = n →
      k ≠ key lower c ∧ (k ∈ rest → ¬ Live d c.time k)) :
    Complete lower n c.time (d.record n c.time (key lower c)) (c :: passed) := by
  intro since a before hpassed hsince hlen ha
  -- the entry is in the map before room is made
  have hentry : Function.update d.entries (key lower c) (some c.time) (key lower a) = some a.time := by
    cases since with
    | nil =>
      obtain ⟨rfl, -⟩ := List.cons.inj hpassed
      exact Function.update_self ..
    | cons x since =>
      obtain ⟨rfl, htail⟩ := List.cons.inj hpassed
      have hne : key lower a ≠ key lower c := fun heq => hsince c List.mem_cons_self heq.symm
      rw [Function.update_of_ne hne]
      refine h since a before htail (fun y hy => hsince y (List.mem_cons_of_mem _ hy)) ?_ ha
      rw [List.length_cons] at hlen
      omega
  rcases record_eq hpos hrec.length_le c.time (key lower c) with
    ⟨-, hroom⟩ | ⟨oldest, rest, horder, hfull, hroom⟩
  · rw [hroom]
    exact hentry
  · obtain ⟨hown, hfresh⟩ := hkeep oldest rest horder hfull
    rw [hroom]
    show (if key lower a = oldest then none else _) = _
    rw [if_neg ?_, hentry]
    intro hold
    cases since with
    | nil =>
      obtain ⟨rfl, -⟩ := List.cons.inj hpassed
      exact hown hold.symm
    | cons x since =>
      obtain ⟨rfl, htail⟩ := List.cons.inj hpassed
      have htail : passed = since ++ a :: before := htail
      rw [List.length_cons] at hlen
      have hmem : oldest ∈ rest := by
        rw [← List.mem_reverse, hrec.rest horder hfull, htail, List.map_append, List.map_cons, hold]
        exact mem_take_append (by rw [List.length_map]; omega)
      have hne : key lower a ≠ key lower c := fun heq => hsince c List.mem_cons_self heq.symm
      rw [Function.update_of_ne hne, hold] at hentry
      exact hfresh hmem ⟨a.time, hentry, ha⟩

end

/-! ## One call -/

/-- How many entries are allowed. -/
def limit (cfg : EventFilterConfig) : Nat := cfg.dedupMaxEntries.toNat

/-- The tables of all sources are those of the events that were let through. -/
structure Inv (cfg : EventFilterConfig) (lower : Char → Char) (s : State) : Prop where
  recorded : ∀ source, Recorded lower (limit cfg) (s.table source) (s.passedOf source)
  messages : ∀ a ∈ s.passed, cfg.excludes a.message = false

/-- And they are complete. -/
def Sound (cfg : EventFilterConfig) (lower : Char → Char) (s : State) : Prop :=
  Inv cfg lower s ∧
    ∀ source, Complete lower (limit cfg) s.now (s.table source) (s.passedOf source)

/-- Nothing is recorded, and nothing has to be. -/
theorem sound_init (now : Int) : Sound cfg lower (init now) := by
  refine ⟨⟨fun source => ⟨by simp [init, SourceDeduper.empty, State.passedOf], nofun⟩, nofun⟩,
    fun source since a before h => ?_⟩
  have hnil : [] = since ++ a :: before := h
  simp at hnil

theorem mem_passedOf {a : EventCall} {source : GoString} (h : a ∈ s.passedOf source) :
    a ∈ s.passed ∧ a.source = source := by
  obtain ⟨hmem, hsource⟩ := List.mem_filter.mp h
  exact ⟨hmem, beq_iff_eq.mp hsource⟩

/-- In a sound state, every call is answered as it should be. -/
theorem lawful_of_sound (hmax : 0 < cfg.dedupMaxEntries) (h : Sound cfg lower s) :
    Lawful cfg lower s := by
  intro c hcall
  have hkey : ∀ a ∈ s.passedOf c.source, key lower a = key lower c ↔ Same lower a c :=
    fun a ha => key_eq_iff (mem_passedOf ha).2
  have hskips : skips cfg lower s c = true ↔ Live (s.table c.source) c.time (key lower c) := by
    rcases called hmax hcall with ⟨hlive, hskip, -⟩ | ⟨hlive, hskip, -⟩
    · exact ⟨fun _ => hlive, fun _ => hskip⟩
    · refine ⟨fun htrue => ?_, fun htrue => absurd htrue hlive⟩
      rw [hskip] at htrue
      cases htrue
  refine ⟨?_, ?_⟩
  · rintro ⟨since, a, before, hpassed, hsame, hsince, hlen, hrecent⟩
    have ha : a ∈ s.passedOf c.source := by
      rw [hpassed]
      exact List.mem_append_right _ List.mem_cons_self
    have hown : key lower a = key lower c := (hkey a ha).mpr hsame
    have hnone : ∀ x ∈ since, key lower x ≠ key lower a := by
      intro x hx heq
      have hmem : x ∈ s.passedOf c.source := by
        rw [hpassed]
        exact List.mem_append_left _ hx
      exact hsince x hx ((hkey x hmem).mp (heq.trans hown))
    have hnow : s.now ≤ a.time + dedupWindow := Int.le_trans hcall.1 hrecent
    have hentry := h.2 c.source since a before hpassed hnone (by unfold limit; omega) hnow
    exact hskips.mpr ⟨a.time, hown ▸ hentry, hrecent⟩
  · intro hskip
    obtain ⟨ts, hentry, hrecent⟩ := hskips.mp hskip
    obtain ⟨since, a, before, hpassed, hown, rfl, -⟩ := (h.1.recorded c.source).entries _ _ hentry
    have ha : a ∈ s.passedOf c.source := by
      rw [hpassed]
      exact List.mem_append_right _ List.mem_cons_self
    exact ⟨a, ha, (hkey a ha).mp hown, hrecent⟩

theorem passedOf_self (table : DedupTable) (now : Int) (c : EventCall) (passed : List EventCall) :
    State.passedOf ⟨table, now, c :: passed⟩ c.source = c :: State.passedOf ⟨table, now, passed⟩ c.source :=
  List.filter_cons_of_pos (p := fun a : EventCall => a.source == c.source) (beq_self_eq_true _)

theorem passedOf_of_ne (table : DedupTable) (now : Int) {c : EventCall} {source : GoString}
    (h : c.source ≠ source) (passed : List EventCall) :
    State.passedOf ⟨table, now, c :: passed⟩ source = State.passedOf ⟨table, now, passed⟩ source :=
  List.filter_cons_of_neg (p := fun a : EventCall => a.source == source) (by simpa using h)

theorem natCast_limit (hmax : 0 < cfg.dedupMaxEntries) : ((limit cfg : Nat) : Int) = cfg.dedupMaxEntries :=
  Int.toNat_of_nonneg (Int.le_of_lt hmax)

/-- The call changes the table of its own source. -/
theorem sound_update (hcall : Callable cfg s c) (h : Sound cfg lower s) {d : SourceDeduper}
    {passed : List EventCall} (hmessages : ∀ a ∈ passed, cfg.excludes a.message = false)
    (hother : ∀ source, c.source ≠ source →
      State.passedOf ⟨s.table, c.time, passed⟩ source = s.passedOf source)
    (hrecorded : Recorded lower (limit cfg) d (State.passedOf ⟨s.table, c.time, passed⟩ c.source))
    (hcomplete : Complete lower (limit cfg) c.time d
      (State.passedOf ⟨s.table, c.time, passed⟩ c.source)) :
    Sound cfg lower ⟨Function.update s.table c.source d, c.time, passed⟩ := by
  refine ⟨⟨fun source => ?_, hmessages⟩, fun source => ?_⟩
  · show Recorded lower _ (Function.update s.table c.source d source) _
    by_cases hsource : source = c.source
    · subst hsource
      rw [Function.update_self]
      exact hrecorded
    · rw [Function.update_of_ne hsource]
      exact (hother source (Ne.symm hsource)).symm ▸ h.1.recorded source
  · show Complete lower _ c.time (Function.update s.table c.source d source) _
    by_cases hsource : source = c.source
    · subst hsource
      rw [Function.update_self]
      exact hcomplete
    · rw [Function.update_of_ne hsource]
      exact (hother source (Ne.symm hsource)).symm ▸ (h.2 source).mono hcall.1

/-- **One call** that drops nothing fresh keeps the tables right. -/
theorem sound_call (hmax : 0 < cfg.dedupMaxEntries) (hcall : Callable cfg s c) (h : Sound cfg lower s)
    (hkeep : Keeps cfg lower s c) : Sound cfg lower (call cfg lower s c) := by
  have hpos : 0 < limit cfg := by unfold limit; omega
  have hswept := (h.1.recorded c.source).expire c.time
  have hcomplete := (h.2 c.source).expire hcall.1
  rcases called hmax hcall with ⟨-, -, hrun⟩ | ⟨hlive, -, hrun⟩
  · rw [hrun]
    exact sound_update hcall h h.1.messages (fun _ _ => rfl) hswept hcomplete
  · rw [hrun, ← natCast_limit hmax]
    refine sound_update hcall h ?_ (fun source hne => passedOf_of_ne _ _ hne _) ?_ ?_
    · intro a ha
      rcases List.mem_cons.mp ha with rfl | ha
      · exact hcall.2
      · exact h.1.messages a ha
    · rw [passedOf_self]
      exact hswept.record hpos c
    · rw [passedOf_self]
      refine Complete.record hswept hpos hcomplete fun k rest horder hfull => ?_
      have hnot := hkeep.resolve_left hlive
      have hcap : cfg.dedupMaxEntries ≤ (rest.length : Int) + 1 := by
        rw [← natCast_limit hmax]
        omega
      refine ⟨fun hk => hnot ⟨k, rest, horder, hcap, .inl hk⟩, ?_⟩
      rintro hmem ⟨ts, hentry, hts⟩
      exact hnot ⟨k, rest, horder, hcap, .inr ⟨hmem, ts, (dropExpired_eq_some.mp hentry).1, hts⟩⟩

/-- A key that was dropped has no entry. -/
theorem dropped_not_live (hmax : 0 < cfg.dedupMaxEntries) (hcall : Callable cfg s c)
    (h : Sound cfg lower s) (hlive : ¬ Live (s.table c.source) c.time (key lower c)) {k : GoString}
    {rest : List GoString} (horder : (s.table c.source).order = k :: rest)
    (hfull : rest.length + 1 = limit cfg) (t : Int) :
    ¬ Live ((call cfg lower s c).table c.source) t k := by
  rintro ⟨ts, hentry, -⟩
  rcases called hmax hcall with ⟨hrep, -, -⟩ | ⟨-, -, hrun⟩
  · exact hlive hrep
  · have hlen : (swept s c).order.length ≤ limit cfg := ((h.1.recorded c.source).expire c.time).length_le
    have hpos : 0 < limit cfg := by unfold limit; omega
    rw [hrun, ← natCast_limit hmax] at hentry
    dsimp only at hentry
    rw [Function.update_self] at hentry
    rcases record_eq hpos hlen c.time (key lower c) with ⟨hroom, -⟩ | ⟨oldest, rest', hold, -, hrec⟩
    · have horder' : (swept s c).order = k :: rest := horder
      rw [horder', List.length_cons] at hroom
      omega
    · obtain ⟨rfl, rfl⟩ := List.cons.inj (horder.symm.trans hold)
      rw [hrec] at hentry
      dsimp only at hentry
      rw [if_pos rfl] at hentry
      cases hentry

/-- Where the law holds, what is due has an entry. -/
theorem live_of_lawful (hmax : 0 < cfg.dedupMaxEntries) (hlawful : Lawful cfg lower s) {a : EventCall}
    {since before : List EventCall} (hmessage : cfg.excludes a.message = false)
    (hpassed : s.passedOf a.source = since ++ a :: before)
    (hsince : ∀ x ∈ since, key lower x ≠ key lower a) (hlen : since.length < limit cfg)
    (hrecent : s.now ≤ a.time + dedupWindow) : Live (s.table a.source) s.now (key lower a) := by
  let again : EventCall := { a with time := s.now }
  have hcall : Callable cfg s again := ⟨Int.le_refl _, hmessage⟩
  have hdue : Due cfg lower s again := by
    refine ⟨since, a, before, hpassed, rfl, fun x hx hsame => ?_, ?_, hrecent⟩
    · have hsource : x.source = a.source := by
        refine (mem_passedOf (s := s) ?_).2
        rw [hpassed]
        exact List.mem_append_left _ hx
      exact hsince x hx ((key_eq_iff hsource).mpr hsame)
    · rw [← natCast_limit hmax]
      exact Int.ofNat_lt.mpr hlen
  have hskip := (hlawful again hcall).1 hdue
  rcases called hmax hcall with ⟨hlive, -, -⟩ | ⟨-, hnot, -⟩
  · exact hlive
  · rw [hskip] at hnot
    cases hnot

/-- **One call** that drops something fresh leaves a call that is answered wrongly. -/
theorem keeps_of_lawful (hmax : 0 < cfg.dedupMaxEntries) (hcall : Callable cfg s c)
    (h : Sound cfg lower s) (hlawful : Lawful cfg lower (call cfg lower s c)) :
    Keeps cfg lower s c := by
  by_cases hlive : Live (s.table c.source) c.time (key lower c)
  · exact .inl hlive
  -- The entry that is dropped was still fresh: the message it stands for passes again, inside the window.
  · refine .inr ?_
    rintro ⟨k, rest, horder, hcap, hfresh⟩
    have hfull : rest.length + 1 = limit cfg := by
      have hle := (h.1.recorded c.source).length_le
      rw [horder, List.length_cons] at hle
      rw [← natCast_limit hmax] at hcap
      omega
    have hgone := dropped_not_live hmax hcall h hlive horder hfull
    have hrun : (call cfg lower s c).passed = c :: s.passed := by
      rcases called hmax hcall with ⟨hrep, -, -⟩ | ⟨-, -, hrun⟩
      · exact absurd hrep hlive
      · rw [hrun]
    have hpassed : (call cfg lower s c).passedOf c.source = c :: s.passedOf c.source := by
      rw [State.passedOf, hrun]
      exact List.filter_cons_of_pos (p := fun a : EventCall => a.source == c.source) (beq_self_eq_true _)
    -- Either the entry dropped is that of the call itself, or that of an earlier message of the source.
    rcases hfresh with rfl | ⟨hmem, ts, hentry, hts⟩
    · have hfirst : (call cfg lower s c).passedOf c.source = [] ++ c :: s.passedOf c.source := hpassed
      refine hgone c.time (live_of_lawful hmax hlawful hcall.2 hfirst nofun
        (show 0 < limit cfg by omega) ?_)
      show c.time ≤ c.time + dedupWindow
      rw [dedupWindow, timeSecond]
      omega
    · obtain ⟨since, a, before, hold, rfl, rfl, hsince⟩ := (h.1.recorded c.source).entries k ts hentry
      have ha : a ∈ s.passedOf c.source := by
        rw [hold]
        exact List.mem_append_right _ List.mem_cons_self
      obtain ⟨hamem, hsource⟩ := mem_passedOf ha
      have hlen : since.length < rest.length := by
        refine Nat.lt_of_not_le fun hle => ?_
        rw [← List.mem_reverse, (h.1.recorded c.source).rest horder hfull, hold, List.map_append,
          List.take_append_of_le_length (by rwa [List.length_map])] at hmem
        obtain ⟨x, hx, hkey⟩ := List.mem_map.mp (List.mem_of_mem_take hmem)
        exact hsince x hx hkey
      have hown : key lower c ≠ key lower a := by
        intro heq
        exact hlive ⟨a.time, heq ▸ hentry, hts⟩
      have hlater : (call cfg lower s c).passedOf a.source = (c :: since) ++ a :: before := by
        rw [hsource, hpassed, hold]
        rfl
      rw [← hsource] at hgone
      refine hgone c.time (live_of_lawful hmax hlawful (h.1.messages a hamem) hlater
        (fun x hx => ?_) (by rw [List.length_cons]; omega) hts)
      rcases List.mem_cons.mp hx with rfl | hx
      · exact hown
      · exact hsince x hx

/-! ## Runs -/

/-- **When the law holds.**

    The condition is on the calls: a call that lets its event through and pushes out a key that is still wanted.  A
    key that has expired leaves the map and stays in the order, so its next entry is pushed out in the place of the
    old one. -/
theorem dedup_lawful_iff (hmax : 0 < cfg.dedupMaxEntries) {now : Int} {calls : List EventCall} {t : State}
    (hrun : Run.exec (step cfg lower) (init now) calls = some t) :
    Run.After (step cfg lower) (fun _ s => Lawful cfg lower s) (init now) calls ↔
      Run.Guarded (step cfg lower) (Keeps cfg lower) (init now) calls := by
  refine Run.after_iff_guarded_of_inv (I := Sound cfg lower) ?_ ?_ hrun (sound_init now)
  · intro s c s' hkeep hs h
    obtain ⟨hcall, rfl⟩ := Run.guardedStep_eq_some.mp hs
    have hsound := sound_call hmax hcall h hkeep
    exact ⟨hsound, lawful_of_sound hmax hsound⟩
  · intro s c s' hs h hlawful
    obtain ⟨hcall, rfl⟩ := Run.guardedStep_eq_some.mp hs
    exact keeps_of_lawful hmax hcall h hlawful

/-! ## A key that expires and comes back -/

/-- One entry for each source. -/
def oneEntry : EventFilterConfig := ⟨1, []⟩

/-- A message of the kernel. -/
def fanFailed (time : Int) : EventCall := ⟨time, .ofString "kernel", .ofString "Fan failed"⟩

/-- An event, and again after the window. -/
def expiredAndBack : List EventCall := [fanFailed 0, fanFailed (dedupWindow + 1)]

/-- The second of them leaves no entry: the same event, a second later, is let through. -/
theorem repetition_passes :
    ∃ s, Run.exec (step oneEntry id) (init 0) expiredAndBack = some s ∧
      Callable oneEntry s (fanFailed (dedupWindow + timeSecond)) ∧
      Due oneEntry id s (fanFailed (dedupWindow + timeSecond)) ∧
      skips oneEntry id s (fanFailed (dedupWindow + timeSecond)) = false := by
  refine ⟨_, rfl, by decide, ⟨[], fanFailed (dedupWindow + 1), [fanFailed 0], rfl, rfl, nofun, ?_, ?_⟩,
    by decide⟩
  · decide
  · decide

/-- The two calls, and the condition that the second does not meet. -/
theorem dedup_lawful_iff_back :
    Run.After (step oneEntry id) (fun _ s => Lawful oneEntry id s) (init 0) expiredAndBack ↔
      Run.Guarded (step oneEntry id) (Keeps oneEntry id) (init 0) expiredAndBack :=
  dedup_lawful_iff (by decide) rfl

end Dedup

end Agent

end Dtsys
