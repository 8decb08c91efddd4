/-
  RUNS of a step function.

  A concurrent system is given here by ONE partial step function `step : σ → ℓ → Option σ`: the
  label `l` names the party that moves and what it does, `none` means that this move is not possible
  now.  An interleaving is then a list of labels, and every schedule is such a list.

  * `exec` — run a schedule; executable, so a concrete schedule is evaluated by `decide` or `rfl`.
  * `Guarded` — every step of the schedule meets a condition `C` on the state before it.
  * `exec_inv` — the invariant rule: what every step that meets `C` preserves holds in every state
    a guarded schedule reaches.
  * `After` — what holds after every step of a schedule; a condition on the state before a step that is
    exact, step by step, is exact for whole schedules (`after_iff_guarded_of_inv`,
    `after_iff_guarded`).
  * `exec_observed` — the invariant rule with an OBSERVER that reads the labels of the schedule and
    keeps what the specification says should be the case.
  * `exec_recorded` — what a step records, every later step keeps.
  * `last_iff_guarded` — what is lost at a step that does not meet the condition stays lost.
  * `tally`, `exec_tally` — how often a schedule takes a step of some kind, as a bound on what such
    steps cost.
  * `Finishes` — liveness: the moves of some parties, whatever their order, come to an end and end
    well; by a measure that they lower (`finishes_of_measure`).
  * `guardedStep` — a step function given by a guard and an effect.
-/
import Mathlib.Logic.Basic

namespace Dtsys.Run

variable {σ ℓ : Type} (step : σ → ℓ → Option σ)

/-- Run the schedule `ls` from `s`; `none` if some move in it is not possible. -/
def exec : σ → List ℓ → Option σ
  | s, [] => some s
  | s, l :: ls => (step s l).bind fun s' => exec s' ls

/-- Every step of the schedule meets `C` in the state it is taken from. -/
def Guarded (C : σ → ℓ → Prop) : σ → List ℓ → Prop
  | _, [] => True
  | s, l :: ls => C s l ∧ ∀ s', step s l = some s' → Guarded C s' ls

variable {step}

@[simp] theorem exec_nil (s : σ) : exec step s [] = some s := rfl

/-- A run, from its first step on. -/
theorem exec_cons_eq {s t : σ} {l : ℓ} {ls : List ℓ} :
    exec step s (l :: ls) = some t ↔ ∃ s', step s l = some s' ∧ exec step s' ls = some t := by
  simp only [exec, Option.bind_eq_some_iff]

/-- One schedule after the other. -/
theorem exec_append {s u t : σ} : ∀ {ls ms : List ℓ}, exec step s ls = some u →
    exec step u ms = some t → exec step s (ls ++ ms) = some t := by
  intro ls
  induction ls generalizing s with
  | nil =>
    intro ms hu ht
    obtain rfl : s = u := by simpa using hu
    exact ht
  | cons l ls ih =>
    intro ms hu ht
    obtain ⟨s', hs, hrest⟩ := exec_cons_eq.mp hu
    exact exec_cons_eq.mpr ⟨s', hs, ih hrest ht⟩

/-- A schedule in two parts is run in two parts. -/
theorem exec_append_eq {s t : σ} : ∀ {ls ms : List ℓ}, exec step s (ls ++ ms) = some t →
    ∃ u, exec step s ls = some u ∧ exec step u ms = some t := by
  intro ls
  induction ls generalizing s with
  | nil => exact fun ht => ⟨s, rfl, ht⟩
  | cons l ls ih =>
    intro ms ht
    obtain ⟨s', hs, hrest⟩ := exec_cons_eq.mp ht
    obtain ⟨u, hu, hms⟩ := ih hrest
    exact ⟨u, exec_cons_eq.mpr ⟨s', hs, hu⟩, hms⟩

/-- A run, up to its last step. -/
theorem exec_concat (s : σ) (l : ℓ) : ∀ ls : List ℓ,
    exec step s (ls ++ [l]) = (exec step s ls).bind fun u => step u l := by
  intro ls
  induction ls generalizing s with
  | nil => simp [exec]
  | cons k ls ih =>
    show (step s k).bind _ = ((step s k).bind _).bind _
    rw [Option.bind_assoc]
    exact congrArg _ (funext ih)

/-- One more step in front, that meets the condition. -/
theorem Guarded.cons {C : σ → ℓ → Prop} {s s' : σ} {l : ℓ} {ls : List ℓ} (hs : step s l = some s')
    (hl : C s l) (hls : Guarded step C s' ls) : Guarded step C s (l :: ls) := by
  refine ⟨hl, fun t ht => ?_⟩
  obtain rfl : s' = t := Option.some.inj (hs.symm.trans ht)
  exact hls

/-- The second part of a run whose steps meet the condition. -/
theorem Guarded.of_append {C : σ → ℓ → Prop} {s u : σ} : ∀ {ls ms : List ℓ},
    Guarded step C s (ls ++ ms) → exec step s ls = some u → Guarded step C u ms := by
  intro ls
  induction ls generalizing s with
  | nil =>
    intro ms hg hu
    obtain rfl : s = u := by simpa using hu
    exact hg
  | cons l ls ih =>
    intro ms hg hu
    obtain ⟨s', hs, hrest⟩ := exec_cons_eq.mp hu
    exact ih (hg.2 s' hs) hrest

/-- A step that does not meet the condition. -/
theorem not_guarded_of_last {C : σ → ℓ → Prop} {s u : σ} {l : ℓ} {ls : List ℓ}
    (hu : exec step s ls = some u) (hl : ¬ C u l) : ¬ Guarded step C s (ls ++ [l]) :=
  fun hg => hl (hg.of_append hu).1

/-- A run of any steps. -/
theorem guarded_true : ∀ (ls : List ℓ) (s : σ), Guarded step (fun _ _ => True) s ls := by
  intro ls
  induction ls with
  | nil => intro s; trivial
  | cons l ls ih => exact fun s => ⟨trivial, fun s' _ => ih s'⟩

/-- A condition on the labels alone. -/
theorem guarded_of_forall {C : ℓ → Prop} : ∀ {ls : List ℓ} (s : σ), (∀ l ∈ ls, C l) →
    Guarded step (fun _ l => C l) s ls := by
  intro ls
  induction ls with
  | nil => exact fun s _ => trivial
  | cons l ls ih =>
    exact fun s h => ⟨h l List.mem_cons_self, fun s' _ =>
      ih s' fun x hx => h x (List.mem_cons_of_mem _ hx)⟩

/-- The condition of the steps may be weakened. -/
theorem Guarded.imp {C D : σ → ℓ → Prop} (hCD : ∀ s l, C s l → D s l) : ∀ {ls : List ℓ} {s : σ},
    Guarded step C s ls → Guarded step D s ls := by
  intro ls
  induction ls with
  | nil => intro s _; trivial
  | cons l ls ih => exact fun hg => ⟨hCD _ l hg.1, fun s' hs => ih (hg.2 s' hs)⟩

/-- What an invariant of the guarded steps adds to their condition. -/
theorem Guarded.strengthen {C D : σ → ℓ → Prop} {I : σ → Prop}
    (hstep : ∀ s l s', C s l → step s l = some s' → I s → I s')
    (hD : ∀ s l, C s l → I s → D s l) : ∀ {ls : List ℓ} {s : σ},
      Guarded step C s ls → I s → Guarded step D s ls := by
  intro ls
  induction ls with
  | nil => intro s _ _; trivial
  | cons l ls ih =>
    intro s hg hI
    exact ⟨hD s l hg.1 hI, fun s' hs => ih (hg.2 s' hs) (hstep s l s' hg.1 hs hI)⟩

/-- The same, for a schedule that can be run: what is added may rest on the step being possible. -/
theorem Guarded.strengthen_run {C D : σ → ℓ → Prop} {I : σ → Prop}
    (hstep : ∀ s l s', C s l → step s l = some s' → I s → I s')
    (hD : ∀ s l s', C s l → step s l = some s' → I s → D s l) : ∀ {ls : List ℓ} {s t : σ},
      exec step s ls = some t → Guarded step C s ls → I s → Guarded step D s ls := by
  intro ls
  induction ls with
  | nil => intro s t _ _ _; trivial
  | cons l ls ih =>
    intro s t ht hg hI
    obtain ⟨s', hs, hrest⟩ := exec_cons_eq.mp ht
    exact .cons hs (hD s l s' hg.1 hs hI) (ih hrest (hg.2 s' hs) (hstep s l s' hg.1 hs hI))

/-- Along a concrete schedule the condition can be evaluated. -/
instance Guarded.decidable (C : σ → ℓ → Prop) [∀ s l, Decidable (C s l)] :
    ∀ (s : σ) (ls : List ℓ), Decidable (Guarded step C s ls)
  | _, [] => isTrue trivial
  | s, l :: ls =>
    match hs : step s l with
    | none => decidable_of_iff (C s l) ⟨fun hc => ⟨hc, fun s' h => by simp [hs] at h⟩, And.left⟩
    | some s' =>
      have : Decidable (Guarded step C s' ls) := Guarded.decidable C s' ls
      decidable_of_iff (C s l ∧ Guarded step C s' ls)
        ⟨fun hg => ⟨hg.1, fun t ht => Option.some.inj (hs.symm.trans ht) ▸ hg.2⟩,
          fun hg => ⟨hg.1, hg.2 s' hs⟩⟩

/-- The invariant rule with an observer: `g` reads the labels, and the invariant relates the state
    to what it has seen. -/
theorem exec_observed {ο : Type} {g : ο → ℓ → ο} {C : σ → ℓ → Prop} {I : σ → ο → Prop}
    (hstep : ∀ s o l s', C s l → step s l = some s' → I s o → I s' (g o l)) :
    ∀ {ls : List ℓ} {s t : σ} {o : ο}, Guarded step C s ls → exec step s ls = some t → I s o →
      I t (ls.foldl g o) := by
  intro ls
  induction ls with
  | nil =>
    intro s t o _ ht hI
    obtain rfl : s = t := by simpa using ht
    exact hI
  | cons l ls ih =>
    intro s t o hg ht hI
    obtain ⟨s', hs, hrest⟩ := exec_cons_eq.mp ht
    exact ih (hg.2 s' hs) hrest (hstep s o l s' hg.1 hs hI)

/-- **The invariant rule.**  What every step meeting `C` preserves, a guarded schedule preserves. -/
theorem exec_inv {C : σ → ℓ → Prop} {I : σ → Prop}
    (hstep : ∀ s l s', C s l → step s l = some s' → I s → I s') {ls : List ℓ} {s t : σ}
    (hg : Guarded step C s ls) (ht : exec step s ls = some t) (hI : I s) : I t :=
  exec_observed (g := fun (_ : Unit) _ => ()) (I := fun s _ => I s) (o := ())
    (fun s _ l s' hC hs => hstep s l s' hC hs) hg ht hI

/-- What holds of a thing when it is recorded, and is kept by every step, holds of everything that the
    schedule has recorded. -/
theorem exec_recorded {α : Type} {record : ℓ → Option α} {I : σ → Prop} {Q : σ → α → Prop}
    (hinv : ∀ s l s', step s l = some s' → I s → I s')
    (hnew : ∀ s l s' e, step s l = some s' → I s → record l = some e → Q s' e)
    (hkeep : ∀ s l s' e, step s l = some s' → I s → Q s e → Q s' e) :
    ∀ {ls : List ℓ} {s t : σ}, exec step s ls = some t → I s → ∀ e ∈ ls.filterMap record, Q t e := by
  intro ls
  induction ls with
  | nil => exact fun _ _ e he => nomatch he
  | cons l ls ih =>
    intro s t ht hI e he
    obtain ⟨s', hs, hrest⟩ := exec_cons_eq.mp ht
    have hI' := hinv s l s' hs hI
    obtain ⟨k, hk, hrec⟩ := List.mem_filterMap.mp he
    rcases List.mem_cons.mp hk with rfl | hk
    · refine (exec_inv (I := fun s => I s ∧ Q s e) ?_ (guarded_true ls s') hrest
        ⟨hI', hnew s k s' e hs hI hrec⟩).2
      exact fun u m u' _ hm hu => ⟨hinv u m u' hm hu.1, hkeep u m u' e hm hu.1 hu.2⟩
    · exact ih hrest hI' e (List.mem_filterMap.mpr ⟨k, hk, hrec⟩)

/-! ## After every step -/

variable (step) in
/-- After every step of the schedule `P` holds of its label and of the state it leads to. -/
def After (P : ℓ → σ → Prop) : σ → List ℓ → Prop
  | _, [] => True
  | s, l :: ls => ∀ s', step s l = some s' → P l s' ∧ After P s' ls

/-- A condition that keeps an invariant and gives `P`, and that every step which gives `P` meets, is
    exact for whole schedules. -/
theorem after_iff_guarded_of_inv {P : ℓ → σ → Prop} {C : σ → ℓ → Prop} {I : σ → Prop}
    (hgood : ∀ s l s', C s l → step s l = some s' → I s → I s' ∧ P l s')
    (hbad : ∀ s l s', step s l = some s' → I s → P l s' → C s l) :
    ∀ {ls : List ℓ} {s t : σ}, exec step s ls = some t → I s →
      (After step P s ls ↔ Guarded step C s ls) := by
  intro ls
  induction ls with
  | nil => exact fun _ _ => Iff.rfl
  | cons l ls ih =>
    intro s t ht hI
    obtain ⟨s', hs, hrest⟩ := exec_cons_eq.mp ht
    constructor
    · intro hafter
      obtain ⟨hP, hls⟩ := hafter s' hs
      have hC := hbad s l s' hs hI hP
      exact .cons hs hC ((ih hrest (hgood s l s' hC hs hI).1).mp hls)
    · rintro ⟨hC, hls⟩ u hu
      obtain rfl : s' = u := Option.some.inj (hs.symm.trans hu)
      obtain ⟨hI', hP⟩ := hgood s l s' hC hs hI
      exact ⟨hP, (ih hrest hI').mpr (hls s' hs)⟩

/-- A condition that is exact for every step, under an invariant of the steps, is exact for the
    schedule. -/
theorem after_iff_guarded {P : ℓ → σ → Prop} {C : σ → ℓ → Prop} {I : σ → Prop}
    (hinv : ∀ s l s', step s l = some s' → I s → I s')
    (hiff : ∀ s l s', step s l = some s' → I s → (P l s' ↔ C s l)) {ls : List ℓ} {s t : σ}
    (ht : exec step s ls = some t) (hI : I s) : After step P s ls ↔ Guarded step C s ls :=
  after_iff_guarded_of_inv (I := I)
    (fun s l s' hC hs hI => ⟨hinv s l s' hs hI, (hiff s l s' hs hI).mpr hC⟩)
    (fun s l s' hs hI hP => (hiff s l s' hs hI).mp hP) ht hI

/-- What holds after every step holds after the last one. -/
theorem After.last {P : ℓ → σ → Prop} {t : σ} {l : ℓ} : ∀ {ls : List ℓ} {s : σ},
    After step P s ls → exec step s ls = some t → ls.getLast? = some l → P l t := by
  intro ls
  induction ls with
  | nil => exact fun _ _ hl => nomatch hl
  | cons k ls ih =>
    intro s hafter ht hl
    obtain ⟨s', hs, hrest⟩ := exec_cons_eq.mp ht
    obtain ⟨hP, hls⟩ := hafter s' hs
    cases ls with
    | nil =>
      obtain rfl := Option.some.inj hrest
      obtain rfl := Option.some.inj hl
      exact hP
    | cons m ls => exact ih hls hrest (List.getLast?_cons_cons ▸ hl)

/-- A property of the state that every step keeps exactly if it meets the condition, and that no later step
    restores, is a property of the last state. -/
theorem last_iff_guarded {P : σ → Prop} {C : σ → ℓ → Prop} {I : σ → Prop}
    (hinv : ∀ s l s', step s l = some s' → I s → I s')
    (hiff : ∀ s l s', step s l = some s' → I s → (P s' ↔ P s ∧ C s l)) :
    ∀ {ls : List ℓ} {s t : σ}, exec step s ls = some t → I s → (P t ↔ P s ∧ Guarded step C s ls) := by
  intro ls
  induction ls with
  | nil =>
    intro s t ht _
    obtain rfl : s = t := by simpa using ht
    exact ⟨fun hP => ⟨hP, trivial⟩, And.left⟩
  | cons l ls ih =>
    intro s t ht hI
    obtain ⟨s', hs, hrest⟩ := exec_cons_eq.mp ht
    rw [ih hrest (hinv s l s' hs hI), hiff s l s' hs hI, and_assoc]
    refine and_congr_right fun _ => ⟨fun h => .cons hs h.1 h.2, fun h => ⟨h.1, h.2 s' hs⟩⟩

/-! ## Counting steps -/

variable (step) in
/-- How many steps of the schedule are of the kind `p`. -/
def tally (p : σ → ℓ → Bool) : σ → List ℓ → Nat
  | _, [] => 0
  | s, l :: ls =>
    (if p s l then 1 else 0) +
      match step s l with
      | some s' => tally p s' ls
      | none => 0

/-- A potential that only steps of the kind `p` raise, by one, is bounded by their number. -/
theorem exec_tally {I : σ → Prop} {f : σ → Nat} {p : σ → ℓ → Bool}
    (hinv : ∀ s l s', step s l = some s' → I s → I s')
    (hstep : ∀ s l s', step s l = some s' → I s → f s' ≤ f s + if p s l then 1 else 0) :
    ∀ {ls : List ℓ} {s t : σ}, exec step s ls = some t → I s → f t ≤ f s + tally step p s ls := by
  intro ls
  induction ls with
  | nil =>
    intro s t ht _
    obtain rfl : s = t := by simpa using ht
    exact Nat.le_add_right ..
  | cons l ls ih =>
    intro s t ht hI
    obtain ⟨s', hs, hrest⟩ := exec_cons_eq.mp ht
    have hhead := hstep s l s' hs hI
    have htail := ih hrest (hinv s l s' hs hI)
    have htally : tally step p s (l :: ls) = (if p s l then 1 else 0) + tally step p s' ls := by
      rw [tally, hs]
    omega

/-! ## Finishing -/

variable (step) in
/-- Every schedule of moves of the kind `p` is finite, and as long as it has not reached `Q` there
    is another such move: whatever their order, they lead to `Q`. -/
def Finishes (p : ℓ → Prop) (Q : σ → Prop) (s : σ) : Prop :=
  ∃ n, ∀ ls t, (∀ l ∈ ls, p l) → exec step s ls = some t →
    ls.length ≤ n ∧ (Q t ∨ ∃ l, p l ∧ (step t l).isSome = true)

section

variable {p : ℓ → Prop} {Q I : σ → Prop} {μ : σ → Nat}

/-- Moves that lower a measure, and are possible until `Q`, lead to `Q`. -/
theorem finishes_of_measure
    (hdec : ∀ s l s', p l → step s l = some s' → I s → I s' ∧ μ s' < μ s)
    (hmore : ∀ s, I s → Q s ∨ ∃ l, p l ∧ (step s l).isSome = true) {s : σ} (hI : I s) :
    Finishes step p Q s := by
  have hall : ∀ (ls : List ℓ) (s t : σ), (∀ l ∈ ls, p l) → exec step s ls = some t → I s →
      ls.length ≤ μ s ∧ I t := by
    intro ls
    induction ls with
    | nil =>
      intro s t _ ht hI
      obtain rfl : s = t := by simpa using ht
      exact ⟨Nat.zero_le _, hI⟩
    | cons l ls ih =>
      intro s t hp ht hI
      obtain ⟨s', hs, hrest⟩ := exec_cons_eq.mp ht
      have hl : p l := hp l List.mem_cons_self
      obtain ⟨hI', hlt⟩ := hdec s l s' hl hs hI
      obtain ⟨hlen, hIt⟩ := ih s' t (fun x hx => hp x (List.mem_cons_of_mem _ hx)) hrest hI'
      refine ⟨?_, hIt⟩
      have hcons : (l :: ls).length = ls.length + 1 := rfl
      omega
  refine ⟨μ s, fun ls t hp ht => ?_⟩
  obtain ⟨hlen, hIt⟩ := hall ls s t hp ht hI
  exact ⟨hlen, hmore t hIt⟩

/-- A move that lowers a measure, possible until `Q`, makes a schedule that reaches `Q`. -/
theorem exists_exec_of_measure
    (hmore : ∀ s, I s → Q s ∨ ∃ l s', p l ∧ step s l = some s' ∧ I s' ∧ μ s' < μ s) {s : σ}
    (hI : I s) : ∃ ls t, (∀ l ∈ ls, p l) ∧ exec step s ls = some t ∧ Q t ∧ I t := by
  have hall : ∀ (n : Nat) (s : σ), μ s = n → I s →
      ∃ ls t, (∀ l ∈ ls, p l) ∧ exec step s ls = some t ∧ Q t ∧ I t := by
    intro n
    induction n using Nat.strongRecOn with
    | _ n ih =>
      intro s hn hI
      rcases hmore s hI with hQ | ⟨l, s', hl, hs, hI', hlt⟩
      · exact ⟨[], s, fun _ h => (nomatch h), rfl, hQ, hI⟩
      · obtain ⟨ls, t, hp, ht, hQ, hIt⟩ := ih (μ s') (by omega) s' rfl hI'
        refine ⟨l :: ls, t, ?_, exec_cons_eq.mpr ⟨s', hs, ht⟩, hQ, hIt⟩
        intro x hx
        rcases List.mem_cons.mp hx with rfl | hx
        · exact hl
        · exact hp x hx
  exact hall (μ s) s rfl hI

end

/-! ## Guard and effect -/

/-- A step function given by what enables a move and what the move does. -/
def guardedStep (enabled : σ → ℓ → Prop) [∀ s l, Decidable (enabled s l)] (effect : σ → ℓ → σ) :
    σ → ℓ → Option σ :=
  fun s l => if enabled s l then some (effect s l) else none

theorem guardedStep_eq_some {enabled : σ → ℓ → Prop} [∀ s l, Decidable (enabled s l)]
    {effect : σ → ℓ → σ} {s s' : σ} {l : ℓ} :
    guardedStep enabled effect s l = some s' ↔ enabled s l ∧ s' = effect s l := by
  rw [guardedStep]
  by_cases h : enabled s l
  · rw [if_pos h, Option.some.injEq]
    exact ⟨fun he => ⟨h, he.symm⟩, fun he => he.2.symm⟩
  · rw [if_neg h]
    exact ⟨fun he => absurd he (by simp), fun he => absurd he.1 h⟩

end Dtsys.Run
