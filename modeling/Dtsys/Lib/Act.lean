/-
  COMPUTATIONS THAT RAISE WITHOUT UNDOING.

  `Act σ ε α` is a computation over a state `σ` that either returns an `α` or raises an `ε`, and
  that keeps the state it has reached in BOTH cases.  That is how an imperative language with
  exceptions behaves: whatever was written before the `raise` stays written unless somebody undoes
  it explicitly.  (`ExceptT ε (StateM σ)` has the same carrier; spelling it out keeps every
  equation below true by `rfl`.)

  Four layers:

  1. the monad, `raise`/`attempt` (Python's `try … except`), the loop `forEach`;
  2. evaluation equations, so that a proof runs a computation without unfolding the monad;
  3. `Frame` and `Within`: a frame is a reflexive and transitive relation between states ("nothing
     outside X has changed"), and `Within F x` says that every outcome of `x`, returned or raised,
     stays inside `F`.  The rules follow the syntax of `x`, so a frame property of a long handler
     is one rule per statement;
  4. `RaisesOnly P x` — which exceptions `x` may raise, with rules of the same kind.
-/
import Mathlib.Logic.Basic

namespace Dtsys

/-! ## The monad -/

/-- A computation over `σ` that returns an `α` or raises an `ε`, keeping its state either way. -/
def Act (σ ε α : Type) : Type := σ → Except ε α × σ

namespace Act

variable {σ ε α β : Type}

/-- Sequencing: a raised exception skips the continuation and keeps the state it was raised in. -/
protected def bind (x : Act σ ε α) (f : α → Act σ ε β) : Act σ ε β := fun s =>
  match x s with
  | (.ok a, s') => f a s'
  | (.error e, s') => (.error e, s')

instance : Monad (Act σ ε) where
  pure a := fun s => (.ok a, s)
  bind := Act.bind

/-- Raise an exception in the current state. -/
def raise (e : ε) : Act σ ε α := fun s => (.error e, s)

/-- Read the state. -/
def read (f : σ → α) : Act σ ε α := fun s => (.ok (f s), s)

/-- Change the state. -/
def modify (f : σ → σ) : Act σ ε Unit := fun s => (.ok (), f s)

/-- Run a pure fallible step. -/
def ofExcept (x : Except ε α) : Act σ ε α := fun s => (x, s)

/-- `try x except: h` — the handler starts in the state the exception was raised in. -/
def attempt (x : Act σ ε α) (h : ε → Act σ ε α) : Act σ ε α := fun s =>
  match x s with
  | (.ok a, s') => (.ok a, s')
  | (.error e, s') => h e s'

/-- `for x in xs: body` — the first exception ends the loop. -/
def forEach : List α → (α → Act σ ε Unit) → Act σ ε Unit
  | [], _ => pure ()
  | a :: as, f => f a >>= fun _ => forEach as f

/-! ## Evaluation equations -/

@[simp] theorem pure_run (a : α) (s : σ) : (pure a : Act σ ε α) s = (.ok a, s) := rfl

@[simp] theorem raise_run (e : ε) (s : σ) : (raise e : Act σ ε α) s = (.error e, s) := rfl

@[simp] theorem read_run (f : σ → α) (s : σ) : (read f : Act σ ε α) s = (.ok (f s), s) := rfl

@[simp] theorem modify_run (f : σ → σ) (s : σ) : (modify f : Act σ ε Unit) s = (.ok (), f s) := rfl

@[simp] theorem ofExcept_run (x : Except ε α) (s : σ) : (ofExcept x : Act σ ε α) s = (x, s) := rfl

theorem bind_run (x : Act σ ε α) (f : α → Act σ ε β) (s : σ) :
    (x >>= f) s = match x s with
      | (.ok a, s') => f a s'
      | (.error e, s') => (.error e, s') := rfl

/-- A computation that returns is followed by the other one. -/
theorem bind_of_ok {x : Act σ ε α} {f : α → Act σ ε β} {s s' : σ} {a : α}
    (h : x s = (.ok a, s')) : (x >>= f) s = f a s' := by
  rw [bind_run, h]

theorem bind_of_error {x : Act σ ε α} {f : α → Act σ ε β} {s s' : σ} {e : ε}
    (h : x s = (.error e, s')) : (x >>= f) s = (.error e, s') := by
  rw [bind_run, h]

/-- A sequence that returned: both parts did. -/
theorem ok_of_bind {x : Act σ ε α} {f : α → Act σ ε β} {s t : σ} {b : β}
    (h : (x >>= f) s = (.ok b, t)) : ∃ a u, x s = (.ok a, u) ∧ f a u = (.ok b, t) := by
  rw [bind_run] at h
  rcases hx : x s with ⟨e | a, u⟩
  · rw [hx] at h
    cases h
  · rw [hx] at h
    exact ⟨a, u, rfl, h⟩

/-- A value that is there, or an exception. -/
theorem ok_of_ofExcept {x : Except ε α} {f : α → Act σ ε β} {s t : σ} {b : β}
    (h : (ofExcept x >>= f) s = (.ok b, t)) : ∃ a, x = .ok a ∧ f a s = (.ok b, t) := by
  cases x with
  | error e => cases h
  | ok a => exact ⟨a, rfl, h⟩

@[simp] theorem read_bind (g : σ → α) (f : α → Act σ ε β) (s : σ) :
    (read g >>= f) s = f (g s) s := rfl

@[simp] theorem modify_bind (g : σ → σ) (f : Unit → Act σ ε β) (s : σ) :
    (modify g >>= f) s = f () (g s) := rfl

@[simp] theorem pure_bind_run (a : α) (f : α → Act σ ε β) (s : σ) :
    ((pure a : Act σ ε α) >>= f) s = f a s := rfl

@[simp] theorem raise_bind (e : ε) (f : α → Act σ ε β) (s : σ) :
    ((raise e : Act σ ε α) >>= f) s = (.error e, s) := rfl

@[simp] theorem ofExcept_ok_bind (a : α) (f : α → Act σ ε β) (s : σ) :
    ((ofExcept (.ok a) : Act σ ε α) >>= f) s = f a s := rfl

@[simp] theorem ofExcept_error_bind (e : ε) (f : α → Act σ ε β) (s : σ) :
    ((ofExcept (.error e) : Act σ ε α) >>= f) s = (.error e, s) := rfl

theorem bind_assoc_run {γ : Type} (x : Act σ ε α) (f : α → Act σ ε β) (g : β → Act σ ε γ) (s : σ) :
    (x >>= f >>= g) s = (x >>= fun a => f a >>= g) s := by
  rw [bind_run, bind_run, bind_run]
  rcases x s with ⟨_ | a, s'⟩
  · rfl
  · exact (bind_run (f a) g s').symm

/-- What follows a computation matters only where that returns. -/
theorem bind_congr_run {x : Act σ ε α} {f g : α → Act σ ε β} {s : σ}
    (h : ∀ a s', x s = (.ok a, s') → f a s' = g a s') : (x >>= f) s = (x >>= g) s := by
  rw [bind_run, bind_run]
  rcases hx : x s with ⟨e | a, s'⟩
  · rfl
  · exact h a s' hx

/-- A computation that returns is not handled. -/
theorem attempt_of_ok {x : Act σ ε α} {h : ε → Act σ ε α} {s s' : σ} {a : α}
    (hx : x s = (.ok a, s')) : attempt x h s = (.ok a, s') := by
  rw [attempt, hx]

/-- One that raises is, in the state it has come to. -/
theorem attempt_of_error {x : Act σ ε α} {h : ε → Act σ ε α} {s s' : σ} {e : ε}
    (hx : x s = (.error e, s')) : attempt x h s = h e s' := by
  rw [attempt, hx]

@[simp] theorem forEach_nil (f : α → Act σ ε Unit) (s : σ) :
    forEach [] f s = (.ok (), s) := rfl

/-- The first element, and then the others. -/
theorem forEach_cons (a : α) (as : List α) (f : α → Act σ ε Unit) (s : σ) :
    forEach (a :: as) f s = (f a >>= fun _ => forEach as f) s := rfl

/-! ## Frames -/

/-- What a computation is allowed to do to its state: a reflexive and transitive relation. -/
structure Frame (σ : Type) where
  rel : σ → σ → Prop
  refl : ∀ s, rel s s
  trans : ∀ {s t u}, rel s t → rel t u → rel s u

/-- Every outcome of `x`, returned or raised, stays inside the frame. -/
def Within (F : Frame σ) (x : Act σ ε α) : Prop := ∀ s, F.rel s (x s).2

namespace Within

variable {F : Frame σ}

theorem pure (a : α) : Within F (Pure.pure a : Act σ ε α) := fun s => F.refl s

theorem raise (e : ε) : Within F (Act.raise e : Act σ ε α) := fun s => F.refl s

theorem read (f : σ → α) : Within F (Act.read f : Act σ ε α) := fun s => F.refl s

theorem ofExcept (x : Except ε α) : Within F (Act.ofExcept x : Act σ ε α) := fun s => F.refl s

/-- A change that stays within the frame. -/
theorem modify {f : σ → σ} (h : ∀ s, F.rel s (f s)) : Within F (Act.modify f : Act σ ε Unit) := h

theorem bind {x : Act σ ε α} {f : α → Act σ ε β} (hx : Within F x) (hf : ∀ a, Within F (f a)) :
    Within F (x >>= f) := by
  intro s
  have h := hx s
  rw [bind_run]
  rcases hxs : x s with ⟨_ | a, s'⟩
  · rwa [hxs] at h
  · rw [hxs] at h
    exact F.trans h (hf a s')

theorem ite {c : Prop} [Decidable c] {x y : Act σ ε α} (hx : Within F x) (hy : Within F y) :
    Within F (if c then x else y) := by
  split
  · exact hx
  · exact hy

theorem attempt {x : Act σ ε α} {h : ε → Act σ ε α} (hx : Within F x) (hh : ∀ e, Within F (h e)) :
    Within F (Act.attempt x h) := by
  intro s
  have hs := hx s
  rw [Act.attempt]
  rcases hxs : x s with ⟨e | a, s'⟩
  · rw [hxs] at hs
    exact F.trans hs (hh e s')
  · rwa [hxs] at hs

/-- The loop rule: a body inside the frame keeps the whole loop inside it. -/
theorem forEach {f : α → Act σ ε Unit} (hf : ∀ a, Within F (f a)) :
    ∀ as : List α, Within F (Act.forEach as f)
  | [] => Within.pure ()
  | a :: as => Within.bind (hf a) (fun _ => Within.forEach hf as)

end Within

/-! ## Exceptions -/

/-- Every exception that `x` raises, in whatever state, is one of `P`. -/
def RaisesOnly (P : ε → Prop) (x : Act σ ε α) : Prop := ∀ s e, (x s).1 = .error e → P e

namespace RaisesOnly

variable {P : ε → Prop}

theorem pure (a : α) : RaisesOnly P (Pure.pure a : Act σ ε α) := fun _ _ h => by cases h

theorem raise {e : ε} (h : P e) : RaisesOnly P (Act.raise e : Act σ ε α) := by
  intro s e' he
  obtain rfl : e = e' := Except.error.inj he
  exact h

theorem read (f : σ → α) : RaisesOnly P (Act.read f : Act σ ε α) := fun _ _ h => by cases h

theorem modify (f : σ → σ) : RaisesOnly P (Act.modify f : Act σ ε Unit) := fun _ _ h => by cases h

/-- A pure step that returns. -/
theorem ofExcept {x : Except ε α} {a : α} (hx : x = .ok a) :
    RaisesOnly P (Act.ofExcept x : Act σ ε α) := by
  intro s e he
  rw [hx] at he
  cases he

/-- Neither of two computations raises another exception. -/
theorem bind {x : Act σ ε α} {f : α → Act σ ε β} (hx : RaisesOnly P x)
    (hf : ∀ a, RaisesOnly P (f a)) : RaisesOnly P (x >>= f) := by
  intro s e he
  rw [bind_run] at he
  rcases hxs : x s with ⟨e' | a, s'⟩
  · rw [hxs] at he
    obtain rfl : e' = e := Except.error.inj he
    exact hx s e' (by rw [hxs])
  · rw [hxs] at he
    exact hf a s' e he

/-- After a pure step that returns, its value is known. -/
theorem ofExcept_bind {x : Except ε α} {a : α} {f : α → Act σ ε β} (hx : x = .ok a)
    (hf : RaisesOnly P (f a)) : RaisesOnly P (Act.ofExcept x >>= f) := by
  rw [hx]
  exact hf

theorem ite {c : Prop} [Decidable c] {x y : Act σ ε α} (hx : RaisesOnly P x)
    (hy : RaisesOnly P y) : RaisesOnly P (if c then x else y) := by
  split
  · exact hx
  · exact hy

/-- The loop rule. -/
theorem forEach {f : α → Act σ ε Unit} : ∀ {as : List α}, (∀ a ∈ as, RaisesOnly P (f a)) →
    RaisesOnly P (Act.forEach as f)
  | [], _ => RaisesOnly.pure ()
  | a :: _, h => RaisesOnly.bind (h a List.mem_cons_self) fun _ =>
      RaisesOnly.forEach fun b hb => h b (List.mem_cons_of_mem _ hb)

end RaisesOnly

end Act

/-! ## Without a state -/

section

variable {ε α β : Type}

theorem ok_of_except_bind {x : Except ε α} {f : α → Except ε β} {b : β} (h : (x >>= f) = .ok b) :
    ∃ a, x = .ok a ∧ f a = .ok b := by
  cases x with
  | error e => cases h
  | ok a => exact ⟨a, rfl, h⟩

/-- The guard has let it through. -/
theorem ok_of_guard {c : Prop} [Decidable c] {e : ε} {x : Except ε α} {a : α}
    (h : (if c then .error e else x) = .ok a) : ¬ c ∧ x = .ok a := by
  by_cases hc : c
  · rw [if_pos hc] at h
    cases h
  · rw [if_neg hc] at h
    exact ⟨hc, h⟩

/-- What follows a computation matters only where that returns. -/
theorem bind_congr_ok {x : Except ε α} {f g : α → Except ε β} (h : ∀ a, x = .ok a → f a = g a) :
    (x >>= f) = (x >>= g) := by
  cases x with
  | error e => rfl
  | ok a => exact h a rfl

end

end Dtsys
