/-
  EFFECTS that may fail — code that acts on a world, call by call, and may raise on the way.

  A raise does not undo what was done before it: `EStateM ε σ` hands on the state of the world whether a
  call returns or raises.

  1. **Outcome and world** — `outcome c s` is what the call answers, `left c s` the world it leaves.
  2. **Sequences** — the rules of `>>=`.
  3. **Reading** — what is read off a value (`MonadExcept.ofExcept`) or off the world (`required`) may be
     missing, and changes nothing.
  4. **Parts** — what is outside acts on a part of the world (`acting`).
  5. **Loops** — a `for` loop is a run (`Run.after`, `Run.Along`) of its rounds: it returns when every
     round returns, and else it stops behind the first round that raises (`forM_raises`).  A loop whose
     rounds read and then act is the loop of the actions for what is read before the first error, and
     then that error (`forM_read_act`).
-/
import TrainBdd.Lib.Python
import TrainBdd.Lib.Run

namespace TrainBdd.Effect

open Python Run

variable {ε σ α β : Type}

/-! ## Outcome and world -/

/-- What the call answers: a value, or an exception. -/
def outcome (c : EStateM ε σ α) (s : σ) : Except ε α :=
  match c s with
  | .ok a _ => .ok a
  | .error e _ => .error e

/-- The world the call leaves behind, whether it returns or raises. -/
def left (c : EStateM ε σ α) (s : σ) : σ :=
  match c s with
  | .ok _ s' => s'
  | .error _ s' => s'

theorem run_of_ok {c : EStateM ε σ α} {s : σ} {a : α} (h : outcome c s = .ok a) :
    c s = .ok a (left c s) := by
  unfold outcome at h
  unfold left
  cases hc : c s with
  | ok a' s' =>
    rw [hc] at h
    cases h
    rfl
  | error e s' =>
    rw [hc] at h
    nomatch h

theorem run_of_error {c : EStateM ε σ α} {s : σ} {e : ε} (h : outcome c s = .error e) :
    c s = .error e (left c s) := by
  unfold outcome at h
  unfold left
  cases hc : c s with
  | ok a s' =>
    rw [hc] at h
    nomatch h
  | error e' s' =>
    rw [hc] at h
    cases h
    rfl

theorem passes_outcome_iff {c : EStateM ε σ α} {s : σ} :
    Passes (outcome c s) ↔ ∃ a s', c s = .ok a s' := by
  constructor
  · rintro ⟨a, ha⟩
    exact ⟨a, _, run_of_ok ha⟩
  · rintro ⟨a, s', ha⟩
    exact ⟨a, by rw [outcome, ha]⟩

/-- Calls that run alike answer and leave the same. -/
theorem outcome_congr {c d : EStateM ε σ α} {s t : σ} (h : c s = d t) : outcome c s = outcome d t := by
  rw [outcome, h, outcome]

theorem left_congr {c d : EStateM ε σ α} {s t : σ} (h : c s = d t) : left c s = left d t := by
  rw [left, h, left]

theorem left_of_run {c : EStateM ε σ α} {s s' : σ} {a : α} (h : c s = .ok a s') : left c s = s' := by
  rw [left, h]

/-! ## Sequences -/

section Bind

variable {c : EStateM ε σ α} {f : α → EStateM ε σ β} {s : σ}

/-- The rest of the sequence runs in the world the first call left. -/
theorem bind_run {a : α} {t : σ} (h : c s = .ok a t) : (c >>= f) s = f a t := by
  show EStateM.bind c f s = _
  rw [EStateM.bind, h]

/-- After a raise nothing of the sequence runs. -/
theorem bind_raise {e : ε} {t : σ} (h : c s = .error e t) : (c >>= f) s = .error e t := by
  show EStateM.bind c f s = _
  rw [EStateM.bind, h]

/-- Sequences that begin alike run alike. -/
theorem bind_congr_run {d : EStateM ε σ α} {t : σ} (h : c s = d t) : (c >>= f) s = (d >>= f) t := by
  show EStateM.bind c f s = EStateM.bind d f t
  rw [EStateM.bind, h, EStateM.bind]

theorem bind_of_ok {a : α} (h : outcome c s = .ok a) : (c >>= f) s = f a (left c s) :=
  bind_run (run_of_ok h)

theorem bind_of_error {e : ε} (h : outcome c s = .error e) :
    (c >>= f) s = .error e (left c s) := bind_raise (run_of_error h)

theorem outcome_bind_ok {a : α} (h : outcome c s = .ok a) :
    outcome (c >>= f) s = outcome (f a) (left c s) := by
  rw [outcome, bind_of_ok h, outcome]

theorem left_bind_ok {a : α} (h : outcome c s = .ok a) :
    left (c >>= f) s = left (f a) (left c s) := by
  show (match (c >>= f) s with | .ok _ s' => s' | .error _ s' => s') = _
  rw [bind_of_ok h]
  rfl

theorem outcome_bind_error {e : ε} (h : outcome c s = .error e) :
    outcome (c >>= f) s = .error e := by
  rw [outcome, bind_of_error h]

theorem left_bind_error {e : ε} (h : outcome c s = .error e) : left (c >>= f) s = left c s := by
  rw [left, bind_of_error h]

/-- A sequence passes when its first call passes and the rest passes on its value and world. -/
theorem passes_bind_iff :
    Passes (outcome (c >>= f) s) ↔
      ∃ a, outcome c s = .ok a ∧ Passes (outcome (f a) (left c s)) := by
  cases hc : outcome c s with
  | ok a =>
    rw [outcome_bind_ok hc]
    constructor
    · intro h
      exact ⟨a, rfl, h⟩
    · rintro ⟨a', ha', h⟩
      cases ha'
      exact h
  | error e =>
    rw [outcome_bind_error hc]
    constructor
    · intro h
      exact absurd h (not_passes_error e)
    · rintro ⟨a, ha, -⟩
      cases ha

/-- A sequence that returns, taken apart. -/
theorem bind_eq_ok_iff {b : β} {t : σ} :
    (c >>= f) s = .ok b t ↔ ∃ a s', c s = .ok a s' ∧ f a s' = .ok b t := by
  show EStateM.bind c f s = _ ↔ _
  unfold EStateM.bind
  cases c s with
  | ok a s' =>
    constructor
    · intro h
      exact ⟨a, s', rfl, h⟩
    · rintro ⟨_, _, heq, h⟩
      cases heq
      exact h
  | error e s' =>
    constructor
    · intro h
      cases h
    · rintro ⟨_, _, heq, -⟩
      cases heq

end Bind

/-! ## Reading -/

section Reading

variable {s t : σ}

/-- What is read off a value returns it, or raises, where it stands. -/
theorem ofExcept_eq_ok_iff {r : Except ε α} {a : α} :
    (MonadExcept.ofExcept r : EStateM ε σ α) s = .ok a t ↔ r = .ok a ∧ s = t := by
  cases r with
  | ok a' =>
    show EStateM.Result.ok a' s = _ ↔ _
    simp
  | error e =>
    show EStateM.Result.error e s = _ ↔ _
    simp

theorem outcome_ofExcept (r : Except ε α) (s : σ) : outcome (MonadExcept.ofExcept r) s = r := by
  cases r with
  | ok a => rfl
  | error e => rfl

theorem left_ofExcept (r : Except ε α) (s : σ) :
    left (MonadExcept.ofExcept r : EStateM ε σ α) s = s := by
  cases r with
  | ok a => rfl
  | error e => rfl

/-- A part of the world that may not have been set. -/
def required (error : ε) (value : σ → Option α) : EStateM ε σ α := do
  match value (← get) with
  | some a => return a
  | none => throw error

theorem required_eq (error : ε) (value : σ → Option α) (s : σ) :
    required error value s =
      match value s with
      | some a => .ok a s
      | none => .error error s := by
  show (match value s with
    | some a => (pure a : EStateM ε σ α)
    | none => throw error) s = _
  cases value s with
  | some a => rfl
  | none => rfl

theorem required_eq_ok_iff {error : ε} {value : σ → Option α} {a : α} :
    required error value s = .ok a t ↔ value s = some a ∧ s = t := by
  rw [required_eq]
  cases value s with
  | some a' => simp
  | none => simp

variable {f : α → EStateM ε σ β} {b : β}

/-- The sequence goes on with what is there. -/
theorem bind_required {error : ε} {value : σ → Option α} {a : α} (h : value s = some a) :
    (required error value >>= f) s = f a s :=
  bind_run (required_eq_ok_iff.2 ⟨h, rfl⟩)

/-- It stops where something is missing. -/
theorem bind_required_none {error : ε} {value : σ → Option α} (h : value s = none) :
    (required error value >>= f) s = .error error s := by
  apply bind_raise
  rw [required_eq, h]

theorem bind_required_eq_ok_iff {error : ε} {value : σ → Option α} :
    (required error value >>= f) s = .ok b t ↔ ∃ a, value s = some a ∧ f a s = .ok b t := by
  rw [bind_eq_ok_iff]
  constructor
  · rintro ⟨a, _, ha, hf⟩
    obtain ⟨hvalue, rfl⟩ := required_eq_ok_iff.1 ha
    exact ⟨a, hvalue, hf⟩
  · rintro ⟨a, hvalue, hf⟩
    exact ⟨a, s, required_eq_ok_iff.2 ⟨hvalue, rfl⟩, hf⟩

theorem bind_ofExcept_eq_ok_iff {r : Except ε α} :
    ((MonadExcept.ofExcept r : EStateM ε σ α) >>= f) s = .ok b t ↔
      ∃ a, r = .ok a ∧ f a s = .ok b t := by
  rw [bind_eq_ok_iff]
  constructor
  · rintro ⟨a, _, ha, hf⟩
    obtain ⟨hr, rfl⟩ := ofExcept_eq_ok_iff.1 ha
    exact ⟨a, hr, hf⟩
  · rintro ⟨a, hr, hf⟩
    exact ⟨a, s, ofExcept_eq_ok_iff.2 ⟨hr, rfl⟩, hf⟩

end Reading

/-! ## Parts -/

section Part

variable {τ : Type} {part : σ → τ} {put : σ → τ → σ} {act : τ → Except ε α × τ} {s s' : σ}

/-- A call on a part of the world, which is changed whether the call returns or raises. -/
def acting (part : σ → τ) (put : σ → τ → σ) (act : τ → Except ε α × τ) : EStateM ε σ α := fun s =>
  match act (part s) with
  | (.ok a, t) => .ok a (put s t)
  | (.error e, t) => .error e (put s t)

theorem outcome_acting : outcome (acting part put act) s = (act (part s)).1 := by
  unfold outcome acting
  cases act (part s) with
  | mk r t => cases r <;> rfl

theorem left_acting : left (acting part put act) s = put s (act (part s)).2 := by
  unfold left acting
  cases act (part s) with
  | mk r t => cases r <;> rfl

theorem acting_eq_ok_iff {a : α} :
    acting part put act s = .ok a s' ↔ ∃ t, act (part s) = (.ok a, t) ∧ s' = put s t := by
  unfold acting
  cases act (part s) with
  | mk r t =>
    cases r with
    | error e => simp
    | ok b => simp [eq_comm]

end Part

/-! ## Loops -/

section Loop

variable (body : α → EStateM ε σ PUnit)

/-- The world after one round. -/
def oneRound (x : α) (s : σ) : σ := left (body x) s

/-- The round returns. -/
def Completes (s : σ) (x : α) : Prop := Passes (outcome (body x) s)

/-- A loop returns exactly when every round does. -/
theorem forM_passes_iff (xs : List α) (s : σ) :
    Passes (outcome (xs.forM body) s) ↔ Along (oneRound body) (Completes body) s xs := by
  induction xs generalizing s with
  | nil => exact iff_of_true (passes_ok _) trivial
  | cons x xs ih =>
    show Passes (outcome (body x >>= fun _ => xs.forM body) s) ↔ _ ∧ _
    rw [passes_bind_iff, ← ih]
    constructor
    · rintro ⟨u, hx, hxs⟩
      exact ⟨⟨u, hx⟩, hxs⟩
    · rintro ⟨⟨u, hx⟩, hxs⟩
      exact ⟨u, hx, hxs⟩

/-- The world after a loop that returns. -/
theorem left_forM {xs : List α} {s : σ} (h : Along (oneRound body) (Completes body) s xs) :
    left (xs.forM body) s = after (oneRound body) s xs := by
  induction xs generalizing s with
  | nil => rfl
  | cons x xs ih =>
    obtain ⟨⟨u, hx⟩, hxs⟩ := h
    show left (body x >>= fun _ => xs.forM body) s = _
    rw [left_bind_ok hx]
    exact ih hxs

/-- **A loop that raises** stops behind the first round that raises: the rounds before it are done,
    those after it never run. -/
theorem forM_raises {xs : List α} {s : σ} (h : ¬ Passes (outcome (xs.forM body) s)) :
    ∃ done failing rest, xs = done ++ failing :: rest ∧
      Along (oneRound body) (Completes body) s done ∧
      ¬ Completes body (after (oneRound body) s done) failing ∧
      xs.forM body s = body failing (after (oneRound body) s done) := by
  induction xs generalizing s with
  | nil => exact absurd (passes_ok _) h
  | cons x xs ih =>
    replace h : ¬ Passes (outcome (body x >>= fun _ => xs.forM body) s) := h
    show ∃ done failing rest, _ ∧ _ ∧ _ ∧ (body x >>= fun _ => xs.forM body) s = _
    cases hx : outcome (body x) s with
    | error e =>
      refine ⟨[], x, xs, rfl, trivial, ?_, ?_⟩
      · show ¬ Passes (outcome (body x) s)
        rw [hx]
        exact not_passes_error e
      · rw [bind_of_error hx]
        exact (run_of_error hx).symm
    | ok u =>
      rw [outcome_bind_ok hx] at h
      obtain ⟨done, failing, rest, hxs, hdone, hfailing, hrun⟩ := ih h
      refine ⟨x :: done, failing, rest, ?_, ⟨⟨u, hx⟩, hdone⟩, hfailing, ?_⟩
      · rw [hxs]
        rfl
      · rw [bind_of_ok hx]
        exact hrun

/-- A loop that reads each element before it acts on it has read them all when it returns. -/
theorem forM_of_read {read : α → Except ε β} {act : β → EStateM ε σ PUnit}
    (h : ∀ x s s', body x s = .ok ⟨⟩ s' → ∃ y, read x = .ok y ∧ act y s = .ok ⟨⟩ s') {xs : List α}
    {s s' : σ} (hrun : xs.forM body s = .ok ⟨⟩ s') :
    ∃ ys, xs.mapM read = .ok ys ∧ ys.forM act s = .ok ⟨⟩ s' := by
  induction xs generalizing s with
  | nil => exact ⟨[], rfl, hrun⟩
  | cons x xs ih =>
    obtain ⟨u, t, hx, hxs⟩ := bind_eq_ok_iff.1 hrun
    obtain ⟨y, hy, hact⟩ := h x s t hx
    obtain ⟨ys, hys, hrest⟩ := ih hxs
    refine ⟨y :: ys, ?_, bind_eq_ok_iff.2 ⟨u, t, hact, hrest⟩⟩
    rw [List.mapM_cons, hy, hys]
    rfl

/-- What is read before the first error. -/
def readings : List (Except ε β) → List β
  | .ok y :: rest => y :: readings rest
  | _ => []

/-- **A loop that reads and then acts** acts on all that is read before the first error, and raises that
    error if it gets there. -/
theorem forM_read_act {read : α → Except ε β} {act : β → EStateM ε σ PUnit} {Inv : σ → Prop}
    (hbody : ∀ x s, Inv s → body x s = (MonadExcept.ofExcept (read x) >>= act) s)
    (hact : ∀ y s s', Inv s → act y s = .ok ⟨⟩ s' → Inv s') {xs : List α} {s : σ} (hs : Inv s) :
    xs.forM body s =
      ((readings (xs.map read)).forM act >>= fun _ =>
        MonadExcept.ofExcept ((xs.mapM read).map fun _ => ⟨⟩)) s := by
  induction xs generalizing s with
  | nil => rfl
  | cons x xs ih =>
    show EStateM.bind (body x) (fun _ => xs.forM body) s = _
    rw [EStateM.bind, hbody x s hs, List.mapM_cons, List.map_cons]
    cases read x with
    | error e => rfl
    | ok y =>
      have hfirst : (MonadExcept.ofExcept (.ok y : Except ε β) >>= act) s = act y s := rfl
      have hlast : ((.ok y : Except ε β) >>= fun y => xs.mapM read >>= fun ys => pure (y :: ys)).map
          (fun _ => PUnit.unit) = (xs.mapM read).map fun _ => PUnit.unit := by
        cases xs.mapM read <;> rfl
      rw [hfirst, hlast]
      show _ = ((act y >>= fun _ => (readings (xs.map read)).forM act) >>= fun _ => _) s
      rw [bind_assoc]
      show _ = EStateM.bind (act y) _ s
      rw [EStateM.bind]
      cases hdone : act y s with
      | error e s' => rfl
      | ok u s' => exact ih (hact y s s' hs hdone)

end Loop

end TrainBdd.Effect
