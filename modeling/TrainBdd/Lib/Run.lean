/-
  RUNS of a deterministic machine: the state after a sequence of inputs, and what holds of every step
  on the way.

  1. **`after`** — the state a run ends in.
  2. **`Along`** — a condition on (state, input) pairs holds of every step of the run.
  3. **Rules** — one step lemma gives the run: an invariant that each admissible step keeps holds at
     the end (`invariant_after`) and in front of every step (`Along.with_invariant`), and two conditions
     that agree, always or under it, hold of the same runs (`Along.congr`, `Along.iff_of_invariant`).
  4. **Views** — a view of the states that follows every step of one machine by a step of another
     follows the run (`after_view`, `along_view_iff`).
  5. **Observers** — `noted` is what someone concludes who sees only a part of each state; an observer
     who can follow one step follows the run (`noted_eq`).
-/
import Mathlib.Data.List.Basic

namespace TrainBdd.Run

variable {σ ι : Type}

/-- The state after a run. -/
def after (step : ι → σ → σ) (s : σ) : List ι → σ
  | [] => s
  | i :: is => after step (step i s) is

/-- Every step of the run meets the condition, in the state it is taken from. -/
def Along (step : ι → σ → σ) (ok : σ → ι → Prop) (s : σ) : List ι → Prop
  | [] => True
  | i :: is => ok s i ∧ Along step ok (step i s) is

variable {step : ι → σ → σ} {ok good : σ → ι → Prop} {Inv : σ → Prop}

/-- **The rule of runs**: an invariant that every admissible step keeps holds after the run. -/
theorem invariant_after (hstep : ∀ s i, Inv s → ok s i → Inv (step i s)) {s : σ} {is : List ι}
    (hs : Inv s) (hok : Along step ok s is) : Inv (after step s is) := by
  induction is generalizing s with
  | nil => exact hs
  | cons i is ih => exact ih (hstep s i hs hok.1) hok.2

/-- Where the invariant makes two conditions on a step agree, and either keeps it, a run meets the one
    all along exactly when it meets the other. -/
theorem Along.iff_of_invariant (hstep : ∀ s i, Inv s → ok s i → Inv (step i s))
    (hgood : ∀ s i, Inv s → (good s i ↔ ok s i)) {s : σ} {is : List ι} (hs : Inv s) :
    Along step good s is ↔ Along step ok s is := by
  induction is generalizing s with
  | nil => exact Iff.rfl
  | cons i is ih =>
    constructor
    · rintro ⟨hi, his⟩
      have hok : ok s i := (hgood s i hs).1 hi
      exact ⟨hok, (ih (hstep s i hs hok)).1 his⟩
    · rintro ⟨hok, his⟩
      exact ⟨(hgood s i hs).2 hok, (ih (hstep s i hs hok)).2 his⟩

/-- Two conditions that hold of every step hold of it together. -/
theorem Along.and {s : σ} {is : List ι} (hok : Along step ok s is) (hgood : Along step good s is) :
    Along step (fun s i => ok s i ∧ good s i) s is := by
  induction is generalizing s with
  | nil => trivial
  | cons i is ih => exact ⟨⟨hok.1, hgood.1⟩, ih hok.2 hgood.2⟩

/-- An invariant that every admissible step keeps holds in front of every step. -/
theorem Along.with_invariant (hstep : ∀ s i, Inv s → ok s i → Inv (step i s)) {s : σ} {is : List ι}
    (hs : Inv s) (hok : Along step ok s is) : Along step (fun s i => Inv s ∧ ok s i) s is :=
  (Along.iff_of_invariant hstep (fun _ _ h => and_iff_right h) hs).2 hok

/-- Conditions that agree hold along the same runs. -/
theorem Along.congr (h : ∀ s i, good s i ↔ ok s i) (s : σ) (is : List ι) :
    Along step good s is ↔ Along step ok s is := by
  induction is generalizing s with
  | nil => exact Iff.rfl
  | cons i is ih => exact and_congr (h s i) (ih (step i s))

/-! ## Views -/

section View

variable {τ : Type} {step' : ι → τ → τ} {ok' : τ → ι → Prop} {view : σ → τ}

/-- What is seen of the end of a run is where the other machine ends. -/
theorem after_view (hstep : ∀ s i, view (step i s) = step' i (view s)) (s : σ) (is : List ι) :
    view (after step s is) = after step' (view s) is := by
  induction is generalizing s with
  | nil => rfl
  | cons i is ih =>
    show view (after step (step i s) is) = after step' (step' i (view s)) is
    rw [ih, hstep]

/-- A condition that can be seen holds along the run of the other machine. -/
theorem along_view_iff (hstep : ∀ s i, view (step i s) = step' i (view s))
    (hok : ∀ s i, ok s i ↔ ok' (view s) i) (s : σ) (is : List ι) :
    Along step ok s is ↔ Along step' ok' (view s) is := by
  induction is generalizing s with
  | nil => exact Iff.rfl
  | cons i is ih =>
    show ok s i ∧ Along step ok (step i s) is ↔ ok' (view s) i ∧ Along step' ok' (step' i (view s)) is
    rw [hok, ih, hstep]

end View

/-! ## Observers -/

section Observer

variable {ω κ : Type} {seen : σ → ω} {note : ι → ω → κ → κ} {view : σ → κ}

/-- What an observer concludes from a run who begins with `k` and sees `seen` of every new state. -/
def noted (step : ι → σ → σ) (seen : σ → ω) (note : ι → ω → κ → κ) (s : σ) (k : κ) : List ι → κ
  | [] => k
  | i :: is => noted step seen note (step i s) (note i (seen (step i s)) k) is

/-- **The rule of observers**: a note that keeps up with each admissible step keeps up with the run. -/
theorem noted_eq (hstep : ∀ s i, ok s i → note i (seen (step i s)) (view s) = view (step i s)) {s : σ}
    {is : List ι} (hok : Along step ok s is) :
    noted step seen note s (view s) is = view (after step s is) := by
  induction is generalizing s with
  | nil => rfl
  | cons i is ih =>
    show noted step seen note (step i s) (note i (seen (step i s)) (view s)) is = _
    rw [hstep s i hok.1]
    exact ih hok.2

end Observer

end TrainBdd.Run
