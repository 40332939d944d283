/-
  STORES of named entries, and machines that remove them one by one.

  A store is a family of partial maps: an area `z` holds an entry of type `δ` under some of the keys.

  1. **Removal** — `remove` takes one key out of every area, `without` a list of keys.
  2. **Removing machines** — a machine refines removal on some keys when a step on one of them that the
     store has removes exactly that key.  Such a machine gets through a list of these keys just when the
     store has them all and none is repeated (`along_has_iff`), and then the list is what is gone
     (`store_after`).
-/
import TrainBdd.Lib.Run
import Mathlib.Data.List.Nodup

namespace TrainBdd

open Run

/-- Areas `ζ`, keys `κ`, entries `δ`. -/
def Store (ζ κ δ : Type) := ζ → κ → Option δ

namespace Store

variable {ζ κ δ σ : Type} [DecidableEq κ]

/-! ## Removal -/

/-- Some area has an entry under the key. -/
def Has (store : Store ζ κ δ) (k : κ) : Prop := ∃ z, store z k ≠ none

/-- The store without one key. -/
def remove (k : κ) (store : Store ζ κ δ) : Store ζ κ δ :=
  fun z k' => if k' = k then none else store z k'

/-- The store without a list of keys. -/
def without (store : Store ζ κ δ) (ks : List κ) : Store ζ κ δ :=
  fun z k => if k ∈ ks then none else store z k

@[simp] theorem without_nil (store : Store ζ κ δ) : store.without [] = store := by
  funext z k
  exact if_neg List.not_mem_nil

theorem without_cons (store : Store ζ κ δ) (k : κ) (ks : List κ) :
    store.without (k :: ks) = (store.remove k).without ks := by
  funext z k'
  show (if k' ∈ k :: ks then none else store z k') =
    if k' ∈ ks then none else if k' = k then none else store z k'
  by_cases hk : k' = k
  · simp [hk]
  · simp [hk]

theorem remove_of_ne (store : Store ζ κ δ) {k k' : κ} (h : k' ≠ k) (z : ζ) :
    store.remove k z k' = store z k' := if_neg h

/-- What is left after a removal is what had another name. -/
theorem has_remove_iff (store : Store ζ κ δ) (k k' : κ) :
    (store.remove k).Has k' ↔ k' ≠ k ∧ store.Has k' := by
  constructor
  · rintro ⟨z, hz⟩
    have hne : k' ≠ k := by
      intro hk
      exact hz (if_pos hk)
    rw [remove_of_ne store hne] at hz
    exact ⟨hne, z, hz⟩
  · rintro ⟨hne, z, hz⟩
    refine ⟨z, ?_⟩
    rw [remove_of_ne store hne]
    exact hz

/-- Nothing is left of a store without all its keys. -/
theorem without_eq_none {store : Store ζ κ δ} {ks : List κ} (h : ∀ k, store.Has k → k ∈ ks) (z : ζ)
    (k : κ) : store.without ks z k = none := by
  show (if k ∈ ks then none else store z k) = none
  by_cases hk : k ∈ ks
  · exact if_pos hk
  · rw [if_neg hk]
    by_contra hz
    exact hk (h k ⟨z, hz⟩)

/-! ## Removing machines -/

section Machine

variable {step : κ → σ → σ} {view : σ → Store ζ κ δ} {carried : κ → Prop}

/-- A step on a carried key that the store has removes exactly that key. -/
def Removes (carried : κ → Prop) (step : κ → σ → σ) (view : σ → Store ζ κ δ) : Prop :=
  ∀ s k, carried k → (view s).Has k → view (step k s) = (view s).remove k

/-- **A removing machine gets through** the carried keys that the store has, each once. -/
theorem along_has_iff (hstep : Removes carried step view) (s : σ) {ks : List κ}
    (hks : ∀ k ∈ ks, carried k) :
    Along step (fun s k => (view s).Has k) s ks ↔ (∀ k ∈ ks, (view s).Has k) ∧ ks.Nodup := by
  induction ks generalizing s with
  | nil => exact iff_of_true trivial ⟨by simp, List.nodup_nil⟩
  | cons k ks ih =>
    rw [List.forall_mem_cons] at hks
    show (view s).Has k ∧ Along _ _ (step k s) ks ↔ _
    rw [ih _ hks.2, List.forall_mem_cons, List.nodup_cons, and_assoc]
    refine and_congr_right fun hk => ?_
    simp only [hstep s k hks.1 hk, has_remove_iff]
    -- the keys that the store still has are those that differ from `k`
    constructor
    · rintro ⟨hrest, hnodup⟩
      refine ⟨fun k' hk' => (hrest k' hk').2, ?_, hnodup⟩
      intro hmem
      exact (hrest k hmem).1 rfl
    · rintro ⟨hrest, hfresh, hnodup⟩
      refine ⟨fun k' hk' => ⟨?_, hrest k' hk'⟩, hnodup⟩
      intro heq
      exact hfresh (heq ▸ hk')

/-- The store after a run over keys that it has. -/
theorem store_after (hstep : Removes carried step view) {s : σ} {ks : List κ}
    (hks : ∀ k ∈ ks, carried k) (h : Along step (fun s k => (view s).Has k) s ks) :
    view (after step s ks) = (view s).without ks := by
  induction ks generalizing s with
  | nil => exact (without_nil _).symm
  | cons k ks ih =>
    rw [List.forall_mem_cons] at hks
    show view (after step (step k s) ks) = _
    rw [ih hks.2 h.2, hstep s k hks.1 h.1, without_cons]

end Machine

end Store

end TrainBdd
