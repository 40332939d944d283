/-
  The fragment of PYTHON's semantics that the checks of a test harness lean on, as a small library.

  1. **Truth testing** — `Truthy`: `if not xs` asks an object for its truth value, which for a
     container is "non-empty", for `None` is false and for a plain object is true.

  2. **Exceptions** — a function that may raise is an `Except ε`; `Raises` and `Passes` are its two
     outcomes.  A `for` loop over a list is `forM`: `forM_passes_iff` says when it returns, and
     `forM_eq_error_iff` where it stops and with what.

  3. **`for … else`** — `forElse`: a `break` skips the `else` branch.  `forElse_eq_find?` is the rule
     for the search loop ("the first match is examined, no match runs the `else`").

  4. **Generators** — `Generator ε α` is what iterating WOULD do.  Calling a generator function only
     builds the value; `Generator.tuple` runs it.

  5. **Sets** — a `set` object has a fixed iteration order, but which one depends on the hash seed.
     `PySet` is one set object with its order; `SetBuilder` is an arbitrary interpretation of
     `set(iterable)`, so a theorem over it holds for every seed.
-/
import Mathlib.Data.List.Nodup
import Mathlib.Data.List.Dedup

namespace TrainBdd.Python

variable {ε α β : Type}

/-! ## Truth testing -/

/-- Python's truth value of an object, `bool(x)`. -/
class Truthy (α : Type) where
  truthy : α → Bool

export Truthy (truthy)

instance : Truthy (List α) := ⟨fun xs => !xs.isEmpty⟩
instance : Truthy String := ⟨fun s => !s.isEmpty⟩
/-- An optional attribute: `None` is false, a value has its own truth value. -/
instance [Truthy α] : Truthy (Option α) := ⟨fun o => o.elim false truthy⟩

@[simp] theorem truthy_none [Truthy α] : truthy (none : Option α) = false := rfl
@[simp] theorem truthy_some [Truthy α] (a : α) : truthy (some a) = truthy a := rfl
@[simp] theorem truthy_nil : truthy ([] : List α) = false := rfl
@[simp] theorem truthy_cons (a : α) (as : List α) : truthy (a :: as) = true := rfl

/-- An object whose class defines `__len__` and no `__bool__`: it is true when it is not empty. -/
def truthyByLen (len : Nat) : Bool := len != 0

theorem truthyByLen_iff (len : Nat) : truthyByLen len = true ↔ len ≠ 0 := bne_iff_ne

/-- `xs or []`: the elements of an optional list. -/
def items (xs : Option (List α)) : List α := xs.getD []

@[simp] theorem items_none : items (none : Option (List α)) = [] := rfl
@[simp] theorem items_some (xs : List α) : items (some xs) = xs := rfl

/-- An optional list is truthy exactly when it has an element. -/
theorem truthy_list_iff (xs : Option (List α)) : truthy xs = true ↔ items xs ≠ [] := by
  match xs with
  | none => simp
  | some [] => simp
  | some (a :: as) => simp

/-! ## Exceptions -/

/-- The call returns. -/
def Passes (c : Except ε α) : Prop := ∃ a, c = .ok a

/-- The call raises. -/
def Raises (c : Except ε α) : Prop := ∃ e, c = .error e

instance (c : Except ε α) : Decidable (Passes c) :=
  match c with
  | .ok a => isTrue ⟨a, rfl⟩
  | .error _ => isFalse (fun ⟨_, h⟩ => nomatch h)

instance (c : Except ε α) : Decidable (Raises c) :=
  match c with
  | .ok _ => isFalse (fun ⟨_, h⟩ => nomatch h)
  | .error e => isTrue ⟨e, rfl⟩

@[simp] theorem passes_ok (a : α) : Passes (.ok a : Except ε α) := ⟨a, rfl⟩
@[simp] theorem passes_pure (a : α) : Passes (pure a : Except ε α) := ⟨a, rfl⟩
@[simp] theorem not_passes_error (e : ε) : ¬ Passes (.error e : Except ε α) := fun ⟨_, h⟩ => nomatch h
@[simp] theorem not_passes_throw (e : ε) : ¬ Passes (throw e : Except ε α) := fun ⟨_, h⟩ => nomatch h

/-- There is no third outcome. -/
theorem raises_iff_not_passes (c : Except ε α) : Raises c ↔ ¬ Passes c := by
  cases c with
  | ok a => exact ⟨fun ⟨_, h⟩ => (nomatch h), fun h => absurd (passes_ok a) h⟩
  | error e => exact ⟨fun _ => not_passes_error e, fun _ => ⟨e, rfl⟩⟩

/-- A sequence passes when its first call passes and the rest passes on its value. -/
theorem bind_passes_iff (c : Except ε α) (f : α → Except ε β) :
    Passes (c >>= f) ↔ ∃ a, c = .ok a ∧ Passes (f a) := by
  cases c with
  | ok a => exact ⟨fun h => ⟨a, rfl, h⟩, fun ⟨_, h, hf⟩ => by cases h; exact hf⟩
  | error e => exact ⟨fun ⟨_, h⟩ => (nomatch h), fun ⟨_, h, _⟩ => (nomatch h)⟩

/-- `if p: raise e` followed by the rest. -/
@[simp] theorem guard_passes_iff (p : Prop) [Decidable p] (e : ε) (c : Except ε α) :
    Passes (if p then throw e else c) ↔ ¬ p ∧ Passes c := by
  by_cases h : p
  · simp [h]
  · simp [h]

/-- What `if p: raise e` raises. -/
theorem guard_eq_error_iff (p : Prop) [Decidable p] (e e' : ε) (a : α) :
    (if p then throw e else pure a : Except ε α) = .error e' ↔ p ∧ e' = e := by
  by_cases h : p
  · rw [if_pos h]
    exact ⟨fun he => ⟨h, (Except.error.inj he).symm⟩, fun he => congrArg Except.error he.2.symm⟩
  · rw [if_neg h]
    exact ⟨fun he => (by cases he), fun he => absurd he.1 h⟩

/-- **The rule of the `for` loop**: it returns when its body returns on every element. -/
@[simp] theorem forM_passes_iff (xs : List α) (body : α → Except ε PUnit) :
    Passes (forM xs body) ↔ ∀ x ∈ xs, Passes (body x) := by
  induction xs with
  | nil => simp
  | cons x xs ih =>
    rw [List.forM_cons, bind_passes_iff, List.forall_mem_cons, ← ih]
    constructor
    · rintro ⟨u, hx, hxs⟩
      exact ⟨⟨u, hx⟩, hxs⟩
    · rintro ⟨⟨u, hx⟩, hxs⟩
      exact ⟨u, hx, hxs⟩

/-- The body raises `e` at `x`, and at none of the elements before it. -/
def RaisesFirst (body : α → Except ε β) (xs : List α) (x : α) (e : ε) : Prop :=
  ∃ done rest, xs = done ++ x :: rest ∧ (∀ y ∈ done, Passes (body y)) ∧ body x = .error e

theorem RaisesFirst.mem {body : α → Except ε β} {xs : List α} {x : α} {e : ε}
    (h : RaisesFirst body xs x e) : x ∈ xs := by
  obtain ⟨done, rest, rfl, -, -⟩ := h
  exact List.mem_append_right done List.mem_cons_self

/-- The first raise is at the front, or behind an element the body returns on. -/
theorem exists_raisesFirst_cons_iff {body : α → Except ε β} {x : α} {xs : List α} {e : ε} :
    (∃ y, RaisesFirst body (x :: xs) y e) ↔
      body x = .error e ∨ (Passes (body x) ∧ ∃ y, RaisesFirst body xs y e) := by
  constructor
  · rintro ⟨y, done, rest, hxs, hdone, hy⟩
    cases done with
    | nil =>
      cases hxs
      exact Or.inl hy
    | cons z done =>
      cases hxs
      rw [List.forall_mem_cons] at hdone
      exact Or.inr ⟨hdone.1, y, done, rest, rfl, hdone.2, hy⟩
  · rintro (hx | ⟨hx, y, done, rest, rfl, hdone, hy⟩)
    · exact ⟨x, [], xs, rfl, by simp, hx⟩
    · exact ⟨y, x :: done, rest, rfl, List.forall_mem_cons.2 ⟨hx, hdone⟩, hy⟩

/-- When every raise is `e`, the loop raises `e` as soon as some element raises. -/
theorem exists_raisesFirst_iff_exists_mem {body : α → Except ε β} {p : α → Prop} {e : ε}
    (hbody : ∀ x e', body x = .error e' ↔ p x ∧ e' = e) {xs : List α} {e' : ε} :
    (∃ x, RaisesFirst body xs x e') ↔ (∃ x ∈ xs, p x) ∧ e' = e := by
  induction xs with
  | nil =>
    refine iff_of_false (fun ⟨x, h⟩ => ?_) (by simp)
    cases h.mem
  | cons x xs ih =>
    rw [exists_raisesFirst_cons_iff, ih, hbody]
    have hpasses : Passes (body x) ↔ ¬ p x := by
      rw [← not_iff_not, ← raises_iff_not_passes, not_not]
      exact ⟨fun ⟨e', h⟩ => ((hbody x e').1 h).1, fun h => ⟨e, (hbody x e).2 ⟨h, rfl⟩⟩⟩
    rw [hpasses]
    by_cases hx : p x
    · simp [hx]
    · simp [hx]

theorem bind_eq_error_iff {c : Except ε α} {f : α → Except ε β} {e : ε} :
    (c >>= f) = .error e ↔ c = .error e ∨ ∃ a, c = .ok a ∧ f a = .error e := by
  cases c with
  | ok a =>
    refine ⟨fun h => Or.inr ⟨a, rfl, h⟩, ?_⟩
    rintro (h | ⟨_, h, hf⟩)
    · cases h
    · cases h
      exact hf
  | error e' =>
    show (Except.error e' : Except ε β) = .error e ↔ _
    refine ⟨fun h => (by cases h; exact Or.inl rfl), ?_⟩
    rintro (h | ⟨_, h, -⟩)
    · cases h
      rfl
    · cases h

/-- **Where a `for` loop stops**: it raises what its body raises first. -/
theorem forM_eq_error_iff {xs : List α} {body : α → Except ε PUnit} {e : ε} :
    forM xs body = .error e ↔ ∃ x, RaisesFirst body xs x e := by
  induction xs with
  | nil =>
    refine ⟨fun h => (by cases h), ?_⟩
    rintro ⟨x, h⟩
    cases h.mem
  | cons x xs ih =>
    rw [exists_raisesFirst_cons_iff, ← ih, List.forM_cons, bind_eq_error_iff]
    refine or_congr_right ?_
    constructor
    · rintro ⟨u, hx, hxs⟩
      exact ⟨⟨u, hx⟩, hxs⟩
    · rintro ⟨⟨u, hx⟩, hxs⟩
      exact ⟨u, hx, hxs⟩

/-! ## `for … else` -/

/-- How one round of a loop body ends: go on with the next element, or `break`. -/
inductive Flow
  | next
  | brk
deriving DecidableEq, Repr

/-- `for x in xs: body(x)` with an `else:` branch, which a `break` skips. -/
def forElse (body : α → Except ε Flow) (orElse : Except ε PUnit) : List α → Except ε PUnit
  | [] => orElse
  | x :: xs => do
    match ← body x with
    | .next => forElse body orElse xs
    | .brk => return

/-- **The search loop.**  When the body skips everything but a match, and a match is examined by
    `check` and then breaks, the loop runs `check` on the FIRST match and `orElse` without one. -/
theorem forElse_eq_find? {body : α → Except ε Flow} {p : α → Bool} {check : α → Except ε PUnit}
    (hskip : ∀ x, p x = false → body x = .ok .next)
    (hmatch : ∀ x, p x = true → body x = (do check x; return .brk))
    (orElse : Except ε PUnit) (xs : List α) :
    forElse body orElse xs = (xs.find? p).elim orElse check := by
  induction xs with
  | nil => rfl
  | cons x xs ih =>
    cases hp : p x with
    | false =>
      rw [List.find?_cons_of_neg (by simp [hp]), ← ih]
      show (body x >>= _) = _
      rw [hskip x hp]
      rfl
    | true =>
      -- the examined match breaks, so neither the rest nor `orElse` runs
      rw [List.find?_cons_of_pos hp]
      show (body x >>= _) = check x
      rw [hmatch x hp]
      cases check x with
      | ok u => rfl
      | error e => rfl

/-- **When the order of a search is irrelevant**: if `ok` cannot tell two matches apart, asking it of
    the first match is asking for SOME match that is `ok`. -/
theorem find?_and_iff_exists_mem {p : α → Bool} {ok : α → Prop} {xs : List α}
    (hagree : ∀ x ∈ xs, ∀ y ∈ xs, p x = true → p y = true → (ok x ↔ ok y)) :
    (∃ x, xs.find? p = some x ∧ ok x) ↔ ∃ x ∈ xs, p x = true ∧ ok x := by
  constructor
  · rintro ⟨x, hfind, hok⟩
    exact ⟨x, List.mem_of_find?_eq_some hfind, List.find?_some hfind, hok⟩
  · rintro ⟨x, hx, hpx, hok⟩
    cases hfind : xs.find? p with
    | none => exact absurd hpx (List.find?_eq_none.mp hfind x hx)
    | some y =>
      -- the first match need not be `x`, but `ok` treats them alike
      have hy : y ∈ xs := List.mem_of_find?_eq_some hfind
      have hpy : p y = true := List.find?_some hfind
      exact ⟨y, rfl, (hagree x hx y hy hpx hpy).mp hok⟩

/-- **When the order of a registry is irrelevant**, among the orders that keep to `before`: a search finds
    the same element in all of them exactly when `before` decides between any two matches.  Of two
    matches that it leaves undecided each can be put in front. -/
theorem find?_perm_iff {before : α → α → Prop} {p : α → Bool} {xs : List α} (hnodup : xs.Nodup)
    (hxs : xs.Pairwise before)
    (hfront : ∀ x ∈ xs, ∀ y ∈ xs, p x = true → p y = true → x ≠ y → before x y → before y x →
      ∀ z ∈ xs, z ≠ x → before x z) :
    (∀ ys : List α, ys.Perm xs → ys.Pairwise before → ys.find? p = xs.find? p) ↔
      ∀ x ∈ xs, ∀ y ∈ xs, p x = true → p y = true → before x y → before y x → x = y := by
  constructor
  · intro hperm x hx y hy hpx hpy hxy hyx
    by_contra hne
    -- the order with `u` in front finds `u`
    have hfound : ∀ u ∈ xs, p u = true → (∀ z ∈ xs, z ≠ u → before u z) → xs.find? p = some u := by
      intro u hu hpu hbefore
      obtain ⟨left, right, rfl⟩ := List.append_of_mem hu
      have hfresh := (List.nodup_cons.1 (List.nodup_middle.1 hnodup)).1
      have hpairs : (u :: (left ++ right)).Pairwise before := by
        refine List.pairwise_cons.2 ⟨fun z hz => ?_, hxs.sublist ?_⟩
        · refine hbefore z (List.perm_middle.symm.subset (List.mem_cons_of_mem _ hz)) ?_
          rintro rfl
          exact hfresh hz
        · exact (List.sublist_cons_self u right).append_left left
      rw [← hperm _ List.perm_middle.symm hpairs]
      exact List.find?_cons_of_pos hpu
    have hfirst := hfound x hx hpx (hfront x hx y hy hpx hpy hne hxy hyx)
    have hsecond := hfound y hy hpy (hfront y hy x hx hpy hpx (Ne.symm hne) hyx hxy)
    exact hne (Option.some.inj (hfirst.symm.trans hsecond))
  · intro hanti ys hperm hys
    rw [← List.head?_filter, ← List.head?_filter]
    refine congrArg List.head? (List.Perm.eq_of_pairwise ?_ (hys.filter _) (hxs.filter _)
      (hperm.filter _))
    intro x y hx hy hxy hyx
    obtain ⟨hx, hpx⟩ := List.mem_filter.1 hx
    obtain ⟨hy, hpy⟩ := List.mem_filter.1 hy
    exact hanti x (hperm.subset hx) y hy hpx hpy hxy hyx

/-! ## Generators -/

/-- What iterating a generator object would do: stop, raise, or yield a value and go on. -/
inductive Generator (ε α : Type)
  | stop
  | raise (e : ε)
  | yield (a : α) (rest : Generator ε α)

/-- The generator whose body is `for x in xs: yield body(x)`; the body may raise instead. -/
def Generator.each (body : α → Except ε β) : List α → Generator ε β
  | [] => .stop
  | x :: xs =>
    match body x with
    | .error e => .raise e
    | .ok b => .yield b (Generator.each body xs)

/-- `tuple(generator)`: run the body to its end. -/
def Generator.tuple : Generator ε α → Except ε (List α)
  | .stop => .ok []
  | .raise e => .error e
  | .yield a rest => do return a :: (← rest.tuple)

/-- `f()` as a statement, with `f` a generator function: the generator object is built and dropped,
    and no line of the body runs. -/
def Generator.discard (_ : Generator ε α) : Except ε PUnit := .ok ()

@[simp] theorem Generator.discard_passes (g : Generator ε α) : Passes g.discard := passes_ok ()

/-- A `for`-and-`yield` generator is exhausted exactly when its body returns on every element. -/
theorem Generator.tuple_each_passes_iff (body : α → Except ε β) (xs : List α) :
    Passes (Generator.each body xs).tuple ↔ ∀ x ∈ xs, Passes (body x) := by
  induction xs with
  | nil => simp [Generator.each, Generator.tuple]
  | cons x xs ih =>
    rw [List.forall_mem_cons, ← ih]
    cases hb : body x with
    | error e => simp [Generator.each, hb, Generator.tuple]
    | ok b =>
      have hrest := bind_passes_iff (Generator.each body xs).tuple fun bs => .ok (b :: bs)
      simp only [Generator.each, hb, Generator.tuple, passes_ok, true_and]
      exact hrest.trans ⟨fun ⟨bs, h, _⟩ => ⟨bs, h⟩, fun ⟨bs, h⟩ => ⟨bs, h, passes_ok _⟩⟩

/-- A `for`-and-`yield` generator is stopped by what its body raises first. -/
theorem Generator.tuple_each_eq_error_iff {body : α → Except ε β} {xs : List α} {e : ε} :
    (Generator.each body xs).tuple = .error e ↔ ∃ x, RaisesFirst body xs x e := by
  induction xs with
  | nil =>
    refine ⟨fun h => (by cases h), ?_⟩
    rintro ⟨x, h⟩
    cases h.mem
  | cons x xs ih =>
    rw [exists_raisesFirst_cons_iff, ← ih]
    cases hb : body x with
    | error e' => simp [Generator.each, hb, Generator.tuple]
    | ok b =>
      simp only [Generator.each, hb, Generator.tuple, bind_eq_error_iff, reduceCtorEq, false_or,
        passes_ok, true_and]
      exact or_iff_left (fun ⟨_, _, h⟩ => by cases h)

/-- The yielded values are the body's, in order. -/
theorem Generator.mem_tuple_each {body : α → Except ε β} {xs : List α} {ys : List β}
    (h : (Generator.each body xs).tuple = .ok ys) (y : β) :
    y ∈ ys ↔ ∃ x ∈ xs, body x = .ok y := by
  induction xs generalizing ys with
  | nil =>
    cases h
    simp
  | cons x xs ih =>
    cases hb : body x with
    | error e => simp [Generator.each, hb, Generator.tuple] at h
    | ok b =>
      simp only [Generator.each, hb, Generator.tuple] at h
      cases ht : (Generator.each body xs).tuple with
      | error e => rw [ht] at h; nomatch h
      | ok bs =>
        rw [ht] at h
        cases h
        simp only [List.mem_cons, ih ht, exists_eq_or_imp, hb, Except.ok.injEq]
        exact or_congr_left eq_comm

/-- A generator that raises nothing yields what its body returns, in order. -/
theorem Generator.tuple_each_of_ok {body : α → Except ε β} {f : α → β} {xs : List α}
    (h : ∀ x ∈ xs, body x = .ok (f x)) : (Generator.each body xs).tuple = .ok (xs.map f) := by
  induction xs with
  | nil => rfl
  | cons x xs ih =>
    rw [List.forall_mem_cons] at h
    simp only [Generator.each, h.1, Generator.tuple, ih h.2]
    rfl

/-! ## Sets -/

/-- A `set` object: its elements in iteration order, each once. -/
structure PySet (α : Type) where
  elems : List α
  nodup : elems.Nodup

instance : Membership α (PySet α) := ⟨fun s a => a ∈ s.elems⟩

theorem PySet.mem_iff (s : PySet α) (a : α) : a ∈ s ↔ a ∈ s.elems := Iff.rfl

instance : Truthy (PySet α) := ⟨fun s => truthy s.elems⟩

/-- An interpretation of `set(iterable)`: the elements are the iterable's, the order is the
    interpreter's own. -/
structure SetBuilder (α : Type) where
  set : List α → PySet α
  mem_set : ∀ xs a, a ∈ set xs ↔ a ∈ xs

/-- One interpretation: keep the last occurrence of each element, in order. -/
def SetBuilder.dedup (α : Type) [DecidableEq α] : SetBuilder α where
  set xs := ⟨xs.dedup, xs.nodup_dedup⟩
  mem_set _ _ := List.mem_dedup

/-- An interpretation for every element: the sets that have it begin with it. -/
def SetBuilder.front [DecidableEq α] (a : α) : SetBuilder α where
  set xs :=
    if a ∈ xs then
      ⟨a :: (xs.dedup.erase a),
        List.nodup_cons.2 ⟨xs.nodup_dedup.not_mem_erase, xs.nodup_dedup.erase a⟩⟩
    else ⟨xs.dedup, xs.nodup_dedup⟩
  mem_set xs b := by
    split
    · next ha =>
      rw [PySet.mem_iff, List.mem_cons, xs.nodup_dedup.mem_erase_iff, List.mem_dedup]
      by_cases hb : b = a
      · simp [hb, ha]
      · simp [hb]
    · exact List.mem_dedup

theorem SetBuilder.front_elems [DecidableEq α] {a : α} {xs : List α} (ha : a ∈ xs) :
    ((SetBuilder.front a).set xs).elems = a :: xs.dedup.erase a := by
  show (if a ∈ xs then (⟨_, _⟩ : PySet α) else _).elems = _
  rw [if_pos ha]

end TrainBdd.Python
