/-
  `models/trust_list.py` — `TrustList.fetch` and the module's `_CACHE`.

  `fetch` asks `if _CACHE:` where it means "is there a cached instance".  A `TrustList` defines `__len__`
  and no `__bool__`, so an EMPTY cached list counts as no cached list, and the mocked `__len__` answers
  0 for every one of them.

  1. **The program** — `fetch`, on the module's globals; the instances constructed so far are kept
     beside `_CACHE`, an object being told from another by its identity.
  2. **The law** — `CacheLaw`: what every call of a sequence returns, and how many instances are made.
  3. **Step and run** — `callLaw_iff` is the law of one call, `fetch_cacheLaw_iff` that of a sequence.
-/
import TrainBdd.Lib.Python
import TrainBdd.Lib.Run

namespace TrainBdd

open Python Run

/-- A `TrustList` object. -/
structure TrustList where
  /-- Which object this is (`id(trust_list)`). -/
  identity : Nat
deriving DecidableEq, Repr

namespace TrustList

/-! ## The program -/

/-- `__len__`, mocked. -/
def len (_ : TrustList) : Nat := 0

/-- The module's globals: `_CACHE`, and every instance constructed so far. -/
structure Globals where
  cached : Option TrustList := none
  constructed : List TrustList := []
deriving DecidableEq, Repr

/-- `_CACHE = cls()` and `return _CACHE`. -/
def Globals.construct (globals : Globals) : TrustList × Globals :=
  let trustList : TrustList := ⟨globals.constructed.length⟩
  (trustList, ⟨some trustList, globals.constructed ++ [trustList]⟩)

/-- `TrustList.fetch(cache)`, for a class whose `__len__` is `len`. -/
def fetch (len : TrustList → Nat) (cache : Bool) (globals : Globals) : TrustList × Globals :=
  match cache, globals.cached with
  | true, some held => if truthyByLen (len held) then (held, globals) else globals.construct
  | true, none => globals.construct
  | false, _ => globals.construct

/-! ## The law -/

/-- A sequence of calls under way: the globals, and what the preceding call returned. -/
structure Session where
  globals : Globals := {}
  returned : Option TrustList := none
deriving DecidableEq, Repr

/-- One more call. -/
def call (len : TrustList → Nat) (cache : Bool) (s : Session) : Session :=
  ⟨(fetch len cache s.globals).2, some (fetch len cache s.globals).1⟩

/-- What one call owes its caller.  Without the cache: an object that did not exist, which becomes the
    cached one.  With it, after another call: the object that call returned, and nothing constructed. -/
structure CallLaw (len : TrustList → Nat) (s : Session) (cache : Bool) : Prop where
  fetches : cache = false →
    (fetch len cache s.globals).1 ∉ s.globals.constructed ∧
    (fetch len cache s.globals).2.constructed =
      s.globals.constructed ++ [(fetch len cache s.globals).1] ∧
    (fetch len cache s.globals).2.cached = some (fetch len cache s.globals).1
  reuses : cache = true → ∀ previous ∈ s.returned,
    (fetch len cache s.globals).1 = previous ∧
    (fetch len cache s.globals).2.constructed = s.globals.constructed

/-- The law of a sequence of calls, from the empty module cache. -/
structure CacheLaw (len : TrustList → Nat) (calls : List Bool) : Prop where
  each : Along (call len) (CallLaw len) {} calls
  count : (after (call len) {} calls).globals.constructed.length =
    calls.count false + if calls.head? = some true then 1 else 0

/-- When `if _CACHE:` answers whether there is a cached instance: the one held is not empty. -/
def Recognised (len : TrustList → Nat) (s : Session) (cache : Bool) : Prop :=
  cache = true → ∀ held ∈ s.globals.cached, len held ≠ 0

/-! ## One call -/

/-- What every sequence of calls keeps: the preceding call returned the cached instance, and every
    instance is older than the next one. -/
structure Session.Ok (s : Session) : Prop where
  returned_eq : s.returned = s.globals.cached
  identity_lt : ∀ t ∈ s.globals.constructed, t.identity < s.globals.constructed.length

theorem ok_start : Session.Ok {} where
  returned_eq := rfl
  identity_lt := by simp

variable {len : TrustList → Nat} {cache : Bool} {globals : Globals} {s : Session}

/-- What a call can do: hand out a cached instance that is not empty, or construct one. -/
theorem fetch_cases (len : TrustList → Nat) (cache : Bool) (globals : Globals) :
    (∃ held, cache = true ∧ globals.cached = some held ∧ len held ≠ 0 ∧
      fetch len cache globals = (held, globals)) ∨
    ((cache = true → ∀ held ∈ globals.cached, len held = 0) ∧
      fetch len cache globals = globals.construct) := by
  cases cache with
  | false => exact Or.inr ⟨by simp, rfl⟩
  | true =>
    cases hc : globals.cached with
    | none => exact Or.inr ⟨by simp, by simp only [fetch, hc]⟩
    | some held =>
      by_cases hlen : len held = 0
      · refine Or.inr ⟨fun _ t ht => ?_, ?_⟩
        · cases ht
          exact hlen
        · simp only [fetch, hc]
          exact if_neg fun htrue => (truthyByLen_iff _).1 htrue hlen
      · refine Or.inl ⟨held, rfl, rfl, hlen, ?_⟩
        simp only [fetch, hc]
        exact if_pos ((truthyByLen_iff _).2 hlen)

/-- After a call there is a cached instance, the one returned. -/
theorem fetch_cached (len : TrustList → Nat) (cache : Bool) (globals : Globals) :
    (fetch len cache globals).2.cached = some (fetch len cache globals).1 := by
  rcases fetch_cases len cache globals with ⟨held, -, hheld, -, hfetch⟩ | ⟨-, hfetch⟩
  · rw [hfetch]
    exact hheld
  · rw [hfetch]
    rfl

theorem ok_call (len : TrustList → Nat) (cache : Bool) (h : s.Ok) : (call len cache s).Ok where
  returned_eq := (fetch_cached len cache s.globals).symm
  identity_lt := by
    show ∀ t ∈ (fetch len cache s.globals).2.constructed,
      t.identity < (fetch len cache s.globals).2.constructed.length
    rcases fetch_cases len cache s.globals with ⟨held, -, -, -, hfetch⟩ | ⟨-, hfetch⟩
    · rw [hfetch]
      exact h.identity_lt
    · rw [hfetch]
      intro t ht
      have hlen : s.globals.construct.2.constructed.length = s.globals.constructed.length + 1 :=
        List.length_append
      rw [hlen]
      rcases List.mem_append.1 ht with hold | hnew
      · have hlt := h.identity_lt t hold
        omega
      · obtain rfl := List.mem_singleton.1 hnew
        exact Nat.lt_succ_self _

/-- A constructed instance did not exist before. -/
theorem construct_not_mem (h : s.Ok) : s.globals.construct.1 ∉ s.globals.constructed := by
  intro hmem
  exact Nat.lt_irrefl _ (h.identity_lt _ hmem)

/-- **One call** obeys the law exactly when it recognises the cached instance. -/
theorem callLaw_iff (h : s.Ok) : CallLaw len s cache ↔ Recognised len s cache := by
  constructor
  · intro hlaw hcache held hheld
    rcases fetch_cases len cache s.globals with ⟨held', -, hheld', hlen, -⟩ | ⟨-, hfetch⟩
    · cases hheld.symm.trans hheld'
      exact hlen
    · -- a construction would make one instance more than the law allows
      have hreuse := (hlaw.reuses hcache held (h.returned_eq.trans hheld)).2
      rw [hfetch] at hreuse
      have hlen := congrArg List.length hreuse
      simp [Globals.construct] at hlen
  · intro hrec
    rcases fetch_cases len cache s.globals with ⟨held, hcache, hheld, -, hfetch⟩ | ⟨hempty, hfetch⟩
    · refine ⟨fun hfalse => ?_, fun _ previous hprevious => ?_⟩
      · rw [hcache] at hfalse
        nomatch hfalse
      · rw [hfetch]
        rw [h.returned_eq, hheld] at hprevious
        cases hprevious
        exact ⟨rfl, rfl⟩
    · refine ⟨fun _ => ?_, fun hcache previous hprevious => ?_⟩
      · rw [hfetch]
        exact ⟨construct_not_mem h, rfl, rfl⟩
      · rw [h.returned_eq] at hprevious
        exact absurd (hempty hcache previous hprevious) (hrec hcache previous hprevious)

/-! ## A sequence of calls -/

/-- A lawful call after another one constructs an instance just when it must not use the cache. -/
theorem length_call {held : TrustList} (h : s.Ok) (hheld : s.globals.cached = some held)
    (hlaw : CallLaw len s cache) :
    (call len cache s).globals.constructed.length =
      s.globals.constructed.length + [cache].count false := by
  cases cache with
  | false =>
    have happend := (hlaw.fetches rfl).2.1
    show (fetch len false s.globals).2.constructed.length = _
    rw [happend, List.length_append]
    rfl
  | true =>
    have hsame := (hlaw.reuses rfl held (h.returned_eq.trans hheld)).2
    show (fetch len true s.globals).2.constructed.length = _
    rw [hsame]
    rfl

/-- The number of instances after lawful calls, the first of which is not the first of all. -/
theorem length_after {held : TrustList} (h : s.Ok) (hheld : s.globals.cached = some held)
    {calls : List Bool} (hlaw : Along (call len) (CallLaw len) s calls) :
    (after (call len) s calls).globals.constructed.length =
      s.globals.constructed.length + calls.count false := by
  induction calls generalizing s held with
  | nil => rfl
  | cons cache calls ih =>
    have hstep := length_call h hheld hlaw.1
    have hrest := ih (ok_call len cache h) (fetch_cached len cache s.globals) hlaw.2
    show (after (call len) (call len cache s) calls).globals.constructed.length =
      s.globals.constructed.length + ([cache] ++ calls).count false
    rw [hrest, hstep, List.count_append]
    omega

/-- The first call of all constructs the first instance. -/
theorem length_first (len : TrustList → Nat) (cache : Bool) :
    (call len cache {}).globals.constructed.length = 1 := by
  cases cache with
  | false => rfl
  | true => rfl

/-- The count of the law follows from its calls. -/
theorem count_of_each {calls : List Bool} (h : Along (call len) (CallLaw len) {} calls) :
    (after (call len) {} calls).globals.constructed.length =
      calls.count false + if calls.head? = some true then 1 else 0 := by
  cases calls with
  | nil => rfl
  | cons cache calls =>
    have hrest := length_after (ok_call len cache ok_start) (fetch_cached len cache {}) h.2
    show (after (call len) (call len cache {}) calls).globals.constructed.length = _
    rw [hrest, length_first]
    cases cache with
    | false =>
      show 1 + calls.count false = (false :: calls).count false + 0
      rw [List.count_cons_self]
      omega
    | true =>
      show 1 + calls.count false = (true :: calls).count false + 1
      rw [List.count_cons_of_ne (by decide)]
      omega

/-- The law of a sequence is the recognition of the cached instance all along. -/
theorem cacheLaw_iff (len : TrustList → Nat) (calls : List Bool) :
    CacheLaw len calls ↔ Along (call len) (Recognised len) {} calls := by
  have heach : Along (call len) (CallLaw len) {} calls ↔ Along (call len) (Recognised len) {} calls :=
    Along.iff_of_invariant (fun _ cache hs _ => ok_call len cache hs) (fun _ _ hs => callLaw_iff hs)
      ok_start
  constructor
  · intro hlaw
    exact heach.1 hlaw.each
  · intro hrec
    have hcalls := heach.2 hrec
    exact ⟨hcalls, count_of_each hcalls⟩

/-- With the mocked `__len__` no cached instance is ever recognised. -/
theorem recognised_mocked_iff {held : TrustList} (hheld : s.globals.cached = some held)
    (calls : List Bool) :
    Along (call TrustList.len) (Recognised TrustList.len) s calls ↔ ∀ cache ∈ calls, cache = false := by
  induction calls generalizing s held with
  | nil => exact ⟨fun _ => by simp, fun _ => trivial⟩
  | cons cache calls ih =>
    have hcached := fetch_cached TrustList.len cache s.globals
    rw [List.forall_mem_cons, ← ih (s := call TrustList.len cache s) hcached]
    refine and_congr_left fun _ => ?_
    constructor
    · intro hrec
      by_contra hcache
      exact hrec (by simpa using hcache) held hheld rfl
    · intro hcache htrue
      rw [hcache] at htrue
      nomatch htrue

/-- **The cache law, exactly.**  Whatever `__len__` answers, a sequence of calls obeys the law when every
    cached call that finds a cached instance finds one that is not empty; with the mocked `__len__`, when
    no call after the first asks for the cache. -/
theorem fetch_cacheLaw_iff (calls : List Bool) :
    (∀ len : TrustList → Nat,
      CacheLaw len calls ↔ Along (call len) (Recognised len) {} calls) ∧
    (CacheLaw TrustList.len calls ↔ ∀ cache ∈ calls.tail, cache = false) := by
  refine ⟨fun len => cacheLaw_iff len calls, ?_⟩
  rw [cacheLaw_iff]
  cases calls with
  | nil => exact ⟨fun _ => by simp, fun _ => trivial⟩
  | cons cache calls =>
    have hcached := fetch_cached TrustList.len cache {}
    show Recognised TrustList.len {} cache ∧ Along _ _ _ calls ↔ ∀ c ∈ calls, c = false
    rw [recognised_mocked_iff (s := call TrustList.len cache {}) hcached]
    -- the first call of all finds no cached instance
    exact and_iff_right fun _ held hheld => nomatch hheld

/-- `TrustList.fetch()` twice: two instances, and the second call does not return the first one. -/
theorem fetch_twice_not_cacheLaw : ¬ CacheLaw TrustList.len [true, true] := by
  intro h
  exact absurd h.count (by decide)

end TrustList

end TrainBdd
