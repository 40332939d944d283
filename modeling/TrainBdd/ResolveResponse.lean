/-
  `models/resolve_response.py` — the resolver's answer and the four checks on it.

  1. **Data** — `ResolveResponse` carries exactly the attributes the checks read: a list of resolved
     pointers, each with a list of DIDs, and a list of resolved DIDs, each with a document whose
     endpoints may carry a trust list (TL).  Every list is optional, as in the generated model, and
     the trust list itself is any type with a truth value.

  2. **Program** — the four `assert…` methods, statement by statement: the first is a GENERATOR
     (its checks run when it is iterated), the last two search the results with a `for … else`.

  3. **Errors** — an `AssertionError` keeps the fixed text of its message and the pointer and DID it
     names.  The dump of the whole response that the source appends to each message is left out.

  4. **Rules** — one lemma for each method says when it returns; callers use these and never unfold
     the methods.  The two search loops share `forEachDid_passes_iff`.
-/
import TrainBdd.Lib.Python

namespace TrainBdd

open Python

abbrev Did := String
abbrev TrustFrameworkPointer := String

/-! ## The response -/

/-- A service endpoint of a resolved document. -/
structure Endpoint (TL : Type) where
  trustList : Option TL
deriving DecidableEq, Repr

/-- The resolved DID document. -/
structure ResolvedDoc (TL : Type) where
  endpoints : Option (List (Endpoint TL))
deriving DecidableEq, Repr

/-- One entry of `resolved_results`. -/
structure ResolvedDid (TL : Type) where
  did : Did
  resolvedDoc : Option (ResolvedDoc TL)
deriving DecidableEq, Repr

/-- One entry of `trust_scheme_pointers`. -/
structure ResolvedPointer where
  pointer : TrustFrameworkPointer
  dids : Option (List Did)
deriving DecidableEq, Repr

structure ResolveResponse (TL : Type) where
  trustSchemePointers : Option (List ResolvedPointer)
  resolvedResults : Option (List (ResolvedDid TL))
deriving DecidableEq, Repr

/-- A document is a plain model object: it has neither `__len__` nor `__bool__`. -/
instance {TL : Type} : Truthy (ResolvedDoc TL) := ⟨fun _ => true⟩

/-- What a failed check reports. -/
structure AssertionError where
  text : String
  inputPointer : Option TrustFrameworkPointer := none
  did : Option Did := none
deriving DecidableEq, Repr

namespace ResolveResponse

variable {TL : Type}

/-! ## The program: the four checks -/

/-- `assert_pointers_are_resolved_with_at_least_one_did`: yields each pointer with its DIDs. -/
def assertPointersAreResolvedWithAtLeastOneDid (py : SetBuilder Did) (self : ResolveResponse TL) :
    Generator AssertionError (TrustFrameworkPointer × PySet Did) :=
  if ¬ truthy self.trustSchemePointers then
    .raise { text := "Empty trust_scheme_pointers" }
  else
    Generator.each
      (fun resolvedPointer =>
        -- checked when it is its turn: earlier pointers have been yielded by then
        if ¬ truthy resolvedPointer.dids then
          throw { text := "Not all pointer resolved with a DID," }
        else
          return (resolvedPointer.pointer, py.set (items resolvedPointer.dids)))
      (items self.trustSchemePointers)

/-- `assert_no_did_resolve`. -/
def assertNoDidResolve (self : ResolveResponse TL) : Except AssertionError Unit :=
  if ¬ truthy self.trustSchemePointers then
    throw { text := "Empty trust_scheme_pointers" }
  else
    forM (items self.trustSchemePointers) fun resolvedPointer =>
      if truthy resolvedPointer.dids then
        throw { text := "Some pointer resolved with a DID," }
      else
        return

/-- The two outer loops the TL checks share: every DID of every pointer, in set order. -/
def forEachDid (py : SetBuilder Did) (self : ResolveResponse TL)
    (body : TrustFrameworkPointer → Did → Except AssertionError Unit) :
    Except AssertionError Unit := do
  let pairs ← (self.assertPointersAreResolvedWithAtLeastOneDid py).tuple
  forM pairs fun (inputPointer, dids) => forM dids.elems (body inputPointer)

/-- `assert_resolved_did_do_have_at_least_one_tl`. -/
def assertResolvedDidDoHaveAtLeastOneTl [Truthy TL] (py : SetBuilder Did)
    (self : ResolveResponse TL) : Except AssertionError Unit :=
  self.forEachDid py fun inputPointer did =>
    forElse
      (fun resolvedDid =>
        if did == resolvedDid.did then
          match resolvedDid.resolvedDoc with
          | none =>
            throw ⟨"doesn't have a `resolvedDoc` for TL, ", inputPointer, did⟩
          | some resolvedDoc =>
            if ¬ truthy resolvedDoc.endpoints then
              throw ⟨"doesn't have a `endpoints` for TL, ", inputPointer, did⟩
            else do
              forM (items resolvedDoc.endpoints) fun endpoint =>
                if ¬ truthy endpoint.trustList then
                  throw ⟨"doesn't have a TL, see:\n ", inputPointer, did⟩
                else
                  return
              -- later results of the same DID are not looked at
              return .brk
        else
          return .next)
      (throw { text := "doesn't match any DID from trust scheme pointer, ", did := did })
      (items self.resolvedResults)

/-- `assert_resolved_did_do_not_have_a_tl`. -/
def assertResolvedDidDoNotHaveATl [Truthy TL] (py : SetBuilder Did)
    (self : ResolveResponse TL) : Except AssertionError Unit :=
  self.forEachDid py fun inputPointer did =>
    forElse
      (fun resolvedDid =>
        if did == resolvedDid.did then
          match resolvedDid.resolvedDoc with
          | none => return .brk
          | some resolvedDoc => do
            forM (items resolvedDoc.endpoints) fun endpoint =>
              -- `assert endpoint.trust_list`: the message says "have a TL", the test is the opposite
              if ¬ truthy endpoint.trustList then
                throw ⟨"have a TL,", inputPointer, did⟩
              else
                return
            return .brk
        else
          return .next)
      (throw { text := "doesn't match any DID from trust scheme pointer", did := did })
      (items self.resolvedResults)

/-! ## What the checks read off a response -/

/-- Some entry of `trust_scheme_pointers` lists the DID. -/
def Named (self : ResolveResponse TL) (did : Did) : Prop :=
  ∃ rp ∈ items self.trustSchemePointers, did ∈ items rp.dids

/-- There is a pointer, and every pointer has a DID. -/
def AllPointersResolved (self : ResolveResponse TL) : Prop :=
  items self.trustSchemePointers ≠ [] ∧
    ∀ rp ∈ items self.trustSchemePointers, items rp.dids ≠ []

/-- The result a DID is matched with: the first one that carries it. -/
def matched (self : ResolveResponse TL) (did : Did) : Option (ResolvedDid TL) :=
  (items self.resolvedResults).find? fun resolvedDid => did == resolvedDid.did

end ResolveResponse

/-- The endpoints of a result; no document and no endpoint list both count as none. -/
def ResolvedDid.endpoints {TL : Type} (self : ResolvedDid TL) : List (Endpoint TL) :=
  items (self.resolvedDoc.bind (·.endpoints))

namespace ResolveResponse

variable {TL : Type}

/-! ## One rule for each check -/

/-- The generator is exhausted exactly when every pointer has a DID. -/
theorem assertPointers_passes_iff (py : SetBuilder Did) (self : ResolveResponse TL) :
    Passes (self.assertPointersAreResolvedWithAtLeastOneDid py).tuple ↔
      self.AllPointersResolved := by
  unfold assertPointersAreResolvedWithAtLeastOneDid AllPointersResolved
  rw [← truthy_list_iff]
  by_cases h : truthy self.trustSchemePointers = true
  · rw [if_neg (not_not.mpr h), Generator.tuple_each_passes_iff]
    simp [h, truthy_list_iff]
  · rw [if_pos h]
    simp [h, Generator.tuple]

/-- The pairs it yields are the pointers with their DIDs as sets. -/
theorem mem_assertPointers_tuple {py : SetBuilder Did} {self : ResolveResponse TL}
    {pairs : List (TrustFrameworkPointer × PySet Did)}
    (h : (self.assertPointersAreResolvedWithAtLeastOneDid py).tuple = .ok pairs)
    (pair : TrustFrameworkPointer × PySet Did) :
    pair ∈ pairs ↔
      ∃ rp ∈ items self.trustSchemePointers, (rp.pointer, py.set (items rp.dids)) = pair := by
  have hres := (assertPointers_passes_iff py self).mp ⟨pairs, h⟩
  have htsp : truthy self.trustSchemePointers = true := (truthy_list_iff _).mpr hres.1
  unfold assertPointersAreResolvedWithAtLeastOneDid at h
  rw [if_neg (not_not.mpr htsp)] at h
  rw [Generator.mem_tuple_each h]
  refine exists_congr fun rp => and_congr_right fun hrp => ?_
  have hdids : truthy rp.dids = true := (truthy_list_iff _).mpr (hres.2 rp hrp)
  rw [if_neg (not_not.mpr hdids)]
  exact ⟨fun heq => Except.ok.inj heq, fun heq => congrArg Except.ok heq⟩

/-- **The rule of the two outer loops**: set order and duplicates play no part. -/
theorem forEachDid_passes_iff (py : SetBuilder Did) (self : ResolveResponse TL)
    (body : TrustFrameworkPointer → Did → Except AssertionError Unit) :
    Passes (self.forEachDid py body) ↔
      self.AllPointersResolved ∧ ∀ rp ∈ items self.trustSchemePointers,
        ∀ did ∈ items rp.dids, Passes (body rp.pointer did) := by
  unfold forEachDid
  rw [bind_passes_iff, ← assertPointers_passes_iff py]
  constructor
  · rintro ⟨pairs, hpairs, hloop⟩
    rw [forM_passes_iff] at hloop
    refine ⟨⟨pairs, hpairs⟩, fun rp hrp did hdid => ?_⟩
    have hbody := hloop _ ((mem_assertPointers_tuple hpairs _).mpr ⟨rp, hrp, rfl⟩)
    exact (forM_passes_iff _ _).mp hbody did ((py.mem_set _ _).mpr hdid)
  · rintro ⟨⟨pairs, hpairs⟩, hall⟩
    refine ⟨pairs, hpairs, (forM_passes_iff _ _).mpr fun pair hpair => ?_⟩
    obtain ⟨rp, hrp, rfl⟩ := (mem_assertPointers_tuple hpairs pair).mp hpair
    exact (forM_passes_iff _ _).mpr fun did hdid => hall rp hrp did ((py.mem_set _ _).mp hdid)

theorem assertNoDidResolve_passes_iff (self : ResolveResponse TL) :
    Passes self.assertNoDidResolve ↔
      items self.trustSchemePointers ≠ [] ∧
        ∀ rp ∈ items self.trustSchemePointers, items rp.dids = [] := by
  unfold assertNoDidResolve
  rw [guard_passes_iff, not_not, truthy_list_iff, forM_passes_iff]
  refine and_congr_right fun _ => forall₂_congr fun rp _ => ?_
  rw [guard_passes_iff, truthy_list_iff, not_not]
  exact and_iff_left (passes_pure _)

/-- A search returns when there is a match and its examination returns. -/
theorem matched_passes_iff {self : ResolveResponse TL} {did : Did} {e : AssertionError}
    {check : ResolvedDid TL → Except AssertionError Unit} :
    Passes ((self.matched did).elim (throw e) check) ↔
      ∃ res, self.matched did = some res ∧ Passes (check res) := by
  cases self.matched did with
  | none => simp
  | some res => simp

end ResolveResponse

end TrainBdd
