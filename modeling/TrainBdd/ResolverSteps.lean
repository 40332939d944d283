/-
  `steps/resolver_on_client.py` — the THEN steps that judge a resolver's answer, and what a scenario
  built from them accepts.

  1. **Steps** — a step function takes the scenario's context and returns or raises.  The step on the
     DIDs of all input pointers calls a GENERATOR function as a statement, so its checks never run;
     the other three call plain functions.

  2. **DID cases** — the two DID steps decide their sentences exactly on the responses that the first
     step is right to accept (`didCases_correct_iff`).

  3. **Scenario** — "Trust Discovery succeeds" is two of the steps in a row.  Neither compares the
     answer with the INPUT pointers, so the scenario is sound exactly when the answer names them all,
     or is refused for its own faults (`trustDiscoverySucceeds_sound_iff`).
-/
import TrainBdd.ResolveVerdict

namespace TrainBdd

open Python

/-- The scenario's context: the input pointers and the validated response of the client. -/
structure ContextType (TL : Type) where
  trustFrameworkPointers : PySet TrustFrameworkPointer
  resolveResponse : ResolveResponse TL

namespace ResolverOnClient

variable {TL : Type}

/-! ## The program: the four steps -/

/-- Step "all input pointers are resolved with at least one DID". -/
def checkAllInputPointersAreResolvedWithAtLeastOneDid (py : SetBuilder Did)
    (context : ContextType TL) : Except AssertionError Unit :=
  -- an expression statement: nothing iterates the generator
  (context.resolveResponse.assertPointersAreResolvedWithAtLeastOneDid py).discard

/-- Step "no DID resolved". -/
def checkNoDidResolver (context : ContextType TL) : Except AssertionError Unit :=
  context.resolveResponse.assertNoDidResolve

/-- Step "all resolved DID has a TL". -/
def checkAllResolvedDidHaveATl [Truthy TL] (py : SetBuilder Did) (context : ContextType TL) :
    Except AssertionError Unit :=
  context.resolveResponse.assertResolvedDidDoHaveAtLeastOneTl py

/-- Step "all resolved DID don't have a TL". -/
def checkAllResolvedDidDoesNotHaveATl [Truthy TL] (py : SetBuilder Did) (context : ContextType TL) :
    Except AssertionError Unit :=
  context.resolveResponse.assertResolvedDidDoNotHaveATl py

/-- The judging steps of the scenario "Trust Discovery succeeds", in order. -/
def trustDiscoverySucceeds [Truthy TL] (py : SetBuilder Did) (context : ContextType TL) :
    Except AssertionError Unit := do
  checkAllInputPointersAreResolvedWithAtLeastOneDid py context
  checkAllResolvedDidHaveATl py context

/-- The judging steps of the scenario "Trust Discovery partial-success (empty TL)", in order. -/
def trustDiscoveryPartialSuccess [Truthy TL] (py : SetBuilder Did) (context : ContextType TL) :
    Except AssertionError Unit := do
  checkAllInputPointersAreResolvedWithAtLeastOneDid py context
  checkAllResolvedDidDoesNotHaveATl py context

/-! ## The DID cases -/

/-- A called but never iterated generator function raises nothing. -/
theorem checkAllInputPointers_passes (py : SetBuilder Did) (context : ContextType TL) :
    Passes (checkAllInputPointersAreResolvedWithAtLeastOneDid py context) :=
  Generator.discard_passes _

theorem checkNoDidResolver_raises_iff (context : ContextType TL) :
    Raises (checkNoDidResolver context) ↔
      items context.resolveResponse.trustSchemePointers = [] ∨
        ∃ rp ∈ items context.resolveResponse.trustSchemePointers, items rp.dids ≠ [] := by
  rw [raises_iff_not_passes, checkNoDidResolver, ResolveResponse.assertNoDidResolve_passes_iff,
    not_and_or, not_not]
  simp only [not_forall, exists_prop, ne_eq]

/-- What the first sentence asks to be refused. -/
theorem not_allPointersResolved_iff (self : ResolveResponse TL) :
    ¬ self.AllPointersResolved ↔
      items self.trustSchemePointers = [] ∨
        ∃ rp ∈ items self.trustSchemePointers, items rp.dids = [] := by
  rw [ResolveResponse.AllPointersResolved, not_and_or, not_not]
  simp only [not_forall, exists_prop, ne_eq, not_not]

/-- **The two DID steps decide their sentences** — the first raises on no pointer or a pointer
    without a DID, the second on no pointer or a pointer with a DID, no response passes both and a
    mixed one passes neither — exactly on the responses with a pointer and a DID for every pointer. -/
theorem didCases_correct_iff (py : SetBuilder Did) (context : ContextType TL) :
    ((Raises (checkAllInputPointersAreResolvedWithAtLeastOneDid py context) ↔
        items context.resolveResponse.trustSchemePointers = [] ∨
          ∃ rp ∈ items context.resolveResponse.trustSchemePointers, items rp.dids = []) ∧
      (Raises (checkNoDidResolver context) ↔
        items context.resolveResponse.trustSchemePointers = [] ∨
          ∃ rp ∈ items context.resolveResponse.trustSchemePointers, items rp.dids ≠ []) ∧
      ¬ (Passes (checkAllInputPointersAreResolvedWithAtLeastOneDid py context) ∧
          Passes (checkNoDidResolver context)) ∧
      ((∃ rp ∈ items context.resolveResponse.trustSchemePointers, items rp.dids = []) →
        (∃ rp ∈ items context.resolveResponse.trustSchemePointers, items rp.dids ≠ []) →
          Raises (checkAllInputPointersAreResolvedWithAtLeastOneDid py context) ∧
            Raises (checkNoDidResolver context))) ↔
      items context.resolveResponse.trustSchemePointers ≠ [] ∧
        ∀ rp ∈ items context.resolveResponse.trustSchemePointers, items rp.dids ≠ [] := by
  have hpasses := checkAllInputPointers_passes py context
  have hnever : ¬ Raises (checkAllInputPointersAreResolvedWithAtLeastOneDid py context) := by
    rw [raises_iff_not_passes, not_not]
    exact hpasses
  constructor
  · rintro ⟨hfirst, -⟩
    rw [← not_allPointersResolved_iff] at hfirst
    exact not_not.mp fun hnot => hnever (hfirst.mpr hnot)
  · -- there is a pointer with a DID, so the second step raises and the first is right to pass
    intro hresolved
    have hall : context.resolveResponse.AllPointersResolved := hresolved
    obtain ⟨rp, hrp⟩ := List.exists_mem_of_ne_nil _ hresolved.1
    have hdid : Raises (checkNoDidResolver context) :=
      (checkNoDidResolver_raises_iff context).mpr (Or.inr ⟨rp, hrp, hresolved.2 rp hrp⟩)
    refine ⟨?_, checkNoDidResolver_raises_iff context, ?_, ?_⟩
    · rw [← not_allPointersResolved_iff]
      exact ⟨fun h => absurd h hnever, fun h => absurd hall h⟩
    · rintro ⟨-, hpass⟩
      exact (raises_iff_not_passes _).mp hdid hpass
    · rintro ⟨empty, hmem, hnone⟩ -
      exact absurd hnone (hresolved.2 empty hmem)

/-- A response that lists no pointer at all. -/
def emptyResponse : ResolveResponse String where
  trustSchemePointers := none
  resolvedResults := none

/-- A response that lists two pointers, one of them without a DID. -/
def mixedResponse : ResolveResponse String where
  trustSchemePointers := some [⟨"alice.trust.train1.xfsc.dev", some ["did:web:essif"]⟩,
    ⟨"bob.trust.train1.xfsc.dev", none⟩]
  resolvedResults := none

/-- The pointers of a scenario, in the order they were written. -/
def inputs (pointers : List TrustFrameworkPointer) (h : pointers.Nodup := by decide) :
    PySet TrustFrameworkPointer :=
  ⟨pointers, h⟩

/-- The first step accepts both responses, against its sentence. -/
theorem didCases_unchecked :
    let context (response : ResolveResponse String) : ContextType String :=
      ⟨inputs ["alice.trust.train1.xfsc.dev"], response⟩
    (items emptyResponse.trustSchemePointers = [] ∧
      ¬ Raises (checkAllInputPointersAreResolvedWithAtLeastOneDid (SetBuilder.dedup Did)
        (context emptyResponse))) ∧
    ((∃ rp ∈ items mixedResponse.trustSchemePointers, items rp.dids = []) ∧
      ¬ Raises (checkAllInputPointersAreResolvedWithAtLeastOneDid (SetBuilder.dedup Did)
        (context mixedResponse))) := by
  decide

/-! ## The success scenario -/

/-- The scenario's verdict is the TL check's alone. -/
theorem trustDiscoverySucceeds_passes_iff [Truthy TL] (py : SetBuilder Did)
    (context : ContextType TL) :
    Passes (trustDiscoverySucceeds py context) ↔
      context.resolveResponse.Verdict ResolveResponse.HasTl := by
  rw [← ResolveResponse.haveTl_passes_iff py]
  rfl

theorem trustDiscoveryPartialSuccess_passes_iff [Truthy TL] (py : SetBuilder Did)
    (context : ContextType TL) :
    Passes (trustDiscoveryPartialSuccess py context) ↔
      context.resolveResponse.Verdict ResolveResponse.LacksNoTl := by
  rw [← ResolveResponse.notHaveTl_passes_iff py]
  rfl

/-- **Two scenarios with opposite sentences share their responses**: whatever "succeeds" accepts,
    "partial-success (empty TL)" accepts too. -/
theorem partialSuccess_of_succeeds [Truthy TL] {py py' : SetBuilder Did} {context : ContextType TL}
    (h : Passes (trustDiscoverySucceeds py context)) :
    Passes (trustDiscoveryPartialSuccess py' context) := by
  rw [trustDiscoverySucceeds_passes_iff] at h
  rw [trustDiscoveryPartialSuccess_passes_iff]
  refine ⟨h.1, fun did hdid => ?_⟩
  obtain ⟨res, hmatch, hdoc⟩ := h.2 did hdid
  exact ⟨res, hmatch, hdoc.2⟩

/-- A DID whose document has endpoints that all carry a TL. -/
def Trusted [Truthy TL] (self : ResolveResponse TL) (did : Did) : Prop :=
  ∃ res ∈ items self.resolvedResults, res.did = did ∧
    ∃ doc, res.resolvedDoc = some doc ∧ items doc.endpoints ≠ [] ∧
      ∀ endpoint ∈ items doc.endpoints, truthy endpoint.trustList = true

/-- An accepted response trusts every DID it names. -/
theorem trusted_of_verdict [Truthy TL] {self : ResolveResponse TL}
    (h : self.Verdict ResolveResponse.HasTl) {did : Did} (hdid : self.Named did) :
    Trusted self did := by
  obtain ⟨res, hmatch, hends, htl⟩ := h.2 did hdid
  have hmem : res ∈ items self.resolvedResults := List.mem_of_find?_eq_some hmatch
  have heq : did = res.did := by
    unfold ResolveResponse.matched at hmatch
    have hbeq := List.find?_some hmatch
    exact eq_of_beq hbeq
  refine ⟨res, hmem, heq.symm, ?_⟩
  obtain ⟨d, doc⟩ := res
  cases doc with
  | none => exact absurd rfl hends
  | some doc => exact ⟨doc, rfl, hends, htl⟩

/-- Every input pointer is the pointer of some entry of the answer. -/
def AnswersInputs (context : ContextType TL) : Prop :=
  ∀ p ∈ context.trustFrameworkPointers,
    ∃ rp ∈ items context.resolveResponse.trustSchemePointers, rp.pointer = p

/-- **The success scenario is sound** — when it passes, every input pointer has an entry with DIDs,
    each with a document whose endpoints carry a TL, and an answer that leaves an input pointer out
    is refused — exactly when the answer names every input pointer, or the TL check refuses it. -/
theorem trustDiscoverySucceeds_sound_iff [Truthy TL] (py : SetBuilder Did)
    (context : ContextType TL) :
    ((Passes (trustDiscoverySucceeds py context) →
        ∀ p ∈ context.trustFrameworkPointers,
          ∃ rp ∈ items context.resolveResponse.trustSchemePointers, rp.pointer = p ∧
            items rp.dids ≠ [] ∧
            ∀ did ∈ items rp.dids, Trusted context.resolveResponse did) ∧
      ((∃ p ∈ context.trustFrameworkPointers,
          ∀ rp ∈ items context.resolveResponse.trustSchemePointers, rp.pointer ≠ p) →
        Raises (trustDiscoverySucceeds py context))) ↔
      AnswersInputs context ∨ ¬ context.resolveResponse.Verdict ResolveResponse.HasTl := by
  rw [raises_iff_not_passes, trustDiscoverySucceeds_passes_iff]
  constructor
  · rintro ⟨hsound, -⟩
    -- an accepted answer is sound only if it names every input pointer
    by_cases hverdict : context.resolveResponse.Verdict ResolveResponse.HasTl
    · left
      intro p hp
      obtain ⟨rp, hrp, heq, -⟩ := hsound hverdict p hp
      exact ⟨rp, hrp, heq⟩
    · exact Or.inr hverdict
  · rintro (hinputs | hrefused)
    · constructor
      · intro hverdict p hp
        obtain ⟨rp, hrp, heq⟩ := hinputs p hp
        refine ⟨rp, hrp, heq, hverdict.1.2 rp hrp, fun did hdid => ?_⟩
        exact trusted_of_verdict hverdict ⟨rp, hrp, hdid⟩
      · rintro ⟨p, hp, hmissing⟩
        obtain ⟨rp, hrp, heq⟩ := hinputs p hp
        exact absurd heq (hmissing rp hrp)
    · exact ⟨fun hverdict => absurd hverdict hrefused, fun _ => hrefused⟩

/-- An answer to one of the two input pointers passes the scenario. -/
theorem trustDiscoverySucceeds_partialAnswer :
    let context : ContextType String :=
      ⟨inputs ["gxfs.test.train.trust-scheme.de", "alice.trust.train1.xfsc.dev"],
        ResolveResponse.oneEndpointResponse (some "<TL/>")⟩
    Passes (trustDiscoverySucceeds (SetBuilder.dedup Did) context) ∧
      ¬ ∃ rp ∈ items context.resolveResponse.trustSchemePointers,
        rp.pointer = "alice.trust.train1.xfsc.dev" := by
  decide

end ResolverOnClient

end TrainBdd
