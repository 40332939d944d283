/-
  What the two trust-list (TL) checks of `models/resolve_response.py` DECIDE.

  1. **Specification** — `Verdict docOk r`: every pointer of the response has a DID, and every DID is
     matched with a result that satisfies `docOk`.  It speaks of members only, never of loops.

  2. **Refinement** — `haveTl_passes_iff` and `notHaveTl_passes_iff`: each check returns exactly on its
     `Verdict`.  The second check's document test is the OPPOSITE of its docstring: it asks every
     endpoint to carry a TL.

  3. **Consequences** — the first check decides its sentence (`assertResolvedDidDoHaveAtLeastOneTl_correct`);
     the second does exactly when the endpoints it consults cannot tell the two tests apart
     (`assertResolvedDidDoNotHaveATl_correct_iff`).

  4. **Order** — the verdicts see the response as members, up to the FIRST result of a DID.  So the
     order of pointers and DIDs is irrelevant, and the order of the results is irrelevant as soon as
     results that share a DID agree (`verdict_iff_of_permuted`).
-/
import TrainBdd.ResolveResponse

namespace TrainBdd

open Python

namespace ResolveResponse

variable {TL : Type}

/-! ## The specification -/

/-- Every pointer has a DID, and the result each DID is matched with satisfies `docOk`. -/
def Verdict (docOk : ResolvedDid TL → Prop) (self : ResolveResponse TL) : Prop :=
  self.AllPointersResolved ∧
    ∀ did, self.Named did → ∃ res, self.matched did = some res ∧ docOk res

/-- The document of a result has endpoints, and each carries a non-empty TL. -/
def HasTl [Truthy TL] (res : ResolvedDid TL) : Prop :=
  res.endpoints ≠ [] ∧ ∀ endpoint ∈ res.endpoints, truthy endpoint.trustList = true

/-- No endpoint of a result carries a non-empty TL. -/
def HasNoTl [Truthy TL] (res : ResolvedDid TL) : Prop :=
  ∀ endpoint ∈ res.endpoints, truthy endpoint.trustList = false

/-- What the second check really tests: no endpoint LACKS a non-empty TL. -/
def LacksNoTl [Truthy TL] (res : ResolvedDid TL) : Prop :=
  ∀ endpoint ∈ res.endpoints, truthy endpoint.trustList = true

/-- The shape both checks reduce to: a search at every DID of every pointer. -/
theorem verdict_iff_forall_pointers (docOk : ResolvedDid TL → Prop) (self : ResolveResponse TL) :
    self.Verdict docOk ↔
      self.AllPointersResolved ∧ ∀ rp ∈ items self.trustSchemePointers,
        ∀ did ∈ items rp.dids, ∃ res, self.matched did = some res ∧ docOk res := by
  refine and_congr_right fun _ => ?_
  constructor
  · intro h rp hrp did hdid
    exact h did ⟨rp, hrp, hdid⟩
  · rintro h did ⟨rp, hrp, hdid⟩
    exact h rp hrp did hdid

/-! The specification can be evaluated. -/

instance {α : Type} (P : α → Prop) [DecidablePred P] :
    (o : Option α) → Decidable (∃ a, o = some a ∧ P a)
  | none => isFalse fun ⟨_, h, _⟩ => nomatch h
  | some a => decidable_of_iff (P a) ⟨fun h => ⟨a, rfl, h⟩, fun ⟨_, h, hP⟩ => Option.some.inj h ▸ hP⟩

instance [Truthy TL] : DecidablePred (@HasTl TL _) :=
  fun res => inferInstanceAs (Decidable (_ ∧ ∀ endpoint ∈ res.endpoints, _))

instance [Truthy TL] : DecidablePred (@HasNoTl TL _) :=
  fun res => inferInstanceAs (Decidable (∀ endpoint ∈ res.endpoints, _))

instance (self : ResolveResponse TL) : Decidable self.AllPointersResolved :=
  inferInstanceAs (Decidable (_ ∧ ∀ rp ∈ items self.trustSchemePointers, _))

instance (docOk : ResolvedDid TL → Prop) [DecidablePred docOk] (self : ResolveResponse TL) :
    Decidable (self.Verdict docOk) :=
  decidable_of_iff _ (verdict_iff_forall_pointers docOk self).symm

/-! ## Each check refines its verdict -/

/-- The document test of the first check, as the call its loop makes before the `break`. -/
def checkHasTl [Truthy TL] (pointer : TrustFrameworkPointer) (did : Did) (res : ResolvedDid TL) :
    Except AssertionError Unit :=
  match res.resolvedDoc with
  | none => throw ⟨"doesn't have a `resolvedDoc` for TL, ", pointer, did⟩
  | some resolvedDoc =>
    if ¬ truthy resolvedDoc.endpoints then
      throw ⟨"doesn't have a `endpoints` for TL, ", pointer, did⟩
    else
      forM (items resolvedDoc.endpoints) fun endpoint =>
        if ¬ truthy endpoint.trustList then
          throw ⟨"doesn't have a TL, see:\n ", pointer, did⟩
        else
          return

theorem checkHasTl_passes_iff [Truthy TL] (pointer : TrustFrameworkPointer) (did : Did)
    (res : ResolvedDid TL) : Passes (checkHasTl pointer did res) ↔ HasTl res := by
  obtain ⟨d, doc⟩ := res
  cases doc with
  | none => simp [checkHasTl, HasTl, ResolvedDid.endpoints]
  | some doc => simp [checkHasTl, HasTl, ResolvedDid.endpoints, truthy_list_iff]

/-- The document test of the second check.  Without a document the loop breaks at once, as over an
    empty endpoint list. -/
def checkLacksNoTl [Truthy TL] (pointer : TrustFrameworkPointer) (did : Did) (res : ResolvedDid TL) :
    Except AssertionError Unit :=
  forM res.endpoints fun endpoint =>
    if ¬ truthy endpoint.trustList then throw ⟨"have a TL,", pointer, did⟩ else return

theorem checkLacksNoTl_passes_iff [Truthy TL] (pointer : TrustFrameworkPointer) (did : Did)
    (res : ResolvedDid TL) : Passes (checkLacksNoTl pointer did res) ↔ LacksNoTl res := by
  simp [checkLacksNoTl, LacksNoTl]

/-- The result loop of the first check is a lookup. -/
theorem haveTl_eq [Truthy TL] (py : SetBuilder Did) (self : ResolveResponse TL) :
    self.assertResolvedDidDoHaveAtLeastOneTl py = self.forEachDid py fun pointer did =>
      (self.matched did).elim
        (throw { text := "doesn't match any DID from trust scheme pointer, ", did := did })
        (checkHasTl pointer did) := by
  unfold assertResolvedDidDoHaveAtLeastOneTl
  refine congrArg (self.forEachDid py) (funext₂ fun pointer did => ?_)
  refine forElse_eq_find? ?_ ?_ _ _
  · intro res hne
    simp [hne, pure, Except.pure]
  · intro res heq
    obtain ⟨d, doc⟩ := res
    cases doc with
    | none =>
      simp only [heq, if_true]
      rfl
    | some doc =>
      by_cases hends : truthy doc.endpoints = true
      · simp [checkHasTl, heq, hends]
      · simp only [checkHasTl, heq, hends]
        rfl

theorem haveTl_passes_iff [Truthy TL] (py : SetBuilder Did) (self : ResolveResponse TL) :
    Passes (self.assertResolvedDidDoHaveAtLeastOneTl py) ↔ self.Verdict HasTl := by
  rw [haveTl_eq, forEachDid_passes_iff, verdict_iff_forall_pointers]
  refine and_congr_right fun _ => forall₂_congr fun rp _ => forall₂_congr fun did _ => ?_
  rw [matched_passes_iff]
  exact exists_congr fun res => and_congr_right fun _ => checkHasTl_passes_iff rp.pointer did res

/-- And so is that of the second check. -/
theorem notHaveTl_eq [Truthy TL] (py : SetBuilder Did) (self : ResolveResponse TL) :
    self.assertResolvedDidDoNotHaveATl py = self.forEachDid py fun pointer did =>
      (self.matched did).elim
        (throw { text := "doesn't match any DID from trust scheme pointer", did := did })
        (checkLacksNoTl pointer did) := by
  unfold assertResolvedDidDoNotHaveATl
  refine congrArg (self.forEachDid py) (funext₂ fun pointer did => ?_)
  refine forElse_eq_find? ?_ ?_ _ _
  · intro res hne
    simp [hne, pure, Except.pure]
  · intro res heq
    obtain ⟨d, doc⟩ := res
    cases doc with
    | none =>
      simp only [heq, if_true]
      rfl
    | some doc =>
      simp only [heq, if_true]
      rfl

theorem notHaveTl_passes_iff [Truthy TL] (py : SetBuilder Did) (self : ResolveResponse TL) :
    Passes (self.assertResolvedDidDoNotHaveATl py) ↔ self.Verdict LacksNoTl := by
  rw [notHaveTl_eq, forEachDid_passes_iff, verdict_iff_forall_pointers]
  refine and_congr_right fun _ => forall₂_congr fun rp _ => forall₂_congr fun did _ => ?_
  rw [matched_passes_iff]
  exact exists_congr fun res => and_congr_right fun _ => checkLacksNoTl_passes_iff rp.pointer did res

/-! ## The first check decides its sentence -/

/-- Results of DIDs that no pointer names play no part in a verdict. -/
theorem verdict_congr_of_named {docOk : ResolvedDid TL → Prop} {self other : ResolveResponse TL}
    (htsp : other.trustSchemePointers = self.trustSchemePointers)
    (hres : ∀ did, self.Named did →
      (items other.resolvedResults).filter (fun res => did == res.did) =
        (items self.resolvedResults).filter fun res => did == res.did) :
    other.Verdict docOk ↔ self.Verdict docOk := by
  have hnamed : ∀ did, other.Named did ↔ self.Named did := fun did => by
    unfold Named
    rw [htsp]
  have hmatched : ∀ did, self.Named did → other.matched did = self.matched did := fun did hdid => by
    unfold matched
    rw [← List.head?_filter, ← List.head?_filter, hres did hdid]
  unfold Verdict AllPointersResolved
  rw [htsp]
  refine and_congr_right fun _ => forall_congr' fun did => ?_
  constructor
  · intro h hdid
    rw [← hmatched did hdid]
    exact h ((hnamed did).mpr hdid)
  · intro h hdid
    have hself := (hnamed did).mp hdid
    rw [hmatched did hself]
    exact h hself

/-- A verdict needs a result for at least one DID. -/
theorem not_verdict_of_no_results {docOk : ResolvedDid TL → Prop} {self : ResolveResponse TL}
    (h : items self.resolvedResults = []) : ¬ self.Verdict docOk := by
  rintro ⟨⟨htsp, hdids⟩, hall⟩
  obtain ⟨rp, hrp⟩ := List.exists_mem_of_ne_nil _ htsp
  obtain ⟨did, hdid⟩ := List.exists_mem_of_ne_nil _ (hdids rp hrp)
  obtain ⟨res, hres, -⟩ := hall did ⟨rp, hrp, hdid⟩
  rw [matched, h] at hres
  nomatch hres

/-- **`assert_resolved_did_do_have_at_least_one_tl` decides its sentence**: it returns when every DID
    of every pointer is matched with a document whose endpoints all carry a TL, and raises otherwise;
    a response without results is refused, and results of unnamed DIDs never matter. -/
theorem assertResolvedDidDoHaveAtLeastOneTl_correct [Truthy TL] (py : SetBuilder Did)
    (self : ResolveResponse TL) :
    (Passes (self.assertResolvedDidDoHaveAtLeastOneTl py) ↔
      items self.trustSchemePointers ≠ [] ∧
      (∀ rp ∈ items self.trustSchemePointers, items rp.dids ≠ []) ∧
      ∀ rp ∈ items self.trustSchemePointers, ∀ did ∈ items rp.dids,
        ∃ res doc, (items self.resolvedResults).find? (fun res => did == res.did) = some res ∧
          res.resolvedDoc = some doc ∧ items doc.endpoints ≠ [] ∧
          ∀ endpoint ∈ items doc.endpoints, truthy endpoint.trustList = true) ∧
    (Raises (self.assertResolvedDidDoHaveAtLeastOneTl py) ↔
      ¬ Passes (self.assertResolvedDidDoHaveAtLeastOneTl py)) ∧
    (items self.resolvedResults = [] → Raises (self.assertResolvedDidDoHaveAtLeastOneTl py)) ∧
    ∀ (py' : SetBuilder Did) (other : ResolveResponse TL),
      other.trustSchemePointers = self.trustSchemePointers →
      (∀ did, self.Named did →
        (items other.resolvedResults).filter (fun res => did == res.did) =
          (items self.resolvedResults).filter fun res => did == res.did) →
      (Passes (other.assertResolvedDidDoHaveAtLeastOneTl py') ↔
        Passes (self.assertResolvedDidDoHaveAtLeastOneTl py)) := by
  refine ⟨?_, raises_iff_not_passes _, fun hnone => ?_, fun py' other htsp hres => ?_⟩
  · rw [haveTl_passes_iff, verdict_iff_forall_pointers, AllPointersResolved, and_assoc]
    refine and_congr_right fun _ => and_congr_right fun _ => forall₂_congr fun rp _ =>
      forall₂_congr fun did _ => exists_congr fun res => ?_
    show self.matched did = some res ∧ HasTl res ↔
      ∃ doc, self.matched did = some res ∧ _
    obtain ⟨d, doc⟩ := res
    cases doc with
    | none => simp [HasTl, ResolvedDid.endpoints]
    | some doc => simp [HasTl, ResolvedDid.endpoints]
  · rw [raises_iff_not_passes, haveTl_passes_iff]
    exact not_verdict_of_no_results hnone
  · rw [haveTl_passes_iff, haveTl_passes_iff]
    exact verdict_congr_of_named htsp hres

/-! ## The second check decides the opposite of its sentence -/

/-- The check reads an endpoint: it belongs to the result some named DID is matched with. -/
def Consulted (self : ResolveResponse TL) (endpoint : Endpoint TL) : Prop :=
  ∃ did, self.Named did ∧ ∃ res, self.matched did = some res ∧ endpoint ∈ res.endpoints

/-- Every pointer has a DID and every DID a result: what both readings of the check ask for. -/
def Answered (self : ResolveResponse TL) : Prop := self.Verdict fun _ => True

/-- A verdict on endpoints is an answered response whose consulted endpoints satisfy it. -/
theorem verdict_forall_endpoints_iff (ok : Endpoint TL → Prop) (self : ResolveResponse TL) :
    self.Verdict (fun res => ∀ endpoint ∈ res.endpoints, ok endpoint) ↔
      self.Answered ∧ ∀ endpoint, self.Consulted endpoint → ok endpoint := by
  constructor
  · rintro ⟨hres, hall⟩
    refine ⟨⟨hres, fun did hdid => ?_⟩, ?_⟩
    · obtain ⟨res, hmatch, -⟩ := hall did hdid
      exact ⟨res, hmatch, trivial⟩
    · rintro endpoint ⟨did, hdid, res, hmatch, hmem⟩
      obtain ⟨res', hmatch', hok⟩ := hall did hdid
      have heq : res = res' := Option.some.inj (hmatch.symm.trans hmatch')
      exact hok endpoint (heq ▸ hmem)
  · rintro ⟨⟨hres, hall⟩, hok⟩
    refine ⟨hres, fun did hdid => ?_⟩
    obtain ⟨res, hmatch, -⟩ := hall did hdid
    exact ⟨res, hmatch, fun endpoint hmem => hok endpoint ⟨did, hdid, res, hmatch, hmem⟩⟩

/-- The check reads no endpoint at all, or both one with a TL and one without: there the two
    opposite tests agree. -/
def TlTestsAgree [Truthy TL] (self : ResolveResponse TL) : Prop :=
  (∀ endpoint, ¬ self.Consulted endpoint) ∨
    (∃ endpoint, self.Consulted endpoint ∧ truthy endpoint.trustList = true) ∧
      ∃ endpoint, self.Consulted endpoint ∧ truthy endpoint.trustList = false

/-- **`assert_resolved_did_do_not_have_a_tl` decides its sentence** — "every DID of every pointer is
    matched with a result, and no endpoint of it carries a TL" — exactly on the responses that both
    readings refuse beforehand and on those whose endpoints do not tell the readings apart. -/
theorem assertResolvedDidDoNotHaveATl_correct_iff [Truthy TL] (py : SetBuilder Did)
    (self : ResolveResponse TL) :
    ((Passes (self.assertResolvedDidDoNotHaveATl py) ↔ self.Verdict HasNoTl) ∧
      (Raises (self.assertResolvedDidDoNotHaveATl py) ↔ ¬ self.Verdict HasNoTl)) ↔
      (¬ self.Answered ∨ self.TlTestsAgree) := by
  have hnone : self.Verdict HasNoTl ↔
      self.Answered ∧ ∀ endpoint, self.Consulted endpoint → truthy endpoint.trustList = false :=
    verdict_forall_endpoints_iff (fun endpoint => truthy endpoint.trustList = false) self
  have hall : self.Verdict LacksNoTl ↔
      self.Answered ∧ ∀ endpoint, self.Consulted endpoint → truthy endpoint.trustList = true :=
    verdict_forall_endpoints_iff (fun endpoint => truthy endpoint.trustList = true) self
  rw [raises_iff_not_passes, notHaveTl_passes_iff, not_iff_not, and_self, hnone, hall]
  constructor
  · intro hagree
    by_cases hans : self.Answered
    · right
      by_cases hsome : ∃ endpoint, self.Consulted endpoint
      · -- one consulted endpoint: if all were alike, exactly one of the readings would accept
        right
        obtain ⟨endpoint, hmem⟩ := hsome
        constructor
        · by_contra hnot
          have hfalse : ∀ e, self.Consulted e → truthy e.trustList = false := fun e he =>
            Bool.eq_false_iff.mpr fun ht => hnot ⟨e, he, ht⟩
          have htrue := (hagree.mpr ⟨hans, hfalse⟩).2 endpoint hmem
          rw [hfalse endpoint hmem] at htrue
          nomatch htrue
        · by_contra hnot
          have htrue : ∀ e, self.Consulted e → truthy e.trustList = true := fun e he =>
            Bool.not_eq_false _ ▸ fun hf => hnot ⟨e, he, hf⟩
          have hfalse := (hagree.mp ⟨hans, htrue⟩).2 endpoint hmem
          rw [htrue endpoint hmem] at hfalse
          nomatch hfalse
      · exact Or.inl fun endpoint hmem => hsome ⟨endpoint, hmem⟩
    · exact Or.inl hans
  · rintro (hans | hempty | ⟨⟨e₁, h₁, htrue⟩, e₂, h₂, hfalse⟩)
    · exact ⟨fun h => absurd h.1 hans, fun h => absurd h.1 hans⟩
    · exact and_congr_right fun _ =>
        ⟨fun _ e he => absurd he (hempty e), fun _ e he => absurd he (hempty e)⟩
    · -- two endpoints that differ: neither reading accepts
      constructor
      · rintro ⟨-, h⟩
        exact absurd (h e₂ h₂) (by simp [hfalse])
      · rintro ⟨-, h⟩
        exact absurd (h e₁ h₁) (by simp [htrue])

/-- A pointer whose DID has one endpoint, with the given trust list. -/
def oneEndpointResponse (trustList : Option String) : ResolveResponse String where
  trustSchemePointers := some [⟨"gxfs.test.train.trust-scheme.de", some ["did:web:essif"]⟩]
  resolvedResults := some [⟨"did:web:essif", some ⟨some [⟨trustList⟩]⟩⟩]

/-- The check refuses a response without a TL and accepts one with a TL. -/
theorem assertResolvedDidDoNotHaveATl_inverted :
    ((oneEndpointResponse none).Verdict HasNoTl ∧
      Raises ((oneEndpointResponse none).assertResolvedDidDoNotHaveATl (SetBuilder.dedup Did))) ∧
    (¬ (oneEndpointResponse (some "<TL/>")).Verdict HasNoTl ∧
      Passes ((oneEndpointResponse (some "<TL/>")).assertResolvedDidDoNotHaveATl
        (SetBuilder.dedup Did))) := by
  decide

/-! ## The order of a response -/

/-- The same pointer with its DIDs in another order. -/
def SameEntry (rp rp' : ResolvedPointer) : Prop :=
  rp.pointer = rp'.pointer ∧ Option.Rel List.Perm rp.dids rp'.dids

/-- Two responses that differ only in the order of the results, of the pointers and of the DIDs
    inside a pointer. -/
structure Permuted (one other : ResolveResponse TL) : Prop where
  results : Option.Rel List.Perm one.resolvedResults other.resolvedResults
  pointers : ∃ mid, Option.Rel List.Perm one.trustSchemePointers mid ∧
    Option.Rel (List.Forall₂ SameEntry) mid other.trustSchemePointers

theorem perm_items_of_rel {α : Type} {xs ys : Option (List α)} (h : Option.Rel List.Perm xs ys) :
    (items xs).Perm (items ys) := by
  cases h with
  | some h => exact h
  | none => exact List.Perm.refl _

theorem forall₂_items_of_rel {α β : Type} {R : α → β → Prop} {xs : Option (List α)}
    {ys : Option (List β)} (h : Option.Rel (List.Forall₂ R) xs ys) :
    List.Forall₂ R (items xs) (items ys) := by
  cases h with
  | some h => exact h
  | none => exact List.Forall₂.nil

/-- In corresponding lists every member on the left has a partner on the right. -/
theorem exists_of_forall₂ {α β : Type} {R : α → β → Prop} {xs : List α} {ys : List β}
    (h : List.Forall₂ R xs ys) : ∀ x ∈ xs, ∃ y ∈ ys, R x y := by
  induction h with
  | nil => exact fun x hx => absurd hx List.not_mem_nil
  | @cons a b xs ys hab _ ih =>
    intro x hx
    rcases List.mem_cons.mp hx with rfl | hx
    · exact ⟨b, List.mem_cons_self, hab⟩
    · obtain ⟨y, hy, hxy⟩ := ih x hx
      exact ⟨y, List.mem_cons_of_mem b hy, hxy⟩

namespace Permuted

variable {self other : ResolveResponse TL}

/-- Every entry of the first response stands in the second, up to the order of its DIDs. -/
theorem exists_right (h : self.Permuted other) :
    ∀ rp ∈ items self.trustSchemePointers,
      ∃ rp' ∈ items other.trustSchemePointers, SameEntry rp rp' := by
  obtain ⟨mid, hperm, hsame⟩ := h.pointers
  intro rp hrp
  have hmid : rp ∈ items mid := (perm_items_of_rel hperm).mem_iff.mp hrp
  exact exists_of_forall₂ (forall₂_items_of_rel hsame) rp hmid

theorem exists_left (h : self.Permuted other) :
    ∀ rp' ∈ items other.trustSchemePointers,
      ∃ rp ∈ items self.trustSchemePointers, SameEntry rp rp' := by
  obtain ⟨mid, hperm, hsame⟩ := h.pointers
  intro rp' hrp'
  obtain ⟨rp, hmid, hrel⟩ := exists_of_forall₂ (forall₂_items_of_rel hsame).flip rp' hrp'
  exact ⟨rp, (perm_items_of_rel hperm).mem_iff.mpr hmid, hrel⟩

theorem named_iff (h : self.Permuted other) (did : Did) : self.Named did ↔ other.Named did := by
  constructor
  · rintro ⟨rp, hrp, hdid⟩
    obtain ⟨rp', hrp', -, hdids⟩ := h.exists_right rp hrp
    exact ⟨rp', hrp', (perm_items_of_rel hdids).mem_iff.mp hdid⟩
  · rintro ⟨rp', hrp', hdid⟩
    obtain ⟨rp, hrp, -, hdids⟩ := h.exists_left rp' hrp'
    exact ⟨rp, hrp, (perm_items_of_rel hdids).mem_iff.mpr hdid⟩

theorem allPointersResolved_iff (h : self.Permuted other) :
    self.AllPointersResolved ↔ other.AllPointersResolved := by
  constructor
  · rintro ⟨hne, hdids⟩
    constructor
    · obtain ⟨rp, hrp⟩ := List.exists_mem_of_ne_nil _ hne
      obtain ⟨rp', hrp', -⟩ := h.exists_right rp hrp
      exact List.ne_nil_of_mem hrp'
    · intro rp' hrp' hnil
      obtain ⟨rp, hrp, -, hperm⟩ := h.exists_left rp' hrp'
      exact hdids rp hrp ((hnil ▸ perm_items_of_rel hperm).eq_nil)
  · rintro ⟨hne, hdids⟩
    constructor
    · obtain ⟨rp', hrp'⟩ := List.exists_mem_of_ne_nil _ hne
      obtain ⟨rp, hrp, -⟩ := h.exists_left rp' hrp'
      exact List.ne_nil_of_mem hrp
    · intro rp hrp hnil
      obtain ⟨rp', hrp', -, hperm⟩ := h.exists_right rp hrp
      exact hdids rp' hrp' ((hnil ▸ perm_items_of_rel hperm).symm.eq_nil)

end Permuted

/-- Results that share a DID some pointer names agree on a document test. -/
def ResultsAgree (docOk : ResolvedDid TL → Prop) (self : ResolveResponse TL) : Prop :=
  ∀ did, self.Named did → ∀ res ∈ items self.resolvedResults, ∀ res' ∈ items self.resolvedResults,
    res.did = did → res'.did = did → (docOk res ↔ docOk res')

/-- In particular when no DID is listed twice. -/
theorem resultsAgree_of_nodup {docOk : ResolvedDid TL → Prop} {self : ResolveResponse TL}
    (h : ((items self.resolvedResults).map (·.did)).Nodup) : self.ResultsAgree docOk := by
  intro did _ res hres res' hres' heq heq'
  rw [List.inj_on_of_nodup_map h hres hres' (heq.trans heq'.symm)]

/-- Where results agree, a DID's verdict is about SOME result of that DID. -/
theorem exists_matched_iff_exists_mem {docOk : ResolvedDid TL → Prop} {self : ResolveResponse TL}
    (hagree : self.ResultsAgree docOk) {did : Did} (hdid : self.Named did) :
    (∃ res, self.matched did = some res ∧ docOk res) ↔
      ∃ res ∈ items self.resolvedResults, (did == res.did) = true ∧ docOk res := by
  refine find?_and_iff_exists_mem fun res hres res' hres' heq heq' => ?_
  exact hagree did hdid res hres res' hres' (beq_iff_eq.mp heq).symm (beq_iff_eq.mp heq').symm

/-- **A verdict is blind to order** where results that share a DID agree. -/
theorem verdict_iff_of_permuted {docOk : ResolvedDid TL → Prop} {self other : ResolveResponse TL}
    (hagree : self.ResultsAgree docOk) (h : self.Permuted other) :
    self.Verdict docOk ↔ other.Verdict docOk := by
  have hperm := perm_items_of_rel h.results
  have hagree' : other.ResultsAgree docOk := fun did hdid res hres res' hres' =>
    hagree did ((h.named_iff did).mpr hdid) res (hperm.mem_iff.mpr hres) res'
      (hperm.mem_iff.mpr hres')
  refine and_congr h.allPointersResolved_iff (forall_congr' fun did => ?_)
  -- asked of SOME result of the DID, the test does not see where the result stands
  constructor
  · intro hself hdid
    have hdid' := (h.named_iff did).mpr hdid
    obtain ⟨res, hres, hok⟩ := (exists_matched_iff_exists_mem hagree hdid').mp (hself hdid')
    exact (exists_matched_iff_exists_mem hagree' hdid).mpr ⟨res, hperm.mem_iff.mp hres, hok⟩
  · intro hother hdid
    have hdid' := (h.named_iff did).mp hdid
    obtain ⟨res, hres, hok⟩ := (exists_matched_iff_exists_mem hagree' hdid').mp (hother hdid')
    exact (exists_matched_iff_exists_mem hagree hdid).mpr ⟨res, hperm.mem_iff.mpr hres, hok⟩

/-- With the results left in place, the order of pointers and DIDs alone is never seen. -/
theorem verdict_iff_of_permuted_pointers {docOk : ResolvedDid TL → Prop}
    {self other : ResolveResponse TL} (hres : other.resolvedResults = self.resolvedResults)
    (h : self.Permuted other) : self.Verdict docOk ↔ other.Verdict docOk := by
  refine and_congr h.allPointersResolved_iff (forall_congr' fun did => ?_)
  have hmatched : other.matched did = self.matched did := by rw [matched, matched, hres]
  rw [h.named_iff did, hmatched]

/-- **Order independence of the trust-list verdicts.**  Two answers that differ only in order get the
    same verdict from a check when results that share a DID agree on its document test, and always
    when only pointers and DIDs are reordered. -/
theorem tlChecks_iff_of_permuted [Truthy TL] (py py' : SetBuilder Did)
    {self other : ResolveResponse TL} (h : self.Permuted other) :
    (self.ResultsAgree HasTl ∨ other.resolvedResults = self.resolvedResults →
      (Passes (self.assertResolvedDidDoHaveAtLeastOneTl py) ↔
        Passes (other.assertResolvedDidDoHaveAtLeastOneTl py'))) ∧
    (self.ResultsAgree LacksNoTl ∨ other.resolvedResults = self.resolvedResults →
      (Passes (self.assertResolvedDidDoNotHaveATl py) ↔
        Passes (other.assertResolvedDidDoNotHaveATl py'))) := by
  rw [haveTl_passes_iff, haveTl_passes_iff, notHaveTl_passes_iff, notHaveTl_passes_iff]
  constructor
  · rintro (hagree | hsame)
    · exact verdict_iff_of_permuted hagree h
    · exact verdict_iff_of_permuted_pointers hsame h
  · rintro (hagree | hsame)
    · exact verdict_iff_of_permuted hagree h
    · exact verdict_iff_of_permuted_pointers hsame h

/-- Two pointers that share a DID; each DID has one result. -/
def sharedDidResponse : ResolveResponse String where
  trustSchemePointers := some [⟨"1-europe", some ["did:web:a", "did:web:b"]⟩, ⟨"2-spain", some ["did:web:a"]⟩]
  resolvedResults := some
    [⟨"did:web:a", some ⟨some [⟨some "<TL/>"⟩]⟩⟩, ⟨"did:web:b", some ⟨some [⟨some "<TL/>"⟩]⟩⟩]

/-- The same answer with every list the other way round. -/
def sharedDidReversed : ResolveResponse String where
  trustSchemePointers := some [⟨"2-spain", some ["did:web:a"]⟩, ⟨"1-europe", some ["did:web:b", "did:web:a"]⟩]
  resolvedResults := some
    [⟨"did:web:b", some ⟨some [⟨some "<TL/>"⟩]⟩⟩, ⟨"did:web:a", some ⟨some [⟨some "<TL/>"⟩]⟩⟩]

theorem sharedDid_permuted : sharedDidResponse.Permuted sharedDidReversed where
  results := .some (List.Perm.swap _ _ _)
  pointers := ⟨some [⟨"2-spain", some ["did:web:a"]⟩, ⟨"1-europe", some ["did:web:a", "did:web:b"]⟩],
    .some (List.Perm.swap _ _ _),
    .some (.cons ⟨rfl, .some (List.Perm.refl _)⟩ (.cons ⟨rfl, .some (List.Perm.swap _ _ _)⟩ .nil))⟩

theorem tlChecks_iff_of_permuted_sharedDid :
    (Passes (sharedDidResponse.assertResolvedDidDoHaveAtLeastOneTl (SetBuilder.dedup Did)) ↔
      Passes (sharedDidReversed.assertResolvedDidDoHaveAtLeastOneTl (SetBuilder.dedup Did))) ∧
    (Passes (sharedDidResponse.assertResolvedDidDoNotHaveATl (SetBuilder.dedup Did)) ↔
      Passes (sharedDidReversed.assertResolvedDidDoNotHaveATl (SetBuilder.dedup Did))) :=
  have h := tlChecks_iff_of_permuted (SetBuilder.dedup Did) (SetBuilder.dedup Did) sharedDid_permuted
  ⟨h.1 (Or.inl (resultsAgree_of_nodup (by decide))),
    h.2 (Or.inl (resultsAgree_of_nodup (by decide)))⟩

/-- One DID with two results: the first with a TL, the second without. -/
def twoResultsResponse : ResolveResponse String where
  trustSchemePointers := some [⟨"alice.trust.train1.xfsc.dev", some ["did:web:essif"]⟩]
  resolvedResults := some
    [⟨"did:web:essif", some ⟨some [⟨some "<TL/>"⟩]⟩⟩, ⟨"did:web:essif", some ⟨some [⟨none⟩]⟩⟩]

/-- The same answer, listed by the server the other way round. -/
def twoResultsSwapped : ResolveResponse String :=
  { twoResultsResponse with resolvedResults := (twoResultsResponse.resolvedResults).map List.reverse }

theorem twoResults_permuted : twoResultsResponse.Permuted twoResultsSwapped where
  results := .some (List.reverse_perm _).symm
  pointers := ⟨twoResultsResponse.trustSchemePointers, .some (List.Perm.refl _),
    .some (.cons ⟨rfl, .some (List.Perm.refl _)⟩ .nil)⟩

/-- Which of two contradicting results comes first decides both checks. -/
theorem tlChecks_order_dependent :
    twoResultsResponse.Permuted twoResultsSwapped ∧
    Passes (twoResultsResponse.assertResolvedDidDoHaveAtLeastOneTl (SetBuilder.dedup Did)) ∧
    Raises (twoResultsSwapped.assertResolvedDidDoHaveAtLeastOneTl (SetBuilder.dedup Did)) ∧
    Passes (twoResultsResponse.assertResolvedDidDoNotHaveATl (SetBuilder.dedup Did)) ∧
    Raises (twoResultsSwapped.assertResolvedDidDoNotHaveATl (SetBuilder.dedup Did)) :=
  ⟨twoResults_permuted, by decide, by decide, by decide, by decide⟩

end ResolveResponse

end TrainBdd
