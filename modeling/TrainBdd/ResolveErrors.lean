/-
  What the trust-list (TL) checks of `models/resolve_response.py` REPORT when they refuse a response.

  1. **Reports** — `Report`: the message and the pointer and DID it names, as facts about the response:
     a pointer without a DID is reported before any document is looked at, and a defect of a document
     belongs to the FIRST pointer that has a refused DID.

  2. **Search** — the inner loop is a lookup (`haveTl_eq`, `notHaveTl_eq`): its error is that of the
     matched result, or of the missing one.

  3. **Reports are the truth** — `haveTl_reports_iff` and `notHaveTl_reports_iff`: over all set orders
     the errors raised are the true reports, no more and no fewer.  The second check's "have a TL," is
     true of no response: it is raised for an endpoint WITHOUT one.
-/
import TrainBdd.ResolveVerdict

namespace TrainBdd

open Python

namespace ResolveResponse

variable {TL : Type}

/-! ## What a report says -/

/-- The DID is matched with a result that satisfies `docOk`. -/
def Accepts (docOk : ResolvedDid TL → Prop) (self : ResolveResponse TL) (did : Did) : Prop :=
  ∃ res, self.matched did = some res ∧ docOk res

/-- The pointer has the DID, which is refused, and no pointer before it has a refused DID. -/
def FirstRefused (docOk : ResolvedDid TL → Prop) (self : ResolveResponse TL) (rp : ResolvedPointer)
    (did : Did) : Prop :=
  ∃ done rest, items self.trustSchemePointers = done ++ rp :: rest ∧
    (∀ earlier ∈ done, ∀ d ∈ items earlier.dids, self.Accepts docOk d) ∧
    did ∈ items rp.dids ∧ ¬ self.Accepts docOk did

/-- The errors that are true of a response, with the text for a DID without a result and the texts
    for the defects of a document. -/
inductive Report (docOk : ResolvedDid TL → Prop) (unmatched : String)
    (Defect : ResolvedDid TL → String → Prop) (self : ResolveResponse TL) : AssertionError → Prop
  | noPointer (h : items self.trustSchemePointers = []) :
      Report docOk unmatched Defect self { text := "Empty trust_scheme_pointers" }
  | noDid {rp : ResolvedPointer} (hrp : rp ∈ items self.trustSchemePointers) (h : items rp.dids = []) :
      Report docOk unmatched Defect self { text := "Not all pointer resolved with a DID," }
  | noResult {rp : ResolvedPointer} {did : Did} (hall : self.AllPointersResolved)
      (hfirst : self.FirstRefused docOk rp did) (h : self.matched did = none) :
      Report docOk unmatched Defect self { text := unmatched, did := did }
  | document {rp : ResolvedPointer} {did : Did} {res : ResolvedDid TL} {text : String}
      (hall : self.AllPointersResolved) (hfirst : self.FirstRefused docOk rp did)
      (h : self.matched did = some res) (hdefect : Defect res text) :
      Report docOk unmatched Defect self ⟨text, rp.pointer, did⟩

/-- What the first check says of a document. -/
inductive TlDefect [Truthy TL] (res : ResolvedDid TL) : String → Prop
  | noDocument (h : res.resolvedDoc = none) : TlDefect res "doesn't have a `resolvedDoc` for TL, "
  | noEndpoints {doc : ResolvedDoc TL} (hdoc : res.resolvedDoc = some doc)
      (h : items doc.endpoints = []) : TlDefect res "doesn't have a `endpoints` for TL, "
  | noTl {endpoint : Endpoint TL} (hmem : endpoint ∈ res.endpoints)
      (h : truthy endpoint.trustList = false) : TlDefect res "doesn't have a TL, see:\n "

/-- What the second check says of a document, and of which one. -/
inductive TlMisreport [Truthy TL] (res : ResolvedDid TL) : String → Prop
  | haveTl {endpoint : Endpoint TL} (hmem : endpoint ∈ res.endpoints)
      (h : truthy endpoint.trustList = false) : TlMisreport res "have a TL,"

/-! ## The generator's errors -/

/-- Without a defect the pairs are the pointers with their sets, in order. -/
theorem assertPointers_tuple_eq (py : SetBuilder Did) {self : ResolveResponse TL}
    (h : self.AllPointersResolved) :
    (self.assertPointersAreResolvedWithAtLeastOneDid py).tuple =
      .ok ((items self.trustSchemePointers).map fun rp => (rp.pointer, py.set (items rp.dids))) := by
  unfold assertPointersAreResolvedWithAtLeastOneDid
  rw [if_neg (not_not.2 ((truthy_list_iff _).2 h.1))]
  refine Generator.tuple_each_of_ok fun rp hrp => ?_
  rw [if_neg (not_not.2 ((truthy_list_iff _).2 (h.2 rp hrp)))]
  rfl

theorem assertPointers_eq_error_iff (py : SetBuilder Did) (self : ResolveResponse TL)
    (e : AssertionError) :
    (self.assertPointersAreResolvedWithAtLeastOneDid py).tuple = .error e ↔
      (items self.trustSchemePointers = [] ∧ e = { text := "Empty trust_scheme_pointers" }) ∨
        ((∃ rp ∈ items self.trustSchemePointers, items rp.dids = []) ∧
          e = { text := "Not all pointer resolved with a DID," }) := by
  unfold assertPointersAreResolvedWithAtLeastOneDid
  by_cases hsome : truthy self.trustSchemePointers = true
  · rw [if_neg (not_not.2 hsome), Generator.tuple_each_eq_error_iff,
      exists_raisesFirst_iff_exists_mem (p := fun rp : ResolvedPointer => items rp.dids = [])
        (e := { text := "Not all pointer resolved with a DID," })]
    · rw [truthy_list_iff] at hsome
      simp [hsome]
    · intro rp e'
      rw [guard_eq_error_iff, truthy_list_iff, not_ne_iff]
  · rw [if_pos hsome]
    rw [truthy_list_iff, not_ne_iff] at hsome
    constructor
    · intro h
      cases h
      exact Or.inl ⟨hsome, rfl⟩
    · rintro (⟨-, rfl⟩ | ⟨⟨rp, hrp, -⟩, -⟩)
      · rfl
      · rw [hsome] at hrp
        cases hrp

/-! ## The outer loops -/

/-- **The reports of the shared loops**, from what the search says of one DID. -/
theorem forEachDid_reports_iff {docOk : ResolvedDid TL → Prop} {unmatched : String}
    {Defect : ResolvedDid TL → String → Prop} {self : ResolveResponse TL}
    {body : TrustFrameworkPointer → Did → Except AssertionError Unit}
    (hpasses : ∀ pointer did, Passes (body pointer did) ↔ self.Accepts docOk did)
    (herror : ∀ pointer did e, body pointer did = .error e ↔
      (self.matched did = none ∧ e = { text := unmatched, did := did }) ∨
        ∃ res text, self.matched did = some res ∧ Defect res text ∧ e = ⟨text, pointer, did⟩)
    (e : AssertionError) :
    (∃ py, self.forEachDid py body = .error e) ↔ self.Report docOk unmatched Defect e := by
  have hloops : ∀ py, self.AllPointersResolved → self.forEachDid py body =
      forM (items self.trustSchemePointers) fun rp =>
        forM (py.set (items rp.dids)).elems (body rp.pointer) := by
    intro py hall
    unfold forEachDid
    rw [assertPointers_tuple_eq py hall]
    exact List.forM_map
  constructor
  · rintro ⟨py, h⟩
    by_cases hall : self.AllPointersResolved
    · rw [hloops py hall] at h
      obtain ⟨rp, done, rest, htsp, hdone, hrp⟩ := forM_eq_error_iff.1 h
      obtain ⟨did, _, _, hdids, -, hdid⟩ := forM_eq_error_iff.1 hrp
      have hmem : did ∈ items rp.dids :=
        (py.mem_set _ _).1 (by rw [PySet.mem_iff, hdids]; simp)
      have hrefused : ¬ self.Accepts docOk did := by
        rw [← hpasses rp.pointer, ← raises_iff_not_passes]
        exact ⟨e, hdid⟩
      have hfirst : self.FirstRefused docOk rp did := by
        refine ⟨done, rest, htsp, fun earlier hearlier d hd => ?_, hmem, hrefused⟩
        rw [← hpasses earlier.pointer]
        exact (forM_passes_iff _ _).1 (hdone earlier hearlier) d ((py.mem_set _ _).2 hd)
      rcases (herror _ _ _).1 hdid with ⟨hnone, rfl⟩ | ⟨res, text, hres, hdefect, rfl⟩
      · exact .noResult hall hfirst hnone
      · exact .document hall hfirst hres hdefect
    · -- the pairs are not there, so the loops have not begun
      have hpairs : (self.assertPointersAreResolvedWithAtLeastOneDid py).tuple = .error e := by
        rcases bind_eq_error_iff.1 h with hpairs | ⟨pairs, hpairs, -⟩
        · exact hpairs
        · exact absurd ((assertPointers_passes_iff py self).1 ⟨pairs, hpairs⟩) hall
      rcases (assertPointers_eq_error_iff py self e).1 hpairs with ⟨hnone, rfl⟩ | ⟨⟨rp, hrp, hnone⟩, rfl⟩
      · exact .noPointer hnone
      · exact .noDid hrp hnone
  · have hbegin : ∀ e, (self.assertPointersAreResolvedWithAtLeastOneDid (.dedup Did)).tuple = .error e →
        ∃ py, self.forEachDid py body = .error e :=
      fun e h => ⟨.dedup Did, bind_eq_error_iff.2 (Or.inl h)⟩
    -- some set order has the refused DID in front
    have hreach : ∀ rp did e, self.AllPointersResolved → self.FirstRefused docOk rp did →
        body rp.pointer did = .error e → ∃ py, self.forEachDid py body = .error e := by
      rintro rp did e hall ⟨done, rest, htsp, hdone, hmem, -⟩ hdid
      refine ⟨.front did, ?_⟩
      rw [hloops _ hall]
      refine forM_eq_error_iff.2 ⟨rp, done, rest, htsp, fun earlier hearlier => ?_, ?_⟩
      · refine (forM_passes_iff _ _).2 fun d hd => (hpasses _ _).2 ?_
        exact hdone earlier hearlier d ((SetBuilder.mem_set _ _ _).1 hd)
      · beta_reduce
        rw [SetBuilder.front_elems hmem]
        exact forM_eq_error_iff.2 ⟨did, [], _, rfl, by simp, hdid⟩
    intro h
    cases h with
    | noPointer h => exact hbegin _ ((assertPointers_eq_error_iff _ _ _).2 (Or.inl ⟨h, rfl⟩))
    | noDid hrp h => exact hbegin _ ((assertPointers_eq_error_iff _ _ _).2 (Or.inr ⟨⟨_, hrp, h⟩, rfl⟩))
    | noResult hall hfirst h => exact hreach _ _ _ hall hfirst ((herror _ _ _).2 (Or.inl ⟨h, rfl⟩))
    | document hall hfirst h hdefect =>
      exact hreach _ _ _ hall hfirst ((herror _ _ _).2 (Or.inr ⟨_, _, h, hdefect, rfl⟩))

/-! ## The search -/

section Search

variable [Truthy TL] (pointer : TrustFrameworkPointer) (did : Did)

/-- A loop over the endpoints reports that one of them has no TL. -/
theorem endpoints_eq_error_iff (endpoints : List (Endpoint TL)) (error e : AssertionError) :
    (forM endpoints fun endpoint =>
        (if ¬ truthy endpoint.trustList then throw error else return : Except AssertionError Unit)) =
        .error e ↔
      (∃ endpoint ∈ endpoints, truthy endpoint.trustList = false) ∧ e = error := by
  refine forM_eq_error_iff.trans (exists_raisesFirst_iff_exists_mem fun endpoint e' => ?_)
  rw [guard_eq_error_iff, Bool.not_eq_true]

theorem checkHasTl_eq_error_iff (res : ResolvedDid TL) (e : AssertionError) :
    checkHasTl pointer did res = .error e ↔ ∃ text, TlDefect res text ∧ e = ⟨text, pointer, did⟩ := by
  obtain ⟨d, doc⟩ := res
  cases doc with
  | none =>
    constructor
    · intro h
      cases h
      exact ⟨_, .noDocument rfl, rfl⟩
    · rintro ⟨text, hdefect, rfl⟩
      cases hdefect with
      | noDocument => rfl
      | noEndpoints hdoc => cases hdoc
      | noTl hmem => cases hmem
  | some doc =>
    show (if ¬ truthy doc.endpoints then _ else _) = _ ↔ _
    split
    · next hnone =>
      rw [truthy_list_iff, not_ne_iff] at hnone
      constructor
      · intro h
        cases h
        exact ⟨_, .noEndpoints rfl hnone, rfl⟩
      · rintro ⟨text, hdefect, rfl⟩
        cases hdefect with
        | noDocument h => cases h
        | noEndpoints => rfl
        | noTl hmem =>
          rw [show ResolvedDid.endpoints ⟨d, some doc⟩ = items doc.endpoints from rfl, hnone] at hmem
          cases hmem
    · next hsome =>
      rw [not_not, truthy_list_iff] at hsome
      rw [endpoints_eq_error_iff]
      constructor
      · rintro ⟨⟨endpoint, hmem, hnone⟩, rfl⟩
        exact ⟨_, .noTl hmem hnone, rfl⟩
      · rintro ⟨text, hdefect, rfl⟩
        cases hdefect with
        | noDocument h => cases h
        | noEndpoints hdoc h =>
          cases hdoc
          exact absurd h hsome
        | noTl hmem hnone => exact ⟨⟨_, hmem, hnone⟩, rfl⟩

theorem checkLacksNoTl_eq_error_iff (res : ResolvedDid TL) (e : AssertionError) :
    checkLacksNoTl pointer did res = .error e ↔
      ∃ text, TlMisreport res text ∧ e = ⟨text, pointer, did⟩ := by
  rw [checkLacksNoTl, endpoints_eq_error_iff]
  constructor
  · rintro ⟨⟨endpoint, hmem, hnone⟩, rfl⟩
    exact ⟨_, .haveTl hmem hnone, rfl⟩
  · rintro ⟨text, ⟨hmem, hnone⟩, rfl⟩
    exact ⟨⟨_, hmem, hnone⟩, rfl⟩

end Search

/-! ## The reports of the two checks -/

/-- The errors of a search, from those of its document test. -/
theorem matched_eq_error_iff {self : ResolveResponse TL} {Defect : ResolvedDid TL → String → Prop}
    {check : ResolvedDid TL → Except AssertionError Unit} {pointer : TrustFrameworkPointer} {did : Did}
    {unmatched : String}
    (hcheck : ∀ res e, check res = .error e ↔ ∃ text, Defect res text ∧ e = ⟨text, pointer, did⟩)
    (e : AssertionError) :
    (self.matched did).elim (throw { text := unmatched, did := did }) check = .error e ↔
      (self.matched did = none ∧ e = { text := unmatched, did := did }) ∨
        ∃ res text, self.matched did = some res ∧ Defect res text ∧ e = ⟨text, pointer, did⟩ := by
  cases self.matched did with
  | none => simp [throw, throwThe, MonadExceptOf.throw, eq_comm]
  | some res => simp [hcheck]

/-- **The first check reports the truth**: over all set orders, its errors are the true reports on the
    pointers, the first one with a refused DID, and the defects of the document it is matched with. -/
theorem haveTl_reports_iff [Truthy TL] (self : ResolveResponse TL) (e : AssertionError) :
    (∃ py, self.assertResolvedDidDoHaveAtLeastOneTl py = .error e) ↔
      self.Report HasTl "doesn't match any DID from trust scheme pointer, " TlDefect e := by
  simp only [haveTl_eq]
  refine forEachDid_reports_iff (fun pointer did => ?_) (fun pointer did e => ?_) e
  · rw [Accepts]
    cases self.matched did with
    | none => simp
    | some res => simp [checkHasTl_passes_iff]
  · exact matched_eq_error_iff (checkHasTl_eq_error_iff pointer did) e

/-- **The second check reports the opposite**: "have a TL," is raised for the first pointer that has a
    DID whose document has an endpoint WITHOUT one. -/
theorem notHaveTl_reports_iff [Truthy TL] (self : ResolveResponse TL) (e : AssertionError) :
    (∃ py, self.assertResolvedDidDoNotHaveATl py = .error e) ↔
      self.Report LacksNoTl "doesn't match any DID from trust scheme pointer" TlMisreport e := by
  simp only [notHaveTl_eq]
  refine forEachDid_reports_iff (fun pointer did => ?_) (fun pointer did e => ?_) e
  · rw [Accepts]
    cases self.matched did with
    | none => simp
    | some res => simp [checkLacksNoTl_passes_iff]
  · exact matched_eq_error_iff (checkLacksNoTl_eq_error_iff pointer did) e

end ResolveResponse

end TrainBdd
