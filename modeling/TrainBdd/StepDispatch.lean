/-
  Which step runs — dispatch, and the orders of registration that it depends on.

  Six pairs of steps have sentences in common.  For two of the pairs the registration check admits one
  order only; for the other four the order decides which step runs.

  1. **Shared sentences** — two steps of a keyword run on a sentence exactly when an overlap has it
     (`runsOn_both_iff`).
  2. **Registration** — a pattern matches the text of another one only where a field stands for the word
     `content` (`declared_orders`), so the check orders the steps of two pairs and no others.
  3. **Theorem** — `dispatch_unambiguous_iff`.
-/
import TrainBdd.StepOverlaps

namespace TrainBdd.StepPatterns

open Regex Format Python Text

/-! ## Shared sentences -/

/-- The keyword's steps whose patterns match the sentence are one at most. -/
def Unambiguous (keyword : Keyword) (sentence : String) : Prop :=
  ∀ x ∈ declared keyword, ∀ y ∈ declared keyword,
    x.runsOn sentence = true → y.runsOn sentence = true → x = y

theorem Overlap.Joins.symm {o : Overlap} {x y : StepDefinition} (h : o.Joins x y) : o.Joins y x :=
  h.elim (fun h => Or.inr ⟨h.2, h.1⟩) fun h => Or.inl ⟨h.2, h.1⟩

/-- Where both steps match the sentence, they are a pair of the table. -/
def Listed (keyword : Keyword) (sentence : String) (x y : StepDefinition) : Prop :=
  x.runsOn sentence = true → y.runsOn sentence = true → ∃ o ∈ overlaps keyword, o.Joins x y

instance (keyword : Keyword) (sentence : String) : Std.Symm (Listed keyword sentence) where
  symm x y h := by
    intro hrun hrun'
    obtain ⟨o, ho, hjoins⟩ := h hrun' hrun
    exact ⟨o, ho, hjoins.symm⟩

theorem declared_listed (keyword : Keyword) (sentence : String) :
    (declared keyword).Pairwise (Listed keyword sentence) := by
  apply (declared_table keyword).imp
  intro x y htold hrun hrun'
  rcases htold with hclash | hconfigured | hoverlap
  · exact absurd hrun' (not_accepts_both hclash hrun)
  · exact absurd hrun' (not_configured hconfigured hrun)
  · obtain ⟨o, ho, hpair⟩ := List.mem_map.1 hoverlap
    obtain ⟨rfl, rfl⟩ := Prod.mk.inj hpair
    exact ⟨o, ho, Or.inl ⟨rfl, rfl⟩⟩

/-- **The steps that share a sentence**, exactly. -/
theorem runsOn_both_iff {keyword : Keyword} {x y : StepDefinition} (hx : x ∈ declared keyword)
    (hy : y ∈ declared keyword) (hne : x ≠ y) (sentence : String) :
    x.runsOn sentence = true ∧ y.runsOn sentence = true ↔
      ∃ o ∈ overlaps keyword, o.Joins x y ∧ o.common.accepts (foldSentence sentence) = true := by
  constructor
  · rintro ⟨hrun, hrun'⟩
    obtain ⟨o, ho, hjoins⟩ := (declared_listed keyword sentence).forall hx hy hne hrun hrun'
    refine ⟨o, ho, hjoins, (overlap_exact ho _).1 ?_⟩
    rcases hjoins with ⟨rfl, rfl⟩ | ⟨rfl, rfl⟩
    · exact ⟨hrun, hrun'⟩
    · exact ⟨hrun', hrun⟩
  · rintro ⟨o, ho, hjoins, hcommon⟩
    have hboth := (overlap_exact ho _).2 hcommon
    rcases hjoins with ⟨rfl, rfl⟩ | ⟨rfl, rfl⟩
    · exact hboth
    · exact hboth.symm

/-- The pairs of the table are two declared steps each. -/
theorem declared_of_overlap (keyword : Keyword) :
    ∀ o ∈ overlaps keyword, o.first ∈ declared keyword ∧ o.second ∈ declared keyword := by
  intro o ho
  cases keyword with
  | given =>
    simp only [overlaps, List.mem_cons, List.not_mem_nil, or_false] at ho
    rcases ho with rfl | rfl <;> constructor <;> simp [declared]
  | when =>
    simp only [overlaps, List.mem_cons, List.not_mem_nil, or_false] at ho
    rcases ho with rfl | rfl | rfl | rfl <;> constructor <;> simp [declared]
  | «then» => cases ho

theorem first_ne_second (keyword : Keyword) : ∀ o ∈ overlaps keyword, o.first ≠ o.second := by
  cases keyword with
  | given => decide
  | when => decide
  | «then» => decide

theorem unambiguous_iff (keyword : Keyword) (sentence : String) :
    Unambiguous keyword sentence ↔ ¬ Ambiguous keyword sentence := by
  constructor
  · rintro hone ⟨o, ho, hcommon⟩
    obtain ⟨hfirst, hsecond⟩ := declared_of_overlap keyword o ho
    have hboth := (overlap_exact ho _).2 hcommon
    exact first_ne_second keyword o ho (hone _ hfirst _ hsecond hboth.1 hboth.2)
  · intro hnot x hx y hy hrun hrun'
    by_contra hne
    obtain ⟨o, ho, -, hcommon⟩ := (runsOn_both_iff hx hy hne sentence).1 ⟨hrun, hrun'⟩
    exact hnot ⟨o, ho, hcommon⟩

/-! ## Registration -/

/-- Registered first, the step lets the other one in behind it. -/
def StepDefinition.Admits (existing new : StepDefinition) : Prop := existing.runsOn new.pattern = false

/-- A new step is added behind steps that admit it. -/
theorem addStepDefinition_eq_ok_iff {registered registered' : List StepDefinition}
    {new : StepDefinition} (hnew : new ∉ registered) :
    addStepDefinition registered new = .ok registered' ↔
      (∀ existing ∈ registered, existing.Admits new) ∧ registered' = registered ++ [new] := by
  unfold addStepDefinition
  cases hfind : registered.find? fun existing => existing = new || existing.runsOn new.pattern with
  | none =>
    have hadmits : ∀ existing ∈ registered, existing.Admits new := by
      intro existing hmem
      have hnot := List.find?_eq_none.1 hfind existing hmem
      rw [Bool.or_eq_true, not_or] at hnot
      exact Bool.eq_false_iff.2 hnot.2
    simp only [Except.ok.injEq]
    exact ⟨fun h => ⟨hadmits, h.symm⟩, fun h => h.2.symm⟩
  | some existing =>
    have hmem := List.mem_of_find?_eq_some hfind
    have hne : existing ≠ new := by
      rintro rfl
      exact hnew hmem
    have hruns : existing.runsOn new.pattern = true := by
      simpa [hne] using List.find?_some hfind
    simp only [if_neg hne]
    refine iff_of_false (fun h => by cases h) fun h => ?_
    exact absurd (h.1 existing hmem) (by rw [StepDefinition.Admits, hruns]; decide)

/-- Steps are added behind others, when all before admit each of them. -/
theorem foldlM_addStepDefinition_iff {registered order : List StepDefinition}
    (hnodup : (registered ++ order).Nodup) :
    order.foldlM addStepDefinition registered = .ok (registered ++ order) ↔
      (∀ existing ∈ registered, ∀ new ∈ order, existing.Admits new) ∧
        order.Pairwise StepDefinition.Admits := by
  induction order generalizing registered with
  | nil => simp [pure, Except.pure]
  | cons new order ih =>
    have hfresh : new ∉ registered := (List.nodup_middle.1 hnodup).notMem ∘ List.mem_append_left _
    have hnodup' : ((registered ++ [new]) ++ order).Nodup := by
      rwa [List.append_assoc, List.singleton_append]
    have hrest := ih hnodup'
    rw [List.append_assoc, List.singleton_append] at hrest
    have hcons : (new :: order).foldlM addStepDefinition registered =
        addStepDefinition registered new >>= order.foldlM addStepDefinition := List.foldlM_cons
    rw [hcons, List.pairwise_cons]
    constructor
    · intro h
      cases hadd : addStepDefinition registered new with
      | error e =>
        rw [hadd] at h
        cases h
      | ok registered' =>
        obtain ⟨hadmits, rfl⟩ := (addStepDefinition_eq_ok_iff hfresh).1 hadd
        rw [hadd] at h
        obtain ⟨hbefore, hpairs⟩ := hrest.1 h
        simp only [List.forall_mem_append, List.forall_mem_singleton] at hbefore
        refine ⟨fun existing hmem => List.forall_mem_cons.2 ⟨hadmits existing hmem, ?_⟩, hbefore.2,
          hpairs⟩
        exact hbefore.1 existing hmem
    · rintro ⟨hbefore, hnew, hpairs⟩
      have hadd := (addStepDefinition_eq_ok_iff hfresh).2
        ⟨fun existing hmem => hbefore existing hmem new List.mem_cons_self, rfl⟩
      rw [hadd]
      refine hrest.2 ⟨?_, hpairs⟩
      rw [List.forall_mem_append, List.forall_mem_singleton]
      exact ⟨fun existing hmem y hy => hbefore existing hmem y (List.mem_cons_of_mem _ hy), hnew⟩

/-- **The registration check**: an order is accepted when each step admits all behind it. -/
theorem accepted_iff {order : List StepDefinition} (hnodup : order.Nodup) :
    Accepted order ↔ order.Pairwise StepDefinition.Admits := by
  refine (@foldlM_addStepDefinition_iff [] order hnodup).trans ?_
  simp

/-- **The table of texts**: a step admits the steps declared behind it, and those before it unless the
    check orders the two. -/
theorem declared_orders (keyword : Keyword) :
    (declared keyword).Pairwise fun x y =>
      x ≠ y ∧ x.Admits y ∧ (y.Admits x ∨ (x, y) ∈ orderedPairs keyword) := by
  have hadmits : ∀ x y : StepDefinition,
      x.format.frames (foldSentence y.pattern) = false → x.Admits y := by
    intro x y hframes
    rw [StepDefinition.Admits, Bool.eq_false_iff]
    intro hruns
    rw [frames_of_accepts hruns] at hframes
    cases hframes
  refine (List.pairwise_map.1 (texts_table keyword)).imp fun {x y} h => ?_
  obtain ⟨-, hne, hforward, hback⟩ := h
  refine ⟨hne, hadmits x y hforward, ?_⟩
  cases hframes : y.format.frames (foldSentence x.pattern) with
  | false => exact Or.inl (hadmits y x hframes)
  | true => exact Or.inr (hback hframes)

theorem declared_nodup (keyword : Keyword) : (declared keyword).Nodup :=
  (declared_orders keyword).imp And.left

/-- The order in which the steps are declared is accepted. -/
theorem declared_accepted (keyword : Keyword) : Accepted (declared keyword) :=
  (accepted_iff (declared_nodup keyword)).2 ((declared_orders keyword).imp fun h => h.2.1)

/-- Of two steps the second one admits the first, unless the check orders them. -/
theorem admits_or_ordered {keyword : Keyword} {x y : StepDefinition} (hx : x ∈ declared keyword)
    (hy : y ∈ declared keyword) (hne : x ≠ y) : y.Admits x ∨ (x, y) ∈ orderedPairs keyword := by
  obtain ⟨before, behind, hdeclared⟩ := List.append_of_mem hx
  have hpairs := declared_orders keyword
  rw [hdeclared, List.pairwise_append] at hpairs
  obtain ⟨-, hbehind, hbefore⟩ := hpairs
  rw [hdeclared, List.mem_append, List.mem_cons] at hy
  rcases hy with hy | rfl | hy
  · exact Or.inl (hbefore y hy x List.mem_cons_self).2.1
  · exact absurd rfl hne
  · exact ((List.pairwise_cons.1 hbehind).1 y hy).2.2

/-- The check orders the pairs of the table that a field joins which stands for the word `content`. -/
theorem ordered_iff {keyword : Keyword} {o : Overlap} (ho : o ∈ overlaps keyword) :
    o.Ordered ↔ (o.first, o.second) ∈ orderedPairs keyword := by
  obtain ⟨hfirst, hsecond⟩ := declared_of_overlap keyword o ho
  constructor
  · intro hruns
    refine (admits_or_ordered hfirst hsecond (first_ne_second keyword o ho)).resolve_left ?_
    intro hadmits
    rw [StepDefinition.Admits, hruns] at hadmits
    cases hadmits
  · intro hpair
    cases keyword with
    | given => cases hpair
    | when =>
      simp only [orderedPairs, List.mem_cons, List.not_mem_nil, or_false, Prod.mk.injEq] at hpair
      unfold Overlap.Ordered StepDefinition.runsOn foldSentence
      rcases hpair with ⟨hcontent, halias⟩ | ⟨hcontent, halias⟩
      · rw [hcontent, halias, pairFormats.createTrustListAsXmlWithAlias, createTrustListAsXmlWithContent]
        repeat rw [toList_of_ofList rfl]
        decide +kernel
      · rw [hcontent, halias, pairFormats.createTrustListAsJsonWithAlias, createTrustListAsJsonWithContent]
        repeat rw [toList_of_ofList rfl]
        decide +kernel
    | «then» => cases hpair

/-- An ordered pair has no step in common with another pair, and is in the table one way round. -/
theorem orderedPairs_alone (keyword : Keyword) : ∀ o ∈ overlaps keyword,
    (o.second, o.first) ∉ orderedPairs keyword ∧ ∀ pair ∈ orderedPairs keyword,
      pair.2 ≠ o.first ∧ (pair.2 = o.second → pair.1 = o.first) := by
  cases keyword with
  | given => decide
  | when => decide
  | «then» => decide

/-! ## Dispatch -/

/-- None of the steps that match the sentence is registered before this one. -/
def First (registered : List StepDefinition) (step : StepDefinition) (sentence : String) : Prop :=
  ∀ other ∈ registered, other.runsOn sentence = true → registered.idxOf step ≤ registered.idxOf other

/-- The first step that matches is run. -/
theorem First.dispatch_eq {registered : List StepDefinition} {step : StepDefinition} {sentence : String}
    (h : First registered step sentence) (hstep : step ∈ registered)
    (hruns : step.runsOn sentence = true) : dispatch registered sentence = some step := by
  unfold dispatch
  cases hfind : registered.find? fun step => step.runsOn sentence with
  | none => exact absurd hruns (List.find?_eq_none.1 hfind step hstep)
  | some other =>
    obtain ⟨hother, before, behind, rfl, hbefore⟩ := List.find?_eq_some_iff_append.1 hfind
    have hsilent : ∀ earlier ∈ before, earlier.runsOn sentence ≠ true := by
      intro earlier hearlier
      simpa using hbefore earlier hearlier
    have hle := h other (by simp) (by simpa using hother)
    have hnotOther : other ∉ before := fun hmem => hsilent other hmem (by simpa using hother)
    have hnotStep : step ∉ before := fun hmem => hsilent step hmem hruns
    rw [List.idxOf_append_of_notMem hnotOther, List.idxOf_append_of_notMem hnotStep,
      List.idxOf_cons_self] at hle
    by_cases heq : other = step
    · rw [heq]
    · rw [List.idxOf_cons_ne _ heq] at hle
      omega

/-- Two steps that run on a sentence and admit each other share it as a pair that is not ordered. -/
theorem exists_contested {keyword : Keyword} {x y : StepDefinition} (hx : x ∈ declared keyword)
    (hy : y ∈ declared keyword) (hne : x ≠ y) {sentence : String} (hrun : x.runsOn sentence = true)
    (hrun' : y.runsOn sentence = true) (hxy : x.Admits y) (hyx : y.Admits x) :
    ∃ o ∈ overlaps keyword, o.Joins x y ∧ ¬ o.Ordered ∧
      o.common.accepts (foldSentence sentence) = true := by
  obtain ⟨o, ho, hjoins, hcommon⟩ := (runsOn_both_iff hx hy hne sentence).1 ⟨hrun, hrun'⟩
  refine ⟨o, ho, hjoins, fun hordered => ?_, hcommon⟩
  have hadmits : o.second.Admits o.first := by
    rcases hjoins with ⟨rfl, rfl⟩ | ⟨rfl, rfl⟩
    · exact hyx
    · exact hxy
  rw [StepDefinition.Admits, hordered] at hadmits
  cases hadmits

/-- Each of them can be registered before all other steps. -/
theorem admits_of_joins {keyword : Keyword} {o : Overlap} (ho : o ∈ overlaps keyword)
    {x y z : StepDefinition} (hjoins : o.Joins x y) (hnot : ¬ o.Ordered) (hx : x ∈ declared keyword)
    (hz : z ∈ declared keyword) (hne : z ≠ x) : x.Admits z := by
  refine (admits_or_ordered hz hx hne).resolve_right fun hpair => ?_
  obtain ⟨hfirst, hsecond⟩ := (orderedPairs_alone keyword o ho).2 _ hpair
  rcases hjoins with ⟨rfl, rfl⟩ | ⟨rfl, rfl⟩
  · exact hfirst rfl
  · obtain rfl : z = o.first := hsecond rfl
    exact hnot ((ordered_iff ho).2 hpair)

/-- The accepted orders run the same step exactly on the sentences that are not contested. -/
theorem dispatch_accepted_iff (keyword : Keyword) (sentence : String) :
    (∀ registered : List StepDefinition, registered.Perm (declared keyword) → Accepted registered →
        dispatch registered sentence = dispatch (declared keyword) sentence) ↔
      ¬ Contested keyword sentence := by
  have hnodup := declared_nodup keyword
  have hsearch := @find?_perm_iff _ _ (fun step => step.runsOn sentence) _ hnodup
    ((accepted_iff hnodup).1 (declared_accepted keyword)) (fun x hx y hy hrun hrun' hne hxy hyx => by
      obtain ⟨o, ho, hjoins, hnot, -⟩ := exists_contested hx hy hne hrun hrun' hxy hyx
      exact fun z hz => admits_of_joins ho hjoins hnot hx hz)
  have horders : (∀ registered : List StepDefinition, registered.Perm (declared keyword) →
      Accepted registered → dispatch registered sentence = dispatch (declared keyword) sentence) ↔ _ :=
    (forall₂_congr fun registered hperm => by
      rw [accepted_iff (hperm.nodup_iff.2 hnodup)]
      rfl).trans hsearch
  rw [horders]
  constructor
  · rintro hone ⟨o, ho, hnot, hcommon⟩
    obtain ⟨hfirst, hsecond⟩ := declared_of_overlap keyword o ho
    obtain ⟨hrun, hrun'⟩ := (overlap_exact ho _).2 hcommon
    have hadmits : o.first.Admits o.second :=
      (admits_or_ordered hsecond hfirst (first_ne_second keyword o ho).symm).resolve_right
        (orderedPairs_alone keyword o ho).1
    have hadmits' : o.second.Admits o.first := Bool.eq_false_iff.2 hnot
    exact first_ne_second keyword o ho (hone _ hfirst _ hsecond hrun hrun' hadmits hadmits')
  · intro hnot x hx y hy hrun hrun' hxy hyx
    by_contra hne
    obtain ⟨o, ho, -, hcontested⟩ := exists_contested hx hy hne hrun hrun' hxy hyx
    exact hnot ⟨o, ho, hcontested⟩

/-- **Dispatch.**  Two steps of a keyword share exactly the sentences of the table; on every other
    sentence at most one pattern matches; and the step that runs is the same for every order the
    registration check accepts, on all sentences but those that an unordered pair shares. -/
theorem dispatch_unambiguous_iff (keyword : Keyword) (sentence : String) :
    (∀ x ∈ declared keyword, ∀ y ∈ declared keyword, x ≠ y →
      (x.runsOn sentence = true ∧ y.runsOn sentence = true ↔
        ∃ o ∈ overlaps keyword,
          o.Joins x y ∧ o.common.accepts (foldSentence sentence) = true)) ∧
    (Unambiguous keyword sentence ↔ ¬ Ambiguous keyword sentence) ∧
    ((∀ registered : List StepDefinition, registered.Perm (declared keyword) → Accepted registered →
        dispatch registered sentence = dispatch (declared keyword) sentence) ↔
      ¬ Contested keyword sentence) := by
  refine ⟨?_, unambiguous_iff keyword sentence, dispatch_accepted_iff keyword sentence⟩
  intro x hx y hy hne
  exact runsOn_both_iff hx hy hne sentence

/-- The name of a pointer ends in the word that makes another step of the sentence. -/
def didForPointer : String := "requests DID for pointer germany creation"

/-- Two patterns match it, the declared order and the one with the other step in front are both accepted,
    and they run different steps. -/
theorem didForPointer_ambiguous :
    let registered := readPointersDid :: (declared .when).erase readPointersDid
    ¬ Unambiguous .when didForPointer ∧
      Accepted (declared .when) ∧ dispatch (declared .when) didForPointer = some createDidForPointer ∧
      registered.Perm (declared .when) ∧ Accepted registered ∧
      dispatch registered didForPointer = some readPointersDid := by
  intro registered
  have hcreate : createDidForPointer.runsOn didForPointer = true := by
    rw [StepDefinition.runsOn, pairFormats.createDidForPointer, foldSentence, didForPointer]
    repeat rw [toList_of_ofList rfl]
    decide +kernel
  have hread : readPointersDid.runsOn didForPointer = true := by
    rw [StepDefinition.runsOn, pairFormats.readPointersDid, foldSentence, didForPointer]
    repeat rw [toList_of_ofList rfl]
    decide +kernel
  have hcreateMem : createDidForPointer ∈ declared .when := by simp [declared]
  have hreadMem : readPointersDid ∈ declared .when := by simp [declared]
  have hne : createDidForPointer ≠ readPointersDid := by decide
  have hperm : registered.Perm (declared .when) := (List.perm_cons_erase hreadMem).symm
  have hnodup := declared_nodup .when
  -- the two are the first overlap, and each of them is in no other with the other's partner
  have hpartner : ∀ o ∈ overlaps .when, (o.first = createDidForPointer → o.second = readPointersDid) ∧
      o.second ≠ createDidForPointer := by decide
  have hpair : ⟨createDidForPointer, readPointersDid,
      readPattern "requests DID for pointer {pointer} creation".toList⟩ ∈ overlaps .when :=
    List.mem_cons_self
  have honly : ∀ other ∈ declared .when, other.runsOn didForPointer = true →
      other = createDidForPointer ∨ other = readPointersDid := by
    intro other hother hrun
    by_cases heq : other = createDidForPointer
    · exact Or.inl heq
    · obtain ⟨o, ho, hjoins, -⟩ :=
        (runsOn_both_iff hother hcreateMem heq didForPointer).1 ⟨hrun, hcreate⟩
      rcases hjoins with ⟨-, hsecond⟩ | ⟨rfl, hfirst⟩
      · exact absurd hsecond.symm (hpartner o ho).2
      · exact Or.inr ((hpartner o ho).1 hfirst.symm)
  have hnot : ¬ Overlap.Ordered ⟨createDidForPointer, readPointersDid,
      readPattern "requests DID for pointer {pointer} creation".toList⟩ := by
    rw [ordered_iff hpair]
    decide
  have hfront : ∀ z ∈ declared .when, z ≠ readPointersDid → readPointersDid.Admits z := fun z hz hz' =>
    admits_of_joins hpair (Or.inr ⟨rfl, rfl⟩) hnot hreadMem hz hz'
  refine ⟨fun hone => hne (hone _ hcreateMem _ hreadMem hcreate hread), declared_accepted .when, ?_, hperm,
    ?_, List.find?_cons_of_pos hread⟩
  · refine First.dispatch_eq (fun other hother hrun => ?_) hcreateMem hcreate
    rcases honly other hother hrun with rfl | rfl
    · exact Nat.le_refl _
    · decide
  · rw [accepted_iff (hperm.nodup_iff.2 hnodup), List.pairwise_cons]
    refine ⟨fun z hz => ?_, ?_⟩
    · obtain ⟨hz', hmem⟩ := hnodup.mem_erase_iff.1 hz
      exact hfront z hmem hz'
    · exact ((accepted_iff hnodup).1 (declared_accepted .when)).sublist List.erase_sublist

end TrainBdd.StepPatterns
