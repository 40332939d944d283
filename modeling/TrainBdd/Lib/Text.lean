/-
  TEXTS WITH SEPARATORS — cutting a text at the first separator, and joining pieces that may contain
  the separator themselves.

  1. **`cut`** — the text before the first separator, and the text after it if there is one.
     It undoes `pre ++ c :: post` when `c ∉ pre`, and nothing else.

  2. **Joining** — `splitOn_intercalate_flatMap`: splitting a joined text splits every piece on its own.
     For pieces without the separator that is the core library's round trip, and the joined text
     determines them (`intercalate_inj`).  Two joined texts put together fuse at the border
     (`intercalate_fuse`).
-/
import Mathlib.Data.List.Basic

namespace TrainBdd.Text

/-- A condition on the characters of a text is decided by going through the text; going through all
    characters would be decidable, too. -/
instance decidableForallMem (p : Char → Prop) [DecidablePred p] (cs : List Char) :
    Decidable (∀ c ∈ cs, p c) := List.decidableBAll p cs

/-- The characters of a literal, read off the literal: with `rfl` for the hypothesis nothing is decoded
    from its bytes. -/
theorem toList_of_ofList {s : String} {cs : List Char} (h : String.ofList cs = s) : s.toList = cs := by
  rw [← h, String.toList_ofList]

variable {α : Type}

/-- The last word of a text: where one reading ends in a word without blanks and the other in a blank and
    a word, and the word of the second has not the letter in front of the first, they are the same. -/
theorem lastWord_eq {blank c : α} {front front' word word' : List α} (hblank : blank ∉ word)
    (hc : c ∉ word') (h : (front ++ [c]) ++ word = front' ++ blank :: word') :
    word = word' ∧ front ++ [c] = front' ++ [blank] := by
  replace h : (front ++ [c]) ++ word = (front' ++ [blank]) ++ word' := by
    rw [h, List.append_assoc]
    rfl
  rcases List.append_eq_append_iff.1 h with ⟨more, hfront, hword⟩ | ⟨more, hfront, hword⟩
  · -- what the second front has in addition would end in the blank
    rcases List.eq_nil_or_concat more with rfl | ⟨front'', d, rfl⟩
    · exact ⟨hword, by rw [hfront, List.append_nil]⟩
    · rw [List.concat_eq_append, ← List.append_assoc] at hfront
      obtain ⟨-, hd⟩ := List.append_inj' hfront rfl
      obtain rfl := List.singleton_inj.1 hd
      exact absurd (by rw [hword]; simp) hblank
  · rcases List.eq_nil_or_concat more with rfl | ⟨front'', d, rfl⟩
    · exact ⟨hword.symm, by rw [hfront, List.append_nil]⟩
    · rw [List.concat_eq_append, ← List.append_assoc] at hfront
      obtain ⟨-, hd⟩ := List.append_inj' hfront rfl
      obtain rfl := List.singleton_inj.1 hd
      exact absurd (by rw [hword]; simp) hc

section Cut

variable [DecidableEq α]

/-- The text before the first `c`, and the text after it. -/
def cut (c : α) : List α → List α × Option (List α)
  | [] => ([], none)
  | d :: ds => if d = c then ([], some ds) else (d :: (cut c ds).1, (cut c ds).2)

/-- Without the separator nothing is cut off. -/
theorem cut_of_not_mem {c : α} {cs : List α} (h : c ∉ cs) : cut c cs = (cs, none) := by
  induction cs with
  | nil => rfl
  | cons d ds ih =>
    obtain ⟨hd, hds⟩ := not_or.mp fun hmem => h (List.mem_cons.mpr hmem)
    rw [cut, if_neg (Ne.symm hd), ih hds]

theorem cut_append {c : α} {pre : List α} (h : c ∉ pre) (post : List α) :
    cut c (pre ++ c :: post) = (pre, some post) := by
  induction pre with
  | nil => exact if_pos rfl
  | cons d ds ih =>
    obtain ⟨hd, hds⟩ := not_or.mp fun hmem => h (List.mem_cons.mpr hmem)
    rw [List.cons_append, cut, if_neg (Ne.symm hd), ih hds]

/-- A text that is cut has the separator between its two parts. -/
theorem eq_of_cut {c : α} {cs pre post : List α} (h : cut c cs = (pre, some post)) :
    cs = pre ++ c :: post := by
  induction cs generalizing pre with
  | nil => nomatch h
  | cons d ds ih =>
    rw [cut] at h
    split at h
    · next hd =>
      obtain ⟨rfl, hpost⟩ := Prod.mk.inj h
      obtain rfl := Option.some.inj hpost
      rw [hd, List.nil_append]
    · obtain ⟨rfl, hpost⟩ := Prod.mk.inj h
      rw [List.cons_append, ← ih (Prod.ext rfl hpost)]

theorem cut_eq_none_iff {c : α} {cs : List α} : (cut c cs).2 = none ↔ c ∉ cs := by
  constructor
  · intro hnone hmem
    obtain ⟨pre, post, rfl, hpre⟩ := List.eq_append_cons_of_mem hmem
    rw [cut_append hpre] at hnone
    nomatch hnone
  · intro h
    rw [cut_of_not_mem h]

end Cut

/-! ## Joining -/

/-- **Splitting a joined text splits every piece on its own.** -/
theorem splitOn_intercalate_flatMap [DecidableEq α] (c : α) {xs : List (List α)} (hne : xs ≠ []) :
    ([c].intercalate xs).splitOn c = xs.flatMap fun x => x.splitOn c := by
  induction xs with
  | nil => exact absurd rfl hne
  | cons x xs ih =>
    cases xs with
    | nil => rw [List.intercalate_singleton, List.flatMap_singleton]
    | cons y ys =>
      rw [List.intercalate_cons_of_ne_nil (List.cons_ne_nil y ys), List.append_assoc,
        List.singleton_append, List.splitOn_append_cons_self, ih (List.cons_ne_nil y ys)]
      rfl

/-- Pieces without the separator stay whole. -/
theorem flatMap_splitOn_of_not_mem [DecidableEq α] {c : α} {xs : List (List α)}
    (h : ∀ x ∈ xs, c ∉ x) : (xs.flatMap fun x => x.splitOn c) = xs := by
  induction xs with
  | nil => rfl
  | cons x xs ih =>
    rw [List.flatMap_cons, List.splitOn_eq_singleton (h x List.mem_cons_self),
      ih fun y hy => h y (List.mem_cons_of_mem x hy), List.singleton_append]

/-- Pieces without the separator can be read off the joined text. -/
theorem intercalate_inj [DecidableEq α] {c : α} {xs ys : List (List α)} (hxs : ∀ x ∈ xs, c ∉ x)
    (hx : xs ≠ []) (hys : ∀ y ∈ ys, c ∉ y) (hy : ys ≠ [])
    (h : [c].intercalate xs = [c].intercalate ys) : xs = ys := by
  have hsplit := congrArg (List.splitOn c) h
  rwa [List.splitOn_intercalate c hxs hx, List.splitOn_intercalate c hys hy] at hsplit

/-- Two joined texts, one right behind the other: the pieces at the border fuse. -/
theorem intercalate_fuse (c : α) (xs : List (List α)) (x y : List α) (ys : List (List α)) :
    [c].intercalate (xs ++ [x]) ++ [c].intercalate (y :: ys) =
      [c].intercalate (xs ++ (x ++ y) :: ys) := by
  induction xs with
  | nil =>
    cases ys with
    | nil => simp
    | cons z zs =>
      rw [List.nil_append, List.nil_append, List.intercalate_singleton,
        List.intercalate_cons_of_ne_nil (List.cons_ne_nil z zs),
        List.intercalate_cons_of_ne_nil (List.cons_ne_nil z zs)]
      simp only [List.append_assoc]
  | cons w ws ih =>
    have hleft : [c].intercalate (w :: (ws ++ [x])) = w ++ [c] ++ [c].intercalate (ws ++ [x]) :=
      List.intercalate_cons_of_ne_nil (by simp)
    have hright : [c].intercalate (w :: (ws ++ (x ++ y) :: ys)) =
        w ++ [c] ++ [c].intercalate (ws ++ (x ++ y) :: ys) :=
      List.intercalate_cons_of_ne_nil (by simp)
    rw [List.cons_append, List.cons_append, hleft, hright, ← ih, List.append_assoc]

/-- A joined text is made of its pieces and the separator. -/
theorem mem_intercalate {c d : α} {xs : List (List α)} (h : d ∈ [c].intercalate xs) :
    (∃ x ∈ xs, d ∈ x) ∨ d = c := by
  induction xs with
  | nil => nomatch h
  | cons x xs ih =>
    cases xs with
    | nil =>
      rw [List.intercalate_singleton] at h
      exact Or.inl ⟨x, List.mem_cons_self, h⟩
    | cons y ys =>
      rw [List.intercalate_cons_of_ne_nil (List.cons_ne_nil y ys), List.mem_append, List.mem_append,
        List.mem_singleton] at h
      rcases h with (h | h) | h
      · exact Or.inl ⟨x, List.mem_cons_self, h⟩
      · exact Or.inr h
      · rcases ih h with ⟨z, hz, hd⟩ | hd
        · exact Or.inl ⟨z, List.mem_cons_of_mem x hz, hd⟩
        · exact Or.inr hd

theorem mem_intercalate_of_mem {c d : α} {xs : List (List α)} {x : List α} (hx : x ∈ xs)
    (hd : d ∈ x) : d ∈ [c].intercalate xs := by
  induction xs with
  | nil => nomatch hx
  | cons y ys ih =>
    cases ys with
    | nil =>
      obtain rfl : x = y := List.mem_singleton.mp hx
      rwa [List.intercalate_singleton]
    | cons z zs =>
      rw [List.intercalate_cons_of_ne_nil (List.cons_ne_nil z zs), List.mem_append]
      rcases List.mem_cons.mp hx with rfl | hx
      · exact Or.inl (List.mem_append_left [c] hd)
      · exact Or.inr (ih hx)

end TrainBdd.Text
