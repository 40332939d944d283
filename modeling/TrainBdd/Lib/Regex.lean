/-
  REGULAR EXPRESSIONS over character classes.

  Mathlib's `RegularExpression` is built from single characters; a class such as "anything" has no
  expression there over an infinite alphabet.  Here the letters are decidable classes.

  1. **Syntax and meaning** — `Regex α`, and `language` into Mathlib's `Language α`.
  2. **Matching** — `accepts` by Brzozowski derivatives.  Union and concatenation drop the dead
     alternatives on the way (`union`, `concat`), so that an expression stays small.
  3. **`accepts_iff`** — the matcher decides the language.
  4. **Rules** — what the common expressions stand for.
-/
import Mathlib.Computability.Language

namespace TrainBdd

open Computability

/-! ## Syntax and meaning -/

inductive Regex (α : Type)
  | zero
  | one
  | cls (p : α → Bool)
  | alt (r q : Regex α)
  | seq (r q : Regex α)
  | star (r : Regex α)

namespace Regex

variable {α : Type}

/-- The words an expression stands for. -/
def language : Regex α → Language α
  | zero => 0
  | one => 1
  | cls p => {word | ∃ a, p a = true ∧ word = [a]}
  | alt r q => r.language + q.language
  | seq r q => r.language * q.language
  | star r => r.language∗

/-! ## Matching -/

/-- The empty word is one of them. -/
def nullable : Regex α → Bool
  | zero => false
  | one => true
  | cls _ => false
  | alt r q => r.nullable || q.nullable
  | seq r q => r.nullable && q.nullable
  | star _ => true

/-- `alt`, without a dead alternative. -/
def union : Regex α → Regex α → Regex α
  | zero, q => q
  | r, zero => r
  | r, q => alt r q

/-- `seq`, without a dead or an empty part. -/
def concat : Regex α → Regex α → Regex α
  | zero, _ => zero
  | one, q => q
  | r, q => seq r q

/-- What is left to match behind the letter `a`. -/
def deriv (a : α) : Regex α → Regex α
  | zero => zero
  | one => zero
  | cls p => if p a then one else zero
  | alt r q => union (deriv a r) (deriv a q)
  | seq r q =>
    if r.nullable then union (concat (deriv a r) q) (deriv a q) else concat (deriv a r) q
  | star r => concat (deriv a r) (star r)

/-- The whole word matches. -/
def accepts : Regex α → List α → Bool
  | r, [] => r.nullable
  | r, a :: word => accepts (deriv a r) word

/-! ## The matcher is right -/

theorem language_union (r q : Regex α) : (union r q).language = r.language + q.language := by
  unfold union
  split
  · exact (zero_add _).symm
  · exact (add_zero _).symm
  · rfl

theorem language_concat (r q : Regex α) : (concat r q).language = r.language * q.language := by
  unfold concat
  split
  · exact (zero_mul _).symm
  · exact (one_mul _).symm
  · rfl

theorem nullable_iff (r : Regex α) : r.nullable = true ↔ [] ∈ r.language := by
  induction r with
  | zero => exact iff_of_false Bool.false_ne_true (Language.notMem_zero [])
  | one => exact iff_of_true rfl Language.nil_mem_one
  | cls p =>
    refine iff_of_false Bool.false_ne_true ?_
    rintro ⟨a, -, hnil⟩
    nomatch hnil
  | alt r q ihr ihq =>
    show (r.nullable || q.nullable) = true ↔ [] ∈ r.language + q.language
    rw [Bool.or_eq_true, ihr, ihq, Language.mem_add]
  | seq r q ihr ihq =>
    show (r.nullable && q.nullable) = true ↔ [] ∈ r.language * q.language
    rw [Bool.and_eq_true, ihr, ihq, Language.mem_mul]
    constructor
    · rintro ⟨hr, hq⟩
      exact ⟨[], hr, [], hq, rfl⟩
    · rintro ⟨u, hu, v, hv, huv⟩
      obtain ⟨rfl, rfl⟩ := List.append_eq_nil_iff.1 huv
      exact ⟨hu, hv⟩
  | star r _ => exact iff_of_true rfl (Language.nil_mem_kstar _)

/-- A word of a product that starts with `a` takes it from the left factor, or the left word is
    empty. -/
theorem cons_mem_mul {l m : Language α} {a : α} {word : List α} :
    a :: word ∈ l * m ↔
      (∃ u v, a :: u ∈ l ∧ v ∈ m ∧ word = u ++ v) ∨ [] ∈ l ∧ a :: word ∈ m := by
  rw [Language.mem_mul]
  constructor
  · rintro ⟨u, hu, v, hv, huv⟩
    cases u with
    | nil =>
      rw [List.nil_append] at huv
      exact Or.inr ⟨hu, huv ▸ hv⟩
    | cons b u =>
      obtain ⟨rfl, rfl⟩ := List.cons.inj huv
      exact Or.inl ⟨u, v, hu, hv, rfl⟩
  · rintro (⟨u, v, hu, hv, rfl⟩ | ⟨hnil, hm⟩)
    · exact ⟨a :: u, hu, v, hv, rfl⟩
    · exact ⟨[], hnil, a :: word, hm, rfl⟩

/-- A word of a star that starts with `a` takes it from its first factor that is not empty. -/
theorem cons_mem_kstar {l : Language α} {a : α} {word : List α} :
    a :: word ∈ l∗ ↔ ∃ u v, a :: u ∈ l ∧ v ∈ l∗ ∧ word = u ++ v := by
  constructor
  · intro h
    obtain ⟨words, hflat, hwords⟩ := Language.mem_kstar_iff_exists_nonempty.1 h
    cases words with
    | nil => nomatch hflat
    | cons w words =>
      obtain ⟨hw, hne⟩ := hwords w List.mem_cons_self
      cases w with
      | nil => exact absurd rfl hne
      | cons b u =>
        obtain ⟨rfl, rfl⟩ := List.cons.inj hflat
        refine ⟨u, words.flatten, hw, ⟨words, rfl, ?_⟩, rfl⟩
        intro w' hw'
        exact (hwords w' (List.mem_cons_of_mem _ hw')).1
  · rintro ⟨u, v, hu, ⟨words, rfl, hwords⟩, rfl⟩
    refine ⟨(a :: u) :: words, rfl, ?_⟩
    intro w hw
    rcases List.mem_cons.1 hw with rfl | hw
    · exact hu
    · exact hwords w hw

/-- **The derivative** by `a` matches what the expression matches behind `a`. -/
theorem mem_language_deriv (r : Regex α) (a : α) (word : List α) :
    word ∈ (deriv a r).language ↔ a :: word ∈ r.language := by
  induction r generalizing word with
  | zero => exact Iff.rfl
  | one =>
    refine iff_of_false (Language.notMem_zero word) ?_
    intro h
    nomatch h
  | cls p =>
    show word ∈ (if p a = true then one else zero).language ↔ ∃ b, p b = true ∧ a :: word = [b]
    by_cases ha : p a = true
    · rw [if_pos ha]
      constructor
      · intro hword
        exact ⟨a, ha, congrArg (a :: ·) hword⟩
      · rintro ⟨b, -, hb⟩
        exact (List.cons.inj hb).2
    · rw [if_neg ha]
      refine iff_of_false (Language.notMem_zero word) ?_
      rintro ⟨b, hb, hword⟩
      obtain ⟨rfl, -⟩ := List.cons.inj hword
      exact ha hb
  | alt r q ihr ihq =>
    show word ∈ (union (deriv a r) (deriv a q)).language ↔ _
    rw [language_union, Language.mem_add, ihr, ihq]
    rfl
  | seq r q ihr ihq =>
    have hconcat : word ∈ (concat (deriv a r) q).language ↔
        ∃ u v, a :: u ∈ r.language ∧ v ∈ q.language ∧ word = u ++ v := by
      rw [language_concat, Language.mem_mul]
      constructor
      · rintro ⟨u, hu, v, hv, rfl⟩
        exact ⟨u, v, (ihr u).1 hu, hv, rfl⟩
      · rintro ⟨u, v, hu, hv, rfl⟩
        exact ⟨u, (ihr u).2 hu, v, hv, rfl⟩
    show word ∈ (if r.nullable = true then union (concat (deriv a r) q) (deriv a q)
      else concat (deriv a r) q).language ↔ a :: word ∈ r.language * q.language
    rw [cons_mem_mul, ← nullable_iff]
    by_cases hnull : r.nullable = true
    · rw [if_pos hnull, language_union, Language.mem_add, hconcat, ihq]
      exact or_congr_right (and_iff_right hnull).symm
    · rw [if_neg hnull, hconcat]
      exact (or_iff_left fun h => hnull h.1).symm
  | star r ih =>
    show word ∈ (concat (deriv a r) (star r)).language ↔ a :: word ∈ r.language∗
    rw [language_concat, Language.mem_mul, cons_mem_kstar]
    constructor
    · rintro ⟨u, hu, v, hv, rfl⟩
      exact ⟨u, v, (ih u).1 hu, hv, rfl⟩
    · rintro ⟨u, v, hu, hv, rfl⟩
      exact ⟨u, (ih u).2 hu, v, hv, rfl⟩

/-- **The matcher decides the language.** -/
theorem accepts_iff (r : Regex α) (word : List α) : r.accepts word = true ↔ word ∈ r.language := by
  induction word generalizing r with
  | nil => exact nullable_iff r
  | cons a word ih =>
    show (deriv a r).accepts word = true ↔ _
    rw [ih, mem_language_deriv]

/-! ## Rules -/

theorem mem_seq {r q : Regex α} {word : List α} :
    word ∈ (seq r q).language ↔ ∃ u v, u ∈ r.language ∧ v ∈ q.language ∧ word = u ++ v := by
  show word ∈ r.language * q.language ↔ _
  rw [Language.mem_mul]
  constructor
  · rintro ⟨u, hu, v, hv, rfl⟩
    exact ⟨u, v, hu, hv, rfl⟩
  · rintro ⟨u, v, hu, hv, rfl⟩
    exact ⟨u, hu, v, hv, rfl⟩

theorem mem_alt {r q : Regex α} {word : List α} :
    word ∈ (alt r q).language ↔ word ∈ r.language ∨ word ∈ q.language := Iff.rfl

theorem append_mem_star {r : Regex α} {u v : List α} (hu : u ∈ (star r).language)
    (hv : v ∈ r.language) : u ++ v ∈ (star r).language := by
  obtain ⟨words, rfl, hwords⟩ := hu
  refine ⟨words ++ [v], by simp, ?_⟩
  intro w hw
  rcases List.mem_append.1 hw with hw | hw
  · exact hwords w hw
  · obtain rfl := List.mem_singleton.1 hw
    exact hv

/-- A separated list is its first element, or a list with one more element behind it. -/
theorem mem_seq_star {r q : Regex α} {word : List α} :
    word ∈ (seq r (star q)).language ↔ word ∈ r.language ∨
      ∃ u v, u ∈ (seq r (star q)).language ∧ v ∈ q.language ∧ word = u ++ v := by
  constructor
  · intro h
    obtain ⟨u, v, hu, ⟨words, rfl, hwords⟩, rfl⟩ := mem_seq.1 h
    rcases List.eq_nil_or_concat words with rfl | ⟨front, last, rfl⟩
    · left
      simpa using hu
    · right
      rw [List.concat_eq_append] at hwords ⊢
      refine ⟨u ++ front.flatten, last, ?_, hwords last (by simp), by simp⟩
      refine mem_seq.2 ⟨u, front.flatten, hu, ⟨front, rfl, ?_⟩, rfl⟩
      intro w hw
      exact hwords w (List.mem_append_left _ hw)
  · rintro (h | ⟨u, v, hu, hv, rfl⟩)
    · exact mem_seq.2 ⟨word, [], h, Language.nil_mem_kstar _, (List.append_nil _).symm⟩
    · obtain ⟨first, w, hfirst, hw, rfl⟩ := mem_seq.1 hu
      exact mem_seq.2 ⟨first, w ++ v, hfirst, append_mem_star hw hv, List.append_assoc _ _ _⟩

/-- `r+`. -/
def plus (r : Regex α) : Regex α := seq r (star r)

/-- `.+` -/
def anyRun : Regex α := plus (cls fun _ => true)

/-- The words of a repeated class are made of its letters. -/
theorem mem_star_cls {p : α → Bool} {word : List α} :
    word ∈ (star (cls p)).language ↔ ∀ a ∈ word, p a = true := by
  induction word with
  | nil => exact iff_of_true (Language.nil_mem_kstar _) (by simp)
  | cons a word ih =>
    show a :: word ∈ (cls p).language∗ ↔ _
    rw [cons_mem_kstar, List.forall_mem_cons, ← ih]
    constructor
    · rintro ⟨u, v, ⟨b, hb, hab⟩, hv, rfl⟩
      obtain ⟨rfl, rfl⟩ := List.cons.inj hab
      exact ⟨hb, hv⟩
    · rintro ⟨ha, hword⟩
      exact ⟨[], word, ⟨a, ha, rfl⟩, hword, rfl⟩

theorem mem_plus_cls {p : α → Bool} {word : List α} :
    word ∈ (plus (cls p)).language ↔ word ≠ [] ∧ ∀ a ∈ word, p a = true := by
  rw [plus, mem_seq]
  constructor
  · rintro ⟨u, v, ⟨a, ha, rfl⟩, hv, rfl⟩
    exact ⟨List.cons_ne_nil a v, List.forall_mem_cons.2 ⟨ha, mem_star_cls.1 hv⟩⟩
  · rintro ⟨hne, hall⟩
    cases word with
    | nil => exact absurd rfl hne
    | cons a word =>
      rw [List.forall_mem_cons] at hall
      exact ⟨[a], word, ⟨a, hall.1, rfl⟩, mem_star_cls.2 hall.2, rfl⟩

theorem mem_anyRun {word : List α} : word ∈ (anyRun : Regex α).language ↔ word ≠ [] := by
  rw [anyRun, mem_plus_cls]
  exact and_iff_left fun _ _ => rfl

section Text

variable [DecidableEq α]

/-- Exactly this text. -/
def text : List α → Regex α
  | [] => one
  | a :: as => seq (cls fun b => b = a) (text as)

theorem mem_text {as word : List α} : word ∈ (text as).language ↔ word = as := by
  induction as generalizing word with
  | nil => exact Iff.rfl
  | cons a as ih =>
    rw [text, mem_seq]
    constructor
    · rintro ⟨u, v, ⟨b, hb, rfl⟩, hv, rfl⟩
      rw [of_decide_eq_true hb, ih.1 hv]
      rfl
    · rintro rfl
      exact ⟨[a], as, ⟨a, decide_eq_true rfl, rfl⟩, ih.2 rfl, rfl⟩

end Text

end Regex

end TrainBdd
