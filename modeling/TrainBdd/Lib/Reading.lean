/-
  READING the fields of a format off a word — what a field stands for, where `Lib.Format` only asks
  whether the whole word matches.

  1. **The reader** — `readValues` is a backtracking matcher: from left to right, every field takes as
     little as it can.  Letters are compared by a key, values are handed out as they are written.
  2. **Meaning** — `Spells`: the values and the written literals make up the word.  The reader finds
     such values whenever there are any (`readValues_spells`, `readValues_isSome_iff`), and the only
     ones if they are unique (`readValues_of_unique`).
  3. **Writing and reading** — a word written from values is read back as these values exactly when none
     but the last could have ended earlier (`readValues_write_iff`).
-/
import TrainBdd.Lib.Format

namespace TrainBdd.Format

variable {α β γ : Type} [DecidableEq α]

/-! ## The reader -/

/-- The values of the fields in the word behind the first literal. -/
def restValues (key : β → α) : List (Regex α × List α) → List β → Option (List (List β))
  | [], word => if word.isEmpty then some [] else none
  | (field, literal) :: rest, word =>
    (List.range (word.length + 1)).findSome? fun n =>
      if field.accepts ((word.take n).map key) && literal.isPrefixOf ((word.drop n).map key) then
        (restValues key rest (word.drop (n + literal.length))).map (word.take n :: ·)
      else none

/-- The values of the fields in the word. -/
def readValues (key : β → α) (format : Format α) (word : List β) : Option (List (List β)) :=
  if format.head.isPrefixOf (word.map key) then
    restValues key format.rest (word.drop format.head.length)
  else none

/-! ## Meaning -/

/-- The word is made up of the values and, behind each of them, its literal as it is written. -/
def Spells (key : β → α) : List (Regex α × List α) → List (List β) → List β → Prop
  | [], [], word => word = []
  | (field, literal) :: rest, value :: values, word =>
    ∃ written word', word = value ++ (written ++ word') ∧ value.map key ∈ field.language ∧
      written.map key = literal ∧ Spells key rest values word'
  | _, _, _ => False

theorem findSome?_range_eq_some_iff {f : Nat → Option γ} {m : Nat} {c : γ} :
    (List.range m).findSome? f = some c ↔ ∃ n < m, f n = some c ∧ ∀ k < n, f k = none := by
  induction m with
  | zero => simp
  | succ m ih =>
    rw [List.range_succ, List.findSome?_append, List.findSome?_singleton]
    cases hfind : (List.range m).findSome? f with
    | some d =>
      rw [Option.some_or, ← hfind, ih]
      constructor
      · rintro ⟨n, hn, hc, hless⟩
        exact ⟨n, Nat.lt_succ_of_lt hn, hc, hless⟩
      · rintro ⟨n, hn, hc, hless⟩
        refine ⟨n, ?_, hc, hless⟩
        -- the last number is not the first to succeed
        by_contra hm
        have hnone : (List.range m).findSome? f = none := by
          rw [List.findSome?_eq_none_iff]
          intro k hk
          exact hless k (by have := List.mem_range.1 hk; omega)
        rw [hfind] at hnone
        cases hnone
    | none =>
      rw [Option.none_or]
      rw [List.findSome?_eq_none_iff] at hfind
      constructor
      · intro hc
        exact ⟨m, Nat.lt_succ_self m, hc, fun k hk => hfind k (List.mem_range.2 hk)⟩
      · rintro ⟨n, hn, hc, -⟩
        rcases Nat.lt_succ_iff_lt_or_eq.1 hn with hlt | rfl
        · rw [hfind n (List.mem_range.2 hlt)] at hc
          cases hc
        · exact hc

/-- What one length of the first field gives. -/
def restValuesAt (key : β → α) (field : Regex α) (literal : List α) (rest : List (Regex α × List α))
    (word : List β) (n : Nat) : Option (List (List β)) :=
  if field.accepts ((word.take n).map key) && literal.isPrefixOf ((word.drop n).map key) then
    (restValues key rest (word.drop (n + literal.length))).map (word.take n :: ·)
  else none

/-- A length of the first field succeeds when the field takes that much, its literal follows and the
    other fields can be read. -/
theorem restValuesAt_eq_some_iff {key : β → α} {field : Regex α} {literal : List α}
    {rest : List (Regex α × List α)} {word : List β} {n : Nat} {values : List (List β)} :
    restValuesAt key field literal rest word n = some values ↔
      (word.take n).map key ∈ field.language ∧ literal <+: (word.drop n).map key ∧
        ∃ others, restValues key rest (word.drop (n + literal.length)) = some others ∧
          values = word.take n :: others := by
  unfold restValuesAt
  split
  · next h =>
    rw [Bool.and_eq_true, Regex.accepts_iff, List.isPrefixOf_iff_prefix] at h
    rw [Option.map_eq_some_iff]
    constructor
    · rintro ⟨others, hothers, rfl⟩
      exact ⟨h.1, h.2, others, hothers, rfl⟩
    · rintro ⟨-, -, others, hothers, rfl⟩
      exact ⟨others, hothers, rfl⟩
  · next h =>
    refine iff_of_false (by simp) ?_
    rintro ⟨hfield, hliteral, -⟩
    rw [Bool.and_eq_true, Regex.accepts_iff, List.isPrefixOf_iff_prefix] at h
    exact h ⟨hfield, hliteral⟩

theorem restValues_cons_eq_some_iff {key : β → α} {field : Regex α} {literal : List α}
    {rest : List (Regex α × List α)} {word : List β} {values : List (List β)} :
    restValues key ((field, literal) :: rest) word = some values ↔
      ∃ n ≤ word.length, restValuesAt key field literal rest word n = some values ∧
        ∀ k < n, restValuesAt key field literal rest word k = none := by
  show (List.range (word.length + 1)).findSome? (restValuesAt key field literal rest word) = _ ↔ _
  rw [findSome?_range_eq_some_iff]
  simp only [Nat.lt_succ_iff]

/-- **The reader is sound**: what it finds spells the word. -/
theorem restValues_spells {key : β → α} {fields : List (Regex α × List α)} {word : List β}
    {values : List (List β)} (h : restValues key fields word = some values) :
    Spells key fields values word := by
  induction fields generalizing word values with
  | nil =>
    unfold restValues at h
    split at h
    · next hword =>
      cases h
      exact List.isEmpty_iff.1 hword
    · cases h
  | cons part rest ih =>
    obtain ⟨n, -, hn, -⟩ := restValues_cons_eq_some_iff.1 h
    obtain ⟨hfield, ⟨behind, hliteral⟩, others, hothers, rfl⟩ := restValuesAt_eq_some_iff.1 hn
    refine ⟨(word.drop n).take part.2.length, word.drop (n + part.2.length), ?_, hfield, ?_, ih hothers⟩
    · rw [← List.drop_drop, List.take_append_drop, List.take_append_drop]
    · rw [List.map_take, ← hliteral, List.take_left]

/-- **The reader is complete**: where some values spell the word, it finds some. -/
theorem restValues_ne_none {key : β → α} {fields : List (Regex α × List α)} {word : List β}
    {values : List (List β)} (h : Spells key fields values word) :
    restValues key fields word ≠ none := by
  induction fields generalizing word values with
  | nil =>
    cases values with
    | nil =>
      obtain rfl : word = [] := h
      exact Option.some_ne_none []
    | cons value values => cases h
  | cons part rest ih =>
    cases values with
    | nil => cases h
    | cons value values =>
      obtain ⟨written, word', rfl, hvalue, hwritten, hrest⟩ := h
      obtain ⟨others, hothers⟩ := Option.ne_none_iff_exists'.1 (ih hrest)
      have hlength : written.length = part.2.length := by rw [← hwritten, List.length_map]
      have hat : restValuesAt key part.1 part.2 rest (value ++ (written ++ word')) value.length =
          some (value :: others) := by
        rw [restValuesAt_eq_some_iff, List.take_left, List.drop_left, List.map_append, hwritten]
        refine ⟨hvalue, List.prefix_append _ _, others, ?_, rfl⟩
        rw [← List.drop_drop, List.drop_left, ← hlength, List.drop_left, hothers]
      intro hnone
      show False
      have hall := (List.findSome?_eq_none_iff (p := restValuesAt key part.1 part.2 rest _)).1 hnone
      have hfail := hall value.length (List.mem_range.2 (by rw [List.length_append]; omega))
      rw [hat] at hfail
      cases hfail

omit [DecidableEq α] in
theorem length_of_spells {key : β → α} {fields : List (Regex α × List α)} {word : List β}
    {values : List (List β)} (h : Spells key fields values word) : values.length = fields.length := by
  induction fields generalizing word values with
  | nil =>
    cases values with
    | nil => rfl
    | cons value values => cases h
  | cons part rest ih =>
    cases values with
    | nil => cases h
    | cons value values =>
      obtain ⟨written, word', -, -, -, hrest⟩ := h
      rw [List.length_cons, List.length_cons, ih hrest]

/-- Where only one list of values spells the word, the reader finds it. -/
theorem restValues_of_unique {key : β → α} {fields : List (Regex α × List α)} {word : List β}
    {values : List (List β)} (h : Spells key fields values word)
    (hunique : ∀ others, Spells key fields others word → others = values) :
    restValues key fields word = some values := by
  obtain ⟨others, hothers⟩ := Option.ne_none_iff_exists'.1 (restValues_ne_none h)
  rw [hothers, hunique others (restValues_spells hothers)]

/-- The literal in front of the first field is skipped. -/
theorem readValues_append {key : β → α} {format : Format α} {head : List β}
    (hhead : head.map key = format.head) (word : List β) :
    readValues key format (head ++ word) = restValues key format.rest word := by
  have hpre : format.head.isPrefixOf ((head ++ word).map key) = true := by
    rw [List.isPrefixOf_iff_prefix, List.map_append, hhead]
    exact List.prefix_append _ _
  rw [readValues, if_pos hpre, ← hhead, List.length_map, List.drop_left]

omit [DecidableEq α] in
theorem spells_iff_fills {key : β → α} {fields : List (Regex α × List α)} {word : List β} :
    (∃ values, Spells key fields values word) ↔ Fills fields (word.map key) := by
  induction fields generalizing word with
  | nil =>
    constructor
    · rintro ⟨values, h⟩
      cases values with
      | nil =>
        obtain rfl : word = [] := h
        rfl
      | cons value values => cases h
    · intro h
      obtain rfl : word = [] := List.map_eq_nil_iff.1 h
      exact ⟨[], rfl⟩
  | cons part rest ih =>
    constructor
    · rintro ⟨values, h⟩
      cases values with
      | nil => cases h
      | cons value values =>
        obtain ⟨written, word', rfl, hvalue, hwritten, hrest⟩ := h
        refine ⟨value.map key, word'.map key, ?_, hvalue, ih.1 ⟨values, hrest⟩⟩
        rw [List.map_append, List.map_append, hwritten]
    · rintro ⟨value, word', hword, hvalue, hrest⟩
      obtain ⟨value, behind, rfl, rfl, hbehind⟩ := List.map_eq_append_iff.1 hword
      obtain ⟨written, word', rfl, hwritten, rfl⟩ := List.map_eq_append_iff.1 hbehind
      obtain ⟨values, hvalues⟩ := ih.2 hrest
      exact ⟨value :: values, written, word', rfl, hvalue, hwritten, hvalues⟩

/-- **A word can be read exactly when it matches.** -/
theorem readValues_isSome_iff {key : β → α} {format : Format α} {word : List β} :
    (readValues key format word).isSome = true ↔ format.accepts (word.map key) = true := by
  rw [accepts_iff]
  constructor
  · intro h
    obtain ⟨values, hvalues⟩ := Option.isSome_iff_exists.1 h
    unfold readValues at hvalues
    split at hvalues
    · next hpre =>
      obtain ⟨behind, hbehind⟩ := List.isPrefixOf_iff_prefix.1 hpre
      refine ⟨(word.drop format.head.length).map key, ?_, ?_⟩
      · rw [List.map_drop, ← hbehind, List.drop_left]
      · exact spells_iff_fills.1 ⟨values, restValues_spells hvalues⟩
    · cases hvalues
  · rintro ⟨word', hword, hfills⟩
    obtain ⟨head, behind, rfl, hhead, rfl⟩ := List.map_eq_append_iff.1 hword
    obtain ⟨values, hvalues⟩ := spells_iff_fills.2 hfills
    rw [readValues_append hhead, Option.isSome_iff_ne_none]
    exact restValues_ne_none hvalues

/-- **Where a word can be read in one way only**, the reader finds what spells it. -/
theorem readValues_iff_of_unique {key : β → α} {format : Format α} {word : List β}
    {values : List (List β)}
    (hunique : ∀ word' others others', Spells key format.rest others word' →
      Spells key format.rest others' word' → others' = others) :
    readValues key format word = some values ↔
      ∃ front word', word = front ++ word' ∧ front.map key = format.head ∧
        Spells key format.rest values word' := by
  constructor
  · intro h
    unfold readValues at h
    split at h
    · next hpre =>
      obtain ⟨behind, hbehind⟩ := List.isPrefixOf_iff_prefix.1 hpre
      refine ⟨word.take format.head.length, word.drop format.head.length, ?_, ?_, restValues_spells h⟩
      · rw [List.take_append_drop]
      · rw [List.map_take, ← hbehind, List.take_left]
    · cases h
  · rintro ⟨front, word', rfl, hfront, hspells⟩
    rw [readValues_append hfront]
    exact restValues_of_unique hspells fun others => hunique word' values others hspells

omit [DecidableEq α] in
theorem spells_field_iff {key : β → α} {literal : List α} {field : Regex α} {word : List β}
    {values : List (List β)} :
    Spells key [(field, literal)] values word ↔
      ∃ value written, word = value ++ written ∧ value.map key ∈ field.language ∧
        written.map key = literal ∧ values = [value] := by
  constructor
  · intro h
    match values with
    | [] => cases h
    | [value] =>
      obtain ⟨written, word', rfl, hvalue, hwritten, hnil⟩ := h
      obtain rfl : word' = [] := hnil
      exact ⟨value, written, by rw [List.append_nil], hvalue, hwritten, rfl⟩
    | value :: _ :: _ =>
      obtain ⟨written, word', -, -, -, hrest⟩ := h
      cases hrest
  · rintro ⟨value, written, rfl, hvalue, hwritten, rfl⟩
    exact ⟨written, [], by rw [List.append_nil], hvalue, hwritten, rfl⟩

/-- A single field takes what stands before its literal. -/
theorem readValues_field_iff {key : β → α} {head literal : List α} {field : Regex α} {word : List β}
    {values : List (List β)} :
    readValues key ⟨head, [(field, literal)]⟩ word = some values ↔
      ∃ front value written, word = front ++ (value ++ written) ∧ front.map key = head ∧
        value.map key ∈ field.language ∧ written.map key = literal ∧ values = [value] := by
  rw [readValues_iff_of_unique]
  · constructor
    · rintro ⟨front, word', rfl, hfront, hspells⟩
      obtain ⟨value, written, rfl, hvalue⟩ := spells_field_iff.1 hspells
      exact ⟨front, value, written, rfl, hfront, hvalue⟩
    · rintro ⟨front, value, written, rfl, hfront, hvalue⟩
      exact ⟨front, _, rfl, hfront, spells_field_iff.2 ⟨value, written, rfl, hvalue⟩⟩
  · intro word' others others' h h'
    obtain ⟨value, written, rfl, -, hwritten, rfl⟩ := spells_field_iff.1 h
    obtain ⟨value', written', hword, -, hwritten', rfl⟩ := spells_field_iff.1 h'
    have hlength : written.length = written'.length := by
      have hmap := congrArg List.length (hwritten.trans hwritten'.symm)
      simpa using hmap
    rw [(List.append_inj' hword hlength).1]

/-! ## Writing and reading -/

/-- Free fields between literals. -/
def freeFields (literals : List (List α)) : List (Regex α × List α) :=
  literals.map fun literal => (.anyRun, literal)

/-- The word of values and written literals, taking turns. -/
def writeParts (parts : List (List β × List β)) : List β := parts.flatMap fun part => part.1 ++ part.2

/-- The value could not have ended earlier: its literal does not start inside of it, but at its
    beginning. -/
def Settled (key : β → α) (part : List β × List β) : Prop :=
  ∀ n < part.1.length, 0 < n → ¬ part.2.map key <+: ((part.1 ++ part.2).drop n).map key

instance (key : β → α) (part : List β × List β) : Decidable (Settled key part) :=
  inferInstanceAs (Decidable (∀ n < part.1.length, 0 < n → _))

variable {key : β → α} {parts : List (List β × List β)}

omit [DecidableEq α] in
/-- Written parts spell their word. -/
theorem spells_writeParts (hne : ∀ part ∈ parts, part.1 ≠ []) :
    Spells key (freeFields (parts.map fun part => part.2.map key)) (parts.map (·.1))
      (writeParts parts) := by
  induction parts with
  | nil => rfl
  | cons part parts ih =>
    rw [List.forall_mem_cons] at hne
    refine ⟨part.2, writeParts parts, ?_, ?_, rfl, ih hne.2⟩
    · rw [writeParts, List.flatMap_cons, List.append_assoc]
      rfl
    · rw [Regex.mem_anyRun, ne_eq, List.map_eq_nil_iff]
      exact hne.1

/-- The value at the end of the word takes all of it up to its literal. -/
theorem restValues_write_last {part : List β × List β} (hne : part.1 ≠ []) :
    restValues key (freeFields [part.2.map key]) (writeParts [part]) = some [part.1] := by
  have hread : readValues key ⟨[], freeFields [part.2.map key]⟩ (writeParts [part]) =
      some [part.1] := by
    refine readValues_field_iff.2 ⟨[], part.1, part.2, ?_, rfl, ?_, rfl, rfl⟩
    · simp [writeParts]
    · rw [Regex.mem_anyRun, ne_eq, List.map_eq_nil_iff]
      exact hne
  exact hread

/-- What is left of the word behind a literal that starts inside of a value can be read, too: the next
    value takes in the rest. -/
theorem restValues_shifted_ne_none {next : List β × List β} {parts : List (List β × List β)}
    (hne : ∀ part ∈ next :: parts, part.1 ≠ []) (front : List β) :
    restValues key (freeFields ((next :: parts).map fun part => part.2.map key))
      (front ++ writeParts (next :: parts)) ≠ none := by
  have hshifted : ∀ part ∈ (front ++ next.1, next.2) :: parts, part.1 ≠ [] := by
    rw [List.forall_mem_cons] at hne ⊢
    refine ⟨?_, hne.2⟩
    intro hnil
    exact hne.1 (List.append_eq_nil_iff.1 hnil).2
  have hword : front ++ writeParts (next :: parts) =
      writeParts ((front ++ next.1, next.2) :: parts) := by
    simp [writeParts]
  rw [hword]
  exact restValues_ne_none (spells_writeParts hshifted)

/-- A length inside of the first value succeeds exactly when the literal starts there. -/
theorem restValuesAt_inside {part next : List β × List β} {parts : List (List β × List β)}
    (hne : ∀ part ∈ next :: parts, part.1 ≠ []) {n : Nat} (hn : n < part.1.length) :
    restValuesAt key .anyRun (part.2.map key)
        (freeFields ((next :: parts).map fun part => part.2.map key))
        (part.1 ++ part.2 ++ writeParts (next :: parts)) n ≠ none ↔
      0 < n ∧ part.2.map key <+: ((part.1 ++ part.2).drop n).map key := by
  have hdrop : ∀ k ≤ (part.1 ++ part.2).length,
      (part.1 ++ part.2 ++ writeParts (next :: parts)).drop k =
        (part.1 ++ part.2).drop k ++ writeParts (next :: parts) := fun k hk =>
    List.drop_append_of_le_length hk
  have hlength : (part.1 ++ part.2).length = part.1.length + part.2.length := List.length_append
  constructor
  · intro hsome
    obtain ⟨values, hvalues⟩ := Option.ne_none_iff_exists'.1 hsome
    obtain ⟨hfield, hliteral, -⟩ := restValuesAt_eq_some_iff.1 hvalues
    constructor
    · -- a free field takes a letter at least
      rw [Regex.mem_anyRun] at hfield
      rcases Nat.eq_zero_or_pos n with rfl | hpos
      · exact absurd rfl hfield
      · exact hpos
    · rw [hdrop n (by omega), List.map_append] at hliteral
      refine List.prefix_of_prefix_length_le hliteral (List.prefix_append _ _) ?_
      rw [List.length_map, List.length_map, List.length_drop]
      omega
  · rintro ⟨hpos, hliteral⟩
    obtain ⟨others, hothers⟩ := Option.ne_none_iff_exists'.1
      (@restValues_shifted_ne_none _ _ _ key _ _ hne ((part.1 ++ part.2).drop (n + part.2.length)))
    refine Option.ne_none_iff_exists'.2 ⟨_, restValuesAt_eq_some_iff.2 ⟨?_, ?_, others, ?_, rfl⟩⟩
    · rw [Regex.mem_anyRun, ne_eq, List.map_eq_nil_iff, List.append_assoc]
      intro hnil
      have hzero := congrArg List.length hnil
      rw [List.length_take, List.length_append, List.length_nil] at hzero
      omega
    · rw [hdrop n (by omega), List.map_append]
      exact hliteral.trans (List.prefix_append _ _)
    · rw [List.length_map, hdrop _ (by omega)]
      exact hothers

/-- The first of several values is read back when it is settled and the others are read back. -/
theorem restValues_write_cons {part next : List β × List β} {parts : List (List β × List β)}
    (hne : ∀ p ∈ part :: next :: parts, p.1 ≠ []) {values : List (List β)} :
    restValues key (freeFields ((part :: next :: parts).map fun p => p.2.map key))
        (writeParts (part :: next :: parts)) = some (part.1 :: values) ↔
      Settled key part ∧
        restValues key (freeFields ((next :: parts).map fun p => p.2.map key))
          (writeParts (next :: parts)) = some values := by
  rw [List.forall_mem_cons] at hne
  have hword : writeParts (part :: next :: parts) =
      part.1 ++ part.2 ++ writeParts (next :: parts) := by
    simp [writeParts]
  have hat : restValuesAt key .anyRun (part.2.map key)
        (freeFields ((next :: parts).map fun p => p.2.map key))
        (part.1 ++ part.2 ++ writeParts (next :: parts)) part.1.length = some (part.1 :: values) ↔
      restValues key (freeFields ((next :: parts).map fun p => p.2.map key))
        (writeParts (next :: parts)) = some values := by
    rw [restValuesAt_eq_some_iff, List.append_assoc, List.take_left, List.drop_left,
      List.length_map, ← List.drop_drop, List.drop_left, List.drop_left, List.map_append]
    constructor
    · rintro ⟨-, -, others, hothers, heq⟩
      rw [hothers, (List.cons.inj heq).2]
    · intro hvalues
      refine ⟨?_, List.prefix_append _ _, values, hvalues, rfl⟩
      rw [Regex.mem_anyRun, ne_eq, List.map_eq_nil_iff]
      exact hne.1
  rw [hword]
  show restValues key ((.anyRun, part.2.map key) ::
    freeFields ((next :: parts).map fun p => p.2.map key)) _ = _ ↔ _
  rw [restValues_cons_eq_some_iff]
  constructor
  · rintro ⟨n, hn, hvalues, hless⟩
    -- the first value tells the length
    obtain ⟨-, -, others, -, heq⟩ := restValuesAt_eq_some_iff.1 hvalues
    have hlength : n = part.1.length := by
      have htake := congrArg List.length (List.cons.inj heq).1
      rw [List.length_take, Nat.min_eq_left hn] at htake
      exact htake.symm
    subst hlength
    refine ⟨?_, hat.1 hvalues⟩
    intro k hk hpos hliteral
    exact (restValuesAt_inside hne.2 hk).2 ⟨hpos, hliteral⟩ (hless k hk)
  · rintro ⟨hsettled, hvalues⟩
    refine ⟨part.1.length, ?_, hat.2 hvalues, ?_⟩
    · rw [List.length_append, List.length_append]
      omega
    · intro k hk
      by_contra hsome
      obtain ⟨hpos, hliteral⟩ := (restValuesAt_inside hne.2 hk).1 hsome
      exact hsettled k hk hpos hliteral

/-- **Writing and reading**: values are read back from the word they are written into exactly when
    every value but the last is settled. -/
theorem restValues_write_iff (hne : ∀ part ∈ parts, part.1 ≠ []) :
    restValues key (freeFields (parts.map fun part => part.2.map key)) (writeParts parts) =
        some (parts.map (·.1)) ↔
      ∀ part ∈ parts.dropLast, Settled key part := by
  induction parts with
  | nil => exact iff_of_true rfl (by simp)
  | cons part parts ih =>
    cases parts with
    | nil => exact iff_of_true (restValues_write_last (hne part (by simp))) (by simp)
    | cons next parts =>
      have hrest := ih fun p hp => hne p (List.mem_cons_of_mem _ hp)
      rw [List.map_cons (f := fun p : List β × List β => p.1), restValues_write_cons hne, hrest,
        List.dropLast_cons_cons, List.forall_mem_cons]

end TrainBdd.Format
