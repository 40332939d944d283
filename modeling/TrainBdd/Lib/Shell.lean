/-
  POSIX SHELL word splitting of one simple command's arguments, and when quoting survives it.

  1. **Scanner** — `scan` runs the quoting automaton (`bare`, `'single'`, `"double"`, and a pending
     backslash in each of the two states that have one) over a command string.  It answers with the
     words after quote removal, or with the reason why the string is NOT a plain list of words:
     a live expansion, an operator, a comment, an unterminated quote.  What the shell does then is
     not fixed by the string alone (it consults its environment, or runs another command).
     What one character can do is said once (`step_cases`).

  2. **Arguments** — `Arg`: a key written as it stands, optionally followed by a value between
     single quotes, `--key='value'`.  The key's characters are safe by construction.

  3. **Theorem** — `shellWords_joined_iff`: the rendered arguments, joined by blanks, split back into
     the intended words EXACTLY when no value contains a single quote.
     - one direction runs the scanner over each argument (`scan_render`);
     - the other counts characters (`scan_account`): every quote the scanner removes is a character
       the words miss, so words of the intended length leave no room for a second kind of quoting,
       and without one a single quote never reaches a word.
-/
import TrainBdd.Lib.Text
import Mathlib.Algebra.GroupWithZero.Nat
import Mathlib.Data.List.Basic

namespace TrainBdd.Shell

/-! ## The scanner -/

/-- The quoting state; the two escapes hold a backslash that is still to be interpreted. -/
inductive Mode
  | bare
  | single
  | double
  | escape
  | doubleEscape
deriving DecidableEq, Repr

/-- Why a string is no plain list of words. -/
inductive NotWords
  | unterminated
  | operator (c : Char)
  | expansion (c : Char)
  | comment
deriving DecidableEq, Repr

/-- The scanner's state: the mode and the word under construction, if one has begun. -/
structure State where
  mode : Mode
  word : Option (List Char)
deriving DecidableEq, Repr

/-- The characters of the word under construction. -/
def State.text (σ : State) : List Char := σ.word.getD []

/-- Characters that separate commands, redirect or group when unquoted. -/
def operators : List Char := ['\n', ';', '&', '|', '<', '>', '(', ')']

/-- Characters that start an expansion when unquoted. -/
def expansions : List Char := ['$', '`', '*', '?', '[']

/-- Characters a backslash still escapes between double quotes. -/
def doubleEscapable : List Char := ['$', '`', '"', '\\']

/-- One character: the word it completes, if any, and the next state. -/
def step (σ : State) (c : Char) : Except NotWords (List (List Char) × State) :=
  match σ.mode with
  | .bare =>
    if c = ' ' ∨ c = '\t' then .ok (σ.word.toList, ⟨.bare, none⟩)
    else if c = '\'' then .ok ([], ⟨.single, some σ.text⟩)
    else if c = '"' then .ok ([], ⟨.double, some σ.text⟩)
    else if c = '\\' then .ok ([], ⟨.escape, σ.word⟩)
    else if c ∈ operators then .error (.operator c)
    else if c ∈ expansions then .error (.expansion c)
    else if c = '~' ∧ σ.word = none then .error (.expansion c)
    else if c = '#' ∧ σ.word = none then .error .comment
    else .ok ([], ⟨.bare, some (σ.text ++ [c])⟩)
  | .single =>
    if c = '\'' then .ok ([], ⟨.bare, some σ.text⟩)
    else .ok ([], ⟨.single, some (σ.text ++ [c])⟩)
  | .double =>
    if c = '"' then .ok ([], ⟨.bare, some σ.text⟩)
    else if c = '\\' then .ok ([], ⟨.doubleEscape, some σ.text⟩)
    else if c = '$' ∨ c = '`' then .error (.expansion c)
    else .ok ([], ⟨.double, some (σ.text ++ [c])⟩)
  | .escape =>
    -- backslash-newline is a line continuation: both vanish
    if c = '\n' then .ok ([], ⟨.bare, σ.word⟩)
    else .ok ([], ⟨.bare, some (σ.text ++ [c])⟩)
  | .doubleEscape =>
    if c = '\n' then .ok ([], ⟨.double, some σ.text⟩)
    else if c ∈ doubleEscapable then .ok ([], ⟨.double, some (σ.text ++ [c])⟩)
    else .ok ([], ⟨.double, some (σ.text ++ ['\\', c])⟩)

/-- The end of the string: outside quotes it completes the last word. -/
def finish (σ : State) : Except NotWords (List (List Char)) :=
  if σ.mode = .bare then .ok σ.word.toList else .error .unterminated

/-- The words of a string, from a given state on. -/
def scan (σ : State) : List Char → Except NotWords (List (List Char))
  | [] => finish σ
  | c :: cs =>
    match step σ c with
    | .error e => .error e
    | .ok (done, σ') => (scan σ' cs).map (done ++ ·)

/-- The state before the first character. -/
def start : State := ⟨.bare, none⟩

/-- The argument words of a command string. -/
def shellWords (s : String) : Except NotWords (List String) :=
  (scan start s.toList).map (·.map String.ofList)

theorem scan_cons_ok {σ σ' : State} {c : Char} {done : List (List Char)}
    (h : step σ c = .ok (done, σ')) (cs : List Char) :
    scan σ (c :: cs) = (scan σ' cs).map (done ++ ·) := by
  rw [scan, h]

/-- A character that completes no word only changes the state. -/
theorem scan_cons_quiet {σ σ' : State} {c : Char} (h : step σ c = .ok ([], σ')) (cs : List Char) :
    scan σ (c :: cs) = scan σ' cs := by
  rw [scan_cons_ok h]
  cases scan σ' cs with
  | error e => rfl
  | ok ws => rfl

/-- One step taken apart: what it completed comes first, the rest is scanned from the next state. -/
theorem scan_cons_inv {σ : State} {c : Char} {cs : List Char} {ws : List (List Char)}
    (h : scan σ (c :: cs) = .ok ws) :
    ∃ done σ' vs, step σ c = .ok (done, σ') ∧ scan σ' cs = .ok vs ∧ ws = done ++ vs := by
  cases hstep : step σ c with
  | error e =>
    rw [scan, hstep] at h
    nomatch h
  | ok p =>
    obtain ⟨done, σ'⟩ := p
    rw [scan_cons_ok hstep] at h
    cases hrest : scan σ' cs with
    | error e =>
      rw [hrest] at h
      nomatch h
    | ok vs =>
      rw [hrest] at h
      exact ⟨done, σ', vs, rfl, hrest, (Except.ok.inj h).symm⟩

/-! ## What one character can do -/

/-- The quoting states that involve no character but the single quote. -/
def Mode.Plain (m : Mode) : Prop := m = .bare ∨ m = .single

/-- A backslash between double quotes is still pending: it may yet reach the word. -/
def Mode.pending (m : Mode) : Nat := if m = .doubleEscape then 1 else 0

/-- **One character.**  A blank outside quotes completes the word; a single quote opens or closes its
    quoting; anything else is added to the word, unless another quoting takes it (`others` counts what
    that removes). -/
theorem step_cases {σ σ' : State} {c : Char} {done : List (List Char)}
    (h : step σ c = .ok (done, σ')) :
    (σ.mode = .bare ∧ (c = ' ' ∨ c = '\t') ∧ done = σ.word.toList ∧ σ' = start) ∨
    (done = [] ∧ c = '\'' ∧ σ'.word = some σ.text ∧ σ.mode.pending = 0 ∧ σ'.mode.pending = 0 ∧
      σ'.mode.Plain) ∨
    (done = [] ∧ ∃ (added : List Char) (others : Nat),
      (σ'.word = some (σ.text ++ added) ∨ added = [] ∧ σ'.word = σ.word) ∧
      added.length + σ'.mode.pending + others = σ.mode.pending + 1 ∧
      added.count '\'' = [c].count '\'' ∧ (c = ' ' → ' ' ∈ added) ∧
      (others = 0 → σ.mode.Plain → σ'.mode.Plain ∧ c ≠ '\'')) := by
  obtain ⟨mode, word⟩ := σ
  cases mode with
  | bare =>
    simp only [step] at h
    split at h
    · next hblank =>
      obtain ⟨rfl, rfl⟩ := Prod.mk.inj (Except.ok.inj h)
      exact .inl ⟨rfl, hblank, rfl, rfl⟩
    right
    split at h
    · next hquote =>
      obtain ⟨rfl, rfl⟩ := Prod.mk.inj (Except.ok.inj h)
      exact .inl ⟨rfl, hquote, rfl, rfl, rfl, .inr rfl⟩
    next hblank hquote =>
    have hspace : c ≠ ' ' := fun heq => hblank (.inl heq)
    right
    split at h
    · next hdouble =>
      obtain ⟨rfl, rfl⟩ := Prod.mk.inj (Except.ok.inj h)
      exact ⟨rfl, [], 1, by simp [State.text, Mode.pending, hdouble]⟩
    split at h
    · next hslash =>
      obtain ⟨rfl, rfl⟩ := Prod.mk.inj (Except.ok.inj h)
      exact ⟨rfl, [], 1, by simp [Mode.pending, hslash]⟩
    split at h
    · nomatch h
    split at h
    · nomatch h
    split at h
    · nomatch h
    split at h
    · nomatch h
    · obtain ⟨rfl, rfl⟩ := Prod.mk.inj (Except.ok.inj h)
      exact ⟨rfl, [c], 0, by simp [State.text, Mode.pending, Mode.Plain, hquote, hspace]⟩
  | single =>
    right
    simp only [step] at h
    split at h
    · next hquote =>
      obtain ⟨rfl, rfl⟩ := Prod.mk.inj (Except.ok.inj h)
      exact .inl ⟨rfl, hquote, rfl, rfl, rfl, .inl rfl⟩
    · next hquote =>
      obtain ⟨rfl, rfl⟩ := Prod.mk.inj (Except.ok.inj h)
      exact .inr ⟨rfl, [c], 0, .inl rfl, rfl, rfl, fun heq => by simp [heq],
        fun _ _ => ⟨.inr rfl, hquote⟩⟩
  | double =>
    refine .inr (.inr ?_)
    simp only [step] at h
    split at h
    · next hquote =>
      obtain ⟨rfl, rfl⟩ := Prod.mk.inj (Except.ok.inj h)
      exact ⟨rfl, [], 1, by simp [State.text, Mode.pending, hquote]⟩
    split at h
    · next hslash =>
      obtain ⟨rfl, rfl⟩ := Prod.mk.inj (Except.ok.inj h)
      exact ⟨rfl, [], 0, by simp [State.text, Mode.pending, Mode.Plain, hslash]⟩
    split at h
    · nomatch h
    · obtain ⟨rfl, rfl⟩ := Prod.mk.inj (Except.ok.inj h)
      exact ⟨rfl, [c], 0, by simp [State.text, Mode.pending, Mode.Plain, eq_comm]⟩
  | escape =>
    refine .inr (.inr ?_)
    simp only [step] at h
    split at h
    · next hnewline =>
      obtain ⟨rfl, rfl⟩ := Prod.mk.inj (Except.ok.inj h)
      exact ⟨rfl, [], 1, by simp [Mode.pending, hnewline]⟩
    · obtain ⟨rfl, rfl⟩ := Prod.mk.inj (Except.ok.inj h)
      exact ⟨rfl, [c], 0, by simp [State.text, Mode.pending, Mode.Plain, eq_comm]⟩
  | doubleEscape =>
    -- the pending backslash goes with the newline, gives way to what it escapes, or is kept
    refine .inr (.inr ?_)
    simp only [step] at h
    split at h
    · next hnewline =>
      obtain ⟨rfl, rfl⟩ := Prod.mk.inj (Except.ok.inj h)
      exact ⟨rfl, [], 2, by simp [State.text, Mode.pending, hnewline]⟩
    split at h
    · obtain ⟨rfl, rfl⟩ := Prod.mk.inj (Except.ok.inj h)
      exact ⟨rfl, [c], 1, by simp [State.text, Mode.pending, eq_comm]⟩
    · obtain ⟨rfl, rfl⟩ := Prod.mk.inj (Except.ok.inj h)
      exact ⟨rfl, ['\\', c], 0, .inl rfl, rfl, List.count_cons_of_ne (by decide),
        fun heq => by simp [heq], fun _ hplain => by simp [Mode.Plain] at hplain⟩

/-! ## Running the scanner over a piece of text -/

/-- A character that is literal outside quotes, wherever it stands. -/
def Safe (c : Char) : Prop :=
  c ∉ [' ', '\t', '\'', '"', '\\', '~', '#'] ++ operators ++ expansions

instance (c : Char) : Decidable (Safe c) := inferInstanceAs (Decidable (_ ∉ _))

theorem step_safe {σ : State} {c : Char} (hmode : σ.mode = .bare) (h : Safe c) :
    step σ c = .ok ([], ⟨.bare, some (σ.text ++ [c])⟩) := by
  simp only [Safe, List.mem_append, List.mem_cons, List.not_mem_nil, or_false, not_or] at h
  obtain ⟨⟨⟨hsp, htab, hsq, hdq, hbs, htilde, hhash⟩, hop⟩, hexp⟩ := h
  simp [step, hmode, hsp, htab, hsq, hdq, hbs, htilde, hhash, hop, hexp]

/-- Safe characters are appended to the word. -/
theorem scan_safe {σ : State} (hmode : σ.mode = .bare) {cs : List Char} (hne : cs ≠ [])
    (h : ∀ c ∈ cs, Safe c) (rest : List Char) :
    scan σ (cs ++ rest) = scan ⟨.bare, some (σ.text ++ cs)⟩ rest := by
  induction cs generalizing σ with
  | nil => exact absurd rfl hne
  | cons c cs ih =>
    rw [List.cons_append, scan_cons_quiet (step_safe hmode (h c List.mem_cons_self))]
    cases cs with
    | nil => rfl
    | cons d ds =>
      rw [ih rfl (List.cons_ne_nil d ds) fun x hx => h x (List.mem_cons_of_mem c hx)]
      simp [State.text]

/-- Between single quotes everything up to the closing quote is appended to the word. -/
theorem scan_single {cs : List Char} (h : '\'' ∉ cs) (w rest : List Char) :
    scan ⟨.single, some w⟩ (cs ++ '\'' :: rest) = scan ⟨.bare, some (w ++ cs)⟩ rest := by
  induction cs generalizing w with
  | nil =>
    rw [List.append_nil]
    exact scan_cons_quiet rfl rest
  | cons c cs ih =>
    obtain ⟨hc, hcs⟩ := not_or.mp fun hmem => h (List.mem_cons.mpr hmem)
    have hstep : step ⟨.single, some w⟩ c = .ok ([], ⟨.single, some (w ++ [c])⟩) :=
      if_neg (Ne.symm hc)
    rw [List.cons_append, scan_cons_quiet hstep, ih hcs, List.append_assoc, List.singleton_append]

/-- A blank completes the word. -/
theorem scan_blank (w rest : List Char) :
    scan ⟨.bare, some w⟩ (' ' :: rest) = (scan start rest).map (w :: ·) := by
  have hstep : step ⟨.bare, some w⟩ ' ' = .ok ([w], start) := rfl
  exact scan_cons_ok hstep rest

/-! ## Arguments -/

/-- One argument as a caller writes it: a key as it stands, then possibly a value in single quotes. -/
structure Arg where
  key : String
  value : Option String
  key_safe : ∀ c ∈ key.toList, Safe c
  key_nonempty : key ≠ ""

/-- A word without a value. -/
def Arg.plain (word : String) (h : (∀ c ∈ word.toList, Safe c) ∧ word ≠ "" := by decide) : Arg :=
  ⟨word, none, h.1, h.2⟩

/-- A key with a quoted value. -/
def Arg.quoted (key value : String) (h : (∀ c ∈ key.toList, Safe c) ∧ key ≠ "" := by decide) : Arg :=
  ⟨key, some value, h.1, h.2⟩

/-- What the caller writes. -/
def Arg.render (a : Arg) : String :=
  match a.value with
  | none => a.key
  | some v => a.key ++ "'" ++ v ++ "'"

/-- The word the caller means. -/
def Arg.word (a : Arg) : String := a.key ++ a.value.getD ""

/-- No single quote in the value. -/
def Arg.QuoteFree (a : Arg) : Prop := ∀ v, a.value = some v → '\'' ∉ v.toList

/-- An argument without a quote in its value is scanned as one word, ready to be completed. -/
theorem scan_render {a : Arg} (h : a.QuoteFree) (rest : List Char) :
    scan start (a.render.toList ++ rest) = scan ⟨.bare, some a.word.toList⟩ rest := by
  obtain ⟨key, value, hsafe, hne⟩ := a
  have hne' : key.toList ≠ [] := fun hnil => hne (String.toList_eq_nil_iff.mp hnil)
  cases value with
  | none =>
    simp only [Arg.render, Arg.word, Option.getD_none, String.append_empty]
    rw [scan_safe rfl hne' hsafe]
    rfl
  | some v =>
    have htext : key ++ "'" ++ v ++ "'" = key ++ ("'" ++ (v ++ "'")) := by
      simp only [String.append_assoc]
    simp only [Arg.render, Arg.word, Option.getD_some, htext, String.toList_append,
      List.append_assoc]
    rw [scan_safe rfl hne' hsafe]
    have hopen : step ⟨.bare, some key.toList⟩ '\'' = .ok ([], ⟨.single, some key.toList⟩) := rfl
    exact (scan_cons_quiet hopen _).trans (scan_single (h v rfl) _ _)

/-- `" ".join(...)` of the rendered arguments. -/
def joined (args : List Arg) : String := " ".intercalate (args.map Arg.render)

theorem toList_joined_singleton (a : Arg) : (joined [a]).toList = a.render.toList := by
  rw [joined, String.toList_intercalate, List.map_singleton, List.map_singleton,
    List.intercalate_singleton]

theorem toList_joined_cons (a b : Arg) (bs : List Arg) :
    (joined (a :: b :: bs)).toList = a.render.toList ++ ' ' :: (joined (b :: bs)).toList := by
  simp only [joined, String.toList_intercalate, List.map_cons]
  rw [List.intercalate_cons_of_ne_nil (List.cons_ne_nil _ _), List.append_assoc]
  rfl

/-- **Quoting works** where no value contains a single quote. -/
theorem scan_joined {args : List Arg} (h : ∀ a ∈ args, a.QuoteFree) :
    scan start (joined args).toList = .ok (args.map fun a => a.word.toList) := by
  induction args with
  | nil => rfl
  | cons a as ih =>
    have ha := scan_render (h a List.mem_cons_self)
    have has := ih fun b hb => h b (List.mem_cons_of_mem a hb)
    cases as with
    | nil =>
      have hend := ha []
      rw [List.append_nil] at hend
      rw [toList_joined_singleton, hend]
      rfl
    | cons b bs =>
      rw [toList_joined_cons, ha, scan_blank, has]
      rfl

/-! ## Counting characters -/

/-- One character by the account: it is removed — as a single quote, as part of another quoting, or as
    a blank that completes at most one word — or it is kept; and without another quoting no single
    quote is kept. -/
theorem step_account {σ σ' : State} {c : Char} {done : List (List Char)}
    (h : step σ c = .ok (done, σ')) :
    ∃ quotes others blanks : Nat,
      done.flatten.length + σ'.text.length + σ'.mode.pending + quotes + others + blanks =
        σ.text.length + σ.mode.pending + 1 ∧
      done.flatten.count '\'' + σ'.text.count '\'' + quotes = σ.text.count '\'' + [c].count '\'' ∧
      done.length ≤ blanks ∧
      (others = 0 → σ.mode.Plain →
        σ'.mode.Plain ∧ done.flatten.count '\'' + σ'.text.count '\'' = σ.text.count '\'') := by
  rcases step_cases h with ⟨hbare, hblank, rfl, rfl⟩ | ⟨rfl, rfl, hword, hpending, hpending', hplain⟩ |
    ⟨rfl, added, others, hword, hlen, hcount, -, hkeeps⟩
  · have hc : '\'' ≠ c := by rcases hblank with rfl | rfl <;> decide
    refine ⟨0, 0, 1, ?_⟩
    obtain ⟨mode, word⟩ := σ
    obtain rfl : mode = .bare := hbare
    cases word <;> simp [start, State.text, Mode.pending, Mode.Plain, hc.symm]
  · have htext : σ'.text = σ.text := by rw [State.text, hword, Option.getD_some]
    exact ⟨1, 0, 0, by simp [htext, hpending, hpending', hplain]⟩
  · have htext : σ'.text = σ.text ++ added := by
      rcases hword with hword | ⟨rfl, hword⟩
      · rw [State.text, hword, Option.getD_some]
      · rw [State.text, hword, List.append_nil, State.text]
    refine ⟨0, others, 0, ?_, ?_, Nat.le_refl _, fun hothers hmode => ?_⟩
    · rw [htext, List.flatten_nil, List.length_nil, List.length_append]
      omega
    · rw [htext, List.flatten_nil, List.count_nil, List.count_append, hcount]
      omega
    · obtain ⟨hmode', hc⟩ := hkeeps hothers hmode
      have hzero : [c].count '\'' = 0 := by simp [hc]
      refine ⟨hmode', ?_⟩
      rw [htext, List.flatten_nil, List.count_nil, List.count_append, hcount, hzero]
      omega

/-- The same account for a whole string: `ws.flatten` is what was kept of it. -/
theorem scan_account {cs : List Char} :
    ∀ {σ : State} {ws : List (List Char)}, scan σ cs = .ok ws →
      ∃ quotes others blanks : Nat,
        ws.flatten.length + quotes + others + blanks =
          σ.text.length + σ.mode.pending + cs.length ∧
        ws.flatten.count '\'' + quotes = σ.text.count '\'' + cs.count '\'' ∧
        ws.length ≤ blanks + 1 ∧
        (others = 0 → σ.mode.Plain → ws.flatten.count '\'' = σ.text.count '\'') := by
  induction cs with
  | nil =>
    intro σ ws h
    have hend : finish σ = .ok ws := h
    unfold finish at hend
    split at hend
    · next hbare =>
      obtain rfl := Except.ok.inj hend
      refine ⟨0, 0, 0, ?_⟩
      obtain ⟨mode, word⟩ := σ
      obtain rfl : mode = .bare := hbare
      cases word <;> simp [State.text, Mode.pending]
    · nomatch hend
  | cons c cs ih =>
    intro σ ws h
    obtain ⟨done, σ', vs, hstep, hrest, rfl⟩ := scan_cons_inv h
    obtain ⟨q₁, o₁, b₁, hlen₁, hcount₁, hwords₁, hplain₁⟩ := step_account hstep
    obtain ⟨q₂, o₂, b₂, hlen₂, hcount₂, hwords₂, hplain₂⟩ := ih hrest
    have hsplit : (c :: cs).count '\'' = [c].count '\'' + cs.count '\'' := by
      rw [← List.count_append, List.singleton_append]
    -- the account of the first character and that of the rest add up
    refine ⟨q₁ + q₂, o₁ + o₂, b₁ + b₂, ?_, ?_, ?_, ?_⟩
    · rw [List.flatten_append, List.length_append, List.length_cons]
      omega
    · rw [List.flatten_append, List.count_append, hsplit]
      omega
    · rw [List.length_append]
      omega
    · intro hothers hmode
      obtain ⟨hmode', hkept₁⟩ := hplain₁ (by omega) hmode
      have hkept₂ := hplain₂ (by omega) hmode'
      rw [List.flatten_append, List.count_append]
      omega

/-! ## Exactly when quoting works -/

/-- The quotes the caller writes around a value. -/
def Arg.quotes (a : Arg) : Nat := if a.value.isSome then 2 else 0

theorem Arg.length_render (a : Arg) :
    a.render.toList.length = a.word.toList.length + a.quotes := by
  obtain ⟨key, value, _, _⟩ := a
  cases value with
  | none => simp [Arg.render, Arg.word, Arg.quotes]
  | some v =>
    simp [Arg.render, Arg.word, Arg.quotes]
    omega

theorem Arg.count_render (a : Arg) :
    a.render.toList.count '\'' = a.word.toList.count '\'' + a.quotes := by
  obtain ⟨key, value, _, _⟩ := a
  cases value with
  | none => simp [Arg.render, Arg.word, Arg.quotes]
  | some v =>
    simp [Arg.render, Arg.word, Arg.quotes]
    omega

/-- The words of an argument list, in one piece. -/
def kept (args : List Arg) : List Char := (args.map fun a => a.word.toList).flatten

/-- All the quotes the caller writes. -/
def written (args : List Arg) : Nat := (args.map Arg.quotes).sum

theorem length_joined {args : List Arg} (hne : args ≠ []) :
    (joined args).toList.length + 1 = (kept args).length + written args + args.length := by
  induction args with
  | nil => exact absurd rfl hne
  | cons a as ih =>
    have ha := a.length_render
    cases as with
    | nil =>
      rw [toList_joined_singleton]
      simp [kept, written]
      omega
    | cons b bs =>
      have hbs := ih (List.cons_ne_nil b bs)
      have hkept : kept (a :: b :: bs) = a.word.toList ++ kept (b :: bs) := rfl
      have hwritten : written (a :: b :: bs) = a.quotes + written (b :: bs) := List.sum_cons
      rw [toList_joined_cons, List.length_append, List.length_cons, hkept, hwritten,
        List.length_append, List.length_cons (a := a)]
      omega

theorem count_joined {args : List Arg} :
    (joined args).toList.count '\'' = (kept args).count '\'' + written args := by
  induction args with
  | nil => rfl
  | cons a as ih =>
    have ha := a.count_render
    cases as with
    | nil =>
      rw [toList_joined_singleton]
      simp [kept, written]
      omega
    | cons b bs =>
      have hkept : kept (a :: b :: bs) = a.word.toList ++ kept (b :: bs) := rfl
      have hwritten : written (a :: b :: bs) = a.quotes + written (b :: bs) := List.sum_cons
      rw [toList_joined_cons, List.count_append, List.count_cons_of_ne (by decide), hkept,
        hwritten, List.count_append]
      omega

/-- **Quoting works only there**: words as intended leave no single quote in any of them. -/
theorem quoteFree_of_scan_joined {args : List Arg}
    (h : scan start (joined args).toList = .ok (args.map fun a => a.word.toList)) :
    ∀ a ∈ args, a.QuoteFree := by
  intro a ha v hv hquote
  have hne : args ≠ [] := List.ne_nil_of_mem ha
  obtain ⟨quotes, others, blanks, hlen, hcount, hwords, hplain⟩ := scan_account h
  have hlen' := length_joined hne
  have hcount' := @count_joined args
  have hblanks : args.length ≤ blanks + 1 := by rwa [List.length_map] at hwords
  have hstart : start.text.length = 0 ∧ start.mode.pending = 0 ∧ start.text.count '\'' = 0 :=
    ⟨rfl, rfl, rfl⟩
  unfold kept at hlen' hcount'
  -- the scanner removed as many single quotes as the caller wrote: nothing else was removed
  have hothers : others = 0 := by omega
  have hzero := hplain hothers (Or.inl rfl)
  rw [hstart.2.2, List.count_eq_zero] at hzero
  refine hzero (List.mem_flatten.mpr ⟨a.word.toList, List.mem_map.mpr ⟨a, ha, rfl⟩, ?_⟩)
  rw [Arg.word, hv, String.toList_append]
  exact List.mem_append_right _ hquote

/-- **Main rule.**  The joined arguments split back into the intended words exactly when no value
    contains a single quote. -/
theorem shellWords_joined_iff (args : List Arg) :
    shellWords (joined args) = .ok (args.map Arg.word) ↔ ∀ a ∈ args, a.QuoteFree := by
  constructor
  · intro h
    apply quoteFree_of_scan_joined
    unfold shellWords at h
    cases hscan : scan start (joined args).toList with
    | error e =>
      rw [hscan] at h
      nomatch h
    | ok ws =>
      rw [hscan] at h
      have hws : ws.map String.ofList = args.map Arg.word := Except.ok.inj h
      have hback := congrArg (List.map String.toList) hws
      rw [List.map_map, List.map_map] at hback
      have hid : String.toList ∘ String.ofList = id := funext fun cs => String.toList_ofList
      rw [hid, List.map_id] at hback
      rw [hback]
      rfl
  · intro h
    unfold shellWords
    rw [scan_joined h]
    have hid : (String.ofList ∘ fun a : Arg => a.word.toList) = Arg.word :=
      funext fun a => String.ofList_toList
    show Except.ok ((args.map fun a => a.word.toList).map String.ofList) = _
    rw [List.map_map, hid]

/-- A safe word in front of a line is the line's first word. -/
theorem shellWords_cons {word rest : String} {words : List String}
    (hsafe : ∀ c ∈ word.toList, Safe c) (hne : word ≠ "") (h : shellWords rest = .ok words) :
    shellWords (word ++ " " ++ rest) = .ok (word :: words) := by
  have hne' : word.toList ≠ [] := fun hnil => hne (String.toList_eq_nil_iff.mp hnil)
  have hline : (word ++ " " ++ rest).toList = word.toList ++ ' ' :: rest.toList := by
    rw [String.toList_append, String.toList_append, List.append_assoc]
    rfl
  unfold shellWords at h ⊢
  rw [hline, scan_safe rfl hne' hsafe]
  show (scan ⟨.bare, some word.toList⟩ (' ' :: rest.toList)).map _ = _
  rw [scan_blank]
  cases hscan : scan start rest.toList with
  | error e =>
    rw [hscan] at h
    nomatch h
  | ok ws =>
    rw [hscan] at h
    obtain rfl := Except.ok.inj h
    show Except.ok (String.ofList word.toList :: ws.map String.ofList) = _
    rw [String.ofList_toList]

/-! ## The first word on its own -/

/-- A word under construction is completed by a blank, or grows. -/
theorem step_word {σ σ' : State} {c : Char} {done : List (List Char)} {u : List Char}
    (hσ : σ.word = some u) (h : step σ c = .ok (done, σ')) :
    (σ.mode = .bare ∧ (c = ' ' ∨ c = '\t') ∧ done = [u]) ∨
    (done = [] ∧ ∃ v, σ'.word = some (u ++ v) ∧ (c = ' ' → ' ' ∈ v)) := by
  have htext : σ.text = u := by rw [State.text, hσ, Option.getD_some]
  rcases step_cases h with ⟨hbare, hblank, rfl, -⟩ | ⟨rfl, rfl, hword, -⟩ |
    ⟨rfl, added, -, hword, -, -, hspace, -⟩
  · exact .inl ⟨hbare, hblank, by rw [hσ, Option.toList_some]⟩
  · refine .inr ⟨rfl, [], ?_, fun heq => absurd heq (by decide)⟩
    rw [hword, htext, List.append_nil]
  · refine .inr ⟨rfl, added, ?_, hspace⟩
    rcases hword with hword | ⟨rfl, hword⟩
    · rw [hword, htext]
    · rw [hword, hσ, List.append_nil]

/-- The word under construction starts the first word that comes out. -/
theorem isPrefix_first_word {cs : List Char} :
    ∀ {σ : State} {u w : List Char} {ws : List (List Char)},
      σ.word = some u → scan σ cs = .ok (w :: ws) → u <+: w := by
  induction cs with
  | nil =>
    intro σ u w ws hσ h
    have hend : finish σ = .ok (w :: ws) := h
    unfold finish at hend
    split at hend
    · rw [hσ] at hend
      obtain ⟨rfl, -⟩ := List.cons.inj (Except.ok.inj hend)
      exact List.prefix_rfl
    · nomatch hend
  | cons c cs ih =>
    intro σ u w ws hσ h
    obtain ⟨done, σ', vs, hstep, hrest, hws⟩ := scan_cons_inv h
    rcases step_word hσ hstep with ⟨-, -, rfl⟩ | ⟨rfl, v, hσ', -⟩
    · obtain ⟨rfl, -⟩ := List.cons.inj hws
      exact List.prefix_rfl
    · obtain rfl : w :: ws = vs := hws
      exact (List.prefix_append u v).trans (ih hσ' hrest)

/-- If the first word has no blank, then it is all that precedes the first blank. -/
theorem scan_first_chunk {cs rest : List Char} (hcs : ∀ c ∈ cs, c ≠ ' ' ∧ c ≠ '\t') :
    ∀ {σ : State} {u w : List Char} {ws : List (List Char)},
      σ.word = some u → ' ' ∉ w → scan σ (cs ++ ' ' :: rest) = .ok (w :: ws) →
        scan σ cs = .ok [w] := by
  induction cs with
  | nil =>
    intro σ u w ws hσ hw h
    obtain ⟨done, σ', vs, hstep, hrest, hws⟩ := scan_cons_inv h
    rcases step_word hσ hstep with ⟨hbare, -, rfl⟩ | ⟨rfl, v, hσ', hv⟩
    · obtain ⟨rfl, -⟩ := List.cons.inj hws
      show finish σ = _
      rw [finish, if_pos hbare, hσ]
      rfl
    · -- the blank would have gone into the word
      obtain rfl : w :: ws = vs := hws
      have hblank : ' ' ∈ u ++ v := List.mem_append_right u (hv rfl)
      exact absurd ((isPrefix_first_word hσ' hrest).subset hblank) hw
  | cons c cs ih =>
    intro σ u w ws hσ hw h
    obtain ⟨done, σ', vs, hstep, hrest, hws⟩ := scan_cons_inv h
    rcases step_word hσ hstep with ⟨-, hc, -⟩ | ⟨rfl, v, hσ', -⟩
    · have hne := hcs c List.mem_cons_self
      rcases hc with heq | heq
      · exact absurd heq hne.1
      · exact absurd heq hne.2
    · obtain rfl : w :: ws = vs := hws
      rw [scan_cons_quiet hstep]
      exact ih (fun d hd => hcs d (List.mem_cons_of_mem c hd)) hσ' hw hrest

/-- The words of a string are its scanned words; the first of them, taken apart. -/
theorem first_of_shellWords {s : String} {u : String} {us : List String}
    (h : shellWords s = .ok (u :: us)) :
    ∃ w vs, scan start s.toList = .ok (w :: vs) ∧ String.ofList w = u := by
  unfold shellWords at h
  cases hscan : scan start s.toList with
  | error e =>
    rw [hscan] at h
    nomatch h
  | ok ws =>
    rw [hscan] at h
    have hws : ws.map String.ofList = u :: us := Except.ok.inj h
    cases ws with
    | nil => nomatch hws
    | cons w vs => exact ⟨w, vs, rfl, (List.cons.inj hws).1⟩

/-- A first argument whose value has no blank comes back as its word only if it has no single
    quote: whatever follows it cannot make up for one. -/
theorem quoteFree_of_first_word {a b : Arg} {bs : List Arg} {ws : List String}
    (hvalue : ∀ v, a.value = some v → ' ' ∉ v.toList ∧ '\t' ∉ v.toList)
    (h : shellWords (joined (a :: b :: bs)) = .ok (a.word :: ws)) : a.QuoteFree := by
  cases hvalue' : a.value with
  | none =>
    intro v hv
    rw [hvalue'] at hv
    nomatch hv
  | some v =>
    obtain ⟨hspace, htab⟩ := hvalue v hvalue'
    have hkey : a.key.toList ≠ [] := fun hnil => a.key_nonempty (String.toList_eq_nil_iff.mp hnil)
    have hrender : a.render.toList = a.key.toList ++ ('\'' :: v.toList ++ ['\'']) := by
      simp [Arg.render, hvalue']
    have hword : a.word.toList = a.key.toList ++ v.toList := by
      simp [Arg.word, hvalue']
    have hnoblank : ' ' ∉ a.word.toList := by
      rw [hword, List.mem_append]
      rintro (hmem | hmem)
      · exact absurd (a.key_safe _ hmem) (by decide)
      · exact hspace hmem
    have hchunk : ∀ c ∈ '\'' :: v.toList ++ ['\''], c ≠ ' ' ∧ c ≠ '\t' := by
      intro c hc
      simp only [List.cons_append, List.mem_cons, List.mem_append, List.not_mem_nil, or_false] at hc
      rcases hc with rfl | hc | rfl
      · decide
      · constructor
        · rintro rfl
          exact hspace hc
        · rintro rfl
          exact htab hc
      · decide
    -- the first word, back in characters
    obtain ⟨w, vs, hscan, hw⟩ := first_of_shellWords h
    obtain rfl : w = a.word.toList := by rw [← hw, String.toList_ofList]
    rw [toList_joined_cons, hrender, List.append_assoc, scan_safe rfl hkey a.key_safe] at hscan
    have halone := scan_first_chunk hchunk rfl hnoblank hscan
    rw [← scan_safe rfl hkey a.key_safe, ← hrender, ← toList_joined_singleton] at halone
    exact quoteFree_of_scan_joined halone a List.mem_cons_self

end TrainBdd.Shell
