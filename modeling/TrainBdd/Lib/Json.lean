/-
  JSON texts as `json.dumps` writes them with its defaults, and a reader for them.

  1. **Values** — `Value`: strings, arrays and objects, the values a request body is built from.  An
     object keeps its members in insertion order.

  2. **Writer** — `dumps`: separators `", "` and `": "`, and `ensure_ascii`: every character outside
     the printable ASCII range becomes a `\uXXXX` escape, a pair of them beyond the BMP.

  3. **Reader** — `loads`: white space between tokens, the short escapes, `\uXXXX` in either case with
     surrogate pairs.  It is fuelled by the length of the text, so it runs in the kernel.

  4. **Round trip** — `loads_dumps : loads (dumps v) = some v`, from one lemma a token.

  5. **Characters** — `mem_render_iff`: the writer introduces no character that is not a string's own,
     punctuation, or an ASCII letter or digit.  Stated for one character `q`, e.g. a quote of another
     language the text is embedded in.
-/
import TrainBdd.Lib.Text
import Mathlib.Data.List.Basic

namespace TrainBdd.Json

/-! ## Values -/

inductive Value
  | str (s : String)
  | arr (elems : List Value)
  | obj (members : List (String × Value))

/-- **Induction on values**: a property of every string passes on to everything built from them. -/
theorem Value.induct {P : Value → Prop} (hstr : ∀ s, P (.str s))
    (harr : ∀ vs, (∀ v ∈ vs, P v) → P (.arr vs))
    (hobj : ∀ ms : List (String × Value), (∀ m ∈ ms, P m.2) → P (.obj ms)) (v : Value) : P v := by
  match v with
  | .str s => exact hstr s
  | .arr vs => exact harr vs fun v _ => Value.induct hstr harr hobj v
  | .obj ms => exact hobj ms fun m _ => Value.induct hstr harr hobj m.2
termination_by sizeOf v
decreasing_by
  · have := List.sizeOf_lt_of_mem ‹v ∈ vs›
    simp only [Value.arr.sizeOf_spec]
    omega
  · have := List.sizeOf_lt_of_mem ‹m ∈ ms›
    obtain ⟨key, v⟩ := m
    simp only [Prod.mk.sizeOf_spec, Value.obj.sizeOf_spec] at this ⊢
    omega

/-! ## The writer -/

/-- A hexadecimal digit, in lower case. -/
def hexDigit (n : Nat) : Char := if n < 10 then Char.ofNat (48 + n) else Char.ofNat (87 + n)

/-- The four digits of a `\u` escape. -/
def hex4 (n : Nat) : List Char :=
  [hexDigit (n / 4096 % 16), hexDigit (n / 256 % 16), hexDigit (n / 16 % 16), hexDigit (n % 16)]

/-- A `\u` escape of one UTF-16 code unit. -/
def unicodeEscape (n : Nat) : List Char := '\\' :: 'u' :: hex4 n

/-- One character of a string, as `ensure_ascii` writes it. -/
def escapeChar (c : Char) : List Char :=
  if c = '"' then ['\\', '"']
  else if c = '\\' then ['\\', '\\']
  else if c = '\n' then ['\\', 'n']
  else if c = '\r' then ['\\', 'r']
  else if c = '\t' then ['\\', 't']
  else if c = '\x0c' then ['\\', 'f']
  else if c = '\x08' then ['\\', 'b']
  else if 0x20 ≤ c.toNat ∧ c.toNat ≤ 0x7e then [c]
  else if c.toNat < 0x10000 then unicodeEscape c.toNat
  else
    -- a surrogate pair
    unicodeEscape (0xd800 + (c.toNat - 0x10000) / 0x400) ++
      unicodeEscape (0xdc00 + (c.toNat - 0x10000) % 0x400)

/-- A string literal. -/
def quote (s : String) : List Char := '"' :: (s.toList.flatMap escapeChar ++ ['"'])

/-- The item separator `", "`. -/
def commaSep : List (List Char) → List Char
  | [] => []
  | [x] => x
  | x :: y :: xs => x ++ ',' :: ' ' :: commaSep (y :: xs)

mutual
/-- The text of a value. -/
def render : Value → List Char
  | .str s => quote s
  | .arr elems => '[' :: (commaSep (renderElems elems) ++ [']'])
  | .obj members => '\x7b' :: (commaSep (renderMembers members) ++ ['\x7d'])

def renderElems : List Value → List (List Char)
  | [] => []
  | v :: vs => render v :: renderElems vs

def renderMembers : List (String × Value) → List (List Char)
  | [] => []
  | (key, v) :: ms => (quote key ++ ':' :: ' ' :: render v) :: renderMembers ms
end

/-- `json.dumps(value)`. -/
def dumps (v : Value) : String := String.ofList (render v)

/-- The characters the writer has of its own: punctuation, escapes and hexadecimal digits. -/
def ownChars : List Char := "\"\\nrtfbu0123456789abcdef[]\x7b\x7d,: ".toList

/-! ## The reader -/

/-- JSON's white space. -/
def isWs (c : Char) : Bool := c = ' ' || c = '\n' || c = '\r' || c = '\t'

def skipWs (cs : List Char) : List Char := cs.dropWhile isWs

def hexVal (c : Char) : Option Nat :=
  if '0' ≤ c ∧ c ≤ '9' then some (c.toNat - 48)
  else if 'a' ≤ c ∧ c ≤ 'f' then some (c.toNat - 87)
  else if 'A' ≤ c ∧ c ≤ 'F' then some (c.toNat - 55)
  else none

/-- The code unit of a `\u` escape, after its `\u`. -/
def readHex4 : List Char → Option (Nat × List Char)
  | a :: b :: c :: d :: cs => do
    let a ← hexVal a
    let b ← hexVal b
    let c ← hexVal c
    let d ← hexVal d
    return (a * 4096 + b * 256 + c * 16 + d, cs)
  | _ => none

/-- A `\u` escape after its `\u`, joined with the next one when it opens a surrogate pair.  A lone
    surrogate is no character. -/
def readUnicode (cs : List Char) : Option (Char × List Char) := do
  let (hi, cs) ← readHex4 cs
  if hi < 0xd800 ∨ 0xdfff < hi then
    return (Char.ofNat hi, cs)
  else
    match cs with
    | '\\' :: 'u' :: cs =>
      let (lo, cs) ← readHex4 cs
      if hi < 0xdc00 ∧ 0xdc00 ≤ lo ∧ lo ≤ 0xdfff then
        return (Char.ofNat (0x10000 + (hi - 0xd800) * 0x400 + (lo - 0xdc00)), cs)
      else
        none
    | _ => none

/-- One character inside a string literal. -/
def readChar : List Char → Option (Char × List Char)
  | '\\' :: 'u' :: cs => readUnicode cs
  | '\\' :: '"' :: cs => some ('"', cs)
  | '\\' :: '\\' :: cs => some ('\\', cs)
  | '\\' :: '/' :: cs => some ('/', cs)
  | '\\' :: 'n' :: cs => some ('\n', cs)
  | '\\' :: 'r' :: cs => some ('\r', cs)
  | '\\' :: 't' :: cs => some ('\t', cs)
  | '\\' :: 'f' :: cs => some ('\x0c', cs)
  | '\\' :: 'b' :: cs => some ('\x08', cs)
  | '\\' :: _ => none
  | c :: cs => if c.toNat < 0x20 then none else some (c, cs)
  | [] => none

/-- The rest of a string literal, after its opening quote. -/
def readString : Nat → List Char → Option (List Char × List Char)
  | 0, _ => none
  | _ + 1, '"' :: cs => some ([], cs)
  | n + 1, cs => do
    let (c, cs) ← readChar cs
    let (s, cs) ← readString n cs
    return (c :: s, cs)

/-- Items up to `close`, after the opening bracket and with at least one item. -/
def readItems {α : Type} (item : List Char → Option (α × List Char)) (close : Char) :
    Nat → List Char → Option (List α × List Char)
  | 0, _ => none
  | n + 1, cs => do
    let (x, cs) ← item (skipWs cs)
    match skipWs cs with
    | [] => none
    | c :: cs =>
      if c = close then return ([x], cs)
      else if c = ',' then
        let (xs, cs) ← readItems item close n cs
        return (x :: xs, cs)
      else none

/-- A member of an object: a key, a colon, a value. -/
def readMember (value : List Char → Option (Value × List Char)) :
    List Char → Option ((String × Value) × List Char)
  | '"' :: cs => do
    let (key, cs) ← readString cs.length cs
    match skipWs cs with
    | ':' :: cs =>
      let (v, cs) ← value (skipWs cs)
      return ((String.ofList key, v), cs)
    | _ => none
  | _ => none

/-- A value; the fuel bounds the nesting. -/
def readValue : Nat → List Char → Option (Value × List Char)
  | 0, _ => none
  | _ + 1, '"' :: cs => do
    let (s, cs) ← readString cs.length cs
    return (.str (String.ofList s), cs)
  | n + 1, '[' :: cs =>
    match skipWs cs with
    | ']' :: cs => some (.arr [], cs)
    | cs => do
      let (vs, cs) ← readItems (readValue n) ']' cs.length cs
      return (.arr vs, cs)
  | n + 1, '\x7b' :: cs =>
    match skipWs cs with
    | '\x7d' :: cs => some (.obj [], cs)
    | cs => do
      let (ms, cs) ← readItems (readMember (readValue n)) '\x7d' cs.length cs
      return (.obj ms, cs)
  | _ + 1, _ => none

/-- `json.loads(text)`. -/
def loads (text : String) : Option Value :=
  match readValue text.toList.length (skipWs text.toList) with
  | some (v, cs) => if skipWs cs = [] then some v else none
  | none => none

/-! ## Reading back one character -/

theorem hexVal_hexDigit {n : Nat} (h : n < 16) : hexVal (hexDigit n) = some n := by
  have hall : ∀ d : Fin 16, hexVal (hexDigit d.val) = some d.val := by decide
  exact hall ⟨n, h⟩

theorem readHex4_hex4 {n : Nat} (h : n < 0x10000) (cs : List Char) :
    readHex4 (hex4 n ++ cs) = some (n, cs) := by
  have hsum : n / 4096 % 16 * 4096 + n / 256 % 16 * 256 + n / 16 % 16 * 16 + n % 16 = n := by omega
  simp [hex4, readHex4, hexVal_hexDigit (Nat.mod_lt _ (by decide : 0 < 16)), hsum]

/-- A character is no surrogate. -/
theorem not_surrogate (c : Char) : c.toNat < 0xd800 ∨ 0xdfff < c.toNat ∧ c.toNat < 0x110000 :=
  c.valid

theorem readUnicode_bmp {c : Char} (h : c.toNat < 0x10000) (cs : List Char) :
    readUnicode (hex4 c.toNat ++ cs) = some (c, cs) := by
  have hnot : c.toNat < 0xd800 ∨ 0xdfff < c.toNat := by
    have := not_surrogate c
    omega
  simp [readUnicode, readHex4_hex4 h, hnot, Char.ofNat_toNat]

/-- Two escapes that form a surrogate pair are one character. -/
theorem readUnicode_surrogates {hi lo : Nat} (hhi : 0xd800 ≤ hi ∧ hi < 0xdc00)
    (hlo : 0xdc00 ≤ lo ∧ lo ≤ 0xdfff) (cs : List Char) :
    readUnicode (hex4 hi ++ (unicodeEscape lo ++ cs)) =
      some (Char.ofNat (0x10000 + (hi - 0xd800) * 0x400 + (lo - 0xdc00)), cs) := by
  have hhi' : hi < 0x10000 := by omega
  have hlo' : lo < 0x10000 := by omega
  have hsur : ¬ (hi < 0xd800 ∨ 0xdfff < hi) := by omega
  have hpair : hi < 0xdc00 ∧ 0xdc00 ≤ lo ∧ lo ≤ 0xdfff := ⟨hhi.2, hlo⟩
  simp only [readUnicode, unicodeEscape, List.cons_append, readHex4_hex4 hhi', readHex4_hex4 hlo',
    Option.bind_eq_bind, Option.bind_some, if_neg hsur, if_pos hpair, Option.pure_def]

theorem readUnicode_pair {c : Char} (h : ¬ c.toNat < 0x10000) (cs : List Char) :
    readUnicode (hex4 (0xd800 + (c.toNat - 0x10000) / 0x400) ++
      (unicodeEscape (0xdc00 + (c.toNat - 0x10000) % 0x400) ++ cs)) = some (c, cs) := by
  have hc := not_surrogate c
  rw [readUnicode_surrogates (by omega) (by omega)]
  have hsum : 0x10000 + (0xd800 + (c.toNat - 0x10000) / 0x400 - 0xd800) * 0x400 +
      (0xdc00 + (c.toNat - 0x10000) % 0x400 - 0xdc00) = c.toNat := by omega
  rw [hsum, Char.ofNat_toNat]

/-- A printable character other than the backslash stands for itself. -/
theorem readChar_self {c : Char} (hb : c ≠ '\\') (hprint : 0x20 ≤ c.toNat) (cs : List Char) :
    readChar (c :: cs) = some (c, cs) := by
  rw [readChar, if_neg (Nat.not_lt.mpr hprint)]
  case x_10 => exact hb
  -- the patterns before start with a backslash
  all_goals exact fun _ h _ => absurd h hb

/-- **What is written for a character**: a short escape that reads back, the character itself, or one
    or two `\u` escapes. -/
theorem escapeChar_cases (c : Char) :
    (∃ d ∈ ownChars, escapeChar c = ['\\', d] ∧
      (∀ cs, readChar ('\\' :: d :: cs) = some (c, cs)) ∧
      (c ∈ ownChars ∨ ¬ (0x20 ≤ c.toNat ∧ c.toNat ≤ 0x7e))) ∨
    (escapeChar c = [c] ∧ c ≠ '"' ∧ c ≠ '\\' ∧ 0x20 ≤ c.toNat) ∨
    ¬ (0x20 ≤ c.toNat ∧ c.toNat ≤ 0x7e) ∧
      (c.toNat < 0x10000 ∧ escapeChar c = unicodeEscape c.toNat ∨
        ¬ c.toNat < 0x10000 ∧ escapeChar c =
          unicodeEscape (0xd800 + (c.toNat - 0x10000) / 0x400) ++
            unicodeEscape (0xdc00 + (c.toNat - 0x10000) % 0x400)) := by
  by_cases hquote : c = '"'
  · subst hquote
    exact .inl ⟨'"', by decide, rfl, fun _ => rfl, by decide⟩
  by_cases hslash : c = '\\'
  · subst hslash
    exact .inl ⟨'\\', by decide, rfl, fun _ => rfl, by decide⟩
  by_cases hnewline : c = '\n'
  · subst hnewline
    exact .inl ⟨'n', by decide, rfl, fun _ => rfl, by decide⟩
  by_cases hreturn : c = '\r'
  · subst hreturn
    exact .inl ⟨'r', by decide, rfl, fun _ => rfl, by decide⟩
  by_cases htab : c = '\t'
  · subst htab
    exact .inl ⟨'t', by decide, rfl, fun _ => rfl, by decide⟩
  by_cases hfeed : c = '\x0c'
  · subst hfeed
    exact .inl ⟨'f', by decide, rfl, fun _ => rfl, by decide⟩
  by_cases hback : c = '\x08'
  · subst hback
    exact .inl ⟨'b', by decide, rfl, fun _ => rfl, by decide⟩
  -- no short escape applies
  rw [escapeChar, if_neg hquote, if_neg hslash, if_neg hnewline, if_neg hreturn, if_neg htab,
    if_neg hfeed, if_neg hback]
  by_cases hprint : 0x20 ≤ c.toNat ∧ c.toNat ≤ 0x7e
  · exact .inr (.inl ⟨if_pos hprint, hquote, hslash, hprint.1⟩)
  · rw [if_neg hprint]
    refine .inr (.inr ⟨hprint, ?_⟩)
    by_cases hbmp : c.toNat < 0x10000
    · exact .inl ⟨hbmp, if_pos hbmp⟩
    · exact .inr ⟨hbmp, if_neg hbmp⟩

/-- **One character reads back**, whatever follows it. -/
theorem readChar_escapeChar (c : Char) (cs : List Char) :
    readChar (escapeChar c ++ cs) = some (c, cs) := by
  rcases escapeChar_cases c with ⟨d, -, heq, hread, -⟩ | ⟨heq, -, hb, hprint⟩ | ⟨-, h⟩
  · rw [heq]
    exact hread cs
  · rw [heq]
    exact readChar_self hb hprint cs
  · rcases h with ⟨hbmp, heq⟩ | ⟨hbmp, heq⟩
    · rw [heq]
      exact readUnicode_bmp hbmp cs
    · rw [heq, List.append_assoc]
      exact readUnicode_pair hbmp cs

/-! ## Reading back a string -/

/-- What is written for a character never closes the string. -/
theorem escapeChar_eq_cons (c : Char) : ∃ d ds, escapeChar c = d :: ds ∧ d ≠ '"' := by
  rcases escapeChar_cases c with ⟨d, -, heq, -, -⟩ | ⟨heq, hq, -, -⟩ | ⟨-, h⟩
  · exact ⟨'\\', _, heq, by decide⟩
  · exact ⟨c, _, heq, hq⟩
  · rcases h with ⟨-, heq⟩ | ⟨-, heq⟩
    · exact ⟨'\\', _, heq, by decide⟩
    · exact ⟨'\\', _, heq, by decide⟩

theorem length_le_length_escaped (s : List Char) : s.length ≤ (s.flatMap escapeChar).length := by
  induction s with
  | nil => exact Nat.le_refl _
  | cons c s ih =>
    obtain ⟨d, ds, hd, -⟩ := escapeChar_eq_cons c
    simp only [List.flatMap_cons, List.length_append, List.length_cons, hd]
    omega

theorem readString_escaped (s rest : List Char) :
    ∀ n, s.length < n → readString n (s.flatMap escapeChar ++ '"' :: rest) = some (s, rest) := by
  induction s with
  | nil =>
    intro n hn
    cases n with
    | zero => exact absurd hn (Nat.not_lt_zero _)
    | succ n => rfl
  | cons c s ih =>
    intro n hn
    cases n with
    | zero => exact absurd hn (Nat.not_lt_zero _)
    | succ n =>
      -- the text does not start with a quote, so the string goes on
      obtain ⟨d, ds, hd, hne⟩ := escapeChar_eq_cons c
      have hread := readChar_escapeChar c (s.flatMap escapeChar ++ '"' :: rest)
      rw [hd, List.cons_append] at hread
      rw [List.flatMap_cons, hd, List.append_assoc, List.cons_append, readString]
      · rw [hread]
        show (readString n _ >>= _) = _
        rw [ih n (Nat.lt_of_succ_lt_succ hn)]
        rfl
      · intro cs hcs
        exact hne (List.cons.inj hcs).1

/-- A string literal reads back after its opening quote, with the fuel its callers give it. -/
theorem readString_quote (s : String) (rest : List Char) :
    readString (s.toList.flatMap escapeChar ++ '"' :: rest).length
      (s.toList.flatMap escapeChar ++ '"' :: rest) = some (s.toList, rest) := by
  refine readString_escaped s.toList rest _ ?_
  have := length_le_length_escaped s.toList
  simp only [List.length_append, List.length_cons]
  omega

/-! ## Reading back a sequence -/

theorem skipWs_cons {c : Char} (h : isWs c = false) (cs : List Char) :
    skipWs (c :: cs) = c :: cs := by
  rw [skipWs, List.dropWhile_cons_of_neg (by simp [h])]

theorem skipWs_space (cs : List Char) : skipWs (' ' :: cs) = skipWs cs := rfl

/-- The text starts an item: its first character is neither white space nor a closing bracket. -/
def StartsItem (text : List Char) : Prop :=
  ∃ c cs, text = c :: cs ∧ isWs c = false ∧ c ≠ ']' ∧ c ≠ '\x7d'

theorem StartsItem.append {text : List Char} (h : StartsItem text) (rest : List Char) :
    StartsItem (text ++ rest) := by
  obtain ⟨c, cs, rfl, hc⟩ := h
  exact ⟨c, cs ++ rest, rfl, hc⟩

theorem StartsItem.skipWs_eq {text : List Char} (h : StartsItem text) : skipWs text = text := by
  obtain ⟨c, cs, rfl, hc, -⟩ := h
  exact skipWs_cons hc cs

theorem readItems_space {α : Type} (item : List Char → Option (α × List Char)) (close : Char)
    (n : Nat) (cs : List Char) : readItems item close n (' ' :: cs) = readItems item close n cs := by
  cases n with
  | zero => rfl
  | succ n => rw [readItems, readItems, skipWs_space]

/-- **Items read back**: when each item's text reads back whatever follows, so does the list. -/
theorem readItems_commaSep {α : Type} {item : List Char → Option (α × List Char)}
    {text : α → List Char} {close : Char} (hclose : isWs close = false) (hcomma : close ≠ ',')
    (rest : List Char) :
    ∀ (xs : List α) (n : Nat), xs ≠ [] → xs.length ≤ n →
      (∀ x ∈ xs, StartsItem (text x)) →
      (∀ x ∈ xs, ∀ more, item (text x ++ more) = some (x, more)) →
      readItems item close n (commaSep (xs.map text) ++ close :: rest) = some (xs, rest) := by
  intro xs
  induction xs with
  | nil => exact fun _ hne => absurd rfl hne
  | cons x xs ih =>
    intro n _ hn hstart hitem
    cases n with
    | zero => exact absurd hn (Nat.not_succ_le_zero _)
    | succ n =>
      have hx := hitem x List.mem_cons_self
      have hskip := fun more => ((hstart x List.mem_cons_self).append more).skipWs_eq
      cases xs with
      | nil =>
        rw [List.map_singleton, commaSep, readItems, hskip, hx]
        simp [skipWs_cons hclose]
      | cons y ys =>
        have hstart' : ∀ z ∈ y :: ys, StartsItem (text z) := fun z hz =>
          hstart z (List.mem_cons_of_mem x hz)
        have hitem' : ∀ z ∈ y :: ys, ∀ more, item (text z ++ more) = some (z, more) := fun z hz =>
          hitem z (List.mem_cons_of_mem x hz)
        have hrest := ih n (List.cons_ne_nil y ys) (Nat.le_of_succ_le_succ hn) hstart' hitem'
        rw [List.map_cons, List.map_cons, commaSep, ← List.map_cons, List.append_assoc, readItems,
          hskip, hx]
        simp only [Option.bind_eq_bind, Option.bind_some, List.cons_append,
          skipWs_cons (by decide : isWs ',' = false), if_neg hcomma.symm, if_true,
          readItems_space, hrest, Option.pure_def]

/-- There are at most as many items as characters. -/
theorem length_le_length_commaSep {texts : List (List Char)} (h : ∀ t ∈ texts, StartsItem t) :
    texts.length ≤ (commaSep texts).length := by
  induction texts with
  | nil => exact Nat.le_refl _
  | cons t ts ih =>
    obtain ⟨c, cs, rfl, -⟩ := h t List.mem_cons_self
    have hts := ih fun u hu => h u (List.mem_cons_of_mem _ hu)
    cases ts with
    | nil => simp [commaSep]
    | cons u us =>
      simp only [commaSep, List.length_append, List.length_cons] at hts ⊢
      omega

/-- A sequence reads back after its opening bracket, with the fuel its callers give it. -/
theorem readItems_texts {α : Type} {item : List Char → Option (α × List Char)}
    {text : α → List Char} {close : Char} (hclose : isWs close = false) (hcomma : close ≠ ',')
    {xs : List α} (hne : xs ≠ []) (hstart : ∀ x ∈ xs, StartsItem (text x))
    (hitem : ∀ x ∈ xs, ∀ more, item (text x ++ more) = some (x, more)) (rest : List Char) :
    readItems item close (commaSep (xs.map text) ++ close :: rest).length
      (commaSep (xs.map text) ++ close :: rest) = some (xs, rest) := by
  refine readItems_commaSep hclose hcomma rest xs _ hne ?_ hstart hitem
  have hfuel := length_le_length_commaSep (List.forall_mem_map.mpr hstart)
  rw [List.length_map] at hfuel
  rw [List.length_append]
  omega

/-! ## Reading back a value -/

theorem quote_startsItem (s : String) : StartsItem (quote s) :=
  ⟨'"', _, rfl, by decide⟩

theorem render_startsItem (v : Value) : StartsItem (render v) := by
  cases v with
  | str s => exact quote_startsItem s
  | arr vs => exact ⟨'[', _, by rw [render], by decide⟩
  | obj ms => exact ⟨'\x7b', _, by rw [render], by decide⟩

/-- The text of a member. -/
def renderMember (m : String × Value) : List Char := quote m.1 ++ ':' :: ' ' :: render m.2

theorem renderElems_eq_map (vs : List Value) : renderElems vs = vs.map render := by
  induction vs with
  | nil => rw [renderElems, List.map_nil]
  | cons v vs ih => rw [renderElems, List.map_cons, ih]

theorem renderMembers_eq_map (ms : List (String × Value)) :
    renderMembers ms = ms.map renderMember := by
  induction ms with
  | nil => rw [renderMembers, List.map_nil]
  | cons m ms ih =>
    obtain ⟨key, v⟩ := m
    rw [renderMembers, List.map_cons, ih]
    rfl

theorem readMember_renderMember {value : List Char → Option (Value × List Char)} {key : String}
    {v : Value} (hvalue : ∀ more, value (render v ++ more) = some (v, more)) (more : List Char) :
    readMember value (renderMember (key, v) ++ more) = some ((key, v), more) := by
  have htext : renderMember (key, v) ++ more =
      '"' :: (key.toList.flatMap escapeChar ++ '"' :: (':' :: ' ' :: (render v ++ more))) := by
    simp [renderMember, quote]
  rw [htext, readMember, readString_quote]
  simp [skipWs_cons (by decide : isWs ':' = false), skipWs_space,
    ((render_startsItem v).append more).skipWs_eq, hvalue, String.ofList_toList]

theorem length_le_commaSep_of_mem {t : List Char} {texts : List (List Char)} (h : t ∈ texts) :
    t.length ≤ (commaSep texts).length := by
  induction texts with
  | nil => exact absurd h List.not_mem_nil
  | cons u us ih =>
    cases us with
    | nil =>
      obtain rfl : t = u := List.mem_singleton.mp h
      exact Nat.le_refl _
    | cons w ws =>
      simp only [commaSep, List.length_append, List.length_cons] at ih ⊢
      rcases List.mem_cons.mp h with heq | hmem
      · rw [heq]
        omega
      · have := ih hmem
        omega

theorem commaSep_startsItem {α : Type} {text : α → List Char} {xs : List α} (hne : xs ≠ [])
    (h : ∀ x ∈ xs, StartsItem (text x)) : StartsItem (commaSep (xs.map text)) := by
  match xs with
  | [] => exact absurd rfl hne
  | [x] => exact h x List.mem_cons_self
  | x :: y :: ys => exact (h x List.mem_cons_self).append _

/-- A bracket followed by an item is no empty array: the reader goes on to the items. -/
theorem readValue_bracket {cs : List Char} (h : StartsItem cs) (n : Nat) :
    readValue (n + 1) ('[' :: cs) =
      (readItems (readValue n) ']' cs.length cs).map fun p => (.arr p.1, p.2) := by
  rw [readValue, h.skipWs_eq]
  obtain ⟨c, cs, rfl, -, hc, -⟩ := h
  split
  · next heq => exact absurd (List.cons.inj heq).1 hc
  · cases readItems (readValue n) ']' (c :: cs).length (c :: cs) with
    | none => rfl
    | some p => rfl

theorem readValue_brace {cs : List Char} (h : StartsItem cs) (n : Nat) :
    readValue (n + 1) ('\x7b' :: cs) =
      (readItems (readMember (readValue n)) '\x7d' cs.length cs).map fun p => (.obj p.1, p.2) := by
  rw [readValue, h.skipWs_eq]
  obtain ⟨c, cs, rfl, -, -, hc⟩ := h
  split
  · next heq => exact absurd (List.cons.inj heq).1 hc
  · cases readItems (readMember (readValue n)) '\x7d' (c :: cs).length (c :: cs) with
    | none => rfl
    | some p => rfl

/-- **A value reads back**, whatever follows it, when its text fits the fuel. -/
theorem readValue_render (v : Value) :
    ∀ n rest, (render v).length ≤ n → readValue n (render v ++ rest) = some (v, rest) := by
  induction v using Value.induct with
  | hstr s =>
    intro n rest hn
    cases n with
    | zero => exact absurd hn (by simp [render, quote])
    | succ n =>
      have htext : render (.str s) ++ rest = '"' :: (s.toList.flatMap escapeChar ++ '"' :: rest) := by
        simp [render, quote]
      rw [htext, readValue, readString_quote]
      simp [String.ofList_toList]
  | harr vs ih =>
    intro n rest hn
    cases n with
    | zero => exact absurd hn (by simp [render])
    | succ n =>
      rw [render, renderElems_eq_map, List.length_cons, List.length_append] at hn
      rw [render, renderElems_eq_map, List.cons_append, List.append_assoc, List.singleton_append]
      cases vs with
      | nil => rfl
      | cons w ws =>
        have hne : w :: ws ≠ [] := List.cons_ne_nil w ws
        have hstart : ∀ u ∈ w :: ws, StartsItem (render u) := fun u _ => render_startsItem u
        have hitem : ∀ u ∈ w :: ws, ∀ more, readValue n (render u ++ more) = some (u, more) := by
          intro u hu more
          have hlen : (render u).length ≤ _ := length_le_commaSep_of_mem (List.mem_map_of_mem hu)
          exact ih u hu n more (by omega)
        rw [readValue_bracket ((commaSep_startsItem hne hstart).append _),
          readItems_texts (by decide) (by decide) hne hstart hitem]
        rfl
  | hobj ms ih =>
    intro n rest hn
    cases n with
    | zero => exact absurd hn (by simp [render])
    | succ n =>
      rw [render, renderMembers_eq_map, List.length_cons, List.length_append] at hn
      rw [render, renderMembers_eq_map, List.cons_append, List.append_assoc, List.singleton_append]
      cases ms with
      | nil => rfl
      | cons m ms =>
        have hne : m :: ms ≠ [] := List.cons_ne_nil m ms
        have hstart : ∀ u ∈ m :: ms, StartsItem (renderMember u) := fun u _ =>
          (quote_startsItem u.1).append _
        have hitem : ∀ u ∈ m :: ms, ∀ more,
            readMember (readValue n) (renderMember u ++ more) = some (u, more) := by
          intro u hu more
          have hlen : (renderMember u).length ≤ _ :=
            length_le_commaSep_of_mem (List.mem_map_of_mem hu)
          refine readMember_renderMember (fun more => ih u hu n more ?_) more
          simp only [renderMember, List.length_append, List.length_cons] at hlen
          omega
        rw [readValue_brace ((commaSep_startsItem hne hstart).append _),
          readItems_texts (by decide) (by decide) hne hstart hitem]
        rfl

/-- **Round trip.**  `json.loads(json.dumps(v)) == v`. -/
theorem loads_dumps (v : Value) : loads (dumps v) = some v := by
  have hread := readValue_render v (render v).length [] (Nat.le_refl _)
  rw [List.append_nil] at hread
  unfold loads dumps
  rw [String.toList_ofList, (render_startsItem v).skipWs_eq, hread]
  rfl

/-! ## The characters of a text -/

/-- A character the writer neither adds nor escapes. -/
def Foreign (q : Char) : Prop := q ∉ ownChars ∧ 0x20 ≤ q.toNat ∧ q.toNat ≤ 0x7e

instance (q : Char) : Decidable (Foreign q) := inferInstanceAs (Decidable (_ ∧ _ ∧ _))

theorem mem_ownChars_of_mem_hex4 {q : Char} {n : Nat} (h : q ∈ hex4 n) : q ∈ ownChars := by
  have hdigit : ∀ d : Fin 16, hexDigit d.val ∈ ownChars := by decide
  have hlt : ∀ m, m % 16 < 16 := fun m => Nat.mod_lt m (by decide)
  simp only [hex4, List.mem_cons, List.not_mem_nil, or_false] at h
  rcases h with rfl | rfl | rfl | rfl
  · exact hdigit ⟨_, hlt _⟩
  · exact hdigit ⟨_, hlt _⟩
  · exact hdigit ⟨_, hlt _⟩
  · exact hdigit ⟨_, hlt _⟩

theorem mem_ownChars_of_mem_unicodeEscape {q : Char} {n : Nat} (h : q ∈ unicodeEscape n) :
    q ∈ ownChars := by
  rcases List.mem_cons.mp h with rfl | h
  · decide
  rcases List.mem_cons.mp h with rfl | h
  · decide
  · exact mem_ownChars_of_mem_hex4 h

theorem Foreign.ne {q c : Char} (hq : Foreign q) (hc : c ∈ ownChars) : q ≠ c :=
  fun h => hq.1 (h ▸ hc)

/-- A foreign character stands in what is written for itself, and in nothing else that is written. -/
theorem mem_escapeChar_iff {q : Char} (hq : Foreign q) (c : Char) : q ∈ escapeChar c ↔ q = c := by
  -- an escape is all the writer's own, and what is escaped is not foreign
  have hescape : (∀ d ∈ escapeChar c, d ∈ ownChars) →
      (c ∈ ownChars ∨ ¬ (0x20 ≤ c.toNat ∧ c.toNat ≤ 0x7e)) → (q ∈ escapeChar c ↔ q = c) := by
    intro hown hc
    constructor
    · intro hmem
      exact absurd (hown q hmem) hq.1
    · rintro rfl
      rcases hc with hc | hc
      · exact absurd hc hq.1
      · exact absurd hq.2 hc
  rcases escapeChar_cases c with ⟨d, hd, heq, -, hc⟩ | ⟨heq, -⟩ | ⟨hc, h⟩
  · refine hescape (fun e he => ?_) hc
    rw [heq, List.mem_pair] at he
    rcases he with rfl | rfl
    · decide
    · exact hd
  · rw [heq, List.mem_singleton]
  · refine hescape (fun e he => ?_) (Or.inr hc)
    rcases h with ⟨-, heq⟩ | ⟨-, heq⟩
    · exact mem_ownChars_of_mem_unicodeEscape (heq ▸ he)
    · rw [heq, List.mem_append] at he
      rcases he with he | he
      · exact mem_ownChars_of_mem_unicodeEscape he
      · exact mem_ownChars_of_mem_unicodeEscape he

theorem mem_quote_iff {q : Char} (hq : Foreign q) (s : String) : q ∈ quote s ↔ q ∈ s.toList := by
  have hne : q ≠ '"' := hq.ne (by decide)
  simp [quote, hne, List.mem_flatMap, mem_escapeChar_iff hq]

theorem mem_commaSep_iff {q : Char} (hq : Foreign q) (texts : List (List Char)) :
    q ∈ commaSep texts ↔ ∃ t ∈ texts, q ∈ t := by
  have hcomma : q ≠ ',' := hq.ne (by decide)
  have hspace : q ≠ ' ' := hq.ne (by decide)
  induction texts with
  | nil => simp [commaSep]
  | cons t ts ih =>
    cases ts with
    | nil => simp [commaSep]
    | cons u us =>
      simp only [commaSep, List.mem_append, List.mem_cons, hcomma, hspace, false_or, ih]
      simp

mutual
/-- Every string of a value, keys included. -/
def strings : Value → List String
  | .str s => [s]
  | .arr vs => stringsElems vs
  | .obj ms => stringsMembers ms

def stringsElems : List Value → List String
  | [] => []
  | v :: vs => strings v ++ stringsElems vs

def stringsMembers : List (String × Value) → List String
  | [] => []
  | (key, v) :: ms => key :: strings v ++ stringsMembers ms
end

theorem mem_stringsElems_iff (s : String) (vs : List Value) :
    s ∈ stringsElems vs ↔ ∃ v ∈ vs, s ∈ strings v := by
  induction vs with
  | nil => simp [stringsElems]
  | cons v vs ih => simp [stringsElems, ih]

theorem mem_stringsMembers_iff (s : String) (ms : List (String × Value)) :
    s ∈ stringsMembers ms ↔ ∃ m ∈ ms, s = m.1 ∨ s ∈ strings m.2 := by
  induction ms with
  | nil => simp [stringsMembers]
  | cons m ms ih =>
    obtain ⟨key, v⟩ := m
    simp [stringsMembers, ih, or_assoc]

/-- **The writer adds no foreign character**: it occurs in the text exactly when some string of the
    value contains it. -/
theorem mem_render_iff {q : Char} (hq : Foreign q) (v : Value) :
    q ∈ render v ↔ ∃ s ∈ strings v, q ∈ s.toList := by
  induction v using Value.induct with
  | hstr s => rw [render, strings, mem_quote_iff hq]; simp
  | harr vs ih =>
    have hopen : q ≠ '[' := hq.ne (by decide)
    have hclose : q ≠ ']' := hq.ne (by decide)
    rw [render, renderElems_eq_map, strings]
    simp only [List.mem_cons, List.mem_append, mem_commaSep_iff hq, List.mem_map, hopen, hclose,
      List.not_mem_nil, false_or, or_false, mem_stringsElems_iff]
    constructor
    · rintro ⟨_, ⟨v, hv, rfl⟩, hmem⟩
      obtain ⟨s, hs, hqs⟩ := (ih v hv).mp hmem
      exact ⟨s, ⟨v, hv, hs⟩, hqs⟩
    · rintro ⟨s, ⟨v, hv, hs⟩, hqs⟩
      exact ⟨_, ⟨v, hv, rfl⟩, (ih v hv).mpr ⟨s, hs, hqs⟩⟩
  | hobj ms ih =>
    have hopen : q ≠ '\x7b' := hq.ne (by decide)
    have hclose : q ≠ '\x7d' := hq.ne (by decide)
    have hcolon : q ≠ ':' := hq.ne (by decide)
    have hspace : q ≠ ' ' := hq.ne (by decide)
    have hmember : ∀ m ∈ ms, q ∈ renderMember m ↔ ∃ s, (s = m.1 ∨ s ∈ strings m.2) ∧ q ∈ s.toList := by
      intro m hm
      simp only [renderMember, List.mem_append, List.mem_cons, mem_quote_iff hq, hcolon, hspace,
        false_or, ih m hm, or_and_right, exists_or, exists_eq_left]
    rw [render, renderMembers_eq_map, strings]
    simp only [List.mem_cons, List.mem_append, mem_commaSep_iff hq, List.mem_map, hopen, hclose,
      List.not_mem_nil, false_or, or_false, mem_stringsMembers_iff]
    constructor
    · rintro ⟨_, ⟨m, hm, rfl⟩, hmem⟩
      obtain ⟨s, hs, hqs⟩ := (hmember m hm).mp hmem
      exact ⟨s, ⟨m, hm, hs⟩, hqs⟩
    · rintro ⟨s, ⟨m, hm, hs⟩, hqs⟩
      exact ⟨_, ⟨m, hm, rfl⟩, (hmember m hm).mpr ⟨s, hs, hqs⟩⟩

theorem mem_dumps_iff {q : Char} (hq : Foreign q) (v : Value) :
    q ∈ (dumps v).toList ↔ ∃ s ∈ strings v, q ∈ s.toList := by
  rw [dumps, String.toList_ofList, mem_render_iff hq]

/-- The escapes of the writer, one of each kind. -/
example : dumps (.obj [("a'b", .arr [.str "\"\n", .str "\u00e9\x7f"]), ("c", .arr [])]) =
    "\x7b\"a'b\": [\"\\\"\\n\", \"\\u00e9\\u007f\"], \"c\": []\x7d" := by decide

end TrainBdd.Json
