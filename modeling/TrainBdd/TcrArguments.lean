/-
  The command lines of `components/tcr/client/_base.py` as a POSIX SHELL reads them.

  1. **Intended words** — what each builder means: three words for `BaseClient`; the operation and one
     `--option=value` word for each value and each set element for `MinusMinusBaseClient`.

  2. **Bridge** — every builder's string IS a list of shell arguments joined by blanks
     (`…Arguments_eq_joined`), so the quoting rule of `Shell` applies to it.

  3. **Theorem** — `clientArguments_intact_iff`: each line splits back into the intended words EXACTLY
     when none of the strings that go into it contains a single quote.  Nothing else matters: double
     quotes, backslashes, `$`, backticks, blanks and newlines are all safe.
-/
import TrainBdd.TcrClient
import TrainBdd.Lib.Shell

namespace TrainBdd.Tcr

open Python Shell Text

/-- The text has no single quote, the character the builders quote with. -/
def NoQuote (text : String) : Prop := '\'' ∉ text.toList

instance (text : String) : Decidable (NoQuote text) := inferInstanceAs (Decidable (¬ _))

theorem quoteFree_quoted_iff (key value : String) (h : (∀ c ∈ key.toList, Safe c) ∧ key ≠ "") :
    (Arg.quoted key value h).QuoteFree ↔ NoQuote value := by
  constructor
  · intro hfree
    exact hfree value rfl
  · intro hvalue v hv
    obtain rfl : value = v := Option.some.inj hv
    exact hvalue

theorem quoteFree_plain (word : String) (h : (∀ c ∈ word.toList, Safe c) ∧ word ≠ "") :
    (Arg.plain word h).QuoteFree := by
  intro v hv
  nomatch hv

/-- The URI is quoted safely exactly when the host is: the version is a constant. -/
theorem noQuote_uri_iff (self : Client) : NoQuote self.uri ↔ NoQuote self.host.str := by
  have hversion : '\'' ∉ VERSION.toList := by decide
  unfold NoQuote Client.uri
  rw [String.toList_append, List.mem_append, not_or]
  exact and_iff_left hversion

/-! ## JSON texts between single quotes -/

/-- JSON's syntax does not use the single quote. -/
theorem foreign_quote : Json.Foreign '\'' := by decide

theorem noQuote_payload_iff (issuer : Issuer) (pointers : PySet TrustFrameworkPointer)
    (endpointTypes : Option EndpointTypes) :
    NoQuote (Json.dumps (Client.payload issuer pointers endpointTypes)) ↔
      NoQuote issuer ∧ (∀ p ∈ pointers, NoQuote p) ∧ ∀ t ∈ sentTypes endpointTypes, NoQuote t := by
  unfold NoQuote
  rw [Json.mem_dumps_iff foreign_quote, payload_eq, Json.strings]
  by_cases htypes : sentTypes endpointTypes = []
  · rw [if_pos htypes]
    simp [Json.mem_stringsMembers_iff, Json.strings, Client.listed, Json.mem_stringsElems_iff,
      htypes, PySet.mem_iff, or_and_right, exists_or]
  · rw [if_neg htypes]
    simp [Json.mem_stringsMembers_iff, Json.strings, Client.listed, Json.mem_stringsElems_iff,
      PySet.mem_iff, or_and_right, exists_or]

theorem noQuote_validatePayload_iff (issuer : Issuer) (did : Did) (endpoints : PySet String) :
    NoQuote (Json.dumps (Client.validatePayload issuer did endpoints)) ↔
      NoQuote issuer ∧ NoQuote did ∧ ∀ e ∈ endpoints, NoQuote e := by
  unfold NoQuote Client.validatePayload
  rw [Json.mem_dumps_iff foreign_quote, Json.strings]
  simp [Json.mem_stringsMembers_iff, Json.strings, Client.listed, Json.mem_stringsElems_iff,
    PySet.mem_iff, or_and_right, exists_or]

/-! ## The builders as argument lists -/

/-- The arguments of `BaseClient`: a quoted value under each of the three keys. -/
def BaseClient.args (self : BaseClient) (operation : String) (dump : String) : List Arg :=
  [Arg.quoted "uri=" self.uri, Arg.quoted "endpoint=" operation, Arg.quoted "data=" dump]

/-- One quoted `key='value'` argument for each element. -/
def each (key : String) (values : List String)
    (h : (∀ c ∈ key.toList, Safe c) ∧ key ≠ "" := by decide) : List Arg :=
  values.map fun v => Arg.quoted key v h

/-- The arguments of a resolve call: the operation, and one option for each value. -/
def MinusMinusBaseClient.resolveArgs (self : MinusMinusBaseClient) (issuer : Issuer)
    (pointers : PySet TrustFrameworkPointer) (endpointTypes : Option EndpointTypes) : List Arg :=
  [Arg.plain "resolve", Arg.quoted "--uri=" self.uri, Arg.quoted "--issuer=" issuer] ++
    each "--trust-scheme-pointer=" pointers.elems ++
    each "--endpoint-type=" (sentTypes endpointTypes)

/-- The arguments of a validate call. -/
def MinusMinusBaseClient.validateArgs (self : MinusMinusBaseClient) (issuer : Issuer) (did : Did)
    (endpoints : PySet String) : List Arg :=
  [Arg.plain "validate", Arg.quoted "--uri=" self.uri, Arg.quoted "--issuer=" issuer,
    Arg.quoted "--did=" did] ++ each "--endpoint=" endpoints.elems

theorem BaseClient.resolveArguments_eq_joined (self : BaseClient) (issuer : Issuer)
    (pointers : PySet TrustFrameworkPointer) (endpointTypes : Option EndpointTypes) :
    self.resolveArguments issuer pointers endpointTypes =
      joined (self.args "resolve" (Json.dumps (Client.payload issuer pointers endpointTypes))) :=
  rfl

theorem BaseClient.validateArguments_eq_joined (self : BaseClient) (issuer : Issuer) (did : Did)
    (endpoints : PySet String) :
    self.validateArguments issuer did endpoints =
      joined (self.args "validate" (Json.dumps (Client.validatePayload issuer did endpoints))) :=
  rfl

theorem render_each (key : String) (values : List String)
    (h : (∀ c ∈ key.toList, Safe c) ∧ key ≠ "") :
    (each key values h).map Arg.render = values.map fun v => key ++ "'" ++ v ++ "'" := by
  rw [each, List.map_map]
  rfl

theorem MinusMinusBaseClient.resolveArguments_eq_joined (self : MinusMinusBaseClient)
    (issuer : Issuer) (pointers : PySet TrustFrameworkPointer)
    (endpointTypes : Option EndpointTypes) :
    self.resolveArguments issuer pointers endpointTypes =
      joined (self.resolveArgs issuer pointers endpointTypes) := by
  unfold resolveArguments resolveArgs joined
  rw [List.map_append, List.map_append, render_each, render_each]
  rfl

theorem MinusMinusBaseClient.validateArguments_eq_joined (self : MinusMinusBaseClient)
    (issuer : Issuer) (did : Did) (endpoints : PySet String) :
    self.validateArguments issuer did endpoints =
      joined (self.validateArgs issuer did endpoints) := by
  unfold validateArguments validateArgs joined
  rw [List.map_append, render_each]
  rfl

/-! ## Exactly when the words survive -/

theorem quoteFree_each_iff (key : String) (values : List String)
    (h : (∀ c ∈ key.toList, Safe c) ∧ key ≠ "") :
    (∀ a ∈ each key values h, a.QuoteFree) ↔ ∀ v ∈ values, NoQuote v := by
  rw [each, List.forall_mem_map]
  exact forall₂_congr fun v _ => quoteFree_quoted_iff key v h

theorem word_each (key : String) (values : List String)
    (h : (∀ c ∈ key.toList, Safe c) ∧ key ≠ "") :
    (each key values h).map Arg.word = values.map (key ++ ·) := by
  rw [each, List.map_map]
  rfl

/-- The three words of `BaseClient`. -/
def BaseClient.words (self : BaseClient) (operation : String) (dump : String) : List String :=
  ["uri=" ++ self.uri, "endpoint=" ++ operation, "data=" ++ dump]

/-- What the arguments of a resolve call mean. -/
def MinusMinusBaseClient.resolveWords (self : MinusMinusBaseClient) (issuer : Issuer)
    (pointers : PySet TrustFrameworkPointer) (endpointTypes : Option EndpointTypes) : List String :=
  ["resolve", "--uri=" ++ self.uri, "--issuer=" ++ issuer] ++
    pointers.elems.map ("--trust-scheme-pointer=" ++ ·) ++
    (sentTypes endpointTypes).map ("--endpoint-type=" ++ ·)

/-- What the arguments of a validate call mean. -/
def MinusMinusBaseClient.validateWords (self : MinusMinusBaseClient) (issuer : Issuer) (did : Did)
    (endpoints : PySet String) : List String :=
  ["validate", "--uri=" ++ self.uri, "--issuer=" ++ issuer, "--did=" ++ did] ++
    endpoints.elems.map ("--endpoint=" ++ ·)

theorem BaseClient.quoteFree_args_iff (self : BaseClient) {operation : String}
    (hop : NoQuote operation) (dump : String) :
    (∀ a ∈ self.args operation dump, a.QuoteFree) ↔ NoQuote self.host.str ∧ NoQuote dump := by
  unfold args
  rw [List.forall_mem_cons, List.forall_mem_cons, List.forall_mem_singleton, quoteFree_quoted_iff,
    quoteFree_quoted_iff, quoteFree_quoted_iff, noQuote_uri_iff]
  exact and_congr_right fun _ => and_iff_right hop

theorem MinusMinusBaseClient.quoteFree_resolveArgs_iff (self : MinusMinusBaseClient)
    (issuer : Issuer) (pointers : PySet TrustFrameworkPointer)
    (endpointTypes : Option EndpointTypes) :
    (∀ a ∈ self.resolveArgs issuer pointers endpointTypes, a.QuoteFree) ↔
      NoQuote self.host.str ∧ NoQuote issuer ∧ (∀ p ∈ pointers, NoQuote p) ∧
        ∀ t ∈ sentTypes endpointTypes, NoQuote t := by
  unfold resolveArgs
  rw [List.forall_mem_append, List.forall_mem_append, quoteFree_each_iff, quoteFree_each_iff,
    List.forall_mem_cons, List.forall_mem_cons, List.forall_mem_singleton, quoteFree_quoted_iff,
    quoteFree_quoted_iff, noQuote_uri_iff, and_iff_right (quoteFree_plain _ _)]
  simp only [and_assoc]
  rfl

theorem MinusMinusBaseClient.quoteFree_validateArgs_iff (self : MinusMinusBaseClient)
    (issuer : Issuer) (did : Did) (endpoints : PySet String) :
    (∀ a ∈ self.validateArgs issuer did endpoints, a.QuoteFree) ↔
      NoQuote self.host.str ∧ NoQuote issuer ∧ NoQuote did ∧ ∀ e ∈ endpoints, NoQuote e := by
  unfold validateArgs
  rw [List.forall_mem_append, quoteFree_each_iff, List.forall_mem_cons, List.forall_mem_cons,
    List.forall_mem_cons, List.forall_mem_singleton, quoteFree_quoted_iff, quoteFree_quoted_iff,
    quoteFree_quoted_iff, noQuote_uri_iff, and_iff_right (quoteFree_plain _ _)]
  simp only [and_assoc]
  rfl

/-- A line made of arguments has the arguments' words exactly when no value has a single quote. -/
theorem words_iff {line : String} {args : List Arg} {words : List String} (hline : line = joined args)
    (hwords : args.map Arg.word = words) :
    shellWords line = .ok words ↔ ∀ a ∈ args, a.QuoteFree := by
  rw [hline, ← hwords]
  exact shellWords_joined_iff args

theorem BaseClient.word_args (self : BaseClient) (operation dump : String) :
    (self.args operation dump).map Arg.word = self.words operation dump := rfl

theorem MinusMinusBaseClient.word_resolveArgs (self : MinusMinusBaseClient) (issuer : Issuer)
    (pointers : PySet TrustFrameworkPointer) (endpointTypes : Option EndpointTypes) :
    (self.resolveArgs issuer pointers endpointTypes).map Arg.word =
      self.resolveWords issuer pointers endpointTypes := by
  unfold resolveArgs resolveWords
  rw [List.map_append, List.map_append, word_each, word_each]
  rfl

theorem MinusMinusBaseClient.word_validateArgs (self : MinusMinusBaseClient) (issuer : Issuer)
    (did : Did) (endpoints : PySet String) :
    (self.validateArgs issuer did endpoints).map Arg.word =
      self.validateWords issuer did endpoints := by
  unfold validateArgs validateWords
  rw [List.map_append, word_each]
  rfl

theorem BaseClient.shellWords_resolveArguments_iff (self : BaseClient) (issuer : Issuer)
    (pointers : PySet TrustFrameworkPointer) (endpointTypes : Option EndpointTypes) :
    shellWords (self.resolveArguments issuer pointers endpointTypes) =
        .ok (self.words "resolve" (Json.dumps (Client.payload issuer pointers endpointTypes))) ↔
      NoQuote self.host.str ∧ NoQuote issuer ∧ (∀ p ∈ pointers, NoQuote p) ∧
        ∀ t ∈ sentTypes endpointTypes, NoQuote t := by
  rw [words_iff (self.resolveArguments_eq_joined issuer pointers endpointTypes) (self.word_args _ _),
    self.quoteFree_args_iff (by decide), noQuote_payload_iff]

theorem BaseClient.shellWords_validateArguments_iff (self : BaseClient) (issuer : Issuer) (did : Did)
    (endpoints : PySet String) :
    shellWords (self.validateArguments issuer did endpoints) =
        .ok (self.words "validate" (Json.dumps (Client.validatePayload issuer did endpoints))) ↔
      NoQuote self.host.str ∧ NoQuote issuer ∧ NoQuote did ∧ ∀ e ∈ endpoints, NoQuote e := by
  rw [words_iff (self.validateArguments_eq_joined issuer did endpoints) (self.word_args _ _),
    self.quoteFree_args_iff (by decide), noQuote_validatePayload_iff]

theorem MinusMinusBaseClient.shellWords_resolveArguments_iff (self : MinusMinusBaseClient)
    (issuer : Issuer) (pointers : PySet TrustFrameworkPointer)
    (endpointTypes : Option EndpointTypes) :
    shellWords (self.resolveArguments issuer pointers endpointTypes) =
        .ok (self.resolveWords issuer pointers endpointTypes) ↔
      NoQuote self.host.str ∧ NoQuote issuer ∧ (∀ p ∈ pointers, NoQuote p) ∧
        ∀ t ∈ sentTypes endpointTypes, NoQuote t := by
  rw [words_iff (self.resolveArguments_eq_joined issuer pointers endpointTypes)
      (self.word_resolveArgs issuer pointers endpointTypes),
    self.quoteFree_resolveArgs_iff]

theorem MinusMinusBaseClient.shellWords_validateArguments_iff (self : MinusMinusBaseClient)
    (issuer : Issuer) (did : Did) (endpoints : PySet String) :
    shellWords (self.validateArguments issuer did endpoints) =
        .ok (self.validateWords issuer did endpoints) ↔
      NoQuote self.host.str ∧ NoQuote issuer ∧ NoQuote did ∧ ∀ e ∈ endpoints, NoQuote e := by
  rw [words_iff (self.validateArguments_eq_joined issuer did endpoints)
      (self.word_validateArgs issuer did endpoints),
    self.quoteFree_validateArgs_iff]

/-- **Each command line splits into the intended words and nothing else** exactly when none of the
    strings it carries — the host, and what its operation is called with — has a single quote. -/
theorem clientArguments_intact_iff (base : BaseClient) (minusMinus : MinusMinusBaseClient)
    (issuer : Issuer) (did : Did) (pointers : PySet TrustFrameworkPointer)
    (endpointTypes : Option EndpointTypes) (endpoints : PySet String) :
    (shellWords (base.resolveArguments issuer pointers endpointTypes) =
        .ok (base.words "resolve" (Json.dumps (Client.payload issuer pointers endpointTypes))) ↔
      NoQuote base.host.str ∧ NoQuote issuer ∧ (∀ p ∈ pointers, NoQuote p) ∧
        ∀ t ∈ sentTypes endpointTypes, NoQuote t) ∧
    (shellWords (base.validateArguments issuer did endpoints) =
        .ok (base.words "validate" (Json.dumps (Client.validatePayload issuer did endpoints))) ↔
      NoQuote base.host.str ∧ NoQuote issuer ∧ NoQuote did ∧ ∀ e ∈ endpoints, NoQuote e) ∧
    (shellWords (minusMinus.resolveArguments issuer pointers endpointTypes) =
        .ok (minusMinus.resolveWords issuer pointers endpointTypes) ↔
      NoQuote minusMinus.host.str ∧ NoQuote issuer ∧ (∀ p ∈ pointers, NoQuote p) ∧
        ∀ t ∈ sentTypes endpointTypes, NoQuote t) ∧
    (shellWords (minusMinus.validateArguments issuer did endpoints) =
        .ok (minusMinus.validateWords issuer did endpoints) ↔
      NoQuote minusMinus.host.str ∧ NoQuote issuer ∧ NoQuote did ∧
        ∀ e ∈ endpoints, NoQuote e) := by
  refine ⟨?_, ?_, ?_, ?_⟩
  · exact base.shellWords_resolveArguments_iff issuer pointers endpointTypes
  · exact base.shellWords_validateArguments_iff issuer did endpoints
  · exact minusMinus.shellWords_resolveArguments_iff issuer pointers endpointTypes
  · exact minusMinus.shellWords_validateArguments_iff issuer did endpoints

/-- The resolver of a local set-up. -/
def localhost : HttpUrl := .root "localhost:8087"

/-- One apostrophe in the issuer's URL: both command lines run into an unterminated quote, and a
    second one lets the rest of the issuer out as a command of its own. -/
theorem clientArguments_injection :
    let python : MinusMinusBaseClient := ⟨⟨⟨localhost⟩, id⟩⟩
    let java : BaseClient := ⟨⟨localhost⟩, id⟩
    let pointers : PySet TrustFrameworkPointer := ⟨["alice.trust.train1.xfsc.dev"], by decide⟩
    shellWords (python.resolveArguments "https://x/o'brien" pointers none) = .error .unterminated ∧
    shellWords (java.resolveArguments "https://x/o'brien" pointers none) = .error .unterminated ∧
    shellWords (python.resolveArguments "https://x/';reboot;'" pointers none) =
      .error (.operator ';') ∧
    shellWords (python.resolveArguments "https://x/o'brien" pointers none) ≠
      .ok (python.resolveWords "https://x/o'brien" pointers none) := by
  intro python java pointers
  -- the line as characters, its literals read off instead of decoded
  have hpython : ∀ issuer, shellWords (python.resolveArguments issuer pointers none) =
      (scan start ("resolve --uri='http://localhost:8087/tcr/v1' --issuer='".toList ++
        (issuer.toList ++ "' --trust-scheme-pointer='alice.trust.train1.xfsc.dev'".toList))).map
          (·.map String.ofList) := by
    intro issuer
    simp only [shellWords, MinusMinusBaseClient.resolveArguments, python, pointers, Client.uri,
      VERSION, localhost, HttpUrl.root, HttpUrl.http, HttpUrl.str, HttpUrl.path, Option.elim_none,
      Option.map_none, items_none, List.map_cons, List.map_nil, List.cons_append, List.nil_append,
      List.append_nil, String.toList_intercalate, String.toList_append]
    repeat rw [toList_of_ofList rfl]
    simp
  have hbrien : shellWords (python.resolveArguments "https://x/o'brien" pointers none) =
      .error .unterminated := by
    rw [hpython]
    repeat rw [toList_of_ofList rfl]
    decide +kernel
  refine ⟨hbrien, ?_, ?_, ?_⟩
  · simp only [shellWords, BaseClient.resolveArguments, java, Client.uri, VERSION, localhost,
      HttpUrl.root, HttpUrl.http, HttpUrl.str, HttpUrl.path, Option.elim_none, List.map_cons,
      List.map_nil, Json.dumps, String.toList_intercalate, String.toList_append, String.toList_ofList]
    repeat rw [toList_of_ofList rfl]
    decide +kernel
  · rw [hpython]
    repeat rw [toList_of_ofList rfl]
    decide +kernel
  · rw [hbrien]
    simp

end TrainBdd.Tcr
