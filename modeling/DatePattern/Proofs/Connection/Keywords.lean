import DatePattern.Connection.Address
import DatePattern.Proofs.Number.Decimal
import DatePattern.Proofs.Text.Split

/-!
# Keywords and values

How the address of a PostgreSQL database is read: pairs of a key and a value with an equals sign
between them, white space between pairs and around the equals sign, a value either bare or
between single quotes, and a backslash that makes the byte behind it part of a value.

- `step`, `read`: the reader, a byte at a time;
- `run_text`: pairs with plain values are read as they are written;
- `State.weight`: how long a text would have to be for what has been read from it. No step adds
  more than one (`weight_step`), and a step that skips white space, opens a quote or escapes adds
  none;
- `says_postgres_iff`: an address says what its settings say exactly when every value is plain. An
  address is just as long as its settings have to be, so no step of its reader may be one that adds
  nothing.
-/

namespace DatePattern.Keywords

/-! ## The reader -/

/-- Whether a byte is white space. -/
def isBlank (b : UInt8) : Bool := b = 0x20 || (0x09 ≤ b && b ≤ 0x0D)

/-- Where a reader stands. -/
inductive Mode where
  /-- Between pairs. -/
  | gap
  /-- In a key. -/
  | key (key : Text)
  /-- In white space behind a key. -/
  | keyEnd (key : Text)
  /-- Behind an equals sign, in front of the value. -/
  | start (key : Text)
  /-- In a bare value. -/
  | bare (key value : Text)
  /-- In a value between quotes. -/
  | quoted (key value : Text)
  /-- In a value, behind a backslash. -/
  | escape (inQuotes : Bool) (key value : Text)
  deriving DecidableEq, Repr

/-- A reader: the pairs that it has read, and where it stands. -/
structure State where
  pairs : List (Text × Text)
  mode : Mode
  deriving DecidableEq, Repr

/-- Reads a byte. There is no next state where a key is missing or no equals sign follows it. -/
def step (s : State) (b : UInt8) : Option State :=
  match s.mode with
  | .gap =>
    if isBlank b then some s else if b = 0x3D then none else some ⟨s.pairs, .key [b]⟩
  | .key key =>
    if b = 0x3D then some ⟨s.pairs, .start key⟩
    else if isBlank b then some ⟨s.pairs, .keyEnd key⟩
    else some ⟨s.pairs, .key (key ++ [b])⟩
  | .keyEnd key =>
    if isBlank b then some s else if b = 0x3D then some ⟨s.pairs, .start key⟩ else none
  | .start key =>
    if isBlank b then some s
    else if b = 0x27 then some ⟨s.pairs, .quoted key []⟩
    else if b = 0x5C then some ⟨s.pairs, .escape false key []⟩
    else some ⟨s.pairs, .bare key [b]⟩
  | .bare key value =>
    if isBlank b then some ⟨s.pairs ++ [(key, value)], .gap⟩
    else if b = 0x5C then some ⟨s.pairs, .escape false key value⟩
    else some ⟨s.pairs, .bare key (value ++ [b])⟩
  | .quoted key value =>
    if b = 0x27 then some ⟨s.pairs ++ [(key, value)], .gap⟩
    else if b = 0x5C then some ⟨s.pairs, .escape true key value⟩
    else some ⟨s.pairs, .quoted key (value ++ [b])⟩
  | .escape inQuotes key value =>
    if inQuotes then some ⟨s.pairs, .quoted key (value ++ [b])⟩
    else some ⟨s.pairs, .bare key (value ++ [b])⟩

/-- Reads a text. -/
def run (s : State) (text : Text) : Option State := text.foldlM step s

/-- The pairs at the end of a text, which may end a bare value but nothing else. -/
def finish (s : State) : Option (List (Text × Text)) :=
  match s.mode with
  | .gap => some s.pairs
  | .start key => some (s.pairs ++ [(key, [])])
  | .bare key value => some (s.pairs ++ [(key, value)])
  | _ => none

/-- The pairs of a text. -/
def read (text : Text) : Option (List (Text × Text)) := (run ⟨[], .gap⟩ text).bind finish

/-- The value of a key: of several, the last one counts. -/
def setting? (pairs : List (Text × Text)) (key : Text) : Option Text :=
  (pairs.reverse.find? (·.1 = key)).map Prod.snd

/-- A text is read without a fault, every key of `settings` gets its value there, and no other key
gets one. -/
def Says (text : Text) (settings : List (Text × Text)) : Prop :=
  ∃ pairs, read text = some pairs ∧ ∀ key, setting? pairs key = setting? settings key

theorem run_cons (s : State) (b : UInt8) (text : Text) :
    run s (b :: text) = (step s b).bind fun s' => run s' text := rfl

theorem run_append (s : State) (a b : Text) :
    run s (a ++ b) = (run s a).bind fun s' => run s' b := List.foldlM_append ..

/-! ## Written pairs -/

/-- A key that is read as itself. -/
def IsKey (key : Text) : Prop := key ≠ [] ∧ ∀ b ∈ key, isBlank b = false ∧ b ≠ 0x3D

/-- A value that is read as itself: not empty, with no white space and no backslash, and no quote
in front. -/
def Plain (value : Text) : Prop :=
  value ≠ [] ∧ value.head? ≠ some 0x27 ∧ ∀ b ∈ value, isBlank b = false ∧ b ≠ 0x5C

-- both look at the bytes of the text in turn, not at all bytes there are
instance (key : Text) : Decidable (IsKey key) :=
  haveI := List.decidableBAll (fun b => isBlank b = false ∧ b ≠ 0x3D) key
  inferInstanceAs (Decidable (_ ∧ _))

instance (value : Text) : Decidable (Plain value) :=
  haveI := List.decidableBAll (fun b => isBlank b = false ∧ b ≠ 0x5C) value
  inferInstanceAs (Decidable (_ ∧ _ ∧ _))

/-- A key and its value. -/
def assignment (pair : Text × Text) : Text := pair.1 ++ 0x3D :: pair.2

/-- Pairs as they are written, with a space between neighbours. -/
def text (pairs : List (Text × Text)) : Text := Text.joinWith " " (pairs.map assignment)

theorem text_cons_cons (pair next : Text × Text) (rest : List (Text × Text)) :
    text (pair :: next :: rest) = assignment pair ++ 0x20 :: text (next :: rest) :=
  List.append_assoc ..

/-- A run of bytes of which each is added to what is being gathered, a key or a bare value. -/
theorem run_gather (mode : Text → Mode) {pairs : List (Text × Text)} {bytes : Text}
    (gathers : ∀ b ∈ bytes, ∀ soFar,
      step ⟨pairs, mode soFar⟩ b = some ⟨pairs, mode (soFar ++ [b])⟩) (soFar : Text) :
    run ⟨pairs, mode soFar⟩ bytes = some ⟨pairs, mode (soFar ++ bytes)⟩ := by
  induction bytes generalizing soFar with
  | nil =>
    rw [List.append_nil]
    rfl
  | cons b bytes ih =>
    obtain ⟨first, others⟩ := List.forall_mem_cons.mp gathers
    rw [run_cons, first, Option.bind_some, ih others, List.append_assoc, List.singleton_append]

theorem run_key {key : Text} (proper : IsKey key) (pairs : List (Text × Text)) :
    run ⟨pairs, .gap⟩ (key ++ [0x3D]) = some ⟨pairs, .start key⟩ := by
  obtain ⟨nonempty, inside⟩ := proper
  obtain ⟨b, bytes, rfl⟩ := List.exists_cons_of_ne_nil nonempty
  obtain ⟨⟨blank, equals⟩, others⟩ := List.forall_mem_cons.mp inside
  have first : step ⟨pairs, .gap⟩ b = some ⟨pairs, .key [b]⟩ := by simp [step, blank, equals]
  have gathers : ∀ c ∈ bytes, ∀ soFar,
      step ⟨pairs, .key soFar⟩ c = some ⟨pairs, .key (soFar ++ [c])⟩ := by
    intro c mem soFar
    obtain ⟨blank, equals⟩ := others c mem
    simp [step, blank, equals]
  rw [run_append, run_cons, first, Option.bind_some, run_gather .key gathers,
    List.singleton_append]
  rfl

theorem run_value {value : Text} (plain : Plain value) (pairs : List (Text × Text)) (key : Text) :
    run ⟨pairs, .start key⟩ value = some ⟨pairs, .bare key value⟩ := by
  obtain ⟨nonempty, quote, inside⟩ := plain
  obtain ⟨b, bytes, rfl⟩ := List.exists_cons_of_ne_nil nonempty
  obtain ⟨⟨blank, backslash⟩, others⟩ := List.forall_mem_cons.mp inside
  have bare : b ≠ 0x27 := fun same => quote (congrArg some same)
  have first : step ⟨pairs, .start key⟩ b = some ⟨pairs, .bare key [b]⟩ := by
    simp [step, blank, backslash, bare]
  have gathers : ∀ c ∈ bytes, ∀ soFar,
      step ⟨pairs, .bare key soFar⟩ c = some ⟨pairs, .bare key (soFar ++ [c])⟩ := by
    intro c mem soFar
    obtain ⟨blank, backslash⟩ := others c mem
    simp [step, blank, backslash]
  rw [run_cons, first, Option.bind_some, run_gather (.bare key) gathers, List.singleton_append]

theorem run_assignment {pair : Text × Text} (proper : IsKey pair.1) (plain : Plain pair.2)
    (pairs : List (Text × Text)) :
    run ⟨pairs, .gap⟩ (assignment pair) = some ⟨pairs, .bare pair.1 pair.2⟩ := by
  rw [assignment, List.append_cons, run_append, run_key proper, Option.bind_some,
    run_value plain]

/-- Pairs with plain values are read as they are written, behind whatever has been read before. -/
theorem run_text {pairs : List (Text × Text)} (nonempty : pairs ≠ [])
    (proper : ∀ pair ∈ pairs, IsKey pair.1) (plain : ∀ pair ∈ pairs, Plain pair.2)
    (before : List (Text × Text)) :
    (run ⟨before, .gap⟩ (text pairs)).bind finish = some (before ++ pairs) := by
  induction pairs generalizing before with
  | nil => exact absurd rfl nonempty
  | cons pair rest ih =>
    obtain ⟨firstKey, otherKeys⟩ := List.forall_mem_cons.mp proper
    obtain ⟨firstValue, otherValues⟩ := List.forall_mem_cons.mp plain
    have first := run_assignment firstKey firstValue before
    cases rest with
    | nil =>
      show (run _ (assignment pair)).bind finish = _
      rw [first]
      rfl
    | cons next rest =>
      rw [text_cons_cons, run_append, first, Option.bind_some, run_cons]
      -- the space ends the value, and the reader stands in a gap again
      show (run ⟨before ++ [pair], .gap⟩ (text (next :: rest))).bind finish = _
      rw [ih (List.cons_ne_nil _ _) otherKeys otherValues, List.append_assoc]
      rfl

/-! ## How long a text must be for its pairs -/

/-- The length of pairs as they are written, with a space behind each. -/
def weight (pairs : List (Text × Text)) : Nat := (pairs.flatMap (assignment · ++ [0x20])).length

/-- The length of what has been read of the pair that is not complete. -/
def Mode.weight : Mode → Nat
  | .gap => 0
  | .key name | .keyEnd name => name.length
  | .start name => name.length + 1
  | .bare name value | .quoted name value | .escape _ name value => name.length + 1 + value.length

/-- The least length of a text from which this much can have been read. -/
def State.weight (s : State) : Nat := Keywords.weight s.pairs + s.mode.weight

theorem weight_concat (pairs : List (Text × Text)) (key value : Text) :
    weight (pairs ++ [(key, value)]) = weight pairs + key.length + 1 + value.length + 1 := by
  simp [weight, assignment]
  omega

theorem weight_text {pairs : List (Text × Text)} (nonempty : pairs ≠ []) :
    weight pairs = (text pairs).length + 1 := by
  induction pairs with
  | nil => exact absurd rfl nonempty
  | cons pair rest ih =>
    cases rest with
    | nil => simp [weight, text, Text.joinWith]
    | cons next rest =>
      have others := ih (List.cons_ne_nil _ _)
      rw [text_cons_cons, List.length_append, List.length_cons]
      rw [weight, List.flatMap_cons, List.length_append, ← weight, others, List.length_append]
      simp only [List.length_singleton]
      omega

/-- Pairs of which none is twice the same weigh no more than pairs that hold them all. -/
theorem weight_le_of_subset {few many : List (Text × Text)} (distinct : few.Nodup)
    (subset : few ⊆ many) : weight few ≤ weight many := by
  obtain ⟨middle, perm, sublist⟩ := List.subperm_of_subset distinct subset
  calc weight few = weight middle := (perm.symm.flatMap_right _).length_eq
    _ ≤ weight many := (sublist.flatMap _).length_le

/-- A byte adds at most one to the weight. -/
theorem weight_step {s s' : State} {b : UInt8} (h : step s b = some s') :
    s'.weight ≤ s.weight + 1 := by
  obtain ⟨pairs, mode⟩ := s
  cases mode <;> simp only [step] at h <;> split_ifs at h <;> cases h <;>
    simp [State.weight, Mode.weight, weight_concat] <;> omega

theorem weight_run {s s' : State} {text : Text} (h : run s text = some s') :
    s'.weight ≤ s.weight + text.length := by
  induction text generalizing s with
  | nil =>
    cases h
    exact Nat.le_refl _
  | cons b text ih =>
    rw [run_cons] at h
    obtain ⟨next, first, others⟩ := Option.bind_eq_some_iff.mp h
    have one := weight_step first
    have more := ih others
    rw [List.length_cons]
    omega

theorem weight_finish {s : State} {pairs : List (Text × Text)} (h : finish s = some pairs) :
    weight pairs ≤ s.weight + 1 := by
  obtain ⟨before, mode⟩ := s
  cases mode <;> cases h <;> (simp [State.weight, Mode.weight, weight_concat]; try omega)

/-! ## Texts that are no longer than they must be -/

/-- Nothing was skipped, quoted or escaped on the way here: every value so far is plain. -/
def State.Direct (s : State) : Prop :=
  (∀ pair ∈ s.pairs, Plain pair.2) ∧
    match s.mode with
    | .gap | .key _ | .start _ => True
    | .bare _ value => Plain value
    | .keyEnd _ | .quoted _ _ | .escape _ _ _ => False

theorem plain_singleton {b : UInt8} (blank : isBlank b = false) (quote : b ≠ 0x27)
    (backslash : b ≠ 0x5C) : Plain [b] := by
  refine ⟨List.cons_ne_nil _ _, ?_, ?_⟩
  · simpa using quote
  · simpa using ⟨blank, backslash⟩

theorem Plain.concat {value : Text} (plain : Plain value) {b : UInt8} (blank : isBlank b = false)
    (backslash : b ≠ 0x5C) : Plain (value ++ [b]) := by
  obtain ⟨nonempty, quote, inside⟩ := plain
  refine ⟨by simp, ?_, ?_⟩
  · rwa [List.head?_append_of_ne_nil _ nonempty]
  · intro c mem
    rcases List.mem_append.mp mem with mem | mem
    · exact inside c mem
    · rw [List.mem_singleton.mp mem]
      exact ⟨blank, backslash⟩

/-- A byte that adds to the weight keeps the way direct. -/
theorem State.Direct.step {s s' : State} {b : UInt8} (direct : s.Direct)
    (h : Keywords.step s b = some s') (adds : s'.weight = s.weight + 1) : s'.Direct := by
  obtain ⟨pairs, mode⟩ := s
  obtain ⟨before, here⟩ := direct
  cases mode with
  | gap =>
    simp only [Keywords.step] at h
    split_ifs at h with blank equals
    · cases h
      simp at adds
    · cases h
      exact ⟨before, trivial⟩
  | key name =>
    simp only [Keywords.step] at h
    split_ifs at h with equals blank
    · cases h
      exact ⟨before, trivial⟩
    · cases h
      simp [State.weight, Mode.weight] at adds
    · cases h
      exact ⟨before, trivial⟩
  | start name =>
    simp only [Keywords.step] at h
    split_ifs at h with blank quote backslash
    · cases h
      simp at adds
    · cases h
      simp [State.weight, Mode.weight] at adds
    · cases h
      simp [State.weight, Mode.weight] at adds
    · cases h
      exact ⟨before, plain_singleton (Bool.eq_false_of_not_eq_true blank) quote backslash⟩
  | bare name value =>
    simp only [Keywords.step] at h
    split_ifs at h with blank backslash
    · cases h
      refine ⟨?_, trivial⟩
      intro pair mem
      rcases List.mem_append.mp mem with mem | mem
      · exact before pair mem
      · rw [List.mem_singleton.mp mem]
        exact here
    · cases h
      simp [State.weight, Mode.weight] at adds
    · cases h
      exact ⟨before, Plain.concat here (Bool.eq_false_of_not_eq_true blank) backslash⟩
  | keyEnd name => exact here.elim
  | quoted name value => exact here.elim
  | escape inQuotes name value => exact here.elim

/-- A text of which every byte adds to the weight keeps the way direct. -/
theorem State.Direct.run {s s' : State} {text : Text} (direct : s.Direct)
    (h : Keywords.run s text = some s') (adds : s'.weight = s.weight + text.length) :
    s'.Direct := by
  induction text generalizing s with
  | nil =>
    cases h
    exact direct
  | cons b text ih =>
    rw [run_cons] at h
    obtain ⟨next, first, others⟩ := Option.bind_eq_some_iff.mp h
    -- neither the byte nor the bytes behind it can make up for the other
    have one := weight_step first
    have more := weight_run others
    rw [List.length_cons] at adds
    exact ih (direct.step first (by omega)) others (by omega)

/-- At the end of a direct way, at most the last value is not plain, and it is empty. -/
theorem State.Direct.finish {s : State} {pairs : List (Text × Text)} (direct : s.Direct)
    (h : Keywords.finish s = some pairs) : ∀ pair ∈ pairs, pair.2 = [] ∨ Plain pair.2 := by
  obtain ⟨before, mode⟩ := s
  obtain ⟨plain, here⟩ := direct
  intro pair mem
  cases mode with
  | gap =>
    cases h
    exact .inr (plain pair mem)
  | start name =>
    cases h
    rcases List.mem_append.mp mem with mem | mem
    · exact .inr (plain pair mem)
    · rw [List.mem_singleton.mp mem]
      exact .inl rfl
  | bare name value =>
    cases h
    rcases List.mem_append.mp mem with mem | mem
    · exact .inr (plain pair mem)
    · rw [List.mem_singleton.mp mem]
      exact .inr here
  | key name => cases h
  | keyEnd name => cases h
  | quoted name value => cases h
  | escape inQuotes name value => cases h

/-- When every byte of written pairs adds to the weight, no value but the last is empty: the space
behind it would have been skipped. -/
theorem plain_of_adds {pairs : List (Text × Text)} (proper : ∀ pair ∈ pairs, IsKey pair.1)
    (plain : ∀ pair ∈ pairs, pair.2 = [] ∨ Plain pair.2) {before : List (Text × Text)} {s : State}
    (h : run ⟨before, .gap⟩ (text pairs) = some s)
    (adds : s.weight = weight before + (text pairs).length) :
    ∀ pair ∈ pairs.dropLast, Plain pair.2 := by
  induction pairs generalizing before with
  | nil => simp
  | cons pair rest ih =>
    cases rest with
    | nil => simp
    | cons next rest =>
      obtain ⟨firstKey, otherKeys⟩ := List.forall_mem_cons.mp proper
      obtain ⟨firstValue, otherValues⟩ := List.forall_mem_cons.mp plain
      rw [text_cons_cons, run_append] at h
      rw [text_cons_cons, List.length_append, List.length_cons] at adds
      rcases firstValue with empty | firstValue
      · have written : assignment pair = pair.1 ++ [0x3D] := by rw [assignment, empty]
        rw [written, run_key firstKey, Option.bind_some, run_cons] at h
        have skipped : run ⟨before, .start pair.1⟩ (text (next :: rest)) = some s := h
        have bound := weight_run skipped
        have here : State.weight ⟨before, .start pair.1⟩ = weight before + (pair.1.length + 1) :=
          rfl
        rw [written, List.length_append, List.length_singleton] at adds
        omega
      · rw [run_assignment firstKey firstValue, Option.bind_some, run_cons] at h
        have closed : run ⟨before ++ [pair], .gap⟩ (text (next :: rest)) = some s := h
        have others := ih otherKeys otherValues closed (by
          rw [adds, weight_concat, assignment, List.length_append, List.length_cons]
          omega)
        rw [List.dropLast_cons_of_ne_nil (List.cons_ne_nil _ _)]
        exact List.forall_mem_cons.mpr ⟨firstValue, others⟩

/-! ## What pairs say -/

theorem mem_of_setting? {pairs : List (Text × Text)} {key value : Text}
    (h : setting? pairs key = some value) : (key, value) ∈ pairs := by
  obtain ⟨pair, found, rfl⟩ := Option.map_eq_some_iff.mp h
  have same : pair.1 = key := by simpa using List.find?_some found
  rw [← same]
  exact List.mem_reverse.mp (List.mem_of_find?_eq_some found)

theorem setting?_of_mem {pairs : List (Text × Text)} (distinct : (pairs.map Prod.fst).Nodup)
    {key value : Text} (mem : (key, value) ∈ pairs) : setting? pairs key = some value := by
  have found : (pairs.reverse.find? (·.1 = key)).isSome := by
    rw [List.find?_isSome]
    exact ⟨(key, value), List.mem_reverse.mpr mem, by simp⟩
  obtain ⟨pair, found⟩ := Option.isSome_iff_exists.mp found
  have here : (key, pair.2) ∈ pairs := mem_of_setting? (by rw [setting?, found]; rfl)
  have same : (key, value) = (key, pair.2) :=
    List.inj_on_of_nodup_map distinct mem here rfl
  rw [setting?, found, Option.map_some, (Prod.mk.inj same).2]

/-- **Written pairs say what they should exactly when their values are plain.** The last value may
not be empty. -/
theorem says_text_iff {pairs : List (Text × Text)} (distinct : (pairs.map Prod.fst).Nodup)
    (proper : ∀ pair ∈ pairs, IsKey pair.1) (nonempty : pairs ≠ [])
    (last : (pairs.getLast nonempty).2 ≠ []) :
    Says (text pairs) pairs ↔ ∀ pair ∈ pairs, Plain pair.2 := by
  constructor
  · rintro ⟨found, reads, same⟩
    obtain ⟨s, ran, finished⟩ := Option.bind_eq_some_iff.mp reads
    -- all that should be said is among the pairs found
    have subset : pairs ⊆ found := by
      rintro ⟨key, value⟩ mem
      exact mem_of_setting? ((same key).trans (setting?_of_mem distinct mem))
    have lower : weight pairs ≤ weight found := weight_le_of_subset distinct.of_map subset
    have upper : weight found ≤ s.weight + 1 := weight_finish finished
    have bound := weight_run ran
    have exact_length := weight_text nonempty
    have start : State.weight ⟨[], .gap⟩ = 0 := rfl
    have adds : s.weight = State.weight ⟨[], .gap⟩ + (text pairs).length := by omega
    have direct : State.Direct ⟨[], .gap⟩ := ⟨by simp, trivial⟩
    have plain : ∀ pair ∈ pairs, pair.2 = [] ∨ Plain pair.2 := fun pair mem =>
      (direct.run ran adds).finish finished pair (subset mem)
    intro pair mem
    rw [← List.dropLast_append_getLast nonempty, List.mem_append] at mem
    rcases mem with mem | mem
    · exact plain_of_adds proper plain ran adds pair mem
    · rw [List.mem_singleton.mp mem]
      exact (plain _ (List.getLast_mem nonempty)).resolve_left last
  · intro plain
    exact ⟨pairs, run_text nonempty proper plain [], fun _ => rfl⟩

/-! ## Addresses -/

/-- A setting that is only made when it has a value. -/
def optional (key value : Text) : List (Text × Text) := if value = [] then [] else [(key, value)]

/-- What the settings of a connection say to PostgreSQL: a host, which is `localhost` when none is
given, a port, which is 5432 when it is 0, the database, whether to encrypt, the time zone, and
the user and the password that are given. -/
def ofSettings (s : ConnectionSettings) : List (Text × Text) :=
  ("host", if s.host = [] then "localhost" else s.host)
    :: ("port", Decimal.ofInt (if s.port = 0 then 5432 else s.port))
    :: ("dbname", s.database)
    :: ("sslmode", (s.options.lookup (Text.ofString "sslmode")).getD "disable")
    :: ("timezone", "UTC")
    :: (optional "user" s.user ++ optional "password" s.password)

theorem hostOrLocal_eq (s : ConnectionSettings) :
    s.hostOrLocal = if s.host = [] then Text.ofString "localhost" else s.host := by
  cases h : s.host <;> simp [ConnectionSettings.hostOrLocal, h]

/-- A setting behind others as it stands in an address, given how its keyword is spelled there. -/
theorem written_optional {key word : Text} (spelled : word = 0x20 :: (key ++ [0x3D]))
    (value : Text) :
    ((optional key value).map assignment).flatMap (fun part => Text.ofString " " ++ part)
      = if value.isEmpty then [] else word ++ value := by
  subst spelled
  cases value with
  | nil => rfl
  | cons b value => simp [optional, assignment, show Text.ofString " " = [0x20] from rfl]

theorem text_ofSettings (s : ConnectionSettings) : text (ofSettings s) = Address.postgres s := by
  have space : Text.ofString " " = [0x20] := rfl
  have host : Text.ofString "host=" = Text.ofString "host" ++ [0x3D] := rfl
  have port : Text.ofString " port=" = 0x20 :: (Text.ofString "port" ++ [0x3D]) := rfl
  have dbname : Text.ofString " dbname=" = 0x20 :: (Text.ofString "dbname" ++ [0x3D]) := rfl
  have sslmode : Text.ofString " sslmode=" = 0x20 :: (Text.ofString "sslmode" ++ [0x3D]) := rfl
  have timezone : Text.ofString " timezone=UTC"
      = 0x20 :: (Text.ofString "timezone" ++ 0x3D :: Text.ofString "UTC") := rfl
  have user : Text.ofString " user=" = 0x20 :: (Text.ofString "user" ++ [0x3D]) := rfl
  have password : Text.ofString " password=" = 0x20 :: (Text.ofString "password" ++ [0x3D]) := rfl
  rw [text, ofSettings, List.map_cons, Text.joinWith_cons]
  simp only [List.map_cons, List.map_append, List.flatMap_cons, List.flatMap_append]
  rw [written_optional user, written_optional password]
  simp only [assignment, Address.postgres, hostOrLocal_eq, ConnectionSettings.portOr, space, host,
    port, dbname, sslmode, timezone, List.append_assoc, List.cons_append, List.nil_append]

/-- The keys of addresses. -/
def keys : List Text := ["host", "port", "dbname", "sslmode", "timezone", "user", "password"]

theorem keys_ofSettings (s : ConnectionSettings) :
    List.Sublist ((ofSettings s).map Prod.fst) keys := by
  have user : List.Sublist ((optional "user" s.user).map Prod.fst) [Text.ofString "user"] := by
    rw [optional]
    split_ifs <;> simp
  have password :
      List.Sublist ((optional "password" s.password).map Prod.fst) [Text.ofString "password"] := by
    rw [optional]
    split_ifs <;> simp
  have both := user.append password
  rw [← List.map_append] at both
  simp only [ofSettings, List.map_cons]
  exact both.cons_cons _ |>.cons_cons _ |>.cons_cons _ |>.cons_cons _ |>.cons_cons _

theorem last_ofSettings (s : ConnectionSettings) (nonempty : ofSettings s ≠ []) :
    ((ofSettings s).getLast nonempty).2 ≠ [] := by
  by_cases user : s.user = [] <;> by_cases password : s.password = []
  · simp [ofSettings, optional, user, password]
    decide
  · simp [ofSettings, optional, user, password]
  · simp [ofSettings, optional, user, password]
  · simp [ofSettings, optional, user, password]

theorem plain_ofNat (n : Nat) : Plain (Decimal.ofNat n) := by
  have bytes : ∀ b, Decimal.isDigit b = true → b ≠ 0x27 ∧ isBlank b = false ∧ b ≠ 0x5C := by
    intro b digit
    simp only [Decimal.isDigit, Bool.and_eq_true, decide_eq_true_iff, UInt8.le_iff_toNat_le] at digit
    have values : ∀ n : Nat, 0x30 ≤ n → n ≤ 0x39 → UInt8.ofNat n ≠ 0x27 ∧
        isBlank (UInt8.ofNat n) = false ∧ UInt8.ofNat n ≠ 0x5C := by
      intro n low high
      interval_cases n <;> decide
    simpa using values b.toNat digit.1 digit.2
  have digits := Decimal.isDigit_ofNat n
  refine ⟨Decimal.ofNat_ne_nil n, ?_, fun b mem => (bytes b (digits b mem)).2⟩
  intro quote
  exact (bytes _ (digits _ (List.mem_of_head? quote))).1 rfl

/-- A number is plain, with or without a sign. -/
theorem plain_ofInt (n : Int) : Plain (Decimal.ofInt n) := by
  cases n with
  | ofNat n => exact plain_ofNat n
  | negSucc n =>
    obtain ⟨-, -, inside⟩ := plain_ofNat (n + 1)
    have sign : Decimal.ofInt (.negSucc n) = 0x2D :: Decimal.ofNat (n + 1) := rfl
    rw [sign]
    refine ⟨List.cons_ne_nil _ _, by simp, ?_⟩
    exact List.forall_mem_cons.mpr ⟨by decide, inside⟩

theorem plain_optional_iff (key value : Text) :
    (∀ pair ∈ optional key value, Plain pair.2) ↔ value = [] ∨ Plain value := by
  rw [optional]
  split_ifs with empty
  · simp [empty]
  · simp [empty]

/-- The values of an address are plain when those that were configured are. -/
theorem plain_ofSettings_iff (s : ConnectionSettings) :
    (∀ pair ∈ ofSettings s, Plain pair.2) ↔
      (s.host = [] ∨ Plain s.host) ∧ Plain s.database ∧
        (∀ mode, s.options.lookup (Text.ofString "sslmode") = some mode → Plain mode) ∧
        (s.user = [] ∨ Plain s.user) ∧ (s.password = [] ∨ Plain s.password) := by
  have host : Plain (if s.host = [] then Text.ofString "localhost" else s.host)
      ↔ s.host = [] ∨ Plain s.host := by
    split_ifs with empty
    · exact ⟨fun _ => .inl empty, fun _ => by decide⟩
    · exact ⟨.inr, fun h => h.resolve_left empty⟩
  have mode : Plain ((s.options.lookup (Text.ofString "sslmode")).getD (Text.ofString "disable"))
      ↔ ∀ mode, s.options.lookup (Text.ofString "sslmode") = some mode → Plain mode := by
    cases s.options.lookup (Text.ofString "sslmode") with
    | none =>
      have default : Plain (Text.ofString "disable") := by decide
      simp [default]
    | some mode => simp
  have zone : Plain (Text.ofString "UTC") := by decide
  simp only [ofSettings, List.forall_mem_cons, List.forall_mem_append, plain_optional_iff, host,
    mode, zone, plain_ofInt, true_and]

/-- **When a PostgreSQL address says what was configured.** Read by the rules for keywords and
values, the address of a connection gives the host, the port, the database, the encryption, the
time zone, the user and the password of its settings and nothing else, exactly when the configured
texts are plain: none of them holds white space or a backslash or starts with a quote, and of the
database and the encryption none is empty. -/
theorem says_postgres_iff (s : ConnectionSettings) :
    Says (Address.postgres s) (ofSettings s) ↔
      (s.host = [] ∨ Plain s.host) ∧ Plain s.database ∧
        (∀ mode, s.options.lookup (Text.ofString "sslmode") = some mode → Plain mode) ∧
        (s.user = [] ∨ Plain s.user) ∧ (s.password = [] ∨ Plain s.password) := by
  have distinct : ((ofSettings s).map Prod.fst).Nodup :=
    (keys_ofSettings s).nodup (by decide)
  have proper : ∀ pair ∈ ofSettings s, IsKey pair.1 := by
    have all : ∀ key ∈ keys, IsKey key := by decide
    exact fun pair mem => all _ ((keys_ofSettings s).subset (List.mem_map_of_mem mem))
  rw [← text_ofSettings, says_text_iff distinct proper (List.cons_ne_nil _ _) (last_ofSettings s _)]
  exact plain_ofSettings_iff s

/-- A space ends the password, and the rest of it has no value. -/
theorem not_says_postgres :
    let s : ConnectionSettings := { database := "app", user := "app", password := "open sesame" }
    read (Address.postgres s) = none ∧ ¬ Says (Address.postgres s) (ofSettings s) := by
  intro s
  have fault : read (Address.postgres s) = none := by decide
  refine ⟨fault, ?_⟩
  rintro ⟨pairs, reads, -⟩
  rw [fault] at reads
  cases reads

/-- Without a database, the next setting is taken for it. -/
example : (read (Address.postgres {})).bind (setting? · "dbname") = some "sslmode=disable" := by
  decide

end DatePattern.Keywords
