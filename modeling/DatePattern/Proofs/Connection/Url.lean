import DatePattern.Connection.Address
import DatePattern.Proofs.Dialect.Registration
import DatePattern.Proofs.Text.Split

/-!
# What a SQL Server URL says

A user name, a password, a host, keys and values of any bytes are put into one text whose parts are
told apart by single bytes. The reader here knows nothing of how they were escaped: it cuts at the
first `@`, `:` and `?`, splits at `&` and `=`, and takes percent escapes back.

- `Url.credentials`, `Url.host`, `Url.parameters`: the reader;
- `Url.unescape_flatMap`: escaping byte by byte is undone when it is undone for each byte, whatever
  follows. User names and hosts (`unescape_escape`) and forms (`formDecode_queryPart`) are two
  cases of it;
- `Url.mem_escape`, `Url.mem_queryPart`: what an escaped text is made of, so that no part holds the
  byte that ends it;
- `ConnectionSettings.lookup_given`: the options as a map.
-/

namespace DatePattern

namespace Url

/-! ## The reader -/

/-- The value of a hexadecimal digit, in either case. -/
def hexValue? (b : UInt8) : Option Nat :=
  if 0x30 ≤ b ∧ b ≤ 0x39 then some (b.toNat - 0x30)
  else if 0x41 ≤ b ∧ b ≤ 0x46 then some (b.toNat - 0x37)
  else if 0x61 ≤ b ∧ b ≤ 0x66 then some (b.toNat - 0x57)
  else none

/-- A text with its percent escapes taken back. Behind a percent sign there must be two digits. -/
def unescape : Text → Option Text
  | [] => some []
  | b :: rest =>
    if b = 0x25 then
      match rest with
      | high :: low :: rest => do
        let h ← hexValue? high
        let l ← hexValue? low
        return UInt8.ofNat (16 * h + l) :: (← unescape rest)
      | _ => none
    else do return b :: (← unescape rest)

/-- A key or value of a form, where a plus sign is a space. -/
def formDecode (text : Text) : Option Text :=
  unescape (text.map fun b => if b = 0x2B then 0x20 else b)

/-- The user name and the password: what stands before the first `@`, cut at its first colon. -/
def credentials (text : Text) : Option (Text × Text) := do
  let found ← Text.cut? "@" text
  let both ← Text.cut? ":" found.1
  return (← unescape both.1, ← unescape both.2)

/-- The host with its port: what stands behind the first `@`, up to a question mark. -/
def host (text : Text) : Option Text := do
  let found ← Text.cut? "@" text
  unescape (found.2.takeWhile (· != 0x3F))

/-- One parameter of a query. -/
def parameter (text : Text) : Option (Text × Text) := do
  let both ← Text.cut? "=" text
  return (← formDecode both.1, ← formDecode both.2)

/-- The parameters of a URL, in order: what stands behind the first question mark, split at every
ampersand. -/
def parameters (url : Text) : Option (List (Text × Text)) :=
  match Text.cut? "?" url with
  | none => some []
  | some found => (found.2.splitAtByte 0x26).mapM parameter

/-! ## Escapes -/

theorem hexValue?_hexDigit {n : Nat} (h : n < 16) : hexValue? (Address.hexDigit n) = some n := by
  interval_cases n <;> decide

theorem isUnreserved_hexDigit {n : Nat} (h : n < 16) :
    Address.isUnreserved (Address.hexDigit n) = true := by
  interval_cases n <;> decide

theorem unescape_cons {b : UInt8} (h : b ≠ 0x25) (rest : Text) :
    unescape (b :: rest) = (unescape rest).map (b :: ·) := by
  conv_lhs => rw [unescape.eq_def]
  dsimp only
  rw [if_neg h]
  cases unescape rest <;> rfl

/-- An escaped byte is read, whatever follows. -/
theorem unescape_percent (b : UInt8) (rest : Text) :
    unescape (Address.percent b ++ rest) = (unescape rest).map (b :: ·) := by
  have size : b.toNat < 256 := b.toNat_lt
  have value : UInt8.ofNat (16 * (b.toNat / 16) + b.toNat % 16) = b := by
    rw [Nat.div_add_mod]
    exact UInt8.ofNat_toNat
  show unescape (0x25 :: Address.hexDigit _ :: Address.hexDigit _ :: rest) = _
  rw [unescape, if_pos rfl]
  simp only [hexValue?_hexDigit (show b.toNat / 16 < 16 by omega),
    hexValue?_hexDigit (show b.toNat % 16 < 16 by omega), bind, Option.bind, value]
  cases unescape rest <;> rfl

/-- A text that is written byte by byte is read when each byte is. -/
theorem unescape_flatMap {write : UInt8 → Text}
    (reads : ∀ b rest, unescape (write b ++ rest) = (unescape rest).map (b :: ·)) (text : Text) :
    unescape (text.flatMap write) = some text := by
  induction text with
  | nil => rfl
  | cons b text ih =>
    rw [List.flatMap_cons, reads, ih]
    rfl

theorem ne_percent_of_isUnreserved {b : UInt8} (h : Address.isUnreserved b = true) : b ≠ 0x25 := by
  rintro rfl
  exact absurd h (by decide)

theorem unescape_escape {kept : Text} (plain : 0x25 ∉ kept) (text : Text) :
    unescape (Address.escape kept text) = some text := by
  refine unescape_flatMap (fun b rest => ?_) text
  by_cases keeps : Address.isUnreserved b = true ∨ b ∈ kept
  · have other : b ≠ 0x25 := by
      rcases keeps with free | mem
      · exact ne_percent_of_isUnreserved free
      · rintro rfl
        exact plain mem
    rw [if_pos (by simpa using keeps)]
    exact unescape_cons other rest
  · rw [if_neg (by simpa using keeps)]
    exact unescape_percent b rest

/-- Percent escapes are made of percent signs and unreserved bytes. -/
theorem mem_percent {b c : UInt8} (mem : c ∈ Address.percent b) :
    c = 0x25 ∨ Address.isUnreserved c = true := by
  have size : b.toNat < 256 := b.toNat_lt
  simp only [Address.percent, List.mem_cons, List.not_mem_nil, or_false] at mem
  rcases mem with rfl | rfl | rfl
  · exact .inl rfl
  · exact .inr (isUnreserved_hexDigit (by omega))
  · exact .inr (isUnreserved_hexDigit (by omega))

theorem mem_escape {kept text : Text} {c : UInt8} (mem : c ∈ Address.escape kept text) :
    c = 0x25 ∨ Address.isUnreserved c = true ∨ c ∈ kept := by
  obtain ⟨b, -, written⟩ := List.mem_flatMap.mp mem
  by_cases keeps : Address.isUnreserved b = true ∨ b ∈ kept
  · rw [if_pos (by simpa using keeps), List.mem_singleton] at written
    exact .inr (written ▸ keeps)
  · rw [if_neg (by simpa using keeps)] at written
    exact (mem_percent written).imp_right .inl

/-- A byte that is neither kept nor used by escapes does not occur in an escaped text. -/
theorem not_mem_escape {kept : Text} {c : UInt8} (free : Address.isUnreserved c = false)
    (percent : c ≠ 0x25) (other : c ∉ kept) (text : Text) : c ∉ Address.escape kept text := by
  intro mem
  rcases mem_escape mem with same | unreserved | keeps
  · exact percent same
  · rw [free] at unreserved
    cases unreserved
  · exact other keeps

/-! ## Forms -/

theorem mem_queryPart {text : Text} {c : UInt8} (mem : c ∈ Address.queryPart text) :
    c = 0x25 ∨ Address.isUnreserved c = true ∨ c = 0x2B := by
  obtain ⟨b, -, written⟩ := List.mem_flatMap.mp mem
  split_ifs at written with space unreserved
  · exact .inr (.inr (List.mem_singleton.mp written))
  · exact .inr (.inl (List.mem_singleton.mp written ▸ unreserved))
  · exact (mem_percent written).imp_right .inl

theorem not_mem_queryPart {c : UInt8} (free : Address.isUnreserved c = false) (percent : c ≠ 0x25)
    (plus : c ≠ 0x2B) (text : Text) : c ∉ Address.queryPart text := by
  intro mem
  rcases mem_queryPart mem with same | unreserved | same
  · exact percent same
  · rw [free] at unreserved
    cases unreserved
  · exact plus same

theorem ne_plus_of_isUnreserved {b : UInt8} (h : Address.isUnreserved b = true) : b ≠ 0x2B := by
  rintro rfl
  exact absurd h (by decide)

/-- Only the plus sign for a space is changed before escapes are taken back: one that was there
before is written as an escape. -/
theorem map_percent (b : UInt8) :
    (Address.percent b).map (fun c => if c = 0x2B then 0x20 else c) = Address.percent b := by
  refine (List.map_congr_left fun c mem => if_neg ?_).trans (List.map_id' _)
  rcases mem_percent mem with rfl | unreserved
  · decide
  · exact ne_plus_of_isUnreserved unreserved

theorem formDecode_queryPart (text : Text) :
    formDecode (Address.queryPart text) = some text := by
  rw [formDecode, Address.queryPart, List.map_flatMap]
  refine unescape_flatMap (fun b rest => ?_) text
  by_cases space : b = 0x20
  · rw [if_pos space, space]
    exact unescape_cons (by decide) rest
  · rw [if_neg space]
    by_cases unreserved : Address.isUnreserved b = true
    · rw [if_pos unreserved, List.map_singleton, if_neg (ne_plus_of_isUnreserved unreserved)]
      exact unescape_cons (ne_percent_of_isUnreserved unreserved) rest
    · rw [if_neg unreserved, map_percent]
      exact unescape_percent b rest

/-! ## Queries -/

/-- A parameter as it is written. -/
def written (entry : Text × Text) : Text :=
  Address.queryPart entry.1 ++ "=" ++ Address.queryPart entry.2

/-- A query as it is written, with its question mark; nothing when there are no parameters. -/
def query (entries : List (Text × Text)) : Text :=
  if entries.isEmpty then [] else 0x3F :: Text.joinWith [0x26] (entries.map written)

theorem parameter_written (entry : Text × Text) : parameter (written entry) = some entry := by
  have free : 0x3D ∉ Address.queryPart entry.1 :=
    not_mem_queryPart (by decide) (by decide) (by decide) entry.1
  have cut : Text.cut? "=" (written entry)
      = some (Address.queryPart entry.1, Address.queryPart entry.2) := by
    rw [written, List.append_assoc]
    exact Text.cut?_append_cons free _
  rw [parameter, cut]
  simp only [bind, Option.bind, formDecode_queryPart]
  rfl

theorem mapM_parameter (entries : List (Text × Text)) :
    (entries.map written).mapM parameter = some entries := by
  induction entries with
  | nil => rfl
  | cons entry rest ih =>
    rw [List.map_cons, List.mapM_cons, parameter_written, ih]
    rfl

theorem not_mem_written (entry : Text × Text) : 0x26 ∉ written entry := by
  have free : ∀ text, 0x26 ∉ Address.queryPart text :=
    not_mem_queryPart (by decide) (by decide) (by decide)
  have sign : (0x26 : UInt8) ∉ (("=" : String) : Text) := by decide
  simp only [written, List.mem_append, not_or]
  exact ⟨⟨free _, sign⟩, free _⟩

/-- **Parameters are read back** behind anything without a question mark. -/
theorem parameters_query {front : Text} (free : 0x3F ∉ front) (entries : List (Text × Text)) :
    parameters (front ++ query entries) = some entries := by
  have mark : (("?" : String) : Text) = [0x3F] := by decide
  cases entries with
  | nil =>
    rw [parameters, mark, query, if_pos List.isEmpty_nil, List.append_nil,
      Text.cut?_of_not_mem free]
  | cons entry rest =>
    have parts : ∀ part ∈ (entry :: rest).map written, 0x26 ∉ part := by
      intro part mem
      obtain ⟨e, -, rfl⟩ := List.mem_map.mp mem
      exact not_mem_written e
    have split : Text.splitAtByte 0x26 (Text.joinWith [0x26] ((entry :: rest).map written))
        = (entry :: rest).map written := Text.splitAtByte_joinWith (List.cons_ne_nil _ _) parts
    rw [parameters, mark, query, if_neg (by simp), Text.cut?_append_cons free]
    dsimp only
    rw [split]
    exact mapM_parameter (entry :: rest)

/-- There is a question mark exactly when there is a parameter. -/
theorem mem_query_iff {front : Text} (free : 0x3F ∉ front) (entries : List (Text × Text)) :
    0x3F ∈ front ++ query entries ↔ entries ≠ [] := by
  rw [List.mem_append, or_iff_right free, query]
  cases entries <;> simp

end Url

/-! ## Options -/

namespace ConnectionSettings

/-- The value that a parameter is to have: that of the option of its name, the last one if there
were several, or else the database for the name `database`. -/
def parameter? (s : ConnectionSettings) (name : Text) : Option Text :=
  (s.options.reverse.lookup name).or
    (if name = "database" ∧ s.database ≠ [] then some s.database else none)

/-- The parameters, the database first. -/
def given (s : ConnectionSettings) : List (Text × Text) :=
  Bindings.bindAll s.options
    (if s.database.isEmpty then [] else [("database", s.database)])

theorem nodup_given (s : ConnectionSettings) : (s.given.map Prod.fst).Nodup := by
  refine Bindings.nodup_keys_bindAll s.options ?_
  split
  · exact List.nodup_nil
  · exact List.nodup_singleton _

/-- The parameters as a map. -/
theorem lookup_given (s : ConnectionSettings) (name : Text) :
    s.given.lookup name = s.parameter? name := by
  rw [given, Bindings.lookup_bindAll, parameter?]
  congr 1
  by_cases none : s.database = []
  · simp [none]
  · rw [if_neg (by simpa using none), Bindings.lookup_entry]
    simp [none]

end ConnectionSettings

namespace Text

variable {entries : List (Text × Text)}

theorem nodup_sortBy (distinct : (entries.map Prod.fst).Nodup) :
    ((sortBy Prod.fst entries).map Prod.fst).Nodup :=
  ((perm_sortBy Prod.fst entries).map Prod.fst).nodup_iff.mpr distinct

/-- Sorting by distinct names leaves a map as it is. -/
theorem lookup_sortBy (distinct : (entries.map Prod.fst).Nodup) (name : Text) :
    (sortBy Prod.fst entries).lookup name = entries.lookup name := by
  refine Option.ext fun value => ?_
  rw [← Bindings.mem_iff_lookup (nodup_sortBy distinct), (perm_sortBy Prod.fst entries).mem_iff,
    Bindings.mem_iff_lookup distinct]

theorem pairwise_lt_sortBy (distinct : (entries.map Prod.fst).Nodup) :
    ((sortBy Prod.fst entries).map Prod.fst).Pairwise (· < ·) := by
  have apart : (sortBy Prod.fst entries).Pairwise fun a b => a.1 ≠ b.1 :=
    List.pairwise_map.mp (nodup_sortBy distinct)
  rw [List.pairwise_map]
  refine ((pairwise_sortBy Prod.fst entries).and apart).imp ?_
  rintro a b ⟨le, ne⟩
  by_contra lt
  exact ne (List.le_antisymm le (List.not_lt.mp lt))

end Text

/-! ## The URL -/

namespace Url

/-- A user name and a password as they are written. -/
def login (user password : Text) : Text :=
  Address.userInfo user ++ 0x3A :: Address.userInfo password

theorem cut?_login (user password rest : Text) :
    Text.cut? "@" (login user password ++ 0x40 :: rest) = some (login user password, rest) := by
  have free : ∀ text, 0x40 ∉ Address.userInfo text :=
    not_mem_escape (by decide) (by decide) (by decide)
  exact Text.cut?_append_cons (by simp [login, free]) rest

theorem credentials_login (user password rest : Text) :
    credentials (login user password ++ 0x40 :: rest) = some (user, password) := by
  have free : 0x3A ∉ Address.userInfo user :=
    not_mem_escape (by decide) (by decide) (by decide) user
  have cut : Text.cut? ":" (login user password)
      = some (Address.userInfo user, Address.userInfo password) := Text.cut?_append_cons free _
  have plain : (0x25 : UInt8) ∉ ("$&+,;=" : Text) := by decide
  have reads : ∀ text, unescape (Address.userInfo text) = some text := unescape_escape plain
  rw [credentials, cut?_login]
  dsimp only [bind, Option.bind]
  rw [cut]
  dsimp only
  rw [reads, reads]
  rfl

theorem not_mem_hostPart (text : Text) : 0x3F ∉ Address.hostPart text :=
  not_mem_escape (by decide) (by decide) (by decide) text

theorem host_login (user password text : Text) (entries : List (Text × Text)) :
    host (login user password ++ 0x40 :: (Address.hostPart text ++ query entries)) = some text := by
  have upTo : (Address.hostPart text ++ query entries).takeWhile (· != 0x3F)
      = Address.hostPart text := by
    refine (Text.span_until (not_mem_hostPart text) (query entries) ?_).1
    rw [query]
    cases entries <;> simp
  have plain : (0x25 : UInt8) ∉ ("!$&'()*+,;=:[]<>\"" : Text) := by decide
  rw [host, cut?_login]
  dsimp only [bind, Option.bind]
  rw [upTo]
  exact unescape_escape plain text

/-- What a URL says before its parameters. -/
def front (s : ConnectionSettings) : Text :=
  "sqlserver://" ++ (login s.user s.password
    ++ 0x40 :: Address.hostPart (Address.hostPort s.hostOrLocal (s.portOr 1433)))

theorem sqlserver_eq {s : ConnectionSettings} (named : s.user ≠ []) :
    Address.sqlserver s = front s ++ query (Text.sortBy Prod.fst s.given) := by
  show ("sqlserver://" : Text)
      ++ (if s.user.isEmpty then []
        else Address.userInfo s.user ++ (":" : Text) ++ Address.userInfo s.password ++ ("@" : Text))
      ++ Address.hostPart (Address.hostPort s.hostOrLocal (s.portOr 1433))
      ++ (if ((Text.sortBy Prod.fst s.given).map written).isEmpty then []
        else ("?" : Text) ++ Text.joinWith "&" ((Text.sortBy Prod.fst s.given).map written))
    = _
  have colon : (":" : Text) = [0x3A] := by decide
  have sign : ("@" : Text) = [0x40] := by decide
  have mark : ("?" : Text) = [0x3F] := by decide
  have ampersand : ("&" : Text) = [0x26] := by decide
  rw [if_neg (by simpa using named), List.isEmpty_map, colon, sign, mark, ampersand, front, login,
    query]
  simp

theorem not_mem_front (s : ConnectionSettings) : 0x3F ∉ front s := by
  have scheme : (0x3F : UInt8) ∉ ("sqlserver://" : Text) := by decide
  have user : ∀ text, 0x3F ∉ Address.userInfo text :=
    not_mem_escape (by decide) (by decide) (by decide)
  simp [front, login, scheme, user, not_mem_hostPart]

/-- **A SQL Server URL says what the settings say.** Whatever bytes they hold, as long as there is a
user name: behind the scheme, the text before the first `@` gives the user name and the password,
the text behind it the host and the port, and the parameters behind the first question mark are the
options, with the database if no option names one, each once and in ascending order. There is no
question mark exactly when there are no parameters. -/
theorem sqlserver_reads_back (s : ConnectionSettings) (named : s.user ≠ []) :
    ∃ rest, Address.sqlserver s = ("sqlserver://" : Text) ++ rest ∧
      credentials rest = some (s.user, s.password) ∧
      host rest = some (Address.hostPort s.hostOrLocal (s.portOr 1433)) ∧
      ∃ found, parameters (Address.sqlserver s) = some found ∧
        (found.map Prod.fst).Pairwise (· < ·) ∧
        (∀ name, found.lookup name = s.parameter? name) ∧
        (0x3F ∉ Address.sqlserver s ↔ ∀ name, s.parameter? name = none) := by
  have distinct := s.nodup_given
  have asMap : ∀ name, (Text.sortBy Prod.fst s.given).lookup name = s.parameter? name := by
    intro name
    rw [Text.lookup_sortBy distinct, s.lookup_given]
  have whole := sqlserver_eq named
  refine ⟨login s.user s.password
      ++ 0x40 :: (Address.hostPart (Address.hostPort s.hostOrLocal (s.portOr 1433))
        ++ query (Text.sortBy Prod.fst s.given)), ?_, credentials_login .., host_login ..,
    Text.sortBy Prod.fst s.given, ?_, Text.pairwise_lt_sortBy distinct, asMap, ?_⟩
  · rw [whole, front]
    simp
  · rw [whole]
    exact parameters_query (not_mem_front s) _
  · rw [whole, mem_query_iff (not_mem_front s), not_not]
    -- a map that answers no name has no entries
    constructor
    · intro none name
      rw [← asMap, none]
      rfl
    · intro none
      refine List.eq_nil_iff_forall_not_mem.mpr ?_
      rintro ⟨name, value⟩ mem
      have found := (Bindings.mem_iff_lookup (Text.nodup_sortBy distinct) name value).mp mem
      rw [asMap, none] at found
      cases found

/-- Every delimiter inside the part that it delimits. -/
theorem sqlserver_reads_back_delimiters :
    let s : ConnectionSettings :=
      { host := "db"
        user := "a@b:c"
        password := "p?/%"
        database := "x&y"
        options := [("z key", "1+1=2"), ("app", [])] }
    let url : Text :=
      "sqlserver://a%40b%3Ac:p%3F%2F%25@db:1433?app=&database=x%26y&z+key=1%2B1%3D2"
    s.user ≠ [] ∧ Address.sqlserver s = url ∧
    ∃ rest, url = ("sqlserver://" : Text) ++ rest ∧
      credentials rest = some (("a@b:c" : Text), ("p?/%" : Text)) ∧ host rest = some "db:1433" ∧
      ∃ found, parameters url = some found ∧ found.lookup ("database" : Text) = some "x&y" ∧
        found.lookup ("z key" : Text) = some "1+1=2" ∧ found.lookup ("z" : Text) = none := by
  intro s url
  have named : s.user ≠ [] := by decide
  have written : Address.sqlserver s = url := by decide
  obtain ⟨rest, whole, login, place, found, read, -, asMap, -⟩ := sqlserver_reads_back s named
  rw [written] at whole read
  refine ⟨named, written, rest, whole, login, place, found, read, ?_, ?_, ?_⟩
  · rw [asMap]
    decide
  · rw [asMap]
    decide
  · rw [asMap]
    decide

end Url

end DatePattern
