import Mathlib.Algebra.Ring.Int.Defs
import Menagerie.Beaver.Text
import Menagerie.Library.Conninfo

/-!
# Connection configuration

The credentials and the configuration of a PostgreSQL connection with their checks, and the
connection string that is made of them. `escape_connection_value` puts a value in quotes when it has
a blank or an equals sign, but not for the other white space at which the client library ends a bare
value.
-/

namespace Menagerie.Elephant

open Beaver Conninfo List

/-- The loop of `escape_connection_value`: the need for quotes, and the value. -/
def escapeStep (state : Bool × Text) (c : Char) : Bool × Text :=
  if c = '\\' ∨ c = '\'' then (true, state.2 ++ ['\\', c])
  else if c = ' ' ∨ c = '=' then (true, state.2 ++ [c])
  else (state.1, state.2 ++ [c])

/-- `escape_connection_value`. -/
def escapeConnectionValue (value : Text) : Text :=
  if value.isEmpty then ['\'', '\'']
  else
    let (needsQuoting, escaped) := value.foldl escapeStep (false, [])
    if needsQuoting then '\'' :: (escaped ++ ['\'']) else escaped

/-- `SslMode`. -/
inductive SslMode
  | disable | allow | prefer | require | verifyCa | verifyFull
  deriving DecidableEq, Repr

/-- `ssl_mode_to_string_t`. -/
def sslModeToString : SslMode → Text
  | .disable => "disable".toList
  | .allow => "allow".toList
  | .prefer => "prefer".toList
  | .require => "require".toList
  | .verifyCa => "verify-ca".toList
  | .verifyFull => "verify-full".toList

/-- What `std::stoi` throws. -/
inductive StoiError
  | invalidArgument | outOfRange
  deriving DecidableEq, Repr

/-- `std::stoi`: white space, a sign, digits, anything. -/
def stoi (text : Text) : Except StoiError Int :=
  let rest := text.dropWhile isSpace
  let unsigned := if rest.head? = some '-' ∨ rest.head? = some '+' then rest.tail else rest
  let digits := unsigned.takeWhile Char.isDigit
  let magnitude : Int := Nat.ofDigitChars 10 digits 0
  let value := if rest.head? = some '-' then -magnitude else magnitude
  if digits.isEmpty then .error .invalidArgument
  else if value < -2 ^ 31 ∨ 2 ^ 31 ≤ value then .error .outOfRange
  else .ok value

/-- `ConnectionCredentials`. -/
structure ConnectionCredentials where
  host : Text := "localhost".toList
  port : Text := "5432".toList
  dbname : Text := []
  user : Text := []
  password : Text := []
  deriving DecidableEq, Repr

namespace ConnectionCredentials

/-- `validate`, with the text of its `std::invalid_argument`. -/
def validate (credentials : ConnectionCredentials) : Except Text Unit := do
  if credentials.dbname.isEmpty then throw "Database name (dbname) must be specified".toList
  if credentials.user.isEmpty then throw "User must be specified".toList
  if !credentials.port.isEmpty then
    match stoi credentials.port with
    | .ok p => if p < 1 ∨ p > 65535 then throw "Port must be between 1 and 65535".toList
    | .error .invalidArgument => throw "stoi".toList
    | .error .outOfRange => throw "Invalid port number".toList

/-- A field of the connection string with a blank behind it, unless it is empty. -/
def field (name value : Text) : Text :=
  if value.isEmpty then [] else name ++ ('=' :: (escapeConnectionValue value ++ [' ']))

/-- `to_connection_string`. -/
def toConnectionString (credentials : ConnectionCredentials) : Except Text Text := do
  credentials.validate
  let result := field "host".toList credentials.host ++ field "port".toList credentials.port ++
    field "dbname".toList credentials.dbname ++ field "user".toList credentials.user ++
    field "password".toList credentials.password
  return if result.getLast? = some ' ' then result.dropLast else result

end ConnectionCredentials

/-- `std::map<std::string, std::string>`. -/
structure OptionMap where
  entries : List (Text × Text)
  sorted : entries.Pairwise fun first second => first.1 < second.1

/-- `ConnectionConfig`. -/
structure ConnectionConfig where
  credentials : ConnectionCredentials
  priority : Int := 0
  connectTimeout : Int := 30
  sslMode : SslMode := .prefer
  sslCert : Option Text := none
  sslKey : Option Text := none
  sslRootCert : Option Text := none
  applicationName : Text := []
  extraOptions : OptionMap := ⟨[], .nil⟩

namespace ConnectionConfig

/-- `validate`. -/
def validate (config : ConnectionConfig) : Except Text Unit := do
  config.credentials.validate
  if (config.sslMode = .verifyCa ∨ config.sslMode = .verifyFull) ∧ config.sslRootCert.isNone then
    throw "ssl_root_cert is required when ssl_mode is VERIFY_CA or VERIFY_FULL".toList
  if config.sslCert.isSome ≠ config.sslKey.isSome then
    throw "ssl_cert and ssl_key must both be specified or both be omitted".toList
  if config.connectTimeout < 0 then throw "connect_timeout cannot be negative".toList
  if config.priority < 0 then throw "priority cannot be negative".toList

/-- A field of the connection string with a blank and its name. -/
def field (name value : Text) : Text := ' ' :: (name ++ ('=' :: value))

/-- A field that is left out when it is not set. -/
def optionalField (name : Text) : Option Text → Text
  | none => []
  | some value => field name (escapeConnectionValue value)

/-- `to_connection_string`. -/
def toConnectionString (config : ConnectionConfig) : Except Text Text := do
  config.validate
  let result ← config.credentials.toConnectionString
  let result := result ++ field "sslmode".toList (sslModeToString config.sslMode)
  let result := result ++ optionalField "sslcert".toList config.sslCert
  let result := result ++ optionalField "sslkey".toList config.sslKey
  let result := result ++ optionalField "sslrootcert".toList config.sslRootCert
  let result :=
    if 0 < config.connectTimeout then
      result ++ field "connect_timeout".toList (Nat.toDigits 10 config.connectTimeout.toNat)
    else result
  let result :=
    if config.applicationName.isEmpty then result
    else result ++ field "application_name".toList (escapeConnectionValue config.applicationName)
  return config.extraOptions.entries.foldl
    (fun result option => result ++ field option.1 (escapeConnectionValue option.2)) result

end ConnectionConfig

/-- The credentials that are set, under their keywords. -/
def ConnectionCredentials.pairs (credentials : ConnectionCredentials) : List Pair :=
  [("host".toList, credentials.host), ("port".toList, credentials.port),
    ("dbname".toList, credentials.dbname), ("user".toList, credentials.user),
    ("password".toList, credentials.password)].filter fun pair => !pair.2.isEmpty

/-- What a configuration sets, under the keywords of libpq. -/
def ConnectionConfig.pairs (config : ConnectionConfig) : List Pair :=
  config.credentials.pairs ++ [("sslmode".toList, sslModeToString config.sslMode)] ++
    (config.sslCert.map (("sslcert".toList, ·))).toList ++
    (config.sslKey.map (("sslkey".toList, ·))).toList ++
    (config.sslRootCert.map (("sslrootcert".toList, ·))).toList ++
    (if 0 < config.connectTimeout then
      [("connect_timeout".toList, Nat.toDigits 10 config.connectTimeout.toNat)] else []) ++
    (if config.applicationName.isEmpty then []
      else [("application_name".toList, config.applicationName)]) ++
    config.extraOptions.entries

/-- Characters for which `escape_connection_value` quotes a value. -/
def asksForQuotes (c : Char) : Bool := c = '\\' || c = '\'' || c = ' ' || c = '='

/-- A value with white space has a character that asks for quotes. -/
def Quotable (value : Text) : Prop :=
  (∃ c ∈ value, isSpace c = true) → ∃ c ∈ value, asksForQuotes c = true

/-- A key of letters, digits and underscores. -/
def Word (key : Text) : Prop := key ≠ [] ∧ ∀ c ∈ key, c.isAlphanum = true ∨ c = '_'

theorem foldl_escapeStep (value : Text) (quoting : Bool) (escaped : Text) :
    value.foldl escapeStep (quoting, escaped) =
      (quoting || value.any asksForQuotes, escaped ++ value.flatMap quoteChar) := by
  induction value generalizing quoting escaped with
  | nil => simp
  | cons c value ih =>
    rw [foldl_cons, any_cons, flatMap_cons, escapeStep, quoteChar]
    split
    case isTrue special =>
      rw [ih]
      rcases special with rfl | rfl <;> simp [asksForQuotes]
    case isFalse plain =>
      rw [not_or] at plain
      split
      case isTrue special =>
        rw [ih]
        rcases special with rfl | rfl <;> simp [asksForQuotes]
      case isFalse solid =>
        rw [not_or] at solid
        rw [ih]
        simp [asksForQuotes, plain, solid]

theorem flatMap_quoteChar {value : Text} (plain : value.any asksForQuotes = false) :
    value.flatMap quoteChar = value := by
  induction value with
  | nil => rfl
  | cons c value ih =>
    rw [any_cons, Bool.or_eq_false_iff] at plain
    have head : ¬ (c = '\\' ∨ c = '\'') := by
      intro special
      rcases special with rfl | rfl <;> exact Bool.noConfusion plain.1
    rw [flatMap_cons, ih plain.2, quoteChar, if_neg head]
    rfl

theorem escapeConnectionValue_eq (value : Text) :
    escapeConnectionValue value =
      if value = [] ∨ value.any asksForQuotes = true
        then '\'' :: (value.flatMap quoteChar ++ ['\'']) else value := by
  cases value with
  | nil => rfl
  | cons c value =>
    rw [escapeConnectionValue, foldl_escapeStep]
    cases asks : (c :: value).any asksForQuotes with
    | true => simp
    | false => simp [flatMap_quoteChar asks]

section

variable {value : Text}

theorem escapeConnectionValue_of_bare (nonempty : value ≠ [])
    (bare : value.any asksForQuotes = false) : escapeConnectionValue value = value := by
  rw [escapeConnectionValue_eq, if_neg]
  simp [nonempty, bare]

theorem not_mem_of_bare (bare : value.any asksForQuotes = false) :
    '\'' ∉ value ∧ '\\' ∉ value := by
  rw [any_eq_false] at bare
  exact ⟨fun member => bare _ member rfl, fun member => bare _ member rfl⟩

theorem readBack_of_quotable (quotable : Quotable value) :
    ReadBack escapeConnectionValue value := by
  intro name rest continues
  rw [escapeConnectionValue_eq]
  split
  case isTrue quoted =>
    have noSpace : isSpace '\'' = false := rfl
    rw [cons_append, scan, noSpace, if_neg Bool.false_ne_true, if_pos rfl, append_assoc,
      singleton_append, scan_quoted, nil_append, scan_gap_continues continues]
  case isFalse bare =>
    rw [not_or, Bool.not_eq_true] at bare
    have plain := not_mem_of_bare bare.2
    have solid : ∀ c ∈ value, isSpace c = false := by
      intro c member
      cases blank : isSpace c with
      | false => rfl
      | true =>
        obtain ⟨d, inside, asks⟩ := quotable ⟨c, member, blank⟩
        exact absurd (any_eq_true.mpr ⟨d, inside, asks⟩) (by rw [bare.2]; exact Bool.false_ne_true)
    exact scan_value_bare bare.1 solid plain.1 plain.2 continues

theorem misread_of_not_quotable (bad : ¬ Quotable value) :
    Misread escapeConnectionValue value := by
  intro name rest more continues
  rw [Quotable, Classical.not_imp, not_exists] at bad
  obtain ⟨space, bare⟩ := bad
  have unquoted : value.any asksForQuotes = false := by
    rw [any_eq_false]
    exact fun c member asks => bare c ⟨member, asks⟩
  have nonempty : value ≠ [] := by
    rintro rfl
    obtain ⟨c, member, -⟩ := space
    cases member
  have plain := not_mem_of_bare unquoted
  rw [escapeConnectionValue_of_bare nonempty unquoted]
  exact scan_value_misread space plain.1 plain.2 continues more

end

theorem word_of_all {key : Text}
    (checked : (!key.isEmpty && key.all fun c => c.isAlphanum || c = '_') = true) : Word key := by
  simp only [Bool.and_eq_true, Bool.not_eq_true', isEmpty_eq_false_iff, all_eq_true,
    Bool.or_eq_true, decide_eq_true_eq] at checked
  exact checked

theorem Word.keyword {key : Text} (word : Word key) : Keyword key := by
  have other : ∀ c ∈ key, c ≠ ' ' ∧ c ≠ '\t' ∧ c ≠ '\n' ∧ c ≠ '\x0b' ∧ c ≠ '\x0c' ∧ c ≠ '\r' ∧
      c ≠ '=' ∧ c ≠ '\'' ∧ c ≠ '\\' := by
    intro c member
    have letters := word.2 c member
    refine ⟨?_, ?_, ?_, ?_, ?_, ?_, ?_, ?_, ?_⟩ <;> rintro rfl <;> revert letters <;> decide
  refine ⟨word.1, ?_, ?_, ?_, ?_⟩
  · intro c member
    obtain ⟨h1, h2, h3, h4, h5, h6, -⟩ := other c member
    simp [isSpace, h1, h2, h3, h4, h5, h6]
  · exact fun member => (other _ member).2.2.2.2.2.2.1 rfl
  · exact fun member => (other _ member).2.2.2.2.2.2.2.1 rfl
  · exact fun member => (other _ member).2.2.2.2.2.2.2.2 rfl

namespace ConnectionCredentials

variable {credentials : ConnectionCredentials}

theorem pairs_ne_nil (valid : credentials.validate = .ok ()) : credentials.pairs ≠ [] := by
  have named : credentials.dbname.isEmpty = false := by
    cases empty : credentials.dbname.isEmpty with
    | false => rfl
    | true =>
      simp only [validate, empty] at valid
      cases valid
  intro none
  have member : ("dbname".toList, credentials.dbname) ∈ credentials.pairs := by
    rw [pairs, mem_filter]
    exact ⟨by simp, by simp [named]⟩
  rw [none] at member
  cases member

theorem toConnectionString_eq (valid : credentials.validate = .ok ()) :
    credentials.toConnectionString = .ok (write escapeConnectionValue credentials.pairs) := by
  have nonempty := pairs_ne_nil valid
  have fields : ∀ pairs : List Pair, (pairs.flatMap fun pair => field pair.1 pair.2) =
      (pairs.filter fun pair => !pair.2.isEmpty).flatMap fun pair =>
        pair.1 ++ '=' :: (escapeConnectionValue pair.2 ++ [' ']) := by
    intro pairs
    induction pairs with
    | nil => rfl
    | cons pair pairs ih =>
      rw [flatMap_cons, ih, field, filter_cons]
      cases pair.2.isEmpty <;> rfl
  have text := fields [("host".toList, credentials.host), ("port".toList, credentials.port),
    ("dbname".toList, credentials.dbname), ("user".toList, credentials.user),
    ("password".toList, credentials.password)]
  rw [← pairs, flatMap_blank nonempty] at text
  simp only [flatMap_cons, flatMap_nil, append_nil] at text
  simp only [toConnectionString, valid, append_assoc, text]
  simp [bind, Except.bind, pure, Except.pure]

end ConnectionCredentials

theorem mem_of_mem_escape {value : Text} {c : Char} (member : c ∈ escapeConnectionValue value)
    (noQuote : c ≠ '\'') (plain : c ≠ '\\') : c ∈ value := by
  rw [escapeConnectionValue_eq] at member
  split at member
  case isFalse => exact member
  case isTrue =>
    simp only [mem_cons, mem_append, mem_flatMap, noQuote, not_mem_nil,
      or_false, false_or] at member
    obtain ⟨d, inside, written⟩ := member
    rw [quoteChar] at written
    split at written
    · simp only [mem_cons, plain, not_mem_nil, or_false, false_or] at written
      exact written ▸ inside
    · rw [mem_singleton] at written
      exact written ▸ inside

theorem escape_sslModeToString (mode : SslMode) :
    escapeConnectionValue (sslModeToString mode) = sslModeToString mode := by
  cases mode <;> rfl

theorem escape_toDigits (n : Nat) :
    escapeConnectionValue (Nat.toDigits 10 n) = Nat.toDigits 10 n := by
  refine escapeConnectionValue_of_bare Nat.toDigits_ne_nil ?_
  rw [any_eq_false]
  intro c member
  have digit := Nat.isDigit_of_mem_toDigits (by omega) (by omega) member
  intro asks
  simp only [asksForQuotes, Bool.or_eq_true, decide_eq_true_eq] at asks
  rcases asks with ((rfl | rfl) | rfl) | rfl <;> cases digit

namespace ConnectionConfig

variable {config : ConnectionConfig}

theorem credentials_valid (valid : config.validate = .ok ()) :
    config.credentials.validate = .ok () := by
  cases checked : config.credentials.validate with
  | ok done => rfl
  | error message =>
    simp only [validate, checked] at valid
    cases valid

theorem writeRest_singleton (name value : Text) :
    writeRest escapeConnectionValue [(name, value)] = field name (escapeConnectionValue value) :=
  rfl

theorem optionalField_eq (name : Text) (value : Option Text) : optionalField name value =
    writeRest escapeConnectionValue (value.map ((name, ·))).toList := by
  cases value <;> rfl

theorem toConnectionString_eq (valid : config.validate = .ok ()) :
    config.toConnectionString = .ok (write escapeConnectionValue config.pairs) := by
  have nonempty := ConnectionCredentials.pairs_ne_nil (credentials_valid valid)
  have options : ∀ entries : List Pair, ∀ result : Text,
      entries.foldl (fun result option => result ++ field option.1 (escapeConnectionValue option.2))
        result = result ++ writeRest escapeConnectionValue entries := by
    intro entries
    induction entries with
    | nil => simp [writeRest]
    | cons entry entries ih =>
      intro result
      rw [foldl_cons, ih, ← singleton_append, writeRest_append, writeRest_singleton,
        append_assoc]
  have mode := writeRest_singleton "sslmode".toList (sslModeToString config.sslMode)
  rw [escape_sslModeToString] at mode
  simp only [toConnectionString, valid, ConnectionCredentials.toConnectionString_eq
    (credentials_valid valid), bind, Except.bind, pure, Except.pure, optionalField_eq, ← mode,
    options, pairs]
  by_cases timed : 0 < config.connectTimeout <;> cases named : config.applicationName.isEmpty <;>
    simp only [timed, if_true, Bool.false_eq_true, if_false, append_assoc, append_nil,
      write_append nonempty, writeRest_append, writeRest_singleton, escape_toDigits]

theorem pairs_word (words : ∀ option ∈ config.extraOptions.entries, Word option.1) :
    ∀ pair ∈ config.pairs, Word pair.1 := by
  intro pair member
  simp only [pairs, ConnectionCredentials.pairs, mem_append, mem_filter, mem_cons,
    not_mem_nil, or_false, Option.mem_toList, Option.map_eq_some_iff] at member
  rcases member with ((((((credential | rfl) | ⟨path, -, rfl⟩) | ⟨path, -, rfl⟩) | ⟨path, -, rfl⟩) |
    timeout) | application) | option
  · rcases credential.1 with rfl | rfl | rfl | rfl | rfl <;> exact word_of_all rfl
  · exact word_of_all rfl
  · exact word_of_all rfl
  · exact word_of_all rfl
  · exact word_of_all rfl
  · split at timeout
    · cases mem_singleton.mp timeout
      exact word_of_all rfl
    · cases timeout
  · split at application
    · cases application
    · cases mem_singleton.mp application
      exact word_of_all rfl
  · exact words pair option

/-- The connection string of a valid configuration gives back what it sets, exactly when every value
with white space has a character that asks for quotes. -/
theorem connection_string_iff (config : ConnectionConfig) (valid : config.validate = .ok ())
    (words : ∀ option ∈ config.extraOptions.entries, Word option.1)
    (nulFree : ∀ pair ∈ config.pairs, Char.ofNat 0 ∉ pair.2) :
    ∃ text, config.toConnectionString = .ok text ∧
      (parse text = .ok config.pairs ↔ ∀ pair ∈ config.pairs, Quotable pair.2) := by
  refine ⟨_, toConnectionString_eq valid, ?_⟩
  have keywords := pairs_word words
  have noNul : Char.ofNat 0 ∉ write escapeConnectionValue config.pairs := by
    intro member
    rcases mem_write member with blank | equals | ⟨pair, inside, inName | inValue⟩
    · cases blank
    · cases equals
    · have letters := (keywords pair inside).2 _ inName
      revert letters
      decide
    · exact nulFree pair inside (mem_of_mem_escape inValue (by decide) (by decide))
  rw [parse_eq_scan noNul]
  exact scan_write_iff (fun _ => readBack_of_quotable) (fun _ => misread_of_not_quotable)
    (fun pair inside => (keywords pair inside).keyword)

/-- A password with a blank, a quote and a tab. -/
def quotedPassword : ConnectionConfig :=
  { credentials := { dbname := ['d'], user := ['u'], password := ['i', '\'', ' ', '\t'] }
    extraOptions := ⟨[(['k', '_', '1'], [])], List.pairwise_singleton _ _⟩ }

theorem connection_string_iff_quoted : ∃ text, quotedPassword.toConnectionString = .ok text ∧
    (parse text = .ok quotedPassword.pairs ↔ ∀ pair ∈ quotedPassword.pairs, Quotable pair.2) :=
  connection_string_iff quotedPassword (by decide)
    (by
      intro option member
      cases mem_singleton.mp member
      exact word_of_all rfl)
    (by decide)

/-- A tab as the password, and full verification of the server. -/
def tabPassword : ConnectionConfig :=
  { credentials := { dbname := ['d'], user := ['u'], password := ['\t'] }
    sslMode := .verifyFull
    sslRootCert := some ['c', 'a'] }

/-- libpq takes the mode of verification for the password, and finds no mode. -/
theorem connection_string_misread : ∃ text, tabPassword.toConnectionString = .ok text ∧
    parse text = .ok [("host".toList, "localhost".toList), ("port".toList, "5432".toList),
      ("dbname".toList, ['d']), ("user".toList, ['u']),
      ("password".toList, "sslmode=verify-full".toList), ("sslrootcert".toList, ['c', 'a']),
      ("connect_timeout".toList, "30".toList)] ∧
    parse text ≠ .ok tabPassword.pairs := by
  refine ⟨_, toConnectionString_eq (by decide), ?_, ?_⟩ <;> decide

end ConnectionConfig

end Menagerie.Elephant
