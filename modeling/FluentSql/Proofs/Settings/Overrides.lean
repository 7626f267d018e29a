import FluentSql.Proofs.Settings.Excerpt

/-!
# Overrides leaf by leaf

A leaf of the settings has at most one variable of the environment, which no other leaf has, and
takes its value from it or keeps the one it has. The free tier puts its own limit in place of that
of the MySQL connections, so that it does not raise a limit exactly if that one is not lower.
-/

namespace FluentSql

/-- The text is the digits of a number of sixteen bits, perhaps behind a plus sign. -/
def DenotesPort (text : String) (port : UInt16) : Prop :=
  ∃ digits, (text.toList = digits ∨ text.toList = '+' :: digits) ∧ digits ≠ [] ∧
    digits.all Integer.isDigit = true ∧ Integer.natOfDigits 0 digits = port.toNat

namespace Integer

theorem readNat?_eq_some_iff {cs : List Char} {n : Nat} :
    readNat? cs = some n ↔ cs ≠ [] ∧ cs.all isDigit = true ∧ natOfDigits 0 cs = n := by
  unfold readNat?
  split
  · next h => simp [h]
  · next h =>
    constructor
    · intro hsome
      cases hsome
    · rintro ⟨hne, hall, _⟩
      exact absurd ⟨hne, hall⟩ h

theorem readUnsigned?_eq_some_iff {high n : Nat} {s : String} :
    readUnsigned? high s = some n ↔ n ≤ high ∧
      ∃ digits, (s.toList = digits ∨ s.toList = '+' :: digits) ∧ readNat? digits = some n := by
  have hplus : ∀ cs, readNat? ('+' :: cs) = none := fun cs => if_neg (by simp [isDigit])
  unfold readUnsigned?
  dsimp only
  rw [Option.filter_eq_some_iff]
  split
  · next cs hcs =>
    rw [hcs]
    constructor
    · rintro ⟨hread, hle⟩
      exact ⟨of_decide_eq_true hle, cs, .inr rfl, hread⟩
    · rintro ⟨hle, digits, rfl | hdigits, hread⟩
      · rw [hplus] at hread
        cases hread
      · obtain rfl := (List.cons.inj hdigits).2
        exact ⟨hread, decide_eq_true hle⟩
  · next hcs =>
    constructor
    · rintro ⟨hread, hle⟩
      exact ⟨of_decide_eq_true hle, _, .inl rfl, hread⟩
    · rintro ⟨hle, digits, rfl | hdigits, hread⟩
      · exact ⟨hread, decide_eq_true hle⟩
      · exact absurd hdigits (hcs digits)

end Integer

theorem readPort?_eq_some_iff {text : String} {port : UInt16} :
    readPort? text = some port ↔ DenotesPort text port := by
  have hlt := port.toNat_lt
  rw [readPort?, Option.map_eq_some_iff]
  constructor
  · rintro ⟨n, hread, rfl⟩
    obtain ⟨hle, digits, htext, hnat⟩ := Integer.readUnsigned?_eq_some_iff.mp hread
    obtain ⟨hne, hall, hvalue⟩ := Integer.readNat?_eq_some_iff.mp hnat
    refine ⟨digits, htext, hne, hall, ?_⟩
    rw [hvalue]
    exact (UInt16.toNat_ofNat_of_lt (Nat.lt_succ_of_le hle)).symm
  · rintro ⟨digits, htext, hne, hall, hvalue⟩
    refine ⟨port.toNat, ?_, UInt16.ofNat_toNat⟩
    rw [Integer.readUnsigned?_eq_some_iff]
    exact ⟨by omega, digits, htext, Integer.readNat?_eq_some_iff.mpr ⟨hne, hall, hvalue⟩⟩

namespace ServerKey

/-- How the variable of a leaf ends. -/
def ending? : ServerKey → Option String
  | host => some "_HOST"
  | port => some "_PORT"
  | user => some "_USER"
  | password => some "_PASSWORD"
  | database => some "_DB"
  | charset => none
  | connectionLimit => none

/-- The value that a leaf takes from the text of its variable. -/
def read? : ServerKey → String → Option Document
  | port, text => (readPort? text).map fun port => .ofUInt64 port.toUInt64
  | _, text => some (.string text)

end ServerKey

namespace SettingsKey

/-- The variable of a leaf. -/
def name? : SettingsKey → Option String
  | debug => some "DEBUG"
  | logLevel => some "LOG_LEVEL"
  | dialect => some "DATABASE"
  | queryTrace => some "QUERY_TRACE"
  | mySql .connectionLimit => some "USING_FREE_TIER"
  | mySql key => key.ending?.map ("MYSQL" ++ ·)
  | postgreSql key => key.ending?.map ("POSTGRES" ++ ·)
  | sqlitePath => some "SQLITE_PATH"

/-- The value that a leaf takes from the text of its variable. -/
def read? : SettingsKey → String → Option Document
  | debug, text => some (.bool (isOn text))
  | logLevel, text => some (.string text)
  | dialect, text => some (.string (Text.lower (Text.trim text)))
  | queryTrace, text => some (.bool (isOn text))
  | mySql .connectionLimit, text => if isOn text then some (.ofUInt64 freeTierLimit) else none
  | mySql key, text => key.read? text
  | postgreSql key, text => key.read? text
  | sqlitePath, text => some (.string text)

/-- The value that the environment gives a leaf. -/
def given? (env : Environment) (key : SettingsKey) : Option Document :=
  (key.name?.bind env).bind key.read?

theorem given?_connectionLimit (env : Environment) :
    (mySql .connectionLimit).given? env = (env "USING_FREE_TIER").bind fun text =>
      if isOn text then some (.ofUInt64 freeTierLimit) else none :=
  rfl

theorem given?_mySql (env : Environment) {key : ServerKey} (h : key ≠ .connectionLimit) :
    (mySql key).given? env = ((key.ending?.map ("MYSQL" ++ ·)).bind env).bind key.read? := by
  cases key with
  | connectionLimit => exact absurd rfl h
  | _ => rfl

theorem given?_postgreSql (env : Environment) (key : ServerKey) :
    (postgreSql key).given? env = ((key.ending?.map ("POSTGRES" ++ ·)).bind env).bind key.read? :=
  rfl

theorem head_name?_mySql {key : ServerKey} {name : String} (h : (mySql key).name? = some name) :
    name.toList.head? ≠ some 'P' := by
  cases key with
  | charset => cases h
  | _ =>
    obtain rfl := Option.some.inj h
    decide

theorem head_name?_postgreSql {key : ServerKey} {name : String}
    (h : (postgreSql key).name? = some name) : name.toList.head? = some 'P' := by
  obtain ⟨ending, -, rfl⟩ := Option.map_eq_some_iff.mp h
  rw [String.toList_append]
  rfl

/-- All leaves. -/
def all : List SettingsKey :=
  [debug, logLevel, dialect, queryTrace, sqlitePath] ++ ServerKey.ordered.map mySql ++
    ServerKey.ordered.map postgreSql

theorem mem_all (key : SettingsKey) : key ∈ all := by
  cases key with
  | mySql key => cases key <;> decide
  | postgreSql key => cases key <;> decide
  | _ => decide

/-- Two leaves do not share a variable. -/
theorem name?_inj {key key' : SettingsKey} {name : String} (h : key.name? = some name)
    (h' : key'.name? = some name) : key = key' := by
  have hall : ∀ key ∈ all, ∀ key' ∈ all,
      key.name? = key'.name? → key.name? = none ∨ key = key' := by
    decide
  rcases hall key (mem_all key) key' (mem_all key') (h.trans h'.symm) with hnone | heq
  · rw [h] at hnone
    cases hnone
  · exact heq

/-- The variables in the order of their leaves. -/
example : all.filterMap name? = ["DEBUG", "LOG_LEVEL", "DATABASE", "QUERY_TRACE", "SQLITE_PATH",
    "USING_FREE_TIER", "MYSQL_DB", "MYSQL_HOST", "MYSQL_PASSWORD", "MYSQL_PORT", "MYSQL_USER",
    "POSTGRES_DB", "POSTGRES_HOST", "POSTGRES_PASSWORD", "POSTGRES_PORT", "POSTGRES_USER"] := by
  decide

end SettingsKey

/-! ## The value of a leaf after the environment -/

theorem string_getD (given : Option String) (old : String) : Document.string (given.getD old) =
    (given.bind fun text => some (.string text)).getD (.string old) := by
  cases given <;> rfl

theorem getD_map_read {α : Type} (make : α → Document) (read : String → α)
    (given : Option String) (old : α) : make ((given.map read).getD old) =
      (given.bind fun text => some (make (read text))).getD (make old) := by
  cases given <;> rfl

namespace ServerSettings

variable {s t : ServerSettings} {env : Environment}

theorem eq_of_value (h : ∀ key, s.value key = t.value key) : s = t := by
  have hdocument : s.toDocument = t.toDocument := by
    rw [toDocument_eq, toDocument_eq, funext h]
  have hread := ofDocument_toDocument s
  rw [hdocument, ofDocument_toDocument] at hread
  exact (Except.ok.inj hread).symm

/-- A leaf takes its value from its own variable or keeps the one it has. -/
theorem value_override (lead : String) (env : Environment) (s : ServerSettings) (key : ServerKey) :
    (s.override lead env).value key =
      (((key.ending?.map (lead ++ ·)).bind env).bind key.read?).getD (s.value key) := by
  cases key with
  | host => exact string_getD _ _
  | port =>
    show Document.ofUInt64 (((env (lead ++ "_PORT")).bind readPort?).getD s.port).toUInt64 =
      ((env (lead ++ "_PORT")).bind fun text =>
        (readPort? text).map fun port => .ofUInt64 port.toUInt64).getD (.ofUInt64 s.port.toUInt64)
    cases env (lead ++ "_PORT") with
    | none => rfl
    | some text =>
      rw [Option.bind_some, Option.bind_some]
      cases readPort? text <;> rfl
  | user => exact string_getD _ _
  | password => exact string_getD _ _
  | database => exact string_getD _ _
  | charset => rfl
  | connectionLimit => rfl

theorem connectionLimit_limitTier (env : Environment) (s : ServerSettings) :
    (s.limitTier env).connectionLimit =
      if (env "USING_FREE_TIER").any isOn then some freeTierLimit else s.connectionLimit := by
  unfold limitTier
  split <;> rfl

theorem value_limitTier (env : Environment) (s : ServerSettings) {key : ServerKey}
    (h : key ≠ .connectionLimit) : (s.limitTier env).value key = s.value key := by
  unfold limitTier
  split
  · cases key with
    | connectionLimit => exact absurd rfl h
    | _ => rfl
  · rfl

end ServerSettings

namespace Settings

variable {s t : Settings} {env : Environment}

/-- The value of a leaf. -/
def value (s : Settings) : SettingsKey → Document
  | .debug => .bool s.debug
  | .logLevel => .string s.logLevel
  | .dialect => .string s.database.dialect
  | .queryTrace => .bool s.database.queryTrace
  | .mySql key => s.database.mySql.value key
  | .postgreSql key => s.database.postgreSql.value key
  | .sqlitePath => .string s.database.sqlite.path.text

theorem eq_of_value (h : ∀ key, s.value key = t.value key) : s = t := by
  have hmySql := ServerSettings.eq_of_value fun key => h (.mySql key)
  have hpostgreSql := ServerSettings.eq_of_value fun key => h (.postgreSql key)
  obtain ⟨debug, logLevel, dialect, queryTrace, mySql, postgreSql, ⟨⟨path⟩⟩⟩ := s
  obtain ⟨debug', logLevel', dialect', queryTrace', mySql', postgreSql', ⟨⟨path'⟩⟩⟩ := t
  obtain rfl : mySql = mySql' := hmySql
  obtain rfl : postgreSql = postgreSql' := hpostgreSql
  obtain rfl : debug = debug' := Document.bool.inj (h .debug)
  obtain rfl : logLevel = logLevel' := Document.string.inj (h .logLevel)
  obtain rfl : dialect = dialect' := Document.string.inj (h .dialect)
  obtain rfl : queryTrace = queryTrace' := Document.bool.inj (h .queryTrace)
  obtain rfl : path = path' := Document.string.inj (h .sqlitePath)
  rfl

/-- A leaf takes its value from its own variable or keeps the one it has. -/
theorem value_override (s : Settings) (env : Environment) (key : SettingsKey) :
    (s.override env).value key = (key.given? env).getD (s.value key) := by
  cases key with
  | debug => exact getD_map_read .bool isOn (env "DEBUG") s.debug
  | logLevel => exact string_getD (env "LOG_LEVEL") s.logLevel
  | dialect =>
    exact getD_map_read .string (fun text => Text.lower (Text.trim text)) (env "DATABASE")
      s.database.dialect
  | queryTrace => exact getD_map_read .bool isOn (env "QUERY_TRACE") s.database.queryTrace
  | mySql key =>
    show ((s.database.mySql.override "MYSQL" env).limitTier env).value key = _
    by_cases hkey : key = .connectionLimit
    · subst hkey
      rw [ServerSettings.value, ServerSettings.connectionLimit_limitTier,
        SettingsKey.given?_connectionLimit]
      cases env "USING_FREE_TIER" with
      | none =>
        rw [Option.any_none, if_neg Bool.false_ne_true]
        rfl
      | some text =>
        rw [Option.any_some, Option.bind_some]
        split <;> rfl
    · rw [ServerSettings.value_limitTier env _ hkey, ServerSettings.value_override,
        SettingsKey.given?_mySql env hkey]
      rfl
  | postgreSql key =>
    rw [SettingsKey.given?_postgreSql]
    exact ServerSettings.value_override "POSTGRES" env s.database.postgreSql key
  | sqlitePath =>
    exact getD_map_read (fun path : FilePath => .string path.text) FilePath.mk (env "SQLITE_PATH")
      s.database.sqlite.path

/-- A leaf depends on its own variable only. -/
theorem value_congr {env' : Environment} (key : SettingsKey)
    (h : ∀ name, key.name? = some name → env name = env' name) :
    (s.override env).value key = (s.override env').value key := by
  rw [value_override, value_override, SettingsKey.given?, SettingsKey.given?]
  cases hname : key.name? with
  | none => rfl
  | some name => rw [Option.bind_some, Option.bind_some, h name hname]

/-- What one pass gives the leaves, a second one gives them again. -/
theorem override_override (s : Settings) (env : Environment) :
    (s.override env).override env = s.override env := by
  refine eq_of_value fun key => ?_
  rw [value_override, value_override]
  cases key.given? env <;> rfl

/-- The free tier puts its limit in place of any other. -/
theorem connectionLimit_override (s : Settings) (env : Environment) :
    (s.override env).database.mySql.connectionLimit =
      if (env "USING_FREE_TIER").any isOn then some freeTierLimit
      else s.database.mySql.connectionLimit :=
  ServerSettings.connectionLimit_limitTier env _

/-- The smaller of the limit of the free tier and a limit, none being no limit. -/
def capped (limit : Option UInt64) : UInt64 :=
  limit.elim freeTierLimit fun n => if n < freeTierLimit then n else freeTierLimit

theorem eq_capped_iff {n : UInt64} : freeTierLimit = capped (some n) ↔ freeTierLimit ≤ n := by
  rw [capped, Option.elim_some]
  split
  · next hlt =>
    refine iff_of_false (fun heq => ?_) (UInt64.not_le.mpr hlt)
    exact UInt64.lt_irrefl _ (heq ▸ hlt)
  · next hge => exact iff_of_true rfl (UInt64.not_lt.mp hge)

/-- The environment caps the limit of the MySQL connections on the free tier, and leaves it as it
is otherwise. -/
def TightensPool (s : Settings) (env : Environment) : Prop :=
  (s.override env).database.mySql.connectionLimit =
    if (env "USING_FREE_TIER").any isOn then some (capped s.database.mySql.connectionLimit)
    else s.database.mySql.connectionLimit

instance (s : Settings) (env : Environment) : Decidable (s.TightensPool env) :=
  inferInstanceAs (Decidable (_ = _))

/-- How an environment acts on settings. -/
structure LeafByLeaf (s : Settings) (env : Environment) : Prop where
  /-- A leaf has what its own variable gives it, or else the value it had. -/
  value : ∀ key, (s.override env).value key = (key.given? env).getD (s.value key)
  again : (s.override env).override env = s.override env
  /-- Without its variable a leaf keeps its value. -/
  absent : ∀ key, key.name?.bind env = none → (s.override env).value key = s.value key
  /-- A port keeps its value where the text of its variable does not denote one. -/
  unread : ∀ key text, key = .mySql .port ∨ key = .postgreSql .port →
    key.name?.bind env = some text → (∀ port, ¬ DenotesPort text port) →
    (s.override env).value key = s.value key
  /-- No two leaves share a variable. -/
  own : ∀ (key key' : SettingsKey) (name : String),
    key.name? = some name → key'.name? = some name → key = key'
  /-- Another value of one variable changes at most its own leaf. -/
  others : ∀ env' name, (∀ other, other ≠ name → env other = env' other) →
    ∀ key, key.name? ≠ some name → (s.override env).value key = (s.override env').value key
  mySql_apart : ∀ env', (∀ name, (∀ rest, name ≠ "MYSQL_" ++ rest) → env name = env' name) →
    (s.override env).database.postgreSql = (s.override env').database.postgreSql
  postgreSql_apart : ∀ env',
    (∀ name, (∀ rest, name ≠ "POSTGRES_" ++ rest) → env name = env' name) →
    (s.override env).database.mySql = (s.override env').database.mySql
  /-- No variable but that of the free tier acts on the limit of the MySQL connections. -/
  limit : (s.override env).database.mySql.connectionLimit =
    if (env "USING_FREE_TIER").any isOn then some freeTierLimit
    else s.database.mySql.connectionLimit

theorem leafByLeaf (s : Settings) (env : Environment) : s.LeafByLeaf env where
  value := value_override s env
  again := override_override s env
  absent key h := by
    rw [value_override, SettingsKey.given?, h]
    rfl
  unread key text hport henv htext := by
    have hread : readPort? text = none := by
      rw [← Option.not_isSome_iff_eq_none, Option.isSome_iff_exists]
      rintro ⟨port, hport⟩
      exact htext port (readPort?_eq_some_iff.mp hport)
    have hgiven : key.read? text = (readPort? text).map fun port => .ofUInt64 port.toUInt64 := by
      rcases hport with rfl | rfl <;> rfl
    rw [value_override, SettingsKey.given?, henv, Option.bind_some, hgiven, hread]
    rfl
  own key key' name := SettingsKey.name?_inj
  others env' name h key hkey :=
    value_congr key fun other hother => h other fun heq => hkey (heq ▸ hother)
  mySql_apart env' h := by
    refine ServerSettings.eq_of_value fun key => value_congr (.postgreSql key) ?_
    intro name hname
    refine h name ?_
    rintro rest rfl
    have hhead := SettingsKey.head_name?_postgreSql hname
    rw [String.toList_append] at hhead
    cases hhead
  postgreSql_apart env' h := by
    refine ServerSettings.eq_of_value fun key => value_congr (.mySql key) ?_
    intro name hname
    refine h name ?_
    rintro rest rfl
    have hhead := SettingsKey.head_name?_mySql hname
    rw [String.toList_append] at hhead
    exact hhead rfl
  limit := connectionLimit_override s env

/-- The environment acts on every leaf by itself. On the free tier it does not raise the limit of
the MySQL connections exactly if there is none or it is no less than that of the tier. -/
theorem override_tightens_iff (s : Settings) (env : Environment) :
    s.LeafByLeaf env ∧ (s.TightensPool env ↔ ((env "USING_FREE_TIER").any isOn = true →
      ∀ n, s.database.mySql.connectionLimit = some n → freeTierLimit ≤ n)) := by
  refine ⟨leafByLeaf s env, ?_⟩
  rw [TightensPool, connectionLimit_override]
  cases (env "USING_FREE_TIER").any isOn with
  | false => simp
  | true =>
    cases s.database.mySql.connectionLimit with
    | none => simp [capped]
    | some n => simpa using eq_capped_iff

/-- Settings with a limit of two connections. -/
def smallPool : Settings :=
  { usual with database := { DatabaseSettings.usual with
    mySql := { ServerSettings.mySql with connectionLimit := some 2 } } }

/-- The environment of the free tier and nothing else. -/
def freeTier : Environment
  | "USING_FREE_TIER" => some "true"
  | _ => none

/-- The limit of two connections becomes one of four. -/
theorem override_widens : ¬ smallPool.TightensPool freeTier := by
  decide

end Settings

end FluentSql
