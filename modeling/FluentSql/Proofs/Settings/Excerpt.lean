import FluentSql.Proofs.Document.Overlay
import FluentSql.Proofs.Document.Reading
import FluentSql.Settings.Load

/-!
# Loading an excerpt

Settings are loaded from a document that holds some of their leaves, in any order, and may leave
out sections without one. They then have the values of the document at its leaves and the default
values at all others.
-/

namespace FluentSql

/-- The leaves of the settings of a server. -/
inductive ServerKey where
  | host
  | port
  | user
  | password
  | database
  | charset
  | connectionLimit
  deriving DecidableEq

/-- The leaves of the settings. -/
inductive SettingsKey where
  | debug
  | logLevel
  | dialect
  | queryTrace
  | mySql (key : ServerKey)
  | postgreSql (key : ServerKey)
  | sqlitePath
  deriving DecidableEq

open Document (keep Overlaid)

namespace ServerKey

def name : ServerKey → String
  | host => "host"
  | port => "port"
  | user => "user"
  | password => "password"
  | database => "database"
  | charset => "charset"
  | connectionLimit => "connection_limit"

/-- All leaves in the order of their names. -/
def ordered : List ServerKey :=
  [charset, connectionLimit, database, host, password, port, user]

theorem ordered_ascend : (ordered.map name).Pairwise (· < ·) := by decide

end ServerKey

namespace ServerSettings

/-- The value of a leaf. -/
def value (s : ServerSettings) : ServerKey → Document
  | .host => .string s.host
  | .port => .ofUInt64 s.port.toUInt64
  | .user => .string s.user
  | .password => .string s.password
  | .database => .string s.database
  | .charset => s.charset.elim .null .string
  | .connectionLimit => s.connectionLimit.elim .null .ofUInt64

/-- The settings with some of their leaves over others. -/
def laidOver (s : ServerSettings) (kept : ServerKey → Bool) (base : ServerSettings) :
    ServerSettings where
  host := if kept .host then s.host else base.host
  port := if kept .port then s.port else base.port
  user := if kept .user then s.user else base.user
  password := if kept .password then s.password else base.password
  database := if kept .database then s.database else base.database
  charset := if kept .charset then s.charset else base.charset
  connectionLimit := if kept .connectionLimit then s.connectionLimit else base.connectionLimit

/-- The fields of a document that has the kept leaves. -/
def parts (s : ServerSettings) (kept : ServerKey → Bool) : List (String × Option Document) :=
  ServerKey.ordered.map fun key => (key.name, keep (kept key) (s.value key))

/-- The document has the kept leaves and nothing else. -/
def Shows (s : ServerSettings) (kept : ServerKey → Bool) (d : Option Document) : Prop :=
  Document.Shows (s.parts kept) d

/-- The kept leaves in their order. -/
def excerpt (s : ServerSettings) (kept : ServerKey → Bool) : Document :=
  .object (Document.present (s.parts kept))

variable {s base : ServerSettings} {kept : ServerKey → Bool} {d : Option Document}

theorem toDocument_eq (s : ServerSettings) :
    s.toDocument = .object (ServerKey.ordered.map fun key => (key.name, s.value key)) :=
  rfl

theorem value_laidOver (key : ServerKey) :
    (s.laidOver kept base).value key = if kept key then s.value key else base.value key := by
  cases key <;> simp only [laidOver, value] <;> split <;> rfl

/-- A leaf is no object: laid over another value it takes its place. -/
theorem merge_value (other : Document) (key : ServerKey) :
    other.merge (s.value key).normalize = s.value key := by
  cases key with
  | charset => cases hcharset : s.charset <;> simp only [value, hcharset] <;> rfl
  | connectionLimit => cases hlimit : s.connectionLimit <;> simp only [value, hlimit] <;> rfl
  | _ => rfl

theorem shallow_value (key : ServerKey) : (s.value key).Shallow 0 := by
  cases key with
  | charset => cases hcharset : s.charset <;> simp only [value, hcharset] <;> exact ⟨rfl, le_rfl⟩
  | connectionLimit =>
    cases hlimit : s.connectionLimit <;> simp only [value, hlimit] <;> exact ⟨rfl, le_rfl⟩
  | _ => exact ⟨rfl, le_rfl⟩

/-- What is laid over the leaves of other settings. -/
def overlaid (s : ServerSettings) (kept : ServerKey → Bool) (base : ServerSettings) :
    List Overlaid :=
  ServerKey.ordered.map fun key => ⟨key.name, base.value key, keep (kept key) (s.value key)⟩

theorem merged_shows (h : s.Shows kept d) (key : String) :
    Overlaid.merged ⟨key, base.toDocument, d⟩ = (s.laidOver kept base).toDocument := by
  have hsection := Overlaid.merged_section (s.overlaid kept base) key
    (Document.keysAscend_of_keys ServerKey.ordered_ascend) h
  rw [toDocument_eq, toDocument_eq]
  refine hsection.trans ?_
  rw [Overlaid.mergedFields, overlaid, List.map_map]
  congr 1
  refine List.map_congr_left fun key _ => ?_
  rw [value_laidOver]
  exact congrArg (key.name, ·) (Overlaid.merged_keep (merge_value _ key) _)

theorem shallow_shows {d : Document} (h : s.Shows kept (some d)) : d.Shallow 1 := by
  refine Document.Shows.shallow h ?_
  rw [parts, List.forall_mem_map]
  exact fun key _ _ hvalue => Document.shallow_of_keep (shallow_value key) hvalue

end ServerSettings

namespace Document

theorem decodePort_ofUInt64 (port : UInt16) : decodePort (ofUInt64 port.toUInt64) = .ok port := by
  have hword : port.toUInt64.toNat = port.toNat := UInt16.toNat_toUInt64 port
  have hlt := port.toNat_lt
  unfold decodePort ofUInt64
  dsimp only
  rw [if_pos (by omega), Int.toNat_natCast, hword, UInt16.ofNat_toNat]

theorem decodeSize_ofUInt64 (n : UInt64) : decodeSize (ofUInt64 n) = .ok n := by
  unfold decodeSize ofUInt64
  dsimp only
  rw [if_pos (by omega), Int.toNat_natCast, UInt64.ofNat_toNat]

theorem decodeOption_string (s : Option String) :
    decodeOption decodeString (s.elim .null .string) = .ok s := by
  cases s <;> rfl

theorem decodeOption_size (n : Option UInt64) :
    decodeOption decodeSize (n.elim .null .ofUInt64) = .ok n := by
  cases n with
  | none => rfl
  | some n => exact congrArg (Except.map some) (decodeSize_ofUInt64 n)

end Document

theorem ServerSettings.ofDocument_toDocument (s : ServerSettings) :
    ofDocument s.toDocument = .ok s := by
  simp only [ofDocument, toDocument, Document.decodeRecord, Document.decodeFields,
    List.foldlM_cons, List.foldlM_nil, setField]
  rw [Document.decodeOption_string, Document.decodeOption_size, Document.decodePort_ofUInt64]
  rfl

namespace SqliteSettings

def parts (s : SqliteSettings) (kept : Bool) : List (String × Option Document) :=
  [("path", keep kept (.string s.path.text))]

/-- The document has the path if it is kept, and nothing else. -/
def Shows (s : SqliteSettings) (kept : Bool) (d : Option Document) : Prop :=
  Document.Shows (s.parts kept) d

def excerpt (s : SqliteSettings) (kept : Bool) : Document :=
  .object (Document.present (s.parts kept))

variable {s base : SqliteSettings} {kept : Bool}

theorem merged_shows {d : Option Document} (h : s.Shows kept d) (key : String) :
    Overlaid.merged ⟨key, base.toDocument, d⟩ = (if kept then s else base).toDocument := by
  have hsection := Overlaid.merged_section
    [⟨"path", .string base.path.text, keep kept (.string s.path.text)⟩] key rfl h
  refine hsection.trans ?_
  cases kept <;> rfl

theorem shallow_shows {d : Document} (h : s.Shows kept (some d)) : d.Shallow 1 := by
  refine Document.Shows.shallow h ?_
  rw [parts, List.forall_mem_singleton]
  exact fun _ hvalue => Document.shallow_of_keep ⟨rfl, le_rfl⟩ hvalue

end SqliteSettings

namespace DatabaseSettings

theorem ofDocument_toDocument (s : DatabaseSettings) : ofDocument s.toDocument = .ok s := by
  simp only [ofDocument, toDocument, Document.decodeRecord, Document.decodeFields,
    List.foldlM_cons, List.foldlM_nil, setField, ServerSettings.ofDocument_toDocument]
  rfl

/-- The settings with some of their leaves over others. -/
def laidOver (s : DatabaseSettings) (kept : SettingsKey → Bool) (base : DatabaseSettings) :
    DatabaseSettings where
  dialect := if kept .dialect then s.dialect else base.dialect
  queryTrace := if kept .queryTrace then s.queryTrace else base.queryTrace
  mySql := s.mySql.laidOver (fun key => kept (.mySql key)) base.mySql
  postgreSql := s.postgreSql.laidOver (fun key => kept (.postgreSql key)) base.postgreSql
  sqlite := if kept .sqlitePath then s.sqlite else base.sqlite

theorem ordered_ascend :
    ["dialect", "mysql", "postgresql", "query_trace", "sqlite"].Pairwise (· < ·) := by decide

/-- The fields of a document that has the kept leaves, with what stands for the sections. -/
def parts (s : DatabaseSettings) (kept : SettingsKey → Bool)
    (mySql postgreSql sqlite : Option Document) : List (String × Option Document) := [
  ("dialect", keep (kept .dialect) (.string s.dialect)),
  ("mysql", mySql),
  ("postgresql", postgreSql),
  ("query_trace", keep (kept .queryTrace) (.bool s.queryTrace)),
  ("sqlite", sqlite)]

/-- The document has the kept leaves and nothing else but sections. -/
def Shows (s : DatabaseSettings) (kept : SettingsKey → Bool) (d : Option Document) : Prop :=
  ∃ mySql postgreSql sqlite,
    s.mySql.Shows (fun key => kept (.mySql key)) mySql ∧
    s.postgreSql.Shows (fun key => kept (.postgreSql key)) postgreSql ∧
    s.sqlite.Shows (kept .sqlitePath) sqlite ∧
    Document.Shows (s.parts kept mySql postgreSql sqlite) d

/-- The kept leaves in their order, with all sections. -/
def excerpt (s : DatabaseSettings) (kept : SettingsKey → Bool) : Document :=
  .object (Document.present (s.parts kept (s.mySql.excerpt fun key => kept (.mySql key))
    (s.postgreSql.excerpt fun key => kept (.postgreSql key))
    (s.sqlite.excerpt (kept .sqlitePath))))

theorem shows_excerpt (s : DatabaseSettings) (kept : SettingsKey → Bool) :
    s.Shows kept (some (s.excerpt kept)) :=
  ⟨_, _, _, .object (List.Perm.refl _), .object (List.Perm.refl _), .object (List.Perm.refl _),
    .object (List.Perm.refl _)⟩

variable {s base : DatabaseSettings} {kept : SettingsKey → Bool} {d : Option Document}

theorem merged_shows (h : s.Shows kept d) (key : String) :
    Overlaid.merged ⟨key, base.toDocument, d⟩ = (s.laidOver kept base).toDocument := by
  obtain ⟨mySql, postgreSql, sqlite, hmySql, hpostgreSql, hsqlite, hd⟩ := h
  have hsection := Overlaid.merged_section [
      ⟨"dialect", .string base.dialect, keep (kept .dialect) (.string s.dialect)⟩,
      ⟨"mysql", base.mySql.toDocument, mySql⟩,
      ⟨"postgresql", base.postgreSql.toDocument, postgreSql⟩,
      ⟨"query_trace", .bool base.queryTrace, keep (kept .queryTrace) (.bool s.queryTrace)⟩,
      ⟨"sqlite", base.sqlite.toDocument, sqlite⟩] key
    (Document.keysAscend_of_keys ordered_ascend) hd
  refine hsection.trans ?_
  simp only [Overlaid.mergedFields, List.map_cons, List.map_nil]
  rw [Overlaid.merged_keep rfl, ServerSettings.merged_shows hmySql,
    ServerSettings.merged_shows hpostgreSql, Overlaid.merged_keep rfl,
    SqliteSettings.merged_shows hsqlite]
  unfold toDocument laidOver
  cases kept .dialect <;> cases kept .queryTrace <;> rfl

theorem shallow_shows {d : Document} (h : s.Shows kept (some d)) : d.Shallow 2 := by
  obtain ⟨mySql, postgreSql, sqlite, hmySql, hpostgreSql, hsqlite, hd⟩ := h
  refine Document.Shows.shallow hd ?_
  simp only [parts, List.forall_mem_cons]
  refine ⟨fun _ => Document.shallow_of_keep (Document.shallow_string _ 1), ?_, ?_,
    fun _ => Document.shallow_of_keep (Document.shallow_bool _ 1), ?_, List.forall_mem_nil _⟩
  · rintro _ rfl
    exact ServerSettings.shallow_shows hmySql
  · rintro _ rfl
    exact ServerSettings.shallow_shows hpostgreSql
  · rintro _ rfl
    exact SqliteSettings.shallow_shows hsqlite

end DatabaseSettings

namespace Settings

theorem ofDocument_toDocument (s : Settings) : ofDocument s.toDocument = .ok s := by
  simp only [ofDocument, toDocument, Document.decodeRecord, Document.decodeFields,
    List.foldlM_cons, List.foldlM_nil, setField, DatabaseSettings.ofDocument_toDocument]
  rfl

/-- The settings with some of their leaves over others. -/
def laidOver (s : Settings) (kept : SettingsKey → Bool) (base : Settings) : Settings where
  debug := if kept .debug then s.debug else base.debug
  logLevel := if kept .logLevel then s.logLevel else base.logLevel
  database := s.database.laidOver kept base.database

theorem ordered_ascend : ["database", "debug", "log_level"].Pairwise (· < ·) := by decide

/-- The fields of a document that has the kept leaves, with what stands for the database. -/
def parts (s : Settings) (kept : SettingsKey → Bool) (database : Option Document) :
    List (String × Option Document) := [
  ("database", database),
  ("debug", keep (kept .debug) (.bool s.debug)),
  ("log_level", keep (kept .logLevel) (.string s.logLevel))]

/-- The document has the kept leaves and nothing else but sections. -/
def Shows (s : Settings) (kept : SettingsKey → Bool) (d : Document) : Prop :=
  ∃ database, s.database.Shows kept database ∧ Document.Shows (s.parts kept database) (some d)

variable {s base : Settings} {kept : SettingsKey → Bool} {d : Document}

theorem merge_shows (h : s.Shows kept d) :
    base.toDocument.merge d.normalize = (s.laidOver kept base).toDocument := by
  obtain ⟨database, hdatabase, hd⟩ := h
  have hsection := Overlaid.merged_section [
      ⟨"database", base.database.toDocument, database⟩,
      ⟨"debug", .bool base.debug, keep (kept .debug) (.bool s.debug)⟩,
      ⟨"log_level", .string base.logLevel, keep (kept .logLevel) (.string s.logLevel)⟩] ""
    (Document.keysAscend_of_keys ordered_ascend) hd
  refine hsection.trans ?_
  simp only [Overlaid.mergedFields, List.map_cons, List.map_nil]
  rw [DatabaseSettings.merged_shows hdatabase, Overlaid.merged_keep rfl, Overlaid.merged_keep rfl]
  unfold toDocument laidOver
  cases kept .debug <;> cases kept .logLevel <;> rfl

theorem shallow_shows (h : s.Shows kept d) : d.Shallow 3 := by
  obtain ⟨database, hdatabase, hd⟩ := h
  refine Document.Shows.shallow hd ?_
  simp only [parts, List.forall_mem_cons]
  refine ⟨?_, fun _ => Document.shallow_of_keep (Document.shallow_bool _ 2),
    fun _ => Document.shallow_of_keep (Document.shallow_string _ 2), List.forall_mem_nil _⟩
  rintro _ rfl
  exact DatabaseSettings.shallow_shows hdatabase

theorem load_shows (h : s.Shows kept d) : load .json d.write = .ok (s.laidOver kept usual) := by
  obtain ⟨hexact, hnesting⟩ := shallow_shows h
  have hread := OrderedDocument.read?_write hexact (Nat.lt_of_le_of_lt hnesting (by decide))
  have hmerge : usual.toDocument.merge d.normalize = (s.laidOver kept usual).toDocument :=
    merge_shows h
  unfold load
  rw [SettingsFormat.read?, hread]
  dsimp only
  rw [ofOverlay, OrderedDocument.ofDocument, hmerge, ofDocument_toDocument]
  rfl

/-- The kept leaves in their order, with all sections. -/
def excerpt (s : Settings) (kept : SettingsKey → Bool) : Document :=
  .object (Document.present (s.parts kept (s.database.excerpt kept)))

theorem shows_excerpt (s : Settings) (kept : SettingsKey → Bool) : s.Shows kept (s.excerpt kept) :=
  ⟨_, DatabaseSettings.shows_excerpt s.database kept, .object (List.Perm.refl _)⟩

/-- How settings come back from the documents that show some of their leaves. -/
structure ComesBack (s : Settings) : Prop where
  /-- There is a document for any choice of leaves. -/
  shown : ∀ kept, s.Shows kept (s.excerpt kept)
  /-- The leaves of a document are loaded as they are, all others have the default values. -/
  loaded : ∀ kept d, s.Shows kept d → load .json d.write = .ok (s.laidOver kept usual)
  /-- The document of all leaves is loaded as the settings. -/
  whole : load .json s.toDocument.write = .ok s

theorem comesBack (s : Settings) : s.ComesBack where
  shown := shows_excerpt s
  loaded _ _ := load_shows
  whole := load_shows (shows_excerpt s fun _ => true)

/-- The default MySQL character set and nothing else; the sections without a leaf are empty. -/
example : (usual.excerpt fun key => key == .mySql .charset).write =
    "\x7b\"database\":\x7b\"mysql\":\x7b\"charset\":\"utf8mb4\"\x7d," ++
      "\"postgresql\":\x7b\x7d,\"sqlite\":\x7b\x7d\x7d\x7d" := by
  rfl

end Settings

end FluentSql
