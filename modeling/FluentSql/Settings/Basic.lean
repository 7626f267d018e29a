import FluentSql.Document.Basic
import FluentSql.Number.Integer
import FluentSql.Error
import FluentSql.Settings.Path

/-!
# Settings

Switches for logging, the chosen dialect, and what is needed to connect to each kind
of database. The defaults describe a local setup on a SQLite file.
-/

namespace FluentSql

structure ServerSettings where
  host : String
  port : UInt16
  user : String
  password : String
  database : String
  charset : Option String
  connectionLimit : Option UInt64
  deriving DecidableEq

namespace ServerSettings

def mySql : ServerSettings :=
  ⟨"localhost", 3306, "root", "", "express", some "utf8mb4", none⟩

def postgreSql : ServerSettings :=
  ⟨"localhost", 5432, "postgres", "", "express", none, none⟩

/-- The address of a MySQL server with its credentials. -/
def url (s : ServerSettings) : String :=
  "mysql://" ++ s.user ++ ":" ++ s.password ++ "@" ++ s.host ++ ":" ++
    natText s.port.toNat ++ "/" ++ s.database

def toDocument (s : ServerSettings) : Document :=
  .object [
    ("charset", s.charset.elim .null .string),
    ("connection_limit", s.connectionLimit.elim .null .ofUInt64),
    ("database", .string s.database),
    ("host", .string s.host),
    ("password", .string s.password),
    ("port", .ofUInt64 s.port.toUInt64),
    ("user", .string s.user)]

end ServerSettings

structure SqliteSettings where
  path : FilePath
  deriving BEq

namespace SqliteSettings

def usual : SqliteSettings :=
  ⟨⟨"database/database.sqlite"⟩⟩

def toDocument (s : SqliteSettings) : Document :=
  .object [("path", .string s.path.text)]

end SqliteSettings

structure DatabaseSettings where
  /-- The name of the dialect. -/
  dialect : String
  /-- Log every statement with its values. -/
  queryTrace : Bool
  mySql : ServerSettings
  postgreSql : ServerSettings
  sqlite : SqliteSettings
  deriving BEq

namespace DatabaseSettings

def usual : DatabaseSettings :=
  ⟨"sqlite", false, .mySql, .postgreSql, .usual⟩

/-- The defaults with a SQLite database in memory. -/
def inMemory : DatabaseSettings :=
  { usual with sqlite := ⟨⟨":memory:"⟩⟩ }

def toDocument (s : DatabaseSettings) : Document :=
  .object [
    ("dialect", .string s.dialect),
    ("mysql", s.mySql.toDocument),
    ("postgresql", s.postgreSql.toDocument),
    ("query_trace", .bool s.queryTrace),
    ("sqlite", s.sqlite.toDocument)]

end DatabaseSettings

structure Settings where
  debug : Bool
  logLevel : String
  database : DatabaseSettings
  deriving BEq

namespace Settings

def usual : Settings :=
  ⟨true, "info", .usual⟩

/-- The settings as a document with ordered keys. -/
def toDocument (s : Settings) : Document :=
  .object [
    ("database", s.database.toDocument),
    ("debug", .bool s.debug),
    ("log_level", .string s.logLevel)]

end Settings

end FluentSql
