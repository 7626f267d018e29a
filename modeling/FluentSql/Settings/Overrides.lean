import FluentSql.Settings.Basic
import FluentSql.Text.Case

/-!
# Overrides from the environment

Variables of the environment replace single settings. Each acts on a setting of its
own; a variable that is not there, or a port that is no number of sixteen bits, leaves
the setting as it is.
-/

namespace FluentSql

/-- The value of each variable that is set. -/
abbrev Environment := String → Option String

/-- Whether a variable is switched on. -/
def isOn (value : String) : Bool :=
  let word := Text.lower (Text.trim value)
  word == "true" || word == "1" || word == "yes" || word == "on"

/-- The number of connections on a constrained hosting tier. -/
def freeTierLimit : UInt64 := 4

def readPort? (value : String) : Option UInt16 :=
  (Integer.readUnsigned? 65535 value).map UInt16.ofNat

/-- The variables of one server, whose names start alike. -/
def ServerSettings.override (lead : String) (env : Environment) (s : ServerSettings) :
    ServerSettings :=
  { s with
    host := (env (lead ++ "_HOST")).getD s.host
    port := ((env (lead ++ "_PORT")).bind readPort?).getD s.port
    user := (env (lead ++ "_USER")).getD s.user
    password := (env (lead ++ "_PASSWORD")).getD s.password
    database := (env (lead ++ "_DB")).getD s.database }

/-- The free tier sets the limit of connections. -/
def ServerSettings.limitTier (env : Environment) (s : ServerSettings) : ServerSettings :=
  if (env "USING_FREE_TIER").any isOn then { s with connectionLimit := some freeTierLimit } else s

def DatabaseSettings.override (env : Environment) (s : DatabaseSettings) : DatabaseSettings where
  dialect := ((env "DATABASE").map fun name => Text.lower (Text.trim name)).getD s.dialect
  queryTrace := ((env "QUERY_TRACE").map isOn).getD s.queryTrace
  mySql := (s.mySql.override "MYSQL" env).limitTier env
  postgreSql := s.postgreSql.override "POSTGRES" env
  sqlite := ⟨((env "SQLITE_PATH").map FilePath.mk).getD s.sqlite.path⟩

def Settings.override (env : Environment) (s : Settings) : Settings where
  debug := ((env "DEBUG").map isOn).getD s.debug
  logLevel := (env "LOG_LEVEL").getD s.logLevel
  database := s.database.override env

end FluentSql
