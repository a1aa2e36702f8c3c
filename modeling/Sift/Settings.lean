import Sift.Dialect
import Sift.Text.Integer

/-!
# Settings

The settings of the service, read from environment variables. A variable that is not set has a
default. The variables are looked at in a fixed order, and the dialect is checked after all of them.
-/

namespace Sift

/-- The settings of the service. -/
structure Settings where
  databaseUrl : String
  poolMinSize : Int
  poolMaxSize : Int
  dialect : String
  textConfig : String
  /-- The shorthand of the default filter. -/
  defaultTree : String
  defaultPageSize : Int
  logLevel : String
  environment : String
  deriving DecidableEq, Repr

namespace Settings

/-- The settings without any variable. -/
def default : Settings where
  databaseUrl := ""
  poolMinSize := 1
  poolMaxSize := 10
  dialect := "postgres"
  textConfig := "simple"
  defaultTree := ""
  defaultPageSize := 25
  logLevel := "INFO"
  environment := "development"

/-- No page is longer. -/
def maxPageSize : Int := 250

/-- The names that the dialect may have. -/
def dialects : List String := ["postgres", "postgresql", "sqlite"]

/-- Why variables give no settings. -/
inductive Fault
  | integer (fault : Integer.Fault)
  | dialect (name : String)
  deriving DecidableEq, Repr

def Fault.message : Fault → String
  | .integer fault => fault.message
  | .dialect name => "SQL_DIALECT must be one of " ++ ", ".intercalate dialects ++ ", got " ++
      Text.quoted name

/-- The settings that variables give. -/
def ofEnvironment (env : List (String × String)) : Except Fault Settings := do
  let text (name fallback : String) : String := (env.lookup name).getD fallback
  let integer (name : String) (fallback : Int) : Except Fault Int :=
    match env.lookup name with
    | some value => (Integer.read value).mapError .integer
    | none => .ok fallback
  let settings : Settings := {
    databaseUrl := text "DATABASE_URL" default.databaseUrl
    poolMinSize := ← integer "DB_POOL_MIN_SIZE" default.poolMinSize
    poolMaxSize := ← integer "DB_POOL_MAX_SIZE" default.poolMaxSize
    dialect := Text.lower (text "SQL_DIALECT" default.dialect)
    textConfig := text "TS_CONFIG" default.textConfig
    defaultTree := text "DEFAULT_FILTER_TREE" default.defaultTree
    defaultPageSize := ← integer "DEFAULT_PAGE_SIZE" default.defaultPageSize
    logLevel := Text.upper (text "LOG_LEVEL" default.logLevel)
    environment := text "ENVIRONMENT" default.environment }
  if dialects.contains settings.dialect then return settings
  else throw (.dialect settings.dialect)

end Settings

end Sift
