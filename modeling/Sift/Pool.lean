import Sift.Settings

/-!
# The database pool

The pool of connections is opened at the start, when a database is configured, and closed at the
end. Without an open pool there is no connection. Only Postgres databases can be searched.
-/

namespace Sift

/-- What a pool is created with. -/
structure PoolOptions where
  url : String
  minSize : Int
  maxSize : Int
  commandTimeout : Nat
  deriving DecidableEq, Repr

/-- The settings, whether a pool is open, and the pools created so far. -/
structure Pool where
  settings : Settings
  isOpen : Bool
  created : List PoolOptions
  deriving DecidableEq, Repr

namespace Pool

/-- Why the pool cannot do something. -/
inductive Fault
  | sqliteDatabase
  | unavailable
  deriving DecidableEq, Repr

def Fault.message : Fault → String
  | .sqliteDatabase => "SQL_DIALECT=sqlite cannot be combined with DATABASE_URL " ++
      "(spot search needs PostgreSQL)"
  | .unavailable =>
    "Database pool not initialized. Set DATABASE_URL and call init_pool()."

/-- No pool is open yet. -/
def start (settings : Settings) : Pool := ⟨settings, false, []⟩

/-- What the settings ask for. -/
def options (settings : Settings) : PoolOptions :=
  ⟨settings.databaseUrl, settings.poolMinSize, settings.poolMaxSize, 60⟩

/-- Opens the pool if a database is configured. -/
def opened (pool : Pool) : Except Fault Pool :=
  if pool.settings.databaseUrl = "" then .ok pool
  else if pool.settings.dialect = "sqlite" then .error .sqliteDatabase
  else .ok { pool with isOpen := true, created := pool.created ++ [options pool.settings] }

def closed (pool : Pool) : Pool := { pool with isOpen := false }

/-- A connection is to be had. -/
def connect (pool : Pool) : Except Fault Unit :=
  if pool.isOpen then .ok () else .error .unavailable

end Pool

end Sift
