import CatalogSql.Access.Call
import CatalogSql.Access.Place
import CatalogSql.Configuration.Basic

/-!
# Connections

A bridge is a scope with a database behind it. It is made from a resolved configuration
when the first connection of the pool succeeds.
-/

namespace CatalogSql

/-- Why there is no bridge. -/
inductive ConnectError where
  | address (fault : AddressFault)
  | unreached (cause : String)
  | refused (message : String)
  | timedOut
deriving DecidableEq, Repr

namespace ConnectError

/-- The words for an error. -/
def message (error : ConnectError) : String :=
  "unable to initialize connection pool: " ++ match error with
    | .address fault => fault.message
    | .unreached cause => "error communicating with database: " ++ cause
    | .refused message => "error returned from database: " ++ message
    | .timedOut => "pool timed out while waiting for an open connection"

end ConnectError

/-- The databases that can be reached, each with its state. -/
structure Network (σ : Type) where
  reach : DatabasePlace → Except ConnectError (Database σ × σ)

namespace Network

/-- The network of a machine that is not connected to any, not even to itself. -/
def none : Network Unit where
  reach
    | .server _ _ => .error (.unreached "Network is unreachable (os error 101)")
    | .socket _ => .error (.unreached "No such file or directory (os error 2)")

end Network

/-- A scope with a database behind it. -/
structure Bridge (σ : Type) where
  scope : Scope
  pool : PoolSettings
  database : Database σ
  state : σ

namespace RuntimeConfiguration

variable {σ : Type}

/-- Connects to the database of a configuration. A pool that may not hold a connection,
or has no time to make one, gives up waiting. -/
def connect (configuration : RuntimeConfiguration) (network : Network σ) :
    Except ConnectError (Bridge σ) := do
  let place ← (DatabasePlace.ofText configuration.connectionUri).mapError .address
  if configuration.pool.maxConnections = 0 ∨ configuration.pool.acquireTimeout = 0 then
    throw .timedOut
  let (database, state) ← network.reach place
  return ⟨⟨configuration.catalog, configuration.schema⟩, configuration.pool, database, state⟩

end RuntimeConfiguration

end CatalogSql
