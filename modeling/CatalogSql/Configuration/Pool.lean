import CatalogSql.Json.Decoder

/-!
# Pool settings

How many connections are kept and for how long. Times are in seconds; the ones that may
be absent are then unlimited.
-/

namespace CatalogSql

open Json (Decoder)

/-- The settings of a connection pool. -/
structure PoolSettings where
  maxConnections : UInt32
  acquireTimeout : UInt64
  idleTimeout : Option UInt64
  connectionLifetime : Option UInt64
deriving DecidableEq, Repr

namespace PoolSettings

/-- The settings of a configuration that gives none. -/
def standard : PoolSettings := ⟨50, 600, some 180, some 600⟩

instance : Inhabited PoolSettings := ⟨standard⟩

/-- What has been read of the settings. -/
structure Draft where
  maxConnections : Option UInt32
  acquireTimeout : Option UInt64
  idleTimeout : Option (Option UInt64)
  connectionLifetime : Option (Option UInt64)

/-- Reads a number of 32 bits. -/
def count : Decoder UInt32 := fun origin node =>
  (Decoder.natural (Nat.pow 2 32) "u32" origin node).map UInt32.ofNat

/-- Reads a number of 64 bits. -/
def seconds : Decoder UInt64 := fun origin node =>
  (Decoder.natural (Nat.pow 2 64) "u64" origin node).map UInt64.ofNat

/-- How settings are read; any of them may be left out. -/
def record : Decoder.Record Draft PoolSettings where
  name := "PoolSettings"
  fields :=
    [(Decoder.Field.of "maxConnections" (·.maxConnections)
        (fun draft value => { draft with maxConnections := some value }) count).defaulted,
      (Decoder.Field.of "poolTimeout" (·.acquireTimeout)
        (fun draft value => { draft with acquireTimeout := some value }) seconds).defaulted,
      (Decoder.Field.of "idleTimeout" (·.idleTimeout)
        (fun draft value => { draft with idleTimeout := some value })
        (Decoder.option seconds)).defaulted,
      (Decoder.Field.of "connectionLifetime" (·.connectionLifetime)
        (fun draft value => { draft with connectionLifetime := some value })
        (Decoder.option seconds)).defaulted]
  draft := ⟨none, none, none, none⟩
  complete draft :=
    .ok ⟨draft.maxConnections.getD standard.maxConnections,
      draft.acquireTimeout.getD standard.acquireTimeout,
      draft.idleTimeout.getD standard.idleTimeout,
      draft.connectionLifetime.getD standard.connectionLifetime⟩

/-- Reads settings. -/
def decoder : Decoder PoolSettings := record.decoder

/-- The written form of a time that may be absent. -/
def secondsJson : Option UInt64 → Json :=
  Json.optional fun value => .integer value.toNat

/-- The written form. -/
def toJson (settings : PoolSettings) : Json :=
  .object
    [("maxConnections", .integer settings.maxConnections.toNat),
      ("poolTimeout", .integer settings.acquireTimeout.toNat),
      ("idleTimeout", secondsJson settings.idleTimeout),
      ("connectionLifetime", secondsJson settings.connectionLifetime)]

end PoolSettings

end CatalogSql
