import TableView.Json.Decode

/-! Options of a SQLite store and what a connection makes of them. -/
namespace TableView.Sqlite

structure Options where
  maxConnections : UInt32 := 10
  connectionTimeoutMs : UInt64 := 30000
  busyTimeoutMs : UInt32 := 5000
  enableWal : Bool := true
  enableForeignKeys : Bool := true
deriving DecidableEq, Repr

namespace Options
open Json

def uint64? (j : Json) : Option UInt64 := (j.nat?).map UInt64.ofNat

def ofJson? (j : Json) : Option Options := do
  let ms ← members? ["max_connections", "connection_timeout_ms", "busy_timeout_ms", "enable_wal",
    "enable_foreign_keys"] j
  return {
    maxConnections := ← defaulted? ms "max_connections" uint32? 10
    connectionTimeoutMs := ← defaulted? ms "connection_timeout_ms" uint64? 30000
    busyTimeoutMs := ← defaulted? ms "busy_timeout_ms" uint32? 5000
    enableWal := ← defaulted? ms "enable_wal" bool? true
    enableForeignKeys := ← defaulted? ms "enable_foreign_keys" bool? true }

def toJson (o : Options) : Json :=
  .obj [("busy_timeout_ms", .nat o.busyTimeoutMs.toNat),
    ("connection_timeout_ms", .nat o.connectionTimeoutMs.toNat),
    ("enable_foreign_keys", .bool o.enableForeignKeys), ("enable_wal", .bool o.enableWal),
    ("max_connections", .nat o.maxConnections.toNat)]

def describe (o : Options) : String :=
  "SqliteStoreConfig \x7b max_connections: " ++ toString o.maxConnections.toNat ++
    ", connection_timeout_ms: " ++ toString o.connectionTimeoutMs.toNat ++
    ", busy_timeout_ms: " ++ toString o.busyTimeoutMs.toNat ++
    ", enable_wal: " ++ toString o.enableWal ++
    ", enable_foreign_keys: " ++ toString o.enableForeignKeys ++ " \x7d"

end Options

/-- An open store; one in memory has a single connection and the default options. -/
structure Opened where
  options : Options
  inMemory : Bool

namespace Opened

def memory : Opened := ⟨{ maxConnections := 1 }, true⟩

def file (o : Options) : Opened := ⟨o, false⟩

/-- A store in memory keeps no journal on disk. -/
def journalMode (o : Opened) : String :=
  if o.inMemory then "memory" else if o.options.enableWal then "wal" else "delete"

/-- Foreign keys are enforced from the start; the option can only turn them on. -/
def foreignKeys (_ : Opened) : Nat := 1

def busyTimeout (o : Opened) : Nat := o.options.busyTimeoutMs.toNat

def describe (o : Opened) : String :=
  "SqliteStore \x7b config: " ++ o.options.describe ++ ", is_memory: " ++ toString o.inMemory ++
    ", associations: 0, .. \x7d"

end Opened
end TableView.Sqlite
