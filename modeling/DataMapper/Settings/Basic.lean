/-! # Settings

The settings of an application: its name and environment, its database and its
telemetry. Every key has a default.
-/
namespace DataMapper

structure AppSettings where
  name : String := "tabula"
  environment : String := "development"
deriving DecidableEq

structure DatabaseSettings where
  url : String := "sqlite://tabula.db?mode=rwc"
  minConnections : UInt32 := 1
  maxConnections : UInt32 := 10
  connectTimeoutSecs : UInt64 := 30
  idleTimeoutSecs : UInt64 := 600
  logQueries : Bool := false
deriving DecidableEq

namespace DatabaseSettings

/-- A private database in memory, which every further connection would open anew. -/
def inMemory : DatabaseSettings where
  url := "sqlite::memory:"
  minConnections := 1
  maxConnections := 1
  idleTimeoutSecs := 0

/-- The seconds after which an idle connection is closed; 0 stands for never. -/
def idleTimeout? (d : DatabaseSettings) : Option UInt64 :=
  if d.idleTimeoutSecs = 0 then none else some d.idleTimeoutSecs

end DatabaseSettings

structure TelemetrySettings where
  filter : String := "info,tabula=debug"
  json : Bool := false
  withTarget : Bool := true
deriving DecidableEq

structure Settings where
  app : AppSettings := {}
  database : DatabaseSettings := {}
  telemetry : TelemetrySettings := {}
deriving DecidableEq

end DataMapper
