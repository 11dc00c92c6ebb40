import ChainFeed.Telemetry.Filter
import ChainFeed.Telemetry.Settings

/-!
# Installing telemetry

A process has one place for a logger and one for each metric, and neither is given away twice. The
filter is looked at first.
-/

namespace ChainFeed.Telemetry

inductive Fault where
  | badFilter
  | loggerInstalled
  | metricsRegistered
  deriving DecidableEq

def Fault.message : Fault → String
  | badFilter => "Invalid configuration: bad log filter: invalid filter directive"
  | loggerInstalled =>
    "Failed to initialize logging: a global default trace dispatcher has already been set"
  | metricsRegistered =>
    "Failed to initialize Prometheus metrics: Duplicate metrics collector registration attempted"

structure Installed where
  logger : Bool
  metrics : Bool
  deriving DecidableEq

def installLogger (s : Settings) (p : Installed) : Except Fault Installed :=
  if (readFilter? s.logLevel).isNone then .error .badFilter
  else if p.logger then .error .loggerInstalled
  else .ok { p with logger := true }

def registerMetrics (p : Installed) : Except Fault Installed :=
  if p.metrics then .error .metricsRegistered else .ok { p with metrics := true }

def install (s : Settings) (p : Installed) : Except Fault Installed := do
  let p ← installLogger s p
  if s.metricsEnabled then registerMetrics p else return p

end ChainFeed.Telemetry
