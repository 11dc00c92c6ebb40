import ChainFeed.Config.Variable

/-!
# Telemetry settings

What is logged and how, read from the environment. Nothing in it is ever invalid: a flag that says
neither yes nor no counts as its default.
-/

namespace ChainFeed.Telemetry

structure Settings where
  serviceName : String
  /-- A level or a list of directives. -/
  logLevel : String
  consoleOutput : Bool
  jsonLogs : Bool
  metricsEnabled : Bool
  deriving DecidableEq

namespace Settings

def flagOr (default : Bool) (text : String) : Bool := (Text.flag? text).getD default

/-- Whether the environment is that of a container. -/
def isContainer (env : Environment) : Bool :=
  (env "KUBERNETES_SERVICE_HOST").isSome || (env "DOCKER_CONTAINER").isSome

/-- Logs are written as JSON in containers, unless the environment says otherwise. -/
def ofEnvironment (env : Environment) : Settings where
  serviceName := (env "CC_SERVICE_NAME").getD "chain-conn"
  logLevel := ((env "CC_LOG_LEVEL").or (env "RUST_LOG")).getD "info"
  consoleOutput := ((env "CC_CONSOLE_OUTPUT").map (flagOr true)).getD true
  jsonLogs := ((env "CC_JSON_LOGS").map (flagOr false)).getD (isContainer env)
  metricsEnabled := ((env "CC_METRICS").map (flagOr true)).getD true

end Settings

end ChainFeed.Telemetry
