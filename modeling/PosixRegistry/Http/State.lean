import PosixRegistry.Config.Settings
import PosixRegistry.Registry.Store
import PosixRegistry.Text.Debug
import PosixRegistry.Text.Quote
import PosixRegistry.Token.Jwt
/-!
# The application state

What every request handler shares: the service context (the registry, which the repositories
read and the store writes, and the range policy), the settings, and the token checker made from
the settings' secret and leeway.

The state's debug text shows the service context and the token checker, with the settings
written as the placeholder `"AppConfig"`. The service context shows its range policy, with the
repositories and the store as placeholders, and the token checker shows its leeway only. Ranges,
range tables and policies show all their fields.
-/

namespace PosixRegistry

/-- What the services are given: the registry and the range policy. -/
structure ServiceContext where
  registry : Registry
  policy : RangePolicy

/-- The state shared by the request handlers. -/
structure AppState where
  serviceContext : ServiceContext
  config : AppConfig
  tokens : TokenService

/-- The state over a service context and settings; its token checker takes the settings' secret
and leeway. -/
def AppState.new (ctx : ServiceContext) (config : AppConfig) : AppState :=
  { serviceContext := ctx, config, tokens := ⟨config.jwtSecret, config.leewaySecs⟩ }

/-! ### Debug texts -/

/-- The debug text of a range. -/
def IdRange.debugText (r : IdRange) : String :=
  Text.debugRecord "IdRange" [("min", toString r.min), ("max", toString r.max)]

/-- The debug text of a range table. -/
def RangeTable.debugText (t : RangeTable) : String :=
  Text.debugRecord "RangeTable" [("system", t.system.debugText), ("people", t.people.debugText),
    ("service", t.service.debugText), ("database", t.database.debugText)]

/-- The debug text of a range policy. -/
def RangePolicy.debugText (p : RangePolicy) : String :=
  Text.debugRecord "RangePolicy" [("uid", p.uid.debugText), ("gid", p.gid.debugText)]

/-- The debug text of a service context. -/
def ServiceContext.debugText (c : ServiceContext) : String :=
  Text.debugRecord "ServiceContext" [("repositories", Text.quote "..."),
    ("store", Text.quote "RegistryStore"), ("range_policy", c.policy.debugText)]

/-- The debug text of a token checker: its leeway, and not its keys. -/
def TokenService.debugText (t : TokenService) : String :=
  Text.debugRecordOpen "JwtService" [("leeway_secs", toString t.leewaySecs)]

/-- The debug text of the state. -/
def AppState.debugText (s : AppState) : String :=
  Text.debugRecord "AppState" [("service_context", s.serviceContext.debugText),
    ("config", Text.quote "AppConfig"), ("jwt_service", s.tokens.debugText)]

end PosixRegistry
