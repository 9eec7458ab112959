import ClientWiring.Client.Hook
import ClientWiring.Client.Interface
import ClientWiring.Tls.Context
import ClientWiring.Url.Basic
import ClientWiring.Value.Duration
set_option autoImplicit false

/-! A built client: where the service is, how long it waits, how it checks peers, and which filters
its messages pass. -/

namespace ClientWiring

/-- Limits on the parts of an exchange, in seconds; a part without a limit has none. -/
structure Timeouts where
  connect : Option Double
  read : Option Double
  write : Option Double
  pool : Option Double
  deriving DecidableEq, Repr

structure PoolLimits where
  maxConnections : Int
  maxIdle : Int
  /-- How long an idle connection is kept, in seconds. -/
  idleExpiry : Option Double
  deriving DecidableEq, Repr

inductive ResponseHook where
  | verify (verifier : Instance)
  | filter (filter : ResponseFilter)

structure HttpClient where
  interface : ClientInterface
  asynchronous : Bool
  /-- The base URL, whose path and query end with a slash. -/
  baseUrl : Url
  timeouts : Timeouts
  limits : PoolLimits
  /-- How peers are checked; without it the standard checks hold. -/
  tls : Option TlsContext
  followRedirects : Bool
  maxRedirects : Int
  requestHooks : List RequestFilter
  responseHooks : List ResponseHook
  proxy : Option Url
  queryStyle : QueryStyle
  properties : Dictionary Value

end ClientWiring
