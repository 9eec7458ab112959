import ClientWiring.Client.Basic
import ClientWiring.Store.Basic
import ClientWiring.Url.Reader
import ClientWiring.Wiring.Call
set_option autoImplicit false

/-! The builder of clients. It keeps the last value of every setting, every registered provider in
order, and every property under its name; what the values mean is worked out when a client is built.
Building replaces none of them; a TLS context that was given is set up in place. -/

namespace ClientWiring

structure HttpClientBuilder where
  asynchronous : Bool
  baseUrl : Option String
  connectTimeout : Value
  readTimeout : Value
  providers : List Instance
  trustStore : Option TrustStore
  keyStore : Option KeyStore
  keyStorePassword : Option String
  verifier : Option Instance
  tlsContext : Option TlsContext
  followRedirects : Bool
  proxy : Option ProxyAddress
  queryStyle : Option QueryStyle
  properties : Dictionary Value

namespace HttpClientBuilder

def fresh (asynchronous : Bool) : HttpClientBuilder where
  asynchronous := asynchronous
  baseUrl := none
  connectTimeout := .null
  readTimeout := .null
  providers := []
  trustStore := none
  keyStore := none
  keyStorePassword := none
  verifier := none
  tlsContext := none
  followRedirects := false
  proxy := none
  queryStyle := none
  properties := []

/-- The builder after a call. Only registering a class can fail, as its instance is made at once. -/
def apply (call : BuilderCall) (builder : HttpClientBuilder) :
    Except WiringError HttpClientBuilder :=
  match call with
  | .baseUrl url => .ok { builder with baseUrl := some url }
  | .connectTimeout millis => .ok { builder with connectTimeout := millis }
  | .readTimeout millis => .ok { builder with readTimeout := millis }
  | .register provider =>
    match provider.construct with
    | .ok object => .ok { builder with providers := builder.providers ++ [object] }
    | .error thrown => .error (.thrown thrown)
  | .registerInstance object => .ok { builder with providers := builder.providers ++ [object] }
  | .trustStore store => .ok { builder with trustStore := some store }
  | .keyStore store password =>
    .ok { builder with keyStore := some store, keyStorePassword := password }
  | .hostnameVerifier verifier => .ok { builder with verifier := some verifier }
  | .tlsContext context => .ok { builder with tlsContext := some context }
  | .followRedirects follow => .ok { builder with followRedirects := follow }
  | .proxyAddress address => .ok { builder with proxy := some address }
  | .queryStyle style => .ok { builder with queryStyle := some style }
  | .property name value =>
    .ok { builder with properties := Dictionary.insert builder.properties name value }

/-! ### Limits -/

/-- Five seconds: how long is waited where nothing else is said. -/
def defaultTimeout : Double := .ofInt 5

def defaultMaxConnections : Int := 100

def defaultMaxIdle : Int := 20

/-- How long idle connections are kept where nothing else is said: five seconds. -/
def defaultIdleExpiry : Double := .ofInt 5

def timeouts (builder : HttpClientBuilder) : Except NumberError Timeouts := do
  let connect ← Duration.ofMillis builder.connectTimeout
  let read ← Duration.ofMillis builder.readTimeout
  pure ⟨connect.limit defaultTimeout, read.limit defaultTimeout, some defaultTimeout,
    some defaultTimeout⟩

def limits (builder : HttpClientBuilder) : Except NumberError PoolLimits := do
  let maxConnections ←
    match builder.properties.get? connectionPoolSizeProperty with
    | none | some .null => pure defaultMaxConnections
    | some value => value.whole
  let expiry ← Duration.ofMillis ((builder.properties.get? connectionTtlProperty).getD .null)
  pure ⟨maxConnections, min defaultMaxIdle maxConnections, expiry.limit defaultIdleExpiry⟩

/-! ### TLS -/

section Tls

variable [TlsLibrary]

/-- The context that is set up: an explicit one, else one for the trust store alone, if there is one.
Nothing is set up where nothing is said. -/
def baseContext (builder : HttpClientBuilder) : Except Thrown (Option TlsContext) :=
  match builder.tlsContext, builder.trustStore with
  | some context, _ => .ok (some context)
  | none, some store =>
    if store.certificates.isEmpty then .ok (some (.trusting []))
    else (TlsLibrary.trust store.certificates).map fun _ => some (.trusting store.certificates)
  | none, none =>
    .ok (if builder.keyStore.isSome || builder.verifier.isSome then some .standard else none)

def withIdentity (builder : HttpClientBuilder) (context : TlsContext) :
    Except Thrown TlsContext :=
  match builder.keyStore with
  | some store =>
    (TlsLibrary.present store (builder.keyStorePassword.getD "")).map fun _ =>
      { context with identity := some store }
  | none => .ok context

/-- A verifier takes over the check of the host. -/
def hostChecked (builder : HttpClientBuilder) (context : TlsContext) : TlsContext :=
  if builder.verifier.isSome then { context with checksHost := false } else context

/-- How the two ends of connections are checked. -/
def tls (builder : HttpClientBuilder) : Except Thrown (Option TlsContext) := do
  match ← builder.baseContext with
  | none => pure none
  | some context => do
    let context ← builder.withIdentity context
    pure (some (builder.hostChecked context))

end Tls

/-! ### Hooks -/

def requestHooks (builder : HttpClientBuilder) : List RequestFilter :=
  builder.providers.filterMap fun provider => provider.requestFilter

/-- The filters of responses, in the order of registration, as a client of this kind runs them. -/
def responseFilters (builder : HttpClientBuilder) : List ResponseFilter :=
  (builder.providers.filterMap fun provider => provider.responseFilter).map fun filter =>
    filter.heldIn builder.asynchronous

/-- The check of the peer, if there is a verifier, and then the filters of responses. The check is no
coroutine function, so it runs in both kinds of client. -/
def responseHooks (builder : HttpClientBuilder) : List ResponseHook :=
  let filters := builder.responseFilters.map ResponseHook.filter
  match builder.verifier with
  | some verifier => .verify verifier :: filters
  | none => filters

/-! ### Building -/

def defaultMaxRedirects : Int := 20

def maxRedirects (builder : HttpClientBuilder) : Except NumberError Int :=
  match builder.properties.get? maxRedirectsProperty with
  | some value => value.whole
  | none => .ok defaultMaxRedirects

def proxyText (address : ProxyAddress) : String :=
  "http://" ++ address.host ++ ":" ++ toString address.port

variable [UrlReader] [TlsLibrary]

def withSlash (url : Url) : Except UrlError Url :=
  if url.rawPath.endsWith "/" then .ok url else url.withRawPath (url.rawPath ++ "/")

def baseUrlOf (text : String) : Except UrlError Url :=
  match UrlReader.parse text with
  | .ok url => withSlash url
  | .error e => .error e

def proxyOf (address : ProxyAddress) : Except UrlError Url :=
  match UrlReader.parse (proxyText address) with
  | .ok url => if url.userinfo.isEmpty then .ok url else url.withoutUserinfo
  | .error e => .error e

def build (builder : HttpClientBuilder) (interface : ClientInterface) :
    Except WiringError HttpClient := do
  let baseUrl ←
    match builder.baseUrl with
    | some text => pure text
    | none => throw (.config .noBaseUrl)
  let timeouts ← builder.timeouts.mapError WiringError.number
  let tls ← builder.tls.mapError WiringError.tls
  let limits ← builder.limits.mapError WiringError.number
  let maxRedirects ← builder.maxRedirects.mapError WiringError.number
  let baseUrl ← (baseUrlOf baseUrl).mapError WiringError.url
  let proxy ←
    match builder.proxy with
    | some address => (proxyOf address).mapError WiringError.url |>.map some
    | none => pure none
  pure {
    interface := interface
    asynchronous := builder.asynchronous
    baseUrl := baseUrl
    timeouts := timeouts
    limits := limits
    tls := tls
    followRedirects := builder.followRedirects
    maxRedirects := maxRedirects
    requestHooks := builder.requestHooks
    responseHooks := builder.responseHooks
    proxy := proxy
    queryStyle := builder.queryStyle.getD .multiPairs
    properties := builder.properties }

/-- A context as it is set up in place: with the key that is shown, and without the check of the host
where a verifier takes it over. -/
def setUp (builder : HttpClientBuilder) (context : TlsContext) : TlsContext :=
  builder.hostChecked { context with identity := builder.keyStore.orElse fun _ => context.identity }

/-- The builder after building a client. The context that it was given is the client's too. -/
def afterBuild (builder : HttpClientBuilder) : HttpClientBuilder :=
  { builder with tlsContext := builder.tlsContext.map builder.setUp }

instance : ClientBuilder HttpClientBuilder HttpClient where
  apply := apply
  build interface builder :=
    match builder.build interface with
    | .ok client => .ok (client, builder.afterBuild)
    | .error e => .error e

end HttpClientBuilder

end ClientWiring
