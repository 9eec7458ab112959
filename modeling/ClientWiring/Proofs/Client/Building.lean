import ClientWiring.Client.Builder
set_option autoImplicit false

/-! What building a client comes to: which client a builder builds, when it builds one, and which
kinds of failure there are. -/

namespace ClientWiring

namespace HttpClientBuilder

theorem mapError_ok_bind {ε ε' α γ : Type} (toError : ε → ε') (a : α) (next : α → Except ε' γ) :
    ((Except.ok a : Except ε α).mapError toError >>= next) = next a := rfl

theorem not_ok_of_error {ε α : Type} {result : Except ε α} {e : ε} (failed : result = .error e) :
    ¬ ∃ a, result = .ok a := by
  rintro ⟨a, succeeded⟩
  cases failed.symm.trans succeeded

variable [UrlReader] [TlsLibrary]

theorem apply_register (info : ClassInfo) (builder : HttpClientBuilder) :
    ClientBuilder.apply (.register info) builder =
      match info.construct with
      | .ok object => .ok { builder with providers := builder.providers ++ [object] }
      | .error thrown => .error (.thrown thrown) := rfl

/-- A class is registered by an instance of it, behind the other providers. -/
theorem exists_instance_of_apply {info : ClassInfo} {builder told : HttpClientBuilder}
    (taken : ClientBuilder.apply (.register info) builder = .ok told) :
    ∃ object, info.construct = .ok object ∧
      told = { builder with providers := builder.providers ++ [object] } := by
  rw [apply_register] at taken
  cases made : info.construct with
  | error thrown =>
      rw [made] at taken
      cases taken
  | ok object =>
      rw [made] at taken
      cases taken
      exact ⟨object, rfl, rfl⟩

def proxyUrl? (builder : HttpClientBuilder) : Except UrlError (Option Url) :=
  match builder.proxy with
  | some address => (proxyOf address).map some
  | none => .ok none

structure Builds (builder : HttpClientBuilder) (interface : ClientInterface)
    (client : HttpClient) : Prop where
  interface_eq : client.interface = interface
  asynchronous_eq : client.asynchronous = builder.asynchronous
  baseUrl_eq : ∃ text, builder.baseUrl = some text ∧ baseUrlOf text = .ok client.baseUrl
  timeouts_eq : builder.timeouts = .ok client.timeouts
  limits_eq : builder.limits = .ok client.limits
  tls_eq : builder.tls = .ok client.tls
  followRedirects_eq : client.followRedirects = builder.followRedirects
  maxRedirects_eq : builder.maxRedirects = .ok client.maxRedirects
  requestHooks_eq : client.requestHooks = builder.requestHooks
  responseHooks_eq : client.responseHooks = builder.responseHooks
  proxy_eq : builder.proxyUrl? = .ok client.proxy
  queryStyle_eq : client.queryStyle = builder.queryStyle.getD .multiPairs
  properties_eq : client.properties = builder.properties

structure Buildable (builder : HttpClientBuilder) : Prop where
  timeouts : ∃ timeouts, builder.timeouts = .ok timeouts
  tls : ∃ context, builder.tls = .ok context
  limits : ∃ limits, builder.limits = .ok limits
  maxRedirects : ∃ limit, builder.maxRedirects = .ok limit
  baseUrl : ∃ text url, builder.baseUrl = some text ∧ baseUrlOf text = .ok url
  proxy : ∃ url, builder.proxyUrl? = .ok url

/-- A builder that has a base URL builds a client, or fails with an error that is no error of the
configuration. The parts are worked out in turn, and the first that cannot be had decides. -/
theorem build_cases (builder : HttpClientBuilder) (interface : ClientInterface) {text : String}
    (told : builder.baseUrl = some text) :
    (∃ client, builder.build interface = .ok client ∧ builder.Builds interface client) ∨
      ∃ e, builder.build interface = .error e ∧ ¬ builder.Buildable ∧
        ∀ cause, e ≠ .config cause := by
  unfold build
  rw [told]
  simp only [pure_bind]
  cases timeouts : builder.timeouts with
  | error e => exact .inr ⟨.number e, rfl, fun can => not_ok_of_error timeouts can.timeouts, nofun⟩
  | ok limitsOfTime =>
  rw [mapError_ok_bind]
  cases tls : builder.tls with
  | error e => exact .inr ⟨.tls e, rfl, fun can => not_ok_of_error tls can.tls, nofun⟩
  | ok context =>
  rw [mapError_ok_bind]
  cases limits : builder.limits with
  | error e => exact .inr ⟨.number e, rfl, fun can => not_ok_of_error limits can.limits, nofun⟩
  | ok pool =>
  rw [mapError_ok_bind]
  cases redirects : builder.maxRedirects with
  | error e =>
      exact .inr ⟨.number e, rfl, fun can => not_ok_of_error redirects can.maxRedirects, nofun⟩
  | ok most =>
  rw [mapError_ok_bind]
  cases base : baseUrlOf text with
  | error e =>
      refine .inr ⟨.url e, rfl, fun can => ?_, nofun⟩
      obtain ⟨other, url, told', built⟩ := can.baseUrl
      cases told.symm.trans told'
      exact not_ok_of_error base ⟨url, built⟩
  | ok url =>
  rw [mapError_ok_bind]
  have builds : ∀ proxy, builder.proxyUrl? = .ok proxy → builder.Builds interface {
      interface := interface
      asynchronous := builder.asynchronous
      baseUrl := url
      timeouts := limitsOfTime
      limits := pool
      tls := context
      followRedirects := builder.followRedirects
      maxRedirects := most
      requestHooks := builder.requestHooks
      responseHooks := builder.responseHooks
      proxy := proxy
      queryStyle := builder.queryStyle.getD .multiPairs
      properties := builder.properties } := by
    intro proxy found
    exact ⟨rfl, rfl, ⟨text, told, base⟩, timeouts, limits, tls, rfl, redirects, rfl, rfl, found, rfl,
      rfl⟩
  cases address : builder.proxy with
  | none =>
      have found : builder.proxyUrl? = .ok none := by rw [proxyUrl?, address]
      exact .inl ⟨_, rfl, builds none found⟩
  | some address' =>
      dsimp only
      cases proxy : proxyOf address' with
      | error e =>
          have found : builder.proxyUrl? = .error e := by
            rw [proxyUrl?, address]
            exact congrArg (Except.map some) proxy
          exact .inr ⟨.url e, rfl, fun can => not_ok_of_error found can.proxy, nofun⟩
      | ok proxyUrl =>
          have found : builder.proxyUrl? = .ok (some proxyUrl) := by
            rw [proxyUrl?, address]
            exact congrArg (Except.map some) proxy
          exact .inl ⟨_, rfl, builds (some proxyUrl) found⟩

theorem buildable_of_builds {builder : HttpClientBuilder} {interface : ClientInterface}
    {client : HttpClient} (builds : builder.Builds interface client) : builder.Buildable where
  timeouts := ⟨_, builds.timeouts_eq⟩
  tls := ⟨_, builds.tls_eq⟩
  limits := ⟨_, builds.limits_eq⟩
  maxRedirects := ⟨_, builds.maxRedirects_eq⟩
  baseUrl := by
    obtain ⟨text, told, built⟩ := builds.baseUrl_eq
    exact ⟨text, _, told, built⟩
  proxy := ⟨_, builds.proxy_eq⟩

theorem clientBuilder_build (builder : HttpClientBuilder) (interface : ClientInterface) :
    ClientBuilder.build interface builder =
      (builder.build interface).map fun client => (client, builder.afterBuild) := by
  cases built : builder.build interface with
  | error e => simp only [ClientBuilder.build, built, Except.map]
  | ok client => simp only [ClientBuilder.build, built, Except.map]

theorem builds_of_build {builder : HttpClientBuilder} {interface : ClientInterface}
    {client : HttpClient} (built : builder.build interface = .ok client) :
    builder.Builds interface client := by
  cases told : builder.baseUrl with
  | none =>
      unfold build at built
      rw [told] at built
      cases built
  | some text =>
      rcases builder.build_cases interface told with ⟨other, same, builds⟩ | ⟨e, failed, -⟩
      · cases built.symm.trans same
        exact builds
      · cases built.symm.trans failed

end HttpClientBuilder

end ClientWiring
