import ClientWiring.Proofs.Tls.Checks
import ClientWiring.Proofs.Wiring.Escape
import ClientWiring.Wiring.Entry
set_option autoImplicit false

/-! Which constructions with the builder of clients fail with errors of the configuration only: no
setting that is reached escapes, every class that is registered has an instance, and the transport
accepts the settings that the client is built from. -/

namespace ClientWiring

/-! ### Calls that a builder of clients refuses -/

namespace Setup

theorem ofMillis_getD_ok_iff (millis : Option Int) :
    (∃ limit, Duration.ofMillis ((millis.map Value.int).getD .null) = .ok limit) ↔
      ∀ n, millis = some n → ∃ limit, Duration.ofMillis (.int n) = .ok limit := by
  cases millis with
  | none => exact ⟨fun _ => nofun, fun _ => ⟨.unset, rfl⟩⟩
  | some n => exact ⟨fun ok m same => by cases same; exact ok, fun all => all n rfl⟩

theorem timeouts_ok_iff (builder : HttpClientBuilder) :
    (∃ timeouts, builder.timeouts = .ok timeouts) ↔
      (∃ limit, Duration.ofMillis builder.connectTimeout = .ok limit) ∧
        ∃ limit, Duration.ofMillis builder.readTimeout = .ok limit := by
  unfold HttpClientBuilder.timeouts
  cases Duration.ofMillis builder.connectTimeout with
  | error e => exact ⟨fun ⟨_, done⟩ => (nomatch done), fun ⟨⟨_, done⟩, _⟩ => (nomatch done)⟩
  | ok connect =>
      cases Duration.ofMillis builder.readTimeout with
      | error e => exact ⟨fun ⟨_, done⟩ => (nomatch done), fun ⟨_, _, done⟩ => (nomatch done)⟩
      | ok read => exact ⟨fun _ => ⟨⟨_, rfl⟩, _, rfl⟩, fun _ => ⟨_, rfl⟩⟩

theorem limits_ok_iff (builder : HttpClientBuilder) (size ttl : Option Int)
    (sized : builder.properties.get? connectionPoolSizeProperty = size.map .int)
    (timed : builder.properties.get? connectionTtlProperty = ttl.map .int) :
    (∃ limits, builder.limits = .ok limits) ↔
      ∀ millis, ttl = some millis → ∃ limit, Duration.ofMillis (.int millis) = .ok limit := by
  refine Iff.trans ?_ (ofMillis_getD_ok_iff ttl)
  unfold HttpClientBuilder.limits
  rw [sized, timed]
  cases Duration.ofMillis ((ttl.map Value.int).getD .null) with
  | error e =>
      refine ⟨fun ⟨_, done⟩ => ?_, fun ⟨_, done⟩ => (nomatch done)⟩
      cases size <;> cases done
  | ok expiry =>
      refine ⟨fun _ => ⟨expiry, rfl⟩, fun _ => ?_⟩
      cases size <;> exact ⟨_, rfl⟩

section Tls

variable [TlsLibrary]

theorem baseContext_ok_iff (builder : HttpClientBuilder) :
    (∃ context, builder.baseContext = .ok context) ↔
      (builder.tlsContext = none → ∀ store, builder.trustStore = some store →
        store.certificates ≠ [] → TlsLibrary.trust store.certificates = .ok ()) := by
  unfold HttpClientBuilder.baseContext
  cases builder.tlsContext with
  | some context => exact ⟨fun _ => nofun, fun _ => ⟨_, rfl⟩⟩
  | none =>
      cases builder.trustStore with
      | none => exact ⟨fun _ _ => nofun, fun _ => ⟨_, rfl⟩⟩
      | some store =>
          dsimp only
          by_cases empty : store.certificates = []
          · rw [empty]
            refine ⟨?_, fun _ => ⟨_, rfl⟩⟩
            rintro - - _ ⟨⟩ filled
            exact absurd empty filled
          · rw [List.isEmpty_eq_false_iff.mpr empty, if_neg Bool.false_ne_true]
            cases trusts : TlsLibrary.trust store.certificates with
            | error e =>
                refine ⟨fun ⟨_, done⟩ => (nomatch done), fun all => ?_⟩
                cases trusts.symm.trans (all rfl store rfl empty)
            | ok _ =>
                refine ⟨?_, fun _ => ⟨_, rfl⟩⟩
                rintro - - _ ⟨⟩ -
                exact trusts

theorem withIdentity_ok_iff (builder : HttpClientBuilder) (context : TlsContext) :
    (∃ shown, builder.withIdentity context = .ok shown) ↔
      ∀ store, builder.keyStore = some store →
        TlsLibrary.present store (builder.keyStorePassword.getD "") = .ok () := by
  unfold HttpClientBuilder.withIdentity
  cases builder.keyStore with
  | none => exact ⟨fun _ => nofun, fun _ => ⟨_, rfl⟩⟩
  | some store =>
      dsimp only
      cases shown : TlsLibrary.present store (builder.keyStorePassword.getD "") with
      | error e =>
          refine ⟨fun ⟨_, done⟩ => (nomatch done), fun all => ?_⟩
          cases shown.symm.trans (all store rfl)
      | ok _ =>
          refine ⟨?_, fun _ => ⟨_, rfl⟩⟩
          rintro - _ ⟨⟩
          exact shown

theorem tls_ok_iff (builder : HttpClientBuilder) :
    (∃ context, builder.tls = .ok context) ↔
      (builder.tlsContext = none → ∀ store, builder.trustStore = some store →
        store.certificates ≠ [] → TlsLibrary.trust store.certificates = .ok ()) ∧
      ∀ store, builder.keyStore = some store →
        TlsLibrary.present store (builder.keyStorePassword.getD "") = .ok () := by
  rw [← baseContext_ok_iff]
  unfold HttpClientBuilder.tls
  cases chosen : builder.baseContext with
  | error e => exact ⟨fun ⟨_, done⟩ => (nomatch done), fun ⟨⟨_, done⟩, _⟩ => (nomatch done)⟩
  | ok found =>
      cases found with
      | none =>
          obtain ⟨-, -, keyless⟩ := (HttpClientBuilder.baseChecks_of_baseContext chosen).2 rfl
          rw [keyless]
          exact ⟨fun _ => ⟨⟨none, rfl⟩, nofun⟩, fun _ => ⟨none, rfl⟩⟩
      | some context =>
          rw [← withIdentity_ok_iff builder context, and_iff_right ⟨_, rfl⟩]
          change (∃ _, (builder.withIdentity context >>= _) = _) ↔ _
          cases builder.withIdentity context with
          | error e => exact ⟨fun ⟨_, done⟩ => (nomatch done), fun ⟨_, done⟩ => (nomatch done)⟩
          | ok shown => exact ⟨fun _ => ⟨_, rfl⟩, fun _ => ⟨_, rfl⟩⟩

end Tls

theorem proxyUrl?_ok_iff [UrlReader] (builder : HttpClientBuilder) :
    (∃ url, builder.proxyUrl? = .ok url) ↔
      ∀ address, builder.proxy = some address →
        ∃ url, HttpClientBuilder.proxyOf address = .ok url := by
  unfold HttpClientBuilder.proxyUrl?
  cases builder.proxy with
  | none => exact ⟨fun _ => nofun, fun _ => ⟨none, rfl⟩⟩
  | some address =>
      dsimp only
      cases parsed : HttpClientBuilder.proxyOf address with
      | error e =>
          refine ⟨fun ⟨_, done⟩ => (nomatch done), fun all => ?_⟩
          obtain ⟨url, found⟩ := all address rfl
          cases parsed.symm.trans found
      | ok url =>
          refine ⟨fun _ => ?_, fun _ => ⟨some url, rfl⟩⟩
          rintro _ ⟨⟩
          exact ⟨url, parsed⟩

section Told

variable [UrlReader] [StoreLibrary]

section Accepted

variable {setup : Setup} (settled : setup.Resolved) (asynchronous : Bool) (objects : List Instance)

theorem maxRedirects_ok :
    ∃ limit, (settled.builder asynchronous objects).maxRedirects = .ok limit := by
  unfold HttpClientBuilder.maxRedirects Resolved.builder
  rw [settled.get?_properties.1]
  cases settled.redirectLimit <;> exact ⟨_, rfl⟩

theorem tls_told_ok_iff [TlsLibrary] :
    (∃ context, (settled.builder asynchronous objects).tls = .ok context) ↔
      (settled.trustAllVerifier = none → ∀ store, settled.trustStore = some store →
        store.certificates ≠ [] → TlsLibrary.trust store.certificates = .ok ()) ∧
      ∀ store password, settled.keyStore = some (store, password) →
        TlsLibrary.present store (password.getD "") = .ok () := by
  rw [tls_ok_iff]
  refine and_congr ?_ ?_
  · change (settled.trustAllVerifier.map _ = none → _) ↔ _
    rw [Option.map_eq_none_iff]
    rfl
  · change (∀ store, settled.keyStore.map (·.1) = some store →
      TlsLibrary.present store ((settled.keyStore.bind (·.2)).getD "") = .ok ()) ↔ _
    cases settled.keyStore with
    | none => exact ⟨fun _ => nofun, fun _ => nofun⟩
    | some pair =>
        constructor
        · rintro shown store password ⟨⟩
          exact shown store rfl
        · rintro shown store ⟨⟩
          exact shown pair.1 pair.2 rfl

variable [TlsLibrary]

/-- The transport accepts the settings: the durations are finite numbers, the stores can be used, and
the base URL and the proxy are URLs. A trust store is not used where every peer is trusted. -/
structure Resolved.Accepted {setup : Setup} (settled : setup.Resolved) : Prop where
  connectTimeout : ∀ millis, settled.connectTimeout = some millis →
    ∃ limit, Duration.ofMillis (.int millis) = .ok limit
  readTimeout : ∀ millis, settled.readTimeout = some millis →
    ∃ limit, Duration.ofMillis (.int millis) = .ok limit
  idleTime : ∀ millis : Int, setup.layers.typed? .connectionTtl = some millis →
    ∃ limit, Duration.ofMillis (.int millis) = .ok limit
  trustStore : settled.trustAllVerifier = none → ∀ store, settled.trustStore = some store →
    store.certificates ≠ [] → TlsLibrary.trust store.certificates = .ok ()
  keyStore : ∀ store password, settled.keyStore = some (store, password) →
    TlsLibrary.present store (password.getD "") = .ok ()
  baseUrl : ∃ url, HttpClientBuilder.baseUrlOf settled.baseUrl = .ok url
  proxy : ∀ address, settled.proxy = some address →
    ∃ url, HttpClientBuilder.proxyOf address = .ok url

/-- A builder that has been told all settings builds exactly if the transport accepts them. -/
theorem buildable_iff_accepted :
    (settled.builder asynchronous objects).Buildable ↔ settled.Accepted := by
  have connect := ofMillis_getD_ok_iff settled.connectTimeout
  have read := ofMillis_getD_ok_iff settled.readTimeout
  have timeouts := timeouts_ok_iff (settled.builder asynchronous objects)
  have idle := limits_ok_iff (settled.builder asynchronous objects) _ _
    settled.get?_properties.2.2.1 settled.get?_properties.2.2.2
  have tls := tls_told_ok_iff settled asynchronous objects
  have proxy := proxyUrl?_ok_iff (settled.builder asynchronous objects)
  constructor
  · intro can
    obtain ⟨text, url, told, built⟩ := can.baseUrl
    cases told
    exact {
      connectTimeout := connect.mp (timeouts.mp can.timeouts).1
      readTimeout := read.mp (timeouts.mp can.timeouts).2
      idleTime := idle.mp can.limits
      trustStore := (tls.mp can.tls).1
      keyStore := (tls.mp can.tls).2
      baseUrl := ⟨url, built⟩
      proxy := proxy.mp can.proxy }
  · intro accepted
    exact {
      timeouts := timeouts.mpr
        ⟨connect.mpr accepted.connectTimeout, read.mpr accepted.readTimeout⟩
      tls := tls.mpr ⟨accepted.trustStore, accepted.keyStore⟩
      limits := idle.mpr accepted.idleTime
      maxRedirects := maxRedirects_ok settled asynchronous objects
      baseUrl := by
        obtain ⟨url, built⟩ := accepted.baseUrl
        exact ⟨settled.baseUrl, url, rfl, built⟩
      proxy := proxy.mpr accepted.proxy }

end Accepted

/-! ### Constructions that fail with errors of the configuration only -/

variable [TlsLibrary]

/-- A builder that was told all settings of an accepted setup builds a client, and any other fails
with an error that is no error of the configuration. -/
theorem Resolved.build_cases {setup : Setup} (settled : setup.Resolved) (asynchronous : Bool)
    (objects : List Instance) (interface : ClientInterface) :
    (settled.Accepted ∧
        ∃ client, (settled.builder asynchronous objects).build interface = .ok client) ∨
      ¬ settled.Accepted ∧ ∃ e, ¬ e.IsConfig ∧
        (settled.builder asynchronous objects).build interface = .error e := by
  have buildable := buildable_iff_accepted settled asynchronous objects
  rcases (settled.builder asynchronous objects).build_cases interface rfl with
    ⟨client, built, builds⟩ | ⟨e, failed, cannot, other⟩
  · exact .inl ⟨buildable.mp (HttpClientBuilder.buildable_of_builds builds), client, built⟩
  · refine .inr ⟨fun accepted => cannot (buildable.mpr accepted), e, fun config => ?_, failed⟩
    cases e with
    | config cause => exact other cause rfl
    | _ => exact config

end Told

end Setup

def OrderError.IsConfig : OrderError → Prop
  | .shared (.config _) => True
  | .shared (.settings _) => False
  | .wiring e => e.IsConfig

namespace ClientOrder

end ClientOrder

end ClientWiring
