import ClientWiring.Proofs.Client.Told
set_option autoImplicit false

/-! How a constructed client checks its peers. Only the switch for all checks turns the verification
of certificates off; a trust store is trusted alone, and a verifier takes over the check of the
host. -/

namespace ClientWiring

def HttpClient.checks (client : HttpClient) : TlsContext :=
  client.tls.getD .standard

/-- What is trusted: the certificates of a trust store alone, or what the system trusts. -/
def TrustedCertificates.ofStore : Option TrustStore → TrustedCertificates
  | some store => .only store.certificates
  | none => .systemDefaults

/-! ### The checks that a builder chooses -/

namespace HttpClientBuilder

def baseChecks (builder : HttpClientBuilder) : TlsContext :=
  let base := builder.tlsContext.getD ⟨true, true, .ofStore builder.trustStore, none⟩
  { base with identity := builder.keyStore.or base.identity }

variable [TlsLibrary]

/-- The context that is set up, if there is one, is the base without the key. Where there is none,
nothing is set. -/
theorem baseChecks_of_baseContext {builder : HttpClientBuilder} {context : Option TlsContext}
    (chosen : builder.baseContext = .ok context) :
    (∀ base, context = some base →
      builder.baseChecks = { base with identity := builder.keyStore.or base.identity }) ∧
    (context = none →
      builder.baseChecks = .standard ∧ builder.verifier = none ∧ builder.keyStore = none) := by
  unfold baseContext at chosen
  unfold baseChecks
  cases given : builder.tlsContext with
  | some explicit =>
      rw [given] at chosen
      cases chosen
      refine ⟨?_, nofun⟩
      rintro _ ⟨⟩
      rfl
  | none =>
      rw [given] at chosen
      cases store : builder.trustStore with
      | some trusted =>
          rw [store] at chosen
          have same : context = some (.trusting trusted.certificates) := by
            dsimp only at chosen
            split at chosen
            next empty =>
              rw [List.isEmpty_iff.mp empty]
              exact (Except.ok.inj chosen).symm
            · cases trusts : TlsLibrary.trust trusted.certificates with
              | error e =>
                  rw [trusts] at chosen
                  cases chosen
              | ok _ =>
                  rw [trusts] at chosen
                  exact (Except.ok.inj chosen).symm
          subst same
          refine ⟨?_, nofun⟩
          rintro _ ⟨⟩
          rfl
      | none =>
          rw [store] at chosen
          cases chosen
          cases builder.keyStore <;> cases builder.verifier <;>
            first
              | exact ⟨by rintro _ ⟨⟩; rfl, nofun⟩
              | exact ⟨nofun, fun _ => ⟨rfl, rfl, rfl⟩⟩

/-- Whatever context is used, peers are checked as the base says, except for the host where there is
a verifier. -/
theorem checks_of_tls {builder : HttpClientBuilder} {context : Option TlsContext}
    (worked : builder.tls = .ok context) :
    context.getD .standard =
      { builder.baseChecks with
        checksHost := builder.baseChecks.checksHost && builder.verifier.isNone } := by
  unfold tls at worked
  cases chosen : builder.baseContext with
  | error e =>
      rw [chosen] at worked
      cases worked
  | ok found =>
      rw [chosen] at worked
      obtain ⟨set, unset⟩ := baseChecks_of_baseContext chosen
      cases found with
      | none =>
          cases worked
          obtain ⟨standard, unchecked, -⟩ := unset rfl
          rw [standard, unchecked]
          rfl
      | some base =>
          rw [set base rfl]
          change (builder.withIdentity base >>= fun context =>
            pure (some (builder.hostChecked context))) = .ok context at worked
          unfold withIdentity at worked
          have checked (identified : TlsContext) :
              builder.hostChecked identified =
                { identified with
                  checksHost := identified.checksHost && builder.verifier.isNone } := by
            unfold hostChecked
            cases builder.verifier <;> simp
          cases key : builder.keyStore with
          | none =>
              rw [key] at worked
              cases worked
              exact checked base
          | some store =>
              rw [key] at worked
              dsimp only at worked
              cases shown : TlsLibrary.present store (builder.keyStorePassword.getD "") with
              | error e =>
                  rw [shown] at worked
                  cases worked
              | ok _ =>
                  rw [shown] at worked
                  cases worked
                  exact checked { base with identity := some store }

end HttpClientBuilder

/-! ### The checks of a constructed client -/

namespace Setup

theorem Resolved.trustsAll_iff [UrlReader] [StoreLibrary] {setup : Setup} (settled : setup.Resolved) :
    setup.TrustsAll ↔ settled.trustAllVerifier.isSome := by
  have resolves := settled.trustAllVerifier_resolves
  unfold trustAllVerifier? at resolves
  unfold TrustsAll
  cases kind : setup.variant with
  | reactive =>
      rw [settled.trustAllVerifier_reactive kind]
      exact ⟨fun on => absurd on.1 nofun, nofun⟩
  | classic =>
      rw [kind] at resolves
      cases switch : setup.global? trustAllKey .flag with
      | error e =>
          rw [switch] at resolves
          cases resolves
      | ok value =>
          rw [switch] at resolves
          simp only [ok_bind] at resolves
          rcases value with _ | _ | _
          · rw [← Except.ok.inj resolves]
            exact ⟨fun on => absurd on.2 nofun, nofun⟩
          · rw [← Except.ok.inj resolves]
            exact ⟨fun on => absurd on.2 nofun, nofun⟩
          · refine ⟨fun _ => ?_, fun _ => ⟨rfl, rfl⟩⟩
            cases found : verifierInstance setup.registry setup.around.library
                Verifier.noopRegisteredName with
            | error e =>
                rw [found] at resolves
                cases resolves
            | ok verifier =>
                rw [found] at resolves
                rw [← Except.ok.inj resolves]
                rfl

/-- The checks of a client that is made are those of the settings. The verification of certificates
is off exactly if the client is told to trust every peer. Otherwise it is on, the certificates of a
trust store are trusted alone, and the host is checked unless a verifier does so. In either case the
key store is what the peer may ask for, and a configured verifier is the one that is installed. -/
theorem create_checks [UrlReader] [StoreLibrary] [TlsLibrary] (setup : Setup) (elapsed : Double)
    (scene : Scene HttpClientBuilder) (asynchronous : Bool) (client : HttpClient)
    (fresh : scene.builder = .fresh asynchronous)
    (made : ((setup.create elapsed : Step HttpClientBuilder HttpClient).run scene).1 =
      .ok client) :
    ((∃ context, client.tls = some context ∧ context.verifiesPeer = false) ↔ setup.TrustsAll) ∧
    ∃ store keyStore verifier,
      setup.trustStore? = .ok store ∧ setup.keyStore? = .ok keyStore ∧
      setup.verifier? = .ok verifier ∧
      client.checks.identity = keyStore.map Prod.fst ∧
      (¬ setup.TrustsAll →
        client.checks = ⟨verifier.isNone, true, .ofStore store, keyStore.map Prod.fst⟩) ∧
      (∀ configured, verifier = some configured →
        ∃ filters : List ResponseFilter,
          client.responseHooks = .verify configured :: filters.map .filter) := by
  obtain ⟨settled, objects, -, builds⟩ := setup.create_builds elapsed scene fresh made
  have checks : client.checks = _ := HttpClientBuilder.checks_of_tls builds.tls_eq
  have disabled : (∃ context, client.tls = some context ∧ context.verifiesPeer = false) ↔
      client.checks.verifiesPeer = false := by
    unfold HttpClient.checks
    cases client.tls with
    | none => exact ⟨fun ⟨_, absent, _⟩ => (nomatch absent), nofun⟩
    | some context =>
        constructor
        · rintro ⟨_, same, off⟩
          cases same
          exact off
        · exact fun off => ⟨context, rfl, off⟩
  rw [disabled, settled.trustsAll_iff, checks]
  unfold HttpClientBuilder.baseChecks Resolved.builder
  refine ⟨?_, settled.trustStore, settled.keyStore, settled.verifier, settled.trustStore_resolves,
    settled.keyStore_resolves, settled.verifier_resolves, ?_, ?_, ?_⟩
  · cases settled.trustAllVerifier with
    | none => exact ⟨nofun, nofun⟩
    | some verifier => exact ⟨fun _ => rfl, fun _ => rfl⟩
  · cases settled.trustAllVerifier <;> cases settled.keyStore <;> rfl
  · intro off
    cases switch : settled.trustAllVerifier with
    | none => cases settled.verifier <;> cases settled.keyStore <;> rfl
    | some verifier =>
        rw [switch] at off
        exact absurd rfl off
  · intro configured installed
    refine ⟨(settled.builder asynchronous objects).responseFilters, ?_⟩
    rw [builds.responseHooks_eq]
    unfold HttpClientBuilder.responseHooks Resolved.builder
    rw [installed]
    rfl

def trusting : Setup :=
  Sample.setup .classic
    [(trustAllKey, "true"), ("echo/mp-rest/hostnameVerifier", "local")]

open scoped Sample in
theorem create_checks_trusting :
    ∃ client configured,
      ((trusting.create (.ofInt 0) : Step HttpClientBuilder HttpClient).run
        ⟨"", [], .fresh false⟩).1 = .ok client ∧
      (∃ context, client.tls = some context ∧ context.verifiesPeer = false) ∧
      trusting.verifier? = .ok (some configured) ∧
      ∃ filters : List ResponseFilter,
        client.responseHooks = .verify configured :: filters.map .filter := by
  have succeeds : ((trusting.create (.ofInt 0) : Step HttpClientBuilder HttpClient).run
      ⟨"", [], .fresh false⟩).1.toBool = true := by
    decide +kernel
  have installs : trusting.verifier?.toOption.any Option.isSome = true := by
    decide +kernel
  cases made : ((trusting.create (.ofInt 0) : Step HttpClientBuilder HttpClient).run
      ⟨"", [], .fresh false⟩).1 with
  | error e =>
      rw [made] at succeeds
      cases succeeds
  | ok client =>
      obtain ⟨off, -, -, verifier, -, -, found, -, -, hooks⟩ :=
        trusting.create_checks (.ofInt 0) ⟨"", [], .fresh false⟩ false client rfl made
      rw [found] at installs
      obtain ⟨configured, rfl⟩ := Option.isSome_iff_exists.mp installs
      exact ⟨client, configured, rfl, off.mpr ⟨rfl, by decide +kernel⟩, found,
        hooks configured rfl⟩

end Setup

end ClientWiring
