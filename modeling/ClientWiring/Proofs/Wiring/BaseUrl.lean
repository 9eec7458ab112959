import ClientWiring.Proofs.Client.Told
import ClientWiring.Proofs.Config.Addition
import ClientWiring.Proofs.Wiring.Escape
import ClientWiring.Proofs.Wiring.Readings
set_option autoImplicit false

/-! The base URL of a client. One is missing if no setting of its address has a value and no
annotation gives one. The failure then names two keys, in the source that its kind of client prefers;
a URL under either of them is what the builder is told next. -/

namespace ClientWiring

/-- A text that is read as a URL with a scheme and a host. -/
def IsAbsoluteUrl [UrlReader] (text : String) : Prop :=
  ∃ url host, UrlReader.parse text = .ok url ∧ url.scheme ≠ "" ∧
    UrlReader.host url = .ok host ∧ host ≠ ""

namespace Setup

theorem checkBaseUrl_eq_ok_iff [UrlReader] (text : String) :
    checkBaseUrl text = .ok () ↔ IsAbsoluteUrl text := by
  unfold checkBaseUrl IsAbsoluteUrl
  cases UrlReader.parse text with
  | error e => simp
  | ok url =>
      by_cases scheme : url.scheme = ""
      · simp [scheme]
      · cases readable : UrlReader.host url with
        | error e => simp [scheme, readable]
        | ok host => by_cases empty : host = "" <;> simp [scheme, readable, empty]

theorem checkBaseUrl_ne_missing [UrlReader] (text urlKey uriKey : String) :
    checkBaseUrl text ≠ .error (.config (.missingBaseUrl urlKey uriKey)) := by
  unfold checkBaseUrl
  intro missing
  dsimp only at missing
  split at missing
  · cases missing
  · split at missing
    · cases missing
    · split at missing
      · cases missing
      · split at missing <;> cases missing

/-! ### A chosen and a missing base URL -/

section Chosen

variable {setup : Setup}

theorem chosenBaseUrl_of_uri {text : String} (uri : setup.setting? .uri = .ok (some text)) :
    setup.chosenBaseUrl = .ok text := by
  unfold chosenBaseUrl
  rw [uri]
  rfl

theorem chosenBaseUrl_of_url {text : String} (uri : setup.setting? .uri = .ok none)
    (url : setup.setting? .url = .ok (some text)) : setup.chosenBaseUrl = .ok text := by
  unfold chosenBaseUrl
  rw [uri, url]
  rfl

/-- The stage tells the base URL as it is spelled, or fails for the lack of one. -/
theorem configureBaseUrl_eq [UrlReader] (setup : Setup) {β ρ : Type} [ClientBuilder β ρ] :
    (setup.configureBaseUrl : Step β Unit) =
      match setup.baseUrl with
      | .ok url => Step.tell (.baseUrl url)
      | .error e => Step.fail e := by
  unfold configureBaseUrl baseUrl
  cases setup.chosenBaseUrl with
  | error e => rfl
  | ok url =>
      rw [ofExcept_ok, pure_bind, ok_bind]
      cases checkBaseUrl url <;> rfl

theorem baseUrl_of_chosen [UrlReader] {text : String} (chosen : setup.chosenBaseUrl = .ok text)
    (absolute : IsAbsoluteUrl text) : setup.baseUrl = .ok text := by
  unfold baseUrl
  rw [chosen, ok_bind, (checkBaseUrl_eq_ok_iff text).mpr absolute]
  rfl

theorem chosenBaseUrl_of_baseUrl_missing [UrlReader] {urlKey uriKey : String}
    (missing : setup.baseUrl = .error (.config (.missingBaseUrl urlKey uriKey))) :
    setup.chosenBaseUrl = .error (.config (.missingBaseUrl urlKey uriKey)) := by
  unfold baseUrl at missing
  rcases bind_eq_error missing with unchosen | ⟨url, -, refused⟩
  · exact unchosen
  · rcases bind_eq_error refused with invalid | ⟨-, -, never⟩
    · exact absurd invalid (checkBaseUrl_ne_missing url urlKey uriKey)
    · cases never

theorem setting?_ne_missing (setting : Setting) (urlKey uriKey : String) :
    setup.setting? setting ≠ .error (.config (.missingBaseUrl urlKey uriKey)) := by
  intro failed
  obtain ⟨cause, refused, same⟩ := exists_of_mapError failed
  obtain ⟨text, key, rfl⟩ := Layers.setting?_eq_error refused
  cases same

theorem givenBaseUrl?_ne_missing (urlKey uriKey : String) :
    setup.givenBaseUrl? ≠ .error (.config (.missingBaseUrl urlKey uriKey)) := by
  unfold givenBaseUrl?
  intro failed
  rcases bind_eq_error failed with uri | ⟨uri, -, rest⟩
  · exact setting?_ne_missing .uri urlKey uriKey uri
  cases uri with
  | some text => cases rest
  | none =>
      rcases bind_eq_error rest with url | ⟨url, -, last⟩
      · exact setting?_ne_missing .url urlKey uriKey url
      · cases url <;> cases last

theorem unset_of_nothing_given (nothing : setup.givenBaseUrl? = .ok none) :
    setup.setting? .uri = .ok none ∧ setup.setting? .url = .ok none := by
  unfold givenBaseUrl? at nothing
  cases uri : setup.setting? .uri with
  | error e =>
      rw [uri] at nothing
      cases nothing
  | ok found =>
      rw [uri, ok_bind] at nothing
      cases found with
      | some text => cases nothing
      | none =>
          cases url : setup.setting? .url with
          | error e =>
              rw [url] at nothing
              cases nothing
          | ok found =>
              rw [url, ok_bind] at nothing
              cases found with
              | some text => cases nothing
              | none => exact ⟨rfl, rfl⟩

/-- Where the base URL is missing, the failure names the keys of the client, and no setting of its
address has a value. -/
theorem unset_of_missing {urlKey uriKey : String}
    (missing : setup.chosenBaseUrl = .error (.config (.missingBaseUrl urlKey uriKey))) :
    setup.missingBaseUrlKeys = (urlKey, uriKey) ∧
      setup.setting? .uri = .ok none ∧ setup.setting? .url = .ok none := by
  rw [chosenBaseUrl_eq] at missing
  cases given : setup.givenBaseUrl? with
  | error e =>
      rw [given] at missing
      cases missing
      exact absurd given (givenBaseUrl?_ne_missing urlKey uriKey)
  | ok found =>
      rw [given] at missing
      cases found with
      | some text => cases missing
      | none =>
          have same := WiringError.config.inj (Except.error.inj missing)
          rw [ConfigError.missingBaseUrl.injEq] at same
          exact ⟨Prod.ext same.1 same.2, unset_of_nothing_given given⟩

/-- The stage fails for a missing base URL only if there is none, or if the builder refuses one with
this failure. -/
theorem missing_of_run [UrlReader] {urlKey uriKey : String} {β ρ : Type} [ClientBuilder β ρ]
    {scene : Scene β} (honest : ∀ url, ClientBuilder.apply (.baseUrl url) scene.builder ≠
      .error (.config (.missingBaseUrl urlKey uriKey)))
    (failed : ((setup.configureBaseUrl : Step β Unit).run scene).1 =
      .error (.config (.missingBaseUrl urlKey uriKey))) :
    setup.chosenBaseUrl = .error (.config (.missingBaseUrl urlKey uriKey)) := by
  apply chosenBaseUrl_of_baseUrl_missing
  rw [configureBaseUrl_eq] at failed
  cases given : setup.baseUrl with
  | error e =>
      rw [given] at failed
      cases failed
      rfl
  | ok url =>
      rw [given] at failed
      dsimp only at failed
      rw [Plan.run_tell] at failed
      cases told : ClientBuilder.apply (.baseUrl url) scene.builder with
      | error e =>
          rw [told] at failed
          cases failed
          exact absurd told (honest url)
      | ok builder =>
          rw [told] at failed
          cases failed

end Chosen

/-! ### One more property of a client -/

section Added

variable {setup : Setup}

theorem setting?_eq_ok_iff (setup : Setup) (setting : Setting) (found : Option setting.Carrier) :
    setup.setting? setting = .ok found ↔ setup.layers.setting? setting = .ok found := by
  unfold setting?
  cases setup.layers.setting? setting with
  | error e => exact ⟨nofun, nofun⟩
  | ok other =>
      constructor
      · intro same
        cases same
        rfl
      · intro same
        cases same
        rfl

theorem typed?_of_root {root : ConfigRoot} (own : setup.root = some root) (setting : Setting) :
    setup.layers.typed? setting = root.typed? setup.owner setting := by
  unfold Layers.typed? Layers.clientConfig? ConfigRoot.typed? layers
  rw [own]
  rfl

theorem typedKey_absent {setting : Setting} {properties : Dictionary String} {root : ConfigRoot}
    (nonempty : setup.owner ≠ "") (unquoted : '"' ∉ setup.owner.toList)
    (loaded : ConfigRoot.ofProperties properties = .ok root) (own : setup.root = some root)
    (untyped : setup.layers.typed? setting = none) :
    typedKey setup.owner setting.field ∉ properties.keys := by
  intro present
  obtain ⟨entry, member, key⟩ := List.mem_map.mp present
  have decoded := ConfigRoot.decoded_typed? loaded setup.owner setting
  rw [← typed?_of_root own, untyped] at decoded
  cases decides : ConfigRoot.supplier? properties (.client setup.owner setting.kebab) with
  | some found =>
      rw [decides] at decoded
      cases decoded
  | none =>
      rw [ConfigRoot.supplier?_eq_none_iff] at decides
      apply decides entry member
      rw [key]
      exact TypedKey.parse_typedKey nonempty unquoted setting

theorem setting?_typedKey (setting : Setting) (text : String) {value : setting.Carrier}
    {properties : Dictionary String} {root : ConfigRoot}
    (nonempty : setup.owner ≠ "") (unquoted : '"' ∉ setup.owner.toList)
    (loaded : ConfigRoot.ofProperties properties = .ok root) (own : setup.root = some root)
    (untyped : setup.layers.typed? setting = none)
    (decodes : setting.kind.decode (.text text) = .ok value) :
    ∃ found, ConfigRoot.ofProperties
        (properties.insert (typedKey setup.owner setting.field) text) = .ok found ∧
      (setup.configured (some found) setup.source).setting? setting = .ok (some value) ∧
      ∀ other, other ≠ setting →
        (setup.configured (some found) setup.source).setting? other = setup.setting? other := by
  have absent := typedKey_absent nonempty unquoted loaded own untyped
  obtain ⟨found, again, given, others⟩ := ConfigRoot.ofProperties_concat
    (typedKey setup.owner setting.field, text) loaded
    (TypedKey.parse_typedKey nonempty unquoted setting) decodes
  have typed (other : Setting) : (setup.configured (some found) setup.source).layers.typed? other =
      found.typed? setup.owner other := typed?_of_root rfl other
  rw [Dictionary.insert_of_not_mem absent]
  refine ⟨found, again, ?_, ?_⟩
  · rw [setting?_eq_ok_iff]
    apply Layers.setting?_of_typed
    rw [typed, given]
  · intro other different
    have same : (setup.configured (some found) setup.source).layers.setting? other =
        setup.layers.setting? other := by
      refine Layers.setting?_congr ?_ fun _ _ _ => rfl
      rw [typed, typed?_of_root own]
      exact others setup.owner other fun _ => different
    unfold setting?
    rw [same]

theorem setting?_legacyKey (setting : Setting) {value : setting.Carrier} {text name : String}
    (named : setting.legacyName? = some name) (unset : setup.setting? setting = .ok none)
    (filled : Text.allBlank text = false) (trimmed : Text.trim text = text)
    (decodes : setting.kind.decode (.text text) = .ok value) :
    let source : PropertySource :=
      ⟨setup.source.properties.insert (legacyKey setup.owner name) text⟩
    (setup.configured setup.root source).setting? setting = .ok (some value) ∧
      ∀ other, other ≠ setting →
        (setup.configured setup.root source).setting? other = setup.setting? other := by
  intro source
  obtain ⟨untyped, textless⟩ := Layers.unset_layers named ((setting?_eq_ok_iff _ _ _).mp unset)
  have unchanged {key : String} (different : key ≠ legacyKey setup.owner name) :
      source.raw? key = setup.source.raw? key := by
    apply PropertySource.raw?_congr
    rw [Dictionary.get?_insert, if_neg different.symm]
  constructor
  · have raw : source.raw? (legacyKey setup.owner name) = some text := by
      have found : source.properties.get? (legacyKey setup.owner name) = some text := by
        rw [Dictionary.get?_insert, if_pos rfl]
      rw [source.raw?_of_filled found filled, trimmed]
    have own : (setup.configured setup.root source).layers.textUnder? setup.owner name =
        some (legacyKey setup.owner name, text) := congrArg (Option.map _) raw
    have first : (setup.configured setup.root source).layers.firstText? name =
        some (legacyKey setup.owner name, text) := by
      change Option.or (Layers.textUnder? _ setup.interface.name name)
        (Layers.textUnder? _ setup.owner name) = _
      -- A text under the name of the interface goes before that of the owner. There is none, unless
      -- both names are one, and then it is the new text.
      by_cases same : setup.interface.name = setup.owner
      · rw [same, own]
        rfl
      · have other : legacyKey setup.interface.name name ≠ legacyKey setup.owner name :=
          fun keys => same (legacyKey_inj named named keys).1
        have nothing : (setup.configured setup.root source).layers.textUnder?
            setup.interface.name name = none := by
          refine Eq.trans ?_ (Option.or_eq_none_iff.mp textless).1
          exact congrArg (Option.map _) (unchanged other)
        rw [nothing, own]
        rfl
    have untold : (setup.configured setup.root source).layers.typed? setting = none := untyped
    rw [setting?_eq_ok_iff, Layers.setting?_of_untyped untold named, first, Layers.decodeText?]
    rw [decodes]
  · intro other different
    have same : (setup.configured setup.root source).layers.setting? other =
        setup.layers.setting? other := by
      refine Layers.setting?_congr rfl ?_
      intro name' named' _
      refine Layers.firstText?_congr rfl rfl ?_
      intro holder _
      apply unchanged
      intro keys
      exact different (legacyKey_inj named' named keys).2
    unfold setting?
    rw [same]

end Added

/-! ### Naming the keys -/

/-- The setup with one more property among those whose keys are named when its base URL is missing:
the typed ones of a classic client, the legacy ones of a reactive client. -/
def amended (setup : Setup) (typed : Dictionary String) (key text : String) :
    Except ConfigError Setup :=
  match setup.variant with
  | .classic =>
    (ConfigRoot.ofProperties (typed.insert key text)).map fun root =>
      setup.configured (some root) setup.source
  | .reactive => .ok (setup.configured setup.root ⟨setup.source.properties.insert key text⟩)

/-- A setting of the address that a named key stands for. -/
theorem amended_setting? {setup : Setup} {typed : Dictionary String} {root : ConfigRoot}
    (nonempty : setup.owner ≠ "") (unquoted : '"' ∉ setup.owner.toList)
    (loaded : ConfigRoot.ofProperties typed = .ok root) (own : setup.root = some root)
    (uri : setup.setting? .uri = .ok none) (url : setup.setting? .url = .ok none) {key : String}
    (named : key = setup.missingBaseUrlKeys.1 ∨ key = setup.missingBaseUrlKeys.2) {text : String}
    (filled : Text.allBlank text = false) (trimmed : Text.trim text = text) :
    ∃ amended, setup.amended typed key text = .ok amended ∧
      (amended.setting? .uri = .ok (some text) ∨
        amended.setting? .uri = .ok none ∧ amended.setting? .url = .ok (some text)) := by
  have untyped {setting : Setting} {name : String} (named : setting.legacyName? = some name)
      (unset : setup.setting? setting = .ok none) : setup.layers.typed? setting = none :=
    (Layers.unset_layers named ((setting?_eq_ok_iff _ _ _).mp unset)).1
  unfold missingBaseUrlKeys at named
  unfold amended
  cases kind : setup.variant with
  | classic =>
      rw [kind] at named
      rcases named with rfl | rfl
      · obtain ⟨found, again, given, others⟩ := setting?_typedKey .url text
          nonempty unquoted loaded own (untyped rfl url) rfl
        refine ⟨setup.configured (some found) setup.source, ?_, .inr ⟨?_, given⟩⟩
        · exact congrArg (Except.map _) again
        · rw [others .uri nofun, uri]
      · obtain ⟨found, again, given, -⟩ := setting?_typedKey .uri text
          nonempty unquoted loaded own (untyped rfl uri) rfl
        exact ⟨setup.configured (some found) setup.source, congrArg (Except.map _) again,
          .inl given⟩
  | reactive =>
      rw [kind] at named
      refine ⟨_, rfl, ?_⟩
      rcases named with rfl | rfl
      · obtain ⟨given, others⟩ := setting?_legacyKey .url rfl url filled trimmed rfl
        refine .inr ⟨?_, given⟩
        exact (others .uri nofun).trans uri
      · obtain ⟨given, -⟩ := setting?_legacyKey .uri rfl uri filled trimmed rfl
        exact .inl given

/-- Keys that are written are read back. The typed key of a setting, alone, configures this setting
of its owner and nothing else, and no two settings share a key. So a construction that fails for a
missing base URL, with a builder that does not fail like this itself, is told a URL exactly as it
stands under either of the keys that the failure names. -/
theorem written_keys_read [UrlReader] (setup : Setup) (typed : Dictionary String) (root : ConfigRoot)
    (nonempty : setup.owner ≠ "") (unquoted : '"' ∉ setup.owner.toList) :
    (∀ setting text value, setting.kind.decode (.text text) = .ok value →
      ∃ config : ClientConfig,
        ConfigRoot.ofProperties [(typedKey setup.owner setting.field, text)] =
          .ok ⟨[(setup.owner, config)], none, none⟩ ∧
        config.get setting = some value ∧
        ∀ other, other ≠ setting → config.get other = none) ∧
    (∀ (owner : String) (setting other : Setting), owner ≠ "" → '"' ∉ owner.toList →
      typedKey setup.owner setting.field = typedKey owner other.field →
      setup.owner = owner ∧ setting = other) ∧
    (ConfigRoot.ofProperties typed = .ok root → setup.root = some root →
      ∀ {β ρ : Type} [ClientBuilder β ρ] (scene : Scene β) (urlKey uriKey : String),
      let missing := WiringError.config (.missingBaseUrl urlKey uriKey)
      (∀ url, ClientBuilder.apply (.baseUrl url) scene.builder ≠ .error missing) →
      ((setup.configureBaseUrl : Step β Unit).run scene).1 = .error missing →
      ∀ key text, key = urlKey ∨ key = uriKey →
        IsAbsoluteUrl text → text ≠ "" → Text.trim text = text →
      ∃ amended, setup.amended typed key text = .ok amended ∧
        (amended.configureBaseUrl : Step β Unit) = Step.tell (.baseUrl text)) := by
  refine ⟨?_, ?_, ?_⟩
  · intro setting text value decodes
    exact ConfigRoot.ofProperties_typedKey nonempty unquoted decodes
  · intro owner setting other nonempty' unquoted' same
    exact typedKey_inj nonempty unquoted nonempty' unquoted' same
  · intro loaded own β ρ _ scene urlKey uriKey missing honest failed key text named absolute nonblank
      trimmed
    obtain ⟨keys, uri, url⟩ := unset_of_missing (missing_of_run honest failed)
    have names : key = setup.missingBaseUrlKeys.1 ∨ key = setup.missingBaseUrlKeys.2 := by
      rw [keys]
      exact named
    have filled : Text.allBlank text = false := by
      rw [← Bool.not_eq_true, ← Text.trim_eq_empty_iff, trimmed]
      exact nonblank
    obtain ⟨amended, changed, given⟩ := amended_setting? nonempty unquoted loaded own uri url names
      filled trimmed
    refine ⟨amended, changed, ?_⟩
    have chosen : amended.chosenBaseUrl = .ok text := by
      rcases given with given | ⟨nothing, given⟩
      · exact chosenBaseUrl_of_uri given
      · exact chosenBaseUrl_of_url nothing given
    rw [configureBaseUrl_eq, baseUrl_of_chosen chosen absolute]

def unaddressed (variant : Variant) : Setup :=
  { Sample.setup variant [] with
    owner := "mail.box/a\nb", annotationUri := none, root := some .empty }

open scoped Sample in
theorem written_keys_read_unaddressed :
    let owner := "mail.box/a\nb"
    let url := "http://localhost:8080/api"
    (∃ config : ClientConfig,
      ConfigRoot.ofProperties [(typedKey owner "connect_timeout", "250")] =
        .ok ⟨[(owner, config)], none, none⟩ ∧
      config.get .connectTimeout = some (250 : Int) ∧
      ∀ other, other ≠ .connectTimeout → config.get other = none) ∧
    (∃ amended, (unaddressed .classic).amended [] (typedKey owner "uri") url = .ok amended ∧
      (amended.configureBaseUrl : Step Recording Unit) = Step.tell (.baseUrl url)) ∧
    ∃ amended, (unaddressed .reactive).amended [] (legacyKey owner "url") url = .ok amended ∧
      (amended.configureBaseUrl : Step Recording Unit) = Step.tell (.baseUrl url) := by
  intro owner url
  have absolute : IsAbsoluteUrl url := (checkBaseUrl_eq_ok_iff url).mp (by decide +kernel)
  have trimmed : Text.trim url = url := by decide +kernel
  have read (variant : Variant) := (unaddressed variant).written_keys_read [] .empty
    (by cases variant <;> decide +kernel) (by cases variant <;> decide +kernel)
  have amends (variant : Variant) := (read variant).2.2 rfl rfl (⟨"", [], .empty⟩ : Scene Recording)
  refine ⟨?_, ?_, ?_⟩
  · exact (read .classic).1 .connectTimeout "250" (250 : Int) rfl
  · exact amends .classic (typedKey owner "url") (typedKey owner "uri") nofun (by decide +kernel) _
      url (.inr rfl) absolute (by decide) trimmed
  · exact amends .reactive (legacyKey owner "url") (legacyKey owner "uri") nofun
      (by decide +kernel) _ url (.inl rfl) absolute (by decide) trimmed

end Setup

end ClientWiring
