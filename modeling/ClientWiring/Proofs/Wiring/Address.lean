import ClientWiring.Proofs.Wiring.BaseUrl
set_option autoImplicit false

/-! Where the base URL of a client stands. Seven places are asked for it in order, and the first one
that has a text decides: if the text is no absolute URL, no later place makes up for it. -/

namespace ClientWiring

inductive AddressSetting where
  | uri
  | url
  deriving DecidableEq

def AddressSetting.legacyName : AddressSetting → String
  | uri => "uri"
  | url => "url"

inductive AddressLayer where
  | typed
  /-- The legacy key under the name of the interface. -/
  | interface
  /-- The legacy key under the client's own name. -/
  | owner
  deriving DecidableEq

inductive AddressPlace where
  | configured (setting : AddressSetting) (layer : AddressLayer)
  | annotated
  deriving DecidableEq

namespace AddressPlace

def ofSetting (setting : AddressSetting) : List AddressPlace :=
  [.configured setting .typed, .configured setting .interface, .configured setting .owner]

def all : List AddressPlace :=
  ofSetting .uri ++ ofSetting .url ++ [.annotated]

theorem findSome?_ofSetting (value : AddressPlace → Option String) (setting : AddressSetting) :
    (ofSetting setting).findSome? value =
      (value (.configured setting .typed)).or
        ((value (.configured setting .interface)).or (value (.configured setting .owner))) := by
  simp only [ofSetting, List.findSome?_cons, List.findSome?_nil]
  cases value (.configured setting .typed) with
  | some text => rfl
  | none =>
      cases value (.configured setting .interface) with
      | some text => rfl
      | none => cases value (.configured setting .owner) <;> rfl

end AddressPlace

namespace Layers

/-- A text is decoded as it is, so its layers give it without fail. -/
theorem legacy?_text (layers : Layers) (name : String) :
    layers.legacy? name .text =
      .ok ((layers.source.raw? (legacyKey layers.interfaceName name)).or
        (layers.source.raw? (legacyKey layers.owner name))) := by
  rw [legacy?_eq, firstText?, textUnder?, textUnder?]
  cases layers.source.raw? (legacyKey layers.interfaceName name) with
  | some text => rfl
  | none => cases layers.source.raw? (legacyKey layers.owner name) <;> rfl

end Layers

namespace Setup

variable {setup : Setup}

/-- The text at a place. Where it is typed it may be empty; a legacy text that is blank and an empty
annotation are none. -/
def addressAt? (setup : Setup) : AddressPlace → Option String
  | .configured .uri .typed => setup.layers.typed? .uri
  | .configured .url .typed => setup.layers.typed? .url
  | .configured setting .interface =>
    setup.source.raw? (legacyKey setup.interface.name setting.legacyName)
  | .configured setting .owner => setup.source.raw? (legacyKey setup.owner setting.legacyName)
  | .annotated => setup.annotationUri.filter fun text => !text.isEmpty

def addressOf? (setup : Setup) (setting : AddressSetting) : Option String :=
  (AddressPlace.ofSetting setting).findSome? setup.addressAt?

theorem addressOf?_of_typed {setting : AddressSetting} {text : String}
    (typed : setup.addressAt? (.configured setting .typed) = some text) :
    setup.addressOf? setting = some text := by
  rw [addressOf?, AddressPlace.findSome?_ofSetting, typed, Option.some_or]

theorem addressOf?_of_untyped {setting : AddressSetting}
    (untyped : setup.addressAt? (.configured setting .typed) = none) :
    setup.layers.legacy? setting.legacyName .text = .ok (setup.addressOf? setting) := by
  rw [addressOf?, AddressPlace.findSome?_ofSetting, untyped, Option.none_or]
  cases setting with
  | uri => exact setup.layers.legacy?_text "uri"
  | url => exact setup.layers.legacy?_text "url"

def resolvedAddress (setup : Setup) : AddressSetting → Except WiringError (Option String)
  | .uri => setup.setting? .uri
  | .url => setup.setting? .url

theorem resolvedAddress_eq (setup : Setup) (setting : AddressSetting) :
    setup.resolvedAddress setting = .ok (setup.addressOf? setting) := by
  cases typed : setup.addressAt? (.configured setting .typed) with
  | some text =>
      rw [addressOf?_of_typed typed]
      cases setting with
      | uri => exact congrArg (Except.mapError WiringError.config) (Layers.setting?_of_typed typed)
      | url => exact congrArg (Except.mapError WiringError.config) (Layers.setting?_of_typed typed)
  | none =>
      have layers := addressOf?_of_untyped typed
      rw [Layers.legacy?_eq] at layers
      cases setting with
      | uri =>
          have layered := (Layers.setting?_of_untyped typed rfl).trans layers
          exact congrArg (Except.mapError WiringError.config) layered
      | url =>
          have layered := (Layers.setting?_of_untyped typed rfl).trans layers
          exact congrArg (Except.mapError WiringError.config) layered

/-- The base URL that is given is the text at the first place that has one. -/
theorem givenBaseUrl?_eq (setup : Setup) :
    setup.givenBaseUrl? = .ok (AddressPlace.all.findSome? setup.addressAt?) := by
  rw [AddressPlace.all, List.findSome?_append, List.findSome?_append]
  change _ = Except.ok (((setup.addressOf? .uri).or (setup.addressOf? .url)).or _)
  have uri : setup.setting? .uri = _ := setup.resolvedAddress_eq .uri
  have url : setup.setting? .url = _ := setup.resolvedAddress_eq .url
  unfold givenBaseUrl?
  rw [uri, url]
  cases setup.addressOf? .uri with
  | some text => rfl
  | none =>
      cases setup.addressOf? .url with
      | some text => rfl
      | none =>
          simp only [List.findSome?_cons, List.findSome?_nil, Option.or_none, Option.none_or]
          cases given : setup.addressAt? .annotated with
          | none => exact congrArg Except.ok given
          | some text => exact congrArg Except.ok given

/-! ### The choice -/

structure FirstAddress (setup : Setup) (place : AddressPlace) (text : String) : Prop where
  before : ∃ earlier later, AddressPlace.all = earlier ++ place :: later ∧
    ∀ other ∈ earlier, setup.addressAt? other = none
  here : setup.addressAt? place = some text

theorem findSome?_eq_some_iff {text : String} :
    AddressPlace.all.findSome? setup.addressAt? = some text ↔
      ∃ place, setup.FirstAddress place text := by
  rw [List.findSome?_eq_some_iff]
  constructor
  · rintro ⟨earlier, place, later, order, here, before⟩
    exact ⟨place, ⟨earlier, later, order, before⟩, here⟩
  · rintro ⟨place, ⟨earlier, later, order, before⟩, here⟩
    exact ⟨earlier, place, later, order, here, before⟩

theorem AddressPlace.mem_all (place : AddressPlace) : place ∈ AddressPlace.all := by
  cases place with
  | configured setting layer => cases setting <;> cases layer <;> decide
  | annotated => decide

theorem chosenBaseUrl_of_first {place : AddressPlace} {text : String}
    (first : setup.FirstAddress place text) : setup.chosenBaseUrl = .ok text := by
  rw [chosenBaseUrl_eq, givenBaseUrl?_eq, findSome?_eq_some_iff.mpr ⟨place, first⟩]
  rfl

theorem chosenBaseUrl_of_none (nowhere : ∀ place, setup.addressAt? place = none) :
    setup.chosenBaseUrl = .error setup.missingBaseUrl := by
  have nothing : AddressPlace.all.findSome? setup.addressAt? = none :=
    List.findSome?_eq_none_iff.mpr fun place _ => nowhere place
  rw [chosenBaseUrl_eq, givenBaseUrl?_eq, nothing]
  rfl

theorem first_or_none (setup : Setup) :
    (∃ place text, setup.FirstAddress place text) ∨ ∀ place, setup.addressAt? place = none := by
  cases found : AddressPlace.all.findSome? setup.addressAt? with
  | some text =>
      obtain ⟨place, first⟩ := findSome?_eq_some_iff.mp found
      exact .inl ⟨place, text, first⟩
  | none =>
      rw [List.findSome?_eq_none_iff] at found
      exact .inr fun place => found place (AddressPlace.mem_all place)

/-- A text that is not read as a URL, or as one without a scheme or without a host. -/
def IsInvalidUrl [UrlReader] (text : String) : Prop :=
  (∃ e, UrlReader.parse text = .error e) ∨
    ∃ url, UrlReader.parse text = .ok url ∧ (url.scheme = "" ∨ UrlReader.host url = .ok "")

section Stage

variable [UrlReader] {β ρ : Type} [ClientBuilder β ρ]

theorem checkBaseUrl_of_invalid {text : String} (invalid : IsInvalidUrl text) :
    checkBaseUrl text = .error (.config (.invalidBaseUrl text)) := by
  unfold checkBaseUrl
  rcases invalid with ⟨e, failed⟩ | ⟨url, parsed, schemeless | hostless⟩
  · rw [failed]
  · simp [parsed, schemeless]
  · simp [parsed, hostless]

theorem checkBaseUrl_of_unreadable {text : String} {url : Url} {e : Url.LabelError}
    (parsed : UrlReader.parse text = .ok url) (schemed : url.scheme ≠ "")
    (unreadable : UrlReader.host url = .error e) : checkBaseUrl text = .error (.label e) := by
  simp [checkBaseUrl, parsed, schemed, unreadable]

theorem configureBaseUrl_of_absolute {text : String} (chosen : setup.chosenBaseUrl = .ok text)
    (absolute : IsAbsoluteUrl text) :
    (setup.configureBaseUrl : Step β Unit) = Step.tell (.baseUrl text) := by
  rw [configureBaseUrl_eq, baseUrl_of_chosen chosen absolute]

theorem configureBaseUrl_of_refused {text : String} {e : WiringError}
    (chosen : setup.chosenBaseUrl = .ok text) (refused : checkBaseUrl text = .error e) :
    (setup.configureBaseUrl : Step β Unit) = Step.fail e := by
  rw [configureBaseUrl_eq, baseUrl, chosen, ok_bind, refused]
  rfl

theorem configureBaseUrl_of_missing {e : WiringError} (missing : setup.chosenBaseUrl = .error e) :
    (setup.configureBaseUrl : Step β Unit) = Step.fail e := by
  rw [configureBaseUrl_eq, baseUrl, missing]
  rfl

end Stage

theorem chosenBaseUrl_of_uri_place {other : Setup}
    (same : ∀ layer, other.addressAt? (.configured .uri layer) =
      setup.addressAt? (.configured .uri layer))
    (given : ∃ layer, setup.addressAt? (.configured .uri layer) ≠ none) :
    other.chosenBaseUrl = setup.chosenBaseUrl := by
  have uri : other.addressOf? .uri = setup.addressOf? .uri := by
    rw [addressOf?, addressOf?, AddressPlace.findSome?_ofSetting, AddressPlace.findSome?_ofSetting,
      same, same, same]
  cases found : setup.addressOf? .uri with
  | none =>
      obtain ⟨layer, present⟩ := given
      rw [addressOf?, List.findSome?_eq_none_iff] at found
      refine absurd (found (.configured .uri layer) ?_) present
      cases layer <;> decide
  | some text =>
      have chosen : setup.setting? .uri = .ok (some text) :=
        (setup.resolvedAddress_eq .uri).trans (congrArg Except.ok found)
      have same : other.setting? .uri = .ok (some text) :=
        (other.resolvedAddress_eq .uri).trans (congrArg Except.ok (uri.trans found))
      rw [chosenBaseUrl_of_uri chosen, chosenBaseUrl_of_uri same]

end Setup

def ConfigError.Mentions (error : ConfigError) (text : String) : Prop :=
  text.toList <:+: error.message.toList

theorem ConfigError.mentions_of_eq {error : ConfigError} {before text after : String}
    (said : error.message = before ++ text ++ after) : error.Mentions text := by
  rw [Mentions, said, String.toList_append, String.toList_append]
  exact List.infix_append _ _ _

theorem ConfigError.missingBaseUrl_mentions (urlKey uriKey : String) :
    (missingBaseUrl urlKey uriKey).Mentions urlKey ∧
      (missingBaseUrl urlKey uriKey).Mentions uriKey := by
  have said : (missingBaseUrl urlKey uriKey).message =
      "Unable to determine the proper baseUrl/baseUri. " ++
        "Consider registering using @register_rest_client(base_uri=\"someuri\"), " ++
        "@register_rest_client(config_key=\"orkey\"), or by adding '" ++ urlKey ++ "' or '" ++
        uriKey ++ "' to your configuration" := rfl
  constructor
  · apply mentions_of_eq
    rw [said, String.append_assoc, String.append_assoc]
  · exact mentions_of_eq said

theorem ConfigError.invalidBaseUrl_mentions (text : String) :
    (invalidBaseUrl text).Mentions text := by
  have said : (invalidBaseUrl text).message = "The value of URL was invalid " ++ text := rfl
  exact mentions_of_eq (said.trans String.append_empty.symm)

namespace Setup

/-- The stage of the base URL takes the text at the first place that has one. It fails if there is
none, naming both keys of the client, and if the text is not read as a URL with a scheme and a host,
naming the text; else the builder is told the text, and nothing else, unless the library fails to give
a host at all. With a configured URI, from whatever layer, URLs and the annotation make no
difference. -/
theorem configureBaseUrl_first [UrlReader] (setup : Setup) :
    (∀ urlKey uriKey, setup.missingBaseUrlKeys = (urlKey, uriKey) →
      (∀ place, setup.addressAt? place = none) →
        (∀ {β ρ : Type} [ClientBuilder β ρ] (scene : Scene β),
          (setup.configureBaseUrl : Step β Unit).run scene =
            (.error (.config (.missingBaseUrl urlKey uriKey)), scene)) ∧
        (ConfigError.missingBaseUrl urlKey uriKey).Mentions urlKey ∧
        (ConfigError.missingBaseUrl urlKey uriKey).Mentions uriKey) ∧
    (∀ place text, setup.FirstAddress place text →
      (IsAbsoluteUrl text →
        (∀ {β ρ : Type} [ClientBuilder β ρ],
          (setup.configureBaseUrl : Step β Unit) = Step.tell (.baseUrl text)) ∧
        ∀ scene : Scene Recording,
          (setup.configureBaseUrl : Step Recording Unit).run scene =
            (.ok (), { scene with builder :=
              ⟨scene.builder.calls ++ [.baseUrl text], scene.builder.built⟩ })) ∧
      (IsInvalidUrl text →
        (∀ {β ρ : Type} [ClientBuilder β ρ] (scene : Scene β),
          (setup.configureBaseUrl : Step β Unit).run scene =
            (.error (.config (.invalidBaseUrl text)), scene)) ∧
        (ConfigError.invalidBaseUrl text).Mentions text) ∧
      ∀ url e, UrlReader.parse text = .ok url → url.scheme ≠ "" → UrlReader.host url = .error e →
        ∀ {β ρ : Type} [ClientBuilder β ρ] (scene : Scene β),
          (setup.configureBaseUrl : Step β Unit).run scene = (.error (.label e), scene)) ∧
    ((∃ place text, setup.FirstAddress place text) ∨ ∀ place, setup.addressAt? place = none) ∧
    (∀ other : Setup, (∀ layer, other.addressAt? (.configured .uri layer) =
        setup.addressAt? (.configured .uri layer)) →
      (∃ layer, setup.addressAt? (.configured .uri layer) ≠ none) →
        ∀ {β ρ : Type} [ClientBuilder β ρ],
          (other.configureBaseUrl : Step β Unit) = setup.configureBaseUrl) := by
  refine ⟨?_, ?_, setup.first_or_none, ?_⟩
  · intro urlKey uriKey keys nowhere
    refine ⟨?_, ConfigError.missingBaseUrl_mentions urlKey uriKey⟩
    intro β ρ _ scene
    rw [configureBaseUrl_of_missing (chosenBaseUrl_of_none nowhere), missingBaseUrl, keys]
    rfl
  · intro place text first
    have chosen := chosenBaseUrl_of_first first
    refine ⟨fun absolute => ⟨configureBaseUrl_of_absolute chosen absolute, ?_⟩,
      fun invalid => ⟨?_, ConfigError.invalidBaseUrl_mentions text⟩, ?_⟩
    · intro scene
      rw [configureBaseUrl_of_absolute chosen absolute]
      rfl
    · intro β ρ _ scene
      rw [configureBaseUrl_of_refused chosen (checkBaseUrl_of_invalid invalid)]
      rfl
    · intro url e parsed schemed unreadable β ρ _ scene
      rw [configureBaseUrl_of_refused chosen
        (checkBaseUrl_of_unreadable parsed schemed unreadable)]
      rfl
  · intro other same given β ρ _
    have chosen := chosenBaseUrl_of_uri_place same given
    rw [configureBaseUrl_eq, configureBaseUrl_eq, baseUrl, baseUrl, chosen]

def readdressed (uri : String) : Setup :=
  let config : ClientConfig := ⟨fun
    | .url => some "http://typed.local"
    | _ => none⟩
  { Sample.setup .classic [("echo/mp-rest/uri", uri)] with
    root := some ⟨[("echo", config)], none, none⟩ }

theorem readdressed_first {uri text : String}
    (unnamed : (readdressed uri).addressAt? (.configured .uri .interface) = none)
    (here : (readdressed uri).addressAt? (.configured .uri .owner) = some text) :
    (readdressed uri).FirstAddress (.configured .uri .owner) text := by
  refine ⟨⟨[.configured .uri .typed, .configured .uri .interface], _, rfl, ?_⟩, here⟩
  intro other earlier
  rcases List.mem_pair.mp earlier with rfl | rfl
  · rfl
  · exact unnamed

open scoped Sample in
theorem configureBaseUrl_first_readdressed :
    let scene : Scene Recording := ⟨"", [], .empty⟩
    ((readdressed " http://legacy.local ").configureBaseUrl : Step Recording Unit).run scene =
      (.ok (), ⟨"", [], ⟨[.baseUrl "http://legacy.local"], []⟩⟩) ∧
    ((readdressed "nowhere").configureBaseUrl : Step Recording Unit).run scene =
      (.error (.config (.invalidBaseUrl "nowhere")), scene) ∧
    ((unaddressed .reactive).configureBaseUrl : Step Recording Unit).run scene =
      (.error (.config (.missingBaseUrl (legacyKey "mail.box/a\nb" "url")
        (legacyKey "mail.box/a\nb" "uri"))), scene) := by
  intro scene
  have legacy : (readdressed " http://legacy.local ").FirstAddress (.configured .uri .owner)
      "http://legacy.local" := readdressed_first (by decide) (by decide)
  have invalid : (readdressed "nowhere").FirstAddress (.configured .uri .owner) "nowhere" :=
    readdressed_first (by decide) (by decide)
  have absolute : IsAbsoluteUrl "http://legacy.local" :=
    (checkBaseUrl_eq_ok_iff _).mp (by decide)
  have relative : IsInvalidUrl "nowhere" := by
    have unschemed : (UrlReader.parse "nowhere").map (·.scheme) = .ok "" := by decide
    cases parsed : UrlReader.parse "nowhere" with
    | error e => exact .inl ⟨e, parsed⟩
    | ok url =>
        rw [parsed] at unschemed
        exact .inr ⟨url, parsed, .inl (Except.ok.inj unschemed)⟩
  have nowhere : ∀ place, (unaddressed .reactive).addressAt? place = none := by
    intro place
    cases place with
    | annotated => rfl
    | configured setting layer => cases setting <;> cases layer <;> rfl
  have told := (readdressed " http://legacy.local ").configureBaseUrl_first.2.1 _ _ legacy
  have refused := (readdressed "nowhere").configureBaseUrl_first.2.1 _ _ invalid
  have missing := (unaddressed .reactive).configureBaseUrl_first.1 _ _ rfl nowhere
  exact ⟨(told.1 absolute).2 scene, (refused.2.1 relative).1 scene, missing.1 scene⟩

end Setup

end ClientWiring
