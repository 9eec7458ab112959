set_option autoImplicit false

/-! The ways in which a configuration can be wrong. Each cause carries what its text names; nothing
is built from a wrong configuration. -/

namespace ClientWiring

def configNamespace : String := "rest-client"

inductive ConfigError where
  | invalidKey (key : String)
  /-- Settings of one client are refused: each as its key and the reason. -/
  | invalidClient (owner : String) (parts : List (String × String))
  /-- Settings for all clients are refused: each as its key and the reason. -/
  | invalidGlobals (parts : List (String × String))
  | invalidValue (raw key kind : String)
  /-- No layer gives a base URL; the keys under which one could be given. -/
  | missingBaseUrl (urlKey uriKey : String)
  | invalidBaseUrl (url : String)
  | malformedProxy (address : String)
  | proxyPortNotANumber (address : String)
  | proxyPortOutOfRange (address : String)
  | providerNotFound (name : String)
  | verifierNotFound (name : String)
  | verifierNeedsArguments (name : String)
  | verifierNotInstantiable (name : String)
  | notAVerifier (name : String)
  | invalidEncoderMode (mode : String) (modes : List String)
  | unsupportedStoreType (type : String) (types : List String)
  | noTrustStorePassword
  | noKeyStorePassword
  | resourceNotFound (resource : String)
  | fileNotFound (path : String)
  | trustStoreUnreadable (location : String)
  | keyStoreUnreadable (location : String)
  | noPrivateKey (location : String)
  | noBaseUrl
  deriving DecidableEq, Repr

namespace ConfigError

def describe (parts : List (String × String)) : String :=
  "; ".intercalate (parts.map fun part => part.1 ++ ": " ++ part.2)

def message : ConfigError → String
  | invalidKey key =>
    "Invalid REST client configuration key '" ++ key ++ "': expected " ++ configNamespace ++
      ".\"<prefix>\".<kebab-case-setting>"
  | invalidClient owner parts =>
    "Invalid REST client configuration for '" ++ owner ++ "': " ++ describe parts
  | invalidGlobals parts => "Invalid REST client configuration: " ++ describe parts
  | invalidValue raw key kind =>
    "Invalid value '" ++ raw ++ "' for property " ++ key ++ ": expected " ++ kind
  | missingBaseUrl urlKey uriKey =>
    "Unable to determine the proper baseUrl/baseUri. " ++
      "Consider registering using @register_rest_client(base_uri=\"someuri\"), " ++
      "@register_rest_client(config_key=\"orkey\"), or by adding '" ++ urlKey ++ "' or '" ++
      uriKey ++ "' to your configuration"
  | invalidBaseUrl url => "The value of URL was invalid " ++ url
  | malformedProxy address =>
    "Invalid proxy string. Expected <hostname>:<port>, found '" ++ address ++ "'"
  | proxyPortNotANumber address =>
    "Invalid proxy setting. The port is not a number in '" ++ address ++ "'"
  | proxyPortOutOfRange address =>
    "Invalid proxy setting. The port is out of range in '" ++ address ++ "'"
  | providerNotFound name => "Could not find provider class: " ++ name
  | verifierNotFound name => "Could not find hostname verifier class " ++ name
  | verifierNeedsArguments name =>
    "Could not find a public, no-argument constructor for the hostname verifier class " ++ name
  | verifierNotInstantiable name =>
    "Failed to instantiate hostname verifier class " ++ name ++
      ". Make sure it has a public, no-argument constructor"
  | notAVerifier name =>
    "The provided hostname verifier " ++ name ++ " is not an instance of HostnameVerifier"
  | invalidEncoderMode mode modes =>
    "Invalid multipart post encoder mode '" ++ mode ++ "'. Expected one of: " ++
      ", ".intercalate modes
  | unsupportedStoreType type types =>
    "Unsupported store type '" ++ type ++ "'. Supported types: " ++ ", ".intercalate types
  | noTrustStorePassword => "No password provided for truststore"
  | noKeyStorePassword => "No password provided for keystore"
  | resourceNotFound resource =>
    "Classpath resource " ++ resource ++ " not found for REST client TLS configuration"
  | fileNotFound path =>
    "Certificate file: " ++ path ++ " not found for REST client TLS configuration"
  | trustStoreUnreadable location => "Failed to initialize trust store from " ++ location
  | keyStoreUnreadable location => "Failed to initialize key store from " ++ location
  | noPrivateKey location =>
    "Failed to initialize key store from " ++ location ++ ": no private key entry"
  | noBaseUrl => "No base URL configured for the REST client builder"

end ConfigError

end ClientWiring
