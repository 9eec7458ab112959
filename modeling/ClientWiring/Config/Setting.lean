import ClientWiring.Config.Choice
import ClientWiring.Value.Basic
set_option autoImplicit false

/-! The settings of one client and the kinds of value they take. A setting has one name per source:
words joined by hyphens in the typed source, one word with inner capitals in the legacy source, and
words joined by underscores as a field. -/

namespace ClientWiring

inductive Kind where
  | text
  | whole
  | flag
  | style
  | encoder
  deriving DecidableEq, Repr

namespace Kind

abbrev Carrier : Kind → Type
  | text => String
  | whole => Int
  | flag => Bool
  | style => QueryStyle
  | encoder => EncoderMode

def name : Kind → String
  | text => "str"
  | whole => "int"
  | flag => "bool"
  | style => QueryStyle.typeName
  | encoder => EncoderMode.typeName

def toValue : (kind : Kind) → kind.Carrier → Value
  | text, s => .text s
  | whole, n => .int n
  | flag, b => .bool b
  | style, s => .style s
  | encoder, m => .encoder m

end Kind

/-- The settings of one client. Times are in milliseconds. -/
inductive Setting where
  | url
  | uri
  | scope
  | providers
  | connectTimeout
  | readTimeout
  | followRedirects
  | proxyAddress
  | queryParamStyle
  /-- The location of a store: on the class path, or a file. -/
  | trustStore
  | trustStorePassword
  | trustStoreType
  | keyStore
  | keyStorePassword
  | keyStoreType
  | hostnameVerifier
  /-- How long an idle connection is kept; zero keeps it without limit. -/
  | connectionTtl
  | connectionPoolSize
  | maxRedirects
  deriving DecidableEq, Repr, Inhabited

namespace Setting

def all : List Setting := [
  url, uri, scope, providers, connectTimeout, readTimeout, followRedirects, proxyAddress,
  queryParamStyle, trustStore, trustStorePassword, trustStoreType, keyStore, keyStorePassword,
  keyStoreType, hostnameVerifier, connectionTtl, connectionPoolSize, maxRedirects]

theorem mem_all (setting : Setting) : setting ∈ all := by
  cases setting <;> decide

def field : Setting → String
  | url => "url"
  | uri => "uri"
  | scope => "scope"
  | providers => "providers"
  | connectTimeout => "connect_timeout"
  | readTimeout => "read_timeout"
  | followRedirects => "follow_redirects"
  | proxyAddress => "proxy_address"
  | queryParamStyle => "query_param_style"
  | trustStore => "trust_store"
  | trustStorePassword => "trust_store_password"
  | trustStoreType => "trust_store_type"
  | keyStore => "key_store"
  | keyStorePassword => "key_store_password"
  | keyStoreType => "key_store_type"
  | hostnameVerifier => "hostname_verifier"
  | connectionTtl => "connection_ttl"
  | connectionPoolSize => "connection_pool_size"
  | maxRedirects => "max_redirects"

def kebab : Setting → String
  | url => "url"
  | uri => "uri"
  | scope => "scope"
  | providers => "providers"
  | connectTimeout => "connect-timeout"
  | readTimeout => "read-timeout"
  | followRedirects => "follow-redirects"
  | proxyAddress => "proxy-address"
  | queryParamStyle => "query-param-style"
  | trustStore => "trust-store"
  | trustStorePassword => "trust-store-password"
  | trustStoreType => "trust-store-type"
  | keyStore => "key-store"
  | keyStorePassword => "key-store-password"
  | keyStoreType => "key-store-type"
  | hostnameVerifier => "hostname-verifier"
  | connectionTtl => "connection-ttl"
  | connectionPoolSize => "connection-pool-size"
  | maxRedirects => "max-redirects"

def legacyName? : Setting → Option String
  | url => some "url"
  | uri => some "uri"
  | scope => some "scope"
  | providers => some "providers"
  | connectTimeout => some "connectTimeout"
  | readTimeout => some "readTimeout"
  | followRedirects => some "followRedirects"
  | proxyAddress => some "proxyAddress"
  | queryParamStyle => some "queryParamStyle"
  | trustStore => some "trustStore"
  | trustStorePassword => some "trustStorePassword"
  | trustStoreType => some "trustStoreType"
  | keyStore => some "keyStore"
  | keyStorePassword => some "keyStorePassword"
  | keyStoreType => some "keyStoreType"
  | hostnameVerifier => some "hostnameVerifier"
  | connectionTtl => none
  | connectionPoolSize => none
  | maxRedirects => none

def kind : Setting → Kind
  | connectTimeout | readTimeout | connectionTtl | connectionPoolSize | maxRedirects => .whole
  | followRedirects => .flag
  | queryParamStyle => .style
  | url | uri | scope | providers | proxyAddress | trustStore | trustStorePassword
  | trustStoreType | keyStore | keyStorePassword | keyStoreType | hostnameVerifier => .text

abbrev Carrier (setting : Setting) : Type := setting.kind.Carrier

def ofKebab? (name : String) : Option Setting :=
  all.find? fun setting => setting.kebab == name

def ofField? (name : String) : Option Setting :=
  all.find? fun setting => setting.field == name

theorem ofKebab?_kebab (setting : Setting) : ofKebab? setting.kebab = some setting := by
  cases setting <;> decide

theorem ofField?_field (setting : Setting) : ofField? setting.field = some setting := by
  cases setting <;> decide

end Setting

end ClientWiring
