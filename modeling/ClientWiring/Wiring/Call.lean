import ClientWiring.Class.Basic
import ClientWiring.Client.Interface
import ClientWiring.Config.Proxy
import ClientWiring.Tls.Context
import ClientWiring.Wiring.Error
set_option autoImplicit false

/-! What a builder of clients is told, and what a builder is. -/

namespace ClientWiring

inductive BuilderCall where
  | baseUrl (url : String)
  | connectTimeout (millis : Value)
  | readTimeout (millis : Value)
  | register (provider : ClassInfo)
  | registerInstance (provider : Instance)
  | trustStore (store : TrustStore)
  | keyStore (store : KeyStore) (password : Option String)
  | hostnameVerifier (verifier : Instance)
  | tlsContext (context : TlsContext)
  | followRedirects (follow : Bool)
  | proxyAddress (address : ProxyAddress)
  | queryStyle (style : QueryStyle)
  | property (name : String) (value : Value)

def connectionPoolSizeProperty : String := "rest-client.connection-pool-size"

/-- How long idle connections are kept, in milliseconds. -/
def connectionTtlProperty : String := "rest-client.connection-ttl"

def maxRedirectsProperty : String := "rest-client.max-redirects"

def encoderModeProperty : String := "rest-client.multipart-encoder-mode"

/-- Builders with states of type `β`, which build results of type `ρ`. -/
class ClientBuilder (β : Type) (ρ : outParam Type) where
  apply : BuilderCall → β → Except WiringError β
  /-- The result for an interface, and the state after building it. -/
  build : ClientInterface → β → Except WiringError (ρ × β)

structure Recording where
  calls : List BuilderCall
  /-- The interfaces that were built, in order. -/
  built : List ClientInterface

namespace Recording

def empty : Recording := ⟨[], []⟩

instance : ClientBuilder Recording Unit where
  apply call recording := .ok { recording with calls := recording.calls ++ [call] }
  build interface recording :=
    .ok ((), { recording with built := recording.built ++ [interface] })

end Recording

end ClientWiring
