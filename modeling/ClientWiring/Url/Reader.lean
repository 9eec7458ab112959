import ClientWiring.Url.Label
import ClientWiring.Url.Parse
set_option autoImplicit false

/-! What a library for URLs says of a text. -/

namespace ClientWiring

/-- A library that reads URLs, and the library for host names that it uses. -/
class UrlReader extends Url.Idna where
  /-- The parts of a text, if it is a URL. -/
  parse : String → Except UrlError Url
  /-- The host of a URL as people read it. -/
  host : Url → Except Url.LabelError String

namespace UrlReader

/-- The library that reads URLs as `Url.parse` does, with a library for host names. -/
@[reducible]
def standard [Url.Idna] : UrlReader where
  parse := Url.parse
  host := Url.readableHost

end UrlReader

namespace Sample

scoped instance reader : UrlReader := .standard

end Sample

end ClientWiring
