import ClientWiring.Class.Sample
import ClientWiring.Client.Builder
import ClientWiring.Client.Call
import ClientWiring.Formats.ContentType
import ClientWiring.Formats.Library
import ClientWiring.Log.Line
import ClientWiring.Log.Output
import ClientWiring.Proofs.Class.Registration
import ClientWiring.Proofs.Class.Spelling
import ClientWiring.Proofs.Client.Answer
import ClientWiring.Proofs.Client.Containment
import ClientWiring.Proofs.Client.Hooks
import ClientWiring.Proofs.Client.LastCalls
import ClientWiring.Proofs.Client.Variants
import ClientWiring.Proofs.Config.Offence
import ClientWiring.Proofs.Config.Overlay
import ClientWiring.Proofs.Config.Proxy
import ClientWiring.Proofs.Config.Sharing
import ClientWiring.Proofs.Files.Confinement
import ClientWiring.Proofs.Http.PeerCheck
import ClientWiring.Proofs.Log.Line
import ClientWiring.Proofs.Request.Params
import ClientWiring.Proofs.Request.Query
import ClientWiring.Proofs.Store.Bundle
import ClientWiring.Proofs.Wiring.Address
import ClientWiring.Proofs.Wiring.Conduct
import ClientWiring.Proofs.Wiring.Correlation
import ClientWiring.Proofs.Wiring.Isolation
import ClientWiring.Proofs.Wiring.Logging
import ClientWiring.Proofs.Wiring.Precedence
import ClientWiring.Proofs.Wiring.Sources
import ClientWiring.Proofs.Wiring.Translation
import ClientWiring.Proofs.Wiring.Verifier
import ClientWiring.Wiring.Entry
