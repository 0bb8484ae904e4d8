import GameServer.Keystream
import GameServer.Text.Diagnostic

/- The state of a generator is a secret and is never shown. -/

namespace GameServer

/-- A generator shows no more than that it is one. -/
def Isaac.diagnostic (_ : Isaac) : String :=
  Diagnostic.partialRecord "IsaacRandom" []

/-- A pair shows that it has two streams. -/
def KeystreamPair.diagnostic (pair : KeystreamPair) : String :=
  Diagnostic.record "CipherKeystreamPair"
    [("encode_stream", pair.outgoing.diagnostic), ("decode_stream", pair.incoming.diagnostic)]

end GameServer
