import GameServer.Isaac

/- This file defines the two keystreams of an authenticated session. -/

namespace GameServer

/-- A login names four session keys: two of the client and two of the server. -/
abbrev SessionKeys := Vector UInt32 4

/-- The outgoing opcodes and the incoming opcodes have a stream each. -/
structure KeystreamPair where
  outgoing : Isaac
  incoming : Isaac
deriving DecidableEq

namespace KeystreamPair

/-- The server's outgoing stream is seeded with every key raised by this offset. -/
def outgoingOffset : UInt32 := 50

/-- The keys with the offset added. -/
def raised (keys : SessionKeys) : SessionKeys :=
  keys.map (· + outgoingOffset)

/-- The server reads with the keys themselves and writes with the raised keys. -/
def server (keys : SessionKeys) : KeystreamPair :=
  ⟨Isaac.ofSeed (raised keys).toList, Isaac.ofSeed keys.toList⟩

/-- The client writes with the keys themselves and reads with the raised keys. -/
def client (keys : SessionKeys) : KeystreamPair :=
  ⟨Isaac.ofSeed keys.toList, Isaac.ofSeed (raised keys).toList⟩

theorem client_outgoing (keys : SessionKeys) :
    (client keys).outgoing = (server keys).incoming := rfl

theorem client_incoming (keys : SessionKeys) :
    (client keys).incoming = (server keys).outgoing := rfl

/-- The sender adds the next byte of its outgoing stream to an opcode. -/
def hide (pair : KeystreamPair) (opcode : UInt8) : UInt8 × KeystreamPair :=
  let (byte, rest) := pair.outgoing.nextByte
  (opcode + byte, { pair with outgoing := rest })

/-- The receiver subtracts the next byte of its incoming stream from an opcode. -/
def reveal (pair : KeystreamPair) (opcode : UInt8) : UInt8 × KeystreamPair :=
  let (byte, rest) := pair.incoming.nextByte
  (opcode - byte, { pair with incoming := rest })

end KeystreamPair

end GameServer
