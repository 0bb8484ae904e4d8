import GameServer.Message.Basic
import GameServer.Phase

/- This file words everything that can be wrong with a payload, a frame or an order of messages. -/

namespace GameServer

/-- A payload fails to be a message of its kind for one of these causes. -/
inductive PayloadFault where
  | truncated (field : String) (needed left : Nat)
  | unterminated (field : String)
  | notText (field : String)
  | trailing (count : Nat)
  | lineFeed
  | blockLength (declared left : Nat)
  | blockTooLong
  | missingTrailer
  | shortWalk
  | oddOffsets
deriving DecidableEq

/-- The wording of a fault. -/
def PayloadFault.message : PayloadFault → String
  | .truncated field needed left =>
      "truncated " ++ field ++ ": need " ++ toString needed ++ " bytes, " ++ toString left ++ " left"
  | .unterminated field => "unterminated " ++ field
  | .notText field => field ++ " is not valid UTF-8"
  | .trailing count => toString count ++ " trailing bytes"
  | .lineFeed => "string contains a line feed"
  | .blockLength declared left =>
      "block length " ++ toString declared ++ " does not match " ++ toString left ++
        " remaining bytes"
  | .blockTooLong => "login block longer than 255 bytes"
  | .missingTrailer => "minimap walk is missing its trailer"
  | .shortWalk => "walk shorter than 5 bytes"
  | .oddOffsets => "step list has an odd number of bytes"

/-- Building a table, framing a message or accepting one fails for one of these causes. -/
inductive ProtocolError where
  | unknownOpcode (opcode : UInt8) (table : String)
  | opcodeTaken (opcode : UInt8) (table : String)
  | kindTaken (kind : Message.Kind) (table : String)
  | unboundKind (kind : Message.Kind) (table : String)
  | payloadTooLong (opcode : UInt8) (length capacity : Nat)
  | lengthMismatch (opcode : UInt8) (expected actual : Nat)
  | frameTooLong (length limit : Nat)
  | wrongKind (codec actual : Message.Kind)
  | malformed (kind : Message.Kind) (fault : PayloadFault)
  | unexpected (kind : Message.Kind) (phase : Phase)
deriving DecidableEq

/-- The wording of an error. -/
def ProtocolError.message : ProtocolError → String
  | .unknownOpcode opcode table =>
      "opcode " ++ toString opcode.toNat ++ " is not registered in the " ++ table ++ " table"
  | .opcodeTaken opcode table =>
      "opcode " ++ toString opcode.toNat ++ " is already registered in the " ++ table ++ " table"
  | .kindTaken kind table =>
      kind.name ++ " is already bound for encoding in the " ++ table ++ " table"
  | .unboundKind kind table =>
      kind.name ++ " has no encoding binding in the " ++ table ++ " table"
  | .payloadTooLong opcode length capacity =>
      "payload of " ++ toString length ++ " bytes exceeds the " ++ toString capacity ++
        "-byte capacity of opcode " ++ toString opcode.toNat
  | .lengthMismatch opcode expected actual =>
      "opcode " ++ toString opcode.toNat ++ " expects exactly " ++ toString expected ++
        " payload bytes, got " ++ toString actual
  | .frameTooLong length limit =>
      "declared frame length " ++ toString length ++ " exceeds the limit of " ++ toString limit ++
        " bytes"
  | .wrongKind codec actual => codec.name ++ " codec cannot encode a " ++ actual.name ++ " message"
  | .malformed kind fault => "malformed " ++ kind.name ++ " payload: " ++ fault.message
  | .unexpected kind phase =>
      "unexpected " ++ kind.name ++ " message, expected " ++ phase.expectation

end GameServer
