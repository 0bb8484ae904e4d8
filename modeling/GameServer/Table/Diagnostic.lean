import GameServer.Message.Diagnostic
import GameServer.Table.Basic

/- This file shows a binding without its codec. -/

namespace GameServer

/-- A length field shows its width. -/
def LengthField.diagnostic : LengthField → String
  | .byte => "Byte"
  | .short => "Short"

/-- A rule shows its length or its field. -/
def LengthRule.diagnostic : LengthRule → String
  | .fixed length => Diagnostic.applied "Fixed" (toString length)
  | .declared field => Diagnostic.applied "VariablePrefixed" field.diagnostic

/-- A framing shows its opcode and rule. -/
def Framing.diagnostic : Framing → String
  | .headless => "Headless"
  | .framed opcode rule =>
      Diagnostic.record "Opcode"
        [("opcode", toString opcode.toNat), ("length_rule", rule.diagnostic)]

/-- A binding for reading shows its opcode, rule and kind. -/
def Inbound.diagnostic (binding : Inbound) : String :=
  Diagnostic.partialRecord "OpcodeEntry"
    [("opcode", toString binding.opcode.toNat), ("length_rule", binding.rule.diagnostic),
      ("kind", binding.kind.label)]

/-- A binding for writing shows its kind and framing. -/
def Outbound.diagnostic (binding : Outbound) : String :=
  Diagnostic.partialRecord "OutboundEntry"
    [("kind", binding.kind.label), ("framing", binding.framing.diagnostic)]

end GameServer
