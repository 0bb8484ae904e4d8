import GameServer.Address

/- This file reads the address that a server listens on. -/

namespace GameServer

/-- A text is no address for one of these causes. -/
inductive BindFault where
  | noPort
  | badPort
deriving DecidableEq

namespace BindFault

/-- The wording of a fault. -/
def message : BindFault → String
  | .noPort => "bind failed: invalid socket address"
  | .badPort => "bind failed: invalid port value"

/-- A port is written in digits, with a plus sign or without. -/
def isPort (text : List Char) : Bool :=
  let digits := if text.head? = some '+' then text.tail else text
  (Address.number? Address.portForm digits).any fun found => found.2.isEmpty

/-- The port stands behind the last colon. -/
def ofText? (text : String) : Option BindFault :=
  let backwards := text.toList.reverse
  if (Address.ofText? text).isSome then none
  else if !backwards.contains ':' then some .noPort
  else if isPort (backwards.takeWhile (· != ':')).reverse then none
  else some .badPort

end BindFault

end GameServer
