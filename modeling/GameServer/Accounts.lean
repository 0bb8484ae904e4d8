import GameServer.Login.Credentials
import GameServer.Player.Basic

/- A fixed list of accounts decides about logins. -/

namespace GameServer

/-- Every account has a canonical name and a password. -/
structure AccountList where
  entries : List (String × String)
deriving DecidableEq

namespace AccountList

/-- A later account takes the place of an earlier one of the same name. -/
def ofPairs (pairs : List (String × String)) : AccountList :=
  ⟨pairs.map fun pair => (canonicalName pair.1, pair.2)⟩

/-- The password of an account, if there is one of that name. -/
def password? (accounts : AccountList) (username : String) : Option String :=
  (accounts.entries.reverse.find? fun entry => entry.1 == canonicalName username).map Prod.snd

/-- An empty list accepts every name and password that are not empty. -/
def check (accounts : AccountList) (username password : String) : ResponseCode :=
  if (Text.trim username).isEmpty || password.isEmpty then
    .invalidCredentials
  else if accounts.entries.isEmpty then
    .ok
  else if accounts.password? username = some password then
    .ok
  else
    .invalidCredentials

end AccountList

end GameServer
