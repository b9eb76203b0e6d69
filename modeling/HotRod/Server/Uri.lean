import HotRod.Properties.Key
import HotRod.Server.Address
import HotRod.Text.Percent
set_option autoImplicit false

/-!
# Hot Rod URIs

`hotrod[s]://[user[:password]@]host[:number][,host[:number]]*[?key=value&...]` names the servers of a
client and may carry credentials and properties. The scheme `hotrods` turns on TLS. User, password,
keys and values may hold percent escapes, and a key may leave out the prefix of client properties.
-/

namespace HotRod

structure HotRodUri where
  tls : Bool
  servers : List ServerAddress
  username : Option String
  password : Option String
  /-- The properties of the query in order, with full keys. -/
  properties : List (String × String)
  deriving DecidableEq, Repr

namespace HotRodUri

def readScheme? (scheme : List Char) : Option Bool :=
  let lower := scheme.map Char.toLower
  if lower = "hotrod".toList then some false
  else if lower = "hotrods".toList then some true
  else none

def dropSlashes (location : List Char) : List Char :=
  (location.reverse.dropWhile (· == '/')).reverse

/-- The user info, if there is one, and the hosts. -/
def splitUserInfo (location : List Char) : Option (List Char) × List Char :=
  match Text.splitLast? '@' location with
  | some (userInfo, hosts) => (some userInfo, hosts)
  | none => (none, location)

/-- User and password of a user info. An empty user is none, an empty password is one. -/
def readUserInfo : Option (List Char) → Except UriFault (Option String × Option String)
  | none => .ok (none, none)
  | some userInfo => do
    let (user, password?) := match Text.splitFirst? [':'] userInfo with
      | some (user, password) => (user, some password)
      | none => (userInfo, none)
    let user ← (Text.Percent.decode? user).elim (.error .userEscape) .ok
    let password ← match password? with
      | none => .ok none
      | some password => (Text.Percent.decode? password).elim (.error .passwordEscape) (.ok ∘ some)
    return (if user.isEmpty then none else some user, password)

def readServers (hosts : List Char) : Except UriFault (List ServerAddress) := do
  let entries := (hosts.splitOn ',').filter fun entry => !(Text.trim entry).isEmpty
  let servers ← entries.mapM fun entry =>
    (ServerAddress.read? entry).elim (.error .serverAddress) .ok
  if servers.isEmpty then .error .noServers else return servers

def qualify (key : String) : String :=
  if propertyPrefix.toList.isPrefixOf key.toList then key else propertyPrefix ++ key

/-- One property of a query; without an equals sign its value is empty. -/
def readPair (pair : List Char) : Except UriFault (String × String) := do
  let (key, value) := (Text.splitFirst? ['='] pair).getD (pair, [])
  let key ← (Text.Percent.decode? key).elim (.error .queryEscape) .ok
  let value ← (Text.Percent.decode? value).elim (.error .queryEscape) .ok
  return (qualify key, value)

def readQuery : Option (List Char) → Except UriFault (List (String × String))
  | none => .ok []
  | some query => ((query.splitOn '&').filter fun pair => !pair.isEmpty).mapM readPair

def read (uri : List Char) : Except UriFault HotRodUri := do
  let (scheme, rest) ← (Text.splitFirst? "://".toList (Text.trim uri)).elim
    (.error .missingScheme) .ok
  let tls ← (readScheme? scheme).elim (.error .unknownScheme) .ok
  let (location, query) := match Text.splitFirst? ['?'] rest with
    | some (location, query) => (location, some query)
    | none => (rest, none)
  let (userInfo, hosts) := splitUserInfo (dropSlashes location)
  let (username, password) ← readUserInfo userInfo
  let servers ← readServers hosts
  let properties ← readQuery query
  return { tls, servers, username, password, properties }

/-- Read a URI, or fail with the text and what is wrong with it. -/
def parse (uri : String) : Except ClientError HotRodUri :=
  (read uri.toList).mapError (ClientError.invalidUri uri)

end HotRodUri

end HotRod
