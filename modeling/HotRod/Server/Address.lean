import HotRod.Error
import HotRod.Text.Blank
set_option autoImplicit false

/-!
# Server addresses

A server is named by a host, in brackets when it is an IPv6 address, and the number of the TCP
endpoint it listens at, which may be left out. Server lists separate addresses by semicolons or commas
and may have blank entries.
-/

namespace HotRod

/-- The number used by a server whose address names none. -/
def defaultPortNumber : UInt16 := 11222

structure ServerAddress where
  host : String
  portNumber : UInt16
  deriving DecidableEq, Repr

namespace ServerAddress

def isHostChar (c : Char) : Bool := c.isAlphanum || c == '.' || c == '_' || c == '-'

def isBracketChar (c : Char) : Bool :=
  c.isDigit || ('a' ≤ c && c ≤ 'f') || ('A' ≤ c && c ≤ 'F') || c == ':' || c == '.'

/-- Read the host an address starts with, and what follows it. -/
def readHost? : List Char → Option (List Char × List Char)
  | '[' :: inner =>
    match inner.takeWhile isBracketChar, inner.dropWhile isBracketChar with
    | c :: host, ']' :: rest => some (c :: host, rest)
    | _, _ => none
  | text =>
    match text.takeWhile isHostChar with
    | [] => none
    | c :: host => some (c :: host, text.dropWhile isHostChar)

/-- Read what follows the host: nothing, or a colon and one to five digits. -/
def readPortNumber? : List Char → Option UInt16
  | [] => some defaultPortNumber
  | ':' :: digits =>
    if digits.length ≤ 5 && digits.all Char.isDigit then
      match Text.readUInt16 digits with
      | .ok number => if number = 0 then none else some number
      | .error _ => none
    else none
  | _ => none

def read? (text : List Char) : Option ServerAddress := do
  let (host, rest) ← readHost? (Text.trim text)
  let number ← readPortNumber? rest
  return ⟨.ofList host, number⟩

/-- Read an address, or fail with the text that is none. -/
def parse (text : List Char) : Except ClientError ServerAddress :=
  match read? text with
  | some address => .ok address
  | none => .error (.invalidServerAddress (.ofList (Text.trim text)))

def text (address : ServerAddress) : String :=
  if address.host.toList.contains ':' then
    "[" ++ address.host ++ "]:" ++ Nat.repr address.portNumber.toNat
  else address.host ++ ":" ++ Nat.repr address.portNumber.toNat

end ServerAddress

def isListSeparator (c : Char) : Bool := c == ';' || c == ','

/-- The addresses of a server list, up to the first that is none. Blank entries are skipped. -/
def parseServerList (list : String) : Except ClientError (List ServerAddress) :=
  ((list.toList.splitOnP isListSeparator).filter fun entry => !(Text.trim entry).isEmpty).mapM
    ServerAddress.parse

def serverListText (servers : List ServerAddress) : String :=
  String.intercalate ";" (servers.map ServerAddress.text)

end HotRod
