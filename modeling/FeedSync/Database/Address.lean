import FeedSync.Url.Query

/-!
# Addresses of databases

The address of a database names its server, the account and the database; settings in its query can
say the same again and then count instead.
-/

namespace FeedSync.Database

open FeedSync.Text

/-- How a database is reached. -/
structure Address where
  host : String := "localhost"
  port : Nat := 5432
  user : Option String := none
  password : Option String := none
  database : Option String := none
  deriving DecidableEq, Repr

namespace Address

/-- What can be asked for about encryption. -/
def sslModes : List String := ["disable", "allow", "prefer", "require", "verify-ca", "verify-full"]

/-- Whether a text is the number of a host. -/
def isHostNumber (cs : List Char) : Bool :=
  let bytes := cs.splitOn '.'
  (bytes.length == 4 && bytes.all Url.isByte) || Url.isIpv6 cs

/-- An address with a setting taken in; missing if its value cannot be used. Settings that are not
known do not count. -/
def set (a : Address) (setting : String × String) : Option Address :=
  let (name, value) := setting
  match name with
  | "sslmode" | "ssl-mode" => if value.toLower ∈ sslModes then some a else none
  | "statement-cache-capacity" => (unsigned? (UInt64.size - 1) value.toList).map fun _ => a
  | "host" => some { a with host := value }
  | "hostaddr" => if isHostNumber value.toList then some { a with host := value } else none
  | "port" => (unsigned? (UInt16.size - 1) value.toList).map fun port => { a with port }
  | "dbname" => some { a with database := some value }
  | "user" => some { a with user := some value }
  | "password" => some { a with password := some value }
  | _ => some a

/-- A part of an address that may be left out. -/
def part? (cs : List Char) : Option (Option String) :=
  if cs.isEmpty then some none else (Url.decoded? cs).map some

/-- The address in a text. -/
def ofText? (text : String) : Option Address := do
  let url ← Url.parse? none text
  let base : Address := {
    host := match url.host with
      | none | some [] => "localhost"
      | some host => String.ofList host
    port := url.port.getD 5432
    user := ← part? url.username
    password := ← part? url.password
    database := ← part? (url.pathText.dropWhile (· == '/')) }
  url.settings.foldlM set base

end Address

end FeedSync.Database
