import CouchbaseSdk.Foundation.Decimal
import CouchbaseSdk.Foundation.MapOrder
import CouchbaseSdk.Foundation.Pattern
import CouchbaseSdk.Foundation.Forms

/-!
# Connection strings

A connection string is read by two patterns, one for its parts and one for the hosts, and its
options are read like a form.  What was read is written without escapes.
-/

namespace CouchbaseSdk
namespace Connstr

open Foundation
open Foundation.Pattern (findAll many one)

abbrev Text := List Char

structure ConnSpecAddress where
  host : Text
  port : Option UInt16
deriving DecidableEq

structure ConnSpec where
  scheme : Option Text
  hosts : List ConnSpecAddress
  options : FiniteMap Text (List Text)

inductive ErrorKind where
  | parse (msg : String)
deriving DecidableEq

/-!
# Reading
-/

/-- Any character but these. -/
def noneOf (chars : List Char) (c : Char) : Bool :=
  !chars.contains c

/-- The dot takes everything but the end of a line. -/
def dot (c : Char) : Bool :=
  c != '\n'

def schemeEnd : Text := [':', '/', '/']

/-- `((.*)://)?` -/
def schemePart : Pattern :=
  .opt (.group 1 (.seq (.group 2 (many dot)) (.literal schemeEnd)))

/-- `([^/?:]*)(:([^/?:@]*))?@` -/
def user : Pattern :=
  .seq (.group 4 (many (noneOf ['/', '?', ':'])))
    (.seq (.opt (.group 5 (.seq (.literal [':']) (.group 6 (many (noneOf ['/', '?', ':', '@']))))))
      (.literal ['@']))

def userPart : Pattern :=
  .opt (.group 3 user)

/-- `([^/?]*)` -/
def hostsPart : Pattern :=
  .group 7 (many (noneOf ['/', '?']))

/-- `(/([^?]*))?` -/
def pathPart : Pattern :=
  .opt (.group 8 (.seq (.literal ['/']) (.group 9 (many (noneOf ['?'])))))

/-- `(\?(.*))?` -/
def optionsPart : Pattern :=
  .opt (.group 10 (.seq (.literal ['?']) (.group 11 (many dot))))

def partsMatcher : Pattern :=
  .seq schemePart (.seq userPart (.seq hostsPart (.seq pathPart optionsPart)))

/-- `\[[^]]+]+` -/
def bracketed : Pattern :=
  .seq (.literal ['[']) (.seq (one (noneOf [']'])) (.seq (many (noneOf [']']))
    (.seq (one fun c => c == ']') (many fun c => c == ']'))))

/-- `[^;,:]+` -/
def named : Pattern :=
  .seq (one (noneOf [';', ',', ':'])) (many (noneOf [';', ',', ':']))

/-- `(:([0-9]*))?` -/
def portPart : Pattern :=
  .opt (.group 4 (.seq (.literal [':']) (.group 5 (many Char.isDigit))))

/-- `(;,)?` -/
def separatorPart : Pattern :=
  .opt (.group 6 (.literal [';', ',']))

/-- `((\[[^]]+]+)|([^;,:]+))(:([0-9]*))?(;,)?` -/
def hostMatcher : Pattern :=
  .seq (.group 1 (.alt (.group 2 bracketed) (.group 3 named))) (.seq portPart separatorPart)

/-- `u16::from_str` for digits. -/
def parsePort (digits : Text) : Except ErrorKind UInt16 :=
  match parseUnsigned (2 ^ 16) (String.ofList digits) with
  | some n => .ok (UInt16.ofNat n)
  | none =>
      .error (.parse ("failed to parse port: " ++
        if digits = [] then "cannot parse integer from empty string"
        else "number too large to fit in target type"))

/-- There is always a text for the first group. -/
def hostAddress (hostInfo : Match) : Except ErrorKind ConnSpecAddress :=
  match hostInfo.group 5 with
  | some port =>
      (parsePort port).map fun port => { host := (hostInfo.group 1).getD [], port := some port }
  | none => .ok { host := (hostInfo.group 1).getD [], port := none }

def parseHosts (hosts : Text) : Except ErrorKind (List ConnSpecAddress) :=
  (findAll hostMatcher hosts).mapM hostAddress

def parseOptions (options : Text) : FiniteMap Text (List Text) :=
  FiniteMap.group (Forms.parse options)

def parse (connStr : Text) : Except ErrorKind ConnSpec :=
  match partsMatcher.find connStr with
  | some parts => do
      let hosts <- (parts.group 7).elim (.ok []) parseHosts
      return { scheme := parts.group 2, hosts := hosts
               options := (parts.group 11).elim ∅ parseOptions }
  | none => .ok { scheme := none, hosts := [], options := ∅ }

/-!
# Writing
-/

def displayAddress (host : ConnSpecAddress) : Text :=
  match host.port with
  | some port => host.host ++ ':' :: Nat.toDigits 10 port.toNat
  | none => host.host

def displayHosts (hosts : List ConnSpecAddress) : Text :=
  [','].intercalate (hosts.map displayAddress)

def displayOption (k : Text) (v : List Text) : Text :=
  ['&'].intercalate (v.map fun value => k ++ '=' :: value)

def displayOptions (options : List (Text × List Text)) : Text :=
  let urlOptions := options.foldl (fun acc e =>
    if acc = [] then displayOption e.1 e.2 else acc ++ '&' :: displayOption e.1 e.2) []
  if urlOptions = [] then [] else '?' :: urlOptions

def display (order : MapOrder) (spec : ConnSpec) : Text :=
  spec.scheme.elim [] (fun scheme => scheme ++ schemeEnd) ++
    (displayHosts spec.hosts ++ displayOptions (order.pairs spec.options))

end Connstr
end CouchbaseSdk
