import WebClient.Url.Domain

/-!
# Host — the host of a URL

The host of a special URL is a domain, an IPv4 address or an IPv6 address in brackets.  A domain
whose last label is a number has to be an IPv4 address, in any of the notations that browsers know.
-/

namespace WebClient

/-- Why a text is not a URL. -/
inductive UrlError where
  | relative
  | emptyHost
  | invalidDomain
  | invalidDomainCharacter
  | invalidPort
  | invalidIpv4
  | invalidIpv6
  deriving DecidableEq, Repr

def UrlError.message : UrlError → String
  | .relative => "relative URL without a base"
  | .emptyHost => "empty host"
  | .invalidDomain => "invalid international domain name"
  | .invalidDomainCharacter => "invalid domain character"
  | .invalidPort => "invalid port number"
  | .invalidIpv4 => "invalid IPv4 address"
  | .invalidIpv6 => "invalid IPv6 address"

/-- The host of a URL. -/
inductive Host where
  /-- A domain as written in ASCII. -/
  | domain (name : String)
  | ipv4 (address : Nat)
  /-- The address as written between the brackets. -/
  | ipv6 (address : String)
  /-- The host of a URL of a scheme without rules of its own. -/
  | opaqueName (name : String)
  deriving DecidableEq, Repr

namespace Host

/-! ## Numbers -/

/-- A part of an IPv4 address: decimal, octal after `0` or hexadecimal after `0x`. -/
def ipv4Part? : List Char → Option Nat
  | [] => none
  | '0' :: 'x' :: digits => Text.number? 16 digits
  | '0' :: 'X' :: digits => Text.number? 16 digits
  | ['0'] => some 0
  | '0' :: digits => Text.number? 8 digits
  | digits => Text.number? 10 digits

/-- The labels of a domain, without the empty one after a final full stop. -/
def labelsOf (domain : List Char) : List (List Char) :=
  let labels := Text.pieces '.' domain
  if 1 < labels.length && labels.getLast?.any List.isEmpty then labels.dropLast else labels

def endsInNumber (domain : List Char) : Bool :=
  match (labelsOf domain).getLast? with
  | none => false
  | some last => (!last.isEmpty && last.all Char.isDigit) || (ipv4Part? last).isSome

/-- Reads an IPv4 address of one to four parts; the last part fills the bytes that remain. -/
def ipv4? (domain : List Char) : Option Nat := do
  let parts ← (labelsOf domain).mapM ipv4Part?
  let last ← parts.getLast?
  let leading := parts.dropLast
  let unit := Nat.pow 256 (4 - leading.length)
  if 3 < leading.length || leading.any (255 < ·) || unit ≤ last then none
  else some (leading.foldl (fun n part => n * 256 + part) 0 * unit + last)

/-- Whether four decimal parts from 0 to 255 without leading zeros stand between full stops. -/
def isDottedQuad (cs : List Char) : Bool :=
  let parts := Text.pieces '.' cs
  parts.length == 4 && parts.all fun part =>
    !part.isEmpty && part.all Char.isDigit && (part.length == 1 || part.head? != some '0') &&
      part.length ≤ 3 && (Text.number? 10 part).any (· ≤ 255)

/-- Whether a piece of an IPv6 address is a group of one to four hexadecimal digits. -/
def isGroup (cs : List Char) : Bool :=
  !cs.isEmpty && cs.length ≤ 4 && cs.all fun c => (Text.hexValue? c).isSome

/-- The number of 16-bit groups in pieces between colons; only the last may be a dotted quad, and
only if `quadAllowed`. -/
def groupCount? (quadAllowed : Bool) (pieces : List (List Char)) : Option Nat :=
  match pieces.getLast? with
  | none => some 0
  | some last =>
    if pieces.dropLast.all isGroup then
      if isGroup last then some pieces.length
      else if quadAllowed && isDottedQuad last then some (pieces.length + 1)
      else none
    else none

/-- What stands before and after the first double colon. -/
def cutAtDoubleColon : List Char → Option (List Char × List Char)
  | ':' :: ':' :: rest => some ([], rest)
  | c :: rest => (cutAtDoubleColon rest).map fun (before, after) => (c :: before, after)
  | [] => none

/-- The pieces between colons; none for an empty text. -/
def colonPieces (cs : List Char) : List (List Char) :=
  if cs.isEmpty then [] else Text.pieces ':' cs

/-- Whether a text is an IPv6 address: eight groups, or fewer around one double colon. -/
def isIpv6 (cs : List Char) : Bool :=
  match cutAtDoubleColon cs with
  | none => groupCount? true (colonPieces cs) == some 8
  | some (before, after) =>
    match groupCount? false (colonPieces before), groupCount? true (colonPieces after) with
    | some m, some n => m + n ≤ 7
    | _, _ => false

/-! ## Hosts -/

def bracketed? : List Char → Option (List Char)
  | '[' :: rest => if rest.getLast? = some ']' then some rest.dropLast else none
  | _ => none

def parse (cs : List Char) : Except UrlError Host :=
  if cs.head? = some '[' then
    match bracketed? cs with
    | some address =>
      if isIpv6 address then .ok (.ipv6 (.ofList address)) else .error .invalidIpv6
    | none => .error .invalidIpv6
  else
    match Domain.parse? cs with
    | none => .error .invalidDomain
    | some [] => .error .emptyHost
    | some name =>
      if endsInNumber name then
        match ipv4? name with
        | some address => .ok (.ipv4 address)
        | none => .error .invalidIpv4
      else .ok (.domain (.ofList name))

/-- Characters that have no place in the host of a URL of another scheme. -/
def isForbiddenOpaque (c : Char) : Bool :=
  "\x00\t\n\r #/:<>?@[\\]^|".toList.contains c

def parseOpaque (cs : List Char) : Except UrlError Host :=
  if cs.head? = some '[' then
    match bracketed? cs with
    | some address =>
      if isIpv6 address then .ok (.ipv6 (.ofList address)) else .error .invalidIpv6
    | none => .error .invalidIpv6
  else if cs.any isForbiddenOpaque then .error .invalidDomainCharacter
  else .ok (.opaqueName (.ofList cs))

end Host
end WebClient
