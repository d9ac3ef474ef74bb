import RealmDesk.Domain.Name
import RealmDesk.Text.Percent

/-!
# Authorities

The authority of an absolute URL names the server that is asked: a user, a host and a port, of
which only the host has to be there. The host is a name, an IPv4 address in up to four numbers, or
an IPv6 address in brackets. A URL whose authority is at fault cannot be asked for anything.
-/

namespace RealmDesk

/-- Why an authority names no server. -/
inductive AuthorityFault where
  /-- There is no host. -/
  | emptyHost
  /-- The port is not a number below `2 ^ 16`. -/
  | invalidPort
  /-- The host ends in a number and is no IPv4 address. -/
  | invalidIpv4
  /-- The host stands in brackets and is no IPv6 address. -/
  | invalidIpv6
  /-- The host is no name. -/
  | invalidName
deriving DecidableEq, Inhabited

/-- The text of the fault. -/
def AuthorityFault.message : AuthorityFault → String
  | .emptyHost => "empty host"
  | .invalidPort => "invalid port number"
  | .invalidIpv4 => "invalid IPv4 address"
  | .invalidIpv6 => "invalid IPv6 address"
  | .invalidName => "invalid international domain name"

/-- The server that a URL names. -/
structure Authority where
  /-- The host, as it is written. -/
  host : List Char
  /-- What stands after the colon, if there is one. -/
  port : List Char
deriving DecidableEq, Inhabited

namespace Authority

/-- One number of an IPv4 address: hexadecimal after `0x`, octal after `0`, or else decimal. -/
def ipv4Number? : List Char → Option Nat
  | [] => none
  | '0' :: 'x' :: digits => Text.numeral? 16 digits
  | ['0'] => some 0
  | '0' :: digits => Text.numeral? 8 digits
  | digits => Text.numeral? 10 digits

/-- The parts of a name between its dots; a dot at the end starts no part. -/
def parts (name : List Char) : List (List Char) :=
  let pieces := Text.pieces '.' name
  if pieces.getLast? = some [] then pieces.dropLast else pieces

/-- Whether the last part of a name is a number, so that the name is meant as an IPv4 address. -/
def endsInNumber (name : List Char) : Bool :=
  match (parts name).getLast? with
  | none => false
  | some part => (!part.isEmpty && part.all Char.isDigit) || (ipv4Number? part).isSome

/-- Whether a name is an IPv4 address: at most four numbers, each but the last below 256, and the
last in the bytes that are left. -/
def isIpv4 (name : List Char) : Bool :=
  match (parts name).mapM ipv4Number? with
  | none => false
  | some numbers =>
      numbers.length ≤ 4 && numbers.dropLast.all (· < 256) &&
        numbers.getLast?.any (· < Nat.pow 256 (5 - numbers.length))

/-- Whether a text is one of the four numbers at the end of an IPv6 address. -/
def isIpv6Byte (digits : List Char) : Bool :=
  (Text.numeral? 10 digits).any (· < 256) && digits ≠ [] &&
    (digits.head? ≠ some '0' || digits = ['0'])

/-- The number of groups that a part of an IPv6 address writes, if it is well formed. A part that
ends the address may end in four decimal numbers, which make up two groups. -/
def ipv6Groups? (final : Bool) (part : List Char) : Option Nat :=
  let groups := Text.pieces ':' part
  let isGroup (group : List Char) : Bool :=
    !group.isEmpty && group.length ≤ 4 && (Text.numeral? 16 group).isSome
  let last := groups.getLast?.getD []
  if part.isEmpty then some 0
  else if !groups.dropLast.all isGroup then none
  else if isGroup last then some groups.length
  else
    let bytes := Text.pieces '.' last
    if final && bytes.length = 4 && bytes.all isIpv6Byte then some (groups.length + 1) else none

/-- What stands before the first pair of colons, and what stands after it if there is one. -/
def cutColons : List Char → List Char × Option (List Char)
  | ':' :: ':' :: rest => ([], some rest)
  | first :: rest =>
      let (before, after) := cutColons rest
      (first :: before, after)
  | [] => ([], none)

/-- Whether a text is an IPv6 address: eight groups, or fewer with one pair of colons for the
groups that are zero. -/
def isIpv6 (text : List Char) : Bool :=
  match cutColons text with
  | (whole, none) => ipv6Groups? true whole = some 8
  | (before, some after) =>
      match ipv6Groups? false before, ipv6Groups? true after with
      | some left, some right => left + right ≤ 7
      | _, _ => false

/-- What is wrong with a host. -/
def hostFault? (host : List Char) : Option AuthorityFault :=
  match host with
  | [] => some .emptyHost
  | '[' :: rest =>
      if rest.getLast? = some ']' && isIpv6 (rest.dropLast.map Char.toLower) then none
      else some .invalidIpv6
  | _ =>
      match (Text.Percent.decode? (String.ofList host)).bind (Domain.normal? ·.toList) with
      | none => some .invalidName
      | some [] => some .emptyHost
      | some name => if endsInNumber name && !isIpv4 name then some .invalidIpv4 else none

/-- Whether a character ends an authority. -/
def endsAuthority (character : Char) : Bool :=
  character = '/' || character = '\\' || character = '?' || character = '#'

/-- The host and the port; a colon in brackets belongs to the host. -/
def splitHost : Bool → List Char → Authority
  | _, [] => ⟨[], []⟩
  | bracketed, first :: rest =>
      if first = ':' && !bracketed then ⟨[], rest⟩
      else
        let inside := first = '[' || (bracketed && first ≠ ']')
        let authority := splitHost inside rest
        { authority with host := first :: authority.host }

/-- What of a URL counts: all but line breaks and tabs, and no blanks or control characters at its
end. -/
def significant (url : String) : List Char :=
  let trimmed := (url.toList.reverse.dropWhile (·.toNat ≤ 0x20)).reverse
  trimmed.filter fun character => !(character = '\t' || character = '\n' || character = '\r')

/-- The authority after the scheme of a URL; the user before the last at sign is dropped. -/
def afterScheme (rest : List Char) : Authority :=
  let written := (rest.dropWhile fun character => character = '/' || character = '\\').takeWhile
    (!endsAuthority ·)
  splitHost false (written.reverse.takeWhile (· ≠ '@')).reverse

/-- What follows a beginning of a text, if the text begins so. -/
def after? (beginning text : List Char) : Option (List Char) :=
  if beginning.isPrefixOf text then some (text.drop beginning.length) else none

/-- The authority of a URL, unless the URL is relative to the page. -/
def ofUrl? (url : String) : Option Authority :=
  let url := significant url
  ((after? "http://".toList url).or (after? "https://".toList url)).map afterScheme

/-- What is wrong with a port; it may be left out after its colon. -/
def portFault? (port : List Char) : Option AuthorityFault :=
  if (Text.numeral? 10 port).any (· < 0x10000) then none else some .invalidPort

/-- What is wrong with an authority; the host is looked at first. -/
def fault? (authority : Authority) : Option AuthorityFault :=
  (hostFault? authority.host).or (portFault? authority.port)

end Authority

end RealmDesk
