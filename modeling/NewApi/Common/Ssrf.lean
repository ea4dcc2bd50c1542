import Mathlib.Algebra.Group.Nat.Defs
import NewApi.Common.Text

/-!
# The protected fetch client

Addresses are numbers; `net.ParseIP`, the CIDR lists and `unicode.ToLower` are left to the
environment. Each hop of a fetch resolves its host anew for every check and every dial. There is no
proxy.
-/

namespace NewApi.Common

inductive IP where
  | v4 (address : Nat)
  | v6 (address : Nat)
deriving DecidableEq

structure NetEnv where
  parseIP : String → Option IP
  isIpInCIDRList : IP → List String → Bool
  toLower : Char → Char
  toLower_ascii : ∀ c, c.val < 128 → toLower c = c.toLower

structure SSRFProtection where
  (allowPrivateIp domainFilterMode : Bool)
  domainList : List String
  ipFilterMode : Bool
  ipList : List String
  allowedPorts : List Int
  applyIPFilterForDomain : Bool

def privateIPv4Nets : List (Nat × Nat) :=
  [(0, 24), (0x0A000000, 24), (0x64400000, 22), (0x7F000000, 24), (0xA9FE0000, 16), (0xAC100000, 20), (0xC0000000, 8),
    (0xC0000200, 8), (0xC0A80000, 16), (0xC6120000, 17), (0xC6336400, 8), (0xCB007100, 8),
      (0xE0000000, 28), (0xF0000000, 28),
    (0xFFFFFFFF, 0)]

def privateIPv6Nets : List (Nat × Nat × Nat) :=
  [(0, 0, 0), (0, 1, 0), (0, 0xFFFF00000000, 32), (0x0064FF9B00000000, 0, 32), (0x0100000000000000, 0, 64),
    (0x2001000000000000, 0, 105), (0x20010DB800000000, 0, 96), (0xFC00000000000000, 0, 121),
      (0xFE80000000000000, 0, 118),
    (0xFF00000000000000, 0, 120)]

/-- The predicates of `net.IP` that the source asks as well hold only inside these networks. -/
def isPrivateIP : IP → Bool
  | .v4 address => privateIPv4Nets.any fun (net, bits) => address >>> bits = net >>> bits
  | .v6 address => privateIPv6Nets.any fun (high, low, bits) => address >>> bits = (high <<< 64 + low) >>> bits

/-- Sixteen bytes as `To4` reads them: an IPv4-mapped address is the IPv4 address. -/
def to4 (address : Nat) : IP := if address >>> 32 = 0xFFFF then .v4 (address % 2 ^ 32) else .v6 address

section Protection
variable (net : NetEnv) (p : SSRFProtection)

def lower (text : String) : String := String.ofList (text.toList.map net.toLower)

def isDomainListed (domain : String) (list : List String) : Bool :=
  list.any fun item =>
    let item := lower net (trimSpace item)
    item ≠ "" && (lower net domain = item || (hasPrefix item "*." &&
      (hasSuffix (lower net domain) (String.ofList (item.toList.drop 1)) ||
        lower net domain = String.ofList (item.toList.drop 2))))

def isAllowedPort (port : Int) : Bool := p.allowedPorts.isEmpty || p.allowedPorts.contains port

def isDomainAllowed (domain : String) : Bool := isDomainListed net domain p.domainList == p.domainFilterMode

def isIPAccessAllowed (ip : IP) : Bool :=
  !(isPrivateIP ip && !p.allowPrivateIp) && (net.isIpInCIDRList ip p.ipList == p.ipFilterMode)

inductive TargetError where
  | invalidHost
  | invalidPort (port : Int)
  | portNotAllowed (port : Int)
  | ipAccess (ip : IP)
  | domain (host : String)

def validateNetworkTarget (host : String) (port : Int) : Except TargetError Unit :=
  let host := trimSpace host
  if host = "" then .error .invalidHost
  else if port < 1 ∨ 65535 < port then .error (.invalidPort port)
  else if isAllowedPort p port = false then .error (.portNotAllowed port)
  else match net.parseIP host with
  | some ip => if isIPAccessAllowed net p ip then .ok () else .error (.ipAccess ip)
  | none => if isDomainAllowed net p host then .ok () else .error (.domain host)

def validateURL (host : String) (port : Int) (answer : Option (List IP)) : Bool :=
  (validateNetworkTarget net p host port).isOk && ((net.parseIP host).isSome || !p.applyIPFilterForDomain ||
    answer.any fun ips => ips.all (isIPAccessAllowed net p))

inductive Destination where
  | ip (ip : IP)
  | name (host : String)
deriving DecidableEq

structure DialCall where
  answer : Option (List IP)
  accepts : IP → Bool

def tryDials (accepts : IP → Bool) : List IP → List Destination
  | [] => []
  | ip :: rest => .ip ip :: if accepts ip then [] else tryDials accepts rest

def dialContext (host : String) (port : Int) (call : DialCall) : List Destination :=
  if (validateNetworkTarget net p host port).isOk = false then []
  else match net.parseIP host, call.answer with
  | some ip, _ => [.ip ip]
  | none, answer =>
    if p.applyIPFilterForDomain = false then [.name host]
    else match answer with
    | none => []
    | some ips => if ips.all (isIPAccessAllowed net p) then tryDials call.accepts ips else []

structure Hop where
  host : String
  port : Int
  (redirectAnswer urlAnswer : Option (List IP))
  dials : List DialCall

structure Connection where
  host : String
  port : Int
  destination : Destination

def roundTrip (hop : Hop) : List Connection :=
  if validateURL net p hop.host hop.port hop.urlAnswer then
    (hop.dials.flatMap (dialContext net p hop.host hop.port)).map (⟨hop.host, hop.port, ·⟩)
  else []

def redirects : Nat → List Hop → List Connection
  | 0, _ => []
  | _, [] => []
  | left + 1, hop :: rest =>
    if validateURL net p hop.host hop.port hop.redirectAnswer then roundTrip net p hop ++ redirects left rest else []

def fetch : List Hop → List Connection
  | [] => []
  | first :: rest => roundTrip net p first ++ redirects net p 10 rest

end Protection
end NewApi.Common
