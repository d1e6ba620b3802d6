import FacilitatorX402.Http.Errors
import FacilitatorX402.Library.CharPattern
import FacilitatorX402.Library.IpAddress

/-!
# Which urls a webhook may have

The parser of urls and the resolver are parameters. A parsed host is a name or an address, and what the
check looks at is its text: an IPv4 address in dotted decimals, an IPv6 address in brackets.
-/

namespace FacilitatorX402.Ssrf

open CharPattern IpAddress

inductive UrlHost where
  | domain (name : String)
  | ipv4 (ip : Ipv4)
  | ipv6 (ip : Ipv6)
  deriving DecidableEq

/-- What the check reads of a `URL`. The port is none where the text is empty. -/
structure ParsedUrl where
  protocol : String
  port : Option Nat
  host : UrlHost
  deriving DecidableEq

/-- `URL.hostname`. -/
def UrlHost.hostname : UrlHost → String
  | domain name => name
  | ipv4 ip => String.ofList ip.text
  | ipv6 ip => String.ofList ('[' :: (ip.text ++ [']']))

/-- What the two queries of the resolver answer for a name. -/
structure DnsAnswers where
  resolve4 : Except Err (List Ipv4)
  resolve6 : Except Err (List Ipv6)

/-- What stands between the environment and the check: `new URL`, which can throw, and the resolver. -/
structure UrlWorld where
  parse : String → Option ParsedUrl
  dns : String → DnsAnswers

def blockedPorts : List Nat :=
  [5432, 5433, 6379, 6380, 3306, 27017, 9200, 9300, 2379, 2380]

/-- `/^172\.(1[6-9]|2\d|3[01])\./`. -/
def classBPattern (host : List Char) : Bool :=
  begins (lit "172" ++ (· == '.') :: [(· == '1'), range '6' '9', (· == '.')]) host ||
    begins (lit "172" ++ (· == '.') :: [(· == '2'), range '0' '9', (· == '.')]) host ||
      begins (lit "172" ++ (· == '.') :: [(· == '3'), range '0' '1', (· == '.')]) host

def privatePatterns : List (List Char → Bool) :=
  [ begins (lit "127" ++ [(· == '.')]),
    begins (lit "10" ++ [(· == '.')]),
    classBPattern,
    begins (lit "192" ++ (· == '.') :: (lit "168" ++ [(· == '.')])),
    begins (lit "169" ++ (· == '.') :: (lit "254" ++ [(· == '.')])),
    (· == "::1".toList),
    begins (litAnyCase "fc00" ++ [(· == ':')]),
    begins (litAnyCase "fd" ++ [hexAnyCase, hexAnyCase] ++ [(· == ':')]),
    begins (litAnyCase "fe80" ++ [(· == ':')]),
    (· == "0.0.0.0".toList),
    whole (litAnyCase "localhost"),
    ends (litAnyCase ".local"),
    ends (litAnyCase ".internal"),
    whole (litAnyCase "metadata.google.internal"),
    (· == "169.254.169.254".toList) ]

def isPrivateOrReservedIp (host : String) : Bool := privatePatterns.any fun re => re host.toList

/-- The addresses of both queries, in the form the resolver writes them; a query that fails has none. -/
def DnsAnswers.texts (answers : DnsAnswers) : List String :=
  (answers.resolve4.toOption.getD []).map (fun ip => String.ofList ip.text) ++
    (answers.resolve6.toOption.getD []).map fun ip => String.ofList ip.ntop

/-- It resolves, or throws an error with a message. -/
def assertSafeWebhookUrl (world : UrlWorld) (rawUrl : String) : Except String Unit :=
  match world.parse rawUrl with
  | none => .error "SSRF: invalid URL"
  | some parsed =>
      let port := parsed.port.getD 443
      let hostname := parsed.host.hostname
      if parsed.protocol ≠ "https:" then .error "SSRF: only HTTPS webhook URLs are allowed"
      else if port ∈ blockedPorts then .error ("SSRF: port " ++ toString port ++ " is not allowed")
      else if isPrivateOrReservedIp hostname then
        .error "SSRF: private or reserved IP address not allowed"
      else
        match (world.dns hostname).texts.find? isPrivateOrReservedIp with
        | some addr => .error ("SSRF: hostname resolves to private IP (" ++ addr ++ ")")
        | none => .ok ()

end FacilitatorX402.Ssrf
