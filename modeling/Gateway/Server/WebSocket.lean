import Gateway.Connection.Manager

/-
# The upgrade endpoint

`ServeHTTP` takes the client's address from `getClientIP`: the
`X-Forwarded-For` header when it is not empty, else the peer address, with no
check of who sent the header. It asks `checkIPLimit`, which answers true for
every address, upgrades, and calls `AddConnection` with that address. So
`ServeHTTP` refuses no request (`serveHTTP_eq`), and the one limit on new
connections is `AddConnection`'s `ipLimiter.Allow(ip)`, keyed by a value the
client chooses (`getClientIP_header`); `Server.MaxConnsPerIP` is read by no
code.

A failed upgrade returns before `AddConnection` and changes nothing;
`serveHTTP` is the request once the upgrade has succeeded.
-/

namespace Gateway
namespace Server

open Connection

/-- The parts of an `*http.Request` that `ServeHTTP` reads. -/
structure Request where
  /-- `r.RemoteAddr`, the peer's address and port. -/
  remoteAddr : String
  /-- `r.Header.Get("X-Forwarded-For")`, `""` when the header is absent. -/
  xForwardedFor : String
  deriving DecidableEq, Repr

/-- `getClientIP(r)`. -/
def getClientIP (r : Request) : String :=
  if r.xForwardedFor ≠ "" then r.xForwardedFor else r.remoteAddr

/-- `s.checkIPLimit(ip)`. -/
def checkIPLimit (_ : String) : Bool := true

/-- `ServeHTTP(w, r)` after a successful upgrade: the call it makes, or `none`
when it answers 429 "too many connections from this IP". -/
def serveHTTP (r : Request) : Option Call :=
  let ip := getClientIP r
  if !checkIPLimit ip then none else some (.addConnection ip)

/-- **`ServeHTTP` refuses no request**: every request reaches `AddConnection`,
with the address `getClientIP` gives. -/
theorem serveHTTP_eq (r : Request) : serveHTTP r = some (.addConnection (getClientIP r)) := rfl

/-- A request with an `X-Forwarded-For` header is keyed by the header. -/
theorem getClientIP_header {r : Request} (h : r.xForwardedFor ≠ "") :
    getClientIP r = r.xForwardedFor := if_pos h

end Server
end Gateway
