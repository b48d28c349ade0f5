/-
Origins that browsers may call from: the address that is served, with and without its port. All
names of the local machine stand for each other.
-/
namespace RowSieve.Http

/-- Whether a host stands for all addresses of the machine. -/
def isAllInterfaces (host : String) : Bool := host == "0.0.0.0" || host == "::" || host == "[::]"

/-- The hosts that browsers may name. -/
def originHosts (host : String) : List String :=
  if isAllInterfaces host || host == "127.0.0.1" || host == "localhost" then
    ["localhost", "127.0.0.1"]
  else [host]

/-- The origins allowed for a server. -/
def allowedOrigins (host : String) (port : Nat) : List String :=
  (originHosts host).flatMap fun h => [s!"http://{h}:{port}", s!"http://{h}"]

def isAllowedOrigin (host : String) (port : Nat) (origin : String) : Bool :=
  (allowedOrigins host port).contains origin

/-- Whether a text can stand in a header: no control character but the tab. -/
def isHeaderText (s : String) : Bool :=
  s.toList.all fun c => (0x20 ≤ c.toNat && c.toNat ≠ 0x7f) || c == '\t'

/-- The headers that tell a browser whether it may read the answer, in order. -/
def corsHeaders (host : String) (port : Nat) (method : String) (origin? : Option String) :
    List (String × String) :=
  let origin := match origin? with
    | some o =>
      if isHeaderText o && isAllowedOrigin host port o then
        [("access-control-allow-origin", o)]
      else []
    | none => []
  let permissions :=
    if method == "OPTIONS" then
      [("access-control-allow-headers", "content-type,accept,origin"),
       ("access-control-allow-methods", "GET,OPTIONS")]
    else []
  permissions ++ origin ++
    [("vary", "origin, access-control-request-method, access-control-request-headers")]

end RowSieve.Http
