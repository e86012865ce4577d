import DocBatch.Net.Url
import DocBatch.Error
import DocBatch.Number.Digits
import DocBatch.Text.Quoted

/-!
# Connecting to the database

A database address is a URL. Its host names a server; a host that starts with `/` once
percent-decoded is instead the directory of the server's socket. The port (5432 unless
`PGPORT` or the URL says otherwise) and the query's parameters complete the settings:
`host` (a directory when it starts with `/`), `hostaddr` (an IP address), `port`,
`sslmode` and `statement-cache-capacity` are read and checked, in the query's order, and the
others are not checked. The host defaults to `PGHOST`, else `localhost`.

A socket directory is reached through its file `.s.PGSQL.<port>`; a connection succeeds only
to the socket a server listens on. A server reached over the network never answers here, so
such a connection gives up when the time to open one runs out.
-/

namespace DocBatch

/-- Where a client's connection goes. -/
inductive Endpoint where
  /-- A socket file. -/
  | socket (path : String)
  /-- A host and port over the network. -/
  | tcp (host : String) (port : Nat)
  deriving Repr, DecidableEq

/-- The settings a connection is made with. -/
structure ConnectOptions where
  host : String
  port : Nat
  socket : Option String := none
  deriving Repr, Inhabited

namespace ConnectOptions

/-- The settings before the address is read: host and port from the environment. -/
def ofEnvironment (env : String → Option String) : ConnectOptions :=
  { host := (env "PGHOST").getD "localhost",
    port := ((env "PGPORT").bind fun v => (readNatural 65535 v).toOption).getD 5432 }

/-- The transport security modes. -/
def sslModes : List String := ["disable", "allow", "prefer", "require", "verify-ca", "verify-full"]

/-- A configuration fault of the database layer, with the fault under it. -/
def invalid (message : String) : DatabaseError := .configuration message

/-- Decodes a percent-encoded part of the address as UTF-8. -/
def decodePart (s : String) : Except DatabaseError String :=
  let bs := Url.percentDecode s
  match Utf8.fault? 0 bs with
  | some f => .error (invalid f.message)
  | none => .ok (Utf8.decodeLossy bs)

/-- Whether a text is an IP address. -/
def isIpAddress (s : String) : Bool :=
  let cs := s.toList
  let parts := cs.splitOn '.'
  (parts.length == 4 && parts.all fun p =>
      !p.isEmpty && p.length ≤ 3 && p.all Char.isDigit && (p.length == 1 || p.head? != some '0') &&
        (String.ofList p).toNat! < 256) ||
    (cs.contains ':' && Url.isIpv6 cs)

/-- Applies one parameter of the query. -/
def applyParameter (o : ConnectOptions) : String × String → Except DatabaseError ConnectOptions
  | (key, value) =>
    match key with
    | "sslmode" | "ssl-mode" =>
      if sslModes.contains (String.ofList (value.toList.map Char.toLower)) then .ok o
      else
        let inner := "unknown value " ++ Quoted.debug value ++ " for " ++ String.singleton (Char.ofNat 96) ++
          "ssl_mode" ++ String.singleton (Char.ofNat 96)
        .error (.configuration ("error with configuration: " ++ inner) [inner])
    | "statement-cache-capacity" =>
      match readNatural (Nat.pow 2 64 - 1) value with
      | .ok _ => .ok o
      | .error f => .error (invalid f.message)
    | "host" => .ok (if value.startsWith "/" then { o with socket := some value } else { o with host := value })
    | "hostaddr" => if isIpAddress value then .ok { o with host := value } else .error (invalid "invalid IP address syntax")
    | "port" =>
      match readNatural 65535 value with
      | .ok p => .ok { o with port := p }
      | .error f => .error (invalid f.message)
    | _ => .ok o

/-- The settings an address gives, over those of the environment. -/
def ofAddress (env : String → Option String) (address : String) : Except DatabaseError ConnectOptions := do
  let url ← (Url.parse address).mapError fun f => invalid f.message
  let o := ofEnvironment env
  let o ← match url.host with
    | some h =>
      let bs := Url.percentDecode h
      if bs.head? == some 47 then
        match Utf8.fault? 0 bs with
        | some f => throw (invalid f.message)
        | none => pure { o with socket := some (Utf8.decodeLossy bs) }
      else pure { o with host := h }
    | none => pure o
  let o := match url.port with
    | some p => { o with port := p }
    | none => o
  if !url.username.isEmpty then discard <| decodePart url.username
  if let some p := url.password then discard <| decodePart p
  let database := url.path.dropWhile (· == '/')
  if !database.isEmpty then discard <| decodePart database.copy
  url.queryPairs.foldlM applyParameter o

/-- Where a connection with these settings goes. -/
def endpoint (o : ConnectOptions) : Endpoint :=
  match o.socket with
  | some dir => .socket (dir ++ "/.s.PGSQL." ++ toString o.port)
  | none =>
    if o.host.startsWith "/" then .socket (o.host ++ "/.s.PGSQL." ++ toString o.port)
    else .tcp o.host o.port

end ConnectOptions

/-- The longest socket path, in octets, with its terminating zero. -/
def socketPathLimit : Nat := 108

/-- Opens a connection, knowing the socket a server listens on, if any. -/
def Endpoint.connect (listening : Option String) : Endpoint → Except DatabaseError Unit
  | .socket path =>
    let bs := Utf8.encode path
    if bs.contains 0 then .error (.io "paths must not contain interior null bytes")
    else if bs.length ≥ socketPathLimit then .error (.io "path must be shorter than SUN_LEN")
    else if listening == some path then .ok ()
    else .error (.io "No such file or directory (os error 2)")
  | .tcp _ _ => .error .poolTimedOut

/-- Connects to the database at an address. -/
def connectTo (env : String → Option String) (listening : Option String) (address : String) :
    Except Error Unit :=
  match ConnectOptions.ofAddress env address with
  | .error e => .error (.database e)
  | .ok o => (o.endpoint.connect listening).mapError Error.database

end DocBatch
