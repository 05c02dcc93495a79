import GelClient.Transport.Target

/-!
# DSN URLs

`Config::dsn_url` writes a configuration back as a `gel://` URL through the setters of the `url`
crate, whose errors it discards. The URL is modelled by its parts as the crate writes them:
percent-encoded user information, an opaque host, a port, a path after dot-segment removal, and
form-encoded query pairs. `Config.dsnUrl` is written block by block as the source is. Without a
host (at `localhost:5656`) the user goes into the query, where a server setting of that name
writes the same pair; and `set_host` reads a host only up to its first `:`, so an IPv6 host
written without brackets is cut or refused, and its port dropped with it.
-/

namespace GelClient.Dsn

open GelClient.Net GelClient.Stream

/-! ## Percent-encoding

The `percent-encoding`, `form_urlencoded` and `url` crates are not in this repository; they are
modelled from the crate, as far as `dsn_url` uses them. -/

def hexDigit (n : Nat) : Char := Char.ofNat (if n < 10 then 0x30 + n else 0x41 + n - 10)

def percentEncodeByte (b : UInt8) : List Char :=
  ['%', hexDigit (b.toNat / 16), hexDigit (b.toNat % 16)]

/-- `utf8_percent_encode(text, set)`: each UTF-8 byte of the text, `%XX` if the set holds it.
Every set below holds all non-ASCII bytes, so a byte written as itself is an ASCII character. -/
def percentEncode (set : UInt8 → Bool) (text : List Char) : List Char :=
  (text.flatMap String.utf8EncodeChar).flatMap fun b =>
    if set b then percentEncodeByte b else [Char.ofNat b.toNat]

def controls (b : UInt8) : Bool := b < 0x20 || 0x7F ≤ b

def pathSet (b : UInt8) : Bool :=
  controls b || [0x20, 0x22, 0x23, 0x3C, 0x3E, 0x3F, 0x60, 0x7B, 0x7D].contains b

def userinfoSet (b : UInt8) : Bool :=
  pathSet b || [0x2F, 0x3A, 0x3B, 0x3D, 0x40, 0x5B, 0x5C, 0x5D, 0x5E, 0x7C].contains b

/-- `form_urlencoded::byte_serialize`: ASCII letters, digits and `*` `-` `.` `_` as themselves,
space as `+`, every other byte as `%XX`. -/
def byteSerialize (text : List Char) : List Char :=
  (text.flatMap String.utf8EncodeChar).flatMap fun b =>
    if b = 0x20 then ['+']
    else if (0x30 ≤ b && b ≤ 0x39) || (0x41 ≤ b && b ≤ 0x5A) || (0x61 ≤ b && b ≤ 0x7A) ||
        [0x2A, 0x2D, 0x2E, 0x5F].contains b then [Char.ofNat b.toNat]
    else percentEncodeByte b

/-! ## URLs of the scheme `gel` -/

/-- A `url::Url` of the non-special scheme `gel` with an authority, by its parts as written. -/
structure Url where
  username : List Char
  password : Option (List Char)
  host : Option (List Char)
  port : Option (BitVec 16)
  path : List (List Char)
  query : List (List Char)
  deriving DecidableEq

def Url.gel : Url := ⟨[], none, none, none, [], []⟩

def Url.toString (url : Url) : String :=
  let userinfo :=
    if url.username = [] ∧ url.password = none then []
    else url.username ++ (match url.password with | some p => ':' :: p | none => []) ++ ['@']
  let port := match url.port with | some p => ':' :: (Nat.repr p.toNat).toList | none => []
  let query := if url.query = [] then [] else '?' :: (url.query.intersperse ['&']).flatten
  String.mk ("gel://".toList ++ userinfo ++ url.host.getD [] ++ port ++
    (url.path.flatMap fun segment => '/' :: segment) ++ query)

def Url.hasHost (url : Url) : Bool := url.host.isSome

def forbiddenHostChar (c : Char) : Bool :=
  [0, 9, 10, 13, 0x20, 0x23, 0x2F, 0x3A, 0x3C, 0x3E, 0x3F, 0x40, 0x5B, 0x5C, 0x5D, 0x5E,
    0x7C].contains c.toNat

/-- `Url::set_host(Some(host))` for a non-special scheme: a host not in brackets is cut at its
first `:`, and refused when that is its first character; a forbidden code point is refused; the
rest is percent-encoded with `CONTROLS`, an empty host leaving the URL without one. A bracketed
IPv6 literal, which `tcp()` never yields, is refused here rather than parsed. -/
def Url.setHost (url : Url) (host : List Char) : Except Unit Url :=
  if host.head? = some '[' then .error ()
  else if host.head? = some ':' then .error ()
  else
    let hostSubstr := host.takeWhile (· ≠ ':')
    if hostSubstr.any forbiddenHostChar then .error ()
    else .ok { url with host := if hostSubstr = [] then none else some (percentEncode controls hostSubstr) }

def Url.setPort (url : Url) (port : BitVec 16) : Except Unit Url :=
  if url.host.isNone then .error () else .ok { url with port := some port }

def Url.setUsername (url : Url) (username : List Char) : Except Unit Url :=
  if url.host.isNone then .error () else .ok { url with username := percentEncode userinfoSet username }

def Url.setPassword (url : Url) (password : List Char) : Except Unit Url :=
  if url.host.isNone then .error ()
  else .ok { url with password := if password = [] then none else some (percentEncode userinfoSet password) }

def splitSlash : List Char → List (List Char)
  | [] => [[]]
  | c :: cs =>
    if c = '/' then [] :: splitSlash cs
    else match splitSlash cs with
      | segment :: rest => (c :: segment) :: rest
      | [] => [[c]]

def isSingleDot (segment : List Char) : Bool :=
  segment = ['.'] || segment.map Char.toLower = ['%', '2', 'e']

def isDoubleDot (segment : List Char) : Bool :=
  match segment.map Char.toLower with
  | ['.', '.'] | ['.', '%', '2', 'e'] | ['%', '2', 'e', '.'] | ['%', '2', 'e', '%', '2', 'e'] => true
  | _ => false

def pathStep (last : Bool) (path : List (List Char)) (segment : List Char) : List (List Char) :=
  if isDoubleDot segment then path.dropLast ++ (if last then [[]] else [])
  else if isSingleDot segment then path ++ (if last then [[]] else [])
  else path ++ [percentEncode pathSet segment]

def pathSegments : List (List Char) → List (List Char) → List (List Char)
  | path, [] => path
  | path, [segment] => pathStep true path segment
  | path, segment :: rest => pathSegments (pathStep false path segment) rest

/-- `Url::set_path` on a URL with an authority: tabs and newlines are removed, one leading `/` is
taken, and the segments go through the path state. -/
def Url.setPath (url : Url) (path : List Char) : Url :=
  let input := path.filter fun c => c ≠ '\t' ∧ c ≠ '\n' ∧ c ≠ '\r'
  let input := if input.head? = some '/' then input.tail else input
  { url with path := if input = [] then [] else pathSegments [] (splitSlash input) }

def Url.appendPair (url : Url) (name value : List Char) : Url :=
  { url with query := url.query ++ [byteSerialize name ++ '=' :: byteSerialize value] }

/-! ## Configurations -/

structure Duration where
  nanos : Nat
  deriving DecidableEq

def defaultWait : Duration := ⟨30 * 1000000000⟩

def defaultPort : BitVec 16 := 5656

def defaultUser : String := "edgedb"

def localhostHostname : String := "localhost"

def defaultDatabaseName : String := "edgedb"

def defaultBranchNameConnect : String := "__default__"

inductive DatabaseBranch where
  | default
  | database (name : String)
  | branch (name : String)
  | ambiguous (name : String)
  deriving DecidableEq

def DatabaseBranch.database? : DatabaseBranch → Option String
  | .database name => some name
  | .branch name => some name
  | .ambiguous name => some name
  | .default => some defaultDatabaseName

def DatabaseBranch.branchForConnect : DatabaseBranch → Option String
  | .branch name => some name
  | .database name => some name
  | .ambiguous name => some name
  | .default => some defaultBranchNameConnect

def DatabaseBranch.name : DatabaseBranch → Option String
  | .database name => some name
  | .branch name => some name
  | .ambiguous name => some name
  | .default => none

inductive Authentication where
  | none
  | password (password : String)
  | secretKey (secretKey : String)
  deriving DecidableEq

def Authentication.password? : Authentication → Option String
  | .password p => some p
  | _ => Option.none

def Authentication.secretKey? : Authentication → Option String
  | .secretKey k => some k
  | _ => Option.none

inductive TlsSecurity where
  | insecure
  | noHostVerification
  | strict
  | default
  deriving DecidableEq

def TlsSecurity.toString : TlsSecurity → String
  | .insecure => "insecure"
  | .noHostVerification => "no_host_verification"
  | .strict => "strict"
  | .default => "default"

/-- Modelled from the spec: the host of a configuration, a TCP host (a name or an IP address) or
a Unix socket. -/
inductive HostType where
  | hostname (name : String)
  | ipAddr (addr : IpAddr)
  | path (path : List Byte)
  | abstractName (name : List Byte)
  deriving DecidableEq

structure Host where
  hostType : HostType
  port : BitVec 16
  deriving DecidableEq

/-- Modelled from the spec: `Host::target_name`, the endpoint a configuration connects to. -/
def Host.targetName (host : Host) : Except IoError MaybeResolvedTarget :=
  match host.hostType with
  | .hostname name => .ok (.unresolved name host.port none)
  | .ipAddr addr => .ok (.resolved (.socketAddr (SocketAddr.new addr host.port)))
  | .path path => (UnixSocketAddr.fromPathname path).map fun addr => .resolved (.unixSocketAddr addr)
  | .abstractName name =>
    (UnixSocketAddr.fromAbstractName name).map fun addr => .resolved (.unixSocketAddr addr)

inductive CloudCerts where
  | staging
  | local
  deriving DecidableEq

/-- `Config`, with the fields `dsn_url`, `to_tls` and `tls_ca_pem` read; `server_settings` is
listed in the order its `HashMap` iterates. -/
structure Config where
  host : Host
  db : DatabaseBranch
  user : String
  authentication : Authentication
  tlsSecurity : TlsSecurity
  tlsCa : Option (List (List Byte))
  tlsServerName : Option String
  waitUntilAvailable : Duration
  cloudCerts : Option CloudCerts
  serverSettings : List (String × String)
  deriving DecidableEq

def defaultConfig : Config where
  host := ⟨.hostname localhostHostname, defaultPort⟩
  db := .default
  user := defaultUser
  authentication := .none
  tlsSecurity := .strict
  tlsCa := none
  tlsServerName := none
  waitUntilAvailable := defaultWait
  cloudCerts := none
  serverSettings := []

/-- The host block of `Config::dsn_url`: a host other than `localhost` is set on the URL, with its
port when that is not the default; at `localhost` a port other than the default becomes the
query pair `port`. -/
def hostUrl (host : String) (port : BitVec 16) : Url :=
  let url := Url.gel
  if host ≠ localhostHostname then
    if port ≠ defaultPort then
      let url := (url.setHost host.toList).toOption.getD url
      (url.setPort port).toOption.getD url
    else (url.setHost host.toList).toOption.getD url
  else if port ≠ defaultPort then url.appendPair "port".toList (Nat.repr port.toNat).toList
  else url

def DatabaseBranch.setUrlPath (db : DatabaseBranch) (url : Url) : Url :=
  if db ≠ .default then
    let url := match db.database? with
      | some databaseName => url.setPath databaseName.toList
      | none => url
    match db.branchForConnect with
    | some branchName => url.setPath branchName.toList
    | none => url
  else url

def Config.setUserinfo (c : Config) (url : Url) : Url :=
  let url :=
    if c.user ≠ defaultUser then
      if !url.hasHost then url.appendPair "user".toList c.user.toList
      else (url.setUsername c.user.toList).toOption.getD url
    else url
  match c.authentication.password? with
  | some password =>
    if !url.hasHost then url.appendPair "password".toList password.toList
    else (url.setPassword password.toList).toOption.getD url
  | none => url

/-- The remaining blocks of `Config::dsn_url`, each a query pair, the server settings last.
`formatDuration` is `format_duration`, outside this repository. -/
def Config.appendOptions (formatDuration : Duration → String) (c : Config) (url : Url) : Url :=
  let url := if c.tlsCa.isSome then url.appendPair "tls_ca_file".toList "<...>".toList else url
  let url :=
    match c.authentication.secretKey? with
    | some secretKey => url.appendPair "secret_key".toList secretKey.toList
    | none => url
  let url :=
    if c.tlsSecurity ≠ .strict then url.appendPair "tls_security".toList c.tlsSecurity.toString.toList
    else url
  let url :=
    match c.tlsServerName with
    | some tlsServerName => url.appendPair "tls_server_name".toList tlsServerName.toList
    | none => url
  let url :=
    if c.waitUntilAvailable ≠ defaultWait then
      url.appendPair "wait_until_available".toList (formatDuration c.waitUntilAvailable).toList
    else url
  c.serverSettings.foldl (fun url setting => url.appendPair setting.1.toList setting.2.toList) url

/-- `Config::dsn_url`, block by block. Every error of a `url` setter is discarded, leaving the
URL as it was. -/
def Config.dsnUrl (formatDuration : Duration → String) (c : Config) : Option String := do
  let target ← c.host.targetName.toOption
  let (host, port) ← target.tcp
  let url := c.db.setUrlPath (hostUrl host port)
  pure (c.appendOptions formatDuration (c.setUserinfo url)).toString

/-! ## What a DSN URL tells apart -/

@[simp] theorem Url.host_setPath (url : Url) (path : List Char) :
    (url.setPath path).host = url.host := rfl

@[simp] theorem Url.host_appendPair (url : Url) (name value : List Char) :
    (url.appendPair name value).host = url.host := rfl

@[simp] theorem DatabaseBranch.host_setUrlPath (db : DatabaseBranch) (url : Url) :
    (db.setUrlPath url).host = url.host := by
  cases db <;>
    simp [DatabaseBranch.setUrlPath, DatabaseBranch.database?, DatabaseBranch.branchForConnect]

theorem dsnUrl_eq_of_tcp (formatDuration : Duration → String) {c : Config} {host : String}
    {port : BitVec 16}
    (htcp : c.host.targetName.toOption.bind MaybeResolvedTarget.tcp = some (host, port)) :
    c.dsnUrl formatDuration = some (c.appendOptions formatDuration
      (c.setUserinfo (c.db.setUrlPath (hostUrl host port)))).toString := by
  obtain ⟨target, htarget, hhp⟩ := Option.bind_eq_some.1 htcp
  simp [Config.dsnUrl, htarget, hhp]

@[simp] theorem Config.setUserinfo_host (c : Config) (host : Host) :
    { c with host := host }.setUserinfo = c.setUserinfo := rfl

@[simp] theorem Config.appendOptions_host (formatDuration : Duration → String) (c : Config)
    (host : Host) :
    { c with host := host }.appendOptions formatDuration = c.appendOptions formatDuration := rfl

theorem hostUrl_localhost : hostUrl localhostHostname defaultPort = Url.gel := rfl

/-- At the local default host a user other than the default is written as the query pair `user=…`,
exactly as a first server setting named `user`. -/
theorem dsnUrl_user_eq_setting (formatDuration : Duration → String) (c : Config) (u : String)
    (hu : u ≠ defaultUser) (hhost : c.host = ⟨.hostname localhostHostname, defaultPort⟩)
    (hauth : c.authentication = .none) (hca : c.tlsCa = none) (hsec : c.tlsSecurity = .strict)
    (hname : c.tlsServerName = none) (hwait : c.waitUntilAvailable = defaultWait) :
    { c with user := u }.dsnUrl formatDuration =
      { c with user := defaultUser, serverSettings := ("user", u) :: c.serverSettings }.dsnUrl
        formatDuration := by
  have htcp : c.host.targetName.toOption.bind MaybeResolvedTarget.tcp =
      some (localhostHostname, defaultPort) := by
    simp [hhost, Host.targetName, Except.toOption, MaybeResolvedTarget.tcp]
  rw [dsnUrl_eq_of_tcp (c := { c with user := u }) formatDuration htcp,
    dsnUrl_eq_of_tcp (c := { c with user := defaultUser, serverSettings := _ }) formatDuration htcp,
    hostUrl_localhost]
  -- the URL has no host, so the user is a query pair; every other option is at its default
  simp [Config.setUserinfo, Config.appendOptions, Url.gel, Url.hasHost, hu, hauth, hca, hsec,
    hname, hwait, Authentication.password?, Authentication.secretKey?]

def bobUser : Config := { defaultConfig with user := "bob" }

def userSetting : Config := { defaultConfig with serverSettings := [("user", "bob")] }

theorem dsnUrl_user_eq_setting_bob :
    bobUser.dsnUrl (fun _ => "") = userSetting.dsnUrl (fun _ => "") :=
  dsnUrl_user_eq_setting (fun _ => "") defaultConfig "bob" (by decide) rfl rfl rfl rfl rfl rfl

def loopbackV6 : Config :=
  { defaultConfig with host := ⟨.ipAddr (.v6 ⟨List.replicate 15 0 ++ [1], by simp⟩), 1234⟩ }

/-- The user `bob` and the server setting `user = bob` give one URL; so do the host `::1` at port
`1234` and the default configuration. -/
theorem dsnUrl_collisions (formatDuration : Duration → String) :
    bobUser.dsnUrl formatDuration = some "gel://?user=bob" ∧
      userSetting.dsnUrl formatDuration = some "gel://?user=bob" ∧
      bobUser.user ≠ userSetting.user ∧ bobUser.serverSettings ≠ userSetting.serverSettings ∧
      loopbackV6.dsnUrl formatDuration = some "gel://" ∧
      defaultConfig.dsnUrl formatDuration = some "gel://" ∧ loopbackV6.host ≠ defaultConfig.host :=
  ⟨rfl, rfl, by decide, by decide, rfl, rfl, by decide⟩

end GelClient.Dsn
