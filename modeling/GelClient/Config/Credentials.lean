import GelClient.Config.Pem
import GelClient.Transport.Resolve

/-!
# Credentials and connection options

Two conversions of `config.rs` between a configuration and its flat forms. `as_credentials`
writes the TCP host and port of the target, the user, the secrets, the database and branch and
the certificates as PEM; without a TCP target it gives `NoTcpAddress`, and it panics at port 0.
`ConnectionOptions::try_into` first refuses three pairs of options given together, in a fixed
order, then keeps every option as a parameter; `Params.toOptions` reads the options back. The
`FromStr` impls of the option enums are one `match` over literals each (`matchKeyword`).
`CredentialsFile`, `Param` and `Params` live in other files of `gel-dsn` and are modelled from
the crate with the fields these functions set.
-/

namespace GelClient.Dsn

open GelClient.Net GelClient.Stream

/-! ## `as_credentials` -/

inductive CredentialsError where
  | noTcpAddress
  deriving DecidableEq

/-- Modelled from the crate: `CredentialsFile`, with the fields `as_credentials` sets; the port is
a `NonZero<u16>`. -/
structure CredentialsFile where
  user : Option String
  host : Option String
  port : Option { p : BitVec 16 // p ≠ 0 }
  password : Option String
  secretKey : Option String
  database : Option String
  branch : Option String
  tlsCa : Option (List Byte)
  tlsSecurity : TlsSecurity
  tlsServerName : Option String
  warnings : List String

def invalidZeroPort : String := "invalid zero port"

/-- `Config::as_credentials`: the credentials or their error, or the message of a panic. -/
def Config.asCredentials (w : Nat) (c : Config) : Except String (Except CredentialsError CredentialsFile) :=
  match c.host.targetName with
  | .error _ => .ok (.error .noTcpAddress)
  | .ok target =>
    match target.tcp with
    | none => .ok (.error .noTcpAddress)
    | some (host, port) =>
      if h : port = 0 then .error invalidZeroPort
      else
        (c.tlsCaPem w).map fun tlsCa => .ok
          { user := some c.user
            host := some host
            port := some ⟨port, h⟩
            password := c.authentication.password?
            secretKey := c.authentication.secretKey?
            database := c.db.database?
            branch := c.db.branchForConnect
            tlsCa := tlsCa
            tlsSecurity := c.tlsSecurity
            tlsServerName := c.tlsServerName
            warnings := [] }

def Config.httpUrl (c : Config) (tls : Bool) : Option String := do
  let target ← c.host.targetName.toOption
  let (host, port) ← target.tcp
  some ("http" ++ (if tls then "s" else "") ++ "://" ++ host ++ ":" ++ toString port.toNat)

def HostType.isTcp : HostType → Bool
  | .hostname _ | .ipAddr _ => true
  | .path _ | .abstractName _ => false

theorem Host.targetName_tcp (host : Host) :
    (∀ target, host.targetName = .ok target → target.tcp = match host.hostType with
      | .hostname name => some (name, host.port)
      | .ipAddr addr => some (addr.toString, host.port)
      | _ => none) ∧ (host.hostType.isTcp → ∃ target, host.targetName = .ok target) := by
  rcases host with ⟨hostType, port⟩
  cases hostType with
  | hostname name | ipAddr addr =>
    refine ⟨?_, fun _ => ⟨_, rfl⟩⟩
    rintro _ ⟨⟩
    simp [MaybeResolvedTarget.tcp]
  | path path =>
    refine ⟨fun target h => ?_, fun h => absurd h (by simp [HostType.isTcp])⟩
    simp only [Host.targetName] at h
    cases hp : UnixSocketAddr.fromPathname path <;> simp [hp, Except.map] at h
    subst h; rfl
  | abstractName name =>
    refine ⟨fun target h => ?_, fun h => absurd h (by simp [HostType.isTcp])⟩
    simp only [Host.targetName] at h
    cases hp : UnixSocketAddr.fromAbstractName name <;> simp [hp, Except.map] at h
    subst h; rfl

theorem Host.targetName_tcpResolve {host : Host} {target : MaybeResolvedTarget}
    (h : host.targetName = .ok target) {name : String} {port : BitVec 16}
    (htcp : target.tcp = some (name, port))
    (hname : ∀ n, host.hostType = .hostname n → parseIpAddr n = none) :
    tcpResolve name port = target := by
  rcases host with ⟨hostType, hport⟩
  have hspec := (Host.targetName_tcp ⟨hostType, hport⟩).1 target h
  cases hostType with
  | hostname n =>
    cases h
    simp only [htcp, Option.some.injEq, Prod.mk.injEq] at hspec
    obtain ⟨rfl, rfl⟩ := hspec
    exact tcpResolve_of_not_parse (hname _ rfl) _
  | ipAddr addr =>
    cases h
    simp only [htcp, Option.some.injEq, Prod.mk.injEq] at hspec
    obtain ⟨rfl, rfl⟩ := hspec
    exact tcpResolve_toString addr _
  | path _ | abstractName _ => simp [htcp] at hspec

theorem Config.asCredentials_of_tcp {w : Nat} {c : Config} {target : MaybeResolvedTarget}
    {name : String} {port : BitVec 16} (htarget : c.host.targetName = .ok target)
    (ht : target.tcp = some (name, port)) {pem : Option (List Byte)} (hpem : c.tlsCaPem w = .ok pem) :
    (c.asCredentials w = .error invalidZeroPort ↔ port = 0) ∧
      (port ≠ 0 → ∃ cred, c.asCredentials w = .ok (.ok cred) ∧ cred.host = some name ∧
        cred.port.map Subtype.val = some port) := by
  unfold Config.asCredentials
  rw [htarget]
  simp only [ht]
  by_cases h0 : port = 0
  · simp [h0]
  · rw [dif_neg h0, hpem]
    exact ⟨by simpa [Except.map] using h0, fun _ => ⟨_, rfl, rfl, rfl⟩⟩

/-- A Unix host gets `NoTcpAddress`; a TCP host panics exactly at port 0, and otherwise, when the
certificates fit the PEM writer, gets a host and port that resolve to the configuration's own
target, unless its host name reads as an IP address. -/
theorem asCredentials_endpoint (w : Nat) (hw : 16 ≤ w) (c : Config)
    (hca : ∀ certs, c.tlsCa = some certs → ∀ cert ∈ certs, 4 * cert.length ≤ usizeMax w) :
    (c.host.hostType.isTcp = false → c.asCredentials w = .ok (.error .noTcpAddress)) ∧
      (c.host.hostType.isTcp → (c.asCredentials w = .error invalidZeroPort ↔ c.host.port = 0)) ∧
      (c.host.hostType.isTcp → c.host.port ≠ 0 →
        (∀ n, c.host.hostType = .hostname n → parseIpAddr n = none) →
        ∃ cred host port, c.asCredentials w = .ok (.ok cred) ∧ cred.host = some host ∧
          cred.port.map Subtype.val = some port ∧ c.host.targetName = .ok (tcpResolve host port)) := by
  obtain ⟨htcp, hok⟩ := Host.targetName_tcp c.host
  have hpem := Config.tlsCaPem_eq hw hca
  have hname : c.host.hostType.isTcp →
      ∃ target name, c.host.targetName = .ok target ∧ target.tcp = some (name, c.host.port) := by
    intro hist
    obtain ⟨target, htarget⟩ := hok hist
    have ht := htcp target htarget
    revert hist ht
    cases c.host.hostType <;> intro hist ht <;> simp only [HostType.isTcp] at hist ht <;>
      first | exact ⟨target, _, htarget, ht⟩ | cases hist
  refine ⟨fun hunix => ?_, fun hist => ?_, fun hist hport hip => ?_⟩
  · unfold Config.asCredentials
    split
    · rfl
    · rename_i target htarget
      have : target.tcp = none := by
        rw [htcp target htarget]
        revert hunix; cases c.host.hostType <;> simp [HostType.isTcp]
      simp only [this]
  · obtain ⟨target, name, htarget, ht⟩ := hname hist
    exact (Config.asCredentials_of_tcp htarget ht hpem).1
  · obtain ⟨target, name, htarget, ht⟩ := hname hist
    obtain ⟨cred, hcred, hhost, hp⟩ := (Config.asCredentials_of_tcp htarget ht hpem).2 hport
    exact ⟨cred, name, c.host.port, hcred, hhost, hp, by
      rw [htarget, Host.targetName_tcpResolve htarget ht hip]⟩

theorem asCredentials_endpoint_default :
    16 ≤ 64 ∧ (∀ certs, defaultConfig.tlsCa = some certs →
      ∀ cert ∈ certs, 4 * cert.length ≤ usizeMax 64) ∧
    (defaultConfig.host.hostType.isTcp = false →
        defaultConfig.asCredentials 64 = .ok (.error .noTcpAddress)) ∧
      (defaultConfig.host.hostType.isTcp →
        (defaultConfig.asCredentials 64 = .error invalidZeroPort ↔ defaultConfig.host.port = 0)) ∧
      (defaultConfig.host.hostType.isTcp → defaultConfig.host.port ≠ 0 →
        (∀ n, defaultConfig.host.hostType = .hostname n → parseIpAddr n = none) →
        ∃ cred host port, defaultConfig.asCredentials 64 = .ok (.ok cred) ∧ cred.host = some host ∧
          cred.port.map Subtype.val = some port ∧
          defaultConfig.host.targetName = .ok (tcpResolve host port)) :=
  have hca : ∀ certs, defaultConfig.tlsCa = some certs →
      ∀ cert ∈ certs, 4 * cert.length ≤ usizeMax 64 := fun _ h => by cases h
  ⟨by decide, hca, asCredentials_endpoint 64 (by decide) defaultConfig hca⟩

/-! ## `ConnectionOptions::try_into` -/

structure ConnectionOptions where
  dsn : Option String
  user : Option String
  password : Option String
  «instance» : Option String
  database : Option String
  host : Option String
  port : Option String
  branch : Option String
  tlsSecurity : Option String
  tlsCa : Option String
  tlsCaFile : Option String
  tlsServerName : Option String
  waitUntilAvailable : Option String
  serverSettings : Option (List (String × String))
  credentialsFile : Option String
  credentials : Option String
  secretKey : Option String
  deriving DecidableEq

/-- Modelled from the crate: `Param<T>` as `try_into` builds it, a value not given, a text still to
parse, or a file to read it from. -/
inductive Param where
  | none
  | unparsed (value : String)
  | file (path : String)
  deriving DecidableEq

def Param.fromUnparsed : Option String → Param
  | some value => .unparsed value
  | Option.none => .none

def Param.fromFile : Option String → Param
  | some path => .file path
  | Option.none => .none

def Param.isNone : Param → Bool
  | .none => true
  | _ => false

/-- Modelled from the crate: `Params`, with the fields `try_into` sets; the others keep their
defaults. -/
structure Params where
  dsn : Param
  credentials : Param
  user : Param
  password : Param
  «instance» : Param
  database : Param
  host : Param
  port : Param
  branch : Param
  secretKey : Param
  tlsSecurity : Param
  tlsCa : Param
  tlsServerName : Param
  serverSettings : List (String × String)
  waitUntilAvailable : Param
  deriving DecidableEq

inductive BuildPhase where
  | options
  deriving DecidableEq

inductive CompoundSource where
  | credentialsFile
  deriving DecidableEq

inductive TlsSecurityError where
  | invalidValue
  deriving DecidableEq

inductive ParseError where
  | multipleCompound (phase : BuildPhase) (sources : List CompoundSource)
  | exclusiveOptions (first second : String)
  | invalidTlsSecurity (e : TlsSecurityError)
  | fileNotFound
  deriving DecidableEq

def ConnectionOptions.tryInto (o : ConnectionOptions) : Except ParseError Params :=
  if o.credentials.isSome ∧ o.credentialsFile.isSome then
    .error (.multipleCompound .options [.credentialsFile, .credentialsFile])
  else if o.tlsCa.isSome ∧ o.tlsCaFile.isSome then
    .error (.exclusiveOptions "tls_ca" "tls_ca_file")
  else if o.branch.isSome ∧ o.database.isSome then
    .error (.exclusiveOptions "branch" "database")
  else
    let credentials := Param.fromFile o.credentialsFile
    let credentials := if credentials.isNone then Param.fromUnparsed o.credentials else credentials
    let tlsCa := Param.fromUnparsed o.tlsCa
    let tlsCa := if tlsCa.isNone then Param.fromFile o.tlsCaFile else tlsCa
    .ok { dsn := .fromUnparsed o.dsn
          credentials := credentials
          user := .fromUnparsed o.user
          password := .fromUnparsed o.password
          «instance» := .fromUnparsed o.«instance»
          database := .fromUnparsed o.database
          host := .fromUnparsed o.host
          port := .fromUnparsed o.port
          branch := .fromUnparsed o.branch
          secretKey := .fromUnparsed o.secretKey
          tlsSecurity := .fromUnparsed o.tlsSecurity
          tlsCa := tlsCa
          tlsServerName := .fromUnparsed o.tlsServerName
          serverSettings := o.serverSettings.getD []
          waitUntilAvailable := .fromUnparsed o.waitUntilAvailable }

/-- No two options of an exclusive pair are both given. -/
def ConnectionOptions.Consistent (o : ConnectionOptions) : Prop :=
  ¬(o.credentials.isSome ∧ o.credentialsFile.isSome) ∧ ¬(o.tlsCa.isSome ∧ o.tlsCaFile.isSome) ∧
    ¬(o.branch.isSome ∧ o.database.isSome)

def ConnectionOptions.normalize (o : ConnectionOptions) : ConnectionOptions :=
  { o with serverSettings := some (o.serverSettings.getD []) }

def Param.toUnparsed : Param → Option String
  | .unparsed value => some value
  | _ => Option.none

def Param.toFile : Param → Option String
  | .file path => some path
  | _ => Option.none

@[simp] theorem Param.toUnparsed_fromUnparsed (v : Option String) : (Param.fromUnparsed v).toUnparsed = v := by
  cases v <;> rfl

@[simp] theorem Param.toFile_fromUnparsed (v : Option String) : (Param.fromUnparsed v).toFile = Option.none := by
  cases v <;> rfl

@[simp] theorem Param.toFile_fromFile (v : Option String) : (Param.fromFile v).toFile = v := by
  cases v <;> rfl

@[simp] theorem Param.toUnparsed_fromFile (v : Option String) : (Param.fromFile v).toUnparsed = Option.none := by
  cases v <;> rfl

@[simp] theorem Param.isNone_fromFile (v : Option String) : (Param.fromFile v).isNone = v.isNone := by
  cases v <;> rfl

@[simp] theorem Param.isNone_fromUnparsed (v : Option String) : (Param.fromUnparsed v).isNone = v.isNone := by
  cases v <;> rfl

/-- The options a `Params` was built from: each option from its parameter, the credentials and
the CA as text or file as the parameter says. -/
def Params.toOptions (p : Params) : ConnectionOptions where
  dsn := p.dsn.toUnparsed
  user := p.user.toUnparsed
  password := p.password.toUnparsed
  «instance» := p.«instance».toUnparsed
  database := p.database.toUnparsed
  host := p.host.toUnparsed
  port := p.port.toUnparsed
  branch := p.branch.toUnparsed
  tlsSecurity := p.tlsSecurity.toUnparsed
  tlsCa := p.tlsCa.toUnparsed
  tlsCaFile := p.tlsCa.toFile
  tlsServerName := p.tlsServerName.toUnparsed
  waitUntilAvailable := p.waitUntilAvailable.toUnparsed
  serverSettings := some p.serverSettings
  credentialsFile := p.credentials.toFile
  credentials := p.credentials.toUnparsed
  secretKey := p.secretKey.toUnparsed

theorem tryInto_normalize (o : ConnectionOptions) : o.normalize.tryInto = o.tryInto := by
  simp [ConnectionOptions.tryInto, ConnectionOptions.normalize]

theorem merge_file_first {text file : Option String} (h : ¬(text.isSome ∧ file.isSome)) :
    (if (Param.fromFile file).isNone then Param.fromUnparsed text else Param.fromFile file).toUnparsed = text ∧
      (if (Param.fromFile file).isNone then Param.fromUnparsed text else Param.fromFile file).toFile = file := by
  cases text <;> cases file <;> simp_all

theorem merge_text_first {text file : Option String} (h : ¬(text.isSome ∧ file.isSome)) :
    (if (Param.fromUnparsed text).isNone then Param.fromFile file else Param.fromUnparsed text).toUnparsed = text ∧
      (if (Param.fromUnparsed text).isNone then Param.fromFile file else Param.fromUnparsed text).toFile = file := by
  cases text <;> cases file <;> simp_all

theorem tryInto_checks (o : ConnectionOptions) : ∃ p, o.tryInto =
    if o.credentials.isSome ∧ o.credentialsFile.isSome then
      .error (.multipleCompound .options [.credentialsFile, .credentialsFile])
    else if o.tlsCa.isSome ∧ o.tlsCaFile.isSome then .error (.exclusiveOptions "tls_ca" "tls_ca_file")
    else if o.branch.isSome ∧ o.database.isSome then .error (.exclusiveOptions "branch" "database")
    else .ok p :=
  ⟨_, rfl⟩

theorem tryInto_ok_iff (o : ConnectionOptions) : (∃ p, o.tryInto = .ok p) ↔ o.Consistent := by
  obtain ⟨q, hq⟩ := tryInto_checks o
  rw [hq, ConnectionOptions.Consistent]
  clear hq
  split_ifs with h1 h2 h3
  · exact iff_of_false (fun ⟨_, h⟩ => nomatch h) fun h => h.1 h1
  · exact iff_of_false (fun ⟨_, h⟩ => nomatch h) fun h => h.2.1 h2
  · exact iff_of_false (fun ⟨_, h⟩ => nomatch h) fun h => h.2.2 h3
  · exact iff_of_true ⟨_, rfl⟩ ⟨h1, h2, h3⟩

/-- An accepted option set is read back from its `Params`, up to how it writes no server
settings. -/
theorem toOptions_tryInto {o : ConnectionOptions} {p : Params} (h : o.tryInto = .ok p) :
    p.toOptions = o.normalize := by
  obtain ⟨h1, h2, h3⟩ := (tryInto_ok_iff o).1 ⟨p, h⟩
  rw [ConnectionOptions.tryInto, if_neg h1, if_neg h2, if_neg h3] at h
  cases h
  obtain ⟨hc1, hc2⟩ := merge_file_first h1
  obtain ⟨ht1, ht2⟩ := merge_text_first h2
  simp only [Params.toOptions, ConnectionOptions.normalize, hc1, hc2, ht1, ht2,
    Param.toUnparsed_fromUnparsed]

/-- `try_into` refuses the three exclusive pairs in source order, with their errors, and accepts
every other set; two accepted sets give the same `Params` exactly when they agree on every
option, absent server settings counting as an empty set. -/
theorem tryInto_injective (o o' : ConnectionOptions) :
    (o.tryInto = .error (.multipleCompound .options [.credentialsFile, .credentialsFile]) ↔
        o.credentials.isSome ∧ o.credentialsFile.isSome) ∧
      (o.tryInto = .error (.exclusiveOptions "tls_ca" "tls_ca_file") ↔
        ¬(o.credentials.isSome ∧ o.credentialsFile.isSome) ∧ o.tlsCa.isSome ∧ o.tlsCaFile.isSome) ∧
      (o.tryInto = .error (.exclusiveOptions "branch" "database") ↔
        ¬(o.credentials.isSome ∧ o.credentialsFile.isSome) ∧ ¬(o.tlsCa.isSome ∧ o.tlsCaFile.isSome) ∧
          o.branch.isSome ∧ o.database.isSome) ∧
      ((∃ p, o.tryInto = .ok p) ↔ o.Consistent) ∧
      ∀ p p', o.tryInto = .ok p → o'.tryInto = .ok p' → (p = p' ↔ o.normalize = o'.normalize) := by
  obtain ⟨q, hq⟩ := tryInto_checks o
  refine ⟨?_, ?_, ?_, tryInto_ok_iff o, fun p p' hp hp' => ⟨fun hpp => ?_, fun hn => ?_⟩⟩
  · rw [hq]; clear hq; split_ifs <;> simp [*]
  · rw [hq]; clear hq; split_ifs <;> simp [*]
  · rw [hq]; clear hq; split_ifs <;> simp [*]
  · rw [← toOptions_tryInto hp, ← toOptions_tryInto hp', hpp]
  · rw [← tryInto_normalize, hn, tryInto_normalize, hp'] at hp
    exact Except.ok.inj hp.symm

/-! ## `FromStr` of the option texts -/

inductive ClientSecurity where
  | insecureDevMode
  | strict
  | default
  deriving DecidableEq

/-- A `match s { "a" => Ok(A), .., _ => Err(err) }` over string literals: the value of the first
arm whose literal the text is, else the error. -/
def matchKeyword {α : Type} (arms : List (String × α)) (err : ParseError) (s : String) :
    Except ParseError α :=
  match arms.find? (fun arm => arm.1 = s) with
  | some arm => .ok arm.2
  | none => .error err

def ClientSecurity.fromStr : String → Except ParseError ClientSecurity :=
  matchKeyword [("default", .default), ("strict", .strict), ("insecure_dev_mode", .insecureDevMode)]
    (.invalidTlsSecurity .invalidValue)

def CloudCerts.fromStr : String → Except ParseError CloudCerts :=
  matchKeyword [("staging", .staging), ("local", .local)] .fileNotFound

def TlsSecurity.fromStr : String → Except ParseError TlsSecurity :=
  matchKeyword [("default", .default), ("insecure", .insecure),
    ("no_host_verification", .noHostVerification), ("strict", .strict)]
    (.invalidTlsSecurity .invalidValue)

end GelClient.Dsn
