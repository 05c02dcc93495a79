import GelClient.Transport.Net

/-!
# Connection targets

`target.rs`. A `Target` is an endpoint in one of three modes: `NoTls`, `Tls` and `StartTls`. The
endpoint is a socket address, a Unix socket address, or a host name with a port. TLS parameters
are carried but never read here, so their type is a parameter. `try_set_tls`, `try_remove_tls`
and `try_set_port` take `&mut self`; here each returns its result with the new target. The
source moves the endpoint out with `std::mem::replace` and a placeholder target, which every arm
overwrites, so the placeholder has no counterpart in the model.
-/

namespace GelClient.Stream

open GelClient.Net

/-! ## Endpoints -/

inductive ResolvedTarget where
  | socketAddr (addr : SocketAddr)
  | unixSocketAddr (addr : UnixSocketAddr)
  deriving DecidableEq

inductive MaybeResolvedTarget where
  | resolved (target : ResolvedTarget)
  | unresolved (host : String) (port : BitVec 16) (interface : Option String)
  deriving DecidableEq

inductive ServerName where
  | dnsName (name : String)
  | ipAddress (ip : IpAddr)
  deriving DecidableEq

namespace MaybeResolvedTarget

/-- `name`; `dnsName` is `DnsName::try_from` of `rustls_pki_types`, outside this repository, so
every result holds whichever names it accepts. -/
def name (dnsName : String → Option String) : MaybeResolvedTarget → Option ServerName
  | .resolved (.socketAddr addr) => some (.ipAddress addr.ip)
  | .unresolved host _ _ => (dnsName host).map .dnsName
  | _ => none

def tcp : MaybeResolvedTarget → Option (String × BitVec 16)
  | .resolved (.socketAddr addr) => some (addr.ip.toString, addr.port)
  | .unresolved host port _ => some (host, port)
  | _ => none

def path : MaybeResolvedTarget → Option (List Byte)
  | .resolved (.unixSocketAddr addr) => addr.asPathname
  | _ => none

def host : MaybeResolvedTarget → Option String
  | .resolved (.socketAddr addr) => some addr.ip.toString
  | .unresolved host _ _ => some host
  | _ => none

def port : MaybeResolvedTarget → Option (BitVec 16)
  | .resolved (.socketAddr addr) => some addr.port
  | .unresolved _ port _ => some port
  | _ => none

/-- `set_port`: the old port, and the target with the new one; a Unix target stays as it is. -/
def setPort (newPort : BitVec 16) : MaybeResolvedTarget → Option (BitVec 16) × MaybeResolvedTarget
  | .resolved (.socketAddr addr) => (some addr.port, .resolved (.socketAddr (addr.setPort newPort)))
  | .unresolved host port interface => (some port, .unresolved host newPort interface)
  | target => (none, target)

theorem path_eq_none_of_port {target : MaybeResolvedTarget} (h : target.port.isSome) :
    target.path = none := by
  rcases target with (_ | _) | _ <;> first | rfl | cases h

theorem setPort_of_port {target : MaybeResolvedTarget} (h : target.port.isSome)
    (newPort : BitVec 16) (dnsName : String → Option String) :
    (target.setPort newPort).1 = target.port ∧ (target.setPort newPort).2.port = some newPort ∧
      (target.setPort newPort).2.host = target.host ∧
      (target.setPort newPort).2.name dnsName = target.name dnsName := by
  rcases target with (addr | _) | _
  · simp [setPort, port, host, name]
  · cases h
  · exact ⟨rfl, rfl, rfl, rfl⟩

end MaybeResolvedTarget

/-! ## Targets -/

inductive TargetInner (P : Type) where
  | noTls (target : MaybeResolvedTarget)
  | tls (target : MaybeResolvedTarget) (params : P)
  | startTls (target : MaybeResolvedTarget) (params : P)
  deriving DecidableEq

structure Target (P : Type) where
  inner : TargetInner P
  deriving DecidableEq

namespace Target

variable {P : Type}

def maybeResolved (t : Target P) : MaybeResolvedTarget :=
  match t.inner with
  | .noTls target => target
  | .tls target _ => target
  | .startTls target _ => target

/-- `maybe_resolved_mut`: change the endpoint in place, in whatever mode. -/
def maybeResolvedMut {α : Type} (t : Target P)
    (f : MaybeResolvedTarget → α × MaybeResolvedTarget) : α × Target P :=
  match t.inner with
  | .noTls target => ((f target).1, ⟨.noTls (f target).2⟩)
  | .tls target params => ((f target).1, ⟨.tls (f target).2 params⟩)
  | .startTls target params => ((f target).1, ⟨.startTls (f target).2 params⟩)

@[simp] theorem maybeResolvedMut_fst {α : Type} (t : Target P)
    (f : MaybeResolvedTarget → α × MaybeResolvedTarget) :
    (t.maybeResolvedMut f).1 = (f t.maybeResolved).1 := by
  rcases t with ⟨_ | _ | _⟩ <;> rfl

@[simp] theorem maybeResolved_maybeResolvedMut {α : Type} (t : Target P)
    (f : MaybeResolvedTarget → α × MaybeResolvedTarget) :
    (t.maybeResolvedMut f).2.maybeResolved = (f t.maybeResolved).2 := by
  rcases t with ⟨_ | _ | _⟩ <;> rfl

def isTcp (t : Target P) : Bool := t.maybeResolved.port.isSome

def port (t : Target P) : Option (BitVec 16) := t.maybeResolved.port

def trySetPort (t : Target P) (port : BitVec 16) : Option (BitVec 16) × Target P :=
  t.maybeResolvedMut (MaybeResolvedTarget.setPort port)

def path (t : Target P) : Option (List Byte) := t.maybeResolved.path

def host (t : Target P) : Option String := t.maybeResolved.host

def name (dnsName : String → Option String) (t : Target P) : Option ServerName :=
  t.maybeResolved.name dnsName

def tcp (t : Target P) : Option (String × BitVec 16) := t.maybeResolved.tcp

def isStarttls (t : Target P) : Bool :=
  match t.inner with
  | .startTls _ _ => true
  | _ => false

def maybeSsl (t : Target P) : Option P :=
  match t.inner with
  | .noTls _ => none
  | .tls _ params => some params
  | .startTls _ params => some params

@[simp] theorem maybeSsl_maybeResolvedMut {α : Type} (t : Target P)
    (f : MaybeResolvedTarget → α × MaybeResolvedTarget) :
    (t.maybeResolvedMut f).2.maybeSsl = t.maybeSsl := by
  rcases t with ⟨_ | _ | _⟩ <;> rfl

@[simp] theorem isStarttls_maybeResolvedMut {α : Type} (t : Target P)
    (f : MaybeResolvedTarget → α × MaybeResolvedTarget) :
    (t.maybeResolvedMut f).2.isStarttls = t.isStarttls := by
  rcases t with ⟨_ | _ | _⟩ <;> rfl

/-- `try_set_tls`: refused (`None`) when the endpoint has a path; otherwise the old parameters,
with `NoTls` becoming `Tls` and the other modes kept. -/
def trySetTls (t : Target P) (params : P) : Option (Option P) × Target P :=
  if t.maybeResolved.path.isSome then (none, t)
  else
    match t.inner with
    | .noTls target => (some none, ⟨.tls target params⟩)
    | .tls target oldParams => (some (some oldParams), ⟨.tls target params⟩)
    | .startTls target oldParams => (some (some oldParams), ⟨.startTls target params⟩)

/-- `try_remove_tls`: the old parameters, and the endpoint in `NoTls`. -/
def tryRemoveTls (t : Target P) : Option P × Target P :=
  match t.inner with
  | .noTls target => (none, ⟨.noTls target⟩)
  | .tls target oldParams => (some oldParams, ⟨.noTls target⟩)
  | .startTls target oldParams => (some oldParams, ⟨.noTls target⟩)

def newUnixPath (path : List Byte) : Except IoError (Target P) := do
  let addr ← UnixSocketAddr.fromPathname path
  pure ⟨.noTls (.resolved (.unixSocketAddr addr))⟩

def newUnixDomain (domain : List Byte) : Except IoError (Target P) := do
  let addr ← UnixSocketAddr.fromAbstractName domain
  pure ⟨.noTls (.resolved (.unixSocketAddr addr))⟩

def newTcp (host : MaybeResolvedTarget) : Target P := ⟨.noTls host⟩

def newTcpTls (host : MaybeResolvedTarget) (params : P) : Target P := ⟨.tls host params⟩

def newTcpStarttls (host : MaybeResolvedTarget) (params : P) : Target P := ⟨.startTls host params⟩

end Target

def tcpResolveSocketAddr (addr : SocketAddr) : MaybeResolvedTarget := .resolved (.socketAddr addr)

/-- `TcpResolve for (S, u16)`: an IP address literal is resolved at once, any other host is
kept by name. `parseIpAddr` is `str::parse::<IpAddr>` of `std`. -/
def tcpResolveHostPort (parseIpAddr : String → Option IpAddr) (host : String) (port : BitVec 16) :
    MaybeResolvedTarget :=
  match parseIpAddr host with
  | some addr => .resolved (.socketAddr (SocketAddr.new addr port))
  | none => .unresolved host port none

/-- Whether `Connector::connect` starts the TLS handshake (`secure_upgrade`) on the stream it
opened, once `init_client` has accepted the parameters: it does for `Tls`, and leaves it to the
protocol for `StartTls`. -/
def connectStartsHandshake {P : Type} (t : Target P) : Bool := t.maybeSsl.isSome && !t.isStarttls

/-! ## Sequences of operations -/

/-- The operations that change a target in place. -/
inductive TargetOp (P : Type) where
  | trySetTls (params : P)
  | tryRemoveTls
  | trySetPort (port : BitVec 16)

def TargetOp.apply {P : Type} : TargetOp P → Target P → Target P
  | .trySetTls params, t => (t.trySetTls params).2
  | .tryRemoveTls, t => t.tryRemoveTls.2
  | .trySetPort port, t => (t.trySetPort port).2

def Target.run {P : Type} (t : Target P) (ops : List (TargetOp P)) : Target P :=
  ops.foldl (fun t op => op.apply t) t

@[simp] theorem Target.run_cons {P : Type} (t : Target P) (op : TargetOp P)
    (ops : List (TargetOp P)) : t.run (op :: ops) = (op.apply t).run ops := rfl

@[simp] theorem Target.run_nil {P : Type} (t : Target P) : t.run [] = t := rfl

namespace Target

variable {P : Type} {t : Target P}

theorem maybeResolved_apply (op : TargetOp P) (t : Target P) :
    (op.apply t).maybeResolved =
      match op with
      | .trySetPort port => (t.maybeResolved.setPort port).2
      | _ => t.maybeResolved := by
  cases op with
  | trySetTls params =>
    simp only [TargetOp.apply, trySetTls]
    split_ifs
    · rfl
    · rcases t with ⟨_ | _ | _⟩ <;> rfl
  | tryRemoveTls => rcases t with ⟨_ | _ | _⟩ <;> rfl
  | trySetPort port => simp [TargetOp.apply, trySetPort]

theorem apply_of_isTcp (h : t.isTcp) (op : TargetOp P) (dnsName : String → Option String) :
    (op.apply t).isTcp ∧ (op.apply t).host = t.host ∧ (op.apply t).name dnsName = t.name dnsName := by
  simp only [isTcp, host, name, maybeResolved_apply] at h ⊢
  cases op with
  | trySetPort port =>
    obtain ⟨-, hport, hhost, hname⟩ := t.maybeResolved.setPort_of_port h port dnsName
    exact ⟨by simp [hport], hhost, hname⟩
  | _ => exact ⟨h, rfl, rfl⟩

theorem run_of_isTcp (h : t.isTcp) (ops : List (TargetOp P)) (dnsName : String → Option String) :
    (t.run ops).isTcp ∧ (t.run ops).host = t.host ∧ (t.run ops).name dnsName = t.name dnsName := by
  induction ops generalizing t with
  | nil => exact ⟨h, rfl, rfl⟩
  | cons op ops ih =>
    obtain ⟨h1, hhost, hname⟩ := apply_of_isTcp h op dnsName
    obtain ⟨h2, hhost', hname'⟩ := ih h1
    exact ⟨h2, hhost'.trans hhost, hname'.trans hname⟩

end Target

/-- What each operation does to a target with a TCP endpoint: `try_set_tls` returns the old
parameters (`None` if there were none) and keeps the endpoint and whether the mode is
`StartTls`; `try_remove_tls` returns them and leaves the endpoint in `NoTls`; `try_set_port`
returns the old port and sets the new one, keeping the parameters and the mode. -/
def TargetOp.Spec {P : Type} (t : Target P) : TargetOp P → Prop
  | .trySetTls params =>
    (t.trySetTls params).1 = some t.maybeSsl ∧ (t.trySetTls params).2.maybeSsl = some params ∧
      (t.trySetTls params).2.isStarttls = t.isStarttls ∧
      (t.trySetTls params).2.maybeResolved = t.maybeResolved
  | .tryRemoveTls => t.tryRemoveTls.1 = t.maybeSsl ∧ t.tryRemoveTls.2 = ⟨.noTls t.maybeResolved⟩
  | .trySetPort port =>
    (t.trySetPort port).1 = t.port ∧ t.port.isSome ∧ (t.trySetPort port).2.port = some port ∧
      (t.trySetPort port).2.maybeSsl = t.maybeSsl ∧
      (t.trySetPort port).2.isStarttls = t.isStarttls

namespace Target

variable {P : Type} {t : Target P}

theorem spec_of_isTcp (h : t.isTcp) (op : TargetOp P) : op.Spec t := by
  have hpath : t.maybeResolved.path = none := MaybeResolvedTarget.path_eq_none_of_port h
  cases op with
  | trySetTls params =>
    rcases t with ⟨target | ⟨target, old⟩ | ⟨target, old⟩⟩ <;>
      simp_all [TargetOp.Spec, trySetTls, maybeResolved, maybeSsl, isStarttls]
  | tryRemoveTls =>
    rcases t with ⟨target | ⟨target, old⟩ | ⟨target, old⟩⟩ <;> exact ⟨rfl, rfl⟩
  | trySetPort port =>
    obtain ⟨hold, hport, -, -⟩ := t.maybeResolved.setPort_of_port h port (fun _ => none)
    exact ⟨by simpa [trySetPort] using hold, h, by simpa [trySetPort, Target.port] using hport,
      maybeSsl_maybeResolvedMut _ _, isStarttls_maybeResolvedMut _ _⟩

/-- Along any sequence of operations from a target with a TCP endpoint, in any mode, the host and
name never change, there is never a path, and each next operation does what `TargetOp.Spec` says. -/
theorem tcpTarget_ops (h : t.isTcp) (dnsName : String → Option String)
    (pre : List (TargetOp P)) (op : TargetOp P) :
    (t.run pre).host = t.host ∧ (t.run pre).name dnsName = t.name dnsName ∧
      (t.run pre).path = none ∧ op.Spec (t.run pre) := by
  obtain ⟨htcp, hhost, hname⟩ := run_of_isTcp h pre dnsName
  exact ⟨hhost, hname, MaybeResolvedTarget.path_eq_none_of_port htcp, spec_of_isTcp htcp op⟩

end Target

def localhostStartTls : Target Unit := .newTcpStarttls (.unresolved "localhost" 5656 none) ()

theorem tcpTarget_ops_localhost :
    localhostStartTls.isTcp = true ∧
      (localhostStartTls.run [.trySetPort 5657, .tryRemoveTls]).host = localhostStartTls.host ∧
      (localhostStartTls.run [.trySetPort 5657, .tryRemoveTls]).name some =
        localhostStartTls.name some ∧
      (localhostStartTls.run [.trySetPort 5657, .tryRemoveTls]).path = none ∧
      (TargetOp.trySetTls ()).Spec (localhostStartTls.run [.trySetPort 5657, .tryRemoveTls]) :=
  ⟨rfl, Target.tcpTarget_ops (t := localhostStartTls) rfl some [.trySetPort 5657, .tryRemoveTls] (.trySetTls ())⟩

/-! ## Unix targets -/

namespace Target

variable {P : Type}

theorem apply_of_asPathname {addr : UnixSocketAddr} (hp : addr.asPathname.isSome)
    (op : TargetOp P) :
    op.apply ⟨.noTls (.resolved (.unixSocketAddr addr))⟩ = ⟨.noTls (.resolved (.unixSocketAddr addr))⟩ := by
  cases op with
  | trySetTls params => simp [TargetOp.apply, trySetTls, maybeResolved, MaybeResolvedTarget.path, hp]
  | tryRemoveTls => rfl
  | trySetPort port => rfl

/-- A target that every operation leaves alone stays as it is along any sequence. -/
theorem run_eq_self {t : Target P} (h : ∀ op : TargetOp P, op.apply t = t)
    (ops : List (TargetOp P)) : t.run ops = t := by
  induction ops with
  | nil => rfl
  | cons op ops ih => rw [run_cons, h, ih]

/-- So a target `new_unix_path` builds from a non-empty path stays as it is along any sequence of
operations: `try_set_tls` is always refused, and there are never TLS parameters or a port. -/
theorem newUnixPath_run {path : List Byte} {t : Target P} (h : newUnixPath path = .ok t)
    (hne : path ≠ []) (ops : List (TargetOp P)) (params : P) :
    t.run ops = t ∧ ((t.run ops).trySetTls params).1 = none ∧ (t.run ops).maybeSsl = none ∧
      (t.run ops).isTcp = false := by
  simp only [newUnixPath, bind, Except.bind] at h
  split at h
  · cases h
  · rename_i addr haddr
    cases h
    have hp : addr.asPathname.isSome := by
      simp [UnixSocketAddr.fromPathname_asPathname haddr hne]
    rw [run_eq_self (apply_of_asPathname hp)]
    exact ⟨rfl, by simp [trySetTls, maybeResolved, MaybeResolvedTarget.path, hp], rfl, rfl⟩

def slashS : Target Unit := ⟨.noTls (.resolved (.unixSocketAddr ⟨[0x2f, 0x73, 0]⟩))⟩

theorem newUnixPath_run_slashS :
    newUnixPath [0x2f, 0x73] = .ok slashS ∧ [0x2f, 0x73] ≠ ([] : List Byte) ∧
      slashS.run [.trySetTls (), .trySetPort 1] = slashS ∧
      ((slashS.run [.trySetTls (), .trySetPort 1]).trySetTls ()).1 = none ∧
      (slashS.run [.trySetTls (), .trySetPort 1]).maybeSsl = none ∧
      (slashS.run [.trySetTls (), .trySetPort 1]).isTcp = false :=
  have h : newUnixPath [0x2f, 0x73] = .ok slashS := rfl
  have hne : [0x2f, 0x73] ≠ ([] : List Byte) := List.cons_ne_nil _ _
  ⟨h, hne, newUnixPath_run h hne [.trySetTls (), .trySetPort 1] ()⟩

end Target

/-- On the abstract socket `@gel`, and on the unnamed socket of `new_unix_path("")`, the first
`try_set_tls` is applied rather than refused: the target then holds TLS parameters, is still not
TCP, and `connect` would start a TLS handshake over the Unix socket. -/
theorem unix_targets_accept_tls :
    (∃ t : Target Unit, Target.newUnixDomain [0x67, 0x65, 0x6c] = .ok t ∧
      (t.trySetTls ()).1 = some none ∧ (t.trySetTls ()).2.maybeSsl = some () ∧
      (t.trySetTls ()).2.isTcp = false ∧ connectStartsHandshake (t.trySetTls ()).2 = true) ∧
    (∃ t : Target Unit, Target.newUnixPath [] = .ok t ∧
      (t.trySetTls ()).1 = some none ∧ (t.trySetTls ()).2.maybeSsl = some () ∧
      (t.trySetTls ()).2.isTcp = false ∧ connectStartsHandshake (t.trySetTls ()).2 = true) :=
  ⟨⟨_, rfl, rfl, rfl, rfl, rfl⟩, ⟨_, rfl, rfl, rfl, rfl, rfl⟩⟩

end GelClient.Stream
