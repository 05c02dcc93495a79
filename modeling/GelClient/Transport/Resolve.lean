import GelClient.Transport.Target
import GelClient.Transport.AddrText

/-!
# Resolving host names, and comparing resolved targets

`TcpResolve for (S, u16)` resolves a host that `str::parse::<IpAddr>` reads to
`SocketAddr::new(addr, port)`, and keeps any other host by name. A target reports its host and
port through `tcp()`, an address as the text `Display` writes; since the parser reads that text
back, resolving what a target reports gives the same target again. `ResolvedTarget` compares
through `inner()`, which views a Unix socket address as its path or abstract name and panics on
an unnamed one; a path compares as `std::path::Path` does, by its components.
-/

namespace GelClient.Stream

open GelClient.Net

/-! ## `TcpResolve` -/

/-- `str::parse::<IpAddr>`, as the `if let Ok(addr)` of `TcpResolve` reads it. -/
def parseIpAddr (s : String) : Option IpAddr := (IpAddr.fromStr s).toOption

def tcpResolve (host : String) (port : BitVec 16) : MaybeResolvedTarget :=
  tcpResolveHostPort parseIpAddr host port

theorem parseIpAddr_toString (ip : IpAddr) : parseIpAddr ip.toString = some ip := by
  simp only [parseIpAddr, IpAddr.fromStr, readIpAddr_toString]
  rfl

theorem tcpResolve_of_parse {host : String} {ip : IpAddr} (h : parseIpAddr host = some ip)
    (port : BitVec 16) : tcpResolve host port = .resolved (.socketAddr (SocketAddr.new ip port)) := by
  simp only [tcpResolve, tcpResolveHostPort, h]

theorem tcpResolve_of_not_parse {host : String} (h : parseIpAddr host = none) (port : BitVec 16) :
    tcpResolve host port = .unresolved host port none := by
  simp only [tcpResolve, tcpResolveHostPort, h]

@[simp] theorem SocketAddr.port_new (ip : IpAddr) (port : BitVec 16) :
    (SocketAddr.new ip port).port = port := by
  cases ip <;> rfl

theorem tcpResolve_toString (ip : IpAddr) (port : BitVec 16) :
    tcpResolve ip.toString port = .resolved (.socketAddr (SocketAddr.new ip port)) :=
  tcpResolve_of_parse (parseIpAddr_toString ip) port

theorem SocketAddr.new_ip_port (addr : SocketAddr) :
    SocketAddr.new addr.ip addr.port = addr ↔
      ∀ ip port flowinfo scopeId, addr = .v6 ip port flowinfo scopeId → flowinfo = 0 ∧ scopeId = 0 := by
  cases addr with
  | v4 ip port => simp [SocketAddr.new, SocketAddr.ip, SocketAddr.port]
  | v6 ip port flowinfo scopeId =>
    simp only [SocketAddr.ip, SocketAddr.port, SocketAddr.new, SocketAddr.v6.injEq, true_and]
    constructor
    · rintro ⟨rfl, rfl⟩ _ _ _ _ ⟨-, -, rfl, rfl⟩
      exact ⟨rfl, rfl⟩
    · intro h
      obtain ⟨h1, h2⟩ := h ip port flowinfo scopeId ⟨rfl, rfl, rfl, rfl⟩
      exact ⟨h1.symm, h2.symm⟩

/-- For every host and port, the host and port that the target `TcpResolve` gives reports through
`tcp()` resolve to that same target. -/
theorem tcpResolve_tcp (host : String) (port : BitVec 16) (addr : SocketAddr) :
    (tcpResolve host port).tcp.map (fun hp => tcpResolve hp.1 hp.2) = some (tcpResolve host port) ∧
      (tcpResolveSocketAddr addr).tcp.map (fun hp => tcpResolve hp.1 hp.2) =
        some (.resolved (.socketAddr (SocketAddr.new addr.ip addr.port))) ∧
      (SocketAddr.new addr.ip addr.port = addr ↔
        ∀ ip port flowinfo scopeId, addr = .v6 ip port flowinfo scopeId → flowinfo = 0 ∧ scopeId = 0) := by
  refine ⟨?_, ?_, SocketAddr.new_ip_port addr⟩
  · cases h : parseIpAddr host with
    | none =>
      rw [tcpResolve_of_not_parse h]
      simp only [MaybeResolvedTarget.tcp, Option.map_some', tcpResolve_of_not_parse h]
    | some ip =>
      rw [tcpResolve_of_parse h]
      simp only [MaybeResolvedTarget.tcp, Option.map_some', SocketAddr.ip_new, SocketAddr.port_new,
        tcpResolve_toString]
  · simp only [tcpResolveSocketAddr, MaybeResolvedTarget.tcp, Option.map_some', tcpResolve_toString]

/-! ## Paths -/

inductive Component where
  | rootDir
  | curDir
  | parentDir
  | normal (name : List Byte)
  deriving DecidableEq

def parseSingleComponent (comp : List Byte) : Option Component :=
  if comp = [] ∨ comp = [0x2e] then none
  else if comp = [0x2e, 0x2e] then some .parentDir
  else some (.normal comp)

/-- `Path::components` on Unix: a root `/`, or a leading `.` before a `/` or the end, then the
`/`-separated components. -/
def components (path : List Byte) : List Component :=
  match path with
  | 0x2f :: rest => .rootDir :: (rest.splitOn 0x2f).filterMap parseSingleComponent
  | 0x2e :: rest =>
    if rest = [] ∨ rest.head? = some 0x2f then
      .curDir :: (rest.splitOn 0x2f).filterMap parseSingleComponent
    else (path.splitOn 0x2f).filterMap parseSingleComponent
  | _ => (path.splitOn 0x2f).filterMap parseSingleComponent

/-! ## Comparing resolved targets -/

inductive ResolvedTargetInner where
  | socketAddr (addr : SocketAddr)
  | unixSocketPath (path : List Byte)
  | unixSocketAbstract (name : List Byte)

/-- The derived `PartialEq for ResolvedTargetInner`, a path compared as a `Path`. -/
def ResolvedTargetInner.eq : ResolvedTargetInner → ResolvedTargetInner → Bool
  | .socketAddr a, .socketAddr b => a = b
  | .unixSocketPath p, .unixSocketPath q => components p = components q
  | .unixSocketAbstract n, .unixSocketAbstract m => n = m
  | _, _ => false

def abstractSocketAddress : String := "abstract socket address"

/-- `ResolvedTarget::inner`: a panic, with its message, on an address with neither a path nor an
abstract name. -/
def ResolvedTarget.inner : ResolvedTarget → Except String ResolvedTargetInner
  | .socketAddr addr => .ok (.socketAddr addr)
  | .unixSocketAddr addr =>
    match addr.asPathname with
    | some path => .ok (.unixSocketPath path)
    | none =>
      match addr.asAbstractName with
      | some name => .ok (.unixSocketAbstract name)
      | none => .error abstractSocketAddress

/-- `PartialEq for ResolvedTarget`: `self.inner() == other.inner()`. -/
def ResolvedTarget.eq (a b : ResolvedTarget) : Except String Bool := do
  let x ← a.inner
  let y ← b.inner
  pure (x.eq y)

end GelClient.Stream
