import GelClient.Wire.Bytes

/-!
# Network addresses

The `std::net` and `std::os::unix::net` values a connection target holds, modelled from `std`.
IP addresses carry their `Display` forms, since the `host()` of a resolved target is
`ip().to_string()`: dotted decimal, lowercase hex groups with the first longest run of zero
groups written `::`, and `::ffff:a.b.c.d` for an IPv4-mapped address. `UnixSocketAddr` holds the
used part of `sun_path`: no bytes is an unnamed socket, a leading NUL an abstract name, anything
else a path with its terminating NUL.
-/

namespace GelClient.Net

/-! ## IP addresses -/

structure Ipv4Addr where
  octets : List Byte
  size : octets.length = 4
  deriving DecidableEq

structure Ipv6Addr where
  octets : List Byte
  size : octets.length = 16
  deriving DecidableEq

inductive IpAddr where
  | v4 (ip : Ipv4Addr)
  | v6 (ip : Ipv6Addr)
  deriving DecidableEq

def Ipv4Addr.toString (ip : Ipv4Addr) : String :=
  ".".intercalate (ip.octets.map fun o => Nat.repr o.toNat)

def Ipv6Addr.segments (ip : Ipv6Addr) : List (BitVec 16) :=
  (List.range 8).map fun i => BitVec.ofNat 16 (beVal ((ip.octets.drop (2 * i)).take 2))

/-- `Ipv6Addr::to_ipv4_mapped`: the address `::ffff:a.b.c.d`, as `a.b.c.d`. -/
def Ipv6Addr.toIpv4Mapped (ip : Ipv6Addr) : Option Ipv4Addr :=
  if ip.octets.take 12 = List.replicate 10 0 ++ [0xff, 0xff] then
    some ⟨ip.octets.drop 12, by simp [ip.size]⟩
  else none

structure Span where
  start : Nat
  len : Nat
  deriving DecidableEq, Repr

/-- One turn of the loop in `Display for Ipv6Addr` that finds the zero groups to elide: the
longest run so far (the first of its length) and the run being counted. -/
def zeroesStep (acc : Span × Span) (entry : Nat × BitVec 16) : Span × Span :=
  if entry.2 = 0 then
    let current : Span := ⟨if acc.2.len = 0 then entry.1 else acc.2.start, acc.2.len + 1⟩
    (if current.len > acc.1.len then current else acc.1, current)
  else (acc.1, ⟨0, 0⟩)

/-- The longest run of zero groups, the first of its length. -/
def Ipv6Addr.zeroes (ip : Ipv6Addr) : Span :=
  (ip.segments.enum.foldl zeroesStep (⟨0, 0⟩, ⟨0, 0⟩)).1

/-- `fmt_subslice`: groups in lowercase hex without leading zeros, separated by colons. -/
def fmtSubslice (chunk : List (BitVec 16)) : String :=
  ":".intercalate (chunk.map fun segment => String.mk (Nat.toDigits 16 segment.toNat))

def Ipv6Addr.toString (ip : Ipv6Addr) : String :=
  match ip.toIpv4Mapped with
  | some ipv4 => "::ffff:" ++ ipv4.toString
  | none =>
    let zeroes := ip.zeroes
    if zeroes.len > 1 then
      fmtSubslice (ip.segments.take zeroes.start) ++ "::" ++
        fmtSubslice (ip.segments.drop (zeroes.start + zeroes.len))
    else fmtSubslice ip.segments

def IpAddr.toString : IpAddr → String
  | .v4 ip => ip.toString
  | .v6 ip => ip.toString

/-! ## Socket addresses -/

/-- `SocketAddr`: an IPv4 address and port, or an IPv6 address, port, flow info and scope. -/
inductive SocketAddr where
  | v4 (ip : Ipv4Addr) (port : BitVec 16)
  | v6 (ip : Ipv6Addr) (port : BitVec 16) (flowinfo scopeId : BitVec 32)
  deriving DecidableEq

def SocketAddr.new : IpAddr → BitVec 16 → SocketAddr
  | .v4 ip, port => .v4 ip port
  | .v6 ip, port => .v6 ip port 0 0

def SocketAddr.ip : SocketAddr → IpAddr
  | .v4 ip _ => .v4 ip
  | .v6 ip _ _ _ => .v6 ip

@[simp] theorem SocketAddr.ip_new (ip : IpAddr) (port : BitVec 16) :
    (SocketAddr.new ip port).ip = ip := by
  cases ip <;> rfl

def SocketAddr.port : SocketAddr → BitVec 16
  | .v4 _ port => port
  | .v6 _ port _ _ => port

def SocketAddr.setPort : SocketAddr → BitVec 16 → SocketAddr
  | .v4 ip _, port => .v4 ip port
  | .v6 ip _ flowinfo scopeId, port => .v6 ip port flowinfo scopeId

@[simp] theorem SocketAddr.ip_setPort (addr : SocketAddr) (port : BitVec 16) :
    (addr.setPort port).ip = addr.ip := by
  cases addr <;> rfl

@[simp] theorem SocketAddr.port_setPort (addr : SocketAddr) (port : BitVec 16) :
    (addr.setPort port).port = port := by
  cases addr <;> rfl

/-! ## Unix socket addresses -/

def sunPathLen : Nat := 108

inductive IoError where
  | invalidInput (msg : String)
  | unsupported (msg : String)
  deriving DecidableEq, Repr

/-- `std::os::unix::net::SocketAddr`: the bytes of `sun_path` its length covers. -/
structure UnixSocketAddr where
  sunPath : List Byte
  deriving DecidableEq

inductive AddressKind where
  | unnamed
  | pathname (path : List Byte)
  | abstract (name : List Byte)
  deriving DecidableEq

/-- `SocketAddr::address` on Linux: no bytes is unnamed, a leading NUL begins an abstract name,
and a path is read without its terminating NUL. -/
def UnixSocketAddr.address (addr : UnixSocketAddr) : AddressKind :=
  if addr.sunPath = [] then .unnamed
  else if addr.sunPath.head? = some 0 then .abstract addr.sunPath.tail
  else .pathname addr.sunPath.dropLast

def UnixSocketAddr.asPathname (addr : UnixSocketAddr) : Option (List Byte) :=
  match addr.address with
  | .pathname path => some path
  | _ => none

def UnixSocketAddr.asAbstractName (addr : UnixSocketAddr) : Option (List Byte) :=
  match addr.address with
  | .abstract name => some name
  | _ => none

/-- `SocketAddr::from_pathname`: a path with a NUL, or at least `SUN_LEN` bytes, is refused; the
path is written with its NUL, the empty path with nothing. -/
def UnixSocketAddr.fromPathname (path : List Byte) : Except IoError UnixSocketAddr :=
  if path.contains 0 then .error (.invalidInput "paths must not contain interior null bytes")
  else if path.length ≥ sunPathLen then .error (.invalidInput "path must be shorter than SUN_LEN")
  else if path.head? = some 0 ∨ path = [] then .ok ⟨path⟩
  else .ok ⟨path ++ [0]⟩

/-- `SocketAddrExt::from_abstract_name`: a NUL and the name, which with it must fit `sun_path`. -/
def UnixSocketAddr.fromAbstractName (name : List Byte) : Except IoError UnixSocketAddr :=
  if name.length + 1 > sunPathLen then
    .error (.invalidInput "abstract socket name must be shorter than SUN_LEN")
  else .ok ⟨0 :: name⟩

theorem UnixSocketAddr.fromPathname_asPathname {path : List Byte} {addr : UnixSocketAddr}
    (h : fromPathname path = .ok addr) (hne : path ≠ []) : addr.asPathname = some path := by
  unfold fromPathname at h
  split_ifs at h with hnul hlen hfirst
  · obtain hz | rfl := hfirst
    · exact absurd (List.mem_of_mem_head? hz) (by simpa using hnul)
    · exact absurd rfl hne
  · cases h
    have hne' : path ++ [0] ≠ [] := by simp
    have hhead : (path ++ [0]).head? ≠ some 0 := by
      rw [List.head?_append_of_ne_nil _ hne]; exact fun h' => hfirst (.inl h')
    simp only [asPathname, address, if_neg hne', if_neg hhead, List.dropLast_concat]

/-- The empty path is accepted, and gives an unnamed socket, which has no path. -/
example : UnixSocketAddr.fromPathname [] = .ok ⟨[]⟩ ∧ (⟨[]⟩ : UnixSocketAddr).asPathname = none :=
  ⟨rfl, rfl⟩

end GelClient.Net
