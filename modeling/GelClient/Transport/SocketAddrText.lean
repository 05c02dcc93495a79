import GelClient.Transport.Target
import GelClient.Transport.AddrText

/-!
# The text of a target

`Debug for MaybeResolvedTarget` writes a resolved TCP endpoint in the syntax of socket
addresses: `{ip}:{port}`, `[{ip}]:{port}`, or `[{ip}%{scope_id}]:{port}` when the scope id is
not zero; a Unix socket as its path or `@` and its abstract name, and an unresolved endpoint as
`{host}:{port}`. `SocketAddr::from_str` of `std`, modelled from `std::net::parser`, reads the
same syntax, the port and scope id as any number of decimal digits whose value fits. Every
resolved TCP endpoint's text is read back as its address, port and scope id.
-/

namespace GelClient.Stream

open GelClient.Net

/-! ## `Debug` -/

/-- `Debug for MaybeResolvedTarget`. `toStringLossy` is `Path::to_string_lossy` and
`String::from_utf8_lossy` of `std`, which only the Unix endpoints go through. -/
def MaybeResolvedTarget.debug (toStringLossy : List Byte → String) : MaybeResolvedTarget → String
  | .resolved (.socketAddr (.v6 ip port _ scopeId)) =>
    if scopeId ≠ 0 then
      "[" ++ ip.toString ++ "%" ++ Nat.repr scopeId.toNat ++ "]:" ++ Nat.repr port.toNat
    else "[" ++ ip.toString ++ "]:" ++ Nat.repr port.toNat
  | .resolved (.socketAddr (.v4 ip port)) => ip.toString ++ ":" ++ Nat.repr port.toNat
  | .resolved (.unixSocketAddr addr) =>
    match addr.asPathname with
    | some path => toStringLossy path
    | none =>
      match addr.asAbstractName with
      | some name => "@" ++ toStringLossy name
      | none => ""
  | .unresolved host port interface =>
    host ++ ":" ++ Nat.repr port.toNat ++
      match interface with
      | some interface => "%" ++ interface
      | none => ""

def Target.debug {P : Type} (toStringLossy : List Byte → String) (t : Target P) : String :=
  match t.inner with
  | .noTls target => target.debug toStringLossy
  | .tls target _ => target.debug toStringLossy ++ " (TLS)"
  | .startTls target _ => target.debug toStringLossy ++ " (STARTTLS)"

/-! ## `SocketAddr::from_str` -/

/-- `read_number(10, None, true)` into a `w`-bit integer. Without a digit limit `std` reads every
digit with checked arithmetic; the value only grows, so it overflows exactly when the number read
does not fit, which is what `readNumber` checks once it has read at most `input.length` digits,
as many as there can be. -/
def readNumberUnbounded (w : Nat) (input : List Char) : Option (BitVec w × List Char) :=
  readNumber 10 input.length true w input

def readPort (input : List Char) : Option (BitVec 16 × List Char) :=
  (readGivenChar ':' input).bind (readNumberUnbounded 16)

def readScopeId (input : List Char) : Option (BitVec 32 × List Char) :=
  (readGivenChar '%' input).bind (readNumberUnbounded 32)

def readSocketAddrV4 (input : List Char) : Option (SocketAddr × List Char) := do
  let (ip, rest) ← readIpv4Addr input
  let (port, rest) ← readPort rest
  pure (.v4 ip port, rest)

/-- `read_socket_addr_v6`: `[`, an IPv6 address, a scope id or `0`, `]` and a port; the flow
info is `0`. -/
def readSocketAddrV6 (input : List Char) : Option (SocketAddr × List Char) := do
  let rest ← readGivenChar '[' input
  let (ip, rest) ← readIpv6Addr rest
  let (scopeId, rest) := (readScopeId rest).getD (0, rest)
  let rest ← readGivenChar ']' rest
  let (port, rest) ← readPort rest
  pure (.v6 ip port 0 scopeId, rest)

def readSocketAddr (input : List Char) : Option (SocketAddr × List Char) :=
  readSocketAddrV4 input <|> readSocketAddrV6 input

/-- `FromStr for SocketAddr`: a socket address that takes the whole text; its error, the
`AddrParseError` of `AddrKind::Socket`, is `none`. -/
def SocketAddr.fromStr (s : String) : Option SocketAddr :=
  match readSocketAddr s.toList with
  | some (addr, []) => some addr
  | _ => none

/-! ## Reading a target's text back -/

theorem readNumber_repr {w maxDigits : Nat} (v : BitVec w) {rest : List Char}
    (hmax : (Nat.repr v.toNat).toList.length ≤ maxDigits)
    (hstop : ∀ c ∈ rest.head?, charToDigit 10 c = none) :
    readNumber 10 maxDigits true w ((Nat.repr v.toNat).toList ++ rest) = some (v, rest) := by
  have hrepr : (Nat.repr v.toNat).toList = (digitList 10 v.toNat).map Nat.digitChar :=
    toDigits_eq (by decide) _
  rw [hrepr, List.length_map] at hmax
  have hne := digitList_ne_nil 10 v.toNat
  rw [hrepr, readNumber, readDigits_map_digitChar hstop _ _ _
    (fun d hd => charToDigit_digitChar_dec d (digitList_lt (by decide) _ d hd)) (by simpa using hmax),
    digitList_value]
  simp [List.length_pos.2 hne, Nat.ne_of_gt (List.length_pos.2 hne), v.isLt]

theorem readNumberUnbounded_repr {w : Nat} (v : BitVec w) {rest : List Char}
    (hstop : ∀ c ∈ rest.head?, charToDigit 10 c = none) :
    readNumberUnbounded w ((Nat.repr v.toNat).data ++ rest) = some (v, rest) :=
  readNumber_repr v (by rw [List.length_append]; exact Nat.le_add_right _ _) hstop

theorem readPort_repr (port : BitVec 16) :
    readPort (':' :: (Nat.repr port.toNat).data) = some (port, []) := by
  simpa [readPort, readGivenChar] using @readNumberUnbounded_repr 16 port [] (by simp)

theorem charToDigit_ne : ∀ c ∈ [':', ']', '%', '['],
    charToDigit 16 c = none ∧ charToDigit 10 c = none := by
  decide

theorem groupsEnd_scope (c : Char) (hc : c = '%' ∨ c = ']') (t : List Char) (ht : '.' ∉ t) :
    GroupsEnd (c :: t) ∧ '.' ∉ c :: t := by
  refine ⟨.inr (.inr ⟨c, t, rfl, by rcases hc with rfl | rfl <;> decide,
    by rcases hc with rfl | rfl <;> decide⟩), ?_⟩
  exact List.not_mem_cons_of_ne_of_not_mem (by rcases hc with rfl | rfl <;> decide) ht

theorem dot_not_mem_repr (n : Nat) : '.' ∉ (Nat.repr n).toList := fun h => (repr_char h).2.1 rfl

theorem debug_socketAddr_toList (toStringLossy : List Byte → String) (addr : SocketAddr) :
    ((MaybeResolvedTarget.resolved (.socketAddr addr)).debug toStringLossy).toList =
      match addr with
      | .v4 ip port => ip.toString.toList ++ ':' :: (Nat.repr port.toNat).toList
      | .v6 ip port _ scopeId =>
        '[' :: ip.toString.toList ++
          (if scopeId ≠ 0 then '%' :: (Nat.repr scopeId.toNat).toList else []) ++
          ']' :: ':' :: (Nat.repr port.toNat).toList := by
  cases addr with
  | v4 ip port => simp [MaybeResolvedTarget.debug, String.data_append]
  | v6 ip port flowinfo scopeId =>
    simp only [MaybeResolvedTarget.debug]
    split_ifs <;> simp [String.data_append]

/-- `read_socket_addr_v6` reads back `[`, an address, its scope id unless it is zero, `]` and
the port. -/
theorem readSocketAddrV6_text (ip : Ipv6Addr) (port : BitVec 16) (scopeId : BitVec 32) :
    readSocketAddrV6 ('[' :: ip.toString.toList ++
      (if scopeId ≠ 0 then '%' :: (Nat.repr scopeId.toNat).toList else []) ++
      ']' :: ':' :: (Nat.repr port.toNat).toList) = some (.v6 ip port 0 scopeId, []) := by
  have hport : '.' ∉ ':' :: (Nat.repr port.toNat).toList :=
    List.not_mem_cons_of_ne_of_not_mem (by decide) (dot_not_mem_repr _)
  have hclose : readGivenChar ']' (']' :: ':' :: (Nat.repr port.toNat).data) =
      some (':' :: (Nat.repr port.toNat).data) := by simp [readGivenChar]
  by_cases h0 : scopeId = 0
  · obtain ⟨hend, hdot⟩ := groupsEnd_scope ']' (.inr rfl) _ hport
    have h6 : readIpv6Addr (ip.toString.data ++ ']' :: ':' :: (Nat.repr port.toNat).data) =
        some (ip, ']' :: ':' :: (Nat.repr port.toNat).data) := readIpv6Addr_toString_append ip hdot hend
    have hs : readScopeId (']' :: ':' :: (Nat.repr port.toNat).data) = none := by
      simp [readScopeId, readGivenChar]
    subst h0
    simp [readSocketAddrV6, readGivenChar, h6, hs, hclose, readPort_repr, bind, pure]
  · have hscope : '.' ∉ (Nat.repr scopeId.toNat).toList ++ ']' :: ':' :: (Nat.repr port.toNat).toList :=
      List.not_mem_append (dot_not_mem_repr _) (List.not_mem_cons_of_ne_of_not_mem (by decide) hport)
    obtain ⟨hend, hdot⟩ := groupsEnd_scope '%' (.inl rfl) _ hscope
    have h6 : readIpv6Addr (ip.toString.data ++ '%' :: ((Nat.repr scopeId.toNat).data ++ ']' :: ':' ::
        (Nat.repr port.toNat).data)) = some (ip, '%' :: ((Nat.repr scopeId.toNat).data ++ ']' :: ':' ::
        (Nat.repr port.toNat).data)) := readIpv6Addr_toString_append ip hdot hend
    have hs : readScopeId ('%' :: ((Nat.repr scopeId.toNat).data ++ ']' :: ':' ::
        (Nat.repr port.toNat).data)) = some (scopeId, ']' :: ':' :: (Nat.repr port.toNat).data) := by
      simpa [readScopeId, readGivenChar] using
        @readNumberUnbounded_repr 32 scopeId (']' :: ':' :: (Nat.repr port.toNat).data)
          (by simpa using (charToDigit_ne ']' (by simp)).2)
    rw [if_pos (show scopeId ≠ 0 from h0)]
    simp [readSocketAddrV6, readGivenChar, h6, hs, hclose, readPort_repr, bind, pure]

/-- For every socket address, `SocketAddr::from_str` reads the text `Debug` writes for the target
resolved to it back as the address, with the flow info, which is not written, zero. -/
theorem fromStr_debug (toStringLossy : List Byte → String) (addr : SocketAddr) :
    SocketAddr.fromStr ((MaybeResolvedTarget.resolved (.socketAddr addr)).debug toStringLossy) =
      some (match addr with
        | .v4 ip port => .v4 ip port
        | .v6 ip port _ scopeId => .v6 ip port 0 scopeId) := by
  rw [SocketAddr.fromStr, debug_socketAddr_toList]
  cases addr with
  | v4 ip port =>
    have hv4 : readIpv4Addr (ip.toString.data ++ ':' :: (Nat.repr port.toNat).data) =
        some (ip, ':' :: (Nat.repr port.toNat).data) :=
      readIpv4Addr_toString ip (by simpa using (charToDigit_ne ':' (by simp)).2)
    have hsock : readSocketAddr (ip.toString.toList ++ ':' :: (Nat.repr port.toNat).toList) =
        some (.v4 ip port, []) := by
      simp [readSocketAddr, readSocketAddrV4, hv4, readPort_repr, bind, pure, HOrElse.hOrElse,
        OrElse.orElse, Option.orElse]
    simp only [hsock]
  | v6 ip port flowinfo scopeId =>
    have hv4 : readSocketAddrV4 ('[' :: ip.toString.toList ++
        (if scopeId ≠ 0 then '%' :: (Nat.repr scopeId.toNat).toList else []) ++
        ']' :: ':' :: (Nat.repr port.toNat).toList) = none := by
      rw [readSocketAddrV4, readIpv4Addr_none_of_head (by simpa using (charToDigit_ne '[' (by simp)).2)]
      rfl
    simp only [readSocketAddr, hv4, readSocketAddrV6_text]
    rfl

end GelClient.Stream
