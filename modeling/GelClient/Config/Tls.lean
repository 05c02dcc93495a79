import GelClient.Config.Dsn
import GelClient.Transport.AddrText

/-!
# TLS parameters of a configuration

`Config::to_tls` picks the root certificates, the server certificate check, the ALPN protocols
and the server name to present (SNI). With no explicit server name the SNI is the target's host;
a host that reads as an IP address is rewritten under `host-for-ip.edgedb.net`: its text with
`:` and `%` replaced by `-`, and an `i` in front when that begins with `-`. `dnsHostnameValid` is
the hostname syntax the SNI is meant to have. Since `IpAddr::from_str` reads back what `Display`
writes, the name is read from the address itself, and no two addresses share one.
-/

namespace GelClient.Dsn

open GelClient.Net GelClient.Stream

/-! ## TLS parameters -/

inductive TlsCert where
  | webpki
  | webpkiPlus (certs : List (List Byte))
  | custom (certs : List (List Byte))
  deriving DecidableEq

inductive TlsServerCertVerify where
  | insecure
  | ignoreHostname
  | verifyFull
  deriving DecidableEq

structure TlsParameters where
  rootCert : TlsCert
  serverCertVerify : TlsServerCertVerify
  alpn : List String
  sniOverride : Option String
  deriving DecidableEq

def sniChar (c : Char) : Char := if c = ':' ∨ c = '%' then '-' else c

/-- The text `to_tls` presents for an IP address: `{ip}.host-for-ip.edgedb.net` with `:` and
`%` replaced by `-`, and an `i` in front when that begins with `-`. -/
def hostForIp (ip : IpAddr) : String :=
  let host := String.mk <| (ip.toString ++ ".host-for-ip.edgedb.net").toList.map sniChar
  if host.toList.head? = some '-' then "i" ++ host else host

/-- `Config::to_tls`. `certificates` is `CloudCerts::certificates`, which reads certificate files
outside this repository. -/
def Config.toTls (certificates : CloudCerts → List (List Byte)) (c : Config) : TlsParameters where
  rootCert :=
    match c.tlsCa with
    | some certs => .custom certs
    | none =>
      match c.cloudCerts with
      | some cloudCerts => .webpkiPlus (certificates cloudCerts)
      | none => .webpki
  serverCertVerify :=
    match c.tlsSecurity with
    | .insecure => .insecure
    | .noHostVerification => .ignoreHostname
    | .strict | .default => .verifyFull
  alpn := ["edgedb-binary", "gel-binary"]
  sniOverride :=
    match c.tlsServerName with
    | some serverName => some serverName
    | none =>
      match c.host.targetName with
      | .ok target =>
        match target.host with
        | some host =>
          match IpAddr.fromStr host with
          | .ok ip => some (hostForIp ip)
          | .error _ => some host
        | none => none
      | .error _ => none

/-! ## Hostname syntax -/

/-- A DNS label: one to 63 letters, digits and hyphens, neither first nor last a hyphen. -/
def dnsLabelValid (label : List Char) : Bool :=
  !label.isEmpty && label.length ≤ 63 && label.all (fun c => c.isAlphanum || c = '-') &&
    label.head? != some '-' && label.getLast? != some '-'

def dnsHostnameValid (s : String) : Bool :=
  (s.toList.splitOn '.').all dnsLabelValid

def documentationV6 : Config :=
  { defaultConfig with
    host := ⟨.ipAddr (.v6 (Ipv6Addr.ofSegments [0x2001, 0xdb8])), defaultPort⟩ }

/-- With no server name, the host `2001:db8::` is presented as `2001-db8--.host-for-ip.edgedb.net`,
whose first label ends with a hyphen. -/
theorem toTls_sni_trailing_hyphen (certificates : CloudCerts → List (List Byte)) :
    documentationV6.tlsServerName = none ∧
      (documentationV6.toTls certificates).sniOverride = some "2001-db8--.host-for-ip.edgedb.net" ∧
      dnsHostnameValid "2001-db8--.host-for-ip.edgedb.net" = false :=
  ⟨rfl, rfl, by decide⟩

/-! ## The name presented for an IP address -/

/-- With no server name, an IP host is presented as `hostForIp` of the address itself: the
host's text is read back as the address. -/
theorem toTls_sniOverride_ipAddr (certificates : CloudCerts → List (List Byte)) {c : Config}
    {ip : IpAddr} (hn : c.tlsServerName = none) (hip : c.host.hostType = .ipAddr ip) :
    (c.toTls certificates).sniOverride = some (hostForIp ip) := by
  have hread : IpAddr.fromStr ip.toString = .ok ip := by rw [IpAddr.fromStr, readIpAddr_toString]
  simp [Config.toTls, hn, Host.targetName, hip, MaybeResolvedTarget.host, hread]

theorem sniChar_suffix :
    ".host-for-ip.edgedb.net".toList.map sniChar = ".host-for-ip.edgedb.net".toList := by
  decide

theorem map_sniChar_injective {l l' : List Char} (h : ∀ c ∈ l, c ≠ '-' ∧ c ≠ '%')
    (h' : ∀ c ∈ l', c ≠ '-' ∧ c ≠ '%') (heq : l.map sniChar = l'.map sniChar) : l = l' := by
  have hback : ∀ k : List Char, (∀ c ∈ k, c ≠ '-' ∧ c ≠ '%') →
      (k.map sniChar).map (fun c => if c = '-' then ':' else c) = k := by
    intro k hk
    rw [List.map_map]
    conv => rhs; rw [← List.map_id k]
    refine List.map_congr_left fun c hc => ?_
    obtain ⟨h1, h2⟩ := hk c hc
    by_cases hc' : c = ':' <;> simp [sniChar, hc', h1, h2]
  rw [← hback l h, ← hback l' h', heq]

theorem hostForIp_toList (ip : IpAddr) :
    (hostForIp ip).toList =
      let host := ip.toString.toList.map sniChar ++ ".host-for-ip.edgedb.net".toList
      if host.head? = some '-' then 'i' :: host else host := by
  simp only [hostForIp, String.toList, String.data_append, List.map_append]
  rw [show (".host-for-ip.edgedb.net".data.map sniChar) = ".host-for-ip.edgedb.net".data
    from sniChar_suffix]
  split_ifs <;> rfl

theorem iPrefix_injective {u v : List Char} (hu : u.head? ≠ some 'i') (hv : v.head? ≠ some 'i')
    (h : (if u.head? = some '-' then 'i' :: u else u) = (if v.head? = some '-' then 'i' :: v else v)) :
    u = v := by
  split_ifs at h
  · exact (List.cons.inj h).2
  · rw [← h] at hv; exact absurd rfl hv
  · rw [h] at hu; exact absurd rfl hu
  · exact h

/-- No two IP addresses are presented under one name. -/
theorem hostForIp_injective : Function.Injective hostForIp := by
  intro a b hab
  have hchars : ∀ ip : IpAddr, ∀ c ∈ ip.toString.toList, c ≠ '-' ∧ c ≠ '%' := fun ip c hc =>
    ⟨(ipTextChar_toString ip c hc).ne.1, (ipTextChar_toString ip c hc).ne.2.1⟩
  -- the replaced text never begins with `i`
  have hhead : ∀ ip : IpAddr,
      (ip.toString.toList.map sniChar ++ ".host-for-ip.edgedb.net".toList).head? ≠ some 'i' := by
    intro ip
    cases ht : ip.toString.toList with
    | nil => decide
    | cons c t =>
      have hc := (ipTextChar_toString ip c (by rw [ht]; exact List.mem_cons_self _ _)).ne
      simp only [List.map_cons, List.cons_append, List.head?_cons, ne_eq, Option.some.injEq, sniChar]
      split_ifs <;> simp_all
  have hlist := congrArg String.toList hab
  rw [hostForIp_toList, hostForIp_toList] at hlist
  have htext : a.toString = b.toString := String.ext <|
    map_sniChar_injective (hchars a) (hchars b)
      (List.append_cancel_right (iPrefix_injective (hhead a) (hhead b) hlist))
  have hread := readIpAddr_toString a
  rw [show a.toString.toList = b.toString.toList from congrArg String.toList htext,
    readIpAddr_toString b] at hread
  injection hread with hread
  exact (Prod.mk.inj hread).1.symm

/-- With no server name, two configurations whose hosts are IP addresses present one name only
when the addresses are equal. -/
theorem toTls_sni_ipAddr_injective (certificates : CloudCerts → List (List Byte)) {c c' : Config}
    {ip ip' : IpAddr} (hn : c.tlsServerName = none) (hn' : c'.tlsServerName = none)
    (hip : c.host.hostType = .ipAddr ip) (hip' : c'.host.hostType = .ipAddr ip')
    (h : (c.toTls certificates).sniOverride = (c'.toTls certificates).sniOverride) : ip = ip' := by
  rw [toTls_sniOverride_ipAddr certificates hn hip, toTls_sniOverride_ipAddr certificates hn' hip']
    at h
  exact hostForIp_injective (Option.some.inj h)

def documentationV6Bob : Config :=
  { documentationV6 with host := ⟨.ipAddr (.v6 (Ipv6Addr.ofSegments [0x2001, 0xdb8])), 5657⟩
                         user := "bob" }

theorem toTls_sni_ipAddr_injective_documentationV6 :
    documentationV6 ≠ documentationV6Bob ∧
      IpAddr.v6 (Ipv6Addr.ofSegments [0x2001, 0xdb8]) = .v6 (Ipv6Addr.ofSegments [0x2001, 0xdb8]) :=
  ⟨fun h => absurd (congrArg Config.user h) (by decide),
    @toTls_sni_ipAddr_injective (fun _ => []) documentationV6 documentationV6Bob _ _ rfl rfl rfl rfl
      rfl⟩

/-! ## Which presented names are hostnames -/

theorem dnsLabelValid_iff {l : List Char} : dnsLabelValid l = true ↔
    l ≠ [] ∧ l.length ≤ 63 ∧ (∀ c ∈ l, c.isAlphanum ∨ c = '-') ∧ l.head? ≠ some '-' ∧
      l.getLast? ≠ some '-' := by
  simp [dnsLabelValid, List.isEmpty_iff, and_assoc]

theorem digitChar_isAlphanum : ∀ d, d < 16 → (Nat.digitChar d).isAlphanum := by decide

theorem dnsLabelValid_repr {n : Nat} (h : n < 1000) : dnsLabelValid (Nat.repr n).toList = true := by
  have halnum : ∀ c ∈ (Nat.repr n).toList, c.isAlphanum := fun c hc => by
    obtain ⟨d, hd, rfl⟩ := mem_repr hc
    exact digitChar_isAlphanum d (by omega)
  have hhyphen : ∀ c ∈ (Nat.repr n).toList, c ≠ '-' := fun c hc hc' => by
    have := halnum c hc; rw [hc'] at this; exact absurd this (by decide)
  refine dnsLabelValid_iff.2 ⟨repr_ne_nil n, by have := length_repr_le h; omega,
    fun c hc => .inl (halnum c hc), fun hd => ?_, fun hl => ?_⟩
  · exact hhyphen _ (List.mem_of_mem_head? hd) rfl
  · exact hhyphen _ (List.mem_of_getLast?_eq_some hl) rfl

theorem map_sniChar_repr (n : Nat) : (Nat.repr n).toList.map sniChar = (Nat.repr n).toList := by
  conv => rhs; rw [← List.map_id (Nat.repr n).toList]
  refine List.map_congr_left fun c hc => ?_
  obtain ⟨d, hd, rfl⟩ := mem_repr hc
  have := digitChar_hex_ne d (by omega)
  simp [sniChar, this.2.1, this.2.2.2.1]

theorem sniChar_label {c : Char} (h : IpTextChar c) (hd : c ≠ '.') :
    ((sniChar c).isAlphanum ∨ sniChar c = '-') ∧ (sniChar c = '-' ↔ c = ':') := by
  rcases h with rfl | rfl | ⟨d, hd16, rfl⟩
  · exact ⟨.inr rfl, by decide⟩
  · exact absurd rfl hd
  · have := digitChar_hex_ne d hd16
    simp only [sniChar, this.2.1, this.2.2.2.1, or_self, if_false, this.2.2.1, false_iff]
    exact ⟨.inl (digitChar_isAlphanum d hd16), trivial⟩

def sniFirstLabel (x : List Char) : List Char :=
  if (x.map sniChar).head? = some '-' then 'i' :: x.map sniChar else x.map sniChar

theorem dnsLabelValid_sniFirstLabel {x : List Char} (hne : x ≠ []) (hlen : x.length ≤ 62)
    (hx : ∀ c ∈ x, IpTextChar c ∧ c ≠ '.') :
    dnsLabelValid (sniFirstLabel x) = true ↔ x.getLast? ≠ some ':' := by
  have hchar : ∀ c ∈ x, ((sniChar c).isAlphanum ∨ sniChar c = '-') ∧ (sniChar c = '-' ↔ c = ':') :=
    fun c hc => sniChar_label (hx c hc).1 (hx c hc).2
  have hlast : (x.map sniChar).getLast? ≠ some '-' ↔ x.getLast? ≠ some ':' := by
    rw [List.getLast?_map]
    rcases hl : x.getLast? with _ | c
    · simp
    · simpa using not_congr (hchar c (List.mem_of_getLast?_eq_some hl)).2
  have hall : ∀ c ∈ x.map sniChar, c.isAlphanum ∨ c = '-' := by
    simp only [List.mem_map]; rintro _ ⟨c, hc, rfl⟩; exact (hchar c hc).1
  have hmne : x.map sniChar ≠ [] := by simpa using hne
  rw [dnsLabelValid_iff, sniFirstLabel, ← hlast]
  split_ifs with hh
  · obtain ⟨b, m, hm⟩ := List.exists_cons_of_ne_nil hmne
    rw [hm] at hall ⊢
    simp only [List.getLast?_cons_cons]
    have : (b :: m).length ≤ 62 := by rw [← hm]; simpa using hlen
    exact ⟨fun h => h.2.2.2.2, fun h => ⟨List.cons_ne_nil _ _, by simp at this ⊢; omega,
      fun c hc => (List.mem_cons.1 hc).elim (fun h => .inl (h ▸ rfl)) (hall c), by simp, h⟩⟩
  · exact ⟨fun h => h.2.2.2.2, fun h => ⟨hmne, by simpa using by omega, hall, hh, h⟩⟩

theorem dot_not_mem_sniFirstLabel {x : List Char} (hx : ∀ c ∈ x, IpTextChar c ∧ c ≠ '.') :
    '.' ∉ sniFirstLabel x := by
  have hmap : '.' ∉ x.map sniChar := by
    simp only [List.mem_map, not_exists, not_and]
    intro c hc hdot
    rcases sniChar_label (hx c hc).1 (hx c hc).2 with ⟨h | h, -⟩ <;> rw [hdot] at h
    · exact absurd h (by decide)
    · exact absurd h (by decide)
  rw [sniFirstLabel]
  split_ifs
  · exact fun h => (List.mem_cons.1 h).elim (fun h => absurd h (by decide)) hmap
  · exact hmap

theorem hostForIp_labels {ip : IpAddr} {x : List Char} {ys : List (List Char)}
    (htext : ip.toString.toList = x ++ ys.flatMap (fun y => '.' :: y)) (hne : x ≠ [])
    (hys : ∀ y ∈ ys, ∃ n, n < 256 ∧ y = (Nat.repr n).toList) :
    (hostForIp ip).toList = sniFirstLabel x ++
      (ys ++ ["host-for-ip".toList, "edgedb".toList, "net".toList]).flatMap (fun y => '.' :: y) := by
  have hmap : (ys.flatMap fun y => '.' :: y).map sniChar = ys.flatMap fun y => '.' :: y := by
    rw [List.map_flatMap]
    refine List.flatMap_congr fun y hy => ?_
    obtain ⟨n, _, rfl⟩ := hys y hy
    simp only [List.map_cons, map_sniChar_repr]
    rfl
  have hhead : (x.map sniChar ++ ((ys.flatMap fun y => '.' :: y) ++
      ".host-for-ip.edgedb.net".toList)).head? = (x.map sniChar).head? := by
    obtain ⟨b, m, rfl⟩ := List.exists_cons_of_ne_nil hne
    rfl
  rw [hostForIp_toList, htext, List.map_append, hmap, List.append_assoc]
  dsimp only
  rw [hhead, List.flatMap_append, sniFirstLabel]
  split_ifs <;> rfl

theorem splitOn_dot_labels (ys : List (List Char)) (hys : ∀ y ∈ ys, '.' ∉ y) :
    ∀ {x : List Char}, '.' ∉ x → (x ++ ys.flatMap (fun y => '.' :: y)).splitOn '.' = x :: ys := by
  have hp : ∀ {l : List Char}, '.' ∉ l → ∀ c ∈ l, ¬(c == '.') = true := fun hl c hc h =>
    hl (eq_of_beq h ▸ hc)
  induction ys with
  | nil =>
    intro x hx
    simpa using List.splitOnP_eq_single _ _ (hp hx)
  | cons y ys ih =>
    intro x hx
    rw [List.flatMap_cons, List.splitOn, List.cons_append,
      List.splitOnP_first _ x (hp hx) '.' (by decide), ← List.splitOn,
      ih (fun y' hy' => hys y' (List.mem_cons_of_mem _ hy')) (hys y (List.mem_cons_self _ _))]

/-- The name presented for an address is a hostname exactly when the address's text does not
end in `:`. -/
theorem dnsHostnameValid_hostForIp (ip : IpAddr) :
    dnsHostnameValid (hostForIp ip) = (ip.toString.toList.getLast? != some ':') := by
  obtain ⟨x, ys, htext, hne, hlen, hx, hys, hend⟩ := toString_shape ip
  have hsplit := splitOn_dot_labels (ys ++ ["host-for-ip".toList, "edgedb".toList, "net".toList])
    (by
      intro y hy
      rcases List.mem_append.1 hy with hy | hy
      · obtain ⟨n, _, rfl⟩ := hys y hy
        exact fun h => (repr_char h).2.1 rfl
      · simp only [List.mem_cons, List.not_mem_nil, or_false] at hy
        rcases hy with rfl | rfl | rfl <;> decide) (dot_not_mem_sniFirstLabel hx)
  have hlabels : ∀ y ∈ ys, dnsLabelValid y = true := fun y hy => by
    obtain ⟨n, hn, rfl⟩ := hys y hy
    exact dnsLabelValid_repr (by omega)
  -- the text ends in `:` only when it has no decimal labels
  have hlast : ip.toString.toList.getLast? ≠ some ':' ↔ x.getLast? ≠ some ':' := by
    rw [htext, List.getLast?_append]
    rcases hL : (ys.flatMap fun y => '.' :: y).getLast? with _ | c
    · simp
    · have hc := List.mem_of_getLast?_eq_some hL
      have hys' : ys ≠ [] := by rintro rfl; simp at hc
      have hnc : c ≠ ':' := by
        obtain ⟨y, hy, hcy⟩ := List.mem_flatMap.1 hc
        rcases List.mem_cons.1 hcy with rfl | hcy
        · decide
        · obtain ⟨n, _, rfl⟩ := hys y hy
          obtain ⟨d, hd, rfl⟩ := mem_repr hcy
          exact (digitChar_hex_ne d (by omega)).2.1
      simp only [Option.or_some, ne_eq, Option.some.injEq, hnc, not_false_eq_true, true_iff]
      exact fun h => hend hys' _ h rfl
  have hsuffix : ["host-for-ip".toList, "edgedb".toList, "net".toList].all dnsLabelValid = true := by
    decide
  rw [dnsHostnameValid, hostForIp_labels htext hne hys, hsplit, Bool.eq_iff_iff, bne_iff_ne,
    hlast, ← dnsLabelValid_sniFirstLabel hne hlen hx]
  simp only [List.all_cons, List.all_append, hsuffix, Bool.and_true, Bool.and_eq_true,
    List.all_eq_true.2 hlabels, and_true]

/-- With no server name, an IP host is presented under a name that is a hostname exactly when
the address's text does not end in `:`. -/
theorem toTls_sni_valid_iff (certificates : CloudCerts → List (List Byte)) {c : Config}
    {ip : IpAddr} (hn : c.tlsServerName = none) (hip : c.host.hostType = .ipAddr ip) :
    (c.toTls certificates).sniOverride.map dnsHostnameValid =
      some (ip.toString.toList.getLast? != some ':') := by
  rw [toTls_sniOverride_ipAddr certificates hn hip, Option.map_some', dnsHostnameValid_hostForIp]

theorem toTls_sni_valid_iff_documentationV6 :
    (documentationV6.toTls fun _ => []).sniOverride.map dnsHostnameValid = some false :=
  toTls_sni_valid_iff (fun _ => []) (c := documentationV6) rfl rfl

end GelClient.Dsn
