import GelClient.Transport.AddrParse

/-!
# The text of an IP address, read back

`IpAddr::from_str` reads back every address `Display` writes. An IPv4 address and an
IPv4-mapped IPv6 address end in dotted decimal; any other IPv6 address is written without a dot,
as hex groups with at most one `::`. The reader of a group stops at the `:` after it, and the
reader of an embedded IPv4 address needs a dot, so `read_groups` reads exactly the groups
written, up to a `::` or the end. The `::` stands for the longest run of zero groups, which
`zeroes_span` places inside the address; the head, the run and the tail are the eight groups.
-/

namespace GelClient.Net

/-! ## Groups as text -/

def hexGroup (g : BitVec 16) : List Char := Nat.toDigits 16 g.toNat

def colonGroups (gs : List (BitVec 16)) : List Char := gs.flatMap fun g => ':' :: hexGroup g

/-- `fmt_subslice` as characters. -/
def groupsText : List (BitVec 16) → List Char
  | [] => []
  | g :: gs => hexGroup g ++ colonGroups gs

@[simp] theorem colonGroups_nil : colonGroups [] = [] := rfl

@[simp] theorem colonGroups_cons (g : BitVec 16) (gs : List (BitVec 16)) :
    colonGroups (g :: gs) = ':' :: (hexGroup g ++ colonGroups gs) := rfl

theorem fmtSubslice_toList (gs : List (BitVec 16)) : (fmtSubslice gs).toList = groupsText gs := by
  cases gs with
  | nil => rfl
  | cons g gs =>
    simp only [fmtSubslice, List.map_cons, intercalate_cons_toList, List.flatMap_map]
    rfl

theorem fmtSubslice_data (gs : List (BitVec 16)) : (fmtSubslice gs).data = groupsText gs :=
  fmtSubslice_toList gs

theorem mem_hexGroup {c : Char} {g : BitVec 16} (h : c ∈ hexGroup g) :
    ∃ d, d < 16 ∧ c = Nat.digitChar d := by
  rw [hexGroup, toDigits_eq (by decide)] at h
  obtain ⟨d, hd, rfl⟩ := List.mem_map.1 h
  exact ⟨d, digitList_lt (by decide) _ d hd, rfl⟩

theorem digitChar_hex_ne : ∀ d, d < 16 →
    Nat.digitChar d ≠ '.' ∧ Nat.digitChar d ≠ ':' ∧ Nat.digitChar d ≠ '-' ∧
      Nat.digitChar d ≠ '%' ∧ Nat.digitChar d ≠ 'i' := by
  decide

theorem dot_not_mem_hexGroup (g : BitVec 16) : '.' ∉ hexGroup g := fun h => by
  obtain ⟨d, hd, hc⟩ := mem_hexGroup h
  exact (digitChar_hex_ne d hd).1 hc.symm

theorem dot_not_mem_colonGroups (gs : List (BitVec 16)) : '.' ∉ colonGroups gs := by
  simp only [colonGroups, List.mem_flatMap, List.mem_cons, not_exists, not_and]
  intro g _ h
  rcases h with h | h
  · cases h
  · exact dot_not_mem_hexGroup g h

theorem dot_not_mem_groupsText (gs : List (BitVec 16)) : '.' ∉ groupsText gs := by
  cases gs with
  | nil => simp [groupsText]
  | cons g gs =>
    simp only [groupsText, List.mem_append, not_or]
    exact ⟨dot_not_mem_hexGroup g, dot_not_mem_colonGroups gs⟩

theorem hexGroup_ne_nil (g : BitVec 16) : hexGroup g ≠ [] := by
  simp [hexGroup, toDigits_eq (by decide : 1 < 16), digitList_ne_nil]

/-! ## Reading groups back -/

/-- What follows the groups of a head or a tail: the end, the `::` before a tail, or a character
that is neither a colon nor a hex digit, such as the `%` or `]` after an address in a socket
address. -/
def GroupsEnd (rest : List Char) : Prop :=
  rest = [] ∨ (∃ t, rest = ':' :: ':' :: t) ∨ ∃ c t, rest = c :: t ∧ c ≠ ':' ∧ charToDigit 16 c = none

theorem charToDigit_eq_none_of_hex {c : Char} (h : charToDigit 16 c = none) {radix : Nat}
    (hr : radix ≤ 16) : charToDigit radix c = none := by
  simp only [charToDigit] at h ⊢
  generalize (c.toNat + 2 ^ 32 - '0'.toNat) % 2 ^ 32 = d at h ⊢
  generalize min (((c.toNat ||| 0x20) + 2 ^ 32 - 'a'.toNat) % 2 ^ 32 + 10) (2 ^ 32 - 1) = l at h ⊢
  by_cases hd : d < 10
  · -- a decimal digit is a hex digit
    rw [if_neg (show ¬(16 > 10 ∧ ¬d < 10) from fun h' => h'.2 hd), if_pos (by omega)] at h
    cases h
  · rw [if_pos (show 16 > 10 ∧ ¬d < 10 from ⟨by omega, hd⟩)] at h
    have hl : ¬l < 16 := fun hl => nomatch (if_pos hl).symm.trans h
    split_ifs <;> first | rfl | omega

theorem readNumber_none_of_head {radix maxDigits w : Nat} {allowZeroPrefix : Bool}
    {input : List Char} (h : ∀ c ∈ input.head?, charToDigit radix c = none) :
    readNumber radix maxDigits allowZeroPrefix w input = none := by
  cases input with
  | nil => rfl
  | cons c input => simp [readNumber, readDigits, h c rfl]

theorem readIpv4Addr_none_of_head {input : List Char}
    (h : ∀ c ∈ input.head?, charToDigit 10 c = none) : readIpv4Addr input = none := by
  simp [readIpv4Addr, readOctets, readSeparator, readNumber_none_of_head h]

theorem readIpv4Addr_none_of_dot {input : List Char} (h : '.' ∉ input) : readIpv4Addr input = none :=
  Option.eq_none_iff_forall_not_mem.2 fun ⟨_, _⟩ hr => h (dot_mem_of_readIpv4Addr hr)

theorem readSeparator_groupsEnd {α : Type} {i : Nat} {rest : List Char} (hi : 0 < i)
    (hend : GroupsEnd rest) {inner : List Char → Option (α × List Char)}
    (hinner : ∀ t, inner (':' :: t) = none) : readSeparator ':' i inner rest = none := by
  rw [readSeparator, if_pos hi]
  rcases hend with rfl | ⟨t, rfl⟩ | ⟨c, t, rfl, hc, -⟩
  · rfl
  · simp [readGivenChar, hinner]
  · simp [readGivenChar, hc]

theorem charToDigit_colon : ∀ radix, radix ≤ 16 → charToDigit radix ':' = none := by
  decide

theorem readNumber_hexGroup (g : BitVec 16) {rest : List Char}
    (hstop : ∀ c ∈ rest.head?, charToDigit 16 c = none) :
    readNumber 16 4 true 16 (hexGroup g ++ rest) = some (g, rest) :=
  readNumber_hex g hstop

theorem groupsEnd_head {rest : List Char} (hend : GroupsEnd rest) (radix : Nat) (h : radix ≤ 16) :
    ∀ c ∈ rest.head?, charToDigit radix c = none := by
  rcases hend with rfl | ⟨t, rfl⟩ | ⟨c, t, rfl, -, hc⟩
  · simp
  · simpa using charToDigit_colon radix h
  · simpa using charToDigit_eq_none_of_hex hc h

section Groups

variable {limit : Nat} {rest : List Char}

theorem readGroupsFrom_colonGroups (hdot : '.' ∉ rest) (hend : GroupsEnd rest) :
    ∀ (gs : List (BitVec 16)) (i left : Nat), 0 < i → gs.length ≤ left →
      readGroupsFrom limit i left (colonGroups gs ++ rest) = (gs, false, rest)
  | [], _, 0, _, _ => rfl
  | [], i, left + 1, hi, _ => by
    have hv4 : readSeparator ':' i readIpv4Addr rest = none :=
      readSeparator_groupsEnd hi hend
        (fun t => readIpv4Addr_none_of_head (by simpa using charToDigit_colon 10 (by decide)))
    have hhex : readSeparator ':' i (readNumber 16 4 true 16) rest = none :=
      readSeparator_groupsEnd hi hend
        (fun t => readNumber_none_of_head (by simpa using charToDigit_colon 16 le_rfl))
    simp [readGroupsFrom, hv4, hhex]
  | _ :: _, _, 0, _, h => absurd h (by simp)
  | g :: gs, i, left + 1, hi, h => by
    have hdot' : '.' ∉ hexGroup g ++ (colonGroups gs ++ rest) := by
      simp [dot_not_mem_hexGroup, dot_not_mem_colonGroups, hdot]
    have hstop : ∀ c ∈ (colonGroups gs ++ rest).head?, charToDigit 16 c = none := by
      cases gs with
      | nil => simpa using groupsEnd_head hend 16 le_rfl
      | cons _ _ => simpa using charToDigit_colon 16 le_rfl
    simp only [readGroupsFrom, colonGroups_cons, List.cons_append, readSeparator, hi, if_true,
      readGivenChar, Option.some_bind, List.append_assoc, readIpv4Addr_none_of_dot hdot', ite_self,
      readNumber_hexGroup g hstop]
    rw [readGroupsFrom_colonGroups hdot hend gs (i + 1) left (Nat.succ_pos i)
      (by simpa using h)]

theorem readGroupsFrom_end (hend : GroupsEnd rest) : ∀ left : Nat,
    readGroupsFrom limit 0 left rest = ([], false, rest)
  | 0 => rfl
  | _ + 1 => by
    simp [readGroupsFrom, readSeparator, readNumber_none_of_head (groupsEnd_head hend 16 le_rfl),
      readIpv4Addr_none_of_head (groupsEnd_head hend 10 (by decide))]

theorem readGroupsFrom_groupsText (hdot : '.' ∉ rest) (hend : GroupsEnd rest)
    (gs : List (BitVec 16)) (left : Nat) (h : gs.length ≤ left) :
    readGroupsFrom limit 0 left (groupsText gs ++ rest) = (gs, false, rest) := by
  cases gs with
  | nil => exact readGroupsFrom_end hend left
  | cons g gs =>
    cases left with
    | zero => simp at h
    | succ left =>
      have hdot' : '.' ∉ hexGroup g ++ (colonGroups gs ++ rest) := by
        simp [dot_not_mem_hexGroup, dot_not_mem_colonGroups, hdot]
      have hstop : ∀ c ∈ (colonGroups gs ++ rest).head?, charToDigit 16 c = none := by
        cases gs with
        | nil => simpa using groupsEnd_head hend 16 le_rfl
        | cons _ _ => simpa using charToDigit_colon 16 le_rfl
      simp only [groupsText, readGroupsFrom, readSeparator, Nat.lt_irrefl, if_false,
        List.append_assoc, readIpv4Addr_none_of_dot hdot', ite_self, readNumber_hexGroup g hstop,
        Nat.zero_add]
      rw [readGroupsFrom_colonGroups hdot hend gs 1 left Nat.one_pos (by simpa using h)]

end Groups

/-! ## The run of zero groups -/

def ZeroRun (segs : List (BitVec 16)) (sp : Span) : Prop :=
  sp.start + sp.len ≤ segs.length ∧ ∀ j, sp.start ≤ j → j < sp.start + sp.len → segs[j]? = some 0

/-- The loop's state after `k` groups: both spans are zero runs, and the run being counted, if
any, ends at `k`. -/
def ZeroesInv (segs : List (BitVec 16)) (k : Nat) (acc : Span × Span) : Prop :=
  ZeroRun segs acc.1 ∧ ZeroRun segs acc.2 ∧ (acc.2.len = 0 ∨ acc.2.start + acc.2.len = k)

theorem zeroRun_empty (segs : List (BitVec 16)) : ZeroRun segs ⟨0, 0⟩ :=
  ⟨Nat.zero_le _, fun _ _ h => absurd h (Nat.not_lt_zero _)⟩

theorem zeroesStep_inv {segs : List (BitVec 16)} {k : Nat} {acc : Span × Span} {x : BitVec 16}
    (hinv : ZeroesInv segs k acc) (hx : segs[k]? = some x) :
    ZeroesInv segs (k + 1) (zeroesStep acc (k, x)) := by
  obtain ⟨hlong, ⟨hcl, hcz⟩, hend⟩ := hinv
  have hk : k < segs.length := (List.getElem?_eq_some_iff.1 hx).1
  unfold zeroesStep
  by_cases h0 : x = 0
  · subst h0
    -- the counted run grows by the group at `k`
    have hrun : ZeroRun segs ⟨if acc.2.len = 0 then k else acc.2.start, acc.2.len + 1⟩ := by
      refine ⟨by dsimp only; split_ifs <;> omega, fun j hj1 hj2 => ?_⟩
      dsimp only at hj1 hj2
      by_cases hjk : j = k
      · subst hjk; exact hx
      · split_ifs at hj1 hj2 with hz
        · omega
        · exact hcz j hj1 (by omega)
    simp only [if_true]
    refine ⟨?_, hrun, .inr (by dsimp only; split_ifs <;> omega)⟩
    dsimp only
    by_cases hgt : acc.2.len + 1 > acc.1.len
    · rw [if_pos hgt]; exact hrun
    · rw [if_neg hgt]; exact hlong
  · simp only [h0, if_false]
    exact ⟨hlong, zeroRun_empty segs, .inl rfl⟩

theorem zeroes_fold_inv {segs : List (BitVec 16)} :
    ∀ (l : List (BitVec 16)) (k : Nat) (acc : Span × Span), segs.drop k = l →
      ZeroesInv segs k acc → ZeroesInv segs (k + l.length) ((l.enumFrom k).foldl zeroesStep acc)
  | [], k, acc, _, hinv => by simpa using hinv
  | x :: l, k, acc, hdrop, hinv => by
    have hx : segs[k]? = some x := by
      rw [← List.head?_drop, hdrop]; rfl
    have hdrop' : segs.drop (k + 1) = l := by
      rw [← List.drop_drop, hdrop]; rfl
    rw [List.enumFrom_cons, List.foldl_cons, List.length_cons, ← Nat.add_assoc, Nat.add_right_comm]
    exact zeroes_fold_inv l (k + 1) _ hdrop' (zeroesStep_inv hinv hx)

/-- The run `Display` elides lies inside the address and holds only zero groups. -/
theorem zeroes_span (ip : Ipv6Addr) : ZeroRun ip.segments ip.zeroes :=
  (zeroes_fold_inv ip.segments 0 (⟨0, 0⟩, ⟨0, 0⟩) rfl
    ⟨zeroRun_empty _, zeroRun_empty _, .inl rfl⟩).1

theorem eq_of_zeroRun {segs : List (BitVec 16)} {sp : Span} (h : ZeroRun segs sp) :
    segs = segs.take sp.start ++ List.replicate sp.len 0 ++ segs.drop (sp.start + sp.len) := by
  have hrun : (segs.drop sp.start).take sp.len = List.replicate sp.len 0 := by
    refine List.eq_replicate_iff.2 ⟨by simp; have := h.1; omega, fun a ha => ?_⟩
    obtain ⟨j, hj, rfl⟩ := List.getElem_of_mem ha
    simp only [List.length_take, List.length_drop] at hj
    have := h.2 (sp.start + j) (by omega) (by omega)
    simp only [List.getElem_take, List.getElem_drop]
    exact Option.some.inj ((List.getElem?_eq_getElem _).symm.trans this)
  rw [List.append_assoc, ← hrun, ← List.drop_drop, List.take_append_drop, List.take_append_drop]

/-! ## Groups and octets -/

theorem Ipv6Addr.ext_octets {a b : Ipv6Addr} (h : a.octets = b.octets) : a = b := by
  cases a; cases b; subst h; rfl

@[simp] theorem length_segments (ip : Ipv6Addr) : ip.segments.length = 8 := by
  simp [Ipv6Addr.segments]

theorem flatMap_range_pairs {α : Type} :
    ∀ (n : Nat) (l : List α), l.length = 2 * n →
      (List.range n).flatMap (fun i => (l.drop (2 * i)).take 2) = l
  | 0, l, h => by simp_all
  | n + 1, l, h => by
    rw [List.range_succ_eq_map, List.flatMap_cons, List.flatMap_map]
    have ih := flatMap_range_pairs n (l.drop 2) (by simp [h]; omega)
    simp only [List.drop_drop, Nat.mul_zero, List.drop_zero] at ih ⊢
    conv => rhs; rw [← List.take_append_drop 2 l, ← ih]
    congr 1
    refine List.flatMap_congr fun i _ => ?_
    rw [show 2 * (i + 1) = 2 * i + 2 by ring, Nat.add_comm]

theorem beBytes_ofNat_beVal {l : List Byte} (hl : l.length = 2) :
    beBytes 2 (BitVec.ofNat 16 (beVal l)).toNat = l := by
  have hlt := beVal_lt l
  rw [hl] at hlt
  rw [BitVec.toNat_ofNat, Nat.mod_eq_of_lt (by simpa using hlt)]
  calc beBytes 2 (beVal l) = beBytes l.length (beVal l) := by rw [hl]
    _ = l := beBytes_beVal l

theorem flatMap_segments (ip : Ipv6Addr) :
    ip.segments.flatMap (fun s => beBytes 2 s.toNat) = ip.octets := by
  rw [Ipv6Addr.segments, List.flatMap_map]
  conv => rhs; rw [← flatMap_range_pairs 8 ip.octets (by simp [ip.size])]
  refine List.flatMap_congr fun i hi => beBytes_ofNat_beVal ?_
  simp [ip.size]; simp at hi; omega

theorem ofSegments_segments (ip : Ipv6Addr) : Ipv6Addr.ofSegments ip.segments = ip := by
  apply Ipv6Addr.ext_octets
  simp only [Ipv6Addr.ofSegments]
  rw [List.take_append_of_le_length (by simp), List.take_of_length_le (by simp), flatMap_segments]

theorem ofSegments_mapped {ip : Ipv6Addr} {v4 : Ipv4Addr} (h : ip.toIpv4Mapped = some v4) :
    Ipv6Addr.ofSegments [0, 0, 0, 0, 0, 0xffff, BitVec.ofNat 16 (beVal (v4.octets.take 2)),
      BitVec.ofNat 16 (beVal (v4.octets.drop 2))] = ip := by
  simp only [Ipv6Addr.toIpv4Mapped] at h
  split_ifs at h with hpre
  cases h
  apply Ipv6Addr.ext_octets
  have hzero : beBytes 2 (0 : BitVec 16).toNat = [0, 0] := by decide
  have hffff : beBytes 2 (0xffff : BitVec 16).toNat = [0xff, 0xff] := by decide
  simp only [Ipv6Addr.ofSegments, List.cons_append, List.nil_append, List.take_succ_cons,
    List.take_zero, List.flatMap_cons, List.flatMap_nil, List.append_nil, hzero, hffff,
    beBytes_ofNat_beVal (by simp [ip.size] : ((ip.octets.drop 12).take 2).length = 2),
    beBytes_ofNat_beVal (by simp [ip.size] : ((ip.octets.drop 12).drop 2).length = 2),
    List.take_append_drop]
  conv => rhs; rw [← List.take_append_drop 12 ip.octets, hpre]
  rfl

/-! ## Reading an address back -/

theorem readGroups_groupsText (gs : List (BitVec 16)) {limit : Nat} (h : gs.length ≤ limit)
    {rest : List Char} (hdot : '.' ∉ rest) (hend : GroupsEnd rest) :
    readGroups limit (groupsText gs ++ rest) = (gs, false, rest) :=
  readGroupsFrom_groupsText hdot hend gs limit h

/-- The head, the zero run and the tail, put back as `read_ipv6_addr` does, are the groups. -/
theorem fill_head_tail {segs : List (BitVec 16)} {sp : Span} (hlen : segs.length = 8)
    (h : ZeroRun segs sp) :
    ((segs.take sp.start ++ List.replicate 8 0).take 8).take
        (8 - (segs.drop (sp.start + sp.len)).length) ++ segs.drop (sp.start + sp.len) = segs := by
  have hle := h.1
  have hkey : ((segs.take sp.start ++ List.replicate 8 0).take 8).take
      (8 - (segs.drop (sp.start + sp.len)).length) = segs.take sp.start ++ List.replicate sp.len 0 := by
    rw [List.length_drop, hlen, show 8 - (8 - (sp.start + sp.len)) = sp.start + sp.len by omega,
      List.take_append_eq_append_take, List.take_append_eq_append_take]
    simp only [List.length_take, hlen, List.take_replicate, List.length_replicate, List.take_take,
      List.take_of_length_le (show (segs.take sp.start).length ≤ 8 by simp; omega)]
    rw [show min sp.start 8 = sp.start by omega, show min (8 - sp.start) 8 = 8 - sp.start by omega,
      show min (sp.start + sp.len - sp.start) (8 - sp.start) = sp.len by omega]
    simp [List.take_of_length_le (show (segs.take sp.start).length ≤ sp.start + sp.len by simp)]
  rw [hkey]
  exact (eq_of_zeroRun h).symm

theorem hexGroup_ffff : hexGroup 0xffff = ['f', 'f', 'f', 'f'] := by decide

/-- The text of an IPv6 address that is not IPv4-mapped: its groups, with the longest run of
two or more zero groups written `::`. -/
theorem Ipv6Addr.toString_toList {ip : Ipv6Addr} (hm : ip.toIpv4Mapped = none) :
    ip.toString.toList = if 1 < ip.zeroes.len then
      groupsText (ip.segments.take ip.zeroes.start) ++ ':' :: ':' ::
        groupsText (ip.segments.drop (ip.zeroes.start + ip.zeroes.len))
      else groupsText ip.segments := by
  rw [Ipv6Addr.toString, hm]
  dsimp only
  split_ifs
  · simp only [String.toList, String.data_append, fmtSubslice_data, List.append_assoc]
    rfl
  · exact fmtSubslice_toList _

theorem Ipv6Addr.toString_toList_mapped {ip : Ipv6Addr} {v4 : Ipv4Addr}
    (hm : ip.toIpv4Mapped = some v4) :
    ip.toString.toList = ':' :: ':' :: (hexGroup 0xffff ++ ':' :: v4.toString.toList) := by
  rw [Ipv6Addr.toString, hm, hexGroup_ffff]
  simp [String.data_append]

/-- A head, `::` and a tail, as `Display` writes an address around its longest run of zero
groups, are read back as the address. -/
theorem readIpv6Addr_compressed {ip : Ipv6Addr} (hz : 1 < ip.zeroes.len) {rest : List Char}
    (hdot : '.' ∉ rest) (hend : GroupsEnd rest) :
    readIpv6Addr (groupsText (ip.segments.take ip.zeroes.start) ++ ':' :: ':' ::
      (groupsText (ip.segments.drop (ip.zeroes.start + ip.zeroes.len)) ++ rest)) = some (ip, rest) := by
  have hspan := zeroes_span ip
  have hle := hspan.1
  simp only [length_segments] at hle
  have hhead := @readGroupsFrom_groupsText 8
    (':' :: ':' :: (groupsText (ip.segments.drop (ip.zeroes.start + ip.zeroes.len)) ++ rest))
    (by simp [dot_not_mem_groupsText, hdot]) (.inr (.inl ⟨_, rfl⟩)) (ip.segments.take ip.zeroes.start)
    8 (by simp)
  rw [readIpv6Addr, readGroups, hhead]
  dsimp only
  rw [List.length_take, length_segments, if_neg (by omega), if_neg Bool.false_ne_true]
  simp only [readGivenChar, if_true, Option.bind_eq_bind, Option.some_bind, Option.map_some']
  rw [show min ip.zeroes.start 8 = ip.zeroes.start by omega,
    readGroups_groupsText (ip.segments.drop (ip.zeroes.start + ip.zeroes.len)) (by simp; omega)
      hdot hend]
  dsimp only
  rw [fill_head_tail (length_segments ip) hspan, ofSegments_segments]

/-- `::ffff:` and the IPv4 text are read back as the IPv4-mapped address. -/
theorem readIpv6Addr_mapped {ip : Ipv6Addr} {v4 : Ipv4Addr} (hm : ip.toIpv4Mapped = some v4)
    {rest : List Char} (hstop : ∀ c ∈ rest.head?, charToDigit 10 c = none) :
    readIpv6Addr (':' :: ':' :: (hexGroup 0xffff ++ ':' :: (v4.toString.toList ++ rest))) =
      some (ip, rest) := by
  have hv4 : readIpv4Addr (v4.toString.data ++ rest) = some (v4, rest) :=
    readIpv4Addr_toString v4 hstop
  -- the tail: the group `ffff`, then the IPv4 address as two groups
  have htail : readGroups 7 (hexGroup 0xffff ++ ':' :: (v4.toString.toList ++ rest)) =
      ([0xffff, BitVec.ofNat 16 (beVal (v4.octets.take 2)),
        BitVec.ofNat 16 (beVal (v4.octets.drop 2))], true, rest) := by
    have hf : readIpv4Addr (hexGroup 0xffff ++ ':' :: (v4.toString.toList ++ rest)) = none :=
      readIpv4Addr_none_of_head
        (by rw [hexGroup_ffff]; simpa using (by decide : charToDigit 10 'f' = none))
    rw [readGroups, readGroupsFrom]
    simp only [readSeparator, Nat.lt_irrefl, if_false, hf, ite_self,
      @readNumber_hexGroup 0xffff (':' :: (v4.toString.toList ++ rest))
        (by simpa using charToDigit_colon 16 le_rfl)]
    rw [show readGroupsFrom 7 (0 + 1) 6 = readGroupsFrom 7 1 (5 + 1) from rfl, readGroupsFrom]
    simp [readSeparator, readGivenChar, hv4]
  rw [readIpv6Addr, readGroups, readGroupsFrom_end (.inr (.inl ⟨_, rfl⟩))]
  simp only [List.length_nil, Nat.zero_add, readGivenChar, if_true, Option.bind_eq_bind,
    Option.some_bind, Option.map_some']
  rw [show 8 - 1 = 7 from rfl, htail]
  exact congrArg (fun a => some (a, rest)) (ofSegments_mapped hm)

/-- `read_ipv6_addr` reads back what `Display for Ipv6Addr` writes, and stops before what follows
it when that cannot continue an address. -/
theorem readIpv6Addr_toString_append (ip : Ipv6Addr) {rest : List Char} (hdot : '.' ∉ rest)
    (hend : GroupsEnd rest) : readIpv6Addr (ip.toString.toList ++ rest) = some (ip, rest) := by
  rcases hm : ip.toIpv4Mapped with _ | v4
  · rw [Ipv6Addr.toString_toList hm]
    split_ifs with hz
    · simpa using readIpv6Addr_compressed hz hdot hend
    · -- all eight groups
      rw [readIpv6Addr, readGroups_groupsText ip.segments (by simp) hdot hend]
      dsimp only
      simp only [length_segments, if_true, ofSegments_segments]
  · rw [Ipv6Addr.toString_toList_mapped hm]
    simpa using readIpv6Addr_mapped hm (groupsEnd_head hend 10 (by decide))

theorem readIpv6Addr_toString (ip : Ipv6Addr) : readIpv6Addr ip.toString.toList = some (ip, []) := by
  simpa using @readIpv6Addr_toString_append ip [] (by simp) (.inl rfl)

theorem readIpv4Addr_v6_toString (ip : Ipv6Addr) : readIpv4Addr ip.toString.toList = none := by
  rcases hm : ip.toIpv4Mapped with _ | v4
  · apply readIpv4Addr_none_of_dot
    rw [Ipv6Addr.toString_toList hm]
    split_ifs <;> simp [dot_not_mem_groupsText]
  · rw [Ipv6Addr.toString_toList_mapped hm]
    exact readIpv4Addr_none_of_head (by simpa using charToDigit_colon 10 (by decide))

theorem readIpAddr_toString (ip : IpAddr) : readIpAddr ip.toString.toList = some (ip, []) := by
  cases ip with
  | v4 ip =>
    have h := @readIpv4Addr_toString ip [] (by simp)
    rw [List.append_nil] at h
    rw [IpAddr.toString, readIpAddr, h]
    rfl
  | v6 ip =>
    rw [IpAddr.toString, readIpAddr, readIpv4Addr_v6_toString, readIpv6Addr_toString]
    rfl

/-- `IpAddr::from_str` reads back every address `Display` writes. -/
theorem IpAddr.fromStr_toString (ip : IpAddr) : IpAddr.fromStr ip.toString = .ok ip := by
  rw [IpAddr.fromStr, readIpAddr_toString]

/-! ## The characters of an address's text -/

/-- A character `Display` writes for an address: a hex digit, `:` or `.`. -/
def IpTextChar (c : Char) : Prop := c = ':' ∨ c = '.' ∨ ∃ d, d < 16 ∧ c = Nat.digitChar d

theorem ipTextChar_of_mem_hexGroup {c : Char} {g : BitVec 16} (h : c ∈ hexGroup g) :
    IpTextChar c :=
  .inr (.inr (mem_hexGroup h))

theorem ipTextChar_of_mem_groupsText {c : Char} :
    ∀ {gs : List (BitVec 16)}, c ∈ groupsText gs → IpTextChar c
  | [], h => absurd h (List.not_mem_nil c)
  | g :: gs, h => by
    simp only [groupsText, colonGroups, List.mem_append, List.mem_flatMap, List.mem_cons] at h
    rcases h with h | ⟨g', _, rfl | h⟩
    · exact ipTextChar_of_mem_hexGroup h
    · exact .inl rfl
    · exact ipTextChar_of_mem_hexGroup h

theorem ipTextChar_of_mem_repr {c : Char} {n : Nat} (h : c ∈ (Nat.repr n).toList) : IpTextChar c := by
  have hd : (Nat.repr n).toList = (digitList 10 n).map Nat.digitChar := toDigits_eq (by decide) n
  rw [hd] at h
  obtain ⟨d, hd, rfl⟩ := List.mem_map.1 h
  exact .inr (.inr ⟨d, by have := digitList_lt (b := 10) (by decide) n d hd; omega, rfl⟩)

theorem ipTextChar_ipv4 (ip : Ipv4Addr) : ∀ c ∈ ip.toString.toList, IpTextChar c := by
  rcases ip with ⟨_ | ⟨o, os⟩, hsize⟩
  · simp at hsize
  · intro c hc
    simp only [Ipv4Addr.toString, List.map_cons, intercalate_cons_toList, List.mem_append,
      List.mem_flatMap, List.mem_map] at hc
    rcases hc with hc | ⟨_, ⟨o', _, rfl⟩, hc⟩
    · exact ipTextChar_of_mem_repr hc
    · rcases hc with hc | hc
      · simp only [String.toList] at hc; exact .inr (.inl (by simpa using hc))
      · exact ipTextChar_of_mem_repr hc

theorem ipTextChar_toString (a : IpAddr) : ∀ c ∈ a.toString.toList, IpTextChar c := by
  cases a with
  | v4 ip => exact ipTextChar_ipv4 ip
  | v6 ip =>
    intro c hc
    rw [IpAddr.toString] at hc
    rcases hm : ip.toIpv4Mapped with _ | v4
    · rw [Ipv6Addr.toString_toList hm] at hc
      split_ifs at hc
      · simp only [List.mem_append, List.mem_cons] at hc
        rcases hc with hc | rfl | rfl | hc
        · exact ipTextChar_of_mem_groupsText hc
        · exact .inl rfl
        · exact .inl rfl
        · exact ipTextChar_of_mem_groupsText hc
      · exact ipTextChar_of_mem_groupsText hc
    · rw [Ipv6Addr.toString_toList_mapped hm] at hc
      simp only [List.mem_cons, List.mem_append] at hc
      rcases hc with rfl | rfl | hc | rfl | hc
      · exact .inl rfl
      · exact .inl rfl
      · exact ipTextChar_of_mem_hexGroup hc
      · exact .inl rfl
      · exact ipTextChar_ipv4 v4 c hc

theorem IpTextChar.ne {c : Char} (h : IpTextChar c) : c ≠ '-' ∧ c ≠ '%' ∧ c ≠ 'i' := by
  rcases h with rfl | rfl | ⟨d, hd, rfl⟩
  · decide
  · decide
  · exact ⟨(digitChar_hex_ne d hd).2.2.1, (digitChar_hex_ne d hd).2.2.2.1,
      (digitChar_hex_ne d hd).2.2.2.2⟩

/-! ## The labels of an address's text -/

theorem mem_repr {c : Char} {n : Nat} (h : c ∈ (Nat.repr n).toList) :
    ∃ d, d < 10 ∧ c = Nat.digitChar d := by
  rw [show (Nat.repr n).toList = (digitList 10 n).map Nat.digitChar from toDigits_eq (by decide) n]
    at h
  obtain ⟨d, hd, rfl⟩ := List.mem_map.1 h
  exact ⟨d, digitList_lt (by decide) n d hd, rfl⟩

theorem repr_ne_nil (n : Nat) : (Nat.repr n).toList ≠ [] := by
  rw [show (Nat.repr n).toList = (digitList 10 n).map Nat.digitChar from toDigits_eq (by decide) n]
  simpa using digitList_ne_nil 10 n

theorem length_repr_le {n : Nat} (h : n < 1000) : (Nat.repr n).toList.length ≤ 3 := by
  rw [show (Nat.repr n).toList = (digitList 10 n).map Nat.digitChar from toDigits_eq (by decide) n,
    List.length_map]
  exact length_digitList (by decide) (by decide) (by simpa using h)

theorem length_groupsText_le : ∀ gs : List (BitVec 16), (groupsText gs).length ≤ 5 * gs.length := by
  have hgroup : ∀ g : BitVec 16, (hexGroup g).length ≤ 4 := fun g => by
    rw [hexGroup, toDigits_eq (by decide), List.length_map]
    exact length_digitList (by decide) (by decide) (show g.toNat < 16 ^ 4 from g.isLt)
  have hcolons : ∀ gs : List (BitVec 16), (colonGroups gs).length ≤ 5 * gs.length := by
    intro gs
    induction gs with
    | nil => simp
    | cons g gs ih => simp only [colonGroups_cons, List.length_cons, List.length_append]; have := hgroup g; omega
  intro gs
  cases gs with
  | nil => simp [groupsText]
  | cons g gs =>
    simp only [groupsText, List.length_append, List.length_cons]
    have := hgroup g; have := hcolons gs; omega

theorem repr_char {c : Char} {n : Nat} (hc : c ∈ (Nat.repr n).toList) :
    IpTextChar c ∧ c ≠ '.' ∧ c ≠ ':' := by
  obtain ⟨d, hd, rfl⟩ := mem_repr hc
  exact ⟨.inr (.inr ⟨d, by omega, rfl⟩), (digitChar_hex_ne d (by omega)).1,
    (digitChar_hex_ne d (by omega)).2.1⟩

theorem Ipv4Addr.toString_dotted (v4 : Ipv4Addr) : ∃ o os, v4.toString.toList =
    (Nat.repr o).toList ++ (os.map fun n => (Nat.repr n).toList).flatMap (fun y => '.' :: y) ∧
      o < 256 ∧ os ≠ [] ∧ ∀ n ∈ os, n < 256 := by
  rcases v4 with ⟨_ | ⟨o, os⟩, hsize⟩
  · simp at hsize
  · refine ⟨o.toNat, os.map BitVec.toNat, ?_, o.isLt, ?_, ?_⟩
    · simp only [Ipv4Addr.toString, List.map_cons, intercalate_cons_toList, List.flatMap_map,
        List.map_map]
      rfl
    · cases os with
      | nil => simp at hsize
      | cons _ _ => simp
    · simp only [List.mem_map]; rintro _ ⟨o', _, rfl⟩; exact o'.isLt

/-- The text of an IPv6 address that is not IPv4-mapped is one label: not empty, at most 42
characters, and without a dot. -/
theorem Ipv6Addr.toString_label {ip : Ipv6Addr} (hm : ip.toIpv4Mapped = none) :
    ip.toString.toList ≠ [] ∧ ip.toString.toList.length ≤ 42 ∧ '.' ∉ ip.toString.toList := by
  have hle := (zeroes_span ip).1
  rw [Ipv6Addr.toString_toList hm]
  split_ifs
  · have h1 := length_groupsText_le (ip.segments.take ip.zeroes.start)
    have h2 := length_groupsText_le (ip.segments.drop (ip.zeroes.start + ip.zeroes.len))
    simp only [List.length_take, List.length_drop, length_segments] at h1 h2 hle
    refine ⟨by simp, ?_, by simp [dot_not_mem_groupsText]⟩
    simp only [List.length_append, List.length_cons]
    omega
  · obtain ⟨g, gs, hgs⟩ := List.exists_cons_of_ne_nil
      (List.ne_nil_of_length_pos (by simp : 0 < ip.segments.length))
    have := length_groupsText_le ip.segments
    simp only [length_segments] at this
    exact ⟨by simp [hgs, groupsText, hexGroup_ne_nil], by omega, dot_not_mem_groupsText _⟩

/-- The text of an address, as a first label and the dotted decimal labels after it: an IPv4
address is its first octet and then three; an IPv4-mapped address is `::ffff:` and its first
octet, and then three; any other IPv6 address is a label of hex digits and colons alone. -/
theorem toString_shape (ip : IpAddr) :
    ∃ x ys, ip.toString.toList = x ++ ys.flatMap (fun y => '.' :: y) ∧ x ≠ [] ∧ x.length ≤ 62 ∧
      (∀ c ∈ x, IpTextChar c ∧ c ≠ '.') ∧ (∀ y ∈ ys, ∃ n, n < 256 ∧ y = (Nat.repr n).toList) ∧
      (ys ≠ [] → ∀ c ∈ x.getLast?, c ≠ ':') := by
  have hlast : ∀ n : Nat, ∀ c ∈ (Nat.repr n).toList.getLast?, c ≠ ':' := fun n c hc =>
    (repr_char (List.mem_of_getLast?_eq_some hc)).2.2
  have hys : ∀ os : List Nat, (∀ n ∈ os, n < 256) →
      ∀ y ∈ os.map (fun n => (Nat.repr n).toList), ∃ n, n < 256 ∧ y = (Nat.repr n).toList := by
    intro os hos y hy
    obtain ⟨n, hn, rfl⟩ := List.mem_map.1 hy
    exact ⟨n, hos n hn, rfl⟩
  cases ip with
  | v4 v4 =>
    obtain ⟨o, os, htext, ho, hne, hos⟩ := v4.toString_dotted
    refine ⟨_, _, htext, repr_ne_nil o, by have := length_repr_le (n := o) (by omega); omega,
      fun c hc => ⟨(repr_char hc).1, (repr_char hc).2.1⟩, hys os hos, fun _ => hlast o⟩
  | v6 ip =>
    rcases hm : ip.toIpv4Mapped with _ | v4
    · -- hex groups and colons
      obtain ⟨hne, hlen, hdot⟩ := Ipv6Addr.toString_label hm
      exact ⟨_, [], (List.append_nil _).symm, hne, by simp only [IpAddr.toString]; omega,
        fun c hc => ⟨ipTextChar_toString _ c hc, by rintro rfl; exact hdot hc⟩, by simp, by simp⟩
    · -- `::ffff:` and the IPv4 text
      obtain ⟨o, os, htext, ho, hne, hos⟩ := v4.toString_dotted
      refine ⟨':' :: ':' :: (hexGroup 0xffff ++ ':' :: (Nat.repr o).toList), _, ?_, by simp, ?_,
        ?_, hys os hos, ?_⟩
      · rw [IpAddr.toString, Ipv6Addr.toString_toList_mapped hm, htext]
        simp
      · have := length_repr_le (n := o) (by omega)
        simp only [List.length_cons, List.length_append, hexGroup_ffff, List.length_nil]
        omega
      · intro c hc
        simp only [List.mem_cons, List.mem_append] at hc
        rcases hc with rfl | rfl | hc | rfl | hc
        · exact ⟨.inl rfl, by decide⟩
        · exact ⟨.inl rfl, by decide⟩
        · exact ⟨ipTextChar_of_mem_hexGroup hc, fun h => dot_not_mem_hexGroup _ (h ▸ hc)⟩
        · exact ⟨.inl rfl, by decide⟩
        · exact ⟨(repr_char hc).1, (repr_char hc).2.1⟩
      · intro _ c hc
        have hx : ':' :: ':' :: (hexGroup 0xffff ++ ':' :: (Nat.repr o).toList) =
            (':' :: ':' :: (hexGroup 0xffff ++ [':'])) ++ (Nat.repr o).toList := by simp
        rw [hx, List.getLast?_append_of_ne_nil _ (repr_ne_nil o)] at hc
        exact hlast o c hc

end GelClient.Net
