import GelClient.Transport.Net
import Mathlib.Data.Nat.Digits

/-!
# Parsing IP addresses

`IpAddr::from_str`, modelled from `std::net::parser`: every reader that can fail runs under
`read_atomically`, so a reader is a function from the input to the value and the rest, or
`none`. `read_number` fails past `max_digits` digits, on no digit, on a refused leading zero and
on a value too wide. An IPv4 address is four decimal octets separated by dots; an IPv6 address
is a head of hex groups and, when short of eight, `::` and a tail, where a trailing embedded
IPv4 address counts as two groups. The input is read as characters where `std` reads bytes: a
character outside ASCII is neither a digit nor a separator, so both fail alike.
-/

namespace GelClient.Net

/-! ## Readers -/

/-- `char::to_digit`: `0`-`9`, and for a radix above ten the letters of either case after them,
with the `u32` arithmetic of the source (`wrapping_sub`, `saturating_add`). -/
def charToDigit (radix : Nat) (c : Char) : Option Nat :=
  let digit := (c.toNat + 2 ^ 32 - '0'.toNat) % 2 ^ 32
  let digit :=
    if radix > 10 ∧ ¬ digit < 10 then
      min (((c.toNat ||| 0x20) + 2 ^ 32 - 'a'.toNat) % 2 ^ 32 + 10) (2 ^ 32 - 1)
    else digit
  if digit < radix then some digit else none

def readGivenChar (target : Char) : List Char → Option (List Char)
  | c :: rest => if c = target then some rest else none
  | [] => none

def readSeparator {α : Type} (sep : Char) (index : Nat) (inner : List Char → Option (α × List Char))
    (input : List Char) : Option (α × List Char) :=
  if index > 0 then (readGivenChar sep input).bind inner else inner input

/-- The digit loop of `read_number` with `max_digits`: the value so far and the digit count,
failing once the count passes `max_digits`. -/
def readDigits (radix maxDigits : Nat) : Nat → Nat → List Char → Option (Nat × Nat × List Char)
  | result, count, c :: rest =>
    match charToDigit radix c with
    | some digit =>
      if count + 1 > maxDigits then none
      else readDigits radix maxDigits (result * radix + digit) (count + 1) rest
    | none => some (result, count, c :: rest)
  | result, count, [] => some (result, count, [])

/-- `read_number(radix, Some(max_digits), allow_zero_prefix)` into a `w`-bit integer. -/
def readNumber (radix maxDigits : Nat) (allowZeroPrefix : Bool) (w : Nat) (input : List Char) :
    Option (BitVec w × List Char) :=
  let hasLeadingZero := input.head? = some '0'
  match readDigits radix maxDigits 0 0 input with
  | none => none
  | some (result, count, rest) =>
    if count = 0 then none
    else if !allowZeroPrefix && hasLeadingZero && count > 1 then none
    else if result < 2 ^ w then some (BitVec.ofNat w result, rest) else none

def readOctets : Nat → Nat → List Char → Option (List Byte × List Char)
  | _, 0, input => some ([], input)
  | i, left + 1, input =>
    (readSeparator '.' i (readNumber 10 3 false 8) input).bind fun (octet, rest) =>
      (readOctets (i + 1) left rest).map fun (octets, rest) => (octet :: octets, rest)

/-- `read_ipv4_addr`: four decimal octets separated by dots, none with a leading zero. -/
def readIpv4Addr (input : List Char) : Option (Ipv4Addr × List Char) :=
  match readOctets 0 4 input with
  | some (octets, rest) =>
    some (⟨octets.take 4 ++ List.replicate (4 - octets.length) 0, by simp; omega⟩, rest)
  | none => none

/-- The groups `read_groups` fills from the `i`-th slot of `limit`: before the last slot an
embedded IPv4 address, taken as the last two groups; else a hex group; stopping at the first
slot where neither can be read. The flag says whether an IPv4 address ended the groups. -/
def readGroupsFrom (limit : Nat) : Nat → Nat → List Char → List (BitVec 16) × Bool × List Char
  | _, 0, input => ([], false, input)
  | i, left + 1, input =>
    let ipv4 := if i < limit - 1 then readSeparator ':' i readIpv4Addr input else none
    match ipv4 with
    | some (v4, rest) =>
      ([BitVec.ofNat 16 (beVal (v4.octets.take 2)), BitVec.ofNat 16 (beVal (v4.octets.drop 2))],
        true, rest)
    | none =>
      match readSeparator ':' i (readNumber 16 4 true 16) input with
      | some (group, rest) =>
        let (groups, ipv4, rest) := readGroupsFrom limit (i + 1) left rest
        (group :: groups, ipv4, rest)
      | none => ([], false, input)

def readGroups (limit : Nat) (input : List Char) : List (BitVec 16) × Bool × List Char :=
  readGroupsFrom limit 0 limit input

theorem length_flatMap_beBytes (k : Nat) (l : List (BitVec 16)) :
    (l.flatMap fun s => beBytes k s.toNat).length = k * l.length := by
  induction l with
  | nil => rfl
  | cons s l ih => simp [List.flatMap_cons, ih, Nat.mul_succ]; omega

/-- `From<[u16; 8]> for Ipv6Addr`: the groups big-endian. The parser always has eight; the
list is read as the array it stands for, zero-filled. -/
def Ipv6Addr.ofSegments (segments : List (BitVec 16)) : Ipv6Addr :=
  ⟨((segments ++ List.replicate 8 0).take 8).flatMap fun s => beBytes 2 s.toNat, by
    rw [length_flatMap_beBytes]; simp⟩

/-- `read_ipv6_addr`: a head of up to eight groups; if short, `::` and a tail of at most
`7 - head` groups, copied to the end of the head's zero-filled array. -/
def readIpv6Addr (input : List Char) : Option (Ipv6Addr × List Char) :=
  let (head, headIpv4, rest) := readGroups 8 input
  if head.length = 8 then some (.ofSegments head, rest)
  else if headIpv4 then none
  else
    (readGivenChar ':' rest >>= readGivenChar ':').map fun rest =>
      let (tail, _, rest) := readGroups (8 - (head.length + 1)) rest
      (.ofSegments (((head ++ List.replicate 8 0).take 8).take (8 - tail.length) ++ tail), rest)

def readIpAddr (input : List Char) : Option (IpAddr × List Char) :=
  ((readIpv4Addr input).map fun (ip, rest) => (.v4 ip, rest)) <|>
    (readIpv6Addr input).map fun (ip, rest) => (.v6 ip, rest)

inductive AddrKind where
  | ip
  deriving DecidableEq, Repr

structure AddrParseError where
  kind : AddrKind
  deriving DecidableEq, Repr

/-- `FromStr for IpAddr`: an address that takes the whole input. -/
def IpAddr.fromStr (s : String) : Except AddrParseError IpAddr :=
  match readIpAddr s.toList with
  | some (ip, []) => .ok ip
  | _ => .error ⟨.ip⟩

/-! ## What the readers consume -/

section Consume

variable {radix maxDigits : Nat}

theorem readDigits_suffix : ∀ {result count : Nat} {input rest : List Char} {r c : Nat},
    readDigits radix maxDigits result count input = some (r, c, rest) → rest <:+ input
  | _, _, [], _, _, _, h => by simp only [readDigits, Option.some.injEq, Prod.mk.injEq] at h; simp [← h.2.2]
  | _, _, ch :: input, _, _, _, h => by
    simp only [readDigits] at h
    split at h
    · split at h
      · cases h
      · exact (readDigits_suffix h).trans (List.suffix_cons _ _)
    · simp only [Option.some.injEq, Prod.mk.injEq] at h
      rw [← h.2.2]

theorem readNumber_suffix {allowZeroPrefix : Bool} {w : Nat} {input rest : List Char}
    {v : BitVec w} (h : readNumber radix maxDigits allowZeroPrefix w input = some (v, rest)) :
    rest <:+ input := by
  rcases hd : readDigits radix maxDigits 0 0 input with _ | ⟨r, c, rest'⟩ <;>
    simp only [readNumber, hd, reduceCtorEq] at h
  split_ifs at h
  cases h
  exact readDigits_suffix hd

theorem dot_mem_of_readIpv4Addr {input rest : List Char} {ip : Ipv4Addr}
    (h : readIpv4Addr input = some (ip, rest)) : '.' ∈ input := by
  unfold readIpv4Addr readOctets at h
  split at h
  · rename_i heq
    obtain ⟨⟨o, r1⟩, h1, h2⟩ := Option.bind_eq_some.1 heq
    obtain ⟨⟨os, r2⟩, h3, -⟩ := Option.map_eq_some'.1 h2
    simp only [readOctets, readSeparator, Nat.lt_irrefl, if_false, Nat.zero_lt_one, if_true]
      at h1 h3
    obtain ⟨⟨o', r3⟩, h4, -⟩ := Option.bind_eq_some.1 h3
    obtain ⟨r4, h5, -⟩ := Option.bind_eq_some.1 h4
    match r1, h5 with
    | c :: r1, h5 =>
      simp only [readGivenChar] at h5
      split_ifs at h5 with hc
      subst hc
      exact (readNumber_suffix h1).subset (List.mem_cons_self _ _)
  · cases h

end Consume

/-! ## Reading back what `Display` writes -/

def digitList (b n : Nat) : List Nat := if n = 0 then [0] else (b.digits n).reverse

theorem toDigitsCore_eq {b : Nat} (hb : 1 < b) :
    ∀ (f n : Nat) (ds : List Char), n < f →
      Nat.toDigitsCore b f n ds = (digitList b n).map Nat.digitChar ++ ds
  | 0, _, _, h => absurd h (Nat.not_lt_zero _)
  | f + 1, n, ds, h => by
    rw [Nat.toDigitsCore]
    by_cases hn : n = 0
    · subst hn; simp [digitList]
    by_cases hq : n / b = 0
    · have hlt : n < b := (Nat.div_eq_zero_iff (by omega)).1 hq
      simp [digitList, hq, hn, Nat.digits_of_lt b n hn hlt, Nat.mod_eq_of_lt hlt]
    · have hlt : n / b < f := by
        have := Nat.div_lt_self (Nat.pos_of_ne_zero hn) hb; omega
      simp only [hq, if_false, toDigitsCore_eq hb f (n / b) _ hlt, digitList, hn,
        Nat.digits_def' hb (Nat.pos_of_ne_zero hn), List.reverse_cons, List.map_append]
      simp

theorem toDigits_eq {b : Nat} (hb : 1 < b) (n : Nat) :
    Nat.toDigits b n = (digitList b n).map Nat.digitChar := by
  simpa using toDigitsCore_eq hb (n + 1) n [] (Nat.lt_succ_self n)

theorem foldl_reverse_digits (b acc : Nat) :
    ∀ L : List Nat, L.reverse.foldl (fun a d => a * b + d) acc = acc * b ^ L.length + Nat.ofDigits b L
  | [] => by simp [Nat.ofDigits]
  | d :: L => by
    rw [List.reverse_cons, List.foldl_append, foldl_reverse_digits b acc L, Nat.ofDigits_cons]
    simp [pow_succ]; ring

theorem digitList_value (b n : Nat) : (digitList b n).foldl (fun a d => a * b + d) 0 = n := by
  unfold digitList
  split_ifs with hn
  · simp [hn]
  · rw [foldl_reverse_digits, Nat.ofDigits_digits]; simp

theorem digitList_lt {b : Nat} (hb : 1 < b) (n : Nat) : ∀ d ∈ digitList b n, d < b := by
  unfold digitList
  split_ifs
  · simp; omega
  · intro d hd; exact Nat.digits_lt_base hb (List.mem_reverse.1 hd)

theorem digitList_ne_nil (b n : Nat) : digitList b n ≠ [] := by
  unfold digitList
  split_ifs with hn
  · simp
  · simpa using Nat.digits_ne_nil_iff_ne_zero.2 hn

theorem length_digitList {b : Nat} (hb : 1 < b) {n k : Nat} (hk : 0 < k) (hn : n < b ^ k) :
    (digitList b n).length ≤ k := by
  unfold digitList
  split_ifs with h0
  · simpa using hk
  · rw [List.length_reverse, Nat.digits_len b n hb h0]
    exact Nat.log_lt_of_lt_pow h0 hn

theorem head_digitList {b n : Nat} (hn : n ≠ 0) : (digitList b n).head? ≠ some 0 := by
  simp only [digitList, hn, if_false, List.head?_reverse]
  rw [List.getLast?_eq_getLast _ (Nat.digits_ne_nil_iff_ne_zero.2 hn)]
  simpa using Nat.getLast_digit_ne_zero b hn

theorem charToDigit_digitChar_hex : ∀ d, d < 16 → charToDigit 16 (Nat.digitChar d) = some d := by
  decide

theorem charToDigit_digitChar_dec : ∀ d, d < 10 → charToDigit 10 (Nat.digitChar d) = some d := by
  decide

section Consume

variable {radix maxDigits : Nat}

theorem readDigits_map_digitChar {rest : List Char}
    (hstop : ∀ c ∈ rest.head?, charToDigit radix c = none) :
    ∀ (ds : List Nat) (result count : Nat), (∀ d ∈ ds, charToDigit radix (Nat.digitChar d) = some d) →
      count + ds.length ≤ maxDigits →
      readDigits radix maxDigits result count (ds.map Nat.digitChar ++ rest) =
        some (ds.foldl (fun a d => a * radix + d) result, count + ds.length, rest)
  | [], result, count, _, _ => by
    cases rest with
    | nil => rfl
    | cons c rest => simp [readDigits, hstop c rfl]
  | d :: ds, result, count, hdig, hlen => by
    have ih := readDigits_map_digitChar hstop ds (result * radix + d) (count + 1)
      (fun e he => hdig e (List.mem_cons_of_mem _ he)) (by simp at hlen; omega)
    rw [List.map_cons, List.cons_append, readDigits, hdig d (List.mem_cons_self _ _)]
    dsimp only
    rw [if_neg (by simp at hlen; omega), ih]
    simp [Nat.add_assoc, Nat.add_comm 1]

end Consume

theorem readNumber_hex (g : BitVec 16) {rest : List Char}
    (hstop : ∀ c ∈ rest.head?, charToDigit 16 c = none) :
    readNumber 16 4 true 16 (Nat.toDigits 16 g.toNat ++ rest) = some (g, rest) := by
  have hlen := length_digitList (b := 16) (by decide) (k := 4) (by decide)
    (show g.toNat < 16 ^ 4 from g.isLt)
  rw [toDigits_eq (by decide), readNumber, readDigits_map_digitChar hstop _ _ _
    (fun d hd => charToDigit_digitChar_hex d (digitList_lt (by decide) _ d hd)) (by simpa using hlen),
    digitList_value]
  have hne := digitList_ne_nil 16 g.toNat
  simp [List.length_pos.2 hne, Nat.ne_of_gt (List.length_pos.2 hne), g.isLt]

theorem readNumber_dec (o : BitVec 8) {rest : List Char}
    (hstop : ∀ c ∈ rest.head?, charToDigit 10 c = none) :
    readNumber 10 3 false 8 ((Nat.repr o.toNat).toList ++ rest) = some (o, rest) := by
  have hlen := length_digitList (b := 10) (by decide) (k := 3) (by decide)
    (show o.toNat < 10 ^ 3 by have := o.isLt; omega)
  have hrepr : (Nat.repr o.toNat).toList = (digitList 10 o.toNat).map Nat.digitChar :=
    toDigits_eq (by decide) _
  have hne := digitList_ne_nil 10 o.toNat
  rw [hrepr, readNumber, readDigits_map_digitChar hstop _ _ _
    (fun d hd => charToDigit_digitChar_dec d (digitList_lt (by decide) _ d hd)) (by simpa using hlen),
    digitList_value]
  -- a leading `0` is the whole number
  have hzero : ((digitList 10 o.toNat).map Nat.digitChar ++ rest).head? = some '0' →
      (digitList 10 o.toNat).length ≤ 1 := by
    intro h
    by_cases h0 : o.toNat = 0
    · simp [digitList, h0]
    · obtain ⟨d, ds, hds⟩ := List.exists_cons_of_ne_nil hne
      have hd := digitList_lt (b := 10) (by decide) o.toNat d (by simp [hds])
      have hhead := head_digitList (b := 10) h0
      rw [hds] at h hhead
      simp only [List.map_cons, List.cons_append, List.head?_cons, Option.some.injEq] at h hhead
      have h0d : some 0 = some d := by rw [← charToDigit_digitChar_dec d hd, h]; rfl
      exact absurd (congrArg some (Option.some.inj h0d).symm) hhead
  dsimp only
  rw [if_neg (Nat.ne_of_gt (by simpa using List.length_pos.2 hne)),
    if_neg (fun h => by simp only [Bool.not_false, Bool.true_and, Bool.and_eq_true,
      decide_eq_true_eq] at h; have := hzero h.1; omega), if_pos o.isLt]
  simp

theorem intercalate_go_toList (sep : String) : ∀ (acc : String) (xs : List String),
    (String.intercalate.go acc sep xs).toList =
      acc.toList ++ xs.flatMap fun x => sep.toList ++ x.toList
  | acc, [] => by simp [String.intercalate.go]
  | acc, x :: xs => by
    rw [String.intercalate.go, intercalate_go_toList sep _ xs]
    simp [String.data_append]

theorem intercalate_cons_toList (sep x : String) (xs : List String) :
    (sep.intercalate (x :: xs)).toList = x.toList ++ xs.flatMap fun y => sep.toList ++ y.toList :=
  intercalate_go_toList sep x xs

theorem readOctets_dots {rest : List Char} (hstop : ∀ c ∈ rest.head?, charToDigit 10 c = none) :
    ∀ (os : List Byte) (i : Nat), 0 < i →
      readOctets i os.length ((os.flatMap fun o => '.' :: (Nat.repr o.toNat).toList) ++ rest) =
        some (os, rest)
  | [], _, _ => rfl
  | o :: os, i, hi => by
    have hstop' : ∀ c ∈ ((os.flatMap fun o => '.' :: (Nat.repr o.toNat).toList) ++ rest).head?,
        charToDigit 10 c = none := by
      cases os with
      | nil => simpa using hstop
      | cons _ _ => simp only [List.flatMap_cons, List.cons_append, List.head?_cons,
          Option.mem_def, Option.some.injEq, forall_eq']; rfl
    simp only [List.length_cons, readOctets, List.flatMap_cons, List.cons_append, List.append_assoc,
      readSeparator, hi, if_true, readGivenChar, Option.some_bind]
    rw [readNumber_dec o hstop']
    simpa using readOctets_dots hstop os (i + 1) (Nat.succ_pos i)

/-- `read_ipv4_addr` reads back what `Display for Ipv4Addr` writes. -/
theorem readIpv4Addr_toString (ip : Ipv4Addr) {rest : List Char}
    (hstop : ∀ c ∈ rest.head?, charToDigit 10 c = none) :
    readIpv4Addr (ip.toString.toList ++ rest) = some (ip, rest) := by
  rcases ip with ⟨_ | ⟨o, os⟩, hsize⟩
  · simp at hsize
  · simp only [List.length_cons, Nat.add_right_cancel_iff] at hsize
    have hstop' : ∀ c ∈ ((os.flatMap fun o => '.' :: (Nat.repr o.toNat).toList) ++ rest).head?,
        charToDigit 10 c = none := by
      cases os with
      | nil => simp at hsize
      | cons _ _ => simp only [List.flatMap_cons, List.cons_append, List.head?_cons,
          Option.mem_def, Option.some.injEq, forall_eq']; rfl
    have hread : readOctets 0 4 ((Nat.repr o.toNat).toList ++
        ((os.flatMap fun o => '.' :: (Nat.repr o.toNat).toList) ++ rest)) = some (o :: os, rest) := by
      rw [← hsize, readOctets, readSeparator, if_neg (Nat.lt_irrefl 0), readNumber_dec o hstop']
      simpa using readOctets_dots hstop os 1 Nat.one_pos
    have htext : (Ipv4Addr.toString ⟨o :: os, hsize⟩).toList ++ rest = (Nat.repr o.toNat).toList ++
        ((os.flatMap fun o => '.' :: (Nat.repr o.toNat).toList) ++ rest) := by
      simp only [Ipv4Addr.toString, List.map_cons, intercalate_cons_toList, List.flatMap_map,
        List.append_assoc]
      rfl
    rw [htext, readIpv4Addr, hread]
    simp [← hsize]

end GelClient.Net
