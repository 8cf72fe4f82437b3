import Mathlib.Algebra.Group.Int.Defs
import NewApi.GoText

/-! Internet addresses and their texts, as Go's `net` and `net/netip` read them:
the spellings of an address, with a zone or without, the ranges, and the split of
a host and its port. Nothing here depends on what the addresses are for. -/
namespace NewApi.NetAddr
open NewApi.GoText (trimSpace trimBoth isSpace)

/-- `net.IP`, in its form of 16 bytes. -/
abbrev IP := BitVec 128

def ofIPv4 (v4 : BitVec 32) : IP := (0xffff#96 ++ v4)

/-- `net.IP.To4`. -/
def to4 (ip : IP) : Option (BitVec 32) :=
  if ip >>> 32 = 0xffff#128 then some (ip.setWidth 32) else none

/-! ## Texts of addresses -/

/-- `netip.Addr`: the address, whether it was written with four fields, and its
zone. -/
structure Addr where
  ip : IP
  is4 : Bool
  zone : String
  deriving DecidableEq, Repr

def hexValue (char : Char) : Option Nat :=
  if char.isDigit then some (char.toNat - '0'.toNat)
  else if 'a' ≤ char ∧ char ≤ 'f' then some (char.toNat - 'a'.toNat + 10)
  else if 'A' ≤ char ∧ char ≤ 'F' then some (char.toNat - 'A'.toNat + 10)
  else none

def isHex (char : Char) : Bool := (hexValue char).isSome

/-- The loop of `netip.parseIPv4Fields`: the character before, the field so far
with its digits, and the fields that are complete. -/
def ipv4Fields : List Char → Option Char → Nat → Nat → List Nat → Option (List Nat)
  | [], _, val, _, fields => if fields.length < 3 then none else some (fields ++ [val])
  | char :: rest, previous, val, digits, fields =>
    if char.isDigit then
      if digits = 1 ∧ val = 0 then none
      else if 255 < val * 10 + (char.toNat - '0'.toNat) then none
      else ipv4Fields rest (some char) (val * 10 + (char.toNat - '0'.toNat)) (digits + 1) fields
    else if char = '.' then
      if previous = none ∨ rest = [] ∨ previous = some '.' then none
      else if fields.length = 3 then none
      else ipv4Fields rest (some char) 0 0 (fields ++ [val])
    else none

def ofDigits (base : Nat) (digits : List Nat) : Nat :=
  digits.foldl (fun value digit => value * base + digit) 0

/-- The groups of 16 bits that `netip.parseIPv6` reads, and where the ellipsis is
among them; the first argument counts the groups that there is room for. -/
def ipv6Groups : Nat → List Char → List Nat → Option Nat → Option (List Nat × Option Nat)
  | 0, text, groups, ellipsis => if text = [] then some (groups, ellipsis) else none
  | left_ + 1, text, groups, ellipsis =>
    let digits := text.takeWhile isHex
    let after := text.drop digits.length
    if digits = [] ∨ 4 < digits.length then none
    else if after.head? = some '.' then
      -- the last two groups may be written as an address of four fields
      if ellipsis = none ∧ groups.length ≠ 6 then none
      else if 8 < groups.length + 2 then none
      else match ipv4Fields text none 0 0 [] with
        | some [first, second, third, fourth] =>
          some (groups ++ [first * 256 + second, third * 256 + fourth], ellipsis)
        | _ => none
    else
      let groups := groups ++ [ofDigits 16 (digits.filterMap hexValue)]
      match after with
      | [] => some (groups, ellipsis)
      | char :: rest =>
        if char ≠ ':' ∨ rest = [] then none
        else if rest.head? = some ':' then
          if ellipsis.isSome then none
          else if rest.tail = [] then some (groups, some groups.length)
          else ipv6Groups left_ rest.tail groups (some groups.length)
        else ipv6Groups left_ rest groups ellipsis

def expandGroups : List Nat × Option Nat → Option (List Nat)
  | (groups, none) => if groups.length < 8 then none else some groups
  | (groups, some ellipsis) =>
    if groups.length < 8 then
      some (groups.take ellipsis ++ List.replicate (8 - groups.length) 0 ++ groups.drop ellipsis)
    else none

/-- `netip.parseIPv6` without the zone. -/
def parseIPv6 (text : List Char) : Option IP :=
  let groups :=
    if [':', ':'].isPrefixOf text then
      if text.drop 2 = [] then some ([], some 0) else ipv6Groups 8 (text.drop 2) [] (some 0)
    else ipv6Groups 8 text [] none
  (groups.bind expandGroups).map fun groups => BitVec.ofNat 128 (ofDigits 65536 groups)

/-- `netip.ParseAddr`, which is what the dialer takes for a literal. -/
def parseAddr (text : String) : Option Addr :=
  match text.toList.find? fun char => char = '.' ∨ char = ':' ∨ char = '%' with
  | some '.' =>
    (ipv4Fields text.toList none 0 0 []).map fun fields =>
      { ip := ofIPv4 (BitVec.ofNat 32 (ofDigits 256 fields)), is4 := true, zone := "" }
  | some ':' =>
    let address := text.toList.takeWhile (· ≠ '%')
    let zone := String.ofList (text.toList.drop (address.length + 1))
    if '%' ∈ text.toList ∧ zone = "" then none
    else (parseIPv6 address).map fun ip => { ip, is4 := false, zone }
  | _ => none

/-- `net.ParseIP`, which takes no zone. -/
def parseIP (text : String) : Option IP :=
  (parseAddr text).bind fun addr => if addr.zone = "" then some addr.ip else none

/-! ## The characters of a literal -/

def isAddrChar (char : Char) : Bool := isHex char || char = '.' || char = ':'

theorem digit_addr_char (digit : char.isDigit = true) : isAddrChar char = true := by
  simp [isAddrChar, isHex, hexValue, digit]

theorem ipv4_chars
    (read : ipv4Fields text previous val digits fields = some result) :
    ∀ char ∈ text, isAddrChar char = true := by
  induction text generalizing previous val digits fields with
  | nil => exact fun _ member => absurd member List.not_mem_nil
  | cons first rest ih =>
    unfold ipv4Fields at read
    split at read
    · rename_i digit
      split at read
      · cases read
      · split at read
        · cases read
        · exact List.forall_mem_cons.mpr ⟨digit_addr_char digit, ih read⟩
    · split at read
      · rename_i dot
        split at read
        · cases read
        · split at read
          · cases read
          · exact List.forall_mem_cons.mpr ⟨by simp [isAddrChar, dot], ih read⟩
      · cases read

theorem ipv6_chars
    (read : ipv6Groups left_ text groups ellipsis = some result) :
    ∀ char ∈ text, isAddrChar char = true := by
  induction left_ generalizing text groups ellipsis with
  | zero =>
    simp only [ipv6Groups] at read
    split at read
    · subst text
      exact fun _ member => absurd member List.not_mem_nil
    · cases read
  | succ left_ ih =>
    -- the text is the digits of a group and what follows them
    have shape : text = text.takeWhile isHex ++ text.drop (text.takeWhile isHex).length :=
      (List.prefix_iff_eq_append.mp (List.takeWhile_prefix isHex)).symm
    have hexes : ∀ char ∈ text.takeWhile isHex, isAddrChar char = true := by
      intro char member
      simp [isAddrChar, List.mem_takeWhile_imp member]
    simp only [ipv6Groups] at read
    split at read
    · cases read
    · split at read
      · split at read
        · cases read
        · split at read
          · cases read
          · split at read
            · exact ipv4_chars ‹_›
            · cases read
      · split at read
        · rename_i ended
          rw [shape, ended, List.append_nil]
          exact hexes
        · rename_i colon rest continues
          split at read
          · cases read
          · rename_i separated
            push Not at separated
            obtain ⟨rfl, some_⟩ := separated
            have later : ∀ char ∈ rest, isAddrChar char = true := by
              split at read
              · rename_i second
                obtain ⟨more, rfl⟩ := List.head?_eq_some_iff.mp second
                split at read
                · cases read
                · split at read
                  · rename_i ended
                    rw [List.tail_cons] at ended
                    subst ended
                    intro char member
                    simp [List.mem_singleton.mp member, isAddrChar]
                  · exact List.forall_mem_cons.mpr ⟨by simp [isAddrChar], ih read⟩
              · exact ih read
            rw [shape, continues]
            intro char member
            rcases List.mem_append.mp member with digit | tail
            · exact hexes char digit
            · rcases List.mem_cons.mp tail with rfl | inRest
              · simp [isAddrChar]
              · exact later char inRest

theorem parse_ip_chars (read : parseIP text = some ip) :
    ∀ char ∈ text.toList, isAddrChar char = true := by
  obtain ⟨addr, parsed, zoned⟩ := Option.bind_eq_some_iff.mp read
  have unzoned : addr.zone = "" := by
    split at zoned
    · assumption
    · cases zoned
  unfold parseAddr at parsed
  split at parsed
  · obtain ⟨fields, fieldsRead, -⟩ := Option.map_eq_some_iff.mp parsed
    exact ipv4_chars fieldsRead
  · dsimp only at parsed
    split at parsed
    · cases parsed
    · rename_i named
      obtain ⟨ip, groupsRead, rfl⟩ := Option.map_eq_some_iff.mp parsed
      have plain : '%' ∉ text.toList := fun zone => named ⟨zone, unzoned⟩
      have whole : text.toList.takeWhile (· ≠ '%') = text.toList :=
        List.takeWhile_eq_self_iff.mpr fun char member => by
          simpa using fun same : char = '%' => plain (same ▸ member)
      rw [whole] at groupsRead
      unfold parseIPv6 at groupsRead
      obtain ⟨groups, expanded, -⟩ := Option.map_eq_some_iff.mp groupsRead
      obtain ⟨read, found, -⟩ := Option.bind_eq_some_iff.mp expanded
      split at found
      · rename_i double
        obtain ⟨rest, shape⟩ := List.isPrefixOf_iff_prefix.mp double
        have colons : isAddrChar ':' = true := by decide
        rw [← shape] at found ⊢
        split at found
        · rename_i ended
          rw [show rest = [] from ended]
          simp [colons]
        · have later := ipv6_chars found
          simpa [colons] using later
      · exact ipv6_chars found
  · cases parsed

theorem addr_char_range (written : isAddrChar char = true) :
    46 ≤ char.toNat ∧ char.toNat ≤ 102 := by
  simp only [isAddrChar, isHex, hexValue, Bool.or_eq_true, decide_eq_true_eq] at written
  rcases written with (hex | rfl) | rfl
  · split at hex
    · rename_i digit
      simp only [Char.isDigit, Bool.and_eq_true, decide_eq_true_eq, UInt32.le_iff_toNat_le] at digit
      obtain ⟨low, high⟩ := digit
      change 48 ≤ char.toNat at low
      change char.toNat ≤ 57 at high
      omega
    · split at hex
      · rename_i letter
        simp only [Char.le_def, UInt32.le_iff_toNat_le] at letter
        obtain ⟨low, high⟩ := letter
        change 97 ≤ char.toNat at low
        change char.toNat ≤ 102 at high
        omega
      · split at hex
        · rename_i letter
          simp only [Char.le_def, UInt32.le_iff_toNat_le] at letter
          obtain ⟨low, high⟩ := letter
          change 65 ≤ char.toNat at low
          change char.toNat ≤ 70 at high
          omega
        · cases hex
  · decide
  · decide

theorem addr_char_not_space (written : isAddrChar char = true) : isSpace char = false := by
  obtain ⟨low, high⟩ := addr_char_range written
  simp only [isSpace, List.mem_cons, List.not_mem_nil, or_false, Bool.or_eq_false_iff, decide_eq_false_iff_not,
    Bool.and_eq_false_iff]
  omega

theorem parse_ip_trimmed (read : parseIP text = some ip) :
    trimSpace text = text := by
  have plain : ∀ char ∈ text.toList, isSpace char = false :=
    fun char member => addr_char_not_space (parse_ip_chars read char member)
  have front : text.toList.dropWhile isSpace = text.toList :=
    List.dropWhile_eq_self_iff.mpr fun inside => by simp [plain _ (List.getElem_mem inside)]
  have back : text.toList.rdropWhile isSpace = text.toList :=
    List.rdropWhile_eq_self_iff.mpr fun some_ => by simp [plain _ (List.getLast_mem some_)]
  rw [trimSpace, trimBoth, front, back, String.ofList_toList]

/-! ## Ranges -/

/-- `net.IPNet`: the address after the mask, and the ones among the bits of the
mask. -/
structure IPNet where
  ip : IP
  ones : Nat
  bits : Nat
  deriving DecidableEq, Repr

/-- `net.CIDRMask` and `net.IP.Mask`, for an address of four fields or not. -/
def masked (ip : IP) (ones bits : Nat) : IPNet :=
  let zeros := bits - ones
  { ip := (ip >>> zeros) <<< zeros, ones, bits }

/-- `net.IPNet.Contains`: only addresses of the network's own form are in it. -/
def IPNet.contains (network : IPNet) (ip : IP) : Bool :=
  match to4 network.ip, to4 ip with
  | some _, some _ | none, none =>
    ip >>> (network.bits - network.ones) = network.ip >>> (network.bits - network.ones)
  | _, _ => false

/-- `net.dtoi`, of a whole text. -/
def dtoi (text : List Char) : Option Nat :=
  if text ≠ [] ∧ text.all Char.isDigit then
    let value := ofDigits 10 (text.map fun char => char.toNat - '0'.toNat)
    if 0xFFFFFF ≤ value then none else some value
  else none

/-- `net.ParseCIDR`. -/
def parseCIDR (text : String) : Option IPNet :=
  let address := text.toList.takeWhile (· ≠ '/')
  if '/' ∈ text.toList then
    (parseAddr (String.ofList address)).bind fun addr =>
      let bits := if addr.is4 then 32 else 128
      (dtoi (text.toList.drop (address.length + 1))).bind fun ones =>
        if addr.zone = "" ∧ ones ≤ bits then some (masked addr.ip ones bits) else none
  else none

/-! ## Hosts and ports -/

/-- `strconv.Atoi`, for integers of 64 bits. -/
def atoi (text : String) : Option Int :=
  let (negative, digits) := match text.toList with
    | '-' :: rest => (true, rest)
    | '+' :: rest => (false, rest)
    | chars => (false, chars)
  if digits ≠ [] ∧ digits.all Char.isDigit then
    let value : Int := ofDigits 10 (digits.map fun char => char.toNat - '0'.toNat)
    let value := if negative then -value else value
    if -2 ^ 63 ≤ value ∧ value < 2 ^ 63 then some value else none
  else none

def cutLast (char : Char) (text : List Char) : Option (List Char × List Char) :=
  if char ∈ text then
    let after := (text.reverse.takeWhile (· ≠ char)).reverse
    some (text.take (text.length - after.length - 1), after)
  else none

/-- `net.SplitHostPort`, without the text of its error. -/
def splitHostPort (text : String) : Option (String × String) :=
  (cutLast ':' text.toList).bind fun (before, port) =>
    if text.toList.head? = some '[' then
      -- the first closing bracket stands just before the last colon
      let host := text.toList.tail.takeWhile (· ≠ ']')
      if before = '[' :: host ++ [']'] ∧ '[' ∉ host ∧ '[' ∉ port ∧ ']' ∉ port then
        some (String.ofList host, String.ofList port)
      else none
    else if ':' ∈ before ∨ '[' ∈ text.toList ∨ ']' ∈ text.toList then none
    else some (String.ofList before, String.ofList port)

/-- `net.JoinHostPort`. -/
def joinHostPort (host port : String) : String :=
  if ':' ∈ host.toList then "[" ++ host ++ "]:" ++ port else host ++ ":" ++ port

example : parseAddr "fe80::1%eth0" = some { ip := 0xfe800000000000000000000000000001#128, is4 := false, zone := "eth0" } := by
  decide +kernel

example : (parseCIDR "10.0.0.0/8").map (·.contains (ofIPv4 0x0a010203#32)) = some true := by decide +kernel

end NewApi.NetAddr
