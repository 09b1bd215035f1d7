/-
**`FromStr` and `Display` of the standard library**, for numbers and addresses.

IPv6 addresses are printed and parsed in their full form, without `::`.

* **`standard_inverse`** — parsing and printing are inverse.
-/

import RsTun.Config.Options

namespace RsTun.Standard

open Library

/-! ### Numbers -/

/-- The digits of a number, without its optional `+`. -/
def unsigned : List Char → List Char
  | '+' :: rest => rest
  | text => text

/-- `from_str` of an unsigned number less than `bound`. -/
def parseNumber (bound : Nat) (text : String) : Option Nat :=
  let digits := unsigned text.toList
  let value := Nat.ofDigitChars 10 digits 0
  if digits ≠ [] ∧ digits.all Char.isDigit ∧ value < bound then some value else none

/-- `to_string` of a number. -/
def showNumber (number : Nat) : String := .ofList (Nat.toDigits 10 number)

theorem isDigit_toDigits {number : Nat} {char : Char} (member : char ∈ Nat.toDigits 10 number) :
    char.isDigit = true := Nat.isDigit_of_mem_toDigits (by decide) (by decide) member

theorem unsigned_toDigits (number : Nat) :
    unsigned (Nat.toDigits 10 number) = Nat.toDigits 10 number := by
  rw [unsigned.eq_def]
  split
  · rename_i rest same
    have digit := @isDigit_toDigits number '+' (by rw [same]; exact List.mem_cons_self)
    cases digit
  · rfl

theorem parseNumber_showNumber {bound number : Nat} (fits : number < bound) :
    parseNumber bound (showNumber number) = some number := by
  have digits : (Nat.toDigits 10 number).all Char.isDigit = true :=
    List.all_eq_true.mpr fun _ member => isDigit_toDigits member
  simp only [parseNumber, showNumber, String.toList_ofList, unsigned_toDigits,
    Nat.ofDigitChars_ten_toDigits, digits, ne_eq, Nat.toDigits_ne_nil, not_false_eq_true, fits,
    and_self, if_true]

/-! ### Addresses -/

/-- An octet of an IPv4 address: digits, without a leading zero. -/
def isOctet (text : List Char) : Bool :=
  text ≠ [] && text.all Char.isDigit && (text.length == 1 || text.head? != some '0')
    && Nat.ofDigitChars 10 text 0 < 256

/-- `Ipv4Addr::from_str`. -/
def parseIpv4 (text : List Char) : Option Ipv4Addr :=
  let parts := text.splitOn '.'
  if fits : parts.length = 4 ∧ parts.all isOctet then
    some ⟨parts.map fun part => .ofNat (Nat.ofDigitChars 10 part 0), by
      rw [List.length_map]
      exact fits.1⟩
  else none

/-- `to_string` of an IPv4 address. -/
def showIpv4 (ip : Ipv4Addr) : List Char :=
  ['.'].intercalate (ip.bytes.map fun octet => Nat.toDigits 10 octet.toNat)

/-- `char::is_ascii_hexdigit`. -/
def isHexDigit (char : Char) : Bool :=
  char.isDigit || ('a' ≤ char && char ≤ 'f') || ('A' ≤ char && char ≤ 'F')

/-- `char::to_digit`. -/
def hexDigit (char : Char) : Nat :=
  if char.isDigit then char.toNat - 48
  else if 'a' ≤ char then char.toNat - 87 else char.toNat - 55

/-- The number of a group of an IPv6 address. -/
def hexValue (text : List Char) : Nat :=
  text.foldl (fun value char => 16 * value + hexDigit char) 0

/-- A group of an IPv6 address: one to four hexadecimal digits. -/
def isGroup (text : List Char) : Bool :=
  text ≠ [] && text.length ≤ 4 && text.all isHexDigit

/-- `Ipv6Addr::from_str`, of the full form. -/
def parseIpv6 (text : List Char) : Option Ipv6Addr :=
  let parts := text.splitOn ':'
  if fits : parts.length = 8 ∧ parts.all isGroup then
    some ⟨parts.flatMap fun part => Bytes.encode 2 (hexValue part), by
      simp [List.length_flatMap, Bytes.length_encode, fits.1]⟩
  else none

/-- `Ipv6Addr::segments`. -/
def segments : Bytes → List Nat
  | high :: low :: rest => (high.toNat * 256 + low.toNat) :: segments rest
  | _ => []

/-- `to_string` of an IPv6 address, in the full form. -/
def showIpv6 (ip : Ipv6Addr) : List Char :=
  [':'].intercalate ((segments ip.bytes).map (Nat.toDigits 16))

/-- `FromStr`: only IPv6 addresses have colons. -/
def fromStr : StdText where
  parseIpAddr text :=
    if ':' ∈ text.toList then (parseIpv6 text.toList).map .v6
    else (parseIpv4 text.toList).map .v4
  parseU8 text := (parseNumber 256 text).map .ofNat
  parseU32 text := (parseNumber (2 ^ 32) text).map .ofNat

/-- `Display`. -/
def display : StdPrint where
  showIpAddr
    | .v4 ip => .ofList (showIpv4 ip)
    | .v6 ip => .ofList (showIpv6 ip)
  showU8 number := showNumber number.toNat
  showU32 number := showNumber number.toNat

/-! ### The characters of an address -/

theorem mem_intercalate {separator char : Char} {parts : List (List Char)}
    (member : char ∈ [separator].intercalate parts) :
    char = separator ∨ ∃ part ∈ parts, char ∈ part := by
  rw [List.intercalate, List.mem_flatten] at member
  obtain ⟨part, inside, member⟩ := member
  induction parts with
  | nil => cases inside
  | cons first rest ih =>
      cases rest with
      | nil =>
          rw [List.intersperse_singleton, List.mem_singleton] at inside
          exact Or.inr ⟨first, List.mem_cons_self, inside ▸ member⟩
      | cons second rest =>
          rw [List.intersperse_cons_cons, List.mem_cons, List.mem_cons] at inside
          rcases inside with rfl | rfl | later
          · exact Or.inr ⟨part, List.mem_cons_self, member⟩
          · exact Or.inl (List.mem_singleton.mp member)
          · rcases ih later with same | ⟨other, there, member⟩
            · exact Or.inl same
            · exact Or.inr ⟨other, List.mem_cons_of_mem _ there, member⟩

/-- The characters of a list are the separator and those of its parts. -/
theorem mem_splitOn {separator char : Char} {text : List Char} (member : char ∈ text) :
    char = separator ∨ ∃ part ∈ text.splitOn separator, char ∈ part := by
  rw [← @List.intercalate_splitOn _ text _ _ separator] at member
  exact mem_intercalate member

theorem hexDigit_digitChar : ∀ number < 16,
    isHexDigit number.digitChar = true ∧ hexDigit number.digitChar = number := by
  decide

theorem isHexDigit_toDigits {number : Nat} :
    ∀ char ∈ Nat.toDigits 16 number, isHexDigit char = true := by
  induction number using Nat.strong_induction_on with
  | _ number ih =>
      intro char member
      by_cases small : number < 16
      · rw [Nat.toDigits_of_lt_base small, List.mem_singleton] at member
        rw [member]
        exact (hexDigit_digitChar number small).1
      · rw [Nat.toDigits_of_base_le (by decide) (Nat.le_of_not_lt small), List.mem_append,
          List.mem_singleton] at member
        rcases member with front | rfl
        · exact ih (number / 16) (by omega) char front
        · exact (hexDigit_digitChar (number % 16) (Nat.mod_lt _ (by decide))).1

theorem hexValue_toDigits {number : Nat} : hexValue (Nat.toDigits 16 number) = number := by
  induction number using Nat.strong_induction_on with
  | _ number ih =>
      by_cases small : number < 16
      · rw [Nat.toDigits_of_lt_base small]
        have digit := (hexDigit_digitChar number small).2
        simp only [hexValue, List.foldl_cons, List.foldl_nil, digit]
        omega
      · have front := ih (number / 16) (by omega)
        have digit := (hexDigit_digitChar (number % 16) (Nat.mod_lt _ (by decide))).2
        rw [hexValue] at front ⊢
        rw [Nat.toDigits_of_base_le (by decide) (Nat.le_of_not_lt small), List.foldl_append, front,
          List.foldl_cons, List.foldl_nil, digit]
        omega

/-- No character of a text that is parsed is whitespace. -/
theorem trim_eq {text : String} (plain : ∀ char ∈ text.toList, isWhitespace char = false) :
    trim text = text := by
  have kept : ∀ chars : List Char, (∀ char ∈ chars, isWhitespace char = false) →
      chars.dropWhile isWhitespace = chars := by
    intro chars plain
    cases chars with
    | nil => rfl
    | cons first rest =>
        rw [List.dropWhile_cons_of_neg]
        rw [plain first List.mem_cons_self]
        exact Bool.false_ne_true
  rw [trim, kept _ plain, kept _ fun char member => plain char (List.mem_reverse.mp member),
    List.reverse_reverse, String.ofList_toList]

/-- Digits, letters and the punctuation of addresses are no whitespace. -/
theorem isWhitespace_eq_false {char : Char} (low : 0x21 ≤ char.toNat) (high : char.toNat ≤ 0x7e) :
    isWhitespace char = false := by
  simp only [isWhitespace, Bool.or_eq_false_iff, Bool.and_eq_false_iff, decide_eq_false_iff_not,
    beq_eq_false_iff_ne]
  omega

theorem isWhitespace_of_isDigit {char : Char} (digit : char.isDigit = true) :
    isWhitespace char = false := by
  simp only [Char.isDigit, Bool.and_eq_true, decide_eq_true_eq, ge_iff_le, UInt32.le_iff_toNat_le]
    at digit
  have low : 48 ≤ char.toNat := digit.1
  have high : char.toNat ≤ 57 := digit.2
  exact isWhitespace_eq_false (by omega) (by omega)

theorem isWhitespace_of_isHexDigit {char : Char} (digit : isHexDigit char = true) :
    isWhitespace char = false := by
  rw [isHexDigit, Bool.or_eq_true, Bool.or_eq_true, Bool.and_eq_true, Bool.and_eq_true,
    decide_eq_true_eq, decide_eq_true_eq, decide_eq_true_eq, decide_eq_true_eq] at digit
  rcases digit with (digit | ⟨low, high⟩) | ⟨low, high⟩
  · exact isWhitespace_of_isDigit digit
  · have low' : 97 ≤ char.toNat := low
    have high' : char.toNat ≤ 102 := high
    exact isWhitespace_eq_false (by omega) (by omega)
  · have low' : 65 ≤ char.toNat := low
    have high' : char.toNat ≤ 70 := high
    exact isWhitespace_eq_false (by omega) (by omega)

theorem trim_of_parseNumber {bound number : Nat} {text : String}
    (parsed : parseNumber bound text = some number) : trim text = text := by
  simp only [parseNumber] at parsed
  split at parsed
  · rename_i valid
    refine trim_eq fun char member => ?_
    rw [unsigned.eq_def] at valid
    split at valid
    · rename_i rest same
      rw [same, List.mem_cons] at member
      rcases member with rfl | member
      · rfl
      · exact isWhitespace_of_isDigit (List.all_eq_true.mp valid.2.1 char member)
    · exact isWhitespace_of_isDigit (List.all_eq_true.mp valid.2.1 char member)
  · cases parsed

theorem trim_of_parseIpAddr {text : String} {ip : IpAddr}
    (parsed : fromStr.parseIpAddr text = some ip) : trim text = text := by
  simp only [fromStr] at parsed
  split at parsed
  · obtain ⟨ip, parsed, -⟩ := Option.map_eq_some_iff.mp parsed
    simp only [parseIpv6] at parsed
    split at parsed
    · rename_i valid
      refine trim_eq fun char member => ?_
      rcases @mem_splitOn ':' char _ member with rfl | ⟨part, inside, member⟩
      · rfl
      · have group := List.all_eq_true.mp valid.2 part inside
        simp only [isGroup, Bool.and_eq_true] at group
        exact isWhitespace_of_isHexDigit (List.all_eq_true.mp group.2 char member)
    · cases parsed
  · obtain ⟨ip, parsed, -⟩ := Option.map_eq_some_iff.mp parsed
    simp only [parseIpv4] at parsed
    split at parsed
    · rename_i valid
      refine trim_eq fun char member => ?_
      rcases @mem_splitOn '.' char _ member with rfl | ⟨part, inside, member⟩
      · rfl
      · have octet := List.all_eq_true.mp valid.2 part inside
        simp only [isOctet, Bool.and_eq_true] at octet
        exact isWhitespace_of_isDigit (List.all_eq_true.mp octet.1.1.2 char member)
    · cases parsed

/-! ### What is printed is parsed back -/

theorem isOctet_toDigits : ∀ number < 256, isOctet (Nat.toDigits 10 number) = true := by
  decide +kernel

theorem isGroup_toDigits {number : Nat} (small : number < 65536) :
    isGroup (Nat.toDigits 16 number) = true := by
  have short : (Nat.toDigits 16 number).length ≤ 4 :=
    (Nat.length_toDigits_le_iff (by decide) (by decide)).mpr small
  simp only [isGroup, ne_eq, Nat.toDigits_ne_nil, not_false_eq_true, decide_true, Bool.true_and,
    Bool.and_eq_true, decide_eq_true_eq]
  exact ⟨short, List.all_eq_true.mpr isHexDigit_toDigits⟩

theorem segments_lt (bytes : Bytes) : ∀ number ∈ segments bytes, number < 65536 := by
  induction bytes using segments.induct with
  | case1 high low rest ih =>
      intro number member
      rw [segments, List.mem_cons] at member
      rcases member with rfl | later
      · have bound := high.toNat_lt
        have bound' := low.toNat_lt
        omega
      · exact ih number later
  | case2 bytes short =>
      intro number member
      rw [segments.eq_def] at member
      split at member
      · exact absurd rfl (short _ _ _)
      · cases member

theorem flatMap_segments {bytes : Bytes} (even : bytes.length % 2 = 0) :
    (segments bytes).flatMap (Bytes.encode 2) = bytes
      ∧ 2 * (segments bytes).length = bytes.length := by
  induction bytes using segments.induct with
  | case1 high low rest ih =>
      have bound := low.toNat_lt
      have rest' := ih (by simp only [List.length_cons] at even; omega)
      have pair : Bytes.encode 2 (high.toNat * 256 + low.toNat) = [high, low] := by
        have bound' := high.toNat_lt
        refine Bytes.value_injective rfl ?_
        rw [Bytes.value_encode]
        show (high.toNat * 256 + low.toNat) % 256 ^ 2
          = high.toNat * 256 ^ 1 + (low.toNat * 256 ^ 0 + 0)
        omega
      rw [segments, List.flatMap_cons, rest'.1, pair]
      simp only [List.length_cons]
      exact ⟨rfl, by omega⟩
  | case2 bytes short =>
      match bytes with
      | [] => exact ⟨rfl, rfl⟩
      | [_] => cases even
      | high :: low :: rest => exact absurd rfl (short high low rest)

theorem splitOn_intercalate_map {separator : Char} {numbers : List Nat} {base : Nat}
    (present : numbers ≠ []) (absent : ∀ number, separator ∉ Nat.toDigits base number) :
    ([separator].intercalate (numbers.map (Nat.toDigits base))).splitOn separator
      = numbers.map (Nat.toDigits base) := by
  refine List.splitOn_intercalate separator (fun part member => ?_) ?_
  · obtain ⟨number, -, rfl⟩ := List.mem_map.mp member
    exact absent number
  · exact fun none => present (List.map_eq_nil_iff.mp none)

theorem parseIpv4_showIpv4 (ip : Ipv4Addr) : parseIpv4 (showIpv4 ip) = some ip := by
  have parts : (showIpv4 ip).splitOn '.'
      = (ip.bytes.map UInt8.toNat).map (Nat.toDigits 10) := by
    rw [showIpv4, ← @splitOn_intercalate_map '.' (ip.bytes.map UInt8.toNat) 10, List.map_map]
    · rfl
    · intro none
      have size := ip.length_eq
      rw [List.map_eq_nil_iff.mp none] at size
      cases size
    · exact fun number member => by cases isDigit_toDigits member
  have octets : ((ip.bytes.map UInt8.toNat).map (Nat.toDigits 10)).all isOctet = true := by
    refine List.all_eq_true.mpr fun part member => ?_
    rw [List.map_map] at member
    obtain ⟨octet, -, rfl⟩ := List.mem_map.mp member
    exact isOctet_toDigits octet.toNat octet.toNat_lt
  simp only [parseIpv4, parts]
  rw [dif_pos ⟨by rw [List.length_map, List.length_map, ip.length_eq], octets⟩]
  refine congrArg some (Octets.ext ?_)
  show ((ip.bytes.map UInt8.toNat).map (Nat.toDigits 10)).map _ = ip.bytes
  rw [List.map_map, List.map_map]
  refine (List.map_congr_left fun octet _ => ?_).trans (List.map_id _)
  show UInt8.ofNat (Nat.ofDigitChars 10 (Nat.toDigits 10 octet.toNat) 0) = id octet
  rw [Nat.ofDigitChars_ten_toDigits]
  exact UInt8.ofNat_toNat

theorem parseIpv6_showIpv6 (ip : Ipv6Addr) : parseIpv6 (showIpv6 ip) = some ip := by
  obtain ⟨back, size⟩ := @flatMap_segments ip.bytes (by rw [ip.length_eq])
  rw [ip.length_eq] at size
  have parts : (showIpv6 ip).splitOn ':' = (segments ip.bytes).map (Nat.toDigits 16) := by
    refine splitOn_intercalate_map (fun none => ?_) fun number member => ?_
    · rw [none] at size
      cases size
    · exact absurd (isHexDigit_toDigits ':' member) (by decide)
  have groups : ((segments ip.bytes).map (Nat.toDigits 16)).all isGroup = true := by
    refine List.all_eq_true.mpr fun part member => ?_
    obtain ⟨number, inside, rfl⟩ := List.mem_map.mp member
    exact isGroup_toDigits (segments_lt ip.bytes number inside)
  simp only [parseIpv6, parts]
  rw [dif_pos ⟨by rw [List.length_map]; omega, groups⟩]
  refine congrArg some (Octets.ext ?_)
  show ((segments ip.bytes).map (Nat.toDigits 16)).flatMap _ = ip.bytes
  rw [List.flatMap_map]
  simp only [hexValue_toDigits]
  exact back

theorem colon_showIpv4 (ip : Ipv4Addr) : ':' ∉ showIpv4 ip := by
  intro member
  rcases mem_intercalate member with same | ⟨part, inside, member⟩
  · cases same
  · obtain ⟨octet, -, rfl⟩ := List.mem_map.mp inside
    cases isDigit_toDigits member

theorem colon_showIpv6 (ip : Ipv6Addr) : ':' ∈ showIpv6 ip := by
  obtain ⟨-, size⟩ := @flatMap_segments ip.bytes (by rw [ip.length_eq])
  rw [ip.length_eq] at size
  rw [showIpv6]
  match numbers : segments ip.bytes with
  | [] => rw [numbers] at size; cases size
  | [_] => rw [numbers] at size; cases size
  | first :: second :: rest =>
      rw [List.map_cons, List.map_cons, List.intercalate, List.intersperse_cons_cons,
        List.flatten_cons, List.flatten_cons]
      exact List.mem_append_right _ (List.mem_append_left _ List.mem_cons_self)

/-- **Parsing and printing are inverse.** -/
theorem standard_inverse : Inverse fromStr display where
  parse_showIpAddr ip := by
    cases ip with
    | v4 ip =>
        simp only [fromStr, display, String.toList_ofList, if_neg (colon_showIpv4 ip),
          parseIpv4_showIpv4, Option.map_some]
    | v6 ip =>
        simp only [fromStr, display, String.toList_ofList, if_pos (colon_showIpv6 ip),
          parseIpv6_showIpv6, Option.map_some]
  parse_showU8 number := by
    simp only [fromStr, display, parseNumber_showNumber number.toNat_lt, Option.map_some,
      UInt8.ofNat_toNat]
  parse_showU32 number := by
    simp only [fromStr, display, parseNumber_showNumber number.toNat_lt, Option.map_some,
      UInt32.ofNat_toNat]
  slash_showIpAddr ip member := by
    cases ip with
    | v4 ip =>
        simp only [display, String.toList_ofList] at member
        rcases mem_intercalate member with same | ⟨part, inside, member⟩
        · cases same
        · obtain ⟨octet, -, rfl⟩ := List.mem_map.mp inside
          cases isDigit_toDigits member
    | v6 ip =>
        simp only [display, String.toList_ofList] at member
        rcases mem_intercalate member with same | ⟨part, inside, member⟩
        · cases same
        · obtain ⟨number, -, rfl⟩ := List.mem_map.mp inside
          exact absurd (isHexDigit_toDigits '/' member) (by decide)
  digits_showU32 number char member := by
    simp only [display, showNumber, String.toList_ofList] at member
    exact isDigit_toDigits member
  trim_ipAddr text ip parsed := trim_of_parseIpAddr parsed
  trim_u32 text number parsed := by
    obtain ⟨value, parsed, -⟩ := Option.map_eq_some_iff.mp parsed
    exact trim_of_parseNumber parsed

end RsTun.Standard
