import Courier.Text.Quoted

/-!
# Addresses

Internet addresses of both families, their literal text and their canonical
text. An IPv4 literal has four decimal numbers without leading zeros. An IPv6
literal has eight groups of up to four hexadecimal digits, of which one run may
be left out, and its last two groups may be an IPv4 literal.
-/

namespace Courier

inductive Ip
  | v4 (a b c d : UInt8)
  | v6 (groups : Vector UInt16 8)
  deriving DecidableEq

structure Address where
  ip : Ip
  port : Nat
  deriving DecidableEq

namespace Ip

def loopback4 : Ip := v4 127 0 0 1

def loopback6 : Ip := v6 #v[0, 0, 0, 0, 0, 0, 0, 1]

/-- All interfaces, of one family. -/
def any4 : Ip := v4 0 0 0 0

def any6 : Ip := v6 (Vector.replicate 8 0)

/-! ## Kinds -/

/-- The IPv6 address that stands for an IPv4 address. -/
def mapped (a b c d : UInt8) : Ip :=
  let group (high low : UInt8) : UInt16 := UInt16.ofNat (high.toNat * 256 + low.toNat)
  v6 #v[0, 0, 0, 0, 0, 65535, group a b, group c d]

/-- The IPv4 address that an IPv6 address stands for, or else the address
itself. -/
def plain : Ip → Ip
  | v4 a b c d => v4 a b c d
  | v6 groups =>
    if groups.toList.take 6 = [0, 0, 0, 0, 0, 65535] then
      v4 (UInt8.ofNat (groups[6].toNat / 256)) (UInt8.ofNat (groups[6].toNat % 256))
        (UInt8.ofNat (groups[7].toNat / 256)) (UInt8.ofNat (groups[7].toNat % 256))
    else v6 groups

theorem bytes_group (a b : UInt8) :
    UInt8.ofNat ((UInt16.ofNat (a.toNat * 256 + b.toNat)).toNat / 256) = a ∧
      UInt8.ofNat ((UInt16.ofNat (a.toNat * 256 + b.toNat)).toNat % 256) = b := by
  have ha := a.toNat_lt
  have hb := b.toNat_lt
  have hgroup : (UInt16.ofNat (a.toNat * 256 + b.toNat)).toNat = a.toNat * 256 + b.toNat := by
    simp only [UInt16.toNat_ofNat']
    omega
  rw [hgroup]
  constructor <;> apply UInt8.toNat_inj.1 <;> simp only [UInt8.toNat_ofNat'] <;> omega

@[simp] theorem plain_mapped (a b c d : UInt8) : (mapped a b c d).plain = v4 a b c d := by
  have hab := bytes_group a b
  have hcd := bytes_group c d
  have hfront (x y : UInt16) :
      (#v[0, 0, 0, 0, 0, 65535, x, y] : Vector UInt16 8).toList.take 6 = [0, 0, 0, 0, 0, 65535] :=
    rfl
  simp only [mapped, plain, hfront, if_true]
  congr 1
  · exact hab.1
  · exact hab.2
  · exact hcd.1
  · exact hcd.2

def isAny (ip : Ip) : Bool := ip.plain = any4 || ip = any6

def isLoopback (ip : Ip) : Bool :=
  match ip.plain with
  | v4 127 .. => true
  | ip => ip = loopback6

/-- Whether an IPv6 address stands for a group of hosts. -/
def isMulticast6 : Ip → Bool
  | v4 .. => false
  | v6 groups => groups[0].toNat / 256 = 255

/-- Whether an IPv6 address has a meaning on one interface only. Its first ten
bits say so. -/
def isLinkLocal6 : Ip → Bool
  | v4 .. => false
  | v6 groups => groups[0].toNat / 64 = 1018

/-! ## Reading -/

def digitIn? (radix : Nat) (c : Char) : Option Nat :=
  let n := c.toNat
  let d :=
    if '0'.toNat ≤ n ∧ n ≤ '9'.toNat then n - '0'.toNat
    else if 'a'.toNat ≤ n ∧ n ≤ 'z'.toNat then n - 'a'.toNat + 10
    else if 'A'.toNat ≤ n ∧ n ≤ 'Z'.toNat then n - 'A'.toNat + 10
    else radix
  if d < radix then some d else none

/-- A number of at least one and at most so many digits, and what follows it. -/
def readNumber (radix maxDigits bound : Nat) (leadingZeros : Bool) (cs : List Char) :
    Option (Nat × List Char) :=
  let digits := cs.takeWhile fun c => (digitIn? radix c).isSome
  let value := (digits.filterMap (digitIn? radix)).foldl (fun n d => n * radix + d) 0
  if digits.isEmpty || maxDigits < digits.length || bound < value then none
  else if !leadingZeros && digits.head? == some '0' && 1 < digits.length then none
  else some (value, cs.drop digits.length)

def readChar (c : Char) : List Char → Option (List Char)
  | d :: rest => if d = c then some rest else none
  | [] => none

def readOctet (cs : List Char) : Option (Nat × List Char) := readNumber 10 3 255 false cs

def readV4 (cs : List Char) : Option (List Nat × List Char) := do
  let (a, cs) ← readOctet cs
  let (b, cs) ← readOctet (← readChar '.' cs)
  let (c, cs) ← readOctet (← readChar '.' cs)
  let (d, cs) ← readOctet (← readChar '.' cs)
  return ([a, b, c, d], cs)

/-- Up to so many groups with colons between them, whether the last two were an
IPv4 literal, and what follows. -/
def readGroups : (slots : Nat) → (first : Bool) → List Char → (List Nat × Bool) × List Char
  | 0, _, cs => (([], false), cs)
  | slots + 1, first, cs =>
    match if first then some cs else readChar ':' cs with
    | none => (([], false), cs)
    | some start =>
      match if slots = 0 then none else readV4 start with
      | some ([a, b, c, d], rest) => (([a * 256 + b, c * 256 + d], true), rest)
      | _ =>
        match readNumber 16 4 65535 true start with
        | none => (([], false), cs)
        | some (group, rest) =>
          let ((groups, dotted), rest) := readGroups slots false rest
          ((group :: groups, dotted), rest)

/-- Eight groups, or fewer on both sides of a double colon that stands for at
least one group of zeros. -/
def readV6 (cs : List Char) : Option (List Nat × List Char) :=
  let ((front, dotted), rest) := readGroups 8 true cs
  if front.length = 8 then some (front, rest)
  else if dotted then none
  else do
    let rest ← readChar ':' (← readChar ':' rest)
    let ((back, _), rest) := readGroups (7 - front.length) true rest
    return (front ++ List.replicate (8 - front.length - back.length) 0 ++ back, rest)

def ofV4 : List Nat → Option Ip
  | [a, b, c, d] => some (v4 a.toUInt8 b.toUInt8 c.toUInt8 d.toUInt8)
  | _ => none

def ofGroups (groups : List Nat) : Option Ip :=
  if h : groups.length = 8 then some (v6 ⟨(groups.map Nat.toUInt16).toArray, by simp [h]⟩)
  else none

/-- An address literal that is the whole text. -/
def parse? (text : String) : Option Ip :=
  let cs := text.toList
  match readV4 cs with
  | some (l, []) => ofV4 l
  | _ =>
    match readV6 cs with
    | some (l, []) => ofGroups l
    | _ => none

/-! ## Writing -/

def textV4 (a b c d : UInt8) : String :=
  ".".intercalate ([a, b, c, d].map fun n => toString n.toNat)

/-- Start and length of the first longest run of zero groups. -/
def longestZeros (groups : List UInt16) : Nat × Nat :=
  let runs := (List.range groups.length).map fun i =>
    (i, ((groups.drop i).takeWhile (· == 0)).length)
  runs.foldl (fun best run => if best.2 < run.2 then run else best) (0, 0)

def textGroups (groups : List UInt16) : String :=
  ":".intercalate (groups.map fun g => Text.hexOf g.toNat)

/-- The canonical text: a run of two or more zero groups is left out, and the
address of an IPv4 host inside IPv6 ends in its IPv4 text. -/
def toText : Ip → String
  | v4 a b c d => textV4 a b c d
  | v6 groups =>
    match plain (v6 groups) with
    | v4 a b c d => "::ffff:" ++ textV4 a b c d
    | v6 groups =>
      let l := groups.toList
      let (start, length) := longestZeros l
      if 1 < length then
        textGroups (l.take start) ++ "::" ++ textGroups (l.drop (start + length))
      else textGroups l

end Ip

namespace Address

def toText (a : Address) : String :=
  match a.ip with
  | .v4 .. => a.ip.toText ++ ":" ++ toString a.port
  | .v6 _ => "[" ++ a.ip.toText ++ "]:" ++ toString a.port

def readPort (cs : List Char) : Option Nat := do
  let (port, rest) ← Ip.readNumber 10 cs.length 65535 true (← Ip.readChar ':' cs)
  if rest.isEmpty then some port else none

/-- Reads an address with its port; an IPv6 address stands in brackets, where a
zone may follow it. -/
def parse? (text : String) : Option Address :=
  match text.toList with
  | '[' :: cs => do
    let (groups, rest) ← Ip.readV6 cs
    let rest ←
      match Ip.readChar '%' rest with
      | some zone => (Ip.readNumber 10 zone.length 4294967295 true zone).map (·.2)
      | none => some rest
    let port ← readPort (← Ip.readChar ']' rest)
    return ⟨← Ip.ofGroups groups, port⟩
  | cs => do
    let (octets, rest) ← Ip.readV4 cs
    let port ← readPort rest
    return ⟨← Ip.ofV4 octets, port⟩

/-- Bytes of the system's own form of an address. -/
def nativeSize (a : Address) : Nat :=
  match a.ip with
  | .v4 .. => 16
  | .v6 _ => 28

end Address
end Courier
