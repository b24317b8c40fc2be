import RouterSim.Lib.Octets
import RouterSim.Lib.Text

/-! The text form of IPv6 addresses: words in hexadecimal, one run of zeros left out, and a
dotted quad in place of the last two words. -/
namespace RouterSim.Ip.AddressText

def colon : BitVec 8 := 0x3a#8
def dot : BitVec 8 := 0x2e#8
def percent : BitVec 8 := 0x25#8

/-- Four decimal octets. -/
def dottedQuad (text : List (BitVec 8)) : Option (List (BitVec 8)) :=
  let parts := Text.split dot text
  if parts.length ≠ 4 then none
  else parts.mapM fun part => (Text.number 10 255 part).map (BitVec.ofNat 8)

/-- The words between colons. Nothing after the last colon is no word. -/
def parseWords (allowIpv4Tail : Bool) : List (List (BitVec 8)) → List (BitVec 16) →
    Option (List (BitVec 16))
  | [], words => some words
  | token :: rest, words =>
    if token = [] then if rest = [] then some words else none
    else if dot ∈ token then
      if !allowIpv4Tail || rest ≠ [] || decide (6 < words.length) then none
      else
        (dottedQuad token).map fun octets =>
          words ++ [Octets.read16 octets 0, Octets.read16 octets 2]
    else if 4 < token.length ∨ words.length = 8 then none
    else
      match Text.number 16 0xffff token with
      | none => none
      | some value => parseWords allowIpv4Tail rest (words ++ [BitVec.ofNat 16 value])

/-- The text before the first `::` and the text after it. -/
def compression : List (BitVec 8) → Option (List (BitVec 8) × List (BitVec 8))
  | first :: second :: rest =>
    if first = colon ∧ second = colon then some ([], rest)
    else (compression (second :: rest)).map fun sides => (first :: sides.1, sides.2)
  | _ => none

/-- The octets of an address. A zone identifier is not part of it. -/
def parseIpv6 (text : List (BitVec 8)) : Option (List (BitVec 8)) :=
  if text = [] ∨ percent ∈ text then none
  else
    match compression text with
    | none =>
      match parseWords true (Text.split colon text) [] with
      | none => none
      | some words => if words.length ≠ 8 then none else some (words.flatMap Octets.octets16)
    | some (leftText, rightText) =>
      if (compression rightText).isSome then none
      else
        match parseWords false (Text.split colon leftText) [],
          parseWords true (Text.split colon rightText) [] with
        | some left, some right =>
          if 8 ≤ left.length + right.length then none
          else
            let zeros := List.replicate (8 - left.length - right.length) 0#16
            some ((left ++ zeros ++ right).flatMap Octets.octets16)
        | _, _ => none

end RouterSim.Ip.AddressText
