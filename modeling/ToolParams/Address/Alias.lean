import ToolParams.Text.Ranges

/-!
# Characters that stand for ASCII

Wide, raised, circled and mathematical forms of ASCII characters, which mean the same
in a name as the plain ones; and circled numbers.
-/

namespace ToolParams.Address

/-- Ranges of characters, each with the code of the plain character that its first one
stands for; the others stand for the next ones. -/
def aliases : List (Nat × Nat × Nat) := [
  (0xAA, 0xAA, 0x61), (0xB2, 0xB3, 0x32), (0xB9, 0xB9, 0x31), (0xBA, 0xBA, 0x6F),
  (0x17F, 0x17F, 0x73), (0x2B0, 0x2B0, 0x68), (0x2B2, 0x2B2, 0x6A), (0x2B3, 0x2B3, 0x72),
  (0x2B7, 0x2B7, 0x77), (0x2B8, 0x2B8, 0x79), (0x2E1, 0x2E1, 0x6C), (0x2E2, 0x2E2, 0x73),
  (0x2E3, 0x2E3, 0x78), (0x37E, 0x37E, 0x3B), (0x1D2C, 0x1D2C, 0x61), (0x1D2E, 0x1D2E, 0x62),
  (0x1D30, 0x1D31, 0x64), (0x1D33, 0x1D3A, 0x67), (0x1D3C, 0x1D3C, 0x6F),
  (0x1D3E, 0x1D3E, 0x70), (0x1D3F, 0x1D3F, 0x72), (0x1D40, 0x1D41, 0x74),
  (0x1D42, 0x1D42, 0x77), (0x1D43, 0x1D43, 0x61), (0x1D47, 0x1D47, 0x62),
  (0x1D48, 0x1D49, 0x64), (0x1D4D, 0x1D4D, 0x67), (0x1D4F, 0x1D4F, 0x6B),
  (0x1D50, 0x1D50, 0x6D), (0x1D52, 0x1D52, 0x6F), (0x1D56, 0x1D56, 0x70),
  (0x1D57, 0x1D58, 0x74), (0x1D5B, 0x1D5B, 0x76), (0x1D62, 0x1D62, 0x69),
  (0x1D63, 0x1D63, 0x72), (0x1D64, 0x1D65, 0x75), (0x1D9C, 0x1D9C, 0x63),
  (0x1DA0, 0x1DA0, 0x66), (0x1DBB, 0x1DBB, 0x7A), (0x1FEF, 0x1FEF, 0x60),
  (0x2070, 0x2070, 0x30), (0x2071, 0x2071, 0x69), (0x2074, 0x2079, 0x34),
  (0x207A, 0x207A, 0x2B), (0x207C, 0x207C, 0x3D), (0x207D, 0x207E, 0x28),
  (0x207F, 0x207F, 0x6E), (0x2080, 0x2089, 0x30), (0x208A, 0x208A, 0x2B),
  (0x208C, 0x208C, 0x3D), (0x208D, 0x208E, 0x28), (0x2090, 0x2090, 0x61),
  (0x2091, 0x2091, 0x65), (0x2092, 0x2092, 0x6F), (0x2093, 0x2093, 0x78),
  (0x2095, 0x2095, 0x68), (0x2096, 0x2099, 0x6B), (0x209A, 0x209A, 0x70),
  (0x209B, 0x209C, 0x73), (0x2102, 0x2102, 0x63), (0x210A, 0x210B, 0x67),
  (0x210C, 0x210C, 0x68), (0x210D, 0x210D, 0x68), (0x210E, 0x210E, 0x68),
  (0x2110, 0x2110, 0x69), (0x2111, 0x2111, 0x69), (0x2112, 0x2112, 0x6C),
  (0x2113, 0x2113, 0x6C), (0x2115, 0x2115, 0x6E), (0x2119, 0x211B, 0x70),
  (0x211C, 0x211C, 0x72), (0x211D, 0x211D, 0x72), (0x2124, 0x2124, 0x7A),
  (0x2128, 0x2128, 0x7A), (0x212A, 0x212A, 0x6B), (0x212C, 0x212D, 0x62),
  (0x212F, 0x212F, 0x65), (0x2130, 0x2131, 0x65), (0x2133, 0x2133, 0x6D),
  (0x2134, 0x2134, 0x6F), (0x2139, 0x2139, 0x69), (0x2145, 0x2145, 0x64),
  (0x2146, 0x2147, 0x64), (0x2148, 0x2149, 0x69), (0x2160, 0x2160, 0x69),
  (0x2164, 0x2164, 0x76), (0x2169, 0x2169, 0x78), (0x216C, 0x216C, 0x6C),
  (0x216D, 0x216E, 0x63), (0x216F, 0x216F, 0x6D), (0x2170, 0x2170, 0x69),
  (0x2174, 0x2174, 0x76), (0x2179, 0x2179, 0x78), (0x217C, 0x217C, 0x6C),
  (0x217D, 0x217E, 0x63), (0x217F, 0x217F, 0x6D), (0x2460, 0x2468, 0x31),
  (0x24B6, 0x24CF, 0x61), (0x24D0, 0x24E9, 0x61), (0x24EA, 0x24EA, 0x30),
  (0x2C7C, 0x2C7C, 0x6A), (0x2C7D, 0x2C7D, 0x76), (0x3002, 0x3002, 0x2E),
  (0xA7F2, 0xA7F2, 0x63), (0xA7F3, 0xA7F3, 0x66), (0xA7F4, 0xA7F4, 0x71),
  (0xFB29, 0xFB29, 0x2B), (0xFE10, 0xFE10, 0x2C), (0xFE14, 0xFE14, 0x3B),
  (0xFE15, 0xFE15, 0x21), (0xFE33, 0xFE33, 0x5F), (0xFE34, 0xFE34, 0x5F),
  (0xFE35, 0xFE36, 0x28), (0xFE37, 0xFE37, 0x7B), (0xFE38, 0xFE38, 0x7D),
  (0xFE4D, 0xFE4D, 0x5F), (0xFE4E, 0xFE4E, 0x5F), (0xFE4F, 0xFE4F, 0x5F),
  (0xFE50, 0xFE50, 0x2C), (0xFE54, 0xFE54, 0x3B), (0xFE57, 0xFE57, 0x21),
  (0xFE59, 0xFE5A, 0x28), (0xFE5B, 0xFE5B, 0x7B), (0xFE5C, 0xFE5C, 0x7D),
  (0xFE60, 0xFE60, 0x26), (0xFE61, 0xFE62, 0x2A), (0xFE63, 0xFE63, 0x2D),
  (0xFE66, 0xFE66, 0x3D), (0xFE69, 0xFE69, 0x24), (0xFF01, 0xFF02, 0x21),
  (0xFF04, 0xFF04, 0x24), (0xFF06, 0xFF0E, 0x26), (0xFF10, 0xFF19, 0x30),
  (0xFF1B, 0xFF1B, 0x3B), (0xFF1D, 0xFF1D, 0x3D), (0xFF21, 0xFF3A, 0x61),
  (0xFF3F, 0xFF5B, 0x5F), (0xFF5D, 0xFF5E, 0x7D), (0xFF61, 0xFF61, 0x2E),
  (0x107A5, 0x107A5, 0x71), (0x1D400, 0x1D419, 0x61), (0x1D41A, 0x1D433, 0x61),
  (0x1D434, 0x1D44D, 0x61), (0x1D44E, 0x1D454, 0x61), (0x1D456, 0x1D467, 0x69),
  (0x1D468, 0x1D481, 0x61), (0x1D482, 0x1D49B, 0x61), (0x1D49C, 0x1D49C, 0x61),
  (0x1D49E, 0x1D49F, 0x63), (0x1D4A2, 0x1D4A2, 0x67), (0x1D4A5, 0x1D4A6, 0x6A),
  (0x1D4A9, 0x1D4AC, 0x6E), (0x1D4AE, 0x1D4B5, 0x73), (0x1D4B6, 0x1D4B9, 0x61),
  (0x1D4BB, 0x1D4BB, 0x66), (0x1D4BD, 0x1D4C3, 0x68), (0x1D4C5, 0x1D4CF, 0x70),
  (0x1D4D0, 0x1D4E9, 0x61), (0x1D4EA, 0x1D503, 0x61), (0x1D504, 0x1D505, 0x61),
  (0x1D507, 0x1D50A, 0x64), (0x1D50D, 0x1D514, 0x6A), (0x1D516, 0x1D51C, 0x73),
  (0x1D51E, 0x1D537, 0x61), (0x1D538, 0x1D539, 0x61), (0x1D53B, 0x1D53E, 0x64),
  (0x1D540, 0x1D544, 0x69), (0x1D546, 0x1D546, 0x6F), (0x1D54A, 0x1D550, 0x73),
  (0x1D552, 0x1D56B, 0x61), (0x1D56C, 0x1D585, 0x61), (0x1D586, 0x1D59F, 0x61),
  (0x1D5A0, 0x1D5B9, 0x61), (0x1D5BA, 0x1D5D3, 0x61), (0x1D5D4, 0x1D5ED, 0x61),
  (0x1D5EE, 0x1D607, 0x61), (0x1D608, 0x1D621, 0x61), (0x1D622, 0x1D63B, 0x61),
  (0x1D63C, 0x1D655, 0x61), (0x1D656, 0x1D66F, 0x61), (0x1D670, 0x1D689, 0x61),
  (0x1D68A, 0x1D6A3, 0x61), (0x1D7CE, 0x1D7D7, 0x30), (0x1D7D8, 0x1D7E1, 0x30),
  (0x1D7E2, 0x1D7EB, 0x30), (0x1D7EC, 0x1D7F5, 0x30), (0x1D7F6, 0x1D7FF, 0x30),
  (0x1F12B, 0x1F12B, 0x63), (0x1F12C, 0x1F12C, 0x72), (0x1F130, 0x1F149, 0x61),
  (0x1FBF0, 0x1FBF9, 0x30)]

/-- Ranges of circled numbers, each with its first number. -/
def circledNumbers : List (Nat × Nat × Nat) := [
  (0x2469, 0x2473, 10), (0x3251, 0x325F, 21), (0x32B1, 0x32BF, 36)]

/-- What a code becomes in the range that holds it. -/
def shifted? (ranges : List (Nat × Nat × Nat)) (code : Nat) : Option Nat :=
  (ranges.find? fun (first, last, _) => first ≤ code && code ≤ last).map
    fun (first, _, target) => target + (code - first)

/-- The plain text that a character stands for, if there is such. -/
def plain? (character : Char) : Option (List Char) :=
  match shifted? aliases character.toNat with
  | some code => some [Char.ofNat code]
  | none => (shifted? circledNumbers character.toNat).map (Nat.toDigits 10)

end ToolParams.Address
