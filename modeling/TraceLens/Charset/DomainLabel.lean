import TraceLens.Charset.Punycode
import TraceLens.Text.Direction
import TraceLens.Text.LowerCase
import TraceLens.Text.NormalForm

/-!
# Labels of domain names

A domain name is a list of labels with points between them. A label in ASCII stands for itself; one
that begins with a sign stands for what the rest of it says in Punycode. That must be the one form
in which the label can be prepared: without characters that are mapped to others or to none, in
normal form, and written in one direction.
-/

namespace TraceLens.Charset.DomainLabel

/-- The sign in front of a label that holds more than ASCII. -/
def labelSign : List UInt8 := "xn--".toUTF8.toList

/-- The characters beyond ASCII that no prepared label holds, capital letters apart: those that
are mapped to other characters or to none, and blanks, control characters and private ones. -/
def barred : List (Nat × Nat) := [
  (0x80, 0xA0), (0xA8, 0xA8), (0xAA, 0xAA), (0xAD, 0xAD), (0xAF, 0xAF), (0xB2, 0xB5), (0xB8, 0xBA),
  (0xBC, 0xBE), (0xDF, 0xDF), (0x133, 0x133), (0x140, 0x140), (0x149, 0x149), (0x17F, 0x17F),
  (0x1C6, 0x1CC), (0x1F3, 0x1F3), (0x2B0, 0x2B8), (0x2D8, 0x2DD), (0x2E0, 0x2E4), (0x340, 0x341),
  (0x343, 0x345), (0x34F, 0x34F), (0x374, 0x374), (0x37A, 0x37A), (0x37E, 0x37E), (0x384, 0x387),
  (0x3C2, 0x3C2), (0x3D0, 0x3D6), (0x3F0, 0x3F2), (0x3F5, 0x3F5), (0x587, 0x587), (0x675, 0x678),
  (0x6DD, 0x6DD), (0x70F, 0x70F), (0x958, 0x95F), (0x9DC, 0x9DD), (0x9DF, 0x9DF), (0xA33, 0xA33),
  (0xA36, 0xA36), (0xA59, 0xA5B), (0xA5E, 0xA5E), (0xB5C, 0xB5D), (0xE33, 0xE33), (0xEB3, 0xEB3),
  (0xEDC, 0xEDD), (0xF0C, 0xF0C), (0xF43, 0xF43), (0xF4D, 0xF4D), (0xF52, 0xF52), (0xF57, 0xF57),
  (0xF5C, 0xF5C), (0xF69, 0xF69), (0xF73, 0xF73), (0xF75, 0xF79), (0xF81, 0xF81), (0xF93, 0xF93),
  (0xF9D, 0xF9D), (0xFA2, 0xFA2), (0xFA7, 0xFA7), (0xFAC, 0xFAC), (0xFB9, 0xFB9), (0x1680, 0x1680),
  (0x1806, 0x1806), (0x180B, 0x180E), (0x1E9A, 0x1E9B), (0x1F71, 0x1F71), (0x1F73, 0x1F73),
  (0x1F75, 0x1F75), (0x1F77, 0x1F77), (0x1F79, 0x1F79), (0x1F7B, 0x1F7B), (0x1F7D, 0x1F7D),
  (0x1F80, 0x1FA7), (0x1FB2, 0x1FB4), (0x1FB7, 0x1FC4), (0x1FC7, 0x1FCF), (0x1FD3, 0x1FD3),
  (0x1FDD, 0x1FDF), (0x1FE3, 0x1FE3), (0x1FED, 0x1FEF), (0x1FF2, 0x1FF4), (0x1FF7, 0x1FFE),
  (0x2000, 0x200F), (0x2011, 0x2011), (0x2017, 0x2017), (0x2024, 0x2026), (0x2028, 0x202F),
  (0x2033, 0x2034), (0x2036, 0x2037), (0x203C, 0x203C), (0x203E, 0x203E), (0x2047, 0x2049),
  (0x2057, 0x2057), (0x205F, 0x2063), (0x206A, 0x2071), (0x2074, 0x208E), (0x20A8, 0x20A8),
  (0x2100, 0x2103), (0x2105, 0x2107), (0x2109, 0x2113), (0x2115, 0x2116), (0x2119, 0x211D),
  (0x2120, 0x2122), (0x2124, 0x2124), (0x2128, 0x2128), (0x212C, 0x212D), (0x212F, 0x2139),
  (0x213D, 0x2140), (0x2145, 0x2149), (0x2153, 0x217F), (0x222C, 0x222D), (0x222F, 0x2230),
  (0x2329, 0x232A), (0x2460, 0x24EA), (0x2A0C, 0x2A0C), (0x2A74, 0x2A76), (0x2ADC, 0x2ADC),
  (0x2E9F, 0x2E9F), (0x2EF3, 0x2EF3), (0x2F00, 0x2FD5), (0x2FF0, 0x2FFB), (0x3000, 0x3000),
  (0x3036, 0x3036), (0x3038, 0x303A), (0x309B, 0x309C), (0x309F, 0x309F), (0x30FF, 0x30FF),
  (0x3131, 0x318E), (0x3192, 0x319F), (0x3200, 0x321C), (0x3220, 0x3243), (0x3251, 0x327B),
  (0x3280, 0x32CB), (0x32D0, 0x32FE), (0x3300, 0x3376), (0x337B, 0x33DD), (0x33E0, 0x33FE),
  (0xD800, 0xFA0D), (0xFA10, 0xFA10), (0xFA12, 0xFA12), (0xFA15, 0xFA1E), (0xFA20, 0xFA20),
  (0xFA22, 0xFA22), (0xFA25, 0xFA26), (0xFA2A, 0xFA2D), (0xFA30, 0xFA6A), (0xFB00, 0xFB06),
  (0xFB13, 0xFB17), (0xFB1D, 0xFB1D), (0xFB1F, 0xFB36), (0xFB38, 0xFB3C), (0xFB3E, 0xFB3E),
  (0xFB40, 0xFB41), (0xFB43, 0xFB44), (0xFB46, 0xFBB1), (0xFBD3, 0xFD3D), (0xFD50, 0xFD8F),
  (0xFD92, 0xFDC7), (0xFDD0, 0xFDFC), (0xFE00, 0xFE0F), (0xFE30, 0xFE44), (0xFE49, 0xFE52),
  (0xFE54, 0xFE66), (0xFE68, 0xFE6B), (0xFE70, 0xFE72), (0xFE74, 0xFE74), (0xFE76, 0xFEFC),
  (0xFEFF, 0xFEFF), (0xFF01, 0xFFBE), (0xFFC2, 0xFFC7), (0xFFCA, 0xFFCF), (0xFFD2, 0xFFD7),
  (0xFFDA, 0xFFDC), (0xFFE0, 0xFFE6), (0xFFE8, 0xFFEE), (0xFFF9, 0xFFFF), (0x1D15E, 0x1D164),
  (0x1D173, 0x1D17A), (0x1D1BB, 0x1D1C0), (0x1D400, 0x1D454), (0x1D456, 0x1D49C),
  (0x1D49E, 0x1D49F), (0x1D4A2, 0x1D4A2), (0x1D4A5, 0x1D4A6), (0x1D4A9, 0x1D4AC),
  (0x1D4AE, 0x1D4B9), (0x1D4BB, 0x1D4BB), (0x1D4BD, 0x1D4C0), (0x1D4C2, 0x1D4C3),
  (0x1D4C5, 0x1D505), (0x1D507, 0x1D50A), (0x1D50D, 0x1D514), (0x1D516, 0x1D51C),
  (0x1D51E, 0x1D539), (0x1D53B, 0x1D53E), (0x1D540, 0x1D544), (0x1D546, 0x1D546),
  (0x1D54A, 0x1D550), (0x1D552, 0x1D6A3), (0x1D6A8, 0x1D7C9), (0x1D7CE, 0x1D7FF),
  (0x1FFFE, 0x1FFFF), (0x2F800, 0x2FA1D), (0x2FFFE, 0x2FFFF), (0x3FFFE, 0x3FFFF),
  (0x4FFFE, 0x4FFFF), (0x5FFFE, 0x5FFFF), (0x6FFFE, 0x6FFFF), (0x7FFFE, 0x7FFFF),
  (0x8FFFE, 0x8FFFF), (0x9FFFE, 0x9FFFF), (0xAFFFE, 0xAFFFF), (0xBFFFE, 0xBFFFF),
  (0xCFFFE, 0xCFFFF), (0xDFFFE, 0xDFFFF), (0xE0001, 0xE0001), (0xE0020, 0xE007F),
  (0xEFFFE, 0x10FFFF)]

def isBarred (c : Char) : Bool :=
  0x80 ≤ c.toNat && (LowerCase.lowerChar c != [c] || Direction.isIn barred c)

/-- Whether the characters of a label agree about their direction: if one of them is written from
the right to the left, so are the first and the last, and none the other way. -/
def isUniform (cs : List Char) : Bool :=
  !cs.any Direction.isRightToLeft ||
    (!cs.any Direction.isLeftToRight && cs.head?.all Direction.isRightToLeft &&
      cs.getLast?.all Direction.isRightToLeft)

/-- Whether some characters, in lower case, are what a prepared label holds. It needs the sign, and
does not begin with it itself. -/
def isPrepared (cs : List Char) : Bool :=
  cs.any (0x80 ≤ ·.toNat) && !"xn--".toList.isPrefixOf cs && !cs.any isBarred && isUniform cs &&
    NormalForm.normalize cs == cs

/-- Read a label. One with the sign is shorter than 64 bytes, and does not have a hyphen before its
numbers without characters before it. -/
def decodeLabel (label : List UInt8) : Except Fault (List Char) := do
  if 1024 < label.length then .error .unsuited
  else if labelSign.isPrefixOf label then
    let coded := label.drop labelSign.length
    let chars ← Punycode.decode coded
    let isSpare := (Punycode.splitBasic coded).1.isEmpty && coded.contains 0x2D
    if 64 ≤ label.length ∨ isSpare ∨ !isPrepared (chars.map Char.toLower) then .error .unsuited
    else return chars
  else Punycode.ascii? label

/-- Read labels with points between them. -/
def decode (bytes : List UInt8) : Except Fault (List Char) := do
  let _ ← Punycode.ascii? bytes
  let labels ← (bytes.splitOn 0x2E).mapM decodeLabel
  return ['.'].intercalate labels

def charset : Charset := ⟨"idna", [], decode⟩

end TraceLens.Charset.DomainLabel
