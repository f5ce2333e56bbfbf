import TraceLens.Charset.CodeTable

/-!
# EBCDIC

The code pages of mainframes, which keep letters, digits and control characters in other places
than ASCII.
-/

namespace TraceLens.CodePage

def cp037 : CodeTable := ⟨[
  (0x04, "\u009c\x09\u0086\x7f\u0097\u008d\u008e"),
  (0x14, "\u009d\u0085\x08\u0087\x18\x19\u0092\u008f"),
  (0x20, "\u0080\u0081\u0082\u0083\u0084\x0a\x17\x1b\u0088\u0089\u008a\u008b\u008c\x05"),
  (0x2E, "\x06\x07"),
  (0x30, "\u0090\u0091\x16\u0093\u0094\u0095\u0096\x04\u0098\u0099\u009a\u009b\x14\x15"),
  (0x3E, "\u009e\x1a \u00a0âäàáãåçñ¢.<(+|&éêëèíîïìß!$*);¬-/ÂÄÀÁÃÅÇÑ¦,%_>?"),
  (0x70, "øÉÊËÈÍÎÏÌ`:#@'=\"Øabcdefghi«»ðýþ±°jklmnopqrªºæ¸Æ¤µ~stuvwxyz¡¿ÐÝÞ®"),
  (0xB0, "^£¥·©§¶¼½¾[]¯¨´×\x7bABCDEFGHI\u00adôöòóõ\x7dJKLMNOPQR¹ûüùúÿ\\÷STUVWXYZ²ÔÖÒÓÕ"),
  (0xF0, "0123456789³ÛÜÙÚ\u009f")]⟩

/-- German letters. -/
def cp273 : CodeTable := cp037.amend [
  (0x43, "\x7b"), (0x4A, "Ä"), (0x4F, "!"), (0x59, "~Ü"), (0x5F, "^"), (0x63, "["), (0x6A, "ö"),
  (0x7C, "§"), (0xA1, "ß"), (0xB0, "¢"), (0xB5, "@"), (0xBA, "¬|‾"), (0xC0, "ä"), (0xCC, "¦"),
  (0xD0, "ü"), (0xDC, "\x7d"), (0xE0, "Ö"), (0xEC, "\\"), (0xFC, "]")]

/-- Hebrew letters. -/
def cp424 : CodeTable := cp037.amend [
  (0x41, "אבגדהוזחט"), (0x51, "יךכלםמןנס"), (0x62, "עףפץצקרש"),
  (0x70, "\ufffdת\ufffd\ufffd\u00a0\ufffd\ufffd\ufffd‗"), (0x80, "\ufffd"),
  (0x8C, "\ufffd\ufffd\ufffd"), (0x9A, "\ufffd\ufffd\ufffd¸\ufffd"),
  (0xAA, "\ufffd\ufffd\ufffd\ufffd\ufffd"), (0xCB, "\ufffd\ufffd\ufffd\ufffd\ufffd"),
  (0xDB, "\ufffd\ufffd\ufffd\ufffd\ufffd"), (0xEB, "\ufffd\ufffd\ufffd\ufffd\ufffd"),
  (0xFB, "\ufffd\ufffd\ufffd\ufffd")]

/-- International use. -/
def cp500 : CodeTable := cp037.amend [
  (0x4A, "["), (0x4F, "!"), (0x5A, "]"), (0x5F, "^"), (0xB0, "¢"), (0xBA, "¬|")]

/-- Greek letters. -/
def cp875 : CodeTable := cp037.amend [
  (0x41, "ΑΒΓΔΕΖΗΘΙ["), (0x4F, "!&ΚΛΜΝΞΟΠΡΣ]"), (0x5F, "^-/ΤΥΦΧΨΩΪΫ|"),
  (0x70, "¨ΆΈΉ\u00a0ΊΌΎΏ"), (0x80, "΅"), (0x8A, "αβγδεζ"), (0x9A, "ηθικλμ´"),
  (0xAA, "νξοπρσ£άέήϊίόύϋώςτυφχψ"), (0xCB, "ωΐΰ‘―"), (0xDA, "±½\x1a·’¦\\\x1a"),
  (0xEB, "§\x1a\x1a«¬"), (0xFB, "©\x1a\x1a»")]

/-- Turkish letters. -/
def cp1026 : CodeTable := cp500.amend [
  (0x48, "\x7bñÇ"), (0x5A, "Ğİ"), (0x68, "[Ñş"), (0x79, "ı:ÖŞ'=Ü"), (0x8C, "\x7d`¦"),
  (0xA1, "ö"), (0xAC, "]$@"), (0xC0, "ç"), (0xCC, "~"), (0xD0, "ğ"), (0xDC, "\\"), (0xE0, "ü"),
  (0xEC, "#"), (0xFC, "\"")]

/-- The sign of the euro. -/
def cp1140 : CodeTable := cp037.amend [(0x9F, "€")]

/-- The code pages of mainframes. -/
def ebcdic : List Charset := [
  ⟨"cp037", ["037", "csibm037", "ebcdic_cp_ca", "ebcdic_cp_nl", "ebcdic_cp_us", "ebcdic_cp_wt",
    "ibm037", "ibm039"], cp037.decodeBytes⟩,
  ⟨"cp273", ["273", "csibm273", "ibm273"], cp273.decodeBytes⟩,
  ⟨"cp424", ["424", "csibm424", "ebcdic_cp_he", "ibm424"], cp424.decodeBytes⟩,
  ⟨"cp500", ["500", "csibm500", "ebcdic_cp_be", "ebcdic_cp_ch", "ibm500"], cp500.decodeBytes⟩,
  ⟨"cp875", [], cp875.decodeBytes⟩,
  ⟨"cp1026", ["1026", "csibm1026", "ibm1026"], cp1026.decodeBytes⟩,
  ⟨"cp1140", ["1140", "ibm1140"], cp1140.decodeBytes⟩]

end TraceLens.CodePage
