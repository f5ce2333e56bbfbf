import TraceLens.Charset.CodeTable

/-!
# ISO 8859

The parts of ISO 8859 after Latin 1, from which they differ in the upper half alone, and the Thai
standard from which the eleventh part comes.
-/

namespace TraceLens.CodePage

/-- Central European letters. -/
def latin2 : CodeTable := ⟨[
  (0xA1, "Ą˘Ł¤ĽŚ§¨ŠŞŤŹ\u00adŽŻ°ą˛ł´ľśˇ¸šşťź˝žżŔÁÂĂÄĹĆÇČÉĘËĚÍÎĎĐŃŇÓÔŐÖ×ŘŮÚŰÜÝŢß"),
  (0xE0, "ŕáâăäĺćçčéęëěíîďđńňóôőö÷řůúűüýţ˙")]⟩

/-- South European letters. -/
def latin3 : CodeTable := ⟨[
  (0xA1, "Ħ˘£¤\ufffdĤ§¨İŞĞĴ\u00ad\ufffdŻ°ħ"), (0xB6, "ĥ·¸ışğĵ½\ufffdżÀÁÂ\ufffdÄĊĈ"),
  (0xD0, "\ufffd"), (0xD5, "ĠÖ×Ĝ"), (0xDD, "ŬŜ"), (0xE3, "\ufffdäċĉ"), (0xF0, "\ufffd"),
  (0xF5, "ġö÷ĝ"), (0xFD, "ŭŝ˙")]⟩

/-- North European letters. -/
def latin4 : CodeTable := ⟨[
  (0xA1, "ĄĸŖ¤ĨĻ§¨ŠĒĢŦ\u00adŽ¯°ą˛ŗ´ĩļˇ¸šēģŧŊžŋĀ"), (0xC7, "ĮČÉĘËĖÍÎĪĐŅŌĶ"), (0xD9, "ŲÚÛÜŨŪßā"),
  (0xE7, "įčéęëėíîīđņōķ"), (0xF9, "ųúûüũū˙")]⟩

def isoCyrillic : CodeTable := ⟨[
  (0xA1, "ЁЂЃЄЅІЇЈЉЊЋЌ\u00adЎЏАБВГДЕЖЗИЙКЛМНОПРСТУФХЦЧШЩЪЫЬЭЮЯабвгдежзийклмноп"),
  (0xE0, "рстуфхцчшщъыьэюя№ёђѓєѕіїјљњћќ§ўџ")]⟩

def isoArabic : CodeTable := ⟨[
  (0xA1, "\ufffd\ufffd\ufffd¤\ufffd\ufffd\ufffd\ufffd\ufffd\ufffd\ufffd،\u00ad\ufffd"),
  (0xAF, "\ufffd"),
  (0xB0, "\ufffd\ufffd\ufffd\ufffd\ufffd\ufffd\ufffd\ufffd\ufffd\ufffd\ufffd؛\ufffd"),
  (0xBD, "\ufffd\ufffd؟\ufffdءآأؤإئابةتثجحخدذرزسشصضطظعغ\ufffd\ufffd\ufffd\ufffd\ufffd"),
  (0xE0, "ـفقكلمنهوىي\u064b\u064c\u064d\u064e\u064f"),
  (0xF0, "\u0650\u0651\u0652\ufffd\ufffd\ufffd\ufffd\ufffd\ufffd\ufffd\ufffd\ufffd\ufffd"),
  (0xFD, "\ufffd\ufffd\ufffd")]⟩

def isoGreek : CodeTable := ⟨[
  (0xA1, "‘’£€₯"), (0xAA, "ͺ«¬\u00ad\ufffd―"),
  (0xB4, "΄΅Ά·ΈΉΊ»Ό½ΎΏΐΑΒΓΔΕΖΗΘΙΚΛΜΝΞΟΠΡ\ufffdΣΤΥΦΧΨΩΪΫάέήίΰαβγδεζηθικλμνξο"),
  (0xF0, "πρςστυφχψωϊϋόύώ\ufffd")]⟩

def isoHebrew : CodeTable := ⟨[
  (0xA1, "\ufffd"), (0xAA, "×"), (0xBA, "÷"), (0xBF, "\ufffd"),
  (0xC0, "\ufffd\ufffd\ufffd\ufffd\ufffd\ufffd\ufffd\ufffd\ufffd\ufffd\ufffd\ufffd\ufffd"),
  (0xCD, "\ufffd\ufffd\ufffd"),
  (0xD0, "\ufffd\ufffd\ufffd\ufffd\ufffd\ufffd\ufffd\ufffd\ufffd\ufffd\ufffd\ufffd\ufffd"),
  (0xDD, "\ufffd\ufffd‗אבגדהוזחטיךכלםמןנסעףפץצקרשת\ufffd\ufffd\u200e\u200f\ufffd")]⟩

/-- Turkish letters. -/
def latin5 : CodeTable := ⟨[
  (0xD0, "Ğ"), (0xDD, "İŞ"), (0xF0, "ğ"), (0xFD, "ış")]⟩

/-- Nordic letters. -/
def latin6 : CodeTable := latin4.amend [
  (0xA2, "ĒĢĪĨĶ§ĻĐŠŦŽ\u00adŪŊ°ąēģīĩķ·ļđšŧž―ū"), (0xCF, "ÏÐŅŌÓ"), (0xD7, "Ũ"), (0xDD, "ÝÞ"),
  (0xEF, "ïðņōó"), (0xF7, "ũ"), (0xFD, "ýþĸ")]

def thai : CodeTable := ⟨[
  (0xA0, "\ufffdกขฃคฅฆงจฉชซฌญฎฏฐฑฒณดตถทธนบปผฝพฟภมยรฤลฦวศษสหฬอฮฯ"),
  (0xD0, "ะ\u0e31าำ\u0e34\u0e35\u0e36\u0e37\u0e38\u0e39\u0e3a\ufffd\ufffd\ufffd\ufffd฿"),
  (0xE0, "เแโใไๅๆ\u0e47\u0e48\u0e49\u0e4a\u0e4b\u0e4c\u0e4d\u0e4e๏"),
  (0xF0, "๐๑๒๓๔๕๖๗๘๙๚๛\ufffd\ufffd\ufffd\ufffd")]⟩

def isoThai : CodeTable := thai.amend [(0xA0, "\u00a0")]

/-- Baltic letters. -/
def latin7 : CodeTable := ⟨[
  (0xA1, "”¢£¤„¦§Ø©Ŗ"), (0xAF, "Æ"), (0xB4, "“µ¶·ø¹ŗ"),
  (0xBF, "æĄĮĀĆÄÅĘĒČÉŹĖĢĶĪĻŠŃŅÓŌÕÖ×ŲŁŚŪÜŻŽßąįāćäåęēčéźėģķīļšńņóōõö÷ųłśūüżž’")]⟩

/-- Celtic letters. -/
def latin8 : CodeTable := ⟨[
  (0xA1, "Ḃḃ£ĊċḊ§Ẁ©ẂḋỲ\u00ad®ŸḞḟĠġṀṁ¶ṖẁṗẃṠỳẄẅṡ"), (0xD0, "Ŵ"), (0xD7, "Ṫ"), (0xDE, "Ŷ"),
  (0xF0, "ŵ"), (0xF7, "ṫ"), (0xFE, "ŷ")]⟩

/-- Latin 1 with the sign of the euro. -/
def latin9 : CodeTable := ⟨[
  (0xA4, "€¥Š§š"), (0xB4, "Žµ¶·ž¹º»ŒœŸ")]⟩

/-- South-eastern European letters. -/
def latin10 : CodeTable := ⟨[
  (0xA1, "ĄąŁ€„Š§š©Ș«Ź\u00adźŻ°±ČłŽ”¶·žčș»ŒœŸżÀÁÂĂÄĆ"), (0xD0, "ĐŃÒÓÔŐÖŚŰ"), (0xDD, "ĘȚ"),
  (0xE3, "ăäć"), (0xF0, "đńòóôőöśű"), (0xFD, "ęț")]⟩

/-- The parts of ISO 8859 but for the first. -/
def iso8859 : List Charset := [
  ⟨"iso8859_2", ["csisolatin2", "iso_8859_2", "iso_8859_2_1987", "iso_ir_101", "l2", "latin2"],
    latin2.decodeBytes⟩,
  ⟨"iso8859_3", ["csisolatin3", "iso_8859_3", "iso_8859_3_1988", "iso_ir_109", "l3", "latin3"],
    latin3.decodeBytes⟩,
  ⟨"iso8859_4", ["csisolatin4", "iso_8859_4", "iso_8859_4_1988", "iso_ir_110", "l4", "latin4"],
    latin4.decodeBytes⟩,
  ⟨"iso8859_5", ["csisolatincyrillic", "cyrillic", "iso_8859_5", "iso_8859_5_1988", "iso_ir_144"],
    isoCyrillic.decodeBytes⟩,
  ⟨"iso8859_6", ["arabic", "asmo_708", "csisolatinarabic", "ecma_114", "iso_8859_6",
    "iso_8859_6_1987", "iso_ir_127"], isoArabic.decodeBytes⟩,
  ⟨"iso8859_7", ["csisolatingreek", "ecma_118", "elot_928", "greek", "greek8", "iso_8859_7",
    "iso_8859_7_1987", "iso_ir_126"], isoGreek.decodeBytes⟩,
  ⟨"iso8859_8", ["csisolatinhebrew", "hebrew", "iso_8859_8", "iso_8859_8_1988", "iso_ir_138"],
    isoHebrew.decodeBytes⟩,
  ⟨"iso8859_9", ["csisolatin5", "iso_8859_9", "iso_8859_9_1989", "iso_ir_148", "l5", "latin5"],
    latin5.decodeBytes⟩,
  ⟨"iso8859_10", ["csisolatin6", "iso_8859_10", "iso_8859_10_1992", "iso_ir_157", "l6", "latin6"],
    latin6.decodeBytes⟩,
  ⟨"tis_620", ["iso_ir_166", "tis620", "tis_620_0", "tis_620_2529_0", "tis_620_2529_1"],
    thai.decodeBytes⟩,
  ⟨"iso8859_11", ["iso_8859_11", "iso_8859_11_2001", "thai"], isoThai.decodeBytes⟩,
  ⟨"iso8859_13", ["iso_8859_13", "l7", "latin7"], latin7.decodeBytes⟩,
  ⟨"iso8859_14", ["iso_8859_14", "iso_8859_14_1998", "iso_celtic", "iso_ir_199", "l8", "latin8"],
    latin8.decodeBytes⟩,
  ⟨"iso8859_15", ["iso_8859_15", "l9", "latin9"], latin9.decodeBytes⟩,
  ⟨"iso8859_16", ["iso_8859_16", "iso_8859_16_2001", "iso_ir_226", "l10", "latin10"],
    latin10.decodeBytes⟩]

end TraceLens.CodePage
