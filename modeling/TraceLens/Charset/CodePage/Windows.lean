import TraceLens.Charset.CodeTable

/-!
# Code pages with signs in the place of upper control characters

The code pages 1250 to 1258 and 874, and sets that follow them: the Kazakh standard, the
Asian Cyrillic set and that of hand-held organisers.
-/

namespace TraceLens.CodePage

/-- West European letters. -/
def cp1252 : CodeTable := ⟨[
  (0x80, "€\ufffd‚ƒ„…†‡ˆ‰Š‹Œ\ufffdŽ\ufffd\ufffd‘’“”•–—˜™š›œ\ufffdžŸ")]⟩

/-- Central European letters. -/
def cp1250 : CodeTable := ⟨[
  (0x80, "€\ufffd‚\ufffd„…†‡\ufffd‰Š‹ŚŤŽŹ\ufffd‘’“”•–—\ufffd™š›śťžź\u00a0ˇ˘Ł¤Ą"), (0xAA, "Ş"),
  (0xAF, "Ż°±˛ł"),
  (0xB9, "ąş»Ľ˝ľżŔÁÂĂÄĹĆÇČÉĘËĚÍÎĎĐŃŇÓÔŐÖ×ŘŮÚŰÜÝŢßŕáâăäĺćçčéęëěíîďđńňóôőö÷řůúűüýţ˙")]⟩

/-- Cyrillic letters. -/
def cp1251 : CodeTable := ⟨[
  (0x80, "ЂЃ‚ѓ„…†‡€‰Љ‹ЊЌЋЏђ‘’“”•–—\ufffd™љ›њќћџ\u00a0ЎўЈ¤Ґ¦§Ё©Є"),
  (0xAF, "Ї°±Ііґµ¶·ё№є»јЅѕїАБВГДЕЖЗИЙКЛМНОПРСТУФХЦЧШЩЪЫЬЭЮЯабвгдежзийклмноп"),
  (0xF0, "рстуфхцчшщъыьэюя")]⟩

/-- Greek letters. -/
def cp1253 : CodeTable := cp1252.amend [
  (0x88, "\ufffd‰\ufffd‹\ufffd\ufffd\ufffd"),
  (0x98, "\ufffd™\ufffd›\ufffd\ufffd\ufffd\ufffd\u00a0΅Ά"), (0xAA, "\ufffd"), (0xAF, "―"),
  (0xB4, "΄"), (0xB8, "ΈΉΊ»Ό½ΎΏΐΑΒΓΔΕΖΗΘΙΚΛΜΝΞΟΠΡ\ufffdΣΤΥΦΧΨΩΪΫάέήίΰαβγδεζηθικλμνξο"),
  (0xF0, "πρςστυφχψωϊϋόύώ\ufffd")]

/-- Turkish letters. -/
def cp1254 : CodeTable := cp1252.amend [
  (0x8E, "\ufffd"), (0x9E, "\ufffd"), (0xD0, "Ğ"), (0xDD, "İŞ"), (0xF0, "ğ"), (0xFD, "ış")]

/-- Hebrew letters. -/
def cp1255 : CodeTable := cp1252.amend [
  (0x8A, "\ufffd‹\ufffd\ufffd\ufffd"), (0x9A, "\ufffd›\ufffd\ufffd\ufffd\ufffd"), (0xA4, "₪"),
  (0xAA, "×"), (0xBA, "÷"),
  (0xC0, "\u05b0\u05b1\u05b2\u05b3\u05b4\u05b5\u05b6\u05b7\u05b8\u05b9\ufffd\u05bb\u05bc"),
  (0xCD, "\u05bd־\u05bf׀\u05c1\u05c2׃װױײ׳״\ufffd\ufffd\ufffd\ufffd\ufffd\ufffd\ufffd"),
  (0xE0, "אבגדהוזחטיךכלםמןנסעףפץצקרשת\ufffd\ufffd\u200e\u200f\ufffd")]

/-- Arabic letters. -/
def cp1256 : CodeTable := ⟨[
  (0x80, "€پ‚ƒ„…†‡ˆ‰ٹ‹Œچژڈگ‘’“”•–—ک™ڑ›œ\u200c\u200dں\u00a0،"), (0xAA, "ھ"), (0xBA, "؛"),
  (0xBF, "؟ہءآأؤإئابةتثجحخدذرزسشصض×طظعغـفقكàلâمنهو"),
  (0xEC, "ىيîï\u064b\u064c\u064d\u064eô\u064f\u0650÷\u0651ù\u0652ûü\u200e\u200fے")]⟩

/-- Baltic letters. -/
def cp1257 : CodeTable := ⟨[
  (0x80, "€\ufffd‚\ufffd„…†‡\ufffd‰\ufffd‹\ufffd¨ˇ¸"),
  (0x90, "\ufffd‘’“”•–—\ufffd™\ufffd›\ufffd¯˛\ufffd\u00a0\ufffd¢£¤\ufffd¦§Ø©Ŗ"), (0xAF, "Æ"),
  (0xB8, "ø¹ŗ"), (0xBF, "æĄĮĀĆÄÅĘĒČÉŹĖĢĶĪĻŠŃŅÓŌÕÖ×ŲŁŚŪÜŻŽßąįāćäåęēčéźėģķīļšńņóōõö÷ųłśūüżž˙")]⟩

/-- Vietnamese letters, with marks that combine. -/
def cp1258 : CodeTable := cp1252.amend [
  (0x8A, "\ufffd"), (0x8E, "\ufffd"), (0x9A, "\ufffd"), (0x9E, "\ufffd"), (0xC3, "Ă"),
  (0xCC, "\u0300"), (0xD0, "ĐÑ\u0309ÓÔƠ"), (0xDD, "Ư\u0303"), (0xE3, "ă"), (0xEC, "\u0301"),
  (0xF0, "đñ\u0323óôơ"), (0xFD, "ư₫")]

/-- Thai letters. -/
def cp874 : CodeTable := cp1252.amend [
  (0x82, "\ufffd\ufffd\ufffd…\ufffd\ufffd\ufffd\ufffd\ufffd\ufffd\ufffd\ufffd\ufffd"),
  (0x98, "\ufffd\ufffd\ufffd\ufffd\ufffd\ufffd\ufffd\ufffd\u00a0กขฃคฅฆงจฉชซฌญฎฏ"),
  (0xB0, "ฐฑฒณดตถทธนบปผฝพฟภมยรฤลฦวศษสหฬอฮฯ"),
  (0xD0, "ะ\u0e31าำ\u0e34\u0e35\u0e36\u0e37\u0e38\u0e39\u0e3a\ufffd\ufffd\ufffd\ufffd฿"),
  (0xE0, "เแโใไๅๆ\u0e47\u0e48\u0e49\u0e4a\u0e4b\u0e4c\u0e4d\u0e4e๏"),
  (0xF0, "๐๑๒๓๔๕๖๗๘๙๚๛\ufffd\ufffd\ufffd\ufffd")]

def kazakh : CodeTable := cp1251.amend [
  (0x8D, "ҚҺ"), (0x9D, "қһџ\u00a0ҰұӘ¤Ө"), (0xAA, "Ғ"), (0xAF, "Ү"), (0xB4, "ө"),
  (0xBA, "ғ»әҢңү")]

def asianCyrillic : CodeTable := cp1251.amend [
  (0x80, "ҖҒӮғ„…ҶҮҲүҠӢҢҚҺҸҗ"), (0x98, "ҳҷҡӣңқһҹ"), (0xA4, "ӨҘҰ"), (0xAA, "Ә«¬ӯ®Ҝ°ұІіҙө"),
  (0xBA, "ә»јҪҫҝ")]

def organiser : CodeTable := ⟨[
  (0x80, "€\u0081‚ƒ„…†‡ˆ‰Š‹Œ♦♣♥♠‘’“”•–—˜™š\u009bœ\u009d\u009eŸ")]⟩

/-- The code pages from 1250 on and their kin. -/
def windows : List Charset := [
  ⟨"cp1252", ["1252", "windows_1252"], cp1252.decodeBytes⟩,
  ⟨"cp1250", ["1250", "windows_1250"], cp1250.decodeBytes⟩,
  ⟨"cp1251", ["1251", "windows_1251"], cp1251.decodeBytes⟩,
  ⟨"cp1253", ["1253", "windows_1253"], cp1253.decodeBytes⟩,
  ⟨"cp1254", ["1254", "windows_1254"], cp1254.decodeBytes⟩,
  ⟨"cp1255", ["1255", "windows_1255"], cp1255.decodeBytes⟩,
  ⟨"cp1256", ["1256", "windows_1256"], cp1256.decodeBytes⟩,
  ⟨"cp1257", ["1257", "windows_1257"], cp1257.decodeBytes⟩,
  ⟨"cp1258", ["1258", "windows_1258"], cp1258.decodeBytes⟩,
  ⟨"cp874", [], cp874.decodeBytes⟩,
  ⟨"kz1048", ["kz_1048", "rk1048", "strk1048_2002"], kazakh.decodeBytes⟩,
  ⟨"ptcp154", ["cp154", "csptcp154", "cyrillic_asian", "pt154"], asianCyrillic.decodeBytes⟩,
  ⟨"palmos", [], organiser.decodeBytes⟩]

end TraceLens.CodePage
