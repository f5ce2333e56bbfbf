import TraceLens.Charset.CodeTable

/-!
# The sets of early desktop publishing

A family of sets with one layout: accented letters first, then typographic signs.
-/

namespace TraceLens.CodePage

def macRoman : CodeTable := ⟨[
  (0x80, "ÄÅÇÉÑÖÜáàâäãåçéèêëíìîïñóòôöõúùûü†°¢£§•¶ß®©™´¨≠ÆØ∞±≤≥¥µ∂∑∏π∫ªºΩæø"),
  (0xC0, "¿¡¬√ƒ≈∆«»…\u00a0ÀÃÕŒœ–—“”‘’÷◊ÿŸ⁄€‹›ﬁﬂ‡·‚„‰ÂÊÁËÈÍÎÏÌÓÔ\uf8ffÒÚÛÙıˆ˜¯˘˙˚¸˝˛ˇ")]⟩

def macCroatian : CodeTable := macRoman.amend [
  (0xA9, "Š"), (0xAE, "Ž"), (0xB4, "∆"), (0xB9, "š"), (0xBE, "ž"), (0xC6, "Ć«Č"), (0xD0, "Đ"),
  (0xD8, "\uf8ff©"), (0xDE, "Æ»–"), (0xE6, "ćÁč"), (0xF0, "đ"), (0xF9, "πË˚¸Êæ")]

def macIceland : CodeTable := macRoman.amend [(0xA0, "Ý"), (0xDC, "ÐðÞþý")]

def macRomanian : CodeTable := macRoman.amend [(0xAE, "ĂȘ"), (0xBE, "ăș"), (0xDE, "Țț")]

def macTurkish : CodeTable := macRoman.amend [(0xDA, "ĞğİıŞş"), (0xF5, "\uf8a0")]

def macLatin2 : CodeTable := ⟨[
  (0x80, "ÄĀāÉĄÖÜáąČäčĆćéŹźĎíďĒēĖóėôöõúĚěü†°Ę£§•¶ß®©™ę¨≠ģĮįĪ≤≥īĶ∂∑łĻļĽľĹĺŅ"),
  (0xC0, "ņŃ¬√ńŇ∆«»…\u00a0ňŐÕőŌ–—“”‘’÷◊ōŔŕŘ‹›řŖŗŠ‚„šŚśÁŤťÍŽžŪÓÔūŮÚůŰűŲųÝýķŻŁżĢˇ")]⟩

def macGreek : CodeTable := ⟨[
  (0x80, "Ä¹²É³ÖÜ΅àâä΄¨çéèêë£™îï•½‰ôö¦€ùûü†ΓΔΘΛΞΠß®©ΣΪ§≠°·Α±≤≥¥ΒΕΖΗΙΚΜΦΫΨΩ"),
  (0xC0, "άΝ¬ΟΡ≈Τ«»…\u00a0ΥΧΆΈœ–―“”‘’÷ΉΊΌΎέήίόΏύαβψδεφγηιξκλμνοπώρστθωςχυζϊϋΐΰ\u00ad")]⟩

def macCyrillic : CodeTable := ⟨[
  (0x80, "АБВГДЕЖЗИЙКЛМНОПРСТУФХЦЧШЩЪЫЬЭЮЯ†°Ґ£§•¶І®©™Ђђ≠Ѓѓ∞±≤≥іµґЈЄєЇїЉљЊњ"),
  (0xC0, "јЅ¬√ƒ≈∆«»…\u00a0ЋћЌќѕ–—“”‘’÷„ЎўЏџ№Ёёяабвгдежзийклмнопрстуфхцчшщъыьэю€")]⟩

def macArabic : CodeTable := ⟨[
  (0x80, "Ä\u00a0ÇÉÑÖÜáàâäں«çéèêëí…îïñó»ôö÷úùûü !\"#$٪&'()*+،-./٠١٢٣٤٥٦٧٨٩:؛<=>؟"),
  (0xC0, "❊ءآأؤإئابةتثجحخدذرزسشصضطظعغ[\\]^_ـفقكلمنهوىي\u064b\u064c\u064d\u064e\u064f"),
  (0xF0, "\u0650\u0651\u0652پٹچەڤگڈڑ\x7b|\x7dژے")]⟩

def macFarsi : CodeTable := macArabic.amend [(0xB0, "۰۱۲۳۴۵۶۷۸۹")]

/-- The sets of early desktop publishing. -/
def macintosh : List Charset := [
  ⟨"mac_roman", ["macintosh", "macroman"], macRoman.decodeBytes⟩,
  ⟨"mac_croatian", [], macCroatian.decodeBytes⟩,
  ⟨"mac_iceland", ["maciceland"], macIceland.decodeBytes⟩,
  ⟨"mac_romanian", [], macRomanian.decodeBytes⟩,
  ⟨"mac_turkish", ["macturkish"], macTurkish.decodeBytes⟩,
  ⟨"mac_latin2", ["mac_centeuro", "maccentraleurope", "maclatin2"], macLatin2.decodeBytes⟩,
  ⟨"mac_greek", ["macgreek"], macGreek.decodeBytes⟩,
  ⟨"mac_cyrillic", ["maccyrillic"], macCyrillic.decodeBytes⟩,
  ⟨"mac_arabic", [], macArabic.decodeBytes⟩,
  ⟨"mac_farsi", [], macFarsi.decodeBytes⟩]

end TraceLens.CodePage
