import TraceLens.Charset.CodeTable

/-!
# Code pages with lines and boxes

The code pages of text screens: their upper half holds letters, signs and the parts of boxes.
-/

namespace TraceLens.CodePage

/-- The first of them; many others keep its boxes. -/
def cp437 : CodeTable := ⟨[
  (0x80, "ÇüéâäàåçêëèïîìÄÅÉæÆôöòûùÿÖÜ¢£¥₧ƒáíóúñÑªº¿⌐¬½¼¡«»░▒▓│┤╡╢╖╕╣║╗╝╜╛┐"),
  (0xC0, "└┴┬├─┼╞╟╚╔╩╦╠═╬╧╨╤╥╙╘╒╓╫╪┘┌█▄▌▐▀αßΓπΣσµτΦΘΩδ∞φε∩≡±≥≤⌠⌡÷≈°∙·√ⁿ²■\u00a0")]⟩

/-- West European letters. -/
def cp850 : CodeTable := cp437.amend [
  (0x9B, "ø£Ø×"), (0xA9, "®"), (0xB5, "ÁÂÀ©"), (0xBD, "¢¥"), (0xC6, "ãÃ"), (0xCF, "¤ðÐÊËÈıÍÎÏ"),
  (0xDD, "¦Ì▀ÓßÔÒõÕµþÞÚÛÙýÝ¯´\u00ad±‗¾¶§÷¸°¨·¹³")]

/-- Arabic letters. -/
def cp720 : CodeTable := cp437.amend [
  (0x80, "\u0080\u0081éâ\u0084à\u0086"),
  (0x8D, "\u008d\u008e\u008f\u0090\u0651\u0652ô¤ـûùءآأؤ£إئابةتثجحخدذرزسشص"),
  (0xE0, "ضطظعغفµقكلمنهوىي≡\u064b\u064c\u064d\u064e\u064f\u0650")]

/-- Greek letters. -/
def cp737 : CodeTable := cp437.amend [
  (0x80, "ΑΒΓΔΕΖΗΘΙΚΛΜΝΞΟΠΡΣΤΥΦΧΨΩαβγδεζηθικλμνξοπρσςτυφχψ"), (0xE0, "ωάέήϊίόύϋώΆΈΉΊΌΎΏ"),
  (0xF4, "ΪΫ")]

/-- Baltic letters. -/
def cp775 : CodeTable := ⟨[
  (0x80, "ĆüéāäģåćłēŖŗīŹÄÅÉæÆōöĢ¢ŚśÖÜø£Ø×¤ĀĪóŻżź”¦©®¬½¼Ł«»░▒▓│┤ĄČĘĖ╣║╗╝ĮŠ┐"),
  (0xC0, "└┴┬├─┼ŲŪ╚╔╩╦╠═╬Žąčęėįšųūž┘┌█▄▌▐▀ÓßŌŃõÕµńĶķĻļņĒŅ’\u00ad±“¾¶§÷„°∙·¹³²■\u00a0")]⟩

/-- Central European letters. -/
def cp852 : CodeTable := ⟨[
  (0x80, "ÇüéâäůćçłëŐőîŹÄĆÉĹĺôöĽľŚśÖÜŤťŁ×čáíóúĄąŽžĘę¬źČş«»░▒▓│┤ÁÂĚŞ╣║╗╝Żż┐"),
  (0xC0, "└┴┬├─┼Ăă╚╔╩╦╠═╬¤đĐĎËďŇÍÎě┘┌█▄ŢŮ▀ÓßÔŃńňŠšŔÚŕŰýÝţ´\u00ad˝˛ˇ˘§÷¸°¨˙űŘř■\u00a0")]⟩

/-- Cyrillic letters. -/
def cp855 : CodeTable := ⟨[
  (0x80, "ђЂѓЃёЁєЄѕЅіІїЇјЈљЉњЊћЋќЌўЎџЏюЮъЪаАбБцЦдДеЕфФгГ«»░▒▓│┤хХиИ╣║╗╝йЙ┐"),
  (0xC0, "└┴┬├─┼кК╚╔╩╦╠═╬¤лЛмМнНоОп┘┌█▄Пя▀ЯрРсСтТуУжЖвВьЬ№\u00adыЫзЗшШэЭщЩчЧ§■\u00a0")]⟩

/-- Hebrew letters. -/
def cp856 : CodeTable := cp850.amend [
  (0x80, "אבגדהוזחטיךכלםמןנסעףפץצקרשת\ufffd£\ufffd×\ufffd"),
  (0xA0, "\ufffd\ufffd\ufffd\ufffd\ufffd\ufffd\ufffd\ufffd\ufffd"), (0xAD, "\ufffd"),
  (0xB5, "\ufffd\ufffd\ufffd"), (0xC6, "\ufffd\ufffd"),
  (0xD0, "\ufffd\ufffd\ufffd\ufffd\ufffd\ufffd\ufffd\ufffd\ufffd"), (0xDE, "\ufffd▀"),
  (0xE0, "\ufffd\ufffd\ufffd\ufffd\ufffd\ufffdµ\ufffd\ufffd\ufffd\ufffd\ufffd\ufffd"),
  (0xED, "\ufffd")]

/-- Turkish letters. -/
def cp857 : CodeTable := cp850.amend [
  (0x8D, "ı"), (0x98, "İ"), (0x9E, "Şş"), (0xA6, "Ğğ"), (0xD0, "ºª"), (0xD5, "\ufffd"),
  (0xE7, "\ufffd×"), (0xEC, "ìÿ"), (0xF2, "\ufffd")]

/-- The sign of the euro. -/
def cp858 : CodeTable := cp850.amend [(0xD5, "€")]

/-- Portuguese letters. -/
def cp860 : CodeTable := cp437.amend [(0x84, "ãàÁçêÊèÍÔìÃÂÉÀÈôõòÚùÌÕ"), (0x9D, "Ù₧Ó"), (0xA9, "Ò")]

/-- Icelandic letters. -/
def cp861 : CodeTable := cp437.amend [(0x8B, "ÐðÞ"), (0x95, "þûÝýÖÜø£Ø"), (0xA4, "ÁÍÓÚ")]

/-- Hebrew letters. -/
def cp862 : CodeTable := cp437.amend [(0x80, "אבגדהוזחטיךכלםמןנסעףפץצקרשת")]

/-- French letters. -/
def cp863 : CodeTable := cp437.amend [
  (0x84, "Âà¶"), (0x8D, "‗À§ÉÈÊôËÏûù¤Ô"), (0x9D, "ÙÛƒ¦´óú¨¸³¯Î"), (0xAD, "¾")]

/-- Arabic letters in the forms that they take within a word. -/
def cp864 : CodeTable := ⟨[
  (0x25, "٪"), (0x80, "°·∙√▒─│┼┤┬├┴┐┌└┘β∞φ±½¼≈«»ﻷﻸ\ufffd\ufffdﻻﻼ\ufffd"),
  (0xA0, "\u00a0\u00adﺂ£¤ﺄ\ufffd\ufffdﺎﺏﺕﺙ،ﺝﺡﺥ٠١٢٣٤٥٦٧٨٩ﻑ؛ﺱﺵﺹ؟¢ﺀﺁﺃﺅﻊﺋﺍﺑﺓﺗﺛﺟﺣﺧﺩ"),
  (0xD0, "ﺫﺭﺯﺳﺷﺻﺿﻁﻅﻋﻏ¦¬÷×ﻉـﻓﻗﻛﻟﻣﻧﻫﻭﻯﻳﺽﻌﻎﻍﻡﹽ\u0651ﻥﻩﻬﻰﻲﻐﻕﻵﻶﻝﻙﻱ■\ufffd")]⟩

/-- Nordic letters. -/
def cp865 : CodeTable := cp437.amend [(0x9B, "ø£Ø"), (0xAF, "¤")]

/-- Cyrillic letters. -/
def cp866 : CodeTable := cp437.amend [
  (0x80, "АБВГДЕЖЗИЙКЛМНОПРСТУФХЦЧШЩЪЫЬЭЮЯабвгдежзийклмноп"),
  (0xE0, "рстуфхцчшщъыьэюяЁёЄєЇїЎў"), (0xFC, "№¤")]

/-- Greek letters. -/
def cp869 : CodeTable := ⟨[
  (0x80, "\ufffd\ufffd\ufffd\ufffd\ufffd\ufffdΆ\ufffd·¬¦‘’Έ―ΉΊΪΌ\ufffd\ufffdΎΫ©Ώ²³ά£έήί"),
  (0xA0, "ϊΐόύΑΒΓΔΕΖΗ½ΘΙ«»░▒▓│┤ΚΛΜΝ╣║╗╝ΞΟ┐└┴┬├─┼ΠΡ╚╔╩╦╠═╬ΣΤΥΦΧΨΩαβγ┘┌█▄δε▀"),
  (0xE0, "ζηθικλμνξοπρσςτ΄\u00ad±υφχ§ψ΅°¨ωϋΰώ■\u00a0")]⟩

/-- Ukrainian letters. -/
def cp1125 : CodeTable := cp866.amend [(0xF2, "ҐґЄєІіЇї")]

/-- The code pages of text screens. -/
def dos : List Charset := [
  ⟨"cp437", ["437", "cspc8codepage437", "ibm437"], cp437.decodeBytes⟩,
  ⟨"cp850", ["850", "cspc850multilingual", "ibm850"], cp850.decodeBytes⟩,
  ⟨"cp720", [], cp720.decodeBytes⟩,
  ⟨"cp737", [], cp737.decodeBytes⟩,
  ⟨"cp775", ["775", "cspc775baltic", "ibm775"], cp775.decodeBytes⟩,
  ⟨"cp852", ["852", "cspcp852", "ibm852"], cp852.decodeBytes⟩,
  ⟨"cp855", ["855", "csibm855", "ibm855"], cp855.decodeBytes⟩,
  ⟨"cp856", [], cp856.decodeBytes⟩,
  ⟨"cp857", ["857", "csibm857", "ibm857"], cp857.decodeBytes⟩,
  ⟨"cp858", ["858", "csibm858", "ibm858"], cp858.decodeBytes⟩,
  ⟨"cp860", ["860", "csibm860", "ibm860"], cp860.decodeBytes⟩,
  ⟨"cp861", ["861", "cp_is", "csibm861", "ibm861"], cp861.decodeBytes⟩,
  ⟨"cp862", ["862", "cspc862latinhebrew", "ibm862"], cp862.decodeBytes⟩,
  ⟨"cp863", ["863", "csibm863", "ibm863"], cp863.decodeBytes⟩,
  ⟨"cp864", ["864", "csibm864", "ibm864"], cp864.decodeBytes⟩,
  ⟨"cp865", ["865", "csibm865", "ibm865"], cp865.decodeBytes⟩,
  ⟨"cp866", ["866", "csibm866", "ibm866"], cp866.decodeBytes⟩,
  ⟨"cp869", ["869", "cp_gr", "csibm869", "ibm869"], cp869.decodeBytes⟩,
  ⟨"cp1125", ["1125", "cp866u", "ibm1125", "ruscii"], cp1125.decodeBytes⟩]

end TraceLens.CodePage
