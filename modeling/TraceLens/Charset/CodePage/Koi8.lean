import TraceLens.Charset.CodeTable

/-!
# KOI8 and sets of single makers

KOI8 keeps Cyrillic letters where the Latin ones of like sound are. Two more sets of single bytes
stand with it: one of printers, one with Urdu letters in the forms that they take within a word.
-/

namespace TraceLens.CodePage

/-- Russian letters. -/
def koi8R : CodeTable := ⟨[
  (0x80, "─│┌┐└┘├┤┬┴┼▀▄█▌▐░▒▓⌠■∙√≈≤≥\u00a0⌡°²·÷═║╒ё╓╔╕╖╗╘╙╚╛╜╝╞╟╠╡Ё╢╣╤╥╦╧╨╩╪╫╬©"),
  (0xC0, "юабцдефгхийклмнопярстужвьызшэщчъЮАБЦДЕФГХИЙКЛМНОПЯРСТУЖВЬЫЗШЭЩЧЪ")]⟩

/-- Ukrainian letters. -/
def koi8U : CodeTable := koi8R.amend [(0xA4, "є╔ії"), (0xAD, "ґ"), (0xB4, "Є╣ІЇ"), (0xBD, "Ґ")]

/-- Tajik letters. -/
def koi8T : CodeTable := koi8R.amend [
  (0x80, "қғ‚Ғ„…†‡\ufffd‰ҳ‹ҲҷҶ\ufffdҚ‘’“”•–—\ufffd™\ufffd›\ufffd\ufffd\ufffd\ufffd"),
  (0xA0, "\ufffdӯӮё¤ӣ¦§\ufffd\ufffd\ufffd«¬\u00ad®\ufffd"),
  (0xB0, "°±²Ё\ufffdӢ¶·\ufffd№\ufffd»\ufffd\ufffd\ufffd")]

def roman8 : CodeTable := ⟨[
  (0xA1, "ÀÂÈÊËÎÏ´ˋˆ¨˜ÙÛ₤¯Ýý°ÇçÑñ¡¿¤£¥§ƒ¢âêôûáéóúàèòùäëöüÅîØÆåíøæÄìÖÜÉïßÔ"),
  (0xE0, "ÁÃãÐðÍÌÓÒÕõŠšÚŸÿÞþ·µ¶¾—¼½ªº«■»±\ufffd")]⟩

/-- Urdu letters. -/
def cp1006 : CodeTable := ⟨[
  (0xA1, "۰۱۲۳۴۵۶۷۸۹،؛\u00ad؟ﺁﺍﺎﺎﺏﺑﭖﭘﺓﺕﺗﭦﭨﺙﺛﺝﺟﭺﭼﺡﺣﺥﺧﺩﮄﺫﺭﮌﺯﮊﺱﺳﺵﺷﺹﺻﺽﺿﻁﻅﻉﻊﻋﻌﻍﻎﻏﻐﻑ"),
  (0xE0, "ﻓﻕﻗﻙﻛﮒﮔﻝﻟﻠﻡﻣﮞﻥﻧﺅﻭﮦﮨﮩﮪﺀﺉﺊﺋﻱﻲﻳﮰﮮﹼﹽ")]⟩

/-- KOI8, and the sets of single makers. -/
def koi8 : List Charset := [
  ⟨"koi8_r", ["cskoi8r"], koi8R.decodeBytes⟩,
  ⟨"koi8_u", [], koi8U.decodeBytes⟩,
  ⟨"koi8_t", [], koi8T.decodeBytes⟩,
  ⟨"hp_roman8", ["cp1051", "csHPRoman8", "ibm1051", "r8", "roman8"], roman8.decodeBytes⟩,
  ⟨"cp1006", [], cp1006.decodeBytes⟩]

end TraceLens.CodePage
