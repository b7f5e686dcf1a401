import NumberingPlan.Text.Charset

/-! The charsets of single bytes, and the names that they are called by. -/
namespace NumberingPlan.Text

namespace Charset

/-- ASCII with a tilde that never stands alone, for it begins an escape. -/
def hz : Charset := .single [(0x7E, "\ufffd"), (0x80, gap 128)]

/-! ### The parts of ISO 8859 -/

def latin2 : Changes :=
  [(0xA1, "Ą˘Ł¤ĽŚ§¨ŠŞŤŹ\xadŽŻ°ą˛ł´ľśˇ¸šşťź˝žżŔÁÂĂÄĹĆÇČÉĘËĚÍÎĎĐŃŇÓÔŐÖ×ŘŮÚŰÜÝŢß"),
    (0xE0, "ŕáâăäĺćçčéęëěíîďđńňóôőö÷řůúűüýţ˙")]

def latin3 : Changes :=
  [(0xA1, "Ħ˘£¤\ufffdĤ§¨İŞĞĴ\xad\ufffdŻ°ħ²³´µĥ·¸ışğĵ½\ufffdżÀÁÂ\ufffdÄĊĈ"),
    (0xD0, "\ufffdÑÒÓÔĠÖ×ĜÙÚÛÜŬŜßàáâ\ufffdäċĉ"), (0xF0, "\ufffdñòóôġö÷ĝùúûüŭŝ˙")]

def latin4 : Changes :=
  [(0xA1, "ĄĸŖ¤ĨĻ§¨ŠĒĢŦ\xadŽ¯°ą˛ŗ´ĩļˇ¸šēģŧŊžŋĀ"), (0xC7, "ĮČÉĘËĖÍÎĪĐŅŌĶÔÕÖ×ØŲÚÛÜŨŪßā"),
    (0xE7, "įčéęëėíîīđņōķôõö÷øųúûüũū˙")]

def cyrillic : Changes :=
  [(0xA1, run 0x401 12), (0xAD, "\xad"), (0xAE, run 0x40E 66), (0xF0, "№"), (0xF1, run 0x451 12),
    (0xFD, "§ўџ")]

def arabic : Changes :=
  [(0xA1, "\ufffd\ufffd\ufffd¤"), (0xA5, gap 7), (0xAC, "\u060c\xad"), (0xAE, gap 13),
    (0xBB, "\u061b\ufffd\ufffd\ufffd\u061f\ufffd"), (0xC1, run 0x621 26), (0xDB, gap 5),
    (0xE0, run 0x640 19), (0xF3, gap 13)]

def greek : Changes :=
  [(0xA1, "‘’£€₯¦§¨©ͺ«¬\xad\ufffd―°±²³΄΅Ά·ΈΉΊ»Ό½"), (0xBE, run 0x38E 20), (0xD2, "\ufffd"),
    (0xD3, run 0x3A3 44), (0xFF, "\ufffd")]

def hebrew : Changes :=
  [(0xA1, "\ufffd"), (0xAA, "×"), (0xBA, "÷»¼½¾"), (0xBF, gap 32), (0xDF, "‗"),
    (0xE0, run 0x5D0 27), (0xFB, "\ufffd\ufffd\u200e\u200f\ufffd")]

def latin5 : Changes :=
  [(0xD0, "Ğ"), (0xDD, "İŞ"), (0xF0, "ğ"), (0xFD, "ış")]

def latin6 : Changes :=
  [(0xA1, "ĄĒĢĪĨĶ§ĻĐŠŦŽ\xadŪŊ°ąēģīĩķ·ļđšŧž―ūŋĀ"), (0xC7, "ĮČÉĘËĖÍÎÏÐŅŌÓÔÕÖŨØŲ"), (0xE0, "ā"),
    (0xE7, "įčéęëėíîïðņōóôõöũøųúûüýþĸ")]

def thai : Changes :=
  [(0xA1, run 0xE01 58), (0xDB, gap 4), (0xDF, run 0xE3F 29), (0xFC, gap 4)]

def latin7 : Changes :=
  [(0xA1, "”¢£¤„¦§Ø©Ŗ«¬\xad®Æ°±²³“µ¶·ø¹ŗ»¼½¾æĄĮĀĆÄÅĘĒČÉŹĖĢĶĪĻŠŃŅÓŌÕÖ×ŲŁŚŪÜŻŽß"),
    (0xE0, "ąįāćäåęēčéźėģķīļšńņóōõö÷ųłśūüżž’")]

def latin8 : Changes :=
  [(0xA1, "Ḃḃ£ĊċḊ§Ẁ©ẂḋỲ\xad®ŸḞḟĠġṀṁ¶ṖẁṗẃṠỳẄẅṡ"), (0xD0, "Ŵ"), (0xD7, "Ṫ"), (0xDE, "Ŷ"),
    (0xF0, "ŵ"), (0xF7, "ṫ"), (0xFE, "ŷ")]

def latin9 : Changes :=
  [(0xA4, "€¥Š§š"), (0xB4, "Žµ¶·ž¹º»ŒœŸ")]

def latin10 : Changes :=
  [(0xA1, "ĄąŁ€„Š§š©Ș«Ź\xadźŻ°±ČłŽ”¶·žčș»ŒœŸżÀÁÂĂÄĆ"), (0xD0, "ĐŃÒÓÔŐÖŚŰÙÚÛÜĘȚßàáâăäć"),
    (0xF0, "đńòóôőöśűùúûüęț")]

def tis620 : Changes :=
  [(0xA0, "\ufffd")] ++ thai

/-! ### The code pages of Windows -/

def windows1250 : Changes :=
  [(0x80, "€\ufffd‚\ufffd„…†‡\ufffd‰Š‹ŚŤŽŹ\ufffd‘’“”•–—\ufffd™š›śťžź"),
    (0xA0, "\xa0ˇ˘Ł¤Ą¦§¨©Ş«¬\xad®Ż°±˛ł´µ¶·¸ąş»Ľ˝ľżŔÁÂĂÄĹĆÇČÉĘËĚÍÎĎĐŃŇÓÔŐÖ×ŘŮÚŰÜÝŢß"),
    (0xE0, "ŕáâăäĺćçčéęëěíîďđńňóôőö÷řůúűüýţ˙")]

def windows1251 : Changes :=
  [(0x80, "ЂЃ‚ѓ„…†‡€‰Љ‹ЊЌЋЏђ‘’“”•–—\ufffd™љ›њќћџ\xa0ЎўЈ¤Ґ¦§Ё©Є«¬\xad®Ї"),
    (0xB0, "°±Ііґµ¶·ё№є»јЅѕї"), (0xC0, run 0x410 64)]

def windows1252 : Changes :=
  [(0x80, "€\ufffd‚ƒ„…†‡ˆ‰Š‹Œ\ufffdŽ\ufffd\ufffd‘’“”•–—˜™š›œ\ufffdžŸ")]

def windows1253 : Changes :=
  [(0x80, "€\ufffd‚ƒ„…†‡\ufffd‰\ufffd‹"), (0x8C, gap 5), (0x91, "‘’“”•–—\ufffd™\ufffd›"),
    (0x9C, gap 4), (0xA0, "\xa0΅Ά"), (0xAA, "\ufffd«¬\xad®―°±²³΄µ¶·ΈΉΊ»Ό½"), (0xBE, run 0x38E 20),
    (0xD2, "\ufffd"), (0xD3, run 0x3A3 44), (0xFF, "\ufffd")]

def windows1254 : Changes :=
  [(0x80, "€\ufffd‚ƒ„…†‡ˆ‰Š‹Œ"), (0x8D, gap 4), (0x91, "‘’“”•–—˜™š›œ\ufffd\ufffdŸ"), (0xD0, "Ğ"),
    (0xDD, "İŞ"), (0xF0, "ğ"), (0xFD, "ış")]

def windows1255 : Changes :=
  [(0x80, "€\ufffd‚ƒ„…†‡ˆ‰\ufffd‹"), (0x8C, gap 5), (0x91, "‘’“”•–—˜™\ufffd›"), (0x9C, gap 4),
    (0xA0, "\xa0¡¢£₪¥¦§¨©×"), (0xBA, "÷»¼½¾¿"), (0xC0, run 0x5B0 10), (0xCA, "\ufffd"),
    (0xCB, run 0x5BB 9), (0xD4, run 0x5F0 5), (0xD9, gap 7), (0xE0, run 0x5D0 27),
    (0xFB, "\ufffd\ufffd\u200e\u200f\ufffd")]

def windows1256 : Changes :=
  [(0x80, "€\u067e‚ƒ„…†‡ˆ‰\u0679‹Œ\u0686\u0698\u0688\u06af‘’“”•–—\u06a9™\u0691›œ\u200c"),
    (0x9E, "\u200d\u06ba\xa0\u060c"), (0xAA, "\u06be"), (0xBA, "\u061b»¼½¾\u061f\u06c1"),
    (0xC1, run 0x621 22), (0xD7, "×"), (0xD8, run 0x637 4), (0xDC, run 0x640 4),
    (0xE0, "à\u0644â"), (0xE3, run 0x645 4), (0xE7, "çèéêë\u0649\u064aîï"), (0xF0, run 0x64B 4),
    (0xF4, "ô\u064f\u0650÷\u0651ù\u0652ûü\u200e\u200f\u06d2")]

def windows1257 : Changes :=
  [(0x80, "€\ufffd‚\ufffd„…†‡\ufffd‰\ufffd‹\ufffd¨ˇ¸\ufffd‘’“”•–—\ufffd™\ufffd›\ufffd¯˛"),
    (0x9F, "\ufffd\xa0\ufffd¢£¤\ufffd¦§Ø©Ŗ«¬\xad®Æ"),
    (0xB8, "ø¹ŗ»¼½¾æĄĮĀĆÄÅĘĒČÉŹĖĢĶĪĻŠŃŅÓŌÕÖ×ŲŁŚŪÜŻŽßąįāćäåęēčéźėģķīļšńņóōõö÷ųłśūüżž˙")]

def windows1258 : Changes :=
  [(0x80, "€\ufffd‚ƒ„…†‡ˆ‰\ufffd‹Œ"), (0x8D, gap 4), (0x91, "‘’“”•–—˜™\ufffd›œ\ufffd\ufffdŸ"),
    (0xC3, "Ă"), (0xCC, "\u0300ÍÎÏĐÑ\u0309ÓÔƠ"), (0xDD, "Ư\u0303ßàáâă"),
    (0xEC, "\u0301íîïđñ\u0323óôơ"), (0xFD, "ư₫")]

def windows874 : Changes :=
  [(0x80, "€"), (0x81, gap 4), (0x85, "…"), (0x86, gap 11), (0x91, "‘’“”•–—"),
    (0x98, gap 8)] ++ thai

/-! ### Charsets beside them -/

def kazakh : Changes :=
  [(0x80, "ЂЃ‚ѓ„…†‡€‰Љ‹ЊҚҺЏђ‘’“”•–—\ufffd™љ›њқһџ\xa0ҰұӘ¤Ө¦§Ё©Ғ«¬\xad®Ү"),
    (0xB0, "°±Ііөµ¶·ё№ғ»әҢңү"), (0xC0, run 0x410 64)]

def asianCyrillic : Changes :=
  [(0x80, "ҖҒӮғ„…ҶҮҲүҠӢҢҚҺҸҗ‘’“”•–—ҳҷҡӣңқһҹ\xa0ЎўЈӨҘҰ§Ё©Ә«¬ӯ®Ҝ°ұІіҙө¶·ё№ә»јҪҫҝ"),
    (0xC0, run 0x410 64)]

def palmOs : Changes :=
  [(0x80, "€\x81‚ƒ„…†‡ˆ‰Š‹Œ♦♣♥♠‘’“”•–—˜™š\x9bœ\x9d\x9eŸ")]

def roman8 : Changes :=
  [(0xA1, "ÀÂÈÊËÎÏ´ˋˆ¨˜ÙÛ₤¯Ýý°ÇçÑñ¡¿¤£¥§ƒ¢âêôûáéóúàèòùäëöüÅîØÆåíøæÄìÖÜÉïßÔ"),
    (0xE0, "ÁÃãÐðÍÌÓÒÕõŠšÚŸÿÞþ·µ¶¾—¼½ªº«■»±\ufffd")]

def koi8r : Changes :=
  [(0x80, "─│┌┐└┘├┤┬┴┼▀▄█▌▐░▒▓⌠■∙√≈≤≥\xa0⌡°²·÷═║╒ё"), (0xA4, run 0x2553 15),
    (0xB3, "Ё╢╣╤╥╦╧╨╩╪╫╬©юабцдефгхийклмнопярстужвьызшэщчъЮАБЦДЕФГХИЙКЛМНО"),
    (0xF0, "ПЯРСТУЖВЬЫЗШЭЩЧЪ")]

def koi8u : Changes :=
  [(0xA4, "є╔ії╗╘╙╚╛ґ"), (0xB4, "Є╣ІЇ╦╧╨╩╪Ґ")] ++ koi8r

def koi8t : Changes :=
  [(0x80, "қғ‚Ғ„…†‡\ufffd‰ҳ‹ҲҷҶ\ufffdҚ‘’“”•–—\ufffd™\ufffd›"), (0x9C, gap 5),
    (0xA1, "ӯӮё¤ӣ¦§\ufffd\ufffd\ufffd«¬\xad®\ufffd°±²Ё\ufffdӢ¶·\ufffd№\ufffd»\ufffd\ufffd"),
    (0xBE, "\ufffd©юабцдефгхийклмнопярстужвьызшэщчъЮАБЦДЕФГХИЙКЛМНОПЯРСТУЖВЬЫЗШЭЩЧЪ")]

/-! ### The charsets of the Macintosh -/

def macRoman : Changes :=
  [(0x80, "ÄÅÇÉÑÖÜáàâäãåçéèêëíìîïñóòôöõúùûü†°¢£§•¶ß®©™´¨≠ÆØ∞±≤≥¥µ∂∑∏π∫ªºΩæø"),
    (0xC0, "¿¡¬√ƒ≈∆«»…\xa0ÀÃÕŒœ–—“”‘’÷◊ÿŸ⁄€‹›ﬁﬂ‡·‚„‰ÂÊÁËÈÍÎÏÌÓÔ\uf8ffÒÚÛÙıˆ˜¯˘˙˚¸˝˛ˇ")]

def macCroatian : Changes :=
  [(0x80, "ÄÅÇÉÑÖÜáàâäãåçéèêëíìîïñóòôöõúùûü†°¢£§•¶ß®Š™´¨≠ŽØ∞±≤≥∆µ∂∑∏š∫ªºΩžø"),
    (0xC0, "¿¡¬√ƒ≈Ć«Č…\xa0ÀÃÕŒœĐ—“”‘’÷◊\uf8ff©⁄€‹›Æ»–·‚„‰ÂćÁčÈÍÎÏÌÓÔđÒÚÛÙıˆ˜¯πË˚¸Êæˇ")]

def macIceland : Changes :=
  [(0xA0, "Ý"), (0xDC, "ÐðÞþý")] ++ macRoman

def macRomanian : Changes :=
  [(0xAE, "ĂȘ"), (0xBE, "ăș"), (0xDE, "Țț")] ++ macRoman

def macTurkish : Changes :=
  [(0xDA, "ĞğİıŞş"), (0xF5, "\uf8a0")] ++ macRoman

def macLatin2 : Changes :=
  [(0x80, "ÄĀāÉĄÖÜáąČäčĆćéŹźĎíďĒēĖóėôöõúĚěü†°Ę£§•¶ß®©™ę¨≠ģĮįĪ≤≥īĶ∂∑łĻļĽľĹĺŅ"),
    (0xC0, "ņŃ¬√ńŇ∆«»…\xa0ňŐÕőŌ–—“”‘’÷◊ōŔŕŘ‹›řŖŗŠ‚„šŚśÁŤťÍŽžŪÓÔūŮÚůŰűŲųÝýķŻŁżĢˇ")]

def macGreek : Changes :=
  [(0x80, "Ä¹²É³ÖÜ΅àâä΄¨çéèêë£™îï•½‰ôö¦€ùûü†ΓΔΘΛΞΠß®©ΣΪ§≠°·Α±≤≥¥ΒΕΖΗΙΚΜΦΫΨΩ"),
    (0xC0, "άΝ¬ΟΡ≈Τ«»…\xa0ΥΧΆΈœ–―“”‘’÷ΉΊΌΎέήίόΏύαβψδεφγηιξκλμνοπώρστθωςχυζϊϋΐΰ\xad")]

def macCyrillic : Changes :=
  [(0x80, run 0x410 32),
    (0xA0, "†°Ґ£§•¶І®©™Ђђ≠Ѓѓ∞±≤≥іµґЈЄєЇїЉљЊњјЅ¬√ƒ≈∆«»…\xa0ЋћЌќѕ–—“”‘’÷„ЎўЏџ№Ёёя"),
    (0xE0, run 0x430 31), (0xFF, "€")]

/-! ### The code pages of DOS -/

def page437 : Changes :=
  [(0x80, "ÇüéâäàåçêëèïîìÄÅÉæÆôöòûùÿÖÜ¢£¥₧ƒáíóúñÑªº¿⌐¬½¼¡«»░▒▓│┤╡╢╖╕╣║╗╝╜╛┐"),
    (0xC0, "└┴┬├─┼╞╟╚╔╩╦╠═╬╧╨╤╥╙╘╒╓╫╪┘┌█▄▌▐▀αßΓπΣσµτΦΘΩδ∞φε∩≡±≥≤⌠⌡÷≈°∙·√ⁿ²■\xa0")]

def page860 : Changes :=
  [(0x84, "ãàÁçêÊèÍÔìÃÂÉÀÈôõòÚùÌÕÜ¢£Ù₧Ó"), (0xA9, "Ò")] ++ page437

def page861 : Changes :=
  [(0x8B, "ÐðÞ"), (0x95, "þûÝýÖÜø£Ø"), (0xA4, "ÁÍÓÚ")] ++ page437

def page863 : Changes :=
  [(0x84, "Âà¶çêëèïî‗À§ÉÈÊôËÏûù¤ÔÜ¢£ÙÛƒ¦´óú¨¸³¯Î⌐¬½¼¾")] ++ page860

def page865 : Changes :=
  [(0x9B, "ø£Ø"), (0xAF, "¤")] ++ page437

def page850 : Changes :=
  [(0x80, "ÇüéâäàåçêëèïîìÄÅÉæÆôöòûùÿÖÜø£Ø×ƒáíóúñÑªº¿®¬½¼¡«»░▒▓│┤ÁÂÀ©╣║╗╝¢¥┐"),
    (0xC0, "└┴┬├─┼ãÃ╚╔╩╦╠═╬¤ðÐÊËÈıÍÎÏ┘┌█▄¦Ì▀ÓßÔÒõÕµþÞÚÛÙýÝ¯´\xad±‗¾¶§÷¸°¨·¹³²■\xa0")]

def page857 : Changes :=
  [(0x80, "ÇüéâäàåçêëèïîıÄÅÉæÆôöòûùİÖÜø£ØŞşáíóúñÑĞğ¿®¬½¼¡«»░▒▓│┤ÁÂÀ©╣║╗╝¢¥┐"),
    (0xC0, "└┴┬├─┼ãÃ╚╔╩╦╠═╬¤ºªÊËÈ\ufffdÍÎÏ┘┌█▄¦Ì▀ÓßÔÒõÕµ\ufffd×ÚÛÙìÿ¯´"),
    (0xF0, "\xad±\ufffd¾¶§÷¸°¨·¹³²■\xa0")]

def page858 : Changes :=
  [(0xD5, "€")] ++ page850

def page852 : Changes :=
  [(0x80, "ÇüéâäůćçłëŐőîŹÄĆÉĹĺôöĽľŚśÖÜŤťŁ×čáíóúĄąŽžĘę¬źČş«»░▒▓│┤ÁÂĚŞ╣║╗╝Żż┐"),
    (0xC0, "└┴┬├─┼Ăă╚╔╩╦╠═╬¤đĐĎËďŇÍÎě┘┌█▄ŢŮ▀ÓßÔŃńňŠšŔÚŕŰýÝţ´\xad˝˛ˇ˘§÷¸°¨˙űŘř■\xa0")]

def page775 : Changes :=
  [(0x80, "ĆüéāäģåćłēŖŗīŹÄÅÉæÆōöĢ¢ŚśÖÜø£Ø×¤ĀĪóŻżź”¦©®¬½¼Ł«»░▒▓│┤ĄČĘĖ╣║╗╝ĮŠ┐"),
    (0xC0, "└┴┬├─┼ŲŪ╚╔╩╦╠═╬Žąčęėįšųūž┘┌█▄▌▐▀ÓßŌŃõÕµńĶķĻļņĒŅ’\xad±“¾¶§÷„°∙·¹³²■\xa0")]

def page720 : Changes :=
  [(0x82, "éâ\x84à\x86çêëèïî\x8d\x8e\x8f\x90\u0651\u0652ô¤\u0640ûù"), (0x98, run 0x621 4),
    (0x9C, "£"), (0x9D, run 0x625 17),
    (0xAE, "«»░▒▓│┤╡╢╖╕╣║╗╝╜╛┐└┴┬├─┼╞╟╚╔╩╦╠═╬╧╨╤╥╙╘╒╓╫╪┘┌█▄▌▐▀"), (0xE0, run 0x636 5),
    (0xE5, "\u0641µ"), (0xE7, run 0x642 9), (0xF0, "≡"), (0xF1, run 0x64B 6),
    (0xF7, "≈°∙·√ⁿ²■\xa0")]

def page737 : Changes :=
  [(0x80, run 0x391 17), (0x91, "ΣΤΥΦΧΨΩ"), (0x98, run 0x3B1 17),
    (0xA9, "σςτυφχψ░▒▓│┤╡╢╖╕╣║╗╝╜╛┐└┴┬├─┼╞╟╚╔╩╦╠═╬╧╨╤╥╙╘╒╓╫╪┘┌█▄▌▐▀ωάέήϊίόύϋώΆΈΉΊΌΎ"),
    (0xF0, "Ώ±≥≤ΪΫ÷≈°∙·√ⁿ²■\xa0")]

def page869 : Changes :=
  [(0x80, gap 6), (0x86, "Ά\ufffd·¬¦‘’Έ―ΉΊΪΌ\ufffd\ufffdΎΫ©Ώ²³ά£έήίϊΐόύΑΒΓΔΕΖΗ½ΘΙ«»"),
    (0xB0, "░▒▓│┤ΚΛΜΝ╣║╗╝ΞΟ┐└┴┬├─┼ΠΡ╚╔╩╦╠═╬ΣΤΥΦΧΨΩαβγ┘┌█▄δε▀"), (0xE0, run 0x3B6 12),
    (0xEC, "σςτ΄\xad±υφχ§ψ΅°¨ωϋΰώ■\xa0")]

def page855 : Changes :=
  [(0x80, "ђЂѓЃёЁєЄѕЅіІїЇјЈљЉњЊћЋќЌўЎџЏюЮъЪаАбБцЦдДеЕфФгГ«»░▒▓│┤хХиИ╣║╗╝йЙ┐"),
    (0xC0, "└┴┬├─┼кК╚╔╩╦╠═╬¤лЛмМнНоОп┘┌█▄Пя▀ЯрРсСтТуУжЖвВьЬ№\xadыЫзЗшШэЭщЩчЧ§■\xa0")]

def page866 : Changes :=
  [(0x80, run 0x410 48), (0xB0, "░▒▓│┤╡╢╖╕╣║╗╝╜╛┐└┴┬├─┼╞╟╚╔╩╦╠═╬╧╨╤╥╙╘╒╓╫╪┘┌█▄▌▐▀"),
    (0xE0, run 0x440 16), (0xF0, "ЁёЄєЇїЎў°∙·√№¤■\xa0")]

def page1125 : Changes :=
  [(0xF2, "ҐґЄєІіЇї")] ++ page866

def page856 : Changes :=
  [(0x80, run 0x5D0 27), (0x9B, "\ufffd£\ufffd×"), (0x9F, gap 10),
    (0xA9, "®¬½¼\ufffd«»░▒▓│┤\ufffd\ufffd\ufffd©╣║╗╝¢¥┐└┴┬├─┼\ufffd\ufffd╚╔╩╦╠═╬¤"), (0xD0, gap 9),
    (0xD9, "┘┌█▄¦\ufffd▀"), (0xE0, gap 6), (0xE6, "µ"), (0xE7, gap 7),
    (0xEE, "¯´\xad±‗¾¶§÷¸°¨·¹³²■\xa0")]

def page862 : Changes :=
  [(0x80, run 0x5D0 27)] ++ page437

def page1006 : Changes :=
  [(0xA1, "\u06f0\u06f1\u06f2\u06f3\u06f4\u06f5\u06f6\u06f7\u06f8\u06f9\u060c\u061b\xad"),
    (0xAE, "\u061f\ufe81\ufe8d\ufe8e\ufe8e\ufe8f\ufe91\ufb56\ufb58\ufe93\ufe95\ufe97\ufb66"),
    (0xBB, "\ufb68\ufe99\ufe9b\ufe9d\ufe9f\ufb7a\ufb7c\ufea1\ufea3\ufea5\ufea7\ufea9\ufb84"),
    (0xC8, "\ufeab\ufead\ufb8c\ufeaf\ufb8a\ufeb1\ufeb3\ufeb5\ufeb7\ufeb9\ufebb\ufebd\ufebf"),
    (0xD5, "\ufec1\ufec5"), (0xD7, run 0xFEC9 9),
    (0xE0, "\ufed3\ufed5\ufed7\ufed9\ufedb\ufb92\ufb94\ufedd\ufedf\ufee0\ufee1\ufee3\ufb9e"),
    (0xED, "\ufee5\ufee7\ufe85\ufeed\ufba6\ufba8\ufba9\ufbaa\ufe80\ufe89\ufe8a\ufe8b\ufef1"),
    (0xFA, "\ufef2\ufef3\ufbb0\ufbae\ufe7c\ufe7d")]

end Charset

/-- What a name stands for: a charset, or something else that bytes are encoded in. -/
inductive Codec where
  | charset (charset : Charset)
  | rearranged
  | multiByte
  | binary
  | failing (cause : String)
  | strictAscii
  deriving DecidableEq, Repr

namespace Codec

open Charset

/-- The charsets under the names of their codecs, each before its other names. The codecs of UTF-8
and the Japanese ones are here with what a byte stands for in them by itself. -/
def charsets : List (Charset × List String) :=
  [(ascii, ["utf_8", "cp65001", "u8", "utf", "utf8", "utf8_ucs2", "utf8_ucs4"]),
    (ascii, ["utf_8_sig"]),
    (ascii, ["ascii", "ansi_x3.4_1968", "ansi_x3.4_1986", "ansi_x3_4_1968", "cp367", "csascii",
      "ibm367", "iso646_us", "iso_646.irv_1991", "iso_ir_6", "us", "us_ascii"]),
    (ascii, ["iso2022_jp", "csiso2022jp", "iso2022jp", "iso_2022_jp"]),
    (ascii, ["iso2022_jp_1", "iso2022jp_1", "iso_2022_jp_1"]),
    (ascii, ["iso2022_jp_2", "iso2022jp_2", "iso_2022_jp_2"]),
    (ascii, ["iso2022_jp_2004", "iso2022jp_2004", "iso_2022_jp_2004"]),
    (ascii, ["iso2022_jp_3", "iso2022jp_3", "iso_2022_jp_3"]),
    (ascii, ["iso2022_jp_ext", "iso2022jp_ext", "iso_2022_jp_ext"]),
    (hz, ["hz", "hz_gb", "hz_gb_2312", "hzgb"]),
    (latin1, ["latin_1", "cp819", "csisolatin1", "ibm819", "iso8859", "iso8859_1", "iso_8859_1",
      "iso_8859_1_1987", "iso_ir_100", "l1", "latin", "latin1"]),
    (latin1, ["iso8859_1"]),
    (latin1, ["charmap"]),
    (latin1, ["raw_unicode_escape"]),
    (latin1, ["unicode_escape"]),
    (single latin2, ["iso8859_2", "csisolatin2", "iso_8859_2", "iso_8859_2_1987", "iso_ir_101",
      "l2", "latin2"]),
    (single latin3, ["iso8859_3", "csisolatin3", "iso_8859_3", "iso_8859_3_1988", "iso_ir_109",
      "l3", "latin3"]),
    (single latin4, ["iso8859_4", "csisolatin4", "iso_8859_4", "iso_8859_4_1988", "iso_ir_110",
      "l4", "latin4"]),
    (single cyrillic, ["iso8859_5", "csisolatincyrillic", "cyrillic", "iso_8859_5",
      "iso_8859_5_1988", "iso_ir_144"]),
    (single arabic, ["iso8859_6", "arabic", "asmo_708", "csisolatinarabic", "ecma_114",
      "iso_8859_6", "iso_8859_6_1987", "iso_ir_127"]),
    (single greek, ["iso8859_7", "csisolatingreek", "ecma_118", "elot_928", "greek", "greek8",
      "iso_8859_7", "iso_8859_7_1987", "iso_ir_126"]),
    (single hebrew, ["iso8859_8", "csisolatinhebrew", "hebrew", "iso_8859_8", "iso_8859_8_1988",
      "iso_ir_138"]),
    (single latin5, ["iso8859_9", "csisolatin5", "iso_8859_9", "iso_8859_9_1989", "iso_ir_148",
      "l5", "latin5"]),
    (single latin6, ["iso8859_10", "csisolatin6", "iso_8859_10", "iso_8859_10_1992", "iso_ir_157",
      "l6", "latin6"]),
    (single thai, ["iso8859_11", "iso_8859_11", "iso_8859_11_2001", "thai"]),
    (single latin7, ["iso8859_13", "iso_8859_13", "l7", "latin7"]),
    (single latin8, ["iso8859_14", "iso_8859_14", "iso_8859_14_1998", "iso_celtic", "iso_ir_199",
      "l8", "latin8"]),
    (single latin9, ["iso8859_15", "iso_8859_15", "l9", "latin9"]),
    (single latin10, ["iso8859_16", "iso_8859_16", "iso_8859_16_2001", "iso_ir_226", "l10",
      "latin10"]),
    (single tis620, ["tis_620", "iso_ir_166", "tis620", "tis_620_0", "tis_620_2529_0",
      "tis_620_2529_1"]),
    (single windows1250, ["cp1250", "windows_1250"]),
    (single windows1251, ["cp1251", "windows_1251"]),
    (single windows1252, ["cp1252", "windows_1252"]),
    (single windows1253, ["cp1253", "windows_1253"]),
    (single windows1254, ["cp1254", "windows_1254"]),
    (single windows1255, ["cp1255", "windows_1255"]),
    (single windows1256, ["cp1256", "windows_1256"]),
    (single windows1257, ["cp1257", "windows_1257"]),
    (single windows1258, ["cp1258", "windows_1258"]),
    (single windows874, ["cp874"]),
    (single kazakh, ["kz1048", "kz_1048", "rk1048", "strk1048_2002"]),
    (single asianCyrillic, ["ptcp154", "cp154", "csptcp154", "cyrillic_asian", "pt154"]),
    (single palmOs, ["palmos"]),
    (single roman8, ["hp_roman8", "cp1051", "ibm1051", "r8", "roman8"]),
    (single koi8r, ["koi8_r", "cskoi8r"]),
    (single koi8u, ["koi8_u"]),
    (single koi8t, ["koi8_t"]),
    (single macRoman, ["mac_roman", "macintosh", "macroman"]),
    (single macCroatian, ["mac_croatian"]),
    (single macIceland, ["mac_iceland", "maciceland"]),
    (single macRomanian, ["mac_romanian"]),
    (single macTurkish, ["mac_turkish", "macturkish"]),
    (single macLatin2, ["mac_latin2", "mac_centeuro", "maccentraleurope", "maclatin2"]),
    (single macGreek, ["mac_greek", "macgreek"]),
    (single macCyrillic, ["mac_cyrillic", "maccyrillic"]),
    (single page437, ["cp437", "cspc8codepage437", "ibm437"]),
    (single page860, ["cp860", "csibm860", "ibm860"]),
    (single page861, ["cp861", "cp_is", "csibm861", "ibm861"]),
    (single page863, ["cp863", "csibm863", "ibm863"]),
    (single page865, ["cp865", "csibm865", "ibm865"]),
    (single page850, ["cp850", "cspc850multilingual", "ibm850"]),
    (single page857, ["cp857", "csibm857", "ibm857"]),
    (single page858, ["cp858", "csibm858", "ibm858"]),
    (single page852, ["cp852", "cspcp852", "ibm852"]),
    (single page775, ["cp775", "cspc775baltic", "ibm775"]),
    (single page720, ["cp720"]),
    (single page737, ["cp737"]),
    (single page869, ["cp869", "cp_gr", "csibm869", "ibm869"]),
    (single page855, ["cp855", "csibm855", "ibm855"]),
    (single page866, ["cp866", "csibm866", "ibm866"]),
    (single page1125, ["cp1125", "cp866u", "ibm1125", "ruscii"]),
    (single page856, ["cp856"]),
    (single page862, ["cp862", "cspc862latinhebrew", "ibm862"]),
    (single page1006, ["cp1006"])]

/-- Codecs in which markup is made of other bytes than in ASCII. -/
def rearrangedNames : List (List String) :=
  [["cp037", "csibm037", "ebcdic_cp_ca", "ebcdic_cp_nl", "ebcdic_cp_us", "ebcdic_cp_wt", "ibm037",
    "ibm039"], ["cp1026", "csibm1026", "ibm1026"], ["cp1140", "ibm1140"], ["cp273", "csibm273",
    "ibm273"], ["cp424", "csibm424", "ebcdic_cp_he", "ibm424"], ["cp500", "csibm500",
    "ebcdic_cp_be", "ebcdic_cp_ch", "ibm500"], ["cp864", "csibm864", "ibm864"], ["cp875"],
    ["mac_arabic"], ["mac_farsi"]]

/-- Codecs in which some characters take several bytes. -/
def multiByteNames : List (List String) :=
  [["big5", "big5_tw", "csbig5", "x_mac_trad_chinese"], ["big5hkscs", "big5_hkscs", "hkscs"],
    ["cp932", "ms932", "ms_kanji", "mskanji"], ["cp949", "ms949", "uhc"], ["cp950", "ms950"],
    ["euc_jis_2004", "euc_jis2004", "eucjis2004", "jisx0213"], ["euc_jisx0213", "eucjisx0213"],
    ["euc_jp", "eucjp", "u_jis", "ujis"], ["euc_kr", "euckr", "korean", "ks_c_5601",
    "ks_c_5601_1987", "ks_x_1001", "ksc5601", "ksx1001", "x_mac_korean"], ["gb18030",
    "gb18030_2000"], ["gb2312", "chinese", "csiso58gb231280", "euc_cn", "euccn", "eucgb2312_cn",
    "gb2312_1980", "gb2312_80", "iso_ir_58", "x_mac_simp_chinese"], ["gbk", "cp936", "ms936"],
    ["iso2022_kr", "csiso2022kr", "iso2022kr", "iso_2022_kr"], ["johab", "cp1361", "ms1361"],
    ["shift_jis", "csshiftjis", "s_jis", "shiftjis", "sjis", "x_mac_japanese"], ["shift_jis_2004",
    "s_jis_2004", "shiftjis2004", "sjis_2004"], ["shift_jisx0213", "s_jisx0213", "shiftjisx0213",
    "sjisx0213"], ["utf_16", "u16", "utf16"], ["utf_16_be", "unicodebigunmarked", "utf_16be"],
    ["utf_16_le", "unicodelittleunmarked", "utf_16le"], ["utf_32", "u32", "utf32"], ["utf_32_be",
    "utf_32be"], ["utf_32_le", "utf_32le"], ["utf_7", "u7", "unicode_1_1_utf_7", "utf7"]]

/-- Codecs that make no text of bytes. -/
def binaryNames : List (List String) :=
  [["base64_codec", "base64", "base_64"], ["bz2_codec", "bz2"], ["hex_codec", "hex"],
    ["quopri_codec", "quopri", "quoted_printable", "quotedprintable"], ["rot_13", "rot13"],
    ["uu_codec", "uu"], ["zlib_codec", "zip", "zlib"]]

/-- The codecs, each with its names. -/
def all : List (Codec × List String) :=
  charsets.map (fun (known, names) => (charset known, names)) ++
    rearrangedNames.map (rearranged, ·) ++ multiByteNames.map (multiByte, ·) ++
    binaryNames.map (binary, ·) ++
    [(failing "Unsupported error handling replace", ["idna"]),
      (failing "undefined encoding", ["undefined"]), (strictAscii, ["punycode"])]

/-- A name in lower case, with one underscore between its words. -/
def foldName (name : String) : String :=
  let words := name.toList.splitOnP fun c => c == '-' || c == '_'
  String.ofList (['_'].intercalate ((words.filter (!·.isEmpty)).map (·.map Char.toLower)))

/-- The codec that a name stands for. In another name than the codec's own, a dot may stand for an
underscore. -/
def ofName? (name : String) : Option Codec :=
  let folded := foldName name
  let undotted := folded.map fun c => if c == '.' then '_' else c
  let entry := all.find? fun (_, names) => names.contains folded || names.tail.contains undotted
  entry.map (·.1)

end Codec

end NumberingPlan.Text
