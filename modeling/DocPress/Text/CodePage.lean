/-!
Code pages: encodings in which every byte is a character of its own. The bytes below 0x80 are those
of ASCII in all of them; the tables give the characters of the others.
-/

namespace DocPress.Text

inductive CodePage where
  | windows1250
  | windows1251
  | windows1252
  | latin2
  | latinCyrillic
  | latin9
  | koi8
  | ibm437
  | ibm850
  | ibm866
  | macRoman
  deriving DecidableEq, Repr

namespace CodePage

private def charsOf (rows : List String) : List Char := rows.flatMap String.toList

private def controls : List Char := (List.range 32).map fun n => Char.ofNat (0x80 + n)

/-- The characters of the bytes from 0x80 on; U+FFFD where there is none. -/
def upper : CodePage → List Char
  | windows1250 => charsOf [
    "€\ufffd‚\ufffd„…†‡\ufffd‰Š‹ŚŤŽŹ\ufffd‘’“”•–—\ufffd™š›śťžź",
    "\xa0ˇ˘Ł¤Ą¦§¨©Ş«¬\xad®Ż°±˛ł´µ¶·¸ąş»Ľ˝ľż",
    "ŔÁÂĂÄĹĆÇČÉĘËĚÍÎĎĐŃŇÓÔŐÖ×ŘŮÚŰÜÝŢß",
    "ŕáâăäĺćçčéęëěíîďđńňóôőö÷řůúűüýţ˙"]
  | windows1251 => charsOf [
    "ЂЃ‚ѓ„…†‡€‰Љ‹ЊЌЋЏђ‘’“”•–—\ufffd™љ›њќћџ",
    "\xa0ЎўЈ¤Ґ¦§Ё©Є«¬\xad®Ї°±Ііґµ¶·ё№є»јЅѕї",
    "АБВГДЕЖЗИЙКЛМНОПРСТУФХЦЧШЩЪЫЬЭЮЯ",
    "абвгдежзийклмнопрстуфхцчшщъыьэюя"]
  | windows1252 => charsOf [
    "€\ufffd‚ƒ„…†‡ˆ‰Š‹Œ\ufffdŽ\ufffd\ufffd‘’“”•–—˜™š›œ\ufffdžŸ",
    "\xa0¡¢£¤¥¦§¨©ª«¬\xad®¯°±²³´µ¶·¸¹º»¼½¾¿",
    "ÀÁÂÃÄÅÆÇÈÉÊËÌÍÎÏÐÑÒÓÔÕÖ×ØÙÚÛÜÝÞß",
    "àáâãäåæçèéêëìíîïðñòóôõö÷øùúûüýþÿ"]
  | latin2 => controls ++ charsOf [
    "\xa0Ą˘Ł¤ĽŚ§¨ŠŞŤŹ\xadŽŻ°ą˛ł´ľśˇ¸šşťź˝žż",
    "ŔÁÂĂÄĹĆÇČÉĘËĚÍÎĎĐŃŇÓÔŐÖ×ŘŮÚŰÜÝŢß",
    "ŕáâăäĺćçčéęëěíîďđńňóôőö÷řůúűüýţ˙"]
  | latinCyrillic => controls ++ charsOf [
    "\xa0ЁЂЃЄЅІЇЈЉЊЋЌ\xadЎЏАБВГДЕЖЗИЙКЛМНОП",
    "РСТУФХЦЧШЩЪЫЬЭЮЯабвгдежзийклмноп",
    "рстуфхцчшщъыьэюя№ёђѓєѕіїјљњћќ§ўџ"]
  | latin9 => controls ++ charsOf [
    "\xa0¡¢£€¥Š§š©ª«¬\xad®¯°±²³Žµ¶·ž¹º»ŒœŸ¿",
    "ÀÁÂÃÄÅÆÇÈÉÊËÌÍÎÏÐÑÒÓÔÕÖ×ØÙÚÛÜÝÞß",
    "àáâãäåæçèéêëìíîïðñòóôõö÷øùúûüýþÿ"]
  | koi8 => charsOf [
    "─│┌┐└┘├┤┬┴┼▀▄█▌▐░▒▓⌠■∙√≈≤≥\xa0⌡°²·÷",
    "═║╒ё╓╔╕╖╗╘╙╚╛╜╝╞╟╠╡Ё╢╣╤╥╦╧╨╩╪╫╬©",
    "юабцдефгхийклмнопярстужвьызшэщчъ",
    "ЮАБЦДЕФГХИЙКЛМНОПЯРСТУЖВЬЫЗШЭЩЧЪ"]
  | ibm437 => charsOf [
    "ÇüéâäàåçêëèïîìÄÅÉæÆôöòûùÿÖÜ¢£¥₧ƒ",
    "áíóúñÑªº¿⌐¬½¼¡«»░▒▓│┤╡╢╖╕╣║╗╝╜╛┐",
    "└┴┬├─┼╞╟╚╔╩╦╠═╬╧╨╤╥╙╘╒╓╫╪┘┌█▄▌▐▀",
    "αßΓπΣσµτΦΘΩδ∞φε∩≡±≥≤⌠⌡÷≈°∙·√ⁿ²■\xa0"]
  | ibm850 => charsOf [
    "ÇüéâäàåçêëèïîìÄÅÉæÆôöòûùÿÖÜø£Ø×ƒ",
    "áíóúñÑªº¿®¬½¼¡«»░▒▓│┤ÁÂÀ©╣║╗╝¢¥┐",
    "└┴┬├─┼ãÃ╚╔╩╦╠═╬¤ðÐÊËÈıÍÎÏ┘┌█▄¦Ì▀",
    "ÓßÔÒõÕµþÞÚÛÙýÝ¯´\xad±‗¾¶§÷¸°¨·¹³²■\xa0"]
  | ibm866 => charsOf [
    "АБВГДЕЖЗИЙКЛМНОПРСТУФХЦЧШЩЪЫЬЭЮЯ",
    "абвгдежзийклмноп░▒▓│┤╡╢╖╕╣║╗╝╜╛┐",
    "└┴┬├─┼╞╟╚╔╩╦╠═╬╧╨╤╥╙╘╒╓╫╪┘┌█▄▌▐▀",
    "рстуфхцчшщъыьэюяЁёЄєЇїЎў°∙·√№¤■\xa0"]
  | macRoman => charsOf [
    "ÄÅÇÉÑÖÜáàâäãåçéèêëíìîïñóòôöõúùûü",
    "†°¢£§•¶ß®©™´¨≠ÆØ∞±≤≥¥µ∂∑∏π∫ªºΩæø",
    "¿¡¬√ƒ≈∆«»…\xa0ÀÃÕŒœ–—“”‘’÷◊ÿŸ⁄€‹›ﬁﬂ",
    "‡·‚„‰ÂÊÁËÈÍÎÏÌÓÔ\uf8ffÒÚÛÙıˆ˜¯˘˙˚¸˝˛ˇ"]

def names : CodePage → List String
  | windows1250 => ["cp1250","1250","windows_1250"]
  | windows1251 => ["cp1251","1251","windows_1251"]
  | windows1252 => ["cp1252","1252","windows_1252"]
  | latin2 => ["iso8859_2","csisolatin2","iso_8859_2","iso_8859_2_1987","iso_ir_101","l2",
    "latin2"]
  | latinCyrillic => ["iso8859_5","csisolatincyrillic","cyrillic","iso_8859_5",
    "iso_8859_5_1988","iso_ir_144"]
  | latin9 => ["iso8859_15","iso_8859_15","l9","latin9"]
  | koi8 => ["koi8_r","cskoi8r"]
  | ibm437 => ["cp437","437","cspc8codepage437","ibm437"]
  | ibm850 => ["cp850","850","cspc850multilingual","ibm850"]
  | ibm866 => ["cp866","866","csibm866","ibm866"]
  | macRoman => ["mac_roman","macintosh","macroman"]

def all : List CodePage := [
  windows1250,windows1251,windows1252,latin2,latinCyrillic,latin9,koi8,
  ibm437,ibm850,ibm866,macRoman]

def char? (page : CodePage) (b : UInt8) : Option Char :=
  if b < 0x80 then some (Char.ofNat b.toNat)
  else page.upper[b.toNat - 0x80]?.filter (· ≠ '\ufffd')

end CodePage

end DocPress.Text
