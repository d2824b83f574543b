/-!
# Code pages

The encodings that give each byte a character of its own, by the names they go by. The lower half of
each is ASCII; the table holds the upper half, in which a replacement character marks a byte without
meaning. Other names are known and refused: encodings in which a character takes several bytes,
encodings whose lower half is not ASCII, and some that are no encodings of characters.
-/

namespace Nullability.Xml

/-- A single-byte encoding: names it is looked up by, names of its own, and the characters of the
bytes from 128 on. -/
structure CodePage where
  aliases : List String
  names : List String
  upper : String

/-- The single-byte encodings. -/
def codePages : List CodePage :=
  [{ aliases := ["cp866u", "ibm1125", "ruscii"],
     names := ["cp1125"],
     upper :=
      "АБВГДЕЖЗИЙКЛМНОПРСТУФХЦЧШЩЪЫЬЭЮЯабвгдежзийклмноп\u2591\u2592\u2593\u2502\u2524\u2561" ++
      "\u2562\u2556\u2555\u2563\u2551\u2557\u255d\u255c\u255b\u2510\u2514\u2534\u252c\u251c" ++
      "\u2500\u253c\u255e\u255f\u255a\u2554\u2569\u2566\u2560\u2550\u256c\u2567\u2568\u2564" ++
      "\u2565\u2559\u2558\u2552\u2553\u256b\u256a\u2518\u250c\u2588\u2584\u258c\u2590\u2580рсту" ++
      "фхцчшщъыьэюяЁёҐґЄєІіЇї·\u221a\u2116¤\u25a0\u00a0" },
   { aliases := ["windows_1250"],
     names := ["cp1250"],
     upper :=
      "\u20ac\uFFFD\u201a\uFFFD\u201e\u2026\u2020\u2021\uFFFD\u2030Š\u2039ŚŤŽŹ\uFFFD\u2018" ++
      "\u2019\u201c\u201d\u2022\u2013\u2014\uFFFD\u2122š\u203aśťžź\u00a0ˇ˘Ł¤Ą¦§¨©Ş«¬\u00ad®Ż°±˛" ++
      "ł´µ¶·¸ąş»Ľ˝ľżŔÁÂĂÄĹĆÇČÉĘËĚÍÎĎĐŃŇÓÔŐÖ×ŘŮÚŰÜÝŢßŕáâăäĺćçčéęëěíîďđńňóôőö÷řůúűüýţ˙" },
   { aliases := ["windows_1251"],
     names := ["cp1251"],
     upper :=
      "ЂЃ\u201aѓ\u201e\u2026\u2020\u2021\u20ac\u2030Љ\u2039ЊЌЋЏђ\u2018\u2019\u201c\u201d\u2022" ++
      "\u2013\u2014\uFFFD\u2122љ\u203aњќћџ\u00a0ЎўЈ¤Ґ¦§Ё©Є«¬\u00ad®Ї°±Ііґµ¶·ё\u2116є»јЅѕїАБВГДЕ" ++
      "ЖЗИЙКЛМНОПРСТУФХЦЧШЩЪЫЬЭЮЯабвгдежзийклмнопрстуфхцчшщъыьэюя" },
   { aliases := ["windows_1252"],
     names := ["cp1252"],
     upper :=
      "\u20ac\uFFFD\u201aƒ\u201e\u2026\u2020\u2021ˆ\u2030Š\u2039Œ\uFFFDŽ\uFFFD\uFFFD\u2018" ++
      "\u2019\u201c\u201d\u2022\u2013\u2014˜\u2122š\u203aœ\uFFFDžŸ\u00a0¡¢£¤¥¦§¨©ª«¬\u00ad®¯°±²" ++
      "³´µ¶·¸¹º»¼½¾¿ÀÁÂÃÄÅÆÇÈÉÊËÌÍÎÏÐÑÒÓÔÕÖ×ØÙÚÛÜÝÞßàáâãäåæçèéêëìíîïðñòóôõö÷øùúûüýþÿ" },
   { aliases := ["windows_1253"],
     names := ["cp1253"],
     upper :=
      "\u20ac\uFFFD\u201aƒ\u201e\u2026\u2020\u2021\uFFFD\u2030\uFFFD\u2039\uFFFD\uFFFD\uFFFD" ++
      "\uFFFD\uFFFD\u2018\u2019\u201c\u201d\u2022\u2013\u2014\uFFFD\u2122\uFFFD\u203a\uFFFD" ++
      "\uFFFD\uFFFD\uFFFD\u00a0΅Ά£¤¥¦§¨©\uFFFD«¬\u00ad®\u2015°±²³΄µ¶·ΈΉΊ»Ό½ΎΏΐΑΒΓΔΕΖΗΘΙΚΛΜΝΞΟΠΡ" ++
      "\uFFFDΣΤΥΦΧΨΩΪΫάέήίΰαβγδεζηθικλμνξοπρςστυφχψωϊϋόύώ\uFFFD" },
   { aliases := ["windows_1254"],
     names := ["cp1254"],
     upper :=
      "\u20ac\uFFFD\u201aƒ\u201e\u2026\u2020\u2021ˆ\u2030Š\u2039Œ\uFFFD\uFFFD\uFFFD\uFFFD\u2018" ++
      "\u2019\u201c\u201d\u2022\u2013\u2014˜\u2122š\u203aœ\uFFFD\uFFFDŸ\u00a0¡¢£¤¥¦§¨©ª«¬\u00ad" ++
      "®¯°±²³´µ¶·¸¹º»¼½¾¿ÀÁÂÃÄÅÆÇÈÉÊËÌÍÎÏĞÑÒÓÔÕÖ×ØÙÚÛÜİŞßàáâãäåæçèéêëìíîïğñòóôõö÷øùúûüışÿ" },
   { aliases := ["windows_1255"],
     names := ["cp1255"],
     upper :=
      "\u20ac\uFFFD\u201aƒ\u201e\u2026\u2020\u2021ˆ\u2030\uFFFD\u2039\uFFFD\uFFFD\uFFFD\uFFFD" ++
      "\uFFFD\u2018\u2019\u201c\u201d\u2022\u2013\u2014˜\u2122\uFFFD\u203a\uFFFD\uFFFD\uFFFD" ++
      "\uFFFD\u00a0¡¢£\u20aa¥¦§¨©×«¬\u00ad®¯°±²³´µ¶·¸¹÷»¼½¾¿\u05b0\u05b1\u05b2\u05b3\u05b4" ++
      "\u05b5\u05b6\u05b7\u05b8\u05b9\uFFFD\u05bb\u05bc\u05bd\u05be\u05bf\u05c0\u05c1\u05c2" ++
      "\u05c3\u05f0\u05f1\u05f2\u05f3\u05f4\uFFFD\uFFFD\uFFFD\uFFFD\uFFFD\uFFFD\uFFFD\u05d0" ++
      "\u05d1\u05d2\u05d3\u05d4\u05d5\u05d6\u05d7\u05d8\u05d9\u05da\u05db\u05dc\u05dd\u05de" ++
      "\u05df\u05e0\u05e1\u05e2\u05e3\u05e4\u05e5\u05e6\u05e7\u05e8\u05e9\u05ea\uFFFD\uFFFD" ++
      "\u200e\u200f\uFFFD" },
   { aliases := ["windows_1256"],
     names := ["cp1256"],
     upper :=
      "\u20ac\u067e\u201aƒ\u201e\u2026\u2020\u2021ˆ\u2030\u0679\u2039Œ\u0686\u0698\u0688\u06af" ++
      "\u2018\u2019\u201c\u201d\u2022\u2013\u2014\u06a9\u2122\u0691\u203aœ\u200c\u200d\u06ba" ++
      "\u00a0\u060c¢£¤¥¦§¨©\u06be«¬\u00ad®¯°±²³´µ¶·¸¹\u061b»¼½¾\u061f\u06c1\u0621\u0622\u0623" ++
      "\u0624\u0625\u0626\u0627\u0628\u0629\u062a\u062b\u062c\u062d\u062e\u062f\u0630\u0631" ++
      "\u0632\u0633\u0634\u0635\u0636×\u0637\u0638\u0639\u063a\u0640\u0641\u0642\u0643à\u0644â" ++
      "\u0645\u0646\u0647\u0648çèéêë\u0649\u064aîï\u064b\u064c\u064d\u064eô\u064f\u0650÷\u0651ù" ++
      "\u0652ûü\u200e\u200f\u06d2" },
   { aliases := ["windows_1257"],
     names := ["cp1257"],
     upper :=
      "\u20ac\uFFFD\u201a\uFFFD\u201e\u2026\u2020\u2021\uFFFD\u2030\uFFFD\u2039\uFFFD¨ˇ¸\uFFFD" ++
      "\u2018\u2019\u201c\u201d\u2022\u2013\u2014\uFFFD\u2122\uFFFD\u203a\uFFFD¯˛\uFFFD\u00a0" ++
      "\uFFFD¢£¤\uFFFD¦§Ø©Ŗ«¬\u00ad®Æ°±²³´µ¶·ø¹ŗ»¼½¾æĄĮĀĆÄÅĘĒČÉŹĖĢĶĪĻŠŃŅÓŌÕÖ×ŲŁŚŪÜŻŽßąįāćäåęēčé" ++
      "źėģķīļšńņóōõö÷ųłśūüżž˙" },
   { aliases := ["windows_1258"],
     names := ["cp1258"],
     upper :=
      "\u20ac\uFFFD\u201aƒ\u201e\u2026\u2020\u2021ˆ\u2030\uFFFD\u2039Œ\uFFFD\uFFFD\uFFFD\uFFFD" ++
      "\u2018\u2019\u201c\u201d\u2022\u2013\u2014˜\u2122\uFFFD\u203aœ\uFFFD\uFFFDŸ\u00a0¡¢£¤¥¦§" ++
      "¨©ª«¬\u00ad®¯°±²³´µ¶·¸¹º»¼½¾¿ÀÁÂĂÄÅÆÇÈÉÊË\u0300ÍÎÏĐÑ\u0309ÓÔƠÖ×ØÙÚÛÜƯ\u0303ßàáâăäåæçèéêë" ++
      "\u0301íîïđñ\u0323óôơö÷øùúûüư\u20abÿ" },
   { aliases := ["cspc8codepage437", "ibm437"],
     names := ["cp437"],
     upper :=
      "ÇüéâäàåçêëèïîìÄÅÉæÆôöòûùÿÖÜ¢£¥\u20a7ƒáíóúñÑªº¿\u2310¬½¼¡«»\u2591\u2592\u2593\u2502\u2524" ++
      "\u2561\u2562\u2556\u2555\u2563\u2551\u2557\u255d\u255c\u255b\u2510\u2514\u2534\u252c" ++
      "\u251c\u2500\u253c\u255e\u255f\u255a\u2554\u2569\u2566\u2560\u2550\u256c\u2567\u2568" ++
      "\u2564\u2565\u2559\u2558\u2552\u2553\u256b\u256a\u2518\u250c\u2588\u2584\u258c\u2590" ++
      "\u2580αßΓπΣσµτΦΘΩδ\u221eφε\u2229\u2261±\u2265\u2264\u2320\u2321÷\u2248°\u2219·\u221a" ++
      "\u207f²\u25a0\u00a0" },
   { aliases := ["ansi_x3.4_1968", "ansi_x3.4_1986", "ansi_x3_4_1968", "cp367", "cp65001", "csascii",
      "csiso2022jp", "ibm367", "iso2022jp", "iso2022jp_1", "iso2022jp_2", "iso2022jp_2004",
      "iso2022jp_3", "iso2022jp_ext", "iso646_us", "iso_2022_jp", "iso_2022_jp_1", "iso_2022_jp_2",
      "iso_2022_jp_2004", "iso_2022_jp_3", "iso_2022_jp_ext", "iso_646.irv_1991", "iso_ir_6", "u8",
      "us", "us_ascii", "utf", "utf8", "utf8_ucs2", "utf8_ucs4"],
     names := ["ascii", "iso2022_jp", "iso2022_jp_1", "iso2022_jp_2", "iso2022_jp_2004", "iso2022_jp_3",
      "iso2022_jp_ext", "utf_8", "utf_8_sig"],
     upper :=
      "\uFFFD\uFFFD\uFFFD\uFFFD\uFFFD\uFFFD\uFFFD\uFFFD\uFFFD\uFFFD\uFFFD\uFFFD\uFFFD\uFFFD" ++
      "\uFFFD\uFFFD\uFFFD\uFFFD\uFFFD\uFFFD\uFFFD\uFFFD\uFFFD\uFFFD\uFFFD\uFFFD\uFFFD\uFFFD" ++
      "\uFFFD\uFFFD\uFFFD\uFFFD\uFFFD\uFFFD\uFFFD\uFFFD\uFFFD\uFFFD\uFFFD\uFFFD\uFFFD\uFFFD" ++
      "\uFFFD\uFFFD\uFFFD\uFFFD\uFFFD\uFFFD\uFFFD\uFFFD\uFFFD\uFFFD\uFFFD\uFFFD\uFFFD\uFFFD" ++
      "\uFFFD\uFFFD\uFFFD\uFFFD\uFFFD\uFFFD\uFFFD\uFFFD\uFFFD\uFFFD\uFFFD\uFFFD\uFFFD\uFFFD" ++
      "\uFFFD\uFFFD\uFFFD\uFFFD\uFFFD\uFFFD\uFFFD\uFFFD\uFFFD\uFFFD\uFFFD\uFFFD\uFFFD\uFFFD" ++
      "\uFFFD\uFFFD\uFFFD\uFFFD\uFFFD\uFFFD\uFFFD\uFFFD\uFFFD\uFFFD\uFFFD\uFFFD\uFFFD\uFFFD" ++
      "\uFFFD\uFFFD\uFFFD\uFFFD\uFFFD\uFFFD\uFFFD\uFFFD\uFFFD\uFFFD\uFFFD\uFFFD\uFFFD\uFFFD" ++
      "\uFFFD\uFFFD\uFFFD\uFFFD\uFFFD\uFFFD\uFFFD\uFFFD\uFFFD\uFFFD\uFFFD\uFFFD\uFFFD\uFFFD" ++
      "\uFFFD\uFFFD" },
   { aliases := ["cspc775baltic", "ibm775"],
     names := ["cp775"],
     upper :=
      "ĆüéāäģåćłēŖŗīŹÄÅÉæÆōöĢ¢ŚśÖÜø£Ø×¤ĀĪóŻżź\u201d¦©®¬½¼Ł«»\u2591\u2592\u2593\u2502\u2524ĄČĘĖ" ++
      "\u2563\u2551\u2557\u255dĮŠ\u2510\u2514\u2534\u252c\u251c\u2500\u253cŲŪ\u255a\u2554\u2569" ++
      "\u2566\u2560\u2550\u256cŽąčęėįšųūž\u2518\u250c\u2588\u2584\u258c\u2590\u2580ÓßŌŃõÕµńĶķĻļ" ++
      "ņĒŅ\u2019\u00ad±\u201c¾¶§÷\u201e°\u2219·¹³²\u25a0\u00a0" },
   { aliases := ["cspc850multilingual", "ibm850"],
     names := ["cp850"],
     upper :=
      "ÇüéâäàåçêëèïîìÄÅÉæÆôöòûùÿÖÜø£Ø×ƒáíóúñÑªº¿®¬½¼¡«»\u2591\u2592\u2593\u2502\u2524ÁÂÀ©\u2563" ++
      "\u2551\u2557\u255d¢¥\u2510\u2514\u2534\u252c\u251c\u2500\u253cãÃ\u255a\u2554\u2569\u2566" ++
      "\u2560\u2550\u256c¤ðÐÊËÈıÍÎÏ\u2518\u250c\u2588\u2584¦Ì\u2580ÓßÔÒõÕµþÞÚÛÙýÝ¯´\u00ad±" ++
      "\u2017¾¶§÷¸°¨·¹³²\u25a0\u00a0" },
   { aliases := ["cspcp852", "ibm852"],
     names := ["cp852"],
     upper :=
      "ÇüéâäůćçłëŐőîŹÄĆÉĹĺôöĽľŚśÖÜŤťŁ×čáíóúĄąŽžĘę¬źČş«»\u2591\u2592\u2593\u2502\u2524ÁÂĚŞ\u2563" ++
      "\u2551\u2557\u255dŻż\u2510\u2514\u2534\u252c\u251c\u2500\u253cĂă\u255a\u2554\u2569\u2566" ++
      "\u2560\u2550\u256c¤đĐĎËďŇÍÎě\u2518\u250c\u2588\u2584ŢŮ\u2580ÓßÔŃńňŠšŔÚŕŰýÝţ´\u00ad˝˛ˇ˘§÷" ++
      "¸°¨˙űŘř\u25a0\u00a0" },
   { aliases := ["csibm855", "ibm855"],
     names := ["cp855"],
     upper :=
      "ђЂѓЃёЁєЄѕЅіІїЇјЈљЉњЊћЋќЌўЎџЏюЮъЪаАбБцЦдДеЕфФгГ«»\u2591\u2592\u2593\u2502\u2524хХиИ\u2563" ++
      "\u2551\u2557\u255dйЙ\u2510\u2514\u2534\u252c\u251c\u2500\u253cкК\u255a\u2554\u2569\u2566" ++
      "\u2560\u2550\u256c¤лЛмМнНоОп\u2518\u250c\u2588\u2584Пя\u2580ЯрРсСтТуУжЖвВьЬ\u2116\u00adы" ++
      "ЫзЗшШэЭщЩчЧ§\u25a0\u00a0" },
   { aliases := ["csibm857", "ibm857"],
     names := ["cp857"],
     upper :=
      "ÇüéâäàåçêëèïîıÄÅÉæÆôöòûùİÖÜø£ØŞşáíóúñÑĞğ¿®¬½¼¡«»\u2591\u2592\u2593\u2502\u2524ÁÂÀ©\u2563" ++
      "\u2551\u2557\u255d¢¥\u2510\u2514\u2534\u252c\u251c\u2500\u253cãÃ\u255a\u2554\u2569\u2566" ++
      "\u2560\u2550\u256c¤ºªÊËÈ\uFFFDÍÎÏ\u2518\u250c\u2588\u2584¦Ì\u2580ÓßÔÒõÕµ\uFFFD×ÚÛÙìÿ¯´" ++
      "\u00ad±\uFFFD¾¶§÷¸°¨·¹³²\u25a0\u00a0" },
   { aliases := ["csibm858", "ibm858"],
     names := ["cp858"],
     upper :=
      "ÇüéâäàåçêëèïîìÄÅÉæÆôöòûùÿÖÜø£Ø×ƒáíóúñÑªº¿®¬½¼¡«»\u2591\u2592\u2593\u2502\u2524ÁÂÀ©\u2563" ++
      "\u2551\u2557\u255d¢¥\u2510\u2514\u2534\u252c\u251c\u2500\u253cãÃ\u255a\u2554\u2569\u2566" ++
      "\u2560\u2550\u256c¤ðÐÊËÈ\u20acÍÎÏ\u2518\u250c\u2588\u2584¦Ì\u2580ÓßÔÒõÕµþÞÚÛÙýÝ¯´\u00ad±" ++
      "\u2017¾¶§÷¸°¨·¹³²\u25a0\u00a0" },
   { aliases := ["csibm860", "ibm860"],
     names := ["cp860"],
     upper :=
      "ÇüéâãàÁçêÊèÍÔìÃÂÉÀÈôõòÚùÌÕÜ¢£Ù\u20a7ÓáíóúñÑªº¿Ò¬½¼¡«»\u2591\u2592\u2593\u2502\u2524" ++
      "\u2561\u2562\u2556\u2555\u2563\u2551\u2557\u255d\u255c\u255b\u2510\u2514\u2534\u252c" ++
      "\u251c\u2500\u253c\u255e\u255f\u255a\u2554\u2569\u2566\u2560\u2550\u256c\u2567\u2568" ++
      "\u2564\u2565\u2559\u2558\u2552\u2553\u256b\u256a\u2518\u250c\u2588\u2584\u258c\u2590" ++
      "\u2580αßΓπΣσµτΦΘΩδ\u221eφε\u2229\u2261±\u2265\u2264\u2320\u2321÷\u2248°\u2219·\u221a" ++
      "\u207f²\u25a0\u00a0" },
   { aliases := ["cp_is", "csibm861", "ibm861"],
     names := ["cp861"],
     upper :=
      "ÇüéâäàåçêëèÐðÞÄÅÉæÆôöþûÝýÖÜø£Ø\u20a7ƒáíóúÁÍÓÚ¿\u2310¬½¼¡«»\u2591\u2592\u2593\u2502\u2524" ++
      "\u2561\u2562\u2556\u2555\u2563\u2551\u2557\u255d\u255c\u255b\u2510\u2514\u2534\u252c" ++
      "\u251c\u2500\u253c\u255e\u255f\u255a\u2554\u2569\u2566\u2560\u2550\u256c\u2567\u2568" ++
      "\u2564\u2565\u2559\u2558\u2552\u2553\u256b\u256a\u2518\u250c\u2588\u2584\u258c\u2590" ++
      "\u2580αßΓπΣσµτΦΘΩδ\u221eφε\u2229\u2261±\u2265\u2264\u2320\u2321÷\u2248°\u2219·\u221a" ++
      "\u207f²\u25a0\u00a0" },
   { aliases := ["cspc862latinhebrew", "ibm862"],
     names := ["cp862"],
     upper :=
      "\u05d0\u05d1\u05d2\u05d3\u05d4\u05d5\u05d6\u05d7\u05d8\u05d9\u05da\u05db\u05dc\u05dd" ++
      "\u05de\u05df\u05e0\u05e1\u05e2\u05e3\u05e4\u05e5\u05e6\u05e7\u05e8\u05e9\u05ea¢£¥\u20a7ƒ" ++
      "áíóúñÑªº¿\u2310¬½¼¡«»\u2591\u2592\u2593\u2502\u2524\u2561\u2562\u2556\u2555\u2563\u2551" ++
      "\u2557\u255d\u255c\u255b\u2510\u2514\u2534\u252c\u251c\u2500\u253c\u255e\u255f\u255a" ++
      "\u2554\u2569\u2566\u2560\u2550\u256c\u2567\u2568\u2564\u2565\u2559\u2558\u2552\u2553" ++
      "\u256b\u256a\u2518\u250c\u2588\u2584\u258c\u2590\u2580αßΓπΣσµτΦΘΩδ\u221eφε\u2229\u2261±" ++
      "\u2265\u2264\u2320\u2321÷\u2248°\u2219·\u221a\u207f²\u25a0\u00a0" },
   { aliases := ["csibm863", "ibm863"],
     names := ["cp863"],
     upper :=
      "ÇüéâÂà¶çêëèïî\u2017À§ÉÈÊôËÏûù¤ÔÜ¢£ÙÛƒ¦´óú¨¸³¯Î\u2310¬½¼¾«»\u2591\u2592\u2593\u2502\u2524" ++
      "\u2561\u2562\u2556\u2555\u2563\u2551\u2557\u255d\u255c\u255b\u2510\u2514\u2534\u252c" ++
      "\u251c\u2500\u253c\u255e\u255f\u255a\u2554\u2569\u2566\u2560\u2550\u256c\u2567\u2568" ++
      "\u2564\u2565\u2559\u2558\u2552\u2553\u256b\u256a\u2518\u250c\u2588\u2584\u258c\u2590" ++
      "\u2580αßΓπΣσµτΦΘΩδ\u221eφε\u2229\u2261±\u2265\u2264\u2320\u2321÷\u2248°\u2219·\u221a" ++
      "\u207f²\u25a0\u00a0" },
   { aliases := ["csibm865", "ibm865"],
     names := ["cp865"],
     upper :=
      "ÇüéâäàåçêëèïîìÄÅÉæÆôöòûùÿÖÜø£Ø\u20a7ƒáíóúñÑªº¿\u2310¬½¼¡«¤\u2591\u2592\u2593\u2502\u2524" ++
      "\u2561\u2562\u2556\u2555\u2563\u2551\u2557\u255d\u255c\u255b\u2510\u2514\u2534\u252c" ++
      "\u251c\u2500\u253c\u255e\u255f\u255a\u2554\u2569\u2566\u2560\u2550\u256c\u2567\u2568" ++
      "\u2564\u2565\u2559\u2558\u2552\u2553\u256b\u256a\u2518\u250c\u2588\u2584\u258c\u2590" ++
      "\u2580αßΓπΣσµτΦΘΩδ\u221eφε\u2229\u2261±\u2265\u2264\u2320\u2321÷\u2248°\u2219·\u221a" ++
      "\u207f²\u25a0\u00a0" },
   { aliases := ["csibm866", "ibm866"],
     names := ["cp866"],
     upper :=
      "АБВГДЕЖЗИЙКЛМНОПРСТУФХЦЧШЩЪЫЬЭЮЯабвгдежзийклмноп\u2591\u2592\u2593\u2502\u2524\u2561" ++
      "\u2562\u2556\u2555\u2563\u2551\u2557\u255d\u255c\u255b\u2510\u2514\u2534\u252c\u251c" ++
      "\u2500\u253c\u255e\u255f\u255a\u2554\u2569\u2566\u2560\u2550\u256c\u2567\u2568\u2564" ++
      "\u2565\u2559\u2558\u2552\u2553\u256b\u256a\u2518\u250c\u2588\u2584\u258c\u2590\u2580рсту" ++
      "фхцчшщъыьэюяЁёЄєЇїЎў°\u2219·\u221a\u2116¤\u25a0\u00a0" },
   { aliases := ["cp_gr", "csibm869", "ibm869"],
     names := ["cp869"],
     upper :=
      "\uFFFD\uFFFD\uFFFD\uFFFD\uFFFD\uFFFDΆ\uFFFD·¬¦\u2018\u2019Έ\u2015ΉΊΪΌ\uFFFD\uFFFDΎΫ©Ώ²³ά" ++
      "£έήίϊΐόύΑΒΓΔΕΖΗ½ΘΙ«»\u2591\u2592\u2593\u2502\u2524ΚΛΜΝ\u2563\u2551\u2557\u255dΞΟ\u2510" ++
      "\u2514\u2534\u252c\u251c\u2500\u253cΠΡ\u255a\u2554\u2569\u2566\u2560\u2550\u256cΣΤΥΦΧΨΩα" ++
      "βγ\u2518\u250c\u2588\u2584δε\u2580ζηθικλμνξοπρσςτ΄\u00ad±υφχ§ψ΅°¨ωϋΰώ\u25a0\u00a0" },
   { aliases := ["cp819", "csisolatin1", "ibm819", "iso8859", "iso8859_1", "iso_8859_1", "iso_8859_1_1987",
      "iso_ir_100", "l1", "latin", "latin1"],
     names := ["charmap", "iso8859_1", "latin_1", "raw_unicode_escape", "unicode_escape"],
     upper :=
      "\u0080\u0081\u0082\u0083\u0084\u0085\u0086\u0087\u0088\u0089\u008a\u008b\u008c\u008d" ++
      "\u008e\u008f\u0090\u0091\u0092\u0093\u0094\u0095\u0096\u0097\u0098\u0099\u009a\u009b" ++
      "\u009c\u009d\u009e\u009f\u00a0¡¢£¤¥¦§¨©ª«¬\u00ad®¯°±²³´µ¶·¸¹º»¼½¾¿ÀÁÂÃÄÅÆÇÈÉÊËÌÍÎÏÐÑÒÓÔÕ" ++
      "Ö×ØÙÚÛÜÝÞßàáâãäåæçèéêëìíîïðñòóôõö÷øùúûüýþÿ" },
   { aliases := ["arabic", "asmo_708", "csisolatinarabic", "ecma_114", "iso_8859_6", "iso_8859_6_1987",
      "iso_ir_127"],
     names := ["iso8859_6"],
     upper :=
      "\u0080\u0081\u0082\u0083\u0084\u0085\u0086\u0087\u0088\u0089\u008a\u008b\u008c\u008d" ++
      "\u008e\u008f\u0090\u0091\u0092\u0093\u0094\u0095\u0096\u0097\u0098\u0099\u009a\u009b" ++
      "\u009c\u009d\u009e\u009f\u00a0\uFFFD\uFFFD\uFFFD¤\uFFFD\uFFFD\uFFFD\uFFFD\uFFFD\uFFFD" ++
      "\uFFFD\u060c\u00ad\uFFFD\uFFFD\uFFFD\uFFFD\uFFFD\uFFFD\uFFFD\uFFFD\uFFFD\uFFFD\uFFFD" ++
      "\uFFFD\uFFFD\u061b\uFFFD\uFFFD\uFFFD\u061f\uFFFD\u0621\u0622\u0623\u0624\u0625\u0626" ++
      "\u0627\u0628\u0629\u062a\u062b\u062c\u062d\u062e\u062f\u0630\u0631\u0632\u0633\u0634" ++
      "\u0635\u0636\u0637\u0638\u0639\u063a\uFFFD\uFFFD\uFFFD\uFFFD\uFFFD\u0640\u0641\u0642" ++
      "\u0643\u0644\u0645\u0646\u0647\u0648\u0649\u064a\u064b\u064c\u064d\u064e\u064f\u0650" ++
      "\u0651\u0652\uFFFD\uFFFD\uFFFD\uFFFD\uFFFD\uFFFD\uFFFD\uFFFD\uFFFD\uFFFD\uFFFD\uFFFD" ++
      "\uFFFD" },
   { aliases := [],
     names := ["cp1006"],
     upper :=
      "\u0080\u0081\u0082\u0083\u0084\u0085\u0086\u0087\u0088\u0089\u008a\u008b\u008c\u008d" ++
      "\u008e\u008f\u0090\u0091\u0092\u0093\u0094\u0095\u0096\u0097\u0098\u0099\u009a\u009b" ++
      "\u009c\u009d\u009e\u009f\u00a0\u06f0\u06f1\u06f2\u06f3\u06f4\u06f5\u06f6\u06f7\u06f8" ++
      "\u06f9\u060c\u061b\u00ad\u061f\ufe81\ufe8d\ufe8e\ufe8e\ufe8f\ufe91\ufb56\ufb58\ufe93" ++
      "\ufe95\ufe97\ufb66\ufb68\ufe99\ufe9b\ufe9d\ufe9f\ufb7a\ufb7c\ufea1\ufea3\ufea5\ufea7" ++
      "\ufea9\ufb84\ufeab\ufead\ufb8c\ufeaf\ufb8a\ufeb1\ufeb3\ufeb5\ufeb7\ufeb9\ufebb\ufebd" ++
      "\ufebf\ufec1\ufec5\ufec9\ufeca\ufecb\ufecc\ufecd\ufece\ufecf\ufed0\ufed1\ufed3\ufed5" ++
      "\ufed7\ufed9\ufedb\ufb92\ufb94\ufedd\ufedf\ufee0\ufee1\ufee3\ufb9e\ufee5\ufee7\ufe85" ++
      "\ufeed\ufba6\ufba8\ufba9\ufbaa\ufe80\ufe89\ufe8a\ufe8b\ufef1\ufef2\ufef3\ufbb0\ufbae" ++
      "\ufe7c\ufe7d" },
   { aliases := ["cp1051", "ibm1051", "r8", "roman8"],
     names := ["hp_roman8"],
     upper :=
      "\u0080\u0081\u0082\u0083\u0084\u0085\u0086\u0087\u0088\u0089\u008a\u008b\u008c\u008d" ++
      "\u008e\u008f\u0090\u0091\u0092\u0093\u0094\u0095\u0096\u0097\u0098\u0099\u009a\u009b" ++
      "\u009c\u009d\u009e\u009f\u00a0ÀÂÈÊËÎÏ´ˋˆ¨˜ÙÛ\u20a4¯Ýý°ÇçÑñ¡¿¤£¥§ƒ¢âêôûáéóúàèòùäëöüÅîØÆåí" ++
      "øæÄìÖÜÉïßÔÁÃãÐðÍÌÓÒÕõŠšÚŸÿÞþ·µ¶¾\u2014¼½ªº«\u25a0»±\uFFFD" },
   { aliases := ["cp154", "csptcp154", "cyrillic_asian", "pt154"],
     names := ["ptcp154"],
     upper :=
      "ҖҒӮғ\u201e\u2026ҶҮҲүҠӢҢҚҺҸҗ\u2018\u2019\u201c\u201d\u2022\u2013\u2014ҳҷҡӣңқһҹ\u00a0ЎўЈӨҘ" ++
      "Ұ§Ё©Ә«¬ӯ®Ҝ°ұІіҙө¶·ё\u2116ә»јҪҫҝАБВГДЕЖЗИЙКЛМНОПРСТУФХЦЧШЩЪЫЬЭЮЯабвгдежзийклмнопрстуфхцчш" ++
      "щъыьэюя" },
   { aliases := [],
     names := ["cp720"],
     upper :=
      "\u0080\u0081éâ\u0084à\u0086çêëèïî\u008d\u008e\u008f\u0090\u0651\u0652ô¤\u0640ûù\u0621" ++
      "\u0622\u0623\u0624£\u0625\u0626\u0627\u0628\u0629\u062a\u062b\u062c\u062d\u062e\u062f" ++
      "\u0630\u0631\u0632\u0633\u0634\u0635«»\u2591\u2592\u2593\u2502\u2524\u2561\u2562\u2556" ++
      "\u2555\u2563\u2551\u2557\u255d\u255c\u255b\u2510\u2514\u2534\u252c\u251c\u2500\u253c" ++
      "\u255e\u255f\u255a\u2554\u2569\u2566\u2560\u2550\u256c\u2567\u2568\u2564\u2565\u2559" ++
      "\u2558\u2552\u2553\u256b\u256a\u2518\u250c\u2588\u2584\u258c\u2590\u2580\u0636\u0637" ++
      "\u0638\u0639\u063a\u0641µ\u0642\u0643\u0644\u0645\u0646\u0647\u0648\u0649\u064a\u2261" ++
      "\u064b\u064c\u064d\u064e\u064f\u0650\u2248°\u2219·\u221a\u207f²\u25a0\u00a0" },
   { aliases := [],
     names := ["cp737"],
     upper :=
      "ΑΒΓΔΕΖΗΘΙΚΛΜΝΞΟΠΡΣΤΥΦΧΨΩαβγδεζηθικλμνξοπρσςτυφχψ\u2591\u2592\u2593\u2502\u2524\u2561" ++
      "\u2562\u2556\u2555\u2563\u2551\u2557\u255d\u255c\u255b\u2510\u2514\u2534\u252c\u251c" ++
      "\u2500\u253c\u255e\u255f\u255a\u2554\u2569\u2566\u2560\u2550\u256c\u2567\u2568\u2564" ++
      "\u2565\u2559\u2558\u2552\u2553\u256b\u256a\u2518\u250c\u2588\u2584\u258c\u2590\u2580ωάέή" ++
      "ϊίόύϋώΆΈΉΊΌΎΏ±\u2265\u2264ΪΫ÷\u2248°\u2219·\u221a\u207f²\u25a0\u00a0" },
   { aliases := [],
     names := ["cp856"],
     upper :=
      "\u05d0\u05d1\u05d2\u05d3\u05d4\u05d5\u05d6\u05d7\u05d8\u05d9\u05da\u05db\u05dc\u05dd" ++
      "\u05de\u05df\u05e0\u05e1\u05e2\u05e3\u05e4\u05e5\u05e6\u05e7\u05e8\u05e9\u05ea\uFFFD£" ++
      "\uFFFD×\uFFFD\uFFFD\uFFFD\uFFFD\uFFFD\uFFFD\uFFFD\uFFFD\uFFFD\uFFFD®¬½¼\uFFFD«»\u2591" ++
      "\u2592\u2593\u2502\u2524\uFFFD\uFFFD\uFFFD©\u2563\u2551\u2557\u255d¢¥\u2510\u2514\u2534" ++
      "\u252c\u251c\u2500\u253c\uFFFD\uFFFD\u255a\u2554\u2569\u2566\u2560\u2550\u256c¤\uFFFD" ++
      "\uFFFD\uFFFD\uFFFD\uFFFD\uFFFD\uFFFD\uFFFD\uFFFD\u2518\u250c\u2588\u2584¦\uFFFD\u2580" ++
      "\uFFFD\uFFFD\uFFFD\uFFFD\uFFFD\uFFFDµ\uFFFD\uFFFD\uFFFD\uFFFD\uFFFD\uFFFD\uFFFD¯´\u00ad±" ++
      "\u2017¾¶§÷¸°¨·¹³²\u25a0\u00a0" },
   { aliases := [],
     names := ["cp874"],
     upper :=
      "\u20ac\uFFFD\uFFFD\uFFFD\uFFFD\u2026\uFFFD\uFFFD\uFFFD\uFFFD\uFFFD\uFFFD\uFFFD\uFFFD" ++
      "\uFFFD\uFFFD\uFFFD\u2018\u2019\u201c\u201d\u2022\u2013\u2014\uFFFD\uFFFD\uFFFD\uFFFD" ++
      "\uFFFD\uFFFD\uFFFD\uFFFD\u00a0\u0e01\u0e02\u0e03\u0e04\u0e05\u0e06\u0e07\u0e08\u0e09" ++
      "\u0e0a\u0e0b\u0e0c\u0e0d\u0e0e\u0e0f\u0e10\u0e11\u0e12\u0e13\u0e14\u0e15\u0e16\u0e17" ++
      "\u0e18\u0e19\u0e1a\u0e1b\u0e1c\u0e1d\u0e1e\u0e1f\u0e20\u0e21\u0e22\u0e23\u0e24\u0e25" ++
      "\u0e26\u0e27\u0e28\u0e29\u0e2a\u0e2b\u0e2c\u0e2d\u0e2e\u0e2f\u0e30\u0e31\u0e32\u0e33" ++
      "\u0e34\u0e35\u0e36\u0e37\u0e38\u0e39\u0e3a\uFFFD\uFFFD\uFFFD\uFFFD\u0e3f\u0e40\u0e41" ++
      "\u0e42\u0e43\u0e44\u0e45\u0e46\u0e47\u0e48\u0e49\u0e4a\u0e4b\u0e4c\u0e4d\u0e4e\u0e4f" ++
      "\u0e50\u0e51\u0e52\u0e53\u0e54\u0e55\u0e56\u0e57\u0e58\u0e59\u0e5a\u0e5b\uFFFD\uFFFD" ++
      "\uFFFD\uFFFD" },
   { aliases := ["csisolatin2", "iso_8859_2", "iso_8859_2_1987", "iso_ir_101", "l2", "latin2"],
     names := ["iso8859_2"],
     upper :=
      "\u0080\u0081\u0082\u0083\u0084\u0085\u0086\u0087\u0088\u0089\u008a\u008b\u008c\u008d" ++
      "\u008e\u008f\u0090\u0091\u0092\u0093\u0094\u0095\u0096\u0097\u0098\u0099\u009a\u009b" ++
      "\u009c\u009d\u009e\u009f\u00a0Ą˘Ł¤ĽŚ§¨ŠŞŤŹ\u00adŽŻ°ą˛ł´ľśˇ¸šşťź˝žżŔÁÂĂÄĹĆÇČÉĘËĚÍÎĎĐŃŇÓÔŐ" ++
      "Ö×ŘŮÚŰÜÝŢßŕáâăäĺćçčéęëěíîďđńňóôőö÷řůúűüýţ˙" },
   { aliases := ["csisolatin3", "iso_8859_3", "iso_8859_3_1988", "iso_ir_109", "l3", "latin3"],
     names := ["iso8859_3"],
     upper :=
      "\u0080\u0081\u0082\u0083\u0084\u0085\u0086\u0087\u0088\u0089\u008a\u008b\u008c\u008d" ++
      "\u008e\u008f\u0090\u0091\u0092\u0093\u0094\u0095\u0096\u0097\u0098\u0099\u009a\u009b" ++
      "\u009c\u009d\u009e\u009f\u00a0Ħ˘£¤\uFFFDĤ§¨İŞĞĴ\u00ad\uFFFDŻ°ħ²³´µĥ·¸ışğĵ½\uFFFDżÀÁÂ" ++
      "\uFFFDÄĊĈÇÈÉÊËÌÍÎÏ\uFFFDÑÒÓÔĠÖ×ĜÙÚÛÜŬŜßàáâ\uFFFDäċĉçèéêëìíîï\uFFFDñòóôġö÷ĝùúûüŭŝ˙" },
   { aliases := ["csisolatin4", "iso_8859_4", "iso_8859_4_1988", "iso_ir_110", "l4", "latin4"],
     names := ["iso8859_4"],
     upper :=
      "\u0080\u0081\u0082\u0083\u0084\u0085\u0086\u0087\u0088\u0089\u008a\u008b\u008c\u008d" ++
      "\u008e\u008f\u0090\u0091\u0092\u0093\u0094\u0095\u0096\u0097\u0098\u0099\u009a\u009b" ++
      "\u009c\u009d\u009e\u009f\u00a0ĄĸŖ¤ĨĻ§¨ŠĒĢŦ\u00adŽ¯°ą˛ŗ´ĩļˇ¸šēģŧŊžŋĀÁÂÃÄÅÆĮČÉĘËĖÍÎĪĐŅŌĶÔÕ" ++
      "Ö×ØŲÚÛÜŨŪßāáâãäåæįčéęëėíîīđņōķôõö÷øųúûüũū˙" },
   { aliases := ["csisolatin5", "iso_8859_9", "iso_8859_9_1989", "iso_ir_148", "l5", "latin5"],
     names := ["iso8859_9"],
     upper :=
      "\u0080\u0081\u0082\u0083\u0084\u0085\u0086\u0087\u0088\u0089\u008a\u008b\u008c\u008d" ++
      "\u008e\u008f\u0090\u0091\u0092\u0093\u0094\u0095\u0096\u0097\u0098\u0099\u009a\u009b" ++
      "\u009c\u009d\u009e\u009f\u00a0¡¢£¤¥¦§¨©ª«¬\u00ad®¯°±²³´µ¶·¸¹º»¼½¾¿ÀÁÂÃÄÅÆÇÈÉÊËÌÍÎÏĞÑÒÓÔÕ" ++
      "Ö×ØÙÚÛÜİŞßàáâãäåæçèéêëìíîïğñòóôõö÷øùúûüışÿ" },
   { aliases := ["csisolatin6", "iso_8859_10", "iso_8859_10_1992", "iso_ir_157", "l6", "latin6"],
     names := ["iso8859_10"],
     upper :=
      "\u0080\u0081\u0082\u0083\u0084\u0085\u0086\u0087\u0088\u0089\u008a\u008b\u008c\u008d" ++
      "\u008e\u008f\u0090\u0091\u0092\u0093\u0094\u0095\u0096\u0097\u0098\u0099\u009a\u009b" ++
      "\u009c\u009d\u009e\u009f\u00a0ĄĒĢĪĨĶ§ĻĐŠŦŽ\u00adŪŊ°ąēģīĩķ·ļđšŧž\u2015ūŋĀÁÂÃÄÅÆĮČÉĘËĖÍÎÏÐ" ++
      "ŅŌÓÔÕÖŨØŲÚÛÜÝÞßāáâãäåæįčéęëėíîïðņōóôõöũøųúûüýþĸ" },
   { aliases := ["csisolatincyrillic", "cyrillic", "iso_8859_5", "iso_8859_5_1988", "iso_ir_144"],
     names := ["iso8859_5"],
     upper :=
      "\u0080\u0081\u0082\u0083\u0084\u0085\u0086\u0087\u0088\u0089\u008a\u008b\u008c\u008d" ++
      "\u008e\u008f\u0090\u0091\u0092\u0093\u0094\u0095\u0096\u0097\u0098\u0099\u009a\u009b" ++
      "\u009c\u009d\u009e\u009f\u00a0ЁЂЃЄЅІЇЈЉЊЋЌ\u00adЎЏАБВГДЕЖЗИЙКЛМНОПРСТУФХЦЧШЩЪЫЬЭЮЯабвгде" ++
      "жзийклмнопрстуфхцчшщъыьэюя\u2116ёђѓєѕіїјљњћќ§ўџ" },
   { aliases := ["csisolatingreek", "ecma_118", "elot_928", "greek", "greek8", "iso_8859_7", "iso_8859_7_1987",
      "iso_ir_126"],
     names := ["iso8859_7"],
     upper :=
      "\u0080\u0081\u0082\u0083\u0084\u0085\u0086\u0087\u0088\u0089\u008a\u008b\u008c\u008d" ++
      "\u008e\u008f\u0090\u0091\u0092\u0093\u0094\u0095\u0096\u0097\u0098\u0099\u009a\u009b" ++
      "\u009c\u009d\u009e\u009f\u00a0\u2018\u2019£\u20ac\u20af¦§¨©ͺ«¬\u00ad\uFFFD\u2015°±²³΄΅Ά·" ++
      "ΈΉΊ»Ό½ΎΏΐΑΒΓΔΕΖΗΘΙΚΛΜΝΞΟΠΡ\uFFFDΣΤΥΦΧΨΩΪΫάέήίΰαβγδεζηθικλμνξοπρςστυφχψωϊϋόύώ\uFFFD" },
   { aliases := ["csisolatinhebrew", "hebrew", "iso_8859_8", "iso_8859_8_1988", "iso_ir_138"],
     names := ["iso8859_8"],
     upper :=
      "\u0080\u0081\u0082\u0083\u0084\u0085\u0086\u0087\u0088\u0089\u008a\u008b\u008c\u008d" ++
      "\u008e\u008f\u0090\u0091\u0092\u0093\u0094\u0095\u0096\u0097\u0098\u0099\u009a\u009b" ++
      "\u009c\u009d\u009e\u009f\u00a0\uFFFD¢£¤¥¦§¨©×«¬\u00ad®¯°±²³´µ¶·¸¹÷»¼½¾\uFFFD\uFFFD\uFFFD" ++
      "\uFFFD\uFFFD\uFFFD\uFFFD\uFFFD\uFFFD\uFFFD\uFFFD\uFFFD\uFFFD\uFFFD\uFFFD\uFFFD\uFFFD" ++
      "\uFFFD\uFFFD\uFFFD\uFFFD\uFFFD\uFFFD\uFFFD\uFFFD\uFFFD\uFFFD\uFFFD\uFFFD\uFFFD\uFFFD" ++
      "\uFFFD\u2017\u05d0\u05d1\u05d2\u05d3\u05d4\u05d5\u05d6\u05d7\u05d8\u05d9\u05da\u05db" ++
      "\u05dc\u05dd\u05de\u05df\u05e0\u05e1\u05e2\u05e3\u05e4\u05e5\u05e6\u05e7\u05e8\u05e9" ++
      "\u05ea\uFFFD\uFFFD\u200e\u200f\uFFFD" },
   { aliases := ["cskoi8r"],
     names := ["koi8_r"],
     upper :=
      "\u2500\u2502\u250c\u2510\u2514\u2518\u251c\u2524\u252c\u2534\u253c\u2580\u2584\u2588" ++
      "\u258c\u2590\u2591\u2592\u2593\u2320\u25a0\u2219\u221a\u2248\u2264\u2265\u00a0\u2321°²·÷" ++
      "\u2550\u2551\u2552ё\u2553\u2554\u2555\u2556\u2557\u2558\u2559\u255a\u255b\u255c\u255d" ++
      "\u255e\u255f\u2560\u2561Ё\u2562\u2563\u2564\u2565\u2566\u2567\u2568\u2569\u256a\u256b" ++
      "\u256c©юабцдефгхийклмнопярстужвьызшэщчъЮАБЦДЕФГХИЙКЛМНОПЯРСТУЖВЬЫЗШЭЩЧЪ" },
   { aliases := ["hz_gb", "hz_gb_2312", "hzgb"],
     names := ["hz"],
     upper :=
      "\uFFFD\uFFFD\uFFFD\uFFFD\uFFFD\uFFFD\uFFFD\uFFFD\uFFFD\uFFFD\uFFFD\uFFFD\uFFFD\uFFFD" ++
      "\uFFFD\uFFFD\uFFFD\uFFFD\uFFFD\uFFFD\uFFFD\uFFFD\uFFFD\uFFFD\uFFFD\uFFFD\uFFFD\uFFFD" ++
      "\uFFFD\uFFFD\uFFFD\uFFFD\uFFFD\uFFFD\uFFFD\uFFFD\uFFFD\uFFFD\uFFFD\uFFFD\uFFFD\uFFFD" ++
      "\uFFFD\uFFFD\uFFFD\uFFFD\uFFFD\uFFFD\uFFFD\uFFFD\uFFFD\uFFFD\uFFFD\uFFFD\uFFFD\uFFFD" ++
      "\uFFFD\uFFFD\uFFFD\uFFFD\uFFFD\uFFFD\uFFFD\uFFFD\uFFFD\uFFFD\uFFFD\uFFFD\uFFFD\uFFFD" ++
      "\uFFFD\uFFFD\uFFFD\uFFFD\uFFFD\uFFFD\uFFFD\uFFFD\uFFFD\uFFFD\uFFFD\uFFFD\uFFFD\uFFFD" ++
      "\uFFFD\uFFFD\uFFFD\uFFFD\uFFFD\uFFFD\uFFFD\uFFFD\uFFFD\uFFFD\uFFFD\uFFFD\uFFFD\uFFFD" ++
      "\uFFFD\uFFFD\uFFFD\uFFFD\uFFFD\uFFFD\uFFFD\uFFFD\uFFFD\uFFFD\uFFFD\uFFFD\uFFFD\uFFFD" ++
      "\uFFFD\uFFFD\uFFFD\uFFFD\uFFFD\uFFFD\uFFFD\uFFFD\uFFFD\uFFFD\uFFFD\uFFFD\uFFFD\uFFFD" ++
      "\uFFFD\uFFFD" },
   { aliases := ["iso_8859_11", "iso_8859_11_2001", "thai"],
     names := ["iso8859_11"],
     upper :=
      "\u0080\u0081\u0082\u0083\u0084\u0085\u0086\u0087\u0088\u0089\u008a\u008b\u008c\u008d" ++
      "\u008e\u008f\u0090\u0091\u0092\u0093\u0094\u0095\u0096\u0097\u0098\u0099\u009a\u009b" ++
      "\u009c\u009d\u009e\u009f\u00a0\u0e01\u0e02\u0e03\u0e04\u0e05\u0e06\u0e07\u0e08\u0e09" ++
      "\u0e0a\u0e0b\u0e0c\u0e0d\u0e0e\u0e0f\u0e10\u0e11\u0e12\u0e13\u0e14\u0e15\u0e16\u0e17" ++
      "\u0e18\u0e19\u0e1a\u0e1b\u0e1c\u0e1d\u0e1e\u0e1f\u0e20\u0e21\u0e22\u0e23\u0e24\u0e25" ++
      "\u0e26\u0e27\u0e28\u0e29\u0e2a\u0e2b\u0e2c\u0e2d\u0e2e\u0e2f\u0e30\u0e31\u0e32\u0e33" ++
      "\u0e34\u0e35\u0e36\u0e37\u0e38\u0e39\u0e3a\uFFFD\uFFFD\uFFFD\uFFFD\u0e3f\u0e40\u0e41" ++
      "\u0e42\u0e43\u0e44\u0e45\u0e46\u0e47\u0e48\u0e49\u0e4a\u0e4b\u0e4c\u0e4d\u0e4e\u0e4f" ++
      "\u0e50\u0e51\u0e52\u0e53\u0e54\u0e55\u0e56\u0e57\u0e58\u0e59\u0e5a\u0e5b\uFFFD\uFFFD" ++
      "\uFFFD\uFFFD" },
   { aliases := ["iso_8859_13", "l7", "latin7"],
     names := ["iso8859_13"],
     upper :=
      "\u0080\u0081\u0082\u0083\u0084\u0085\u0086\u0087\u0088\u0089\u008a\u008b\u008c\u008d" ++
      "\u008e\u008f\u0090\u0091\u0092\u0093\u0094\u0095\u0096\u0097\u0098\u0099\u009a\u009b" ++
      "\u009c\u009d\u009e\u009f\u00a0\u201d¢£¤\u201e¦§Ø©Ŗ«¬\u00ad®Æ°±²³\u201cµ¶·ø¹ŗ»¼½¾æĄĮĀĆÄÅĘ" ++
      "ĒČÉŹĖĢĶĪĻŠŃŅÓŌÕÖ×ŲŁŚŪÜŻŽßąįāćäåęēčéźėģķīļšńņóōõö÷ųłśūüżž\u2019" },
   { aliases := ["iso_8859_14", "iso_8859_14_1998", "iso_celtic", "iso_ir_199", "l8", "latin8"],
     names := ["iso8859_14"],
     upper :=
      "\u0080\u0081\u0082\u0083\u0084\u0085\u0086\u0087\u0088\u0089\u008a\u008b\u008c\u008d" ++
      "\u008e\u008f\u0090\u0091\u0092\u0093\u0094\u0095\u0096\u0097\u0098\u0099\u009a\u009b" ++
      "\u009c\u009d\u009e\u009f\u00a0Ḃḃ£ĊċḊ§Ẁ©ẂḋỲ\u00ad®ŸḞḟĠġṀṁ¶ṖẁṗẃṠỳẄẅṡÀÁÂÃÄÅÆÇÈÉÊËÌÍÎÏŴÑÒÓÔÕ" ++
      "ÖṪØÙÚÛÜÝŶßàáâãäåæçèéêëìíîïŵñòóôõöṫøùúûüýŷÿ" },
   { aliases := ["iso_8859_15", "l9", "latin9"],
     names := ["iso8859_15"],
     upper :=
      "\u0080\u0081\u0082\u0083\u0084\u0085\u0086\u0087\u0088\u0089\u008a\u008b\u008c\u008d" ++
      "\u008e\u008f\u0090\u0091\u0092\u0093\u0094\u0095\u0096\u0097\u0098\u0099\u009a\u009b" ++
      "\u009c\u009d\u009e\u009f\u00a0¡¢£\u20ac¥Š§š©ª«¬\u00ad®¯°±²³Žµ¶·ž¹º»ŒœŸ¿ÀÁÂÃÄÅÆÇÈÉÊËÌÍÎÏÐ" ++
      "ÑÒÓÔÕÖ×ØÙÚÛÜÝÞßàáâãäåæçèéêëìíîïðñòóôõö÷øùúûüýþÿ" },
   { aliases := ["iso_8859_16", "iso_8859_16_2001", "iso_ir_226", "l10", "latin10"],
     names := ["iso8859_16"],
     upper :=
      "\u0080\u0081\u0082\u0083\u0084\u0085\u0086\u0087\u0088\u0089\u008a\u008b\u008c\u008d" ++
      "\u008e\u008f\u0090\u0091\u0092\u0093\u0094\u0095\u0096\u0097\u0098\u0099\u009a\u009b" ++
      "\u009c\u009d\u009e\u009f\u00a0ĄąŁ\u20ac\u201eŠ§š©Ș«Ź\u00adźŻ°±ČłŽ\u201d¶·žčș»ŒœŸżÀÁÂĂÄĆÆ" ++
      "ÇÈÉÊËÌÍÎÏĐŃÒÓÔŐÖŚŰÙÚÛÜĘȚßàáâăäćæçèéêëìíîïđńòóôőöśűùúûüęțÿ" },
   { aliases := ["iso_ir_166", "tis620", "tis_620_0", "tis_620_2529_0", "tis_620_2529_1"],
     names := ["tis_620"],
     upper :=
      "\u0080\u0081\u0082\u0083\u0084\u0085\u0086\u0087\u0088\u0089\u008a\u008b\u008c\u008d" ++
      "\u008e\u008f\u0090\u0091\u0092\u0093\u0094\u0095\u0096\u0097\u0098\u0099\u009a\u009b" ++
      "\u009c\u009d\u009e\u009f\uFFFD\u0e01\u0e02\u0e03\u0e04\u0e05\u0e06\u0e07\u0e08\u0e09" ++
      "\u0e0a\u0e0b\u0e0c\u0e0d\u0e0e\u0e0f\u0e10\u0e11\u0e12\u0e13\u0e14\u0e15\u0e16\u0e17" ++
      "\u0e18\u0e19\u0e1a\u0e1b\u0e1c\u0e1d\u0e1e\u0e1f\u0e20\u0e21\u0e22\u0e23\u0e24\u0e25" ++
      "\u0e26\u0e27\u0e28\u0e29\u0e2a\u0e2b\u0e2c\u0e2d\u0e2e\u0e2f\u0e30\u0e31\u0e32\u0e33" ++
      "\u0e34\u0e35\u0e36\u0e37\u0e38\u0e39\u0e3a\uFFFD\uFFFD\uFFFD\uFFFD\u0e3f\u0e40\u0e41" ++
      "\u0e42\u0e43\u0e44\u0e45\u0e46\u0e47\u0e48\u0e49\u0e4a\u0e4b\u0e4c\u0e4d\u0e4e\u0e4f" ++
      "\u0e50\u0e51\u0e52\u0e53\u0e54\u0e55\u0e56\u0e57\u0e58\u0e59\u0e5a\u0e5b\uFFFD\uFFFD" ++
      "\uFFFD\uFFFD" },
   { aliases := [],
     names := ["koi8_t"],
     upper :=
      "қғ\u201aҒ\u201e\u2026\u2020\u2021\uFFFD\u2030ҳ\u2039ҲҷҶ\uFFFDҚ\u2018\u2019\u201c\u201d" ++
      "\u2022\u2013\u2014\uFFFD\u2122\uFFFD\u203a\uFFFD\uFFFD\uFFFD\uFFFD\uFFFDӯӮё¤ӣ¦§\uFFFD" ++
      "\uFFFD\uFFFD«¬\u00ad®\uFFFD°±²Ё\uFFFDӢ¶·\uFFFD\u2116\uFFFD»\uFFFD\uFFFD\uFFFD©юабцдефгхи" ++
      "йклмнопярстужвьызшэщчъЮАБЦДЕФГХИЙКЛМНОПЯРСТУЖВЬЫЗШЭЩЧЪ" },
   { aliases := [],
     names := ["koi8_u"],
     upper :=
      "\u2500\u2502\u250c\u2510\u2514\u2518\u251c\u2524\u252c\u2534\u253c\u2580\u2584\u2588" ++
      "\u258c\u2590\u2591\u2592\u2593\u2320\u25a0\u2219\u221a\u2248\u2264\u2265\u00a0\u2321°²·÷" ++
      "\u2550\u2551\u2552ёє\u2554ії\u2557\u2558\u2559\u255a\u255bґ\u255d\u255e\u255f\u2560" ++
      "\u2561ЁЄ\u2563ІЇ\u2566\u2567\u2568\u2569\u256aҐ\u256c©юабцдефгхийклмнопярстужвьызшэщчъЮА" ++
      "БЦДЕФГХИЙКЛМНОПЯРСТУЖВЬЫЗШЭЩЧЪ" },
   { aliases := ["kz_1048", "rk1048", "strk1048_2002"],
     names := ["kz1048"],
     upper :=
      "ЂЃ\u201aѓ\u201e\u2026\u2020\u2021\u20ac\u2030Љ\u2039ЊҚҺЏђ\u2018\u2019\u201c\u201d\u2022" ++
      "\u2013\u2014\uFFFD\u2122љ\u203aњқһџ\u00a0ҰұӘ¤Ө¦§Ё©Ғ«¬\u00ad®Ү°±Ііөµ¶·ё\u2116ғ»әҢңүАБВГДЕ" ++
      "ЖЗИЙКЛМНОПРСТУФХЦЧШЩЪЫЬЭЮЯабвгдежзийклмнопрстуфхцчшщъыьэюя" },
   { aliases := ["mac_centeuro", "maccentraleurope", "maclatin2"],
     names := ["mac_latin2"],
     upper :=
      "ÄĀāÉĄÖÜáąČäčĆćéŹźĎíďĒēĖóėôöõúĚěü\u2020°Ę£§\u2022¶ß®©\u2122ę¨\u2260ģĮįĪ\u2264\u2265īĶ" ++
      "\u2202\u2211łĻļĽľĹĺŅņŃ¬\u221ańŇ\u2206«»\u2026\u00a0ňŐÕőŌ\u2013\u2014\u201c\u201d\u2018" ++
      "\u2019÷\u25caōŔŕŘ\u2039\u203ařŖŗŠ\u201a\u201ešŚśÁŤťÍŽžŪÓÔūŮÚůŰűŲųÝýķŻŁżĢˇ" },
   { aliases := [],
     names := ["mac_croatian"],
     upper :=
      "ÄÅÇÉÑÖÜáàâäãåçéèêëíìîïñóòôöõúùûü\u2020°¢£§\u2022¶ß®Š\u2122´¨\u2260ŽØ\u221e±\u2264\u2265" ++
      "\u2206µ\u2202\u2211\u220fš\u222bªºΩžø¿¡¬\u221aƒ\u2248Ć«Č\u2026\u00a0ÀÃÕŒœĐ\u2014\u201c" ++
      "\u201d\u2018\u2019÷\u25ca\uf8ff©\u2044\u20ac\u2039\u203aÆ»\u2013·\u201a\u201e\u2030ÂćÁčÈ" ++
      "ÍÎÏÌÓÔđÒÚÛÙıˆ˜¯πË˚¸Êæˇ" },
   { aliases := ["maccyrillic"],
     names := ["mac_cyrillic"],
     upper :=
      "АБВГДЕЖЗИЙКЛМНОПРСТУФХЦЧШЩЪЫЬЭЮЯ\u2020°Ґ£§\u2022¶І®©\u2122Ђђ\u2260Ѓѓ\u221e±\u2264\u2265і" ++
      "µґЈЄєЇїЉљЊњјЅ¬\u221aƒ\u2248\u2206«»\u2026\u00a0ЋћЌќѕ\u2013\u2014\u201c\u201d\u2018\u2019" ++
      "÷\u201eЎўЏџ\u2116Ёёяабвгдежзийклмнопрстуфхцчшщъыьэю\u20ac" },
   { aliases := ["macgreek"],
     names := ["mac_greek"],
     upper :=
      "Ä¹²É³ÖÜ΅àâä΄¨çéèêë£\u2122îï\u2022½\u2030ôö¦\u20acùûü\u2020ΓΔΘΛΞΠß®©ΣΪ§\u2260°·Α±\u2264" ++
      "\u2265¥ΒΕΖΗΙΚΜΦΫΨΩάΝ¬ΟΡ\u2248Τ«»\u2026\u00a0ΥΧΆΈœ\u2013\u2015\u201c\u201d\u2018\u2019÷ΉΊ" ++
      "ΌΎέήίόΏύαβψδεφγηιξκλμνοπώρστθωςχυζϊϋΐΰ\u00ad" },
   { aliases := ["maciceland"],
     names := ["mac_iceland"],
     upper :=
      "ÄÅÇÉÑÖÜáàâäãåçéèêëíìîïñóòôöõúùûüÝ°¢£§\u2022¶ß®©\u2122´¨\u2260ÆØ\u221e±\u2264\u2265¥µ" ++
      "\u2202\u2211\u220fπ\u222bªºΩæø¿¡¬\u221aƒ\u2248\u2206«»\u2026\u00a0ÀÃÕŒœ\u2013\u2014" ++
      "\u201c\u201d\u2018\u2019÷\u25caÿŸ\u2044\u20acÐðÞþý·\u201a\u201e\u2030ÂÊÁËÈÍÎÏÌÓÔ\uf8ffÒÚ" ++
      "ÛÙıˆ˜¯˘˙˚¸˝˛ˇ" },
   { aliases := ["macintosh", "macroman"],
     names := ["mac_roman"],
     upper :=
      "ÄÅÇÉÑÖÜáàâäãåçéèêëíìîïñóòôöõúùûü\u2020°¢£§\u2022¶ß®©\u2122´¨\u2260ÆØ\u221e±\u2264\u2265¥" ++
      "µ\u2202\u2211\u220fπ\u222bªºΩæø¿¡¬\u221aƒ\u2248\u2206«»\u2026\u00a0ÀÃÕŒœ\u2013\u2014" ++
      "\u201c\u201d\u2018\u2019÷\u25caÿŸ\u2044\u20ac\u2039\u203a\ufb01\ufb02\u2021·\u201a\u201e" ++
      "\u2030ÂÊÁËÈÍÎÏÌÓÔ\uf8ffÒÚÛÙıˆ˜¯˘˙˚¸˝˛ˇ" },
   { aliases := [],
     names := ["mac_romanian"],
     upper :=
      "ÄÅÇÉÑÖÜáàâäãåçéèêëíìîïñóòôöõúùûü\u2020°¢£§\u2022¶ß®©\u2122´¨\u2260ĂȘ\u221e±\u2264\u2265¥" ++
      "µ\u2202\u2211\u220fπ\u222bªºΩăș¿¡¬\u221aƒ\u2248\u2206«»\u2026\u00a0ÀÃÕŒœ\u2013\u2014" ++
      "\u201c\u201d\u2018\u2019÷\u25caÿŸ\u2044\u20ac\u2039\u203aȚț\u2021·\u201a\u201e\u2030ÂÊÁË" ++
      "ÈÍÎÏÌÓÔ\uf8ffÒÚÛÙıˆ˜¯˘˙˚¸˝˛ˇ" },
   { aliases := ["macturkish"],
     names := ["mac_turkish"],
     upper :=
      "ÄÅÇÉÑÖÜáàâäãåçéèêëíìîïñóòôöõúùûü\u2020°¢£§\u2022¶ß®©\u2122´¨\u2260ÆØ\u221e±\u2264\u2265¥" ++
      "µ\u2202\u2211\u220fπ\u222bªºΩæø¿¡¬\u221aƒ\u2248\u2206«»\u2026\u00a0ÀÃÕŒœ\u2013\u2014" ++
      "\u201c\u201d\u2018\u2019÷\u25caÿŸĞğİıŞş\u2021·\u201a\u201e\u2030ÂÊÁËÈÍÎÏÌÓÔ\uf8ffÒÚÛÙ" ++
      "\uf8a0ˆ˜¯˘˙˚¸˝˛ˇ" },
   { aliases := [],
     names := ["palmos"],
     upper :=
      "\u20ac\u0081\u201aƒ\u201e\u2026\u2020\u2021ˆ\u2030Š\u2039Œ\u2666\u2663\u2665\u2660\u2018" ++
      "\u2019\u201c\u201d\u2022\u2013\u2014˜\u2122š\u009bœ\u009d\u009eŸ\u00a0¡¢£¤¥¦§¨©ª«¬\u00ad" ++
      "®¯°±²³´µ¶·¸¹º»¼½¾¿ÀÁÂÃÄÅÆÇÈÉÊËÌÍÎÏÐÑÒÓÔÕÖ×ØÙÚÛÜÝÞßàáâãäåæçèéêëìíîïðñòóôõö÷øùúûüýþÿ" }]

/-- Encodings in which a character may take several bytes: names they are looked up by and names of
their own. -/
def multiByteNames : List String × List String :=
  (["big5_hkscs", "big5_tw", "chinese", "cp1361", "cp936", "csbig5", "csiso2022kr",
    "csiso58gb231280", "csshiftjis", "euc_cn", "euc_jis2004", "euccn", "eucgb2312_cn", "eucjis2004",
    "eucjisx0213", "eucjp", "euckr", "gb18030_2000", "gb2312_1980", "gb2312_80", "hkscs",
    "iso2022kr", "iso_2022_kr", "iso_ir_58", "jisx0213", "korean", "ks_c_5601", "ks_c_5601_1987",
    "ks_x_1001", "ksc5601", "ksx1001", "ms1361", "ms932", "ms936", "ms949", "ms950", "ms_kanji",
    "mskanji", "s_jis", "s_jis_2004", "s_jisx0213", "shiftjis", "shiftjis2004", "shiftjisx0213",
    "sjis", "sjis_2004", "sjisx0213", "u16", "u32", "u7", "u_jis", "uhc", "ujis",
    "unicode_1_1_utf_7", "unicodebigunmarked", "unicodelittleunmarked", "utf16", "utf32", "utf7",
    "utf_16be", "utf_16le", "utf_32be", "utf_32le", "x_mac_japanese", "x_mac_korean",
    "x_mac_simp_chinese", "x_mac_trad_chinese"],
   ["big5", "big5hkscs", "cp932", "cp949", "cp950", "euc_jis_2004", "euc_jisx0213", "euc_jp",
    "euc_kr", "gb18030", "gb2312", "gbk", "iso2022_kr", "johab", "shift_jis", "shift_jis_2004",
    "shift_jisx0213", "utf_16", "utf_16_be", "utf_16_le", "utf_32", "utf_32_be", "utf_32_le",
    "utf_7"])

/-- Single-byte encodings whose lower half differs from ASCII where markup needs it. -/
def otherLowerHalfNames : List String × List String :=
  (["csibm037", "csibm1026", "csibm273", "csibm424", "csibm500", "csibm864", "ebcdic_cp_be",
    "ebcdic_cp_ca", "ebcdic_cp_ch", "ebcdic_cp_he", "ebcdic_cp_nl", "ebcdic_cp_us", "ebcdic_cp_wt",
    "ibm037", "ibm039", "ibm1026", "ibm1140", "ibm273", "ibm424", "ibm500", "ibm864"],
   ["cp037", "cp1026", "cp1140", "cp273", "cp424", "cp500", "cp864", "cp875", "mac_arabic",
    "mac_farsi"])

/-- Names of encodings that cannot decode single bytes. -/
def undecodableNames : List String := ["idna", "undefined"]

/-- The encoding of internationalised labels, which has no meaning for bytes from 128 on. -/
def labelEncodingNames : List String := ["punycode"]

end Nullability.Xml
