import ScriptGrader.Text.CodePage

/-!
# Rearranged code pages

The code pages in which characters of ASCII have other bytes, with their
names.
-/

namespace ScriptGrader.Text.CodePage

/-- The code pages in which characters of ASCII have other bytes. -/
def rearranged : List CodePage := [
  ⟨⟨["cp037"],
    ["037", "csibm037", "ebcdic_cp_ca", "ebcdic_cp_nl", "ebcdic_cp_us", "ebcdic_cp_wt", "ibm037",
     "ibm039"]⟩,
    0x4, [
      "\x9c\x09\x86\x7f\x97\x8d\x8e\x0b\x0c\x0d\x0e\x0f\x10\x11\x12\x13",
      "\x9d\x85\x08\x87\x18\x19\x92\x8f\x1c\x1d\x1e\x1f\x80\x81\x82\x83",
      "\x84\x0a\x17\x1b\x88\x89\x8a\x8b\x8c\x05\x06\x07\x90\x91\x16\x93",
      "\x94\x95\x96\x04\x98\x99\x9a\x9b\x14\x15\x9e\x1a \xa0âäàáãåçñ¢.<(+|&éêë",
      "èíîïìß!$*);¬-/ÂÄÀÁÃÅÇÑ¦,%_>?øÉÊË",
      "ÈÍÎÏÌ\x60:#@'=\"Øabcdefghi«»ðýþ±°jkl",
      "mnopqrªºæ¸Æ¤µ~stuvwxyz¡¿ÐÝÞ®^£¥·",
      "©§¶¼½¾[]¯¨´×\x7bABCDEFGHI\xadôöòóõ\x7dJKL",
      "MNOPQR¹ûüùúÿ\\÷STUVWXYZ²ÔÖÒÓÕ0123",
      "456789³ÛÜÙÚ\x9f"]⟩,
  ⟨⟨["cp1026"],
    ["1026", "csibm1026", "ibm1026"]⟩,
    0x4, [
      "\x9c\x09\x86\x7f\x97\x8d\x8e\x0b\x0c\x0d\x0e\x0f\x10\x11\x12\x13",
      "\x9d\x85\x08\x87\x18\x19\x92\x8f\x1c\x1d\x1e\x1f\x80\x81\x82\x83",
      "\x84\x0a\x17\x1b\x88\x89\x8a\x8b\x8c\x05\x06\x07\x90\x91\x16\x93",
      "\x94\x95\x96\x04\x98\x99\x9a\x9b\x14\x15\x9e\x1a \xa0âäàáãå\x7bñÇ.<(+!&éêë",
      "èíîïìßĞİ*);^-/ÂÄÀÁÃÅ[Ñş,%_>?øÉÊË",
      "ÈÍÎÏÌı:ÖŞ'=ÜØabcdefghi«»\x7d\x60¦±°jkl",
      "mnopqrªºæ¸Æ¤µöstuvwxyz¡¿]$@®¢£¥·",
      "©§¶¼½¾¬|¯¨´×çABCDEFGHI\xadô~òóõğJKL",
      "MNOPQR¹û\\ùúÿü÷STUVWXYZ²Ô#ÒÓÕ0123",
      "456789³Û\"ÙÚ\x9f"]⟩,
  ⟨⟨["cp1140"],
    ["1140", "ibm1140"]⟩,
    0x4, [
      "\x9c\x09\x86\x7f\x97\x8d\x8e\x0b\x0c\x0d\x0e\x0f\x10\x11\x12\x13",
      "\x9d\x85\x08\x87\x18\x19\x92\x8f\x1c\x1d\x1e\x1f\x80\x81\x82\x83",
      "\x84\x0a\x17\x1b\x88\x89\x8a\x8b\x8c\x05\x06\x07\x90\x91\x16\x93",
      "\x94\x95\x96\x04\x98\x99\x9a\x9b\x14\x15\x9e\x1a \xa0âäàáãåçñ¢.<(+|&éêë",
      "èíîïìß!$*);¬-/ÂÄÀÁÃÅÇÑ¦,%_>?øÉÊË",
      "ÈÍÎÏÌ\x60:#@'=\"Øabcdefghi«»ðýþ±°jkl",
      "mnopqrªºæ¸Æ€µ~stuvwxyz¡¿ÐÝÞ®^£¥·",
      "©§¶¼½¾[]¯¨´×\x7bABCDEFGHI\xadôöòóõ\x7dJKL",
      "MNOPQR¹ûüùúÿ\\÷STUVWXYZ²ÔÖÒÓÕ0123",
      "456789³ÛÜÙÚ\x9f"]⟩,
  ⟨⟨["cp273"],
    ["273", "csibm273", "ibm273"]⟩,
    0x4, [
      "\x9c\x09\x86\x7f\x97\x8d\x8e\x0b\x0c\x0d\x0e\x0f\x10\x11\x12\x13",
      "\x9d\x85\x08\x87\x18\x19\x92\x8f\x1c\x1d\x1e\x1f\x80\x81\x82\x83",
      "\x84\x0a\x17\x1b\x88\x89\x8a\x8b\x8c\x05\x06\x07\x90\x91\x16\x93",
      "\x94\x95\x96\x04\x98\x99\x9a\x9b\x14\x15\x9e\x1a \xa0â\x7bàáãåçñÄ.<(+!&éêë",
      "èíîïì~Ü$*);^-/Â[ÀÁÃÅÇÑö,%_>?øÉÊË",
      "ÈÍÎÏÌ\x60:#§'=\"Øabcdefghi«»ðýþ±°jkl",
      "mnopqrªºæ¸Æ¤µßstuvwxyz¡¿ÐÝÞ®¢£¥·",
      "©@¶¼½¾¬|‾¨´×äABCDEFGHI\xadô¦òóõüJKL",
      "MNOPQR¹û\x7dùúÿÖ÷STUVWXYZ²Ô\\ÒÓÕ0123",
      "456789³Û]ÙÚ\x9f"]⟩,
  ⟨⟨["cp424"],
    ["424", "csibm424", "ebcdic_cp_he", "ibm424"]⟩,
    0x4, [
      "\x9c\x09\x86\x7f\x97\x8d\x8e\x0b\x0c\x0d\x0e\x0f\x10\x11\x12\x13",
      "\x9d\x85\x08\x87\x18\x19\x92\x8f\x1c\x1d\x1e\x1f\x80\x81\x82\x83",
      "\x84\x0a\x17\x1b\x88\x89\x8a\x8b\x8c\x05\x06\x07\x90\x91\x16\x93",
      "\x94\x95\x96\x04\x98\x99\x9a\x9b\x14\x15\x9e\x1a \u05d0\u05d1\u05d2",
      "\u05d3\u05d4\u05d5\u05d6\u05d7\u05d8¢.<(+|&\u05d9\u05da\u05db",
      "\u05dc\u05dd\u05de\u05df\u05e0\u05e1!$*);¬-/\u05e2\u05e3",
      "\u05e4\u05e5\u05e6\u05e7\u05e8\u05e9¦,%_>?�\u05ea��\xa0���‗\x60:#@'=\"�abc",
      "defghi«»���±°jklmnopqr���¸�¤µ~st",
      "uvwxyz�����®^£¥·©§¶¼½¾[]¯¨´×\x7bABC",
      "DEFGHI\xad�����\x7dJKLMNOPQR¹�����\\÷ST",
      "UVWXYZ²�����0123456789³����\x9f"]⟩,
  ⟨⟨["cp500"],
    ["500", "csibm500", "ebcdic_cp_be", "ebcdic_cp_ch", "ibm500"]⟩,
    0x4, [
      "\x9c\x09\x86\x7f\x97\x8d\x8e\x0b\x0c\x0d\x0e\x0f\x10\x11\x12\x13",
      "\x9d\x85\x08\x87\x18\x19\x92\x8f\x1c\x1d\x1e\x1f\x80\x81\x82\x83",
      "\x84\x0a\x17\x1b\x88\x89\x8a\x8b\x8c\x05\x06\x07\x90\x91\x16\x93",
      "\x94\x95\x96\x04\x98\x99\x9a\x9b\x14\x15\x9e\x1a \xa0âäàáãåçñ[.<(+!&éêë",
      "èíîïìß]$*);^-/ÂÄÀÁÃÅÇÑ¦,%_>?øÉÊË",
      "ÈÍÎÏÌ\x60:#@'=\"Øabcdefghi«»ðýþ±°jkl",
      "mnopqrªºæ¸Æ¤µ~stuvwxyz¡¿ÐÝÞ®¢£¥·",
      "©§¶¼½¾¬|¯¨´×\x7bABCDEFGHI\xadôöòóõ\x7dJKL",
      "MNOPQR¹ûüùúÿ\\÷STUVWXYZ²ÔÖÒÓÕ0123",
      "456789³ÛÜÙÚ\x9f"]⟩,
  ⟨⟨["cp875"],
    []⟩,
    0x4, [
      "\x9c\x09\x86\x7f\x97\x8d\x8e\x0b\x0c\x0d\x0e\x0f\x10\x11\x12\x13",
      "\x9d\x85\x08\x87\x18\x19\x92\x8f\x1c\x1d\x1e\x1f\x80\x81\x82\x83",
      "\x84\x0a\x17\x1b\x88\x89\x8a\x8b\x8c\x05\x06\x07\x90\x91\x16\x93",
      "\x94\x95\x96\x04\x98\x99\x9a\x9b\x14\x15\x9e\x1a ΑΒΓΔΕΖΗΘΙ[.<(+!&ΚΛΜ",
      "ΝΞΟΠΡΣ]$*);^-/ΤΥΦΧΨΩΪΫ|,%_>?¨ΆΈΉ",
      "\xa0ΊΌΎΏ\x60:#@'=\"΅abcdefghiαβγδεζ°jkl",
      "mnopqrηθικλμ´~stuvwxyzνξοπρσ£άέή",
      "ϊίόύϋώςτυφχψ\x7bABCDEFGHI\xadωΐΰ‘―\x7dJKL",
      "MNOPQR±½\x1a·’¦\\\x1aSTUVWXYZ²§\x1a\x1a«¬0123",
      "456789³©\x1a\x1a»\x9f"]⟩]

end ScriptGrader.Text.CodePage
