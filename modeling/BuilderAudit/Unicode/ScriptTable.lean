import BuilderAudit.Unicode.CodeSet

/-!
# Scripts

The table of the script of every scalar value that has one, as of Unicode 16.
-/

namespace BuilderAudit

/-- The scripts, each with its long name, its four-letter code and any other alias. -/
def scriptTable : List NamedSet := [
  ⟨["adlam", "adlm"],
    ["go6DrCEJEB"]⟩,
  ⟨["ahom"],
    ["g4lCaCOEW"]⟩,
  ⟨["anatolianhieroglyphs", "hluw"],
    ["ggxCmS"]⟩,
  ⟨["arabic", "arab"],
    ["gwBEBFBNBCBfBJLZBrDBhBwCvBwHeBBFqCBcwy8ByDQqLCvCC1BHAgBPwDEBmEj7DejCC3BDg43BDBaBBBACABJBDBABAGAEABABABCBBB",
     "ACABABABABABBBACDBGBDBDBABJBQFCBEBQ0BB"]⟩,
  ⟨["armenian", "armn"],
    ["xpBlBCxBCCjs9BE"]⟩,
  ⟨["avestan", "avst"],
    ["g4iC1BDG"]⟩,
  ⟨["balinese", "bali"],
    ["g4GsCBxB"]⟩,
  ⟨["bamum", "bamu"],
    ["g1pB3CoowB4R"]⟩,
  ⟨["bassavah", "bass"],
    ["w26CdCF"]⟩,
  ⟨["batak", "batk"],
    ["g+GzBID"]⟩,
  ⟨["bengali", "beng"],
    ["gsCDBHCBCVBGBADDCICBCDIAEBBECY"]⟩,
  ⟨["bhaiksuki", "bhks"],
    ["ggnCIBsBBNKc"]⟩,
  ⟨["bopomofo", "bopo"],
    ["qXB5wLqBwDf"]⟩,
  ⟨["brahmi", "brah"],
    ["ggkCtCEjBJA"]⟩,
  ⟨["braille", "brai"],
    ["ggK_H"]⟩,
  ⟨["buginese", "bugi"],
    ["gwGbCB"]⟩,
  ⟨["buhid", "buhd"],
    ["g6FT"]⟩,
  ⟨["canadianaboriginal", "cans"],
    ["ggF_TwRlC6tgCP"]⟩,
  ⟨["carian", "cari"],
    ["g1gCwB"]⟩,
  ⟨["caucasianalbanian", "aghb"],
    ["wphCzBLA"]⟩,
  ⟨["chakma", "cakm"],
    ["gokC0BBR"]⟩,
  ⟨["cham"],
    ["gwqB2BJNCJCD"]⟩,
  ⟨["cherokee", "cher"],
    ["g9E1CCFy7lBvC"]⟩,
  ⟨["chorasmian", "chrs"],
    ["w9jCb"]⟩,
  ⟨["common", "zyyy"],
    ["AgCaFauBBOBEXAfAhOmBFECT0DAJAGABA9TAGAOADAgBA8EAkQAhEB5mBA1MDiJAvvBCnCBrGBBAtmBANAHDBFBCCAlYLC2CBKDKBORgB_",
     "BlBBCCFBaBQpBCE5UWKV_cgIzTCfBoDgQ9CyMUBABYPHED7CBDA6CBzEPgBlBJAwB_BfwCvBA4CnFguG_BgoWhBmDClFJ0HAgFArMAOByu",
     "UBwGJWiBBSBDzEABfaFaKKAtBBgCGBGKEiICEsBDIwCMzBsBkHaktuBD86D5HGzN8EzD8B1HKmBC9BDQIBHdE8B1GTMTM2CJYnE0CBmCBB",
     "CACBCDBLBABGBgCBDCHBGBbBDBEBADGBzKCjJCxBxjFjCsC8BiWrBEjDMOCOBOBkBKtF4BZBBNrBEIHBOF6E3eEQDMD2DE+CGLEAPLE3BI",
     "JGnBIdCLEB+BzKMNCMDJF3BHOCKGIHyEBlDnghYAe_C"]⟩,
  ⟨["coptic", "copt", "qaac"],
    ["ifNwkKzDFG"]⟩,
  ⟨["cuneiform", "xsux"],
    ["ggoC5cmDuDBELjG"]⟩,
  ⟨["cypriot", "cprt"],
    ["ggiCFCABrBBBDACA"]⟩,
  ⟨["cyprominoan", "cpmn"],
    ["w8rCiD"]⟩,
  ⟨["cyrillic", "cyrl"],
    ["ggBkECoFw6FKgFAsCAnjEfgie_Cu8VBgw4B9BhBA"]⟩,
  ⟨["deseret", "dsrt"],
    ["gghCvC"]⟩,
  ⟨["devanagari", "deva"],
    ["goCwCEOCZg7nBfgwcJ"]⟩,
  ⟨["divesakuru", "diak"],
    ["gomCGCACHBBBdBBCLJJ"]⟩,
  ⟨["dogra", "dogr"],
    ["ggmC7B"]⟩,
  ⟨["duployan", "dupl"],
    ["ggvDqDFMDIHJCD"]⟩,
  ⟨["egyptianhieroglyphs", "egyp"],
    ["ggsC1iBK68D"]⟩,
  ⟨["elbasan", "elba"],
    ["gohCnB"]⟩,
  ⟨["elymaic", "elym"],
    ["g_jCW"]⟩,
  ⟨["ethiopic", "ethi"],
    ["gwEoCBDCGBABDCoBBDCgBBDCGBABDCOB4BBDCiCCfDZmvGWJGBGBGBGBGBGBGBGipfFCFCFJGBGxlvCGBDBBBO"]⟩,
  ⟨["garay", "gara"],
    ["gqjClBDcIB"]⟩,
  ⟨["georgian", "geor"],
    ["glElBBAFACqBBDw8CqBCCgiElBBAFA"]⟩,
  ⟨["glagolitic", "glag"],
    ["ggL_Cg9sDGBQCGBBBE"]⟩,
  ⟨["gothic", "goth"],
    ["w5gCa"]⟩,
  ⟨["grantha", "gran"],
    ["g4kCDBHCBCVBGBBBECICBCCCAGAFGCGDE"]⟩,
  ⟨["greek", "grek"],
    ["wbDBCCDBAEABABCBABTB+BOPmpGEyBEEE0CAgKVCFClBCFCHBABABABeC0BBOBNCFBSCCBInJA+xiBA6uVuCRA_i0BlC"]⟩,
  ⟨["gujarati", "gujr"],
    ["h0CCBIBCBVBGBBBECJBCBCCAPDCLHG"]⟩,
  ⟨["gunjalagondi", "gong"],
    ["grnCFBBBkBBBBFHJ"]⟩,
  ⟨["gurmukhi", "guru"],
    ["hwCCBFEBCVBGBBBBBBCABEEBCCDAHDBAHQ"]⟩,
  ⟨["gurungkhema", "gukh"],
    ["go4C5B"]⟩,
  ⟨["han", "hani"],
    ["g0LZB4CM1GvBABAZIODke_tGgC_vUgoWtLCpDoodBMBugkB_2pBgB5hEG9GCh0FOwpHPtTitC9QivBq6EF_iE"]⟩,
  ⟨["hangul", "hang"],
    ["goE_HuxHBhI9CxDehCeh3dcjUj9KMWEwBk9JeDFCFCFCC"]⟩,
  ⟨["hanifirohingya", "rohg"],
    ["gojCnBIJ"]⟩,
  ⟨["hanunoo", "hano"],
    ["g5FU"]⟩,
  ⟨["hatran", "hatr"],
    ["gniCSBBFE"]⟩,
  ⟨["hebrew", "hebr"],
    ["xsB2BIaEFop9BZBEBABBBBBJ"]⟩,
  ⟨["hiragana", "hira"],
    ["hiM1CGCh7_C+ISAdCtlQA"]⟩,
  ⟨["imperialaramaic", "armi"],
    ["giiCVBI"]⟩,
  ⟨["inherited", "zinh", "qaai"],
    ["gYvD1IBkOKaAgXD7qEehQCBMBGEAGADBmG_BsQBiGgB55DDrDBlrzBPQNveAiHA6iEAk+uBtBCWgRCRHCGeDy6rYvH"]⟩,
  ⟨["inscriptionalpahlavi", "phli"],
    ["g7iCSFH"]⟩,
  ⟨["inscriptionalparthian", "prti"],
    ["g6iCVCH"]⟩,
  ⟨["javanese", "java"],
    ["gsqBtCCJEB"]⟩,
  ⟨["kaithi", "kthi"],
    ["gkkCiCKA"]⟩,
  ⟨["kannada", "knda"],
    ["gkDMBCBWBJBECIBCBDHBGBBDCJBC"]⟩,
  ⟨["katakana", "kana"],
    ["hlM5CCCwHPwGuBB3CugzBJBsByisBDBGBBBA_ICyBAOD"]⟩,
  ⟨["kawi"],
    ["g4nCQBoBDc"]⟩,
  ⟨["kayahli", "kali"],
    ["goqBtBBA"]⟩,
  ⟨["kharoshthi", "khar"],
    ["gwiCDBBFHBCBcCCEJHI"]⟩,
  ⟨["khitansmallscript", "kits"],
    ["k_7CA74G1OpBA"]⟩,
  ⟨["khmer", "khmr"],
    ["g8F9CCJGJmPf"]⟩,
  ⟨["khojki", "khoj"],
    ["gwkCRBuB"]⟩,
  ⟨["khudawadi", "sind"],
    ["w1kC6BFJ"]⟩,
  ⟨["kiratrai", "krai"],
    ["gq7C5B"]⟩,
  ⟨["lao", "laoo"],
    ["h0DBBABEBXBABWCEBABGBJCD"]⟩,
  ⟨["latin", "latn"],
    ["hCZGZvBAPAFWBeBgOnBE7wGlBGwBFDFMBlChC_HxLANAQMtEBGAbARoB32Cfi1elDDiCCBBABHVNwZqBBIBD28TG6gBZGZlhCFBpBBIl61",
     "BeGF"]⟩,
  ⟨["lepcha", "lepc"],
    ["ggH3BDODC"]⟩,
  ⟨["limbu", "limb"],
    ["goGeBLELEADL"]⟩,
  ⟨["lineara", "lina"],
    ["gwhC2JJVKH"]⟩,
  ⟨["linearb", "linb"],
    ["gggCLBZBSBBBOCNiB6D"]⟩,
  ⟨["lisu"],
    ["wmpBvBw1eA"]⟩,
  ⟨["lycian", "lyci"],
    ["g0gCc"]⟩,
  ⟨["lydian", "lydi"],
    ["gpiCZFA"]⟩,
  ⟨["mahajani", "mahj"],
    ["wqkCmB"]⟩,
  ⟨["makasar", "maka"],
    ["g3nCY"]⟩,
  ⟨["malayalam", "mlym"],
    ["goDMBCByBBCBFEPCZ"]⟩,
  ⟨["mandaic", "mand"],
    ["giCbCA"]⟩,
  ⟨["manichaean", "mani"],
    ["g2iCmBEL"]⟩,
  ⟨["marchen", "marc"],
    ["wjnCfCVBN"]⟩,
  ⟨["masaramgondi", "gonm"],
    ["gonCGBBBrBDABBBIIJ"]⟩,
  ⟨["medefaidrin", "medf"],
    ["gy7C6C"]⟩,
  ⟨["meeteimayek", "mtei"],
    ["g3qBWpGtBCJ"]⟩,
  ⟨["mendekikakui", "mend"],
    ["gg6DkGCP"]⟩,
  ⟨["meroiticcursive", "merc"],
    ["gtiCXETCtB"]⟩,
  ⟨["meroitichieroglyphs", "mero"],
    ["gsiCf"]⟩,
  ⟨["miao", "plrd"],
    ["g47CqCE4BHQ"]⟩,
  ⟨["modi"],
    ["gwlCkCLJ"]⟩,
  ⟨["mongolian", "mong"],
    ["ggGBCABTG4CHqB1t_BM"]⟩,
  ⟨["mro", "mroo"],
    ["gy6CeBJEB"]⟩,
  ⟨["multani", "mult"],
    ["g0kCGBABDBOBK"]⟩,
  ⟨["myanmar", "mymr"],
    ["ggE_EgqmBehDfwibT"]⟩,
  ⟨["nabataean", "nbat"],
    ["gkiCeII"]⟩,
  ⟨["nagmundari", "nagm"],
    ["wm5DpB"]⟩,
  ⟨["nandinagari", "nand"],
    ["gtmCHCtBCK"]⟩,
  ⟨["newtailue", "talu"],
    ["gsGrBEZGKDB"]⟩,
  ⟨["newa"],
    ["gglC7CBE"]⟩,
  ⟨["nko", "nkoo"],
    ["g+B6BCC"]⟩,
  ⟨["nushu", "nshu"],
    ["h_7CAusQrM"]⟩,
  ⟨["nyiakengpuachuehmong", "hmnp"],
    ["go4DsBDNCJEB"]⟩,
  ⟨["ogham", "ogam"],
    ["g0Fc"]⟩,
  ⟨["olchiki", "olck"],
    ["wiHvB"]⟩,
  ⟨["olonal", "onao"],
    ["wu5DqBEA"]⟩,
  ⟨["oldhungarian", "hung"],
    ["gkjCyBNyBHF"]⟩,
  ⟨["olditalic", "ital"],
    ["g4gCjBJC"]⟩,
  ⟨["oldnortharabian", "narb"],
    ["g0iCf"]⟩,
  ⟨["oldpermic", "perm"],
    ["w6gCqB"]⟩,
  ⟨["oldpersian", "xpeo"],
    ["g9gCjBEN"]⟩,
  ⟨["oldsogdian", "sogo"],
    ["g4jCnB"]⟩,
  ⟨["oldsoutharabian", "sarb"],
    ["gziCf"]⟩,
  ⟨["oldturkic", "orkh"],
    ["ggjCoC"]⟩,
  ⟨["olduyghur", "ougr"],
    ["w7jCZ"]⟩,
  ⟨["oriya", "orya"],
    ["h4CCBHCBCVBGBBBECICBCCHCEBBECR"]⟩,
  ⟨["osage", "osge"],
    ["wlhCjBEjB"]⟩,
  ⟨["osmanya", "osma"],
    ["gkhCdCJ"]⟩,
  ⟨["pahawhhmong", "hmng"],
    ["g46ClCKJBGBUFS"]⟩,
  ⟨["palmyrene", "palm"],
    ["gjiCf"]⟩,
  ⟨["paucinhau", "pauc"],
    ["g2mC4B"]⟩,
  ⟨["phagspa", "phag"],
    ["giqB3B"]⟩,
  ⟨["phoenician", "phnx"],
    ["goiCbDA"]⟩,
  ⟨["psalterpahlavi", "phlp"],
    ["g8iCRHDMG"]⟩,
  ⟨["rejang", "rjng"],
    ["wpqBjBLA"]⟩,
  ⟨["runic", "runr"],
    ["g1FqCDK"]⟩,
  ⟨["samaritan", "samr"],
    ["ggCtBCO"]⟩,
  ⟨["saurashtra", "saur"],
    ["gkqBlCIL"]⟩,
  ⟨["sharada", "shrd"],
    ["gskC_C"]⟩,
  ⟨["shavian", "shaw"],
    ["wihCvB"]⟩,
  ⟨["siddham", "sidd"],
    ["gslC1BClB"]⟩,
  ⟨["signwriting", "sgnw"],
    ["gg2DrUPEBO"]⟩,
  ⟨["sinhala", "sinh"],
    ["hsDCBRDXBIBACGDAEFBABHGJCCs_gCT"]⟩,
  ⟨["sogdian", "sogd"],
    ["w5jCpB"]⟩,
  ⟨["sorasompeng", "sora"],
    ["wmkCYHJ"]⟩,
  ⟨["soyombo", "soyo"],
    ["wymCyC"]⟩,
  ⟨["sundanese", "sund"],
    ["g8G_BgIH"]⟩,
  ⟨["sunuwar", "sunu"],
    ["g+mChBOJ"]⟩,
  ⟨["sylotinagri", "sylo"],
    ["ggqBsB"]⟩,
  ⟨["syriac", "syrc"],
    ["g4BNB7BCCwIK"]⟩,
  ⟨["tagalog", "tglg"],
    ["g4FVJA"]⟩,
  ⟨["tagbanwa", "tagb"],
    ["g7FMBCBB"]⟩,
  ⟨["taile", "tale"],
    ["wqGdCE"]⟩,
  ⟨["taitham", "lana"],
    ["gxG+BBcCKGJGN"]⟩,
  ⟨["taiviet", "tavt"],
    ["g0qBiCYE"]⟩,
  ⟨["takri", "takr"],
    ["g0lC5BGJ"]⟩,
  ⟨["tamil", "taml"],
    ["i8CBBFDCBDDBBABBDBDCDLEEDCBDCAGAOUl+kCxBNA"]⟩,
  ⟨["tangsa", "tnsa"],
    ["wz6CuCBJ"]⟩,
  ⟨["tangut", "tang"],
    ["g_7CAf3_FI_XgQI"]⟩,
  ⟨["telugu", "telu"],
    ["ggDMBCBWBPCIBCBDHBBCCACDCJHI"]⟩,
  ⟨["thaana", "thaa"],
    ["g8BxB"]⟩,
  ⟨["thai"],
    ["hwD5BFb"]⟩,
  ⟨["tibetan", "tibt"],
    ["g4DnCBjBEmBBjBBOBGEB"]⟩,
  ⟨["tifinagh", "tfng"],
    ["wpL3BHBOA"]⟩,
  ⟨["tirhuta", "tirh"],
    ["gklCnCIJ"]⟩,
  ⟨["todhri", "todr"],
    ["guhCzB"]⟩,
  ⟨["toto"],
    ["w04De"]⟩,
  ⟨["tulutigalari", "tutg"],
    ["g8kCJBACABlBBJBACABDBJBBIB"]⟩,
  ⟨["ugaritic", "ugar"],
    ["g8gCdBA"]⟩,
  ⟨["vai", "vaii"],
    ["gopBrJ"]⟩,
  ⟨["vithkuqi", "vith"],
    ["wrhCKBOBGBBBKBOBGBB"]⟩,
  ⟨["wancho", "wcho"],
    ["g24D5BFA"]⟩,
  ⟨["warangciti", "wara"],
    ["glmCyCMA"]⟩,
  ⟨["yezidi", "yezi"],
    ["g0jCpBBCCB"]⟩,
  ⟨["yi", "yiii"],
    ["ggoBskBD2B"]⟩,
  ⟨["zanabazarsquare", "zanb"],
    ["gwmCnC"]⟩]

end BuilderAudit
