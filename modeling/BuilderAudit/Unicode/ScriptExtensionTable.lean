import BuilderAudit.Unicode.CodeSet

/-!
# Script extensions

A character may be used with several scripts. The table lists the scripts whose extended set of characters differs
from the characters of the script itself, as of Unicode 16.
-/

namespace BuilderAudit

/-- The characters used with a script, for the scripts where these are not just the characters of the script. -/
def scriptExtensionTable : List NamedSet := [
  ⟨["adlam"],
    ["_wBAgBAuwGAxvDA+1uDrCEJEB"]⟩,
  ⟨["arabic"],
    ["gwBEB2GBhBwCvBwHeBBFqCBcv6FAxvDAuozByDQ8NC1BHAgBPwDEBmEjfbk7CejCC3BDg43BDBaBBBACABJBDBABAGAEABABABCBBBACAB",
     "ABABABABBBACDBGBDBDBABJBQFCBEBQ0BB"]⟩,
  ⟨["armenian"],
    ["oYAoRlBCxBCCjs9BE"]⟩,
  ⟨["avestan"],
    ["3FA4rLBum3B1BDG"]⟩,
  ⟨["bengali"],
    ["8VA00BBRBaDBHCBCVBGBADDCICBCDIAEBBECYx2EABACBBAIAIACAEACC5_iBA"]⟩,
  ⟨["bopomofo"],
    ["nWABCNAQB1oLCEJBMKDCAGAjGAJqBwDflkzBB6IE"]⟩,
  ⟨["buginese"],
    ["gwGbCBv9jBA"]⟩,
  ⟨["buhid"],
    ["15FBJT"]⟩,
  ⟨["carian"],
    ["3FAi9HACAzuDAuj1BwB"]⟩,
  ⟨["caucasianalbanian"],
    ["kYAsBAsBAxugCzBLA"]⟩,
  ⟨["chakma"],
    ["mvCJwyBJ2lgC0BBR"]⟩,
  ⟨["cherokee"],
    ["gYCBAGBWBLBujE1CCFy7lBvC"]⟩,
  ⟨["common"],
    ["AgCaFauBBLBBBEXAfAhOCBJBADABIBABFFECT+DAGABA9TA3GAkQA8qBA1MDnhELCgBBeBJBBBGBKDKBORgB_BlBBCCFBaBQpBCE5UWKV_",
     "cgIzTCfBoDgQWBXCJBDBABZiNADANANAVAxQXfAxBOMDhFJF_CfAguG_BooWZmDCweAOBk1UJWUCLBSBDzEABfaFaF_DGBGKEyMMzBsBjw",
     "yB5HGzN8EzD8B1HKmBC9BDQIBHdE8B1GTMTM2CbGnE0CBmCBBCACBCDBLBABGBgCBDCHBGBbBDBEBADGBzKCjJCxBxjFjCsC8BiWrBEjDM",
     "OCOBOBkBKtF4BZBBNrBEIXF6E3eEQDMD2DE+CGLEAPLE3BIJGnBIdCLEB+BzKMNCMDJF3BHOCKGIHyEBlDnghYAe_C"]⟩,
  ⟨["coptic"],
    ["3FAoSADBBAsDBsDNwkKzDFG3IAom1Bb"]⟩,
  ⟨["cypriot"],
    ["gogCCEsBDIg2BFCABrBBBDACA"]⟩,
  ⟨["cyprominoan"],
    ["gogCBu0LiD"]⟩,
  ⟨["cyrillic"],
    ["8VAjCCBABABACAFAuHvJw6FKgFAsCA_DAn_DfjCA8_d_Cu8VBgw4B9BhBA"]⟩,
  ⟨["devanagari"],
    ["8VAjyByCCqBw6EmBBB2fA_5hBJmFfgwcJ"]⟩,
  ⟨["dogra"],
    ["krCLg2nBJm+b7B"]⟩,
  ⟨["duployan"],
    ["3FAvSBBAYB34KAjujDqDFMDIHJCH"]⟩,
  ⟨["elbasan"],
    ["3FAtSA6vgCnB"]⟩,
  ⟨["ethiopic"],
    ["uYAx3DoCBDCGBABDCoBBDCgBBDCGBABDCOB4BBDCiCCfDZmvGWJGBGBGBGBGBGBGBGipfFCFCFJGBGxlvCGBDBBBO"]⟩,
  ⟨["garay"],
    ["swBAOADAg5hClBDcIB"]⟩,
  ⟨["georgian"],
    ["3FAxmBA24ClBBAFACvBw8CqBCC6cAllDlBBAFAjIA"]⟩,
  ⟨["glagolitic"],
    ["3FArSABA+LACAhIAx7CA+6DAl9C_CjPArheAwsuCGBQCGBBBE"]⟩,
  ⟨["gothic"],
    ["3FAsSBCAoBA+__Ba"]⟩,
  ⟨["grantha"],
    ["xqCBRBgUN8mEABBeCDB2fAvw8BDBHCBCVBGBBBEBJCBCCCAGAFGCGDE7iDBBA"]⟩,
  ⟨["greek"],
    ["3FAoSBCABABAKAuBACAqBHCDBAEABABCBABTB+BOPmpGEyBEEE0CC+JVCFClBCFCHBABABABeC0BBOBNCFBSCCBI+CAoGA+xiBA6uVuCRA",
     "_i0BlC"]⟩,
  ⟨["gujarati"],
    ["xqCBRB7ICBIBCBVBGBBBECJBCBCCAPDCLHGwpnBJ"]⟩,
  ⟨["gunjalagondi"],
    ["3FAslCB6_kCFBBBkBBBBFHJ"]⟩,
  ⟨["gurmukhi"],
    ["xqCBRB7ECBFEBCVBGBBBBBBCABEEBCCDAHDBAHQ5tnBJ"]⟩,
  ⟨["gurungkhema"],
    ["lrCA681C5B"]⟩,
  ⟨["han"],
    ["3FAouLZB4CM1GaPBCBMBMBMCAGI7FA0EPgBlBJAwBnB4BwBPLzBA4CYKEgDeB_tGgC_vUg4BH4vUtLCpDrbB6IE8jcBMBu7YR+2HButD_2",
     "pBgB5hEG9GCh0FOwpHPtTitC9QivBq6EF_iE"]⟩,
  ⟨["hangul"],
    ["goE_HhwHCEJBMOCGAjGA1B9CxDehCeh3dcjUj9KMWEwBpyJB6IE6BeDFCFCFCC"]⟩,
  ⟨["hanifirohingya"],
    ["swBAOADAgBAzEArxhCnBIJ"]⟩,
  ⟨["hanunoo"],
    ["g5FW"]⟩,
  ⟨["hebrew"],
    ["nYBoU2BIaEFop9BZBEBABBBBBJ"]⟩,
  ⟨["hiragana"],
    ["hgMCEJBMQFBAEBD1CCH6CBoqzBB6IEKAtBBhjsB+ISAdCtlQA"]⟩,
  ⟨["inherited"],
    ["vYACABODGCACPBBBRBEBDwvBB7qEezX1BBABEsQBiGfwo3BPQNveAiozBtBCWgRCRHCGeDy6rYvH"]⟩,
  ⟨["javanese"],
    ["gsqBtCBKEB"]⟩,
  ⟨["kaithi"],
    ["mrCJhmJA+veJmiaiCKA"]⟩,
  ⟨["kannada"],
    ["xqCBRB6YMBCBWBJBECIBCBDHBGBBDCJBC8+DABBGAXABA75iBF"]⟩,
  ⟨["katakana"],
    ["lYAdA9mLCEJBMQFBAEB7CDD_CwHPwGuBB3Ct3yBB6I+BwisBDBGBBBA_ICyBAOD"]⟩,
  ⟨["kayahli"],
    ["goqBvB"]⟩,
  ⟨["khojki"],
    ["m3CJgqnBJmuaRBuB"]⟩,
  ⟨["khudawadi"],
    ["krCBq2nBJ2za6BFJ"]⟩,
  ⟨["latin"],
    ["hCZGZvBAMACAFWBeBgODAKABCBAJABAGEbOBBBAPCHBBBmBAFAEM1IBqmBBo9BAkgDlBGwBFDFMBlC5BAH_HvJAhCANAQMzCA5BBGAbARo",
     "B32Cf3MAoneHalDDiCCBBABHVNuJAhQqBBIBD28TG6gBZGZlhCFBpBBIl61BeGF"]⟩,
  ⟨["limbu"],
    ["lrCA68DeBLELEADL"]⟩,
  ⟨["lineara"],
    ["nogCsBsmB2JJVKH"]⟩,
  ⟨["linearb"],
    ["gggCLBZBSBBBOCNiB6DFCEsBDI"]⟩,
  ⟨["lisu"],
    ["8VAQA8pLBkmdvBw1eA"]⟩,
  ⟨["lycian"],
    ["6iIAlx4Bc"]⟩,
  ⟨["lydian"],
    ["3FA5rLAu32BZFA"]⟩,
  ⟨["mahajani"],
    ["3FAslCLg2nBJ2oamB"]⟩,
  ⟨["malayalam"],
    ["xqCBRB6cMBCByBBCBFEPCZ66DAXA95iBC"]⟩,
  ⟨["mandaic"],
    ["gyBA_PbCA"]⟩,
  ⟨["manichaean"],
    ["gyBA_jhCmBEL"]⟩,
  ⟨["masaramgondi"],
    ["krCB68kCGBBBrBDABBBIIJ"]⟩,
  ⟨["meroitichieroglyphs"],
    ["9iIAip6Bf"]⟩,
  ⟨["modi"],
    ["whqBJmubkCLJ"]⟩,
  ⟨["mongolian"],
    ["ggGZG4CHqBk8BAx+DBFD0y5BM"]⟩,
  ⟨["multani"],
    ["mzCJwgiCGBABDBOBK"]⟩,
  ⟨["myanmar"],
    ["ggE_EukmBAxFehDfwibT"]⟩,
  ⟨["nandinagari"],
    ["xqCASBgcJ5_DAIAHA15iBFqrcHCtBCK"]⟩,
  ⟨["newa"],
    ["xqCBi8EABBJAGABABAy49B7CBE"]⟩,
  ⟨["nko"],
    ["swBAOADAgN6BCC+p9BB"]⟩,
  ⟨["olonal"],
    ["krCBqj3DqBEA"]⟩,
  ⟨["oldhungarian"],
    ["6iIACAzuDAPA+x3ByBNyBHF"]⟩,
  ⟨["oldpermic"],
    ["3FAoSAFCKAvLAs2_BqB"]⟩,
  ⟨["oldturkic"],
    ["6iIA1uDAvu3BoC"]⟩,
  ⟨["olduyghur"],
    ["gyBAxlhCA9jBZ"]⟩,
  ⟨["oriya"],
    ["xqCBRB7MCBHCBCVBGBBBECICBCCHCEBBECRirEAXA"]⟩,
  ⟨["osage"],
    ["hYACAGAsCA3qgCjBEjB"]⟩,
  ⟨["phagspa"],
    ["igGBBAphCAy+DA9he3B"]⟩,
  ⟨["psalterpahlavi"],
    ["gyBA_phCRHDMG"]⟩,
  ⟨["runic"],
    ["g1F4C"]⟩,
  ⟨["samaritan"],
    ["ggCtBCOyvJA"]⟩,
  ⟨["sharada"],
    ["xqCAl8EABACBCAJACAi6iBFCAnqa_C"]⟩,
  ⟨["shavian"],
    ["3FA48gCvB"]⟩,
  ⟨["sinhala"],
    ["krCB7gBCBRDXBIBACGDAEFBABHGJCC93DAun9BT"]⟩,
  ⟨["sogdian"],
    ["gyBAvniCpB"]⟩,
  ⟨["sunuwar"],
    ["gYBBAJACAcADAukmChBOJ"]⟩,
  ⟨["sylotinagri"],
    ["krCBgEJwwnBsB"]⟩,
  ⟨["syriac"],
    ["jYBCBBAYCHBBB6WAOBCAgBAKKaAvENB7BCCwIKtsFABA"]⟩,
  ⟨["tagalog"],
    ["g4FVJAVB"]⟩,
  ⟨["tagbanwa"],
    ["15FBpBMBCBB"]⟩,
  ⟨["taile"],
    ["gYBFBDAzpDJmoCdCE"]⟩,
  ⟨["takri"],
    ["krCBq2nBJmyb5BGJ"]⟩,
  ⟨["tamil"],
    ["xqCBRB8QBBFDCBDDBBABBDBDCDLEEDCBDCAGAOU_mEA4gjBAtwaABA3BBjkDxBNA"]⟩,
  ⟨["tangut"],
    ["w_LPvPAwvvCAf3_FI_XgQI"]⟩,
  ⟨["telugu"],
    ["xqCBRB6UMBCBWBPCIBCBDHBBCCACDCJHI1iEBBABAXA"]⟩,
  ⟨["thaana"],
    ["swBAOBCAgCJ2IxBgy9BAKA"]⟩,
  ⟨["thai"],
    ["8VAaArBAtBAv2C5BFb"]⟩,
  ⟨["tibetan"],
    ["g4DnCBjBEmBBjBBOBGEBthID"]⟩,
  ⟨["tifinagh"],
    ["iYABABDZAswK3BHBOA"]⟩,
  ⟨["tirhuta"],
    ["xqCBRBv7EAMAPA95iBJmibnCIJ"]⟩,
  ⟨["todhri"],
    ["hYACACAJABAqCAhzgCzB"]⟩,
  ⟨["toto"],
    ["8VAz+3De"]⟩,
  ⟨["tulutigalari"],
    ["mnDJigEABA75iBF7FAu0aJBACABlBBJBACABDBJBBIB"]⟩,
  ⟨["yezidi"],
    ["swBAOADAgCJ2giCpBBCCB"]⟩,
  ⟨["yi"],
    ["hgMBFJCH_GAk4bskBD2B60WE"]⟩]

end BuilderAudit
