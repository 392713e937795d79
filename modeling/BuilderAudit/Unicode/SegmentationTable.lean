import BuilderAudit.Unicode.CodeSet

/-!
# Text segmentation

The tables of the values by which text is cut into grapheme clusters, words and sentences, as of Unicode 16.
-/

namespace BuilderAudit

def graphemeBreakTable : List NamedSet := [
  ⟨["cr"],
    ["NA"]⟩,
  ⟨["control", "cn"],
    ["AJBBBR_CgBNAurBAxvEA8_BACBYGxBPv03BAwHL0hNPgjiBDvmFHl0rYfgD_DwHvwD"]⟩,
  ⟨["extend", "ex"],
    ["gYvDzIGnIsBBABBBBBAoCKwBUQAlDGCFCBBDjBAea7CK6BIJAYDBIBCBErBC7BIqBXBf3BABAEHEADGKBdA6BABACDIAJAKBaACB5BAEBE",
     "BCCDAeBDALB5BAEEBBEAUBWFBA6BABBBDIAHCKBeA7BABAMAJAoBADA3BABCFCBDHBLBdA6BACBBADCBDHBLBcB5BBBACDIAJAKBdAoCAE",
     "ACCBAIAxCACGMHiDACILGpCBbABABA3BNBEBBFKBjBJAmDDBFBBCBZBECQDNACBGAPA_VCydDcCdBeBgCBBGIACKJAtBCBA1DBiBA2DCEB",
     "JAGC7GBCA6BABGBABACHGJCAwBexBDwBJECmBIMBgBDCF4BABBDABE4BHCB4ECBMBGEAGADBmG_BsQAjGgB+_CCtEAgDfqRFpDB0udDBJg",
     "BBwCBwIADAEAZBFA3EBaRNAmBHZKBAsBCwBACDCBCAkBAjCFCBCBMAIAvBAzBABCCBFBBAqBBIAuHACAEAw5TAhXPQPuLB9SAiHA1EEm0B",
     "CBBFDoBCEAlFB9RDhCE9JBvCDmCKxBD7DA2BOpBACBKCxBDCBHA9BCkBEBH+BAMB0BIBAIDCA_CCCDGACA9EADHVB5BBBABAMAJAOGDEjC",
     "ACFBACABCECBAOB1CHCCBAXAxCACFBACABBBBrHACDGBBBbB1CHCABBqDABACHlDABACDBEjIIBB1HAKDEAwEDCBEAgBJoBFCDIAJFCCuB",
     "MBB2MGBFBAyCVCGBBBB6DFDABBBGBAoCBDABA7KBLB0BEFCXAlnFAGOomLLDCguCE7BG4gBA_BDxCALBrlTBhzEtBCW+QEDFIHCGeD0EC7",
     "9B2BExBIAOAWEBOwqBGBQCGBBBEkDAgFG3LA9BD8PD+HBgXGtDGw1CEghjY_CgEvH"]⟩,
  ⟨["l"],
    ["goE_CggmBc"]⟩,
  ⟨["lf"],
    ["KA"]⟩,
  ⟨["lv"],
    ["ggrBAbAbAbAbAbAbAbAbAbAbAbAbAbAbAbAbAbAbAbAbAbAbAbAbAbAbAbAbAbAbAbAbAbAbAbAbAbAbAbAbAbAbAbAbAbAbAbAbAbAbAb",
     "AbAbAbAbAbAbAbAbAbAbAbAbAbAbAbAbAbAbAbAbAbAbAbAbAbAbAbAbAbAbAbAbAbAbAbAbAbAbAbAbAbAbAbAbAbAbAbAbAbAbAbAbAb",
     "AbAbAbAbAbAbAbAbAbAbAbAbAbAbAbAbAbAbAbAbAbAbAbAbAbAbAbAbAbAbAbAbAbAbAbAbAbAbAbAbAbAbAbAbAbAbAbAbAbAbAbAbAb",
     "AbAbAbAbAbAbAbAbAbAbAbAbAbAbAbAbAbAbAbAbAbAbAbAbAbAbAbAbAbAbAbAbAbAbAbAbAbAbAbAbAbAbAbAbAbAbAbAbAbAbAbAbAb",
     "AbAbAbAbAbAbAbAbAbAbAbAbAbAbAbAbAbAbAbAbAbAbAbAbAbAbAbAbAbAbAbAbAbAbAbAbAbAbAbAbAbAbAbAbAbAbAbAbAbAbAbAbAb",
     "AbAbAbAbAbAbAbAbAbAbAbAbAbAbAbAbAbAbAbAbAbAbAbAbAbAbAbAbAbAbAbAbAbAbAbAbAbAbAbAbAbAbAbAbAbAbAbAbAbAbAbAbAb",
     "AbAbAbAbAbAbAbAbAbAbAbAbAbAbAbAbAbAbAbAbAbAbAbAbAbAbAbAbAbAbAbAbAbAbAbAbAbAbAbAbAbAbAbAbAbAbAbAbAbAbAbAbAb",
     "AbAbAbAbAbAbAbAbAbAbAbAbAbAbAbAbAbAbAbAbAbAbAbAbAbAbAbAbAbA"]⟩,
  ⟨["lvt"],
    ["hgrBaBaBaBaBaBaBaBaBaBaBaBaBaBaBaBaBaBaBaBaBaBaBaBaBaBaBaBaBaBaBaBaBaBaBaBaBaBaBaBaBaBaBaBaBaBaBaBaBaBaBaB",
     "aBaBaBaBaBaBaBaBaBaBaBaBaBaBaBaBaBaBaBaBaBaBaBaBaBaBaBaBaBaBaBaBaBaBaBaBaBaBaBaBaBaBaBaBaBaBaBaBaBaBaBaBaB",
     "aBaBaBaBaBaBaBaBaBaBaBaBaBaBaBaBaBaBaBaBaBaBaBaBaBaBaBaBaBaBaBaBaBaBaBaBaBaBaBaBaBaBaBaBaBaBaBaBaBaBaBaBaB",
     "aBaBaBaBaBaBaBaBaBaBaBaBaBaBaBaBaBaBaBaBaBaBaBaBaBaBaBaBaBaBaBaBaBaBaBaBaBaBaBaBaBaBaBaBaBaBaBaBaBaBaBaBaB",
     "aBaBaBaBaBaBaBaBaBaBaBaBaBaBaBaBaBaBaBaBaBaBaBaBaBaBaBaBaBaBaBaBaBaBaBaBaBaBaBaBaBaBaBaBaBaBaBaBaBaBaBaBaB",
     "aBaBaBaBaBaBaBaBaBaBaBaBaBaBaBaBaBaBaBaBaBaBaBaBaBaBaBaBaBaBaBaBaBaBaBaBaBaBaBaBaBaBaBaBaBaBaBaBaBaBaBaBaB",
     "aBaBaBaBaBaBaBaBaBaBaBaBaBaBaBaBaBaBaBaBaBaBaBaBaBaBaBaBaBaBaBaBaBaBaBaBaBaBaBaBaBaBaBaBaBaBaBaBaBaBaBaBaB",
     "aBaBaBaBaBaBaBaBaBaBaBaBaBaBaBaBaBaBaBaBaBaBaBaBaBaBaBaBaBa"]⟩,
  ⟨["prepend", "pp"],
    ["gwBF3GAxBAgMBwCArjBAu7gCAPA0HBtQAtrBABA4HApCF8VA7NA"]⟩,
  ⟨["regionalindicator", "ri"],
    ["mv8DZ"]⟩,
  ⟨["spacingmark", "sm"],
    ["joCA3BACCIDBByBB7BBGBCB2BA6BCiCA6BCIABB1BB8BAGBCByDABBDCBC0BC9BD9BB6BACABBuBAOB7BBFCBC1BBsCBGGTB_BA_DAqEB_",
     "BAxFAJBZBsBAx5BAHHBB6KDCCEBBFgHB6BABAVFxEA5BDgCAeAEB_BACCBA1BHIBrFAVAr5iBBCA4CByBPuEAwBAwBBEBCBvDBCBYA9EAC",
     "BFAtHBBBBBBAzgZABA_DAtBCEBzDAYB7BAwBCJAOA9CCDBsFCfB7BABDCBCBVB1CBPABBnDCIBDArDBGABBBACAuHBGDCAxDCIBBAtDABB",
     "uDAHAlICJA4HEBBHABAuECIDEA0CAdB+BA3MAOAqDAHACA1GEEBBA+KBMAwBBIBqvQCkxD2B"]⟩,
  ⟨["t"],
    ["otE3CruxBwB"]⟩,
  ⟨["v"],
    ["grEnCowxBW8slBADD"]⟩,
  ⟨["zwj"],
    ["tgIA"]⟩]

def wordBreakTable : List NamedSet := [
  ⟨["aletter", "le"],
    ["hCZGZvBAKAEAFWBeB_OGhBwDEBBCDBAGABCBABTByCBqEIlFBlBCDBABoBBAoDAsBqBjBBBiDBAPBHBKCCAQABdd4CLAYgBJBEAFVEAJAD",
     "AXYHKFXBFRpB6B1BDASAHJPPEHCBCVBGBADDDAQANBBCOBKAIFEBCVBGBBBBBBfDBATCQIBCBVBGBBBEDASAPBXALHCBCVBGBBBEDAeBBC",
     "PARABFDCBDDBBABBDBDCDLWA0BHBCBWBPDAaCCACBeAEHBCBWBJBEDAfBBBPBRIBCBoBCAQAFCICYFFRDXBIBACG5JA_BHBjBbEzIlBBAF",
     "ACqBBsKBDCGBABDCoBBDCgBBDCGBABDCOB4BBDCiClBPQ1CCFDrTCQBZFqCDKHRNSOROMBCvF4CHEChBBAFlCKehHWuHuBRH2BdNBKrBaj",
     "BpBCKjBCKFqBCCpBDBFBBDAF_FgC1ICFClBCFCHBABABABeC0BBGBADCBGDDCFEMFCBG0DANAQMlDAEACJBADEGABABABDBKCDFEEARoBt",
     "ZzB24BkHGDDBMlBBAFAC3BHAQWJGBGBGBGBGBGBGBGwCA1OA1BBoGqBB9CRfgybskBjCtBCsIDPKBUuBQeCvCYlGCBBABHVPBCBDBWdzBO",
     "xB+BFDABBLbKWZcHuBcAwBoBXCBH0EKHCMFCFCFJGBGB5BGyDdj9KMWEwBk4IGME4BhDhBqLS_BC1BoBL0DEBmEkBZGZlCeDFCFCFCCjBL",
     "BZBSBBBOCNiB6DlC0BrIcDwBvBfNdFlBKdCjBEHBEqB9ESjBEjBEnBIzBMKBOBGBBBKBOBGBBDzBM2JJVKHYFBpBBIlCFCABrBBBDACWKW",
     "JehCSBBKVKZmC3BGBgCAPDBCBcqBcDcjBHBbb1BKVKSNRuDoC3ByBNyBNjBmBbJW6HpBGBQC7BcKAIVqBRuBUbWM0B5BBCANsBgBYajBdA",
     "CAIiBDAMvBODVABAjBRBYTB_BGBABDBOBJHuBmBHCBCVBGBBBEDASAMEeJBACABlBBAZABAsB0BSDUCevBUBBA4FuBpBDkBvBUA7BqBNAn",
     "KrB0D_BfHCACHBBBXPABA+CHCmBQABAcAKnBHAVALtBTASoCnGgBfIBkBRAxBdwDGBBBlBVAZFBBBfOAnKSPABMBhB8DAvC5cmDuDRjGsy",
     "CgDPvhBRFZ68DFmS51Gdi3B4RHeRuCRdSvBQDfUFSwNsBzG_BgEqCFAiCMgCBBA8gTqDFMDIHJm7F0CBmCBBCACBCDBLBABGBgCBDCHBGB",
     "bBDBEBADGBzKCYBYBeBYBeBYBeBYBeBYBH05BeGFlI9ByEsBKGQAhKdSrBkPbkHdCAvPGBDBBBOBkG7BjCHA0lBDBaBBBACABJBDBABAGA",
     "EABABABCBBBACABABABABABBBACDBGBDBDBABJBQFCBEBQ0TZGZGZ"]⟩,
  ⟨["cr"],
    ["NA"]⟩,
  ⟨["doublequote", "dq"],
    ["iBA"]⟩,
  ⟨["extend"],
    ["gYvDzIGnIsBBABBBBBAoCKwBUQAlDGCFCBBDjBAea7CK6BIJAYDBIBCBErBC7BIqBXBgB2BCBRBGKBdC4BABGCBCCJAKBaACC4BABEEBCC",
     "DAeBDALC4BABHBCBCUBWFBC4BABGCBCCHCKBeA7BEDCBDJAoBE3BABGBCBDHBLBdC4BABGBCBDHBLBPAMD3BBBGBCBDJAKBdCmCAEFBABH",
     "SB9BACGMHiDACILGpCBbABABAEBxBTBBFKBjBJAkDTXDECBCCGDDNLBAKD_VCydDcCdBeBgCfJAtBCBA1DBiBA2DLEL7GE5BJBcCAwBexB",
     "EvBQmBIMCeM4BNwBT4ECBUEAGACCmG_BsQAjGgB+_CCtEAgDfqRFpDB0udDBJgBBwCBwIADAEAXEEAzCByBRaRNAmBHZMsBDvBNkBAjCNM",
     "AIBtBCyBABCCBFBBApBEFBsHHBBw5TAhXPQPuLB9SAiHA1EEm0BCBBFDoBCEAlFB9RDhCE9JBvCDmCKxBD6DC1BOpBACBKDtBKHA9BCkBN",
     "QBsBAMCwBNIDBB8CLGACA9ELVD3BBBGCBCCJAKBCGDEjCIBACABDBEBAOByCRXAxCTrHGCIbByCQqDMlDOgIO1HFBBCDBABBtEGCGDAcJo",
     "BGBDIAJKuBP1MHBHyCVBN6DFDABBBGBAiCEBBBE7KDJBBAwBGDEXAlnFAGOomLRguCE7BG4gBAB2BHDxCALBrlTBhzEtBCW+QEDFIHCGeD",
     "0EC79B2BExBIAOAWEBOwqBGBQCGBBBEkDAgFG3LA9BD8PD+HBgXGtDGw1CEghjY_CgEvH"]⟩,
  ⟨["extendnumlet", "ex"],
    ["_CAv+HAPBTA+u3BBYCvHA"]⟩,
  ⟨["format", "fo"],
    ["tFAyqBFWAgGAxBAgMBwCAr5DA__BBaExBEBJv03BA5HChmEAPAi7IPgjiBDvmFHm0rYA"]⟩,
  ⟨["hebrewletter", "hl"],
    ["wuBaEDqp9BABJBMBEBABBBBBJ"]⟩,
  ⟨["katakana", "ka"],
    ["xhMElDBD6CBDwHPwGuBB3CugzB3ByisBDBGBBBA_ICyBAOD"]⟩,
  ⟨["lf"],
    ["KA"]⟩,
  ⟨["midletter", "ml"],
    ["6BA8DAvWA3OA0EAyxGArv3BAhCAkGA"]⟩,
  ⟨["midnum", "mn"],
    ["sBAOAiaAqQAiEB+CArMAriGAru3BADA7BADA3FAOA"]⟩,
  ⟨["midnumlet", "mb"],
    ["uBAp_HBKAtx3BA0FAGA"]⟩,
  ⟨["newline", "nl"],
    ["LB4DAi9HB"]⟩,
  ⟨["numeric", "nu"],
    ["wBJmxBJBAkEJmGJ8MJ2DJ2DJ2DJ2DJ2DJ2DJ2DJ2DJ2DJgDJ2DJmCJ2IJmCJm6BJmBJsJJgEJmFJGJ2FJ2CJmEJGJmuiBJmVJmBJmGJWJ2",
     "CJ2MJ24UJmsBJmkCJGJ8YJgEJ8BJwEJ2IJ2KJ2DJ2LJmDJGTsCJmNJmDJ2UJ2CJ2HJmCJmNJ2uQJmpCJ2CJmEJ2QJ27XJ02CxBgqCJmNJ2",
     "PJ3HJ1aJ20EJ"]⟩,
  ⟨["regionalindicator", "ri"],
    ["mv8DZ"]⟩,
  ⟨["singlequote", "sq"],
    ["nBA"]⟩,
  ⟨["wsegspace"],
    ["gBA_yFA_rCGBC0CAg9DA"]⟩,
  ⟨["zwj"],
    ["tgIA"]⟩]

def sentenceBreakTable : List NamedSet := [
  ⟨["aterm", "at"],
    ["uBA1_HAtx3BA7FA"]⟩,
  ⟨["cr"],
    ["NA"]⟩,
  ⟨["close", "cl"],
    ["iBAECxBABAdABAtBAPA+zDD96BB7rCHZBKB2BBOB5TDdBwhBFHNvCBfJzMV_BDgBBigBNOBCJYASHrNJCHBC+ozBB3GBcPCBQFpFBxBABA",
     "dABABBBBy49BC"]⟩,
  ⟨["extend", "ex"],
    ["gYvDzIGnIsBBABBBBBAoCKwBUQAlDGCFCBBDjBAea7CK6BIJAYDBIBCBErBC7BIqBXBgB2BCBRBGKBdC4BABGCBCCJAKBaACC4BABEEBCC",
     "DAeBDALC4BABHBCBCUBWFBC4BABGCBCCHCKBeA7BEDCBDJAoBE3BABGBCBDHBLBdC4BABGBCBDHBLBPAMD3BBBGBCBDJAKBdCmCAEFBABH",
     "SB9BACGMHiDACILGpCBbABABAEBxBTBBFKBjBJAkDTXDECBCCGDDNLBAKD_VCydDcCdBeBgCfJAtBCBA1DBiBA2DLEL7GE5BJBcCAwBexB",
     "EvBQmBIMCeM4BNwBT4ECBUEAGACCmG_BsQBiGgB+_CCtEAgDfqRFpDB0udDBJgBBwCBwIADAEAXEEAzCByBRaRNAmBHZMsBDvBNkBAjCNM",
     "AIBtBCyBABCCBFBBApBEFBsHHBBw5TAhXPQPuLB9SAiHA1EEm0BCBBFDoBCEAlFB9RDhCE9JBvCDmCKxBD6DC1BOpBACBKDtBKHA9BCkBN",
     "QBsBAMCwBNIDBB8CLGACA9ELVD3BBBGCBCCJAKBCGDEjCIBACABDBEBAOByCRXAxCTrHGCIbByCQqDMlDOgIO1HFBBCDBABBtEGCGDAcJo",
     "BGBDIAJKuBP1MHBHyCVBN6DFDABBBGBAiCEBBBE7KDJBBAwBGDEXAlnFAGOomLRguCE7BG4gBAB2BHDxCALBrlTBhzEtBCW+QEDFIHCGeD",
     "0EC79B2BExBIAOAWEBOwqBGBQCGBBBEkDAgFG3LA9BD8PD+HBgXGtDG12lY_CgEvH"]⟩,
  ⟨["format", "fo"],
    ["tFAyqBFWAgGAxBAgMBwCAr5DA8_BACBaExBEBJv03BA5HChmEAPAi7IPgjiBDvmFHm0rYA"]⟩,
  ⟨["lf"],
    ["KA"]⟩,
  ⟨["lower", "lo"],
    ["hDZvBAKAEAkBXBHBABABABABABABABABABABABABABABABABABABABABABABABABABABABBBABABABABABABABBBABABABABABABABABAB",
     "ABABABABABABABABABABABABABACABABCCABACADBEACADCCACABABACABBBACADABACBCCGACACABABABABABABABABBBABABABABABAB",
     "ABABBCABADABABABABABABABABABABABABABABABABABABABABABABABABABABABABABGCACBBAEABABABABkCBjBHBeEsEABADACDSAbi",
     "BBBDCBABABABABABABABABABABABEBACACBzBvBBABABABABABABABABABABABABABABABABAJABABABABABABABABABABABABABABABAB",
     "ABABABABABABABABABABACABABABABABABBBABABABABABABABABABABABABABABABABABABABABABABABABABABABABABABABABABABAB",
     "ABABABABABABABABABABABABAwBoBz7CA7XFikCIBA1D_FhCABABABABABABABABABABABABABABABABABABABABABABABABABABABABAB",
     "ABABABABABABABABABABABABABABABABABABABABABABABABABABABABABABABABABABABABABABABABABABABABABIBABABABABABABAB",
     "ABABABABABABABABABABABABABABABABABABABABABABABABABABABABABABABABABABABABABABABABABIIFKHIHIFKHIHINCHIHIHIEB",
     "BGADCBBIDCBIHKCBB5DANAQMtDADBDAbAEAEACBIDEAhBPEAraZm6BvBBADBBABABAEABBBHDABABABABABABABABABABABABABABABABA",
     "BABABABABABABABABABABABABABABABABABABABABABABABABABABABABABABABABBHABAEAMlBBAFAzoeABABABABABABABABABABABAB",
     "ABABABABABABABABABABATABABABABABABABABABABABABABClEABABABABABABCBABABABABABABABABABABABABABABABABABABABABA",
     "BABABABABABABABABABJBABACABABABABAEABACABCBABABABABABABABABABAFAFABABABABABABABAEABACADABABABABABAWCBABC1Z",
     "qBBNGvCg6TGMEphBZtmBnBoEjB7EKBOBGBBjOACCBpBBIloByB9DV65CfgsVf6sZZaGBRaZaDBABGBKaZaZaZaZaZaZaZaZabcYBFaYBFa",
     "YBFaYBFaYBFBA05BJBTGFlI9B0lChB"]⟩,
  ⟨["numeric", "nu"],
    ["wBJmxBJBBjEJmGJ8MJ2DJ2DJ2DJ2DJ2DJ2DJ2DJ2DJ2DJgDJ2DJmCJ2IJmCJm6BJmBJsJJgEJmFJGJ2FJ2CJmEJGJmuiBJmVJmBJmGJWJ2",
     "CJ2MJ24UJmsBJmkCJGJ8YJgEJ8BJwEJ2IJ2KJ2DJ2LJmDJGTsCJmNJmDJ2UJ2CJ2HJmCJmNJ2uQJmpCJ2CJmEJ2QJ27XJ02CxBgqCJmNJ2",
     "PJ3HJ1aJ20EJ"]⟩,
  ⟨["oletter", "le"],
    ["7NAEDwGAkBGGLaABAlEAkPA2DaEEsBqBjBBBiDBAPBHBKCCAQABdd4CLAYgBJBEAFVEAJADAXYHKFXBFRpB6B1BDASAHJPPEHCBCVBGBAD",
     "DDAQANBBCOBKAIFEBCVBGBBBBBBfDBATCQIBCBVBGBBBEDASAPBXALHCBCVBGBBBEDAeBBCPARABFDCBDDBBABBDBDCDLWA0BHBCBWBPDA",
     "aCCACBeAEHBCBWBJBEDAfBBBPBRIBCBoBCAQAFCICYFFRDXBIBACG6BvBBBMG6BBBABEBXBABJBBJACEBAVDgBA_BHBjBbEzDqBUAQFEDD",
     "ADBHCEMMAhCqBCrKBDCGBABDCoBBDCgBBDCGBABDCOB4BBDCiClBPxDrTCQBZFqCDKHRNSOROMBCPzBjBAEAjC4CHEChBBAFlCKexBdCEL",
     "rBEZ2BWJ0ByCA9CuBRH2BdNBKrBajBpBCKjBSqBCCpBDBFBBDA6hBDnCCCDn9C3BHAQWJGBGBGBGBGBGBGBGwCA1OCZIHECEE1CGCB5CBD",
     "FqBB9CRfwBPgQ_tGgCs0VjCtBCsIDPKBiCAQAgBvCnBIoDAGAnDADGBCBDBWdzBOxB+BFDABBLbKWZcHuBcAQEBJKEBoBXCBHUWDADxBBA",
     "DBCECABAYCCKHCMFCFCFJGBGxEiBdj9KMWEwBkoItLCpDjCABJBMBEBABBBBBrDhBqLS_BC1BoBL0DEBmEpD3BCeDFCFCFCCjBLBZBSBBB",
     "OCNiB6DlC0BrIcDwBvBfNdFlBKdCjBEHBE6DtCiDnBIzB8CzBM2JJVKHZB9DFCABrBBBDACWKWJehCSBBKVKZmC3BGBgCAPDBCBcqBcDcj",
     "BHBbb1BKVKSNRuDoC3FjBmBFfAwIpBGBQC7BcKAIVqBRuBUbWM0B5BBCANsBgBYajBdACAIiBDAMvBODVABAjBRBYTB_BGBABDBOBJHuBm",
     "BHCBCVBGBBBEDASAMEeJBACABlBBAZABAsB0BSDUCevBUBBA4FuBpBDkBvBUA7BqBNAnCalBG5FrBzGHCACHBBBXPABA+CHCmBQABAcAKn",
     "BHAVALtBTASoCnGgBfIBkBRAxBdwDGBBBlBVAZFBBBfOAnKSPABMBhB8DAvC5cmDuDRjGsyCgDPvhBRFZ68DFmS51Gdi3B4RHeRuCRdSvB",
     "QDfUFSwNsBzMqCFAiCMgCBBAc3_FI1mBpBJn3IDBGBBBiJPAdCCAODIrMkoCqDFMDIHJwzIA1PsBKGQAhKdSrBkPbkHdCAvPGBDBBBOBkG",
     "mEA0lBDBaBBBACABJBDBABAGAEABABABCBBBACABABABABABBBACDBGBDBDBABJBQFCBEBQkqE_2pBgB5hEG9GCh0FOwpHPtTitC9QivBq",
     "6EF_iE"]⟩,
  ⟨["scontinue", "sc"],
    ["sBBMAipBAuFBqPApgEAFAqgCBs_DAuwzBBBAdBdBDACAKAoFBMApCA"]⟩,
  ⟨["sterm", "st"],
    ["hBAdApqBAzEC0FArBC2HA9BABADBlJBk3BB2YAEBlYAmGBsGAFA6JBiLDiFBKBCBdC7FBhCB8dBJCkvDANAWBtNA8ndAuIBjHADA+LB2CB",
     "_CA4EBzECwEB5HAqzUBpFAdAhCA03CB9nBEsBD9FB1DD_DChEBGAQB4CBBBsDAqJB1DB1LBFOpDB5HClQABA7HB3CBkNB0VBqCBp5SBlEA",
     "hCBLApRBoJAmwTAovHA"]⟩,
  ⟨["sep", "se"],
    ["lEAi9HB"]⟩,
  ⟨["sp"],
    ["JABBTA_DA_uFA_rCKkBAvBAg9DA"]⟩,
  ⟨["upper", "up"],
    ["hCZlDWBGhBABABABABABABABABABABABABABABABABABABABABABABABABABABABACABABABABABABABACABABABABABABABABABABABAB",
     "ABABABABABABABABABABABBBABADBBABBBCCDBBBCDBBBBABABBBACABBBCBABBDAHBBBBBBABABABABABABABACABABABABABABABABAC",
     "BBABCBABABABABABABABABABABABABABABABABABABABABABABABABABABABABAHBBBCABDBABABABAhJABADAIAGABCBABBBQBIjBACCD",
     "ABABABABABABABABABABABAFACABBCyBwBABABABABABABABABABABABABABABABABAJABABABABABABABABABABABABABABABABABABAB",
     "ABABABABABABABABBBABABABABABACABABABABABABABABABABABABABABABABABABABABABABABABABABABABABABABABABABABABABAB",
     "ABABABABABABABABABAClBp6ClBBAFAyW1CzkCA2LABABABABABABABABABABABABABABABABABABABABABABABABABABABABABABABABA",
     "BABABABABABABABABABABABABABABABABABABABABABABABABABABABABABABABABABABABABABABABABABAJABABABABABABABABABABA",
     "BABABABABABABABABABABABABABABABABABABABABABABABABABABABABABABABABABABABABABAJHIFKHIHIFLABABABAIHYHIHIHIELE",
     "LDMELElIAEADCCCCADEGABABABDCDKBFAaPTAyZZw5BvBwBABCCABABABDBACAICBABABABABABABABABABABABABABABABABABABABABA",
     "BABABABABABABABABABABABABABABABABABABABABABABABABABABABAIABAEAtqeABABABABABABABABABABABABABABABABABABABABA",
     "BABATABABABABABABABABABABABABABAnEABABABABABABADABABABABABABABABABABABABABABABABABABABABABABABABABABABABAB",
     "ABAKABABBBABABABAEABACABADABABABABABABABABABABEBEBABABABABABABABDBABBDAFABABABAYAr5VZlmBnBoEjB8EKBOBGBBq3B",
     "yB9EV65CfgsVfgtZZaZaZaABBCACBCDBHaZaBBDCHBGbBBDBEBADGbZaZaZaZaZaZeYhBYhBYhBYhBYhBA1pEhBugCZGZGZ"]⟩]

end BuilderAudit
