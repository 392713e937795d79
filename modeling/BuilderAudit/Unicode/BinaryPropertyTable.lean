import BuilderAudit.Unicode.CodeSet

/-!
# Binary properties

The table of the binary character properties, as of Unicode 16.
-/

namespace BuilderAudit

/-- The binary properties, each with its long and its short names. -/
def binaryPropertyTable : List NamedSet := [
  ⟨["asciihexdigit", "ahex"],
    ["wBJHFaF"]⟩,
  ⟨["alphabetic", "alpha"],
    ["hCZGZvBAKAEAFWBeBpOELOEHABA2CAdRBBCDBAGABCBABTByCBqEIlFBlBCAGoBnBNBABBBBBAIaEDdKF3BBGOlDBHEHECKCCAQvBNkDYg",
     "BJBEAFXCSTYHKFXBFIAIpBKLDGGrCBPBCEONSBHCBCVBGBADDDHCBCBBAIAEBBEMBKAECBFEBCVBGBBBBBBEEEBCBEAHDBARFLCBIBCBVB",
     "GBBBEDIBCBBDAPDVDECBHCBCVBGBBBEDHCBCBJBEBBENAQBBFDCBDDBBABBDBDCDLEEDCBCDAGAoBMBCBWBPDHBCBCIBBCCACDcDBHBCBW",
     "BJBEDHBCBCIBGBBDNCMMBCBoBCHBCBCBAFDHEWFBCBRDXBIBACGIFBABHSBN5BFGGAzBBBABEBXBABSBCCEBAGAODgBA_BHBjBESEPBjBj",
     "C2BBACEQ_BKDClBBAFACqBBsKBDCGBABDCoBBDCgBBDCGBABDCOB4BBDCiClBPQ1CCFDrTCQBZFqCDKHTLUMTMMBCBBMzBCSOAEAjC4CHq",
     "BFlCKeBLEIXdCELrBEZ2BbE+BCTyBAXBLCxBzBBOBHzBpBCDKrBBKO2BWCKjBCKFqBCCpBDBFBBDAF_FThBL1ICFClBCFCHBABABABeC0B",
     "BGBADCBGDDCFEMFCBG0DANAQMlDAEACJBADEGABABABDBKCDFEEARoBtZzB24BkHGDDBMlBBAFAC3BHAQWJGBGBGBGBGBGBGBGBfvBA1OC",
     "ZIHECEE1CGCB5CBDFqBB9CRfwBPgQ_tGgCs0VjCtBCsIDPKBUuBFHDwDnBICmDCiCCBBABHVTBgBYzBMjCBAsBFDABCKgBFiBNcDyBBLPA",
     "QPKEB2BJNSWDkCBABAYCCPCDLFCFCFJGBGBqBBNG6DVj9KMWEwBkoItLCpDmBGMEFLBMBEBABBBBBrDhBqLS_BC1BoBL0DEBmEkBZGZL4C",
     "DFCFCFCCjBLBZBSBBBOCNiB6DlC0BrIcDwBvBfNdFqBFdCjBEHBEqB9ESjBEjBEnBIzBMKBOBGBBBKBOBGBBDzBM2JJVKHYFBpBBIlCFCA",
     "BrBBBDACWKWJehCSBBKVKZmC3BGBgCDBBFHBCBcqBcDcjBHBbb1BKVKSNRuDoC3ByBNyBNnBiBbDAFW6HpBBBDBQC3BADcKAIVqBRuBUbW",
     "JlCrBEK4BJANYXyBRDIiBDAJ_BBDJBKABAjBRBhBCAGD+BGBABDBOBJH4BXDBHCBCVBGBBBEDHCBCBDAGAFGcJBACABlBBJBACABDBBDAB",
     "AsBhCBCBDUCehCCBBA4F1BCGZFiB+BBADA7B1BCAnCaCNVG5F4BnD_BfHCACHBBBdBBCBCD9CHCtBCFBABBbyBCJRnCFASoCnGgBfIBsBB",
     "GBAxBdCVBNpCGBBBrBDABBBCBACBYFBBBkBBBBDBAnKWJQBoBDCvDAvC5cmDuDRjGsyCgDPvhBRFZ68DFmS51GuBx2B4RHeRuCRdSvBQDf",
     "UFSwNsBzG_BgEqCE4BHQgCBBAMBO3_FI1mBpBJn3IDBGBBBiJPAdCCAODIrMkoCqDFMDIHJEAh7F0CBmCBBCACBCDBLBABGBgCBDCHBGBb",
     "BDBEBADGBzKCYBYBeBYBeBYBeBYBeBYBH05BeGF1GGBQCGBBBEF9BhBAwDsBKGQAhKdSrBkPbkHdCAvPGBDBBBOBkG7BjCDADA0lBDBaBB",
     "BACABJBDBABAGAEABABABCBBBACABABABABABBBACDBGBDBDBABJBQFCBEBQ0TZGZGZ2zD_2pBgB5hEG9GCh0FOwpHPtTitC9QivBq6EF_",
     "iE"]⟩,
  ⟨["bidicontrol", "bidic"],
    ["8wBAxvGBaE3BD"]⟩,
  ⟨["caseignorable", "ci"],
    ["nBAGALAjBABAnCAEABAEACB3P_FEBEAJBBA7HGvGAFAxBsBBABBBBBAsBALFKKBAjBAKUQAlDHBJBDhBABAea7CK6BKEACAYXrBCsBAHBF",
     "IpB5B3BABAEHEADGKBNAPA6BAEDIAUBaACB5BAEBEBCCDAeBDALB5BAEEBBEAUBWFBA6BACABDIAHBLBeA9BAMAyBADA3BABCFCBDHBLBd",
     "A6BACAGAFBUBcB5BBEDIAUBdAoCAHCBA6CACGLIiDACIJABGpCBbABABA3BNBEBBFKBjBJAmDDBFBBCBZBECQDNACBGAPA+CAgTCydCdBe",
     "BeBgCBBGIACKDAFAtBEzBAhCBiBA2DCEBJAGC7GBCA6BABGBABACHGJCAnBAIexBDwBABEBAFAoBIMBgBDCBBC4BABBDABC6BHCBgCFyCC",
     "BMBGEAGADByB+BNAiBkD9NABCLCNCNCNBMEIBKACACExBEBJBANAQMzBgBr8CBxDC9DAPAgDfvBA1OAkBDDEFA9CF9CC24bAinBFuIAiDD",
     "BJBAcDwCBOhBuCAXCnDCDBIADAEAZBFA3EBaRNAmBHZKuBCwBACDCBRAVBiCFCBCBMAIAjBALAzBABCCBFBBAbAOBFBBAkDEJC5DACAEAw",
     "5TAzEQ9RPDAMPiBACApFAHAGALAjBABAvBAtBBjCAVChQAiHA1EElgBFBpBBImSCBBFDoBCEAlFB9RDmBAaEBA7JBvCDmCKxBD7DA2BOpB",
     "ACBKCxBDCBCAEAKAyBCkBEBH+BAMB0BIKDCA_CCCABBGACA9EADHVB5BBDAlBGDEmCFNABABAOB1CHCCBAXA0CFBAEBBBuHDGBBBbB1CHC",
     "ABBqDABACFBAlDABACDBEjIIBBgIBBAEAwEDCBEAgBJoBFCDIAJFCCuBMBB2MGBFBAyCVCGBBBB6DFDABBBGBAoCBDABA7KBLB0BEFABAX",
     "A1mFQGOomLLDCguCE7BGJD8PCoBBiPA_BQgCBBBrgQDBGBB+kDBBD8yEtBCWgRCJPCGeD0EC79B2BExBIAOAWEBOwqBGBQCGBBBEF9BhBA",
     "gFNwLA9BD7PE+HBgXGtDHv1CEhgjYAe_CgEvH"]⟩,
  ⟨["cased"],
    ["hCZGZvBAKAEAFWBeBiGBDEvGBjBHBeEgDAqBDCBCDBAGABCBABTByCBqEIlFBlBJoB34ClBBAFACqBBDgV1CCFikCKFqBCCgC_FgC1ICFC",
     "lBCFCHBABABABeC0BBGBADCBGDDCFEMFCBG0DANAQMlDAEACJBADEGABABABDBFEACDFEEARfDBxZzB24BkHGDDBMlBBAFAyoetBSdkElD",
     "DDB9BCBBABHVEBC1ZqBBNGvCg6TGMEpgBZGZllBvCgDjBEjB0DKBOBGBBBKBOBGBBjOACCBpBBIlmByBNyB9CVKV64C_BgrV_BgsZ0CBmC",
     "BBCACBCDBLBABGBgCBDCHBGBbBDBEBADGBzKCYBYBeBYBeBYBeBYBeBYBH05BJBTGFlI9BykCjCs_BZGZGZ"]⟩,
  ⟨["changeswhencasefolded", "cwcf"],
    ["hCZ6CAKWBHgBABABABABABABABABABABABABABABABABABABABABABABABABABABABACABABABABABABABABBBABABABABABABABABABAB",
     "ABABABABABABABABABABABABBBABABABBBABBBCCDBBBCDBBBBABABBBACABBBCBABBDAHBBBBBBABABABABABABABACABABABABABABAB",
     "ABACBBABCBABABABABABABABABABABABABABABABABABABABABABABABABABABABABAHBBBCABDBABABABA2HAqBABADAIAGABCBABBBQB",
     "IWAMCDBBABABABABABABABABABABABABBCBBABBCyBwBABABABABABABABABABABABABABABABABAJABABABABABABABABABABABABABAB",
     "ABABABABABABABABABABABABABBBABABABABABACABABABABABABABABABABABABABABABABABABABABABABABABABABABABABABABABAB",
     "ABABABABABABABABABABABABABABAClBwBA44ClBBAFAqZFikCJGqBCCgKABABABABABABABABABABABABABABABABABABABABABABABAB",
     "ABABABABABABABABABABABABABABABABABABABABABABABABABABABABABABABABABABABABABABABABABABABABABABABABABABAFBCAB",
     "ABABABABABABABABABABABABABABABABABABABABABABABABABABABABABABABABABABABABABABABABABABABABABABABAJHIFKHIHIFL",
     "ABABABAIHQvBCCCFFCCFLDMEFCCFpJADBGAtBPTAyZZw5BvBwBABCCABABABDBACAICBABABABABABABABABABABABABABABABABABABAB",
     "ABABABABABABABABABABABABABABABABABABABABABABABABABABABABABAIABAEAtqeABABABABABABABABABABABABABABABABABABAB",
     "ABABABATABABABABABABABABABABABABABAnEABABABABABABADABABABABABABABABABABABABABABABABABABABABABABABABABABABA",
     "BABABAKABABBBABABABAEABACABADABABABABABABABABABABEBEBABABABABABABABDBABBDAFABABABAYA6bvCg6TGMEpgBZlmBnBoEj",
     "B8EKBOBGBBq3ByB9EV65CfgsVfg1ehB"]⟩,
  ⟨["changeswhencasemapped", "cwcm"],
    ["hCZGZ6BAKWBeB_BBzCBbCNCBBAE8CBRGaBBBABBDBBDBECABBCAHACABBDFFAKBmFAqBDCBDCBAGABCBABTBuBDgBBEBkEIlFBlBKmB44C",
     "lBBAFACqBCCgV1CCFikCKFqBCC5FADAQAxD7ECAB1DCFClBCFCHBABABABeC0BBGBADCBGDDCFEMFCBGpJADBGAbARfDBxZzB24BwDBBBB",
     "HlDHDDBMlBBAFAyoetBSbmENC9BJODCCEBYBdCBEGYB8aAcvCg6TGMEpgBZGZllBvCgDjBEjB0DKBOBGBBBKBOBGBBj2ByBNyB9CVKV64C",
     "_BgrV_Bg0ejC"]⟩,
  ⟨["changeswhenlowercased", "cwl"],
    ["hCZlDWBGhBABABABABABABABABABABABABABABABABABABABABABABABABABABABACABABABABABABABACABABABABABABABABABABABAB",
     "ABABABABABABABABABABABBBABADBBABBBCCDBBBCDBBBBABABBBACABBBCBABBDAHBBBBBBABABABABABABABACABABABABABABABABAC",
     "BBABCBABABABABABABABABABABABABABABABABABABABABABABABABABABABABAHBBBCABDBABABABAhJABADAIAGABCBABBBQBIjBAIAB",
     "ABABABABABABABABABABAFACABBCyBwBABABABABABABABABABABABABABABABABAJABABABABABABABABABABABABABABABABABABABAB",
     "ABABABABABABABBBABABABABABACABABABABABABABABABABABABABABABABABABABABABABABABABABABABABABABABABABABABABABAB",
     "ABABABABABABABABAClBp6ClBBAFAyW1CzkCAGqBCCgKABABABABABABABABABABABABABABABABABABABABABABABABABABABABABABAB",
     "ABABABABABABABABABABABABABABABABABABABABABABABABABABABABABABABABABABABABABABABABABABABAJABABABABABABABABAB",
     "ABABABABABABABABABABABABABABABABABABABABABABABABABABABABABABABABABABABABABABABAJHIFKHIHIFLABABABAIHYHIHIHI",
     "ELELDMELEpJADBGAtBPTAyZZw5BvBwBABCCABABABDBACAICBABABABABABABABABABABABABABABABABABABABABABABABABABABABABA",
     "BABABABABABABABABABABABABABABABABABABABAIABAEAtqeABABABABABABABABABABABABABABABABABABABABABABATABABABABABA",
     "BABABABABABABABAnEABABABABABABADABABABABABABABABABABABABABABABABABABABABABABABABABABABABABABAKABABBBABABAB",
     "AEABACABADABABABABABABABABABABEBEBABABABABABABABDBABBDAFABABABAYAr5VZlmBnBoEjB8EKBOBGBBq3ByB9EV65CfgsVfg1e",
     "hB"]⟩,
  ⟨["changeswhentitlecased", "cwt"],
    ["hDZ6BApBXBHBABABABABABABABABABABABABABABABABABABABABABABABABABABABACABABABABABABABBBABABABABABABABABABABAB",
     "ABABABABABABABABABABABACABABCCABACADAFACADCCACABABACAEACADABACADABAEABBBBBABABABABABABABABBBABABABABABABAB",
     "ABCBABADABABABABABABABABABABABABABABABABABABABADABABABABABABABABAIACBBAEABABABABFBBBABBDBBDBECABBCAHACABBD",
     "FFAKBmFArBABADADCSAbiBBBDCBABABABABABABABABABABABEBACACA0BvBBABABABABABABABABABABABABABABABABAJABABABABABA",
     "BABABABABABABABABABABABABABABABABABABABABACABABABABABABBBABABABABABABABABABABABABABABABABABABABABABABABABA",
     "BABABABABABABABABABABABABABABABABABABABABABABAxBmBwzDFikCIBAuHADAQAyDABABABABABABABABABABABABABABABABABABA",
     "BABABABABABABABABABABABABABABABABABABABABABABABABABABABABABABABABABABABABABABABABABABABABABABABABABABABABA",
     "BABABGFABABABABABABABABABABABABABABABABABABABABABABABABABABABABABABABABABABABABABABABABABABABABABABABIIFKH",
     "IHIFKHIHINCHIHIHIEBBGADCBBIDCBIHKCBB2KAhBPEAraZm6BvBBADBBABABAGACAKABABABABABABABABABABABABABABABABABABABA",
     "BABABABABABABABABABABABABABABABABABABABABABABABABABABABABABAIABAEAMlBBAFAzoeABABABABABABABABABABABABABABAB",
     "ABABABABABABABATABABABABABABABABABABABABABAnEABABABABABABADABABABABABABABABABABABABABABABABABABABABABABABA",
     "BABABABABABABAKABACABABABABAEAEABBCABABABABABABABABABALABABABABABABABAEABACADAFABABAaA8aAcvCg6TGMEphBZtmBn",
     "BoEjB7EKBOBGBBj4ByB9DV65CfgsVfi1ehB"]⟩,
  ⟨["changeswhenuppercased", "cwu"],
    ["hDZ6BApBXBHBABABABABABABABABABABABABABABABABABABABABABABABABABABABACABABABABABABABBBABABABABABABABABABABAB",
     "ABABABABABABABABABABABACABABCCABACADAFACADCCACABABACAEACADABACADABAFBBBBBBABABABABABABABBBABABABABABABABAB",
     "BBBBADABABABABABABABABABABABABABABABABABABABADABABABABABABABABAIACBBAEABABABABFBBBABBDBBDBECABBCAHACABBDFF",
     "AKBmFArBABADADCSAbiBBBDCBABABABABABABABABABABABEBACACA0BvBBABABABABABABABABABABABABABABABABAJABABABABABABA",
     "BABABABABABABABABABABABABABABABABABABABACABABABABABABBBABABABABABABABABABABABABABABABABABABABABABABABABABA",
     "BABABABABABABABABABABABABABABABABABABABABABAxBmBo6CqBCC4XFikCIBAuHADAQAyDABABABABABABABABABABABABABABABABA",
     "BABABABABABABABABABABABABABABABABABABABABABABABABABABABABABABABABABABABABABABABABABABABABABABABABABABABABA",
     "BABABABABGFABABABABABABABABABABABABABABABABABABABABABABABABABABABABABABABABABABABABABABABABABABABABABABABI",
     "IFKHIHIFKHIHINC0BBBEABADCBBEADDCBIHKCBBEAxKAhBPEAraZm6BvBBADBBABABAGACAKABABABABABABABABABABABABABABABABAB",
     "ABABABABABABABABABABABABABABABABABABABABABABABABABABABABABABABABAIABAEAMlBBAFAzoeABABABABABABABABABABABABA",
     "BABABABABABABABABABATABABABABABABABABABABABABABAnEABABABABABABADABABABABABABABABABABABABABABABABABABABABAB",
     "ABABABABABABABABABAKABACABABABABAEAEABBCABABABABABABABABABALABABABABABABABAEABACADAFABABAaA8aAcvCg6TGMEphB",
     "ZtmBnBoEjB7EKBOBGBBj4ByB9DV65CfgsVfi1ehB"]⟩,
  ⟨["dash"],
    ["tBA8qBAzBAhyDAlgBApgCF9BAnBAPAmMAkgDACAfBEAcA+NATAvDAwszBBlBAKApFAgzDA+JA"]⟩,
  ⟨["defaultignorablecodepoint", "di"],
    ["tFAhVAsWAi6CBzyBB1CE7_BEaExBP0nEA7kzBPvHAgFAvCInlvBDvmFHl0rY__D"]⟩,
  ⟨["deprecated", "dep"],
    ["pKAppBAjoCABAphCBlmCF5VB2m3bA"]⟩,
  ⟨["diacritic", "dia"],
    ["+CABAnCAGAEACB3P+EBHFFRBEAJB9HExGA3BsBBABBBBBAjEHEBmEBEBDCjCa7CK6BKiBB+DHpBJQb9BAQADDcAqCAQAuDAQAuDAQAvBC8",
     "BAQAHA3DAuDAQAuDAQAtDBQA8DAvDAMFBArDANErCBbABABAEBiCCBB+BAwDABBoBBEEZGBAKBhWC0dBeA0EKJA7KCkJAUHCAwBOCKoDAP",
     "AmBI2BB6BALBiCBgCFyCYEAGACCyB+BwBjBFLlBK9NABCLCNCNCNBwnDC9JA6PFpDD_CAyrdAMBBAcByCBOhBmDCtDBMAlBA3EAbR5BDkB",
     "A_CAMAkBA1EChCDzBAkDEJCgEBw5TAhYPuIABAvBAtBBjCA8XA_kBFBpBBI9TCEAlFB7RFmBAaEvMCmCKxBDgGApBAoCB4DB+BAsCAJCoD",
     "ByFBwCBQAYGDE5CCBBNB_CADA7DB7HB+DA2DBzDAtIBiIBEA8EAzCASAxCAlNAiIABBxCApNBXAsnFO5mLAguCE7BG0RBiRQwCB+_PDBGB",
     "Bh4HtBCWgRCDFIHCGeDi0D9BiGG3LA9BD+XBgXGtDCBC"]⟩,
  ⟨["emoji"],
    ["jBAGAFJvDAEAt8HAMA4GAWA6CFPBvLBMAmFAZKECnGAnHBKAJA6BDBEJACACBCAEACABBCADADBICFABAFLLBCABBBASACBSFBABBDBFAC",
     "BEBLBFBCAFBBABBUBFFBDCAEACACFBACABABAGADAGAKBPACAEABAECBALBwBCJAOAOA0LBvOCTBzBAEA6mBAMA5SABAqrvDAqGAgFBMBO",
     "ACJrCZBBXAUACIVBuFhBCvDCBBCCyCCCBmIB+BLFBXHBCHMACDCAEBNBCAIBJAFCMCICCABAEAGADAG1CwBlCFHCCEJDABBDACJjHLEA7I",
     "uBBJB4FwDMDJF3BHOCKGI"]⟩,
  ⟨["emojicomponent", "ecomp"],
    ["jBAGAFJz+HA1GArp3BA2+8BZ7PEwtBDszhY_C"]⟩,
  ⟨["emojimodifier", "emod"],
    ["7_8DE"]⟩,
  ⟨["emojimodifierbase", "ebase"],
    ["9wJA7GAQD3jzDA8BCCACC1DBCKVSDAECBCHABAYApGBEAVAEBuFCDEzCAQCJALA_RACAIHGAJJCC4BA9BBBBBARCBMlHCqBI"]⟩,
  ⟨["emojipresentation", "epres"],
    ["64IBtGDDACApQBVByBLrBATANAIBRBFBIAFAVAHBBAEACAHAEBcAjBABAECBA9BCYAOA7aBzBAEAulxDAqGA+FACJrCZBAYAUACEBCVBuF",
     "gBMIBlCBVMqBEEMQDADmCBAB6FC+BNDBXSAaBNA2C0CwBlCGADCCCEDLBHIjHLEA7IuBBJB4FwDMDJF3BHOCKGI"]⟩,
  ⟨["extendedpictographic", "extpict"],
    ["pFAEAt8HAMA4GAWA6CFPBvLBMA_CAmCAZKECnGAnHBKAJA6BDBFBLBxDK1DCKBABAGADAGAKBPACAEABAECBALEtBCJAOAOA0LBvOCTBzB",
     "AEA6mBAMA5SABAmrvD_HNCfA8BFMBOACJS4BbOKAUACIBDJxNF9JIpIwB_D0DL1CqBMD4BHKFoBHexCMuBBJB4NgI9f"]⟩,
  ⟨["extender", "ext"],
    ["3FA4QBubA5NA2TApEA5CAwXA_DAjqCA4BAjTAuMAkCAp8EArBEnDB9CC24bA2vBAieAWApEAsDAVB7jVAwgCBruBAbAEAnmBAlJA0DByPC",
     "vmBAplUB8kBBBA4qcBxlBA0aC"]⟩,
  ⟨["graphemebase", "grbase"],
    ["gB+ChBMBxSwDHCFEGBABTB_GHlFBlBCxBCCuBABACACAJaEFRJLABtBVPBkDIAGBCAEfCABdd4CLAOqBJGDXEAJADAHOBYFABKFeRpB5B2",
     "BBABDIDBCHJCcBBBHCBCVBGBADDDABBGBCBBANBBCEXFABFEBCVBGBBBBBBECYDBAHJCCBAMABIBCBVBGBBBEDDIABBDAPBELHAIBBHCBC",
     "VBGBBBEDACAGBCBPBBCERLABFDCBDDBBABBDBDCDLFABBDCBCDAVUGCBHBCBWBPDADDTCCACBEJHJBKBCBWBJBEDBCABBYBBBEJBCOKBCB",
     "oBCABBFCBCBBECBJEZCBBRDXBIBACGJBGGHJCCMvBBBLHIMlBBBABEBXBABJBBJACEBAJJCDgBXCaBABABNBjBSAFACExBHBFBMlBsBEAG",
     "ACBCYCDDPEMBBCFBOBnBBAFAC4LBDCGBABDCoBBDCgBBDCGBABDCOB4BBDCiCFcDZG1CCFC8UD4CHRNSDBJROMBCPzBCAHHBBLIDJGJGKF",
     "JG4CHEChBBAFlCKeEDCCEBBFHADpBCELrBEZGKD4BCBD3BBAJABBIFNJGJGN2CvBKDDHBcJLCfEBG3BBACCBANvBIBFOD9BFqBCKLANAHD",
     "BFBCCAF_FgC1ICFClBCFCHBABABABeC0BBOBNCFBSCCBIBKFXHwBQBCaBMDgB_BrEE5UWKVz4BCfB3KDBFsBBAFAC3BHBPWJGBGBGBGBGB",
     "GBGBGhB9CiBZB4CM1Ga5BGPB1CEkDFqBB9CB1CJvBBszcD2BJ7KUuBEAKfCvCCFItGCBBABHVPBCBDBYCEEJG3BIjCKLYMBlBIYLAMdGvB",
     "BBEBCBBMBKEGBYBoBGBCBLCBHBACJCfByBBADBCECABAYQCHLFCFCFJGBGB7BE0DBBBDDJGj9KMWEwBkoItLCpDmBGMEFABXBEBABBBBB8",
     "DQ8NC1BHAgBPQJWiBBSBDEEBmEE8ECeDFCFCFCCDGBGNBCLBZBSBBBOCNiB6DFCEsBD3CBMDAvBsBjEcDwBQaEjBJdFlBKdBkBENqB9ECJ",
     "GjBEjBEnBIzBLLBOBGBBBKBOBGBBDzBM2JJVKHYFBpBBIlCFCABrBBBDACWBnCIIwBSBBFgBDaFAgC3BETCuBPDBCBcKIHIH_BgBkBGLJ1",
     "BDcCaFZHDMGwCoC3ByBNyBHpBMJGlBIXIBwGeBpBDACBQC7BnBIVLIWREDmBbUWJAB1BPGEdBBCAMwBEBCBBDOYHJJjBFAJRIiBBCLzBJA",
     "BHEBBPBTLRBbDBEFBB_BGBABDBOBKGuBBCNJIBBHCBCVBGBBBEDABABDCBCBDAMGcJBACABlBBABBPABBDABCBBnB3BIBDABUBABCevBBB",
     "GABBBACACDIJmFuBBBGDCACakByBIBBACDLJGMTqBBABBIBGJGTcaDABBEAJW5FuBJACAkDyCMHCACHBBBXBEBBGDBCJJmCHCpBIDBDbAK",
     "nBGBEHJAGBDtBNACINoCHJ2FhBOJGIBlBOABFKcDfZAHACArCGBBBlBVAJJGFBBBkBEBBABAHJ2JSCDJOBjBIBDW2CAPxBN6cmDuDBELjG",
     "syCiDNvhBRFZ68DFmS51GdMCDJm2B4RHeBJEwCBJGdHAKvBHOKJBGBUFSwN5BmG6ClDqCF3BLMgCDc3_FI1mBpBJn3IDBGBBBiJPAdCCAO",
     "DIrMkoCqDFMDIHJCACAg7D5HGzN8EzD8B1HKmBC7BFCWBHdE8BVhCDA6DTMTM2CJYnE0CBmCBBCACBCDBLBABGBgCBDCHBGBbBDBEBADGB",
     "zKCjJCxR3BDyBHBNBG0jBeGFlI9ByEsBKGCJEBgKdSrBEJFAwObEJ2GdCKEAgPGBDBBBOBkGCIwBjCHAEJEBxYjCsC8BiGDBaBBBACABJB",
     "DBABAGAEABABABCBBBACABABABABABBBACDBGBDBDBABJBQFCBEBQ0BBuIrBEjDMOCOBOBkBKtF4BcNrBEIHBOF6E3eEQDMD2DE+CGLEAP",
     "LE3BIJGnBIdCLEB+BzKMNCMDJF3BHOCKGIHyEBlDmgB_2pBgB5hEG9GCh0FOwpHPtTitC9QivBq6EF_iE"]⟩,
  ⟨["graphemeextend", "grext"],
    ["gYvDzIGnIsBBABBBBBAoCKwBUQAlDGCFCBBDjBAea7CK6BIJAYDBIBCBErBC7BIqBXBf3BABAEHEADGKBdA6BABACDIAJAKBaACB5BAEBE",
     "BCCDAeBDALB5BAEEBBEAUBWFBA6BABBBDIAHCKBeA7BABAMAJAoBADA3BABCFCBDHBLBdA6BACBBADCBDHBLBcB5BBBACDIAJAKBdAoCAE",
     "ACCBAIAxCACGMHiDACILGpCBbABABA3BNBEBBFKBjBJAmDDBFBBCBZBECQDNACBGAPA_VCydDcCdBeBgCBBGIACKJAtBCBA1DBiBA2DCEB",
     "JAGC7GBCA6BABGBABACHGJCAwBexBDwBJECmBIMBgBDCF4BABBDABE4BHCB4ECBMBGEAGADBmG_BsQAjGgB+_CCtEAgDfqRFpDB0udDBJg",
     "BBwCBwIADAEAZBFA3EBaRNAmBHZKBAsBCwBACDCBCAkBAjCFCBCBMAIAvBAzBABCCBFBBAqBBIAuHACAEAw5TAhXPQPuLB9SAiHA1EEm0B",
     "CBBFDoBCEAlFB9RDhCE9JBvCDmCKxBD7DA2BOpBACBKCxBDCBHA9BCkBEBH+BAMB0BIBAIDCA_CCCDGACA9EADHVB5BBBABAMAJAOGDEjC",
     "ACFBACABCECBAOB1CHCCBAXAxCACFBACABBBBrHACDGBBBbB1CHCABBqDABACHlDABACDBEjIIBB1HAKDEAwEDCBEAgBJoBFCDIAJFCCuB",
     "MBB2MGBFBAyCVCGBBBB6DFDABBBGBAoCBDABA7KBLB0BEFCXAlnFAGOomLLDCguCE7BG4gBA_BDxCALBrlTBhzEtBCW+QEDFIHCGeD0EC7",
     "9B2BExBIAOAWEBOwqBGBQCGBBBEkDAgFG3LA9BD8PD+HBgXGtDG12lY_CgEvH"]⟩,
  ⟨["graphemelink", "grlink"],
    ["tqCA_DA_DA_DA_DA_DA_DA_DAtDBQA8DAvDA_DApGA0FB52BBeA9EAtUAjHAlDBmCBrsEAm0eAlBA3EAuEAsDA1JA2HAxyXAmwBApBAOA5",
     "BA5DBrEA0DA0FAiDAgECxDA_DA8HA_DA2DA0DAtIAjIBhFAzCASAxCAlNAkIBxCApNBsvQA"]⟩,
  ⟨["hexdigit", "hex"],
    ["wBJHFaFp1_BJHFaF"]⟩,
  ⟨["hyphen"],
    ["tBA_DA8mBA7zEApgCBlwDAjXAnrzBApFA3CA"]⟩,
  ⟨["idsbinaryoperator", "idsb"],
    ["w_LBCJxPA"]⟩,
  ⟨["idstrinaryoperator", "idst"],
    ["y_LB"]⟩,
  ⟨["idsunaryoperator", "idsu"],
    ["+_LB"]⟩,
  ⟨["idcompatmathcontinue"],
    ["yFBFA29HADKBOzLAEAWAiltDAZAfAZAfAZAfAZAfAZA"]⟩,
  ⟨["idcompatmathstart"],
    ["iwIAEAWAiltDAZAfAZAfAZAfAZAfAZA"]⟩,
  ⟨["idcontinue", "idc"],
    ["wBJHZEABZvBAKABACAFWBeBpOELOEHABAR0DBBCDBAGEBABTByCBqEBEClFBlBCAGoBIsBBABBBBBAIaEDdKFpCElDBHCJBSCAQ6BCkDO1",
     "BEACACtBSbEKFXBFIqCBgECJBSBHCBCVBGBADDCICBCDIAEBBECLKABACCBFEBCVBGBBBBBBCABEEBCCDAHDBAHPLCBIBCBVBGBBBECJBC",
     "BCCAPDCJJGBCBHCBCVBGBBBECICBCCHCEBBECJBAQBBFDCBDDBBABBDBDCDLEEDCBDCAGAOJQMBCBWBPCIBCBDHBBCCACDCJQDBHBCBWBJ",
     "BECIBCBDHBGBBDCJBCMMBCByBBCBEFDHECJKFBCBRDXBIBACGDAEFBABHGJCBN5BFOBJnBBBABEBXBABWCEBABGBJCDgBAXBGJLABABAEJ",
     "BjBETBRBjBJA5BpCGtCClBBAFACqBBsKBDCGBABDCoBBDCgBBDCGBABDCOB4BBDCiCCCJIOPQ1CCFDrTCQBZFqCDKHVJVLTMMBCBBMzCDA",
     "EBCJhBCBKG4CHqBFlCKeBLELKnBCELrBEZGKlBbE+BBcCKGJNAINBPxBsCDJRIMzDM3BIJDwBCKFqBCCQCBmBF1QCFClBCFCHBABABABeC",
     "0BBGBADCBGDDCFEMFCBGPBxBBTAcANAQMzBMEADLRAEACJBACFGABABABPCDFEEARoB3zCkHGIMlBBAFAC3BHAPXJGBGBGBGBGBGBGBGBf",
     "lQCZOBECEE1CCGB+CFqBB9CRfwBPgQ_tGgCs0VjCtBCsIDbUvBEJByDlBICmDCiCCBBABHV1BEATzBMlCKJGXDABwBCjBMcDgCOKGeB2BJ",
     "NCJGWDoCYCCPCEKFCFCFJGBGBqBBNG6DBBCJGj9KMWEwBkoItLCpDmBGMEFLBMBEBABBBBBrDhBqLS_BC1BoBLEPQPDBYCgBEBmETJHZEA",
     "BZK5CDFCFCFCCjBLBZBSBBBOCNiB6DlC0BoEAiEcDwBPAffNdFqBFdCjBEHBEqB9ECJGjBEjBEnBIzBMKBOBGBBBKBOBGBBDzBM2JJVKHY",
     "FBpBBIlCFCABrBBBDACWKWJehCSBBKVKZmC3BGBgCDBBFHBCBcCCEAgBcDcjBHBdZ1BKVKSNRuDoC3ByBNyBNnBIJGlBDEBW6HpBBBDBQC",
     "3BgBKAIgBfVqBUbWJmCfPJ7BHANYHJG0BBJEDIjBCAJkCEDBMBAjBRBkBGD+BGBABDBOBJH6BFJGDBHCBCVBGBBBEBJCBCCCAGAFGCGDEL",
     "JBACABlBBJBACABDBHNBdqCFJEDelCBAIJmF1BCIXFiBgCDALJmB4BHJGTcaCOEJGG5F6BlDpCVHCACHBBBdBBCIMJmCHCtBCHBBb+BIAI",
     "pCDASoCnGgBPJGIBsBBIPJYdCVBNpCGBBBrBDABBBIIJGFBBBkBBBBFHJ2JWJQBoBDENK1CAvC5cmDuDRjGsyCgDPvhBQVK68DFmS51G5B",
     "m2B4RHeBJGuCBJGdCEL2BJDMJJUFSwNsBDJmG_BgEqCE4BHQgCBBBLBO3_FI1mBpBJn3IDBGBBBiJPAdCCAODIrMkoCqDFMDIHJDBxiEJm",
     "QtBCW+QEDFIHCGeD0EC7N0CBmCBBCACBCDBLBABGBgCBDCHBGBbBDBEBADGBzKCYBYBeBYBeBYBeBYBeBYBHCxBgQ2BExBIAOAWEBOwiBe",
     "GF1GGBQCGBBBEF9BhBAwDsBDNCJEAhKeR5B2OpB2GqBlPGBDBBBOBkGLGpBrCEJmlBDBaBBBACABJBDBABAGAEABABABCBBBACABABABAB",
     "ABBBACDBGBDBDBABJBQFCBEBQ0pDJmgB_2pBgB5hEG9GCh0FOwpHPtTitC9QivBq6EF_iEwq3VvH"]⟩,
  ⟨["idstart", "ids"],
    ["hCZGZvBAKAEAFWBeBpOELOEHABAhEEBBCDBAGABCBABTByCBqEIlFBlBCAGoBnCaEDtBqBjBBBiDBAPBHBKCCAQABdd4CLAYgBJBEAFVEA",
     "JADAXYHKFXBFRpB6B1BDASAHJPPEHCBCVBGBADDDAQANBBCOBKAIFEBCVBGBBBBBBfDBATCQIBCBVBGBBBEDASAPBXALHCBCVBGBBBEDAe",
     "BBCPARABFDCBDDBBABBDBDCDLWA0BHBCBWBPDAaCCACBeAEHBCBWBJBEDAfBBBPBRIBCBoBCAQAFCICYFFRDXBIBACG6BvBBBMG6BBBABE",
     "BXBABJBBJACEBAVDgBA_BHBjBbEzDqBUAQFEDDADBHCEMMARlBBAFACqBBsKBDCGBABDCoBBDCgBBDCGBABDCOB4BBDCiClBPQ1CCFDrTC",
     "QBZFqCDKHRNSOROMBCPzBjBAEAjC4CHoBBAFlCKexBdCELrBEZ2BWJ0ByCA9CuBRH2BdNBKrBajBpBCKjBCKFqBCCpBDBFBBDAF_FgC1IC",
     "FClBCFCHBABABABeC0BBGBADCBGDDCFEMFCBG0DANAQMlDAEACJBACFGABABABPCDFEEARoB3zCkHGDDBMlBBAFAC3BHAQWJGBGBGBGBGB",
     "GBGBGmRCZIHECEE1CEEB5CBDFqBB9CRfwBPgQ_tGgCs0VjCtBCsIDPKBUuBQeCvCnBICmDCiCCBBABHVPBCBDBWdzBOxB+BFDABBLbKWZc",
     "HuBcAQEBJKEBoBXCBHUWDADxBBADBCECABAYCCKHCMFCFCFJGBGBqBBNGyDdj9KMWEwBkoItLCpDmBGMEFABJBMBEBABBBBBrDhBqLS_BC",
     "1BoBL0DEBmEkBZGZL4CDFCFCFCCjBLBZBSBBBOCNiB6DlC0BrIcDwBvBfNdFlBKdCjBEHBEqB9ESjBEjBEnBIzBMKBOBGBBBKBOBGBBDzB",
     "M2JJVKHYFBpBBIlCFCABrBBBDACWKWJehCSBBKVKZmC3BGBgCAPDBCBcqBcDcjBHBbb1BKVKSNRuDoC3ByBNyBNjBmBbJW6HpBGBQC7BcK",
     "AIVqBRuBUbWM0B5BBCANsBgBYajBdACAIiBDAMvBODVABAjBRBYTB_BGBABDBOBJHuBmBHCBCVBGBBBEDASAMEeJBACABlBBAZABAsB0BS",
     "DUCevBUBBA4FuBpBDkBvBUA7BqBNAnCalBG5FrB0D_BfHCACHBBBXPABA+CHCmBQABAcAKnBHAVALtBTASoCnGgBfIBkBRAxBdwDGBBBlB",
     "VAZFBBBfOAnKSPABMBhB8DAvC5cmDuDRjGsyCgDPvhBRFZ68DFmS51Gdi3B4RHeRuCRdSvBQDfUFSwNsBzG_BgEqCFAiCMgCBBAc3_FI1m",
     "BpBJn3IDBGBBBiJPAdCCAODIrMkoCqDFMDIHJm7F0CBmCBBCACBCDBLBABGBgCBDCHBGBbBDBEBADGBzKCYBYBeBYBeBYBeBYBeBYBH05B",
     "eGFlI9ByEsBKGQAhKdSrBkPbkHdCAvPGBDBBBOBkG7BjCHA0lBDBaBBBACABJBDBABAGAEABABABCBBBACABABABABABBBACDBGBDBDBAB",
     "JBQFCBEBQkqE_2pBgB5hEG9GCh0FOwpHPtTitC9QivBq6EF_iE"]⟩,
  ⟨["ideographic", "ideo"],
    ["mgMBZIOCle_tGgC_vUgoWtLCpDqodAb3_FI1mBpBJnjJrMkoT_2pBgB5hEG9GCh0FOwpHPtTitC9QivBq6EF_iE"]⟩,
  ⟨["joincontrol", "joinc"],
    ["sgIB"]⟩,
  ⟨["logicalorderexception", "loe"],
    ["gyDE7DEw3CCCA6nkBBCABB"]⟩,
  ⟨["lowercase", "lower"],
    ["hDZvBAKAEAkBXBHBABABABABABABABABABABABABABABABABABABABABABABABABABABABBBABABABABABABABBBABABABABABABABABAB",
     "ABABABABABABABABABABABABABACABABCCABACADBEACADCCACABABACABBBACADABACBCCGACACABABABABABABABABBBABABABABABAB",
     "ABABBCABADABABABABABABABABABABABABABABABABABABABABABABABABABABABABABGCACBBAEABABABABkCBjBHBeEgDArBABADACDS",
     "AbiBBBDCBABABABABABABABABABABABEBACACBzBvBBABABABABABABABABABABABABABABABABAJABABABABABABABABABABABABABABA",
     "BABABABABABABABABABABABACABABABABABABBBABABABABABABABABABABABABABABABABABABABABABABABABABABABABABABABABABA",
     "BABABABABABABABABABABABABABAwBoBn6CqBBD4XFikCIBA1D_FhCABABABABABABABABABABABABABABABABABABABABABABABABABAB",
     "ABABABABABABABABABABABABABABABABABABABABABABABABABABABABABABABABABABABABABABABABABABABABABABABABIBABABABAB",
     "ABABABABABABABABABABABABABABABABABABABABABABABABABABABABABABABABABABABABABABABABABABABABIIFKHIHIFKHIHINCHI",
     "HIHIEBBGADCBBIDCBIHKCBB5DANAQMtDADBDAbAEAEACBIDEAhBPEAraZm6BvBBADBBABABAEABBBHDABABABABABABABABABABABABABA",
     "BABABABABABABABABABABABABABABABABABABABABABABABABABABABABABABABABABABABBHABAEAMlBBAFAzoeABABABABABABABABAB",
     "ABABABABABABABABABABABABABATABABABABABABABABABABABABABClEABABABABABABCBABABABABABABABABABABABABABABABABABA",
     "BABABABABABABABABABABABABJBABACABABABABAEABACABCBABABABABABABABABABAFAFABABABABABABABAEABACADABABABABABAWC",
     "BABC1ZqBBNGvCg6TGMEphBZtmBnBoEjB7EKBOBGBBjOACCBpBBIloByB9DV65CfgsVf6sZZaGBRaZaDBABGBKaZaZaZaZaZaZaZaZabcYB",
     "FaYBFaYBFaYBFaYBFBA05BJBTGFlI9B0lChB"]⟩,
  ⟨["math"],
    ["rBAQCfAdABAtBAEAlBAfA4WCCAaBCCvQCtwGAbCLADANAODVELEhCMEADBEESAEACJBACFGADBCBBCBFDNBAkCXBFBBEBEfBAGBOrIIDUB",
     "6CAeaBAYALG9NBMJEFEBCBDEOABACFLHFB5BABAdDJCwK_BgI_PwBUCF8+zBA3ZFBAiFAQCdABAdABAjEAGDhtDBwzxB0CBmCBBCACBCDB",
     "LBABGBgCBDCHBGBbBDBEBADGBzKCjJCxBgwFDBaBBBACABJBDBABAGAEABABABCBBBACABABABABABBBACDBGBDBDBABJBQFCBEBQ0BB"]⟩,
  ⟨["modifiercombiningmark", "mcm"],
    ["0yBBCAjEAGADBhPBBCDAfA"]⟩,
  ⟨["noncharactercodepoint", "nchar"],
    ["wu_BfuQB+__BB+__BB+__BB+__BB+__BB+__BB+__BB+__BB+__BB+__BB+__BB+__BB+__BB+__BB+__BB+__BB"]⟩,
  ⟨["otheralphabetic", "oalpha"],
    ["laAdMgSNBABBBBBAoCKwBMBGQAlDGEDCBEAjBAePmDKlDBDIBCBDqDA8BLDGGT2BBCOBBFCKBdC6BGCBCBKAKBdC6BEEBCBEAeBDALC6BH",
     "BCBBVBWCEC6BGCBCBJBKBeA7BEDCBCKAoBE5BGBCBCIBLBdC6BGBCBCIBLBPAMD6BGBCBCKAKBdCrCFBABHSB9BACGSAjDACFBBQAjFSJK",
     "BjBuDLBACDXDECBCCGDDNLBAKD0zBBeBeBeBiCS8FBiBA2DLEI+GE5BJCTqCBLCxBEwBO8BCeICB5BKyBS8MhBh2BzB2nCf0jeHiBBiLAI",
     "AXE4CByBPBA5BAmBEcLtBDwBLlBAjCNMAIBtBCyBABCCBFAsBEFAtHHz5TA3iCEm0BCBBFD0YDhCAhKBvCAjIC1BNtBBLCtBIJA9BCkBLS",
     "B5BCwBMOB8CICAGACA9EJXD6BGCBCBKAKB0CIBACABDBBnDMBCqDRtHGCGdByCOBAqDKnDNhIM3HFBBCBDABAuEGCFEAcJqBEBDSKuBN3M",
     "HBGzCVBN6DFDABBBCBADAiCEBBBD8KDJBBAwBGDC9uQQgxDAB2BHD9CBslTAh7IGBQCGBBBEkDA3lCAo_BZGZGZ"]⟩,
  ⟨["otherdefaultignorablecodepoint", "odi"],
    ["vaAvwDBzyBBvlCA+nEA7xzBAvCInggaABdgD_DwHvwD"]⟩,
  ⟨["othergraphemeextend", "ogrext"],
    ["+tCAYAmLAYAmDAYAoHABAEBBBJBnDAYA3DAPA1pCAeAggBAFABAFBlDAnCB4gBAhhEBjpeAsDA9uVBgxEA0DAoIAOAJAgDAJACABCFAgHA",
     "MAxHAmIA5TAMAjwBAulUBzrYBGFt1rY_C"]⟩,
  ⟨["otheridcontinue", "oidc"],
    ["3FAvWAh_DIozBAxxBBtnEApzzBA"]⟩,
  ⟨["otheridstart", "oids"],
    ["lkGBxkCAVAs7DB"]⟩,
  ⟨["otherlowercase", "olower"],
    ["qFAPA1PIHBeEgDA0BAhsDAvhD+BNAiBkBxVANAQMzGPwaZy8BB+weByGAhECDBibDJA2gXACCBpBBI1j2B9B"]⟩,
  ⟨["othermath", "omath"],
    ["+CAxbCCAaBCBghHAbCLAgBDYBOBhCMEADBEESAEACJBADEGADBCBBCBFDDFErCECDBBBBBABECBEBERCBBABGBAGBiJDoFBBAYARA9NBMI",
     "FEFBCBDEOABACFYB5BABAdDJB2KBfJzMV_BDgBBjj1BABAEAzGABAhm1B0CBmCBBCACBCDBLBABGBgCBDCHBGBbBDBEBADGBzKCYBYBeBY",
     "BeBYBeBYBeBYBHCxBgwFDBaBBBACABJBDBABAGAEABABABCBBBACABABABABABBBACDBGBDBDBABJBQFCBEBQ"]⟩,
  ⟨["otheruppercase", "oupper"],
    ["grIPmaZgjzDZGZGZ"]⟩,
  ⟨["patternsyntax", "patsyn"],
    ["hBOKGaDBAaDiBGBABBBABBEAEADAXAfA44HXIOCSBJxJvWgF1TerjBgQ_DhMCEYPAtozBBlIB"]⟩,
  ⟨["patternwhitespace", "patws"],
    ["JESAkDAo8HBYB"]⟩,
  ⟨["prependedconcatenationmark", "pcm"],
    ["gwBF3GAxBAgMBwCA6+hCAPA"]⟩,
  ⟨["quotationmark", "qmark"],
    ["iBAEAjEAPA86HHZBnwDApODNChxzBD9FAEA6CB"]⟩,
  ⟨["radical"],
    ["g0LZB4CM1G"]⟩,
  ⟨["regionalindicator", "ri"],
    ["mv8DZ"]⟩,
  ⟨["sentenceterminal", "sterm"],
    ["hBAMAQApqBAzEC0FArBC2HA9BABADBlJBk3BB2YAEBlYAmGB9EBtBAFA6JBiLDiFBKBCBdC7FBhCBkdAXBJCvlDCyJANAWBtNA8ndAuIBj",
     "HADA+LB2CB_CA4EBzECwEB5HAmxUACB7BADBpFAMAQAhCA03CB9nBEsBD9FB1DD_DChEBGAQB4CBBBsDAqJB1DB1LBFOpDB5HClQABA7HB",
     "3CBkNB0VBqCBp5SBlEAhCBLApRBoJAmwTAovHA"]⟩,
  ⟨["softdotted", "sd"],
    ["pDBkGA5IAeA0BAUAgKAiDABApoGAzBANADAkEA9EAlNA2GBy5CAl9pDByBByBByBByBByBByBByBByBByBByBByBByBBmkCAxJBaA"]⟩,
  ⟨["terminalpunctuation", "term"],
    ["hBAKABALBDA+ZAIAhQA5BAoCAOABC0FArBKBArHB2BFBHfAlIB0nBBsFAEF3JB1YHlYA8DCnCB9ECDAnBDCB6JBiLDiFBKBBCdC7FE+BBk",
     "dAXBJCvlDCyJANAEAKABBDBsNB7ndBtICjHE+LB2CB_CA3ECzEC_DAQB5HAmxUACB5BCBDpFAKABALBDAhCACA6hBAwBAmkBAnGA2JB4EF",
     "kCF5CD4dEsBD9FGwDD_DChEBGAQB4CEsDAqJB1DCMBmLDDOpDB5HClQABA7HB3CBEB+MCtBAlUBqCBrpBE5vRBlEAhCCKApRBnJBmwTAnv",
     "HD"]⟩,
  ⟨["unifiedideograph", "uideo"],
    ["ggN_tGgC_vUuwWBBABBKABABBCC2uhC_2pBgB5hEG9GCh0FOwpHPtTitEq6EF_iE"]⟩,
  ⟨["uppercase", "upper"],
    ["hCZlDWBGhBABABABABABABABABABABABABABABABABABABABABABABABABABABABACABABABABABABABACABABABABABABABABABABABAB",
     "ABABABABABABABABABABABBBABADBBABBBCCDBBBCDBBBBABABBBACABBBCBABBDAHACACACABABABABABABABACABABABABABABABABAC",
     "ACABCBABABABABABABABABABABABABABABABABABABABABABABABABABABABABAHBBBCABDBABABABAhJABADAIAGABCBABBBQBIjBACCD",
     "ABABABABABABABABABABABAFACABBCyBwBABABABABABABABABABABABABABABABABAJABABABABABABABABABABABABABABABABABABAB",
     "ABABABABABABABABBBABABABABABACABABABABABABABABABABABABABABABABABABABABABABABABABABABABABABABABABABABABABAB",
     "ABABABABABABABABABAClBp6ClBBAFAyW1CzkCAGqBCCgKABABABABABABABABABABABABABABABABABABABABABABABABABABABABABAB",
     "ABABABABABABABABABABABABABABABABABABABABABABABABABABABABABABABABABABABABABABABABABABABABAJABABABABABABABAB",
     "ABABABABABABABABABABABABABABABABABABABABABABABABABABABABABABABABABABABABABABABABAJHIFKHIHIFLABABABAIHoCDMD",
     "MDMELDmIAEADCCCCADEGABABABDCDKBFAaPTAyZZw5BvBwBABCCABABABDBACAICBABABABABABABABABABABABABABABABABABABABABA",
     "BABABABABABABABABABABABABABABABABABABABABABABABABABABABAIABAEAtqeABABABABABABABABABABABABABABABABABABABABA",
     "BABATABABABABABABABABABABABABABAnEABABABABABABADABABABABABABABABABABABABABABABABABABABABABABABABABABABABAB",
     "ABAKABABBBABABABAEABACABADABABABABABABABABABABEBEBABABABABABABABDBABBDAFABABABAYAr5VZlmBnBoEjB8EKBOBGBBq3B",
     "yB9EV65CfgsVfgtZZaZaZaABBCACBCDBHaZaBBDCHBGbBBDBEBADGbZaZaZaZaZaZeYhBYhBYhBYhBYhBA1pEhBugCZGZGZ"]⟩,
  ⟨["variationselector", "vs"],
    ["rgGCBAwv5BPw3gavH"]⟩,
  ⟨["whitespace", "wspace", "space"],
    ["JESAkDAaA_uFA_rCKdBFAvBAg9DA"]⟩,
  ⟨["xidcontinue", "xidc"],
    ["wBJHZEABZvBAKABACAFWBeBpOELOEHABAR0DBBDCBAGEBABTByCBqEBEClFBlBCAGoBIsBBABBBBBAIaEDdKFpCElDBHCJBSCAQ6BCkDO1",
     "BEACACtBSbEKFXBFIqCBgECJBSBHCBCVBGBADDCICBCDIAEBBECLKABACCBFEBCVBGBBBBBBCABEEBCCDAHDBAHPLCBIBCBVBGBBBECJBC",
     "BCCAPDCJJGBCBHCBCVBGBBBECICBCCHCEBBECJBAQBBFDCBDDBBABBDBDCDLEEDCBDCAGAOJQMBCBWBPCIBCBDHBBCCACDCJQDBHBCBWBJ",
     "BECIBCBDHBGBBDCJBCMMBCByBBCBEFDHECJKFBCBRDXBIBACGDAEFBABHGJCBN5BFOBJnBBBABEBXBABWCEBABGBJCDgBAXBGJLABABAEJ",
     "BjBETBRBjBJA5BpCGtCClBBAFACqBBsKBDCGBABDCoBBDCgBBDCGBABDCOB4BBDCiCCCJIOPQ1CCFDrTCQBZFqCDKHVJVLTMMBCBBMzCDA",
     "EBCJhBCBKG4CHqBFlCKeBLELKnBCELrBEZGKlBbE+BBcCKGJNAINBPxBsCDJRIMzDM3BIJDwBCKFqBCCQCBmBF1QCFClBCFCHBABABABeC",
     "0BBGBADCBGDDCFEMFCBGPBxBBTAcANAQMzBMEADLRAEACJBACFGABABABPCDFEEARoB3zCkHGIMlBBAFAC3BHAPXJGBGBGBGBGBGBGBGBf",
     "lQCZOBECEE1CCBCCB+CFqBB9CRfwBPgQ_tGgCs0VjCtBCsIDbUvBEJByDlBICmDCiCCBBABHV1BEATzBMlCKJGXDABwBCjBMcDgCOKGeB2",
     "BJNCJGWDoCYCCPCEKFCFCFJGBGBqBBNG6DBBCJGj9KMWEwBkoItLCpDmBGMEFLBMBEBABBBBBrDhBqEG5GS_BC1BoBJGPQPDBYChBABADA",
     "BABABAB9DTJHZEABZK5CDFCFCFCCjBLBZBSBBBOCNiB6DlC0BoEAiEcDwBPAffNdFqBFdCjBEHBEqB9ECJGjBEjBEnBIzBMKBOBGBBBKBO",
     "BGBBDzBM2JJVKHYFBpBBIlCFCABrBBBDACWKWJehCSBBKVKZmC3BGBgCDBBFHBCBcCCEAgBcDcjBHBdZ1BKVKSNRuDoC3ByBNyBNnBIJGl",
     "BDEBW6HpBBBDBQC3BgBKAIgBfVqBUbWJmCfPJ7BHANYHJG0BBJEDIjBCAJkCEDBMBAjBRBkBGD+BGBABDBOBJH6BFJGDBHCBCVBGBBBEBJ",
     "CBCCCAGAFGCGDELJBACABlBBJBACABDBHNBdqCFJEDelCBAIJmF1BCIXFiBgCDALJmB4BHJGTcaCOEJGG5F6BlDpCVHCACHBBBdBBCIMJm",
     "CHCtBCHBBb+BIAIpCDASoCnGgBPJGIBsBBIPJYdCVBNpCGBBBrBDABBBIIJGFBBBkBBBBFHJ2JWJQBoBDENK1CAvC5cmDuDRjGsyCgDPvh",
     "BQVK68DFmS51G5Bm2B4RHeBJGuCBJGdCEL2BJDMJJUFSwNsBDJmG_BgEqCE4BHQgCBBBLBO3_FI1mBpBJn3IDBGBBBiJPAdCCAODIrMkoC",
     "qDFMDIHJDBxiEJmQtBCW+QEDFIHCGeD0EC7N0CBmCBBCACBCDBLBABGBgCBDCHBGBbBDBEBADGBzKCYBYBeBYBeBYBeBYBeBYBHCxBgQ2B",
     "ExBIAOAWEBOwiBeGF1GGBQCGBBBEF9BhBAwDsBDNCJEAhKeR5B2OpB2GqBlPGBDBBBOBkGLGpBrCEJmlBDBaBBBACABJBDBABAGAEABABA",
     "BCBBBACABABABABABBBACDBGBDBDBABJBQFCBEBQ0pDJmgB_2pBgB5hEG9GCh0FOwpHPtTitC9QivBq6EF_iEwq3VvH"]⟩,
  ⟨["xidstart", "xids"],
    ["hCZGZvBAKAEAFWBeBpOELOEHABAhEEBBDCBAGABCBABTByCBqEIlFBlBCAGoBnCaEDtBqBjBBBiDBAPBHBKCCAQABdd4CLAYgBJBEAFVEA",
     "JADAXYHKFXBFRpB6B1BDASAHJPPEHCBCVBGBADDDAQANBBCOBKAIFEBCVBGBBBBBBfDBATCQIBCBVBGBBBEDASAPBXALHCBCVBGBBBEDAe",
     "BBCPARABFDCBDDBBABBDBDCDLWA0BHBCBWBPDAaCCACBeAEHBCBWBJBEDAfBBBPBRIBCBoBCAQAFCICYFFRDXBIBACG6BvBBANG6BBBABE",
     "BXBABJBAKACEBAVDgBA_BHBjBbEzDqBUAQFEDDADBHCEMMARlBBAFACqBBsKBDCGBABDCoBBDCgBBDCGBABDCOB4BBDCiClBPQ1CCFDrTC",
     "QBZFqCDKHRNSOROMBCPzBjBAEAjC4CHoBBAFlCKexBdCELrBEZ2BWJ0ByCA9CuBRH2BdNBKrBajBpBCKjBCKFqBCCpBDBFBBDAF_FgC1IC",
     "FClBCFCHBABABABeC0BBGBADCBGDDCFEMFCBG0DANAQMlDAEACJBACFGABABABPCDFEEARoB3zCkHGDDBMlBBAFAC3BHAQWJGBGBGBGBGB",
     "GBGBGmRCZIHECEE1CGCB5CBDFqBB9CRfwBPgQ_tGgCs0VjCtBCsIDPKBUuBQeCvCnBICmDCiCCBBABHVPBCBDBWdzBOxB+BFDABBLbKWZc",
     "HuBcAQEBJKEBoBXCBHUWDADxBBADBCECABAYCCKHCMFCFCFJGBGBqBBNGyDdj9KMWEwBkoItLCpDmBGMEFABJBMBEBABBBBBrDhBqEG5GS",
     "_BC1BoBJ3DABADABABABAB9DkBZGZL3BCeDFCFCFCCjBLBZBSBBBOCNiB6DlC0BrIcDwBvBfNdFlBKdCjBEHBEqB9ESjBEjBEnBIzBMKBO",
     "BGBBBKBOBGBBDzBM2JJVKHYFBpBBIlCFCABrBBBDACWKWJehCSBBKVKZmC3BGBgCAPDBCBcqBcDcjBHBbb1BKVKSNRuDoC3ByBNyBNjBmB",
     "bJW6HpBGBQC7BcKAIVqBRuBUbWM0B5BBCANsBgBYajBdACAIiBDAMvBODVABAjBRBYTB_BGBABDBOBJHuBmBHCBCVBGBBBEDASAMEeJBAC",
     "ABlBBAZABAsB0BSDUCevBUBBA4FuBpBDkBvBUA7BqBNAnCalBG5FrB0D_BfHCACHBBBXPABA+CHCmBQABAcAKnBHAVALtBTASoCnGgBfIB",
     "kBRAxBdwDGBBBlBVAZFBBBfOAnKSPABMBhB8DAvC5cmDuDRjGsyCgDPvhBRFZ68DFmS51Gdi3B4RHeRuCRdSvBQDfUFSwNsBzG_BgEqCFA",
     "iCMgCBBAc3_FI1mBpBJn3IDBGBBBiJPAdCCAODIrMkoCqDFMDIHJm7F0CBmCBBCACBCDBLBABGBgCBDCHBGBbBDBEBADGBzKCYBYBeBYBe",
     "BYBeBYBeBYBH05BeGFlI9ByEsBKGQAhKdSrBkPbkHdCAvPGBDBBBOBkG7BjCHA0lBDBaBBBACABJBDBABAGAEABABABCBBBACABABABABA",
     "BBBACDBGBDBDBABJBQFCBEBQkqE_2pBgB5hEG9GCh0FOwpHPtTitC9QivBq6EF_iE"]⟩]

end BuilderAudit
