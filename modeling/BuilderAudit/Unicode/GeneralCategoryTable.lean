import BuilderAudit.Unicode.CodeSet

/-!
# General categories

The table of the general category of every assigned scalar value, as of Unicode 16.
-/

namespace BuilderAudit

/-- The general categories of assigned scalar values, each with its short and its long names. -/
def generalCategoryTable : List NamedSet := [
  ⟨["lu", "uppercaseletter"],
    ["hCZlDWBGhBABABABABABABABABABABABABABABABABABABABABABABABABABABABACABABABABABABABACABABABABABABABABABABABAB",
     "ABABABABABABABABABABABBBABADBBABBBCCDBBBCDBBBBABABBBACABBBCBABBDAHACACACABABABABABABABACABABABABABABABABAC",
     "ACABCBABABABABABABABABABABABABABABABABABABABABABABABABABABABABAHBBBCABDBABABABAhJABADAIAGABCBABBBQBIjBACCD",
     "ABABABABABABABABABABABAFACABBCyBwBABABABABABABABABABABABABABABABABAJABABABABABABABABABABABABABABABABABABAB",
     "ABABABABABABABABBBABABABABABACABABABABABABABABABABABABABABABABABABABABABABABABABABABABABABABABABABABABABAB",
     "ABABABABABABABABABAClBp6ClBBAFAyW1CzkCAGqBCCgKABABABABABABABABABABABABABABABABABABABABABABABABABABABABABAB",
     "ABABABABABABABABABABABABABABABABABABABABABABABABABABABABABABABABABABABABABABABABABABABABAJABABABABABABABAB",
     "ABABABABABABABABABABABABABABABABABABABABABABABABABABABABABABABABABABABABABABABABAJHIFKHIHIFLABABABAIHoCDMD",
     "MDMELDmIAEADCCCCADEGABABABDCDKBFA9BA8zCvBwBABCCABABABDBACAICBABABABABABABABABABABABABABABABABABABABABABABA",
     "BABABABABABABABABABABABABABABABABABABABABABABABABABAIABAEAtqeABABABABABABABABABABABABABABABABABABABABABABA",
     "TABABABABABABABABABABABABABAnEABABABABABABADABABABABABABABABABABABABABABABABABABABABABABABABABABABABABABAK",
     "ABABBBABABABAEABACABADABABABABABABABABABABEBEBABABABABABABABDBABBDAFABABABAYAr5VZlmBnBoEjB8EKBOBGBBq3ByB9E",
     "V65CfgsVfgtZZaZaZaABBCACBCDBHaZaBBDCHBGbBBDBEBADGbZaZaZaZaZaZeYhBYhBYhBYhBYhBA1pEhB"]⟩,
  ⟨["ll", "lowercaseletter"],
    ["hDZ6BApBXBHBABABABABABABABABABABABABABABABABABABABABABABABABABABABBBABABABABABABABBBABABABABABABABABABABAB",
     "ABABABABABABABABABABABACABABCCABACADBEACADCCACABABACABBBACADABACBCCGACACABABABABABABABABBBABABABABABABABAB",
     "BCABADABABABABABABABABABABABABABABABABABABABABABABABABABABABABABGCACBBAEABABABABkCBahGABADADCSAbiBBBDCBABA",
     "BABABABABABABABABABEBACACBzBvBBABABABABABABABABABABABABABABABABAJABABABABABABABABABABABABABABABABABABABABA",
     "BABABABABABACABABABABABABBBABABABABABABABABABABABABABABABABABABABABABABABABABABABABABABABABABABABABABABABA",
     "BABABABABABABABAwBoBn6CqBCC4XFikCIBA1DrB_BMBhBmDABABABABABABABABABABABABABABABABABABABABABABABABABABABABAB",
     "ABABABABABABABABABABABABABABABABABABABABABABABABABABABABABABABABABABABABABABABABABABABABABIBABABABABABABAB",
     "ABABABABABABABABABABABABABABABABABABABABABABABABABABABABABABABABABABABABABABABABABIIFKHIHIFKHIHINCHIHIHIEB",
     "BGADCBBIDCBIHKCBByIADBDAbAEAEACBIDEA1BAr1CvBBADBBABABAEABBBFFABABABABABABABABABABABABABABABABABABABABABABA",
     "BABABABABABABABABABABABABABABABABABABABABABABABABABABBHABAEAMlBBAFAzoeABABABABABABABABABABABABABABABABABAB",
     "ABABABABATABABABABABABABABABABABABABAnEABABABABABABCBABABABABABABABABABABABABABABABABABABABABABABABABABABA",
     "BABABABABHBABACABABABABAEABACABCBABABABABABABABABABAFAFABABABABABABABAEABACADABABABABABAaADA1ZqBFIHvCg6TGM",
     "EphBZtmBnBoEjB7EKBOBGBBj4ByB9DV65CfgsVf6sZZaGBRaZaDBABGBKaZaZaZaZaZaZaZaZabcYBFaYBFaYBFaYBFaYBFBA05BJBTGF3",
     "vChB"]⟩,
  ⟨["lt", "titlecaseletter"],
    ["lOACACAmBA1sHHIHIHMAPAvBA"]⟩,
  ⟨["lm", "modifierletter"],
    ["wVRELOEHABAlEAFA+OAmHAkFBtIBEAfAJADAgFAnFA0mBA_DA1RA62BArDAjTAwOFuF+BNAiBkBxVANAQM_+CBxHA_FA1OArBEFAhDB9CC",
     "24bAinBFuIAyDAcB5DIwCAXApDCDB1OAWApEAsDAVBnDDJAmgVAtBBg_BFBpBBIzsBAgBAwuXD8PCoBBmRMgCBBAsgQDBGBBxhM9BpGGtd",
     "A_iBA"]⟩,
  ⟨["lo", "otherletter"],
    ["qFAPAgIAEDwGA7ZaEDtBfBJjBBBiDBAYBKCCAQABdd4CLAYgBVVqBYHKFXBFRoB7B1BDASAHJQOEHCBCVBGBADDDAQANBBCOBKAIFEBCVB",
     "GBBBBBBfDBATCQIBCBVBGBBBEDASAPBXALHCBCVBGBBBEDAeBBCPARABFDCBDDBBABBDBDCDLWA0BHBCBWBPDAaCCACBeAEHBCBWBJBEDA",
     "fBBBPBRIBCBoBCAQAFCICYFFRDXBIBACG6BvBBBMF7BBBABEBXBABJBBJACEXDgBA_BHBjBbEzDqBUAQFEDDADBHCEMMAxDoKBDCGBABDC",
     "oBBDCgBBDCGBABDCOB4BBDCiClBPxDrTCQBZFqCGHHRNSOROMBCPzBoBAjCiBB0BHEChBBAFlCKexBdCELrBEZ2BWJ0BwFuBRH2BdNBKrB",
     "ajBpBCKdxDDBFBBDA6hBD3_C3BYWJGBGBGBGBGBGBGBGnRA1BAE1CIAB5CEAFqBB9CRfwBPgQ_tGgC0wUB2jBjCnBIrIEPKBiCAxBlCpFA",
     "nDADGBCBDBWdzBOxB+BFDABBLbKWZcHuBtBECIKEBoBXCBHUPBFDADxBBADBCECABAYBDKHAOFCFCFJGBGxEiBdj9KMWEwBkoItLCpDjCA",
     "BJBMBEBABBBBBrDhBqLS_BC1BoBL0DEBmEpDJBsBCeDFCFCFCCjBLBZBSBBBOCNiB6DlMcDwBvBfNTBHGlBKdCjBEHgEtCiDnBIzB8CzBM",
     "2JJVKH4EFCABrBBBDACWKWJehCSBBKVKZmC3BGBgCAPDBCBcqBcDcjBHBbb1BKVKSNRuDoC3FjBmBDBAwJpBGBQC7BcKAIVqBRuBUbWM0B",
     "5BBCANsBgBYajBdACAIiBDAMvBODVABAjBRBYTB_BGBABDBOBJHuBmBHCBCVBGBBBEDASAMEeJBACABlBBAZABAsB0BSDUCevBUBBA4FuB",
     "pBDkBvBUA7BqBNAnCalBG5FrBzGHCACHBBBXPABA+CHCmBQABAcAKnBHAVALtBTASoCnGgBfIBkBRAxBdwDGBBBlBVAZFBBBfOAnKSPABM",
     "BhB8DAvC5cmHjGsyCgDPvhBRFZ68DFmS51Gdi3B4RHeRuCRdSvBzBUFSzNnB1MqCFAvF3_FI1mBpBJ33IiJPAdCCAODIrMkoCqDFMDIHJw",
     "zIA1PsBhBAhKdSrBkPalHdCAvPGBDBBBOBkG7pBDBaBBBACABJBDBABAGAEABABABCBBBACABABABABABBBACDBGBDBDBABJBQFCBEBQkq",
     "E_2pBgB5hEG9GCh0FOwpHPtTitC9QivBq6EF_iE"]⟩,
  ⟨["mn", "nonspacingmark"],
    ["gYvDzIEpIsBBABBBBBAoCKwBUQAlDGCFCBBDjBAea7CK6BIJAYDBIBCBErBC7BIqBXBf3BABAEHEADGKBdA6BAEDIAUBaACB5BAEBEBCCD",
     "AeBDALB5BAEEBBEAUBWFBA6BACABDIAHBLBeA9BAMAyBADA3BABCFCBDHBLBdA6BACAGAFBUBcB5BBEDIAUBdAoCAHCBA6CACGMHiDACIL",
     "GpCBbABABA3BNBEBBFKBjBJAmDDBFBBCBZBECQDNACBGAPA_VCydCdBeBeBgCBBGIACKJAtBCBA1DBiBA2DCEBJAGC7GBCA6BABGBABACH",
     "GJCAwBNBPxBDwBABEBAFAoBIMBgBDCBBC4BABBDABC6BHCB4ECBMBGEAGADBmG_BwWMEADL+_CCtEAgDfqRDrDB0udAEJgBBwCBwIADAEA",
     "ZBFA3EBaRNAmBHZKuBCwBACDCBnBAjCFCBCBMAIAvBAzBABCCBFBBAqBBIAuHACAEAw5TAhXPQPteAiHA1EEm0BCBBFDoBCEAlFB9RDhCE",
     "9JBvCDmCKxBD7DA2BOpBACBKCxBDCBHA9BCkBEBH+BAMB0BIKDCA_CCCABBGACA9EADHVB5BBDAlBGDEmCFNABABAOB1CHCCBAXA0CFBAE",
     "BBBuHDGBBBbB1CHCABBqDABACFBAlDABACDBEjIIBBgIBBAEAwEDCBEAgBJoBFCDIAJFCCuBMBB2MGBFBAyCVCGBBBB6DFDABBBGBAoCBD",
     "ABA7KBLB0BEFABAXAlnFAGOomLLDCguCE7BG4gBA_BDxCA4lTBhzEtBCWgRCRHCGeD0EC79B2BExBIAOAWEBOwqBGBQCGBBBEkDAgFG3LA",
     "9BD8PD+HBgXGtDG19lYvH"]⟩,
  ⟨["mc", "spacingmark"],
    ["joCA3BACCIDBByBB6BCGBCBKArBA6BCiCA6BCIABB1BB6BABAGBCBKAmDBBBDCBCKApBC9BD9BB6BABECBBBJBcAOB6BCFCBCKAqBBrCCG",
     "HSBqKB_BArFBEAGACBZBKCCGVBCFCAKC4zBAeAhEAHHBB6KDCCEBBFgHB6BABAJABBIFxEAwBAFABEBB9BAeAEBCA8BACCBADBwBHIBrFA",
     "VA25EBz_dBCA4CByBPuEBvBAwBBEBCCuDBCBYAtBABAtDACBFAtHBBBBBBAzgZABA_DAtBCEBzDAYB7BAwBCJBNA9CCDBBAqFCfB6BBBDC",
     "BCCJAKB0CCHACABDBBBAlDCIBDAqDCGABDCAtHCGDCAxDCIBBAtDABBGAnDABBEAlICJA3HFBBEACABAuECIDEA0CAdB+BA3MAOAqDAHAC",
     "A1GEEBBA+KBMAwBBIBBAovQCkxD2BoDBzrYBGF"]⟩,
  ⟨["me", "enclosingmark"],
    ["okBB0xFA+wBDBCrshBC"]⟩,
  ⟨["nd", "decimalnumber", "digit"],
    ["wBJmxBJmEJmGJ8MJ2DJ2DJ2DJ2DJ2DJ2DJ2DJ2DJ2DJgDJ2DJmCJ2IJmCJm6BJmBJsJJgEJmFJGJ2FJ2CJmEJGJmuiBJmVJmBJmGJWJ2CJ",
     "2MJ24UJmsBJmkCJGJ8YJgEJ8BJwEJ2IJ2KJ2DJ2LJmDJGTsCJmNJmDJ2UJ2CJ2HJmCJmNJ2uQJmpCJ2CJmEJ2QJ27XJ02CxBgqCJmNJ2PJ",
     "3HJ1aJ20EJ"]⟩,
  ⟨["nl", "letternumber"],
    ["u3FCvzCiBCD+zDAZIOCr1dJwyW0BsOAIAmEEqhIuD"]⟩,
  ⟨["no", "othernumber"],
    ["yFBFACC1pCF4LF4DClEG5GGRIxNJ1hBTzjBJgPA10BADFGJmGPpBA2W7BuCV2TdprBA0kBDqEJeHBOgBJnBOwrdFxmWsBhCDRB1KakBD0p",
     "BHZGnBIrCEWFgFBCPCtBgCI0BBeCrCEoDHYHpBGqKFgLe+EJqBDwDGmET7LTlqBBuNInbSzaUm8SG+YWphZTMTsDYuqFIhd6BBCBDsCsBB",
     "OieM"]⟩,
  ⟨["pc", "connectorpunctuation"],
    ["_CA_+HBTA+u3BBYCvHA"]⟩,
  ⟨["pd", "dashpunctuation"],
    ["tBA8qBAzBAhyDAlgBApgCFhwDACAfBEAcA+NATAvDAwszBBlBAKApFAgzDA+JA"]⟩,
  ⟨["ps", "openpunctuation"],
    ["oBAyBAfA+1DABA+6BA+rCADAmBA3BAPA6TABAeA+hBABABABABABABAwCAgBABABABABA0MABABABABABABABABABABAgCABAhBAlhBABA",
     "BABAZASABABABAsNABABABABADABABABACAhpzBA3GAdABABABABABABABADARABABAqFAyBAfADACA"]⟩,
  ⟨["pe", "closepunctuation"],
    ["pBAzBAfA91DABA+6BAptCA3BAPA6TABAeA+hBABABABABABABAwCAgBABABABABA0MABABABABABABABABABABAgCABAhBAlhBABABABAs",
     "BABABABAsNABABABABADABABABACB+ozBA5GAdABABABABABABABADARABABAqFAzBAfACACA"]⟩,
  ⟨["pi", "initialpunctuation"],
    ["rFAs7HACBCAZAouDABAEACAPADA"]⟩,
  ⟨["pf", "finalpunctuation"],
    ["7FA96HADAcAouDABAEACAPADA"]⟩,
  ⟨["po", "otherpunctuation"],
    ["hBCBCCABABBKBDBbAkCAFAOBHA+VAIAyOFpBA2BACACAsBBUBBBNABCqCDmDArBNpHC2BOfAlIBKAsEA4DA5DAmMAMAvLA6CAKBoFOBAwD",
     "AqCEEBvDFrFAkTIlYA8DCnCB9ECBClBFBD5JB4GBgEGBFgFBKGcC8DD7BE+BBgCHLAiaBIHIICDCCDKBABJ6kDDBBwDAvEBECCACIBBBAC",
     "BKEBJCDBABMCCsNC5BA9FAigdBtICjDAKAzDF8LD2CBoBCBAxBBvBAhDMQB8DD+DBQB5HAkxUGCAWAUBCDDCBDHCGABB1ECBCCABABBKBD",
     "BbAkBACB6MC8UAwBA+MAnXAnGAfAwIImBAwDGiCG5CD4dEsBD9FGtDBBD+DDwBBvCDEANABC4CFrDAqJBBByDEKBBAoDA6HWpDCcMsCAiE",
     "C8HAoIC7EA8CHzCCBE9CJ3GA_CEqBBlUBqCMvFAwjBE87CB7zOBlEAhCEIAoRCnJDnKA8lTAnvHEz7CA+aB"]⟩,
  ⟨["sm", "mathsymbol"],
    ["rBAQC9BABAtBAEAlBAfA+XAvQC7xGANAnBCNCrEAnBEGAkCEFBEACACAHAfBCABAfrIgBB6CAeYoBF1OAJA2BHvDAwKECeKPgIiEW+BEfC",
     "hIwBUCF8+zBA4ZABCkFAQC9BABAjEAGDhtDBxpyBAZAfAZAfAZAfAZAfAZAs5FB"]⟩,
  ⟨["sc", "currencysymbol"],
    ["kBA9DDpnBA7DAyPByPBHA1HAnIAlSA7sCAkmCgB37hBAjuVAsDA6EA7GBDB2_HD+4wBAwtCA"]⟩,
  ⟨["sk", "modifiersymbol"],
    ["+CABAnCAGAEADApQDMNFGBABQ1DAOBioBA05FABCLCNCNCNB8kEBjzdWJBnDBweAOBmiUQ7bABAiFA3g9BE"]⟩,
  ⟨["so", "othersymbol"],
    ["mFACAEABAxeAqIB_DBuGAKATB3HAjQA1LAiEFBAkEAvGApBAnMCPABCCFUABABAlEHBFBBFDlGBwXJzWAyWA9EhBhLJJIjsBBBDBBKABBG",
     "FBABABAEALBOABBBA6BBJECDBBBBBGBeCBBABesIHETCGCwCBdZnBGnCWKxCtCW2FBIB1BIuDB3HsBrBgC_HgQvBVBGmBCfBoDlHFlLBuB",
     "ZB4CM1GaPEANBMAVBGBwKBEJgBlBJAQeLdIAPfKmBP_JguG_Bw0V2BhbDKBBA9RCm2UP_DAtBCkPADAEBNB5JI5BQCCBMDAvBsB6zBBvSA",
     "2jDA1kCHEQq6SDFA2qUAj7DvHQzN8EzD8B1HKmBC7BFCWBHdE8BVhCDA6F2CplB_P3BDyBHBNBBo2BA86CAhEAxWrBEjDMOCOBOBkBXgF4",
     "BcNrBEIHBOF6E6HF3WEQDMD2DE+CGLEAPLE3BIJGnBIdCLEB+BzKMNCMDJF3BHOCKGIHyEB7C"]⟩,
  ⟨["zs", "spaceseparator"],
    ["gBA_DA_uFA_rCKkBAvBAg9DA"]⟩,
  ⟨["zl", "lineseparator"],
    ["ohIA"]⟩,
  ⟨["zp", "paragraphseparator"],
    ["phIA"]⟩,
  ⟨["cc", "control", "cntrl"],
    ["Af_CgB"]⟩,
  ⟨["cf", "format"],
    ["tFAyqBFWAgGAxBAgMBwCAr5DA8_BEaExBEBJv03BA5HChmEAPAi7IPgjiBDvmFHm0rYAe_C"]⟩,
  ⟨["co", "privateuse"],
    ["gg4B_nGg4hc9__BC9__B"]⟩]

end BuilderAudit
