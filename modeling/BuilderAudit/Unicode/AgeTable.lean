import BuilderAudit.Unicode.CodeSet

/-!
# Ages

The table of the version in which each code point was first assigned, up to Unicode 16.
-/

namespace BuilderAudit

/-- The versions, oldest first, each with the code points that it was the first to assign. -/
def ageTable : List NamedSet := [
  ⟨["1.1", "v11"],
    ["A1PEd4B4CHuBBJWlCaBSBEADAFGBABTBrBBGDABABABABRNLBhCBLBoBJ0BCBCBDbCHCB3BlBCGBmBBAmBJBIMaFEXAOADABZFSNNCnCCE",
     "BOBdCJnQCB0BCRCEDYQCBHCBCVBGBADDCABGCBCCJAEBBECUHACFEBCVBGBBBBBBCABEEBCCLDBAHOMCBGBABCBVBGBBBECJBCBCCAPAFJ",
     "RCBHCBCVBGBBCDCHDBCCIBEBBCEKRBBFDCBDDBBABBDBDCDHBCEEDCBDJAPLOCBHBCBWBJBEEGBCBDHBJBEJSBBHBCBWBJBEEGBCBDHBHA",
     "BBEJSBBHBCBWBPEFCCBDJAIBEJxE5BEclBBBACBBACAGDBGBCBABACBBMBCCEBABFCJCBiOlBKmBEAE5CFjCFxCmgD6EF5CGVCFClBCFCH",
     "BABABABeC0BBOBNCFBSCCBIBuBBWjBGDaRKlBRe4BavBN6CVxHOAB4DlEkBbKVqEV1EKvCQTG1CxEDBDCbBiBBABDDABGCGOeDXBNhiC3B",
     "HABzCEFC9CGnBE9CBPgDcDjBcbDxBPLEuBB2DEiDCehwGltU6iQtxGyGGMEGYBEBABBBBBrDhBsLQ_BC1BoBLkBDMUEJBSBDECBABmECAB",
     "9CC9CDFCFCFCCDGBGOC"]⟩,
  ⟨["2.0", "v20"],
    ["xsBQBMUA7pCnCBgBHaEFBABUDGBAh3DAvQA06iBj9K6iqCB+__BB+__BB+__BB+__BB+__BB+__BB+__BB+__BB+__BB+__BB+__BB+__B",
     "B+__BhggE"]⟩,
  ⟨["2.1", "v21"],
    ["slIAv63BA"]⟩,
  ⟨["3.0", "v30"],
    ["2PDeHCR1DExBAKE3CITA0DADABABABAeAMAiCAMAqBBCD8CB8EAoGCiDBFAPAqBEBNBdDa1BwBxuBBBRDXBIBACGDAEFBABHSC1LArBAXC",
     "HABCBOCAwBhBBEBBBGDDGZmNGB+BBABDCGBABDCmBBABDCeBABDCGBABDCGBGBWBeBABDCGBmBBSGbjB0CM1TJcDwCvE8CDJWOBJG3CIpB",
     "l8BAYF_CCyBB1CBoCAnDItIA5DABdqEBpOHhBA2CBuM_HgsBZB4CM1GaL8BCDAhLXoS1tGqyUskBDRCPBLBCBA2yVA7mBC"]⟩,
  ⟨["3.1", "v31"],
    ["0fB6u+BfwoBeBDMa1FlBClBy9yB1HKmBDzFiR0CBmCBBCACBCDBLBABDBBBgCBDCHBGBbBDBEBADGBxKEhJExBggK22pBppU9QjvhWAe_C"]⟩,
  ⟨["3.2", "v32"],
    ["gRAuJATMoDBcAzEB5BBCBCBxBP+KBhKAlqCBnwBMBGLWJTMMBCBBzmCAGEEAHENA+BByBGyCOoFLyHN8DAezB8IT3EJ4CHWB6CLCJ+GN6C",
     "bEPgI_P7pBC3CBIB+CAwHPxCOxCOivcBQAMADAqrV6BxcADP1BBsBArHB"]⟩,
  ⟨["4.0", "v40"],
    ["hRASC3DB_BQwCHFC3EEkQDJIgCC1EBPAtBCdC0NA4FAjCABAoEA0CCNAjCA7BAhEHhGB_4CASJmIcDLELEADpBCErDfgYrDnXBmHAzUBuJ",
     "A0IB0DHOB+iBNv4BBxBArBBuCDnFDjDBfAguG_B9_rBApCB3NLBZBSBBBOCNiB6DFCEsBDIgSdBAmEBmBvCCJ2aFCABrBBBDACAg2yB2Cq",
     "LA+hrYvH"]⟩,
  ⟨["4.1", "v41"],
    ["3RK2IE_ED2HBqFAiBCjCASA6BFxHdvQAwCAnPAvBApfBnJBBAqIA_BA_BAnBAfAfAfAPAnBAXBfZmvBpBGZGJEBgBbCBsa3CxUBBGxBEdD",
     "1BAwCAPAkUK8RAlDBSKFPuIGnaFsHuBBuBhBqDOsBK1BJAQWJGBGBGBGBGBGBGBGhBXEBidPuFAnpbVk6BWpHrBkyUpD2ZJmZqC1QjBENq",
     "xBDBBFHBCBaECEIIIn9xBlC+iBB"]⟩,
  ⟨["5.0", "v50"],
    ["iSNrJCxKAqBFQDmFAlQ6BgMBBBibBNBtwDrCEsBnSGzBBsXD9CB1BA3SLqWA0IDpaGFD8JMHD_0eDFB+I3BokYZFAg3FubxEiDNDs3rBR4",
     "iBB"]⟩,
  ⟨["5.1", "v51"],
    ["wbDCB3CA3FAsEPiHELEgBEuJRxPB+GAjBAuGAdBsDAsDAaBIBUH9FAGAdBMFDGrPBhDADCtCAFACAHCEFa_BEBqgCA1WqBDLmC3BDODyBr",
     "Kb1FD6CFkLArEA+CA1BD0oBAVJDDoIAfDrZEEoBDE4ICBCEFiLfYDCS8XAiFT4ubH8pBrJUfCRIbjEECqDuDEgEkCJLmBzCLAgF2BJNCJC",
     "Dk+UCpbL0BtBiEcDwBvyBZFAp_xBA22HrBEjD"]⟩,
  ⟨["5.2", "v52"],
    ["kpBB6WtBCOhGAtCAGAjBBgEA5uBDhGD8FEkCEyCFgQA2TIwRlC0FBuBAlC+BBcCKGJGNiRiBqIA4VC3EC2BA+SA1VBdCEJBSBAEX3CA9fE",
     "2IANBrDG_JAygBL0rbHkoBvBgN3C4JJmFbkDcDtCBKEBgEbEiCYEgHtBCJ29KWEwBvzICyuDVBI6FBkKfgE1BDcCaFHgEoC3QehQhC+5Hu",
     "hBxmvBKFeCALABACADADEIAHAZABBCAKDCAvDAPhBOI3ltB0hE"]⟩,
  ⟨["6.0", "v60"],
    ["mpBB4HA+BAgPbCA7GBTAGBbE6PFxNAQATA9RDpCBicBhjCzBID8PA4UHcAvZK6WATABDdAEBcAjBABAECJB0BCYAOAOBgtBAOA4hBClldB",
     "rJBBBOJwCAmYFCFCFJGBGjkUP+hFtCEdw8V4RnuRB+kQOCNCOBOwCABKBABBBCBCFHBGBJGIBACBBJEBBJrCZBBvBIVBuFgBPFBlCDTMkB",
     "BEVQP+BBAB1FBDD9BSXzEEBPBCBABABABCBFCDBACDBLEKwBlC6BzDs+vB9G"]⟩,
  ⟨["6.1", "v61"],
    ["vsBA0DA7UABK3BaxPAtfBnPAFAvBCr1CCMFgIHrBD02CABAkpBBzBAFA4BBqGJwscAn1BHjBAyHBWAtCBmXW35TBw6D3BGBw4BYHJG0BBN",
     "8BoCHJmlB3BIJ2hWkCLuBQQgzfDBaBBBACABJBDBABAGAEABABABCBBBACABABABABABBBACDBGBDBDBABJBQFCBEBQ0BB4TB0eD8FAQAD",
     "ABABABADAGBEABBEA"]⟩,
  ⟨["6.2", "v62"],
    ["6lIA"]⟩,
  ⟨["6.3", "v63"],
    ["8wBApyGD"]⟩,
  ⟨["7.0", "v70"],
    ["_bAoNH9CB2DA7UALFsCA4DAHA_TAzBAsCA_DAkHJhoCHkRBxMO5RBtHOlWC2ZGlYAsiBCKZCfChBDLBHqTG1ieF2HLLCCBlCAoPe9DDwFv",
     "BEBh2UG9aBTA_JbjBAwBqBlMnBIzBLAwE2JJVKH4H+BIIwOfgBmBELpERHDMGvmBAwGmB2CAMAGTLRBqByD6BFJHCBHCBCVBGBBBECICBC",
     "CJAFGCGDErInCIJmF1BCR2BkCLJmSyCMAgO4B2jCpBqGLFAruReBJEBgDdCFKlCKJBGBUFSwjUqDFMDIHJCH86KkGCPo_BAgBVVB0QLJAm",
     "CAWLlBAFDFLRGnCABA2FAEB_BBEGdRBoBB1CmCBNvBmCJQMDDsE0CrBLE3BIJGnBId"]⟩,
  ⟨["8.0", "v80"],
    ["zlCBuBA1QAgLAkIA10BACFgmDArGBgzCD9+cIo2BAwHAiBFkKBiTDMvCuzUBw1CSBBFE8FBCPCtBgUyBNyBHFpmBDOEgFGBABDBOBK2CAv",
     "CA5TTiJZDOEP5iDAmHjG81HmS38iBK3wBrUPEBO9jGCuCBvCEkBH_HArCEzHBrEA_RInDE7BA_yvBh0F"]⟩,
  ⟨["9.0", "v90"],
    ["2lCHWO9cAuGAECBGXCn4DIyLA_vBDkyCBpreA2IAnmWBhZjBEjBiqDAhO5CBABAiQMzsBIBsBBNKcDfCVBNp5UAfs_FTyXtoVGBQCGBBBE",
     "1mCqCFJEB7hCRuEA+ZApBAsJBhBCiRFBHIACLBLEOmBM"]⟩,
  ⟨["10.0", "v100"],
    ["gjCKxMB8HFgQA6BB69DA+HDlWA_ZAy+BAyTEkXAn1bUi6YCw2FnCIzBCWBE9SGBBBrBDABBBIIJn0UAghQ8IxCrMk7PFtjBBiBBnQLTAIH",
     "BBZASMmBF4BWpm1BwpH"]⟩,
  ⟨["11.0", "v110"],
    ["grBAnBAmDAtQCzGAqJA3DAtMA_DAz_CA3gBqBCC63DCWYEOrSEgXA71bE_9BAIBkKB0pYBSA3VnBIJmOnBIpBzLA2DC0PAiJA7VAlH7BhT",
     "AiWFBBBkBBBBFHJ2JYn6T6CyqGEu3ST+DG4nGjC6jBApuBA7GD0LCcECDDABDYKNJHBkBYgDN"]⟩,
  ⟨["12.0", "v120"],
    ["3jDAuQACACABFEAHAHBCANA_xDAu2DA1BAvSAqreFCE_cB4jZWojBA4SAnXHCtBCK_EB6pBxBNAwhFIs4OFEAvBI6CBugGF4qKCRD48LsB",
     "DNCJEBwL5BFAryBA1d8BuhBAorBAkBAlHLhJCvBAxBAJApBFDBKFDHCCwBzCcDECFCNF"]⟩,
  ⟨["12.1", "v121"],
    ["_3MA"]⟩,
  ⟨["13.0", "v130"],
    ["+lCJtUAuNA8DA9pDB2mEA4VCobE2_GJwxUMq+BDqBB1BA7ZDwxVAjnDpBBCCB+Hb7LAmEBqUAFB+kBGCACHBBBdBBCLJJ2yBAzhUALBh4G",
     "iPqBIkgZC9CC9BAopBBjBBzNB6CAlDAEBqBBGCdAoFAODPSHGJCNGpByEB2BlBJ92qBGipWq6E"]⟩,
  ⟨["14.0", "v140"],
    ["9wBAySeBBGHVASKpbAgBA_DAvxCAHAJAvHAxVN9DAwBB7TAlWAu7CAvBAzPK_scCg+BBOBBABEYCt+UA9LP_DAuBBw7BKBOBGBBBKBOBGB",
     "BjOFBpBBI19BZmHFsCA2vBAmEGpbPwmFiD9zOuCBJmpRDBGBBgJD9uHtBCWJzDlRB1oDexbexpBGBDBBBO+2DCwIAoMAyCAuFBsBDKDICR",
     "CGHIGn_qBB1iED"]⟩,
  ⟨["15.0", "v150"],
    ["znDA6OAuhgCC_ZC+lCJ2fQBoBDb1mFAJc8mfAiBAqrITxiDFlI9BhBAgiBpBivEA3ECEE5CA7UCPBkBCLCBAOBKBMAOBgivBA2gX_iE"]⟩,
  ⟨["15.1", "v151"],
    ["8_LDvPAgwuFtT"]⟩,
  ⟨["16.0", "v160"],
    ["3kCA21EBvBApIB88BC6tDBlvdCMCjvXzBs6BlBDcIByJC3BAjkBJBACABlBBJBACABDBJBBIBtXT8mBhBOJgbAloF68DloH5BmgD5Bl8HA",
     "g4P5HGzN84FqBEAy1EJEBnOAFAuBAHAVACAJAhHkB"]⟩]

end BuilderAudit
