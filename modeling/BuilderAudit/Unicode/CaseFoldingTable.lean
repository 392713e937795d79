/-!
# Case folding table

The groups of characters that simple case folding makes equal, as of Unicode 16. Each group of two to four characters
is packed as its size less two, the gap of its least character since the least one of the group before, and the gaps
between its characters.
-/

namespace BuilderAudit

/-- The packed groups, ordered by their least characters. -/
def caseFoldingTable : List String :=
  ["AhCgBABgBABgBABgBABgBABgBABgBABgBABgBABgBBBgB_lIABgBABgBABgBABgBABgBABgBABgBBBgBsIABgBABgBABgBABgBABgBABgBAB",
   "gBB7CnXgBALgBABgBABgBABgBABgBBBgBmiIABgBABgBABgBABgBABgBABgBABgBABgBABgBABgBABgBABgBABgBABgBABgBABgBABgBACgB",
   "ABgBABgBABgBABgBABgBABgBAB_tHAgB5DABBACBACBACBACBACBACBACBACBACBACBACBACBACBACBACBACBACBACBACBACBACBACBACBAE",
   "BACBACBADBACBACBACBACBACBACBACBADBACBACBACBACBACBACBACBACBACBACBACBACBACBACBACBACBACBACBACBACBACBACBADBACBAC",
   "BADjGAByGABBACBACuGABBACtGABtGABBADvCABqGABrGABBACtGABvGABhDABzGABxGABBACjFABhypBABzGAB1GABiEAB2GABBACBACBAC",
   "6GABBAC6GADBAC6GABBAC5GAB5GABBACBAC7GABBAEBAD4BBFBBBDBBBDBBADBACBACBACBACBACBACBACBADBACBACBACBACBACBACBACBA",
   "CBBDBBADBAEBACBACBACBACBACBACBACBACBACBACBACBACBACBACBACBACBACBACBACBAEBACBACBACBACBACBACBACBACBAIrxKABBADox",
   "KAB_xKAB_xKABBADlCABnCABBACBACBACBACBAC_wKAB8wKAB+wKAKvqpBAFrqpBADnrpBABoppBABkqpBAEkqpBAB3vKABhqpBAF9vKAMnv",
   "KAFjqpBAFqppBAW1opBAByopBCnF0CgBlgHArBBACBAEBAFiEABiEABiEAC0DAHmBAClBABlBABlBACgCAC_BAB_BABjiHABgBBBgBeABgBA",
   "BgBBBgBgCABgBABgBCBgBZjBBCgB2BABgBACgBABgBABgBBBgBWBBgBwBBCfBABgBABgBBBgBPABgBABgBBBgB9qHABgBABgBAFzhHAfIAJB",
   "ACBACBACBACBACBACBACBACBACBACBACBAEHAFBADBAGwCABwCABwCABwCABwCABwCABwCABwCABwCABwCABwCABwCABwCABwCABwCABwCAB",
   "gBABgBBBgBuiGABgBBBgBtiGABgBABgBABgBABgBABgBABgBABgBABgBABgBBBgBkiGABgBABgBBBgBiiGCBgBiiGBABgBABgBABgBABgBAB",
   "gBABgBABgBBBgB8hGABgBABgBABgBABgBABgBAxBBBCBkhGACBACBACBACBACBACBACBACBACBACBACBACBACBACBACBAKBACBACBACBACBA",
   "CBACBACBACBACBACBACBACBACBACBACBACBACBACBACBACBACBACBACBACBACBACBACPABBACBACBACBACBACBACBADBACBACBACBACBACBA",
   "CBACBACBACBACBACBACBACBACBACBACBACBACBACBACBACBACBACBACBACBACBACBACBACBACBACBACBACBACBACBACBACBACBACBACBACBA",
   "CBACBACBACBACBACBADwBABwBABwBABwBABwBABwBABwBABwBABwBABwBABwBABwBABwBABwBABwBABwBABwBABwBABwBABwBABwBABwBABw",
   "BABwBABwBABwBABwBABwBABwBABwBABwBABwBABwBABwBABwBABwBABwBABwBAq6CgjHABgjHABgjHABgjHABgjHABgjHABgjHABgjHABgjH",
   "ABgjHABgjHABgjHABgjHABgjHABgjHABgjHABgjHABgjHABgjHABgjHABgjHABgjHABgjHABgjHABgjHABgjHABgjHABgjHABgjHABgjHABg",
   "jHABgjHABgjHABgjHABgjHABgjHABgjHABgjHACgjHAGgjHADg+CABg+CABg+CABg+CABg+CABg+CABg+CABg+CABg+CABg+CABg+CABg+CA",
   "Bg+CABg+CABg+CABg+CABg+CABg+CABg+CABg+CABg+CABg+CABg+CABg+CABg+CABg+CABg+CABg+CABg+CABg+CABg+CABg+CABg+CABg+",
   "CABg+CABg+CABg+CABg+CABg+CABg+CABg+CABg+CABg+CADg+CABg+CABg+CAhVw+lBABw+lBABw+lBABw+lBABw+lBABw+lBABw+lBABw+",
   "lBABw+lBABw+lBABw+lBABw+lBABw+lBABw+lBABw+lBABw+lBABw+lBABw+lBABw+lBABw+lBABw+lBABw+lBABw+lBABw+lBABw+lBABw+",
   "lBABw+lBABw+lBABw+lBABw+lBABw+lBABw+lBABw+lBABw+lBABw+lBABw+lBABw+lBABw+lBABw+lBABw+lBABw+lBABw+lBABw+lBABw+",
   "lBABw+lBABw+lBABw+lBABw+lBABw+lBABw+lBABw+lBABw+lBABw+lBABw+lBABw+lBABw+lBABw+lBABw+lBABw+lBABw+lBABw+lBABw+",
   "lBABw+lBABw+lBABw+lBABw+lBABw+lBABw+lBABw+lBABw+lBABw+lBABw+lBABw+lBABw+lBABw+lBABw+lBABw+lBABw+lBABw+lBABw+",
   "lBABIABIABIABIABIABIBzkCiuiBBABBAwHkwiBAEm3DAR4xiBAyDBACBACBACBACBACBACBACBACBACBACBACBACBACBACBACBACBACBACB",
   "ACBACBACBACBACBACBACBACBACBACBACBACBACBACBACBACBACBACBACBACBACBACBACBACBACBACBACBACBACBBCB6BACBACBACBACBACBA",
   "CBACBACBACBACBACBACBACBACBACBACBACBACBACBACBACBACBACBACBACBACBAMBACBACBACBACBACBACBACBACBACBACBACBACBACBACBA",
   "CBACBACBACBACBACBACBACBACBACBACBACBACBACBACBACBACBACBACBACBACBACBACBACBACBACBACBACBACBACBACBACBACBACIABIABIA",
   "BIABIABIABIABIAJIABIABIABIABIABIALIABIABIABIABIABIABIABIAJIABIABIABIABIABIABIABIAJIABIABIABIABIABIAMIACIACIA",
   "CIAJIABIABIABIABIABIABIABIAJqCABqCAB2CAB2CAB2CAB2CABkDABkDABgEABgEABwDABwDAB+DAB+DADIABIABIABIABIABIABIABIAJ",
   "IABIABIABIABIABIABIABIAJIABIABIABIABIABIABIABIAJIABIACJAQJANIABIAPIABIAEHAOJA_JcAuBQABQABQABQABQABQABQABQABQ",
   "ABQABQABQABQABQABQABQAUBAzZaABaABaABaABaABaABaABaABaABaABaABaABaABaABaABaABaABaABaABaABaABaABaABaABaABaAx5Bw",
   "BABwBABwBABwBABwBABwBABwBABwBABwBABwBABwBABwBABwBABwBABwBABwBABwBABwBABwBABwBABwBABwBABwBABwBABwBABwBABwBABw",
   "BABwBABwBABwBABwBABwBABwBABwBABwBABwBABwBABwBABwBABwBABwBABwBABwBABwBABwBABwBABwBAxBBAHBACBACBAHBADBALBACBAC",
   "BACBACBACBACBACBACBACBACBACBACBACBACBACBACBACBACBACBACBACBACBACBACBACBACBACBACBACBACBACBACBACBACBACBACBACBAC",
   "BACBACBACBACBACBACBACBACBACBACBACBAJBACBAFBAuqeBACBACBACBACBAEBACBACBACBACBACBACBACBACBACBACBACBACBACBACBACB",
   "ACBAUBACBACBACBACBACBACBACBACBACBACBACBACBACBAoEBACBACBACBACBACBACBAEBACBACBACBACBACBACBACBACBACBACBACBACBAC",
   "BACBACBACBACBACBACBACBACBACBACBACBACBACBACBACBACBACBALBACBADBACBACBACBACBAFBAFBACBACwBACBACBACBACBACBACBACBA",
   "CBACBACBALgdABBACBACBACBACBACBACBACBAFBACBADBAEBAGBACBACBAbBAw4UBA8gBgBABgBABgBABgBABgBABgBABgBABgBABgBABgBA",
   "BgBABgBABgBABgBABgBABgBABgBABgBABgBABgBABgBABgBABgBABgBABgBABgBAmmBoBABoBABoBABoBABoBABoBABoBABoBABoBABoBABo",
   "BABoBABoBABoBABoBABoBABoBABoBABoBABoBABoBABoBABoBABoBABoBABoBABoBABoBABoBABoBABoBABoBABoBABoBABoBABoBABoBABo",
   "BABoBABoBApEoBABoBABoBABoBABoBABoBABoBABoBABoBABoBABoBABoBABoBABoBABoBABoBABoBABoBABoBABoBABoBABoBABoBABoBAB",
   "oBABoBABoBABoBABoBABoBABoBABoBABoBABoBABoBABoBA9EnBABnBABnBABnBABnBABnBABnBABnBABnBABnBABnBACnBABnBABnBABnBA",
   "BnBABnBABnBABnBABnBABnBABnBABnBABnBABnBABnBACnBABnBABnBABnBABnBABnBABnBACnBABnBAr3BgCABgCABgCABgCABgCABgCABg",
   "CABgCABgCABgCABgCABgCABgCABgCABgCABgCABgCABgCABgCABgCABgCABgCABgCABgCABgCABgCABgCABgCABgCABgCABgCABgCABgCABg",
   "CABgCABgCABgCABgCABgCABgCABgCABgCABgCABgCABgCABgCABgCABgCABgCABgCABgCA+EgBABgBABgBABgBABgBABgBABgBABgBABgBAB",
   "gBABgBABgBABgBABgBABgBABgBABgBABgBABgBABgBABgBABgBA75CgBABgBABgBABgBABgBABgBABgBABgBABgBABgBABgBABgBABgBABgB",
   "ABgBABgBABgBABgBABgBABgBABgBABgBABgBABgBABgBABgBABgBABgBABgBABgBABgBABgBAhsVgBABgBABgBABgBABgBABgBABgBABgBAB",
   "gBABgBABgBABgBABgBABgBABgBABgBABgBABgBABgBABgBABgBABgBABgBABgBABgBABgBABgBABgBABgBABgBABgBABgBAh1eiBABiBABiB",
   "ABiBABiBABiBABiBABiBABiBABiBABiBABiBABiBABiBABiBABiBABiBABiBABiBABiBABiBABiBABiBABiBABiBABiBABiBABiBABiBABiB",
   "ABiBABiBABiBABiB"]

end BuilderAudit
