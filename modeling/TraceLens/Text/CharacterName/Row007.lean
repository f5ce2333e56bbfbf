/-!
# Names of characters from row 0x7 on

The names of the characters from row 0x7 to row 0x10, in runs without a gap: the first code
point, and the names in the form that `CharacterName` describes.
-/

namespace TraceLens.CharacterName

def row007 : List (Nat × List String) := [
  (0x700, ["aSYRIAC_END_OF_PARAGRAPH hSUPRALINEAR_FULL_STOP jBLINEAR_FULL_STOP jPRALINEAR_COLON",
    "jBLINEAR_COLON hHORIZONTAL_COLON hCOLON_SKEWED_LEFT uRIGHT hSUPRALINEAR_COLON_SKEWED_LEFT",
    "jBLINEAR_COLON_SKEWED_RIGHT hCONTRACTION hHARKLEAN_OBELUS qMETOBELUS qASTERISCUS"]),
  (0x70F, ["aSYRIAC_ABBREVIATION_MARK hLETTER_ALAPH oSUPERSCRIPT_ALAPH oBETH oGAMAL t_GARSHUNI",
    "oDALATH pOTLESS_DALATH_RISH oHE oWAW oZAIN oHETH oTETH s_GARSHUNI oYUDH s_HE oKAPH oLAMADH",
    "oMIM oNUN oSEMKATH oFINAL_SEMKATH oE oPE oREVERSED_PE oSADHE oQAPH oRISH oSHIN oTAW",
    "oPERSIAN_BHETH wGHAMAL wDHALATH hPTHAHA_ABOVE oBELOW oDOTTED hZQAPHA_ABOVE oBELOW oDOTTED",
    "hRBASA_ABOVE nBELOW hDOTTED_ZLAMA_HORIZONTAL uANGULAR hHBASA_ABOVE nBELOW m-ESASA_DOTTED",
    "hESASA_ABOVE nBELOW hRWAHA hFEMININE_DOT hQUSHSHAYA hRUKKAKHA hTWO_VERTICAL_DOTS_ABOVE",
    "zBELOW iHREE_DOTS_ABOVE sBELOW hOBLIQUE_LINE_ABOVE uBELOW hMUSIC hBARREKH"]),
  (0x74D, ["aSYRIAC_LETTER_SOGDIAN_ZHAIN wKHAPH wFE",
    "aARABIC_LETTER_BEH_WITH_THREE_DOTS_HORIZONTALLY_BELOW xDOT_BELOW_AND_THREE_DOTS_ABOVE",
    "xTHREE_DOTS_POINTING_UPWARDS_BELOW ce_AND_TWO_DOTS_ABOVE yWO_DOTS_BELOW_AND_DOT_ABOVE",
    "xINVERTED_SMALL_V_BELOW xSMALL_V oHAH_WITH_TWO_DOTS_ABOVE yHREE_DOTS_POINTING_UPWARDS_BELOW",
    "oDAL_WITH_TWO_DOTS_VERTICALLY_BELOW_AND_SMALL_TAH xINVERTED_SMALL_V_BELOW oREH_WITH_STROKE",
    "oSEEN_WITH_FOUR_DOTS_ABOVE oAIN_WITH_TWO_DOTS_ABOVE yHREE_DOTS_POINTING_DOWNWARDS_ABOVE",
    "yWO_DOTS_VERTICALLY_ABOVE oFEH_WITH_TWO_DOTS_BELOW yHREE_DOTS_POINTING_UPWARDS_BELOW",
    "oKEHEH_WITH_DOT_ABOVE zTHREE_DOTS_ABOVE bkPOINTING_UPWARDS_BELOW oMEEM_WITH_DOT_ABOVE",
    "bcBELOW oNOON_WITH_TWO_DOTS_BELOW ySMALL_TAH beV oLAM_WITH_BAR",
    "oREH_WITH_TWO_DOTS_VERTICALLY_ABOVE xHAMZA_ABOVE oSEEN_WITH_TWO_DOTS_VERTICALLY_ABOVE",
    "oHAH_WITH_SMALL_ARABIC_LETTER_TAH_BELOW bvAND_TWO_DOTS",
    "oSEEN_WITH_SMALL_ARABIC_LETTER_TAH_AND_TWO_DOTS",
    "oREH_WITH_SMALL_ARABIC_LETTER_TAH_AND_TWO_DOTS oHAH_WITH_SMALL_ARABIC_LETTER_TAH_ABOVE",
    "oALEF_WITH_EXTENDED_ARABIC-INDIC_DIGIT_TWO_ABOVE cbHREE_ABOVE",
    "oFARSI_YEH_WITH_EXTENDED_ARABIC-INDIC_DIGIT_TWO_ABOVE cgHREE_ABOVE cfFOUR_BELOW",
    "oWAW_WITH_EXTENDED_ARABIC-INDIC_DIGIT_TWO_ABOVE caHREE_ABOVE",
    "oYEH_BARREE_WITH_EXTENDED_ARABIC-INDIC_DIGIT_TWO_ABOVE chHREE_ABOVE",
    "oHAH_WITH_EXTENDED_ARABIC-INDIC_DIGIT_FOUR_BELOW",
    "oSEEN_WITH_EXTENDED_ARABIC-INDIC_DIGIT_FOUR_ABOVE yINVERTED_V oKAF_WITH_TWO_DOTS_ABOVE",
    "aTHAANA_LETTER_HAA oSHAVIYANI oNOONU oRAA oBAA oLHAVIYANI oKAAFU oALIFU oVAAVU oMEEMU",
    "oFAAFU oDHAALU oTHAA oLAAMU oGAAFU pNAVIYANI oSEENU oDAVIYANI oZAVIYANI oTAVIYANI oYAA",
    "oPAVIYANI oJAVIYANI oCHAVIYANI oTTAA oHHAA oKHAA oTHAALU oZAA oSHEENU pAADHU oDAADHU oTO",
    "oZO oAINU oGHAINU oQAAFU oWAAVU hABAFILI iABAAFILI hIBIFILI hEEBEEFILI hUBUFILI hOOBOOFILI",
    "hEBEFILI iYBEYFILI hOBOFILI iABOAFILI hSUKUN hLETTER_NAA"]), (0x7C0, ["aNKO_DIGIT_ZERO kONE",
    "kTWO lHREE kFOUR lIVE kSIX lEVEN kEIGHT kNINE eLETTER_A lEE lI lE lU lOO m lDAGBASINNA lN",
    "lBA lPA lTA lJA lCHA lDA lRA mRA lSA lGBA lFA lKA lLA lNA_WOLOSO lMA lNYA mA lHA lWA lYA",
    "lNYA_WOLOSO lJONA_JA qCHA qRA eCOMBINING_SHORT_HIGH_TONE uLOW_TONE uRISING_TONE",
    "oLONG_DESCENDING_TONE tHIGH_TONE tLOW_TONE tRISING_TONE oNASALIZATION_MARK",
    "oDOUBLE_DOT_ABOVE eHIGH_TONE_APOSTROPHE eLOW_TONE_APOSTROPHE eSYMBOL_OO_DENNEN lGBAKURUNEN",
    "eCOMMA eEXCLAMATION_MARK eLAJANYALAN"]), (0x7FD, ["aNKO_DANTAYALAN fOROME_SIGN eTAMAN_SIGN",
    "aSAMARITAN_LETTER_ALAF rBIT rGAMAN rDALAT rIY rBAA rZEN rIT rTIT rYUT rKAAF rLABAT rMIM",
    "rNUN rSINGAAT rIN rFI rTSAADIY rQUF rRISH rSHAN rTAAF kMARK_IN r-ALAF pOCCLUSION pDAGESH",
    "lODIFIER_LETTER_EPENTHETIC_YUT lARK_EPENTHETIC_YUT kVOWEL_SIGN_LONG_E vE vOVERLONG_AA",
    "vLONG_AA vAA vOVERLONG_A vLONG_A vA kMODIFIER_LETTER_SHORT_A kVOWEL_SIGN_SHORT_A vLONG_U vU",
    "kMODIFIER_LETTER_I kVOWEL_SIGN_LONG_I vI vO vSUKUN kMARK_NEQUDAA"]),
  (0x830, ["aSAMARITAN_PUNCTUATION_NEQUDAA wAFSAAQ xNGED wBAU wATMAAU wSHIYYAALAA",
    "kABBREVIATION_MARK kPUNCTUATION_MELODIC_QITSA wZIQAA wQITSA wZAEF wTURU wARKAANU",
    "wSOF_MASHFAAT wANNAAU"]), (0x840, ["aMANDAIC_LETTER_HALQA pAB qG qD qH pUSHENNA pAZ pIT",
    "pATT qKSA r qL qM qN qS pIN pAP qSZ qQ qR qSH qT pDUSHENNA pKAD pAIN iAFFRICATION_MARK",
    "iVOCALIZATION_MARK iGEMINATION_MARK"]), (0x85E, ["aMANDAIC_PUNCTUATION"]),
  (0x860, ["aSYRIAC_LETTER_MALAYALAM_NGA yJA yNYA yTTA yNNA baNA yBHA yRA yLLA baLA ySSA"]),
  (0x870, ["aARABIC_LETTER_ALEF_WITH_ATTACHED_FATHA bhTOP_RIGHT_FATHA yRIGHT_MIDDLE_STROKE",
    "yLEFT_MIDDLE_STROKE yATTACHED_KASRA bhBOTTOM_RIGHT_KASRA bhROUND_DOT_ABOVE biIGHT_ROUND_DOT",
    "bhLEFT_ROUND_DOT bhROUND_DOT_BELOW yDOT_ABOVE yATTACHED_TOP_RIGHT_FATHA_AND_DOT_ABOVE",
    "yRIGHT_MIDDLE_STROKE_AND_DOT_ABOVE yATTACHED_BOTTOM_RIGHT_KASRA_AND_DOT_ABOVE",
    "bhTOP_RIGHT_FATHA_AND_LEFT_RING yRIGHT_MIDDLE_STROKE_AND_LEFT_RING",
    "yATTACHED_BOTTOM_RIGHT_KASRA_AND_LEFT_RING bhRIGHT_HAMZA bhLEFT_HAMZA",
    "hTATWEEL_WITH_OVERSTRUCK_HAMZA bfWAW uTWO_DOTS_BELOW hLETTER_THIN_YEH hBASELINE_ROUND_DOT",
    "hRAISED_ROUND_DOT hLETTER_NOON_WITH_INVERTED_SMALL_V oHAH_WITH_INVERTED_SMALL_V_BELOW",
    "oTAH_WITH_DOT_BELOW xTHREE_DOTS_BELOW oKEHEH_WITH_TWO_DOTS_VERTICALLY_BELOW hVERTICAL_TAIL"]),
  (0x890, ["aARABIC_POUND_MARK_ABOVE iIASTRE_MARK_ABOVE"]), (0x898, [
    "aARABIC_SMALL_HIGH_WORD_AL-JUZ nLOW_WORD_ISHMAAM xMAALA wTASHEEL hMADDA_WAAJIB",
    "hSUPERSCRIPT_ALEF_MOKHASSAS hDOUBLED_MADDA hHALF_MADDA_OVER_MADDA",
    "hLETTER_BEH_WITH_SMALL_V_BELOW xHAMZA_ABOVE oJEEM_WITH_TWO_DOTS_ABOVE",
    "oTAH_WITH_TWO_DOTS_ABOVE oFEH_WITH_DOT_BELOW_AND_THREE_DOTS_ABOVE oQAF_WITH_DOT_BELOW",
    "oLAM_WITH_DOUBLE_BAR oMEEM_WITH_THREE_DOTS_ABOVE oYEH_WITH_TWO_DOTS_BELOW_AND_HAMZA_ABOVE",
    "bqDOT_ABOVE oREH_WITH_LOOP oWAW_WITH_DOT_WITHIN oROHINGYA_YEH oLOW_ALEF",
    "oDAL_WITH_THREE_DOTS_BELOW oSAD_WITH_THREE_DOTS_BELOW oGAF_WITH_INVERTED_STROKE",
    "oSTRAIGHT_WAW oZAIN_WITH_INVERTED_V_ABOVE oAIN_WITH_THREE_DOTS_BELOW oKAF_WITH_DOT_BELOW",
    "oQAF_WITH_DOT_BELOW_AND_NO_DOTS_ABOVE oBEH_WITH_SMALL_MEEM_ABOVE oPEH_WITH_SMALL_MEEM_ABOVE",
    "oTEH_WITH_SMALL_TEH_ABOVE oREH_WITH_SMALL_NOON_ABOVE",
    "oYEH_WITH_TWO_DOTS_BELOW_AND_SMALL_NOON_ABOVE oAFRICAN_FEH wQAF wNOON oPEH_WITH_SMALL_V",
    "oTEH_WITH_SMALL_V pTEH_WITH_SMALL_V pCHEH_WITH_SMALL_V oKEHEH_WITH_SMALL_V",
    "oGHAIN_WITH_THREE_DOTS_ABOVE oAFRICAN_QAF_WITH_THREE_DOTS_ABOVE oJEEM_WITH_THREE_DOTS_ABOVE",
    "bjBELOW oLAM_WITH_SMALL_ARABIC_LETTER_TAH_ABOVE oGRAF hSMALL_FARSI_YEH nHIGH_FARSI_YEH",
    "sYEH_BARREE_WITH_TWO_DOTS_BELOW sWORD_SAH sZAH hLARGE_ROUND_DOT_ABOVE xBELOW hSUKUN_BELOW",
    "hLARGE_CIRCLE_BELOW nROUND_DOT_INSIDE_CIRCLE_BELOW hSMALL_LOW_WAW nHIGH_WORD_AR-RUB sSAD",
    "sAIN sQAF sNOON_WITH_KASRA nLOW_NOON_WITH_KASRA nHIGH_WORD_ATH-THALATHA yS-SAJDA yN-NISF",
    "xSAKTA xQIF xWAQFA sFOOTNOTE_MARKER sSIGN_SAFHA hDISPUTED_END_OF_AYAH hTURNED_DAMMA_BELOW",
    "hCURLY_FATHA nDAMMA nKASRA nFATHATAN nDAMMATAN nKASRATAN hTONE_ONE_DOT_ABOVE",
    "mTWO_DOTS_ABOVE mLOOP_ABOVE mONE_DOT_BELOW mTWO_DOTS_BELOW mLOOP_BELOW hOPEN_FATHATAN",
    "mDAMMATAN mKASRATAN hSMALL_HIGH_WAW hFATHA_WITH_RING sDOT_ABOVE hKASRA_WITH_DOT_BELOW",
    "hLEFT_ARROWHEAD_ABOVE hRIGHT_ARROWHEAD_ABOVE hLEFT_ARROWHEAD_BELOW hRIGHT_ARROWHEAD_BELOW",
    "hDOUBLE_RIGHT_ARROWHEAD_ABOVE bj_WITH_DOT hRIGHT_ARROWHEAD_ABOVE_WITH_DOT hDAMMA_WITH_DOT",
    "hMARK_SIDEWAYS_NOON_GHUNNA aDEVANAGARI_SIGN_INVERTED_CANDRABINDU qCANDRABINDU qANUSVARA",
    "qVISARGA lLETTER_SHORT_A sA tA sI tI sU tU sVOCALIC_R baL sCANDRA_E sSHORT_E sE sAI",
    "sCANDRA_O sSHORT_O sO sAU sKA tHA sGA tHA sNGA sCA tHA sJA tHA sNYA sTTA uHA sDDA uHA sNNA",
    "sTA tHA sDA tHA sNA tNNA sPA tHA sBA tHA sMA sYA sRA tRA sLA tLA uLA sVA sSHA tSA tA sHA",
    "lVOWEL_SIGN_OE xOE lSIGN_NUKTA qAVAGRAHA lVOWEL_SIGN_AA wI xI wU xU wVOCALIC_R bfR",
    "wCANDRA_E wSHORT_E wE wAI wCANDRA_O wSHORT_O wO wAU lSIGN_VIRAMA",
    "lVOWEL_SIGN_PRISHTHAMATRA_E wAW lOM lSTRESS_SIGN_UDATTA xANUDATTA lGRAVE_ACCENT",
    "lACUTE_ACCENT lVOWEL_SIGN_CANDRA_LONG_E wUE xUE lLETTER_QA sKHHA sGHHA sZA sDDDHA sRHA sFA",
    "sYYA sVOCALIC_RR baLL lVOWEL_SIGN_VOCALIC_L bfL lDANDA mOUBLE_DANDA mIGIT_ZERO rONE rTWO",
    "sHREE rFOUR sIVE rSIX sEVEN rEIGHT rNINE lABBREVIATION_SIGN lSIGN_HIGH_SPACING_DOT",
    "lLETTER_CANDRA_A sOE tOE sAW sUE tUE sMARWARI_DDA sZHA sHEAVY_YA sGGA sJJA sGLOTTAL_STOP",
    "sDDDA sBBA aBENGALI_ANJI iSIGN_CANDRABINDU nANUSVARA nVISARGA"]), (0x985, [
    "aBENGALI_LETTER_A qA pI qI pU qU pVOCALIC_R xL"]), (0x98F, ["aBENGALI_LETTER_E pAI"]),
  (0x993, ["aBENGALI_LETTER_O pAU pKA qHA pGA qHA pNGA pCA qHA pJA qHA pNYA pTTA rHA pDDA rHA",
    "pNNA pTA qHA pDA qHA pNA"]), (0x9AA, ["aBENGALI_LETTER_PA qHA pBA qHA pMA pYA pRA"]),
  (0x9B2, ["aBENGALI_LETTER_LA"]), (0x9B6, ["aBENGALI_LETTER_SHA qSA qA pHA"]),
  (0x9BC, ["aBENGALI_SIGN_NUKTA nAVAGRAHA iVOWEL_SIGN_AA tI uI tU uU tVOCALIC_R bcR"]),
  (0x9C7, ["aBENGALI_VOWEL_SIGN_E tAI"]), (0x9CB, ["aBENGALI_VOWEL_SIGN_O tAU iSIGN_VIRAMA",
    "iLETTER_KHANDA_TA"]), (0x9D7, ["aBENGALI_AU_LENGTH_MARK"]), (0x9DC, ["aBENGALI_LETTER_RRA",
    "qHA"]), (0x9DF, ["aBENGALI_LETTER_YYA pVOCALIC_RR xLL iVOWEL_SIGN_VOCALIC_L bcL"]),
  (0x9E6, ["aBENGALI_DIGIT_ZERO oONE oTWO pHREE oFOUR pIVE oSIX pEVEN oEIGHT oNINE",
    "iLETTER_RA_WITH_MIDDLE_DIAGONAL xLOWER_DIAGONAL iRUPEE_MARK oSIGN iCURRENCY_NUMERATOR_ONE",
    "bbTWO bcHREE bbFOUR bbONE_LESS_THAN_THE_DENOMINATOR rDENOMINATOR_SIXTEEN iISSHAR",
    "iGANDA_MARK iLETTER_VEDIC_ANUSVARA iABBREVIATION_SIGN iSANDHI_MARK"]),
  (0xA01, ["aGURMUKHI_SIGN_ADAK_BINDI oBINDI oVISARGA"]), (0xA05, ["aGURMUKHI_LETTER_A rA qI rI",
    "qU rU"]), (0xA0F, ["aGURMUKHI_LETTER_EE qAI"]), (0xA13, ["aGURMUKHI_LETTER_OO qAU qKA rHA",
    "qGA rHA qNGA qCA rHA qJA rHA qNYA qTTA sHA qDDA sHA qNNA qTA rHA qDA rHA qNA"]),
  (0xA2A, ["aGURMUKHI_LETTER_PA rHA qBA rHA qMA qYA qRA"]), (0xA32, ["aGURMUKHI_LETTER_LA rLA"]),
  (0xA35, ["aGURMUKHI_LETTER_VA qSHA"]), (0xA38, ["aGURMUKHI_LETTER_SA qHA"]),
  (0xA3C, ["aGURMUKHI_SIGN_NUKTA"]), (0xA3E, ["aGURMUKHI_VOWEL_SIGN_AA uI vI uU vU"]),
  (0xA47, ["aGURMUKHI_VOWEL_SIGN_EE uAI"]), (0xA4B, ["aGURMUKHI_VOWEL_SIGN_OO uAU jSIGN_VIRAMA"]),
  (0xA51, ["aGURMUKHI_SIGN_UDAAT"]), (0xA59, ["aGURMUKHI_LETTER_KHHA qGHHA qZA qRRA"]),
  (0xA5E, ["aGURMUKHI_LETTER_FA"]), (0xA66, ["aGURMUKHI_DIGIT_ZERO pONE pTWO qHREE pFOUR qIVE",
    "pSIX qEVEN pEIGHT pNINE jTIPPI jADDAK jIRI jURA jEK_ONKAR jSIGN_YAKASH jABBREVIATION_SIGN"]),
  (0xA81, ["aGUJARATI_SIGN_CANDRABINDU oANUSVARA oVISARGA"]), (0xA85, ["aGUJARATI_LETTER_A rA qI",
    "rI qU rU qVOCALIC_R yL jVOWEL_CANDRA_E"]), (0xA8F, ["aGUJARATI_LETTER_E qAI jVOWEL_CANDRA_O"]),
  (0xA93, ["aGUJARATI_LETTER_O qAU qKA rHA qGA rHA qNGA qCA rHA qJA rHA qNYA qTTA sHA qDDA sHA",
    "qNNA qTA rHA qDA rHA qNA"]), (0xAAA, ["aGUJARATI_LETTER_PA rHA qBA rHA qMA qYA qRA"]),
  (0xAB2, ["aGUJARATI_LETTER_LA rLA"]), (0xAB5, ["aGUJARATI_LETTER_VA qSHA rSA rA qHA"]),
  (0xABC, ["aGUJARATI_SIGN_NUKTA oAVAGRAHA jVOWEL_SIGN_AA uI vI uU vU uVOCALIC_R bdR uCANDRA_E"]),
  (0xAC7, ["aGUJARATI_VOWEL_SIGN_E uAI uCANDRA_O"]), (0xACB, ["aGUJARATI_VOWEL_SIGN_O uAU",
    "jSIGN_VIRAMA"]), (0xAD0, ["aGUJARATI_OM"]), (0xAE0, ["aGUJARATI_LETTER_VOCALIC_RR yLL",
    "jVOWEL_SIGN_VOCALIC_L bdL"]), (0xAE6, ["aGUJARATI_DIGIT_ZERO pONE pTWO qHREE pFOUR qIVE",
    "pSIX qEVEN pEIGHT pNINE jABBREVIATION_SIGN jRUPEE_SIGN"]), (0xAF9, ["aGUJARATI_LETTER_ZHA",
    "jSIGN_SUKUN pHADDA oMADDAH oTHREE-DOT_NUKTA_ABOVE oCIRCLE_NUKTA_ABOVE",
    "oTWO-CIRCLE_NUKTA_ABOVE"]), (0xB01, ["aORIYA_SIGN_CANDRABINDU lANUSVARA lVISARGA"]),
  (0xB05, ["aORIYA_LETTER_A oA nI oI nU oU nVOCALIC_R vL"]), (0xB0F, ["aORIYA_LETTER_E nAI"]),
  (0xB13, ["aORIYA_LETTER_O nAU nKA oHA nGA oHA nNGA nCA oHA nJA oHA nNYA nTTA pHA nDDA pHA nNNA",
    "nTA oHA nDA oHA nNA"]), (0xB2A, ["aORIYA_LETTER_PA oHA nBA oHA nMA nYA nRA"]),
  (0xB32, ["aORIYA_LETTER_LA oLA"]), (0xB35, ["aORIYA_LETTER_VA nSHA oSA oA nHA"]),
  (0xB3C, ["aORIYA_SIGN_NUKTA lAVAGRAHA gVOWEL_SIGN_AA rI sI rU sU rVOCALIC_R baR"]),
  (0xB47, ["aORIYA_VOWEL_SIGN_E rAI"]), (0xB4B, ["aORIYA_VOWEL_SIGN_O rAU gSIGN_VIRAMA"]),
  (0xB55, ["aORIYA_SIGN_OVERLINE gAI_LENGTH_MARK hU_LENGTH_MARK"]), (0xB5C, ["aORIYA_LETTER_RRA",
    "oHA"]), (0xB5F, ["aORIYA_LETTER_YYA nVOCALIC_RR vLL gVOWEL_SIGN_VOCALIC_L baL"]),
  (0xB66, ["aORIYA_DIGIT_ZERO mONE mTWO nHREE mFOUR nIVE mSIX nEVEN mEIGHT mNINE gISSHAR",
    "gLETTER_WA gFRACTION_ONE_QUARTER tHALF pTHREE_QUARTERS pONE_SIXTEENTH tEIGHTH",
    "pTHREE_SIXTEENTHS"]), (0xB82, ["aTAMIL_SIGN_ANUSVARA lVISARGA"]), (0xB85, ["aTAMIL_LETTER_A",
    "oA nI oI nU oU"]), (0xB8E, ["aTAMIL_LETTER_E oE nAI"]), (0xB92, ["aTAMIL_LETTER_O oO nAU",
    "nKA"]), (0xB99, ["aTAMIL_LETTER_NGA nCA"]), (0xB9C, ["aTAMIL_LETTER_JA"]),
  (0xB9E, ["aTAMIL_LETTER_NYA nTTA"]), (0xBA3, ["aTAMIL_LETTER_NNA nTA"]),
  (0xBA8, ["aTAMIL_LETTER_NA oNNA nPA"]), (0xBAE, ["aTAMIL_LETTER_MA nYA nRA oRA nLA oLA pLA nVA",
    "nSHA oSA oA nHA"]), (0xBBE, ["aTAMIL_VOWEL_SIGN_AA rI sI rU sU"]),
  (0xBC6, ["aTAMIL_VOWEL_SIGN_E sE rAI"]), (0xBCA, ["aTAMIL_VOWEL_SIGN_O sO rAU gSIGN_VIRAMA"]),
  (0xBD0, ["aTAMIL_OM"]), (0xBD7, ["aTAMIL_AU_LENGTH_MARK"]), (0xBE6, ["aTAMIL_DIGIT_ZERO mONE",
    "mTWO nHREE mFOUR nIVE mSIX nEVEN mEIGHT mNINE gNUMBER_TEN nONE_HUNDRED rTHOUSAND gDAY_SIGN",
    "gMONTH_SIGN gYEAR_SIGN gDEBIT_SIGN gCREDIT_SIGN gAS_ABOVE_SIGN gRUPEE_SIGN gNUMBER_SIGN"]),
  (0xC00, ["aTELUGU_SIGN_COMBINING_CANDRABINDU_ABOVE nANDRABINDU mANUSVARA mVISARGA",
    "mCOMBINING_ANUSVARA_ABOVE hLETTER_A pA oI pI oU pU oVOCALIC_R wL"]),
  (0xC0E, ["aTELUGU_LETTER_E pE oAI"]), (0xC12, ["aTELUGU_LETTER_O pO oAU oKA pHA oGA pHA oNGA",
    "oCA pHA oJA pHA oNYA oTTA qHA oDDA qHA oNNA oTA pHA oDA pHA oNA"]),
  (0xC2A, ["aTELUGU_LETTER_PA pHA oBA pHA oMA oYA oRA pRA oLA pLA qLA oVA oSHA pSA pA oHA"]),
  (0xC3C, ["aTELUGU_SIGN_NUKTA mAVAGRAHA hVOWEL_SIGN_AA sI tI sU tU sVOCALIC_R bbR"]),
  (0xC46, ["aTELUGU_VOWEL_SIGN_E tE sAI"]), (0xC4A, ["aTELUGU_VOWEL_SIGN_O tO sAU hSIGN_VIRAMA"]),
  (0xC55, ["aTELUGU_LENGTH_MARK hAI_LENGTH_MARK"]), (0xC58, ["aTELUGU_LETTER_TSA oDZA oRRRA"]),
  (0xC5D, ["aTELUGU_LETTER_NAKAARA_POLLU"]), (0xC60, ["aTELUGU_LETTER_VOCALIC_RR wLL",
    "hVOWEL_SIGN_VOCALIC_L bbL"]), (0xC66, ["aTELUGU_DIGIT_ZERO nONE nTWO oHREE nFOUR oIVE nSIX",
    "oEVEN nEIGHT nNINE"]), (0xC77, ["aTELUGU_SIGN_SIDDHAM",
    "hFRACTION_DIGIT_ZERO_FOR_ODD_POWERS_OF_FOUR wONE_FOR_ODD_POWERS_OF_FOUR",
    "wTWO_FOR_ODD_POWERS_OF_FOUR xHREE_FOR_ODD_POWERS_OF_FOUR wONE_FOR_EVEN_POWERS_OF_FOUR",
    "wTWO_FOR_EVEN_POWERS_OF_FOUR xHREE_FOR_EVEN_POWERS_OF_FOUR hSIGN_TUUMU",
    "aKANNADA_SIGN_SPACING_CANDRABINDU nCANDRABINDU nANUSVARA nVISARGA nSIDDHAM iLETTER_A qA pI",
    "qI pU qU pVOCALIC_R xL"]), (0xC8E, ["aKANNADA_LETTER_E qE pAI"]), (0xC92, [
    "aKANNADA_LETTER_O qO pAU pKA qHA pGA qHA pNGA pCA qHA pJA qHA pNYA pTTA rHA pDDA rHA pNNA",
    "pTA qHA pDA qHA pNA"]), (0xCAA, ["aKANNADA_LETTER_PA qHA pBA qHA pMA pYA pRA qRA pLA qLA"]),
  (0xCB5, ["aKANNADA_LETTER_VA pSHA qSA qA pHA"]), (0xCBC, ["aKANNADA_SIGN_NUKTA nAVAGRAHA",
    "iVOWEL_SIGN_AA tI uI tU uU tVOCALIC_R bcR"]), (0xCC6, ["aKANNADA_VOWEL_SIGN_E uE tAI"]),
  (0xCCA, ["aKANNADA_VOWEL_SIGN_O uO tAU iSIGN_VIRAMA"]), (0xCD5, ["aKANNADA_LENGTH_MARK",
    "iAI_LENGTH_MARK"]), (0xCDD, ["aKANNADA_LETTER_NAKAARA_POLLU pFA"]),
  (0xCE0, ["aKANNADA_LETTER_VOCALIC_RR xLL iVOWEL_SIGN_VOCALIC_L bcL"]),
  (0xCE6, ["aKANNADA_DIGIT_ZERO oONE oTWO pHREE oFOUR pIVE oSIX pEVEN oEIGHT oNINE"]),
  (0xCF1, ["aKANNADA_SIGN_JIHVAMULIYA nUPADHMANIYA"]), (0xD00, [
    "aMALAYALAM_SIGN_COMBINING_ANUSVARA_ABOVE qANDRABINDU pANUSVARA pVISARGA",
    "kLETTER_VEDIC_ANUSVARA rA sA rI sI rU sU rVOCALIC_R zL"]), (0xD0E, ["aMALAYALAM_LETTER_E sE",
    "rAI"]), (0xD12, ["aMALAYALAM_LETTER_O sO rAU rKA sHA rGA sHA rNGA rCA sHA rJA sHA rNYA rTTA",
    "tHA rDDA tHA rNNA rTA sHA rDA sHA rNA sNNA rPA sHA rBA sHA rMA rYA rRA sRA rLA sLA tLA rVA",
    "rSHA sSA sA rHA rTTTA kSIGN_VERTICAL_BAR_VIRAMA pCIRCULAR_VIRAMA pAVAGRAHA kVOWEL_SIGN_AA",
    "vI wI vU wU vVOCALIC_R beR"]), (0xD46, ["aMALAYALAM_VOWEL_SIGN_E wE vAI"]),
  (0xD4A, ["aMALAYALAM_VOWEL_SIGN_O wO vAU kSIGN_VIRAMA kLETTER_DOT_REPH kSIGN_PARA"]),
  (0xD54, ["aMALAYALAM_LETTER_CHILLU_M yY yLLL kAU_LENGTH_MARK",
    "kFRACTION_ONE_ONE-HUNDRED-AND-SIXTIETH xFORTIETH tTHREE_EIGHTIETHS tONE_TWENTIETH yENTH",
    "tTHREE_TWENTIETHS tONE_FIFTH kLETTER_ARCHAIC_II rVOCALIC_RR zLL kVOWEL_SIGN_VOCALIC_L beL"]),
  (0xD66, ["aMALAYALAM_DIGIT_ZERO qONE qTWO rHREE qFOUR rIVE qSIX rEVEN qEIGHT qNINE kNUMBER_TEN",
    "rONE_HUNDRED vTHOUSAND kFRACTION_ONE_QUARTER xHALF tTHREE_QUARTERS tONE_SIXTEENTH xEIGHTH",
    "tTHREE_SIXTEENTHS kDATE_MARK kLETTER_CHILLU_NN z yRR yL zL yK"]), (0xD81, [
    "aSINHALA_SIGN_CANDRABINDU nANUSVARAYA nVISARGAYA"]), (0xD85, ["aSINHALA_LETTER_AYANNA",
    "qAYANNA qEYANNA rEYANNA pIYANNA qIYANNA pUYANNA qUYANNA pIRUYANNA sUYANNA qLUYANNA sUYANNA",
    "pEYANNA qEYANNA pAIYANNA pOYANNA qOYANNA pAUYANNA"]), (0xD9A, [
    "aSINHALA_LETTER_ALPAPRAANA_KAYANNA pMAHAAPRAANA_KAYANNA pALPAPRAANA_GAYANNA",
    "pMAHAAPRAANA_GAYANNA pKANTAJA_NAASIKYAYA pSANYAKA_GAYANNA pALPAPRAANA_CAYANNA",
    "pMAHAAPRAANA_CAYANNA pALPAPRAANA_JAYANNA pMAHAAPRAANA_JAYANNA pTAALUJA_NAASIKYAYA",
    "xSANYOOGA_NAAKSIKYAYA pSANYAKA_JAYANNA pALPAPRAANA_TTAYANNA pMAHAAPRAANA_TTAYANNA",
    "pALPAPRAANA_DDAYANNA pMAHAAPRAANA_DDAYANNA qUURDHAJA_NAYANNA pSANYAKA_DDAYANNA",
    "pALPAPRAANA_TAYANNA pMAHAAPRAANA_TAYANNA pALPAPRAANA_DAYANNA pMAHAAPRAANA_DAYANNA",
    "pDANTAJA_NAYANNA"]), (0xDB3, ["aSINHALA_LETTER_SANYAKA_DAYANNA pALPAPRAANA_PAYANNA",
    "pMAHAAPRAANA_PAYANNA pALPAPRAANA_BAYANNA pMAHAAPRAANA_BAYANNA rYANNA pAMBA_BAYANNA pYAYANNA",
    "pRAYANNA"]), (0xDBD, ["aSINHALA_LETTER_DANTAJA_LAYANNA"]), (0xDC0, [
    "aSINHALA_LETTER_VAYANNA pTAALUJA_SAYANNA pMUURDHAJA_SAYANNA pDANTAJA_SAYANNA pHAYANNA",
    "pMUURDHAJA_LAYANNA pFAYANNA"]), (0xDCA, ["aSINHALA_SIGN_AL-LAKUNA"]),
  (0xDCF, ["aSINHALA_VOWEL_SIGN_AELA-PILLA tKETTI_AEDA-PILLA tDIGA_AEDA-PILLA tKETTI_IS-PILLA",
    "tDIGA_IS-PILLA tKETTI_PAA-PILLA"]), (0xDD6, ["aSINHALA_VOWEL_SIGN_DIGA_PAA-PILLA"]),
  (0xDD8, ["aSINHALA_VOWEL_SIGN_GAETTA-PILLA tKOMBUVA tDIGA_KOMBUVA tKOMBU_DEKA",
    "yVA_HAA_AELA-PILLA bfDIGA_AELA-PILLA bfGAYANUKITTA tGAYANUKITTA"]),
  (0xDE6, ["aSINHALA_LITH_DIGIT_ZERO tONE tTWO uHREE tFOUR uIVE tSIX uEVEN tEIGHT tNINE"]),
  (0xDF2, ["aSINHALA_VOWEL_SIGN_DIGA_GAETTA-PILLA baYANUKITTA iPUNCTUATION_KUNDDALIYA"]),
  (0xE01, ["aTHAI_CHARACTER_KO_KAI qHO_KHAI vUAT vWAI vON tRAKHANG pNGO_NGU pCHO_CHAN vING vANG",
    "pSO_SO pCHO_CHOE pYO_YING pDO_CHADA pTO_PATAK qHO_THAN tNANGMONTHO tPHUTHAO pNO_NEN pDO_DEK",
    "pTO_TAO qHO_THUNG vAHAN vONG pNO_NU pBO_BAIMAI pPO_PLA qHO_PHUNG pFO_FA pPHO_PHAN pFO_FAN",
    "pPHO_SAMPHAO pMO_MA pYO_YAK pRO_RUA qU pLO_LING qU pWO_WAEN pSO_SALA sRUSI sSUA pHO_HIP",
    "pLO_CHULA pO_ANG pHO_NOKHUK pPAIYANNOI pSARA_A pMAI_HAN-AKAT pSARA_AA vM uI vI uUE wE v vU",
    "pPHINTHU"]), (0xE3F, ["aTHAI_CURRENCY_SYMBOL_BAHT gHARACTER_SARA_E uAE uO uAI_MAIMUAN",
    "bbALAI pLAKKHANGYAO pMAIYAMOK sTAIKHU s_EK tTHO uRI tCHATTAWA pTHANTHAKHAT pNIKHAHIT",
    "pYAMAKKAN pFONGMAN fDIGIT_ZERO lONE lTWO mHREE lFOUR mIVE lSIX mEVEN lEIGHT lNINE",
    "fCHARACTER_ANGKHANKHU pKHOMUT"]), (0xE81, ["aLAO_LETTER_KO mHO_SUNG"]),
  (0xE84, ["aLAO_LETTER_KHO_TAM"]), (0xE86, ["aLAO_LETTER_PALI_GHA lNGO lCO lPALI_CHA lSO_TAM"]),
  (0xE8C, ["aLAO_LETTER_PALI_JHA lNYO lPALI_NYA qTTA sHA qDDA sHA qNNA lDO lTO mHO_SUNG pTAM",
    "lPALI_DHA lNO lBO lPO mHO_SUNG lFO_TAM lPHO_TAM lFO_SUNG lPALI_BHA lMO lYO lLO_LING"]),
  (0xEA5, ["aLAO_LETTER_LO_LOOT"]), (0xEA7, ["aLAO_LETTER_WO lSANSKRIT_SHA vSA mO_SUNG lHO_SUNG",
    "lPALI_LLA lO lHO_TAM eELLIPSIS eVOWEL_SIGN_A pMAI_KAN pAA qM pI qI pY qY pU qU",
    "eSIGN_PALI_VIRAMA eVOWEL_SIGN_MAI_KON eSEMIVOWEL_SIGN_LO tNYO"]), (0xEC0, [
    "aLAO_VOWEL_SIGN_E qI pO pAY qI"]), (0xEC6, ["aLAO_KO_LA"]), (0xEC8, ["aLAO_TONE_MAI_EK nTHO",
    "oI nCATAWA eCANCELLATION_MARK eNIGGAHITA"]), (0xED0, ["aLAO_DIGIT_ZERO kONE kTWO lHREE",
    "kFOUR lIVE kSIX lEVEN kEIGHT kNINE"]), (0xEDC, ["aLAO_HO_NO hMO eLETTER_KHMU_GO qNYO"]),
  (0xF00, ["aTIBETAN_SYLLABLE_OM iMARK_GTER_YIG_MGO_TRUNCATED_A ba-UM_RNAM_BCAD_MA",
    "beGTER_TSHEG_MA nINITIAL_YIG_MGO_MDUN_MA nCLOSING_YIG_MGO_SGAB_MA",
    "oARET_YIG_MGO_PHUR_SHAD_MA nYIG_MGO_TSHEG_SHAD_MA nSBRUL_SHAD nBSKUR_YIG_MGO",
    "oKA-_SHOG_YIG_MGO nINTERSYLLABIC_TSHEG nDELIMITER_TSHEG_BSTAR nSHAD nNYIS_SHAD nTSHEG_SHAD",
    "nNYIS_TSHEG_SHAD nRIN_CHEN_SPUNGS_SHAD oGYA_GRAM_SHAD nCARET_-DZUD_RTAGS_ME_LONG_CAN",
    "nGTER_TSHEG iLOGOTYPE_SIGN_CHAD_RTAGS wLHAG_RTAGS iASTROLOGICAL_SIGN_SGRA_GCAN_-CHAR_RTAGS",
    "ba-KHYUD_PA baSDONG_TSHUGS iSIGN_RDEL_DKAR_GCIG yNYIS ySUM sNAG_GCIG xNYIS sDKAR_RDEL_NAG",
    "iDIGIT_ZERO oONE oTWO pHREE oFOUR pIVE oSIX pEVEN oEIGHT oNINE oHALF_ONE tTWO uHREE tFOUR",
    "uIVE tSIX uEVEN tEIGHT tNINE tZERO iMARK_BSDUS_RTAGS nNGAS_BZUNG_NYI_ZLA",
    "nCARET_-DZUD_RTAGS_BZHI_MIG_CAN nNGAS_BZUNG_SGOR_RTAGS nCHE_MGO nTSA_-PHRU nGUG_RTAGS_GYON",
    "zAS nANG_KHANG_GYON zAS iSIGN_YAR_TSHES nMAR_TSHES iLETTER_KA qHA pGA qHA pNGA pCA qHA pJA"]),
  (0xF49, ["aTIBETAN_LETTER_NYA pTTA rHA pDDA rHA pNNA pTA qHA pDA qHA pNA pPA qHA pBA qHA pMA",
    "pTSA rHA pDZA rHA pWA pZHA qA p-A pYA pRA pLA pSHA qSA qA pHA pA pKSSA pFIXED-FORM_RA pKKA",
    "pRRA"]), (0xF71, ["aTIBETAN_VOWEL_SIGN_AA tI uI tU uU tVOCALIC_R bcR bbL bcL tE uE tO uO",
    "iSIGN_RJES_SU_NGA_RO oNAM_BCAD iVOWEL_SIGN_REVERSED_I bdI iSIGN_NYI_ZLA_NAA_DA nSNA_LDAN",
    "iMARK_HALANTA nPALUTA iSIGN_LCI_RTAGS nYANG_RTAGS nLCE_TSA_CAN nMCHU_CAN nGRU_CAN_RGYINGS",
    "rMED_RGYINGS nINVERTED_MCHU_CAN jUBJOINED_SIGN_LCE_TSA_CAN xMCHU_CAN xINVERTED_MCHU_CAN",
    "sLETTER_KA baHA zGA baHA zNGA zCA baHA zJA"]), (0xF99, ["aTIBETAN_SUBJOINED_LETTER_NYA zTTA",
    "bbHA zDDA bbHA zNNA zTA baHA zDA baHA zNA zPA baHA zBA baHA zMA zTSA bbHA zDZA bbHA zWA",
    "zZHA baA z-A zYA zRA zLA zSHA baSA baA zHA zA zKSSA zFIXED-FORM_WA bkYA bkRA"]),
  (0xFBE, ["aTIBETAN_KU_RU_KHA r_BZHI_MIG_CAN iCANTILLATION_SIGN_HEAVY_BEAT baLIGHT_BEAT",
    "baCANG_TE-U baSBUB_-CHAL iSYMBOL_DRIL_BU pRDO_RJE pPADMA_GDAN pRDO_RJE_RGYA_GRAM pPHUR_PA",
    "pNOR_BU v_NYIS_-KHYIL wGSUM_-KHYIL wBZHI_-KHYIL"]), (0xFCE, [
    "aTIBETAN_SIGN_RDEL_NAG_RDEL_DKAR wGSUM iMARK_BSKA-_SHOG_GI_MGO_RGYAN",
    "nMNYAM_YIG_GI_MGO_RGYAN nNYIS_TSHEG nINITIAL_BRDA_RNYING_YIG_MGO_MDUN_MA",
    "nCLOSING_BRDA_RNYING_YIG_MGO_SGAB_MA aRIGHT-FACING_SVASTI_SIGN aLEFT-FACING_SVASTI_SIGN",
    "aRIGHT-FACING_SVASTI_SIGN_WITH_DOTS aLEFT-FACING_SVASTI_SIGN_WITH_DOTS",
    "aTIBETAN_MARK_LEADING_MCHAN_RTAGS nTRAILING_MCHAN_RTAGS"]), (0x1000, ["aMYANMAR_LETTER_KA",
    "qHA pGA qHA pNGA pCA qHA pJA qHA pNYA qNYA pTTA rHA pDDA rHA pNNA pTA qHA pDA qHA pNA pPA",
    "qHA pBA qHA pMA pYA pRA pLA pWA pSA pHA pLLA pA pSHAN_A pI qI pU qU pE pMON_E pO pAU",
    "iVOWEL_SIGN_TALL_AA tAA tI uI tU uU tE tAI tMON_II xO tE_ABOVE iSIGN_ANUSVARA nDOT_BELOW",
    "nVISARGA pRAMA nASAT iCONSONANT_SIGN_MEDIAL_YA beRA beWA beHA iLETTER_GREAT_SA iDIGIT_ZERO",
    "oONE oTWO pHREE oFOUR pIVE oSIX pEVEN oEIGHT oNINE iSIGN_LITTLE_SECTION nSECTION",
    "jYMBOL_LOCATIVE pCOMPLETED pAFOREMENTIONED pGENITIVE iLETTER_SHA qSA pVOCALIC_R yR xL yL",
    "iVOWEL_SIGN_VOCALIC_R bcR bbL bcL iLETTER_MON_NGA tJHA tBBA vE",
    "iCONSONANT_SIGN_MON_MEDIAL_NA biMA biLA iLETTER_SGAW_KAREN_SHA iVOWEL_SIGN_SGAW_KAREN_EU",
    "iTONE_MARK_SGAW_KAREN_HATHI bdKE_PHO iLETTER_WESTERN_PWO_KAREN_THA bhPWA",
    "iVOWEL_SIGN_WESTERN_PWO_KAREN_EU blUE iSIGN_WESTERN_PWO_KAREN_TONE-1 bk2 bk3 bk4 bk5",
    "iLETTER_EASTERN_PWO_KAREN_NNA bhYWA bhGHWA iVOWEL_SIGN_GEBA_KAREN_I tKAYAH_OE zU zEE",
    "iLETTER_SHAN_KA vHA uGA uCA uZA uNYA uDA uNA uPHA uFA uBA uTHA uHA",
    "iCONSONANT_SIGN_SHAN_MEDIAL_WA iVOWEL_SIGN_SHAN_AA yE z_ABOVE yFINAL_Y iSIGN_SHAN_TONE-2 x3",
    "x5 x6 sCOUNCIL_TONE-2 bf3 baEMPHATIC_TONE iLETTER_RUMAI_PALAUNG_FA",
    "iSIGN_RUMAI_PALAUNG_TONE-5 jHAN_DIGIT_ZERO tONE tTWO uHREE tFOUR uIVE tSIX uEVEN tEIGHT",
    "tNINE jIGN_KHAMTI_TONE-1 z3 iVOWEL_SIGN_AITON_A baI iSYMBOL_SHAN_ONE uEXCLAMATION",
    "aGEORGIAN_CAPITAL_LETTER_AN yBAN yGAN yDON yEN yVIN yZEN yTAN yIN yKAN yLAS yMAN yNAR yON",
    "yPAR yZHAR yRAE ySAN yTAR yUN yPHAR yKHAR yGHAN yQAR ySHIN yCHIN zAN yJIL yCIL zHAR yXAN",
    "yJHAN yHAE zE zIE yWE yHAR zOE"]), (0x10C7, ["aGEORGIAN_CAPITAL_LETTER_YN"]),
  (0x10CD, ["aGEORGIAN_CAPITAL_LETTER_AEN"]), (0x10D0, ["aGEORGIAN_LETTER_AN qBAN qGAN qDON qEN",
    "qVIN qZEN qTAN qIN qKAN qLAS qMAN qNAR qON qPAR qZHAR qRAE qSAN qTAR qUN qPHAR qKHAR qGHAN",
    "qQAR qSHIN qCHIN rAN qJIL qCIL rHAR qXAN qJHAN qHAE rE rIE qWE qHAR rOE qFI qYN qELIFI",
    "qTURNED_GAN qAIN jPARAGRAPH_SEPARATOR aMODIFIER_LETTER_GEORGIAN_NAR aGEORGIAN_LETTER_AEN",
    "qHARD_SIGN qLABIAL_SIGN"])]

end TraceLens.CharacterName
