/-!
# Names of characters from row 0x110 on

The names of the characters from row 0x110 to row 0x11F, in runs without a gap: the first code
point, and the names in the form that `CharacterName` describes.
-/

namespace TraceLens.CharacterName

def row110 : List (Nat × List String) := [
  (0x11000, ["aBRAHMI_SIGN_CANDRABINDU mANUSVARA mVISARGA mJIHVAMULIYA mUPADHMANIYA hLETTER_A pA",
    "oI pI oU pU oVOCALIC_R xR wL xL oE oAI oO oAU oKA pHA oGA pHA oNGA oCA pHA oJA pHA oNYA",
    "oTTA qHA oDDA qHA oNNA oTA pHA oDA pHA oNA oPA pHA oBA pHA oMA oYA oRA oLA oVA oSHA pSA pA",
    "oHA oLLA oOLD_TAMIL_LLLA yRRA yNNNA hVOWEL_SIGN_AA sBHATTIPROLU_AA sI tI sU tU sVOCALIC_R",
    "bbR baL bbL sE sAI sO sAU iIRAMA hDANDA iOUBLE_DANDA hPUNCTUATION_DOT vUBLE_DOT tLINE",
    "tCRESCENT_BAR tLOTUS"]), (0x11052, ["aBRAHMI_NUMBER_ONE oTWO pHREE oFOUR pIVE oSIX pEVEN",
    "oEIGHT oNINE oTEN pWENTY pHIRTY oFORTY pIFTY oSIXTY pEVENTY oEIGHTY oNINETY oONE_HUNDRED",
    "sTHOUSAND hDIGIT_ZERO nONE nTWO oHREE nFOUR oIVE nSIX oEVEN nEIGHT nNINE",
    "hSIGN_OLD_TAMIL_VIRAMA hLETTER_OLD_TAMIL_SHORT_E beO hVOWEL_SIGN_OLD_TAMIL_SHORT_E biO",
    "hLETTER_OLD_TAMIL_LLA"]), (0x1107F, ["aBRAHMI_NUMBER_JOINER aKAITHI_SIGN_CANDRABINDU",
    "mANUSVARA mVISARGA hLETTER_A pA oI pI oU pU oE oAI oO oAU oKA pHA oGA pHA oNGA oCA pHA oJA",
    "pHA oNYA oTTA qHA oDDA qDHA qHA oRHA oNNA oTA pHA oDA pHA oNA oPA pHA oBA pHA oMA oYA oRA",
    "oLA oVA oSHA pSA pA oHA hVOWEL_SIGN_AA sI tI sU tU sE sAI sO sAU hSIGN_VIRAMA mNUKTA",
    "hABBREVIATION_SIGN hENUMERATION_SIGN hNUMBER_SIGN hSECTION_MARK hDOUBLE_SECTION_MARK iANDA",
    "iOUBLE_DANDA hVOWEL_SIGN_VOCALIC_R"]), (0x110CD, ["aKAITHI_NUMBER_SIGN_ABOVE"]),
  (0x110D0, ["aSORA_SOMPENG_LETTER_SAH uTAH uBAH uCAH uDAH uGAH uMAH uNGAH uLAH uNAH uVAH uPAH",
    "uYAH uRAH uHAH uKAH uJAH uNYAH uAH uEEH uIH uUH uOH uEH uMAE"]),
  (0x110F0, ["aSORA_SOMPENG_DIGIT_ZERO tONE tTWO uHREE tFOUR uIVE tSIX uEVEN tEIGHT tNINE"]),
  (0x11100, ["aCHAKMA_SIGN_CANDRABINDU mANUSVARA mVISARGA hLETTER_AA oI oU oE oKAA pHAA oGAA",
    "pHAA oNGAA oCAA pHAA oJAA pHAA oNYAA oTTAA qHAA oDDAA qHAA oNNAA oTAA pHAA oDAA pHAA oNAA",
    "oPAA pHAA oBAA pHAA oMAA oYYAA pAA oRAA oLAA oWAA oSAA oHAA hVOWEL_SIGN_A sI tI sU tU sE",
    "sAI sO sAU sOI hO_MARK hAU_MARK hVIRAMA hMAAYYAA"]), (0x11136, ["aCHAKMA_DIGIT_ZERO nONE",
    "nTWO oHREE nFOUR oIVE nSIX oEVEN nEIGHT nNINE hSECTION_MARK hDANDA iOUBLE_DANDA",
    "hQUESTION_MARK hLETTER_LHAA hVOWEL_SIGN_AA sEI hLETTER_VAA"]), (0x11150, [
    "aMAHAJANI_LETTER_A qI qU qE qO qKA rHA qGA rHA qCA rHA qJA rHA qNYA qTTA sHA qDDA sHA qNNA",
    "qTA rHA qDA rHA qNA qPA rHA qBA rHA qMA qRA qLA qVA qSA qHA qRRA jSIGN_NUKTA",
    "jABBREVIATION_SIGN jSECTION_MARK jLIGATURE_SHRI"]), (0x11180, ["aSHARADA_SIGN_CANDRABINDU",
    "nANUSVARA nVISARGA iLETTER_A qA pI qI pU qU pVOCALIC_R yR xL yL pE pAI pO pAU pKA qHA pGA",
    "qHA pNGA pCA qHA pJA qHA pNYA pTTA rHA pDDA rHA pNNA pTA qHA pDA qHA pNA pPA qHA pBA qHA",
    "pMA pYA pRA pLA qLA pVA pSHA qSA qA pHA iVOWEL_SIGN_AA tI uI tU uU tVOCALIC_R bcR bbL bcL",
    "tE tAI tO tAU iSIGN_VIRAMA nAVAGRAHA nJIHVAMULIYA nUPADHMANIYA iOM iDANDA jOUBLE_DANDA",
    "iABBREVIATION_SIGN iSEPARATOR jANDHI_MARK jIGN_NUKTA iVOWEL_MODIFIER_MARK",
    "iEXTRA_SHORT_VOWEL_MARK iSUTRA_MARK iVOWEL_SIGN_PRISHTHAMATRA_E iSIGN_INVERTED_CANDRABINDU",
    "iDIGIT_ZERO oONE oTWO pHREE oFOUR pIVE oSIX pEVEN oEIGHT oNINE iEKAM iSIGN_SIDDHAM",
    "iHEADSTROKE iCONTINUATION_SIGN iSECTION_MARK-1 v2"]), (0x111E1, [
    "aSINHALA_ARCHAIC_DIGIT_ONE wTWO xHREE wFOUR xIVE wSIX xEVEN wEIGHT wNINE qNUMBER_TEN yWENTY",
    "yHIRTY xFORTY yIFTY xSIXTY yEVENTY xEIGHTY xNINETY xONE_HUNDRED bbTHOUSAND"]),
  (0x11200, ["aKHOJKI_LETTER_A pA oI oU oE oAI oO oAU oKA pHA oGA pGA pHA oNGA oCA pHA oJA pJA"]),
  (0x11213, ["aKHOJKI_LETTER_NYA oTTA qHA oDDA qHA oNNA oTA pHA oDA pDDA pHA oNA oPA pHA oBA pBA",
    "pHA oMA oYA oRA oLA oVA oSA oHA oLLA hVOWEL_SIGN_AA sI tI sU sE sAI sO sAU hSIGN_ANUSVARA",
    "mVIRAMA mNUKTA mSHADDA hDANDA iOUBLE_DANDA hWORD_SEPARATOR hSECTION_MARK",
    "hDOUBLE_SECTION_MARK hABBREVIATION_SIGN hSIGN_SUKUN"]), (0x11280, ["aMULTANI_LETTER_A pI pU",
    "pE pKA qHA pGA"]), (0x11288, ["aMULTANI_LETTER_GHA"]), (0x1128A, ["aMULTANI_LETTER_CA qHA",
    "pJA qJA"]), (0x1128F, ["aMULTANI_LETTER_NYA pTTA rHA pDDA rDA rHA pNNA pTA qHA pDA qHA pNA",
    "pPA qHA pBA"]), (0x1129F, ["aMULTANI_LETTER_BHA pMA pYA pRA pLA pVA pSA pHA pRRA qHA",
    "iSECTION_MARK"]), (0x112B0, ["aKHUDAWADI_LETTER_A sA rI sI rU sU rE rAI rO rAU rKA sHA rGA",
    "sGA sHA rNGA rCA sHA rJA sJA sHA rNYA rTTA tHA rDDA tDA rRRA rDDHA rNNA rTA sHA rDA sHA rNA",
    "rPA sHA rBA sBA sHA rMA rYA rRA rLA rVA rSHA sA rHA kSIGN_ANUSVARA kVOWEL_SIGN_AA vI wI vU",
    "wU vE vAI vO vAU kSIGN_NUKTA pVIRAMA"]), (0x112F0, ["aKHUDAWADI_DIGIT_ZERO qONE qTWO rHREE",
    "qFOUR rIVE qSIX rEVEN qEIGHT qNINE"]), (0x11300, ["aGRANTHA_SIGN_COMBINING_ANUSVARA_ABOVE",
    "oANDRABINDU nANUSVARA nVISARGA"]), (0x11305, ["aGRANTHA_LETTER_A qA pI qI pU qU pVOCALIC_R",
    "xL"]), (0x1130F, ["aGRANTHA_LETTER_EE pAI"]), (0x11313, ["aGRANTHA_LETTER_OO pAU pKA qHA",
    "pGA qHA pNGA pCA qHA pJA qHA pNYA pTTA rHA pDDA rHA pNNA pTA qHA pDA qHA pNA"]),
  (0x1132A, ["aGRANTHA_LETTER_PA qHA pBA qHA pMA pYA pRA"]), (0x11332, ["aGRANTHA_LETTER_LA qLA"]),
  (0x11335, ["aGRANTHA_LETTER_VA pSHA qSA qA pHA"]), (0x1133B, ["aCOMBINING_BINDU_BELOW",
    "aGRANTHA_SIGN_NUKTA nAVAGRAHA iVOWEL_SIGN_AA tI uI tU uU tVOCALIC_R bcR"]),
  (0x11347, ["aGRANTHA_VOWEL_SIGN_EE tAI"]), (0x1134B, ["aGRANTHA_VOWEL_SIGN_OO tAU iSIGN_VIRAMA"]),
  (0x11350, ["aGRANTHA_OM"]), (0x11357, ["aGRANTHA_AU_LENGTH_MARK"]),
  (0x1135D, ["aGRANTHA_SIGN_PLUTA iLETTER_VEDIC_ANUSVARA vDOUBLE_ANUSVARA qOCALIC_RR xLL",
    "iVOWEL_SIGN_VOCALIC_L bcL"]), (0x11366, ["aCOMBINING_GRANTHA_DIGIT_ZERO yONE yTWO zHREE",
    "yFOUR zIVE ySIX"]), (0x11370, ["aCOMBINING_GRANTHA_LETTER_A zKA zNA zVI zPA"]),
  (0x11400, ["aNEWA_LETTER_A nA mI nI mU nU mVOCALIC_R vR uL vL mE mAI mO mAU mKA nHA mGA nHA",
    "mNGA oHA mCA nHA mJA nHA mNYA oHA mTTA oHA mDDA oHA mNNA mTA nHA mDA nHA mNA nHA mPA nHA",
    "mBA nHA mMA nHA mYA mRA nHA mLA nHA mWA mSHA nSA nA mHA fVOWEL_SIGN_AA qI rI qU rU",
    "qVOCALIC_R zR yL zL qE qAI qO qAU fSIGN_VIRAMA kCANDRABINDU kANUSVARA kVISARGA kNUKTA",
    "kAVAGRAHA kFINAL_ANUSVARA fOM fSIDDHI fDANDA gOUBLE_DANDA fCOMMA fGAP_FILLER",
    "fABBREVIATION_SIGN fDIGIT_ZERO lONE lTWO mHREE lFOUR mIVE lSIX mEVEN lEIGHT lNINE",
    "gOUBLE_COMMA fPLACEHOLDER_MARK"]), (0x1145D, ["aNEWA_INSERTION_SIGN fSANDHI_MARK",
    "fLETTER_VEDIC_ANUSVARA fSIGN_JIHVAMULIYA kUPADHMANIYA"]), (0x11480, ["aTIRHUTA_ANJI",
    "iLETTER_A qA pI qI pU qU pVOCALIC_R yR xL yL pE pAI pO pAU pKA qHA pGA qHA pNGA pCA qHA pJA",
    "qHA pNYA pTTA rHA pDDA rHA pNNA pTA qHA pDA qHA pNA pPA qHA pBA qHA pMA pYA pRA pLA pVA",
    "pSHA qSA qA pHA iVOWEL_SIGN_AA tI uI tU uU tVOCALIC_R bcR bbL bcL tE tSHORT_E tAI tO",
    "tSHORT_O tAU iSIGN_CANDRABINDU nANUSVARA nVISARGA pRAMA nNUKTA nAVAGRAHA iGVANG",
    "iABBREVIATION_SIGN iOM"]), (0x114D0, ["aTIRHUTA_DIGIT_ZERO oONE oTWO pHREE oFOUR pIVE oSIX",
    "pEVEN oEIGHT oNINE"]), (0x11580, ["aSIDDHAM_LETTER_A qA pI qI pU qU pVOCALIC_R yR xL yL pE",
    "pAI pO pAU pKA qHA pGA qHA pNGA pCA qHA pJA qHA pNYA pTTA rHA pDDA rHA pNNA pTA qHA pDA qHA",
    "pNA pPA qHA pBA qHA pMA pYA pRA pLA pVA pSHA qSA qA pHA iVOWEL_SIGN_AA tI uI tU uU",
    "tVOCALIC_R bcR"]), (0x115B8, ["aSIDDHAM_VOWEL_SIGN_E tAI tO tAU iSIGN_CANDRABINDU nANUSVARA",
    "nVISARGA pRAMA nNUKTA nSIDDHAM iDANDA jOUBLE_DANDA iSEPARATOR_DOT sBAR iREPETITION_MARK-1",
    "y2 y3 iEND_OF_TEXT_MARK iSECTION_MARK_WITH_TRIDENT_AND_U-SHAPED_ORNAMENTS",
    "bmDOTTED_CRESCENTS baRAYS_AND_DOTTED_CRESCENTS bqDOUBLE_CRESCENTS bqTRIPLE_CRESCENTS",
    "vDOUBLE_RING bg_WITH_RAYS vWITH_DOUBLE_CRESCENTS baTRIPLE_CRESCENTS baQUADRUPLE_CRESCENTS",
    "baSEPTUPLE_CRESCENTS baCIRCLES_AND_RAYS bmTWO_ENCLOSURES bmFOUR_ENCLOSURES",
    "iLETTER_THREE-CIRCLE_ALTERNATE_I qWO-CIRCLE_ALTERNATE_I blI pALTERNATE_U",
    "iVOWEL_SIGN_ALTERNATE_U beU"]), (0x11600, ["aMODI_LETTER_A nA mI nI mU nU mVOCALIC_R vR uL",
    "vL mE mAI mO mAU mKA nHA mGA nHA mNGA mCA nHA mJA nHA mNYA mTTA oHA mDDA oHA mNNA mTA nHA",
    "mDA nHA mNA mPA nHA mBA nHA mMA mYA mRA mLA mVA mSHA nSA nA mHA mLLA fVOWEL_SIGN_AA qI rI",
    "qU rU qVOCALIC_R zR yL zL qE qAI qO qAU fSIGN_ANUSVARA kVISARGA mRAMA kARDHACANDRA fDANDA",
    "gOUBLE_DANDA fABBREVIATION_SIGN fSIGN_HUVA"]), (0x11650, ["aMODI_DIGIT_ZERO lONE lTWO mHREE",
    "lFOUR mIVE lSIX mEVEN lEIGHT lNINE"]), (0x11660, ["aMONGOLIAN_BIRGA_WITH_ORNAMENT",
    "kROTATED_BIRGA kDOUBLE_BIRGA_WITH_ORNAMENT kTRIPLE_BIRGA_WITH_ORNAMENT",
    "kBIRGA_WITH_DOUBLE_ORNAMENT kROTATED_BIRGA_WITH_ORNAMENT bdDOUBLE_ORNAMENT kINVERTED_BIRGA",
    "y_WITH_DOUBLE_ORNAMENT kSWIRL_BIRGA v_WITH_ORNAMENT bbDOUBLE_ORNAMENT",
    "kTURNED_SWIRL_BIRGA_WITH_DOUBLE_ORNAMENT"]), (0x11680, ["aTAKRI_LETTER_A oA nI oI nU oU nE",
    "nAI nO nAU nKA oHA nGA oHA nNGA nCA oHA nJA oHA nNYA nTTA pHA nDDA pHA nNNA nTA oHA nDA oHA",
    "nNA nPA oHA nBA oHA nMA nYA nRA nLA nVA nSHA oA nHA nRRA gSIGN_ANUSVARA lVISARGA",
    "gVOWEL_SIGN_AA rI sI rU sU rE rAI rO rAU gSIGN_VIRAMA lNUKTA gLETTER_ARCHAIC_KHA",
    "gABBREVIATION_SIGN"]), (0x116C0, ["aTAKRI_DIGIT_ZERO mONE mTWO nHREE mFOUR nIVE mSIX nEVEN",
    "mEIGHT mNINE"]), (0x11700, ["aAHOM_LETTER_KA nHA mNGA nA mTA mALTERNATE_TA mPA nHA mBA mMA",
    "mJA mCHA mTHA mRA mLA mSA mNYA mHA mA mDA nHA mGA mALTERNATE_GA mGHA mBHA mJHA",
    "mALTERNATE_BA"]), (0x1171D, ["aAHOM_CONSONANT_SIGN_MEDIAL_LA bbRA bbLIGATING_RA",
    "fVOWEL_SIGN_A rA qI rI qU rU qE qAW qO qAI rM fSIGN_KILLER"]), (0x11730, ["aAHOM_DIGIT_ZERO",
    "lONE lTWO mHREE lFOUR mIVE lSIX mEVEN lEIGHT lNINE fNUMBER_TEN nWENTY fSIGN_SMALL_SECTION",
    "lECTION kRULAI gYMBOL_VI fLETTER_CA mTTA oHA mDDA oHA mNNA mLLA"]),
  (0x11800, ["aDOGRA_LETTER_A oA nI oI nU oU nE nAI nO nAU nKA oHA nGA oHA nNGA nCA oHA nJA oHA",
    "nNYA nTTA pHA nDDA pHA nNNA nTA oHA nDA oHA nNA nPA oHA nBA oHA nMA nYA nRA nLA nVA nSHA",
    "oSA oA nHA nRRA gVOWEL_SIGN_AA rI sI rU sU rVOCALIC_R baR rE rAI rO rAU gSIGN_ANUSVARA",
    "lVISARGA nRAMA lNUKTA gABBREVIATION_SIGN"]), (0x118A0, ["aWARANG_CITI_CAPITAL_LETTER_NGAA",
    "bbA bbWI bbYU bcA bcO bbII bbUU bbE bbO bbANG bbGA bbKO bbENY bbYUJ bbUC bbENN bbODD bbTTE",
    "bbNUNG bbDA bbAT bcM bbBU bbPU bbHIYO bcOLO bdRR bcAR bbSSUU bcII bbVIYO mSMALL_LETTER_NGAA",
    "zA zWI zYU baA baO zII zUU zE zO zANG zGA zKO zENY zYUJ zUC zENN zODD zTTE zNUNG zDA zAT",
    "baM zBU zPU zHIYO baOLO bbRR baAR zSSUU baII zVIYO mDIGIT_ZERO sONE sTWO tHREE sFOUR tIVE",
    "sSIX tEVEN sEIGHT sNINE mNUMBER_TEN uWENTY uHIRTY tFORTY uIFTY tSIXTY uEVENTY tEIGHTY",
    "tNINETY"]), (0x118FF, ["aWARANG_CITI_OM aDIVES_AKURU_LETTER_A uA tI uI tU uU tE"]),
  (0x11909, ["aDIVES_AKURU_LETTER_O"]), (0x1190C, ["aDIVES_AKURU_LETTER_KA uHA tGA uHA tNGA tCA",
    "uHA tJA"]), (0x11915, ["aDIVES_AKURU_LETTER_NYA tTTA"]), (0x11918, [
    "aDIVES_AKURU_LETTER_DDA vHA tNNA tTA uHA tDA uHA tNA tPA uHA tBA uHA tMA tYA uYA tRA tLA",
    "tVA tSHA uSA uA tHA tLLA tZA mVOWEL_SIGN_AA xI yI xU yU xE"]), (0x11937, [
    "aDIVES_AKURU_VOWEL_SIGN_AI xO"]), (0x1193B, ["aDIVES_AKURU_SIGN_ANUSVARA rCANDRABINDU",
    "rHALANTA mVIRAMA mPREFIXED_NASAL_SIGN mMEDIAL_YA mINITIAL_RA mMEDIAL_RA mSIGN_NUKTA",
    "mDOUBLE_DANDA mGAP_FILLER mEND_OF_TEXT_MARK"]), (0x11950, ["aDIVES_AKURU_DIGIT_ZERO sONE",
    "sTWO tHREE sFOUR tIVE sSIX tEVEN sEIGHT sNINE"]), (0x119A0, ["aNANDINAGARI_LETTER_A uA tI",
    "uI tU uU tVOCALIC_R bcR"]), (0x119AA, ["aNANDINAGARI_LETTER_E tAI tO tAU tKA uHA tGA uHA",
    "tNGA tCA uHA tJA uHA tNYA tTTA vHA tDDA vHA tNNA tTA uHA tDA uHA tNA tPA uHA tBA uHA tMA",
    "tYA tRA tLA tVA tSHA uSA uA tHA tLLA tRRA mVOWEL_SIGN_AA xI yI xU yU xVOCALIC_R bgR"]),
  (0x119DA, ["aNANDINAGARI_VOWEL_SIGN_E xAI xO xAU mSIGN_ANUSVARA rVISARGA tRAMA rAVAGRAHA",
    "rSIDDHAM mHEADSTROKE mVOWEL_SIGN_PRISHTHAMATRA_E"]), (0x11A00, ["aZANABAZAR_SQUARE_LETTER_A",
    "rVOWEL_SIGN_I bcUE bd bcE bcOE bd bcAI bdU bcREVERSED_I xLENGTH_MARK rLETTER_KA zHA yGA zHA",
    "yNGA yCA zHA yJA yNYA yTTA baHA yDDA baHA yNNA yTA zHA yDA zHA yNA yPA zHA yBA zHA yMA yTSA",
    "baHA yDZA baHA yZHA zA y-A yYA yRA yLA yVA ySHA zSA zA yHA yKSSA rFINAL_CONSONANT_MARK",
    "rSIGN_VIRAMA wCANDRABINDU bh_WITH_ORNAMENT bc_WITH_ORNAMENT wANUSVARA wVISARGA",
    "rCLUSTER-INITIAL_LETTER_RA zFINAL_LETTER_YA bmRA bmLA bmVA rINITIAL_HEAD_MARK",
    "rCLOSING_HEAD_MARK rMARK_TSHEG wSHAD wDOUBLE_SHAD wLONG_TSHEG",
    "rINITIAL_DOUBLE-LINED_HEAD_MARK rCLOSING_DOUBLE-LINED_HEAD_MARK rSUBJOINER"]),
  (0x11A50, ["aSOYOMBO_LETTER_A iVOWEL_SIGN_I tUE u tE tO uE tAI uU tVOCALIC_R bbL oLENGTH_MARK",
    "iLETTER_KA qHA pGA qHA pNGA pCA qHA pJA qHA pNYA pTTA rHA pDDA rHA pNNA pTA qHA pDA qHA pNA",
    "pPA qHA pBA qHA pMA pTSA rHA pDZA pZHA qA p-A pYA pRA pLA pVA pSHA qSA qA pHA pKSSA",
    "iSIGN_JIHVAMULIYA nUPADHMANIYA iCLUSTER-INITIAL_LETTER_RA bfLA bfSHA bgA",
    "iFINAL_CONSONANT_SIGN_G bdK bdNG bdD bdN bdB bdM bdR bdL bdSH be bd-A iSIGN_ANUSVARA",
    "nVISARGA iGEMINATION_MARK iSUBJOINER iMARK_TSHEG nSHAD nDOUBLE_SHAD nPLUTA",
    "iHEAD_MARK_WITH_MOON_AND_SUN_AND_TRIPLE_FLAME boFLAME bj iTERMINAL_MARK-1 w2"]),
  (0x11AB0, ["aCANADIAN_SYLLABICS_NATTILIK_HI beI bdO beO bdA beA bcSHRI bgI bfO bgO bfA bgA",
    "tSPE vI vO vA aPAU_CIN_HAU_LETTER_PA tKA tLA tMA tDA tZA tVA tNGA tHA tGA tKHA tSA tBA tCA",
    "tTA uHA tNA tPHA tRA tFA tCHA tA tE tI tO tU uA tIA tFINAL_P zK zT zM zN zL zW zNG zY",
    "mRISING_TONE_LONG x mSANDHI_GLOTTAL_STOP mRISING_TONE_LONG_FINAL yFINAL",
    "mSANDHI_GLOTTAL_STOP_FINAL tTONE_LONG x x_LONG_FINAL yFINAL mMID-LEVEL_TONE",
    "mGLOTTAL_STOP_VARIANT mMID-LEVEL_TONE_LONG_FINAL bbFINAL mLOW-FALLING_TONE_LONG bc",
    "mGLOTTAL_STOP mLOW-FALLING_TONE_LONG_FINAL bdFINAL mGLOTTAL_STOP_FINAL"]),
  (0x11C00, ["aBHAIKSUKI_LETTER_A sA rI sI rU sU rVOCALIC_R baR zL"]),
  (0x11C0A, ["aBHAIKSUKI_LETTER_E rAI rO rAU rKA sHA rGA sHA rNGA rCA sHA rJA sHA rNYA rTTA tHA",
    "rDDA tHA rNNA rTA sHA rDA sHA rNA rPA sHA rBA sHA rMA rYA rRA rLA rVA rSHA sSA sA rHA",
    "kVOWEL_SIGN_AA vI wI vU wU vVOCALIC_R beR bdL"]), (0x11C38, ["aBHAIKSUKI_VOWEL_SIGN_E vAI",
    "vO vAU kSIGN_CANDRABINDU pANUSVARA pVISARGA rRAMA pAVAGRAHA kDANDA lOUBLE_DANDA",
    "kWORD_SEPARATOR kGAP_FILLER-1 v2"]), (0x11C50, ["aBHAIKSUKI_DIGIT_ZERO qONE qTWO rHREE",
    "qFOUR rIVE qSIX rEVEN qEIGHT qNINE kNUMBER_ONE rTWO sHREE rFOUR sIVE rSIX sEVEN rEIGHT",
    "rNINE rTEN sWENTY sHIRTY rFORTY sIFTY rSIXTY sEVENTY rEIGHTY rNINETY kHUNDREDS_UNIT_MARK"]),
  (0x11C70, ["aMARCHEN_HEAD_MARK iMARK_SHAD iLETTER_KA qHA pGA pNGA pCA qHA pJA pNYA pTA qHA pDA",
    "pNA pPA qHA pBA pMA pTSA rHA pDZA pWA pZHA qA p-A pYA pRA pLA pSHA qA pHA pA"]),
  (0x11C92, ["aMARCHEN_SUBJOINED_LETTER_KA baHA zGA zNGA zCA baHA zJA zNYA zTA baHA zDA zNA zPA",
    "baHA zBA zMA zTSA bbHA zDZA zWA zZHA baA"]), (0x11CA9, ["aMARCHEN_SUBJOINED_LETTER_YA zRA",
    "zLA zSHA baA zHA zA iVOWEL_SIGN_AA tI tU tE tO iSIGN_ANUSVARA nCANDRABINDU"]),
  (0x11D00, ["aMASARAM_GONDI_LETTER_A wA vI wI vU wU vE"]), (0x11D08, ["aMASARAM_GONDI_LETTER_AI",
    "vO"]), (0x11D0B, ["aMASARAM_GONDI_LETTER_AU vKA wHA vGA wHA vNGA vCA wHA vJA wHA vNYA vTTA",
    "xHA vDDA xHA vNNA vTA wHA vDA wHA vNA vPA wHA vBA wHA vMA vYA vRA vLA vVA vSHA wSA wA vHA",
    "vLLA vKSSA vJNYA vTRA oVOWEL_SIGN_AA zI baI zU baU zVOCALIC_R"]),
  (0x11D3A, ["aMASARAM_GONDI_VOWEL_SIGN_E"]), (0x11D3C, ["aMASARAM_GONDI_VOWEL_SIGN_AI zO"]),
  (0x11D3F, ["aMASARAM_GONDI_VOWEL_SIGN_AU oSIGN_ANUSVARA tVISARGA tNUKTA tCANDRA tHALANTA",
    "oVIRAMA oREPHA pA-KARA"]), (0x11D50, ["aMASARAM_GONDI_DIGIT_ZERO uONE uTWO vHREE uFOUR vIVE",
    "uSIX vEVEN uEIGHT uNINE"]), (0x11D60, ["aGUNJALA_GONDI_LETTER_A wA vI wI vU wU"]),
  (0x11D67, ["aGUNJALA_GONDI_LETTER_EE vAI"]), (0x11D6A, ["aGUNJALA_GONDI_LETTER_OO vAU vYA vVA",
    "vBA wHA vMA vKA wHA vTA wHA vLA vGA wHA vDA wHA vNA vCA wHA vTTA xHA vLLA vJA wHA vDDA xHA",
    "vNGA vPA wHA vHA vRA vSA oVOWEL_SIGN_AA zI baI zU baU"]), (0x11D90, [
    "aGUNJALA_GONDI_VOWEL_SIGN_EE zAI"]), (0x11D93, ["aGUNJALA_GONDI_VOWEL_SIGN_OO zAU",
    "oSIGN_ANUSVARA tVISARGA oVIRAMA oOM"]), (0x11DA0, ["aGUNJALA_GONDI_DIGIT_ZERO uONE uTWO",
    "vHREE uFOUR vIVE uSIX vEVEN uEIGHT uNINE"]), (0x11EE0, ["aMAKASAR_LETTER_KA pGA pNGA pPA",
    "pBA pMA pTA pDA pNA pCA pJA pNYA pYA pRA pLA pVA pSA pA iANGKA iVOWEL_SIGN_I tU tE tO",
    "iPASSIMBANG iEND_OF_SECTION"]), (0x11FB0, ["aLISU_LETTER_YHA"]),
  (0x11FC0, ["aTAMIL_FRACTION_ONE_THREE-HUNDRED-AND-TWENTIETH tONE-HUNDRED-AND-SIXTIETH",
    "tEIGHTIETH tSIXTY-FOURTH tFORTIETH tTHIRTY-SECOND pTHREE_EIGHTIETHS vSIXTY-FOURTHS",
    "pONE_TWENTIETH tSIXTEENTH-1 bd2 tTENTH tEIGHTH pTHREE_TWENTIETHS vSIXTEENTHS pONE_FIFTH",
    "tQUARTER tHALF-1 y2 pTHREE_QUARTERS pDOWNSCALING_FACTOR_KIIZH gSIGN_NEL lCEVITU lAAZHAAKKU",
    "lUZHAKKU lMUUVUZHAKKU lKURUNI lPATHAKKU lMUKKURUNI lKAACU lPANAM mON lVARAAKAN lPAARAM",
    "lKUZHI lVELI gWET_CULTIVATION_SIGN gDRY_CULTIVATION_SIGN gLAND_SIGN gSALT_PAN_SIGN",
    "gTRADITIONAL_CREDIT_SIGN sNUMBER_SIGN gCURRENT_SIGN gAND_ODD_SIGN gSPENT_SIGN gTOTAL_SIGN",
    "gIN_POSSESSION_SIGN gSTARTING_FROM_SIGN hIGN_MUTHALIYA lVAKAIYARAA"]),
  (0x11FFF, ["aTAMIL_PUNCTUATION_END_OF_TEXT"])]

end TraceLens.CharacterName
