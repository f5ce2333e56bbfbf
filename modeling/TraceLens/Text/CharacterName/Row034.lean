/-!
# Names of characters from row 0x34 on

The names of the characters from row 0x34 to row 0xAB, in runs without a gap: the first code
point, and the names in the form that `CharacterName` describes.
-/

namespace TraceLens.CharacterName

def row034 : List (Nat × List String) := [
  (0x4DC0, ["aHEXAGRAM_FOR_THE_CREATIVE_HEAVEN rRECEPTIVE_EARTH nDIFFICULTY_AT_THE_BEGINNING",
    "nYOUTHFUL_FOLLY nWAITING nCONFLICT nTHE_ARMY nHOLDING_TOGETHER nSMALL_TAMING nTREADING",
    "nPEACE nSTANDSTILL nFELLOWSHIP nGREAT_POSSESSION nMODESTY nENTHUSIASM nFOLLOWING",
    "nWORK_ON_THE_DECAYED nAPPROACH nCONTEMPLATION nBITING_THROUGH nGRACE nSPLITTING_APART",
    "nRETURN nINNOCENCE nGREAT_TAMING nMOUTH_CORNERS nGREAT_PREPONDERANCE nTHE_ABYSMAL_WATER",
    "rCLINGING_FIRE nINFLUENCE nDURATION nRETREAT nGREAT_POWER nPROGRESS nDARKENING_OF_THE_LIGHT",
    "nTHE_FAMILY nOPPOSITION oBSTRUCTION nDELIVERANCE pCREASE nINCREASE nBREAKTHROUGH",
    "nCOMING_TO_MEET nGATHERING_TOGETHER nPUSHING_UPWARD nOPPRESSION nTHE_WELL nREVOLUTION",
    "nTHE_CAULDRON rAROUSING_THUNDER rKEEPING_STILL_MOUNTAIN nDEVELOPMENT nTHE_MARRYING_MAIDEN",
    "nABUNDANCE nTHE_WANDERER rGENTLE_WIND rJOYOUS_LAKE nDISPERSION nLIMITATION nINNER_TRUTH",
    "nSMALL_PREPONDERANCE nAFTER_COMPLETION nBEFORE_COMPLETION"]), (0xA000, ["aYI_SYLLABLE_IT nX",
    "n nP nET oX o oP mAT nX n nP mUOX o oP mOT nX n nP mEX n mWU mBIT oX o oP oET pX p pP nAT",
    "oX o oP nUOX p pP nOT oX o oP nEX o oP nUT oX o oP oRX p nYT oX o oP oRX p mPIT oX o oP oEX",
    "p pP nAT oX o oP nUOX p pP nOT oX o oP nUT oX o oP oRX p nYT oX o oP oRX p mBBIT pX p pP",
    "pET qX q qP oAT pX p pP oUOX q qP oOT pX p pP oEX p pP oUT pX p pP pRX q oYT pX p pP mNBIT",
    "pX p pP pEX q qP oAT pX p pP oOT pX p pP oUT pX p pP pRX q oYT pX p pP pRX q mHMIT pX p pP",
    "pEX q qP oAT pX p pP oUOX q qP oOT pX p pP oUT pX p pP pRX q oYX p pP pRX q mMIT oX o oP",
    "oEX p pP nAT oX o oP nUOT pX p pP nOT oX o oP nEX o nUT oX o oP oRX p nYT oX o oP mFIT oX o",
    "oP nAT oX o oP nOX o oP nUT oX o oP oRX p nYT oX o oP mVIT oX o oP oET pX p pP nAT oX o oP",
    "nOT oX o oP nEX oP nUT oX o oP oRX p nYT oX o oP oRX p mDIT oX o oP oEX p pP nAT oX o oP",
    "nUOX p nOT oX o oP nEX o oP nUT oX o oP oRX p mTIT oX o oP oEX p pP nAT oX o oP nUOT pX p",
    "pP nOT oX o oP nEX o oP nUT oX o oP oRX p mDDIT pX p pP pEX q qP oAT pX p pP oUOX q qP oOT",
    "pX p pP oEX p pP oUT pX p pP pRX q mNDIT pX p pP pEX q oAT pX p pP oOT pX p pP oEX p pP oUT",
    "pX p pP pRX q mHNIT pX p pP pET qX q qP oAT pX p pP oUOX q oOT pX pP oEX p pP oUT mNIT oX o",
    "oP oEX p pP nAX o oP nUOX p pP nOT oX o oP nEX o oP nUT oX o oP oRX p mHLIT pX p pP pEX q",
    "qP oAT pX p pP oUOX q qP oOX p pP oEX p pP oUT pX p pP pRX q oYT pX p pP pRX q mLIT oX o oP",
    "oET pX p pP nAT oX o oP nUOT pX p pP nOT oX o oP nEX o oP nUT oX o oP oRX p nYT oX o oP oRX",
    "p mGIT oX o oP oET pX p pP nAT oX o oP nUOT pX p pP nOT oX o oP nET oX o oP nUT oX o oP oRX",
    "p mKIT oX o oP oEX p pP nAT oX o oP nUOX p pP nOT oX o oP nET oX o oP nUT oX o oP oRX p",
    "mGGIT pX p pEX q qP oAT pX p pP oUOT qX q qP oOT pX p pP oET pX p pP oUT pX p pP pRX q",
    "mMGIEX q oAT pX p pP oUOX q qP oOT pX p pP oEX p pP oUT pX p pP pRX q mHXIT pX p pP pET qX",
    "q qP oAT pX p pP oUOT qX q qP oOT pX p pP oEX p pP mNGIEX q qP oAT pX p pP oUOT qX q oOT pX",
    "p pP oEX p pP mHIT oEX p nAT oX o oP nUOT pX p pP nOT oX o oP nEX o oP mWAT oX o oP nUOX p",
    "pP nOX o oP nEX o oP mZIT oX o oP oEX p pP nAT oX o oP nUOX p pP nOT oX o oP nEX o oP nUT",
    "oX o oP oRX p nYT oX o oP oRX p mCIT oX o oP oET pX p pP nAT oX o oP nUOX p pP nOT oX o oP",
    "nEX o oP nUT oX o oP oRX p nYT oX o oP oRX p mZZIT pX p pP pET qX q qP oAT pX p pP oOX p pP",
    "oEX p pP oUX p pP pRX q oYT pX p pP pRX q mNZIT pX p pP pEX q qP oAT pX p pP oUOX q oOX pP",
    "oEX p oUX p pP pRX q oYT pX p pP pRX q mSIT oX o oP oEX p pP nAT oX o oP nUOX p pP nOT oX o",
    "oP nEX o oP nUT oX o oP oRX p nYT oX o oP oRX p nSIT pX p pP pEX q qP oAT pX p pP oOT pX p",
    "pP oEX p pP oUT pX p pP oYT pX p pP pRX q mZHAT pX p pP oUOX q qP oOT pX p pP oET pX p pP",
    "oUT pX p pP pRX q oYT pX p pP pRX q mCHAT pX p pP oUOT qX q qP oOT pX p pP oET pX p pP oUX",
    "p pP pRX q oYT pX p pP pRX q mRRAX p oUOX q oOT pX p pP oET pX p pP oUT pX p pP pRX q oYT",
    "pX p pP pRX q mNRAT pX p pP oOX p pP oET pX p pP oUT pX p pP pRX q oYT pX p pP pRX q mSHAT",
    "pX p pP oUOX q qP oOT pX p pP oET pX p pP oUT pX p pP pRX q oYT pX p pP pRX q mRAT oX o oP",
    "nUOX p pP nOT oX o oP nEX o oP nUT oX o oP oRX p nYT oX o oP oRX p mJIT oX o oP oET pX p pP",
    "nUOT pX p pP nOT oX o oP nUT oX o oP oRX p nYT oX o oP oRX p mQIT oX o oP oET pX p pP nUOT",
    "pX p pP nOT oX o oP nUT oX o oP oRX p nYT oX o oP oRX p mJJIT pX p pP pET qX q qP oUOX q qP",
    "oOT pX p pP oUT pX p pP pRX q oYT pX p pP mNJIT pX p pP pET qX q qP oUOX q oOT pX p pP oUX",
    "p pP pRX q oYT pX p pP pRX q nYIT pX p pP pET qX q qP oUOX q qP oOT pX p pP oUT pX p pP",
    "mXIT oX o oP oET pX p pP nUOX p nOT oX o oP nYT oX o oP oRX p mYIT oX o oP oET pX p pP nUOT",
    "pX p pP nOT oX o oP nUT oX o oP oRX p nYT oX o oP oRX p"]), (0xA490, ["aYI_RADICAL_QOT lLI",
    "lKIT lNYIP lCYP lSSI lGGOP mEP lMI lHXIT lLYR lBBUT lMOP lYO lPUT lHXUO lTAT lGA lZUP lCYT",
    "lDDUR lBUR lGGUO lNYOP lTU lOP lJJUT lZOT lPYT lHMO lYIT lVUR lSHY lVEP lZA lJO lNZUP lJJY",
    "lGOT lJJIE lWO lDU lSHUR lLIE lCY mUOP mIP lHXOP lSHAT lZUR lSHOP lCHE lZZIET lNBIE lKE"]),
  (0xA4D0, ["aLISU_LETTER_BA mPA nHA mDA mTA nHA mGA mKA nHA mJA mCA nHA mDZA mTSA oHA mMA mNA",
    "mLA mSA mZHA nA mNGA mHA mXA mHHA mFA mWA mSHA mYA mGHA mA nE mE nU mI mO mU nE nH mOE",
    "mTONE_MYA_TI rNA_PO rMYA_CYA vBO vNA vJEU fPUNCTUATION_COMMA rFULL_STOP aVAI_SYLLABLE_EE pN",
    "nHEE nWEE qN nPEE nBHEE oEE nMBEE nKPEE nMGBEE nGBEE nFEE nVEE nTEE oHEE nDHEE pHEE nLEE",
    "nREE nDEE nNDEE nSEE oHEE nZEE oHEE nCEE nJEE nNJEE nYEE nKEE nNGGEE nGEE nMEE nNEE oYEE nI",
    "oN nHI pN nWI pN nPI nBHI oI nMBI nKPI nMGBI nGBI nFI nVI nTI oHI nDHI pHI nLI nRI nDI nNDI",
    "nSI oHI nZI oHI nCI nJI nNJI nYI nKI nNGGI nGI nMI nNI oYI nA oN nNGAN nHA pN nWA pN nPA",
    "nBHA oA nMBA nKPA qN nMGBA nGBA nFA nVA nTA oHA nDHA pHA nLA nRA nDA nNDA nSA oHA nZA oHA",
    "nCA nJA nNJA nYA nKA pN nNGGA nGA nMA nNA oYA nOO pN nHOO nWOO qN nPOO nBHOO oOO nMBOO",
    "nKPOO nMGBOO nGBOO nFOO nVOO nTOO oHOO nDHOO pHOO nLOO nROO nDOO nNDOO nSOO oHOO nZOO oHOO",
    "nCOO nJOO nNJOO nYOO nKOO nNGGOO nGOO nMOO nNOO oYOO nU oN nHU pN nWU pN nPU nBHU oU nMBU",
    "nKPU nMGBU nGBU nFU nVU nTU oHU nDHU pHU nLU nRU nDU nNDU nSU oHU nZU oHU nCU nJU nNJU nYU",
    "nKU nNGGU nGU nMU nNU oYU nO oN nNGON nHO pN nWO pN nPO nBHO oO nMBO nKPO nMGBO nGBO qN nFO",
    "nVO nTO oHO nDHO pHO nLO nRO nDO nNDO nSO oHO nZO oHO nCO nJO nNJO nYO nKO nNGGO nGO nMO",
    "nNO oYO nE oN nNGEN nHE pN nWE pN nPE nBHE oE nMBE nKPE qN nMGBE nGBE qN nFE nVE nTE oHE",
    "nDHE pHE nLE nRE nDE nNDE nSE oHE nZE oHE nCE nJE nNJE nYE nKE nNGGE rN nGE pN nME nNE oYE",
    "oG nLENGTHENER eCOMMA eFULL_STOP eQUESTION_MARK eSYLLABLE_NDOLE_FA tKA tSOO gMBOL_FEENG",
    "lKEENG lTING lNII lBANG lFAA lTAA lDANG mOONG lKUNG lTONG lDO-O lJONG eDIGIT_ZERO kONE kTWO",
    "lHREE kFOUR lIVE kSIX lEVEN kEIGHT kNINE eSYLLABLE_NDOLE_MA tDO"]),
  (0xA640, ["aCYRILLIC_CAPITAL_LETTER_ZEMLYA jSMALL_LETTER_ZEMLYA jCAPITAL_LETTER_DZELO",
    "jSMALL_LETTER_DZELO jCAPITAL_LETTER_REVERSED_DZE jSMALL_LETTER_REVERSED_DZE",
    "jCAPITAL_LETTER_IOTA jSMALL_LETTER_IOTA jCAPITAL_LETTER_DJERV jSMALL_LETTER_DJERV",
    "jCAPITAL_LETTER_MONOGRAPH_UK jSMALL_LETTER_MONOGRAPH_UK jCAPITAL_LETTER_BROAD_OMEGA",
    "jSMALL_LETTER_BROAD_OMEGA jCAPITAL_LETTER_NEUTRAL_YER jSMALL_LETTER_NEUTRAL_YER",
    "jCAPITAL_LETTER_YERU_WITH_BACK_YER jSMALL_LETTER_YERU_WITH_BACK_YER",
    "jCAPITAL_LETTER_IOTIFIED_YAT jSMALL_LETTER_IOTIFIED_YAT jCAPITAL_LETTER_REVERSED_YU",
    "jSMALL_LETTER_REVERSED_YU jCAPITAL_LETTER_IOTIFIED_A jSMALL_LETTER_IOTIFIED_A",
    "jCAPITAL_LETTER_CLOSED_LITTLE_YUS jSMALL_LETTER_CLOSED_LITTLE_YUS",
    "jCAPITAL_LETTER_BLENDED_YUS jSMALL_LETTER_BLENDED_YUS",
    "jCAPITAL_LETTER_IOTIFIED_CLOSED_LITTLE_YUS jSMALL_LETTER_IOTIFIED_CLOSED_LITTLE_YUS",
    "jCAPITAL_LETTER_YN jSMALL_LETTER_YN jCAPITAL_LETTER_REVERSED_TSE jSMALL_LETTER_REVERSED_TSE",
    "jCAPITAL_LETTER_SOFT_DE jSMALL_LETTER_SOFT_DE jCAPITAL_LETTER_SOFT_EL jSMALL_LETTER_SOFT_EL",
    "jCAPITAL_LETTER_SOFT_EM jSMALL_LETTER_SOFT_EM jCAPITAL_LETTER_MONOCULAR_O",
    "jSMALL_LETTER_MONOCULAR_O jCAPITAL_LETTER_BINOCULAR_O jSMALL_LETTER_BINOCULAR_O",
    "jCAPITAL_LETTER_DOUBLE_MONOCULAR_O jSMALL_LETTER_DOUBLE_MONOCULAR_O jLETTER_MULTIOCULAR_O",
    "bOMBINING_CYRILLIC_VZMET tTEN_MILLIONS_SIGN tHUNDRED_MILLIONS_SIGN tTHOUSAND_MILLIONS_SIGN",
    "aSLAVONIC_ASTERISK aCOMBINING_CYRILLIC_LETTER_UKRAINIAN_IE baI baYI baU baHARD_SIGN baYERU",
    "baSOFT_SIGN baOMEGA tKAVYKA tPAYEROK bYRILLIC_KAVYKA jPAYEROK jCAPITAL_LETTER_DWE",
    "jSMALL_LETTER_DWE jCAPITAL_LETTER_DZWE jSMALL_LETTER_DZWE jCAPITAL_LETTER_ZHWE",
    "jSMALL_LETTER_ZHWE jCAPITAL_LETTER_CCHE jSMALL_LETTER_CCHE jCAPITAL_LETTER_DZZE",
    "jSMALL_LETTER_DZZE jCAPITAL_LETTER_TE_WITH_MIDDLE_HOOK jSMALL_LETTER_TE_WITH_MIDDLE_HOOK",
    "jCAPITAL_LETTER_TWE jSMALL_LETTER_TWE jCAPITAL_LETTER_TSWE jSMALL_LETTER_TSWE",
    "jCAPITAL_LETTER_TSSE jSMALL_LETTER_TSSE jCAPITAL_LETTER_TCHE jSMALL_LETTER_TCHE",
    "jCAPITAL_LETTER_HWE jSMALL_LETTER_HWE jCAPITAL_LETTER_SHWE jSMALL_LETTER_SHWE",
    "jCAPITAL_LETTER_DOUBLE_O jSMALL_LETTER_DOUBLE_O jCAPITAL_LETTER_CROSSED_O",
    "jSMALL_LETTER_CROSSED_O aMODIFIER_LETTER_CYRILLIC_HARD_SIGN zSOFT_SIGN",
    "aCOMBINING_CYRILLIC_LETTER_EF baIOTIFIED_E aBAMUM_LETTER_A nKA nU nKU nEE nREE nTAE nO nNYI",
    "nI nLA nPA nRII pEE nLEEEE nMEEEE nTAA nNDAA oJAEM nM nSUU nMU nSHII oI oHEUX oEUX nKYEE",
    "oET nNUAE p oJUAE nYOQ nSHU nYUQ oA nNSHA nKEUX nPEUX nNJEE oTEE nPUE nWUE nPEE nFEE nRU",
    "nLU nMI nNI nREUX oAE nKEN nNGKWAEN pGA pA nSHO nPUAE nFU oOM nWA nNA nLI nPI nLOQ nKO",
    "nMBEN nREN nMEN oA nTI nKI nMO oBAA nTET nKPA nTEN nNTUU nSAMBA nFAAMAE nKOVUU pGHOM",
    "gCOMBINING_MARK_KOQNDON vTUKWENTIS gNJAEMLI gFULL_STOP gCOLON iMMA gSEMICOLON",
    "gQUESTION_MARK"]), (0xA700, ["aMODIFIER_LETTER_CHINESE_TONE_YIN_PING beANG_PING beIN_SHANG",
    "beANG_SHANG beIN_QU beANG_QU beIN_RU beANG_RU qEXTRA-HIGH_DOTTED_TONE_BAR",
    "qHIGH_DOTTED_TONE_BAR qMID_DOTTED_TONE_BAR qLOW_DOTTED_TONE_BAR qEXTRA-LOW_DOTTED_TONE_BAR",
    "wHIGH_DOTTED_LEFT-STEM_TONE_BAR qHIGH_DOTTED_LEFT-STEM_TONE_BAR",
    "qMID_DOTTED_LEFT-STEM_TONE_BAR qLOW_DOTTED_LEFT-STEM_TONE_BAR",
    "qEXTRA-LOW_DOTTED_LEFT-STEM_TONE_BAR wHIGH_LEFT-STEM_TONE_BAR qHIGH_LEFT-STEM_TONE_BAR",
    "qMID_LEFT-STEM_TONE_BAR qLOW_LEFT-STEM_TONE_BAR qEXTRA-LOW_LEFT-STEM_TONE_BAR",
    "qDOT_VERTICAL_BAR uSLASH uHORIZONTAL_BAR qLOWER_RIGHT_CORNER_ANGLE qRAISED_UP_ARROW",
    "xDOWN_ARROW xEXCLAMATION_MARK xINVERTED_EXCLAMATION_MARK qLOW_INVERTED_EXCLAMATION_MARK",
    "qSTRESS_AND_HIGH_TONE bbLOW_TONE aLATIN_CAPITAL_LETTER_EGYPTOLOGICAL_ALEF",
    "gSMALL_LETTER_EGYPTOLOGICAL_ALEF gCAPITAL_LETTER_EGYPTOLOGICAL_AIN",
    "gSMALL_LETTER_EGYPTOLOGICAL_AIN gCAPITAL_LETTER_HENG gSMALL_LETTER_HENG gCAPITAL_LETTER_TZ",
    "gSMALL_LETTER_TZ gCAPITAL_LETTER_TRESILLO gSMALL_LETTER_TRESILLO gCAPITAL_LETTER_CUATRILLO",
    "gSMALL_LETTER_CUATRILLO gCAPITAL_LETTER_CUATRILLO_WITH_COMMA",
    "gSMALL_LETTER_CUATRILLO_WITH_COMMA gLETTER_SMALL_CAPITAL_F bbS gCAPITAL_LETTER_AA",
    "gSMALL_LETTER_AA gCAPITAL_LETTER_AO gSMALL_LETTER_AO gCAPITAL_LETTER_AU gSMALL_LETTER_AU",
    "gCAPITAL_LETTER_AV gSMALL_LETTER_AV gCAPITAL_LETTER_AV_WITH_HORIZONTAL_BAR",
    "gSMALL_LETTER_AV_WITH_HORIZONTAL_BAR gCAPITAL_LETTER_AY gSMALL_LETTER_AY",
    "gCAPITAL_LETTER_REVERSED_C_WITH_DOT gSMALL_LETTER_REVERSED_C_WITH_DOT",
    "gCAPITAL_LETTER_K_WITH_STROKE gSMALL_LETTER_K_WITH_STROKE",
    "gCAPITAL_LETTER_K_WITH_DIAGONAL_STROKE gSMALL_LETTER_K_WITH_DIAGONAL_STROKE",
    "gCAPITAL_LETTER_K_WITH_STROKE_AND_DIAGONAL_STROKE",
    "gSMALL_LETTER_K_WITH_STROKE_AND_DIAGONAL_STROKE gCAPITAL_LETTER_BROKEN_L",
    "gSMALL_LETTER_BROKEN_L gCAPITAL_LETTER_L_WITH_HIGH_STROKE gSMALL_LETTER_L_WITH_HIGH_STROKE",
    "gCAPITAL_LETTER_O_WITH_LONG_STROKE_OVERLAY gSMALL_LETTER_O_WITH_LONG_STROKE_OVERLAY",
    "gCAPITAL_LETTER_O_WITH_LOOP gSMALL_LETTER_O_WITH_LOOP gCAPITAL_LETTER_OO gSMALL_LETTER_OO",
    "gCAPITAL_LETTER_P_WITH_STROKE_THROUGH_DESCENDER",
    "gSMALL_LETTER_P_WITH_STROKE_THROUGH_DESCENDER gCAPITAL_LETTER_P_WITH_FLOURISH",
    "gSMALL_LETTER_P_WITH_FLOURISH gCAPITAL_LETTER_P_WITH_SQUIRREL_TAIL",
    "gSMALL_LETTER_P_WITH_SQUIRREL_TAIL gCAPITAL_LETTER_Q_WITH_STROKE_THROUGH_DESCENDER",
    "gSMALL_LETTER_Q_WITH_STROKE_THROUGH_DESCENDER gCAPITAL_LETTER_Q_WITH_DIAGONAL_STROKE",
    "gSMALL_LETTER_Q_WITH_DIAGONAL_STROKE gCAPITAL_LETTER_R_ROTUNDA gSMALL_LETTER_R_ROTUNDA",
    "gCAPITAL_LETTER_RUM_ROTUNDA gSMALL_LETTER_RUM_ROTUNDA",
    "gCAPITAL_LETTER_V_WITH_DIAGONAL_STROKE gSMALL_LETTER_V_WITH_DIAGONAL_STROKE",
    "gCAPITAL_LETTER_VY gSMALL_LETTER_VY gCAPITAL_LETTER_VISIGOTHIC_Z gSMALL_LETTER_VISIGOTHIC_Z",
    "gCAPITAL_LETTER_THORN_WITH_STROKE gSMALL_LETTER_THORN_WITH_STROKE",
    "gCAPITAL_LETTER_THORN_WITH_STROKE_THROUGH_DESCENDER",
    "gSMALL_LETTER_THORN_WITH_STROKE_THROUGH_DESCENDER gCAPITAL_LETTER_VEND gSMALL_LETTER_VEND",
    "gCAPITAL_LETTER_ET gSMALL_LETTER_ET gCAPITAL_LETTER_IS gSMALL_LETTER_IS gCAPITAL_LETTER_CON",
    "gSMALL_LETTER_CON aMODIFIER_LETTER_US aLATIN_SMALL_LETTER_DUM tLUM tMUM tNUM tRUM",
    "gLETTER_SMALL_CAPITAL_RUM gSMALL_LETTER_TUM tUM gCAPITAL_LETTER_INSULAR_D",
    "gSMALL_LETTER_INSULAR_D gCAPITAL_LETTER_INSULAR_F gSMALL_LETTER_INSULAR_F",
    "gCAPITAL_LETTER_INSULAR_G vTURNED_INSULAR_G gSMALL_LETTER_TURNED_INSULAR_G",
    "gCAPITAL_LETTER_TURNED_L gSMALL_LETTER_TURNED_L gCAPITAL_LETTER_INSULAR_R",
    "gSMALL_LETTER_INSULAR_R gCAPITAL_LETTER_INSULAR_S gSMALL_LETTER_INSULAR_S",
    "gCAPITAL_LETTER_INSULAR_T gSMALL_LETTER_INSULAR_T aMODIFIER_LETTER_LOW_CIRCUMFLEX_ACCENT",
    "qCOLON qSHORT_EQUALS_SIGN aLATIN_CAPITAL_LETTER_SALTILLO gSMALL_LETTER_SALTILLO",
    "gCAPITAL_LETTER_TURNED_H gSMALL_LETTER_L_WITH_RETROFLEX_HOOK_AND_BELT",
    "gLETTER_SINOLOGICAL_DOT gCAPITAL_LETTER_N_WITH_DESCENDER gSMALL_LETTER_N_WITH_DESCENDER",
    "gCAPITAL_LETTER_C_WITH_BAR gSMALL_LETTER_C_WITH_BAR baPALATAL_HOOK tH_WITH_PALATAL_HOOK",
    "gCAPITAL_LETTER_B_WITH_FLOURISH gSMALL_LETTER_B_WITH_FLOURISH gCAPITAL_LETTER_F_WITH_STROKE",
    "gSMALL_LETTER_F_WITH_STROKE gCAPITAL_LETTER_VOLAPUK_AE gSMALL_LETTER_VOLAPUK_AE",
    "gCAPITAL_LETTER_VOLAPUK_OE gSMALL_LETTER_VOLAPUK_OE gCAPITAL_LETTER_VOLAPUK_UE",
    "gSMALL_LETTER_VOLAPUK_UE gCAPITAL_LETTER_G_WITH_OBLIQUE_STROKE",
    "gSMALL_LETTER_G_WITH_OBLIQUE_STROKE gCAPITAL_LETTER_K_WITH_OBLIQUE_STROKE",
    "gSMALL_LETTER_K_WITH_OBLIQUE_STROKE gCAPITAL_LETTER_N_WITH_OBLIQUE_STROKE",
    "gSMALL_LETTER_N_WITH_OBLIQUE_STROKE gCAPITAL_LETTER_R_WITH_OBLIQUE_STROKE",
    "gSMALL_LETTER_R_WITH_OBLIQUE_STROKE gCAPITAL_LETTER_S_WITH_OBLIQUE_STROKE",
    "gSMALL_LETTER_S_WITH_OBLIQUE_STROKE gCAPITAL_LETTER_H_WITH_HOOK vREVERSED_OPEN_E vSCRIPT_G",
    "vL_WITH_BELT vSMALL_CAPITAL_I gLETTER_SMALL_CAPITAL_Q gCAPITAL_LETTER_TURNED_K bcT",
    "vJ_WITH_CROSSED-TAIL vCHI vBETA gSMALL_LETTER_BETA gCAPITAL_LETTER_OMEGA",
    "gSMALL_LETTER_OMEGA gCAPITAL_LETTER_U_WITH_STROKE gSMALL_LETTER_U_WITH_STROKE",
    "gCAPITAL_LETTER_GLOTTAL_A gSMALL_LETTER_GLOTTAL_A gCAPITAL_LETTER_GLOTTAL_I",
    "gSMALL_LETTER_GLOTTAL_I gCAPITAL_LETTER_GLOTTAL_U gSMALL_LETTER_GLOTTAL_U",
    "gCAPITAL_LETTER_OLD_POLISH_O gSMALL_LETTER_OLD_POLISH_O gCAPITAL_LETTER_ANGLICANA_W",
    "gSMALL_LETTER_ANGLICANA_W gCAPITAL_LETTER_C_WITH_PALATAL_HOOK vS_WITH_HOOK",
    "vZ_WITH_PALATAL_HOOK vD_WITH_SHORT_STROKE_OVERLAY gSMALL_LETTER_D_WITH_SHORT_STROKE_OVERLAY",
    "gCAPITAL_LETTER_S_WITH_SHORT_STROKE_OVERLAY gSMALL_LETTER_S_WITH_SHORT_STROKE_OVERLAY"]),
  (0xA7D0, ["aLATIN_CAPITAL_LETTER_CLOSED_INSULAR_G gSMALL_LETTER_CLOSED_INSULAR_G"]),
  (0xA7D3, ["aLATIN_SMALL_LETTER_DOUBLE_THORN"]), (0xA7D5, ["aLATIN_SMALL_LETTER_DOUBLE_WYNN",
    "gCAPITAL_LETTER_MIDDLE_SCOTS_S gSMALL_LETTER_MIDDLE_SCOTS_S gCAPITAL_LETTER_SIGMOID_S",
    "gSMALL_LETTER_SIGMOID_S"]), (0xA7F2, ["aMODIFIER_LETTER_CAPITAL_C yF yQ",
    "aLATIN_CAPITAL_LETTER_REVERSED_HALF_H gSMALL_LETTER_REVERSED_HALF_H",
    "gEPIGRAPHIC_LETTER_SIDEWAYS_I aMODIFIER_LETTER_CAPITAL_H_WITH_STROKE qSMALL_LIGATURE_OE",
    "aLATIN_LETTER_SMALL_CAPITAL_TURNED_M gEPIGRAPHIC_LETTER_REVERSED_F bhP yINVERTED_M z_LONGA",
    "yARCHAIC_M aSYLOTI_NAGRI_LETTER_A uI nSIGN_DVISVARA nLETTER_U uE uO nSIGN_HASANTA",
    "nLETTER_KO vHO uGO vHO nSIGN_ANUSVARA nLETTER_CO vHO uJO vHO uTTO wHO uDDO wHO uTO vHO uDO",
    "vHO uNO uPO vHO uBO vHO uMO uRO uLO uRRO uSO uHO nVOWEL_SIGN_A yI yU yE yOO nPOETRY_MARK-1",
    "z2 z3 z4 nSIGN_ALTERNATE_HASANTA"]), (0xA830, ["aNORTH_INDIC_FRACTION_ONE_QUARTER zHALF",
    "vTHREE_QUARTERS vONE_SIXTEENTH zEIGHTH vTHREE_SIXTEENTHS mQUARTER_MARK mPLACEHOLDER_MARK",
    "mRUPEE_MARK mQUANTITY_MARK"]), (0xA840, ["aPHAGS-PA_LETTER_KA rHA qGA qNGA qCA rHA qJA qNYA",
    "qTA rHA qDA qNA qPA rHA qBA qMA qTSA sHA qDZA qWA qZHA rA qSMALL_A qYA qRA qLA qSHA rA qHA",
    "qA qI qU qE qO qQA qXA qFA qGGA qEE jSUBJOINED_LETTER_WA baYA jLETTER_TTA sHA qDDA qNNA",
    "qALTERNATE_YA qVOICELESS_SHA vD_HA qASPIRATED_FA jSUBJOINED_LETTER_RA lPERFIXED_LETTER_RA",
    "jLETTER_CANDRABINDU jSINGLE_HEAD_MARK jDOUBLE_HEAD_MARK jMARK_SHAD oDOUBLE_SHAD"]),
  (0xA880, ["aSAURASHTRA_SIGN_ANUSVARA qVISARGA lLETTER_A tA sI tI sU tU sVOCALIC_R bbR baL bbL",
    "sE tE sAI sO tO sAU sKA tHA sGA tHA sNGA sCA tHA sJA tHA sNYA sTTA uHA sDDA uHA sNNA sTA",
    "tHA sDA tHA sNA sPA tHA sBA tHA sMA sYA sRA sLA sVA sSHA tSA tA sHA sLLA",
    "lCONSONANT_SIGN_HAARU lVOWEL_SIGN_AA wI xI wU xU wVOCALIC_R bfR beL bfL wE xE wAI wO xO wAU",
    "lSIGN_VIRAMA qCANDRABINDU"]), (0xA8CE, ["aSAURASHTRA_DANDA mOUBLE_DANDA mIGIT_ZERO rONE",
    "rTWO sHREE rFOUR sIVE rSIX sEVEN rEIGHT rNINE"]), (0xA8E0, [
    "aCOMBINING_DEVANAGARI_DIGIT_ZERO bbONE bbTWO bcHREE bbFOUR bcIVE bbSIX bcEVEN bbEIGHT",
    "bbNINE vLETTER_A bcU bcKA bcNA bcPA bcRA bcVI vSIGN_AVAGRAHA",
    "aDEVANAGARI_SIGN_SPACING_CANDRABINDU qCANDRABINDU_VIRAMA qDOUBLE_CANDRABINDU_VIRAMA",
    "qCANDRABINDU_TWO bdHREE bcAVAGRAHA qPUSHPIKA lGAP_FILLER lCARET lHEADSTROKE lSIGN_SIDDHAM",
    "lJAIN_OM lLETTER_AY lVOWEL_SIGN_AY aKAYAH_LI_DIGIT_ZERO pONE pTWO qHREE pFOUR qIVE pSIX",
    "qEVEN pEIGHT pNINE jLETTER_KA rHA qGA qNGA qSA rHA qZA qNYA qTA qHTA qNA qPA rHA qMA qDA",
    "qBA qRA qYA qLA qWA qTHA qHA qVA qCA qA qOE qI qOO jVOWEL_UE pE pU pEE pO jTONE_PLOPHU",
    "oCALYA t_PLOPHU jSIGN_CWI oSHYA aREJANG_LETTER_KA oGA oNGA oTA oDA oNA oPA oBA oMA oCA oJA",
    "oNYA oSA oRA oLA oYA oWA oHA oMBA oNGGA pDA pYJA oA hVOWEL_SIGN_I sU sE sAI sO sAU sEU tA",
    "hCONSONANT_SIGN_NG x wR wH hVIRAMA"]), (0xA95F, ["aREJANG_SECTION_MARK",
    "aHANGUL_CHOSEONG_TIKEUT-MIEUM xPIEUP xSIOS xCIEUC qRIEUL-KIYEOK wSSANGKIYEOK wTIKEUT",
    "wSSANGTIKEUT wMIEUM wPIEUP wSSANGPIEUP wKAPYEOUNPIEUP wSIOS wCIEUC wKHIEUKH qMIEUM-KIYEOK",
    "wTIKEUT wSIOS qPIEUP-SIOS-THIEUTH wKHIEUKH wHIEUH qSSANGSIOS-PIEUP qIEUNG-RIEUL wHIEUH",
    "qSSANGCIEUC-HIEUH vTHIEUTH qPHIEUPH-HIEUH qHIEUH-SIOS qSSANGYEORINHIEUH"]),
  (0xA980, ["aJAVANESE_SIGN_PANYANGGA oCECAK oLAYAR oWIGNYAN jLETTER_A qI_KAWI r rI qU qPA_CEREK",
    "qNGA_LELET z_RASWADI qE qAI qO qKA s_SASAK tMURDA qGA s_MURDA qNGA qCA s_MURDA qJA",
    "qNYA_MURDA qJA_MAHAPRANA qNYA qTTA t_MAHAPRANA qDDA t_MAHAPRANA qNA_MURDA qTA s_MURDA qDA",
    "s_MAHAPRANA qNA qPA s_MURDA qBA s_MURDA qMA qYA qRA s_AGUNG qLA qWA qSA_MURDA uAHAPRANA s",
    "qHA jSIGN_CECAK_TELU jVOWEL_SIGN_TARUNG vOLONG uWULU y_MELIK uSUKU y_MENDUT uTALING",
    "uDIRGA_MURE uPEPET jCONSONANT_SIGN_KERET yPENGKAL yCAKRA jPANGKON jLEFT_RERENGGAN",
    "jRIGHT_RERENGGAN jPADA_ANDAP oMADYA oLUHUR oWINDU oPANGKAT oLINGSA pUNGSI oADEG s_ADEG",
    "oPISELEH jTURNED_PADA_PISELEH"]), (0xA9CF, ["aJAVANESE_PANGRANGKEP jDIGIT_ZERO pONE pTWO",
    "qHREE pFOUR qIVE pSIX qEVEN pEIGHT pNINE"]), (0xA9DE, ["aJAVANESE_PADA_TIRTA_TUMETES",
    "oISEN-ISEN aMYANMAR_LETTER_SHAN_GHA uCHA uJHA uNNA uBHA iSIGN_SHAN_SAW",
    "iMODIFIER_LETTER_SHAN_REDUPLICATION iLETTER_TAI_LAING_NYA zFA zGA baHA zJA baHA zDDA bbHA",
    "zNNA iTAI_LAING_DIGIT_ZERO yONE yTWO zHREE yFOUR zIVE ySIX zEVEN yEIGHT yNINE",
    "iLETTER_TAI_LAING_LLA zDA baHA zBA baHA"]), (0xAA00, ["aCHAM_LETTER_A mI mU mE mAI mO mKA",
    "nHA mGA nHA mNGUE oA mCHA oHA mJA nHA mNHUE oA oJA mTA nHA mDA nHA mNUE nA mDDA mPA nPA nHA",
    "mBA nHA mMUE nA mBBA mYA mRA mLA mVA mSSA nA mHA fVOWEL_SIGN_AA qI rI qEI qU qOE r qAI rU",
    "qUE fCONSONANT_SIGN_YA uRA uLA uWA"]), (0xAA40, ["aCHAM_LETTER_FINAL_K sG sNG",
    "fCONSONANT_SIGN_FINAL_NG fLETTER_FINAL_CH sT sN sP sY sR sL sSS fCONSONANT_SIGN_FINAL_M baH"]),
  (0xAA50, ["aCHAM_DIGIT_ZERO lONE lTWO mHREE lFOUR mIVE lSIX mEVEN lEIGHT lNINE"]),
  (0xAA5C, ["aCHAM_PUNCTUATION_SPIRAL rDANDA sOUBLE_DANDA rTRIPLE_DANDA",
    "aMYANMAR_LETTER_KHAMTI_GA wCA xHA wJA xHA wNYA wTTA yHA wDDA yHA xHA wNA wSA wHA xHA wFA",
    "iMODIFIER_LETTER_KHAMTI_REDUPLICATION iLETTER_KHAMTI_XA wZA wRA jOGOGRAM_KHAMTI_OAY yQN yHM",
    "iSYMBOL_AITON_EXCLAMATION vONE vTWO iLETTER_AITON_RA iSIGN_PAO_KAREN_TONE nTAI_LAING_TONE-2",
    "bc5 iLETTER_SHWE_PALAUNG_CHA bcSHA aTAI_VIET_LETTER_LOW_KO qHIGH_KO qLOW_KHO qHIGH_KHO",
    "qLOW_KHHO qHIGH_KHHO qLOW_GO qHIGH_GO qLOW_NGO qHIGH_NGO qLOW_CO qHIGH_CO qLOW_CHO",
    "qHIGH_CHO qLOW_SO qHIGH_SO qLOW_NYO qHIGH_NYO qLOW_DO qHIGH_DO qLOW_TO qHIGH_TO qLOW_THO",
    "qHIGH_THO qLOW_NO qHIGH_NO qLOW_BO qHIGH_BO qLOW_PO qHIGH_PO qLOW_PHO qHIGH_PHO qLOW_FO",
    "qHIGH_FO qLOW_MO qHIGH_MO qLOW_YO qHIGH_YO qLOW_RO qHIGH_RO qLOW_LO qHIGH_LO qLOW_VO",
    "qHIGH_VO qLOW_HO qHIGH_HO qLOW_O qHIGH_O jMAI_KANG jVOWEL_AA pI pUE q pE pO jMAI_KHIT",
    "jVOWEL_IA pUEA qA pAUE qY qN qM jTONE_MAI_EK sNUENG sTHO sSONG"]),
  (0xAADB, ["aTAI_VIET_SYMBOL_KON qNUENG qSAM qHO_HOI qKOI_KOI aMEETEI_MAYEK_LETTER_E uO uCHA",
    "uNYA uTTA wHA uDDA wHA uNNA uSHA vSA nVOWEL_SIGN_II yUU yAAI zU zAU nCHEIKHAN nAHANG_KHUDAM",
    "oNJI nSYLLABLE_REPETITION_MARK nWORD_REPETITION_MARK nVOWEL_SIGN_VISARGA oIRAMA"]),
  (0xAB01, ["aETHIOPIC_SYLLABLE_TTHU vI vAA vEE w vO"]), (0xAB09, ["aETHIOPIC_SYLLABLE_DDHU vI",
    "vAA vEE w vO"]), (0xAB11, ["aETHIOPIC_SYLLABLE_DZU uI uAA uEE v uO"]),
  (0xAB20, ["aETHIOPIC_SYLLABLE_CCHHA wU wI wAA wEE x wO"]), (0xAB28, ["aETHIOPIC_SYLLABLE_BBA",
    "uU uI uAA uEE v uO"]), (0xAB30, ["aLATIN_SMALL_LETTER_BARRED_ALPHA tA_REVERSED-SCHWA",
    "tBLACKLETTER_E uARRED_E tE_WITH_FLOURISH tLENIS_F tSCRIPT_G_WITH_CROSSED-TAIL",
    "tL_WITH_INVERTED_LAZY_S baDOUBLE_MIDDLE_TILDE baMIDDLE_RING tM_WITH_CROSSED-TAIL",
    "tN_WITH_CROSSED-TAIL tENG_WITH_CROSSED-TAIL tBLACKLETTER_O bg_WITH_STROKE",
    "tOPEN_O_WITH_STROKE tINVERTED_OE tTURNED_OE_WITH_STROKE biHORIZONTAL_STROKE bb_OPEN-O",
    "bi_WITH_STROKE tSTIRRUP_R gLETTER_SMALL_CAPITAL_R_WITH_RIGHT_LEG",
    "gSMALL_LETTER_R_WITHOUT_HANDLE tDOUBLE_R tR_WITH_CROSSED-TAIL tDOUBLE_R_WITH_CROSSED-TAIL",
    "tSCRIPT_R bb_WITH_RING tBASELINE_ESH tU_WITH_SHORT_RIGHT_LEG vBAR_WITH_SHORT_RIGHT_LEG uI",
    "tTURNED_UI tU_WITH_LEFT_HOOK tCHI w_WITH_LOW_RIGHT_RING bgLEFT_SERIF tX_WITH_LOW_RIGHT_RING",
    "bcNG_LEFT_LEG bn_AND_LOW_RIGHT_RING boWITH_SERIF tY_WITH_SHORT_RIGHT_LEG",
    "aMODIFIER_BREVE_WITH_INVERTED_BREVE jLETTER_SMALL_HENG wL_WITH_INVERTED_LAZY_S",
    "bdMIDDLE_TILDE wU_WITH_LEFT_HOOK aLATIN_SMALL_LETTER_SAKHA_YAT tIOTIFIED_E tOPEN_OE tUO",
    "tINVERTED_ALPHA aGREEK_LETTER_SMALL_CAPITAL_OMEGA",
    "aLATIN_SMALL_LETTER_DZ_DIGRAPH_WITH_RETROFLEX_HOOK tTS_DIGRAPH_WITH_RETROFLEX_HOOK",
    "uURNED_R_WITH_MIDDLE_TILDE aMODIFIER_LETTER_SMALL_TURNED_W qLEFT_TACK qRIGHT_TACK"]),
  (0xAB70, ["aCHEROKEE_SMALL_LETTER_A wE wI wO wU wV wGA wKA wGE xI xO xU xV wHA xE xI xO xU xV",
    "wLA xE xI xO xU xV wMA xE xI xO xU wNA wHNA wNAH xE xI xO xU xV wQUA yE yI yO yU yV wSA x",
    "xE xI xO xU xV wDA wTA wDE wTE wDI wTI wDO xU xV xLA wTLA yE yI yO yU yV xSA yE yI yO yU yV",
    "wWA xE xI xO xU xV wYA aMEETEI_MAYEK_LETTER_KOK uSAM uLAI uMIT uPA uNA uCHIL uTIL uKHOU",
    "uNGOU uTHOU uWAI uYANG uHUK uUN uI uPHAM uATIYA uGOK uJHAM uRAI uBA uJIL uDIL uGHOU uDHOU",
    "uBHAM uKOK_LONSUM uLAI_LONSUM uMIT_LONSUM uPA_LONSUM uNA_LONSUM uTIL_LONSUM uNGOU_LONSUM",
    "uI_LONSUM nVOWEL_SIGN_ONAP yINAP yANAP yYENAP ySOUNAP yUNAP yCHEINAP yNUNG nCHEIKHEI",
    "nLUM_IYEK nAPUN_IYEK"]), (0xABF0, ["aMEETEI_MAYEK_DIGIT_ZERO tONE tTWO uHREE tFOUR uIVE",
    "tSIX uEVEN tEIGHT tNINE"])]

end TraceLens.CharacterName
