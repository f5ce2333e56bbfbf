/-!
# Names of characters from row 0x160 on

The names of the characters from row 0x160 to row 0x1CF, in runs without a gap: the first code
point, and the names in the form that `CharacterName` describes.
-/

namespace TraceLens.CharacterName

def row160 : List (Nat × List String) := [
  (0x16800, ["aBAMUM_LETTER_PHASE-A_NGKUE_MFON vGBIEE_FON vPON_MFON_PIPAEMGBIEE bkBA vNAA_MFON",
    "vSHUENSHUET vTITA_MFON vNZA_MFON vSHINDA_PA_NJI vPON_PA_NJI_PIPAEMGBIEE bmBA vMAEMBGBIEE",
    "vTU_MAEMBA vNGANGU vMAEMVEUX xNSUAE wVEUAENGAM vSEUNYAM vNTOQPEN vKEUKEUTNDA vNKINDI vSUU",
    "vNGKUENZEUM vLAPAQ wET_KUT vNTAP_MFAA vMAEKEUP vPASHAE vGHEUAERAE vPAMSHAE vMON_NGGEUAET",
    "vNZUN_MEUT vU_YUQ_NAE vGHEUAEGHEUAE vNTAP_NTAA vSISA vMGBASA wEUNJOMNDEUQ wOOMPUQ vKAFA",
    "vPA_LEERAEWA vNDA_LEERAEWA vPET vMAEMKPEN vNIKA vPUP vTUAEP vLUAEP vSONJAM vTEUTEUWEN",
    "vMAENYI vKET vNDAANGGEUAET vKUOQ vMOOMEUT vSHUM vLOMMAE vFIRI vROM vKPOQ vSOQ vMAP_PIEET",
    "vSHIRAE vNTAP vSHOQ_NSHUT_YUM vNYIT_MONGKEUAEQ vPAARAE vNKAARAE vUNKNOWN vNGGEN vMAESI",
    "vNJAM vMBANYI vNYET vTEUAEN vSOT vPAAM vNSHIEE vMAEM vNYI vKAQ vNSHA vVEE vLU vNEN wAQ",
    "vMBAQ tB_NSHUET vTU_MAEMGBIEE vSIEE wET_TU vLOM_NTEUM vMBA_MAELEE vKIEEM vYEURAE vMBAARAE",
    "vKAM vPEESHI vYAFU_LEERAEWA vLAM_NSHUT_NYAM vNTIEE_SHEUOQ wDU_NJAA vGHEUGHEUAEM vPIT",
    "vTU_NSIEE vSHET_NJAQ yUAEQTU vMFON_TEUAEQ wBIT_MBAAKET vNYI_NTEUM vKEUPUQ vGHEUGHEN",
    "vKEUYEUX vLAANAE vPARUM vVEUM vNGKINDI_MVOP xGEU_MBU vWUAET vSAKEUAE vTAAM vMEUQ vNGGUOQ",
    "bb_LARGE vMFIYAQ vSUE vMBEURI wONTIEEN vNYAEMAE vPUNGAAM vMEUT_NGGEET vFEUX vMBUOQ vFEE",
    "vKEUAEM vMA_NJEUAENA baUQA vLET vNGGAAM wSEN vMA vKIQ vNGOM tC_NGKUE_MAEMBA wZA vYUM",
    "vWANGKUOQ vNGGEN wDEUAEREE wGKAQ vGHARAE vMBEEKEET vGBAYI vNYIR_MKPARAQ_MEUN wTU_MBIT",
    "vMBEUM vPIRIEEN vNDOMBU vMBAA_CABBAGE-TREE vKEUSHEUAEP vGHAP vKEUKAQ vYU_MUOMAE vNZEUM",
    "vMBUE vNSEUAEN vMBIT vYEUQ vKPARAQ wAA vSEUX vNDIDA vTAASHAE vNJUEQ vTITA_YUE vSUAET",
    "vNGGUAEN_NYAM vVEUX vNANSANAQ vMA_KEUAERI vNTAA wGGUON vLAP vMBIRIEEN wGBASAQ vNTEUNGBA",
    "vTEUTEUX vNGGUM vFUE vNDEUT wSA xHAQ vBUNG vVEUAEPEN vMBERAE vRU vNJAEM vLAM vTITUAEP",
    "vNSUOT_NGOM wJEEEE vKET vNGGU vMAESI wBUAEM vLU vKUT vNJAM wGOM vWUP vNGGUEET wSOM wTEN",
    "vKUOP_NKAARAE vNSUN wDAM vMA_NSIEE vYAA vNDAP vSHUEQ wETFON vMBI wAEMBA wBANYI vKEUSEUX",
    "vMBEUX vKEUM vMBAA_PICKET vYUWOQ vNJEUX vMIEE wUAE vSHIQ vKEN_LAW zFATIGUE vNGAQ wAQ vLIQ",
    "vPIN wEN vTET tD_MBUO vWAP vNJI vMFON vNJIEE vLIEE vNJEUT wSHEE wGGAAMAE wYAM vWUAEN vNGKUN",
    "vSHEE vNGKAP vKEUAETMEUN vTEUT vSHEUAE vNJAP vSUE vKET vYAEMMAE vKUOM vSAP vMFEUT vNDEUX",
    "vMALEERI wEUT vSEUAEQ vYEN vNJEUAEM vKEUOT_MBUAE vNGKEURI vTU vGHAA vNGKYEE vFEUFEUAET",
    "vNDEE vMGBOFUM vLEUAEP vNDON vMONI wGBEUN vPUUT vMGBIEE wFO vLUM vNSIEEP vMBAA vKWAET vNYET",
    "vTEUAEN vSOT vYUWOQ vKEUM vRAEM vTEEEE vNGKEUAEQ vMFEUAE vNSIEET vKEUP vPIP wEUTAE vNYUE",
    "vLET vNGGAAM vMFIEE vNGGWAEN vYUOM vPAP vYUOP vNDAM wTEUM vSUAE vKUN vNGGEUX xKIEE vTUOT",
    "vMEUN vKUQ vNSUM vTEUN vMAENJET vNGGAP vLEUM vNGGUOM wSHUT wJUEQ vGHEUAE vKU vREN_OLD vTAE",
    "wOQ vNYI vRII vLEEEE vMEEEE w vSUU vMU vSHII xEUX vKYEE vNU vSHU vNTEE vPEE vNI vSHOQ vPUQ",
    "vMVOP vLOQ vREN_MUCH vTI vNTUU vMBAA_SEVEN vSAQ vFAA tE_NDAP vTOON vMBEUM vLAP vVOM vLOON",
    "vPAA vSOM vRAQ vNSHUOP wDUN vPUAE vTAM vNGKA vKPEUX vWUO vSEE vNGGEUAET vPAAM vTOO vKUOP",
    "vLOM vNSHIEE wGOP vMAEM vNGKEUX xOQ wSHUE vRIMGBA vNJEUX vPEEM vSAA vNGGURAE vMGBA vGHEUX",
    "vNGKEUAEM wJAEMLI vMAP vLOOT vNGGEEEE wDIQ vTAEN_NTEUM vSET vPUM vNDAA_SOFTNESS",
    "wGGUAESHAE_NYAM vYIEE vGHEUN vTUAE vYEUAE vPO vTUMAE vKEUAE vSUAEN vTEUAEQ vVEUAE vWEUX",
    "vLAAM vPU vTAAQ vGHAAMAE vNGEUREUT vSHEUAEQ vMGBEN wBEE vNZAQ wKOM vGBET vTUM vKUET vYAP",
    "vNYI_CLEAVER vYIT vMFEUQ vNDIAQ vPIEEQ vYUEQ vLEUAEM vFUE vGBEUX vNGKUP vKET vMAE vNGKAAMI",
    "vGHET vFA vNTUM vPEUT vYEUM vNGGEUAE wYI_BETWEEN wZUQ vPOON vMIEE vFUET vNAE vMUAE vGHEUAE",
    "vFU_I vMVI vPUAQ vNGKUM vKUT vPIET vNTAP vYEUAET vNGGUP vPA_PEOPLE vFU_CALL wOM vNJEE vA",
    "vTOQ vO vI vLAQ vPA_PLURAL vTAA xQ vNDAA_MY_HOUSE vSHIQ vYEUX vNGUAE vYUAEN wOQ_SWIMMING",
    "zCOVER wUQ xN vKEUX vPEUX vNJEE_EPOCH vPUE vWUE vFEE vVEE vLU vMI vREUX wAE vNGUAET xA vSHO",
    "yQ vFU_REMEDY vNA vPI vLOQ vKO vMEN wA xQ vTEU vKI vMON vTEN vFAQ vGHOM tF_KA vU vKU vEE",
    "vREE vTAE vNYI vLA vRII xEE vMEEEE vTAA vNDAA wJAEM vM vSUU wHII wI wEUX vKYEE wET vNUAE x",
    "wJUAE vYOQ vSHU vYA vNSHA vPEUX vNTEE vWUE vPEE vRU vNI vREUX vKEN vNGKWAEN xGA vSHO vPUAE",
    "vFOM vWA vLI wOQ vKO vMBEN vREN vMA wO wBAA vTET vKPA vSAMBA vVUEQ"]),
  (0x16A40, ["aMRO_LETTER_TA lNGI lYO lMIM lBA lDA lA lPHI lKHAI lHAO lDAI lCHU lKEAAE lOL lMAEM",
    "lNIN lPA lOO m lRO lSHI lTHEA lEA lWA lE lKO lLAN n lHAI lRI lTEK"]),
  (0x16A60, ["aMRO_DIGIT_ZERO kONE kTWO lHREE kFOUR lIVE kSIX lEVEN kEIGHT kNINE"]),
  (0x16A6E, ["aMRO_DANDA fOUBLE_DANDA aTANGSA_LETTER_OZ pC pQ pX oAZ pC pQ pX oVZ pC pQ pX oEZ",
    "pC pQ pX oIZ pC pQ pX oUZ pC pQ pX oAWZ qC qQ qX oUIZ qC qQ qX oFINAL_NG oLONG_UEX",
    "oSHORT_UEZ uAWX oUEC qZ qQ qX pIUZ rC rQ rX oMZ pC pQ pX oKA pHA oGA oNGA oSA oYA oWA oPA",
    "oNYA oPHA oBA oMA oNA oHA oLA oHTA oTA oDA oRA oNHA oSHA oCA oTSA oGHA oHTTA oTHA oXA oFA",
    "oDHA oCHA oZA"]), (0x16AC0, ["aTANGSA_DIGIT_ZERO nONE nTWO oHREE nFOUR oIVE nSIX oEVEN",
    "nEIGHT nNINE"]), (0x16AD0, ["aBASSA_VAH_LETTER_ENNI rKA rSE rFA rMBE rYIE rGAH rDHII rKPAH",
    "rJO rHWAH rWA rZO rGBU rDO rCE rUWU rTO rBA rVU rYEIN rPA rWADDA rA rO sO rU rEE s rI"]),
  (0x16AF0, ["aBASSA_VAH_COMBINING_HIGH_TONE uLOW_TONE uMID_TONE uLOW-MID_TONE uHIGH-LOW_TONE",
    "kFULL_STOP"]), (0x16B00, ["aPAHAWH_HMONG_VOWEL_KEEB wV uIB vV uAUB wV uUB vV uEB vV uAIB wV",
    "uOOB wV uAWB wV uUAB wV uOB vV uIAB wV uAB vV uWB vV uAAB wV nCONSONANT_VAU xNTSAU xLAU",
    "xHAU xNLAU xRAU xNKAU xQHAU xYAU xHLAU xMAU xCHAU xNCHAU xHNAU xPLHAU xNTHAU yAU xAU xXAU",
    "xCAU nMARK_CIM_TUB wSO wKES xHAV wSUAM wHOM wTAUM nSIGN_VOS_THOM xSHAB_CEEB sCIM_CHEEM",
    "sVOS_THIAB wFEEM sXYEEM_NTXIV yRHO yTOV yFAIB sVOS_SEEV sMEEJ_SUAB sVOS_NRUA sIB_YAM sXAUS",
    "sCIM_TSOV_ROG"]), (0x16B50, ["aPAHAWH_HMONG_DIGIT_ZERO tONE tTWO uHREE tFOUR uIVE tSIX",
    "uEVEN tEIGHT tNINE"]), (0x16B5B, ["aPAHAWH_HMONG_NUMBER_TENS uHUNDREDS uTEN_THOUSANDS",
    "uMILLIONS uHUNDRED_MILLIONS uTEN_BILLIONS vRILLIONS"]), (0x16B63, [
    "aPAHAWH_HMONG_SIGN_VOS_LUB sXYOO sHLI sTHIRD-STAGE_HLI sZWJ_THAJ sHNUB sNQIG sXIAB sNTUJ",
    "sAV sTXHEEJ_CEEV sMEEJ_TSEEB sTAU sLOS sMUS sCIM_HAIS_LUS_NTOG_NTOG wCUAM_TSHOOJ wTXWV",
    "ba_CHWV wPUB_DAWB wNRES_TOS"]), (0x16B7D, ["aPAHAWH_HMONG_CLAN_SIGN_TSHEEJ xYEEG xLIS yAUJ",
    "xXYOOJ xKOO xHAWJ xMUAS xTHOJ ySAB xPHAB xKHAB xHAM xVAJ xFAJ xYAJ xTSWB xKWM xVWJ"]),
  (0x16E40, ["aMEDEFAIDRIN_CAPITAL_LETTER_M bbS bbV bbW bbATIU bbZ bbKP bbP bbT bbG bbF bbI bbK",
    "bbA bbJ bbE bbB bbC bbU bbYU bbL bbQ bbHP bbNY bbX bbD bbOE bbN bbR bbO bbAI bbY",
    "mSMALL_LETTER_M zS zV zW zATIU zZ zKP zP zT zG zF zI zK zA zJ zE zB zC zU zYU zL zQ zHP zNY",
    "zX zD zOE zN zR zO zAI zY mDIGIT_ZERO sONE sTWO tHREE sFOUR tIVE sSIX tEVEN sEIGHT sNINE",
    "mNUMBER_TEN tELEVEN tTWELVE uHIRTEEN tFOURTEEN uIFTEEN tSIXTEEN uEVENTEEN tEIGHTEEN",
    "tNINETEEN mDIGIT_ONE_ALTERNATE_FORM sTWO_ALTERNATE_FORM tHREE_ALTERNATE_FORM mCOMMA",
    "mFULL_STOP mSYMBOL_AIVA mEXCLAMATION_OH"]), (0x16F00, ["aMIAO_LETTER_PA mBA mYI_PA mPLA mMA",
    "nHA mARCHAIC_MA mFA mVA nFA mTA mDA mYI_TTA qA mTTA mDDA mNA nHA mYI_NNA mARCHAIC_NA mNNA",
    "oHA mLA nYA nHA oYA mTLHA mDLHA mTLHYA mDLHYA mKA mGA mYI_KA mQA nGA mNGA oHA mARCHAIC_NGA",
    "mHA mXA mGHA oHA mTSSA mDZZA mNYA oHA mTSHA mDZHA mYI_TSHA pDZHA mREFORMED_TSHA mSHA nSA",
    "mZHA nSHA mTSA mDZA mYI_TSA mSA mZA nSA nZA oSA mARCHAIC_ZZA mZZYA oSYA mWA mAH mHHA mBRI",
    "mSYI mDZYI mTE nSE mRTE"]), (0x16F4F, ["aMIAO_SIGN_CONSONANT_MODIFIER_BAR",
    "fLETTER_NASALIZATION fSIGN_ASPIRATION kREFORMED_VOICING tASPIRATION fVOWEL_SIGN_A rA rHH rN",
    "sG qO rO qWO r qE rN sG qOEY qI rA sN tG rO rE rI rU rNG qU rA sN tG rU rEI rNG qY rI qAE",
    "sE qERR qROUNDED_ERR qER qROUNDED_ER qAI qEI qAU qOU qN rG qUOG qYUI qOG rER qVW qIG qEA",
    "qIONG qUI"]), (0x16F8F, ["aMIAO_TONE_RIGHT kTOP_RIGHT kABOVE kBELOW fLETTER_TONE-2 r3 r4 r5",
    "r6 r7 r8 mREFORMED_TONE-1 ba2 ba4 ba5 ba6 ba8"]), (0x16FE0, ["aTANGUT_ITERATION_MARK",
    "aNUSHU_ITERATION_MARK aOLD_CHINESE_HOOK_MARK mITERATION_MARK aKHITAN_SMALL_SCRIPT_FILLER"]),
  (0x16FF0, ["aVIETNAMESE_ALTERNATE_READING_MARK_CA biNHAY"]), (0x18800, ["aTANGUT_COMPONENT-001",
    "t2 t3 t4 t5 t6 t7 t8 t9 s10 t1 t2 t3 t4 t5 t6 t7 t8 t9 s20 t1 t2 t3 t4 t5 t6 t7 t8 t9 s30",
    "t1 t2 t3 t4 t5 t6 t7 t8 t9 s40 t1 t2 t3 t4 t5 t6 t7 t8 t9 s50 t1 t2 t3 t4 t5 t6 t7 t8 t9",
    "s60 t1 t2 t3 t4 t5 t6 t7 t8 t9 s70 t1 t2 t3 t4 t5 t6 t7 t8 t9 s80 t1 t2 t3 t4 t5 t6 t7 t8",
    "t9 s90 t1 t2 t3 t4 t5 t6 t7 t8 t9 r100 t1 t2 t3 t4 t5 t6 t7 t8 t9 s10 t1 t2 t3 t4 t5 t6 t7",
    "t8 t9 s20 t1 t2 t3 t4 t5 t6 t7 t8 t9 s30 t1 t2 t3 t4 t5 t6 t7 t8 t9 s40 t1 t2 t3 t4 t5 t6",
    "t7 t8 t9 s50 t1 t2 t3 t4 t5 t6 t7 t8 t9 s60 t1 t2 t3 t4 t5 t6 t7 t8 t9 s70 t1 t2 t3 t4 t5",
    "t6 t7 t8 t9 s80 t1 t2 t3 t4 t5 t6 t7 t8 t9 s90 t1 t2 t3 t4 t5 t6 t7 t8 t9 r200 t1 t2 t3 t4",
    "t5 t6 t7 t8 t9 s10 t1 t2 t3 t4 t5 t6 t7 t8 t9 s20 t1 t2 t3 t4 t5 t6 t7 t8 t9 s30 t1 t2 t3",
    "t4 t5 t6 t7 t8 t9 s40 t1 t2 t3 t4 t5 t6 t7 t8 t9 s50 t1 t2 t3 t4 t5 t6 t7 t8 t9 s60 t1 t2",
    "t3 t4 t5 t6 t7 t8 t9 s70 t1 t2 t3 t4 t5 t6 t7 t8 t9 s80 t1 t2 t3 t4 t5 t6 t7 t8 t9 s90 t1",
    "t2 t3 t4 t5 t6 t7 t8 t9 r300 t1 t2 t3 t4 t5 t6 t7 t8 t9 s10 t1 t2 t3 t4 t5 t6 t7 t8 t9 s20",
    "t1 t2 t3 t4 t5 t6 t7 t8 t9 s30 t1 t2 t3 t4 t5 t6 t7 t8 t9 s40 t1 t2 t3 t4 t5 t6 t7 t8 t9",
    "s50 t1 t2 t3 t4 t5 t6 t7 t8 t9 s60 t1 t2 t3 t4 t5 t6 t7 t8 t9 s70 t1 t2 t3 t4 t5 t6 t7 t8",
    "t9 s80 t1 t2 t3 t4 t5 t6 t7 t8 t9 s90 t1 t2 t3 t4 t5 t6 t7 t8 t9 r400 t1 t2 t3 t4 t5 t6 t7",
    "t8 t9 s10 t1 t2 t3 t4 t5 t6 t7 t8 t9 s20 t1 t2 t3 t4 t5 t6 t7 t8 t9 s30 t1 t2 t3 t4 t5 t6",
    "t7 t8 t9 s40 t1 t2 t3 t4 t5 t6 t7 t8 t9 s50 t1 t2 t3 t4 t5 t6 t7 t8 t9 s60 t1 t2 t3 t4 t5",
    "t6 t7 t8 t9 s70 t1 t2 t3 t4 t5 t6 t7 t8 t9 s80 t1 t2 t3 t4 t5 t6 t7 t8 t9 s90 t1 t2 t3 t4",
    "t5 t6 t7 t8 t9 r500 t1 t2 t3 t4 t5 t6 t7 t8 t9 s10 t1 t2 t3 t4 t5 t6 t7 t8 t9 s20 t1 t2 t3",
    "t4 t5 t6 t7 t8 t9 s30 t1 t2 t3 t4 t5 t6 t7 t8 t9 s40 t1 t2 t3 t4 t5 t6 t7 t8 t9 s50 t1 t2",
    "t3 t4 t5 t6 t7 t8 t9 s60 t1 t2 t3 t4 t5 t6 t7 t8 t9 s70 t1 t2 t3 t4 t5 t6 t7 t8 t9 s80 t1",
    "t2 t3 t4 t5 t6 t7 t8 t9 s90 t1 t2 t3 t4 t5 t6 t7 t8 t9 r600 t1 t2 t3 t4 t5 t6 t7 t8 t9 s10",
    "t1 t2 t3 t4 t5 t6 t7 t8 t9 s20 t1 t2 t3 t4 t5 t6 t7 t8 t9 s30 t1 t2 t3 t4 t5 t6 t7 t8 t9",
    "s40 t1 t2 t3 t4 t5 t6 t7 t8 t9 s50 t1 t2 t3 t4 t5 t6 t7 t8 t9 s60 t1 t2 t3 t4 t5 t6 t7 t8",
    "t9 s70 t1 t2 t3 t4 t5 t6 t7 t8 t9 s80 t1 t2 t3 t4 t5 t6 t7 t8 t9 s90 t1 t2 t3 t4 t5 t6 t7",
    "t8 t9 r700 t1 t2 t3 t4 t5 t6 t7 t8 t9 s10 t1 t2 t3 t4 t5 t6 t7 t8 t9 s20 t1 t2 t3 t4 t5 t6",
    "t7 t8 t9 s30 t1 t2 t3 t4 t5 t6 t7 t8 t9 s40 t1 t2 t3 t4 t5 t6 t7 t8 t9 s50 t1 t2 t3 t4 t5",
    "t6 t7 t8 t9 s60 t1 t2 t3 t4 t5 t6 t7 t8 aKHITAN_SMALL_SCRIPT_CHARACTER-18B00 bi1 bi2 bi3",
    "bi4 bi5 bi6 bi7 bi8 bi9 biA biB biC biD biE biF bh10 bi1 bi2 bi3 bi4 bi5 bi6 bi7 bi8 bi9",
    "biA biB biC biD biE biF bh20 bi1 bi2 bi3 bi4 bi5 bi6 bi7 bi8 bi9 biA biB biC biD biE biF",
    "bh30 bi1 bi2 bi3 bi4 bi5 bi6 bi7 bi8 bi9 biA biB biC biD biE biF bh40 bi1 bi2 bi3 bi4 bi5",
    "bi6 bi7 bi8 bi9 biA biB biC biD biE biF bh50 bi1 bi2 bi3 bi4 bi5 bi6 bi7 bi8 bi9 biA biB",
    "biC biD biE biF bh60 bi1 bi2 bi3 bi4 bi5 bi6 bi7 bi8 bi9 biA biB biC biD biE biF bh70 bi1",
    "bi2 bi3 bi4 bi5 bi6 bi7 bi8 bi9 biA biB biC biD biE biF bh80 bi1 bi2 bi3 bi4 bi5 bi6 bi7",
    "bi8 bi9 biA biB biC biD biE biF bh90 bi1 bi2 bi3 bi4 bi5 bi6 bi7 bi8 bi9 biA biB biC biD",
    "biE biF bhA0 bi1 bi2 bi3 bi4 bi5 bi6 bi7 bi8 bi9 biA biB biC biD biE biF bhB0 bi1 bi2 bi3",
    "bi4 bi5 bi6 bi7 bi8 bi9 biA biB biC biD biE biF bhC0 bi1 bi2 bi3 bi4 bi5 bi6 bi7 bi8 bi9",
    "biA biB biC biD biE biF bhD0 bi1 bi2 bi3 bi4 bi5 bi6 bi7 bi8 bi9 biA biB biC biD biE biF",
    "bhE0 bi1 bi2 bi3 bi4 bi5 bi6 bi7 bi8 bi9 biA biB biC biD biE biF bhF0 bi1 bi2 bi3 bi4 bi5",
    "bi6 bi7 bi8 bi9 biA biB biC biD biE biF bgC00 bi1 bi2 bi3 bi4 bi5 bi6 bi7 bi8 bi9 biA biB",
    "biC biD biE biF bh10 bi1 bi2 bi3 bi4 bi5 bi6 bi7 bi8 bi9 biA biB biC biD biE biF bh20 bi1",
    "bi2 bi3 bi4 bi5 bi6 bi7 bi8 bi9 biA biB biC biD biE biF bh30 bi1 bi2 bi3 bi4 bi5 bi6 bi7",
    "bi8 bi9 biA biB biC biD biE biF bh40 bi1 bi2 bi3 bi4 bi5 bi6 bi7 bi8 bi9 biA biB biC biD",
    "biE biF bh50 bi1 bi2 bi3 bi4 bi5 bi6 bi7 bi8 bi9 biA biB biC biD biE biF bh60 bi1 bi2 bi3",
    "bi4 bi5 bi6 bi7 bi8 bi9 biA biB biC biD biE biF bh70 bi1 bi2 bi3 bi4 bi5 bi6 bi7 bi8 bi9",
    "biA biB biC biD biE biF bh80 bi1 bi2 bi3 bi4 bi5 bi6 bi7 bi8 bi9 biA biB biC biD biE biF",
    "bh90 bi1 bi2 bi3 bi4 bi5 bi6 bi7 bi8 bi9 biA biB biC biD biE biF bhA0 bi1 bi2 bi3 bi4 bi5",
    "bi6 bi7 bi8 bi9 biA biB biC biD biE biF bhB0 bi1 bi2 bi3 bi4 bi5 bi6 bi7 bi8 bi9 biA biB",
    "biC biD biE biF bhC0 bi1 bi2 bi3 bi4 bi5 bi6 bi7 bi8 bi9 biA biB biC biD biE biF bhD0 bi1",
    "bi2 bi3 bi4 bi5"]), (0x1AFF0, ["aKATAKANA_LETTER_MINNAN_TONE-2 bc3 bc4 bc5"]),
  (0x1AFF5, ["aKATAKANA_LETTER_MINNAN_TONE-7 bc8 xNASALIZED_TONE-1 bm2 bm3 bm4 bm5"]),
  (0x1AFFD, ["aKATAKANA_LETTER_MINNAN_NASALIZED_TONE-7 bm8"]), (0x1B000, [
    "aKATAKANA_LETTER_ARCHAIC_E aHIRAGANA_LETTER_ARCHAIC_YE bENTAIGANA_LETTER_A-1 u2 u3 uWO sI-1",
    "u2 u3 u4 sU-1 u2 u3 u4 u5 sE-2 u3 u4 u5 u6 sO-1 u2 u3 sKA-1 v2 v3 v4 v5 v6 v7 v8 v9 v10 w1",
    "vKE tI-1 v2 v3 v4 v5 v6 v7 v8 tU-1 v2 v3 v4 v5 v6 v7 tE-1 v2 v3 v4 v5 v6 tO-1 v2 v3 vKI",
    "sSA-1 v2 v3 v4 v5 v6 v7 v8 tI-1 v2 v3 v4 v5 v6 tU-1 v2 v3 v4 v5 v6 v7 v8 tE-1 v2 v3 v4 v5",
    "tO-1 v2 v3 v4 v5 v6 v7 sTA-1 v2 v3 v4 tI-1 v2 v3 v4 v5 v6 v7 tU-1 v2 v3 v4 vTO tE-1 v2 v3",
    "v4 v5 v6 v7 v8 v9 tO-1 v2 v3 v4 v5 v6 vRA sNA-1 v2 v3 v4 v5 v6 v7 v8 v9 tI-1 v2 v3 v4 v5 v6",
    "v7 vTE tU-1 v2 v3 tE-1 v2 v3 v4 v5 v6 vKO tO-1 v2 v3 v4 v5 sHA-1 v2 v3 v4 v5 v6 v7 v8 v9",
    "v10 w1 tI-1 v2 v3 v4 v5 v6 v7 tU-1 v2 v3 tE-1 v2 v3 v4 v5 v6 v7 tO-1 v2 v3 v4 v5 v6 v7 v8",
    "sMA-1 v2 v3 v4 v5 v6 v7 tI-1 v2 v3 v4 v5 v6 v7 tU-1 v2 v3 v4 tE-1 v2 vMA tO-1 v2 v3 v4 v5",
    "v6 sYA-1 v2 v3 v4 v5 vYO tU-1 v2 v3 v4 tO-1 v2 v3 v4 v5 v6 sRA-1 v2 v3 v4 tI-1 v2 v3 v4 v5",
    "v6 v7 tU-1 v2 v3 v4 v5 v6 tE-1 v2 v3 v4 tO-1 v2 v3 v4 v5 v6 sWA-1 v2 v3 v4 v5 tI-1 v2 v3 v4",
    "v5 tE-1 v2 v3 v4 tO-1 v2 v3 v4 v5 v6 v7 sN-MU-MO-1 ba2 bIRAGANA_LETTER_ARCHAIC_WU",
    "aKATAKANA_LETTER_ARCHAIC_YI zE yWU"]), (0x1B150, ["aHIRAGANA_LETTER_SMALL_WI xE xO"]),
  (0x1B164, ["aKATAKANA_LETTER_SMALL_WI xE xO wN"]), (0x1B170, ["aNUSHU_CHARACTER-1B170 u1 u2 u3",
    "u4 u5 u6 u7 u8 u9 uA uB uC uD uE uF t80 u1 u2 u3 u4 u5 u6 u7 u8 u9 uA uB uC uD uE uF t90 u1",
    "u2 u3 u4 u5 u6 u7 u8 u9 uA uB uC uD uE uF tA0 u1 u2 u3 u4 u5 u6 u7 u8 u9 uA uB uC uD uE uF",
    "tB0 u1 u2 u3 u4 u5 u6 u7 u8 u9 uA uB uC uD uE uF tC0 u1 u2 u3 u4 u5 u6 u7 u8 u9 uA uB uC uD",
    "uE uF tD0 u1 u2 u3 u4 u5 u6 u7 u8 u9 uA uB uC uD uE uF tE0 u1 u2 u3 u4 u5 u6 u7 u8 u9 uA uB",
    "uC uD uE uF tF0 u1 u2 u3 u4 u5 u6 u7 u8 u9 uA uB uC uD uE uF s200 u1 u2 u3 u4 u5 u6 u7 u8",
    "u9 uA uB uC uD uE uF t10 u1 u2 u3 u4 u5 u6 u7 u8 u9 uA uB uC uD uE uF t20 u1 u2 u3 u4 u5 u6",
    "u7 u8 u9 uA uB uC uD uE uF t30 u1 u2 u3 u4 u5 u6 u7 u8 u9 uA uB uC uD uE uF t40 u1 u2 u3 u4",
    "u5 u6 u7 u8 u9 uA uB uC uD uE uF t50 u1 u2 u3 u4 u5 u6 u7 u8 u9 uA uB uC uD uE uF t60 u1 u2",
    "u3 u4 u5 u6 u7 u8 u9 uA uB uC uD uE uF t70 u1 u2 u3 u4 u5 u6 u7 u8 u9 uA uB uC uD uE uF t80",
    "u1 u2 u3 u4 u5 u6 u7 u8 u9 uA uB uC uD uE uF t90 u1 u2 u3 u4 u5 u6 u7 u8 u9 uA uB uC uD uE",
    "uF tA0 u1 u2 u3 u4 u5 u6 u7 u8 u9 uA uB uC uD uE uF tB0 u1 u2 u3 u4 u5 u6 u7 u8 u9 uA uB uC",
    "uD uE uF tC0 u1 u2 u3 u4 u5 u6 u7 u8 u9 uA uB uC uD uE uF tD0 u1 u2 u3 u4 u5 u6 u7 u8 u9 uA",
    "uB uC uD uE uF tE0 u1 u2 u3 u4 u5 u6 u7 u8 u9 uA uB uC uD uE uF tF0 u1 u2 u3 u4 u5 u6 u7 u8",
    "u9 uA uB"]), (0x1BC00, ["aDUPLOYAN_LETTER_H qX qP qT qF qK qL qB qD qV qG qR qP_N qD_S qF_N",
    "qK_M qR_S qTH qSLOAN_DH qDH qKK qSLOAN_J qHL qLH qRH qM qN qJ qS qM_N qN_M qJ_M qS_J",
    "qM_WITH_DOT qN_WITH_DOT qJ_WITH_DOT baS_INSIDE_AND_ABOVE qS_WITH_DOT ba_BELOW qM_S qN_S",
    "qJ_S qS_S qM_N_S qN_M_S qJ_M_S qS_J_S qJ_S_WITH_DOT sN t_S qS_T t_R sP t_R qT_S sR_S qW rH",
    "r_R qS_N sM qK_R_S qG_R_S qS_K t_R qA qSLOAN_OW qOA r qAOU qI qE qIE qSHORT_I qUI qEE",
    "qSLOAN_EH qROMANIAN_I qSLOAN_EE qLONG_I qYE qU qEU qXW qU_N qLONG_U qROMANIAN_U qUH",
    "qSLOAN_U qOOH rW rU qWA rO rI rEI rOW qNASAL_U wO wI wA qPERNIN_AN yM qSLOAN_EN wAN wON",
    "qVOCALIC_M"]), (0x1BC70, ["aDUPLOYAN_AFFIX_LEFT_HORIZONTAL_SECANT pMID_HORIZONTAL_SECANT",
    "pRIGHT_HORIZONTAL_SECANT pLOW_VERTICAL_SECANT pMID_VERTICAL_SECANT pHIGH_VERTICAL_SECANT",
    "pATTACHED_SECANT yLEFT-TO-RIGHT_SECANT yTANGENT baIL yE_HOOK yI_HOOK yTANGENT_HOOK"]),
  (0x1BC80, ["aDUPLOYAN_AFFIX_HIGH_ACUTE uTIGHT_ACUTE uGRAVE uLONG_GRAVE uDOT uCIRCLE uLINE",
    "uWAVE uVERTICAL"]), (0x1BC90, ["aDUPLOYAN_AFFIX_LOW_ACUTE tTIGHT_ACUTE tGRAVE tLONG_GRAVE",
    "tDOT tCIRCLE tLINE tWAVE tVERTICAL tARROW"]), (0x1BC9C, ["aDUPLOYAN_SIGN_O_WITH_CROSS",
    "jTHICK_LETTER_SELECTOR jDOUBLE_MARK jPUNCTUATION_CHINOOK_FULL_STOP",
    "aSHORTHAND_FORMAT_LETTER_OVERLAP rCONTINUING_OVERLAP rDOWN_STEP rUP_STEP"]),
  (0x1CF00, ["aZNAMENNY_COMBINING_MARK_GORAZDO_NIZKO_S_KRYZHEM_ON_LEFT yNIZKO_S_KRYZHEM_ON_LEFT",
    "yTSATA_ON_LEFT yGORAZDO_NIZKO_ON_LEFT yNIZKO_ON_LEFT ySREDNE_ON_LEFT yMALO_POVYSHE_ON_LEFT",
    "yPOVYSHE_ON_LEFT yVYSOKO_ON_LEFT yMALO_POVYSHE_S_KHOKHLOM_ON_LEFT",
    "yPOVYSHE_S_KHOKHLOM_ON_LEFT yVYSOKO_S_KHOKHLOM_ON_LEFT yGORAZDO_NIZKO_S_KRYZHEM_ON_RIGHT",
    "yNIZKO_S_KRYZHEM_ON_RIGHT yTSATA_ON_RIGHT yGORAZDO_NIZKO_ON_RIGHT yNIZKO_ON_RIGHT",
    "ySREDNE_ON_RIGHT yMALO_POVYSHE_ON_RIGHT yPOVYSHE_ON_RIGHT yVYSOKO_ON_RIGHT",
    "yMALO_POVYSHE_S_KHOKHLOM_ON_RIGHT yPOVYSHE_S_KHOKHLOM_ON_RIGHT yVYSOKO_S_KHOKHLOM_ON_RIGHT",
    "yTSATA_S_KRYZHEM yMALO_POVYSHE_S_KRYZHEM ySTRANNO_MALO_POVYSHE yPOVYSHE_S_KRYZHEM bhTRANNO",
    "yVYSOKO_S_KRYZHEM yMALO_POVYSHE_STRANNO yGORAZDO_VYSOKO yZELO yON yRAVNO yTIKHAYA yBORZAYA",
    "yUDARKA yPODVERTKA yLOMKA yKUPNAYA zACHKA yZEVOK ySKOBA yRAZSEKA yKRYZH_ON_LEFT"]),
  (0x1CF30, ["aZNAMENNY_COMBINING_TONAL_RANGE_MARK_MRACHNO bkSVETLO bkTRESVETLO tMARK_ZADERZHKA",
    "yDEMESTVENNY_ZADERZHKA yOTSECHKA yPODCHASHIE bi_WITH_VERTICAL_STROKE yCHASHKA bf_POLNAYA",
    "yOBLACHKO ySOROCHYA_NOZHKA yTOCHKA yDVOETOCHIE tATTACHING_VERTICAL_OMET tMARK_CURVED_OMET",
    "yKRYZH tLOWER_TONAL_RANGE_INDICATOR jPRIZNAK_MODIFIER_LEVEL-2 bg3 baDIRECTION_FLIP baKRYZH",
    "baROG"]), (0x1CF50, ["aZNAMENNY_NEUME_KRYUK u_TIKHY pPARAKLIT pDVA_V_CHELNU pKLYUCH",
    "pZANOZHEK pSTOPITSA x_S_OCHKOM pPEREVODKA y_NEPOSTOYANNAYA pSTOPITSA_WITH_SOROCHYA_NOZHKA",
    "pCHELYUSTKA pPALKA pZAPYATAYA pGOLUBCHIK_BORZY zTIKHY zMRACHNY zSVETLY zTRESVETLY",
    "pVRAKHIYA_PROSTAYA yMRACHNAYA ySVETLAYA yTRESVETLAYA yKLYUCHEVAYA_PROSTAYA bkMRACHNAYA",
    "bkSVETLAYA bkTRESVETLAYA pDOUBLE_ZAPYATAYA pREVERSED_CHELYUSTKA pDERBITSA pKHAMILO pCHASHKA",
    "pPODCHASHIE pSKAMEYTSA_MRACHNAYA zSVETLAYA zTRESVETLAYA baIKHAYA pDEMESTVENNY_KLYUCH",
    "pSKAMEYTSA_KLYUCHEVAYA_SVETLAYA bgNEPOSTOYANNAYA bgVAYA_TIKHAYA zDVOECHELNAYA_PROSTAYA",
    "bmSVETLAYA bmNEPOSTOYANNAYA bmKLYUCHEVAYA qLOZHITIE y_S_ZAPYATOY zZAKRYTOE zS_KRYZHEM",
    "pKRYZH pROG pFITA pKOBYLA pZMEYTSA pSTATYA v_S_ZAPYATOY yKRYZHEM yZAPYATOY_I_KRYZHEM",
    "yKRYZHEM_I_ZAPYATOY wZAKRYTAYA bf_S_ZAPYATOY wS_ROGOM yDVUMYA_ZAPYATYMI",
    "yZAPYATOY_I_PODCHASHIEM pPOLKULIZMY pSTATYA_NEPOSTOYANNAYA rRELA_PROSTAYA wMRACHNOTIKHAYA",
    "wKRYZHEVAYA wPOLUPOVODNAYA yVODNAYA wNEPOSTOYANNAYA wKLYUCHEPOVODNAYA bdNEPOSTOYANNAYA",
    "wTIKHAYA_PUTNAYA wDVOECHELNAYA bfOKRYZHEVAYA bgPOVODNAYA bfAYA_KLYUCHEVAYA",
    "bfOPOVODNAYA_KLYUCHEVAYA wGROMNAYA_WITH_SINGLE_ZAPYATAYA baOPOVODNAYA_WITH_SINGLE_ZAPYATAYA",
    "baNAYA baOPOVODNAYA bk_WITH_DOUBLE_ZAPYATAYA bbKRYZHEVAYA bl_POVODNAYA pMECHIK v_POVODNY",
    "wKLYUCHEVOY bdPOVODNY bdNEPOSTOYANNY pSTRELA_TRYASOGLASNAYA bcPOVODNAYA bcSTRELNAYA pOSOKA",
    "u_SVETLAYA vTRESVETLAYA vKRYUKOVAYA_SVETLAYA wLYUCHEVAYA_SVETLAYA bhNEPOSTOYANNAYA",
    "pSTRELA_KRYUKOVAYA bg_POVODNAYA bhGROMNAYA_WITH_SINGLE_ZAPYATAYA",
    "blOPOVODNAYA_WITH_SINGLE_ZAPYATAYA blNAYA blOPOVODNAYA bv_WITH_DOUBLE_ZAPYATAYA",
    "bmKRYZHEVAYA bw_POVODNAYA bhTRYASKA pKUFISMA pOBLAKO pDUDA pNEMKA pPAUK"])]

end TraceLens.CharacterName
