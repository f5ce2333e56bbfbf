/-!
# Names of characters from row 0x11 on

The names of the characters from row 0x11 to row 0x1F, in runs without a gap: the first code
point, and the names in the form that `CharacterName` describes.
-/

namespace TraceLens.CharacterName

def row011 : List (Nat × List String) := [
  (0x1100, ["aHANGUL_CHOSEONG_KIYEOK qSSANGKIYEOK qNIEUN qTIKEUT qSSANGTIKEUT qRIEUL qMIEUM",
    "qPIEUP qSSANGPIEUP rIOS rSANGSIOS qIEUNG qCIEUC qSSANGCIEUC qCHIEUCH qKHIEUKH qTHIEUTH",
    "qPHIEUPH qHIEUH qNIEUN-KIYEOK qSSANGNIEUN qNIEUN-TIKEUT wPIEUP qTIKEUT-KIYEOK qRIEUL-NIEUN",
    "qSSANGRIEUL qRIEUL-HIEUH qKAPYEOUNRIEUL qMIEUM-PIEUP qKAPYEOUNMIEUM qPIEUP-KIYEOK wNIEUN",
    "wTIKEUT wSIOS ba-KIYEOK bbTIKEUT bbPIEUP xSANGSIOS xIOS-CIEUC wCIEUC xHIEUCH wTHIEUTH",
    "wPHIEUPH qKAPYEOUNPIEUP ySSANGPIEUP qSIOS-KIYEOK vNIEUN vTIKEUT vRIEUL vMIEUM vPIEUP",
    "ba-KIYEOK vSSANGSIOS vIEUNG vCIEUC wHIEUCH vKHIEUKH vTHIEUTH vPHIEUPH vHIEUH qCHITUEUMSIOS",
    "zSANGSIOS rEONGCHIEUMSIOS bcSANGSIOS qPANSIOS qIEUNG-KIYEOK wTIKEUT wMIEUM wPIEUP wSIOS",
    "wPANSIOS qSSANGIEUNG qIEUNG-CIEUC xHIEUCH wTHIEUTH wPHIEUPH qYESIEUNG qCIEUC-IEUNG",
    "rHITUEUMCIEUC ySSANGCIEUC rEONGCHIEUMCIEUC bbSSANGCIEUC rHIEUCH-KHIEUKH yHIEUH",
    "tTUEUMCHIEUCH rEONGCHIEUMCHIEUCH qPHIEUPH-PIEUP qKAPYEOUNPHIEUPH qSSANGHIEUH qYEORINHIEUH",
    "qKIYEOK-TIKEUT qNIEUN-SIOS wCIEUC wHIEUH qTIKEUT-RIEUL qFILLER hJUNGSEONG_FILLER rA sE rYA",
    "tE rEO s rYEO t rO rWA tE rOE rYO rU rWEO t sI rYU rEU rYI rI rA-O tU rYA-O uYO rEO-O uU",
    "uEU rYEO-O vU rO-EO u tYE tO tU rYO-YA wE vEO uO uI rU-A uE tEO-EU tYE tU rYU-A uEO v uYEO",
    "w uU uI rEU-U uEU rYI-U rI-A tYA tO tU tEU tARAEA rARAEA w-EO xU xI rSSANGARAEA rA-EU rYA-U",
    "sEO-YA rO-YA vE iONGSEONG_KIYEOK rSSANGKIYEOK rKIYEOK-SIOS rNIEUN w-CIEUC xHIEUH rTIKEUT",
    "rRIEUL w-KIYEOK xMIEUM xPIEUP xSIOS xTHIEUTH xPHIEUPH xHIEUH rMIEUM rPIEUP w-SIOS rSIOS",
    "sSANGSIOS rIEUNG rCIEUC sHIEUCH rKHIEUKH rTHIEUTH rPHIEUPH rHIEUH rKIYEOK-RIEUL",
    "ySIOS-KIYEOK rNIEUN-KIYEOK xTIKEUT xSIOS xPANSIOS xTHIEUTH rTIKEUT-KIYEOK yRIEUL",
    "rRIEUL-KIYEOK-SIOS xNIEUN xTIKEUT bd-HIEUH rSSANGRIEUL rRIEUL-MIEUM-KIYEOK bdSIOS",
    "xPIEUP-SIOS bdHIEUH xKAPYEOUNPIEUP xSSANGSIOS xPANSIOS xKHIEUKH xYEORINHIEUH rMIEUM-KIYEOK",
    "xRIEUL xPIEUP xSIOS ySANGSIOS xPANSIOS xCHIEUCH xHIEUH rKAPYEOUNMIEUM rPIEUP-RIEUL xPHIEUPH",
    "xHIEUH rKAPYEOUNPIEUP rSIOS-KIYEOK wTIKEUT wRIEUL wPIEUP rPANSIOS rIEUNG-KIYEOK",
    "xSSANGKIYEOK rSSANGIEUNG rIEUNG-KHIEUKH rYESIEUNG z-SIOS baPANSIOS rPHIEUPH-PIEUP",
    "rKAPYEOUNPHIEUPH rHIEUH-NIEUN xRIEUL xMIEUM xPIEUP rYEORINHIEUH rKIYEOK-NIEUN yPIEUP",
    "yCHIEUCH yKHIEUKH yHIEUH rSSANGNIEUN aETHIOPIC_SYLLABLE_HA tU tI tAA tEE u tO uA sLA tU tI",
    "tAA tEE u tO tWA sHHA uU uI uAA uEE v uO uWA sMA tU tI tAA tEE u tO tWA sSZA uU uI uAA uEE",
    "v uO uWA sRA tU tI tAA tEE u tO tWA sSA tU tI tAA tEE u tO tWA tHA uU uI uAA uEE v uO uWA",
    "sQA tU tI tAA tEE u tO uA tWA"]), (0x124A, ["aETHIOPIC_SYLLABLE_QWI uAA uEE v"]),
  (0x1250, ["aETHIOPIC_SYLLABLE_QHA uU uI uAA uEE v uO"]), (0x1258, ["aETHIOPIC_SYLLABLE_QHWA"]),
  (0x125A, ["aETHIOPIC_SYLLABLE_QHWI vAA vEE w"]), (0x1260, ["aETHIOPIC_SYLLABLE_BA tU tI tAA",
    "tEE u tO tWA sVA tU tI tAA tEE u tO tWA sTA tU tI tAA tEE u tO tWA sCA tU tI tAA tEE u tO",
    "tWA sXA tU tI tAA tEE u tO uA tWA"]), (0x128A, ["aETHIOPIC_SYLLABLE_XWI uAA uEE v"]),
  (0x1290, ["aETHIOPIC_SYLLABLE_NA tU tI tAA tEE u tO tWA tYA uU uI uAA uEE v uO uWA sGLOTTAL_A",
    "baU baI baAA baEE bb baO baWA sKA tU tI tAA tEE u tO uA tWA"]), (0x12B2, [
    "aETHIOPIC_SYLLABLE_KWI uAA uEE v"]), (0x12B8, ["aETHIOPIC_SYLLABLE_KXA uU uI uAA uEE v uO"]),
  (0x12C0, ["aETHIOPIC_SYLLABLE_KXWA"]), (0x12C2, ["aETHIOPIC_SYLLABLE_KXWI vAA vEE w"]),
  (0x12C8, ["aETHIOPIC_SYLLABLE_WA tU tI tAA tEE u tO uA sPHARYNGEAL_A bdU bdI bdAA bdEE be bdO"]),
  (0x12D8, ["aETHIOPIC_SYLLABLE_ZA tU tI tAA tEE u tO tWA tHA uU uI uAA uEE v uO uWA sYA tU tI",
    "tAA tEE u tO uA sDA tU tI tAA tEE u tO tWA tDA uU uI uAA uEE v uO uWA sJA tU tI tAA tEE u",
    "tO tWA sGA tU tI tAA tEE u tO uA tWA"]), (0x1312, ["aETHIOPIC_SYLLABLE_GWI uAA uEE v"]),
  (0x1318, ["aETHIOPIC_SYLLABLE_GGA uU uI uAA uEE v uO uWAA sTHA uU uI uAA uEE v uO uWA sCHA uU",
    "uI uAA uEE v uO uWA sPHA uU uI uAA uEE v uO uWA sTSA uU uI uAA uEE v uO uWA tZA uU uI uAA",
    "uEE v uO vA sFA tU tI tAA tEE u tO tWA sPA tU tI tAA tEE u tO tWA sRYA sMYA sFYA"]),
  (0x135D, ["aETHIOPIC_COMBINING_GEMINATION_AND_VOWEL_LENGTH_MARK tVOWEL_LENGTH_MARK",
    "tGEMINATION_MARK jSECTION_MARK jWORDSPACE jFULL_STOP jCOMMA jSEMICOLON jCOLON",
    "jPREFACE_COLON jQUESTION_MARK jPARAGRAPH_SEPARATOR jDIGIT_ONE pTWO qHREE pFOUR qIVE pSIX",
    "qEVEN pEIGHT pNINE jNUMBER_TEN rWENTY rHIRTY qFORTY rIFTY qSIXTY rEVENTY qEIGHTY qNINETY",
    "qHUNDRED qTEN_THOUSAND"]), (0x1380, ["aETHIOPIC_SYLLABLE_SEBATBEIT_MWA sMWI uEE v",
    "sSEBATBEIT_BWA sBWI uEE v sSEBATBEIT_FWA sFWI uEE v sSEBATBEIT_PWA sPWI uEE v",
    "jTONAL_MARK_YIZET uDERET uRIKRIK uSHORT_RIKRIK uDIFAT uKENAT uCHIRET uHIDET uDERET-HIDET",
    "uKURT"]), (0x13A0, ["aCHEROKEE_LETTER_A qE qI qO qU qV qGA qKA qGE rI rO rU rV qHA rE rI rO",
    "rU rV qLA rE rI rO rU rV qMA rE rI rO rU qNA qHNA qNAH rE rI rO rU rV qQUA sE sI sO sU sV",
    "qSA r rE rI rO rU rV qDA qTA qDE qTE qDI qTI qDO rU rV rLA qTLA sE sI sO sU sV rSA sE sI sO",
    "sU sV qWA rE rI rO rU rV qYA rE rI rO rU rV qMV"]), (0x13F8, ["aCHEROKEE_SMALL_LETTER_YE xI",
    "xO xU xV wMV"]), (0x1400, ["aCANADIAN_SYLLABICS_HYPHEN tE tAAI tI uI tO uO tY-CREE_OO",
    "tCARRIER_EE bbI tA uA tWE vST-CREE_WE uI uEST-CREE_WI uII uEST-CREE_WII uO uEST-CREE_WO uOO",
    "uEST-CREE_WOO tNASKAPI_WOO tWA uEST-CREE_WA uAA uEST-CREE_WAA tNASKAPI_WAA tAI tY-CREE_W",
    "tGLOTTAL_STOP tFINAL_ACUTE zGRAVE zBOTTOM_HALF_RING zTOP_HALF_RING zRIGHT_HALF_RING bbNG",
    "zDOUBLE_ACUTE bgSHORT_VERTICAL_STROKES zMIDDLE_DOT zSHORT_HORIZONTAL_STROKE zPLUS",
    "zDOWN_TACK tEN tIN tON tAN tPE uAAI uI vI uO vO tY-CREE_POO tCARRIER_HEE bcI tPA vA uWE",
    "tWEST-CREE_PWE tPWI tWEST-CREE_PWI tPWII tWEST-CREE_PWII tPWO tWEST-CREE_PWO tPWOO",
    "tWEST-CREE_PWOO tPWA tWEST-CREE_PWA tPWAA tWEST-CREE_PWAA tY-CREE_PWAA tP tWEST-CREE_P",
    "tCARRIER_H tTE uAAI uI vI uO vO tY-CREE_TOO tCARRIER_DEE bcI tTA vA uWE tWEST-CREE_TWE tTWI",
    "tWEST-CREE_TWI tTWII tWEST-CREE_TWII tTWO tWEST-CREE_TWO tTWOO tWEST-CREE_TWOO tTWA",
    "tWEST-CREE_TWA tTWAA tWEST-CREE_TWAA tNASKAPI_TWAA tT uTE vI vO vA tKE uAAI uI vI uO vO",
    "tY-CREE_KOO tKA vA uWE tWEST-CREE_KWE tKWI tWEST-CREE_KWI tKWII tWEST-CREE_KWII tKWO",
    "tWEST-CREE_KWO tKWOO tWEST-CREE_KWOO tKWA tWEST-CREE_KWA tKWAA tWEST-CREE_KWAA",
    "tNASKAPI_KWAA tK uW tSOUTH-SLAVEY_KEH bhIH bhOH bhAH tCE uAAI uI vI uO vO tY-CREE_COO tCA",
    "vA uWE tWEST-CREE_CWE tCWI tWEST-CREE_CWI tCWII tWEST-CREE_CWII tCWO tWEST-CREE_CWO tCWOO",
    "tWEST-CREE_CWOO tCWA tWEST-CREE_CWA tCWAA tWEST-CREE_CWAA tNASKAPI_CWAA tC tSAYISI_TH tME",
    "uAAI uI vI uO vO tY-CREE_MOO tMA vA uWE tWEST-CREE_MWE tMWI tWEST-CREE_MWI tMWII",
    "tWEST-CREE_MWII tMWO tWEST-CREE_MWO tMWOO tWEST-CREE_MWOO tMWA tWEST-CREE_MWA tMWAA",
    "tWEST-CREE_MWAA tNASKAPI_MWAA tM tWEST-CREE_M tMH tATHAPASCAN_M tSAYISI_M tNE uAAI uI vI uO",
    "vO tY-CREE_NOO tNA vA uWE tWEST-CREE_NWE tNWA tWEST-CREE_NWA tNWAA tWEST-CREE_NWAA",
    "tNASKAPI_NWAA u tCARRIER_NG tNH tLE uAAI uI vI uO vO tY-CREE_LOO tLA vA uWE tWEST-CREE_LWE",
    "tLWI tWEST-CREE_LWI tLWII tWEST-CREE_LWII tLWO tWEST-CREE_LWO tLWOO tWEST-CREE_LWOO tLWA",
    "tWEST-CREE_LWA tLWAA tWEST-CREE_LWAA tL tWEST-CREE_L tMEDIAL_L tSE uAAI uI vI uO vO",
    "tY-CREE_SOO tSA vA uWE tWEST-CREE_SWE tSWI tWEST-CREE_SWI tSWII tWEST-CREE_SWII tSWO",
    "tWEST-CREE_SWO tSWOO tWEST-CREE_SWOO tSWA tWEST-CREE_SWA tSWAA tWEST-CREE_SWAA",
    "tNASKAPI_SWAA tS tATHAPASCAN_S tSW tBLACKFOOT_S tMOOSE-CREE_SK tNASKAPI_SKW bc-W bcPWA",
    "bcTWA bcKWA bcCWA tSHE vI wI vO wO vA wA vWE tWEST-CREE_SHWE tSHWI tWEST-CREE_SHWI tSHWII",
    "tWEST-CREE_SHWII tSHWO tWEST-CREE_SHWO tSHWOO tWEST-CREE_SHWOO tSHWA tWEST-CREE_SHWA tSHWAA",
    "tWEST-CREE_SHWAA tSH tYE uAAI uI vI uO vO u-CREE_YOO uA vA uWE tWEST-CREE_YWE tYWI",
    "tWEST-CREE_YWI tYWII tWEST-CREE_YWII tYWO tWEST-CREE_YWO tYWOO tWEST-CREE_YWOO tYWA",
    "tWEST-CREE_YWA tYWAA tWEST-CREE_YWAA tNASKAPI_YWAA tY tBIBLE-CREE_Y tWEST-CREE_Y tSAYISI_YI",
    "tRE u-CREE_RE tWEST-CREE_LE tRAAI uI vI uO vO tWEST-CREE_LO tRA vA tWEST-CREE_LA tRWAA",
    "tWEST-CREE_RWAA tR tWEST-CREE_R tMEDIAL_R tFE uAAI uI vI uO vO uA vA uWAA tWEST-CREE_FWAA",
    "tF tTHE tN-CREE_THE tTHI tN-CREE_THI tTHII tN-CREE_THII tTHO wO vA wA vWAA tWEST-CREE_THWAA",
    "tTH uTHE wI wO wA w uYE vI vO vA tNUNAVIK_HE bcI bdI bcO bdO bcA bdA bc yUT_H tHK tQAAI uI",
    "vI uO vO uA vA u tTLHE wI wO wA tWEST-CREE_RE beI beO beA tNGAAI vI wI vO wO vA wA v uNG",
    "tSAYISI_SHE bcI bcO bcA tWOODS-CREE_THE bgI bgO bgA bg tLHI wI vO wO vA wA v tTH-CREE_THE",
    "bdI beI bdO beO bdA beA bd tAIVILIK_B tBLACKFOOT_E bdI bdO bdA bdWE beI beO beA bdNE beI",
    "beO beA bdKE beI beO beA tSAYISI_HE bbI bbO bbA tCARRIER_GHU bdO bdE beE bdI bdA bbRU bcO",
    "bcE bdE bcI bcA bbWU bcO bcE bdE bcI bcA bbHWU bdO bdE beE bdI bdA bbTHU bdO bdE beE bdI",
    "bdA bcTU bdO bdE beE bdI bdA bbPU bcO bcE bdE bcI bcA bc bbGU bcO bcE bdE bcI bcA bbKHU bdO",
    "bdE beE bdI bdA bcKU bdO bdE beE bdI bdA bd bbNU bcO bcE bdE bcI bcA bbMU bcO bcE bdE bcI",
    "bcA bbYU bcO bcE bdE bcI bcA bbJU tSAYISI_JU tCARRIER_JO bcE bdE bcI tSAYISI_JI tCARRIER_JA",
    "bcJU bdO bdE beE bdI bdA bbLU bcO bcE bdE bcI bcA bbDLU bdO bdE beE bdI bdA bbLHU bdO bdE",
    "beE bdI bdA bbTLHU beO beE bfE beI beA bdU bdO bdE beE bdI bdA bbZU bcO bcE bdE bcI bcA bc",
    "bbINITIAL_Z bbDZU bdO bdE beE bdI bdA bbSU bcO bcE bdE bcI bcA bcHU bdO bdE beE bdI bdA bd",
    "bbTSU bdO bdE beE bdI bdA bbCHU bdO bdE beE bdI bdA bbTTSU beO beE bfE beI beA uHI_SIGN",
    "tFULL_STOP tQAI tNGAI uNGI xI wO xO wA xA tWOODS-CREE_THWEE bhI biI bhO biO bhA biA",
    "beFINAL_TH tBLACKFOOT_W aOGHAM_SPACE_MARK gLETTER_BEITH nLUIS nFEARN nSAIL nNION nUATH",
    "nDAIR nTINNE nCOLL oEIRT nMUIN nGORT nNGEADAL nSTRAIF nRUIS nAILM nONN nUR nEADHADH",
    "nIODHADH nEABHADH nOR nUILLEANN nIFIN nEAMHANCHOLL nPEITH gFEATHER_MARK",
    "gREVERSED_FEATHER_MARK"]), (0x16A0, ["aRUNIC_LETTER_FEHU_FEOH_FE_F nV nURUZ_UR_U nYR o nW",
    "nTHURISAZ_THURS_THORN nETH nANSUZ_A nOS_O nAC_A oESC nLONG-BRANCH-OSS_O nSHORT-TWIG-OSS_O",
    "nO oE oN nRAIDO_RAD_REID_R nKAUNA nCEN nKAUN_K nG nENG nGEBO_GYFU_G oAR nWUNJO_WYNN_W",
    "nHAGLAZ_H pEGL_H nLONG-BRANCH-HAGALL_H nSHORT-TWIG-HAGALL_H nNAUDIZ_NYD_NAUD_N",
    "nSHORT-TWIG-NAUD_N nDOTTED-N nISAZ_IS_ISS_I nE nJERAN_J nGER nLONG-BRANCH-AR_AE",
    "nSHORT-TWIG-AR_A nIWAZ_EOH nPERTHO_PEORTH_P nALGIZ_EOLHX nSOWILO_S oIGEL_LONG-BRANCH-SOL_S",
    "oHORT-TWIG-SOL_S nC nZ nTIWAZ_TIR_TYR_T nSHORT-TWIG-TYR_T nD nBERKANAN_BEORC_BJARKAN_B",
    "nSHORT-TWIG-BJARKAN_B nDOTTED-P nOPEN-P nEHWAZ_EH_E nMANNAZ_MAN_M nLONG-BRANCH-MADR_M",
    "nSHORT-TWIG-MADR_M nLAUKAZ_LAGU_LOGR_L nDOTTED-L nINGWAZ q nDAGAZ_DAEG_D nOTHALAN_ETHEL_O",
    "nEAR nIOR nCWEORTH oALC oEALC nSTAN nLONG-BRANCH-YR nSHORT-TWIG-YR nICELANDIC-YR nQ nX",
    "gSINGLE_PUNCTUATION gMULTIPLE_PUNCTUATION gCROSS_PUNCTUATION gARLAUG_SYMBOL",
    "gTVIMADUR_SYMBOL gBELGTHOR_SYMBOL gLETTER_K nSH nOO nFRANKS_CASKET_OS bbIS bbEH bbAC bcESC"]),
  (0x1700, ["aTAGALOG_LETTER_A pI pU pKA pGA pNGA pTA pDA pNA pPA pBA pMA pYA pRA pLA pWA pSA",
    "pHA iVOWEL_SIGN_I tU iSIGN_VIRAMA nPAMUDPOD"]), (0x171F, ["aTAGALOG_LETTER_ARCHAIC_RA",
    "aHANUNOO_LETTER_A pI pU pKA pGA pNGA pTA pDA pNA pPA pBA pMA pYA pRA pLA pWA pSA pHA",
    "iVOWEL_SIGN_I tU iSIGN_PAMUDPOD aPHILIPPINE_SINGLE_PUNCTUATION lDOUBLE_PUNCTUATION"]),
  (0x1740, ["aBUHID_LETTER_A nI nU nKA nGA nNGA nTA nDA nNA nPA nBA nMA nYA nRA nLA nWA nSA nHA",
    "gVOWEL_SIGN_I rU"]), (0x1760, ["aTAGBANWA_LETTER_A qI qU qKA qGA qNGA qTA qDA qNA qPA qBA",
    "qMA qYA"]), (0x176E, ["aTAGBANWA_LETTER_LA qWA qSA"]), (0x1772, ["aTAGBANWA_VOWEL_SIGN_I uU"]),
  (0x1780, ["aKHMER_LETTER_KA oHA oO oHO nNGO nCA oHA oO oHO nNYO nDA nTTHA nDO nTTHO nNNO nTA",
    "oHA oO oHO nNO nBA nPHA oO oHO nMO nYO nRO nLO nVO nSHA oSO oA nHA nLA nQA",
    "gINDEPENDENT_VOWEL_QAQ baA zI baI zU baK baU bbV yRY baY yLY baY yQE zAI zOO_TYPE_ONE bhTWO",
    "zAU gVOWEL_INHERENT_AQ wA mSIGN_AA rI sI rY sY rU sU sA rOE rYA rIE rE rAE sI rOO rAU",
    "gSIGN_NIKAHIT lREAHMUK lYUUKALEAPINTU lMUUSIKATOAN lTRIISAP lBANTOC lROBAT lTOANDAKHIAT",
    "lKAKABAT lAHSDA lSAMYOK_SANNYA lVIRIAM lCOENG lBATHAMASAT lKHAN lBARIYOOSAN",
    "lCAMNUC_PII_KUUH lLEK_TOO lBEYYAL lPHNAEK_MUAN lKOOMUUT gCURRENCY_SYMBOL_RIEL",
    "gSIGN_AVAKRAHASANYA mTTHACAN"]), (0x17E0, ["aKHMER_DIGIT_ZERO mONE mTWO nHREE mFOUR nIVE",
    "mSIX nEVEN mEIGHT mNINE"]), (0x17F0, ["aKHMER_SYMBOL_LEK_ATTAK_SON xMUOY xPII xBEI yUON",
    "xPRAM bb-MUOY bcPII bcBEI bdUON"]), (0x1800, ["aMONGOLIAN_BIRGA kELLIPSIS kCOMMA kFULL_STOP",
    "kCOLON kFOUR_DOTS kTODO_SOFT_HYPHEN kSIBE_SYLLABLE_BOUNDARY_MARKER kMANCHU_COMMA rFULL_STOP",
    "kNIRUGU kFREE_VARIATION_SELECTOR_ONE biTWO bjHREE kVOWEL_SEPARATOR",
    "kFREE_VARIATION_SELECTOR_FOUR kDIGIT_ZERO qONE qTWO rHREE qFOUR rIVE qSIX rEVEN qEIGHT",
    "qNINE"]), (0x1820, ["aMONGOLIAN_LETTER_A rE rI rO rU rOE rUE rEE rNA rANG rBA rPA rQA rGA",
    "rMA rLA rSA sHA rTA rDA rCHA rJA rYA rRA rWA rFA rKA sHA rTSA rZA rHAA rZRA rLHA rZHI rCHI",
    "rTODO_LONG_VOWEL_SIGN wE wI wO wU wOE wUE wANG wBA wPA wQA wGA wMA wTA wDA wCHA wJA wTSA",
    "wYA wWA wKA wGAA wHAA wJIA wNIA wDZA rSIBE_E wI xY wUE x wANG wKA wGA wHA wPA wSHA wTA wDA",
    "wJA wFA wGAA wHAA wTSA wZA wRAA wCHA wZHA rMANCHU_I yKA yRA yFA yZHA rCHA_WITH_TWO_DOTS"]),
  (0x1880, ["aMONGOLIAN_LETTER_ALI_GALI_ANUSVARA_ONE baVISARGA_ONE baDAMARU baUBADAMA",
    "baINVERTED_UBADAMA baBALUDA baTHREE_BALUDA baA baI baKA baNGA baCA baTTA bcHA baDDA baNNA",
    "baTA baDA baPA bbHA baSSA baZHA bbA baAH rTODO_ALI_GALI_TA bfZHA rMANCHU_ALI_GALI_GHA bhNGA",
    "bhCA bhJHA bhTTA bhDDHA bhTA bhDHA bhSSA bhCYA bhZHA biA rALI_GALI_HALF_U bfYA",
    "rMANCHU_ALI_GALI_BHA rALI_GALI_DAGALGA rMANCHU_ALI_GALI_LHA"]), (0x18B0, [
    "aCANADIAN_SYLLABICS_OY tAY uAY tWAY tPOY uAY uWOY tTAY tKAY uWAY tMAY tNOY uAY tLAY tSOY",
    "uAY uHOY vAY vWOY tYOY uAY tRAY tNWI tOJIBWAY_NWI tNWII tOJIBWAY_NWII tNWO tOJIBWAY_NWO",
    "tNWOO tOJIBWAY_NWOO tRWEE vI wI vO wO vA tOJIBWAY_P bbT bbK bbC bbM bbN bbS bcH tEASTERN_W",
    "tWESTERN_W tFINAL_SMALL_RING zRAISED_DOT tR-CREE_RWE tWEST-CREE_LOO beAA tTHWE wA uTHWE wOO",
    "wAA uLHWE wOO tSAYISI_SHWE bcOO baHOO tCARRIER_GWU bbDENE_GEE bbGAA bcWA tSAYISI_JUU",
    "tCARRIER_JWA tBEAVER_DENE_L bfR tCARRIER_DENTAL_S"]), (0x1900, [
    "aLIMBU_VOWEL-CARRIER_LETTER gLETTER_KA oHA nGA oHA nNGA nCA oHA nJA oHA nYAN nTA oHA nDA",
    "oHA nNA nPA oHA nBA oHA nMA nYA nRA nLA nWA nSHA oSA oA nHA nGYAN nTRA"]),
  (0x1920, ["aLIMBU_VOWEL_SIGN_A rI rU rEE rAI rOO rAU rE rO gSUBJOINED_LETTER_YA xRA xWA"]),
  (0x1930, ["aLIMBU_SMALL_LETTER_KA tNGA tANUSVARA tTA tNA tPA tMA tRA tLA hIGN_MUKPHRENG",
    "lKEMPHRENG lSA-I"]), (0x1940, ["aLIMBU_SIGN_LOO"]), (0x1944, ["aLIMBU_EXCLAMATION_MARK",
    "gQUESTION_MARK gDIGIT_ZERO mONE mTWO nHREE mFOUR nIVE mSIX nEVEN mEIGHT mNINE",
    "aTAI_LE_LETTER_KA oXA oNGA oTSA oSA oYA oTA pHA oLA oPA pHA oMA oFA oVA oHA oQA oKHA oTSHA",
    "oNA oA oI oEE pH oU oOO p oUE oE oAUE pI"]), (0x1970, ["aTAI_LE_LETTER_TONE-2 t3 t4 t5 t6"]),
  (0x1980, ["aNEW_TAI_LUE_LETTER_HIGH_QA tLOW_QA tHIGH_KA yXA yNGA tLOW_KA xXA xNGA tHIGH_TSA",
    "ySA yYA tLOW_TSA xSA xYA tHIGH_TA zHA yNA tLOW_TA yHA xNA tHIGH_PA zHA yMA tLOW_PA yHA xMA",
    "tHIGH_FA yVA yLA tLOW_FA xVA xLA tHIGH_HA yDA yBA tLOW_HA xDA xBA tHIGH_KVA yXVA tLOW_KVA",
    "xXVA tHIGH_SUA tLOW_SUA"]), (0x19B0, ["aNEW_TAI_LUE_VOWEL_SIGN_VOWEL_SHORTENER xAA xII xU",
    "yU xE xAE xO yA xUE xAY yAY xUY xOY yAY xUEY xIY mLETTER_FINAL_V zNG ba zM zK zD zB",
    "mTONE_MARK-1 w2"]), (0x19D0, ["aNEW_TAI_LUE_DIGIT_ZERO sONE sTWO tHREE sFOUR tIVE sSIX",
    "tEVEN sEIGHT sNINE mTHAM_DIGIT_ONE"]), (0x19DE, ["aNEW_TAI_LUE_SIGN_LAE uV",
    "aKHMER_SYMBOL_PATHAMASAT nMUOY_KOET nPII_KOET nBEI_KOET oUON_KOET nPRAM_KOET r-MUOY_KOET",
    "sPII_KOET sBEI_KOET tUON_KOET nDAP_KOET q-MUOY_KOET rPII_KOET rBEI_KOET sUON_KOET",
    "rPRAM_KOET nTUTEYASAT nMUOY_ROC nPII_ROC nBEI_ROC oUON_ROC nPRAM_ROC r-MUOY_ROC sPII_ROC",
    "sBEI_ROC tUON_ROC nDAP_ROC q-MUOY_ROC rPII_ROC rBEI_ROC sUON_ROC rPRAM_ROC",
    "aBUGINESE_LETTER_KA qGA qNGA sKA qPA qBA qMA rPA qTA qDA qNA rRA qCA qJA qNYA sCA qYA qRA",
    "qLA qVA qSA qA qHA jVOWEL_SIGN_I uU uE uO uAE"]), (0x1A1E, ["aBUGINESE_PALLAWA",
    "jEND_OF_SECTION aTAI_THAM_LETTER_HIGH_KA wHA wXA qLOW_KA vXA vHA qNGA qHIGH_CA wHA qLOW_CA",
    "uSA uCHA qNYA qRATA qHIGH_RATHA qDA qLOW_RATHA qRANA qHIGH_TA wHA qLOW_TA vHA qNA qBA",
    "qHIGH_PA wHA vFA qLOW_PA uFA uPHA qMA qLOW_YA qHIGH_YA qRA rUE qLA rUE qWA qHIGH_SHA wSA wA",
    "vHA qLLA qA qLOW_HA qI rI qU rU qEE qOO qLAE qGREAT_SA jCONSONANT_SIGN_MEDIAL_RA bfLA",
    "yLA_TANG_LAI jSIGN_MAI_KANG_LAI jCONSONANT_SIGN_FINAL_NGA yLOW_PA yHIGH_RATHA_OR_LOW_PA yMA",
    "yBA ySA"]), (0x1A60, ["aTAI_THAM_SIGN_SAKOT jVOWEL_SIGN_A uMAI_SAT uAA uTALL_AA uI vI uUE",
    "vUE v vU uO vA_BELOW vY uE uAE uOO uAI uTHAM_AI uOA_ABOVE jSIGN_MAI_KANG oTONE-1 t2",
    "oKHUEN_TONE-3 z4 z5 oRA_HAAM oMAI_SAM oKHUEN-LUE_KARAN"]), (0x1A7F, [
    "aTAI_THAM_COMBINING_CRYPTOGRAMMIC_DOT jHORA_DIGIT_ZERO uONE uTWO vHREE uFOUR vIVE uSIX",
    "vEVEN uEIGHT uNINE"]), (0x1A90, ["aTAI_THAM_THAM_DIGIT_ZERO uONE uTWO vHREE uFOUR vIVE uSIX",
    "vEVEN uEIGHT uNINE"]), (0x1AA0, ["aTAI_THAM_SIGN_WIANG tWAAK oSAWAN oKEOW oHOY oDOKMAI",
    "oREVERSED_ROTATED_RANA oMAI_YAMOK oKAAN sKUU oSATKAAN vKUU oHANG oCAANG"]),
  (0x1AB0, ["aCOMBINING_DOUBLED_CIRCUMFLEX_ACCENT lIAERESIS-RING kINFINITY kDOWNWARDS_ARROW",
    "kTRIPLE_DOT kX-X_BELOW kWIGGLY_LINE_BELOW kOPEN_MARK_BELOW kDOUBLE_OPEN_MARK_BELOW",
    "kLIGHT_CENTRALIZATION_STROKE_BELOW kSTRONG_CENTRALIZATION_STROKE_BELOW kPARENTHESES_ABOVE",
    "kDOUBLE_PARENTHESES_ABOVE kPARENTHESES_BELOW wOVERLAY kLATIN_SMALL_LETTER_W_BELOW",
    "bdTURNED_W_BELOW lEFT_PARENTHESIS_ABOVE_LEFT kRIGHT_PARENTHESIS_ABOVE_RIGHT",
    "kLEFT_PARENTHESIS_BELOW_LEFT kRIGHT_PARENTHESIS_BELOW_RIGHT kSQUARE_BRACKETS_ABOVE",
    "kNUMBER_SIGN_ABOVE kINVERTED_DOUBLE_ARCH_ABOVE kPLUS_SIGN_ABOVE kDOUBLE_PLUS_SIGN_ABOVE",
    "bbBELOW kTRIPLE_ACUTE_ACCENT kLATIN_SMALL_LETTER_INSULAR_G blR blT"]),
  (0x1B00, ["aBALINESE_SIGN_ULU_RICEM sCANDRA oCECEK oSURANG oBISAH jLETTER_AKARA v_TEDUNG",
    "qIKARA v_TEDUNG qUKARA v_TEDUNG qRA_REPA x_TEDUNG qLA_LENGA y_TEDUNG qEKARA qAIKARA qOKARA",
    "v_TEDUNG qKA s_MAHAPRANA qGA s_GORA qNGA qCA s_LACA qJA s_JERA qNYA qTA_LATIK",
    "tMURDA_MAHAPRANA qDA_MURDA_ALPAPRANA zMAHAPRANA qNA_RAMBAT qTA s_TAWA qDA s_MADU qNA qPA",
    "s_KAPAL qBA s_KEMBANG qMA qYA qRA qLA qWA qSA_SAGA vPA s qHA jSIGN_REREKAN",
    "jVOWEL_SIGN_TEDUNG uULU x_SARI uSUKU y_ILUT uRA_REPA bb_TEDUNG uLA_LENGA bc_TEDUNG uTALING",
    "ba_REPA bbTEDUNG bbREPA_TEDUNG uPEPET z_TEDUNG jADEG_ADEG jLETTER_KAF_SASAK rHOT_SASAK",
    "qTZIR_SASAK qEF_SASAK qVE_SASAK qZAL_SASAK qASYURA_SASAK rRCHAIC_JNYA"]),
  (0x1B50, ["aBALINESE_DIGIT_ZERO pONE pTWO qHREE pFOUR qIVE pSIX qEVEN pEIGHT pNINE jPANTI",
    "lMADA jWINDU jCARIK_PAMUNGKAH pSIKI pPAREREN jPAMENENG jMUSICAL_SYMBOL_DONG zENG zUNG zANG",
    "bc_SURANG zING zAENG zEUNG zAING baNG_GEDE yCOMBINING_TEGEH biENDEP biKEMPUL bmLI biJEGOGAN",
    "biKEMPUL_WITH_JEGOGAN bmLI_WITH_JEGOGAN biBENDE biGONG yRIGHT-HAND_OPEN_DUG bpAG",
    "bjCLOSED_TUK brAK yLEFT-HAND_OPEN_PANG boUNG biCLOSED_PLAK brUK biOPEN_PING jPANTI_LANTANG",
    "lMADA_LANTANG"]), (0x1B80, ["aSUNDANESE_SIGN_PANYECEK sGLAYAR tWISAD kLETTER_A rI rU rAE rO",
    "rE sU rKA rQA rGA rNGA rCA rJA rZA rNYA rTA rDA rNA rPA rFA rVA rBA rMA rYA rRA rLA rWA rSA",
    "rXA rHA kCONSONANT_SIGN_PAMINGKAL bbNYAKRA bdIKU kVOWEL_SIGN_PANGHULU yYUKU yAELAENG yOLONG",
    "xMEPET xNEULEUNG kSIGN_PAMAAEH pVIRAMA kCONSONANT_SIGN_PASANGAN_MA biWA kLETTER_KHA rSYA",
    "kDIGIT_ZERO qONE qTWO rHREE qFOUR rIVE qSIX rEVEN qEIGHT qNINE kAVAGRAHA kLETTER_REU rLEU",
    "rBHA rFINAL_K xM aBATAK_LETTER_A nSIMALUNGUN_A nHA nSIMALUNGUN_HA nMANDAILING_HA nBA",
    "nKARO_BA nPA nSIMALUNGUN_PA nNA nMANDAILING_NA nWA nSIMALUNGUN_WA nPAKPAK_WA nGA",
    "nSIMALUNGUN_GA nJA nDA nRA nSIMALUNGUN_RA nMA nSIMALUNGUN_MA oOUTHERN_TA nNORTHERN_TA nSA",
    "oIMALUNGUN_SA nMANDAILING_SA nYA nSIMALUNGUN_YA nNGA nLA nSIMALUNGUN_LA nNYA nCA nNDA nMBA",
    "nI nU gSIGN_TOMPI gVOWEL_SIGN_E rPAKPAK_E rEE rI rKARO_I rO rKARO_O rU s_FOR_SIMALUNGUN_SA",
    "gCONSONANT_SIGN_NG vH gPANGOLAT jONGONAN"]), (0x1BFC, ["aBATAK_SYMBOL_BINDU_NA_METEK",
    "tPINARBORAS tJUDUL tPANGOLAT aLEPCHA_LETTER_KA pLA pHA oGA pLA oNGA oCA pHA oJA oNYA oTA",
    "pHA oDA oNA oPA pLA pHA oFA pLA oBA pLA oMA pLA oTSA qHA oDZA oYA oRA oLA oHA pLA oVA oSA",
    "pHA oWA oA hSUBJOINED_LETTER_YA yRA hVOWEL_SIGN_AA sI sO tO sU tU sE hCONSONANT_SIGN_K wM",
    "wL wN wP wR wT wNYIN-DO wKANG hSIGN_RAN mNUKTA"]), (0x1C3B, ["aLEPCHA_PUNCTUATION_TA-ROL",
    "tNYET_THYOOM_TA-ROL tCER-WA tTSHOOK_CER-WA z hDIGIT_ZERO nONE nTWO oHREE nFOUR oIVE nSIX",
    "oEVEN nEIGHT nNINE"]), (0x1C4D, ["aLEPCHA_LETTER_TTA qHA oDDA aOL_CHIKI_DIGIT_ZERO pONE",
    "pTWO qHREE pFOUR qIVE pSIX qEVEN pEIGHT pNINE jLETTER_LA qAT rG rNG rL qLAA qAAK sJ sM sW",
    "qLI qIS rH rNY rR qLU qUC rD rNN rY qLE qEP rDD rN rRR qLO qOTT rB rV rH jMU_TTUDDAG",
    "jGAAHLAA_TTUDDAAG jMU-GAAHLAA_TTUDDAAG jRELAA jPHAARKAA jAHAD jPUNCTUATION_MUCAAD",
    "vDOUBLE_MUCAAD aCYRILLIC_SMALL_LETTER_ROUNDED_VE wLONG-LEGGED_DE wNARROW_O wWIDE_ES",
    "wTALL_TE xHREE-LEGGED_TE xALL_HARD_SIGN bbYAT wUNBLENDED_UK"]), (0x1C90, [
    "aGEORGIAN_MTAVRULI_CAPITAL_LETTER_AN bhBAN bhGAN bhDON bhEN bhVIN bhZEN bhTAN bhIN bhKAN",
    "bhLAS bhMAN bhNAR bhON bhPAR bhZHAR bhRAE bhSAN bhTAR bhUN bhPHAR bhKHAR bhGHAN bhQAR",
    "bhSHIN bhCHIN biAN bhJIL bhCIL biHAR bhXAN bhJHAN bhHAE biE biIE bhWE bhHAR biOE bhFI bhYN",
    "bhELIFI bhTURNED_GAN bhAIN"]), (0x1CBD, ["aGEORGIAN_MTAVRULI_CAPITAL_LETTER_AEN bhHARD_SIGN",
    "bhLABIAL_SIGN aSUNDANESE_PUNCTUATION_BINDU_SURYA bcPANGLONG bdURNAMA bcCAKRA bcLEU_SATANGA",
    "bcKA_SATANGA bcDA_SATANGA bcBA_SATANGA"]), (0x1CD0, ["aVEDIC_TONE_KARSHANA lSHARA lPRENKHA",
    "gSIGN_NIHSHVASA lYAJURVEDIC_MIDLINE_SVARITA gTONE_YAJURVEDIC_AGGRAVATED_INDEPENDENT_SVARITA",
    "wINDEPENDENT_SVARITA wKATHAKA_INDEPENDENT_SVARITA lCANDRA_BELOW",
    "lYAJURVEDIC_KATHAKA_INDEPENDENT_SVARITA_SCHROEDER lDOUBLE_SVARITA lTRIPLE_SVARITA",
    "lKATHAKA_ANUDATTA lDOT_BELOW lTWO_DOTS_BELOW mHREE_DOTS_BELOW",
    "lRIGVEDIC_KASHMIRI_INDEPENDENT_SVARITA lATHARVAVEDIC_INDEPENDENT_SVARITA",
    "gSIGN_VISARGA_SVARITA tUDATTA lREVERSED_VISARGA_UDATTA lVISARGA_ANUDATTA",
    "lREVERSED_VISARGA_ANUDATTA lVISARGA_UDATTA_WITH_TAIL tANUDATTA_WITH_TAIL",
    "lANUSVARA_ANTARGOMUKHA uBAHIRGOMUKHA uVAMAGOMUKHA bf_WITH_TAIL lTIRYAK",
    "lHEXIFORM_LONG_ANUSVARA lLONG_ANUSVARA lRTHANG_LONG_ANUSVARA lANUSVARA_UBHAYATO_MUKHA",
    "mRDHAVISARGA lROTATED_ARDHAVISARGA gTONE_CANDRA_ABOVE gSIGN_JIHVAMULIYA lUPADHMANIYA",
    "lATIKRAMA gTONE_RING_ABOVE lDOUBLE_RING_ABOVE gSIGN_DOUBLE_ANUSVARA_ANTARGOMUKHA"]),
  (0x1D00, ["aLATIN_LETTER_SMALL_CAPITAL_A bcE gSMALL_LETTER_TURNED_AE",
    "gLETTER_SMALL_CAPITAL_BARRED_B bbC bbD bbETH bc gSMALL_LETTER_TURNED_OPEN_E baI",
    "gLETTER_SMALL_CAPITAL_J bbK bbL_WITH_STROKE bbM bbREVERSED_N bbO bcPEN_O",
    "gSMALL_LETTER_SIDEWAYS_O bdPEN_O bd_WITH_STROKE tTURNED_OE gLETTER_SMALL_CAPITAL_OU",
    "gSMALL_LETTER_TOP_HALF_O tBOTTOM_HALF_O gLETTER_SMALL_CAPITAL_P bbREVERSED_R bbTURNED_R bc",
    "bbU gSMALL_LETTER_SIDEWAYS_U bcDIAERESIZED_U bcTURNED_M gLETTER_SMALL_CAPITAL_V bbW bbZ",
    "bbEZH nVOICED_LARYNGEAL_SPIRANT nAIN aGREEK_LETTER_SMALL_CAPITAL_GAMMA bbLAMDA bbPI bbRHO",
    "bbPSI aCYRILLIC_LETTER_SMALL_CAPITAL_EL aMODIFIER_LETTER_CAPITAL_A zE yB zARRED_B yD yE",
    "yREVERSED_E yG yH yI yJ yK yL yM yN yREVERSED_N yO zU yP yR yT yU yW qSMALL_A wTURNED_A",
    "wALPHA wTURNED_AE wB wD wE wSCHWA wOPEN_E wTURNED_OPEN_E wG wTURNED_I wK wM wENG wO xPEN_O",
    "wTOP_HALF_O wBOTTOM_HALF_O wP wT wU wSIDEWAYS_U wTURNED_M wV wAIN wBETA wGREEK_GAMMA wDELTA",
    "wGREEK_PHI wCHI aLATIN_SUBSCRIPT_SMALL_LETTER_I bdR bdU bdV",
    "aGREEK_SUBSCRIPT_SMALL_LETTER_BETA bdGAMMA bdRHO bdPHI bdCHI aLATIN_SMALL_LETTER_UE",
    "tB_WITH_MIDDLE_TILDE tD_WITH_MIDDLE_TILDE tF_WITH_MIDDLE_TILDE tM_WITH_MIDDLE_TILDE",
    "tN_WITH_MIDDLE_TILDE tP_WITH_MIDDLE_TILDE tR_WITH_MIDDLE_TILDE baFISHHOOK_AND_MIDDLE_TILDE",
    "tS_WITH_MIDDLE_TILDE tT_WITH_MIDDLE_TILDE tZ_WITH_MIDDLE_TILDE tTURNED_G",
    "aMODIFIER_LETTER_CYRILLIC_EN aLATIN_SMALL_LETTER_INSULAR_G tTH_WITH_STRIKETHROUGH",
    "mCAPITAL_LETTER_I_WITH_STROKE mLETTER_IOTA_WITH_STROKE tP_WITH_STROKE",
    "mCAPITAL_LETTER_U_WITH_STROKE mLETTER_UPSILON_WITH_STROKE tB_WITH_PALATAL_HOOK",
    "tD_WITH_PALATAL_HOOK tF_WITH_PALATAL_HOOK tG_WITH_PALATAL_HOOK tK_WITH_PALATAL_HOOK",
    "tL_WITH_PALATAL_HOOK tM_WITH_PALATAL_HOOK tN_WITH_PALATAL_HOOK tP_WITH_PALATAL_HOOK",
    "tR_WITH_PALATAL_HOOK tS_WITH_PALATAL_HOOK tESH_WITH_PALATAL_HOOK tV_WITH_PALATAL_HOOK",
    "tX_WITH_PALATAL_HOOK tZ_WITH_PALATAL_HOOK tA_WITH_RETROFLEX_HOOK uLPHA_WITH_RETROFLEX_HOOK",
    "tD_WITH_HOOK_AND_TAIL tE_WITH_RETROFLEX_HOOK tOPEN_E_WITH_RETROFLEX_HOOK",
    "tREVERSED_OPEN_E_WITH_RETROFLEX_HOOK tSCHWA_WITH_RETROFLEX_HOOK tI_WITH_RETROFLEX_HOOK",
    "tOPEN_O_WITH_RETROFLEX_HOOK tESH_WITH_RETROFLEX_HOOK tU_WITH_RETROFLEX_HOOK",
    "tEZH_WITH_RETROFLEX_HOOK aMODIFIER_LETTER_SMALL_TURNED_ALPHA wC x_WITH_CURL wETH",
    "wREVERSED_OPEN_E wF wDOTLESS_J_WITH_STROKE wSCRIPT_G wTURNED_H wI_WITH_STROKE xOTA",
    "wCAPITAL_I bf_WITH_STROKE wJ_WITH_CROSSED-TAIL wL_WITH_RETROFLEX_HOOK bdPALATAL_HOOK",
    "wCAPITAL_L wM_WITH_HOOK wTURNED_M_WITH_LONG_LEG wN_WITH_LEFT_HOOK bdRETROFLEX_HOOK",
    "wCAPITAL_N wBARRED_O wPHI wS_WITH_HOOK wESH wT_WITH_PALATAL_HOOK wU_BAR xPSILON wCAPITAL_U",
    "wV_WITH_HOOK wTURNED_V wZ x_WITH_RETROFLEX_HOOK bdCURL wEZH wTHETA",
    "aCOMBINING_DOTTED_GRAVE_ACCENT rACUTE_ACCENT kSNAKE_BELOW lUSPENSION_MARK kMACRON-ACUTE",
    "kGRAVE-MACRON kMACRON-GRAVE kACUTE-MACRON kGRAVE-ACUTE-GRAVE kACUTE-GRAVE-ACUTE",
    "kLATIN_SMALL_LETTER_R_BELOW kBREVE-MACRON kMACRON-BREVE kDOUBLE_CIRCUMFLEX_ABOVE",
    "kOGONEK_ABOVE kZIGZAG_BELOW kIS_BELOW kUR_ABOVE lS_ABOVE",
    "kLATIN_SMALL_LETTER_FLATTENED_OPEN_A_ABOVE bdAE beO beV bdC_CEDILLA bdINSULAR_D bdETH bdG",
    "qLETTER_SMALL_CAPITAL_G qSMALL_LETTER_K bdL qLETTER_SMALL_CAPITAL_L blM qSMALL_LETTER_N",
    "qLETTER_SMALL_CAPITAL_N blR qSMALL_LETTER_R_ROTUNDA bdS bdLONG_S bdZ bdALPHA bdB beETA",
    "bdSCHWA bdF bdL_WITH_DOUBLE_MIDDLE_TILDE bdO_WITH_LIGHT_CENTRALIZATION_STROKE bdP bdESH",
    "bdU_WITH_LIGHT_CENTRALIZATION_STROKE bdW bdA_WITH_DIAERESIS bdO_WITH_DIAERESIS",
    "bdU_WITH_DIAERESIS kUP_TACK_ABOVE kKAVYKA_ABOVE_RIGHT xLEFT kDOT_ABOVE_LEFT",
    "kWIDE_INVERTED_BRIDGE_BELOW kDOT_BELOW_LEFT lELETION_MARK lOUBLE_INVERTED_BREVE_BELOW",
    "kALMOST_EQUAL_TO_BELOW kLEFT_ARROWHEAD_ABOVE kRIGHT_ARROWHEAD_AND_DOWN_ARROWHEAD_BELOW",
    "aLATIN_CAPITAL_LETTER_A_WITH_RING_BELOW gSMALL_LETTER_A_WITH_RING_BELOW",
    "gCAPITAL_LETTER_B_WITH_DOT_ABOVE gSMALL_LETTER_B_WITH_DOT_ABOVE",
    "gCAPITAL_LETTER_B_WITH_DOT_BELOW gSMALL_LETTER_B_WITH_DOT_BELOW",
    "gCAPITAL_LETTER_B_WITH_LINE_BELOW gSMALL_LETTER_B_WITH_LINE_BELOW",
    "gCAPITAL_LETTER_C_WITH_CEDILLA_AND_ACUTE gSMALL_LETTER_C_WITH_CEDILLA_AND_ACUTE",
    "gCAPITAL_LETTER_D_WITH_DOT_ABOVE gSMALL_LETTER_D_WITH_DOT_ABOVE",
    "gCAPITAL_LETTER_D_WITH_DOT_BELOW gSMALL_LETTER_D_WITH_DOT_BELOW",
    "gCAPITAL_LETTER_D_WITH_LINE_BELOW gSMALL_LETTER_D_WITH_LINE_BELOW",
    "gCAPITAL_LETTER_D_WITH_CEDILLA gSMALL_LETTER_D_WITH_CEDILLA",
    "gCAPITAL_LETTER_D_WITH_CIRCUMFLEX_BELOW gSMALL_LETTER_D_WITH_CIRCUMFLEX_BELOW",
    "gCAPITAL_LETTER_E_WITH_MACRON_AND_GRAVE gSMALL_LETTER_E_WITH_MACRON_AND_GRAVE",
    "gCAPITAL_LETTER_E_WITH_MACRON_AND_ACUTE gSMALL_LETTER_E_WITH_MACRON_AND_ACUTE",
    "gCAPITAL_LETTER_E_WITH_CIRCUMFLEX_BELOW gSMALL_LETTER_E_WITH_CIRCUMFLEX_BELOW",
    "gCAPITAL_LETTER_E_WITH_TILDE_BELOW gSMALL_LETTER_E_WITH_TILDE_BELOW",
    "gCAPITAL_LETTER_E_WITH_CEDILLA_AND_BREVE gSMALL_LETTER_E_WITH_CEDILLA_AND_BREVE",
    "gCAPITAL_LETTER_F_WITH_DOT_ABOVE gSMALL_LETTER_F_WITH_DOT_ABOVE",
    "gCAPITAL_LETTER_G_WITH_MACRON gSMALL_LETTER_G_WITH_MACRON gCAPITAL_LETTER_H_WITH_DOT_ABOVE",
    "gSMALL_LETTER_H_WITH_DOT_ABOVE gCAPITAL_LETTER_H_WITH_DOT_BELOW",
    "gSMALL_LETTER_H_WITH_DOT_BELOW gCAPITAL_LETTER_H_WITH_DIAERESIS",
    "gSMALL_LETTER_H_WITH_DIAERESIS gCAPITAL_LETTER_H_WITH_CEDILLA gSMALL_LETTER_H_WITH_CEDILLA",
    "gCAPITAL_LETTER_H_WITH_BREVE_BELOW gSMALL_LETTER_H_WITH_BREVE_BELOW",
    "gCAPITAL_LETTER_I_WITH_TILDE_BELOW gSMALL_LETTER_I_WITH_TILDE_BELOW",
    "gCAPITAL_LETTER_I_WITH_DIAERESIS_AND_ACUTE gSMALL_LETTER_I_WITH_DIAERESIS_AND_ACUTE",
    "gCAPITAL_LETTER_K_WITH_ACUTE gSMALL_LETTER_K_WITH_ACUTE gCAPITAL_LETTER_K_WITH_DOT_BELOW",
    "gSMALL_LETTER_K_WITH_DOT_BELOW gCAPITAL_LETTER_K_WITH_LINE_BELOW",
    "gSMALL_LETTER_K_WITH_LINE_BELOW gCAPITAL_LETTER_L_WITH_DOT_BELOW",
    "gSMALL_LETTER_L_WITH_DOT_BELOW gCAPITAL_LETTER_L_WITH_DOT_BELOW_AND_MACRON",
    "gSMALL_LETTER_L_WITH_DOT_BELOW_AND_MACRON gCAPITAL_LETTER_L_WITH_LINE_BELOW",
    "gSMALL_LETTER_L_WITH_LINE_BELOW gCAPITAL_LETTER_L_WITH_CIRCUMFLEX_BELOW",
    "gSMALL_LETTER_L_WITH_CIRCUMFLEX_BELOW gCAPITAL_LETTER_M_WITH_ACUTE",
    "gSMALL_LETTER_M_WITH_ACUTE gCAPITAL_LETTER_M_WITH_DOT_ABOVE gSMALL_LETTER_M_WITH_DOT_ABOVE",
    "gCAPITAL_LETTER_M_WITH_DOT_BELOW gSMALL_LETTER_M_WITH_DOT_BELOW",
    "gCAPITAL_LETTER_N_WITH_DOT_ABOVE gSMALL_LETTER_N_WITH_DOT_ABOVE",
    "gCAPITAL_LETTER_N_WITH_DOT_BELOW gSMALL_LETTER_N_WITH_DOT_BELOW",
    "gCAPITAL_LETTER_N_WITH_LINE_BELOW gSMALL_LETTER_N_WITH_LINE_BELOW",
    "gCAPITAL_LETTER_N_WITH_CIRCUMFLEX_BELOW gSMALL_LETTER_N_WITH_CIRCUMFLEX_BELOW",
    "gCAPITAL_LETTER_O_WITH_TILDE_AND_ACUTE gSMALL_LETTER_O_WITH_TILDE_AND_ACUTE",
    "gCAPITAL_LETTER_O_WITH_TILDE_AND_DIAERESIS gSMALL_LETTER_O_WITH_TILDE_AND_DIAERESIS",
    "gCAPITAL_LETTER_O_WITH_MACRON_AND_GRAVE gSMALL_LETTER_O_WITH_MACRON_AND_GRAVE",
    "gCAPITAL_LETTER_O_WITH_MACRON_AND_ACUTE gSMALL_LETTER_O_WITH_MACRON_AND_ACUTE",
    "gCAPITAL_LETTER_P_WITH_ACUTE gSMALL_LETTER_P_WITH_ACUTE gCAPITAL_LETTER_P_WITH_DOT_ABOVE",
    "gSMALL_LETTER_P_WITH_DOT_ABOVE gCAPITAL_LETTER_R_WITH_DOT_ABOVE",
    "gSMALL_LETTER_R_WITH_DOT_ABOVE gCAPITAL_LETTER_R_WITH_DOT_BELOW",
    "gSMALL_LETTER_R_WITH_DOT_BELOW gCAPITAL_LETTER_R_WITH_DOT_BELOW_AND_MACRON",
    "gSMALL_LETTER_R_WITH_DOT_BELOW_AND_MACRON gCAPITAL_LETTER_R_WITH_LINE_BELOW",
    "gSMALL_LETTER_R_WITH_LINE_BELOW gCAPITAL_LETTER_S_WITH_DOT_ABOVE",
    "gSMALL_LETTER_S_WITH_DOT_ABOVE gCAPITAL_LETTER_S_WITH_DOT_BELOW",
    "gSMALL_LETTER_S_WITH_DOT_BELOW gCAPITAL_LETTER_S_WITH_ACUTE_AND_DOT_ABOVE",
    "gSMALL_LETTER_S_WITH_ACUTE_AND_DOT_ABOVE gCAPITAL_LETTER_S_WITH_CARON_AND_DOT_ABOVE",
    "gSMALL_LETTER_S_WITH_CARON_AND_DOT_ABOVE gCAPITAL_LETTER_S_WITH_DOT_BELOW_AND_DOT_ABOVE",
    "gSMALL_LETTER_S_WITH_DOT_BELOW_AND_DOT_ABOVE gCAPITAL_LETTER_T_WITH_DOT_ABOVE",
    "gSMALL_LETTER_T_WITH_DOT_ABOVE gCAPITAL_LETTER_T_WITH_DOT_BELOW",
    "gSMALL_LETTER_T_WITH_DOT_BELOW gCAPITAL_LETTER_T_WITH_LINE_BELOW",
    "gSMALL_LETTER_T_WITH_LINE_BELOW gCAPITAL_LETTER_T_WITH_CIRCUMFLEX_BELOW",
    "gSMALL_LETTER_T_WITH_CIRCUMFLEX_BELOW gCAPITAL_LETTER_U_WITH_DIAERESIS_BELOW",
    "gSMALL_LETTER_U_WITH_DIAERESIS_BELOW gCAPITAL_LETTER_U_WITH_TILDE_BELOW",
    "gSMALL_LETTER_U_WITH_TILDE_BELOW gCAPITAL_LETTER_U_WITH_CIRCUMFLEX_BELOW",
    "gSMALL_LETTER_U_WITH_CIRCUMFLEX_BELOW gCAPITAL_LETTER_U_WITH_TILDE_AND_ACUTE",
    "gSMALL_LETTER_U_WITH_TILDE_AND_ACUTE gCAPITAL_LETTER_U_WITH_MACRON_AND_DIAERESIS",
    "gSMALL_LETTER_U_WITH_MACRON_AND_DIAERESIS gCAPITAL_LETTER_V_WITH_TILDE",
    "gSMALL_LETTER_V_WITH_TILDE gCAPITAL_LETTER_V_WITH_DOT_BELOW gSMALL_LETTER_V_WITH_DOT_BELOW",
    "gCAPITAL_LETTER_W_WITH_GRAVE gSMALL_LETTER_W_WITH_GRAVE gCAPITAL_LETTER_W_WITH_ACUTE",
    "gSMALL_LETTER_W_WITH_ACUTE gCAPITAL_LETTER_W_WITH_DIAERESIS gSMALL_LETTER_W_WITH_DIAERESIS",
    "gCAPITAL_LETTER_W_WITH_DOT_ABOVE gSMALL_LETTER_W_WITH_DOT_ABOVE",
    "gCAPITAL_LETTER_W_WITH_DOT_BELOW gSMALL_LETTER_W_WITH_DOT_BELOW",
    "gCAPITAL_LETTER_X_WITH_DOT_ABOVE gSMALL_LETTER_X_WITH_DOT_ABOVE",
    "gCAPITAL_LETTER_X_WITH_DIAERESIS gSMALL_LETTER_X_WITH_DIAERESIS",
    "gCAPITAL_LETTER_Y_WITH_DOT_ABOVE gSMALL_LETTER_Y_WITH_DOT_ABOVE",
    "gCAPITAL_LETTER_Z_WITH_CIRCUMFLEX gSMALL_LETTER_Z_WITH_CIRCUMFLEX",
    "gCAPITAL_LETTER_Z_WITH_DOT_BELOW gSMALL_LETTER_Z_WITH_DOT_BELOW",
    "gCAPITAL_LETTER_Z_WITH_LINE_BELOW gSMALL_LETTER_Z_WITH_LINE_BELOW tH_WITH_LINE_BELOW",
    "tT_WITH_DIAERESIS tW_WITH_RING_ABOVE tY_WITH_RING_ABOVE tA_WITH_RIGHT_HALF_RING",
    "tLONG_S_WITH_DOT_ABOVE bgIAGONAL_STROKE bfHIGH_STROKE gCAPITAL_LETTER_SHARP_S",
    "gSMALL_LETTER_DELTA gCAPITAL_LETTER_A_WITH_DOT_BELOW gSMALL_LETTER_A_WITH_DOT_BELOW",
    "gCAPITAL_LETTER_A_WITH_HOOK_ABOVE gSMALL_LETTER_A_WITH_HOOK_ABOVE",
    "gCAPITAL_LETTER_A_WITH_CIRCUMFLEX_AND_ACUTE gSMALL_LETTER_A_WITH_CIRCUMFLEX_AND_ACUTE",
    "gCAPITAL_LETTER_A_WITH_CIRCUMFLEX_AND_GRAVE gSMALL_LETTER_A_WITH_CIRCUMFLEX_AND_GRAVE",
    "gCAPITAL_LETTER_A_WITH_CIRCUMFLEX_AND_HOOK_ABOVE",
    "gSMALL_LETTER_A_WITH_CIRCUMFLEX_AND_HOOK_ABOVE gCAPITAL_LETTER_A_WITH_CIRCUMFLEX_AND_TILDE",
    "gSMALL_LETTER_A_WITH_CIRCUMFLEX_AND_TILDE gCAPITAL_LETTER_A_WITH_CIRCUMFLEX_AND_DOT_BELOW",
    "gSMALL_LETTER_A_WITH_CIRCUMFLEX_AND_DOT_BELOW gCAPITAL_LETTER_A_WITH_BREVE_AND_ACUTE",
    "gSMALL_LETTER_A_WITH_BREVE_AND_ACUTE gCAPITAL_LETTER_A_WITH_BREVE_AND_GRAVE",
    "gSMALL_LETTER_A_WITH_BREVE_AND_GRAVE gCAPITAL_LETTER_A_WITH_BREVE_AND_HOOK_ABOVE",
    "gSMALL_LETTER_A_WITH_BREVE_AND_HOOK_ABOVE gCAPITAL_LETTER_A_WITH_BREVE_AND_TILDE",
    "gSMALL_LETTER_A_WITH_BREVE_AND_TILDE gCAPITAL_LETTER_A_WITH_BREVE_AND_DOT_BELOW",
    "gSMALL_LETTER_A_WITH_BREVE_AND_DOT_BELOW gCAPITAL_LETTER_E_WITH_DOT_BELOW",
    "gSMALL_LETTER_E_WITH_DOT_BELOW gCAPITAL_LETTER_E_WITH_HOOK_ABOVE",
    "gSMALL_LETTER_E_WITH_HOOK_ABOVE gCAPITAL_LETTER_E_WITH_TILDE gSMALL_LETTER_E_WITH_TILDE",
    "gCAPITAL_LETTER_E_WITH_CIRCUMFLEX_AND_ACUTE gSMALL_LETTER_E_WITH_CIRCUMFLEX_AND_ACUTE",
    "gCAPITAL_LETTER_E_WITH_CIRCUMFLEX_AND_GRAVE gSMALL_LETTER_E_WITH_CIRCUMFLEX_AND_GRAVE",
    "gCAPITAL_LETTER_E_WITH_CIRCUMFLEX_AND_HOOK_ABOVE",
    "gSMALL_LETTER_E_WITH_CIRCUMFLEX_AND_HOOK_ABOVE gCAPITAL_LETTER_E_WITH_CIRCUMFLEX_AND_TILDE",
    "gSMALL_LETTER_E_WITH_CIRCUMFLEX_AND_TILDE gCAPITAL_LETTER_E_WITH_CIRCUMFLEX_AND_DOT_BELOW",
    "gSMALL_LETTER_E_WITH_CIRCUMFLEX_AND_DOT_BELOW gCAPITAL_LETTER_I_WITH_HOOK_ABOVE",
    "gSMALL_LETTER_I_WITH_HOOK_ABOVE gCAPITAL_LETTER_I_WITH_DOT_BELOW",
    "gSMALL_LETTER_I_WITH_DOT_BELOW gCAPITAL_LETTER_O_WITH_DOT_BELOW",
    "gSMALL_LETTER_O_WITH_DOT_BELOW gCAPITAL_LETTER_O_WITH_HOOK_ABOVE",
    "gSMALL_LETTER_O_WITH_HOOK_ABOVE gCAPITAL_LETTER_O_WITH_CIRCUMFLEX_AND_ACUTE",
    "gSMALL_LETTER_O_WITH_CIRCUMFLEX_AND_ACUTE gCAPITAL_LETTER_O_WITH_CIRCUMFLEX_AND_GRAVE",
    "gSMALL_LETTER_O_WITH_CIRCUMFLEX_AND_GRAVE gCAPITAL_LETTER_O_WITH_CIRCUMFLEX_AND_HOOK_ABOVE",
    "gSMALL_LETTER_O_WITH_CIRCUMFLEX_AND_HOOK_ABOVE gCAPITAL_LETTER_O_WITH_CIRCUMFLEX_AND_TILDE",
    "gSMALL_LETTER_O_WITH_CIRCUMFLEX_AND_TILDE gCAPITAL_LETTER_O_WITH_CIRCUMFLEX_AND_DOT_BELOW",
    "gSMALL_LETTER_O_WITH_CIRCUMFLEX_AND_DOT_BELOW gCAPITAL_LETTER_O_WITH_HORN_AND_ACUTE",
    "gSMALL_LETTER_O_WITH_HORN_AND_ACUTE gCAPITAL_LETTER_O_WITH_HORN_AND_GRAVE",
    "gSMALL_LETTER_O_WITH_HORN_AND_GRAVE gCAPITAL_LETTER_O_WITH_HORN_AND_HOOK_ABOVE",
    "gSMALL_LETTER_O_WITH_HORN_AND_HOOK_ABOVE gCAPITAL_LETTER_O_WITH_HORN_AND_TILDE",
    "gSMALL_LETTER_O_WITH_HORN_AND_TILDE gCAPITAL_LETTER_O_WITH_HORN_AND_DOT_BELOW",
    "gSMALL_LETTER_O_WITH_HORN_AND_DOT_BELOW gCAPITAL_LETTER_U_WITH_DOT_BELOW",
    "gSMALL_LETTER_U_WITH_DOT_BELOW gCAPITAL_LETTER_U_WITH_HOOK_ABOVE",
    "gSMALL_LETTER_U_WITH_HOOK_ABOVE gCAPITAL_LETTER_U_WITH_HORN_AND_ACUTE",
    "gSMALL_LETTER_U_WITH_HORN_AND_ACUTE gCAPITAL_LETTER_U_WITH_HORN_AND_GRAVE",
    "gSMALL_LETTER_U_WITH_HORN_AND_GRAVE gCAPITAL_LETTER_U_WITH_HORN_AND_HOOK_ABOVE",
    "gSMALL_LETTER_U_WITH_HORN_AND_HOOK_ABOVE gCAPITAL_LETTER_U_WITH_HORN_AND_TILDE",
    "gSMALL_LETTER_U_WITH_HORN_AND_TILDE gCAPITAL_LETTER_U_WITH_HORN_AND_DOT_BELOW",
    "gSMALL_LETTER_U_WITH_HORN_AND_DOT_BELOW gCAPITAL_LETTER_Y_WITH_GRAVE",
    "gSMALL_LETTER_Y_WITH_GRAVE gCAPITAL_LETTER_Y_WITH_DOT_BELOW gSMALL_LETTER_Y_WITH_DOT_BELOW",
    "gCAPITAL_LETTER_Y_WITH_HOOK_ABOVE gSMALL_LETTER_Y_WITH_HOOK_ABOVE",
    "gCAPITAL_LETTER_Y_WITH_TILDE gSMALL_LETTER_Y_WITH_TILDE gCAPITAL_LETTER_MIDDLE-WELSH_LL",
    "gSMALL_LETTER_MIDDLE-WELSH_LL gCAPITAL_LETTER_MIDDLE-WELSH_V gSMALL_LETTER_MIDDLE-WELSH_V",
    "gCAPITAL_LETTER_Y_WITH_LOOP gSMALL_LETTER_Y_WITH_LOOP aGREEK_SMALL_LETTER_ALPHA_WITH_PSILI",
    "beDASIA bePSILI_AND_VARIA beDASIA_AND_VARIA bePSILI_AND_OXIA beDASIA_AND_OXIA",
    "bePSILI_AND_PERISPOMENI beDASIA_AND_PERISPOMENI gCAPITAL_LETTER_ALPHA_WITH_PSILI bgDASIA",
    "bgPSILI_AND_VARIA bgDASIA_AND_VARIA bgPSILI_AND_OXIA bgDASIA_AND_OXIA",
    "bgPSILI_AND_PERISPOMENI bgDASIA_AND_PERISPOMENI gSMALL_LETTER_EPSILON_WITH_PSILI bgDASIA",
    "bgPSILI_AND_VARIA bgDASIA_AND_VARIA bgPSILI_AND_OXIA bgDASIA_AND_OXIA"]),
  (0x1F18, ["aGREEK_CAPITAL_LETTER_EPSILON_WITH_PSILI biDASIA biPSILI_AND_VARIA",
    "biDASIA_AND_VARIA biPSILI_AND_OXIA biDASIA_AND_OXIA"]), (0x1F20, [
    "aGREEK_SMALL_LETTER_ETA_WITH_PSILI bcDASIA bcPSILI_AND_VARIA bcDASIA_AND_VARIA",
    "bcPSILI_AND_OXIA bcDASIA_AND_OXIA bcPSILI_AND_PERISPOMENI bcDASIA_AND_PERISPOMENI",
    "gCAPITAL_LETTER_ETA_WITH_PSILI beDASIA bePSILI_AND_VARIA beDASIA_AND_VARIA bePSILI_AND_OXIA",
    "beDASIA_AND_OXIA bePSILI_AND_PERISPOMENI beDASIA_AND_PERISPOMENI",
    "gSMALL_LETTER_IOTA_WITH_PSILI bdDASIA bdPSILI_AND_VARIA bdDASIA_AND_VARIA bdPSILI_AND_OXIA",
    "bdDASIA_AND_OXIA bdPSILI_AND_PERISPOMENI bdDASIA_AND_PERISPOMENI",
    "gCAPITAL_LETTER_IOTA_WITH_PSILI bfDASIA bfPSILI_AND_VARIA bfDASIA_AND_VARIA",
    "bfPSILI_AND_OXIA bfDASIA_AND_OXIA bfPSILI_AND_PERISPOMENI bfDASIA_AND_PERISPOMENI",
    "gSMALL_LETTER_OMICRON_WITH_PSILI bgDASIA bgPSILI_AND_VARIA bgDASIA_AND_VARIA",
    "bgPSILI_AND_OXIA bgDASIA_AND_OXIA"]), (0x1F48, ["aGREEK_CAPITAL_LETTER_OMICRON_WITH_PSILI",
    "biDASIA biPSILI_AND_VARIA biDASIA_AND_VARIA biPSILI_AND_OXIA biDASIA_AND_OXIA"]),
  (0x1F50, ["aGREEK_SMALL_LETTER_UPSILON_WITH_PSILI bgDASIA bgPSILI_AND_VARIA bgDASIA_AND_VARIA",
    "bgPSILI_AND_OXIA bgDASIA_AND_OXIA bgPSILI_AND_PERISPOMENI bgDASIA_AND_PERISPOMENI"]),
  (0x1F59, ["aGREEK_CAPITAL_LETTER_UPSILON_WITH_DASIA"]), (0x1F5B, [
    "aGREEK_CAPITAL_LETTER_UPSILON_WITH_DASIA_AND_VARIA"]), (0x1F5D, [
    "aGREEK_CAPITAL_LETTER_UPSILON_WITH_DASIA_AND_OXIA"]), (0x1F5F, [
    "aGREEK_CAPITAL_LETTER_UPSILON_WITH_DASIA_AND_PERISPOMENI gSMALL_LETTER_OMEGA_WITH_PSILI",
    "beDASIA bePSILI_AND_VARIA beDASIA_AND_VARIA bePSILI_AND_OXIA beDASIA_AND_OXIA",
    "bePSILI_AND_PERISPOMENI beDASIA_AND_PERISPOMENI gCAPITAL_LETTER_OMEGA_WITH_PSILI bgDASIA",
    "bgPSILI_AND_VARIA bgDASIA_AND_VARIA bgPSILI_AND_OXIA bgDASIA_AND_OXIA",
    "bgPSILI_AND_PERISPOMENI bgDASIA_AND_PERISPOMENI gSMALL_LETTER_ALPHA_WITH_VARIA beOXIA",
    "tEPSILON_WITH_VARIA bgOXIA uTA_WITH_VARIA bcOXIA tIOTA_WITH_VARIA bdOXIA",
    "tOMICRON_WITH_VARIA bgOXIA tUPSILON_WITH_VARIA bgOXIA tOMEGA_WITH_VARIA beOXIA"]),
  (0x1F80, ["aGREEK_SMALL_LETTER_ALPHA_WITH_PSILI_AND_YPOGEGRAMMENI beDASIA_AND_YPOGEGRAMMENI",
    "bePSILI_AND_VARIA_AND_YPOGEGRAMMENI beDASIA_AND_VARIA_AND_YPOGEGRAMMENI",
    "bePSILI_AND_OXIA_AND_YPOGEGRAMMENI beDASIA_AND_OXIA_AND_YPOGEGRAMMENI",
    "bePSILI_AND_PERISPOMENI_AND_YPOGEGRAMMENI beDASIA_AND_PERISPOMENI_AND_YPOGEGRAMMENI",
    "gCAPITAL_LETTER_ALPHA_WITH_PSILI_AND_PROSGEGRAMMENI bgDASIA_AND_PROSGEGRAMMENI",
    "bgPSILI_AND_VARIA_AND_PROSGEGRAMMENI bgDASIA_AND_VARIA_AND_PROSGEGRAMMENI",
    "bgPSILI_AND_OXIA_AND_PROSGEGRAMMENI bgDASIA_AND_OXIA_AND_PROSGEGRAMMENI",
    "bgPSILI_AND_PERISPOMENI_AND_PROSGEGRAMMENI bgDASIA_AND_PERISPOMENI_AND_PROSGEGRAMMENI",
    "gSMALL_LETTER_ETA_WITH_PSILI_AND_YPOGEGRAMMENI bcDASIA_AND_YPOGEGRAMMENI",
    "bcPSILI_AND_VARIA_AND_YPOGEGRAMMENI bcDASIA_AND_VARIA_AND_YPOGEGRAMMENI",
    "bcPSILI_AND_OXIA_AND_YPOGEGRAMMENI bcDASIA_AND_OXIA_AND_YPOGEGRAMMENI",
    "bcPSILI_AND_PERISPOMENI_AND_YPOGEGRAMMENI bcDASIA_AND_PERISPOMENI_AND_YPOGEGRAMMENI",
    "gCAPITAL_LETTER_ETA_WITH_PSILI_AND_PROSGEGRAMMENI beDASIA_AND_PROSGEGRAMMENI",
    "bePSILI_AND_VARIA_AND_PROSGEGRAMMENI beDASIA_AND_VARIA_AND_PROSGEGRAMMENI",
    "bePSILI_AND_OXIA_AND_PROSGEGRAMMENI beDASIA_AND_OXIA_AND_PROSGEGRAMMENI",
    "bePSILI_AND_PERISPOMENI_AND_PROSGEGRAMMENI beDASIA_AND_PERISPOMENI_AND_PROSGEGRAMMENI",
    "gSMALL_LETTER_OMEGA_WITH_PSILI_AND_YPOGEGRAMMENI beDASIA_AND_YPOGEGRAMMENI",
    "bePSILI_AND_VARIA_AND_YPOGEGRAMMENI beDASIA_AND_VARIA_AND_YPOGEGRAMMENI",
    "bePSILI_AND_OXIA_AND_YPOGEGRAMMENI beDASIA_AND_OXIA_AND_YPOGEGRAMMENI",
    "bePSILI_AND_PERISPOMENI_AND_YPOGEGRAMMENI beDASIA_AND_PERISPOMENI_AND_YPOGEGRAMMENI",
    "gCAPITAL_LETTER_OMEGA_WITH_PSILI_AND_PROSGEGRAMMENI bgDASIA_AND_PROSGEGRAMMENI",
    "bgPSILI_AND_VARIA_AND_PROSGEGRAMMENI bgDASIA_AND_VARIA_AND_PROSGEGRAMMENI",
    "bgPSILI_AND_OXIA_AND_PROSGEGRAMMENI bgDASIA_AND_OXIA_AND_PROSGEGRAMMENI",
    "bgPSILI_AND_PERISPOMENI_AND_PROSGEGRAMMENI bgDASIA_AND_PERISPOMENI_AND_PROSGEGRAMMENI",
    "gSMALL_LETTER_ALPHA_WITH_VRACHY beMACRON beVARIA_AND_YPOGEGRAMMENI beYPOGEGRAMMENI",
    "beOXIA_AND_YPOGEGRAMMENI"]), (0x1FB6, ["aGREEK_SMALL_LETTER_ALPHA_WITH_PERISPOMENI",
    "bp_AND_YPOGEGRAMMENI gCAPITAL_LETTER_ALPHA_WITH_VRACHY bgMACRON bgVARIA bgOXIA",
    "bgPROSGEGRAMMENI gKORONIS gPROSGEGRAMMENI hSILI hERISPOMENI gDIALYTIKA_AND_PERISPOMENI",
    "gSMALL_LETTER_ETA_WITH_VARIA_AND_YPOGEGRAMMENI bcYPOGEGRAMMENI bcOXIA_AND_YPOGEGRAMMENI"]),
  (0x1FC6, ["aGREEK_SMALL_LETTER_ETA_WITH_PERISPOMENI bn_AND_YPOGEGRAMMENI",
    "gCAPITAL_LETTER_EPSILON_WITH_VARIA biOXIA wTA_WITH_VARIA beOXIA bePROSGEGRAMMENI",
    "gPSILI_AND_VARIA qOXIA qPERISPOMENI gSMALL_LETTER_IOTA_WITH_VRACHY bdMACRON",
    "bdDIALYTIKA_AND_VARIA brOXIA"]), (0x1FD6, ["aGREEK_SMALL_LETTER_IOTA_WITH_PERISPOMENI",
    "bdDIALYTIKA_AND_PERISPOMENI gCAPITAL_LETTER_IOTA_WITH_VRACHY bfMACRON bfVARIA bfOXIA"]),
  (0x1FDD, ["aGREEK_DASIA_AND_VARIA qOXIA qPERISPOMENI gSMALL_LETTER_UPSILON_WITH_VRACHY",
    "bgMACRON bgDIALYTIKA_AND_VARIA buOXIA tRHO_WITH_PSILI bcDASIA tUPSILON_WITH_PERISPOMENI",
    "bgDIALYTIKA_AND_PERISPOMENI gCAPITAL_LETTER_UPSILON_WITH_VRACHY biMACRON biVARIA biOXIA",
    "vRHO_WITH_DASIA gDIALYTIKA_AND_VARIA uOXIA gVARIA"]), (0x1FF2, [
    "aGREEK_SMALL_LETTER_OMEGA_WITH_VARIA_AND_YPOGEGRAMMENI beYPOGEGRAMMENI",
    "beOXIA_AND_YPOGEGRAMMENI"]), (0x1FF6, ["aGREEK_SMALL_LETTER_OMEGA_WITH_PERISPOMENI",
    "bp_AND_YPOGEGRAMMENI gCAPITAL_LETTER_OMICRON_WITH_VARIA biOXIA xEGA_WITH_VARIA bgOXIA",
    "bgPROSGEGRAMMENI gOXIA gDASIA"])]

end TraceLens.CharacterName
