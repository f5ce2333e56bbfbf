/-!
# Names of characters from row 0x100 on

The names of the characters from row 0x100 to row 0x10F, in runs without a gap: the first code
point, and the names in the form that `CharacterName` describes.
-/

namespace TraceLens.CharacterName

def row100 : List (Nat × List String) := [
  (0x10000, ["aLINEAR_B_SYLLABLE_B008_A u38_E u28_I u61_O u10_U u01_DA u45_DE u07_DI u14_DO",
    "u51_DU v7_JA u46_JE"]), (0x1000D, ["aLINEAR_B_SYLLABLE_B036_JO u65_JU u77_KA u44_KE u67_KI",
    "u70_KO u81_KU v0_MA u13_ME u73_MI u15_MO u23_MU u06_NA u24_NE u30_NI u52_NO v5_NU u03_PA",
    "u72_PE u39_PI u11_PO u50_PU u16_QA u78_QE u21_QI u32_QO"]), (0x10028, [
    "aLINEAR_B_SYLLABLE_B060_RA u27_RE u53_RI u02_RO u26_RU u31_SA u09_SE u41_SI u12_SO u58_SU",
    "v9_TA u04_TE u37_TI u05_TO u69_TU u54_WA u75_WE u40_WI v2_WO"]),
  (0x1003C, ["aLINEAR_B_SYLLABLE_B017_ZA u74_ZE"]), (0x1003F, ["aLINEAR_B_SYLLABLE_B020_ZO v5_A2",
    "u43_A3 u85_AU u71_DWE u90_DWO u48_NWA u29_PU2 u62_PTE u76_RA2 u33_RA3 u68_RO2 v6_TA2",
    "u87_TWE u91_TWO"]), (0x10050, ["aLINEAR_B_SYMBOL_B018 t9 s22 s34 s47 t9 s56 s63 t4 s79 s82",
    "t3 t6 t9"]), (0x10080, ["aLINEAR_B_IDEOGRAM_B100_MAN v2_WOMAN v4_DEER v5_EQUID wF_MARE",
    "wM_STALLION v6F_EWE wM_RAM v7F_SHE-GOAT wM_HE-GOAT v8F_SOW wM_BOAR v9F_COW wM_BULL",
    "u20_WHEAT v1_BARLEY v2_OLIVE v3_SPICE v5_CYPERUS jMONOGRAM_B127_KAPO v8_KANAKO",
    "jIDEOGRAM_B130_OIL v1_WINE v2 jMONOGRAM_B133_AREPA v5_MERI jIDEOGRAM_B140_BRONZE v1_GOLD v2",
    "v5_WOOL v6 u50 v1_HORN v2 v3 v4 jMONOGRAM_B156_TURO2 jIDEOGRAM_B157 v8 v9_CLOTH u60 v1",
    "v2_GARMENT v3_ARMOUR v4 v5 v6 v7 v8 v9 u70 v1 v2 v3_MONTH v4 v6_TREE v7 v8 v9 u80 v1 v2 v3",
    "v4 v5 v9 u90 v1_HELMET t220_FOOTSTOOL v5_BATHTUB u30_SPEAR v1_ARROW v2 v3_SWORD v4 v6",
    "u40_WHEELED_CHARIOT v1_CHARIOT v2_CHARIOT_FRAME v3_WHEEL v5 v6 jMONOGRAM_B247_DIPTE",
    "jIDEOGRAM_B248 v9 u51 v2 v3 v4_DART v5 v6 v7 v8 v9 sVESSEL_B155 ba200 bc1 bc2 bc3 bc4 bc5",
    "bc6 bc7 bc8 bc9 bb10 bc1 bc2 bc3 bc4 bc5 bc6 bc7 bc8 bc9 bb21 bc2 bc6 bc7 bc8 bc9 bb50",
    "ba305"]), (0x10100, ["aAEGEAN_WORD_SEPARATOR_LINE wDOT hCHECK_MARK"]),
  (0x10107, ["aAEGEAN_NUMBER_ONE oTWO pHREE oFOUR pIVE oSIX pEVEN oEIGHT oNINE oTEN pWENTY",
    "pHIRTY oFORTY pIFTY oSIXTY pEVENTY oEIGHTY oNINETY oONE_HUNDRED oTWO_HUNDRED pHREE_HUNDRED",
    "oFOUR_HUNDRED pIVE_HUNDRED oSIX_HUNDRED pEVEN_HUNDRED oEIGHT_HUNDRED oNINE_HUNDRED",
    "oONE_THOUSAND oTWO_THOUSAND pHREE_THOUSAND oFOUR_THOUSAND pIVE_THOUSAND oSIX_THOUSAND",
    "pEVEN_THOUSAND oEIGHT_THOUSAND oNINE_THOUSAND oTEN_THOUSAND pWENTY_THOUSAND pHIRTY_THOUSAND",
    "oFORTY_THOUSAND pIFTY_THOUSAND oSIXTY_THOUSAND pEVENTY_THOUSAND oEIGHTY_THOUSAND",
    "oNINETY_THOUSAND"]), (0x10137, ["aAEGEAN_WEIGHT_BASE_UNIT oFIRST_SUBUNIT oSECOND_SUBUNIT",
    "oTHIRD_SUBUNIT oFOURTH_SUBUNIT hDRY_MEASURE_FIRST_SUBUNIT hLIQUID_MEASURE_FIRST_SUBUNIT",
    "hMEASURE_SECOND_SUBUNIT pTHIRD_SUBUNIT aGREEK_ACROPHONIC_ATTIC_ONE_QUARTER bbHALF bbDRACHMA",
    "xFIVE zFTY zVE_HUNDRED bcTHOUSAND zFTY_THOUSAND zVE_TALENTS xTEN_TALENTS xFIFTY_TALENTS",
    "xONE_HUNDRED_TALENTS xFIVE_HUNDRED_TALENTS xONE_THOUSAND_TALENTS xFIVE_THOUSAND_TALENTS",
    "bcSTATERS xTEN_STATERS xFIFTY_STATERS xONE_HUNDRED_STATERS xFIVE_HUNDRED_STATERS",
    "xONE_THOUSAND_STATERS xTEN_THOUSAND_STATERS xFIFTY_THOUSAND_STATERS xTEN_MNAS",
    "rHERAEUM_ONE_PLETHRON rTHESPIAN_ONE rHERMIONIAN_ONE rEPIDAUREAN_TWO rTHESPIAN_TWO",
    "rCYRENAIC_TWO_DRACHMAS rEPIDAUREAN_TWO_DRACHMAS rTROEZENIAN_FIVE bcTEN bf_ALTERNATE_FORM",
    "rHERMIONIAN_TEN rMESSENIAN_TEN rTHESPIAN_TEN bbHIRTY sROEZENIAN_FIFTY bh_ALTERNATE_FORM",
    "rHERMIONIAN_FIFTY rTHESPIAN_FIFTY baONE_HUNDRED baTHREE_HUNDRED rEPIDAUREAN_FIVE_HUNDRED",
    "rTROEZENIAN_FIVE_HUNDRED sHESPIAN_FIVE_HUNDRED rCARYSTIAN_FIVE_HUNDRED rNAXIAN_FIVE_HUNDRED",
    "rTHESPIAN_ONE_THOUSAND baFIVE_THOUSAND rDELPHIC_FIVE_MNAS rSTRATIAN_FIFTY_MNAS",
    "gONE_HALF_SIGN t_ALTERNATE_FORM gTWO_THIRDS_SIGN hHREE_QUARTERS_SIGN gYEAR_SIGN",
    "gTALENT_SIGN gDRACHMA_SIGN gOBOL_SIGN gTWO_OBOLS_SIGN hHREE_OBOLS_SIGN gFOUR_OBOLS_SIGN",
    "hIVE_OBOLS_SIGN gMETRETES_SIGN gKYATHOS_BASE_SIGN gLITRA_SIGN gOUNKIA_SIGN gXESTES_SIGN",
    "gARTABE_SIGN iOURA_SIGN gGRAMMA_SIGN gTRYBLION_BASE_SIGN gZERO_SIGN gONE_QUARTER_SIGN",
    "gSINUSOID_SIGN gINDICTION_SIGN aNOMISMA_SIGN"]), (0x10190, ["aROMAN_SEXTANS_SIGN",
    "gUNCIA_SIGN gSEMUNCIA_SIGN iXTULA_SIGN gDIMIDIA_SEXTULA_SIGN gSILIQUA_SIGN gDENARIUS_SIGN",
    "gQUINARIUS_SIGN gSESTERTIUS_SIGN gDUPONDIUS_SIGN gAS_SIGN gCENTURIAL_SIGN aASCIA_SYMBOL"]),
  (0x101A0, ["aGREEK_SYMBOL_TAU_RHO"]), (0x101D0, ["aPHAISTOS_DISC_SIGN_PEDESTRIAN uLUMED_HEAD",
    "tTATTOOED_HEAD tCAPTIVE uHILD tWOMAN tHELMET tGAUNTLET tTIARA tARROW tBOW tSHIELD tCLUB",
    "tMANACLES vTTOCK tSAW tLID tBOOMERANG tCARPENTRY_PLANE tDOLIUM tCOMB tSLING tCOLUMN",
    "tBEEHIVE tSHIP tHORN uIDE tBULLS_LEG tCAT tRAM tEAGLE tDOVE tTUNNY tBEE tPLANE_TREE tVINE",
    "tPAPYRUS tROSETTE tLILY tOX_BACK tFLUTE tGRATER tSTRAINER uMALL_AXE tWAVY_BAND",
    "tCOMBINING_OBLIQUE_STROKE"]), (0x10280, ["aLYCIAN_LETTER_A oE oB pH oG oD oI oW oZ oTH oJ",
    "oK oQ oL oM oN oMM oNN oU oP oKK oR oS oT pT oAN oEN oH oX"]), (0x102A0, ["aCARIAN_LETTER_A",
    "oP2 oD oL oUUU oR oLD oA2 oQ oB oM oO oD2 oT oSH q2 p oC-18 oU oNN oX oN oTT2 oP oSS oI oE",
    "oUUUU oK p2 oND oUU oG p2 oST q2 oNG oII oC-39 oTT oUUU2 oRR oMB q2 q3 q4 oLD2 oE2 oUUU3"]),
  (0x102E0, ["aCOPTIC_EPACT_THOUSANDS_MARK nDIGIT_ONE tTWO uHREE tFOUR uIVE tSIX uEVEN tEIGHT",
    "tNINE nNUMBER_TEN vWENTY vHIRTY uFORTY vIFTY uSIXTY vEVENTY uEIGHTY uNINETY uONE_HUNDRED",
    "uTWO_HUNDRED vHREE_HUNDRED uFOUR_HUNDRED vIVE_HUNDRED uSIX_HUNDRED vEVEN_HUNDRED",
    "uEIGHT_HUNDRED uNINE_HUNDRED"]), (0x10300, ["aOLD_ITALIC_LETTER_A sBE sKE sDE sE sVE sZE",
    "sHE sTHE sI sKA sEL tM tN tSH sO sPE sSHE sKU sER tS sTE sU sEKS sPHE sKHE sEF tRS sCHE sII",
    "sUU sESS lNUMERAL_ONE tFIVE tTEN tFIFTY"]), (0x1032D, ["aOLD_ITALIC_LETTER_YE sNORTHERN_TSE",
    "sSOUTHERN_TSE aGOTHIC_LETTER_AHSA oBAIRKAN oGIBA oDAGS oAIHVUS oQAIRTHRA oIUJA oHAGL",
    "oTHIUTH oEIS oKUSMA oLAGUS oMANNA oNAUTHS oJER oURUS oPAIRTHRA oNINETY oRAIDA oSAUIL oTEIWS",
    "oWINJA oFAIHU oIGGWS oHWAIR oOTHAL oNINE_HUNDRED"]), (0x10350, ["aOLD_PERMIC_LETTER_AN sBUR",
    "sGAI sDOI sE sZHOI sDZHOI sZATA sDZITA sI sKOKE sLEI sMENOE sNENOE sVOOI sPEEI sREI sSII",
    "sTAI sU sCHERY sSHOOI uCHOOI sYRY tERU sO tO sEF sHA sTSIU sVER sYER vI tAT sIE sYU tA sIA",
    "aCOMBINING_OLD_PERMIC_LETTER_AN bcDOI bcZATA bcNENOE bcSII"]), (0x10380, [
    "aUGARITIC_LETTER_ALPA qBETA qGAMLA qKHA qDELTA qHO qWO qZETA qHOTA qTET qYOD qKAF qSHIN",
    "qLAMDA qMEM qDHAL qNUN qZU qSAMKA qAIN qPU qSADE qQOPA qRASHA qTHANNA qGHAIN qTO qI qU qSSU"]),
  (0x1039F, ["aUGARITIC_WORD_DIVIDER aOLD_PERSIAN_SIGN_A rI rU rKA sU rGA sU rXA rCA rJA sI rTA",
    "sU rDA sI sU rTHA rPA rBA rFA rNA sU rMA sI sU rYA rVA sI rRA sU rLA rSA rZA rSHA sSA rHA"]),
  (0x103C8, ["aOLD_PERSIAN_SIGN_AURAMAZDAA bb-2 bbHA rXSHAAYATHIYA rDAHYAAUSH ba-2 rBAGA sUUMISH",
    "mWORD_DIVIDER mNUMBER_ONE tTWO uEN uWENTY tHUNDRED"]), (0x10400, [
    "aDESERET_CAPITAL_LETTER_LONG_I bcE bcA bdH bcO bdO xSHORT_I bdE bdA beH bdO beO xAY xOW xWU",
    "xYEE xH xPEE xBEE xTEE xDEE xCHEE xJEE xKAY xGAY xEF xVEE xETH xTHEE xES xZEE xESH xZHEE",
    "xER yL yM yN zG xOI xEW iSMALL_LETTER_LONG_I baE baA bbH baO bbO vSHORT_I bbE bbA bcH bbO",
    "bcO vAY vOW vWU vYEE vH vPEE vBEE vTEE vDEE vCHEE vJEE vKAY vGAY vEF vVEE vETH vTHEE vES",
    "vZEE vESH vZHEE vER wL wM wN xG vOI vEW aSHAVIAN_LETTER_PEEP pTOT pKICK pFEE pTHIGH pSO",
    "qURE pCHURCH pYEA pHUNG pBIB pDEAD pGAG pVOW pTHEY pZOO pMEASURE pJUDGE pWOE pHA-HA pLOLL",
    "pMIME pIF pEGG pASH qDO pON pWOOL pOUT pAH pROAR pNUN pEAT pAGE pICE pUP pOAK qOZE qIL pAWE",
    "qRE pOR pAIR pERR pARRAY pEAR pIAN pYEW aOSMANYA_LETTER_ALEF pBA pTA pJA pXA pKHA pDEEL pRA",
    "pSA qHIIN pDHA pCAYN pGA pFA pQAAF pKAAF pLAAN pMIIN pNUUN pWAW pHA pYA pA pE pI pO pU pAA",
    "pEE pOO"]), (0x104A0, ["aOSMANYA_DIGIT_ZERO oONE oTWO pHREE oFOUR pIVE oSIX pEVEN oEIGHT",
    "oNINE"]), (0x104B0, ["aOSAGE_CAPITAL_LETTER_A wI xN wH vBRA vCHA vEHCHA w wIN vHA wYA vI",
    "vKA vEHKA vKYA vLA vMA vNA vO wIN vPA vEHPA vSA wHA vTA vEHTA vTSA vEHTSA vTSHA vDHA vU vWA",
    "vKHA vGHA vZA wHA"]), (0x104D8, ["aOSAGE_SMALL_LETTER_A uI vN uH tBRA tCHA tEHCHA u uIN tHA",
    "uYA tI tKA tEHKA tKYA tLA tMA tNA tO uIN tPA tEHPA tSA uHA tTA tEHTA tTSA tEHTSA tTSHA tDHA",
    "tU tWA tKHA tGHA tZA uHA"]), (0x10500, ["aELBASAN_LETTER_A pBE pCE qHE pDE pNDE pDHE pEI q",
    "pFE pGE qJE pHE pI pJE pKE pLE qLE pME pNE qA qJE pO pPE pQE pRE qRE pSE qHE pTE qHE pU pVE",
    "pXE pY pZE qHE pGHE rAMMA pKHE"]), (0x10530, ["aCAUCASIAN_ALBANIAN_LETTER_ALT baBET baGIM",
    "baDAT baEB baZARL baEYN baZHIL baTAS baCHA baYOWD baZHA baIRB baSHA baLAN baINYA baXEYN",
    "baDYAN baCAR baJHOX baKAR baLYIT baHEYT baQAY baAOR baCHOY bcI bbYAY baMAQ baQAR baNOWC",
    "baDZYAY baSHAK baJAYN baON baTYAY baFAM baDZAY baCHAT baPEN baGHEYS baRAT baSEYK baVEYZ",
    "baTIWR baSHOY baIWN baCYAW bbAYN baYAYD baPIWR baKIW"]), (0x1056F, [
    "aCAUCASIAN_ALBANIAN_CITATION_MARK aVITHKUQI_CAPITAL_LETTER_A yBBE zE yCE zHE yDE zHE yEI z",
    "yFE yGA"]), (0x1057C, ["aVITHKUQI_CAPITAL_LETTER_HA zHA yI zJE yJE yKA yLA zLA yME yNE zJE",
    "yO yPE yQA yRE"]), (0x1058C, ["aVITHKUQI_CAPITAL_LETTER_SE zHE yTE zHE yU yVE yXE"]),
  (0x10594, ["aVITHKUQI_CAPITAL_LETTER_Y yZE"]), (0x10597, ["aVITHKUQI_SMALL_LETTER_A wBBE xE",
    "wCE xHE wDE xHE wEI x wFE wGA"]), (0x105A3, ["aVITHKUQI_SMALL_LETTER_HA xHA wI xJE wJE wKA",
    "wLA xLA wME wNE xJE wO wPE wQA wRE"]), (0x105B3, ["aVITHKUQI_SMALL_LETTER_SE xHE wTE xHE wU",
    "wVE wXE"]), (0x105BB, ["aVITHKUQI_SMALL_LETTER_Y wZE"]), (0x10600, ["aLINEAR_A_SIGN_AB001",
    "s2 s3 s4 s5 s6 s7 s8 s9 r10 s1 s3 s6 s7 r20 s1 tF tM s2 tF tM s3 tM s4 s6 s7 s8 p028B pB029",
    "r30 s1 s4 s7 s8 s9 r40 s1 s4 s5 s6 s7 s8 s9 r50 s1 s3 s4 s5 s6 s7 s8 s9 r60 s1 s5 s6 s7 s9",
    "r70 s3 s4 s6 s7 s8 s9 r80 s1 s2 s5 s6 s7 p100-102 pB118 r20 p120B pB122 s3 r31A tB p131C",
    "pB164 r71 r80 s8 r91 p301 r2 r3 r4 r5 r6 r7 r8 r9A sB sC q10 r1 r2 r3A sB sC r4 r5 r6 r7 r8",
    "r9 q20 r1 r2 r3 r4 r5 r6 r7 r8 r9 q30 r1 r2 r3 r4 r5 r6 r7 r8 r9 q40 r1 r2 r3 r4 r5 r6 r7",
    "r8 r9 q50 r1 r2 r3 r4 r5 r6 r7 r8 r9 q60 r1 r2 r3 r4 r5 r6 r7 r8 r9 q70 r1 p400-VAS r1-VAS",
    "r2-VAS r3-VAS r4-VAS r5-VAS r6-VAS r7-VAS r8-VAS r9-VAS q10-VAS r1-VAS r2-VAS r3-VAS r4-VAS",
    "r5-VAS r6-VAS r7-VAS r8-VAS p501 r2 r3 r4 r5 r6 r8 r9 q10 r1 r2 r3 r5 r6 q20 r1 r3 r4 r5 r6",
    "r7 r8 r9 q30 r1 r2 r4 r5 r6 r7 r8 r9 q40 r1 r2 r5 r7 r8 r9 q50 r1 r2 r3 r4 r5 r6 r7 r9 q63",
    "r4 r5 r6 r8 r9 q70 r1 r2 r3 r4 r5 r6 r7 r8 r9 q80 r1 r2 r3 r4 r5 r6 r7 r8 r9 q91 r2 r4 r5",
    "r6 r8 p600 r1 r2 r3 r4 r6 r8 r9 q10 r1 r2 r3 r4 r5 r6 r7 r8 r9 q20 r1 r2 r3 r4 r6 r7 r8 r9",
    "q34 r7 r8 q40 r2 r3 r4 r5 r6 r8 r9 q51 r2 r3 r4 r5 r6 r7 r8 r9 q60 r1 r2 r3 r4"]),
  (0x10740, ["aLINEAR_A_SIGN_A701_A r2_B r3_D r4_E r5_F r6_H r7_J r8_K r9_L s-2_L2 t3_L3 t4_L4",
    "t6_L6 q10_W r1_X r2_Y r3_OMEGA r4_ABB r5_BB r7_DD q26_EYYY q32_JE"]),
  (0x10760, ["aLINEAR_A_SIGN_A800 r1 r2 r3 r4 r5 r6 r7"]), (0x10780, [
    "aMODIFIER_LETTER_SMALL_CAPITAL_AA rUPERSCRIPT_TRIANGULAR_COLON bcHALF_TRIANGULAR_COLON",
    "rMALL_AE wCAPITAL_B wB_WITH_HOOK"]), (0x10787, ["aMODIFIER_LETTER_SMALL_DZ_DIGRAPH",
    "bg_WITH_RETROFLEX_HOOK bmCURL xEZH_DIGRAPH x_WITH_TAIL bdHOOK bh_AND_TAIL wREVERSED_E",
    "wCLOSED_REVERSED_OPEN_E wFENG_DIGRAPH wRAMS_HORN wCAPITAL_G wG_WITH_HOOK",
    "wCAPITAL_G_WITH_HOOK wH_WITH_STROKE wCAPITAL_H wHENG_WITH_HOOK",
    "wDOTLESS_J_WITH_STROKE_AND_HOOK wLS_DIGRAPH xZ_DIGRAPH x_WITH_BELT wCAPITAL_L_WITH_BELT",
    "wL_WITH_RETROFLEX_HOOK_AND_BELT xEZH ba_WITH_RETROFLEX_HOOK wTURNED_Y be_WITH_BELT",
    "wO_WITH_STROKE wCAPITAL_OE xLOSED_OMEGA wQ wTURNED_R_WITH_LONG_LEG bs_AND_RETROFLEX_HOOK",
    "wR_WITH_TAIL bdFISHHOOK wCAPITAL_R wTC_DIGRAPH_WITH_CURL xS_DIGRAPH bg_WITH_RETROFLEX_HOOK",
    "xESH_DIGRAPH x_WITH_RETROFLEX_HOOK wV_WITH_RIGHT_HOOK"]), (0x107B2, [
    "aMODIFIER_LETTER_SMALL_CAPITAL_Y qGLOTTAL_STOP_WITH_STROKE",
    "qREVERSED_GLOTTAL_STOP_WITH_STROKE qBILABIAL_CLICK qDENTAL_CLICK qLATERAL_CLICK",
    "qALVEOLAR_CLICK qRETROFLEX_CLICK_WITH_RETROFLEX_HOOK qSMALL_S_WITH_CURL"]),
  (0x10800, ["aCYPRIOT_SYLLABLE_A rE rI rO rU rJA"]), (0x10808, ["aCYPRIOT_SYLLABLE_JO"]),
  (0x1080A, ["aCYPRIOT_SYLLABLE_KA sE sI sO sU rLA sE sI sO sU rMA sE sI sO sU rNA sE sI sO sU",
    "rPA sE sI sO sU rRA sE sI sO sU rSA sE sI sO sU rTA sE sI sO sU rWA sE sI sO"]),
  (0x10837, ["aCYPRIOT_SYLLABLE_XA sE"]), (0x1083C, ["aCYPRIOT_SYLLABLE_ZA"]),
  (0x1083F, ["aCYPRIOT_SYLLABLE_ZO aIMPERIAL_ARAMAIC_LETTER_ALEPH yBETH yGIMEL yDALETH yHE yWAW",
    "yZAYIN yHETH yTETH yYODH yKAPH yLAMEDH yMEM yNUN ySAMEKH yAYIN yPE ySADHE yQOPH yRESH ySHIN",
    "yTAW"]), (0x10857, ["aIMPERIAL_ARAMAIC_SECTION_SIGN rNUMBER_ONE yTWO zHREE zEN zWENTY",
    "yONE_HUNDRED bcTHOUSAND yTEN_THOUSAND aPALMYRENE_LETTER_ALEPH rBETH rGIMEL rDALETH rHE rWAW",
    "rZAYIN rHETH rTETH rYODH rKAPH rLAMEDH rMEM rFINAL_NUN rNUN rSAMEKH rAYIN rPE rSADHE rQOPH",
    "rRESH rSHIN rTAW mFT-POINTING_FLEURON kRIGHT-POINTING_FLEURON kNUMBER_ONE rTWO sHREE rFOUR",
    "sIVE rTEN sWENTY aNABATAEAN_LETTER_FINAL_ALEPH rALEPH rFINAL_BETH rBETH rGIMEL rDALETH",
    "rFINAL_HE rHE rWAW rZAYIN rHETH rTETH rFINAL_YODH rYODH rFINAL_KAPH rKAPH rFINAL_LAMEDH",
    "rLAMEDH rFINAL_MEM rMEM rFINAL_NUN rNUN rSAMEKH rAYIN rPE rSADHE rQOPH rRESH rFINAL_SHIN",
    "rSHIN rTAW"]), (0x108A7, ["aNABATAEAN_NUMBER_ONE rTWO sHREE rFOUR kCRUCIFORM_NUMBER_FOUR",
    "kNUMBER_FIVE rTEN sWENTY rONE_HUNDRED"]), (0x108E0, ["aHATRAN_LETTER_ALEPH oBETH oGIMEL",
    "oDALETH-RESH oHE oWAW oZAYN oHETH oTETH oYODH oKAPH oLAMEDH oMEM oNUN oSAMEKH oAYN oPE",
    "oSADHE oQOPH"]), (0x108F4, ["aHATRAN_LETTER_SHIN oTAW"]), (0x108FB, ["aHATRAN_NUMBER_ONE",
    "oFIVE oTEN pWENTY oONE_HUNDRED aPHOENICIAN_LETTER_ALF sBET sGAML sDELT sHE sWAU sZAI sHET",
    "sTET sYOD sKAF sLAMD sMEM sNUN sSEMK sAIN sPE sSADE sQOF sROSH sSHIN sTAU lNUMBER_ONE sTEN",
    "tWENTY sONE_HUNDRED sTWO tHREE"]), (0x1091F, ["aPHOENICIAN_WORD_SEPARATOR aLYDIAN_LETTER_A",
    "oB oG oD oE oV oI oY oK oL oM oN oO oR oSS oT oU oF oQ oS oTT oAN oEN oLY oNN oC"]),
  (0x1093F, ["aLYDIAN_TRIANGULAR_MARK"]), (0x10980, ["aMEROITIC_HIEROGLYPHIC_LETTER_A bdE bdI",
    "bdO bdYA bdWA bdBA bf-2 bdPA bdMA bdNA bf-2 beE bf-2 bdRA bf-2 bdLA bdKHA bdHHA bdSA bf-2",
    "beE bdKA bdQA bdTA bf-2 beE bf-2 beO bdDA wSYMBOL_VIDJ bh-2 jCURSIVE_LETTER_A yE yI yO yYA",
    "yWA yBA yPA yMA yNA zE yRA yLA yKHA yHHA ySA yARCHAIC_SA ySE yKA yQA yTA zE zO yDA"]),
  (0x109BC, ["aMEROITIC_CURSIVE_FRACTION_ELEVEN_TWELFTHS baONE_HALF rLOGOGRAM_RMT baIMN",
    "rNUMBER_ONE yTWO zHREE yFOUR zIVE ySIX zEVEN yEIGHT yNINE yTEN zWENTY zHIRTY yFORTY zIFTY",
    "ySIXTY zEVENTY"]), (0x109D2, ["aMEROITIC_CURSIVE_NUMBER_ONE_HUNDRED yTWO_HUNDRED",
    "zHREE_HUNDRED yFOUR_HUNDRED zIVE_HUNDRED ySIX_HUNDRED zEVEN_HUNDRED yEIGHT_HUNDRED",
    "yNINE_HUNDRED yONE_THOUSAND yTWO_THOUSAND zHREE_THOUSAND yFOUR_THOUSAND zIVE_THOUSAND",
    "ySIX_THOUSAND zEVEN_THOUSAND yEIGHT_THOUSAND yNINE_THOUSAND yTEN_THOUSAND zWENTY_THOUSAND",
    "zHIRTY_THOUSAND yFORTY_THOUSAND zIFTY_THOUSAND ySIXTY_THOUSAND zEVENTY_THOUSAND",
    "yEIGHTY_THOUSAND yNINETY_THOUSAND yONE_HUNDRED_THOUSAND yTWO_HUNDRED_THOUSAND",
    "zHREE_HUNDRED_THOUSAND yFOUR_HUNDRED_THOUSAND zIVE_HUNDRED_THOUSAND ySIX_HUNDRED_THOUSAND",
    "zEVEN_HUNDRED_THOUSAND yEIGHT_HUNDRED_THOUSAND yNINE_HUNDRED_THOUSAND rFRACTION_ONE_TWELFTH",
    "baTWO_TWELFTHS bbHREE_TWELFTHS baFOUR_TWELFTHS bbIVE_TWELFTHS baSIX_TWELFTHS",
    "bbEVEN_TWELFTHS baEIGHT_TWELFTHS baNINE_TWELFTHS baTEN_TWELFTHS aKHAROSHTHI_LETTER_A",
    "lVOWEL_SIGN_I wU wVOCALIC_R"]), (0x10A05, ["aKHAROSHTHI_VOWEL_SIGN_E wO"]),
  (0x10A0C, ["aKHAROSHTHI_VOWEL_LENGTH_MARK lSIGN_DOUBLE_RING_BELOW qANUSVARA qVISARGA",
    "lLETTER_KA tHA sGA tHA"]), (0x10A15, ["aKHAROSHTHI_LETTER_CA tHA sJA"]),
  (0x10A19, ["aKHAROSHTHI_LETTER_NYA sTTA uHA sDDA uHA sNNA sTA tHA sDA tHA sNA sPA tHA sBA tHA",
    "sMA sYA sRA sLA sVA sSHA tSA tA sZA sHA sKKA sTTTHA vA sVHA"]), (0x10A38, [
    "aKHAROSHTHI_SIGN_BAR_ABOVE qCAUDA qDOT_BELOW"]), (0x10A3F, ["aKHAROSHTHI_VIRAMA lDIGIT_ONE",
    "rTWO sHREE rFOUR lNUMBER_TEN tWENTY sONE_HUNDRED wTHOUSAND lFRACTION_ONE_HALF"]),
  (0x10A50, ["aKHAROSHTHI_PUNCTUATION_DOT xSMALL_CIRCLE xCIRCLE yRESCENT_BAR xMANGALAM xLOTUS",
    "xDANDA yOUBLE_DANDA xLINES"]), (0x10A60, ["aOLD_SOUTH_ARABIAN_LETTER_HE zLAMEDH zHETH zMEM",
    "zQOPH zWAW zSHIN zRESH zBETH zTAW zSAT zKAPH zNUN zKHETH zSADHE bbMEKH zFE zALEF baYN",
    "zDHADHE zGIMEL zDALETH zGHAYN zTETH zZAYN zDHALETH zYODH zTHAW bbETH sNUMBER_ONE zFIFTY",
    "vERIC_INDICATOR eNORTH_ARABIAN_LETTER_HEH zLAM zHAH zMEEM zQAF zWAW zES-2 zREH zBEH zTEH",
    "zES-1 zKAF zNOON zKHAH zSAD zES-3 zFEH zALEF baIN zDAD zGEEM zDAL zGHAIN zTAH zZAIN zTHAL",
    "zYEH zTHEH zZAH sNUMBER_ONE zTEN baWENTY"]), (0x10AC0, ["aMANICHAEAN_LETTER_ALEPH sBETH",
    "tHETH sGIMEL tHIMEL sDALETH sHE sWAW lSIGN_UD lLETTER_ZAYIN tHAYIN sJAYIN tHAYIN sHETH",
    "sTETH sYODH sKAPH sXAPH sKHAPH sLAMEDH sDHAMEDH sTHAMEDH sMEM sNUN sSAMEKH sAYIN tAYIN sPE",
    "sFE sSADHE sQOPH sXOPH sQHOPH sRESH sSHIN tSHIN sTAW lABBREVIATION_MARK_ABOVE bdBELOW"]),
  (0x10AEB, ["aMANICHAEAN_NUMBER_ONE sFIVE sTEN tWENTY sONE_HUNDRED lPUNCTUATION_STAR xFLEURON",
    "xDOUBLE_DOT_WITHIN_DOT zT_WITHIN_DOT ba xTWO_DOTS xLINE_FILLER"]),
  (0x10B00, ["aAVESTAN_LETTER_A qA qO qAO qN qAN qE rE pE qE pO qO pI qI pU qU pKE pXE qYE qVE",
    "pGE qGE qHE pCE pJE pTE qHE pDE qHE pTTE pPE pFE pBE qHE pNGE rYE rVE qE qYE qNE pME pHME",
    "pYYE qE pVE pRE pLE pSE pZE pSHE pZHE pSHYE qSHE pHE"]), (0x10B39, [
    "aAVESTAN_ABBREVIATION_MARK aTINY_TWO_DOTS_OVER_ONE_DOT_PUNCTUATION",
    "aSMALL_TWO_DOTS_OVER_ONE_DOT_PUNCTUATION aLARGE_TWO_DOTS_OVER_ONE_DOT_PUNCTUATION",
    "gONE_DOT_OVER_TWO_DOTS_PUNCTUATION gTWO_RINGS_OVER_ONE_RING_PUNCTUATION",
    "gONE_RING_OVER_TWO_RINGS_PUNCTUATION aINSCRIPTIONAL_PARTHIAN_LETTER_ALEPH beBETH beGIMEL",
    "beDALETH beHE beWAW beZAYIN beHETH beTETH beYODH beKAPH beLAMEDH beMEM beNUN beSAMEKH",
    "beAYIN bePE beSADHE beQOPH beRESH beSHIN beTAW"]), (0x10B58, [
    "aINSCRIPTIONAL_PARTHIAN_NUMBER_ONE beTWO bfHREE beFOUR beTEN bfWENTY beONE_HUNDRED",
    "biTHOUSAND qHLAVI_LETTER_ALEPH bdBETH bdGIMEL bdDALETH bdHE bdWAW-AYIN-RESH bdZAYIN bdHETH",
    "bdTETH bdYODH bdKAPH bdLAMEDH bdMEM-QOPH bdNUN bdSAMEKH bdPE bdSADHE beHIN bdTAW"]),
  (0x10B78, ["aINSCRIPTIONAL_PAHLAVI_NUMBER_ONE bdTWO beHREE bdFOUR bdTEN beWENTY bdONE_HUNDRED",
    "bhTHOUSAND aPSALTER_PAHLAVI_LETTER_ALEPH xBETH xGIMEL xDALETH xHE xWAW-AYIN-RESH xZAYIN",
    "xHETH xYODH xKAPH xLAMEDH xMEM-QOPH xNUN xSAMEKH xPE xSADHE yHIN xTAW"]),
  (0x10B99, ["aPSALTER_PAHLAVI_SECTION_MARK qTURNED_SECTION_MARK qFOUR_DOTS_WITH_CROSS bfDOT"]),
  (0x10BA9, ["aPSALTER_PAHLAVI_NUMBER_ONE xTWO yHREE xFOUR xTEN yWENTY xONE_HUNDRED"]),
  (0x10C00, ["aOLD_TURKIC_LETTER_ORKHON_A sYENISEI_A bbE sORKHON_I sYENISEI_I baE sORKHON_O baE",
    "sYENISEI_OE sORKHON_AB sYENISEI_AB sORKHON_AEB sYENISEI_AEB sORKHON_AG sYENISEI_AG",
    "sORKHON_AEG sYENISEI_AEG sORKHON_AD sYENISEI_AD sORKHON_AED zEZ sYENISEI_EZ sORKHON_AY",
    "sYENISEI_AY sORKHON_AEY sYENISEI_AEY sORKHON_AEK sYENISEI_AEK sORKHON_OEK sYENISEI_OEK",
    "sORKHON_AL sYENISEI_AL sORKHON_AEL zELT baM zAN baEN sYENISEI_AEN sORKHON_ENT sYENISEI_ENT",
    "sORKHON_ENC sYENISEI_ENC sORKHON_ENY sYENISEI_ENY baANG sORKHON_ENG sYENISEI_AENG",
    "sORKHON_EP zOP zIC zEC sYENISEI_EC sORKHON_AQ sYENISEI_AQ sORKHON_IQ sYENISEI_IQ sORKHON_OQ",
    "sYENISEI_OQ sORKHON_AR sYENISEI_AR sORKHON_AER baS baES baSH sYENISEI_ASH sORKHON_ESH",
    "sYENISEI_ESH sORKHON_AT sYENISEI_AT sORKHON_AET sYENISEI_AET sORKHON_OT zBASH"]),
  (0x10C80, ["aOLD_HUNGARIAN_CAPITAL_LETTER_A beA bdEB bdAMB bdEC beNC beCS beD bdAND bdE",
    "bdCLOSE_E bdEE beF beG bfY beH bdI beI bdEJ beK bdAK bdUNK bdEL bfY beM beN bfY bdO beO",
    "bdNIKOLSBURG_OE bdRUDIMENTA_OE bdOEE bdEP beMP beR bdSHORT_ER bdES bfZ beT beNT beTY beCH",
    "bdU beU bdNIKOLSBURG_UE bdRUDIMENTA_UE bdEV beZ bfS beNT-SHAPED_SIGN bdUS"]),
  (0x10CC0, ["aOLD_HUNGARIAN_SMALL_LETTER_A bcA bbEB bbAMB bbEC bcNC bcCS bcD bbAND bbE",
    "bbCLOSE_E bbEE bcF bcG bdY bcH bbI bcI bbEJ bcK bbAK bbUNK bbEL bdY bcM bcN bdY bbO bcO",
    "bbNIKOLSBURG_OE bbRUDIMENTA_OE bbOEE bbEP bcMP bcR bbSHORT_ER bbES bdZ bcT bcNT bcTY bcCH",
    "bbU bcU bbNIKOLSBURG_UE bbRUDIMENTA_UE bbEV bcZ bdS bcNT-SHAPED_SIGN bbUS"]),
  (0x10CFA, ["aOLD_HUNGARIAN_NUMBER_ONE vFIVE vTEN vFIFTY vONE_HUNDRED zTHOUSAND",
    "aHANIFI_ROHINGYA_LETTER_A xBA xPA xTA yTA xJA xCA xHA xKHA xFA xDA yDA xRA yRA xZA xSA yHA",
    "xKA xGA xLA xMA xNA xWA xKINNA_WA xYA xKINNA_YA xNGA yYA xVA qVOWEL_A wI wU wE wO",
    "qMARK_SAKIN vNA_KHONNA qSIGN_HARBAHAY vTAHALA xNA xSSI"]), (0x10D30, [
    "aHANIFI_ROHINGYA_DIGIT_ZERO wONE wTWO xHREE wFOUR xIVE wSIX xEVEN wEIGHT wNINE"]),
  (0x10E60, ["aRUMI_DIGIT_ONE lTWO mHREE lFOUR mIVE lSIX mEVEN lEIGHT lNINE fNUMBER_TEN nWENTY",
    "nHIRTY mFORTY nIFTY mSIXTY nEVENTY mEIGHTY mNINETY mONE_HUNDRED mTWO_HUNDRED nHREE_HUNDRED",
    "mFOUR_HUNDRED nIVE_HUNDRED mSIX_HUNDRED nEVEN_HUNDRED mEIGHT_HUNDRED mNINE_HUNDRED",
    "fFRACTION_ONE_HALF sQUARTER sTHIRD oTWO_THIRDS"]), (0x10E80, ["aYEZIDI_LETTER_ELIF oBE oPE",
    "pHE oTHE oSE oCIM pHIM qHIM oHHA oXA oDAL oZAL oRA pHA oZA oJA oSIN pHIN pAD oDAD oTA oZE",
    "oEYN oXHEYN oFA oVA q_ALTERNATE_FORM oQAF oKAF pHAF oGAF oLAM oMIM oNUN oUM oWAW oOW oEW",
    "oHAY oYOT oET"]), (0x10EAB, ["aYEZIDI_COMBINING_HAMZA_MARK rMADDA_MARK hHYPHENATION_MARK"]),
  (0x10EB0, ["aYEZIDI_LETTER_LAM_WITH_DOT_ABOVE oYOT_WITH_CIRCUMFLEX_ABOVE"]),
  (0x10F00, ["aOLD_SOGDIAN_LETTER_ALEPH tFINAL_ALEPH tBETH tFINAL_BETH tGIMEL tHE tFINAL_HE tWAW",
    "tZAYIN tHETH tYODH tKAPH tLAMEDH tMEM tNUN tFINAL_NUN bc_WITH_VERTICAL_TAIL tSAMEKH tAYIN",
    "uLTERNATE_AYIN tPE tSADHE tFINAL_SADHE be_WITH_VERTICAL_TAIL tRESH-AYIN-DALETH tSHIN tTAW",
    "tFINAL_TAW bc_WITH_VERTICAL_TAIL mNUMBER_ONE tTWO uHREE tFOUR uIVE tTEN uWENTY uHIRTY",
    "tONE_HUNDRED mFRACTION_ONE_HALF mLIGATURE_AYIN-DALETH"]), (0x10F30, ["aSOGDIAN_LETTER_ALEPH",
    "pBETH pGIMEL pHE pWAW pZAYIN pHETH pYODH pKAPH pLAMEDH pMEM pNUN pSAMEKH pAYIN pPE pSADHE",
    "pRESH-AYIN pSHIN pTAW pFETH pLESH iINDEPENDENT_SHIN iCOMBINING_DOT_BELOW sTWO_DOTS_BELOW",
    "sDOT_ABOVE sTWO_DOTS_ABOVE sCURVE_ABOVE yBELOW sHOOK_ABOVE xBELOW sLONG_HOOK_BELOW",
    "sRESH_BELOW sSTROKE_BELOW iNUMBER_ONE pTEN qWENTY pONE_HUNDRED",
    "iPUNCTUATION_TWO_VERTICAL_BARS bl_WITH_DOTS uCIRCLE_WITH_DOT uTWO_CIRCLES_WITH_DOTS",
    "uHALF_CIRCLE_WITH_DOT"]), (0x10F70, ["aOLD_UYGHUR_LETTER_ALEPH sBETH sGIMEL-HETH sWAW",
    "sZAYIN sFINAL_HETH sYODH sKAPH sLAMEDH sMEM sNUN sSAMEKH sPE sSADHE sRESH sSHIN sTAW sLESH",
    "lCOMBINING_DOT_ABOVE zBELOW vTWO_DOTS_ABOVE beBELOW lPUNCTUATION_BAR xTWO_BARS bbDOTS",
    "xFOUR_DOTS"]), (0x10FB0, ["aCHORASMIAN_LETTER_ALEPH sSMALL_ALEPH sBETH sGIMEL sDALETH sHE",
    "sWAW sCURLED_WAW sZAYIN sHETH sYODH sKAPH sLAMEDH sMEM sNUN sSAMEKH sAYIN sPE sRESH sSHIN",
    "sTAW lNUMBER_ONE sTWO tHREE sFOUR sTEN tWENTY sONE_HUNDRED"]), (0x10FE0, [
    "aELYMAIC_LETTER_ALEPH pBETH pGIMEL pDALETH pHE pWAW pZAYIN pHETH pTETH pYODH pKAPH pLAMEDH",
    "pMEM pNUN pSAMEKH pAYIN pPE pSADHE pQOPH pRESH pSHIN pTAW jIGATURE_ZAYIN-YODH"])]

end TraceLens.CharacterName
