/-!
# Names of characters from row 0x0 on

The names of the characters from row 0x0 to row 0x6, in runs without a gap: the first code
point, and the names in the form that `CharacterName` describes.
-/

namespace TraceLens.CharacterName

def row000 : List (Nat × List String) := [
  (0x20, ["aSPACE aEXCLAMATION_MARK aQUOTATION_MARK aNUMBER_SIGN aDOLLAR_SIGN aPERCENT_SIGN",
    "aAMPERSAND bPOSTROPHE aLEFT_PARENTHESIS aRIGHT_PARENTHESIS aASTERISK aPLUS_SIGN aCOMMA",
    "aHYPHEN-MINUS aFULL_STOP aSOLIDUS aDIGIT_ZERO gONE gTWO hHREE gFOUR hIVE gSIX hEVEN gEIGHT",
    "gNINE aCOLON aSEMICOLON aLESS-THAN_SIGN aEQUALS_SIGN aGREATER-THAN_SIGN aQUESTION_MARK",
    "aCOMMERCIAL_AT aLATIN_CAPITAL_LETTER_A vB vC vD vE vF vG vH vI vJ vK vL vM vN vO vP vQ vR",
    "vS vT vU vV vW vX vY vZ bEFT_SQUARE_BRACKET aREVERSE_SOLIDUS bIGHT_SQUARE_BRACKET",
    "aCIRCUMFLEX_ACCENT aLOW_LINE aGRAVE_ACCENT aLATIN_SMALL_LETTER_A tB tC tD tE tF tG tH tI tJ",
    "tK tL tM tN tO tP tQ tR tS tT tU tV tW tX tY tZ bEFT_CURLY_BRACKET aVERTICAL_LINE",
    "aRIGHT_CURLY_BRACKET aTILDE"]), (0xA0, ["aNO-BREAK_SPACE aINVERTED_EXCLAMATION_MARK",
    "aCENT_SIGN aPOUND_SIGN aCURRENCY_SIGN aYEN_SIGN aBROKEN_BAR aSECTION_SIGN aDIAERESIS",
    "aCOPYRIGHT_SIGN aFEMININE_ORDINAL_INDICATOR aLEFT-POINTING_DOUBLE_ANGLE_QUOTATION_MARK",
    "aNOT_SIGN aSOFT_HYPHEN aREGISTERED_SIGN aMACRON aDEGREE_SIGN aPLUS-MINUS_SIGN",
    "aSUPERSCRIPT_TWO nHREE aACUTE_ACCENT aMICRO_SIGN aPILCROW_SIGN aMIDDLE_DOT aCEDILLA",
    "aSUPERSCRIPT_ONE aMASCULINE_ORDINAL_INDICATOR aRIGHT-POINTING_DOUBLE_ANGLE_QUOTATION_MARK",
    "aVULGAR_FRACTION_ONE_QUARTER uHALF qTHREE_QUARTERS aINVERTED_QUESTION_MARK",
    "aLATIN_CAPITAL_LETTER_A_WITH_GRAVE bcACUTE bcCIRCUMFLEX bcTILDE bcDIAERESIS bcRING_ABOVE wE",
    "vC_WITH_CEDILLA vE_WITH_GRAVE bcACUTE bcCIRCUMFLEX bcDIAERESIS vI_WITH_GRAVE bcACUTE",
    "bcCIRCUMFLEX bcDIAERESIS vETH vN_WITH_TILDE vO_WITH_GRAVE bcACUTE bcCIRCUMFLEX bcTILDE",
    "bcDIAERESIS aMULTIPLICATION_SIGN aLATIN_CAPITAL_LETTER_O_WITH_STROKE vU_WITH_GRAVE bcACUTE",
    "bcCIRCUMFLEX bcDIAERESIS vY_WITH_ACUTE vTHORN gSMALL_LETTER_SHARP_S tA_WITH_GRAVE baACUTE",
    "baCIRCUMFLEX baTILDE baDIAERESIS baRING_ABOVE uE tC_WITH_CEDILLA tE_WITH_GRAVE baACUTE",
    "baCIRCUMFLEX baDIAERESIS tI_WITH_GRAVE baACUTE baCIRCUMFLEX baDIAERESIS tETH tN_WITH_TILDE",
    "tO_WITH_GRAVE baACUTE baCIRCUMFLEX baTILDE baDIAERESIS aDIVISION_SIGN",
    "aLATIN_SMALL_LETTER_O_WITH_STROKE tU_WITH_GRAVE baACUTE baCIRCUMFLEX baDIAERESIS",
    "tY_WITH_ACUTE tTHORN tY_WITH_DIAERESIS gCAPITAL_LETTER_A_WITH_MACRON",
    "gSMALL_LETTER_A_WITH_MACRON gCAPITAL_LETTER_A_WITH_BREVE gSMALL_LETTER_A_WITH_BREVE",
    "gCAPITAL_LETTER_A_WITH_OGONEK gSMALL_LETTER_A_WITH_OGONEK gCAPITAL_LETTER_C_WITH_ACUTE",
    "gSMALL_LETTER_C_WITH_ACUTE gCAPITAL_LETTER_C_WITH_CIRCUMFLEX",
    "gSMALL_LETTER_C_WITH_CIRCUMFLEX gCAPITAL_LETTER_C_WITH_DOT_ABOVE",
    "gSMALL_LETTER_C_WITH_DOT_ABOVE gCAPITAL_LETTER_C_WITH_CARON gSMALL_LETTER_C_WITH_CARON",
    "gCAPITAL_LETTER_D_WITH_CARON gSMALL_LETTER_D_WITH_CARON gCAPITAL_LETTER_D_WITH_STROKE",
    "gSMALL_LETTER_D_WITH_STROKE gCAPITAL_LETTER_E_WITH_MACRON gSMALL_LETTER_E_WITH_MACRON",
    "gCAPITAL_LETTER_E_WITH_BREVE gSMALL_LETTER_E_WITH_BREVE gCAPITAL_LETTER_E_WITH_DOT_ABOVE",
    "gSMALL_LETTER_E_WITH_DOT_ABOVE gCAPITAL_LETTER_E_WITH_OGONEK gSMALL_LETTER_E_WITH_OGONEK",
    "gCAPITAL_LETTER_E_WITH_CARON gSMALL_LETTER_E_WITH_CARON gCAPITAL_LETTER_G_WITH_CIRCUMFLEX",
    "gSMALL_LETTER_G_WITH_CIRCUMFLEX gCAPITAL_LETTER_G_WITH_BREVE gSMALL_LETTER_G_WITH_BREVE",
    "gCAPITAL_LETTER_G_WITH_DOT_ABOVE gSMALL_LETTER_G_WITH_DOT_ABOVE",
    "gCAPITAL_LETTER_G_WITH_CEDILLA gSMALL_LETTER_G_WITH_CEDILLA",
    "gCAPITAL_LETTER_H_WITH_CIRCUMFLEX gSMALL_LETTER_H_WITH_CIRCUMFLEX",
    "gCAPITAL_LETTER_H_WITH_STROKE gSMALL_LETTER_H_WITH_STROKE gCAPITAL_LETTER_I_WITH_TILDE",
    "gSMALL_LETTER_I_WITH_TILDE gCAPITAL_LETTER_I_WITH_MACRON gSMALL_LETTER_I_WITH_MACRON",
    "gCAPITAL_LETTER_I_WITH_BREVE gSMALL_LETTER_I_WITH_BREVE gCAPITAL_LETTER_I_WITH_OGONEK",
    "gSMALL_LETTER_I_WITH_OGONEK gCAPITAL_LETTER_I_WITH_DOT_ABOVE gSMALL_LETTER_DOTLESS_I",
    "gCAPITAL_LIGATURE_IJ gSMALL_LIGATURE_IJ gCAPITAL_LETTER_J_WITH_CIRCUMFLEX",
    "gSMALL_LETTER_J_WITH_CIRCUMFLEX gCAPITAL_LETTER_K_WITH_CEDILLA gSMALL_LETTER_K_WITH_CEDILLA",
    "uRA gCAPITAL_LETTER_L_WITH_ACUTE gSMALL_LETTER_L_WITH_ACUTE gCAPITAL_LETTER_L_WITH_CEDILLA",
    "gSMALL_LETTER_L_WITH_CEDILLA gCAPITAL_LETTER_L_WITH_CARON gSMALL_LETTER_L_WITH_CARON",
    "gCAPITAL_LETTER_L_WITH_MIDDLE_DOT gSMALL_LETTER_L_WITH_MIDDLE_DOT",
    "gCAPITAL_LETTER_L_WITH_STROKE gSMALL_LETTER_L_WITH_STROKE gCAPITAL_LETTER_N_WITH_ACUTE",
    "gSMALL_LETTER_N_WITH_ACUTE gCAPITAL_LETTER_N_WITH_CEDILLA gSMALL_LETTER_N_WITH_CEDILLA",
    "gCAPITAL_LETTER_N_WITH_CARON gSMALL_LETTER_N_WITH_CARON vPRECEDED_BY_APOSTROPHE",
    "gCAPITAL_LETTER_ENG gSMALL_LETTER_ENG gCAPITAL_LETTER_O_WITH_MACRON",
    "gSMALL_LETTER_O_WITH_MACRON gCAPITAL_LETTER_O_WITH_BREVE gSMALL_LETTER_O_WITH_BREVE",
    "gCAPITAL_LETTER_O_WITH_DOUBLE_ACUTE gSMALL_LETTER_O_WITH_DOUBLE_ACUTE gCAPITAL_LIGATURE_OE",
    "gSMALL_LIGATURE_OE gCAPITAL_LETTER_R_WITH_ACUTE gSMALL_LETTER_R_WITH_ACUTE",
    "gCAPITAL_LETTER_R_WITH_CEDILLA gSMALL_LETTER_R_WITH_CEDILLA gCAPITAL_LETTER_R_WITH_CARON",
    "gSMALL_LETTER_R_WITH_CARON gCAPITAL_LETTER_S_WITH_ACUTE gSMALL_LETTER_S_WITH_ACUTE",
    "gCAPITAL_LETTER_S_WITH_CIRCUMFLEX gSMALL_LETTER_S_WITH_CIRCUMFLEX",
    "gCAPITAL_LETTER_S_WITH_CEDILLA gSMALL_LETTER_S_WITH_CEDILLA gCAPITAL_LETTER_S_WITH_CARON",
    "gSMALL_LETTER_S_WITH_CARON gCAPITAL_LETTER_T_WITH_CEDILLA gSMALL_LETTER_T_WITH_CEDILLA",
    "gCAPITAL_LETTER_T_WITH_CARON gSMALL_LETTER_T_WITH_CARON gCAPITAL_LETTER_T_WITH_STROKE",
    "gSMALL_LETTER_T_WITH_STROKE gCAPITAL_LETTER_U_WITH_TILDE gSMALL_LETTER_U_WITH_TILDE",
    "gCAPITAL_LETTER_U_WITH_MACRON gSMALL_LETTER_U_WITH_MACRON gCAPITAL_LETTER_U_WITH_BREVE",
    "gSMALL_LETTER_U_WITH_BREVE gCAPITAL_LETTER_U_WITH_RING_ABOVE",
    "gSMALL_LETTER_U_WITH_RING_ABOVE gCAPITAL_LETTER_U_WITH_DOUBLE_ACUTE",
    "gSMALL_LETTER_U_WITH_DOUBLE_ACUTE gCAPITAL_LETTER_U_WITH_OGONEK gSMALL_LETTER_U_WITH_OGONEK",
    "gCAPITAL_LETTER_W_WITH_CIRCUMFLEX gSMALL_LETTER_W_WITH_CIRCUMFLEX",
    "gCAPITAL_LETTER_Y_WITH_CIRCUMFLEX gSMALL_LETTER_Y_WITH_CIRCUMFLEX",
    "gCAPITAL_LETTER_Y_WITH_DIAERESIS vZ_WITH_ACUTE gSMALL_LETTER_Z_WITH_ACUTE",
    "gCAPITAL_LETTER_Z_WITH_DOT_ABOVE gSMALL_LETTER_Z_WITH_DOT_ABOVE",
    "gCAPITAL_LETTER_Z_WITH_CARON gSMALL_LETTER_Z_WITH_CARON tLONG_S tB_WITH_STROKE",
    "gCAPITAL_LETTER_B_WITH_HOOK bcTOPBAR gSMALL_LETTER_B_WITH_TOPBAR gCAPITAL_LETTER_TONE_SIX",
    "gSMALL_LETTER_TONE_SIX gCAPITAL_LETTER_OPEN_O vC_WITH_HOOK gSMALL_LETTER_C_WITH_HOOK",
    "gCAPITAL_LETTER_AFRICAN_D vD_WITH_HOOK bcTOPBAR gSMALL_LETTER_D_WITH_TOPBAR tTURNED_DELTA",
    "gCAPITAL_LETTER_REVERSED_E vSCHWA vOPEN_E vF_WITH_HOOK gSMALL_LETTER_F_WITH_HOOK",
    "gCAPITAL_LETTER_G_WITH_HOOK wAMMA gSMALL_LETTER_HV gCAPITAL_LETTER_IOTA w_WITH_STROKE",
    "vK_WITH_HOOK gSMALL_LETTER_K_WITH_HOOK tL_WITH_BAR uAMBDA_WITH_STROKE",
    "gCAPITAL_LETTER_TURNED_M vN_WITH_LEFT_HOOK gSMALL_LETTER_N_WITH_LONG_RIGHT_LEG",
    "gCAPITAL_LETTER_O_WITH_MIDDLE_TILDE bcHORN gSMALL_LETTER_O_WITH_HORN gCAPITAL_LETTER_OI",
    "gSMALL_LETTER_OI gCAPITAL_LETTER_P_WITH_HOOK gSMALL_LETTER_P_WITH_HOOK gLETTER_YR",
    "gCAPITAL_LETTER_TONE_TWO gSMALL_LETTER_TONE_TWO gCAPITAL_LETTER_ESH",
    "gLETTER_REVERSED_ESH_LOOP gSMALL_LETTER_T_WITH_PALATAL_HOOK gCAPITAL_LETTER_T_WITH_HOOK",
    "gSMALL_LETTER_T_WITH_HOOK gCAPITAL_LETTER_T_WITH_RETROFLEX_HOOK vU_WITH_HORN",
    "gSMALL_LETTER_U_WITH_HORN gCAPITAL_LETTER_UPSILON vV_WITH_HOOK vY_WITH_HOOK",
    "gSMALL_LETTER_Y_WITH_HOOK gCAPITAL_LETTER_Z_WITH_STROKE gSMALL_LETTER_Z_WITH_STROKE",
    "gCAPITAL_LETTER_EZH y_REVERSED gSMALL_LETTER_EZH_REVERSED xWITH_TAIL",
    "gLETTER_TWO_WITH_STROKE gCAPITAL_LETTER_TONE_FIVE gSMALL_LETTER_TONE_FIVE",
    "gLETTER_INVERTED_GLOTTAL_STOP_WITH_STROKE nWYNN nDENTAL_CLICK nLATERAL_CLICK",
    "nALVEOLAR_CLICK nRETROFLEX_CLICK gCAPITAL_LETTER_DZ_WITH_CARON",
    "w_WITH_SMALL_LETTER_Z_WITH_CARON gSMALL_LETTER_DZ_WITH_CARON gCAPITAL_LETTER_LJ",
    "w_WITH_SMALL_LETTER_J gSMALL_LETTER_LJ gCAPITAL_LETTER_NJ w_WITH_SMALL_LETTER_J",
    "gSMALL_LETTER_NJ gCAPITAL_LETTER_A_WITH_CARON gSMALL_LETTER_A_WITH_CARON",
    "gCAPITAL_LETTER_I_WITH_CARON gSMALL_LETTER_I_WITH_CARON gCAPITAL_LETTER_O_WITH_CARON",
    "gSMALL_LETTER_O_WITH_CARON gCAPITAL_LETTER_U_WITH_CARON gSMALL_LETTER_U_WITH_CARON",
    "gCAPITAL_LETTER_U_WITH_DIAERESIS_AND_MACRON gSMALL_LETTER_U_WITH_DIAERESIS_AND_MACRON",
    "gCAPITAL_LETTER_U_WITH_DIAERESIS_AND_ACUTE gSMALL_LETTER_U_WITH_DIAERESIS_AND_ACUTE",
    "gCAPITAL_LETTER_U_WITH_DIAERESIS_AND_CARON gSMALL_LETTER_U_WITH_DIAERESIS_AND_CARON",
    "gCAPITAL_LETTER_U_WITH_DIAERESIS_AND_GRAVE gSMALL_LETTER_U_WITH_DIAERESIS_AND_GRAVE",
    "tTURNED_E gCAPITAL_LETTER_A_WITH_DIAERESIS_AND_MACRON",
    "gSMALL_LETTER_A_WITH_DIAERESIS_AND_MACRON gCAPITAL_LETTER_A_WITH_DOT_ABOVE_AND_MACRON",
    "gSMALL_LETTER_A_WITH_DOT_ABOVE_AND_MACRON gCAPITAL_LETTER_AE_WITH_MACRON",
    "gSMALL_LETTER_AE_WITH_MACRON gCAPITAL_LETTER_G_WITH_STROKE gSMALL_LETTER_G_WITH_STROKE",
    "gCAPITAL_LETTER_G_WITH_CARON gSMALL_LETTER_G_WITH_CARON gCAPITAL_LETTER_K_WITH_CARON",
    "gSMALL_LETTER_K_WITH_CARON gCAPITAL_LETTER_O_WITH_OGONEK gSMALL_LETTER_O_WITH_OGONEK",
    "gCAPITAL_LETTER_O_WITH_OGONEK_AND_MACRON gSMALL_LETTER_O_WITH_OGONEK_AND_MACRON",
    "gCAPITAL_LETTER_EZH_WITH_CARON gSMALL_LETTER_EZH_WITH_CARON tJ_WITH_CARON",
    "gCAPITAL_LETTER_DZ w_WITH_SMALL_LETTER_Z gSMALL_LETTER_DZ gCAPITAL_LETTER_G_WITH_ACUTE",
    "gSMALL_LETTER_G_WITH_ACUTE gCAPITAL_LETTER_HWAIR vWYNN vN_WITH_GRAVE",
    "gSMALL_LETTER_N_WITH_GRAVE gCAPITAL_LETTER_A_WITH_RING_ABOVE_AND_ACUTE",
    "gSMALL_LETTER_A_WITH_RING_ABOVE_AND_ACUTE gCAPITAL_LETTER_AE_WITH_ACUTE",
    "gSMALL_LETTER_AE_WITH_ACUTE gCAPITAL_LETTER_O_WITH_STROKE_AND_ACUTE",
    "gSMALL_LETTER_O_WITH_STROKE_AND_ACUTE gCAPITAL_LETTER_A_WITH_DOUBLE_GRAVE",
    "gSMALL_LETTER_A_WITH_DOUBLE_GRAVE gCAPITAL_LETTER_A_WITH_INVERTED_BREVE",
    "gSMALL_LETTER_A_WITH_INVERTED_BREVE gCAPITAL_LETTER_E_WITH_DOUBLE_GRAVE",
    "gSMALL_LETTER_E_WITH_DOUBLE_GRAVE gCAPITAL_LETTER_E_WITH_INVERTED_BREVE",
    "gSMALL_LETTER_E_WITH_INVERTED_BREVE gCAPITAL_LETTER_I_WITH_DOUBLE_GRAVE",
    "gSMALL_LETTER_I_WITH_DOUBLE_GRAVE gCAPITAL_LETTER_I_WITH_INVERTED_BREVE",
    "gSMALL_LETTER_I_WITH_INVERTED_BREVE gCAPITAL_LETTER_O_WITH_DOUBLE_GRAVE",
    "gSMALL_LETTER_O_WITH_DOUBLE_GRAVE gCAPITAL_LETTER_O_WITH_INVERTED_BREVE",
    "gSMALL_LETTER_O_WITH_INVERTED_BREVE gCAPITAL_LETTER_R_WITH_DOUBLE_GRAVE",
    "gSMALL_LETTER_R_WITH_DOUBLE_GRAVE gCAPITAL_LETTER_R_WITH_INVERTED_BREVE",
    "gSMALL_LETTER_R_WITH_INVERTED_BREVE gCAPITAL_LETTER_U_WITH_DOUBLE_GRAVE",
    "gSMALL_LETTER_U_WITH_DOUBLE_GRAVE gCAPITAL_LETTER_U_WITH_INVERTED_BREVE",
    "gSMALL_LETTER_U_WITH_INVERTED_BREVE gCAPITAL_LETTER_S_WITH_COMMA_BELOW",
    "gSMALL_LETTER_S_WITH_COMMA_BELOW gCAPITAL_LETTER_T_WITH_COMMA_BELOW",
    "gSMALL_LETTER_T_WITH_COMMA_BELOW gCAPITAL_LETTER_YOGH gSMALL_LETTER_YOGH",
    "gCAPITAL_LETTER_H_WITH_CARON gSMALL_LETTER_H_WITH_CARON",
    "gCAPITAL_LETTER_N_WITH_LONG_RIGHT_LEG gSMALL_LETTER_D_WITH_CURL gCAPITAL_LETTER_OU",
    "gSMALL_LETTER_OU gCAPITAL_LETTER_Z_WITH_HOOK gSMALL_LETTER_Z_WITH_HOOK",
    "gCAPITAL_LETTER_A_WITH_DOT_ABOVE gSMALL_LETTER_A_WITH_DOT_ABOVE",
    "gCAPITAL_LETTER_E_WITH_CEDILLA gSMALL_LETTER_E_WITH_CEDILLA",
    "gCAPITAL_LETTER_O_WITH_DIAERESIS_AND_MACRON gSMALL_LETTER_O_WITH_DIAERESIS_AND_MACRON",
    "gCAPITAL_LETTER_O_WITH_TILDE_AND_MACRON gSMALL_LETTER_O_WITH_TILDE_AND_MACRON",
    "gCAPITAL_LETTER_O_WITH_DOT_ABOVE gSMALL_LETTER_O_WITH_DOT_ABOVE",
    "gCAPITAL_LETTER_O_WITH_DOT_ABOVE_AND_MACRON gSMALL_LETTER_O_WITH_DOT_ABOVE_AND_MACRON",
    "gCAPITAL_LETTER_Y_WITH_MACRON gSMALL_LETTER_Y_WITH_MACRON tL_WITH_CURL tN_WITH_CURL",
    "tT_WITH_CURL tDOTLESS_J uB_DIGRAPH tQP_DIGRAPH gCAPITAL_LETTER_A_WITH_STROKE vC_WITH_STROKE",
    "gSMALL_LETTER_C_WITH_STROKE gCAPITAL_LETTER_L_WITH_BAR vT_WITH_DIAGONAL_STROKE",
    "gSMALL_LETTER_S_WITH_SWASH_TAIL tZ_WITH_SWASH_TAIL gCAPITAL_LETTER_GLOTTAL_STOP",
    "gSMALL_LETTER_GLOTTAL_STOP gCAPITAL_LETTER_B_WITH_STROKE vU_BAR vTURNED_V vE_WITH_STROKE",
    "gSMALL_LETTER_E_WITH_STROKE gCAPITAL_LETTER_J_WITH_STROKE gSMALL_LETTER_J_WITH_STROKE",
    "gCAPITAL_LETTER_SMALL_Q_WITH_HOOK_TAIL gSMALL_LETTER_Q_WITH_HOOK_TAIL",
    "gCAPITAL_LETTER_R_WITH_STROKE gSMALL_LETTER_R_WITH_STROKE gCAPITAL_LETTER_Y_WITH_STROKE",
    "gSMALL_LETTER_Y_WITH_STROKE tTURNED_A tALPHA tTURNED_ALPHA tB_WITH_HOOK tOPEN_O",
    "tC_WITH_CURL tD_WITH_TAIL baHOOK tREVERSED_E tSCHWA y_WITH_HOOK tOPEN_E tREVERSED_OPEN_E",
    "bi_WITH_HOOK tCLOSED_REVERSED_OPEN_E tDOTLESS_J_WITH_STROKE tG_WITH_HOOK tSCRIPT_G",
    "gLETTER_SMALL_CAPITAL_G gSMALL_LETTER_GAMMA tRAMS_HORN tTURNED_H tH_WITH_HOOK",
    "uENG_WITH_HOOK tI_WITH_STROKE uOTA gLETTER_SMALL_CAPITAL_I",
    "gSMALL_LETTER_L_WITH_MIDDLE_TILDE baBELT baRETROFLEX_HOOK uEZH tTURNED_M bb_WITH_LONG_LEG",
    "tM_WITH_HOOK tN_WITH_LEFT_HOOK baRETROFLEX_HOOK gLETTER_SMALL_CAPITAL_N",
    "gSMALL_LETTER_BARRED_O gLETTER_SMALL_CAPITAL_OE gSMALL_LETTER_CLOSED_OMEGA tPHI tTURNED_R",
    "bb_WITH_LONG_LEG bhHOOK tR_WITH_LONG_LEG baTAIL baFISHHOOK uEVERSED_R_WITH_FISHHOOK",
    "gLETTER_SMALL_CAPITAL_R bbINVERTED_R gSMALL_LETTER_S_WITH_HOOK tESH",
    "tDOTLESS_J_WITH_STROKE_AND_HOOK tSQUAT_REVERSED_ESH tESH_WITH_CURL tTURNED_T",
    "u_WITH_RETROFLEX_HOOK tU_BAR uPSILON tV_WITH_HOOK tTURNED_V baW baY gLETTER_SMALL_CAPITAL_Y",
    "gSMALL_LETTER_Z_WITH_RETROFLEX_HOOK baCURL tEZH w_WITH_CURL gLETTER_GLOTTAL_STOP",
    "nPHARYNGEAL_VOICED_FRICATIVE nINVERTED_GLOTTAL_STOP nSTRETCHED_C nBILABIAL_CLICK",
    "nSMALL_CAPITAL_B gSMALL_LETTER_CLOSED_OPEN_E gLETTER_SMALL_CAPITAL_G_WITH_HOOK bbH",
    "gSMALL_LETTER_J_WITH_CROSSED-TAIL tTURNED_K gLETTER_SMALL_CAPITAL_L",
    "gSMALL_LETTER_Q_WITH_HOOK gLETTER_GLOTTAL_STOP_WITH_STROKE",
    "nREVERSED_GLOTTAL_STOP_WITH_STROKE gSMALL_LETTER_DZ_DIGRAPH uEZH_DIGRAPH",
    "uZ_DIGRAPH_WITH_CURL tTS_DIGRAPH uESH_DIGRAPH uC_DIGRAPH_WITH_CURL tFENG_DIGRAPH",
    "tLS_DIGRAPH uZ_DIGRAPH gLETTER_BILABIAL_PERCUSSIVE pDENTAL_PERCUSSIVE",
    "gSMALL_LETTER_TURNED_H_WITH_FISHHOOK bp_AND_TAIL aMODIFIER_LETTER_SMALL_H x_WITH_HOOK wJ wR",
    "wTURNED_R be_WITH_HOOK wCAPITAL_INVERTED_R wW wY qPRIME qDOUBLE_PRIME qTURNED_COMMA",
    "qAPOSTROPHE qREVERSED_COMMA rIGHT_HALF_RING qLEFT_HALF_RING qGLOTTAL_STOP",
    "qREVERSED_GLOTTAL_STOP qLEFT_ARROWHEAD qRIGHT_ARROWHEAD qUP_ARROWHEAD qDOWN_ARROWHEAD",
    "qCIRCUMFLEX_ACCENT aCARON aMODIFIER_LETTER_VERTICAL_LINE qMACRON qACUTE_ACCENT",
    "qGRAVE_ACCENT qLOW_VERTICAL_LINE uMACRON uGRAVE_ACCENT uACUTE_ACCENT qTRIANGULAR_COLON",
    "qHALF_TRIANGULAR_COLON qCENTRED_RIGHT_HALF_RING yLEFT_HALF_RING qUP_TACK qDOWN_TACK",
    "qPLUS_SIGN qMINUS_SIGN aBREVE aDOT_ABOVE aRING_ABOVE aOGONEK aSMALL_TILDE",
    "aDOUBLE_ACUTE_ACCENT aMODIFIER_LETTER_RHOTIC_HOOK qCROSS_ACCENT qSMALL_GAMMA wL wS wX",
    "wREVERSED_GLOTTAL_STOP qEXTRA-HIGH_TONE_BAR qHIGH_TONE_BAR qMID_TONE_BAR qLOW_TONE_BAR",
    "qEXTRA-LOW_TONE_BAR qYIN_DEPARTING_TONE_MARK rANG_DEPARTING_TONE_MARK qVOICING qUNASPIRATED",
    "qDOUBLE_APOSTROPHE qLOW_DOWN_ARROWHEAD uUP_ARROWHEAD uLEFT_ARROWHEAD uRIGHT_ARROWHEAD wNG",
    "qMIDDLE_GRAVE_ACCENT xDOUBLE_GRAVE_ACCENT beACUTE_ACCENT qLOW_TILDE qRAISED_COLON",
    "qBEGIN_HIGH_TONE qEND_HIGH_TONE qBEGIN_LOW_TONE qEND_LOW_TONE qSHELF qOPEN_SHELF",
    "qLOW_LEFT_ARROW aCOMBINING_GRAVE_ACCENT kACUTE_ACCENT kCIRCUMFLEX_ACCENT kTILDE kMACRON",
    "kOVERLINE kBREVE kDOT_ABOVE lIAERESIS kHOOK_ABOVE kRING_ABOVE kDOUBLE_ACUTE_ACCENT kCARON",
    "kVERTICAL_LINE_ABOVE kDOUBLE_VERTICAL_LINE_ABOVE rGRAVE_ACCENT kCANDRABINDU kINVERTED_BREVE",
    "kTURNED_COMMA_ABOVE kCOMMA_ABOVE kREVERSED_COMMA_ABOVE kCOMMA_ABOVE_RIGHT",
    "kGRAVE_ACCENT_BELOW kACUTE_ACCENT_BELOW kLEFT_TACK_BELOW kRIGHT_TACK_BELOW",
    "kLEFT_ANGLE_ABOVE kHORN kLEFT_HALF_RING_BELOW kUP_TACK_BELOW kDOWN_TACK_BELOW",
    "kPLUS_SIGN_BELOW kMINUS_SIGN_BELOW kPALATALIZED_HOOK_BELOW kRETROFLEX_HOOK_BELOW kDOT_BELOW",
    "lIAERESIS_BELOW kRING_BELOW kCOMMA_BELOW lEDILLA kOGONEK kVERTICAL_LINE_BELOW kBRIDGE_BELOW",
    "kINVERTED_DOUBLE_ARCH_BELOW kCARON_BELOW lIRCUMFLEX_ACCENT_BELOW kBREVE_BELOW",
    "kINVERTED_BREVE_BELOW kTILDE_BELOW kMACRON_BELOW kLOW_LINE kDOUBLE_LOW_LINE kTILDE_OVERLAY",
    "kSHORT_STROKE_OVERLAY kLONG_STROKE_OVERLAY kSHORT_SOLIDUS_OVERLAY kLONG_SOLIDUS_OVERLAY",
    "kRIGHT_HALF_RING_BELOW kINVERTED_BRIDGE_BELOW kSQUARE_BELOW lEAGULL_BELOW kX_ABOVE",
    "kVERTICAL_TILDE kDOUBLE_OVERLINE kGRAVE_TONE_MARK kACUTE_TONE_MARK kGREEK_PERISPOMENI",
    "qKORONIS qDIALYTIKA_TONOS qYPOGEGRAMMENI kBRIDGE_ABOVE kEQUALS_SIGN_BELOW",
    "kDOUBLE_VERTICAL_LINE_BELOW kLEFT_ANGLE_BELOW kNOT_TILDE_ABOVE kHOMOTHETIC_ABOVE",
    "kALMOST_EQUAL_TO_ABOVE kLEFT_RIGHT_ARROW_BELOW kUPWARDS_ARROW_BELOW kGRAPHEME_JOINER",
    "kRIGHT_ARROWHEAD_ABOVE kLEFT_HALF_RING_ABOVE kFERMATA kX_BELOW kLEFT_ARROWHEAD_BELOW",
    "kRIGHT_ARROWHEAD_BELOW baAND_UP_ARROWHEAD_BELOW qHALF_RING_ABOVE kDOT_ABOVE_RIGHT",
    "kASTERISK_BELOW kDOUBLE_RING_BELOW kZIGZAG_ABOVE kDOUBLE_BREVE_BELOW w rMACRON x_BELOW",
    "rTILDE rINVERTED_BREVE rRIGHTWARDS_ARROW_BELOW kLATIN_SMALL_LETTER_A bdE bdI bdO bdU bdC",
    "bdD bdH bdM bdR bdT bdV bdX aGREEK_CAPITAL_LETTER_HETA gSMALL_LETTER_HETA",
    "gCAPITAL_LETTER_ARCHAIC_SAMPI gSMALL_LETTER_ARCHAIC_SAMPI gNUMERAL_SIGN gLOWER_NUMERAL_SIGN",
    "gCAPITAL_LETTER_PAMPHYLIAN_DIGAMMA gSMALL_LETTER_PAMPHYLIAN_DIGAMMA"]),
  (0x37A, ["aGREEK_YPOGEGRAMMENI gSMALL_REVERSED_LUNATE_SIGMA_SYMBOL mDOTTED_LUNATE_SIGMA_SYMBOL",
    "mREVERSED_DOTTED_LUNATE_SIGMA_SYMBOL gQUESTION_MARK gCAPITAL_LETTER_YOT"]),
  (0x384, ["aGREEK_TONOS gDIALYTIKA_TONOS gCAPITAL_LETTER_ALPHA_WITH_TONOS gANO_TELEIA",
    "gCAPITAL_LETTER_EPSILON_WITH_TONOS wTA_WITH_TONOS vIOTA_WITH_TONOS"]),
  (0x38C, ["aGREEK_CAPITAL_LETTER_OMICRON_WITH_TONOS"]), (0x38E, [
    "aGREEK_CAPITAL_LETTER_UPSILON_WITH_TONOS vOMEGA_WITH_TONOS",
    "gSMALL_LETTER_IOTA_WITH_DIALYTIKA_AND_TONOS gCAPITAL_LETTER_ALPHA vBETA vGAMMA vDELTA",
    "vEPSILON vZETA vETA vTHETA vIOTA vKAPPA vLAMDA vMU vNU vXI vOMICRON vPI vRHO"]),
  (0x3A3, ["aGREEK_CAPITAL_LETTER_SIGMA vTAU vUPSILON vPHI vCHI vPSI vOMEGA vIOTA_WITH_DIALYTIKA",
    "vUPSILON_WITH_DIALYTIKA gSMALL_LETTER_ALPHA_WITH_TONOS tEPSILON_WITH_TONOS uTA_WITH_TONOS",
    "tIOTA_WITH_TONOS tUPSILON_WITH_DIALYTIKA_AND_TONOS tALPHA tBETA tGAMMA tDELTA tEPSILON",
    "tZETA tETA tTHETA tIOTA tKAPPA tLAMDA tMU tNU tXI tOMICRON tPI tRHO tFINAL_SIGMA tSIGMA",
    "tTAU tUPSILON tPHI tCHI tPSI tOMEGA tIOTA_WITH_DIALYTIKA tUPSILON_WITH_DIALYTIKA",
    "tOMICRON_WITH_TONOS tUPSILON_WITH_TONOS tOMEGA_WITH_TONOS gCAPITAL_KAI_SYMBOL gBETA_SYMBOL",
    "gTHETA_SYMBOL gUPSILON_WITH_HOOK_SYMBOL tACUTE_AND_HOOK_SYMBOL tDIAERESIS_AND_HOOK_SYMBOL",
    "gPHI_SYMBOL hI_SYMBOL gKAI_SYMBOL gLETTER_ARCHAIC_KOPPA gSMALL_LETTER_ARCHAIC_KOPPA",
    "gLETTER_STIGMA gSMALL_LETTER_STIGMA gLETTER_DIGAMMA gSMALL_LETTER_DIGAMMA gLETTER_KOPPA",
    "gSMALL_LETTER_KOPPA gLETTER_SAMPI gSMALL_LETTER_SAMPI aCOPTIC_CAPITAL_LETTER_SHEI",
    "hSMALL_LETTER_SHEI hCAPITAL_LETTER_FEI hSMALL_LETTER_FEI hCAPITAL_LETTER_KHEI",
    "hSMALL_LETTER_KHEI hCAPITAL_LETTER_HORI hSMALL_LETTER_HORI hCAPITAL_LETTER_GANGIA",
    "hSMALL_LETTER_GANGIA hCAPITAL_LETTER_SHIMA hSMALL_LETTER_SHIMA hCAPITAL_LETTER_DEI",
    "hSMALL_LETTER_DEI aGREEK_KAPPA_SYMBOL gRHO_SYMBOL gLUNATE_SIGMA_SYMBOL hETTER_YOT",
    "gCAPITAL_THETA_SYMBOL gLUNATE_EPSILON_SYMBOL gREVERSED_LUNATE_EPSILON_SYMBOL",
    "gCAPITAL_LETTER_SHO gSMALL_LETTER_SHO gCAPITAL_LUNATE_SIGMA_SYMBOL pETTER_SAN",
    "gSMALL_LETTER_SAN gRHO_WITH_STROKE_SYMBOL gCAPITAL_REVERSED_LUNATE_SIGMA_SYMBOL",
    "oDOTTED_LUNATE_SIGMA_SYMBOL oREVERSED_DOTTED_LUNATE_SIGMA_SYMBOL",
    "aCYRILLIC_CAPITAL_LETTER_IE_WITH_GRAVE zO yDJE yGJE yUKRAINIAN_IE yDZE",
    "yBYELORUSSIAN-UKRAINIAN_I yYI yJE yLJE yNJE yTSHE yKJE yI_WITH_GRAVE ySHORT_U yDZHE yA yBE",
    "yVE yGHE yDE yIE yZHE zE yI ySHORT_I yKA yEL zM zN yO yPE yER zS yTE yU yEF yHA yTSE yCHE",
    "ySHA baCHA yHARD_SIGN yYERU ySOFT_SIGN yE yYU zA jSMALL_LETTER_A wBE wVE wGHE wDE wIE wZHE",
    "xE wI wSHORT_I wKA wEL xM xN wO wPE wER xS wTE wU wEF wHA wTSE wCHE wSHA yCHA wHARD_SIGN",
    "wYERU wSOFT_SIGN wE wYU xA wIE_WITH_GRAVE xO wDJE wGJE wUKRAINIAN_IE wDZE",
    "wBYELORUSSIAN-UKRAINIAN_I wYI wJE wLJE wNJE wTSHE wKJE wI_WITH_GRAVE wSHORT_U wDZHE",
    "jCAPITAL_LETTER_OMEGA jSMALL_LETTER_OMEGA jCAPITAL_LETTER_YAT jSMALL_LETTER_YAT",
    "jCAPITAL_LETTER_IOTIFIED_E jSMALL_LETTER_IOTIFIED_E jCAPITAL_LETTER_LITTLE_YUS",
    "jSMALL_LETTER_LITTLE_YUS jCAPITAL_LETTER_IOTIFIED_LITTLE_YUS",
    "jSMALL_LETTER_IOTIFIED_LITTLE_YUS jCAPITAL_LETTER_BIG_YUS jSMALL_LETTER_BIG_YUS",
    "jCAPITAL_LETTER_IOTIFIED_BIG_YUS jSMALL_LETTER_IOTIFIED_BIG_YUS jCAPITAL_LETTER_KSI",
    "jSMALL_LETTER_KSI jCAPITAL_LETTER_PSI jSMALL_LETTER_PSI jCAPITAL_LETTER_FITA",
    "jSMALL_LETTER_FITA jCAPITAL_LETTER_IZHITSA jSMALL_LETTER_IZHITSA",
    "jCAPITAL_LETTER_IZHITSA_WITH_DOUBLE_GRAVE_ACCENT",
    "jSMALL_LETTER_IZHITSA_WITH_DOUBLE_GRAVE_ACCENT jCAPITAL_LETTER_UK jSMALL_LETTER_UK",
    "jCAPITAL_LETTER_ROUND_OMEGA jSMALL_LETTER_ROUND_OMEGA jCAPITAL_LETTER_OMEGA_WITH_TITLO",
    "jSMALL_LETTER_OMEGA_WITH_TITLO jCAPITAL_LETTER_OT jSMALL_LETTER_OT jCAPITAL_LETTER_KOPPA",
    "jSMALL_LETTER_KOPPA jTHOUSANDS_SIGN bOMBINING_CYRILLIC_TITLO tPALATALIZATION",
    "tDASIA_PNEUMATA tPSILI_PNEUMATA uOKRYTIE tHUNDRED_THOUSANDS_SIGN tMILLIONS_SIGN",
    "bYRILLIC_CAPITAL_LETTER_SHORT_I_WITH_TAIL jSMALL_LETTER_SHORT_I_WITH_TAIL",
    "jCAPITAL_LETTER_SEMISOFT_SIGN jSMALL_LETTER_SEMISOFT_SIGN jCAPITAL_LETTER_ER_WITH_TICK",
    "jSMALL_LETTER_ER_WITH_TICK jCAPITAL_LETTER_GHE_WITH_UPTURN jSMALL_LETTER_GHE_WITH_UPTURN",
    "jCAPITAL_LETTER_GHE_WITH_STROKE jSMALL_LETTER_GHE_WITH_STROKE",
    "jCAPITAL_LETTER_GHE_WITH_MIDDLE_HOOK jSMALL_LETTER_GHE_WITH_MIDDLE_HOOK",
    "jCAPITAL_LETTER_ZHE_WITH_DESCENDER jSMALL_LETTER_ZHE_WITH_DESCENDER",
    "jCAPITAL_LETTER_ZE_WITH_DESCENDER jSMALL_LETTER_ZE_WITH_DESCENDER",
    "jCAPITAL_LETTER_KA_WITH_DESCENDER jSMALL_LETTER_KA_WITH_DESCENDER",
    "jCAPITAL_LETTER_KA_WITH_VERTICAL_STROKE jSMALL_LETTER_KA_WITH_VERTICAL_STROKE",
    "jCAPITAL_LETTER_KA_WITH_STROKE jSMALL_LETTER_KA_WITH_STROKE jCAPITAL_LETTER_BASHKIR_KA",
    "jSMALL_LETTER_BASHKIR_KA jCAPITAL_LETTER_EN_WITH_DESCENDER jSMALL_LETTER_EN_WITH_DESCENDER",
    "jCAPITAL_LIGATURE_EN_GHE jSMALL_LIGATURE_EN_GHE jCAPITAL_LETTER_PE_WITH_MIDDLE_HOOK",
    "jSMALL_LETTER_PE_WITH_MIDDLE_HOOK jCAPITAL_LETTER_ABKHASIAN_HA jSMALL_LETTER_ABKHASIAN_HA",
    "jCAPITAL_LETTER_ES_WITH_DESCENDER jSMALL_LETTER_ES_WITH_DESCENDER",
    "jCAPITAL_LETTER_TE_WITH_DESCENDER jSMALL_LETTER_TE_WITH_DESCENDER",
    "jCAPITAL_LETTER_STRAIGHT_U jSMALL_LETTER_STRAIGHT_U jCAPITAL_LETTER_STRAIGHT_U_WITH_STROKE",
    "jSMALL_LETTER_STRAIGHT_U_WITH_STROKE jCAPITAL_LETTER_HA_WITH_DESCENDER",
    "jSMALL_LETTER_HA_WITH_DESCENDER jCAPITAL_LIGATURE_TE_TSE jSMALL_LIGATURE_TE_TSE",
    "jCAPITAL_LETTER_CHE_WITH_DESCENDER jSMALL_LETTER_CHE_WITH_DESCENDER",
    "jCAPITAL_LETTER_CHE_WITH_VERTICAL_STROKE jSMALL_LETTER_CHE_WITH_VERTICAL_STROKE",
    "jCAPITAL_LETTER_SHHA jSMALL_LETTER_SHHA jCAPITAL_LETTER_ABKHASIAN_CHE",
    "jSMALL_LETTER_ABKHASIAN_CHE jCAPITAL_LETTER_ABKHASIAN_CHE_WITH_DESCENDER",
    "jSMALL_LETTER_ABKHASIAN_CHE_WITH_DESCENDER jLETTER_PALOCHKA jCAPITAL_LETTER_ZHE_WITH_BREVE",
    "jSMALL_LETTER_ZHE_WITH_BREVE jCAPITAL_LETTER_KA_WITH_HOOK jSMALL_LETTER_KA_WITH_HOOK",
    "jCAPITAL_LETTER_EL_WITH_TAIL jSMALL_LETTER_EL_WITH_TAIL jCAPITAL_LETTER_EN_WITH_HOOK",
    "jSMALL_LETTER_EN_WITH_HOOK jCAPITAL_LETTER_EN_WITH_TAIL jSMALL_LETTER_EN_WITH_TAIL",
    "jCAPITAL_LETTER_KHAKASSIAN_CHE jSMALL_LETTER_KHAKASSIAN_CHE jCAPITAL_LETTER_EM_WITH_TAIL",
    "jSMALL_LETTER_EM_WITH_TAIL wPALOCHKA jCAPITAL_LETTER_A_WITH_BREVE",
    "jSMALL_LETTER_A_WITH_BREVE jCAPITAL_LETTER_A_WITH_DIAERESIS jSMALL_LETTER_A_WITH_DIAERESIS",
    "jCAPITAL_LIGATURE_A_IE jSMALL_LIGATURE_A_IE jCAPITAL_LETTER_IE_WITH_BREVE",
    "jSMALL_LETTER_IE_WITH_BREVE jCAPITAL_LETTER_SCHWA jSMALL_LETTER_SCHWA",
    "jCAPITAL_LETTER_SCHWA_WITH_DIAERESIS jSMALL_LETTER_SCHWA_WITH_DIAERESIS",
    "jCAPITAL_LETTER_ZHE_WITH_DIAERESIS jSMALL_LETTER_ZHE_WITH_DIAERESIS",
    "jCAPITAL_LETTER_ZE_WITH_DIAERESIS jSMALL_LETTER_ZE_WITH_DIAERESIS",
    "jCAPITAL_LETTER_ABKHASIAN_DZE jSMALL_LETTER_ABKHASIAN_DZE jCAPITAL_LETTER_I_WITH_MACRON",
    "jSMALL_LETTER_I_WITH_MACRON jCAPITAL_LETTER_I_WITH_DIAERESIS jSMALL_LETTER_I_WITH_DIAERESIS",
    "jCAPITAL_LETTER_O_WITH_DIAERESIS jSMALL_LETTER_O_WITH_DIAERESIS jCAPITAL_LETTER_BARRED_O",
    "jSMALL_LETTER_BARRED_O jCAPITAL_LETTER_BARRED_O_WITH_DIAERESIS",
    "jSMALL_LETTER_BARRED_O_WITH_DIAERESIS jCAPITAL_LETTER_E_WITH_DIAERESIS",
    "jSMALL_LETTER_E_WITH_DIAERESIS jCAPITAL_LETTER_U_WITH_MACRON jSMALL_LETTER_U_WITH_MACRON",
    "jCAPITAL_LETTER_U_WITH_DIAERESIS jSMALL_LETTER_U_WITH_DIAERESIS",
    "jCAPITAL_LETTER_U_WITH_DOUBLE_ACUTE jSMALL_LETTER_U_WITH_DOUBLE_ACUTE",
    "jCAPITAL_LETTER_CHE_WITH_DIAERESIS jSMALL_LETTER_CHE_WITH_DIAERESIS",
    "jCAPITAL_LETTER_GHE_WITH_DESCENDER jSMALL_LETTER_GHE_WITH_DESCENDER",
    "jCAPITAL_LETTER_YERU_WITH_DIAERESIS jSMALL_LETTER_YERU_WITH_DIAERESIS",
    "jCAPITAL_LETTER_GHE_WITH_STROKE_AND_HOOK jSMALL_LETTER_GHE_WITH_STROKE_AND_HOOK",
    "jCAPITAL_LETTER_HA_WITH_HOOK jSMALL_LETTER_HA_WITH_HOOK jCAPITAL_LETTER_HA_WITH_STROKE",
    "jSMALL_LETTER_HA_WITH_STROKE jCAPITAL_LETTER_KOMI_DE jSMALL_LETTER_KOMI_DE",
    "jCAPITAL_LETTER_KOMI_DJE jSMALL_LETTER_KOMI_DJE jCAPITAL_LETTER_KOMI_ZJE",
    "jSMALL_LETTER_KOMI_ZJE jCAPITAL_LETTER_KOMI_DZJE jSMALL_LETTER_KOMI_DZJE",
    "jCAPITAL_LETTER_KOMI_LJE jSMALL_LETTER_KOMI_LJE jCAPITAL_LETTER_KOMI_NJE",
    "jSMALL_LETTER_KOMI_NJE jCAPITAL_LETTER_KOMI_SJE jSMALL_LETTER_KOMI_SJE",
    "jCAPITAL_LETTER_KOMI_TJE jSMALL_LETTER_KOMI_TJE jCAPITAL_LETTER_REVERSED_ZE",
    "jSMALL_LETTER_REVERSED_ZE jCAPITAL_LETTER_EL_WITH_HOOK jSMALL_LETTER_EL_WITH_HOOK",
    "jCAPITAL_LETTER_LHA jSMALL_LETTER_LHA jCAPITAL_LETTER_RHA jSMALL_LETTER_RHA",
    "jCAPITAL_LETTER_YAE jSMALL_LETTER_YAE jCAPITAL_LETTER_QA jSMALL_LETTER_QA",
    "jCAPITAL_LETTER_WE jSMALL_LETTER_WE jCAPITAL_LETTER_ALEUT_KA jSMALL_LETTER_ALEUT_KA",
    "jCAPITAL_LETTER_EL_WITH_MIDDLE_HOOK jSMALL_LETTER_EL_WITH_MIDDLE_HOOK",
    "jCAPITAL_LETTER_EN_WITH_MIDDLE_HOOK jSMALL_LETTER_EN_WITH_MIDDLE_HOOK",
    "jCAPITAL_LETTER_PE_WITH_DESCENDER jSMALL_LETTER_PE_WITH_DESCENDER",
    "jCAPITAL_LETTER_SHHA_WITH_DESCENDER jSMALL_LETTER_SHHA_WITH_DESCENDER",
    "jCAPITAL_LETTER_EN_WITH_LEFT_HOOK jSMALL_LETTER_EN_WITH_LEFT_HOOK jCAPITAL_LETTER_DZZHE",
    "jSMALL_LETTER_DZZHE jCAPITAL_LETTER_DCHE jSMALL_LETTER_DCHE",
    "jCAPITAL_LETTER_EL_WITH_DESCENDER jSMALL_LETTER_EL_WITH_DESCENDER"]),
  (0x531, ["aARMENIAN_CAPITAL_LETTER_AYB yBEN yGIM yDA yECH yZA yEH zT yTO yZHE yINI yLIWN yXEH",
    "yCA yKEN yHO yJA yGHAD yCHEH yMEN yYI yNOW ySHA yVO yCHA yPEH yJHEH yRA ySEH yVEW yTIWN",
    "yREH yCO yYIWN yPIWR yKEH yOH yFEH"]), (0x559, ["aARMENIAN_MODIFIER_LETTER_LEFT_HALF_RING",
    "jAPOSTROPHE jEMPHASIS_MARK kXCLAMATION_MARK jCOMMA jQUESTION_MARK jABBREVIATION_MARK",
    "jSMALL_LETTER_TURNED_AYB wAYB wBEN wGIM wDA wECH wZA wEH xT wTO wZHE wINI wLIWN wXEH wCA",
    "wKEN wHO wJA wGHAD wCHEH wMEN wYI wNOW wSHA wVO wCHA wPEH wJHEH wRA wSEH wVEW wTIWN wREH",
    "wCO wYIWN wPIWR wKEH wOH wFEH qIGATURE_ECH_YIWN qETTER_YI_WITH_STROKE jFULL_STOP jHYPHEN"]),
  (0x58D, ["aRIGHT-FACING_ARMENIAN_ETERNITY_SIGN aLEFT-FACING_ARMENIAN_ETERNITY_SIGN",
    "aARMENIAN_DRAM_SIGN"]), (0x591, ["aHEBREW_ACCENT_ETNAHTA oSEGOL pHALSHELET oZAQEF_QATAN",
    "uGADOL oTIPEHA oREVIA oZARQA oPASHTA oYETIV oTEVIR oGERESH u_MUQDAM rSHAYIM oQARNEY_PARA",
    "oTELISHA_GEDOLA oPAZER oATNAH_HAFUKH oMUNAH pAHAPAKH pERKHA u_KEFULA oDARGA oQADMA",
    "oTELISHA_QETANA oYERAH_BEN_YOMO oOLE oILUY oDEHI oZINOR hMARK_MASORA_CIRCLE hPOINT_SHEVA",
    "nHATAF_SEGOL tPATAH tQAMATS oIRIQ nTSERE nSEGOL nPATAH nQAMATS nHOLAM s_HASER_FOR_VAV",
    "nQUBUTS nDAGESH_OR_MAPIQ nMETEG iUNCTUATION_MAQAF iOINT_RAFE iUNCTUATION_PASEQ",
    "iOINT_SHIN_DOT oIN_DOT iUNCTUATION_SOF_PASUQ hMARK_UPPER_DOT mLOWER_DOT",
    "hPUNCTUATION_NUN_HAFUKHA iOINT_QAMATS_QATAN"]), (0x5D0, ["aHEBREW_LETTER_ALEF oBET oGIMEL",
    "oDALET oHE oVAV oZAYIN oHET oTET oYOD oFINAL_KAF oKAF oLAMED oFINAL_MEM oMEM oFINAL_NUN",
    "oNUN oSAMEKH oAYIN oFINAL_PE oPE oFINAL_TSADI oTSADI oQOF oRESH oSHIN oTAV"]),
  (0x5EF, ["aHEBREW_YOD_TRIANGLE hLIGATURE_YIDDISH_DOUBLE_VAV yVAV_YOD yDOUBLE_YOD",
    "hPUNCTUATION_GERESH wSHAYIM"]), (0x600, ["aARABIC_NUMBER_SIGN hSIGN_SANAH hFOOTNOTE_MARKER",
    "hSIGN_SAFHA oMVAT hNUMBER_MARK_ABOVE g-INDIC_CUBE_ROOT nFOURTH_ROOT g_RAY",
    "g-INDIC_PER_MILLE_SIGN rTEN_THOUSAND_SIGN bFGHANI_SIGN bRABIC_COMMA hDATE_SEPARATOR",
    "hPOETIC_VERSE_SIGN hSIGN_MISRA mSALLALLAHOU_ALAYHE_WASSALLAM mALAYHE_ASSALLAM",
    "mRAHMATULLAH_ALAYHE oDI_ALLAHOU_ANHU mTAKHALLUS iMALL_HIGH_TAH",
    "sLIGATURE_ALEF_WITH_LAM_WITH_YEH sZAIN nFATHA nDAMMA nKASRA iEMICOLON hLETTER_MARK",
    "hEND_OF_TEXT_MARK hTRIPLE_DOT_PUNCTUATION_MARK hQUESTION_MARK hLETTER_KASHMIRI_YEH oHAMZA",
    "oALEF_WITH_MADDA_ABOVE yHAMZA_ABOVE oWAW_WITH_HAMZA_ABOVE oALEF_WITH_HAMZA_BELOW",
    "oYEH_WITH_HAMZA_ABOVE oALEF oBEH oTEH_MARBUTA r pHEH oJEEM oHAH oKHAH oDAL oTHAL oREH oZAIN",
    "oSEEN pHEEN pAD oDAD oTAH oZAH oAIN oGHAIN oKEHEH_WITH_TWO_DOTS_ABOVE baHREE_DOTS_BELOW",
    "oFARSI_YEH_WITH_INVERTED_V bdTWO_DOTS_ABOVE beHREE_DOTS_ABOVE hTATWEEL hLETTER_FEH oQAF",
    "oKAF oLAM oMEEM oNOON oHEH oWAW oALEF_MAKSURA oYEH hFATHATAN hDAMMATAN hKASRATAN hFATHA",
    "hDAMMA hKASRA hSHADDA iUKUN hMADDAH_ABOVE hHAMZA_ABOVE nBELOW hSUBSCRIPT_ALEF",
    "hINVERTED_DAMMA hMARK_NOON_GHUNNA hZWARAKAY hVOWEL_SIGN_SMALL_V_ABOVE",
    "sINVERTED_SMALL_V_ABOVE sDOT_BELOW hREVERSED_DAMMA hFATHA_WITH_TWO_DOTS hWAVY_HAMZA_BELOW",
    "g-INDIC_DIGIT_ZERO tONE tTWO uHREE tFOUR uIVE tSIX uEVEN tEIGHT tNINE g_PERCENT_SIGN",
    "hDECIMAL_SEPARATOR hTHOUSANDS_SEPARATOR hFIVE_POINTED_STAR hLETTER_DOTLESS_BEH wQAF",
    "oSUPERSCRIPT_ALEF oALEF_WASLA uITH_WAVY_HAMZA_ABOVE bjBELOW oHIGH_HAMZA y_ALEF zWAW",
    "oU_WITH_HAMZA_ABOVE oHIGH_HAMZA_YEH oTTEH sEH oBEEH oTEH_WITH_RING",
    "xTHREE_DOTS_ABOVE_DOWNWARDS oPEH oTEHEH oBEHEH oHAH_WITH_HAMZA_ABOVE",
    "xTWO_DOTS_VERTICAL_ABOVE oNYEH oDYEH oHAH_WITH_THREE_DOTS_ABOVE oTCHEH tEH oDDAL",
    "pAL_WITH_RING xDOT_BELOW bg_AND_SMALL_TAH qHAL pDAHAL pUL",
    "pAL_WITH_THREE_DOTS_ABOVE_DOWNWARDS xFOUR_DOTS_ABOVE oRREH pEH_WITH_SMALL_V xRING",
    "xDOT_BELOW xSMALL_V_BELOW xDOT_BELOW_AND_DOT_ABOVE xTWO_DOTS_ABOVE oJEH",
    "oREH_WITH_FOUR_DOTS_ABOVE oSEEN_WITH_DOT_BELOW_AND_DOT_ABOVE yTHREE_DOTS_BELOW",
    "bo_AND_THREE_DOTS_ABOVE pAD_WITH_TWO_DOTS_BELOW yHREE_DOTS_ABOVE oTAH_WITH_THREE_DOTS_ABOVE",
    "oAIN_WITH_THREE_DOTS_ABOVE oDOTLESS_FEH oFEH_WITH_DOT_MOVED_BELOW bbBELOW oVEH",
    "oFEH_WITH_THREE_DOTS_BELOW oPEHEH oQAF_WITH_DOT_ABOVE xTHREE_DOTS_ABOVE oKEHEH oSWASH_KAF",
    "oKAF_WITH_RING xDOT_ABOVE oNG oKAF_WITH_THREE_DOTS_BELOW oGAF r_WITH_RING oNGOEH",
    "oGAF_WITH_TWO_DOTS_BELOW pUEH pAF_WITH_THREE_DOTS_ABOVE oLAM_WITH_SMALL_V xDOT_ABOVE",
    "xTHREE_DOTS_ABOVE biBELOW oNOON_WITH_DOT_BELOW tGHUNNA oRNOON oNOON_WITH_RING",
    "yTHREE_DOTS_ABOVE oHEH_DOACHASHMEE oTCHEH_WITH_DOT_ABOVE oHEH_WITH_YEH_ABOVE sGOAL",
    "w_WITH_HAMZA_ABOVE oTEH_MARBUTA_GOAL oWAW_WITH_RING oKIRGHIZ_OE oOE oU oYU oKIRGHIZ_YU",
    "oWAW_WITH_TWO_DOTS_ABOVE oVE oFARSI_YEH oYEH_WITH_TAIL xSMALL_V oWAW_WITH_DOT_ABOVE oE",
    "oYEH_WITH_THREE_DOTS_BELOW sBARREE y_WITH_HAMZA_ABOVE hFULL_STOP hLETTER_AE",
    "hSMALL_HIGH_LIGATURE_SAD_WITH_LAM_WITH_ALEF_MAKSURA bbQAF_WITH_LAM_WITH_ALEF_MAKSURA",
    "sMEEM_INITIAL_FORM sLAM_ALEF sJEEM sTHREE_DOTS sSEEN hEND_OF_AYAH hSTART_OF_RUB_EL_HIZB",
    "iMALL_HIGH_ROUNDED_ZERO sUPRIGHT_RECTANGULAR_ZERO sDOTLESS_HEAD_OF_KHAH sMEEM_ISOLATED_FORM",
    "nLOW_SEEN nHIGH_MADDA nWAW nYEH nHIGH_YEH sNOON hPLACE_OF_SAJDAH hEMPTY_CENTRE_LOW_STOP",
    "uHIGH_STOP hROUNDED_HIGH_STOP_WITH_FILLED_CENTRE hSMALL_LOW_MEEM",
    "hLETTER_DAL_WITH_INVERTED_V oREH_WITH_INVERTED_V aEXTENDED_ARABIC-INDIC_DIGIT_ZERO bcONE",
    "bcTWO bdHREE bcFOUR bdIVE bcSIX bdEVEN bcEIGHT bcNINE aARABIC_LETTER_SHEEN_WITH_DOT_BELOW",
    "oDAD_WITH_DOT_BELOW oGHAIN_WITH_DOT_BELOW hSIGN_SINDHI_AMPERSAND tPOSTPOSITION_MEN",
    "hLETTER_HEH_WITH_INVERTED_V"])]

end TraceLens.CharacterName
