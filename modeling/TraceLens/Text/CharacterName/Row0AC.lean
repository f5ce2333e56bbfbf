/-!
# Names of characters from row 0xAC on

The names of the characters from row 0xAC to row 0xFF, in runs without a gap: the first code
point, and the names in the form that `CharacterName` describes.
-/

namespace TraceLens.CharacterName

def row0AC : List (Nat × List String) := [
  (0xD7B0, ["aHANGUL_JUNGSEONG_O-YEO tO-I rYO-A vE uEO rU-YEO tI-I rYU-AE uO rEU-A uEO v uO",
    "rI-YA-O vE uEO v tO-I tYO uU tI rARAEA-A xE"]), (0xD7CB, ["aHANGUL_JONGSEONG_NIEUN-RIEUL",
    "xCHIEUCH rSSANGTIKEUT bc-PIEUP rTIKEUT-PIEUP ySIOS bc-KIYEOK yCIEUC zHIEUCH yTHIEUTH",
    "rRIEUL-SSANGKIYEOK xKIYEOK-HIEUH rSSANGRIEUL-KHIEUKH rRIEUL-MIEUM-HIEUH xPIEUP-TIKEUT",
    "bdPHIEUPH xYESIEUNG zORINHIEUH-HIEUH rKAPYEOUNRIEUL rMIEUM-NIEUN xSSANGNIEUN rSSANGMIEUM",
    "rMIEUM-PIEUP-SIOS xCIEUC rPIEUP-TIKEUT xRIEUL-PHIEUPH xMIEUM rSSANGPIEUP rPIEUP-SIOS-TIKEUT",
    "xCIEUC yHIEUCH rSIOS-MIEUM wKAPYEOUNPIEUP sSANGSIOS-KIYEOK bbTIKEUT sIOS-PANSIOS wCIEUC",
    "xHIEUCH wTHIEUTH wHIEUH rPANSIOS-PIEUP zKAPYEOUNPIEUP rYESIEUNG-MIEUM baHIEUH rCIEUC-PIEUP",
    "xSSANGPIEUP rSSANGCIEUC rPHIEUPH-SIOS zTHIEUTH"]), (0xF900, [
    "aCJK_COMPATIBILITY_IDEOGRAPH-F900 bf1 bf2 bf3 bf4 bf5 bf6 bf7 bf8 bf9 bfA bfB bfC bfD bfE",
    "bfF be10 bf1 bf2 bf3 bf4 bf5 bf6 bf7 bf8 bf9 bfA bfB bfC bfD bfE bfF be20 bf1 bf2 bf3 bf4",
    "bf5 bf6 bf7 bf8 bf9 bfA bfB bfC bfD bfE bfF be30 bf1 bf2 bf3 bf4 bf5 bf6 bf7 bf8 bf9 bfA",
    "bfB bfC bfD bfE bfF be40 bf1 bf2 bf3 bf4 bf5 bf6 bf7 bf8 bf9 bfA bfB bfC bfD bfE bfF be50",
    "bf1 bf2 bf3 bf4 bf5 bf6 bf7 bf8 bf9 bfA bfB bfC bfD bfE bfF be60 bf1 bf2 bf3 bf4 bf5 bf6",
    "bf7 bf8 bf9 bfA bfB bfC bfD bfE bfF be70 bf1 bf2 bf3 bf4 bf5 bf6 bf7 bf8 bf9 bfA bfB bfC",
    "bfD bfE bfF be80 bf1 bf2 bf3 bf4 bf5 bf6 bf7 bf8 bf9 bfA bfB bfC bfD bfE bfF be90 bf1 bf2",
    "bf3 bf4 bf5 bf6 bf7 bf8 bf9 bfA bfB bfC bfD bfE bfF beA0 bf1 bf2 bf3 bf4 bf5 bf6 bf7 bf8",
    "bf9 bfA bfB bfC bfD bfE bfF beB0 bf1 bf2 bf3 bf4 bf5 bf6 bf7 bf8 bf9 bfA bfB bfC bfD bfE",
    "bfF beC0 bf1 bf2 bf3 bf4 bf5 bf6 bf7 bf8 bf9 bfA bfB bfC bfD bfE bfF beD0 bf1 bf2 bf3 bf4",
    "bf5 bf6 bf7 bf8 bf9 bfA bfB bfC bfD bfE bfF beE0 bf1 bf2 bf3 bf4 bf5 bf6 bf7 bf8 bf9 bfA",
    "bfB bfC bfD bfE bfF beF0 bf1 bf2 bf3 bf4 bf5 bf6 bf7 bf8 bf9 bfA bfB bfC bfD bfE bfF bdA00",
    "bf1 bf2 bf3 bf4 bf5 bf6 bf7 bf8 bf9 bfA bfB bfC bfD bfE bfF be10 bf1 bf2 bf3 bf4 bf5 bf6",
    "bf7 bf8 bf9 bfA bfB bfC bfD bfE bfF be20 bf1 bf2 bf3 bf4 bf5 bf6 bf7 bf8 bf9 bfA bfB bfC",
    "bfD bfE bfF be30 bf1 bf2 bf3 bf4 bf5 bf6 bf7 bf8 bf9 bfA bfB bfC bfD bfE bfF be40 bf1 bf2",
    "bf3 bf4 bf5 bf6 bf7 bf8 bf9 bfA bfB bfC bfD bfE bfF be50 bf1 bf2 bf3 bf4 bf5 bf6 bf7 bf8",
    "bf9 bfA bfB bfC bfD bfE bfF be60 bf1 bf2 bf3 bf4 bf5 bf6 bf7 bf8 bf9 bfA bfB bfC bfD"]),
  (0xFA70, ["aCJK_COMPATIBILITY_IDEOGRAPH-FA70 bf1 bf2 bf3 bf4 bf5 bf6 bf7 bf8 bf9 bfA bfB bfC",
    "bfD bfE bfF be80 bf1 bf2 bf3 bf4 bf5 bf6 bf7 bf8 bf9 bfA bfB bfC bfD bfE bfF be90 bf1 bf2",
    "bf3 bf4 bf5 bf6 bf7 bf8 bf9 bfA bfB bfC bfD bfE bfF beA0 bf1 bf2 bf3 bf4 bf5 bf6 bf7 bf8",
    "bf9 bfA bfB bfC bfD bfE bfF beB0 bf1 bf2 bf3 bf4 bf5 bf6 bf7 bf8 bf9 bfA bfB bfC bfD bfE",
    "bfF beC0 bf1 bf2 bf3 bf4 bf5 bf6 bf7 bf8 bf9 bfA bfB bfC bfD bfE bfF beD0 bf1 bf2 bf3 bf4",
    "bf5 bf6 bf7 bf8 bf9"]), (0xFB00, ["aLATIN_SMALL_LIGATURE_FF wI wL wFI xL vLONG_S_T vST"]),
  (0xFB13, ["aARMENIAN_SMALL_LIGATURE_MEN_NOW bcECH bcINI yVEW_NOW yMEN_XEH"]),
  (0xFB1D, ["aHEBREW_LETTER_YOD_WITH_HIRIQ hPOINT_JUDEO-SPANISH_VARIKA",
    "hLIGATURE_YIDDISH_YOD_YOD_PATAH iETTER_ALTERNATIVE_AYIN oWIDE_ALEF tDALET tHE tKAF tLAMED",
    "tFINAL_MEM tRESH tTAV oALTERNATIVE_PLUS_SIGN oSHIN_WITH_SHIN_DOT zIN_DOT",
    "yDAGESH_AND_SHIN_DOT bkIN_DOT oALEF_WITH_PATAH yQAMATS yMAPIQ oBET_WITH_DAGESH",
    "oGIMEL_WITH_DAGESH oDALET_WITH_DAGESH oHE_WITH_MAPIQ oVAV_WITH_DAGESH oZAYIN_WITH_DAGESH"]),
  (0xFB38, ["aHEBREW_LETTER_TET_WITH_DAGESH oYOD_WITH_DAGESH oFINAL_KAF_WITH_DAGESH",
    "oKAF_WITH_DAGESH oLAMED_WITH_DAGESH"]), (0xFB3E, ["aHEBREW_LETTER_MEM_WITH_DAGESH"]),
  (0xFB40, ["aHEBREW_LETTER_NUN_WITH_DAGESH oSAMEKH_WITH_DAGESH"]), (0xFB43, [
    "aHEBREW_LETTER_FINAL_PE_WITH_DAGESH oPE_WITH_DAGESH"]), (0xFB46, [
    "aHEBREW_LETTER_TSADI_WITH_DAGESH oQOF_WITH_DAGESH oRESH_WITH_DAGESH oSHIN_WITH_DAGESH",
    "oTAV_WITH_DAGESH oVAV_WITH_HOLAM oBET_WITH_RAFE oKAF_WITH_RAFE oPE_WITH_RAFE",
    "iIGATURE_ALEF_LAMED aARABIC_LETTER_ALEF_WASLA_ISOLATED_FORM zFINAL_FORM oBEEH_ISOLATED_FORM",
    "tFINAL_FORM tINITIAL_FORM tMEDIAL_FORM oPEH_ISOLATED_FORM sFINAL_FORM sINITIAL_FORM",
    "sMEDIAL_FORM oBEHEH_ISOLATED_FORM uFINAL_FORM uINITIAL_FORM uMEDIAL_FORM",
    "oTTEHEH_ISOLATED_FORM vFINAL_FORM vINITIAL_FORM vMEDIAL_FORM pEHEH_ISOLATED_FORM",
    "uFINAL_FORM uINITIAL_FORM uMEDIAL_FORM pTEH_ISOLATED_FORM tFINAL_FORM tINITIAL_FORM",
    "tMEDIAL_FORM oVEH_ISOLATED_FORM sFINAL_FORM sINITIAL_FORM sMEDIAL_FORM oPEHEH_ISOLATED_FORM",
    "uFINAL_FORM uINITIAL_FORM uMEDIAL_FORM oDYEH_ISOLATED_FORM tFINAL_FORM tINITIAL_FORM",
    "tMEDIAL_FORM oNYEH_ISOLATED_FORM tFINAL_FORM tINITIAL_FORM tMEDIAL_FORM",
    "oTCHEH_ISOLATED_FORM uFINAL_FORM uINITIAL_FORM uMEDIAL_FORM tEH_ISOLATED_FORM wFINAL_FORM",
    "wINITIAL_FORM wMEDIAL_FORM oDDAHAL_ISOLATED_FORM vFINAL_FORM pAHAL_ISOLATED_FORM",
    "uFINAL_FORM pUL_ISOLATED_FORM sFINAL_FORM pDAL_ISOLATED_FORM tFINAL_FORM oJEH_ISOLATED_FORM",
    "sFINAL_FORM oRREH_ISOLATED_FORM tFINAL_FORM oKEHEH_ISOLATED_FORM uFINAL_FORM uINITIAL_FORM",
    "uMEDIAL_FORM oGAF_ISOLATED_FORM sFINAL_FORM sINITIAL_FORM sMEDIAL_FORM pUEH_ISOLATED_FORM",
    "tFINAL_FORM tINITIAL_FORM tMEDIAL_FORM oNGOEH_ISOLATED_FORM uFINAL_FORM uINITIAL_FORM",
    "uMEDIAL_FORM pOON_GHUNNA_ISOLATED_FORM baFINAL_FORM oRNOON_ISOLATED_FORM uFINAL_FORM",
    "uINITIAL_FORM uMEDIAL_FORM oHEH_WITH_YEH_ABOVE_ISOLATED_FORM bhFINAL_FORM",
    "sGOAL_ISOLATED_FORM xFINAL_FORM xINITIAL_FORM xMEDIAL_FORM sDOACHASHMEE_ISOLATED_FORM",
    "beFINAL_FORM beINITIAL_FORM beMEDIAL_FORM oYEH_BARREE_ISOLATED_FORM zFINAL_FORM",
    "zWITH_HAMZA_ABOVE_ISOLATED_FORM bqFINAL_FORM hSYMBOL_DOT_ABOVE sBELOW oTWO_DOTS_ABOVE",
    "xBELOW pHREE_DOTS_ABOVE zBELOW zPOINTING_DOWNWARDS_ABOVE bsBELOW oFOUR_DOTS_ABOVE yBELOW",
    "oDOUBLE_VERTICAL_BAR_BELOW oTWO_DOTS_VERTICALLY_ABOVE biBELOW oRING oSMALL_TAH_ABOVE yBELOW",
    "oWASLA_ABOVE"]), (0xFBD3, ["aARABIC_LETTER_NG_ISOLATED_FORM rFINAL_FORM rINITIAL_FORM",
    "rMEDIAL_FORM oU_ISOLATED_FORM qFINAL_FORM oOE_ISOLATED_FORM rFINAL_FORM oYU_ISOLATED_FORM",
    "rFINAL_FORM oU_WITH_HAMZA_ABOVE_ISOLATED_FORM oVE_ISOLATED_FORM rFINAL_FORM",
    "oKIRGHIZ_OE_ISOLATED_FORM zFINAL_FORM wYU_ISOLATED_FORM zFINAL_FORM oE_ISOLATED_FORM",
    "qFINAL_FORM qINITIAL_FORM qMEDIAL_FORM oUIGHUR_KAZAKH_KIRGHIZ_ALEF_MAKSURA_INITIAL_FORM",
    "bxMEDIAL_FORM iIGATURE_YEH_WITH_HAMZA_ABOVE_WITH_ALEF_ISOLATED_FORM bvFINAL_FORM",
    "brE_ISOLATED_FORM btFINAL_FORM bqWAW_ISOLATED_FORM buFINAL_FORM bqU_ISOLATED_FORM",
    "bsFINAL_FORM bqOE_ISOLATED_FORM btFINAL_FORM bqYU_ISOLATED_FORM btFINAL_FORM",
    "bqE_ISOLATED_FORM bsFINAL_FORM bsINITIAL_FORM",
    "qUIGHUR_KIRGHIZ_YEH_WITH_HAMZA_ABOVE_WITH_ALEF_MAKSURA_ISOLATED_FORM csFINAL_FORM",
    "csINITIAL_FORM iETTER_FARSI_YEH_ISOLATED_FORM yFINAL_FORM yINITIAL_FORM yMEDIAL_FORM",
    "iIGATURE_YEH_WITH_HAMZA_ABOVE_WITH_JEEM_ISOLATED_FORM bqHAH_ISOLATED_FORM",
    "bqMEEM_ISOLATED_FORM bqALEF_MAKSURA_ISOLATED_FORM bqYEH_ISOLATED_FORM",
    "qBEH_WITH_JEEM_ISOLATED_FORM zHAH_ISOLATED_FORM zKHAH_ISOLATED_FORM zMEEM_ISOLATED_FORM",
    "zALEF_MAKSURA_ISOLATED_FORM zYEH_ISOLATED_FORM qTEH_WITH_JEEM_ISOLATED_FORM",
    "zHAH_ISOLATED_FORM zKHAH_ISOLATED_FORM zMEEM_ISOLATED_FORM zALEF_MAKSURA_ISOLATED_FORM",
    "zYEH_ISOLATED_FORM rHEH_WITH_JEEM_ISOLATED_FORM baMEEM_ISOLATED_FORM",
    "baALEF_MAKSURA_ISOLATED_FORM baYEH_ISOLATED_FORM qJEEM_WITH_HAH_ISOLATED_FORM",
    "baMEEM_ISOLATED_FORM qHAH_WITH_JEEM_ISOLATED_FORM zMEEM_ISOLATED_FORM",
    "qKHAH_WITH_JEEM_ISOLATED_FORM baHAH_ISOLATED_FORM baMEEM_ISOLATED_FORM",
    "qSEEN_WITH_JEEM_ISOLATED_FORM baHAH_ISOLATED_FORM baKHAH_ISOLATED_FORM baMEEM_ISOLATED_FORM",
    "rAD_WITH_HAH_ISOLATED_FORM zMEEM_ISOLATED_FORM qDAD_WITH_JEEM_ISOLATED_FORM",
    "zHAH_ISOLATED_FORM zKHAH_ISOLATED_FORM zMEEM_ISOLATED_FORM qTAH_WITH_HAH_ISOLATED_FORM",
    "zMEEM_ISOLATED_FORM qZAH_WITH_MEEM_ISOLATED_FORM qAIN_WITH_JEEM_ISOLATED_FORM",
    "zMEEM_ISOLATED_FORM qGHAIN_WITH_JEEM_ISOLATED_FORM bbMEEM_ISOLATED_FORM",
    "qFEH_WITH_JEEM_ISOLATED_FORM zHAH_ISOLATED_FORM zKHAH_ISOLATED_FORM zMEEM_ISOLATED_FORM",
    "zALEF_MAKSURA_ISOLATED_FORM zYEH_ISOLATED_FORM qQAF_WITH_HAH_ISOLATED_FORM",
    "zMEEM_ISOLATED_FORM zALEF_MAKSURA_ISOLATED_FORM zYEH_ISOLATED_FORM",
    "qKAF_WITH_ALEF_ISOLATED_FORM zJEEM_ISOLATED_FORM zHAH_ISOLATED_FORM zKHAH_ISOLATED_FORM",
    "zLAM_ISOLATED_FORM zMEEM_ISOLATED_FORM zALEF_MAKSURA_ISOLATED_FORM zYEH_ISOLATED_FORM",
    "qLAM_WITH_JEEM_ISOLATED_FORM zHAH_ISOLATED_FORM zKHAH_ISOLATED_FORM zMEEM_ISOLATED_FORM",
    "zALEF_MAKSURA_ISOLATED_FORM zYEH_ISOLATED_FORM qMEEM_WITH_JEEM_ISOLATED_FORM",
    "baHAH_ISOLATED_FORM baKHAH_ISOLATED_FORM baMEEM_ISOLATED_FORM baALEF_MAKSURA_ISOLATED_FORM",
    "baYEH_ISOLATED_FORM qNOON_WITH_JEEM_ISOLATED_FORM baHAH_ISOLATED_FORM baKHAH_ISOLATED_FORM",
    "baMEEM_ISOLATED_FORM baALEF_MAKSURA_ISOLATED_FORM baYEH_ISOLATED_FORM",
    "qHEH_WITH_JEEM_ISOLATED_FORM zMEEM_ISOLATED_FORM zALEF_MAKSURA_ISOLATED_FORM",
    "zYEH_ISOLATED_FORM qYEH_WITH_JEEM_ISOLATED_FORM zHAH_ISOLATED_FORM zKHAH_ISOLATED_FORM",
    "zMEEM_ISOLATED_FORM zALEF_MAKSURA_ISOLATED_FORM zYEH_ISOLATED_FORM",
    "qTHAL_WITH_SUPERSCRIPT_ALEF_ISOLATED_FORM qREH_WITH_SUPERSCRIPT_ALEF_ISOLATED_FORM",
    "qALEF_MAKSURA_WITH_SUPERSCRIPT_ALEF_ISOLATED_FORM qSHADDA_WITH_DAMMATAN_ISOLATED_FORM",
    "bcKASRATAN_ISOLATED_FORM bcFATHA_ISOLATED_FORM bcDAMMA_ISOLATED_FORM bcKASRA_ISOLATED_FORM",
    "bcSUPERSCRIPT_ALEF_ISOLATED_FORM qYEH_WITH_HAMZA_ABOVE_WITH_REH_FINAL_FORM",
    "bqZAIN_FINAL_FORM bqMEEM_FINAL_FORM bqNOON_FINAL_FORM bqALEF_MAKSURA_FINAL_FORM",
    "bqYEH_FINAL_FORM qBEH_WITH_REH_FINAL_FORM zZAIN_FINAL_FORM zMEEM_FINAL_FORM",
    "zNOON_FINAL_FORM zALEF_MAKSURA_FINAL_FORM zYEH_FINAL_FORM qTEH_WITH_REH_FINAL_FORM",
    "zZAIN_FINAL_FORM zMEEM_FINAL_FORM zNOON_FINAL_FORM zALEF_MAKSURA_FINAL_FORM zYEH_FINAL_FORM",
    "rHEH_WITH_REH_FINAL_FORM baZAIN_FINAL_FORM baMEEM_FINAL_FORM baNOON_FINAL_FORM",
    "baALEF_MAKSURA_FINAL_FORM baYEH_FINAL_FORM qFEH_WITH_ALEF_MAKSURA_FINAL_FORM",
    "zYEH_FINAL_FORM qQAF_WITH_ALEF_MAKSURA_FINAL_FORM zYEH_FINAL_FORM qKAF_WITH_ALEF_FINAL_FORM",
    "zLAM_FINAL_FORM zMEEM_FINAL_FORM zALEF_MAKSURA_FINAL_FORM zYEH_FINAL_FORM",
    "qLAM_WITH_MEEM_FINAL_FORM zALEF_MAKSURA_FINAL_FORM zYEH_FINAL_FORM",
    "qMEEM_WITH_ALEF_FINAL_FORM baMEEM_FINAL_FORM qNOON_WITH_REH_FINAL_FORM baZAIN_FINAL_FORM",
    "baMEEM_FINAL_FORM baNOON_FINAL_FORM baALEF_MAKSURA_FINAL_FORM baYEH_FINAL_FORM",
    "qALEF_MAKSURA_WITH_SUPERSCRIPT_ALEF_FINAL_FORM qYEH_WITH_REH_FINAL_FORM zZAIN_FINAL_FORM",
    "zMEEM_FINAL_FORM zNOON_FINAL_FORM zALEF_MAKSURA_FINAL_FORM zYEH_FINAL_FORM",
    "zHAMZA_ABOVE_WITH_JEEM_INITIAL_FORM bqHAH_INITIAL_FORM bqKHAH_INITIAL_FORM",
    "bqMEEM_INITIAL_FORM bqHEH_INITIAL_FORM qBEH_WITH_JEEM_INITIAL_FORM zHAH_INITIAL_FORM",
    "zKHAH_INITIAL_FORM zMEEM_INITIAL_FORM zHEH_INITIAL_FORM qTEH_WITH_JEEM_INITIAL_FORM",
    "zHAH_INITIAL_FORM zKHAH_INITIAL_FORM zMEEM_INITIAL_FORM zHEH_INITIAL_FORM",
    "rHEH_WITH_MEEM_INITIAL_FORM qJEEM_WITH_HAH_INITIAL_FORM baMEEM_INITIAL_FORM",
    "qHAH_WITH_JEEM_INITIAL_FORM zMEEM_INITIAL_FORM qKHAH_WITH_JEEM_INITIAL_FORM",
    "baMEEM_INITIAL_FORM qSEEN_WITH_JEEM_INITIAL_FORM baHAH_INITIAL_FORM baKHAH_INITIAL_FORM",
    "baMEEM_INITIAL_FORM rAD_WITH_HAH_INITIAL_FORM zKHAH_INITIAL_FORM zMEEM_INITIAL_FORM",
    "qDAD_WITH_JEEM_INITIAL_FORM zHAH_INITIAL_FORM zKHAH_INITIAL_FORM zMEEM_INITIAL_FORM",
    "qTAH_WITH_HAH_INITIAL_FORM qZAH_WITH_MEEM_INITIAL_FORM qAIN_WITH_JEEM_INITIAL_FORM",
    "zMEEM_INITIAL_FORM qGHAIN_WITH_JEEM_INITIAL_FORM bbMEEM_INITIAL_FORM",
    "qFEH_WITH_JEEM_INITIAL_FORM zHAH_INITIAL_FORM zKHAH_INITIAL_FORM zMEEM_INITIAL_FORM",
    "qQAF_WITH_HAH_INITIAL_FORM zMEEM_INITIAL_FORM qKAF_WITH_JEEM_INITIAL_FORM zHAH_INITIAL_FORM",
    "zKHAH_INITIAL_FORM zLAM_INITIAL_FORM zMEEM_INITIAL_FORM qLAM_WITH_JEEM_INITIAL_FORM",
    "zHAH_INITIAL_FORM zKHAH_INITIAL_FORM zMEEM_INITIAL_FORM zHEH_INITIAL_FORM",
    "qMEEM_WITH_JEEM_INITIAL_FORM baHAH_INITIAL_FORM baKHAH_INITIAL_FORM baMEEM_INITIAL_FORM",
    "qNOON_WITH_JEEM_INITIAL_FORM baHAH_INITIAL_FORM baKHAH_INITIAL_FORM baMEEM_INITIAL_FORM",
    "baHEH_INITIAL_FORM qHEH_WITH_JEEM_INITIAL_FORM zMEEM_INITIAL_FORM",
    "zSUPERSCRIPT_ALEF_INITIAL_FORM qYEH_WITH_JEEM_INITIAL_FORM zHAH_INITIAL_FORM",
    "zKHAH_INITIAL_FORM zMEEM_INITIAL_FORM zHEH_INITIAL_FORM baAMZA_ABOVE_WITH_MEEM_MEDIAL_FORM",
    "bqHEH_MEDIAL_FORM qBEH_WITH_MEEM_MEDIAL_FORM zHEH_MEDIAL_FORM qTEH_WITH_MEEM_MEDIAL_FORM",
    "zHEH_MEDIAL_FORM rHEH_WITH_MEEM_MEDIAL_FORM baHEH_MEDIAL_FORM qSEEN_WITH_MEEM_MEDIAL_FORM",
    "baHEH_MEDIAL_FORM rHEEN_WITH_MEEM_MEDIAL_FORM bbHEH_MEDIAL_FORM qKAF_WITH_LAM_MEDIAL_FORM",
    "zMEEM_MEDIAL_FORM qLAM_WITH_MEEM_MEDIAL_FORM qNOON_WITH_MEEM_MEDIAL_FORM baHEH_MEDIAL_FORM",
    "qYEH_WITH_MEEM_MEDIAL_FORM zHEH_MEDIAL_FORM qSHADDA_WITH_FATHA_MEDIAL_FORM",
    "bcDAMMA_MEDIAL_FORM bcKASRA_MEDIAL_FORM qTAH_WITH_ALEF_MAKSURA_ISOLATED_FORM",
    "zYEH_ISOLATED_FORM qAIN_WITH_ALEF_MAKSURA_ISOLATED_FORM zYEH_ISOLATED_FORM",
    "qGHAIN_WITH_ALEF_MAKSURA_ISOLATED_FORM bbYEH_ISOLATED_FORM",
    "qSEEN_WITH_ALEF_MAKSURA_ISOLATED_FORM baYEH_ISOLATED_FORM",
    "rHEEN_WITH_ALEF_MAKSURA_ISOLATED_FORM bbYEH_ISOLATED_FORM",
    "qHAH_WITH_ALEF_MAKSURA_ISOLATED_FORM zYEH_ISOLATED_FORM",
    "qJEEM_WITH_ALEF_MAKSURA_ISOLATED_FORM baYEH_ISOLATED_FORM",
    "qKHAH_WITH_ALEF_MAKSURA_ISOLATED_FORM baYEH_ISOLATED_FORM",
    "qSAD_WITH_ALEF_MAKSURA_ISOLATED_FORM zYEH_ISOLATED_FORM",
    "qDAD_WITH_ALEF_MAKSURA_ISOLATED_FORM zYEH_ISOLATED_FORM qSHEEN_WITH_JEEM_ISOLATED_FORM",
    "bbHAH_ISOLATED_FORM bbKHAH_ISOLATED_FORM bbMEEM_ISOLATED_FORM bbREH_ISOLATED_FORM",
    "rEEN_WITH_REH_ISOLATED_FORM rAD_WITH_REH_ISOLATED_FORM qDAD_WITH_REH_ISOLATED_FORM",
    "qTAH_WITH_ALEF_MAKSURA_FINAL_FORM zYEH_FINAL_FORM qAIN_WITH_ALEF_MAKSURA_FINAL_FORM",
    "zYEH_FINAL_FORM qGHAIN_WITH_ALEF_MAKSURA_FINAL_FORM bbYEH_FINAL_FORM",
    "qSEEN_WITH_ALEF_MAKSURA_FINAL_FORM baYEH_FINAL_FORM rHEEN_WITH_ALEF_MAKSURA_FINAL_FORM",
    "bbYEH_FINAL_FORM qHAH_WITH_ALEF_MAKSURA_FINAL_FORM zYEH_FINAL_FORM",
    "qJEEM_WITH_ALEF_MAKSURA_FINAL_FORM baYEH_FINAL_FORM qKHAH_WITH_ALEF_MAKSURA_FINAL_FORM",
    "baYEH_FINAL_FORM qSAD_WITH_ALEF_MAKSURA_FINAL_FORM zYEH_FINAL_FORM",
    "qDAD_WITH_ALEF_MAKSURA_FINAL_FORM zYEH_FINAL_FORM qSHEEN_WITH_JEEM_FINAL_FORM",
    "bbHAH_FINAL_FORM bbKHAH_FINAL_FORM bbMEEM_FINAL_FORM bbREH_FINAL_FORM",
    "rEEN_WITH_REH_FINAL_FORM rAD_WITH_REH_FINAL_FORM qDAD_WITH_REH_FINAL_FORM",
    "qSHEEN_WITH_JEEM_INITIAL_FORM bbHAH_INITIAL_FORM bbKHAH_INITIAL_FORM bbMEEM_INITIAL_FORM",
    "rEEN_WITH_HEH_INITIAL_FORM rHEEN_WITH_HEH_INITIAL_FORM qTAH_WITH_MEEM_INITIAL_FORM",
    "qSEEN_WITH_JEEM_MEDIAL_FORM baHAH_MEDIAL_FORM baKHAH_MEDIAL_FORM",
    "rHEEN_WITH_JEEM_MEDIAL_FORM bbHAH_MEDIAL_FORM bbKHAH_MEDIAL_FORM qTAH_WITH_MEEM_MEDIAL_FORM",
    "qZAH_WITH_MEEM_MEDIAL_FORM qALEF_WITH_FATHATAN_FINAL_FORM bjISOLATED_FORM",
    "aORNATE_LEFT_PARENTHESIS hRIGHT_PARENTHESIS aARABIC_LIGATURE_RAHIMAHU_ALLAAH",
    "sDI_ALLAAHU_ANH bgAA bgUM biAA bhNNA qSALLALLAAHU_ALAYHI_WA-AALIH qALAYHI_AS-SALAAM",
    "wM_AS-SALAAM xAA_AS-SALAAM w_AS-SALAATU_WAS-SALAAM qQUDDISA_SIRRAH",
    "qSALLALLAHU_ALAYHI_WAAALIHEE_WA-SALLAM qALAYHAA_AS-SALAAM qTABAARAKA_WA-TAAALAA",
    "qRAHIMAHUM_ALLAAH qTEH_WITH_JEEM_WITH_MEEM_INITIAL_FORM zHAH_WITH_JEEM_FINAL_FORM",
    "bnINITIAL_FORM biMEEM_INITIAL_FORM zKHAH_WITH_MEEM_INITIAL_FORM",
    "zMEEM_WITH_JEEM_INITIAL_FORM bjHAH_INITIAL_FORM bjKHAH_INITIAL_FORM",
    "qJEEM_WITH_MEEM_WITH_HAH_FINAL_FORM boINITIAL_FORM qHAH_WITH_MEEM_WITH_YEH_FINAL_FORM",
    "bjALEF_MAKSURA_FINAL_FORM qSEEN_WITH_HAH_WITH_JEEM_INITIAL_FORM",
    "baJEEM_WITH_HAH_INITIAL_FORM bkALEF_MAKSURA_FINAL_FORM baMEEM_WITH_HAH_FINAL_FORM",
    "boINITIAL_FORM bkJEEM_INITIAL_FORM bkMEEM_FINAL_FORM bpINITIAL_FORM",
    "rAD_WITH_HAH_WITH_HAH_FINAL_FORM bmINITIAL_FORM zMEEM_WITH_MEEM_FINAL_FORM",
    "rHEEN_WITH_HAH_WITH_MEEM_FINAL_FORM bpINITIAL_FORM bbJEEM_WITH_YEH_FINAL_FORM",
    "bbMEEM_WITH_KHAH_FINAL_FORM bqINITIAL_FORM blMEEM_FINAL_FORM bqINITIAL_FORM",
    "qDAD_WITH_HAH_WITH_ALEF_MAKSURA_FINAL_FORM zKHAH_WITH_MEEM_FINAL_FORM boINITIAL_FORM",
    "qTAH_WITH_MEEM_WITH_HAH_FINAL_FORM bnINITIAL_FORM bjMEEM_INITIAL_FORM bjYEH_FINAL_FORM",
    "qAIN_WITH_JEEM_WITH_MEEM_FINAL_FORM zMEEM_WITH_MEEM_FINAL_FORM boINITIAL_FORM",
    "bjALEF_MAKSURA_FINAL_FORM qGHAIN_WITH_MEEM_WITH_MEEM_FINAL_FORM blYEH_FINAL_FORM",
    "blALEF_MAKSURA_FINAL_FORM qFEH_WITH_KHAH_WITH_MEEM_FINAL_FORM boINITIAL_FORM",
    "qQAF_WITH_MEEM_WITH_HAH_FINAL_FORM bjMEEM_FINAL_FORM qLAM_WITH_HAH_WITH_MEEM_FINAL_FORM",
    "biYEH_FINAL_FORM biALEF_MAKSURA_FINAL_FORM zJEEM_WITH_JEEM_INITIAL_FORM boFINAL_FORM",
    "zKHAH_WITH_MEEM_FINAL_FORM boINITIAL_FORM zMEEM_WITH_HAH_FINAL_FORM bnINITIAL_FORM",
    "qMEEM_WITH_HAH_WITH_JEEM_INITIAL_FORM bjMEEM_INITIAL_FORM bjYEH_FINAL_FORM",
    "baJEEM_WITH_HAH_INITIAL_FORM bkMEEM_INITIAL_FORM baKHAH_WITH_JEEM_INITIAL_FORM",
    "bkMEEM_INITIAL_FORM"]), (0xFD92, ["aARABIC_LIGATURE_MEEM_WITH_JEEM_WITH_KHAH_INITIAL_FORM",
    "qHEH_WITH_MEEM_WITH_JEEM_INITIAL_FORM bjMEEM_INITIAL_FORM",
    "qNOON_WITH_HAH_WITH_MEEM_INITIAL_FORM bjALEF_MAKSURA_FINAL_FORM baJEEM_WITH_MEEM_FINAL_FORM",
    "bpINITIAL_FORM bkALEF_MAKSURA_FINAL_FORM baMEEM_WITH_YEH_FINAL_FORM",
    "bkALEF_MAKSURA_FINAL_FORM qYEH_WITH_MEEM_WITH_MEEM_FINAL_FORM boINITIAL_FORM",
    "qBEH_WITH_KHAH_WITH_YEH_FINAL_FORM qTEH_WITH_JEEM_WITH_YEH_FINAL_FORM",
    "bjALEF_MAKSURA_FINAL_FORM zKHAH_WITH_YEH_FINAL_FORM bjALEF_MAKSURA_FINAL_FORM",
    "zMEEM_WITH_YEH_FINAL_FORM bjALEF_MAKSURA_FINAL_FORM qJEEM_WITH_MEEM_WITH_YEH_FINAL_FORM",
    "baHAH_WITH_ALEF_MAKSURA_FINAL_FORM baMEEM_WITH_ALEF_MAKSURA_FINAL_FORM",
    "qSEEN_WITH_KHAH_WITH_ALEF_MAKSURA_FINAL_FORM rAD_WITH_HAH_WITH_YEH_FINAL_FORM",
    "rHEEN_WITH_HAH_WITH_YEH_FINAL_FORM qDAD_WITH_HAH_WITH_YEH_FINAL_FORM",
    "qLAM_WITH_JEEM_WITH_YEH_FINAL_FORM zMEEM_WITH_YEH_FINAL_FORM",
    "qYEH_WITH_HAH_WITH_YEH_FINAL_FORM zJEEM_WITH_YEH_FINAL_FORM zMEEM_WITH_YEH_FINAL_FORM",
    "qMEEM_WITH_MEEM_WITH_YEH_FINAL_FORM qQAF_WITH_MEEM_WITH_YEH_FINAL_FORM",
    "qNOON_WITH_HAH_WITH_YEH_FINAL_FORM qQAF_WITH_MEEM_WITH_HAH_INITIAL_FORM",
    "qLAM_WITH_HAH_WITH_MEEM_INITIAL_FORM qAIN_WITH_MEEM_WITH_YEH_FINAL_FORM",
    "qKAF_WITH_MEEM_WITH_YEH_FINAL_FORM qNOON_WITH_JEEM_WITH_HAH_INITIAL_FORM",
    "qMEEM_WITH_KHAH_WITH_YEH_FINAL_FORM qLAM_WITH_JEEM_WITH_MEEM_INITIAL_FORM",
    "qKAF_WITH_MEEM_WITH_MEEM_FINAL_FORM qLAM_WITH_JEEM_WITH_MEEM_FINAL_FORM",
    "qNOON_WITH_JEEM_WITH_HAH_FINAL_FORM qJEEM_WITH_HAH_WITH_YEH_FINAL_FORM",
    "qHAH_WITH_JEEM_WITH_YEH_FINAL_FORM qMEEM_WITH_JEEM_WITH_YEH_FINAL_FORM",
    "qFEH_WITH_MEEM_WITH_YEH_FINAL_FORM qBEH_WITH_HAH_WITH_YEH_FINAL_FORM",
    "qKAF_WITH_MEEM_WITH_MEEM_INITIAL_FORM qAIN_WITH_JEEM_WITH_MEEM_INITIAL_FORM",
    "qSAD_WITH_MEEM_WITH_MEEM_INITIAL_FORM rEEN_WITH_KHAH_WITH_YEH_FINAL_FORM",
    "qNOON_WITH_JEEM_WITH_YEH_FINAL_FORM"]), (0xFDCF, ["aARABIC_LIGATURE_SALAAMUHU_ALAYNAA"]),
  (0xFDF0, ["aARABIC_LIGATURE_SALLA_USED_AS_KORANIC_STOP_SIGN_ISOLATED_FORM",
    "qQALA_USED_AS_KORANIC_STOP_SIGN_ISOLATED_FORM qALLAH_ISOLATED_FORM rKBAR_ISOLATED_FORM",
    "qMOHAMMAD_ISOLATED_FORM qSALAM_ISOLATED_FORM qRASOUL_ISOLATED_FORM qALAYHE_ISOLATED_FORM",
    "qWASALLAM_ISOLATED_FORM qSALLA_ISOLATED_FORM vLLAHOU_ALAYHE_WASALLAM qJALLAJALALOUHOU",
    "aRIAL_SIGN aARABIC_LIGATURE_BISMILLAH_AR-RAHMAN_AR-RAHEEM qSUBHAANAHU_WA_TAAALAA",
    "qAZZA_WA_JALL aVARIATION_SELECTOR-1 t2 t3 t4 t5 t6 t7 t8 t9 t10 u1 u2 u3 u4 u5 u6",
    "aPRESENTATION_FORM_FOR_VERTICAL_COMMA bfIDEOGRAPHIC_COMMA brFULL_STOP bfCOLON bfSEMICOLON",
    "bfEXCLAMATION_MARK bfQUESTION_MARK bfLEFT_WHITE_LENTICULAR_BRACKET",
    "bfRIGHT_WHITE_LENTICULAR_BRAKCET bfHORIZONTAL_ELLIPSIS"]), (0xFE20, [
    "aCOMBINING_LIGATURE_LEFT_HALF tRIGHT_HALF kDOUBLE_TILDE_LEFT_HALF xRIGHT_HALF",
    "kMACRON_LEFT_HALF rRIGHT_HALF kCONJOINING_MACRON kLIGATURE_LEFT_HALF_BELOW",
    "tRIGHT_HALF_BELOW kTILDE_LEFT_HALF_BELOW qRIGHT_HALF_BELOW kMACRON_LEFT_HALF_BELOW",
    "rRIGHT_HALF_BELOW kCONJOINING_MACRON_BELOW lYRILLIC_TITLO_LEFT_HALF zRIGHT_HALF",
    "aPRESENTATION_FORM_FOR_VERTICAL_TWO_DOT_LEADER bfEM_DASH bgN_DASH bfLOW_LINE",
    "bfWAVY_LOW_LINE bfLEFT_PARENTHESIS bfRIGHT_PARENTHESIS bfLEFT_CURLY_BRACKET",
    "bfRIGHT_CURLY_BRACKET bfLEFT_TORTOISE_SHELL_BRACKET bfRIGHT_TORTOISE_SHELL_BRACKET",
    "bfLEFT_BLACK_LENTICULAR_BRACKET bfRIGHT_BLACK_LENTICULAR_BRACKET",
    "bfLEFT_DOUBLE_ANGLE_BRACKET bfRIGHT_DOUBLE_ANGLE_BRACKET bfLEFT_ANGLE_BRACKET",
    "bfRIGHT_ANGLE_BRACKET bfLEFT_CORNER_BRACKET bfRIGHT_CORNER_BRACKET",
    "bfLEFT_WHITE_CORNER_BRACKET bfRIGHT_WHITE_CORNER_BRACKET aSESAME_DOT aWHITE_SESAME_DOT",
    "aPRESENTATION_FORM_FOR_VERTICAL_LEFT_SQUARE_BRACKET bfRIGHT_SQUARE_BRACKET aDASHED_OVERLINE",
    "aCENTRELINE_OVERLINE aWAVY_OVERLINE aDOUBLE_WAVY_OVERLINE bASHED_LOW_LINE",
    "aCENTRELINE_LOW_LINE aWAVY_LOW_LINE aSMALL_COMMA gIDEOGRAPHIC_COMMA gFULL_STOP"]),
  (0xFE54, ["aSMALL_SEMICOLON gCOLON gQUESTION_MARK gEXCLAMATION_MARK hM_DASH gLEFT_PARENTHESIS",
    "gRIGHT_PARENTHESIS gLEFT_CURLY_BRACKET gRIGHT_CURLY_BRACKET gLEFT_TORTOISE_SHELL_BRACKET",
    "gRIGHT_TORTOISE_SHELL_BRACKET gNUMBER_SIGN gAMPERSAND hSTERISK gPLUS_SIGN gHYPHEN-MINUS",
    "gLESS-THAN_SIGN gGREATER-THAN_SIGN gEQUALS_SIGN"]), (0xFE68, ["aSMALL_REVERSE_SOLIDUS",
    "gDOLLAR_SIGN gPERCENT_SIGN gCOMMERCIAL_AT"]), (0xFE70, ["aARABIC_FATHATAN_ISOLATED_FORM",
    "hTATWEEL_WITH_FATHATAN_ABOVE hDAMMATAN_ISOLATED_FORM hTAIL_FRAGMENT hKASRATAN_ISOLATED_FORM"]),
  (0xFE76, ["aARABIC_FATHA_ISOLATED_FORM nMEDIAL_FORM hDAMMA_ISOLATED_FORM nMEDIAL_FORM",
    "hKASRA_ISOLATED_FORM nMEDIAL_FORM hSHADDA_ISOLATED_FORM oMEDIAL_FORM iUKUN_ISOLATED_FORM",
    "nMEDIAL_FORM hLETTER_HAMZA_ISOLATED_FORM oALEF_WITH_MADDA_ABOVE_ISOLATED_FORM bkFINAL_FORM",
    "yHAMZA_ABOVE_ISOLATED_FORM bkFINAL_FORM oWAW_WITH_HAMZA_ABOVE_ISOLATED_FORM bjFINAL_FORM",
    "oALEF_WITH_HAMZA_BELOW_ISOLATED_FORM bkFINAL_FORM oYEH_WITH_HAMZA_ABOVE_ISOLATED_FORM",
    "bjFINAL_FORM bjINITIAL_FORM bjMEDIAL_FORM oALEF_ISOLATED_FORM tFINAL_FORM",
    "oBEH_ISOLATED_FORM sFINAL_FORM sINITIAL_FORM sMEDIAL_FORM oTEH_MARBUTA_ISOLATED_FORM",
    "baFINAL_FORM sISOLATED_FORM sFINAL_FORM sINITIAL_FORM sMEDIAL_FORM pHEH_ISOLATED_FORM",
    "tFINAL_FORM tINITIAL_FORM tMEDIAL_FORM oJEEM_ISOLATED_FORM tFINAL_FORM tINITIAL_FORM",
    "tMEDIAL_FORM oHAH_ISOLATED_FORM sFINAL_FORM sINITIAL_FORM sMEDIAL_FORM oKHAH_ISOLATED_FORM",
    "tFINAL_FORM tINITIAL_FORM tMEDIAL_FORM oDAL_ISOLATED_FORM sFINAL_FORM oTHAL_ISOLATED_FORM",
    "tFINAL_FORM oREH_ISOLATED_FORM sFINAL_FORM oZAIN_ISOLATED_FORM tFINAL_FORM",
    "oSEEN_ISOLATED_FORM tFINAL_FORM tINITIAL_FORM tMEDIAL_FORM pHEEN_ISOLATED_FORM uFINAL_FORM",
    "uINITIAL_FORM uMEDIAL_FORM pAD_ISOLATED_FORM sFINAL_FORM sINITIAL_FORM sMEDIAL_FORM",
    "oDAD_ISOLATED_FORM sFINAL_FORM sINITIAL_FORM sMEDIAL_FORM oTAH_ISOLATED_FORM sFINAL_FORM",
    "sINITIAL_FORM sMEDIAL_FORM oZAH_ISOLATED_FORM sFINAL_FORM sINITIAL_FORM sMEDIAL_FORM",
    "oAIN_ISOLATED_FORM sFINAL_FORM sINITIAL_FORM sMEDIAL_FORM oGHAIN_ISOLATED_FORM uFINAL_FORM",
    "uINITIAL_FORM uMEDIAL_FORM oFEH_ISOLATED_FORM sFINAL_FORM sINITIAL_FORM sMEDIAL_FORM",
    "oQAF_ISOLATED_FORM sFINAL_FORM sINITIAL_FORM sMEDIAL_FORM oKAF_ISOLATED_FORM sFINAL_FORM",
    "sINITIAL_FORM sMEDIAL_FORM oLAM_ISOLATED_FORM sFINAL_FORM sINITIAL_FORM sMEDIAL_FORM",
    "oMEEM_ISOLATED_FORM tFINAL_FORM tINITIAL_FORM tMEDIAL_FORM oNOON_ISOLATED_FORM tFINAL_FORM",
    "tINITIAL_FORM tMEDIAL_FORM oHEH_ISOLATED_FORM sFINAL_FORM sINITIAL_FORM sMEDIAL_FORM",
    "oWAW_ISOLATED_FORM sFINAL_FORM oALEF_MAKSURA_ISOLATED_FORM bbFINAL_FORM oYEH_ISOLATED_FORM",
    "sFINAL_FORM sINITIAL_FORM sMEDIAL_FORM",
    "iIGATURE_LAM_WITH_ALEF_WITH_MADDA_ABOVE_ISOLATED_FORM bvFINAL_FORM",
    "bjHAMZA_ABOVE_ISOLATED_FORM bvFINAL_FORM bpBELOW_ISOLATED_FORM bvFINAL_FORM beISOLATED_FORM",
    "beFINAL_FORM"]), (0xFEFF, ["aZERO_WIDTH_NO-BREAK_SPACE"]), (0xFF01, [
    "aFULLWIDTH_EXCLAMATION_MARK kQUOTATION_MARK kNUMBER_SIGN kDOLLAR_SIGN kPERCENT_SIGN",
    "kAMPERSAND lPOSTROPHE kLEFT_PARENTHESIS kRIGHT_PARENTHESIS kASTERISK kPLUS_SIGN kCOMMA",
    "kHYPHEN-MINUS kFULL_STOP kSOLIDUS kDIGIT_ZERO qONE qTWO rHREE qFOUR rIVE qSIX rEVEN qEIGHT",
    "qNINE kCOLON kSEMICOLON kLESS-THAN_SIGN kEQUALS_SIGN kGREATER-THAN_SIGN kQUESTION_MARK",
    "kCOMMERCIAL_AT kLATIN_CAPITAL_LETTER_A bfB bfC bfD bfE bfF bfG bfH bfI bfJ bfK bfL bfM bfN",
    "bfO bfP bfQ bfR bfS bfT bfU bfV bfW bfX bfY bfZ lEFT_SQUARE_BRACKET kREVERSE_SOLIDUS",
    "lIGHT_SQUARE_BRACKET kCIRCUMFLEX_ACCENT kLOW_LINE kGRAVE_ACCENT kLATIN_SMALL_LETTER_A bdB",
    "bdC bdD bdE bdF bdG bdH bdI bdJ bdK bdL bdM bdN bdO bdP bdQ bdR bdS bdT bdU bdV bdW bdX bdY",
    "bdZ lEFT_CURLY_BRACKET kVERTICAL_LINE kRIGHT_CURLY_BRACKET kTILDE kLEFT_WHITE_PARENTHESIS",
    "kRIGHT_WHITE_PARENTHESIS aHALFWIDTH_IDEOGRAPHIC_FULL_STOP kLEFT_CORNER_BRACKET",
    "kRIGHT_CORNER_BRACKET kIDEOGRAPHIC_COMMA kKATAKANA_MIDDLE_DOT tLETTER_WO baSMALL_A bgI bgU",
    "bgE bgO bgYA bhU bhO bgTU s-HIRAGANA_PROLONGED_SOUND_MARK s_LETTER_A baI baU baE baO baKA",
    "bbI bbU bbE bbO baSA bbI bbU bbE bbO baTA bbI bbU bbE bbO baNA bbI bbU bbE bbO baHA bbI bbU",
    "bbE bbO baMA bbI bbU bbE bbO baYA bbU bbO baRA bbI bbU bbE bbO baWA baN tVOICED_SOUND_MARK",
    "tSEMI-VOICED_SOUND_MARK kHANGUL_FILLER rLETTER_KIYEOK ySSANGKIYEOK yKIYEOK-SIOS yNIEUN",
    "bd-CIEUC beHIEUH yTIKEUT ySSANGTIKEUT yRIEUL bd-KIYEOK beMIEUM bePIEUP beSIOS beTHIEUTH",
    "bePHIEUPH beHIEUH yMIEUM yPIEUP ySSANGPIEUP yPIEUP-SIOS ySIOS zSANGSIOS yIEUNG yCIEUC",
    "ySSANGCIEUC yCHIEUCH yKHIEUKH yTHIEUTH yPHIEUPH yHIEUH"]), (0xFFC2, [
    "aHALFWIDTH_HANGUL_LETTER_A zE yYA baE yEO z"]), (0xFFCA, ["aHALFWIDTH_HANGUL_LETTER_YEO ba",
    "yO yWA baE yOE"]), (0xFFD2, ["aHALFWIDTH_HANGUL_LETTER_YO yU yWEO ba zI yYU"]),
  (0xFFDA, ["aHALFWIDTH_HANGUL_LETTER_EU yYI yI"]), (0xFFE0, ["aFULLWIDTH_CENT_SIGN kPOUND_SIGN",
    "kNOT_SIGN kMACRON kBROKEN_BAR kYEN_SIGN kWON_SIGN"]), (0xFFE8, [
    "aHALFWIDTH_FORMS_LIGHT_VERTICAL kLEFTWARDS_ARROW kUPWARDS_ARROW kRIGHTWARDS_ARROW",
    "kDOWNWARDS_ARROW kBLACK_SQUARE kWHITE_CIRCLE"]), (0xFFF9, ["aINTERLINEAR_ANNOTATION_ANCHOR",
    "xSEPARATOR xTERMINATOR aOBJECT_REPLACEMENT_CHARACTER aREPLACEMENT_CHARACTER"])]

end TraceLens.CharacterName
