/-!
# Names of characters from row 0x2C on

The names of the characters from row 0x2C to row 0x33, in runs without a gap: the first code
point, and the names in the form that `CharacterName` describes.
-/

namespace TraceLens.CharacterName

def row02C : List (Nat × List String) := [
  (0x2C00, ["aGLAGOLITIC_CAPITAL_LETTER_AZU baBUKY baVEDE baGLAGOLI baDOBRO baYESTU baZHIVETE",
    "baDZELO baZEMLJA baIZHE bbNITIAL_IZHE bb baDJERVI baKAKO baLJUDIJE baMYSLITE baNASHI baONU",
    "baPOKOJI baRITSI baSLOVO baTVRIDO baUKU baFRITU baHERU baOTU baPE baSHTA baTSI baCHRIVI",
    "baSHA baYERU bdI bbATI baSPIDERY_HA baYU baSMALL_YUS bj_WITH_TAIL baYO baIOTATED_SMALL_YUS",
    "baBIG_YUS baIOTATED_BIG_YUS baFITA baIZHITSA baSHTAPIC baTROKUTASTI_A baLATINATE_MYSLITE",
    "baCAUDATE_CHRIVI lSMALL_LETTER_AZU yBUKY yVEDE yGLAGOLI yDOBRO yYESTU yZHIVETE yDZELO",
    "yZEMLJA yIZHE zNITIAL_IZHE z yDJERVI yKAKO yLJUDIJE yMYSLITE yNASHI yONU yPOKOJI yRITSI",
    "ySLOVO yTVRIDO yUKU yFRITU yHERU yOTU yPE ySHTA yTSI yCHRIVI ySHA yYERU bbI zATI",
    "ySPIDERY_HA yYU ySMALL_YUS bh_WITH_TAIL yYO yIOTATED_SMALL_YUS yBIG_YUS yIOTATED_BIG_YUS",
    "yFITA yIZHITSA ySHTAPIC yTROKUTASTI_A yLATINATE_MYSLITE yCAUDATE_CHRIVI",
    "aLATIN_CAPITAL_LETTER_L_WITH_DOUBLE_BAR gSMALL_LETTER_L_WITH_DOUBLE_BAR",
    "gCAPITAL_LETTER_L_WITH_MIDDLE_TILDE vP_WITH_STROKE vR_WITH_TAIL gSMALL_LETTER_A_WITH_STROKE",
    "tT_WITH_DIAGONAL_STROKE gCAPITAL_LETTER_H_WITH_DESCENDER gSMALL_LETTER_H_WITH_DESCENDER",
    "gCAPITAL_LETTER_K_WITH_DESCENDER gSMALL_LETTER_K_WITH_DESCENDER",
    "gCAPITAL_LETTER_Z_WITH_DESCENDER gSMALL_LETTER_Z_WITH_DESCENDER gCAPITAL_LETTER_ALPHA",
    "vM_WITH_HOOK vTURNED_A bdLPHA gSMALL_LETTER_V_WITH_RIGHT_HOOK gCAPITAL_LETTER_W_WITH_HOOK",
    "gSMALL_LETTER_W_WITH_HOOK tV_WITH_CURL gCAPITAL_LETTER_HALF_H gSMALL_LETTER_HALF_H",
    "tTAILLESS_PHI tE_WITH_NOTCH tTURNED_R_WITH_TAIL tO_WITH_LOW_RING_INSIDE",
    "gLETTER_SMALL_CAPITAL_TURNED_E gSUBSCRIPT_SMALL_LETTER_J aMODIFIER_LETTER_CAPITAL_V",
    "aLATIN_CAPITAL_LETTER_S_WITH_SWASH_TAIL vZ_WITH_SWASH_TAIL aCOPTIC_CAPITAL_LETTER_ALFA",
    "hSMALL_LETTER_ALFA hCAPITAL_LETTER_VIDA hSMALL_LETTER_VIDA hCAPITAL_LETTER_GAMMA",
    "hSMALL_LETTER_GAMMA hCAPITAL_LETTER_DALDA hSMALL_LETTER_DALDA hCAPITAL_LETTER_EIE",
    "hSMALL_LETTER_EIE hCAPITAL_LETTER_SOU hSMALL_LETTER_SOU hCAPITAL_LETTER_ZATA",
    "hSMALL_LETTER_ZATA hCAPITAL_LETTER_HATE hSMALL_LETTER_HATE hCAPITAL_LETTER_THETHE",
    "hSMALL_LETTER_THETHE hCAPITAL_LETTER_IAUDA hSMALL_LETTER_IAUDA hCAPITAL_LETTER_KAPA",
    "hSMALL_LETTER_KAPA hCAPITAL_LETTER_LAULA hSMALL_LETTER_LAULA hCAPITAL_LETTER_MI",
    "hSMALL_LETTER_MI hCAPITAL_LETTER_NI hSMALL_LETTER_NI hCAPITAL_LETTER_KSI hSMALL_LETTER_KSI",
    "hCAPITAL_LETTER_O hSMALL_LETTER_O hCAPITAL_LETTER_PI hSMALL_LETTER_PI hCAPITAL_LETTER_RO",
    "hSMALL_LETTER_RO hCAPITAL_LETTER_SIMA hSMALL_LETTER_SIMA hCAPITAL_LETTER_TAU",
    "hSMALL_LETTER_TAU hCAPITAL_LETTER_UA hSMALL_LETTER_UA hCAPITAL_LETTER_FI hSMALL_LETTER_FI",
    "hCAPITAL_LETTER_KHI hSMALL_LETTER_KHI hCAPITAL_LETTER_PSI hSMALL_LETTER_PSI",
    "hCAPITAL_LETTER_OOU hSMALL_LETTER_OOU hCAPITAL_LETTER_DIALECT-P_ALEF",
    "hSMALL_LETTER_DIALECT-P_ALEF hCAPITAL_LETTER_OLD_COPTIC_AIN hSMALL_LETTER_OLD_COPTIC_AIN",
    "hCAPITAL_LETTER_CRYPTOGRAMMIC_EIE hSMALL_LETTER_CRYPTOGRAMMIC_EIE",
    "hCAPITAL_LETTER_DIALECT-P_KAPA hSMALL_LETTER_DIALECT-P_KAPA hCAPITAL_LETTER_DIALECT-P_NI",
    "hSMALL_LETTER_DIALECT-P_NI hCAPITAL_LETTER_CRYPTOGRAMMIC_NI hSMALL_LETTER_CRYPTOGRAMMIC_NI",
    "hCAPITAL_LETTER_OLD_COPTIC_OOU hSMALL_LETTER_OLD_COPTIC_OOU hCAPITAL_LETTER_SAMPI",
    "hSMALL_LETTER_SAMPI hCAPITAL_LETTER_CROSSED_SHEI hSMALL_LETTER_CROSSED_SHEI",
    "hCAPITAL_LETTER_OLD_COPTIC_SHEI hSMALL_LETTER_OLD_COPTIC_SHEI",
    "hCAPITAL_LETTER_OLD_COPTIC_ESH hSMALL_LETTER_OLD_COPTIC_ESH hCAPITAL_LETTER_AKHMIMIC_KHEI",
    "hSMALL_LETTER_AKHMIMIC_KHEI hCAPITAL_LETTER_DIALECT-P_HORI hSMALL_LETTER_DIALECT-P_HORI",
    "hCAPITAL_LETTER_OLD_COPTIC_HORI hSMALL_LETTER_OLD_COPTIC_HORI hCAPITAL_LETTER_OLD_COPTIC_HA",
    "hSMALL_LETTER_OLD_COPTIC_HA hCAPITAL_LETTER_L-SHAPED_HA hSMALL_LETTER_L-SHAPED_HA",
    "hCAPITAL_LETTER_OLD_COPTIC_HEI hSMALL_LETTER_OLD_COPTIC_HEI hCAPITAL_LETTER_OLD_COPTIC_HAT",
    "hSMALL_LETTER_OLD_COPTIC_HAT hCAPITAL_LETTER_OLD_COPTIC_GANGIA",
    "hSMALL_LETTER_OLD_COPTIC_GANGIA hCAPITAL_LETTER_OLD_COPTIC_DJA hSMALL_LETTER_OLD_COPTIC_DJA",
    "hCAPITAL_LETTER_OLD_COPTIC_SHIMA hSMALL_LETTER_OLD_COPTIC_SHIMA",
    "hCAPITAL_LETTER_OLD_NUBIAN_SHIMA hSMALL_LETTER_OLD_NUBIAN_SHIMA",
    "hCAPITAL_LETTER_OLD_NUBIAN_NGI hSMALL_LETTER_OLD_NUBIAN_NGI hCAPITAL_LETTER_OLD_NUBIAN_NYI",
    "hSMALL_LETTER_OLD_NUBIAN_NYI hCAPITAL_LETTER_OLD_NUBIAN_WAU hSMALL_LETTER_OLD_NUBIAN_WAU",
    "iYMBOL_KAI oMI_RO oPI_RO oSTAUROS oTAU_RO oKHI_RO oSHIMA_SIMA",
    "hCAPITAL_LETTER_CRYPTOGRAMMIC_SHEI hSMALL_LETTER_CRYPTOGRAMMIC_SHEI",
    "hCAPITAL_LETTER_CRYPTOGRAMMIC_GANGIA hSMALL_LETTER_CRYPTOGRAMMIC_GANGIA hCOMBINING_NI_ABOVE",
    "rSPIRITUS_ASPER baLENIS iAPITAL_LETTER_BOHAIRIC_KHEI hSMALL_LETTER_BOHAIRIC_KHEI"]),
  (0x2CF9, ["aCOPTIC_OLD_NUBIAN_FULL_STOP sDIRECT_QUESTION_MARK sINDIRECT_QUESTION_MARK",
    "sVERSE_DIVIDER hFRACTION_ONE_HALF iULL_STOP hMORPHOLOGICAL_DIVIDER",
    "aGEORGIAN_SMALL_LETTER_AN wBAN wGAN wDON wEN wVIN wZEN wTAN wIN wKAN wLAS wMAN wNAR wON",
    "wPAR wZHAR wRAE wSAN wTAR wUN wPHAR wKHAR wGHAN wQAR wSHIN wCHIN xAN wJIL wCIL xHAR wXAN",
    "wJHAN wHAE xE xIE wWE wHAR xOE"]), (0x2D27, ["aGEORGIAN_SMALL_LETTER_YN"]),
  (0x2D2D, ["aGEORGIAN_SMALL_LETTER_AEN"]), (0x2D30, ["aTIFINAGH_LETTER_YA sB tH sG tHH",
    "qBERBER_ACADEMY_YAJ qYAJ sD tH tD uH rEY rAF sK qTUAREG_YAK qYAKHH sH qBERBER_ACADEMY_YAH",
    "qTUAREG_YAH qYAHH sA sKH qTUAREG_YAKH qYAQ qTUAREG_YAQ qYI rAZH qAHAGGAR_YAZH qTUAREG_YAZH",
    "qYAL sM sN qTUAREG_YAGN zNG qYAP rU rAR tR sGH qTUAREG_YAGH qAYER_YAGH qYAS tS tH sT tH sCH",
    "sTT sV sW sY sZ qTAWELLEMET_YAZ qYAZZ rE rO"]), (0x2D6F, [
    "aTIFINAGH_MODIFIER_LETTER_LABIALIZATION_MARK jSEPARATOR_MARK"]), (0x2D7F, [
    "aTIFINAGH_CONSONANT_JOINER aETHIOPIC_SYLLABLE_LOA sMOA sROA sSOA tHOA sBOA sTOA sCOA sNOA",
    "tYOA sGLOTTAL_OA sZOA sDOA tDOA sJOA sTHOA sCHOA sPHOA tOA sGGWA vI vEE w"]),
  (0x2DA0, ["aETHIOPIC_SYLLABLE_SSA uU uI uAA uEE v uO"]), (0x2DA8, ["aETHIOPIC_SYLLABLE_CCA uU",
    "uI uAA uEE v uO"]), (0x2DB0, ["aETHIOPIC_SYLLABLE_ZZA uU uI uAA uEE v uO"]),
  (0x2DB8, ["aETHIOPIC_SYLLABLE_CCHA vU vI vAA vEE w vO"]), (0x2DC0, ["aETHIOPIC_SYLLABLE_QYA uU",
    "uI uAA uEE v uO"]), (0x2DC8, ["aETHIOPIC_SYLLABLE_KYA uU uI uAA uEE v uO"]),
  (0x2DD0, ["aETHIOPIC_SYLLABLE_XYA uU uI uAA uEE v uO"]), (0x2DD8, ["aETHIOPIC_SYLLABLE_GYA uU",
    "uI uAA uEE v uO"]), (0x2DE0, ["aCOMBINING_CYRILLIC_LETTER_BE baVE baGHE baDE baZHE bbE baKA",
    "baEL bbM bbN baO baPE baER bbS baTE baHA baTSE baCHE baSHA bcCHA baFITA baES-TE baA baIE",
    "baDJERV baMONOGRAPH_UK baYAT bbU baIOTIFIED_A baLITTLE_YUS baBIG_YUS baIOTIFIED_BIG_YUS",
    "aRIGHT_ANGLE_SUBSTITUTION_MARKER mDOTTED_SUBSTITUTION_MARKER aLEFT_SUBSTITUTION_BRACKET",
    "aRIGHT_SUBSTITUTION_BRACKET aLEFT_DOTTED_SUBSTITUTION_BRACKET",
    "aRIGHT_DOTTED_SUBSTITUTION_BRACKET bAISED_INTERPOLATION_MARKER hDOTTED_INTERPOLATION_MARKER",
    "aDOTTED_TRANSPOSITION_MARKER aLEFT_TRANSPOSITION_BRACKET aRIGHT_TRANSPOSITION_BRACKET",
    "bAISED_SQUARE aLEFT_RAISED_OMISSION_BRACKET aRIGHT_RAISED_OMISSION_BRACKET",
    "aEDITORIAL_CORONIS aPARAGRAPHOS aFORKED_PARAGRAPHOS aREVERSED_FORKED_PARAGRAPHOS",
    "aHYPODIASTOLE aDOTTED_OBELOS cWNWARDS_ANCORA aUPWARDS_ANCORA aDOTTED_RIGHT-POINTING_ANGLE",
    "cUBLE_OBLIQUE_HYPHEN aINVERTED_INTERROBANG aPALM_BRANCH aHYPHEN_WITH_DIAERESIS",
    "aTILDE_WITH_RING_ABOVE aLEFT_LOW_PARAPHRASE_BRACKET aRIGHT_LOW_PARAPHRASE_BRACKET",
    "aTILDE_WITH_DOT_ABOVE pBELOW aLEFT_VERTICAL_BAR_WITH_QUILL aRIGHT_VERTICAL_BAR_WITH_QUILL",
    "aTOP_LEFT_HALF_BRACKET eRIGHT_HALF_BRACKET aBOTTOM_LEFT_HALF_BRACKET hRIGHT_HALF_BRACKET",
    "aLEFT_SIDEWAYS_U_BRACKET aRIGHT_SIDEWAYS_U_BRACKET aLEFT_DOUBLE_PARENTHESIS",
    "aRIGHT_DOUBLE_PARENTHESIS aTWO_DOTS_OVER_ONE_DOT_PUNCTUATION",
    "aONE_DOT_OVER_TWO_DOTS_PUNCTUATION aSQUARED_FOUR_DOT_PUNCTUATION aFIVE_DOT_MARK",
    "aREVERSED_QUESTION_MARK aVERTICAL_TILDE aRING_POINT aWORD_SEPARATOR_MIDDLE_DOT",
    "aTURNED_COMMA aRAISED_DOT hCOMMA aTURNED_SEMICOLON aDAGGER_WITH_LEFT_GUARD mRIGHT_GUARD",
    "aTURNED_DAGGER bOP_HALF_SECTION_SIGN bWO-EM_DASH bHREE-EM_DASH aSTENOGRAPHIC_FULL_STOP",
    "aVERTICAL_SIX_DOTS aWIGGLY_VERTICAL_LINE aCAPITULUM aDOUBLE_HYPHEN aREVERSED_COMMA",
    "aDOUBLE_LOW-REVERSED-9_QUOTATION_MARK bASH_WITH_LEFT_UPTURN bOUBLE_SUSPENSION_MARK",
    "aINVERTED_LOW_KAVYKA t_WITH_KAVYKA_ABOVE aLOW_KAVYKA k_WITH_DOT aDOUBLE_STACKED_COMMA",
    "cTTED_SOLIDUS aTRIPLE_DAGGER aMEDIEVAL_COMMA aPARAGRAPHUS_MARK bUNCTUS_ELEVATUS_MARK",
    "aCORNISH_VERSE_DIVIDER bROSS_PATTY_WITH_RIGHT_CROSSBAR rLEFT_CROSSBAR",
    "aTIRONIAN_SIGN_CAPITAL_ET aMEDIEVAL_EXCLAMATION_MARK jQUESTION_MARK",
    "aLEFT_SQUARE_BRACKET_WITH_STROKE aRIGHT_SQUARE_BRACKET_WITH_STROKE",
    "aLEFT_SQUARE_BRACKET_WITH_DOUBLE_STROKE aRIGHT_SQUARE_BRACKET_WITH_DOUBLE_STROKE",
    "aTOP_HALF_LEFT_PARENTHESIS jRIGHT_PARENTHESIS aBOTTOM_HALF_LEFT_PARENTHESIS",
    "mRIGHT_PARENTHESIS aOBLIQUE_HYPHEN"]), (0x2E80, ["aCJK_RADICAL_REPEAT mCLIFF mSECOND_ONE",
    "tTWO uHREE mPERSON mBOX mTABLE mKNIFE_ONE sTWO mDIVINATION mSEAL nMALL_ONE sTWO mLAME_ONE",
    "rTWO sHREE rFOUR mSNAKE mTHREAD mSNOUT_ONE sTWO mHEART_ONE sTWO nAND mRAP"]),
  (0x2E9B, ["aCJK_RADICAL_CHOKE mSUN mMOON mDEATH mMOTHER mCIVILIAN mWATER_ONE sTWO mFIRE",
    "mPAW_ONE qTWO mSIMPLIFIED_HALF_TREE_TRUNK mCOW mDOG mJADE mBOLT_OF_CLOTH mEYE mSPIRIT_ONE",
    "tTWO mBAMBOO mSILK mC-SIMPLIFIED_SILK mNET_ONE qTWO rHREE qFOUR mMESH mSHEEP mRAM mEWE mOLD",
    "mBRUSH_ONE sTWO mMEAT nORTAR mGRASS_ONE sTWO tHREE mTIGER mCLOTHES mWEST_ONE rTWO",
    "mC-SIMPLIFIED_SEE mSIMPLIFIED_HORN mHORN mC-SIMPLIFIED_SPEECH baHELL mFOOT",
    "mC-SIMPLIFIED_CART mSIMPLIFIED_WALK mWALK_ONE rTWO mCITY n-SIMPLIFIED_GOLD mLONG_ONE rTWO",
    "mC-SIMPLIFIED_LONG zGATE mMOUND_ONE sTWO mRAIN mBLUE mC-SIMPLIFIED_TANNED_LEATHER zLEAF",
    "zWIND zFLY mEAT_ONE qTWO rHREE mC-SIMPLIFIED_EAT mHEAD mC-SIMPLIFIED_HORSE mBONE mGHOST",
    "mC-SIMPLIFIED_FISH zBIRD zSALT mSIMPLIFIED_WHEAT xYELLOW mC-SIMPLIFIED_FROG",
    "mJ-SIMPLIFIED_EVEN mC-SIMPLIFIED_EVEN mJ-SIMPLIFIED_TOOTH mC-SIMPLIFIED_TOOTH",
    "mJ-SIMPLIFIED_DRAGON mC-SIMPLIFIED_DRAGON mTURTLE mJ-SIMPLIFIED_TURTLE mC-SIMPLIFIED_TURTLE"]),
  (0x2F00, ["aKANGXI_RADICAL_ONE pLINE pDOT pSLASH qECOND pHOOK pTWO pLID pMAN pLEGS pENTER",
    "qIGHT pDOWN_BOX pCOVER pICE pTABLE pOPEN_BOX pKNIFE pPOWER pWRAP pSPOON pRIGHT_OPEN_BOX",
    "pHIDING_ENCLOSURE pTEN pDIVINATION pSEAL pCLIFF pPRIVATE pAGAIN pMOUTH pENCLOSURE qARTH",
    "pSCHOLAR pGO r_SLOWLY pEVENING pBIG pWOMAN pCHILD pROOF pINCH pSMALL pLAME pCORPSE pSPROUT",
    "pMOUNTAIN pRIVER pWORK pONESELF pTURBAN pDRY pSHORT_THREAD pDOTTED_CLIFF pLONG_STRIDE",
    "pTWO_HANDS pSHOOT pBOW pSNOUT pBRISTLE pSTEP pHEART qALBERD pDOOR pHAND pBRANCH pRAP",
    "pSCRIPT pDIPPER pAXE pSQUARE pNOT pSUN qAY pMOON pTREE pLACK pSTOP pDEATH pWEAPON pDO_NOT",
    "pCOMPARE pFUR pCLAN pSTEAM pWATER pFIRE pCLAW pFATHER pDOUBLE_X pHALF_TREE_TRUNK pSLICE",
    "pFANG pCOW pDOG pPROFOUND pJADE pMELON pTILE pSWEET pLIFE pUSE pFIELD pBOLT_OF_CLOTH",
    "pSICKNESS pDOTTED_TENT pWHITE pSKIN pDISH pEYE pSPEAR pARROW pSTONE qPIRIT pTRACK pGRAIN",
    "pCAVE pSTAND pBAMBOO pRICE pSILK pJAR pNET pSHEEP pFEATHER pOLD pAND pPLOW pEAR pBRUSH",
    "pMEAT qINISTER pSELF pARRIVE pMORTAR pTONGUE pOPPOSE pBOAT pSTOPPING pCOLOR pGRASS pTIGER",
    "pINSECT pBLOOD pWALK_ENCLOSURE pCLOTHES pWEST pSEE pHORN pSPEECH pVALLEY pBEAN pPIG pBADGER",
    "pSHELL pRED qUN pFOOT pBODY pCART pBITTER pMORNING pWALK pCITY pWINE pDISTINGUISH pVILLAGE",
    "pGOLD pLONG pGATE pMOUND pSLAVE qHORT_TAILED_BIRD pRAIN pBLUE pWRONG pFACE pLEATHER",
    "pTANNED_LEATHER pLEEK pSOUND pLEAF pWIND pFLY pEAT pHEAD pFRAGRANT pHORSE pBONE pTALL pHAIR",
    "pFIGHT pSACRIFICIAL_WINE pCAULDRON pGHOST pFISH pBIRD pSALT pDEER pWHEAT pHEMP pYELLOW",
    "pMILLET pBLACK pEMBROIDERY pFROG pTRIPOD pDRUM pRAT pNOSE pEVEN pTOOTH pDRAGON pTURTLE",
    "pFLUTE"]), (0x2FF0, ["aIDEOGRAPHIC_DESCRIPTION_CHARACTER_LEFT_TO_RIGHT biABOVE_TO_BELOW",
    "biLEFT_TO_MIDDLE_AND_RIGHT biABOVE_TO_MIDDLE_AND_BELOW biFULL_SURROUND",
    "biSURROUND_FROM_ABOVE bwBELOW bwLEFT bwUPPER_LEFT ccRIGHT bwLOWER_LEFT biOVERLAID"]),
  (0x3000, ["aIDEOGRAPHIC_SPACE mCOMMA mFULL_STOP aDITTO_MARK",
    "aJAPANESE_INDUSTRIAL_STANDARD_SYMBOL aIDEOGRAPHIC_ITERATION_MARK mCLOSING_MARK mNUMBER_ZERO",
    "aLEFT_ANGLE_BRACKET aRIGHT_ANGLE_BRACKET aLEFT_DOUBLE_ANGLE_BRACKET",
    "aRIGHT_DOUBLE_ANGLE_BRACKET aLEFT_CORNER_BRACKET aRIGHT_CORNER_BRACKET",
    "aLEFT_WHITE_CORNER_BRACKET aRIGHT_WHITE_CORNER_BRACKET aLEFT_BLACK_LENTICULAR_BRACKET",
    "aRIGHT_BLACK_LENTICULAR_BRACKET aPOSTAL_MARK aGETA_MARK aLEFT_TORTOISE_SHELL_BRACKET",
    "aRIGHT_TORTOISE_SHELL_BRACKET aLEFT_WHITE_LENTICULAR_BRACKET",
    "aRIGHT_WHITE_LENTICULAR_BRACKET aLEFT_WHITE_TORTOISE_SHELL_BRACKET",
    "aRIGHT_WHITE_TORTOISE_SHELL_BRACKET aLEFT_WHITE_SQUARE_BRACKET aRIGHT_WHITE_SQUARE_BRACKET",
    "aWAVE_DASH aREVERSED_DOUBLE_PRIME_QUOTATION_MARK aDOUBLE_PRIME_QUOTATION_MARK",
    "aLOW_DOUBLE_PRIME_QUOTATION_MARK aPOSTAL_MARK_FACE aHANGZHOU_NUMERAL_ONE rTWO sHREE rFOUR",
    "sIVE rSIX sEVEN rEIGHT rNINE aIDEOGRAPHIC_LEVEL_TONE_MARK mRISING_TONE_MARK",
    "mDEPARTING_TONE_MARK mENTERING_TONE_MARK aHANGUL_SINGLE_DOT_TONE_MARK hDOUBLE_DOT_TONE_MARK",
    "aWAVY_DASH aVERTICAL_KANA_REPEAT_MARK vWITH_VOICED_SOUND_MARK vMARK_UPPER_HALF",
    "vWITH_VOICED_SOUND_MARK_UPPER_HALF vMARK_LOWER_HALF aCIRCLED_POSTAL_MARK",
    "aIDEOGRAPHIC_TELEGRAPH_LINE_FEED_SEPARATOR_SYMBOL aHANGZHOU_NUMERAL_TEN sWENTY sHIRTY",
    "aVERTICAL_IDEOGRAPHIC_ITERATION_MARK aMASU_MARK aPART_ALTERNATION_MARK",
    "aIDEOGRAPHIC_VARIATION_INDICATOR mHALF_FILL_SPACE"]), (0x3041, ["aHIRAGANA_LETTER_SMALL_A",
    "qA qSMALL_I qI qSMALL_U qU qSMALL_E qE qSMALL_O qO qKA qGA qKI qGI qKU qGU qKE qGE qKO qGO",
    "qSA qZA qSI qZI qSU qZU qSE qZE qSO qZO qTA qDA qTI qDI qSMALL_TU qTU qDU qTE qDE qTO qDO",
    "qNA rI rU rE rO qHA qBA qPA qHI qBI qPI qHU qBU qPU qHE qBE qPE qHO qBO qPO qMA rI rU rE rO",
    "qSMALL_YA qYA qSMALL_YU qYU qSMALL_YO qYO qRA rI rU rE rO qSMALL_WA qWA rI rE rO qN qVU",
    "qSMALL_KA xE"]), (0x3099, ["aCOMBINING_KATAKANA-HIRAGANA_VOICED_SOUND_MARK",
    "bcSEMI-VOICED_SOUND_MARK aKATAKANA-HIRAGANA_VOICED_SOUND_MARK sSEMI-VOICED_SOUND_MARK",
    "aHIRAGANA_ITERATION_MARK jVOICED_ITERATION_MARK jDIGRAPH_YORI",
    "aKATAKANA-HIRAGANA_DOUBLE_HYPHEN i_LETTER_SMALL_A qA qSMALL_I qI qSMALL_U qU qSMALL_E qE",
    "qSMALL_O qO qKA qGA qKI qGI qKU qGU qKE qGE qKO qGO qSA qZA qSI qZI qSU qZU qSE qZE qSO qZO",
    "qTA qDA qTI qDI qSMALL_TU qTU qDU qTE qDE qTO qDO qNA rI rU rE rO qHA qBA qPA qHI qBI qPI",
    "qHU qBU qPU qHE qBE qPE qHO qBO qPO qMA rI rU rE rO qSMALL_YA qYA qSMALL_YU qYU qSMALL_YO",
    "qYO qRA rI rU rE rO qSMALL_WA qWA rI rE rO qN qVU qSMALL_KA xE qVA rI rE rO jMIDDLE_DOT",
    "i-HIRAGANA_PROLONGED_SOUND_MARK i_ITERATION_MARK jVOICED_ITERATION_MARK jDIGRAPH_KOTO"]),
  (0x3105, ["aBOPOMOFO_LETTER_B qP qM qF qD qT qN qL qG qK qH qJ qQ qX qZH qCH qSH qR qZ qC qS",
    "qA qO qE rH qAI qEI qAU qOU qAN qEN qANG qENG rR qI qU qIU qV qNG qGN qIH qO_WITH_DOT_ABOVE",
    "qNN"]), (0x3131, ["aHANGUL_LETTER_KIYEOK oSSANGKIYEOK oKIYEOK-SIOS oNIEUN t-CIEUC uHIEUH",
    "oTIKEUT oSSANGTIKEUT oRIEUL t-KIYEOK uMIEUM uPIEUP uSIOS uTHIEUTH uPHIEUPH uHIEUH oMIEUM",
    "oPIEUP oSSANGPIEUP oPIEUP-SIOS oSIOS pSANGSIOS oIEUNG oCIEUC oSSANGCIEUC oCHIEUCH oKHIEUKH",
    "oTHIEUTH oPHIEUPH oHIEUH oA pE oYA qE oEO p oYEO q oO oWA qE oOE oYO oU oWEO q pI oYU oEU",
    "oYI oI hFILLER hLETTER_SSANGNIEUN oNIEUN-TIKEUT uSIOS uPANSIOS oRIEUL-KIYEOK-SIOS uTIKEUT",
    "uPIEUP-SIOS vANSIOS uYEORINHIEUH oMIEUM-PIEUP uSIOS uPANSIOS oKAPYEOUNMIEUM oPIEUP-KIYEOK",
    "uTIKEUT uSIOS-KIYEOK zTIKEUT uCIEUC uTHIEUTH oKAPYEOUNPIEUP wSSANGPIEUP oSIOS-KIYEOK tNIEUN",
    "tTIKEUT tPIEUP tCIEUC oPANSIOS oSSANGIEUNG oYESIEUNG w-SIOS xPANSIOS oKAPYEOUNPHIEUPH",
    "oSSANGHIEUH oYEORINHIEUH pO-YA tE rI pU-YEO t rI oARAEA tE"]), (0x3190, [
    "aIDEOGRAPHIC_ANNOTATION_LINKING_MARK xREVERSE_MARK xONE_MARK xTWO_MARK yHREE_MARK",
    "xFOUR_MARK xTOP_MARK xMIDDLE_MARK xBOTTOM_MARK xFIRST_MARK xSECOND_MARK xTHIRD_MARK",
    "xFOURTH_MARK xHEAVEN_MARK xEARTH_MARK xMAN_MARK aBOPOMOFO_LETTER_BU qZI qJI qGU qEE rNN qOO",
    "rNN qIR qANN qINN qUNN qIM qNGG qAINN rUNN rM qOM rNG qINNN jFINAL_LETTER_P wT wK wH",
    "jLETTER_GH qLH qZY jFINAL_LETTER_G jLETTER_GW qKW qOE qAH aCJK_STROKE_T lWG lXG lBXG lSW",
    "lHZZ nG mP mZWG lSZWG lHZT nZP mPWG mZW nZZ lN lH lS lP lSP lD lHZ mG lSZ mWZ mT mG lPD mZ",
    "lTN lSZZ mWG lHXWG mZZZG lPG lQ"]), (0x31F0, ["aKATAKANA_LETTER_SMALL_KU wSI xU wTO wNU wHA",
    "xI xU xE xO wMU wRA xI xU xE xO aPARENTHESIZED_HANGUL_KIYEOK vNIEUN vTIKEUT vRIEUL vMIEUM",
    "vPIEUP vSIOS vIEUNG vCIEUC wHIEUCH vKHIEUKH vTHIEUTH vPHIEUPH vHIEUH vKIYEOK_A vNIEUN_A",
    "vTIKEUT_A vRIEUL_A vMIEUM_A vPIEUP_A vSIOS_A vIEUNG_A vCIEUC_A wHIEUCH_A vKHIEUKH_A",
    "vTHIEUTH_A vPHIEUPH_A vHIEUH_A vCIEUC_U oKOREAN_CHARACTER_OJEON bg_HU"]),
  (0x3220, ["aPARENTHESIZED_IDEOGRAPH_ONE yTWO zHREE yFOUR zIVE ySIX zEVEN yEIGHT yNINE yTEN",
    "yMOON yFIRE yWATER zOOD yMETAL yEARTH ySUN zTOCK yHAVE ySOCIETY yNAME ySPECIAL yFINANCIAL",
    "yCONGRATULATION yLABOR yREPRESENT yCALL ySTUDY zUPERVISE yENTERPRISE yRESOURCE yALLIANCE",
    "yFESTIVAL yREST ySELF yREACH aCIRCLED_IDEOGRAPH_QUESTION sKINDERGARTEN sSCHOOL sKOTO",
    "iNUMBER_TEN_ON_BLACK_SQUARE qWENTY_ON_BLACK_SQUARE qHIRTY_ON_BLACK_SQUARE",
    "pFORTY_ON_BLACK_SQUARE qIFTY_ON_BLACK_SQUARE pSIXTY_ON_BLACK_SQUARE qEVENTY_ON_BLACK_SQUARE",
    "pEIGHTY_ON_BLACK_SQUARE aPARTNERSHIP_SIGN aCIRCLED_NUMBER_TWENTY_ONE wTWO xHREE wFOUR xIVE",
    "wSIX xEVEN wEIGHT wNINE qHIRTY v_ONE wTWO xHREE wFOUR xIVE iHANGUL_KIYEOK pNIEUN pTIKEUT",
    "pRIEUL pMIEUM pPIEUP pSIOS pIEUNG pCIEUC qHIEUCH pKHIEUKH pTHIEUTH pPHIEUPH pHIEUH",
    "pKIYEOK_A pNIEUN_A pTIKEUT_A pRIEUL_A pMIEUM_A pPIEUP_A pSIOS_A pIEUNG_A pCIEUC_A qHIEUCH_A",
    "pKHIEUKH_A pTHIEUTH_A pPHIEUPH_A pHIEUH_A iKOREAN_CHARACTER_CHAMKO zJUEUI iHANGUL_IEUNG_U",
    "aKOREAN_STANDARD_SYMBOL aCIRCLED_IDEOGRAPH_ONE sTWO tHREE sFOUR tIVE sSIX tEVEN sEIGHT",
    "sNINE sTEN sMOON sFIRE sWATER tOOD sMETAL sEARTH sSUN tTOCK sHAVE sSOCIETY sNAME sSPECIAL",
    "sFINANCIAL sCONGRATULATION sLABOR sSECRET sMALE sFEMALE sSUITABLE sEXCELLENT sPRINT",
    "sATTENTION sITEM sREST sCOPY uRRECT sHIGH sCENTRE sLOW tEFT sRIGHT sMEDICINE sRELIGION",
    "sSTUDY tUPERVISE sENTERPRISE sRESOURCE sALLIANCE sNIGHT iNUMBER_THIRTY_SIX xEVEN wEIGHT",
    "wNINE pFORTY u_ONE vTWO wHREE vFOUR wIVE vSIX wEVEN vEIGHT vNINE qIFTY",
    "aIDEOGRAPHIC_TELEGRAPH_SYMBOL_FOR_JANUARY bhFEBRUARY bhMARCH bhAPRIL bhMAY bhJUNE bjLY",
    "bhAUGUST bhSEPTEMBER bhOCTOBER bhNOVEMBER bhDECEMBER aSQUARE_HG hERG iV",
    "aLIMITED_LIABILITY_SIGN aCIRCLED_KATAKANA_A rI rU rE rO rKA sI sU sE sO rSA sI sU sE sO rTA",
    "sI sU sE sO rNA sI sU sE sO rHA sI sU sE sO rMA sI sU sE sO rYA sU sO rRA sI sU sE sO rWA",
    "sI sE sO aSQUARE_ERA_NAME_REIWA hAPAATO iRUHUA iNPEA iARU hININGU jTI hUON hESUKUUDO iEKAA",
    "hONSU iOMU hKAIRI jRATTO kORII hGARON jNMA iIGA jNII hKYURII hGIRUDAA hKIRO lGURAMU",
    "lMEETORU lWATTO hGURAMU nTON hKURUZEIRO kOONE iEESU iORUNA jOPO hSAIKURU jNTIIMU iIRINGU",
    "iENTI lO hDAASU iESI iORU hTON hNANO iOTTO hHAITU hPAASENTO kTU hBAARERU hPIASUTORU jKURU",
    "kO hBIRU hHUARADDO jIITO hBUSSYERU hHURAN iEKUTAARU hPESO jNIHI hHERUTU hPENSU jEZI hBEETA",
    "hPOINTO hBORUTO hHON hPONDO hHOORU kN hMAIKURO kRU jHHA jRUKU jNSYON iIKURON jRI lBAARU",
    "iEGA lTON jETORU hYAADO kRU iUAN hRITTORU jRA iUPII jUBURU iEMU jNTOGEN hWATTO",
    "aIDEOGRAPHIC_TELEGRAPH_SYMBOL_FOR_HOUR_ZERO bmONE bmTWO bnHREE bmFOUR bnIVE bmSIX bnEVEN",
    "bmEIGHT bmNINE bmTEN bmELEVEN bmTWELVE bnHIRTEEN bmFOURTEEN bnIFTEEN bmSIXTEEN bnEVENTEEN",
    "bmEIGHTEEN bmNINETEEN bmTWENTY bs-ONE btTWO buHREE btFOUR aSQUARE_HPA hDA hAU hBAR hOV hPC",
    "hDM j_SQUARED kCUBED hIU hERA_NAME_HEISEI qSYOUWA qTAISYOU qMEIZI hCORPORATION hPA_AMPS hNA",
    "hMU_A iA hKA iB hMB hGB hCAL hKCAL hPF hNF hMU_F kG iG hKG hHZ hKHZ hMHZ hGHZ hTHZ hMU_L iL",
    "hDL hKL hFM hNM hMU_M iM hCM hKM hMM_SQUARED hCM_SQUARED hM_SQUARED hKM_SQUARED hMM_CUBED",
    "hCM_CUBED hM_CUBED hKM_CUBED hM_OVER_S p_SQUARED hPA hKPA hMPA hGPA hRAD k_OVER_S r_SQUARED",
    "hPS hNS hMU_S iS hPV hNV hMU_V iV hKV hMV_MEGA hPW hNW hMU_W iW hKW hMW_MEGA hK_OHM hM_OHM",
    "hAM hBQ hCC iD i_OVER_KG iO hDB hGY hHA iP hIN hKK iM_CAPITAL iT hLM iN iOG iX hMB_SMALL",
    "iIL iOL hPH iM iPM iR hSR iV hWB hV_OVER_M hA_OVER_M",
    "aIDEOGRAPHIC_TELEGRAPH_SYMBOL_FOR_DAY_ONE blTWO bmHREE blFOUR bmIVE blSIX bmEVEN blEIGHT",
    "blNINE blTEN blELEVEN blTWELVE bmHIRTEEN blFOURTEEN bmIFTEEN blSIXTEEN bmEVENTEEN",
    "blEIGHTEEN blNINETEEN blTWENTY br-ONE bsTWO btHREE bsFOUR btIVE bsSIX btEVEN bsEIGHT bsNINE",
    "bmHIRTY br-ONE aSQUARE_GAL"])]

end TraceLens.CharacterName
