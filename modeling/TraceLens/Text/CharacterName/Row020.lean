/-!
# Names of characters from row 0x20 on

The names of the characters from row 0x20 to row 0x2B, in runs without a gap: the first code
point, and the names in the form that `CharacterName` describes.
-/

namespace TraceLens.CharacterName

def row020 : List (Nat × List String) := [
  (0x2000, ["aEN_QUAD bM_QUAD bN_SPACE bM_SPACE aTHREE-PER-EM_SPACE aFOUR-PER-EM_SPACE",
    "aSIX-PER-EM_SPACE aFIGURE_SPACE aPUNCTUATION_SPACE aTHIN_SPACE aHAIR_SPACE",
    "aZERO_WIDTH_SPACE lNON-JOINER lJOINER aLEFT-TO-RIGHT_MARK aRIGHT-TO-LEFT_MARK aHYPHEN",
    "aNON-BREAKING_HYPHEN aFIGURE_DASH aEN_DASH bM_DASH aHORIZONTAL_BAR aDOUBLE_VERTICAL_LINE",
    "hLOW_LINE aLEFT_SINGLE_QUOTATION_MARK aRIGHT_SINGLE_QUOTATION_MARK",
    "aSINGLE_LOW-9_QUOTATION_MARK hHIGH-REVERSED-9_QUOTATION_MARK aLEFT_DOUBLE_QUOTATION_MARK",
    "aRIGHT_DOUBLE_QUOTATION_MARK aDOUBLE_LOW-9_QUOTATION_MARK hHIGH-REVERSED-9_QUOTATION_MARK",
    "bAGGER bOUBLE_DAGGER aBULLET aTRIANGULAR_BULLET aONE_DOT_LEADER aTWO_DOT_LEADER",
    "aHORIZONTAL_ELLIPSIS bYPHENATION_POINT aLINE_SEPARATOR aPARAGRAPH_SEPARATOR",
    "aLEFT-TO-RIGHT_EMBEDDING aRIGHT-TO-LEFT_EMBEDDING aPOP_DIRECTIONAL_FORMATTING",
    "aLEFT-TO-RIGHT_OVERRIDE aRIGHT-TO-LEFT_OVERRIDE aNARROW_NO-BREAK_SPACE aPER_MILLE_SIGN",
    "eTEN_THOUSAND_SIGN bRIME aDOUBLE_PRIME aTRIPLE_PRIME aREVERSED_PRIME jDOUBLE_PRIME",
    "jTRIPLE_PRIME aCARET aSINGLE_LEFT-POINTING_ANGLE_QUOTATION_MARK",
    "hRIGHT-POINTING_ANGLE_QUOTATION_MARK aREFERENCE_MARK aDOUBLE_EXCLAMATION_MARK aINTERROBANG",
    "aOVERLINE aUNDERTIE aCHARACTER_TIE bARET_INSERTION_POINT aASTERISM aHYPHEN_BULLET",
    "aFRACTION_SLASH aLEFT_SQUARE_BRACKET_WITH_QUILL aRIGHT_SQUARE_BRACKET_WITH_QUILL",
    "aDOUBLE_QUESTION_MARK aQUESTION_EXCLAMATION_MARK aEXCLAMATION_QUESTION_MARK",
    "aTIRONIAN_SIGN_ET aREVERSED_PILCROW_SIGN aBLACK_LEFTWARDS_BULLET gRIGHTWARDS_BULLET",
    "aLOW_ASTERISK aREVERSED_SEMICOLON aCLOSE_UP aTWO_ASTERISKS_ALIGNED_VERTICALLY",
    "aCOMMERCIAL_MINUS_SIGN aSWUNG_DASH aINVERTED_UNDERTIE aFLOWER_PUNCTUATION_MARK",
    "aTHREE_DOT_PUNCTUATION aQUADRUPLE_PRIME aFOUR_DOT_PUNCTUATION bIVE_DOT_PUNCTUATION",
    "aTWO_DOT_PUNCTUATION aFOUR_DOT_MARK aDOTTED_CROSS aTRICOLON aVERTICAL_FOUR_DOTS",
    "aMEDIUM_MATHEMATICAL_SPACE aWORD_JOINER aFUNCTION_APPLICATION aINVISIBLE_TIMES kSEPARATOR",
    "kPLUS"]), (0x2066, ["aLEFT-TO-RIGHT_ISOLATE aRIGHT-TO-LEFT_ISOLATE aFIRST_STRONG_ISOLATE",
    "aPOP_DIRECTIONAL_ISOLATE aINHIBIT_SYMMETRIC_SWAPPING aACTIVATE_SYMMETRIC_SWAPPING",
    "aINHIBIT_ARABIC_FORM_SHAPING aACTIVATE_ARABIC_FORM_SHAPING aNATIONAL_DIGIT_SHAPES",
    "bOMINAL_DIGIT_SHAPES aSUPERSCRIPT_ZERO mLATIN_SMALL_LETTER_I"]), (0x2074, [
    "aSUPERSCRIPT_FOUR nIVE mSIX nEVEN mEIGHT mNINE mPLUS_SIGN mMINUS mEQUALS_SIGN",
    "mLEFT_PARENTHESIS mRIGHT_PARENTHESIS mLATIN_SMALL_LETTER_N cBSCRIPT_ZERO kONE kTWO lHREE",
    "kFOUR lIVE kSIX lEVEN kEIGHT kNINE kPLUS_SIGN kMINUS kEQUALS_SIGN kLEFT_PARENTHESIS",
    "kRIGHT_PARENTHESIS"]), (0x2090, ["aLATIN_SUBSCRIPT_SMALL_LETTER_A bdE bdO bdX bdSCHWA bdH",
    "bdK bdL bdM bdN bdP bdS bdT"]), (0x20A0, ["aEURO-CURRENCY_SIGN aCOLON_SIGN bRUZEIRO_SIGN",
    "aFRENCH_FRANC_SIGN aLIRA_SIGN aMILL_SIGN aNAIRA_SIGN aPESETA_SIGN aRUPEE_SIGN aWON_SIGN",
    "aNEW_SHEQEL_SIGN aDONG_SIGN aEURO_SIGN aKIP_SIGN aTUGRIK_SIGN aDRACHMA_SIGN",
    "aGERMAN_PENNY_SIGN aPESO_SIGN aGUARANI_SIGN aAUSTRAL_SIGN aHRYVNIA_SIGN aCEDI_SIGN",
    "aLIVRE_TOURNOIS_SIGN aSPESMILO_SIGN aTENGE_SIGN aINDIAN_RUPEE_SIGN aTURKISH_LIRA_SIGN",
    "aNORDIC_MARK_SIGN aMANAT_SIGN aRUBLE_SIGN aLARI_SIGN aBITCOIN_SIGN aSOM_SIGN"]),
  (0x20D0, ["aCOMBINING_LEFT_HARPOON_ABOVE kRIGHT_HARPOON_ABOVE kLONG_VERTICAL_LINE_OVERLAY",
    "kSHORT_VERTICAL_LINE_OVERLAY kANTICLOCKWISE_ARROW_ABOVE kCLOCKWISE_ARROW_ABOVE",
    "kLEFT_ARROW_ABOVE kRIGHT_ARROW_ABOVE mNG_OVERLAY kCLOCKWISE_RING_OVERLAY",
    "kANTICLOCKWISE_RING_OVERLAY kTHREE_DOTS_ABOVE kFOUR_DOTS_ABOVE kENCLOSING_CIRCLE uSQUARE",
    "uDIAMOND uCIRCLE_BACKSLASH kLEFT_RIGHT_ARROW_ABOVE kENCLOSING_SCREEN uKEYCAP",
    "uUPWARD_POINTING_TRIANGLE kREVERSE_SOLIDUS_OVERLAY kDOUBLE_VERTICAL_STROKE_OVERLAY",
    "kANNUITY_SYMBOL kTRIPLE_UNDERDOT kWIDE_BRIDGE_ABOVE kLEFTWARDS_ARROW_OVERLAY",
    "lONG_DOUBLE_SOLIDUS_OVERLAY kRIGHTWARDS_HARPOON_WITH_BARB_DOWNWARDS",
    "kLEFTWARDS_HARPOON_WITH_BARB_DOWNWARDS o_ARROW_BELOW kRIGHT_ARROW_BELOW kASTERISK_ABOVE"]),
  (0x2100, ["aACCOUNT_OF bDDRESSED_TO_THE_SUBJECT aDOUBLE-STRUCK_CAPITAL_C bEGREE_CELSIUS",
    "aCENTRE_LINE_SYMBOL bARE_OF cDA_UNA aEULER_CONSTANT aSCRUPLE aDEGREE_FAHRENHEIT",
    "aSCRIPT_SMALL_G hCAPITAL_H aBLACK-LETTER_CAPITAL_H aDOUBLE-STRUCK_CAPITAL_H",
    "aPLANCK_CONSTANT p_OVER_TWO_PI aSCRIPT_CAPITAL_I aBLACK-LETTER_CAPITAL_I aSCRIPT_CAPITAL_L",
    "hSMALL_L aL_B_BAR_SYMBOL aDOUBLE-STRUCK_CAPITAL_N aNUMERO_SIGN aSOUND_RECORDING_COPYRIGHT",
    "bCRIPT_CAPITAL_P aDOUBLE-STRUCK_CAPITAL_P wQ aSCRIPT_CAPITAL_R aBLACK-LETTER_CAPITAL_R",
    "aDOUBLE-STRUCK_CAPITAL_R aPRESCRIPTION_TAKE aRESPONSE aSERVICE_MARK aTELEPHONE_SIGN",
    "bRADE_MARK_SIGN aVERSICLE aDOUBLE-STRUCK_CAPITAL_Z aOUNCE_SIGN bHM_SIGN aINVERTED_OHM_SIGN",
    "aBLACK-LETTER_CAPITAL_Z aTURNED_GREEK_SMALL_LETTER_IOTA aKELVIN_SIGN aANGSTROM_SIGN",
    "aSCRIPT_CAPITAL_B aBLACK-LETTER_CAPITAL_C aESTIMATED_SYMBOL aSCRIPT_SMALL_E hCAPITAL_E pF",
    "aTURNED_CAPITAL_F aSCRIPT_CAPITAL_M hSMALL_O aALEF_SYMBOL aBET_SYMBOL aGIMEL_SYMBOL",
    "aDALET_SYMBOL aINFORMATION_SOURCE aROTATED_CAPITAL_Q aFACSIMILE_SIGN",
    "aDOUBLE-STRUCK_SMALL_PI uGAMMA oCAPITAL_GAMMA wPI oN-ARY_SUMMATION",
    "aTURNED_SANS-SERIF_CAPITAL_G baL aREVERSED_SANS-SERIF_CAPITAL_L",
    "aTURNED_SANS-SERIF_CAPITAL_Y aDOUBLE-STRUCK_ITALIC_CAPITAL_D vSMALL_D bbE bbI bbJ",
    "aPROPERTY_LINE aTURNED_AMPERSAND aPER_SIGN aAKTIESELSKAB aTURNED_SMALL_F",
    "aSYMBOL_FOR_SAMARITAN_SOURCE aVULGAR_FRACTION_ONE_SEVENTH uNINTH uTENTH vHIRD qTWO_THIRDS",
    "qONE_FIFTH qTWO_FIFTHS rHREE_FIFTHS qFOUR_FIFTHS qONE_SIXTH qFIVE_SIXTHS qONE_EIGHTH",
    "qTHREE_EIGHTHS qFIVE_EIGHTHS qSEVEN_EIGHTHS aFRACTION_NUMERATOR_ONE aROMAN_NUMERAL_ONE oTWO",
    "pHREE oFOUR pIVE oSIX pEVEN oEIGHT oNINE oTEN oELEVEN oTWELVE oFIFTY oONE_HUNDRED",
    "oFIVE_HUNDRED oONE_THOUSAND aSMALL_ROMAN_NUMERAL_ONE uTWO vHREE uFOUR vIVE uSIX vEVEN",
    "uEIGHT uNINE uTEN uELEVEN uTWELVE uFIFTY uONE_HUNDRED uFIVE_HUNDRED uONE_THOUSAND",
    "aROMAN_NUMERAL_ONE_THOUSAND_C_D oFIVE_THOUSAND oTEN_THOUSAND oREVERSED_ONE_HUNDRED",
    "aLATIN_SMALL_LETTER_REVERSED_C aROMAN_NUMERAL_SIX_LATE_FORM oFIFTY_EARLY_FORM uTHOUSAND",
    "oONE_HUNDRED_THOUSAND aVULGAR_FRACTION_ZERO_THIRDS aTURNED_DIGIT_TWO oHREE"]),
  (0x2190, ["aLEFTWARDS_ARROW aUPWARDS_ARROW aRIGHTWARDS_ARROW aDOWNWARDS_ARROW",
    "aLEFT_RIGHT_ARROW aUP_DOWN_ARROW aNORTH_WEST_ARROW gEAST_ARROW aSOUTH_EAST_ARROW",
    "gWEST_ARROW aLEFTWARDS_ARROW_WITH_STROKE aRIGHTWARDS_ARROW_WITH_STROKE",
    "aLEFTWARDS_WAVE_ARROW aRIGHTWARDS_WAVE_ARROW aLEFTWARDS_TWO_HEADED_ARROW",
    "aUPWARDS_TWO_HEADED_ARROW aRIGHTWARDS_TWO_HEADED_ARROW aDOWNWARDS_TWO_HEADED_ARROW",
    "aLEFTWARDS_ARROW_WITH_TAIL aRIGHTWARDS_ARROW_WITH_TAIL aLEFTWARDS_ARROW_FROM_BAR",
    "aUPWARDS_ARROW_FROM_BAR aRIGHTWARDS_ARROW_FROM_BAR aDOWNWARDS_ARROW_FROM_BAR",
    "aUP_DOWN_ARROW_WITH_BASE aLEFTWARDS_ARROW_WITH_HOOK aRIGHTWARDS_ARROW_WITH_HOOK",
    "aLEFTWARDS_ARROW_WITH_LOOP aRIGHTWARDS_ARROW_WITH_LOOP aLEFT_RIGHT_WAVE_ARROW",
    "lARROW_WITH_STROKE aDOWNWARDS_ZIGZAG_ARROW aUPWARDS_ARROW_WITH_TIP_LEFTWARDS xRIGHTWARDS",
    "aDOWNWARDS_ARROW_WITH_TIP_LEFTWARDS zRIGHTWARDS aRIGHTWARDS_ARROW_WITH_CORNER_DOWNWARDS",
    "aDOWNWARDS_ARROW_WITH_CORNER_LEFTWARDS aANTICLOCKWISE_TOP_SEMICIRCLE_ARROW",
    "aCLOCKWISE_TOP_SEMICIRCLE_ARROW aNORTH_WEST_ARROW_TO_LONG_BAR",
    "aLEFTWARDS_ARROW_TO_BAR_OVER_RIGHTWARDS_ARROW_TO_BAR aANTICLOCKWISE_OPEN_CIRCLE_ARROW",
    "aCLOCKWISE_OPEN_CIRCLE_ARROW aLEFTWARDS_HARPOON_WITH_BARB_UPWARDS bcDOWNWARDS",
    "aUPWARDS_HARPOON_WITH_BARB_RIGHTWARDS baLEFTWARDS aRIGHTWARDS_HARPOON_WITH_BARB_UPWARDS",
    "bdDOWNWARDS aDOWNWARDS_HARPOON_WITH_BARB_RIGHTWARDS bcLEFTWARDS",
    "aRIGHTWARDS_ARROW_OVER_LEFTWARDS_ARROW aUPWARDS_ARROW_LEFTWARDS_OF_DOWNWARDS_ARROW",
    "aLEFTWARDS_ARROW_OVER_RIGHTWARDS_ARROW kPAIRED_ARROWS aUPWARDS_PAIRED_ARROWS",
    "aRIGHTWARDS_PAIRED_ARROWS aDOWNWARDS_PAIRED_ARROWS",
    "aLEFTWARDS_HARPOON_OVER_RIGHTWARDS_HARPOON aRIGHTWARDS_HARPOON_OVER_LEFTWARDS_HARPOON",
    "aLEFTWARDS_DOUBLE_ARROW_WITH_STROKE e_RIGHT_DOUBLE_ARROW_WITH_STROKE",
    "aRIGHTWARDS_DOUBLE_ARROW_WITH_STROKE aLEFTWARDS_DOUBLE_ARROW aUPWARDS_DOUBLE_ARROW",
    "aRIGHTWARDS_DOUBLE_ARROW aDOWNWARDS_DOUBLE_ARROW aLEFT_RIGHT_DOUBLE_ARROW",
    "aUP_DOWN_DOUBLE_ARROW aNORTH_WEST_DOUBLE_ARROW gEAST_DOUBLE_ARROW aSOUTH_EAST_DOUBLE_ARROW",
    "gWEST_DOUBLE_ARROW aLEFTWARDS_TRIPLE_ARROW aRIGHTWARDS_TRIPLE_ARROW",
    "aLEFTWARDS_SQUIGGLE_ARROW aRIGHTWARDS_SQUIGGLE_ARROW aUPWARDS_ARROW_WITH_DOUBLE_STROKE",
    "aDOWNWARDS_ARROW_WITH_DOUBLE_STROKE aLEFTWARDS_DASHED_ARROW aUPWARDS_DASHED_ARROW",
    "aRIGHTWARDS_DASHED_ARROW aDOWNWARDS_DASHED_ARROW aLEFTWARDS_ARROW_TO_BAR",
    "aRIGHTWARDS_ARROW_TO_BAR aLEFTWARDS_WHITE_ARROW aUPWARDS_WHITE_ARROW",
    "aRIGHTWARDS_WHITE_ARROW aDOWNWARDS_WHITE_ARROW aUPWARDS_WHITE_ARROW_FROM_BAR uON_PEDESTAL",
    "bf_WITH_HORIZONTAL_BAR blVERTICAL_BAR oDOUBLE_ARROW ba_ON_PEDESTAL",
    "aRIGHTWARDS_WHITE_ARROW_FROM_WALL aNORTH_WEST_ARROW_TO_CORNER aSOUTH_EAST_ARROW_TO_CORNER",
    "aUP_DOWN_WHITE_ARROW aRIGHT_ARROW_WITH_SMALL_CIRCLE",
    "aDOWNWARDS_ARROW_LEFTWARDS_OF_UPWARDS_ARROW aTHREE_RIGHTWARDS_ARROWS",
    "aLEFTWARDS_ARROW_WITH_VERTICAL_STROKE aRIGHTWARDS_ARROW_WITH_VERTICAL_STROKE",
    "aLEFT_RIGHT_ARROW_WITH_VERTICAL_STROKE eWARDS_ARROW_WITH_DOUBLE_VERTICAL_STROKE",
    "aRIGHTWARDS_ARROW_WITH_DOUBLE_VERTICAL_STROKE aLEFT_RIGHT_ARROW_WITH_DOUBLE_VERTICAL_STROKE",
    "eWARDS_OPEN-HEADED_ARROW aRIGHTWARDS_OPEN-HEADED_ARROW aLEFT_RIGHT_OPEN-HEADED_ARROW",
    "aFOR_ALL aCOMPLEMENT aPARTIAL_DIFFERENTIAL aTHERE_EXISTS gDOES_NOT_EXIST aEMPTY_SET",
    "aINCREMENT aNABLA aELEMENT_OF aNOT_AN_ELEMENT_OF aSMALL_ELEMENT_OF aCONTAINS_AS_MEMBER",
    "aDOES_NOT_CONTAIN_AS_MEMBER aSMALL_CONTAINS_AS_MEMBER aEND_OF_PROOF aN-ARY_PRODUCT",
    "gCOPRODUCT gSUMMATION aMINUS_SIGN f-OR-PLUS_SIGN aDOT_PLUS bIVISION_SLASH aSET_MINUS",
    "aASTERISK_OPERATOR aRING_OPERATOR aBULLET_OPERATOR aSQUARE_ROOT aCUBE_ROOT aFOURTH_ROOT",
    "aPROPORTIONAL_TO aINFINITY aRIGHT_ANGLE aANGLE aMEASURED_ANGLE aSPHERICAL_ANGLE aDIVIDES",
    "bOES_NOT_DIVIDE aPARALLEL_TO aNOT_PARALLEL_TO aLOGICAL_AND iOR aINTERSECTION aUNION",
    "aINTEGRAL aDOUBLE_INTEGRAL aTRIPLE_INTEGRAL aCONTOUR_INTEGRAL aSURFACE_INTEGRAL",
    "aVOLUME_INTEGRAL aCLOCKWISE_INTEGRAL kCONTOUR_INTEGRAL aANTICLOCKWISE_CONTOUR_INTEGRAL",
    "aTHEREFORE aBECAUSE aRATIO aPROPORTION aDOT_MINUS aEXCESS aGEOMETRIC_PROPORTION aHOMOTHETIC",
    "aTILDE_OPERATOR aREVERSED_TILDE aINVERTED_LAZY_S aSINE_WAVE aWREATH_PRODUCT aNOT_TILDE",
    "aMINUS_TILDE aASYMPTOTICALLY_EQUAL_TO aNOT_ASYMPTOTICALLY_EQUAL_TO aAPPROXIMATELY_EQUAL_TO",
    "oBUT_NOT_ACTUALLY_EQUAL_TO aNEITHER_APPROXIMATELY_NOR_ACTUALLY_EQUAL_TO aALMOST_EQUAL_TO",
    "aNOT_ALMOST_EQUAL_TO aALMOST_EQUAL_OR_EQUAL_TO aTRIPLE_TILDE aALL_EQUAL_TO aEQUIVALENT_TO",
    "aGEOMETRICALLY_EQUIVALENT_TO aDIFFERENCE_BETWEEN aAPPROACHES_THE_LIMIT",
    "aGEOMETRICALLY_EQUAL_TO aAPPROXIMATELY_EQUAL_TO_OR_THE_IMAGE_OF",
    "aIMAGE_OF_OR_APPROXIMATELY_EQUAL_TO aCOLON_EQUALS aEQUALS_COLON aRING_IN_EQUAL_TO fEQUAL_TO",
    "aCORRESPONDS_TO aESTIMATES bQUIANGULAR_TO aSTAR_EQUALS aDELTA_EQUAL_TO",
    "aEQUAL_TO_BY_DEFINITION aMEASURED_BY aQUESTIONED_EQUAL_TO aNOT_EQUAL_TO aIDENTICAL_TO",
    "aNOT_IDENTICAL_TO aSTRICTLY_EQUIVALENT_TO aLESS-THAN_OR_EQUAL_TO aGREATER-THAN_OR_EQUAL_TO",
    "aLESS-THAN_OVER_EQUAL_TO aGREATER-THAN_OVER_EQUAL_TO aLESS-THAN_BUT_NOT_EQUAL_TO",
    "aGREATER-THAN_BUT_NOT_EQUAL_TO aMUCH_LESS-THAN fGREATER-THAN aBETWEEN aNOT_EQUIVALENT_TO",
    "eLESS-THAN eGREATER-THAN bEITHER_LESS-THAN_NOR_EQUAL_TO iGREATER-THAN_NOR_EQUAL_TO",
    "aLESS-THAN_OR_EQUIVALENT_TO aGREATER-THAN_OR_EQUIVALENT_TO",
    "aNEITHER_LESS-THAN_NOR_EQUIVALENT_TO iGREATER-THAN_NOR_EQUIVALENT_TO",
    "aLESS-THAN_OR_GREATER-THAN aGREATER-THAN_OR_LESS-THAN aNEITHER_LESS-THAN_NOR_GREATER-THAN",
    "iGREATER-THAN_NOR_LESS-THAN aPRECEDES aSUCCEEDS aPRECEDES_OR_EQUAL_TO aSUCCEEDS_OR_EQUAL_TO",
    "aPRECEDES_OR_EQUIVALENT_TO aSUCCEEDS_OR_EQUIVALENT_TO aDOES_NOT_PRECEDE jSUCCEED aSUBSET_OF",
    "cPERSET_OF aNOT_A_SUBSET_OF iPERSET_OF aSUBSET_OF_OR_EQUAL_TO cPERSET_OF_OR_EQUAL_TO",
    "aNEITHER_A_SUBSET_OF_NOR_EQUAL_TO mPERSET_OF_NOR_EQUAL_TO aSUBSET_OF_WITH_NOT_EQUAL_TO",
    "cPERSET_OF_WITH_NOT_EQUAL_TO aMULTISET i_MULTIPLICATION jUNION aSQUARE_IMAGE_OF",
    "hORIGINAL_OF hIMAGE_OF_OR_EQUAL_TO hORIGINAL_OF_OR_EQUAL_TO hCAP iUP aCIRCLED_PLUS iMINUS",
    "iTIMES iDIVISION_SLASH jOT_OPERATOR iRING_OPERATOR iASTERISK_OPERATOR iEQUALS iDASH",
    "aSQUARED_PLUS iMINUS iTIMES iDOT_OPERATOR aRIGHT_TACK aLEFT_TACK aDOWN_TACK aUP_TACK",
    "aASSERTION aMODELS aTRUE aFORCES aTRIPLE_VERTICAL_BAR_RIGHT_TURNSTILE",
    "aDOUBLE_VERTICAL_BAR_DOUBLE_RIGHT_TURNSTILE cES_NOT_PROVE aNOT_TRUE aDOES_NOT_FORCE",
    "aNEGATED_DOUBLE_VERTICAL_BAR_DOUBLE_RIGHT_TURNSTILE aPRECEDES_UNDER_RELATION",
    "aSUCCEEDS_UNDER_RELATION aNORMAL_SUBGROUP_OF aCONTAINS_AS_NORMAL_SUBGROUP",
    "aNORMAL_SUBGROUP_OF_OR_EQUAL_TO aCONTAINS_AS_NORMAL_SUBGROUP_OR_EQUAL_TO aORIGINAL_OF",
    "aIMAGE_OF aMULTIMAP aHERMITIAN_CONJUGATE_MATRIX aINTERCALATE aXOR aNAND bOR",
    "aRIGHT_ANGLE_WITH_ARC gTRIANGLE aN-ARY_LOGICAL_AND oOR gINTERSECTION gUNION",
    "aDIAMOND_OPERATOR bOT_OPERATOR aSTAR_OPERATOR aDIVISION_TIMES aBOWTIE",
    "aLEFT_NORMAL_FACTOR_SEMIDIRECT_PRODUCT aRIGHT_NORMAL_FACTOR_SEMIDIRECT_PRODUCT",
    "aLEFT_SEMIDIRECT_PRODUCT aRIGHT_SEMIDIRECT_PRODUCT bEVERSED_TILDE_EQUALS aCURLY_LOGICAL_OR",
    "oAND aDOUBLE_SUBSET jPERSET hINTERSECTION hUNION aPITCHFORK aEQUAL_AND_PARALLEL_TO",
    "aLESS-THAN_WITH_DOT aGREATER-THAN_WITH_DOT aVERY_MUCH_LESS-THAN kGREATER-THAN",
    "aLESS-THAN_EQUAL_TO_OR_GREATER-THAN aGREATER-THAN_EQUAL_TO_OR_LESS-THAN",
    "aEQUAL_TO_OR_LESS-THAN mGREATER-THAN mPRECEDES mSUCCEEDS aDOES_NOT_PRECEDE_OR_EQUAL",
    "jSUCCEED_OR_EQUAL aNOT_SQUARE_IMAGE_OF_OR_EQUAL_TO lORIGINAL_OF_OR_EQUAL_TO",
    "aSQUARE_IMAGE_OF_OR_NOT_EQUAL_TO hORIGINAL_OF_OR_NOT_EQUAL_TO",
    "aLESS-THAN_BUT_NOT_EQUIVALENT_TO aGREATER-THAN_BUT_NOT_EQUIVALENT_TO",
    "aPRECEDES_BUT_NOT_EQUIVALENT_TO aSUCCEEDS_BUT_NOT_EQUIVALENT_TO aNOT_NORMAL_SUBGROUP_OF",
    "aDOES_NOT_CONTAIN_AS_NORMAL_SUBGROUP aNOT_NORMAL_SUBGROUP_OF_OR_EQUAL_TO",
    "aDOES_NOT_CONTAIN_AS_NORMAL_SUBGROUP_OR_EQUAL aVERTICAL_ELLIPSIS",
    "aMIDLINE_HORIZONTAL_ELLIPSIS aUP_RIGHT_DIAGONAL_ELLIPSIS aDOWN_RIGHT_DIAGONAL_ELLIPSIS",
    "aELEMENT_OF_WITH_LONG_HORIZONTAL_STROKE qVERTICAL_BAR_AT_END_OF_HORIZONTAL_STROKE",
    "aSMALL_ELEMENT_OF_WITH_VERTICAL_BAR_AT_END_OF_HORIZONTAL_STROKE aELEMENT_OF_WITH_DOT_ABOVE",
    "qOVERBAR aSMALL_ELEMENT_OF_WITH_OVERBAR aELEMENT_OF_WITH_UNDERBAR qTWO_HORIZONTAL_STROKES",
    "aCONTAINS_WITH_LONG_HORIZONTAL_STROKE oVERTICAL_BAR_AT_END_OF_HORIZONTAL_STROKE",
    "aSMALL_CONTAINS_WITH_VERTICAL_BAR_AT_END_OF_HORIZONTAL_STROKE aCONTAINS_WITH_OVERBAR",
    "aSMALL_CONTAINS_WITH_OVERBAR aZ_NOTATION_BAG_MEMBERSHIP aDIAMETER_SIGN aELECTRIC_ARROW",
    "aHOUSE aUP_ARROWHEAD aDOWN_ARROWHEAD aPROJECTIVE bERSPECTIVE aWAVY_LINE aLEFT_CEILING",
    "aRIGHT_CEILING aLEFT_FLOOR aRIGHT_FLOOR aBOTTOM_RIGHT_CROP hLEFT_CROP aTOP_RIGHT_CROP",
    "eLEFT_CROP aREVERSED_NOT_SIGN aSQUARE_LOZENGE aARC aSEGMENT cCTOR aTELEPHONE_RECORDER",
    "aPOSITION_INDICATOR aVIEWDATA_SQUARE aPLACE_OF_INTEREST_SIGN aTURNED_NOT_SIGN aWATCH",
    "aHOURGLASS aTOP_LEFT_CORNER eRIGHT_CORNER aBOTTOM_LEFT_CORNER hRIGHT_CORNER",
    "aTOP_HALF_INTEGRAL aBOTTOM_HALF_INTEGRAL aFROWN aSMILE",
    "aUP_ARROWHEAD_BETWEEN_TWO_HORIZONTAL_BARS aOPTION_KEY aERASE_TO_THE_RIGHT",
    "aX_IN_A_RECTANGLE_BOX aKEYBOARD aLEFT-POINTING_ANGLE_BRACKET aRIGHT-POINTING_ANGLE_BRACKET",
    "aERASE_TO_THE_LEFT aBENZENE_RING aCYLINDRICITY aALL_AROUND-PROFILE aSYMMETRY aTOTAL_RUNOUT",
    "aDIMENSION_ORIGIN aCONICAL_TAPER aSLOPE aCOUNTERBORE hSINK aAPL_FUNCTIONAL_SYMBOL_I-BEAM",
    "wSQUISH_QUAD wQUAD_EQUAL bbDIVIDE bdAMOND bbJOT bbCIRCLE wCIRCLE_STILE bdJOT wSLASH_BAR",
    "wBACKSLASH_BAR wQUAD_SLASH bbBACKSLASH bbLESS-THAN bbGREATER-THAN wLEFTWARDS_VANE",
    "wRIGHTWARDS_VANE wQUAD_LEFTWARDS_ARROW bbRIGHTWARDS_ARROW wCIRCLE_BACKSLASH",
    "wDOWN_TACK_UNDERBAR xELTA_STILE wQUAD_DOWN_CARET bcELTA wDOWN_TACK_JOT wUPWARDS_VANE",
    "wQUAD_UPWARDS_ARROW wUP_TACK_OVERBAR wDEL_STILE wQUAD_UP_CARET bbDEL wUP_TACK_JOT",
    "wDOWNWARDS_VANE wQUAD_DOWNWARDS_ARROW yOTE_UNDERBAR wDELTA_UNDERBAR xIAMOND_UNDERBAR",
    "wJOT_UNDERBAR wCIRCLE_UNDERBAR wUP_SHOE_JOT wQUOTE_QUAD wCIRCLE_STAR wQUAD_COLON",
    "wUP_TACK_DIAERESIS wDEL_DIAERESIS wSTAR_DIAERESIS wJOT_DIAERESIS wCIRCLE_DIAERESIS",
    "wDOWN_SHOE_STILE wLEFT_SHOE_STILE wTILDE_DIAERESIS wGREATER-THAN_DIAERESIS wCOMMA_BAR",
    "wDEL_TILDE wZILDE wSTILE_TILDE xEMICOLON_UNDERBAR wQUAD_NOT_EQUAL bbQUESTION",
    "wDOWN_CARET_TILDE wUP_CARET_TILDE wIOTA wRHO wOMEGA wALPHA_UNDERBAR wEPSILON_UNDERBAR",
    "wIOTA_UNDERBAR wOMEGA_UNDERBAR wALPHA aNOT_CHECK_MARK",
    "aRIGHT_ANGLE_WITH_DOWNWARDS_ZIGZAG_ARROW aSHOULDERED_OPEN_BOX aBELL_SYMBOL",
    "aVERTICAL_LINE_WITH_MIDDLE_DOT aINSERTION_SYMBOL aCONTINUOUS_UNDERLINE_SYMBOL",
    "aDISCONTINUOUS_UNDERLINE_SYMBOL aEMPHASIS_SYMBOL aCOMPOSITION_SYMBOL",
    "aWHITE_SQUARE_WITH_CENTRE_VERTICAL_LINE aENTER_SYMBOL aALTERNATIVE_KEY_SYMBOL aHELM_SYMBOL",
    "aCIRCLED_HORIZONTAL_BAR_WITH_NOTCH iTRIANGLE_DOWN aBROKEN_CIRCLE_WITH_NORTHWEST_ARROW",
    "aUNDO_SYMBOL aMONOSTABLE_SYMBOL aHYSTERESIS_SYMBOL aOPEN-CIRCUIT-OUTPUT_H-TYPE_SYMBOL",
    "uL-TYPE_SYMBOL aPASSIVE-PULL-DOWN-OUTPUT_SYMBOL nUP-OUTPUT_SYMBOL",
    "aDIRECT_CURRENT_SYMBOL_FORM_TWO aSOFTWARE-FUNCTION_SYMBOL aAPL_FUNCTIONAL_SYMBOL_QUAD",
    "aDECIMAL_SEPARATOR_KEY_SYMBOL aPREVIOUS_PAGE aNEXT_PAGE aPRINT_SCREEN_SYMBOL",
    "aCLEAR_SCREEN_SYMBOL aLEFT_PARENTHESIS_UPPER_HOOK rEXTENSION rLOWER_HOOK",
    "aRIGHT_PARENTHESIS_UPPER_HOOK sEXTENSION sLOWER_HOOK aLEFT_SQUARE_BRACKET_UPPER_CORNER",
    "uEXTENSION uLOWER_CORNER aRIGHT_SQUARE_BRACKET_UPPER_CORNER vEXTENSION vLOWER_CORNER",
    "aLEFT_CURLY_BRACKET_UPPER_HOOK tMIDDLE_PIECE tLOWER_HOOK aCURLY_BRACKET_EXTENSION",
    "aRIGHT_CURLY_BRACKET_UPPER_HOOK uMIDDLE_PIECE uLOWER_HOOK aINTEGRAL_EXTENSION",
    "aHORIZONTAL_LINE_EXTENSION aUPPER_LEFT_OR_LOWER_RIGHT_CURLY_BRACKET_SECTION",
    "gRIGHT_OR_LOWER_LEFT_CURLY_BRACKET_SECTION aSUMMATION_TOP kBOTTOM aTOP_SQUARE_BRACKET",
    "aBOTTOM_SQUARE_BRACKET v_OVER_TOP_SQUARE_BRACKET aRADICAL_SYMBOL_BOTTOM",
    "aLEFT_VERTICAL_BOX_LINE aRIGHT_VERTICAL_BOX_LINE aHORIZONTAL_SCAN_LINE-1 v3 v7 v9",
    "aDENTISTRY_SYMBOL_LIGHT_VERTICAL_AND_TOP_RIGHT bkBOTTOM_RIGHT bgWITH_CIRCLE",
    "xDOWN_AND_HORIZONTAL_WITH_CIRCLE xUP_AND_HORIZONTAL_WITH_CIRCLE xVERTICAL_WITH_TRIANGLE",
    "xDOWN_AND_HORIZONTAL_WITH_TRIANGLE xUP_AND_HORIZONTAL_WITH_TRIANGLE xVERTICAL_AND_WAVE",
    "xDOWN_AND_HORIZONTAL_WITH_WAVE xUP_AND_HORIZONTAL_WITH_WAVE xDOWN_AND_HORIZONTAL",
    "xUP_AND_HORIZONTAL xVERTICAL_AND_TOP_LEFT bkBOTTOM_LEFT aSQUARE_FOOT aRETURN_SYMBOL",
    "aEJECT_SYMBOL aVERTICAL_LINE_EXTENSION aMETRICAL_BREVE jLONG_OVER_SHORT jSHORT_OVER_LONG",
    "jLONG_OVER_TWO_SHORTS jTWO_SHORTS_OVER_LONG uJOINED kRISEME kETRASEME jPENTASEME",
    "aEARTH_GROUND aFUSE aTOP_PARENTHESIS aBOTTOM_PARENTHESIS aTOP_CURLY_BRACKET",
    "aBOTTOM_CURLY_BRACKET aTOP_TORTOISE_SHELL_BRACKET aBOTTOM_TORTOISE_SHELL_BRACKET",
    "aWHITE_TRAPEZIUM aBENZENE_RING_WITH_CIRCLE aSTRAIGHTNESS aFLATNESS aAC_CURRENT",
    "aELECTRICAL_INTERSECTION aDECIMAL_EXPONENT_SYMBOL aBLACK_RIGHT-POINTING_DOUBLE_TRIANGLE",
    "gLEFT-POINTING_DOUBLE_TRIANGLE gUP-POINTING_DOUBLE_TRIANGLE gDOWN-POINTING_DOUBLE_TRIANGLE",
    "gRIGHT-POINTING_DOUBLE_TRIANGLE_WITH_VERTICAL_BAR",
    "gLEFT-POINTING_DOUBLE_TRIANGLE_WITH_VERTICAL_BAR",
    "gRIGHT-POINTING_TRIANGLE_WITH_DOUBLE_VERTICAL_BAR aALARM_CLOCK aSTOPWATCH aTIMER_CLOCK",
    "aHOURGLASS_WITH_FLOWING_SAND aBLACK_MEDIUM_LEFT-POINTING_TRIANGLE nRIGHT-POINTING_TRIANGLE",
    "nUP-POINTING_TRIANGLE nDOWN-POINTING_TRIANGLE aDOUBLE_VERTICAL_BAR aBLACK_SQUARE_FOR_STOP",
    "gCIRCLE_FOR_RECORD aPOWER_SYMBOL gON-OFF_SYMBOL i_SYMBOL gSLEEP_SYMBOL aOBSERVER_EYE_SYMBOL",
    "aSYMBOL_FOR_NULL lSTART_OF_HEADING uTEXT lEND_OF_TEXT tRANSMISSION nQUIRY lACKNOWLEDGE",
    "lBELL mACKSPACE lHORIZONTAL_TABULATION lLINE_FEED lVERTICAL_TABULATION lFORM_FEED",
    "lCARRIAGE_RETURN lSHIFT_OUT rIN lDATA_LINK_ESCAPE mEVICE_CONTROL_ONE baTWO bbHREE baFOUR",
    "lNEGATIVE_ACKNOWLEDGE lSYNCHRONOUS_IDLE lEND_OF_TRANSMISSION_BLOCK lCANCEL lEND_OF_MEDIUM",
    "lSUBSTITUTE lESCAPE lFILE_SEPARATOR lGROUP_SEPARATOR lRECORD_SEPARATOR lUNIT_SEPARATOR",
    "lSPACE lDELETE aBLANK_SYMBOL aOPEN_BOX aSYMBOL_FOR_NEWLINE lDELETE_FORM_TWO",
    "lSUBSTITUTE_FORM_TWO"]), (0x2440, ["aOCR_HOOK eCHAIR eFORK eINVERTED_FORK eBELT_BUCKLE",
    "fOW_TIE fRANCH_BANK_IDENTIFICATION eAMOUNT_OF_CHECK eDASH eCUSTOMER_ACCOUNT_NUMBER",
    "eDOUBLE_BACKSLASH"]), (0x2460, ["aCIRCLED_DIGIT_ONE oTWO pHREE oFOUR pIVE oSIX pEVEN oEIGHT",
    "oNINE iNUMBER_TEN pELEVEN pTWELVE qHIRTEEN pFOURTEEN qIFTEEN pSIXTEEN qEVENTEEN pEIGHTEEN",
    "pNINETEEN pTWENTY aPARENTHESIZED_DIGIT_ONE uTWO vHREE uFOUR vIVE uSIX vEVEN uEIGHT uNINE",
    "oNUMBER_TEN vELEVEN vTWELVE wHIRTEEN vFOURTEEN wIFTEEN vSIXTEEN wEVENTEEN vEIGHTEEN",
    "vNINETEEN vTWENTY aDIGIT_ONE_FULL_STOP gTWO_FULL_STOP hHREE_FULL_STOP gFOUR_FULL_STOP",
    "hIVE_FULL_STOP gSIX_FULL_STOP hEVEN_FULL_STOP gEIGHT_FULL_STOP gNINE_FULL_STOP",
    "aNUMBER_TEN_FULL_STOP hELEVEN_FULL_STOP hTWELVE_FULL_STOP iHIRTEEN_FULL_STOP",
    "hFOURTEEN_FULL_STOP iIFTEEN_FULL_STOP hSIXTEEN_FULL_STOP iEVENTEEN_FULL_STOP",
    "hEIGHTEEN_FULL_STOP hNINETEEN_FULL_STOP hTWENTY_FULL_STOP",
    "aPARENTHESIZED_LATIN_SMALL_LETTER_A bhB bhC bhD bhE bhF bhG bhH bhI bhJ bhK bhL bhM bhN bhO",
    "bhP bhQ bhR bhS bhT bhU bhV bhW bhX bhY bhZ aCIRCLED_LATIN_CAPITAL_LETTER_A bdB bdC bdD bdE",
    "bdF bdG bdH bdI bdJ bdK bdL bdM bdN bdO bdP bdQ bdR bdS bdT bdU bdV bdW bdX bdY bdZ",
    "oSMALL_LETTER_A bbB bbC bbD bbE bbF bbG bbH bbI bbJ bbK bbL bbM bbN bbO bbP bbQ bbR bbS bbT",
    "bbU bbV bbW bbX bbY bbZ iDIGIT_ZERO aNEGATIVE_CIRCLED_NUMBER_ELEVEN yTWELVE zHIRTEEN",
    "yFOURTEEN zIFTEEN ySIXTEEN zEVENTEEN yEIGHTEEN yNINETEEN yTWENTY aDOUBLE_CIRCLED_DIGIT_ONE",
    "vTWO wHREE vFOUR wIVE vSIX wEVEN vEIGHT vNINE pNUMBER_TEN aNEGATIVE_CIRCLED_DIGIT_ZERO",
    "aBOX_DRAWINGS_LIGHT_HORIZONTAL nHEAVY_HORIZONTAL nLIGHT_VERTICAL nHEAVY_VERTICAL",
    "nLIGHT_TRIPLE_DASH_HORIZONTAL nHEAVY_TRIPLE_DASH_HORIZONTAL nLIGHT_TRIPLE_DASH_VERTICAL",
    "nHEAVY_TRIPLE_DASH_VERTICAL nLIGHT_QUADRUPLE_DASH_HORIZONTAL",
    "nHEAVY_QUADRUPLE_DASH_HORIZONTAL nLIGHT_QUADRUPLE_DASH_VERTICAL",
    "nHEAVY_QUADRUPLE_DASH_VERTICAL nLIGHT_DOWN_AND_RIGHT nDOWN_LIGHT_AND_RIGHT_HEAVY",
    "sHEAVY_AND_RIGHT_LIGHT nHEAVY_DOWN_AND_RIGHT nLIGHT_DOWN_AND_LEFT",
    "nDOWN_LIGHT_AND_LEFT_HEAVY sHEAVY_AND_LEFT_LIGHT nHEAVY_DOWN_AND_LEFT nLIGHT_UP_AND_RIGHT",
    "nUP_LIGHT_AND_RIGHT_HEAVY qHEAVY_AND_RIGHT_LIGHT nHEAVY_UP_AND_RIGHT nLIGHT_UP_AND_LEFT",
    "nUP_LIGHT_AND_LEFT_HEAVY qHEAVY_AND_LEFT_LIGHT nHEAVY_UP_AND_LEFT nLIGHT_VERTICAL_AND_RIGHT",
    "nVERTICAL_LIGHT_AND_RIGHT_HEAVY nUP_HEAVY_AND_RIGHT_DOWN_LIGHT",
    "nDOWN_HEAVY_AND_RIGHT_UP_LIGHT nVERTICAL_HEAVY_AND_RIGHT_LIGHT",
    "nDOWN_LIGHT_AND_RIGHT_UP_HEAVY nUP_LIGHT_AND_RIGHT_DOWN_HEAVY nHEAVY_VERTICAL_AND_RIGHT",
    "nLIGHT_VERTICAL_AND_LEFT nVERTICAL_LIGHT_AND_LEFT_HEAVY nUP_HEAVY_AND_LEFT_DOWN_LIGHT",
    "nDOWN_HEAVY_AND_LEFT_UP_LIGHT nVERTICAL_HEAVY_AND_LEFT_LIGHT nDOWN_LIGHT_AND_LEFT_UP_HEAVY",
    "nUP_LIGHT_AND_LEFT_DOWN_HEAVY nHEAVY_VERTICAL_AND_LEFT nLIGHT_DOWN_AND_HORIZONTAL",
    "oEFT_HEAVY_AND_RIGHT_DOWN_LIGHT nRIGHT_HEAVY_AND_LEFT_DOWN_LIGHT",
    "nDOWN_LIGHT_AND_HORIZONTAL_HEAVY sHEAVY_AND_HORIZONTAL_LIGHT",
    "nRIGHT_LIGHT_AND_LEFT_DOWN_HEAVY nLEFT_LIGHT_AND_RIGHT_DOWN_HEAVY",
    "nHEAVY_DOWN_AND_HORIZONTAL nLIGHT_UP_AND_HORIZONTAL oEFT_HEAVY_AND_RIGHT_UP_LIGHT",
    "nRIGHT_HEAVY_AND_LEFT_UP_LIGHT nUP_LIGHT_AND_HORIZONTAL_HEAVY qHEAVY_AND_HORIZONTAL_LIGHT",
    "nRIGHT_LIGHT_AND_LEFT_UP_HEAVY nLEFT_LIGHT_AND_RIGHT_UP_HEAVY nHEAVY_UP_AND_HORIZONTAL",
    "nLIGHT_VERTICAL_AND_HORIZONTAL oEFT_HEAVY_AND_RIGHT_VERTICAL_LIGHT",
    "nRIGHT_HEAVY_AND_LEFT_VERTICAL_LIGHT nVERTICAL_LIGHT_AND_HORIZONTAL_HEAVY",
    "nUP_HEAVY_AND_DOWN_HORIZONTAL_LIGHT nDOWN_HEAVY_AND_UP_HORIZONTAL_LIGHT",
    "nVERTICAL_HEAVY_AND_HORIZONTAL_LIGHT nLEFT_UP_HEAVY_AND_RIGHT_DOWN_LIGHT",
    "nRIGHT_UP_HEAVY_AND_LEFT_DOWN_LIGHT nLEFT_DOWN_HEAVY_AND_RIGHT_UP_LIGHT",
    "nRIGHT_DOWN_HEAVY_AND_LEFT_UP_LIGHT nDOWN_LIGHT_AND_UP_HORIZONTAL_HEAVY",
    "nUP_LIGHT_AND_DOWN_HORIZONTAL_HEAVY nRIGHT_LIGHT_AND_LEFT_VERTICAL_HEAVY",
    "nLEFT_LIGHT_AND_RIGHT_VERTICAL_HEAVY nHEAVY_VERTICAL_AND_HORIZONTAL",
    "nLIGHT_DOUBLE_DASH_HORIZONTAL nHEAVY_DOUBLE_DASH_HORIZONTAL nLIGHT_DOUBLE_DASH_VERTICAL",
    "nHEAVY_DOUBLE_DASH_VERTICAL nDOUBLE_HORIZONTAL uVERTICAL pWN_SINGLE_AND_RIGHT_DOUBLE",
    "sDOUBLE_AND_RIGHT_SINGLE pUBLE_DOWN_AND_RIGHT pWN_SINGLE_AND_LEFT_DOUBLE",
    "sDOUBLE_AND_LEFT_SINGLE pUBLE_DOWN_AND_LEFT nUP_SINGLE_AND_RIGHT_DOUBLE",
    "qDOUBLE_AND_RIGHT_SINGLE nDOUBLE_UP_AND_RIGHT nUP_SINGLE_AND_LEFT_DOUBLE",
    "qDOUBLE_AND_LEFT_SINGLE nDOUBLE_UP_AND_LEFT nVERTICAL_SINGLE_AND_RIGHT_DOUBLE",
    "wDOUBLE_AND_RIGHT_SINGLE nDOUBLE_VERTICAL_AND_RIGHT nVERTICAL_SINGLE_AND_LEFT_DOUBLE",
    "wDOUBLE_AND_LEFT_SINGLE nDOUBLE_VERTICAL_AND_LEFT pWN_SINGLE_AND_HORIZONTAL_DOUBLE",
    "sDOUBLE_AND_HORIZONTAL_SINGLE pUBLE_DOWN_AND_HORIZONTAL nUP_SINGLE_AND_HORIZONTAL_DOUBLE",
    "qDOUBLE_AND_HORIZONTAL_SINGLE nDOUBLE_UP_AND_HORIZONTAL",
    "nVERTICAL_SINGLE_AND_HORIZONTAL_DOUBLE wDOUBLE_AND_HORIZONTAL_SINGLE",
    "nDOUBLE_VERTICAL_AND_HORIZONTAL nLIGHT_ARC_DOWN_AND_RIGHT bgLEFT xUP_AND_LEFT beRIGHT",
    "tDIAGONAL_UPPER_RIGHT_TO_LOWER_LEFT biLEFT_TO_LOWER_RIGHT bcCROSS tLEFT tUP tRIGHT tDOWN",
    "nHEAVY_LEFT tUP tRIGHT tDOWN nLIGHT_LEFT_AND_HEAVY_RIGHT tUP_AND_HEAVY_DOWN",
    "nHEAVY_LEFT_AND_LIGHT_RIGHT tUP_AND_LIGHT_DOWN aUPPER_HALF_BLOCK aLOWER_ONE_EIGHTH_BLOCK",
    "kQUARTER_BLOCK gTHREE_EIGHTHS_BLOCK gHALF_BLOCK gFIVE_EIGHTHS_BLOCK gTHREE_QUARTERS_BLOCK",
    "gSEVEN_EIGHTHS_BLOCK aFULL_BLOCK aLEFT_SEVEN_EIGHTHS_BLOCK fTHREE_QUARTERS_BLOCK",
    "fFIVE_EIGHTHS_BLOCK fHALF_BLOCK fTHREE_EIGHTHS_BLOCK fONE_QUARTER_BLOCK jEIGHTH_BLOCK",
    "aRIGHT_HALF_BLOCK aLIGHT_SHADE aMEDIUM_SHADE aDARK_SHADE aUPPER_ONE_EIGHTH_BLOCK",
    "aRIGHT_ONE_EIGHTH_BLOCK aQUADRANT_LOWER_LEFT pRIGHT jUPPER_LEFT",
    "t_AND_LOWER_LEFT_AND_LOWER_RIGHT beRIGHT yUPPER_RIGHT_AND_LOWER_LEFT buRIGHT pRIGHT",
    "u_AND_LOWER_LEFT bj_AND_LOWER_RIGHT aBLACK_SQUARE aWHITE_SQUARE m_WITH_ROUNDED_CORNERS",
    "nCONTAINING_BLACK_SMALL_SQUARE aSQUARE_WITH_HORIZONTAL_FILL mVERTICAL_FILL",
    "mORTHOGONAL_CROSSHATCH_FILL mUPPER_LEFT_TO_LOWER_RIGHT_FILL sRIGHT_TO_LOWER_LEFT_FILL",
    "mDIAGONAL_CROSSHATCH_FILL aBLACK_SMALL_SQUARE aWHITE_SMALL_SQUARE aBLACK_RECTANGLE",
    "aWHITE_RECTANGLE aBLACK_VERTICAL_RECTANGLE aWHITE_VERTICAL_RECTANGLE aBLACK_PARALLELOGRAM",
    "aWHITE_PARALLELOGRAM aBLACK_UP-POINTING_TRIANGLE aWHITE_UP-POINTING_TRIANGLE",
    "aBLACK_UP-POINTING_SMALL_TRIANGLE aWHITE_UP-POINTING_SMALL_TRIANGLE",
    "aBLACK_RIGHT-POINTING_TRIANGLE aWHITE_RIGHT-POINTING_TRIANGLE",
    "aBLACK_RIGHT-POINTING_SMALL_TRIANGLE aWHITE_RIGHT-POINTING_SMALL_TRIANGLE",
    "aBLACK_RIGHT-POINTING_POINTER aWHITE_RIGHT-POINTING_POINTER aBLACK_DOWN-POINTING_TRIANGLE",
    "aWHITE_DOWN-POINTING_TRIANGLE aBLACK_DOWN-POINTING_SMALL_TRIANGLE",
    "aWHITE_DOWN-POINTING_SMALL_TRIANGLE aBLACK_LEFT-POINTING_TRIANGLE",
    "aWHITE_LEFT-POINTING_TRIANGLE aBLACK_LEFT-POINTING_SMALL_TRIANGLE",
    "aWHITE_LEFT-POINTING_SMALL_TRIANGLE aBLACK_LEFT-POINTING_POINTER",
    "aWHITE_LEFT-POINTING_POINTER aBLACK_DIAMOND aWHITE_DIAMOND n_CONTAINING_BLACK_SMALL_DIAMOND",
    "aFISHEYE aLOZENGE aWHITE_CIRCLE aDOTTED_CIRCLE aCIRCLE_WITH_VERTICAL_FILL aBULLSEYE",
    "bLACK_CIRCLE aCIRCLE_WITH_LEFT_HALF_BLACK mRIGHT_HALF_BLACK mLOWER_HALF_BLACK",
    "mUPPER_HALF_BLACK sRIGHT_QUADRANT_BLACK mALL_BUT_UPPER_LEFT_QUADRANT_BLACK",
    "aLEFT_HALF_BLACK_CIRCLE aRIGHT_HALF_BLACK_CIRCLE aINVERSE_BULLET iWHITE_CIRCLE",
    "aUPPER_HALF_INVERSE_WHITE_CIRCLE aLOWER_HALF_INVERSE_WHITE_CIRCLE",
    "aUPPER_LEFT_QUADRANT_CIRCULAR_ARC gRIGHT_QUADRANT_CIRCULAR_ARC",
    "aLOWER_RIGHT_QUADRANT_CIRCULAR_ARC gLEFT_QUADRANT_CIRCULAR_ARC aUPPER_HALF_CIRCLE",
    "aLOWER_HALF_CIRCLE aBLACK_LOWER_RIGHT_TRIANGLE mLEFT_TRIANGLE gUPPER_LEFT_TRIANGLE",
    "mRIGHT_TRIANGLE aWHITE_BULLET aSQUARE_WITH_LEFT_HALF_BLACK mRIGHT_HALF_BLACK",
    "mUPPER_LEFT_DIAGONAL_HALF_BLACK mLOWER_RIGHT_DIAGONAL_HALF_BLACK",
    "aWHITE_SQUARE_WITH_VERTICAL_BISECTING_LINE gUP-POINTING_TRIANGLE_WITH_DOT",
    "aUP-POINTING_TRIANGLE_WITH_LEFT_HALF_BLACK baRIGHT_HALF_BLACK aLARGE_CIRCLE",
    "aWHITE_SQUARE_WITH_UPPER_LEFT_QUADRANT sLOWER_LEFT_QUADRANT yRIGHT_QUADRANT",
    "sUPPER_RIGHT_QUADRANT gCIRCLE_WITH_UPPER_LEFT_QUADRANT sLOWER_LEFT_QUADRANT yRIGHT_QUADRANT",
    "sUPPER_RIGHT_QUADRANT aUPPER_LEFT_TRIANGLE gRIGHT_TRIANGLE aLOWER_LEFT_TRIANGLE",
    "aWHITE_MEDIUM_SQUARE aBLACK_MEDIUM_SQUARE aWHITE_MEDIUM_SMALL_SQUARE",
    "aBLACK_MEDIUM_SMALL_SQUARE aLOWER_RIGHT_TRIANGLE aBLACK_SUN_WITH_RAYS aCLOUD aUMBRELLA",
    "aSNOWMAN aCOMET aBLACK_STAR aWHITE_STAR aLIGHTNING aTHUNDERSTORM aSUN aASCENDING_NODE",
    "aDESCENDING_NODE aCONJUNCTION aOPPOSITION aBLACK_TELEPHONE aWHITE_TELEPHONE aBALLOT_BOX",
    "k_WITH_CHECK qX aSALTIRE aUMBRELLA_WITH_RAIN_DROPS aHOT_BEVERAGE aWHITE_SHOGI_PIECE",
    "aBLACK_SHOGI_PIECE aSHAMROCK aREVERSED_ROTATED_FLORAL_HEART_BULLET",
    "aBLACK_LEFT_POINTING_INDEX gRIGHT_POINTING_INDEX aWHITE_LEFT_POINTING_INDEX",
    "gUP_POINTING_INDEX gRIGHT_POINTING_INDEX gDOWN_POINTING_INDEX aSKULL_AND_CROSSBONES",
    "aCAUTION_SIGN aRADIOACTIVE_SIGN aBIOHAZARD_SIGN aCADUCEUS aANKH aORTHODOX_CROSS aCHI_RHO",
    "bROSS_OF_LORRAINE jJERUSALEM aSTAR_AND_CRESCENT aFARSI_SYMBOL aADI_SHAKTI",
    "aHAMMER_AND_SICKLE aPEACE_SYMBOL aYIN_YANG aTRIGRAM_FOR_HEAVEN mLAKE mFIRE mTHUNDER mWIND",
    "nATER mMOUNTAIN mEARTH aWHEEL_OF_DHARMA cITE_FROWNING_FACE gSMILING_FACE",
    "aBLACK_SMILING_FACE aWHITE_SUN_WITH_RAYS aFIRST_QUARTER_MOON aLAST_QUARTER_MOON aMERCURY",
    "aFEMALE_SIGN aEARTH aMALE_SIGN aJUPITER aSATURN aURANUS aNEPTUNE aPLUTO aARIES aTAURUS",
    "aGEMINI aCANCER aLEO aVIRGO aLIBRA aSCORPIUS bAGITTARIUS aCAPRICORN aAQUARIUS aPISCES",
    "aWHITE_CHESS_KING mQUEEN mROOK mBISHOP mKNIGHT mPAWN aBLACK_CHESS_KING mQUEEN mROOK mBISHOP",
    "mKNIGHT mPAWN gSPADE_SUIT aWHITE_HEART_SUIT gDIAMOND_SUIT aBLACK_CLUB_SUIT",
    "aWHITE_SPADE_SUIT aBLACK_HEART_SUIT gDIAMOND_SUIT aWHITE_CLUB_SUIT aHOT_SPRINGS",
    "aQUARTER_NOTE aEIGHTH_NOTE aBEAMED_EIGHTH_NOTES hSIXTEENTH_NOTES aMUSIC_FLAT_SIGN",
    "gNATURAL_SIGN gSHARP_SIGN aWEST_SYRIAC_CROSS aEAST_SYRIAC_CROSS aUNIVERSAL_RECYCLING_SYMBOL",
    "aRECYCLING_SYMBOL_FOR_TYPE-1_PLASTICS ba2_PLASTICS ba3_PLASTICS ba4_PLASTICS ba5_PLASTICS",
    "ba6_PLASTICS ba7_PLASTICS vGENERIC_MATERIALS aBLACK_UNIVERSAL_RECYCLING_SYMBOL",
    "aRECYCLED_PAPER_SYMBOL aPARTIALLY-RECYCLED_PAPER_SYMBOL bERMANENT_PAPER_SIGN",
    "aWHEELCHAIR_SYMBOL aDIE_FACE-1 j2 j3 j4 j5 j6 aWHITE_CIRCLE_WITH_DOT_RIGHT sTWO_DOTS",
    "aBLACK_CIRCLE_WITH_WHITE_DOT_RIGHT sTWO_WHITE_DOTS aMONOGRAM_FOR_YANG oIN",
    "aDIGRAM_FOR_GREATER_YANG lLESSER_YIN tANG lGREATER_YIN aWHITE_FLAG aBLACK_FLAG",
    "aHAMMER_AND_PICK aANCHOR aCROSSED_SWORDS aSTAFF_OF_AESCULAPIUS bCALES aALEMBIC aFLOWER",
    "aGEAR aSTAFF_OF_HERMES aATOM_SYMBOL aFLEUR-DE-LIS aOUTLINED_WHITE_STAR",
    "aTHREE_LINES_CONVERGING_RIGHT xLEFT aWARNING_SIGN aHIGH_VOLTAGE_SIGN aDOUBLED_FEMALE_SIGN",
    "iMALE_SIGN aINTERLOCKED_FEMALE_AND_MALE_SIGN aMALE_AND_FEMALE_SIGN fWITH_STROKE_SIGN",
    "rAND_MALE_AND_FEMALE_SIGN aVERTICAL_MALE_WITH_STROKE_SIGN aHORIZONTAL_MALE_WITH_STROKE_SIGN",
    "aMEDIUM_WHITE_CIRCLE hBLACK_CIRCLE hSMALL_WHITE_CIRCLE bARRIAGE_SYMBOL aDIVORCE_SYMBOL",
    "aUNMARRIED_PARTNERSHIP_SYMBOL aCOFFIN aFUNERAL_URN aNEUTER aCERES aPALLAS aJUNO aVESTA",
    "aCHIRON aBLACK_MOON_LILITH aSEXTILE cMISEXTILE aQUINCUNX aSESQUIQUADRATE bOCCER_BALL",
    "aBASEBALL aSQUARED_KEY aWHITE_DRAUGHTS_MAN pKING aBLACK_DRAUGHTS_MAN pKING",
    "aSNOWMAN_WITHOUT_SNOW bUN_BEHIND_CLOUD aRAIN aBLACK_SNOWMAN aTHUNDER_CLOUD_AND_RAIN",
    "bURNED_WHITE_SHOGI_PIECE hBLACK_SHOGI_PIECE aWHITE_DIAMOND_IN_SQUARE aCROSSING_LANES",
    "aDISABLED_CAR aOPHIUCHUS aPICK aCAR_SLIDING aHELMET_WITH_WHITE_CROSS",
    "aCIRCLED_CROSSING_LANES bHAINS aNO_ENTRY aALTERNATE_ONE-WAY_LEFT_WAY_TRAFFIC",
    "aBLACK_TWO-WAY_LEFT_WAY_TRAFFIC aWHITE_TWO-WAY_LEFT_WAY_TRAFFIC aBLACK_LEFT_LANE_MERGE",
    "aWHITE_LEFT_LANE_MERGE aDRIVE_SLOW_SIGN aHEAVY_WHITE_DOWN-POINTING_TRIANGLE",
    "aLEFT_CLOSED_ENTRY aSQUARED_SALTIRE aFALLING_DIAGONAL_IN_WHITE_CIRCLE_IN_BLACK_SQUARE",
    "aBLACK_TRUCK aRESTRICTED_LEFT_ENTRY-1 w2 aASTRONOMICAL_SYMBOL_FOR_URANUS",
    "aHEAVY_CIRCLE_WITH_STROKE_AND_TWO_DOTS_ABOVE aPENTAGRAM aRIGHT-HANDED_INTERLACED_PENTAGRAM",
    "aLEFT-HANDED_INTERLACED_PENTAGRAM aINVERTED_PENTAGRAM aBLACK_CROSS_ON_SHIELD aSHINTO_SHRINE",
    "aCHURCH bASTLE aHISTORIC_SITE aGEAR_WITHOUT_HUB j_HANDLES aMAP_SYMBOL_FOR_LIGHTHOUSE",
    "bOUNTAIN aUMBRELLA_ON_GROUND aFOUNTAIN bLAG_IN_HOLE bERRY aSAILBOAT bQUARE_FOUR_CORNERS",
    "bKIER aICE_SKATE aPERSON_WITH_BALL aTENT aJAPANESE_BANK_SYMBOL aHEADSTONE_GRAVEYARD_SYMBOL",
    "aFUEL_PUMP aCUP_ON_BLACK_SQUARE aWHITE_FLAG_WITH_HORIZONTAL_MIDDLE_BLACK_STRIPE",
    "aBLACK_SAFETY_SCISSORS aUPPER_BLADE_SCISSORS aBLACK_SCISSORS aLOWER_BLADE_SCISSORS",
    "aWHITE_SCISSORS gHEAVY_CHECK_MARK aTELEPHONE_LOCATION_SIGN bAPE_DRIVE aAIRPLANE aENVELOPE",
    "aRAISED_FIST hHAND aVICTORY_HAND aWRITING_HAND aLOWER_RIGHT_PENCIL aPENCIL",
    "aUPPER_RIGHT_PENCIL aWHITE_NIB aBLACK_NIB aCHECK_MARK aHEAVY_CHECK_MARK aMULTIPLICATION_X",
    "aHEAVY_MULTIPLICATION_X aBALLOT_X aHEAVY_BALLOT_X aOUTLINED_GREEK_CROSS aHEAVY_GREEK_CROSS",
    "aOPEN_CENTRE_CROSS aHEAVY_OPEN_CENTRE_CROSS aLATIN_CROSS aSHADOWED_WHITE_LATIN_CROSS",
    "aOUTLINED_LATIN_CROSS aMALTESE_CROSS aSTAR_OF_DAVID aFOUR_TEARDROP-SPOKED_ASTERISK",
    "fBALLOON-SPOKED_ASTERISK aHEAVY_FOUR_BALLOON-SPOKED_ASTERISK aFOUR_CLUB-SPOKED_ASTERISK",
    "aBLACK_FOUR_POINTED_STAR aWHITE_FOUR_POINTED_STAR aSPARKLES bTRESS_OUTLINED_WHITE_STAR",
    "aCIRCLED_WHITE_STAR aOPEN_CENTRE_BLACK_STAR aBLACK_CENTRE_WHITE_STAR aOUTLINED_BLACK_STAR",
    "aHEAVY_OUTLINED_BLACK_STAR aPINWHEEL_STAR aSHADOWED_WHITE_STAR aHEAVY_ASTERISK",
    "aOPEN_CENTRE_ASTERISK aEIGHT_SPOKED_ASTERISK gPOINTED_BLACK_STAR oPINWHEEL_STAR",
    "aSIX_POINTED_BLACK_STAR aEIGHT_POINTED_RECTILINEAR_BLACK_STAR",
    "aHEAVY_EIGHT_POINTED_RECTILINEAR_BLACK_STAR aTWELVE_POINTED_BLACK_STAR",
    "aSIXTEEN_POINTED_ASTERISK aTEARDROP-SPOKED_ASTERISK aOPEN_CENTRE_TEARDROP-SPOKED_ASTERISK",
    "aHEAVY_TEARDROP-SPOKED_ASTERISK aSIX_PETALLED_BLACK_AND_WHITE_FLORETTE aBLACK_FLORETTE",
    "aWHITE_FLORETTE aEIGHT_PETALLED_OUTLINED_BLACK_FLORETTE",
    "aCIRCLED_OPEN_CENTRE_EIGHT_POINTED_STAR aHEAVY_TEARDROP-SPOKED_PINWHEEL_ASTERISK aSNOWFLAKE",
    "aTIGHT_TRIFOLIATE_SNOWFLAKE aHEAVY_CHEVRON_SNOWFLAKE aSPARKLE aHEAVY_SPARKLE",
    "aBALLOON-SPOKED_ASTERISK aEIGHT_TEARDROP-SPOKED_PROPELLER_ASTERISK",
    "aHEAVY_EIGHT_TEARDROP-SPOKED_PROPELLER_ASTERISK aCROSS_MARK aSHADOWED_WHITE_CIRCLE",
    "aNEGATIVE_SQUARED_CROSS_MARK aLOWER_RIGHT_DROP-SHADOWED_WHITE_SQUARE",
    "aUPPER_RIGHT_DROP-SHADOWED_WHITE_SQUARE aLOWER_RIGHT_SHADOWED_WHITE_SQUARE",
    "aUPPER_RIGHT_SHADOWED_WHITE_SQUARE aBLACK_QUESTION_MARK_ORNAMENT",
    "aWHITE_QUESTION_MARK_ORNAMENT gEXCLAMATION_MARK_ORNAMENT aBLACK_DIAMOND_MINUS_WHITE_X",
    "aHEAVY_EXCLAMATION_MARK_SYMBOL aLIGHT_VERTICAL_BAR aMEDIUM_VERTICAL_BAR aHEAVY_VERTICAL_BAR",
    "gSINGLE_TURNED_COMMA_QUOTATION_MARK_ORNAMENT nCOMMA_QUOTATION_MARK_ORNAMENT",
    "gDOUBLE_TURNED_COMMA_QUOTATION_MARK_ORNAMENT nCOMMA_QUOTATION_MARK_ORNAMENT",
    "gLOW_SINGLE_COMMA_QUOTATION_MARK_ORNAMENT kDOUBLE_COMMA_QUOTATION_MARK_ORNAMENT",
    "aCURVED_STEM_PARAGRAPH_SIGN_ORNAMENT aHEAVY_EXCLAMATION_MARK_ORNAMENT",
    "gHEART_EXCLAMATION_MARK_ORNAMENT gBLACK_HEART aROTATED_HEAVY_BLACK_HEART_BULLET",
    "aFLORAL_HEART aROTATED_FLORAL_HEART_BULLET aMEDIUM_LEFT_PARENTHESIS_ORNAMENT",
    "hRIGHT_PARENTHESIS_ORNAMENT hFLATTENED_LEFT_PARENTHESIS_ORNAMENT",
    "rRIGHT_PARENTHESIS_ORNAMENT hLEFT-POINTING_ANGLE_BRACKET_ORNAMENT",
    "hRIGHT-POINTING_ANGLE_BRACKET_ORNAMENT aHEAVY_LEFT-POINTING_ANGLE_QUOTATION_MARK_ORNAMENT",
    "gRIGHT-POINTING_ANGLE_QUOTATION_MARK_ORNAMENT gLEFT-POINTING_ANGLE_BRACKET_ORNAMENT",
    "gRIGHT-POINTING_ANGLE_BRACKET_ORNAMENT aLIGHT_LEFT_TORTOISE_SHELL_BRACKET_ORNAMENT",
    "gRIGHT_TORTOISE_SHELL_BRACKET_ORNAMENT aMEDIUM_LEFT_CURLY_BRACKET_ORNAMENT",
    "hRIGHT_CURLY_BRACKET_ORNAMENT aDINGBAT_NEGATIVE_CIRCLED_DIGIT_ONE bfTWO bgHREE bfFOUR bgIVE",
    "bfSIX bgEVEN bfEIGHT bfNINE zNUMBER_TEN iCIRCLED_SANS-SERIF_DIGIT_ONE bhTWO biHREE bhFOUR",
    "biIVE bhSIX biEVEN bhEIGHT bhNINE bbNUMBER_TEN iNEGATIVE_CIRCLED_SANS-SERIF_DIGIT_ONE bqTWO",
    "brHREE bqFOUR brIVE bqSIX brEVEN bqEIGHT bqNINE bkNUMBER_TEN",
    "aHEAVY_WIDE-HEADED_RIGHTWARDS_ARROW gPLUS_SIGN gMINUS_SIGN gDIVISION_SIGN gSOUTH_EAST_ARROW",
    "gRIGHTWARDS_ARROW gNORTH_EAST_ARROW aDRAFTING_POINT_RIGHTWARDS_ARROW",
    "aHEAVY_ROUND-TIPPED_RIGHTWARDS_ARROW aTRIANGLE-HEADED_RIGHTWARDS_ARROW",
    "aHEAVY_TRIANGLE-HEADED_RIGHTWARDS_ARROW aDASHED_TRIANGLE-HEADED_RIGHTWARDS_ARROW",
    "aHEAVY_DASHED_TRIANGLE-HEADED_RIGHTWARDS_ARROW aBLACK_RIGHTWARDS_ARROW",
    "aTHREE-D_TOP-LIGHTED_RIGHTWARDS_ARROWHEAD iBOTTOM-LIGHTED_RIGHTWARDS_ARROWHEAD",
    "aBLACK_RIGHTWARDS_ARROWHEAD aHEAVY_BLACK_CURVED_DOWNWARDS_AND_RIGHTWARDS_ARROW",
    "tUPWARDS_AND_RIGHTWARDS_ARROW aSQUAT_BLACK_RIGHTWARDS_ARROW",
    "aHEAVY_CONCAVE-POINTED_BLACK_RIGHTWARDS_ARROW aRIGHT-SHADED_WHITE_RIGHTWARDS_ARROW",
    "aLEFT-SHADED_WHITE_RIGHTWARDS_ARROW aBACK-TILTED_SHADOWED_WHITE_RIGHTWARDS_ARROW",
    "aFRONT-TILTED_SHADOWED_WHITE_RIGHTWARDS_ARROW",
    "aHEAVY_LOWER_RIGHT-SHADOWED_WHITE_RIGHTWARDS_ARROW",
    "gUPPER_RIGHT-SHADOWED_WHITE_RIGHTWARDS_ARROW",
    "aNOTCHED_LOWER_RIGHT-SHADOWED_WHITE_RIGHTWARDS_ARROW aCURLY_LOOP",
    "aNOTCHED_UPPER_RIGHT-SHADOWED_WHITE_RIGHTWARDS_ARROW aCIRCLED_HEAVY_WHITE_RIGHTWARDS_ARROW",
    "aWHITE-FEATHERED_RIGHTWARDS_ARROW aBLACK-FEATHERED_SOUTH_EAST_ARROW qRIGHTWARDS_ARROW",
    "qNORTH_EAST_ARROW aHEAVY_BLACK-FEATHERED_SOUTH_EAST_ARROW wRIGHTWARDS_ARROW",
    "wNORTH_EAST_ARROW aTEARDROP-BARBED_RIGHTWARDS_ARROW",
    "aHEAVY_TEARDROP-SHANKED_RIGHTWARDS_ARROW aWEDGE-TAILED_RIGHTWARDS_ARROW",
    "aHEAVY_WEDGE-TAILED_RIGHTWARDS_ARROW aOPEN-OUTLINED_RIGHTWARDS_ARROW aDOUBLE_CURLY_LOOP",
    "aTHREE_DIMENSIONAL_ANGLE aWHITE_TRIANGLE_CONTAINING_SMALL_WHITE_TRIANGLE aPERPENDICULAR",
    "aOPEN_SUBSET hPERSET aLEFT_S-SHAPED_BAG_DELIMITER aRIGHT_S-SHAPED_BAG_DELIMITER",
    "aOR_WITH_DOT_INSIDE aREVERSE_SOLIDUS_PRECEDING_SUBSET aSUPERSET_PRECEDING_SOLIDUS",
    "aVERTICAL_BAR_WITH_HORIZONTAL_STROKE aMATHEMATICAL_RISING_DIAGONAL aLONG_DIVISION",
    "aMATHEMATICAL_FALLING_DIAGONAL aSQUARED_LOGICAL_AND qOR aWHITE_DIAMOND_WITH_CENTRED_DOT",
    "aAND_WITH_DOT aELEMENT_OF_OPENING_UPWARDS aLOWER_RIGHT_CORNER_WITH_DOT",
    "aUPPER_LEFT_CORNER_WITH_DOT aLEFT_OUTER_JOIN aRIGHT_OUTER_JOIN aFULL_OUTER_JOIN",
    "aLARGE_UP_TACK gDOWN_TACK bEFT_AND_RIGHT_DOUBLE_TURNSTILE pTACK fMULTIMAP bONG_RIGHT_TACK",
    "fLEFT_TACK aUP_TACK_WITH_CIRCLE_ABOVE aLOZENGE_DIVIDED_BY_HORIZONTAL_RULE",
    "aWHITE_CONCAVE-SIDED_DIAMOND bb_WITH_LEFTWARDS_TICK bhRIGHTWARDS_TICK",
    "gSQUARE_WITH_LEFTWARDS_TICK sRIGHTWARDS_TICK aMATHEMATICAL_LEFT_WHITE_SQUARE_BRACKET",
    "nRIGHT_WHITE_SQUARE_BRACKET nLEFT_ANGLE_BRACKET nRIGHT_ANGLE_BRACKET",
    "nLEFT_DOUBLE_ANGLE_BRACKET nRIGHT_DOUBLE_ANGLE_BRACKET nLEFT_WHITE_TORTOISE_SHELL_BRACKET",
    "nRIGHT_WHITE_TORTOISE_SHELL_BRACKET nLEFT_FLATTENED_PARENTHESIS",
    "nRIGHT_FLATTENED_PARENTHESIS aUPWARDS_QUADRUPLE_ARROW aDOWNWARDS_QUADRUPLE_ARROW",
    "aANTICLOCKWISE_GAPPED_CIRCLE_ARROW aCLOCKWISE_GAPPED_CIRCLE_ARROW",
    "aRIGHT_ARROW_WITH_CIRCLED_PLUS aLONG_LEFTWARDS_ARROW fRIGHTWARDS_ARROW fLEFT_RIGHT_ARROW",
    "jWARDS_DOUBLE_ARROW fRIGHTWARDS_DOUBLE_ARROW fLEFT_RIGHT_DOUBLE_ARROW jWARDS_ARROW_FROM_BAR",
    "fRIGHTWARDS_ARROW_FROM_BAR fLEFTWARDS_DOUBLE_ARROW_FROM_BAR",
    "fRIGHTWARDS_DOUBLE_ARROW_FROM_BAR qSQUIGGLE_ARROW aBRAILLE_PATTERN_BLANK qDOTS-1 v2 v12 v3",
    "v13 v23 v123 v4 v14 v24 v124 v34 v134 v234 v1234 v5 v15 v25 v125 v35 v135 v235 v1235 v45",
    "v145 v245 v1245 v345 v1345 v2345 v12345 v6 v16 v26 v126 v36 v136 v236 v1236 v46 v146 v246",
    "v1246 v346 v1346 v2346 v12346 v56 v156 v256 v1256 v356 v1356 v2356 v12356 v456 v1456 v2456",
    "v12456 v3456 v13456 v23456 v123456 v7 v17 v27 v127 v37 v137 v237 v1237 v47 v147 v247 v1247",
    "v347 v1347 v2347 v12347 v57 v157 v257 v1257 v357 v1357 v2357 v12357 v457 v1457 v2457 v12457",
    "v3457 v13457 v23457 v123457 v67 v167 v267 v1267 v367 v1367 v2367 v12367 v467 v1467 v2467",
    "v12467 v3467 v13467 v23467 v123467 v567 v1567 v2567 v12567 v3567 v13567 v23567 v123567",
    "v4567 v14567 v24567 v124567 v34567 v134567 v234567 v1234567 v8 v18 v28 v128 v38 v138 v238",
    "v1238 v48 v148 v248 v1248 v348 v1348 v2348 v12348 v58 v158 v258 v1258 v358 v1358 v2358",
    "v12358 v458 v1458 v2458 v12458 v3458 v13458 v23458 v123458 v68 v168 v268 v1268 v368 v1368",
    "v2368 v12368 v468 v1468 v2468 v12468 v3468 v13468 v23468 v123468 v568 v1568 v2568 v12568",
    "v3568 v13568 v23568 v123568 v4568 v14568 v24568 v124568 v34568 v134568 v234568 v1234568 v78",
    "v178 v278 v1278 v378 v1378 v2378 v12378 v478 v1478 v2478 v12478 v3478 v13478 v23478 v123478",
    "v578 v1578 v2578 v12578 v3578 v13578 v23578 v123578 v4578 v14578 v24578 v124578 v34578",
    "v134578 v234578 v1234578 v678 v1678 v2678 v12678 v3678 v13678 v23678 v123678 v4678 v14678",
    "v24678 v124678 v34678 v134678 v234678 v1234678 v5678 v15678 v25678 v125678 v35678 v135678",
    "v235678 v1235678 v45678 v145678 v245678 v1245678 v345678 v1345678 v2345678 v12345678",
    "aRIGHTWARDS_TWO-HEADED_ARROW_WITH_VERTICAL_STROKE bhDOUBLE_VERTICAL_STROKE",
    "aLEFTWARDS_DOUBLE_ARROW_WITH_VERTICAL_STROKE aRIGHTWARDS_DOUBLE_ARROW_WITH_VERTICAL_STROKE",
    "aLEFT_RIGHT_DOUBLE_ARROW_WITH_VERTICAL_STROKE aRIGHTWARDS_TWO-HEADED_ARROW_FROM_BAR",
    "aLEFTWARDS_DOUBLE_ARROW_FROM_BAR aRIGHTWARDS_DOUBLE_ARROW_FROM_BAR",
    "aDOWNWARDS_ARROW_WITH_HORIZONTAL_STROKE aUPWARDS_ARROW_WITH_HORIZONTAL_STROKE iTRIPLE_ARROW",
    "aDOWNWARDS_TRIPLE_ARROW aLEFTWARDS_DOUBLE_DASH_ARROW aRIGHTWARDS_DOUBLE_DASH_ARROW",
    "aLEFTWARDS_TRIPLE_DASH_ARROW aRIGHTWARDS_TRIPLE_DASH_ARROW mWO-HEADED_TRIPLE_DASH_ARROW",
    "lARROW_WITH_DOTTED_STEM aUPWARDS_ARROW_TO_BAR aDOWNWARDS_ARROW_TO_BAR",
    "aRIGHTWARDS_ARROW_WITH_TAIL_WITH_VERTICAL_STROKE bgDOUBLE_VERTICAL_STROKE",
    "lTWO-HEADED_ARROW_WITH_TAIL bl_WITH_VERTICAL_STROKE brDOUBLE_VERTICAL_STROKE",
    "aLEFTWARDS_ARROW-TAIL aRIGHTWARDS_ARROW-TAIL aLEFTWARDS_DOUBLE_ARROW-TAIL",
    "aRIGHTWARDS_DOUBLE_ARROW-TAIL aLEFTWARDS_ARROW_TO_BLACK_DIAMOND",
    "aRIGHTWARDS_ARROW_TO_BLACK_DIAMOND aLEFTWARDS_ARROW_FROM_BAR_TO_BLACK_DIAMOND",
    "aRIGHTWARDS_ARROW_FROM_BAR_TO_BLACK_DIAMOND aNORTH_WEST_AND_SOUTH_EAST_ARROW",
    "gEAST_AND_SOUTH_WEST_ARROW gWEST_ARROW_WITH_HOOK gEAST_ARROW_WITH_HOOK",
    "aSOUTH_EAST_ARROW_WITH_HOOK gWEST_ARROW_WITH_HOOK aNORTH_WEST_ARROW_AND_NORTH_EAST_ARROW",
    "gEAST_ARROW_AND_SOUTH_EAST_ARROW aSOUTH_EAST_ARROW_AND_SOUTH_WEST_ARROW",
    "gWEST_ARROW_AND_NORTH_WEST_ARROW aRISING_DIAGONAL_CROSSING_FALLING_DIAGONAL",
    "aFALLING_DIAGONAL_CROSSING_RISING_DIAGONAL aSOUTH_EAST_ARROW_CROSSING_NORTH_EAST_ARROW",
    "aNORTH_EAST_ARROW_CROSSING_SOUTH_EAST_ARROW aFALLING_DIAGONAL_CROSSING_NORTH_EAST_ARROW",
    "aRISING_DIAGONAL_CROSSING_SOUTH_EAST_ARROW aNORTH_EAST_ARROW_CROSSING_NORTH_WEST_ARROW",
    "gWEST_ARROW_CROSSING_NORTH_EAST_ARROW aWAVE_ARROW_POINTING_DIRECTLY_RIGHT",
    "aARROW_POINTING_RIGHTWARDS_THEN_CURVING_UPWARDS bnDOWNWARDS",
    "pDOWNWARDS_THEN_CURVING_LEFTWARDS bmRIGHTWARDS aRIGHT-SIDE_ARC_CLOCKWISE_ARROW",
    "aLEFT-SIDE_ARC_ANTICLOCKWISE_ARROW aTOP_ARC_ANTICLOCKWISE_ARROW",
    "aBOTTOM_ARC_ANTICLOCKWISE_ARROW aTOP_ARC_CLOCKWISE_ARROW_WITH_MINUS",
    "iANTICLOCKWISE_ARROW_WITH_PLUS aLOWER_RIGHT_SEMICIRCULAR_CLOCKWISE_ARROW",
    "gLEFT_SEMICIRCULAR_ANTICLOCKWISE_ARROW aANTICLOCKWISE_CLOSED_CIRCLE_ARROW",
    "aCLOCKWISE_CLOSED_CIRCLE_ARROW aRIGHTWARDS_ARROW_ABOVE_SHORT_LEFTWARDS_ARROW",
    "aLEFTWARDS_ARROW_ABOVE_SHORT_RIGHTWARDS_ARROW aSHORT_RIGHTWARDS_ARROW_ABOVE_LEFTWARDS_ARROW",
    "aRIGHTWARDS_ARROW_WITH_PLUS_BELOW aLEFTWARDS_ARROW_WITH_PLUS_BELOW",
    "aRIGHTWARDS_ARROW_THROUGH_X aLEFT_RIGHT_ARROW_THROUGH_SMALL_CIRCLE",
    "aUPWARDS_TWO-HEADED_ARROW_FROM_SMALL_CIRCLE aLEFT_BARB_UP_RIGHT_BARB_DOWN_HARPOON",
    "kDOWN_RIGHT_BARB_UP_HARPOON aUP_BARB_RIGHT_DOWN_BARB_LEFT_HARPOON",
    "iLEFT_DOWN_BARB_RIGHT_HARPOON aLEFT_BARB_UP_RIGHT_BARB_UP_HARPOON",
    "aUP_BARB_RIGHT_DOWN_BARB_RIGHT_HARPOON aLEFT_BARB_DOWN_RIGHT_BARB_DOWN_HARPOON",
    "aUP_BARB_LEFT_DOWN_BARB_LEFT_HARPOON aLEFTWARDS_HARPOON_WITH_BARB_UP_TO_BAR",
    "aRIGHTWARDS_HARPOON_WITH_BARB_UP_TO_BAR aUPWARDS_HARPOON_WITH_BARB_RIGHT_TO_BAR",
    "aDOWNWARDS_HARPOON_WITH_BARB_RIGHT_TO_BAR aLEFTWARDS_HARPOON_WITH_BARB_DOWN_TO_BAR",
    "aRIGHTWARDS_HARPOON_WITH_BARB_DOWN_TO_BAR aUPWARDS_HARPOON_WITH_BARB_LEFT_TO_BAR",
    "aDOWNWARDS_HARPOON_WITH_BARB_LEFT_TO_BAR aLEFTWARDS_HARPOON_WITH_BARB_UP_FROM_BAR",
    "aRIGHTWARDS_HARPOON_WITH_BARB_UP_FROM_BAR aUPWARDS_HARPOON_WITH_BARB_RIGHT_FROM_BAR",
    "aDOWNWARDS_HARPOON_WITH_BARB_RIGHT_FROM_BAR aLEFTWARDS_HARPOON_WITH_BARB_DOWN_FROM_BAR",
    "aRIGHTWARDS_HARPOON_WITH_BARB_DOWN_FROM_BAR aUPWARDS_HARPOON_WITH_BARB_LEFT_FROM_BAR",
    "aDOWNWARDS_HARPOON_WITH_BARB_LEFT_FROM_BAR",
    "aLEFTWARDS_HARPOON_WITH_BARB_UP_ABOVE_LEFTWARDS_HARPOON_WITH_BARB_DOWN",
    "aUPWARDS_HARPOON_WITH_BARB_LEFT_BESIDE_UPWARDS_HARPOON_WITH_BARB_RIGHT",
    "aRIGHTWARDS_HARPOON_WITH_BARB_UP_ABOVE_RIGHTWARDS_HARPOON_WITH_BARB_DOWN",
    "aDOWNWARDS_HARPOON_WITH_BARB_LEFT_BESIDE_DOWNWARDS_HARPOON_WITH_BARB_RIGHT",
    "aLEFTWARDS_HARPOON_WITH_BARB_UP_ABOVE_RIGHTWARDS_HARPOON_WITH_BARB_UP",
    "bcDOWN_ABOVE_RIGHTWARDS_HARPOON_WITH_BARB_DOWN",
    "aRIGHTWARDS_HARPOON_WITH_BARB_UP_ABOVE_LEFTWARDS_HARPOON_WITH_BARB_UP",
    "bdDOWN_ABOVE_LEFTWARDS_HARPOON_WITH_BARB_DOWN",
    "aLEFTWARDS_HARPOON_WITH_BARB_UP_ABOVE_LONG_DASH bcDOWN_BELOW_LONG_DASH",
    "aRIGHTWARDS_HARPOON_WITH_BARB_UP_ABOVE_LONG_DASH bdDOWN_BELOW_LONG_DASH",
    "aUPWARDS_HARPOON_WITH_BARB_LEFT_BESIDE_DOWNWARDS_HARPOON_WITH_BARB_RIGHT",
    "aDOWNWARDS_HARPOON_WITH_BARB_LEFT_BESIDE_UPWARDS_HARPOON_WITH_BARB_RIGHT",
    "aRIGHT_DOUBLE_ARROW_WITH_ROUNDED_HEAD aEQUALS_SIGN_ABOVE_RIGHTWARDS_ARROW",
    "aTILDE_OPERATOR_ABOVE_RIGHTWARDS_ARROW aLEFTWARDS_ARROW_ABOVE_TILDE_OPERATOR",
    "aRIGHTWARDS_ARROW_ABOVE_TILDE_OPERATOR xALMOST_EQUAL_TO aLESS-THAN_ABOVE_LEFTWARDS_ARROW",
    "cFTWARDS_ARROW_THROUGH_LESS-THAN aGREATER-THAN_ABOVE_RIGHTWARDS_ARROW",
    "aSUBSET_ABOVE_RIGHTWARDS_ARROW aLEFTWARDS_ARROW_THROUGH_SUBSET",
    "aSUPERSET_ABOVE_LEFTWARDS_ARROW aLEFT_FISH_TAIL aRIGHT_FISH_TAIL aUP_FISH_TAIL",
    "aDOWN_FISH_TAIL aTRIPLE_VERTICAL_BAR_DELIMITER aZ_NOTATION_SPOT lTYPE_COLON",
    "aLEFT_WHITE_CURLY_BRACKET aRIGHT_WHITE_CURLY_BRACKET aLEFT_WHITE_PARENTHESIS",
    "aRIGHT_WHITE_PARENTHESIS aZ_NOTATION_LEFT_IMAGE_BRACKET lRIGHT_IMAGE_BRACKET",
    "lLEFT_BINDING_BRACKET lRIGHT_BINDING_BRACKET aLEFT_SQUARE_BRACKET_WITH_UNDERBAR",
    "aRIGHT_SQUARE_BRACKET_WITH_UNDERBAR aLEFT_SQUARE_BRACKET_WITH_TICK_IN_TOP_CORNER",
    "aRIGHT_SQUARE_BRACKET_WITH_TICK_IN_BOTTOM_CORNER",
    "aLEFT_SQUARE_BRACKET_WITH_TICK_IN_BOTTOM_CORNER",
    "aRIGHT_SQUARE_BRACKET_WITH_TICK_IN_TOP_CORNER aLEFT_ANGLE_BRACKET_WITH_DOT",
    "aRIGHT_ANGLE_BRACKET_WITH_DOT aLEFT_ARC_LESS-THAN_BRACKET aRIGHT_ARC_GREATER-THAN_BRACKET",
    "aDOUBLE_LEFT_ARC_GREATER-THAN_BRACKET hRIGHT_ARC_LESS-THAN_BRACKET",
    "aLEFT_BLACK_TORTOISE_SHELL_BRACKET aRIGHT_BLACK_TORTOISE_SHELL_BRACKET aDOTTED_FENCE",
    "aVERTICAL_ZIGZAG_LINE aMEASURED_ANGLE_OPENING_LEFT aRIGHT_ANGLE_VARIANT_WITH_SQUARE",
    "aMEASURED_RIGHT_ANGLE_WITH_DOT aANGLE_WITH_S_INSIDE bCUTE_ANGLE",
    "aSPHERICAL_ANGLE_OPENING_LEFT yUP aTURNED_ANGLE aREVERSED_ANGLE aANGLE_WITH_UNDERBAR",
    "aREVERSED_ANGLE_WITH_UNDERBAR aOBLIQUE_ANGLE_OPENING_UP wDOWN",
    "aMEASURED_ANGLE_WITH_OPEN_ARM_ENDING_IN_ARROW_POINTING_UP_AND_RIGHT cjLEFT ccDOWN_AND_RIGHT",
    "clLEFT ccRIGHT_AND_UP ccLEFT_AND_UP ccRIGHT_AND_DOWN ccLEFT_AND_DOWN aREVERSED_EMPTY_SET",
    "aEMPTY_SET_WITH_OVERBAR pSMALL_CIRCLE_ABOVE pRIGHT_ARROW_ABOVE pLEFT_ARROW_ABOVE",
    "aCIRCLE_WITH_HORIZONTAL_BAR gD_VERTICAL_BAR iPARALLEL iREVERSE_SOLIDUS iPERPENDICULAR",
    "g_DIVIDED_BY_HORIZONTAL_BAR_AND_TOP_HALF_DIVIDED_BY_VERTICAL_BAR hWITH_SUPERIMPOSED_X",
    "gD_ANTICLOCKWISE-ROTATED_DIVISION_SIGN aUP_ARROW_THROUGH_CIRCLE aCIRCLED_WHITE_BULLET",
    "iBULLET iLESS-THAN iGREATER-THAN g_WITH_SMALL_CIRCLE_TO_THE_RIGHT",
    "mTWO_HORIZONTAL_STROKES_TO_THE_RIGHT aSQUARED_RISING_DIAGONAL_SLASH iFALLING_DIAGONAL_SLASH",
    "iASTERISK iSMALL_CIRCLE jQUARE aTWO_JOINED_SQUARES bRIANGLE_WITH_DOT_ABOVE oUNDERBAR",
    "aS_IN_TRIANGLE aTRIANGLE_WITH_SERIFS_AT_BOTTOM aRIGHT_TRIANGLE_ABOVE_LEFT_TRIANGLE",
    "aLEFT_TRIANGLE_BESIDE_VERTICAL_BAR aVERTICAL_BAR_BESIDE_RIGHT_TRIANGLE",
    "aBOWTIE_WITH_LEFT_HALF_BLACK mRIGHT_HALF_BLACK bLACK_BOWTIE aTIMES_WITH_LEFT_HALF_BLACK",
    "lRIGHT_HALF_BLACK aWHITE_HOURGLASS aBLACK_HOURGLASS aLEFT_WIGGLY_FENCE aRIGHT_WIGGLY_FENCE",
    "aLEFT_DOUBLE_WIGGLY_FENCE aRIGHT_DOUBLE_WIGGLY_FENCE aINCOMPLETE_INFINITY",
    "aTIE_OVER_INFINITY aINFINITY_NEGATED_WITH_VERTICAL_BAR aDOUBLE-ENDED_MULTIMAP",
    "aSQUARE_WITH_CONTOURED_OUTLINE aINCREASES_AS aSHUFFLE_PRODUCT",
    "aEQUALS_SIGN_AND_SLANTED_PARALLEL bg_WITH_TILDE_ABOVE aIDENTICAL_TO_AND_SLANTED_PARALLEL",
    "aGLEICH_STARK aTHERMODYNAMIC aDOWN-POINTING_TRIANGLE_WITH_LEFT_HALF_BLACK",
    "bcRIGHT_HALF_BLACK aBLACK_DIAMOND_WITH_DOWN_ARROW gLOZENGE aWHITE_CIRCLE_WITH_DOWN_ARROW",
    "aBLACK_CIRCLE_WITH_DOWN_ARROW aERROR-BARRED_WHITE_SQUARE nBLACK_SQUARE nWHITE_DIAMOND",
    "nBLACK_DIAMOND nWHITE_CIRCLE nBLACK_CIRCLE aRULE-DELAYED bEVERSE_SOLIDUS_OPERATOR",
    "aSOLIDUS_WITH_OVERBAR aREVERSE_SOLIDUS_WITH_HORIZONTAL_STROKE aBIG_SOLIDUS eREVERSE_SOLIDUS",
    "aDOUBLE_PLUS aTRIPLE_PLUS aLEFT-POINTING_CURVED_ANGLE_BRACKET",
    "aRIGHT-POINTING_CURVED_ANGLE_BRACKET aTINY aMINY aN-ARY_CIRCLED_DOT_OPERATOR oPLUS_OPERATOR",
    "oTIMES_OPERATOR gUNION_OPERATOR_WITH_DOT baPLUS gSQUARE_INTERSECTION_OPERATOR",
    "nUNION_OPERATOR aTWO_LOGICAL_AND_OPERATOR mOR_OPERATOR aN-ARY_TIMES_OPERATOR",
    "aMODULO_TWO_SUM aSUMMATION_WITH_INTEGRAL aQUADRUPLE_INTEGRAL_OPERATOR aFINITE_PART_INTEGRAL",
    "aINTEGRAL_WITH_DOUBLE_STROKE jAVERAGE_WITH_SLASH aCIRCULATION_FUNCTION",
    "aANTICLOCKWISE_INTEGRATION aLINE_INTEGRATION_WITH_RECTANGULAR_PATH_AROUND_POLE",
    "wSEMICIRCULAR_PATH_AROUND_POLE rNOT_INCLUDING_THE_POLE aINTEGRAL_AROUND_A_POINT_OPERATOR",
    "aQUATERNION_INTEGRAL_OPERATOR aINTEGRAL_WITH_LEFTWARDS_ARROW_WITH_HOOK oTIMES_SIGN",
    "oINTERSECTION oUNION oOVERBAR oUNDERBAR aJOIN aLARGE_LEFT_TRIANGLE_OPERATOR",
    "aZ_NOTATION_SCHEMA_COMPOSITION sPIPING tROJECTION aPLUS_SIGN_WITH_SMALL_CIRCLE_ABOVE",
    "pCIRCUMFLEX_ACCENT_ABOVE pTILDE_ABOVE pDOT_BELOW pTILDE_BELOW pSUBSCRIPT_TWO",
    "pBLACK_TRIANGLE aMINUS_SIGN_WITH_COMMA_ABOVE qDOT_BELOW qFALLING_DOTS qRISING_DOTS",
    "aPLUS_SIGN_IN_LEFT_HALF_CIRCLE nRIGHT_HALF_CIRCLE aVECTOR_OR_CROSS_PRODUCT",
    "aMULTIPLICATION_SIGN_WITH_DOT_ABOVE zUNDERBAR aSEMIDIRECT_PRODUCT_WITH_BOTTOM_CLOSED",
    "bMASH_PRODUCT aMULTIPLICATION_SIGN_IN_LEFT_HALF_CIRCLE xRIGHT_HALF_CIRCLE",
    "aCIRCLED_MULTIPLICATION_SIGN_WITH_CIRCUMFLEX_ACCENT aMULTIPLICATION_SIGN_IN_DOUBLE_CIRCLE",
    "aCIRCLED_DIVISION_SIGN aPLUS_SIGN_IN_TRIANGLE aMINUS_SIGN_IN_TRIANGLE",
    "bULTIPLICATION_SIGN_IN_TRIANGLE aINTERIOR_PRODUCT aRIGHTHAND_INTERIOR_PRODUCT",
    "aZ_NOTATION_RELATIONAL_COMPOSITION aAMALGAMATION_OR_COPRODUCT aINTERSECTION_WITH_DOT",
    "aUNION_WITH_MINUS_SIGN lOVERBAR aINTERSECTION_WITH_OVERBAR sLOGICAL_AND",
    "aUNION_WITH_LOGICAL_OR gABOVE_INTERSECTION aINTERSECTION_ABOVE_UNION",
    "aUNION_ABOVE_BAR_ABOVE_INTERSECTION aINTERSECTION_ABOVE_BAR_ABOVE_UNION",
    "aUNION_BESIDE_AND_JOINED_WITH_UNION aINTERSECTION_BESIDE_AND_JOINED_WITH_INTERSECTION",
    "aCLOSED_UNION_WITH_SERIFS hINTERSECTION_WITH_SERIFS aDOUBLE_SQUARE_INTERSECTION oUNION",
    "aCLOSED_UNION_WITH_SERIFS_AND_SMASH_PRODUCT aLOGICAL_AND_WITH_DOT_ABOVE iOR_WITH_DOT_ABOVE",
    "aDOUBLE_LOGICAL_AND pOR aTWO_INTERSECTING_LOGICAL_AND zOR aSLOPING_LARGE_OR oAND",
    "aLOGICAL_OR_OVERLAPPING_LOGICAL_AND iAND_WITH_MIDDLE_STEM iOR_WITH_MIDDLE_STEM",
    "iAND_WITH_HORIZONTAL_DASH iOR_WITH_HORIZONTAL_DASH iAND_WITH_DOUBLE_OVERBAR rUNDERBAR",
    "rDOUBLE_UNDERBAR aSMALL_VEE_WITH_UNDERBAR aLOGICAL_OR_WITH_DOUBLE_OVERBAR xUNDERBAR",
    "aZ_NOTATION_DOMAIN_ANTIRESTRICTION lRANGE_ANTIRESTRICTION aEQUALS_SIGN_WITH_DOT_BELOW",
    "aIDENTICAL_WITH_DOT_ABOVE aTRIPLE_HORIZONTAL_BAR_WITH_DOUBLE_VERTICAL_STROKE",
    "bbTRIPLE_VERTICAL_STROKE bILDE_OPERATOR_WITH_DOT_ABOVE uRISING_DOTS aSIMILAR_MINUS_SIMILAR",
    "aCONGRUENT_WITH_DOT_ABOVE aEQUALS_WITH_ASTERISK aALMOST_EQUAL_TO_WITH_CIRCUMFLEX_ACCENT",
    "bPPROXIMATELY_EQUAL_OR_EQUAL_TO aEQUALS_SIGN_ABOVE_PLUS_SIGN aPLUS_SIGN_ABOVE_EQUALS_SIGN",
    "aEQUALS_SIGN_ABOVE_TILDE_OPERATOR aDOUBLE_COLON_EQUAL aTWO_CONSECUTIVE_EQUALS_SIGNS",
    "bHREE_CONSECUTIVE_EQUALS_SIGNS aEQUALS_SIGN_WITH_TWO_DOTS_ABOVE_AND_TWO_DOTS_BELOW",
    "dIVALENT_WITH_FOUR_DOTS_ABOVE aLESS-THAN_WITH_CIRCLE_INSIDE",
    "aGREATER-THAN_WITH_CIRCLE_INSIDE aLESS-THAN_WITH_QUESTION_MARK_ABOVE",
    "aGREATER-THAN_WITH_QUESTION_MARK_ABOVE aLESS-THAN_OR_SLANTED_EQUAL_TO",
    "aGREATER-THAN_OR_SLANTED_EQUAL_TO aLESS-THAN_OR_SLANTED_EQUAL_TO_WITH_DOT_INSIDE",
    "aGREATER-THAN_OR_SLANTED_EQUAL_TO_WITH_DOT_INSIDE",
    "aLESS-THAN_OR_SLANTED_EQUAL_TO_WITH_DOT_ABOVE",
    "aGREATER-THAN_OR_SLANTED_EQUAL_TO_WITH_DOT_ABOVE",
    "aLESS-THAN_OR_SLANTED_EQUAL_TO_WITH_DOT_ABOVE_RIGHT",
    "aGREATER-THAN_OR_SLANTED_EQUAL_TO_WITH_DOT_ABOVE_LEFT aLESS-THAN_OR_APPROXIMATE",
    "aGREATER-THAN_OR_APPROXIMATE aLESS-THAN_AND_SINGLE-LINE_NOT_EQUAL_TO",
    "aGREATER-THAN_AND_SINGLE-LINE_NOT_EQUAL_TO aLESS-THAN_AND_NOT_APPROXIMATE",
    "aGREATER-THAN_AND_NOT_APPROXIMATE aLESS-THAN_ABOVE_DOUBLE-LINE_EQUAL_ABOVE_GREATER-THAN",
    "aGREATER-THAN_ABOVE_DOUBLE-LINE_EQUAL_ABOVE_LESS-THAN aLESS-THAN_ABOVE_SIMILAR_OR_EQUAL",
    "aGREATER-THAN_ABOVE_SIMILAR_OR_EQUAL aLESS-THAN_ABOVE_SIMILAR_ABOVE_GREATER-THAN",
    "aGREATER-THAN_ABOVE_SIMILAR_ABOVE_LESS-THAN",
    "aLESS-THAN_ABOVE_GREATER-THAN_ABOVE_DOUBLE-LINE_EQUAL",
    "aGREATER-THAN_ABOVE_LESS-THAN_ABOVE_DOUBLE-LINE_EQUAL",
    "aLESS-THAN_ABOVE_SLANTED_EQUAL_ABOVE_GREATER-THAN_ABOVE_SLANTED_EQUAL",
    "aGREATER-THAN_ABOVE_SLANTED_EQUAL_ABOVE_LESS-THAN_ABOVE_SLANTED_EQUAL",
    "aSLANTED_EQUAL_TO_OR_LESS-THAN uGREATER-THAN uLESS-THAN_WITH_DOT_INSIDE",
    "uGREATER-THAN_WITH_DOT_INSIDE aDOUBLE-LINE_EQUAL_TO_OR_LESS-THAN yGREATER-THAN",
    "mSLANTED_EQUAL_TO_OR_LESS-THAN bgGREATER-THAN aSIMILAR_OR_LESS-THAN lGREATER-THAN",
    "iABOVE_LESS-THAN_ABOVE_EQUALS_SIGN oGREATER-THAN_ABOVE_EQUALS_SIGN aDOUBLE_NESTED_LESS-THAN",
    "oGREATER-THAN oLESS-THAN_WITH_UNDERBAR aGREATER-THAN_OVERLAPPING_LESS-THAN",
    "nBESIDE_LESS-THAN aLESS-THAN_CLOSED_BY_CURVE aGREATER-THAN_CLOSED_BY_CURVE",
    "aLESS-THAN_CLOSED_BY_CURVE_ABOVE_SLANTED_EQUAL",
    "aGREATER-THAN_CLOSED_BY_CURVE_ABOVE_SLANTED_EQUAL aSMALLER_THAN aLARGER_THAN",
    "aSMALLER_THAN_OR_EQUAL_TO aLARGER_THAN_OR_EQUAL_TO aEQUALS_SIGN_WITH_BUMPY_ABOVE",
    "aPRECEDES_ABOVE_SINGLE-LINE_EQUALS_SIGN aSUCCEEDS_ABOVE_SINGLE-LINE_EQUALS_SIGN",
    "aPRECEDES_ABOVE_SINGLE-LINE_NOT_EQUAL_TO aSUCCEEDS_ABOVE_SINGLE-LINE_NOT_EQUAL_TO",
    "aPRECEDES_ABOVE_EQUALS_SIGN aSUCCEEDS_ABOVE_EQUALS_SIGN aPRECEDES_ABOVE_NOT_EQUAL_TO",
    "aSUCCEEDS_ABOVE_NOT_EQUAL_TO aPRECEDES_ABOVE_ALMOST_EQUAL_TO",
    "aSUCCEEDS_ABOVE_ALMOST_EQUAL_TO aPRECEDES_ABOVE_NOT_ALMOST_EQUAL_TO",
    "aSUCCEEDS_ABOVE_NOT_ALMOST_EQUAL_TO aDOUBLE_PRECEDES hSUCCEEDS aSUBSET_WITH_DOT",
    "cPERSET_WITH_DOT cBSET_WITH_PLUS_SIGN_BELOW cPERSET_WITH_PLUS_SIGN_BELOW",
    "cBSET_WITH_MULTIPLICATION_SIGN_BELOW cPERSET_WITH_MULTIPLICATION_SIGN_BELOW",
    "cBSET_OF_OR_EQUAL_TO_WITH_DOT_ABOVE cPERSET_OF_OR_EQUAL_TO_WITH_DOT_ABOVE",
    "cBSET_OF_ABOVE_EQUALS_SIGN cPERSET_OF_ABOVE_EQUALS_SIGN cBSET_OF_ABOVE_TILDE_OPERATOR",
    "cPERSET_OF_ABOVE_TILDE_OPERATOR cBSET_OF_ABOVE_ALMOST_EQUAL_TO",
    "cPERSET_OF_ABOVE_ALMOST_EQUAL_TO cBSET_OF_ABOVE_NOT_EQUAL_TO cPERSET_OF_ABOVE_NOT_EQUAL_TO",
    "bQUARE_LEFT_OPEN_BOX_OPERATOR hRIGHT_OPEN_BOX_OPERATOR aCLOSED_SUBSET jPERSET",
    "jBSET_OR_EQUAL_TO jPERSET_OR_EQUAL_TO aSUBSET_ABOVE_SUPERSET cPERSET_ABOVE_SUBSET",
    "cBSET_ABOVE_SUBSET cPERSET_ABOVE_SUPERSET jBESIDE_SUBSET qAND_JOINED_BY_DASH_WITH_SUBSET",
    "aELEMENT_OF_OPENING_DOWNWARDS aPITCHFORK_WITH_TEE_TOP aTRANSVERSAL_INTERSECTION aFORKING",
    "aNONFORKING aSHORT_LEFT_TACK gDOWN_TACK gUP_TACK aPERPENDICULAR_WITH_S",
    "aVERTICAL_BAR_TRIPLE_RIGHT_TURNSTILE aDOUBLE_VERTICAL_BAR_LEFT_TURNSTILE",
    "aVERTICAL_BAR_DOUBLE_LEFT_TURNSTILE aDOUBLE_VERTICAL_BAR_DOUBLE_LEFT_TURNSTILE",
    "aLONG_DASH_FROM_LEFT_MEMBER_OF_DOUBLE_VERTICAL aSHORT_DOWN_TACK_WITH_OVERBAR",
    "gUP_TACK_WITH_UNDERBAR oABOVE_SHORT_DOWN_TACK aDOUBLE_DOWN_TACK hUP_TACK hSTROKE_NOT_SIGN",
    "aREVERSED_DOUBLE_STROKE_NOT_SIGN aDOES_NOT_DIVIDE_WITH_REVERSED_NEGATION_SLASH",
    "aVERTICAL_LINE_WITH_CIRCLE_ABOVE baBELOW aDOWN_TACK_WITH_CIRCLE_BELOW",
    "aPARALLEL_WITH_HORIZONTAL_STROKE oTILDE_OPERATOR aTRIPLE_VERTICAL_BAR_BINARY_RELATION",
    "uWITH_HORIZONTAL_STROKE hCOLON_OPERATOR hNESTED_LESS-THAN oGREATER-THAN",
    "aDOUBLE-LINE_SLANTED_LESS-THAN_OR_EQUAL_TO uGREATER-THAN_OR_EQUAL_TO",
    "aTRIPLE_SOLIDUS_BINARY_RELATION aLARGE_TRIPLE_VERTICAL_BAR_OPERATOR",
    "aDOUBLE_SOLIDUS_OPERATOR aWHITE_VERTICAL_BAR aN-ARY_WHITE_VERTICAL_BAR",
    "bORTH_EAST_WHITE_ARROW gWEST_WHITE_ARROW aSOUTH_EAST_WHITE_ARROW gWEST_WHITE_ARROW",
    "aLEFT_RIGHT_WHITE_ARROW eWARDS_BLACK_ARROW aUPWARDS_BLACK_ARROW aDOWNWARDS_BLACK_ARROW",
    "aNORTH_EAST_BLACK_ARROW gWEST_BLACK_ARROW aSOUTH_EAST_BLACK_ARROW gWEST_BLACK_ARROW",
    "aLEFT_RIGHT_BLACK_ARROW aUP_DOWN_BLACK_ARROW aRIGHTWARDS_ARROW_WITH_TIP_DOWNWARDS baUPWARDS",
    "aLEFTWARDS_ARROW_WITH_TIP_DOWNWARDS zUPWARDS aSQUARE_WITH_TOP_HALF_BLACK mBOTTOM_HALF_BLACK",
    "mUPPER_RIGHT_DIAGONAL_HALF_BLACK mLOWER_LEFT_DIAGONAL_HALF_BLACK",
    "aDIAMOND_WITH_LEFT_HALF_BLACK nRIGHT_HALF_BLACK nTOP_HALF_BLACK nBOTTOM_HALF_BLACK",
    "bOTTED_SQUARE aBLACK_LARGE_SQUARE aWHITE_LARGE_SQUARE aBLACK_VERY_SMALL_SQUARE",
    "aWHITE_VERY_SMALL_SQUARE aBLACK_PENTAGON aWHITE_PENTAGON gHEXAGON aBLACK_HEXAGON",
    "aHORIZONTAL_BLACK_HEXAGON aBLACK_LARGE_CIRCLE gMEDIUM_DIAMOND aWHITE_MEDIUM_DIAMOND",
    "aBLACK_MEDIUM_LOZENGE aWHITE_MEDIUM_LOZENGE aBLACK_SMALL_DIAMOND mLOZENGE",
    "aWHITE_SMALL_LOZENGE aBLACK_HORIZONTAL_ELLIPSE aWHITE_HORIZONTAL_ELLIPSE",
    "aBLACK_VERTICAL_ELLIPSE aWHITE_VERTICAL_ELLIPSE aLEFT_ARROW_WITH_SMALL_CIRCLE",
    "aTHREE_LEFTWARDS_ARROWS aLEFT_ARROW_WITH_CIRCLED_PLUS bONG_LEFTWARDS_SQUIGGLE_ARROW",
    "bEFTWARDS_TWO-HEADED_ARROW_WITH_VERTICAL_STROKE bgDOUBLE_VERTICAL_STROKE bbFROM_BAR",
    "vTRIPLE_DASH_ARROW kARROW_WITH_DOTTED_STEM vTAIL_WITH_VERTICAL_STROKE",
    "bfDOUBLE_VERTICAL_STROKE kTWO-HEADED_ARROW_WITH_TAIL bk_WITH_VERTICAL_STROKE",
    "bqDOUBLE_VERTICAL_STROKE kARROW_THROUGH_X aWAVE_ARROW_POINTING_DIRECTLY_LEFT",
    "aEQUALS_SIGN_ABOVE_LEFTWARDS_ARROW aREVERSE_TILDE_OPERATOR_ABOVE_LEFTWARDS_ARROW",
    "aLEFTWARDS_ARROW_ABOVE_REVERSE_ALMOST_EQUAL_TO aRIGHTWARDS_ARROW_THROUGH_GREATER-THAN",
    "zSUPERSET aLEFTWARDS_QUADRUPLE_ARROW aRIGHTWARDS_QUADRUPLE_ARROW",
    "bEVERSE_TILDE_OPERATOR_ABOVE_RIGHTWARDS_ARROW",
    "bIGHTWARDS_ARROW_ABOVE_REVERSE_ALMOST_EQUAL_TO aTILDE_OPERATOR_ABOVE_LEFTWARDS_ARROW",
    "aLEFTWARDS_ARROW_ABOVE_ALMOST_EQUAL_TO wREVERSE_TILDE_OPERATOR",
    "aRIGHTWARDS_ARROW_ABOVE_REVERSE_TILDE_OPERATOR aDOWNWARDS_TRIANGLE-HEADED_ZIGZAG_ARROW",
    "aSHORT_SLANTED_NORTH_ARROW gBACKSLANTED_SOUTH_ARROW aWHITE_MEDIUM_STAR aBLACK_SMALL_STAR",
    "aWHITE_SMALL_STAR aBLACK_RIGHT-POINTING_PENTAGON aWHITE_RIGHT-POINTING_PENTAGON",
    "aHEAVY_LARGE_CIRCLE gOVAL_WITH_OVAL_INSIDE gCIRCLE_WITH_CIRCLE_INSIDE m mD_SALTIRE",
    "aSLANTED_NORTH_ARROW_WITH_HOOKED_HEAD aBACKSLANTED_SOUTH_ARROW_WITH_HOOKED_TAIL",
    "aSLANTED_NORTH_ARROW_WITH_HORIZONTAL_TAIL aBACKSLANTED_SOUTH_ARROW_WITH_HORIZONTAL_TAIL",
    "bENT_ARROW_POINTING_DOWNWARDS_THEN_NORTH_EAST",
    "aSHORT_BENT_ARROW_POINTING_DOWNWARDS_THEN_NORTH_EAST aLEFTWARDS_TRIANGLE-HEADED_ARROW",
    "aUPWARDS_TRIANGLE-HEADED_ARROW aRIGHTWARDS_TRIANGLE-HEADED_ARROW",
    "aDOWNWARDS_TRIANGLE-HEADED_ARROW aLEFT_RIGHT_TRIANGLE-HEADED_ARROW",
    "aUP_DOWN_TRIANGLE-HEADED_ARROW aNORTH_WEST_TRIANGLE-HEADED_ARROW",
    "gEAST_TRIANGLE-HEADED_ARROW aSOUTH_EAST_TRIANGLE-HEADED_ARROW gWEST_TRIANGLE-HEADED_ARROW",
    "aLEFTWARDS_TRIANGLE-HEADED_DASHED_ARROW aUPWARDS_TRIANGLE-HEADED_DASHED_ARROW",
    "aRIGHTWARDS_TRIANGLE-HEADED_DASHED_ARROW aDOWNWARDS_TRIANGLE-HEADED_DASHED_ARROW",
    "aCLOCKWISE_TRIANGLE-HEADED_OPEN_CIRCLE_ARROW",
    "aANTICLOCKWISE_TRIANGLE-HEADED_OPEN_CIRCLE_ARROW aLEFTWARDS_TRIANGLE-HEADED_ARROW_TO_BAR",
    "aUPWARDS_TRIANGLE-HEADED_ARROW_TO_BAR aRIGHTWARDS_TRIANGLE-HEADED_ARROW_TO_BAR",
    "aDOWNWARDS_TRIANGLE-HEADED_ARROW_TO_BAR"]), (0x2B76, [
    "aNORTH_WEST_TRIANGLE-HEADED_ARROW_TO_BAR gEAST_TRIANGLE-HEADED_ARROW_TO_BAR",
    "aSOUTH_EAST_TRIANGLE-HEADED_ARROW_TO_BAR gWEST_TRIANGLE-HEADED_ARROW_TO_BAR",
    "aLEFTWARDS_TRIANGLE-HEADED_ARROW_WITH_DOUBLE_HORIZONTAL_STROKE",
    "aUPWARDS_TRIANGLE-HEADED_ARROW_WITH_DOUBLE_HORIZONTAL_STROKE",
    "aRIGHTWARDS_TRIANGLE-HEADED_ARROW_WITH_DOUBLE_HORIZONTAL_STROKE",
    "aDOWNWARDS_TRIANGLE-HEADED_ARROW_WITH_DOUBLE_HORIZONTAL_STROKE aHORIZONTAL_TAB_KEY",
    "aVERTICAL_TAB_KEY aLEFTWARDS_TRIANGLE-HEADED_ARROW_OVER_RIGHTWARDS_TRIANGLE-HEADED_ARROW",
    "aUPWARDS_TRIANGLE-HEADED_ARROW_LEFTWARDS_OF_DOWNWARDS_TRIANGLE-HEADED_ARROW",
    "aRIGHTWARDS_TRIANGLE-HEADED_ARROW_OVER_LEFTWARDS_TRIANGLE-HEADED_ARROW",
    "aDOWNWARDS_TRIANGLE-HEADED_ARROW_LEFTWARDS_OF_UPWARDS_TRIANGLE-HEADED_ARROW",
    "aLEFTWARDS_TRIANGLE-HEADED_PAIRED_ARROWS aUPWARDS_TRIANGLE-HEADED_PAIRED_ARROWS",
    "aRIGHTWARDS_TRIANGLE-HEADED_PAIRED_ARROWS aDOWNWARDS_TRIANGLE-HEADED_PAIRED_ARROWS",
    "aLEFTWARDS_BLACK_CIRCLED_WHITE_ARROW aUPWARDS_BLACK_CIRCLED_WHITE_ARROW",
    "aRIGHTWARDS_BLACK_CIRCLED_WHITE_ARROW aDOWNWARDS_BLACK_CIRCLED_WHITE_ARROW",
    "aANTICLOCKWISE_TRIANGLE-HEADED_RIGHT_U-SHAPED_ARROW beBOTTOM_U-SHAPED_ARROW",
    "beLEFT_U-SHAPED_ARROW beTOP_U-SHAPED_ARROW aRETURN_LEFT hRIGHT aNEWLINE_LEFT iRIGHT",
    "aFOUR_CORNER_ARROWS_CIRCLING_ANTICLOCKWISE aRIGHTWARDS_BLACK_ARROW"]),
  (0x2B97, ["aSYMBOL_FOR_TYPE_A_ELECTRONICS aTHREE-D_TOP-LIGHTED_LEFTWARDS_EQUILATERAL_ARROWHEAD",
    "iRIGHT-LIGHTED_UPWARDS_EQUILATERAL_ARROWHEAD iTOP-LIGHTED_RIGHTWARDS_EQUILATERAL_ARROWHEAD",
    "iLEFT-LIGHTED_DOWNWARDS_EQUILATERAL_ARROWHEAD aBLACK_LEFTWARDS_EQUILATERAL_ARROWHEAD",
    "gUPWARDS_EQUILATERAL_ARROWHEAD gRIGHTWARDS_EQUILATERAL_ARROWHEAD",
    "gDOWNWARDS_EQUILATERAL_ARROWHEAD aDOWNWARDS_TRIANGLE-HEADED_ARROW_WITH_LONG_TIP_LEFTWARDS",
    "buRIGHTWARDS aUPWARDS_TRIANGLE-HEADED_ARROW_WITH_LONG_TIP_LEFTWARDS bsRIGHTWARDS",
    "aLEFTWARDS_TRIANGLE-HEADED_ARROW_WITH_LONG_TIP_UPWARDS",
    "aRIGHTWARDS_TRIANGLE-HEADED_ARROW_WITH_LONG_TIP_UPWARDS",
    "aLEFTWARDS_TRIANGLE-HEADED_ARROW_WITH_LONG_TIP_DOWNWARDS",
    "aRIGHTWARDS_TRIANGLE-HEADED_ARROW_WITH_LONG_TIP_DOWNWARDS",
    "aBLACK_CURVED_DOWNWARDS_AND_LEFTWARDS_ARROW bbRIGHTWARDS_ARROW nUPWARDS_AND_LEFTWARDS_ARROW",
    "zRIGHTWARDS_ARROW nLEFTWARDS_AND_UPWARDS_ARROW nRIGHTWARDS_AND_UPWARDS_ARROW",
    "nLEFTWARDS_AND_DOWNWARDS_ARROW nRIGHTWARDS_AND_DOWNWARDS_ARROW aRIBBON_ARROW_DOWN_LEFT",
    "sRIGHT nUP_LEFT qRIGHT nLEFT_UP nRIGHT_UP nLEFT_DOWN nRIGHT_DOWN",
    "aUPWARDS_WHITE_ARROW_FROM_BAR_WITH_HORIZONTAL_BAR c_ARROWHEAD_IN_A_RECTANGLE_BOX",
    "aOVERLAPPING_WHITE_SQUARES sAND_BLACK_SQUARES mBLACK_SQUARES aBALLOT_BOX_WITH_LIGHT_X",
    "aCIRCLED_X iBOLD_X aBLACK_SQUARE_CENTRED gDIAMOND_CENTRED aTURNED_BLACK_PENTAGON",
    "aHORIZONTAL_BLACK_OCTAGON aBLACK_OCTAGON gMEDIUM_UP-POINTING_TRIANGLE_CENTRED",
    "nDOWN-POINTING_TRIANGLE_CENTRED nLEFT-POINTING_TRIANGLE_CENTRED",
    "nRIGHT-POINTING_TRIANGLE_CENTRED aNEPTUNE_FORM_TWO aTOP_HALF_BLACK_CIRCLE",
    "aBOTTOM_HALF_BLACK_CIRCLE aLIGHT_FOUR_POINTED_BLACK_CUSP",
    "aROTATED_LIGHT_FOUR_POINTED_BLACK_CUSP aWHITE_FOUR_POINTED_CUSP",
    "aROTATED_WHITE_FOUR_POINTED_CUSP aSQUARE_POSITION_INDICATOR aUNCERTAINTY_SIGN aGROUP_MARK",
    "aPLUTO_FORM_TWO mHREE lFOUR mIVE aTRANSPLUTO aPROSERPINA aASTRAEA aHYGIEA aPHOLUS aNESSUS",
    "aWHITE_MOON_SELENA aBLACK_DIAMOND_ON_CROSS aTRUE_LIGHT_MOON_ARTA aCUPIDO aHADES aZEUS",
    "aKRONOS aAPOLLON bDMETOS aVULCANUS aPOSEIDON aLEFT_HALF_BLACK_STAR aRIGHT_HALF_BLACK_STAR",
    "aSTAR_WITH_LEFT_HALF_BLACK kRIGHT_HALF_BLACK",
    "aLEFTWARDS_TWO-HEADED_ARROW_WITH_TRIANGLE_ARROWHEADS",
    "aUPWARDS_TWO-HEADED_ARROW_WITH_TRIANGLE_ARROWHEADS",
    "aRIGHTWARDS_TWO-HEADED_ARROW_WITH_TRIANGLE_ARROWHEADS",
    "aDOWNWARDS_TWO-HEADED_ARROW_WITH_TRIANGLE_ARROWHEADS aERIS_FORM_ONE kTWO aSEDNA",
    "aRUSSIAN_ASTROLOGICAL_SYMBOL_VIGINTILE bcNOVILE bcQUINTILE bcBINOVILE bcSENTAGON",
    "bcTREDECILE aEQUALS_SIGN_WITH_INFINITY_BELOW aUNITED_SYMBOL aSEPARATED_SYMBOL",
    "aDOUBLED_SYMBOL aPASSED_SYMBOL aREVERSED_RIGHT_ANGLE aHELLSCHREIBER_PAUSE_SYMBOL"])]

end TraceLens.CharacterName
