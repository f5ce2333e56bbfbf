/-!
# Names of characters from row 0x1E0 on

The names of the characters from row 0x1E0 to the last row, in runs without a gap: the first code
point, and the names in the form that `CharacterName` describes.
-/

namespace TraceLens.CharacterName

def row1E0 : List (Nat × List String) := [
  (0x1E000, ["aCOMBINING_GLAGOLITIC_LETTER_AZU bcBUKY bcVEDE bcGLAGOLI bcDOBRO bcYESTU bcZHIVETE"]),
  (0x1E008, ["aCOMBINING_GLAGOLITIC_LETTER_ZEMLJA bcIZHE bdNITIAL_IZHE bd bcDJERVI bcKAKO",
    "bcLJUDIJE bcMYSLITE bcNASHI bcONU bcPOKOJI bcRITSI bcSLOVO bcTVRIDO bcUKU bcFRITU bcHERU"]),
  (0x1E01B, ["aCOMBINING_GLAGOLITIC_LETTER_SHTA bcTSI bcCHRIVI bcSHA bcYERU bfI bdATI"]),
  (0x1E023, ["aCOMBINING_GLAGOLITIC_LETTER_YU bcSMALL_YUS"]), (0x1E026, [
    "aCOMBINING_GLAGOLITIC_LETTER_YO bcIOTATED_SMALL_YUS bcBIG_YUS bcIOTATED_BIG_YUS bcFITA"]),
  (0x1E100, ["aNYIAKENG_PUACHUE_HMONG_LETTER_MA beTSA beNTA beTA beHA beNA beXA beNKA beCA beLA",
    "beSA beZA beNCA bfTSA beKA beDA beNYA bfRA beVA beNTXA beTXA beFA beRA beQA beYA beNQA bePA",
    "beXYA beNPA beDLA beNPLA beHAH beMLA bePLA beGA beRRA beA bfA beI beU beO bfO beE bfE beW"]),
  (0x1E130, ["aNYIAKENG_PUACHUE_HMONG_TONE-B bcM bcJ bcV bcS bcG bcD xSIGN_FOR_PERSON bgTHING",
    "bgLOCATION bgANIMAL bgINVERTEBRATE bcXW_XW yYLLABLE_LENGTHENER"]),
  (0x1E140, ["aNYIAKENG_PUACHUE_HMONG_DIGIT_ZERO bdONE bdTWO beHREE bdFOUR beIVE bdSIX beEVEN",
    "bdEIGHT bdNINE"]), (0x1E14E, ["aNYIAKENG_PUACHUE_HMONG_LOGOGRAM_NYAJ xCIRCLED_CA"]),
  (0x1E290, ["aTOTO_LETTER_PA mBA mTA mDA mKA mGA mMA mNA nGA mSA mCHA mYA mWA mJA mHA mRA mLA",
    "mI mBREATHY_I mIU mBREATHY_IU mU mE mBREATHY_E mEO mBREATHY_EO mO mAE mBREATHY_AE mA",
    "fSIGN_RISING_TONE"]), (0x1E2C0, ["aWANCHO_LETTER_AA p oBA oCA oDA oGA oYA oPHA oLA oNA oPA",
    "oTA pHA oFA oSA pHA oJA oZA oWA oVA oKA oO oAU oRA oMA oKHA oHA oE oI oNGA oU oLLHA oTSA",
    "pRA oONG oAANG pNG oING oON oEN oAAN oNYA oUEN oYIH hTONE_TUP pNI mKOI pNI hDIGIT_ZERO nONE",
    "nTWO oHREE nFOUR oIVE nSIX oEVEN nEIGHT nNINE"]), (0x1E2FF, ["aWANCHO_NGUN_SIGN"]),
  (0x1E7E0, ["aETHIOPIC_SYLLABLE_HHYA vU vI vAA vEE w vO"]), (0x1E7E8, [
    "aETHIOPIC_SYLLABLE_GURAGE_HHWA sHHWI vEE w"]), (0x1E7ED, ["aETHIOPIC_SYLLABLE_GURAGE_MWI",
    "bbEE"]), (0x1E7F0, ["aETHIOPIC_SYLLABLE_GURAGE_QWI bbEE bc zBWI bbEE zKWI bbEE bc zGWI bbEE",
    "bc zFWI bbEE zPWI bbEE"]), (0x1E800, ["aMENDE_KIKAKUI_SYLLABLE_M001_KI ba2_KA ba3_KU",
    "z65_KEE z95_KE z76_KOO z48_KO y179_KUA y004_WI ba5_WA ba6_WU y126_WEE z18_WE ba4_WOO",
    "y045_WO y194_WUI z43_WEI y061_WVI z49_WVA y139_WVE y007_MIN ba8_MAN ba9_MUN z59_MEN z94_MON",
    "y154_MUAN z89_MUEN y010_BI ba1_BA ba2_BU y150_BEE y097_BE y103_BOO z38_BO y013_I ba4_A",
    "ba5_U y163_EE z00_E z65_OO z47_O z37_EI ba1_IN ba5_IN z95_AN z78_EN y019_SI z20_SA ba1_SU",
    "y162_SEE z16_SE z36_SOO y079_SO y196_SIA y025_LI ba6_LA ba7_LU z84_LEE z73_LE z54_LOO",
    "y153_LO z10_LONG_LE y016_DI ba7_DA ba8_DU z89_DEE y180_DOO ba1_DO y022_TI ba3_TA ba4_TU",
    "z91_TEE z55_TE y104_TOO y069_TO z28_JI ba9_JA z30_JU y157_JEE z13_JE z60_JOO y063_JO",
    "y175_LONG_JO y031_YI ba2_YA ba3_YU y109_YEE y080_YE y141_YOO z21_YO y034_FI ba5_FA ba6_FU",
    "z78_FEE ba5_FE y133_FOO y088_FO y197_FUA z01_FAN y037_NIN ba8_NAN ba9_NUN y117_NEN z69_NON",
    "z76_HI y041_HA y186_HU y040_HEE z96_HE z42_HOO y140_HO y083_HEEI y128_HOOU y053_HIN",
    "y130_HAN y087_HUN z52_HEN y193_HON y046_HUAN z90_NGGI z43_NGGA z82_NGGU y115_NGGEE z46_NGGE",
    "z56_NGGOO z20_NGGO z59_NGGAA z27_NGGUA y086_LONG_NGGE y106_LONG_NGGOO z83_LONG_NGGO z55_GI",
    "z11_GA z68_GU z90_GEE z66_GUEI ba7_GUAN z84_NGEN y057_NGON y177_NGUAN y068_PI z99_PA z50_PU",
    "z81_PEE z51_PE y102_POO y066_PO y145_MBI y062_MBA y122_MBU y047_MBEE y188_MBEE y072_MBE",
    "y172_MBOO ba4_MBO z87_MBUU z61_LONG_MBE z05_LONG_MBOO z42_LONG_MBO z32_KPI y092_KPA z74_KPU",
    "z44_KPEE y108_KPE z12_KPOO z58_KPO z24_GBI y056_GBA y148_GBU y093_GBEE y107_GBE y071_GBOO",
    "ba0_GBO y171_RA z23_NDI ba9_NDA ba5_NDU z91_NDEE z19_NDE y067_NDOO ba4_NDO y152_NJA z92_NJU",
    "z49_NJEE z34_NJOO z82_VI ba5_VA z51_VU z73_VEE y085_VE y144_VOO y077_VO y164_NYIN y058_NYAN",
    "y170_NYUN y098_NYEN z60_NYON"]), (0x1E8C7, ["aMENDE_KIKAKUI_DIGIT_ONE uTWO vHREE uFOUR vIVE",
    "uSIX vEVEN uEIGHT uNINE oCOMBINING_NUMBER_TEENS bhNS bfHUNDREDS bfTHOUSANDS bgEN_THOUSANDS",
    "bfHUNDRED_THOUSANDS bfMILLIONS"]), (0x1E900, ["aADLAM_CAPITAL_LETTER_ALIF vDAALI vLAAM",
    "vMIIM vBA vSINNYIIYHE vPE vBHE vRA vE vFA vI vO vDHA vYHE vWAW vNUN vKAF vYA vU vJIIM vCHI",
    "vHA vQAAF vGA vNYA vTU vNHA vVA vKHA vGBE vZAL vKPO vSHA gSMALL_LETTER_ALIF tDAALI tLAAM",
    "tMIIM tBA tSINNYIIYHE tPE tBHE tRA tE tFA tI tO tDHA tYHE tWAW tNUN tKAF tYA tU tJIIM tCHI",
    "tHA tQAAF tGA tNYA tTU tNHA tVA tKHA tGBE tZAL tKPO tSHA gALIF_LENGTHENER gVOWEL_LENGTHENER",
    "gGEMINATION_MARK gHAMZA gCONSONANT_MODIFIER gGEMINATE_CONSONANT_MODIFIER gNUKTA",
    "hASALIZATION_MARK"]), (0x1E950, ["aADLAM_DIGIT_ZERO mONE mTWO nHREE mFOUR nIVE mSIX nEVEN",
    "mEIGHT mNINE"]), (0x1E95E, ["aADLAM_INITIAL_EXCLAMATION_MARK oQUESTION_MARK"]),
  (0x1EC71, ["aINDIC_SIYAQ_NUMBER_ONE tTWO uHREE tFOUR uIVE tSIX uEVEN tEIGHT tNINE tTEN uWENTY",
    "uHIRTY tFORTY uIFTY tSIXTY uEVENTY tEIGHTY tNINETY tONE_HUNDRED tTWO_HUNDRED uHREE_HUNDRED",
    "tFOUR_HUNDRED uIVE_HUNDRED tSIX_HUNDRED uEVEN_HUNDRED tEIGHT_HUNDRED tNINE_HUNDRED",
    "tONE_THOUSAND tTWO_THOUSAND uHREE_THOUSAND tFOUR_THOUSAND uIVE_THOUSAND tSIX_THOUSAND",
    "uEVEN_THOUSAND tEIGHT_THOUSAND tNINE_THOUSAND tTEN_THOUSAND uWENTY_THOUSAND uHIRTY_THOUSAND",
    "tFORTY_THOUSAND uIFTY_THOUSAND tSIXTY_THOUSAND uEVENTY_THOUSAND tEIGHTY_THOUSAND",
    "tNINETY_THOUSAND tLAKH xAN mLAKH_MARK mNUMBER_KAROR yAN tPREFIXED_ONE bcTWO bdHREE bcFOUR",
    "bdIVE bcSIX bdEVEN bcEIGHT bcNINE mPLACEHOLDER mFRACTION_ONE_QUARTER zHALF vTHREE_QUARTERS",
    "mRUPEE_MARK mNUMBER_ALTERNATE_ONE bdTWO beEN_THOUSAND mALTERNATE_LAKH_MARK"]),
  (0x1ED01, ["aOTTOMAN_SIYAQ_NUMBER_ONE vTWO wHREE vFOUR wIVE vSIX wEVEN vEIGHT vNINE vTEN",
    "wWENTY wHIRTY vFORTY wIFTY vSIXTY wEVENTY vEIGHTY vNINETY vONE_HUNDRED vTWO_HUNDRED",
    "wHREE_HUNDRED vFOUR_HUNDRED wIVE_HUNDRED vSIX_HUNDRED wEVEN_HUNDRED vEIGHT_HUNDRED",
    "vNINE_HUNDRED vONE_THOUSAND vTWO_THOUSAND wHREE_THOUSAND vFOUR_THOUSAND wIVE_THOUSAND",
    "vSIX_THOUSAND wEVEN_THOUSAND vEIGHT_THOUSAND vNINE_THOUSAND vTEN_THOUSAND wWENTY_THOUSAND",
    "wHIRTY_THOUSAND vFORTY_THOUSAND wIFTY_THOUSAND vSIXTY_THOUSAND wEVENTY_THOUSAND",
    "vEIGHTY_THOUSAND vNINETY_THOUSAND oMARRATAN oALTERNATE_NUMBER_TWO bgHREE bfFOUR bgIVE bfSIX",
    "bgEVEN bfEIGHT bfNINE bfTEN bfFOUR_HUNDRED bfSIX_HUNDRED bfTWO_THOUSAND bgEN_THOUSAND",
    "oFRACTION_ONE_HALF bbSIXTH"]), (0x1EE00, ["aARABIC_MATHEMATICAL_ALEF uBEH uJEEM uDAL"]),
  (0x1EE05, ["aARABIC_MATHEMATICAL_WAW uZAIN uHAH uTAH uYEH uKAF uLAM uMEEM uNOON uSEEN uAIN",
    "uFEH uSAD uQAF uREH uSHEEN uTEH vHEH uKHAH uTHAL uDAD uZAH uGHAIN uDOTLESS_BEH bcNOON bcFEH",
    "bcQAF"]), (0x1EE21, ["aARABIC_MATHEMATICAL_INITIAL_BEH bcJEEM"]),
  (0x1EE24, ["aARABIC_MATHEMATICAL_INITIAL_HEH"]), (0x1EE27, ["aARABIC_MATHEMATICAL_INITIAL_HAH"]),
  (0x1EE29, ["aARABIC_MATHEMATICAL_INITIAL_YEH bcKAF bcLAM bcMEEM bcNOON bcSEEN bcAIN bcFEH",
    "bcSAD bcQAF"]), (0x1EE34, ["aARABIC_MATHEMATICAL_INITIAL_SHEEN bcTEH bdHEH bcKHAH"]),
  (0x1EE39, ["aARABIC_MATHEMATICAL_INITIAL_DAD"]), (0x1EE3B, [
    "aARABIC_MATHEMATICAL_INITIAL_GHAIN"]), (0x1EE42, ["aARABIC_MATHEMATICAL_TAILED_JEEM"]),
  (0x1EE47, ["aARABIC_MATHEMATICAL_TAILED_HAH"]), (0x1EE49, ["aARABIC_MATHEMATICAL_TAILED_YEH"]),
  (0x1EE4B, ["aARABIC_MATHEMATICAL_TAILED_LAM"]), (0x1EE4D, ["aARABIC_MATHEMATICAL_TAILED_NOON",
    "bbSEEN bbAIN"]), (0x1EE51, ["aARABIC_MATHEMATICAL_TAILED_SAD bbQAF"]),
  (0x1EE54, ["aARABIC_MATHEMATICAL_TAILED_SHEEN"]), (0x1EE57, ["aARABIC_MATHEMATICAL_TAILED_KHAH"]),
  (0x1EE59, ["aARABIC_MATHEMATICAL_TAILED_DAD"]), (0x1EE5B, ["aARABIC_MATHEMATICAL_TAILED_GHAIN"]),
  (0x1EE5D, ["aARABIC_MATHEMATICAL_TAILED_DOTLESS_NOON"]), (0x1EE5F, [
    "aARABIC_MATHEMATICAL_TAILED_DOTLESS_QAF"]), (0x1EE61, ["aARABIC_MATHEMATICAL_STRETCHED_BEH",
    "beJEEM"]), (0x1EE64, ["aARABIC_MATHEMATICAL_STRETCHED_HEH"]), (0x1EE67, [
    "aARABIC_MATHEMATICAL_STRETCHED_HAH beTAH beYEH beKAF"]), (0x1EE6C, [
    "aARABIC_MATHEMATICAL_STRETCHED_MEEM beNOON beSEEN beAIN beFEH beSAD beQAF"]),
  (0x1EE74, ["aARABIC_MATHEMATICAL_STRETCHED_SHEEN beTEH bfHEH beKHAH"]),
  (0x1EE79, ["aARABIC_MATHEMATICAL_STRETCHED_DAD beZAH beGHAIN beDOTLESS_BEH"]),
  (0x1EE7E, ["aARABIC_MATHEMATICAL_STRETCHED_DOTLESS_FEH"]), (0x1EE80, [
    "aARABIC_MATHEMATICAL_LOOPED_ALEF bbBEH bbJEEM bbDAL bbHEH bbWAW bbZAIN bbHAH bbTAH bbYEH"]),
  (0x1EE8B, ["aARABIC_MATHEMATICAL_LOOPED_LAM bbMEEM bbNOON bbSEEN bbAIN bbFEH bbSAD bbQAF bbREH",
    "bbSHEEN bbTEH bcHEH bbKHAH bbTHAL bbDAD bbZAH bbGHAIN"]), (0x1EEA1, [
    "aARABIC_MATHEMATICAL_DOUBLE-STRUCK_BEH biJEEM biDAL"]), (0x1EEA5, [
    "aARABIC_MATHEMATICAL_DOUBLE-STRUCK_WAW biZAIN biHAH biTAH biYEH"]),
  (0x1EEAB, ["aARABIC_MATHEMATICAL_DOUBLE-STRUCK_LAM biMEEM biNOON biSEEN biAIN biFEH biSAD",
    "biQAF biREH biSHEEN biTEH bjHEH biKHAH biTHAL biDAD biZAH biGHAIN"]),
  (0x1EEF0, ["aARABIC_MATHEMATICAL_OPERATOR_MEEM_WITH_HAH_WITH_TATWEEL bdHAH_WITH_DAL"]),
  (0x1F000, ["aMAHJONG_TILE_EAST_WIND nSOUTH_WIND nWEST_WIND nNORTH_WIND nRED_DRAGON",
    "nGREEN_DRAGON nWHITE_DRAGON nONE_OF_CHARACTERS nTWO_OF_CHARACTERS oHREE_OF_CHARACTERS",
    "nFOUR_OF_CHARACTERS oIVE_OF_CHARACTERS nSIX_OF_CHARACTERS oEVEN_OF_CHARACTERS",
    "nEIGHT_OF_CHARACTERS nNINE_OF_CHARACTERS nONE_OF_BAMBOOS nTWO_OF_BAMBOOS oHREE_OF_BAMBOOS",
    "nFOUR_OF_BAMBOOS oIVE_OF_BAMBOOS nSIX_OF_BAMBOOS oEVEN_OF_BAMBOOS nEIGHT_OF_BAMBOOS",
    "nNINE_OF_BAMBOOS nONE_OF_CIRCLES nTWO_OF_CIRCLES oHREE_OF_CIRCLES nFOUR_OF_CIRCLES",
    "oIVE_OF_CIRCLES nSIX_OF_CIRCLES oEVEN_OF_CIRCLES nEIGHT_OF_CIRCLES nNINE_OF_CIRCLES nPLUM",
    "nORCHID nBAMBOO nCHRYSANTHEMUM nSPRING oUMMER nAUTUMN nWINTER nJOKER nBACK"]),
  (0x1F030, ["aDOMINO_TILE_HORIZONTAL_BACK w-00-00 bb1 bb2 bb3 bb4 bb5 bb6 y1-00 bb1 bb2 bb3 bb4",
    "bb5 bb6 y2-00 bb1 bb2 bb3 bb4 bb5 bb6 y3-00 bb1 bb2 bb3 bb4 bb5 bb6 y4-00 bb1 bb2 bb3 bb4",
    "bb5 bb6 y5-00 bb1 bb2 bb3 bb4 bb5 bb6 y6-00 bb1 bb2 bb3 bb4 bb5 bb6 mVERTICAL_BACK u-00-00",
    "z1 z2 z3 z4 z5 z6 w1-00 z1 z2 z3 z4 z5 z6 w2-00 z1 z2 z3 z4 z5 z6 w3-00 z1 z2 z3 z4 z5 z6",
    "w4-00 z1 z2 z3 z4 z5 z6 w5-00 z1 z2 z3 z4 z5 z6 w6-00 z1 z2 z3 z4 z5 z6"]),
  (0x1F0A0, ["aPLAYING_CARD_BACK nACE_OF_SPADES nTWO_OF_SPADES oHREE_OF_SPADES nFOUR_OF_SPADES",
    "oIVE_OF_SPADES nSIX_OF_SPADES oEVEN_OF_SPADES nEIGHT_OF_SPADES nNINE_OF_SPADES",
    "nTEN_OF_SPADES nJACK_OF_SPADES nKNIGHT_OF_SPADES nQUEEN_OF_SPADES nKING_OF_SPADES"]),
  (0x1F0B1, ["aPLAYING_CARD_ACE_OF_HEARTS nTWO_OF_HEARTS oHREE_OF_HEARTS nFOUR_OF_HEARTS",
    "oIVE_OF_HEARTS nSIX_OF_HEARTS oEVEN_OF_HEARTS nEIGHT_OF_HEARTS nNINE_OF_HEARTS",
    "nTEN_OF_HEARTS nJACK_OF_HEARTS nKNIGHT_OF_HEARTS nQUEEN_OF_HEARTS nKING_OF_HEARTS",
    "nRED_JOKER"]), (0x1F0C1, ["aPLAYING_CARD_ACE_OF_DIAMONDS nTWO_OF_DIAMONDS oHREE_OF_DIAMONDS",
    "nFOUR_OF_DIAMONDS oIVE_OF_DIAMONDS nSIX_OF_DIAMONDS oEVEN_OF_DIAMONDS nEIGHT_OF_DIAMONDS",
    "nNINE_OF_DIAMONDS nTEN_OF_DIAMONDS nJACK_OF_DIAMONDS nKNIGHT_OF_DIAMONDS nQUEEN_OF_DIAMONDS",
    "nKING_OF_DIAMONDS nBLACK_JOKER"]), (0x1F0D1, ["aPLAYING_CARD_ACE_OF_CLUBS nTWO_OF_CLUBS",
    "oHREE_OF_CLUBS nFOUR_OF_CLUBS oIVE_OF_CLUBS nSIX_OF_CLUBS oEVEN_OF_CLUBS nEIGHT_OF_CLUBS",
    "nNINE_OF_CLUBS nTEN_OF_CLUBS nJACK_OF_CLUBS nKNIGHT_OF_CLUBS nQUEEN_OF_CLUBS nKING_OF_CLUBS",
    "nWHITE_JOKER nFOOL nTRUMP-1 t2 t3 t4 t5 t6 t7 t8 t9 t10 u1 u2 u3 u4 u5 u6 u7 u8 u9 t20 u1"]),
  (0x1F100, ["aDIGIT_ZERO_FULL_STOP lCOMMA gONE_COMMA gTWO_COMMA hHREE_COMMA gFOUR_COMMA",
    "hIVE_COMMA gSIX_COMMA hEVEN_COMMA gEIGHT_COMMA gNINE_COMMA",
    "cNGBAT_CIRCLED_SANS-SERIF_DIGIT_ZERO iNEGATIVE_CIRCLED_SANS-SERIF_DIGIT_ZERO",
    "aCIRCLED_ZERO_WITH_SLASH iANTICLOCKWISE_ARROW iDOLLAR_SIGN_WITH_OVERLAID_BACKSLASH",
    "aPARENTHESIZED_LATIN_CAPITAL_LETTER_A bjB bjC bjD bjE bjF bjG bjH bjI bjJ bjK bjL bjM bjN",
    "bjO bjP bjQ bjR bjS bjT bjU bjV bjW bjX bjY bjZ",
    "aTORTOISE_SHELL_BRACKETED_LATIN_CAPITAL_LETTER_S aCIRCLED_ITALIC_LATIN_CAPITAL_LETTER_C bkR",
    "iCD iWZ bOPYLEFT_SYMBOL aSQUARED_LATIN_CAPITAL_LETTER_A bdB bdC bdD bdE bdF bdG bdH bdI bdJ",
    "bdK bdL bdM bdN bdO bdP bdQ bdR bdS bdT bdU bdV bdW bdX bdY bdZ iHV iMV iSD jS iPPV iWC",
    "aNEGATIVE_CIRCLED_LATIN_CAPITAL_LETTER_A bmB bmC bmD bmE bmF bmG bmH bmI bmJ bmK bmL bmM",
    "bmN bmO bmP bmQ bmR bmS bmT bmU bmV bmW bmX bmY bmZ aRAISED_MC_SIGN iD_SIGN iR_SIGN",
    "aCIRCLED_CC j_WITH_OVERLAID_BACKSLASH iHUMAN_FIGURE",
    "aNEGATIVE_SQUARED_LATIN_CAPITAL_LETTER_A bmB bmC bmD bmE bmF bmG bmH bmI bmJ bmK bmL bmM",
    "bmN bmO bmP bmQ bmR bmS bmT bmU bmV bmW bmX bmY bmZ",
    "aCROSSED_NEGATIVE_SQUARED_LATIN_CAPITAL_LETTER_P aNEGATIVE_SQUARED_IC rPA rSA rAB rWC",
    "aSQUARE_DJ gD_CL jOOL iFREE iID iNEW jG iOK iSOS iUP_WITH_EXCLAMATION_MARK iVS iTHREE_D",
    "iSECOND_SCREEN iTWO_K iFOUR_K iEIGHT_K iFIVE_POINT_ONE iSEVEN_POINT_ONE",
    "iTWENTY-TWO_POINT_TWO iSIXTY_P iONE_HUNDRED_TWENTY_P iLATIN_SMALL_LETTER_D iHC jDR jI-RES",
    "iLOSSLESS iSHV iUHD iVOD aMASK_WORK_SYMBOL"]), (0x1F1E6, [
    "aREGIONAL_INDICATOR_SYMBOL_LETTER_A bhB bhC bhD bhE bhF bhG bhH bhI bhJ bhK bhL bhM bhN bhO",
    "bhP bhQ bhR bhS bhT bhU bhV bhW bhX bhY bhZ aSQUARE_HIRAGANA_HOKA gD_KATAKANA_KOKO rSA"]),
  (0x1F210, ["aSQUARED_CJK_UNIFIED_IDEOGRAPH-624B be5B57 bf3CC iKATAKANA_DE",
    "iCJK_UNIFIED_IDEOGRAPH-4E8C be591A be89E3 be5929 be4EA4 be6620 be7121 be6599 be524D bfF8C",
    "bf18D be65B0 be521D be7D42 bf51F be8CA9 be58F0 bf439 be6F14 bf295 bf355 be4E00 bh9 be904A",
    "be5DE6 be4E2D be53F3 be6307 be8D70 be6253 be7981 bfA7A be5408 be6E80 bf709 bh8 be7533",
    "be5272 bf5B6 be914D"]), (0x1F240, ["aTORTOISE_SHELL_BRACKETED_CJK_UNIFIED_IDEOGRAPH-672C",
    "bv4E09 bx8C bv5B89 bv70B9 bv6253 bv76D7 bv52DD bv6557"]), (0x1F250, [
    "aCIRCLED_IDEOGRAPH_ADVANTAGE tCCEPT"]), (0x1F260, ["aROUNDED_SYMBOL_FOR_FU tLU tSHOU tXI",
    "tSHUANGXI tCAI"]), (0x1F300, ["aCYCLONE aFOGGY aCLOSED_UMBRELLA aNIGHT_WITH_STARS",
    "aSUNRISE_OVER_MOUNTAINS h aCITYSCAPE_AT_DUSK aSUNSET_OVER_BUILDINGS aRAINBOW",
    "aBRIDGE_AT_NIGHT aWATER_WAVE aVOLCANO aMILKY_WAY aEARTH_GLOBE_EUROPE-AFRICA mAMERICAS",
    "nSIA-AUSTRALIA aGLOBE_WITH_MERIDIANS aNEW_MOON_SYMBOL aWAXING_CRESCENT_MOON_SYMBOL",
    "aFIRST_QUARTER_MOON_SYMBOL aWAXING_GIBBOUS_MOON_SYMBOL aFULL_MOON_SYMBOL",
    "aWANING_GIBBOUS_MOON_SYMBOL aLAST_QUARTER_MOON_SYMBOL aWANING_CRESCENT_MOON_SYMBOL",
    "aCRESCENT_MOON aNEW_MOON_WITH_FACE aFIRST_QUARTER_MOON_WITH_FACE",
    "aLAST_QUARTER_MOON_WITH_FACE aFULL_MOON_WITH_FACE aSUN_WITH_FACE aGLOWING_STAR",
    "aSHOOTING_STAR aTHERMOMETER aBLACK_DROPLET aWHITE_SUN j_WITH_SMALL_CLOUD kBEHIND_CLOUD",
    "w_WITH_RAIN aCLOUD_WITH_RAIN lSNOW lLIGHTNING lTORNADO aFOG aWIND_BLOWING_FACE aHOT_DOG",
    "aTACO aBURRITO aCHESTNUT aSEEDLING aEVERGREEN_TREE aDECIDUOUS_TREE aPALM_TREE aCACTUS",
    "aHOT_PEPPER aTULIP aCHERRY_BLOSSOM aROSE aHIBISCUS aSUNFLOWER aBLOSSOM aEAR_OF_MAIZE hRICE",
    "aHERB aFOUR_LEAF_CLOVER aMAPLE_LEAF aFALLEN_LEAF aLEAF_FLUTTERING_IN_WIND aMUSHROOM aTOMATO",
    "aAUBERGINE aGRAPES aMELON aWATERMELON aTANGERINE aLEMON aBANANA aPINEAPPLE aRED_APPLE",
    "aGREEN_APPLE aPEAR dCH aCHERRIES aSTRAWBERRY aHAMBURGER aSLICE_OF_PIZZA aMEAT_ON_BONE",
    "aPOULTRY_LEG aRICE_CRACKER fBALL aCOOKED_RICE bURRY_AND_RICE aSTEAMING_BOWL bPAGHETTI",
    "aBREAD aFRENCH_FRIES aROASTED_SWEET_POTATO aDANGO aODEN aSUSHI aFRIED_SHRIMP",
    "bISH_CAKE_WITH_SWIRL_DESIGN aSOFT_ICE_CREAM bHAVED_ICE aICE_CREAM aDOUGHNUT aCOOKIE",
    "bHOCOLATE_BAR bANDY aLOLLIPOP aCUSTARD aHONEY_POT aSHORTCAKE aBENTO_BOX aPOT_OF_FOOD",
    "aCOOKING aFORK_AND_KNIFE aTEACUP_WITHOUT_HANDLE aSAKE_BOTTLE_AND_CUP aWINE_GLASS",
    "aCOCKTAIL_GLASS aTROPICAL_DRINK aBEER_MUG aCLINKING_BEER_MUGS aBABY_BOTTLE",
    "aFORK_AND_KNIFE_WITH_PLATE aBOTTLE_WITH_POPPING_CORK aPOPCORN aRIBBON aWRAPPED_PRESENT",
    "aBIRTHDAY_CAKE aJACK-O-LANTERN aCHRISTMAS_TREE aFATHER_CHRISTMAS bIREWORKS i_SPARKLER",
    "aBALLOON aPARTY_POPPER aCONFETTI_BALL aTANABATA_TREE aCROSSED_FLAGS aPINE_DECORATION",
    "aJAPANESE_DOLLS aCARP_STREAMER aWIND_CHIME aMOON_VIEWING_CEREMONY aSCHOOL_SATCHEL",
    "aGRADUATION_CAP aHEART_WITH_TIP_ON_THE_LEFT aBOUQUET_OF_FLOWERS aMILITARY_MEDAL",
    "aREMINDER_RIBBON aMUSICAL_KEYBOARD_WITH_JACKS aSTUDIO_MICROPHONE aLEVEL_SLIDER",
    "aCONTROL_KNOBS aBEAMED_ASCENDING_MUSICAL_NOTES hDESCENDING_MUSICAL_NOTES aFILM_FRAMES",
    "aADMISSION_TICKETS aCAROUSEL_HORSE aFERRIS_WHEEL aROLLER_COASTER aFISHING_POLE_AND_FISH",
    "aMICROPHONE bOVIE_CAMERA aCINEMA aHEADPHONE aARTIST_PALETTE aTOP_HAT aCIRCUS_TENT aTICKET",
    "aCLAPPER_BOARD aPERFORMING_ARTS aVIDEO_GAME aDIRECT_HIT aSLOT_MACHINE aBILLIARDS aGAME_DIE",
    "aBOWLING aFLOWER_PLAYING_CARDS aMUSICAL_NOTE cLTIPLE_MUSICAL_NOTES aSAXOPHONE aGUITAR",
    "aMUSICAL_KEYBOARD aTRUMPET aVIOLIN aMUSICAL_SCORE aRUNNING_SHIRT_WITH_SASH",
    "aTENNIS_RACQUET_AND_BALL aSKI_AND_SKI_BOOT aBASKETBALL_AND_HOOP aCHEQUERED_FLAG",
    "aSNOWBOARDER aRUNNER aSURFER bPORTS_MEDAL aTROPHY aHORSE_RACING aAMERICAN_FOOTBALL",
    "aRUGBY_FOOTBALL aSWIMMER aWEIGHT_LIFTER aGOLFER aRACING_MOTORCYCLE hCAR",
    "aCRICKET_BAT_AND_BALL aVOLLEYBALL aFIELD_HOCKEY_STICK_AND_BALL aICE_HOCKEY_STICK_AND_PUCK",
    "aTABLE_TENNIS_PADDLE_AND_BALL aSNOW_CAPPED_MOUNTAIN aCAMPING aBEACH_WITH_UMBRELLA",
    "bUILDING_CONSTRUCTION aHOUSE_BUILDINGS aCITYSCAPE aDERELICT_HOUSE_BUILDING",
    "aCLASSICAL_BUILDING aDESERT g_ISLAND aNATIONAL_PARK aSTADIUM aHOUSE_BUILDING gWITH_GARDEN",
    "aOFFICE_BUILDING aJAPANESE_POST_OFFICE aEUROPEAN_POST_OFFICE aHOSPITAL aBANK",
    "aAUTOMATED_TELLER_MACHINE aHOTEL aLOVE_HOTEL aCONVENIENCE_STORE aSCHOOL aDEPARTMENT_STORE",
    "aFACTORY aIZAKAYA_LANTERN aJAPANESE_CASTLE aEUROPEAN_CASTLE aWHITE_PENNANT aBLACK_PENNANT",
    "aWAVING_WHITE_FLAG hBLACK_FLAG aROSETTE aBLACK_ROSETTE aLABEL",
    "aBADMINTON_RACQUET_AND_SHUTTLECOCK bOW_AND_ARROW aAMPHORA",
    "aEMOJI_MODIFIER_FITZPATRICK_TYPE-1-2 bg3 bg4 bg5 bg6 aRAT aMOUSE aOX aWATER_BUFFALO aCOW",
    "aTIGER aLEOPARD aRABBIT aCAT aDRAGON aCROCODILE aWHALE aSNAIL dKE aHORSE aRAM aGOAT aSHEEP",
    "aMONKEY aROOSTER aCHICKEN aDOG aPIG aBOAR aELEPHANT aOCTOPUS aSPIRAL_SHELL aBUG aANT",
    "aHONEYBEE aLADY_BEETLE aFISH aTROPICAL_FISH aBLOWFISH aTURTLE aHATCHING_CHICK aBABY_CHICK",
    "aFRONT-FACING_BABY_CHICK aBIRD aPENGUIN aKOALA aPOODLE aDROMEDARY_CAMEL aBACTRIAN_CAMEL",
    "aDOLPHIN aMOUSE_FACE aCOW_FACE aTIGER_FACE aRABBIT_FACE aCAT_FACE aDRAGON_FACE",
    "aSPOUTING_WHALE aHORSE_FACE aMONKEY_FACE aDOG_FACE aPIG_FACE aFROG_FACE aHAMSTER_FACE",
    "aWOLF_FACE aBEAR_FACE aPANDA_FACE bIG_NOSE bAW_PRINTS aCHIPMUNK aEYES d bAR aNOSE aMOUTH",
    "aTONGUE aWHITE_UP_POINTING_BACKHAND_INDEX gDOWN_POINTING_BACKHAND_INDEX",
    "gLEFT_POINTING_BACKHAND_INDEX gRIGHT_POINTING_BACKHAND_INDEX aFISTED_HAND_SIGN",
    "aWAVING_HAND_SIGN aOK_HAND_SIGN aTHUMBS_UP_SIGN hDOWN_SIGN aCLAPPING_HANDS_SIGN",
    "aOPEN_HANDS_SIGN aCROWN aWOMANS_HAT aEYEGLASSES aNECKTIE aT-SHIRT aJEANS aDRESS aKIMONO",
    "aBIKINI aWOMANS_CLOTHES aPURSE aHANDBAG aPOUCH aMANS_SHOE aATHLETIC_SHOE aHIGH-HEELED_SHOE",
    "aWOMANS_SANDAL hBOOTS aFOOTPRINTS aBUST_IN_SILHOUETTE eS_IN_SILHOUETTE bOY aGIRL aMAN",
    "aWOMAN aFAMILY aMAN_AND_WOMAN_HOLDING_HANDS aTWO_MEN_HOLDING_HANDS eWOMEN_HOLDING_HANDS",
    "aPOLICE_OFFICER aWOMAN_WITH_BUNNY_EARS aBRIDE_WITH_VEIL aPERSON_WITH_BLOND_HAIR",
    "aMAN_WITH_GUA_PI_MAO jTURBAN aOLDER_MAN gWOMAN aBABY aCONSTRUCTION_WORKER aPRINCESS",
    "aJAPANESE_OGRE jGOBLIN aGHOST aBABY_ANGEL aEXTRATERRESTRIAL_ALIEN aALIEN_MONSTER aIMP",
    "aSKULL aINFORMATION_DESK_PERSON aGUARDSMAN aDANCER aLIPSTICK aNAIL_POLISH aFACE_MASSAGE",
    "aHAIRCUT aBARBER_POLE aSYRINGE aPILL aKISS_MARK aLOVE_LETTER aRING aGEM_STONE aKISS",
    "aBOUQUET aCOUPLE_WITH_HEART aWEDDING aBEATING_HEART bROKEN_HEART aTWO_HEARTS",
    "aSPARKLING_HEART aGROWING_HEART aHEART_WITH_ARROW aBLUE_HEART aGREEN_HEART aYELLOW_HEART",
    "aPURPLE_HEART aHEART_WITH_RIBBON aREVOLVING_HEARTS aHEART_DECORATION",
    "aDIAMOND_SHAPE_WITH_A_DOT_INSIDE aELECTRIC_LIGHT_BULB aANGER_SYMBOL aBOMB aSLEEPING_SYMBOL",
    "aCOLLISION_SYMBOL aSPLASHING_SWEAT_SYMBOL aDROPLET bASH_SYMBOL aPILE_OF_POO aFLEXED_BICEPS",
    "aDIZZY_SYMBOL aSPEECH_BALLOON aTHOUGHT_BALLOON aWHITE_FLOWER aHUNDRED_POINTS_SYMBOL",
    "aMONEY_BAG aCURRENCY_EXCHANGE aHEAVY_DOLLAR_SIGN aCREDIT_CARD aBANKNOTE_WITH_YEN_SIGN",
    "oDOLLAR_SIGN oEURO_SIGN oPOUND_SIGN aMONEY_WITH_WINGS",
    "aCHART_WITH_UPWARDS_TREND_AND_YEN_SIGN aSEAT aPERSONAL_COMPUTER aBRIEFCASE aMINIDISC",
    "aFLOPPY_DISK aOPTICAL_DISC aDVD aFILE_FOLDER aOPEN_FILE_FOLDER aPAGE_WITH_CURL fFACING_UP",
    "aCALENDAR aTEAR-OFF_CALENDAR aCARD_INDEX bHART_WITH_UPWARDS_TREND lDOWNWARDS_TREND",
    "aBAR_CHART aCLIPBOARD aPUSHPIN aROUND_PUSHPIN aPAPERCLIP aSTRAIGHT_RULER aTRIANGULAR_RULER",
    "aBOOKMARK_TABS aLEDGER aNOTEBOOK i_WITH_DECORATIVE_COVER aCLOSED_BOOK aOPEN_BOOK",
    "aGREEN_BOOK aBLUE_BOOK aORANGE_BOOK aBOOKS aNAME_BADGE aSCROLL aMEMO aTELEPHONE_RECEIVER",
    "aPAGER aFAX_MACHINE aSATELLITE_ANTENNA aPUBLIC_ADDRESS_LOUDSPEAKER aCHEERING_MEGAPHONE",
    "aOUTBOX_TRAY aINBOX_TRAY aPACKAGE aE-MAIL_SYMBOL aINCOMING_ENVELOPE",
    "aENVELOPE_WITH_DOWNWARDS_ARROW_ABOVE aCLOSED_MAILBOX_WITH_LOWERED_FLAG uRAISED_FLAG",
    "aOPEN_MAILBOX_WITH_RAISED_FLAG sLOWERED_FLAG aPOSTBOX eAL_HORN aNEWSPAPER aMOBILE_PHONE",
    "m_WITH_RIGHTWARDS_ARROW_AT_LEFT aVIBRATION_MODE aMOBILE_PHONE_OFF aNO_MOBILE_PHONES",
    "aANTENNA_WITH_BARS aCAMERA g_WITH_FLASH aVIDEO_CAMERA aTELEVISION aRADIO aVIDEOCASSETTE",
    "aFILM_PROJECTOR aPORTABLE_STEREO bRAYER_BEADS aTWISTED_RIGHTWARDS_ARROWS",
    "aCLOCKWISE_RIGHTWARDS_AND_LEFTWARDS_OPEN_CIRCLE_ARROWS cb_WITH_CIRCLED_ONE_OVERLAY",
    "kDOWNWARDS_AND_UPWARDS_OPEN_CIRCLE_ARROWS",
    "aANTICLOCKWISE_DOWNWARDS_AND_UPWARDS_OPEN_CIRCLE_ARROWS aLOW_BRIGHTNESS_SYMBOL",
    "aHIGH_BRIGHTNESS_SYMBOL aSPEAKER_WITH_CANCELLATION_STROKE h h_WITH_ONE_SOUND_WAVE",
    "nTHREE_SOUND_WAVES aBATTERY aELECTRIC_PLUG aLEFT-POINTING_MAGNIFYING_GLASS",
    "aRIGHT-POINTING_MAGNIFYING_GLASS aLOCK_WITH_INK_PEN aCLOSED_LOCK_WITH_KEY aKEY aLOCK",
    "aOPEN_LOCK aBELL e_WITH_CANCELLATION_STROKE bOOKMARK aLINK_SYMBOL aRADIO_BUTTON",
    "aBACK_WITH_LEFTWARDS_ARROW_ABOVE aEND_WITH_LEFTWARDS_ARROW_ABOVE",
    "aON_WITH_EXCLAMATION_MARK_WITH_LEFT_RIGHT_ARROW_ABOVE aSOON_WITH_RIGHTWARDS_ARROW_ABOVE",
    "aTOP_WITH_UPWARDS_ARROW_ABOVE aNO_ONE_UNDER_EIGHTEEN_SYMBOL aKEYCAP_TEN",
    "aINPUT_SYMBOL_FOR_LATIN_CAPITAL_LETTERS xSMALL_LETTERS rNUMBERS rSYMBOLS rLATIN_LETTERS",
    "aFIRE aELECTRIC_TORCH aWRENCH aHAMMER aNUT_AND_BOLT aHOCHO aPISTOL aMICROSCOPE aTELESCOPE",
    "aCRYSTAL_BALL aSIX_POINTED_STAR_WITH_MIDDLE_DOT aJAPANESE_SYMBOL_FOR_BEGINNER",
    "aTRIDENT_EMBLEM aBLACK_SQUARE_BUTTON aWHITE_SQUARE_BUTTON aLARGE_RED_CIRCLE gBLUE_CIRCLE",
    "gORANGE_DIAMOND gBLUE_DIAMOND aSMALL_ORANGE_DIAMOND gBLUE_DIAMOND aUP-POINTING_RED_TRIANGLE",
    "aDOWN-POINTING_RED_TRIANGLE aUP-POINTING_SMALL_RED_TRIANGLE",
    "aDOWN-POINTING_SMALL_RED_TRIANGLE aLOWER_RIGHT_SHADOWED_WHITE_CIRCLE",
    "aUPPER_RIGHT_SHADOWED_WHITE_CIRCLE aCIRCLED_CROSS_POMMEE",
    "bROSS_POMMEE_WITH_HALF-CIRCLE_BELOW m aNOTCHED_LEFT_SEMICIRCLE_WITH_THREE_DOTS",
    "iRIGHT_SEMICIRCLE_WITH_THREE_DOTS aSYMBOL_FOR_MARKS_CHAPTER aWHITE_LATIN_CROSS",
    "aHEAVY_LATIN_CROSS aCELTIC_CROSS aOM_SYMBOL aDOVE_OF_PEACE aKAABA aMOSQUE aSYNAGOGUE",
    "aMENORAH_WITH_NINE_BRANCHES aBOWL_OF_HYGIEIA aCLOCK_FACE_ONE_OCLOCK lTWO_OCLOCK",
    "mHREE_OCLOCK lFOUR_OCLOCK mIVE_OCLOCK lSIX_OCLOCK mEVEN_OCLOCK lEIGHT_OCLOCK lNINE_OCLOCK",
    "lTEN_OCLOCK lELEVEN_OCLOCK lTWELVE_OCLOCK lONE-THIRTY lTWO-THIRTY mHREE-THIRTY lFOUR-THIRTY",
    "mIVE-THIRTY lSIX-THIRTY mEVEN-THIRTY lEIGHT-THIRTY lNINE-THIRTY lTEN-THIRTY lELEVEN-THIRTY",
    "lTWELVE-THIRTY aRIGHT_SPEAKER n_WITH_ONE_SOUND_WAVE tTHREE_SOUND_WAVES aBULLHORN",
    "i_WITH_SOUND_WAVES aRINGING_BELL aBOOK aCANDLE aMANTELPIECE_CLOCK",
    "aBLACK_SKULL_AND_CROSSBONES aNO_PIRACY aHOLE aMAN_IN_BUSINESS_SUIT_LEVITATING",
    "aSLEUTH_OR_SPY aDARK_SUNGLASSES aSPIDER g_WEB aJOYSTICK aMAN_DANCING",
    "aLEFT_HAND_TELEPHONE_RECEIVER aTELEPHONE_RECEIVER_WITH_PAGE aRIGHT_HAND_TELEPHONE_RECEIVER",
    "aWHITE_TOUCHTONE_TELEPHONE aBLACK_TOUCHTONE_TELEPHONE aTELEPHONE_ON_TOP_OF_MODEM",
    "aCLAMSHELL_MOBILE_PHONE aBACK_OF_ENVELOPE aSTAMPED_ENVELOPE aENVELOPE_WITH_LIGHTNING",
    "aFLYING_ENVELOPE aPEN_OVER_STAMPED_ENVELOPE aLINKED_PAPERCLIPS aBLACK_PUSHPIN",
    "aLOWER_LEFT_PENCIL lBALLPOINT_PEN lFOUNTAIN_PEN lPAINTBRUSH lCRAYON bEFT_WRITING_HAND",
    "aTURNED_OK_HAND_SIGN aRAISED_HAND_WITH_FINGERS_SPLAYED",
    "bEVERSED_RAISED_HAND_WITH_FINGERS_SPLAYED jTHUMBS_UP_SIGN qDOWN_SIGN jVICTORY_HAND",
    "jHAND_WITH_MIDDLE_FINGER_EXTENDED bAISED_HAND_WITH_PART_BETWEEN_MIDDLE_AND_RING_FINGERS",
    "aWHITE_DOWN_POINTING_LEFT_HAND_INDEX aSIDEWAYS_WHITE_LEFT_POINTING_INDEX",
    "pRIGHT_POINTING_INDEX jBLACK_LEFT_POINTING_INDEX pRIGHT_POINTING_INDEX",
    "aBLACK_LEFT_POINTING_BACKHAND_INDEX gRIGHT_POINTING_BACKHAND_INDEX",
    "aSIDEWAYS_WHITE_UP_POINTING_INDEX pDOWN_POINTING_INDEX jBLACK_UP_POINTING_INDEX",
    "pDOWN_POINTING_INDEX aBLACK_UP_POINTING_BACKHAND_INDEX gDOWN_POINTING_BACKHAND_INDEX gHEART",
    "aDESKTOP_COMPUTER aKEYBOARD_AND_MOUSE aTHREE_NETWORKED_COMPUTERS aPRINTER bOCKET_CALCULATOR",
    "aBLACK_HARD_SHELL_FLOPPY_DISK aWHITE_HARD_SHELL_FLOPPY_DISK aSOFT_SHELL_FLOPPY_DISK",
    "aTAPE_CARTRIDGE aWIRED_KEYBOARD aONE_BUTTON_MOUSE aTWO_BUTTON_MOUSE bHREE_BUTTON_MOUSE",
    "bRACKBALL aOLD_PERSONAL_COMPUTER aHARD_DISK aSCREEN aPRINTER_ICON aFAX_ICON",
    "aOPTICAL_DISC_ICON aDOCUMENT_WITH_TEXT s_AND_PICTURE oPICTURE aFRAME_WITH_PICTURE lTILES",
    "lAN_X aBLACK_FOLDER aFOLDER aOPEN_FOLDER aCARD_INDEX_DIVIDERS fFILE_BOX aFILE_CABINET",
    "aEMPTY_NOTE k_PAGE nD aNOTE e_PAGE hD aEMPTY_DOCUMENT gPAGE kS aDOCUMENT aPAGE eS",
    "aWASTEBASKET aSPIRAL_NOTE_PAD hCALENDAR_PAD aDESKTOP_WINDOW aMINIMIZE bAXIMIZE aOVERLAP",
    "aCLOCKWISE_RIGHT_AND_LEFT_SEMICIRCLE_ARROWS bANCELLATION_X aINCREASE_FONT_SIZE_SYMBOL",
    "aDECREASE_FONT_SIZE_SYMBOL aCOMPRESSION aOLD_KEY aROLLED-UP_NEWSPAPER",
    "aPAGE_WITH_CIRCLED_TEXT aSTOCK_CHART aDAGGER_KNIFE aLIPS aSPEAKING_HEAD_IN_SILHOUETTE",
    "aTHREE_RAYS_ABOVE lBELOW lLEFT lRIGHT aLEFT_SPEECH_BUBBLE aRIGHT_SPEECH_BUBBLE",
    "aTWO_SPEECH_BUBBLES bHREE_SPEECH_BUBBLES aLEFT_THOUGHT_BUBBLE aRIGHT_THOUGHT_BUBBLE",
    "aLEFT_ANGER_BUBBLE aRIGHT_ANGER_BUBBLE aMOOD_BUBBLE aLIGHTNING_MOOD_BUBBLE o",
    "aBALLOT_BOX_WITH_BALLOT hSCRIPT_X hBOX_WITH_SCRIPT_X jLD_SCRIPT_X jX_WITH_BOLD_SCRIPT_X",
    "aLIGHT_CHECK_MARK aBALLOT_BOX_WITH_BOLD_CHECK aWORLD_MAP aMOUNT_FUJI aTOKYO_TOWER",
    "aSTATUE_OF_LIBERTY bILHOUETTE_OF_JAPAN aMOYAI aGRINNING_FACE n_WITH_SMILING_EYES",
    "aFACE_WITH_TEARS_OF_JOY aSMILING_FACE_WITH_OPEN_MOUTH bc_AND_SMILING_EYES bhCOLD_SWEAT",
    "bhTIGHTLY-CLOSED_EYES sHALO tORNS aWINKING_FACE aSMILING_FACE_WITH_SMILING_EYES",
    "aFACE_SAVOURING_DELICIOUS_FOOD aRELIEVED_FACE aSMILING_FACE_WITH_HEART-SHAPED_EYES",
    "sSUNGLASSES dRKING_FACE aNEUTRAL_FACE aEXPRESSIONLESS_FACE aUNAMUSED_FACE",
    "aFACE_WITH_COLD_SWEAT aPENSIVE_FACE aCONFUSED_FACE eOUNDED_FACE aKISSING_FACE",
    "aFACE_THROWING_A_KISS aKISSING_FACE_WITH_SMILING_EYES sCLOSED_EYES",
    "aFACE_WITH_STUCK-OUT_TONGUE ba_AND_WINKING_EYE bfTIGHTLY-CLOSED_EYES aDISAPPOINTED_FACE",
    "aWORRIED_FACE aANGRY_FACE aPOUTING_FACE aCRYING_FACE aPERSEVERING_FACE",
    "aFACE_WITH_LOOK_OF_TRIUMPH aDISAPPOINTED_BUT_RELIEVED_FACE aFROWNING_FACE_WITH_OPEN_MOUTH",
    "aANGUISHED_FACE aFEARFUL_FACE aWEARY_FACE aSLEEPY_FACE aTIRED_FACE aGRIMACING_FACE",
    "aLOUDLY_CRYING_FACE aFACE_WITH_OPEN_MOUTH aHUSHED_FACE aFACE_WITH_OPEN_MOUTH_AND_COLD_SWEAT",
    "fSCREAMING_IN_FEAR aASTONISHED_FACE aFLUSHED_FACE aSLEEPING_FACE aDIZZY_FACE",
    "aFACE_WITHOUT_MOUTH j_MEDICAL_MASK aGRINNING_CAT_FACE_WITH_SMILING_EYES",
    "aCAT_FACE_WITH_TEARS_OF_JOY aSMILING_CAT_FACE_WITH_OPEN_MOUTH wHEART-SHAPED_EYES",
    "aCAT_FACE_WITH_WRY_SMILE aKISSING_CAT_FACE_WITH_CLOSED_EYES aPOUTING_CAT_FACE",
    "aCRYING_CAT_FACE aWEARY_CAT_FACE aSLIGHTLY_FROWNING_FACE jSMILING_FACE aUPSIDE-DOWN_FACE",
    "aFACE_WITH_ROLLING_EYES kNO_GOOD_GESTURE kOK_GESTURE aPERSON_BOWING_DEEPLY",
    "aSEE-NO-EVIL_MONKEY aHEAR-NO-EVIL_MONKEY aSPEAK-NO-EVIL_MONKEY",
    "aHAPPY_PERSON_RAISING_ONE_HAND aPERSON_RAISING_BOTH_HANDS_IN_CELEBRATION hFROWNING",
    "hWITH_POUTING_FACE mFOLDED_HANDS aNORTH_WEST_POINTING_LEAF aSOUTH_WEST_POINTING_LEAF",
    "aNORTH_EAST_POINTING_LEAF aSOUTH_EAST_POINTING_LEAF aTURNED_NORTH_WEST_POINTING_LEAF",
    "hSOUTH_WEST_POINTING_LEAF hNORTH_EAST_POINTING_LEAF hSOUTH_EAST_POINTING_LEAF",
    "aNORTH_WEST_POINTING_VINE_LEAF aSOUTH_WEST_POINTING_VINE_LEAF",
    "aNORTH_EAST_POINTING_VINE_LEAF aSOUTH_EAST_POINTING_VINE_LEAF",
    "aHEAVY_NORTH_WEST_POINTING_VINE_LEAF gSOUTH_WEST_POINTING_VINE_LEAF",
    "gNORTH_EAST_POINTING_VINE_LEAF gSOUTH_EAST_POINTING_VINE_LEAF aNORTH_WEST_POINTING_BUD",
    "aSOUTH_WEST_POINTING_BUD aNORTH_EAST_POINTING_BUD aSOUTH_EAST_POINTING_BUD",
    "aHEAVY_NORTH_WEST_POINTING_BUD gSOUTH_WEST_POINTING_BUD gNORTH_EAST_POINTING_BUD",
    "gSOUTH_EAST_POINTING_BUD bOLLOW_QUILT_SQUARE_ORNAMENT bc_IN_BLACK_SQUARE",
    "aSOLID_QUILT_SQUARE_ORNAMENT bb_IN_BLACK_SQUARE aLEFTWARDS_ROCKET aUPWARDS_ROCKET",
    "aRIGHTWARDS_ROCKET aDOWNWARDS_ROCKET aSCRIPT_LIGATURE_ET_ORNAMENT",
    "aHEAVY_SCRIPT_LIGATURE_ET_ORNAMENT aLIGATURE_OPEN_ET_ORNAMENT",
    "aHEAVY_LIGATURE_OPEN_ET_ORNAMENT gAMPERSAND_ORNAMENT aSWASH_AMPERSAND_ORNAMENT",
    "bANS-SERIF_HEAVY_DOUBLE_TURNED_COMMA_QUOTATION_MARK_ORNAMENT yCOMMA_QUOTATION_MARK_ORNAMENT",
    "rLOW_DOUBLE_COMMA_QUOTATION_MARK_ORNAMENT aHEAVY_INTERROBANG_ORNAMENT",
    "aSANS-SERIF_INTERROBANG_ORNAMENT aHEAVY_SANS-SERIF_INTERROBANG_ORNAMENT aVERY_HEAVY_SOLIDUS",
    "lREVERSE_SOLIDUS aCHECKER_BOARD aREVERSE_CHECKER_BOARD bOCKET aHELICOPTER aSTEAM_LOCOMOTIVE",
    "aRAILWAY_CAR aHIGH-SPEED_TRAIN q_WITH_BULLET_NOSE aTRAIN aMETRO aLIGHT_RAIL aSTATION aTRAM",
    "e_CAR aBUS aONCOMING_BUS aTROLLEYBUS aBUS_STOP aMINIBUS aAMBULANCE aFIRE_ENGINE aPOLICE_CAR",
    "aONCOMING_POLICE_CAR aTAXI aONCOMING_TAXI aAUTOMOBILE aONCOMING_AUTOMOBILE",
    "aRECREATIONAL_VEHICLE aDELIVERY_TRUCK aARTICULATED_LORRY aTRACTOR aMONORAIL cUNTAIN_RAILWAY",
    "aSUSPENSION_RAILWAY aMOUNTAIN_CABLEWAY aAERIAL_TRAMWAY aSHIP aROWBOAT aSPEEDBOAT",
    "aHORIZONTAL_TRAFFIC_LIGHT aVERTICAL_TRAFFIC_LIGHT aCONSTRUCTION_SIGN",
    "aPOLICE_CARS_REVOLVING_LIGHT aTRIANGULAR_FLAG_ON_POST aDOOR aNO_ENTRY_SIGN aSMOKING_SYMBOL",
    "aNO_SMOKING_SYMBOL aPUT_LITTER_IN_ITS_PLACE_SYMBOL aDO_NOT_LITTER_SYMBOL",
    "aPOTABLE_WATER_SYMBOL aNON-POTABLE_WATER_SYMBOL aBICYCLE aNO_BICYCLES aBICYCLIST",
    "aMOUNTAIN_BICYCLIST aPEDESTRIAN aNO_PEDESTRIANS aCHILDREN_CROSSING aMENS_SYMBOL",
    "aWOMENS_SYMBOL aRESTROOM aBABY_SYMBOL aTOILET aWATER_CLOSET aSHOWER aBATH eTUB",
    "aPASSPORT_CONTROL aCUSTOMS aBAGGAGE_CLAIM aLEFT_LUGGAGE aTRIANGLE_WITH_ROUNDED_CORNERS",
    "aPROHIBITED_SIGN aCIRCLED_INFORMATION_SOURCE aBOYS_SYMBOL aGIRLS_SYMBOL aCOUCH_AND_LAMP",
    "aSLEEPING_ACCOMMODATION bHOPPING_BAGS aBELLHOP_BELL cD aPLACE_OF_WORSHIP aOCTAGONAL_SIGN",
    "aSHOPPING_TROLLEY bTUPA aPAGODA aHINDU_TEMPLE bUT aELEVATOR"]), (0x1F6DD, [
    "aPLAYGROUND_SLIDE aWHEEL aRING_BUOY aHAMMER_AND_WRENCH aSHIELD aOIL_DRUM aMOTORWAY",
    "aRAILWAY_TRACK aMOTOR_BOAT aUP-POINTING_MILITARY_AIRPLANE mAIRPLANE mSMALL_AIRPLANE",
    "aSMALL_AIRPLANE aNORTHEAST-POINTING_AIRPLANE aAIRPLANE_DEPARTURE jARRIVING"]),
  (0x1F6F0, ["aSATELLITE aONCOMING_FIRE_ENGINE aDIESEL_LOCOMOTIVE aPASSENGER_SHIP aSCOOTER",
    "aMOTOR_SCOOTER aCANOE aSLED aFLYING_SAUCER aSKATEBOARD aAUTO_RICKSHAW aPICKUP_TRUCK",
    "aROLLER_SKATE"]), (0x1F700, ["aALCHEMICAL_SYMBOL_FOR_QUINTESSENCE wAIR wFIRE wEARTH wWATER",
    "wAQUAFORTIS ba_REGIA bg-2 bbVITAE bg-2 wVINEGAR bd-2 be3 wSULFUR wPHILOSOPHERS_SULFUR",
    "wBLACK_SULFUR wMERCURY_SUBLIMATE bn-2 bo3 wCINNABAR wSALT wNITRE wVITRIOL bd-2 wROCK_SALT",
    "bf-2 wGOLD wSILVER wIRON_ORE be-2 wCROCUS_OF_IRON wREGULUS_OF_IRON wCOPPER_ORE",
    "wIRON-COPPER_ORE wSUBLIMATE_OF_COPPER wCROCUS_OF_COPPER bm-2 xOPPER_ANTIMONIATE",
    "wSALT_OF_COPPER_ANTIMONIATE xUBLIMATE_OF_SALT_OF_COPPER wVERDIGRIS wTIN_ORE wLEAD_ORE",
    "wANTIMONY_ORE wSUBLIMATE_OF_ANTIMONY xALT_OF_ANTIMONY xUBLIMATE_OF_SALT_OF_ANTIMONY",
    "wVINEGAR_OF_ANTIMONY wREGULUS_OF_ANTIMONY bp-2 bd bd-2 be3 be4 wALKALI bc-2 wMARCASITE",
    "wSAL-AMMONIAC wARSENIC wREALGAR bd-2 wAURIPIGMENT wBISMUTH_ORE wTARTAR bc-2 wQUICK_LIME",
    "wBORAX bb-2 bc3 wALUM wOIL wSPIRIT wTINCTURE wGUM wWAX wPOWDER wCALX wTUTTY wCAPUT_MORTUUM",
    "wSCEPTER_OF_JOVE wCADUCEUS wTRIDENT wSTARRED_TRIDENT wLODESTONE wSOAP wURINE wHORSE_DUNG",
    "wASHES wPOT_ASHES wBRICK wPOWDERED_BRICK wAMALGAM wSTRATUM_SUPER_STRATUM br-2 xUBLIMATION",
    "wPRECIPITATE wDISTILL zSOLVE be-2 wPURIFY yTREFACTION wCRUCIBLE be-2 bf3 bf4 bf5 wALEMBIC",
    "wBATH_OF_MARY beVAPOURS wRETORT wHOUR wNIGHT wDAY-NIGHT wMONTH wHALF_DRAM bbOUNCE"]),
  (0x1F780, ["aBLACK_LEFT-POINTING_ISOSCELES_RIGHT_TRIANGLE",
    "gUP-POINTING_ISOSCELES_RIGHT_TRIANGLE gRIGHT-POINTING_ISOSCELES_RIGHT_TRIANGLE",
    "gDOWN-POINTING_ISOSCELES_RIGHT_TRIANGLE gSLIGHTLY_SMALL_CIRCLE aMEDIUM_BOLD_WHITE_CIRCLE",
    "aBOLD_WHITE_CIRCLE aHEAVY_WHITE_CIRCLE aVERY_HEAVY_WHITE_CIRCLE",
    "aEXTREMELY_HEAVY_WHITE_CIRCLE aWHITE_CIRCLE_CONTAINING_BLACK_SMALL_CIRCLE aROUND_TARGET",
    "aBLACK_TINY_SQUARE gSLIGHTLY_SMALL_SQUARE aLIGHT_WHITE_SQUARE aMEDIUM_WHITE_SQUARE",
    "aBOLD_WHITE_SQUARE aHEAVY_WHITE_SQUARE aVERY_HEAVY_WHITE_SQUARE",
    "aEXTREMELY_HEAVY_WHITE_SQUARE aWHITE_SQUARE_CONTAINING_BLACK_VERY_SMALL_SQUARE",
    "beMEDIUM_SQUARE aSQUARE_TARGET aBLACK_TINY_DIAMOND gVERY_SMALL_DIAMOND",
    "gMEDIUM_SMALL_DIAMOND aWHITE_DIAMOND_CONTAINING_BLACK_VERY_SMALL_DIAMOND bfMEDIUM_DIAMOND",
    "aDIAMOND_TARGET aBLACK_TINY_LOZENGE gVERY_SMALL_LOZENGE gMEDIUM_SMALL_LOZENGE",
    "aWHITE_LOZENGE_CONTAINING_BLACK_SMALL_LOZENGE aTHIN_GREEK_CROSS aLIGHT_GREEK_CROSS",
    "aMEDIUM_GREEK_CROSS aBOLD_GREEK_CROSS aVERY_BOLD_GREEK_CROSS fHEAVY_GREEK_CROSS",
    "aEXTREMELY_HEAVY_GREEK_CROSS aTHIN_SALTIRE aLIGHT_SALTIRE aMEDIUM_SALTIRE aBOLD_SALTIRE",
    "aHEAVY_SALTIRE aVERY_HEAVY_SALTIRE aEXTREMELY_HEAVY_SALTIRE aLIGHT_FIVE_SPOKED_ASTERISK",
    "aMEDIUM_FIVE_SPOKED_ASTERISK aBOLD_FIVE_SPOKED_ASTERISK aHEAVY_FIVE_SPOKED_ASTERISK",
    "aVERY_HEAVY_FIVE_SPOKED_ASTERISK aEXTREMELY_HEAVY_FIVE_SPOKED_ASTERISK",
    "aLIGHT_SIX_SPOKED_ASTERISK aMEDIUM_SIX_SPOKED_ASTERISK aBOLD_SIX_SPOKED_ASTERISK",
    "aHEAVY_SIX_SPOKED_ASTERISK aVERY_HEAVY_SIX_SPOKED_ASTERISK",
    "aEXTREMELY_HEAVY_SIX_SPOKED_ASTERISK aLIGHT_EIGHT_SPOKED_ASTERISK",
    "aMEDIUM_EIGHT_SPOKED_ASTERISK aBOLD_EIGHT_SPOKED_ASTERISK aHEAVY_EIGHT_SPOKED_ASTERISK",
    "aVERY_HEAVY_EIGHT_SPOKED_ASTERISK aLIGHT_THREE_POINTED_BLACK_STAR",
    "aMEDIUM_THREE_POINTED_BLACK_STAR aTHREE_POINTED_BLACK_STAR",
    "aMEDIUM_THREE_POINTED_PINWHEEL_STAR aLIGHT_FOUR_POINTED_BLACK_STAR",
    "aMEDIUM_FOUR_POINTED_BLACK_STAR aFOUR_POINTED_BLACK_STAR aMEDIUM_FOUR_POINTED_PINWHEEL_STAR",
    "aREVERSE_LIGHT_FOUR_POINTED_PINWHEEL_STAR aLIGHT_FIVE_POINTED_BLACK_STAR",
    "aHEAVY_FIVE_POINTED_BLACK_STAR aMEDIUM_SIX_POINTED_BLACK_STAR aHEAVY_SIX_POINTED_BLACK_STAR",
    "aSIX_POINTED_PINWHEEL_STAR aMEDIUM_EIGHT_POINTED_BLACK_STAR aHEAVY_EIGHT_POINTED_BLACK_STAR",
    "aVERY_HEAVY_EIGHT_POINTED_BLACK_STAR aHEAVY_EIGHT_POINTED_PINWHEEL_STAR",
    "aLIGHT_TWELVE_POINTED_BLACK_STAR aHEAVY_TWELVE_POINTED_BLACK_STAR vPINWHEEL_STAR",
    "aCIRCLED_TRIANGLE aNEGATIVE_CIRCLED_TRIANGLE aCIRCLED_SQUARE aNEGATIVE_CIRCLED_SQUARE"]),
  (0x1F7E0, ["aLARGE_ORANGE_CIRCLE gYELLOW_CIRCLE gGREEN_CIRCLE gPURPLE_CIRCLE gBROWN_CIRCLE",
    "gRED_SQUARE gBLUE_SQUARE gORANGE_SQUARE gYELLOW_SQUARE gGREEN_SQUARE gPURPLE_SQUARE",
    "gBROWN_SQUARE"]), (0x1F7F0, ["aHEAVY_EQUALS_SIGN"]), (0x1F800, [
    "aLEFTWARDS_ARROW_WITH_SMALL_TRIANGLE_ARROWHEAD aUPWARDS_ARROW_WITH_SMALL_TRIANGLE_ARROWHEAD",
    "aRIGHTWARDS_ARROW_WITH_SMALL_TRIANGLE_ARROWHEAD",
    "aDOWNWARDS_ARROW_WITH_SMALL_TRIANGLE_ARROWHEAD",
    "aLEFTWARDS_ARROW_WITH_MEDIUM_TRIANGLE_ARROWHEAD",
    "aUPWARDS_ARROW_WITH_MEDIUM_TRIANGLE_ARROWHEAD",
    "aRIGHTWARDS_ARROW_WITH_MEDIUM_TRIANGLE_ARROWHEAD",
    "aDOWNWARDS_ARROW_WITH_MEDIUM_TRIANGLE_ARROWHEAD",
    "aLEFTWARDS_ARROW_WITH_LARGE_TRIANGLE_ARROWHEAD aUPWARDS_ARROW_WITH_LARGE_TRIANGLE_ARROWHEAD",
    "aRIGHTWARDS_ARROW_WITH_LARGE_TRIANGLE_ARROWHEAD",
    "aDOWNWARDS_ARROW_WITH_LARGE_TRIANGLE_ARROWHEAD"]), (0x1F810, [
    "aLEFTWARDS_ARROW_WITH_SMALL_EQUILATERAL_ARROWHEAD",
    "aUPWARDS_ARROW_WITH_SMALL_EQUILATERAL_ARROWHEAD",
    "aRIGHTWARDS_ARROW_WITH_SMALL_EQUILATERAL_ARROWHEAD",
    "aDOWNWARDS_ARROW_WITH_SMALL_EQUILATERAL_ARROWHEAD",
    "aLEFTWARDS_ARROW_WITH_EQUILATERAL_ARROWHEAD aUPWARDS_ARROW_WITH_EQUILATERAL_ARROWHEAD",
    "aRIGHTWARDS_ARROW_WITH_EQUILATERAL_ARROWHEAD aDOWNWARDS_ARROW_WITH_EQUILATERAL_ARROWHEAD",
    "aHEAVY_LEFTWARDS_ARROW_WITH_EQUILATERAL_ARROWHEAD gUPWARDS_ARROW_WITH_EQUILATERAL_ARROWHEAD",
    "gRIGHTWARDS_ARROW_WITH_EQUILATERAL_ARROWHEAD gDOWNWARDS_ARROW_WITH_EQUILATERAL_ARROWHEAD",
    "gLEFTWARDS_ARROW_WITH_LARGE_EQUILATERAL_ARROWHEAD",
    "gUPWARDS_ARROW_WITH_LARGE_EQUILATERAL_ARROWHEAD",
    "gRIGHTWARDS_ARROW_WITH_LARGE_EQUILATERAL_ARROWHEAD",
    "gDOWNWARDS_ARROW_WITH_LARGE_EQUILATERAL_ARROWHEAD",
    "aLEFTWARDS_TRIANGLE-HEADED_ARROW_WITH_NARROW_SHAFT",
    "aUPWARDS_TRIANGLE-HEADED_ARROW_WITH_NARROW_SHAFT",
    "aRIGHTWARDS_TRIANGLE-HEADED_ARROW_WITH_NARROW_SHAFT",
    "aDOWNWARDS_TRIANGLE-HEADED_ARROW_WITH_NARROW_SHAFT",
    "aLEFTWARDS_TRIANGLE-HEADED_ARROW_WITH_MEDIUM_SHAFT",
    "aUPWARDS_TRIANGLE-HEADED_ARROW_WITH_MEDIUM_SHAFT",
    "aRIGHTWARDS_TRIANGLE-HEADED_ARROW_WITH_MEDIUM_SHAFT",
    "aDOWNWARDS_TRIANGLE-HEADED_ARROW_WITH_MEDIUM_SHAFT",
    "aLEFTWARDS_TRIANGLE-HEADED_ARROW_WITH_BOLD_SHAFT",
    "aUPWARDS_TRIANGLE-HEADED_ARROW_WITH_BOLD_SHAFT",
    "aRIGHTWARDS_TRIANGLE-HEADED_ARROW_WITH_BOLD_SHAFT",
    "aDOWNWARDS_TRIANGLE-HEADED_ARROW_WITH_BOLD_SHAFT",
    "aLEFTWARDS_TRIANGLE-HEADED_ARROW_WITH_HEAVY_SHAFT",
    "aUPWARDS_TRIANGLE-HEADED_ARROW_WITH_HEAVY_SHAFT",
    "aRIGHTWARDS_TRIANGLE-HEADED_ARROW_WITH_HEAVY_SHAFT",
    "aDOWNWARDS_TRIANGLE-HEADED_ARROW_WITH_HEAVY_SHAFT",
    "aLEFTWARDS_TRIANGLE-HEADED_ARROW_WITH_VERY_HEAVY_SHAFT",
    "aUPWARDS_TRIANGLE-HEADED_ARROW_WITH_VERY_HEAVY_SHAFT",
    "aRIGHTWARDS_TRIANGLE-HEADED_ARROW_WITH_VERY_HEAVY_SHAFT",
    "aDOWNWARDS_TRIANGLE-HEADED_ARROW_WITH_VERY_HEAVY_SHAFT aLEFTWARDS_FINGER-POST_ARROW",
    "aUPWARDS_FINGER-POST_ARROW aRIGHTWARDS_FINGER-POST_ARROW aDOWNWARDS_FINGER-POST_ARROW",
    "aLEFTWARDS_SQUARED_ARROW aUPWARDS_SQUARED_ARROW aRIGHTWARDS_SQUARED_ARROW",
    "aDOWNWARDS_SQUARED_ARROW aLEFTWARDS_COMPRESSED_ARROW aUPWARDS_COMPRESSED_ARROW",
    "aRIGHTWARDS_COMPRESSED_ARROW aDOWNWARDS_COMPRESSED_ARROW aLEFTWARDS_HEAVY_COMPRESSED_ARROW",
    "aUPWARDS_HEAVY_COMPRESSED_ARROW aRIGHTWARDS_HEAVY_COMPRESSED_ARROW",
    "aDOWNWARDS_HEAVY_COMPRESSED_ARROW aLEFTWARDS_HEAVY_ARROW aUPWARDS_HEAVY_ARROW",
    "aRIGHTWARDS_HEAVY_ARROW aDOWNWARDS_HEAVY_ARROW"]), (0x1F850, ["aLEFTWARDS_SANS-SERIF_ARROW",
    "aUPWARDS_SANS-SERIF_ARROW aRIGHTWARDS_SANS-SERIF_ARROW aDOWNWARDS_SANS-SERIF_ARROW",
    "aNORTH_WEST_SANS-SERIF_ARROW gEAST_SANS-SERIF_ARROW aSOUTH_EAST_SANS-SERIF_ARROW",
    "gWEST_SANS-SERIF_ARROW aLEFT_RIGHT_SANS-SERIF_ARROW aUP_DOWN_SANS-SERIF_ARROW"]),
  (0x1F860, ["aWIDE-HEADED_LEFTWARDS_LIGHT_BARB_ARROW mUPWARDS_LIGHT_BARB_ARROW",
    "mRIGHTWARDS_LIGHT_BARB_ARROW mDOWNWARDS_LIGHT_BARB_ARROW mNORTH_WEST_LIGHT_BARB_ARROW",
    "sEAST_LIGHT_BARB_ARROW mSOUTH_EAST_LIGHT_BARB_ARROW sWEST_LIGHT_BARB_ARROW",
    "mLEFTWARDS_BARB_ARROW mUPWARDS_BARB_ARROW mRIGHTWARDS_BARB_ARROW mDOWNWARDS_BARB_ARROW",
    "mNORTH_WEST_BARB_ARROW sEAST_BARB_ARROW mSOUTH_EAST_BARB_ARROW sWEST_BARB_ARROW",
    "mLEFTWARDS_MEDIUM_BARB_ARROW mUPWARDS_MEDIUM_BARB_ARROW mRIGHTWARDS_MEDIUM_BARB_ARROW",
    "mDOWNWARDS_MEDIUM_BARB_ARROW mNORTH_WEST_MEDIUM_BARB_ARROW sEAST_MEDIUM_BARB_ARROW",
    "mSOUTH_EAST_MEDIUM_BARB_ARROW sWEST_MEDIUM_BARB_ARROW mLEFTWARDS_HEAVY_BARB_ARROW",
    "mUPWARDS_HEAVY_BARB_ARROW mRIGHTWARDS_HEAVY_BARB_ARROW mDOWNWARDS_HEAVY_BARB_ARROW",
    "mNORTH_WEST_HEAVY_BARB_ARROW sEAST_HEAVY_BARB_ARROW mSOUTH_EAST_HEAVY_BARB_ARROW",
    "sWEST_HEAVY_BARB_ARROW mLEFTWARDS_VERY_HEAVY_BARB_ARROW mUPWARDS_VERY_HEAVY_BARB_ARROW",
    "mRIGHTWARDS_VERY_HEAVY_BARB_ARROW mDOWNWARDS_VERY_HEAVY_BARB_ARROW",
    "mNORTH_WEST_VERY_HEAVY_BARB_ARROW sEAST_VERY_HEAVY_BARB_ARROW",
    "mSOUTH_EAST_VERY_HEAVY_BARB_ARROW sWEST_VERY_HEAVY_BARB_ARROW"]),
  (0x1F890, ["aLEFTWARDS_TRIANGLE_ARROWHEAD aUPWARDS_TRIANGLE_ARROWHEAD",
    "aRIGHTWARDS_TRIANGLE_ARROWHEAD aDOWNWARDS_TRIANGLE_ARROWHEAD",
    "aLEFTWARDS_WHITE_ARROW_WITHIN_TRIANGLE_ARROWHEAD",
    "aUPWARDS_WHITE_ARROW_WITHIN_TRIANGLE_ARROWHEAD",
    "aRIGHTWARDS_WHITE_ARROW_WITHIN_TRIANGLE_ARROWHEAD",
    "aDOWNWARDS_WHITE_ARROW_WITHIN_TRIANGLE_ARROWHEAD aLEFTWARDS_ARROW_WITH_NOTCHED_TAIL",
    "aUPWARDS_ARROW_WITH_NOTCHED_TAIL aRIGHTWARDS_ARROW_WITH_NOTCHED_TAIL",
    "aDOWNWARDS_ARROW_WITH_NOTCHED_TAIL aHEAVY_ARROW_SHAFT_WIDTH_ONE yTWO_THIRDS yONE_HALF",
    "bcTHIRD aLEFTWARDS_BOTTOM-SHADED_WHITE_ARROW aRIGHTWARDS_BOTTOM_SHADED_WHITE_ARROW",
    "aLEFTWARDS_TOP_SHADED_WHITE_ARROW aRIGHTWARDS_TOP_SHADED_WHITE_ARROW",
    "aLEFTWARDS_LEFT-SHADED_WHITE_ARROW aRIGHTWARDS_RIGHT-SHADED_WHITE_ARROW",
    "aLEFTWARDS_RIGHT-SHADED_WHITE_ARROW aRIGHTWARDS_LEFT-SHADED_WHITE_ARROW",
    "aLEFTWARDS_BACK-TILTED_SHADOWED_WHITE_ARROW aRIGHTWARDS_BACK-TILTED_SHADOWED_WHITE_ARROW",
    "aLEFTWARDS_FRONT-TILTED_SHADOWED_WHITE_ARROW aRIGHTWARDS_FRONT-TILTED_SHADOWED_WHITE_ARROW",
    "aWHITE_ARROW_SHAFT_WIDTH_ONE yTWO_THIRDS"]), (0x1F8B0, [
    "aARROW_POINTING_UPWARDS_THEN_NORTH_WEST pRIGHTWARDS_THEN_CURVING_SOUTH_WEST"]),
  (0x1F900, ["aCIRCLED_CROSS_FORMEE_WITH_FOUR_DOTS baTWO_DOTS u aLEFT_HALF_CIRCLE_WITH_FOUR_DOTS",
    "wTHREE_DOTS xWO_DOTS wDOT q aDOWNWARD_FACING_HOOK qNOTCHED_HOOK qHOOK_WITH_DOT",
    "qNOTCHED_HOOK_WITH_DOT aPINCHED_FINGERS aWHITE_HEART aBROWN_HEART aPINCHING_HAND",
    "aZIPPER-MOUTH_FACE aMONEY-MOUTH_FACE aFACE_WITH_THERMOMETER aNERD_FACE aTHINKING_FACE",
    "aFACE_WITH_HEAD-BANDAGE aROBOT_FACE aHUGGING_FACE aSIGN_OF_THE_HORNS aCALL_ME_HAND",
    "aRAISED_BACK_OF_HAND aLEFT-FACING_FIST aRIGHT-FACING_FIST aHANDSHAKE",
    "e_WITH_INDEX_AND_MIDDLE_FINGERS_CROSSED aI_LOVE_YOU_HAND_SIGN aFACE_WITH_COWBOY_HAT",
    "aCLOWN_FACE aNAUSEATED_FACE aROLLING_ON_THE_FLOOR_LAUGHING aDROOLING_FACE aLYING_FACE",
    "aFACE_PALM aSNEEZING_FACE aFACE_WITH_ONE_EYEBROW_RAISED aGRINNING_FACE_WITH_STAR_EYES",
    "tONE_LARGE_AND_ONE_SMALL_EYE aFACE_WITH_FINGER_COVERING_CLOSED_LIPS",
    "aSERIOUS_FACE_WITH_SYMBOLS_COVERING_MOUTH",
    "bMILING_FACE_WITH_SMILING_EYES_AND_HAND_COVERING_MOUTH aFACE_WITH_OPEN_MOUTH_VOMITING",
    "aSHOCKED_FACE_WITH_EXPLODING_HEAD aPREGNANT_WOMAN aBREAST-FEEDING aPALMS_UP_TOGETHER",
    "aSELFIE aPRINCE aMAN_IN_TUXEDO bOTHER_CHRISTMAS aSHRUG aPERSON_DOING_CARTWHEEL aJUGGLING",
    "aFENCER aMODERN_PENTATHLON aWRESTLERS bATER_POLO aHANDBALL aDIVING_MASK aWILTED_FLOWER",
    "aDRUM_WITH_DRUMSTICKS aCLINKING_GLASSES aTUMBLER_GLASS aSPOON aGOAL_NET aRIFLE",
    "aFIRST_PLACE_MEDAL aSECOND_PLACE_MEDAL aTHIRD_PLACE_MEDAL aBOXING_GLOVE",
    "aMARTIAL_ARTS_UNIFORM aCURLING_STONE aLACROSSE_STICK_AND_BALL aSOFTBALL aFLYING_DISC",
    "aCROISSANT aAVOCADO aCUCUMBER aBACON aPOTATO aCARROT aBAGUETTE_BREAD aGREEN_SALAD",
    "aSHALLOW_PAN_OF_FOOD bTUFFED_FLATBREAD aEGG aGLASS_OF_MILK aPEANUTS aKIWIFRUIT aPANCAKES",
    "aDUMPLING aFORTUNE_COOKIE aTAKEOUT_BOX aCHOPSTICKS aBOWL_WITH_SPOON aCUP_WITH_STRAW bOCONUT",
    "aBROCCOLI aPIE bRETZEL aCUT_OF_MEAT aSANDWICH aCANNED_FOOD aLEAFY_GREEN aMANGO bOON_CAKE",
    "aBAGEL aSMILING_FACE_WITH_SMILING_EYES_AND_THREE_HEARTS aYAWNING_FACE",
    "aSMILING_FACE_WITH_TEAR aFACE_WITH_PARTY_HORN_AND_PARTY_HAT kUNEVEN_EYES_AND_WAVY_MOUTH",
    "aOVERHEATED_FACE aFREEZING_FACE aNINJA aDISGUISED_FACE aFACE_HOLDING_BACK_TEARS",
    "fWITH_PLEADING_EYES aSARI aLAB_COAT aGOGGLES aHIKING_BOOT aFLAT_SHOE aCRAB aLION_FACE",
    "aSCORPION aTURKEY aUNICORN_FACE aEAGLE aDUCK aBAT aSHARK aOWL aFOX_FACE aBUTTERFLY aDEER",
    "aGORILLA aLIZARD aRHINOCEROS aSHRIMP bQUID aGIRAFFE_FACE aZEBRA_FACE aHEDGEHOG aSAUROPOD",
    "aT-REX aCRICKET aKANGAROO aLLAMA aPEACOCK aHIPPOPOTAMUS aPARROT aRACCOON aLOBSTER aMOSQUITO",
    "bICROBE aBADGER aSWAN aMAMMOTH aDODO aSLOTH aOTTER bRANGUTAN aSKUNK aFLAMINGO aOYSTER",
    "aBEAVER bISON aSEAL aGUIDE_DOG aPROBING_CANE aEMOJI_COMPONENT_RED_HAIR qCURLY_HAIR qBALD",
    "qWHITE_HAIR aBONE aLEG aFOOT aTOOTH aSUPERHERO fVILLAIN bAFETY_VEST aEAR_WITH_HEARING_AID",
    "aMOTORIZED_WHEELCHAIR bANUAL_WHEELCHAIR bECHANICAL_ARM lLEG aCHEESE_WEDGE bUPCAKE",
    "aSALT_SHAKER aBEVERAGE_BOX aGARLIC aONION aFALAFEL aWAFFLE aBUTTER aMATE_DRINK aICE_CUBE",
    "aBUBBLE_TEA aTROLL aSTANDING_PERSON aKNEELING_PERSON aDEAF_PERSON aFACE_WITH_MONOCLE aADULT",
    "aCHILD aOLDER_ADULT aBEARDED_PERSON aPERSON_WITH_HEADSCARF hIN_STEAMY_ROOM hCLIMBING",
    "hIN_LOTUS_POSITION aMAGE aFAIRY aVAMPIRE aMERPERSON aELF aGENIE aZOMBIE aBRAIN",
    "aORANGE_HEART aBILLED_CAP aSCARF aGLOVES aCOAT aSOCKS aRED_GIFT_ENVELOPE aFIRECRACKER",
    "aJIGSAW_PUZZLE_PIECE aTEST_TUBE aPETRI_DISH aDNA_DOUBLE_HELIX aCOMPASS aABACUS",
    "aFIRE_EXTINGUISHER aTOOLBOX aBRICK aMAGNET aLUGGAGE bOTION_BOTTLE aSPOOL_OF_THREAD",
    "aBALL_OF_YARN aSAFETY_PIN aTEDDY_BEAR aBROOM bASKET aROLL_OF_PAPER aBAR_OF_SOAP aSPONGE",
    "aRECEIPT aNAZAR_AMULET bEUTRAL_CHESS_KING oQUEEN oROOK oBISHOP oKNIGHT oPAWN",
    "aWHITE_CHESS_KNIGHT_ROTATED_FORTY-FIVE_DEGREES",
    "aBLACK_CHESS_KNIGHT_ROTATED_FORTY-FIVE_DEGREES",
    "aNEUTRAL_CHESS_KNIGHT_ROTATED_FORTY-FIVE_DEGREES aWHITE_CHESS_KING_ROTATED_NINETY_DEGREES",
    "mQUEEN_ROTATED_NINETY_DEGREES mROOK_ROTATED_NINETY_DEGREES mBISHOP_ROTATED_NINETY_DEGREES",
    "mKNIGHT_ROTATED_NINETY_DEGREES mPAWN_ROTATED_NINETY_DEGREES",
    "aBLACK_CHESS_KING_ROTATED_NINETY_DEGREES mQUEEN_ROTATED_NINETY_DEGREES",
    "mROOK_ROTATED_NINETY_DEGREES mBISHOP_ROTATED_NINETY_DEGREES mKNIGHT_ROTATED_NINETY_DEGREES",
    "mPAWN_ROTATED_NINETY_DEGREES aNEUTRAL_CHESS_KING_ROTATED_NINETY_DEGREES",
    "oQUEEN_ROTATED_NINETY_DEGREES oROOK_ROTATED_NINETY_DEGREES oBISHOP_ROTATED_NINETY_DEGREES",
    "oKNIGHT_ROTATED_NINETY_DEGREES oPAWN_ROTATED_NINETY_DEGREES",
    "aWHITE_CHESS_KNIGHT_ROTATED_ONE_HUNDRED_THIRTY-FIVE_DEGREES",
    "aBLACK_CHESS_KNIGHT_ROTATED_ONE_HUNDRED_THIRTY-FIVE_DEGREES",
    "aNEUTRAL_CHESS_KNIGHT_ROTATED_ONE_HUNDRED_THIRTY-FIVE_DEGREES aWHITE_CHESS_TURNED_KING",
    "tQUEEN tROOK tBISHOP tKNIGHT tPAWN aBLACK_CHESS_TURNED_KING tQUEEN tROOK tBISHOP tKNIGHT",
    "tPAWN aNEUTRAL_CHESS_TURNED_KING vQUEEN vROOK vBISHOP vKNIGHT vPAWN",
    "aWHITE_CHESS_KNIGHT_ROTATED_TWO_HUNDRED_TWENTY-FIVE_DEGREES",
    "aBLACK_CHESS_KNIGHT_ROTATED_TWO_HUNDRED_TWENTY-FIVE_DEGREES",
    "aNEUTRAL_CHESS_KNIGHT_ROTATED_TWO_HUNDRED_TWENTY-FIVE_DEGREES",
    "aWHITE_CHESS_KING_ROTATED_TWO_HUNDRED_SEVENTY_DEGREES",
    "mQUEEN_ROTATED_TWO_HUNDRED_SEVENTY_DEGREES mROOK_ROTATED_TWO_HUNDRED_SEVENTY_DEGREES",
    "mBISHOP_ROTATED_TWO_HUNDRED_SEVENTY_DEGREES mKNIGHT_ROTATED_TWO_HUNDRED_SEVENTY_DEGREES",
    "mPAWN_ROTATED_TWO_HUNDRED_SEVENTY_DEGREES",
    "aBLACK_CHESS_KING_ROTATED_TWO_HUNDRED_SEVENTY_DEGREES",
    "mQUEEN_ROTATED_TWO_HUNDRED_SEVENTY_DEGREES mROOK_ROTATED_TWO_HUNDRED_SEVENTY_DEGREES",
    "mBISHOP_ROTATED_TWO_HUNDRED_SEVENTY_DEGREES mKNIGHT_ROTATED_TWO_HUNDRED_SEVENTY_DEGREES",
    "mPAWN_ROTATED_TWO_HUNDRED_SEVENTY_DEGREES",
    "aNEUTRAL_CHESS_KING_ROTATED_TWO_HUNDRED_SEVENTY_DEGREES",
    "oQUEEN_ROTATED_TWO_HUNDRED_SEVENTY_DEGREES oROOK_ROTATED_TWO_HUNDRED_SEVENTY_DEGREES",
    "oBISHOP_ROTATED_TWO_HUNDRED_SEVENTY_DEGREES oKNIGHT_ROTATED_TWO_HUNDRED_SEVENTY_DEGREES",
    "oPAWN_ROTATED_TWO_HUNDRED_SEVENTY_DEGREES",
    "aWHITE_CHESS_KNIGHT_ROTATED_THREE_HUNDRED_FIFTEEN_DEGREES",
    "aBLACK_CHESS_KNIGHT_ROTATED_THREE_HUNDRED_FIFTEEN_DEGREES",
    "aNEUTRAL_CHESS_KNIGHT_ROTATED_THREE_HUNDRED_FIFTEEN_DEGREES aWHITE_CHESS_EQUIHOPPER",
    "aBLACK_CHESS_EQUIHOPPER aNEUTRAL_CHESS_EQUIHOPPER",
    "aWHITE_CHESS_EQUIHOPPER_ROTATED_NINETY_DEGREES",
    "aBLACK_CHESS_EQUIHOPPER_ROTATED_NINETY_DEGREES",
    "aNEUTRAL_CHESS_EQUIHOPPER_ROTATED_NINETY_DEGREES aWHITE_CHESS_KNIGHT-QUEEN tROOK tBISHOP",
    "aBLACK_CHESS_KNIGHT-QUEEN tROOK tBISHOP"]), (0x1FA60, ["aXIANGQI_RED_GENERAL mMANDARIN",
    "mELEPHANT mHORSE mCHARIOT nANNON mSOLDIER iBLACK_GENERAL oMANDARIN oELEPHANT oHORSE",
    "oCHARIOT pANNON oSOLDIER"]), (0x1FA70, ["aBALLET_SHOES aONE-PIECE_SWIMSUIT aBRIEFS aSHORTS",
    "aTHONG_SANDAL"]), (0x1FA78, ["aDROP_OF_BLOOD aADHESIVE_BANDAGE aSTETHOSCOPE aX-RAY aCRUTCH"]),
  (0x1FA80, ["aYO-YO aKITE aPARACHUTE aBOOMERANG aMAGIC_WAND aPINATA aNESTING_DOLLS"]),
  (0x1FA90, ["aRINGED_PLANET aCHAIR aRAZOR aAXE aDIYA_LAMP aBANJO aMILITARY_HELMET aACCORDION",
    "aLONG_DRUM aCOIN bARPENTRY_SAW aSCREWDRIVER aLADDER aHOOK aMIRROR aWINDOW aPLUNGER",
    "aSEWING_NEEDLE aKNOT aBUCKET aMOUSE_TRAP aTOOTHBRUSH aHEADSTONE aPLACARD aROCK aMIRROR_BALL",
    "aIDENTIFICATION_CARD aLOW_BATTERY aHAMSA"]), (0x1FAB0, ["aFLY aWORM aBEETLE aCOCKROACH",
    "aPOTTED_PLANT aWOOD aFEATHER aLOTUS aCORAL aEMPTY_NEST aNEST_WITH_EGGS"]),
  (0x1FAC0, ["aANATOMICAL_HEART aLUNGS aPEOPLE_HUGGING bREGNANT_MAN jPERSON bERSON_WITH_CROWN"]),
  (0x1FAD0, ["aBLUEBERRIES bELL_PEPPER aOLIVE aFLATBREAD aTAMALE aFONDUE aTEAPOT aPOURING_LIQUID",
    "aBEANS aJAR"]), (0x1FAE0, ["aMELTING_FACE aSALUTING_FACE",
    "aFACE_WITH_OPEN_EYES_AND_HAND_OVER_MOUTH kPEEKING_EYE kDIAGONAL_MOUTH aDOTTED_LINE_FACE",
    "aBITING_LIP bUBBLES"]), (0x1FAF0, ["aHAND_WITH_INDEX_FINGER_AND_THUMB_CROSSED",
    "aRIGHTWARDS_HAND aLEFTWARDS_HAND aPALM_DOWN_HAND fUP_HAND aINDEX_POINTING_AT_THE_VIEWER",
    "aHEART_HANDS"]), (0x1FB00, ["aBLOCK_SEXTANT-1 o2 o12 o3 o13 o23 o123 o4 o14 o24 o124 o34",
    "o134 o234 o1234 o5 o15 o25 o125 o35 o235 o1235 o45 o145 o245 o1245 o345 o1345 o2345 o12345",
    "o6 o16 o26 o126 o36 o136 o236 o1236 o46 o146 p246 o346 o1346 o2346 o12346 o56 o156 o256",
    "o1256 o356 o1356 o2356 o12356 o456 o1456 o2456 o12456 o3456 o13456 o23456",
    "aLOWER_LEFT_BLOCK_DIAGONAL_LOWER_MIDDLE_LEFT_TO_LOWER_CENTRE cbRIGHT",
    "baUPPER_MIDDLE_LEFT_TO_LOWER_CENTRE cbRIGHT bgLEFT_TO_LOWER_CENTRE",
    "gRIGHT_BLOCK_DIAGONAL_UPPER_MIDDLE_LEFT_TO_UPPER_CENTRE ccRIGHT",
    "bbLOWER_MIDDLE_LEFT_TO_UPPER_CENTRE ccRIGHT bhLEFT_TO_UPPER_CENTRE",
    "bhMIDDLE_LEFT_TO_UPPER_MIDDLE_RIGHT bhCENTRE_TO_LOWER_MIDDLE_RIGHT",
    "bhLEFT_TO_LOWER_MIDDLE_RIGHT bhCENTRE_TO_UPPER_MIDDLE_RIGHT bhLEFT_TO_UPPER_MIDDLE_RIGHT",
    "bhCENTRE_TO_UPPER_RIGHT gLEFT_BLOCK_DIAGONAL_UPPER_CENTRE_TO_UPPER_MIDDLE_RIGHT",
    "bgLEFT_TO_UPPER_MIDDLE_RIGHT bgCENTRE_TO_LOWER_MIDDLE_RIGHT bgLEFT_TO_LOWER_MIDDLE_RIGHT",
    "bgCENTRE_TO_LOWER_RIGHT bgMIDDLE_LEFT_TO_LOWER_MIDDLE_RIGHT",
    "aUPPER_RIGHT_BLOCK_DIAGONAL_LOWER_MIDDLE_LEFT_TO_LOWER_CENTRE ccRIGHT",
    "bbUPPER_MIDDLE_LEFT_TO_LOWER_CENTRE ccRIGHT bhLEFT_TO_LOWER_CENTRE",
    "gLEFT_BLOCK_DIAGONAL_UPPER_MIDDLE_LEFT_TO_UPPER_CENTRE cbRIGHT",
    "baLOWER_MIDDLE_LEFT_TO_UPPER_CENTRE cbRIGHT bgLEFT_TO_UPPER_CENTRE",
    "bgMIDDLE_LEFT_TO_UPPER_MIDDLE_RIGHT bgCENTRE_TO_LOWER_MIDDLE_RIGHT",
    "bgLEFT_TO_LOWER_MIDDLE_RIGHT bgCENTRE_TO_UPPER_MIDDLE_RIGHT bgLEFT_TO_UPPER_MIDDLE_RIGHT",
    "bgCENTRE_TO_UPPER_RIGHT gRIGHT_BLOCK_DIAGONAL_UPPER_CENTRE_TO_UPPER_MIDDLE_RIGHT",
    "bhLEFT_TO_UPPER_MIDDLE_RIGHT bhCENTRE_TO_LOWER_MIDDLE_RIGHT bhLEFT_TO_LOWER_MIDDLE_RIGHT",
    "bhCENTRE_TO_LOWER_RIGHT bhMIDDLE_LEFT_TO_LOWER_MIDDLE_RIGHT",
    "gAND_RIGHT_AND_LOWER_TRIANGULAR_THREE_QUARTERS_BLOCK",
    "aLEFT_AND_LOWER_AND_RIGHT_TRIANGULAR_THREE_QUARTERS_BLOCK",
    "aUPPER_AND_LEFT_AND_LOWER_TRIANGULAR_THREE_QUARTERS_BLOCK",
    "aLEFT_AND_UPPER_AND_RIGHT_TRIANGULAR_THREE_QUARTERS_BLOCK fTRIANGULAR_ONE_QUARTER_BLOCK",
    "aUPPER_TRIANGULAR_ONE_QUARTER_BLOCK aRIGHT_TRIANGULAR_ONE_QUARTER_BLOCK",
    "aLOWER_TRIANGULAR_ONE_QUARTER_BLOCK aVERTICAL_ONE_EIGHTH_BLOCK-2 ba3 ba4 ba5 ba6 ba7",
    "aHORIZONTAL_ONE_EIGHTH_BLOCK-2 bc3 bc4 bc5 bc6 bc7 aLEFT_AND_LOWER_ONE_EIGHTH_BLOCK",
    "jUPPER_ONE_EIGHTH_BLOCK aRIGHT_AND_UPPER_ONE_EIGHTH_BLOCK kLOWER_ONE_EIGHTH_BLOCK",
    "aUPPER_AND_LOWER_ONE_EIGHTH_BLOCK aHORIZONTAL_ONE_EIGHTH_BLOCK-1358",
    "aUPPER_ONE_QUARTER_BLOCK gTHREE_EIGHTHS_BLOCK gFIVE_EIGHTHS_BLOCK gTHREE_QUARTERS_BLOCK",
    "gSEVEN_EIGHTHS_BLOCK aRIGHT_ONE_QUARTER_BLOCK gTHREE_EIGHTHS_BLOCK gFIVE_EIGHTHS_BLOCK",
    "gTHREE_QUARTERS_BLOCK gSEVEN_EIGHTHS_BLOCK aLEFT_HALF_MEDIUM_SHADE aRIGHT_HALF_MEDIUM_SHADE",
    "aUPPER_HALF_MEDIUM_SHADE aLOWER_HALF_MEDIUM_SHADE aINVERSE_MEDIUM_SHADE",
    "aUPPER_HALF_BLOCK_AND_LOWER_HALF_INVERSE_MEDIUM_SHADE",
    "lINVERSE_MEDIUM_SHADE_AND_LOWER_HALF_BLOCK"]), (0x1FB94, [
    "aLEFT_HALF_INVERSE_MEDIUM_SHADE_AND_RIGHT_HALF_BLOCK aCHECKER_BOARD_FILL",
    "aINVERSE_CHECKER_BOARD_FILL aHEAVY_HORIZONTAL_FILL aUPPER_LEFT_TO_LOWER_RIGHT_FILL",
    "gRIGHT_TO_LOWER_LEFT_FILL gAND_LOWER_TRIANGULAR_HALF_BLOCK",
    "aLEFT_AND_RIGHT_TRIANGULAR_HALF_BLOCK aUPPER_LEFT_TRIANGULAR_MEDIUM_SHADE",
    "gRIGHT_TRIANGULAR_MEDIUM_SHADE aLOWER_RIGHT_TRIANGULAR_MEDIUM_SHADE",
    "gLEFT_TRIANGULAR_MEDIUM_SHADE aBOX_DRAWINGS_LIGHT_DIAGONAL_UPPER_CENTRE_TO_MIDDLE_LEFT",
    "bzRIGHT bcMIDDLE_LEFT_TO_LOWER_CENTRE bjRIGHT_TO_LOWER_CENTRE",
    "bcUPPER_CENTRE_TO_MIDDLE_LEFT_TO_LOWER_CENTRE bzRIGHT_TO_LOWER_CENTRE",
    "bcMIDDLE_LEFT_TO_LOWER_CENTRE_TO_MIDDLE_RIGHT brUPPER_CENTRE_TO_MIDDLE_RIGHT",
    "bcUPPER_CENTRE_TO_MIDDLE_LEFT_AND_MIDDLE_RIGHT_TO_LOWER_CENTRE",
    "bzRIGHT_AND_MIDDLE_LEFT_TO_LOWER_CENTRE cfTO_LOWER_CENTRE_TO_MIDDLE_LEFT",
    "bzLEFT_TO_LOWER_CENTRE_TO_MIDDLE_RIGHT",
    "bcMIDDLE_LEFT_TO_UPPER_CENTRE_TO_MIDDLE_RIGHT_TO_LOWER_CENTRE",
    "bjRIGHT_TO_UPPER_CENTRE_TO_MIDDLE_LEFT_TO_LOWER_CENTRE bcDIAMOND",
    "tHORIZONTAL_WITH_VERTICAL_STROKE aARROWHEAD-SHAPED_POINTER aINVERSE_CHECK_MARK",
    "aLEFT_HALF_RUNNING_MAN aRIGHT_HALF_RUNNING_MAN aINVERSE_DOWNWARDS_ARROW_WITH_TIP_LEFTWARDS",
    "aLEFTWARDS_ARROW_AND_UPPER_AND_LOWER_ONE_EIGHTH_BLOCK",
    "aRIGHTWARDS_ARROW_AND_UPPER_AND_LOWER_ONE_EIGHTH_BLOCK",
    "aDOWNWARDS_ARROW_AND_RIGHT_ONE_EIGHTH_BLOCK aUPWARDS_ARROW_AND_RIGHT_ONE_EIGHTH_BLOCK",
    "aLEFT_HALF_FOLDER aRIGHT_HALF_FOLDER aVOIDED_GREEK_CROSS aRIGHT_OPEN_SQUARED_DOT",
    "aNEGATIVE_DIAGONAL_CROSS sMIDDLE_RIGHT_TO_LOWER_CENTRE sDIAMOND",
    "aWHITE_HEAVY_SALTIRE_WITH_ROUNDED_CORNERS aLEFT_THIRD_WHITE_RIGHT_POINTING_INDEX",
    "aMIDDLE_THIRD_WHITE_RIGHT_POINTING_INDEX aRIGHT_THIRD_WHITE_RIGHT_POINTING_INDEX",
    "aNEGATIVE_SQUARED_QUESTION_MARK aSTICK_FIGURE m_WITH_ARMS_RAISED nLEANING_LEFT vRIGHT",
    "nWITH_DRESS aWHITE_UP-POINTING_CHEVRON"]), (0x1FBF0, ["aSEGMENTED_DIGIT_ZERO qONE qTWO",
    "rHREE qFOUR rIVE qSIX rEVEN qEIGHT qNINE"]), (0x2F800, ["aCJK_COMPATIBILITY_IDEOGRAPH-2F800",
    "bg1 bg2 bg3 bg4 bg5 bg6 bg7 bg8 bg9 bgA bgB bgC bgD bgE bgF bf10 bg1 bg2 bg3 bg4 bg5 bg6",
    "bg7 bg8 bg9 bgA bgB bgC bgD bgE bgF bf20 bg1 bg2 bg3 bg4 bg5 bg6 bg7 bg8 bg9 bgA bgB bgC",
    "bgD bgE bgF bf30 bg1 bg2 bg3 bg4 bg5 bg6 bg7 bg8 bg9 bgA bgB bgC bgD bgE bgF bf40 bg1 bg2",
    "bg3 bg4 bg5 bg6 bg7 bg8 bg9 bgA bgB bgC bgD bgE bgF bf50 bg1 bg2 bg3 bg4 bg5 bg6 bg7 bg8",
    "bg9 bgA bgB bgC bgD bgE bgF bf60 bg1 bg2 bg3 bg4 bg5 bg6 bg7 bg8 bg9 bgA bgB bgC bgD bgE",
    "bgF bf70 bg1 bg2 bg3 bg4 bg5 bg6 bg7 bg8 bg9 bgA bgB bgC bgD bgE bgF bf80 bg1 bg2 bg3 bg4",
    "bg5 bg6 bg7 bg8 bg9 bgA bgB bgC bgD bgE bgF bf90 bg1 bg2 bg3 bg4 bg5 bg6 bg7 bg8 bg9 bgA",
    "bgB bgC bgD bgE bgF bfA0 bg1 bg2 bg3 bg4 bg5 bg6 bg7 bg8 bg9 bgA bgB bgC bgD bgE bgF bfB0",
    "bg1 bg2 bg3 bg4 bg5 bg6 bg7 bg8 bg9 bgA bgB bgC bgD bgE bgF bfC0 bg1 bg2 bg3 bg4 bg5 bg6",
    "bg7 bg8 bg9 bgA bgB bgC bgD bgE bgF bfD0 bg1 bg2 bg3 bg4 bg5 bg6 bg7 bg8 bg9 bgA bgB bgC",
    "bgD bgE bgF bfE0 bg1 bg2 bg3 bg4 bg5 bg6 bg7 bg8 bg9 bgA bgB bgC bgD bgE bgF bfF0 bg1 bg2",
    "bg3 bg4 bg5 bg6 bg7 bg8 bg9 bgA bgB bgC bgD bgE bgF be900 bg1 bg2 bg3 bg4 bg5 bg6 bg7 bg8",
    "bg9 bgA bgB bgC bgD bgE bgF bf10 bg1 bg2 bg3 bg4 bg5 bg6 bg7 bg8 bg9 bgA bgB bgC bgD bgE",
    "bgF bf20 bg1 bg2 bg3 bg4 bg5 bg6 bg7 bg8 bg9 bgA bgB bgC bgD bgE bgF bf30 bg1 bg2 bg3 bg4",
    "bg5 bg6 bg7 bg8 bg9 bgA bgB bgC bgD bgE bgF bf40 bg1 bg2 bg3 bg4 bg5 bg6 bg7 bg8 bg9 bgA",
    "bgB bgC bgD bgE bgF bf50 bg1 bg2 bg3 bg4 bg5 bg6 bg7 bg8 bg9 bgA bgB bgC bgD bgE bgF bf60",
    "bg1 bg2 bg3 bg4 bg5 bg6 bg7 bg8 bg9 bgA bgB bgC bgD bgE bgF bf70 bg1 bg2 bg3 bg4 bg5 bg6",
    "bg7 bg8 bg9 bgA bgB bgC bgD bgE bgF bf80 bg1 bg2 bg3 bg4 bg5 bg6 bg7 bg8 bg9 bgA bgB bgC",
    "bgD bgE bgF bf90 bg1 bg2 bg3 bg4 bg5 bg6 bg7 bg8 bg9 bgA bgB bgC bgD bgE bgF bfA0 bg1 bg2",
    "bg3 bg4 bg5 bg6 bg7 bg8 bg9 bgA bgB bgC bgD bgE bgF bfB0 bg1 bg2 bg3 bg4 bg5 bg6 bg7 bg8",
    "bg9 bgA bgB bgC bgD bgE bgF bfC0 bg1 bg2 bg3 bg4 bg5 bg6 bg7 bg8 bg9 bgA bgB bgC bgD bgE",
    "bgF bfD0 bg1 bg2 bg3 bg4 bg5 bg6 bg7 bg8 bg9 bgA bgB bgC bgD bgE bgF bfE0 bg1 bg2 bg3 bg4",
    "bg5 bg6 bg7 bg8 bg9 bgA bgB bgC bgD bgE bgF bfF0 bg1 bg2 bg3 bg4 bg5 bg6 bg7 bg8 bg9 bgA",
    "bgB bgC bgD bgE bgF beA00 bg1 bg2 bg3 bg4 bg5 bg6 bg7 bg8 bg9 bgA bgB bgC bgD bgE bgF bf10",
    "bg1 bg2 bg3 bg4 bg5 bg6 bg7 bg8 bg9 bgA bgB bgC bgD"]), (0xE0001, ["aLANGUAGE_TAG"]),
  (0xE0020, ["aTAG_SPACE eEXCLAMATION_MARK eQUOTATION_MARK eNUMBER_SIGN eDOLLAR_SIGN",
    "ePERCENT_SIGN eAMPERSAND fPOSTROPHE eLEFT_PARENTHESIS eRIGHT_PARENTHESIS eASTERISK",
    "ePLUS_SIGN eCOMMA eHYPHEN-MINUS eFULL_STOP eSOLIDUS eDIGIT_ZERO kONE kTWO lHREE kFOUR lIVE",
    "kSIX lEVEN kEIGHT kNINE eCOLON eSEMICOLON eLESS-THAN_SIGN eEQUALS_SIGN eGREATER-THAN_SIGN",
    "eQUESTION_MARK eCOMMERCIAL_AT eLATIN_CAPITAL_LETTER_A zB zC zD zE zF zG zH zI zJ zK zL zM",
    "zN zO zP zQ zR zS zT zU zV zW zX zY zZ fEFT_SQUARE_BRACKET eREVERSE_SOLIDUS",
    "fIGHT_SQUARE_BRACKET eCIRCUMFLEX_ACCENT eLOW_LINE eGRAVE_ACCENT eLATIN_SMALL_LETTER_A xB xC",
    "xD xE xF xG xH xI xJ xK xL xM xN xO xP xQ xR xS xT xU xV xW xX xY xZ fEFT_CURLY_BRACKET",
    "eVERTICAL_LINE eRIGHT_CURLY_BRACKET eTILDE aCANCEL_TAG"]), (0xE0100, [
    "aVARIATION_SELECTOR-17 u8 u9 t20 u1 u2 u3 u4 u5 u6 u7 u8 u9 t30 u1 u2 u3 u4 u5 u6 u7 u8 u9",
    "t40 u1 u2 u3 u4 u5 u6 u7 u8 u9 t50 u1 u2 u3 u4 u5 u6 u7 u8 u9 t60 u1 u2 u3 u4 u5 u6 u7 u8",
    "u9 t70 u1 u2 u3 u4 u5 u6 u7 u8 u9 t80 u1 u2 u3 u4 u5 u6 u7 u8 u9 t90 u1 u2 u3 u4 u5 u6 u7",
    "u8 u9 t100 v1 v2 v3 v4 v5 v6 v7 v8 v9 u10 v1 v2 v3 v4 v5 v6 v7 v8 v9 u20 v1 v2 v3 v4 v5 v6",
    "v7 v8 v9 u30 v1 v2 v3 v4 v5 v6 v7 v8 v9 u40 v1 v2 v3 v4 v5 v6 v7 v8 v9 u50 v1 v2 v3 v4 v5",
    "v6 v7 v8 v9 u60 v1 v2 v3 v4 v5 v6 v7 v8 v9 u70 v1 v2 v3 v4 v5 v6 v7 v8 v9 u80 v1 v2 v3 v4",
    "v5 v6 v7 v8 v9 u90 v1 v2 v3 v4 v5 v6 v7 v8 v9 t200 v1 v2 v3 v4 v5 v6 v7 v8 v9 u10 v1 v2 v3",
    "v4 v5 v6 v7 v8 v9 u20 v1 v2 v3 v4 v5 v6 v7 v8 v9 u30 v1 v2 v3 v4 v5 v6 v7 v8 v9 u40 v1 v2",
    "v3 v4 v5 v6 v7 v8 v9 u50 v1 v2 v3 v4 v5 v6"])]

end TraceLens.CharacterName
