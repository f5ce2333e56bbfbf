/-!
# Names of characters from row 0x120 on

The names of the characters from row 0x120 to row 0x15F, in runs without a gap: the first code
point, and the names in the form that `CharacterName` describes.
-/

namespace TraceLens.CharacterName

def row120 : List (Nat × List String) := [
  (0x12000, ["aCUNEIFORM_SIGN_A q_TIMES_A xBAD xGAN2_TENU xHA xIGI xLAGAR_GUNU xMUSH xSAG q2 qB",
    "r_TIMES_ASH2 yDUN3_GUNU yGAL baN2_TENU yHA yIGI_GUNU zMIN yLAGAB ySHESH yU_PLUS_U_PLUS_U",
    "sGUNU r2 s_TIMES_BALAG zGAN2_TENU zME_PLUS_EN zSHA3 zTAK4 qD qK r_TIMES_ERIN2",
    "ySHITA_PLUS_GISH qL r_TIMES_AL yDIM2 yGISH yHA yKAD3 zI ySHE yUSH rAN rEPH qMAR t_TIMES_SHE",
    "qN r_OVER_AN sTHREE_TIMES sPLUS_NAGA_OPPOSING_AN_PLUS_NAGA bcSQUARED rSHE qPIN qRAD",
    "t_TIMES_KUR rKAB qSAL2 rH s_ZIDA_TENU tKABA_TENU",
    "tOVER_ASH_TUG2_OVER_TUG2_TUG2_OVER_TUG2_PAP bcOVER_ASH bk_CROSSING_ASH_OVER_ASH_OVER_ASH s2",
    "sGAB pBA rD rG3 rHAR2 rL s_OVER_BAL sAG rR sA2 qI r_TIMES_A yGAR yIGI_GUNU qU r_OVER_BU_AB",
    "baUN sCROSSING_BU rLUG u_OVER_BULUG rR s2 pDA rG s_KISIM5_TIMES_A_PLUS_MASH bhMAR bgBALAG",
    "bhI bgGA bi_PLUS_MASH bhI biR2 bhUD bgHA bgIR bi_PLUS_LU bgKAK bgLA bhU bi_PLUS_MASH2 biM",
    "bgNE bgPAP_PLUS_PAP bgSI bgTAK4 bgU2_PLUS_GIR2 bhSH rM rR sA3 t4 qI rB rM s_TIMES_SHE s2 rN",
    "s_KASKAL_U_GUNU_DISH rSH qU r_OVER_DU sGUNU sSHESHIG rB s_TIMES_ESH2 s2 rG sUD rH rN s3",
    "t_GUNU y_GUNU s4 rR2 pE q_TIMES_PAP rOVER_E_NUN_OVER_NUN q2 r_TIMES_A_PLUS_HA_PLUS_DA yGAR",
    "yMI ySAL zHE yU qDIN qGIR qL qN r_TIMES_GAN2 bc_TENU yME sCROSSING_EN sOPPOSING_EN sSQUARED",
    "qREN rIN2 qSH2 qZEN t_TIMES_A bb_PLUS_LAL bk_TIMES_LAL bbN baBAD baDUN3_GUNU bj_GUNU baHA",
    "bc_GUNU baIGI_GUNU baKASKAL bg_SQUARED bbU3 baLA bcL_TIMES_LAL bbI bbU baU2 bbD pGA r_GUNU",
    "r2 s_TIMES_A_PLUS_DA_PLUS_HA bgHA bgIGI baB2_TENU_PLUS_TAB baN baSH bc2_PLUS_GAL zBAD",
    "bbR_PLUS_RA baUR bc_PLUS_RA zDA baI bbM_TIMES_SHE baUB zEL bb_PLUS_LA baN",
    "bb_TIMES_GAN2_TENU zGAN2_TENU bbR baI bb4 bc_PLUS_A bbR2_PLUS_SU zHA_PLUS_LU_PLUS_ESH2 bbL",
    "bc_PLUS_LA baI_PLUS_LI baUB2 zIGI_GUNU baSH_PLUS_HU_PLUS_ASH zKAK bbSKAL baID bc_PLUS_LAL",
    "baU3_PLUS_AN zLA zME_PLUS_EN baI zNUN bc_OVER_NUN zPA zSAL bbR baHE bc_PLUS_TUR bbID baUM",
    "zTAK4 zU baD bb_PLUS_DU tOVER_GA2 rBA t_CROSSING_GABA rD s_OVER_GAD_GAR_OVER_GAR rL",
    "s_GAD_OVER_GAD_GAR_OVER_GAR sAM rM rN s2 t_TENU uOVER_GAN2 uCROSSING_GAN2 rR s3 rSHAN",
    "qESHTIN w_TIMES_KUR qI r_TIMES_E yU sCROSSING_GI r4 s_OVER_GI4 tCROSSING_GI4 rDIM rR2",
    "t_GUNU s3 t_TIMES_A_PLUS_IGI baGAN2_TENU baIGI baLU_PLUS_IGI baPA rSAL sH t_CROSSING_GISH",
    "uTIMES_BAD baTAK4 vENU qU r_CROSSING_GU r2 s_TIMES_KAK bc_TIMES_IGI_GUNU zNUN",
    "zSAL_PLUS_TUG2 tGUNU rD s_TIMES_A_PLUS_KUR zKUR tOVER_GUD_LUGAL rL rM s_TIMES_SHE rR s7 sUN",
    "tSH pHA r_TENU sGUNU rL qI r_TIMES_ASH bb2 yBAD yDISH yGAD yKIN yNUN ySHE yU qU rB2",
    "t_TIMES_AN baHAL baKASKAL baLISH baUD rL2 pI q_A qB qDIM t_OVER_IDIM_BUR beSQUARED qG rI",
    "s_DIB tRI tOVER_IGI_SHIR_OVER_SHIR_UD_OVER_UD tGUNU qL r_TIMES_GAN2_TENU r2 qM r_TIMES_TAK4",
    "sCROSSING_IM sOPPOSING_IM sSQUARED rIN qN qR qSH pKA r_TIMES_A zD ba_PLUS_KU3 zSH2 yBAD",
    "baLAG baR zI yERIN2 zSH2 yGA baL baN2_TENU baR bb_PLUS_SHA3_PLUS_A zI baR2 baSH_PLUS_SAR",
    "bdCROSSING_GISH zU baR7 yIGI zM yKAK zI baD yLI zU yME ba_PLUS_DU bgGI bgTE zI",
    "ba_PLUS_NUNUZ yNE zUN yPI yRU ySA baR zHA baE baID baU zIG zUHUR yTAR yU z2 zD",
    "zMUM_TIMES_PA zSH yZI r2 s_CROSSING_KA2 rB rD2 s3 s4 s5 t_OVER_KAD5 rK s_TIMES_IGI_GUNU rL",
    "s_TIMES_BAD tCROSSING_KAL rM2 s4 rSKAL v_LAGAB_TIMES_U_OVER_LAGAB_TIMES_U",
    "wOVER_KASKAL_LAGAB_TIMES_U_OVER_LAGAB_TIMES_U qESH2 qI r_TIMES_BAD yU zD rD rN rSAL sH sIM5",
    "v_OVER_KISIM5 qU r_OVER_HI_TIMES_ASH2_KU_OVER_HI_TIMES_ASH2 r3 r4 s_VARIANT_FORM r7 rL",
    "s_GUNU rN rR s_OPPOSING_KUR rSHU2 qWU318 pLA rGAB u_TIMES_A bc_PLUS_DA_PLUS_HA biGAR biLAL",
    "bcL bcN bcSH_ZIDA_TENU bbBAD bcI bbDAR bbEN bbGA bdR bcUD be_PLUS_GUD bbHA bdL",
    "bcI_TIMES_NUN bbIGI_GUNU bcM bd_PLUS_HA bjLU bbKI bdN bcU3 bdL be_PLUS_HI_PLUS_A bbLAGAB",
    "bcISH bcU bdL bbME bd_PLUS_EN bcUSH bbNE bbSHE_PLUS_SUM bdITA_PLUS_GISH_PLUS_ERIN2 brTENU",
    "bdU2 bf_PLUS_SHU2 bcUM bbTAG bdK4 bcE_PLUS_A_PLUS_SU_PLUS_NA bbU bc_PLUS_A biU_PLUS_U",
    "bc2_PLUS_ASH bcD bcSH vSQUARED tR u_TIMES_SHE be_PLUS_SUM vGUNU z_OVER_LAGAR_GUNU_SHE rHSHU",
    "rL s_TIMES_LAL rM s_TIMES_KUR bc_PLUS_RU qI rL rMMU2 rSH qU r_TIMES_BAD r2 s_TIMES_AL zBAD",
    "zESH2 bd_TENU zGAN2_TENU zHI_TIMES_BAD zIM zKAD2 bc3 bd_PLUS_ASH baI zLA_PLUS_ASH bbGAB",
    "zME_PLUS_EN zNE baU zSI_PLUS_ASH bbK2_PLUS_BU zTUG2 uENU tCROSSING_LU2 tOPPOSING_LU2",
    "tSQUARED uHESHIG r3 rGAL u_OVER_LUGAL wPPOSING_LUGAL vSHESHIG rH rL rM s_OVER_LUM",
    "bb_GAR_OVER_GAR pMA r_TIMES_TAK4 sGUNU r2 rH rR rSH t2 qE rS qI rN qU r_OVER_MU rG s_GUNU",
    "rNSUB rRGU2 rSH t_TIMES_A baKUR baZA uOVER_MUSH bd_TIMES_A_PLUS_NA uCROSSING_MUSH t3",
    "u_TIMES_A bc_PLUS_DI bbDI vGUNU pNA r2 rGA t_INVERTED uTIMES_SHU_TENU uOPPOSING_NAGA tR",
    "rM_NUTILLU s s2 qE r_TIMES_A yUD sSHESHIG qI r_TIMES_E r2 rM s_TIMES_GAN2_TENU",
    "bbR_PLUS_GAN2_TENU rNDA2 v_TIMES_AN bdSH bf_PLUS_ASH bcGUD bcME_PLUS_GAN2_TENU bcNE bdUN",
    "bcSHE bf_PLUS_A_AN bmSH bo_PLUS_ASH bcU2_PLUS_ASH bdSH rSAG qU r11 rN s_LAGAR_TIMES_GAR",
    "bfMASH bfSAL bi_OVER_NUN_LAGAR_TIMES_SAL bfUSH tTENU tOVER_NUN tCROSSING_NUN",
    "bf_LAGAR_OVER_LAGAR sUZ u_AB2_TIMES_ASHGAB bfBI bfDUG bfGUD bfIGI_GUNU bfKAD3 bfLA bfNE",
    "bfSILA3 bfU2 vKISIM5_TIMES_BI bk_U pPA rD rN rP qESH2 qI r_TIMES_A zB yBI zU yE yI zB yU z2",
    "sCROSSING_PI rRIG u_TIMES_KAL bbUD bbZA vOPPOSING_PIRIG pRA rB qI qU pSA rG_NUTILLU s",
    "s_TIMES_A zDU bbB zHA zKAK baUR zLUM zMI zNUN zSAL baHID zTAB zU2 baB baM baR baSH",
    "tOVER_SAG tGUNU rL s_LAGAB_TIMES_ASH2 rNGA2 rR qHA s3 t_TIMES_A baBAD baGISH baNE baSHU2",
    "baTUR baU bb_PLUS_A s6 sB6 sR2 rE s_HU tOVER_SHE_GAD_OVER_GAD_GAR_OVER_GAR",
    "bcTAB_OVER_TAB_GAR_OVER_GAR sG9 sN sSH u2 uLAM rID t_TIMES_A baIM sM t_TIMES_A baBAL bbULUG",
    "baDIN baGAR baIGI bd_GUNU baKUSHU2 baLUL baMUG baSAL sNIG sR t_TENU uOVER_SHIR_BUR_OVER_BUR",
    "sTA rU s_OVER_INVERTED_SHU s2 sBUR qI r_GUNU rG s4 t_OVER_SIG4_SHU2 rK2 rLA3 qU r_OVER_SU",
    "rD s2 rHUR rM sASH rR s9 pTA r_ASTERISK sTIMES_HI yMI sGUNU rB",
    "s_OVER_TAB_NI_OVER_NI_DISH_OVER_DISH tSQUARED rG s_TIMES_BI zGUD zSHE bbU zTUG2 zUD rK4 rR",
    "qE r_GUNU qI r_TENU rL rR s_TIMES_TAK4 tOVER_TIR bb_GAD_OVER_GAD_GAR_OVER_GAR qU rG2 rK rM",
    "rR s_OVER_TUR_ZA_OVER_ZA pU q_GUD rU_U rOVER_U_PA_OVER_PA_GAR_OVER_GAR ySUR_OVER_SUR",
    "yU_REVERSED_OVER_U_REVERSED q2 qB qD r_KUSHU2 sTIMES_BAD yMI yU_PLUS_U_PLUS_U bn_GUNU sGUNU",
    "sSHESHIG z_TIMES_BAD rUG qM r_TIMES_LAGAB yME_PLUS_DA ySHA3 yU rBIN rUM t_TIMES_KASKAL baPA",
    "qN r_GUNU qR r_CROSSING_UR sSHESHIG r2 s_TIMES_A_PLUS_HA bgNA baL zHA zNUN zU2 bb_PLUS_ASH",
    "bhBI r4 rI s3 rU s_TIMES_A baSHGAB zBAR zDUN zGA bbL bbN2_TENU bbR baU zHA zIGI baM baSH",
    "zKI zLUM zMIN zPA zSHE baIG4 zTU zU_PLUS_GUD baD baRUDA sDA u_TIMES_U qSH s_TIMES_A zKU bbR",
    "zTAK4 sX s2 sUMX qTUKI qZ3 s_TIMES_KASKAL rU pZA r_TENU sSQUARED_TIMES_KUR rG rMX qE2 qI",
    "r_OVER_ZI r3 rB s_KABA_TENU rG rZ2 qU r5 s_TIMES_A rBUR rM pKAP_ELAMITE pAB_TIMES_NUN",
    "r2_TIMES_A qMAR_TIMES_KUG pDAG_KISIM5_TIMES_U2_PLUS_MASH s3 qISH_PLUS_SHU qUB_TIMES_SHE",
    "pEZEN_TIMES_GUD baSHE pGA2_TIMES_AN_PLUS_KAK_PLUS_A baSH2 qE22 qIG pHUSH pKA_TIMES_ANSHE",
    "zSH3 yGISH zUD yHI_TIMES_ASH2 yLUM yPA ySHUL yTU yUR2 pLAGAB_TIMES_GI qU2_SHESHIG_TIMES_BAD",
    "tTIMES_ESH2_PLUS_LAL zSHU pMESH qUSH3_TIMES_ZA pNA4 qIN s9 sDA2_TIMES_BAL bcGI",
    "qU11_ROTATED_NINETY_DEGREES pPESH2_ASTERISK qIR2 pSAG_TIMES_IGI_GUNU pTI2 pUM_TIMES_ME q_U"]),
  (0x12400, ["aCUNEIFORM_NUMERIC_SIGN_TWO_ASH yHREE_ASH xFOUR_ASH yIVE_ASH xSIX_ASH yEVEN_ASH",
    "xEIGHT_ASH xNINE_ASH xTHREE_DISH xFOUR_DISH yIVE_DISH xSIX_DISH yEVEN_DISH xEIGHT_DISH",
    "xNINE_DISH xFOUR_U yIVE_U xSIX_U yEVEN_U xEIGHT_U xNINE_U xONE_GESH2 xTWO_GESH2 yHREE_GESH2",
    "xFOUR_GESH2 yIVE_GESH2 xSIX_GESH2 yEVEN_GESH2 xEIGHT_GESH2 xNINE_GESH2 xONE_GESHU",
    "xTWO_GESHU yHREE_GESHU xFOUR_GESHU yIVE_GESHU xTWO_SHAR2 yHREE_SHAR2 bi_VARIANT_FORM",
    "xFOUR_SHAR2 yIVE_SHAR2 xSIX_SHAR2 yEVEN_SHAR2 xEIGHT_SHAR2 xNINE_SHAR2 xONE_SHARU",
    "xTWO_SHARU yHREE_SHARU bi_VARIANT_FORM xFOUR_SHARU yIVE_SHARU xSHAR2_TIMES_GAL_PLUS_DISH",
    "bsMIN xONE_BURU xTWO_BURU yHREE_BURU bh_VARIANT_FORM xFOUR_BURU yIVE_BURU",
    "xTHREE_VARIANT_FORM_ESH16 bt21 xFOUR_VARIANT_FORM_LIMMU bu4 bu_A bvB xSIX_VARIANT_FORM_ASH9",
    "yEVEN_VARIANT_FORM_IMIN3 bu_A bvB xEIGHT_VARIANT_FORM_USSU bu3 xNINE_VARIANT_FORM_ILIMMU",
    "bv3 bv4 bv_A xTWO_ASH_TENU yHREE_ASH_TENU xFOUR_ASH_TENU yIVE_ASH_TENU xSIX_ASH_TENU",
    "xONE_BAN2 xTWO_BAN2 yHREE_BAN2 xFOUR_BAN2 bg_VARIANT_FORM yIVE_BAN2 bg_VARIANT_FORM",
    "xNIGIDAMIN bdESH xONE_ESHE3 xTWO_ESHE3 xONE_THIRD_DISH xTWO_THIRDS_DISH xFIVE_SIXTHS_DISH",
    "xONE_THIRD_VARIANT_FORM_A xTWO_THIRDS_VARIANT_FORM_A xONE_EIGHTH_ASH bbQUARTER_ASH",
    "yLD_ASSYRIAN_ONE_SIXTH boQUARTER yNE_QUARTER_GUR bbHALF_GUR xELAMITE_ONE_THIRD bfTWO_THIRDS",
    "bfFORTY bgIFTY xFOUR_U_VARIANT_FORM yIVE_U_VARIANT_FORM xSIX_U_VARIANT_FORM",
    "yEVEN_U_VARIANT_FORM xEIGHT_U_VARIANT_FORM xNINE_U_VARIANT_FORM"]),
  (0x12470, ["aCUNEIFORM_PUNCTUATION_SIGN_OLD_ASSYRIAN_WORD_DIVIDER bbVERTICAL_COLON",
    "bbDIAGONAL_COLON bkTRICOLON bkQUADCOLON"]), (0x12480, ["aCUNEIFORM_SIGN_AB_TIMES_NUN_TENU",
    "ySHU2 qD_TIMES_ESH2 pBAD_TIMES_DISH_TENU rHAR2_TIMES_AB2 bcNI bcZA qU_OVER_BU_TIMES_NA2",
    "pDA_TIMES_TAK4 rG_TIMES_KUR qIM_TIMES_IGI zU_U_U s2_TIMES_UD qUG_TIMES_ANSHE baSH",
    "bc_AT_LEFT zDIN baUN zERIN2 zGA baI bbR2_GUNU bbSH zHA baI zIGI_GUNU zKASKAL baUR bbSHU2",
    "bf_PLUS_KASKAL zLAK-020 bbM bc_TIMES_KUR baUH_PLUS_GISH zMASH baES baI zNI zPI zSHE",
    "baI_GUNU pE2_TIMES_KUR yPAP qRIN2_X qSH2_CROSSING_ESH2 qZEN_SHESHIG_TIMES_ASH biHI",
    "biIGI_GUNU biLA bkL biME bkS biSU uTIMES_SU pGA2_TIMES_BAHAR2 zDIM_GUNU baUG_TIMES_IGI_GUNU",
    "bjKASKAL zEREN zGA bbR_PLUS_DI biNE zHA_PLUS_A zKUSHU2_PLUS_KASKAL zLAM bc_TIMES_KUR baUH",
    "zMUSH zNE bb_PLUS_E2 bhGI zSHIM zZIZ2 rBA_ROTATED_NINETY_DEGREES qESHTIN_TIMES_U",
    "qISH_TIMES_GISH_CROSSING_GISH qU2_TIMES_IGI_GUNU rD_PLUS_GISH_TIMES_TAK4 pHA_TENU_GUNU",
    "qI_TIMES_ASH_OVER_HI_TIMES_ASH pKA_TIMES_BU yKA yU_U_U zR pLAGAB_TIMES_ZU_OVER_ZU rK-003",
    "u21 v5 u30 u50 v1 u62 u79_OVER_LAK-079_GUNU u80 v1_OVER_LAK-081 u92 t130 u42 t210 v9 u20 v5",
    "v8 u38 u65 v6 t343 v7 v8 u83 v4 u90 t441 v9 w_TIMES_GU bdIGI bdPAP_PLUS_LU3 bmPAP_PLUS_LU3",
    "bdU2_PLUS_BA u50 v7 u70 u83 u90 v2 v3 v5 t550 t608 u17 w_TIMES_ASH bdBAD bdDUN3_GUNU_GUNU",
    "bdKU3 bdLA bdTAR beE bdU2 beD beRUDA u36 u48 w_TIMES_DUB bdGA bdIGI bg_GUNU bdNI",
    "bdPAP_PLUS_PAP_PLUS_LU3 bdSHESH_PLUS_KI bdUD beRUDA t724 u49 qU2_GUNU_TIMES_ASH tTIMES_DISH",
    "zHAL zPAP bc_PLUS_PAP_PLUS_LU3 zTAK4 pMI_PLUS_ZA7 qUSH_OVER_MUSH_TIMES_GA bkKAK",
    "pNINDA2_TIMES_DIM_GUNU bcGISH bdUL bcHI bcKESH2 bcLAK-050 bcMASH bcPAP_PLUS_PAP bcU",
    "bd_PLUS_U bdRUDA pSAG_GUNU_TIMES_HA tTIMES_EN zSHE_AT_LEFT zTAK4 qHA6_TENU rE_OVER_SHE",
    "tPLUS_HUB2 yNAM2 ySAR rU2_PLUS_DUG_TIMES_NI zE2_TIMES_AN qI_TIMES_TAK4 pTAK4_PLUS_SAG",
    "qUM_TIMES_GAN2_TENU zTHREE_DISH pUR2_INVERTED tTIMES_UD rU_TIMES_DARA3 zLAK-668 baU3 pZA7",
    "qU_OVER_ZU_PLUS_SAR r5_TIMES_THREE_DISH_TENU"]), (0x12F90, ["aCYPRO-MINOAN_SIGN_CM001 w2 w4",
    "w5 w6 w7 w8 w9 v10 w1 w2 xB w3 w5 w7 w9 v21 w3 w4 w5 w6 w7 w8 w9 v30 w3 w4 w5 w6 w7 w8 w9",
    "v40 w1 w4 w6 w7 w9 v50 w1 w2 w3 w4 w5 w6 w8 w9 v60 w1 w2 w3 w4 w6 w7 w8 w9 v70 w1 w2 w3 w4",
    "w5 xB w6 w8 w9 v80 w1 w2 w3 w4 w5 w6 w7 w8 w9 v90 w1 w2 w4 w5 w6 w7 w8 w9 u100 w1 w2 w3 w4",
    "w5 w7 w8 w9 v10 w2 w4 u301 w2"]), (0x13000, ["aEGYPTIAN_HIEROGLYPH_A001 x2 x3 x4 x5 yA x6",
    "yA yB x7 x8 x9 w10 x1 x2 x3 x4 yA x5 x6 x7 yA x8 x9 w20 x1 x2 x3 x4 x5 x6 x7 x8 x9 w30 x1",
    "x2 yA x3 x4 x5 x6 x7 x8 x9 w40 yA x1 x2 yA x3 yA x4 x5 yA x6 x7 x8 x9 w50 x1 x2 x3 x4 x5 x6",
    "x7 x8 x9 w60 x1 x2 x3 x4 x5 x6 x7 x8 x9 w70 uB001 x2 x3 x4 x5 yA x6 x7 x8 x9 uC001 x2 yA yB",
    "yC x3 x4 x5 x6 x7 x8 x9 w10 yA x1 x2 x3 x4 x5 x6 x7 x8 x9 w20 x1 x2 x3 x4 uD001 x2 x3 x4 x5",
    "x6 x7 x8 yA x9 w10 x1 x2 x3 x4 x5 x6 x7 x8 x9 w20 x1 x2 x3 x4 x5 x6 x7 yA x8 x9 w30 x1 yA",
    "x2 x3 x4 yA x5 x6 x7 x8 x9 w40 x1 x2 x3 x4 x5 x6 yA x7 x8 yA x9 w50 yA yB yC yD yE yF yG yH",
    "yI x1 x2 yA x3 x4 yA x5 x6 x7 x8 x9 w60 x1 x2 x3 x4 x5 x6 x7 yA yB yC yD yE yF yG yH uE001",
    "x2 x3 x4 x5 x6 x7 x8 yA x9 yA w10 x1 x2 x3 x4 x5 x6 yA x7 yA x8 x9 w20 yA x1 x2 x3 x4 x5 x6",
    "x7 x8 yA x9 w30 x1 x2 x3 x4 yA x6 x7 x8 uF001 yA x2 x3 x4 x5 x6 x7 x8 x9 w10 x1 x2 x3 yA x4",
    "x5 x6 x7 x8 x9 w20 x1 yA x2 x3 x4 x5 x6 x7 x8 x9 w30 x1 yA x2 x3 x4 x5 x6 x7 yA x8 yA x9",
    "w40 x1 x2 x3 x4 x5 yA x6 yA x7 yA x8 x9 w50 x1 yA yB yC x2 x3 uG001 x2 x3 x4 x5 x6 yA x7 yA",
    "yB x8 x9 w10 x1 yA x2 x3 x4 x5 x6 x7 x8 x9 w20 yA x1 x2 x3 x4 x5 x6 yA x7 x8 x9 w30 x1 x2",
    "x3 x4 x5 x6 yA x7 yA x8 x9 w40 x1 x2 x3 yA x4 x5 yA x6 x7 x8 x9 w50 x1 x2 x3 x4 uH001 x2 x3",
    "x4 x5 x6 yA x7 x8 uI001 x2 x3 x4 x5 yA x6 x7 x8 x9 yA w10 yA x1 yA x2 x3 x4 x5 uK001 x2 x3",
    "x4 x5 x6 x7 x8 uL001 x2 yA x3 x4 x5 x6 yA x7 x8 uM001 yA yB x2 x3 yA x4 x5 x6 x7 x8 x9 w10",
    "yA x1 x2 yA yB yC yD yE yF yG yH x3 x4 x5 yA x6 yA x7 yA x8 x9 w20 x1 x2 yA x3 x4 yA x5 x6",
    "x7 x8 yA x9 w30 x1 yA x2 x3 yA yB x4 x5 x6 x7 x8 x9 w40 yA x1 x2 x3 x4 uN001 x2 x3 x4 x5 x6",
    "x7 x8 x9 w10 x1 x2 x3 x4 x5 x6 x7 x8 yA yB x9 w20 x1 x2 x3 x4 x5 yA x6 x7 x8 x9 w30 x1 x2",
    "x3 yA x4 yA x5 yA x6 x7 yA x8 x9 w40 x1 x2 vL001 y2 y3 y4 y5 zA y6 y7 y8 y9 x10 y1 y2 y3 y4",
    "y5 y6 y7 zA y8 y9 x20 vU001 y2 y3 y4 y5 y6 y7 y8 y9 x10 zA y1 zA y2 y3 y4 y5 y6 y7 y8 zA y9",
    "x20 y1 y2 zA uO001 yA x2 x3 x4 x5 yA x6 yA yB yC yD yE yF x7 x8 x9 w10 yA yB yC x1 x2 x3 x4",
    "x5 x6 x7 x8 x9 yA w20 yA x1 x2 x3 x4 yA x5 yA x6 x7 x8 x9 yA w30 yA x1 x2 x3 yA x4 x5 x6 yA",
    "yB yC yD x7 x8 x9 w40 x1 x2 x3 x4 x5 x6 x7 x8 x9 w50 yA yB x1 uP001 yA x2 x3 yA x4 x5 x6 x7",
    "x8 x9 w10 x1 uQ001 x2 x3 x4 x5 x6 x7 uR001 x2 yA x3 yA yB x4 x5 x6 x7 x8 x9 w10 yA x1 x2 x3",
    "x4 x5 x6 yA x7 x8 x9 w20 x1 x2 x3 x4 x5 x6 x7 x8 x9 uS001 x2 yA x3 x4 x5 x6 yA x7 x8 x9 w10",
    "x1 x2 x3 x4 yA yB x5 x6 x7 yA x8 x9 w20 x1 x2 x3 x4 x5 x6 yA yB x7 x8 x9 w30 x1 x2 x3 x4 x5",
    "yA x6 x7 x8 x9 w40 x1 x2 x3 x4 x5 x6 uT001 x2 x3 yA x4 x5 x6 x7 yA x8 yA x9 yA w10 x1 yA x2",
    "x3 x4 x5 x6 yA x7 x8 x9 w20 x1 x2 x3 x4 x5 x6 x7 x8 x9 w30 x1 x2 yA x3 yA x4 x5 x6 uU001 x2",
    "x3 x4 x5 x6 yA yB x7 x8 x9 w10 x1 x2 x3 x4 x5 x6 x7 x8 x9 w20 x1 x2 x3 yA x4 x5 x6 x7 x8 x9",
    "yA w30 x1 x2 yA x3 x4 x5 x6 x7 x8 x9 w40 x1 x2 uV001 yA yB yC yD yE yF yG yH yI x2 yA x3 x4",
    "x5 x6 x7 yA yB x8 x9 w10 x1 yA yB yC x2 yA yB x3 x4 x5 x6 x7 x8 x9 w20 yA yB yC yD yE yF yG",
    "yH yI yJ yK yL x1 x2 x3 yA x4 x5 x6 x7 x8 yA x9 yA w30 yA x1 yA x2 x3 yA x4 x5 x6 x7 yA x8",
    "x9 w40 yA uW001 x2 x3 yA x4 x5 x6 x7 x8 x9 yA w10 yA x1 x2 x3 x4 yA x5 x6 x7 yA x8 yA x9",
    "w20 x1 x2 x3 x4 yA x5 uX001 x2 x3 x4 yA yB x5 x6 yA x7 x8 yA uY001 yA x2 x3 x4 x5 x6 x7 x8",
    "uZ001 x2 yA yB yC yD x3 yA yB x4 yA x5 yA x6 x7 x8 x9 w10 x1 x2 x3 x4 x5 yA yB yC yD yE yF",
    "yG yH yI x6 yA yB yC yD yE yF yG yH uAA001 y2 y3 y4 y5 y6 y7 zA zB y8 y9 x10 y1 y2 y3 y4 y5",
    "y6 y7 y8 y9 x20 y1 y2 y3 y4 y5 y6 y7 y8 y9 x30 y1 y2"]), (0x13430, [
    "aEGYPTIAN_HIEROGLYPH_VERTICAL_JOINER uHORIZONTAL_JOINER uINSERT_AT_TOP_START beBOTTOM_START",
    "beTOP_END beBOTTOM_END uOVERLAY_MIDDLE uBEGIN_SEGMENT uEND_SEGMENT"]),
  (0x14400, ["aANATOLIAN_HIEROGLYPH_A001 y2 y3 y4 y5 y6 y7 y8 y9 x10 zA y1 y2 y3 y4 y5 y6 y7 y8",
    "y9 x20 y1 y2 y3 y4 y5 y6 zA y7 y8 y9 x30 y1 y2 y3 y4 y5 y6 y7 y8 y9 zA x40 y1 zA y2 y3 y4",
    "y5 zA y6 zA zB y7 y8 y9 x50 y1 y2 y3 y4 y5 y6 y7 y8 y9 x60 y1 y2 y3 y4 y5 y6 zA zB zC y7 y8",
    "y9 x70 y1 y2 y3 y4 y5 y6 y7 y8 y9 x80 y1 y2 y3 y4 y5 y6 y7 y8 y9 x90 y1 y2 y3 y4 y5 y6 y7",
    "zA y8 zA y9 w100 zA y1 zA y2 zA y3 y4 zA zB zC y5 zA zB y6 y7 zA zB zC y8 y9 x10 zA zB y1",
    "y2 y3 y4 y5 zA y6 y7 y8 y9 x20 y1 y2 y3 y4 y5 zA y6 y7 y8 y9 x30 y1 y2 y3 y4 y5 zA y6 y7 y8",
    "y9 x40 y1 y2 y3 y4 y5 y6 y7 y8 y9 x50 y1 y2 y3 y4 y5 y6 y7 y8 y9 x60 y1 y2 y3 y4 y5 y6 y7",
    "y8 y9 x70 y1 y2 y3 y4 y5 y6 y7 y8 y9 x80 y1 y2 y3 y4 y5 y6 y7 y8 y9 x90 y1 y2 y3 y4 y5 y6",
    "y7 y8 y9 w200 y1 y2 zA zB y3 y4 y5 y6 y7 zA y8 y9 zA x10 y1 y2 y3 y4 y5 zA y6 zA y7 y8 y9",
    "x20 y1 y2 y3 y4 y5 y6 y7 zA y8 y9 x30 y1 y2 y3 y4 y5 y6 y7 y8 y9 x40 y1 y2 y3 y4 y5 y6 y7",
    "y8 y9 x50 y1 y2 y3 y4 y5 y6 y7 y8 y9 x60 y1 y2 y3 y4 y5 y6 y7 zA y8 y9 x70 y1 y2 y3 y4 y5",
    "y6 y7 y8 y9 x80 y1 y2 y3 y4 y5 y6 y7 y8 y9 zA x90 y1 y2 y3 y4 zA y5 y6 y7 y8 y9 zA w300 y1",
    "y2 y3 y4 y5 y6 y7 y8 y9 zA x10 y1 y2 y3 y4 y5 y6 y7 y8 y9 x20 y1 y2 y3 y4 y5 y6 y7 y8 y9 zA",
    "x30 y1 y2A zB zC y3 y4 y5 y6 zA zB zC y7 y8 y9 x40 y1 y2 y3 y4 y5 y6 y7 y8 y9 x50 y1 y2 y3",
    "y4 y5 y6 y7 y8 y9 zA x60 y1 y2 y3 y4 zA y5 y6 y7 y8 zA y9 x70 y1 zA y2 y3 y4 y5 y6 y7 y8 y9",
    "x80 y1 zA y2 y3_RA_OR_RI zA y4 y5 y6 zA y7 y8 y9 x90 y1 y2 y3_EIGHT y4 y5 y6 y7 y8 y9 w400",
    "y1 y2 y3 y4 y5 y6 y7 y8 y9 x10_BEGIN_LOGOGRAM_MARK zA_END_LOGOGRAM_MARK y1 y2 y3 y4 y5 y6",
    "y7 y8 y9 x20 y1 y2 y3 y4 y5 y6 y7 y8 y9 x30 y1 y2 y3 y4 y5 y6 y7 y8 y9 x40 y1 y2 y3 y4 y5",
    "y6 y7 y8 y9 x50 zA y1 y2 y3 y4 y5 y6 y7 zA y8 y9 x60 y1 y2 y3 y4 y5 y6 y7 y8 y9 x70 y1 y2",
    "y3 y4 y5 y6 y7 y8 y9 x80 y1 y2 y3 y4 y5 y6 y7 y8 y9 x90 y1 y2 y3 y4 y5 y6 y7 w501 y2 y3 y4",
    "y5 y6 y7 y8 y9 x10 y1 y2 y3 y4 y5 y6 y7 y8 y9 x20 y1 y2 y3 y4 y5 y6 y7 y8 y9 x30"])]

end TraceLens.CharacterName
