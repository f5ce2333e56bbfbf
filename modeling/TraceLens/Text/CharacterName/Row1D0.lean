/-!
# Names of characters from row 0x1D0 on

The names of the characters from row 0x1D0 to row 0x1DF, in runs without a gap: the first code
point, and the names in the form that `CharacterName` describes.
-/

namespace TraceLens.CharacterName

def row1D0 : List (Nat × List String) := [
  (0x1D000, ["aBYZANTINE_MUSICAL_SYMBOL_PSILI zDASEIA zPERISPOMENI zOXEIA_EKFONITIKON bfDIPLI",
    "zVAREIA_EKFONITIKON bgDIPLI zKATHISTI zSYRMATIKI zPARAKLITIKI zYPOKRISIS bi_DIPLI zKREMASTI",
    "zAPESO_EKFONITIKON zEXO_EKFONITIKON zTELEIA zKENTIMATA zAPOSTROFOS bj_DIPLI zSYNEVMA zTHITA",
    "zOLIGON_ARCHAION zGORGON_ARCHAION zPSILON zCHAMILON zVATHY zISON_ARCHAION zKENTIMA_ARCHAION",
    "bgTA_ARCHAION zSAXIMATA zPARICHON zSTAVROS_APODEXIA zOXEIAI_ARCHAION zVAREIAI_ARCHAION",
    "zAPODERMA_ARCHAION bcTHEMA zKLASMA zREVMA zPIASMA_ARCHAION zTINAGMA zANATRICHISMA zSEISMA",
    "baYNAGMA_ARCHAION bhMETA_STAVROU zOYRANISMA_ARCHAION zTHEMA zLEMOI zDYO zTRIA baESSERA",
    "zKRATIMATA zAPESO_EXO_NEO zFTHORA_ARCHAION zIMIFTHORA zTROMIKON_ARCHAION zKATAVA_TROMIKON",
    "zPELASTON baSIFISTON zKONTEVMA zCHOREVMA_ARCHAION zRAPISMA zPARAKALESMA_ARCHAION",
    "beLITIKI_ARCHAION zICHADIN zNANA zPETASMA zKONTEVMA_ALLO zTROMIKON_ALLO zSTRAGGISMATA",
    "zGRONTHISMATA zISON_NEO zOLIGON_NEO baXEIA_NEO zPETASTI zKOUFISMA zPETASTOKOUFISMA",
    "zKRATIMOKOUFISMA zPELASTON_NEO zKENTIMATA_NEO_ANO bg_NEO_ANO zYPSILI zAPOSTROFOS_NEO",
    "biI_SYNDESMOS_NEO zYPORROI zKRATIMOYPORROON zELAFRON zCHAMILI zMIKRON_ISON zVAREIA_NEO",
    "zPIASMA_NEO baSIFISTON_NEO zOMALON zANTIKENOMA zLYGISMA zPARAKLITIKI_NEO beALESMA_NEO",
    "zETERON_PARAKALESMA zKYLISMA zANTIKENOKYLISMA zTROMIKON_NEO zEKSTREPTON zSYNAGMA_NEO bbRMA",
    "zCHOREVMA_NEO zEPEGERMA zSEISMA_NEO zXIRON_KLASMA zTROMIKOPSIFISTON zPSIFISTOLYGISMA",
    "zTROMIKOLYGISMA bgPARAKALESMA zPSIFISTOPARAKALESMA zTROMIKOSYNAGMA zPSIFISTOSYNAGMA",
    "zGORGOSYNTHETON zARGOSYNTHETON zETERON_ARGOSYNTHETON zOYRANISMA_NEO zTHEMATISMOS_ESO bmXO",
    "be_APLOUN bcS_KAI_APOTHES zKATAVASMA zENDOFONON zYFEN_KATO beANO zSTAVROS zKLASMA_ANO",
    "zDIPLI_ARCHAION zKRATIMA_ARCHAION biLLO bhNEO zAPODERMA_NEO bbLI zDIPLI zTRIPLI baETRAPLI",
    "zKORONIS zLEIMMA_ENOS_CHRONOU bgDYO_CHRONON bgTRION_CHRONON bhESSARON_CHRONON",
    "bgIMISEOS_CHRONOU zGORGON_NEO_ANO bgPARESTIGMENON_ARISTERA buDEXIA zDIGORGON",
    "bh_PARESTIGMENON_ARISTERA_KATO cfANO bwDEXIA zTRIGORGON zARGON zIMIDIARGON zDIARGON",
    "zAGOGI_POLI_ARGI bfARGOTERI biI bfMETRIA bhSI bfGORGI bjOTERI bfPOLI_GORGI",
    "zMARTYRIA_PROTOS_ICHOS biALLI_PROTOS_ICHOS biDEYTEROS_ICHOS biALLI_DEYTEROS_ICHOS",
    "biTRITOS_ICHOS blFONIAS bjETARTOS_ICHOS brLEGETOS_ICHOS biLEGETOS_ICHOS biPLAGIOS_ICHOS",
    "zISAKIA_TELOUS_ICHIMATOS zAPOSTROFOI_TELOUS_ICHIMATOS zFANEROSIS_TETRAFONIAS bjMONOFONIAS",
    "bjDIFONIAS zMARTYRIA_VARYS_ICHOS biPROTOVARYS_ICHOS bjLAGIOS_TETARTOS_ICHOS",
    "zGORTHMIKON_N_APLOUN bmDIPLOUN zENARXIS_KAI_FTHORA_VOU zIMIFONON bdTHORON",
    "zFTHORA_ARCHAION_DEYTEROU_ICHOU bgDIATONIKI_PA bqNANA bgNAOS_ICHOS bgDIATONIKI_DI",
    "bgSKLIRON_DIATONON_DI bgDIATONIKI_KE bqZO bqNI_KATO btANO bgMALAKON_CHROMA_DIFONIAS",
    "bvMONOFONIAS baHTORA_SKLIRON_CHROMA_VASIS baTHORA_SKLIRON_CHROMA_SYNAFI bgNENANO",
    "zCHROA_ZYGOS bfKLITON bfSPATHI zFTHORA_I_YFESIS_TETARTIMORION bgENARMONIOS_ANTIFONIA",
    "zYFESIS_TRITIMORION zDIESIS_TRITIMORION bhETARTIMORION bgAPLI_DYO_DODEKATA",
    "bgMONOGRAMMOS_TESSERA_DODEKATA bgDIGRAMMOS_EX_DODEKATA bgTRIGRAMMOS_OKTO_DODEKATA",
    "zYFESIS_APLI_DYO_DODEKATA bgMONOGRAMMOS_TESSERA_DODEKATA bgDIGRAMMOS_EX_DODEKATA",
    "bgTRIGRAMMOS_OKTO_DODEKATA zGENIKI_DIESIS bgYFESIS zDIASTOLI_APLI_MIKRI boEGALI biDIPLI",
    "biTHESEOS zSIMANSIS_THESEOS bp_DISIMOU bqTRISIMOU brETRASIMOU biARSEOS bo_DISIMOU",
    "bpTRISIMOU bqETRASIMOU zDIGRAMMA_GG bbFTOGGOS_OU zSTIGMA zARKTIKO_PA bhVOU bhGA bhDI bhKE",
    "bhZO bhNI zKENTIMATA_NEO_MESO bg_NEO_MESO bgTA_NEO_KATO bg_NEO_KATO baLASMA_KATO",
    "zGORGON_NEO_KATO"]), (0x1D100, ["aMUSICAL_SYMBOL_SINGLE_BARLINE pDOUBLE_BARLINE",
    "pFINAL_BARLINE pREVERSE_FINAL_BARLINE pDASHED_BARLINE pSHORT_BARLINE pLEFT_REPEAT_SIGN",
    "pRIGHT_REPEAT_SIGN qEPEAT_DOTS pDAL_SEGNO r_CAPO pSEGNO pCODA pREPEATED_FIGURE-1 bf2 bf3",
    "pFERMATA w_BELOW pBREATH_MARK pCAESURA pBRACE tKET pONE-LINE_STAFF pTWO-LINE_STAFF",
    "qHREE-LINE_STAFF pFOUR-LINE_STAFF qIVE-LINE_STAFF pSIX-LINE_STAFF tSTRING_FRETBOARD",
    "pFOUR-STRING_FRETBOARD pG_CLEF v_OTTAVA_ALTA bdBASSA pC_CLEF pF_CLEF v_OTTAVA_ALTA bdBASSA",
    "pDRUM_CLEF-1 z2"]), (0x1D129, ["aMUSICAL_SYMBOL_MULTIPLE_MEASURE_REST pDOUBLE_SHARP wFLAT",
    "pFLAT_UP uDOWN pNATURAL_UP xDOWN pSHARP_UP vDOWN pQUARTER_TONE_SHARP bcFLAT pCOMMON_TIME",
    "qUT_TIME pOTTAVA_ALTA wBASSA pQUINDICESIMA_ALTA bcBASSA pMULTI_REST pWHOLE_REST pHALF_REST",
    "pQUARTER_REST pEIGHTH_REST pSIXTEENTH_REST pTHIRTY-SECOND_REST pSIXTY-FOURTH_REST",
    "pONE_HUNDRED_TWENTY-EIGHTH_REST pX_NOTEHEAD pPLUS_NOTEHEAD pCIRCLE_X_NOTEHEAD",
    "pSQUARE_NOTEHEAD_WHITE bfBLACK pTRIANGLE_NOTEHEAD_UP_WHITE bkBLACK bhLEFT_WHITE bmBLACK",
    "bhRIGHT_WHITE bnBLACK bhDOWN_WHITE bmBLACK bhUP_RIGHT_WHITE bqBLACK pMOON_NOTEHEAD_WHITE",
    "bdBLACK pTRIANGLE-ROUND_NOTEHEAD_DOWN_WHITE bsBLACK pPARENTHESIS_NOTEHEAD pVOID_NOTEHEAD",
    "pNOTEHEAD_BLACK qULL_NOTEHEAD pCLUSTER_NOTEHEAD_WHITE bgBLACK pBREVE pWHOLE_NOTE pHALF_NOTE",
    "pQUARTER_NOTE pEIGHTH_NOTE pSIXTEENTH_NOTE pTHIRTY-SECOND_NOTE pSIXTY-FOURTH_NOTE",
    "pONE_HUNDRED_TWENTY-EIGHTH_NOTE pCOMBINING_STEM baPRECHGESANG_STEM zTREMOLO-1 bh2 bh3",
    "pFINGERED_TREMOLO-1 bg2 bg3 pCOMBINING_AUGMENTATION_DOT zFLAG-1 be2 be3 be4 be5 pBEGIN_BEAM",
    "pEND_BEAM pBEGIN_TIE pEND_TIE pBEGIN_SLUR pEND_SLUR pBEGIN_PHRASE pEND_PHRASE",
    "pCOMBINING_ACCENT zSTACCATO zTENUTO zSTACCATISSIMO zMARCATO bg-STACCATO zACCENT-STACCATO",
    "zLOURE pARPEGGIATO_UP baDOWN pCOMBINING_DOIT zRIP zFLIP zSMEAR zBEND zDOUBLE_TONGUE",
    "zTRIPLE_TONGUE pRINFORZANDO pSUBITO pZ pPIANO pMEZZO pFORTE pCRESCENDO pDECRESCENDO",
    "pGRACE_NOTE_SLASH baNO_SLASH pTR qURN pINVERTED_TURN pTURN_SLASH uUP pORNAMENT_STROKE-1 bf2",
    "bf3 bf4 bf5 bf6 bf7 bf8 bf9 bf10 bg1 pHAUPTSTIMME pNEBENSTIMME pEND_OF_STIMME pDEGREE_SLASH",
    "pCOMBINING_DOWN_BOW zUP_BOW zHARMONIC zSNAP_PIZZICATO pPEDAL_MARK vUP_MARK pHALF_PEDAL_MARK",
    "pGLISSANDO_UP zDOWN pWITH_FINGERNAILS pDAMP t_ALL pMAXIMA pLONGA pBREVIS pSEMIBREVIS_WHITE",
    "baBLACK pMINIMA v_BLACK pSEMIMINIMA_WHITE baBLACK pFUSA_WHITE uBLACK pLONGA_PERFECTA_REST",
    "vIMPERFECTA_REST pBREVIS_REST pSEMIBREVIS_REST pMINIMA_REST pSEMIMINIMA_REST",
    "pTEMPUS_PERFECTUM_CUM_PROLATIONE_PERFECTA bvIMPERFECTA bvPERFECTA_DIMINUTION-1",
    "wIMPERFECTUM_CUM_PROLATIONE_PERFECTA bxIMPERFECTA ch_DIMINUTION-1 ct2 ct3 pCROIX",
    "pGREGORIAN_C_CLEF zF_CLEF pSQUARE_B pVIRGA pPODATUS pCLIVIS pSCANDICUS pCLIMACUS pTORCULUS",
    "pPORRECTUS y_FLEXUS pSCANDICUS_FLEXUS pTORCULUS_RESUPINUS pPES_SUBPUNCTIS pKIEVAN_C_CLEF",
    "wEND_OF_PIECE wFINAL_NOTE wRECITATIVE_MARK wWHOLE_NOTE wHALF_NOTE wQUARTER_NOTE_STEM_DOWN",
    "boUP wEIGHTH_NOTE_STEM_DOWN bnUP wFLAT_SIGN pSORI pKORON"]), (0x1D200, [
    "aGREEK_VOCAL_NOTATION_SYMBOL-1 bc2 bc3 bc4 bc5 bc6 bc7 bc8 bc9 bc10 bd1 bd2 bd3 bd4 bd5 bd6",
    "bd7 bd8 bd9 bc20 bd1 bd2 bd3 bd4 bc50 bd1 bd2 bd3 bd4 gINSTRUMENTAL_NOTATION_SYMBOL-1 bj2",
    "bj4 bj5 bj7 bj8 bj11 bk2 bk3 bk4 bk7 bk8 bk9 bj23 bk4 bk5 bk6 bk7 bk9 bj30 bk2 bk6 bk7 bk8",
    "bk9 bj40 bk2 bk3 bk5 bk7 bk8 bk9 bj50 bk1 bk2 bk3 bk4 aCOMBINING_GREEK_MUSICAL_TRISEME",
    "zETRASEME yPENTASEME aGREEK_MUSICAL_LEIMMA"]), (0x1D2E0, ["aMAYAN_NUMERAL_ZERO oONE oTWO",
    "pHREE oFOUR pIVE oSIX pEVEN oEIGHT oNINE oTEN oELEVEN oTWELVE pHIRTEEN oFOURTEEN pIFTEEN",
    "oSIXTEEN pEVENTEEN oEIGHTEEN oNINETEEN"]), (0x1D300, ["aMONOGRAM_FOR_EARTH",
    "aDIGRAM_FOR_HEAVENLY_EARTH mUMAN_EARTH lEARTHLY_HEAVEN uUMAN q aTETRAGRAM_FOR_CENTRE",
    "oFULL_CIRCLE oMIRED oBARRIER oKEEPING_SMALL oCONTRARIETY oASCENT oOPPOSITION oBRANCHING_OUT",
    "oDEFECTIVENESS_OR_DISTORTION pIVERGENCE oYOUTHFULNESS oINCREASE oPENETRATION oREACH",
    "oCONTACT oHOLDING_BACK oWAITING oFOLLOWING oADVANCE oRELEASE qSISTANCE oEASE oJOY",
    "oCONTENTION oENDEAVOUR oDUTIES oCHANGE oDECISIVENESS oBOLD_RESOLUTION oPACKING oLEGION",
    "oCLOSENESS oKINSHIP oGATHERING oSTRENGTH oPURITY oFULLNESS oRESIDENCE oLAW_OR_MODEL",
    "oRESPONSE oGOING_TO_MEET oENCOUNTERS oSTOVE oGREATNESS oENLARGEMENT oPATTERN oRITUAL",
    "oFLIGHT oVASTNESS_OR_WASTING oCONSTANCY oMEASURE oETERNITY oUNITY oDIMINISHMENT",
    "oCLOSED_MOUTH oGUARDEDNESS pATHERING_IN oMASSING oACCUMULATION oEMBELLISHMENT oDOUBT oWATCH",
    "oSINKING oINNER oDEPARTURE pARKENING pIMMING oEXHAUSTION oSEVERANCE pTOPPAGE oHARDNESS",
    "oCOMPLETION pLOSURE oFAILURE oAGGRAVATION oCOMPLIANCE oON_THE_VERGE oDIFFICULTIES",
    "oLABOURING oFOSTERING"]), (0x1D360, ["aCOUNTING_ROD_UNIT_DIGIT_ONE yTWO zHREE yFOUR zIVE",
    "ySIX zEVEN yEIGHT yNINE nTENS_DIGIT_ONE yTWO zHREE yFOUR zIVE ySIX zEVEN yEIGHT yNINE",
    "aIDEOGRAPHIC_TALLY_MARK_ONE xTWO yHREE xFOUR yIVE aTALLY_MARK_ONE lFIVE"]),
  (0x1D400, ["aMATHEMATICAL_BOLD_CAPITAL_A baB baC baD baE baF baG baH baI baJ baK baL baM baN",
    "baO baP baQ baR baS baT baU baV baW baX baY baZ sSMALL_A yB yC yD yE yF yG yH yI yJ yK yL",
    "yM yN yO yP yQ yR yS yT yU yV yW yX yY yZ nITALIC_CAPITAL_A bcB bcC bcD bcE bcF bcG bcH bcI",
    "bcJ bcK bcL bcM bcN bcO bcP bcQ bcR bcS bcT bcU bcV bcW bcX bcY bcZ uSMALL_A baB baC baD",
    "baE baF baG"]), (0x1D456, ["aMATHEMATICAL_ITALIC_SMALL_I baJ baK baL baM baN baO baP baQ",
    "baR baS baT baU baV baW baX baY baZ nBOLD_ITALIC_CAPITAL_A bhB bhC bhD bhE bhF bhG bhH bhI",
    "bhJ bhK bhL bhM bhN bhO bhP bhQ bhR bhS bhT bhU bhV bhW bhX bhY bhZ zSMALL_A bfB bfC bfD",
    "bfE bfF bfG bfH bfI bfJ bfK bfL bfM bfN bfO bfP bfQ bfR bfS bfT bfU bfV bfW bfX bfY bfZ",
    "nSCRIPT_CAPITAL_A"]), (0x1D49E, ["aMATHEMATICAL_SCRIPT_CAPITAL_C bcD"]),
  (0x1D4A2, ["aMATHEMATICAL_SCRIPT_CAPITAL_G"]), (0x1D4A5, ["aMATHEMATICAL_SCRIPT_CAPITAL_J bcK"]),
  (0x1D4A9, ["aMATHEMATICAL_SCRIPT_CAPITAL_N bcO bcP bcQ"]), (0x1D4AE, [
    "aMATHEMATICAL_SCRIPT_CAPITAL_S bcT bcU bcV bcW bcX bcY bcZ uSMALL_A baB baC baD"]),
  (0x1D4BB, ["aMATHEMATICAL_SCRIPT_SMALL_F"]), (0x1D4BD, ["aMATHEMATICAL_SCRIPT_SMALL_H baI baJ",
    "baK baL baM baN"]), (0x1D4C5, ["aMATHEMATICAL_SCRIPT_SMALL_P baQ baR baS baT baU baV baW",
    "baX baY baZ nBOLD_SCRIPT_CAPITAL_A bhB bhC bhD bhE bhF bhG bhH bhI bhJ bhK bhL bhM bhN bhO",
    "bhP bhQ bhR bhS bhT bhU bhV bhW bhX bhY bhZ zSMALL_A bfB bfC bfD bfE bfF bfG bfH bfI bfJ",
    "bfK bfL bfM bfN bfO bfP bfQ bfR bfS bfT bfU bfV bfW bfX bfY bfZ nFRAKTUR_CAPITAL_A bdB"]),
  (0x1D507, ["aMATHEMATICAL_FRAKTUR_CAPITAL_D bdE bdF bdG"]), (0x1D50D, [
    "aMATHEMATICAL_FRAKTUR_CAPITAL_J bdK bdL bdM bdN bdO bdP bdQ"]), (0x1D516, [
    "aMATHEMATICAL_FRAKTUR_CAPITAL_S bdT bdU bdV bdW bdX bdY"]), (0x1D51E, [
    "aMATHEMATICAL_FRAKTUR_SMALL_A bbB bbC bbD bbE bbF bbG bbH bbI bbJ bbK bbL bbM bbN bbO bbP",
    "bbQ bbR bbS bbT bbU bbV bbW bbX bbY bbZ nDOUBLE-STRUCK_CAPITAL_A bjB"]),
  (0x1D53B, ["aMATHEMATICAL_DOUBLE-STRUCK_CAPITAL_D bjE bjF bjG"]), (0x1D540, [
    "aMATHEMATICAL_DOUBLE-STRUCK_CAPITAL_I bjJ bjK bjL bjM"]), (0x1D546, [
    "aMATHEMATICAL_DOUBLE-STRUCK_CAPITAL_O"]), (0x1D54A, ["aMATHEMATICAL_DOUBLE-STRUCK_CAPITAL_S",
    "bjT bjU bjV bjW bjX bjY"]), (0x1D552, ["aMATHEMATICAL_DOUBLE-STRUCK_SMALL_A bhB bhC bhD bhE",
    "bhF bhG bhH bhI bhJ bhK bhL bhM bhN bhO bhP bhQ bhR bhS bhT bhU bhV bhW bhX bhY bhZ",
    "nBOLD_FRAKTUR_CAPITAL_A biB biC biD biE biF biG biH biI biJ biK biL biM biN biO biP biQ biR",
    "biS biT biU biV biW biX biY biZ baSMALL_A bgB bgC bgD bgE bgF bgG bgH bgI bgJ bgK bgL bgM",
    "bgN bgO bgP bgQ bgR bgS bgT bgU bgV bgW bgX bgY bgZ nSANS-SERIF_CAPITAL_A bgB bgC bgD bgE",
    "bgF bgG bgH bgI bgJ bgK bgL bgM bgN bgO bgP bgQ bgR bgS bgT bgU bgV bgW bgX bgY bgZ",
    "ySMALL_A beB beC beD beE beF beG beH beI beJ beK beL beM beN beO beP beQ beR beS beT beU",
    "beV beW beX beY beZ yBOLD_CAPITAL_A blB blC blD blE blF blG blH blI blJ blK blL blM blN blO",
    "blP blQ blR blS blT blU blV blW blX blY blZ bdSMALL_A bjB bjC bjD bjE bjF bjG bjH bjI bjJ",
    "bjK bjL bjM bjN bjO bjP bjQ bjR bjS bjT bjU bjV bjW bjX bjY bjZ yITALIC_CAPITAL_A bnB bnC",
    "bnD bnE bnF bnG bnH bnI bnJ bnK bnL bnM bnN bnO bnP bnQ bnR bnS bnT bnU bnV bnW bnX bnY bnZ",
    "bfSMALL_A blB blC blD blE blF blG blH blI blJ blK blL blM blN blO blP blQ blR blS blT blU",
    "blV blW blX blY blZ yBOLD_ITALIC_CAPITAL_A bsB bsC bsD bsE bsF bsG bsH bsI bsJ bsK bsL bsM",
    "bsN bsO bsP bsQ bsR bsS bsT bsU bsV bsW bsX bsY bsZ bkSMALL_A bqB bqC bqD bqE bqF bqG bqH",
    "bqI bqJ bqK bqL bqM bqN bqO bqP bqQ bqR bqS bqT bqU bqV bqW bqX bqY bqZ",
    "nMONOSPACE_CAPITAL_A bfB bfC bfD bfE bfF bfG bfH bfI bfJ bfK bfL bfM bfN bfO bfP bfQ bfR",
    "bfS bfT bfU bfV bfW bfX bfY bfZ xSMALL_A bdB bdC bdD bdE bdF bdG bdH bdI bdJ bdK bdL bdM",
    "bdN bdO bdP bdQ bdR bdS bdT bdU bdV bdW bdX bdY bdZ nITALIC_SMALL_DOTLESS_I biJ"]),
  (0x1D6A8, ["aMATHEMATICAL_BOLD_CAPITAL_ALPHA baBETA baGAMMA baDELTA baEPSILON baZETA baETA",
    "baTHETA baIOTA baKAPPA baLAMDA baMU baNU baXI baOMICRON baPI baRHO baTHETA_SYMBOL baSIGMA",
    "baTAU baUPSILON baPHI baCHI baPSI baOMEGA sNABLA sSMALL_ALPHA yBETA yGAMMA yDELTA yEPSILON",
    "yZETA yETA yTHETA yIOTA yKAPPA yLAMDA yMU yNU yXI yOMICRON yPI yRHO yFINAL_SIGMA ySIGMA",
    "yTAU yUPSILON yPHI yCHI yPSI yOMEGA sPARTIAL_DIFFERENTIAL sEPSILON_SYMBOL sTHETA_SYMBOL",
    "sKAPPA_SYMBOL sPHI_SYMBOL sRHO_SYMBOL sPI_SYMBOL nITALIC_CAPITAL_ALPHA bcBETA bcGAMMA",
    "bcDELTA bcEPSILON bcZETA bcETA bcTHETA bcIOTA bcKAPPA bcLAMDA bcMU bcNU bcXI bcOMICRON bcPI",
    "bcRHO bcTHETA_SYMBOL bcSIGMA bcTAU bcUPSILON bcPHI bcCHI bcPSI bcOMEGA uNABLA uSMALL_ALPHA",
    "baBETA baGAMMA baDELTA baEPSILON baZETA baETA baTHETA baIOTA baKAPPA baLAMDA baMU baNU baXI",
    "baOMICRON baPI baRHO baFINAL_SIGMA baSIGMA baTAU baUPSILON baPHI baCHI baPSI baOMEGA",
    "uPARTIAL_DIFFERENTIAL uEPSILON_SYMBOL uTHETA_SYMBOL uKAPPA_SYMBOL uPHI_SYMBOL uRHO_SYMBOL",
    "uPI_SYMBOL nBOLD_ITALIC_CAPITAL_ALPHA bhBETA bhGAMMA bhDELTA bhEPSILON bhZETA bhETA bhTHETA",
    "bhIOTA bhKAPPA bhLAMDA bhMU bhNU bhXI bhOMICRON bhPI bhRHO bhTHETA_SYMBOL bhSIGMA bhTAU",
    "bhUPSILON bhPHI bhCHI bhPSI bhOMEGA zNABLA zSMALL_ALPHA bfBETA bfGAMMA bfDELTA bfEPSILON",
    "bfZETA bfETA bfTHETA bfIOTA bfKAPPA bfLAMDA bfMU bfNU bfXI bfOMICRON bfPI bfRHO",
    "bfFINAL_SIGMA bfSIGMA bfTAU bfUPSILON bfPHI bfCHI bfPSI bfOMEGA zPARTIAL_DIFFERENTIAL",
    "zEPSILON_SYMBOL zTHETA_SYMBOL zKAPPA_SYMBOL zPHI_SYMBOL zRHO_SYMBOL zPI_SYMBOL",
    "nSANS-SERIF_BOLD_CAPITAL_ALPHA blBETA blGAMMA blDELTA blEPSILON blZETA blETA blTHETA blIOTA",
    "blKAPPA blLAMDA blMU blNU blXI blOMICRON blPI blRHO blTHETA_SYMBOL blSIGMA blTAU blUPSILON",
    "blPHI blCHI blPSI blOMEGA bdNABLA bdSMALL_ALPHA bjBETA bjGAMMA bjDELTA bjEPSILON bjZETA",
    "bjETA bjTHETA bjIOTA bjKAPPA bjLAMDA bjMU bjNU bjXI bjOMICRON bjPI bjRHO bjFINAL_SIGMA",
    "bjSIGMA bjTAU bjUPSILON bjPHI bjCHI bjPSI bjOMEGA bdPARTIAL_DIFFERENTIAL bdEPSILON_SYMBOL",
    "bdTHETA_SYMBOL bdKAPPA_SYMBOL bdPHI_SYMBOL bdRHO_SYMBOL bdPI_SYMBOL bdITALIC_CAPITAL_ALPHA",
    "bsBETA bsGAMMA bsDELTA bsEPSILON bsZETA bsETA bsTHETA bsIOTA bsKAPPA bsLAMDA bsMU bsNU bsXI",
    "bsOMICRON bsPI bsRHO bsTHETA_SYMBOL bsSIGMA bsTAU bsUPSILON bsPHI bsCHI bsPSI bsOMEGA",
    "bkNABLA bkSMALL_ALPHA bqBETA bqGAMMA bqDELTA bqEPSILON bqZETA bqETA bqTHETA bqIOTA bqKAPPA",
    "bqLAMDA bqMU bqNU bqXI bqOMICRON bqPI bqRHO bqFINAL_SIGMA bqSIGMA bqTAU bqUPSILON bqPHI",
    "bqCHI bqPSI bqOMEGA bkPARTIAL_DIFFERENTIAL bkEPSILON_SYMBOL bkTHETA_SYMBOL bkKAPPA_SYMBOL",
    "bkPHI_SYMBOL bkRHO_SYMBOL bkPI_SYMBOL nBOLD_CAPITAL_DIGAMMA sSMALL_DIGAMMA"]),
  (0x1D7CE, ["aMATHEMATICAL_BOLD_DIGIT_ZERO yONE yTWO zHREE yFOUR zIVE ySIX zEVEN yEIGHT yNINE",
    "nDOUBLE-STRUCK_DIGIT_ZERO bhONE bhTWO biHREE bhFOUR biIVE bhSIX biEVEN bhEIGHT bhNINE",
    "nSANS-SERIF_DIGIT_ZERO beONE beTWO bfHREE beFOUR bfIVE beSIX bfEVEN beEIGHT beNINE",
    "yBOLD_DIGIT_ZERO bjONE bjTWO bkHREE bjFOUR bkIVE bjSIX bkEVEN bjEIGHT bjNINE",
    "nMONOSPACE_DIGIT_ZERO bdONE bdTWO beHREE bdFOUR beIVE bdSIX beEVEN bdEIGHT bdNINE",
    "aSIGNWRITING_HAND-FIST_INDEX rCIRCLE_INDEX sUP_INDEX rOVAL_INDEX rHINGE_INDEX rANGLE_INDEX",
    "rFIST_INDEX_BENT rCIRCLE_INDEX_BENT rFIST_THUMB_UNDER_INDEX_BENT wINDEX_RAISED_KNUCKLE",
    "bcCUPPED bcHINGED bi_LOW rCIRCLE_INDEX_HINGE rFIST_INDEX_MIDDLE rCIRCLE_INDEX_MIDDLE",
    "rFIST_INDEX_MIDDLE_BENT bjRAISED_KNUCKLES bjHINGED bcUP_MIDDLE_HINGED bcHINGED_MIDDLE_UP",
    "bcMIDDLE_CONJOINED bs_INDEX_BENT btMIDDLE_BENT btCUPPED btHINGED bkROSSED",
    "rCIRCLE_INDEX_MIDDLE_CROSSED rFIST_MIDDLE_BENT_OVER_INDEX wINDEX_BENT_OVER_MIDDLE",
    "bcMIDDLE_THUMB rCIRCLE_INDEX_MIDDLE_THUMB rFIST_INDEX_MIDDLE_STRAIGHT_THUMB_BENT",
    "bjBENT_THUMB_STRAIGHT bjTHUMB_BENT bjHINGED_SPREAD_THUMB_SIDE bcUP_MIDDLE_HINGED_THUMB_SIDE",
    "bzCONJOINED bcHINGED_MIDDLE_UP_THUMB_SIDE bcMIDDLE_UP_SPREAD_THUMB_FORWARD bjTHUMB_CUPPED",
    "bqIRCLED bpHOOKED bqINGED wTHUMB_BETWEEN_INDEX_MIDDLE_STRAIGHT",
    "wINDEX_MIDDLE_CONJOINED_THUMB_SIDE cd_CONJOINED ceBENT wMIDDLE_THUMB_HOOKED_INDEX_UP",
    "wINDEX_THUMB_HOOKED_MIDDLE_UP bcMIDDLE_CONJOINED_HINGED_THUMB_SIDE bkROSSED_THUMB_SIDE",
    "bkONJOINED_THUMB_FORWARD btCUPPED_THUMB_FORWARD wMIDDLE_THUMB_CUPPED_INDEX_UP",
    "wINDEX_THUMB_CUPPED_MIDDLE_UP wMIDDLE_THUMB_CIRCLED_INDEX_UP bxHINGED",
    "wINDEX_THUMB_ANGLED_OUT_MIDDLE_UP bpIN_MIDDLE_UP biCIRCLED_MIDDLE_UP",
    "bcMIDDLE_THUMB_CONJOINED_HINGED bpANGLED_OUT bv wMIDDLE_THUMB_ANGLED_OUT_INDEX_UP caCROSSED",
    "bqINDEX_UP wINDEX_THUMB_HOOKED_MIDDLE_HINGED sLAT_FOUR_FINGERS bi_BENT bjHINGED bjCONJOINED",
    "bs_SPLIT rCLAW_FOUR_FINGERS_CONJOINED rFIST_FOUR_FINGERS_CONJOINED_BENT",
    "rHINGE_FOUR_FINGERS_CONJOINED rFLAT_FIVE_FINGERS_SPREAD wHEEL_FIVE_FINGERS_SPREAD",
    "wFIVE_FINGERS_SPREAD_FOUR_BENT wHEEL_FIVE_FINGERS_SPREAD_FOUR_BENT",
    "wFIVE_FINGERS_SPREAD_BENT wHEEL_FIVE_FINGERS_SPREAD_BENT wFIVE_FINGERS_SPREAD_THUMB_FORWARD",
    "rCUP_FIVE_FINGERS_SPREAD bo_OPEN rHINGE_FIVE_FINGERS_SPREAD_OPEN rOVAL_FIVE_FINGERS_SPREAD",
    "rFLAT_FIVE_FINGERS_SPREAD_HINGED bw_THUMB_SIDE bxNO_THUMB v v_BETWEEN_PALM_FACINGS wHEEL",
    "wTHUMB_SIDE wHEEL_THUMB_SIDE wTHUMB_BENT bcFORWARD wSPLIT_INDEX_THUMB_SIDE bcCENTRE",
    "bi_THUMB_SIDE bt_BENT bcLITTLE rCLAW v_THUMB_SIDE wNO_THUMB wTHUMB_FORWARD rHOOK_CURLICUE v",
    "rCUP_OPEN u u_OPEN_THUMB_SIDE vTHUMB_SIDE vOPEN_NO_THUMB vNO_THUMB vOPEN_THUMB_FORWARD",
    "vTHUMB_FORWARD tRLICUE_OPEN z sIRCLE rOVAL v_THUMB_SIDE wNO_THUMB wTHUMB_FORWARD",
    "rHINGE_OPEN bb_THUMB_FORWARD w w_SMALL xOPEN_THUMB_SIDE xTHUMB_SIDE xOPEN_NO_THUMB",
    "xNO_THUMB xTHUMB_SIDE_TOUCHING_INDEX bdBETWEEN_MIDDLE_RING rANGLE rFIST_INDEX_MIDDLE_RING",
    "rCIRCLE_INDEX_MIDDLE_RING rHINGE_INDEX_MIDDLE_RING rANGLE_INDEX_MIDDLE_RING rHINGE_LITTLE",
    "rFIST_INDEX_MIDDLE_RING_BENT boCONJOINED rHINGE_INDEX_MIDDLE_RING_CONJOINED",
    "rFIST_LITTLE_DOWN bh_RIPPLE_STRAIGHT bpCURVED biOTHERS_CIRCLED bdUP wTHUMB_UNDER_LITTLE_UP",
    "rCIRCLE_LITTLE_UP rOVAL_LITTLE_UP rANGLE_LITTLE_UP rFIST_LITTLE_RAISED_KNUCKLE bdBENT",
    "bdTOUCHES_THUMB beHUMB rHINGE_LITTLE_THUMB rFIST_LITTLE_INDEX_THUMB",
    "rHINGE_LITTLE_INDEX_THUMB rANGLE_LITTLE_INDEX_THUMB_INDEX_THUMB_OUT cb rFIST_LITTLE_INDEX",
    "rCIRCLE_LITTLE_INDEX rHINGE_LITTLE_INDEX rANGLE_LITTLE_INDEX rFIST_INDEX_MIDDLE_LITTLE",
    "rCIRCLE_INDEX_MIDDLE_LITTLE rHINGE_INDEX_MIDDLE_LITTLE xRING rANGLE_INDEX_MIDDLE_LITTLE",
    "rFIST_INDEX_MIDDLE_CROSS_LITTLE rCIRCLE_INDEX_MIDDLE_CROSS_LITTLE rFIST_RING_DOWN",
    "rHINGE_RING_DOWN_INDEX_THUMB_HOOK_MIDDLE rANGLE_RING_DOWN_MIDDLE_THUMB_INDEX_CROSS",
    "rFIST_RING_UP bbRAISED_KNUCKLE bbLITTLE rCIRCLE_RING_LITTLE rOVAL_RING_LITTLE",
    "rANGLE_RING_LITTLE rFIST_RING_MIDDLE bh_CONJOINED biRAISED_KNUCKLES bbINDEX bbTHUMB",
    "rHOOK_RING_THUMB rFIST_INDEX_RING_LITTLE rCIRCLE_INDEX_RING_LITTLE",
    "sURLICUE_INDEX_RING_LITTLE_ON rHOOK_INDEX_RING_LITTLE_OUT boIN boUNDER",
    "rCUP_INDEX_RING_LITTLE rHINGE_INDEX_RING_LITTLE rANGLE_INDEX_RING_LITTLE_OUT bo",
    "rFIST_MIDDLE_DOWN rHINGE_MIDDLE rFIST_MIDDLE_UP rCIRCLE_MIDDLE_UP",
    "rFIST_MIDDLE_RAISED_KNUCKLE bdUP_THUMB_SIDE rHOOK_MIDDLE_THUMB rFIST_MIDDLE_THUMB_LITTLE",
    "bdLITTLE bdRING_LITTLE rCIRCLE_MIDDLE_RING_LITTLE sURLICUE_MIDDLE_RING_LITTLE_ON",
    "tP_MIDDLE_RING_LITTLE rHINGE_MIDDLE_RING_LITTLE rANGLE_MIDDLE_RING_LITTLE_OUT bqIN bp",
    "rCIRCLE_MIDDLE_RING_LITTLE_BENT sLAW_MIDDLE_RING_LITTLE_CONJOINED by_SIDE",
    "rHOOK_MIDDLE_RING_LITTLE_CONJOINED_OUT bzIN by sINGE_INDEX_HINGED rFIST_INDEX_THUMB_SIDE",
    "rHINGE_INDEX_THUMB_SIDE rFIST_INDEX_THUMB_SIDE_THUMB_DIAGONAL btCONJOINED btBENT",
    "bnINDEX_BENT bnBOTH_BENT bnINDEX_HINGE biFORWARD_INDEX_STRAIGHT bwBENT biHOOK biCURLICUE",
    "blVE_THUMB_INSIDE rCLAW_INDEX_THUMB_CURVE_THUMB_INSIDE rFIST_INDEX_THUMB_CURVE_THUMB_UNDER",
    "bjIRCLE rCUP_INDEX_THUMB bg_OPEN rHINGE_INDEX_THUMB_OPEN bjLARGE bi bi_SMALL",
    "rANGLE_INDEX_THUMB_OUT bjIN bi rFIST_THUMB bb_HEEL bcSIDE_DIAGONAL bhCONJOINED bhBENT",
    "bcFORWARD bcBETWEEN_INDEX_MIDDLE bkMIDDLE_RING bkRING_LITTLE bcUNDER_TWO_FINGERS",
    "bcOVER_TWO_FINGERS bcUNDER_THREE_FINGERS biFOUR_FINGERS bcOVER_FOUR_RAISED_KNUCKLES v",
    "v_HEEL mTOUCH_SINGLE sMULTIPLE sBETWEEN mGRASP_SINGLE sMULTIPLE sBETWEEN mSTRIKE_SINGLE",
    "tMULTIPLE tBETWEEN mBRUSH_SINGLE sMULTIPLE sBETWEEN mRUB_SINGLE qMULTIPLE qBETWEEN",
    "mSURFACE_SYMBOLS uBETWEEN nQUEEZE_LARGE_SINGLE uSMALL_SINGLE uLARGE_MULTIPLE",
    "uSMALL_MULTIPLE vEQUENTIAL mFLICK_LARGE_SINGLE sSMALL_SINGLE sLARGE_MULTIPLE",
    "sSMALL_MULTIPLE tEQUENTIAL mSQUEEZE_FLICK_ALTERNATING mMOVEMENT-HINGE_UP_DOWN_LARGE bjSMALL",
    "beSEQUENTIAL bbDOWN_SEQUENTIAL bbUP_DOWN_ALTERNATING_LARGE bvSMALL bbSIDE_TO_SIDE_SCISSORS",
    "vWALLPLANE_FINGER_CONTACT vFLOORPLANE_FINGER_CONTACT vWALLPLANE_SINGLE_STRAIGHT_SMALL",
    "bvMEDIUM bvLARGE caST bmWRIST_FLEX bfDOUBLE_STRAIGHT bmWRIST_FLEX bmALTERNATING",
    "bx_WRIST_FLEX bfCROSS bfTRIPLE_STRAIGHT_MOVEMENT bmWRIST_FLEX bmALTERNATING bx_WRIST_FLEX",
    "bfBEND_SMALL bkMEDIUM bkLARGE bfCORNER_SMALL bmMEDIUM bmLARGE bmROTATION bgHECK_SMALL",
    "blMEDIUM blLARGE bfBOX_SMALL bjMEDIUM bjLARGE bfZIGZAG_SMALL bmMEDIUM bmLARGE bfPEAKS_SMALL",
    "blMEDIUM blLARGE mTRAVEL-WALLPLANE_ROTATION-WALLPLANE_SINGLE bwDOUBLE bwALTERNATING",
    "bmFLOORPLANE_SINGLE bxDOUBLE bxALTERNATING bdSHAKING bdARM_SPIRAL_SINGLE boDOUBLE boTRIPLE",
    "mMOVEMENT-DIAGONAL_AWAY_SMALL bjMEDIUM bjLARGE boST beTOWARDS_SMALL bmMEDIUM bmLARGE brST",
    "beBETWEEN_AWAY_SMALL brMEDIUM brLARGE bwST bmTOWARDS_SMALL buMEDIUM buLARGE bzST",
    "vFLOORPLANE_SINGLE_STRAIGHT_SMALL bwMEDIUM bwLARGE cbST bnWRIST_FLEX bgDOUBLE_STRAIGHT",
    "bnWRIST_FLEX bnALTERNATING by_WRIST_FLEX bgCROSS bgTRIPLE_STRAIGHT_MOVEMENT bnWRIST_FLEX",
    "bnALTERNATING_MOVEMENT bzWRIST_FLEX bgBEND bgCORNER_SMALL bnMEDIUM bnLARGE bhHECK",
    "bgBOX_SMALL bkMEDIUM bkLARGE bgZIGZAG_SMALL bnMEDIUM bnLARGE bgPEAKS_SMALL bmMEDIUM bmLARGE",
    "mTRAVEL-FLOORPLANE_ROTATION-FLOORPLANE_SINGLE byDOUBLE byALTERNATING bnWALLPLANE_SINGLE",
    "bxDOUBLE bxALTERNATING beSHAKING mMOVEMENT-WALLPLANE_CURVE_QUARTER_SMALL btMEDIUM btLARGE",
    "byST blHALF-CIRCLE_SMALL bxMEDIUM bxLARGE ccST blTHREE-QUARTER_CIRCLE_SMALL cgMEDIUM",
    "bfHUMP_SMALL bkMEDIUM bkLARGE bfLOOP_SMALL bkMEDIUM bkLARGE bkSMALL_DOUBLE",
    "bfWAVE_CURVE_DOUBLE_SMALL bxMEDIUM bxLARGE bqTRIPLE_SMALL bxMEDIUM bxLARGE",
    "bfCURVE_THEN_STRAIGHT bkD_CROSS_SMALL bsMEDIUM mROTATION-WALLPLANE_SINGLE bfDOUBLE",
    "bfALTERNATE mMOVEMENT-WALLPLANE_SHAKING bfCURVE_HITTING_FRONT_WALL",
    "bfHUMP_HITTING_FRONT_WALL bfLOOP_HITTING_FRONT_WALL bfWAVE_HITTING_FRONT_WALL",
    "mROTATION-WALLPLANE_SINGLE_HITTING_FRONT_WALL bfDOUBLE_HITTING_FRONT_WALL",
    "bfALTERNATING_HITTING_FRONT_WALL mMOVEMENT-WALLPLANE_CURVE_HITTING_CHEST",
    "bfHUMP_HITTING_CHEST bfLOOP_HITTING_CHEST bfWAVE_HITTING_CHEST",
    "mROTATION-WALLPLANE_SINGLE_HITTING_CHEST bfDOUBLE_HITTING_CHEST bfALTERNATING_HITTING_CHEST",
    "mMOVEMENT-WALLPLANE_WAVE_DIAGONAL_PATH_SMALL byMEDIUM byLARGE",
    "vFLOORPLANE_CURVE_HITTING_CEILING_SMALL ccLARGE bgHUMP_HITTING_CEILING_SMALL_DOUBLE",
    "cbLARGE_DOUBLE cbSMALL_TRIPLE cbLARGE_TRIPLE bgLOOP_HITTING_CEILING_SMALL_SINGLE",
    "cbLARGE_SINGLE cbSMALL_DOUBLE cbLARGE_DOUBLE bgWAVE_HITTING_CEILING_SMALL cbLARGE",
    "mROTATION-FLOORPLANE_SINGLE_HITTING_CEILING bgDOUBLE_HITTING_CEILING",
    "bgALTERNATING_HITTING_CEILING mMOVEMENT-FLOORPLANE_CURVE_HITTING_FLOOR_SMALL caLARGE",
    "bgHUMP_HITTING_FLOOR_SMALL_DOUBLE bzLARGE_DOUBLE bzTRIPLE_SMALL_TRIPLE cgLARGE_TRIPLE",
    "bgLOOP_HITTING_FLOOR_SMALL_SINGLE bzLARGE_SINGLE bzSMALL_DOUBLE bzLARGE_DOUBLE",
    "bgWAVE_HITTING_FLOOR_SMALL bzLARGE mROTATION-FLOORPLANE_SINGLE_HITTING_FLOOR",
    "bgDOUBLE_HITTING_FLOOR bgALTERNATING_HITTING_FLOOR mMOVEMENT-FLOORPLANE_CURVE_SMALL",
    "bmMEDIUM bmLARGE brST bmCOMBINED bgHUMP_SMALL bgLOOP_SMALL bgWAVE_SNAKE bmMALL blLARGE",
    "mROTATION-FLOORPLANE_SINGLE bgDOUBLE bgALTERNATING mMOVEMENT-FLOORPLANE_SHAKING_PARALLEL",
    "vWALLPLANE_ARM_CIRCLE_SMALL_SINGLE bqMEDIUM_SINGLE bqSMALL_DOUBLE bqMEDIUM_DOUBLE",
    "vFLOORPLANE_ARM_CIRCLE_HITTING_WALL_SMALL_SINGLE ceMEDIUM_SINGLE ceLARGE_SINGLE",
    "ceSMALL_DOUBLE ceMEDIUM_DOUBLE ceLARGE_DOUBLE vWALLPLANE_WRIST_CIRCLE_FRONT_SINGLE byDOUBLE",
    "vFLOORPLANE_WRIST_CIRCLE_HITTING_WALL_SINGLE cgDOUBLE vWALLPLANE_FINGER_CIRCLES_SINGLE",
    "buDOUBLE vFLOORPLANE_FINGER_CIRCLES_HITTING_WALL_SINGLE ciDOUBLE mDYNAMIC_ARROWHEAD_SMALL",
    "beLARGE uFAST uSLOW uTENSE uRELAXED uSIMULTANEOUS bg_ALTERNATING uEVERY_OTHER_TIME uGRADUAL",
    "mHEAD q_RIM rMOVEMENT-WALLPLANE_STRAIGHT bkTILT baFLOORPLANE_STRAIGHT baWALLPLANE_CURVE",
    "baFLOORPLANE_CURVE z_CIRCLE mFACE_DIRECTION_POSITION_NOSE_FORWARD_TILTING bpUP_OR_DOWN",
    "bz_TILTING mEYEBROWS_STRAIGHT_UP beNEUTRAL beDOWN mDREAMY_EYEBROWS_NEUTRAL_DOWN",
    "bcDOWN_NEUTRAL bcUP_NEUTRAL bcNEUTRAL_UP mFOREHEAD_NEUTRAL vCONTACT vWRINKLED mEYES_OPEN",
    "rSQUEEZED rCLOSED p_BLINK_SINGLE wMULTIPLE pS_HALF_OPEN rWIDE_OPEN rHALF_CLOSED",
    "rWIDENING_MOVEMENT p_WINK pLASHES_UP wDOWN wFLUTTERING pGAZE-WALLPLANE_STRAIGHT bm_DOUBLE",
    "bnALTERNATING uFLOORPLANE_STRAIGHT bn_DOUBLE boALTERNATING uWALLPLANE_CURVED",
    "uFLOORPLANE_CURVED uWALLPLANE_CIRCLING mCHEEKS_PUFFED tNEUTRAL tSUCKED mTENSE_CHEEKS_HIGH",
    "zMIDDLE zLOW mEARS mNOSE_NEUTRAL rCONTACT rWRINKLES sIGGLES mAIR_BLOWING_OUT qSUCKING_IN",
    "qBLOW_SMALL_ROTATIONS qSUCK_SMALL_ROTATIONS mBREATH_INHALE tEXHALE mMOUTH_CLOSED_NEUTRAL",
    "zFORWARD zCONTACT sSMILE x_WRINKLED yOPEN sFROWN x_WRINKLED yOPEN sOPEN_CIRCLE xFORWARD",
    "xWRINKLED xOVAL bb_WRINKLED bcYAWN xRECTANGLE bg_WRINKLED bhYAWN sKISS w_FORWARD xWRINKLED",
    "sTENSE x_FORWARD ySUCKED mLIPS_PRESSED_TOGETHER p_LOWER_OVER_UPPER qUPPER_OVER_LOWER",
    "mMOUTH_CORNERS sWRINKLES_SINGLE bbDOUBLE mTONGUE_STICKING_OUT_FAR tLICKING_LIPS",
    "tTIP_BETWEEN_LIPS xTOUCHING_INSIDE_MOUTH tINSIDE_MOUTH_RELAXED tMOVES_AGAINST_CHEEK",
    "tCENTRE_STICKING_OUT baINSIDE_MOUTH nEETH r_MOVEMENT sON_TONGUE bb_MOVEMENT vLIPS",
    "z_MOVEMENT sBITE_LIPS mMOVEMENT-WALLPLANE_JAW vFLOORPLANE_JAW mNECK mHAIR mEXCITEMENT",
    "mSHOULDER_HIP_SPINE zPOSITIONS mWALLPLANE_SHOULDER_HIP_MOVE mFLOORPLANE_SHOULDER_HIP_MOVE",
    "mSHOULDER_TILTING_FROM_WAIST mTORSO-WALLPLANE_STRAIGHT_STRETCH bcCURVED_BEND",
    "sFLOORPLANE_TWISTING mUPPER_BODY_TILTING_FROM_HIP_JOINTS mLIMB_COMBINATION rLENGTH-1 y2 y3",
    "y4 y5 y6 y7 mFINGER mLOCATION-WALLPLANE_SPACE vFLOORPLANE_SPACE u_HEIGHT vWIDTH vDEPTH",
    "vHEAD_NECK vTORSO vLIMBS_DIGITS mCOMMA mFULL_STOP mSEMICOLON mCOLON mPARENTHESIS"]),
  (0x1DA9B, ["aSIGNWRITING_FILL_MODIFIER-2 ba3 ba4 ba5 ba6"]), (0x1DAA1, [
    "aSIGNWRITING_ROTATION_MODIFIER-2 be3 be4 be5 be6 be7 be8 be9 be10 bf1 bf2 bf3 bf4 bf5 bf6"]),
  (0x1DF00, ["aLATIN_SMALL_LETTER_FENG_DIGRAPH_WITH_TRILL tREVERSED_SCRIPT_G",
    "gLETTER_SMALL_CAPITAL_TURNED_G gSMALL_LETTER_REVERSED_K gLETTER_SMALL_CAPITAL_L_WITH_BELT",
    "gSMALL_LETTER_LEZH_WITH_RETROFLEX_HOOK tTURNED_Y_WITH_BELT tREVERSED_ENG",
    "tTURNED_R_WITH_LONG_LEG_AND_RETROFLEX_HOOK u_WITH_HOOK_AND_RETROFLEX_HOOK",
    "gLETTER_RETROFLEX_CLICK_WITH_RETROFLEX_HOOK gSMALL_LETTER_ESH_WITH_DOUBLE_BAR bm_AND_CURL",
    "tTURNED_T_WITH_CURL gLETTER_INVERTED_GLOTTAL_STOP_WITH_CURL nSTRETCHED_C_WITH_CURL",
    "oMALL_CAPITAL_TURNED_K gSMALL_LETTER_L_WITH_FISHHOOK tDEZH_DIGRAPH_WITH_PALATAL_HOOK",
    "tL_WITH_BELT_AND_PALATAL_HOOK tENG_WITH_PALATAL_HOOK tTURNED_R_WITH_PALATAL_HOOK",
    "tR_WITH_FISHHOOK_AND_PALATAL_HOOK tTESH_DIGRAPH_WITH_PALATAL_HOOK tEZH_WITH_PALATAL_HOOK",
    "tDEZH_DIGRAPH_WITH_RETROFLEX_HOOK tI_WITH_STROKE_AND_RETROFLEX_HOOK tO_WITH_RETROFLEX_HOOK",
    "tTESH_DIGRAPH_WITH_RETROFLEX_HOOK tC_WITH_RETROFLEX_HOOK tS_WITH_CURL"])]

end TraceLens.CharacterName
