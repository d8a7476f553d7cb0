import SqlRoutes.Text.Names.Series

namespace SqlRoutes.Text.Names

def ancient : List Series :=
  [⟨0x10000, "LINEAR_B_SYLLABLE_", ["B008_A B038_E B028_I B061_O B010_U B001_DA B045_DE B007_DI",
    "B014_DO B051_DU B057_JA B046_JE � B036_JO B065_JU B077_KA B044_KE B067_KI B070_KO B081_KU",
    "B080_MA B013_ME B073_MI B015_MO B023_MU B006_NA B024_NE B030_NI B052_NO B055_NU B003_PA",
    "B072_PE B039_PI B011_PO B050_PU B016_QA B078_QE B021_QI B032_QO � B060_RA B027_RE B053_RI",
    "B002_RO B026_RU B031_SA B009_SE B041_SI B012_SO B058_SU B059_TA B004_TE B037_TI B005_TO",
    "B069_TU B054_WA B075_WE B040_WI B042_WO � B017_ZA B074_ZE � B020_ZO B025_A2 B043_A3 B085_AU",
    "B071_DWE B090_DWO B048_NWA B029_PU2 B062_PTE B076_RA2 B033_RA3 B068_RO2 B066_TA2 B087_TWE",
    "B091_TWO"]⟩,
   ⟨0x10050, "LINEAR_B_SYMBOL_", ["B018 B019 B022 B034 B047 B049 B056 B063 B064 B079 B082 B083",
    "B086 B089"]⟩,
   ⟨0x10080, "LINEAR_B_IDEOGRAM_", ["B100_MAN B102_WOMAN B104_DEER B105_EQUID B105F_MARE",
    "B105M_STALLION B106F_EWE B106M_RAM B107F_SHE-GOAT B107M_HE-GOAT B108F_SOW B108M_BOAR",
    "B109F_COW B109M_BULL B120_WHEAT B121_BARLEY B122_OLIVE B123_SPICE B125_CYPERUS"]⟩,
   ⟨0x10093, "LINEAR_B_", ["MONOGRAM_B127_KAPO MONOGRAM_B128_KANAKO IDEOGRAM_B130_OIL",
    "IDEOGRAM_B131_WINE IDEOGRAM_B132 MONOGRAM_B133_AREPA MONOGRAM_B135_MERI"]⟩,
   ⟨0x1009a, "LINEAR_B_IDEOGRAM_", ["B140_BRONZE B141_GOLD B142 B145_WOOL B146 B150 B151_HORN",
    "B152 B153 B154"]⟩,
   ⟨0x100a4, "LINEAR_B_MONOGRAM_B156_", ["TURO2"]⟩,
   ⟨0x100a5, "LINEAR_B_IDEOGRAM_", ["B157 B158 B159_CLOTH B160 B161 B162_GARMENT B163_ARMOUR",
    "B164 B165 B166 B167 B168 B169 B170 B171 B172 B173_MONTH B174 B176_TREE B177 B178 B179 B180",
    "B181 B182 B183 B184 B185 B189 B190 B191_HELMET B220_FOOTSTOOL B225_BATHTUB B230_SPEAR",
    "B231_ARROW B232 B233_SWORD B234 B236 B240_WHEELED_CHARIOT B241_CHARIOT B242_CHARIOT_FRAME",
    "B243_WHEEL B245 B246"]⟩,
   ⟨0x100d2, "LINEAR_B_MONOGRAM_B247_", ["DIPTE"]⟩,
   ⟨0x100d3, "LINEAR_B_IDEOGRAM_", ["B248 B249 B251 B252 B253 B254_DART B255 B256 B257 B258 B259"]⟩,
   ⟨0x100de, "LINEAR_B_IDEOGRAM_VESSEL_", ["B155 B200 B201 B202 B203 B204 B205 B206 B207 B208",
    "B209 B210 B211 B212 B213 B214 B215 B216 B217 B218 B219 B221 B222 B226 B227 B228 B229 B250",
    "B305"]⟩,
   ⟨0x10100, "AEGEAN_", ["WORD_SEPARATOR_LINE WORD_SEPARATOR_DOT CHECK_MARK"]⟩,
   ⟨0x10107, "AEGEAN_NUMBER_", ["ONE TWO THREE FOUR FIVE SIX SEVEN EIGHT NINE TEN TWENTY THIRTY",
    "FORTY FIFTY SIXTY SEVENTY EIGHTY NINETY ONE_HUNDRED TWO_HUNDRED THREE_HUNDRED FOUR_HUNDRED",
    "FIVE_HUNDRED SIX_HUNDRED SEVEN_HUNDRED EIGHT_HUNDRED NINE_HUNDRED ONE_THOUSAND TWO_THOUSAND",
    "THREE_THOUSAND FOUR_THOUSAND FIVE_THOUSAND SIX_THOUSAND SEVEN_THOUSAND EIGHT_THOUSAND",
    "NINE_THOUSAND TEN_THOUSAND TWENTY_THOUSAND THIRTY_THOUSAND FORTY_THOUSAND FIFTY_THOUSAND",
    "SIXTY_THOUSAND SEVENTY_THOUSAND EIGHTY_THOUSAND NINETY_THOUSAND"]⟩,
   ⟨0x10137, "AEGEAN_", ["WEIGHT_BASE_UNIT WEIGHT_FIRST_SUBUNIT WEIGHT_SECOND_SUBUNIT",
    "WEIGHT_THIRD_SUBUNIT WEIGHT_FOURTH_SUBUNIT DRY_MEASURE_FIRST_SUBUNIT",
    "LIQUID_MEASURE_FIRST_SUBUNIT MEASURE_SECOND_SUBUNIT MEASURE_THIRD_SUBUNIT"]⟩,
   ⟨0x10140, "GREEK_ACROPHONIC_ATTIC_", ["ONE_QUARTER ONE_HALF ONE_DRACHMA FIVE FIFTY",
    "FIVE_HUNDRED FIVE_THOUSAND FIFTY_THOUSAND FIVE_TALENTS TEN_TALENTS FIFTY_TALENTS",
    "ONE_HUNDRED_TALENTS FIVE_HUNDRED_TALENTS ONE_THOUSAND_TALENTS FIVE_THOUSAND_TALENTS",
    "FIVE_STATERS TEN_STATERS FIFTY_STATERS ONE_HUNDRED_STATERS FIVE_HUNDRED_STATERS",
    "ONE_THOUSAND_STATERS TEN_THOUSAND_STATERS FIFTY_THOUSAND_STATERS TEN_MNAS"]⟩,
   ⟨0x10158, "GREEK_ACROPHONIC_", ["HERAEUM_ONE_PLETHRON THESPIAN_ONE HERMIONIAN_ONE",
    "EPIDAUREAN_TWO THESPIAN_TWO CYRENAIC_TWO_DRACHMAS EPIDAUREAN_TWO_DRACHMAS TROEZENIAN_FIVE",
    "TROEZENIAN_TEN TROEZENIAN_TEN_ALTERNATE_FORM HERMIONIAN_TEN MESSENIAN_TEN THESPIAN_TEN",
    "THESPIAN_THIRTY TROEZENIAN_FIFTY TROEZENIAN_FIFTY_ALTERNATE_FORM HERMIONIAN_FIFTY",
    "THESPIAN_FIFTY THESPIAN_ONE_HUNDRED THESPIAN_THREE_HUNDRED EPIDAUREAN_FIVE_HUNDRED",
    "TROEZENIAN_FIVE_HUNDRED THESPIAN_FIVE_HUNDRED CARYSTIAN_FIVE_HUNDRED NAXIAN_FIVE_HUNDRED",
    "THESPIAN_ONE_THOUSAND THESPIAN_FIVE_THOUSAND DELPHIC_FIVE_MNAS STRATIAN_FIFTY_MNAS"]⟩,
   ⟨0x10175, "GREEK_", ["ONE_HALF_SIGN ONE_HALF_SIGN_ALTERNATE_FORM TWO_THIRDS_SIGN",
    "THREE_QUARTERS_SIGN YEAR_SIGN TALENT_SIGN DRACHMA_SIGN OBOL_SIGN TWO_OBOLS_SIGN",
    "THREE_OBOLS_SIGN FOUR_OBOLS_SIGN FIVE_OBOLS_SIGN METRETES_SIGN KYATHOS_BASE_SIGN LITRA_SIGN",
    "OUNKIA_SIGN XESTES_SIGN ARTABE_SIGN AROURA_SIGN GRAMMA_SIGN TRYBLION_BASE_SIGN ZERO_SIGN",
    "ONE_QUARTER_SIGN SINUSOID_SIGN INDICTION_SIGN"]⟩,
   ⟨0x1018e, "NOMISMA_", ["SIGN"]⟩,
   ⟨0x10190, "ROMAN_", ["SEXTANS_SIGN UNCIA_SIGN SEMUNCIA_SIGN SEXTULA_SIGN DIMIDIA_SEXTULA_SIGN",
    "SILIQUA_SIGN DENARIUS_SIGN QUINARIUS_SIGN SESTERTIUS_SIGN DUPONDIUS_SIGN AS_SIGN",
    "CENTURIAL_SIGN"]⟩,
   ⟨0x1019c, "", ["ASCIA_SYMBOL � � � GREEK_SYMBOL_TAU_RHO"]⟩,
   ⟨0x101d0, "PHAISTOS_DISC_SIGN_", ["PEDESTRIAN PLUMED_HEAD TATTOOED_HEAD CAPTIVE CHILD WOMAN",
    "HELMET GAUNTLET TIARA ARROW BOW SHIELD CLUB MANACLES MATTOCK SAW LID BOOMERANG",
    "CARPENTRY_PLANE DOLIUM COMB SLING COLUMN BEEHIVE SHIP HORN HIDE BULLS_LEG CAT RAM EAGLE",
    "DOVE TUNNY BEE PLANE_TREE VINE PAPYRUS ROSETTE LILY OX_BACK FLUTE GRATER STRAINER SMALL_AXE",
    "WAVY_BAND COMBINING_OBLIQUE_STROKE"]⟩,
   ⟨0x10600, "LINEAR_A_SIGN_", ["AB001 AB002 AB003 AB004 AB005 AB006 AB007 AB008 AB009 AB010",
    "AB011 AB013 AB016 AB017 AB020 AB021 AB021F AB021M AB022 AB022F AB022M AB023 AB023M AB024",
    "AB026 AB027 AB028 A028B AB029 AB030 AB031 AB034 AB037 AB038 AB039 AB040 AB041 AB044 AB045",
    "AB046 AB047 AB048 AB049 AB050 AB051 AB053 AB054 AB055 AB056 AB057 AB058 AB059 AB060 AB061",
    "AB065 AB066 AB067 AB069 AB070 AB073 AB074 AB076 AB077 AB078 AB079 AB080 AB081 AB082 AB085",
    "AB086 AB087 A100-102 AB118 AB120 A120B AB122 AB123 AB131A AB131B A131C AB164 AB171 AB180",
    "AB188 AB191 A301 A302 A303 A304 A305 A306 A307 A308 A309A A309B A309C A310 A311 A312 A313A",
    "A313B A313C A314 A315 A316 A317 A318 A319 A320 A321 A322 A323 A324 A325 A326 A327 A328 A329",
    "A330 A331 A332 A333 A334 A335 A336 A337 A338 A339 A340 A341 A342 A343 A344 A345 A346 A347",
    "A348 A349 A350 A351 A352 A353 A354 A355 A356 A357 A358 A359 A360 A361 A362 A363 A364 A365",
    "A366 A367 A368 A369 A370 A371 A400-VAS A401-VAS A402-VAS A403-VAS A404-VAS A405-VAS",
    "A406-VAS A407-VAS A408-VAS A409-VAS A410-VAS A411-VAS A412-VAS A413-VAS A414-VAS A415-VAS",
    "A416-VAS A417-VAS A418-VAS A501 A502 A503 A504 A505 A506 A508 A509 A510 A511 A512 A513 A515",
    "A516 A520 A521 A523 A524 A525 A526 A527 A528 A529 A530 A531 A532 A534 A535 A536 A537 A538",
    "A539 A540 A541 A542 A545 A547 A548 A549 A550 A551 A552 A553 A554 A555 A556 A557 A559 A563",
    "A564 A565 A566 A568 A569 A570 A571 A572 A573 A574 A575 A576 A577 A578 A579 A580 A581 A582",
    "A583 A584 A585 A586 A587 A588 A589 A591 A592 A594 A595 A596 A598 A600 A601 A602 A603 A604",
    "A606 A608 A609 A610 A611 A612 A613 A614 A615 A616 A617 A618 A619 A620 A621 A622 A623 A624",
    "A626 A627 A628 A629 A634 A637 A638 A640 A642 A643 A644 A645 A646 A648 A649 A651 A652 A653",
    "A654 A655 A656 A657 A658 A659 A660 A661 A662 A663 A664"]⟩,
   ⟨0x10740, "LINEAR_A_SIGN_", ["A701_A A702_B A703_D A704_E A705_F A706_H A707_J A708_K A709_L",
    "A709-2_L2 A709-3_L3 A709-4_L4 A709-6_L6 A710_W A711_X A712_Y A713_OMEGA A714_ABB A715_BB",
    "A717_DD A726_EYYY A732_JE"]⟩,
   ⟨0x10760, "LINEAR_A_SIGN_", ["A800 A801 A802 A803 A804 A805 A806 A807"]⟩,
   ⟨0x10800, "CYPRIOT_SYLLABLE_", ["A E I O U JA � � JO � KA KE KI KO KU LA LE LI LO LU MA ME MI",
    "MO MU NA NE NI NO NU PA PE PI PO PU RA RE RI RO RU SA SE SI SO SU TA TE TI TO TU WA WE WI",
    "WO � XA XE � � � ZA � � ZO"]⟩,
   ⟨0x12000, "CUNEIFORM_SIGN_", ["A A_TIMES_A A_TIMES_BAD A_TIMES_GAN2_TENU A_TIMES_HA",
    "A_TIMES_IGI A_TIMES_LAGAR_GUNU A_TIMES_MUSH A_TIMES_SAG A2 AB"]⟩,
   ⟨0x1200b, "CUNEIFORM_SIGN_AB_TIMES_", ["ASH2 DUN3_GUNU GAL GAN2_TENU HA IGI_GUNU IMIN LAGAB",
    "SHESH U_PLUS_U_PLUS_U"]⟩,
   ⟨0x12015, "CUNEIFORM_SIGN_", ["AB_GUNU AB2 AB2_TIMES_BALAG AB2_TIMES_GAN2_TENU",
    "AB2_TIMES_ME_PLUS_EN AB2_TIMES_SHA3 AB2_TIMES_TAK4 AD AK AK_TIMES_ERIN2",
    "AK_TIMES_SHITA_PLUS_GISH AL AL_TIMES_AL AL_TIMES_DIM2 AL_TIMES_GISH AL_TIMES_HA",
    "AL_TIMES_KAD3 AL_TIMES_KI AL_TIMES_SHE AL_TIMES_USH ALAN ALEPH AMAR AMAR_TIMES_SHE AN",
    "AN_OVER_AN AN_THREE_TIMES AN_PLUS_NAGA_OPPOSING_AN_PLUS_NAGA AN_PLUS_NAGA_SQUARED ANSHE",
    "APIN ARAD ARAD_TIMES_KUR ARKAB ASAL2 ASH ASH_ZIDA_TENU ASH_KABA_TENU",
    "ASH_OVER_ASH_TUG2_OVER_TUG2_TUG2_OVER_TUG2_PAP ASH_OVER_ASH_OVER_ASH",
    "ASH_OVER_ASH_OVER_ASH_CROSSING_ASH_OVER_ASH_OVER_ASH ASH2 ASHGAB BA BAD BAG3 BAHAR2 BAL",
    "BAL_OVER_BAL BALAG BAR BARA2 BI BI_TIMES_A BI_TIMES_GAR BI_TIMES_IGI_GUNU BU BU_OVER_BU_AB",
    "BU_OVER_BU_UN BU_CROSSING_BU BULUG BULUG_OVER_BULUG BUR BUR2 DA DAG"]⟩,
   ⟨0x12057, "CUNEIFORM_SIGN_DAG_KISIM5_TIMES_", ["A_PLUS_MASH AMAR BALAG BI GA GA_PLUS_MASH GI",
    "GIR2 GUD HA IR IR_PLUS_LU KAK LA LU LU_PLUS_MASH2 LUM NE PAP_PLUS_PAP SI TAK4 U2_PLUS_GIR2",
    "USH"]⟩,
   ⟨0x1206e, "CUNEIFORM_SIGN_", ["DAM DAR DARA3 DARA4 DI DIB DIM DIM_TIMES_SHE DIM2 DIN",
    "DIN_KASKAL_U_GUNU_DISH DISH DU DU_OVER_DU DU_GUNU DU_SHESHIG DUB DUB_TIMES_ESH2 DUB2 DUG",
    "DUGUD DUH DUN DUN3 DUN3_GUNU DUN3_GUNU_GUNU DUN4 DUR2 E E_TIMES_PAP E_OVER_E_NUN_OVER_NUN",
    "E2 E2_TIMES_A_PLUS_HA_PLUS_DA E2_TIMES_GAR E2_TIMES_MI E2_TIMES_SAL E2_TIMES_SHE E2_TIMES_U",
    "EDIN EGIR EL EN EN_TIMES_GAN2 EN_TIMES_GAN2_TENU EN_TIMES_ME EN_CROSSING_EN EN_OPPOSING_EN",
    "EN_SQUARED EREN ERIN2 ESH2 EZEN"]⟩,
   ⟨0x120a2, "CUNEIFORM_SIGN_EZEN_TIMES_", ["A A_PLUS_LAL A_PLUS_LAL_TIMES_LAL AN BAD DUN3_GUNU",
    "DUN3_GUNU_GUNU HA HA_GUNU IGI_GUNU KASKAL KASKAL_SQUARED KU3 LA LAL_TIMES_LAL LI LU U2 UD"]⟩,
   ⟨0x120b5, "CUNEIFORM_SIGN_", ["GA GA_GUNU GA2"]⟩,
   ⟨0x120b8, "CUNEIFORM_SIGN_GA2_TIMES_", ["A_PLUS_DA_PLUS_HA A_PLUS_HA A_PLUS_IGI",
    "AB2_TENU_PLUS_TAB AN ASH ASH2_PLUS_GAL BAD BAR_PLUS_RA BUR BUR_PLUS_RA DA DI DIM_TIMES_SHE",
    "DUB EL EL_PLUS_LA EN EN_TIMES_GAN2_TENU GAN2_TENU GAR GI GI4 GI4_PLUS_A GIR2_PLUS_SU",
    "HA_PLUS_LU_PLUS_ESH2 HAL HAL_PLUS_LA HI_PLUS_LI HUB2 IGI_GUNU ISH_PLUS_HU_PLUS_ASH KAK",
    "KASKAL KID KID_PLUS_LAL KU3_PLUS_AN LA ME_PLUS_EN MI NUN NUN_OVER_NUN PA SAL SAR SHE",
    "SHE_PLUS_TUR SHID SUM TAK4 U UD UD_PLUS_DU"]⟩,
   ⟨0x120ed, "CUNEIFORM_SIGN_", ["GA2_OVER_GA2 GABA GABA_CROSSING_GABA GAD",
    "GAD_OVER_GAD_GAR_OVER_GAR GAL GAL_GAD_OVER_GAD_GAR_OVER_GAR GALAM GAM GAN GAN2 GAN2_TENU",
    "GAN2_OVER_GAN2 GAN2_CROSSING_GAN2 GAR GAR3 GASHAN GESHTIN GESHTIN_TIMES_KUR GI GI_TIMES_E",
    "GI_TIMES_U GI_CROSSING_GI GI4 GI4_OVER_GI4 GI4_CROSSING_GI4 GIDIM GIR2 GIR2_GUNU GIR3",
    "GIR3_TIMES_A_PLUS_IGI GIR3_TIMES_GAN2_TENU GIR3_TIMES_IGI GIR3_TIMES_LU_PLUS_IGI",
    "GIR3_TIMES_PA GISAL GISH GISH_CROSSING_GISH GISH_TIMES_BAD GISH_TIMES_TAK4 GISH_TENU GU",
    "GU_CROSSING_GU GU2 GU2_TIMES_KAK GU2_TIMES_KAK_TIMES_IGI_GUNU GU2_TIMES_NUN",
    "GU2_TIMES_SAL_PLUS_TUG2 GU2_GUNU GUD GUD_TIMES_A_PLUS_KUR GUD_TIMES_KUR GUD_OVER_GUD_LUGAL",
    "GUL GUM GUM_TIMES_SHE GUR GUR7 GURUN GURUSH HA HA_TENU HA_GUNU HAL HI HI_TIMES_ASH",
    "HI_TIMES_ASH2 HI_TIMES_BAD HI_TIMES_DISH HI_TIMES_GAD HI_TIMES_KIN HI_TIMES_NUN",
    "HI_TIMES_SHE HI_TIMES_U HU HUB2 HUB2_TIMES_AN HUB2_TIMES_HAL HUB2_TIMES_KASKAL",
    "HUB2_TIMES_LISH HUB2_TIMES_UD HUL2 I I_A IB IDIM IDIM_OVER_IDIM_BUR IDIM_OVER_IDIM_SQUARED",
    "IG IGI IGI_DIB IGI_RI IGI_OVER_IGI_SHIR_OVER_SHIR_UD_OVER_UD IGI_GUNU IL IL_TIMES_GAN2_TENU",
    "IL2 IM IM_TIMES_TAK4 IM_CROSSING_IM IM_OPPOSING_IM IM_SQUARED IMIN IN IR ISH KA"]⟩,
   ⟨0x12158, "CUNEIFORM_SIGN_KA_TIMES_", ["A AD AD_PLUS_KU3 ASH2 BAD BALAG BAR BI ERIN2 ESH2 GA",
    "GAL GAN2_TENU GAR GAR_PLUS_SHA3_PLUS_A GI GIR2 GISH_PLUS_SAR GISH_CROSSING_GISH GU GUR7 IGI",
    "IM KAK KI KID LI LU ME ME_PLUS_DU ME_PLUS_GI ME_PLUS_TE MI MI_PLUS_NUNUZ NE NUN PI RU SA",
    "SAR SHA SHE SHID SHU SIG SUHUR TAR U U2 UD UMUM_TIMES_PA USH ZI"]⟩,
   ⟨0x1218d, "CUNEIFORM_SIGN_", ["KA2 KA2_CROSSING_KA2 KAB KAD2 KAD3 KAD4 KAD5 KAD5_OVER_KAD5",
    "KAK KAK_TIMES_IGI_GUNU KAL KAL_TIMES_BAD KAL_CROSSING_KAL KAM2 KAM4 KASKAL",
    "KASKAL_LAGAB_TIMES_U_OVER_LAGAB_TIMES_U KASKAL_OVER_KASKAL_LAGAB_TIMES_U_OVER_LAGAB_TIMES_U",
    "KESH2 KI KI_TIMES_BAD KI_TIMES_U KI_TIMES_UD KID KIN KISAL KISH KISIM5 KISIM5_OVER_KISIM5",
    "KU KU_OVER_HI_TIMES_ASH2_KU_OVER_HI_TIMES_ASH2 KU3 KU4 KU4_VARIANT_FORM KU7 KUL KUL_GUNU",
    "KUN KUR KUR_OPPOSING_KUR KUSHU2 KWU318 LA LAGAB"]⟩,
   ⟨0x121b9, "CUNEIFORM_SIGN_LAGAB_TIMES_", ["A A_PLUS_DA_PLUS_HA A_PLUS_GAR A_PLUS_LAL AL AN",
    "ASH_ZIDA_TENU BAD BI DAR EN GA GAR GUD GUD_PLUS_GUD HA HAL HI_TIMES_NUN IGI_GUNU IM",
    "IM_PLUS_HA IM_PLUS_LU KI KIN KU3 KUL KUL_PLUS_HI_PLUS_A LAGAB LISH LU LUL ME ME_PLUS_EN",
    "MUSH NE SHE_PLUS_SUM SHITA_PLUS_GISH_PLUS_ERIN2 SHITA_PLUS_GISH_TENU SHU2 SHU2_PLUS_SHU2",
    "SUM TAG TAK4 TE_PLUS_A_PLUS_SU_PLUS_NA U U_PLUS_A U_PLUS_U_PLUS_U U2_PLUS_ASH UD USH"]⟩,
   ⟨0x121eb, "CUNEIFORM_SIGN_", ["LAGAB_SQUARED LAGAR LAGAR_TIMES_SHE LAGAR_TIMES_SHE_PLUS_SUM",
    "LAGAR_GUNU LAGAR_GUNU_OVER_LAGAR_GUNU_SHE LAHSHU LAL LAL_TIMES_LAL LAM LAM_TIMES_KUR",
    "LAM_TIMES_KUR_PLUS_RU LI LIL LIMMU2 LISH LU LU_TIMES_BAD LU2"]⟩,
   ⟨0x121fe, "CUNEIFORM_SIGN_LU2_TIMES_", ["AL BAD ESH2 ESH2_TENU GAN2_TENU HI_TIMES_BAD IM KAD2",
    "KAD3 KAD3_PLUS_ASH KI LA_PLUS_ASH LAGAB ME_PLUS_EN NE NU SI_PLUS_ASH SIK2_PLUS_BU TUG2"]⟩,
   ⟨0x12211, "CUNEIFORM_SIGN_", ["LU2_TENU LU2_CROSSING_LU2 LU2_OPPOSING_LU2 LU2_SQUARED",
    "LU2_SHESHIG LU3 LUGAL LUGAL_OVER_LUGAL LUGAL_OPPOSING_LUGAL LUGAL_SHESHIG LUH LUL LUM",
    "LUM_OVER_LUM LUM_OVER_LUM_GAR_OVER_GAR MA MA_TIMES_TAK4 MA_GUNU MA2 MAH MAR MASH MASH2 ME",
    "MES MI MIN MU MU_OVER_MU MUG MUG_GUNU MUNSUB MURGU2 MUSH MUSH_TIMES_A MUSH_TIMES_KUR",
    "MUSH_TIMES_ZA MUSH_OVER_MUSH MUSH_OVER_MUSH_TIMES_A_PLUS_NA MUSH_CROSSING_MUSH MUSH3",
    "MUSH3_TIMES_A MUSH3_TIMES_A_PLUS_DI MUSH3_TIMES_DI MUSH3_GUNU NA NA2 NAGA NAGA_INVERTED",
    "NAGA_TIMES_SHU_TENU NAGA_OPPOSING_NAGA NAGAR NAM_NUTILLU NAM NAM2 NE NE_TIMES_A NE_TIMES_UD",
    "NE_SHESHIG NI NI_TIMES_E NI2 NIM NIM_TIMES_GAN2_TENU NIM_TIMES_GAR_PLUS_GAN2_TENU NINDA2"]⟩,
   ⟨0x12253, "CUNEIFORM_SIGN_NINDA2_TIMES_", ["AN ASH ASH_PLUS_ASH GUD ME_PLUS_GAN2_TENU NE NUN",
    "SHE SHE_PLUS_A_AN SHE_PLUS_ASH SHE_PLUS_ASH_PLUS_ASH U2_PLUS_ASH USH"]⟩,
   ⟨0x12260, "CUNEIFORM_SIGN_", ["NISAG NU NU11 NUN NUN_LAGAR_TIMES_GAR NUN_LAGAR_TIMES_MASH",
    "NUN_LAGAR_TIMES_SAL NUN_LAGAR_TIMES_SAL_OVER_NUN_LAGAR_TIMES_SAL NUN_LAGAR_TIMES_USH",
    "NUN_TENU NUN_OVER_NUN NUN_CROSSING_NUN NUN_CROSSING_NUN_LAGAR_OVER_LAGAR NUNUZ"]⟩,
   ⟨0x1226e, "CUNEIFORM_SIGN_NUNUZ_AB2_TIMES_", ["ASHGAB BI DUG GUD IGI_GUNU KAD3 LA NE SILA3 U2"]⟩,
   ⟨0x12278, "CUNEIFORM_SIGN_", ["NUNUZ_KISIM5_TIMES_BI NUNUZ_KISIM5_TIMES_BI_U PA PAD PAN PAP",
    "PESH2 PI PI_TIMES_A PI_TIMES_AB PI_TIMES_BI PI_TIMES_BU PI_TIMES_E PI_TIMES_I PI_TIMES_IB",
    "PI_TIMES_U PI_TIMES_U2 PI_CROSSING_PI PIRIG PIRIG_TIMES_KAL PIRIG_TIMES_UD PIRIG_TIMES_ZA",
    "PIRIG_OPPOSING_PIRIG RA RAB RI RU SA SAG_NUTILLU SAG"]⟩,
   ⟨0x12296, "CUNEIFORM_SIGN_SAG_TIMES_", ["A DU DUB HA KAK KUR LUM MI NUN SAL SHID TAB U2 UB UM",
    "UR USH"]⟩,
   ⟨0x122a7, "CUNEIFORM_SIGN_", ["SAG_OVER_SAG SAG_GUNU SAL SAL_LAGAB_TIMES_ASH2 SANGA2 SAR SHA",
    "SHA3"]⟩,
   ⟨0x122af, "CUNEIFORM_SIGN_SHA3_TIMES_", ["A BAD GISH NE SHU2 TUR U U_PLUS_A"]⟩,
   ⟨0x122b7, "CUNEIFORM_SIGN_", ["SHA6 SHAB6 SHAR2 SHE SHE_HU",
    "SHE_OVER_SHE_GAD_OVER_GAD_GAR_OVER_GAR SHE_OVER_SHE_TAB_OVER_TAB_GAR_OVER_GAR SHEG9 SHEN",
    "SHESH SHESH2 SHESHLAM SHID SHID_TIMES_A SHID_TIMES_IM SHIM"]⟩,
   ⟨0x122c7, "CUNEIFORM_SIGN_SHIM_TIMES_", ["A BAL BULUG DIN GAR IGI IGI_GUNU KUSHU2 LUL MUG SAL"]⟩,
   ⟨0x122d2, "CUNEIFORM_SIGN_", ["SHINIG SHIR SHIR_TENU SHIR_OVER_SHIR_BUR_OVER_BUR SHITA SHU",
    "SHU_OVER_INVERTED_SHU SHU2 SHUBUR SI SI_GUNU SIG SIG4 SIG4_OVER_SIG4_SHU2 SIK2 SILA3 SU",
    "SU_OVER_SU SUD SUD2 SUHUR SUM SUMASH SUR SUR9 TA TA_ASTERISK TA_TIMES_HI TA_TIMES_MI",
    "TA_GUNU TAB TAB_OVER_TAB_NI_OVER_NI_DISH_OVER_DISH TAB_SQUARED TAG TAG_TIMES_BI",
    "TAG_TIMES_GUD TAG_TIMES_SHE TAG_TIMES_SHU TAG_TIMES_TUG2 TAG_TIMES_UD TAK4 TAR TE TE_GUNU",
    "TI TI_TENU TIL TIR TIR_TIMES_TAK4 TIR_OVER_TIR TIR_OVER_TIR_GAD_OVER_GAD_GAR_OVER_GAR TU",
    "TUG2 TUK TUM TUR TUR_OVER_TUR_ZA_OVER_ZA U U_GUD U_U_U U_OVER_U_PA_OVER_PA_GAR_OVER_GAR",
    "U_OVER_U_SUR_OVER_SUR U_OVER_U_U_REVERSED_OVER_U_REVERSED U2 UB UD UD_KUSHU2 UD_TIMES_BAD",
    "UD_TIMES_MI UD_TIMES_U_PLUS_U_PLUS_U UD_TIMES_U_PLUS_U_PLUS_U_GUNU UD_GUNU UD_SHESHIG",
    "UD_SHESHIG_TIMES_BAD UDUG UM UM_TIMES_LAGAB UM_TIMES_ME_PLUS_DA UM_TIMES_SHA3 UM_TIMES_U",
    "UMBIN UMUM UMUM_TIMES_KASKAL UMUM_TIMES_PA UN UN_GUNU UR UR_CROSSING_UR UR_SHESHIG UR2",
    "UR2_TIMES_A_PLUS_HA UR2_TIMES_A_PLUS_NA UR2_TIMES_AL UR2_TIMES_HA UR2_TIMES_NUN",
    "UR2_TIMES_U2 UR2_TIMES_U2_PLUS_ASH UR2_TIMES_U2_PLUS_BI UR4 URI URI3 URU"]⟩,
   ⟨0x12338, "CUNEIFORM_SIGN_URU_TIMES_", ["A ASHGAB BAR DUN GA GAL GAN2_TENU GAR GU HA IGI IM",
    "ISH KI LUM MIN PA SHE SIG4 TU U_PLUS_GUD UD URUDA"]⟩,
   ⟨0x1234f, "CUNEIFORM_SIGN_", ["URUDA URUDA_TIMES_U USH USH_TIMES_A USH_TIMES_KU USH_TIMES_KUR",
    "USH_TIMES_TAK4 USHX USH2 USHUMX UTUKI UZ3 UZ3_TIMES_KASKAL UZU ZA ZA_TENU",
    "ZA_SQUARED_TIMES_KUR ZAG ZAMX ZE2 ZI ZI_OVER_ZI ZI3 ZIB ZIB_KABA_TENU ZIG ZIZ2 ZU ZU5",
    "ZU5_TIMES_A ZUBUR ZUM KAP_ELAMITE AB_TIMES_NUN AB2_TIMES_A AMAR_TIMES_KUG",
    "DAG_KISIM5_TIMES_U2_PLUS_MASH DAG3 DISH_PLUS_SHU DUB_TIMES_SHE EZEN_TIMES_GUD",
    "EZEN_TIMES_SHE GA2_TIMES_AN_PLUS_KAK_PLUS_A GA2_TIMES_ASH2 GE22 GIG HUSH"]⟩,
   ⟨0x1237e, "CUNEIFORM_SIGN_KA_TIMES_", ["ANSHE ASH3 GISH GUD HI_TIMES_ASH2 LUM PA SHUL TU UR2"]⟩,
   ⟨0x12388, "CUNEIFORM_SIGN_", ["LAGAB_TIMES_GI LU2_SHESHIG_TIMES_BAD LU2_TIMES_ESH2_PLUS_LAL",
    "LU2_TIMES_SHU MESH MUSH3_TIMES_ZA NA4 NIN NIN9 NINDA2_TIMES_BAL NINDA2_TIMES_GI",
    "NU11_ROTATED_NINETY_DEGREES PESH2_ASTERISK PIR2 SAG_TIMES_IGI_GUNU TI2 UM_TIMES_ME U_U"]⟩,
   ⟨0x12400, "CUNEIFORM_NUMERIC_SIGN_", ["TWO_ASH THREE_ASH FOUR_ASH FIVE_ASH SIX_ASH SEVEN_ASH",
    "EIGHT_ASH NINE_ASH THREE_DISH FOUR_DISH FIVE_DISH SIX_DISH SEVEN_DISH EIGHT_DISH NINE_DISH",
    "FOUR_U FIVE_U SIX_U SEVEN_U EIGHT_U NINE_U ONE_GESH2 TWO_GESH2 THREE_GESH2 FOUR_GESH2",
    "FIVE_GESH2 SIX_GESH2 SEVEN_GESH2 EIGHT_GESH2 NINE_GESH2 ONE_GESHU TWO_GESHU THREE_GESHU",
    "FOUR_GESHU FIVE_GESHU TWO_SHAR2 THREE_SHAR2 THREE_SHAR2_VARIANT_FORM FOUR_SHAR2 FIVE_SHAR2",
    "SIX_SHAR2 SEVEN_SHAR2 EIGHT_SHAR2 NINE_SHAR2 ONE_SHARU TWO_SHARU THREE_SHARU",
    "THREE_SHARU_VARIANT_FORM FOUR_SHARU FIVE_SHARU SHAR2_TIMES_GAL_PLUS_DISH",
    "SHAR2_TIMES_GAL_PLUS_MIN ONE_BURU TWO_BURU THREE_BURU THREE_BURU_VARIANT_FORM FOUR_BURU",
    "FIVE_BURU THREE_VARIANT_FORM_ESH16 THREE_VARIANT_FORM_ESH21 FOUR_VARIANT_FORM_LIMMU",
    "FOUR_VARIANT_FORM_LIMMU4 FOUR_VARIANT_FORM_LIMMU_A FOUR_VARIANT_FORM_LIMMU_B",
    "SIX_VARIANT_FORM_ASH9 SEVEN_VARIANT_FORM_IMIN3 SEVEN_VARIANT_FORM_IMIN_A",
    "SEVEN_VARIANT_FORM_IMIN_B EIGHT_VARIANT_FORM_USSU EIGHT_VARIANT_FORM_USSU3",
    "NINE_VARIANT_FORM_ILIMMU NINE_VARIANT_FORM_ILIMMU3 NINE_VARIANT_FORM_ILIMMU4",
    "NINE_VARIANT_FORM_ILIMMU_A TWO_ASH_TENU THREE_ASH_TENU FOUR_ASH_TENU FIVE_ASH_TENU",
    "SIX_ASH_TENU ONE_BAN2 TWO_BAN2 THREE_BAN2 FOUR_BAN2 FOUR_BAN2_VARIANT_FORM FIVE_BAN2",
    "FIVE_BAN2_VARIANT_FORM NIGIDAMIN NIGIDAESH ONE_ESHE3 TWO_ESHE3 ONE_THIRD_DISH",
    "TWO_THIRDS_DISH FIVE_SIXTHS_DISH ONE_THIRD_VARIANT_FORM_A TWO_THIRDS_VARIANT_FORM_A",
    "ONE_EIGHTH_ASH ONE_QUARTER_ASH OLD_ASSYRIAN_ONE_SIXTH OLD_ASSYRIAN_ONE_QUARTER",
    "ONE_QUARTER_GUR ONE_HALF_GUR ELAMITE_ONE_THIRD ELAMITE_TWO_THIRDS ELAMITE_FORTY",
    "ELAMITE_FIFTY FOUR_U_VARIANT_FORM FIVE_U_VARIANT_FORM SIX_U_VARIANT_FORM",
    "SEVEN_U_VARIANT_FORM EIGHT_U_VARIANT_FORM NINE_U_VARIANT_FORM"]⟩,
   ⟨0x12470, "CUNEIFORM_PUNCTUATION_SIGN_", ["OLD_ASSYRIAN_WORD_DIVIDER VERTICAL_COLON",
    "DIAGONAL_COLON DIAGONAL_TRICOLON DIAGONAL_QUADCOLON"]⟩,
   ⟨0x12480, "CUNEIFORM_SIGN_", ["AB_TIMES_NUN_TENU AB_TIMES_SHU2 AD_TIMES_ESH2",
    "BAD_TIMES_DISH_TENU BAHAR2_TIMES_AB2 BAHAR2_TIMES_NI BAHAR2_TIMES_ZA BU_OVER_BU_TIMES_NA2",
    "DA_TIMES_TAK4 DAG_TIMES_KUR DIM_TIMES_IGI DIM_TIMES_U_U_U DIM2_TIMES_UD"]⟩,
   ⟨0x1248d, "CUNEIFORM_SIGN_DUG_TIMES_", ["ANSHE ASH ASH_AT_LEFT DIN DUN ERIN2 GA GI GIR2_GUNU",
    "GISH HA HI IGI_GUNU KASKAL KUR KUSHU2 KUSHU2_PLUS_KASKAL LAK-020 LAM LAM_TIMES_KUR",
    "LUH_PLUS_GISH MASH MES MI NI PI SHE SI_GUNU"]⟩,
   ⟨0x124a9, "CUNEIFORM_SIGN_", ["E2_TIMES_KUR E2_TIMES_PAP ERIN2_X ESH2_CROSSING_ESH2"]⟩,
   ⟨0x124ad, "CUNEIFORM_SIGN_EZEN_SHESHIG_TIMES_", ["ASH HI IGI_GUNU LA LAL ME MES SU"]⟩,
   ⟨0x124b5, "CUNEIFORM_SIGN_EZEN_TIMES_", ["SU"]⟩,
   ⟨0x124b6, "CUNEIFORM_SIGN_GA2_TIMES_", ["BAHAR2 DIM_GUNU DUG_TIMES_IGI_GUNU DUG_TIMES_KASKAL",
    "EREN GA GAR_PLUS_DI GAR_PLUS_NE HA_PLUS_A KUSHU2_PLUS_KASKAL LAM LAM_TIMES_KUR LUH MUSH NE",
    "NE_PLUS_E2 NE_PLUS_GI SHIM ZIZ2"]⟩,
   ⟨0x124c9, "CUNEIFORM_SIGN_", ["GABA_ROTATED_NINETY_DEGREES GESHTIN_TIMES_U",
    "GISH_TIMES_GISH_CROSSING_GISH GU2_TIMES_IGI_GUNU GUD_PLUS_GISH_TIMES_TAK4 HA_TENU_GUNU",
    "HI_TIMES_ASH_OVER_HI_TIMES_ASH KA_TIMES_BU KA_TIMES_KA KA_TIMES_U_U_U KA_TIMES_UR",
    "LAGAB_TIMES_ZU_OVER_ZU"]⟩,
   ⟨0x124d5, "CUNEIFORM_SIGN_LAK-", ["003 021 025 030 050 051 062 079_OVER_LAK-079_GUNU 080",
    "081_OVER_LAK-081 092 130 142 210 219 220 225 228 238 265 266 343 347 348 383 384 390 441",
    "449 449_TIMES_GU 449_TIMES_IGI 449_TIMES_PAP_PLUS_LU3 449_TIMES_PAP_PLUS_PAP_PLUS_LU3",
    "449_TIMES_U2_PLUS_BA 450 457 470 483 490 492 493 495 550 608 617"]⟩,
   ⟨0x12502, "CUNEIFORM_SIGN_LAK-617_TIMES_", ["ASH BAD DUN3_GUNU_GUNU KU3 LA TAR TE U2 UD URUDA"]⟩,
   ⟨0x1250c, "CUNEIFORM_SIGN_LAK-", ["636 648"]⟩,
   ⟨0x1250e, "CUNEIFORM_SIGN_LAK-648_TIMES_", ["DUB GA IGI IGI_GUNU NI PAP_PLUS_PAP_PLUS_LU3",
    "SHESH_PLUS_KI UD URUDA"]⟩,
   ⟨0x12517, "CUNEIFORM_SIGN_", ["LAK-724 LAK-749 LU2_GUNU_TIMES_ASH LU2_TIMES_DISH",
    "LU2_TIMES_HAL LU2_TIMES_PAP LU2_TIMES_PAP_PLUS_PAP_PLUS_LU3 LU2_TIMES_TAK4 MI_PLUS_ZA7",
    "MUSH_OVER_MUSH_TIMES_GA MUSH_OVER_MUSH_TIMES_KAK"]⟩,
   ⟨0x12522, "CUNEIFORM_SIGN_NINDA2_TIMES_", ["DIM_GUNU GISH GUL HI KESH2 LAK-050 MASH",
    "PAP_PLUS_PAP U U_PLUS_U URUDA"]⟩,
   ⟨0x1252d, "CUNEIFORM_SIGN_", ["SAG_GUNU_TIMES_HA SAG_TIMES_EN SAG_TIMES_SHE_AT_LEFT",
    "SAG_TIMES_TAK4 SHA6_TENU SHE_OVER_SHE SHE_PLUS_HUB2 SHE_PLUS_NAM2 SHE_PLUS_SAR",
    "SHU2_PLUS_DUG_TIMES_NI SHU2_PLUS_E2_TIMES_AN SI_TIMES_TAK4 TAK4_PLUS_SAG",
    "TUM_TIMES_GAN2_TENU TUM_TIMES_THREE_DISH UR2_INVERTED UR2_TIMES_UD URU_TIMES_DARA3",
    "URU_TIMES_LAK-668 URU_TIMES_LU3 ZA7 ZU_OVER_ZU_PLUS_SAR ZU5_TIMES_THREE_DISH_TENU"]⟩,
   ⟨0x12f90, "CYPRO-MINOAN_SIGN_", ["CM001 CM002 CM004 CM005 CM006 CM007 CM008 CM009 CM010 CM011",
    "CM012 CM012B CM013 CM015 CM017 CM019 CM021 CM023 CM024 CM025 CM026 CM027 CM028 CM029 CM030",
    "CM033 CM034 CM035 CM036 CM037 CM038 CM039 CM040 CM041 CM044 CM046 CM047 CM049 CM050 CM051",
    "CM052 CM053 CM054 CM055 CM056 CM058 CM059 CM060 CM061 CM062 CM063 CM064 CM066 CM067 CM068",
    "CM069 CM070 CM071 CM072 CM073 CM074 CM075 CM075B CM076 CM078 CM079 CM080 CM081 CM082 CM083",
    "CM084 CM085 CM086 CM087 CM088 CM089 CM090 CM091 CM092 CM094 CM095 CM096 CM097 CM098 CM099",
    "CM100 CM101 CM102 CM103 CM104 CM105 CM107 CM108 CM109 CM110 CM112 CM114 CM301 CM302"]⟩,
   ⟨0x13000, "EGYPTIAN_HIEROGLYPH_", ["A001 A002 A003 A004 A005 A005A A006 A006A A006B A007 A008",
    "A009 A010 A011 A012 A013 A014 A014A A015 A016 A017 A017A A018 A019 A020 A021 A022 A023 A024",
    "A025 A026 A027 A028 A029 A030 A031 A032 A032A A033 A034 A035 A036 A037 A038 A039 A040 A040A",
    "A041 A042 A042A A043 A043A A044 A045 A045A A046 A047 A048 A049 A050 A051 A052 A053 A054",
    "A055 A056 A057 A058 A059 A060 A061 A062 A063 A064 A065 A066 A067 A068 A069 A070 B001 B002",
    "B003 B004 B005 B005A B006 B007 B008 B009 C001 C002 C002A C002B C002C C003 C004 C005 C006",
    "C007 C008 C009 C010 C010A C011 C012 C013 C014 C015 C016 C017 C018 C019 C020 C021 C022 C023",
    "C024 D001 D002 D003 D004 D005 D006 D007 D008 D008A D009 D010 D011 D012 D013 D014 D015 D016",
    "D017 D018 D019 D020 D021 D022 D023 D024 D025 D026 D027 D027A D028 D029 D030 D031 D031A D032",
    "D033 D034 D034A D035 D036 D037 D038 D039 D040 D041 D042 D043 D044 D045 D046 D046A D047 D048",
    "D048A D049 D050 D050A D050B D050C D050D D050E D050F D050G D050H D050I D051 D052 D052A D053",
    "D054 D054A D055 D056 D057 D058 D059 D060 D061 D062 D063 D064 D065 D066 D067 D067A D067B",
    "D067C D067D D067E D067F D067G D067H E001 E002 E003 E004 E005 E006 E007 E008 E008A E009",
    "E009A E010 E011 E012 E013 E014 E015 E016 E016A E017 E017A E018 E019 E020 E020A E021 E022",
    "E023 E024 E025 E026 E027 E028 E028A E029 E030 E031 E032 E033 E034 E034A E036 E037 E038 F001",
    "F001A F002 F003 F004 F005 F006 F007 F008 F009 F010 F011 F012 F013 F013A F014 F015 F016 F017",
    "F018 F019 F020 F021 F021A F022 F023 F024 F025 F026 F027 F028 F029 F030 F031 F031A F032 F033",
    "F034 F035 F036 F037 F037A F038 F038A F039 F040 F041 F042 F043 F044 F045 F045A F046 F046A",
    "F047 F047A F048 F049 F050 F051 F051A F051B F051C F052 F053 G001 G002 G003 G004 G005 G006",
    "G006A G007 G007A G007B G008 G009 G010 G011 G011A G012 G013 G014 G015 G016 G017 G018 G019",
    "G020 G020A G021 G022 G023 G024 G025 G026 G026A G027 G028 G029 G030 G031 G032 G033 G034 G035",
    "G036 G036A G037 G037A G038 G039 G040 G041 G042 G043 G043A G044 G045 G045A G046 G047 G048",
    "G049 G050 G051 G052 G053 G054 H001 H002 H003 H004 H005 H006 H006A H007 H008 I001 I002 I003",
    "I004 I005 I005A I006 I007 I008 I009 I009A I010 I010A I011 I011A I012 I013 I014 I015 K001",
    "K002 K003 K004 K005 K006 K007 K008 L001 L002 L002A L003 L004 L005 L006 L006A L007 L008 M001",
    "M001A M001B M002 M003 M003A M004 M005 M006 M007 M008 M009 M010 M010A M011 M012 M012A M012B",
    "M012C M012D M012E M012F M012G M012H M013 M014 M015 M015A M016 M016A M017 M017A M018 M019",
    "M020 M021 M022 M022A M023 M024 M024A M025 M026 M027 M028 M028A M029 M030 M031 M031A M032"]⟩,
   ⟨0x131e0, "EGYPTIAN_HIEROGLYPH_", ["M033 M033A M033B M034 M035 M036 M037 M038 M039 M040 M040A",
    "M041 M042 M043 M044 N001 N002 N003 N004 N005 N006 N007 N008 N009 N010 N011 N012 N013 N014",
    "N015 N016 N017 N018 N018A N018B N019 N020 N021 N022 N023 N024 N025 N025A N026 N027 N028",
    "N029 N030 N031 N032 N033 N033A N034 N034A N035 N035A N036 N037 N037A N038 N039 N040 N041",
    "N042 NL001 NL002 NL003 NL004 NL005 NL005A NL006 NL007 NL008 NL009 NL010 NL011 NL012 NL013",
    "NL014 NL015 NL016 NL017 NL017A NL018 NL019 NL020 NU001 NU002 NU003 NU004 NU005 NU006 NU007",
    "NU008 NU009 NU010 NU010A NU011 NU011A NU012 NU013 NU014 NU015 NU016 NU017 NU018 NU018A",
    "NU019 NU020 NU021 NU022 NU022A O001 O001A O002 O003 O004 O005 O005A O006 O006A O006B O006C",
    "O006D O006E O006F O007 O008 O009 O010 O010A O010B O010C O011 O012 O013 O014 O015 O016 O017",
    "O018 O019 O019A O020 O020A O021 O022 O023 O024 O024A O025 O025A O026 O027 O028 O029 O029A",
    "O030 O030A O031 O032 O033 O033A O034 O035 O036 O036A O036B O036C O036D O037 O038 O039 O040",
    "O041 O042 O043 O044 O045 O046 O047 O048 O049 O050 O050A O050B O051 P001 P001A P002 P003",
    "P003A P004 P005 P006 P007 P008 P009 P010 P011 Q001 Q002 Q003 Q004 Q005 Q006 Q007 R001 R002",
    "R002A R003 R003A R003B R004 R005 R006 R007 R008 R009 R010 R010A R011 R012 R013 R014 R015",
    "R016 R016A R017 R018 R019 R020 R021 R022 R023 R024 R025 R026 R027 R028 R029 S001 S002 S002A",
    "S003 S004 S005 S006 S006A S007 S008 S009 S010 S011 S012 S013 S014 S014A S014B S015 S016",
    "S017 S017A S018 S019 S020 S021 S022 S023 S024 S025 S026 S026A S026B S027 S028 S029 S030",
    "S031 S032 S033 S034 S035 S035A S036 S037 S038 S039 S040 S041 S042 S043 S044 S045 S046 T001",
    "T002 T003 T003A T004 T005 T006 T007 T007A T008 T008A T009 T009A T010 T011 T011A T012 T013",
    "T014 T015 T016 T016A T017 T018 T019 T020 T021 T022 T023 T024 T025 T026 T027 T028 T029 T030",
    "T031 T032 T032A T033 T033A T034 T035 T036 U001 U002 U003 U004 U005 U006 U006A U006B U007",
    "U008 U009 U010 U011 U012 U013 U014 U015 U016 U017 U018 U019 U020 U021 U022 U023 U023A U024",
    "U025 U026 U027 U028 U029 U029A U030 U031 U032 U032A U033 U034 U035 U036 U037 U038 U039 U040",
    "U041 U042 V001 V001A V001B V001C V001D V001E V001F V001G V001H V001I V002 V002A V003 V004",
    "V005 V006 V007 V007A V007B V008 V009 V010 V011 V011A V011B V011C V012 V012A V012B V013 V014",
    "V015 V016 V017 V018 V019 V020 V020A V020B V020C V020D V020E V020F V020G V020H V020I V020J",
    "V020K V020L V021 V022 V023 V023A V024 V025 V026 V027 V028 V028A V029 V029A V030 V030A V031",
    "V031A V032 V033 V033A V034 V035 V036 V037 V037A V038 V039 V040 V040A W001 W002 W003 W003A",
    "W004 W005 W006 W007 W008 W009 W009A W010 W010A W011 W012 W013 W014 W014A W015 W016 W017",
    "W017A W018 W018A W019 W020 W021 W022 W023 W024 W024A W025 X001 X002 X003 X004 X004A X004B",
    "X005 X006 X006A X007 X008 X008A Y001 Y001A Y002 Y003 Y004 Y005 Y006 Y007 Y008 Z001 Z002",
    "Z002A Z002B Z002C Z002D Z003 Z003A Z003B Z004 Z004A Z005 Z005A Z006 Z007 Z008 Z009 Z010",
    "Z011 Z012 Z013 Z014 Z015 Z015A Z015B Z015C Z015D Z015E Z015F Z015G Z015H Z015I Z016 Z016A",
    "Z016B Z016C Z016D Z016E Z016F Z016G Z016H AA001 AA002 AA003 AA004 AA005 AA006 AA007 AA007A",
    "AA007B AA008 AA009 AA010 AA011 AA012 AA013 AA014 AA015 AA016 AA017 AA018 AA019 AA020 AA021",
    "AA022 AA023 AA024 AA025 AA026 AA027 AA028 AA029 AA030 AA031 AA032 � VERTICAL_JOINER",
    "HORIZONTAL_JOINER INSERT_AT_TOP_START INSERT_AT_BOTTOM_START INSERT_AT_TOP_END",
    "INSERT_AT_BOTTOM_END OVERLAY_MIDDLE BEGIN_SEGMENT END_SEGMENT"]⟩,
   ⟨0x14400, "ANATOLIAN_HIEROGLYPH_", ["A001 A002 A003 A004 A005 A006 A007 A008 A009 A010 A010A",
    "A011 A012 A013 A014 A015 A016 A017 A018 A019 A020 A021 A022 A023 A024 A025 A026 A026A A027",
    "A028 A029 A030 A031 A032 A033 A034 A035 A036 A037 A038 A039 A039A A040 A041 A041A A042 A043",
    "A044 A045 A045A A046 A046A A046B A047 A048 A049 A050 A051 A052 A053 A054 A055 A056 A057",
    "A058 A059 A060 A061 A062 A063 A064 A065 A066 A066A A066B A066C A067 A068 A069 A070 A071",
    "A072 A073 A074 A075 A076 A077 A078 A079 A080 A081 A082 A083 A084 A085 A086 A087 A088 A089",
    "A090 A091 A092 A093 A094 A095 A096 A097 A097A A098 A098A A099 A100 A100A A101 A101A A102",
    "A102A A103 A104 A104A A104B A104C A105 A105A A105B A106 A107 A107A A107B A107C A108 A109",
    "A110 A110A A110B A111 A112 A113 A114 A115 A115A A116 A117 A118 A119 A120 A121 A122 A123",
    "A124 A125 A125A A126 A127 A128 A129 A130 A131 A132 A133 A134 A135 A135A A136 A137 A138 A139",
    "A140 A141 A142 A143 A144 A145 A146 A147 A148 A149 A150 A151 A152 A153 A154 A155 A156 A157",
    "A158 A159 A160 A161 A162 A163 A164 A165 A166 A167 A168 A169 A170 A171 A172 A173 A174 A175",
    "A176 A177 A178 A179 A180 A181 A182 A183 A184 A185 A186 A187 A188 A189 A190 A191 A192 A193",
    "A194 A195 A196 A197 A198 A199 A200 A201 A202 A202A A202B A203 A204 A205 A206 A207 A207A",
    "A208 A209 A209A A210 A211 A212 A213 A214 A215 A215A A216 A216A A217 A218 A219 A220 A221",
    "A222 A223 A224 A225 A226 A227 A227A A228 A229 A230 A231 A232 A233 A234 A235 A236 A237 A238",
    "A239 A240 A241 A242 A243 A244 A245 A246 A247 A248 A249 A250 A251 A252 A253 A254 A255 A256",
    "A257 A258 A259 A260 A261 A262 A263 A264 A265 A266 A267 A267A A268 A269 A270 A271 A272 A273",
    "A274 A275 A276 A277 A278 A279 A280 A281 A282 A283 A284 A285 A286 A287 A288 A289 A289A A290",
    "A291 A292 A293 A294 A294A A295 A296 A297 A298 A299 A299A A300 A301 A302 A303 A304 A305 A306",
    "A307 A308 A309 A309A A310 A311 A312 A313 A314 A315 A316 A317 A318 A319 A320 A321 A322 A323",
    "A324 A325 A326 A327 A328 A329 A329A A330 A331 A332A A332B A332C A333 A334 A335 A336 A336A",
    "A336B A336C A337 A338 A339 A340 A341 A342 A343 A344 A345 A346 A347 A348 A349 A350 A351 A352",
    "A353 A354 A355 A356 A357 A358 A359 A359A A360 A361 A362 A363 A364 A364A A365 A366 A367 A368",
    "A368A A369 A370 A371 A371A A372 A373 A374 A375 A376 A377 A378 A379 A380 A381 A381A A382",
    "A383_RA_OR_RI A383A A384 A385 A386 A386A A387 A388 A389 A390 A391 A392 A393_EIGHT A394 A395",
    "A396 A397 A398 A399 A400 A401 A402 A403 A404 A405 A406 A407 A408 A409",
    "A410_BEGIN_LOGOGRAM_MARK A410A_END_LOGOGRAM_MARK A411 A412 A413 A414 A415 A416 A417 A418",
    "A419 A420 A421 A422 A423 A424 A425 A426 A427 A428 A429 A430 A431 A432 A433 A434 A435 A436",
    "A437 A438 A439 A440 A441 A442 A443 A444 A445 A446 A447 A448 A449 A450 A450A A451 A452 A453",
    "A454 A455 A456 A457 A457A A458 A459 A460 A461 A462 A463 A464 A465 A466 A467 A468 A469 A470",
    "A471 A472 A473 A474 A475 A476 A477 A478 A479 A480 A481 A482 A483 A484 A485 A486 A487 A488",
    "A489 A490 A491 A492 A493 A494 A495 A496 A497 A501 A502 A503 A504 A505 A506 A507 A508 A509",
    "A510 A511 A512 A513 A514 A515 A516 A517 A518 A519 A520 A521 A522 A523 A524 A525 A526 A527",
    "A528 A529 A530"]⟩]

end SqlRoutes.Text.Names
