import SqlRoutes.Text.Names.Series

namespace SqlRoutes.Text.Names

def centralAsian : List Series :=
  [⟨0x0f00, "TIBETAN_SYLLABLE_", ["OM"]⟩,
   ⟨0x0f01, "TIBETAN_MARK_", ["GTER_YIG_MGO_TRUNCATED_A GTER_YIG_MGO_-UM_RNAM_BCAD_MA",
    "GTER_YIG_MGO_-UM_GTER_TSHEG_MA INITIAL_YIG_MGO_MDUN_MA CLOSING_YIG_MGO_SGAB_MA",
    "CARET_YIG_MGO_PHUR_SHAD_MA YIG_MGO_TSHEG_SHAD_MA SBRUL_SHAD BSKUR_YIG_MGO BKA-_SHOG_YIG_MGO",
    "INTERSYLLABIC_TSHEG DELIMITER_TSHEG_BSTAR SHAD NYIS_SHAD TSHEG_SHAD NYIS_TSHEG_SHAD",
    "RIN_CHEN_SPUNGS_SHAD RGYA_GRAM_SHAD CARET_-DZUD_RTAGS_ME_LONG_CAN GTER_TSHEG"]⟩,
   ⟨0x0f15, "TIBETAN_LOGOTYPE_SIGN_", ["CHAD_RTAGS LHAG_RTAGS"]⟩,
   ⟨0x0f17, "TIBETAN_ASTROLOGICAL_SIGN_", ["SGRA_GCAN_-CHAR_RTAGS -KHYUD_PA SDONG_TSHUGS"]⟩,
   ⟨0x0f1a, "TIBETAN_SIGN_RDEL_", ["DKAR_GCIG DKAR_GNYIS DKAR_GSUM NAG_GCIG NAG_GNYIS",
    "DKAR_RDEL_NAG"]⟩,
   ⟨0x0f20, "TIBETAN_DIGIT_", ["ZERO ONE TWO THREE FOUR FIVE SIX SEVEN EIGHT NINE"]⟩,
   ⟨0x0f2a, "TIBETAN_DIGIT_HALF_", ["ONE TWO THREE FOUR FIVE SIX SEVEN EIGHT NINE ZERO"]⟩,
   ⟨0x0f34, "TIBETAN_MARK_", ["BSDUS_RTAGS NGAS_BZUNG_NYI_ZLA CARET_-DZUD_RTAGS_BZHI_MIG_CAN",
    "NGAS_BZUNG_SGOR_RTAGS CHE_MGO TSA_-PHRU GUG_RTAGS_GYON GUG_RTAGS_GYAS ANG_KHANG_GYON",
    "ANG_KHANG_GYAS"]⟩,
   ⟨0x0f3e, "TIBETAN_SIGN_", ["YAR_TSHES MAR_TSHES"]⟩,
   ⟨0x0f40, "TIBETAN_LETTER_", ["KA KHA GA GHA NGA CA CHA JA � NYA TTA TTHA DDA DDHA NNA TA THA",
    "DA DHA NA PA PHA BA BHA MA TSA TSHA DZA DZHA WA ZHA ZA -A YA RA LA SHA SSA SA HA A KSSA",
    "FIXED-FORM_RA KKA RRA"]⟩,
   ⟨0x0f71, "TIBETAN_VOWEL_SIGN_", ["AA I II U UU VOCALIC_R VOCALIC_RR VOCALIC_L VOCALIC_LL E EE",
    "O OO"]⟩,
   ⟨0x0f7e, "TIBETAN_", ["SIGN_RJES_SU_NGA_RO SIGN_RNAM_BCAD VOWEL_SIGN_REVERSED_I",
    "VOWEL_SIGN_REVERSED_II SIGN_NYI_ZLA_NAA_DA SIGN_SNA_LDAN MARK_HALANTA MARK_PALUTA",
    "SIGN_LCI_RTAGS SIGN_YANG_RTAGS SIGN_LCE_TSA_CAN SIGN_MCHU_CAN SIGN_GRU_CAN_RGYINGS",
    "SIGN_GRU_MED_RGYINGS SIGN_INVERTED_MCHU_CAN SUBJOINED_SIGN_LCE_TSA_CAN",
    "SUBJOINED_SIGN_MCHU_CAN SUBJOINED_SIGN_INVERTED_MCHU_CAN"]⟩,
   ⟨0x0f90, "TIBETAN_SUBJOINED_LETTER_", ["KA KHA GA GHA NGA CA CHA JA � NYA TTA TTHA DDA DDHA",
    "NNA TA THA DA DHA NA PA PHA BA BHA MA TSA TSHA DZA DZHA WA ZHA ZA -A YA RA LA SHA SSA SA HA",
    "A KSSA FIXED-FORM_WA FIXED-FORM_YA FIXED-FORM_RA"]⟩,
   ⟨0x0fbe, "TIBETAN_KU_RU_", ["KHA KHA_BZHI_MIG_CAN"]⟩,
   ⟨0x0fc0, "TIBETAN_CANTILLATION_SIGN_", ["HEAVY_BEAT LIGHT_BEAT CANG_TE-U SBUB_-CHAL"]⟩,
   ⟨0x0fc4, "TIBETAN_SYMBOL_", ["DRIL_BU RDO_RJE PADMA_GDAN RDO_RJE_RGYA_GRAM PHUR_PA NOR_BU",
    "NOR_BU_NYIS_-KHYIL NOR_BU_GSUM_-KHYIL NOR_BU_BZHI_-KHYIL"]⟩,
   ⟨0x0fce, "TIBETAN_SIGN_RDEL_NAG_", ["RDEL_DKAR GSUM"]⟩,
   ⟨0x0fd0, "TIBETAN_MARK_", ["BSKA-_SHOG_GI_MGO_RGYAN MNYAM_YIG_GI_MGO_RGYAN NYIS_TSHEG",
    "INITIAL_BRDA_RNYING_YIG_MGO_MDUN_MA CLOSING_BRDA_RNYING_YIG_MGO_SGAB_MA"]⟩,
   ⟨0x0fd5, "", ["RIGHT-FACING_SVASTI_SIGN LEFT-FACING_SVASTI_SIGN",
    "RIGHT-FACING_SVASTI_SIGN_WITH_DOTS LEFT-FACING_SVASTI_SIGN_WITH_DOTS",
    "TIBETAN_MARK_LEADING_MCHAN_RTAGS TIBETAN_MARK_TRAILING_MCHAN_RTAGS"]⟩,
   ⟨0x1800, "MONGOLIAN_", ["BIRGA ELLIPSIS COMMA FULL_STOP COLON FOUR_DOTS TODO_SOFT_HYPHEN",
    "SIBE_SYLLABLE_BOUNDARY_MARKER MANCHU_COMMA MANCHU_FULL_STOP NIRUGU",
    "FREE_VARIATION_SELECTOR_ONE FREE_VARIATION_SELECTOR_TWO FREE_VARIATION_SELECTOR_THREE",
    "VOWEL_SEPARATOR FREE_VARIATION_SELECTOR_FOUR"]⟩,
   ⟨0x1810, "MONGOLIAN_DIGIT_", ["ZERO ONE TWO THREE FOUR FIVE SIX SEVEN EIGHT NINE"]⟩,
   ⟨0x1820, "MONGOLIAN_LETTER_", ["A E I O U OE UE EE NA ANG BA PA QA GA MA LA SA SHA TA DA CHA",
    "JA YA RA WA FA KA KHA TSA ZA HAA ZRA LHA ZHI CHI"]⟩,
   ⟨0x1843, "MONGOLIAN_LETTER_TODO_", ["LONG_VOWEL_SIGN E I O U OE UE ANG BA PA QA GA MA TA DA",
    "CHA JA TSA YA WA KA GAA HAA JIA NIA DZA"]⟩,
   ⟨0x185d, "MONGOLIAN_LETTER_SIBE_", ["E I IY UE U ANG KA GA HA PA SHA TA DA JA FA GAA HAA TSA",
    "ZA RAA CHA ZHA"]⟩,
   ⟨0x1873, "MONGOLIAN_LETTER_", ["MANCHU_I MANCHU_KA MANCHU_RA MANCHU_FA MANCHU_ZHA",
    "CHA_WITH_TWO_DOTS"]⟩,
   ⟨0x1880, "MONGOLIAN_LETTER_ALI_GALI_", ["ANUSVARA_ONE VISARGA_ONE DAMARU UBADAMA",
    "INVERTED_UBADAMA BALUDA THREE_BALUDA A I KA NGA CA TTA TTHA DDA NNA TA DA PA PHA SSA ZHA ZA",
    "AH"]⟩,
   ⟨0x1898, "MONGOLIAN_LETTER_TODO_ALI_GALI_", ["TA ZHA"]⟩,
   ⟨0x189a, "MONGOLIAN_LETTER_MANCHU_ALI_GALI_", ["GHA NGA CA JHA TTA DDHA TA DHA SSA CYA ZHA ZA"]⟩,
   ⟨0x18a6, "MONGOLIAN_LETTER_", ["ALI_GALI_HALF_U ALI_GALI_HALF_YA MANCHU_ALI_GALI_BHA",
    "ALI_GALI_DAGALGA MANCHU_ALI_GALI_LHA"]⟩,
   ⟨0xa840, "PHAGS-PA_LETTER_", ["KA KHA GA NGA CA CHA JA NYA TA THA DA NA PA PHA BA MA TSA TSHA",
    "DZA WA ZHA ZA SMALL_A YA RA LA SHA SA HA A I U E O QA XA FA GGA EE"]⟩,
   ⟨0xa867, "PHAGS-PA_SUBJOINED_LETTER_", ["WA YA"]⟩,
   ⟨0xa869, "PHAGS-PA_LETTER_", ["TTA TTHA DDA NNA ALTERNATE_YA VOICELESS_SHA VOICED_HA",
    "ASPIRATED_FA"]⟩,
   ⟨0xa871, "PHAGS-PA_", ["SUBJOINED_LETTER_RA SUPERFIXED_LETTER_RA LETTER_CANDRABINDU",
    "SINGLE_HEAD_MARK DOUBLE_HEAD_MARK MARK_SHAD MARK_DOUBLE_SHAD"]⟩,
   ⟨0x11660, "MONGOLIAN_", ["BIRGA_WITH_ORNAMENT ROTATED_BIRGA DOUBLE_BIRGA_WITH_ORNAMENT",
    "TRIPLE_BIRGA_WITH_ORNAMENT BIRGA_WITH_DOUBLE_ORNAMENT ROTATED_BIRGA_WITH_ORNAMENT",
    "ROTATED_BIRGA_WITH_DOUBLE_ORNAMENT INVERTED_BIRGA INVERTED_BIRGA_WITH_DOUBLE_ORNAMENT",
    "SWIRL_BIRGA SWIRL_BIRGA_WITH_ORNAMENT SWIRL_BIRGA_WITH_DOUBLE_ORNAMENT",
    "TURNED_SWIRL_BIRGA_WITH_DOUBLE_ORNAMENT"]⟩,
   ⟨0x11a00, "ZANABAZAR_SQUARE_LETTER_", ["A"]⟩,
   ⟨0x11a01, "ZANABAZAR_SQUARE_VOWEL_", ["SIGN_I SIGN_UE SIGN_U SIGN_E SIGN_OE SIGN_O SIGN_AI",
    "SIGN_AU SIGN_REVERSED_I LENGTH_MARK"]⟩,
   ⟨0x11a0b, "ZANABAZAR_SQUARE_LETTER_", ["KA KHA GA GHA NGA CA CHA JA NYA TTA TTHA DDA DDHA NNA",
    "TA THA DA DHA NA PA PHA BA BHA MA TSA TSHA DZA DZHA ZHA ZA -A YA RA LA VA SHA SSA SA HA",
    "KSSA"]⟩,
   ⟨0x11a33, "ZANABAZAR_SQUARE_", ["FINAL_CONSONANT_MARK SIGN_VIRAMA SIGN_CANDRABINDU",
    "SIGN_CANDRABINDU_WITH_ORNAMENT SIGN_CANDRA_WITH_ORNAMENT SIGN_ANUSVARA SIGN_VISARGA",
    "CLUSTER-INITIAL_LETTER_RA CLUSTER-FINAL_LETTER_YA CLUSTER-FINAL_LETTER_RA",
    "CLUSTER-FINAL_LETTER_LA CLUSTER-FINAL_LETTER_VA INITIAL_HEAD_MARK CLOSING_HEAD_MARK",
    "MARK_TSHEG MARK_SHAD MARK_DOUBLE_SHAD MARK_LONG_TSHEG INITIAL_DOUBLE-LINED_HEAD_MARK",
    "CLOSING_DOUBLE-LINED_HEAD_MARK SUBJOINER"]⟩,
   ⟨0x11a50, "SOYOMBO_LETTER_", ["A"]⟩,
   ⟨0x11a51, "SOYOMBO_VOWEL_SIGN_", ["I UE U E O OE AI AU VOCALIC_R VOCALIC_L"]⟩,
   ⟨0x11a5b, "SOYOMBO_VOWEL_LENGTH_", ["MARK"]⟩,
   ⟨0x11a5c, "SOYOMBO_LETTER_", ["KA KHA GA GHA NGA CA CHA JA JHA NYA TTA TTHA DDA DDHA NNA TA",
    "THA DA DHA NA PA PHA BA BHA MA TSA TSHA DZA ZHA ZA -A YA RA LA VA SHA SSA SA HA KSSA"]⟩,
   ⟨0x11a84, "SOYOMBO_SIGN_", ["JIHVAMULIYA UPADHMANIYA"]⟩,
   ⟨0x11a86, "SOYOMBO_CLUSTER-INITIAL_LETTER_", ["RA LA SHA SA"]⟩,
   ⟨0x11a8a, "SOYOMBO_FINAL_CONSONANT_SIGN_", ["G K NG D N B M R L SH S -A"]⟩,
   ⟨0x11a96, "SOYOMBO_", ["SIGN_ANUSVARA SIGN_VISARGA GEMINATION_MARK SUBJOINER MARK_TSHEG",
    "MARK_SHAD MARK_DOUBLE_SHAD MARK_PLUTA"]⟩,
   ⟨0x11a9e, "SOYOMBO_HEAD_MARK_WITH_MOON_AND_", ["SUN_AND_TRIPLE_FLAME SUN_AND_FLAME SUN"]⟩,
   ⟨0x11aa1, "SOYOMBO_TERMINAL_MARK-", ["1 2"]⟩,
   ⟨0x11c70, "MARCHEN_", ["HEAD_MARK MARK_SHAD"]⟩,
   ⟨0x11c72, "MARCHEN_LETTER_", ["KA KHA GA NGA CA CHA JA NYA TA THA DA NA PA PHA BA MA TSA TSHA",
    "DZA WA ZHA ZA -A YA RA LA SHA SA HA A"]⟩,
   ⟨0x11c92, "MARCHEN_SUBJOINED_LETTER_", ["KA KHA GA NGA CA CHA JA NYA TA THA DA NA PA PHA BA",
    "MA TSA TSHA DZA WA ZHA ZA � YA RA LA SHA SA HA A"]⟩,
   ⟨0x11cb0, "MARCHEN_VOWEL_SIGN_", ["AA I U E O"]⟩,
   ⟨0x11cb5, "MARCHEN_SIGN_", ["ANUSVARA CANDRABINDU"]⟩]

end SqlRoutes.Text.Names
