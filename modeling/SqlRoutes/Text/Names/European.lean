import SqlRoutes.Text.Names.Series

namespace SqlRoutes.Text.Names

def european : List Series :=
  [⟨0x0370, "GREEK_", ["CAPITAL_LETTER_HETA SMALL_LETTER_HETA CAPITAL_LETTER_ARCHAIC_SAMPI",
    "SMALL_LETTER_ARCHAIC_SAMPI NUMERAL_SIGN LOWER_NUMERAL_SIGN",
    "CAPITAL_LETTER_PAMPHYLIAN_DIGAMMA SMALL_LETTER_PAMPHYLIAN_DIGAMMA � � YPOGEGRAMMENI",
    "SMALL_REVERSED_LUNATE_SIGMA_SYMBOL SMALL_DOTTED_LUNATE_SIGMA_SYMBOL",
    "SMALL_REVERSED_DOTTED_LUNATE_SIGMA_SYMBOL QUESTION_MARK CAPITAL_LETTER_YOT � � � � TONOS",
    "DIALYTIKA_TONOS CAPITAL_LETTER_ALPHA_WITH_TONOS ANO_TELEIA"]⟩,
   ⟨0x0388, "GREEK_CAPITAL_LETTER_", ["EPSILON_WITH_TONOS ETA_WITH_TONOS IOTA_WITH_TONOS �",
    "OMICRON_WITH_TONOS � UPSILON_WITH_TONOS OMEGA_WITH_TONOS"]⟩,
   ⟨0x0390, "GREEK_SMALL_LETTER_IOTA_WITH_DIALYTIKA_AND_", ["TONOS"]⟩,
   ⟨0x0391, "GREEK_CAPITAL_LETTER_", ["ALPHA BETA GAMMA DELTA EPSILON ZETA ETA THETA IOTA KAPPA",
    "LAMDA MU NU XI OMICRON PI RHO � SIGMA TAU UPSILON PHI CHI PSI OMEGA IOTA_WITH_DIALYTIKA",
    "UPSILON_WITH_DIALYTIKA"]⟩,
   ⟨0x03ac, "GREEK_SMALL_LETTER_", ["ALPHA_WITH_TONOS EPSILON_WITH_TONOS ETA_WITH_TONOS",
    "IOTA_WITH_TONOS UPSILON_WITH_DIALYTIKA_AND_TONOS ALPHA BETA GAMMA DELTA EPSILON ZETA ETA",
    "THETA IOTA KAPPA LAMDA MU NU XI OMICRON PI RHO FINAL_SIGMA SIGMA TAU UPSILON PHI CHI PSI",
    "OMEGA IOTA_WITH_DIALYTIKA UPSILON_WITH_DIALYTIKA OMICRON_WITH_TONOS UPSILON_WITH_TONOS",
    "OMEGA_WITH_TONOS"]⟩,
   ⟨0x03cf, "GREEK_", ["CAPITAL_KAI_SYMBOL BETA_SYMBOL THETA_SYMBOL UPSILON_WITH_HOOK_SYMBOL",
    "UPSILON_WITH_ACUTE_AND_HOOK_SYMBOL UPSILON_WITH_DIAERESIS_AND_HOOK_SYMBOL PHI_SYMBOL",
    "PI_SYMBOL KAI_SYMBOL LETTER_ARCHAIC_KOPPA SMALL_LETTER_ARCHAIC_KOPPA LETTER_STIGMA",
    "SMALL_LETTER_STIGMA LETTER_DIGAMMA SMALL_LETTER_DIGAMMA LETTER_KOPPA SMALL_LETTER_KOPPA",
    "LETTER_SAMPI SMALL_LETTER_SAMPI"]⟩,
   ⟨0x03e2, "COPTIC_", ["CAPITAL_LETTER_SHEI SMALL_LETTER_SHEI CAPITAL_LETTER_FEI",
    "SMALL_LETTER_FEI CAPITAL_LETTER_KHEI SMALL_LETTER_KHEI CAPITAL_LETTER_HORI",
    "SMALL_LETTER_HORI CAPITAL_LETTER_GANGIA SMALL_LETTER_GANGIA CAPITAL_LETTER_SHIMA",
    "SMALL_LETTER_SHIMA CAPITAL_LETTER_DEI SMALL_LETTER_DEI"]⟩,
   ⟨0x03f0, "GREEK_", ["KAPPA_SYMBOL RHO_SYMBOL LUNATE_SIGMA_SYMBOL LETTER_YOT",
    "CAPITAL_THETA_SYMBOL LUNATE_EPSILON_SYMBOL REVERSED_LUNATE_EPSILON_SYMBOL",
    "CAPITAL_LETTER_SHO SMALL_LETTER_SHO CAPITAL_LUNATE_SIGMA_SYMBOL CAPITAL_LETTER_SAN",
    "SMALL_LETTER_SAN RHO_WITH_STROKE_SYMBOL CAPITAL_REVERSED_LUNATE_SIGMA_SYMBOL",
    "CAPITAL_DOTTED_LUNATE_SIGMA_SYMBOL CAPITAL_REVERSED_DOTTED_LUNATE_SIGMA_SYMBOL"]⟩,
   ⟨0x0400, "CYRILLIC_CAPITAL_LETTER_", ["IE_WITH_GRAVE IO DJE GJE UKRAINIAN_IE DZE",
    "BYELORUSSIAN-UKRAINIAN_I YI JE LJE NJE TSHE KJE I_WITH_GRAVE SHORT_U DZHE A BE VE GHE DE IE",
    "ZHE ZE I SHORT_I KA EL EM EN O PE ER ES TE U EF HA TSE CHE SHA SHCHA HARD_SIGN YERU",
    "SOFT_SIGN E YU YA"]⟩,
   ⟨0x0430, "CYRILLIC_SMALL_LETTER_", ["A BE VE GHE DE IE ZHE ZE I SHORT_I KA EL EM EN O PE ER",
    "ES TE U EF HA TSE CHE SHA SHCHA HARD_SIGN YERU SOFT_SIGN E YU YA IE_WITH_GRAVE IO DJE GJE",
    "UKRAINIAN_IE DZE BYELORUSSIAN-UKRAINIAN_I YI JE LJE NJE TSHE KJE I_WITH_GRAVE SHORT_U DZHE"]⟩,
   ⟨0x0460, "CYRILLIC_", ["CAPITAL_LETTER_OMEGA SMALL_LETTER_OMEGA CAPITAL_LETTER_YAT",
    "SMALL_LETTER_YAT CAPITAL_LETTER_IOTIFIED_E SMALL_LETTER_IOTIFIED_E",
    "CAPITAL_LETTER_LITTLE_YUS SMALL_LETTER_LITTLE_YUS CAPITAL_LETTER_IOTIFIED_LITTLE_YUS",
    "SMALL_LETTER_IOTIFIED_LITTLE_YUS CAPITAL_LETTER_BIG_YUS SMALL_LETTER_BIG_YUS",
    "CAPITAL_LETTER_IOTIFIED_BIG_YUS SMALL_LETTER_IOTIFIED_BIG_YUS CAPITAL_LETTER_KSI",
    "SMALL_LETTER_KSI CAPITAL_LETTER_PSI SMALL_LETTER_PSI CAPITAL_LETTER_FITA SMALL_LETTER_FITA",
    "CAPITAL_LETTER_IZHITSA SMALL_LETTER_IZHITSA CAPITAL_LETTER_IZHITSA_WITH_DOUBLE_GRAVE_ACCENT",
    "SMALL_LETTER_IZHITSA_WITH_DOUBLE_GRAVE_ACCENT CAPITAL_LETTER_UK SMALL_LETTER_UK",
    "CAPITAL_LETTER_ROUND_OMEGA SMALL_LETTER_ROUND_OMEGA CAPITAL_LETTER_OMEGA_WITH_TITLO",
    "SMALL_LETTER_OMEGA_WITH_TITLO CAPITAL_LETTER_OT SMALL_LETTER_OT CAPITAL_LETTER_KOPPA",
    "SMALL_LETTER_KOPPA THOUSANDS_SIGN"]⟩,
   ⟨0x0483, "COMBINING_CYRILLIC_", ["TITLO PALATALIZATION DASIA_PNEUMATA PSILI_PNEUMATA POKRYTIE",
    "HUNDRED_THOUSANDS_SIGN MILLIONS_SIGN"]⟩,
   ⟨0x048a, "CYRILLIC_", ["CAPITAL_LETTER_SHORT_I_WITH_TAIL SMALL_LETTER_SHORT_I_WITH_TAIL",
    "CAPITAL_LETTER_SEMISOFT_SIGN SMALL_LETTER_SEMISOFT_SIGN CAPITAL_LETTER_ER_WITH_TICK",
    "SMALL_LETTER_ER_WITH_TICK CAPITAL_LETTER_GHE_WITH_UPTURN SMALL_LETTER_GHE_WITH_UPTURN",
    "CAPITAL_LETTER_GHE_WITH_STROKE SMALL_LETTER_GHE_WITH_STROKE",
    "CAPITAL_LETTER_GHE_WITH_MIDDLE_HOOK SMALL_LETTER_GHE_WITH_MIDDLE_HOOK",
    "CAPITAL_LETTER_ZHE_WITH_DESCENDER SMALL_LETTER_ZHE_WITH_DESCENDER",
    "CAPITAL_LETTER_ZE_WITH_DESCENDER SMALL_LETTER_ZE_WITH_DESCENDER",
    "CAPITAL_LETTER_KA_WITH_DESCENDER SMALL_LETTER_KA_WITH_DESCENDER",
    "CAPITAL_LETTER_KA_WITH_VERTICAL_STROKE SMALL_LETTER_KA_WITH_VERTICAL_STROKE",
    "CAPITAL_LETTER_KA_WITH_STROKE SMALL_LETTER_KA_WITH_STROKE CAPITAL_LETTER_BASHKIR_KA",
    "SMALL_LETTER_BASHKIR_KA CAPITAL_LETTER_EN_WITH_DESCENDER SMALL_LETTER_EN_WITH_DESCENDER",
    "CAPITAL_LIGATURE_EN_GHE SMALL_LIGATURE_EN_GHE CAPITAL_LETTER_PE_WITH_MIDDLE_HOOK",
    "SMALL_LETTER_PE_WITH_MIDDLE_HOOK CAPITAL_LETTER_ABKHASIAN_HA SMALL_LETTER_ABKHASIAN_HA",
    "CAPITAL_LETTER_ES_WITH_DESCENDER SMALL_LETTER_ES_WITH_DESCENDER",
    "CAPITAL_LETTER_TE_WITH_DESCENDER SMALL_LETTER_TE_WITH_DESCENDER CAPITAL_LETTER_STRAIGHT_U",
    "SMALL_LETTER_STRAIGHT_U CAPITAL_LETTER_STRAIGHT_U_WITH_STROKE",
    "SMALL_LETTER_STRAIGHT_U_WITH_STROKE CAPITAL_LETTER_HA_WITH_DESCENDER",
    "SMALL_LETTER_HA_WITH_DESCENDER CAPITAL_LIGATURE_TE_TSE SMALL_LIGATURE_TE_TSE",
    "CAPITAL_LETTER_CHE_WITH_DESCENDER SMALL_LETTER_CHE_WITH_DESCENDER",
    "CAPITAL_LETTER_CHE_WITH_VERTICAL_STROKE SMALL_LETTER_CHE_WITH_VERTICAL_STROKE",
    "CAPITAL_LETTER_SHHA SMALL_LETTER_SHHA CAPITAL_LETTER_ABKHASIAN_CHE",
    "SMALL_LETTER_ABKHASIAN_CHE CAPITAL_LETTER_ABKHASIAN_CHE_WITH_DESCENDER",
    "SMALL_LETTER_ABKHASIAN_CHE_WITH_DESCENDER LETTER_PALOCHKA CAPITAL_LETTER_ZHE_WITH_BREVE",
    "SMALL_LETTER_ZHE_WITH_BREVE CAPITAL_LETTER_KA_WITH_HOOK SMALL_LETTER_KA_WITH_HOOK",
    "CAPITAL_LETTER_EL_WITH_TAIL SMALL_LETTER_EL_WITH_TAIL CAPITAL_LETTER_EN_WITH_HOOK",
    "SMALL_LETTER_EN_WITH_HOOK CAPITAL_LETTER_EN_WITH_TAIL SMALL_LETTER_EN_WITH_TAIL",
    "CAPITAL_LETTER_KHAKASSIAN_CHE SMALL_LETTER_KHAKASSIAN_CHE CAPITAL_LETTER_EM_WITH_TAIL",
    "SMALL_LETTER_EM_WITH_TAIL SMALL_LETTER_PALOCHKA CAPITAL_LETTER_A_WITH_BREVE",
    "SMALL_LETTER_A_WITH_BREVE CAPITAL_LETTER_A_WITH_DIAERESIS SMALL_LETTER_A_WITH_DIAERESIS",
    "CAPITAL_LIGATURE_A_IE SMALL_LIGATURE_A_IE CAPITAL_LETTER_IE_WITH_BREVE",
    "SMALL_LETTER_IE_WITH_BREVE CAPITAL_LETTER_SCHWA SMALL_LETTER_SCHWA",
    "CAPITAL_LETTER_SCHWA_WITH_DIAERESIS SMALL_LETTER_SCHWA_WITH_DIAERESIS",
    "CAPITAL_LETTER_ZHE_WITH_DIAERESIS SMALL_LETTER_ZHE_WITH_DIAERESIS",
    "CAPITAL_LETTER_ZE_WITH_DIAERESIS SMALL_LETTER_ZE_WITH_DIAERESIS",
    "CAPITAL_LETTER_ABKHASIAN_DZE SMALL_LETTER_ABKHASIAN_DZE CAPITAL_LETTER_I_WITH_MACRON",
    "SMALL_LETTER_I_WITH_MACRON CAPITAL_LETTER_I_WITH_DIAERESIS SMALL_LETTER_I_WITH_DIAERESIS",
    "CAPITAL_LETTER_O_WITH_DIAERESIS SMALL_LETTER_O_WITH_DIAERESIS CAPITAL_LETTER_BARRED_O",
    "SMALL_LETTER_BARRED_O CAPITAL_LETTER_BARRED_O_WITH_DIAERESIS",
    "SMALL_LETTER_BARRED_O_WITH_DIAERESIS CAPITAL_LETTER_E_WITH_DIAERESIS",
    "SMALL_LETTER_E_WITH_DIAERESIS CAPITAL_LETTER_U_WITH_MACRON SMALL_LETTER_U_WITH_MACRON",
    "CAPITAL_LETTER_U_WITH_DIAERESIS SMALL_LETTER_U_WITH_DIAERESIS",
    "CAPITAL_LETTER_U_WITH_DOUBLE_ACUTE SMALL_LETTER_U_WITH_DOUBLE_ACUTE",
    "CAPITAL_LETTER_CHE_WITH_DIAERESIS SMALL_LETTER_CHE_WITH_DIAERESIS",
    "CAPITAL_LETTER_GHE_WITH_DESCENDER SMALL_LETTER_GHE_WITH_DESCENDER",
    "CAPITAL_LETTER_YERU_WITH_DIAERESIS SMALL_LETTER_YERU_WITH_DIAERESIS",
    "CAPITAL_LETTER_GHE_WITH_STROKE_AND_HOOK SMALL_LETTER_GHE_WITH_STROKE_AND_HOOK",
    "CAPITAL_LETTER_HA_WITH_HOOK SMALL_LETTER_HA_WITH_HOOK CAPITAL_LETTER_HA_WITH_STROKE",
    "SMALL_LETTER_HA_WITH_STROKE CAPITAL_LETTER_KOMI_DE SMALL_LETTER_KOMI_DE",
    "CAPITAL_LETTER_KOMI_DJE SMALL_LETTER_KOMI_DJE CAPITAL_LETTER_KOMI_ZJE SMALL_LETTER_KOMI_ZJE",
    "CAPITAL_LETTER_KOMI_DZJE SMALL_LETTER_KOMI_DZJE CAPITAL_LETTER_KOMI_LJE",
    "SMALL_LETTER_KOMI_LJE CAPITAL_LETTER_KOMI_NJE SMALL_LETTER_KOMI_NJE CAPITAL_LETTER_KOMI_SJE",
    "SMALL_LETTER_KOMI_SJE CAPITAL_LETTER_KOMI_TJE SMALL_LETTER_KOMI_TJE",
    "CAPITAL_LETTER_REVERSED_ZE SMALL_LETTER_REVERSED_ZE CAPITAL_LETTER_EL_WITH_HOOK",
    "SMALL_LETTER_EL_WITH_HOOK CAPITAL_LETTER_LHA SMALL_LETTER_LHA CAPITAL_LETTER_RHA",
    "SMALL_LETTER_RHA CAPITAL_LETTER_YAE SMALL_LETTER_YAE CAPITAL_LETTER_QA SMALL_LETTER_QA",
    "CAPITAL_LETTER_WE SMALL_LETTER_WE CAPITAL_LETTER_ALEUT_KA SMALL_LETTER_ALEUT_KA",
    "CAPITAL_LETTER_EL_WITH_MIDDLE_HOOK SMALL_LETTER_EL_WITH_MIDDLE_HOOK",
    "CAPITAL_LETTER_EN_WITH_MIDDLE_HOOK SMALL_LETTER_EN_WITH_MIDDLE_HOOK",
    "CAPITAL_LETTER_PE_WITH_DESCENDER SMALL_LETTER_PE_WITH_DESCENDER",
    "CAPITAL_LETTER_SHHA_WITH_DESCENDER SMALL_LETTER_SHHA_WITH_DESCENDER",
    "CAPITAL_LETTER_EN_WITH_LEFT_HOOK SMALL_LETTER_EN_WITH_LEFT_HOOK CAPITAL_LETTER_DZZHE",
    "SMALL_LETTER_DZZHE CAPITAL_LETTER_DCHE SMALL_LETTER_DCHE CAPITAL_LETTER_EL_WITH_DESCENDER",
    "SMALL_LETTER_EL_WITH_DESCENDER"]⟩,
   ⟨0x0531, "ARMENIAN_CAPITAL_LETTER_", ["AYB BEN GIM DA ECH ZA EH ET TO ZHE INI LIWN XEH CA KEN",
    "HO JA GHAD CHEH MEN YI NOW SHA VO CHA PEH JHEH RA SEH VEW TIWN REH CO YIWN PIWR KEH OH FEH"]⟩,
   ⟨0x0559, "ARMENIAN_", ["MODIFIER_LETTER_LEFT_HALF_RING APOSTROPHE EMPHASIS_MARK",
    "EXCLAMATION_MARK COMMA QUESTION_MARK ABBREVIATION_MARK"]⟩,
   ⟨0x0560, "ARMENIAN_SMALL_LETTER_", ["TURNED_AYB AYB BEN GIM DA ECH ZA EH ET TO ZHE INI LIWN",
    "XEH CA KEN HO JA GHAD CHEH MEN YI NOW SHA VO CHA PEH JHEH RA SEH VEW TIWN REH CO YIWN PIWR",
    "KEH OH FEH"]⟩,
   ⟨0x0587, "ARMENIAN_", ["SMALL_LIGATURE_ECH_YIWN SMALL_LETTER_YI_WITH_STROKE FULL_STOP HYPHEN"]⟩,
   ⟨0x058d, "", ["RIGHT-FACING_ARMENIAN_ETERNITY_SIGN LEFT-FACING_ARMENIAN_ETERNITY_SIGN",
    "ARMENIAN_DRAM_SIGN"]⟩,
   ⟨0x10a0, "GEORGIAN_CAPITAL_LETTER_", ["AN BAN GAN DON EN VIN ZEN TAN IN KAN LAS MAN NAR ON",
    "PAR ZHAR RAE SAN TAR UN PHAR KHAR GHAN QAR SHIN CHIN CAN JIL CIL CHAR XAN JHAN HAE HE HIE",
    "WE HAR HOE � YN � � � � � AEN"]⟩,
   ⟨0x10d0, "GEORGIAN_LETTER_", ["AN BAN GAN DON EN VIN ZEN TAN IN KAN LAS MAN NAR ON PAR ZHAR",
    "RAE SAN TAR UN PHAR KHAR GHAN QAR SHIN CHIN CAN JIL CIL CHAR XAN JHAN HAE HE HIE WE HAR HOE",
    "FI YN ELIFI TURNED_GAN AIN"]⟩,
   ⟨0x10fb, "", ["GEORGIAN_PARAGRAPH_SEPARATOR MODIFIER_LETTER_GEORGIAN_NAR"]⟩,
   ⟨0x10fd, "GEORGIAN_LETTER_", ["AEN HARD_SIGN LABIAL_SIGN"]⟩,
   ⟨0x1680, "OGHAM_SPACE_", ["MARK"]⟩,
   ⟨0x1681, "OGHAM_LETTER_", ["BEITH LUIS FEARN SAIL NION UATH DAIR TINNE COLL CEIRT MUIN GORT",
    "NGEADAL STRAIF RUIS AILM ONN UR EADHADH IODHADH EABHADH OR UILLEANN IFIN EAMHANCHOLL PEITH"]⟩,
   ⟨0x169b, "OGHAM_", ["FEATHER_MARK REVERSED_FEATHER_MARK"]⟩,
   ⟨0x16a0, "RUNIC_LETTER_", ["FEHU_FEOH_FE_F V URUZ_UR_U YR Y W THURISAZ_THURS_THORN ETH",
    "ANSUZ_A OS_O AC_A AESC LONG-BRANCH-OSS_O SHORT-TWIG-OSS_O O OE ON RAIDO_RAD_REID_R KAUNA",
    "CEN KAUN_K G ENG GEBO_GYFU_G GAR WUNJO_WYNN_W HAGLAZ_H HAEGL_H LONG-BRANCH-HAGALL_H",
    "SHORT-TWIG-HAGALL_H NAUDIZ_NYD_NAUD_N SHORT-TWIG-NAUD_N DOTTED-N ISAZ_IS_ISS_I E JERAN_J",
    "GER LONG-BRANCH-AR_AE SHORT-TWIG-AR_A IWAZ_EOH PERTHO_PEORTH_P ALGIZ_EOLHX SOWILO_S",
    "SIGEL_LONG-BRANCH-SOL_S SHORT-TWIG-SOL_S C Z TIWAZ_TIR_TYR_T SHORT-TWIG-TYR_T D",
    "BERKANAN_BEORC_BJARKAN_B SHORT-TWIG-BJARKAN_B DOTTED-P OPEN-P EHWAZ_EH_E MANNAZ_MAN_M",
    "LONG-BRANCH-MADR_M SHORT-TWIG-MADR_M LAUKAZ_LAGU_LOGR_L DOTTED-L INGWAZ ING DAGAZ_DAEG_D",
    "OTHALAN_ETHEL_O EAR IOR CWEORTH CALC CEALC STAN LONG-BRANCH-YR SHORT-TWIG-YR ICELANDIC-YR Q",
    "X"]⟩,
   ⟨0x16eb, "RUNIC_", ["SINGLE_PUNCTUATION MULTIPLE_PUNCTUATION CROSS_PUNCTUATION ARLAUG_SYMBOL",
    "TVIMADUR_SYMBOL BELGTHOR_SYMBOL LETTER_K LETTER_SH LETTER_OO"]⟩,
   ⟨0x16f4, "RUNIC_LETTER_FRANKS_CASKET_", ["OS IS EH AC AESC"]⟩,
   ⟨0x1c80, "CYRILLIC_SMALL_LETTER_", ["ROUNDED_VE LONG-LEGGED_DE NARROW_O WIDE_ES TALL_TE",
    "THREE-LEGGED_TE TALL_HARD_SIGN TALL_YAT UNBLENDED_UK"]⟩,
   ⟨0x1c90, "GEORGIAN_MTAVRULI_CAPITAL_LETTER_", ["AN BAN GAN DON EN VIN ZEN TAN IN KAN LAS MAN",
    "NAR ON PAR ZHAR RAE SAN TAR UN PHAR KHAR GHAN QAR SHIN CHIN CAN JIL CIL CHAR XAN JHAN HAE",
    "HE HIE WE HAR HOE FI YN ELIFI TURNED_GAN AIN � � AEN HARD_SIGN LABIAL_SIGN"]⟩,
   ⟨0x1f00, "GREEK_SMALL_LETTER_ALPHA_WITH_", ["PSILI DASIA PSILI_AND_VARIA DASIA_AND_VARIA",
    "PSILI_AND_OXIA DASIA_AND_OXIA PSILI_AND_PERISPOMENI DASIA_AND_PERISPOMENI"]⟩,
   ⟨0x1f08, "GREEK_CAPITAL_LETTER_ALPHA_WITH_", ["PSILI DASIA PSILI_AND_VARIA DASIA_AND_VARIA",
    "PSILI_AND_OXIA DASIA_AND_OXIA PSILI_AND_PERISPOMENI DASIA_AND_PERISPOMENI"]⟩,
   ⟨0x1f10, "GREEK_SMALL_LETTER_EPSILON_WITH_", ["PSILI DASIA PSILI_AND_VARIA DASIA_AND_VARIA",
    "PSILI_AND_OXIA DASIA_AND_OXIA"]⟩,
   ⟨0x1f18, "GREEK_CAPITAL_LETTER_EPSILON_WITH_", ["PSILI DASIA PSILI_AND_VARIA DASIA_AND_VARIA",
    "PSILI_AND_OXIA DASIA_AND_OXIA"]⟩,
   ⟨0x1f20, "GREEK_SMALL_LETTER_ETA_WITH_", ["PSILI DASIA PSILI_AND_VARIA DASIA_AND_VARIA",
    "PSILI_AND_OXIA DASIA_AND_OXIA PSILI_AND_PERISPOMENI DASIA_AND_PERISPOMENI"]⟩,
   ⟨0x1f28, "GREEK_CAPITAL_LETTER_ETA_WITH_", ["PSILI DASIA PSILI_AND_VARIA DASIA_AND_VARIA",
    "PSILI_AND_OXIA DASIA_AND_OXIA PSILI_AND_PERISPOMENI DASIA_AND_PERISPOMENI"]⟩,
   ⟨0x1f30, "GREEK_SMALL_LETTER_IOTA_WITH_", ["PSILI DASIA PSILI_AND_VARIA DASIA_AND_VARIA",
    "PSILI_AND_OXIA DASIA_AND_OXIA PSILI_AND_PERISPOMENI DASIA_AND_PERISPOMENI"]⟩,
   ⟨0x1f38, "GREEK_CAPITAL_LETTER_IOTA_WITH_", ["PSILI DASIA PSILI_AND_VARIA DASIA_AND_VARIA",
    "PSILI_AND_OXIA DASIA_AND_OXIA PSILI_AND_PERISPOMENI DASIA_AND_PERISPOMENI"]⟩,
   ⟨0x1f40, "GREEK_SMALL_LETTER_OMICRON_WITH_", ["PSILI DASIA PSILI_AND_VARIA DASIA_AND_VARIA",
    "PSILI_AND_OXIA DASIA_AND_OXIA"]⟩,
   ⟨0x1f48, "GREEK_CAPITAL_LETTER_OMICRON_WITH_", ["PSILI DASIA PSILI_AND_VARIA DASIA_AND_VARIA",
    "PSILI_AND_OXIA DASIA_AND_OXIA"]⟩,
   ⟨0x1f50, "GREEK_SMALL_LETTER_UPSILON_WITH_", ["PSILI DASIA PSILI_AND_VARIA DASIA_AND_VARIA",
    "PSILI_AND_OXIA DASIA_AND_OXIA PSILI_AND_PERISPOMENI DASIA_AND_PERISPOMENI"]⟩,
   ⟨0x1f59, "GREEK_CAPITAL_LETTER_UPSILON_WITH_", ["DASIA � DASIA_AND_VARIA � DASIA_AND_OXIA �",
    "DASIA_AND_PERISPOMENI"]⟩,
   ⟨0x1f60, "GREEK_SMALL_LETTER_OMEGA_WITH_", ["PSILI DASIA PSILI_AND_VARIA DASIA_AND_VARIA",
    "PSILI_AND_OXIA DASIA_AND_OXIA PSILI_AND_PERISPOMENI DASIA_AND_PERISPOMENI"]⟩,
   ⟨0x1f68, "GREEK_CAPITAL_LETTER_OMEGA_WITH_", ["PSILI DASIA PSILI_AND_VARIA DASIA_AND_VARIA",
    "PSILI_AND_OXIA DASIA_AND_OXIA PSILI_AND_PERISPOMENI DASIA_AND_PERISPOMENI"]⟩,
   ⟨0x1f70, "GREEK_SMALL_LETTER_", ["ALPHA_WITH_VARIA ALPHA_WITH_OXIA EPSILON_WITH_VARIA",
    "EPSILON_WITH_OXIA ETA_WITH_VARIA ETA_WITH_OXIA IOTA_WITH_VARIA IOTA_WITH_OXIA",
    "OMICRON_WITH_VARIA OMICRON_WITH_OXIA UPSILON_WITH_VARIA UPSILON_WITH_OXIA OMEGA_WITH_VARIA",
    "OMEGA_WITH_OXIA"]⟩,
   ⟨0x1f80, "GREEK_SMALL_LETTER_ALPHA_WITH_", ["PSILI_AND_YPOGEGRAMMENI DASIA_AND_YPOGEGRAMMENI",
    "PSILI_AND_VARIA_AND_YPOGEGRAMMENI DASIA_AND_VARIA_AND_YPOGEGRAMMENI",
    "PSILI_AND_OXIA_AND_YPOGEGRAMMENI DASIA_AND_OXIA_AND_YPOGEGRAMMENI",
    "PSILI_AND_PERISPOMENI_AND_YPOGEGRAMMENI DASIA_AND_PERISPOMENI_AND_YPOGEGRAMMENI"]⟩,
   ⟨0x1f88, "GREEK_CAPITAL_LETTER_ALPHA_WITH_", ["PSILI_AND_PROSGEGRAMMENI",
    "DASIA_AND_PROSGEGRAMMENI PSILI_AND_VARIA_AND_PROSGEGRAMMENI",
    "DASIA_AND_VARIA_AND_PROSGEGRAMMENI PSILI_AND_OXIA_AND_PROSGEGRAMMENI",
    "DASIA_AND_OXIA_AND_PROSGEGRAMMENI PSILI_AND_PERISPOMENI_AND_PROSGEGRAMMENI",
    "DASIA_AND_PERISPOMENI_AND_PROSGEGRAMMENI"]⟩,
   ⟨0x1f90, "GREEK_SMALL_LETTER_ETA_WITH_", ["PSILI_AND_YPOGEGRAMMENI DASIA_AND_YPOGEGRAMMENI",
    "PSILI_AND_VARIA_AND_YPOGEGRAMMENI DASIA_AND_VARIA_AND_YPOGEGRAMMENI",
    "PSILI_AND_OXIA_AND_YPOGEGRAMMENI DASIA_AND_OXIA_AND_YPOGEGRAMMENI",
    "PSILI_AND_PERISPOMENI_AND_YPOGEGRAMMENI DASIA_AND_PERISPOMENI_AND_YPOGEGRAMMENI"]⟩,
   ⟨0x1f98, "GREEK_CAPITAL_LETTER_ETA_WITH_", ["PSILI_AND_PROSGEGRAMMENI",
    "DASIA_AND_PROSGEGRAMMENI PSILI_AND_VARIA_AND_PROSGEGRAMMENI",
    "DASIA_AND_VARIA_AND_PROSGEGRAMMENI PSILI_AND_OXIA_AND_PROSGEGRAMMENI",
    "DASIA_AND_OXIA_AND_PROSGEGRAMMENI PSILI_AND_PERISPOMENI_AND_PROSGEGRAMMENI",
    "DASIA_AND_PERISPOMENI_AND_PROSGEGRAMMENI"]⟩,
   ⟨0x1fa0, "GREEK_SMALL_LETTER_OMEGA_WITH_", ["PSILI_AND_YPOGEGRAMMENI DASIA_AND_YPOGEGRAMMENI",
    "PSILI_AND_VARIA_AND_YPOGEGRAMMENI DASIA_AND_VARIA_AND_YPOGEGRAMMENI",
    "PSILI_AND_OXIA_AND_YPOGEGRAMMENI DASIA_AND_OXIA_AND_YPOGEGRAMMENI",
    "PSILI_AND_PERISPOMENI_AND_YPOGEGRAMMENI DASIA_AND_PERISPOMENI_AND_YPOGEGRAMMENI"]⟩,
   ⟨0x1fa8, "GREEK_CAPITAL_LETTER_OMEGA_WITH_", ["PSILI_AND_PROSGEGRAMMENI",
    "DASIA_AND_PROSGEGRAMMENI PSILI_AND_VARIA_AND_PROSGEGRAMMENI",
    "DASIA_AND_VARIA_AND_PROSGEGRAMMENI PSILI_AND_OXIA_AND_PROSGEGRAMMENI",
    "DASIA_AND_OXIA_AND_PROSGEGRAMMENI PSILI_AND_PERISPOMENI_AND_PROSGEGRAMMENI",
    "DASIA_AND_PERISPOMENI_AND_PROSGEGRAMMENI"]⟩,
   ⟨0x1fb0, "GREEK_SMALL_LETTER_ALPHA_WITH_", ["VRACHY MACRON VARIA_AND_YPOGEGRAMMENI",
    "YPOGEGRAMMENI OXIA_AND_YPOGEGRAMMENI � PERISPOMENI PERISPOMENI_AND_YPOGEGRAMMENI"]⟩,
   ⟨0x1fb8, "GREEK_CAPITAL_LETTER_ALPHA_WITH_", ["VRACHY MACRON VARIA OXIA PROSGEGRAMMENI"]⟩,
   ⟨0x1fbd, "GREEK_", ["KORONIS PROSGEGRAMMENI PSILI PERISPOMENI DIALYTIKA_AND_PERISPOMENI"]⟩,
   ⟨0x1fc2, "GREEK_SMALL_LETTER_ETA_WITH_", ["VARIA_AND_YPOGEGRAMMENI YPOGEGRAMMENI",
    "OXIA_AND_YPOGEGRAMMENI � PERISPOMENI PERISPOMENI_AND_YPOGEGRAMMENI"]⟩,
   ⟨0x1fc8, "GREEK_CAPITAL_LETTER_", ["EPSILON_WITH_VARIA EPSILON_WITH_OXIA ETA_WITH_VARIA",
    "ETA_WITH_OXIA ETA_WITH_PROSGEGRAMMENI"]⟩,
   ⟨0x1fcd, "GREEK_PSILI_AND_", ["VARIA OXIA PERISPOMENI"]⟩,
   ⟨0x1fd0, "GREEK_SMALL_LETTER_IOTA_WITH_", ["VRACHY MACRON DIALYTIKA_AND_VARIA",
    "DIALYTIKA_AND_OXIA � � PERISPOMENI DIALYTIKA_AND_PERISPOMENI"]⟩,
   ⟨0x1fd8, "GREEK_CAPITAL_LETTER_IOTA_WITH_", ["VRACHY MACRON VARIA OXIA"]⟩,
   ⟨0x1fdd, "GREEK_DASIA_AND_", ["VARIA OXIA PERISPOMENI"]⟩,
   ⟨0x1fe0, "GREEK_SMALL_LETTER_", ["UPSILON_WITH_VRACHY UPSILON_WITH_MACRON",
    "UPSILON_WITH_DIALYTIKA_AND_VARIA UPSILON_WITH_DIALYTIKA_AND_OXIA RHO_WITH_PSILI",
    "RHO_WITH_DASIA UPSILON_WITH_PERISPOMENI UPSILON_WITH_DIALYTIKA_AND_PERISPOMENI"]⟩,
   ⟨0x1fe8, "GREEK_CAPITAL_LETTER_UPSILON_WITH_", ["VRACHY MACRON VARIA OXIA"]⟩,
   ⟨0x1fec, "GREEK_", ["CAPITAL_LETTER_RHO_WITH_DASIA DIALYTIKA_AND_VARIA DIALYTIKA_AND_OXIA",
    "VARIA"]⟩,
   ⟨0x1ff2, "GREEK_SMALL_LETTER_OMEGA_WITH_", ["VARIA_AND_YPOGEGRAMMENI YPOGEGRAMMENI",
    "OXIA_AND_YPOGEGRAMMENI � PERISPOMENI PERISPOMENI_AND_YPOGEGRAMMENI"]⟩,
   ⟨0x1ff8, "GREEK_CAPITAL_LETTER_", ["OMICRON_WITH_VARIA OMICRON_WITH_OXIA OMEGA_WITH_VARIA",
    "OMEGA_WITH_OXIA OMEGA_WITH_PROSGEGRAMMENI"]⟩,
   ⟨0x1ffd, "GREEK_", ["OXIA DASIA"]⟩,
   ⟨0x2c00, "GLAGOLITIC_CAPITAL_LETTER_", ["AZU BUKY VEDE GLAGOLI DOBRO YESTU ZHIVETE DZELO",
    "ZEMLJA IZHE INITIAL_IZHE I DJERVI KAKO LJUDIJE MYSLITE NASHI ONU POKOJI RITSI SLOVO TVRIDO",
    "UKU FRITU HERU OTU PE SHTA TSI CHRIVI SHA YERU YERI YATI SPIDERY_HA YU SMALL_YUS",
    "SMALL_YUS_WITH_TAIL YO IOTATED_SMALL_YUS BIG_YUS IOTATED_BIG_YUS FITA IZHITSA SHTAPIC",
    "TROKUTASTI_A LATINATE_MYSLITE CAUDATE_CHRIVI"]⟩,
   ⟨0x2c30, "GLAGOLITIC_SMALL_LETTER_", ["AZU BUKY VEDE GLAGOLI DOBRO YESTU ZHIVETE DZELO ZEMLJA",
    "IZHE INITIAL_IZHE I DJERVI KAKO LJUDIJE MYSLITE NASHI ONU POKOJI RITSI SLOVO TVRIDO UKU",
    "FRITU HERU OTU PE SHTA TSI CHRIVI SHA YERU YERI YATI SPIDERY_HA YU SMALL_YUS",
    "SMALL_YUS_WITH_TAIL YO IOTATED_SMALL_YUS BIG_YUS IOTATED_BIG_YUS FITA IZHITSA SHTAPIC",
    "TROKUTASTI_A LATINATE_MYSLITE CAUDATE_CHRIVI"]⟩,
   ⟨0x2c80, "COPTIC_", ["CAPITAL_LETTER_ALFA SMALL_LETTER_ALFA CAPITAL_LETTER_VIDA",
    "SMALL_LETTER_VIDA CAPITAL_LETTER_GAMMA SMALL_LETTER_GAMMA CAPITAL_LETTER_DALDA",
    "SMALL_LETTER_DALDA CAPITAL_LETTER_EIE SMALL_LETTER_EIE CAPITAL_LETTER_SOU SMALL_LETTER_SOU",
    "CAPITAL_LETTER_ZATA SMALL_LETTER_ZATA CAPITAL_LETTER_HATE SMALL_LETTER_HATE",
    "CAPITAL_LETTER_THETHE SMALL_LETTER_THETHE CAPITAL_LETTER_IAUDA SMALL_LETTER_IAUDA",
    "CAPITAL_LETTER_KAPA SMALL_LETTER_KAPA CAPITAL_LETTER_LAULA SMALL_LETTER_LAULA",
    "CAPITAL_LETTER_MI SMALL_LETTER_MI CAPITAL_LETTER_NI SMALL_LETTER_NI CAPITAL_LETTER_KSI",
    "SMALL_LETTER_KSI CAPITAL_LETTER_O SMALL_LETTER_O CAPITAL_LETTER_PI SMALL_LETTER_PI",
    "CAPITAL_LETTER_RO SMALL_LETTER_RO CAPITAL_LETTER_SIMA SMALL_LETTER_SIMA CAPITAL_LETTER_TAU",
    "SMALL_LETTER_TAU CAPITAL_LETTER_UA SMALL_LETTER_UA CAPITAL_LETTER_FI SMALL_LETTER_FI",
    "CAPITAL_LETTER_KHI SMALL_LETTER_KHI CAPITAL_LETTER_PSI SMALL_LETTER_PSI CAPITAL_LETTER_OOU",
    "SMALL_LETTER_OOU CAPITAL_LETTER_DIALECT-P_ALEF SMALL_LETTER_DIALECT-P_ALEF",
    "CAPITAL_LETTER_OLD_COPTIC_AIN SMALL_LETTER_OLD_COPTIC_AIN CAPITAL_LETTER_CRYPTOGRAMMIC_EIE",
    "SMALL_LETTER_CRYPTOGRAMMIC_EIE CAPITAL_LETTER_DIALECT-P_KAPA SMALL_LETTER_DIALECT-P_KAPA",
    "CAPITAL_LETTER_DIALECT-P_NI SMALL_LETTER_DIALECT-P_NI CAPITAL_LETTER_CRYPTOGRAMMIC_NI",
    "SMALL_LETTER_CRYPTOGRAMMIC_NI CAPITAL_LETTER_OLD_COPTIC_OOU SMALL_LETTER_OLD_COPTIC_OOU",
    "CAPITAL_LETTER_SAMPI SMALL_LETTER_SAMPI CAPITAL_LETTER_CROSSED_SHEI",
    "SMALL_LETTER_CROSSED_SHEI CAPITAL_LETTER_OLD_COPTIC_SHEI SMALL_LETTER_OLD_COPTIC_SHEI",
    "CAPITAL_LETTER_OLD_COPTIC_ESH SMALL_LETTER_OLD_COPTIC_ESH CAPITAL_LETTER_AKHMIMIC_KHEI",
    "SMALL_LETTER_AKHMIMIC_KHEI CAPITAL_LETTER_DIALECT-P_HORI SMALL_LETTER_DIALECT-P_HORI",
    "CAPITAL_LETTER_OLD_COPTIC_HORI SMALL_LETTER_OLD_COPTIC_HORI CAPITAL_LETTER_OLD_COPTIC_HA",
    "SMALL_LETTER_OLD_COPTIC_HA CAPITAL_LETTER_L-SHAPED_HA SMALL_LETTER_L-SHAPED_HA",
    "CAPITAL_LETTER_OLD_COPTIC_HEI SMALL_LETTER_OLD_COPTIC_HEI CAPITAL_LETTER_OLD_COPTIC_HAT",
    "SMALL_LETTER_OLD_COPTIC_HAT CAPITAL_LETTER_OLD_COPTIC_GANGIA SMALL_LETTER_OLD_COPTIC_GANGIA",
    "CAPITAL_LETTER_OLD_COPTIC_DJA SMALL_LETTER_OLD_COPTIC_DJA CAPITAL_LETTER_OLD_COPTIC_SHIMA",
    "SMALL_LETTER_OLD_COPTIC_SHIMA CAPITAL_LETTER_OLD_NUBIAN_SHIMA SMALL_LETTER_OLD_NUBIAN_SHIMA",
    "CAPITAL_LETTER_OLD_NUBIAN_NGI SMALL_LETTER_OLD_NUBIAN_NGI CAPITAL_LETTER_OLD_NUBIAN_NYI",
    "SMALL_LETTER_OLD_NUBIAN_NYI CAPITAL_LETTER_OLD_NUBIAN_WAU SMALL_LETTER_OLD_NUBIAN_WAU",
    "SYMBOL_KAI SYMBOL_MI_RO SYMBOL_PI_RO SYMBOL_STAUROS SYMBOL_TAU_RO SYMBOL_KHI_RO",
    "SYMBOL_SHIMA_SIMA CAPITAL_LETTER_CRYPTOGRAMMIC_SHEI SMALL_LETTER_CRYPTOGRAMMIC_SHEI",
    "CAPITAL_LETTER_CRYPTOGRAMMIC_GANGIA SMALL_LETTER_CRYPTOGRAMMIC_GANGIA COMBINING_NI_ABOVE",
    "COMBINING_SPIRITUS_ASPER COMBINING_SPIRITUS_LENIS CAPITAL_LETTER_BOHAIRIC_KHEI",
    "SMALL_LETTER_BOHAIRIC_KHEI � � � � � OLD_NUBIAN_FULL_STOP OLD_NUBIAN_DIRECT_QUESTION_MARK",
    "OLD_NUBIAN_INDIRECT_QUESTION_MARK OLD_NUBIAN_VERSE_DIVIDER FRACTION_ONE_HALF FULL_STOP",
    "MORPHOLOGICAL_DIVIDER"]⟩,
   ⟨0x2d00, "GEORGIAN_SMALL_LETTER_", ["AN BAN GAN DON EN VIN ZEN TAN IN KAN LAS MAN NAR ON PAR",
    "ZHAR RAE SAN TAR UN PHAR KHAR GHAN QAR SHIN CHIN CAN JIL CIL CHAR XAN JHAN HAE HE HIE WE",
    "HAR HOE � YN � � � � � AEN"]⟩,
   ⟨0x2de0, "COMBINING_CYRILLIC_LETTER_", ["BE VE GHE DE ZHE ZE KA EL EM EN O PE ER ES TE HA TSE",
    "CHE SHA SHCHA FITA ES-TE A IE DJERV MONOGRAPH_UK YAT YU IOTIFIED_A LITTLE_YUS BIG_YUS",
    "IOTIFIED_BIG_YUS"]⟩,
   ⟨0xa640, "CYRILLIC_", ["CAPITAL_LETTER_ZEMLYA SMALL_LETTER_ZEMLYA CAPITAL_LETTER_DZELO",
    "SMALL_LETTER_DZELO CAPITAL_LETTER_REVERSED_DZE SMALL_LETTER_REVERSED_DZE",
    "CAPITAL_LETTER_IOTA SMALL_LETTER_IOTA CAPITAL_LETTER_DJERV SMALL_LETTER_DJERV",
    "CAPITAL_LETTER_MONOGRAPH_UK SMALL_LETTER_MONOGRAPH_UK CAPITAL_LETTER_BROAD_OMEGA",
    "SMALL_LETTER_BROAD_OMEGA CAPITAL_LETTER_NEUTRAL_YER SMALL_LETTER_NEUTRAL_YER",
    "CAPITAL_LETTER_YERU_WITH_BACK_YER SMALL_LETTER_YERU_WITH_BACK_YER",
    "CAPITAL_LETTER_IOTIFIED_YAT SMALL_LETTER_IOTIFIED_YAT CAPITAL_LETTER_REVERSED_YU",
    "SMALL_LETTER_REVERSED_YU CAPITAL_LETTER_IOTIFIED_A SMALL_LETTER_IOTIFIED_A",
    "CAPITAL_LETTER_CLOSED_LITTLE_YUS SMALL_LETTER_CLOSED_LITTLE_YUS CAPITAL_LETTER_BLENDED_YUS",
    "SMALL_LETTER_BLENDED_YUS CAPITAL_LETTER_IOTIFIED_CLOSED_LITTLE_YUS",
    "SMALL_LETTER_IOTIFIED_CLOSED_LITTLE_YUS CAPITAL_LETTER_YN SMALL_LETTER_YN",
    "CAPITAL_LETTER_REVERSED_TSE SMALL_LETTER_REVERSED_TSE CAPITAL_LETTER_SOFT_DE",
    "SMALL_LETTER_SOFT_DE CAPITAL_LETTER_SOFT_EL SMALL_LETTER_SOFT_EL CAPITAL_LETTER_SOFT_EM",
    "SMALL_LETTER_SOFT_EM CAPITAL_LETTER_MONOCULAR_O SMALL_LETTER_MONOCULAR_O",
    "CAPITAL_LETTER_BINOCULAR_O SMALL_LETTER_BINOCULAR_O CAPITAL_LETTER_DOUBLE_MONOCULAR_O",
    "SMALL_LETTER_DOUBLE_MONOCULAR_O LETTER_MULTIOCULAR_O"]⟩,
   ⟨0xa66f, "COMBINING_CYRILLIC_", ["VZMET TEN_MILLIONS_SIGN HUNDRED_MILLIONS_SIGN",
    "THOUSAND_MILLIONS_SIGN"]⟩,
   ⟨0xa673, "SLAVONIC_", ["ASTERISK"]⟩,
   ⟨0xa674, "COMBINING_CYRILLIC_LETTER_", ["UKRAINIAN_IE I YI U HARD_SIGN YERU SOFT_SIGN OMEGA"]⟩,
   ⟨0xa67c, "COMBINING_CYRILLIC_", ["KAVYKA PAYEROK"]⟩,
   ⟨0xa67e, "CYRILLIC_", ["KAVYKA PAYEROK CAPITAL_LETTER_DWE SMALL_LETTER_DWE",
    "CAPITAL_LETTER_DZWE SMALL_LETTER_DZWE CAPITAL_LETTER_ZHWE SMALL_LETTER_ZHWE",
    "CAPITAL_LETTER_CCHE SMALL_LETTER_CCHE CAPITAL_LETTER_DZZE SMALL_LETTER_DZZE",
    "CAPITAL_LETTER_TE_WITH_MIDDLE_HOOK SMALL_LETTER_TE_WITH_MIDDLE_HOOK CAPITAL_LETTER_TWE",
    "SMALL_LETTER_TWE CAPITAL_LETTER_TSWE SMALL_LETTER_TSWE CAPITAL_LETTER_TSSE",
    "SMALL_LETTER_TSSE CAPITAL_LETTER_TCHE SMALL_LETTER_TCHE CAPITAL_LETTER_HWE SMALL_LETTER_HWE",
    "CAPITAL_LETTER_SHWE SMALL_LETTER_SHWE CAPITAL_LETTER_DOUBLE_O SMALL_LETTER_DOUBLE_O",
    "CAPITAL_LETTER_CROSSED_O SMALL_LETTER_CROSSED_O"]⟩,
   ⟨0xa69c, "MODIFIER_LETTER_CYRILLIC_", ["HARD_SIGN SOFT_SIGN"]⟩,
   ⟨0xa69e, "COMBINING_CYRILLIC_LETTER_", ["EF IOTIFIED_E"]⟩,
   ⟨0x10280, "LYCIAN_LETTER_", ["A E B BH G D I W Z TH J K Q L M N MM NN U P KK R S T TT AN EN H",
    "X"]⟩,
   ⟨0x102a0, "CARIAN_LETTER_", ["A P2 D L UUU R LD A2 Q B M O D2 T SH SH2 S C-18 U NN X N TT2 P",
    "SS I E UUUU K K2 ND UU G G2 ST ST2 NG II C-39 TT UUU2 RR MB MB2 MB3 MB4 LD2 E2 UUU3"]⟩,
   ⟨0x102e0, "COPTIC_EPACT_THOUSANDS_", ["MARK"]⟩,
   ⟨0x102e1, "COPTIC_EPACT_DIGIT_", ["ONE TWO THREE FOUR FIVE SIX SEVEN EIGHT NINE"]⟩,
   ⟨0x102ea, "COPTIC_EPACT_NUMBER_", ["TEN TWENTY THIRTY FORTY FIFTY SIXTY SEVENTY EIGHTY NINETY",
    "ONE_HUNDRED TWO_HUNDRED THREE_HUNDRED FOUR_HUNDRED FIVE_HUNDRED SIX_HUNDRED SEVEN_HUNDRED",
    "EIGHT_HUNDRED NINE_HUNDRED"]⟩,
   ⟨0x10300, "OLD_ITALIC_LETTER_", ["A BE KE DE E VE ZE HE THE I KA EL EM EN ESH O PE SHE KU ER",
    "ES TE U EKS PHE KHE EF ERS CHE II UU ESS"]⟩,
   ⟨0x10320, "OLD_ITALIC_NUMERAL_", ["ONE FIVE TEN FIFTY"]⟩,
   ⟨0x1032d, "OLD_ITALIC_LETTER_", ["YE NORTHERN_TSE SOUTHERN_TSE"]⟩,
   ⟨0x10330, "GOTHIC_LETTER_", ["AHSA BAIRKAN GIBA DAGS AIHVUS QAIRTHRA IUJA HAGL THIUTH EIS",
    "KUSMA LAGUS MANNA NAUTHS JER URUS PAIRTHRA NINETY RAIDA SAUIL TEIWS WINJA FAIHU IGGWS HWAIR",
    "OTHAL NINE_HUNDRED"]⟩,
   ⟨0x10350, "OLD_PERMIC_LETTER_", ["AN BUR GAI DOI E ZHOI DZHOI ZATA DZITA I KOKE LEI MENOE",
    "NENOE VOOI PEEI REI SII TAI U CHERY SHOOI SHCHOOI YRY YERU O OO EF HA TSIU VER YER YERI YAT",
    "IE YU YA IA"]⟩,
   ⟨0x10376, "COMBINING_OLD_PERMIC_LETTER_", ["AN DOI ZATA NENOE SII"]⟩,
   ⟨0x10450, "SHAVIAN_LETTER_", ["PEEP TOT KICK FEE THIGH SO SURE CHURCH YEA HUNG BIB DEAD GAG",
    "VOW THEY ZOO MEASURE JUDGE WOE HA-HA LOLL MIME IF EGG ASH ADO ON WOOL OUT AH ROAR NUN EAT",
    "AGE ICE UP OAK OOZE OIL AWE ARE OR AIR ERR ARRAY EAR IAN YEW"]⟩,
   ⟨0x10500, "ELBASAN_LETTER_", ["A BE CE CHE DE NDE DHE EI E FE GE GJE HE I JE KE LE LLE ME NE",
    "NA NJE O PE QE RE RRE SE SHE TE THE U VE XE Y ZE ZHE GHE GHAMMA KHE"]⟩,
   ⟨0x10530, "CAUCASIAN_ALBANIAN_LETTER_", ["ALT BET GIM DAT EB ZARL EYN ZHIL TAS CHA YOWD ZHA",
    "IRB SHA LAN INYA XEYN DYAN CAR JHOX KAR LYIT HEYT QAY AOR CHOY CHI CYAY MAQ QAR NOWC DZYAY",
    "SHAK JAYN ON TYAY FAM DZAY CHAT PEN GHEYS RAT SEYK VEYZ TIWR SHOY IWN CYAW CAYN YAYD PIWR",
    "KIW"]⟩,
   ⟨0x1056f, "CAUCASIAN_ALBANIAN_CITATION_", ["MARK"]⟩,
   ⟨0x10570, "VITHKUQI_CAPITAL_LETTER_", ["A BBE BE CE CHE DE DHE EI E FE GA � HA HHA I IJE JE",
    "KA LA LLA ME NE NJE O PE QA RE � SE SHE TE THE U VE XE � Y ZE"]⟩,
   ⟨0x10597, "VITHKUQI_SMALL_LETTER_", ["A BBE BE CE CHE DE DHE EI E FE GA � HA HHA I IJE JE KA",
    "LA LLA ME NE NJE O PE QA RE � SE SHE TE THE U VE XE � Y ZE"]⟩,
   ⟨0x10920, "LYDIAN_LETTER_", ["A B G D E V I Y K L M N O R SS T U F Q S TT AN EN LY NN C"]⟩,
   ⟨0x1093f, "LYDIAN_TRIANGULAR_", ["MARK"]⟩,
   ⟨0x10c80, "OLD_HUNGARIAN_CAPITAL_LETTER_", ["A AA EB AMB EC ENC ECS ED AND E CLOSE_E EE EF EG",
    "EGY EH I II EJ EK AK UNK EL ELY EM EN ENY O OO NIKOLSBURG_OE RUDIMENTA_OE OEE EP EMP ER",
    "SHORT_ER ES ESZ ET ENT ETY ECH U UU NIKOLSBURG_UE RUDIMENTA_UE EV EZ EZS ENT-SHAPED_SIGN US"]⟩,
   ⟨0x10cc0, "OLD_HUNGARIAN_SMALL_LETTER_", ["A AA EB AMB EC ENC ECS ED AND E CLOSE_E EE EF EG",
    "EGY EH I II EJ EK AK UNK EL ELY EM EN ENY O OO NIKOLSBURG_OE RUDIMENTA_OE OEE EP EMP ER",
    "SHORT_ER ES ESZ ET ENT ETY ECH U UU NIKOLSBURG_UE RUDIMENTA_UE EV EZ EZS ENT-SHAPED_SIGN US"]⟩,
   ⟨0x10cfa, "OLD_HUNGARIAN_NUMBER_", ["ONE FIVE TEN FIFTY ONE_HUNDRED ONE_THOUSAND"]⟩,
   ⟨0x1bc00, "DUPLOYAN_LETTER_", ["H X P T F K L B D V G R P_N D_S F_N K_M R_S TH SLOAN_DH DH KK",
    "SLOAN_J HL LH RH M N J S M_N N_M J_M S_J M_WITH_DOT N_WITH_DOT J_WITH_DOT",
    "J_WITH_DOTS_INSIDE_AND_ABOVE S_WITH_DOT S_WITH_DOT_BELOW M_S N_S J_S S_S M_N_S N_M_S J_M_S",
    "S_J_S J_S_WITH_DOT J_N J_N_S S_T S_T_R S_P S_P_R T_S T_R_S W WH W_R S_N S_M K_R_S G_R_S S_K",
    "S_K_R A SLOAN_OW OA O AOU I E IE SHORT_I UI EE SLOAN_EH ROMANIAN_I SLOAN_EE LONG_I YE U EU",
    "XW U_N LONG_U ROMANIAN_U UH SLOAN_U OOH OW OU WA WO WI WEI WOW NASAL_U NASAL_O NASAL_I",
    "NASAL_A PERNIN_AN PERNIN_AM SLOAN_EN SLOAN_AN SLOAN_ON VOCALIC_M"]⟩,
   ⟨0x1bc70, "DUPLOYAN_AFFIX_", ["LEFT_HORIZONTAL_SECANT MID_HORIZONTAL_SECANT",
    "RIGHT_HORIZONTAL_SECANT LOW_VERTICAL_SECANT MID_VERTICAL_SECANT HIGH_VERTICAL_SECANT"]⟩,
   ⟨0x1bc76, "DUPLOYAN_AFFIX_ATTACHED_", ["SECANT LEFT-TO-RIGHT_SECANT TANGENT TAIL E_HOOK",
    "I_HOOK TANGENT_HOOK"]⟩,
   ⟨0x1bc80, "DUPLOYAN_AFFIX_HIGH_", ["ACUTE TIGHT_ACUTE GRAVE LONG_GRAVE DOT CIRCLE LINE WAVE",
    "VERTICAL"]⟩,
   ⟨0x1bc90, "DUPLOYAN_AFFIX_LOW_", ["ACUTE TIGHT_ACUTE GRAVE LONG_GRAVE DOT CIRCLE LINE WAVE",
    "VERTICAL ARROW"]⟩,
   ⟨0x1bc9c, "DUPLOYAN_", ["SIGN_O_WITH_CROSS THICK_LETTER_SELECTOR DOUBLE_MARK",
    "PUNCTUATION_CHINOOK_FULL_STOP"]⟩,
   ⟨0x1bca0, "SHORTHAND_FORMAT_", ["LETTER_OVERLAP CONTINUING_OVERLAP DOWN_STEP UP_STEP"]⟩,
   ⟨0x1e000, "COMBINING_GLAGOLITIC_LETTER_", ["AZU BUKY VEDE GLAGOLI DOBRO YESTU ZHIVETE �",
    "ZEMLJA IZHE INITIAL_IZHE I DJERVI KAKO LJUDIJE MYSLITE NASHI ONU POKOJI RITSI SLOVO TVRIDO",
    "UKU FRITU HERU � � SHTA TSI CHRIVI SHA YERU YERI YATI � YU SMALL_YUS � YO IOTATED_SMALL_YUS",
    "BIG_YUS IOTATED_BIG_YUS FITA"]⟩]

end SqlRoutes.Text.Names
