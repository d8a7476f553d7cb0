import SqlRoutes.Text.Names.Series

namespace SqlRoutes.Text.Names

def southeastAsian : List Series :=
  [⟨0x0e01, "THAI_CHARACTER_", ["KO_KAI KHO_KHAI KHO_KHUAT KHO_KHWAI KHO_KHON KHO_RAKHANG",
    "NGO_NGU CHO_CHAN CHO_CHING CHO_CHANG SO_SO CHO_CHOE YO_YING DO_CHADA TO_PATAK THO_THAN",
    "THO_NANGMONTHO THO_PHUTHAO NO_NEN DO_DEK TO_TAO THO_THUNG THO_THAHAN THO_THONG NO_NU",
    "BO_BAIMAI PO_PLA PHO_PHUNG FO_FA PHO_PHAN FO_FAN PHO_SAMPHAO MO_MA YO_YAK RO_RUA RU LO_LING",
    "LU WO_WAEN SO_SALA SO_RUSI SO_SUA HO_HIP LO_CHULA O_ANG HO_NOKHUK PAIYANNOI SARA_A",
    "MAI_HAN-AKAT SARA_AA SARA_AM SARA_I SARA_II SARA_UE SARA_UEE SARA_U SARA_UU PHINTHU"]⟩,
   ⟨0x0e3f, "THAI_CURRENCY_SYMBOL_", ["BAHT"]⟩,
   ⟨0x0e40, "THAI_CHARACTER_", ["SARA_E SARA_AE SARA_O SARA_AI_MAIMUAN SARA_AI_MAIMALAI",
    "LAKKHANGYAO MAIYAMOK MAITAIKHU MAI_EK MAI_THO MAI_TRI MAI_CHATTAWA THANTHAKHAT NIKHAHIT",
    "YAMAKKAN FONGMAN"]⟩,
   ⟨0x0e50, "THAI_DIGIT_", ["ZERO ONE TWO THREE FOUR FIVE SIX SEVEN EIGHT NINE"]⟩,
   ⟨0x0e5a, "THAI_CHARACTER_", ["ANGKHANKHU KHOMUT"]⟩,
   ⟨0x0e81, "LAO_LETTER_", ["KO KHO_SUNG � KHO_TAM � PALI_GHA NGO CO PALI_CHA SO_TAM � PALI_JHA",
    "NYO PALI_NYA PALI_TTA PALI_TTHA PALI_DDA PALI_DDHA PALI_NNA DO TO THO_SUNG THO_TAM PALI_DHA",
    "NO BO PO PHO_SUNG FO_TAM PHO_TAM FO_SUNG PALI_BHA MO YO LO_LING � LO_LOOT � WO SANSKRIT_SHA",
    "SANSKRIT_SSA SO_SUNG HO_SUNG PALI_LLA O HO_TAM"]⟩,
   ⟨0x0eaf, "LAO_", ["ELLIPSIS"]⟩,
   ⟨0x0eb0, "LAO_VOWEL_SIGN_", ["A MAI_KAN AA AM I II Y YY U UU"]⟩,
   ⟨0x0eba, "LAO_", ["SIGN_PALI_VIRAMA VOWEL_SIGN_MAI_KON SEMIVOWEL_SIGN_LO SEMIVOWEL_SIGN_NYO �",
    "� VOWEL_SIGN_E VOWEL_SIGN_EI VOWEL_SIGN_O VOWEL_SIGN_AY VOWEL_SIGN_AI � KO_LA � TONE_MAI_EK",
    "TONE_MAI_THO TONE_MAI_TI TONE_MAI_CATAWA CANCELLATION_MARK NIGGAHITA"]⟩,
   ⟨0x0ed0, "LAO_DIGIT_", ["ZERO ONE TWO THREE FOUR FIVE SIX SEVEN EIGHT NINE"]⟩,
   ⟨0x0edc, "LAO_", ["HO_NO HO_MO LETTER_KHMU_GO LETTER_KHMU_NYO"]⟩,
   ⟨0x1000, "MYANMAR_LETTER_", ["KA KHA GA GHA NGA CA CHA JA JHA NYA NNYA TTA TTHA DDA DDHA NNA",
    "TA THA DA DHA NA PA PHA BA BHA MA YA RA LA WA SA HA LLA A SHAN_A I II U UU E MON_E O AU"]⟩,
   ⟨0x102b, "MYANMAR_VOWEL_SIGN_", ["TALL_AA AA I II U UU E AI MON_II MON_O E_ABOVE"]⟩,
   ⟨0x1036, "MYANMAR_SIGN_", ["ANUSVARA DOT_BELOW VISARGA VIRAMA ASAT"]⟩,
   ⟨0x103b, "MYANMAR_CONSONANT_SIGN_MEDIAL_", ["YA RA WA HA"]⟩,
   ⟨0x103f, "MYANMAR_", ["LETTER_GREAT_SA DIGIT_ZERO DIGIT_ONE DIGIT_TWO DIGIT_THREE DIGIT_FOUR",
    "DIGIT_FIVE DIGIT_SIX DIGIT_SEVEN DIGIT_EIGHT DIGIT_NINE SIGN_LITTLE_SECTION SIGN_SECTION",
    "SYMBOL_LOCATIVE SYMBOL_COMPLETED SYMBOL_AFOREMENTIONED SYMBOL_GENITIVE LETTER_SHA",
    "LETTER_SSA"]⟩,
   ⟨0x1052, "MYANMAR_LETTER_VOCALIC_", ["R RR L LL"]⟩,
   ⟨0x1056, "MYANMAR_VOWEL_SIGN_VOCALIC_", ["R RR L LL"]⟩,
   ⟨0x105a, "MYANMAR_LETTER_MON_", ["NGA JHA BBA BBE"]⟩,
   ⟨0x105e, "MYANMAR_CONSONANT_SIGN_MON_MEDIAL_", ["NA MA LA"]⟩,
   ⟨0x1061, "MYANMAR_", ["LETTER_SGAW_KAREN_SHA VOWEL_SIGN_SGAW_KAREN_EU",
    "TONE_MARK_SGAW_KAREN_HATHI TONE_MARK_SGAW_KAREN_KE_PHO LETTER_WESTERN_PWO_KAREN_THA",
    "LETTER_WESTERN_PWO_KAREN_PWA VOWEL_SIGN_WESTERN_PWO_KAREN_EU",
    "VOWEL_SIGN_WESTERN_PWO_KAREN_UE"]⟩,
   ⟨0x1069, "MYANMAR_SIGN_WESTERN_PWO_KAREN_TONE-", ["1 2 3 4 5"]⟩,
   ⟨0x106e, "MYANMAR_LETTER_EASTERN_PWO_KAREN_", ["NNA YWA GHWA"]⟩,
   ⟨0x1071, "MYANMAR_VOWEL_SIGN_", ["GEBA_KAREN_I KAYAH_OE KAYAH_U KAYAH_EE"]⟩,
   ⟨0x1075, "MYANMAR_LETTER_SHAN_", ["KA KHA GA CA ZA NYA DA NA PHA FA BA THA HA"]⟩,
   ⟨0x1082, "MYANMAR_CONSONANT_SIGN_SHAN_MEDIAL_", ["WA"]⟩,
   ⟨0x1083, "MYANMAR_VOWEL_SIGN_SHAN_", ["AA E E_ABOVE FINAL_Y"]⟩,
   ⟨0x1087, "MYANMAR_SIGN_SHAN_", ["TONE-2 TONE-3 TONE-5 TONE-6 COUNCIL_TONE-2 COUNCIL_TONE-3",
    "COUNCIL_EMPHATIC_TONE"]⟩,
   ⟨0x108e, "MYANMAR_", ["LETTER_RUMAI_PALAUNG_FA SIGN_RUMAI_PALAUNG_TONE-5"]⟩,
   ⟨0x1090, "MYANMAR_SHAN_DIGIT_", ["ZERO ONE TWO THREE FOUR FIVE SIX SEVEN EIGHT NINE"]⟩,
   ⟨0x109a, "MYANMAR_", ["SIGN_KHAMTI_TONE-1 SIGN_KHAMTI_TONE-3 VOWEL_SIGN_AITON_A",
    "VOWEL_SIGN_AITON_AI SYMBOL_SHAN_ONE SYMBOL_SHAN_EXCLAMATION"]⟩,
   ⟨0x1700, "TAGALOG_LETTER_", ["A I U KA GA NGA TA DA NA PA BA MA YA RA LA WA SA HA"]⟩,
   ⟨0x1712, "TAGALOG_", ["VOWEL_SIGN_I VOWEL_SIGN_U SIGN_VIRAMA SIGN_PAMUDPOD"]⟩,
   ⟨0x171f, "TAGALOG_LETTER_ARCHAIC_", ["RA"]⟩,
   ⟨0x1720, "HANUNOO_LETTER_", ["A I U KA GA NGA TA DA NA PA BA MA YA RA LA WA SA HA"]⟩,
   ⟨0x1732, "HANUNOO_", ["VOWEL_SIGN_I VOWEL_SIGN_U SIGN_PAMUDPOD"]⟩,
   ⟨0x1735, "PHILIPPINE_", ["SINGLE_PUNCTUATION DOUBLE_PUNCTUATION"]⟩,
   ⟨0x1740, "BUHID_LETTER_", ["A I U KA GA NGA TA DA NA PA BA MA YA RA LA WA SA HA"]⟩,
   ⟨0x1752, "BUHID_VOWEL_SIGN_", ["I U"]⟩,
   ⟨0x1760, "TAGBANWA_LETTER_", ["A I U KA GA NGA TA DA NA PA BA MA YA � LA WA SA"]⟩,
   ⟨0x1772, "TAGBANWA_VOWEL_SIGN_", ["I U"]⟩,
   ⟨0x1780, "KHMER_LETTER_", ["KA KHA KO KHO NGO CA CHA CO CHO NYO DA TTHA DO TTHO NNO TA THA TO",
    "THO NO BA PHA PO PHO MO YO RO LO VO SHA SSO SA HA LA QA"]⟩,
   ⟨0x17a3, "KHMER_INDEPENDENT_VOWEL_", ["QAQ QAA QI QII QU QUK QUU QUUV RY RYY LY LYY QE QAI",
    "QOO_TYPE_ONE QOO_TYPE_TWO QAU"]⟩,
   ⟨0x17b4, "KHMER_VOWEL_INHERENT_", ["AQ AA"]⟩,
   ⟨0x17b6, "KHMER_VOWEL_SIGN_", ["AA I II Y YY U UU UA OE YA IE E AE AI OO AU"]⟩,
   ⟨0x17c6, "KHMER_SIGN_", ["NIKAHIT REAHMUK YUUKALEAPINTU MUUSIKATOAN TRIISAP BANTOC ROBAT",
    "TOANDAKHIAT KAKABAT AHSDA SAMYOK_SANNYA VIRIAM COENG BATHAMASAT KHAN BARIYOOSAN",
    "CAMNUC_PII_KUUH LEK_TOO BEYYAL PHNAEK_MUAN KOOMUUT"]⟩,
   ⟨0x17db, "KHMER_", ["CURRENCY_SYMBOL_RIEL SIGN_AVAKRAHASANYA SIGN_ATTHACAN"]⟩,
   ⟨0x17e0, "KHMER_DIGIT_", ["ZERO ONE TWO THREE FOUR FIVE SIX SEVEN EIGHT NINE"]⟩,
   ⟨0x17f0, "KHMER_SYMBOL_LEK_ATTAK_", ["SON MUOY PII BEI BUON PRAM PRAM-MUOY PRAM-PII PRAM-BEI",
    "PRAM-BUON"]⟩,
   ⟨0x1950, "TAI_LE_LETTER_", ["KA XA NGA TSA SA YA TA THA LA PA PHA MA FA VA HA QA KHA TSHA NA",
    "A I EE EH U OO O UE E AUE AI � � TONE-2 TONE-3 TONE-4 TONE-5 TONE-6"]⟩,
   ⟨0x1980, "NEW_TAI_LUE_LETTER_", ["HIGH_QA LOW_QA HIGH_KA HIGH_XA HIGH_NGA LOW_KA LOW_XA",
    "LOW_NGA HIGH_TSA HIGH_SA HIGH_YA LOW_TSA LOW_SA LOW_YA HIGH_TA HIGH_THA HIGH_NA LOW_TA",
    "LOW_THA LOW_NA HIGH_PA HIGH_PHA HIGH_MA LOW_PA LOW_PHA LOW_MA HIGH_FA HIGH_VA HIGH_LA",
    "LOW_FA LOW_VA LOW_LA HIGH_HA HIGH_DA HIGH_BA LOW_HA LOW_DA LOW_BA HIGH_KVA HIGH_XVA LOW_KVA",
    "LOW_XVA HIGH_SUA LOW_SUA"]⟩,
   ⟨0x19b0, "NEW_TAI_LUE_VOWEL_SIGN_", ["VOWEL_SHORTENER AA II U UU E AE O OA UE AY AAY UY OY",
    "OAY UEY IY"]⟩,
   ⟨0x19c1, "NEW_TAI_LUE_LETTER_FINAL_", ["V NG N M K D B"]⟩,
   ⟨0x19c8, "NEW_TAI_LUE_TONE_MARK-", ["1 2"]⟩,
   ⟨0x19d0, "NEW_TAI_LUE_DIGIT_", ["ZERO ONE TWO THREE FOUR FIVE SIX SEVEN EIGHT NINE"]⟩,
   ⟨0x19da, "NEW_TAI_LUE_", ["THAM_DIGIT_ONE � � � SIGN_LAE SIGN_LAEV"]⟩,
   ⟨0x19e0, "KHMER_SYMBOL_", ["PATHAMASAT MUOY_KOET PII_KOET BEI_KOET BUON_KOET PRAM_KOET",
    "PRAM-MUOY_KOET PRAM-PII_KOET PRAM-BEI_KOET PRAM-BUON_KOET DAP_KOET DAP-MUOY_KOET",
    "DAP-PII_KOET DAP-BEI_KOET DAP-BUON_KOET DAP-PRAM_KOET TUTEYASAT MUOY_ROC PII_ROC BEI_ROC",
    "BUON_ROC PRAM_ROC PRAM-MUOY_ROC PRAM-PII_ROC PRAM-BEI_ROC PRAM-BUON_ROC DAP_ROC",
    "DAP-MUOY_ROC DAP-PII_ROC DAP-BEI_ROC DAP-BUON_ROC DAP-PRAM_ROC"]⟩,
   ⟨0x1a00, "BUGINESE_LETTER_", ["KA GA NGA NGKA PA BA MA MPA TA DA NA NRA CA JA NYA NYCA YA RA",
    "LA VA SA A HA"]⟩,
   ⟨0x1a17, "BUGINESE_VOWEL_SIGN_", ["I U E O AE"]⟩,
   ⟨0x1a1e, "BUGINESE_", ["PALLAWA END_OF_SECTION"]⟩,
   ⟨0x1a20, "TAI_THAM_LETTER_", ["HIGH_KA HIGH_KHA HIGH_KXA LOW_KA LOW_KXA LOW_KHA NGA HIGH_CA",
    "HIGH_CHA LOW_CA LOW_SA LOW_CHA NYA RATA HIGH_RATHA DA LOW_RATHA RANA HIGH_TA HIGH_THA",
    "LOW_TA LOW_THA NA BA HIGH_PA HIGH_PHA HIGH_FA LOW_PA LOW_FA LOW_PHA MA LOW_YA HIGH_YA RA",
    "RUE LA LUE WA HIGH_SHA HIGH_SSA HIGH_SA HIGH_HA LLA A LOW_HA I II U UU EE OO LAE GREAT_SA"]⟩,
   ⟨0x1a55, "TAI_THAM_", ["CONSONANT_SIGN_MEDIAL_RA CONSONANT_SIGN_MEDIAL_LA",
    "CONSONANT_SIGN_LA_TANG_LAI SIGN_MAI_KANG_LAI"]⟩,
   ⟨0x1a59, "TAI_THAM_CONSONANT_SIGN_", ["FINAL_NGA LOW_PA HIGH_RATHA_OR_LOW_PA MA BA SA"]⟩,
   ⟨0x1a60, "TAI_THAM_SIGN_", ["SAKOT"]⟩,
   ⟨0x1a61, "TAI_THAM_VOWEL_SIGN_", ["A MAI_SAT AA TALL_AA I II UE UUE U UU O OA_BELOW OY E AE",
    "OO AI THAM_AI OA_ABOVE"]⟩,
   ⟨0x1a74, "TAI_THAM_SIGN_", ["MAI_KANG TONE-1 TONE-2 KHUEN_TONE-3 KHUEN_TONE-4 KHUEN_TONE-5",
    "RA_HAAM MAI_SAM KHUEN-LUE_KARAN"]⟩,
   ⟨0x1a7f, "TAI_THAM_COMBINING_CRYPTOGRAMMIC_", ["DOT"]⟩,
   ⟨0x1a80, "TAI_THAM_HORA_DIGIT_", ["ZERO ONE TWO THREE FOUR FIVE SIX SEVEN EIGHT NINE"]⟩,
   ⟨0x1a90, "TAI_THAM_THAM_DIGIT_", ["ZERO ONE TWO THREE FOUR FIVE SIX SEVEN EIGHT NINE"]⟩,
   ⟨0x1aa0, "TAI_THAM_SIGN_", ["WIANG WIANGWAAK SAWAN KEOW HOY DOKMAI REVERSED_ROTATED_RANA",
    "MAI_YAMOK KAAN KAANKUU SATKAAN SATKAANKUU HANG CAANG"]⟩,
   ⟨0x1b00, "BALINESE_SIGN_", ["ULU_RICEM ULU_CANDRA CECEK SURANG BISAH"]⟩,
   ⟨0x1b05, "BALINESE_LETTER_", ["AKARA AKARA_TEDUNG IKARA IKARA_TEDUNG UKARA UKARA_TEDUNG",
    "RA_REPA RA_REPA_TEDUNG LA_LENGA LA_LENGA_TEDUNG EKARA AIKARA OKARA OKARA_TEDUNG KA",
    "KA_MAHAPRANA GA GA_GORA NGA CA CA_LACA JA JA_JERA NYA TA_LATIK TA_MURDA_MAHAPRANA",
    "DA_MURDA_ALPAPRANA DA_MURDA_MAHAPRANA NA_RAMBAT TA TA_TAWA DA DA_MADU NA PA PA_KAPAL BA",
    "BA_KEMBANG MA YA RA LA WA SA_SAGA SA_SAPA SA HA"]⟩,
   ⟨0x1b34, "BALINESE_SIGN_", ["REREKAN"]⟩,
   ⟨0x1b35, "BALINESE_VOWEL_SIGN_", ["TEDUNG ULU ULU_SARI SUKU SUKU_ILUT RA_REPA RA_REPA_TEDUNG",
    "LA_LENGA LA_LENGA_TEDUNG TALING TALING_REPA TALING_TEDUNG TALING_REPA_TEDUNG PEPET",
    "PEPET_TEDUNG"]⟩,
   ⟨0x1b44, "BALINESE_ADEG_", ["ADEG"]⟩,
   ⟨0x1b45, "BALINESE_LETTER_", ["KAF_SASAK KHOT_SASAK TZIR_SASAK EF_SASAK VE_SASAK ZAL_SASAK",
    "ASYURA_SASAK ARCHAIC_JNYA"]⟩,
   ⟨0x1b50, "BALINESE_DIGIT_", ["ZERO ONE TWO THREE FOUR FIVE SIX SEVEN EIGHT NINE"]⟩,
   ⟨0x1b5a, "BALINESE_", ["PANTI PAMADA WINDU CARIK_PAMUNGKAH CARIK_SIKI CARIK_PAREREN PAMENENG"]⟩,
   ⟨0x1b61, "BALINESE_MUSICAL_SYMBOL_", ["DONG DENG DUNG DANG DANG_SURANG DING DAENG DEUNG DAING",
    "DANG_GEDE"]⟩,
   ⟨0x1b6b, "BALINESE_MUSICAL_SYMBOL_COMBINING_", ["TEGEH ENDEP KEMPUL KEMPLI JEGOGAN",
    "KEMPUL_WITH_JEGOGAN KEMPLI_WITH_JEGOGAN BENDE GONG"]⟩,
   ⟨0x1b74, "BALINESE_MUSICAL_SYMBOL_RIGHT-HAND_", ["OPEN_DUG OPEN_DAG CLOSED_TUK CLOSED_TAK"]⟩,
   ⟨0x1b78, "BALINESE_MUSICAL_SYMBOL_LEFT-HAND_", ["OPEN_PANG OPEN_PUNG CLOSED_PLAK CLOSED_PLUK",
    "OPEN_PING"]⟩,
   ⟨0x1b7d, "BALINESE_", ["PANTI_LANTANG PAMADA_LANTANG"]⟩,
   ⟨0x1b80, "SUNDANESE_SIGN_", ["PANYECEK PANGLAYAR PANGWISAD"]⟩,
   ⟨0x1b83, "SUNDANESE_LETTER_", ["A I U AE O E EU KA QA GA NGA CA JA ZA NYA TA DA NA PA FA VA",
    "BA MA YA RA LA WA SA XA HA"]⟩,
   ⟨0x1ba1, "SUNDANESE_CONSONANT_SIGN_", ["PAMINGKAL PANYAKRA PANYIKU"]⟩,
   ⟨0x1ba4, "SUNDANESE_VOWEL_SIGN_", ["PANGHULU PANYUKU PANAELAENG PANOLONG PAMEPET PANEULEUNG"]⟩,
   ⟨0x1baa, "SUNDANESE_", ["SIGN_PAMAAEH SIGN_VIRAMA CONSONANT_SIGN_PASANGAN_MA",
    "CONSONANT_SIGN_PASANGAN_WA LETTER_KHA LETTER_SYA DIGIT_ZERO DIGIT_ONE DIGIT_TWO DIGIT_THREE",
    "DIGIT_FOUR DIGIT_FIVE DIGIT_SIX DIGIT_SEVEN DIGIT_EIGHT DIGIT_NINE AVAGRAHA LETTER_REU",
    "LETTER_LEU LETTER_BHA LETTER_FINAL_K LETTER_FINAL_M"]⟩,
   ⟨0x1bc0, "BATAK_LETTER_", ["A SIMALUNGUN_A HA SIMALUNGUN_HA MANDAILING_HA BA KARO_BA PA",
    "SIMALUNGUN_PA NA MANDAILING_NA WA SIMALUNGUN_WA PAKPAK_WA GA SIMALUNGUN_GA JA DA RA",
    "SIMALUNGUN_RA MA SIMALUNGUN_MA SOUTHERN_TA NORTHERN_TA SA SIMALUNGUN_SA MANDAILING_SA YA",
    "SIMALUNGUN_YA NGA LA SIMALUNGUN_LA NYA CA NDA MBA I U"]⟩,
   ⟨0x1be6, "BATAK_SIGN_", ["TOMPI"]⟩,
   ⟨0x1be7, "BATAK_VOWEL_SIGN_", ["E PAKPAK_E EE I KARO_I O KARO_O U U_FOR_SIMALUNGUN_SA"]⟩,
   ⟨0x1bf0, "BATAK_", ["CONSONANT_SIGN_NG CONSONANT_SIGN_H PANGOLAT PANONGONAN"]⟩,
   ⟨0x1bfc, "BATAK_SYMBOL_BINDU_", ["NA_METEK PINARBORAS JUDUL PANGOLAT"]⟩,
   ⟨0x1cc0, "SUNDANESE_PUNCTUATION_BINDU_", ["SURYA PANGLONG PURNAMA CAKRA LEU_SATANGA",
    "KA_SATANGA DA_SATANGA BA_SATANGA"]⟩,
   ⟨0xa900, "KAYAH_LI_DIGIT_", ["ZERO ONE TWO THREE FOUR FIVE SIX SEVEN EIGHT NINE"]⟩,
   ⟨0xa90a, "KAYAH_LI_LETTER_", ["KA KHA GA NGA SA SHA ZA NYA TA HTA NA PA PHA MA DA BA RA YA LA",
    "WA THA HA VA CA A OE I OO"]⟩,
   ⟨0xa926, "KAYAH_LI_", ["VOWEL_UE VOWEL_E VOWEL_U VOWEL_EE VOWEL_O TONE_PLOPHU TONE_CALYA",
    "TONE_CALYA_PLOPHU SIGN_CWI SIGN_SHYA"]⟩,
   ⟨0xa930, "REJANG_LETTER_", ["KA GA NGA TA DA NA PA BA MA CA JA NYA SA RA LA YA WA HA MBA NGGA",
    "NDA NYJA A"]⟩,
   ⟨0xa947, "REJANG_VOWEL_SIGN_", ["I U E AI O AU EU EA"]⟩,
   ⟨0xa94f, "REJANG_CONSONANT_SIGN_", ["NG N R H"]⟩,
   ⟨0xa953, "REJANG_", ["VIRAMA"]⟩,
   ⟨0xa95f, "REJANG_SECTION_", ["MARK"]⟩,
   ⟨0xa980, "JAVANESE_SIGN_", ["PANYANGGA CECAK LAYAR WIGNYAN"]⟩,
   ⟨0xa984, "JAVANESE_LETTER_", ["A I_KAWI I II U PA_CEREK NGA_LELET NGA_LELET_RASWADI E AI O KA",
    "KA_SASAK KA_MURDA GA GA_MURDA NGA CA CA_MURDA JA NYA_MURDA JA_MAHAPRANA NYA TTA",
    "TTA_MAHAPRANA DDA DDA_MAHAPRANA NA_MURDA TA TA_MURDA DA DA_MAHAPRANA NA PA PA_MURDA BA",
    "BA_MURDA MA YA RA RA_AGUNG LA WA SA_MURDA SA_MAHAPRANA SA HA"]⟩,
   ⟨0xa9b3, "JAVANESE_SIGN_CECAK_", ["TELU"]⟩,
   ⟨0xa9b4, "JAVANESE_VOWEL_SIGN_", ["TARUNG TOLONG WULU WULU_MELIK SUKU SUKU_MENDUT TALING",
    "DIRGA_MURE PEPET"]⟩,
   ⟨0xa9bd, "JAVANESE_", ["CONSONANT_SIGN_KERET CONSONANT_SIGN_PENGKAL CONSONANT_SIGN_CAKRA",
    "PANGKON LEFT_RERENGGAN RIGHT_RERENGGAN PADA_ANDAP PADA_MADYA PADA_LUHUR PADA_WINDU",
    "PADA_PANGKAT PADA_LINGSA PADA_LUNGSI PADA_ADEG PADA_ADEG_ADEG PADA_PISELEH",
    "TURNED_PADA_PISELEH � PANGRANGKEP"]⟩,
   ⟨0xa9d0, "JAVANESE_DIGIT_", ["ZERO ONE TWO THREE FOUR FIVE SIX SEVEN EIGHT NINE"]⟩,
   ⟨0xa9de, "JAVANESE_PADA_", ["TIRTA_TUMETES ISEN-ISEN"]⟩,
   ⟨0xa9e0, "MYANMAR_LETTER_SHAN_", ["GHA CHA JHA NNA BHA"]⟩,
   ⟨0xa9e5, "MYANMAR_", ["SIGN_SHAN_SAW MODIFIER_LETTER_SHAN_REDUPLICATION"]⟩,
   ⟨0xa9e7, "MYANMAR_LETTER_TAI_LAING_", ["NYA FA GA GHA JA JHA DDA DDHA NNA"]⟩,
   ⟨0xa9f0, "MYANMAR_TAI_LAING_DIGIT_", ["ZERO ONE TWO THREE FOUR FIVE SIX SEVEN EIGHT NINE"]⟩,
   ⟨0xa9fa, "MYANMAR_LETTER_TAI_LAING_", ["LLA DA DHA BA BHA"]⟩,
   ⟨0xaa00, "CHAM_LETTER_", ["A I U E AI O KA KHA GA GHA NGUE NGA CHA CHHA JA JHA NHUE NHA NHJA",
    "TA THA DA DHA NUE NA DDA PA PPA PHA BA BHA MUE MA BBA YA RA LA VA SSA SA HA"]⟩,
   ⟨0xaa29, "CHAM_VOWEL_SIGN_", ["AA I II EI U OE O AI AU UE"]⟩,
   ⟨0xaa33, "CHAM_CONSONANT_SIGN_", ["YA RA LA WA"]⟩,
   ⟨0xaa40, "CHAM_", ["LETTER_FINAL_K LETTER_FINAL_G LETTER_FINAL_NG CONSONANT_SIGN_FINAL_NG"]⟩,
   ⟨0xaa44, "CHAM_LETTER_FINAL_", ["CH T N P Y R L SS"]⟩,
   ⟨0xaa4c, "CHAM_CONSONANT_SIGN_FINAL_", ["M H"]⟩,
   ⟨0xaa50, "CHAM_DIGIT_", ["ZERO ONE TWO THREE FOUR FIVE SIX SEVEN EIGHT NINE"]⟩,
   ⟨0xaa5c, "CHAM_PUNCTUATION_", ["SPIRAL DANDA DOUBLE_DANDA TRIPLE_DANDA"]⟩,
   ⟨0xaa60, "MYANMAR_LETTER_KHAMTI_", ["GA CA CHA JA JHA NYA TTA TTHA DDA DDHA DHA NA SA HA HHA",
    "FA"]⟩,
   ⟨0xaa70, "MYANMAR_", ["MODIFIER_LETTER_KHAMTI_REDUPLICATION LETTER_KHAMTI_XA LETTER_KHAMTI_ZA",
    "LETTER_KHAMTI_RA LOGOGRAM_KHAMTI_OAY LOGOGRAM_KHAMTI_QN LOGOGRAM_KHAMTI_HM",
    "SYMBOL_AITON_EXCLAMATION SYMBOL_AITON_ONE SYMBOL_AITON_TWO LETTER_AITON_RA",
    "SIGN_PAO_KAREN_TONE SIGN_TAI_LAING_TONE-2 SIGN_TAI_LAING_TONE-5 LETTER_SHWE_PALAUNG_CHA",
    "LETTER_SHWE_PALAUNG_SHA"]⟩,
   ⟨0xaa80, "TAI_VIET_LETTER_", ["LOW_KO HIGH_KO LOW_KHO HIGH_KHO LOW_KHHO HIGH_KHHO LOW_GO",
    "HIGH_GO LOW_NGO HIGH_NGO LOW_CO HIGH_CO LOW_CHO HIGH_CHO LOW_SO HIGH_SO LOW_NYO HIGH_NYO",
    "LOW_DO HIGH_DO LOW_TO HIGH_TO LOW_THO HIGH_THO LOW_NO HIGH_NO LOW_BO HIGH_BO LOW_PO HIGH_PO",
    "LOW_PHO HIGH_PHO LOW_FO HIGH_FO LOW_MO HIGH_MO LOW_YO HIGH_YO LOW_RO HIGH_RO LOW_LO HIGH_LO",
    "LOW_VO HIGH_VO LOW_HO HIGH_HO LOW_O HIGH_O"]⟩,
   ⟨0xaab0, "TAI_VIET_", ["MAI_KANG VOWEL_AA VOWEL_I VOWEL_UE VOWEL_U VOWEL_E VOWEL_O MAI_KHIT"]⟩,
   ⟨0xaab8, "TAI_VIET_VOWEL_", ["IA UEA UA AUE AY AN AM"]⟩,
   ⟨0xaabf, "TAI_VIET_TONE_MAI_", ["EK NUENG THO SONG"]⟩,
   ⟨0xaadb, "TAI_VIET_SYMBOL_", ["KON NUENG SAM HO_HOI KOI_KOI"]⟩,
   ⟨0x11ac0, "PAU_CIN_HAU_LETTER_", ["PA KA LA MA DA ZA VA NGA HA GA KHA SA BA CA TA THA NA PHA",
    "RA FA CHA A E I O U UA IA"]⟩,
   ⟨0x11adc, "PAU_CIN_HAU_LETTER_FINAL_", ["P K T M N L W NG Y"]⟩,
   ⟨0x11ae5, "PAU_CIN_HAU_", ["RISING_TONE_LONG RISING_TONE SANDHI_GLOTTAL_STOP",
    "RISING_TONE_LONG_FINAL RISING_TONE_FINAL SANDHI_GLOTTAL_STOP_FINAL SANDHI_TONE_LONG",
    "SANDHI_TONE SANDHI_TONE_LONG_FINAL SANDHI_TONE_FINAL MID-LEVEL_TONE GLOTTAL_STOP_VARIANT",
    "MID-LEVEL_TONE_LONG_FINAL MID-LEVEL_TONE_FINAL LOW-FALLING_TONE_LONG LOW-FALLING_TONE",
    "GLOTTAL_STOP LOW-FALLING_TONE_LONG_FINAL LOW-FALLING_TONE_FINAL GLOTTAL_STOP_FINAL"]⟩,
   ⟨0x11ee0, "MAKASAR_LETTER_", ["KA GA NGA PA BA MA TA DA NA CA JA NYA YA RA LA VA SA A"]⟩,
   ⟨0x11ef2, "MAKASAR_", ["ANGKA VOWEL_SIGN_I VOWEL_SIGN_U VOWEL_SIGN_E VOWEL_SIGN_O PASSIMBANG",
    "END_OF_SECTION"]⟩,
   ⟨0x16a70, "TANGSA_LETTER_", ["OZ OC OQ OX AZ AC AQ AX VZ VC VQ VX EZ EC EQ EX IZ IC IQ IX UZ",
    "UC UQ UX AWZ AWC AWQ AWX UIZ UIC UIQ UIX FINAL_NG LONG_UEX SHORT_UEZ SHORT_AWX UEC UEZ UEQ",
    "UEX UIUZ UIUC UIUQ UIUX MZ MC MQ MX KA KHA GA NGA SA YA WA PA NYA PHA BA MA NA HA LA HTA TA",
    "DA RA NHA SHA CA TSA GHA HTTA THA XA FA DHA CHA ZA"]⟩,
   ⟨0x16ac0, "TANGSA_DIGIT_", ["ZERO ONE TWO THREE FOUR FIVE SIX SEVEN EIGHT NINE"]⟩,
   ⟨0x16b00, "PAHAWH_HMONG_VOWEL_", ["KEEB KEEV KIB KIV KAUB KAUV KUB KUV KEB KEV KAIB KAIV KOOB",
    "KOOV KAWB KAWV KUAB KUAV KOB KOV KIAB KIAV KAB KAV KWB KWV KAAB KAAV"]⟩,
   ⟨0x16b1c, "PAHAWH_HMONG_CONSONANT_", ["VAU NTSAU LAU HAU NLAU RAU NKAU QHAU YAU HLAU MAU CHAU",
    "NCHAU HNAU PLHAU NTHAU NAU AU XAU CAU"]⟩,
   ⟨0x16b30, "PAHAWH_HMONG_MARK_CIM_", ["TUB SO KES KHAV SUAM HOM TAUM"]⟩,
   ⟨0x16b37, "PAHAWH_HMONG_SIGN_", ["VOS_THOM VOS_TSHAB_CEEB CIM_CHEEM VOS_THIAB VOS_FEEM",
    "XYEEM_NTXIV XYEEM_RHO XYEEM_TOV XYEEM_FAIB VOS_SEEV MEEJ_SUAB VOS_NRUA IB_YAM XAUS",
    "CIM_TSOV_ROG"]⟩,
   ⟨0x16b50, "PAHAWH_HMONG_DIGIT_", ["ZERO ONE TWO THREE FOUR FIVE SIX SEVEN EIGHT NINE"]⟩,
   ⟨0x16b5b, "PAHAWH_HMONG_NUMBER_", ["TENS HUNDREDS TEN_THOUSANDS MILLIONS HUNDRED_MILLIONS",
    "TEN_BILLIONS TRILLIONS"]⟩,
   ⟨0x16b63, "PAHAWH_HMONG_SIGN_", ["VOS_LUB XYOO HLI THIRD-STAGE_HLI ZWJ_THAJ HNUB NQIG XIAB",
    "NTUJ AV TXHEEJ_CEEV MEEJ_TSEEB TAU LOS MUS CIM_HAIS_LUS_NTOG_NTOG CIM_CUAM_TSHOOJ CIM_TXWV",
    "CIM_TXWV_CHWV CIM_PUB_DAWB CIM_NRES_TOS"]⟩,
   ⟨0x16b7d, "PAHAWH_HMONG_CLAN_SIGN_", ["TSHEEJ YEEG LIS LAUJ XYOOJ KOO HAWJ MUAS THOJ TSAB",
    "PHAB KHAB HAM VAJ FAJ YAJ TSWB KWM VWJ"]⟩,
   ⟨0x1e100, "NYIAKENG_PUACHUE_HMONG_LETTER_", ["MA TSA NTA TA HA NA XA NKA CA LA SA ZA NCA NTSA",
    "KA DA NYA NRA VA NTXA TXA FA RA QA YA NQA PA XYA NPA DLA NPLA HAH MLA PLA GA RRA A AA I U O",
    "OO E EE W"]⟩,
   ⟨0x1e130, "NYIAKENG_PUACHUE_HMONG_", ["TONE-B TONE-M TONE-J TONE-V TONE-S TONE-G TONE-D",
    "SIGN_FOR_PERSON SIGN_FOR_THING SIGN_FOR_LOCATION SIGN_FOR_ANIMAL SIGN_FOR_INVERTEBRATE",
    "SIGN_XW_XW SYLLABLE_LENGTHENER � � DIGIT_ZERO DIGIT_ONE DIGIT_TWO DIGIT_THREE DIGIT_FOUR",
    "DIGIT_FIVE DIGIT_SIX DIGIT_SEVEN DIGIT_EIGHT DIGIT_NINE � � � � LOGOGRAM_NYAJ CIRCLED_CA"]⟩]

end SqlRoutes.Text.Names
