import SqlRoutes.Text.Names.Series

namespace SqlRoutes.Text.Names

def southAsian : List Series :=
  [⟨0x0900, "DEVANAGARI_SIGN_", ["INVERTED_CANDRABINDU CANDRABINDU ANUSVARA VISARGA"]⟩,
   ⟨0x0904, "DEVANAGARI_LETTER_", ["SHORT_A A AA I II U UU VOCALIC_R VOCALIC_L CANDRA_E SHORT_E",
    "E AI CANDRA_O SHORT_O O AU KA KHA GA GHA NGA CA CHA JA JHA NYA TTA TTHA DDA DDHA NNA TA THA",
    "DA DHA NA NNNA PA PHA BA BHA MA YA RA RRA LA LLA LLLA VA SHA SSA SA HA"]⟩,
   ⟨0x093a, "DEVANAGARI_", ["VOWEL_SIGN_OE VOWEL_SIGN_OOE SIGN_NUKTA SIGN_AVAGRAHA"]⟩,
   ⟨0x093e, "DEVANAGARI_VOWEL_SIGN_", ["AA I II U UU VOCALIC_R VOCALIC_RR CANDRA_E SHORT_E E AI",
    "CANDRA_O SHORT_O O AU"]⟩,
   ⟨0x094d, "DEVANAGARI_", ["SIGN_VIRAMA VOWEL_SIGN_PRISHTHAMATRA_E VOWEL_SIGN_AW OM",
    "STRESS_SIGN_UDATTA STRESS_SIGN_ANUDATTA GRAVE_ACCENT ACUTE_ACCENT VOWEL_SIGN_CANDRA_LONG_E",
    "VOWEL_SIGN_UE VOWEL_SIGN_UUE LETTER_QA LETTER_KHHA LETTER_GHHA LETTER_ZA LETTER_DDDHA",
    "LETTER_RHA LETTER_FA LETTER_YYA LETTER_VOCALIC_RR LETTER_VOCALIC_LL VOWEL_SIGN_VOCALIC_L",
    "VOWEL_SIGN_VOCALIC_LL DANDA DOUBLE_DANDA DIGIT_ZERO DIGIT_ONE DIGIT_TWO DIGIT_THREE",
    "DIGIT_FOUR DIGIT_FIVE DIGIT_SIX DIGIT_SEVEN DIGIT_EIGHT DIGIT_NINE ABBREVIATION_SIGN",
    "SIGN_HIGH_SPACING_DOT"]⟩,
   ⟨0x0972, "DEVANAGARI_LETTER_", ["CANDRA_A OE OOE AW UE UUE MARWARI_DDA ZHA HEAVY_YA GGA JJA",
    "GLOTTAL_STOP DDDA BBA"]⟩,
   ⟨0x0980, "BENGALI_", ["ANJI SIGN_CANDRABINDU SIGN_ANUSVARA SIGN_VISARGA"]⟩,
   ⟨0x0985, "BENGALI_LETTER_", ["A AA I II U UU VOCALIC_R VOCALIC_L � � E AI � � O AU KA KHA GA",
    "GHA NGA CA CHA JA JHA NYA TTA TTHA DDA DDHA NNA TA THA DA DHA NA � PA PHA BA BHA MA YA RA �",
    "LA � � � SHA SSA SA HA"]⟩,
   ⟨0x09bc, "BENGALI_SIGN_", ["NUKTA AVAGRAHA"]⟩,
   ⟨0x09be, "BENGALI_VOWEL_SIGN_", ["AA I II U UU VOCALIC_R VOCALIC_RR � � E AI � � O AU"]⟩,
   ⟨0x09cd, "BENGALI_", ["SIGN_VIRAMA LETTER_KHANDA_TA"]⟩,
   ⟨0x09d7, "BENGALI_", ["AU_LENGTH_MARK � � � � LETTER_RRA LETTER_RHA � LETTER_YYA",
    "LETTER_VOCALIC_RR LETTER_VOCALIC_LL VOWEL_SIGN_VOCALIC_L VOWEL_SIGN_VOCALIC_LL � �",
    "DIGIT_ZERO DIGIT_ONE DIGIT_TWO DIGIT_THREE DIGIT_FOUR DIGIT_FIVE DIGIT_SIX DIGIT_SEVEN",
    "DIGIT_EIGHT DIGIT_NINE LETTER_RA_WITH_MIDDLE_DIAGONAL LETTER_RA_WITH_LOWER_DIAGONAL",
    "RUPEE_MARK RUPEE_SIGN"]⟩,
   ⟨0x09f4, "BENGALI_CURRENCY_NUMERATOR_", ["ONE TWO THREE FOUR ONE_LESS_THAN_THE_DENOMINATOR"]⟩,
   ⟨0x09f9, "BENGALI_", ["CURRENCY_DENOMINATOR_SIXTEEN ISSHAR GANDA_MARK LETTER_VEDIC_ANUSVARA",
    "ABBREVIATION_SIGN SANDHI_MARK"]⟩,
   ⟨0x0a01, "GURMUKHI_SIGN_", ["ADAK_BINDI BINDI VISARGA"]⟩,
   ⟨0x0a05, "GURMUKHI_LETTER_", ["A AA I II U UU � � � � EE AI � � OO AU KA KHA GA GHA NGA CA",
    "CHA JA JHA NYA TTA TTHA DDA DDHA NNA TA THA DA DHA NA � PA PHA BA BHA MA YA RA � LA LLA �",
    "VA SHA � SA HA"]⟩,
   ⟨0x0a3c, "GURMUKHI_SIGN_", ["NUKTA"]⟩,
   ⟨0x0a3e, "GURMUKHI_VOWEL_SIGN_", ["AA I II U UU � � � � EE AI � � OO AU"]⟩,
   ⟨0x0a4d, "GURMUKHI_SIGN_", ["VIRAMA � � � UDAAT"]⟩,
   ⟨0x0a59, "GURMUKHI_LETTER_", ["KHHA GHHA ZA RRA � FA"]⟩,
   ⟨0x0a66, "GURMUKHI_DIGIT_", ["ZERO ONE TWO THREE FOUR FIVE SIX SEVEN EIGHT NINE"]⟩,
   ⟨0x0a70, "GURMUKHI_", ["TIPPI ADDAK IRI URA EK_ONKAR SIGN_YAKASH ABBREVIATION_SIGN"]⟩,
   ⟨0x0a81, "GUJARATI_", ["SIGN_CANDRABINDU SIGN_ANUSVARA SIGN_VISARGA � LETTER_A LETTER_AA",
    "LETTER_I LETTER_II LETTER_U LETTER_UU LETTER_VOCALIC_R LETTER_VOCALIC_L VOWEL_CANDRA_E �",
    "LETTER_E LETTER_AI VOWEL_CANDRA_O"]⟩,
   ⟨0x0a93, "GUJARATI_LETTER_", ["O AU KA KHA GA GHA NGA CA CHA JA JHA NYA TTA TTHA DDA DDHA NNA",
    "TA THA DA DHA NA � PA PHA BA BHA MA YA RA � LA LLA � VA SHA SSA SA HA"]⟩,
   ⟨0x0abc, "GUJARATI_SIGN_", ["NUKTA AVAGRAHA"]⟩,
   ⟨0x0abe, "GUJARATI_VOWEL_SIGN_", ["AA I II U UU VOCALIC_R VOCALIC_RR CANDRA_E � E AI CANDRA_O",
    "� O AU"]⟩,
   ⟨0x0acd, "GUJARATI_", ["SIGN_VIRAMA � � OM"]⟩,
   ⟨0x0ae0, "GUJARATI_", ["LETTER_VOCALIC_RR LETTER_VOCALIC_LL VOWEL_SIGN_VOCALIC_L",
    "VOWEL_SIGN_VOCALIC_LL � � DIGIT_ZERO DIGIT_ONE DIGIT_TWO DIGIT_THREE DIGIT_FOUR DIGIT_FIVE",
    "DIGIT_SIX DIGIT_SEVEN DIGIT_EIGHT DIGIT_NINE ABBREVIATION_SIGN RUPEE_SIGN � � � � � � �",
    "LETTER_ZHA SIGN_SUKUN SIGN_SHADDA SIGN_MADDAH SIGN_THREE-DOT_NUKTA_ABOVE",
    "SIGN_CIRCLE_NUKTA_ABOVE SIGN_TWO-CIRCLE_NUKTA_ABOVE"]⟩,
   ⟨0x0b01, "ORIYA_SIGN_", ["CANDRABINDU ANUSVARA VISARGA"]⟩,
   ⟨0x0b05, "ORIYA_LETTER_", ["A AA I II U UU VOCALIC_R VOCALIC_L � � E AI � � O AU KA KHA GA",
    "GHA NGA CA CHA JA JHA NYA TTA TTHA DDA DDHA NNA TA THA DA DHA NA � PA PHA BA BHA MA YA RA �",
    "LA LLA � VA SHA SSA SA HA"]⟩,
   ⟨0x0b3c, "ORIYA_SIGN_", ["NUKTA AVAGRAHA"]⟩,
   ⟨0x0b3e, "ORIYA_VOWEL_SIGN_", ["AA I II U UU VOCALIC_R VOCALIC_RR � � E AI � � O AU"]⟩,
   ⟨0x0b4d, "ORIYA_", ["SIGN_VIRAMA � � � � � � � SIGN_OVERLINE AI_LENGTH_MARK AU_LENGTH_MARK �",
    "� � � LETTER_RRA LETTER_RHA � LETTER_YYA LETTER_VOCALIC_RR LETTER_VOCALIC_LL",
    "VOWEL_SIGN_VOCALIC_L VOWEL_SIGN_VOCALIC_LL"]⟩,
   ⟨0x0b66, "ORIYA_DIGIT_", ["ZERO ONE TWO THREE FOUR FIVE SIX SEVEN EIGHT NINE"]⟩,
   ⟨0x0b70, "ORIYA_", ["ISSHAR LETTER_WA"]⟩,
   ⟨0x0b72, "ORIYA_FRACTION_", ["ONE_QUARTER ONE_HALF THREE_QUARTERS ONE_SIXTEENTH ONE_EIGHTH",
    "THREE_SIXTEENTHS"]⟩,
   ⟨0x0b82, "TAMIL_SIGN_", ["ANUSVARA VISARGA"]⟩,
   ⟨0x0b85, "TAMIL_LETTER_", ["A AA I II U UU � � � E EE AI � O OO AU KA � � � NGA CA � JA � NYA",
    "TTA � � � NNA TA � � � NA NNNA PA � � � MA YA RA RRA LA LLA LLLA VA SHA SSA SA HA"]⟩,
   ⟨0x0bbe, "TAMIL_VOWEL_SIGN_", ["AA I II U UU � � � E EE AI � O OO AU"]⟩,
   ⟨0x0bcd, "TAMIL_", ["SIGN_VIRAMA � � OM � � � � � � AU_LENGTH_MARK"]⟩,
   ⟨0x0be6, "TAMIL_DIGIT_", ["ZERO ONE TWO THREE FOUR FIVE SIX SEVEN EIGHT NINE"]⟩,
   ⟨0x0bf0, "TAMIL_", ["NUMBER_TEN NUMBER_ONE_HUNDRED NUMBER_ONE_THOUSAND DAY_SIGN MONTH_SIGN",
    "YEAR_SIGN DEBIT_SIGN CREDIT_SIGN AS_ABOVE_SIGN RUPEE_SIGN NUMBER_SIGN"]⟩,
   ⟨0x0c00, "TELUGU_SIGN_", ["COMBINING_CANDRABINDU_ABOVE CANDRABINDU ANUSVARA VISARGA",
    "COMBINING_ANUSVARA_ABOVE"]⟩,
   ⟨0x0c05, "TELUGU_LETTER_", ["A AA I II U UU VOCALIC_R VOCALIC_L � E EE AI � O OO AU KA KHA GA",
    "GHA NGA CA CHA JA JHA NYA TTA TTHA DDA DDHA NNA TA THA DA DHA NA � PA PHA BA BHA MA YA RA",
    "RRA LA LLA LLLA VA SHA SSA SA HA"]⟩,
   ⟨0x0c3c, "TELUGU_SIGN_", ["NUKTA AVAGRAHA"]⟩,
   ⟨0x0c3e, "TELUGU_VOWEL_SIGN_", ["AA I II U UU VOCALIC_R VOCALIC_RR � E EE AI � O OO AU"]⟩,
   ⟨0x0c4d, "TELUGU_", ["SIGN_VIRAMA � � � � � � � LENGTH_MARK AI_LENGTH_MARK � LETTER_TSA",
    "LETTER_DZA LETTER_RRRA � � LETTER_NAKAARA_POLLU � � LETTER_VOCALIC_RR LETTER_VOCALIC_LL",
    "VOWEL_SIGN_VOCALIC_L VOWEL_SIGN_VOCALIC_LL"]⟩,
   ⟨0x0c66, "TELUGU_DIGIT_", ["ZERO ONE TWO THREE FOUR FIVE SIX SEVEN EIGHT NINE"]⟩,
   ⟨0x0c77, "TELUGU_SIGN_", ["SIDDHAM"]⟩,
   ⟨0x0c78, "TELUGU_FRACTION_DIGIT_", ["ZERO_FOR_ODD_POWERS_OF_FOUR ONE_FOR_ODD_POWERS_OF_FOUR",
    "TWO_FOR_ODD_POWERS_OF_FOUR THREE_FOR_ODD_POWERS_OF_FOUR ONE_FOR_EVEN_POWERS_OF_FOUR",
    "TWO_FOR_EVEN_POWERS_OF_FOUR THREE_FOR_EVEN_POWERS_OF_FOUR"]⟩,
   ⟨0x0c7f, "TELUGU_SIGN_", ["TUUMU"]⟩,
   ⟨0x0c80, "KANNADA_SIGN_", ["SPACING_CANDRABINDU CANDRABINDU ANUSVARA VISARGA SIDDHAM"]⟩,
   ⟨0x0c85, "KANNADA_LETTER_", ["A AA I II U UU VOCALIC_R VOCALIC_L � E EE AI � O OO AU KA KHA",
    "GA GHA NGA CA CHA JA JHA NYA TTA TTHA DDA DDHA NNA TA THA DA DHA NA � PA PHA BA BHA MA YA",
    "RA RRA LA LLA � VA SHA SSA SA HA"]⟩,
   ⟨0x0cbc, "KANNADA_SIGN_", ["NUKTA AVAGRAHA"]⟩,
   ⟨0x0cbe, "KANNADA_VOWEL_SIGN_", ["AA I II U UU VOCALIC_R VOCALIC_RR � E EE AI � O OO AU"]⟩,
   ⟨0x0ccd, "KANNADA_", ["SIGN_VIRAMA � � � � � � � LENGTH_MARK AI_LENGTH_MARK � � � � � �",
    "LETTER_NAKAARA_POLLU LETTER_FA � LETTER_VOCALIC_RR LETTER_VOCALIC_LL VOWEL_SIGN_VOCALIC_L",
    "VOWEL_SIGN_VOCALIC_LL"]⟩,
   ⟨0x0ce6, "KANNADA_DIGIT_", ["ZERO ONE TWO THREE FOUR FIVE SIX SEVEN EIGHT NINE"]⟩,
   ⟨0x0cf1, "KANNADA_SIGN_", ["JIHVAMULIYA UPADHMANIYA"]⟩,
   ⟨0x0d00, "MALAYALAM_SIGN_", ["COMBINING_ANUSVARA_ABOVE CANDRABINDU ANUSVARA VISARGA"]⟩,
   ⟨0x0d04, "MALAYALAM_LETTER_", ["VEDIC_ANUSVARA A AA I II U UU VOCALIC_R VOCALIC_L � E EE AI �",
    "O OO AU KA KHA GA GHA NGA CA CHA JA JHA NYA TTA TTHA DDA DDHA NNA TA THA DA DHA NA NNNA PA",
    "PHA BA BHA MA YA RA RRA LA LLA LLLA VA SHA SSA SA HA TTTA"]⟩,
   ⟨0x0d3b, "MALAYALAM_SIGN_", ["VERTICAL_BAR_VIRAMA CIRCULAR_VIRAMA AVAGRAHA"]⟩,
   ⟨0x0d3e, "MALAYALAM_VOWEL_SIGN_", ["AA I II U UU VOCALIC_R VOCALIC_RR � E EE AI � O OO AU"]⟩,
   ⟨0x0d4d, "MALAYALAM_", ["SIGN_VIRAMA LETTER_DOT_REPH SIGN_PARA � � � � LETTER_CHILLU_M",
    "LETTER_CHILLU_Y LETTER_CHILLU_LLL AU_LENGTH_MARK FRACTION_ONE_ONE-HUNDRED-AND-SIXTIETH",
    "FRACTION_ONE_FORTIETH FRACTION_THREE_EIGHTIETHS FRACTION_ONE_TWENTIETH FRACTION_ONE_TENTH",
    "FRACTION_THREE_TWENTIETHS FRACTION_ONE_FIFTH LETTER_ARCHAIC_II LETTER_VOCALIC_RR",
    "LETTER_VOCALIC_LL VOWEL_SIGN_VOCALIC_L VOWEL_SIGN_VOCALIC_LL � � DIGIT_ZERO DIGIT_ONE",
    "DIGIT_TWO DIGIT_THREE DIGIT_FOUR DIGIT_FIVE DIGIT_SIX DIGIT_SEVEN DIGIT_EIGHT DIGIT_NINE",
    "NUMBER_TEN NUMBER_ONE_HUNDRED NUMBER_ONE_THOUSAND FRACTION_ONE_QUARTER FRACTION_ONE_HALF",
    "FRACTION_THREE_QUARTERS FRACTION_ONE_SIXTEENTH FRACTION_ONE_EIGHTH",
    "FRACTION_THREE_SIXTEENTHS DATE_MARK"]⟩,
   ⟨0x0d7a, "MALAYALAM_LETTER_CHILLU_", ["NN N RR L LL K"]⟩,
   ⟨0x0d81, "SINHALA_SIGN_", ["CANDRABINDU ANUSVARAYA VISARGAYA"]⟩,
   ⟨0x0d85, "SINHALA_LETTER_", ["AYANNA AAYANNA AEYANNA AEEYANNA IYANNA IIYANNA UYANNA UUYANNA",
    "IRUYANNA IRUUYANNA ILUYANNA ILUUYANNA EYANNA EEYANNA AIYANNA OYANNA OOYANNA AUYANNA � � �",
    "ALPAPRAANA_KAYANNA MAHAAPRAANA_KAYANNA ALPAPRAANA_GAYANNA MAHAAPRAANA_GAYANNA",
    "KANTAJA_NAASIKYAYA SANYAKA_GAYANNA ALPAPRAANA_CAYANNA MAHAAPRAANA_CAYANNA",
    "ALPAPRAANA_JAYANNA MAHAAPRAANA_JAYANNA TAALUJA_NAASIKYAYA TAALUJA_SANYOOGA_NAAKSIKYAYA",
    "SANYAKA_JAYANNA ALPAPRAANA_TTAYANNA MAHAAPRAANA_TTAYANNA ALPAPRAANA_DDAYANNA",
    "MAHAAPRAANA_DDAYANNA MUURDHAJA_NAYANNA SANYAKA_DDAYANNA ALPAPRAANA_TAYANNA",
    "MAHAAPRAANA_TAYANNA ALPAPRAANA_DAYANNA MAHAAPRAANA_DAYANNA DANTAJA_NAYANNA �",
    "SANYAKA_DAYANNA ALPAPRAANA_PAYANNA MAHAAPRAANA_PAYANNA ALPAPRAANA_BAYANNA",
    "MAHAAPRAANA_BAYANNA MAYANNA AMBA_BAYANNA YAYANNA RAYANNA � DANTAJA_LAYANNA � � VAYANNA",
    "TAALUJA_SAYANNA MUURDHAJA_SAYANNA DANTAJA_SAYANNA HAYANNA MUURDHAJA_LAYANNA FAYANNA"]⟩,
   ⟨0x0dca, "SINHALA_SIGN_AL-", ["LAKUNA"]⟩,
   ⟨0x0dcf, "SINHALA_VOWEL_SIGN_", ["AELA-PILLA KETTI_AEDA-PILLA DIGA_AEDA-PILLA KETTI_IS-PILLA",
    "DIGA_IS-PILLA KETTI_PAA-PILLA � DIGA_PAA-PILLA � GAETTA-PILLA KOMBUVA DIGA_KOMBUVA",
    "KOMBU_DEKA KOMBUVA_HAA_AELA-PILLA KOMBUVA_HAA_DIGA_AELA-PILLA KOMBUVA_HAA_GAYANUKITTA",
    "GAYANUKITTA"]⟩,
   ⟨0x0de6, "SINHALA_LITH_DIGIT_", ["ZERO ONE TWO THREE FOUR FIVE SIX SEVEN EIGHT NINE"]⟩,
   ⟨0x0df2, "SINHALA_", ["VOWEL_SIGN_DIGA_GAETTA-PILLA VOWEL_SIGN_DIGA_GAYANUKITTA",
    "PUNCTUATION_KUNDDALIYA"]⟩,
   ⟨0x1900, "LIMBU_VOWEL-CARRIER_", ["LETTER"]⟩,
   ⟨0x1901, "LIMBU_LETTER_", ["KA KHA GA GHA NGA CA CHA JA JHA YAN TA THA DA DHA NA PA PHA BA",
    "BHA MA YA RA LA WA SHA SSA SA HA GYAN TRA"]⟩,
   ⟨0x1920, "LIMBU_VOWEL_SIGN_", ["A I U EE AI OO AU E O"]⟩,
   ⟨0x1929, "LIMBU_SUBJOINED_LETTER_", ["YA RA WA"]⟩,
   ⟨0x1930, "LIMBU_SMALL_LETTER_", ["KA NGA ANUSVARA TA NA PA MA RA LA"]⟩,
   ⟨0x1939, "LIMBU_", ["SIGN_MUKPHRENG SIGN_KEMPHRENG SIGN_SA-I � � � � SIGN_LOO � � �",
    "EXCLAMATION_MARK QUESTION_MARK"]⟩,
   ⟨0x1946, "LIMBU_DIGIT_", ["ZERO ONE TWO THREE FOUR FIVE SIX SEVEN EIGHT NINE"]⟩,
   ⟨0x1c00, "LEPCHA_LETTER_", ["KA KLA KHA GA GLA NGA CA CHA JA NYA TA THA DA NA PA PLA PHA FA",
    "FLA BA BLA MA MLA TSA TSHA DZA YA RA LA HA HLA VA SA SHA WA A"]⟩,
   ⟨0x1c24, "LEPCHA_SUBJOINED_LETTER_", ["YA RA"]⟩,
   ⟨0x1c26, "LEPCHA_VOWEL_SIGN_", ["AA I O OO U UU E"]⟩,
   ⟨0x1c2d, "LEPCHA_CONSONANT_SIGN_", ["K M L N P R T NYIN-DO KANG"]⟩,
   ⟨0x1c36, "LEPCHA_SIGN_", ["RAN NUKTA"]⟩,
   ⟨0x1c3b, "LEPCHA_PUNCTUATION_", ["TA-ROL NYET_THYOOM_TA-ROL CER-WA TSHOOK_CER-WA TSHOOK"]⟩,
   ⟨0x1c40, "LEPCHA_DIGIT_", ["ZERO ONE TWO THREE FOUR FIVE SIX SEVEN EIGHT NINE"]⟩,
   ⟨0x1c4d, "LEPCHA_LETTER_", ["TTA TTHA DDA"]⟩,
   ⟨0x1c50, "OL_CHIKI_DIGIT_", ["ZERO ONE TWO THREE FOUR FIVE SIX SEVEN EIGHT NINE"]⟩,
   ⟨0x1c5a, "OL_CHIKI_LETTER_", ["LA AT AG ANG AL LAA AAK AAJ AAM AAW LI IS IH INY IR LU UC UD",
    "UNN UY LE EP EDD EN ERR LO OTT OB OV OH"]⟩,
   ⟨0x1c78, "OL_CHIKI_", ["MU_TTUDDAG GAAHLAA_TTUDDAAG MU-GAAHLAA_TTUDDAAG RELAA PHAARKAA AHAD",
    "PUNCTUATION_MUCAAD PUNCTUATION_DOUBLE_MUCAAD"]⟩,
   ⟨0x1cd0, "VEDIC_", ["TONE_KARSHANA TONE_SHARA TONE_PRENKHA SIGN_NIHSHVASA",
    "SIGN_YAJURVEDIC_MIDLINE_SVARITA"]⟩,
   ⟨0x1cd5, "VEDIC_TONE_", ["YAJURVEDIC_AGGRAVATED_INDEPENDENT_SVARITA",
    "YAJURVEDIC_INDEPENDENT_SVARITA YAJURVEDIC_KATHAKA_INDEPENDENT_SVARITA CANDRA_BELOW",
    "YAJURVEDIC_KATHAKA_INDEPENDENT_SVARITA_SCHROEDER DOUBLE_SVARITA TRIPLE_SVARITA",
    "KATHAKA_ANUDATTA DOT_BELOW TWO_DOTS_BELOW THREE_DOTS_BELOW",
    "RIGVEDIC_KASHMIRI_INDEPENDENT_SVARITA ATHARVAVEDIC_INDEPENDENT_SVARITA"]⟩,
   ⟨0x1ce2, "VEDIC_SIGN_", ["VISARGA_SVARITA VISARGA_UDATTA REVERSED_VISARGA_UDATTA",
    "VISARGA_ANUDATTA REVERSED_VISARGA_ANUDATTA VISARGA_UDATTA_WITH_TAIL",
    "VISARGA_ANUDATTA_WITH_TAIL ANUSVARA_ANTARGOMUKHA ANUSVARA_BAHIRGOMUKHA ANUSVARA_VAMAGOMUKHA",
    "ANUSVARA_VAMAGOMUKHA_WITH_TAIL TIRYAK HEXIFORM_LONG_ANUSVARA LONG_ANUSVARA",
    "RTHANG_LONG_ANUSVARA ANUSVARA_UBHAYATO_MUKHA ARDHAVISARGA ROTATED_ARDHAVISARGA"]⟩,
   ⟨0x1cf4, "VEDIC_", ["TONE_CANDRA_ABOVE SIGN_JIHVAMULIYA SIGN_UPADHMANIYA SIGN_ATIKRAMA",
    "TONE_RING_ABOVE TONE_DOUBLE_RING_ABOVE SIGN_DOUBLE_ANUSVARA_ANTARGOMUKHA"]⟩,
   ⟨0xa800, "SYLOTI_NAGRI_", ["LETTER_A LETTER_I SIGN_DVISVARA LETTER_U LETTER_E LETTER_O",
    "SIGN_HASANTA LETTER_KO LETTER_KHO LETTER_GO LETTER_GHO SIGN_ANUSVARA"]⟩,
   ⟨0xa80c, "SYLOTI_NAGRI_LETTER_", ["CO CHO JO JHO TTO TTHO DDO DDHO TO THO DO DHO NO PO PHO BO",
    "BHO MO RO LO RRO SO HO"]⟩,
   ⟨0xa823, "SYLOTI_NAGRI_VOWEL_SIGN_", ["A I U E OO"]⟩,
   ⟨0xa828, "SYLOTI_NAGRI_POETRY_MARK-", ["1 2 3 4"]⟩,
   ⟨0xa82c, "SYLOTI_NAGRI_SIGN_ALTERNATE_", ["HASANTA"]⟩,
   ⟨0xa830, "NORTH_INDIC_FRACTION_", ["ONE_QUARTER ONE_HALF THREE_QUARTERS ONE_SIXTEENTH",
    "ONE_EIGHTH THREE_SIXTEENTHS"]⟩,
   ⟨0xa836, "NORTH_INDIC_", ["QUARTER_MARK PLACEHOLDER_MARK RUPEE_MARK QUANTITY_MARK"]⟩,
   ⟨0xa880, "SAURASHTRA_SIGN_", ["ANUSVARA VISARGA"]⟩,
   ⟨0xa882, "SAURASHTRA_LETTER_", ["A AA I II U UU VOCALIC_R VOCALIC_RR VOCALIC_L VOCALIC_LL E",
    "EE AI O OO AU KA KHA GA GHA NGA CA CHA JA JHA NYA TTA TTHA DDA DDHA NNA TA THA DA DHA NA PA",
    "PHA BA BHA MA YA RA LA VA SHA SSA SA HA LLA"]⟩,
   ⟨0xa8b4, "SAURASHTRA_CONSONANT_SIGN_", ["HAARU"]⟩,
   ⟨0xa8b5, "SAURASHTRA_VOWEL_SIGN_", ["AA I II U UU VOCALIC_R VOCALIC_RR VOCALIC_L VOCALIC_LL E",
    "EE AI O OO AU"]⟩,
   ⟨0xa8c4, "SAURASHTRA_SIGN_", ["VIRAMA CANDRABINDU"]⟩,
   ⟨0xa8ce, "SAURASHTRA_", ["DANDA DOUBLE_DANDA"]⟩,
   ⟨0xa8d0, "SAURASHTRA_DIGIT_", ["ZERO ONE TWO THREE FOUR FIVE SIX SEVEN EIGHT NINE"]⟩,
   ⟨0xa8e0, "COMBINING_DEVANAGARI_DIGIT_", ["ZERO ONE TWO THREE FOUR FIVE SIX SEVEN EIGHT NINE"]⟩,
   ⟨0xa8ea, "COMBINING_DEVANAGARI_", ["LETTER_A LETTER_U LETTER_KA LETTER_NA LETTER_PA LETTER_RA",
    "LETTER_VI SIGN_AVAGRAHA"]⟩,
   ⟨0xa8f2, "DEVANAGARI_", ["SIGN_SPACING_CANDRABINDU SIGN_CANDRABINDU_VIRAMA",
    "SIGN_DOUBLE_CANDRABINDU_VIRAMA SIGN_CANDRABINDU_TWO SIGN_CANDRABINDU_THREE",
    "SIGN_CANDRABINDU_AVAGRAHA SIGN_PUSHPIKA GAP_FILLER CARET HEADSTROKE SIGN_SIDDHAM JAIN_OM",
    "LETTER_AY VOWEL_SIGN_AY"]⟩,
   ⟨0xaae0, "MEETEI_MAYEK_LETTER_", ["E O CHA NYA TTA TTHA DDA DDHA NNA SHA SSA"]⟩,
   ⟨0xaaeb, "MEETEI_MAYEK_VOWEL_SIGN_", ["II UU AAI AU AAU"]⟩,
   ⟨0xaaf0, "MEETEI_MAYEK_", ["CHEIKHAN AHANG_KHUDAM ANJI SYLLABLE_REPETITION_MARK",
    "WORD_REPETITION_MARK VOWEL_SIGN_VISARGA VIRAMA"]⟩,
   ⟨0xabc0, "MEETEI_MAYEK_LETTER_", ["KOK SAM LAI MIT PA NA CHIL TIL KHOU NGOU THOU WAI YANG HUK",
    "UN I PHAM ATIYA GOK JHAM RAI BA JIL DIL GHOU DHOU BHAM KOK_LONSUM LAI_LONSUM MIT_LONSUM",
    "PA_LONSUM NA_LONSUM TIL_LONSUM NGOU_LONSUM I_LONSUM"]⟩,
   ⟨0xabe3, "MEETEI_MAYEK_VOWEL_SIGN_", ["ONAP INAP ANAP YENAP SOUNAP UNAP CHEINAP NUNG"]⟩,
   ⟨0xabeb, "MEETEI_MAYEK_", ["CHEIKHEI LUM_IYEK APUN_IYEK"]⟩,
   ⟨0xabf0, "MEETEI_MAYEK_DIGIT_", ["ZERO ONE TWO THREE FOUR FIVE SIX SEVEN EIGHT NINE"]⟩,
   ⟨0x10a00, "KHAROSHTHI_", ["LETTER_A VOWEL_SIGN_I VOWEL_SIGN_U VOWEL_SIGN_VOCALIC_R �",
    "VOWEL_SIGN_E VOWEL_SIGN_O � � � � � VOWEL_LENGTH_MARK SIGN_DOUBLE_RING_BELOW SIGN_ANUSVARA",
    "SIGN_VISARGA"]⟩,
   ⟨0x10a10, "KHAROSHTHI_LETTER_", ["KA KHA GA GHA � CA CHA JA � NYA TTA TTHA DDA DDHA NNA TA",
    "THA DA DHA NA PA PHA BA BHA MA YA RA LA VA SHA SSA SA ZA HA KKA TTTHA TTTA VHA"]⟩,
   ⟨0x10a38, "KHAROSHTHI_", ["SIGN_BAR_ABOVE SIGN_CAUDA SIGN_DOT_BELOW � � � � VIRAMA DIGIT_ONE",
    "DIGIT_TWO DIGIT_THREE DIGIT_FOUR NUMBER_TEN NUMBER_TWENTY NUMBER_ONE_HUNDRED",
    "NUMBER_ONE_THOUSAND FRACTION_ONE_HALF"]⟩,
   ⟨0x10a50, "KHAROSHTHI_PUNCTUATION_", ["DOT SMALL_CIRCLE CIRCLE CRESCENT_BAR MANGALAM LOTUS",
    "DANDA DOUBLE_DANDA LINES"]⟩,
   ⟨0x10d00, "HANIFI_ROHINGYA_LETTER_", ["A BA PA TA TTA JA CA HA KHA FA DA DDA RA RRA ZA SA SHA",
    "KA GA LA MA NA WA KINNA_WA YA KINNA_YA NGA NYA VA"]⟩,
   ⟨0x10d1d, "HANIFI_ROHINGYA_", ["VOWEL_A VOWEL_I VOWEL_U VOWEL_E VOWEL_O MARK_SAKIN",
    "MARK_NA_KHONNA SIGN_HARBAHAY SIGN_TAHALA SIGN_TANA SIGN_TASSI"]⟩,
   ⟨0x10d30, "HANIFI_ROHINGYA_DIGIT_", ["ZERO ONE TWO THREE FOUR FIVE SIX SEVEN EIGHT NINE"]⟩,
   ⟨0x11000, "BRAHMI_SIGN_", ["CANDRABINDU ANUSVARA VISARGA JIHVAMULIYA UPADHMANIYA"]⟩,
   ⟨0x11005, "BRAHMI_LETTER_", ["A AA I II U UU VOCALIC_R VOCALIC_RR VOCALIC_L VOCALIC_LL E AI O",
    "AU KA KHA GA GHA NGA CA CHA JA JHA NYA TTA TTHA DDA DDHA NNA TA THA DA DHA NA PA PHA BA BHA",
    "MA YA RA LA VA SHA SSA SA HA LLA OLD_TAMIL_LLLA OLD_TAMIL_RRA OLD_TAMIL_NNNA"]⟩,
   ⟨0x11038, "BRAHMI_VOWEL_SIGN_", ["AA BHATTIPROLU_AA I II U UU VOCALIC_R VOCALIC_RR VOCALIC_L",
    "VOCALIC_LL E AI O AU"]⟩,
   ⟨0x11046, "BRAHMI_", ["VIRAMA DANDA DOUBLE_DANDA"]⟩,
   ⟨0x11049, "BRAHMI_PUNCTUATION_", ["DOT DOUBLE_DOT LINE CRESCENT_BAR LOTUS"]⟩,
   ⟨0x11052, "BRAHMI_NUMBER_", ["ONE TWO THREE FOUR FIVE SIX SEVEN EIGHT NINE TEN TWENTY THIRTY",
    "FORTY FIFTY SIXTY SEVENTY EIGHTY NINETY ONE_HUNDRED ONE_THOUSAND"]⟩,
   ⟨0x11066, "BRAHMI_DIGIT_", ["ZERO ONE TWO THREE FOUR FIVE SIX SEVEN EIGHT NINE"]⟩,
   ⟨0x11070, "BRAHMI_", ["SIGN_OLD_TAMIL_VIRAMA LETTER_OLD_TAMIL_SHORT_E",
    "LETTER_OLD_TAMIL_SHORT_O VOWEL_SIGN_OLD_TAMIL_SHORT_E VOWEL_SIGN_OLD_TAMIL_SHORT_O",
    "LETTER_OLD_TAMIL_LLA"]⟩,
   ⟨0x1107f, "BRAHMI_NUMBER_", ["JOINER"]⟩,
   ⟨0x11080, "KAITHI_SIGN_", ["CANDRABINDU ANUSVARA VISARGA"]⟩,
   ⟨0x11083, "KAITHI_LETTER_", ["A AA I II U UU E AI O AU KA KHA GA GHA NGA CA CHA JA JHA NYA",
    "TTA TTHA DDA DDDHA DDHA RHA NNA TA THA DA DHA NA PA PHA BA BHA MA YA RA LA VA SHA SSA SA HA"]⟩,
   ⟨0x110b0, "KAITHI_VOWEL_SIGN_", ["AA I II U UU E AI O AU"]⟩,
   ⟨0x110b9, "KAITHI_", ["SIGN_VIRAMA SIGN_NUKTA ABBREVIATION_SIGN ENUMERATION_SIGN NUMBER_SIGN",
    "SECTION_MARK DOUBLE_SECTION_MARK DANDA DOUBLE_DANDA VOWEL_SIGN_VOCALIC_R"]⟩,
   ⟨0x110cd, "KAITHI_NUMBER_SIGN_", ["ABOVE"]⟩,
   ⟨0x110d0, "SORA_SOMPENG_LETTER_", ["SAH TAH BAH CAH DAH GAH MAH NGAH LAH NAH VAH PAH YAH RAH",
    "HAH KAH JAH NYAH AH EEH IH UH OH EH MAE"]⟩,
   ⟨0x110f0, "SORA_SOMPENG_DIGIT_", ["ZERO ONE TWO THREE FOUR FIVE SIX SEVEN EIGHT NINE"]⟩,
   ⟨0x11100, "CHAKMA_SIGN_", ["CANDRABINDU ANUSVARA VISARGA"]⟩,
   ⟨0x11103, "CHAKMA_LETTER_", ["AA I U E KAA KHAA GAA GHAA NGAA CAA CHAA JAA JHAA NYAA TTAA",
    "TTHAA DDAA DDHAA NNAA TAA THAA DAA DHAA NAA PAA PHAA BAA BHAA MAA YYAA YAA RAA LAA WAA SAA",
    "HAA"]⟩,
   ⟨0x11127, "CHAKMA_VOWEL_SIGN_", ["A I II U UU E AI O AU OI"]⟩,
   ⟨0x11131, "CHAKMA_", ["O_MARK AU_MARK VIRAMA MAAYYAA � DIGIT_ZERO DIGIT_ONE DIGIT_TWO",
    "DIGIT_THREE DIGIT_FOUR DIGIT_FIVE DIGIT_SIX DIGIT_SEVEN DIGIT_EIGHT DIGIT_NINE SECTION_MARK",
    "DANDA DOUBLE_DANDA QUESTION_MARK LETTER_LHAA VOWEL_SIGN_AA VOWEL_SIGN_EI LETTER_VAA"]⟩,
   ⟨0x11150, "MAHAJANI_LETTER_", ["A I U E O KA KHA GA GHA CA CHA JA JHA NYA TTA TTHA DDA DDHA",
    "NNA TA THA DA DHA NA PA PHA BA BHA MA RA LA VA SA HA RRA"]⟩,
   ⟨0x11173, "MAHAJANI_", ["SIGN_NUKTA ABBREVIATION_SIGN SECTION_MARK LIGATURE_SHRI"]⟩,
   ⟨0x11180, "SHARADA_SIGN_", ["CANDRABINDU ANUSVARA VISARGA"]⟩,
   ⟨0x11183, "SHARADA_LETTER_", ["A AA I II U UU VOCALIC_R VOCALIC_RR VOCALIC_L VOCALIC_LL E AI",
    "O AU KA KHA GA GHA NGA CA CHA JA JHA NYA TTA TTHA DDA DDHA NNA TA THA DA DHA NA PA PHA BA",
    "BHA MA YA RA LA LLA VA SHA SSA SA HA"]⟩,
   ⟨0x111b3, "SHARADA_VOWEL_SIGN_", ["AA I II U UU VOCALIC_R VOCALIC_RR VOCALIC_L VOCALIC_LL E",
    "AI O AU"]⟩,
   ⟨0x111c0, "SHARADA_", ["SIGN_VIRAMA SIGN_AVAGRAHA SIGN_JIHVAMULIYA SIGN_UPADHMANIYA OM DANDA",
    "DOUBLE_DANDA ABBREVIATION_SIGN SEPARATOR SANDHI_MARK SIGN_NUKTA VOWEL_MODIFIER_MARK",
    "EXTRA_SHORT_VOWEL_MARK SUTRA_MARK VOWEL_SIGN_PRISHTHAMATRA_E SIGN_INVERTED_CANDRABINDU",
    "DIGIT_ZERO DIGIT_ONE DIGIT_TWO DIGIT_THREE DIGIT_FOUR DIGIT_FIVE DIGIT_SIX DIGIT_SEVEN",
    "DIGIT_EIGHT DIGIT_NINE EKAM SIGN_SIDDHAM HEADSTROKE CONTINUATION_SIGN SECTION_MARK-1",
    "SECTION_MARK-2"]⟩,
   ⟨0x111e1, "SINHALA_ARCHAIC_DIGIT_", ["ONE TWO THREE FOUR FIVE SIX SEVEN EIGHT NINE"]⟩,
   ⟨0x111ea, "SINHALA_ARCHAIC_NUMBER_", ["TEN TWENTY THIRTY FORTY FIFTY SIXTY SEVENTY EIGHTY",
    "NINETY ONE_HUNDRED ONE_THOUSAND"]⟩,
   ⟨0x11200, "KHOJKI_LETTER_", ["A AA I U E AI O AU KA KHA GA GGA GHA NGA CA CHA JA JJA � NYA",
    "TTA TTHA DDA DDHA NNA TA THA DA DDDA DHA NA PA PHA BA BBA BHA MA YA RA LA VA SA HA LLA"]⟩,
   ⟨0x1122c, "KHOJKI_VOWEL_SIGN_", ["AA I II U E AI O AU"]⟩,
   ⟨0x11234, "KHOJKI_", ["SIGN_ANUSVARA SIGN_VIRAMA SIGN_NUKTA SIGN_SHADDA DANDA DOUBLE_DANDA",
    "WORD_SEPARATOR SECTION_MARK DOUBLE_SECTION_MARK ABBREVIATION_SIGN SIGN_SUKUN"]⟩,
   ⟨0x11280, "MULTANI_LETTER_", ["A I U E KA KHA GA � GHA � CA CHA JA JJA � NYA TTA TTHA DDA",
    "DDDA DDHA NNA TA THA DA DHA NA PA PHA BA � BHA MA YA RA LA VA SA HA RRA RHA"]⟩,
   ⟨0x112a9, "MULTANI_SECTION_", ["MARK"]⟩,
   ⟨0x112b0, "KHUDAWADI_LETTER_", ["A AA I II U UU E AI O AU KA KHA GA GGA GHA NGA CA CHA JA JJA",
    "JHA NYA TTA TTHA DDA DDDA RRA DDHA NNA TA THA DA DHA NA PA PHA BA BBA BHA MA YA RA LA VA",
    "SHA SA HA"]⟩,
   ⟨0x112df, "KHUDAWADI_SIGN_", ["ANUSVARA"]⟩,
   ⟨0x112e0, "KHUDAWADI_VOWEL_SIGN_", ["AA I II U UU E AI O AU"]⟩,
   ⟨0x112e9, "KHUDAWADI_SIGN_", ["NUKTA VIRAMA"]⟩,
   ⟨0x112f0, "KHUDAWADI_DIGIT_", ["ZERO ONE TWO THREE FOUR FIVE SIX SEVEN EIGHT NINE"]⟩,
   ⟨0x11300, "GRANTHA_SIGN_", ["COMBINING_ANUSVARA_ABOVE CANDRABINDU ANUSVARA VISARGA"]⟩,
   ⟨0x11305, "GRANTHA_LETTER_", ["A AA I II U UU VOCALIC_R VOCALIC_L � � EE AI � � OO AU KA KHA",
    "GA GHA NGA CA CHA JA JHA NYA TTA TTHA DDA DDHA NNA TA THA DA DHA NA � PA PHA BA BHA MA YA",
    "RA � LA LLA � VA SHA SSA SA HA"]⟩,
   ⟨0x1133b, "", ["COMBINING_BINDU_BELOW GRANTHA_SIGN_NUKTA GRANTHA_SIGN_AVAGRAHA"]⟩,
   ⟨0x1133e, "GRANTHA_VOWEL_SIGN_", ["AA I II U UU VOCALIC_R VOCALIC_RR � � EE AI � � OO AU"]⟩,
   ⟨0x1134d, "GRANTHA_", ["SIGN_VIRAMA � � OM � � � � � � AU_LENGTH_MARK � � � � � SIGN_PLUTA",
    "LETTER_VEDIC_ANUSVARA LETTER_VEDIC_DOUBLE_ANUSVARA LETTER_VOCALIC_RR LETTER_VOCALIC_LL",
    "VOWEL_SIGN_VOCALIC_L VOWEL_SIGN_VOCALIC_LL"]⟩,
   ⟨0x11366, "COMBINING_GRANTHA_DIGIT_", ["ZERO ONE TWO THREE FOUR FIVE SIX"]⟩,
   ⟨0x11370, "COMBINING_GRANTHA_LETTER_", ["A KA NA VI PA"]⟩,
   ⟨0x11400, "NEWA_LETTER_", ["A AA I II U UU VOCALIC_R VOCALIC_RR VOCALIC_L VOCALIC_LL E AI O",
    "AU KA KHA GA GHA NGA NGHA CA CHA JA JHA NYA NYHA TTA TTHA DDA DDHA NNA TA THA DA DHA NA NHA",
    "PA PHA BA BHA MA MHA YA RA RHA LA LHA WA SHA SSA SA HA"]⟩,
   ⟨0x11435, "NEWA_VOWEL_SIGN_", ["AA I II U UU VOCALIC_R VOCALIC_RR VOCALIC_L VOCALIC_LL E AI O",
    "AU"]⟩,
   ⟨0x11442, "NEWA_SIGN_", ["VIRAMA CANDRABINDU ANUSVARA VISARGA NUKTA AVAGRAHA FINAL_ANUSVARA"]⟩,
   ⟨0x11449, "NEWA_", ["OM SIDDHI DANDA DOUBLE_DANDA COMMA GAP_FILLER ABBREVIATION_SIGN",
    "DIGIT_ZERO DIGIT_ONE DIGIT_TWO DIGIT_THREE DIGIT_FOUR DIGIT_FIVE DIGIT_SIX DIGIT_SEVEN",
    "DIGIT_EIGHT DIGIT_NINE DOUBLE_COMMA PLACEHOLDER_MARK � INSERTION_SIGN SANDHI_MARK",
    "LETTER_VEDIC_ANUSVARA SIGN_JIHVAMULIYA SIGN_UPADHMANIYA"]⟩,
   ⟨0x11480, "TIRHUTA_", ["ANJI"]⟩,
   ⟨0x11481, "TIRHUTA_LETTER_", ["A AA I II U UU VOCALIC_R VOCALIC_RR VOCALIC_L VOCALIC_LL E AI",
    "O AU KA KHA GA GHA NGA CA CHA JA JHA NYA TTA TTHA DDA DDHA NNA TA THA DA DHA NA PA PHA BA",
    "BHA MA YA RA LA VA SHA SSA SA HA"]⟩,
   ⟨0x114b0, "TIRHUTA_VOWEL_SIGN_", ["AA I II U UU VOCALIC_R VOCALIC_RR VOCALIC_L VOCALIC_LL E",
    "SHORT_E AI O SHORT_O AU"]⟩,
   ⟨0x114bf, "TIRHUTA_", ["SIGN_CANDRABINDU SIGN_ANUSVARA SIGN_VISARGA SIGN_VIRAMA SIGN_NUKTA",
    "SIGN_AVAGRAHA GVANG ABBREVIATION_SIGN OM"]⟩,
   ⟨0x114d0, "TIRHUTA_DIGIT_", ["ZERO ONE TWO THREE FOUR FIVE SIX SEVEN EIGHT NINE"]⟩,
   ⟨0x11580, "SIDDHAM_LETTER_", ["A AA I II U UU VOCALIC_R VOCALIC_RR VOCALIC_L VOCALIC_LL E AI",
    "O AU KA KHA GA GHA NGA CA CHA JA JHA NYA TTA TTHA DDA DDHA NNA TA THA DA DHA NA PA PHA BA",
    "BHA MA YA RA LA VA SHA SSA SA HA"]⟩,
   ⟨0x115af, "SIDDHAM_VOWEL_SIGN_", ["AA I II U UU VOCALIC_R VOCALIC_RR � � E AI O AU"]⟩,
   ⟨0x115bc, "SIDDHAM_", ["SIGN_CANDRABINDU SIGN_ANUSVARA SIGN_VISARGA SIGN_VIRAMA SIGN_NUKTA",
    "SIGN_SIDDHAM DANDA DOUBLE_DANDA SEPARATOR_DOT SEPARATOR_BAR REPETITION_MARK-1",
    "REPETITION_MARK-2 REPETITION_MARK-3 END_OF_TEXT_MARK"]⟩,
   ⟨0x115ca, "SIDDHAM_SECTION_MARK_", ["WITH_TRIDENT_AND_U-SHAPED_ORNAMENTS",
    "WITH_TRIDENT_AND_DOTTED_CRESCENTS WITH_RAYS_AND_DOTTED_CRESCENTS",
    "WITH_RAYS_AND_DOTTED_DOUBLE_CRESCENTS WITH_RAYS_AND_DOTTED_TRIPLE_CRESCENTS DOUBLE_RING",
    "DOUBLE_RING_WITH_RAYS WITH_DOUBLE_CRESCENTS WITH_TRIPLE_CRESCENTS WITH_QUADRUPLE_CRESCENTS",
    "WITH_SEPTUPLE_CRESCENTS WITH_CIRCLES_AND_RAYS WITH_CIRCLES_AND_TWO_ENCLOSURES",
    "WITH_CIRCLES_AND_FOUR_ENCLOSURES"]⟩,
   ⟨0x115d8, "SIDDHAM_LETTER_", ["THREE-CIRCLE_ALTERNATE_I TWO-CIRCLE_ALTERNATE_I",
    "TWO-CIRCLE_ALTERNATE_II ALTERNATE_U"]⟩,
   ⟨0x115dc, "SIDDHAM_VOWEL_SIGN_ALTERNATE_", ["U UU"]⟩,
   ⟨0x11600, "MODI_LETTER_", ["A AA I II U UU VOCALIC_R VOCALIC_RR VOCALIC_L VOCALIC_LL E AI O",
    "AU KA KHA GA GHA NGA CA CHA JA JHA NYA TTA TTHA DDA DDHA NNA TA THA DA DHA NA PA PHA BA BHA",
    "MA YA RA LA VA SHA SSA SA HA LLA"]⟩,
   ⟨0x11630, "MODI_VOWEL_SIGN_", ["AA I II U UU VOCALIC_R VOCALIC_RR VOCALIC_L VOCALIC_LL E AI O",
    "AU"]⟩,
   ⟨0x1163d, "MODI_", ["SIGN_ANUSVARA SIGN_VISARGA SIGN_VIRAMA SIGN_ARDHACANDRA DANDA",
    "DOUBLE_DANDA ABBREVIATION_SIGN SIGN_HUVA"]⟩,
   ⟨0x11650, "MODI_DIGIT_", ["ZERO ONE TWO THREE FOUR FIVE SIX SEVEN EIGHT NINE"]⟩,
   ⟨0x11680, "TAKRI_LETTER_", ["A AA I II U UU E AI O AU KA KHA GA GHA NGA CA CHA JA JHA NYA TTA",
    "TTHA DDA DDHA NNA TA THA DA DHA NA PA PHA BA BHA MA YA RA LA VA SHA SA HA RRA"]⟩,
   ⟨0x116ab, "TAKRI_SIGN_", ["ANUSVARA VISARGA"]⟩,
   ⟨0x116ad, "TAKRI_VOWEL_SIGN_", ["AA I II U UU E AI O AU"]⟩,
   ⟨0x116b6, "TAKRI_", ["SIGN_VIRAMA SIGN_NUKTA LETTER_ARCHAIC_KHA ABBREVIATION_SIGN"]⟩,
   ⟨0x116c0, "TAKRI_DIGIT_", ["ZERO ONE TWO THREE FOUR FIVE SIX SEVEN EIGHT NINE"]⟩,
   ⟨0x11700, "AHOM_LETTER_", ["KA KHA NGA NA TA ALTERNATE_TA PA PHA BA MA JA CHA THA RA LA SA",
    "NYA HA A DA DHA GA ALTERNATE_GA GHA BHA JHA ALTERNATE_BA"]⟩,
   ⟨0x1171d, "AHOM_CONSONANT_SIGN_MEDIAL_", ["LA RA LIGATING_RA"]⟩,
   ⟨0x11720, "AHOM_VOWEL_SIGN_", ["A AA I II U UU E AW O AI AM"]⟩,
   ⟨0x1172b, "AHOM_SIGN_", ["KILLER"]⟩,
   ⟨0x11730, "AHOM_DIGIT_", ["ZERO ONE TWO THREE FOUR FIVE SIX SEVEN EIGHT NINE"]⟩,
   ⟨0x1173a, "AHOM_", ["NUMBER_TEN NUMBER_TWENTY SIGN_SMALL_SECTION SIGN_SECTION SIGN_RULAI",
    "SYMBOL_VI"]⟩,
   ⟨0x11740, "AHOM_LETTER_", ["CA TTA TTHA DDA DDHA NNA LLA"]⟩,
   ⟨0x11800, "DOGRA_LETTER_", ["A AA I II U UU E AI O AU KA KHA GA GHA NGA CA CHA JA JHA NYA TTA",
    "TTHA DDA DDHA NNA TA THA DA DHA NA PA PHA BA BHA MA YA RA LA VA SHA SSA SA HA RRA"]⟩,
   ⟨0x1182c, "DOGRA_VOWEL_SIGN_", ["AA I II U UU VOCALIC_R VOCALIC_RR E AI O AU"]⟩,
   ⟨0x11837, "DOGRA_", ["SIGN_ANUSVARA SIGN_VISARGA SIGN_VIRAMA SIGN_NUKTA ABBREVIATION_SIGN"]⟩,
   ⟨0x118a0, "WARANG_CITI_CAPITAL_LETTER_", ["NGAA A WI YU YA YO II UU E O ANG GA KO ENY YUJ UC",
    "ENN ODD TTE NUNG DA AT AM BU PU HIYO HOLO HORR HAR SSUU SII VIYO"]⟩,
   ⟨0x118c0, "WARANG_CITI_SMALL_LETTER_", ["NGAA A WI YU YA YO II UU E O ANG GA KO ENY YUJ UC",
    "ENN ODD TTE NUNG DA AT AM BU PU HIYO HOLO HORR HAR SSUU SII VIYO"]⟩,
   ⟨0x118e0, "WARANG_CITI_DIGIT_", ["ZERO ONE TWO THREE FOUR FIVE SIX SEVEN EIGHT NINE"]⟩,
   ⟨0x118ea, "WARANG_CITI_NUMBER_", ["TEN TWENTY THIRTY FORTY FIFTY SIXTY SEVENTY EIGHTY NINETY"]⟩,
   ⟨0x118ff, "WARANG_CITI_", ["OM"]⟩,
   ⟨0x11900, "DIVES_AKURU_LETTER_", ["A AA I II U UU E � � O � � KA KHA GA GHA NGA CA CHA JA �",
    "NYA TTA � DDA DDHA NNA TA THA DA DHA NA PA PHA BA BHA MA YA YYA RA LA VA SHA SSA SA HA LLA",
    "ZA"]⟩,
   ⟨0x11930, "DIVES_AKURU_VOWEL_SIGN_", ["AA I II U UU E � AI O"]⟩,
   ⟨0x1193b, "DIVES_AKURU_", ["SIGN_ANUSVARA SIGN_CANDRABINDU SIGN_HALANTA VIRAMA",
    "PREFIXED_NASAL_SIGN MEDIAL_YA INITIAL_RA MEDIAL_RA SIGN_NUKTA DOUBLE_DANDA GAP_FILLER",
    "END_OF_TEXT_MARK"]⟩,
   ⟨0x11950, "DIVES_AKURU_DIGIT_", ["ZERO ONE TWO THREE FOUR FIVE SIX SEVEN EIGHT NINE"]⟩,
   ⟨0x119a0, "NANDINAGARI_LETTER_", ["A AA I II U UU VOCALIC_R VOCALIC_RR � � E AI O AU KA KHA",
    "GA GHA NGA CA CHA JA JHA NYA TTA TTHA DDA DDHA NNA TA THA DA DHA NA PA PHA BA BHA MA YA RA",
    "LA VA SHA SSA SA HA LLA RRA"]⟩,
   ⟨0x119d1, "NANDINAGARI_VOWEL_SIGN_", ["AA I II U UU VOCALIC_R VOCALIC_RR � � E AI O AU"]⟩,
   ⟨0x119de, "NANDINAGARI_", ["SIGN_ANUSVARA SIGN_VISARGA SIGN_VIRAMA SIGN_AVAGRAHA SIGN_SIDDHAM",
    "HEADSTROKE VOWEL_SIGN_PRISHTHAMATRA_E"]⟩,
   ⟨0x11c00, "BHAIKSUKI_LETTER_", ["A AA I II U UU VOCALIC_R VOCALIC_RR VOCALIC_L � E AI O AU KA",
    "KHA GA GHA NGA CA CHA JA JHA NYA TTA TTHA DDA DDHA NNA TA THA DA DHA NA PA PHA BA BHA MA YA",
    "RA LA VA SHA SSA SA HA"]⟩,
   ⟨0x11c2f, "BHAIKSUKI_VOWEL_SIGN_", ["AA I II U UU VOCALIC_R VOCALIC_RR VOCALIC_L � E AI O AU"]⟩,
   ⟨0x11c3c, "BHAIKSUKI_", ["SIGN_CANDRABINDU SIGN_ANUSVARA SIGN_VISARGA SIGN_VIRAMA",
    "SIGN_AVAGRAHA DANDA DOUBLE_DANDA WORD_SEPARATOR GAP_FILLER-1 GAP_FILLER-2"]⟩,
   ⟨0x11c50, "BHAIKSUKI_DIGIT_", ["ZERO ONE TWO THREE FOUR FIVE SIX SEVEN EIGHT NINE"]⟩,
   ⟨0x11c5a, "BHAIKSUKI_NUMBER_", ["ONE TWO THREE FOUR FIVE SIX SEVEN EIGHT NINE TEN TWENTY",
    "THIRTY FORTY FIFTY SIXTY SEVENTY EIGHTY NINETY"]⟩,
   ⟨0x11c6c, "BHAIKSUKI_HUNDREDS_UNIT_", ["MARK"]⟩,
   ⟨0x11d00, "MASARAM_GONDI_LETTER_", ["A AA I II U UU E � AI O � AU KA KHA GA GHA NGA CA CHA JA",
    "JHA NYA TTA TTHA DDA DDHA NNA TA THA DA DHA NA PA PHA BA BHA MA YA RA LA VA SHA SSA SA HA",
    "LLA KSSA JNYA TRA"]⟩,
   ⟨0x11d31, "MASARAM_GONDI_VOWEL_SIGN_", ["AA I II U UU VOCALIC_R � � � E � AI O � AU"]⟩,
   ⟨0x11d40, "MASARAM_GONDI_", ["SIGN_ANUSVARA SIGN_VISARGA SIGN_NUKTA SIGN_CANDRA SIGN_HALANTA",
    "VIRAMA REPHA RA-KARA"]⟩,
   ⟨0x11d50, "MASARAM_GONDI_DIGIT_", ["ZERO ONE TWO THREE FOUR FIVE SIX SEVEN EIGHT NINE"]⟩,
   ⟨0x11d60, "GUNJALA_GONDI_LETTER_", ["A AA I II U UU � EE AI � OO AU YA VA BA BHA MA KA KHA TA",
    "THA LA GA GHA DA DHA NA CA CHA TTA TTHA LLA JA JHA DDA DDHA NGA PA PHA HA RA SA"]⟩,
   ⟨0x11d8a, "GUNJALA_GONDI_VOWEL_SIGN_", ["AA I II U UU � EE AI � OO AU"]⟩,
   ⟨0x11d95, "GUNJALA_GONDI_", ["SIGN_ANUSVARA SIGN_VISARGA VIRAMA OM"]⟩,
   ⟨0x11da0, "GUNJALA_GONDI_DIGIT_", ["ZERO ONE TWO THREE FOUR FIVE SIX SEVEN EIGHT NINE"]⟩,
   ⟨0x11fc0, "TAMIL_FRACTION_", ["ONE_THREE-HUNDRED-AND-TWENTIETH ONE_ONE-HUNDRED-AND-SIXTIETH",
    "ONE_EIGHTIETH ONE_SIXTY-FOURTH ONE_FORTIETH ONE_THIRTY-SECOND THREE_EIGHTIETHS",
    "THREE_SIXTY-FOURTHS ONE_TWENTIETH ONE_SIXTEENTH-1 ONE_SIXTEENTH-2 ONE_TENTH ONE_EIGHTH",
    "THREE_TWENTIETHS THREE_SIXTEENTHS ONE_FIFTH ONE_QUARTER ONE_HALF-1 ONE_HALF-2",
    "THREE_QUARTERS DOWNSCALING_FACTOR_KIIZH"]⟩,
   ⟨0x11fd5, "TAMIL_SIGN_", ["NEL CEVITU AAZHAAKKU UZHAKKU MUUVUZHAKKU KURUNI PATHAKKU MUKKURUNI",
    "KAACU PANAM PON VARAAKAN PAARAM KUZHI VELI"]⟩,
   ⟨0x11fe4, "TAMIL_", ["WET_CULTIVATION_SIGN DRY_CULTIVATION_SIGN LAND_SIGN SALT_PAN_SIGN",
    "TRADITIONAL_CREDIT_SIGN TRADITIONAL_NUMBER_SIGN CURRENT_SIGN AND_ODD_SIGN SPENT_SIGN",
    "TOTAL_SIGN IN_POSSESSION_SIGN STARTING_FROM_SIGN SIGN_MUTHALIYA SIGN_VAKAIYARAA"]⟩,
   ⟨0x11fff, "TAMIL_PUNCTUATION_END_OF_", ["TEXT"]⟩,
   ⟨0x16a40, "MRO_LETTER_", ["TA NGI YO MIM BA DA A PHI KHAI HAO DAI CHU KEAAE OL MAEM NIN PA OO",
    "O RO SHI THEA EA WA E KO LAN LA HAI RI TEK"]⟩,
   ⟨0x16a60, "MRO_DIGIT_", ["ZERO ONE TWO THREE FOUR FIVE SIX SEVEN EIGHT NINE"]⟩,
   ⟨0x16a6e, "MRO_", ["DANDA DOUBLE_DANDA"]⟩,
   ⟨0x1e290, "TOTO_LETTER_", ["PA BA TA DA KA GA MA NA NGA SA CHA YA WA JA HA RA LA I BREATHY_I",
    "IU BREATHY_IU U E BREATHY_E EO BREATHY_EO O AE BREATHY_AE A"]⟩,
   ⟨0x1e2ae, "TOTO_SIGN_RISING_", ["TONE"]⟩,
   ⟨0x1e2c0, "WANCHO_LETTER_", ["AA A BA CA DA GA YA PHA LA NA PA TA THA FA SA SHA JA ZA WA VA",
    "KA O AU RA MA KHA HA E I NGA U LLHA TSA TRA ONG AANG ANG ING ON EN AAN NYA UEN YIH"]⟩,
   ⟨0x1e2ec, "WANCHO_TONE_", ["TUP TUPNI KOI KOINI"]⟩,
   ⟨0x1e2f0, "WANCHO_DIGIT_", ["ZERO ONE TWO THREE FOUR FIVE SIX SEVEN EIGHT NINE"]⟩,
   ⟨0x1e2ff, "WANCHO_NGUN_", ["SIGN"]⟩]

end SqlRoutes.Text.Names
