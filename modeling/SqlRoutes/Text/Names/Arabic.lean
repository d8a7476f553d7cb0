import SqlRoutes.Text.Names.Series

namespace SqlRoutes.Text.Names

def arabic : List Series :=
  [⟨0x0600, "ARABIC_", ["NUMBER_SIGN SIGN_SANAH FOOTNOTE_MARKER SIGN_SAFHA SIGN_SAMVAT",
    "NUMBER_MARK_ABOVE"]⟩,
   ⟨0x0606, "", ["ARABIC-INDIC_CUBE_ROOT ARABIC-INDIC_FOURTH_ROOT ARABIC_RAY",
    "ARABIC-INDIC_PER_MILLE_SIGN ARABIC-INDIC_PER_TEN_THOUSAND_SIGN AFGHANI_SIGN"]⟩,
   ⟨0x060c, "ARABIC_", ["COMMA DATE_SEPARATOR POETIC_VERSE_SIGN SIGN_MISRA",
    "SIGN_SALLALLAHOU_ALAYHE_WASSALLAM SIGN_ALAYHE_ASSALLAM SIGN_RAHMATULLAH_ALAYHE",
    "SIGN_RADI_ALLAHOU_ANHU SIGN_TAKHALLUS SMALL_HIGH_TAH",
    "SMALL_HIGH_LIGATURE_ALEF_WITH_LAM_WITH_YEH SMALL_HIGH_ZAIN SMALL_FATHA SMALL_DAMMA",
    "SMALL_KASRA SEMICOLON LETTER_MARK END_OF_TEXT_MARK TRIPLE_DOT_PUNCTUATION_MARK",
    "QUESTION_MARK"]⟩,
   ⟨0x0620, "ARABIC_LETTER_", ["KASHMIRI_YEH HAMZA ALEF_WITH_MADDA_ABOVE ALEF_WITH_HAMZA_ABOVE",
    "WAW_WITH_HAMZA_ABOVE ALEF_WITH_HAMZA_BELOW YEH_WITH_HAMZA_ABOVE ALEF BEH TEH_MARBUTA TEH",
    "THEH JEEM HAH KHAH DAL THAL REH ZAIN SEEN SHEEN SAD DAD TAH ZAH AIN GHAIN",
    "KEHEH_WITH_TWO_DOTS_ABOVE KEHEH_WITH_THREE_DOTS_BELOW FARSI_YEH_WITH_INVERTED_V",
    "FARSI_YEH_WITH_TWO_DOTS_ABOVE FARSI_YEH_WITH_THREE_DOTS_ABOVE"]⟩,
   ⟨0x0640, "ARABIC_", ["TATWEEL"]⟩,
   ⟨0x0641, "ARABIC_LETTER_", ["FEH QAF KAF LAM MEEM NOON HEH WAW ALEF_MAKSURA YEH"]⟩,
   ⟨0x064b, "ARABIC_", ["FATHATAN DAMMATAN KASRATAN FATHA DAMMA KASRA SHADDA SUKUN MADDAH_ABOVE",
    "HAMZA_ABOVE HAMZA_BELOW SUBSCRIPT_ALEF INVERTED_DAMMA MARK_NOON_GHUNNA ZWARAKAY",
    "VOWEL_SIGN_SMALL_V_ABOVE VOWEL_SIGN_INVERTED_SMALL_V_ABOVE VOWEL_SIGN_DOT_BELOW",
    "REVERSED_DAMMA FATHA_WITH_TWO_DOTS WAVY_HAMZA_BELOW"]⟩,
   ⟨0x0660, "ARABIC-INDIC_DIGIT_", ["ZERO ONE TWO THREE FOUR FIVE SIX SEVEN EIGHT NINE"]⟩,
   ⟨0x066a, "ARABIC_", ["PERCENT_SIGN DECIMAL_SEPARATOR THOUSANDS_SEPARATOR FIVE_POINTED_STAR"]⟩,
   ⟨0x066e, "ARABIC_LETTER_", ["DOTLESS_BEH DOTLESS_QAF SUPERSCRIPT_ALEF ALEF_WASLA",
    "ALEF_WITH_WAVY_HAMZA_ABOVE ALEF_WITH_WAVY_HAMZA_BELOW HIGH_HAMZA HIGH_HAMZA_ALEF",
    "HIGH_HAMZA_WAW U_WITH_HAMZA_ABOVE HIGH_HAMZA_YEH TTEH TTEHEH BEEH TEH_WITH_RING",
    "TEH_WITH_THREE_DOTS_ABOVE_DOWNWARDS PEH TEHEH BEHEH HAH_WITH_HAMZA_ABOVE",
    "HAH_WITH_TWO_DOTS_VERTICAL_ABOVE NYEH DYEH HAH_WITH_THREE_DOTS_ABOVE TCHEH TCHEHEH DDAL",
    "DAL_WITH_RING DAL_WITH_DOT_BELOW DAL_WITH_DOT_BELOW_AND_SMALL_TAH DAHAL DDAHAL DUL",
    "DAL_WITH_THREE_DOTS_ABOVE_DOWNWARDS DAL_WITH_FOUR_DOTS_ABOVE RREH REH_WITH_SMALL_V",
    "REH_WITH_RING REH_WITH_DOT_BELOW REH_WITH_SMALL_V_BELOW REH_WITH_DOT_BELOW_AND_DOT_ABOVE",
    "REH_WITH_TWO_DOTS_ABOVE JEH REH_WITH_FOUR_DOTS_ABOVE SEEN_WITH_DOT_BELOW_AND_DOT_ABOVE",
    "SEEN_WITH_THREE_DOTS_BELOW SEEN_WITH_THREE_DOTS_BELOW_AND_THREE_DOTS_ABOVE",
    "SAD_WITH_TWO_DOTS_BELOW SAD_WITH_THREE_DOTS_ABOVE TAH_WITH_THREE_DOTS_ABOVE",
    "AIN_WITH_THREE_DOTS_ABOVE DOTLESS_FEH FEH_WITH_DOT_MOVED_BELOW FEH_WITH_DOT_BELOW VEH",
    "FEH_WITH_THREE_DOTS_BELOW PEHEH QAF_WITH_DOT_ABOVE QAF_WITH_THREE_DOTS_ABOVE KEHEH",
    "SWASH_KAF KAF_WITH_RING KAF_WITH_DOT_ABOVE NG KAF_WITH_THREE_DOTS_BELOW GAF GAF_WITH_RING",
    "NGOEH GAF_WITH_TWO_DOTS_BELOW GUEH GAF_WITH_THREE_DOTS_ABOVE LAM_WITH_SMALL_V",
    "LAM_WITH_DOT_ABOVE LAM_WITH_THREE_DOTS_ABOVE LAM_WITH_THREE_DOTS_BELOW NOON_WITH_DOT_BELOW",
    "NOON_GHUNNA RNOON NOON_WITH_RING NOON_WITH_THREE_DOTS_ABOVE HEH_DOACHASHMEE",
    "TCHEH_WITH_DOT_ABOVE HEH_WITH_YEH_ABOVE HEH_GOAL HEH_GOAL_WITH_HAMZA_ABOVE TEH_MARBUTA_GOAL",
    "WAW_WITH_RING KIRGHIZ_OE OE U YU KIRGHIZ_YU WAW_WITH_TWO_DOTS_ABOVE VE FARSI_YEH",
    "YEH_WITH_TAIL YEH_WITH_SMALL_V WAW_WITH_DOT_ABOVE E YEH_WITH_THREE_DOTS_BELOW YEH_BARREE",
    "YEH_BARREE_WITH_HAMZA_ABOVE"]⟩,
   ⟨0x06d4, "ARABIC_", ["FULL_STOP LETTER_AE"]⟩,
   ⟨0x06d6, "ARABIC_SMALL_HIGH_", ["LIGATURE_SAD_WITH_LAM_WITH_ALEF_MAKSURA",
    "LIGATURE_QAF_WITH_LAM_WITH_ALEF_MAKSURA MEEM_INITIAL_FORM LAM_ALEF JEEM THREE_DOTS SEEN"]⟩,
   ⟨0x06dd, "ARABIC_", ["END_OF_AYAH START_OF_RUB_EL_HIZB SMALL_HIGH_ROUNDED_ZERO",
    "SMALL_HIGH_UPRIGHT_RECTANGULAR_ZERO SMALL_HIGH_DOTLESS_HEAD_OF_KHAH",
    "SMALL_HIGH_MEEM_ISOLATED_FORM SMALL_LOW_SEEN SMALL_HIGH_MADDA SMALL_WAW SMALL_YEH",
    "SMALL_HIGH_YEH SMALL_HIGH_NOON PLACE_OF_SAJDAH EMPTY_CENTRE_LOW_STOP EMPTY_CENTRE_HIGH_STOP",
    "ROUNDED_HIGH_STOP_WITH_FILLED_CENTRE SMALL_LOW_MEEM LETTER_DAL_WITH_INVERTED_V",
    "LETTER_REH_WITH_INVERTED_V"]⟩,
   ⟨0x06f0, "EXTENDED_ARABIC-INDIC_DIGIT_", ["ZERO ONE TWO THREE FOUR FIVE SIX SEVEN EIGHT NINE"]⟩,
   ⟨0x06fa, "ARABIC_", ["LETTER_SHEEN_WITH_DOT_BELOW LETTER_DAD_WITH_DOT_BELOW",
    "LETTER_GHAIN_WITH_DOT_BELOW SIGN_SINDHI_AMPERSAND SIGN_SINDHI_POSTPOSITION_MEN",
    "LETTER_HEH_WITH_INVERTED_V"]⟩,
   ⟨0x0750, "ARABIC_LETTER_BEH_WITH_", ["THREE_DOTS_HORIZONTALLY_BELOW",
    "DOT_BELOW_AND_THREE_DOTS_ABOVE THREE_DOTS_POINTING_UPWARDS_BELOW",
    "THREE_DOTS_POINTING_UPWARDS_BELOW_AND_TWO_DOTS_ABOVE TWO_DOTS_BELOW_AND_DOT_ABOVE",
    "INVERTED_SMALL_V_BELOW SMALL_V"]⟩,
   ⟨0x0757, "ARABIC_LETTER_", ["HAH_WITH_TWO_DOTS_ABOVE",
    "HAH_WITH_THREE_DOTS_POINTING_UPWARDS_BELOW DAL_WITH_TWO_DOTS_VERTICALLY_BELOW_AND_SMALL_TAH",
    "DAL_WITH_INVERTED_SMALL_V_BELOW REH_WITH_STROKE SEEN_WITH_FOUR_DOTS_ABOVE",
    "AIN_WITH_TWO_DOTS_ABOVE AIN_WITH_THREE_DOTS_POINTING_DOWNWARDS_ABOVE",
    "AIN_WITH_TWO_DOTS_VERTICALLY_ABOVE FEH_WITH_TWO_DOTS_BELOW",
    "FEH_WITH_THREE_DOTS_POINTING_UPWARDS_BELOW KEHEH_WITH_DOT_ABOVE KEHEH_WITH_THREE_DOTS_ABOVE",
    "KEHEH_WITH_THREE_DOTS_POINTING_UPWARDS_BELOW MEEM_WITH_DOT_ABOVE MEEM_WITH_DOT_BELOW",
    "NOON_WITH_TWO_DOTS_BELOW NOON_WITH_SMALL_TAH NOON_WITH_SMALL_V LAM_WITH_BAR",
    "REH_WITH_TWO_DOTS_VERTICALLY_ABOVE REH_WITH_HAMZA_ABOVE SEEN_WITH_TWO_DOTS_VERTICALLY_ABOVE",
    "HAH_WITH_SMALL_ARABIC_LETTER_TAH_BELOW HAH_WITH_SMALL_ARABIC_LETTER_TAH_AND_TWO_DOTS",
    "SEEN_WITH_SMALL_ARABIC_LETTER_TAH_AND_TWO_DOTS",
    "REH_WITH_SMALL_ARABIC_LETTER_TAH_AND_TWO_DOTS HAH_WITH_SMALL_ARABIC_LETTER_TAH_ABOVE"]⟩,
   ⟨0x0773, "ARABIC_LETTER_ALEF_WITH_EXTENDED_ARABIC-INDIC_DIGIT_", ["TWO_ABOVE THREE_ABOVE"]⟩,
   ⟨0x0775, "ARABIC_LETTER_FARSI_YEH_WITH_EXTENDED_ARABIC-INDIC_DIGIT_", ["TWO_ABOVE THREE_ABOVE",
    "FOUR_BELOW"]⟩,
   ⟨0x0778, "ARABIC_LETTER_WAW_WITH_EXTENDED_ARABIC-INDIC_DIGIT_", ["TWO_ABOVE THREE_ABOVE"]⟩,
   ⟨0x077a, "ARABIC_LETTER_YEH_BARREE_WITH_EXTENDED_ARABIC-INDIC_DIGIT_", ["TWO_ABOVE",
    "THREE_ABOVE"]⟩,
   ⟨0x077c, "ARABIC_LETTER_", ["HAH_WITH_EXTENDED_ARABIC-INDIC_DIGIT_FOUR_BELOW",
    "SEEN_WITH_EXTENDED_ARABIC-INDIC_DIGIT_FOUR_ABOVE SEEN_WITH_INVERTED_V",
    "KAF_WITH_TWO_DOTS_ABOVE"]⟩,
   ⟨0x0870, "ARABIC_LETTER_ALEF_WITH_", ["ATTACHED_FATHA ATTACHED_TOP_RIGHT_FATHA",
    "RIGHT_MIDDLE_STROKE LEFT_MIDDLE_STROKE ATTACHED_KASRA ATTACHED_BOTTOM_RIGHT_KASRA",
    "ATTACHED_ROUND_DOT_ABOVE ATTACHED_RIGHT_ROUND_DOT ATTACHED_LEFT_ROUND_DOT",
    "ATTACHED_ROUND_DOT_BELOW DOT_ABOVE ATTACHED_TOP_RIGHT_FATHA_AND_DOT_ABOVE",
    "RIGHT_MIDDLE_STROKE_AND_DOT_ABOVE ATTACHED_BOTTOM_RIGHT_KASRA_AND_DOT_ABOVE",
    "ATTACHED_TOP_RIGHT_FATHA_AND_LEFT_RING RIGHT_MIDDLE_STROKE_AND_LEFT_RING",
    "ATTACHED_BOTTOM_RIGHT_KASRA_AND_LEFT_RING ATTACHED_RIGHT_HAMZA ATTACHED_LEFT_HAMZA"]⟩,
   ⟨0x0883, "ARABIC_", ["TATWEEL_WITH_OVERSTRUCK_HAMZA TATWEEL_WITH_OVERSTRUCK_WAW",
    "TATWEEL_WITH_TWO_DOTS_BELOW LETTER_THIN_YEH BASELINE_ROUND_DOT RAISED_ROUND_DOT",
    "LETTER_NOON_WITH_INVERTED_SMALL_V LETTER_HAH_WITH_INVERTED_SMALL_V_BELOW",
    "LETTER_TAH_WITH_DOT_BELOW LETTER_TAH_WITH_THREE_DOTS_BELOW",
    "LETTER_KEHEH_WITH_TWO_DOTS_VERTICALLY_BELOW VERTICAL_TAIL � POUND_MARK_ABOVE",
    "PIASTRE_MARK_ABOVE � � � � � � SMALL_HIGH_WORD_AL-JUZ SMALL_LOW_WORD_ISHMAAM",
    "SMALL_LOW_WORD_IMAALA SMALL_LOW_WORD_TASHEEL MADDA_WAAJIB SUPERSCRIPT_ALEF_MOKHASSAS",
    "DOUBLED_MADDA HALF_MADDA_OVER_MADDA"]⟩,
   ⟨0x08a0, "ARABIC_LETTER_", ["BEH_WITH_SMALL_V_BELOW BEH_WITH_HAMZA_ABOVE",
    "JEEM_WITH_TWO_DOTS_ABOVE TAH_WITH_TWO_DOTS_ABOVE FEH_WITH_DOT_BELOW_AND_THREE_DOTS_ABOVE",
    "QAF_WITH_DOT_BELOW LAM_WITH_DOUBLE_BAR MEEM_WITH_THREE_DOTS_ABOVE",
    "YEH_WITH_TWO_DOTS_BELOW_AND_HAMZA_ABOVE YEH_WITH_TWO_DOTS_BELOW_AND_DOT_ABOVE REH_WITH_LOOP",
    "WAW_WITH_DOT_WITHIN ROHINGYA_YEH LOW_ALEF DAL_WITH_THREE_DOTS_BELOW",
    "SAD_WITH_THREE_DOTS_BELOW GAF_WITH_INVERTED_STROKE STRAIGHT_WAW ZAIN_WITH_INVERTED_V_ABOVE",
    "AIN_WITH_THREE_DOTS_BELOW KAF_WITH_DOT_BELOW QAF_WITH_DOT_BELOW_AND_NO_DOTS_ABOVE",
    "BEH_WITH_SMALL_MEEM_ABOVE PEH_WITH_SMALL_MEEM_ABOVE TEH_WITH_SMALL_TEH_ABOVE",
    "REH_WITH_SMALL_NOON_ABOVE YEH_WITH_TWO_DOTS_BELOW_AND_SMALL_NOON_ABOVE AFRICAN_FEH",
    "AFRICAN_QAF AFRICAN_NOON PEH_WITH_SMALL_V TEH_WITH_SMALL_V TTEH_WITH_SMALL_V",
    "TCHEH_WITH_SMALL_V KEHEH_WITH_SMALL_V GHAIN_WITH_THREE_DOTS_ABOVE",
    "AFRICAN_QAF_WITH_THREE_DOTS_ABOVE JEEM_WITH_THREE_DOTS_ABOVE JEEM_WITH_THREE_DOTS_BELOW",
    "LAM_WITH_SMALL_ARABIC_LETTER_TAH_ABOVE GRAF"]⟩,
   ⟨0x08c9, "ARABIC_", ["SMALL_FARSI_YEH SMALL_HIGH_FARSI_YEH",
    "SMALL_HIGH_YEH_BARREE_WITH_TWO_DOTS_BELOW SMALL_HIGH_WORD_SAH SMALL_HIGH_ZAH",
    "LARGE_ROUND_DOT_ABOVE LARGE_ROUND_DOT_BELOW SUKUN_BELOW LARGE_CIRCLE_BELOW",
    "LARGE_ROUND_DOT_INSIDE_CIRCLE_BELOW"]⟩,
   ⟨0x08d3, "ARABIC_SMALL_", ["LOW_WAW HIGH_WORD_AR-RUB HIGH_SAD HIGH_AIN HIGH_QAF",
    "HIGH_NOON_WITH_KASRA LOW_NOON_WITH_KASRA"]⟩,
   ⟨0x08da, "ARABIC_SMALL_HIGH_WORD_", ["ATH-THALATHA AS-SAJDA AN-NISF SAKTA QIF WAQFA"]⟩,
   ⟨0x08e0, "ARABIC_", ["SMALL_HIGH_FOOTNOTE_MARKER SMALL_HIGH_SIGN_SAFHA DISPUTED_END_OF_AYAH",
    "TURNED_DAMMA_BELOW CURLY_FATHA CURLY_DAMMA CURLY_KASRA CURLY_FATHATAN CURLY_DAMMATAN",
    "CURLY_KASRATAN TONE_ONE_DOT_ABOVE TONE_TWO_DOTS_ABOVE TONE_LOOP_ABOVE TONE_ONE_DOT_BELOW",
    "TONE_TWO_DOTS_BELOW TONE_LOOP_BELOW OPEN_FATHATAN OPEN_DAMMATAN OPEN_KASRATAN",
    "SMALL_HIGH_WAW FATHA_WITH_RING FATHA_WITH_DOT_ABOVE KASRA_WITH_DOT_BELOW",
    "LEFT_ARROWHEAD_ABOVE RIGHT_ARROWHEAD_ABOVE LEFT_ARROWHEAD_BELOW RIGHT_ARROWHEAD_BELOW",
    "DOUBLE_RIGHT_ARROWHEAD_ABOVE DOUBLE_RIGHT_ARROWHEAD_ABOVE_WITH_DOT",
    "RIGHT_ARROWHEAD_ABOVE_WITH_DOT DAMMA_WITH_DOT MARK_SIDEWAYS_NOON_GHUNNA"]⟩,
   ⟨0xfb50, "ARABIC_LETTER_", ["ALEF_WASLA_ISOLATED_FORM ALEF_WASLA_FINAL_FORM",
    "BEEH_ISOLATED_FORM BEEH_FINAL_FORM BEEH_INITIAL_FORM BEEH_MEDIAL_FORM PEH_ISOLATED_FORM",
    "PEH_FINAL_FORM PEH_INITIAL_FORM PEH_MEDIAL_FORM BEHEH_ISOLATED_FORM BEHEH_FINAL_FORM",
    "BEHEH_INITIAL_FORM BEHEH_MEDIAL_FORM TTEHEH_ISOLATED_FORM TTEHEH_FINAL_FORM",
    "TTEHEH_INITIAL_FORM TTEHEH_MEDIAL_FORM TEHEH_ISOLATED_FORM TEHEH_FINAL_FORM",
    "TEHEH_INITIAL_FORM TEHEH_MEDIAL_FORM TTEH_ISOLATED_FORM TTEH_FINAL_FORM TTEH_INITIAL_FORM",
    "TTEH_MEDIAL_FORM VEH_ISOLATED_FORM VEH_FINAL_FORM VEH_INITIAL_FORM VEH_MEDIAL_FORM",
    "PEHEH_ISOLATED_FORM PEHEH_FINAL_FORM PEHEH_INITIAL_FORM PEHEH_MEDIAL_FORM",
    "DYEH_ISOLATED_FORM DYEH_FINAL_FORM DYEH_INITIAL_FORM DYEH_MEDIAL_FORM NYEH_ISOLATED_FORM",
    "NYEH_FINAL_FORM NYEH_INITIAL_FORM NYEH_MEDIAL_FORM TCHEH_ISOLATED_FORM TCHEH_FINAL_FORM",
    "TCHEH_INITIAL_FORM TCHEH_MEDIAL_FORM TCHEHEH_ISOLATED_FORM TCHEHEH_FINAL_FORM",
    "TCHEHEH_INITIAL_FORM TCHEHEH_MEDIAL_FORM DDAHAL_ISOLATED_FORM DDAHAL_FINAL_FORM",
    "DAHAL_ISOLATED_FORM DAHAL_FINAL_FORM DUL_ISOLATED_FORM DUL_FINAL_FORM DDAL_ISOLATED_FORM",
    "DDAL_FINAL_FORM JEH_ISOLATED_FORM JEH_FINAL_FORM RREH_ISOLATED_FORM RREH_FINAL_FORM",
    "KEHEH_ISOLATED_FORM KEHEH_FINAL_FORM KEHEH_INITIAL_FORM KEHEH_MEDIAL_FORM GAF_ISOLATED_FORM",
    "GAF_FINAL_FORM GAF_INITIAL_FORM GAF_MEDIAL_FORM GUEH_ISOLATED_FORM GUEH_FINAL_FORM",
    "GUEH_INITIAL_FORM GUEH_MEDIAL_FORM NGOEH_ISOLATED_FORM NGOEH_FINAL_FORM NGOEH_INITIAL_FORM",
    "NGOEH_MEDIAL_FORM NOON_GHUNNA_ISOLATED_FORM NOON_GHUNNA_FINAL_FORM RNOON_ISOLATED_FORM",
    "RNOON_FINAL_FORM RNOON_INITIAL_FORM RNOON_MEDIAL_FORM HEH_WITH_YEH_ABOVE_ISOLATED_FORM",
    "HEH_WITH_YEH_ABOVE_FINAL_FORM HEH_GOAL_ISOLATED_FORM HEH_GOAL_FINAL_FORM",
    "HEH_GOAL_INITIAL_FORM HEH_GOAL_MEDIAL_FORM"]⟩,
   ⟨0xfbaa, "ARABIC_LETTER_HEH_DOACHASHMEE_", ["ISOLATED_FORM FINAL_FORM INITIAL_FORM",
    "MEDIAL_FORM"]⟩,
   ⟨0xfbae, "ARABIC_LETTER_YEH_BARREE_", ["ISOLATED_FORM FINAL_FORM",
    "WITH_HAMZA_ABOVE_ISOLATED_FORM WITH_HAMZA_ABOVE_FINAL_FORM"]⟩,
   ⟨0xfbb2, "ARABIC_SYMBOL_", ["DOT_ABOVE DOT_BELOW TWO_DOTS_ABOVE TWO_DOTS_BELOW",
    "THREE_DOTS_ABOVE THREE_DOTS_BELOW THREE_DOTS_POINTING_DOWNWARDS_ABOVE",
    "THREE_DOTS_POINTING_DOWNWARDS_BELOW FOUR_DOTS_ABOVE FOUR_DOTS_BELOW",
    "DOUBLE_VERTICAL_BAR_BELOW TWO_DOTS_VERTICALLY_ABOVE TWO_DOTS_VERTICALLY_BELOW RING",
    "SMALL_TAH_ABOVE SMALL_TAH_BELOW WASLA_ABOVE"]⟩,
   ⟨0xfbd3, "ARABIC_LETTER_", ["NG_ISOLATED_FORM NG_FINAL_FORM NG_INITIAL_FORM NG_MEDIAL_FORM",
    "U_ISOLATED_FORM U_FINAL_FORM OE_ISOLATED_FORM OE_FINAL_FORM YU_ISOLATED_FORM YU_FINAL_FORM",
    "U_WITH_HAMZA_ABOVE_ISOLATED_FORM VE_ISOLATED_FORM VE_FINAL_FORM KIRGHIZ_OE_ISOLATED_FORM",
    "KIRGHIZ_OE_FINAL_FORM KIRGHIZ_YU_ISOLATED_FORM KIRGHIZ_YU_FINAL_FORM E_ISOLATED_FORM",
    "E_FINAL_FORM E_INITIAL_FORM E_MEDIAL_FORM UIGHUR_KAZAKH_KIRGHIZ_ALEF_MAKSURA_INITIAL_FORM",
    "UIGHUR_KAZAKH_KIRGHIZ_ALEF_MAKSURA_MEDIAL_FORM"]⟩,
   ⟨0xfbea, "ARABIC_LIGATURE_YEH_WITH_HAMZA_ABOVE_WITH_", ["ALEF_ISOLATED_FORM ALEF_FINAL_FORM",
    "AE_ISOLATED_FORM AE_FINAL_FORM WAW_ISOLATED_FORM WAW_FINAL_FORM U_ISOLATED_FORM",
    "U_FINAL_FORM OE_ISOLATED_FORM OE_FINAL_FORM YU_ISOLATED_FORM YU_FINAL_FORM E_ISOLATED_FORM",
    "E_FINAL_FORM E_INITIAL_FORM"]⟩,
   ⟨0xfbf9, "ARABIC_LIGATURE_UIGHUR_KIRGHIZ_YEH_WITH_HAMZA_ABOVE_WITH_ALEF_MAKSURA_",
    ["ISOLATED_FORM FINAL_FORM INITIAL_FORM"]⟩,
   ⟨0xfbfc, "ARABIC_LETTER_FARSI_YEH_", ["ISOLATED_FORM FINAL_FORM INITIAL_FORM MEDIAL_FORM"]⟩,
   ⟨0xfc00, "ARABIC_LIGATURE_YEH_WITH_HAMZA_ABOVE_WITH_", ["JEEM_ISOLATED_FORM HAH_ISOLATED_FORM",
    "MEEM_ISOLATED_FORM ALEF_MAKSURA_ISOLATED_FORM YEH_ISOLATED_FORM"]⟩,
   ⟨0xfc05, "ARABIC_LIGATURE_BEH_WITH_", ["JEEM_ISOLATED_FORM HAH_ISOLATED_FORM",
    "KHAH_ISOLATED_FORM MEEM_ISOLATED_FORM ALEF_MAKSURA_ISOLATED_FORM YEH_ISOLATED_FORM"]⟩,
   ⟨0xfc0b, "ARABIC_LIGATURE_TEH_WITH_", ["JEEM_ISOLATED_FORM HAH_ISOLATED_FORM",
    "KHAH_ISOLATED_FORM MEEM_ISOLATED_FORM ALEF_MAKSURA_ISOLATED_FORM YEH_ISOLATED_FORM"]⟩,
   ⟨0xfc11, "ARABIC_LIGATURE_", ["THEH_WITH_JEEM_ISOLATED_FORM THEH_WITH_MEEM_ISOLATED_FORM",
    "THEH_WITH_ALEF_MAKSURA_ISOLATED_FORM THEH_WITH_YEH_ISOLATED_FORM",
    "JEEM_WITH_HAH_ISOLATED_FORM JEEM_WITH_MEEM_ISOLATED_FORM HAH_WITH_JEEM_ISOLATED_FORM",
    "HAH_WITH_MEEM_ISOLATED_FORM KHAH_WITH_JEEM_ISOLATED_FORM KHAH_WITH_HAH_ISOLATED_FORM",
    "KHAH_WITH_MEEM_ISOLATED_FORM SEEN_WITH_JEEM_ISOLATED_FORM SEEN_WITH_HAH_ISOLATED_FORM",
    "SEEN_WITH_KHAH_ISOLATED_FORM SEEN_WITH_MEEM_ISOLATED_FORM SAD_WITH_HAH_ISOLATED_FORM",
    "SAD_WITH_MEEM_ISOLATED_FORM DAD_WITH_JEEM_ISOLATED_FORM DAD_WITH_HAH_ISOLATED_FORM",
    "DAD_WITH_KHAH_ISOLATED_FORM DAD_WITH_MEEM_ISOLATED_FORM TAH_WITH_HAH_ISOLATED_FORM",
    "TAH_WITH_MEEM_ISOLATED_FORM ZAH_WITH_MEEM_ISOLATED_FORM AIN_WITH_JEEM_ISOLATED_FORM",
    "AIN_WITH_MEEM_ISOLATED_FORM GHAIN_WITH_JEEM_ISOLATED_FORM GHAIN_WITH_MEEM_ISOLATED_FORM",
    "FEH_WITH_JEEM_ISOLATED_FORM FEH_WITH_HAH_ISOLATED_FORM FEH_WITH_KHAH_ISOLATED_FORM",
    "FEH_WITH_MEEM_ISOLATED_FORM FEH_WITH_ALEF_MAKSURA_ISOLATED_FORM FEH_WITH_YEH_ISOLATED_FORM",
    "QAF_WITH_HAH_ISOLATED_FORM QAF_WITH_MEEM_ISOLATED_FORM QAF_WITH_ALEF_MAKSURA_ISOLATED_FORM",
    "QAF_WITH_YEH_ISOLATED_FORM"]⟩,
   ⟨0xfc37, "ARABIC_LIGATURE_KAF_WITH_", ["ALEF_ISOLATED_FORM JEEM_ISOLATED_FORM",
    "HAH_ISOLATED_FORM KHAH_ISOLATED_FORM LAM_ISOLATED_FORM MEEM_ISOLATED_FORM",
    "ALEF_MAKSURA_ISOLATED_FORM YEH_ISOLATED_FORM"]⟩,
   ⟨0xfc3f, "ARABIC_LIGATURE_LAM_WITH_", ["JEEM_ISOLATED_FORM HAH_ISOLATED_FORM",
    "KHAH_ISOLATED_FORM MEEM_ISOLATED_FORM ALEF_MAKSURA_ISOLATED_FORM YEH_ISOLATED_FORM"]⟩,
   ⟨0xfc45, "ARABIC_LIGATURE_MEEM_WITH_", ["JEEM_ISOLATED_FORM HAH_ISOLATED_FORM",
    "KHAH_ISOLATED_FORM MEEM_ISOLATED_FORM ALEF_MAKSURA_ISOLATED_FORM YEH_ISOLATED_FORM"]⟩,
   ⟨0xfc4b, "ARABIC_LIGATURE_NOON_WITH_", ["JEEM_ISOLATED_FORM HAH_ISOLATED_FORM",
    "KHAH_ISOLATED_FORM MEEM_ISOLATED_FORM ALEF_MAKSURA_ISOLATED_FORM YEH_ISOLATED_FORM"]⟩,
   ⟨0xfc51, "ARABIC_LIGATURE_", ["HEH_WITH_JEEM_ISOLATED_FORM HEH_WITH_MEEM_ISOLATED_FORM",
    "HEH_WITH_ALEF_MAKSURA_ISOLATED_FORM HEH_WITH_YEH_ISOLATED_FORM YEH_WITH_JEEM_ISOLATED_FORM",
    "YEH_WITH_HAH_ISOLATED_FORM YEH_WITH_KHAH_ISOLATED_FORM YEH_WITH_MEEM_ISOLATED_FORM",
    "YEH_WITH_ALEF_MAKSURA_ISOLATED_FORM YEH_WITH_YEH_ISOLATED_FORM",
    "THAL_WITH_SUPERSCRIPT_ALEF_ISOLATED_FORM REH_WITH_SUPERSCRIPT_ALEF_ISOLATED_FORM",
    "ALEF_MAKSURA_WITH_SUPERSCRIPT_ALEF_ISOLATED_FORM"]⟩,
   ⟨0xfc5e, "ARABIC_LIGATURE_SHADDA_WITH_", ["DAMMATAN_ISOLATED_FORM KASRATAN_ISOLATED_FORM",
    "FATHA_ISOLATED_FORM DAMMA_ISOLATED_FORM KASRA_ISOLATED_FORM SUPERSCRIPT_ALEF_ISOLATED_FORM"]⟩,
   ⟨0xfc64, "ARABIC_LIGATURE_YEH_WITH_HAMZA_ABOVE_WITH_", ["REH_FINAL_FORM ZAIN_FINAL_FORM",
    "MEEM_FINAL_FORM NOON_FINAL_FORM ALEF_MAKSURA_FINAL_FORM YEH_FINAL_FORM"]⟩,
   ⟨0xfc6a, "ARABIC_LIGATURE_BEH_WITH_", ["REH_FINAL_FORM ZAIN_FINAL_FORM MEEM_FINAL_FORM",
    "NOON_FINAL_FORM ALEF_MAKSURA_FINAL_FORM YEH_FINAL_FORM"]⟩,
   ⟨0xfc70, "ARABIC_LIGATURE_TEH_WITH_", ["REH_FINAL_FORM ZAIN_FINAL_FORM MEEM_FINAL_FORM",
    "NOON_FINAL_FORM ALEF_MAKSURA_FINAL_FORM YEH_FINAL_FORM"]⟩,
   ⟨0xfc76, "ARABIC_LIGATURE_THEH_WITH_", ["REH_FINAL_FORM ZAIN_FINAL_FORM MEEM_FINAL_FORM",
    "NOON_FINAL_FORM ALEF_MAKSURA_FINAL_FORM YEH_FINAL_FORM"]⟩,
   ⟨0xfc7c, "ARABIC_LIGATURE_", ["FEH_WITH_ALEF_MAKSURA_FINAL_FORM FEH_WITH_YEH_FINAL_FORM",
    "QAF_WITH_ALEF_MAKSURA_FINAL_FORM QAF_WITH_YEH_FINAL_FORM KAF_WITH_ALEF_FINAL_FORM",
    "KAF_WITH_LAM_FINAL_FORM KAF_WITH_MEEM_FINAL_FORM KAF_WITH_ALEF_MAKSURA_FINAL_FORM",
    "KAF_WITH_YEH_FINAL_FORM LAM_WITH_MEEM_FINAL_FORM LAM_WITH_ALEF_MAKSURA_FINAL_FORM",
    "LAM_WITH_YEH_FINAL_FORM MEEM_WITH_ALEF_FINAL_FORM MEEM_WITH_MEEM_FINAL_FORM",
    "NOON_WITH_REH_FINAL_FORM NOON_WITH_ZAIN_FINAL_FORM NOON_WITH_MEEM_FINAL_FORM",
    "NOON_WITH_NOON_FINAL_FORM NOON_WITH_ALEF_MAKSURA_FINAL_FORM NOON_WITH_YEH_FINAL_FORM",
    "ALEF_MAKSURA_WITH_SUPERSCRIPT_ALEF_FINAL_FORM"]⟩,
   ⟨0xfc91, "ARABIC_LIGATURE_YEH_WITH_", ["REH_FINAL_FORM ZAIN_FINAL_FORM MEEM_FINAL_FORM",
    "NOON_FINAL_FORM ALEF_MAKSURA_FINAL_FORM YEH_FINAL_FORM"]⟩,
   ⟨0xfc97, "ARABIC_LIGATURE_YEH_WITH_HAMZA_ABOVE_WITH_", ["JEEM_INITIAL_FORM HAH_INITIAL_FORM",
    "KHAH_INITIAL_FORM MEEM_INITIAL_FORM HEH_INITIAL_FORM"]⟩,
   ⟨0xfc9c, "ARABIC_LIGATURE_", ["BEH_WITH_JEEM_INITIAL_FORM BEH_WITH_HAH_INITIAL_FORM",
    "BEH_WITH_KHAH_INITIAL_FORM BEH_WITH_MEEM_INITIAL_FORM BEH_WITH_HEH_INITIAL_FORM",
    "TEH_WITH_JEEM_INITIAL_FORM TEH_WITH_HAH_INITIAL_FORM TEH_WITH_KHAH_INITIAL_FORM",
    "TEH_WITH_MEEM_INITIAL_FORM TEH_WITH_HEH_INITIAL_FORM THEH_WITH_MEEM_INITIAL_FORM",
    "JEEM_WITH_HAH_INITIAL_FORM JEEM_WITH_MEEM_INITIAL_FORM HAH_WITH_JEEM_INITIAL_FORM",
    "HAH_WITH_MEEM_INITIAL_FORM KHAH_WITH_JEEM_INITIAL_FORM KHAH_WITH_MEEM_INITIAL_FORM",
    "SEEN_WITH_JEEM_INITIAL_FORM SEEN_WITH_HAH_INITIAL_FORM SEEN_WITH_KHAH_INITIAL_FORM",
    "SEEN_WITH_MEEM_INITIAL_FORM SAD_WITH_HAH_INITIAL_FORM SAD_WITH_KHAH_INITIAL_FORM",
    "SAD_WITH_MEEM_INITIAL_FORM DAD_WITH_JEEM_INITIAL_FORM DAD_WITH_HAH_INITIAL_FORM",
    "DAD_WITH_KHAH_INITIAL_FORM DAD_WITH_MEEM_INITIAL_FORM TAH_WITH_HAH_INITIAL_FORM",
    "ZAH_WITH_MEEM_INITIAL_FORM AIN_WITH_JEEM_INITIAL_FORM AIN_WITH_MEEM_INITIAL_FORM",
    "GHAIN_WITH_JEEM_INITIAL_FORM GHAIN_WITH_MEEM_INITIAL_FORM FEH_WITH_JEEM_INITIAL_FORM",
    "FEH_WITH_HAH_INITIAL_FORM FEH_WITH_KHAH_INITIAL_FORM FEH_WITH_MEEM_INITIAL_FORM",
    "QAF_WITH_HAH_INITIAL_FORM QAF_WITH_MEEM_INITIAL_FORM KAF_WITH_JEEM_INITIAL_FORM",
    "KAF_WITH_HAH_INITIAL_FORM KAF_WITH_KHAH_INITIAL_FORM KAF_WITH_LAM_INITIAL_FORM",
    "KAF_WITH_MEEM_INITIAL_FORM LAM_WITH_JEEM_INITIAL_FORM LAM_WITH_HAH_INITIAL_FORM",
    "LAM_WITH_KHAH_INITIAL_FORM LAM_WITH_MEEM_INITIAL_FORM LAM_WITH_HEH_INITIAL_FORM",
    "MEEM_WITH_JEEM_INITIAL_FORM MEEM_WITH_HAH_INITIAL_FORM MEEM_WITH_KHAH_INITIAL_FORM",
    "MEEM_WITH_MEEM_INITIAL_FORM NOON_WITH_JEEM_INITIAL_FORM NOON_WITH_HAH_INITIAL_FORM",
    "NOON_WITH_KHAH_INITIAL_FORM NOON_WITH_MEEM_INITIAL_FORM NOON_WITH_HEH_INITIAL_FORM",
    "HEH_WITH_JEEM_INITIAL_FORM HEH_WITH_MEEM_INITIAL_FORM",
    "HEH_WITH_SUPERSCRIPT_ALEF_INITIAL_FORM YEH_WITH_JEEM_INITIAL_FORM YEH_WITH_HAH_INITIAL_FORM",
    "YEH_WITH_KHAH_INITIAL_FORM YEH_WITH_MEEM_INITIAL_FORM YEH_WITH_HEH_INITIAL_FORM",
    "YEH_WITH_HAMZA_ABOVE_WITH_MEEM_MEDIAL_FORM YEH_WITH_HAMZA_ABOVE_WITH_HEH_MEDIAL_FORM",
    "BEH_WITH_MEEM_MEDIAL_FORM BEH_WITH_HEH_MEDIAL_FORM TEH_WITH_MEEM_MEDIAL_FORM",
    "TEH_WITH_HEH_MEDIAL_FORM THEH_WITH_MEEM_MEDIAL_FORM THEH_WITH_HEH_MEDIAL_FORM",
    "SEEN_WITH_MEEM_MEDIAL_FORM SEEN_WITH_HEH_MEDIAL_FORM SHEEN_WITH_MEEM_MEDIAL_FORM",
    "SHEEN_WITH_HEH_MEDIAL_FORM KAF_WITH_LAM_MEDIAL_FORM KAF_WITH_MEEM_MEDIAL_FORM",
    "LAM_WITH_MEEM_MEDIAL_FORM NOON_WITH_MEEM_MEDIAL_FORM NOON_WITH_HEH_MEDIAL_FORM",
    "YEH_WITH_MEEM_MEDIAL_FORM YEH_WITH_HEH_MEDIAL_FORM SHADDA_WITH_FATHA_MEDIAL_FORM",
    "SHADDA_WITH_DAMMA_MEDIAL_FORM SHADDA_WITH_KASRA_MEDIAL_FORM",
    "TAH_WITH_ALEF_MAKSURA_ISOLATED_FORM TAH_WITH_YEH_ISOLATED_FORM",
    "AIN_WITH_ALEF_MAKSURA_ISOLATED_FORM AIN_WITH_YEH_ISOLATED_FORM",
    "GHAIN_WITH_ALEF_MAKSURA_ISOLATED_FORM GHAIN_WITH_YEH_ISOLATED_FORM",
    "SEEN_WITH_ALEF_MAKSURA_ISOLATED_FORM SEEN_WITH_YEH_ISOLATED_FORM",
    "SHEEN_WITH_ALEF_MAKSURA_ISOLATED_FORM SHEEN_WITH_YEH_ISOLATED_FORM",
    "HAH_WITH_ALEF_MAKSURA_ISOLATED_FORM HAH_WITH_YEH_ISOLATED_FORM",
    "JEEM_WITH_ALEF_MAKSURA_ISOLATED_FORM JEEM_WITH_YEH_ISOLATED_FORM",
    "KHAH_WITH_ALEF_MAKSURA_ISOLATED_FORM KHAH_WITH_YEH_ISOLATED_FORM",
    "SAD_WITH_ALEF_MAKSURA_ISOLATED_FORM SAD_WITH_YEH_ISOLATED_FORM",
    "DAD_WITH_ALEF_MAKSURA_ISOLATED_FORM DAD_WITH_YEH_ISOLATED_FORM",
    "SHEEN_WITH_JEEM_ISOLATED_FORM SHEEN_WITH_HAH_ISOLATED_FORM SHEEN_WITH_KHAH_ISOLATED_FORM",
    "SHEEN_WITH_MEEM_ISOLATED_FORM SHEEN_WITH_REH_ISOLATED_FORM SEEN_WITH_REH_ISOLATED_FORM",
    "SAD_WITH_REH_ISOLATED_FORM DAD_WITH_REH_ISOLATED_FORM TAH_WITH_ALEF_MAKSURA_FINAL_FORM",
    "TAH_WITH_YEH_FINAL_FORM AIN_WITH_ALEF_MAKSURA_FINAL_FORM AIN_WITH_YEH_FINAL_FORM",
    "GHAIN_WITH_ALEF_MAKSURA_FINAL_FORM GHAIN_WITH_YEH_FINAL_FORM",
    "SEEN_WITH_ALEF_MAKSURA_FINAL_FORM SEEN_WITH_YEH_FINAL_FORM",
    "SHEEN_WITH_ALEF_MAKSURA_FINAL_FORM SHEEN_WITH_YEH_FINAL_FORM",
    "HAH_WITH_ALEF_MAKSURA_FINAL_FORM HAH_WITH_YEH_FINAL_FORM JEEM_WITH_ALEF_MAKSURA_FINAL_FORM",
    "JEEM_WITH_YEH_FINAL_FORM KHAH_WITH_ALEF_MAKSURA_FINAL_FORM KHAH_WITH_YEH_FINAL_FORM",
    "SAD_WITH_ALEF_MAKSURA_FINAL_FORM SAD_WITH_YEH_FINAL_FORM DAD_WITH_ALEF_MAKSURA_FINAL_FORM",
    "DAD_WITH_YEH_FINAL_FORM SHEEN_WITH_JEEM_FINAL_FORM SHEEN_WITH_HAH_FINAL_FORM",
    "SHEEN_WITH_KHAH_FINAL_FORM SHEEN_WITH_MEEM_FINAL_FORM SHEEN_WITH_REH_FINAL_FORM",
    "SEEN_WITH_REH_FINAL_FORM SAD_WITH_REH_FINAL_FORM DAD_WITH_REH_FINAL_FORM",
    "SHEEN_WITH_JEEM_INITIAL_FORM SHEEN_WITH_HAH_INITIAL_FORM SHEEN_WITH_KHAH_INITIAL_FORM",
    "SHEEN_WITH_MEEM_INITIAL_FORM SEEN_WITH_HEH_INITIAL_FORM SHEEN_WITH_HEH_INITIAL_FORM",
    "TAH_WITH_MEEM_INITIAL_FORM SEEN_WITH_JEEM_MEDIAL_FORM SEEN_WITH_HAH_MEDIAL_FORM",
    "SEEN_WITH_KHAH_MEDIAL_FORM SHEEN_WITH_JEEM_MEDIAL_FORM SHEEN_WITH_HAH_MEDIAL_FORM",
    "SHEEN_WITH_KHAH_MEDIAL_FORM TAH_WITH_MEEM_MEDIAL_FORM ZAH_WITH_MEEM_MEDIAL_FORM",
    "ALEF_WITH_FATHATAN_FINAL_FORM ALEF_WITH_FATHATAN_ISOLATED_FORM"]⟩,
   ⟨0xfd3e, "ORNATE_", ["LEFT_PARENTHESIS RIGHT_PARENTHESIS"]⟩,
   ⟨0xfd40, "ARABIC_LIGATURE_", ["RAHIMAHU_ALLAAH RADI_ALLAAHU_ANH RADI_ALLAAHU_ANHAA",
    "RADI_ALLAAHU_ANHUM RADI_ALLAAHU_ANHUMAA RADI_ALLAAHU_ANHUNNA SALLALLAAHU_ALAYHI_WA-AALIH",
    "ALAYHI_AS-SALAAM ALAYHIM_AS-SALAAM ALAYHIMAA_AS-SALAAM ALAYHI_AS-SALAATU_WAS-SALAAM",
    "QUDDISA_SIRRAH SALLALLAHU_ALAYHI_WAAALIHEE_WA-SALLAM ALAYHAA_AS-SALAAM TABAARAKA_WA-TAAALAA",
    "RAHIMAHUM_ALLAAH TEH_WITH_JEEM_WITH_MEEM_INITIAL_FORM TEH_WITH_HAH_WITH_JEEM_FINAL_FORM",
    "TEH_WITH_HAH_WITH_JEEM_INITIAL_FORM TEH_WITH_HAH_WITH_MEEM_INITIAL_FORM",
    "TEH_WITH_KHAH_WITH_MEEM_INITIAL_FORM TEH_WITH_MEEM_WITH_JEEM_INITIAL_FORM",
    "TEH_WITH_MEEM_WITH_HAH_INITIAL_FORM TEH_WITH_MEEM_WITH_KHAH_INITIAL_FORM",
    "JEEM_WITH_MEEM_WITH_HAH_FINAL_FORM JEEM_WITH_MEEM_WITH_HAH_INITIAL_FORM",
    "HAH_WITH_MEEM_WITH_YEH_FINAL_FORM HAH_WITH_MEEM_WITH_ALEF_MAKSURA_FINAL_FORM",
    "SEEN_WITH_HAH_WITH_JEEM_INITIAL_FORM SEEN_WITH_JEEM_WITH_HAH_INITIAL_FORM",
    "SEEN_WITH_JEEM_WITH_ALEF_MAKSURA_FINAL_FORM"]⟩,
   ⟨0xfd5f, "ARABIC_LIGATURE_SEEN_WITH_MEEM_WITH_", ["HAH_FINAL_FORM HAH_INITIAL_FORM",
    "JEEM_INITIAL_FORM MEEM_FINAL_FORM MEEM_INITIAL_FORM"]⟩,
   ⟨0xfd64, "ARABIC_LIGATURE_SAD_WITH_", ["HAH_WITH_HAH_FINAL_FORM HAH_WITH_HAH_INITIAL_FORM",
    "MEEM_WITH_MEEM_FINAL_FORM"]⟩,
   ⟨0xfd67, "ARABIC_LIGATURE_SHEEN_WITH_", ["HAH_WITH_MEEM_FINAL_FORM HAH_WITH_MEEM_INITIAL_FORM",
    "JEEM_WITH_YEH_FINAL_FORM MEEM_WITH_KHAH_FINAL_FORM MEEM_WITH_KHAH_INITIAL_FORM",
    "MEEM_WITH_MEEM_FINAL_FORM MEEM_WITH_MEEM_INITIAL_FORM"]⟩,
   ⟨0xfd6e, "ARABIC_LIGATURE_", ["DAD_WITH_HAH_WITH_ALEF_MAKSURA_FINAL_FORM",
    "DAD_WITH_KHAH_WITH_MEEM_FINAL_FORM DAD_WITH_KHAH_WITH_MEEM_INITIAL_FORM",
    "TAH_WITH_MEEM_WITH_HAH_FINAL_FORM TAH_WITH_MEEM_WITH_HAH_INITIAL_FORM",
    "TAH_WITH_MEEM_WITH_MEEM_INITIAL_FORM TAH_WITH_MEEM_WITH_YEH_FINAL_FORM",
    "AIN_WITH_JEEM_WITH_MEEM_FINAL_FORM AIN_WITH_MEEM_WITH_MEEM_FINAL_FORM",
    "AIN_WITH_MEEM_WITH_MEEM_INITIAL_FORM AIN_WITH_MEEM_WITH_ALEF_MAKSURA_FINAL_FORM",
    "GHAIN_WITH_MEEM_WITH_MEEM_FINAL_FORM GHAIN_WITH_MEEM_WITH_YEH_FINAL_FORM",
    "GHAIN_WITH_MEEM_WITH_ALEF_MAKSURA_FINAL_FORM FEH_WITH_KHAH_WITH_MEEM_FINAL_FORM",
    "FEH_WITH_KHAH_WITH_MEEM_INITIAL_FORM QAF_WITH_MEEM_WITH_HAH_FINAL_FORM",
    "QAF_WITH_MEEM_WITH_MEEM_FINAL_FORM"]⟩,
   ⟨0xfd80, "ARABIC_LIGATURE_LAM_WITH_", ["HAH_WITH_MEEM_FINAL_FORM HAH_WITH_YEH_FINAL_FORM",
    "HAH_WITH_ALEF_MAKSURA_FINAL_FORM JEEM_WITH_JEEM_INITIAL_FORM JEEM_WITH_JEEM_FINAL_FORM",
    "KHAH_WITH_MEEM_FINAL_FORM KHAH_WITH_MEEM_INITIAL_FORM MEEM_WITH_HAH_FINAL_FORM",
    "MEEM_WITH_HAH_INITIAL_FORM"]⟩,
   ⟨0xfd89, "ARABIC_LIGATURE_MEEM_WITH_", ["HAH_WITH_JEEM_INITIAL_FORM",
    "HAH_WITH_MEEM_INITIAL_FORM HAH_WITH_YEH_FINAL_FORM JEEM_WITH_HAH_INITIAL_FORM",
    "JEEM_WITH_MEEM_INITIAL_FORM KHAH_WITH_JEEM_INITIAL_FORM KHAH_WITH_MEEM_INITIAL_FORM � �",
    "JEEM_WITH_KHAH_INITIAL_FORM"]⟩,
   ⟨0xfd93, "ARABIC_LIGATURE_HEH_WITH_MEEM_WITH_", ["JEEM_INITIAL_FORM MEEM_INITIAL_FORM"]⟩,
   ⟨0xfd95, "ARABIC_LIGATURE_NOON_WITH_", ["HAH_WITH_MEEM_INITIAL_FORM",
    "HAH_WITH_ALEF_MAKSURA_FINAL_FORM JEEM_WITH_MEEM_FINAL_FORM JEEM_WITH_MEEM_INITIAL_FORM",
    "JEEM_WITH_ALEF_MAKSURA_FINAL_FORM MEEM_WITH_YEH_FINAL_FORM",
    "MEEM_WITH_ALEF_MAKSURA_FINAL_FORM"]⟩,
   ⟨0xfd9c, "ARABIC_LIGATURE_", ["YEH_WITH_MEEM_WITH_MEEM_FINAL_FORM",
    "YEH_WITH_MEEM_WITH_MEEM_INITIAL_FORM BEH_WITH_KHAH_WITH_YEH_FINAL_FORM",
    "TEH_WITH_JEEM_WITH_YEH_FINAL_FORM TEH_WITH_JEEM_WITH_ALEF_MAKSURA_FINAL_FORM",
    "TEH_WITH_KHAH_WITH_YEH_FINAL_FORM TEH_WITH_KHAH_WITH_ALEF_MAKSURA_FINAL_FORM",
    "TEH_WITH_MEEM_WITH_YEH_FINAL_FORM TEH_WITH_MEEM_WITH_ALEF_MAKSURA_FINAL_FORM",
    "JEEM_WITH_MEEM_WITH_YEH_FINAL_FORM JEEM_WITH_HAH_WITH_ALEF_MAKSURA_FINAL_FORM",
    "JEEM_WITH_MEEM_WITH_ALEF_MAKSURA_FINAL_FORM SEEN_WITH_KHAH_WITH_ALEF_MAKSURA_FINAL_FORM",
    "SAD_WITH_HAH_WITH_YEH_FINAL_FORM SHEEN_WITH_HAH_WITH_YEH_FINAL_FORM",
    "DAD_WITH_HAH_WITH_YEH_FINAL_FORM LAM_WITH_JEEM_WITH_YEH_FINAL_FORM",
    "LAM_WITH_MEEM_WITH_YEH_FINAL_FORM YEH_WITH_HAH_WITH_YEH_FINAL_FORM",
    "YEH_WITH_JEEM_WITH_YEH_FINAL_FORM YEH_WITH_MEEM_WITH_YEH_FINAL_FORM",
    "MEEM_WITH_MEEM_WITH_YEH_FINAL_FORM QAF_WITH_MEEM_WITH_YEH_FINAL_FORM",
    "NOON_WITH_HAH_WITH_YEH_FINAL_FORM QAF_WITH_MEEM_WITH_HAH_INITIAL_FORM",
    "LAM_WITH_HAH_WITH_MEEM_INITIAL_FORM AIN_WITH_MEEM_WITH_YEH_FINAL_FORM",
    "KAF_WITH_MEEM_WITH_YEH_FINAL_FORM NOON_WITH_JEEM_WITH_HAH_INITIAL_FORM",
    "MEEM_WITH_KHAH_WITH_YEH_FINAL_FORM LAM_WITH_JEEM_WITH_MEEM_INITIAL_FORM",
    "KAF_WITH_MEEM_WITH_MEEM_FINAL_FORM LAM_WITH_JEEM_WITH_MEEM_FINAL_FORM",
    "NOON_WITH_JEEM_WITH_HAH_FINAL_FORM JEEM_WITH_HAH_WITH_YEH_FINAL_FORM",
    "HAH_WITH_JEEM_WITH_YEH_FINAL_FORM MEEM_WITH_JEEM_WITH_YEH_FINAL_FORM",
    "FEH_WITH_MEEM_WITH_YEH_FINAL_FORM BEH_WITH_HAH_WITH_YEH_FINAL_FORM",
    "KAF_WITH_MEEM_WITH_MEEM_INITIAL_FORM AIN_WITH_JEEM_WITH_MEEM_INITIAL_FORM",
    "SAD_WITH_MEEM_WITH_MEEM_INITIAL_FORM SEEN_WITH_KHAH_WITH_YEH_FINAL_FORM",
    "NOON_WITH_JEEM_WITH_YEH_FINAL_FORM � � � � � � � SALAAMUHU_ALAYNAA"]⟩,
   ⟨0xfdf0, "ARABIC_LIGATURE_", ["SALLA_USED_AS_KORANIC_STOP_SIGN_ISOLATED_FORM",
    "QALA_USED_AS_KORANIC_STOP_SIGN_ISOLATED_FORM ALLAH_ISOLATED_FORM AKBAR_ISOLATED_FORM",
    "MOHAMMAD_ISOLATED_FORM SALAM_ISOLATED_FORM RASOUL_ISOLATED_FORM ALAYHE_ISOLATED_FORM",
    "WASALLAM_ISOLATED_FORM SALLA_ISOLATED_FORM SALLALLAHOU_ALAYHE_WASALLAM JALLAJALALOUHOU"]⟩,
   ⟨0xfdfc, "RIAL_", ["SIGN"]⟩,
   ⟨0xfdfd, "ARABIC_LIGATURE_", ["BISMILLAH_AR-RAHMAN_AR-RAHEEM SUBHAANAHU_WA_TAAALAA",
    "AZZA_WA_JALL"]⟩,
   ⟨0xfe70, "ARABIC_", ["FATHATAN_ISOLATED_FORM TATWEEL_WITH_FATHATAN_ABOVE",
    "DAMMATAN_ISOLATED_FORM TAIL_FRAGMENT KASRATAN_ISOLATED_FORM � FATHA_ISOLATED_FORM",
    "FATHA_MEDIAL_FORM DAMMA_ISOLATED_FORM DAMMA_MEDIAL_FORM KASRA_ISOLATED_FORM",
    "KASRA_MEDIAL_FORM SHADDA_ISOLATED_FORM SHADDA_MEDIAL_FORM SUKUN_ISOLATED_FORM",
    "SUKUN_MEDIAL_FORM"]⟩,
   ⟨0xfe80, "ARABIC_LETTER_", ["HAMZA_ISOLATED_FORM ALEF_WITH_MADDA_ABOVE_ISOLATED_FORM",
    "ALEF_WITH_MADDA_ABOVE_FINAL_FORM ALEF_WITH_HAMZA_ABOVE_ISOLATED_FORM",
    "ALEF_WITH_HAMZA_ABOVE_FINAL_FORM WAW_WITH_HAMZA_ABOVE_ISOLATED_FORM",
    "WAW_WITH_HAMZA_ABOVE_FINAL_FORM ALEF_WITH_HAMZA_BELOW_ISOLATED_FORM",
    "ALEF_WITH_HAMZA_BELOW_FINAL_FORM YEH_WITH_HAMZA_ABOVE_ISOLATED_FORM",
    "YEH_WITH_HAMZA_ABOVE_FINAL_FORM YEH_WITH_HAMZA_ABOVE_INITIAL_FORM",
    "YEH_WITH_HAMZA_ABOVE_MEDIAL_FORM ALEF_ISOLATED_FORM ALEF_FINAL_FORM BEH_ISOLATED_FORM",
    "BEH_FINAL_FORM BEH_INITIAL_FORM BEH_MEDIAL_FORM TEH_MARBUTA_ISOLATED_FORM",
    "TEH_MARBUTA_FINAL_FORM TEH_ISOLATED_FORM TEH_FINAL_FORM TEH_INITIAL_FORM TEH_MEDIAL_FORM",
    "THEH_ISOLATED_FORM THEH_FINAL_FORM THEH_INITIAL_FORM THEH_MEDIAL_FORM JEEM_ISOLATED_FORM",
    "JEEM_FINAL_FORM JEEM_INITIAL_FORM JEEM_MEDIAL_FORM HAH_ISOLATED_FORM HAH_FINAL_FORM",
    "HAH_INITIAL_FORM HAH_MEDIAL_FORM KHAH_ISOLATED_FORM KHAH_FINAL_FORM KHAH_INITIAL_FORM",
    "KHAH_MEDIAL_FORM DAL_ISOLATED_FORM DAL_FINAL_FORM THAL_ISOLATED_FORM THAL_FINAL_FORM",
    "REH_ISOLATED_FORM REH_FINAL_FORM ZAIN_ISOLATED_FORM ZAIN_FINAL_FORM SEEN_ISOLATED_FORM",
    "SEEN_FINAL_FORM SEEN_INITIAL_FORM SEEN_MEDIAL_FORM SHEEN_ISOLATED_FORM SHEEN_FINAL_FORM",
    "SHEEN_INITIAL_FORM SHEEN_MEDIAL_FORM SAD_ISOLATED_FORM SAD_FINAL_FORM SAD_INITIAL_FORM",
    "SAD_MEDIAL_FORM DAD_ISOLATED_FORM DAD_FINAL_FORM DAD_INITIAL_FORM DAD_MEDIAL_FORM",
    "TAH_ISOLATED_FORM TAH_FINAL_FORM TAH_INITIAL_FORM TAH_MEDIAL_FORM ZAH_ISOLATED_FORM",
    "ZAH_FINAL_FORM ZAH_INITIAL_FORM ZAH_MEDIAL_FORM AIN_ISOLATED_FORM AIN_FINAL_FORM",
    "AIN_INITIAL_FORM AIN_MEDIAL_FORM GHAIN_ISOLATED_FORM GHAIN_FINAL_FORM GHAIN_INITIAL_FORM",
    "GHAIN_MEDIAL_FORM FEH_ISOLATED_FORM FEH_FINAL_FORM FEH_INITIAL_FORM FEH_MEDIAL_FORM",
    "QAF_ISOLATED_FORM QAF_FINAL_FORM QAF_INITIAL_FORM QAF_MEDIAL_FORM KAF_ISOLATED_FORM",
    "KAF_FINAL_FORM KAF_INITIAL_FORM KAF_MEDIAL_FORM LAM_ISOLATED_FORM LAM_FINAL_FORM",
    "LAM_INITIAL_FORM LAM_MEDIAL_FORM MEEM_ISOLATED_FORM MEEM_FINAL_FORM MEEM_INITIAL_FORM",
    "MEEM_MEDIAL_FORM NOON_ISOLATED_FORM NOON_FINAL_FORM NOON_INITIAL_FORM NOON_MEDIAL_FORM",
    "HEH_ISOLATED_FORM HEH_FINAL_FORM HEH_INITIAL_FORM HEH_MEDIAL_FORM WAW_ISOLATED_FORM",
    "WAW_FINAL_FORM ALEF_MAKSURA_ISOLATED_FORM ALEF_MAKSURA_FINAL_FORM YEH_ISOLATED_FORM",
    "YEH_FINAL_FORM YEH_INITIAL_FORM YEH_MEDIAL_FORM"]⟩,
   ⟨0xfef5, "ARABIC_LIGATURE_LAM_WITH_ALEF_", ["WITH_MADDA_ABOVE_ISOLATED_FORM",
    "WITH_MADDA_ABOVE_FINAL_FORM WITH_HAMZA_ABOVE_ISOLATED_FORM WITH_HAMZA_ABOVE_FINAL_FORM",
    "WITH_HAMZA_BELOW_ISOLATED_FORM WITH_HAMZA_BELOW_FINAL_FORM ISOLATED_FORM FINAL_FORM"]⟩,
   ⟨0xfeff, "ZERO_WIDTH_NO-BREAK_", ["SPACE"]⟩,
   ⟨0x10e60, "RUMI_DIGIT_", ["ONE TWO THREE FOUR FIVE SIX SEVEN EIGHT NINE"]⟩,
   ⟨0x10e69, "RUMI_NUMBER_", ["TEN TWENTY THIRTY FORTY FIFTY SIXTY SEVENTY EIGHTY NINETY",
    "ONE_HUNDRED TWO_HUNDRED THREE_HUNDRED FOUR_HUNDRED FIVE_HUNDRED SIX_HUNDRED SEVEN_HUNDRED",
    "EIGHT_HUNDRED NINE_HUNDRED"]⟩,
   ⟨0x10e7b, "RUMI_FRACTION_", ["ONE_HALF ONE_QUARTER ONE_THIRD TWO_THIRDS"]⟩,
   ⟨0x1ec71, "INDIC_SIYAQ_NUMBER_", ["ONE TWO THREE FOUR FIVE SIX SEVEN EIGHT NINE TEN TWENTY",
    "THIRTY FORTY FIFTY SIXTY SEVENTY EIGHTY NINETY ONE_HUNDRED TWO_HUNDRED THREE_HUNDRED",
    "FOUR_HUNDRED FIVE_HUNDRED SIX_HUNDRED SEVEN_HUNDRED EIGHT_HUNDRED NINE_HUNDRED ONE_THOUSAND",
    "TWO_THOUSAND THREE_THOUSAND FOUR_THOUSAND FIVE_THOUSAND SIX_THOUSAND SEVEN_THOUSAND",
    "EIGHT_THOUSAND NINE_THOUSAND TEN_THOUSAND TWENTY_THOUSAND THIRTY_THOUSAND FORTY_THOUSAND",
    "FIFTY_THOUSAND SIXTY_THOUSAND SEVENTY_THOUSAND EIGHTY_THOUSAND NINETY_THOUSAND LAKH LAKHAN"]⟩,
   ⟨0x1eca0, "INDIC_SIYAQ_", ["LAKH_MARK NUMBER_KAROR NUMBER_KARORAN"]⟩,
   ⟨0x1eca3, "INDIC_SIYAQ_NUMBER_PREFIXED_", ["ONE TWO THREE FOUR FIVE SIX SEVEN EIGHT NINE"]⟩,
   ⟨0x1ecac, "INDIC_SIYAQ_", ["PLACEHOLDER FRACTION_ONE_QUARTER FRACTION_ONE_HALF",
    "FRACTION_THREE_QUARTERS RUPEE_MARK NUMBER_ALTERNATE_ONE NUMBER_ALTERNATE_TWO",
    "NUMBER_ALTERNATE_TEN_THOUSAND ALTERNATE_LAKH_MARK"]⟩,
   ⟨0x1ed01, "OTTOMAN_SIYAQ_NUMBER_", ["ONE TWO THREE FOUR FIVE SIX SEVEN EIGHT NINE TEN TWENTY",
    "THIRTY FORTY FIFTY SIXTY SEVENTY EIGHTY NINETY ONE_HUNDRED TWO_HUNDRED THREE_HUNDRED",
    "FOUR_HUNDRED FIVE_HUNDRED SIX_HUNDRED SEVEN_HUNDRED EIGHT_HUNDRED NINE_HUNDRED ONE_THOUSAND",
    "TWO_THOUSAND THREE_THOUSAND FOUR_THOUSAND FIVE_THOUSAND SIX_THOUSAND SEVEN_THOUSAND",
    "EIGHT_THOUSAND NINE_THOUSAND TEN_THOUSAND TWENTY_THOUSAND THIRTY_THOUSAND FORTY_THOUSAND",
    "FIFTY_THOUSAND SIXTY_THOUSAND SEVENTY_THOUSAND EIGHTY_THOUSAND NINETY_THOUSAND"]⟩,
   ⟨0x1ed2e, "OTTOMAN_SIYAQ_", ["MARRATAN"]⟩,
   ⟨0x1ed2f, "OTTOMAN_SIYAQ_ALTERNATE_NUMBER_", ["TWO THREE FOUR FIVE SIX SEVEN EIGHT NINE TEN",
    "FOUR_HUNDRED SIX_HUNDRED TWO_THOUSAND TEN_THOUSAND"]⟩,
   ⟨0x1ed3c, "OTTOMAN_SIYAQ_FRACTION_ONE_", ["HALF SIXTH"]⟩,
   ⟨0x1ee00, "ARABIC_MATHEMATICAL_", ["ALEF BEH JEEM DAL � WAW ZAIN HAH TAH YEH KAF LAM MEEM",
    "NOON SEEN AIN FEH SAD QAF REH SHEEN TEH THEH KHAH THAL DAD ZAH GHAIN DOTLESS_BEH",
    "DOTLESS_NOON DOTLESS_FEH DOTLESS_QAF"]⟩,
   ⟨0x1ee21, "ARABIC_MATHEMATICAL_INITIAL_", ["BEH JEEM � HEH � � HAH � YEH KAF LAM MEEM NOON",
    "SEEN AIN FEH SAD QAF � SHEEN TEH THEH KHAH � DAD � GHAIN"]⟩,
   ⟨0x1ee42, "ARABIC_MATHEMATICAL_TAILED_", ["JEEM � � � � HAH � YEH � LAM � NOON SEEN AIN � SAD",
    "QAF � SHEEN � � KHAH � DAD � GHAIN � DOTLESS_NOON � DOTLESS_QAF"]⟩,
   ⟨0x1ee61, "ARABIC_MATHEMATICAL_STRETCHED_", ["BEH JEEM � HEH � � HAH TAH YEH KAF � MEEM NOON",
    "SEEN AIN FEH SAD QAF � SHEEN TEH THEH KHAH � DAD ZAH GHAIN DOTLESS_BEH � DOTLESS_FEH"]⟩,
   ⟨0x1ee80, "ARABIC_MATHEMATICAL_LOOPED_", ["ALEF BEH JEEM DAL HEH WAW ZAIN HAH TAH YEH � LAM",
    "MEEM NOON SEEN AIN FEH SAD QAF REH SHEEN TEH THEH KHAH THAL DAD ZAH GHAIN"]⟩,
   ⟨0x1eea1, "ARABIC_MATHEMATICAL_DOUBLE-STRUCK_", ["BEH JEEM DAL � WAW ZAIN HAH TAH YEH � LAM",
    "MEEM NOON SEEN AIN FEH SAD QAF REH SHEEN TEH THEH KHAH THAL DAD ZAH GHAIN"]⟩,
   ⟨0x1eef0, "ARABIC_MATHEMATICAL_OPERATOR_", ["MEEM_WITH_HAH_WITH_TATWEEL HAH_WITH_DAL"]⟩]

end SqlRoutes.Text.Names
