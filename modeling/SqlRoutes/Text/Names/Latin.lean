import SqlRoutes.Text.Names.Series

namespace SqlRoutes.Text.Names

def latin : List Series :=
  [⟨0x0020, "", ["SPACE EXCLAMATION_MARK QUOTATION_MARK NUMBER_SIGN DOLLAR_SIGN PERCENT_SIGN",
    "AMPERSAND APOSTROPHE LEFT_PARENTHESIS RIGHT_PARENTHESIS ASTERISK PLUS_SIGN COMMA",
    "HYPHEN-MINUS FULL_STOP SOLIDUS"]⟩,
   ⟨0x0030, "DIGIT_", ["ZERO ONE TWO THREE FOUR FIVE SIX SEVEN EIGHT NINE"]⟩,
   ⟨0x003a, "", ["COLON SEMICOLON LESS-THAN_SIGN EQUALS_SIGN GREATER-THAN_SIGN QUESTION_MARK",
    "COMMERCIAL_AT"]⟩,
   ⟨0x0041, "LATIN_CAPITAL_LETTER_", ["A B C D E F G H I J K L M N O P Q R S T U V W X Y Z"]⟩,
   ⟨0x005b, "", ["LEFT_SQUARE_BRACKET REVERSE_SOLIDUS RIGHT_SQUARE_BRACKET CIRCUMFLEX_ACCENT",
    "LOW_LINE GRAVE_ACCENT"]⟩,
   ⟨0x0061, "LATIN_SMALL_LETTER_", ["A B C D E F G H I J K L M N O P Q R S T U V W X Y Z"]⟩,
   ⟨0x007b, "", ["LEFT_CURLY_BRACKET VERTICAL_LINE RIGHT_CURLY_BRACKET TILDE"]⟩,
   ⟨0x00a0, "", ["NO-BREAK_SPACE INVERTED_EXCLAMATION_MARK CENT_SIGN POUND_SIGN CURRENCY_SIGN",
    "YEN_SIGN BROKEN_BAR SECTION_SIGN DIAERESIS"]⟩,
   ⟨0x00a9, "COPY", ["RIGHT_SIGN"]⟩,
   ⟨0x00aa, "", ["FEMININE_ORDINAL_INDICATOR LEFT-POINTING_DOUBLE_ANGLE_QUOTATION_MARK NOT_SIGN",
    "SOFT_HYPHEN REGISTERED_SIGN MACRON DEGREE_SIGN PLUS-MINUS_SIGN SUPERSCRIPT_TWO",
    "SUPERSCRIPT_THREE ACUTE_ACCENT MICRO_SIGN PILCROW_SIGN MIDDLE_DOT CEDILLA SUPERSCRIPT_ONE",
    "MASCULINE_ORDINAL_INDICATOR RIGHT-POINTING_DOUBLE_ANGLE_QUOTATION_MARK",
    "VULGAR_FRACTION_ONE_QUARTER VULGAR_FRACTION_ONE_HALF VULGAR_FRACTION_THREE_QUARTERS",
    "INVERTED_QUESTION_MARK"]⟩,
   ⟨0x00c0, "LATIN_CAPITAL_LETTER_", ["A_WITH_GRAVE A_WITH_ACUTE A_WITH_CIRCUMFLEX A_WITH_TILDE",
    "A_WITH_DIAERESIS A_WITH_RING_ABOVE AE C_WITH_CEDILLA E_WITH_GRAVE E_WITH_ACUTE",
    "E_WITH_CIRCUMFLEX E_WITH_DIAERESIS I_WITH_GRAVE I_WITH_ACUTE I_WITH_CIRCUMFLEX",
    "I_WITH_DIAERESIS ETH N_WITH_TILDE O_WITH_GRAVE O_WITH_ACUTE O_WITH_CIRCUMFLEX O_WITH_TILDE",
    "O_WITH_DIAERESIS"]⟩,
   ⟨0x00d7, "MULTIPLICATION_", ["SIGN"]⟩,
   ⟨0x00d8, "LATIN_CAPITAL_LETTER_", ["O_WITH_STROKE U_WITH_GRAVE U_WITH_ACUTE U_WITH_CIRCUMFLEX",
    "U_WITH_DIAERESIS Y_WITH_ACUTE THORN"]⟩,
   ⟨0x00df, "LATIN_SMALL_LETTER_", ["SHARP_S A_WITH_GRAVE A_WITH_ACUTE A_WITH_CIRCUMFLEX",
    "A_WITH_TILDE A_WITH_DIAERESIS A_WITH_RING_ABOVE AE C_WITH_CEDILLA E_WITH_GRAVE E_WITH_ACUTE",
    "E_WITH_CIRCUMFLEX E_WITH_DIAERESIS I_WITH_GRAVE I_WITH_ACUTE I_WITH_CIRCUMFLEX",
    "I_WITH_DIAERESIS ETH N_WITH_TILDE O_WITH_GRAVE O_WITH_ACUTE O_WITH_CIRCUMFLEX O_WITH_TILDE",
    "O_WITH_DIAERESIS"]⟩,
   ⟨0x00f7, "DIVISION_", ["SIGN"]⟩,
   ⟨0x00f8, "LATIN_SMALL_LETTER_", ["O_WITH_STROKE U_WITH_GRAVE U_WITH_ACUTE U_WITH_CIRCUMFLEX",
    "U_WITH_DIAERESIS Y_WITH_ACUTE THORN Y_WITH_DIAERESIS"]⟩,
   ⟨0x0100, "LATIN_", ["CAPITAL_LETTER_A_WITH_MACRON SMALL_LETTER_A_WITH_MACRON",
    "CAPITAL_LETTER_A_WITH_BREVE SMALL_LETTER_A_WITH_BREVE CAPITAL_LETTER_A_WITH_OGONEK",
    "SMALL_LETTER_A_WITH_OGONEK CAPITAL_LETTER_C_WITH_ACUTE SMALL_LETTER_C_WITH_ACUTE",
    "CAPITAL_LETTER_C_WITH_CIRCUMFLEX SMALL_LETTER_C_WITH_CIRCUMFLEX",
    "CAPITAL_LETTER_C_WITH_DOT_ABOVE SMALL_LETTER_C_WITH_DOT_ABOVE CAPITAL_LETTER_C_WITH_CARON",
    "SMALL_LETTER_C_WITH_CARON CAPITAL_LETTER_D_WITH_CARON SMALL_LETTER_D_WITH_CARON",
    "CAPITAL_LETTER_D_WITH_STROKE SMALL_LETTER_D_WITH_STROKE CAPITAL_LETTER_E_WITH_MACRON",
    "SMALL_LETTER_E_WITH_MACRON CAPITAL_LETTER_E_WITH_BREVE SMALL_LETTER_E_WITH_BREVE",
    "CAPITAL_LETTER_E_WITH_DOT_ABOVE SMALL_LETTER_E_WITH_DOT_ABOVE CAPITAL_LETTER_E_WITH_OGONEK",
    "SMALL_LETTER_E_WITH_OGONEK CAPITAL_LETTER_E_WITH_CARON SMALL_LETTER_E_WITH_CARON",
    "CAPITAL_LETTER_G_WITH_CIRCUMFLEX SMALL_LETTER_G_WITH_CIRCUMFLEX CAPITAL_LETTER_G_WITH_BREVE",
    "SMALL_LETTER_G_WITH_BREVE CAPITAL_LETTER_G_WITH_DOT_ABOVE SMALL_LETTER_G_WITH_DOT_ABOVE",
    "CAPITAL_LETTER_G_WITH_CEDILLA SMALL_LETTER_G_WITH_CEDILLA CAPITAL_LETTER_H_WITH_CIRCUMFLEX",
    "SMALL_LETTER_H_WITH_CIRCUMFLEX CAPITAL_LETTER_H_WITH_STROKE SMALL_LETTER_H_WITH_STROKE",
    "CAPITAL_LETTER_I_WITH_TILDE SMALL_LETTER_I_WITH_TILDE CAPITAL_LETTER_I_WITH_MACRON",
    "SMALL_LETTER_I_WITH_MACRON CAPITAL_LETTER_I_WITH_BREVE SMALL_LETTER_I_WITH_BREVE",
    "CAPITAL_LETTER_I_WITH_OGONEK SMALL_LETTER_I_WITH_OGONEK CAPITAL_LETTER_I_WITH_DOT_ABOVE",
    "SMALL_LETTER_DOTLESS_I CAPITAL_LIGATURE_IJ SMALL_LIGATURE_IJ",
    "CAPITAL_LETTER_J_WITH_CIRCUMFLEX SMALL_LETTER_J_WITH_CIRCUMFLEX",
    "CAPITAL_LETTER_K_WITH_CEDILLA SMALL_LETTER_K_WITH_CEDILLA SMALL_LETTER_KRA",
    "CAPITAL_LETTER_L_WITH_ACUTE SMALL_LETTER_L_WITH_ACUTE CAPITAL_LETTER_L_WITH_CEDILLA",
    "SMALL_LETTER_L_WITH_CEDILLA CAPITAL_LETTER_L_WITH_CARON SMALL_LETTER_L_WITH_CARON",
    "CAPITAL_LETTER_L_WITH_MIDDLE_DOT SMALL_LETTER_L_WITH_MIDDLE_DOT",
    "CAPITAL_LETTER_L_WITH_STROKE SMALL_LETTER_L_WITH_STROKE CAPITAL_LETTER_N_WITH_ACUTE",
    "SMALL_LETTER_N_WITH_ACUTE CAPITAL_LETTER_N_WITH_CEDILLA SMALL_LETTER_N_WITH_CEDILLA",
    "CAPITAL_LETTER_N_WITH_CARON SMALL_LETTER_N_WITH_CARON SMALL_LETTER_N_PRECEDED_BY_APOSTROPHE",
    "CAPITAL_LETTER_ENG SMALL_LETTER_ENG CAPITAL_LETTER_O_WITH_MACRON SMALL_LETTER_O_WITH_MACRON",
    "CAPITAL_LETTER_O_WITH_BREVE SMALL_LETTER_O_WITH_BREVE CAPITAL_LETTER_O_WITH_DOUBLE_ACUTE",
    "SMALL_LETTER_O_WITH_DOUBLE_ACUTE CAPITAL_LIGATURE_OE SMALL_LIGATURE_OE",
    "CAPITAL_LETTER_R_WITH_ACUTE SMALL_LETTER_R_WITH_ACUTE CAPITAL_LETTER_R_WITH_CEDILLA",
    "SMALL_LETTER_R_WITH_CEDILLA CAPITAL_LETTER_R_WITH_CARON SMALL_LETTER_R_WITH_CARON",
    "CAPITAL_LETTER_S_WITH_ACUTE SMALL_LETTER_S_WITH_ACUTE CAPITAL_LETTER_S_WITH_CIRCUMFLEX",
    "SMALL_LETTER_S_WITH_CIRCUMFLEX CAPITAL_LETTER_S_WITH_CEDILLA SMALL_LETTER_S_WITH_CEDILLA",
    "CAPITAL_LETTER_S_WITH_CARON SMALL_LETTER_S_WITH_CARON CAPITAL_LETTER_T_WITH_CEDILLA",
    "SMALL_LETTER_T_WITH_CEDILLA CAPITAL_LETTER_T_WITH_CARON SMALL_LETTER_T_WITH_CARON",
    "CAPITAL_LETTER_T_WITH_STROKE SMALL_LETTER_T_WITH_STROKE CAPITAL_LETTER_U_WITH_TILDE",
    "SMALL_LETTER_U_WITH_TILDE CAPITAL_LETTER_U_WITH_MACRON SMALL_LETTER_U_WITH_MACRON",
    "CAPITAL_LETTER_U_WITH_BREVE SMALL_LETTER_U_WITH_BREVE CAPITAL_LETTER_U_WITH_RING_ABOVE",
    "SMALL_LETTER_U_WITH_RING_ABOVE CAPITAL_LETTER_U_WITH_DOUBLE_ACUTE",
    "SMALL_LETTER_U_WITH_DOUBLE_ACUTE CAPITAL_LETTER_U_WITH_OGONEK SMALL_LETTER_U_WITH_OGONEK",
    "CAPITAL_LETTER_W_WITH_CIRCUMFLEX SMALL_LETTER_W_WITH_CIRCUMFLEX",
    "CAPITAL_LETTER_Y_WITH_CIRCUMFLEX SMALL_LETTER_Y_WITH_CIRCUMFLEX",
    "CAPITAL_LETTER_Y_WITH_DIAERESIS CAPITAL_LETTER_Z_WITH_ACUTE SMALL_LETTER_Z_WITH_ACUTE",
    "CAPITAL_LETTER_Z_WITH_DOT_ABOVE SMALL_LETTER_Z_WITH_DOT_ABOVE CAPITAL_LETTER_Z_WITH_CARON",
    "SMALL_LETTER_Z_WITH_CARON SMALL_LETTER_LONG_S SMALL_LETTER_B_WITH_STROKE",
    "CAPITAL_LETTER_B_WITH_HOOK CAPITAL_LETTER_B_WITH_TOPBAR SMALL_LETTER_B_WITH_TOPBAR",
    "CAPITAL_LETTER_TONE_SIX SMALL_LETTER_TONE_SIX CAPITAL_LETTER_OPEN_O",
    "CAPITAL_LETTER_C_WITH_HOOK SMALL_LETTER_C_WITH_HOOK CAPITAL_LETTER_AFRICAN_D",
    "CAPITAL_LETTER_D_WITH_HOOK CAPITAL_LETTER_D_WITH_TOPBAR SMALL_LETTER_D_WITH_TOPBAR",
    "SMALL_LETTER_TURNED_DELTA CAPITAL_LETTER_REVERSED_E CAPITAL_LETTER_SCHWA",
    "CAPITAL_LETTER_OPEN_E CAPITAL_LETTER_F_WITH_HOOK SMALL_LETTER_F_WITH_HOOK",
    "CAPITAL_LETTER_G_WITH_HOOK CAPITAL_LETTER_GAMMA SMALL_LETTER_HV CAPITAL_LETTER_IOTA",
    "CAPITAL_LETTER_I_WITH_STROKE CAPITAL_LETTER_K_WITH_HOOK SMALL_LETTER_K_WITH_HOOK",
    "SMALL_LETTER_L_WITH_BAR SMALL_LETTER_LAMBDA_WITH_STROKE CAPITAL_LETTER_TURNED_M",
    "CAPITAL_LETTER_N_WITH_LEFT_HOOK SMALL_LETTER_N_WITH_LONG_RIGHT_LEG",
    "CAPITAL_LETTER_O_WITH_MIDDLE_TILDE CAPITAL_LETTER_O_WITH_HORN SMALL_LETTER_O_WITH_HORN",
    "CAPITAL_LETTER_OI SMALL_LETTER_OI CAPITAL_LETTER_P_WITH_HOOK SMALL_LETTER_P_WITH_HOOK",
    "LETTER_YR CAPITAL_LETTER_TONE_TWO SMALL_LETTER_TONE_TWO CAPITAL_LETTER_ESH",
    "LETTER_REVERSED_ESH_LOOP SMALL_LETTER_T_WITH_PALATAL_HOOK CAPITAL_LETTER_T_WITH_HOOK",
    "SMALL_LETTER_T_WITH_HOOK CAPITAL_LETTER_T_WITH_RETROFLEX_HOOK CAPITAL_LETTER_U_WITH_HORN",
    "SMALL_LETTER_U_WITH_HORN CAPITAL_LETTER_UPSILON CAPITAL_LETTER_V_WITH_HOOK",
    "CAPITAL_LETTER_Y_WITH_HOOK SMALL_LETTER_Y_WITH_HOOK CAPITAL_LETTER_Z_WITH_STROKE",
    "SMALL_LETTER_Z_WITH_STROKE CAPITAL_LETTER_EZH CAPITAL_LETTER_EZH_REVERSED",
    "SMALL_LETTER_EZH_REVERSED SMALL_LETTER_EZH_WITH_TAIL LETTER_TWO_WITH_STROKE",
    "CAPITAL_LETTER_TONE_FIVE SMALL_LETTER_TONE_FIVE LETTER_INVERTED_GLOTTAL_STOP_WITH_STROKE",
    "LETTER_WYNN LETTER_DENTAL_CLICK LETTER_LATERAL_CLICK LETTER_ALVEOLAR_CLICK",
    "LETTER_RETROFLEX_CLICK CAPITAL_LETTER_DZ_WITH_CARON",
    "CAPITAL_LETTER_D_WITH_SMALL_LETTER_Z_WITH_CARON SMALL_LETTER_DZ_WITH_CARON",
    "CAPITAL_LETTER_LJ CAPITAL_LETTER_L_WITH_SMALL_LETTER_J SMALL_LETTER_LJ CAPITAL_LETTER_NJ",
    "CAPITAL_LETTER_N_WITH_SMALL_LETTER_J SMALL_LETTER_NJ CAPITAL_LETTER_A_WITH_CARON",
    "SMALL_LETTER_A_WITH_CARON CAPITAL_LETTER_I_WITH_CARON SMALL_LETTER_I_WITH_CARON",
    "CAPITAL_LETTER_O_WITH_CARON SMALL_LETTER_O_WITH_CARON CAPITAL_LETTER_U_WITH_CARON",
    "SMALL_LETTER_U_WITH_CARON CAPITAL_LETTER_U_WITH_DIAERESIS_AND_MACRON",
    "SMALL_LETTER_U_WITH_DIAERESIS_AND_MACRON CAPITAL_LETTER_U_WITH_DIAERESIS_AND_ACUTE",
    "SMALL_LETTER_U_WITH_DIAERESIS_AND_ACUTE CAPITAL_LETTER_U_WITH_DIAERESIS_AND_CARON",
    "SMALL_LETTER_U_WITH_DIAERESIS_AND_CARON CAPITAL_LETTER_U_WITH_DIAERESIS_AND_GRAVE",
    "SMALL_LETTER_U_WITH_DIAERESIS_AND_GRAVE SMALL_LETTER_TURNED_E",
    "CAPITAL_LETTER_A_WITH_DIAERESIS_AND_MACRON SMALL_LETTER_A_WITH_DIAERESIS_AND_MACRON",
    "CAPITAL_LETTER_A_WITH_DOT_ABOVE_AND_MACRON SMALL_LETTER_A_WITH_DOT_ABOVE_AND_MACRON",
    "CAPITAL_LETTER_AE_WITH_MACRON SMALL_LETTER_AE_WITH_MACRON CAPITAL_LETTER_G_WITH_STROKE",
    "SMALL_LETTER_G_WITH_STROKE CAPITAL_LETTER_G_WITH_CARON SMALL_LETTER_G_WITH_CARON",
    "CAPITAL_LETTER_K_WITH_CARON SMALL_LETTER_K_WITH_CARON CAPITAL_LETTER_O_WITH_OGONEK",
    "SMALL_LETTER_O_WITH_OGONEK CAPITAL_LETTER_O_WITH_OGONEK_AND_MACRON",
    "SMALL_LETTER_O_WITH_OGONEK_AND_MACRON CAPITAL_LETTER_EZH_WITH_CARON",
    "SMALL_LETTER_EZH_WITH_CARON SMALL_LETTER_J_WITH_CARON CAPITAL_LETTER_DZ",
    "CAPITAL_LETTER_D_WITH_SMALL_LETTER_Z SMALL_LETTER_DZ CAPITAL_LETTER_G_WITH_ACUTE",
    "SMALL_LETTER_G_WITH_ACUTE CAPITAL_LETTER_HWAIR CAPITAL_LETTER_WYNN",
    "CAPITAL_LETTER_N_WITH_GRAVE SMALL_LETTER_N_WITH_GRAVE",
    "CAPITAL_LETTER_A_WITH_RING_ABOVE_AND_ACUTE SMALL_LETTER_A_WITH_RING_ABOVE_AND_ACUTE",
    "CAPITAL_LETTER_AE_WITH_ACUTE SMALL_LETTER_AE_WITH_ACUTE",
    "CAPITAL_LETTER_O_WITH_STROKE_AND_ACUTE SMALL_LETTER_O_WITH_STROKE_AND_ACUTE",
    "CAPITAL_LETTER_A_WITH_DOUBLE_GRAVE SMALL_LETTER_A_WITH_DOUBLE_GRAVE",
    "CAPITAL_LETTER_A_WITH_INVERTED_BREVE SMALL_LETTER_A_WITH_INVERTED_BREVE",
    "CAPITAL_LETTER_E_WITH_DOUBLE_GRAVE SMALL_LETTER_E_WITH_DOUBLE_GRAVE",
    "CAPITAL_LETTER_E_WITH_INVERTED_BREVE SMALL_LETTER_E_WITH_INVERTED_BREVE",
    "CAPITAL_LETTER_I_WITH_DOUBLE_GRAVE SMALL_LETTER_I_WITH_DOUBLE_GRAVE",
    "CAPITAL_LETTER_I_WITH_INVERTED_BREVE SMALL_LETTER_I_WITH_INVERTED_BREVE",
    "CAPITAL_LETTER_O_WITH_DOUBLE_GRAVE SMALL_LETTER_O_WITH_DOUBLE_GRAVE",
    "CAPITAL_LETTER_O_WITH_INVERTED_BREVE SMALL_LETTER_O_WITH_INVERTED_BREVE",
    "CAPITAL_LETTER_R_WITH_DOUBLE_GRAVE SMALL_LETTER_R_WITH_DOUBLE_GRAVE",
    "CAPITAL_LETTER_R_WITH_INVERTED_BREVE SMALL_LETTER_R_WITH_INVERTED_BREVE",
    "CAPITAL_LETTER_U_WITH_DOUBLE_GRAVE SMALL_LETTER_U_WITH_DOUBLE_GRAVE",
    "CAPITAL_LETTER_U_WITH_INVERTED_BREVE SMALL_LETTER_U_WITH_INVERTED_BREVE",
    "CAPITAL_LETTER_S_WITH_COMMA_BELOW SMALL_LETTER_S_WITH_COMMA_BELOW",
    "CAPITAL_LETTER_T_WITH_COMMA_BELOW SMALL_LETTER_T_WITH_COMMA_BELOW CAPITAL_LETTER_YOGH",
    "SMALL_LETTER_YOGH CAPITAL_LETTER_H_WITH_CARON SMALL_LETTER_H_WITH_CARON",
    "CAPITAL_LETTER_N_WITH_LONG_RIGHT_LEG SMALL_LETTER_D_WITH_CURL CAPITAL_LETTER_OU",
    "SMALL_LETTER_OU CAPITAL_LETTER_Z_WITH_HOOK SMALL_LETTER_Z_WITH_HOOK",
    "CAPITAL_LETTER_A_WITH_DOT_ABOVE SMALL_LETTER_A_WITH_DOT_ABOVE CAPITAL_LETTER_E_WITH_CEDILLA",
    "SMALL_LETTER_E_WITH_CEDILLA CAPITAL_LETTER_O_WITH_DIAERESIS_AND_MACRON",
    "SMALL_LETTER_O_WITH_DIAERESIS_AND_MACRON CAPITAL_LETTER_O_WITH_TILDE_AND_MACRON",
    "SMALL_LETTER_O_WITH_TILDE_AND_MACRON CAPITAL_LETTER_O_WITH_DOT_ABOVE",
    "SMALL_LETTER_O_WITH_DOT_ABOVE CAPITAL_LETTER_O_WITH_DOT_ABOVE_AND_MACRON",
    "SMALL_LETTER_O_WITH_DOT_ABOVE_AND_MACRON CAPITAL_LETTER_Y_WITH_MACRON"]⟩,
   ⟨0x0233, "LATIN_SMALL_LETTER_", ["Y_WITH_MACRON L_WITH_CURL N_WITH_CURL T_WITH_CURL DOTLESS_J",
    "DB_DIGRAPH QP_DIGRAPH"]⟩,
   ⟨0x023a, "LATIN_", ["CAPITAL_LETTER_A_WITH_STROKE CAPITAL_LETTER_C_WITH_STROKE",
    "SMALL_LETTER_C_WITH_STROKE CAPITAL_LETTER_L_WITH_BAR CAPITAL_LETTER_T_WITH_DIAGONAL_STROKE",
    "SMALL_LETTER_S_WITH_SWASH_TAIL SMALL_LETTER_Z_WITH_SWASH_TAIL CAPITAL_LETTER_GLOTTAL_STOP",
    "SMALL_LETTER_GLOTTAL_STOP CAPITAL_LETTER_B_WITH_STROKE CAPITAL_LETTER_U_BAR",
    "CAPITAL_LETTER_TURNED_V CAPITAL_LETTER_E_WITH_STROKE SMALL_LETTER_E_WITH_STROKE",
    "CAPITAL_LETTER_J_WITH_STROKE SMALL_LETTER_J_WITH_STROKE",
    "CAPITAL_LETTER_SMALL_Q_WITH_HOOK_TAIL SMALL_LETTER_Q_WITH_HOOK_TAIL",
    "CAPITAL_LETTER_R_WITH_STROKE SMALL_LETTER_R_WITH_STROKE CAPITAL_LETTER_Y_WITH_STROKE"]⟩,
   ⟨0x024f, "LATIN_SMALL_LETTER_", ["Y_WITH_STROKE TURNED_A ALPHA TURNED_ALPHA B_WITH_HOOK",
    "OPEN_O C_WITH_CURL D_WITH_TAIL D_WITH_HOOK REVERSED_E SCHWA SCHWA_WITH_HOOK OPEN_E",
    "REVERSED_OPEN_E REVERSED_OPEN_E_WITH_HOOK CLOSED_REVERSED_OPEN_E DOTLESS_J_WITH_STROKE",
    "G_WITH_HOOK SCRIPT_G"]⟩,
   ⟨0x0262, "LATIN_LETTER_SMALL_CAPITAL_", ["G"]⟩,
   ⟨0x0263, "LATIN_SMALL_LETTER_", ["GAMMA RAMS_HORN TURNED_H H_WITH_HOOK HENG_WITH_HOOK",
    "I_WITH_STROKE IOTA"]⟩,
   ⟨0x026a, "LATIN_LETTER_SMALL_CAPITAL_", ["I"]⟩,
   ⟨0x026b, "LATIN_SMALL_LETTER_", ["L_WITH_MIDDLE_TILDE L_WITH_BELT L_WITH_RETROFLEX_HOOK LEZH",
    "TURNED_M TURNED_M_WITH_LONG_LEG M_WITH_HOOK N_WITH_LEFT_HOOK N_WITH_RETROFLEX_HOOK"]⟩,
   ⟨0x0274, "LATIN_", ["LETTER_SMALL_CAPITAL_N SMALL_LETTER_BARRED_O LETTER_SMALL_CAPITAL_OE"]⟩,
   ⟨0x0277, "LATIN_SMALL_LETTER_", ["CLOSED_OMEGA PHI TURNED_R TURNED_R_WITH_LONG_LEG",
    "TURNED_R_WITH_HOOK R_WITH_LONG_LEG R_WITH_TAIL R_WITH_FISHHOOK REVERSED_R_WITH_FISHHOOK"]⟩,
   ⟨0x0280, "LATIN_LETTER_SMALL_CAPITAL_", ["R INVERTED_R"]⟩,
   ⟨0x0282, "LATIN_SMALL_LETTER_", ["S_WITH_HOOK ESH DOTLESS_J_WITH_STROKE_AND_HOOK",
    "SQUAT_REVERSED_ESH ESH_WITH_CURL TURNED_T T_WITH_RETROFLEX_HOOK U_BAR UPSILON V_WITH_HOOK",
    "TURNED_V TURNED_W TURNED_Y"]⟩,
   ⟨0x028f, "LATIN_", ["LETTER_SMALL_CAPITAL_Y SMALL_LETTER_Z_WITH_RETROFLEX_HOOK",
    "SMALL_LETTER_Z_WITH_CURL SMALL_LETTER_EZH SMALL_LETTER_EZH_WITH_CURL LETTER_GLOTTAL_STOP",
    "LETTER_PHARYNGEAL_VOICED_FRICATIVE LETTER_INVERTED_GLOTTAL_STOP LETTER_STRETCHED_C",
    "LETTER_BILABIAL_CLICK LETTER_SMALL_CAPITAL_B SMALL_LETTER_CLOSED_OPEN_E",
    "LETTER_SMALL_CAPITAL_G_WITH_HOOK LETTER_SMALL_CAPITAL_H SMALL_LETTER_J_WITH_CROSSED-TAIL",
    "SMALL_LETTER_TURNED_K LETTER_SMALL_CAPITAL_L SMALL_LETTER_Q_WITH_HOOK",
    "LETTER_GLOTTAL_STOP_WITH_STROKE LETTER_REVERSED_GLOTTAL_STOP_WITH_STROKE"]⟩,
   ⟨0x02a3, "LATIN_SMALL_LETTER_", ["DZ_DIGRAPH DEZH_DIGRAPH DZ_DIGRAPH_WITH_CURL TS_DIGRAPH",
    "TESH_DIGRAPH TC_DIGRAPH_WITH_CURL FENG_DIGRAPH LS_DIGRAPH LZ_DIGRAPH"]⟩,
   ⟨0x02ac, "LATIN_LETTER_", ["BILABIAL_PERCUSSIVE BIDENTAL_PERCUSSIVE"]⟩,
   ⟨0x02ae, "LATIN_SMALL_LETTER_TURNED_H_WITH_", ["FISHHOOK FISHHOOK_AND_TAIL"]⟩,
   ⟨0x02b0, "MODIFIER_LETTER_SMALL_", ["H H_WITH_HOOK J R TURNED_R TURNED_R_WITH_HOOK",
    "CAPITAL_INVERTED_R W Y"]⟩,
   ⟨0x02b9, "MODIFIER_LETTER_", ["PRIME DOUBLE_PRIME TURNED_COMMA APOSTROPHE REVERSED_COMMA",
    "RIGHT_HALF_RING LEFT_HALF_RING GLOTTAL_STOP REVERSED_GLOTTAL_STOP LEFT_ARROWHEAD",
    "RIGHT_ARROWHEAD UP_ARROWHEAD DOWN_ARROWHEAD CIRCUMFLEX_ACCENT"]⟩,
   ⟨0x02c7, "", ["CARON"]⟩,
   ⟨0x02c8, "MODIFIER_LETTER_", ["VERTICAL_LINE MACRON ACUTE_ACCENT GRAVE_ACCENT",
    "LOW_VERTICAL_LINE LOW_MACRON LOW_GRAVE_ACCENT LOW_ACUTE_ACCENT TRIANGULAR_COLON",
    "HALF_TRIANGULAR_COLON CENTRED_RIGHT_HALF_RING CENTRED_LEFT_HALF_RING UP_TACK DOWN_TACK",
    "PLUS_SIGN MINUS_SIGN"]⟩,
   ⟨0x02d8, "", ["BREVE DOT_ABOVE RING_ABOVE OGONEK SMALL_TILDE DOUBLE_ACUTE_ACCENT"]⟩,
   ⟨0x02de, "MODIFIER_LETTER_", ["RHOTIC_HOOK CROSS_ACCENT SMALL_GAMMA SMALL_L SMALL_S SMALL_X",
    "SMALL_REVERSED_GLOTTAL_STOP EXTRA-HIGH_TONE_BAR HIGH_TONE_BAR MID_TONE_BAR LOW_TONE_BAR",
    "EXTRA-LOW_TONE_BAR YIN_DEPARTING_TONE_MARK YANG_DEPARTING_TONE_MARK VOICING UNASPIRATED",
    "DOUBLE_APOSTROPHE LOW_DOWN_ARROWHEAD LOW_UP_ARROWHEAD LOW_LEFT_ARROWHEAD",
    "LOW_RIGHT_ARROWHEAD LOW_RING MIDDLE_GRAVE_ACCENT MIDDLE_DOUBLE_GRAVE_ACCENT",
    "MIDDLE_DOUBLE_ACUTE_ACCENT LOW_TILDE RAISED_COLON BEGIN_HIGH_TONE END_HIGH_TONE",
    "BEGIN_LOW_TONE END_LOW_TONE SHELF OPEN_SHELF LOW_LEFT_ARROW"]⟩,
   ⟨0x1d00, "LATIN_", ["LETTER_SMALL_CAPITAL_A LETTER_SMALL_CAPITAL_AE SMALL_LETTER_TURNED_AE"]⟩,
   ⟨0x1d03, "LATIN_LETTER_SMALL_CAPITAL_", ["BARRED_B C D ETH E"]⟩,
   ⟨0x1d08, "LATIN_SMALL_LETTER_TURNED_", ["OPEN_E I"]⟩,
   ⟨0x1d0a, "LATIN_LETTER_SMALL_CAPITAL_", ["J K L_WITH_STROKE M REVERSED_N O OPEN_O"]⟩,
   ⟨0x1d11, "LATIN_SMALL_LETTER_SIDEWAYS_", ["O OPEN_O O_WITH_STROKE"]⟩,
   ⟨0x1d14, "LATIN_", ["SMALL_LETTER_TURNED_OE LETTER_SMALL_CAPITAL_OU SMALL_LETTER_TOP_HALF_O",
    "SMALL_LETTER_BOTTOM_HALF_O"]⟩,
   ⟨0x1d18, "LATIN_LETTER_SMALL_CAPITAL_", ["P REVERSED_R TURNED_R T U"]⟩,
   ⟨0x1d1d, "LATIN_SMALL_LETTER_SIDEWAYS_", ["U DIAERESIZED_U TURNED_M"]⟩,
   ⟨0x1d20, "LATIN_LETTER_SMALL_CAPITAL_", ["V W Z EZH"]⟩,
   ⟨0x1d24, "LATIN_LETTER_", ["VOICED_LARYNGEAL_SPIRANT AIN"]⟩,
   ⟨0x1d26, "GREEK_LETTER_SMALL_CAPITAL_", ["GAMMA LAMDA PI RHO PSI"]⟩,
   ⟨0x1d2b, "CYRILLIC_LETTER_SMALL_CAPITAL_", ["EL"]⟩,
   ⟨0x1d2c, "MODIFIER_LETTER_CAPITAL_", ["A AE B BARRED_B D E REVERSED_E G H I J K L M N",
    "REVERSED_N O OU P R T U W"]⟩,
   ⟨0x1d43, "MODIFIER_LETTER_SMALL_", ["A TURNED_A ALPHA TURNED_AE B D E SCHWA OPEN_E",
    "TURNED_OPEN_E G TURNED_I K M ENG O OPEN_O TOP_HALF_O BOTTOM_HALF_O P T U SIDEWAYS_U",
    "TURNED_M V AIN BETA GREEK_GAMMA DELTA GREEK_PHI CHI"]⟩,
   ⟨0x1d62, "LATIN_SUBSCRIPT_SMALL_LETTER_", ["I R U V"]⟩,
   ⟨0x1d66, "GREEK_SUBSCRIPT_SMALL_LETTER_", ["BETA GAMMA RHO PHI CHI"]⟩,
   ⟨0x1d6b, "LATIN_SMALL_LETTER_", ["UE B_WITH_MIDDLE_TILDE D_WITH_MIDDLE_TILDE",
    "F_WITH_MIDDLE_TILDE M_WITH_MIDDLE_TILDE N_WITH_MIDDLE_TILDE P_WITH_MIDDLE_TILDE",
    "R_WITH_MIDDLE_TILDE R_WITH_FISHHOOK_AND_MIDDLE_TILDE S_WITH_MIDDLE_TILDE",
    "T_WITH_MIDDLE_TILDE Z_WITH_MIDDLE_TILDE TURNED_G"]⟩,
   ⟨0x1d78, "MODIFIER_LETTER_CYRILLIC_", ["EN"]⟩,
   ⟨0x1d79, "LATIN_SMALL_", ["LETTER_INSULAR_G LETTER_TH_WITH_STRIKETHROUGH",
    "CAPITAL_LETTER_I_WITH_STROKE LETTER_IOTA_WITH_STROKE LETTER_P_WITH_STROKE",
    "CAPITAL_LETTER_U_WITH_STROKE"]⟩,
   ⟨0x1d7f, "LATIN_SMALL_LETTER_", ["UPSILON_WITH_STROKE B_WITH_PALATAL_HOOK D_WITH_PALATAL_HOOK",
    "F_WITH_PALATAL_HOOK G_WITH_PALATAL_HOOK K_WITH_PALATAL_HOOK L_WITH_PALATAL_HOOK",
    "M_WITH_PALATAL_HOOK N_WITH_PALATAL_HOOK P_WITH_PALATAL_HOOK R_WITH_PALATAL_HOOK",
    "S_WITH_PALATAL_HOOK ESH_WITH_PALATAL_HOOK V_WITH_PALATAL_HOOK X_WITH_PALATAL_HOOK",
    "Z_WITH_PALATAL_HOOK A_WITH_RETROFLEX_HOOK ALPHA_WITH_RETROFLEX_HOOK D_WITH_HOOK_AND_TAIL",
    "E_WITH_RETROFLEX_HOOK OPEN_E_WITH_RETROFLEX_HOOK REVERSED_OPEN_E_WITH_RETROFLEX_HOOK",
    "SCHWA_WITH_RETROFLEX_HOOK I_WITH_RETROFLEX_HOOK OPEN_O_WITH_RETROFLEX_HOOK",
    "ESH_WITH_RETROFLEX_HOOK U_WITH_RETROFLEX_HOOK EZH_WITH_RETROFLEX_HOOK"]⟩,
   ⟨0x1d9b, "MODIFIER_LETTER_SMALL_", ["TURNED_ALPHA C C_WITH_CURL ETH REVERSED_OPEN_E F",
    "DOTLESS_J_WITH_STROKE SCRIPT_G TURNED_H I_WITH_STROKE IOTA CAPITAL_I CAPITAL_I_WITH_STROKE",
    "J_WITH_CROSSED-TAIL L_WITH_RETROFLEX_HOOK L_WITH_PALATAL_HOOK CAPITAL_L M_WITH_HOOK",
    "TURNED_M_WITH_LONG_LEG N_WITH_LEFT_HOOK N_WITH_RETROFLEX_HOOK CAPITAL_N BARRED_O PHI",
    "S_WITH_HOOK ESH T_WITH_PALATAL_HOOK U_BAR UPSILON CAPITAL_U V_WITH_HOOK TURNED_V Z",
    "Z_WITH_RETROFLEX_HOOK Z_WITH_CURL EZH THETA"]⟩,
   ⟨0x1e00, "LATIN_", ["CAPITAL_LETTER_A_WITH_RING_BELOW SMALL_LETTER_A_WITH_RING_BELOW",
    "CAPITAL_LETTER_B_WITH_DOT_ABOVE SMALL_LETTER_B_WITH_DOT_ABOVE",
    "CAPITAL_LETTER_B_WITH_DOT_BELOW SMALL_LETTER_B_WITH_DOT_BELOW",
    "CAPITAL_LETTER_B_WITH_LINE_BELOW SMALL_LETTER_B_WITH_LINE_BELOW",
    "CAPITAL_LETTER_C_WITH_CEDILLA_AND_ACUTE SMALL_LETTER_C_WITH_CEDILLA_AND_ACUTE",
    "CAPITAL_LETTER_D_WITH_DOT_ABOVE SMALL_LETTER_D_WITH_DOT_ABOVE",
    "CAPITAL_LETTER_D_WITH_DOT_BELOW SMALL_LETTER_D_WITH_DOT_BELOW",
    "CAPITAL_LETTER_D_WITH_LINE_BELOW SMALL_LETTER_D_WITH_LINE_BELOW",
    "CAPITAL_LETTER_D_WITH_CEDILLA SMALL_LETTER_D_WITH_CEDILLA",
    "CAPITAL_LETTER_D_WITH_CIRCUMFLEX_BELOW SMALL_LETTER_D_WITH_CIRCUMFLEX_BELOW",
    "CAPITAL_LETTER_E_WITH_MACRON_AND_GRAVE SMALL_LETTER_E_WITH_MACRON_AND_GRAVE",
    "CAPITAL_LETTER_E_WITH_MACRON_AND_ACUTE SMALL_LETTER_E_WITH_MACRON_AND_ACUTE",
    "CAPITAL_LETTER_E_WITH_CIRCUMFLEX_BELOW SMALL_LETTER_E_WITH_CIRCUMFLEX_BELOW",
    "CAPITAL_LETTER_E_WITH_TILDE_BELOW SMALL_LETTER_E_WITH_TILDE_BELOW",
    "CAPITAL_LETTER_E_WITH_CEDILLA_AND_BREVE SMALL_LETTER_E_WITH_CEDILLA_AND_BREVE",
    "CAPITAL_LETTER_F_WITH_DOT_ABOVE SMALL_LETTER_F_WITH_DOT_ABOVE CAPITAL_LETTER_G_WITH_MACRON",
    "SMALL_LETTER_G_WITH_MACRON CAPITAL_LETTER_H_WITH_DOT_ABOVE SMALL_LETTER_H_WITH_DOT_ABOVE",
    "CAPITAL_LETTER_H_WITH_DOT_BELOW SMALL_LETTER_H_WITH_DOT_BELOW",
    "CAPITAL_LETTER_H_WITH_DIAERESIS SMALL_LETTER_H_WITH_DIAERESIS CAPITAL_LETTER_H_WITH_CEDILLA",
    "SMALL_LETTER_H_WITH_CEDILLA CAPITAL_LETTER_H_WITH_BREVE_BELOW",
    "SMALL_LETTER_H_WITH_BREVE_BELOW CAPITAL_LETTER_I_WITH_TILDE_BELOW",
    "SMALL_LETTER_I_WITH_TILDE_BELOW CAPITAL_LETTER_I_WITH_DIAERESIS_AND_ACUTE",
    "SMALL_LETTER_I_WITH_DIAERESIS_AND_ACUTE CAPITAL_LETTER_K_WITH_ACUTE",
    "SMALL_LETTER_K_WITH_ACUTE CAPITAL_LETTER_K_WITH_DOT_BELOW SMALL_LETTER_K_WITH_DOT_BELOW",
    "CAPITAL_LETTER_K_WITH_LINE_BELOW SMALL_LETTER_K_WITH_LINE_BELOW",
    "CAPITAL_LETTER_L_WITH_DOT_BELOW SMALL_LETTER_L_WITH_DOT_BELOW",
    "CAPITAL_LETTER_L_WITH_DOT_BELOW_AND_MACRON SMALL_LETTER_L_WITH_DOT_BELOW_AND_MACRON",
    "CAPITAL_LETTER_L_WITH_LINE_BELOW SMALL_LETTER_L_WITH_LINE_BELOW",
    "CAPITAL_LETTER_L_WITH_CIRCUMFLEX_BELOW SMALL_LETTER_L_WITH_CIRCUMFLEX_BELOW",
    "CAPITAL_LETTER_M_WITH_ACUTE SMALL_LETTER_M_WITH_ACUTE CAPITAL_LETTER_M_WITH_DOT_ABOVE",
    "SMALL_LETTER_M_WITH_DOT_ABOVE CAPITAL_LETTER_M_WITH_DOT_BELOW SMALL_LETTER_M_WITH_DOT_BELOW",
    "CAPITAL_LETTER_N_WITH_DOT_ABOVE SMALL_LETTER_N_WITH_DOT_ABOVE",
    "CAPITAL_LETTER_N_WITH_DOT_BELOW SMALL_LETTER_N_WITH_DOT_BELOW",
    "CAPITAL_LETTER_N_WITH_LINE_BELOW SMALL_LETTER_N_WITH_LINE_BELOW",
    "CAPITAL_LETTER_N_WITH_CIRCUMFLEX_BELOW SMALL_LETTER_N_WITH_CIRCUMFLEX_BELOW",
    "CAPITAL_LETTER_O_WITH_TILDE_AND_ACUTE SMALL_LETTER_O_WITH_TILDE_AND_ACUTE",
    "CAPITAL_LETTER_O_WITH_TILDE_AND_DIAERESIS SMALL_LETTER_O_WITH_TILDE_AND_DIAERESIS",
    "CAPITAL_LETTER_O_WITH_MACRON_AND_GRAVE SMALL_LETTER_O_WITH_MACRON_AND_GRAVE",
    "CAPITAL_LETTER_O_WITH_MACRON_AND_ACUTE SMALL_LETTER_O_WITH_MACRON_AND_ACUTE",
    "CAPITAL_LETTER_P_WITH_ACUTE SMALL_LETTER_P_WITH_ACUTE CAPITAL_LETTER_P_WITH_DOT_ABOVE",
    "SMALL_LETTER_P_WITH_DOT_ABOVE CAPITAL_LETTER_R_WITH_DOT_ABOVE SMALL_LETTER_R_WITH_DOT_ABOVE",
    "CAPITAL_LETTER_R_WITH_DOT_BELOW SMALL_LETTER_R_WITH_DOT_BELOW",
    "CAPITAL_LETTER_R_WITH_DOT_BELOW_AND_MACRON SMALL_LETTER_R_WITH_DOT_BELOW_AND_MACRON",
    "CAPITAL_LETTER_R_WITH_LINE_BELOW SMALL_LETTER_R_WITH_LINE_BELOW",
    "CAPITAL_LETTER_S_WITH_DOT_ABOVE SMALL_LETTER_S_WITH_DOT_ABOVE",
    "CAPITAL_LETTER_S_WITH_DOT_BELOW SMALL_LETTER_S_WITH_DOT_BELOW",
    "CAPITAL_LETTER_S_WITH_ACUTE_AND_DOT_ABOVE SMALL_LETTER_S_WITH_ACUTE_AND_DOT_ABOVE",
    "CAPITAL_LETTER_S_WITH_CARON_AND_DOT_ABOVE SMALL_LETTER_S_WITH_CARON_AND_DOT_ABOVE",
    "CAPITAL_LETTER_S_WITH_DOT_BELOW_AND_DOT_ABOVE SMALL_LETTER_S_WITH_DOT_BELOW_AND_DOT_ABOVE",
    "CAPITAL_LETTER_T_WITH_DOT_ABOVE SMALL_LETTER_T_WITH_DOT_ABOVE",
    "CAPITAL_LETTER_T_WITH_DOT_BELOW SMALL_LETTER_T_WITH_DOT_BELOW",
    "CAPITAL_LETTER_T_WITH_LINE_BELOW SMALL_LETTER_T_WITH_LINE_BELOW",
    "CAPITAL_LETTER_T_WITH_CIRCUMFLEX_BELOW SMALL_LETTER_T_WITH_CIRCUMFLEX_BELOW",
    "CAPITAL_LETTER_U_WITH_DIAERESIS_BELOW SMALL_LETTER_U_WITH_DIAERESIS_BELOW",
    "CAPITAL_LETTER_U_WITH_TILDE_BELOW SMALL_LETTER_U_WITH_TILDE_BELOW",
    "CAPITAL_LETTER_U_WITH_CIRCUMFLEX_BELOW SMALL_LETTER_U_WITH_CIRCUMFLEX_BELOW",
    "CAPITAL_LETTER_U_WITH_TILDE_AND_ACUTE SMALL_LETTER_U_WITH_TILDE_AND_ACUTE",
    "CAPITAL_LETTER_U_WITH_MACRON_AND_DIAERESIS SMALL_LETTER_U_WITH_MACRON_AND_DIAERESIS",
    "CAPITAL_LETTER_V_WITH_TILDE SMALL_LETTER_V_WITH_TILDE CAPITAL_LETTER_V_WITH_DOT_BELOW",
    "SMALL_LETTER_V_WITH_DOT_BELOW CAPITAL_LETTER_W_WITH_GRAVE SMALL_LETTER_W_WITH_GRAVE",
    "CAPITAL_LETTER_W_WITH_ACUTE SMALL_LETTER_W_WITH_ACUTE CAPITAL_LETTER_W_WITH_DIAERESIS",
    "SMALL_LETTER_W_WITH_DIAERESIS CAPITAL_LETTER_W_WITH_DOT_ABOVE SMALL_LETTER_W_WITH_DOT_ABOVE",
    "CAPITAL_LETTER_W_WITH_DOT_BELOW SMALL_LETTER_W_WITH_DOT_BELOW",
    "CAPITAL_LETTER_X_WITH_DOT_ABOVE SMALL_LETTER_X_WITH_DOT_ABOVE",
    "CAPITAL_LETTER_X_WITH_DIAERESIS SMALL_LETTER_X_WITH_DIAERESIS",
    "CAPITAL_LETTER_Y_WITH_DOT_ABOVE SMALL_LETTER_Y_WITH_DOT_ABOVE",
    "CAPITAL_LETTER_Z_WITH_CIRCUMFLEX SMALL_LETTER_Z_WITH_CIRCUMFLEX",
    "CAPITAL_LETTER_Z_WITH_DOT_BELOW SMALL_LETTER_Z_WITH_DOT_BELOW",
    "CAPITAL_LETTER_Z_WITH_LINE_BELOW"]⟩,
   ⟨0x1e95, "LATIN_SMALL_LETTER_", ["Z_WITH_LINE_BELOW H_WITH_LINE_BELOW T_WITH_DIAERESIS",
    "W_WITH_RING_ABOVE Y_WITH_RING_ABOVE A_WITH_RIGHT_HALF_RING LONG_S_WITH_DOT_ABOVE",
    "LONG_S_WITH_DIAGONAL_STROKE LONG_S_WITH_HIGH_STROKE"]⟩,
   ⟨0x1e9e, "LATIN_", ["CAPITAL_LETTER_SHARP_S SMALL_LETTER_DELTA",
    "CAPITAL_LETTER_A_WITH_DOT_BELOW SMALL_LETTER_A_WITH_DOT_BELOW",
    "CAPITAL_LETTER_A_WITH_HOOK_ABOVE SMALL_LETTER_A_WITH_HOOK_ABOVE",
    "CAPITAL_LETTER_A_WITH_CIRCUMFLEX_AND_ACUTE SMALL_LETTER_A_WITH_CIRCUMFLEX_AND_ACUTE",
    "CAPITAL_LETTER_A_WITH_CIRCUMFLEX_AND_GRAVE SMALL_LETTER_A_WITH_CIRCUMFLEX_AND_GRAVE",
    "CAPITAL_LETTER_A_WITH_CIRCUMFLEX_AND_HOOK_ABOVE",
    "SMALL_LETTER_A_WITH_CIRCUMFLEX_AND_HOOK_ABOVE CAPITAL_LETTER_A_WITH_CIRCUMFLEX_AND_TILDE",
    "SMALL_LETTER_A_WITH_CIRCUMFLEX_AND_TILDE CAPITAL_LETTER_A_WITH_CIRCUMFLEX_AND_DOT_BELOW",
    "SMALL_LETTER_A_WITH_CIRCUMFLEX_AND_DOT_BELOW CAPITAL_LETTER_A_WITH_BREVE_AND_ACUTE",
    "SMALL_LETTER_A_WITH_BREVE_AND_ACUTE CAPITAL_LETTER_A_WITH_BREVE_AND_GRAVE",
    "SMALL_LETTER_A_WITH_BREVE_AND_GRAVE CAPITAL_LETTER_A_WITH_BREVE_AND_HOOK_ABOVE",
    "SMALL_LETTER_A_WITH_BREVE_AND_HOOK_ABOVE CAPITAL_LETTER_A_WITH_BREVE_AND_TILDE",
    "SMALL_LETTER_A_WITH_BREVE_AND_TILDE CAPITAL_LETTER_A_WITH_BREVE_AND_DOT_BELOW",
    "SMALL_LETTER_A_WITH_BREVE_AND_DOT_BELOW CAPITAL_LETTER_E_WITH_DOT_BELOW",
    "SMALL_LETTER_E_WITH_DOT_BELOW CAPITAL_LETTER_E_WITH_HOOK_ABOVE",
    "SMALL_LETTER_E_WITH_HOOK_ABOVE CAPITAL_LETTER_E_WITH_TILDE SMALL_LETTER_E_WITH_TILDE",
    "CAPITAL_LETTER_E_WITH_CIRCUMFLEX_AND_ACUTE SMALL_LETTER_E_WITH_CIRCUMFLEX_AND_ACUTE",
    "CAPITAL_LETTER_E_WITH_CIRCUMFLEX_AND_GRAVE SMALL_LETTER_E_WITH_CIRCUMFLEX_AND_GRAVE",
    "CAPITAL_LETTER_E_WITH_CIRCUMFLEX_AND_HOOK_ABOVE",
    "SMALL_LETTER_E_WITH_CIRCUMFLEX_AND_HOOK_ABOVE CAPITAL_LETTER_E_WITH_CIRCUMFLEX_AND_TILDE",
    "SMALL_LETTER_E_WITH_CIRCUMFLEX_AND_TILDE CAPITAL_LETTER_E_WITH_CIRCUMFLEX_AND_DOT_BELOW",
    "SMALL_LETTER_E_WITH_CIRCUMFLEX_AND_DOT_BELOW CAPITAL_LETTER_I_WITH_HOOK_ABOVE",
    "SMALL_LETTER_I_WITH_HOOK_ABOVE CAPITAL_LETTER_I_WITH_DOT_BELOW",
    "SMALL_LETTER_I_WITH_DOT_BELOW CAPITAL_LETTER_O_WITH_DOT_BELOW SMALL_LETTER_O_WITH_DOT_BELOW",
    "CAPITAL_LETTER_O_WITH_HOOK_ABOVE SMALL_LETTER_O_WITH_HOOK_ABOVE",
    "CAPITAL_LETTER_O_WITH_CIRCUMFLEX_AND_ACUTE SMALL_LETTER_O_WITH_CIRCUMFLEX_AND_ACUTE",
    "CAPITAL_LETTER_O_WITH_CIRCUMFLEX_AND_GRAVE SMALL_LETTER_O_WITH_CIRCUMFLEX_AND_GRAVE",
    "CAPITAL_LETTER_O_WITH_CIRCUMFLEX_AND_HOOK_ABOVE",
    "SMALL_LETTER_O_WITH_CIRCUMFLEX_AND_HOOK_ABOVE CAPITAL_LETTER_O_WITH_CIRCUMFLEX_AND_TILDE",
    "SMALL_LETTER_O_WITH_CIRCUMFLEX_AND_TILDE CAPITAL_LETTER_O_WITH_CIRCUMFLEX_AND_DOT_BELOW",
    "SMALL_LETTER_O_WITH_CIRCUMFLEX_AND_DOT_BELOW CAPITAL_LETTER_O_WITH_HORN_AND_ACUTE",
    "SMALL_LETTER_O_WITH_HORN_AND_ACUTE CAPITAL_LETTER_O_WITH_HORN_AND_GRAVE",
    "SMALL_LETTER_O_WITH_HORN_AND_GRAVE CAPITAL_LETTER_O_WITH_HORN_AND_HOOK_ABOVE",
    "SMALL_LETTER_O_WITH_HORN_AND_HOOK_ABOVE CAPITAL_LETTER_O_WITH_HORN_AND_TILDE",
    "SMALL_LETTER_O_WITH_HORN_AND_TILDE CAPITAL_LETTER_O_WITH_HORN_AND_DOT_BELOW",
    "SMALL_LETTER_O_WITH_HORN_AND_DOT_BELOW CAPITAL_LETTER_U_WITH_DOT_BELOW",
    "SMALL_LETTER_U_WITH_DOT_BELOW CAPITAL_LETTER_U_WITH_HOOK_ABOVE",
    "SMALL_LETTER_U_WITH_HOOK_ABOVE CAPITAL_LETTER_U_WITH_HORN_AND_ACUTE",
    "SMALL_LETTER_U_WITH_HORN_AND_ACUTE CAPITAL_LETTER_U_WITH_HORN_AND_GRAVE",
    "SMALL_LETTER_U_WITH_HORN_AND_GRAVE CAPITAL_LETTER_U_WITH_HORN_AND_HOOK_ABOVE",
    "SMALL_LETTER_U_WITH_HORN_AND_HOOK_ABOVE CAPITAL_LETTER_U_WITH_HORN_AND_TILDE",
    "SMALL_LETTER_U_WITH_HORN_AND_TILDE CAPITAL_LETTER_U_WITH_HORN_AND_DOT_BELOW",
    "SMALL_LETTER_U_WITH_HORN_AND_DOT_BELOW CAPITAL_LETTER_Y_WITH_GRAVE",
    "SMALL_LETTER_Y_WITH_GRAVE CAPITAL_LETTER_Y_WITH_DOT_BELOW SMALL_LETTER_Y_WITH_DOT_BELOW",
    "CAPITAL_LETTER_Y_WITH_HOOK_ABOVE SMALL_LETTER_Y_WITH_HOOK_ABOVE CAPITAL_LETTER_Y_WITH_TILDE",
    "SMALL_LETTER_Y_WITH_TILDE CAPITAL_LETTER_MIDDLE-WELSH_LL SMALL_LETTER_MIDDLE-WELSH_LL",
    "CAPITAL_LETTER_MIDDLE-WELSH_V SMALL_LETTER_MIDDLE-WELSH_V CAPITAL_LETTER_Y_WITH_LOOP",
    "SMALL_LETTER_Y_WITH_LOOP"]⟩,
   ⟨0x2c60, "LATIN_", ["CAPITAL_LETTER_L_WITH_DOUBLE_BAR SMALL_LETTER_L_WITH_DOUBLE_BAR",
    "CAPITAL_LETTER_L_WITH_MIDDLE_TILDE CAPITAL_LETTER_P_WITH_STROKE CAPITAL_LETTER_R_WITH_TAIL",
    "SMALL_LETTER_A_WITH_STROKE SMALL_LETTER_T_WITH_DIAGONAL_STROKE",
    "CAPITAL_LETTER_H_WITH_DESCENDER SMALL_LETTER_H_WITH_DESCENDER",
    "CAPITAL_LETTER_K_WITH_DESCENDER SMALL_LETTER_K_WITH_DESCENDER",
    "CAPITAL_LETTER_Z_WITH_DESCENDER SMALL_LETTER_Z_WITH_DESCENDER CAPITAL_LETTER_ALPHA",
    "CAPITAL_LETTER_M_WITH_HOOK CAPITAL_LETTER_TURNED_A CAPITAL_LETTER_TURNED_ALPHA",
    "SMALL_LETTER_V_WITH_RIGHT_HOOK CAPITAL_LETTER_W_WITH_HOOK SMALL_LETTER_W_WITH_HOOK",
    "SMALL_LETTER_V_WITH_CURL CAPITAL_LETTER_HALF_H"]⟩,
   ⟨0x2c76, "LATIN_SMALL_LETTER_", ["HALF_H TAILLESS_PHI E_WITH_NOTCH TURNED_R_WITH_TAIL",
    "O_WITH_LOW_RING_INSIDE"]⟩,
   ⟨0x2c7b, "", ["LATIN_LETTER_SMALL_CAPITAL_TURNED_E LATIN_SUBSCRIPT_SMALL_LETTER_J",
    "MODIFIER_LETTER_CAPITAL_V LATIN_CAPITAL_LETTER_S_WITH_SWASH_TAIL",
    "LATIN_CAPITAL_LETTER_Z_WITH_SWASH_TAIL"]⟩,
   ⟨0xa700, "MODIFIER_LETTER_CHINESE_TONE_", ["YIN_PING YANG_PING YIN_SHANG YANG_SHANG YIN_QU",
    "YANG_QU YIN_RU YANG_RU"]⟩,
   ⟨0xa708, "MODIFIER_LETTER_", ["EXTRA-HIGH_DOTTED_TONE_BAR HIGH_DOTTED_TONE_BAR",
    "MID_DOTTED_TONE_BAR LOW_DOTTED_TONE_BAR EXTRA-LOW_DOTTED_TONE_BAR",
    "EXTRA-HIGH_DOTTED_LEFT-STEM_TONE_BAR HIGH_DOTTED_LEFT-STEM_TONE_BAR",
    "MID_DOTTED_LEFT-STEM_TONE_BAR LOW_DOTTED_LEFT-STEM_TONE_BAR",
    "EXTRA-LOW_DOTTED_LEFT-STEM_TONE_BAR EXTRA-HIGH_LEFT-STEM_TONE_BAR HIGH_LEFT-STEM_TONE_BAR",
    "MID_LEFT-STEM_TONE_BAR LOW_LEFT-STEM_TONE_BAR EXTRA-LOW_LEFT-STEM_TONE_BAR DOT_VERTICAL_BAR",
    "DOT_SLASH DOT_HORIZONTAL_BAR LOWER_RIGHT_CORNER_ANGLE RAISED_UP_ARROW RAISED_DOWN_ARROW",
    "RAISED_EXCLAMATION_MARK RAISED_INVERTED_EXCLAMATION_MARK LOW_INVERTED_EXCLAMATION_MARK",
    "STRESS_AND_HIGH_TONE STRESS_AND_LOW_TONE"]⟩,
   ⟨0xa722, "LATIN_", ["CAPITAL_LETTER_EGYPTOLOGICAL_ALEF SMALL_LETTER_EGYPTOLOGICAL_ALEF",
    "CAPITAL_LETTER_EGYPTOLOGICAL_AIN SMALL_LETTER_EGYPTOLOGICAL_AIN CAPITAL_LETTER_HENG",
    "SMALL_LETTER_HENG CAPITAL_LETTER_TZ SMALL_LETTER_TZ CAPITAL_LETTER_TRESILLO",
    "SMALL_LETTER_TRESILLO CAPITAL_LETTER_CUATRILLO SMALL_LETTER_CUATRILLO",
    "CAPITAL_LETTER_CUATRILLO_WITH_COMMA SMALL_LETTER_CUATRILLO_WITH_COMMA",
    "LETTER_SMALL_CAPITAL_F LETTER_SMALL_CAPITAL_S CAPITAL_LETTER_AA SMALL_LETTER_AA",
    "CAPITAL_LETTER_AO SMALL_LETTER_AO CAPITAL_LETTER_AU SMALL_LETTER_AU CAPITAL_LETTER_AV",
    "SMALL_LETTER_AV CAPITAL_LETTER_AV_WITH_HORIZONTAL_BAR SMALL_LETTER_AV_WITH_HORIZONTAL_BAR",
    "CAPITAL_LETTER_AY SMALL_LETTER_AY CAPITAL_LETTER_REVERSED_C_WITH_DOT",
    "SMALL_LETTER_REVERSED_C_WITH_DOT CAPITAL_LETTER_K_WITH_STROKE SMALL_LETTER_K_WITH_STROKE",
    "CAPITAL_LETTER_K_WITH_DIAGONAL_STROKE SMALL_LETTER_K_WITH_DIAGONAL_STROKE",
    "CAPITAL_LETTER_K_WITH_STROKE_AND_DIAGONAL_STROKE",
    "SMALL_LETTER_K_WITH_STROKE_AND_DIAGONAL_STROKE CAPITAL_LETTER_BROKEN_L",
    "SMALL_LETTER_BROKEN_L CAPITAL_LETTER_L_WITH_HIGH_STROKE SMALL_LETTER_L_WITH_HIGH_STROKE",
    "CAPITAL_LETTER_O_WITH_LONG_STROKE_OVERLAY SMALL_LETTER_O_WITH_LONG_STROKE_OVERLAY",
    "CAPITAL_LETTER_O_WITH_LOOP SMALL_LETTER_O_WITH_LOOP CAPITAL_LETTER_OO SMALL_LETTER_OO",
    "CAPITAL_LETTER_P_WITH_STROKE_THROUGH_DESCENDER SMALL_LETTER_P_WITH_STROKE_THROUGH_DESCENDER",
    "CAPITAL_LETTER_P_WITH_FLOURISH SMALL_LETTER_P_WITH_FLOURISH",
    "CAPITAL_LETTER_P_WITH_SQUIRREL_TAIL SMALL_LETTER_P_WITH_SQUIRREL_TAIL",
    "CAPITAL_LETTER_Q_WITH_STROKE_THROUGH_DESCENDER SMALL_LETTER_Q_WITH_STROKE_THROUGH_DESCENDER",
    "CAPITAL_LETTER_Q_WITH_DIAGONAL_STROKE SMALL_LETTER_Q_WITH_DIAGONAL_STROKE",
    "CAPITAL_LETTER_R_ROTUNDA SMALL_LETTER_R_ROTUNDA CAPITAL_LETTER_RUM_ROTUNDA",
    "SMALL_LETTER_RUM_ROTUNDA CAPITAL_LETTER_V_WITH_DIAGONAL_STROKE",
    "SMALL_LETTER_V_WITH_DIAGONAL_STROKE CAPITAL_LETTER_VY SMALL_LETTER_VY",
    "CAPITAL_LETTER_VISIGOTHIC_Z SMALL_LETTER_VISIGOTHIC_Z CAPITAL_LETTER_THORN_WITH_STROKE",
    "SMALL_LETTER_THORN_WITH_STROKE CAPITAL_LETTER_THORN_WITH_STROKE_THROUGH_DESCENDER",
    "SMALL_LETTER_THORN_WITH_STROKE_THROUGH_DESCENDER CAPITAL_LETTER_VEND SMALL_LETTER_VEND",
    "CAPITAL_LETTER_ET SMALL_LETTER_ET CAPITAL_LETTER_IS SMALL_LETTER_IS CAPITAL_LETTER_CON",
    "SMALL_LETTER_CON"]⟩,
   ⟨0xa770, "MODIFIER_LETTER_", ["US"]⟩,
   ⟨0xa771, "LATIN_SMALL_LETTER_", ["DUM LUM MUM NUM RUM"]⟩,
   ⟨0xa776, "LATIN_", ["LETTER_SMALL_CAPITAL_RUM SMALL_LETTER_TUM SMALL_LETTER_UM",
    "CAPITAL_LETTER_INSULAR_D SMALL_LETTER_INSULAR_D CAPITAL_LETTER_INSULAR_F",
    "SMALL_LETTER_INSULAR_F CAPITAL_LETTER_INSULAR_G CAPITAL_LETTER_TURNED_INSULAR_G",
    "SMALL_LETTER_TURNED_INSULAR_G CAPITAL_LETTER_TURNED_L SMALL_LETTER_TURNED_L",
    "CAPITAL_LETTER_INSULAR_R SMALL_LETTER_INSULAR_R CAPITAL_LETTER_INSULAR_S",
    "SMALL_LETTER_INSULAR_S CAPITAL_LETTER_INSULAR_T SMALL_LETTER_INSULAR_T"]⟩,
   ⟨0xa788, "MODIFIER_LETTER_", ["LOW_CIRCUMFLEX_ACCENT COLON SHORT_EQUALS_SIGN"]⟩,
   ⟨0xa78b, "LATIN_", ["CAPITAL_LETTER_SALTILLO SMALL_LETTER_SALTILLO CAPITAL_LETTER_TURNED_H",
    "SMALL_LETTER_L_WITH_RETROFLEX_HOOK_AND_BELT LETTER_SINOLOGICAL_DOT",
    "CAPITAL_LETTER_N_WITH_DESCENDER SMALL_LETTER_N_WITH_DESCENDER CAPITAL_LETTER_C_WITH_BAR",
    "SMALL_LETTER_C_WITH_BAR SMALL_LETTER_C_WITH_PALATAL_HOOK SMALL_LETTER_H_WITH_PALATAL_HOOK",
    "CAPITAL_LETTER_B_WITH_FLOURISH SMALL_LETTER_B_WITH_FLOURISH CAPITAL_LETTER_F_WITH_STROKE",
    "SMALL_LETTER_F_WITH_STROKE CAPITAL_LETTER_VOLAPUK_AE SMALL_LETTER_VOLAPUK_AE",
    "CAPITAL_LETTER_VOLAPUK_OE SMALL_LETTER_VOLAPUK_OE CAPITAL_LETTER_VOLAPUK_UE",
    "SMALL_LETTER_VOLAPUK_UE CAPITAL_LETTER_G_WITH_OBLIQUE_STROKE",
    "SMALL_LETTER_G_WITH_OBLIQUE_STROKE CAPITAL_LETTER_K_WITH_OBLIQUE_STROKE",
    "SMALL_LETTER_K_WITH_OBLIQUE_STROKE CAPITAL_LETTER_N_WITH_OBLIQUE_STROKE",
    "SMALL_LETTER_N_WITH_OBLIQUE_STROKE CAPITAL_LETTER_R_WITH_OBLIQUE_STROKE",
    "SMALL_LETTER_R_WITH_OBLIQUE_STROKE CAPITAL_LETTER_S_WITH_OBLIQUE_STROKE",
    "SMALL_LETTER_S_WITH_OBLIQUE_STROKE"]⟩,
   ⟨0xa7aa, "LATIN_CAPITAL_LETTER_", ["H_WITH_HOOK REVERSED_OPEN_E SCRIPT_G L_WITH_BELT",
    "SMALL_CAPITAL_I"]⟩,
   ⟨0xa7af, "LATIN_LETTER_SMALL_CAPITAL_", ["Q"]⟩,
   ⟨0xa7b0, "LATIN_CAPITAL_LETTER_", ["TURNED_K TURNED_T J_WITH_CROSSED-TAIL CHI BETA"]⟩,
   ⟨0xa7b5, "LATIN_", ["SMALL_LETTER_BETA CAPITAL_LETTER_OMEGA SMALL_LETTER_OMEGA",
    "CAPITAL_LETTER_U_WITH_STROKE SMALL_LETTER_U_WITH_STROKE CAPITAL_LETTER_GLOTTAL_A",
    "SMALL_LETTER_GLOTTAL_A CAPITAL_LETTER_GLOTTAL_I SMALL_LETTER_GLOTTAL_I",
    "CAPITAL_LETTER_GLOTTAL_U SMALL_LETTER_GLOTTAL_U CAPITAL_LETTER_OLD_POLISH_O",
    "SMALL_LETTER_OLD_POLISH_O CAPITAL_LETTER_ANGLICANA_W SMALL_LETTER_ANGLICANA_W",
    "CAPITAL_LETTER_C_WITH_PALATAL_HOOK CAPITAL_LETTER_S_WITH_HOOK",
    "CAPITAL_LETTER_Z_WITH_PALATAL_HOOK CAPITAL_LETTER_D_WITH_SHORT_STROKE_OVERLAY",
    "SMALL_LETTER_D_WITH_SHORT_STROKE_OVERLAY CAPITAL_LETTER_S_WITH_SHORT_STROKE_OVERLAY",
    "SMALL_LETTER_S_WITH_SHORT_STROKE_OVERLAY � � � � � CAPITAL_LETTER_CLOSED_INSULAR_G",
    "SMALL_LETTER_CLOSED_INSULAR_G � SMALL_LETTER_DOUBLE_THORN � SMALL_LETTER_DOUBLE_WYNN",
    "CAPITAL_LETTER_MIDDLE_SCOTS_S SMALL_LETTER_MIDDLE_SCOTS_S CAPITAL_LETTER_SIGMOID_S",
    "SMALL_LETTER_SIGMOID_S"]⟩,
   ⟨0xa7f2, "MODIFIER_LETTER_CAPITAL_", ["C F Q"]⟩,
   ⟨0xa7f5, "", ["LATIN_CAPITAL_LETTER_REVERSED_HALF_H LATIN_SMALL_LETTER_REVERSED_HALF_H",
    "LATIN_EPIGRAPHIC_LETTER_SIDEWAYS_I MODIFIER_LETTER_CAPITAL_H_WITH_STROKE",
    "MODIFIER_LETTER_SMALL_LIGATURE_OE LATIN_LETTER_SMALL_CAPITAL_TURNED_M"]⟩,
   ⟨0xa7fb, "LATIN_EPIGRAPHIC_LETTER_", ["REVERSED_F REVERSED_P INVERTED_M I_LONGA ARCHAIC_M"]⟩,
   ⟨0xab30, "LATIN_SMALL_LETTER_", ["BARRED_ALPHA A_REVERSED-SCHWA BLACKLETTER_E BARRED_E",
    "E_WITH_FLOURISH LENIS_F SCRIPT_G_WITH_CROSSED-TAIL L_WITH_INVERTED_LAZY_S",
    "L_WITH_DOUBLE_MIDDLE_TILDE L_WITH_MIDDLE_RING M_WITH_CROSSED-TAIL N_WITH_CROSSED-TAIL",
    "ENG_WITH_CROSSED-TAIL BLACKLETTER_O BLACKLETTER_O_WITH_STROKE OPEN_O_WITH_STROKE",
    "INVERTED_OE TURNED_OE_WITH_STROKE TURNED_OE_WITH_HORIZONTAL_STROKE TURNED_O_OPEN-O",
    "TURNED_O_OPEN-O_WITH_STROKE STIRRUP_R"]⟩,
   ⟨0xab46, "LATIN_LETTER_SMALL_CAPITAL_R_WITH_RIGHT_", ["LEG"]⟩,
   ⟨0xab47, "LATIN_SMALL_LETTER_", ["R_WITHOUT_HANDLE DOUBLE_R R_WITH_CROSSED-TAIL",
    "DOUBLE_R_WITH_CROSSED-TAIL SCRIPT_R SCRIPT_R_WITH_RING BASELINE_ESH U_WITH_SHORT_RIGHT_LEG",
    "U_BAR_WITH_SHORT_RIGHT_LEG UI TURNED_UI U_WITH_LEFT_HOOK CHI CHI_WITH_LOW_RIGHT_RING",
    "CHI_WITH_LOW_LEFT_SERIF X_WITH_LOW_RIGHT_RING X_WITH_LONG_LEFT_LEG",
    "X_WITH_LONG_LEFT_LEG_AND_LOW_RIGHT_RING X_WITH_LONG_LEFT_LEG_WITH_SERIF",
    "Y_WITH_SHORT_RIGHT_LEG"]⟩,
   ⟨0xab5b, "MODIFIER_BREVE_WITH_INVERTED_", ["BREVE"]⟩,
   ⟨0xab5c, "MODIFIER_LETTER_SMALL_", ["HENG L_WITH_INVERTED_LAZY_S L_WITH_MIDDLE_TILDE",
    "U_WITH_LEFT_HOOK"]⟩,
   ⟨0xab60, "LATIN_SMALL_LETTER_", ["SAKHA_YAT IOTIFIED_E OPEN_OE UO INVERTED_ALPHA"]⟩,
   ⟨0xab65, "GREEK_LETTER_SMALL_CAPITAL_", ["OMEGA"]⟩,
   ⟨0xab66, "LATIN_SMALL_LETTER_", ["DZ_DIGRAPH_WITH_RETROFLEX_HOOK",
    "TS_DIGRAPH_WITH_RETROFLEX_HOOK TURNED_R_WITH_MIDDLE_TILDE"]⟩,
   ⟨0xab69, "MODIFIER_LETTER_", ["SMALL_TURNED_W LEFT_TACK RIGHT_TACK"]⟩,
   ⟨0xfb00, "LATIN_SMALL_LIGATURE_", ["FF FI FL FFI FFL LONG_S_T ST"]⟩,
   ⟨0xfb13, "ARMENIAN_SMALL_LIGATURE_", ["MEN_NOW MEN_ECH MEN_INI VEW_NOW MEN_XEH"]⟩,
   ⟨0xfb1d, "HEBREW_", ["LETTER_YOD_WITH_HIRIQ POINT_JUDEO-SPANISH_VARIKA",
    "LIGATURE_YIDDISH_YOD_YOD_PATAH"]⟩,
   ⟨0xfb20, "HEBREW_LETTER_", ["ALTERNATIVE_AYIN WIDE_ALEF WIDE_DALET WIDE_HE WIDE_KAF",
    "WIDE_LAMED WIDE_FINAL_MEM WIDE_RESH WIDE_TAV ALTERNATIVE_PLUS_SIGN SHIN_WITH_SHIN_DOT",
    "SHIN_WITH_SIN_DOT SHIN_WITH_DAGESH_AND_SHIN_DOT SHIN_WITH_DAGESH_AND_SIN_DOT",
    "ALEF_WITH_PATAH ALEF_WITH_QAMATS ALEF_WITH_MAPIQ BET_WITH_DAGESH GIMEL_WITH_DAGESH",
    "DALET_WITH_DAGESH HE_WITH_MAPIQ VAV_WITH_DAGESH ZAYIN_WITH_DAGESH � TET_WITH_DAGESH",
    "YOD_WITH_DAGESH FINAL_KAF_WITH_DAGESH KAF_WITH_DAGESH LAMED_WITH_DAGESH � MEM_WITH_DAGESH �",
    "NUN_WITH_DAGESH SAMEKH_WITH_DAGESH � FINAL_PE_WITH_DAGESH PE_WITH_DAGESH �",
    "TSADI_WITH_DAGESH QOF_WITH_DAGESH RESH_WITH_DAGESH SHIN_WITH_DAGESH TAV_WITH_DAGESH",
    "VAV_WITH_HOLAM BET_WITH_RAFE KAF_WITH_RAFE PE_WITH_RAFE"]⟩,
   ⟨0xfb4f, "HEBREW_LIGATURE_ALEF_", ["LAMED"]⟩,
   ⟨0x10780, "MODIFIER_LETTER_", ["SMALL_CAPITAL_AA SUPERSCRIPT_TRIANGULAR_COLON",
    "SUPERSCRIPT_HALF_TRIANGULAR_COLON"]⟩,
   ⟨0x10783, "MODIFIER_LETTER_SMALL_", ["AE CAPITAL_B B_WITH_HOOK � DZ_DIGRAPH",
    "DZ_DIGRAPH_WITH_RETROFLEX_HOOK DZ_DIGRAPH_WITH_CURL DEZH_DIGRAPH D_WITH_TAIL D_WITH_HOOK",
    "D_WITH_HOOK_AND_TAIL REVERSED_E CLOSED_REVERSED_OPEN_E FENG_DIGRAPH RAMS_HORN CAPITAL_G",
    "G_WITH_HOOK CAPITAL_G_WITH_HOOK H_WITH_STROKE CAPITAL_H HENG_WITH_HOOK",
    "DOTLESS_J_WITH_STROKE_AND_HOOK LS_DIGRAPH LZ_DIGRAPH L_WITH_BELT CAPITAL_L_WITH_BELT",
    "L_WITH_RETROFLEX_HOOK_AND_BELT LEZH LEZH_WITH_RETROFLEX_HOOK TURNED_Y TURNED_Y_WITH_BELT",
    "O_WITH_STROKE CAPITAL_OE CLOSED_OMEGA Q TURNED_R_WITH_LONG_LEG",
    "TURNED_R_WITH_LONG_LEG_AND_RETROFLEX_HOOK R_WITH_TAIL R_WITH_FISHHOOK CAPITAL_R",
    "TC_DIGRAPH_WITH_CURL TS_DIGRAPH TS_DIGRAPH_WITH_RETROFLEX_HOOK TESH_DIGRAPH",
    "T_WITH_RETROFLEX_HOOK V_WITH_RIGHT_HOOK � CAPITAL_Y"]⟩,
   ⟨0x107b3, "MODIFIER_LETTER_", ["GLOTTAL_STOP_WITH_STROKE REVERSED_GLOTTAL_STOP_WITH_STROKE",
    "BILABIAL_CLICK DENTAL_CLICK LATERAL_CLICK ALVEOLAR_CLICK",
    "RETROFLEX_CLICK_WITH_RETROFLEX_HOOK SMALL_S_WITH_CURL"]⟩,
   ⟨0x1df00, "LATIN_", ["SMALL_LETTER_FENG_DIGRAPH_WITH_TRILL SMALL_LETTER_REVERSED_SCRIPT_G",
    "LETTER_SMALL_CAPITAL_TURNED_G SMALL_LETTER_REVERSED_K LETTER_SMALL_CAPITAL_L_WITH_BELT",
    "SMALL_LETTER_LEZH_WITH_RETROFLEX_HOOK SMALL_LETTER_TURNED_Y_WITH_BELT",
    "SMALL_LETTER_REVERSED_ENG SMALL_LETTER_TURNED_R_WITH_LONG_LEG_AND_RETROFLEX_HOOK",
    "SMALL_LETTER_T_WITH_HOOK_AND_RETROFLEX_HOOK LETTER_RETROFLEX_CLICK_WITH_RETROFLEX_HOOK",
    "SMALL_LETTER_ESH_WITH_DOUBLE_BAR SMALL_LETTER_ESH_WITH_DOUBLE_BAR_AND_CURL",
    "SMALL_LETTER_TURNED_T_WITH_CURL LETTER_INVERTED_GLOTTAL_STOP_WITH_CURL",
    "LETTER_STRETCHED_C_WITH_CURL LETTER_SMALL_CAPITAL_TURNED_K"]⟩,
   ⟨0x1df11, "LATIN_SMALL_LETTER_", ["L_WITH_FISHHOOK DEZH_DIGRAPH_WITH_PALATAL_HOOK",
    "L_WITH_BELT_AND_PALATAL_HOOK ENG_WITH_PALATAL_HOOK TURNED_R_WITH_PALATAL_HOOK",
    "R_WITH_FISHHOOK_AND_PALATAL_HOOK TESH_DIGRAPH_WITH_PALATAL_HOOK EZH_WITH_PALATAL_HOOK",
    "DEZH_DIGRAPH_WITH_RETROFLEX_HOOK I_WITH_STROKE_AND_RETROFLEX_HOOK O_WITH_RETROFLEX_HOOK",
    "TESH_DIGRAPH_WITH_RETROFLEX_HOOK C_WITH_RETROFLEX_HOOK S_WITH_CURL"]⟩]

end SqlRoutes.Text.Names
