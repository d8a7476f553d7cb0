import SqlRoutes.Text.Names.Series

namespace SqlRoutes.Text.Names

def marks : List Series :=
  [⟨0x0300, "COMBINING_", ["GRAVE_ACCENT ACUTE_ACCENT CIRCUMFLEX_ACCENT TILDE MACRON OVERLINE",
    "BREVE DOT_ABOVE DIAERESIS HOOK_ABOVE RING_ABOVE DOUBLE_ACUTE_ACCENT CARON",
    "VERTICAL_LINE_ABOVE DOUBLE_VERTICAL_LINE_ABOVE DOUBLE_GRAVE_ACCENT CANDRABINDU",
    "INVERTED_BREVE TURNED_COMMA_ABOVE COMMA_ABOVE REVERSED_COMMA_ABOVE COMMA_ABOVE_RIGHT",
    "GRAVE_ACCENT_BELOW ACUTE_ACCENT_BELOW LEFT_TACK_BELOW RIGHT_TACK_BELOW LEFT_ANGLE_ABOVE",
    "HORN LEFT_HALF_RING_BELOW UP_TACK_BELOW DOWN_TACK_BELOW PLUS_SIGN_BELOW MINUS_SIGN_BELOW",
    "PALATALIZED_HOOK_BELOW RETROFLEX_HOOK_BELOW DOT_BELOW DIAERESIS_BELOW RING_BELOW",
    "COMMA_BELOW CEDILLA OGONEK VERTICAL_LINE_BELOW BRIDGE_BELOW INVERTED_DOUBLE_ARCH_BELOW",
    "CARON_BELOW CIRCUMFLEX_ACCENT_BELOW BREVE_BELOW INVERTED_BREVE_BELOW TILDE_BELOW",
    "MACRON_BELOW LOW_LINE DOUBLE_LOW_LINE TILDE_OVERLAY SHORT_STROKE_OVERLAY",
    "LONG_STROKE_OVERLAY SHORT_SOLIDUS_OVERLAY LONG_SOLIDUS_OVERLAY RIGHT_HALF_RING_BELOW",
    "INVERTED_BRIDGE_BELOW SQUARE_BELOW SEAGULL_BELOW X_ABOVE VERTICAL_TILDE DOUBLE_OVERLINE",
    "GRAVE_TONE_MARK ACUTE_TONE_MARK GREEK_PERISPOMENI GREEK_KORONIS GREEK_DIALYTIKA_TONOS",
    "GREEK_YPOGEGRAMMENI BRIDGE_ABOVE EQUALS_SIGN_BELOW DOUBLE_VERTICAL_LINE_BELOW",
    "LEFT_ANGLE_BELOW NOT_TILDE_ABOVE HOMOTHETIC_ABOVE ALMOST_EQUAL_TO_ABOVE",
    "LEFT_RIGHT_ARROW_BELOW UPWARDS_ARROW_BELOW GRAPHEME_JOINER RIGHT_ARROWHEAD_ABOVE",
    "LEFT_HALF_RING_ABOVE FERMATA X_BELOW LEFT_ARROWHEAD_BELOW RIGHT_ARROWHEAD_BELOW",
    "RIGHT_ARROWHEAD_AND_UP_ARROWHEAD_BELOW RIGHT_HALF_RING_ABOVE DOT_ABOVE_RIGHT ASTERISK_BELOW",
    "DOUBLE_RING_BELOW ZIGZAG_ABOVE"]⟩,
   ⟨0x035c, "COMBINING_DOUBLE_", ["BREVE_BELOW BREVE MACRON MACRON_BELOW TILDE INVERTED_BREVE",
    "RIGHTWARDS_ARROW_BELOW"]⟩,
   ⟨0x0363, "COMBINING_LATIN_SMALL_LETTER_", ["A E I O U C D H M R T V X"]⟩,
   ⟨0x1ab0, "COMBINING_", ["DOUBLED_CIRCUMFLEX_ACCENT DIAERESIS-RING INFINITY DOWNWARDS_ARROW",
    "TRIPLE_DOT X-X_BELOW WIGGLY_LINE_BELOW OPEN_MARK_BELOW DOUBLE_OPEN_MARK_BELOW",
    "LIGHT_CENTRALIZATION_STROKE_BELOW STRONG_CENTRALIZATION_STROKE_BELOW PARENTHESES_ABOVE",
    "DOUBLE_PARENTHESES_ABOVE PARENTHESES_BELOW PARENTHESES_OVERLAY LATIN_SMALL_LETTER_W_BELOW",
    "LATIN_SMALL_LETTER_TURNED_W_BELOW LEFT_PARENTHESIS_ABOVE_LEFT RIGHT_PARENTHESIS_ABOVE_RIGHT",
    "LEFT_PARENTHESIS_BELOW_LEFT RIGHT_PARENTHESIS_BELOW_RIGHT SQUARE_BRACKETS_ABOVE",
    "NUMBER_SIGN_ABOVE INVERTED_DOUBLE_ARCH_ABOVE PLUS_SIGN_ABOVE DOUBLE_PLUS_SIGN_ABOVE",
    "DOUBLE_PLUS_SIGN_BELOW TRIPLE_ACUTE_ACCENT"]⟩,
   ⟨0x1acc, "COMBINING_LATIN_SMALL_LETTER_INSULAR_", ["G R T"]⟩,
   ⟨0x1dc0, "COMBINING_", ["DOTTED_GRAVE_ACCENT DOTTED_ACUTE_ACCENT SNAKE_BELOW SUSPENSION_MARK",
    "MACRON-ACUTE GRAVE-MACRON MACRON-GRAVE ACUTE-MACRON GRAVE-ACUTE-GRAVE ACUTE-GRAVE-ACUTE",
    "LATIN_SMALL_LETTER_R_BELOW BREVE-MACRON MACRON-BREVE DOUBLE_CIRCUMFLEX_ABOVE OGONEK_ABOVE",
    "ZIGZAG_BELOW IS_BELOW UR_ABOVE US_ABOVE"]⟩,
   ⟨0x1dd3, "COMBINING_LATIN_SMALL_LETTER_", ["FLATTENED_OPEN_A_ABOVE AE AO AV C_CEDILLA",
    "INSULAR_D ETH G"]⟩,
   ⟨0x1ddb, "COMBINING_LATIN_", ["LETTER_SMALL_CAPITAL_G SMALL_LETTER_K SMALL_LETTER_L",
    "LETTER_SMALL_CAPITAL_L LETTER_SMALL_CAPITAL_M SMALL_LETTER_N LETTER_SMALL_CAPITAL_N",
    "LETTER_SMALL_CAPITAL_R"]⟩,
   ⟨0x1de3, "COMBINING_LATIN_SMALL_LETTER_", ["R_ROTUNDA S LONG_S Z ALPHA B BETA SCHWA F",
    "L_WITH_DOUBLE_MIDDLE_TILDE O_WITH_LIGHT_CENTRALIZATION_STROKE P ESH",
    "U_WITH_LIGHT_CENTRALIZATION_STROKE W A_WITH_DIAERESIS O_WITH_DIAERESIS U_WITH_DIAERESIS"]⟩,
   ⟨0x1df5, "COMBINING_", ["UP_TACK_ABOVE KAVYKA_ABOVE_RIGHT KAVYKA_ABOVE_LEFT DOT_ABOVE_LEFT",
    "WIDE_INVERTED_BRIDGE_BELOW DOT_BELOW_LEFT DELETION_MARK DOUBLE_INVERTED_BREVE_BELOW",
    "ALMOST_EQUAL_TO_BELOW LEFT_ARROWHEAD_ABOVE RIGHT_ARROWHEAD_AND_DOWN_ARROWHEAD_BELOW"]⟩,
   ⟨0x2000, "", ["EN_QUAD EM_QUAD EN_SPACE EM_SPACE THREE-PER-EM_SPACE FOUR-PER-EM_SPACE",
    "SIX-PER-EM_SPACE FIGURE_SPACE PUNCTUATION_SPACE THIN_SPACE HAIR_SPACE ZERO_WIDTH_SPACE",
    "ZERO_WIDTH_NON-JOINER ZERO_WIDTH_JOINER LEFT-TO-RIGHT_MARK RIGHT-TO-LEFT_MARK HYPHEN",
    "NON-BREAKING_HYPHEN FIGURE_DASH EN_DASH EM_DASH HORIZONTAL_BAR DOUBLE_VERTICAL_LINE",
    "DOUBLE_LOW_LINE LEFT_SINGLE_QUOTATION_MARK RIGHT_SINGLE_QUOTATION_MARK",
    "SINGLE_LOW-9_QUOTATION_MARK SINGLE_HIGH-REVERSED-9_QUOTATION_MARK",
    "LEFT_DOUBLE_QUOTATION_MARK RIGHT_DOUBLE_QUOTATION_MARK DOUBLE_LOW-9_QUOTATION_MARK",
    "DOUBLE_HIGH-REVERSED-9_QUOTATION_MARK DAGGER DOUBLE_DAGGER BULLET TRIANGULAR_BULLET",
    "ONE_DOT_LEADER TWO_DOT_LEADER HORIZONTAL_ELLIPSIS HYPHENATION_POINT LINE_SEPARATOR",
    "PARAGRAPH_SEPARATOR LEFT-TO-RIGHT_EMBEDDING RIGHT-TO-LEFT_EMBEDDING",
    "POP_DIRECTIONAL_FORMATTING LEFT-TO-RIGHT_OVERRIDE RIGHT-TO-LEFT_OVERRIDE",
    "NARROW_NO-BREAK_SPACE PER_MILLE_SIGN PER_TEN_THOUSAND_SIGN PRIME DOUBLE_PRIME TRIPLE_PRIME",
    "REVERSED_PRIME REVERSED_DOUBLE_PRIME REVERSED_TRIPLE_PRIME CARET",
    "SINGLE_LEFT-POINTING_ANGLE_QUOTATION_MARK SINGLE_RIGHT-POINTING_ANGLE_QUOTATION_MARK",
    "REFERENCE_MARK DOUBLE_EXCLAMATION_MARK INTERROBANG OVERLINE UNDERTIE CHARACTER_TIE",
    "CARET_INSERTION_POINT ASTERISM HYPHEN_BULLET FRACTION_SLASH LEFT_SQUARE_BRACKET_WITH_QUILL",
    "RIGHT_SQUARE_BRACKET_WITH_QUILL DOUBLE_QUESTION_MARK QUESTION_EXCLAMATION_MARK",
    "EXCLAMATION_QUESTION_MARK TIRONIAN_SIGN_ET REVERSED_PILCROW_SIGN BLACK_LEFTWARDS_BULLET",
    "BLACK_RIGHTWARDS_BULLET LOW_ASTERISK REVERSED_SEMICOLON CLOSE_UP",
    "TWO_ASTERISKS_ALIGNED_VERTICALLY COMMERCIAL_MINUS_SIGN SWUNG_DASH INVERTED_UNDERTIE",
    "FLOWER_PUNCTUATION_MARK THREE_DOT_PUNCTUATION QUADRUPLE_PRIME FOUR_DOT_PUNCTUATION",
    "FIVE_DOT_PUNCTUATION TWO_DOT_PUNCTUATION FOUR_DOT_MARK DOTTED_CROSS TRICOLON",
    "VERTICAL_FOUR_DOTS MEDIUM_MATHEMATICAL_SPACE WORD_JOINER FUNCTION_APPLICATION",
    "INVISIBLE_TIMES INVISIBLE_SEPARATOR INVISIBLE_PLUS � LEFT-TO-RIGHT_ISOLATE",
    "RIGHT-TO-LEFT_ISOLATE FIRST_STRONG_ISOLATE POP_DIRECTIONAL_ISOLATE",
    "INHIBIT_SYMMETRIC_SWAPPING ACTIVATE_SYMMETRIC_SWAPPING INHIBIT_ARABIC_FORM_SHAPING",
    "ACTIVATE_ARABIC_FORM_SHAPING NATIONAL_DIGIT_SHAPES NOMINAL_DIGIT_SHAPES"]⟩,
   ⟨0x2070, "SUPERSCRIPT_", ["ZERO LATIN_SMALL_LETTER_I � � FOUR FIVE SIX SEVEN EIGHT NINE",
    "PLUS_SIGN MINUS EQUALS_SIGN LEFT_PARENTHESIS RIGHT_PARENTHESIS LATIN_SMALL_LETTER_N"]⟩,
   ⟨0x2080, "SUBSCRIPT_", ["ZERO ONE TWO THREE FOUR FIVE SIX SEVEN EIGHT NINE PLUS_SIGN MINUS",
    "EQUALS_SIGN LEFT_PARENTHESIS RIGHT_PARENTHESIS"]⟩,
   ⟨0x2090, "LATIN_SUBSCRIPT_SMALL_LETTER_", ["A E O X SCHWA H K L M N P S T"]⟩,
   ⟨0x20a0, "", ["EURO-CURRENCY_SIGN COLON_SIGN CRUZEIRO_SIGN FRENCH_FRANC_SIGN LIRA_SIGN",
    "MILL_SIGN NAIRA_SIGN PESETA_SIGN RUPEE_SIGN WON_SIGN NEW_SHEQEL_SIGN DONG_SIGN EURO_SIGN",
    "KIP_SIGN TUGRIK_SIGN DRACHMA_SIGN GERMAN_PENNY_SIGN PESO_SIGN GUARANI_SIGN AUSTRAL_SIGN",
    "HRYVNIA_SIGN CEDI_SIGN LIVRE_TOURNOIS_SIGN SPESMILO_SIGN TENGE_SIGN INDIAN_RUPEE_SIGN",
    "TURKISH_LIRA_SIGN NORDIC_MARK_SIGN MANAT_SIGN RUBLE_SIGN LARI_SIGN BITCOIN_SIGN SOM_SIGN"]⟩,
   ⟨0x20d0, "COMBINING_", ["LEFT_HARPOON_ABOVE RIGHT_HARPOON_ABOVE LONG_VERTICAL_LINE_OVERLAY",
    "SHORT_VERTICAL_LINE_OVERLAY ANTICLOCKWISE_ARROW_ABOVE CLOCKWISE_ARROW_ABOVE",
    "LEFT_ARROW_ABOVE RIGHT_ARROW_ABOVE RING_OVERLAY CLOCKWISE_RING_OVERLAY",
    "ANTICLOCKWISE_RING_OVERLAY THREE_DOTS_ABOVE FOUR_DOTS_ABOVE ENCLOSING_CIRCLE",
    "ENCLOSING_SQUARE ENCLOSING_DIAMOND ENCLOSING_CIRCLE_BACKSLASH LEFT_RIGHT_ARROW_ABOVE",
    "ENCLOSING_SCREEN ENCLOSING_KEYCAP ENCLOSING_UPWARD_POINTING_TRIANGLE",
    "REVERSE_SOLIDUS_OVERLAY DOUBLE_VERTICAL_STROKE_OVERLAY ANNUITY_SYMBOL TRIPLE_UNDERDOT",
    "WIDE_BRIDGE_ABOVE LEFTWARDS_ARROW_OVERLAY LONG_DOUBLE_SOLIDUS_OVERLAY",
    "RIGHTWARDS_HARPOON_WITH_BARB_DOWNWARDS LEFTWARDS_HARPOON_WITH_BARB_DOWNWARDS",
    "LEFT_ARROW_BELOW RIGHT_ARROW_BELOW ASTERISK_ABOVE"]⟩,
   ⟨0x2e00, "", ["RIGHT_ANGLE_SUBSTITUTION_MARKER RIGHT_ANGLE_DOTTED_SUBSTITUTION_MARKER",
    "LEFT_SUBSTITUTION_BRACKET RIGHT_SUBSTITUTION_BRACKET LEFT_DOTTED_SUBSTITUTION_BRACKET",
    "RIGHT_DOTTED_SUBSTITUTION_BRACKET RAISED_INTERPOLATION_MARKER",
    "RAISED_DOTTED_INTERPOLATION_MARKER DOTTED_TRANSPOSITION_MARKER LEFT_TRANSPOSITION_BRACKET",
    "RIGHT_TRANSPOSITION_BRACKET RAISED_SQUARE LEFT_RAISED_OMISSION_BRACKET",
    "RIGHT_RAISED_OMISSION_BRACKET EDITORIAL_CORONIS PARAGRAPHOS FORKED_PARAGRAPHOS",
    "REVERSED_FORKED_PARAGRAPHOS HYPODIASTOLE DOTTED_OBELOS DOWNWARDS_ANCORA UPWARDS_ANCORA",
    "DOTTED_RIGHT-POINTING_ANGLE DOUBLE_OBLIQUE_HYPHEN INVERTED_INTERROBANG PALM_BRANCH",
    "HYPHEN_WITH_DIAERESIS TILDE_WITH_RING_ABOVE LEFT_LOW_PARAPHRASE_BRACKET",
    "RIGHT_LOW_PARAPHRASE_BRACKET TILDE_WITH_DOT_ABOVE TILDE_WITH_DOT_BELOW",
    "LEFT_VERTICAL_BAR_WITH_QUILL RIGHT_VERTICAL_BAR_WITH_QUILL TOP_LEFT_HALF_BRACKET",
    "TOP_RIGHT_HALF_BRACKET BOTTOM_LEFT_HALF_BRACKET BOTTOM_RIGHT_HALF_BRACKET",
    "LEFT_SIDEWAYS_U_BRACKET RIGHT_SIDEWAYS_U_BRACKET LEFT_DOUBLE_PARENTHESIS",
    "RIGHT_DOUBLE_PARENTHESIS TWO_DOTS_OVER_ONE_DOT_PUNCTUATION",
    "ONE_DOT_OVER_TWO_DOTS_PUNCTUATION SQUARED_FOUR_DOT_PUNCTUATION FIVE_DOT_MARK",
    "REVERSED_QUESTION_MARK VERTICAL_TILDE RING_POINT WORD_SEPARATOR_MIDDLE_DOT TURNED_COMMA",
    "RAISED_DOT RAISED_COMMA TURNED_SEMICOLON DAGGER_WITH_LEFT_GUARD DAGGER_WITH_RIGHT_GUARD",
    "TURNED_DAGGER TOP_HALF_SECTION_SIGN TWO-EM_DASH THREE-EM_DASH STENOGRAPHIC_FULL_STOP",
    "VERTICAL_SIX_DOTS WIGGLY_VERTICAL_LINE CAPITULUM DOUBLE_HYPHEN REVERSED_COMMA",
    "DOUBLE_LOW-REVERSED-9_QUOTATION_MARK DASH_WITH_LEFT_UPTURN DOUBLE_SUSPENSION_MARK",
    "INVERTED_LOW_KAVYKA INVERTED_LOW_KAVYKA_WITH_KAVYKA_ABOVE LOW_KAVYKA LOW_KAVYKA_WITH_DOT",
    "DOUBLE_STACKED_COMMA DOTTED_SOLIDUS TRIPLE_DAGGER MEDIEVAL_COMMA PARAGRAPHUS_MARK",
    "PUNCTUS_ELEVATUS_MARK CORNISH_VERSE_DIVIDER CROSS_PATTY_WITH_RIGHT_CROSSBAR",
    "CROSS_PATTY_WITH_LEFT_CROSSBAR TIRONIAN_SIGN_CAPITAL_ET MEDIEVAL_EXCLAMATION_MARK",
    "MEDIEVAL_QUESTION_MARK LEFT_SQUARE_BRACKET_WITH_STROKE RIGHT_SQUARE_BRACKET_WITH_STROKE",
    "LEFT_SQUARE_BRACKET_WITH_DOUBLE_STROKE RIGHT_SQUARE_BRACKET_WITH_DOUBLE_STROKE",
    "TOP_HALF_LEFT_PARENTHESIS TOP_HALF_RIGHT_PARENTHESIS BOTTOM_HALF_LEFT_PARENTHESIS",
    "BOTTOM_HALF_RIGHT_PARENTHESIS OBLIQUE_HYPHEN"]⟩,
   ⟨0xfe20, "COMBINING_", ["LIGATURE_LEFT_HALF LIGATURE_RIGHT_HALF DOUBLE_TILDE_LEFT_HALF",
    "DOUBLE_TILDE_RIGHT_HALF MACRON_LEFT_HALF MACRON_RIGHT_HALF CONJOINING_MACRON",
    "LIGATURE_LEFT_HALF_BELOW LIGATURE_RIGHT_HALF_BELOW TILDE_LEFT_HALF_BELOW",
    "TILDE_RIGHT_HALF_BELOW MACRON_LEFT_HALF_BELOW MACRON_RIGHT_HALF_BELOW",
    "CONJOINING_MACRON_BELOW CYRILLIC_TITLO_LEFT_HALF CYRILLIC_TITLO_RIGHT_HALF"]⟩,
   ⟨0xfff9, "INTERLINEAR_ANNOTATION_", ["ANCHOR SEPARATOR TERMINATOR"]⟩,
   ⟨0xfffc, "", ["OBJECT_REPLACEMENT_CHARACTER REPLACEMENT_CHARACTER"]⟩,
   ⟨0xe0001, "LANGUAGE_", ["TAG"]⟩,
   ⟨0xe0020, "TAG_", ["SPACE EXCLAMATION_MARK QUOTATION_MARK NUMBER_SIGN DOLLAR_SIGN",
    "PERCENT_SIGN AMPERSAND APOSTROPHE LEFT_PARENTHESIS RIGHT_PARENTHESIS ASTERISK PLUS_SIGN",
    "COMMA HYPHEN-MINUS FULL_STOP SOLIDUS"]⟩,
   ⟨0xe0030, "TAG_DIGIT_", ["ZERO ONE TWO THREE FOUR FIVE SIX SEVEN EIGHT NINE"]⟩,
   ⟨0xe003a, "TAG_", ["COLON SEMICOLON LESS-THAN_SIGN EQUALS_SIGN GREATER-THAN_SIGN",
    "QUESTION_MARK COMMERCIAL_AT"]⟩,
   ⟨0xe0041, "TAG_LATIN_CAPITAL_LETTER_", ["A B C D E F G H I J K L M N O P Q R S T U V W X Y Z"]⟩,
   ⟨0xe005b, "TAG_", ["LEFT_SQUARE_BRACKET REVERSE_SOLIDUS RIGHT_SQUARE_BRACKET",
    "CIRCUMFLEX_ACCENT LOW_LINE GRAVE_ACCENT"]⟩,
   ⟨0xe0061, "TAG_LATIN_SMALL_LETTER_", ["A B C D E F G H I J K L M N O P Q R S T U V W X Y Z"]⟩,
   ⟨0xe007b, "", ["TAG_LEFT_CURLY_BRACKET TAG_VERTICAL_LINE TAG_RIGHT_CURLY_BRACKET TAG_TILDE",
    "CANCEL_TAG"]⟩]

end SqlRoutes.Text.Names
