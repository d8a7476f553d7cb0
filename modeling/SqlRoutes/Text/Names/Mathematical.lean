import SqlRoutes.Text.Names.Series

namespace SqlRoutes.Text.Names

def mathematical : List Series :=
  [⟨0x2100, "", ["ACCOUNT_OF ADDRESSED_TO_THE_SUBJECT DOUBLE-STRUCK_CAPITAL_C DEGREE_CELSIUS",
    "CENTRE_LINE_SYMBOL CARE_OF CADA_UNA EULER_CONSTANT SCRUPLE DEGREE_FAHRENHEIT SCRIPT_SMALL_G",
    "SCRIPT_CAPITAL_H BLACK-LETTER_CAPITAL_H DOUBLE-STRUCK_CAPITAL_H PLANCK_CONSTANT",
    "PLANCK_CONSTANT_OVER_TWO_PI SCRIPT_CAPITAL_I BLACK-LETTER_CAPITAL_I SCRIPT_CAPITAL_L",
    "SCRIPT_SMALL_L L_B_BAR_SYMBOL DOUBLE-STRUCK_CAPITAL_N NUMERO_SIGN"]⟩,
   ⟨0x2117, "SOUND_RECORDING_COPY", ["RIGHT"]⟩,
   ⟨0x2118, "", ["SCRIPT_CAPITAL_P DOUBLE-STRUCK_CAPITAL_P DOUBLE-STRUCK_CAPITAL_Q",
    "SCRIPT_CAPITAL_R BLACK-LETTER_CAPITAL_R DOUBLE-STRUCK_CAPITAL_R PRESCRIPTION_TAKE RESPONSE",
    "SERVICE_MARK TELEPHONE_SIGN TRADE_MARK_SIGN VERSICLE DOUBLE-STRUCK_CAPITAL_Z OUNCE_SIGN",
    "OHM_SIGN INVERTED_OHM_SIGN BLACK-LETTER_CAPITAL_Z TURNED_GREEK_SMALL_LETTER_IOTA",
    "KELVIN_SIGN ANGSTROM_SIGN SCRIPT_CAPITAL_B BLACK-LETTER_CAPITAL_C ESTIMATED_SYMBOL",
    "SCRIPT_SMALL_E SCRIPT_CAPITAL_E SCRIPT_CAPITAL_F TURNED_CAPITAL_F SCRIPT_CAPITAL_M",
    "SCRIPT_SMALL_O ALEF_SYMBOL BET_SYMBOL GIMEL_SYMBOL DALET_SYMBOL INFORMATION_SOURCE",
    "ROTATED_CAPITAL_Q FACSIMILE_SIGN"]⟩,
   ⟨0x213c, "DOUBLE-STRUCK_", ["SMALL_PI SMALL_GAMMA CAPITAL_GAMMA CAPITAL_PI N-ARY_SUMMATION"]⟩,
   ⟨0x2141, "TURNED_SANS-SERIF_CAPITAL_", ["G L"]⟩,
   ⟨0x2143, "", ["REVERSED_SANS-SERIF_CAPITAL_L TURNED_SANS-SERIF_CAPITAL_Y"]⟩,
   ⟨0x2145, "DOUBLE-STRUCK_ITALIC_", ["CAPITAL_D SMALL_D SMALL_E SMALL_I SMALL_J"]⟩,
   ⟨0x214a, "", ["PROPERTY_LINE TURNED_AMPERSAND PER_SIGN AKTIESELSKAB TURNED_SMALL_F",
    "SYMBOL_FOR_SAMARITAN_SOURCE"]⟩,
   ⟨0x2150, "VULGAR_FRACTION_", ["ONE_SEVENTH ONE_NINTH ONE_TENTH ONE_THIRD TWO_THIRDS ONE_FIFTH",
    "TWO_FIFTHS THREE_FIFTHS FOUR_FIFTHS ONE_SIXTH FIVE_SIXTHS ONE_EIGHTH THREE_EIGHTHS",
    "FIVE_EIGHTHS SEVEN_EIGHTHS"]⟩,
   ⟨0x215f, "FRACTION_NUMERATOR_", ["ONE"]⟩,
   ⟨0x2160, "ROMAN_NUMERAL_", ["ONE TWO THREE FOUR FIVE SIX SEVEN EIGHT NINE TEN ELEVEN TWELVE",
    "FIFTY ONE_HUNDRED FIVE_HUNDRED ONE_THOUSAND"]⟩,
   ⟨0x2170, "SMALL_ROMAN_NUMERAL_", ["ONE TWO THREE FOUR FIVE SIX SEVEN EIGHT NINE TEN ELEVEN",
    "TWELVE FIFTY ONE_HUNDRED FIVE_HUNDRED ONE_THOUSAND"]⟩,
   ⟨0x2180, "ROMAN_NUMERAL_", ["ONE_THOUSAND_C_D FIVE_THOUSAND TEN_THOUSAND REVERSED_ONE_HUNDRED"]⟩,
   ⟨0x2184, "", ["LATIN_SMALL_LETTER_REVERSED_C ROMAN_NUMERAL_SIX_LATE_FORM",
    "ROMAN_NUMERAL_FIFTY_EARLY_FORM ROMAN_NUMERAL_FIFTY_THOUSAND",
    "ROMAN_NUMERAL_ONE_HUNDRED_THOUSAND VULGAR_FRACTION_ZERO_THIRDS TURNED_DIGIT_TWO",
    "TURNED_DIGIT_THREE � � � � LEFTWARDS_ARROW UPWARDS_ARROW RIGHTWARDS_ARROW DOWNWARDS_ARROW",
    "LEFT_RIGHT_ARROW UP_DOWN_ARROW NORTH_WEST_ARROW NORTH_EAST_ARROW SOUTH_EAST_ARROW",
    "SOUTH_WEST_ARROW LEFTWARDS_ARROW_WITH_STROKE RIGHTWARDS_ARROW_WITH_STROKE",
    "LEFTWARDS_WAVE_ARROW RIGHTWARDS_WAVE_ARROW LEFTWARDS_TWO_HEADED_ARROW",
    "UPWARDS_TWO_HEADED_ARROW RIGHTWARDS_TWO_HEADED_ARROW DOWNWARDS_TWO_HEADED_ARROW",
    "LEFTWARDS_ARROW_WITH_TAIL RIGHTWARDS_ARROW_WITH_TAIL LEFTWARDS_ARROW_FROM_BAR",
    "UPWARDS_ARROW_FROM_BAR RIGHTWARDS_ARROW_FROM_BAR DOWNWARDS_ARROW_FROM_BAR",
    "UP_DOWN_ARROW_WITH_BASE LEFTWARDS_ARROW_WITH_HOOK RIGHTWARDS_ARROW_WITH_HOOK",
    "LEFTWARDS_ARROW_WITH_LOOP RIGHTWARDS_ARROW_WITH_LOOP LEFT_RIGHT_WAVE_ARROW",
    "LEFT_RIGHT_ARROW_WITH_STROKE DOWNWARDS_ZIGZAG_ARROW UPWARDS_ARROW_WITH_TIP_LEFTWARDS",
    "UPWARDS_ARROW_WITH_TIP_RIGHTWARDS DOWNWARDS_ARROW_WITH_TIP_LEFTWARDS",
    "DOWNWARDS_ARROW_WITH_TIP_RIGHTWARDS RIGHTWARDS_ARROW_WITH_CORNER_DOWNWARDS",
    "DOWNWARDS_ARROW_WITH_CORNER_LEFTWARDS ANTICLOCKWISE_TOP_SEMICIRCLE_ARROW",
    "CLOCKWISE_TOP_SEMICIRCLE_ARROW NORTH_WEST_ARROW_TO_LONG_BAR",
    "LEFTWARDS_ARROW_TO_BAR_OVER_RIGHTWARDS_ARROW_TO_BAR ANTICLOCKWISE_OPEN_CIRCLE_ARROW",
    "CLOCKWISE_OPEN_CIRCLE_ARROW"]⟩,
   ⟨0x21bc, "LEFTWARDS_HARPOON_WITH_BARB_", ["UPWARDS DOWNWARDS"]⟩,
   ⟨0x21be, "UPWARDS_HARPOON_WITH_BARB_", ["RIGHTWARDS LEFTWARDS"]⟩,
   ⟨0x21c0, "RIGHTWARDS_HARPOON_WITH_BARB_", ["UPWARDS DOWNWARDS"]⟩,
   ⟨0x21c2, "DOWNWARDS_HARPOON_WITH_BARB_", ["RIGHTWARDS LEFTWARDS"]⟩,
   ⟨0x21c4, "", ["RIGHTWARDS_ARROW_OVER_LEFTWARDS_ARROW",
    "UPWARDS_ARROW_LEFTWARDS_OF_DOWNWARDS_ARROW LEFTWARDS_ARROW_OVER_RIGHTWARDS_ARROW",
    "LEFTWARDS_PAIRED_ARROWS UPWARDS_PAIRED_ARROWS RIGHTWARDS_PAIRED_ARROWS",
    "DOWNWARDS_PAIRED_ARROWS LEFTWARDS_HARPOON_OVER_RIGHTWARDS_HARPOON",
    "RIGHTWARDS_HARPOON_OVER_LEFTWARDS_HARPOON LEFTWARDS_DOUBLE_ARROW_WITH_STROKE",
    "LEFT_RIGHT_DOUBLE_ARROW_WITH_STROKE RIGHTWARDS_DOUBLE_ARROW_WITH_STROKE",
    "LEFTWARDS_DOUBLE_ARROW UPWARDS_DOUBLE_ARROW RIGHTWARDS_DOUBLE_ARROW DOWNWARDS_DOUBLE_ARROW",
    "LEFT_RIGHT_DOUBLE_ARROW UP_DOWN_DOUBLE_ARROW NORTH_WEST_DOUBLE_ARROW",
    "NORTH_EAST_DOUBLE_ARROW SOUTH_EAST_DOUBLE_ARROW SOUTH_WEST_DOUBLE_ARROW",
    "LEFTWARDS_TRIPLE_ARROW RIGHTWARDS_TRIPLE_ARROW LEFTWARDS_SQUIGGLE_ARROW",
    "RIGHTWARDS_SQUIGGLE_ARROW UPWARDS_ARROW_WITH_DOUBLE_STROKE",
    "DOWNWARDS_ARROW_WITH_DOUBLE_STROKE LEFTWARDS_DASHED_ARROW UPWARDS_DASHED_ARROW",
    "RIGHTWARDS_DASHED_ARROW DOWNWARDS_DASHED_ARROW LEFTWARDS_ARROW_TO_BAR",
    "RIGHTWARDS_ARROW_TO_BAR LEFTWARDS_WHITE_ARROW UPWARDS_WHITE_ARROW RIGHTWARDS_WHITE_ARROW",
    "DOWNWARDS_WHITE_ARROW"]⟩,
   ⟨0x21ea, "UPWARDS_WHITE_", ["ARROW_FROM_BAR ARROW_ON_PEDESTAL",
    "ARROW_ON_PEDESTAL_WITH_HORIZONTAL_BAR ARROW_ON_PEDESTAL_WITH_VERTICAL_BAR DOUBLE_ARROW",
    "DOUBLE_ARROW_ON_PEDESTAL"]⟩,
   ⟨0x21f0, "", ["RIGHTWARDS_WHITE_ARROW_FROM_WALL NORTH_WEST_ARROW_TO_CORNER",
    "SOUTH_EAST_ARROW_TO_CORNER UP_DOWN_WHITE_ARROW RIGHT_ARROW_WITH_SMALL_CIRCLE",
    "DOWNWARDS_ARROW_LEFTWARDS_OF_UPWARDS_ARROW THREE_RIGHTWARDS_ARROWS",
    "LEFTWARDS_ARROW_WITH_VERTICAL_STROKE RIGHTWARDS_ARROW_WITH_VERTICAL_STROKE",
    "LEFT_RIGHT_ARROW_WITH_VERTICAL_STROKE LEFTWARDS_ARROW_WITH_DOUBLE_VERTICAL_STROKE",
    "RIGHTWARDS_ARROW_WITH_DOUBLE_VERTICAL_STROKE LEFT_RIGHT_ARROW_WITH_DOUBLE_VERTICAL_STROKE",
    "LEFTWARDS_OPEN-HEADED_ARROW RIGHTWARDS_OPEN-HEADED_ARROW LEFT_RIGHT_OPEN-HEADED_ARROW",
    "FOR_ALL COMPLEMENT PARTIAL_DIFFERENTIAL THERE_EXISTS THERE_DOES_NOT_EXIST EMPTY_SET",
    "INCREMENT NABLA ELEMENT_OF NOT_AN_ELEMENT_OF SMALL_ELEMENT_OF CONTAINS_AS_MEMBER",
    "DOES_NOT_CONTAIN_AS_MEMBER SMALL_CONTAINS_AS_MEMBER END_OF_PROOF N-ARY_PRODUCT",
    "N-ARY_COPRODUCT N-ARY_SUMMATION MINUS_SIGN MINUS-OR-PLUS_SIGN DOT_PLUS DIVISION_SLASH",
    "SET_MINUS ASTERISK_OPERATOR RING_OPERATOR BULLET_OPERATOR SQUARE_ROOT CUBE_ROOT FOURTH_ROOT",
    "PROPORTIONAL_TO INFINITY RIGHT_ANGLE ANGLE MEASURED_ANGLE SPHERICAL_ANGLE DIVIDES",
    "DOES_NOT_DIVIDE PARALLEL_TO NOT_PARALLEL_TO LOGICAL_AND LOGICAL_OR INTERSECTION UNION",
    "INTEGRAL DOUBLE_INTEGRAL TRIPLE_INTEGRAL CONTOUR_INTEGRAL SURFACE_INTEGRAL VOLUME_INTEGRAL",
    "CLOCKWISE_INTEGRAL CLOCKWISE_CONTOUR_INTEGRAL ANTICLOCKWISE_CONTOUR_INTEGRAL THEREFORE",
    "BECAUSE RATIO PROPORTION DOT_MINUS EXCESS GEOMETRIC_PROPORTION HOMOTHETIC TILDE_OPERATOR",
    "REVERSED_TILDE INVERTED_LAZY_S SINE_WAVE WREATH_PRODUCT NOT_TILDE MINUS_TILDE",
    "ASYMPTOTICALLY_EQUAL_TO NOT_ASYMPTOTICALLY_EQUAL_TO APPROXIMATELY_EQUAL_TO",
    "APPROXIMATELY_BUT_NOT_ACTUALLY_EQUAL_TO NEITHER_APPROXIMATELY_NOR_ACTUALLY_EQUAL_TO",
    "ALMOST_EQUAL_TO NOT_ALMOST_EQUAL_TO ALMOST_EQUAL_OR_EQUAL_TO TRIPLE_TILDE ALL_EQUAL_TO",
    "EQUIVALENT_TO GEOMETRICALLY_EQUIVALENT_TO DIFFERENCE_BETWEEN APPROACHES_THE_LIMIT",
    "GEOMETRICALLY_EQUAL_TO APPROXIMATELY_EQUAL_TO_OR_THE_IMAGE_OF",
    "IMAGE_OF_OR_APPROXIMATELY_EQUAL_TO COLON_EQUALS EQUALS_COLON RING_IN_EQUAL_TO RING_EQUAL_TO",
    "CORRESPONDS_TO ESTIMATES EQUIANGULAR_TO STAR_EQUALS DELTA_EQUAL_TO EQUAL_TO_BY_DEFINITION",
    "MEASURED_BY QUESTIONED_EQUAL_TO NOT_EQUAL_TO IDENTICAL_TO NOT_IDENTICAL_TO",
    "STRICTLY_EQUIVALENT_TO LESS-THAN_OR_EQUAL_TO GREATER-THAN_OR_EQUAL_TO",
    "LESS-THAN_OVER_EQUAL_TO GREATER-THAN_OVER_EQUAL_TO LESS-THAN_BUT_NOT_EQUAL_TO",
    "GREATER-THAN_BUT_NOT_EQUAL_TO MUCH_LESS-THAN MUCH_GREATER-THAN BETWEEN NOT_EQUIVALENT_TO",
    "NOT_LESS-THAN NOT_GREATER-THAN NEITHER_LESS-THAN_NOR_EQUAL_TO",
    "NEITHER_GREATER-THAN_NOR_EQUAL_TO LESS-THAN_OR_EQUIVALENT_TO GREATER-THAN_OR_EQUIVALENT_TO",
    "NEITHER_LESS-THAN_NOR_EQUIVALENT_TO NEITHER_GREATER-THAN_NOR_EQUIVALENT_TO",
    "LESS-THAN_OR_GREATER-THAN GREATER-THAN_OR_LESS-THAN NEITHER_LESS-THAN_NOR_GREATER-THAN",
    "NEITHER_GREATER-THAN_NOR_LESS-THAN PRECEDES SUCCEEDS PRECEDES_OR_EQUAL_TO",
    "SUCCEEDS_OR_EQUAL_TO PRECEDES_OR_EQUIVALENT_TO SUCCEEDS_OR_EQUIVALENT_TO DOES_NOT_PRECEDE",
    "DOES_NOT_SUCCEED SUBSET_OF SUPERSET_OF NOT_A_SUBSET_OF NOT_A_SUPERSET_OF",
    "SUBSET_OF_OR_EQUAL_TO SUPERSET_OF_OR_EQUAL_TO NEITHER_A_SUBSET_OF_NOR_EQUAL_TO",
    "NEITHER_A_SUPERSET_OF_NOR_EQUAL_TO SUBSET_OF_WITH_NOT_EQUAL_TO",
    "SUPERSET_OF_WITH_NOT_EQUAL_TO MULTISET MULTISET_MULTIPLICATION MULTISET_UNION"]⟩,
   ⟨0x228f, "SQUARE_", ["IMAGE_OF ORIGINAL_OF IMAGE_OF_OR_EQUAL_TO ORIGINAL_OF_OR_EQUAL_TO CAP",
    "CUP"]⟩,
   ⟨0x2295, "CIRCLED_", ["PLUS MINUS TIMES DIVISION_SLASH DOT_OPERATOR RING_OPERATOR",
    "ASTERISK_OPERATOR EQUALS DASH"]⟩,
   ⟨0x229e, "SQUARED_", ["PLUS MINUS TIMES DOT_OPERATOR"]⟩,
   ⟨0x22a2, "", ["RIGHT_TACK LEFT_TACK DOWN_TACK UP_TACK ASSERTION MODELS TRUE FORCES",
    "TRIPLE_VERTICAL_BAR_RIGHT_TURNSTILE DOUBLE_VERTICAL_BAR_DOUBLE_RIGHT_TURNSTILE",
    "DOES_NOT_PROVE NOT_TRUE DOES_NOT_FORCE NEGATED_DOUBLE_VERTICAL_BAR_DOUBLE_RIGHT_TURNSTILE",
    "PRECEDES_UNDER_RELATION SUCCEEDS_UNDER_RELATION NORMAL_SUBGROUP_OF",
    "CONTAINS_AS_NORMAL_SUBGROUP NORMAL_SUBGROUP_OF_OR_EQUAL_TO",
    "CONTAINS_AS_NORMAL_SUBGROUP_OR_EQUAL_TO ORIGINAL_OF IMAGE_OF MULTIMAP",
    "HERMITIAN_CONJUGATE_MATRIX INTERCALATE XOR NAND NOR RIGHT_ANGLE_WITH_ARC RIGHT_TRIANGLE",
    "N-ARY_LOGICAL_AND N-ARY_LOGICAL_OR N-ARY_INTERSECTION N-ARY_UNION DIAMOND_OPERATOR",
    "DOT_OPERATOR STAR_OPERATOR DIVISION_TIMES BOWTIE LEFT_NORMAL_FACTOR_SEMIDIRECT_PRODUCT",
    "RIGHT_NORMAL_FACTOR_SEMIDIRECT_PRODUCT LEFT_SEMIDIRECT_PRODUCT RIGHT_SEMIDIRECT_PRODUCT",
    "REVERSED_TILDE_EQUALS CURLY_LOGICAL_OR CURLY_LOGICAL_AND DOUBLE_SUBSET DOUBLE_SUPERSET",
    "DOUBLE_INTERSECTION DOUBLE_UNION PITCHFORK EQUAL_AND_PARALLEL_TO LESS-THAN_WITH_DOT",
    "GREATER-THAN_WITH_DOT VERY_MUCH_LESS-THAN VERY_MUCH_GREATER-THAN",
    "LESS-THAN_EQUAL_TO_OR_GREATER-THAN GREATER-THAN_EQUAL_TO_OR_LESS-THAN EQUAL_TO_OR_LESS-THAN",
    "EQUAL_TO_OR_GREATER-THAN EQUAL_TO_OR_PRECEDES EQUAL_TO_OR_SUCCEEDS",
    "DOES_NOT_PRECEDE_OR_EQUAL DOES_NOT_SUCCEED_OR_EQUAL NOT_SQUARE_IMAGE_OF_OR_EQUAL_TO",
    "NOT_SQUARE_ORIGINAL_OF_OR_EQUAL_TO SQUARE_IMAGE_OF_OR_NOT_EQUAL_TO",
    "SQUARE_ORIGINAL_OF_OR_NOT_EQUAL_TO LESS-THAN_BUT_NOT_EQUIVALENT_TO",
    "GREATER-THAN_BUT_NOT_EQUIVALENT_TO PRECEDES_BUT_NOT_EQUIVALENT_TO",
    "SUCCEEDS_BUT_NOT_EQUIVALENT_TO NOT_NORMAL_SUBGROUP_OF DOES_NOT_CONTAIN_AS_NORMAL_SUBGROUP",
    "NOT_NORMAL_SUBGROUP_OF_OR_EQUAL_TO DOES_NOT_CONTAIN_AS_NORMAL_SUBGROUP_OR_EQUAL",
    "VERTICAL_ELLIPSIS MIDLINE_HORIZONTAL_ELLIPSIS UP_RIGHT_DIAGONAL_ELLIPSIS",
    "DOWN_RIGHT_DIAGONAL_ELLIPSIS ELEMENT_OF_WITH_LONG_HORIZONTAL_STROKE",
    "ELEMENT_OF_WITH_VERTICAL_BAR_AT_END_OF_HORIZONTAL_STROKE",
    "SMALL_ELEMENT_OF_WITH_VERTICAL_BAR_AT_END_OF_HORIZONTAL_STROKE ELEMENT_OF_WITH_DOT_ABOVE",
    "ELEMENT_OF_WITH_OVERBAR SMALL_ELEMENT_OF_WITH_OVERBAR ELEMENT_OF_WITH_UNDERBAR",
    "ELEMENT_OF_WITH_TWO_HORIZONTAL_STROKES CONTAINS_WITH_LONG_HORIZONTAL_STROKE",
    "CONTAINS_WITH_VERTICAL_BAR_AT_END_OF_HORIZONTAL_STROKE",
    "SMALL_CONTAINS_WITH_VERTICAL_BAR_AT_END_OF_HORIZONTAL_STROKE CONTAINS_WITH_OVERBAR",
    "SMALL_CONTAINS_WITH_OVERBAR Z_NOTATION_BAG_MEMBERSHIP"]⟩,
   ⟨0x27c0, "", ["THREE_DIMENSIONAL_ANGLE WHITE_TRIANGLE_CONTAINING_SMALL_WHITE_TRIANGLE",
    "PERPENDICULAR OPEN_SUBSET OPEN_SUPERSET LEFT_S-SHAPED_BAG_DELIMITER",
    "RIGHT_S-SHAPED_BAG_DELIMITER OR_WITH_DOT_INSIDE REVERSE_SOLIDUS_PRECEDING_SUBSET",
    "SUPERSET_PRECEDING_SOLIDUS VERTICAL_BAR_WITH_HORIZONTAL_STROKE MATHEMATICAL_RISING_DIAGONAL",
    "LONG_DIVISION MATHEMATICAL_FALLING_DIAGONAL SQUARED_LOGICAL_AND SQUARED_LOGICAL_OR",
    "WHITE_DIAMOND_WITH_CENTRED_DOT AND_WITH_DOT ELEMENT_OF_OPENING_UPWARDS",
    "LOWER_RIGHT_CORNER_WITH_DOT UPPER_LEFT_CORNER_WITH_DOT LEFT_OUTER_JOIN RIGHT_OUTER_JOIN",
    "FULL_OUTER_JOIN LARGE_UP_TACK LARGE_DOWN_TACK LEFT_AND_RIGHT_DOUBLE_TURNSTILE",
    "LEFT_AND_RIGHT_TACK LEFT_MULTIMAP LONG_RIGHT_TACK LONG_LEFT_TACK UP_TACK_WITH_CIRCLE_ABOVE",
    "LOZENGE_DIVIDED_BY_HORIZONTAL_RULE"]⟩,
   ⟨0x27e1, "WHITE_CONCAVE-SIDED_", ["DIAMOND DIAMOND_WITH_LEFTWARDS_TICK",
    "DIAMOND_WITH_RIGHTWARDS_TICK"]⟩,
   ⟨0x27e4, "WHITE_SQUARE_WITH_", ["LEFTWARDS_TICK RIGHTWARDS_TICK"]⟩,
   ⟨0x27e6, "MATHEMATICAL_", ["LEFT_WHITE_SQUARE_BRACKET RIGHT_WHITE_SQUARE_BRACKET",
    "LEFT_ANGLE_BRACKET RIGHT_ANGLE_BRACKET LEFT_DOUBLE_ANGLE_BRACKET RIGHT_DOUBLE_ANGLE_BRACKET",
    "LEFT_WHITE_TORTOISE_SHELL_BRACKET RIGHT_WHITE_TORTOISE_SHELL_BRACKET",
    "LEFT_FLATTENED_PARENTHESIS RIGHT_FLATTENED_PARENTHESIS"]⟩,
   ⟨0x27f0, "", ["UPWARDS_QUADRUPLE_ARROW DOWNWARDS_QUADRUPLE_ARROW",
    "ANTICLOCKWISE_GAPPED_CIRCLE_ARROW CLOCKWISE_GAPPED_CIRCLE_ARROW",
    "RIGHT_ARROW_WITH_CIRCLED_PLUS"]⟩,
   ⟨0x27f5, "LONG_", ["LEFTWARDS_ARROW RIGHTWARDS_ARROW LEFT_RIGHT_ARROW LEFTWARDS_DOUBLE_ARROW",
    "RIGHTWARDS_DOUBLE_ARROW LEFT_RIGHT_DOUBLE_ARROW LEFTWARDS_ARROW_FROM_BAR",
    "RIGHTWARDS_ARROW_FROM_BAR LEFTWARDS_DOUBLE_ARROW_FROM_BAR RIGHTWARDS_DOUBLE_ARROW_FROM_BAR",
    "RIGHTWARDS_SQUIGGLE_ARROW"]⟩,
   ⟨0x2900, "RIGHTWARDS_TWO-HEADED_ARROW_WITH_", ["VERTICAL_STROKE DOUBLE_VERTICAL_STROKE"]⟩,
   ⟨0x2902, "", ["LEFTWARDS_DOUBLE_ARROW_WITH_VERTICAL_STROKE",
    "RIGHTWARDS_DOUBLE_ARROW_WITH_VERTICAL_STROKE LEFT_RIGHT_DOUBLE_ARROW_WITH_VERTICAL_STROKE",
    "RIGHTWARDS_TWO-HEADED_ARROW_FROM_BAR LEFTWARDS_DOUBLE_ARROW_FROM_BAR",
    "RIGHTWARDS_DOUBLE_ARROW_FROM_BAR DOWNWARDS_ARROW_WITH_HORIZONTAL_STROKE",
    "UPWARDS_ARROW_WITH_HORIZONTAL_STROKE UPWARDS_TRIPLE_ARROW DOWNWARDS_TRIPLE_ARROW",
    "LEFTWARDS_DOUBLE_DASH_ARROW RIGHTWARDS_DOUBLE_DASH_ARROW LEFTWARDS_TRIPLE_DASH_ARROW",
    "RIGHTWARDS_TRIPLE_DASH_ARROW RIGHTWARDS_TWO-HEADED_TRIPLE_DASH_ARROW",
    "RIGHTWARDS_ARROW_WITH_DOTTED_STEM UPWARDS_ARROW_TO_BAR DOWNWARDS_ARROW_TO_BAR"]⟩,
   ⟨0x2914, "RIGHTWARDS_ARROW_WITH_TAIL_WITH_", ["VERTICAL_STROKE DOUBLE_VERTICAL_STROKE"]⟩,
   ⟨0x2916, "RIGHTWARDS_TWO-HEADED_ARROW_WITH_", ["TAIL TAIL_WITH_VERTICAL_STROKE",
    "TAIL_WITH_DOUBLE_VERTICAL_STROKE"]⟩,
   ⟨0x2919, "", ["LEFTWARDS_ARROW-TAIL RIGHTWARDS_ARROW-TAIL LEFTWARDS_DOUBLE_ARROW-TAIL",
    "RIGHTWARDS_DOUBLE_ARROW-TAIL LEFTWARDS_ARROW_TO_BLACK_DIAMOND",
    "RIGHTWARDS_ARROW_TO_BLACK_DIAMOND LEFTWARDS_ARROW_FROM_BAR_TO_BLACK_DIAMOND",
    "RIGHTWARDS_ARROW_FROM_BAR_TO_BLACK_DIAMOND NORTH_WEST_AND_SOUTH_EAST_ARROW",
    "NORTH_EAST_AND_SOUTH_WEST_ARROW NORTH_WEST_ARROW_WITH_HOOK NORTH_EAST_ARROW_WITH_HOOK",
    "SOUTH_EAST_ARROW_WITH_HOOK SOUTH_WEST_ARROW_WITH_HOOK NORTH_WEST_ARROW_AND_NORTH_EAST_ARROW",
    "NORTH_EAST_ARROW_AND_SOUTH_EAST_ARROW SOUTH_EAST_ARROW_AND_SOUTH_WEST_ARROW",
    "SOUTH_WEST_ARROW_AND_NORTH_WEST_ARROW RISING_DIAGONAL_CROSSING_FALLING_DIAGONAL",
    "FALLING_DIAGONAL_CROSSING_RISING_DIAGONAL SOUTH_EAST_ARROW_CROSSING_NORTH_EAST_ARROW",
    "NORTH_EAST_ARROW_CROSSING_SOUTH_EAST_ARROW FALLING_DIAGONAL_CROSSING_NORTH_EAST_ARROW",
    "RISING_DIAGONAL_CROSSING_SOUTH_EAST_ARROW NORTH_EAST_ARROW_CROSSING_NORTH_WEST_ARROW",
    "NORTH_WEST_ARROW_CROSSING_NORTH_EAST_ARROW WAVE_ARROW_POINTING_DIRECTLY_RIGHT"]⟩,
   ⟨0x2934, "ARROW_POINTING_RIGHTWARDS_THEN_CURVING_", ["UPWARDS DOWNWARDS"]⟩,
   ⟨0x2936, "ARROW_POINTING_DOWNWARDS_THEN_CURVING_", ["LEFTWARDS RIGHTWARDS"]⟩,
   ⟨0x2938, "", ["RIGHT-SIDE_ARC_CLOCKWISE_ARROW LEFT-SIDE_ARC_ANTICLOCKWISE_ARROW",
    "TOP_ARC_ANTICLOCKWISE_ARROW BOTTOM_ARC_ANTICLOCKWISE_ARROW",
    "TOP_ARC_CLOCKWISE_ARROW_WITH_MINUS TOP_ARC_ANTICLOCKWISE_ARROW_WITH_PLUS",
    "LOWER_RIGHT_SEMICIRCULAR_CLOCKWISE_ARROW LOWER_LEFT_SEMICIRCULAR_ANTICLOCKWISE_ARROW",
    "ANTICLOCKWISE_CLOSED_CIRCLE_ARROW CLOCKWISE_CLOSED_CIRCLE_ARROW",
    "RIGHTWARDS_ARROW_ABOVE_SHORT_LEFTWARDS_ARROW LEFTWARDS_ARROW_ABOVE_SHORT_RIGHTWARDS_ARROW",
    "SHORT_RIGHTWARDS_ARROW_ABOVE_LEFTWARDS_ARROW RIGHTWARDS_ARROW_WITH_PLUS_BELOW",
    "LEFTWARDS_ARROW_WITH_PLUS_BELOW RIGHTWARDS_ARROW_THROUGH_X",
    "LEFT_RIGHT_ARROW_THROUGH_SMALL_CIRCLE UPWARDS_TWO-HEADED_ARROW_FROM_SMALL_CIRCLE",
    "LEFT_BARB_UP_RIGHT_BARB_DOWN_HARPOON LEFT_BARB_DOWN_RIGHT_BARB_UP_HARPOON",
    "UP_BARB_RIGHT_DOWN_BARB_LEFT_HARPOON UP_BARB_LEFT_DOWN_BARB_RIGHT_HARPOON",
    "LEFT_BARB_UP_RIGHT_BARB_UP_HARPOON UP_BARB_RIGHT_DOWN_BARB_RIGHT_HARPOON",
    "LEFT_BARB_DOWN_RIGHT_BARB_DOWN_HARPOON UP_BARB_LEFT_DOWN_BARB_LEFT_HARPOON",
    "LEFTWARDS_HARPOON_WITH_BARB_UP_TO_BAR RIGHTWARDS_HARPOON_WITH_BARB_UP_TO_BAR",
    "UPWARDS_HARPOON_WITH_BARB_RIGHT_TO_BAR DOWNWARDS_HARPOON_WITH_BARB_RIGHT_TO_BAR",
    "LEFTWARDS_HARPOON_WITH_BARB_DOWN_TO_BAR RIGHTWARDS_HARPOON_WITH_BARB_DOWN_TO_BAR",
    "UPWARDS_HARPOON_WITH_BARB_LEFT_TO_BAR DOWNWARDS_HARPOON_WITH_BARB_LEFT_TO_BAR",
    "LEFTWARDS_HARPOON_WITH_BARB_UP_FROM_BAR RIGHTWARDS_HARPOON_WITH_BARB_UP_FROM_BAR",
    "UPWARDS_HARPOON_WITH_BARB_RIGHT_FROM_BAR DOWNWARDS_HARPOON_WITH_BARB_RIGHT_FROM_BAR",
    "LEFTWARDS_HARPOON_WITH_BARB_DOWN_FROM_BAR RIGHTWARDS_HARPOON_WITH_BARB_DOWN_FROM_BAR",
    "UPWARDS_HARPOON_WITH_BARB_LEFT_FROM_BAR DOWNWARDS_HARPOON_WITH_BARB_LEFT_FROM_BAR",
    "LEFTWARDS_HARPOON_WITH_BARB_UP_ABOVE_LEFTWARDS_HARPOON_WITH_BARB_DOWN",
    "UPWARDS_HARPOON_WITH_BARB_LEFT_BESIDE_UPWARDS_HARPOON_WITH_BARB_RIGHT",
    "RIGHTWARDS_HARPOON_WITH_BARB_UP_ABOVE_RIGHTWARDS_HARPOON_WITH_BARB_DOWN",
    "DOWNWARDS_HARPOON_WITH_BARB_LEFT_BESIDE_DOWNWARDS_HARPOON_WITH_BARB_RIGHT"]⟩,
   ⟨0x2966, "LEFTWARDS_HARPOON_WITH_BARB_", ["UP_ABOVE_RIGHTWARDS_HARPOON_WITH_BARB_UP",
    "DOWN_ABOVE_RIGHTWARDS_HARPOON_WITH_BARB_DOWN"]⟩,
   ⟨0x2968, "RIGHTWARDS_HARPOON_WITH_BARB_", ["UP_ABOVE_LEFTWARDS_HARPOON_WITH_BARB_UP",
    "DOWN_ABOVE_LEFTWARDS_HARPOON_WITH_BARB_DOWN"]⟩,
   ⟨0x296a, "LEFTWARDS_HARPOON_WITH_BARB_", ["UP_ABOVE_LONG_DASH DOWN_BELOW_LONG_DASH"]⟩,
   ⟨0x296c, "RIGHTWARDS_HARPOON_WITH_BARB_", ["UP_ABOVE_LONG_DASH DOWN_BELOW_LONG_DASH"]⟩,
   ⟨0x296e, "", ["UPWARDS_HARPOON_WITH_BARB_LEFT_BESIDE_DOWNWARDS_HARPOON_WITH_BARB_RIGHT",
    "DOWNWARDS_HARPOON_WITH_BARB_LEFT_BESIDE_UPWARDS_HARPOON_WITH_BARB_RIGHT",
    "RIGHT_DOUBLE_ARROW_WITH_ROUNDED_HEAD EQUALS_SIGN_ABOVE_RIGHTWARDS_ARROW",
    "TILDE_OPERATOR_ABOVE_RIGHTWARDS_ARROW LEFTWARDS_ARROW_ABOVE_TILDE_OPERATOR",
    "RIGHTWARDS_ARROW_ABOVE_TILDE_OPERATOR RIGHTWARDS_ARROW_ABOVE_ALMOST_EQUAL_TO",
    "LESS-THAN_ABOVE_LEFTWARDS_ARROW LEFTWARDS_ARROW_THROUGH_LESS-THAN",
    "GREATER-THAN_ABOVE_RIGHTWARDS_ARROW SUBSET_ABOVE_RIGHTWARDS_ARROW",
    "LEFTWARDS_ARROW_THROUGH_SUBSET SUPERSET_ABOVE_LEFTWARDS_ARROW LEFT_FISH_TAIL",
    "RIGHT_FISH_TAIL UP_FISH_TAIL DOWN_FISH_TAIL TRIPLE_VERTICAL_BAR_DELIMITER Z_NOTATION_SPOT",
    "Z_NOTATION_TYPE_COLON LEFT_WHITE_CURLY_BRACKET RIGHT_WHITE_CURLY_BRACKET",
    "LEFT_WHITE_PARENTHESIS RIGHT_WHITE_PARENTHESIS Z_NOTATION_LEFT_IMAGE_BRACKET",
    "Z_NOTATION_RIGHT_IMAGE_BRACKET Z_NOTATION_LEFT_BINDING_BRACKET",
    "Z_NOTATION_RIGHT_BINDING_BRACKET LEFT_SQUARE_BRACKET_WITH_UNDERBAR",
    "RIGHT_SQUARE_BRACKET_WITH_UNDERBAR LEFT_SQUARE_BRACKET_WITH_TICK_IN_TOP_CORNER",
    "RIGHT_SQUARE_BRACKET_WITH_TICK_IN_BOTTOM_CORNER",
    "LEFT_SQUARE_BRACKET_WITH_TICK_IN_BOTTOM_CORNER RIGHT_SQUARE_BRACKET_WITH_TICK_IN_TOP_CORNER",
    "LEFT_ANGLE_BRACKET_WITH_DOT RIGHT_ANGLE_BRACKET_WITH_DOT LEFT_ARC_LESS-THAN_BRACKET",
    "RIGHT_ARC_GREATER-THAN_BRACKET DOUBLE_LEFT_ARC_GREATER-THAN_BRACKET",
    "DOUBLE_RIGHT_ARC_LESS-THAN_BRACKET LEFT_BLACK_TORTOISE_SHELL_BRACKET",
    "RIGHT_BLACK_TORTOISE_SHELL_BRACKET DOTTED_FENCE VERTICAL_ZIGZAG_LINE",
    "MEASURED_ANGLE_OPENING_LEFT RIGHT_ANGLE_VARIANT_WITH_SQUARE MEASURED_RIGHT_ANGLE_WITH_DOT",
    "ANGLE_WITH_S_INSIDE ACUTE_ANGLE SPHERICAL_ANGLE_OPENING_LEFT SPHERICAL_ANGLE_OPENING_UP",
    "TURNED_ANGLE REVERSED_ANGLE ANGLE_WITH_UNDERBAR REVERSED_ANGLE_WITH_UNDERBAR",
    "OBLIQUE_ANGLE_OPENING_UP OBLIQUE_ANGLE_OPENING_DOWN"]⟩,
   ⟨0x29a8, "MEASURED_ANGLE_WITH_OPEN_ARM_ENDING_IN_ARROW_POINTING_", ["UP_AND_RIGHT UP_AND_LEFT",
    "DOWN_AND_RIGHT DOWN_AND_LEFT RIGHT_AND_UP LEFT_AND_UP RIGHT_AND_DOWN LEFT_AND_DOWN"]⟩,
   ⟨0x29b0, "REVERSED_EMPTY_", ["SET"]⟩,
   ⟨0x29b1, "EMPTY_SET_WITH_", ["OVERBAR SMALL_CIRCLE_ABOVE RIGHT_ARROW_ABOVE LEFT_ARROW_ABOVE"]⟩,
   ⟨0x29b5, "", ["CIRCLE_WITH_HORIZONTAL_BAR CIRCLED_VERTICAL_BAR CIRCLED_PARALLEL",
    "CIRCLED_REVERSE_SOLIDUS CIRCLED_PERPENDICULAR",
    "CIRCLE_DIVIDED_BY_HORIZONTAL_BAR_AND_TOP_HALF_DIVIDED_BY_VERTICAL_BAR",
    "CIRCLE_WITH_SUPERIMPOSED_X CIRCLED_ANTICLOCKWISE-ROTATED_DIVISION_SIGN",
    "UP_ARROW_THROUGH_CIRCLE CIRCLED_WHITE_BULLET CIRCLED_BULLET CIRCLED_LESS-THAN",
    "CIRCLED_GREATER-THAN CIRCLE_WITH_SMALL_CIRCLE_TO_THE_RIGHT",
    "CIRCLE_WITH_TWO_HORIZONTAL_STROKES_TO_THE_RIGHT SQUARED_RISING_DIAGONAL_SLASH",
    "SQUARED_FALLING_DIAGONAL_SLASH SQUARED_ASTERISK SQUARED_SMALL_CIRCLE SQUARED_SQUARE",
    "TWO_JOINED_SQUARES TRIANGLE_WITH_DOT_ABOVE TRIANGLE_WITH_UNDERBAR S_IN_TRIANGLE",
    "TRIANGLE_WITH_SERIFS_AT_BOTTOM RIGHT_TRIANGLE_ABOVE_LEFT_TRIANGLE",
    "LEFT_TRIANGLE_BESIDE_VERTICAL_BAR VERTICAL_BAR_BESIDE_RIGHT_TRIANGLE",
    "BOWTIE_WITH_LEFT_HALF_BLACK BOWTIE_WITH_RIGHT_HALF_BLACK BLACK_BOWTIE",
    "TIMES_WITH_LEFT_HALF_BLACK TIMES_WITH_RIGHT_HALF_BLACK WHITE_HOURGLASS BLACK_HOURGLASS",
    "LEFT_WIGGLY_FENCE RIGHT_WIGGLY_FENCE LEFT_DOUBLE_WIGGLY_FENCE RIGHT_DOUBLE_WIGGLY_FENCE",
    "INCOMPLETE_INFINITY TIE_OVER_INFINITY INFINITY_NEGATED_WITH_VERTICAL_BAR",
    "DOUBLE-ENDED_MULTIMAP SQUARE_WITH_CONTOURED_OUTLINE INCREASES_AS SHUFFLE_PRODUCT",
    "EQUALS_SIGN_AND_SLANTED_PARALLEL EQUALS_SIGN_AND_SLANTED_PARALLEL_WITH_TILDE_ABOVE",
    "IDENTICAL_TO_AND_SLANTED_PARALLEL GLEICH_STARK THERMODYNAMIC",
    "DOWN-POINTING_TRIANGLE_WITH_LEFT_HALF_BLACK DOWN-POINTING_TRIANGLE_WITH_RIGHT_HALF_BLACK",
    "BLACK_DIAMOND_WITH_DOWN_ARROW BLACK_LOZENGE WHITE_CIRCLE_WITH_DOWN_ARROW",
    "BLACK_CIRCLE_WITH_DOWN_ARROW"]⟩,
   ⟨0x29ee, "ERROR-BARRED_", ["WHITE_SQUARE BLACK_SQUARE WHITE_DIAMOND BLACK_DIAMOND",
    "WHITE_CIRCLE BLACK_CIRCLE"]⟩,
   ⟨0x29f4, "", ["RULE-DELAYED REVERSE_SOLIDUS_OPERATOR SOLIDUS_WITH_OVERBAR",
    "REVERSE_SOLIDUS_WITH_HORIZONTAL_STROKE BIG_SOLIDUS BIG_REVERSE_SOLIDUS DOUBLE_PLUS",
    "TRIPLE_PLUS LEFT-POINTING_CURVED_ANGLE_BRACKET RIGHT-POINTING_CURVED_ANGLE_BRACKET TINY",
    "MINY N-ARY_CIRCLED_DOT_OPERATOR N-ARY_CIRCLED_PLUS_OPERATOR N-ARY_CIRCLED_TIMES_OPERATOR",
    "N-ARY_UNION_OPERATOR_WITH_DOT N-ARY_UNION_OPERATOR_WITH_PLUS",
    "N-ARY_SQUARE_INTERSECTION_OPERATOR N-ARY_SQUARE_UNION_OPERATOR TWO_LOGICAL_AND_OPERATOR",
    "TWO_LOGICAL_OR_OPERATOR N-ARY_TIMES_OPERATOR MODULO_TWO_SUM SUMMATION_WITH_INTEGRAL",
    "QUADRUPLE_INTEGRAL_OPERATOR FINITE_PART_INTEGRAL INTEGRAL_WITH_DOUBLE_STROKE",
    "INTEGRAL_AVERAGE_WITH_SLASH CIRCULATION_FUNCTION ANTICLOCKWISE_INTEGRATION",
    "LINE_INTEGRATION_WITH_RECTANGULAR_PATH_AROUND_POLE",
    "LINE_INTEGRATION_WITH_SEMICIRCULAR_PATH_AROUND_POLE LINE_INTEGRATION_NOT_INCLUDING_THE_POLE",
    "INTEGRAL_AROUND_A_POINT_OPERATOR QUATERNION_INTEGRAL_OPERATOR"]⟩,
   ⟨0x2a17, "INTEGRAL_WITH_", ["LEFTWARDS_ARROW_WITH_HOOK TIMES_SIGN INTERSECTION UNION OVERBAR",
    "UNDERBAR"]⟩,
   ⟨0x2a1d, "", ["JOIN LARGE_LEFT_TRIANGLE_OPERATOR"]⟩,
   ⟨0x2a1f, "Z_NOTATION_SCHEMA_", ["COMPOSITION PIPING PROJECTION"]⟩,
   ⟨0x2a22, "PLUS_SIGN_WITH_", ["SMALL_CIRCLE_ABOVE CIRCUMFLEX_ACCENT_ABOVE TILDE_ABOVE",
    "DOT_BELOW TILDE_BELOW SUBSCRIPT_TWO BLACK_TRIANGLE"]⟩,
   ⟨0x2a29, "MINUS_SIGN_WITH_", ["COMMA_ABOVE DOT_BELOW FALLING_DOTS RISING_DOTS"]⟩,
   ⟨0x2a2d, "", ["PLUS_SIGN_IN_LEFT_HALF_CIRCLE PLUS_SIGN_IN_RIGHT_HALF_CIRCLE",
    "VECTOR_OR_CROSS_PRODUCT MULTIPLICATION_SIGN_WITH_DOT_ABOVE",
    "MULTIPLICATION_SIGN_WITH_UNDERBAR SEMIDIRECT_PRODUCT_WITH_BOTTOM_CLOSED SMASH_PRODUCT",
    "MULTIPLICATION_SIGN_IN_LEFT_HALF_CIRCLE MULTIPLICATION_SIGN_IN_RIGHT_HALF_CIRCLE",
    "CIRCLED_MULTIPLICATION_SIGN_WITH_CIRCUMFLEX_ACCENT MULTIPLICATION_SIGN_IN_DOUBLE_CIRCLE",
    "CIRCLED_DIVISION_SIGN PLUS_SIGN_IN_TRIANGLE MINUS_SIGN_IN_TRIANGLE",
    "MULTIPLICATION_SIGN_IN_TRIANGLE INTERIOR_PRODUCT RIGHTHAND_INTERIOR_PRODUCT",
    "Z_NOTATION_RELATIONAL_COMPOSITION AMALGAMATION_OR_COPRODUCT INTERSECTION_WITH_DOT",
    "UNION_WITH_MINUS_SIGN UNION_WITH_OVERBAR INTERSECTION_WITH_OVERBAR",
    "INTERSECTION_WITH_LOGICAL_AND UNION_WITH_LOGICAL_OR UNION_ABOVE_INTERSECTION",
    "INTERSECTION_ABOVE_UNION UNION_ABOVE_BAR_ABOVE_INTERSECTION",
    "INTERSECTION_ABOVE_BAR_ABOVE_UNION UNION_BESIDE_AND_JOINED_WITH_UNION",
    "INTERSECTION_BESIDE_AND_JOINED_WITH_INTERSECTION CLOSED_UNION_WITH_SERIFS",
    "CLOSED_INTERSECTION_WITH_SERIFS DOUBLE_SQUARE_INTERSECTION DOUBLE_SQUARE_UNION",
    "CLOSED_UNION_WITH_SERIFS_AND_SMASH_PRODUCT LOGICAL_AND_WITH_DOT_ABOVE",
    "LOGICAL_OR_WITH_DOT_ABOVE DOUBLE_LOGICAL_AND DOUBLE_LOGICAL_OR TWO_INTERSECTING_LOGICAL_AND",
    "TWO_INTERSECTING_LOGICAL_OR SLOPING_LARGE_OR SLOPING_LARGE_AND"]⟩,
   ⟨0x2a59, "LOGICAL_", ["OR_OVERLAPPING_LOGICAL_AND AND_WITH_MIDDLE_STEM OR_WITH_MIDDLE_STEM",
    "AND_WITH_HORIZONTAL_DASH OR_WITH_HORIZONTAL_DASH AND_WITH_DOUBLE_OVERBAR AND_WITH_UNDERBAR",
    "AND_WITH_DOUBLE_UNDERBAR"]⟩,
   ⟨0x2a61, "", ["SMALL_VEE_WITH_UNDERBAR LOGICAL_OR_WITH_DOUBLE_OVERBAR",
    "LOGICAL_OR_WITH_DOUBLE_UNDERBAR Z_NOTATION_DOMAIN_ANTIRESTRICTION",
    "Z_NOTATION_RANGE_ANTIRESTRICTION EQUALS_SIGN_WITH_DOT_BELOW IDENTICAL_WITH_DOT_ABOVE",
    "TRIPLE_HORIZONTAL_BAR_WITH_DOUBLE_VERTICAL_STROKE",
    "TRIPLE_HORIZONTAL_BAR_WITH_TRIPLE_VERTICAL_STROKE TILDE_OPERATOR_WITH_DOT_ABOVE",
    "TILDE_OPERATOR_WITH_RISING_DOTS SIMILAR_MINUS_SIMILAR CONGRUENT_WITH_DOT_ABOVE",
    "EQUALS_WITH_ASTERISK ALMOST_EQUAL_TO_WITH_CIRCUMFLEX_ACCENT APPROXIMATELY_EQUAL_OR_EQUAL_TO",
    "EQUALS_SIGN_ABOVE_PLUS_SIGN PLUS_SIGN_ABOVE_EQUALS_SIGN EQUALS_SIGN_ABOVE_TILDE_OPERATOR",
    "DOUBLE_COLON_EQUAL TWO_CONSECUTIVE_EQUALS_SIGNS THREE_CONSECUTIVE_EQUALS_SIGNS",
    "EQUALS_SIGN_WITH_TWO_DOTS_ABOVE_AND_TWO_DOTS_BELOW EQUIVALENT_WITH_FOUR_DOTS_ABOVE",
    "LESS-THAN_WITH_CIRCLE_INSIDE GREATER-THAN_WITH_CIRCLE_INSIDE",
    "LESS-THAN_WITH_QUESTION_MARK_ABOVE GREATER-THAN_WITH_QUESTION_MARK_ABOVE",
    "LESS-THAN_OR_SLANTED_EQUAL_TO GREATER-THAN_OR_SLANTED_EQUAL_TO",
    "LESS-THAN_OR_SLANTED_EQUAL_TO_WITH_DOT_INSIDE",
    "GREATER-THAN_OR_SLANTED_EQUAL_TO_WITH_DOT_INSIDE",
    "LESS-THAN_OR_SLANTED_EQUAL_TO_WITH_DOT_ABOVE",
    "GREATER-THAN_OR_SLANTED_EQUAL_TO_WITH_DOT_ABOVE",
    "LESS-THAN_OR_SLANTED_EQUAL_TO_WITH_DOT_ABOVE_RIGHT",
    "GREATER-THAN_OR_SLANTED_EQUAL_TO_WITH_DOT_ABOVE_LEFT LESS-THAN_OR_APPROXIMATE",
    "GREATER-THAN_OR_APPROXIMATE LESS-THAN_AND_SINGLE-LINE_NOT_EQUAL_TO",
    "GREATER-THAN_AND_SINGLE-LINE_NOT_EQUAL_TO LESS-THAN_AND_NOT_APPROXIMATE",
    "GREATER-THAN_AND_NOT_APPROXIMATE LESS-THAN_ABOVE_DOUBLE-LINE_EQUAL_ABOVE_GREATER-THAN",
    "GREATER-THAN_ABOVE_DOUBLE-LINE_EQUAL_ABOVE_LESS-THAN LESS-THAN_ABOVE_SIMILAR_OR_EQUAL",
    "GREATER-THAN_ABOVE_SIMILAR_OR_EQUAL LESS-THAN_ABOVE_SIMILAR_ABOVE_GREATER-THAN",
    "GREATER-THAN_ABOVE_SIMILAR_ABOVE_LESS-THAN",
    "LESS-THAN_ABOVE_GREATER-THAN_ABOVE_DOUBLE-LINE_EQUAL",
    "GREATER-THAN_ABOVE_LESS-THAN_ABOVE_DOUBLE-LINE_EQUAL",
    "LESS-THAN_ABOVE_SLANTED_EQUAL_ABOVE_GREATER-THAN_ABOVE_SLANTED_EQUAL",
    "GREATER-THAN_ABOVE_SLANTED_EQUAL_ABOVE_LESS-THAN_ABOVE_SLANTED_EQUAL"]⟩,
   ⟨0x2a95, "SLANTED_EQUAL_TO_OR_", ["LESS-THAN GREATER-THAN LESS-THAN_WITH_DOT_INSIDE",
    "GREATER-THAN_WITH_DOT_INSIDE"]⟩,
   ⟨0x2a99, "DOUBLE-LINE_", ["EQUAL_TO_OR_LESS-THAN EQUAL_TO_OR_GREATER-THAN",
    "SLANTED_EQUAL_TO_OR_LESS-THAN SLANTED_EQUAL_TO_OR_GREATER-THAN"]⟩,
   ⟨0x2a9d, "SIMILAR_", ["OR_LESS-THAN OR_GREATER-THAN ABOVE_LESS-THAN_ABOVE_EQUALS_SIGN",
    "ABOVE_GREATER-THAN_ABOVE_EQUALS_SIGN"]⟩,
   ⟨0x2aa1, "DOUBLE_NESTED_", ["LESS-THAN GREATER-THAN LESS-THAN_WITH_UNDERBAR"]⟩,
   ⟨0x2aa4, "", ["GREATER-THAN_OVERLAPPING_LESS-THAN GREATER-THAN_BESIDE_LESS-THAN",
    "LESS-THAN_CLOSED_BY_CURVE GREATER-THAN_CLOSED_BY_CURVE",
    "LESS-THAN_CLOSED_BY_CURVE_ABOVE_SLANTED_EQUAL",
    "GREATER-THAN_CLOSED_BY_CURVE_ABOVE_SLANTED_EQUAL SMALLER_THAN LARGER_THAN",
    "SMALLER_THAN_OR_EQUAL_TO LARGER_THAN_OR_EQUAL_TO EQUALS_SIGN_WITH_BUMPY_ABOVE",
    "PRECEDES_ABOVE_SINGLE-LINE_EQUALS_SIGN SUCCEEDS_ABOVE_SINGLE-LINE_EQUALS_SIGN",
    "PRECEDES_ABOVE_SINGLE-LINE_NOT_EQUAL_TO SUCCEEDS_ABOVE_SINGLE-LINE_NOT_EQUAL_TO",
    "PRECEDES_ABOVE_EQUALS_SIGN SUCCEEDS_ABOVE_EQUALS_SIGN PRECEDES_ABOVE_NOT_EQUAL_TO",
    "SUCCEEDS_ABOVE_NOT_EQUAL_TO PRECEDES_ABOVE_ALMOST_EQUAL_TO SUCCEEDS_ABOVE_ALMOST_EQUAL_TO",
    "PRECEDES_ABOVE_NOT_ALMOST_EQUAL_TO SUCCEEDS_ABOVE_NOT_ALMOST_EQUAL_TO DOUBLE_PRECEDES",
    "DOUBLE_SUCCEEDS SUBSET_WITH_DOT SUPERSET_WITH_DOT SUBSET_WITH_PLUS_SIGN_BELOW",
    "SUPERSET_WITH_PLUS_SIGN_BELOW SUBSET_WITH_MULTIPLICATION_SIGN_BELOW",
    "SUPERSET_WITH_MULTIPLICATION_SIGN_BELOW SUBSET_OF_OR_EQUAL_TO_WITH_DOT_ABOVE",
    "SUPERSET_OF_OR_EQUAL_TO_WITH_DOT_ABOVE SUBSET_OF_ABOVE_EQUALS_SIGN",
    "SUPERSET_OF_ABOVE_EQUALS_SIGN SUBSET_OF_ABOVE_TILDE_OPERATOR",
    "SUPERSET_OF_ABOVE_TILDE_OPERATOR SUBSET_OF_ABOVE_ALMOST_EQUAL_TO",
    "SUPERSET_OF_ABOVE_ALMOST_EQUAL_TO SUBSET_OF_ABOVE_NOT_EQUAL_TO",
    "SUPERSET_OF_ABOVE_NOT_EQUAL_TO SQUARE_LEFT_OPEN_BOX_OPERATOR SQUARE_RIGHT_OPEN_BOX_OPERATOR",
    "CLOSED_SUBSET CLOSED_SUPERSET CLOSED_SUBSET_OR_EQUAL_TO CLOSED_SUPERSET_OR_EQUAL_TO",
    "SUBSET_ABOVE_SUPERSET SUPERSET_ABOVE_SUBSET SUBSET_ABOVE_SUBSET SUPERSET_ABOVE_SUPERSET",
    "SUPERSET_BESIDE_SUBSET SUPERSET_BESIDE_AND_JOINED_BY_DASH_WITH_SUBSET",
    "ELEMENT_OF_OPENING_DOWNWARDS PITCHFORK_WITH_TEE_TOP TRANSVERSAL_INTERSECTION FORKING",
    "NONFORKING SHORT_LEFT_TACK SHORT_DOWN_TACK SHORT_UP_TACK PERPENDICULAR_WITH_S",
    "VERTICAL_BAR_TRIPLE_RIGHT_TURNSTILE DOUBLE_VERTICAL_BAR_LEFT_TURNSTILE",
    "VERTICAL_BAR_DOUBLE_LEFT_TURNSTILE DOUBLE_VERTICAL_BAR_DOUBLE_LEFT_TURNSTILE",
    "LONG_DASH_FROM_LEFT_MEMBER_OF_DOUBLE_VERTICAL SHORT_DOWN_TACK_WITH_OVERBAR",
    "SHORT_UP_TACK_WITH_UNDERBAR SHORT_UP_TACK_ABOVE_SHORT_DOWN_TACK DOUBLE_DOWN_TACK",
    "DOUBLE_UP_TACK DOUBLE_STROKE_NOT_SIGN REVERSED_DOUBLE_STROKE_NOT_SIGN",
    "DOES_NOT_DIVIDE_WITH_REVERSED_NEGATION_SLASH VERTICAL_LINE_WITH_CIRCLE_ABOVE",
    "VERTICAL_LINE_WITH_CIRCLE_BELOW DOWN_TACK_WITH_CIRCLE_BELOW PARALLEL_WITH_HORIZONTAL_STROKE",
    "PARALLEL_WITH_TILDE_OPERATOR TRIPLE_VERTICAL_BAR_BINARY_RELATION",
    "TRIPLE_VERTICAL_BAR_WITH_HORIZONTAL_STROKE TRIPLE_COLON_OPERATOR TRIPLE_NESTED_LESS-THAN",
    "TRIPLE_NESTED_GREATER-THAN DOUBLE-LINE_SLANTED_LESS-THAN_OR_EQUAL_TO",
    "DOUBLE-LINE_SLANTED_GREATER-THAN_OR_EQUAL_TO TRIPLE_SOLIDUS_BINARY_RELATION",
    "LARGE_TRIPLE_VERTICAL_BAR_OPERATOR DOUBLE_SOLIDUS_OPERATOR WHITE_VERTICAL_BAR",
    "N-ARY_WHITE_VERTICAL_BAR NORTH_EAST_WHITE_ARROW NORTH_WEST_WHITE_ARROW",
    "SOUTH_EAST_WHITE_ARROW SOUTH_WEST_WHITE_ARROW LEFT_RIGHT_WHITE_ARROW LEFTWARDS_BLACK_ARROW",
    "UPWARDS_BLACK_ARROW DOWNWARDS_BLACK_ARROW NORTH_EAST_BLACK_ARROW NORTH_WEST_BLACK_ARROW",
    "SOUTH_EAST_BLACK_ARROW SOUTH_WEST_BLACK_ARROW LEFT_RIGHT_BLACK_ARROW UP_DOWN_BLACK_ARROW"]⟩,
   ⟨0x2b0e, "RIGHTWARDS_ARROW_WITH_TIP_", ["DOWNWARDS UPWARDS"]⟩,
   ⟨0x2b10, "LEFTWARDS_ARROW_WITH_TIP_", ["DOWNWARDS UPWARDS"]⟩,
   ⟨0x2b12, "SQUARE_WITH_", ["TOP_HALF_BLACK BOTTOM_HALF_BLACK UPPER_RIGHT_DIAGONAL_HALF_BLACK",
    "LOWER_LEFT_DIAGONAL_HALF_BLACK"]⟩,
   ⟨0x2b16, "DIAMOND_WITH_", ["LEFT_HALF_BLACK RIGHT_HALF_BLACK TOP_HALF_BLACK BOTTOM_HALF_BLACK"]⟩,
   ⟨0x2b1a, "", ["DOTTED_SQUARE BLACK_LARGE_SQUARE WHITE_LARGE_SQUARE BLACK_VERY_SMALL_SQUARE",
    "WHITE_VERY_SMALL_SQUARE BLACK_PENTAGON WHITE_PENTAGON WHITE_HEXAGON BLACK_HEXAGON",
    "HORIZONTAL_BLACK_HEXAGON BLACK_LARGE_CIRCLE BLACK_MEDIUM_DIAMOND WHITE_MEDIUM_DIAMOND",
    "BLACK_MEDIUM_LOZENGE WHITE_MEDIUM_LOZENGE BLACK_SMALL_DIAMOND BLACK_SMALL_LOZENGE",
    "WHITE_SMALL_LOZENGE BLACK_HORIZONTAL_ELLIPSE WHITE_HORIZONTAL_ELLIPSE",
    "BLACK_VERTICAL_ELLIPSE WHITE_VERTICAL_ELLIPSE LEFT_ARROW_WITH_SMALL_CIRCLE",
    "THREE_LEFTWARDS_ARROWS LEFT_ARROW_WITH_CIRCLED_PLUS LONG_LEFTWARDS_SQUIGGLE_ARROW"]⟩,
   ⟨0x2b34, "LEFTWARDS_TWO-HEADED_", ["ARROW_WITH_VERTICAL_STROKE",
    "ARROW_WITH_DOUBLE_VERTICAL_STROKE ARROW_FROM_BAR TRIPLE_DASH_ARROW"]⟩,
   ⟨0x2b38, "LEFTWARDS_ARROW_WITH_", ["DOTTED_STEM TAIL_WITH_VERTICAL_STROKE",
    "TAIL_WITH_DOUBLE_VERTICAL_STROKE"]⟩,
   ⟨0x2b3b, "LEFTWARDS_TWO-HEADED_ARROW_WITH_", ["TAIL TAIL_WITH_VERTICAL_STROKE",
    "TAIL_WITH_DOUBLE_VERTICAL_STROKE"]⟩,
   ⟨0x2b3e, "", ["LEFTWARDS_ARROW_THROUGH_X WAVE_ARROW_POINTING_DIRECTLY_LEFT",
    "EQUALS_SIGN_ABOVE_LEFTWARDS_ARROW REVERSE_TILDE_OPERATOR_ABOVE_LEFTWARDS_ARROW",
    "LEFTWARDS_ARROW_ABOVE_REVERSE_ALMOST_EQUAL_TO RIGHTWARDS_ARROW_THROUGH_GREATER-THAN",
    "RIGHTWARDS_ARROW_THROUGH_SUPERSET LEFTWARDS_QUADRUPLE_ARROW RIGHTWARDS_QUADRUPLE_ARROW",
    "REVERSE_TILDE_OPERATOR_ABOVE_RIGHTWARDS_ARROW",
    "RIGHTWARDS_ARROW_ABOVE_REVERSE_ALMOST_EQUAL_TO TILDE_OPERATOR_ABOVE_LEFTWARDS_ARROW",
    "LEFTWARDS_ARROW_ABOVE_ALMOST_EQUAL_TO LEFTWARDS_ARROW_ABOVE_REVERSE_TILDE_OPERATOR",
    "RIGHTWARDS_ARROW_ABOVE_REVERSE_TILDE_OPERATOR DOWNWARDS_TRIANGLE-HEADED_ZIGZAG_ARROW",
    "SHORT_SLANTED_NORTH_ARROW SHORT_BACKSLANTED_SOUTH_ARROW WHITE_MEDIUM_STAR BLACK_SMALL_STAR",
    "WHITE_SMALL_STAR BLACK_RIGHT-POINTING_PENTAGON WHITE_RIGHT-POINTING_PENTAGON",
    "HEAVY_LARGE_CIRCLE HEAVY_OVAL_WITH_OVAL_INSIDE HEAVY_CIRCLE_WITH_CIRCLE_INSIDE HEAVY_CIRCLE",
    "HEAVY_CIRCLED_SALTIRE SLANTED_NORTH_ARROW_WITH_HOOKED_HEAD",
    "BACKSLANTED_SOUTH_ARROW_WITH_HOOKED_TAIL SLANTED_NORTH_ARROW_WITH_HORIZONTAL_TAIL",
    "BACKSLANTED_SOUTH_ARROW_WITH_HORIZONTAL_TAIL BENT_ARROW_POINTING_DOWNWARDS_THEN_NORTH_EAST",
    "SHORT_BENT_ARROW_POINTING_DOWNWARDS_THEN_NORTH_EAST LEFTWARDS_TRIANGLE-HEADED_ARROW",
    "UPWARDS_TRIANGLE-HEADED_ARROW RIGHTWARDS_TRIANGLE-HEADED_ARROW",
    "DOWNWARDS_TRIANGLE-HEADED_ARROW LEFT_RIGHT_TRIANGLE-HEADED_ARROW",
    "UP_DOWN_TRIANGLE-HEADED_ARROW NORTH_WEST_TRIANGLE-HEADED_ARROW",
    "NORTH_EAST_TRIANGLE-HEADED_ARROW SOUTH_EAST_TRIANGLE-HEADED_ARROW",
    "SOUTH_WEST_TRIANGLE-HEADED_ARROW LEFTWARDS_TRIANGLE-HEADED_DASHED_ARROW",
    "UPWARDS_TRIANGLE-HEADED_DASHED_ARROW RIGHTWARDS_TRIANGLE-HEADED_DASHED_ARROW",
    "DOWNWARDS_TRIANGLE-HEADED_DASHED_ARROW CLOCKWISE_TRIANGLE-HEADED_OPEN_CIRCLE_ARROW",
    "ANTICLOCKWISE_TRIANGLE-HEADED_OPEN_CIRCLE_ARROW LEFTWARDS_TRIANGLE-HEADED_ARROW_TO_BAR",
    "UPWARDS_TRIANGLE-HEADED_ARROW_TO_BAR RIGHTWARDS_TRIANGLE-HEADED_ARROW_TO_BAR",
    "DOWNWARDS_TRIANGLE-HEADED_ARROW_TO_BAR � � NORTH_WEST_TRIANGLE-HEADED_ARROW_TO_BAR",
    "NORTH_EAST_TRIANGLE-HEADED_ARROW_TO_BAR SOUTH_EAST_TRIANGLE-HEADED_ARROW_TO_BAR",
    "SOUTH_WEST_TRIANGLE-HEADED_ARROW_TO_BAR",
    "LEFTWARDS_TRIANGLE-HEADED_ARROW_WITH_DOUBLE_HORIZONTAL_STROKE",
    "UPWARDS_TRIANGLE-HEADED_ARROW_WITH_DOUBLE_HORIZONTAL_STROKE",
    "RIGHTWARDS_TRIANGLE-HEADED_ARROW_WITH_DOUBLE_HORIZONTAL_STROKE",
    "DOWNWARDS_TRIANGLE-HEADED_ARROW_WITH_DOUBLE_HORIZONTAL_STROKE HORIZONTAL_TAB_KEY",
    "VERTICAL_TAB_KEY LEFTWARDS_TRIANGLE-HEADED_ARROW_OVER_RIGHTWARDS_TRIANGLE-HEADED_ARROW",
    "UPWARDS_TRIANGLE-HEADED_ARROW_LEFTWARDS_OF_DOWNWARDS_TRIANGLE-HEADED_ARROW",
    "RIGHTWARDS_TRIANGLE-HEADED_ARROW_OVER_LEFTWARDS_TRIANGLE-HEADED_ARROW",
    "DOWNWARDS_TRIANGLE-HEADED_ARROW_LEFTWARDS_OF_UPWARDS_TRIANGLE-HEADED_ARROW",
    "LEFTWARDS_TRIANGLE-HEADED_PAIRED_ARROWS UPWARDS_TRIANGLE-HEADED_PAIRED_ARROWS",
    "RIGHTWARDS_TRIANGLE-HEADED_PAIRED_ARROWS DOWNWARDS_TRIANGLE-HEADED_PAIRED_ARROWS",
    "LEFTWARDS_BLACK_CIRCLED_WHITE_ARROW UPWARDS_BLACK_CIRCLED_WHITE_ARROW",
    "RIGHTWARDS_BLACK_CIRCLED_WHITE_ARROW DOWNWARDS_BLACK_CIRCLED_WHITE_ARROW"]⟩,
   ⟨0x2b8c, "ANTICLOCKWISE_TRIANGLE-HEADED_", ["RIGHT_U-SHAPED_ARROW BOTTOM_U-SHAPED_ARROW",
    "LEFT_U-SHAPED_ARROW TOP_U-SHAPED_ARROW"]⟩,
   ⟨0x2b90, "", ["RETURN_LEFT RETURN_RIGHT NEWLINE_LEFT NEWLINE_RIGHT",
    "FOUR_CORNER_ARROWS_CIRCLING_ANTICLOCKWISE RIGHTWARDS_BLACK_ARROW �",
    "SYMBOL_FOR_TYPE_A_ELECTRONICS THREE-D_TOP-LIGHTED_LEFTWARDS_EQUILATERAL_ARROWHEAD",
    "THREE-D_RIGHT-LIGHTED_UPWARDS_EQUILATERAL_ARROWHEAD",
    "THREE-D_TOP-LIGHTED_RIGHTWARDS_EQUILATERAL_ARROWHEAD",
    "THREE-D_LEFT-LIGHTED_DOWNWARDS_EQUILATERAL_ARROWHEAD BLACK_LEFTWARDS_EQUILATERAL_ARROWHEAD",
    "BLACK_UPWARDS_EQUILATERAL_ARROWHEAD BLACK_RIGHTWARDS_EQUILATERAL_ARROWHEAD",
    "BLACK_DOWNWARDS_EQUILATERAL_ARROWHEAD"]⟩,
   ⟨0x2ba0, "DOWNWARDS_TRIANGLE-HEADED_ARROW_WITH_LONG_TIP_", ["LEFTWARDS RIGHTWARDS"]⟩,
   ⟨0x2ba2, "UPWARDS_TRIANGLE-HEADED_ARROW_WITH_LONG_TIP_", ["LEFTWARDS RIGHTWARDS"]⟩,
   ⟨0x2ba4, "", ["LEFTWARDS_TRIANGLE-HEADED_ARROW_WITH_LONG_TIP_UPWARDS",
    "RIGHTWARDS_TRIANGLE-HEADED_ARROW_WITH_LONG_TIP_UPWARDS",
    "LEFTWARDS_TRIANGLE-HEADED_ARROW_WITH_LONG_TIP_DOWNWARDS",
    "RIGHTWARDS_TRIANGLE-HEADED_ARROW_WITH_LONG_TIP_DOWNWARDS"]⟩,
   ⟨0x2ba8, "BLACK_CURVED_", ["DOWNWARDS_AND_LEFTWARDS_ARROW DOWNWARDS_AND_RIGHTWARDS_ARROW",
    "UPWARDS_AND_LEFTWARDS_ARROW UPWARDS_AND_RIGHTWARDS_ARROW LEFTWARDS_AND_UPWARDS_ARROW",
    "RIGHTWARDS_AND_UPWARDS_ARROW LEFTWARDS_AND_DOWNWARDS_ARROW RIGHTWARDS_AND_DOWNWARDS_ARROW"]⟩,
   ⟨0x2bb0, "RIBBON_ARROW_", ["DOWN_LEFT DOWN_RIGHT UP_LEFT UP_RIGHT LEFT_UP RIGHT_UP LEFT_DOWN",
    "RIGHT_DOWN"]⟩,
   ⟨0x2bb8, "", ["UPWARDS_WHITE_ARROW_FROM_BAR_WITH_HORIZONTAL_BAR",
    "UP_ARROWHEAD_IN_A_RECTANGLE_BOX OVERLAPPING_WHITE_SQUARES",
    "OVERLAPPING_WHITE_AND_BLACK_SQUARES OVERLAPPING_BLACK_SQUARES BALLOT_BOX_WITH_LIGHT_X",
    "CIRCLED_X CIRCLED_BOLD_X BLACK_SQUARE_CENTRED BLACK_DIAMOND_CENTRED TURNED_BLACK_PENTAGON",
    "HORIZONTAL_BLACK_OCTAGON BLACK_OCTAGON BLACK_MEDIUM_UP-POINTING_TRIANGLE_CENTRED",
    "BLACK_MEDIUM_DOWN-POINTING_TRIANGLE_CENTRED BLACK_MEDIUM_LEFT-POINTING_TRIANGLE_CENTRED",
    "BLACK_MEDIUM_RIGHT-POINTING_TRIANGLE_CENTRED NEPTUNE_FORM_TWO TOP_HALF_BLACK_CIRCLE",
    "BOTTOM_HALF_BLACK_CIRCLE LIGHT_FOUR_POINTED_BLACK_CUSP",
    "ROTATED_LIGHT_FOUR_POINTED_BLACK_CUSP WHITE_FOUR_POINTED_CUSP",
    "ROTATED_WHITE_FOUR_POINTED_CUSP SQUARE_POSITION_INDICATOR UNCERTAINTY_SIGN GROUP_MARK",
    "PLUTO_FORM_TWO PLUTO_FORM_THREE PLUTO_FORM_FOUR PLUTO_FORM_FIVE TRANSPLUTO PROSERPINA",
    "ASTRAEA HYGIEA PHOLUS NESSUS WHITE_MOON_SELENA BLACK_DIAMOND_ON_CROSS TRUE_LIGHT_MOON_ARTA",
    "CUPIDO HADES ZEUS KRONOS APOLLON ADMETOS VULCANUS POSEIDON LEFT_HALF_BLACK_STAR",
    "RIGHT_HALF_BLACK_STAR STAR_WITH_LEFT_HALF_BLACK STAR_WITH_RIGHT_HALF_BLACK",
    "LEFTWARDS_TWO-HEADED_ARROW_WITH_TRIANGLE_ARROWHEADS",
    "UPWARDS_TWO-HEADED_ARROW_WITH_TRIANGLE_ARROWHEADS",
    "RIGHTWARDS_TWO-HEADED_ARROW_WITH_TRIANGLE_ARROWHEADS",
    "DOWNWARDS_TWO-HEADED_ARROW_WITH_TRIANGLE_ARROWHEADS ERIS_FORM_ONE ERIS_FORM_TWO SEDNA"]⟩,
   ⟨0x2bf3, "RUSSIAN_ASTROLOGICAL_SYMBOL_", ["VIGINTILE NOVILE QUINTILE BINOVILE SENTAGON",
    "TREDECILE"]⟩,
   ⟨0x2bf9, "", ["EQUALS_SIGN_WITH_INFINITY_BELOW UNITED_SYMBOL SEPARATED_SYMBOL DOUBLED_SYMBOL",
    "PASSED_SYMBOL REVERSED_RIGHT_ANGLE HELLSCHREIBER_PAUSE_SYMBOL"]⟩,
   ⟨0x1d400, "MATHEMATICAL_BOLD_CAPITAL_", ["A B C D E F G H I J K L M N O P Q R S T U V W X Y Z"]⟩,
   ⟨0x1d41a, "MATHEMATICAL_BOLD_SMALL_", ["A B C D E F G H I J K L M N O P Q R S T U V W X Y Z"]⟩,
   ⟨0x1d434, "MATHEMATICAL_ITALIC_CAPITAL_", ["A B C D E F G H I J K L M N O P Q R S T U V W X Y",
    "Z"]⟩,
   ⟨0x1d44e, "MATHEMATICAL_ITALIC_SMALL_", ["A B C D E F G � I J K L M N O P Q R S T U V W X Y Z"]⟩,
   ⟨0x1d468, "MATHEMATICAL_BOLD_ITALIC_CAPITAL_", ["A B C D E F G H I J K L M N O P Q R S T U V",
    "W X Y Z"]⟩,
   ⟨0x1d482, "MATHEMATICAL_BOLD_ITALIC_SMALL_", ["A B C D E F G H I J K L M N O P Q R S T U V W",
    "X Y Z"]⟩,
   ⟨0x1d49c, "MATHEMATICAL_SCRIPT_CAPITAL_", ["A � C D � � G � � J K � � N O P Q � S T U V W X Y",
    "Z"]⟩,
   ⟨0x1d4b6, "MATHEMATICAL_SCRIPT_SMALL_", ["A B C D � F � H I J K L M N � P Q R S T U V W X Y Z"]⟩,
   ⟨0x1d4d0, "MATHEMATICAL_BOLD_SCRIPT_CAPITAL_", ["A B C D E F G H I J K L M N O P Q R S T U V",
    "W X Y Z"]⟩,
   ⟨0x1d4ea, "MATHEMATICAL_BOLD_SCRIPT_SMALL_", ["A B C D E F G H I J K L M N O P Q R S T U V W",
    "X Y Z"]⟩,
   ⟨0x1d504, "MATHEMATICAL_FRAKTUR_CAPITAL_", ["A B � D E F G � � J K L M N O P Q � S T U V W X",
    "Y"]⟩,
   ⟨0x1d51e, "MATHEMATICAL_FRAKTUR_SMALL_", ["A B C D E F G H I J K L M N O P Q R S T U V W X Y",
    "Z"]⟩,
   ⟨0x1d538, "MATHEMATICAL_DOUBLE-STRUCK_CAPITAL_", ["A B � D E F G � I J K L M � O � � � S T U",
    "V W X Y"]⟩,
   ⟨0x1d552, "MATHEMATICAL_DOUBLE-STRUCK_SMALL_", ["A B C D E F G H I J K L M N O P Q R S T U V",
    "W X Y Z"]⟩,
   ⟨0x1d56c, "MATHEMATICAL_BOLD_FRAKTUR_CAPITAL_", ["A B C D E F G H I J K L M N O P Q R S T U V",
    "W X Y Z"]⟩,
   ⟨0x1d586, "MATHEMATICAL_BOLD_FRAKTUR_SMALL_", ["A B C D E F G H I J K L M N O P Q R S T U V W",
    "X Y Z"]⟩,
   ⟨0x1d5a0, "MATHEMATICAL_SANS-SERIF_CAPITAL_", ["A B C D E F G H I J K L M N O P Q R S T U V W",
    "X Y Z"]⟩,
   ⟨0x1d5ba, "MATHEMATICAL_SANS-SERIF_SMALL_", ["A B C D E F G H I J K L M N O P Q R S T U V W X",
    "Y Z"]⟩,
   ⟨0x1d5d4, "MATHEMATICAL_SANS-SERIF_BOLD_CAPITAL_", ["A B C D E F G H I J K L M N O P Q R S T",
    "U V W X Y Z"]⟩,
   ⟨0x1d5ee, "MATHEMATICAL_SANS-SERIF_BOLD_SMALL_", ["A B C D E F G H I J K L M N O P Q R S T U",
    "V W X Y Z"]⟩,
   ⟨0x1d608, "MATHEMATICAL_SANS-SERIF_ITALIC_CAPITAL_", ["A B C D E F G H I J K L M N O P Q R S",
    "T U V W X Y Z"]⟩,
   ⟨0x1d622, "MATHEMATICAL_SANS-SERIF_ITALIC_SMALL_", ["A B C D E F G H I J K L M N O P Q R S T",
    "U V W X Y Z"]⟩,
   ⟨0x1d63c, "MATHEMATICAL_SANS-SERIF_BOLD_ITALIC_CAPITAL_", ["A B C D E F G H I J K L M N O P Q",
    "R S T U V W X Y Z"]⟩,
   ⟨0x1d656, "MATHEMATICAL_SANS-SERIF_BOLD_ITALIC_SMALL_", ["A B C D E F G H I J K L M N O P Q R",
    "S T U V W X Y Z"]⟩,
   ⟨0x1d670, "MATHEMATICAL_MONOSPACE_CAPITAL_", ["A B C D E F G H I J K L M N O P Q R S T U V W",
    "X Y Z"]⟩,
   ⟨0x1d68a, "MATHEMATICAL_MONOSPACE_SMALL_", ["A B C D E F G H I J K L M N O P Q R S T U V W X",
    "Y Z"]⟩,
   ⟨0x1d6a4, "MATHEMATICAL_ITALIC_SMALL_DOTLESS_", ["I J"]⟩,
   ⟨0x1d6a8, "MATHEMATICAL_BOLD_CAPITAL_", ["ALPHA BETA GAMMA DELTA EPSILON ZETA ETA THETA IOTA",
    "KAPPA LAMDA MU NU XI OMICRON PI RHO THETA_SYMBOL SIGMA TAU UPSILON PHI CHI PSI OMEGA"]⟩,
   ⟨0x1d6c1, "MATHEMATICAL_BOLD_", ["NABLA"]⟩,
   ⟨0x1d6c2, "MATHEMATICAL_BOLD_SMALL_", ["ALPHA BETA GAMMA DELTA EPSILON ZETA ETA THETA IOTA",
    "KAPPA LAMDA MU NU XI OMICRON PI RHO FINAL_SIGMA SIGMA TAU UPSILON PHI CHI PSI OMEGA"]⟩,
   ⟨0x1d6db, "MATHEMATICAL_BOLD_", ["PARTIAL_DIFFERENTIAL EPSILON_SYMBOL THETA_SYMBOL",
    "KAPPA_SYMBOL PHI_SYMBOL RHO_SYMBOL PI_SYMBOL"]⟩,
   ⟨0x1d6e2, "MATHEMATICAL_ITALIC_CAPITAL_", ["ALPHA BETA GAMMA DELTA EPSILON ZETA ETA THETA",
    "IOTA KAPPA LAMDA MU NU XI OMICRON PI RHO THETA_SYMBOL SIGMA TAU UPSILON PHI CHI PSI OMEGA"]⟩,
   ⟨0x1d6fb, "MATHEMATICAL_ITALIC_", ["NABLA"]⟩,
   ⟨0x1d6fc, "MATHEMATICAL_ITALIC_SMALL_", ["ALPHA BETA GAMMA DELTA EPSILON ZETA ETA THETA IOTA",
    "KAPPA LAMDA MU NU XI OMICRON PI RHO FINAL_SIGMA SIGMA TAU UPSILON PHI CHI PSI OMEGA"]⟩,
   ⟨0x1d715, "MATHEMATICAL_ITALIC_", ["PARTIAL_DIFFERENTIAL EPSILON_SYMBOL THETA_SYMBOL",
    "KAPPA_SYMBOL PHI_SYMBOL RHO_SYMBOL PI_SYMBOL"]⟩,
   ⟨0x1d71c, "MATHEMATICAL_BOLD_ITALIC_CAPITAL_", ["ALPHA BETA GAMMA DELTA EPSILON ZETA ETA",
    "THETA IOTA KAPPA LAMDA MU NU XI OMICRON PI RHO THETA_SYMBOL SIGMA TAU UPSILON PHI CHI PSI",
    "OMEGA"]⟩,
   ⟨0x1d735, "MATHEMATICAL_BOLD_ITALIC_", ["NABLA"]⟩,
   ⟨0x1d736, "MATHEMATICAL_BOLD_ITALIC_SMALL_", ["ALPHA BETA GAMMA DELTA EPSILON ZETA ETA THETA",
    "IOTA KAPPA LAMDA MU NU XI OMICRON PI RHO FINAL_SIGMA SIGMA TAU UPSILON PHI CHI PSI OMEGA"]⟩,
   ⟨0x1d74f, "MATHEMATICAL_BOLD_ITALIC_", ["PARTIAL_DIFFERENTIAL EPSILON_SYMBOL THETA_SYMBOL",
    "KAPPA_SYMBOL PHI_SYMBOL RHO_SYMBOL PI_SYMBOL"]⟩,
   ⟨0x1d756, "MATHEMATICAL_SANS-SERIF_BOLD_CAPITAL_", ["ALPHA BETA GAMMA DELTA EPSILON ZETA ETA",
    "THETA IOTA KAPPA LAMDA MU NU XI OMICRON PI RHO THETA_SYMBOL SIGMA TAU UPSILON PHI CHI PSI",
    "OMEGA"]⟩,
   ⟨0x1d76f, "MATHEMATICAL_SANS-SERIF_BOLD_", ["NABLA"]⟩,
   ⟨0x1d770, "MATHEMATICAL_SANS-SERIF_BOLD_SMALL_", ["ALPHA BETA GAMMA DELTA EPSILON ZETA ETA",
    "THETA IOTA KAPPA LAMDA MU NU XI OMICRON PI RHO FINAL_SIGMA SIGMA TAU UPSILON PHI CHI PSI",
    "OMEGA"]⟩,
   ⟨0x1d789, "MATHEMATICAL_SANS-SERIF_BOLD_", ["PARTIAL_DIFFERENTIAL EPSILON_SYMBOL THETA_SYMBOL",
    "KAPPA_SYMBOL PHI_SYMBOL RHO_SYMBOL PI_SYMBOL"]⟩,
   ⟨0x1d790, "MATHEMATICAL_SANS-SERIF_BOLD_ITALIC_CAPITAL_", ["ALPHA BETA GAMMA DELTA EPSILON",
    "ZETA ETA THETA IOTA KAPPA LAMDA MU NU XI OMICRON PI RHO THETA_SYMBOL SIGMA TAU UPSILON PHI",
    "CHI PSI OMEGA"]⟩,
   ⟨0x1d7a9, "MATHEMATICAL_SANS-SERIF_BOLD_ITALIC_", ["NABLA"]⟩,
   ⟨0x1d7aa, "MATHEMATICAL_SANS-SERIF_BOLD_ITALIC_SMALL_", ["ALPHA BETA GAMMA DELTA EPSILON ZETA",
    "ETA THETA IOTA KAPPA LAMDA MU NU XI OMICRON PI RHO FINAL_SIGMA SIGMA TAU UPSILON PHI CHI",
    "PSI OMEGA"]⟩,
   ⟨0x1d7c3, "MATHEMATICAL_SANS-SERIF_BOLD_ITALIC_", ["PARTIAL_DIFFERENTIAL EPSILON_SYMBOL",
    "THETA_SYMBOL KAPPA_SYMBOL PHI_SYMBOL RHO_SYMBOL PI_SYMBOL"]⟩,
   ⟨0x1d7ca, "MATHEMATICAL_BOLD_", ["CAPITAL_DIGAMMA SMALL_DIGAMMA"]⟩,
   ⟨0x1d7ce, "MATHEMATICAL_BOLD_DIGIT_", ["ZERO ONE TWO THREE FOUR FIVE SIX SEVEN EIGHT NINE"]⟩,
   ⟨0x1d7d8, "MATHEMATICAL_DOUBLE-STRUCK_DIGIT_", ["ZERO ONE TWO THREE FOUR FIVE SIX SEVEN EIGHT",
    "NINE"]⟩,
   ⟨0x1d7e2, "MATHEMATICAL_SANS-SERIF_DIGIT_", ["ZERO ONE TWO THREE FOUR FIVE SIX SEVEN EIGHT",
    "NINE"]⟩,
   ⟨0x1d7ec, "MATHEMATICAL_SANS-SERIF_BOLD_DIGIT_", ["ZERO ONE TWO THREE FOUR FIVE SIX SEVEN",
    "EIGHT NINE"]⟩,
   ⟨0x1d7f6, "MATHEMATICAL_MONOSPACE_DIGIT_", ["ZERO ONE TWO THREE FOUR FIVE SIX SEVEN EIGHT",
    "NINE"]⟩,
   ⟨0x1f800, "", ["LEFTWARDS_ARROW_WITH_SMALL_TRIANGLE_ARROWHEAD",
    "UPWARDS_ARROW_WITH_SMALL_TRIANGLE_ARROWHEAD RIGHTWARDS_ARROW_WITH_SMALL_TRIANGLE_ARROWHEAD",
    "DOWNWARDS_ARROW_WITH_SMALL_TRIANGLE_ARROWHEAD",
    "LEFTWARDS_ARROW_WITH_MEDIUM_TRIANGLE_ARROWHEAD UPWARDS_ARROW_WITH_MEDIUM_TRIANGLE_ARROWHEAD",
    "RIGHTWARDS_ARROW_WITH_MEDIUM_TRIANGLE_ARROWHEAD",
    "DOWNWARDS_ARROW_WITH_MEDIUM_TRIANGLE_ARROWHEAD",
    "LEFTWARDS_ARROW_WITH_LARGE_TRIANGLE_ARROWHEAD UPWARDS_ARROW_WITH_LARGE_TRIANGLE_ARROWHEAD",
    "RIGHTWARDS_ARROW_WITH_LARGE_TRIANGLE_ARROWHEAD",
    "DOWNWARDS_ARROW_WITH_LARGE_TRIANGLE_ARROWHEAD � � � �",
    "LEFTWARDS_ARROW_WITH_SMALL_EQUILATERAL_ARROWHEAD",
    "UPWARDS_ARROW_WITH_SMALL_EQUILATERAL_ARROWHEAD",
    "RIGHTWARDS_ARROW_WITH_SMALL_EQUILATERAL_ARROWHEAD",
    "DOWNWARDS_ARROW_WITH_SMALL_EQUILATERAL_ARROWHEAD LEFTWARDS_ARROW_WITH_EQUILATERAL_ARROWHEAD",
    "UPWARDS_ARROW_WITH_EQUILATERAL_ARROWHEAD RIGHTWARDS_ARROW_WITH_EQUILATERAL_ARROWHEAD",
    "DOWNWARDS_ARROW_WITH_EQUILATERAL_ARROWHEAD HEAVY_LEFTWARDS_ARROW_WITH_EQUILATERAL_ARROWHEAD",
    "HEAVY_UPWARDS_ARROW_WITH_EQUILATERAL_ARROWHEAD",
    "HEAVY_RIGHTWARDS_ARROW_WITH_EQUILATERAL_ARROWHEAD",
    "HEAVY_DOWNWARDS_ARROW_WITH_EQUILATERAL_ARROWHEAD",
    "HEAVY_LEFTWARDS_ARROW_WITH_LARGE_EQUILATERAL_ARROWHEAD",
    "HEAVY_UPWARDS_ARROW_WITH_LARGE_EQUILATERAL_ARROWHEAD",
    "HEAVY_RIGHTWARDS_ARROW_WITH_LARGE_EQUILATERAL_ARROWHEAD",
    "HEAVY_DOWNWARDS_ARROW_WITH_LARGE_EQUILATERAL_ARROWHEAD",
    "LEFTWARDS_TRIANGLE-HEADED_ARROW_WITH_NARROW_SHAFT",
    "UPWARDS_TRIANGLE-HEADED_ARROW_WITH_NARROW_SHAFT",
    "RIGHTWARDS_TRIANGLE-HEADED_ARROW_WITH_NARROW_SHAFT",
    "DOWNWARDS_TRIANGLE-HEADED_ARROW_WITH_NARROW_SHAFT",
    "LEFTWARDS_TRIANGLE-HEADED_ARROW_WITH_MEDIUM_SHAFT",
    "UPWARDS_TRIANGLE-HEADED_ARROW_WITH_MEDIUM_SHAFT",
    "RIGHTWARDS_TRIANGLE-HEADED_ARROW_WITH_MEDIUM_SHAFT",
    "DOWNWARDS_TRIANGLE-HEADED_ARROW_WITH_MEDIUM_SHAFT",
    "LEFTWARDS_TRIANGLE-HEADED_ARROW_WITH_BOLD_SHAFT",
    "UPWARDS_TRIANGLE-HEADED_ARROW_WITH_BOLD_SHAFT",
    "RIGHTWARDS_TRIANGLE-HEADED_ARROW_WITH_BOLD_SHAFT",
    "DOWNWARDS_TRIANGLE-HEADED_ARROW_WITH_BOLD_SHAFT",
    "LEFTWARDS_TRIANGLE-HEADED_ARROW_WITH_HEAVY_SHAFT",
    "UPWARDS_TRIANGLE-HEADED_ARROW_WITH_HEAVY_SHAFT",
    "RIGHTWARDS_TRIANGLE-HEADED_ARROW_WITH_HEAVY_SHAFT",
    "DOWNWARDS_TRIANGLE-HEADED_ARROW_WITH_HEAVY_SHAFT",
    "LEFTWARDS_TRIANGLE-HEADED_ARROW_WITH_VERY_HEAVY_SHAFT",
    "UPWARDS_TRIANGLE-HEADED_ARROW_WITH_VERY_HEAVY_SHAFT",
    "RIGHTWARDS_TRIANGLE-HEADED_ARROW_WITH_VERY_HEAVY_SHAFT",
    "DOWNWARDS_TRIANGLE-HEADED_ARROW_WITH_VERY_HEAVY_SHAFT LEFTWARDS_FINGER-POST_ARROW",
    "UPWARDS_FINGER-POST_ARROW RIGHTWARDS_FINGER-POST_ARROW DOWNWARDS_FINGER-POST_ARROW",
    "LEFTWARDS_SQUARED_ARROW UPWARDS_SQUARED_ARROW RIGHTWARDS_SQUARED_ARROW",
    "DOWNWARDS_SQUARED_ARROW LEFTWARDS_COMPRESSED_ARROW UPWARDS_COMPRESSED_ARROW",
    "RIGHTWARDS_COMPRESSED_ARROW DOWNWARDS_COMPRESSED_ARROW LEFTWARDS_HEAVY_COMPRESSED_ARROW",
    "UPWARDS_HEAVY_COMPRESSED_ARROW RIGHTWARDS_HEAVY_COMPRESSED_ARROW",
    "DOWNWARDS_HEAVY_COMPRESSED_ARROW LEFTWARDS_HEAVY_ARROW UPWARDS_HEAVY_ARROW",
    "RIGHTWARDS_HEAVY_ARROW DOWNWARDS_HEAVY_ARROW"]⟩,
   ⟨0x1f850, "", ["LEFTWARDS_SANS-SERIF_ARROW UPWARDS_SANS-SERIF_ARROW",
    "RIGHTWARDS_SANS-SERIF_ARROW DOWNWARDS_SANS-SERIF_ARROW NORTH_WEST_SANS-SERIF_ARROW",
    "NORTH_EAST_SANS-SERIF_ARROW SOUTH_EAST_SANS-SERIF_ARROW SOUTH_WEST_SANS-SERIF_ARROW",
    "LEFT_RIGHT_SANS-SERIF_ARROW UP_DOWN_SANS-SERIF_ARROW"]⟩,
   ⟨0x1f860, "WIDE-HEADED_", ["LEFTWARDS_LIGHT_BARB_ARROW UPWARDS_LIGHT_BARB_ARROW",
    "RIGHTWARDS_LIGHT_BARB_ARROW DOWNWARDS_LIGHT_BARB_ARROW NORTH_WEST_LIGHT_BARB_ARROW",
    "NORTH_EAST_LIGHT_BARB_ARROW SOUTH_EAST_LIGHT_BARB_ARROW SOUTH_WEST_LIGHT_BARB_ARROW",
    "LEFTWARDS_BARB_ARROW UPWARDS_BARB_ARROW RIGHTWARDS_BARB_ARROW DOWNWARDS_BARB_ARROW",
    "NORTH_WEST_BARB_ARROW NORTH_EAST_BARB_ARROW SOUTH_EAST_BARB_ARROW SOUTH_WEST_BARB_ARROW",
    "LEFTWARDS_MEDIUM_BARB_ARROW UPWARDS_MEDIUM_BARB_ARROW RIGHTWARDS_MEDIUM_BARB_ARROW",
    "DOWNWARDS_MEDIUM_BARB_ARROW NORTH_WEST_MEDIUM_BARB_ARROW NORTH_EAST_MEDIUM_BARB_ARROW",
    "SOUTH_EAST_MEDIUM_BARB_ARROW SOUTH_WEST_MEDIUM_BARB_ARROW LEFTWARDS_HEAVY_BARB_ARROW",
    "UPWARDS_HEAVY_BARB_ARROW RIGHTWARDS_HEAVY_BARB_ARROW DOWNWARDS_HEAVY_BARB_ARROW",
    "NORTH_WEST_HEAVY_BARB_ARROW NORTH_EAST_HEAVY_BARB_ARROW SOUTH_EAST_HEAVY_BARB_ARROW",
    "SOUTH_WEST_HEAVY_BARB_ARROW LEFTWARDS_VERY_HEAVY_BARB_ARROW UPWARDS_VERY_HEAVY_BARB_ARROW",
    "RIGHTWARDS_VERY_HEAVY_BARB_ARROW DOWNWARDS_VERY_HEAVY_BARB_ARROW",
    "NORTH_WEST_VERY_HEAVY_BARB_ARROW NORTH_EAST_VERY_HEAVY_BARB_ARROW",
    "SOUTH_EAST_VERY_HEAVY_BARB_ARROW SOUTH_WEST_VERY_HEAVY_BARB_ARROW"]⟩,
   ⟨0x1f890, "", ["LEFTWARDS_TRIANGLE_ARROWHEAD UPWARDS_TRIANGLE_ARROWHEAD",
    "RIGHTWARDS_TRIANGLE_ARROWHEAD DOWNWARDS_TRIANGLE_ARROWHEAD",
    "LEFTWARDS_WHITE_ARROW_WITHIN_TRIANGLE_ARROWHEAD",
    "UPWARDS_WHITE_ARROW_WITHIN_TRIANGLE_ARROWHEAD",
    "RIGHTWARDS_WHITE_ARROW_WITHIN_TRIANGLE_ARROWHEAD",
    "DOWNWARDS_WHITE_ARROW_WITHIN_TRIANGLE_ARROWHEAD LEFTWARDS_ARROW_WITH_NOTCHED_TAIL",
    "UPWARDS_ARROW_WITH_NOTCHED_TAIL RIGHTWARDS_ARROW_WITH_NOTCHED_TAIL",
    "DOWNWARDS_ARROW_WITH_NOTCHED_TAIL"]⟩,
   ⟨0x1f89c, "HEAVY_ARROW_SHAFT_WIDTH_", ["ONE TWO_THIRDS ONE_HALF ONE_THIRD"]⟩,
   ⟨0x1f8a0, "", ["LEFTWARDS_BOTTOM-SHADED_WHITE_ARROW RIGHTWARDS_BOTTOM_SHADED_WHITE_ARROW",
    "LEFTWARDS_TOP_SHADED_WHITE_ARROW RIGHTWARDS_TOP_SHADED_WHITE_ARROW",
    "LEFTWARDS_LEFT-SHADED_WHITE_ARROW RIGHTWARDS_RIGHT-SHADED_WHITE_ARROW",
    "LEFTWARDS_RIGHT-SHADED_WHITE_ARROW RIGHTWARDS_LEFT-SHADED_WHITE_ARROW",
    "LEFTWARDS_BACK-TILTED_SHADOWED_WHITE_ARROW RIGHTWARDS_BACK-TILTED_SHADOWED_WHITE_ARROW",
    "LEFTWARDS_FRONT-TILTED_SHADOWED_WHITE_ARROW RIGHTWARDS_FRONT-TILTED_SHADOWED_WHITE_ARROW",
    "WHITE_ARROW_SHAFT_WIDTH_ONE WHITE_ARROW_SHAFT_WIDTH_TWO_THIRDS � �",
    "ARROW_POINTING_UPWARDS_THEN_NORTH_WEST ARROW_POINTING_RIGHTWARDS_THEN_CURVING_SOUTH_WEST"]⟩]

end SqlRoutes.Text.Names
