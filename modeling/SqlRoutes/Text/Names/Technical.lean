import SqlRoutes.Text.Names.Series

namespace SqlRoutes.Text.Names

def technical : List Series :=
  [⟨0x2300, "", ["DIAMETER_SIGN ELECTRIC_ARROW HOUSE UP_ARROWHEAD DOWN_ARROWHEAD PROJECTIVE",
    "PERSPECTIVE WAVY_LINE LEFT_CEILING RIGHT_CEILING LEFT_FLOOR RIGHT_FLOOR BOTTOM_RIGHT_CROP",
    "BOTTOM_LEFT_CROP TOP_RIGHT_CROP TOP_LEFT_CROP REVERSED_NOT_SIGN SQUARE_LOZENGE ARC SEGMENT",
    "SECTOR TELEPHONE_RECORDER POSITION_INDICATOR VIEWDATA_SQUARE PLACE_OF_INTEREST_SIGN",
    "TURNED_NOT_SIGN WATCH HOURGLASS TOP_LEFT_CORNER TOP_RIGHT_CORNER BOTTOM_LEFT_CORNER",
    "BOTTOM_RIGHT_CORNER TOP_HALF_INTEGRAL BOTTOM_HALF_INTEGRAL FROWN SMILE",
    "UP_ARROWHEAD_BETWEEN_TWO_HORIZONTAL_BARS OPTION_KEY ERASE_TO_THE_RIGHT X_IN_A_RECTANGLE_BOX",
    "KEYBOARD LEFT-POINTING_ANGLE_BRACKET RIGHT-POINTING_ANGLE_BRACKET ERASE_TO_THE_LEFT",
    "BENZENE_RING CYLINDRICITY ALL_AROUND-PROFILE SYMMETRY TOTAL_RUNOUT DIMENSION_ORIGIN",
    "CONICAL_TAPER SLOPE COUNTERBORE COUNTERSINK"]⟩,
   ⟨0x2336, "APL_FUNCTIONAL_SYMBOL_", ["I-BEAM SQUISH_QUAD QUAD_EQUAL QUAD_DIVIDE QUAD_DIAMOND",
    "QUAD_JOT QUAD_CIRCLE CIRCLE_STILE CIRCLE_JOT SLASH_BAR BACKSLASH_BAR QUAD_SLASH",
    "QUAD_BACKSLASH QUAD_LESS-THAN QUAD_GREATER-THAN LEFTWARDS_VANE RIGHTWARDS_VANE",
    "QUAD_LEFTWARDS_ARROW QUAD_RIGHTWARDS_ARROW CIRCLE_BACKSLASH DOWN_TACK_UNDERBAR DELTA_STILE",
    "QUAD_DOWN_CARET QUAD_DELTA DOWN_TACK_JOT UPWARDS_VANE QUAD_UPWARDS_ARROW UP_TACK_OVERBAR",
    "DEL_STILE QUAD_UP_CARET QUAD_DEL UP_TACK_JOT DOWNWARDS_VANE QUAD_DOWNWARDS_ARROW",
    "QUOTE_UNDERBAR DELTA_UNDERBAR DIAMOND_UNDERBAR JOT_UNDERBAR CIRCLE_UNDERBAR UP_SHOE_JOT",
    "QUOTE_QUAD CIRCLE_STAR QUAD_COLON UP_TACK_DIAERESIS DEL_DIAERESIS STAR_DIAERESIS",
    "JOT_DIAERESIS CIRCLE_DIAERESIS DOWN_SHOE_STILE LEFT_SHOE_STILE TILDE_DIAERESIS",
    "GREATER-THAN_DIAERESIS COMMA_BAR DEL_TILDE ZILDE STILE_TILDE SEMICOLON_UNDERBAR",
    "QUAD_NOT_EQUAL QUAD_QUESTION DOWN_CARET_TILDE UP_CARET_TILDE IOTA RHO OMEGA ALPHA_UNDERBAR",
    "EPSILON_UNDERBAR IOTA_UNDERBAR OMEGA_UNDERBAR ALPHA"]⟩,
   ⟨0x237b, "", ["NOT_CHECK_MARK RIGHT_ANGLE_WITH_DOWNWARDS_ZIGZAG_ARROW SHOULDERED_OPEN_BOX",
    "BELL_SYMBOL VERTICAL_LINE_WITH_MIDDLE_DOT INSERTION_SYMBOL CONTINUOUS_UNDERLINE_SYMBOL",
    "DISCONTINUOUS_UNDERLINE_SYMBOL EMPHASIS_SYMBOL COMPOSITION_SYMBOL",
    "WHITE_SQUARE_WITH_CENTRE_VERTICAL_LINE ENTER_SYMBOL ALTERNATIVE_KEY_SYMBOL HELM_SYMBOL",
    "CIRCLED_HORIZONTAL_BAR_WITH_NOTCH CIRCLED_TRIANGLE_DOWN BROKEN_CIRCLE_WITH_NORTHWEST_ARROW",
    "UNDO_SYMBOL MONOSTABLE_SYMBOL HYSTERESIS_SYMBOL OPEN-CIRCUIT-OUTPUT_H-TYPE_SYMBOL",
    "OPEN-CIRCUIT-OUTPUT_L-TYPE_SYMBOL PASSIVE-PULL-DOWN-OUTPUT_SYMBOL",
    "PASSIVE-PULL-UP-OUTPUT_SYMBOL DIRECT_CURRENT_SYMBOL_FORM_TWO SOFTWARE-FUNCTION_SYMBOL",
    "APL_FUNCTIONAL_SYMBOL_QUAD DECIMAL_SEPARATOR_KEY_SYMBOL PREVIOUS_PAGE NEXT_PAGE",
    "PRINT_SCREEN_SYMBOL CLEAR_SCREEN_SYMBOL"]⟩,
   ⟨0x239b, "LEFT_PARENTHESIS_", ["UPPER_HOOK EXTENSION LOWER_HOOK"]⟩,
   ⟨0x239e, "RIGHT_PARENTHESIS_", ["UPPER_HOOK EXTENSION LOWER_HOOK"]⟩,
   ⟨0x23a1, "LEFT_SQUARE_BRACKET_", ["UPPER_CORNER EXTENSION LOWER_CORNER"]⟩,
   ⟨0x23a4, "RIGHT_SQUARE_BRACKET_", ["UPPER_CORNER EXTENSION LOWER_CORNER"]⟩,
   ⟨0x23a7, "LEFT_CURLY_BRACKET_", ["UPPER_HOOK MIDDLE_PIECE LOWER_HOOK"]⟩,
   ⟨0x23aa, "", ["CURLY_BRACKET_EXTENSION RIGHT_CURLY_BRACKET_UPPER_HOOK",
    "RIGHT_CURLY_BRACKET_MIDDLE_PIECE RIGHT_CURLY_BRACKET_LOWER_HOOK INTEGRAL_EXTENSION",
    "HORIZONTAL_LINE_EXTENSION UPPER_LEFT_OR_LOWER_RIGHT_CURLY_BRACKET_SECTION",
    "UPPER_RIGHT_OR_LOWER_LEFT_CURLY_BRACKET_SECTION SUMMATION_TOP SUMMATION_BOTTOM",
    "TOP_SQUARE_BRACKET BOTTOM_SQUARE_BRACKET BOTTOM_SQUARE_BRACKET_OVER_TOP_SQUARE_BRACKET",
    "RADICAL_SYMBOL_BOTTOM LEFT_VERTICAL_BOX_LINE RIGHT_VERTICAL_BOX_LINE"]⟩,
   ⟨0x23ba, "HORIZONTAL_SCAN_LINE-", ["1 3 7 9"]⟩,
   ⟨0x23be, "DENTISTRY_SYMBOL_LIGHT_", ["VERTICAL_AND_TOP_RIGHT VERTICAL_AND_BOTTOM_RIGHT",
    "VERTICAL_WITH_CIRCLE DOWN_AND_HORIZONTAL_WITH_CIRCLE UP_AND_HORIZONTAL_WITH_CIRCLE",
    "VERTICAL_WITH_TRIANGLE DOWN_AND_HORIZONTAL_WITH_TRIANGLE UP_AND_HORIZONTAL_WITH_TRIANGLE",
    "VERTICAL_AND_WAVE DOWN_AND_HORIZONTAL_WITH_WAVE UP_AND_HORIZONTAL_WITH_WAVE",
    "DOWN_AND_HORIZONTAL UP_AND_HORIZONTAL VERTICAL_AND_TOP_LEFT VERTICAL_AND_BOTTOM_LEFT"]⟩,
   ⟨0x23cd, "", ["SQUARE_FOOT RETURN_SYMBOL EJECT_SYMBOL VERTICAL_LINE_EXTENSION"]⟩,
   ⟨0x23d1, "METRICAL_", ["BREVE LONG_OVER_SHORT SHORT_OVER_LONG LONG_OVER_TWO_SHORTS",
    "TWO_SHORTS_OVER_LONG TWO_SHORTS_JOINED TRISEME TETRASEME PENTASEME"]⟩,
   ⟨0x23da, "", ["EARTH_GROUND FUSE TOP_PARENTHESIS BOTTOM_PARENTHESIS TOP_CURLY_BRACKET",
    "BOTTOM_CURLY_BRACKET TOP_TORTOISE_SHELL_BRACKET BOTTOM_TORTOISE_SHELL_BRACKET",
    "WHITE_TRAPEZIUM BENZENE_RING_WITH_CIRCLE STRAIGHTNESS FLATNESS AC_CURRENT",
    "ELECTRICAL_INTERSECTION DECIMAL_EXPONENT_SYMBOL BLACK_RIGHT-POINTING_DOUBLE_TRIANGLE",
    "BLACK_LEFT-POINTING_DOUBLE_TRIANGLE BLACK_UP-POINTING_DOUBLE_TRIANGLE",
    "BLACK_DOWN-POINTING_DOUBLE_TRIANGLE BLACK_RIGHT-POINTING_DOUBLE_TRIANGLE_WITH_VERTICAL_BAR",
    "BLACK_LEFT-POINTING_DOUBLE_TRIANGLE_WITH_VERTICAL_BAR",
    "BLACK_RIGHT-POINTING_TRIANGLE_WITH_DOUBLE_VERTICAL_BAR ALARM_CLOCK STOPWATCH TIMER_CLOCK",
    "HOURGLASS_WITH_FLOWING_SAND BLACK_MEDIUM_LEFT-POINTING_TRIANGLE",
    "BLACK_MEDIUM_RIGHT-POINTING_TRIANGLE BLACK_MEDIUM_UP-POINTING_TRIANGLE",
    "BLACK_MEDIUM_DOWN-POINTING_TRIANGLE DOUBLE_VERTICAL_BAR BLACK_SQUARE_FOR_STOP",
    "BLACK_CIRCLE_FOR_RECORD POWER_SYMBOL POWER_ON-OFF_SYMBOL POWER_ON_SYMBOL POWER_SLEEP_SYMBOL",
    "OBSERVER_EYE_SYMBOL"]⟩,
   ⟨0x2400, "SYMBOL_FOR_", ["NULL START_OF_HEADING START_OF_TEXT END_OF_TEXT END_OF_TRANSMISSION",
    "ENQUIRY ACKNOWLEDGE BELL BACKSPACE HORIZONTAL_TABULATION LINE_FEED VERTICAL_TABULATION",
    "FORM_FEED CARRIAGE_RETURN SHIFT_OUT SHIFT_IN DATA_LINK_ESCAPE DEVICE_CONTROL_ONE",
    "DEVICE_CONTROL_TWO DEVICE_CONTROL_THREE DEVICE_CONTROL_FOUR NEGATIVE_ACKNOWLEDGE",
    "SYNCHRONOUS_IDLE END_OF_TRANSMISSION_BLOCK CANCEL END_OF_MEDIUM SUBSTITUTE ESCAPE",
    "FILE_SEPARATOR GROUP_SEPARATOR RECORD_SEPARATOR UNIT_SEPARATOR SPACE DELETE"]⟩,
   ⟨0x2422, "", ["BLANK_SYMBOL OPEN_BOX SYMBOL_FOR_NEWLINE SYMBOL_FOR_DELETE_FORM_TWO",
    "SYMBOL_FOR_SUBSTITUTE_FORM_TWO"]⟩,
   ⟨0x2440, "OCR_", ["HOOK CHAIR FORK INVERTED_FORK BELT_BUCKLE BOW_TIE",
    "BRANCH_BANK_IDENTIFICATION AMOUNT_OF_CHECK DASH CUSTOMER_ACCOUNT_NUMBER DOUBLE_BACKSLASH"]⟩,
   ⟨0x2460, "CIRCLED_DIGIT_", ["ONE TWO THREE FOUR FIVE SIX SEVEN EIGHT NINE"]⟩,
   ⟨0x2469, "CIRCLED_NUMBER_", ["TEN ELEVEN TWELVE THIRTEEN FOURTEEN FIFTEEN SIXTEEN SEVENTEEN",
    "EIGHTEEN NINETEEN TWENTY"]⟩,
   ⟨0x2474, "PARENTHESIZED_DIGIT_", ["ONE TWO THREE FOUR FIVE SIX SEVEN EIGHT NINE"]⟩,
   ⟨0x247d, "PARENTHESIZED_NUMBER_", ["TEN ELEVEN TWELVE THIRTEEN FOURTEEN FIFTEEN SIXTEEN",
    "SEVENTEEN EIGHTEEN NINETEEN TWENTY"]⟩,
   ⟨0x2488, "DIGIT_", ["ONE_FULL_STOP TWO_FULL_STOP THREE_FULL_STOP FOUR_FULL_STOP",
    "FIVE_FULL_STOP SIX_FULL_STOP SEVEN_FULL_STOP EIGHT_FULL_STOP NINE_FULL_STOP"]⟩,
   ⟨0x2491, "NUMBER_", ["TEN_FULL_STOP ELEVEN_FULL_STOP TWELVE_FULL_STOP THIRTEEN_FULL_STOP",
    "FOURTEEN_FULL_STOP FIFTEEN_FULL_STOP SIXTEEN_FULL_STOP SEVENTEEN_FULL_STOP",
    "EIGHTEEN_FULL_STOP NINETEEN_FULL_STOP TWENTY_FULL_STOP"]⟩,
   ⟨0x249c, "PARENTHESIZED_LATIN_SMALL_LETTER_", ["A B C D E F G H I J K L M N O P Q R S T U V W",
    "X Y Z"]⟩,
   ⟨0x24b6, "CIRCLED_LATIN_CAPITAL_LETTER_", ["A B C D E F G H I J K L M N O P Q R S T U V W X Y",
    "Z"]⟩,
   ⟨0x24d0, "CIRCLED_LATIN_SMALL_LETTER_", ["A B C D E F G H I J K L M N O P Q R S T U V W X Y Z"]⟩,
   ⟨0x24ea, "CIRCLED_DIGIT_", ["ZERO"]⟩,
   ⟨0x24eb, "NEGATIVE_CIRCLED_NUMBER_", ["ELEVEN TWELVE THIRTEEN FOURTEEN FIFTEEN SIXTEEN",
    "SEVENTEEN EIGHTEEN NINETEEN TWENTY"]⟩,
   ⟨0x24f5, "DOUBLE_CIRCLED_DIGIT_", ["ONE TWO THREE FOUR FIVE SIX SEVEN EIGHT NINE"]⟩,
   ⟨0x24fe, "", ["DOUBLE_CIRCLED_NUMBER_TEN NEGATIVE_CIRCLED_DIGIT_ZERO"]⟩,
   ⟨0x2500, "BOX_DRAWINGS_", ["LIGHT_HORIZONTAL HEAVY_HORIZONTAL LIGHT_VERTICAL HEAVY_VERTICAL",
    "LIGHT_TRIPLE_DASH_HORIZONTAL HEAVY_TRIPLE_DASH_HORIZONTAL LIGHT_TRIPLE_DASH_VERTICAL",
    "HEAVY_TRIPLE_DASH_VERTICAL LIGHT_QUADRUPLE_DASH_HORIZONTAL HEAVY_QUADRUPLE_DASH_HORIZONTAL",
    "LIGHT_QUADRUPLE_DASH_VERTICAL HEAVY_QUADRUPLE_DASH_VERTICAL LIGHT_DOWN_AND_RIGHT",
    "DOWN_LIGHT_AND_RIGHT_HEAVY DOWN_HEAVY_AND_RIGHT_LIGHT HEAVY_DOWN_AND_RIGHT",
    "LIGHT_DOWN_AND_LEFT DOWN_LIGHT_AND_LEFT_HEAVY DOWN_HEAVY_AND_LEFT_LIGHT HEAVY_DOWN_AND_LEFT",
    "LIGHT_UP_AND_RIGHT UP_LIGHT_AND_RIGHT_HEAVY UP_HEAVY_AND_RIGHT_LIGHT HEAVY_UP_AND_RIGHT",
    "LIGHT_UP_AND_LEFT UP_LIGHT_AND_LEFT_HEAVY UP_HEAVY_AND_LEFT_LIGHT HEAVY_UP_AND_LEFT",
    "LIGHT_VERTICAL_AND_RIGHT VERTICAL_LIGHT_AND_RIGHT_HEAVY UP_HEAVY_AND_RIGHT_DOWN_LIGHT",
    "DOWN_HEAVY_AND_RIGHT_UP_LIGHT VERTICAL_HEAVY_AND_RIGHT_LIGHT DOWN_LIGHT_AND_RIGHT_UP_HEAVY",
    "UP_LIGHT_AND_RIGHT_DOWN_HEAVY HEAVY_VERTICAL_AND_RIGHT LIGHT_VERTICAL_AND_LEFT",
    "VERTICAL_LIGHT_AND_LEFT_HEAVY UP_HEAVY_AND_LEFT_DOWN_LIGHT DOWN_HEAVY_AND_LEFT_UP_LIGHT",
    "VERTICAL_HEAVY_AND_LEFT_LIGHT DOWN_LIGHT_AND_LEFT_UP_HEAVY UP_LIGHT_AND_LEFT_DOWN_HEAVY",
    "HEAVY_VERTICAL_AND_LEFT LIGHT_DOWN_AND_HORIZONTAL LEFT_HEAVY_AND_RIGHT_DOWN_LIGHT",
    "RIGHT_HEAVY_AND_LEFT_DOWN_LIGHT DOWN_LIGHT_AND_HORIZONTAL_HEAVY",
    "DOWN_HEAVY_AND_HORIZONTAL_LIGHT RIGHT_LIGHT_AND_LEFT_DOWN_HEAVY",
    "LEFT_LIGHT_AND_RIGHT_DOWN_HEAVY HEAVY_DOWN_AND_HORIZONTAL LIGHT_UP_AND_HORIZONTAL",
    "LEFT_HEAVY_AND_RIGHT_UP_LIGHT RIGHT_HEAVY_AND_LEFT_UP_LIGHT UP_LIGHT_AND_HORIZONTAL_HEAVY",
    "UP_HEAVY_AND_HORIZONTAL_LIGHT RIGHT_LIGHT_AND_LEFT_UP_HEAVY LEFT_LIGHT_AND_RIGHT_UP_HEAVY",
    "HEAVY_UP_AND_HORIZONTAL LIGHT_VERTICAL_AND_HORIZONTAL LEFT_HEAVY_AND_RIGHT_VERTICAL_LIGHT",
    "RIGHT_HEAVY_AND_LEFT_VERTICAL_LIGHT VERTICAL_LIGHT_AND_HORIZONTAL_HEAVY",
    "UP_HEAVY_AND_DOWN_HORIZONTAL_LIGHT DOWN_HEAVY_AND_UP_HORIZONTAL_LIGHT",
    "VERTICAL_HEAVY_AND_HORIZONTAL_LIGHT LEFT_UP_HEAVY_AND_RIGHT_DOWN_LIGHT",
    "RIGHT_UP_HEAVY_AND_LEFT_DOWN_LIGHT LEFT_DOWN_HEAVY_AND_RIGHT_UP_LIGHT",
    "RIGHT_DOWN_HEAVY_AND_LEFT_UP_LIGHT DOWN_LIGHT_AND_UP_HORIZONTAL_HEAVY",
    "UP_LIGHT_AND_DOWN_HORIZONTAL_HEAVY RIGHT_LIGHT_AND_LEFT_VERTICAL_HEAVY",
    "LEFT_LIGHT_AND_RIGHT_VERTICAL_HEAVY HEAVY_VERTICAL_AND_HORIZONTAL",
    "LIGHT_DOUBLE_DASH_HORIZONTAL HEAVY_DOUBLE_DASH_HORIZONTAL LIGHT_DOUBLE_DASH_VERTICAL",
    "HEAVY_DOUBLE_DASH_VERTICAL DOUBLE_HORIZONTAL DOUBLE_VERTICAL DOWN_SINGLE_AND_RIGHT_DOUBLE",
    "DOWN_DOUBLE_AND_RIGHT_SINGLE DOUBLE_DOWN_AND_RIGHT DOWN_SINGLE_AND_LEFT_DOUBLE",
    "DOWN_DOUBLE_AND_LEFT_SINGLE DOUBLE_DOWN_AND_LEFT UP_SINGLE_AND_RIGHT_DOUBLE",
    "UP_DOUBLE_AND_RIGHT_SINGLE DOUBLE_UP_AND_RIGHT UP_SINGLE_AND_LEFT_DOUBLE",
    "UP_DOUBLE_AND_LEFT_SINGLE DOUBLE_UP_AND_LEFT VERTICAL_SINGLE_AND_RIGHT_DOUBLE",
    "VERTICAL_DOUBLE_AND_RIGHT_SINGLE DOUBLE_VERTICAL_AND_RIGHT VERTICAL_SINGLE_AND_LEFT_DOUBLE",
    "VERTICAL_DOUBLE_AND_LEFT_SINGLE DOUBLE_VERTICAL_AND_LEFT DOWN_SINGLE_AND_HORIZONTAL_DOUBLE",
    "DOWN_DOUBLE_AND_HORIZONTAL_SINGLE DOUBLE_DOWN_AND_HORIZONTAL",
    "UP_SINGLE_AND_HORIZONTAL_DOUBLE UP_DOUBLE_AND_HORIZONTAL_SINGLE DOUBLE_UP_AND_HORIZONTAL",
    "VERTICAL_SINGLE_AND_HORIZONTAL_DOUBLE VERTICAL_DOUBLE_AND_HORIZONTAL_SINGLE",
    "DOUBLE_VERTICAL_AND_HORIZONTAL LIGHT_ARC_DOWN_AND_RIGHT LIGHT_ARC_DOWN_AND_LEFT",
    "LIGHT_ARC_UP_AND_LEFT LIGHT_ARC_UP_AND_RIGHT LIGHT_DIAGONAL_UPPER_RIGHT_TO_LOWER_LEFT",
    "LIGHT_DIAGONAL_UPPER_LEFT_TO_LOWER_RIGHT LIGHT_DIAGONAL_CROSS LIGHT_LEFT LIGHT_UP",
    "LIGHT_RIGHT LIGHT_DOWN HEAVY_LEFT HEAVY_UP HEAVY_RIGHT HEAVY_DOWN",
    "LIGHT_LEFT_AND_HEAVY_RIGHT LIGHT_UP_AND_HEAVY_DOWN HEAVY_LEFT_AND_LIGHT_RIGHT",
    "HEAVY_UP_AND_LIGHT_DOWN"]⟩,
   ⟨0x2580, "", ["UPPER_HALF_BLOCK LOWER_ONE_EIGHTH_BLOCK LOWER_ONE_QUARTER_BLOCK",
    "LOWER_THREE_EIGHTHS_BLOCK LOWER_HALF_BLOCK LOWER_FIVE_EIGHTHS_BLOCK",
    "LOWER_THREE_QUARTERS_BLOCK LOWER_SEVEN_EIGHTHS_BLOCK FULL_BLOCK LEFT_SEVEN_EIGHTHS_BLOCK",
    "LEFT_THREE_QUARTERS_BLOCK LEFT_FIVE_EIGHTHS_BLOCK LEFT_HALF_BLOCK LEFT_THREE_EIGHTHS_BLOCK",
    "LEFT_ONE_QUARTER_BLOCK LEFT_ONE_EIGHTH_BLOCK RIGHT_HALF_BLOCK LIGHT_SHADE MEDIUM_SHADE",
    "DARK_SHADE UPPER_ONE_EIGHTH_BLOCK RIGHT_ONE_EIGHTH_BLOCK QUADRANT_LOWER_LEFT",
    "QUADRANT_LOWER_RIGHT"]⟩,
   ⟨0x2598, "QUADRANT_UPPER_", ["LEFT LEFT_AND_LOWER_LEFT_AND_LOWER_RIGHT LEFT_AND_LOWER_RIGHT",
    "LEFT_AND_UPPER_RIGHT_AND_LOWER_LEFT LEFT_AND_UPPER_RIGHT_AND_LOWER_RIGHT RIGHT",
    "RIGHT_AND_LOWER_LEFT RIGHT_AND_LOWER_LEFT_AND_LOWER_RIGHT"]⟩,
   ⟨0x25a0, "", ["BLACK_SQUARE WHITE_SQUARE WHITE_SQUARE_WITH_ROUNDED_CORNERS",
    "WHITE_SQUARE_CONTAINING_BLACK_SMALL_SQUARE"]⟩,
   ⟨0x25a4, "SQUARE_WITH_", ["HORIZONTAL_FILL VERTICAL_FILL ORTHOGONAL_CROSSHATCH_FILL",
    "UPPER_LEFT_TO_LOWER_RIGHT_FILL UPPER_RIGHT_TO_LOWER_LEFT_FILL DIAGONAL_CROSSHATCH_FILL"]⟩,
   ⟨0x25aa, "", ["BLACK_SMALL_SQUARE WHITE_SMALL_SQUARE BLACK_RECTANGLE WHITE_RECTANGLE",
    "BLACK_VERTICAL_RECTANGLE WHITE_VERTICAL_RECTANGLE BLACK_PARALLELOGRAM WHITE_PARALLELOGRAM",
    "BLACK_UP-POINTING_TRIANGLE WHITE_UP-POINTING_TRIANGLE BLACK_UP-POINTING_SMALL_TRIANGLE",
    "WHITE_UP-POINTING_SMALL_TRIANGLE BLACK_RIGHT-POINTING_TRIANGLE",
    "WHITE_RIGHT-POINTING_TRIANGLE BLACK_RIGHT-POINTING_SMALL_TRIANGLE",
    "WHITE_RIGHT-POINTING_SMALL_TRIANGLE BLACK_RIGHT-POINTING_POINTER",
    "WHITE_RIGHT-POINTING_POINTER BLACK_DOWN-POINTING_TRIANGLE WHITE_DOWN-POINTING_TRIANGLE",
    "BLACK_DOWN-POINTING_SMALL_TRIANGLE WHITE_DOWN-POINTING_SMALL_TRIANGLE",
    "BLACK_LEFT-POINTING_TRIANGLE WHITE_LEFT-POINTING_TRIANGLE",
    "BLACK_LEFT-POINTING_SMALL_TRIANGLE WHITE_LEFT-POINTING_SMALL_TRIANGLE",
    "BLACK_LEFT-POINTING_POINTER WHITE_LEFT-POINTING_POINTER BLACK_DIAMOND WHITE_DIAMOND",
    "WHITE_DIAMOND_CONTAINING_BLACK_SMALL_DIAMOND FISHEYE LOZENGE WHITE_CIRCLE DOTTED_CIRCLE",
    "CIRCLE_WITH_VERTICAL_FILL BULLSEYE BLACK_CIRCLE"]⟩,
   ⟨0x25d0, "CIRCLE_WITH_", ["LEFT_HALF_BLACK RIGHT_HALF_BLACK LOWER_HALF_BLACK UPPER_HALF_BLACK",
    "UPPER_RIGHT_QUADRANT_BLACK ALL_BUT_UPPER_LEFT_QUADRANT_BLACK"]⟩,
   ⟨0x25d6, "", ["LEFT_HALF_BLACK_CIRCLE RIGHT_HALF_BLACK_CIRCLE INVERSE_BULLET",
    "INVERSE_WHITE_CIRCLE UPPER_HALF_INVERSE_WHITE_CIRCLE LOWER_HALF_INVERSE_WHITE_CIRCLE",
    "UPPER_LEFT_QUADRANT_CIRCULAR_ARC UPPER_RIGHT_QUADRANT_CIRCULAR_ARC",
    "LOWER_RIGHT_QUADRANT_CIRCULAR_ARC LOWER_LEFT_QUADRANT_CIRCULAR_ARC UPPER_HALF_CIRCLE",
    "LOWER_HALF_CIRCLE BLACK_LOWER_RIGHT_TRIANGLE BLACK_LOWER_LEFT_TRIANGLE",
    "BLACK_UPPER_LEFT_TRIANGLE BLACK_UPPER_RIGHT_TRIANGLE WHITE_BULLET",
    "SQUARE_WITH_LEFT_HALF_BLACK SQUARE_WITH_RIGHT_HALF_BLACK",
    "SQUARE_WITH_UPPER_LEFT_DIAGONAL_HALF_BLACK SQUARE_WITH_LOWER_RIGHT_DIAGONAL_HALF_BLACK",
    "WHITE_SQUARE_WITH_VERTICAL_BISECTING_LINE WHITE_UP-POINTING_TRIANGLE_WITH_DOT",
    "UP-POINTING_TRIANGLE_WITH_LEFT_HALF_BLACK UP-POINTING_TRIANGLE_WITH_RIGHT_HALF_BLACK",
    "LARGE_CIRCLE"]⟩,
   ⟨0x25f0, "WHITE_SQUARE_WITH_", ["UPPER_LEFT_QUADRANT LOWER_LEFT_QUADRANT LOWER_RIGHT_QUADRANT",
    "UPPER_RIGHT_QUADRANT"]⟩,
   ⟨0x25f4, "WHITE_CIRCLE_WITH_", ["UPPER_LEFT_QUADRANT LOWER_LEFT_QUADRANT LOWER_RIGHT_QUADRANT",
    "UPPER_RIGHT_QUADRANT"]⟩,
   ⟨0x25f8, "", ["UPPER_LEFT_TRIANGLE UPPER_RIGHT_TRIANGLE LOWER_LEFT_TRIANGLE",
    "WHITE_MEDIUM_SQUARE BLACK_MEDIUM_SQUARE WHITE_MEDIUM_SMALL_SQUARE BLACK_MEDIUM_SMALL_SQUARE",
    "LOWER_RIGHT_TRIANGLE BLACK_SUN_WITH_RAYS CLOUD UMBRELLA SNOWMAN COMET BLACK_STAR WHITE_STAR",
    "LIGHTNING THUNDERSTORM SUN ASCENDING_NODE DESCENDING_NODE CONJUNCTION OPPOSITION",
    "BLACK_TELEPHONE WHITE_TELEPHONE BALLOT_BOX BALLOT_BOX_WITH_CHECK BALLOT_BOX_WITH_X SALTIRE",
    "UMBRELLA_WITH_RAIN_DROPS HOT_BEVERAGE WHITE_SHOGI_PIECE BLACK_SHOGI_PIECE SHAMROCK",
    "REVERSED_ROTATED_FLORAL_HEART_BULLET BLACK_LEFT_POINTING_INDEX BLACK_RIGHT_POINTING_INDEX",
    "WHITE_LEFT_POINTING_INDEX WHITE_UP_POINTING_INDEX WHITE_RIGHT_POINTING_INDEX",
    "WHITE_DOWN_POINTING_INDEX SKULL_AND_CROSSBONES CAUTION_SIGN RADIOACTIVE_SIGN BIOHAZARD_SIGN",
    "CADUCEUS ANKH ORTHODOX_CROSS CHI_RHO CROSS_OF_LORRAINE CROSS_OF_JERUSALEM STAR_AND_CRESCENT",
    "FARSI_SYMBOL ADI_SHAKTI HAMMER_AND_SICKLE PEACE_SYMBOL YIN_YANG"]⟩,
   ⟨0x2630, "TRIGRAM_FOR_", ["HEAVEN LAKE FIRE THUNDER WIND WATER MOUNTAIN EARTH"]⟩,
   ⟨0x2638, "", ["WHEEL_OF_DHARMA WHITE_FROWNING_FACE WHITE_SMILING_FACE BLACK_SMILING_FACE",
    "WHITE_SUN_WITH_RAYS FIRST_QUARTER_MOON LAST_QUARTER_MOON MERCURY FEMALE_SIGN EARTH",
    "MALE_SIGN JUPITER SATURN URANUS NEPTUNE PLUTO ARIES TAURUS GEMINI CANCER LEO VIRGO LIBRA",
    "SCORPIUS SAGITTARIUS CAPRICORN AQUARIUS PISCES"]⟩,
   ⟨0x2654, "WHITE_CHESS_", ["KING QUEEN ROOK BISHOP KNIGHT PAWN"]⟩,
   ⟨0x265a, "BLACK_CHESS_", ["KING QUEEN ROOK BISHOP KNIGHT PAWN"]⟩,
   ⟨0x2660, "", ["BLACK_SPADE_SUIT WHITE_HEART_SUIT WHITE_DIAMOND_SUIT BLACK_CLUB_SUIT",
    "WHITE_SPADE_SUIT BLACK_HEART_SUIT BLACK_DIAMOND_SUIT WHITE_CLUB_SUIT HOT_SPRINGS",
    "QUARTER_NOTE EIGHTH_NOTE BEAMED_EIGHTH_NOTES BEAMED_SIXTEENTH_NOTES MUSIC_FLAT_SIGN",
    "MUSIC_NATURAL_SIGN MUSIC_SHARP_SIGN WEST_SYRIAC_CROSS EAST_SYRIAC_CROSS",
    "UNIVERSAL_RECYCLING_SYMBOL"]⟩,
   ⟨0x2673, "RECYCLING_SYMBOL_FOR_TYPE-", ["1_PLASTICS 2_PLASTICS 3_PLASTICS 4_PLASTICS",
    "5_PLASTICS 6_PLASTICS 7_PLASTICS"]⟩,
   ⟨0x267a, "", ["RECYCLING_SYMBOL_FOR_GENERIC_MATERIALS BLACK_UNIVERSAL_RECYCLING_SYMBOL",
    "RECYCLED_PAPER_SYMBOL PARTIALLY-RECYCLED_PAPER_SYMBOL PERMANENT_PAPER_SIGN",
    "WHEELCHAIR_SYMBOL"]⟩,
   ⟨0x2680, "DIE_FACE-", ["1 2 3 4 5 6"]⟩,
   ⟨0x2686, "", ["WHITE_CIRCLE_WITH_DOT_RIGHT WHITE_CIRCLE_WITH_TWO_DOTS",
    "BLACK_CIRCLE_WITH_WHITE_DOT_RIGHT BLACK_CIRCLE_WITH_TWO_WHITE_DOTS MONOGRAM_FOR_YANG",
    "MONOGRAM_FOR_YIN DIGRAM_FOR_GREATER_YANG DIGRAM_FOR_LESSER_YIN DIGRAM_FOR_LESSER_YANG",
    "DIGRAM_FOR_GREATER_YIN WHITE_FLAG BLACK_FLAG HAMMER_AND_PICK ANCHOR CROSSED_SWORDS",
    "STAFF_OF_AESCULAPIUS SCALES ALEMBIC FLOWER GEAR STAFF_OF_HERMES ATOM_SYMBOL FLEUR-DE-LIS",
    "OUTLINED_WHITE_STAR THREE_LINES_CONVERGING_RIGHT THREE_LINES_CONVERGING_LEFT WARNING_SIGN",
    "HIGH_VOLTAGE_SIGN DOUBLED_FEMALE_SIGN DOUBLED_MALE_SIGN INTERLOCKED_FEMALE_AND_MALE_SIGN",
    "MALE_AND_FEMALE_SIGN MALE_WITH_STROKE_SIGN MALE_WITH_STROKE_AND_MALE_AND_FEMALE_SIGN",
    "VERTICAL_MALE_WITH_STROKE_SIGN HORIZONTAL_MALE_WITH_STROKE_SIGN MEDIUM_WHITE_CIRCLE",
    "MEDIUM_BLACK_CIRCLE MEDIUM_SMALL_WHITE_CIRCLE MARRIAGE_SYMBOL DIVORCE_SYMBOL",
    "UNMARRIED_PARTNERSHIP_SYMBOL COFFIN FUNERAL_URN NEUTER CERES PALLAS JUNO VESTA CHIRON",
    "BLACK_MOON_LILITH SEXTILE SEMISEXTILE QUINCUNX SESQUIQUADRATE SOCCER_BALL BASEBALL",
    "SQUARED_KEY WHITE_DRAUGHTS_MAN WHITE_DRAUGHTS_KING BLACK_DRAUGHTS_MAN BLACK_DRAUGHTS_KING",
    "SNOWMAN_WITHOUT_SNOW SUN_BEHIND_CLOUD RAIN BLACK_SNOWMAN THUNDER_CLOUD_AND_RAIN",
    "TURNED_WHITE_SHOGI_PIECE TURNED_BLACK_SHOGI_PIECE WHITE_DIAMOND_IN_SQUARE CROSSING_LANES",
    "DISABLED_CAR OPHIUCHUS PICK CAR_SLIDING HELMET_WITH_WHITE_CROSS CIRCLED_CROSSING_LANES",
    "CHAINS NO_ENTRY ALTERNATE_ONE-WAY_LEFT_WAY_TRAFFIC BLACK_TWO-WAY_LEFT_WAY_TRAFFIC",
    "WHITE_TWO-WAY_LEFT_WAY_TRAFFIC BLACK_LEFT_LANE_MERGE WHITE_LEFT_LANE_MERGE DRIVE_SLOW_SIGN",
    "HEAVY_WHITE_DOWN-POINTING_TRIANGLE LEFT_CLOSED_ENTRY SQUARED_SALTIRE",
    "FALLING_DIAGONAL_IN_WHITE_CIRCLE_IN_BLACK_SQUARE BLACK_TRUCK RESTRICTED_LEFT_ENTRY-1",
    "RESTRICTED_LEFT_ENTRY-2 ASTRONOMICAL_SYMBOL_FOR_URANUS",
    "HEAVY_CIRCLE_WITH_STROKE_AND_TWO_DOTS_ABOVE PENTAGRAM RIGHT-HANDED_INTERLACED_PENTAGRAM",
    "LEFT-HANDED_INTERLACED_PENTAGRAM INVERTED_PENTAGRAM BLACK_CROSS_ON_SHIELD SHINTO_SHRINE",
    "CHURCH CASTLE HISTORIC_SITE GEAR_WITHOUT_HUB GEAR_WITH_HANDLES MAP_SYMBOL_FOR_LIGHTHOUSE",
    "MOUNTAIN UMBRELLA_ON_GROUND FOUNTAIN FLAG_IN_HOLE FERRY SAILBOAT SQUARE_FOUR_CORNERS SKIER",
    "ICE_SKATE PERSON_WITH_BALL TENT JAPANESE_BANK_SYMBOL HEADSTONE_GRAVEYARD_SYMBOL FUEL_PUMP",
    "CUP_ON_BLACK_SQUARE WHITE_FLAG_WITH_HORIZONTAL_MIDDLE_BLACK_STRIPE BLACK_SAFETY_SCISSORS",
    "UPPER_BLADE_SCISSORS BLACK_SCISSORS LOWER_BLADE_SCISSORS WHITE_SCISSORS",
    "WHITE_HEAVY_CHECK_MARK TELEPHONE_LOCATION_SIGN TAPE_DRIVE AIRPLANE ENVELOPE RAISED_FIST",
    "RAISED_HAND VICTORY_HAND WRITING_HAND LOWER_RIGHT_PENCIL PENCIL UPPER_RIGHT_PENCIL",
    "WHITE_NIB BLACK_NIB CHECK_MARK HEAVY_CHECK_MARK MULTIPLICATION_X HEAVY_MULTIPLICATION_X",
    "BALLOT_X HEAVY_BALLOT_X OUTLINED_GREEK_CROSS HEAVY_GREEK_CROSS OPEN_CENTRE_CROSS",
    "HEAVY_OPEN_CENTRE_CROSS LATIN_CROSS SHADOWED_WHITE_LATIN_CROSS OUTLINED_LATIN_CROSS",
    "MALTESE_CROSS STAR_OF_DAVID FOUR_TEARDROP-SPOKED_ASTERISK FOUR_BALLOON-SPOKED_ASTERISK",
    "HEAVY_FOUR_BALLOON-SPOKED_ASTERISK FOUR_CLUB-SPOKED_ASTERISK BLACK_FOUR_POINTED_STAR",
    "WHITE_FOUR_POINTED_STAR SPARKLES STRESS_OUTLINED_WHITE_STAR CIRCLED_WHITE_STAR",
    "OPEN_CENTRE_BLACK_STAR BLACK_CENTRE_WHITE_STAR OUTLINED_BLACK_STAR",
    "HEAVY_OUTLINED_BLACK_STAR PINWHEEL_STAR SHADOWED_WHITE_STAR HEAVY_ASTERISK",
    "OPEN_CENTRE_ASTERISK EIGHT_SPOKED_ASTERISK EIGHT_POINTED_BLACK_STAR",
    "EIGHT_POINTED_PINWHEEL_STAR SIX_POINTED_BLACK_STAR EIGHT_POINTED_RECTILINEAR_BLACK_STAR",
    "HEAVY_EIGHT_POINTED_RECTILINEAR_BLACK_STAR TWELVE_POINTED_BLACK_STAR",
    "SIXTEEN_POINTED_ASTERISK TEARDROP-SPOKED_ASTERISK OPEN_CENTRE_TEARDROP-SPOKED_ASTERISK",
    "HEAVY_TEARDROP-SPOKED_ASTERISK SIX_PETALLED_BLACK_AND_WHITE_FLORETTE BLACK_FLORETTE",
    "WHITE_FLORETTE EIGHT_PETALLED_OUTLINED_BLACK_FLORETTE",
    "CIRCLED_OPEN_CENTRE_EIGHT_POINTED_STAR HEAVY_TEARDROP-SPOKED_PINWHEEL_ASTERISK SNOWFLAKE",
    "TIGHT_TRIFOLIATE_SNOWFLAKE HEAVY_CHEVRON_SNOWFLAKE SPARKLE HEAVY_SPARKLE",
    "BALLOON-SPOKED_ASTERISK EIGHT_TEARDROP-SPOKED_PROPELLER_ASTERISK",
    "HEAVY_EIGHT_TEARDROP-SPOKED_PROPELLER_ASTERISK CROSS_MARK SHADOWED_WHITE_CIRCLE",
    "NEGATIVE_SQUARED_CROSS_MARK LOWER_RIGHT_DROP-SHADOWED_WHITE_SQUARE",
    "UPPER_RIGHT_DROP-SHADOWED_WHITE_SQUARE LOWER_RIGHT_SHADOWED_WHITE_SQUARE",
    "UPPER_RIGHT_SHADOWED_WHITE_SQUARE BLACK_QUESTION_MARK_ORNAMENT WHITE_QUESTION_MARK_ORNAMENT",
    "WHITE_EXCLAMATION_MARK_ORNAMENT BLACK_DIAMOND_MINUS_WHITE_X HEAVY_EXCLAMATION_MARK_SYMBOL",
    "LIGHT_VERTICAL_BAR MEDIUM_VERTICAL_BAR HEAVY_VERTICAL_BAR",
    "HEAVY_SINGLE_TURNED_COMMA_QUOTATION_MARK_ORNAMENT",
    "HEAVY_SINGLE_COMMA_QUOTATION_MARK_ORNAMENT",
    "HEAVY_DOUBLE_TURNED_COMMA_QUOTATION_MARK_ORNAMENT",
    "HEAVY_DOUBLE_COMMA_QUOTATION_MARK_ORNAMENT HEAVY_LOW_SINGLE_COMMA_QUOTATION_MARK_ORNAMENT",
    "HEAVY_LOW_DOUBLE_COMMA_QUOTATION_MARK_ORNAMENT CURVED_STEM_PARAGRAPH_SIGN_ORNAMENT",
    "HEAVY_EXCLAMATION_MARK_ORNAMENT HEAVY_HEART_EXCLAMATION_MARK_ORNAMENT HEAVY_BLACK_HEART",
    "ROTATED_HEAVY_BLACK_HEART_BULLET FLORAL_HEART ROTATED_FLORAL_HEART_BULLET",
    "MEDIUM_LEFT_PARENTHESIS_ORNAMENT MEDIUM_RIGHT_PARENTHESIS_ORNAMENT",
    "MEDIUM_FLATTENED_LEFT_PARENTHESIS_ORNAMENT MEDIUM_FLATTENED_RIGHT_PARENTHESIS_ORNAMENT",
    "MEDIUM_LEFT-POINTING_ANGLE_BRACKET_ORNAMENT MEDIUM_RIGHT-POINTING_ANGLE_BRACKET_ORNAMENT",
    "HEAVY_LEFT-POINTING_ANGLE_QUOTATION_MARK_ORNAMENT",
    "HEAVY_RIGHT-POINTING_ANGLE_QUOTATION_MARK_ORNAMENT",
    "HEAVY_LEFT-POINTING_ANGLE_BRACKET_ORNAMENT HEAVY_RIGHT-POINTING_ANGLE_BRACKET_ORNAMENT",
    "LIGHT_LEFT_TORTOISE_SHELL_BRACKET_ORNAMENT LIGHT_RIGHT_TORTOISE_SHELL_BRACKET_ORNAMENT",
    "MEDIUM_LEFT_CURLY_BRACKET_ORNAMENT MEDIUM_RIGHT_CURLY_BRACKET_ORNAMENT"]⟩,
   ⟨0x2776, "DINGBAT_NEGATIVE_CIRCLED_DIGIT_", ["ONE TWO THREE FOUR FIVE SIX SEVEN EIGHT NINE"]⟩,
   ⟨0x277f, "DINGBAT_NEGATIVE_CIRCLED_NUMBER_", ["TEN"]⟩,
   ⟨0x2780, "DINGBAT_CIRCLED_SANS-SERIF_", ["DIGIT_ONE DIGIT_TWO DIGIT_THREE DIGIT_FOUR",
    "DIGIT_FIVE DIGIT_SIX DIGIT_SEVEN DIGIT_EIGHT DIGIT_NINE NUMBER_TEN"]⟩,
   ⟨0x278a, "DINGBAT_NEGATIVE_CIRCLED_SANS-SERIF_", ["DIGIT_ONE DIGIT_TWO DIGIT_THREE DIGIT_FOUR",
    "DIGIT_FIVE DIGIT_SIX DIGIT_SEVEN DIGIT_EIGHT DIGIT_NINE NUMBER_TEN"]⟩,
   ⟨0x2794, "HEAVY_", ["WIDE-HEADED_RIGHTWARDS_ARROW PLUS_SIGN MINUS_SIGN DIVISION_SIGN",
    "SOUTH_EAST_ARROW RIGHTWARDS_ARROW NORTH_EAST_ARROW"]⟩,
   ⟨0x279b, "", ["DRAFTING_POINT_RIGHTWARDS_ARROW HEAVY_ROUND-TIPPED_RIGHTWARDS_ARROW",
    "TRIANGLE-HEADED_RIGHTWARDS_ARROW HEAVY_TRIANGLE-HEADED_RIGHTWARDS_ARROW",
    "DASHED_TRIANGLE-HEADED_RIGHTWARDS_ARROW HEAVY_DASHED_TRIANGLE-HEADED_RIGHTWARDS_ARROW",
    "BLACK_RIGHTWARDS_ARROW THREE-D_TOP-LIGHTED_RIGHTWARDS_ARROWHEAD",
    "THREE-D_BOTTOM-LIGHTED_RIGHTWARDS_ARROWHEAD BLACK_RIGHTWARDS_ARROWHEAD",
    "HEAVY_BLACK_CURVED_DOWNWARDS_AND_RIGHTWARDS_ARROW",
    "HEAVY_BLACK_CURVED_UPWARDS_AND_RIGHTWARDS_ARROW SQUAT_BLACK_RIGHTWARDS_ARROW",
    "HEAVY_CONCAVE-POINTED_BLACK_RIGHTWARDS_ARROW RIGHT-SHADED_WHITE_RIGHTWARDS_ARROW",
    "LEFT-SHADED_WHITE_RIGHTWARDS_ARROW BACK-TILTED_SHADOWED_WHITE_RIGHTWARDS_ARROW",
    "FRONT-TILTED_SHADOWED_WHITE_RIGHTWARDS_ARROW",
    "HEAVY_LOWER_RIGHT-SHADOWED_WHITE_RIGHTWARDS_ARROW",
    "HEAVY_UPPER_RIGHT-SHADOWED_WHITE_RIGHTWARDS_ARROW",
    "NOTCHED_LOWER_RIGHT-SHADOWED_WHITE_RIGHTWARDS_ARROW CURLY_LOOP",
    "NOTCHED_UPPER_RIGHT-SHADOWED_WHITE_RIGHTWARDS_ARROW CIRCLED_HEAVY_WHITE_RIGHTWARDS_ARROW",
    "WHITE-FEATHERED_RIGHTWARDS_ARROW"]⟩,
   ⟨0x27b4, "BLACK-FEATHERED_", ["SOUTH_EAST_ARROW RIGHTWARDS_ARROW NORTH_EAST_ARROW"]⟩,
   ⟨0x27b7, "HEAVY_BLACK-FEATHERED_", ["SOUTH_EAST_ARROW RIGHTWARDS_ARROW NORTH_EAST_ARROW"]⟩,
   ⟨0x27ba, "", ["TEARDROP-BARBED_RIGHTWARDS_ARROW HEAVY_TEARDROP-SHANKED_RIGHTWARDS_ARROW",
    "WEDGE-TAILED_RIGHTWARDS_ARROW HEAVY_WEDGE-TAILED_RIGHTWARDS_ARROW",
    "OPEN-OUTLINED_RIGHTWARDS_ARROW DOUBLE_CURLY_LOOP"]⟩,
   ⟨0x2800, "BRAILLE_PATTERN_", ["BLANK"]⟩,
   ⟨0x2801, "BRAILLE_PATTERN_DOTS-", ["1 2 12 3 13 23 123 4 14 24 124 34 134 234 1234 5 15 25",
    "125 35 135 235 1235 45 145 245 1245 345 1345 2345 12345 6 16 26 126 36 136 236 1236 46 146",
    "246 1246 346 1346 2346 12346 56 156 256 1256 356 1356 2356 12356 456 1456 2456 12456 3456",
    "13456 23456 123456 7 17 27 127 37 137 237 1237 47 147 247 1247 347 1347 2347 12347 57 157",
    "257 1257 357 1357 2357 12357 457 1457 2457 12457 3457 13457 23457 123457 67 167 267 1267",
    "367 1367 2367 12367 467 1467 2467 12467 3467 13467 23467 123467 567 1567 2567 12567 3567",
    "13567 23567 123567 4567 14567 24567 124567 34567 134567 234567 1234567 8 18 28 128 38 138",
    "238 1238 48 148 248 1248 348 1348 2348 12348 58 158 258 1258 358 1358 2358 12358 458 1458",
    "2458 12458 3458 13458 23458 123458 68 168 268 1268 368 1368 2368 12368 468 1468 2468 12468",
    "3468 13468 23468 123468 568 1568 2568 12568 3568 13568 23568 123568 4568 14568 24568 124568",
    "34568 134568 234568 1234568 78 178 278 1278 378 1378 2378 12378 478 1478 2478 12478 3478",
    "13478 23478 123478 578 1578 2578 12578 3578 13578 23578 123578 4578 14578 24578 124578",
    "34578 134578 234578 1234578 678 1678 2678 12678 3678 13678 23678 123678 4678 14678 24678",
    "124678 34678 134678 234678 1234678 5678 15678 25678 125678 35678 135678 235678 1235678",
    "45678 145678 245678 1245678 345678 1345678 2345678 12345678"]⟩,
   ⟨0x1f100, "DIGIT_", ["ZERO_FULL_STOP ZERO_COMMA ONE_COMMA TWO_COMMA THREE_COMMA FOUR_COMMA",
    "FIVE_COMMA SIX_COMMA SEVEN_COMMA EIGHT_COMMA NINE_COMMA"]⟩,
   ⟨0x1f10b, "DINGBAT_", ["CIRCLED_SANS-SERIF_DIGIT_ZERO NEGATIVE_CIRCLED_SANS-SERIF_DIGIT_ZERO"]⟩,
   ⟨0x1f10d, "CIRCLED_", ["ZERO_WITH_SLASH ANTICLOCKWISE_ARROW",
    "DOLLAR_SIGN_WITH_OVERLAID_BACKSLASH"]⟩,
   ⟨0x1f110, "PARENTHESIZED_LATIN_CAPITAL_LETTER_", ["A B C D E F G H I J K L M N O P Q R S T U",
    "V W X Y Z"]⟩,
   ⟨0x1f12a, "", ["TORTOISE_SHELL_BRACKETED_LATIN_CAPITAL_LETTER_S",
    "CIRCLED_ITALIC_LATIN_CAPITAL_LETTER_C CIRCLED_ITALIC_LATIN_CAPITAL_LETTER_R CIRCLED_CD",
    "CIRCLED_WZ COPYLEFT_SYMBOL"]⟩,
   ⟨0x1f130, "SQUARED_LATIN_CAPITAL_LETTER_", ["A B C D E F G H I J K L M N O P Q R S T U V W X",
    "Y Z"]⟩,
   ⟨0x1f14a, "SQUARED_", ["HV MV SD SS PPV WC"]⟩,
   ⟨0x1f150, "NEGATIVE_CIRCLED_LATIN_CAPITAL_LETTER_", ["A B C D E F G H I J K L M N O P Q R S T",
    "U V W X Y Z"]⟩,
   ⟨0x1f16a, "RAISED_", ["MC_SIGN MD_SIGN MR_SIGN"]⟩,
   ⟨0x1f16d, "CIRCLED_", ["CC C_WITH_OVERLAID_BACKSLASH HUMAN_FIGURE"]⟩,
   ⟨0x1f170, "NEGATIVE_SQUARED_LATIN_CAPITAL_LETTER_", ["A B C D E F G H I J K L M N O P Q R S T",
    "U V W X Y Z"]⟩,
   ⟨0x1f18a, "CROSSED_NEGATIVE_SQUARED_LATIN_CAPITAL_LETTER_", ["P"]⟩,
   ⟨0x1f18b, "NEGATIVE_SQUARED_", ["IC PA SA AB WC"]⟩,
   ⟨0x1f190, "SQUARE_", ["DJ"]⟩,
   ⟨0x1f191, "SQUARED_", ["CL COOL FREE ID NEW NG OK SOS UP_WITH_EXCLAMATION_MARK VS THREE_D",
    "SECOND_SCREEN TWO_K FOUR_K EIGHT_K FIVE_POINT_ONE SEVEN_POINT_ONE TWENTY-TWO_POINT_TWO",
    "SIXTY_P ONE_HUNDRED_TWENTY_P LATIN_SMALL_LETTER_D HC HDR HI-RES LOSSLESS SHV UHD VOD"]⟩,
   ⟨0x1f1ad, "MASK_WORK_", ["SYMBOL"]⟩,
   ⟨0x1f1e6, "REGIONAL_INDICATOR_SYMBOL_LETTER_", ["A B C D E F G H I J K L M N O P Q R S T U V",
    "W X Y Z"]⟩,
   ⟨0x1f700, "ALCHEMICAL_SYMBOL_FOR_", ["QUINTESSENCE AIR FIRE EARTH WATER AQUAFORTIS AQUA_REGIA",
    "AQUA_REGIA-2 AQUA_VITAE AQUA_VITAE-2 VINEGAR VINEGAR-2 VINEGAR-3 SULFUR PHILOSOPHERS_SULFUR",
    "BLACK_SULFUR MERCURY_SUBLIMATE MERCURY_SUBLIMATE-2 MERCURY_SUBLIMATE-3 CINNABAR SALT NITRE",
    "VITRIOL VITRIOL-2 ROCK_SALT ROCK_SALT-2 GOLD SILVER IRON_ORE IRON_ORE-2 CROCUS_OF_IRON",
    "REGULUS_OF_IRON COPPER_ORE IRON-COPPER_ORE SUBLIMATE_OF_COPPER CROCUS_OF_COPPER",
    "CROCUS_OF_COPPER-2 COPPER_ANTIMONIATE SALT_OF_COPPER_ANTIMONIATE",
    "SUBLIMATE_OF_SALT_OF_COPPER VERDIGRIS TIN_ORE LEAD_ORE ANTIMONY_ORE SUBLIMATE_OF_ANTIMONY",
    "SALT_OF_ANTIMONY SUBLIMATE_OF_SALT_OF_ANTIMONY VINEGAR_OF_ANTIMONY REGULUS_OF_ANTIMONY",
    "REGULUS_OF_ANTIMONY-2 REGULUS REGULUS-2 REGULUS-3 REGULUS-4 ALKALI ALKALI-2 MARCASITE",
    "SAL-AMMONIAC ARSENIC REALGAR REALGAR-2 AURIPIGMENT BISMUTH_ORE TARTAR TARTAR-2 QUICK_LIME",
    "BORAX BORAX-2 BORAX-3 ALUM OIL SPIRIT TINCTURE GUM WAX POWDER CALX TUTTY CAPUT_MORTUUM",
    "SCEPTER_OF_JOVE CADUCEUS TRIDENT STARRED_TRIDENT LODESTONE SOAP URINE HORSE_DUNG ASHES",
    "POT_ASHES BRICK POWDERED_BRICK AMALGAM STRATUM_SUPER_STRATUM STRATUM_SUPER_STRATUM-2",
    "SUBLIMATION PRECIPITATE DISTILL DISSOLVE DISSOLVE-2 PURIFY PUTREFACTION CRUCIBLE CRUCIBLE-2",
    "CRUCIBLE-3 CRUCIBLE-4 CRUCIBLE-5 ALEMBIC BATH_OF_MARY BATH_OF_VAPOURS RETORT HOUR NIGHT",
    "DAY-NIGHT MONTH HALF_DRAM HALF_OUNCE"]⟩,
   ⟨0x1f780, "BLACK_", ["LEFT-POINTING_ISOSCELES_RIGHT_TRIANGLE",
    "UP-POINTING_ISOSCELES_RIGHT_TRIANGLE RIGHT-POINTING_ISOSCELES_RIGHT_TRIANGLE",
    "DOWN-POINTING_ISOSCELES_RIGHT_TRIANGLE SLIGHTLY_SMALL_CIRCLE"]⟩,
   ⟨0x1f785, "", ["MEDIUM_BOLD_WHITE_CIRCLE BOLD_WHITE_CIRCLE HEAVY_WHITE_CIRCLE",
    "VERY_HEAVY_WHITE_CIRCLE EXTREMELY_HEAVY_WHITE_CIRCLE",
    "WHITE_CIRCLE_CONTAINING_BLACK_SMALL_CIRCLE ROUND_TARGET BLACK_TINY_SQUARE",
    "BLACK_SLIGHTLY_SMALL_SQUARE LIGHT_WHITE_SQUARE MEDIUM_WHITE_SQUARE BOLD_WHITE_SQUARE",
    "HEAVY_WHITE_SQUARE VERY_HEAVY_WHITE_SQUARE EXTREMELY_HEAVY_WHITE_SQUARE",
    "WHITE_SQUARE_CONTAINING_BLACK_VERY_SMALL_SQUARE WHITE_SQUARE_CONTAINING_BLACK_MEDIUM_SQUARE",
    "SQUARE_TARGET BLACK_TINY_DIAMOND BLACK_VERY_SMALL_DIAMOND BLACK_MEDIUM_SMALL_DIAMOND",
    "WHITE_DIAMOND_CONTAINING_BLACK_VERY_SMALL_DIAMOND",
    "WHITE_DIAMOND_CONTAINING_BLACK_MEDIUM_DIAMOND DIAMOND_TARGET BLACK_TINY_LOZENGE",
    "BLACK_VERY_SMALL_LOZENGE BLACK_MEDIUM_SMALL_LOZENGE",
    "WHITE_LOZENGE_CONTAINING_BLACK_SMALL_LOZENGE THIN_GREEK_CROSS LIGHT_GREEK_CROSS",
    "MEDIUM_GREEK_CROSS BOLD_GREEK_CROSS VERY_BOLD_GREEK_CROSS VERY_HEAVY_GREEK_CROSS",
    "EXTREMELY_HEAVY_GREEK_CROSS THIN_SALTIRE LIGHT_SALTIRE MEDIUM_SALTIRE BOLD_SALTIRE",
    "HEAVY_SALTIRE VERY_HEAVY_SALTIRE EXTREMELY_HEAVY_SALTIRE LIGHT_FIVE_SPOKED_ASTERISK",
    "MEDIUM_FIVE_SPOKED_ASTERISK BOLD_FIVE_SPOKED_ASTERISK HEAVY_FIVE_SPOKED_ASTERISK",
    "VERY_HEAVY_FIVE_SPOKED_ASTERISK EXTREMELY_HEAVY_FIVE_SPOKED_ASTERISK",
    "LIGHT_SIX_SPOKED_ASTERISK MEDIUM_SIX_SPOKED_ASTERISK BOLD_SIX_SPOKED_ASTERISK",
    "HEAVY_SIX_SPOKED_ASTERISK VERY_HEAVY_SIX_SPOKED_ASTERISK",
    "EXTREMELY_HEAVY_SIX_SPOKED_ASTERISK LIGHT_EIGHT_SPOKED_ASTERISK",
    "MEDIUM_EIGHT_SPOKED_ASTERISK BOLD_EIGHT_SPOKED_ASTERISK HEAVY_EIGHT_SPOKED_ASTERISK",
    "VERY_HEAVY_EIGHT_SPOKED_ASTERISK LIGHT_THREE_POINTED_BLACK_STAR",
    "MEDIUM_THREE_POINTED_BLACK_STAR THREE_POINTED_BLACK_STAR MEDIUM_THREE_POINTED_PINWHEEL_STAR",
    "LIGHT_FOUR_POINTED_BLACK_STAR MEDIUM_FOUR_POINTED_BLACK_STAR FOUR_POINTED_BLACK_STAR",
    "MEDIUM_FOUR_POINTED_PINWHEEL_STAR REVERSE_LIGHT_FOUR_POINTED_PINWHEEL_STAR",
    "LIGHT_FIVE_POINTED_BLACK_STAR HEAVY_FIVE_POINTED_BLACK_STAR MEDIUM_SIX_POINTED_BLACK_STAR",
    "HEAVY_SIX_POINTED_BLACK_STAR SIX_POINTED_PINWHEEL_STAR MEDIUM_EIGHT_POINTED_BLACK_STAR",
    "HEAVY_EIGHT_POINTED_BLACK_STAR VERY_HEAVY_EIGHT_POINTED_BLACK_STAR",
    "HEAVY_EIGHT_POINTED_PINWHEEL_STAR LIGHT_TWELVE_POINTED_BLACK_STAR",
    "HEAVY_TWELVE_POINTED_BLACK_STAR HEAVY_TWELVE_POINTED_PINWHEEL_STAR CIRCLED_TRIANGLE",
    "NEGATIVE_CIRCLED_TRIANGLE CIRCLED_SQUARE NEGATIVE_CIRCLED_SQUARE"]⟩,
   ⟨0x1f7e0, "LARGE_", ["ORANGE_CIRCLE YELLOW_CIRCLE GREEN_CIRCLE PURPLE_CIRCLE BROWN_CIRCLE",
    "RED_SQUARE BLUE_SQUARE ORANGE_SQUARE YELLOW_SQUARE GREEN_SQUARE PURPLE_SQUARE BROWN_SQUARE"]⟩,
   ⟨0x1f7f0, "HEAVY_EQUALS_", ["SIGN"]⟩,
   ⟨0x1fb00, "BLOCK_SEXTANT-", ["1 2 12 3 13 23 123 4 14 24 124 34 134 234 1234 5 15 25 125 35",
    "235 1235 45 145 245 1245 345 1345 2345 12345 6 16 26 126 36 136 236 1236 46 146 1246 346",
    "1346 2346 12346 56 156 256 1256 356 1356 2356 12356 456 1456 2456 12456 3456 13456 23456"]⟩,
   ⟨0x1fb3c, "LOWER_LEFT_BLOCK_DIAGONAL_", ["LOWER_MIDDLE_LEFT_TO_LOWER_CENTRE",
    "LOWER_MIDDLE_LEFT_TO_LOWER_RIGHT UPPER_MIDDLE_LEFT_TO_LOWER_CENTRE",
    "UPPER_MIDDLE_LEFT_TO_LOWER_RIGHT UPPER_LEFT_TO_LOWER_CENTRE"]⟩,
   ⟨0x1fb41, "LOWER_RIGHT_BLOCK_DIAGONAL_UPPER_MIDDLE_LEFT_TO_UPPER_", ["CENTRE RIGHT"]⟩,
   ⟨0x1fb43, "LOWER_RIGHT_BLOCK_DIAGONAL_LOWER_", ["MIDDLE_LEFT_TO_UPPER_CENTRE",
    "MIDDLE_LEFT_TO_UPPER_RIGHT LEFT_TO_UPPER_CENTRE MIDDLE_LEFT_TO_UPPER_MIDDLE_RIGHT",
    "CENTRE_TO_LOWER_MIDDLE_RIGHT LEFT_TO_LOWER_MIDDLE_RIGHT CENTRE_TO_UPPER_MIDDLE_RIGHT",
    "LEFT_TO_UPPER_MIDDLE_RIGHT CENTRE_TO_UPPER_RIGHT"]⟩,
   ⟨0x1fb4c, "LOWER_LEFT_BLOCK_DIAGONAL_UPPER_", ["CENTRE_TO_UPPER_MIDDLE_RIGHT",
    "LEFT_TO_UPPER_MIDDLE_RIGHT CENTRE_TO_LOWER_MIDDLE_RIGHT LEFT_TO_LOWER_MIDDLE_RIGHT",
    "CENTRE_TO_LOWER_RIGHT MIDDLE_LEFT_TO_LOWER_MIDDLE_RIGHT"]⟩,
   ⟨0x1fb52, "UPPER_RIGHT_BLOCK_DIAGONAL_", ["LOWER_MIDDLE_LEFT_TO_LOWER_CENTRE",
    "LOWER_MIDDLE_LEFT_TO_LOWER_RIGHT UPPER_MIDDLE_LEFT_TO_LOWER_CENTRE",
    "UPPER_MIDDLE_LEFT_TO_LOWER_RIGHT UPPER_LEFT_TO_LOWER_CENTRE"]⟩,
   ⟨0x1fb57, "UPPER_LEFT_BLOCK_DIAGONAL_UPPER_MIDDLE_LEFT_TO_UPPER_", ["CENTRE RIGHT"]⟩,
   ⟨0x1fb59, "UPPER_LEFT_BLOCK_DIAGONAL_LOWER_", ["MIDDLE_LEFT_TO_UPPER_CENTRE",
    "MIDDLE_LEFT_TO_UPPER_RIGHT LEFT_TO_UPPER_CENTRE MIDDLE_LEFT_TO_UPPER_MIDDLE_RIGHT",
    "CENTRE_TO_LOWER_MIDDLE_RIGHT LEFT_TO_LOWER_MIDDLE_RIGHT CENTRE_TO_UPPER_MIDDLE_RIGHT",
    "LEFT_TO_UPPER_MIDDLE_RIGHT CENTRE_TO_UPPER_RIGHT"]⟩,
   ⟨0x1fb62, "UPPER_RIGHT_BLOCK_DIAGONAL_UPPER_", ["CENTRE_TO_UPPER_MIDDLE_RIGHT",
    "LEFT_TO_UPPER_MIDDLE_RIGHT CENTRE_TO_LOWER_MIDDLE_RIGHT LEFT_TO_LOWER_MIDDLE_RIGHT",
    "CENTRE_TO_LOWER_RIGHT MIDDLE_LEFT_TO_LOWER_MIDDLE_RIGHT"]⟩,
   ⟨0x1fb68, "", ["UPPER_AND_RIGHT_AND_LOWER_TRIANGULAR_THREE_QUARTERS_BLOCK",
    "LEFT_AND_LOWER_AND_RIGHT_TRIANGULAR_THREE_QUARTERS_BLOCK",
    "UPPER_AND_LEFT_AND_LOWER_TRIANGULAR_THREE_QUARTERS_BLOCK",
    "LEFT_AND_UPPER_AND_RIGHT_TRIANGULAR_THREE_QUARTERS_BLOCK LEFT_TRIANGULAR_ONE_QUARTER_BLOCK",
    "UPPER_TRIANGULAR_ONE_QUARTER_BLOCK RIGHT_TRIANGULAR_ONE_QUARTER_BLOCK",
    "LOWER_TRIANGULAR_ONE_QUARTER_BLOCK"]⟩,
   ⟨0x1fb70, "VERTICAL_ONE_EIGHTH_BLOCK-", ["2 3 4 5 6 7"]⟩,
   ⟨0x1fb76, "HORIZONTAL_ONE_EIGHTH_BLOCK-", ["2 3 4 5 6 7"]⟩,
   ⟨0x1fb7c, "", ["LEFT_AND_LOWER_ONE_EIGHTH_BLOCK LEFT_AND_UPPER_ONE_EIGHTH_BLOCK",
    "RIGHT_AND_UPPER_ONE_EIGHTH_BLOCK RIGHT_AND_LOWER_ONE_EIGHTH_BLOCK",
    "UPPER_AND_LOWER_ONE_EIGHTH_BLOCK HORIZONTAL_ONE_EIGHTH_BLOCK-1358 UPPER_ONE_QUARTER_BLOCK",
    "UPPER_THREE_EIGHTHS_BLOCK UPPER_FIVE_EIGHTHS_BLOCK UPPER_THREE_QUARTERS_BLOCK",
    "UPPER_SEVEN_EIGHTHS_BLOCK RIGHT_ONE_QUARTER_BLOCK RIGHT_THREE_EIGHTHS_BLOCK",
    "RIGHT_FIVE_EIGHTHS_BLOCK RIGHT_THREE_QUARTERS_BLOCK RIGHT_SEVEN_EIGHTHS_BLOCK",
    "LEFT_HALF_MEDIUM_SHADE RIGHT_HALF_MEDIUM_SHADE UPPER_HALF_MEDIUM_SHADE",
    "LOWER_HALF_MEDIUM_SHADE INVERSE_MEDIUM_SHADE",
    "UPPER_HALF_BLOCK_AND_LOWER_HALF_INVERSE_MEDIUM_SHADE",
    "UPPER_HALF_INVERSE_MEDIUM_SHADE_AND_LOWER_HALF_BLOCK �",
    "LEFT_HALF_INVERSE_MEDIUM_SHADE_AND_RIGHT_HALF_BLOCK CHECKER_BOARD_FILL",
    "INVERSE_CHECKER_BOARD_FILL HEAVY_HORIZONTAL_FILL UPPER_LEFT_TO_LOWER_RIGHT_FILL",
    "UPPER_RIGHT_TO_LOWER_LEFT_FILL UPPER_AND_LOWER_TRIANGULAR_HALF_BLOCK",
    "LEFT_AND_RIGHT_TRIANGULAR_HALF_BLOCK UPPER_LEFT_TRIANGULAR_MEDIUM_SHADE",
    "UPPER_RIGHT_TRIANGULAR_MEDIUM_SHADE LOWER_RIGHT_TRIANGULAR_MEDIUM_SHADE",
    "LOWER_LEFT_TRIANGULAR_MEDIUM_SHADE"]⟩,
   ⟨0x1fba0, "BOX_DRAWINGS_LIGHT_DIAGONAL_", ["UPPER_CENTRE_TO_MIDDLE_LEFT",
    "UPPER_CENTRE_TO_MIDDLE_RIGHT MIDDLE_LEFT_TO_LOWER_CENTRE MIDDLE_RIGHT_TO_LOWER_CENTRE",
    "UPPER_CENTRE_TO_MIDDLE_LEFT_TO_LOWER_CENTRE UPPER_CENTRE_TO_MIDDLE_RIGHT_TO_LOWER_CENTRE",
    "MIDDLE_LEFT_TO_LOWER_CENTRE_TO_MIDDLE_RIGHT MIDDLE_LEFT_TO_UPPER_CENTRE_TO_MIDDLE_RIGHT",
    "UPPER_CENTRE_TO_MIDDLE_LEFT_AND_MIDDLE_RIGHT_TO_LOWER_CENTRE",
    "UPPER_CENTRE_TO_MIDDLE_RIGHT_AND_MIDDLE_LEFT_TO_LOWER_CENTRE",
    "UPPER_CENTRE_TO_MIDDLE_RIGHT_TO_LOWER_CENTRE_TO_MIDDLE_LEFT",
    "UPPER_CENTRE_TO_MIDDLE_LEFT_TO_LOWER_CENTRE_TO_MIDDLE_RIGHT",
    "MIDDLE_LEFT_TO_UPPER_CENTRE_TO_MIDDLE_RIGHT_TO_LOWER_CENTRE",
    "MIDDLE_RIGHT_TO_UPPER_CENTRE_TO_MIDDLE_LEFT_TO_LOWER_CENTRE DIAMOND"]⟩,
   ⟨0x1fbaf, "", ["BOX_DRAWINGS_LIGHT_HORIZONTAL_WITH_VERTICAL_STROKE ARROWHEAD-SHAPED_POINTER",
    "INVERSE_CHECK_MARK LEFT_HALF_RUNNING_MAN RIGHT_HALF_RUNNING_MAN",
    "INVERSE_DOWNWARDS_ARROW_WITH_TIP_LEFTWARDS",
    "LEFTWARDS_ARROW_AND_UPPER_AND_LOWER_ONE_EIGHTH_BLOCK",
    "RIGHTWARDS_ARROW_AND_UPPER_AND_LOWER_ONE_EIGHTH_BLOCK",
    "DOWNWARDS_ARROW_AND_RIGHT_ONE_EIGHTH_BLOCK UPWARDS_ARROW_AND_RIGHT_ONE_EIGHTH_BLOCK",
    "LEFT_HALF_FOLDER RIGHT_HALF_FOLDER VOIDED_GREEK_CROSS RIGHT_OPEN_SQUARED_DOT",
    "NEGATIVE_DIAGONAL_CROSS NEGATIVE_DIAGONAL_MIDDLE_RIGHT_TO_LOWER_CENTRE",
    "NEGATIVE_DIAGONAL_DIAMOND WHITE_HEAVY_SALTIRE_WITH_ROUNDED_CORNERS",
    "LEFT_THIRD_WHITE_RIGHT_POINTING_INDEX MIDDLE_THIRD_WHITE_RIGHT_POINTING_INDEX",
    "RIGHT_THIRD_WHITE_RIGHT_POINTING_INDEX NEGATIVE_SQUARED_QUESTION_MARK STICK_FIGURE",
    "STICK_FIGURE_WITH_ARMS_RAISED STICK_FIGURE_LEANING_LEFT STICK_FIGURE_LEANING_RIGHT",
    "STICK_FIGURE_WITH_DRESS WHITE_UP-POINTING_CHEVRON"]⟩,
   ⟨0x1fbf0, "SEGMENTED_DIGIT_", ["ZERO ONE TWO THREE FOUR FIVE SIX SEVEN EIGHT NINE"]⟩]

end SqlRoutes.Text.Names
