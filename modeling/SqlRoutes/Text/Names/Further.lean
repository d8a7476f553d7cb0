namespace SqlRoutes.Text.Names

/-- Characters by their numbers, with the further names of each. -/
def furtherNames : List (Nat × String) :=
  [(0x00, "NULL NUL"), (0x01, "START_OF_HEADING SOH"), (0x02, "START_OF_TEXT STX"),
   (0x03, "END_OF_TEXT ETX"), (0x04, "END_OF_TRANSMISSION EOT"), (0x05, "ENQUIRY ENQ"),
   (0x06, "ACKNOWLEDGE ACK"), (0x07, "ALERT BEL"), (0x08, "BACKSPACE BS"),
   (0x09, "CHARACTER_TABULATION HORIZONTAL_TABULATION HT TAB"),
   (0x0a, "LINE_FEED NEW_LINE END_OF_LINE EOL LF NL"),
   (0x0b, "LINE_TABULATION VERTICAL_TABULATION VT"), (0x0c, "FORM_FEED FF"),
   (0x0d, "CARRIAGE_RETURN CR"), (0x0e, "SHIFT_OUT LOCKING-SHIFT_ONE SO"),
   (0x0f, "SHIFT_IN LOCKING-SHIFT_ZERO SI"), (0x10, "DATA_LINK_ESCAPE DLE"),
   (0x11, "DEVICE_CONTROL_ONE DC1"), (0x12, "DEVICE_CONTROL_TWO DC2"),
   (0x13, "DEVICE_CONTROL_THREE DC3"), (0x14, "DEVICE_CONTROL_FOUR DC4"),
   (0x15, "NEGATIVE_ACKNOWLEDGE NAK"), (0x16, "SYNCHRONOUS_IDLE SYN"),
   (0x17, "END_OF_TRANSMISSION_BLOCK ETB"), (0x18, "CANCEL CAN"), (0x19, "END_OF_MEDIUM EOM"),
   (0x1a, "SUBSTITUTE SUB"), (0x1b, "ESCAPE ESC"),
   (0x1c, "INFORMATION_SEPARATOR_FOUR FILE_SEPARATOR FS"),
   (0x1d, "INFORMATION_SEPARATOR_THREE GROUP_SEPARATOR GS"),
   (0x1e, "INFORMATION_SEPARATOR_TWO RECORD_SEPARATOR RS"),
   (0x1f, "INFORMATION_SEPARATOR_ONE UNIT_SEPARATOR US"), (0x20, "SP"), (0x7f, "DELETE DEL"),
   (0x80, "PADDING_CHARACTER PAD"), (0x81, "HIGH_OCTET_PRESET HOP"),
   (0x82, "BREAK_PERMITTED_HERE BPH"), (0x83, "NO_BREAK_HERE NBH"), (0x84, "INDEX IND"),
   (0x85, "NEXT_LINE NEL"), (0x86, "START_OF_SELECTED_AREA SSA"),
   (0x87, "END_OF_SELECTED_AREA ESA"),
   (0x88, "CHARACTER_TABULATION_SET HORIZONTAL_TABULATION_SET HTS"),
   (0x89, "CHARACTER_TABULATION_WITH_JUSTIFICATION HORIZONTAL_TABULATION_WITH_JUSTIFICATION HTJ"),
   (0x8a, "LINE_TABULATION_SET VERTICAL_TABULATION_SET VTS"),
   (0x8b, "PARTIAL_LINE_FORWARD PARTIAL_LINE_DOWN PLD"),
   (0x8c, "PARTIAL_LINE_BACKWARD PARTIAL_LINE_UP PLU"),
   (0x8d, "REVERSE_LINE_FEED REVERSE_INDEX RI"), (0x8e, "SINGLE_SHIFT_TWO SINGLE-SHIFT-2 SS2"),
   (0x8f, "SINGLE_SHIFT_THREE SINGLE-SHIFT-3 SS3"), (0x90, "DEVICE_CONTROL_STRING DCS"),
   (0x91, "PRIVATE_USE_ONE PRIVATE_USE-1 PU1"), (0x92, "PRIVATE_USE_TWO PRIVATE_USE-2 PU2"),
   (0x93, "SET_TRANSMIT_STATE STS"), (0x94, "CANCEL_CHARACTER CCH"), (0x95, "MESSAGE_WAITING MW"),
   (0x96, "START_OF_GUARDED_AREA START_OF_PROTECTED_AREA SPA"),
   (0x97, "END_OF_GUARDED_AREA END_OF_PROTECTED_AREA EPA"), (0x98, "START_OF_STRING SOS"),
   (0x99, "SINGLE_GRAPHIC_CHARACTER_INTRODUCER SGC"), (0x9a, "SINGLE_CHARACTER_INTRODUCER SCI"),
   (0x9b, "CONTROL_SEQUENCE_INTRODUCER CSI"), (0x9c, "STRING_TERMINATOR ST"),
   (0x9d, "OPERATING_SYSTEM_COMMAND OSC"), (0x9e, "PRIVACY_MESSAGE PM"),
   (0x9f, "APPLICATION_PROGRAM_COMMAND APC"), (0xa0, "NBSP"), (0xad, "SHY"),
   (0x1a2, "LATIN_CAPITAL_LETTER_GHA"), (0x1a3, "LATIN_SMALL_LETTER_GHA"), (0x34f, "CGJ"),
   (0x61c, "ALM"), (0x709, "SYRIAC_SUBLINEAR_COLON_SKEWED_LEFT"), (0xcde, "KANNADA_LETTER_LLLA"),
   (0xe9d, "LAO_LETTER_FO_FON"), (0xe9f, "LAO_LETTER_FO_FAY"), (0xea3, "LAO_LETTER_RO"),
   (0xea5, "LAO_LETTER_LO"), (0xfd0, "TIBETAN_MARK_BKA-_SHOG_GI_MGO_RGYAN"),
   (0x11ec, "HANGUL_JONGSEONG_YESIEUNG-KIYEOK"), (0x11ed, "HANGUL_JONGSEONG_YESIEUNG-SSANGKIYEOK"),
   (0x11ee, "HANGUL_JONGSEONG_SSANGYESIEUNG"), (0x11ef, "HANGUL_JONGSEONG_YESIEUNG-KHIEUKH"),
   (0x180b, "FVS1"), (0x180c, "FVS2"), (0x180d, "FVS3"), (0x180e, "MVS"), (0x180f, "FVS4"),
   (0x200b, "ZWSP"), (0x200c, "ZWNJ"), (0x200d, "ZWJ"), (0x200e, "LRM"), (0x200f, "RLM"),
   (0x202a, "LRE"), (0x202b, "RLE"), (0x202c, "PDF"), (0x202d, "LRO"), (0x202e, "RLO"),
   (0x202f, "NNBSP"), (0x205f, "MMSP"), (0x2060, "WJ"), (0x2066, "LRI"), (0x2067, "RLI"),
   (0x2068, "FSI"), (0x2069, "PDI"), (0x2118, "WEIERSTRASS_ELLIPTIC_FUNCTION"),
   (0x2448, "MICR_ON_US_SYMBOL"), (0x2449, "MICR_DASH_SYMBOL"),
   (0x2b7a, "LEFTWARDS_TRIANGLE-HEADED_ARROW_WITH_DOUBLE_VERTICAL_STROKE"),
   (0x2b7c, "RIGHTWARDS_TRIANGLE-HEADED_ARROW_WITH_DOUBLE_VERTICAL_STROKE"),
   (0xa015, "YI_SYLLABLE_ITERATION_MARK"), (0xaa6e, "MYANMAR_LETTER_KHAMTI_LLA"),
   (0xfe18, "PRESENTATION_FORM_FOR_VERTICAL_RIGHT_WHITE_LENTICULAR_BRACKET"),
   (0xfeff, "BYTE_ORDER_MARK BOM ZWNBSP"), (0x122d4, "CUNEIFORM_SIGN_NU11_TENU"),
   (0x122d5, "CUNEIFORM_SIGN_NU11_OVER_NU11_BUR_OVER_BUR"),
   (0x16e56, "MEDEFAIDRIN_CAPITAL_LETTER_H"), (0x16e57, "MEDEFAIDRIN_CAPITAL_LETTER_NG"),
   (0x16e76, "MEDEFAIDRIN_SMALL_LETTER_H"), (0x16e77, "MEDEFAIDRIN_SMALL_LETTER_NG"),
   (0x1b001, "HENTAIGANA_LETTER_E-1"),
   (0x1d0c5, "BYZANTINE_MUSICAL_SYMBOL_FTHORA_SKLIRON_CHROMA_VASIS")]

end SqlRoutes.Text.Names
