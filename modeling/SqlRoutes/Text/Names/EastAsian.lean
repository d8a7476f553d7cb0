import SqlRoutes.Text.Names.Series

namespace SqlRoutes.Text.Names

def eastAsian : List Series :=
  [⟨0x1100, "HANGUL_CHOSEONG_", ["KIYEOK SSANGKIYEOK NIEUN TIKEUT SSANGTIKEUT RIEUL MIEUM PIEUP",
    "SSANGPIEUP SIOS SSANGSIOS IEUNG CIEUC SSANGCIEUC CHIEUCH KHIEUKH THIEUTH PHIEUPH HIEUH",
    "NIEUN-KIYEOK SSANGNIEUN NIEUN-TIKEUT NIEUN-PIEUP TIKEUT-KIYEOK RIEUL-NIEUN SSANGRIEUL",
    "RIEUL-HIEUH KAPYEOUNRIEUL MIEUM-PIEUP KAPYEOUNMIEUM PIEUP-KIYEOK PIEUP-NIEUN PIEUP-TIKEUT",
    "PIEUP-SIOS PIEUP-SIOS-KIYEOK PIEUP-SIOS-TIKEUT PIEUP-SIOS-PIEUP PIEUP-SSANGSIOS",
    "PIEUP-SIOS-CIEUC PIEUP-CIEUC PIEUP-CHIEUCH PIEUP-THIEUTH PIEUP-PHIEUPH KAPYEOUNPIEUP",
    "KAPYEOUNSSANGPIEUP SIOS-KIYEOK SIOS-NIEUN SIOS-TIKEUT SIOS-RIEUL SIOS-MIEUM SIOS-PIEUP",
    "SIOS-PIEUP-KIYEOK SIOS-SSANGSIOS SIOS-IEUNG SIOS-CIEUC SIOS-CHIEUCH SIOS-KHIEUKH",
    "SIOS-THIEUTH SIOS-PHIEUPH SIOS-HIEUH CHITUEUMSIOS CHITUEUMSSANGSIOS CEONGCHIEUMSIOS",
    "CEONGCHIEUMSSANGSIOS PANSIOS IEUNG-KIYEOK IEUNG-TIKEUT IEUNG-MIEUM IEUNG-PIEUP IEUNG-SIOS",
    "IEUNG-PANSIOS SSANGIEUNG IEUNG-CIEUC IEUNG-CHIEUCH IEUNG-THIEUTH IEUNG-PHIEUPH YESIEUNG",
    "CIEUC-IEUNG CHITUEUMCIEUC CHITUEUMSSANGCIEUC CEONGCHIEUMCIEUC CEONGCHIEUMSSANGCIEUC",
    "CHIEUCH-KHIEUKH CHIEUCH-HIEUH CHITUEUMCHIEUCH CEONGCHIEUMCHIEUCH PHIEUPH-PIEUP",
    "KAPYEOUNPHIEUPH SSANGHIEUH YEORINHIEUH KIYEOK-TIKEUT NIEUN-SIOS NIEUN-CIEUC NIEUN-HIEUH",
    "TIKEUT-RIEUL FILLER"]⟩,
   ⟨0x1160, "HANGUL_JUNGSEONG_", ["FILLER A AE YA YAE EO E YEO YE O WA WAE OE YO U WEO WE WI YU",
    "EU YI I A-O A-U YA-O YA-YO EO-O EO-U EO-EU YEO-O YEO-U O-EO O-E O-YE O-O O-U YO-YA YO-YAE",
    "YO-YEO YO-O YO-I U-A U-AE U-EO-EU U-YE U-U YU-A YU-EO YU-E YU-YEO YU-YE YU-U YU-I EU-U",
    "EU-EU YI-U I-A I-YA I-O I-U I-EU I-ARAEA ARAEA ARAEA-EO ARAEA-U ARAEA-I SSANGARAEA A-EU",
    "YA-U YEO-YA O-YA O-YAE"]⟩,
   ⟨0x11a8, "HANGUL_JONGSEONG_", ["KIYEOK SSANGKIYEOK KIYEOK-SIOS NIEUN NIEUN-CIEUC NIEUN-HIEUH",
    "TIKEUT RIEUL RIEUL-KIYEOK RIEUL-MIEUM RIEUL-PIEUP RIEUL-SIOS RIEUL-THIEUTH RIEUL-PHIEUPH",
    "RIEUL-HIEUH MIEUM PIEUP PIEUP-SIOS SIOS SSANGSIOS IEUNG CIEUC CHIEUCH KHIEUKH THIEUTH",
    "PHIEUPH HIEUH KIYEOK-RIEUL KIYEOK-SIOS-KIYEOK NIEUN-KIYEOK NIEUN-TIKEUT NIEUN-SIOS",
    "NIEUN-PANSIOS NIEUN-THIEUTH TIKEUT-KIYEOK TIKEUT-RIEUL RIEUL-KIYEOK-SIOS RIEUL-NIEUN",
    "RIEUL-TIKEUT RIEUL-TIKEUT-HIEUH SSANGRIEUL RIEUL-MIEUM-KIYEOK RIEUL-MIEUM-SIOS",
    "RIEUL-PIEUP-SIOS RIEUL-PIEUP-HIEUH RIEUL-KAPYEOUNPIEUP RIEUL-SSANGSIOS RIEUL-PANSIOS",
    "RIEUL-KHIEUKH RIEUL-YEORINHIEUH MIEUM-KIYEOK MIEUM-RIEUL MIEUM-PIEUP MIEUM-SIOS",
    "MIEUM-SSANGSIOS MIEUM-PANSIOS MIEUM-CHIEUCH MIEUM-HIEUH KAPYEOUNMIEUM PIEUP-RIEUL",
    "PIEUP-PHIEUPH PIEUP-HIEUH KAPYEOUNPIEUP SIOS-KIYEOK SIOS-TIKEUT SIOS-RIEUL SIOS-PIEUP",
    "PANSIOS IEUNG-KIYEOK IEUNG-SSANGKIYEOK SSANGIEUNG IEUNG-KHIEUKH YESIEUNG YESIEUNG-SIOS",
    "YESIEUNG-PANSIOS PHIEUPH-PIEUP KAPYEOUNPHIEUPH HIEUH-NIEUN HIEUH-RIEUL HIEUH-MIEUM",
    "HIEUH-PIEUP YEORINHIEUH KIYEOK-NIEUN KIYEOK-PIEUP KIYEOK-CHIEUCH KIYEOK-KHIEUKH",
    "KIYEOK-HIEUH SSANGNIEUN"]⟩,
   ⟨0x2e80, "CJK_RADICAL_", ["REPEAT CLIFF SECOND_ONE SECOND_TWO SECOND_THREE PERSON BOX TABLE",
    "KNIFE_ONE KNIFE_TWO DIVINATION SEAL SMALL_ONE SMALL_TWO LAME_ONE LAME_TWO LAME_THREE",
    "LAME_FOUR SNAKE THREAD SNOUT_ONE SNOUT_TWO HEART_ONE HEART_TWO HAND RAP � CHOKE SUN MOON",
    "DEATH MOTHER CIVILIAN WATER_ONE WATER_TWO FIRE PAW_ONE PAW_TWO SIMPLIFIED_HALF_TREE_TRUNK",
    "COW DOG JADE BOLT_OF_CLOTH EYE SPIRIT_ONE SPIRIT_TWO BAMBOO SILK C-SIMPLIFIED_SILK NET_ONE",
    "NET_TWO NET_THREE NET_FOUR MESH SHEEP RAM EWE OLD BRUSH_ONE BRUSH_TWO MEAT MORTAR GRASS_ONE",
    "GRASS_TWO GRASS_THREE TIGER CLOTHES WEST_ONE WEST_TWO C-SIMPLIFIED_SEE SIMPLIFIED_HORN HORN",
    "C-SIMPLIFIED_SPEECH C-SIMPLIFIED_SHELL FOOT C-SIMPLIFIED_CART SIMPLIFIED_WALK WALK_ONE",
    "WALK_TWO CITY C-SIMPLIFIED_GOLD LONG_ONE LONG_TWO C-SIMPLIFIED_LONG C-SIMPLIFIED_GATE",
    "MOUND_ONE MOUND_TWO RAIN BLUE C-SIMPLIFIED_TANNED_LEATHER C-SIMPLIFIED_LEAF",
    "C-SIMPLIFIED_WIND C-SIMPLIFIED_FLY EAT_ONE EAT_TWO EAT_THREE C-SIMPLIFIED_EAT HEAD",
    "C-SIMPLIFIED_HORSE BONE GHOST C-SIMPLIFIED_FISH C-SIMPLIFIED_BIRD C-SIMPLIFIED_SALT",
    "SIMPLIFIED_WHEAT SIMPLIFIED_YELLOW C-SIMPLIFIED_FROG J-SIMPLIFIED_EVEN C-SIMPLIFIED_EVEN",
    "J-SIMPLIFIED_TOOTH C-SIMPLIFIED_TOOTH J-SIMPLIFIED_DRAGON C-SIMPLIFIED_DRAGON TURTLE",
    "J-SIMPLIFIED_TURTLE C-SIMPLIFIED_TURTLE"]⟩,
   ⟨0x2f00, "KANGXI_RADICAL_", ["ONE LINE DOT SLASH SECOND HOOK TWO LID MAN LEGS ENTER EIGHT",
    "DOWN_BOX COVER ICE TABLE OPEN_BOX KNIFE POWER WRAP SPOON RIGHT_OPEN_BOX HIDING_ENCLOSURE",
    "TEN DIVINATION SEAL CLIFF PRIVATE AGAIN MOUTH ENCLOSURE EARTH SCHOLAR GO GO_SLOWLY EVENING",
    "BIG WOMAN CHILD ROOF INCH SMALL LAME CORPSE SPROUT MOUNTAIN RIVER WORK ONESELF TURBAN DRY",
    "SHORT_THREAD DOTTED_CLIFF LONG_STRIDE TWO_HANDS SHOOT BOW SNOUT BRISTLE STEP HEART HALBERD",
    "DOOR HAND BRANCH RAP SCRIPT DIPPER AXE SQUARE NOT SUN SAY MOON TREE LACK STOP DEATH WEAPON",
    "DO_NOT COMPARE FUR CLAN STEAM WATER FIRE CLAW FATHER DOUBLE_X HALF_TREE_TRUNK SLICE FANG",
    "COW DOG PROFOUND JADE MELON TILE SWEET LIFE USE FIELD BOLT_OF_CLOTH SICKNESS DOTTED_TENT",
    "WHITE SKIN DISH EYE SPEAR ARROW STONE SPIRIT TRACK GRAIN CAVE STAND BAMBOO RICE SILK JAR",
    "NET SHEEP FEATHER OLD AND PLOW EAR BRUSH MEAT MINISTER SELF ARRIVE MORTAR TONGUE OPPOSE",
    "BOAT STOPPING COLOR GRASS TIGER INSECT BLOOD WALK_ENCLOSURE CLOTHES WEST SEE HORN SPEECH",
    "VALLEY BEAN PIG BADGER SHELL RED RUN FOOT BODY CART BITTER MORNING WALK CITY WINE",
    "DISTINGUISH VILLAGE GOLD LONG GATE MOUND SLAVE SHORT_TAILED_BIRD RAIN BLUE WRONG FACE",
    "LEATHER TANNED_LEATHER LEEK SOUND LEAF WIND FLY EAT HEAD FRAGRANT HORSE BONE TALL HAIR",
    "FIGHT SACRIFICIAL_WINE CAULDRON GHOST FISH BIRD SALT DEER WHEAT HEMP YELLOW MILLET BLACK",
    "EMBROIDERY FROG TRIPOD DRUM RAT NOSE EVEN TOOTH DRAGON TURTLE FLUTE"]⟩,
   ⟨0x2ff0, "IDEOGRAPHIC_DESCRIPTION_CHARACTER_", ["LEFT_TO_RIGHT ABOVE_TO_BELOW",
    "LEFT_TO_MIDDLE_AND_RIGHT ABOVE_TO_MIDDLE_AND_BELOW FULL_SURROUND SURROUND_FROM_ABOVE",
    "SURROUND_FROM_BELOW SURROUND_FROM_LEFT SURROUND_FROM_UPPER_LEFT SURROUND_FROM_UPPER_RIGHT",
    "SURROUND_FROM_LOWER_LEFT OVERLAID"]⟩,
   ⟨0x3000, "IDEOGRAPHIC_", ["SPACE COMMA FULL_STOP"]⟩,
   ⟨0x3003, "", ["DITTO_MARK JAPANESE_INDUSTRIAL_STANDARD_SYMBOL IDEOGRAPHIC_ITERATION_MARK",
    "IDEOGRAPHIC_CLOSING_MARK IDEOGRAPHIC_NUMBER_ZERO LEFT_ANGLE_BRACKET RIGHT_ANGLE_BRACKET",
    "LEFT_DOUBLE_ANGLE_BRACKET RIGHT_DOUBLE_ANGLE_BRACKET LEFT_CORNER_BRACKET",
    "RIGHT_CORNER_BRACKET LEFT_WHITE_CORNER_BRACKET RIGHT_WHITE_CORNER_BRACKET",
    "LEFT_BLACK_LENTICULAR_BRACKET RIGHT_BLACK_LENTICULAR_BRACKET POSTAL_MARK GETA_MARK",
    "LEFT_TORTOISE_SHELL_BRACKET RIGHT_TORTOISE_SHELL_BRACKET LEFT_WHITE_LENTICULAR_BRACKET",
    "RIGHT_WHITE_LENTICULAR_BRACKET LEFT_WHITE_TORTOISE_SHELL_BRACKET",
    "RIGHT_WHITE_TORTOISE_SHELL_BRACKET LEFT_WHITE_SQUARE_BRACKET RIGHT_WHITE_SQUARE_BRACKET",
    "WAVE_DASH REVERSED_DOUBLE_PRIME_QUOTATION_MARK DOUBLE_PRIME_QUOTATION_MARK",
    "LOW_DOUBLE_PRIME_QUOTATION_MARK POSTAL_MARK_FACE"]⟩,
   ⟨0x3021, "HANGZHOU_NUMERAL_", ["ONE TWO THREE FOUR FIVE SIX SEVEN EIGHT NINE"]⟩,
   ⟨0x302a, "IDEOGRAPHIC_", ["LEVEL_TONE_MARK RISING_TONE_MARK DEPARTING_TONE_MARK",
    "ENTERING_TONE_MARK"]⟩,
   ⟨0x302e, "", ["HANGUL_SINGLE_DOT_TONE_MARK HANGUL_DOUBLE_DOT_TONE_MARK WAVY_DASH"]⟩,
   ⟨0x3031, "VERTICAL_KANA_REPEAT_", ["MARK WITH_VOICED_SOUND_MARK MARK_UPPER_HALF",
    "WITH_VOICED_SOUND_MARK_UPPER_HALF MARK_LOWER_HALF"]⟩,
   ⟨0x3036, "", ["CIRCLED_POSTAL_MARK IDEOGRAPHIC_TELEGRAPH_LINE_FEED_SEPARATOR_SYMBOL",
    "HANGZHOU_NUMERAL_TEN HANGZHOU_NUMERAL_TWENTY HANGZHOU_NUMERAL_THIRTY",
    "VERTICAL_IDEOGRAPHIC_ITERATION_MARK MASU_MARK PART_ALTERNATION_MARK",
    "IDEOGRAPHIC_VARIATION_INDICATOR IDEOGRAPHIC_HALF_FILL_SPACE"]⟩,
   ⟨0x3041, "HIRAGANA_LETTER_", ["SMALL_A A SMALL_I I SMALL_U U SMALL_E E SMALL_O O KA GA KI GI",
    "KU GU KE GE KO GO SA ZA SI ZI SU ZU SE ZE SO ZO TA DA TI DI SMALL_TU TU DU TE DE TO DO NA",
    "NI NU NE NO HA BA PA HI BI PI HU BU PU HE BE PE HO BO PO MA MI MU ME MO SMALL_YA YA",
    "SMALL_YU YU SMALL_YO YO RA RI RU RE RO SMALL_WA WA WI WE WO N VU SMALL_KA SMALL_KE"]⟩,
   ⟨0x3099, "COMBINING_KATAKANA-HIRAGANA_", ["VOICED_SOUND_MARK SEMI-VOICED_SOUND_MARK"]⟩,
   ⟨0x309b, "", ["KATAKANA-HIRAGANA_VOICED_SOUND_MARK KATAKANA-HIRAGANA_SEMI-VOICED_SOUND_MARK",
    "HIRAGANA_ITERATION_MARK HIRAGANA_VOICED_ITERATION_MARK HIRAGANA_DIGRAPH_YORI",
    "KATAKANA-HIRAGANA_DOUBLE_HYPHEN"]⟩,
   ⟨0x30a1, "KATAKANA_LETTER_", ["SMALL_A A SMALL_I I SMALL_U U SMALL_E E SMALL_O O KA GA KI GI",
    "KU GU KE GE KO GO SA ZA SI ZI SU ZU SE ZE SO ZO TA DA TI DI SMALL_TU TU DU TE DE TO DO NA",
    "NI NU NE NO HA BA PA HI BI PI HU BU PU HE BE PE HO BO PO MA MI MU ME MO SMALL_YA YA",
    "SMALL_YU YU SMALL_YO YO RA RI RU RE RO SMALL_WA WA WI WE WO N VU SMALL_KA SMALL_KE VA VI VE",
    "VO"]⟩,
   ⟨0x30fb, "", ["KATAKANA_MIDDLE_DOT KATAKANA-HIRAGANA_PROLONGED_SOUND_MARK",
    "KATAKANA_ITERATION_MARK KATAKANA_VOICED_ITERATION_MARK KATAKANA_DIGRAPH_KOTO"]⟩,
   ⟨0x3105, "BOPOMOFO_LETTER_", ["B P M F D T N L G K H J Q X ZH CH SH R Z C S A O E EH AI EI AU",
    "OU AN EN ANG ENG ER I U IU V NG GN IH O_WITH_DOT_ABOVE NN"]⟩,
   ⟨0x3131, "HANGUL_LETTER_", ["KIYEOK SSANGKIYEOK KIYEOK-SIOS NIEUN NIEUN-CIEUC NIEUN-HIEUH",
    "TIKEUT SSANGTIKEUT RIEUL RIEUL-KIYEOK RIEUL-MIEUM RIEUL-PIEUP RIEUL-SIOS RIEUL-THIEUTH",
    "RIEUL-PHIEUPH RIEUL-HIEUH MIEUM PIEUP SSANGPIEUP PIEUP-SIOS SIOS SSANGSIOS IEUNG CIEUC",
    "SSANGCIEUC CHIEUCH KHIEUKH THIEUTH PHIEUPH HIEUH A AE YA YAE EO E YEO YE O WA WAE OE YO U",
    "WEO WE WI YU EU YI I"]⟩,
   ⟨0x3164, "HANGUL_", ["FILLER"]⟩,
   ⟨0x3165, "HANGUL_LETTER_", ["SSANGNIEUN NIEUN-TIKEUT NIEUN-SIOS NIEUN-PANSIOS",
    "RIEUL-KIYEOK-SIOS RIEUL-TIKEUT RIEUL-PIEUP-SIOS RIEUL-PANSIOS RIEUL-YEORINHIEUH MIEUM-PIEUP",
    "MIEUM-SIOS MIEUM-PANSIOS KAPYEOUNMIEUM PIEUP-KIYEOK PIEUP-TIKEUT PIEUP-SIOS-KIYEOK",
    "PIEUP-SIOS-TIKEUT PIEUP-CIEUC PIEUP-THIEUTH KAPYEOUNPIEUP KAPYEOUNSSANGPIEUP SIOS-KIYEOK",
    "SIOS-NIEUN SIOS-TIKEUT SIOS-PIEUP SIOS-CIEUC PANSIOS SSANGIEUNG YESIEUNG YESIEUNG-SIOS",
    "YESIEUNG-PANSIOS KAPYEOUNPHIEUPH SSANGHIEUH YEORINHIEUH YO-YA YO-YAE YO-I YU-YEO YU-YE YU-I",
    "ARAEA ARAEAE"]⟩,
   ⟨0x3190, "IDEOGRAPHIC_ANNOTATION_", ["LINKING_MARK REVERSE_MARK ONE_MARK TWO_MARK THREE_MARK",
    "FOUR_MARK TOP_MARK MIDDLE_MARK BOTTOM_MARK FIRST_MARK SECOND_MARK THIRD_MARK FOURTH_MARK",
    "HEAVEN_MARK EARTH_MARK MAN_MARK"]⟩,
   ⟨0x31a0, "BOPOMOFO_LETTER_", ["BU ZI JI GU EE ENN OO ONN IR ANN INN UNN IM NGG AINN AUNN AM",
    "OM ONG INNN"]⟩,
   ⟨0x31b4, "BOPOMOFO_FINAL_LETTER_", ["P T K H"]⟩,
   ⟨0x31b8, "BOPOMOFO_", ["LETTER_GH LETTER_LH LETTER_ZY FINAL_LETTER_G LETTER_GW LETTER_KW",
    "LETTER_OE LETTER_AH"]⟩,
   ⟨0x31c0, "CJK_STROKE_", ["T WG XG BXG SW HZZ HZG HP HZWG SZWG HZT HZZP HPWG HZW HZZZ N H S P",
    "SP D HZ HG SZ SWZ ST SG PD PZ TN SZZ SWG HXWG HZZZG PG Q"]⟩,
   ⟨0x31f0, "KATAKANA_LETTER_SMALL_", ["KU SI SU TO NU HA HI HU HE HO MU RA RI RU RE RO"]⟩,
   ⟨0x3200, "PARENTHESIZED_HANGUL_", ["KIYEOK NIEUN TIKEUT RIEUL MIEUM PIEUP SIOS IEUNG CIEUC",
    "CHIEUCH KHIEUKH THIEUTH PHIEUPH HIEUH KIYEOK_A NIEUN_A TIKEUT_A RIEUL_A MIEUM_A PIEUP_A",
    "SIOS_A IEUNG_A CIEUC_A CHIEUCH_A KHIEUKH_A THIEUTH_A PHIEUPH_A HIEUH_A CIEUC_U"]⟩,
   ⟨0x321d, "PARENTHESIZED_KOREAN_CHARACTER_", ["OJEON O_HU"]⟩,
   ⟨0x3220, "PARENTHESIZED_IDEOGRAPH_", ["ONE TWO THREE FOUR FIVE SIX SEVEN EIGHT NINE TEN MOON",
    "FIRE WATER WOOD METAL EARTH SUN STOCK HAVE SOCIETY NAME SPECIAL FINANCIAL CONGRATULATION",
    "LABOR REPRESENT CALL STUDY SUPERVISE ENTERPRISE RESOURCE ALLIANCE FESTIVAL REST SELF REACH"]⟩,
   ⟨0x3244, "CIRCLED_IDEOGRAPH_", ["QUESTION KINDERGARTEN SCHOOL KOTO"]⟩,
   ⟨0x3248, "CIRCLED_NUMBER_", ["TEN_ON_BLACK_SQUARE TWENTY_ON_BLACK_SQUARE",
    "THIRTY_ON_BLACK_SQUARE FORTY_ON_BLACK_SQUARE FIFTY_ON_BLACK_SQUARE SIXTY_ON_BLACK_SQUARE",
    "SEVENTY_ON_BLACK_SQUARE EIGHTY_ON_BLACK_SQUARE"]⟩,
   ⟨0x3250, "PARTNERSHIP_", ["SIGN"]⟩,
   ⟨0x3251, "CIRCLED_NUMBER_TWENTY_", ["ONE TWO THREE FOUR FIVE SIX SEVEN EIGHT NINE"]⟩,
   ⟨0x325a, "CIRCLED_NUMBER_", ["THIRTY THIRTY_ONE THIRTY_TWO THIRTY_THREE THIRTY_FOUR",
    "THIRTY_FIVE"]⟩,
   ⟨0x3260, "CIRCLED_HANGUL_", ["KIYEOK NIEUN TIKEUT RIEUL MIEUM PIEUP SIOS IEUNG CIEUC CHIEUCH",
    "KHIEUKH THIEUTH PHIEUPH HIEUH KIYEOK_A NIEUN_A TIKEUT_A RIEUL_A MIEUM_A PIEUP_A SIOS_A",
    "IEUNG_A CIEUC_A CHIEUCH_A KHIEUKH_A THIEUTH_A PHIEUPH_A HIEUH_A"]⟩,
   ⟨0x327c, "CIRCLED_KOREAN_CHARACTER_", ["CHAMKO JUEUI"]⟩,
   ⟨0x327e, "", ["CIRCLED_HANGUL_IEUNG_U KOREAN_STANDARD_SYMBOL"]⟩,
   ⟨0x3280, "CIRCLED_IDEOGRAPH_", ["ONE TWO THREE FOUR FIVE SIX SEVEN EIGHT NINE TEN MOON FIRE",
    "WATER WOOD METAL EARTH SUN STOCK HAVE SOCIETY NAME SPECIAL FINANCIAL CONGRATULATION LABOR",
    "SECRET MALE FEMALE SUITABLE EXCELLENT PRINT ATTENTION ITEM REST COPY CORRECT HIGH CENTRE",
    "LOW LEFT RIGHT MEDICINE RELIGION STUDY SUPERVISE ENTERPRISE RESOURCE ALLIANCE NIGHT"]⟩,
   ⟨0x32b1, "CIRCLED_NUMBER_", ["THIRTY_SIX THIRTY_SEVEN THIRTY_EIGHT THIRTY_NINE FORTY",
    "FORTY_ONE FORTY_TWO FORTY_THREE FORTY_FOUR FORTY_FIVE FORTY_SIX FORTY_SEVEN FORTY_EIGHT",
    "FORTY_NINE FIFTY"]⟩,
   ⟨0x32c0, "IDEOGRAPHIC_TELEGRAPH_SYMBOL_FOR_", ["JANUARY FEBRUARY MARCH APRIL MAY JUNE JULY",
    "AUGUST SEPTEMBER OCTOBER NOVEMBER DECEMBER"]⟩,
   ⟨0x32cc, "", ["SQUARE_HG SQUARE_ERG SQUARE_EV LIMITED_LIABILITY_SIGN"]⟩,
   ⟨0x32d0, "CIRCLED_KATAKANA_", ["A I U E O KA KI KU KE KO SA SI SU SE SO TA TI TU TE TO NA NI",
    "NU NE NO HA HI HU HE HO MA MI MU ME MO YA YU YO RA RI RU RE RO WA WI WE WO"]⟩,
   ⟨0x32ff, "SQUARE_", ["ERA_NAME_REIWA APAATO ARUHUA ANPEA AARU ININGU INTI UON ESUKUUDO EEKAA",
    "ONSU OOMU KAIRI KARATTO KARORII GARON GANMA GIGA GINII KYURII GIRUDAA KIRO KIROGURAMU",
    "KIROMEETORU KIROWATTO GURAMU GURAMUTON KURUZEIRO KUROONE KEESU KORUNA KOOPO SAIKURU",
    "SANTIIMU SIRINGU SENTI SENTO DAASU DESI DORU TON NANO NOTTO HAITU PAASENTO PAATU BAARERU",
    "PIASUTORU PIKURU PIKO BIRU HUARADDO HUIITO BUSSYERU HURAN HEKUTAARU PESO PENIHI HERUTU",
    "PENSU PEEZI BEETA POINTO BORUTO HON PONDO HOORU HOON MAIKURO MAIRU MAHHA MARUKU MANSYON",
    "MIKURON MIRI MIRIBAARU MEGA MEGATON MEETORU YAADO YAARU YUAN RITTORU RIRA RUPII RUUBURU",
    "REMU RENTOGEN WATTO"]⟩,
   ⟨0x3358, "IDEOGRAPHIC_TELEGRAPH_SYMBOL_FOR_HOUR_", ["ZERO ONE TWO THREE FOUR FIVE SIX SEVEN",
    "EIGHT NINE TEN ELEVEN TWELVE THIRTEEN FOURTEEN FIFTEEN SIXTEEN SEVENTEEN EIGHTEEN NINETEEN",
    "TWENTY TWENTY-ONE TWENTY-TWO TWENTY-THREE TWENTY-FOUR"]⟩,
   ⟨0x3371, "SQUARE_", ["HPA DA AU BAR OV PC DM DM_SQUARED DM_CUBED IU ERA_NAME_HEISEI",
    "ERA_NAME_SYOUWA ERA_NAME_TAISYOU ERA_NAME_MEIZI CORPORATION PA_AMPS NA MU_A MA KA KB MB GB",
    "CAL KCAL PF NF MU_F MU_G MG KG HZ KHZ MHZ GHZ THZ MU_L ML DL KL FM NM MU_M MM CM KM",
    "MM_SQUARED CM_SQUARED M_SQUARED KM_SQUARED MM_CUBED CM_CUBED M_CUBED KM_CUBED M_OVER_S",
    "M_OVER_S_SQUARED PA KPA MPA GPA RAD RAD_OVER_S RAD_OVER_S_SQUARED PS NS MU_S MS PV NV MU_V",
    "MV KV MV_MEGA PW NW MU_W MW KW MW_MEGA K_OHM M_OHM AM BQ CC CD C_OVER_KG CO DB GY HA HP IN",
    "KK KM_CAPITAL KT LM LN LOG LX MB_SMALL MIL MOL PH PM PPM PR SR SV WB V_OVER_M A_OVER_M"]⟩,
   ⟨0x33e0, "IDEOGRAPHIC_TELEGRAPH_SYMBOL_FOR_DAY_", ["ONE TWO THREE FOUR FIVE SIX SEVEN EIGHT",
    "NINE TEN ELEVEN TWELVE THIRTEEN FOURTEEN FIFTEEN SIXTEEN SEVENTEEN EIGHTEEN NINETEEN TWENTY",
    "TWENTY-ONE TWENTY-TWO TWENTY-THREE TWENTY-FOUR TWENTY-FIVE TWENTY-SIX TWENTY-SEVEN",
    "TWENTY-EIGHT TWENTY-NINE THIRTY THIRTY-ONE"]⟩,
   ⟨0x33ff, "SQUARE_", ["GAL"]⟩,
   ⟨0x4dc0, "HEXAGRAM_FOR_", ["THE_CREATIVE_HEAVEN THE_RECEPTIVE_EARTH",
    "DIFFICULTY_AT_THE_BEGINNING YOUTHFUL_FOLLY WAITING CONFLICT THE_ARMY HOLDING_TOGETHER",
    "SMALL_TAMING TREADING PEACE STANDSTILL FELLOWSHIP GREAT_POSSESSION MODESTY ENTHUSIASM",
    "FOLLOWING WORK_ON_THE_DECAYED APPROACH CONTEMPLATION BITING_THROUGH GRACE SPLITTING_APART",
    "RETURN INNOCENCE GREAT_TAMING MOUTH_CORNERS GREAT_PREPONDERANCE THE_ABYSMAL_WATER",
    "THE_CLINGING_FIRE INFLUENCE DURATION RETREAT GREAT_POWER PROGRESS DARKENING_OF_THE_LIGHT",
    "THE_FAMILY OPPOSITION OBSTRUCTION DELIVERANCE DECREASE INCREASE BREAKTHROUGH COMING_TO_MEET",
    "GATHERING_TOGETHER PUSHING_UPWARD OPPRESSION THE_WELL REVOLUTION THE_CAULDRON",
    "THE_AROUSING_THUNDER THE_KEEPING_STILL_MOUNTAIN DEVELOPMENT THE_MARRYING_MAIDEN ABUNDANCE",
    "THE_WANDERER THE_GENTLE_WIND THE_JOYOUS_LAKE DISPERSION LIMITATION INNER_TRUTH",
    "SMALL_PREPONDERANCE AFTER_COMPLETION BEFORE_COMPLETION"]⟩,
   ⟨0xa000, "YI_SYLLABLE_", ["IT IX I IP IET IEX IE IEP AT AX A AP UOX UO UOP OT OX O OP EX E WU",
    "BIT BIX BI BIP BIET BIEX BIE BIEP BAT BAX BA BAP BUOX BUO BUOP BOT BOX BO BOP BEX BE BEP",
    "BUT BUX BU BUP BURX BUR BYT BYX BY BYP BYRX BYR PIT PIX PI PIP PIEX PIE PIEP PAT PAX PA PAP",
    "PUOX PUO PUOP POT POX PO POP PUT PUX PU PUP PURX PUR PYT PYX PY PYP PYRX PYR BBIT BBIX BBI",
    "BBIP BBIET BBIEX BBIE BBIEP BBAT BBAX BBA BBAP BBUOX BBUO BBUOP BBOT BBOX BBO BBOP BBEX BBE",
    "BBEP BBUT BBUX BBU BBUP BBURX BBUR BBYT BBYX BBY BBYP NBIT NBIX NBI NBIP NBIEX NBIE NBIEP",
    "NBAT NBAX NBA NBAP NBOT NBOX NBO NBOP NBUT NBUX NBU NBUP NBURX NBUR NBYT NBYX NBY NBYP",
    "NBYRX NBYR HMIT HMIX HMI HMIP HMIEX HMIE HMIEP HMAT HMAX HMA HMAP HMUOX HMUO HMUOP HMOT",
    "HMOX HMO HMOP HMUT HMUX HMU HMUP HMURX HMUR HMYX HMY HMYP HMYRX HMYR MIT MIX MI MIP MIEX",
    "MIE MIEP MAT MAX MA MAP MUOT MUOX MUO MUOP MOT MOX MO MOP MEX ME MUT MUX MU MUP MURX MUR",
    "MYT MYX MY MYP FIT FIX FI FIP FAT FAX FA FAP FOX FO FOP FUT FUX FU FUP FURX FUR FYT FYX FY",
    "FYP VIT VIX VI VIP VIET VIEX VIE VIEP VAT VAX VA VAP VOT VOX VO VOP VEX VEP VUT VUX VU VUP",
    "VURX VUR VYT VYX VY VYP VYRX VYR DIT DIX DI DIP DIEX DIE DIEP DAT DAX DA DAP DUOX DUO DOT",
    "DOX DO DOP DEX DE DEP DUT DUX DU DUP DURX DUR TIT TIX TI TIP TIEX TIE TIEP TAT TAX TA TAP",
    "TUOT TUOX TUO TUOP TOT TOX TO TOP TEX TE TEP TUT TUX TU TUP TURX TUR DDIT DDIX DDI DDIP",
    "DDIEX DDIE DDIEP DDAT DDAX DDA DDAP DDUOX DDUO DDUOP DDOT DDOX DDO DDOP DDEX DDE DDEP DDUT",
    "DDUX DDU DDUP DDURX DDUR NDIT NDIX NDI NDIP NDIEX NDIE NDAT NDAX NDA NDAP NDOT NDOX NDO",
    "NDOP NDEX NDE NDEP NDUT NDUX NDU NDUP NDURX NDUR HNIT HNIX HNI HNIP HNIET HNIEX HNIE HNIEP",
    "HNAT HNAX HNA HNAP HNUOX HNUO HNOT HNOX HNOP HNEX HNE HNEP HNUT NIT NIX NI NIP NIEX NIE",
    "NIEP NAX NA NAP NUOX NUO NUOP NOT NOX NO NOP NEX NE NEP NUT NUX NU NUP NURX NUR HLIT HLIX",
    "HLI HLIP HLIEX HLIE HLIEP HLAT HLAX HLA HLAP HLUOX HLUO HLUOP HLOX HLO HLOP HLEX HLE HLEP",
    "HLUT HLUX HLU HLUP HLURX HLUR HLYT HLYX HLY HLYP HLYRX HLYR LIT LIX LI LIP LIET LIEX LIE",
    "LIEP LAT LAX LA LAP LUOT LUOX LUO LUOP LOT LOX LO LOP LEX LE LEP LUT LUX LU LUP LURX LUR",
    "LYT LYX LY LYP LYRX LYR GIT GIX GI GIP GIET GIEX GIE GIEP GAT GAX GA GAP GUOT GUOX GUO GUOP",
    "GOT GOX GO GOP GET GEX GE GEP GUT GUX GU GUP GURX GUR KIT KIX KI KIP KIEX KIE KIEP KAT KAX",
    "KA KAP KUOX KUO KUOP KOT KOX KO KOP KET KEX KE KEP KUT KUX KU KUP KURX KUR GGIT GGIX GGI",
    "GGIEX GGIE GGIEP GGAT GGAX GGA GGAP GGUOT GGUOX GGUO GGUOP GGOT GGOX GGO GGOP GGET GGEX GGE",
    "GGEP GGUT GGUX GGU GGUP GGURX GGUR MGIEX MGIE MGAT MGAX MGA"]⟩,
   ⟨0xa235, "YI_SYLLABLE_", ["MGAP MGUOX MGUO MGUOP MGOT MGOX MGO MGOP MGEX MGE MGEP MGUT MGUX",
    "MGU MGUP MGURX MGUR HXIT HXIX HXI HXIP HXIET HXIEX HXIE HXIEP HXAT HXAX HXA HXAP HXUOT",
    "HXUOX HXUO HXUOP HXOT HXOX HXO HXOP HXEX HXE HXEP NGIEX NGIE NGIEP NGAT NGAX NGA NGAP NGUOT",
    "NGUOX NGUO NGOT NGOX NGO NGOP NGEX NGE NGEP HIT HIEX HIE HAT HAX HA HAP HUOT HUOX HUO HUOP",
    "HOT HOX HO HOP HEX HE HEP WAT WAX WA WAP WUOX WUO WUOP WOX WO WOP WEX WE WEP ZIT ZIX ZI ZIP",
    "ZIEX ZIE ZIEP ZAT ZAX ZA ZAP ZUOX ZUO ZUOP ZOT ZOX ZO ZOP ZEX ZE ZEP ZUT ZUX ZU ZUP ZURX",
    "ZUR ZYT ZYX ZY ZYP ZYRX ZYR CIT CIX CI CIP CIET CIEX CIE CIEP CAT CAX CA CAP CUOX CUO CUOP",
    "COT COX CO COP CEX CE CEP CUT CUX CU CUP CURX CUR CYT CYX CY CYP CYRX CYR ZZIT ZZIX ZZI",
    "ZZIP ZZIET ZZIEX ZZIE ZZIEP ZZAT ZZAX ZZA ZZAP ZZOX ZZO ZZOP ZZEX ZZE ZZEP ZZUX ZZU ZZUP",
    "ZZURX ZZUR ZZYT ZZYX ZZY ZZYP ZZYRX ZZYR NZIT NZIX NZI NZIP NZIEX NZIE NZIEP NZAT NZAX NZA",
    "NZAP NZUOX NZUO NZOX NZOP NZEX NZE NZUX NZU NZUP NZURX NZUR NZYT NZYX NZY NZYP NZYRX NZYR",
    "SIT SIX SI SIP SIEX SIE SIEP SAT SAX SA SAP SUOX SUO SUOP SOT SOX SO SOP SEX SE SEP SUT SUX",
    "SU SUP SURX SUR SYT SYX SY SYP SYRX SYR SSIT SSIX SSI SSIP SSIEX SSIE SSIEP SSAT SSAX SSA",
    "SSAP SSOT SSOX SSO SSOP SSEX SSE SSEP SSUT SSUX SSU SSUP SSYT SSYX SSY SSYP SSYRX SSYR ZHAT",
    "ZHAX ZHA ZHAP ZHUOX ZHUO ZHUOP ZHOT ZHOX ZHO ZHOP ZHET ZHEX ZHE ZHEP ZHUT ZHUX ZHU ZHUP",
    "ZHURX ZHUR ZHYT ZHYX ZHY ZHYP ZHYRX ZHYR CHAT CHAX CHA CHAP CHUOT CHUOX CHUO CHUOP CHOT",
    "CHOX CHO CHOP CHET CHEX CHE CHEP CHUX CHU CHUP CHURX CHUR CHYT CHYX CHY CHYP CHYRX CHYR",
    "RRAX RRA RRUOX RRUO RROT RROX RRO RROP RRET RREX RRE RREP RRUT RRUX RRU RRUP RRURX RRUR",
    "RRYT RRYX RRY RRYP RRYRX RRYR NRAT NRAX NRA NRAP NROX NRO NROP NRET NREX NRE NREP NRUT NRUX",
    "NRU NRUP NRURX NRUR NRYT NRYX NRY NRYP NRYRX NRYR SHAT SHAX SHA SHAP SHUOX SHUO SHUOP SHOT",
    "SHOX SHO SHOP SHET SHEX SHE SHEP SHUT SHUX SHU SHUP SHURX SHUR SHYT SHYX SHY SHYP SHYRX",
    "SHYR RAT RAX RA RAP RUOX RUO RUOP ROT ROX RO ROP REX RE REP RUT RUX RU RUP RURX RUR RYT RYX",
    "RY RYP RYRX RYR JIT JIX JI JIP JIET JIEX JIE JIEP JUOT JUOX JUO JUOP JOT JOX JO JOP JUT JUX",
    "JU JUP JURX JUR JYT JYX JY JYP JYRX JYR QIT QIX QI QIP QIET QIEX QIE QIEP QUOT QUOX QUO",
    "QUOP QOT QOX QO QOP QUT QUX QU QUP QURX QUR QYT QYX QY QYP QYRX QYR JJIT JJIX JJI JJIP",
    "JJIET JJIEX JJIE JJIEP JJUOX JJUO JJUOP JJOT JJOX JJO JJOP JJUT JJUX JJU JJUP JJURX JJUR",
    "JJYT JJYX JJY JJYP NJIT NJIX NJI NJIP NJIET NJIEX NJIE NJIEP NJUOX NJUO NJOT NJOX NJO NJOP",
    "NJUX NJU NJUP NJURX NJUR NJYT NJYX NJY NJYP NJYRX NJYR NYIT NYIX NYI NYIP NYIET NYIEX NYIE",
    "NYIEP NYUOX NYUO NYUOP NYOT NYOX NYO NYOP NYUT NYUX NYU NYUP XIT XIX XI XIP XIET XIEX XIE",
    "XIEP XUOX XUO XOT XOX XO XOP XYT XYX XY XYP XYRX XYR YIT YIX YI YIP YIET YIEX YIE YIEP YUOT",
    "YUOX YUO YUOP YOT YOX YO YOP YUT YUX YU YUP YURX YUR YYT YYX YY YYP YYRX YYR"]⟩,
   ⟨0xa490, "YI_RADICAL_", ["QOT LI KIT NYIP CYP SSI GGOP GEP MI HXIT LYR BBUT MOP YO PUT HXUO",
    "TAT GA ZUP CYT DDUR BUR GGUO NYOP TU OP JJUT ZOT PYT HMO YIT VUR SHY VEP ZA JO NZUP JJY GOT",
    "JJIE WO DU SHUR LIE CY CUOP CIP HXOP SHAT ZUR SHOP CHE ZZIET NBIE KE"]⟩,
   ⟨0xa4d0, "LISU_LETTER_", ["BA PA PHA DA TA THA GA KA KHA JA CA CHA DZA TSA TSHA MA NA LA SA",
    "ZHA ZA NGA HA XA HHA FA WA SHA YA GHA A AE E EU I O U UE UH OE TONE_MYA_TI TONE_NA_PO",
    "TONE_MYA_CYA TONE_MYA_BO TONE_MYA_NA TONE_MYA_JEU"]⟩,
   ⟨0xa4fe, "LISU_PUNCTUATION_", ["COMMA FULL_STOP"]⟩,
   ⟨0xa960, "HANGUL_CHOSEONG_TIKEUT-", ["MIEUM PIEUP SIOS CIEUC"]⟩,
   ⟨0xa964, "HANGUL_CHOSEONG_RIEUL-", ["KIYEOK SSANGKIYEOK TIKEUT SSANGTIKEUT MIEUM PIEUP",
    "SSANGPIEUP KAPYEOUNPIEUP SIOS CIEUC KHIEUKH"]⟩,
   ⟨0xa96f, "HANGUL_CHOSEONG_", ["MIEUM-KIYEOK MIEUM-TIKEUT MIEUM-SIOS PIEUP-SIOS-THIEUTH",
    "PIEUP-KHIEUKH PIEUP-HIEUH SSANGSIOS-PIEUP IEUNG-RIEUL IEUNG-HIEUH SSANGCIEUC-HIEUH",
    "SSANGTHIEUTH PHIEUPH-HIEUH HIEUH-SIOS SSANGYEORINHIEUH"]⟩,
   ⟨0xd7b0, "HANGUL_JUNGSEONG_", ["O-YEO O-O-I YO-A YO-AE YO-EO U-YEO U-I-I YU-AE YU-O EU-A",
    "EU-EO EU-E EU-O I-YA-O I-YAE I-YEO I-YE I-O-I I-YO I-YU I-I ARAEA-A ARAEA-E"]⟩,
   ⟨0xd7cb, "HANGUL_JONGSEONG_", ["NIEUN-RIEUL NIEUN-CHIEUCH SSANGTIKEUT SSANGTIKEUT-PIEUP",
    "TIKEUT-PIEUP TIKEUT-SIOS TIKEUT-SIOS-KIYEOK TIKEUT-CIEUC TIKEUT-CHIEUCH TIKEUT-THIEUTH",
    "RIEUL-SSANGKIYEOK RIEUL-KIYEOK-HIEUH SSANGRIEUL-KHIEUKH RIEUL-MIEUM-HIEUH",
    "RIEUL-PIEUP-TIKEUT RIEUL-PIEUP-PHIEUPH RIEUL-YESIEUNG RIEUL-YEORINHIEUH-HIEUH KAPYEOUNRIEUL",
    "MIEUM-NIEUN MIEUM-SSANGNIEUN SSANGMIEUM MIEUM-PIEUP-SIOS MIEUM-CIEUC PIEUP-TIKEUT",
    "PIEUP-RIEUL-PHIEUPH PIEUP-MIEUM SSANGPIEUP PIEUP-SIOS-TIKEUT PIEUP-CIEUC PIEUP-CHIEUCH",
    "SIOS-MIEUM SIOS-KAPYEOUNPIEUP SSANGSIOS-KIYEOK SSANGSIOS-TIKEUT SIOS-PANSIOS SIOS-CIEUC",
    "SIOS-CHIEUCH SIOS-THIEUTH SIOS-HIEUH PANSIOS-PIEUP PANSIOS-KAPYEOUNPIEUP YESIEUNG-MIEUM",
    "YESIEUNG-HIEUH CIEUC-PIEUP CIEUC-SSANGPIEUP SSANGCIEUC PHIEUPH-SIOS PHIEUPH-THIEUTH"]⟩,
   ⟨0xfe10, "PRESENTATION_FORM_FOR_VERTICAL_", ["COMMA IDEOGRAPHIC_COMMA IDEOGRAPHIC_FULL_STOP",
    "COLON SEMICOLON EXCLAMATION_MARK QUESTION_MARK LEFT_WHITE_LENTICULAR_BRACKET",
    "RIGHT_WHITE_LENTICULAR_BRAKCET HORIZONTAL_ELLIPSIS"]⟩,
   ⟨0xfe30, "PRESENTATION_FORM_FOR_VERTICAL_", ["TWO_DOT_LEADER EM_DASH EN_DASH LOW_LINE",
    "WAVY_LOW_LINE LEFT_PARENTHESIS RIGHT_PARENTHESIS LEFT_CURLY_BRACKET RIGHT_CURLY_BRACKET",
    "LEFT_TORTOISE_SHELL_BRACKET RIGHT_TORTOISE_SHELL_BRACKET LEFT_BLACK_LENTICULAR_BRACKET",
    "RIGHT_BLACK_LENTICULAR_BRACKET LEFT_DOUBLE_ANGLE_BRACKET RIGHT_DOUBLE_ANGLE_BRACKET",
    "LEFT_ANGLE_BRACKET RIGHT_ANGLE_BRACKET LEFT_CORNER_BRACKET RIGHT_CORNER_BRACKET",
    "LEFT_WHITE_CORNER_BRACKET RIGHT_WHITE_CORNER_BRACKET"]⟩,
   ⟨0xfe45, "", ["SESAME_DOT WHITE_SESAME_DOT PRESENTATION_FORM_FOR_VERTICAL_LEFT_SQUARE_BRACKET",
    "PRESENTATION_FORM_FOR_VERTICAL_RIGHT_SQUARE_BRACKET DASHED_OVERLINE CENTRELINE_OVERLINE",
    "WAVY_OVERLINE DOUBLE_WAVY_OVERLINE DASHED_LOW_LINE CENTRELINE_LOW_LINE WAVY_LOW_LINE"]⟩,
   ⟨0xfe50, "SMALL_", ["COMMA IDEOGRAPHIC_COMMA FULL_STOP � SEMICOLON COLON QUESTION_MARK",
    "EXCLAMATION_MARK EM_DASH LEFT_PARENTHESIS RIGHT_PARENTHESIS LEFT_CURLY_BRACKET",
    "RIGHT_CURLY_BRACKET LEFT_TORTOISE_SHELL_BRACKET RIGHT_TORTOISE_SHELL_BRACKET NUMBER_SIGN",
    "AMPERSAND ASTERISK PLUS_SIGN HYPHEN-MINUS LESS-THAN_SIGN GREATER-THAN_SIGN EQUALS_SIGN �",
    "REVERSE_SOLIDUS DOLLAR_SIGN PERCENT_SIGN COMMERCIAL_AT"]⟩,
   ⟨0xff01, "FULLWIDTH_", ["EXCLAMATION_MARK QUOTATION_MARK NUMBER_SIGN DOLLAR_SIGN PERCENT_SIGN",
    "AMPERSAND APOSTROPHE LEFT_PARENTHESIS RIGHT_PARENTHESIS ASTERISK PLUS_SIGN COMMA",
    "HYPHEN-MINUS FULL_STOP SOLIDUS DIGIT_ZERO DIGIT_ONE DIGIT_TWO DIGIT_THREE DIGIT_FOUR",
    "DIGIT_FIVE DIGIT_SIX DIGIT_SEVEN DIGIT_EIGHT DIGIT_NINE COLON SEMICOLON LESS-THAN_SIGN",
    "EQUALS_SIGN GREATER-THAN_SIGN QUESTION_MARK COMMERCIAL_AT"]⟩,
   ⟨0xff21, "FULLWIDTH_LATIN_CAPITAL_LETTER_", ["A B C D E F G H I J K L M N O P Q R S T U V W X",
    "Y Z"]⟩,
   ⟨0xff3b, "FULLWIDTH_", ["LEFT_SQUARE_BRACKET REVERSE_SOLIDUS RIGHT_SQUARE_BRACKET",
    "CIRCUMFLEX_ACCENT LOW_LINE GRAVE_ACCENT"]⟩,
   ⟨0xff41, "FULLWIDTH_LATIN_SMALL_LETTER_", ["A B C D E F G H I J K L M N O P Q R S T U V W X Y",
    "Z"]⟩,
   ⟨0xff5b, "FULLWIDTH_", ["LEFT_CURLY_BRACKET VERTICAL_LINE RIGHT_CURLY_BRACKET TILDE",
    "LEFT_WHITE_PARENTHESIS RIGHT_WHITE_PARENTHESIS"]⟩,
   ⟨0xff61, "HALFWIDTH_", ["IDEOGRAPHIC_FULL_STOP LEFT_CORNER_BRACKET RIGHT_CORNER_BRACKET",
    "IDEOGRAPHIC_COMMA KATAKANA_MIDDLE_DOT KATAKANA_LETTER_WO"]⟩,
   ⟨0xff67, "HALFWIDTH_KATAKANA_LETTER_SMALL_", ["A I U E O YA YU YO TU"]⟩,
   ⟨0xff70, "HALFWIDTH_KATAKANA-HIRAGANA_PROLONGED_SOUND_", ["MARK"]⟩,
   ⟨0xff71, "HALFWIDTH_KATAKANA_LETTER_", ["A I U E O KA KI KU KE KO SA SI SU SE SO TA TI TU TE",
    "TO NA NI NU NE NO HA HI HU HE HO MA MI MU ME MO YA YU YO RA RI RU RE RO WA N"]⟩,
   ⟨0xff9e, "HALFWIDTH_", ["KATAKANA_VOICED_SOUND_MARK KATAKANA_SEMI-VOICED_SOUND_MARK",
    "HANGUL_FILLER"]⟩,
   ⟨0xffa1, "HALFWIDTH_HANGUL_LETTER_", ["KIYEOK SSANGKIYEOK KIYEOK-SIOS NIEUN NIEUN-CIEUC",
    "NIEUN-HIEUH TIKEUT SSANGTIKEUT RIEUL RIEUL-KIYEOK RIEUL-MIEUM RIEUL-PIEUP RIEUL-SIOS",
    "RIEUL-THIEUTH RIEUL-PHIEUPH RIEUL-HIEUH MIEUM PIEUP SSANGPIEUP PIEUP-SIOS SIOS SSANGSIOS",
    "IEUNG CIEUC SSANGCIEUC CHIEUCH KHIEUKH THIEUTH PHIEUPH HIEUH � � � A AE YA YAE EO E � � YEO",
    "YE O WA WAE OE � � YO U WEO WE WI YU � � EU YI I"]⟩,
   ⟨0xffe0, "FULLWIDTH_", ["CENT_SIGN POUND_SIGN NOT_SIGN MACRON BROKEN_BAR YEN_SIGN WON_SIGN"]⟩,
   ⟨0xffe8, "HALFWIDTH_", ["FORMS_LIGHT_VERTICAL LEFTWARDS_ARROW UPWARDS_ARROW RIGHTWARDS_ARROW",
    "DOWNWARDS_ARROW BLACK_SQUARE WHITE_CIRCLE"]⟩,
   ⟨0x11fb0, "LISU_LETTER_", ["YHA"]⟩,
   ⟨0x16f00, "MIAO_LETTER_", ["PA BA YI_PA PLA MA MHA ARCHAIC_MA FA VA VFA TA DA YI_TTA YI_TA",
    "TTA DDA NA NHA YI_NNA ARCHAIC_NA NNA NNHA LA LYA LHA LHYA TLHA DLHA TLHYA DLHYA KA GA YI_KA",
    "QA QGA NGA NGHA ARCHAIC_NGA HA XA GHA GHHA TSSA DZZA NYA NYHA TSHA DZHA YI_TSHA YI_DZHA",
    "REFORMED_TSHA SHA SSA ZHA ZSHA TSA DZA YI_TSA SA ZA ZSA ZZA ZZSA ARCHAIC_ZZA ZZYA ZZSYA WA",
    "AH HHA BRI SYI DZYI TE TSE RTE"]⟩,
   ⟨0x16f4f, "MIAO_", ["SIGN_CONSONANT_MODIFIER_BAR LETTER_NASALIZATION SIGN_ASPIRATION",
    "SIGN_REFORMED_VOICING SIGN_REFORMED_ASPIRATION"]⟩,
   ⟨0x16f54, "MIAO_VOWEL_SIGN_", ["A AA AHH AN ANG O OO WO W E EN ENG OEY I IA IAN IANG IO IE II",
    "IU ING U UA UAN UANG UU UEI UNG Y YI AE AEE ERR ROUNDED_ERR ER ROUNDED_ER AI EI AU OU N NG",
    "UOG YUI OG OER VW IG EA IONG UI"]⟩,
   ⟨0x16f8f, "MIAO_TONE_", ["RIGHT TOP_RIGHT ABOVE BELOW"]⟩,
   ⟨0x16f93, "MIAO_LETTER_TONE-", ["2 3 4 5 6 7 8"]⟩,
   ⟨0x16f9a, "MIAO_LETTER_REFORMED_TONE-", ["1 2 4 5 6 8"]⟩,
   ⟨0x16fe0, "", ["TANGUT_ITERATION_MARK NUSHU_ITERATION_MARK OLD_CHINESE_HOOK_MARK",
    "OLD_CHINESE_ITERATION_MARK KHITAN_SMALL_SCRIPT_FILLER"]⟩,
   ⟨0x16ff0, "VIETNAMESE_ALTERNATE_READING_MARK_", ["CA NHAY"]⟩,
   ⟨0x1aff0, "KATAKANA_LETTER_MINNAN_TONE-", ["2 3 4 5 � 7 8"]⟩,
   ⟨0x1aff7, "KATAKANA_LETTER_MINNAN_NASALIZED_TONE-", ["1 2 3 4 5 � 7 8"]⟩,
   ⟨0x1b000, "", ["KATAKANA_LETTER_ARCHAIC_E HIRAGANA_LETTER_ARCHAIC_YE"]⟩,
   ⟨0x1b002, "HENTAIGANA_LETTER_", ["A-1 A-2 A-3 A-WO I-1 I-2 I-3 I-4 U-1 U-2 U-3 U-4 U-5 E-2",
    "E-3 E-4 E-5 E-6 O-1 O-2 O-3 KA-1 KA-2 KA-3 KA-4 KA-5 KA-6 KA-7 KA-8 KA-9 KA-10 KA-11 KA-KE",
    "KI-1 KI-2 KI-3 KI-4 KI-5 KI-6 KI-7 KI-8 KU-1 KU-2 KU-3 KU-4 KU-5 KU-6 KU-7 KE-1 KE-2 KE-3",
    "KE-4 KE-5 KE-6 KO-1 KO-2 KO-3 KO-KI SA-1 SA-2 SA-3 SA-4 SA-5 SA-6 SA-7 SA-8 SI-1 SI-2 SI-3",
    "SI-4 SI-5 SI-6 SU-1 SU-2 SU-3 SU-4 SU-5 SU-6 SU-7 SU-8 SE-1 SE-2 SE-3 SE-4 SE-5 SO-1 SO-2",
    "SO-3 SO-4 SO-5 SO-6 SO-7 TA-1 TA-2 TA-3 TA-4 TI-1 TI-2 TI-3 TI-4 TI-5 TI-6 TI-7 TU-1 TU-2",
    "TU-3 TU-4 TU-TO TE-1 TE-2 TE-3 TE-4 TE-5 TE-6 TE-7 TE-8 TE-9 TO-1 TO-2 TO-3 TO-4 TO-5 TO-6",
    "TO-RA NA-1 NA-2 NA-3 NA-4 NA-5 NA-6 NA-7 NA-8 NA-9 NI-1 NI-2 NI-3 NI-4 NI-5 NI-6 NI-7 NI-TE",
    "NU-1 NU-2 NU-3 NE-1 NE-2 NE-3 NE-4 NE-5 NE-6 NE-KO NO-1 NO-2 NO-3 NO-4 NO-5 HA-1 HA-2 HA-3",
    "HA-4 HA-5 HA-6 HA-7 HA-8 HA-9 HA-10 HA-11 HI-1 HI-2 HI-3 HI-4 HI-5 HI-6 HI-7 HU-1 HU-2 HU-3",
    "HE-1 HE-2 HE-3 HE-4 HE-5 HE-6 HE-7 HO-1 HO-2 HO-3 HO-4 HO-5 HO-6 HO-7 HO-8 MA-1 MA-2 MA-3",
    "MA-4 MA-5 MA-6 MA-7 MI-1 MI-2 MI-3 MI-4 MI-5 MI-6 MI-7 MU-1 MU-2 MU-3 MU-4 ME-1 ME-2 ME-MA",
    "MO-1 MO-2 MO-3 MO-4 MO-5 MO-6 YA-1 YA-2 YA-3 YA-4 YA-5 YA-YO YU-1 YU-2 YU-3 YU-4 YO-1 YO-2",
    "YO-3 YO-4 YO-5 YO-6 RA-1 RA-2 RA-3 RA-4 RI-1 RI-2 RI-3 RI-4 RI-5 RI-6 RI-7 RU-1 RU-2 RU-3",
    "RU-4 RU-5 RU-6 RE-1 RE-2 RE-3 RE-4 RO-1 RO-2 RO-3 RO-4 RO-5 RO-6 WA-1 WA-2 WA-3 WA-4 WA-5",
    "WI-1 WI-2 WI-3 WI-4 WI-5 WE-1 WE-2 WE-3 WE-4 WO-1 WO-2 WO-3 WO-4 WO-5 WO-6 WO-7 N-MU-MO-1",
    "N-MU-MO-2"]⟩,
   ⟨0x1b11f, "HIRAGANA_LETTER_ARCHAIC_", ["WU"]⟩,
   ⟨0x1b120, "KATAKANA_LETTER_ARCHAIC_", ["YI YE WU"]⟩,
   ⟨0x1b150, "HIRAGANA_LETTER_SMALL_", ["WI WE WO"]⟩,
   ⟨0x1b164, "KATAKANA_LETTER_SMALL_", ["WI WE WO N"]⟩,
   ⟨0x1d300, "MONOGRAM_FOR_", ["EARTH"]⟩,
   ⟨0x1d301, "DIGRAM_FOR_", ["HEAVENLY_EARTH HUMAN_EARTH EARTHLY_HEAVEN EARTHLY_HUMAN EARTH"]⟩,
   ⟨0x1d306, "TETRAGRAM_FOR_", ["CENTRE FULL_CIRCLE MIRED BARRIER KEEPING_SMALL CONTRARIETY",
    "ASCENT OPPOSITION BRANCHING_OUT DEFECTIVENESS_OR_DISTORTION DIVERGENCE YOUTHFULNESS",
    "INCREASE PENETRATION REACH CONTACT HOLDING_BACK WAITING FOLLOWING ADVANCE RELEASE",
    "RESISTANCE EASE JOY CONTENTION ENDEAVOUR DUTIES CHANGE DECISIVENESS BOLD_RESOLUTION PACKING",
    "LEGION CLOSENESS KINSHIP GATHERING STRENGTH PURITY FULLNESS RESIDENCE LAW_OR_MODEL RESPONSE",
    "GOING_TO_MEET ENCOUNTERS STOVE GREATNESS ENLARGEMENT PATTERN RITUAL FLIGHT",
    "VASTNESS_OR_WASTING CONSTANCY MEASURE ETERNITY UNITY DIMINISHMENT CLOSED_MOUTH GUARDEDNESS",
    "GATHERING_IN MASSING ACCUMULATION EMBELLISHMENT DOUBT WATCH SINKING INNER DEPARTURE",
    "DARKENING DIMMING EXHAUSTION SEVERANCE STOPPAGE HARDNESS COMPLETION CLOSURE FAILURE",
    "AGGRAVATION COMPLIANCE ON_THE_VERGE DIFFICULTIES LABOURING FOSTERING"]⟩,
   ⟨0x1d360, "COUNTING_ROD_UNIT_DIGIT_", ["ONE TWO THREE FOUR FIVE SIX SEVEN EIGHT NINE"]⟩,
   ⟨0x1d369, "COUNTING_ROD_TENS_DIGIT_", ["ONE TWO THREE FOUR FIVE SIX SEVEN EIGHT NINE"]⟩,
   ⟨0x1d372, "IDEOGRAPHIC_TALLY_MARK_", ["ONE TWO THREE FOUR FIVE"]⟩,
   ⟨0x1d377, "TALLY_MARK_", ["ONE FIVE"]⟩,
   ⟨0x1f200, "", ["SQUARE_HIRAGANA_HOKA SQUARED_KATAKANA_KOKO SQUARED_KATAKANA_SA"]⟩,
   ⟨0x1f210, "SQUARED_CJK_UNIFIED_IDEOGRAPH-", ["624B 5B57 53CC"]⟩,
   ⟨0x1f213, "SQUARED_KATAKANA_", ["DE"]⟩,
   ⟨0x1f214, "SQUARED_CJK_UNIFIED_IDEOGRAPH-", ["4E8C 591A 89E3 5929 4EA4 6620 7121 6599 524D",
    "5F8C 518D 65B0 521D 7D42 751F 8CA9 58F0 5439 6F14 6295 6355 4E00 4E09 904A 5DE6 4E2D 53F3",
    "6307 8D70 6253 7981 7A7A 5408 6E80 6709 6708 7533 5272 55B6 914D"]⟩,
   ⟨0x1f240, "TORTOISE_SHELL_BRACKETED_CJK_UNIFIED_IDEOGRAPH-", ["672C 4E09 4E8C 5B89 70B9 6253",
    "76D7 52DD 6557"]⟩,
   ⟨0x1f250, "CIRCLED_IDEOGRAPH_", ["ADVANTAGE ACCEPT"]⟩,
   ⟨0x1f260, "ROUNDED_SYMBOL_FOR_", ["FU LU SHOU XI SHUANGXI CAI"]⟩]

end SqlRoutes.Text.Names
