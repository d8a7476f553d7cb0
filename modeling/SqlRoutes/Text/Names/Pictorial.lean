import SqlRoutes.Text.Names.Series

namespace SqlRoutes.Text.Names

def pictorial : List Series :=
  [⟨0x1f000, "MAHJONG_TILE_", ["EAST_WIND SOUTH_WIND WEST_WIND NORTH_WIND RED_DRAGON",
    "GREEN_DRAGON WHITE_DRAGON ONE_OF_CHARACTERS TWO_OF_CHARACTERS THREE_OF_CHARACTERS",
    "FOUR_OF_CHARACTERS FIVE_OF_CHARACTERS SIX_OF_CHARACTERS SEVEN_OF_CHARACTERS",
    "EIGHT_OF_CHARACTERS NINE_OF_CHARACTERS ONE_OF_BAMBOOS TWO_OF_BAMBOOS THREE_OF_BAMBOOS",
    "FOUR_OF_BAMBOOS FIVE_OF_BAMBOOS SIX_OF_BAMBOOS SEVEN_OF_BAMBOOS EIGHT_OF_BAMBOOS",
    "NINE_OF_BAMBOOS ONE_OF_CIRCLES TWO_OF_CIRCLES THREE_OF_CIRCLES FOUR_OF_CIRCLES",
    "FIVE_OF_CIRCLES SIX_OF_CIRCLES SEVEN_OF_CIRCLES EIGHT_OF_CIRCLES NINE_OF_CIRCLES PLUM",
    "ORCHID BAMBOO CHRYSANTHEMUM SPRING SUMMER AUTUMN WINTER JOKER BACK"]⟩,
   ⟨0x1f030, "DOMINO_TILE_HORIZONTAL_", ["BACK"]⟩,
   ⟨0x1f031, "DOMINO_TILE_HORIZONTAL-", ["00-00 00-01 00-02 00-03 00-04 00-05 00-06 01-00 01-01",
    "01-02 01-03 01-04 01-05 01-06 02-00 02-01 02-02 02-03 02-04 02-05 02-06 03-00 03-01 03-02",
    "03-03 03-04 03-05 03-06 04-00 04-01 04-02 04-03 04-04 04-05 04-06 05-00 05-01 05-02 05-03",
    "05-04 05-05 05-06 06-00 06-01 06-02 06-03 06-04 06-05 06-06"]⟩,
   ⟨0x1f062, "DOMINO_TILE_VERTICAL_", ["BACK"]⟩,
   ⟨0x1f063, "DOMINO_TILE_VERTICAL-", ["00-00 00-01 00-02 00-03 00-04 00-05 00-06 01-00 01-01",
    "01-02 01-03 01-04 01-05 01-06 02-00 02-01 02-02 02-03 02-04 02-05 02-06 03-00 03-01 03-02",
    "03-03 03-04 03-05 03-06 04-00 04-01 04-02 04-03 04-04 04-05 04-06 05-00 05-01 05-02 05-03",
    "05-04 05-05 05-06 06-00 06-01 06-02 06-03 06-04 06-05 06-06"]⟩,
   ⟨0x1f0a0, "PLAYING_CARD_", ["BACK ACE_OF_SPADES TWO_OF_SPADES THREE_OF_SPADES FOUR_OF_SPADES",
    "FIVE_OF_SPADES SIX_OF_SPADES SEVEN_OF_SPADES EIGHT_OF_SPADES NINE_OF_SPADES TEN_OF_SPADES",
    "JACK_OF_SPADES KNIGHT_OF_SPADES QUEEN_OF_SPADES KING_OF_SPADES � � ACE_OF_HEARTS",
    "TWO_OF_HEARTS THREE_OF_HEARTS FOUR_OF_HEARTS FIVE_OF_HEARTS SIX_OF_HEARTS SEVEN_OF_HEARTS",
    "EIGHT_OF_HEARTS NINE_OF_HEARTS TEN_OF_HEARTS JACK_OF_HEARTS KNIGHT_OF_HEARTS",
    "QUEEN_OF_HEARTS KING_OF_HEARTS RED_JOKER � ACE_OF_DIAMONDS TWO_OF_DIAMONDS",
    "THREE_OF_DIAMONDS FOUR_OF_DIAMONDS FIVE_OF_DIAMONDS SIX_OF_DIAMONDS SEVEN_OF_DIAMONDS",
    "EIGHT_OF_DIAMONDS NINE_OF_DIAMONDS TEN_OF_DIAMONDS JACK_OF_DIAMONDS KNIGHT_OF_DIAMONDS",
    "QUEEN_OF_DIAMONDS KING_OF_DIAMONDS BLACK_JOKER � ACE_OF_CLUBS TWO_OF_CLUBS THREE_OF_CLUBS",
    "FOUR_OF_CLUBS FIVE_OF_CLUBS SIX_OF_CLUBS SEVEN_OF_CLUBS EIGHT_OF_CLUBS NINE_OF_CLUBS",
    "TEN_OF_CLUBS JACK_OF_CLUBS KNIGHT_OF_CLUBS QUEEN_OF_CLUBS KING_OF_CLUBS WHITE_JOKER FOOL"]⟩,
   ⟨0x1f0e1, "PLAYING_CARD_TRUMP-", ["1 2 3 4 5 6 7 8 9 10 11 12 13 14 15 16 17 18 19 20 21"]⟩,
   ⟨0x1f300, "", ["CYCLONE FOGGY CLOSED_UMBRELLA NIGHT_WITH_STARS SUNRISE_OVER_MOUNTAINS SUNRISE",
    "CITYSCAPE_AT_DUSK SUNSET_OVER_BUILDINGS RAINBOW BRIDGE_AT_NIGHT WATER_WAVE VOLCANO",
    "MILKY_WAY EARTH_GLOBE_EUROPE-AFRICA EARTH_GLOBE_AMERICAS EARTH_GLOBE_ASIA-AUSTRALIA",
    "GLOBE_WITH_MERIDIANS NEW_MOON_SYMBOL WAXING_CRESCENT_MOON_SYMBOL FIRST_QUARTER_MOON_SYMBOL",
    "WAXING_GIBBOUS_MOON_SYMBOL FULL_MOON_SYMBOL WANING_GIBBOUS_MOON_SYMBOL",
    "LAST_QUARTER_MOON_SYMBOL WANING_CRESCENT_MOON_SYMBOL CRESCENT_MOON NEW_MOON_WITH_FACE",
    "FIRST_QUARTER_MOON_WITH_FACE LAST_QUARTER_MOON_WITH_FACE FULL_MOON_WITH_FACE SUN_WITH_FACE",
    "GLOWING_STAR SHOOTING_STAR THERMOMETER BLACK_DROPLET WHITE_SUN WHITE_SUN_WITH_SMALL_CLOUD",
    "WHITE_SUN_BEHIND_CLOUD WHITE_SUN_BEHIND_CLOUD_WITH_RAIN CLOUD_WITH_RAIN CLOUD_WITH_SNOW",
    "CLOUD_WITH_LIGHTNING CLOUD_WITH_TORNADO FOG WIND_BLOWING_FACE HOT_DOG TACO BURRITO CHESTNUT",
    "SEEDLING EVERGREEN_TREE DECIDUOUS_TREE PALM_TREE CACTUS HOT_PEPPER TULIP CHERRY_BLOSSOM",
    "ROSE HIBISCUS SUNFLOWER BLOSSOM EAR_OF_MAIZE EAR_OF_RICE HERB FOUR_LEAF_CLOVER MAPLE_LEAF",
    "FALLEN_LEAF LEAF_FLUTTERING_IN_WIND MUSHROOM TOMATO AUBERGINE GRAPES MELON WATERMELON",
    "TANGERINE LEMON BANANA PINEAPPLE RED_APPLE GREEN_APPLE PEAR PEACH CHERRIES STRAWBERRY",
    "HAMBURGER SLICE_OF_PIZZA MEAT_ON_BONE POULTRY_LEG RICE_CRACKER RICE_BALL COOKED_RICE",
    "CURRY_AND_RICE STEAMING_BOWL SPAGHETTI BREAD FRENCH_FRIES ROASTED_SWEET_POTATO DANGO ODEN",
    "SUSHI FRIED_SHRIMP FISH_CAKE_WITH_SWIRL_DESIGN SOFT_ICE_CREAM SHAVED_ICE ICE_CREAM DOUGHNUT",
    "COOKIE CHOCOLATE_BAR CANDY LOLLIPOP CUSTARD HONEY_POT SHORTCAKE BENTO_BOX POT_OF_FOOD",
    "COOKING FORK_AND_KNIFE TEACUP_WITHOUT_HANDLE SAKE_BOTTLE_AND_CUP WINE_GLASS COCKTAIL_GLASS",
    "TROPICAL_DRINK BEER_MUG CLINKING_BEER_MUGS BABY_BOTTLE FORK_AND_KNIFE_WITH_PLATE",
    "BOTTLE_WITH_POPPING_CORK POPCORN RIBBON WRAPPED_PRESENT BIRTHDAY_CAKE JACK-O-LANTERN",
    "CHRISTMAS_TREE FATHER_CHRISTMAS FIREWORKS FIREWORK_SPARKLER BALLOON PARTY_POPPER",
    "CONFETTI_BALL TANABATA_TREE CROSSED_FLAGS PINE_DECORATION JAPANESE_DOLLS CARP_STREAMER",
    "WIND_CHIME MOON_VIEWING_CEREMONY SCHOOL_SATCHEL GRADUATION_CAP HEART_WITH_TIP_ON_THE_LEFT",
    "BOUQUET_OF_FLOWERS MILITARY_MEDAL REMINDER_RIBBON MUSICAL_KEYBOARD_WITH_JACKS",
    "STUDIO_MICROPHONE LEVEL_SLIDER CONTROL_KNOBS BEAMED_ASCENDING_MUSICAL_NOTES",
    "BEAMED_DESCENDING_MUSICAL_NOTES FILM_FRAMES ADMISSION_TICKETS CAROUSEL_HORSE FERRIS_WHEEL",
    "ROLLER_COASTER FISHING_POLE_AND_FISH MICROPHONE MOVIE_CAMERA CINEMA HEADPHONE",
    "ARTIST_PALETTE TOP_HAT CIRCUS_TENT TICKET CLAPPER_BOARD PERFORMING_ARTS VIDEO_GAME",
    "DIRECT_HIT SLOT_MACHINE BILLIARDS GAME_DIE BOWLING FLOWER_PLAYING_CARDS MUSICAL_NOTE",
    "MULTIPLE_MUSICAL_NOTES SAXOPHONE GUITAR MUSICAL_KEYBOARD TRUMPET VIOLIN MUSICAL_SCORE",
    "RUNNING_SHIRT_WITH_SASH TENNIS_RACQUET_AND_BALL SKI_AND_SKI_BOOT BASKETBALL_AND_HOOP",
    "CHEQUERED_FLAG SNOWBOARDER RUNNER SURFER SPORTS_MEDAL TROPHY HORSE_RACING AMERICAN_FOOTBALL",
    "RUGBY_FOOTBALL SWIMMER WEIGHT_LIFTER GOLFER RACING_MOTORCYCLE RACING_CAR",
    "CRICKET_BAT_AND_BALL VOLLEYBALL FIELD_HOCKEY_STICK_AND_BALL ICE_HOCKEY_STICK_AND_PUCK",
    "TABLE_TENNIS_PADDLE_AND_BALL SNOW_CAPPED_MOUNTAIN CAMPING BEACH_WITH_UMBRELLA",
    "BUILDING_CONSTRUCTION HOUSE_BUILDINGS CITYSCAPE DERELICT_HOUSE_BUILDING CLASSICAL_BUILDING",
    "DESERT DESERT_ISLAND NATIONAL_PARK STADIUM HOUSE_BUILDING HOUSE_WITH_GARDEN OFFICE_BUILDING",
    "JAPANESE_POST_OFFICE EUROPEAN_POST_OFFICE HOSPITAL BANK AUTOMATED_TELLER_MACHINE HOTEL",
    "LOVE_HOTEL CONVENIENCE_STORE SCHOOL DEPARTMENT_STORE FACTORY IZAKAYA_LANTERN",
    "JAPANESE_CASTLE EUROPEAN_CASTLE WHITE_PENNANT BLACK_PENNANT WAVING_WHITE_FLAG",
    "WAVING_BLACK_FLAG ROSETTE BLACK_ROSETTE LABEL BADMINTON_RACQUET_AND_SHUTTLECOCK",
    "BOW_AND_ARROW AMPHORA"]⟩,
   ⟨0x1f3fb, "EMOJI_MODIFIER_FITZPATRICK_TYPE-", ["1-2 3 4 5 6"]⟩,
   ⟨0x1f400, "", ["RAT MOUSE OX WATER_BUFFALO COW TIGER LEOPARD RABBIT CAT DRAGON CROCODILE",
    "WHALE SNAIL SNAKE HORSE RAM GOAT SHEEP MONKEY ROOSTER CHICKEN DOG PIG BOAR ELEPHANT OCTOPUS",
    "SPIRAL_SHELL BUG ANT HONEYBEE LADY_BEETLE FISH TROPICAL_FISH BLOWFISH TURTLE HATCHING_CHICK",
    "BABY_CHICK FRONT-FACING_BABY_CHICK BIRD PENGUIN KOALA POODLE DROMEDARY_CAMEL BACTRIAN_CAMEL",
    "DOLPHIN MOUSE_FACE COW_FACE TIGER_FACE RABBIT_FACE CAT_FACE DRAGON_FACE SPOUTING_WHALE",
    "HORSE_FACE MONKEY_FACE DOG_FACE PIG_FACE FROG_FACE HAMSTER_FACE WOLF_FACE BEAR_FACE",
    "PANDA_FACE PIG_NOSE PAW_PRINTS CHIPMUNK EYES EYE EAR NOSE MOUTH TONGUE",
    "WHITE_UP_POINTING_BACKHAND_INDEX WHITE_DOWN_POINTING_BACKHAND_INDEX",
    "WHITE_LEFT_POINTING_BACKHAND_INDEX WHITE_RIGHT_POINTING_BACKHAND_INDEX FISTED_HAND_SIGN",
    "WAVING_HAND_SIGN OK_HAND_SIGN THUMBS_UP_SIGN THUMBS_DOWN_SIGN CLAPPING_HANDS_SIGN",
    "OPEN_HANDS_SIGN CROWN WOMANS_HAT EYEGLASSES NECKTIE T-SHIRT JEANS DRESS KIMONO BIKINI",
    "WOMANS_CLOTHES PURSE HANDBAG POUCH MANS_SHOE ATHLETIC_SHOE HIGH-HEELED_SHOE WOMANS_SANDAL",
    "WOMANS_BOOTS FOOTPRINTS BUST_IN_SILHOUETTE BUSTS_IN_SILHOUETTE BOY GIRL MAN WOMAN FAMILY",
    "MAN_AND_WOMAN_HOLDING_HANDS TWO_MEN_HOLDING_HANDS TWO_WOMEN_HOLDING_HANDS POLICE_OFFICER",
    "WOMAN_WITH_BUNNY_EARS BRIDE_WITH_VEIL PERSON_WITH_BLOND_HAIR MAN_WITH_GUA_PI_MAO",
    "MAN_WITH_TURBAN OLDER_MAN OLDER_WOMAN BABY CONSTRUCTION_WORKER PRINCESS JAPANESE_OGRE",
    "JAPANESE_GOBLIN GHOST BABY_ANGEL EXTRATERRESTRIAL_ALIEN ALIEN_MONSTER IMP SKULL",
    "INFORMATION_DESK_PERSON GUARDSMAN DANCER LIPSTICK NAIL_POLISH FACE_MASSAGE HAIRCUT",
    "BARBER_POLE SYRINGE PILL KISS_MARK LOVE_LETTER RING GEM_STONE KISS BOUQUET",
    "COUPLE_WITH_HEART WEDDING BEATING_HEART BROKEN_HEART TWO_HEARTS SPARKLING_HEART",
    "GROWING_HEART HEART_WITH_ARROW BLUE_HEART GREEN_HEART YELLOW_HEART PURPLE_HEART",
    "HEART_WITH_RIBBON REVOLVING_HEARTS HEART_DECORATION DIAMOND_SHAPE_WITH_A_DOT_INSIDE",
    "ELECTRIC_LIGHT_BULB ANGER_SYMBOL BOMB SLEEPING_SYMBOL COLLISION_SYMBOL",
    "SPLASHING_SWEAT_SYMBOL DROPLET DASH_SYMBOL PILE_OF_POO FLEXED_BICEPS DIZZY_SYMBOL",
    "SPEECH_BALLOON THOUGHT_BALLOON WHITE_FLOWER HUNDRED_POINTS_SYMBOL MONEY_BAG",
    "CURRENCY_EXCHANGE HEAVY_DOLLAR_SIGN CREDIT_CARD BANKNOTE_WITH_YEN_SIGN",
    "BANKNOTE_WITH_DOLLAR_SIGN BANKNOTE_WITH_EURO_SIGN BANKNOTE_WITH_POUND_SIGN MONEY_WITH_WINGS",
    "CHART_WITH_UPWARDS_TREND_AND_YEN_SIGN SEAT PERSONAL_COMPUTER BRIEFCASE MINIDISC FLOPPY_DISK",
    "OPTICAL_DISC DVD FILE_FOLDER OPEN_FILE_FOLDER PAGE_WITH_CURL PAGE_FACING_UP CALENDAR",
    "TEAR-OFF_CALENDAR CARD_INDEX CHART_WITH_UPWARDS_TREND CHART_WITH_DOWNWARDS_TREND BAR_CHART",
    "CLIPBOARD PUSHPIN ROUND_PUSHPIN PAPERCLIP STRAIGHT_RULER TRIANGULAR_RULER BOOKMARK_TABS",
    "LEDGER NOTEBOOK NOTEBOOK_WITH_DECORATIVE_COVER CLOSED_BOOK OPEN_BOOK GREEN_BOOK BLUE_BOOK",
    "ORANGE_BOOK BOOKS NAME_BADGE SCROLL MEMO TELEPHONE_RECEIVER PAGER FAX_MACHINE",
    "SATELLITE_ANTENNA PUBLIC_ADDRESS_LOUDSPEAKER CHEERING_MEGAPHONE OUTBOX_TRAY INBOX_TRAY",
    "PACKAGE E-MAIL_SYMBOL INCOMING_ENVELOPE ENVELOPE_WITH_DOWNWARDS_ARROW_ABOVE",
    "CLOSED_MAILBOX_WITH_LOWERED_FLAG CLOSED_MAILBOX_WITH_RAISED_FLAG",
    "OPEN_MAILBOX_WITH_RAISED_FLAG OPEN_MAILBOX_WITH_LOWERED_FLAG POSTBOX POSTAL_HORN NEWSPAPER",
    "MOBILE_PHONE MOBILE_PHONE_WITH_RIGHTWARDS_ARROW_AT_LEFT VIBRATION_MODE MOBILE_PHONE_OFF",
    "NO_MOBILE_PHONES ANTENNA_WITH_BARS CAMERA CAMERA_WITH_FLASH VIDEO_CAMERA TELEVISION RADIO",
    "VIDEOCASSETTE FILM_PROJECTOR PORTABLE_STEREO PRAYER_BEADS TWISTED_RIGHTWARDS_ARROWS"]⟩,
   ⟨0x1f501, "CLOCKWISE_RIGHTWARDS_AND_LEFTWARDS_OPEN_CIRCLE_", ["ARROWS",
    "ARROWS_WITH_CIRCLED_ONE_OVERLAY"]⟩,
   ⟨0x1f503, "", ["CLOCKWISE_DOWNWARDS_AND_UPWARDS_OPEN_CIRCLE_ARROWS",
    "ANTICLOCKWISE_DOWNWARDS_AND_UPWARDS_OPEN_CIRCLE_ARROWS LOW_BRIGHTNESS_SYMBOL",
    "HIGH_BRIGHTNESS_SYMBOL SPEAKER_WITH_CANCELLATION_STROKE SPEAKER SPEAKER_WITH_ONE_SOUND_WAVE",
    "SPEAKER_WITH_THREE_SOUND_WAVES BATTERY ELECTRIC_PLUG LEFT-POINTING_MAGNIFYING_GLASS",
    "RIGHT-POINTING_MAGNIFYING_GLASS LOCK_WITH_INK_PEN CLOSED_LOCK_WITH_KEY KEY LOCK OPEN_LOCK",
    "BELL BELL_WITH_CANCELLATION_STROKE BOOKMARK LINK_SYMBOL RADIO_BUTTON",
    "BACK_WITH_LEFTWARDS_ARROW_ABOVE END_WITH_LEFTWARDS_ARROW_ABOVE",
    "ON_WITH_EXCLAMATION_MARK_WITH_LEFT_RIGHT_ARROW_ABOVE SOON_WITH_RIGHTWARDS_ARROW_ABOVE",
    "TOP_WITH_UPWARDS_ARROW_ABOVE NO_ONE_UNDER_EIGHTEEN_SYMBOL KEYCAP_TEN"]⟩,
   ⟨0x1f520, "INPUT_SYMBOL_FOR_", ["LATIN_CAPITAL_LETTERS LATIN_SMALL_LETTERS NUMBERS SYMBOLS",
    "LATIN_LETTERS"]⟩,
   ⟨0x1f525, "", ["FIRE ELECTRIC_TORCH WRENCH HAMMER NUT_AND_BOLT HOCHO PISTOL MICROSCOPE",
    "TELESCOPE CRYSTAL_BALL SIX_POINTED_STAR_WITH_MIDDLE_DOT JAPANESE_SYMBOL_FOR_BEGINNER",
    "TRIDENT_EMBLEM BLACK_SQUARE_BUTTON WHITE_SQUARE_BUTTON LARGE_RED_CIRCLE LARGE_BLUE_CIRCLE",
    "LARGE_ORANGE_DIAMOND LARGE_BLUE_DIAMOND SMALL_ORANGE_DIAMOND SMALL_BLUE_DIAMOND",
    "UP-POINTING_RED_TRIANGLE DOWN-POINTING_RED_TRIANGLE UP-POINTING_SMALL_RED_TRIANGLE",
    "DOWN-POINTING_SMALL_RED_TRIANGLE LOWER_RIGHT_SHADOWED_WHITE_CIRCLE",
    "UPPER_RIGHT_SHADOWED_WHITE_CIRCLE CIRCLED_CROSS_POMMEE CROSS_POMMEE_WITH_HALF-CIRCLE_BELOW",
    "CROSS_POMMEE NOTCHED_LEFT_SEMICIRCLE_WITH_THREE_DOTS",
    "NOTCHED_RIGHT_SEMICIRCLE_WITH_THREE_DOTS SYMBOL_FOR_MARKS_CHAPTER WHITE_LATIN_CROSS",
    "HEAVY_LATIN_CROSS CELTIC_CROSS OM_SYMBOL DOVE_OF_PEACE KAABA MOSQUE SYNAGOGUE",
    "MENORAH_WITH_NINE_BRANCHES BOWL_OF_HYGIEIA"]⟩,
   ⟨0x1f550, "CLOCK_FACE_", ["ONE_OCLOCK TWO_OCLOCK THREE_OCLOCK FOUR_OCLOCK FIVE_OCLOCK",
    "SIX_OCLOCK SEVEN_OCLOCK EIGHT_OCLOCK NINE_OCLOCK TEN_OCLOCK ELEVEN_OCLOCK TWELVE_OCLOCK",
    "ONE-THIRTY TWO-THIRTY THREE-THIRTY FOUR-THIRTY FIVE-THIRTY SIX-THIRTY SEVEN-THIRTY",
    "EIGHT-THIRTY NINE-THIRTY TEN-THIRTY ELEVEN-THIRTY TWELVE-THIRTY"]⟩,
   ⟨0x1f568, "", ["RIGHT_SPEAKER RIGHT_SPEAKER_WITH_ONE_SOUND_WAVE",
    "RIGHT_SPEAKER_WITH_THREE_SOUND_WAVES BULLHORN BULLHORN_WITH_SOUND_WAVES RINGING_BELL BOOK",
    "CANDLE MANTELPIECE_CLOCK BLACK_SKULL_AND_CROSSBONES NO_PIRACY HOLE",
    "MAN_IN_BUSINESS_SUIT_LEVITATING SLEUTH_OR_SPY DARK_SUNGLASSES SPIDER SPIDER_WEB JOYSTICK",
    "MAN_DANCING LEFT_HAND_TELEPHONE_RECEIVER TELEPHONE_RECEIVER_WITH_PAGE",
    "RIGHT_HAND_TELEPHONE_RECEIVER WHITE_TOUCHTONE_TELEPHONE BLACK_TOUCHTONE_TELEPHONE",
    "TELEPHONE_ON_TOP_OF_MODEM CLAMSHELL_MOBILE_PHONE BACK_OF_ENVELOPE STAMPED_ENVELOPE",
    "ENVELOPE_WITH_LIGHTNING FLYING_ENVELOPE PEN_OVER_STAMPED_ENVELOPE LINKED_PAPERCLIPS",
    "BLACK_PUSHPIN LOWER_LEFT_PENCIL LOWER_LEFT_BALLPOINT_PEN LOWER_LEFT_FOUNTAIN_PEN",
    "LOWER_LEFT_PAINTBRUSH LOWER_LEFT_CRAYON LEFT_WRITING_HAND TURNED_OK_HAND_SIGN",
    "RAISED_HAND_WITH_FINGERS_SPLAYED REVERSED_RAISED_HAND_WITH_FINGERS_SPLAYED",
    "REVERSED_THUMBS_UP_SIGN REVERSED_THUMBS_DOWN_SIGN REVERSED_VICTORY_HAND",
    "REVERSED_HAND_WITH_MIDDLE_FINGER_EXTENDED",
    "RAISED_HAND_WITH_PART_BETWEEN_MIDDLE_AND_RING_FINGERS WHITE_DOWN_POINTING_LEFT_HAND_INDEX",
    "SIDEWAYS_WHITE_LEFT_POINTING_INDEX SIDEWAYS_WHITE_RIGHT_POINTING_INDEX",
    "SIDEWAYS_BLACK_LEFT_POINTING_INDEX SIDEWAYS_BLACK_RIGHT_POINTING_INDEX",
    "BLACK_LEFT_POINTING_BACKHAND_INDEX BLACK_RIGHT_POINTING_BACKHAND_INDEX",
    "SIDEWAYS_WHITE_UP_POINTING_INDEX SIDEWAYS_WHITE_DOWN_POINTING_INDEX",
    "SIDEWAYS_BLACK_UP_POINTING_INDEX SIDEWAYS_BLACK_DOWN_POINTING_INDEX",
    "BLACK_UP_POINTING_BACKHAND_INDEX BLACK_DOWN_POINTING_BACKHAND_INDEX BLACK_HEART",
    "DESKTOP_COMPUTER KEYBOARD_AND_MOUSE THREE_NETWORKED_COMPUTERS PRINTER POCKET_CALCULATOR",
    "BLACK_HARD_SHELL_FLOPPY_DISK WHITE_HARD_SHELL_FLOPPY_DISK SOFT_SHELL_FLOPPY_DISK",
    "TAPE_CARTRIDGE WIRED_KEYBOARD ONE_BUTTON_MOUSE TWO_BUTTON_MOUSE THREE_BUTTON_MOUSE",
    "TRACKBALL OLD_PERSONAL_COMPUTER HARD_DISK SCREEN PRINTER_ICON FAX_ICON OPTICAL_DISC_ICON",
    "DOCUMENT_WITH_TEXT DOCUMENT_WITH_TEXT_AND_PICTURE DOCUMENT_WITH_PICTURE FRAME_WITH_PICTURE",
    "FRAME_WITH_TILES FRAME_WITH_AN_X BLACK_FOLDER FOLDER OPEN_FOLDER CARD_INDEX_DIVIDERS",
    "CARD_FILE_BOX FILE_CABINET EMPTY_NOTE EMPTY_NOTE_PAGE EMPTY_NOTE_PAD NOTE NOTE_PAGE",
    "NOTE_PAD EMPTY_DOCUMENT EMPTY_PAGE EMPTY_PAGES DOCUMENT PAGE PAGES WASTEBASKET",
    "SPIRAL_NOTE_PAD SPIRAL_CALENDAR_PAD DESKTOP_WINDOW MINIMIZE MAXIMIZE OVERLAP",
    "CLOCKWISE_RIGHT_AND_LEFT_SEMICIRCLE_ARROWS CANCELLATION_X INCREASE_FONT_SIZE_SYMBOL",
    "DECREASE_FONT_SIZE_SYMBOL COMPRESSION OLD_KEY ROLLED-UP_NEWSPAPER PAGE_WITH_CIRCLED_TEXT",
    "STOCK_CHART DAGGER_KNIFE LIPS SPEAKING_HEAD_IN_SILHOUETTE THREE_RAYS_ABOVE THREE_RAYS_BELOW",
    "THREE_RAYS_LEFT THREE_RAYS_RIGHT LEFT_SPEECH_BUBBLE RIGHT_SPEECH_BUBBLE TWO_SPEECH_BUBBLES",
    "THREE_SPEECH_BUBBLES LEFT_THOUGHT_BUBBLE RIGHT_THOUGHT_BUBBLE LEFT_ANGER_BUBBLE",
    "RIGHT_ANGER_BUBBLE MOOD_BUBBLE LIGHTNING_MOOD_BUBBLE LIGHTNING_MOOD BALLOT_BOX_WITH_BALLOT",
    "BALLOT_SCRIPT_X BALLOT_BOX_WITH_SCRIPT_X BALLOT_BOLD_SCRIPT_X BALLOT_BOX_WITH_BOLD_SCRIPT_X",
    "LIGHT_CHECK_MARK BALLOT_BOX_WITH_BOLD_CHECK WORLD_MAP MOUNT_FUJI TOKYO_TOWER",
    "STATUE_OF_LIBERTY SILHOUETTE_OF_JAPAN MOYAI GRINNING_FACE GRINNING_FACE_WITH_SMILING_EYES",
    "FACE_WITH_TEARS_OF_JOY"]⟩,
   ⟨0x1f603, "SMILING_FACE_WITH_", ["OPEN_MOUTH OPEN_MOUTH_AND_SMILING_EYES",
    "OPEN_MOUTH_AND_COLD_SWEAT OPEN_MOUTH_AND_TIGHTLY-CLOSED_EYES HALO HORNS"]⟩,
   ⟨0x1f609, "", ["WINKING_FACE SMILING_FACE_WITH_SMILING_EYES FACE_SAVOURING_DELICIOUS_FOOD",
    "RELIEVED_FACE SMILING_FACE_WITH_HEART-SHAPED_EYES SMILING_FACE_WITH_SUNGLASSES",
    "SMIRKING_FACE NEUTRAL_FACE EXPRESSIONLESS_FACE UNAMUSED_FACE FACE_WITH_COLD_SWEAT",
    "PENSIVE_FACE CONFUSED_FACE CONFOUNDED_FACE KISSING_FACE FACE_THROWING_A_KISS",
    "KISSING_FACE_WITH_SMILING_EYES KISSING_FACE_WITH_CLOSED_EYES FACE_WITH_STUCK-OUT_TONGUE",
    "FACE_WITH_STUCK-OUT_TONGUE_AND_WINKING_EYE",
    "FACE_WITH_STUCK-OUT_TONGUE_AND_TIGHTLY-CLOSED_EYES DISAPPOINTED_FACE WORRIED_FACE",
    "ANGRY_FACE POUTING_FACE CRYING_FACE PERSEVERING_FACE FACE_WITH_LOOK_OF_TRIUMPH",
    "DISAPPOINTED_BUT_RELIEVED_FACE FROWNING_FACE_WITH_OPEN_MOUTH ANGUISHED_FACE FEARFUL_FACE",
    "WEARY_FACE SLEEPY_FACE TIRED_FACE GRIMACING_FACE LOUDLY_CRYING_FACE FACE_WITH_OPEN_MOUTH",
    "HUSHED_FACE FACE_WITH_OPEN_MOUTH_AND_COLD_SWEAT FACE_SCREAMING_IN_FEAR ASTONISHED_FACE",
    "FLUSHED_FACE SLEEPING_FACE DIZZY_FACE FACE_WITHOUT_MOUTH FACE_WITH_MEDICAL_MASK",
    "GRINNING_CAT_FACE_WITH_SMILING_EYES CAT_FACE_WITH_TEARS_OF_JOY",
    "SMILING_CAT_FACE_WITH_OPEN_MOUTH SMILING_CAT_FACE_WITH_HEART-SHAPED_EYES",
    "CAT_FACE_WITH_WRY_SMILE KISSING_CAT_FACE_WITH_CLOSED_EYES POUTING_CAT_FACE CRYING_CAT_FACE",
    "WEARY_CAT_FACE SLIGHTLY_FROWNING_FACE SLIGHTLY_SMILING_FACE UPSIDE-DOWN_FACE",
    "FACE_WITH_ROLLING_EYES FACE_WITH_NO_GOOD_GESTURE FACE_WITH_OK_GESTURE PERSON_BOWING_DEEPLY",
    "SEE-NO-EVIL_MONKEY HEAR-NO-EVIL_MONKEY SPEAK-NO-EVIL_MONKEY HAPPY_PERSON_RAISING_ONE_HAND",
    "PERSON_RAISING_BOTH_HANDS_IN_CELEBRATION PERSON_FROWNING PERSON_WITH_POUTING_FACE",
    "PERSON_WITH_FOLDED_HANDS NORTH_WEST_POINTING_LEAF SOUTH_WEST_POINTING_LEAF",
    "NORTH_EAST_POINTING_LEAF SOUTH_EAST_POINTING_LEAF TURNED_NORTH_WEST_POINTING_LEAF",
    "TURNED_SOUTH_WEST_POINTING_LEAF TURNED_NORTH_EAST_POINTING_LEAF",
    "TURNED_SOUTH_EAST_POINTING_LEAF NORTH_WEST_POINTING_VINE_LEAF SOUTH_WEST_POINTING_VINE_LEAF",
    "NORTH_EAST_POINTING_VINE_LEAF SOUTH_EAST_POINTING_VINE_LEAF",
    "HEAVY_NORTH_WEST_POINTING_VINE_LEAF HEAVY_SOUTH_WEST_POINTING_VINE_LEAF",
    "HEAVY_NORTH_EAST_POINTING_VINE_LEAF HEAVY_SOUTH_EAST_POINTING_VINE_LEAF",
    "NORTH_WEST_POINTING_BUD SOUTH_WEST_POINTING_BUD NORTH_EAST_POINTING_BUD",
    "SOUTH_EAST_POINTING_BUD HEAVY_NORTH_WEST_POINTING_BUD HEAVY_SOUTH_WEST_POINTING_BUD",
    "HEAVY_NORTH_EAST_POINTING_BUD HEAVY_SOUTH_EAST_POINTING_BUD HOLLOW_QUILT_SQUARE_ORNAMENT",
    "HOLLOW_QUILT_SQUARE_ORNAMENT_IN_BLACK_SQUARE SOLID_QUILT_SQUARE_ORNAMENT",
    "SOLID_QUILT_SQUARE_ORNAMENT_IN_BLACK_SQUARE LEFTWARDS_ROCKET UPWARDS_ROCKET",
    "RIGHTWARDS_ROCKET DOWNWARDS_ROCKET SCRIPT_LIGATURE_ET_ORNAMENT",
    "HEAVY_SCRIPT_LIGATURE_ET_ORNAMENT LIGATURE_OPEN_ET_ORNAMENT HEAVY_LIGATURE_OPEN_ET_ORNAMENT",
    "HEAVY_AMPERSAND_ORNAMENT SWASH_AMPERSAND_ORNAMENT",
    "SANS-SERIF_HEAVY_DOUBLE_TURNED_COMMA_QUOTATION_MARK_ORNAMENT",
    "SANS-SERIF_HEAVY_DOUBLE_COMMA_QUOTATION_MARK_ORNAMENT",
    "SANS-SERIF_HEAVY_LOW_DOUBLE_COMMA_QUOTATION_MARK_ORNAMENT HEAVY_INTERROBANG_ORNAMENT",
    "SANS-SERIF_INTERROBANG_ORNAMENT HEAVY_SANS-SERIF_INTERROBANG_ORNAMENT VERY_HEAVY_SOLIDUS",
    "VERY_HEAVY_REVERSE_SOLIDUS CHECKER_BOARD REVERSE_CHECKER_BOARD ROCKET HELICOPTER",
    "STEAM_LOCOMOTIVE RAILWAY_CAR HIGH-SPEED_TRAIN HIGH-SPEED_TRAIN_WITH_BULLET_NOSE TRAIN METRO",
    "LIGHT_RAIL STATION TRAM TRAM_CAR BUS ONCOMING_BUS TROLLEYBUS BUS_STOP MINIBUS AMBULANCE",
    "FIRE_ENGINE POLICE_CAR ONCOMING_POLICE_CAR TAXI ONCOMING_TAXI AUTOMOBILE",
    "ONCOMING_AUTOMOBILE RECREATIONAL_VEHICLE DELIVERY_TRUCK ARTICULATED_LORRY TRACTOR MONORAIL",
    "MOUNTAIN_RAILWAY SUSPENSION_RAILWAY MOUNTAIN_CABLEWAY AERIAL_TRAMWAY SHIP ROWBOAT SPEEDBOAT",
    "HORIZONTAL_TRAFFIC_LIGHT VERTICAL_TRAFFIC_LIGHT CONSTRUCTION_SIGN",
    "POLICE_CARS_REVOLVING_LIGHT TRIANGULAR_FLAG_ON_POST DOOR NO_ENTRY_SIGN SMOKING_SYMBOL",
    "NO_SMOKING_SYMBOL PUT_LITTER_IN_ITS_PLACE_SYMBOL DO_NOT_LITTER_SYMBOL POTABLE_WATER_SYMBOL",
    "NON-POTABLE_WATER_SYMBOL BICYCLE NO_BICYCLES BICYCLIST MOUNTAIN_BICYCLIST PEDESTRIAN",
    "NO_PEDESTRIANS CHILDREN_CROSSING MENS_SYMBOL WOMENS_SYMBOL RESTROOM BABY_SYMBOL TOILET",
    "WATER_CLOSET SHOWER BATH BATHTUB PASSPORT_CONTROL CUSTOMS BAGGAGE_CLAIM LEFT_LUGGAGE",
    "TRIANGLE_WITH_ROUNDED_CORNERS PROHIBITED_SIGN CIRCLED_INFORMATION_SOURCE BOYS_SYMBOL",
    "GIRLS_SYMBOL COUCH_AND_LAMP SLEEPING_ACCOMMODATION SHOPPING_BAGS BELLHOP_BELL BED",
    "PLACE_OF_WORSHIP OCTAGONAL_SIGN SHOPPING_TROLLEY STUPA PAGODA HINDU_TEMPLE HUT ELEVATOR � �",
    "� � � PLAYGROUND_SLIDE WHEEL RING_BUOY HAMMER_AND_WRENCH SHIELD OIL_DRUM MOTORWAY",
    "RAILWAY_TRACK MOTOR_BOAT UP-POINTING_MILITARY_AIRPLANE UP-POINTING_AIRPLANE",
    "UP-POINTING_SMALL_AIRPLANE SMALL_AIRPLANE NORTHEAST-POINTING_AIRPLANE AIRPLANE_DEPARTURE",
    "AIRPLANE_ARRIVING � � � SATELLITE ONCOMING_FIRE_ENGINE DIESEL_LOCOMOTIVE PASSENGER_SHIP",
    "SCOOTER MOTOR_SCOOTER CANOE SLED FLYING_SAUCER SKATEBOARD AUTO_RICKSHAW PICKUP_TRUCK",
    "ROLLER_SKATE"]⟩,
   ⟨0x1f900, "CIRCLED_CROSS_", ["FORMEE_WITH_FOUR_DOTS FORMEE_WITH_TWO_DOTS FORMEE"]⟩,
   ⟨0x1f903, "LEFT_HALF_CIRCLE_WITH_", ["FOUR_DOTS THREE_DOTS TWO_DOTS DOT"]⟩,
   ⟨0x1f907, "LEFT_HALF_", ["CIRCLE"]⟩,
   ⟨0x1f908, "DOWNWARD_FACING_", ["HOOK NOTCHED_HOOK HOOK_WITH_DOT NOTCHED_HOOK_WITH_DOT"]⟩,
   ⟨0x1f90c, "", ["PINCHED_FINGERS WHITE_HEART BROWN_HEART PINCHING_HAND ZIPPER-MOUTH_FACE",
    "MONEY-MOUTH_FACE FACE_WITH_THERMOMETER NERD_FACE THINKING_FACE FACE_WITH_HEAD-BANDAGE",
    "ROBOT_FACE HUGGING_FACE SIGN_OF_THE_HORNS CALL_ME_HAND RAISED_BACK_OF_HAND LEFT-FACING_FIST",
    "RIGHT-FACING_FIST HANDSHAKE HAND_WITH_INDEX_AND_MIDDLE_FINGERS_CROSSED I_LOVE_YOU_HAND_SIGN",
    "FACE_WITH_COWBOY_HAT CLOWN_FACE NAUSEATED_FACE ROLLING_ON_THE_FLOOR_LAUGHING DROOLING_FACE",
    "LYING_FACE FACE_PALM SNEEZING_FACE FACE_WITH_ONE_EYEBROW_RAISED",
    "GRINNING_FACE_WITH_STAR_EYES GRINNING_FACE_WITH_ONE_LARGE_AND_ONE_SMALL_EYE",
    "FACE_WITH_FINGER_COVERING_CLOSED_LIPS SERIOUS_FACE_WITH_SYMBOLS_COVERING_MOUTH",
    "SMILING_FACE_WITH_SMILING_EYES_AND_HAND_COVERING_MOUTH FACE_WITH_OPEN_MOUTH_VOMITING",
    "SHOCKED_FACE_WITH_EXPLODING_HEAD PREGNANT_WOMAN BREAST-FEEDING PALMS_UP_TOGETHER SELFIE",
    "PRINCE MAN_IN_TUXEDO MOTHER_CHRISTMAS SHRUG PERSON_DOING_CARTWHEEL JUGGLING FENCER",
    "MODERN_PENTATHLON WRESTLERS WATER_POLO HANDBALL DIVING_MASK WILTED_FLOWER",
    "DRUM_WITH_DRUMSTICKS CLINKING_GLASSES TUMBLER_GLASS SPOON GOAL_NET RIFLE FIRST_PLACE_MEDAL",
    "SECOND_PLACE_MEDAL THIRD_PLACE_MEDAL BOXING_GLOVE MARTIAL_ARTS_UNIFORM CURLING_STONE",
    "LACROSSE_STICK_AND_BALL SOFTBALL FLYING_DISC CROISSANT AVOCADO CUCUMBER BACON POTATO CARROT",
    "BAGUETTE_BREAD GREEN_SALAD SHALLOW_PAN_OF_FOOD STUFFED_FLATBREAD EGG GLASS_OF_MILK PEANUTS",
    "KIWIFRUIT PANCAKES DUMPLING FORTUNE_COOKIE TAKEOUT_BOX CHOPSTICKS BOWL_WITH_SPOON",
    "CUP_WITH_STRAW COCONUT BROCCOLI PIE PRETZEL CUT_OF_MEAT SANDWICH CANNED_FOOD LEAFY_GREEN",
    "MANGO MOON_CAKE BAGEL SMILING_FACE_WITH_SMILING_EYES_AND_THREE_HEARTS YAWNING_FACE",
    "SMILING_FACE_WITH_TEAR FACE_WITH_PARTY_HORN_AND_PARTY_HAT",
    "FACE_WITH_UNEVEN_EYES_AND_WAVY_MOUTH OVERHEATED_FACE FREEZING_FACE NINJA DISGUISED_FACE",
    "FACE_HOLDING_BACK_TEARS FACE_WITH_PLEADING_EYES SARI LAB_COAT GOGGLES HIKING_BOOT FLAT_SHOE",
    "CRAB LION_FACE SCORPION TURKEY UNICORN_FACE EAGLE DUCK BAT SHARK OWL FOX_FACE BUTTERFLY",
    "DEER GORILLA LIZARD RHINOCEROS SHRIMP SQUID GIRAFFE_FACE ZEBRA_FACE HEDGEHOG SAUROPOD T-REX",
    "CRICKET KANGAROO LLAMA PEACOCK HIPPOPOTAMUS PARROT RACCOON LOBSTER MOSQUITO MICROBE BADGER",
    "SWAN MAMMOTH DODO SLOTH OTTER ORANGUTAN SKUNK FLAMINGO OYSTER BEAVER BISON SEAL GUIDE_DOG",
    "PROBING_CANE"]⟩,
   ⟨0x1f9b0, "EMOJI_COMPONENT_", ["RED_HAIR CURLY_HAIR BALD WHITE_HAIR"]⟩,
   ⟨0x1f9b4, "", ["BONE LEG FOOT TOOTH SUPERHERO SUPERVILLAIN SAFETY_VEST EAR_WITH_HEARING_AID",
    "MOTORIZED_WHEELCHAIR MANUAL_WHEELCHAIR MECHANICAL_ARM MECHANICAL_LEG CHEESE_WEDGE CUPCAKE",
    "SALT_SHAKER BEVERAGE_BOX GARLIC ONION FALAFEL WAFFLE BUTTER MATE_DRINK ICE_CUBE BUBBLE_TEA",
    "TROLL STANDING_PERSON KNEELING_PERSON DEAF_PERSON FACE_WITH_MONOCLE ADULT CHILD OLDER_ADULT",
    "BEARDED_PERSON PERSON_WITH_HEADSCARF PERSON_IN_STEAMY_ROOM PERSON_CLIMBING",
    "PERSON_IN_LOTUS_POSITION MAGE FAIRY VAMPIRE MERPERSON ELF GENIE ZOMBIE BRAIN ORANGE_HEART",
    "BILLED_CAP SCARF GLOVES COAT SOCKS RED_GIFT_ENVELOPE FIRECRACKER JIGSAW_PUZZLE_PIECE",
    "TEST_TUBE PETRI_DISH DNA_DOUBLE_HELIX COMPASS ABACUS FIRE_EXTINGUISHER TOOLBOX BRICK MAGNET",
    "LUGGAGE LOTION_BOTTLE SPOOL_OF_THREAD BALL_OF_YARN SAFETY_PIN TEDDY_BEAR BROOM BASKET",
    "ROLL_OF_PAPER BAR_OF_SOAP SPONGE RECEIPT NAZAR_AMULET"]⟩,
   ⟨0x1fa00, "NEUTRAL_CHESS_", ["KING QUEEN ROOK BISHOP KNIGHT PAWN"]⟩,
   ⟨0x1fa06, "", ["WHITE_CHESS_KNIGHT_ROTATED_FORTY-FIVE_DEGREES",
    "BLACK_CHESS_KNIGHT_ROTATED_FORTY-FIVE_DEGREES",
    "NEUTRAL_CHESS_KNIGHT_ROTATED_FORTY-FIVE_DEGREES"]⟩,
   ⟨0x1fa09, "WHITE_CHESS_", ["KING_ROTATED_NINETY_DEGREES QUEEN_ROTATED_NINETY_DEGREES",
    "ROOK_ROTATED_NINETY_DEGREES BISHOP_ROTATED_NINETY_DEGREES KNIGHT_ROTATED_NINETY_DEGREES",
    "PAWN_ROTATED_NINETY_DEGREES"]⟩,
   ⟨0x1fa0f, "BLACK_CHESS_", ["KING_ROTATED_NINETY_DEGREES QUEEN_ROTATED_NINETY_DEGREES",
    "ROOK_ROTATED_NINETY_DEGREES BISHOP_ROTATED_NINETY_DEGREES KNIGHT_ROTATED_NINETY_DEGREES",
    "PAWN_ROTATED_NINETY_DEGREES"]⟩,
   ⟨0x1fa15, "NEUTRAL_CHESS_", ["KING_ROTATED_NINETY_DEGREES QUEEN_ROTATED_NINETY_DEGREES",
    "ROOK_ROTATED_NINETY_DEGREES BISHOP_ROTATED_NINETY_DEGREES KNIGHT_ROTATED_NINETY_DEGREES",
    "PAWN_ROTATED_NINETY_DEGREES"]⟩,
   ⟨0x1fa1b, "", ["WHITE_CHESS_KNIGHT_ROTATED_ONE_HUNDRED_THIRTY-FIVE_DEGREES",
    "BLACK_CHESS_KNIGHT_ROTATED_ONE_HUNDRED_THIRTY-FIVE_DEGREES",
    "NEUTRAL_CHESS_KNIGHT_ROTATED_ONE_HUNDRED_THIRTY-FIVE_DEGREES"]⟩,
   ⟨0x1fa1e, "WHITE_CHESS_TURNED_", ["KING QUEEN ROOK BISHOP KNIGHT PAWN"]⟩,
   ⟨0x1fa24, "BLACK_CHESS_TURNED_", ["KING QUEEN ROOK BISHOP KNIGHT PAWN"]⟩,
   ⟨0x1fa2a, "NEUTRAL_CHESS_TURNED_", ["KING QUEEN ROOK BISHOP KNIGHT PAWN"]⟩,
   ⟨0x1fa30, "", ["WHITE_CHESS_KNIGHT_ROTATED_TWO_HUNDRED_TWENTY-FIVE_DEGREES",
    "BLACK_CHESS_KNIGHT_ROTATED_TWO_HUNDRED_TWENTY-FIVE_DEGREES",
    "NEUTRAL_CHESS_KNIGHT_ROTATED_TWO_HUNDRED_TWENTY-FIVE_DEGREES"]⟩,
   ⟨0x1fa33, "WHITE_CHESS_", ["KING_ROTATED_TWO_HUNDRED_SEVENTY_DEGREES",
    "QUEEN_ROTATED_TWO_HUNDRED_SEVENTY_DEGREES ROOK_ROTATED_TWO_HUNDRED_SEVENTY_DEGREES",
    "BISHOP_ROTATED_TWO_HUNDRED_SEVENTY_DEGREES KNIGHT_ROTATED_TWO_HUNDRED_SEVENTY_DEGREES",
    "PAWN_ROTATED_TWO_HUNDRED_SEVENTY_DEGREES"]⟩,
   ⟨0x1fa39, "BLACK_CHESS_", ["KING_ROTATED_TWO_HUNDRED_SEVENTY_DEGREES",
    "QUEEN_ROTATED_TWO_HUNDRED_SEVENTY_DEGREES ROOK_ROTATED_TWO_HUNDRED_SEVENTY_DEGREES",
    "BISHOP_ROTATED_TWO_HUNDRED_SEVENTY_DEGREES KNIGHT_ROTATED_TWO_HUNDRED_SEVENTY_DEGREES",
    "PAWN_ROTATED_TWO_HUNDRED_SEVENTY_DEGREES"]⟩,
   ⟨0x1fa3f, "NEUTRAL_CHESS_", ["KING_ROTATED_TWO_HUNDRED_SEVENTY_DEGREES",
    "QUEEN_ROTATED_TWO_HUNDRED_SEVENTY_DEGREES ROOK_ROTATED_TWO_HUNDRED_SEVENTY_DEGREES",
    "BISHOP_ROTATED_TWO_HUNDRED_SEVENTY_DEGREES KNIGHT_ROTATED_TWO_HUNDRED_SEVENTY_DEGREES",
    "PAWN_ROTATED_TWO_HUNDRED_SEVENTY_DEGREES"]⟩,
   ⟨0x1fa45, "", ["WHITE_CHESS_KNIGHT_ROTATED_THREE_HUNDRED_FIFTEEN_DEGREES",
    "BLACK_CHESS_KNIGHT_ROTATED_THREE_HUNDRED_FIFTEEN_DEGREES",
    "NEUTRAL_CHESS_KNIGHT_ROTATED_THREE_HUNDRED_FIFTEEN_DEGREES WHITE_CHESS_EQUIHOPPER",
    "BLACK_CHESS_EQUIHOPPER NEUTRAL_CHESS_EQUIHOPPER",
    "WHITE_CHESS_EQUIHOPPER_ROTATED_NINETY_DEGREES BLACK_CHESS_EQUIHOPPER_ROTATED_NINETY_DEGREES",
    "NEUTRAL_CHESS_EQUIHOPPER_ROTATED_NINETY_DEGREES"]⟩,
   ⟨0x1fa4e, "WHITE_CHESS_KNIGHT-", ["QUEEN ROOK BISHOP"]⟩,
   ⟨0x1fa51, "BLACK_CHESS_KNIGHT-", ["QUEEN ROOK BISHOP"]⟩,
   ⟨0x1fa60, "XIANGQI_RED_", ["GENERAL MANDARIN ELEPHANT HORSE CHARIOT CANNON SOLDIER"]⟩,
   ⟨0x1fa67, "XIANGQI_BLACK_", ["GENERAL MANDARIN ELEPHANT HORSE CHARIOT CANNON SOLDIER"]⟩,
   ⟨0x1fa70, "", ["BALLET_SHOES ONE-PIECE_SWIMSUIT BRIEFS SHORTS THONG_SANDAL � � �",
    "DROP_OF_BLOOD ADHESIVE_BANDAGE STETHOSCOPE X-RAY CRUTCH � � � YO-YO KITE PARACHUTE",
    "BOOMERANG MAGIC_WAND PINATA NESTING_DOLLS"]⟩,
   ⟨0x1fa90, "", ["RINGED_PLANET CHAIR RAZOR AXE DIYA_LAMP BANJO MILITARY_HELMET ACCORDION",
    "LONG_DRUM COIN CARPENTRY_SAW SCREWDRIVER LADDER HOOK MIRROR WINDOW PLUNGER SEWING_NEEDLE",
    "KNOT BUCKET MOUSE_TRAP TOOTHBRUSH HEADSTONE PLACARD ROCK MIRROR_BALL IDENTIFICATION_CARD",
    "LOW_BATTERY HAMSA � � � FLY WORM BEETLE COCKROACH POTTED_PLANT WOOD FEATHER LOTUS CORAL",
    "EMPTY_NEST NEST_WITH_EGGS � � � � � ANATOMICAL_HEART LUNGS PEOPLE_HUGGING PREGNANT_MAN",
    "PREGNANT_PERSON PERSON_WITH_CROWN"]⟩,
   ⟨0x1fad0, "", ["BLUEBERRIES BELL_PEPPER OLIVE FLATBREAD TAMALE FONDUE TEAPOT POURING_LIQUID",
    "BEANS JAR � � � � � � MELTING_FACE SALUTING_FACE FACE_WITH_OPEN_EYES_AND_HAND_OVER_MOUTH",
    "FACE_WITH_PEEKING_EYE FACE_WITH_DIAGONAL_MOUTH DOTTED_LINE_FACE BITING_LIP BUBBLES"]⟩,
   ⟨0x1faf0, "", ["HAND_WITH_INDEX_FINGER_AND_THUMB_CROSSED RIGHTWARDS_HAND LEFTWARDS_HAND",
    "PALM_DOWN_HAND PALM_UP_HAND INDEX_POINTING_AT_THE_VIEWER HEART_HANDS"]⟩]

end SqlRoutes.Text.Names
