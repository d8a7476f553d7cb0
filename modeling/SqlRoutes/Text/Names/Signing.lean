import SqlRoutes.Text.Names.Series

namespace SqlRoutes.Text.Names

def signing : List Series :=
  [⟨0x1d800, "SIGNWRITING_HAND-", ["FIST_INDEX CIRCLE_INDEX CUP_INDEX OVAL_INDEX HINGE_INDEX",
    "ANGLE_INDEX FIST_INDEX_BENT CIRCLE_INDEX_BENT FIST_THUMB_UNDER_INDEX_BENT",
    "FIST_INDEX_RAISED_KNUCKLE FIST_INDEX_CUPPED FIST_INDEX_HINGED FIST_INDEX_HINGED_LOW",
    "CIRCLE_INDEX_HINGE FIST_INDEX_MIDDLE CIRCLE_INDEX_MIDDLE"]⟩,
   ⟨0x1d810, "SIGNWRITING_HAND-FIST_INDEX_", ["MIDDLE_BENT MIDDLE_RAISED_KNUCKLES MIDDLE_HINGED",
    "UP_MIDDLE_HINGED HINGED_MIDDLE_UP MIDDLE_CONJOINED MIDDLE_CONJOINED_INDEX_BENT",
    "MIDDLE_CONJOINED_MIDDLE_BENT MIDDLE_CONJOINED_CUPPED MIDDLE_CONJOINED_HINGED MIDDLE_CROSSED"]⟩,
   ⟨0x1d81b, "SIGNWRITING_HAND-", ["CIRCLE_INDEX_MIDDLE_CROSSED FIST_MIDDLE_BENT_OVER_INDEX",
    "FIST_INDEX_BENT_OVER_MIDDLE FIST_INDEX_MIDDLE_THUMB CIRCLE_INDEX_MIDDLE_THUMB"]⟩,
   ⟨0x1d820, "SIGNWRITING_HAND-FIST_INDEX_", ["MIDDLE_STRAIGHT_THUMB_BENT",
    "MIDDLE_BENT_THUMB_STRAIGHT MIDDLE_THUMB_BENT MIDDLE_HINGED_SPREAD_THUMB_SIDE",
    "UP_MIDDLE_HINGED_THUMB_SIDE UP_MIDDLE_HINGED_THUMB_CONJOINED HINGED_MIDDLE_UP_THUMB_SIDE",
    "MIDDLE_UP_SPREAD_THUMB_FORWARD MIDDLE_THUMB_CUPPED MIDDLE_THUMB_CIRCLED MIDDLE_THUMB_HOOKED",
    "MIDDLE_THUMB_HINGED"]⟩,
   ⟨0x1d82c, "SIGNWRITING_HAND-FIST_", ["THUMB_BETWEEN_INDEX_MIDDLE_STRAIGHT",
    "INDEX_MIDDLE_CONJOINED_THUMB_SIDE INDEX_MIDDLE_CONJOINED_THUMB_SIDE_CONJOINED",
    "INDEX_MIDDLE_CONJOINED_THUMB_SIDE_BENT MIDDLE_THUMB_HOOKED_INDEX_UP",
    "INDEX_THUMB_HOOKED_MIDDLE_UP INDEX_MIDDLE_CONJOINED_HINGED_THUMB_SIDE",
    "INDEX_MIDDLE_CROSSED_THUMB_SIDE INDEX_MIDDLE_CONJOINED_THUMB_FORWARD",
    "INDEX_MIDDLE_CONJOINED_CUPPED_THUMB_FORWARD MIDDLE_THUMB_CUPPED_INDEX_UP",
    "INDEX_THUMB_CUPPED_MIDDLE_UP MIDDLE_THUMB_CIRCLED_INDEX_UP",
    "MIDDLE_THUMB_CIRCLED_INDEX_HINGED INDEX_THUMB_ANGLED_OUT_MIDDLE_UP",
    "INDEX_THUMB_ANGLED_IN_MIDDLE_UP INDEX_THUMB_CIRCLED_MIDDLE_UP",
    "INDEX_MIDDLE_THUMB_CONJOINED_HINGED INDEX_MIDDLE_THUMB_ANGLED_OUT INDEX_MIDDLE_THUMB_ANGLED",
    "MIDDLE_THUMB_ANGLED_OUT_INDEX_UP MIDDLE_THUMB_ANGLED_OUT_INDEX_CROSSED",
    "MIDDLE_THUMB_ANGLED_INDEX_UP INDEX_THUMB_HOOKED_MIDDLE_HINGED"]⟩,
   ⟨0x1d844, "SIGNWRITING_HAND-FLAT_FOUR_", ["FINGERS FINGERS_BENT FINGERS_HINGED",
    "FINGERS_CONJOINED FINGERS_CONJOINED_SPLIT"]⟩,
   ⟨0x1d849, "SIGNWRITING_HAND-", ["CLAW_FOUR_FINGERS_CONJOINED FIST_FOUR_FINGERS_CONJOINED_BENT",
    "HINGE_FOUR_FINGERS_CONJOINED FLAT_FIVE_FINGERS_SPREAD FLAT_HEEL_FIVE_FINGERS_SPREAD",
    "FLAT_FIVE_FINGERS_SPREAD_FOUR_BENT FLAT_HEEL_FIVE_FINGERS_SPREAD_FOUR_BENT",
    "FLAT_FIVE_FINGERS_SPREAD_BENT FLAT_HEEL_FIVE_FINGERS_SPREAD_BENT",
    "FLAT_FIVE_FINGERS_SPREAD_THUMB_FORWARD CUP_FIVE_FINGERS_SPREAD CUP_FIVE_FINGERS_SPREAD_OPEN",
    "HINGE_FIVE_FINGERS_SPREAD_OPEN OVAL_FIVE_FINGERS_SPREAD FLAT_FIVE_FINGERS_SPREAD_HINGED",
    "FLAT_FIVE_FINGERS_SPREAD_HINGED_THUMB_SIDE FLAT_FIVE_FINGERS_SPREAD_HINGED_NO_THUMB FLAT",
    "FLAT_BETWEEN_PALM_FACINGS FLAT_HEEL FLAT_THUMB_SIDE FLAT_HEEL_THUMB_SIDE FLAT_THUMB_BENT",
    "FLAT_THUMB_FORWARD FLAT_SPLIT_INDEX_THUMB_SIDE FLAT_SPLIT_CENTRE",
    "FLAT_SPLIT_CENTRE_THUMB_SIDE FLAT_SPLIT_CENTRE_THUMB_SIDE_BENT FLAT_SPLIT_LITTLE CLAW",
    "CLAW_THUMB_SIDE CLAW_NO_THUMB CLAW_THUMB_FORWARD HOOK_CURLICUE HOOK CUP_OPEN CUP",
    "CUP_OPEN_THUMB_SIDE CUP_THUMB_SIDE CUP_OPEN_NO_THUMB CUP_NO_THUMB CUP_OPEN_THUMB_FORWARD",
    "CUP_THUMB_FORWARD CURLICUE_OPEN CURLICUE CIRCLE OVAL OVAL_THUMB_SIDE OVAL_NO_THUMB",
    "OVAL_THUMB_FORWARD HINGE_OPEN HINGE_OPEN_THUMB_FORWARD HINGE HINGE_SMALL",
    "HINGE_OPEN_THUMB_SIDE HINGE_THUMB_SIDE HINGE_OPEN_NO_THUMB HINGE_NO_THUMB",
    "HINGE_THUMB_SIDE_TOUCHING_INDEX HINGE_THUMB_BETWEEN_MIDDLE_RING ANGLE",
    "FIST_INDEX_MIDDLE_RING CIRCLE_INDEX_MIDDLE_RING HINGE_INDEX_MIDDLE_RING",
    "ANGLE_INDEX_MIDDLE_RING HINGE_LITTLE FIST_INDEX_MIDDLE_RING_BENT",
    "FIST_INDEX_MIDDLE_RING_CONJOINED HINGE_INDEX_MIDDLE_RING_CONJOINED FIST_LITTLE_DOWN",
    "FIST_LITTLE_DOWN_RIPPLE_STRAIGHT FIST_LITTLE_DOWN_RIPPLE_CURVED",
    "FIST_LITTLE_DOWN_OTHERS_CIRCLED FIST_LITTLE_UP FIST_THUMB_UNDER_LITTLE_UP CIRCLE_LITTLE_UP",
    "OVAL_LITTLE_UP ANGLE_LITTLE_UP FIST_LITTLE_RAISED_KNUCKLE FIST_LITTLE_BENT",
    "FIST_LITTLE_TOUCHES_THUMB FIST_LITTLE_THUMB HINGE_LITTLE_THUMB FIST_LITTLE_INDEX_THUMB",
    "HINGE_LITTLE_INDEX_THUMB ANGLE_LITTLE_INDEX_THUMB_INDEX_THUMB_OUT",
    "ANGLE_LITTLE_INDEX_THUMB_INDEX_THUMB FIST_LITTLE_INDEX CIRCLE_LITTLE_INDEX",
    "HINGE_LITTLE_INDEX ANGLE_LITTLE_INDEX FIST_INDEX_MIDDLE_LITTLE CIRCLE_INDEX_MIDDLE_LITTLE",
    "HINGE_INDEX_MIDDLE_LITTLE HINGE_RING ANGLE_INDEX_MIDDLE_LITTLE",
    "FIST_INDEX_MIDDLE_CROSS_LITTLE CIRCLE_INDEX_MIDDLE_CROSS_LITTLE FIST_RING_DOWN",
    "HINGE_RING_DOWN_INDEX_THUMB_HOOK_MIDDLE ANGLE_RING_DOWN_MIDDLE_THUMB_INDEX_CROSS",
    "FIST_RING_UP FIST_RING_RAISED_KNUCKLE FIST_RING_LITTLE CIRCLE_RING_LITTLE OVAL_RING_LITTLE",
    "ANGLE_RING_LITTLE FIST_RING_MIDDLE FIST_RING_MIDDLE_CONJOINED",
    "FIST_RING_MIDDLE_RAISED_KNUCKLES FIST_RING_INDEX FIST_RING_THUMB HOOK_RING_THUMB",
    "FIST_INDEX_RING_LITTLE CIRCLE_INDEX_RING_LITTLE CURLICUE_INDEX_RING_LITTLE_ON",
    "HOOK_INDEX_RING_LITTLE_OUT HOOK_INDEX_RING_LITTLE_IN HOOK_INDEX_RING_LITTLE_UNDER",
    "CUP_INDEX_RING_LITTLE HINGE_INDEX_RING_LITTLE ANGLE_INDEX_RING_LITTLE_OUT",
    "ANGLE_INDEX_RING_LITTLE FIST_MIDDLE_DOWN HINGE_MIDDLE FIST_MIDDLE_UP CIRCLE_MIDDLE_UP",
    "FIST_MIDDLE_RAISED_KNUCKLE FIST_MIDDLE_UP_THUMB_SIDE HOOK_MIDDLE_THUMB",
    "FIST_MIDDLE_THUMB_LITTLE FIST_MIDDLE_LITTLE FIST_MIDDLE_RING_LITTLE",
    "CIRCLE_MIDDLE_RING_LITTLE CURLICUE_MIDDLE_RING_LITTLE_ON CUP_MIDDLE_RING_LITTLE",
    "HINGE_MIDDLE_RING_LITTLE ANGLE_MIDDLE_RING_LITTLE_OUT ANGLE_MIDDLE_RING_LITTLE_IN",
    "ANGLE_MIDDLE_RING_LITTLE CIRCLE_MIDDLE_RING_LITTLE_BENT CLAW_MIDDLE_RING_LITTLE_CONJOINED",
    "CLAW_MIDDLE_RING_LITTLE_CONJOINED_SIDE HOOK_MIDDLE_RING_LITTLE_CONJOINED_OUT",
    "HOOK_MIDDLE_RING_LITTLE_CONJOINED_IN HOOK_MIDDLE_RING_LITTLE_CONJOINED HINGE_INDEX_HINGED",
    "FIST_INDEX_THUMB_SIDE HINGE_INDEX_THUMB_SIDE"]⟩,
   ⟨0x1d8de, "SIGNWRITING_HAND-FIST_INDEX_THUMB_", ["SIDE_THUMB_DIAGONAL SIDE_THUMB_CONJOINED",
    "SIDE_THUMB_BENT SIDE_INDEX_BENT SIDE_BOTH_BENT SIDE_INDEX_HINGE FORWARD_INDEX_STRAIGHT",
    "FORWARD_INDEX_BENT HOOK CURLICUE CURVE_THUMB_INSIDE"]⟩,
   ⟨0x1d8e9, "SIGNWRITING_HAND-", ["CLAW_INDEX_THUMB_CURVE_THUMB_INSIDE",
    "FIST_INDEX_THUMB_CURVE_THUMB_UNDER FIST_INDEX_THUMB_CIRCLE CUP_INDEX_THUMB",
    "CUP_INDEX_THUMB_OPEN HINGE_INDEX_THUMB_OPEN HINGE_INDEX_THUMB_LARGE HINGE_INDEX_THUMB",
    "HINGE_INDEX_THUMB_SMALL ANGLE_INDEX_THUMB_OUT ANGLE_INDEX_THUMB_IN ANGLE_INDEX_THUMB",
    "FIST_THUMB"]⟩,
   ⟨0x1d8f6, "SIGNWRITING_HAND-FIST_THUMB_", ["HEEL SIDE_DIAGONAL SIDE_CONJOINED SIDE_BENT",
    "FORWARD BETWEEN_INDEX_MIDDLE BETWEEN_MIDDLE_RING BETWEEN_RING_LITTLE UNDER_TWO_FINGERS",
    "OVER_TWO_FINGERS UNDER_THREE_FINGERS UNDER_FOUR_FINGERS OVER_FOUR_RAISED_KNUCKLES"]⟩,
   ⟨0x1d903, "SIGNWRITING_", ["HAND-FIST HAND-FIST_HEEL TOUCH_SINGLE TOUCH_MULTIPLE",
    "TOUCH_BETWEEN GRASP_SINGLE GRASP_MULTIPLE GRASP_BETWEEN STRIKE_SINGLE STRIKE_MULTIPLE",
    "STRIKE_BETWEEN BRUSH_SINGLE BRUSH_MULTIPLE BRUSH_BETWEEN RUB_SINGLE RUB_MULTIPLE",
    "RUB_BETWEEN SURFACE_SYMBOLS SURFACE_BETWEEN SQUEEZE_LARGE_SINGLE SQUEEZE_SMALL_SINGLE",
    "SQUEEZE_LARGE_MULTIPLE SQUEEZE_SMALL_MULTIPLE SQUEEZE_SEQUENTIAL FLICK_LARGE_SINGLE",
    "FLICK_SMALL_SINGLE FLICK_LARGE_MULTIPLE FLICK_SMALL_MULTIPLE FLICK_SEQUENTIAL",
    "SQUEEZE_FLICK_ALTERNATING"]⟩,
   ⟨0x1d921, "SIGNWRITING_MOVEMENT-", ["HINGE_UP_DOWN_LARGE HINGE_UP_DOWN_SMALL",
    "HINGE_UP_SEQUENTIAL HINGE_DOWN_SEQUENTIAL HINGE_UP_DOWN_ALTERNATING_LARGE",
    "HINGE_UP_DOWN_ALTERNATING_SMALL HINGE_SIDE_TO_SIDE_SCISSORS WALLPLANE_FINGER_CONTACT",
    "FLOORPLANE_FINGER_CONTACT"]⟩,
   ⟨0x1d92a, "SIGNWRITING_MOVEMENT-WALLPLANE_", ["SINGLE_STRAIGHT_SMALL SINGLE_STRAIGHT_MEDIUM",
    "SINGLE_STRAIGHT_LARGE SINGLE_STRAIGHT_LARGEST SINGLE_WRIST_FLEX DOUBLE_STRAIGHT",
    "DOUBLE_WRIST_FLEX DOUBLE_ALTERNATING DOUBLE_ALTERNATING_WRIST_FLEX CROSS",
    "TRIPLE_STRAIGHT_MOVEMENT TRIPLE_WRIST_FLEX TRIPLE_ALTERNATING TRIPLE_ALTERNATING_WRIST_FLEX",
    "BEND_SMALL BEND_MEDIUM BEND_LARGE CORNER_SMALL CORNER_MEDIUM CORNER_LARGE CORNER_ROTATION",
    "CHECK_SMALL CHECK_MEDIUM CHECK_LARGE BOX_SMALL BOX_MEDIUM BOX_LARGE ZIGZAG_SMALL",
    "ZIGZAG_MEDIUM ZIGZAG_LARGE PEAKS_SMALL PEAKS_MEDIUM PEAKS_LARGE"]⟩,
   ⟨0x1d94b, "SIGNWRITING_TRAVEL-WALLPLANE_", ["ROTATION-WALLPLANE_SINGLE",
    "ROTATION-WALLPLANE_DOUBLE ROTATION-WALLPLANE_ALTERNATING ROTATION-FLOORPLANE_SINGLE",
    "ROTATION-FLOORPLANE_DOUBLE ROTATION-FLOORPLANE_ALTERNATING SHAKING ARM_SPIRAL_SINGLE",
    "ARM_SPIRAL_DOUBLE ARM_SPIRAL_TRIPLE"]⟩,
   ⟨0x1d955, "SIGNWRITING_MOVEMENT-DIAGONAL_", ["AWAY_SMALL AWAY_MEDIUM AWAY_LARGE AWAY_LARGEST",
    "TOWARDS_SMALL TOWARDS_MEDIUM TOWARDS_LARGE TOWARDS_LARGEST"]⟩,
   ⟨0x1d95d, "SIGNWRITING_MOVEMENT-DIAGONAL_BETWEEN_", ["AWAY_SMALL AWAY_MEDIUM AWAY_LARGE",
    "AWAY_LARGEST TOWARDS_SMALL TOWARDS_MEDIUM TOWARDS_LARGE TOWARDS_LARGEST"]⟩,
   ⟨0x1d965, "SIGNWRITING_MOVEMENT-FLOORPLANE_", ["SINGLE_STRAIGHT_SMALL SINGLE_STRAIGHT_MEDIUM",
    "SINGLE_STRAIGHT_LARGE SINGLE_STRAIGHT_LARGEST SINGLE_WRIST_FLEX DOUBLE_STRAIGHT",
    "DOUBLE_WRIST_FLEX DOUBLE_ALTERNATING DOUBLE_ALTERNATING_WRIST_FLEX CROSS",
    "TRIPLE_STRAIGHT_MOVEMENT TRIPLE_WRIST_FLEX TRIPLE_ALTERNATING_MOVEMENT",
    "TRIPLE_ALTERNATING_WRIST_FLEX BEND CORNER_SMALL CORNER_MEDIUM CORNER_LARGE CHECK BOX_SMALL",
    "BOX_MEDIUM BOX_LARGE ZIGZAG_SMALL ZIGZAG_MEDIUM ZIGZAG_LARGE PEAKS_SMALL PEAKS_MEDIUM",
    "PEAKS_LARGE"]⟩,
   ⟨0x1d981, "SIGNWRITING_TRAVEL-FLOORPLANE_", ["ROTATION-FLOORPLANE_SINGLE",
    "ROTATION-FLOORPLANE_DOUBLE ROTATION-FLOORPLANE_ALTERNATING ROTATION-WALLPLANE_SINGLE",
    "ROTATION-WALLPLANE_DOUBLE ROTATION-WALLPLANE_ALTERNATING SHAKING"]⟩,
   ⟨0x1d988, "SIGNWRITING_MOVEMENT-WALLPLANE_CURVE_", ["QUARTER_SMALL QUARTER_MEDIUM",
    "QUARTER_LARGE QUARTER_LARGEST HALF-CIRCLE_SMALL HALF-CIRCLE_MEDIUM HALF-CIRCLE_LARGE",
    "HALF-CIRCLE_LARGEST THREE-QUARTER_CIRCLE_SMALL THREE-QUARTER_CIRCLE_MEDIUM"]⟩,
   ⟨0x1d992, "SIGNWRITING_MOVEMENT-WALLPLANE_", ["HUMP_SMALL HUMP_MEDIUM HUMP_LARGE LOOP_SMALL",
    "LOOP_MEDIUM LOOP_LARGE LOOP_SMALL_DOUBLE WAVE_CURVE_DOUBLE_SMALL WAVE_CURVE_DOUBLE_MEDIUM",
    "WAVE_CURVE_DOUBLE_LARGE WAVE_CURVE_TRIPLE_SMALL WAVE_CURVE_TRIPLE_MEDIUM",
    "WAVE_CURVE_TRIPLE_LARGE CURVE_THEN_STRAIGHT CURVED_CROSS_SMALL CURVED_CROSS_MEDIUM"]⟩,
   ⟨0x1d9a2, "SIGNWRITING_ROTATION-WALLPLANE_", ["SINGLE DOUBLE ALTERNATE"]⟩,
   ⟨0x1d9a5, "SIGNWRITING_MOVEMENT-WALLPLANE_", ["SHAKING CURVE_HITTING_FRONT_WALL",
    "HUMP_HITTING_FRONT_WALL LOOP_HITTING_FRONT_WALL WAVE_HITTING_FRONT_WALL"]⟩,
   ⟨0x1d9aa, "SIGNWRITING_ROTATION-WALLPLANE_", ["SINGLE_HITTING_FRONT_WALL",
    "DOUBLE_HITTING_FRONT_WALL ALTERNATING_HITTING_FRONT_WALL"]⟩,
   ⟨0x1d9ad, "SIGNWRITING_MOVEMENT-WALLPLANE_", ["CURVE_HITTING_CHEST HUMP_HITTING_CHEST",
    "LOOP_HITTING_CHEST WAVE_HITTING_CHEST"]⟩,
   ⟨0x1d9b1, "SIGNWRITING_ROTATION-WALLPLANE_", ["SINGLE_HITTING_CHEST DOUBLE_HITTING_CHEST",
    "ALTERNATING_HITTING_CHEST"]⟩,
   ⟨0x1d9b4, "SIGNWRITING_MOVEMENT-WALLPLANE_WAVE_DIAGONAL_PATH_", ["SMALL MEDIUM LARGE"]⟩,
   ⟨0x1d9b7, "SIGNWRITING_MOVEMENT-FLOORPLANE_CURVE_HITTING_CEILING_", ["SMALL LARGE"]⟩,
   ⟨0x1d9b9, "SIGNWRITING_MOVEMENT-FLOORPLANE_HUMP_HITTING_CEILING_", ["SMALL_DOUBLE",
    "LARGE_DOUBLE SMALL_TRIPLE LARGE_TRIPLE"]⟩,
   ⟨0x1d9bd, "SIGNWRITING_MOVEMENT-FLOORPLANE_LOOP_HITTING_CEILING_", ["SMALL_SINGLE",
    "LARGE_SINGLE SMALL_DOUBLE LARGE_DOUBLE"]⟩,
   ⟨0x1d9c1, "SIGNWRITING_MOVEMENT-FLOORPLANE_WAVE_HITTING_CEILING_", ["SMALL LARGE"]⟩,
   ⟨0x1d9c3, "SIGNWRITING_ROTATION-FLOORPLANE_", ["SINGLE_HITTING_CEILING DOUBLE_HITTING_CEILING",
    "ALTERNATING_HITTING_CEILING"]⟩,
   ⟨0x1d9c6, "SIGNWRITING_MOVEMENT-FLOORPLANE_", ["CURVE_HITTING_FLOOR_SMALL",
    "CURVE_HITTING_FLOOR_LARGE HUMP_HITTING_FLOOR_SMALL_DOUBLE HUMP_HITTING_FLOOR_LARGE_DOUBLE",
    "HUMP_HITTING_FLOOR_TRIPLE_SMALL_TRIPLE HUMP_HITTING_FLOOR_TRIPLE_LARGE_TRIPLE",
    "LOOP_HITTING_FLOOR_SMALL_SINGLE LOOP_HITTING_FLOOR_LARGE_SINGLE",
    "LOOP_HITTING_FLOOR_SMALL_DOUBLE LOOP_HITTING_FLOOR_LARGE_DOUBLE WAVE_HITTING_FLOOR_SMALL",
    "WAVE_HITTING_FLOOR_LARGE"]⟩,
   ⟨0x1d9d2, "SIGNWRITING_ROTATION-FLOORPLANE_", ["SINGLE_HITTING_FLOOR DOUBLE_HITTING_FLOOR",
    "ALTERNATING_HITTING_FLOOR"]⟩,
   ⟨0x1d9d5, "SIGNWRITING_MOVEMENT-FLOORPLANE_", ["CURVE_SMALL CURVE_MEDIUM CURVE_LARGE",
    "CURVE_LARGEST CURVE_COMBINED HUMP_SMALL LOOP_SMALL WAVE_SNAKE WAVE_SMALL WAVE_LARGE"]⟩,
   ⟨0x1d9df, "SIGNWRITING_ROTATION-FLOORPLANE_", ["SINGLE DOUBLE ALTERNATING"]⟩,
   ⟨0x1d9e2, "SIGNWRITING_MOVEMENT-FLOORPLANE_SHAKING_", ["PARALLEL"]⟩,
   ⟨0x1d9e3, "SIGNWRITING_MOVEMENT-WALLPLANE_ARM_CIRCLE_", ["SMALL_SINGLE MEDIUM_SINGLE",
    "SMALL_DOUBLE MEDIUM_DOUBLE"]⟩,
   ⟨0x1d9e7, "SIGNWRITING_MOVEMENT-FLOORPLANE_ARM_CIRCLE_HITTING_WALL_", ["SMALL_SINGLE",
    "MEDIUM_SINGLE LARGE_SINGLE SMALL_DOUBLE MEDIUM_DOUBLE LARGE_DOUBLE"]⟩,
   ⟨0x1d9ed, "SIGNWRITING_MOVEMENT-WALLPLANE_WRIST_CIRCLE_FRONT_", ["SINGLE DOUBLE"]⟩,
   ⟨0x1d9ef, "SIGNWRITING_MOVEMENT-FLOORPLANE_WRIST_CIRCLE_HITTING_WALL_", ["SINGLE DOUBLE"]⟩,
   ⟨0x1d9f1, "SIGNWRITING_MOVEMENT-WALLPLANE_FINGER_CIRCLES_", ["SINGLE DOUBLE"]⟩,
   ⟨0x1d9f3, "SIGNWRITING_MOVEMENT-FLOORPLANE_FINGER_CIRCLES_HITTING_WALL_", ["SINGLE DOUBLE"]⟩,
   ⟨0x1d9f5, "SIGNWRITING_DYNAMIC_", ["ARROWHEAD_SMALL ARROWHEAD_LARGE FAST SLOW TENSE RELAXED",
    "SIMULTANEOUS SIMULTANEOUS_ALTERNATING EVERY_OTHER_TIME GRADUAL"]⟩,
   ⟨0x1d9ff, "SIGNWRITING_", ["HEAD HEAD_RIM HEAD_MOVEMENT-WALLPLANE_STRAIGHT",
    "HEAD_MOVEMENT-WALLPLANE_TILT HEAD_MOVEMENT-FLOORPLANE_STRAIGHT",
    "HEAD_MOVEMENT-WALLPLANE_CURVE HEAD_MOVEMENT-FLOORPLANE_CURVE HEAD_MOVEMENT_CIRCLE"]⟩,
   ⟨0x1da07, "SIGNWRITING_FACE_DIRECTION_POSITION_NOSE_", ["FORWARD_TILTING UP_OR_DOWN",
    "UP_OR_DOWN_TILTING"]⟩,
   ⟨0x1da0a, "SIGNWRITING_EYEBROWS_STRAIGHT_", ["UP NEUTRAL DOWN"]⟩,
   ⟨0x1da0d, "SIGNWRITING_DREAMY_EYEBROWS_", ["NEUTRAL_DOWN DOWN_NEUTRAL UP_NEUTRAL NEUTRAL_UP"]⟩,
   ⟨0x1da11, "SIGNWRITING_", ["FOREHEAD_NEUTRAL FOREHEAD_CONTACT FOREHEAD_WRINKLED EYES_OPEN",
    "EYES_SQUEEZED EYES_CLOSED EYE_BLINK_SINGLE EYE_BLINK_MULTIPLE EYES_HALF_OPEN EYES_WIDE_OPEN",
    "EYES_HALF_CLOSED EYES_WIDENING_MOVEMENT EYE_WINK EYELASHES_UP EYELASHES_DOWN",
    "EYELASHES_FLUTTERING EYEGAZE-WALLPLANE_STRAIGHT EYEGAZE-WALLPLANE_STRAIGHT_DOUBLE",
    "EYEGAZE-WALLPLANE_STRAIGHT_ALTERNATING EYEGAZE-FLOORPLANE_STRAIGHT",
    "EYEGAZE-FLOORPLANE_STRAIGHT_DOUBLE EYEGAZE-FLOORPLANE_STRAIGHT_ALTERNATING",
    "EYEGAZE-WALLPLANE_CURVED EYEGAZE-FLOORPLANE_CURVED EYEGAZE-WALLPLANE_CIRCLING CHEEKS_PUFFED",
    "CHEEKS_NEUTRAL CHEEKS_SUCKED TENSE_CHEEKS_HIGH TENSE_CHEEKS_MIDDLE TENSE_CHEEKS_LOW EARS",
    "NOSE_NEUTRAL NOSE_CONTACT NOSE_WRINKLES NOSE_WIGGLES AIR_BLOWING_OUT AIR_SUCKING_IN",
    "AIR_BLOW_SMALL_ROTATIONS AIR_SUCK_SMALL_ROTATIONS BREATH_INHALE BREATH_EXHALE"]⟩,
   ⟨0x1da3b, "SIGNWRITING_MOUTH_", ["CLOSED_NEUTRAL CLOSED_FORWARD CLOSED_CONTACT SMILE",
    "SMILE_WRINKLED SMILE_OPEN FROWN FROWN_WRINKLED FROWN_OPEN OPEN_CIRCLE OPEN_FORWARD",
    "OPEN_WRINKLED OPEN_OVAL OPEN_OVAL_WRINKLED OPEN_OVAL_YAWN OPEN_RECTANGLE",
    "OPEN_RECTANGLE_WRINKLED OPEN_RECTANGLE_YAWN KISS KISS_FORWARD KISS_WRINKLED TENSE",
    "TENSE_FORWARD TENSE_SUCKED"]⟩,
   ⟨0x1da53, "SIGNWRITING_", ["LIPS_PRESSED_TOGETHER LIP_LOWER_OVER_UPPER LIP_UPPER_OVER_LOWER",
    "MOUTH_CORNERS MOUTH_WRINKLES_SINGLE MOUTH_WRINKLES_DOUBLE TONGUE_STICKING_OUT_FAR",
    "TONGUE_LICKING_LIPS TONGUE_TIP_BETWEEN_LIPS TONGUE_TIP_TOUCHING_INSIDE_MOUTH",
    "TONGUE_INSIDE_MOUTH_RELAXED TONGUE_MOVES_AGAINST_CHEEK TONGUE_CENTRE_STICKING_OUT",
    "TONGUE_CENTRE_INSIDE_MOUTH TEETH TEETH_MOVEMENT TEETH_ON_TONGUE TEETH_ON_TONGUE_MOVEMENT",
    "TEETH_ON_LIPS TEETH_ON_LIPS_MOVEMENT TEETH_BITE_LIPS MOVEMENT-WALLPLANE_JAW",
    "MOVEMENT-FLOORPLANE_JAW NECK HAIR EXCITEMENT SHOULDER_HIP_SPINE SHOULDER_HIP_POSITIONS",
    "WALLPLANE_SHOULDER_HIP_MOVE FLOORPLANE_SHOULDER_HIP_MOVE SHOULDER_TILTING_FROM_WAIST",
    "TORSO-WALLPLANE_STRAIGHT_STRETCH TORSO-WALLPLANE_CURVED_BEND TORSO-FLOORPLANE_TWISTING",
    "UPPER_BODY_TILTING_FROM_HIP_JOINTS LIMB_COMBINATION"]⟩,
   ⟨0x1da77, "SIGNWRITING_LIMB_LENGTH-", ["1 2 3 4 5 6 7"]⟩,
   ⟨0x1da7e, "SIGNWRITING_", ["FINGER LOCATION-WALLPLANE_SPACE LOCATION-FLOORPLANE_SPACE",
    "LOCATION_HEIGHT LOCATION_WIDTH LOCATION_DEPTH LOCATION_HEAD_NECK LOCATION_TORSO",
    "LOCATION_LIMBS_DIGITS COMMA FULL_STOP SEMICOLON COLON PARENTHESIS"]⟩,
   ⟨0x1da9b, "SIGNWRITING_FILL_MODIFIER-", ["2 3 4 5 6"]⟩,
   ⟨0x1daa1, "SIGNWRITING_ROTATION_MODIFIER-", ["2 3 4 5 6 7 8 9 10 11 12 13 14 15 16"]⟩]

end SqlRoutes.Text.Names
