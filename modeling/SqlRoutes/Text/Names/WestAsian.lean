import SqlRoutes.Text.Names.Series

namespace SqlRoutes.Text.Names

def westAsian : List Series :=
  [⟨0x0591, "HEBREW_ACCENT_", ["ETNAHTA SEGOL SHALSHELET ZAQEF_QATAN ZAQEF_GADOL TIPEHA REVIA",
    "ZARQA PASHTA YETIV TEVIR GERESH GERESH_MUQDAM GERSHAYIM QARNEY_PARA TELISHA_GEDOLA PAZER",
    "ATNAH_HAFUKH MUNAH MAHAPAKH MERKHA MERKHA_KEFULA DARGA QADMA TELISHA_QETANA YERAH_BEN_YOMO",
    "OLE ILUY DEHI ZINOR"]⟩,
   ⟨0x05af, "HEBREW_MARK_MASORA_", ["CIRCLE"]⟩,
   ⟨0x05b0, "HEBREW_POINT_", ["SHEVA HATAF_SEGOL HATAF_PATAH HATAF_QAMATS HIRIQ TSERE SEGOL",
    "PATAH QAMATS HOLAM HOLAM_HASER_FOR_VAV QUBUTS DAGESH_OR_MAPIQ METEG"]⟩,
   ⟨0x05be, "HEBREW_", ["PUNCTUATION_MAQAF POINT_RAFE PUNCTUATION_PASEQ POINT_SHIN_DOT",
    "POINT_SIN_DOT PUNCTUATION_SOF_PASUQ MARK_UPPER_DOT MARK_LOWER_DOT PUNCTUATION_NUN_HAFUKHA",
    "POINT_QAMATS_QATAN"]⟩,
   ⟨0x05d0, "HEBREW_LETTER_", ["ALEF BET GIMEL DALET HE VAV ZAYIN HET TET YOD FINAL_KAF KAF",
    "LAMED FINAL_MEM MEM FINAL_NUN NUN SAMEKH AYIN FINAL_PE PE FINAL_TSADI TSADI QOF RESH SHIN",
    "TAV"]⟩,
   ⟨0x05ef, "HEBREW_", ["YOD_TRIANGLE LIGATURE_YIDDISH_DOUBLE_VAV LIGATURE_YIDDISH_VAV_YOD",
    "LIGATURE_YIDDISH_DOUBLE_YOD PUNCTUATION_GERESH PUNCTUATION_GERSHAYIM"]⟩,
   ⟨0x0700, "SYRIAC_", ["END_OF_PARAGRAPH SUPRALINEAR_FULL_STOP SUBLINEAR_FULL_STOP",
    "SUPRALINEAR_COLON SUBLINEAR_COLON HORIZONTAL_COLON COLON_SKEWED_LEFT COLON_SKEWED_RIGHT",
    "SUPRALINEAR_COLON_SKEWED_LEFT SUBLINEAR_COLON_SKEWED_RIGHT CONTRACTION HARKLEAN_OBELUS",
    "HARKLEAN_METOBELUS HARKLEAN_ASTERISCUS � ABBREVIATION_MARK"]⟩,
   ⟨0x0710, "SYRIAC_LETTER_", ["ALAPH SUPERSCRIPT_ALAPH BETH GAMAL GAMAL_GARSHUNI DALATH",
    "DOTLESS_DALATH_RISH HE WAW ZAIN HETH TETH TETH_GARSHUNI YUDH YUDH_HE KAPH LAMADH MIM NUN",
    "SEMKATH FINAL_SEMKATH E PE REVERSED_PE SADHE QAPH RISH SHIN TAW PERSIAN_BHETH",
    "PERSIAN_GHAMAL PERSIAN_DHALATH"]⟩,
   ⟨0x0730, "SYRIAC_", ["PTHAHA_ABOVE PTHAHA_BELOW PTHAHA_DOTTED ZQAPHA_ABOVE ZQAPHA_BELOW",
    "ZQAPHA_DOTTED RBASA_ABOVE RBASA_BELOW DOTTED_ZLAMA_HORIZONTAL DOTTED_ZLAMA_ANGULAR",
    "HBASA_ABOVE HBASA_BELOW HBASA-ESASA_DOTTED ESASA_ABOVE ESASA_BELOW RWAHA FEMININE_DOT",
    "QUSHSHAYA RUKKAKHA TWO_VERTICAL_DOTS_ABOVE TWO_VERTICAL_DOTS_BELOW THREE_DOTS_ABOVE",
    "THREE_DOTS_BELOW OBLIQUE_LINE_ABOVE OBLIQUE_LINE_BELOW MUSIC BARREKH"]⟩,
   ⟨0x074d, "SYRIAC_LETTER_SOGDIAN_", ["ZHAIN KHAPH FE"]⟩,
   ⟨0x0780, "THAANA_LETTER_", ["HAA SHAVIYANI NOONU RAA BAA LHAVIYANI KAAFU ALIFU VAAVU MEEMU",
    "FAAFU DHAALU THAA LAAMU GAAFU GNAVIYANI SEENU DAVIYANI ZAVIYANI TAVIYANI YAA PAVIYANI",
    "JAVIYANI CHAVIYANI TTAA HHAA KHAA THAALU ZAA SHEENU SAADHU DAADHU TO ZO AINU GHAINU QAAFU",
    "WAAVU"]⟩,
   ⟨0x07a6, "THAANA_", ["ABAFILI AABAAFILI IBIFILI EEBEEFILI UBUFILI OOBOOFILI EBEFILI EYBEYFILI",
    "OBOFILI OABOAFILI SUKUN LETTER_NAA"]⟩,
   ⟨0x0800, "SAMARITAN_LETTER_", ["ALAF BIT GAMAN DALAT IY BAA ZEN IT TIT YUT KAAF LABAT MIM NUN",
    "SINGAAT IN FI TSAADIY QUF RISH SHAN TAAF"]⟩,
   ⟨0x0816, "SAMARITAN_", ["MARK_IN MARK_IN-ALAF MARK_OCCLUSION MARK_DAGESH",
    "MODIFIER_LETTER_EPENTHETIC_YUT MARK_EPENTHETIC_YUT"]⟩,
   ⟨0x081c, "SAMARITAN_VOWEL_SIGN_", ["LONG_E E OVERLONG_AA LONG_AA AA OVERLONG_A LONG_A A"]⟩,
   ⟨0x0824, "SAMARITAN_", ["MODIFIER_LETTER_SHORT_A VOWEL_SIGN_SHORT_A VOWEL_SIGN_LONG_U",
    "VOWEL_SIGN_U MODIFIER_LETTER_I VOWEL_SIGN_LONG_I VOWEL_SIGN_I VOWEL_SIGN_O VOWEL_SIGN_SUKUN",
    "MARK_NEQUDAA � � PUNCTUATION_NEQUDAA PUNCTUATION_AFSAAQ PUNCTUATION_ANGED PUNCTUATION_BAU",
    "PUNCTUATION_ATMAAU PUNCTUATION_SHIYYAALAA ABBREVIATION_MARK"]⟩,
   ⟨0x0837, "SAMARITAN_PUNCTUATION_", ["MELODIC_QITSA ZIQAA QITSA ZAEF TURU ARKAANU SOF_MASHFAAT",
    "ANNAAU"]⟩,
   ⟨0x0840, "MANDAIC_LETTER_", ["HALQA AB AG AD AH USHENNA AZ IT ATT AKSA AK AL AM AN AS IN AP",
    "ASZ AQ AR ASH AT DUSHENNA KAD AIN"]⟩,
   ⟨0x0859, "MANDAIC_", ["AFFRICATION_MARK VOCALIZATION_MARK GEMINATION_MARK � � PUNCTUATION"]⟩,
   ⟨0x0860, "SYRIAC_LETTER_MALAYALAM_", ["NGA JA NYA TTA NNA NNNA BHA RA LLA LLLA SSA"]⟩,
   ⟨0x10380, "UGARITIC_LETTER_", ["ALPA BETA GAMLA KHA DELTA HO WO ZETA HOTA TET YOD KAF SHIN",
    "LAMDA MEM DHAL NUN ZU SAMKA AIN PU SADE QOPA RASHA THANNA GHAIN TO I U SSU"]⟩,
   ⟨0x1039f, "UGARITIC_WORD_", ["DIVIDER"]⟩,
   ⟨0x103a0, "OLD_PERSIAN_SIGN_", ["A I U KA KU GA GU XA CA JA JI TA TU DA DI DU THA PA BA FA NA",
    "NU MA MI MU YA VA VI RA RU LA SA ZA SHA SSA HA � � � � AURAMAZDAA AURAMAZDAA-2 AURAMAZDAAHA",
    "XSHAAYATHIYA DAHYAAUSH DAHYAAUSH-2 BAGA BUUMISH"]⟩,
   ⟨0x103d0, "OLD_PERSIAN_", ["WORD_DIVIDER NUMBER_ONE NUMBER_TWO NUMBER_TEN NUMBER_TWENTY",
    "NUMBER_HUNDRED"]⟩,
   ⟨0x10840, "IMPERIAL_ARAMAIC_LETTER_", ["ALEPH BETH GIMEL DALETH HE WAW ZAYIN HETH TETH YODH",
    "KAPH LAMEDH MEM NUN SAMEKH AYIN PE SADHE QOPH RESH SHIN TAW"]⟩,
   ⟨0x10857, "IMPERIAL_ARAMAIC_SECTION_", ["SIGN"]⟩,
   ⟨0x10858, "IMPERIAL_ARAMAIC_NUMBER_", ["ONE TWO THREE TEN TWENTY ONE_HUNDRED ONE_THOUSAND",
    "TEN_THOUSAND"]⟩,
   ⟨0x10860, "PALMYRENE_LETTER_", ["ALEPH BETH GIMEL DALETH HE WAW ZAYIN HETH TETH YODH KAPH",
    "LAMEDH MEM FINAL_NUN NUN SAMEKH AYIN PE SADHE QOPH RESH SHIN TAW"]⟩,
   ⟨0x10877, "PALMYRENE_", ["LEFT-POINTING_FLEURON RIGHT-POINTING_FLEURON"]⟩,
   ⟨0x10879, "PALMYRENE_NUMBER_", ["ONE TWO THREE FOUR FIVE TEN TWENTY"]⟩,
   ⟨0x10880, "NABATAEAN_LETTER_", ["FINAL_ALEPH ALEPH FINAL_BETH BETH GIMEL DALETH FINAL_HE HE",
    "WAW ZAYIN HETH TETH FINAL_YODH YODH FINAL_KAPH KAPH FINAL_LAMEDH LAMEDH FINAL_MEM MEM",
    "FINAL_NUN NUN SAMEKH AYIN PE SADHE QOPH RESH FINAL_SHIN SHIN TAW"]⟩,
   ⟨0x108a7, "NABATAEAN_", ["NUMBER_ONE NUMBER_TWO NUMBER_THREE NUMBER_FOUR",
    "CRUCIFORM_NUMBER_FOUR NUMBER_FIVE NUMBER_TEN NUMBER_TWENTY NUMBER_ONE_HUNDRED"]⟩,
   ⟨0x108e0, "HATRAN_LETTER_", ["ALEPH BETH GIMEL DALETH-RESH HE WAW ZAYN HETH TETH YODH KAPH",
    "LAMEDH MEM NUN SAMEKH AYN PE SADHE QOPH � SHIN TAW"]⟩,
   ⟨0x108fb, "HATRAN_NUMBER_", ["ONE FIVE TEN TWENTY ONE_HUNDRED"]⟩,
   ⟨0x10900, "PHOENICIAN_LETTER_", ["ALF BET GAML DELT HE WAU ZAI HET TET YOD KAF LAMD MEM NUN",
    "SEMK AIN PE SADE QOF ROSH SHIN TAU"]⟩,
   ⟨0x10916, "PHOENICIAN_NUMBER_", ["ONE TEN TWENTY ONE_HUNDRED TWO THREE"]⟩,
   ⟨0x1091f, "PHOENICIAN_WORD_", ["SEPARATOR"]⟩,
   ⟨0x10a60, "OLD_SOUTH_ARABIAN_LETTER_", ["HE LAMEDH HETH MEM QOPH WAW SHIN RESH BETH TAW SAT",
    "KAPH NUN KHETH SADHE SAMEKH FE ALEF AYN DHADHE GIMEL DALETH GHAYN TETH ZAYN DHALETH YODH",
    "THAW THETH"]⟩,
   ⟨0x10a7d, "OLD_SOUTH_ARABIAN_", ["NUMBER_ONE NUMBER_FIFTY NUMERIC_INDICATOR"]⟩,
   ⟨0x10a80, "OLD_NORTH_ARABIAN_LETTER_", ["HEH LAM HAH MEEM QAF WAW ES-2 REH BEH TEH ES-1 KAF",
    "NOON KHAH SAD ES-3 FEH ALEF AIN DAD GEEM DAL GHAIN TAH ZAIN THAL YEH THEH ZAH"]⟩,
   ⟨0x10a9d, "OLD_NORTH_ARABIAN_NUMBER_", ["ONE TEN TWENTY"]⟩,
   ⟨0x10ac0, "MANICHAEAN_LETTER_", ["ALEPH BETH BHETH GIMEL GHIMEL DALETH HE WAW"]⟩,
   ⟨0x10ac8, "MANICHAEAN_SIGN_", ["UD"]⟩,
   ⟨0x10ac9, "MANICHAEAN_LETTER_", ["ZAYIN ZHAYIN JAYIN JHAYIN HETH TETH YODH KAPH XAPH KHAPH",
    "LAMEDH DHAMEDH THAMEDH MEM NUN SAMEKH AYIN AAYIN PE FE SADHE QOPH XOPH QHOPH RESH SHIN",
    "SSHIN TAW"]⟩,
   ⟨0x10ae5, "MANICHAEAN_ABBREVIATION_MARK_", ["ABOVE BELOW"]⟩,
   ⟨0x10aeb, "MANICHAEAN_NUMBER_", ["ONE FIVE TEN TWENTY ONE_HUNDRED"]⟩,
   ⟨0x10af0, "MANICHAEAN_PUNCTUATION_", ["STAR FLEURON DOUBLE_DOT_WITHIN_DOT DOT_WITHIN_DOT DOT",
    "TWO_DOTS LINE_FILLER"]⟩,
   ⟨0x10b00, "AVESTAN_LETTER_", ["A AA AO AAO AN AAN AE AEE E EE O OO I II U UU KE XE XYE XVE GE",
    "GGE GHE CE JE TE THE DE DHE TTE PE FE BE BHE NGE NGYE NGVE NE NYE NNE ME HME YYE YE VE RE",
    "LE SE ZE SHE ZHE SHYE SSHE HE"]⟩,
   ⟨0x10b39, "", ["AVESTAN_ABBREVIATION_MARK TINY_TWO_DOTS_OVER_ONE_DOT_PUNCTUATION",
    "SMALL_TWO_DOTS_OVER_ONE_DOT_PUNCTUATION LARGE_TWO_DOTS_OVER_ONE_DOT_PUNCTUATION",
    "LARGE_ONE_DOT_OVER_TWO_DOTS_PUNCTUATION LARGE_TWO_RINGS_OVER_ONE_RING_PUNCTUATION",
    "LARGE_ONE_RING_OVER_TWO_RINGS_PUNCTUATION"]⟩,
   ⟨0x10b40, "INSCRIPTIONAL_PARTHIAN_LETTER_", ["ALEPH BETH GIMEL DALETH HE WAW ZAYIN HETH TETH",
    "YODH KAPH LAMEDH MEM NUN SAMEKH AYIN PE SADHE QOPH RESH SHIN TAW"]⟩,
   ⟨0x10b58, "INSCRIPTIONAL_PARTHIAN_NUMBER_", ["ONE TWO THREE FOUR TEN TWENTY ONE_HUNDRED",
    "ONE_THOUSAND"]⟩,
   ⟨0x10b60, "INSCRIPTIONAL_PAHLAVI_LETTER_", ["ALEPH BETH GIMEL DALETH HE WAW-AYIN-RESH ZAYIN",
    "HETH TETH YODH KAPH LAMEDH MEM-QOPH NUN SAMEKH PE SADHE SHIN TAW"]⟩,
   ⟨0x10b78, "INSCRIPTIONAL_PAHLAVI_NUMBER_", ["ONE TWO THREE FOUR TEN TWENTY ONE_HUNDRED",
    "ONE_THOUSAND"]⟩,
   ⟨0x10b80, "PSALTER_PAHLAVI_LETTER_", ["ALEPH BETH GIMEL DALETH HE WAW-AYIN-RESH ZAYIN HETH",
    "YODH KAPH LAMEDH MEM-QOPH NUN SAMEKH PE SADHE SHIN TAW"]⟩,
   ⟨0x10b99, "PSALTER_PAHLAVI_", ["SECTION_MARK TURNED_SECTION_MARK FOUR_DOTS_WITH_CROSS",
    "FOUR_DOTS_WITH_DOT"]⟩,
   ⟨0x10ba9, "PSALTER_PAHLAVI_NUMBER_", ["ONE TWO THREE FOUR TEN TWENTY ONE_HUNDRED"]⟩,
   ⟨0x10c00, "OLD_TURKIC_LETTER_", ["ORKHON_A YENISEI_A YENISEI_AE ORKHON_I YENISEI_I YENISEI_E",
    "ORKHON_O ORKHON_OE YENISEI_OE ORKHON_AB YENISEI_AB ORKHON_AEB YENISEI_AEB ORKHON_AG",
    "YENISEI_AG ORKHON_AEG YENISEI_AEG ORKHON_AD YENISEI_AD ORKHON_AED ORKHON_EZ YENISEI_EZ",
    "ORKHON_AY YENISEI_AY ORKHON_AEY YENISEI_AEY ORKHON_AEK YENISEI_AEK ORKHON_OEK YENISEI_OEK",
    "ORKHON_AL YENISEI_AL ORKHON_AEL ORKHON_ELT ORKHON_EM ORKHON_AN ORKHON_AEN YENISEI_AEN",
    "ORKHON_ENT YENISEI_ENT ORKHON_ENC YENISEI_ENC ORKHON_ENY YENISEI_ENY YENISEI_ANG ORKHON_ENG",
    "YENISEI_AENG ORKHON_EP ORKHON_OP ORKHON_IC ORKHON_EC YENISEI_EC ORKHON_AQ YENISEI_AQ",
    "ORKHON_IQ YENISEI_IQ ORKHON_OQ YENISEI_OQ ORKHON_AR YENISEI_AR ORKHON_AER ORKHON_AS",
    "ORKHON_AES ORKHON_ASH YENISEI_ASH ORKHON_ESH YENISEI_ESH ORKHON_AT YENISEI_AT ORKHON_AET",
    "YENISEI_AET ORKHON_OT ORKHON_BASH"]⟩,
   ⟨0x10e80, "YEZIDI_LETTER_", ["ELIF BE PE PHE THE SE CIM CHIM CHHIM HHA XA DAL ZAL RA RHA ZA",
    "JA SIN SHIN SAD DAD TA ZE EYN XHEYN FA VA VA_ALTERNATE_FORM QAF KAF KHAF GAF LAM MIM NUN UM",
    "WAW OW EW HAY YOT ET"]⟩,
   ⟨0x10eab, "YEZIDI_", ["COMBINING_HAMZA_MARK COMBINING_MADDA_MARK HYPHENATION_MARK � �",
    "LETTER_LAM_WITH_DOT_ABOVE LETTER_YOT_WITH_CIRCUMFLEX_ABOVE"]⟩,
   ⟨0x10f00, "OLD_SOGDIAN_LETTER_", ["ALEPH FINAL_ALEPH BETH FINAL_BETH GIMEL HE FINAL_HE WAW",
    "ZAYIN HETH YODH KAPH LAMEDH MEM NUN FINAL_NUN FINAL_NUN_WITH_VERTICAL_TAIL SAMEKH AYIN",
    "ALTERNATE_AYIN PE SADHE FINAL_SADHE FINAL_SADHE_WITH_VERTICAL_TAIL RESH-AYIN-DALETH SHIN",
    "TAW FINAL_TAW FINAL_TAW_WITH_VERTICAL_TAIL"]⟩,
   ⟨0x10f1d, "OLD_SOGDIAN_NUMBER_", ["ONE TWO THREE FOUR FIVE TEN TWENTY THIRTY ONE_HUNDRED"]⟩,
   ⟨0x10f26, "OLD_SOGDIAN_", ["FRACTION_ONE_HALF LIGATURE_AYIN-DALETH"]⟩,
   ⟨0x10f30, "SOGDIAN_LETTER_", ["ALEPH BETH GIMEL HE WAW ZAYIN HETH YODH KAPH LAMEDH MEM NUN",
    "SAMEKH AYIN PE SADHE RESH-AYIN SHIN TAW FETH LESH"]⟩,
   ⟨0x10f45, "SOGDIAN_INDEPENDENT_", ["SHIN"]⟩,
   ⟨0x10f46, "SOGDIAN_COMBINING_", ["DOT_BELOW TWO_DOTS_BELOW DOT_ABOVE TWO_DOTS_ABOVE",
    "CURVE_ABOVE CURVE_BELOW HOOK_ABOVE HOOK_BELOW LONG_HOOK_BELOW RESH_BELOW STROKE_BELOW"]⟩,
   ⟨0x10f51, "SOGDIAN_NUMBER_", ["ONE TEN TWENTY ONE_HUNDRED"]⟩,
   ⟨0x10f55, "SOGDIAN_PUNCTUATION_", ["TWO_VERTICAL_BARS TWO_VERTICAL_BARS_WITH_DOTS",
    "CIRCLE_WITH_DOT TWO_CIRCLES_WITH_DOTS HALF_CIRCLE_WITH_DOT"]⟩,
   ⟨0x10f70, "OLD_UYGHUR_LETTER_", ["ALEPH BETH GIMEL-HETH WAW ZAYIN FINAL_HETH YODH KAPH LAMEDH",
    "MEM NUN SAMEKH PE SADHE RESH SHIN TAW LESH"]⟩,
   ⟨0x10f82, "OLD_UYGHUR_COMBINING_", ["DOT_ABOVE DOT_BELOW TWO_DOTS_ABOVE TWO_DOTS_BELOW"]⟩,
   ⟨0x10f86, "OLD_UYGHUR_PUNCTUATION_", ["BAR TWO_BARS TWO_DOTS FOUR_DOTS"]⟩,
   ⟨0x10fb0, "CHORASMIAN_LETTER_", ["ALEPH SMALL_ALEPH BETH GIMEL DALETH HE WAW CURLED_WAW ZAYIN",
    "HETH YODH KAPH LAMEDH MEM NUN SAMEKH AYIN PE RESH SHIN TAW"]⟩,
   ⟨0x10fc5, "CHORASMIAN_NUMBER_", ["ONE TWO THREE FOUR TEN TWENTY ONE_HUNDRED"]⟩,
   ⟨0x10fe0, "ELYMAIC_LETTER_", ["ALEPH BETH GIMEL DALETH HE WAW ZAYIN HETH TETH YODH KAPH",
    "LAMEDH MEM NUN SAMEKH AYIN PE SADHE QOPH RESH SHIN TAW"]⟩,
   ⟨0x10ff6, "ELYMAIC_LIGATURE_ZAYIN-", ["YODH"]⟩]

end SqlRoutes.Text.Names
