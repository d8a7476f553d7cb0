import SqlRoutes.Text.Names.Series

namespace SqlRoutes.Text.Names

def african : List Series :=
  [⟨0x07c0, "NKO_DIGIT_", ["ZERO ONE TWO THREE FOUR FIVE SIX SEVEN EIGHT NINE"]⟩,
   ⟨0x07ca, "NKO_LETTER_", ["A EE I E U OO O DAGBASINNA N BA PA TA JA CHA DA RA RRA SA GBA FA KA",
    "LA NA_WOLOSO MA NYA NA HA WA YA NYA_WOLOSO JONA_JA JONA_CHA JONA_RA"]⟩,
   ⟨0x07eb, "NKO_COMBINING_", ["SHORT_HIGH_TONE SHORT_LOW_TONE SHORT_RISING_TONE",
    "LONG_DESCENDING_TONE LONG_HIGH_TONE LONG_LOW_TONE LONG_RISING_TONE NASALIZATION_MARK",
    "DOUBLE_DOT_ABOVE"]⟩,
   ⟨0x07f4, "NKO_", ["HIGH_TONE_APOSTROPHE LOW_TONE_APOSTROPHE SYMBOL_OO_DENNEN",
    "SYMBOL_GBAKURUNEN COMMA EXCLAMATION_MARK LAJANYALAN � � DANTAYALAN DOROME_SIGN TAMAN_SIGN"]⟩,
   ⟨0x1200, "ETHIOPIC_SYLLABLE_", ["HA HU HI HAA HEE HE HO HOA LA LU LI LAA LEE LE LO LWA HHA",
    "HHU HHI HHAA HHEE HHE HHO HHWA MA MU MI MAA MEE ME MO MWA SZA SZU SZI SZAA SZEE SZE SZO",
    "SZWA RA RU RI RAA REE RE RO RWA SA SU SI SAA SEE SE SO SWA SHA SHU SHI SHAA SHEE SHE SHO",
    "SHWA QA QU QI QAA QEE QE QO QOA QWA � QWI QWAA QWEE QWE � � QHA QHU QHI QHAA QHEE QHE QHO �",
    "QHWA � QHWI QHWAA QHWEE QHWE � � BA BU BI BAA BEE BE BO BWA VA VU VI VAA VEE VE VO VWA TA",
    "TU TI TAA TEE TE TO TWA CA CU CI CAA CEE CE CO CWA XA XU XI XAA XEE XE XO XOA XWA � XWI",
    "XWAA XWEE XWE � � NA NU NI NAA NEE NE NO NWA NYA NYU NYI NYAA NYEE NYE NYO NYWA GLOTTAL_A",
    "GLOTTAL_U GLOTTAL_I GLOTTAL_AA GLOTTAL_EE GLOTTAL_E GLOTTAL_O GLOTTAL_WA KA KU KI KAA KEE",
    "KE KO KOA KWA � KWI KWAA KWEE KWE � � KXA KXU KXI KXAA KXEE KXE KXO � KXWA � KXWI KXWAA",
    "KXWEE KXWE � � WA WU WI WAA WEE WE WO WOA PHARYNGEAL_A PHARYNGEAL_U PHARYNGEAL_I",
    "PHARYNGEAL_AA PHARYNGEAL_EE PHARYNGEAL_E PHARYNGEAL_O � ZA ZU ZI ZAA ZEE ZE ZO ZWA ZHA ZHU",
    "ZHI ZHAA ZHEE ZHE ZHO ZHWA YA YU YI YAA YEE YE YO YOA DA DU DI DAA DEE DE DO DWA DDA DDU",
    "DDI DDAA DDEE DDE DDO DDWA JA JU JI JAA JEE JE JO JWA GA GU GI GAA GEE GE GO GOA GWA � GWI",
    "GWAA GWEE GWE � � GGA GGU GGI GGAA GGEE GGE GGO GGWAA THA THU THI THAA THEE THE THO THWA",
    "CHA CHU CHI CHAA CHEE CHE CHO CHWA PHA PHU PHI PHAA PHEE PHE PHO PHWA TSA TSU TSI TSAA TSEE",
    "TSE TSO TSWA TZA TZU TZI TZAA TZEE TZE TZO TZOA FA FU FI FAA FEE FE FO FWA PA PU PI PAA PEE",
    "PE PO PWA RYA MYA FYA"]⟩,
   ⟨0x135d, "ETHIOPIC_", ["COMBINING_GEMINATION_AND_VOWEL_LENGTH_MARK",
    "COMBINING_VOWEL_LENGTH_MARK COMBINING_GEMINATION_MARK SECTION_MARK WORDSPACE FULL_STOP",
    "COMMA SEMICOLON COLON PREFACE_COLON QUESTION_MARK PARAGRAPH_SEPARATOR"]⟩,
   ⟨0x1369, "ETHIOPIC_DIGIT_", ["ONE TWO THREE FOUR FIVE SIX SEVEN EIGHT NINE"]⟩,
   ⟨0x1372, "ETHIOPIC_NUMBER_", ["TEN TWENTY THIRTY FORTY FIFTY SIXTY SEVENTY EIGHTY NINETY",
    "HUNDRED TEN_THOUSAND"]⟩,
   ⟨0x1380, "ETHIOPIC_SYLLABLE_", ["SEBATBEIT_MWA MWI MWEE MWE SEBATBEIT_BWA BWI BWEE BWE",
    "SEBATBEIT_FWA FWI FWEE FWE SEBATBEIT_PWA PWI PWEE PWE"]⟩,
   ⟨0x1390, "ETHIOPIC_TONAL_MARK_", ["YIZET DERET RIKRIK SHORT_RIKRIK DIFAT KENAT CHIRET HIDET",
    "DERET-HIDET KURT"]⟩,
   ⟨0x2d30, "TIFINAGH_LETTER_", ["YA YAB YABH YAG YAGHH BERBER_ACADEMY_YAJ YAJ YAD YADH YADD",
    "YADDH YEY YAF YAK TUAREG_YAK YAKHH YAH BERBER_ACADEMY_YAH TUAREG_YAH YAHH YAA YAKH",
    "TUAREG_YAKH YAQ TUAREG_YAQ YI YAZH AHAGGAR_YAZH TUAREG_YAZH YAL YAM YAN TUAREG_YAGN",
    "TUAREG_YANG YAP YU YAR YARR YAGH TUAREG_YAGH AYER_YAGH YAS YASS YASH YAT YATH YACH YATT YAV",
    "YAW YAY YAZ TAWELLEMET_YAZ YAZZ YE YO"]⟩,
   ⟨0x2d6f, "TIFINAGH_", ["MODIFIER_LETTER_LABIALIZATION_MARK SEPARATOR_MARK"]⟩,
   ⟨0x2d7f, "TIFINAGH_CONSONANT_", ["JOINER"]⟩,
   ⟨0x2d80, "ETHIOPIC_SYLLABLE_", ["LOA MOA ROA SOA SHOA BOA TOA COA NOA NYOA GLOTTAL_OA ZOA DOA",
    "DDOA JOA THOA CHOA PHOA POA GGWA GGWI GGWEE GGWE"]⟩,
   ⟨0x2da0, "ETHIOPIC_SYLLABLE_", ["SSA SSU SSI SSAA SSEE SSE SSO � CCA CCU CCI CCAA CCEE CCE",
    "CCO � ZZA ZZU ZZI ZZAA ZZEE ZZE ZZO � CCHA CCHU CCHI CCHAA CCHEE CCHE CCHO � QYA QYU QYI",
    "QYAA QYEE QYE QYO � KYA KYU KYI KYAA KYEE KYE KYO � XYA XYU XYI XYAA XYEE XYE XYO � GYA GYU",
    "GYI GYAA GYEE GYE GYO"]⟩,
   ⟨0xa500, "VAI_SYLLABLE_", ["EE EEN HEE WEE WEEN PEE BHEE BEE MBEE KPEE MGBEE GBEE FEE VEE TEE",
    "THEE DHEE DHHEE LEE REE DEE NDEE SEE SHEE ZEE ZHEE CEE JEE NJEE YEE KEE NGGEE GEE MEE NEE",
    "NYEE I IN HI HIN WI WIN PI BHI BI MBI KPI MGBI GBI FI VI TI THI DHI DHHI LI RI DI NDI SI",
    "SHI ZI ZHI CI JI NJI YI KI NGGI GI MI NI NYI A AN NGAN HA HAN WA WAN PA BHA BA MBA KPA KPAN",
    "MGBA GBA FA VA TA THA DHA DHHA LA RA DA NDA SA SHA ZA ZHA CA JA NJA YA KA KAN NGGA GA MA NA",
    "NYA OO OON HOO WOO WOON POO BHOO BOO MBOO KPOO MGBOO GBOO FOO VOO TOO THOO DHOO DHHOO LOO",
    "ROO DOO NDOO SOO SHOO ZOO ZHOO COO JOO NJOO YOO KOO NGGOO GOO MOO NOO NYOO U UN HU HUN WU",
    "WUN PU BHU BU MBU KPU MGBU GBU FU VU TU THU DHU DHHU LU RU DU NDU SU SHU ZU ZHU CU JU NJU",
    "YU KU NGGU GU MU NU NYU O ON NGON HO HON WO WON PO BHO BO MBO KPO MGBO GBO GBON FO VO TO",
    "THO DHO DHHO LO RO DO NDO SO SHO ZO ZHO CO JO NJO YO KO NGGO GO MO NO NYO E EN NGEN HE HEN",
    "WE WEN PE BHE BE MBE KPE KPEN MGBE GBE GBEN FE VE TE THE DHE DHHE LE RE DE NDE SE SHE ZE",
    "ZHE CE JE NJE YE KE NGGE NGGEN GE GEN ME NE NYE NG LENGTHENER"]⟩,
   ⟨0xa60d, "VAI_", ["COMMA FULL_STOP QUESTION_MARK"]⟩,
   ⟨0xa610, "VAI_SYLLABLE_NDOLE_", ["FA KA SOO"]⟩,
   ⟨0xa613, "VAI_SYMBOL_", ["FEENG KEENG TING NII BANG FAA TAA DANG DOONG KUNG TONG DO-O JONG"]⟩,
   ⟨0xa620, "VAI_DIGIT_", ["ZERO ONE TWO THREE FOUR FIVE SIX SEVEN EIGHT NINE"]⟩,
   ⟨0xa62a, "VAI_SYLLABLE_NDOLE_", ["MA DO"]⟩,
   ⟨0xa6a0, "BAMUM_LETTER_", ["A KA U KU EE REE TAE O NYI I LA PA RII RIEE LEEEE MEEEE TAA NDAA",
    "NJAEM M SUU MU SHII SI SHEUX SEUX KYEE KET NUAE NU NJUAE YOQ SHU YUQ YA NSHA KEUX PEUX NJEE",
    "NTEE PUE WUE PEE FEE RU LU MI NI REUX RAE KEN NGKWAEN NGGA NGA SHO PUAE FU FOM WA NA LI PI",
    "LOQ KO MBEN REN MEN MA TI KI MO MBAA TET KPA TEN NTUU SAMBA FAAMAE KOVUU KOGHOM"]⟩,
   ⟨0xa6f0, "BAMUM_", ["COMBINING_MARK_KOQNDON COMBINING_MARK_TUKWENTIS NJAEMLI FULL_STOP COLON",
    "COMMA SEMICOLON QUESTION_MARK"]⟩,
   ⟨0xab01, "ETHIOPIC_SYLLABLE_", ["TTHU TTHI TTHAA TTHEE TTHE TTHO � � DDHU DDHI DDHAA DDHEE",
    "DDHE DDHO � � DZU DZI DZAA DZEE DZE DZO"]⟩,
   ⟨0xab20, "ETHIOPIC_SYLLABLE_", ["CCHHA CCHHU CCHHI CCHHAA CCHHEE CCHHE CCHHO � BBA BBU BBI",
    "BBAA BBEE BBE BBO"]⟩,
   ⟨0x10480, "OSMANYA_LETTER_", ["ALEF BA TA JA XA KHA DEEL RA SA SHIIN DHA CAYN GA FA QAAF KAAF",
    "LAAN MIIN NUUN WAW HA YA A E I O U AA EE OO"]⟩,
   ⟨0x104a0, "OSMANYA_DIGIT_", ["ZERO ONE TWO THREE FOUR FIVE SIX SEVEN EIGHT NINE"]⟩,
   ⟨0x10980, "MEROITIC_HIEROGLYPHIC_LETTER_", ["A E I O YA WA BA BA-2 PA MA NA NA-2 NE NE-2 RA",
    "RA-2 LA KHA HHA SA SA-2 SE KA QA TA TA-2 TE TE-2 TO DA"]⟩,
   ⟨0x1099e, "MEROITIC_HIEROGLYPHIC_SYMBOL_", ["VIDJ VIDJ-2"]⟩,
   ⟨0x109a0, "MEROITIC_CURSIVE_LETTER_", ["A E I O YA WA BA PA MA NA NE RA LA KHA HHA SA",
    "ARCHAIC_SA SE KA QA TA TE TO DA"]⟩,
   ⟨0x109bc, "MEROITIC_CURSIVE_", ["FRACTION_ELEVEN_TWELFTHS FRACTION_ONE_HALF LOGOGRAM_RMT",
    "LOGOGRAM_IMN"]⟩,
   ⟨0x109c0, "MEROITIC_CURSIVE_NUMBER_", ["ONE TWO THREE FOUR FIVE SIX SEVEN EIGHT NINE TEN",
    "TWENTY THIRTY FORTY FIFTY SIXTY SEVENTY � � ONE_HUNDRED TWO_HUNDRED THREE_HUNDRED",
    "FOUR_HUNDRED FIVE_HUNDRED SIX_HUNDRED SEVEN_HUNDRED EIGHT_HUNDRED NINE_HUNDRED ONE_THOUSAND",
    "TWO_THOUSAND THREE_THOUSAND FOUR_THOUSAND FIVE_THOUSAND SIX_THOUSAND SEVEN_THOUSAND",
    "EIGHT_THOUSAND NINE_THOUSAND TEN_THOUSAND TWENTY_THOUSAND THIRTY_THOUSAND FORTY_THOUSAND",
    "FIFTY_THOUSAND SIXTY_THOUSAND SEVENTY_THOUSAND EIGHTY_THOUSAND NINETY_THOUSAND",
    "ONE_HUNDRED_THOUSAND TWO_HUNDRED_THOUSAND THREE_HUNDRED_THOUSAND FOUR_HUNDRED_THOUSAND",
    "FIVE_HUNDRED_THOUSAND SIX_HUNDRED_THOUSAND SEVEN_HUNDRED_THOUSAND EIGHT_HUNDRED_THOUSAND",
    "NINE_HUNDRED_THOUSAND"]⟩,
   ⟨0x109f6, "MEROITIC_CURSIVE_FRACTION_", ["ONE_TWELFTH TWO_TWELFTHS THREE_TWELFTHS",
    "FOUR_TWELFTHS FIVE_TWELFTHS SIX_TWELFTHS SEVEN_TWELFTHS EIGHT_TWELFTHS NINE_TWELFTHS",
    "TEN_TWELFTHS"]⟩,
   ⟨0x16800, "BAMUM_LETTER_PHASE-A_", ["NGKUE_MFON GBIEE_FON PON_MFON_PIPAEMGBIEE",
    "PON_MFON_PIPAEMBA NAA_MFON SHUENSHUET TITA_MFON NZA_MFON SHINDA_PA_NJI",
    "PON_PA_NJI_PIPAEMGBIEE PON_PA_NJI_PIPAEMBA MAEMBGBIEE TU_MAEMBA NGANGU MAEMVEUX MANSUAE",
    "MVEUAENGAM SEUNYAM NTOQPEN KEUKEUTNDA NKINDI SUU NGKUENZEUM LAPAQ LET_KUT NTAP_MFAA MAEKEUP",
    "PASHAE GHEUAERAE PAMSHAE MON_NGGEUAET NZUN_MEUT U_YUQ_NAE GHEUAEGHEUAE NTAP_NTAA SISA",
    "MGBASA MEUNJOMNDEUQ MOOMPUQ KAFA PA_LEERAEWA NDA_LEERAEWA PET MAEMKPEN NIKA PUP TUAEP LUAEP",
    "SONJAM TEUTEUWEN MAENYI KET NDAANGGEUAET KUOQ MOOMEUT SHUM LOMMAE FIRI ROM KPOQ SOQ",
    "MAP_PIEET SHIRAE NTAP SHOQ_NSHUT_YUM NYIT_MONGKEUAEQ PAARAE NKAARAE UNKNOWN NGGEN MAESI",
    "NJAM MBANYI NYET TEUAEN SOT PAAM NSHIEE MAEM NYI KAQ NSHA VEE LU NEN NAQ MBAQ"]⟩,
   ⟨0x16857, "BAMUM_LETTER_PHASE-B_", ["NSHUET TU_MAEMGBIEE SIEE SET_TU LOM_NTEUM MBA_MAELEE",
    "KIEEM YEURAE MBAARAE KAM PEESHI YAFU_LEERAEWA LAM_NSHUT_NYAM NTIEE_SHEUOQ NDU_NJAA",
    "GHEUGHEUAEM PIT TU_NSIEE SHET_NJAQ SHEUAEQTU MFON_TEUAEQ MBIT_MBAAKET NYI_NTEUM KEUPUQ",
    "GHEUGHEN KEUYEUX LAANAE PARUM VEUM NGKINDI_MVOP NGGEU_MBU WUAET SAKEUAE TAAM MEUQ NGGUOQ",
    "NGGUOQ_LARGE MFIYAQ SUE MBEURI MONTIEEN NYAEMAE PUNGAAM MEUT_NGGEET FEUX MBUOQ FEE KEUAEM",
    "MA_NJEUAENA MA_NJUQA LET NGGAAM NSEN MA KIQ NGOM"]⟩,
   ⟨0x1688f, "BAMUM_LETTER_PHASE-C_", ["NGKUE_MAEMBA NZA YUM WANGKUOQ NGGEN NDEUAEREE NGKAQ",
    "GHARAE MBEEKEET GBAYI NYIR_MKPARAQ_MEUN NTU_MBIT MBEUM PIRIEEN NDOMBU MBAA_CABBAGE-TREE",
    "KEUSHEUAEP GHAP KEUKAQ YU_MUOMAE NZEUM MBUE NSEUAEN MBIT YEUQ KPARAQ KAA SEUX NDIDA TAASHAE",
    "NJUEQ TITA_YUE SUAET NGGUAEN_NYAM VEUX NANSANAQ MA_KEUAERI NTAA NGGUON LAP MBIRIEEN MGBASAQ",
    "NTEUNGBA TEUTEUX NGGUM FUE NDEUT NSA NSHAQ BUNG VEUAEPEN MBERAE RU NJAEM LAM TITUAEP",
    "NSUOT_NGOM NJEEEE KET NGGU MAESI MBUAEM LU KUT NJAM NGOM WUP NGGUEET NSOM NTEN KUOP_NKAARAE",
    "NSUN NDAM MA_NSIEE YAA NDAP SHUEQ SETFON MBI MAEMBA MBANYI KEUSEUX MBEUX KEUM MBAA_PICKET",
    "YUWOQ NJEUX MIEE MUAE SHIQ KEN_LAW KEN_FATIGUE NGAQ NAQ LIQ PIN PEN TET"]⟩,
   ⟨0x168f1, "BAMUM_LETTER_PHASE-D_", ["MBUO WAP NJI MFON NJIEE LIEE NJEUT NSHEE NGGAAMAE NYAM",
    "WUAEN NGKUN SHEE NGKAP KEUAETMEUN TEUT SHEUAE NJAP SUE KET YAEMMAE KUOM SAP MFEUT NDEUX",
    "MALEERI MEUT SEUAEQ YEN NJEUAEM KEUOT_MBUAE NGKEURI TU GHAA NGKYEE FEUFEUAET NDEE MGBOFUM",
    "LEUAEP NDON MONI MGBEUN PUUT MGBIEE MFO LUM NSIEEP MBAA KWAET NYET TEUAEN SOT YUWOQ KEUM",
    "RAEM TEEEE NGKEUAEQ MFEUAE NSIEET KEUP PIP PEUTAE NYUE LET NGGAAM MFIEE NGGWAEN YUOM PAP",
    "YUOP NDAM NTEUM SUAE KUN NGGEUX NGKIEE TUOT MEUN KUQ NSUM TEUN MAENJET NGGAP LEUM NGGUOM",
    "NSHUT NJUEQ GHEUAE KU REN_OLD TAE TOQ NYI RII LEEEE MEEEE M SUU MU SHII SHEUX KYEE NU SHU",
    "NTEE PEE NI SHOQ PUQ MVOP LOQ REN_MUCH TI NTUU MBAA_SEVEN SAQ FAA"]⟩,
   ⟨0x16966, "BAMUM_LETTER_PHASE-E_", ["NDAP TOON MBEUM LAP VOM LOON PAA SOM RAQ NSHUOP NDUN",
    "PUAE TAM NGKA KPEUX WUO SEE NGGEUAET PAAM TOO KUOP LOM NSHIEE NGOP MAEM NGKEUX NGOQ NSHUE",
    "RIMGBA NJEUX PEEM SAA NGGURAE MGBA GHEUX NGKEUAEM NJAEMLI MAP LOOT NGGEEEE NDIQ TAEN_NTEUM",
    "SET PUM NDAA_SOFTNESS NGGUAESHAE_NYAM YIEE GHEUN TUAE YEUAE PO TUMAE KEUAE SUAEN TEUAEQ",
    "VEUAE WEUX LAAM PU TAAQ GHAAMAE NGEUREUT SHEUAEQ MGBEN MBEE NZAQ NKOM GBET TUM KUET YAP",
    "NYI_CLEAVER YIT MFEUQ NDIAQ PIEEQ YUEQ LEUAEM FUE GBEUX NGKUP KET MAE NGKAAMI GHET FA NTUM",
    "PEUT YEUM NGGEUAE NYI_BETWEEN NZUQ POON MIEE FUET NAE MUAE GHEUAE FU_I MVI PUAQ NGKUM KUT",
    "PIET NTAP YEUAET NGGUP PA_PEOPLE FU_CALL FOM NJEE A TOQ O I LAQ PA_PLURAL TAA TAQ",
    "NDAA_MY_HOUSE SHIQ YEUX NGUAE YUAEN YOQ_SWIMMING YOQ_COVER YUQ YUN KEUX PEUX NJEE_EPOCH PUE",
    "WUE FEE VEE LU MI REUX RAE NGUAET NGA SHO SHOQ FU_REMEDY NA PI LOQ KO MEN MA MAQ TEU KI MON",
    "TEN FAQ GHOM"]⟩,
   ⟨0x16a03, "BAMUM_LETTER_PHASE-F_", ["KA U KU EE REE TAE NYI LA RII RIEE MEEEE TAA NDAA NJAEM",
    "M SUU SHII SI SEUX KYEE KET NUAE NU NJUAE YOQ SHU YA NSHA PEUX NTEE WUE PEE RU NI REUX KEN",
    "NGKWAEN NGGA SHO PUAE FOM WA LI LOQ KO MBEN REN MA MO MBAA TET KPA SAMBA VUEQ"]⟩,
   ⟨0x16ad0, "BASSA_VAH_LETTER_", ["ENNI KA SE FA MBE YIE GAH DHII KPAH JO HWAH WA ZO GBU DO CE",
    "UWU TO BA VU YEIN PA WADDA A O OO U EE E I"]⟩,
   ⟨0x16af0, "BASSA_VAH_COMBINING_", ["HIGH_TONE LOW_TONE MID_TONE LOW-MID_TONE HIGH-LOW_TONE"]⟩,
   ⟨0x16af5, "BASSA_VAH_FULL_", ["STOP"]⟩,
   ⟨0x16e40, "MEDEFAIDRIN_CAPITAL_LETTER_", ["M S V W ATIU Z KP P T G F I K A J E B C U YU L Q",
    "HP NY X D OE N R O AI Y"]⟩,
   ⟨0x16e60, "MEDEFAIDRIN_SMALL_LETTER_", ["M S V W ATIU Z KP P T G F I K A J E B C U YU L Q HP",
    "NY X D OE N R O AI Y"]⟩,
   ⟨0x16e80, "MEDEFAIDRIN_DIGIT_", ["ZERO ONE TWO THREE FOUR FIVE SIX SEVEN EIGHT NINE"]⟩,
   ⟨0x16e8a, "MEDEFAIDRIN_NUMBER_", ["TEN ELEVEN TWELVE THIRTEEN FOURTEEN FIFTEEN SIXTEEN",
    "SEVENTEEN EIGHTEEN NINETEEN"]⟩,
   ⟨0x16e94, "MEDEFAIDRIN_", ["DIGIT_ONE_ALTERNATE_FORM DIGIT_TWO_ALTERNATE_FORM",
    "DIGIT_THREE_ALTERNATE_FORM COMMA FULL_STOP SYMBOL_AIVA EXCLAMATION_OH"]⟩,
   ⟨0x1e7e0, "ETHIOPIC_SYLLABLE_", ["HHYA HHYU HHYI HHYAA HHYEE HHYE HHYO � GURAGE_HHWA HHWI",
    "HHWEE HHWE"]⟩,
   ⟨0x1e7ed, "ETHIOPIC_SYLLABLE_GURAGE_", ["MWI MWEE � QWI QWEE QWE BWI BWEE KWI KWEE KWE GWI",
    "GWEE GWE FWI FWEE PWI PWEE"]⟩,
   ⟨0x1e800, "MENDE_KIKAKUI_SYLLABLE_", ["M001_KI M002_KA M003_KU M065_KEE M095_KE M076_KOO",
    "M048_KO M179_KUA M004_WI M005_WA M006_WU M126_WEE M118_WE M114_WOO M045_WO M194_WUI",
    "M143_WEI M061_WVI M049_WVA M139_WVE M007_MIN M008_MAN M009_MUN M059_MEN M094_MON M154_MUAN",
    "M189_MUEN M010_BI M011_BA M012_BU M150_BEE M097_BE M103_BOO M138_BO M013_I M014_A M015_U",
    "M163_EE M100_E M165_OO M147_O M137_EI M131_IN M135_IN M195_AN M178_EN M019_SI M020_SA",
    "M021_SU M162_SEE M116_SE M136_SOO M079_SO M196_SIA M025_LI M026_LA M027_LU M084_LEE M073_LE",
    "M054_LOO M153_LO M110_LONG_LE M016_DI M017_DA M018_DU M089_DEE M180_DOO M181_DO M022_TI",
    "M023_TA M024_TU M091_TEE M055_TE M104_TOO M069_TO M028_JI M029_JA M030_JU M157_JEE M113_JE",
    "M160_JOO M063_JO M175_LONG_JO M031_YI M032_YA M033_YU M109_YEE M080_YE M141_YOO M121_YO",
    "M034_FI M035_FA M036_FU M078_FEE M075_FE M133_FOO M088_FO M197_FUA M101_FAN M037_NIN",
    "M038_NAN M039_NUN M117_NEN M169_NON M176_HI M041_HA M186_HU M040_HEE M096_HE M042_HOO",
    "M140_HO M083_HEEI M128_HOOU M053_HIN M130_HAN M087_HUN M052_HEN M193_HON M046_HUAN",
    "M090_NGGI M043_NGGA M082_NGGU M115_NGGEE M146_NGGE M156_NGGOO M120_NGGO M159_NGGAA",
    "M127_NGGUA M086_LONG_NGGE M106_LONG_NGGOO M183_LONG_NGGO M155_GI M111_GA M168_GU M190_GEE",
    "M166_GUEI M167_GUAN M184_NGEN M057_NGON M177_NGUAN M068_PI M099_PA M050_PU M081_PEE M051_PE",
    "M102_POO M066_PO M145_MBI M062_MBA M122_MBU M047_MBEE M188_MBEE M072_MBE M172_MBOO M174_MBO",
    "M187_MBUU M161_LONG_MBE M105_LONG_MBOO M142_LONG_MBO M132_KPI M092_KPA M074_KPU M044_KPEE",
    "M108_KPE M112_KPOO M158_KPO M124_GBI M056_GBA M148_GBU M093_GBEE M107_GBE M071_GBOO",
    "M070_GBO M171_RA M123_NDI M129_NDA M125_NDU M191_NDEE M119_NDE M067_NDOO M064_NDO M152_NJA",
    "M192_NJU M149_NJEE M134_NJOO M182_VI M185_VA M151_VU M173_VEE M085_VE M144_VOO M077_VO",
    "M164_NYIN M058_NYAN M170_NYUN M098_NYEN M060_NYON"]⟩,
   ⟨0x1e8c7, "MENDE_KIKAKUI_DIGIT_", ["ONE TWO THREE FOUR FIVE SIX SEVEN EIGHT NINE"]⟩,
   ⟨0x1e8d0, "MENDE_KIKAKUI_COMBINING_NUMBER_", ["TEENS TENS HUNDREDS THOUSANDS TEN_THOUSANDS",
    "HUNDRED_THOUSANDS MILLIONS"]⟩,
   ⟨0x1e900, "ADLAM_CAPITAL_LETTER_", ["ALIF DAALI LAAM MIIM BA SINNYIIYHE PE BHE RA E FA I O",
    "DHA YHE WAW NUN KAF YA U JIIM CHI HA QAAF GA NYA TU NHA VA KHA GBE ZAL KPO SHA"]⟩,
   ⟨0x1e922, "ADLAM_SMALL_LETTER_", ["ALIF DAALI LAAM MIIM BA SINNYIIYHE PE BHE RA E FA I O DHA",
    "YHE WAW NUN KAF YA U JIIM CHI HA QAAF GA NYA TU NHA VA KHA GBE ZAL KPO SHA"]⟩,
   ⟨0x1e944, "ADLAM_", ["ALIF_LENGTHENER VOWEL_LENGTHENER GEMINATION_MARK HAMZA",
    "CONSONANT_MODIFIER GEMINATE_CONSONANT_MODIFIER NUKTA NASALIZATION_MARK"]⟩,
   ⟨0x1e950, "ADLAM_DIGIT_", ["ZERO ONE TWO THREE FOUR FIVE SIX SEVEN EIGHT NINE"]⟩,
   ⟨0x1e95e, "ADLAM_INITIAL_", ["EXCLAMATION_MARK QUESTION_MARK"]⟩]

end SqlRoutes.Text.Names
