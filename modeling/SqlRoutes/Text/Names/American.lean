import SqlRoutes.Text.Names.Series

namespace SqlRoutes.Text.Names

def american : List Series :=
  [⟨0x13a0, "CHEROKEE_LETTER_", ["A E I O U V GA KA GE GI GO GU GV HA HE HI HO HU HV LA LE LI LO",
    "LU LV MA ME MI MO MU NA HNA NAH NE NI NO NU NV QUA QUE QUI QUO QUU QUV SA S SE SI SO SU SV",
    "DA TA DE TE DI TI DO DU DV DLA TLA TLE TLI TLO TLU TLV TSA TSE TSI TSO TSU TSV WA WE WI WO",
    "WU WV YA YE YI YO YU YV MV"]⟩,
   ⟨0x13f8, "CHEROKEE_SMALL_LETTER_", ["YE YI YO YU YV MV"]⟩,
   ⟨0x1400, "CANADIAN_SYLLABICS_", ["HYPHEN E AAI I II O OO Y-CREE_OO CARRIER_EE CARRIER_I A AA",
    "WE WEST-CREE_WE WI WEST-CREE_WI WII WEST-CREE_WII WO WEST-CREE_WO WOO WEST-CREE_WOO",
    "NASKAPI_WOO WA WEST-CREE_WA WAA WEST-CREE_WAA NASKAPI_WAA AI Y-CREE_W GLOTTAL_STOP",
    "FINAL_ACUTE FINAL_GRAVE FINAL_BOTTOM_HALF_RING FINAL_TOP_HALF_RING FINAL_RIGHT_HALF_RING",
    "FINAL_RING FINAL_DOUBLE_ACUTE FINAL_DOUBLE_SHORT_VERTICAL_STROKES FINAL_MIDDLE_DOT",
    "FINAL_SHORT_HORIZONTAL_STROKE FINAL_PLUS FINAL_DOWN_TACK EN IN ON AN PE PAAI PI PII PO POO",
    "Y-CREE_POO CARRIER_HEE CARRIER_HI PA PAA PWE WEST-CREE_PWE PWI WEST-CREE_PWI PWII",
    "WEST-CREE_PWII PWO WEST-CREE_PWO PWOO WEST-CREE_PWOO PWA WEST-CREE_PWA PWAA WEST-CREE_PWAA",
    "Y-CREE_PWAA P WEST-CREE_P CARRIER_H TE TAAI TI TII TO TOO Y-CREE_TOO CARRIER_DEE CARRIER_DI",
    "TA TAA TWE WEST-CREE_TWE TWI WEST-CREE_TWI TWII WEST-CREE_TWII TWO WEST-CREE_TWO TWOO",
    "WEST-CREE_TWOO TWA WEST-CREE_TWA TWAA WEST-CREE_TWAA NASKAPI_TWAA T TTE TTI TTO TTA KE KAAI",
    "KI KII KO KOO Y-CREE_KOO KA KAA KWE WEST-CREE_KWE KWI WEST-CREE_KWI KWII WEST-CREE_KWII KWO",
    "WEST-CREE_KWO KWOO WEST-CREE_KWOO KWA WEST-CREE_KWA KWAA WEST-CREE_KWAA NASKAPI_KWAA K KW",
    "SOUTH-SLAVEY_KEH SOUTH-SLAVEY_KIH SOUTH-SLAVEY_KOH SOUTH-SLAVEY_KAH CE CAAI CI CII CO COO",
    "Y-CREE_COO CA CAA CWE WEST-CREE_CWE CWI WEST-CREE_CWI CWII WEST-CREE_CWII CWO WEST-CREE_CWO",
    "CWOO WEST-CREE_CWOO CWA WEST-CREE_CWA CWAA WEST-CREE_CWAA NASKAPI_CWAA C SAYISI_TH ME MAAI",
    "MI MII MO MOO Y-CREE_MOO MA MAA MWE WEST-CREE_MWE MWI WEST-CREE_MWI MWII WEST-CREE_MWII MWO",
    "WEST-CREE_MWO MWOO WEST-CREE_MWOO MWA WEST-CREE_MWA MWAA WEST-CREE_MWAA NASKAPI_MWAA M",
    "WEST-CREE_M MH ATHAPASCAN_M SAYISI_M NE NAAI NI NII NO NOO Y-CREE_NOO NA NAA NWE",
    "WEST-CREE_NWE NWA WEST-CREE_NWA NWAA WEST-CREE_NWAA NASKAPI_NWAA N CARRIER_NG NH LE LAAI LI",
    "LII LO LOO Y-CREE_LOO LA LAA LWE WEST-CREE_LWE LWI WEST-CREE_LWI LWII WEST-CREE_LWII LWO",
    "WEST-CREE_LWO LWOO WEST-CREE_LWOO LWA WEST-CREE_LWA LWAA WEST-CREE_LWAA L WEST-CREE_L",
    "MEDIAL_L SE SAAI SI SII SO SOO Y-CREE_SOO SA SAA SWE WEST-CREE_SWE SWI WEST-CREE_SWI SWII",
    "WEST-CREE_SWII SWO WEST-CREE_SWO SWOO WEST-CREE_SWOO SWA WEST-CREE_SWA SWAA WEST-CREE_SWAA",
    "NASKAPI_SWAA S ATHAPASCAN_S SW BLACKFOOT_S MOOSE-CREE_SK NASKAPI_SKW NASKAPI_S-W",
    "NASKAPI_SPWA NASKAPI_STWA NASKAPI_SKWA NASKAPI_SCWA SHE SHI SHII SHO SHOO SHA SHAA SHWE",
    "WEST-CREE_SHWE SHWI WEST-CREE_SHWI SHWII WEST-CREE_SHWII SHWO WEST-CREE_SHWO SHWOO",
    "WEST-CREE_SHWOO SHWA WEST-CREE_SHWA SHWAA WEST-CREE_SHWAA SH YE YAAI YI YII YO YOO",
    "Y-CREE_YOO YA YAA YWE WEST-CREE_YWE YWI WEST-CREE_YWI YWII WEST-CREE_YWII YWO WEST-CREE_YWO",
    "YWOO WEST-CREE_YWOO YWA WEST-CREE_YWA YWAA WEST-CREE_YWAA NASKAPI_YWAA Y BIBLE-CREE_Y",
    "WEST-CREE_Y SAYISI_YI RE R-CREE_RE WEST-CREE_LE RAAI RI RII RO ROO WEST-CREE_LO RA RAA",
    "WEST-CREE_LA RWAA WEST-CREE_RWAA R WEST-CREE_R MEDIAL_R FE FAAI FI FII FO FOO FA FAA FWAA",
    "WEST-CREE_FWAA F THE N-CREE_THE THI N-CREE_THI THII N-CREE_THII THO THOO THA THAA THWAA",
    "WEST-CREE_THWAA TH TTHE TTHI TTHO TTHA TTH TYE TYI TYO TYA NUNAVIK_HE NUNAVIK_HI",
    "NUNAVIK_HII NUNAVIK_HO NUNAVIK_HOO NUNAVIK_HA NUNAVIK_HAA NUNAVIK_H NUNAVUT_H HK QAAI QI",
    "QII QO QOO QA QAA Q TLHE TLHI TLHO TLHA WEST-CREE_RE WEST-CREE_RI WEST-CREE_RO WEST-CREE_RA",
    "NGAAI NGI NGII NGO NGOO NGA NGAA NG NNG SAYISI_SHE SAYISI_SHI SAYISI_SHO SAYISI_SHA",
    "WOODS-CREE_THE WOODS-CREE_THI WOODS-CREE_THO WOODS-CREE_THA WOODS-CREE_TH LHI LHII LHO LHOO",
    "LHA LHAA LH TH-CREE_THE TH-CREE_THI TH-CREE_THII TH-CREE_THO TH-CREE_THOO TH-CREE_THA",
    "TH-CREE_THAA TH-CREE_TH AIVILIK_B"]⟩,
   ⟨0x15b0, "CANADIAN_SYLLABICS_BLACKFOOT_", ["E I O A WE WI WO WA NE NI NO NA KE KI KO KA"]⟩,
   ⟨0x15c0, "CANADIAN_SYLLABICS_SAYISI_", ["HE HI HO HA"]⟩,
   ⟨0x15c4, "CANADIAN_SYLLABICS_CARRIER_", ["GHU GHO GHE GHEE GHI GHA RU RO RE REE RI RA WU WO",
    "WE WEE WI WA HWU HWO HWE HWEE HWI HWA THU THO THE THEE THI THA TTU TTO TTE TTEE TTI TTA PU",
    "PO PE PEE PI PA P GU GO GE GEE GI GA KHU KHO KHE KHEE KHI KHA KKU KKO KKE KKEE KKI KKA KK",
    "NU NO NE NEE NI NA MU MO ME MEE MI MA YU YO YE YEE YI YA JU"]⟩,
   ⟨0x1615, "CANADIAN_SYLLABICS_", ["SAYISI_JU CARRIER_JO CARRIER_JE CARRIER_JEE CARRIER_JI",
    "SAYISI_JI"]⟩,
   ⟨0x161b, "CANADIAN_SYLLABICS_CARRIER_", ["JA JJU JJO JJE JJEE JJI JJA LU LO LE LEE LI LA DLU",
    "DLO DLE DLEE DLI DLA LHU LHO LHE LHEE LHI LHA TLHU TLHO TLHE TLHEE TLHI TLHA TLU TLO TLE",
    "TLEE TLI TLA ZU ZO ZE ZEE ZI ZA Z INITIAL_Z DZU DZO DZE DZEE DZI DZA SU SO SE SEE SI SA SHU",
    "SHO SHE SHEE SHI SHA SH TSU TSO TSE TSEE TSI TSA CHU CHO CHE CHEE CHI CHA TTSU TTSO TTSE",
    "TTSEE TTSI TTSA"]⟩,
   ⟨0x166d, "CANADIAN_SYLLABICS_", ["CHI_SIGN FULL_STOP QAI NGAI NNGI NNGII NNGO NNGOO NNGA",
    "NNGAA WOODS-CREE_THWEE WOODS-CREE_THWI WOODS-CREE_THWII WOODS-CREE_THWO WOODS-CREE_THWOO",
    "WOODS-CREE_THWA WOODS-CREE_THWAA WOODS-CREE_FINAL_TH BLACKFOOT_W"]⟩,
   ⟨0x18b0, "CANADIAN_SYLLABICS_", ["OY AY AAY WAY POY PAY PWOY TAY KAY KWAY MAY NOY NAY LAY SOY",
    "SAY SHOY SHAY SHWOY YOY YAY RAY NWI OJIBWAY_NWI NWII OJIBWAY_NWII NWO OJIBWAY_NWO NWOO",
    "OJIBWAY_NWOO RWEE RWI RWII RWO RWOO RWA OJIBWAY_P OJIBWAY_T OJIBWAY_K OJIBWAY_C OJIBWAY_M",
    "OJIBWAY_N OJIBWAY_S OJIBWAY_SH EASTERN_W WESTERN_W FINAL_SMALL_RING FINAL_RAISED_DOT",
    "R-CREE_RWE WEST-CREE_LOO WEST-CREE_LAA THWE THWA TTHWE TTHOO TTHAA TLHWE TLHOO SAYISI_SHWE",
    "SAYISI_SHOO SAYISI_HOO CARRIER_GWU CARRIER_DENE_GEE CARRIER_GAA CARRIER_GWA SAYISI_JUU",
    "CARRIER_JWA BEAVER_DENE_L BEAVER_DENE_R CARRIER_DENTAL_S"]⟩,
   ⟨0xab70, "CHEROKEE_SMALL_LETTER_", ["A E I O U V GA KA GE GI GO GU GV HA HE HI HO HU HV LA LE",
    "LI LO LU LV MA ME MI MO MU NA HNA NAH NE NI NO NU NV QUA QUE QUI QUO QUU QUV SA S SE SI SO",
    "SU SV DA TA DE TE DI TI DO DU DV DLA TLA TLE TLI TLO TLU TLV TSA TSE TSI TSO TSU TSV WA WE",
    "WI WO WU WV YA"]⟩,
   ⟨0x10400, "DESERET_CAPITAL_LETTER_", ["LONG_I LONG_E LONG_A LONG_AH LONG_O LONG_OO SHORT_I",
    "SHORT_E SHORT_A SHORT_AH SHORT_O SHORT_OO AY OW WU YEE H PEE BEE TEE DEE CHEE JEE KAY GAY",
    "EF VEE ETH THEE ES ZEE ESH ZHEE ER EL EM EN ENG OI EW"]⟩,
   ⟨0x10428, "DESERET_SMALL_LETTER_", ["LONG_I LONG_E LONG_A LONG_AH LONG_O LONG_OO SHORT_I",
    "SHORT_E SHORT_A SHORT_AH SHORT_O SHORT_OO AY OW WU YEE H PEE BEE TEE DEE CHEE JEE KAY GAY",
    "EF VEE ETH THEE ES ZEE ESH ZHEE ER EL EM EN ENG OI EW"]⟩,
   ⟨0x104b0, "OSAGE_CAPITAL_LETTER_", ["A AI AIN AH BRA CHA EHCHA E EIN HA HYA I KA EHKA KYA LA",
    "MA NA O OIN PA EHPA SA SHA TA EHTA TSA EHTSA TSHA DHA U WA KHA GHA ZA ZHA"]⟩,
   ⟨0x104d8, "OSAGE_SMALL_LETTER_", ["A AI AIN AH BRA CHA EHCHA E EIN HA HYA I KA EHKA KYA LA MA",
    "NA O OIN PA EHPA SA SHA TA EHTA TSA EHTSA TSHA DHA U WA KHA GHA ZA ZHA"]⟩,
   ⟨0x11ab0, "CANADIAN_SYLLABICS_NATTILIK_", ["HI HII HO HOO HA HAA SHRI SHRII SHRO SHROO SHRA",
    "SHRAA"]⟩,
   ⟨0x11abc, "CANADIAN_SYLLABICS_", ["SPE SPI SPO SPA"]⟩,
   ⟨0x1d2e0, "MAYAN_NUMERAL_", ["ZERO ONE TWO THREE FOUR FIVE SIX SEVEN EIGHT NINE TEN ELEVEN",
    "TWELVE THIRTEEN FOURTEEN FIFTEEN SIXTEEN SEVENTEEN EIGHTEEN NINETEEN"]⟩]

end SqlRoutes.Text.Names
