import SqlRoutes.Text.Names.Series

namespace SqlRoutes.Text.Names

def musical : List Series :=
  [⟨0x1cf00, "ZNAMENNY_COMBINING_MARK_", ["GORAZDO_NIZKO_S_KRYZHEM_ON_LEFT",
    "NIZKO_S_KRYZHEM_ON_LEFT TSATA_ON_LEFT GORAZDO_NIZKO_ON_LEFT NIZKO_ON_LEFT SREDNE_ON_LEFT",
    "MALO_POVYSHE_ON_LEFT POVYSHE_ON_LEFT VYSOKO_ON_LEFT MALO_POVYSHE_S_KHOKHLOM_ON_LEFT",
    "POVYSHE_S_KHOKHLOM_ON_LEFT VYSOKO_S_KHOKHLOM_ON_LEFT GORAZDO_NIZKO_S_KRYZHEM_ON_RIGHT",
    "NIZKO_S_KRYZHEM_ON_RIGHT TSATA_ON_RIGHT GORAZDO_NIZKO_ON_RIGHT NIZKO_ON_RIGHT",
    "SREDNE_ON_RIGHT MALO_POVYSHE_ON_RIGHT POVYSHE_ON_RIGHT VYSOKO_ON_RIGHT",
    "MALO_POVYSHE_S_KHOKHLOM_ON_RIGHT POVYSHE_S_KHOKHLOM_ON_RIGHT VYSOKO_S_KHOKHLOM_ON_RIGHT",
    "TSATA_S_KRYZHEM MALO_POVYSHE_S_KRYZHEM STRANNO_MALO_POVYSHE POVYSHE_S_KRYZHEM",
    "POVYSHE_STRANNO VYSOKO_S_KRYZHEM MALO_POVYSHE_STRANNO GORAZDO_VYSOKO ZELO ON RAVNO TIKHAYA",
    "BORZAYA UDARKA PODVERTKA LOMKA KUPNAYA KACHKA ZEVOK SKOBA RAZSEKA KRYZH_ON_LEFT"]⟩,
   ⟨0x1cf30, "ZNAMENNY_COMBINING_TONAL_RANGE_MARK_", ["MRACHNO SVETLO TRESVETLO"]⟩,
   ⟨0x1cf33, "ZNAMENNY_COMBINING_MARK_", ["ZADERZHKA DEMESTVENNY_ZADERZHKA OTSECHKA PODCHASHIE",
    "PODCHASHIE_WITH_VERTICAL_STROKE CHASHKA CHASHKA_POLNAYA OBLACHKO SOROCHYA_NOZHKA TOCHKA",
    "DVOETOCHIE"]⟩,
   ⟨0x1cf3e, "ZNAMENNY_COMBINING_", ["ATTACHING_VERTICAL_OMET MARK_CURVED_OMET MARK_KRYZH",
    "LOWER_TONAL_RANGE_INDICATOR"]⟩,
   ⟨0x1cf42, "ZNAMENNY_PRIZNAK_MODIFIER_", ["LEVEL-2 LEVEL-3 DIRECTION_FLIP KRYZH ROG"]⟩,
   ⟨0x1cf50, "ZNAMENNY_NEUME_", ["KRYUK KRYUK_TIKHY PARAKLIT DVA_V_CHELNU KLYUCH ZANOZHEK",
    "STOPITSA STOPITSA_S_OCHKOM PEREVODKA PEREVODKA_NEPOSTOYANNAYA STOPITSA_WITH_SOROCHYA_NOZHKA",
    "CHELYUSTKA PALKA ZAPYATAYA GOLUBCHIK_BORZY GOLUBCHIK_TIKHY GOLUBCHIK_MRACHNY",
    "GOLUBCHIK_SVETLY GOLUBCHIK_TRESVETLY VRAKHIYA_PROSTAYA VRAKHIYA_MRACHNAYA VRAKHIYA_SVETLAYA",
    "VRAKHIYA_TRESVETLAYA VRAKHIYA_KLYUCHEVAYA_PROSTAYA VRAKHIYA_KLYUCHEVAYA_MRACHNAYA",
    "VRAKHIYA_KLYUCHEVAYA_SVETLAYA VRAKHIYA_KLYUCHEVAYA_TRESVETLAYA DOUBLE_ZAPYATAYA",
    "REVERSED_CHELYUSTKA DERBITSA KHAMILO CHASHKA PODCHASHIE SKAMEYTSA_MRACHNAYA",
    "SKAMEYTSA_SVETLAYA SKAMEYTSA_TRESVETLAYA SKAMEYTSA_TIKHAYA DEMESTVENNY_KLYUCH",
    "SKAMEYTSA_KLYUCHEVAYA_SVETLAYA SKAMEYTSA_KLYUCHENEPOSTOYANNAYA",
    "SKAMEYTSA_KLYUCHEVAYA_TIKHAYA SKAMEYTSA_DVOECHELNAYA_PROSTAYA",
    "SKAMEYTSA_DVOECHELNAYA_SVETLAYA SKAMEYTSA_DVOECHELNAYA_NEPOSTOYANNAYA",
    "SKAMEYTSA_DVOECHELNAYA_KLYUCHEVAYA SLOZHITIE SLOZHITIE_S_ZAPYATOY SLOZHITIE_ZAKRYTOE",
    "SLOZHITIE_S_KRYZHEM KRYZH ROG FITA KOBYLA ZMEYTSA STATYA STATYA_S_ZAPYATOY STATYA_S_KRYZHEM",
    "STATYA_S_ZAPYATOY_I_KRYZHEM STATYA_S_KRYZHEM_I_ZAPYATOY STATYA_ZAKRYTAYA",
    "STATYA_ZAKRYTAYA_S_ZAPYATOY STATYA_S_ROGOM STATYA_S_DVUMYA_ZAPYATYMI",
    "STATYA_S_ZAPYATOY_I_PODCHASHIEM POLKULIZMY STATYA_NEPOSTOYANNAYA"]⟩,
   ⟨0x1cf92, "ZNAMENNY_NEUME_STRELA_", ["PROSTAYA MRACHNOTIKHAYA KRYZHEVAYA POLUPOVODNAYA",
    "POVODNAYA NEPOSTOYANNAYA KLYUCHEPOVODNAYA KLYUCHENEPOSTOYANNAYA TIKHAYA_PUTNAYA",
    "DVOECHELNAYA DVOECHELNOKRYZHEVAYA DVOECHELNOPOVODNAYA DVOECHELNAYA_KLYUCHEVAYA",
    "DVOECHELNOPOVODNAYA_KLYUCHEVAYA GROMNAYA_WITH_SINGLE_ZAPYATAYA",
    "GROMOPOVODNAYA_WITH_SINGLE_ZAPYATAYA GROMNAYA GROMOPOVODNAYA",
    "GROMOPOVODNAYA_WITH_DOUBLE_ZAPYATAYA GROMOKRYZHEVAYA GROMOKRYZHEVAYA_POVODNAYA"]⟩,
   ⟨0x1cfa7, "ZNAMENNY_NEUME_", ["MECHIK MECHIK_POVODNY MECHIK_KLYUCHEVOY MECHIK_KLYUCHEPOVODNY",
    "MECHIK_KLYUCHENEPOSTOYANNY STRELA_TRYASOGLASNAYA STRELA_TRYASOPOVODNAYA",
    "STRELA_TRYASOSTRELNAYA OSOKA OSOKA_SVETLAYA OSOKA_TRESVETLAYA OSOKA_KRYUKOVAYA_SVETLAYA",
    "OSOKA_KLYUCHEVAYA_SVETLAYA OSOKA_KLYUCHEVAYA_NEPOSTOYANNAYA STRELA_KRYUKOVAYA"]⟩,
   ⟨0x1cfb6, "ZNAMENNY_NEUME_STRELA_KRYUKOVAYA_", ["POVODNAYA GROMNAYA_WITH_SINGLE_ZAPYATAYA",
    "GROMOPOVODNAYA_WITH_SINGLE_ZAPYATAYA GROMNAYA GROMOPOVODNAYA",
    "GROMOPOVODNAYA_WITH_DOUBLE_ZAPYATAYA GROMOKRYZHEVAYA GROMOKRYZHEVAYA_POVODNAYA TRYASKA"]⟩,
   ⟨0x1cfbf, "ZNAMENNY_NEUME_", ["KUFISMA OBLAKO DUDA NEMKA PAUK"]⟩,
   ⟨0x1d000, "BYZANTINE_MUSICAL_SYMBOL_", ["PSILI DASEIA PERISPOMENI OXEIA_EKFONITIKON",
    "OXEIA_DIPLI VAREIA_EKFONITIKON VAREIA_DIPLI KATHISTI SYRMATIKI PARAKLITIKI YPOKRISIS",
    "YPOKRISIS_DIPLI KREMASTI APESO_EKFONITIKON EXO_EKFONITIKON TELEIA KENTIMATA APOSTROFOS",
    "APOSTROFOS_DIPLI SYNEVMA THITA OLIGON_ARCHAION GORGON_ARCHAION PSILON CHAMILON VATHY",
    "ISON_ARCHAION KENTIMA_ARCHAION KENTIMATA_ARCHAION SAXIMATA PARICHON STAVROS_APODEXIA",
    "OXEIAI_ARCHAION VAREIAI_ARCHAION APODERMA_ARCHAION APOTHEMA KLASMA REVMA PIASMA_ARCHAION",
    "TINAGMA ANATRICHISMA SEISMA SYNAGMA_ARCHAION SYNAGMA_META_STAVROU OYRANISMA_ARCHAION THEMA",
    "LEMOI DYO TRIA TESSERA KRATIMATA APESO_EXO_NEO FTHORA_ARCHAION IMIFTHORA TROMIKON_ARCHAION",
    "KATAVA_TROMIKON PELASTON PSIFISTON KONTEVMA CHOREVMA_ARCHAION RAPISMA PARAKALESMA_ARCHAION",
    "PARAKLITIKI_ARCHAION ICHADIN NANA PETASMA KONTEVMA_ALLO TROMIKON_ALLO STRAGGISMATA",
    "GRONTHISMATA ISON_NEO OLIGON_NEO OXEIA_NEO PETASTI KOUFISMA PETASTOKOUFISMA KRATIMOKOUFISMA",
    "PELASTON_NEO KENTIMATA_NEO_ANO KENTIMA_NEO_ANO YPSILI APOSTROFOS_NEO",
    "APOSTROFOI_SYNDESMOS_NEO YPORROI KRATIMOYPORROON ELAFRON CHAMILI MIKRON_ISON VAREIA_NEO",
    "PIASMA_NEO PSIFISTON_NEO OMALON ANTIKENOMA LYGISMA PARAKLITIKI_NEO PARAKALESMA_NEO",
    "ETERON_PARAKALESMA KYLISMA ANTIKENOKYLISMA TROMIKON_NEO EKSTREPTON SYNAGMA_NEO SYRMA",
    "CHOREVMA_NEO EPEGERMA SEISMA_NEO XIRON_KLASMA TROMIKOPSIFISTON PSIFISTOLYGISMA",
    "TROMIKOLYGISMA TROMIKOPARAKALESMA PSIFISTOPARAKALESMA TROMIKOSYNAGMA PSIFISTOSYNAGMA",
    "GORGOSYNTHETON ARGOSYNTHETON ETERON_ARGOSYNTHETON OYRANISMA_NEO THEMATISMOS_ESO",
    "THEMATISMOS_EXO THEMA_APLOUN THES_KAI_APOTHES KATAVASMA ENDOFONON YFEN_KATO YFEN_ANO",
    "STAVROS KLASMA_ANO DIPLI_ARCHAION KRATIMA_ARCHAION KRATIMA_ALLO KRATIMA_NEO APODERMA_NEO",
    "APLI DIPLI TRIPLI TETRAPLI KORONIS LEIMMA_ENOS_CHRONOU LEIMMA_DYO_CHRONON",
    "LEIMMA_TRION_CHRONON LEIMMA_TESSARON_CHRONON LEIMMA_IMISEOS_CHRONOU GORGON_NEO_ANO",
    "GORGON_PARESTIGMENON_ARISTERA GORGON_PARESTIGMENON_DEXIA DIGORGON",
    "DIGORGON_PARESTIGMENON_ARISTERA_KATO DIGORGON_PARESTIGMENON_ARISTERA_ANO",
    "DIGORGON_PARESTIGMENON_DEXIA TRIGORGON ARGON IMIDIARGON DIARGON AGOGI_POLI_ARGI",
    "AGOGI_ARGOTERI AGOGI_ARGI AGOGI_METRIA AGOGI_MESI AGOGI_GORGI AGOGI_GORGOTERI",
    "AGOGI_POLI_GORGI MARTYRIA_PROTOS_ICHOS MARTYRIA_ALLI_PROTOS_ICHOS MARTYRIA_DEYTEROS_ICHOS",
    "MARTYRIA_ALLI_DEYTEROS_ICHOS MARTYRIA_TRITOS_ICHOS MARTYRIA_TRIFONIAS",
    "MARTYRIA_TETARTOS_ICHOS MARTYRIA_TETARTOS_LEGETOS_ICHOS MARTYRIA_LEGETOS_ICHOS",
    "MARTYRIA_PLAGIOS_ICHOS ISAKIA_TELOUS_ICHIMATOS APOSTROFOI_TELOUS_ICHIMATOS",
    "FANEROSIS_TETRAFONIAS FANEROSIS_MONOFONIAS FANEROSIS_DIFONIAS MARTYRIA_VARYS_ICHOS",
    "MARTYRIA_PROTOVARYS_ICHOS MARTYRIA_PLAGIOS_TETARTOS_ICHOS GORTHMIKON_N_APLOUN",
    "GORTHMIKON_N_DIPLOUN ENARXIS_KAI_FTHORA_VOU IMIFONON IMIFTHORON",
    "FTHORA_ARCHAION_DEYTEROU_ICHOU FTHORA_DIATONIKI_PA FTHORA_DIATONIKI_NANA FTHORA_NAOS_ICHOS",
    "FTHORA_DIATONIKI_DI FTHORA_SKLIRON_DIATONON_DI FTHORA_DIATONIKI_KE FTHORA_DIATONIKI_ZO",
    "FTHORA_DIATONIKI_NI_KATO FTHORA_DIATONIKI_NI_ANO FTHORA_MALAKON_CHROMA_DIFONIAS",
    "FTHORA_MALAKON_CHROMA_MONOFONIAS FHTORA_SKLIRON_CHROMA_VASIS FTHORA_SKLIRON_CHROMA_SYNAFI",
    "FTHORA_NENANO CHROA_ZYGOS CHROA_KLITON CHROA_SPATHI FTHORA_I_YFESIS_TETARTIMORION",
    "FTHORA_ENARMONIOS_ANTIFONIA YFESIS_TRITIMORION DIESIS_TRITIMORION DIESIS_TETARTIMORION",
    "DIESIS_APLI_DYO_DODEKATA DIESIS_MONOGRAMMOS_TESSERA_DODEKATA DIESIS_DIGRAMMOS_EX_DODEKATA",
    "DIESIS_TRIGRAMMOS_OKTO_DODEKATA YFESIS_APLI_DYO_DODEKATA",
    "YFESIS_MONOGRAMMOS_TESSERA_DODEKATA YFESIS_DIGRAMMOS_EX_DODEKATA",
    "YFESIS_TRIGRAMMOS_OKTO_DODEKATA GENIKI_DIESIS GENIKI_YFESIS DIASTOLI_APLI_MIKRI",
    "DIASTOLI_APLI_MEGALI DIASTOLI_DIPLI DIASTOLI_THESEOS SIMANSIS_THESEOS",
    "SIMANSIS_THESEOS_DISIMOU SIMANSIS_THESEOS_TRISIMOU SIMANSIS_THESEOS_TETRASIMOU",
    "SIMANSIS_ARSEOS SIMANSIS_ARSEOS_DISIMOU SIMANSIS_ARSEOS_TRISIMOU SIMANSIS_ARSEOS_TETRASIMOU",
    "DIGRAMMA_GG DIFTOGGOS_OU STIGMA ARKTIKO_PA ARKTIKO_VOU ARKTIKO_GA ARKTIKO_DI ARKTIKO_KE",
    "ARKTIKO_ZO ARKTIKO_NI KENTIMATA_NEO_MESO KENTIMA_NEO_MESO KENTIMATA_NEO_KATO",
    "KENTIMA_NEO_KATO KLASMA_KATO GORGON_NEO_KATO"]⟩,
   ⟨0x1d100, "MUSICAL_SYMBOL_", ["SINGLE_BARLINE DOUBLE_BARLINE FINAL_BARLINE",
    "REVERSE_FINAL_BARLINE DASHED_BARLINE SHORT_BARLINE LEFT_REPEAT_SIGN RIGHT_REPEAT_SIGN",
    "REPEAT_DOTS DAL_SEGNO DA_CAPO SEGNO CODA REPEATED_FIGURE-1 REPEATED_FIGURE-2",
    "REPEATED_FIGURE-3 FERMATA FERMATA_BELOW BREATH_MARK CAESURA BRACE BRACKET ONE-LINE_STAFF",
    "TWO-LINE_STAFF THREE-LINE_STAFF FOUR-LINE_STAFF FIVE-LINE_STAFF SIX-LINE_STAFF",
    "SIX-STRING_FRETBOARD FOUR-STRING_FRETBOARD G_CLEF G_CLEF_OTTAVA_ALTA G_CLEF_OTTAVA_BASSA",
    "C_CLEF F_CLEF F_CLEF_OTTAVA_ALTA F_CLEF_OTTAVA_BASSA DRUM_CLEF-1 DRUM_CLEF-2 � �",
    "MULTIPLE_MEASURE_REST DOUBLE_SHARP DOUBLE_FLAT FLAT_UP FLAT_DOWN NATURAL_UP NATURAL_DOWN",
    "SHARP_UP SHARP_DOWN QUARTER_TONE_SHARP QUARTER_TONE_FLAT COMMON_TIME CUT_TIME OTTAVA_ALTA",
    "OTTAVA_BASSA QUINDICESIMA_ALTA QUINDICESIMA_BASSA MULTI_REST WHOLE_REST HALF_REST",
    "QUARTER_REST EIGHTH_REST SIXTEENTH_REST THIRTY-SECOND_REST SIXTY-FOURTH_REST",
    "ONE_HUNDRED_TWENTY-EIGHTH_REST X_NOTEHEAD PLUS_NOTEHEAD CIRCLE_X_NOTEHEAD",
    "SQUARE_NOTEHEAD_WHITE SQUARE_NOTEHEAD_BLACK"]⟩,
   ⟨0x1d148, "MUSICAL_SYMBOL_TRIANGLE_NOTEHEAD_", ["UP_WHITE UP_BLACK LEFT_WHITE LEFT_BLACK",
    "RIGHT_WHITE RIGHT_BLACK DOWN_WHITE DOWN_BLACK UP_RIGHT_WHITE UP_RIGHT_BLACK"]⟩,
   ⟨0x1d152, "MUSICAL_SYMBOL_", ["MOON_NOTEHEAD_WHITE MOON_NOTEHEAD_BLACK",
    "TRIANGLE-ROUND_NOTEHEAD_DOWN_WHITE TRIANGLE-ROUND_NOTEHEAD_DOWN_BLACK PARENTHESIS_NOTEHEAD",
    "VOID_NOTEHEAD NOTEHEAD_BLACK NULL_NOTEHEAD CLUSTER_NOTEHEAD_WHITE CLUSTER_NOTEHEAD_BLACK",
    "BREVE WHOLE_NOTE HALF_NOTE QUARTER_NOTE EIGHTH_NOTE SIXTEENTH_NOTE THIRTY-SECOND_NOTE",
    "SIXTY-FOURTH_NOTE ONE_HUNDRED_TWENTY-EIGHTH_NOTE COMBINING_STEM COMBINING_SPRECHGESANG_STEM",
    "COMBINING_TREMOLO-1 COMBINING_TREMOLO-2 COMBINING_TREMOLO-3 FINGERED_TREMOLO-1",
    "FINGERED_TREMOLO-2 FINGERED_TREMOLO-3 COMBINING_AUGMENTATION_DOT COMBINING_FLAG-1",
    "COMBINING_FLAG-2 COMBINING_FLAG-3 COMBINING_FLAG-4 COMBINING_FLAG-5 BEGIN_BEAM END_BEAM",
    "BEGIN_TIE END_TIE BEGIN_SLUR END_SLUR BEGIN_PHRASE END_PHRASE COMBINING_ACCENT",
    "COMBINING_STACCATO COMBINING_TENUTO COMBINING_STACCATISSIMO COMBINING_MARCATO",
    "COMBINING_MARCATO-STACCATO COMBINING_ACCENT-STACCATO COMBINING_LOURE ARPEGGIATO_UP",
    "ARPEGGIATO_DOWN COMBINING_DOIT COMBINING_RIP COMBINING_FLIP COMBINING_SMEAR COMBINING_BEND",
    "COMBINING_DOUBLE_TONGUE COMBINING_TRIPLE_TONGUE RINFORZANDO SUBITO Z PIANO MEZZO FORTE",
    "CRESCENDO DECRESCENDO GRACE_NOTE_SLASH GRACE_NOTE_NO_SLASH TR TURN INVERTED_TURN TURN_SLASH",
    "TURN_UP"]⟩,
   ⟨0x1d19b, "MUSICAL_SYMBOL_ORNAMENT_STROKE-", ["1 2 3 4 5 6 7 8 9 10 11"]⟩,
   ⟨0x1d1a6, "MUSICAL_SYMBOL_", ["HAUPTSTIMME NEBENSTIMME END_OF_STIMME DEGREE_SLASH",
    "COMBINING_DOWN_BOW COMBINING_UP_BOW COMBINING_HARMONIC COMBINING_SNAP_PIZZICATO PEDAL_MARK",
    "PEDAL_UP_MARK HALF_PEDAL_MARK GLISSANDO_UP GLISSANDO_DOWN WITH_FINGERNAILS DAMP DAMP_ALL",
    "MAXIMA LONGA BREVIS SEMIBREVIS_WHITE SEMIBREVIS_BLACK MINIMA MINIMA_BLACK SEMIMINIMA_WHITE",
    "SEMIMINIMA_BLACK FUSA_WHITE FUSA_BLACK LONGA_PERFECTA_REST LONGA_IMPERFECTA_REST",
    "BREVIS_REST SEMIBREVIS_REST MINIMA_REST SEMIMINIMA_REST"]⟩,
   ⟨0x1d1c7, "MUSICAL_SYMBOL_TEMPUS_PERFECTUM_CUM_PROLATIONE_", ["PERFECTA IMPERFECTA",
    "PERFECTA_DIMINUTION-1"]⟩,
   ⟨0x1d1ca, "MUSICAL_SYMBOL_TEMPUS_IMPERFECTUM_CUM_PROLATIONE_", ["PERFECTA IMPERFECTA",
    "IMPERFECTA_DIMINUTION-1 IMPERFECTA_DIMINUTION-2 IMPERFECTA_DIMINUTION-3"]⟩,
   ⟨0x1d1cf, "MUSICAL_SYMBOL_", ["CROIX GREGORIAN_C_CLEF GREGORIAN_F_CLEF SQUARE_B VIRGA PODATUS",
    "CLIVIS SCANDICUS CLIMACUS TORCULUS PORRECTUS PORRECTUS_FLEXUS SCANDICUS_FLEXUS",
    "TORCULUS_RESUPINUS PES_SUBPUNCTIS KIEVAN_C_CLEF KIEVAN_END_OF_PIECE KIEVAN_FINAL_NOTE",
    "KIEVAN_RECITATIVE_MARK KIEVAN_WHOLE_NOTE KIEVAN_HALF_NOTE KIEVAN_QUARTER_NOTE_STEM_DOWN",
    "KIEVAN_QUARTER_NOTE_STEM_UP KIEVAN_EIGHTH_NOTE_STEM_DOWN KIEVAN_EIGHTH_NOTE_STEM_UP",
    "KIEVAN_FLAT_SIGN SORI KORON"]⟩,
   ⟨0x1d200, "GREEK_VOCAL_NOTATION_SYMBOL-", ["1 2 3 4 5 6 7 8 9 10 11 12 13 14 15 16 17 18 19",
    "20 21 22 23 24 50 51 52 53 54"]⟩,
   ⟨0x1d21d, "GREEK_INSTRUMENTAL_NOTATION_SYMBOL-", ["1 2 4 5 7 8 11 12 13 14 17 18 19 23 24 25",
    "26 27 29 30 32 36 37 38 39 40 42 43 45 47 48 49 50 51 52 53 54"]⟩,
   ⟨0x1d242, "COMBINING_GREEK_MUSICAL_", ["TRISEME TETRASEME PENTASEME"]⟩,
   ⟨0x1d245, "GREEK_MUSICAL_", ["LEIMMA"]⟩]

end SqlRoutes.Text.Names
