namespace SqlRoutes.Text.Normal

/-- Characters from a first one on, each with the one that it is a form of; `�` stands for those
that are no forms. -/
def forms : List (Nat × String) :=
  [(0xa0, " "), (0xaa, "a"), (0xb2, "23�μ"), (0xb9, "1o"), (0x17f, "s"), (0x2b0, "hɦjrɹɻʁwy"),
   (0x2e0, "ɣlsxʕ"), (0x340, "\u0300\u0301�\u0313"), (0x374, "ʹ"), (0x37e, ";"), (0x387, "·"),
   (0x3d0, "βθΥ��φπ"), (0x3f0, "κρς�Θε"), (0xf0c, "་"), (0x1fbe, "ι"), (0x1fef, "\x60"),
   (0x2000, "           "), (0x2011, "‐"), (0x2024, "."), (0x202f, " "), (0x205f, " "),
   (0x2070, "0i��456789+−=()n0123456789+−=()"), (0x2102, "C"), (0x2107, "Ɛ��gHHHhħIILl�N"),
   (0x2119, "PQRRR"), (0x2124, "Z�Ω�Z�K�BC�eEF�Mo\u05d0\u05d1\u05d2\u05d3i"), (0x213d, "γΓΠ∑"),
   (0x2145, "Ddeij"), (0x2160, "I"), (0x2164, "V"), (0x2169, "X��LCDMi"), (0x2174, "v"),
   (0x2179, "x��lcdm"), (0x2329, "〈〉"), (0x2460, "123456789"),
   (0x24b6, "ABCDEFGHIJKLMNOPQRSTUVWXYZabcdefghijklmnopqrstuvwxyz0"), (0x2e9f, "母"), (0x2ef3, "龟"),
   (0x2f00, "一丨丶丿乙亅二亠人儿入八冂冖冫几凵刀力勹匕匚匸十卜卩厂厶又口囗土士夂夊夕大女子宀寸小尢尸屮山巛工己巾干幺广廴廾弋弓彐彡彳心戈戶手支攴文斗斤方无日曰月木欠止歹殳毋比毛"),
   (0x2f52, "氏气水火爪父爻爿片牙牛犬玄玉瓜瓦甘生用田疋疒癶白皮皿目矛矢石示禸禾穴立竹米糸缶网羊羽老而耒耳聿肉臣自至臼舌舛舟艮色艸虍虫血行衣襾見角言谷豆豕豸貝赤走足身車辛辰辵邑酉"),
   (0x2fa4, "釆里金長門阜隶隹雨靑非面革韋韭音頁風飛食首香馬骨高髟鬥鬯鬲鬼魚鳥鹵鹿麥麻黃黍黑黹黽鼎鼓鼠鼻齊齒龍龜龠"), (0x3000, " "), (0x3036, "〒�十卄卅"),
   (0x3131, "ᄀᄁᆪᄂᆬᆭᄃᄄᄅᆰᆱᆲᆳᆴᆵᄚᄆᄇᄈᄡᄉᄊᄋᄌᄍᄎᄏᄐᄑ하ᅢᅣᅤᅥᅦᅧᅨᅩᅪᅫᅬᅭᅮᅯᅰᅱᅲᅳᅴᅵᅠᄔᄕᇇᇈᇌᇎᇓᇗᇙᄜᇝᇟᄝᄞᄠᄢᄣᄧᄩᄫᄬᄭᄮᄯᄲᄶᅀᅇᅌᇱ"),
   (0x3183, "ᇲᅗᅘᅙᆄᆅᆈᆑᆒᆔᆞᆡ"), (0x3192, "一二三四上中下甲乙丙丁天地人"), (0x3260, "ᄀᄂᄃᄅᄆᄇᄉᄋᄌᄎᄏᄐᄑᄒ"),
   (0x3280, "一二三四五六七八九十月火水木金土日株有社名特財祝労秘男女適優印注項休写正上中下左右医宗学監企資協夜"),
   (0x32d0, "アイウエオカキクケコサシスセソタチツテトナニヌネノハヒフヘホマミムメモヤユヨラリルレロワヰヱヲ"),
   (0xf900, "豈更車賈滑串句龜龜契金喇奈懶癩羅蘿螺裸邏樂洛烙珞落酪駱亂卵欄爛蘭鸞嵐濫藍襤拉臘蠟廊朗浪狼郎來冷勞擄櫓爐盧老蘆虜路露魯鷺碌祿綠菉錄鹿論壟弄籠聾牢磊賂雷壘屢樓淚漏累縷陋"),
   (0xf952, "勒肋凜凌稜綾菱陵讀拏樂諾丹寧怒率異北磻便復不泌數索參塞省葉說殺辰沈拾若掠略亮兩凉梁糧良諒量勵呂女廬旅濾礪閭驪麗黎力曆歷轢年憐戀撚漣煉璉秊練聯輦蓮連鍊列劣咽烈裂說廉念"),
   (0xf9a4, "捻殮簾獵令囹寧嶺怜玲瑩羚聆鈴零靈領例禮醴隸惡了僚寮尿料樂燎療蓼遼龍暈阮劉杻柳流溜琉留硫紐類六戮陸倫崙淪輪律慄栗率隆利吏履易李梨泥理痢罹裏裡里離匿溺吝燐璘藺隣鱗麟林淋"),
   (0xf9f6, "臨立笠粒狀炙識什茶刺切度拓糖宅洞暴輻行降見廓兀嗀��塚�晴��凞猪益礼神祥福靖精羽�蘒�諸��逸都"),
   (0xfa2a, "飯飼館鶴��侮僧免勉勤卑喝嘆器塀墨層屮悔慨憎懲敏既暑梅海渚漢煮爫琢碑社祉祈祐祖祝禍禎穀突節練縉繁署者臭艹艹著褐視謁謹賓贈辶逸難響頻"),
   (0xfb20, "\u05e2\u05d0\u05d3\u05d4\u05db\u05dc\u05dd\u05e8\u05ea+"),
   (0xfb50, "\u0671\u0671\u067b\u067b\u067b\u067b\u067e\u067e\u067e\u067e\u0680\u0680\u0680\u0680"),
   (0xfb5e, "\u067a\u067a\u067a\u067a\u067f\u067f\u067f\u067f\u0679\u0679\u0679\u0679\u06a4\u06a4"),
   (0xfb6c, "\u06a4\u06a4\u06a6\u06a6\u06a6\u06a6\u0684\u0684\u0684\u0684\u0683\u0683\u0683\u0683"),
   (0xfb7a, "\u0686\u0686\u0686\u0686\u0687\u0687\u0687\u0687\u068d\u068d\u068c\u068c\u068e\u068e"),
   (0xfb88, "\u0688\u0688\u0698\u0698\u0691\u0691\u06a9\u06a9\u06a9\u06a9\u06af\u06af\u06af\u06af"),
   (0xfb96, "\u06b3\u06b3\u06b3\u06b3\u06b1\u06b1\u06b1\u06b1\u06ba\u06ba\u06bb\u06bb\u06bb\u06bb"),
   (0xfba6, "\u06c1\u06c1\u06c1\u06c1\u06be\u06be\u06be\u06be\u06d2\u06d2"),
   (0xfbd3, "\u06ad\u06ad\u06ad\u06ad\u06c7\u06c7\u06c6\u06c6\u06c8\u06c8�\u06cb\u06cb\u06c5\u06c5"),
   (0xfbe2, "\u06c9\u06c9\u06d0\u06d0\u06d0\u06d0\u0649\u0649"),
   (0xfbfc, "\u06cc\u06cc\u06cc\u06cc"), (0xfe31, "—–__()\x7b\x7d〔〕【】《》〈〉「」『』"),
   (0xfe4d, "___,、.�;:?!—()\x7b\x7d〔〕#&*+-<>=�\\$%@"), (0xfe80, "\u0621"),
   (0xfe8d, "\u0627\u0627\u0628\u0628\u0628\u0628\u0629\u0629\u062a\u062a\u062a\u062a\u062b\u062b"),
   (0xfe9b, "\u062b\u062b\u062c\u062c\u062c\u062c\u062d\u062d\u062d\u062d\u062e\u062e\u062e\u062e"),
   (0xfea9, "\u062f\u062f\u0630\u0630\u0631\u0631\u0632\u0632\u0633\u0633\u0633\u0633\u0634\u0634"),
   (0xfeb7, "\u0634\u0634\u0635\u0635\u0635\u0635\u0636\u0636\u0636\u0636\u0637\u0637\u0637\u0637"),
   (0xfec5, "\u0638\u0638\u0638\u0638\u0639\u0639\u0639\u0639\u063a\u063a\u063a\u063a\u0641\u0641"),
   (0xfed3, "\u0641\u0641\u0642\u0642\u0642\u0642\u0643\u0643\u0643\u0643\u0644\u0644\u0644\u0644"),
   (0xfee1, "\u0645\u0645\u0645\u0645\u0646\u0646\u0646\u0646\u0647\u0647\u0647\u0647\u0648\u0648"),
   (0xfeef, "\u0649\u0649\u064a\u064a\u064a\u064a"),
   (0xff01, "!\"#$%&'()*+,-./0123456789:;<=>?@ABCDEFGHIJKLMNOPQRSTUVWXYZ[\\]^_\x60abcdefghijklm"),
   (0xff4e, "nopqrstuvwxyz\x7b|\x7d~⦅⦆。「」、・ヲァィゥェォャュョッーアイウエオカキクケコサシスセソタチツテトナニヌネノハヒフヘホマミムメモヤユヨラリル"),
   (0xff9a, "レロワン\u3099\u309aᅠᄀᄁᆪᄂᆬᆭᄃᄄᄅᆰᆱᆲᆳᆴᆵᄚᄆᄇᄈᄡᄉᄊᄋᄌᄍᄎᄏᄐᄑᄒ"),
   (0xffc2, "ᅡᅢᅣᅤᅥᅦ��ᅧᅨᅩᅪᅫᅬ��ᅭᅮᅯᅰᅱᅲ��ᅳᅴᅵ"), (0xffe0, "¢£¬�¦¥₩�│←↑→↓■○"),
   (0x1d400, "ABCDEFGHIJKLMNOPQRSTUVWXYZabcdefghijklmnopqrstuvwxyzABCDEFGHIJKLMNOPQRSTUVWXYZabcd"),
   (0x1d452, "efg�ijklmnopqrstuvwxyzABCDEFGHIJKLMNOPQRSTUVWXYZabcdefghijklmnopqrstuvwxyzA�CD��G��J"),
   (0x1d4a6, "K��NOPQ�STUVWXYZabcd�f�hijk�mn�pqrstuvwxyzABCDEFGHIJKLMNOPQRSTUVWXYZabcdefghijklmn"),
   (0x1d4f8, "opqrstuvwxyzAB�DEFG��JKLMNOPQ�STUVWXY�abcdefghijklmnopqrstuvwxyzAB�DEFG�IJKLM�O"),
   (0x1d54a, "STUVWXY�abcdefghijklmnopqrstuvwxyzABCDEFGHIJKLMNOPQRSTUVWXYZabcdefghijklmnopqrstuv"),
   (0x1d59c, "wxyzABCDEFGHIJKLMNOPQRSTUVWXYZabcdefghijklmnopqrstuvwxyzABCDEFGHIJKLMNOPQRSTUVWXYZ"),
   (0x1d5ee, "abcdefghijklmnopqrstuvwxyzABCDEFGHIJKLMNOPQRSTUVWXYZabcdefghijklmnopqrstuvwxyzABCD"),
   (0x1d640, "EFGHIJKLMNOPQRSTUVWXYZabcdefghijklmnopqrstuvwxyzABCDEFGHIJKLMNOPQRSTUVWXYZabcdefgh"),
   (0x1d692, "ijklmnopqrstuvwxyz"),
   (0x1d6a8, "ΑΒΓΔΕΖΗΘΙΚΛΜΝΞΟΠΡΘΣΤΥΦΧΨΩ∇αβγδεζηθικλμνξοπρςστυφχψω∂εθκφρπΑΒΓΔΕΖΗΘΙΚΛΜΝΞΟΠΡΘΣΤΥΦΧΨ"),
   (0x1d6fa, "Ω∇αβγδεζηθικλμνξοπρςστυφχψω∂εθκφρπΑΒΓΔΕΖΗΘΙΚΛΜΝΞΟΠΡΘΣΤΥΦΧΨΩ∇αβγδεζηθικλμνξοπρςστυφ"),
   (0x1d74c, "χψω∂εθκφρπΑΒΓΔΕΖΗΘΙΚΛΜΝΞΟΠΡΘΣΤΥΦΧΨΩ∇αβγδεζηθικλμνξοπρςστυφχψω∂εθκφρπΑΒΓΔΕΖΗΘΙΚΛΜΝΞ"),
   (0x1d79e, "ΟΠΡΘΣΤΥΦΧΨΩ∇αβγδεζηθικλμνξοπρςστυφχψω∂εθκφρπ"),
   (0x1d7ce, "01234567890123456789012345678901234567890123456789"),
   (0x2f800, "丽丸乁𠄢你侮侻倂偺備僧像㒞𠘺免兔兤具𠔜㒹內再𠕋冗冤仌冬况𩇟凵刃㓟刻剆割剷㔕勇勉勤勺包匆北卉卑博即卽卿卿卿𠨬灰及叟𠭣叫叱吆咞吸呈周咢哶唐啓啣善善喙喫喳嗂圖嘆圗噑噴切壮"),
   (0x2f852, "城埴堍型堲報墬𡓤売壷夆多夢奢𡚨𡛪姬娛娧姘婦㛮𡍪嬈嬾嬾𡧈寃寘寧寳𡬘寿将弳尢㞁屠屮峀岍𡷤嵃𡷦嵮嵫嵼巡巢㠯巽帨帽幩㡢𢆃㡼庰庳庶廊𪎒廾𢌱𢌱舁弢弢㣇𣊸𦇚形彫㣣徚忍志忹悁㤺㤜悔"),
   (0x2f8a4, "𢛔惇慈慌慎慌慺憎憲憤憯懞懲懶成戛扝抱拔捐𢬌挽拼捨掃揤𢯱搢揅掩㨮摩摾撝摷㩬敏敬𣀊旣書晉㬙暑㬈㫤冒冕最暜肭䏙朗望朡杞杓𣏃㭉柺枅桒梅𣑭梎栟椔㮝楂榣槪檨𣚣櫛㰘次𣢧歔㱎歲殟殺"),
   (0x2f8f6, "殻𣪍𡴋𣫺汎𣲼沿泍汧洖派海流浩浸涅𣴞洴港湮㴳滋滇𣻑淹潮𣽞𣾎濆瀹瀞瀛㶖灊災灷炭𠔥煅𤉣熜䎫爨爵牐𤘈犀犕𤜵𤠔獺王㺬玥㺸㺸瑇瑜瑱璅瓊㼛甤𤰶甾𤲒異𢆟瘐𤾡𤾸𥁄㿼䀈直𥃳𥃲𥄙𥄳眞真真"),
   (0x2f948, "睊䀹瞋䁆䂖𥐝硎碌磌䃣𥘦祖𥚚𥛅福秫䄯穀穊穏𥥼𥪧𥪧窮䈂𥮫篆築䈧𥲀糒䊠糨糣紀𥾆絣䌁緇縂繅䌴𦈨𦉇䍙𦋙罺𦌾羕翺者𦓚𦔣聠𦖨聰𣍟䏕育脃䐋脾媵𦞧𦞵𣎓𣎜舁舄辞䑫芑芋芝劳花芳芽苦𦬼若茝"),
   (0x2f99a, "荣莭茣莽菧著荓菊菌菜𦰶𦵫𦳕䔫蓱蓳蔖𧏊蕤𦼬䕝䕡𦾱𧃒䕫虐虜虧虩蚩蚈蜎蛢蝹蜨蝫螆䵗蟡蠁䗹衠衣𧙧裗裞䘵裺㒻𧢮𧥦䚾䛇誠諭變豕𧲨貫賁贛起𧼯𠠄跋趼跰𠣞軔輸𨗒𨗭邔郱鄑𨜮鄛鈸鋗鋘鉼鏹"),
   (0x2f9ec, "鐕𨯺開䦕閷𨵷䧦雃嶲霣𩅅𩈚䩮䩶韠𩐊䪲𩒖頋頋頩𩖶飢䬳餩馧駂駾䯎𩬰鬒鱀鳽䳎䳭鵧𪃎䳸𪄅𪈎𪊑麻䵖黹黾鼅鼏鼖鼻𪘀")]

/-- Characters from a first one on, each with the several that it is a form of. -/
def longForms : List (Nat × List String) :=
  [(0xa8, [" \u0308"]), (0xaf, [" \u0304"]), (0xb4, [" \u0301"]), (0xb8, [" \u0327"]),
   (0xbc, ["1⁄4", "1⁄2", "3⁄4"]), (0x132, ["IJ", "ij"]), (0x13f, ["L·", "l·"]), (0x149, ["ʼn"]),
   (0x1c4, ["DZ\u030c", "Dz\u030c", "dz\u030c", "LJ", "Lj", "lj", "NJ", "Nj", "nj"]),
   (0x1f1, ["DZ", "Dz", "dz"]),
   (0x2d8, [" \u0306", " \u0307", " \u030a", " \u0328", " \u0303", " \u030b"]),
   (0x344, ["\u0308\u0301"]), (0x37a, [" \u0345"]), (0x384, [" \u0301"]), (0x587, ["եւ"]),
   (0x675, ["\u0627\u0674", "\u0648\u0674", "\u06c7\u0674", "\u064a\u0674"]),
   (0x958, ["क\u093c", "ख\u093c", "ग\u093c", "ज\u093c", "ड\u093c", "ढ\u093c", "फ\u093c",
    "य\u093c"]), (0x9dc, ["ড\u09bc", "ঢ\u09bc"]), (0x9df, ["য\u09bc"]), (0xa33, ["ਲ\u0a3c"]),
   (0xa36, ["ਸ\u0a3c"]), (0xa59, ["ਖ\u0a3c", "ਗ\u0a3c", "ਜ\u0a3c"]), (0xa5e, ["ਫ\u0a3c"]),
   (0xb5c, ["ଡ\u0b3c", "ଢ\u0b3c"]), (0xe33, ["\u0e4dา"]), (0xeb3, ["\u0ecdາ"]),
   (0xedc, ["ຫນ", "ຫມ"]), (0xf43, ["ག\u0fb7"]), (0xf4d, ["ཌ\u0fb7"]), (0xf52, ["ད\u0fb7"]),
   (0xf57, ["བ\u0fb7"]), (0xf5c, ["ཛ\u0fb7"]), (0xf69, ["ཀ\u0fb5"]), (0xf73, ["\u0f71\u0f72"]),
   (0xf75, ["\u0f71\u0f74", "\u0fb2\u0f80", "\u0fb2\u0f71\u0f80", "\u0fb3\u0f80",
    "\u0fb3\u0f71\u0f80"]), (0xf81, ["\u0f71\u0f80"]), (0xf93, ["\u0f92\u0fb7"]),
   (0xf9d, ["\u0f9c\u0fb7"]), (0xfa2, ["\u0fa1\u0fb7"]), (0xfa7, ["\u0fa6\u0fb7"]),
   (0xfac, ["\u0fab\u0fb7"]), (0xfb9, ["\u0f90\u0fb5"]), (0x1e9a, ["aʾ"]), (0x1f71, ["α\u0301"]),
   (0x1f73, ["ε\u0301"]), (0x1f75, ["η\u0301"]), (0x1f77, ["ι\u0301"]), (0x1f79, ["ο\u0301"]),
   (0x1f7b, ["υ\u0301"]), (0x1f7d, ["ω\u0301"]), (0x1fbb, ["Α\u0301"]), (0x1fbd, [" \u0313"]),
   (0x1fbf, [" \u0313", " \u0342"]), (0x1fc9, ["Ε\u0301"]), (0x1fcb, ["Η\u0301"]),
   (0x1fd3, ["ι\u0308\u0301"]), (0x1fdb, ["Ι\u0301"]), (0x1fe3, ["υ\u0308\u0301"]),
   (0x1feb, ["Υ\u0301"]), (0x1fee, [" \u0308\u0301"]), (0x1ff9, ["Ο\u0301"]), (0x1ffb, ["Ω\u0301"]),
   (0x1ffd, [" \u0301", " \u0314"]), (0x2017, [" \u0333"]), (0x2025, ["..", "..."]),
   (0x2033, ["′′", "′′′"]), (0x2036, ["‵‵", "‵‵‵"]), (0x203c, ["!!"]), (0x203e, [" \u0305"]),
   (0x2047, ["??", "?!", "!?"]), (0x2057, ["′′′′"]), (0x20a8, ["Rs"]), (0x2100, ["a/c", "a/s"]),
   (0x2103, ["°C"]), (0x2105, ["c/o", "c/u"]), (0x2109, ["°F"]), (0x2116, ["No"]),
   (0x2120, ["SM", "TEL", "TM"]), (0x212b, ["A\u030a"]),
   (0x2153, ["1⁄3", "2⁄3", "1⁄5", "2⁄5", "3⁄5", "4⁄5", "1⁄6", "5⁄6", "1⁄8", "3⁄8", "5⁄8", "7⁄8",
    "1⁄"]), (0x2161, ["II", "III", "IV"]), (0x2165, ["VI", "VII", "VIII", "IX"]),
   (0x216a, ["XI", "XII"]), (0x2171, ["ii", "iii", "iv"]), (0x2175, ["vi", "vii", "viii", "ix"]),
   (0x217a, ["xi", "xii"]), (0x222c, ["∫∫", "∫∫∫"]), (0x222f, ["∮∮", "∮∮∮"]),
   (0x2469, ["10", "11", "12", "13", "14", "15", "16", "17", "18", "19", "20", "(1)", "(2)",
    "(3)"]),
   (0x2477, ["(4)", "(5)", "(6)", "(7)", "(8)", "(9)", "(10)", "(11)", "(12)", "(13)", "(14)",
    "(15)"]),
   (0x2483, ["(16)", "(17)", "(18)", "(19)", "(20)", "1.", "2.", "3.", "4.", "5.", "6.", "7.",
    "8."]),
   (0x2490, ["9.", "10.", "11.", "12.", "13.", "14.", "15.", "16.", "17.", "18.", "19.", "20.",
    "(a)"]),
   (0x249d, ["(b)", "(c)", "(d)", "(e)", "(f)", "(g)", "(h)", "(i)", "(j)", "(k)", "(l)", "(m)",
    "(n)"]),
   (0x24aa, ["(o)", "(p)", "(q)", "(r)", "(s)", "(t)", "(u)", "(v)", "(w)", "(x)", "(y)", "(z)"]),
   (0x2a0c, ["∫∫∫∫"]), (0x2a74, ["::=", "==", "==="]), (0x2adc, ["⫝\u0338"]),
   (0x309b, [" \u3099", " \u309a"]), (0x309f, ["より"]), (0x30ff, ["コト"]),
   (0x3200, ["(ᄀ)", "(ᄂ)", "(ᄃ)", "(ᄅ)", "(ᄆ)", "(ᄇ)", "(ᄉ)", "(ᄋ)", "(ᄌ)", "(ᄎ)", "(ᄏ)", "(ᄐ)",
    "(ᄑ)"]),
   (0x320d, ["(ᄒ)", "(가)", "(나)", "(다)", "(라)", "(마)", "(바)", "(사)", "(아)", "(자)",
    "(차)"]), (0x3218, ["(카)", "(타)", "(파)", "(하)", "(주)"]),
   (0x3220, ["(一)", "(二)", "(三)", "(四)", "(五)", "(六)", "(七)", "(八)", "(九)", "(十)", "(月)", "(火)",
    "(水)"]),
   (0x322d, ["(木)", "(金)", "(土)", "(日)", "(株)", "(有)", "(社)", "(名)", "(特)", "(財)", "(祝)", "(労)",
    "(代)"]), (0x323a, ["(呼)", "(学)", "(監)", "(企)", "(資)", "(協)", "(祭)", "(休)", "(自)", "(至)"]),
   (0x3251, ["21", "22", "23", "24", "25", "26", "27", "28", "29", "30", "31", "32", "33", "34",
    "35"]),
   (0x326e, ["가", "나", "다", "라", "마", "바", "사", "아", "자", "차", "카", "타", "파", "하"]),
   (0x32b1, ["36", "37", "38", "39", "40", "41", "42", "43", "44", "45", "46", "47", "48", "49",
    "50"]), (0x32c0, ["1月", "2月", "3月", "4月", "5月", "6月", "7月", "8月", "9月", "10月", "11月", "12月"]),
   (0x3300, ["アハ\u309aート", "アルファ", "アンヘ\u309aア", "アール", "イニンク\u3099", "インチ", "ウォン", "エスクート\u3099"]),
   (0x3308, ["エーカー", "オンス", "オーム", "カイリ", "カラット", "カロリー", "カ\u3099ロン", "カ\u3099ンマ",
    "キ\u3099カ\u3099"]),
   (0x3311, ["キ\u3099ニー", "キュリー", "キ\u3099ルタ\u3099ー", "キロ", "キロク\u3099ラム", "キロメートル", "キロワット",
    "ク\u3099ラム"]),
   (0x3319, ["ク\u3099ラムトン", "クルセ\u3099イロ", "クローネ", "ケース", "コルナ", "コーホ\u309a", "サイクル", "サンチーム",
    "シリンク\u3099"]),
   (0x3322, ["センチ", "セント", "タ\u3099ース", "テ\u3099シ", "ト\u3099ル", "トン", "ナノ", "ノット", "ハイツ",
    "ハ\u309aーセント"]),
   (0x332c, ["ハ\u309aーツ", "ハ\u3099ーレル", "ヒ\u309aアストル", "ヒ\u309aクル", "ヒ\u309aコ", "ヒ\u3099ル",
    "ファラット\u3099"]),
   (0x3333, ["フィート", "フ\u3099ッシェル", "フラン", "ヘクタール", "ヘ\u309aソ", "ヘ\u309aニヒ", "ヘルツ", "ヘ\u309aンス",
    "ヘ\u309aーシ\u3099"]),
   (0x333c, ["ヘ\u3099ータ", "ホ\u309aイント", "ホ\u3099ルト", "ホン", "ホ\u309aント\u3099", "ホール", "ホーン",
    "マイクロ"]),
   (0x3344, ["マイル", "マッハ", "マルク", "マンション", "ミクロン", "ミリ", "ミリハ\u3099ール", "メカ\u3099", "メカ\u3099トン"]),
   (0x334d, ["メートル", "ヤート\u3099", "ヤール", "ユアン", "リットル", "リラ", "ルヒ\u309aー", "ルーフ\u3099ル", "レム",
    "レントケ\u3099ン"]),
   (0x3357, ["ワット", "0点", "1点", "2点", "3点", "4点", "5点", "6点", "7点", "8点", "9点", "10点", "11点",
    "12点"]),
   (0x3365, ["13点", "14点", "15点", "16点", "17点", "18点", "19点", "20点", "21点", "22点", "23点", "24点",
    "hPa"]), (0x3372, ["da", "AU", "bar", "oV", "pc"]),
   (0x337b, ["平成", "昭和", "大正", "明治", "株式会社", "pA", "nA", "μA", "mA", "kA", "KB", "MB", "GB",
    "cal"]),
   (0x3389, ["kcal", "pF", "nF", "μF", "μg", "mg", "kg", "Hz", "kHz", "MHz", "GHz", "THz", "μl",
    "ml"]),
   (0x3397, ["dl", "kl", "fm", "nm", "μm", "mm", "cm", "km", "mm2", "cm2", "m2", "km2", "mm3",
    "cm3"]),
   (0x33a5, ["m3", "km3", "m∕s", "m∕s2", "Pa", "kPa", "MPa", "GPa", "rad", "rad∕s", "rad∕s2",
    "ps"]),
   (0x33b1, ["ns", "μs", "ms", "pV", "nV", "μV", "mV", "kV", "MV", "pW", "nW", "μW", "mW", "kW",
    "MW"]),
   (0x33c0, ["kΩ", "MΩ", "a.m.", "Bq", "cc", "cd", "C∕kg", "Co.", "dB", "Gy", "ha", "HP", "in",
    "KK"]),
   (0x33ce, ["KM", "kt", "lm", "ln", "log", "lx", "mb", "mil", "mol", "PH", "p.m.", "PPM", "PR",
    "sr"]), (0x33dc, ["Sv", "Wb"]),
   (0x33e0, ["1日", "2日", "3日", "4日", "5日", "6日", "7日", "8日", "9日", "10日", "11日", "12日", "13日",
    "14日"]),
   (0x33ee, ["15日", "16日", "17日", "18日", "19日", "20日", "21日", "22日", "23日", "24日", "25日", "26日",
    "27日"]), (0x33fb, ["28日", "29日", "30日", "31日"]),
   (0xfb00, ["ff", "fi", "fl", "ffi", "ffl", "st", "st"]), (0xfb13, ["մն", "մե", "մի", "վն", "մխ"]),
   (0xfb1d, ["\u05d9\u05b4"]), (0xfb1f, ["\u05f2\u05b7"]),
   (0xfb2a, ["\u05e9\u05c1", "\u05e9\u05c2", "\u05e9\u05bc\u05c1", "\u05e9\u05bc\u05c2",
    "\u05d0\u05b7"]),
   (0xfb2f, ["\u05d0\u05b8", "\u05d0\u05bc", "\u05d1\u05bc", "\u05d2\u05bc", "\u05d3\u05bc",
    "\u05d4\u05bc"]), (0xfb35, ["\u05d5\u05bc", "\u05d6\u05bc"]),
   (0xfb38, ["\u05d8\u05bc", "\u05d9\u05bc", "\u05da\u05bc", "\u05db\u05bc", "\u05dc\u05bc"]),
   (0xfb3e, ["\u05de\u05bc"]), (0xfb40, ["\u05e0\u05bc", "\u05e1\u05bc"]),
   (0xfb43, ["\u05e3\u05bc", "\u05e4\u05bc"]),
   (0xfb46, ["\u05e6\u05bc", "\u05e7\u05bc", "\u05e8\u05bc", "\u05e9\u05bc", "\u05ea\u05bc",
    "\u05d5\u05b9"]), (0xfb4c, ["\u05d1\u05bf", "\u05db\u05bf", "\u05e4\u05bf", "\u05d0\u05dc"]),
   (0xfba4, ["\u06d5\u0654", "\u06d5\u0654"]), (0xfbb0, ["\u06d2\u0654", "\u06d2\u0654"]),
   (0xfbdd, ["\u06c7\u0674"]),
   (0xfbea, ["\u064a\u0654\u0627", "\u064a\u0654\u0627", "\u064a\u0654\u06d5",
    "\u064a\u0654\u06d5"]),
   (0xfbee, ["\u064a\u0654\u0648", "\u064a\u0654\u0648", "\u064a\u0654\u06c7",
    "\u064a\u0654\u06c7"]),
   (0xfbf2, ["\u064a\u0654\u06c6", "\u064a\u0654\u06c6", "\u064a\u0654\u06c8",
    "\u064a\u0654\u06c8"]),
   (0xfbf6, ["\u064a\u0654\u06d0", "\u064a\u0654\u06d0", "\u064a\u0654\u06d0",
    "\u064a\u0654\u0649"]), (0xfbfa, ["\u064a\u0654\u0649", "\u064a\u0654\u0649"]),
   (0xfc00, ["\u064a\u0654\u062c", "\u064a\u0654\u062d", "\u064a\u0654\u0645",
    "\u064a\u0654\u0649"]),
   (0xfc04, ["\u064a\u0654\u064a", "\u0628\u062c", "\u0628\u062d", "\u0628\u062e", "\u0628\u0645"]),
   (0xfc09, ["\u0628\u0649", "\u0628\u064a", "\u062a\u062c", "\u062a\u062d", "\u062a\u062e",
    "\u062a\u0645"]),
   (0xfc0f, ["\u062a\u0649", "\u062a\u064a", "\u062b\u062c", "\u062b\u0645", "\u062b\u0649",
    "\u062b\u064a"]),
   (0xfc15, ["\u062c\u062d", "\u062c\u0645", "\u062d\u062c", "\u062d\u0645", "\u062e\u062c",
    "\u062e\u062d"]),
   (0xfc1b, ["\u062e\u0645", "\u0633\u062c", "\u0633\u062d", "\u0633\u062e", "\u0633\u0645",
    "\u0635\u062d"]),
   (0xfc21, ["\u0635\u0645", "\u0636\u062c", "\u0636\u062d", "\u0636\u062e", "\u0636\u0645",
    "\u0637\u062d"]),
   (0xfc27, ["\u0637\u0645", "\u0638\u0645", "\u0639\u062c", "\u0639\u0645", "\u063a\u062c",
    "\u063a\u0645"]),
   (0xfc2d, ["\u0641\u062c", "\u0641\u062d", "\u0641\u062e", "\u0641\u0645", "\u0641\u0649",
    "\u0641\u064a"]),
   (0xfc33, ["\u0642\u062d", "\u0642\u0645", "\u0642\u0649", "\u0642\u064a", "\u0643\u0627",
    "\u0643\u062c"]),
   (0xfc39, ["\u0643\u062d", "\u0643\u062e", "\u0643\u0644", "\u0643\u0645", "\u0643\u0649",
    "\u0643\u064a"]),
   (0xfc3f, ["\u0644\u062c", "\u0644\u062d", "\u0644\u062e", "\u0644\u0645", "\u0644\u0649",
    "\u0644\u064a"]),
   (0xfc45, ["\u0645\u062c", "\u0645\u062d", "\u0645\u062e", "\u0645\u0645", "\u0645\u0649",
    "\u0645\u064a"]),
   (0xfc4b, ["\u0646\u062c", "\u0646\u062d", "\u0646\u062e", "\u0646\u0645", "\u0646\u0649",
    "\u0646\u064a"]),
   (0xfc51, ["\u0647\u062c", "\u0647\u0645", "\u0647\u0649", "\u0647\u064a", "\u064a\u062c",
    "\u064a\u062d"]),
   (0xfc57, ["\u064a\u062e", "\u064a\u0645", "\u064a\u0649", "\u064a\u064a", "\u0630\u0670",
    "\u0631\u0670"]),
   (0xfc5d, ["\u0649\u0670", " \u064c\u0651", " \u064d\u0651", " \u064e\u0651", " \u064f\u0651",
    " \u0650\u0651"]),
   (0xfc63, [" \u0651\u0670", "\u064a\u0654\u0631", "\u064a\u0654\u0632", "\u064a\u0654\u0645",
    "\u064a\u0654\u0646"]),
   (0xfc68, ["\u064a\u0654\u0649", "\u064a\u0654\u064a", "\u0628\u0631", "\u0628\u0632",
    "\u0628\u0645"]),
   (0xfc6d, ["\u0628\u0646", "\u0628\u0649", "\u0628\u064a", "\u062a\u0631", "\u062a\u0632",
    "\u062a\u0645"]),
   (0xfc73, ["\u062a\u0646", "\u062a\u0649", "\u062a\u064a", "\u062b\u0631", "\u062b\u0632",
    "\u062b\u0645"]),
   (0xfc79, ["\u062b\u0646", "\u062b\u0649", "\u062b\u064a", "\u0641\u0649", "\u0641\u064a",
    "\u0642\u0649"]),
   (0xfc7f, ["\u0642\u064a", "\u0643\u0627", "\u0643\u0644", "\u0643\u0645", "\u0643\u0649",
    "\u0643\u064a"]),
   (0xfc85, ["\u0644\u0645", "\u0644\u0649", "\u0644\u064a", "\u0645\u0627", "\u0645\u0645",
    "\u0646\u0631"]),
   (0xfc8b, ["\u0646\u0632", "\u0646\u0645", "\u0646\u0646", "\u0646\u0649", "\u0646\u064a",
    "\u0649\u0670"]),
   (0xfc91, ["\u064a\u0631", "\u064a\u0632", "\u064a\u0645", "\u064a\u0646", "\u064a\u0649",
    "\u064a\u064a"]),
   (0xfc97, ["\u064a\u0654\u062c", "\u064a\u0654\u062d", "\u064a\u0654\u062e",
    "\u064a\u0654\u0645"]),
   (0xfc9b, ["\u064a\u0654\u0647", "\u0628\u062c", "\u0628\u062d", "\u0628\u062e", "\u0628\u0645"]),
   (0xfca0, ["\u0628\u0647", "\u062a\u062c", "\u062a\u062d", "\u062a\u062e", "\u062a\u0645",
    "\u062a\u0647"]),
   (0xfca6, ["\u062b\u0645", "\u062c\u062d", "\u062c\u0645", "\u062d\u062c", "\u062d\u0645",
    "\u062e\u062c"]),
   (0xfcac, ["\u062e\u0645", "\u0633\u062c", "\u0633\u062d", "\u0633\u062e", "\u0633\u0645",
    "\u0635\u062d"]),
   (0xfcb2, ["\u0635\u062e", "\u0635\u0645", "\u0636\u062c", "\u0636\u062d", "\u0636\u062e",
    "\u0636\u0645"]),
   (0xfcb8, ["\u0637\u062d", "\u0638\u0645", "\u0639\u062c", "\u0639\u0645", "\u063a\u062c",
    "\u063a\u0645"]),
   (0xfcbe, ["\u0641\u062c", "\u0641\u062d", "\u0641\u062e", "\u0641\u0645", "\u0642\u062d",
    "\u0642\u0645"]),
   (0xfcc4, ["\u0643\u062c", "\u0643\u062d", "\u0643\u062e", "\u0643\u0644", "\u0643\u0645",
    "\u0644\u062c"]),
   (0xfcca, ["\u0644\u062d", "\u0644\u062e", "\u0644\u0645", "\u0644\u0647", "\u0645\u062c",
    "\u0645\u062d"]),
   (0xfcd0, ["\u0645\u062e", "\u0645\u0645", "\u0646\u062c", "\u0646\u062d", "\u0646\u062e",
    "\u0646\u0645"]),
   (0xfcd6, ["\u0646\u0647", "\u0647\u062c", "\u0647\u0645", "\u0647\u0670", "\u064a\u062c",
    "\u064a\u062d"]),
   (0xfcdc, ["\u064a\u062e", "\u064a\u0645", "\u064a\u0647", "\u064a\u0654\u0645",
    "\u064a\u0654\u0647"]),
   (0xfce1, ["\u0628\u0645", "\u0628\u0647", "\u062a\u0645", "\u062a\u0647", "\u062b\u0645",
    "\u062b\u0647"]),
   (0xfce7, ["\u0633\u0645", "\u0633\u0647", "\u0634\u0645", "\u0634\u0647", "\u0643\u0644",
    "\u0643\u0645"]),
   (0xfced, ["\u0644\u0645", "\u0646\u0645", "\u0646\u0647", "\u064a\u0645", "\u064a\u0647",
    "\u0640\u064e\u0651"]),
   (0xfcf3, ["\u0640\u064f\u0651", "\u0640\u0650\u0651", "\u0637\u0649", "\u0637\u064a",
    "\u0639\u0649"]),
   (0xfcf8, ["\u0639\u064a", "\u063a\u0649", "\u063a\u064a", "\u0633\u0649", "\u0633\u064a",
    "\u0634\u0649"]),
   (0xfcfe, ["\u0634\u064a", "\u062d\u0649", "\u062d\u064a", "\u062c\u0649", "\u062c\u064a",
    "\u062e\u0649"]),
   (0xfd04, ["\u062e\u064a", "\u0635\u0649", "\u0635\u064a", "\u0636\u0649", "\u0636\u064a",
    "\u0634\u062c"]),
   (0xfd0a, ["\u0634\u062d", "\u0634\u062e", "\u0634\u0645", "\u0634\u0631", "\u0633\u0631",
    "\u0635\u0631"]),
   (0xfd10, ["\u0636\u0631", "\u0637\u0649", "\u0637\u064a", "\u0639\u0649", "\u0639\u064a",
    "\u063a\u0649"]),
   (0xfd16, ["\u063a\u064a", "\u0633\u0649", "\u0633\u064a", "\u0634\u0649", "\u0634\u064a",
    "\u062d\u0649"]),
   (0xfd1c, ["\u062d\u064a", "\u062c\u0649", "\u062c\u064a", "\u062e\u0649", "\u062e\u064a",
    "\u0635\u0649"]),
   (0xfd22, ["\u0635\u064a", "\u0636\u0649", "\u0636\u064a", "\u0634\u062c", "\u0634\u062d",
    "\u0634\u062e"]),
   (0xfd28, ["\u0634\u0645", "\u0634\u0631", "\u0633\u0631", "\u0635\u0631", "\u0636\u0631",
    "\u0634\u062c"]),
   (0xfd2e, ["\u0634\u062d", "\u0634\u062e", "\u0634\u0645", "\u0633\u0647", "\u0634\u0647",
    "\u0637\u0645"]),
   (0xfd34, ["\u0633\u062c", "\u0633\u062d", "\u0633\u062e", "\u0634\u062c", "\u0634\u062d",
    "\u0634\u062e"]), (0xfd3a, ["\u0637\u0645", "\u0638\u0645", "\u0627\u064b", "\u0627\u064b"]),
   (0xfd50, ["\u062a\u062c\u0645", "\u062a\u062d\u062c", "\u062a\u062d\u062c",
    "\u062a\u062d\u0645"]),
   (0xfd54, ["\u062a\u062e\u0645", "\u062a\u0645\u062c", "\u062a\u0645\u062d",
    "\u062a\u0645\u062e"]),
   (0xfd58, ["\u062c\u0645\u062d", "\u062c\u0645\u062d", "\u062d\u0645\u064a",
    "\u062d\u0645\u0649"]),
   (0xfd5c, ["\u0633\u062d\u062c", "\u0633\u062c\u062d", "\u0633\u062c\u0649",
    "\u0633\u0645\u062d"]),
   (0xfd60, ["\u0633\u0645\u062d", "\u0633\u0645\u062c", "\u0633\u0645\u0645",
    "\u0633\u0645\u0645"]),
   (0xfd64, ["\u0635\u062d\u062d", "\u0635\u062d\u062d", "\u0635\u0645\u0645",
    "\u0634\u062d\u0645"]),
   (0xfd68, ["\u0634\u062d\u0645", "\u0634\u062c\u064a", "\u0634\u0645\u062e",
    "\u0634\u0645\u062e"]),
   (0xfd6c, ["\u0634\u0645\u0645", "\u0634\u0645\u0645", "\u0636\u062d\u0649",
    "\u0636\u062e\u0645"]),
   (0xfd70, ["\u0636\u062e\u0645", "\u0637\u0645\u062d", "\u0637\u0645\u062d",
    "\u0637\u0645\u0645"]),
   (0xfd74, ["\u0637\u0645\u064a", "\u0639\u062c\u0645", "\u0639\u0645\u0645",
    "\u0639\u0645\u0645"]),
   (0xfd78, ["\u0639\u0645\u0649", "\u063a\u0645\u0645", "\u063a\u0645\u064a",
    "\u063a\u0645\u0649"]),
   (0xfd7c, ["\u0641\u062e\u0645", "\u0641\u062e\u0645", "\u0642\u0645\u062d",
    "\u0642\u0645\u0645"]),
   (0xfd80, ["\u0644\u062d\u0645", "\u0644\u062d\u064a", "\u0644\u062d\u0649",
    "\u0644\u062c\u062c"]),
   (0xfd84, ["\u0644\u062c\u062c", "\u0644\u062e\u0645", "\u0644\u062e\u0645",
    "\u0644\u0645\u062d"]),
   (0xfd88, ["\u0644\u0645\u062d", "\u0645\u062d\u062c", "\u0645\u062d\u0645",
    "\u0645\u062d\u064a"]),
   (0xfd8c, ["\u0645\u062c\u062d", "\u0645\u062c\u0645", "\u0645\u062e\u062c",
    "\u0645\u062e\u0645"]),
   (0xfd92, ["\u0645\u062c\u062e", "\u0647\u0645\u062c", "\u0647\u0645\u0645",
    "\u0646\u062d\u0645"]),
   (0xfd96, ["\u0646\u062d\u0649", "\u0646\u062c\u0645", "\u0646\u062c\u0645",
    "\u0646\u062c\u0649"]),
   (0xfd9a, ["\u0646\u0645\u064a", "\u0646\u0645\u0649", "\u064a\u0645\u0645",
    "\u064a\u0645\u0645"]),
   (0xfd9e, ["\u0628\u062e\u064a", "\u062a\u062c\u064a", "\u062a\u062c\u0649",
    "\u062a\u062e\u064a"]),
   (0xfda2, ["\u062a\u062e\u0649", "\u062a\u0645\u064a", "\u062a\u0645\u0649",
    "\u062c\u0645\u064a"]),
   (0xfda6, ["\u062c\u062d\u0649", "\u062c\u0645\u0649", "\u0633\u062e\u0649",
    "\u0635\u062d\u064a"]),
   (0xfdaa, ["\u0634\u062d\u064a", "\u0636\u062d\u064a", "\u0644\u062c\u064a",
    "\u0644\u0645\u064a"]),
   (0xfdae, ["\u064a\u062d\u064a", "\u064a\u062c\u064a", "\u064a\u0645\u064a",
    "\u0645\u0645\u064a"]),
   (0xfdb2, ["\u0642\u0645\u064a", "\u0646\u062d\u064a", "\u0642\u0645\u062d",
    "\u0644\u062d\u0645"]),
   (0xfdb6, ["\u0639\u0645\u064a", "\u0643\u0645\u064a", "\u0646\u062c\u062d",
    "\u0645\u062e\u064a"]),
   (0xfdba, ["\u0644\u062c\u0645", "\u0643\u0645\u0645", "\u0644\u062c\u0645",
    "\u0646\u062c\u062d"]),
   (0xfdbe, ["\u062c\u062d\u064a", "\u062d\u062c\u064a", "\u0645\u062c\u064a",
    "\u0641\u0645\u064a"]),
   (0xfdc2, ["\u0628\u062d\u064a", "\u0643\u0645\u0645", "\u0639\u062c\u0645",
    "\u0635\u0645\u0645"]), (0xfdc6, ["\u0633\u062e\u064a", "\u0646\u062c\u064a"]),
   (0xfdf0, ["\u0635\u0644\u06d2", "\u0642\u0644\u06d2", "\u0627\u0644\u0644\u0647",
    "\u0627\u0643\u0628\u0631"]),
   (0xfdf4, ["\u0645\u062d\u0645\u062f", "\u0635\u0644\u0639\u0645", "\u0631\u0633\u0648\u0644",
    "\u0639\u0644\u064a\u0647"]),
   (0xfdf8, ["\u0648\u0633\u0644\u0645", "\u0635\u0644\u0649",
    "\u0635\u0644\u0649 \u0627\u0644\u0644\u0647 \u0639\u0644\u064a\u0647 \u0648\u0633\u0644\u0645"]),
   (0xfdfb, ["\u062c\u0644 \u062c\u0644\u0627\u0644\u0647", "\u0631\u06cc\u0627\u0644"]),
   (0xfe30, [".."]), (0xfe49, [" \u0305", " \u0305", " \u0305", " \u0305"]),
   (0xfe70, [" \u064b", "\u0640\u064b", " \u064c"]), (0xfe74, [" \u064d"]),
   (0xfe76, [" \u064e", "\u0640\u064e", " \u064f", "\u0640\u064f", " \u0650", "\u0640\u0650",
    " \u0651"]), (0xfe7d, ["\u0640\u0651", " \u0652", "\u0640\u0652"]),
   (0xfe81, ["\u0627\u0653", "\u0627\u0653", "\u0627\u0654", "\u0627\u0654", "\u0648\u0654",
    "\u0648\u0654"]),
   (0xfe87, ["\u0627\u0655", "\u0627\u0655", "\u064a\u0654", "\u064a\u0654", "\u064a\u0654",
    "\u064a\u0654"]),
   (0xfef5, ["\u0644\u0627\u0653", "\u0644\u0627\u0653", "\u0644\u0627\u0654",
    "\u0644\u0627\u0654"]),
   (0xfef9, ["\u0644\u0627\u0655", "\u0644\u0627\u0655", "\u0644\u0627", "\u0644\u0627"]),
   (0xffe3, [" \u0304"]), (0x1d15e, ["𝅗𝅥", "𝅘𝅥", "𝅘𝅥𝅮", "𝅘𝅥𝅯", "𝅘𝅥𝅰", "𝅘𝅥𝅱", "𝅘𝅥𝅲"]),
   (0x1d1bb, ["𝆹𝅥", "𝆺𝅥", "𝆹𝅥𝅮", "𝆺𝅥𝅮", "𝆹𝅥𝅯", "𝆺𝅥𝅯"])]

/-- For a second part, the first parts that join with it and the wholes. -/
def wholes : List (Char × String × String) :=
  [('\u0300', "AEIOUaeiouÜüNnЕИеиĒēŌōWwÂâĂăÊêÔôƠơƯ", "ÀÈÌÒÙàèìòùǛǜǸǹЀЍѐѝḔḕṐṑẀẁẦầẰằỀềỒồỜờỪ"),
   ('\u0300', "ưYyἀἁἈἉἐἑἘἙἠἡἨἩἰἱἸἹὀὁὈὉὐὑὙὠὡὨὩαεηιο", "ừỲỳἂἃἊἋἒἓἚἛἢἣἪἫἲἳἺἻὂὃὊὋὒὓὛὢὣὪὫὰὲὴὶὸ"),
   ('\u0300', "υωΑΕΗ᾿ϊΙ῾ϋΥ¨ΟΩ", "ὺὼᾺῈῊ῍ῒῚ῝ῢῪ῭ῸῺ"),
   ('\u0301', "AEIOUYaeiouyCcLlNnRrSsZzÜüGgÅåÆæØø¨", "ÁÉÍÓÚÝáéíóúýĆćĹĺŃńŔŕŚśŹźǗǘǴǵǺǻǼǽǾǿ΅"),
   ('\u0301', "ΑΕΗΙΟΥΩϊαεηιϋουωϒГКгкÇçĒēÏïKkMmÕõŌō", "ΆΈΉΊΌΎΏΐάέήίΰόύώϓЃЌѓќḈḉḖḗḮḯḰḱḾḿṌṍṒṓ"),
   ('\u0301', "PpŨũWwÂâĂăÊêÔôƠơƯưἀἁἈἉἐἑἘἙἠἡἨἩἰἱἸἹὀ", "ṔṕṸṹẂẃẤấẮắẾếỐốỚớỨứἄἅἌἍἔἕἜἝἤἥἬἭἴἵἼἽὄ"),
   ('\u0301', "ὁὈὉὐὑὙὠὡὨὩ᾿῾", "ὅὌὍὔὕὝὤὥὬὭ῎῞"),
   ('\u0302', "AEIOUaeiouCcGgHhJjSsWwYyZzẠạẸẹỌọ", "ÂÊÎÔÛâêîôûĈĉĜĝĤĥĴĵŜŝŴŵŶŷẐẑẬậỆệỘộ"),
   ('\u0303', "ANOanoIiUuVvÂâĂăEeÊêÔôƠơƯưYy", "ÃÑÕãñõĨĩŨũṼṽẪẫẴẵẼẽỄễỖỗỠỡỮữỸỹ"),
   ('\u0304', "AaEeIiOoUuÜüÄäȦȧÆæǪǫÖöÕõȮȯYyИиУуGgḶ", "ĀāĒēĪīŌōŪūǕǖǞǟǠǡǢǣǬǭȪȫȬȭȰȱȲȳӢӣӮӯḠḡḸ"),
   ('\u0304', "ḷṚṛαΑιΙυΥ", "ḹṜṝᾱᾹῑῙῡῩ"),
   ('\u0306', "AaEeGgIiOoUuУИиуЖжАаЕеȨȩẠạαΑιΙυΥ", "ĂăĔĕĞğĬĭŎŏŬŭЎЙйўӁӂӐӑӖӗḜḝẶặᾰᾸῐῘῠῨ"),
   ('\u0307', "CcEeGgIZzAaOoBbDdFfHhMmNnPpRrSsŚśŠš", "ĊċĖėĠġİŻżȦȧȮȯḂḃḊḋḞḟḢḣṀṁṄṅṖṗṘṙṠṡṤṥṦṧ"),
   ('\u0307', "ṢṣTtWwXxYyſ", "ṨṩṪṫẆẇẊẋẎẏẛ"),
   ('\u0308', "AEIOUaeiouyYΙΥιυϒЕІеіАаӘәЖжЗзИиОоӨө", "ÄËÏÖÜäëïöüÿŸΪΫϊϋϔЁЇёїӒӓӚӛӜӝӞӟӤӥӦӧӪӫ"),
   ('\u0308', "ЭэУуЧчЫыHhÕõŪūWwXxt", "ӬӭӰӱӴӵӸӹḦḧṎṏṺṻẄẅẌẍẗ"),
   ('\u0309', "AaÂâĂăEeÊêIiOoÔôƠơUuƯưYy", "ẢảẨẩẲẳẺẻỂểỈỉỎỏỔổỞởỦủỬửỶỷ"),
   ('\u030a', "AaUuwy", "ÅåŮůẘẙ"), ('\u030b', "OoUuУу", "ŐőŰűӲӳ"),
   ('\u030c', "CcDdEeLlNnRrSsTtZzAaIiOoUuÜüGgKkƷʒj", "ČčĎďĚěĽľŇňŘřŠšŤťŽžǍǎǏǐǑǒǓǔǙǚǦǧǨǩǮǯǰ"),
   ('\u030c', "Hh", "Ȟȟ"), ('\u030f', "AaEeIiOoRrUuѴѵ", "ȀȁȄȅȈȉȌȍȐȑȔȕѶѷ"),
   ('\u0311', "AaEeIiOoRrUu", "ȂȃȆȇȊȋȎȏȒȓȖȗ"), ('\u0313', "αΑεΕηΗιΙοΟυωΩρ", "ἀἈἐἘἠἨἰἸὀὈὐὠὨῤ"),
   ('\u0314', "αΑεΕηΗιΙοΟυΥωΩρΡ", "ἁἉἑἙἡἩἱἹὁὉὑὙὡὩῥῬ"), ('\u031b', "OoUu", "ƠơƯư"),
   ('\u0323', "BbDdHhKkLlMmNnRrSsTtVvWwZzAaEeIiOoƠ", "ḄḅḌḍḤḥḲḳḶḷṂṃṆṇṚṛṢṣṬṭṾṿẈẉẒẓẠạẸẹỊịỌọỢ"),
   ('\u0323', "ơUuƯưYy", "ợỤụỰựỴỵ"), ('\u0324', "Uu", "Ṳṳ"), ('\u0325', "Aa", "Ḁḁ"),
   ('\u0326', "SsTt", "ȘșȚț"), ('\u0327', "CcGgKkLlNnRrSsTtEeDdHh", "ÇçĢģĶķĻļŅņŖŗŞşŢţȨȩḐḑḨḩ"),
   ('\u0328', "AaEeIiUuOo", "ĄąĘęĮįŲųǪǫ"), ('\u032d', "DdEeLlNnTtUu", "ḒḓḘḙḼḽṊṋṰṱṶṷ"),
   ('\u032e', "Hh", "Ḫḫ"), ('\u0330', "EeIiUu", "ḚḛḬḭṴṵ"),
   ('\u0331', "BbDdKkLlNnRrTtZzh", "ḆḇḎḏḴḵḺḻṈṉṞṟṮṯẔẕẖ"),
   ('\u0338', "←→↔⇐⇔⇒∃∈∋∣∥∼≃≅≈=≡≍<>≤≥≲≳≶≷≺≻⊂⊃⊆⊇⊢⊨⊩", "↚↛↮⇍⇎⇏∄∉∌∤∦≁≄≇≉≠≢≭≮≯≰≱≴≵≸≹⊀⊁⊄⊅⊈⊉⊬⊭⊮"),
   ('\u0338', "⊫≼≽⊑⊒⊲⊳⊴⊵", "⊯⋠⋡⋢⋣⋪⋫⋬⋭"),
   ('\u0342', "ἀἁἈἉἠἡἨἩἰἱἸἹὐὑὙὠὡὨὩα¨η᾿ιϊ῾υϋω", "ἆἇἎἏἦἧἮἯἶἷἾἿὖὗὟὦὧὮὯᾶ῁ῆ῏ῖῗ῟ῦῧῶ"),
   ('\u0345', "ἀἁἂἃἄἅἆἇἈἉἊἋἌἍἎἏἠἡἢἣἤἥἦἧἨἩἪἫἬἭἮἯὠὡὢ", "ᾀᾁᾂᾃᾄᾅᾆᾇᾈᾉᾊᾋᾌᾍᾎᾏᾐᾑᾒᾓᾔᾕᾖᾗᾘᾙᾚᾛᾜᾝᾞᾟᾠᾡᾢ"),
   ('\u0345', "ὣὤὥὦὧὨὩὪὫὬὭὮὯὰαάᾶΑὴηήῆΗὼωώῶΩ", "ᾣᾤᾥᾦᾧᾨᾩᾪᾫᾬᾭᾮᾯᾲᾳᾴᾷᾼῂῃῄῇῌῲῳῴῷῼ"),
   ('\u0653', "\u0627", "\u0622"),
   ('\u0654', "\u0627\u0648\u064a\u06d5\u06c1", "\u0623\u0624\u0626\u06c0\u06c2"),
   ('\u0654', "\u06d2", "\u06d3"), ('\u0655', "\u0627", "\u0625"), ('\u093c', "नरळ", "ऩऱऴ"),
   ('\u09be', "\u09c7", "\u09cb"), ('\u09d7', "\u09c7", "\u09cc"), ('\u0b3e', "\u0b47", "\u0b4b"),
   ('\u0b56', "\u0b47", "\u0b48"), ('\u0b57', "\u0b47", "\u0b4c"),
   ('\u0bbe', "\u0bc6\u0bc7", "\u0bca\u0bcb"), ('\u0bd7', "ஒ\u0bc6", "ஔ\u0bcc"),
   ('\u0c56', "\u0c46", "\u0c48"), ('\u0cc2', "\u0cc6", "\u0cca"),
   ('\u0cd5', "\u0cbf\u0cc6\u0cca", "\u0cc0\u0cc7\u0ccb"), ('\u0cd6', "\u0cc6", "\u0cc8"),
   ('\u0d3e', "\u0d46\u0d47", "\u0d4a\u0d4b"), ('\u0d57', "\u0d46", "\u0d4c"),
   ('\u0dca', "\u0dd9\u0ddc", "\u0dda\u0ddd"), ('\u0dcf', "\u0dd9", "\u0ddc"),
   ('\u0ddf', "\u0dd9", "\u0dde"), ('\u102e', "ဥ", "ဦ"),
   ('\u1b35', "ᬅᬇᬉᬋᬍᬑ\u1b3a\u1b3c\u1b3e\u1b3f", "ᬆᬈᬊᬌᬎᬒ\u1b3b\u1b3d\u1b40\u1b41"),
   ('\u1b35', "\u1b42", "\u1b43"),
   ('\u3099', "かきくけこさしすせそたちつてとはひふへほうゝカキクケコサシスセソタチツ", "がぎぐげござじずぜぞだぢづでどばびぶべぼゔゞガギグゲゴザジズゼゾダヂヅ"),
   ('\u3099', "テトハヒフヘホウワヰヱヲヽ", "デドバビブベボヴヷヸヹヺヾ"), ('\u309a', "はひふへほハヒフヘホ", "ぱぴぷぺぽパピプペポ"),
   ('𑂺', "𑂙𑂛𑂥", "𑂚𑂜𑂫"), ('𑄧', "𑄱𑄲", "𑄮𑄯"), ('𑌾', "𑍇", "𑍋"), ('𑍗', "𑍇", "𑍌"), ('𑒰', "𑒹", "𑒼"),
   ('𑒺', "𑒹", "𑒻"), ('𑒽', "𑒹", "𑒾"), ('𑖯', "𑖸𑖹", "𑖺𑖻"), ('𑤰', "𑤵", "𑤸")]

/-- Ranges of marks with the weights by which they are ordered. -/
def weights : List (Nat × Nat × Nat) :=
  [(0x300, 0x314, 230), (0x315, 0x315, 232), (0x316, 0x319, 220), (0x31a, 0x31a, 232),
   (0x31b, 0x31b, 216), (0x31c, 0x320, 220), (0x321, 0x322, 202), (0x323, 0x326, 220),
   (0x327, 0x328, 202), (0x329, 0x333, 220), (0x334, 0x338, 1), (0x339, 0x33c, 220),
   (0x33d, 0x344, 230), (0x345, 0x345, 240), (0x346, 0x346, 230), (0x347, 0x349, 220),
   (0x34a, 0x34c, 230), (0x34d, 0x34e, 220), (0x350, 0x352, 230), (0x353, 0x356, 220),
   (0x357, 0x357, 230), (0x358, 0x358, 232), (0x359, 0x35a, 220), (0x35b, 0x35b, 230),
   (0x35c, 0x35c, 233), (0x35d, 0x35e, 234), (0x35f, 0x35f, 233), (0x360, 0x361, 234),
   (0x362, 0x362, 233), (0x363, 0x36f, 230), (0x483, 0x487, 230), (0x591, 0x591, 220),
   (0x592, 0x595, 230), (0x596, 0x596, 220), (0x597, 0x599, 230), (0x59a, 0x59a, 222),
   (0x59b, 0x59b, 220), (0x59c, 0x5a1, 230), (0x5a2, 0x5a7, 220), (0x5a8, 0x5a9, 230),
   (0x5aa, 0x5aa, 220), (0x5ab, 0x5ac, 230), (0x5ad, 0x5ad, 222), (0x5ae, 0x5ae, 228),
   (0x5af, 0x5af, 230), (0x5b0, 0x5b0, 10), (0x5b1, 0x5b1, 11), (0x5b2, 0x5b2, 12),
   (0x5b3, 0x5b3, 13), (0x5b4, 0x5b4, 14), (0x5b5, 0x5b5, 15), (0x5b6, 0x5b6, 16),
   (0x5b7, 0x5b7, 17), (0x5b8, 0x5b8, 18), (0x5b9, 0x5ba, 19), (0x5bb, 0x5bb, 20),
   (0x5bc, 0x5bc, 21), (0x5bd, 0x5bd, 22), (0x5bf, 0x5bf, 23), (0x5c1, 0x5c1, 24),
   (0x5c2, 0x5c2, 25), (0x5c4, 0x5c4, 230), (0x5c5, 0x5c5, 220), (0x5c7, 0x5c7, 18),
   (0x610, 0x617, 230), (0x618, 0x618, 30), (0x619, 0x619, 31), (0x61a, 0x61a, 32),
   (0x64b, 0x64b, 27), (0x64c, 0x64c, 28), (0x64d, 0x64d, 29), (0x64e, 0x64e, 30),
   (0x64f, 0x64f, 31), (0x650, 0x650, 32), (0x651, 0x651, 33), (0x652, 0x652, 34),
   (0x653, 0x654, 230), (0x655, 0x656, 220), (0x657, 0x65b, 230), (0x65c, 0x65c, 220),
   (0x65d, 0x65e, 230), (0x65f, 0x65f, 220), (0x670, 0x670, 35), (0x6d6, 0x6dc, 230),
   (0x6df, 0x6e2, 230), (0x6e3, 0x6e3, 220), (0x6e4, 0x6e4, 230), (0x6e7, 0x6e8, 230),
   (0x6ea, 0x6ea, 220), (0x6eb, 0x6ec, 230), (0x6ed, 0x6ed, 220), (0x711, 0x711, 36),
   (0x730, 0x730, 230), (0x731, 0x731, 220), (0x732, 0x733, 230), (0x734, 0x734, 220),
   (0x735, 0x736, 230), (0x737, 0x739, 220), (0x73a, 0x73a, 230), (0x73b, 0x73c, 220),
   (0x73d, 0x73d, 230), (0x73e, 0x73e, 220), (0x73f, 0x741, 230), (0x742, 0x742, 220),
   (0x743, 0x743, 230), (0x744, 0x744, 220), (0x745, 0x745, 230), (0x746, 0x746, 220),
   (0x747, 0x747, 230), (0x748, 0x748, 220), (0x749, 0x74a, 230), (0x7eb, 0x7f1, 230),
   (0x7f2, 0x7f2, 220), (0x7f3, 0x7f3, 230), (0x7fd, 0x7fd, 220), (0x816, 0x819, 230),
   (0x81b, 0x823, 230), (0x825, 0x827, 230), (0x829, 0x82d, 230), (0x859, 0x85b, 220),
   (0x898, 0x898, 230), (0x899, 0x89b, 220), (0x89c, 0x89f, 230), (0x8ca, 0x8ce, 230),
   (0x8cf, 0x8d3, 220), (0x8d4, 0x8e1, 230), (0x8e3, 0x8e3, 220), (0x8e4, 0x8e5, 230),
   (0x8e6, 0x8e6, 220), (0x8e7, 0x8e8, 230), (0x8e9, 0x8e9, 220), (0x8ea, 0x8ec, 230),
   (0x8ed, 0x8ef, 220), (0x8f0, 0x8f0, 27), (0x8f1, 0x8f1, 28), (0x8f2, 0x8f2, 29),
   (0x8f3, 0x8f5, 230), (0x8f6, 0x8f6, 220), (0x8f7, 0x8f8, 230), (0x8f9, 0x8fa, 220),
   (0x8fb, 0x8ff, 230), (0x93c, 0x93c, 7), (0x94d, 0x94d, 9), (0x951, 0x951, 230),
   (0x952, 0x952, 220), (0x953, 0x954, 230), (0x9bc, 0x9bc, 7), (0x9cd, 0x9cd, 9),
   (0x9fe, 0x9fe, 230), (0xa3c, 0xa3c, 7), (0xa4d, 0xa4d, 9), (0xabc, 0xabc, 7), (0xacd, 0xacd, 9),
   (0xb3c, 0xb3c, 7), (0xb4d, 0xb4d, 9), (0xbcd, 0xbcd, 9), (0xc3c, 0xc3c, 7), (0xc4d, 0xc4d, 9),
   (0xc55, 0xc55, 84), (0xc56, 0xc56, 91), (0xcbc, 0xcbc, 7), (0xccd, 0xccd, 9), (0xd3b, 0xd3c, 9),
   (0xd4d, 0xd4d, 9), (0xdca, 0xdca, 9), (0xe38, 0xe39, 103), (0xe3a, 0xe3a, 9),
   (0xe48, 0xe4b, 107), (0xeb8, 0xeb9, 118), (0xeba, 0xeba, 9), (0xec8, 0xecb, 122),
   (0xf18, 0xf19, 220), (0xf35, 0xf35, 220), (0xf37, 0xf37, 220), (0xf39, 0xf39, 216),
   (0xf71, 0xf71, 129), (0xf72, 0xf72, 130), (0xf74, 0xf74, 132), (0xf7a, 0xf7d, 130),
   (0xf80, 0xf80, 130), (0xf82, 0xf83, 230), (0xf84, 0xf84, 9), (0xf86, 0xf87, 230),
   (0xfc6, 0xfc6, 220), (0x1037, 0x1037, 7), (0x1039, 0x103a, 9), (0x108d, 0x108d, 220),
   (0x135d, 0x135f, 230), (0x1714, 0x1715, 9), (0x1734, 0x1734, 9), (0x17d2, 0x17d2, 9),
   (0x17dd, 0x17dd, 230), (0x18a9, 0x18a9, 228), (0x1939, 0x1939, 222), (0x193a, 0x193a, 230),
   (0x193b, 0x193b, 220), (0x1a17, 0x1a17, 230), (0x1a18, 0x1a18, 220), (0x1a60, 0x1a60, 9),
   (0x1a75, 0x1a7c, 230), (0x1a7f, 0x1a7f, 220), (0x1ab0, 0x1ab4, 230), (0x1ab5, 0x1aba, 220),
   (0x1abb, 0x1abc, 230), (0x1abd, 0x1abd, 220), (0x1abf, 0x1ac0, 220), (0x1ac1, 0x1ac2, 230),
   (0x1ac3, 0x1ac4, 220), (0x1ac5, 0x1ac9, 230), (0x1aca, 0x1aca, 220), (0x1acb, 0x1ace, 230),
   (0x1b34, 0x1b34, 7), (0x1b44, 0x1b44, 9), (0x1b6b, 0x1b6b, 230), (0x1b6c, 0x1b6c, 220),
   (0x1b6d, 0x1b73, 230), (0x1baa, 0x1bab, 9), (0x1be6, 0x1be6, 7), (0x1bf2, 0x1bf3, 9),
   (0x1c37, 0x1c37, 7), (0x1cd0, 0x1cd2, 230), (0x1cd4, 0x1cd4, 1), (0x1cd5, 0x1cd9, 220),
   (0x1cda, 0x1cdb, 230), (0x1cdc, 0x1cdf, 220), (0x1ce0, 0x1ce0, 230), (0x1ce2, 0x1ce8, 1),
   (0x1ced, 0x1ced, 220), (0x1cf4, 0x1cf4, 230), (0x1cf8, 0x1cf9, 230), (0x1dc0, 0x1dc1, 230),
   (0x1dc2, 0x1dc2, 220), (0x1dc3, 0x1dc9, 230), (0x1dca, 0x1dca, 220), (0x1dcb, 0x1dcc, 230),
   (0x1dcd, 0x1dcd, 234), (0x1dce, 0x1dce, 214), (0x1dcf, 0x1dcf, 220), (0x1dd0, 0x1dd0, 202),
   (0x1dd1, 0x1df5, 230), (0x1df6, 0x1df6, 232), (0x1df7, 0x1df8, 228), (0x1df9, 0x1df9, 220),
   (0x1dfa, 0x1dfa, 218), (0x1dfb, 0x1dfb, 230), (0x1dfc, 0x1dfc, 233), (0x1dfd, 0x1dfd, 220),
   (0x1dfe, 0x1dfe, 230), (0x1dff, 0x1dff, 220), (0x20d0, 0x20d1, 230), (0x20d2, 0x20d3, 1),
   (0x20d4, 0x20d7, 230), (0x20d8, 0x20da, 1), (0x20db, 0x20dc, 230), (0x20e1, 0x20e1, 230),
   (0x20e5, 0x20e6, 1), (0x20e7, 0x20e7, 230), (0x20e8, 0x20e8, 220), (0x20e9, 0x20e9, 230),
   (0x20ea, 0x20eb, 1), (0x20ec, 0x20ef, 220), (0x20f0, 0x20f0, 230), (0x2cef, 0x2cf1, 230),
   (0x2d7f, 0x2d7f, 9), (0x2de0, 0x2dff, 230), (0x302a, 0x302a, 218), (0x302b, 0x302b, 228),
   (0x302c, 0x302c, 232), (0x302d, 0x302d, 222), (0x302e, 0x302f, 224), (0x3099, 0x309a, 8),
   (0xa66f, 0xa66f, 230), (0xa674, 0xa67d, 230), (0xa69e, 0xa69f, 230), (0xa6f0, 0xa6f1, 230),
   (0xa806, 0xa806, 9), (0xa82c, 0xa82c, 9), (0xa8c4, 0xa8c4, 9), (0xa8e0, 0xa8f1, 230),
   (0xa92b, 0xa92d, 220), (0xa953, 0xa953, 9), (0xa9b3, 0xa9b3, 7), (0xa9c0, 0xa9c0, 9),
   (0xaab0, 0xaab0, 230), (0xaab2, 0xaab3, 230), (0xaab4, 0xaab4, 220), (0xaab7, 0xaab8, 230),
   (0xaabe, 0xaabf, 230), (0xaac1, 0xaac1, 230), (0xaaf6, 0xaaf6, 9), (0xabed, 0xabed, 9),
   (0xfb1e, 0xfb1e, 26), (0xfe20, 0xfe26, 230), (0xfe27, 0xfe2d, 220), (0xfe2e, 0xfe2f, 230),
   (0x101fd, 0x101fd, 220), (0x102e0, 0x102e0, 220), (0x10376, 0x1037a, 230),
   (0x10a0d, 0x10a0d, 220), (0x10a0f, 0x10a0f, 230), (0x10a38, 0x10a38, 230), (0x10a39, 0x10a39, 1),
   (0x10a3a, 0x10a3a, 220), (0x10a3f, 0x10a3f, 9), (0x10ae5, 0x10ae5, 230), (0x10ae6, 0x10ae6, 220),
   (0x10d24, 0x10d27, 230), (0x10eab, 0x10eac, 230), (0x10f46, 0x10f47, 220),
   (0x10f48, 0x10f4a, 230), (0x10f4b, 0x10f4b, 220), (0x10f4c, 0x10f4c, 230),
   (0x10f4d, 0x10f50, 220), (0x10f82, 0x10f82, 230), (0x10f83, 0x10f83, 220),
   (0x10f84, 0x10f84, 230), (0x10f85, 0x10f85, 220), (0x11046, 0x11046, 9), (0x11070, 0x11070, 9),
   (0x1107f, 0x1107f, 9), (0x110b9, 0x110b9, 9), (0x110ba, 0x110ba, 7), (0x11100, 0x11102, 230),
   (0x11133, 0x11134, 9), (0x11173, 0x11173, 7), (0x111c0, 0x111c0, 9), (0x111ca, 0x111ca, 7),
   (0x11235, 0x11235, 9), (0x11236, 0x11236, 7), (0x112e9, 0x112e9, 7), (0x112ea, 0x112ea, 9),
   (0x1133b, 0x1133c, 7), (0x1134d, 0x1134d, 9), (0x11366, 0x1136c, 230), (0x11370, 0x11374, 230),
   (0x11442, 0x11442, 9), (0x11446, 0x11446, 7), (0x1145e, 0x1145e, 230), (0x114c2, 0x114c2, 9),
   (0x114c3, 0x114c3, 7), (0x115bf, 0x115bf, 9), (0x115c0, 0x115c0, 7), (0x1163f, 0x1163f, 9),
   (0x116b6, 0x116b6, 9), (0x116b7, 0x116b7, 7), (0x1172b, 0x1172b, 9), (0x11839, 0x11839, 9),
   (0x1183a, 0x1183a, 7), (0x1193d, 0x1193e, 9), (0x11943, 0x11943, 7), (0x119e0, 0x119e0, 9),
   (0x11a34, 0x11a34, 9), (0x11a47, 0x11a47, 9), (0x11a99, 0x11a99, 9), (0x11c3f, 0x11c3f, 9),
   (0x11d42, 0x11d42, 7), (0x11d44, 0x11d45, 9), (0x11d97, 0x11d97, 9), (0x16af0, 0x16af4, 1),
   (0x16b30, 0x16b36, 230), (0x16ff0, 0x16ff1, 6), (0x1bc9e, 0x1bc9e, 1), (0x1d165, 0x1d166, 216),
   (0x1d167, 0x1d169, 1), (0x1d16d, 0x1d16d, 226), (0x1d16e, 0x1d172, 216), (0x1d17b, 0x1d182, 220),
   (0x1d185, 0x1d189, 230), (0x1d18a, 0x1d18b, 220), (0x1d1aa, 0x1d1ad, 230),
   (0x1d242, 0x1d244, 230), (0x1e000, 0x1e006, 230), (0x1e008, 0x1e018, 230),
   (0x1e01b, 0x1e021, 230), (0x1e023, 0x1e024, 230), (0x1e026, 0x1e02a, 230),
   (0x1e130, 0x1e136, 230), (0x1e2ae, 0x1e2ae, 230), (0x1e2ec, 0x1e2ef, 230),
   (0x1e8d0, 0x1e8d6, 220), (0x1e944, 0x1e949, 230), (0x1e94a, 0x1e94a, 7)]

end SqlRoutes.Text.Normal
