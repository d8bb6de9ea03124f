/-!
# Replacements in the names of hosts, as tables

What stands in the name of a host for a character that is the same letter in another form: wide,
narrow, circled, raised, joined and the like. The lower case of letters is not listed, nor are
characters that normal form C composes.
-/

namespace StoreGate

namespace HostName

/-- Characters that are left out of names. -/
def ignoredRanges : List (Nat × Nat) := [
  (0xAD, 0xAD), (0x34F, 0x34F), (0x115F, 0x1160), (0x17B4, 0x17B5), (0x180B, 0x180F),
  (0x200B, 0x200B), (0x2060, 0x2064), (0x206A, 0x206F), (0x3164, 0x3164), (0xFE00, 0xFE0F),
  (0xFEFF, 0xFEFF), (0xFFA0, 0xFFA0), (0x1BCA0, 0x1BCA3), (0x1D173, 0x1D17A), (0xE0100, 0xE01EF)]

/-- Characters that show on a page and yet stand in no name. -/
def refusedRanges : List (Nat × Nat) := [
  (0x2024, 0x2026), (0x2488, 0x249B), (0x2FF0, 0x2FFF), (0x31EF, 0x31EF), (0x33C2, 0x33C2),
  (0x33C7, 0x33C7), (0x33D8, 0x33D8), (0xFE12, 0xFE12), (0xFE19, 0xFE19), (0xFE30, 0xFE30),
  (0xFE52, 0xFE52), (0xFFFC, 0xFFFD), (0x1F100, 0x1F100)]

/-- Runs of characters with one other character in place of each: the first of the run, and the
others in order. -/
def letterReplacements : List (Nat × String) := [
  (0xA0, " "), (0xAA, "a"), (0xB2, "23"), (0xB5, "μ"), (0xB9, "1o"), (0x17F, "s"),
  (0x2B0, "hɦjrɹɻʁwy"), (0x2E0, "ɣlsxʕ"), (0x340, "̀́"), (0x343, "̓"), (0x345, "ι"), (0x374, "ʹ"),
  (0x37E, ";"), (0x387, "·"), (0x3D0, "βθυύϋφπ"), (0x3F0, "κρσ"), (0x3F5, "ε"), (0x3F9, "σ"),
  (0xF0C, "་"), (0x10FC, "ნ"), (0x13F8, "ᏰᏱᏲᏳᏴᏵ"), (0x1C80, "вдосттъѣꙋ"), (0x1D2C, "aæb"),
  (0x1D30, "deǝghijklmn"), (0x1D3C, "oȣprtuwaɐɑᴂbdeəɛɜg"), (0x1D4F, "kmŋoɔᴖᴗptuᴝɯvᴥβγδφχiruvβγρφχ"),
  (0x1D78, "н"), (0x1D9B, "ɒcɕðɜfɟɡɥɨɩɪᵻʝɭᶅʟɱɰɲɳɴɵɸʂʃƫʉʊᴜʋʌzʐʑʒθ"), (0x1E9B, "ṡ"), (0x1F71, "ά"),
  (0x1F73, "έ"), (0x1F75, "ή"), (0x1F77, "ί"), (0x1F79, "ό"), (0x1F7B, "ύ"), (0x1F7D, "ώ"),
  (0x1FBB, "ά"), (0x1FBE, "ι"), (0x1FC9, "έ"), (0x1FCB, "ή"), (0x1FD3, "ΐ"), (0x1FDB, "ί"),
  (0x1FE3, "ΰ"), (0x1FEB, "ύ"), (0x1FEF, "`"), (0x1FF9, "ό"), (0x1FFB, "ώ"),
  (0x2000, "           "), (0x2011, "‐"), (0x202F, " "), (0x205F, " "), (0x2070, "0i"),
  (0x2074, "456789+−=()n0123456789+−=()"), (0x2090, "aeoxəhklmnpst"), (0x2102, "c"), (0x2107, "ɛ"),
  (0x210A, "ghhhhħiill"), (0x2115, "n"), (0x2119, "pqrrr"), (0x2124, "z"), (0x2128, "z"),
  (0x212C, "bc"), (0x212F, "eef"), (0x2133, "moאבגדi"), (0x213C, "πγγπ∑"), (0x2145, "ddeij"),
  (0x2160, "i"), (0x2164, "v"), (0x2169, "x"), (0x216C, "lcdmi"), (0x2174, "v"), (0x2179, "x"),
  (0x217C, "lcdm"), (0x2329, "〈〉"), (0x2460, "123456789"),
  (0x24B6, "abcdefghijklmnopqrstuvwxyzabcdefghijklmnopqrstuvwxyz0"), (0x2C7C, "jv"), (0x2D6F, "ⵡ"),
  (0x2E9F, "母"), (0x2EF3, "龟"),
  (0x2F00, "一丨丶丿乙亅二亠人儿入八冂冖冫几凵刀力勹匕匚匸十卜卩厂厶又口囗土士夂夊夕大女子宀寸小尢尸屮山巛工己巾干幺广廴廾弋弓彐彡彳心戈戶手"),
  (0x2F40, "支攴文斗斤方无日曰月木欠止歹殳毋比毛氏气水火爪父爻爿片牙牛犬玄玉瓜瓦甘生用田疋疒癶白皮皿目矛矢石示禸禾穴立竹米糸缶网羊羽老而耒耳"),
  (0x2F80, "聿肉臣自至臼舌舛舟艮色艸虍虫血行衣襾見角言谷豆豕豸貝赤走足身車辛辰辵邑酉釆里金長門阜隶隹雨靑非面革韋韭音頁風飛食首香馬骨高髟鬥鬯"),
  (0x2FC0, "鬲鬼魚鳥鹵鹿麥麻黃黍黑黹黽鼎鼓鼠鼻齊齒龍龜龠"), (0x3000, " "), (0x3002, "."), (0x3036, "〒"), (0x3038, "十卄卅"),
  (0x3131, "ᄀᄁᆪᄂᆬᆭᄃᄄᄅᆰᆱᆲᆳᆴᆵᄚᄆᄇᄈᄡᄉᄊᄋᄌᄍᄎᄏᄐᄑ하ᅢᅣᅤᅥᅦᅧᅨᅩᅪᅫᅬᅭᅮᅯᅰᅱᅲᅳᅴᅵ"),
  (0x3165, "ᄔᄕᇇᇈᇌᇎᇓᇗᇙᄜᇝᇟᄝᄞᄠᄢᄣᄧᄩᄫᄬᄭᄮᄯᄲᄶᅀᅇᅌᇱᇲᅗᅘᅙᆄᆅᆈᆑᆒᆔᆞᆡ"), (0x3192, "一二三四上中下甲乙丙丁天地人"),
  (0x3244, "問幼文箏"), (0x3260, "ᄀᄂᄃᄅᄆᄇᄉᄋᄌᄎᄏᄐᄑᄒ가나다라마바사아자차카타파하"), (0x327E, "우"),
  (0x3280, "一二三四五六七八九十月火水木金土日株有社名特財祝労秘男女適優印注項休写正上中下左右医宗学監企資協夜"),
  (0x32D0, "アイウエオカキクケコサシスセソタチツテトナニヌネノハヒフヘホマミムメモヤユヨラリルレロワヰヱヲ"), (0xA69C, "ъь"), (0xA770, "ꝯ"),
  (0xA7F1, "scfq"), (0xA7F8, "ħœ"), (0xAB5C, "ꜧꬷɫꭒ"), (0xAB69, "ʍ"),
  (0xAB70, "ᎠᎡᎢᎣᎤᎥᎦᎧᎨᎩᎪᎫᎬᎭᎮᎯᎰᎱᎲᎳᎴᎵᎶᎷᎸᎹᎺᎻᎼᎽᎾᎿᏀᏁᏂᏃᏄᏅᏆᏇᏈᏉᏊᏋᏌᏍᏎᏏᏐᏑᏒᏓᏔᏕᏖᏗᏘᏙᏚᏛᏜᏝᏞᏟ"),
  (0xABB0, "ᏠᏡᏢᏣᏤᏥᏦᏧᏨᏩᏪᏫᏬᏭᏮᏯ"),
  (0xF900, "豈更車賈滑串句龜龜契金喇奈懶癩羅蘿螺裸邏樂洛烙珞落酪駱亂卵欄爛蘭鸞嵐濫藍襤拉臘蠟廊朗浪狼郎來冷勞擄櫓爐盧老蘆虜路露魯鷺碌祿綠菉錄"),
  (0xF940, "鹿論壟弄籠聾牢磊賂雷壘屢樓淚漏累縷陋勒肋凜凌稜綾菱陵讀拏樂諾丹寧怒率異北磻便復不泌數索參塞省葉說殺辰沈拾若掠略亮兩凉梁糧良諒量勵"),
  (0xF980, "呂女廬旅濾礪閭驪麗黎力曆歷轢年憐戀撚漣煉璉秊練聯輦蓮連鍊列劣咽烈裂說廉念捻殮簾獵令囹寧嶺怜玲瑩羚聆鈴零靈領例禮醴隸惡了僚寮尿料樂"),
  (0xF9C0, "燎療蓼遼龍暈阮劉杻柳流溜琉留硫紐類六戮陸倫崙淪輪律慄栗率隆利吏履易李梨泥理痢罹裏裡里離匿溺吝燐璘藺隣鱗麟林淋臨立笠粒狀炙識什茶刺"),
  (0xFA00, "切度拓糖宅洞暴輻行降見廓兀嗀"), (0xFA10, "塚"), (0xFA12, "晴"), (0xFA15, "凞猪益礼神祥福靖精羽"), (0xFA20, "蘒"),
  (0xFA22, "諸"), (0xFA25, "逸都"),
  (0xFA2A, "飯飼館鶴郞隷侮僧免勉勤卑喝嘆器塀墨層屮悔慨憎懲敏既暑梅海渚漢煮爫琢碑社祉祈祐祖祝禍禎穀突節練縉繁署者臭艹艹著褐視謁謹賓贈辶逸難響"), (0xFA6A, "頻恵𤋮舘"),
  (0xFA70, "並况全侀充冀勇勺喝啕喙嗢塚墳奄奔婢嬨廒廙彩徭惘慎愈憎慠懲戴揄搜摒敖晴朗望杖歹殺流滛滋漢瀞煮瞧爵犯猪瑱甆画瘝瘟益盛直睊着磌窱節类絛"),
  (0xFAB0, "練缾者荒華蝹襁覆視調諸請謁諾諭謹變贈輸遲醙鉶陼難靖韛響頋頻鬒龜𢡊𢡄𣏕㮝䀘䀹𥉉𥳐𧻓齃龎"), (0xFB20, "עאדהכלםרת+"),
  (0xFB50, "ٱٱٻٻٻٻپپپپڀڀڀڀٺٺٺٺٿٿٿٿٹٹٹٹڤڤڤڤڦڦڦڦڄڄڄڄڃڃڃڃچچچچڇڇڇڇڍڍڌڌڎڎڈڈژژڑڑکک"),
  (0xFB90, "ککگگگگڳڳڳڳڱڱڱڱںںڻڻڻڻۀۀہہہہھھھھےےۓۓ"), (0xFBD3, "ڭڭڭڭۇۇۆۆۈۈ"), (0xFBDE, "ۋۋۅۅۉۉېېېېىى"),
  (0xFBFC, "یییی"), (0xFE10, ",、"), (0xFE13, ":;!?〖〗"), (0xFE31, "—–__()\x7b\x7d〔〕【】《》〈〉「」『』"),
  (0xFE47, "[]"), (0xFE4D, "___,、"), (0xFE54, ";:?!—()\x7b\x7d〔〕#&*+-<>="), (0xFE68, "\\$%@"),
  (0xFE80, "ءآآأأؤؤإإئئئئااببببةةتتتتثثثثججججححححخخخخددذذررززسسسسششششصصصصضضض"),
  (0xFEC0, "ضططططظظظظععععغغغغففففققققككككللللممممننننههههووىىيييي"),
  (0xFF01, "!\"#$%&'()*+,-./0123456789:;<=>?@abcdefghijklmnopqrstuvwxyz[\\]^_`"),
  (0xFF41, "abcdefghijklmnopqrstuvwxyz\x7b|\x7d~⦅⦆.「」、・ヲァィゥェォャュョッーアイウエオカキクケコサシスセソタ"),
  (0xFF81, "チツテトナニヌネノハヒフヘホマミムメモヤユヨラリルレロワン゙゚"), (0xFFA1, "ᄀᄁᆪᄂᆬᆭᄃᄄᄅᆰᆱᆲᆳᆴᆵᄚᄆᄇᄈᄡᄉᄊᄋᄌᄍᄎᄏᄐᄑᄒ"),
  (0xFFC2, "ᅡᅢᅣᅤᅥᅦ"), (0xFFCA, "ᅧᅨᅩᅪᅫᅬ"), (0xFFD2, "ᅭᅮᅯᅰᅱᅲ"), (0xFFDA, "ᅳᅴᅵ"), (0xFFE0, "¢£¬"),
  (0xFFE4, "¦¥₩"), (0xFFE8, "│←↑→↓■○"), (0x10781, "ːˑæʙɓ"),
  (0x10787, "ʣꭦʥʤɖɗᶑɘɞʩɤɢɠʛħʜɧʄʪʫɬ𝼄ꞎɮ𝼅ʎ𝼆øɶɷqɺ𝼈ɽɾʀʨʦꭧʧʈⱱ"), (0x107B2, "ʏʡʢʘǀǁǂ𝼊𝼞"),
  (0x1CCD6, "abcdefghijklmnopqrstuvwxyz0123456789"),
  (0x1D400, "abcdefghijklmnopqrstuvwxyzabcdefghijklmnopqrstuvwxyzabcdefghijkl"),
  (0x1D440, "mnopqrstuvwxyzabcdefg"),
  (0x1D456, "ijklmnopqrstuvwxyzabcdefghijklmnopqrstuvwxyzabcdefghijklmnopqrst"),
  (0x1D496, "uvwxyza"), (0x1D49E, "cd"), (0x1D4A2, "g"), (0x1D4A5, "jk"), (0x1D4A9, "nopq"),
  (0x1D4AE, "stuvwxyzabcd"), (0x1D4BB, "f"), (0x1D4BD, "hijklmn"),
  (0x1D4C5, "pqrstuvwxyzabcdefghijklmnopqrstuvwxyzabcdefghijklmnopqrstuvwxyza"), (0x1D505, "b"),
  (0x1D507, "defg"), (0x1D50D, "jklmnopq"), (0x1D516, "stuvwxy"),
  (0x1D51E, "abcdefghijklmnopqrstuvwxyzab"), (0x1D53B, "defg"), (0x1D540, "ijklm"), (0x1D546, "o"),
  (0x1D54A, "stuvwxy"),
  (0x1D552, "abcdefghijklmnopqrstuvwxyzabcdefghijklmnopqrstuvwxyzabcdefghijkl"),
  (0x1D592, "mnopqrstuvwxyzabcdefghijklmnopqrstuvwxyzabcdefghijklmnopqrstuvwx"),
  (0x1D5D2, "yzabcdefghijklmnopqrstuvwxyzabcdefghijklmnopqrstuvwxyzabcdefghij"),
  (0x1D612, "klmnopqrstuvwxyzabcdefghijklmnopqrstuvwxyzabcdefghijklmnopqrstuv"),
  (0x1D652, "wxyzabcdefghijklmnopqrstuvwxyzabcdefghijklmnopqrstuvwxyzabcdefgh"),
  (0x1D692, "ijklmnopqrstuvwxyzıȷ"),
  (0x1D6A8, "αβγδεζηθικλμνξοπρθστυφχψω∇αβγδεζηθικλμνξοπρσστυφχψω∂εθκφρπαβγδεζ"),
  (0x1D6E8, "ηθικλμνξοπρθστυφχψω∇αβγδεζηθικλμνξοπρσστυφχψω∂εθκφρπαβγδεζηθικλμ"),
  (0x1D728, "νξοπρθστυφχψω∇αβγδεζηθικλμνξοπρσστυφχψω∂εθκφρπαβγδεζηθικλμνξοπρθ"),
  (0x1D768, "στυφχψω∇αβγδεζηθικλμνξοπρσστυφχψω∂εθκφρπαβγδεζηθικλμνξοπρθστυφχψ"),
  (0x1D7A8, "ω∇αβγδεζηθικλμνξοπρσστυφχψω∂εθκφρπϝϝ"),
  (0x1D7CE, "01234567890123456789012345678901234567890123456789"),
  (0x1E030, "абвгдежзиклмопрстуфхцчшыэюꚉәіјөүӏабвгдежзиклопсуфхцчшъыґіѕџҫꙑұ"), (0x1EE00, "ابجد"),
  (0x1EE05, "وزحطيكلمنسعفصقرشتثخذضظغٮںڡٯ"), (0x1EE21, "بج"), (0x1EE24, "ه"), (0x1EE27, "ح"),
  (0x1EE29, "يكلمنسعفصق"), (0x1EE34, "شتثخ"), (0x1EE39, "ض"), (0x1EE3B, "غ"), (0x1EE42, "ج"),
  (0x1EE47, "ح"), (0x1EE49, "ي"), (0x1EE4B, "ل"), (0x1EE4D, "نسع"), (0x1EE51, "صق"), (0x1EE54, "ش"),
  (0x1EE57, "خ"), (0x1EE59, "ض"), (0x1EE5B, "غ"), (0x1EE5D, "ں"), (0x1EE5F, "ٯ"), (0x1EE61, "بج"),
  (0x1EE64, "ه"), (0x1EE67, "حطيك"), (0x1EE6C, "منسعفصق"), (0x1EE74, "شتثخ"), (0x1EE79, "ضظغٮ"),
  (0x1EE7E, "ڡ"), (0x1EE80, "ابجدهوزحطي"), (0x1EE8B, "لمنسعفصقرشتثخذضظغ"), (0x1EEA1, "بجد"),
  (0x1EEA5, "وزحطي"), (0x1EEAB, "لمنسعفصقرشتثخذضظغ"), (0x1F12B, "cr"),
  (0x1F130, "abcdefghijklmnopqrstuvwxyz"), (0x1F202, "サ"),
  (0x1F210, "手字双デ二多解天交映無料前後再新初終生販声吹演投捕一三遊左中右指走打禁空合満有月申割営配"), (0x1F250, "得可"),
  (0x1FBF0, "0123456789"),
  (0x2F800, "丽丸乁𠄢你侮侻倂偺備僧像㒞𠘺免兔兤具𠔜㒹內再𠕋冗冤仌冬况𩇟凵刃㓟刻剆割剷㔕勇勉勤勺包匆北卉卑博即卽卿卿卿𠨬灰及叟𠭣叫叱吆咞吸呈周"),
  (0x2F840, "咢哶唐啓啣善善喙喫喳嗂圖嘆圗噑噴切壮城埴堍型堲報墬𡓤売壷夆多夢奢𡚨𡛪姬娛娧姘婦㛮㛼嬈嬾嬾𡧈寃寘寧寳𡬘寿将当尢㞁屠屮峀岍𡷤嵃𡷦嵮嵫"),
  (0x2F880, "嵼巡巢㠯巽帨帽幩㡢𢆃㡼庰庳庶廊𪎒廾𢌱𢌱舁弢弢㣇𣊸𦇚形彫㣣徚忍志忹悁㤺㤜悔𢛔惇慈慌慎慌慺憎憲憤憯懞懲懶成戛扝抱拔捐𢬌挽拼捨掃揤𢯱搢"),
  (0x2F8C0, "揅掩㨮摩摾撝摷㩬敏敬𣀊旣書晉㬙暑㬈㫤冒冕最暜肭䏙朗望朡杞杓𣏃㭉柺枅桒梅𣑭梎栟椔㮝楂榣槪檨𣚣櫛㰘次𣢧歔㱎歲殟殺殻𣪍𡴋𣫺汎𣲼沿泍汧洖"),
  (0x2F900, "派海流浩浸涅𣴞洴港湮㴳滋滇𣻑淹潮𣽞𣾎濆瀹瀞瀛㶖灊災灷炭𠔥煅𤉣熜𤎫爨爵牐𤘈犀犕𤜵𤠔獺王㺬玥㺸㺸瑇瑜瑱璅瓊㼛甤𤰶甾𤲒異𢆟瘐𤾡𤾸𥁄㿼䀈"),
  (0x2F940, "直𥃳𥃲𥄙𥄳眞真真睊䀹瞋䁆䂖𥐝硎碌磌䃣𥘦祖𥚚𥛅福秫䄯穀穊穏𥥼𥪧𥪧竮䈂𥮫篆築䈧𥲀糒䊠糨糣紀𥾆絣䌁緇縂繅䌴𦈨𦉇䍙𦋙罺𦌾羕翺者𦓚𦔣聠𦖨聰"),
  (0x2F980, "𣍟䏕育脃䐋脾媵𦞧𦞵𣎓𣎜舁舄辞䑫芑芋芝劳花芳芽苦𦬼若茝荣莭茣莽菧著荓菊菌菜𦰶𦵫𦳕䔫蓱蓳蔖𧏊蕤𦼬䕝䕡𦾱𧃒䕫虐虜虧虩蚩蚈蜎蛢蝹蜨蝫螆䗗"),
  (0x2F9C0, "蟡蠁䗹衠衣𧙧裗裞䘵裺㒻𧢮𧥦䚾䛇誠諭變豕𧲨貫賁贛起𧼯𠠄跋趼跰𠣞軔輸𨗒𨗭邔郱鄑𨜮鄛鈸鋗鋘鉼鏹鐕𨯺開䦕閷𨵷䧦雃嶲霣𩅅𩈚䩮䩶韠𩐊䪲𩒖頋頋"),
  (0x2FA00, "頩𩖶飢䬳餩馧駂駾䯎𩬰鬒鱀鳽䳎䳭鵧𪃎䳸𪄅𪈎𪊑麻䵖黹黾鼅鼏鼖鼻𪘀")]

/-- Runs of characters with a text in place of each: the first of the run, and the texts in order.
-/
def textReplacements : List (Nat × List String) := [
  (0xA8, [" ̈"]), (0xAF, [" ̄"]), (0xB4, [" ́"]), (0xB8, [" ̧"]), (0xBC, ["1⁄4", "1⁄2", "3⁄4"]),
  (0x132, ["ij", "ij"]), (0x13F, ["l·", "l·"]), (0x149, ["ʼn"]),
  (0x1C4, ["dž", "dž", "dž", "lj", "lj", "lj", "nj", "nj", "nj"]), (0x1F1, ["dz", "dz", "dz"]),
  (0x2D8, [" ̆", " ̇", " ̊", " ̨", " ̃", " ̋"]), (0x344, ["̈́"]), (0x37A, [" ι"]),
  (0x384, [" ́", " ̈́"]), (0x587, ["եւ"]), (0x675, ["اٴ", "وٴ", "ۇٴ", "يٴ"]),
  (0x958, ["क़", "ख़", "ग़", "ज़", "ड़", "ढ़", "फ़", "य़"]), (0x9DC, ["ড়", "ঢ়"]), (0x9DF, ["য়"]),
  (0xA33, ["ਲ਼"]), (0xA36, ["ਸ਼"]), (0xA59, ["ਖ਼", "ਗ਼", "ਜ਼"]), (0xA5E, ["ਫ਼"]),
  (0xB5C, ["ଡ଼", "ଢ଼"]), (0xE33, ["ํา"]), (0xEB3, ["ໍາ"]), (0xEDC, ["ຫນ", "ຫມ"]), (0xF43, ["གྷ"]),
  (0xF4D, ["ཌྷ"]), (0xF52, ["དྷ"]), (0xF57, ["བྷ"]), (0xF5C, ["ཛྷ"]), (0xF69, ["ཀྵ"]),
  (0xF73, ["ཱི"]), (0xF75, ["ཱུ", "ྲྀ", "ྲཱྀ", "ླྀ", "ླཱྀ"]), (0xF81, ["ཱྀ"]), (0xF93, ["ྒྷ"]),
  (0xF9D, ["ྜྷ"]), (0xFA2, ["ྡྷ"]), (0xFA7, ["ྦྷ"]), (0xFAC, ["ྫྷ"]), (0xFB9, ["ྐྵ"]),
  (0x1E9A, ["aʾ"]),
  (0x1F80, [
    "ἀι", "ἁι", "ἂι", "ἃι", "ἄι", "ἅι", "ἆι", "ἇι", "ἀι", "ἁι", "ἂι", "ἃι", "ἄι", "ἅι", "ἆι", "ἇι",
    "ἠι", "ἡι", "ἢι", "ἣι", "ἤι", "ἥι", "ἦι", "ἧι", "ἠι", "ἡι", "ἢι", "ἣι", "ἤι", "ἥι", "ἦι", "ἧι",
    "ὠι", "ὡι", "ὢι", "ὣι", "ὤι", "ὥι", "ὦι", "ὧι", "ὠι", "ὡι", "ὢι", "ὣι", "ὤι", "ὥι", "ὦι",
    "ὧι"]),
  (0x1FB2, ["ὰι", "αι", "άι"]), (0x1FB7, ["ᾶι"]), (0x1FBC, ["αι", " ̓"]),
  (0x1FBF, [" ̓", " ͂", " ̈͂", "ὴι", "ηι", "ήι"]), (0x1FC7, ["ῆι"]),
  (0x1FCC, ["ηι", " ̓̀", " ̓́", " ̓͂"]), (0x1FDD, [" ̔̀", " ̔́", " ̔͂"]), (0x1FED, [" ̈̀", " ̈́"]),
  (0x1FF2, ["ὼι", "ωι", "ώι"]), (0x1FF7, ["ῶι"]), (0x1FFC, ["ωι", " ́", " ̔"]), (0x2017, [" ̳"]),
  (0x2033, ["′′", "′′′"]), (0x2036, ["‵‵", "‵‵‵"]), (0x203C, ["!!"]), (0x203E, [" ̅"]),
  (0x2047, ["??", "?!", "!?"]), (0x2057, ["′′′′"]), (0x20A8, ["rs"]), (0x2100, ["a/c", "a/s"]),
  (0x2103, ["°c"]), (0x2105, ["c/o", "c/u"]), (0x2109, ["°f"]), (0x2116, ["no"]),
  (0x2120, ["sm", "tel", "tm"]), (0x213B, ["fax"]),
  (0x2150, [
    "1⁄7", "1⁄9", "1⁄10", "1⁄3", "2⁄3", "1⁄5", "2⁄5", "3⁄5", "4⁄5", "1⁄6", "5⁄6", "1⁄8", "3⁄8",
    "5⁄8", "7⁄8", "1⁄"]),
  (0x2161, ["ii", "iii", "iv"]), (0x2165, ["vi", "vii", "viii", "ix"]), (0x216A, ["xi", "xii"]),
  (0x2171, ["ii", "iii", "iv"]), (0x2175, ["vi", "vii", "viii", "ix"]), (0x217A, ["xi", "xii"]),
  (0x2189, ["0⁄3"]), (0x222C, ["∫∫", "∫∫∫"]), (0x222F, ["∮∮", "∮∮∮"]),
  (0x2469, [
    "10", "11", "12", "13", "14", "15", "16", "17", "18", "19", "20", "(1)", "(2)", "(3)", "(4)",
    "(5)", "(6)", "(7)", "(8)", "(9)", "(10)", "(11)", "(12)", "(13)", "(14)", "(15)", "(16)",
    "(17)", "(18)", "(19)", "(20)"]),
  (0x249C, [
    "(a)", "(b)", "(c)", "(d)", "(e)", "(f)", "(g)", "(h)", "(i)", "(j)", "(k)", "(l)", "(m)",
    "(n)", "(o)", "(p)", "(q)", "(r)", "(s)", "(t)", "(u)", "(v)", "(w)", "(x)", "(y)", "(z)"]),
  (0x2A0C, ["∫∫∫∫"]), (0x2A74, ["::=", "==", "==="]), (0x2ADC, ["⫝̸"]), (0x309B, [" ゙", " ゚"]),
  (0x309F, ["より"]), (0x30FF, ["コト"]),
  (0x3200, [
    "(ᄀ)", "(ᄂ)", "(ᄃ)", "(ᄅ)", "(ᄆ)", "(ᄇ)", "(ᄉ)", "(ᄋ)", "(ᄌ)", "(ᄎ)", "(ᄏ)", "(ᄐ)", "(ᄑ)",
    "(ᄒ)", "(가)", "(나)", "(다)", "(라)", "(마)", "(바)", "(사)", "(아)", "(자)", "(차)", "(카)", "(타)",
    "(파)", "(하)", "(주)", "(오전)", "(오후)"]),
  (0x3220, [
    "(一)", "(二)", "(三)", "(四)", "(五)", "(六)", "(七)", "(八)", "(九)", "(十)", "(月)", "(火)", "(水)",
    "(木)", "(金)", "(土)", "(日)", "(株)", "(有)", "(社)", "(名)", "(特)", "(財)", "(祝)", "(労)", "(代)",
    "(呼)", "(学)", "(監)", "(企)", "(資)", "(協)", "(祭)", "(休)", "(自)", "(至)"]),
  (0x3250, [
    "pte", "21", "22", "23", "24", "25", "26", "27", "28", "29", "30", "31", "32", "33", "34",
    "35"]),
  (0x327C, ["참고", "주의"]),
  (0x32B1, [
    "36", "37", "38", "39", "40", "41", "42", "43", "44", "45", "46", "47", "48", "49", "50", "1月",
    "2月", "3月", "4月", "5月", "6月", "7月", "8月", "9月", "10月", "11月", "12月", "hg", "erg", "ev", "ltd"]),
  (0x32FF, [
    "令和", "アパート", "アルファ", "アンペア", "アール", "イニング", "インチ", "ウォン", "エスクード", "エーカー", "オンス", "オーム", "カイリ",
    "カラット", "カロリー", "ガロン", "ガンマ", "ギガ", "ギニー", "キュリー", "ギルダー", "キロ", "キログラム", "キロメートル", "キロワット",
    "グラム", "グラムトン", "クルゼイロ", "クローネ", "ケース", "コルナ", "コーポ", "サイクル", "サンチーム", "シリング", "センチ", "セント",
    "ダース", "デシ", "ドル", "トン", "ナノ", "ノット", "ハイツ", "パーセント", "パーツ", "バーレル", "ピアストル", "ピクル", "ピコ", "ビル",
    "ファラッド", "フィート", "ブッシェル", "フラン", "ヘクタール", "ペソ", "ペニヒ", "ヘルツ", "ペンス", "ページ", "ベータ", "ポイント",
    "ボルト", "ホン", "ポンド", "ホール", "ホーン", "マイクロ", "マイル", "マッハ", "マルク", "マンション", "ミクロン", "ミリ", "ミリバール",
    "メガ", "メガトン", "メートル", "ヤード", "ヤール", "ユアン", "リットル", "リラ", "ルピー", "ルーブル", "レム", "レントゲン", "ワット",
    "0点", "1点", "2点", "3点", "4点", "5点", "6点", "7点", "8点", "9点", "10点", "11点", "12点", "13点", "14点",
    "15点", "16点", "17点", "18点", "19点", "20点", "21点", "22点", "23点", "24点", "hpa", "da", "au", "bar",
    "ov", "pc", "dm", "dm2", "dm3", "iu", "平成", "昭和", "大正", "明治", "株式会社", "pa", "na", "μa", "ma",
    "ka", "kb", "mb", "gb", "cal", "kcal", "pf", "nf", "μf", "μg", "mg", "kg", "hz", "khz", "mhz",
    "ghz", "thz", "μl", "ml", "dl", "kl", "fm", "nm", "μm", "mm", "cm", "km", "mm2", "cm2", "m2",
    "km2", "mm3", "cm3", "m3", "km3", "m∕s", "m∕s2", "pa", "kpa", "mpa", "gpa", "rad", "rad∕s",
    "rad∕s2", "ps", "ns", "μs", "ms", "pv", "nv", "μv", "mv", "kv", "mv", "pw", "nw", "μw", "mw",
    "kw", "mw", "kω", "mω"]),
  (0x33C3, ["bq", "cc", "cd", "c∕kg"]),
  (0x33C8, [
    "db", "gy", "ha", "hp", "in", "kk", "km", "kt", "lm", "ln", "log", "lx", "mb", "mil", "mol",
    "ph"]),
  (0x33D9, [
    "ppm", "pr", "sr", "sv", "wb", "v∕m", "a∕m", "1日", "2日", "3日", "4日", "5日", "6日", "7日", "8日",
    "9日", "10日", "11日", "12日", "13日", "14日", "15日", "16日", "17日", "18日", "19日", "20日", "21日", "22日",
    "23日", "24日", "25日", "26日", "27日", "28日", "29日", "30日", "31日", "gal"]),
  (0xFB00, ["ff", "fi", "fl", "ffi", "ffl", "st", "st"]), (0xFB13, ["մն", "մե", "մի", "վն", "մխ"]),
  (0xFB1D, ["יִ"]), (0xFB1F, ["ײַ"]),
  (0xFB2A, ["שׁ", "שׂ", "שּׁ", "שּׂ", "אַ", "אָ", "אּ", "בּ", "גּ", "דּ", "הּ", "וּ", "זּ"]),
  (0xFB38, ["טּ", "יּ", "ךּ", "כּ", "לּ"]), (0xFB3E, ["מּ"]), (0xFB40, ["נּ", "סּ"]),
  (0xFB43, ["ףּ", "פּ"]), (0xFB46, ["צּ", "קּ", "רּ", "שּ", "תּ", "וֹ", "בֿ", "כֿ", "פֿ", "אל"]),
  (0xFBDD, ["ۇٴ"]),
  (0xFBEA, [
    "ئا", "ئا", "ئە", "ئە", "ئو", "ئو", "ئۇ", "ئۇ", "ئۆ", "ئۆ", "ئۈ", "ئۈ", "ئې", "ئې", "ئې", "ئى",
    "ئى", "ئى"]),
  (0xFC00, [
    "ئج", "ئح", "ئم", "ئى", "ئي", "بج", "بح", "بخ", "بم", "بى", "بي", "تج", "تح", "تخ", "تم", "تى",
    "تي", "ثج", "ثم", "ثى", "ثي", "جح", "جم", "حج", "حم", "خج", "خح", "خم", "سج", "سح", "سخ", "سم",
    "صح", "صم", "ضج", "ضح", "ضخ", "ضم", "طح", "طم", "ظم", "عج", "عم", "غج", "غم", "فج", "فح", "فخ",
    "فم", "فى", "في", "قح", "قم", "قى", "قي", "كا", "كج", "كح", "كخ", "كل", "كم", "كى", "كي", "لج",
    "لح", "لخ", "لم", "لى", "لي", "مج", "مح", "مخ", "مم", "مى", "مي", "نج", "نح", "نخ", "نم", "نى",
    "ني", "هج", "هم", "هى", "هي", "يج", "يح", "يخ", "يم", "يى", "يي", "ذٰ", "رٰ", "ىٰ", " ٌّ",
    " ٍّ", " َّ", " ُّ", " ِّ", " ّٰ", "ئر", "ئز", "ئم", "ئن", "ئى", "ئي", "بر", "بز", "بم", "بن",
    "بى", "بي", "تر", "تز", "تم", "تن", "تى", "تي", "ثر", "ثز", "ثم", "ثن", "ثى", "ثي", "فى", "في",
    "قى", "قي", "كا", "كل", "كم", "كى", "كي", "لم", "لى", "لي", "ما", "مم", "نر", "نز", "نم", "نن",
    "نى", "ني", "ىٰ", "ير", "يز", "يم", "ين", "يى", "يي", "ئج", "ئح", "ئخ", "ئم", "ئه", "بج", "بح",
    "بخ", "بم", "به", "تج", "تح", "تخ", "تم", "ته", "ثم", "جح", "جم", "حج", "حم", "خج", "خم", "سج",
    "سح", "سخ", "سم", "صح", "صخ", "صم", "ضج", "ضح", "ضخ", "ضم", "طح", "ظم", "عج", "عم", "غج", "غم",
    "فج", "فح", "فخ", "فم", "قح", "قم", "كج", "كح", "كخ", "كل", "كم", "لج", "لح", "لخ", "لم", "له",
    "مج", "مح", "مخ", "مم", "نج", "نح", "نخ", "نم", "نه", "هج", "هم", "هٰ", "يج", "يح", "يخ", "يم",
    "يه", "ئم", "ئه", "بم", "به", "تم", "ته", "ثم", "ثه", "سم", "سه", "شم", "شه", "كل", "كم", "لم",
    "نم", "نه", "يم", "يه", "ـَّ", "ـُّ", "ـِّ", "طى", "طي", "عى", "عي", "غى", "غي", "سى", "سي",
    "شى", "شي", "حى", "حي", "جى", "جي", "خى", "خي", "صى", "صي", "ضى", "ضي", "شج", "شح", "شخ", "شم",
    "شر", "سر", "صر", "ضر", "طى", "طي", "عى", "عي", "غى", "غي", "سى", "سي", "شى", "شي", "حى", "حي",
    "جى", "جي", "خى", "خي", "صى", "صي", "ضى", "ضي", "شج", "شح", "شخ", "شم", "شر", "سر", "صر", "ضر",
    "شج", "شح", "شخ", "شم", "سه", "شه", "طم", "سج", "سح", "سخ", "شج", "شح", "شخ", "طم", "ظم", "اً",
    "اً"]),
  (0xFD50, [
    "تجم", "تحج", "تحج", "تحم", "تخم", "تمج", "تمح", "تمخ", "جمح", "جمح", "حمي", "حمى", "سحج",
    "سجح", "سجى", "سمح", "سمح", "سمج", "سمم", "سمم", "صحح", "صحح", "صمم", "شحم", "شحم", "شجي",
    "شمخ", "شمخ", "شمم", "شمم", "ضحى", "ضخم", "ضخم", "طمح", "طمح", "طمم", "طمي", "عجم", "عمم",
    "عمم", "عمى", "غمم", "غمي", "غمى", "فخم", "فخم", "قمح", "قمم", "لحم", "لحي", "لحى", "لجج",
    "لجج", "لخم", "لخم", "لمح", "لمح", "محج", "محم", "محي", "مجح", "مجم", "مخج", "مخم"]),
  (0xFD92, [
    "مجخ", "همج", "همم", "نحم", "نحى", "نجم", "نجم", "نجى", "نمي", "نمى", "يمم", "يمم", "بخي",
    "تجي", "تجى", "تخي", "تخى", "تمي", "تمى", "جمي", "جحى", "جمى", "سخى", "صحي", "شحي", "ضحي",
    "لجي", "لمي", "يحي", "يجي", "يمي", "ممي", "قمي", "نحي", "قمح", "لحم", "عمي", "كمي", "نجح",
    "مخي", "لجم", "كمم", "لجم", "نجح", "جحي", "حجي", "مجي", "فمي", "بحي", "كمم", "عجم", "صمم",
    "سخي", "نجي"]),
  (0xFDF0, [
    "صلے", "قلے", "الله", "اكبر", "محمد", "صلعم", "رسول", "عليه", "وسلم", "صلى",
    "صلى الله عليه وسلم", "جل جلاله", "ریال"]),
  (0xFE49, [" ̅", " ̅", " ̅", " ̅"]), (0xFE70, [" ً", "ـً", " ٌ"]), (0xFE74, [" ٍ"]),
  (0xFE76, [" َ", "ـَ", " ُ", "ـُ", " ِ", "ـِ", " ّ", "ـّ", " ْ", "ـْ"]),
  (0xFEF5, ["لآ", "لآ", "لأ", "لأ", "لإ", "لإ", "لا", "لا"]), (0xFFE3, [" ̄"]),
  (0x1D15E, ["𝅗𝅥", "𝅘𝅥", "𝅘𝅥𝅮", "𝅘𝅥𝅯", "𝅘𝅥𝅰", "𝅘𝅥𝅱", "𝅘𝅥𝅲"]),
  (0x1D1BB, ["𝆹𝅥", "𝆺𝅥", "𝆹𝅥𝅮", "𝆺𝅥𝅮", "𝆹𝅥𝅯", "𝆺𝅥𝅯"]),
  (0x1F101, ["0,", "1,", "2,", "3,", "4,", "5,", "6,", "7,", "8,", "9,"]),
  (0x1F110, [
    "(a)", "(b)", "(c)", "(d)", "(e)", "(f)", "(g)", "(h)", "(i)", "(j)", "(k)", "(l)", "(m)",
    "(n)", "(o)", "(p)", "(q)", "(r)", "(s)", "(t)", "(u)", "(v)", "(w)", "(x)", "(y)", "(z)",
    "〔s〕"]),
  (0x1F12D, ["cd", "wz"]), (0x1F14A, ["hv", "mv", "sd", "ss", "ppv", "wc"]),
  (0x1F16A, ["mc", "md", "mr"]), (0x1F190, ["dj"]), (0x1F200, ["ほか", "ココ"]),
  (0x1F240, ["〔本〕", "〔三〕", "〔二〕", "〔安〕", "〔点〕", "〔打〕", "〔盗〕", "〔勝〕", "〔敗〕"])]

end HostName

end StoreGate
