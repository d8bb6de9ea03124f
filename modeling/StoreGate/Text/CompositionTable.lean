/-!
# Composed characters, as a table

The letters with a mark that Unicode also has as one character and that normal form C writes so,
Hangul apart.
-/

namespace StoreGate

namespace Text

/-- A second character, the first characters that it composes with, and what comes of each. -/
structure CompositionRow where
  second : Nat
  firsts : String
  composites : String

/-- The compositions, by their second character. -/
def compositionRows : List CompositionRow := [
  ⟨0x300, "AEINOUWYaeinouwy¨ÂÊÔÜâêôüĂăĒēŌōƠơƯưΑ",
    "ÀÈÌǸÒÙẀỲàèìǹòùẁỳ῭ẦỀỒǛầềồǜẰằḔḕṐṑỜờỪừᾺ"⟩,
  ⟨0x300, "ΕΗΙΟΥΩαεηιουωϊϋЕИеиἀἁἈἉἐἑἘἙἠἡἨἩἰἱἸἹὀ",
    "ῈῊῚῸῪῺὰὲὴὶὸὺὼῒῢЀЍѐѝἂἃἊἋἒἓἚἛἢἣἪἫἲἳἺἻὂ"⟩,
  ⟨0x300, "ὁὈὉὐὑὙὠὡὨὩ᾿῾",
    "ὃὊὋὒὓὛὢὣὪὫ῍῝"⟩,
  ⟨0x301, "ACEGIKLMNOPRSUWYZacegiklmnoprsuwyz¨Â",
    "ÁĆÉǴÍḰĹḾŃÓṔŔŚÚẂÝŹáćéǵíḱĺḿńóṕŕśúẃýź΅Ấ"⟩,
  ⟨0x301, "ÅÆÇÊÏÔÕØÜâåæçêïôõøüĂăĒēŌōŨũƠơƯưΑΕΗΙΟ",
    "ǺǼḈẾḮỐṌǾǗấǻǽḉếḯốṍǿǘẮắḖḗṒṓṸṹỚớỨứΆΈΉΊΌ"⟩,
  ⟨0x301, "ΥΩαεηιουωϊϋϒГКгкἀἁἈἉἐἑἘἙἠἡἨἩἰἱἸἹὀὁὈὉ",
    "ΎΏάέήίόύώΐΰϓЃЌѓќἄἅἌἍἔἕἜἝἤἥἬἭἴἵἼἽὄὅὌὍ"⟩,
  ⟨0x301, "ὐὑὙὠὡὨὩ᾿῾",
    "ὔὕὝὤὥὬὭ῎῞"⟩,
  ⟨0x302, "ACEGHIJOSUWYZaceghijosuwyzẠạẸẹỌọ",
    "ÂĈÊĜĤÎĴÔŜÛŴŶẐâĉêĝĥîĵôŝûŵŷẑẬậỆệỘộ"⟩,
  ⟨0x303, "AEINOUVYaeinouvyÂÊÔâêôĂăƠơƯư",
    "ÃẼĨÑÕŨṼỸãẽĩñõũṽỹẪỄỖẫễỗẴẵỠỡỮữ"⟩,
  ⟨0x304, "AEGIOUYaegiouyÄÆÕÖÜäæõöüǪǫȦȧȮȯΑΙΥαιυ",
    "ĀĒḠĪŌŪȲāēḡīōūȳǞǢȬȪǕǟǣȭȫǖǬǭǠǡȰȱᾹῙῩᾱῑῡ"⟩,
  ⟨0x304, "ИУиуḶḷṚṛ",
    "ӢӮӣӯḸḹṜṝ"⟩,
  ⟨0x306, "AEGIOUaegiouȨȩΑΙΥαιυАЕЖИУаежиуẠạ",
    "ĂĔĞĬŎŬăĕğĭŏŭḜḝᾸῘῨᾰῐῠӐӖӁЙЎӑӗӂйўẶặ"⟩,
  ⟨0x307, "ABCDEFGHIMNOPRSTWXYZabcdefghmnoprstw",
    "ȦḂĊḊĖḞĠḢİṀṄȮṖṘṠṪẆẊẎŻȧḃċḋėḟġḣṁṅȯṗṙṡṫẇ"⟩,
  ⟨0x307, "xyzŚśŠšſṢṣ𐗒𐗚",
    "ẋẏżṤṥṦṧẛṨṩ𐗉𐗤"⟩,
  ⟨0x308, "AEHIOUWXYaehiotuwxyÕõŪūΙΥιυϒІАЕЖЗИОУ",
    "ÄËḦÏÖÜẄẌŸäëḧïöẗüẅẍÿṎṏṺṻΪΫϊϋϔЇӒЁӜӞӤӦӰ"⟩,
  ⟨0x308, "ЧЫЭаежзиоучыэіӘәӨө",
    "ӴӸӬӓёӝӟӥӧӱӵӹӭїӚӛӪӫ"⟩,
  ⟨0x309, "AEIOUYaeiouyÂÊÔâêôĂăƠơƯư",
    "ẢẺỈỎỦỶảẻỉỏủỷẨỂỔẩểổẲẳỞởỬử"⟩,
  ⟨0x30A, "AUauwy",
    "ÅŮåůẘẙ"⟩,
  ⟨0x30B, "OUouУу",
    "ŐŰőűӲӳ"⟩,
  ⟨0x30C, "ACDEGHIKLNORSTUZacdeghijklnorstuzÜüƷ",
    "ǍČĎĚǦȞǏǨĽŇǑŘŠŤǓŽǎčďěǧȟǐǰǩľňǒřšťǔžǙǚǮ"⟩,
  ⟨0x30C, "ʒ",
    "ǯ"⟩,
  ⟨0x30F, "AEIORUaeioruѴѵ",
    "ȀȄȈȌȐȔȁȅȉȍȑȕѶѷ"⟩,
  ⟨0x311, "AEIORUaeioru",
    "ȂȆȊȎȒȖȃȇȋȏȓȗ"⟩,
  ⟨0x313, "ΑΕΗΙΟΩαεηιορυω",
    "ἈἘἨἸὈὨἀἐἠἰὀῤὐὠ"⟩,
  ⟨0x314, "ΑΕΗΙΟΡΥΩαεηιορυω",
    "ἉἙἩἹὉῬὙὩἁἑἡἱὁῥὑὡ"⟩,
  ⟨0x31B, "OUou",
    "ƠƯơư"⟩,
  ⟨0x323, "ABDEHIKLMNORSTUVWYZabdehiklmnorstuvw",
    "ẠḄḌẸḤỊḲḶṂṆỌṚṢṬỤṾẈỴẒạḅḍẹḥịḳḷṃṇọṛṣṭụṿẉ"⟩,
  ⟨0x323, "yzƠơƯư",
    "ỵẓỢợỰự"⟩,
  ⟨0x324, "Uu",
    "Ṳṳ"⟩,
  ⟨0x325, "Aa",
    "Ḁḁ"⟩,
  ⟨0x326, "STst",
    "ȘȚșț"⟩,
  ⟨0x327, "CDEGHKLNRSTcdeghklnrst",
    "ÇḐȨĢḨĶĻŅŖŞŢçḑȩģḩķļņŗşţ"⟩,
  ⟨0x328, "AEIOUaeiou",
    "ĄĘĮǪŲąęįǫų"⟩,
  ⟨0x32D, "DELNTUdelntu",
    "ḒḘḼṊṰṶḓḙḽṋṱṷ"⟩,
  ⟨0x32E, "Hh",
    "Ḫḫ"⟩,
  ⟨0x330, "EIUeiu",
    "ḚḬṴḛḭṵ"⟩,
  ⟨0x331, "BDKLNRTZbdhklnrtz",
    "ḆḎḴḺṈṞṮẔḇḏẖḵḻṉṟṯẕ"⟩,
  ⟨0x338, "<=>←→↔⇐⇒⇔∃∈∋∣∥∼≃≅≈≍≡≤≥≲≳≶≷≺≻≼≽⊂⊃⊆⊇⊑⊒",
    "≮≠≯↚↛↮⇍⇏⇎∄∉∌∤∦≁≄≇≉≭≢≰≱≴≵≸≹⊀⊁⋠⋡⊄⊅⊈⊉⋢⋣"⟩,
  ⟨0x338, "⊢⊨⊩⊫⊲⊳⊴⊵",
    "⊬⊭⊮⊯⋪⋫⋬⋭"⟩,
  ⟨0x342, "¨αηιυωϊϋἀἁἈἉἠἡἨἩἰἱἸἹὐὑὙὠὡὨὩ᾿῾",
    "῁ᾶῆῖῦῶῗῧἆἇἎἏἦἧἮἯἶἷἾἿὖὗὟὦὧὮὯ῏῟"⟩,
  ⟨0x345, "ΑΗΩάήαηωώἀἁἂἃἄἅἆἇἈἉἊἋἌἍἎἏἠἡἢἣἤἥἦἧἨἩἪ",
    "ᾼῌῼᾴῄᾳῃῳῴᾀᾁᾂᾃᾄᾅᾆᾇᾈᾉᾊᾋᾌᾍᾎᾏᾐᾑᾒᾓᾔᾕᾖᾗᾘᾙᾚ"⟩,
  ⟨0x345, "ἫἬἭἮἯὠὡὢὣὤὥὦὧὨὩὪὫὬὭὮὯὰὴὼᾶῆῶ",
    "ᾛᾜᾝᾞᾟᾠᾡᾢᾣᾤᾥᾦᾧᾨᾩᾪᾫᾬᾭᾮᾯᾲῂῲᾷῇῷ"⟩,
  ⟨0x653, "ا",
    "آ"⟩,
  ⟨0x654, "اويہےە",
    "أؤئۂۓۀ"⟩,
  ⟨0x655, "ا",
    "إ"⟩,
  ⟨0x93C, "नरळ",
    "ऩऱऴ"⟩,
  ⟨0x9BE, "ে",
    "ো"⟩,
  ⟨0x9D7, "ে",
    "ৌ"⟩,
  ⟨0xB3E, "େ",
    "ୋ"⟩,
  ⟨0xB56, "େ",
    "ୈ"⟩,
  ⟨0xB57, "େ",
    "ୌ"⟩,
  ⟨0xBBE, "ெே",
    "ொோ"⟩,
  ⟨0xBD7, "ஒெ",
    "ஔௌ"⟩,
  ⟨0xC56, "ె",
    "ై"⟩,
  ⟨0xCC2, "ೆ",
    "ೊ"⟩,
  ⟨0xCD5, "ಿೆೊ",
    "ೀೇೋ"⟩,
  ⟨0xCD6, "ೆ",
    "ೈ"⟩,
  ⟨0xD3E, "െേ",
    "ൊോ"⟩,
  ⟨0xD57, "െ",
    "ൌ"⟩,
  ⟨0xDCA, "ෙො",
    "ේෝ"⟩,
  ⟨0xDCF, "ෙ",
    "ො"⟩,
  ⟨0xDDF, "ෙ",
    "ෞ"⟩,
  ⟨0x102E, "ဥ",
    "ဦ"⟩,
  ⟨0x1B35, "ᬅᬇᬉᬋᬍᬑᬺᬼᬾᬿᭂ",
    "ᬆᬈᬊᬌᬎᬒᬻᬽᭀᭁᭃ"⟩,
  ⟨0x3099, "うかきくけこさしすせそたちつてとはひふへほゝウカキクケコサシスセソタチツ",
    "ゔがぎぐげござじずぜぞだぢづでどばびぶべぼゞヴガギグゲゴザジズゼゾダヂヅ"⟩,
  ⟨0x3099, "テトハヒフヘホワヰヱヲヽ",
    "デドバビブベボヷヸヹヺヾ"⟩,
  ⟨0x309A, "はひふへほハヒフヘホ",
    "ぱぴぷぺぽパピプペポ"⟩,
  ⟨0x110BA, "𑂙𑂛𑂥",
    "𑂚𑂜𑂫"⟩,
  ⟨0x11127, "𑄱𑄲",
    "𑄮𑄯"⟩,
  ⟨0x1133E, "𑍇",
    "𑍋"⟩,
  ⟨0x11357, "𑍇",
    "𑍌"⟩,
  ⟨0x113B8, "𑏂",
    "𑏇"⟩,
  ⟨0x113BB, "𑎄",
    "𑎅"⟩,
  ⟨0x113C2, "𑎎",
    "𑎎𑏅"⟩,
  ⟨0x113C9, "𑎂𑎐𑏂",
    "𑎃𑎑𑏈"⟩,
  ⟨0x114B0, "𑒹",
    "𑒼"⟩,
  ⟨0x114BA, "𑒹",
    "𑒻"⟩,
  ⟨0x114BD, "𑒹",
    "𑒾"⟩,
  ⟨0x115AF, "𑖸𑖹",
    "𑖺𑖻"⟩,
  ⟨0x11930, "𑤵",
    "𑤸"⟩,
  ⟨0x1611E, "𖄞",
    "𖄡"⟩,
  ⟨0x1611F, "𖄡𖄡𖄩𖄩",
    "𖄣𖄦𖄧𖄤"⟩,
  ⟨0x16120, "𖄡𖄞",
    "𖄥𖄨"⟩,
  ⟨0x16129, "𖄞",
    "𖄢"⟩,
  ⟨0x16D67, "𖵩𖵩",
    "𖵪𖵧𖵪"⟩]

end Text

end StoreGate
