/-! # Composed characters

A composed character stands for two characters, a first and a mark behind it. The syllables of
Hangul are composed by arithmetic, all others are listed by their second character.
-/

namespace RecordSql.Text.Normal

/-- The characters that compose with `second`, and what they become, in the same order. -/
structure Composite where
  second : Nat
  firsts : String
  composed : String

def composites : List Composite :=
  [⟨0x300, "AEINOUWYaeinouwy¨ÂÊÔÜâêôüĂăĒēŌōƠơƯưΑΕΗ", "ÀÈÌǸÒÙẀỲàèìǹòùẁỳ῭ẦỀỒǛầềồǜẰằḔḕṐṑỜờỪừᾺῈῊ"⟩,
   ⟨0x300, "ΙΟΥΩαεηιουωϊϋЕИеиἀἁἈἉἐἑἘἙἠἡἨἩἰἱἸἹὀὁὈὉὐ", "ῚῸῪῺὰὲὴὶὸὺὼῒῢЀЍѐѝἂἃἊἋἒἓἚἛἢἣἪἫἲἳἺἻὂὃὊὋὒ"⟩,
   ⟨0x300, "ὑὙὠὡὨὩ᾿῾", "ὓὛὢὣὪὫ῍῝"⟩,
   ⟨0x301, "ACEGIKLMNOPRSUWYZacegiklmnoprsuwyz¨ÂÅÆ", "ÁĆÉǴÍḰĹḾŃÓṔŔŚÚẂÝŹáćéǵíḱĺḿńóṕŕśúẃýź΅ẤǺǼ"⟩,
   ⟨0x301, "ÇÊÏÔÕØÜâåæçêïôõøüĂăĒēŌōŨũƠơƯưΑΕΗΙΟΥΩαε", "ḈẾḮỐṌǾǗấǻǽḉếḯốṍǿǘẮắḖḗṒṓṸṹỚớỨứΆΈΉΊΌΎΏάέ"⟩,
   ⟨0x301, "ηιουωϊϋϒГКгкἀἁἈἉἐἑἘἙἠἡἨἩἰἱἸἹὀὁὈὉὐὑὙὠὡὨ", "ήίόύώΐΰϓЃЌѓќἄἅἌἍἔἕἜἝἤἥἬἭἴἵἼἽὄὅὌὍὔὕὝὤὥὬ"⟩,
   ⟨0x301, "Ὡ᾿῾", "Ὥ῎῞"⟩,
   ⟨0x302, "ACEGHIJOSUWYZaceghijosuwyzẠạẸẹỌọ", "ÂĈÊĜĤÎĴÔŜÛŴŶẐâĉêĝĥîĵôŝûŵŷẑẬậỆệỘộ"⟩,
   ⟨0x303, "AEINOUVYaeinouvyÂÊÔâêôĂăƠơƯư", "ÃẼĨÑÕŨṼỸãẽĩñõũṽỹẪỄỖẫễỗẴẵỠỡỮữ"⟩,
   ⟨0x304, "AEGIOUYaegiouyÄÆÕÖÜäæõöüǪǫȦȧȮȯΑΙΥαιυИУ", "ĀĒḠĪŌŪȲāēḡīōūȳǞǢȬȪǕǟǣȭȫǖǬǭǠǡȰȱᾹῙῩᾱῑῡӢӮ"⟩,
   ⟨0x304, "иуḶḷṚṛ", "ӣӯḸḹṜṝ"⟩,
   ⟨0x306, "AEGIOUaegiouȨȩΑΙΥαιυАЕЖИУаежиуẠạ", "ĂĔĞĬŎŬăĕğĭŏŭḜḝᾸῘῨᾰῐῠӐӖӁЙЎӑӗӂйўẶặ"⟩,
   ⟨0x307, "ABCDEFGHIMNOPRSTWXYZabcdefghmnoprstwxy", "ȦḂĊḊĖḞĠḢİṀṄȮṖṘṠṪẆẊẎŻȧḃċḋėḟġḣṁṅȯṗṙṡṫẇẋẏ"⟩,
   ⟨0x307, "zŚśŠšſṢṣ𐗒𐗚", "żṤṥṦṧẛṨṩ𐗉𐗤"⟩,
   ⟨0x308, "AEHIOUWXYaehiotuwxyÕõŪūΙΥιυϒІАЕЖЗИОУЧЫ", "ÄËḦÏÖÜẄẌŸäëḧïöẗüẅẍÿṎṏṺṻΪΫϊϋϔЇӒЁӜӞӤӦӰӴӸ"⟩,
   ⟨0x308, "ЭаежзиоучыэіӘәӨө", "ӬӓёӝӟӥӧӱӵӹӭїӚӛӪӫ"⟩,
   ⟨0x309, "AEIOUYaeiouyÂÊÔâêôĂăƠơƯư", "ẢẺỈỎỦỶảẻỉỏủỷẨỂỔẩểổẲẳỞởỬử"⟩, ⟨0x30A, "AUauwy", "ÅŮåůẘẙ"⟩,
   ⟨0x30B, "OUouУу", "ŐŰőűӲӳ"⟩,
   ⟨0x30C, "ACDEGHIKLNORSTUZacdeghijklnorstuzÜüƷʒ", "ǍČĎĚǦȞǏǨĽŇǑŘŠŤǓŽǎčďěǧȟǐǰǩľňǒřšťǔžǙǚǮǯ"⟩,
   ⟨0x30F, "AEIORUaeioruѴѵ", "ȀȄȈȌȐȔȁȅȉȍȑȕѶѷ"⟩, ⟨0x311, "AEIORUaeioru", "ȂȆȊȎȒȖȃȇȋȏȓȗ"⟩,
   ⟨0x313, "ΑΕΗΙΟΩαεηιορυω", "ἈἘἨἸὈὨἀἐἠἰὀῤὐὠ"⟩, ⟨0x314, "ΑΕΗΙΟΡΥΩαεηιορυω", "ἉἙἩἹὉῬὙὩἁἑἡἱὁῥὑὡ"⟩,
   ⟨0x31B, "OUou", "ƠƯơư"⟩,
   ⟨0x323, "ABDEHIKLMNORSTUVWYZabdehiklmnorstuvwyz", "ẠḄḌẸḤỊḲḶṂṆỌṚṢṬỤṾẈỴẒạḅḍẹḥịḳḷṃṇọṛṣṭụṿẉỵẓ"⟩,
   ⟨0x323, "ƠơƯư", "ỢợỰự"⟩, ⟨0x324, "Uu", "Ṳṳ"⟩, ⟨0x325, "Aa", "Ḁḁ"⟩, ⟨0x326, "STst", "ȘȚșț"⟩,
   ⟨0x327, "CDEGHKLNRSTcdeghklnrst", "ÇḐȨĢḨĶĻŅŖŞŢçḑȩģḩķļņŗşţ"⟩,
   ⟨0x328, "AEIOUaeiou", "ĄĘĮǪŲąęįǫų"⟩, ⟨0x32D, "DELNTUdelntu", "ḒḘḼṊṰṶḓḙḽṋṱṷ"⟩,
   ⟨0x32E, "Hh", "Ḫḫ"⟩, ⟨0x330, "EIUeiu", "ḚḬṴḛḭṵ"⟩,
   ⟨0x331, "BDKLNRTZbdhklnrtz", "ḆḎḴḺṈṞṮẔḇḏẖḵḻṉṟṯẕ"⟩,
   ⟨0x338, "<=>←→↔⇐⇒⇔∃∈∋∣∥∼≃≅≈≍≡≤≥≲≳≶≷≺≻≼≽⊂⊃⊆⊇⊑⊒⊢⊨", "≮≠≯↚↛↮⇍⇏⇎∄∉∌∤∦≁≄≇≉≭≢≰≱≴≵≸≹⊀⊁⋠⋡⊄⊅⊈⊉⋢⋣⊬⊭"⟩,
   ⟨0x338, "⊩⊫⊲⊳⊴⊵", "⊮⊯⋪⋫⋬⋭"⟩,
   ⟨0x342, "¨αηιυωϊϋἀἁἈἉἠἡἨἩἰἱἸἹὐὑὙὠὡὨὩ᾿῾", "῁ᾶῆῖῦῶῗῧἆἇἎἏἦἧἮἯἶἷἾἿὖὗὟὦὧὮὯ῏῟"⟩,
   ⟨0x345, "ΑΗΩάήαηωώἀἁἂἃἄἅἆἇἈἉἊἋἌἍἎἏἠἡἢἣἤἥἦἧἨἩἪἫἬ", "ᾼῌῼᾴῄᾳῃῳῴᾀᾁᾂᾃᾄᾅᾆᾇᾈᾉᾊᾋᾌᾍᾎᾏᾐᾑᾒᾓᾔᾕᾖᾗᾘᾙᾚᾛᾜ"⟩,
   ⟨0x345, "ἭἮἯὠὡὢὣὤὥὦὧὨὩὪὫὬὭὮὯὰὴὼᾶῆῶ", "ᾝᾞᾟᾠᾡᾢᾣᾤᾥᾦᾧᾨᾩᾪᾫᾬᾭᾮᾯᾲῂῲᾷῇῷ"⟩, ⟨0x653, "\u0627", "\u0622"⟩,
   ⟨0x654, "\u0627\u0648\u064a\u06c1\u06d2\u06d5", "\u0623\u0624\u0626\u06c2\u06d3\u06c0"⟩,
   ⟨0x655, "\u0627", "\u0625"⟩, ⟨0x93C, "नरळ", "ऩऱऴ"⟩, ⟨0x9BE, "\u09c7", "\u09cb"⟩,
   ⟨0x9D7, "\u09c7", "\u09cc"⟩, ⟨0xB3E, "\u0b47", "\u0b4b"⟩, ⟨0xB56, "\u0b47", "\u0b48"⟩,
   ⟨0xB57, "\u0b47", "\u0b4c"⟩, ⟨0xBBE, "\u0bc6\u0bc7", "\u0bca\u0bcb"⟩,
   ⟨0xBD7, "ஒ\u0bc6", "ஔ\u0bcc"⟩, ⟨0xC56, "\u0c46", "\u0c48"⟩, ⟨0xCC2, "\u0cc6", "\u0cca"⟩,
   ⟨0xCD5, "\u0cbf\u0cc6\u0cca", "\u0cc0\u0cc7\u0ccb"⟩, ⟨0xCD6, "\u0cc6", "\u0cc8"⟩,
   ⟨0xD3E, "\u0d46\u0d47", "\u0d4a\u0d4b"⟩, ⟨0xD57, "\u0d46", "\u0d4c"⟩,
   ⟨0xDCA, "\u0dd9\u0ddc", "\u0dda\u0ddd"⟩, ⟨0xDCF, "\u0dd9", "\u0ddc"⟩,
   ⟨0xDDF, "\u0dd9", "\u0dde"⟩, ⟨0x102E, "ဥ", "ဦ"⟩,
   ⟨0x1B35, "ᬅᬇᬉᬋᬍᬑ\u1b3a\u1b3c\u1b3e\u1b3f\u1b42", "ᬆᬈᬊᬌᬎᬒ\u1b3b\u1b3d\u1b40\u1b41\u1b43"⟩,
   ⟨0x3099, "うかきくけこさしすせそたちつてとはひふへほゝウカキクケコサシスセソタチツテト", "ゔがぎぐげござじずぜぞだぢづでどばびぶべぼゞヴガギグゲゴザジズゼゾダヂヅデド"⟩,
   ⟨0x3099, "ハヒフヘホワヰヱヲヽ", "バビブベボヷヸヹヺヾ"⟩, ⟨0x309A, "はひふへほハヒフヘホ", "ぱぴぷぺぽパピプペポ"⟩,
   ⟨0x110BA, "𑂙𑂛𑂥", "𑂚𑂜𑂫"⟩, ⟨0x11127, "𑄱𑄲", "𑄮𑄯"⟩, ⟨0x1133E, "𑍇", "𑍋"⟩, ⟨0x11357, "𑍇", "𑍌"⟩,
   ⟨0x113B8, "𑏂", "𑏇"⟩, ⟨0x113BB, "𑎄", "𑎅"⟩, ⟨0x113C2, "𑎎", "𑎎𑏅"⟩, ⟨0x113C9, "𑎂𑎐𑏂", "𑎃𑎑𑏈"⟩,
   ⟨0x114B0, "𑒹", "𑒼"⟩, ⟨0x114BA, "𑒹", "𑒻"⟩, ⟨0x114BD, "𑒹", "𑒾"⟩, ⟨0x115AF, "𑖸𑖹", "𑖺𑖻"⟩,
   ⟨0x11930, "𑤵", "𑤸"⟩, ⟨0x1611E, "𖄞", "𖄡"⟩, ⟨0x1611F, "𖄡𖄡𖄩𖄩", "𖄣𖄦𖄧𖄤"⟩, ⟨0x16120, "𖄡𖄞", "𖄥𖄨"⟩,
   ⟨0x16129, "𖄞", "𖄢"⟩, ⟨0x16D67, "𖵩𖵩", "𖵪𖵧𖵪"⟩]

def joinSyllable? (a b : Char) : Option Char :=
  if 0x1100 ≤ a.toNat && a.toNat ≤ 0x1112 && 0x1161 ≤ b.toNat && b.toNat ≤ 0x1175 then
    some (Char.ofNat (0xAC00 + ((a.toNat - 0x1100) * 21 + (b.toNat - 0x1161)) * 28))
  else if 0xAC00 ≤ a.toNat && a.toNat ≤ 0xD7A3 && (a.toNat - 0xAC00) % 28 = 0 &&
      0x11A8 ≤ b.toNat && b.toNat ≤ 0x11C2 then
    some (Char.ofNat (a.toNat + (b.toNat - 0x11A7)))
  else none

def splitSyllable? (c : Char) : Option (Char × Char) :=
  if 0xAC00 ≤ c.toNat && c.toNat ≤ 0xD7A3 then
    let n := c.toNat - 0xAC00
    some <|
      if n % 28 = 0 then (Char.ofNat (0x1100 + n / 588), Char.ofNat (0x1161 + n % 588 / 28))
      else (Char.ofNat (c.toNat - n % 28), Char.ofNat (0x11A7 + n % 28))
  else none

def join? (a b : Char) : Option Char :=
  if b.toNat < 0x300 then none
  else (joinSyllable? a b).or <| composites.findSome? fun r =>
    if r.second = b.toNat then (r.firsts.toList.zip r.composed.toList).lookup a else none

def split? (c : Char) : Option (Char × Char) :=
  if c.toNat < 0xC0 then none
  else (splitSyllable? c).or <| composites.findSome? fun r =>
    ((r.composed.toList.zip r.firsts.toList).lookup c).map (·, Char.ofNat r.second)

end RecordSql.Text.Normal
