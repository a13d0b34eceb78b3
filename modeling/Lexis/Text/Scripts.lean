import Lexis.Text.Runs

/-!
# Scripts

The script of each code point by its code of four letters, as of Unicode 15.0, and the code points
that are shared by several scripts.
-/

namespace Lexis.Text

/-- The code points by their script. -/
def scriptRuns : List Run :=
  runs
    ["Zyyy65Latn26Zyyy6Latn26Zyyy47LatnZyyy15LatnZyyy5Latn23ZyyyLatn31ZyyyLatn449Zyyy39Latn5Zyyy5B",
     "opo2Zyyy20Zinh112Grek4ZyyyGrek3Zzzz2Grek4ZyyyGrekZzzz4GrekZyyyGrekZyyyGrek3ZzzzGrekZzzzGrek2",
     "0ZzzzGrek63Copt14Grek16Cyrl133Zinh2Cyrl169ZzzzArmn38Zzzz2Armn50Zzzz2Armn3ZzzzHebr55Zzzz8Hebr",
     "27Zzzz4Hebr6Zzzz11Arab5ZyyyArab6ZyyyArab14ZyyyArab3ZyyyArab32ZyyyArab10Zinh11Arab26ZinhArab1",
     "08ZyyyArab34Syrc14ZzzzSyrc60Zzzz2Syrc3Arab48Thaa50Zzzz14Nkoo59Zzzz2Nkoo3Samr46Zzzz2Samr15Zzz",
     "zMand28Zzzz2MandZzzzSyrc11Zzzz5Arab31ZzzzArab2Zzzz6Arab74ZyyyArab29Deva81Zinh4Deva15Zyyy2Dev",
     "a26Beng4ZzzzBeng8Zzzz2Beng2Zzzz2Beng22ZzzzBeng7ZzzzBengZzzz3Beng4Zzzz2Beng9Zzzz2Beng2Zzzz2Be",
     "ng4Zzzz8BengZzzz4Beng2ZzzzBeng5Zzzz2Beng25Zzzz2Guru3ZzzzGuru6Zzzz4Guru2Zzzz2Guru22ZzzzGuru7Z",
     "zzzGuru2ZzzzGuru2ZzzzGuru2Zzzz2GuruZzzzGuru5Zzzz4Guru2Zzzz2Guru3Zzzz3GuruZzzz7Guru4ZzzzGuruZ",
     "zzz7Guru17Zzzz10Gujr3ZzzzGujr9ZzzzGujr3ZzzzGujr22ZzzzGujr7ZzzzGujr2ZzzzGujr5Zzzz2Gujr10ZzzzG",
     "ujr3ZzzzGujr3Zzzz2GujrZzzz15Gujr4Zzzz2Gujr12Zzzz7Gujr7ZzzzOrya3ZzzzOrya8Zzzz2Orya2Zzzz2Orya2",
     "2ZzzzOrya7ZzzzOrya2ZzzzOrya5Zzzz2Orya9Zzzz2Orya2Zzzz2Orya3Zzzz7Orya3Zzzz4Orya2ZzzzOrya5Zzzz2",
     "Orya18Zzzz10Taml2ZzzzTaml6Zzzz3Taml3ZzzzTaml4Zzzz3Taml2ZzzzTamlZzzzTaml2Zzzz3Taml2Zzzz3Taml3",
     "Zzzz3Taml12Zzzz4Taml5Zzzz3Taml3ZzzzTaml4Zzzz2TamlZzzz6TamlZzzz14Taml21Zzzz5Telu13ZzzzTelu3Zz",
     "zzTelu23ZzzzTelu16Zzzz2Telu9ZzzzTelu3ZzzzTelu4Zzzz7Telu2ZzzzTelu3Zzzz2TeluZzzz2Telu4Zzzz2Tel",
     "u10Zzzz7Telu9Knda13ZzzzKnda3ZzzzKnda23ZzzzKnda10ZzzzKnda5Zzzz2Knda9ZzzzKnda3ZzzzKnda4Zzzz7Kn",
     "da2Zzzz6Knda2ZzzzKnda4Zzzz2Knda10ZzzzKnda3Zzzz12Mlym13ZzzzMlym3ZzzzMlym51ZzzzMlym3ZzzzMlym6Z",
     "zzz4Mlym16Zzzz2Mlym26ZzzzSinh3ZzzzSinh18Zzzz3Sinh24ZzzzSinh9ZzzzSinhZzzz2Sinh7Zzzz3SinhZzzz4",
     "Sinh6ZzzzSinhZzzzSinh8Zzzz6Sinh10Zzzz2Sinh3Zzzz12Thai58Zzzz4ZyyyThai28Zzzz37Laoo2ZzzzLaooZzz",
     "zLaoo5ZzzzLaoo24ZzzzLaooZzzzLaoo23Zzzz2Laoo5ZzzzLaooZzzzLaoo7ZzzzLaoo10Zzzz2Laoo4Zzzz32Tibt7",
     "2ZzzzTibt36Zzzz4Tibt39ZzzzTibt36ZzzzTibt15ZzzzTibt7Zyyy4Tibt2Zzzz37Mymr160Geor38ZzzzGeorZzzz",
     "5GeorZzzz2Geor43ZyyyGeor4Hang256Ethi73ZzzzEthi4Zzzz2Ethi7ZzzzEthiZzzzEthi4Zzzz2Ethi41ZzzzEth",
     "i4Zzzz2Ethi33ZzzzEthi4Zzzz2Ethi7ZzzzEthiZzzzEthi4Zzzz2Ethi15ZzzzEthi57ZzzzEthi4Zzzz2Ethi67Zz",
     "zz2Ethi32Zzzz3Ethi26Zzzz6Cher86Zzzz2Cher6Zzzz2Cans640Ogam29Zzzz3Runr75Zyyy3Runr11Zzzz7Tglg22",
     "Zzzz9TglgHano21Zyyy2Zzzz9Buhd20Zzzz12Tagb13ZzzzTagb3ZzzzTagb2Zzzz12Khmr94Zzzz2Khmr10Zzzz6Khm",
     "r10Zzzz6Mong2Zyyy2MongZyyyMong20Zzzz6Mong89Zzzz7Mong43Zzzz5Cans70Zzzz10Limb31ZzzzLimb12Zzzz4",
     "Limb12Zzzz4LimbZzzz3Limb12Tale30Zzzz2Tale5Zzzz11Talu44Zzzz4Talu26Zzzz6Talu11Zzzz3Talu2Khmr32",
     "Bugi28Zzzz2Bugi2Lana63ZzzzLana29Zzzz2Lana11Zzzz6Lana10Zzzz6Lana14Zzzz2Zinh31Zzzz49Bali77Zzzz",
     "3Bali47ZzzzSund64Batk52Zzzz8Batk4Lepc56Zzzz3Lepc15Zzzz3Lepc3Olck48Cyrl9Zzzz7Geor43Zzzz2Geor3",
     "Sund8Zzzz8Zinh3ZyyyZinh13ZyyyZinh7Zyyy4ZinhZyyy6ZinhZyyy3Zinh2ZyyyZzzz5Latn38Grek5CyrlLatn49",
     "Grek5Latn4Grek5Latn13CyrlLatn70GrekZinh64Latn256Grek22Zzzz2Grek6Zzzz2Grek38Zzzz2Grek6Zzzz2Gr",
     "ek8ZzzzGrekZzzzGrekZzzzGrekZzzzGrek31Zzzz2Grek53ZzzzGrek15ZzzzGrek14Zzzz2Grek6ZzzzGrek19Zzzz",
     "2Grek3ZzzzGrek9ZzzzZyyy12Zinh2Zyyy87ZzzzZyyy11LatnZzzz2Zyyy11LatnZyyy15ZzzzLatn13Zzzz3Zyyy33",
     "Zzzz15Zinh33Zzzz15Zyyy38GrekZyyy3Latn2Zyyy6LatnZyyy27LatnZyyy17Latn41Zyyy3Zzzz4Zyyy663Zzzz25",
     "Zyyy11Zzzz21Zyyy928Brai256Zyyy628Zzzz2Zyyy32ZzzzZyyy105Glag96Latn32Copt116Zzzz5Copt7Geor38Zz",
     "zzGeorZzzz5GeorZzzz2Tfng56Zzzz7Tfng2Zzzz14TfngEthi23Zzzz9Ethi7ZzzzEthi7ZzzzEthi7ZzzzEthi7Zzz",
     "zEthi7ZzzzEthi7ZzzzEthi7ZzzzEthi7ZzzzCyrl32Zyyy94Zzzz34Hani26ZzzzHani89Zzzz12Hani214Zzzz26Zy",
     "yy12Zzzz4Zyyy5HaniZyyyHaniZyyy25Hani9Zinh4Hang2Zyyy8Hani4Zyyy4ZzzzHira86Zzzz2Zinh2Zyyy2Hira3",
     "ZyyyKana90Zyyy2Kana3Zzzz5Bopo43ZzzzHang94ZzzzZyyy16Bopo32Zyyy36Zzzz12Kana16Hang31ZzzzZyyy64H",
     "ang31Zyyy81Kana47ZyyyKana88Zyyy168Hani6592Zyyy64Hani20992Yiii1165Zzzz3Yiii55Zzzz9Lisu48Vaii3",
     "00Zzzz20Cyrl96Bamu88Zzzz8Zyyy34Latn102Zyyy3Latn64Zzzz5Latn2ZzzzLatnZzzzLatn5Zzzz24Latn14Sylo",
     "45Zzzz3Zyyy10Zzzz6Phag56Zzzz8Saur70Zzzz8Saur12Zzzz6Deva32Kali46ZyyyKaliRjng36Zzzz11RjngHang2",
     "9Zzzz3Java78ZzzzZyyyJava10Zzzz4Java2Mymr31ZzzzCham55Zzzz9Cham14Zzzz2Cham10Zzzz2Cham4Mymr32Ta",
     "vt67Zzzz24Tavt5Mtei23Zzzz10Ethi6Zzzz2Ethi6Zzzz2Ethi6Zzzz9Ethi7ZzzzEthi7ZzzzLatn43ZyyyLatn9Gr",
     "ekLatn4Zyyy2Zzzz4Cher80Mtei46Zzzz2Mtei10Zzzz6Hang11172Zzzz12Hang23Zzzz4Hang49Zzzz8452Hani366",
     "Zzzz2Hani106Zzzz38Latn7Zzzz12Armn5Zzzz5Hebr26ZzzzHebr5ZzzzHebrZzzzHebr2ZzzzHebr2ZzzzHebr10Ar",
     "ab115Zzzz16Arab363Zyyy2Arab80Zzzz2Arab54Zzzz7ArabZzzz32Arab16Zinh16Zyyy10Zzzz6Zinh14Cyrl2Zyy",
     "y35ZzzzZyyy19ZzzzZyyy4Zzzz4Arab5ZzzzArab135Zzzz2ZyyyZzzzZyyy32Latn26Zyyy6Latn26Zyyy11Kana10Z",
     "yyyKana45Zyyy2Hang31Zzzz3Hang6Zzzz2Hang6Zzzz2Hang6Zzzz2Hang3Zzzz3Zyyy7ZzzzZyyy7Zzzz10Zyyy5Zz",
     "zz2Linb12ZzzzLinb26ZzzzLinb19ZzzzLinb2ZzzzLinb15Zzzz2Linb14Zzzz34Linb123Zzzz5Zyyy3Zzzz4Zyyy4",
     "5Zzzz3Zyyy9Grek79ZzzzZyyy13Zzzz3GrekZzzz47Zyyy45ZinhZzzz130Lyci29Zzzz3Cari49Zzzz15ZinhZyyy27",
     "Zzzz4Ital36Zzzz9Ital3Goth27Zzzz5Perm43Zzzz5Ugar30ZzzzUgarXpeo36Zzzz4Xpeo14Zzzz42Dsrt80Shaw48",
     "Osma30Zzzz2Osma10Zzzz6Osge36Zzzz4Osge36Zzzz4Elba40Zzzz8Aghb52Zzzz11AghbVith11ZzzzVith15ZzzzV",
     "ith7ZzzzVith2ZzzzVith11ZzzzVith15ZzzzVith7ZzzzVith2Zzzz67Lina311Zzzz9Lina22Zzzz10Lina8Zzzz24",
     "Latn6ZzzzLatn42ZzzzLatn9Zzzz69Cprt6Zzzz2CprtZzzzCprt44ZzzzCprt2Zzzz3CprtZzzz2CprtArmi22ZzzzA",
     "rmi9Palm32Nbat31Zzzz8Nbat9Zzzz48Hatr19ZzzzHatr2Zzzz5Hatr5Phnx28Zzzz3PhnxLydi26Zzzz5LydiZzzz6",
     "4Mero32Merc24Zzzz4Merc20Zzzz2Merc46Khar4ZzzzKhar2Zzzz5Khar8ZzzzKhar3ZzzzKhar29Zzzz2Khar3Zzzz",
     "4Khar10Zzzz7Khar9Zzzz7Sarb32Narb32Zzzz32Mani39Zzzz4Mani12Zzzz9Avst54Zzzz3Avst7Prti22Zzzz2Prt",
     "i8Phli19Zzzz5Phli8Phlp18Zzzz7Phlp4Zzzz12Phlp7Zzzz80Orkh73Zzzz55Hung51Zzzz13Hung51Zzzz7Hung6R",
     "ohg40Zzzz8Rohg10Zzzz294Arab31ZzzzYezi42ZzzzYezi3Zzzz2Yezi2Zzzz75Arab3Sogo40Zzzz8Sogd42Zzzz22",
     "Ougr26Zzzz38Chrs28Zzzz20Elym23Zzzz9Brah78Zzzz4Brah36Zzzz9BrahKthi67Zzzz10KthiZzzz2Sora25Zzzz",
     "7Sora10Zzzz6Cakm53ZzzzCakm18Zzzz8Mahj39Zzzz9Shrd96ZzzzSinh20Zzzz11Khoj18ZzzzKhoj47Zzzz62Mult",
     "7ZzzzMultZzzzMult4ZzzzMult15ZzzzMult11Zzzz6Sind59Zzzz5Sind10Zzzz6Gran4ZzzzGran8Zzzz2Gran2Zzz",
     "z2Gran22ZzzzGran7ZzzzGran2ZzzzGran5ZzzzZinhGran9Zzzz2Gran2Zzzz2Gran3Zzzz2GranZzzz6GranZzzz5G",
     "ran7Zzzz2Gran7Zzzz3Gran5Zzzz139Newa92ZzzzNewa5Zzzz30Tirh72Zzzz8Tirh10Zzzz166Sidd54Zzzz2Sidd3",
     "8Zzzz34Modi69Zzzz11Modi10Zzzz6Mong13Zzzz19Takr58Zzzz6Takr10Zzzz54Ahom27Zzzz2Ahom15Zzzz4Ahom2",
     "3Zzzz185Dogr60Zzzz100Wara83Zzzz12WaraDiak7Zzzz2DiakZzzz2Diak8ZzzzDiak2ZzzzDiak30ZzzzDiak2Zzz",
     "z2Diak12Zzzz9Diak10Zzzz70Nand8Zzzz2Nand46Zzzz2Nand11Zzzz27Zanb72Zzzz8Soyo83Zzzz13Cans16Pauc5",
     "7Zzzz7Deva10Zzzz246Bhks9ZzzzBhks45ZzzzBhks14Zzzz10Bhks29Zzzz3Marc32Zzzz2Marc22ZzzzMarc14Zzzz",
     "73Gonm7ZzzzGonm2ZzzzGonm44Zzzz3GonmZzzzGonm2ZzzzGonm9Zzzz8Gonm10Zzzz6Gong6ZzzzGong2ZzzzGong3",
     "7ZzzzGong2ZzzzGong6Zzzz7Gong10Zzzz310Maka25Zzzz7Kawi17ZzzzKawi41Zzzz3Kawi28Zzzz86LisuZzzz15T",
     "aml50Zzzz13TamlXsux922Zzzz102Xsux111ZzzzXsux5Zzzz11Xsux196Zzzz2636Cpmn99Zzzz13Egyp1110Zzzz40",
     "10Hluw583Zzzz8633Bamu569Zzzz7Mroo31ZzzzMroo10Zzzz4Mroo2Tnsa79ZzzzTnsa10Zzzz6Bass30Zzzz2Bass6",
     "Zzzz10Hmng70Zzzz10Hmng10ZzzzHmng7ZzzzHmng21Zzzz5Hmng19Zzzz688Medf91Zzzz101Plrd75Zzzz4Plrd57Z",
     "zzz7Plrd17Zzzz64TangNshuHani2KitsZzzz11Hani2Zzzz14Tang6136Zzzz8Tang768Kits470Zzzz42Tang9Zzzz",
     "8935Kana4ZzzzKana7ZzzzKana2ZzzzKanaHira287Kana3Zzzz15HiraZzzz29Hira3Zzzz2KanaZzzz14Kana4Zzzz",
     "8Nshu396Zzzz2308Dupl107Zzzz5Dupl13Zzzz3Dupl9Zzzz7Dupl10Zzzz2Dupl4Zyyy4Zzzz4700Zinh46Zzzz2Zin",
     "h23Zzzz9Zyyy116Zzzz60Zyyy246Zzzz10Zyyy39Zzzz2Zyyy62Zinh3Zyyy17Zinh8Zyyy2Zinh7Zyyy30Zinh4Zyyy",
     "61Zzzz21Grek70Zzzz122Zyyy20Zzzz12Zyyy20Zzzz12Zyyy87Zzzz9Zyyy25Zzzz135Zyyy85ZzzzZyyy71ZzzzZyy",
     "y2Zzzz2ZyyyZzzz2Zyyy2Zzzz2Zyyy4ZzzzZyyy12ZzzzZyyyZzzzZyyy7ZzzzZyyy65ZzzzZyyy4Zzzz2Zyyy8ZzzzZ",
     "yyy7ZzzzZyyy28ZzzzZyyy4ZzzzZyyy5ZzzzZyyyZzzz3Zyyy7ZzzzZyyy340Zzzz2Zyyy292Zzzz2Zyyy50Sgnw652Z",
     "zzz15Sgnw5ZzzzSgnw15Zzzz1104Latn31Zzzz6Latn6Zzzz213Glag7ZzzzGlag17Zzzz2Glag7ZzzzGlag2ZzzzGla",
     "g5Zzzz5Cyrl62Zzzz33CyrlZzzz112Hmnp45Zzzz3Hmnp14Zzzz2Hmnp10Zzzz4Hmnp2Zzzz320Toto31Zzzz17Wcho5",
     "8Zzzz5WchoZzzz464Nagm42Zzzz742Ethi7ZzzzEthi4ZzzzEthi2ZzzzEthi15ZzzzMend197Zzzz2Mend16Zzzz41A",
     "dlm76Zzzz4Adlm10Zzzz4Adlm2Zzzz785Zyyy68Zzzz76Zyyy61Zzzz194Arab4ZzzzArab27ZzzzArab2ZzzzArabZz",
     "zz2ArabZzzzArab10ZzzzArab4ZzzzArabZzzzArabZzzz6ArabZzzz4ArabZzzzArabZzzzArabZzzzArab3ZzzzAra",
     "b2ZzzzArabZzzz2ArabZzzzArabZzzzArabZzzzArabZzzzArabZzzzArab2ZzzzArabZzzz2Arab4ZzzzArab7ZzzzA",
     "rab4ZzzzArab4ZzzzArabZzzzArab10ZzzzArab17Zzzz5Arab3ZzzzArab5ZzzzArab17Zzzz52Arab2Zzzz270Zyyy",
     "44Zzzz4Zyyy100Zzzz12Zyyy15Zzzz2Zyyy15ZzzzZyyy15ZzzzZyyy37Zzzz10Zyyy174Zzzz56Zyyy26HiraZyyy2Z",
     "zzz13Zyyy44Zzzz4Zyyy9Zzzz7Zyyy2Zzzz14Zyyy6Zzzz154Zyyy984Zzzz4Zyyy17Zzzz3Zyyy13Zzzz3Zyyy119Zz",
     "zz4Zyyy95Zzzz6Zyyy12Zzzz4ZyyyZzzz15Zyyy12Zzzz4Zyyy56Zzzz8Zyyy10Zzzz6Zyyy40Zzzz8Zyyy30Zzzz2Zy",
     "yy2Zzzz78Zyyy340Zzzz12Zyyy14Zzzz2Zyyy13Zzzz3Zyyy9Zzzz7Zyyy46ZzzzZyyy7Zzzz8Zyyy14Zzzz4Zyyy9Zz",
     "zz7Zyyy9Zzzz7Zyyy147ZzzzZyyy55Zzzz37Zyyy10Zzzz1030Hani42720Zzzz32Hani4154Zzzz6Hani222Zzzz2Ha",
     "ni5762Zzzz14Hani7473Zzzz3103Hani542Zzzz1506Hani4939Zzzz5Hani4192Zzzz711761ZyyyZzzz30Zyyy96Zz",
     "zz128Zinh240Zzzz196112"]

/-- The scripts: the code of each, and its other names in normal form. -/
def scripts : List (List String) :=
  [["Adlm", "adlam"], ["Aghb", "caucasianalbanian"], ["Ahom"], ["Arab", "arabic"],
   ["Armi", "imperialaramaic"], ["Armn", "armenian"], ["Avst", "avestan"], ["Bali", "balinese"],
   ["Bamu", "bamum"], ["Bass", "bassavah"], ["Batk", "batak"], ["Beng", "bengali"],
   ["Bhks", "bhaiksuki"], ["Bopo", "bopomofo"], ["Brah", "brahmi"], ["Brai", "braille"],
   ["Bugi", "buginese"], ["Buhd", "buhid"], ["Cakm", "chakma"], ["Cans", "canadianaboriginal"],
   ["Cari", "carian"], ["Cham"], ["Cher", "cherokee"], ["Chrs", "chorasmian"],
   ["Copt", "coptic", "qaac"], ["Cpmn", "cyprominoan"], ["Cprt", "cypriot"], ["Cyrl", "cyrillic"],
   ["Deva", "devanagari"], ["Diak", "divesakuru"], ["Dogr", "dogra"], ["Dsrt", "deseret"],
   ["Dupl", "duployan"], ["Egyp", "egyptianhieroglyphs"], ["Elba", "elbasan"], ["Elym", "elymaic"],
   ["Ethi", "ethiopic"], ["Geor", "georgian"], ["Glag", "glagolitic"], ["Gong", "gunjalagondi"],
   ["Gonm", "masaramgondi"], ["Goth", "gothic"], ["Gran", "grantha"], ["Grek", "greek"],
   ["Gujr", "gujarati"], ["Guru", "gurmukhi"], ["Hang", "hangul"], ["Hani", "han"],
   ["Hano", "hanunoo"], ["Hatr", "hatran"], ["Hebr", "hebrew"], ["Hira", "hiragana"],
   ["Hluw", "anatolianhieroglyphs"], ["Hmng", "pahawhhmong"], ["Hmnp", "nyiakengpuachuehmong"],
   ["Hung", "oldhungarian"], ["Ital", "olditalic"], ["Java", "javanese"], ["Kali", "kayahli"],
   ["Kana", "katakana"], ["Kawi"], ["Khar", "kharoshthi"], ["Khmr", "khmer"], ["Khoj", "khojki"],
   ["Kits", "khitansmallscript"], ["Knda", "kannada"], ["Kthi", "kaithi"], ["Lana", "taitham"],
   ["Laoo", "lao"], ["Latn", "latin"], ["Lepc", "lepcha"], ["Limb", "limbu"], ["Lina", "lineara"],
   ["Linb", "linearb"], ["Lisu"], ["Lyci", "lycian"], ["Lydi", "lydian"], ["Mahj", "mahajani"],
   ["Maka", "makasar"], ["Mand", "mandaic"], ["Mani", "manichaean"], ["Marc", "marchen"],
   ["Medf", "medefaidrin"], ["Mend", "mendekikakui"], ["Merc", "meroiticcursive"],
   ["Mero", "meroitichieroglyphs"], ["Mlym", "malayalam"], ["Modi"], ["Mong", "mongolian"],
   ["Mroo", "mro"], ["Mtei", "meeteimayek"], ["Mult", "multani"], ["Mymr", "myanmar"],
   ["Nagm", "nagmundari"], ["Nand", "nandinagari"], ["Narb", "oldnortharabian"],
   ["Nbat", "nabataean"], ["Newa"], ["Nkoo", "nko"], ["Nshu", "nushu"], ["Ogam", "ogham"],
   ["Olck", "olchiki"], ["Orkh", "oldturkic"], ["Orya", "oriya"], ["Osge", "osage"],
   ["Osma", "osmanya"], ["Ougr", "olduyghur"], ["Palm", "palmyrene"], ["Pauc", "paucinhau"],
   ["Perm", "oldpermic"], ["Phag", "phagspa"], ["Phli", "inscriptionalpahlavi"],
   ["Phlp", "psalterpahlavi"], ["Phnx", "phoenician"], ["Plrd", "miao"],
   ["Prti", "inscriptionalparthian"], ["Rjng", "rejang"], ["Rohg", "hanifirohingya"],
   ["Runr", "runic"], ["Samr", "samaritan"], ["Sarb", "oldsoutharabian"], ["Saur", "saurashtra"],
   ["Sgnw", "signwriting"], ["Shaw", "shavian"], ["Shrd", "sharada"], ["Sidd", "siddham"],
   ["Sind", "khudawadi"], ["Sinh", "sinhala"], ["Sogd", "sogdian"], ["Sogo", "oldsogdian"],
   ["Sora", "sorasompeng"], ["Soyo", "soyombo"], ["Sund", "sundanese"], ["Sylo", "sylotinagri"],
   ["Syrc", "syriac"], ["Tagb", "tagbanwa"], ["Takr", "takri"], ["Tale", "taile"],
   ["Talu", "newtailue"], ["Taml", "tamil"], ["Tang", "tangut"], ["Tavt", "taiviet"],
   ["Telu", "telugu"], ["Tfng", "tifinagh"], ["Tglg", "tagalog"], ["Thaa", "thaana"], ["Thai"],
   ["Tibt", "tibetan"], ["Tirh", "tirhuta"], ["Tnsa", "tangsa"], ["Toto"], ["Ugar", "ugaritic"],
   ["Vaii", "vai"], ["Vith", "vithkuqi"], ["Wara", "warangciti"], ["Wcho", "wancho"],
   ["Xpeo", "oldpersian"], ["Xsux", "cuneiform"], ["Yezi", "yezidi"], ["Yiii", "yi"],
   ["Zanb", "zanabazarsquare"], ["Zinh", "inherited", "qaai"], ["Zyyy", "common"]]

/-- The code points with scripts beside the one they are listed under, after the codes of all. -/
def scriptExtensions : List (List String × List (Nat × Nat)) :=
  [(["Grek"], [(0x342, 0x342), (0x345, 0x345), (0x1DC0, 0x1DC1)]),
   (["Latn"], [(0x363, 0x36F)]),
   (["Cyrl", "Perm"], [(0x483, 0x483)]),
   (["Cyrl", "Glag"], [(0x484, 0x484), (0x487, 0x487), (0x2E43, 0x2E43), (0xA66F, 0xA66F)]),
   (["Cyrl", "Latn"], [(0x485, 0x486)]),
   (["Arab", "Nkoo", "Rohg", "Syrc", "Thaa", "Yezi"], [(0x60C, 0x60C), (0x61B, 0x61B)]),
   (["Arab", "Syrc", "Thaa"], [(0x61C, 0x61C)]),
   (["Adlm", "Arab", "Nkoo", "Rohg", "Syrc", "Thaa", "Yezi"], [(0x61F, 0x61F)]),
   (["Adlm", "Arab", "Mand", "Mani", "Ougr", "Phlp", "Rohg", "Sogd", "Syrc"], [(0x640, 0x640)]),
   (["Arab", "Syrc"], [(0x64B, 0x655), (0x670, 0x670)]),
   (["Arab", "Thaa", "Yezi"], [(0x660, 0x669)]),
   (["Arab", "Rohg"], [(0x6D4, 0x6D4)]),
   (["Beng", "Deva", "Gran", "Gujr", "Guru", "Knda", "Latn", "Mlym", "Orya", "Shrd", "Taml",
     "Telu", "Tirh"],
     [(0x951, 0x951)]),
   (["Beng", "Deva", "Gran", "Gujr", "Guru", "Knda", "Latn", "Mlym", "Orya", "Taml", "Telu",
     "Tirh"],
     [(0x952, 0x952)]),
   (["Beng", "Deva", "Dogr", "Gong", "Gonm", "Gran", "Gujr", "Guru", "Knda", "Mahj", "Mlym",
     "Nand", "Orya", "Sind", "Sinh", "Sylo", "Takr", "Taml", "Telu", "Tirh"],
     [(0x964, 0x964)]),
   (["Beng", "Deva", "Dogr", "Gong", "Gonm", "Gran", "Gujr", "Guru", "Knda", "Limb", "Mahj",
     "Mlym", "Nand", "Orya", "Sind", "Sinh", "Sylo", "Takr", "Taml", "Telu", "Tirh"],
     [(0x965, 0x965)]),
   (["Deva", "Dogr", "Kthi", "Mahj"], [(0x966, 0x96F)]),
   (["Beng", "Cakm", "Sylo"], [(0x9E6, 0x9EF)]),
   (["Guru", "Mult"], [(0xA66, 0xA6F)]),
   (["Gujr", "Khoj"], [(0xAE6, 0xAEF)]),
   (["Gran", "Taml"],
     [(0xBE6, 0xBF3), (0x11301, 0x11301), (0x11303, 0x11303), (0x1133B, 0x1133C),
      (0x11FD0, 0x11FD1), (0x11FD3, 0x11FD3)]),
   (["Knda", "Nand"], [(0xCE6, 0xCEF)]),
   (["Cakm", "Mymr", "Tale"], [(0x1040, 0x1049)]),
   (["Geor", "Latn"], [(0x10FB, 0x10FB)]),
   (["Buhd", "Hano", "Tagb", "Tglg"], [(0x1735, 0x1736)]),
   (["Mong", "Phag"], [(0x1802, 0x1803), (0x1805, 0x1805)]),
   (["Beng", "Deva", "Gran", "Knda"], [(0x1CD0, 0x1CD0), (0x1CD2, 0x1CD2)]),
   (["Deva"],
     [(0x1CD1, 0x1CD1), (0x1CD4, 0x1CD4), (0x1CDB, 0x1CDB), (0x1CDE, 0x1CDF), (0x1CE2, 0x1CE8),
      (0x1CEB, 0x1CEC), (0x1CEE, 0x1CF1)]),
   (["Deva", "Gran"], [(0x1CD3, 0x1CD3), (0x1CF3, 0x1CF3), (0x1CF8, 0x1CF9)]),
   (["Beng", "Deva"],
     [(0x1CD5, 0x1CD6), (0x1CD8, 0x1CD8), (0x1CE1, 0x1CE1), (0x1CEA, 0x1CEA), (0x1CED, 0x1CED),
      (0x1CF5, 0x1CF6), (0xA8F1, 0xA8F1)]),
   (["Deva", "Shrd"], [(0x1CD7, 0x1CD7), (0x1CD9, 0x1CD9), (0x1CDC, 0x1CDD), (0x1CE0, 0x1CE0)]),
   (["Deva", "Knda", "Mlym", "Orya", "Taml", "Telu"], [(0x1CDA, 0x1CDA)]),
   (["Deva", "Nand"], [(0x1CE9, 0x1CE9)]),
   (["Beng", "Deva", "Gran", "Knda", "Nand", "Orya", "Telu", "Tirh"], [(0x1CF2, 0x1CF2)]),
   (["Deva", "Gran", "Knda"], [(0x1CF4, 0x1CF4)]),
   (["Beng"], [(0x1CF7, 0x1CF7)]),
   (["Nand"], [(0x1CFA, 0x1CFA)]),
   (["Cyrl", "Syrc"], [(0x1DF8, 0x1DF8)]),
   (["Syrc"], [(0x1DFA, 0x1DFA)]),
   (["Latn", "Mong"], [(0x202F, 0x202F)]),
   (["Deva", "Gran", "Latn"], [(0x20F0, 0x20F0)]),
   (["Bopo", "Hang", "Hani", "Hira", "Kana", "Yiii"],
     [(0x3001, 0x3002), (0x3008, 0x3011), (0x3014, 0x301B), (0x30FB, 0x30FB), (0xFF61, 0xFF65)]),
   (["Bopo", "Hang", "Hani", "Hira", "Kana"],
     [(0x3003, 0x3003), (0x3013, 0x3013), (0x301C, 0x301F), (0x3030, 0x3030), (0x3037, 0x3037),
      (0xFE45, 0xFE46)]),
   (["Hani"],
     [(0x3006, 0x3006), (0x303E, 0x303F), (0x3190, 0x319F), (0x31C0, 0x31E3), (0x3220, 0x3247),
      (0x3280, 0x32B0), (0x32C0, 0x32CB), (0x32FF, 0x32FF), (0x3358, 0x3370), (0x337B, 0x337F),
      (0x33E0, 0x33FE), (0x1D360, 0x1D371), (0x1F250, 0x1F251)]),
   (["Bopo", "Hani"], [(0x302A, 0x302D)]),
   (["Hira", "Kana"],
     [(0x3031, 0x3035), (0x3099, 0x309C), (0x30A0, 0x30A0), (0x30FC, 0x30FC), (0xFF70, 0xFF70),
      (0xFF9E, 0xFF9F)]),
   (["Hani", "Hira", "Kana"], [(0x303C, 0x303D)]),
   (["Hani", "Latn"], [(0xA700, 0xA707)]),
   (["Deva", "Dogr", "Gujr", "Guru", "Khoj", "Knda", "Kthi", "Mahj", "Mlym", "Modi", "Nand",
     "Sind", "Takr", "Tirh"],
     [(0xA830, 0xA832)]),
   (["Deva", "Dogr", "Gujr", "Guru", "Khoj", "Knda", "Kthi", "Mahj", "Modi", "Nand", "Sind",
     "Takr", "Tirh"],
     [(0xA833, 0xA835)]),
   (["Deva", "Dogr", "Gujr", "Guru", "Khoj", "Kthi", "Mahj", "Modi", "Sind", "Takr", "Tirh"],
     [(0xA836, 0xA839)]),
   (["Deva", "Taml"], [(0xA8F3, 0xA8F3)]),
   (["Kali", "Latn", "Mymr"], [(0xA92E, 0xA92E)]),
   (["Bugi", "Java"], [(0xA9CF, 0xA9CF)]),
   (["Arab", "Nkoo"], [(0xFD3E, 0xFD3F)]),
   (["Arab", "Thaa"], [(0xFDF2, 0xFDF2), (0xFDFD, 0xFDFD)]),
   (["Cpmn", "Cprt", "Linb"], [(0x10100, 0x10101)]),
   (["Cprt", "Linb"], [(0x10102, 0x10102), (0x10137, 0x1013F)]),
   (["Cprt", "Lina", "Linb"], [(0x10107, 0x10133)]),
   (["Arab", "Copt"], [(0x102E0, 0x102FB)]),
   (["Mani", "Ougr"], [(0x10AF2, 0x10AF2)]),
   (["Dupl"], [(0x1BCA0, 0x1BCA3)])]

end Lexis.Text
