import LearningMap.Unicode.CharSet

/-!
# Scripts

Every code point belongs to one script, named by four letters. A few are used with several others:
those are their script extensions. Both tables give successive code points from zero on, each entry
with the number of code points that it goes on for; `Zzzz` is no script, and `0` no extension.
-/

namespace LearningMap.Unicode.Script

/-- The scripts of successive code points, as of version 16.0. -/
def table : List String :=
  ["Zyyy65 Latn26 Zyyy6 Latn26 Zyyy47 Latn1 Zyyy15 Latn1 Zyyy5 Latn23 Zyyy1 Latn31 Zyyy1",
   "Latn449 Zyyy39 Latn5 Zyyy5 Bopo2 Zyyy20 Zinh112 Grek4 Zyyy1 Grek3 Zzzz2 Grek4 Zyyy1 Grek1",
   "Zzzz4 Grek1 Zyyy1 Grek1 Zyyy1 Grek3 Zzzz1 Grek1 Zzzz1 Grek20 Zzzz1 Grek63 Copt14 Grek16",
   "Cyrl133 Zinh2 Cyrl169 Zzzz1 Armn38 Zzzz2 Armn50 Zzzz2 Armn3 Zzzz1 Hebr55 Zzzz8 Hebr27 Zzzz4",
   "Hebr6 Zzzz11 Arab5 Zyyy1 Arab6 Zyyy1 Arab14 Zyyy1 Arab3 Zyyy1 Arab32 Zyyy1 Arab10 Zinh11",
   "Arab26 Zinh1 Arab108 Zyyy1 Arab34 Syrc14 Zzzz1 Syrc60 Zzzz2 Syrc3 Arab48 Thaa50 Zzzz14",
   "Nkoo59 Zzzz2 Nkoo3 Samr46 Zzzz2 Samr15 Zzzz1 Mand28 Zzzz2 Mand1 Zzzz1 Syrc11 Zzzz5 Arab31",
   "Zzzz1 Arab2 Zzzz5 Arab75 Zyyy1 Arab29 Deva81 Zinh4 Deva15 Zyyy2 Deva26 Beng4 Zzzz1 Beng8",
   "Zzzz2 Beng2 Zzzz2 Beng22 Zzzz1 Beng7 Zzzz1 Beng1 Zzzz3 Beng4 Zzzz2 Beng9 Zzzz2 Beng2 Zzzz2",
   "Beng4 Zzzz8 Beng1 Zzzz4 Beng2 Zzzz1 Beng5 Zzzz2 Beng25 Zzzz2 Guru3 Zzzz1 Guru6 Zzzz4 Guru2",
   "Zzzz2 Guru22 Zzzz1 Guru7 Zzzz1 Guru2 Zzzz1 Guru2 Zzzz1 Guru2 Zzzz2 Guru1 Zzzz1 Guru5 Zzzz4",
   "Guru2 Zzzz2 Guru3 Zzzz3 Guru1 Zzzz7 Guru4 Zzzz1 Guru1 Zzzz7 Guru17 Zzzz10 Gujr3 Zzzz1 Gujr9",
   "Zzzz1 Gujr3 Zzzz1 Gujr22 Zzzz1 Gujr7 Zzzz1 Gujr2 Zzzz1 Gujr5 Zzzz2 Gujr10 Zzzz1 Gujr3 Zzzz1",
   "Gujr3 Zzzz2 Gujr1 Zzzz15 Gujr4 Zzzz2 Gujr12 Zzzz7 Gujr7 Zzzz1 Orya3 Zzzz1 Orya8 Zzzz2 Orya2",
   "Zzzz2 Orya22 Zzzz1 Orya7 Zzzz1 Orya2 Zzzz1 Orya5 Zzzz2 Orya9 Zzzz2 Orya2 Zzzz2 Orya3 Zzzz7",
   "Orya3 Zzzz4 Orya2 Zzzz1 Orya5 Zzzz2 Orya18 Zzzz10 Taml2 Zzzz1 Taml6 Zzzz3 Taml3 Zzzz1 Taml4",
   "Zzzz3 Taml2 Zzzz1 Taml1 Zzzz1 Taml2 Zzzz3 Taml2 Zzzz3 Taml3 Zzzz3 Taml12 Zzzz4 Taml5 Zzzz3",
   "Taml3 Zzzz1 Taml4 Zzzz2 Taml1 Zzzz6 Taml1 Zzzz14 Taml21 Zzzz5 Telu13 Zzzz1 Telu3 Zzzz1",
   "Telu23 Zzzz1 Telu16 Zzzz2 Telu9 Zzzz1 Telu3 Zzzz1 Telu4 Zzzz7 Telu2 Zzzz1 Telu3 Zzzz2 Telu1",
   "Zzzz2 Telu4 Zzzz2 Telu10 Zzzz7 Telu9 Knda13 Zzzz1 Knda3 Zzzz1 Knda23 Zzzz1 Knda10 Zzzz1",
   "Knda5 Zzzz2 Knda9 Zzzz1 Knda3 Zzzz1 Knda4 Zzzz7 Knda2 Zzzz6 Knda2 Zzzz1 Knda4 Zzzz2 Knda10",
   "Zzzz1 Knda3 Zzzz12 Mlym13 Zzzz1 Mlym3 Zzzz1 Mlym51 Zzzz1 Mlym3 Zzzz1 Mlym6 Zzzz4 Mlym16",
   "Zzzz2 Mlym26 Zzzz1 Sinh3 Zzzz1 Sinh18 Zzzz3 Sinh24 Zzzz1 Sinh9 Zzzz1 Sinh1 Zzzz2 Sinh7",
   "Zzzz3 Sinh1 Zzzz4 Sinh6 Zzzz1 Sinh1 Zzzz1 Sinh8 Zzzz6 Sinh10 Zzzz2 Sinh3 Zzzz12 Thai58",
   "Zzzz4 Zyyy1 Thai28 Zzzz37 Laoo2 Zzzz1 Laoo1 Zzzz1 Laoo5 Zzzz1 Laoo24 Zzzz1 Laoo1 Zzzz1",
   "Laoo23 Zzzz2 Laoo5 Zzzz1 Laoo1 Zzzz1 Laoo7 Zzzz1 Laoo10 Zzzz2 Laoo4 Zzzz32 Tibt72 Zzzz1",
   "Tibt36 Zzzz4 Tibt39 Zzzz1 Tibt36 Zzzz1 Tibt15 Zzzz1 Tibt7 Zyyy4 Tibt2 Zzzz37 Mymr160 Geor38",
   "Zzzz1 Geor1 Zzzz5 Geor1 Zzzz2 Geor43 Zyyy1 Geor4 Hang256 Ethi73 Zzzz1 Ethi4 Zzzz2 Ethi7",
   "Zzzz1 Ethi1 Zzzz1 Ethi4 Zzzz2 Ethi41 Zzzz1 Ethi4 Zzzz2 Ethi33 Zzzz1 Ethi4 Zzzz2 Ethi7 Zzzz1",
   "Ethi1 Zzzz1 Ethi4 Zzzz2 Ethi15 Zzzz1 Ethi57 Zzzz1 Ethi4 Zzzz2 Ethi67 Zzzz2 Ethi32 Zzzz3",
   "Ethi26 Zzzz6 Cher86 Zzzz2 Cher6 Zzzz2 Cans640 Ogam29 Zzzz3 Runr75 Zyyy3 Runr11 Zzzz7 Tglg22",
   "Zzzz9 Tglg1 Hano21 Zyyy2 Zzzz9 Buhd20 Zzzz12 Tagb13 Zzzz1 Tagb3 Zzzz1 Tagb2 Zzzz12 Khmr94",
   "Zzzz2 Khmr10 Zzzz6 Khmr10 Zzzz6 Mong2 Zyyy2 Mong1 Zyyy1 Mong20 Zzzz6 Mong89 Zzzz7 Mong43",
   "Zzzz5 Cans70 Zzzz10 Limb31 Zzzz1 Limb12 Zzzz4 Limb12 Zzzz4 Limb1 Zzzz3 Limb12 Tale30 Zzzz2",
   "Tale5 Zzzz11 Talu44 Zzzz4 Talu26 Zzzz6 Talu11 Zzzz3 Talu2 Khmr32 Bugi28 Zzzz2 Bugi2 Lana63",
   "Zzzz1 Lana29 Zzzz2 Lana11 Zzzz6 Lana10 Zzzz6 Lana14 Zzzz2 Zinh31 Zzzz49 Bali77 Zzzz1 Bali50",
   "Sund64 Batk52 Zzzz8 Batk4 Lepc56 Zzzz3 Lepc15 Zzzz3 Lepc3 Olck48 Cyrl11 Zzzz5 Geor43 Zzzz2",
   "Geor3 Sund8 Zzzz8 Zinh3 Zyyy1 Zinh13 Zyyy1 Zinh7 Zyyy4 Zinh1 Zyyy6 Zinh1 Zyyy3 Zinh2 Zyyy1",
   "Zzzz5 Latn38 Grek5 Cyrl1 Latn49 Grek5 Latn4 Grek5 Latn13 Cyrl1 Latn70 Grek1 Zinh64 Latn256",
   "Grek22 Zzzz2 Grek6 Zzzz2 Grek38 Zzzz2 Grek6 Zzzz2 Grek8 Zzzz1 Grek1 Zzzz1 Grek1 Zzzz1 Grek1",
   "Zzzz1 Grek31 Zzzz2 Grek53 Zzzz1 Grek15 Zzzz1 Grek14 Zzzz2 Grek6 Zzzz1 Grek19 Zzzz2 Grek3",
   "Zzzz1 Grek9 Zzzz1 Zyyy12 Zinh2 Zyyy87 Zzzz1 Zyyy11 Latn1 Zzzz2 Zyyy11 Latn1 Zyyy15 Zzzz1",
   "Latn13 Zzzz3 Zyyy33 Zzzz15 Zinh33 Zzzz15 Zyyy38 Grek1 Zyyy3 Latn2 Zyyy6 Latn1 Zyyy27 Latn1",
   "Zyyy17 Latn41 Zyyy3 Zzzz4 Zyyy666 Zzzz22 Zyyy11 Zzzz21 Zyyy928 Brai256 Zyyy628 Zzzz2 Zyyy32",
   "Zzzz1 Zyyy105 Glag96 Latn32 Copt116 Zzzz5 Copt7 Geor38 Zzzz1 Geor1 Zzzz5 Geor1 Zzzz2 Tfng56",
   "Zzzz7 Tfng2 Zzzz14 Tfng1 Ethi23 Zzzz9 Ethi7 Zzzz1 Ethi7 Zzzz1 Ethi7 Zzzz1 Ethi7 Zzzz1 Ethi7",
   "Zzzz1 Ethi7 Zzzz1 Ethi7 Zzzz1 Ethi7 Zzzz1 Cyrl32 Zyyy94 Zzzz34 Hani26 Zzzz1 Hani89 Zzzz12",
   "Hani214 Zzzz26 Zyyy21 Hani1 Zyyy1 Hani1 Zyyy25 Hani9 Zinh4 Hang2 Zyyy8 Hani4 Zyyy4 Zzzz1",
   "Hira86 Zzzz2 Zinh2 Zyyy2 Hira3 Zyyy1 Kana90 Zyyy2 Kana3 Zzzz5 Bopo43 Zzzz1 Hang94 Zzzz1",
   "Zyyy16 Bopo32 Zyyy38 Zzzz9 Zyyy1 Kana16 Hang31 Zzzz1 Zyyy64 Hang31 Zyyy81 Kana47 Zyyy1",
   "Kana88 Zyyy168 Hani6592 Zyyy64 Hani20992 Yiii1165 Zzzz3 Yiii55 Zzzz9 Lisu48 Vaii300 Zzzz20",
   "Cyrl96 Bamu88 Zzzz8 Zyyy34 Latn102 Zyyy3 Latn67 Zzzz2 Latn2 Zzzz1 Latn1 Zzzz1 Latn8 Zzzz21",
   "Latn14 Sylo45 Zzzz3 Zyyy10 Zzzz6 Phag56 Zzzz8 Saur70 Zzzz8 Saur12 Zzzz6 Deva32 Kali46 Zyyy1",
   "Kali1 Rjng36 Zzzz11 Rjng1 Hang29 Zzzz3 Java78 Zzzz1 Zyyy1 Java10 Zzzz4 Java2 Mymr31 Zzzz1",
   "Cham55 Zzzz9 Cham14 Zzzz2 Cham10 Zzzz2 Cham4 Mymr32 Tavt67 Zzzz24 Tavt5 Mtei23 Zzzz10 Ethi6",
   "Zzzz2 Ethi6 Zzzz2 Ethi6 Zzzz9 Ethi7 Zzzz1 Ethi7 Zzzz1 Latn43 Zyyy1 Latn9 Grek1 Latn4 Zyyy2",
   "Zzzz4 Cher80 Mtei46 Zzzz2 Mtei10 Zzzz6 Hang11172 Zzzz12 Hang23 Zzzz4 Hang49 Zzzz8452",
   "Hani366 Zzzz2 Hani106 Zzzz38 Latn7 Zzzz12 Armn5 Zzzz5 Hebr26 Zzzz1 Hebr5 Zzzz1 Hebr1 Zzzz1",
   "Hebr2 Zzzz1 Hebr2 Zzzz1 Hebr10 Arab115 Zzzz16 Arab363 Zyyy2 Arab80 Zzzz2 Arab54 Zzzz7 Arab1",
   "Zzzz32 Arab16 Zinh16 Zyyy10 Zzzz6 Zinh14 Cyrl2 Zyyy35 Zzzz1 Zyyy19 Zzzz1 Zyyy4 Zzzz4 Arab5",
   "Zzzz1 Arab135 Zzzz2 Zyyy1 Zzzz1 Zyyy32 Latn26 Zyyy6 Latn26 Zyyy11 Kana10 Zyyy1 Kana45 Zyyy2",
   "Hang31 Zzzz3 Hang6 Zzzz2 Hang6 Zzzz2 Hang6 Zzzz2 Hang3 Zzzz3 Zyyy7 Zzzz1 Zyyy7 Zzzz10 Zyyy5",
   "Zzzz2 Linb12 Zzzz1 Linb26 Zzzz1 Linb19 Zzzz1 Linb2 Zzzz1 Linb15 Zzzz2 Linb14 Zzzz34 Linb123",
   "Zzzz5 Zyyy3 Zzzz4 Zyyy45 Zzzz3 Zyyy9 Grek79 Zzzz1 Zyyy13 Zzzz3 Grek1 Zzzz47 Zyyy45 Zinh1",
   "Zzzz130 Lyci29 Zzzz3 Cari49 Zzzz15 Zinh1 Zyyy27 Zzzz4 Ital36 Zzzz9 Ital3 Goth27 Zzzz5",
   "Perm43 Zzzz5 Ugar30 Zzzz1 Ugar1 Xpeo36 Zzzz4 Xpeo14 Zzzz42 Dsrt80 Shaw48 Osma30 Zzzz2",
   "Osma10 Zzzz6 Osge36 Zzzz4 Osge36 Zzzz4 Elba40 Zzzz8 Aghb52 Zzzz11 Aghb1 Vith11 Zzzz1 Vith15",
   "Zzzz1 Vith7 Zzzz1 Vith2 Zzzz1 Vith11 Zzzz1 Vith15 Zzzz1 Vith7 Zzzz1 Vith2 Zzzz3 Todr52",
   "Zzzz12 Lina311 Zzzz9 Lina22 Zzzz10 Lina8 Zzzz24 Latn6 Zzzz1 Latn42 Zzzz1 Latn9 Zzzz69 Cprt6",
   "Zzzz2 Cprt1 Zzzz1 Cprt44 Zzzz1 Cprt2 Zzzz3 Cprt1 Zzzz2 Cprt1 Armi22 Zzzz1 Armi9 Palm32",
   "Nbat31 Zzzz8 Nbat9 Zzzz48 Hatr19 Zzzz1 Hatr2 Zzzz5 Hatr5 Phnx28 Zzzz3 Phnx1 Lydi26 Zzzz5",
   "Lydi1 Zzzz64 Mero32 Merc24 Zzzz4 Merc20 Zzzz2 Merc46 Khar4 Zzzz1 Khar2 Zzzz5 Khar8 Zzzz1",
   "Khar3 Zzzz1 Khar29 Zzzz2 Khar3 Zzzz4 Khar10 Zzzz7 Khar9 Zzzz7 Sarb32 Narb32 Zzzz32 Mani39",
   "Zzzz4 Mani12 Zzzz9 Avst54 Zzzz3 Avst7 Prti22 Zzzz2 Prti8 Phli19 Zzzz5 Phli8 Phlp18 Zzzz7",
   "Phlp4 Zzzz12 Phlp7 Zzzz80 Orkh73 Zzzz55 Hung51 Zzzz13 Hung51 Zzzz7 Hung6 Rohg40 Zzzz8",
   "Rohg10 Zzzz6 Gara38 Zzzz3 Gara29 Zzzz8 Gara2 Zzzz208 Arab31 Zzzz1 Yezi42 Zzzz1 Yezi3 Zzzz2",
   "Yezi2 Zzzz16 Arab3 Zzzz55 Arab4 Sogo40 Zzzz8 Sogd42 Zzzz22 Ougr26 Zzzz38 Chrs28 Zzzz20",
   "Elym23 Zzzz9 Brah78 Zzzz4 Brah36 Zzzz9 Brah1 Kthi67 Zzzz10 Kthi1 Zzzz2 Sora25 Zzzz7 Sora10",
   "Zzzz6 Cakm53 Zzzz1 Cakm18 Zzzz8 Mahj39 Zzzz9 Shrd96 Zzzz1 Sinh20 Zzzz11 Khoj18 Zzzz1 Khoj47",
   "Zzzz62 Mult7 Zzzz1 Mult1 Zzzz1 Mult4 Zzzz1 Mult15 Zzzz1 Mult11 Zzzz6 Sind59 Zzzz5 Sind10",
   "Zzzz6 Gran4 Zzzz1 Gran8 Zzzz2 Gran2 Zzzz2 Gran22 Zzzz1 Gran7 Zzzz1 Gran2 Zzzz1 Gran5 Zzzz1",
   "Zinh1 Gran9 Zzzz2 Gran2 Zzzz2 Gran3 Zzzz2 Gran1 Zzzz6 Gran1 Zzzz5 Gran7 Zzzz2 Gran7 Zzzz3",
   "Gran5 Zzzz11 Tutg10 Zzzz1 Tutg1 Zzzz2 Tutg1 Zzzz1 Tutg38 Zzzz1 Tutg10 Zzzz1 Tutg1 Zzzz2",
   "Tutg1 Zzzz1 Tutg4 Zzzz1 Tutg10 Zzzz1 Tutg2 Zzzz8 Tutg2 Zzzz29 Newa92 Zzzz1 Newa5 Zzzz30",
   "Tirh72 Zzzz8 Tirh10 Zzzz166 Sidd54 Zzzz2 Sidd38 Zzzz34 Modi69 Zzzz11 Modi10 Zzzz6 Mong13",
   "Zzzz19 Takr58 Zzzz6 Takr10 Zzzz6 Mymr20 Zzzz28 Ahom27 Zzzz2 Ahom15 Zzzz4 Ahom23 Zzzz185",
   "Dogr60 Zzzz100 Wara83 Zzzz12 Wara1 Diak7 Zzzz2 Diak1 Zzzz2 Diak8 Zzzz1 Diak2 Zzzz1 Diak30",
   "Zzzz1 Diak2 Zzzz2 Diak12 Zzzz9 Diak10 Zzzz70 Nand8 Zzzz2 Nand46 Zzzz2 Nand11 Zzzz27 Zanb72",
   "Zzzz8 Soyo83 Zzzz13 Cans16 Pauc57 Zzzz7 Deva10 Zzzz182 Sunu34 Zzzz14 Sunu10 Zzzz6 Bhks9",
   "Zzzz1 Bhks45 Zzzz1 Bhks14 Zzzz10 Bhks29 Zzzz3 Marc32 Zzzz2 Marc22 Zzzz1 Marc14 Zzzz73 Gonm7",
   "Zzzz1 Gonm2 Zzzz1 Gonm44 Zzzz3 Gonm1 Zzzz1 Gonm2 Zzzz1 Gonm9 Zzzz8 Gonm10 Zzzz6 Gong6 Zzzz1",
   "Gong2 Zzzz1 Gong37 Zzzz1 Gong2 Zzzz1 Gong6 Zzzz7 Gong10 Zzzz310 Maka25 Zzzz7 Kawi17 Zzzz1",
   "Kawi41 Zzzz3 Kawi29 Zzzz85 Lisu1 Zzzz15 Taml50 Zzzz13 Taml1 Xsux922 Zzzz102 Xsux111 Zzzz1",
   "Xsux5 Zzzz11 Xsux196 Zzzz2636 Cpmn99 Zzzz13 Egyp1110 Zzzz10 Egyp3995 Zzzz5 Hluw583 Zzzz6841",
   "Gukh58 Zzzz1734 Bamu569 Zzzz7 Mroo31 Zzzz1 Mroo10 Zzzz4 Mroo2 Tnsa79 Zzzz1 Tnsa10 Zzzz6",
   "Bass30 Zzzz2 Bass6 Zzzz10 Hmng70 Zzzz10 Hmng10 Zzzz1 Hmng7 Zzzz1 Hmng21 Zzzz5 Hmng19",
   "Zzzz432 Krai58 Zzzz198 Medf91 Zzzz101 Plrd75 Zzzz4 Plrd57 Zzzz7 Plrd17 Zzzz64 Tang1 Nshu1",
   "Hani2 Kits1 Zzzz11 Hani2 Zzzz14 Tang6136 Zzzz8 Tang768 Kits470 Zzzz41 Kits1 Tang9 Zzzz8935",
   "Kana4 Zzzz1 Kana7 Zzzz1 Kana2 Zzzz1 Kana1 Hira287 Kana3 Zzzz15 Hira1 Zzzz29 Hira3 Zzzz2",
   "Kana1 Zzzz14 Kana4 Zzzz8 Nshu396 Zzzz2308 Dupl107 Zzzz5 Dupl13 Zzzz3 Dupl9 Zzzz7 Dupl10",
   "Zzzz2 Dupl4 Zyyy4 Zzzz3932 Zyyy250 Zzzz6 Zyyy436 Zzzz76 Zinh46 Zzzz2 Zinh23 Zzzz9 Zyyy116",
   "Zzzz60 Zyyy246 Zzzz10 Zyyy39 Zzzz2 Zyyy62 Zinh3 Zyyy17 Zinh8 Zyyy2 Zinh7 Zyyy30 Zinh4",
   "Zyyy61 Zzzz21 Grek70 Zzzz122 Zyyy20 Zzzz12 Zyyy20 Zzzz12 Zyyy87 Zzzz9 Zyyy25 Zzzz135 Zyyy85",
   "Zzzz1 Zyyy71 Zzzz1 Zyyy2 Zzzz2 Zyyy1 Zzzz2 Zyyy2 Zzzz2 Zyyy4 Zzzz1 Zyyy12 Zzzz1 Zyyy1 Zzzz1",
   "Zyyy7 Zzzz1 Zyyy65 Zzzz1 Zyyy4 Zzzz2 Zyyy8 Zzzz1 Zyyy7 Zzzz1 Zyyy28 Zzzz1 Zyyy4 Zzzz1 Zyyy5",
   "Zzzz1 Zyyy1 Zzzz3 Zyyy7 Zzzz1 Zyyy340 Zzzz2 Zyyy292 Zzzz2 Zyyy50 Sgnw652 Zzzz15 Sgnw5 Zzzz1",
   "Sgnw15 Zzzz1104 Latn31 Zzzz6 Latn6 Zzzz213 Glag7 Zzzz1 Glag17 Zzzz2 Glag7 Zzzz1 Glag2 Zzzz1",
   "Glag5 Zzzz5 Cyrl62 Zzzz33 Cyrl1 Zzzz112 Hmnp45 Zzzz3 Hmnp14 Zzzz2 Hmnp10 Zzzz4 Hmnp2",
   "Zzzz320 Toto31 Zzzz17 Wcho58 Zzzz5 Wcho1 Zzzz464 Nagm42 Zzzz214 Onao43 Zzzz4 Onao1 Zzzz480",
   "Ethi7 Zzzz1 Ethi4 Zzzz1 Ethi2 Zzzz1 Ethi15 Zzzz1 Mend197 Zzzz2 Mend16 Zzzz41 Adlm76 Zzzz4",
   "Adlm10 Zzzz4 Adlm2 Zzzz785 Zyyy68 Zzzz76 Zyyy61 Zzzz194 Arab4 Zzzz1 Arab27 Zzzz1 Arab2",
   "Zzzz1 Arab1 Zzzz2 Arab1 Zzzz1 Arab10 Zzzz1 Arab4 Zzzz1 Arab1 Zzzz1 Arab1 Zzzz6 Arab1 Zzzz4",
   "Arab1 Zzzz1 Arab1 Zzzz1 Arab1 Zzzz1 Arab3 Zzzz1 Arab2 Zzzz1 Arab1 Zzzz2 Arab1 Zzzz1 Arab1",
   "Zzzz1 Arab1 Zzzz1 Arab1 Zzzz1 Arab1 Zzzz1 Arab2 Zzzz1 Arab1 Zzzz2 Arab4 Zzzz1 Arab7 Zzzz1",
   "Arab4 Zzzz1 Arab4 Zzzz1 Arab1 Zzzz1 Arab10 Zzzz1 Arab17 Zzzz5 Arab3 Zzzz1 Arab5 Zzzz1",
   "Arab17 Zzzz52 Arab2 Zzzz270 Zyyy44 Zzzz4 Zyyy100 Zzzz12 Zyyy15 Zzzz2 Zyyy15 Zzzz1 Zyyy15",
   "Zzzz1 Zyyy37 Zzzz10 Zyyy174 Zzzz56 Zyyy26 Hira1 Zyyy2 Zzzz13 Zyyy44 Zzzz4 Zyyy9 Zzzz7 Zyyy2",
   "Zzzz14 Zyyy6 Zzzz154 Zyyy984 Zzzz4 Zyyy17 Zzzz3 Zyyy13 Zzzz3 Zyyy119 Zzzz4 Zyyy95 Zzzz6",
   "Zyyy12 Zzzz4 Zyyy1 Zzzz15 Zyyy12 Zzzz4 Zyyy56 Zzzz8 Zyyy10 Zzzz6 Zyyy40 Zzzz8 Zyyy30 Zzzz2",
   "Zyyy12 Zzzz4 Zyyy2 Zzzz62 Zyyy340 Zzzz12 Zyyy14 Zzzz2 Zyyy13 Zzzz3 Zyyy10 Zzzz5 Zyyy56",
   "Zzzz7 Zyyy15 Zzzz2 Zyyy11 Zzzz6 Zyyy9 Zzzz7 Zyyy147 Zzzz1 Zyyy102 Zzzz1030 Hani42720 Zzzz32",
   "Hani4154 Zzzz6 Hani222 Zzzz2 Hani5762 Zzzz14 Hani7473 Zzzz15 Hani622 Zzzz2466 Hani542",
   "Zzzz1506 Hani4939 Zzzz5 Hani4192 Zzzz711761 Zyyy1 Zzzz30 Zyyy96 Zzzz128 Zinh240 Zzzz196112"]

/-- The extensions of successive code points, as of version 16.0: names of four letters in a row. -/
def extensionTable : List String :=
  [",183 AvstCariCoptDuplElbaGeorGlagGongGothGrekHaniLatnLydiMahjPermShaw,1 ,516",
   "BengCyrlDevaLatnLisuThaiToto,1 ,10 BopoLatn,1 ,1 BopoLatn,3 ,1 LatnLisu,1 ,9 LatnThai,1 ,1",
   "BopoLatn,1 ,38 CherCoptCyrlGrekLatnPermSunuTale,1 CherCyrlGrekLatnOsgeSunuTaleTodr,1",
   "CherCyrlLatnTfng,1 GlagLatnSunuSyrcThai,1 AghbCherCoptCyrlGothGrekLatnOsgeSyrcTfngTodr,1",
   "CoptElbaGlagGothKanaLatn,1 CyrlGrekLatnPermTfng,1 CoptDuplHebrLatnPermSyrcTaleTfngTodr,1",
   "ArmnCyrlDuplGothGrekHebrLatnPermSyrcTaleTfng,1 LatnTfng,1 DuplLatnSyrc,1 CherCyrlLatnOsge,1",
   "CherLatnTale,1 LatnSunu,1 EthiLatn,1 ,1 LatnSunu,1 CyrlLatnTodr,1 ,1 GrekLatnPermTodr,1 ,15",
   "CherDuplKanaLatnSyrcTfng,1 CherDuplLatnSyrc,1 LatnSyrc,1 ,7 LatnSunuSyrc,1 LatnSyrc,1 ,1",
   "CherLatnSyrc,1 AghbCherGothLatnSunuSyrcThai,1 ,16 Grek,1 ,2 Grek,1 ,18 LatnOsge,1 ,5",
   "AghbLatnTodr,1 ,4 Latn,13 ,4 CoptGrek,2 ,269 CyrlPerm,1 CyrlGlag,1 CyrlLatn,2 CyrlGlag,1",
   ",257 ArmnGeorGlag,1 ,130 ArabGaraNkooRohgSyrcThaaYezi,1 ,14 ArabGaraNkooRohgSyrcThaaYezi,1",
   "ArabSyrcThaa,1 ,2 AdlmArabGaraNkooRohgSyrcThaaYezi,1 ,32",
   "AdlmArabMandManiOugrPhlpRohgSogdSyrc,1 ,10 ArabSyrc,11 ,10 ArabThaaYezi,10 ,6 ArabSyrc,1",
   ",99 ArabRohg,1 ,636 BengDevaGranGujrGuruKndaLatnMlymNandNewaOryaShrdTamlTeluTirh,1",
   "BengDevaGranGujrGuruKndaLatnMlymNewaOryaTamlTeluTirh,1 ,17",
   "BengDevaDogrGongGonmGranGujrGuruKndaMahjMlymNandOnaoOryaSindSinhSyloTakrTamlTeluTirh,1",
   "BengDevaDogrGongGonmGranGujrGukhGuruKndaLimbMahjMlymNandOnaoOryaSindSinhSyloTakrTamlTeluTirh,1",
   "DevaDogrKthiMahj,10 ,118 BengCakmSylo,10 ,118 GuruMult,10 ,118 GujrKhoj,10 ,246 GranTaml,14",
   ",242 KndaNandTutg,10 ,848 CakmMymrTale,10 ,177 GeorGlagLatn,1 ,1519 Runr,3 ,71",
   "BuhdHanoTagbTglg,2 ,203 MongPhag,2 ,1 MongPhag,1 ,1226 BengDevaGranKnda,1 Deva,1",
   "BengDevaGranKnda,1 DevaGranKnda,1 Deva,1 BengDevaNewaTeluTirh,1 BengDevaTelu,1",
   "DevaNewaShrd,1 BengDevaNewaTelu,1 DevaShrd,1 DevaKndaMlymOryaTamlTelu,1 Deva,1 DevaShrd,2",
   "Deva,2 DevaShrd,1 BengDeva,1 DevaNewaTirh,1 Deva,6 DevaNandNewa,1 BengDevaShrd,1 DevaNewa,1",
   "Deva,1 BengDevaNewaShrd,1 Deva,4 BengDevaGranKndaMlymNandOryaSinhTeluTirhTutg,1 DevaGran,1",
   "DevaGranKndaTutg,1 BengDeva,2 Beng,1 DevaGran,2 Nand,1 ,197 Grek,2 ,54 CyrlLatnSyrc,1 ,1",
   "Syrc,1 ,564 LatnMongPhag,1 ,31 AdlmArab,1 ,10 CariGeorGlagHungLyciOrkh,1 ,2",
   "CariGrekHungMero,1 ,146 DevaGranLatn,1 ,3366 CoptLatn,1 ,24 AvstOrkh,1",
   "AvstCariGeorHungKthiLydiSamr,1 ,10 Dupl,1 ,4 AdlmArabHung,1 ,1 CyrlGlag,1 ,428 HaniTang,16",
   ",1 BopoHangHaniHiraKanaMongYiii,1 BopoHangHaniHiraKanaMongPhagYiii,1 BopoHangHaniHiraKana,1",
   ",2 Hani,1 ,1 BopoHangHaniHiraKanaMongTibtYiii,2 BopoHangHaniHiraKanaLisuMongTibtYiii,2",
   "BopoHangHaniHiraKanaYiii,6 ,1 BopoHangHaniHiraKana,1 BopoHangHaniHiraKanaYiii,8",
   "BopoHangHaniHiraKana,4 ,10 BopoHani,4 ,2 BopoHangHaniHiraKana,1 HiraKana,5 ,1",
   "BopoHangHaniHiraKana,1 ,4 HaniHiraKana,2 Hani,2 ,89 HiraKana,4 ,3 HiraKana,1 ,90",
   "BopoHangHaniHiraKanaYiii,1 HiraKana,1 ,147 Hani,16 ,32 Hani,38 ,9 HaniTang,1 ,48 Hani,40",
   ",56 Hani,49 ,15 Hani,12 ,51 Hani,1 ,88 Hani,25 ,10 Hani,5 ,96 Hani,31 ,29296 CyrlGlag,1",
   ",144 HaniLatn,8 ,296 DevaDogrGujrGuruKhojKndaKthiMahjMlymModiNandShrdSindTakrTirhTutg,3",
   "DevaDogrGujrGuruKhojKndaKthiMahjModiNandShrdSindTakrTirhTutg,3",
   "DevaDogrGujrGuruKhojKthiMahjModiSindTakrTirh,2",
   "DevaDogrGujrGuruKhojKthiMahjModiShrdSindTakrTirh,1",
   "DevaDogrGujrGuruKhojKthiMahjModiSindTakrTirh,1 ,183 BengDevaTutg,1 ,1 DevaTaml,1 ,58",
   "KaliLatnMymr,1 ,160 BugiJava,1 ,21358 ArabNkoo,2 ,178 ArabThaa,1 ,10 ArabThaa,1 ,71",
   "BopoHangHaniHiraKana,2 ,282 BopoHangHaniHiraKanaYiii,5 ,10 HiraKana,1 ,45 HiraKana,2 ,352",
   "CpmnCprtLinb,2 CprtLinb,1 ,4 CprtLinaLinb,45 ,3 CprtLinb,9 ,416 ArabCopt,28 ,2038",
   "ManiOugr,1 ,2062 GranTaml,1 ,1 GranTaml,1 ,55 GranTaml,2 ,3219 GranTaml,2 ,1 GranTaml,1",
   ",40140 Dupl,4 ,5820 Hani,18 ,7902 Hani,2 ,986542"]

/-- The names of every script, the code of four letters first. -/
def names : List (List String) := [
  ["Adlm", "adlm", "adlam"],
  ["Aghb", "aghb", "caucasianalbanian"],
  ["Ahom", "ahom"],
  ["Arab", "arab", "arabic"],
  ["Armi", "armi", "imperialaramaic"],
  ["Armn", "armn", "armenian"],
  ["Avst", "avst", "avestan"],
  ["Bali", "bali", "balinese"],
  ["Bamu", "bamu", "bamum"],
  ["Bass", "bass", "bassavah"],
  ["Batk", "batk", "batak"],
  ["Beng", "beng", "bengali"],
  ["Bhks", "bhks", "bhaiksuki"],
  ["Bopo", "bopo", "bopomofo"],
  ["Brah", "brah", "brahmi"],
  ["Brai", "brai", "braille"],
  ["Bugi", "bugi", "buginese"],
  ["Buhd", "buhd", "buhid"],
  ["Cakm", "cakm", "chakma"],
  ["Cans", "cans", "canadianaboriginal"],
  ["Cari", "cari", "carian"],
  ["Cham", "cham"],
  ["Cher", "cher", "cherokee"],
  ["Chrs", "chrs", "chorasmian"],
  ["Copt", "copt", "coptic", "qaac"],
  ["Cpmn", "cpmn", "cyprominoan"],
  ["Cprt", "cprt", "cypriot"],
  ["Cyrl", "cyrl", "cyrillic"],
  ["Deva", "deva", "devanagari"],
  ["Diak", "diak", "divesakuru"],
  ["Dogr", "dogr", "dogra"],
  ["Dsrt", "dsrt", "deseret"],
  ["Dupl", "dupl", "duployan"],
  ["Egyp", "egyp", "egyptianhieroglyphs"],
  ["Elba", "elba", "elbasan"],
  ["Elym", "elym", "elymaic"],
  ["Ethi", "ethi", "ethiopic"],
  ["Gara", "gara", "garay"],
  ["Geor", "geor", "georgian"],
  ["Glag", "glag", "glagolitic"],
  ["Gong", "gong", "gunjalagondi"],
  ["Gonm", "gonm", "masaramgondi"],
  ["Goth", "goth", "gothic"],
  ["Gran", "gran", "grantha"],
  ["Grek", "grek", "greek"],
  ["Gujr", "gujr", "gujarati"],
  ["Gukh", "gukh", "gurungkhema"],
  ["Guru", "guru", "gurmukhi"],
  ["Hang", "hang", "hangul"],
  ["Hani", "hani", "han"],
  ["Hano", "hano", "hanunoo"],
  ["Hatr", "hatr", "hatran"],
  ["Hebr", "hebr", "hebrew"],
  ["Hira", "hira", "hiragana"],
  ["Hluw", "hluw", "anatolianhieroglyphs"],
  ["Hmng", "hmng", "pahawhhmong"],
  ["Hmnp", "hmnp", "nyiakengpuachuehmong"],
  ["Hung", "hung", "oldhungarian"],
  ["Ital", "ital", "olditalic"],
  ["Java", "java", "javanese"],
  ["Kali", "kali", "kayahli"],
  ["Kana", "kana", "katakana"],
  ["Kawi", "kawi"],
  ["Khar", "khar", "kharoshthi"],
  ["Khmr", "khmr", "khmer"],
  ["Khoj", "khoj", "khojki"],
  ["Kits", "kits", "khitansmallscript"],
  ["Knda", "knda", "kannada"],
  ["Krai", "krai", "kiratrai"],
  ["Kthi", "kthi", "kaithi"],
  ["Lana", "lana", "taitham"],
  ["Laoo", "laoo", "lao"],
  ["Latn", "latn", "latin"],
  ["Lepc", "lepc", "lepcha"],
  ["Limb", "limb", "limbu"],
  ["Lina", "lina", "lineara"],
  ["Linb", "linb", "linearb"],
  ["Lisu", "lisu"],
  ["Lyci", "lyci", "lycian"],
  ["Lydi", "lydi", "lydian"],
  ["Mahj", "mahj", "mahajani"],
  ["Maka", "maka", "makasar"],
  ["Mand", "mand", "mandaic"],
  ["Mani", "mani", "manichaean"],
  ["Marc", "marc", "marchen"],
  ["Medf", "medf", "medefaidrin"],
  ["Mend", "mend", "mendekikakui"],
  ["Merc", "merc", "meroiticcursive"],
  ["Mero", "mero", "meroitichieroglyphs"],
  ["Mlym", "mlym", "malayalam"],
  ["Modi", "modi"],
  ["Mong", "mong", "mongolian"],
  ["Mroo", "mroo", "mro"],
  ["Mtei", "mtei", "meeteimayek"],
  ["Mult", "mult", "multani"],
  ["Mymr", "mymr", "myanmar"],
  ["Nagm", "nagm", "nagmundari"],
  ["Nand", "nand", "nandinagari"],
  ["Narb", "narb", "oldnortharabian"],
  ["Nbat", "nbat", "nabataean"],
  ["Newa", "newa"],
  ["Nkoo", "nkoo", "nko"],
  ["Nshu", "nshu", "nushu"],
  ["Ogam", "ogam", "ogham"],
  ["Olck", "olck", "olchiki"],
  ["Onao", "onao", "olonal"],
  ["Orkh", "orkh", "oldturkic"],
  ["Orya", "orya", "oriya"],
  ["Osge", "osge", "osage"],
  ["Osma", "osma", "osmanya"],
  ["Ougr", "ougr", "olduyghur"],
  ["Palm", "palm", "palmyrene"],
  ["Pauc", "pauc", "paucinhau"],
  ["Perm", "perm", "oldpermic"],
  ["Phag", "phag", "phagspa"],
  ["Phli", "phli", "inscriptionalpahlavi"],
  ["Phlp", "phlp", "psalterpahlavi"],
  ["Phnx", "phnx", "phoenician"],
  ["Plrd", "plrd", "miao"],
  ["Prti", "prti", "inscriptionalparthian"],
  ["Rjng", "rjng", "rejang"],
  ["Rohg", "rohg", "hanifirohingya"],
  ["Runr", "runr", "runic"],
  ["Samr", "samr", "samaritan"],
  ["Sarb", "sarb", "oldsoutharabian"],
  ["Saur", "saur", "saurashtra"],
  ["Sgnw", "sgnw", "signwriting"],
  ["Shaw", "shaw", "shavian"],
  ["Shrd", "shrd", "sharada"],
  ["Sidd", "sidd", "siddham"],
  ["Sind", "sind", "khudawadi"],
  ["Sinh", "sinh", "sinhala"],
  ["Sogd", "sogd", "sogdian"],
  ["Sogo", "sogo", "oldsogdian"],
  ["Sora", "sora", "sorasompeng"],
  ["Soyo", "soyo", "soyombo"],
  ["Sund", "sund", "sundanese"],
  ["Sunu", "sunu", "sunuwar"],
  ["Sylo", "sylo", "sylotinagri"],
  ["Syrc", "syrc", "syriac"],
  ["Tagb", "tagb", "tagbanwa"],
  ["Takr", "takr", "takri"],
  ["Tale", "tale", "taile"],
  ["Talu", "talu", "newtailue"],
  ["Taml", "taml", "tamil"],
  ["Tang", "tang", "tangut"],
  ["Tavt", "tavt", "taiviet"],
  ["Telu", "telu", "telugu"],
  ["Tfng", "tfng", "tifinagh"],
  ["Tglg", "tglg", "tagalog"],
  ["Thaa", "thaa", "thaana"],
  ["Thai", "thai"],
  ["Tibt", "tibt", "tibetan"],
  ["Tirh", "tirh", "tirhuta"],
  ["Tnsa", "tnsa", "tangsa"],
  ["Todr", "todr", "todhri"],
  ["Toto", "toto"],
  ["Tutg", "tutg", "tulutigalari"],
  ["Ugar", "ugar", "ugaritic"],
  ["Vaii", "vaii", "vai"],
  ["Vith", "vith", "vithkuqi"],
  ["Wara", "wara", "warangciti"],
  ["Wcho", "wcho", "wancho"],
  ["Xpeo", "xpeo", "oldpersian"],
  ["Xsux", "xsux", "cuneiform"],
  ["Yezi", "yezi", "yezidi"],
  ["Yiii", "yiii", "yi"],
  ["Zanb", "zanb", "zanabazarsquare"],
  ["Zinh", "zinh", "inherited", "qaai"],
  ["Zyyy", "zyyy", "common"]]

def code? (name : String) : Option String := do
  let entry ← names.find? (·.tail.contains name)
  entry.head?

def runs : List (String × Nat × Nat) := readRuns table

def extensionRuns : List (List String × Nat × Nat) :=
  (readRuns extensionTable).map fun r => (codes r.1.toList, r.2)
where
  codes : List Char → List String
    | a :: b :: c :: d :: rest => String.ofList [a, b, c, d] :: codes rest
    | _ => []

def find? (name : String) : Option CharSet := do
  let code ← code? name
  pure (.ofRanges ((runs.filter fun r => r.1 == code).map (·.2)))

def findExtension? (name : String) : Option CharSet := do
  let code ← code? name
  let own := CharSet.ofRanges ((runs.filter fun r => r.1 == code).map (·.2))
  let listed := extensionRuns.filter fun r => !r.1.isEmpty
  let sharing := CharSet.ofRanges ((listed.filter fun r => r.1.contains code).map (·.2))
  pure ((own.diff (.ofRanges (listed.map (·.2)))).union sharing)

end LearningMap.Unicode.Script
