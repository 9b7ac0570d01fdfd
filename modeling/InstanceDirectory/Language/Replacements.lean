/-!
# Replacements of language and territory codes

Deprecated, three-letter and grandfathered codes have a preferred form.  Keys are in lower
case; a language key may be a whole tag or a language joined to an extended language.
-/

namespace InstanceDirectory
namespace Language

/-- Preferred forms of languages and of whole tags. -/
def languageReplacements : List (String × String) := [
    ("aa-saaho", "ssy"), ("aam", "aas"), ("aar", "aa"), ("abk", "ab"), ("adp", "dz"),
    ("afr", "af"), ("agp", "apf"), ("ais", "ami"), ("aka", "ak"), ("alb", "sq"), ("amh", "am"),
    ("ara", "ar"), ("arg", "an"), ("arm", "hy"), ("art-lojban", "jbo"), ("asd", "snz"),
    ("asm", "as"), ("aue", "ktz"), ("ava", "av"), ("ave", "ae"), ("aym", "ay"), ("ayx", "nun"),
    ("aze", "az"), ("bak", "ba"), ("bam", "bm"), ("baq", "eu"), ("baz", "nvo"), ("bel", "be"),
    ("ben", "bn"), ("bgm", "bcg"), ("bhk", "fbl"), ("bic", "bir"), ("bih", "bh"), ("bis", "bi"),
    ("bjd", "drl"), ("bjq", "bzc"), ("bkb", "ebk"), ("blg", "iba"), ("bod", "bo"), ("bos", "bs"),
    ("bre", "br"), ("btb", "beb"), ("bul", "bg"), ("bur", "my"), ("cat", "ca"), ("ccq", "rki"),
    ("cel-gaulish", "xtg"), ("ces", "cs"), ("cha", "ch"), ("che", "ce"), ("chi", "zh"),
    ("chu", "cu"), ("chv", "cv"), ("cjr", "mom"), ("cka", "cmr"), ("cmk", "xch"),
    ("cnr", "sr-ME"), ("cor", "kw"), ("cos", "co"), ("coy", "pij"), ("cqu", "quh"), ("cre", "cr"),
    ("cym", "cy"), ("cze", "cs"), ("daf", "dnj"), ("dan", "da"), ("dap", "njz"), ("deu", "de"),
    ("dit", "dif"), ("div", "dv"), ("djl", "dze"), ("dkl", "aqd"), ("drh", "mn"), ("drr", "kzk"),
    ("drw", "fa-AF"), ("dud", "uth"), ("duj", "dwu"), ("dut", "nl"), ("dwl", "dbt"),
    ("dzo", "dz"), ("ell", "el"), ("elp", "amq"), ("en-gb-oed", "en-GB-oxendict"), ("eng", "en"),
    ("epo", "eo"), ("est", "et"), ("eus", "eu"), ("ewe", "ee"), ("fao", "fo"), ("fas", "fa"),
    ("fij", "fj"), ("fin", "fi"), ("fra", "fr"), ("fre", "fr"), ("fry", "fy"), ("ful", "ff"),
    ("gav", "dev"), ("gbc", "wny"), ("geo", "ka"), ("ger", "de"), ("gfx", "vaj"), ("ggn", "gvr"),
    ("ggo", "esg"), ("ggr", "gtu"), ("gio", "aou"), ("gla", "gd"), ("gle", "ga"), ("glg", "gl"),
    ("gli", "kzk"), ("glv", "gv"), ("gre", "el"), ("grn", "gn"), ("gti", "nyc"), ("guj", "gu"),
    ("guv", "duz"), ("hat", "ht"), ("hau", "ha"), ("hbs", "sr-Latn"), ("heb", "he"),
    ("her", "hz"), ("hin", "hi"), ("hmo", "ho"), ("hrr", "jal"), ("hrv", "hr"), ("hun", "hu"),
    ("hy-arevmda", "hyw"), ("hye", "hy"), ("i-ami", "ami"), ("i-bnn", "bnn"),
    ("i-default", "en-x-i-default"), ("i-enochian", "und-x-i-enochian"), ("i-hak", "hak"),
    ("i-klingon", "tlh"), ("i-lux", "lb"), ("i-mingo", "see-x-i-mingo"), ("i-navajo", "nv"),
    ("i-pwn", "pwn"), ("i-tao", "tao"), ("i-tay", "tay"), ("i-tsu", "tsu"), ("ibi", "opa"),
    ("ibo", "ig"), ("ice", "is"), ("ido", "io"), ("iii", "ii"), ("iku", "iu"), ("ile", "ie"),
    ("ill", "ilm"), ("ilw", "gal"), ("in", "id"), ("ina", "ia"), ("ind", "id"), ("ipk", "ik"),
    ("isl", "is"), ("ita", "it"), ("iw", "he"), ("izi", "eza"), ("jar", "jgk"), ("jav", "jv"),
    ("jeg", "oyb"), ("ji", "yi"), ("jpn", "ja"), ("jw", "jv"), ("kal", "kl"), ("kan", "kn"),
    ("kas", "ks"), ("kat", "ka"), ("kau", "kr"), ("kaz", "kk"), ("kdv", "zkd"), ("kgc", "tdf"),
    ("kgd", "ncq"), ("kgh", "kml"), ("khm", "km"), ("kik", "ki"), ("kin", "rw"), ("kir", "ky"),
    ("koj", "kwv"), ("kom", "kv"), ("kon", "kg"), ("kor", "ko"), ("kpp", "jkm"), ("krm", "bmf"),
    ("ktr", "dtp"), ("kua", "kj"), ("kur", "ku"), ("kvs", "gdj"), ("kwq", "yam"), ("kxe", "tvd"),
    ("kxl", "kru"), ("kzh", "dgl"), ("kzj", "dtp"), ("kzt", "dtp"), ("lao", "lo"), ("lat", "la"),
    ("lav", "lv"), ("leg", "enl"), ("lii", "raq"), ("lim", "li"), ("lin", "ln"), ("lit", "lt"),
    ("llo", "ngt"), ("lmm", "rmx"), ("ltz", "lb"), ("lub", "lu"), ("lug", "lg"), ("mac", "mk"),
    ("mah", "mh"), ("mal", "ml"), ("mao", "mi"), ("mar", "mr"), ("may", "ms"), ("meg", "cir"),
    ("mgx", "jbk"), ("mkd", "mk"), ("mlg", "mg"), ("mlt", "mt"), ("mnt", "wnn"), ("mo", "ro"),
    ("mof", "xnt"), ("mol", "mo"), ("mon", "mn"), ("mri", "mi"), ("msa", "ms"), ("mst", "mry"),
    ("mwd", "dmw"), ("mwj", "vaj"), ("mya", "my"), ("myd", "aog"), ("myt", "mry"), ("nad", "xny"),
    ("nau", "na"), ("nav", "nv"), ("nbf", "nru"), ("nbl", "nr"), ("nbx", "ekc"), ("ncp", "kdz"),
    ("nde", "nd"), ("ndo", "ng"), ("nep", "ne"), ("nld", "nl"), ("nln", "azd"), ("nlr", "nrk"),
    ("nno", "nn"), ("nns", "nbr"), ("nnx", "ngv"), ("no-bok", "nb"), ("no-bokmal", "nb"),
    ("no-nyn", "nn"), ("no-nynorsk", "nn"), ("nob", "nb"), ("noo", "dtd"), ("nor", "no"),
    ("nts", "pij"), ("nxu", "bpp"), ("nya", "ny"), ("oci", "oc"), ("oji", "oj"), ("ori", "or"),
    ("orm", "om"), ("oss", "os"), ("oun", "vaj"), ("pan", "pa"), ("pat", "kxr"), ("pcr", "adx"),
    ("per", "fa"), ("pli", "pi"), ("pmc", "huw"), ("pmu", "phr"), ("pol", "pl"), ("por", "pt"),
    ("ppa", "bfy"), ("ppr", "lcq"), ("prs", "fa-AF"), ("pry", "prt"), ("pus", "ps"),
    ("puz", "pub"), ("que", "qu"), ("rmr", "emx"), ("roh", "rm"), ("ron", "ro"), ("root", "und"),
    ("rum", "ro"), ("run", "rn"), ("rus", "ru"), ("sag", "sg"), ("san", "sa"), ("sap", "aqt"),
    ("sca", "hle"), ("scc", "sr"), ("scr", "hr"), ("sgl", "isk"), ("sgn-be-fr", "sfb"),
    ("sgn-be-nl", "vgt"), ("sgn-br", "bzs"), ("sgn-ch-de", "sgg"), ("sgn-co", "csn"),
    ("sgn-de", "gsg"), ("sgn-dk", "dsl"), ("sgn-es", "ssp"), ("sgn-fr", "fsl"), ("sgn-gb", "bfi"),
    ("sgn-gr", "gss"), ("sgn-ie", "isg"), ("sgn-it", "ise"), ("sgn-jp", "jsl"), ("sgn-mx", "mfs"),
    ("sgn-ni", "ncs"), ("sgn-nl", "dse"), ("sgn-no", "nsi"), ("sgn-pt", "psr"), ("sgn-se", "swl"),
    ("sgn-us", "ase"), ("sgn-za", "sfs"), ("sh", "sr-Latn"), ("sin", "si"), ("skk", "oyb"),
    ("slk", "sk"), ("slo", "sk"), ("slv", "sl"), ("sme", "se"), ("smo", "sm"), ("sna", "sn"),
    ("snd", "sd"), ("som", "so"), ("sot", "st"), ("spa", "es"), ("sqi", "sq"), ("srd", "sc"),
    ("srp", "sr"), ("ssw", "ss"), ("sul", "sgd"), ("sum", "ulw"), ("sun", "su"), ("swa", "sw"),
    ("swc", "sw-CD"), ("swe", "sv"), ("tah", "ty"), ("tam", "ta"), ("tat", "tt"), ("tdu", "dtp"),
    ("tel", "te"), ("tgg", "bjp"), ("tgk", "tg"), ("tgl", "fil"), ("tha", "th"), ("thc", "tpo"),
    ("thw", "ola"), ("thx", "oyb"), ("tib", "bo"), ("tid", "itd"), ("tie", "ras"), ("tir", "ti"),
    ("tkk", "twm"), ("tl", "fil"), ("tlw", "weo"), ("tmp", "tyj"), ("tne", "kak"),
    ("tnf", "fa-AF"), ("ton", "to"), ("tsf", "taj"), ("tsn", "tn"), ("tso", "ts"), ("tuk", "tk"),
    ("tur", "tr"), ("twi", "tw"), ("uig", "ug"), ("ukr", "uk"), ("und-aaland", "und-AX"),
    ("und-arevela", "und"), ("und-arevmda", "und"), ("und-bokmal", "und"), ("und-hakka", "und"),
    ("und-hepburn-heploc", "und-alalc97"), ("und-lojban", "und"), ("und-nynorsk", "und"),
    ("und-saaho", "und"), ("und-xiang", "und"), ("unp", "wro"), ("uok", "ema"), ("urd", "ur"),
    ("uzb", "uz"), ("ven", "ve"), ("vie", "vi"), ("vol", "vo"), ("wel", "cy"), ("wgw", "wgb"),
    ("wit", "nol"), ("wiw", "nwo"), ("wln", "wa"), ("wol", "wo"), ("xba", "cax"), ("xho", "xh"),
    ("xia", "acn"), ("xkh", "waw"), ("xrq", "dmw"), ("xsj", "suj"), ("ybd", "rki"),
    ("yen", "ynq"), ("yid", "yi"), ("yiy", "yrm"), ("yma", "lrr"), ("ymt", "mtm"), ("yor", "yo"),
    ("yos", "zom"), ("yuu", "yug"), ("zh-cmn", "zh"), ("zh-cmn-hans", "zh-Hans"),
    ("zh-cmn-hant", "zh-Hant"), ("zh-gan", "gan"), ("zh-guoyu", "zh"), ("zh-hakka", "hak"),
    ("zh-min", "nan-x-zh-min"), ("zh-min-nan", "nan"), ("zh-wuu", "wuu"), ("zh-xiang", "hsn"),
    ("zh-yue", "yue"), ("zha", "za"), ("zho", "zh"), ("zir", "scv"), ("zul", "zu")
  ]

/-- Preferred forms of territories. -/
def territoryReplacements : List (String × String) := [
    ("004", "AF"), ("008", "AL"), ("010", "AQ"), ("012", "DZ"), ("016", "AS"), ("020", "AD"),
    ("024", "AO"), ("028", "AG"), ("031", "AZ"), ("032", "AR"), ("036", "AU"), ("040", "AT"),
    ("044", "BS"), ("048", "BH"), ("050", "BD"), ("051", "AM"), ("052", "BB"), ("056", "BE"),
    ("060", "BM"), ("062", "034"), ("064", "BT"), ("068", "BO"), ("070", "BA"), ("072", "BW"),
    ("074", "BV"), ("076", "BR"), ("084", "BZ"), ("086", "IO"), ("090", "SB"), ("092", "VG"),
    ("096", "BN"), ("100", "BG"), ("104", "MM"), ("108", "BI"), ("112", "BY"), ("116", "KH"),
    ("120", "CM"), ("124", "CA"), ("132", "CV"), ("136", "KY"), ("140", "CF"), ("144", "LK"),
    ("148", "TD"), ("152", "CL"), ("156", "CN"), ("158", "TW"), ("162", "CX"), ("166", "CC"),
    ("170", "CO"), ("172", "RU"), ("174", "KM"), ("175", "YT"), ("178", "CG"), ("180", "CD"),
    ("184", "CK"), ("188", "CR"), ("191", "HR"), ("192", "CU"), ("196", "CY"), ("200", "CZ"),
    ("203", "CZ"), ("204", "BJ"), ("208", "DK"), ("212", "DM"), ("214", "DO"), ("218", "EC"),
    ("222", "SV"), ("226", "GQ"), ("230", "ET"), ("231", "ET"), ("232", "ER"), ("233", "EE"),
    ("234", "FO"), ("238", "FK"), ("239", "GS"), ("242", "FJ"), ("246", "FI"), ("248", "AX"),
    ("249", "FR"), ("250", "FR"), ("254", "GF"), ("258", "PF"), ("260", "TF"), ("262", "DJ"),
    ("266", "GA"), ("268", "GE"), ("270", "GM"), ("275", "PS"), ("276", "DE"), ("278", "DE"),
    ("280", "DE"), ("288", "GH"), ("292", "GI"), ("296", "KI"), ("300", "GR"), ("304", "GL"),
    ("308", "GD"), ("312", "GP"), ("316", "GU"), ("320", "GT"), ("324", "GN"), ("328", "GY"),
    ("332", "HT"), ("334", "HM"), ("336", "VA"), ("340", "HN"), ("344", "HK"), ("348", "HU"),
    ("352", "IS"), ("356", "IN"), ("360", "ID"), ("364", "IR"), ("368", "IQ"), ("372", "IE"),
    ("376", "IL"), ("380", "IT"), ("384", "CI"), ("388", "JM"), ("392", "JP"), ("398", "KZ"),
    ("400", "JO"), ("404", "KE"), ("408", "KP"), ("410", "KR"), ("414", "KW"), ("417", "KG"),
    ("418", "LA"), ("422", "LB"), ("426", "LS"), ("428", "LV"), ("430", "LR"), ("434", "LY"),
    ("438", "LI"), ("440", "LT"), ("442", "LU"), ("446", "MO"), ("450", "MG"), ("454", "MW"),
    ("458", "MY"), ("462", "MV"), ("466", "ML"), ("470", "MT"), ("474", "MQ"), ("478", "MR"),
    ("480", "MU"), ("484", "MX"), ("492", "MC"), ("496", "MN"), ("498", "MD"), ("499", "ME"),
    ("500", "MS"), ("504", "MA"), ("508", "MZ"), ("512", "OM"), ("516", "NA"), ("520", "NR"),
    ("524", "NP"), ("528", "NL"), ("530", "CW"), ("531", "CW"), ("532", "CW"), ("533", "AW"),
    ("534", "SX"), ("535", "BQ"), ("536", "SA"), ("540", "NC"), ("548", "VU"), ("554", "NZ"),
    ("558", "NI"), ("562", "NE"), ("566", "NG"), ("570", "NU"), ("574", "NF"), ("578", "NO"),
    ("580", "MP"), ("581", "UM"), ("582", "FM"), ("583", "FM"), ("584", "MH"), ("585", "PW"),
    ("586", "PK"), ("591", "PA"), ("598", "PG"), ("600", "PY"), ("604", "PE"), ("608", "PH"),
    ("612", "PN"), ("616", "PL"), ("620", "PT"), ("624", "GW"), ("626", "TL"), ("630", "PR"),
    ("634", "QA"), ("638", "RE"), ("642", "RO"), ("643", "RU"), ("646", "RW"), ("652", "BL"),
    ("654", "SH"), ("659", "KN"), ("660", "AI"), ("662", "LC"), ("663", "MF"), ("666", "PM"),
    ("670", "VC"), ("674", "SM"), ("678", "ST"), ("682", "SA"), ("686", "SN"), ("688", "RS"),
    ("690", "SC"), ("694", "SL"), ("702", "SG"), ("703", "SK"), ("704", "VN"), ("705", "SI"),
    ("706", "SO"), ("710", "ZA"), ("716", "ZW"), ("720", "YE"), ("724", "ES"), ("728", "SS"),
    ("729", "SD"), ("732", "EH"), ("736", "SD"), ("740", "SR"), ("744", "SJ"), ("748", "SZ"),
    ("752", "SE"), ("756", "CH"), ("760", "SY"), ("762", "TJ"), ("764", "TH"), ("768", "TG"),
    ("772", "TK"), ("776", "TO"), ("780", "TT"), ("784", "AE"), ("788", "TN"), ("792", "TR"),
    ("795", "TM"), ("796", "TC"), ("798", "TV"), ("800", "UG"), ("804", "UA"), ("807", "MK"),
    ("810", "RU"), ("818", "EG"), ("826", "GB"), ("830", "JE"), ("831", "GG"), ("832", "JE"),
    ("833", "IM"), ("834", "TZ"), ("840", "US"), ("850", "VI"), ("854", "BF"), ("858", "UY"),
    ("860", "UZ"), ("862", "VE"), ("876", "WF"), ("882", "WS"), ("886", "YE"), ("887", "YE"),
    ("890", "RS"), ("891", "RS"), ("894", "ZM"), ("958", "AA"), ("959", "QM"), ("960", "QN"),
    ("962", "QP"), ("963", "QQ"), ("964", "QR"), ("965", "QS"), ("966", "QT"), ("967", "EU"),
    ("968", "QV"), ("969", "QW"), ("970", "QX"), ("971", "QY"), ("972", "QZ"), ("973", "XA"),
    ("974", "XB"), ("975", "XC"), ("976", "XD"), ("977", "XE"), ("978", "XF"), ("979", "XG"),
    ("980", "XH"), ("981", "XI"), ("982", "XJ"), ("983", "XK"), ("984", "XL"), ("985", "XM"),
    ("986", "XN"), ("987", "XO"), ("988", "XP"), ("989", "XQ"), ("990", "XR"), ("991", "XS"),
    ("992", "XT"), ("993", "XU"), ("994", "XV"), ("995", "XW"), ("996", "XX"), ("997", "XY"),
    ("998", "XZ"), ("999", "ZZ"), ("aaa", "AA"), ("abw", "AW"), ("afg", "AF"), ("ago", "AO"),
    ("aia", "AI"), ("ala", "AX"), ("alb", "AL"), ("an", "CW"), ("and", "AD"), ("ant", "CW"),
    ("are", "AE"), ("arg", "AR"), ("arm", "AM"), ("asc", "AC"), ("asm", "AS"), ("ata", "AQ"),
    ("atf", "TF"), ("atg", "AG"), ("aus", "AU"), ("aut", "AT"), ("aze", "AZ"), ("bdi", "BI"),
    ("bel", "BE"), ("ben", "BJ"), ("bes", "BQ"), ("bfa", "BF"), ("bgd", "BD"), ("bgr", "BG"),
    ("bhr", "BH"), ("bhs", "BS"), ("bih", "bh"), ("blm", "BL"), ("blr", "BY"), ("blz", "BZ"),
    ("bmu", "BM"), ("bol", "BO"), ("bra", "BR"), ("brb", "BB"), ("brn", "BN"), ("btn", "BT"),
    ("bu", "MM"), ("bur", "MM"), ("bvt", "BV"), ("bwa", "BW"), ("caf", "CF"), ("can", "CA"),
    ("cck", "CC"), ("che", "CH"), ("chl", "CL"), ("chn", "CN"), ("civ", "CI"), ("cmr", "CM"),
    ("cod", "CD"), ("cog", "CG"), ("cok", "CK"), ("col", "CO"), ("com", "KM"), ("cpt", "CP"),
    ("cpv", "CV"), ("cri", "CR"), ("cs", "RS"), ("ct", "KI"), ("cub", "CU"), ("cuw", "CW"),
    ("cxr", "CX"), ("cym", "KY"), ("cyp", "CY"), ("cze", "CZ"), ("dd", "DE"), ("ddr", "DE"),
    ("deu", "DE"), ("dga", "DG"), ("dji", "DJ"), ("dma", "DM"), ("dnk", "DK"), ("dom", "DO"),
    ("dy", "BJ"), ("dza", "DZ"), ("ecu", "EC"), ("egy", "EG"), ("eri", "ER"), ("esh", "EH"),
    ("esp", "ES"), ("est", "EE"), ("eth", "ET"), ("fin", "FI"), ("fji", "FJ"), ("flk", "FK"),
    ("fq", "AQ"), ("fra", "FR"), ("fro", "FO"), ("fsm", "FM"), ("fx", "FR"), ("fxx", "FR"),
    ("gab", "GA"), ("gbr", "GB"), ("geo", "GE"), ("ggy", "GG"), ("gha", "GH"), ("gib", "GI"),
    ("gin", "GN"), ("glp", "GP"), ("gmb", "GM"), ("gnb", "GW"), ("gnq", "GQ"), ("grc", "GR"),
    ("grd", "GD"), ("grl", "GL"), ("gtm", "GT"), ("guf", "GF"), ("gum", "GU"), ("guy", "GY"),
    ("hkg", "HK"), ("hmd", "HM"), ("hnd", "HN"), ("hrv", "HR"), ("hti", "HT"), ("hun", "HU"),
    ("hv", "BF"), ("idn", "ID"), ("imn", "IM"), ("ind", "IN"), ("iot", "IO"), ("irl", "IE"),
    ("irn", "IR"), ("irq", "IQ"), ("isl", "IS"), ("isr", "IL"), ("ita", "IT"), ("jam", "JM"),
    ("jey", "JE"), ("jor", "JO"), ("jpn", "JP"), ("jt", "UM"), ("kaz", "KZ"), ("ken", "KE"),
    ("kgz", "KG"), ("khm", "KH"), ("kir", "KI"), ("kna", "KN"), ("kor", "KR"), ("kwt", "KW"),
    ("lao", "LA"), ("lbn", "LB"), ("lbr", "LR"), ("lby", "LY"), ("lca", "LC"), ("lie", "LI"),
    ("lka", "LK"), ("lso", "LS"), ("ltu", "LT"), ("lux", "LU"), ("lva", "LV"), ("mac", "MO"),
    ("maf", "MF"), ("mar", "MA"), ("mco", "MC"), ("mda", "MD"), ("mdg", "MG"), ("mdv", "MV"),
    ("mex", "MX"), ("mhl", "MH"), ("mi", "UM"), ("mkd", "MK"), ("mli", "ML"), ("mlt", "MT"),
    ("mmr", "MM"), ("mne", "ME"), ("mng", "MN"), ("mnp", "MP"), ("moz", "MZ"), ("mrt", "MR"),
    ("msr", "MS"), ("mtq", "MQ"), ("mus", "MU"), ("mwi", "MW"), ("mys", "MY"), ("myt", "YT"),
    ("nam", "NA"), ("ncl", "NC"), ("ner", "NE"), ("nfk", "NF"), ("nga", "NG"), ("nh", "VU"),
    ("nic", "NI"), ("niu", "NU"), ("nld", "NL"), ("nor", "no"), ("npl", "NP"), ("nq", "AQ"),
    ("nru", "NR"), ("nt", "SA"), ("ntz", "SA"), ("nzl", "NZ"), ("omn", "OM"), ("pak", "PK"),
    ("pan", "PA"), ("pc", "FM"), ("pcn", "PN"), ("per", "PE"), ("phl", "PH"), ("plw", "PW"),
    ("png", "PG"), ("pol", "PL"), ("pri", "PR"), ("prk", "KP"), ("prt", "PT"), ("pry", "PY"),
    ("pse", "PS"), ("pu", "UM"), ("pyf", "PF"), ("pz", "PA"), ("qat", "QA"), ("qmm", "QM"),
    ("qnn", "QN"), ("qpp", "QP"), ("qqq", "QQ"), ("qrr", "QR"), ("qss", "QS"), ("qtt", "QT"),
    ("qu", "EU"), ("quu", "EU"), ("qvv", "QV"), ("qww", "QW"), ("qxx", "QX"), ("qyy", "QY"),
    ("qzz", "QZ"), ("reu", "RE"), ("rh", "ZW"), ("rou", "RO"), ("rus", "RU"), ("rwa", "RW"),
    ("sau", "SA"), ("scg", "RS"), ("sdn", "SD"), ("sen", "SN"), ("sgp", "SG"), ("sgs", "GS"),
    ("shn", "SH"), ("sjm", "SJ"), ("slb", "SB"), ("sle", "SL"), ("slv", "SV"), ("smr", "SM"),
    ("som", "SO"), ("spm", "PM"), ("srb", "RS"), ("ssd", "SS"), ("stp", "ST"), ("su", "RU"),
    ("sun", "RU"), ("sur", "SR"), ("svk", "SK"), ("svn", "SI"), ("swe", "SE"), ("swz", "SZ"),
    ("sxm", "SX"), ("syc", "SC"), ("syr", "SY"), ("taa", "TA"), ("tca", "TC"), ("tcd", "TD"),
    ("tgo", "TG"), ("tha", "TH"), ("tjk", "TJ"), ("tkl", "TK"), ("tkm", "TM"), ("tls", "TL"),
    ("tmp", "TL"), ("ton", "TO"), ("tp", "TL"), ("tto", "TT"), ("tun", "TN"), ("tur", "TR"),
    ("tuv", "TV"), ("twn", "TW"), ("tza", "TZ"), ("uga", "UG"), ("uk", "GB"), ("ukr", "UA"),
    ("umi", "UM"), ("ury", "UY"), ("usa", "US"), ("uzb", "UZ"), ("vat", "VA"), ("vct", "VC"),
    ("vd", "VN"), ("ven", "VE"), ("vgb", "VG"), ("vir", "VI"), ("vnm", "VN"), ("vut", "VU"),
    ("wk", "UM"), ("wlf", "WF"), ("wsm", "WS"), ("xaa", "XA"), ("xbb", "XB"), ("xcc", "XC"),
    ("xdd", "XD"), ("xee", "XE"), ("xff", "XF"), ("xgg", "XG"), ("xhh", "XH"), ("xii", "XI"),
    ("xjj", "XJ"), ("xkk", "XK"), ("xll", "XL"), ("xmm", "XM"), ("xnn", "XN"), ("xoo", "XO"),
    ("xpp", "XP"), ("xqq", "XQ"), ("xrr", "XR"), ("xss", "XS"), ("xtt", "XT"), ("xuu", "XU"),
    ("xvv", "XV"), ("xww", "XW"), ("xxx", "XX"), ("xyy", "XY"), ("xzz", "XZ"), ("yd", "YE"),
    ("yem", "YE"), ("ymd", "YE"), ("yu", "RS"), ("yug", "RS"), ("zaf", "ZA"), ("zar", "CD"),
    ("zmb", "ZM"), ("zr", "CD"), ("zwe", "ZW"), ("zzz", "ZZ")
  ]

/-- The entry of a table under a key. -/
def lookup (table : List (String × String)) (key : String) : Option String :=
  (table.find? fun entry => entry.1 == key).map Prod.snd

end Language
end InstanceDirectory
