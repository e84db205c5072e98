import Conform.Text.Table.Name.Run

/-!
# Names of East Asian scripts

The names of the characters from U+2C00 to U+4DFF: Glagolitic, Coptic, radicals, kana, Bopomofo
and enclosed ideographs.
-/

namespace Conform.Text.Table

/-- Runs of the names of East Asian scripts. -/
def eastAsianNames : List NameRun := [
  ⟨0x2c00, "GLAGOLITIC CAPITAL LETTER ", ["AZU,BUKY,VEDE,GLAGOLI,DOBRO,YESTU,ZHIVETE,DZELO,ZEMLJA",
    "IZHE,INITIAL IZHE,I,DJERVI,KAKO,LJUDIJE,MYSLITE,NASHI,ONU,POKOJI,RITSI,SLOVO,TVRIDO,UKU,FRITU",
    "HERU,OTU,PE,SHTA,TSI,CHRIVI,SHA,YERU,YERI,YATI,SPIDERY HA,YU,SMALL YUS,SMALL YUS WITH TAIL,YO",
    "IOTATED SMALL YUS,BIG YUS,IOTATED BIG YUS,FITA,IZHITSA,SHTAPIC,TROKUTASTI A,LATINATE MYSLITE",
    "CAUDATE CHRIVI"]⟩,
  ⟨0x2c30, "GLAGOLITIC SMALL LETTER ", ["AZU,BUKY,VEDE,GLAGOLI,DOBRO,YESTU,ZHIVETE,DZELO,ZEMLJA",
    "IZHE,INITIAL IZHE,I,DJERVI,KAKO,LJUDIJE,MYSLITE,NASHI,ONU,POKOJI,RITSI,SLOVO,TVRIDO,UKU,FRITU",
    "HERU,OTU,PE,SHTA,TSI,CHRIVI,SHA,YERU,YERI,YATI,SPIDERY HA,YU,SMALL YUS,SMALL YUS WITH TAIL,YO",
    "IOTATED SMALL YUS,BIG YUS,IOTATED BIG YUS,FITA,IZHITSA,SHTAPIC,TROKUTASTI A,LATINATE MYSLITE",
    "CAUDATE CHRIVI"]⟩,
  ⟨0x2c60, "LATIN ", ["CAPITAL LETTER L WITH DOUBLE BAR,SMALL LETTER L WITH DOUBLE BAR",
    "CAPITAL LETTER L WITH MIDDLE TILDE,CAPITAL LETTER P WITH STROKE,CAPITAL LETTER R WITH TAIL",
    "SMALL LETTER A WITH STROKE,SMALL LETTER T WITH DIAGONAL STROKE",
    "CAPITAL LETTER H WITH DESCENDER,SMALL LETTER H WITH DESCENDER,CAPITAL LETTER K WITH DESCENDER",
    "SMALL LETTER K WITH DESCENDER,CAPITAL LETTER Z WITH DESCENDER,SMALL LETTER Z WITH DESCENDER",
    "CAPITAL LETTER ALPHA,CAPITAL LETTER M WITH HOOK,CAPITAL LETTER TURNED A",
    "CAPITAL LETTER TURNED ALPHA,SMALL LETTER V WITH RIGHT HOOK,CAPITAL LETTER W WITH HOOK",
    "SMALL LETTER W WITH HOOK,SMALL LETTER V WITH CURL,CAPITAL LETTER HALF H"]⟩,
  ⟨0x2c76, "LATIN SMALL LETTER ", ["HALF H,TAILLESS PHI,E WITH NOTCH,TURNED R WITH TAIL",
    "O WITH LOW RING INSIDE"]⟩,
  ⟨0x2c7b, "", ["LATIN LETTER SMALL CAPITAL TURNED E,LATIN SUBSCRIPT SMALL LETTER J",
    "MODIFIER LETTER CAPITAL V"]⟩,
  ⟨0x2c7e, "LATIN CAPITAL LETTER ", ["S WITH SWASH TAIL,Z WITH SWASH TAIL"]⟩,
  ⟨0x2c80, "COPTIC ", ["CAPITAL LETTER ALFA,SMALL LETTER ALFA,CAPITAL LETTER VIDA",
    "SMALL LETTER VIDA,CAPITAL LETTER GAMMA,SMALL LETTER GAMMA,CAPITAL LETTER DALDA",
    "SMALL LETTER DALDA,CAPITAL LETTER EIE,SMALL LETTER EIE,CAPITAL LETTER SOU,SMALL LETTER SOU",
    "CAPITAL LETTER ZATA,SMALL LETTER ZATA,CAPITAL LETTER HATE,SMALL LETTER HATE",
    "CAPITAL LETTER THETHE,SMALL LETTER THETHE,CAPITAL LETTER IAUDA,SMALL LETTER IAUDA",
    "CAPITAL LETTER KAPA,SMALL LETTER KAPA,CAPITAL LETTER LAULA,SMALL LETTER LAULA",
    "CAPITAL LETTER MI,SMALL LETTER MI,CAPITAL LETTER NI,SMALL LETTER NI,CAPITAL LETTER KSI",
    "SMALL LETTER KSI,CAPITAL LETTER O,SMALL LETTER O,CAPITAL LETTER PI,SMALL LETTER PI",
    "CAPITAL LETTER RO,SMALL LETTER RO,CAPITAL LETTER SIMA,SMALL LETTER SIMA,CAPITAL LETTER TAU",
    "SMALL LETTER TAU,CAPITAL LETTER UA,SMALL LETTER UA,CAPITAL LETTER FI,SMALL LETTER FI",
    "CAPITAL LETTER KHI,SMALL LETTER KHI,CAPITAL LETTER PSI,SMALL LETTER PSI,CAPITAL LETTER OOU",
    "SMALL LETTER OOU,CAPITAL LETTER DIALECT-P ALEF,SMALL LETTER DIALECT-P ALEF",
    "CAPITAL LETTER OLD COPTIC AIN,SMALL LETTER OLD COPTIC AIN,CAPITAL LETTER CRYPTOGRAMMIC EIE",
    "SMALL LETTER CRYPTOGRAMMIC EIE,CAPITAL LETTER DIALECT-P KAPA,SMALL LETTER DIALECT-P KAPA",
    "CAPITAL LETTER DIALECT-P NI,SMALL LETTER DIALECT-P NI,CAPITAL LETTER CRYPTOGRAMMIC NI",
    "SMALL LETTER CRYPTOGRAMMIC NI,CAPITAL LETTER OLD COPTIC OOU,SMALL LETTER OLD COPTIC OOU",
    "CAPITAL LETTER SAMPI,SMALL LETTER SAMPI,CAPITAL LETTER CROSSED SHEI,SMALL LETTER CROSSED SHEI",
    "CAPITAL LETTER OLD COPTIC SHEI,SMALL LETTER OLD COPTIC SHEI,CAPITAL LETTER OLD COPTIC ESH",
    "SMALL LETTER OLD COPTIC ESH,CAPITAL LETTER AKHMIMIC KHEI,SMALL LETTER AKHMIMIC KHEI",
    "CAPITAL LETTER DIALECT-P HORI,SMALL LETTER DIALECT-P HORI,CAPITAL LETTER OLD COPTIC HORI",
    "SMALL LETTER OLD COPTIC HORI,CAPITAL LETTER OLD COPTIC HA,SMALL LETTER OLD COPTIC HA",
    "CAPITAL LETTER L-SHAPED HA,SMALL LETTER L-SHAPED HA,CAPITAL LETTER OLD COPTIC HEI",
    "SMALL LETTER OLD COPTIC HEI,CAPITAL LETTER OLD COPTIC HAT,SMALL LETTER OLD COPTIC HAT",
    "CAPITAL LETTER OLD COPTIC GANGIA,SMALL LETTER OLD COPTIC GANGIA,CAPITAL LETTER OLD COPTIC DJA",
    "SMALL LETTER OLD COPTIC DJA,CAPITAL LETTER OLD COPTIC SHIMA,SMALL LETTER OLD COPTIC SHIMA",
    "CAPITAL LETTER OLD NUBIAN SHIMA,SMALL LETTER OLD NUBIAN SHIMA,CAPITAL LETTER OLD NUBIAN NGI",
    "SMALL LETTER OLD NUBIAN NGI,CAPITAL LETTER OLD NUBIAN NYI,SMALL LETTER OLD NUBIAN NYI",
    "CAPITAL LETTER OLD NUBIAN WAU,SMALL LETTER OLD NUBIAN WAU,SYMBOL KAI,SYMBOL MI RO",
    "SYMBOL PI RO,SYMBOL STAUROS,SYMBOL TAU RO,SYMBOL KHI RO,SYMBOL SHIMA SIMA",
    "CAPITAL LETTER CRYPTOGRAMMIC SHEI,SMALL LETTER CRYPTOGRAMMIC SHEI",
    "CAPITAL LETTER CRYPTOGRAMMIC GANGIA,SMALL LETTER CRYPTOGRAMMIC GANGIA,COMBINING NI ABOVE",
    "COMBINING SPIRITUS ASPER,COMBINING SPIRITUS LENIS,CAPITAL LETTER BOHAIRIC KHEI",
    "SMALL LETTER BOHAIRIC KHEI"]⟩,
  ⟨0x2cf9, "COPTIC OLD NUBIAN ", ["FULL STOP,DIRECT QUESTION MARK,INDIRECT QUESTION MARK",
    "VERSE DIVIDER"]⟩,
  ⟨0x2cfd, "COPTIC ", ["FRACTION ONE HALF,FULL STOP,MORPHOLOGICAL DIVIDER"]⟩,
  ⟨0x2d00, "GEORGIAN SMALL LETTER ", ["AN,BAN,GAN,DON,EN,VIN,ZEN,TAN,IN,KAN,LAS,MAN,NAR,ON,PAR",
    "ZHAR,RAE,SAN,TAR,UN,PHAR,KHAR,GHAN,QAR,SHIN,CHIN,CAN,JIL,CIL,CHAR,XAN,JHAN,HAE,HE,HIE,WE,HAR",
    "HOE"]⟩,
  ⟨0x2d27, "", ["GEORGIAN SMALL LETTER YN"]⟩,
  ⟨0x2d2d, "", ["GEORGIAN SMALL LETTER AEN"]⟩,
  ⟨0x2d30, "TIFINAGH LETTER ", ["YA,YAB,YABH,YAG,YAGHH,BERBER ACADEMY YAJ,YAJ,YAD,YADH,YADD,YADDH",
    "YEY,YAF,YAK,TUAREG YAK,YAKHH,YAH,BERBER ACADEMY YAH,TUAREG YAH,YAHH,YAA,YAKH,TUAREG YAKH,YAQ",
    "TUAREG YAQ,YI,YAZH,AHAGGAR YAZH,TUAREG YAZH,YAL,YAM,YAN,TUAREG YAGN,TUAREG YANG,YAP,YU,YAR",
    "YARR,YAGH,TUAREG YAGH,AYER YAGH,YAS,YASS,YASH,YAT,YATH,YACH,YATT,YAV,YAW,YAY,YAZ",
    "TAWELLEMET YAZ,YAZZ,YE,YO"]⟩,
  ⟨0x2d6f, "TIFINAGH ", ["MODIFIER LETTER LABIALIZATION MARK,SEPARATOR MARK"]⟩,
  ⟨0x2d7f, "", ["TIFINAGH CONSONANT JOINER"]⟩,
  ⟨0x2d80, "ETHIOPIC SYLLABLE ", ["LOA,MOA,ROA,SOA,SHOA,BOA,TOA,COA,NOA,NYOA,GLOTTAL OA,ZOA,DOA",
    "DDOA,JOA,THOA,CHOA,PHOA,POA,GGWA,GGWI,GGWEE,GGWE"]⟩,
  ⟨0x2da0, "ETHIOPIC SYLLABLE ", ["SSA,SSU,SSI,SSAA,SSEE,SSE,SSO"]⟩,
  ⟨0x2da8, "ETHIOPIC SYLLABLE ", ["CCA,CCU,CCI,CCAA,CCEE,CCE,CCO"]⟩,
  ⟨0x2db0, "ETHIOPIC SYLLABLE ", ["ZZA,ZZU,ZZI,ZZAA,ZZEE,ZZE,ZZO"]⟩,
  ⟨0x2db8, "ETHIOPIC SYLLABLE ", ["CCHA,CCHU,CCHI,CCHAA,CCHEE,CCHE,CCHO"]⟩,
  ⟨0x2dc0, "ETHIOPIC SYLLABLE ", ["QYA,QYU,QYI,QYAA,QYEE,QYE,QYO"]⟩,
  ⟨0x2dc8, "ETHIOPIC SYLLABLE ", ["KYA,KYU,KYI,KYAA,KYEE,KYE,KYO"]⟩,
  ⟨0x2dd0, "ETHIOPIC SYLLABLE ", ["XYA,XYU,XYI,XYAA,XYEE,XYE,XYO"]⟩,
  ⟨0x2dd8, "ETHIOPIC SYLLABLE ", ["GYA,GYU,GYI,GYAA,GYEE,GYE,GYO"]⟩,
  ⟨0x2de0, "COMBINING CYRILLIC LETTER ", ["BE,VE,GHE,DE,ZHE,ZE,KA,EL,EM,EN,O,PE,ER,ES,TE,HA,TSE",
    "CHE,SHA,SHCHA,FITA,ES-TE,A,IE,DJERV,MONOGRAPH UK,YAT,YU,IOTIFIED A,LITTLE YUS,BIG YUS",
    "IOTIFIED BIG YUS"]⟩,
  ⟨0x2e00, "", ["RIGHT ANGLE SUBSTITUTION MARKER,RIGHT ANGLE DOTTED SUBSTITUTION MARKER",
    "LEFT SUBSTITUTION BRACKET,RIGHT SUBSTITUTION BRACKET,LEFT DOTTED SUBSTITUTION BRACKET",
    "RIGHT DOTTED SUBSTITUTION BRACKET,RAISED INTERPOLATION MARKER",
    "RAISED DOTTED INTERPOLATION MARKER,DOTTED TRANSPOSITION MARKER,LEFT TRANSPOSITION BRACKET",
    "RIGHT TRANSPOSITION BRACKET,RAISED SQUARE,LEFT RAISED OMISSION BRACKET",
    "RIGHT RAISED OMISSION BRACKET,EDITORIAL CORONIS,PARAGRAPHOS,FORKED PARAGRAPHOS",
    "REVERSED FORKED PARAGRAPHOS,HYPODIASTOLE,DOTTED OBELOS,DOWNWARDS ANCORA,UPWARDS ANCORA",
    "DOTTED RIGHT-POINTING ANGLE,DOUBLE OBLIQUE HYPHEN,INVERTED INTERROBANG,PALM BRANCH",
    "HYPHEN WITH DIAERESIS,TILDE WITH RING ABOVE,LEFT LOW PARAPHRASE BRACKET",
    "RIGHT LOW PARAPHRASE BRACKET,TILDE WITH DOT ABOVE,TILDE WITH DOT BELOW",
    "LEFT VERTICAL BAR WITH QUILL,RIGHT VERTICAL BAR WITH QUILL,TOP LEFT HALF BRACKET",
    "TOP RIGHT HALF BRACKET,BOTTOM LEFT HALF BRACKET,BOTTOM RIGHT HALF BRACKET",
    "LEFT SIDEWAYS U BRACKET,RIGHT SIDEWAYS U BRACKET,LEFT DOUBLE PARENTHESIS",
    "RIGHT DOUBLE PARENTHESIS,TWO DOTS OVER ONE DOT PUNCTUATION,ONE DOT OVER TWO DOTS PUNCTUATION",
    "SQUARED FOUR DOT PUNCTUATION,FIVE DOT MARK,REVERSED QUESTION MARK,VERTICAL TILDE,RING POINT",
    "WORD SEPARATOR MIDDLE DOT,TURNED COMMA,RAISED DOT,RAISED COMMA,TURNED SEMICOLON",
    "DAGGER WITH LEFT GUARD,DAGGER WITH RIGHT GUARD,TURNED DAGGER,TOP HALF SECTION SIGN",
    "TWO-EM DASH,THREE-EM DASH,STENOGRAPHIC FULL STOP"]⟩,
  ⟨0x2e3d, "", ["VERTICAL SIX DOTS,WIGGLY VERTICAL LINE,CAPITULUM,DOUBLE HYPHEN,REVERSED COMMA",
    "DOUBLE LOW-REVERSED-9 QUOTATION MARK,DASH WITH LEFT UPTURN,DOUBLE SUSPENSION MARK",
    "INVERTED LOW KAVYKA,INVERTED LOW KAVYKA WITH KAVYKA ABOVE,LOW KAVYKA,LOW KAVYKA WITH DOT",
    "DOUBLE STACKED COMMA,DOTTED SOLIDUS,TRIPLE DAGGER,MEDIEVAL COMMA,PARAGRAPHUS MARK",
    "PUNCTUS ELEVATUS MARK,CORNISH VERSE DIVIDER,CROSS PATTY WITH RIGHT CROSSBAR",
    "CROSS PATTY WITH LEFT CROSSBAR,TIRONIAN SIGN CAPITAL ET,MEDIEVAL EXCLAMATION MARK",
    "MEDIEVAL QUESTION MARK,LEFT SQUARE BRACKET WITH STROKE,RIGHT SQUARE BRACKET WITH STROKE",
    "LEFT SQUARE BRACKET WITH DOUBLE STROKE,RIGHT SQUARE BRACKET WITH DOUBLE STROKE",
    "TOP HALF LEFT PARENTHESIS,TOP HALF RIGHT PARENTHESIS,BOTTOM HALF LEFT PARENTHESIS",
    "BOTTOM HALF RIGHT PARENTHESIS,OBLIQUE HYPHEN"]⟩,
  ⟨0x2e80, "CJK RADICAL ", ["REPEAT,CLIFF,SECOND ONE,SECOND TWO,SECOND THREE,PERSON,BOX,TABLE",
    "KNIFE ONE,KNIFE TWO,DIVINATION,SEAL,SMALL ONE,SMALL TWO,LAME ONE,LAME TWO,LAME THREE",
    "LAME FOUR,SNAKE,THREAD,SNOUT ONE,SNOUT TWO,HEART ONE,HEART TWO,HAND,RAP"]⟩,
  ⟨0x2e9b, "CJK RADICAL ", ["CHOKE,SUN,MOON,DEATH,MOTHER,CIVILIAN,WATER ONE,WATER TWO,FIRE,PAW ONE",
    "PAW TWO,SIMPLIFIED HALF TREE TRUNK,COW,DOG,JADE,BOLT OF CLOTH,EYE,SPIRIT ONE,SPIRIT TWO",
    "BAMBOO,SILK,C-SIMPLIFIED SILK,NET ONE,NET TWO,NET THREE,NET FOUR,MESH,SHEEP,RAM,EWE,OLD",
    "BRUSH ONE,BRUSH TWO,MEAT,MORTAR,GRASS ONE,GRASS TWO,GRASS THREE,TIGER,CLOTHES,WEST ONE",
    "WEST TWO,C-SIMPLIFIED SEE,SIMPLIFIED HORN,HORN,C-SIMPLIFIED SPEECH,C-SIMPLIFIED SHELL,FOOT",
    "C-SIMPLIFIED CART,SIMPLIFIED WALK,WALK ONE,WALK TWO,CITY,C-SIMPLIFIED GOLD,LONG ONE,LONG TWO",
    "C-SIMPLIFIED LONG,C-SIMPLIFIED GATE,MOUND ONE,MOUND TWO,RAIN,BLUE,C-SIMPLIFIED TANNED LEATHER",
    "C-SIMPLIFIED LEAF,C-SIMPLIFIED WIND,C-SIMPLIFIED FLY,EAT ONE,EAT TWO,EAT THREE",
    "C-SIMPLIFIED EAT,HEAD,C-SIMPLIFIED HORSE,BONE,GHOST,C-SIMPLIFIED FISH,C-SIMPLIFIED BIRD",
    "C-SIMPLIFIED SALT,SIMPLIFIED WHEAT,SIMPLIFIED YELLOW,C-SIMPLIFIED FROG,J-SIMPLIFIED EVEN",
    "C-SIMPLIFIED EVEN,J-SIMPLIFIED TOOTH,C-SIMPLIFIED TOOTH,J-SIMPLIFIED DRAGON",
    "C-SIMPLIFIED DRAGON,TURTLE,J-SIMPLIFIED TURTLE,C-SIMPLIFIED TURTLE"]⟩,
  ⟨0x2f00, "KANGXI RADICAL ", ["ONE,LINE,DOT,SLASH,SECOND,HOOK,TWO,LID,MAN,LEGS,ENTER,EIGHT",
    "DOWN BOX,COVER,ICE,TABLE,OPEN BOX,KNIFE,POWER,WRAP,SPOON,RIGHT OPEN BOX,HIDING ENCLOSURE,TEN",
    "DIVINATION,SEAL,CLIFF,PRIVATE,AGAIN,MOUTH,ENCLOSURE,EARTH,SCHOLAR,GO,GO SLOWLY,EVENING,BIG",
    "WOMAN,CHILD,ROOF,INCH,SMALL,LAME,CORPSE,SPROUT,MOUNTAIN,RIVER,WORK,ONESELF,TURBAN,DRY",
    "SHORT THREAD,DOTTED CLIFF,LONG STRIDE,TWO HANDS,SHOOT,BOW,SNOUT,BRISTLE,STEP,HEART,HALBERD",
    "DOOR,HAND,BRANCH,RAP,SCRIPT,DIPPER,AXE,SQUARE,NOT,SUN,SAY,MOON,TREE,LACK,STOP,DEATH,WEAPON",
    "DO NOT,COMPARE,FUR,CLAN,STEAM,WATER,FIRE,CLAW,FATHER,DOUBLE X,HALF TREE TRUNK,SLICE,FANG,COW",
    "DOG,PROFOUND,JADE,MELON,TILE,SWEET,LIFE,USE,FIELD,BOLT OF CLOTH,SICKNESS,DOTTED TENT,WHITE",
    "SKIN,DISH,EYE,SPEAR,ARROW,STONE,SPIRIT,TRACK,GRAIN,CAVE,STAND,BAMBOO,RICE,SILK,JAR,NET,SHEEP",
    "FEATHER,OLD,AND,PLOW,EAR,BRUSH,MEAT,MINISTER,SELF,ARRIVE,MORTAR,TONGUE,OPPOSE,BOAT,STOPPING",
    "COLOR,GRASS,TIGER,INSECT,BLOOD,WALK ENCLOSURE,CLOTHES,WEST,SEE,HORN,SPEECH,VALLEY,BEAN,PIG",
    "BADGER,SHELL,RED,RUN,FOOT,BODY,CART,BITTER,MORNING,WALK,CITY,WINE,DISTINGUISH,VILLAGE,GOLD",
    "LONG,GATE,MOUND,SLAVE,SHORT TAILED BIRD,RAIN,BLUE,WRONG,FACE,LEATHER,TANNED LEATHER,LEEK",
    "SOUND,LEAF,WIND,FLY,EAT,HEAD,FRAGRANT,HORSE,BONE,TALL,HAIR,FIGHT,SACRIFICIAL WINE,CAULDRON",
    "GHOST,FISH,BIRD,SALT,DEER,WHEAT,HEMP,YELLOW,MILLET,BLACK,EMBROIDERY,FROG,TRIPOD,DRUM,RAT,NOSE",
    "EVEN,TOOTH,DRAGON,TURTLE,FLUTE"]⟩,
  ⟨0x2ff0, "IDEOGRAPHIC DESCRIPTION CHARACTER ", ["LEFT TO RIGHT,ABOVE TO BELOW",
    "LEFT TO MIDDLE AND RIGHT,ABOVE TO MIDDLE AND BELOW,FULL SURROUND,SURROUND FROM ABOVE",
    "SURROUND FROM BELOW,SURROUND FROM LEFT,SURROUND FROM UPPER LEFT,SURROUND FROM UPPER RIGHT",
    "SURROUND FROM LOWER LEFT,OVERLAID"]⟩,
  ⟨0x3000, "IDEOGRAPHIC ", ["SPACE,COMMA,FULL STOP"]⟩,
  ⟨0x3003, "", ["DITTO MARK,JAPANESE INDUSTRIAL STANDARD SYMBOL,IDEOGRAPHIC ITERATION MARK",
    "IDEOGRAPHIC CLOSING MARK,IDEOGRAPHIC NUMBER ZERO,LEFT ANGLE BRACKET,RIGHT ANGLE BRACKET",
    "LEFT DOUBLE ANGLE BRACKET,RIGHT DOUBLE ANGLE BRACKET,LEFT CORNER BRACKET,RIGHT CORNER BRACKET",
    "LEFT WHITE CORNER BRACKET,RIGHT WHITE CORNER BRACKET,LEFT BLACK LENTICULAR BRACKET",
    "RIGHT BLACK LENTICULAR BRACKET,POSTAL MARK,GETA MARK,LEFT TORTOISE SHELL BRACKET",
    "RIGHT TORTOISE SHELL BRACKET,LEFT WHITE LENTICULAR BRACKET,RIGHT WHITE LENTICULAR BRACKET",
    "LEFT WHITE TORTOISE SHELL BRACKET,RIGHT WHITE TORTOISE SHELL BRACKET",
    "LEFT WHITE SQUARE BRACKET,RIGHT WHITE SQUARE BRACKET,WAVE DASH",
    "REVERSED DOUBLE PRIME QUOTATION MARK,DOUBLE PRIME QUOTATION MARK",
    "LOW DOUBLE PRIME QUOTATION MARK,POSTAL MARK FACE"]⟩,
  ⟨0x3021, "HANGZHOU NUMERAL ", ["ONE,TWO,THREE,FOUR,FIVE,SIX,SEVEN,EIGHT,NINE"]⟩,
  ⟨0x302a, "IDEOGRAPHIC ", ["LEVEL TONE MARK,RISING TONE MARK,DEPARTING TONE MARK",
    "ENTERING TONE MARK"]⟩,
  ⟨0x302e, "", ["HANGUL SINGLE DOT TONE MARK,HANGUL DOUBLE DOT TONE MARK,WAVY DASH"]⟩,
  ⟨0x3031, "VERTICAL KANA REPEAT ", ["MARK,WITH VOICED SOUND MARK,MARK UPPER HALF",
    "WITH VOICED SOUND MARK UPPER HALF,MARK LOWER HALF"]⟩,
  ⟨0x3036, "", ["CIRCLED POSTAL MARK,IDEOGRAPHIC TELEGRAPH LINE FEED SEPARATOR SYMBOL",
    "HANGZHOU NUMERAL TEN,HANGZHOU NUMERAL TWENTY,HANGZHOU NUMERAL THIRTY",
    "VERTICAL IDEOGRAPHIC ITERATION MARK,MASU MARK,PART ALTERNATION MARK",
    "IDEOGRAPHIC VARIATION INDICATOR,IDEOGRAPHIC HALF FILL SPACE"]⟩,
  ⟨0x3041, "HIRAGANA LETTER ", ["SMALL A,A,SMALL I,I,SMALL U,U,SMALL E,E,SMALL O,O,KA,GA,KI,GI,KU",
    "GU,KE,GE,KO,GO,SA,ZA,SI,ZI,SU,ZU,SE,ZE,SO,ZO,TA,DA,TI,DI,SMALL TU,TU,DU,TE,DE,TO,DO,NA,NI,NU",
    "NE,NO,HA,BA,PA,HI,BI,PI,HU,BU,PU,HE,BE,PE,HO,BO,PO,MA,MI,MU,ME,MO,SMALL YA,YA,SMALL YU,YU",
    "SMALL YO,YO,RA,RI,RU,RE,RO,SMALL WA,WA,WI,WE,WO,N,VU,SMALL KA,SMALL KE"]⟩,
  ⟨0x3099, "COMBINING KATAKANA-HIRAGANA ", ["VOICED SOUND MARK,SEMI-VOICED SOUND MARK"]⟩,
  ⟨0x309b, "KATAKANA-HIRAGANA ", ["VOICED SOUND MARK,SEMI-VOICED SOUND MARK"]⟩,
  ⟨0x309d, "HIRAGANA ", ["ITERATION MARK,VOICED ITERATION MARK,DIGRAPH YORI"]⟩,
  ⟨0x30a0, "", ["KATAKANA-HIRAGANA DOUBLE HYPHEN"]⟩,
  ⟨0x30a1, "KATAKANA LETTER ", ["SMALL A,A,SMALL I,I,SMALL U,U,SMALL E,E,SMALL O,O,KA,GA,KI,GI,KU",
    "GU,KE,GE,KO,GO,SA,ZA,SI,ZI,SU,ZU,SE,ZE,SO,ZO,TA,DA,TI,DI,SMALL TU,TU,DU,TE,DE,TO,DO,NA,NI,NU",
    "NE,NO,HA,BA,PA,HI,BI,PI,HU,BU,PU,HE,BE,PE,HO,BO,PO,MA,MI,MU,ME,MO,SMALL YA,YA,SMALL YU,YU",
    "SMALL YO,YO,RA,RI,RU,RE,RO,SMALL WA,WA,WI,WE,WO,N,VU,SMALL KA,SMALL KE,VA,VI,VE,VO"]⟩,
  ⟨0x30fb, "", ["KATAKANA MIDDLE DOT,KATAKANA-HIRAGANA PROLONGED SOUND MARK"]⟩,
  ⟨0x30fd, "KATAKANA ", ["ITERATION MARK,VOICED ITERATION MARK,DIGRAPH KOTO"]⟩,
  ⟨0x3105, "BOPOMOFO LETTER ", ["B,P,M,F,D,T,N,L,G,K,H,J,Q,X,ZH,CH,SH,R,Z,C,S,A,O,E,EH,AI,EI,AU,OU",
    "AN,EN,ANG,ENG,ER,I,U,IU,V,NG,GN,IH,O WITH DOT ABOVE,NN"]⟩,
  ⟨0x3131, "HANGUL LETTER ", ["KIYEOK,SSANGKIYEOK,KIYEOK-SIOS,NIEUN,NIEUN-CIEUC,NIEUN-HIEUH,TIKEUT",
    "SSANGTIKEUT,RIEUL,RIEUL-KIYEOK,RIEUL-MIEUM,RIEUL-PIEUP,RIEUL-SIOS,RIEUL-THIEUTH,RIEUL-PHIEUPH",
    "RIEUL-HIEUH,MIEUM,PIEUP,SSANGPIEUP,PIEUP-SIOS,SIOS,SSANGSIOS,IEUNG,CIEUC,SSANGCIEUC,CHIEUCH",
    "KHIEUKH,THIEUTH,PHIEUPH,HIEUH,A,AE,YA,YAE,EO,E,YEO,YE,O,WA,WAE,OE,YO,U,WEO,WE,WI,YU,EU,YI,I"]⟩,
  ⟨0x3164, "", ["HANGUL FILLER"]⟩,
  ⟨0x3165, "HANGUL LETTER ", ["SSANGNIEUN,NIEUN-TIKEUT,NIEUN-SIOS,NIEUN-PANSIOS,RIEUL-KIYEOK-SIOS",
    "RIEUL-TIKEUT,RIEUL-PIEUP-SIOS,RIEUL-PANSIOS,RIEUL-YEORINHIEUH,MIEUM-PIEUP,MIEUM-SIOS",
    "MIEUM-PANSIOS,KAPYEOUNMIEUM,PIEUP-KIYEOK,PIEUP-TIKEUT,PIEUP-SIOS-KIYEOK,PIEUP-SIOS-TIKEUT",
    "PIEUP-CIEUC,PIEUP-THIEUTH,KAPYEOUNPIEUP,KAPYEOUNSSANGPIEUP,SIOS-KIYEOK,SIOS-NIEUN,SIOS-TIKEUT",
    "SIOS-PIEUP,SIOS-CIEUC,PANSIOS,SSANGIEUNG,YESIEUNG,YESIEUNG-SIOS,YESIEUNG-PANSIOS",
    "KAPYEOUNPHIEUPH,SSANGHIEUH,YEORINHIEUH,YO-YA,YO-YAE,YO-I,YU-YEO,YU-YE,YU-I,ARAEA,ARAEAE"]⟩,
  ⟨0x3190, "IDEOGRAPHIC ANNOTATION ", ["LINKING MARK,REVERSE MARK,ONE MARK,TWO MARK,THREE MARK",
    "FOUR MARK,TOP MARK,MIDDLE MARK,BOTTOM MARK,FIRST MARK,SECOND MARK,THIRD MARK,FOURTH MARK",
    "HEAVEN MARK,EARTH MARK,MAN MARK"]⟩,
  ⟨0x31a0, "BOPOMOFO LETTER ", ["BU,ZI,JI,GU,EE,ENN,OO,ONN,IR,ANN,INN,UNN,IM,NGG,AINN,AUNN,AM,OM",
    "ONG,INNN"]⟩,
  ⟨0x31b4, "BOPOMOFO FINAL LETTER ", ["P,T,K,H"]⟩,
  ⟨0x31b8, "BOPOMOFO ", ["LETTER GH,LETTER LH,LETTER ZY,FINAL LETTER G,LETTER GW,LETTER KW",
    "LETTER OE,LETTER AH"]⟩,
  ⟨0x31c0, "CJK STROKE ", ["T,WG,XG,BXG,SW,HZZ,HZG,HP,HZWG,SZWG,HZT,HZZP,HPWG,HZW,HZZZ,N,H,S,P,SP",
    "D,HZ,HG,SZ,SWZ,ST,SG,PD,PZ,TN,SZZ,SWG,HXWG,HZZZG,PG,Q"]⟩,
  ⟨0x31f0, "KATAKANA LETTER SMALL ", ["KU,SI,SU,TO,NU,HA,HI,HU,HE,HO,MU,RA,RI,RU,RE,RO"]⟩,
  ⟨0x3200, "PARENTHESIZED HANGUL ", ["KIYEOK,NIEUN,TIKEUT,RIEUL,MIEUM,PIEUP,SIOS,IEUNG,CIEUC",
    "CHIEUCH,KHIEUKH,THIEUTH,PHIEUPH,HIEUH,KIYEOK A,NIEUN A,TIKEUT A,RIEUL A,MIEUM A,PIEUP A",
    "SIOS A,IEUNG A,CIEUC A,CHIEUCH A,KHIEUKH A,THIEUTH A,PHIEUPH A,HIEUH A,CIEUC U"]⟩,
  ⟨0x321d, "PARENTHESIZED KOREAN CHARACTER ", ["OJEON,O HU"]⟩,
  ⟨0x3220, "PARENTHESIZED IDEOGRAPH ", ["ONE,TWO,THREE,FOUR,FIVE,SIX,SEVEN,EIGHT,NINE,TEN,MOON",
    "FIRE,WATER,WOOD,METAL,EARTH,SUN,STOCK,HAVE,SOCIETY,NAME,SPECIAL,FINANCIAL,CONGRATULATION",
    "LABOR,REPRESENT,CALL,STUDY,SUPERVISE,ENTERPRISE,RESOURCE,ALLIANCE,FESTIVAL,REST,SELF,REACH"]⟩,
  ⟨0x3244, "CIRCLED IDEOGRAPH ", ["QUESTION,KINDERGARTEN,SCHOOL,KOTO"]⟩,
  ⟨0x3248, "CIRCLED NUMBER ", ["TEN ON BLACK SQUARE,TWENTY ON BLACK SQUARE,THIRTY ON BLACK SQUARE",
    "FORTY ON BLACK SQUARE,FIFTY ON BLACK SQUARE,SIXTY ON BLACK SQUARE,SEVENTY ON BLACK SQUARE",
    "EIGHTY ON BLACK SQUARE"]⟩,
  ⟨0x3250, "", ["PARTNERSHIP SIGN"]⟩,
  ⟨0x3251, "CIRCLED NUMBER TWENTY ", ["ONE,TWO,THREE,FOUR,FIVE,SIX,SEVEN,EIGHT,NINE"]⟩,
  ⟨0x325a, "CIRCLED NUMBER ", ["THIRTY,THIRTY ONE,THIRTY TWO,THIRTY THREE,THIRTY FOUR",
    "THIRTY FIVE"]⟩,
  ⟨0x3260, "CIRCLED HANGUL ", ["KIYEOK,NIEUN,TIKEUT,RIEUL,MIEUM,PIEUP,SIOS,IEUNG,CIEUC,CHIEUCH",
    "KHIEUKH,THIEUTH,PHIEUPH,HIEUH,KIYEOK A,NIEUN A,TIKEUT A,RIEUL A,MIEUM A,PIEUP A,SIOS A",
    "IEUNG A,CIEUC A,CHIEUCH A,KHIEUKH A,THIEUTH A,PHIEUPH A,HIEUH A"]⟩,
  ⟨0x327c, "CIRCLED KOREAN CHARACTER ", ["CHAMKO,JUEUI"]⟩,
  ⟨0x327e, "", ["CIRCLED HANGUL IEUNG U,KOREAN STANDARD SYMBOL"]⟩,
  ⟨0x3280, "CIRCLED IDEOGRAPH ", ["ONE,TWO,THREE,FOUR,FIVE,SIX,SEVEN,EIGHT,NINE,TEN,MOON,FIRE",
    "WATER,WOOD,METAL,EARTH,SUN,STOCK,HAVE,SOCIETY,NAME,SPECIAL,FINANCIAL,CONGRATULATION,LABOR",
    "SECRET,MALE,FEMALE,SUITABLE,EXCELLENT,PRINT,ATTENTION,ITEM,REST,COPY,CORRECT,HIGH,CENTRE,LOW",
    "LEFT,RIGHT,MEDICINE,RELIGION,STUDY,SUPERVISE,ENTERPRISE,RESOURCE,ALLIANCE,NIGHT"]⟩,
  ⟨0x32b1, "CIRCLED NUMBER ", ["THIRTY SIX,THIRTY SEVEN,THIRTY EIGHT,THIRTY NINE,FORTY,FORTY ONE",
    "FORTY TWO,FORTY THREE,FORTY FOUR,FORTY FIVE,FORTY SIX,FORTY SEVEN,FORTY EIGHT,FORTY NINE",
    "FIFTY"]⟩,
  ⟨0x32c0, "IDEOGRAPHIC TELEGRAPH SYMBOL FOR ", ["JANUARY,FEBRUARY,MARCH,APRIL,MAY,JUNE,JULY",
    "AUGUST,SEPTEMBER,OCTOBER,NOVEMBER,DECEMBER"]⟩,
  ⟨0x32cc, "", ["SQUARE HG,SQUARE ERG,SQUARE EV,LIMITED LIABILITY SIGN"]⟩,
  ⟨0x32d0, "CIRCLED KATAKANA ", ["A,I,U,E,O,KA,KI,KU,KE,KO,SA,SI,SU,SE,SO,TA,TI,TU,TE,TO,NA,NI,NU",
    "NE,NO,HA,HI,HU,HE,HO,MA,MI,MU,ME,MO,YA,YU,YO,RA,RI,RU,RE,RO,WA,WI,WE,WO"]⟩,
  ⟨0x32ff, "SQUARE ", ["ERA NAME REIWA,APAATO,ARUHUA,ANPEA,AARU,ININGU,INTI,UON,ESUKUUDO,EEKAA",
    "ONSU,OOMU,KAIRI,KARATTO,KARORII,GARON,GANMA,GIGA,GINII,KYURII,GIRUDAA,KIRO,KIROGURAMU",
    "KIROMEETORU,KIROWATTO,GURAMU,GURAMUTON,KURUZEIRO,KUROONE,KEESU,KORUNA,KOOPO,SAIKURU,SANTIIMU",
    "SIRINGU,SENTI,SENTO,DAASU,DESI,DORU,TON,NANO,NOTTO,HAITU,PAASENTO,PAATU,BAARERU,PIASUTORU",
    "PIKURU,PIKO,BIRU,HUARADDO,HUIITO,BUSSYERU,HURAN,HEKUTAARU,PESO,PENIHI,HERUTU,PENSU,PEEZI",
    "BEETA,POINTO,BORUTO,HON,PONDO,HOORU,HOON,MAIKURO,MAIRU,MAHHA,MARUKU,MANSYON,MIKURON,MIRI",
    "MIRIBAARU,MEGA,MEGATON,MEETORU,YAADO,YAARU,YUAN,RITTORU,RIRA,RUPII,RUUBURU,REMU,RENTOGEN",
    "WATTO"]⟩,
  ⟨0x3358, "IDEOGRAPHIC TELEGRAPH SYMBOL FOR HOUR ", ["ZERO,ONE,TWO,THREE,FOUR,FIVE,SIX,SEVEN",
    "EIGHT,NINE,TEN,ELEVEN,TWELVE,THIRTEEN,FOURTEEN,FIFTEEN,SIXTEEN,SEVENTEEN,EIGHTEEN,NINETEEN",
    "TWENTY,TWENTY-ONE,TWENTY-TWO,TWENTY-THREE,TWENTY-FOUR"]⟩,
  ⟨0x3371, "SQUARE ", ["HPA,DA,AU,BAR,OV,PC,DM,DM SQUARED,DM CUBED,IU,ERA NAME HEISEI",
    "ERA NAME SYOUWA,ERA NAME TAISYOU,ERA NAME MEIZI,CORPORATION,PA AMPS,NA,MU A,MA,KA,KB,MB,GB",
    "CAL,KCAL,PF,NF,MU F,MU G,MG,KG,HZ,KHZ,MHZ,GHZ,THZ,MU L,ML,DL,KL,FM,NM,MU M,MM,CM,KM",
    "MM SQUARED,CM SQUARED,M SQUARED,KM SQUARED,MM CUBED,CM CUBED,M CUBED,KM CUBED,M OVER S",
    "M OVER S SQUARED,PA,KPA,MPA,GPA,RAD,RAD OVER S,RAD OVER S SQUARED,PS,NS,MU S,MS,PV,NV,MU V,MV",
    "KV,MV MEGA,PW,NW,MU W,MW,KW,MW MEGA,K OHM,M OHM,AM,BQ,CC,CD,C OVER KG,CO,DB,GY,HA,HP,IN,KK",
    "KM CAPITAL,KT,LM,LN,LOG,LX,MB SMALL,MIL,MOL,PH,PM,PPM,PR,SR,SV,WB,V OVER M,A OVER M"]⟩,
  ⟨0x33e0, "IDEOGRAPHIC TELEGRAPH SYMBOL FOR DAY ", ["ONE,TWO,THREE,FOUR,FIVE,SIX,SEVEN,EIGHT,NINE",
    "TEN,ELEVEN,TWELVE,THIRTEEN,FOURTEEN,FIFTEEN,SIXTEEN,SEVENTEEN,EIGHTEEN,NINETEEN,TWENTY",
    "TWENTY-ONE,TWENTY-TWO,TWENTY-THREE,TWENTY-FOUR,TWENTY-FIVE,TWENTY-SIX,TWENTY-SEVEN",
    "TWENTY-EIGHT,TWENTY-NINE,THIRTY,THIRTY-ONE"]⟩,
  ⟨0x33ff, "", ["SQUARE GAL"]⟩,
  ⟨0x4dc0, "HEXAGRAM FOR ", ["THE CREATIVE HEAVEN,THE RECEPTIVE EARTH,DIFFICULTY AT THE BEGINNING",
    "YOUTHFUL FOLLY,WAITING,CONFLICT,THE ARMY,HOLDING TOGETHER,SMALL TAMING,TREADING,PEACE",
    "STANDSTILL,FELLOWSHIP,GREAT POSSESSION,MODESTY,ENTHUSIASM,FOLLOWING,WORK ON THE DECAYED",
    "APPROACH,CONTEMPLATION,BITING THROUGH,GRACE,SPLITTING APART,RETURN,INNOCENCE,GREAT TAMING",
    "MOUTH CORNERS,GREAT PREPONDERANCE,THE ABYSMAL WATER,THE CLINGING FIRE,INFLUENCE,DURATION",
    "RETREAT,GREAT POWER,PROGRESS,DARKENING OF THE LIGHT,THE FAMILY,OPPOSITION,OBSTRUCTION",
    "DELIVERANCE,DECREASE,INCREASE,BREAKTHROUGH,COMING TO MEET,GATHERING TOGETHER,PUSHING UPWARD",
    "OPPRESSION,THE WELL,REVOLUTION,THE CAULDRON,THE AROUSING THUNDER,THE KEEPING STILL MOUNTAIN",
    "DEVELOPMENT,THE MARRYING MAIDEN,ABUNDANCE,THE WANDERER,THE GENTLE WIND,THE JOYOUS LAKE",
    "DISPERSION,LIMITATION,INNER TRUTH,SMALL PREPONDERANCE,AFTER COMPLETION,BEFORE COMPLETION"]⟩]

end Conform.Text.Table
