import Conform.Text.Table.Name.Run

/-!
# Names of emblems

The names of the characters from U+1E000 to U+1F5FF: further scripts, tiles, cards, enclosed
letters and pictographs.
-/

namespace Conform.Text.Table

/-- Runs of the names of emblems. -/
def emblemNames : List NameRun := [
  ⟨0x1e000, "COMBINING GLAGOLITIC LETTER ", ["AZU,BUKY,VEDE,GLAGOLI,DOBRO,YESTU,ZHIVETE"]⟩,
  ⟨0x1e008, "COMBINING GLAGOLITIC LETTER ", ["ZEMLJA,IZHE,INITIAL IZHE,I,DJERVI,KAKO,LJUDIJE",
    "MYSLITE,NASHI,ONU,POKOJI,RITSI,SLOVO,TVRIDO,UKU,FRITU,HERU"]⟩,
  ⟨0x1e01b, "COMBINING GLAGOLITIC LETTER ", ["SHTA,TSI,CHRIVI,SHA,YERU,YERI,YATI"]⟩,
  ⟨0x1e023, "COMBINING GLAGOLITIC LETTER ", ["YU,SMALL YUS"]⟩,
  ⟨0x1e026, "COMBINING GLAGOLITIC LETTER ", ["YO,IOTATED SMALL YUS,BIG YUS,IOTATED BIG YUS,FITA"]⟩,
  ⟨0x1e100, "NYIAKENG PUACHUE HMONG LETTER ", ["MA,TSA,NTA,TA,HA,NA,XA,NKA,CA,LA,SA,ZA,NCA,NTSA,KA",
    "DA,NYA,NRA,VA,NTXA,TXA,FA,RA,QA,YA,NQA,PA,XYA,NPA,DLA,NPLA,HAH,MLA,PLA,GA,RRA,A,AA,I,U,O,OO,E",
    "EE,W"]⟩,
  ⟨0x1e130, "NYIAKENG PUACHUE HMONG ", ["TONE-B,TONE-M,TONE-J,TONE-V,TONE-S,TONE-G,TONE-D",
    "SIGN FOR PERSON,SIGN FOR THING,SIGN FOR LOCATION,SIGN FOR ANIMAL,SIGN FOR INVERTEBRATE",
    "SIGN XW XW,SYLLABLE LENGTHENER"]⟩,
  ⟨0x1e140, "NYIAKENG PUACHUE HMONG DIGIT ", ["ZERO,ONE,TWO,THREE,FOUR,FIVE,SIX,SEVEN,EIGHT,NINE"]⟩,
  ⟨0x1e14e, "NYIAKENG PUACHUE HMONG ", ["LOGOGRAM NYAJ,CIRCLED CA"]⟩,
  ⟨0x1e290, "TOTO LETTER ", ["PA,BA,TA,DA,KA,GA,MA,NA,NGA,SA,CHA,YA,WA,JA,HA,RA,LA,I,BREATHY I,IU",
    "BREATHY IU,U,E,BREATHY E,EO,BREATHY EO,O,AE,BREATHY AE,A"]⟩,
  ⟨0x1e2ae, "", ["TOTO SIGN RISING TONE"]⟩,
  ⟨0x1e2c0, "WANCHO LETTER ", ["AA,A,BA,CA,DA,GA,YA,PHA,LA,NA,PA,TA,THA,FA,SA,SHA,JA,ZA,WA,VA,KA,O",
    "AU,RA,MA,KHA,HA,E,I,NGA,U,LLHA,TSA,TRA,ONG,AANG,ANG,ING,ON,EN,AAN,NYA,UEN,YIH"]⟩,
  ⟨0x1e2ec, "WANCHO TONE ", ["TUP,TUPNI,KOI,KOINI"]⟩,
  ⟨0x1e2f0, "WANCHO DIGIT ", ["ZERO,ONE,TWO,THREE,FOUR,FIVE,SIX,SEVEN,EIGHT,NINE"]⟩,
  ⟨0x1e2ff, "", ["WANCHO NGUN SIGN"]⟩,
  ⟨0x1e7e0, "ETHIOPIC SYLLABLE ", ["HHYA,HHYU,HHYI,HHYAA,HHYEE,HHYE,HHYO"]⟩,
  ⟨0x1e7e8, "ETHIOPIC SYLLABLE ", ["GURAGE HHWA,HHWI,HHWEE,HHWE"]⟩,
  ⟨0x1e7ed, "ETHIOPIC SYLLABLE GURAGE ", ["MWI,MWEE"]⟩,
  ⟨0x1e7f0, "ETHIOPIC SYLLABLE GURAGE ", ["QWI,QWEE,QWE,BWI,BWEE,KWI,KWEE,KWE,GWI,GWEE,GWE,FWI",
    "FWEE,PWI,PWEE"]⟩,
  ⟨0x1e800, "MENDE KIKAKUI SYLLABLE ", ["M001 KI,M002 KA,M003 KU,M065 KEE,M095 KE,M076 KOO,M048 KO",
    "M179 KUA,M004 WI,M005 WA,M006 WU,M126 WEE,M118 WE,M114 WOO,M045 WO,M194 WUI,M143 WEI,M061 WVI",
    "M049 WVA,M139 WVE,M007 MIN,M008 MAN,M009 MUN,M059 MEN,M094 MON,M154 MUAN,M189 MUEN,M010 BI",
    "M011 BA,M012 BU,M150 BEE,M097 BE,M103 BOO,M138 BO,M013 I,M014 A,M015 U,M163 EE,M100 E,M165 OO",
    "M147 O,M137 EI,M131 IN,M135 IN,M195 AN,M178 EN,M019 SI,M020 SA,M021 SU,M162 SEE,M116 SE",
    "M136 SOO,M079 SO,M196 SIA,M025 LI,M026 LA,M027 LU,M084 LEE,M073 LE,M054 LOO,M153 LO",
    "M110 LONG LE,M016 DI,M017 DA,M018 DU,M089 DEE,M180 DOO,M181 DO,M022 TI,M023 TA,M024 TU",
    "M091 TEE,M055 TE,M104 TOO,M069 TO,M028 JI,M029 JA,M030 JU,M157 JEE,M113 JE,M160 JOO,M063 JO",
    "M175 LONG JO,M031 YI,M032 YA,M033 YU,M109 YEE,M080 YE,M141 YOO,M121 YO,M034 FI,M035 FA",
    "M036 FU,M078 FEE,M075 FE,M133 FOO,M088 FO,M197 FUA,M101 FAN,M037 NIN,M038 NAN,M039 NUN",
    "M117 NEN,M169 NON,M176 HI,M041 HA,M186 HU,M040 HEE,M096 HE,M042 HOO,M140 HO,M083 HEEI",
    "M128 HOOU,M053 HIN,M130 HAN,M087 HUN,M052 HEN,M193 HON,M046 HUAN,M090 NGGI,M043 NGGA",
    "M082 NGGU,M115 NGGEE,M146 NGGE,M156 NGGOO,M120 NGGO,M159 NGGAA,M127 NGGUA,M086 LONG NGGE",
    "M106 LONG NGGOO,M183 LONG NGGO,M155 GI,M111 GA,M168 GU,M190 GEE,M166 GUEI,M167 GUAN,M184 NGEN",
    "M057 NGON,M177 NGUAN,M068 PI,M099 PA,M050 PU,M081 PEE,M051 PE,M102 POO,M066 PO,M145 MBI",
    "M062 MBA,M122 MBU,M047 MBEE,M188 MBEE,M072 MBE,M172 MBOO,M174 MBO,M187 MBUU,M161 LONG MBE",
    "M105 LONG MBOO,M142 LONG MBO,M132 KPI,M092 KPA,M074 KPU,M044 KPEE,M108 KPE,M112 KPOO,M158 KPO",
    "M124 GBI,M056 GBA,M148 GBU,M093 GBEE,M107 GBE,M071 GBOO,M070 GBO,M171 RA,M123 NDI,M129 NDA",
    "M125 NDU,M191 NDEE,M119 NDE,M067 NDOO,M064 NDO,M152 NJA,M192 NJU,M149 NJEE,M134 NJOO,M182 VI",
    "M185 VA,M151 VU,M173 VEE,M085 VE,M144 VOO,M077 VO,M164 NYIN,M058 NYAN,M170 NYUN,M098 NYEN",
    "M060 NYON"]⟩,
  ⟨0x1e8c7, "MENDE KIKAKUI DIGIT ", ["ONE,TWO,THREE,FOUR,FIVE,SIX,SEVEN,EIGHT,NINE"]⟩,
  ⟨0x1e8d0, "MENDE KIKAKUI COMBINING NUMBER ", ["TEENS,TENS,HUNDREDS,THOUSANDS,TEN THOUSANDS",
    "HUNDRED THOUSANDS,MILLIONS"]⟩,
  ⟨0x1e900, "ADLAM CAPITAL LETTER ", ["ALIF,DAALI,LAAM,MIIM,BA,SINNYIIYHE,PE,BHE,RA,E,FA,I,O,DHA",
    "YHE,WAW,NUN,KAF,YA,U,JIIM,CHI,HA,QAAF,GA,NYA,TU,NHA,VA,KHA,GBE,ZAL,KPO,SHA"]⟩,
  ⟨0x1e922, "ADLAM SMALL LETTER ", ["ALIF,DAALI,LAAM,MIIM,BA,SINNYIIYHE,PE,BHE,RA,E,FA,I,O,DHA,YHE",
    "WAW,NUN,KAF,YA,U,JIIM,CHI,HA,QAAF,GA,NYA,TU,NHA,VA,KHA,GBE,ZAL,KPO,SHA"]⟩,
  ⟨0x1e944, "ADLAM ", ["ALIF LENGTHENER,VOWEL LENGTHENER,GEMINATION MARK,HAMZA,CONSONANT MODIFIER",
    "GEMINATE CONSONANT MODIFIER,NUKTA,NASALIZATION MARK"]⟩,
  ⟨0x1e950, "ADLAM DIGIT ", ["ZERO,ONE,TWO,THREE,FOUR,FIVE,SIX,SEVEN,EIGHT,NINE"]⟩,
  ⟨0x1e95e, "ADLAM INITIAL ", ["EXCLAMATION MARK,QUESTION MARK"]⟩,
  ⟨0x1ec71, "INDIC SIYAQ NUMBER ", ["ONE,TWO,THREE,FOUR,FIVE,SIX,SEVEN,EIGHT,NINE,TEN,TWENTY",
    "THIRTY,FORTY,FIFTY,SIXTY,SEVENTY,EIGHTY,NINETY,ONE HUNDRED,TWO HUNDRED,THREE HUNDRED",
    "FOUR HUNDRED,FIVE HUNDRED,SIX HUNDRED,SEVEN HUNDRED,EIGHT HUNDRED,NINE HUNDRED,ONE THOUSAND",
    "TWO THOUSAND,THREE THOUSAND,FOUR THOUSAND,FIVE THOUSAND,SIX THOUSAND,SEVEN THOUSAND",
    "EIGHT THOUSAND,NINE THOUSAND,TEN THOUSAND,TWENTY THOUSAND,THIRTY THOUSAND,FORTY THOUSAND",
    "FIFTY THOUSAND,SIXTY THOUSAND,SEVENTY THOUSAND,EIGHTY THOUSAND,NINETY THOUSAND,LAKH,LAKHAN"]⟩,
  ⟨0x1eca0, "INDIC SIYAQ ", ["LAKH MARK,NUMBER KAROR,NUMBER KARORAN"]⟩,
  ⟨0x1eca3, "INDIC SIYAQ NUMBER PREFIXED ", ["ONE,TWO,THREE,FOUR,FIVE,SIX,SEVEN,EIGHT,NINE"]⟩,
  ⟨0x1ecac, "INDIC SIYAQ ", ["PLACEHOLDER,FRACTION ONE QUARTER,FRACTION ONE HALF",
    "FRACTION THREE QUARTERS,RUPEE MARK,NUMBER ALTERNATE ONE,NUMBER ALTERNATE TWO",
    "NUMBER ALTERNATE TEN THOUSAND,ALTERNATE LAKH MARK"]⟩,
  ⟨0x1ed01, "OTTOMAN SIYAQ NUMBER ", ["ONE,TWO,THREE,FOUR,FIVE,SIX,SEVEN,EIGHT,NINE,TEN,TWENTY",
    "THIRTY,FORTY,FIFTY,SIXTY,SEVENTY,EIGHTY,NINETY,ONE HUNDRED,TWO HUNDRED,THREE HUNDRED",
    "FOUR HUNDRED,FIVE HUNDRED,SIX HUNDRED,SEVEN HUNDRED,EIGHT HUNDRED,NINE HUNDRED,ONE THOUSAND",
    "TWO THOUSAND,THREE THOUSAND,FOUR THOUSAND,FIVE THOUSAND,SIX THOUSAND,SEVEN THOUSAND",
    "EIGHT THOUSAND,NINE THOUSAND,TEN THOUSAND,TWENTY THOUSAND,THIRTY THOUSAND,FORTY THOUSAND",
    "FIFTY THOUSAND,SIXTY THOUSAND,SEVENTY THOUSAND,EIGHTY THOUSAND,NINETY THOUSAND"]⟩,
  ⟨0x1ed2e, "", ["OTTOMAN SIYAQ MARRATAN"]⟩,
  ⟨0x1ed2f, "OTTOMAN SIYAQ ALTERNATE NUMBER ", ["TWO,THREE,FOUR,FIVE,SIX,SEVEN,EIGHT,NINE,TEN",
    "FOUR HUNDRED,SIX HUNDRED,TWO THOUSAND,TEN THOUSAND"]⟩,
  ⟨0x1ed3c, "OTTOMAN SIYAQ FRACTION ONE ", ["HALF,SIXTH"]⟩,
  ⟨0x1ee00, "ARABIC MATHEMATICAL ", ["ALEF,BEH,JEEM,DAL"]⟩,
  ⟨0x1ee05, "ARABIC MATHEMATICAL ", ["WAW,ZAIN,HAH,TAH,YEH,KAF,LAM,MEEM,NOON,SEEN,AIN,FEH,SAD,QAF",
    "REH,SHEEN,TEH,THEH,KHAH,THAL,DAD,ZAH,GHAIN,DOTLESS BEH,DOTLESS NOON,DOTLESS FEH,DOTLESS QAF"]⟩,
  ⟨0x1ee21, "ARABIC MATHEMATICAL INITIAL ", ["BEH,JEEM"]⟩,
  ⟨0x1ee24, "", ["ARABIC MATHEMATICAL INITIAL HEH"]⟩,
  ⟨0x1ee27, "", ["ARABIC MATHEMATICAL INITIAL HAH"]⟩,
  ⟨0x1ee29, "ARABIC MATHEMATICAL INITIAL ", ["YEH,KAF,LAM,MEEM,NOON,SEEN,AIN,FEH,SAD,QAF"]⟩,
  ⟨0x1ee34, "ARABIC MATHEMATICAL INITIAL ", ["SHEEN,TEH,THEH,KHAH"]⟩,
  ⟨0x1ee39, "", ["ARABIC MATHEMATICAL INITIAL DAD"]⟩,
  ⟨0x1ee3b, "", ["ARABIC MATHEMATICAL INITIAL GHAIN"]⟩,
  ⟨0x1ee42, "", ["ARABIC MATHEMATICAL TAILED JEEM"]⟩,
  ⟨0x1ee47, "", ["ARABIC MATHEMATICAL TAILED HAH"]⟩,
  ⟨0x1ee49, "", ["ARABIC MATHEMATICAL TAILED YEH"]⟩,
  ⟨0x1ee4b, "", ["ARABIC MATHEMATICAL TAILED LAM"]⟩,
  ⟨0x1ee4d, "ARABIC MATHEMATICAL TAILED ", ["NOON,SEEN,AIN"]⟩,
  ⟨0x1ee51, "ARABIC MATHEMATICAL TAILED ", ["SAD,QAF"]⟩,
  ⟨0x1ee54, "", ["ARABIC MATHEMATICAL TAILED SHEEN"]⟩,
  ⟨0x1ee57, "", ["ARABIC MATHEMATICAL TAILED KHAH"]⟩,
  ⟨0x1ee59, "", ["ARABIC MATHEMATICAL TAILED DAD"]⟩,
  ⟨0x1ee5b, "", ["ARABIC MATHEMATICAL TAILED GHAIN"]⟩,
  ⟨0x1ee5d, "", ["ARABIC MATHEMATICAL TAILED DOTLESS NOON"]⟩,
  ⟨0x1ee5f, "", ["ARABIC MATHEMATICAL TAILED DOTLESS QAF"]⟩,
  ⟨0x1ee61, "ARABIC MATHEMATICAL STRETCHED ", ["BEH,JEEM"]⟩,
  ⟨0x1ee64, "", ["ARABIC MATHEMATICAL STRETCHED HEH"]⟩,
  ⟨0x1ee67, "ARABIC MATHEMATICAL STRETCHED ", ["HAH,TAH,YEH,KAF"]⟩,
  ⟨0x1ee6c, "ARABIC MATHEMATICAL STRETCHED ", ["MEEM,NOON,SEEN,AIN,FEH,SAD,QAF"]⟩,
  ⟨0x1ee74, "ARABIC MATHEMATICAL STRETCHED ", ["SHEEN,TEH,THEH,KHAH"]⟩,
  ⟨0x1ee79, "ARABIC MATHEMATICAL STRETCHED ", ["DAD,ZAH,GHAIN,DOTLESS BEH"]⟩,
  ⟨0x1ee7e, "", ["ARABIC MATHEMATICAL STRETCHED DOTLESS FEH"]⟩,
  ⟨0x1ee80, "ARABIC MATHEMATICAL LOOPED ", ["ALEF,BEH,JEEM,DAL,HEH,WAW,ZAIN,HAH,TAH,YEH"]⟩,
  ⟨0x1ee8b, "ARABIC MATHEMATICAL LOOPED ", ["LAM,MEEM,NOON,SEEN,AIN,FEH,SAD,QAF,REH,SHEEN,TEH,THEH",
    "KHAH,THAL,DAD,ZAH,GHAIN"]⟩,
  ⟨0x1eea1, "ARABIC MATHEMATICAL DOUBLE-STRUCK ", ["BEH,JEEM,DAL"]⟩,
  ⟨0x1eea5, "ARABIC MATHEMATICAL DOUBLE-STRUCK ", ["WAW,ZAIN,HAH,TAH,YEH"]⟩,
  ⟨0x1eeab, "ARABIC MATHEMATICAL DOUBLE-STRUCK ", ["LAM,MEEM,NOON,SEEN,AIN,FEH,SAD,QAF,REH,SHEEN",
    "TEH,THEH,KHAH,THAL,DAD,ZAH,GHAIN"]⟩,
  ⟨0x1eef0, "ARABIC MATHEMATICAL OPERATOR ", ["MEEM WITH HAH WITH TATWEEL,HAH WITH DAL"]⟩,
  ⟨0x1f000, "MAHJONG TILE ", ["EAST WIND,SOUTH WIND,WEST WIND,NORTH WIND,RED DRAGON,GREEN DRAGON",
    "WHITE DRAGON,ONE OF CHARACTERS,TWO OF CHARACTERS,THREE OF CHARACTERS,FOUR OF CHARACTERS",
    "FIVE OF CHARACTERS,SIX OF CHARACTERS,SEVEN OF CHARACTERS,EIGHT OF CHARACTERS",
    "NINE OF CHARACTERS,ONE OF BAMBOOS,TWO OF BAMBOOS,THREE OF BAMBOOS,FOUR OF BAMBOOS",
    "FIVE OF BAMBOOS,SIX OF BAMBOOS,SEVEN OF BAMBOOS,EIGHT OF BAMBOOS,NINE OF BAMBOOS",
    "ONE OF CIRCLES,TWO OF CIRCLES,THREE OF CIRCLES,FOUR OF CIRCLES,FIVE OF CIRCLES,SIX OF CIRCLES",
    "SEVEN OF CIRCLES,EIGHT OF CIRCLES,NINE OF CIRCLES,PLUM,ORCHID,BAMBOO,CHRYSANTHEMUM,SPRING",
    "SUMMER,AUTUMN,WINTER,JOKER,BACK"]⟩,
  ⟨0x1f030, "", ["DOMINO TILE HORIZONTAL BACK"]⟩,
  ⟨0x1f031, "DOMINO TILE HORIZONTAL-", ["00-00,00-01,00-02,00-03,00-04,00-05,00-06,01-00,01-01",
    "01-02,01-03,01-04,01-05,01-06,02-00,02-01,02-02,02-03,02-04,02-05,02-06,03-00,03-01,03-02",
    "03-03,03-04,03-05,03-06,04-00,04-01,04-02,04-03,04-04,04-05,04-06,05-00,05-01,05-02,05-03",
    "05-04,05-05,05-06,06-00,06-01,06-02,06-03,06-04,06-05,06-06"]⟩,
  ⟨0x1f062, "", ["DOMINO TILE VERTICAL BACK"]⟩,
  ⟨0x1f063, "DOMINO TILE VERTICAL-", ["00-00,00-01,00-02,00-03,00-04,00-05,00-06,01-00,01-01,01-02",
    "01-03,01-04,01-05,01-06,02-00,02-01,02-02,02-03,02-04,02-05,02-06,03-00,03-01,03-02,03-03",
    "03-04,03-05,03-06,04-00,04-01,04-02,04-03,04-04,04-05,04-06,05-00,05-01,05-02,05-03,05-04",
    "05-05,05-06,06-00,06-01,06-02,06-03,06-04,06-05,06-06"]⟩,
  ⟨0x1f0a0, "PLAYING CARD ", ["BACK,ACE OF SPADES,TWO OF SPADES,THREE OF SPADES,FOUR OF SPADES",
    "FIVE OF SPADES,SIX OF SPADES,SEVEN OF SPADES,EIGHT OF SPADES,NINE OF SPADES,TEN OF SPADES",
    "JACK OF SPADES,KNIGHT OF SPADES,QUEEN OF SPADES,KING OF SPADES"]⟩,
  ⟨0x1f0b1, "PLAYING CARD ", ["ACE OF HEARTS,TWO OF HEARTS,THREE OF HEARTS,FOUR OF HEARTS",
    "FIVE OF HEARTS,SIX OF HEARTS,SEVEN OF HEARTS,EIGHT OF HEARTS,NINE OF HEARTS,TEN OF HEARTS",
    "JACK OF HEARTS,KNIGHT OF HEARTS,QUEEN OF HEARTS,KING OF HEARTS,RED JOKER"]⟩,
  ⟨0x1f0c1, "PLAYING CARD ", ["ACE OF DIAMONDS,TWO OF DIAMONDS,THREE OF DIAMONDS,FOUR OF DIAMONDS",
    "FIVE OF DIAMONDS,SIX OF DIAMONDS,SEVEN OF DIAMONDS,EIGHT OF DIAMONDS,NINE OF DIAMONDS",
    "TEN OF DIAMONDS,JACK OF DIAMONDS,KNIGHT OF DIAMONDS,QUEEN OF DIAMONDS,KING OF DIAMONDS",
    "BLACK JOKER"]⟩,
  ⟨0x1f0d1, "PLAYING CARD ", ["ACE OF CLUBS,TWO OF CLUBS,THREE OF CLUBS,FOUR OF CLUBS",
    "FIVE OF CLUBS,SIX OF CLUBS,SEVEN OF CLUBS,EIGHT OF CLUBS,NINE OF CLUBS,TEN OF CLUBS",
    "JACK OF CLUBS,KNIGHT OF CLUBS,QUEEN OF CLUBS,KING OF CLUBS,WHITE JOKER,FOOL"]⟩,
  ⟨0x1f0e1, "PLAYING CARD TRUMP-", ["1,2,3,4,5,6,7,8,9,10,11,12,13,14,15,16,17,18,19,20,21"]⟩,
  ⟨0x1f100, "DIGIT ", ["ZERO FULL STOP,ZERO COMMA,ONE COMMA,TWO COMMA,THREE COMMA,FOUR COMMA",
    "FIVE COMMA,SIX COMMA,SEVEN COMMA,EIGHT COMMA,NINE COMMA"]⟩,
  ⟨0x1f10b, "DINGBAT ", ["CIRCLED SANS-SERIF DIGIT ZERO,NEGATIVE CIRCLED SANS-SERIF DIGIT ZERO"]⟩,
  ⟨0x1f10d, "CIRCLED ", ["ZERO WITH SLASH,ANTICLOCKWISE ARROW",
    "DOLLAR SIGN WITH OVERLAID BACKSLASH"]⟩,
  ⟨0x1f110, "PARENTHESIZED LATIN CAPITAL LETTER ", ["A,B,C,D,E,F,G,H,I,J,K,L,M,N,O,P,Q,R,S,T,U,V,W",
    "X,Y,Z"]⟩,
  ⟨0x1f12a, "", ["TORTOISE SHELL BRACKETED LATIN CAPITAL LETTER S"]⟩,
  ⟨0x1f12b, "CIRCLED ITALIC LATIN CAPITAL LETTER ", ["C,R"]⟩,
  ⟨0x1f12d, "", ["CIRCLED CD,CIRCLED WZ,COPYLEFT SYMBOL"]⟩,
  ⟨0x1f130, "SQUARED LATIN CAPITAL LETTER ", ["A,B,C,D,E,F,G,H,I,J,K,L,M,N,O,P,Q,R,S,T,U,V,W,X,Y",
    "Z"]⟩,
  ⟨0x1f14a, "SQUARED ", ["HV,MV,SD,SS,PPV,WC"]⟩,
  ⟨0x1f150, "NEGATIVE CIRCLED LATIN CAPITAL LETTER ", ["A,B,C,D,E,F,G,H,I,J,K,L,M,N,O,P,Q,R,S,T,U",
    "V,W,X,Y,Z"]⟩,
  ⟨0x1f16a, "RAISED ", ["MC SIGN,MD SIGN,MR SIGN"]⟩,
  ⟨0x1f16d, "CIRCLED ", ["CC,C WITH OVERLAID BACKSLASH,HUMAN FIGURE"]⟩,
  ⟨0x1f170, "NEGATIVE SQUARED LATIN CAPITAL LETTER ", ["A,B,C,D,E,F,G,H,I,J,K,L,M,N,O,P,Q,R,S,T,U",
    "V,W,X,Y,Z"]⟩,
  ⟨0x1f18a, "", ["CROSSED NEGATIVE SQUARED LATIN CAPITAL LETTER P"]⟩,
  ⟨0x1f18b, "NEGATIVE SQUARED ", ["IC,PA,SA,AB,WC"]⟩,
  ⟨0x1f190, "", ["SQUARE DJ"]⟩,
  ⟨0x1f191, "SQUARED ", ["CL,COOL,FREE,ID,NEW,NG,OK,SOS,UP WITH EXCLAMATION MARK,VS,THREE D",
    "SECOND SCREEN,TWO K,FOUR K,EIGHT K,FIVE POINT ONE,SEVEN POINT ONE,TWENTY-TWO POINT TWO",
    "SIXTY P,ONE HUNDRED TWENTY P,LATIN SMALL LETTER D,HC,HDR,HI-RES,LOSSLESS,SHV,UHD,VOD"]⟩,
  ⟨0x1f1ad, "", ["MASK WORK SYMBOL"]⟩,
  ⟨0x1f1e6, "REGIONAL INDICATOR SYMBOL LETTER ", ["A,B,C,D,E,F,G,H,I,J,K,L,M,N,O,P,Q,R,S,T,U,V,W,X",
    "Y,Z"]⟩,
  ⟨0x1f200, "", ["SQUARE HIRAGANA HOKA,SQUARED KATAKANA KOKO,SQUARED KATAKANA SA"]⟩,
  ⟨0x1f210, "SQUARED CJK UNIFIED IDEOGRAPH-", ["624B,5B57,53CC"]⟩,
  ⟨0x1f213, "", ["SQUARED KATAKANA DE"]⟩,
  ⟨0x1f214, "SQUARED CJK UNIFIED IDEOGRAPH-", ["4E8C,591A,89E3,5929,4EA4,6620,7121,6599,524D,5F8C",
    "518D,65B0,521D,7D42,751F,8CA9,58F0,5439,6F14,6295,6355,4E00,4E09,904A,5DE6,4E2D,53F3,6307",
    "8D70,6253,7981,7A7A,5408,6E80,6709,6708,7533,5272,55B6,914D"]⟩,
  ⟨0x1f240, "TORTOISE SHELL BRACKETED CJK UNIFIED IDEOGRAPH-", ["672C,4E09,4E8C,5B89,70B9,6253",
    "76D7,52DD,6557"]⟩,
  ⟨0x1f250, "CIRCLED IDEOGRAPH ", ["ADVANTAGE,ACCEPT"]⟩,
  ⟨0x1f260, "ROUNDED SYMBOL FOR ", ["FU,LU,SHOU,XI,SHUANGXI,CAI"]⟩,
  ⟨0x1f300, "", ["CYCLONE,FOGGY,CLOSED UMBRELLA,NIGHT WITH STARS,SUNRISE OVER MOUNTAINS,SUNRISE",
    "CITYSCAPE AT DUSK,SUNSET OVER BUILDINGS,RAINBOW,BRIDGE AT NIGHT,WATER WAVE,VOLCANO,MILKY WAY",
    "EARTH GLOBE EUROPE-AFRICA,EARTH GLOBE AMERICAS,EARTH GLOBE ASIA-AUSTRALIA",
    "GLOBE WITH MERIDIANS,NEW MOON SYMBOL,WAXING CRESCENT MOON SYMBOL,FIRST QUARTER MOON SYMBOL",
    "WAXING GIBBOUS MOON SYMBOL,FULL MOON SYMBOL,WANING GIBBOUS MOON SYMBOL",
    "LAST QUARTER MOON SYMBOL,WANING CRESCENT MOON SYMBOL,CRESCENT MOON,NEW MOON WITH FACE",
    "FIRST QUARTER MOON WITH FACE,LAST QUARTER MOON WITH FACE,FULL MOON WITH FACE,SUN WITH FACE",
    "GLOWING STAR,SHOOTING STAR,THERMOMETER,BLACK DROPLET,WHITE SUN"]⟩,
  ⟨0x1f324, "WHITE SUN ", ["WITH SMALL CLOUD,BEHIND CLOUD,BEHIND CLOUD WITH RAIN"]⟩,
  ⟨0x1f327, "CLOUD WITH ", ["RAIN,SNOW,LIGHTNING,TORNADO"]⟩,
  ⟨0x1f32b, "", ["FOG,WIND BLOWING FACE,HOT DOG,TACO,BURRITO,CHESTNUT,SEEDLING,EVERGREEN TREE",
    "DECIDUOUS TREE,PALM TREE,CACTUS,HOT PEPPER,TULIP,CHERRY BLOSSOM,ROSE,HIBISCUS,SUNFLOWER",
    "BLOSSOM,EAR OF MAIZE,EAR OF RICE,HERB,FOUR LEAF CLOVER,MAPLE LEAF,FALLEN LEAF",
    "LEAF FLUTTERING IN WIND,MUSHROOM,TOMATO,AUBERGINE,GRAPES,MELON,WATERMELON,TANGERINE,LEMON",
    "BANANA,PINEAPPLE,RED APPLE,GREEN APPLE,PEAR,PEACH,CHERRIES,STRAWBERRY,HAMBURGER",
    "SLICE OF PIZZA,MEAT ON BONE,POULTRY LEG,RICE CRACKER,RICE BALL,COOKED RICE,CURRY AND RICE",
    "STEAMING BOWL,SPAGHETTI,BREAD,FRENCH FRIES,ROASTED SWEET POTATO,DANGO,ODEN,SUSHI,FRIED SHRIMP",
    "FISH CAKE WITH SWIRL DESIGN,SOFT ICE CREAM,SHAVED ICE"]⟩,
  ⟨0x1f368, "", ["ICE CREAM,DOUGHNUT,COOKIE,CHOCOLATE BAR,CANDY,LOLLIPOP,CUSTARD,HONEY POT",
    "SHORTCAKE,BENTO BOX,POT OF FOOD,COOKING,FORK AND KNIFE,TEACUP WITHOUT HANDLE",
    "SAKE BOTTLE AND CUP,WINE GLASS,COCKTAIL GLASS,TROPICAL DRINK,BEER MUG,CLINKING BEER MUGS",
    "BABY BOTTLE,FORK AND KNIFE WITH PLATE,BOTTLE WITH POPPING CORK,POPCORN,RIBBON,WRAPPED PRESENT",
    "BIRTHDAY CAKE,JACK-O-LANTERN,CHRISTMAS TREE,FATHER CHRISTMAS,FIREWORKS,FIREWORK SPARKLER",
    "BALLOON,PARTY POPPER,CONFETTI BALL,TANABATA TREE,CROSSED FLAGS,PINE DECORATION,JAPANESE DOLLS",
    "CARP STREAMER,WIND CHIME,MOON VIEWING CEREMONY,SCHOOL SATCHEL,GRADUATION CAP",
    "HEART WITH TIP ON THE LEFT,BOUQUET OF FLOWERS,MILITARY MEDAL,REMINDER RIBBON",
    "MUSICAL KEYBOARD WITH JACKS,STUDIO MICROPHONE,LEVEL SLIDER,CONTROL KNOBS",
    "BEAMED ASCENDING MUSICAL NOTES,BEAMED DESCENDING MUSICAL NOTES,FILM FRAMES,ADMISSION TICKETS",
    "CAROUSEL HORSE,FERRIS WHEEL,ROLLER COASTER,FISHING POLE AND FISH,MICROPHONE"]⟩,
  ⟨0x1f3a5, "", ["MOVIE CAMERA,CINEMA,HEADPHONE,ARTIST PALETTE,TOP HAT,CIRCUS TENT,TICKET",
    "CLAPPER BOARD,PERFORMING ARTS,VIDEO GAME,DIRECT HIT,SLOT MACHINE,BILLIARDS,GAME DIE,BOWLING",
    "FLOWER PLAYING CARDS,MUSICAL NOTE,MULTIPLE MUSICAL NOTES,SAXOPHONE,GUITAR,MUSICAL KEYBOARD",
    "TRUMPET,VIOLIN,MUSICAL SCORE,RUNNING SHIRT WITH SASH,TENNIS RACQUET AND BALL,SKI AND SKI BOOT",
    "BASKETBALL AND HOOP,CHEQUERED FLAG,SNOWBOARDER,RUNNER,SURFER,SPORTS MEDAL,TROPHY,HORSE RACING",
    "AMERICAN FOOTBALL,RUGBY FOOTBALL,SWIMMER,WEIGHT LIFTER,GOLFER,RACING MOTORCYCLE,RACING CAR",
    "CRICKET BAT AND BALL,VOLLEYBALL,FIELD HOCKEY STICK AND BALL,ICE HOCKEY STICK AND PUCK",
    "TABLE TENNIS PADDLE AND BALL,SNOW CAPPED MOUNTAIN,CAMPING,BEACH WITH UMBRELLA",
    "BUILDING CONSTRUCTION,HOUSE BUILDINGS,CITYSCAPE,DERELICT HOUSE BUILDING,CLASSICAL BUILDING",
    "DESERT,DESERT ISLAND,NATIONAL PARK,STADIUM,HOUSE BUILDING,HOUSE WITH GARDEN"]⟩,
  ⟨0x1f3e2, "", ["OFFICE BUILDING,JAPANESE POST OFFICE,EUROPEAN POST OFFICE,HOSPITAL,BANK",
    "AUTOMATED TELLER MACHINE,HOTEL,LOVE HOTEL,CONVENIENCE STORE,SCHOOL,DEPARTMENT STORE,FACTORY",
    "IZAKAYA LANTERN,JAPANESE CASTLE,EUROPEAN CASTLE,WHITE PENNANT,BLACK PENNANT,WAVING WHITE FLAG",
    "WAVING BLACK FLAG,ROSETTE,BLACK ROSETTE,LABEL,BADMINTON RACQUET AND SHUTTLECOCK,BOW AND ARROW",
    "AMPHORA"]⟩,
  ⟨0x1f3fb, "EMOJI MODIFIER FITZPATRICK TYPE-", ["1-2,3,4,5,6"]⟩,
  ⟨0x1f400, "", ["RAT,MOUSE,OX,WATER BUFFALO,COW,TIGER,LEOPARD,RABBIT,CAT,DRAGON,CROCODILE,WHALE",
    "SNAIL,SNAKE,HORSE,RAM,GOAT,SHEEP,MONKEY,ROOSTER,CHICKEN,DOG,PIG,BOAR,ELEPHANT,OCTOPUS",
    "SPIRAL SHELL,BUG,ANT,HONEYBEE,LADY BEETLE,FISH,TROPICAL FISH,BLOWFISH,TURTLE,HATCHING CHICK",
    "BABY CHICK,FRONT-FACING BABY CHICK,BIRD,PENGUIN,KOALA,POODLE,DROMEDARY CAMEL,BACTRIAN CAMEL",
    "DOLPHIN,MOUSE FACE,COW FACE,TIGER FACE,RABBIT FACE,CAT FACE,DRAGON FACE,SPOUTING WHALE",
    "HORSE FACE,MONKEY FACE,DOG FACE,PIG FACE,FROG FACE,HAMSTER FACE,WOLF FACE,BEAR FACE",
    "PANDA FACE"]⟩,
  ⟨0x1f43d, "", ["PIG NOSE,PAW PRINTS,CHIPMUNK,EYES,EYE,EAR,NOSE,MOUTH,TONGUE",
    "WHITE UP POINTING BACKHAND INDEX,WHITE DOWN POINTING BACKHAND INDEX",
    "WHITE LEFT POINTING BACKHAND INDEX,WHITE RIGHT POINTING BACKHAND INDEX,FISTED HAND SIGN",
    "WAVING HAND SIGN,OK HAND SIGN,THUMBS UP SIGN,THUMBS DOWN SIGN,CLAPPING HANDS SIGN",
    "OPEN HANDS SIGN,CROWN,WOMANS HAT,EYEGLASSES,NECKTIE,T-SHIRT,JEANS,DRESS,KIMONO,BIKINI",
    "WOMANS CLOTHES,PURSE,HANDBAG,POUCH,MANS SHOE,ATHLETIC SHOE,HIGH-HEELED SHOE,WOMANS SANDAL",
    "WOMANS BOOTS,FOOTPRINTS,BUST IN SILHOUETTE,BUSTS IN SILHOUETTE,BOY,GIRL,MAN,WOMAN,FAMILY",
    "MAN AND WOMAN HOLDING HANDS,TWO MEN HOLDING HANDS,TWO WOMEN HOLDING HANDS,POLICE OFFICER",
    "WOMAN WITH BUNNY EARS,BRIDE WITH VEIL,PERSON WITH BLOND HAIR,MAN WITH GUA PI MAO",
    "MAN WITH TURBAN,OLDER MAN,OLDER WOMAN,BABY,CONSTRUCTION WORKER,PRINCESS,JAPANESE OGRE"]⟩,
  ⟨0x1f47a, "", ["JAPANESE GOBLIN,GHOST,BABY ANGEL,EXTRATERRESTRIAL ALIEN,ALIEN MONSTER,IMP,SKULL",
    "INFORMATION DESK PERSON,GUARDSMAN,DANCER,LIPSTICK,NAIL POLISH,FACE MASSAGE,HAIRCUT",
    "BARBER POLE,SYRINGE,PILL,KISS MARK,LOVE LETTER,RING,GEM STONE,KISS,BOUQUET,COUPLE WITH HEART",
    "WEDDING,BEATING HEART,BROKEN HEART,TWO HEARTS,SPARKLING HEART,GROWING HEART,HEART WITH ARROW",
    "BLUE HEART,GREEN HEART,YELLOW HEART,PURPLE HEART,HEART WITH RIBBON,REVOLVING HEARTS",
    "HEART DECORATION,DIAMOND SHAPE WITH A DOT INSIDE,ELECTRIC LIGHT BULB,ANGER SYMBOL,BOMB",
    "SLEEPING SYMBOL,COLLISION SYMBOL,SPLASHING SWEAT SYMBOL,DROPLET,DASH SYMBOL,PILE OF POO",
    "FLEXED BICEPS,DIZZY SYMBOL,SPEECH BALLOON,THOUGHT BALLOON,WHITE FLOWER,HUNDRED POINTS SYMBOL",
    "MONEY BAG,CURRENCY EXCHANGE,HEAVY DOLLAR SIGN,CREDIT CARD"]⟩,
  ⟨0x1f4b4, "BANKNOTE WITH ", ["YEN SIGN,DOLLAR SIGN,EURO SIGN,POUND SIGN"]⟩,
  ⟨0x1f4b8, "", ["MONEY WITH WINGS,CHART WITH UPWARDS TREND AND YEN SIGN,SEAT,PERSONAL COMPUTER",
    "BRIEFCASE,MINIDISC,FLOPPY DISK,OPTICAL DISC,DVD,FILE FOLDER,OPEN FILE FOLDER,PAGE WITH CURL",
    "PAGE FACING UP,CALENDAR,TEAR-OFF CALENDAR,CARD INDEX,CHART WITH UPWARDS TREND",
    "CHART WITH DOWNWARDS TREND,BAR CHART,CLIPBOARD,PUSHPIN,ROUND PUSHPIN,PAPERCLIP,STRAIGHT RULER",
    "TRIANGULAR RULER,BOOKMARK TABS,LEDGER,NOTEBOOK,NOTEBOOK WITH DECORATIVE COVER,CLOSED BOOK",
    "OPEN BOOK,GREEN BOOK,BLUE BOOK,ORANGE BOOK,BOOKS,NAME BADGE,SCROLL,MEMO,TELEPHONE RECEIVER",
    "PAGER,FAX MACHINE,SATELLITE ANTENNA,PUBLIC ADDRESS LOUDSPEAKER,CHEERING MEGAPHONE,OUTBOX TRAY",
    "INBOX TRAY,PACKAGE,E-MAIL SYMBOL,INCOMING ENVELOPE,ENVELOPE WITH DOWNWARDS ARROW ABOVE"]⟩,
  ⟨0x1f4ea, "CLOSED MAILBOX WITH ", ["LOWERED FLAG,RAISED FLAG"]⟩,
  ⟨0x1f4ec, "OPEN MAILBOX WITH ", ["RAISED FLAG,LOWERED FLAG"]⟩,
  ⟨0x1f4ee, "", ["POSTBOX,POSTAL HORN,NEWSPAPER,MOBILE PHONE",
    "MOBILE PHONE WITH RIGHTWARDS ARROW AT LEFT,VIBRATION MODE,MOBILE PHONE OFF,NO MOBILE PHONES",
    "ANTENNA WITH BARS,CAMERA,CAMERA WITH FLASH,VIDEO CAMERA,TELEVISION,RADIO,VIDEOCASSETTE",
    "FILM PROJECTOR,PORTABLE STEREO,PRAYER BEADS,TWISTED RIGHTWARDS ARROWS"]⟩,
  ⟨0x1f501, "CLOCKWISE RIGHTWARDS AND LEFTWARDS OPEN CIRCLE ", ["ARROWS",
    "ARROWS WITH CIRCLED ONE OVERLAY"]⟩,
  ⟨0x1f503, "", ["CLOCKWISE DOWNWARDS AND UPWARDS OPEN CIRCLE ARROWS",
    "ANTICLOCKWISE DOWNWARDS AND UPWARDS OPEN CIRCLE ARROWS,LOW BRIGHTNESS SYMBOL",
    "HIGH BRIGHTNESS SYMBOL,SPEAKER WITH CANCELLATION STROKE,SPEAKER,SPEAKER WITH ONE SOUND WAVE",
    "SPEAKER WITH THREE SOUND WAVES,BATTERY,ELECTRIC PLUG,LEFT-POINTING MAGNIFYING GLASS",
    "RIGHT-POINTING MAGNIFYING GLASS,LOCK WITH INK PEN,CLOSED LOCK WITH KEY,KEY,LOCK,OPEN LOCK",
    "BELL,BELL WITH CANCELLATION STROKE,BOOKMARK,LINK SYMBOL,RADIO BUTTON",
    "BACK WITH LEFTWARDS ARROW ABOVE,END WITH LEFTWARDS ARROW ABOVE",
    "ON WITH EXCLAMATION MARK WITH LEFT RIGHT ARROW ABOVE,SOON WITH RIGHTWARDS ARROW ABOVE",
    "TOP WITH UPWARDS ARROW ABOVE,NO ONE UNDER EIGHTEEN SYMBOL,KEYCAP TEN"]⟩,
  ⟨0x1f520, "INPUT SYMBOL FOR ", ["LATIN CAPITAL LETTERS,LATIN SMALL LETTERS,NUMBERS,SYMBOLS",
    "LATIN LETTERS"]⟩,
  ⟨0x1f525, "", ["FIRE,ELECTRIC TORCH,WRENCH,HAMMER,NUT AND BOLT,HOCHO,PISTOL,MICROSCOPE,TELESCOPE",
    "CRYSTAL BALL,SIX POINTED STAR WITH MIDDLE DOT,JAPANESE SYMBOL FOR BEGINNER,TRIDENT EMBLEM",
    "BLACK SQUARE BUTTON,WHITE SQUARE BUTTON,LARGE RED CIRCLE,LARGE BLUE CIRCLE",
    "LARGE ORANGE DIAMOND,LARGE BLUE DIAMOND,SMALL ORANGE DIAMOND,SMALL BLUE DIAMOND",
    "UP-POINTING RED TRIANGLE,DOWN-POINTING RED TRIANGLE,UP-POINTING SMALL RED TRIANGLE",
    "DOWN-POINTING SMALL RED TRIANGLE,LOWER RIGHT SHADOWED WHITE CIRCLE",
    "UPPER RIGHT SHADOWED WHITE CIRCLE,CIRCLED CROSS POMMEE,CROSS POMMEE WITH HALF-CIRCLE BELOW",
    "CROSS POMMEE,NOTCHED LEFT SEMICIRCLE WITH THREE DOTS,NOTCHED RIGHT SEMICIRCLE WITH THREE DOTS",
    "SYMBOL FOR MARKS CHAPTER,WHITE LATIN CROSS,HEAVY LATIN CROSS,CELTIC CROSS,OM SYMBOL",
    "DOVE OF PEACE,KAABA,MOSQUE,SYNAGOGUE,MENORAH WITH NINE BRANCHES,BOWL OF HYGIEIA"]⟩,
  ⟨0x1f550, "CLOCK FACE ", ["ONE OCLOCK,TWO OCLOCK,THREE OCLOCK,FOUR OCLOCK,FIVE OCLOCK,SIX OCLOCK",
    "SEVEN OCLOCK,EIGHT OCLOCK,NINE OCLOCK,TEN OCLOCK,ELEVEN OCLOCK,TWELVE OCLOCK,ONE-THIRTY",
    "TWO-THIRTY,THREE-THIRTY,FOUR-THIRTY,FIVE-THIRTY,SIX-THIRTY,SEVEN-THIRTY,EIGHT-THIRTY",
    "NINE-THIRTY,TEN-THIRTY,ELEVEN-THIRTY,TWELVE-THIRTY"]⟩,
  ⟨0x1f568, "", ["RIGHT SPEAKER,RIGHT SPEAKER WITH ONE SOUND WAVE",
    "RIGHT SPEAKER WITH THREE SOUND WAVES,BULLHORN,BULLHORN WITH SOUND WAVES,RINGING BELL,BOOK",
    "CANDLE,MANTELPIECE CLOCK,BLACK SKULL AND CROSSBONES,NO PIRACY,HOLE",
    "MAN IN BUSINESS SUIT LEVITATING,SLEUTH OR SPY,DARK SUNGLASSES,SPIDER,SPIDER WEB,JOYSTICK",
    "MAN DANCING,LEFT HAND TELEPHONE RECEIVER,TELEPHONE RECEIVER WITH PAGE",
    "RIGHT HAND TELEPHONE RECEIVER,WHITE TOUCHTONE TELEPHONE,BLACK TOUCHTONE TELEPHONE",
    "TELEPHONE ON TOP OF MODEM,CLAMSHELL MOBILE PHONE,BACK OF ENVELOPE,STAMPED ENVELOPE",
    "ENVELOPE WITH LIGHTNING,FLYING ENVELOPE,PEN OVER STAMPED ENVELOPE,LINKED PAPERCLIPS",
    "BLACK PUSHPIN"]⟩,
  ⟨0x1f589, "LOWER LEFT ", ["PENCIL,BALLPOINT PEN,FOUNTAIN PEN,PAINTBRUSH,CRAYON"]⟩,
  ⟨0x1f58e, "", ["LEFT WRITING HAND,TURNED OK HAND SIGN,RAISED HAND WITH FINGERS SPLAYED"]⟩,
  ⟨0x1f591, "REVERSED ", ["RAISED HAND WITH FINGERS SPLAYED,THUMBS UP SIGN,THUMBS DOWN SIGN",
    "VICTORY HAND,HAND WITH MIDDLE FINGER EXTENDED"]⟩,
  ⟨0x1f596, "", ["RAISED HAND WITH PART BETWEEN MIDDLE AND RING FINGERS",
    "WHITE DOWN POINTING LEFT HAND INDEX,SIDEWAYS WHITE LEFT POINTING INDEX",
    "SIDEWAYS WHITE RIGHT POINTING INDEX,SIDEWAYS BLACK LEFT POINTING INDEX",
    "SIDEWAYS BLACK RIGHT POINTING INDEX,BLACK LEFT POINTING BACKHAND INDEX",
    "BLACK RIGHT POINTING BACKHAND INDEX,SIDEWAYS WHITE UP POINTING INDEX",
    "SIDEWAYS WHITE DOWN POINTING INDEX,SIDEWAYS BLACK UP POINTING INDEX",
    "SIDEWAYS BLACK DOWN POINTING INDEX,BLACK UP POINTING BACKHAND INDEX",
    "BLACK DOWN POINTING BACKHAND INDEX,BLACK HEART,DESKTOP COMPUTER,KEYBOARD AND MOUSE",
    "THREE NETWORKED COMPUTERS,PRINTER,POCKET CALCULATOR,BLACK HARD SHELL FLOPPY DISK",
    "WHITE HARD SHELL FLOPPY DISK,SOFT SHELL FLOPPY DISK,TAPE CARTRIDGE,WIRED KEYBOARD",
    "ONE BUTTON MOUSE,TWO BUTTON MOUSE,THREE BUTTON MOUSE,TRACKBALL,OLD PERSONAL COMPUTER",
    "HARD DISK,SCREEN,PRINTER ICON,FAX ICON,OPTICAL DISC ICON"]⟩,
  ⟨0x1f5b9, "DOCUMENT WITH ", ["TEXT,TEXT AND PICTURE,PICTURE"]⟩,
  ⟨0x1f5bc, "FRAME WITH ", ["PICTURE,TILES,AN X"]⟩,
  ⟨0x1f5bf, "", ["BLACK FOLDER,FOLDER,OPEN FOLDER,CARD INDEX DIVIDERS,CARD FILE BOX,FILE CABINET",
    "EMPTY NOTE,EMPTY NOTE PAGE,EMPTY NOTE PAD,NOTE,NOTE PAGE,NOTE PAD,EMPTY DOCUMENT,EMPTY PAGE",
    "EMPTY PAGES,DOCUMENT,PAGE,PAGES,WASTEBASKET,SPIRAL NOTE PAD,SPIRAL CALENDAR PAD",
    "DESKTOP WINDOW,MINIMIZE,MAXIMIZE,OVERLAP,CLOCKWISE RIGHT AND LEFT SEMICIRCLE ARROWS",
    "CANCELLATION X,INCREASE FONT SIZE SYMBOL,DECREASE FONT SIZE SYMBOL,COMPRESSION,OLD KEY",
    "ROLLED-UP NEWSPAPER,PAGE WITH CIRCLED TEXT,STOCK CHART,DAGGER KNIFE,LIPS",
    "SPEAKING HEAD IN SILHOUETTE"]⟩,
  ⟨0x1f5e4, "THREE RAYS ", ["ABOVE,BELOW,LEFT,RIGHT"]⟩,
  ⟨0x1f5e8, "", ["LEFT SPEECH BUBBLE,RIGHT SPEECH BUBBLE,TWO SPEECH BUBBLES,THREE SPEECH BUBBLES",
    "LEFT THOUGHT BUBBLE,RIGHT THOUGHT BUBBLE,LEFT ANGER BUBBLE,RIGHT ANGER BUBBLE,MOOD BUBBLE",
    "LIGHTNING MOOD BUBBLE,LIGHTNING MOOD,BALLOT BOX WITH BALLOT,BALLOT SCRIPT X",
    "BALLOT BOX WITH SCRIPT X,BALLOT BOLD SCRIPT X,BALLOT BOX WITH BOLD SCRIPT X,LIGHT CHECK MARK",
    "BALLOT BOX WITH BOLD CHECK,WORLD MAP,MOUNT FUJI,TOKYO TOWER,STATUE OF LIBERTY",
    "SILHOUETTE OF JAPAN,MOYAI"]⟩]

end Conform.Text.Table
