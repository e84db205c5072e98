import Conform.Text.Table.Name.Run

/-!
# Names of Indic scripts

The names of the characters from U+0900 to U+11FF: the scripts of India and of Southeast Asia,
Georgian and the Korean alphabet.
-/

namespace Conform.Text.Table

/-- Runs of the names of Indic scripts. -/
def indicNames : List NameRun := [
  ⟨0x900, "DEVANAGARI SIGN ", ["INVERTED CANDRABINDU,CANDRABINDU,ANUSVARA,VISARGA"]⟩,
  ⟨0x904, "DEVANAGARI LETTER ", ["SHORT A,A,AA,I,II,U,UU,VOCALIC R,VOCALIC L,CANDRA E,SHORT E,E,AI",
    "CANDRA O,SHORT O,O,AU,KA,KHA,GA,GHA,NGA,CA,CHA,JA,JHA,NYA,TTA,TTHA,DDA,DDHA,NNA,TA,THA,DA,DHA",
    "NA,NNNA,PA,PHA,BA,BHA,MA,YA,RA,RRA,LA,LLA,LLLA,VA,SHA,SSA,SA,HA"]⟩,
  ⟨0x93a, "DEVANAGARI ", ["VOWEL SIGN OE,VOWEL SIGN OOE,SIGN NUKTA,SIGN AVAGRAHA"]⟩,
  ⟨0x93e, "DEVANAGARI VOWEL SIGN ", ["AA,I,II,U,UU,VOCALIC R,VOCALIC RR,CANDRA E,SHORT E,E,AI",
    "CANDRA O,SHORT O,O,AU"]⟩,
  ⟨0x94d, "DEVANAGARI ", ["SIGN VIRAMA,VOWEL SIGN PRISHTHAMATRA E,VOWEL SIGN AW,OM",
    "STRESS SIGN UDATTA,STRESS SIGN ANUDATTA,GRAVE ACCENT,ACUTE ACCENT,VOWEL SIGN CANDRA LONG E",
    "VOWEL SIGN UE,VOWEL SIGN UUE"]⟩,
  ⟨0x958, "DEVANAGARI LETTER ", ["QA,KHHA,GHHA,ZA,DDDHA,RHA,FA,YYA,VOCALIC RR,VOCALIC LL"]⟩,
  ⟨0x962, "DEVANAGARI ", ["VOWEL SIGN VOCALIC L,VOWEL SIGN VOCALIC LL,DANDA,DOUBLE DANDA",
    "DIGIT ZERO,DIGIT ONE,DIGIT TWO,DIGIT THREE,DIGIT FOUR,DIGIT FIVE,DIGIT SIX,DIGIT SEVEN",
    "DIGIT EIGHT,DIGIT NINE,ABBREVIATION SIGN,SIGN HIGH SPACING DOT"]⟩,
  ⟨0x972, "DEVANAGARI LETTER ", ["CANDRA A,OE,OOE,AW,UE,UUE,MARWARI DDA,ZHA,HEAVY YA,GGA,JJA",
    "GLOTTAL STOP,DDDA,BBA"]⟩,
  ⟨0x980, "BENGALI ", ["ANJI,SIGN CANDRABINDU,SIGN ANUSVARA,SIGN VISARGA"]⟩,
  ⟨0x985, "BENGALI LETTER ", ["A,AA,I,II,U,UU,VOCALIC R,VOCALIC L"]⟩,
  ⟨0x98f, "BENGALI LETTER ", ["E,AI"]⟩,
  ⟨0x993, "BENGALI LETTER ", ["O,AU,KA,KHA,GA,GHA,NGA,CA,CHA,JA,JHA,NYA,TTA,TTHA,DDA,DDHA,NNA,TA",
    "THA,DA,DHA,NA"]⟩,
  ⟨0x9aa, "BENGALI LETTER ", ["PA,PHA,BA,BHA,MA,YA,RA"]⟩,
  ⟨0x9b2, "", ["BENGALI LETTER LA"]⟩,
  ⟨0x9b6, "BENGALI LETTER ", ["SHA,SSA,SA,HA"]⟩,
  ⟨0x9bc, "BENGALI SIGN ", ["NUKTA,AVAGRAHA"]⟩,
  ⟨0x9be, "BENGALI VOWEL SIGN ", ["AA,I,II,U,UU,VOCALIC R,VOCALIC RR"]⟩,
  ⟨0x9c7, "BENGALI VOWEL SIGN ", ["E,AI"]⟩,
  ⟨0x9cb, "BENGALI ", ["VOWEL SIGN O,VOWEL SIGN AU,SIGN VIRAMA,LETTER KHANDA TA"]⟩,
  ⟨0x9d7, "", ["BENGALI AU LENGTH MARK"]⟩,
  ⟨0x9dc, "BENGALI LETTER ", ["RRA,RHA"]⟩,
  ⟨0x9df, "BENGALI LETTER ", ["YYA,VOCALIC RR,VOCALIC LL"]⟩,
  ⟨0x9e2, "BENGALI VOWEL SIGN VOCALIC ", ["L,LL"]⟩,
  ⟨0x9e6, "BENGALI DIGIT ", ["ZERO,ONE,TWO,THREE,FOUR,FIVE,SIX,SEVEN,EIGHT,NINE"]⟩,
  ⟨0x9f0, "BENGALI ", ["LETTER RA WITH MIDDLE DIAGONAL,LETTER RA WITH LOWER DIAGONAL,RUPEE MARK",
    "RUPEE SIGN"]⟩,
  ⟨0x9f4, "BENGALI CURRENCY NUMERATOR ", ["ONE,TWO,THREE,FOUR,ONE LESS THAN THE DENOMINATOR"]⟩,
  ⟨0x9f9, "BENGALI ", ["CURRENCY DENOMINATOR SIXTEEN,ISSHAR,GANDA MARK,LETTER VEDIC ANUSVARA",
    "ABBREVIATION SIGN,SANDHI MARK"]⟩,
  ⟨0xa01, "GURMUKHI SIGN ", ["ADAK BINDI,BINDI,VISARGA"]⟩,
  ⟨0xa05, "GURMUKHI LETTER ", ["A,AA,I,II,U,UU"]⟩,
  ⟨0xa0f, "GURMUKHI LETTER ", ["EE,AI"]⟩,
  ⟨0xa13, "GURMUKHI LETTER ", ["OO,AU,KA,KHA,GA,GHA,NGA,CA,CHA,JA,JHA,NYA,TTA,TTHA,DDA,DDHA,NNA,TA",
    "THA,DA,DHA,NA"]⟩,
  ⟨0xa2a, "GURMUKHI LETTER ", ["PA,PHA,BA,BHA,MA,YA,RA"]⟩,
  ⟨0xa32, "GURMUKHI LETTER ", ["LA,LLA"]⟩,
  ⟨0xa35, "GURMUKHI LETTER ", ["VA,SHA"]⟩,
  ⟨0xa38, "GURMUKHI LETTER ", ["SA,HA"]⟩,
  ⟨0xa3c, "", ["GURMUKHI SIGN NUKTA"]⟩,
  ⟨0xa3e, "GURMUKHI VOWEL SIGN ", ["AA,I,II,U,UU"]⟩,
  ⟨0xa47, "GURMUKHI VOWEL SIGN ", ["EE,AI"]⟩,
  ⟨0xa4b, "GURMUKHI ", ["VOWEL SIGN OO,VOWEL SIGN AU,SIGN VIRAMA"]⟩,
  ⟨0xa51, "", ["GURMUKHI SIGN UDAAT"]⟩,
  ⟨0xa59, "GURMUKHI LETTER ", ["KHHA,GHHA,ZA,RRA"]⟩,
  ⟨0xa5e, "", ["GURMUKHI LETTER FA"]⟩,
  ⟨0xa66, "GURMUKHI DIGIT ", ["ZERO,ONE,TWO,THREE,FOUR,FIVE,SIX,SEVEN,EIGHT,NINE"]⟩,
  ⟨0xa70, "GURMUKHI ", ["TIPPI,ADDAK,IRI,URA,EK ONKAR,SIGN YAKASH,ABBREVIATION SIGN"]⟩,
  ⟨0xa81, "GUJARATI SIGN ", ["CANDRABINDU,ANUSVARA,VISARGA"]⟩,
  ⟨0xa85, "GUJARATI LETTER ", ["A,AA,I,II,U,UU,VOCALIC R,VOCALIC L"]⟩,
  ⟨0xa8d, "", ["GUJARATI VOWEL CANDRA E"]⟩,
  ⟨0xa8f, "GUJARATI ", ["LETTER E,LETTER AI,VOWEL CANDRA O"]⟩,
  ⟨0xa93, "GUJARATI LETTER ", ["O,AU,KA,KHA,GA,GHA,NGA,CA,CHA,JA,JHA,NYA,TTA,TTHA,DDA,DDHA,NNA,TA",
    "THA,DA,DHA,NA"]⟩,
  ⟨0xaaa, "GUJARATI LETTER ", ["PA,PHA,BA,BHA,MA,YA,RA"]⟩,
  ⟨0xab2, "GUJARATI LETTER ", ["LA,LLA"]⟩,
  ⟨0xab5, "GUJARATI LETTER ", ["VA,SHA,SSA,SA,HA"]⟩,
  ⟨0xabc, "GUJARATI SIGN ", ["NUKTA,AVAGRAHA"]⟩,
  ⟨0xabe, "GUJARATI VOWEL SIGN ", ["AA,I,II,U,UU,VOCALIC R,VOCALIC RR,CANDRA E"]⟩,
  ⟨0xac7, "GUJARATI VOWEL SIGN ", ["E,AI,CANDRA O"]⟩,
  ⟨0xacb, "GUJARATI ", ["VOWEL SIGN O,VOWEL SIGN AU,SIGN VIRAMA"]⟩,
  ⟨0xad0, "", ["GUJARATI OM"]⟩,
  ⟨0xae0, "GUJARATI LETTER VOCALIC ", ["RR,LL"]⟩,
  ⟨0xae2, "GUJARATI VOWEL SIGN VOCALIC ", ["L,LL"]⟩,
  ⟨0xae6, "GUJARATI DIGIT ", ["ZERO,ONE,TWO,THREE,FOUR,FIVE,SIX,SEVEN,EIGHT,NINE"]⟩,
  ⟨0xaf0, "GUJARATI ", ["ABBREVIATION SIGN,RUPEE SIGN"]⟩,
  ⟨0xaf9, "GUJARATI ", ["LETTER ZHA,SIGN SUKUN,SIGN SHADDA,SIGN MADDAH,SIGN THREE-DOT NUKTA ABOVE",
    "SIGN CIRCLE NUKTA ABOVE,SIGN TWO-CIRCLE NUKTA ABOVE"]⟩,
  ⟨0xb01, "ORIYA SIGN ", ["CANDRABINDU,ANUSVARA,VISARGA"]⟩,
  ⟨0xb05, "ORIYA LETTER ", ["A,AA,I,II,U,UU,VOCALIC R,VOCALIC L"]⟩,
  ⟨0xb0f, "ORIYA LETTER ", ["E,AI"]⟩,
  ⟨0xb13, "ORIYA LETTER ", ["O,AU,KA,KHA,GA,GHA,NGA,CA,CHA,JA,JHA,NYA,TTA,TTHA,DDA,DDHA,NNA,TA,THA",
    "DA,DHA,NA"]⟩,
  ⟨0xb2a, "ORIYA LETTER ", ["PA,PHA,BA,BHA,MA,YA,RA"]⟩,
  ⟨0xb32, "ORIYA LETTER ", ["LA,LLA"]⟩,
  ⟨0xb35, "ORIYA LETTER ", ["VA,SHA,SSA,SA,HA"]⟩,
  ⟨0xb3c, "ORIYA SIGN ", ["NUKTA,AVAGRAHA"]⟩,
  ⟨0xb3e, "ORIYA VOWEL SIGN ", ["AA,I,II,U,UU,VOCALIC R,VOCALIC RR"]⟩,
  ⟨0xb47, "ORIYA VOWEL SIGN ", ["E,AI"]⟩,
  ⟨0xb4b, "ORIYA ", ["VOWEL SIGN O,VOWEL SIGN AU,SIGN VIRAMA"]⟩,
  ⟨0xb55, "ORIYA ", ["SIGN OVERLINE,AI LENGTH MARK,AU LENGTH MARK"]⟩,
  ⟨0xb5c, "ORIYA LETTER ", ["RRA,RHA"]⟩,
  ⟨0xb5f, "ORIYA LETTER ", ["YYA,VOCALIC RR,VOCALIC LL"]⟩,
  ⟨0xb62, "ORIYA VOWEL SIGN VOCALIC ", ["L,LL"]⟩,
  ⟨0xb66, "ORIYA DIGIT ", ["ZERO,ONE,TWO,THREE,FOUR,FIVE,SIX,SEVEN,EIGHT,NINE"]⟩,
  ⟨0xb70, "ORIYA ", ["ISSHAR,LETTER WA"]⟩,
  ⟨0xb72, "ORIYA FRACTION ", ["ONE QUARTER,ONE HALF,THREE QUARTERS,ONE SIXTEENTH,ONE EIGHTH",
    "THREE SIXTEENTHS"]⟩,
  ⟨0xb82, "TAMIL SIGN ", ["ANUSVARA,VISARGA"]⟩,
  ⟨0xb85, "TAMIL LETTER ", ["A,AA,I,II,U,UU"]⟩,
  ⟨0xb8e, "TAMIL LETTER ", ["E,EE,AI"]⟩,
  ⟨0xb92, "TAMIL LETTER ", ["O,OO,AU,KA"]⟩,
  ⟨0xb99, "TAMIL LETTER ", ["NGA,CA"]⟩,
  ⟨0xb9c, "", ["TAMIL LETTER JA"]⟩,
  ⟨0xb9e, "TAMIL LETTER ", ["NYA,TTA"]⟩,
  ⟨0xba3, "TAMIL LETTER ", ["NNA,TA"]⟩,
  ⟨0xba8, "TAMIL LETTER ", ["NA,NNNA,PA"]⟩,
  ⟨0xbae, "TAMIL LETTER ", ["MA,YA,RA,RRA,LA,LLA,LLLA,VA,SHA,SSA,SA,HA"]⟩,
  ⟨0xbbe, "TAMIL VOWEL SIGN ", ["AA,I,II,U,UU"]⟩,
  ⟨0xbc6, "TAMIL VOWEL SIGN ", ["E,EE,AI"]⟩,
  ⟨0xbca, "TAMIL ", ["VOWEL SIGN O,VOWEL SIGN OO,VOWEL SIGN AU,SIGN VIRAMA"]⟩,
  ⟨0xbd0, "", ["TAMIL OM"]⟩,
  ⟨0xbd7, "", ["TAMIL AU LENGTH MARK"]⟩,
  ⟨0xbe6, "TAMIL DIGIT ", ["ZERO,ONE,TWO,THREE,FOUR,FIVE,SIX,SEVEN,EIGHT,NINE"]⟩,
  ⟨0xbf0, "TAMIL ", ["NUMBER TEN,NUMBER ONE HUNDRED,NUMBER ONE THOUSAND,DAY SIGN,MONTH SIGN",
    "YEAR SIGN,DEBIT SIGN,CREDIT SIGN,AS ABOVE SIGN,RUPEE SIGN,NUMBER SIGN"]⟩,
  ⟨0xc00, "TELUGU SIGN ", ["COMBINING CANDRABINDU ABOVE,CANDRABINDU,ANUSVARA,VISARGA",
    "COMBINING ANUSVARA ABOVE"]⟩,
  ⟨0xc05, "TELUGU LETTER ", ["A,AA,I,II,U,UU,VOCALIC R,VOCALIC L"]⟩,
  ⟨0xc0e, "TELUGU LETTER ", ["E,EE,AI"]⟩,
  ⟨0xc12, "TELUGU LETTER ", ["O,OO,AU,KA,KHA,GA,GHA,NGA,CA,CHA,JA,JHA,NYA,TTA,TTHA,DDA,DDHA,NNA,TA",
    "THA,DA,DHA,NA"]⟩,
  ⟨0xc2a, "TELUGU LETTER ", ["PA,PHA,BA,BHA,MA,YA,RA,RRA,LA,LLA,LLLA,VA,SHA,SSA,SA,HA"]⟩,
  ⟨0xc3c, "TELUGU SIGN ", ["NUKTA,AVAGRAHA"]⟩,
  ⟨0xc3e, "TELUGU VOWEL SIGN ", ["AA,I,II,U,UU,VOCALIC R,VOCALIC RR"]⟩,
  ⟨0xc46, "TELUGU VOWEL SIGN ", ["E,EE,AI"]⟩,
  ⟨0xc4a, "TELUGU ", ["VOWEL SIGN O,VOWEL SIGN OO,VOWEL SIGN AU,SIGN VIRAMA"]⟩,
  ⟨0xc55, "TELUGU ", ["LENGTH MARK,AI LENGTH MARK"]⟩,
  ⟨0xc58, "TELUGU LETTER ", ["TSA,DZA,RRRA"]⟩,
  ⟨0xc5d, "", ["TELUGU LETTER NAKAARA POLLU"]⟩,
  ⟨0xc60, "TELUGU LETTER VOCALIC ", ["RR,LL"]⟩,
  ⟨0xc62, "TELUGU VOWEL SIGN VOCALIC ", ["L,LL"]⟩,
  ⟨0xc66, "TELUGU DIGIT ", ["ZERO,ONE,TWO,THREE,FOUR,FIVE,SIX,SEVEN,EIGHT,NINE"]⟩,
  ⟨0xc77, "", ["TELUGU SIGN SIDDHAM"]⟩,
  ⟨0xc78, "TELUGU FRACTION DIGIT ", ["ZERO FOR ODD POWERS OF FOUR,ONE FOR ODD POWERS OF FOUR",
    "TWO FOR ODD POWERS OF FOUR,THREE FOR ODD POWERS OF FOUR,ONE FOR EVEN POWERS OF FOUR",
    "TWO FOR EVEN POWERS OF FOUR,THREE FOR EVEN POWERS OF FOUR"]⟩,
  ⟨0xc7f, "", ["TELUGU SIGN TUUMU"]⟩,
  ⟨0xc80, "KANNADA SIGN ", ["SPACING CANDRABINDU,CANDRABINDU,ANUSVARA,VISARGA,SIDDHAM"]⟩,
  ⟨0xc85, "KANNADA LETTER ", ["A,AA,I,II,U,UU,VOCALIC R,VOCALIC L"]⟩,
  ⟨0xc8e, "KANNADA LETTER ", ["E,EE,AI"]⟩,
  ⟨0xc92, "KANNADA LETTER ", ["O,OO,AU,KA,KHA,GA,GHA,NGA,CA,CHA,JA,JHA,NYA,TTA,TTHA,DDA,DDHA,NNA",
    "TA,THA,DA,DHA,NA"]⟩,
  ⟨0xcaa, "KANNADA LETTER ", ["PA,PHA,BA,BHA,MA,YA,RA,RRA,LA,LLA"]⟩,
  ⟨0xcb5, "KANNADA LETTER ", ["VA,SHA,SSA,SA,HA"]⟩,
  ⟨0xcbc, "KANNADA SIGN ", ["NUKTA,AVAGRAHA"]⟩,
  ⟨0xcbe, "KANNADA VOWEL SIGN ", ["AA,I,II,U,UU,VOCALIC R,VOCALIC RR"]⟩,
  ⟨0xcc6, "KANNADA VOWEL SIGN ", ["E,EE,AI"]⟩,
  ⟨0xcca, "KANNADA ", ["VOWEL SIGN O,VOWEL SIGN OO,VOWEL SIGN AU,SIGN VIRAMA"]⟩,
  ⟨0xcd5, "KANNADA ", ["LENGTH MARK,AI LENGTH MARK"]⟩,
  ⟨0xcdd, "KANNADA LETTER ", ["NAKAARA POLLU,FA"]⟩,
  ⟨0xce0, "KANNADA LETTER VOCALIC ", ["RR,LL"]⟩,
  ⟨0xce2, "KANNADA VOWEL SIGN VOCALIC ", ["L,LL"]⟩,
  ⟨0xce6, "KANNADA DIGIT ", ["ZERO,ONE,TWO,THREE,FOUR,FIVE,SIX,SEVEN,EIGHT,NINE"]⟩,
  ⟨0xcf1, "KANNADA SIGN ", ["JIHVAMULIYA,UPADHMANIYA"]⟩,
  ⟨0xd00, "MALAYALAM SIGN ", ["COMBINING ANUSVARA ABOVE,CANDRABINDU,ANUSVARA,VISARGA"]⟩,
  ⟨0xd04, "MALAYALAM LETTER ", ["VEDIC ANUSVARA,A,AA,I,II,U,UU,VOCALIC R,VOCALIC L"]⟩,
  ⟨0xd0e, "MALAYALAM LETTER ", ["E,EE,AI"]⟩,
  ⟨0xd12, "MALAYALAM LETTER ", ["O,OO,AU,KA,KHA,GA,GHA,NGA,CA,CHA,JA,JHA,NYA,TTA,TTHA,DDA,DDHA,NNA",
    "TA,THA,DA,DHA,NA,NNNA,PA,PHA,BA,BHA,MA,YA,RA,RRA,LA,LLA,LLLA,VA,SHA,SSA,SA,HA,TTTA"]⟩,
  ⟨0xd3b, "MALAYALAM SIGN ", ["VERTICAL BAR VIRAMA,CIRCULAR VIRAMA,AVAGRAHA"]⟩,
  ⟨0xd3e, "MALAYALAM VOWEL SIGN ", ["AA,I,II,U,UU,VOCALIC R,VOCALIC RR"]⟩,
  ⟨0xd46, "MALAYALAM VOWEL SIGN ", ["E,EE,AI"]⟩,
  ⟨0xd4a, "MALAYALAM ", ["VOWEL SIGN O,VOWEL SIGN OO,VOWEL SIGN AU,SIGN VIRAMA,LETTER DOT REPH",
    "SIGN PARA"]⟩,
  ⟨0xd54, "MALAYALAM LETTER CHILLU ", ["M,Y,LLL"]⟩,
  ⟨0xd57, "", ["MALAYALAM AU LENGTH MARK"]⟩,
  ⟨0xd58, "MALAYALAM FRACTION ", ["ONE ONE-HUNDRED-AND-SIXTIETH,ONE FORTIETH,THREE EIGHTIETHS",
    "ONE TWENTIETH,ONE TENTH,THREE TWENTIETHS,ONE FIFTH"]⟩,
  ⟨0xd5f, "MALAYALAM LETTER ", ["ARCHAIC II,VOCALIC RR,VOCALIC LL"]⟩,
  ⟨0xd62, "MALAYALAM VOWEL SIGN VOCALIC ", ["L,LL"]⟩,
  ⟨0xd66, "MALAYALAM DIGIT ", ["ZERO,ONE,TWO,THREE,FOUR,FIVE,SIX,SEVEN,EIGHT,NINE"]⟩,
  ⟨0xd70, "MALAYALAM NUMBER ", ["TEN,ONE HUNDRED,ONE THOUSAND"]⟩,
  ⟨0xd73, "MALAYALAM FRACTION ", ["ONE QUARTER,ONE HALF,THREE QUARTERS,ONE SIXTEENTH,ONE EIGHTH",
    "THREE SIXTEENTHS"]⟩,
  ⟨0xd79, "", ["MALAYALAM DATE MARK"]⟩,
  ⟨0xd7a, "MALAYALAM LETTER CHILLU ", ["NN,N,RR,L,LL,K"]⟩,
  ⟨0xd81, "SINHALA SIGN ", ["CANDRABINDU,ANUSVARAYA,VISARGAYA"]⟩,
  ⟨0xd85, "SINHALA LETTER ", ["AYANNA,AAYANNA,AEYANNA,AEEYANNA,IYANNA,IIYANNA,UYANNA,UUYANNA",
    "IRUYANNA,IRUUYANNA,ILUYANNA,ILUUYANNA,EYANNA,EEYANNA,AIYANNA,OYANNA,OOYANNA,AUYANNA"]⟩,
  ⟨0xd9a, "SINHALA LETTER ", ["ALPAPRAANA KAYANNA,MAHAAPRAANA KAYANNA,ALPAPRAANA GAYANNA",
    "MAHAAPRAANA GAYANNA,KANTAJA NAASIKYAYA,SANYAKA GAYANNA,ALPAPRAANA CAYANNA,MAHAAPRAANA CAYANNA",
    "ALPAPRAANA JAYANNA,MAHAAPRAANA JAYANNA,TAALUJA NAASIKYAYA,TAALUJA SANYOOGA NAAKSIKYAYA",
    "SANYAKA JAYANNA,ALPAPRAANA TTAYANNA,MAHAAPRAANA TTAYANNA,ALPAPRAANA DDAYANNA",
    "MAHAAPRAANA DDAYANNA,MUURDHAJA NAYANNA,SANYAKA DDAYANNA,ALPAPRAANA TAYANNA",
    "MAHAAPRAANA TAYANNA,ALPAPRAANA DAYANNA,MAHAAPRAANA DAYANNA,DANTAJA NAYANNA"]⟩,
  ⟨0xdb3, "SINHALA LETTER ", ["SANYAKA DAYANNA,ALPAPRAANA PAYANNA,MAHAAPRAANA PAYANNA",
    "ALPAPRAANA BAYANNA,MAHAAPRAANA BAYANNA,MAYANNA,AMBA BAYANNA,YAYANNA,RAYANNA"]⟩,
  ⟨0xdbd, "", ["SINHALA LETTER DANTAJA LAYANNA"]⟩,
  ⟨0xdc0, "SINHALA LETTER ", ["VAYANNA,TAALUJA SAYANNA,MUURDHAJA SAYANNA,DANTAJA SAYANNA,HAYANNA",
    "MUURDHAJA LAYANNA,FAYANNA"]⟩,
  ⟨0xdca, "", ["SINHALA SIGN AL-LAKUNA"]⟩,
  ⟨0xdcf, "SINHALA VOWEL SIGN ", ["AELA-PILLA,KETTI AEDA-PILLA,DIGA AEDA-PILLA,KETTI IS-PILLA",
    "DIGA IS-PILLA,KETTI PAA-PILLA"]⟩,
  ⟨0xdd6, "", ["SINHALA VOWEL SIGN DIGA PAA-PILLA"]⟩,
  ⟨0xdd8, "SINHALA VOWEL SIGN ", ["GAETTA-PILLA,KOMBUVA,DIGA KOMBUVA,KOMBU DEKA",
    "KOMBUVA HAA AELA-PILLA,KOMBUVA HAA DIGA AELA-PILLA,KOMBUVA HAA GAYANUKITTA,GAYANUKITTA"]⟩,
  ⟨0xde6, "SINHALA LITH DIGIT ", ["ZERO,ONE,TWO,THREE,FOUR,FIVE,SIX,SEVEN,EIGHT,NINE"]⟩,
  ⟨0xdf2, "SINHALA ", ["VOWEL SIGN DIGA GAETTA-PILLA,VOWEL SIGN DIGA GAYANUKITTA",
    "PUNCTUATION KUNDDALIYA"]⟩,
  ⟨0xe01, "THAI CHARACTER ", ["KO KAI,KHO KHAI,KHO KHUAT,KHO KHWAI,KHO KHON,KHO RAKHANG,NGO NGU",
    "CHO CHAN,CHO CHING,CHO CHANG,SO SO,CHO CHOE,YO YING,DO CHADA,TO PATAK,THO THAN,THO NANGMONTHO",
    "THO PHUTHAO,NO NEN,DO DEK,TO TAO,THO THUNG,THO THAHAN,THO THONG,NO NU,BO BAIMAI,PO PLA",
    "PHO PHUNG,FO FA,PHO PHAN,FO FAN,PHO SAMPHAO,MO MA,YO YAK,RO RUA,RU,LO LING,LU,WO WAEN,SO SALA",
    "SO RUSI,SO SUA,HO HIP,LO CHULA,O ANG,HO NOKHUK,PAIYANNOI,SARA A,MAI HAN-AKAT,SARA AA,SARA AM",
    "SARA I,SARA II,SARA UE,SARA UEE,SARA U,SARA UU,PHINTHU"]⟩,
  ⟨0xe3f, "", ["THAI CURRENCY SYMBOL BAHT"]⟩,
  ⟨0xe40, "THAI CHARACTER ", ["SARA E,SARA AE,SARA O,SARA AI MAIMUAN,SARA AI MAIMALAI,LAKKHANGYAO",
    "MAIYAMOK,MAITAIKHU,MAI EK,MAI THO,MAI TRI,MAI CHATTAWA,THANTHAKHAT,NIKHAHIT,YAMAKKAN",
    "FONGMAN"]⟩,
  ⟨0xe50, "THAI DIGIT ", ["ZERO,ONE,TWO,THREE,FOUR,FIVE,SIX,SEVEN,EIGHT,NINE"]⟩,
  ⟨0xe5a, "THAI CHARACTER ", ["ANGKHANKHU,KHOMUT"]⟩,
  ⟨0xe81, "LAO LETTER ", ["KO,KHO SUNG"]⟩,
  ⟨0xe84, "", ["LAO LETTER KHO TAM"]⟩,
  ⟨0xe86, "LAO LETTER ", ["PALI GHA,NGO,CO,PALI CHA,SO TAM"]⟩,
  ⟨0xe8c, "LAO LETTER ", ["PALI JHA,NYO,PALI NYA,PALI TTA,PALI TTHA,PALI DDA,PALI DDHA,PALI NNA,DO",
    "TO,THO SUNG,THO TAM,PALI DHA,NO,BO,PO,PHO SUNG,FO TAM,PHO TAM,FO SUNG,PALI BHA,MO,YO",
    "LO LING"]⟩,
  ⟨0xea5, "", ["LAO LETTER LO LOOT"]⟩,
  ⟨0xea7, "LAO LETTER ", ["WO,SANSKRIT SHA,SANSKRIT SSA,SO SUNG,HO SUNG,PALI LLA,O,HO TAM"]⟩,
  ⟨0xeaf, "", ["LAO ELLIPSIS"]⟩,
  ⟨0xeb0, "LAO VOWEL SIGN ", ["A,MAI KAN,AA,AM,I,II,Y,YY,U,UU"]⟩,
  ⟨0xeba, "LAO ", ["SIGN PALI VIRAMA,VOWEL SIGN MAI KON,SEMIVOWEL SIGN LO,SEMIVOWEL SIGN NYO"]⟩,
  ⟨0xec0, "LAO VOWEL SIGN ", ["E,EI,O,AY,AI"]⟩,
  ⟨0xec6, "", ["LAO KO LA"]⟩,
  ⟨0xec8, "LAO TONE MAI ", ["EK,THO,TI,CATAWA"]⟩,
  ⟨0xecc, "LAO ", ["CANCELLATION MARK,NIGGAHITA"]⟩,
  ⟨0xed0, "LAO DIGIT ", ["ZERO,ONE,TWO,THREE,FOUR,FIVE,SIX,SEVEN,EIGHT,NINE"]⟩,
  ⟨0xedc, "LAO ", ["HO NO,HO MO,LETTER KHMU GO,LETTER KHMU NYO"]⟩,
  ⟨0xf00, "", ["TIBETAN SYLLABLE OM"]⟩,
  ⟨0xf01, "TIBETAN MARK ", ["GTER YIG MGO TRUNCATED A,GTER YIG MGO -UM RNAM BCAD MA",
    "GTER YIG MGO -UM GTER TSHEG MA,INITIAL YIG MGO MDUN MA,CLOSING YIG MGO SGAB MA",
    "CARET YIG MGO PHUR SHAD MA,YIG MGO TSHEG SHAD MA,SBRUL SHAD,BSKUR YIG MGO,BKA- SHOG YIG MGO",
    "INTERSYLLABIC TSHEG,DELIMITER TSHEG BSTAR,SHAD,NYIS SHAD,TSHEG SHAD,NYIS TSHEG SHAD",
    "RIN CHEN SPUNGS SHAD,RGYA GRAM SHAD,CARET -DZUD RTAGS ME LONG CAN,GTER TSHEG"]⟩,
  ⟨0xf15, "TIBETAN LOGOTYPE SIGN ", ["CHAD RTAGS,LHAG RTAGS"]⟩,
  ⟨0xf17, "TIBETAN ASTROLOGICAL SIGN ", ["SGRA GCAN -CHAR RTAGS,-KHYUD PA,SDONG TSHUGS"]⟩,
  ⟨0xf1a, "TIBETAN SIGN RDEL ", ["DKAR GCIG,DKAR GNYIS,DKAR GSUM,NAG GCIG,NAG GNYIS",
    "DKAR RDEL NAG"]⟩,
  ⟨0xf20, "TIBETAN DIGIT ", ["ZERO,ONE,TWO,THREE,FOUR,FIVE,SIX,SEVEN,EIGHT,NINE"]⟩,
  ⟨0xf2a, "TIBETAN DIGIT HALF ", ["ONE,TWO,THREE,FOUR,FIVE,SIX,SEVEN,EIGHT,NINE,ZERO"]⟩,
  ⟨0xf34, "TIBETAN MARK ", ["BSDUS RTAGS,NGAS BZUNG NYI ZLA,CARET -DZUD RTAGS BZHI MIG CAN",
    "NGAS BZUNG SGOR RTAGS,CHE MGO,TSA -PHRU,GUG RTAGS GYON,GUG RTAGS GYAS,ANG KHANG GYON",
    "ANG KHANG GYAS"]⟩,
  ⟨0xf3e, "TIBETAN SIGN ", ["YAR TSHES,MAR TSHES"]⟩,
  ⟨0xf40, "TIBETAN LETTER ", ["KA,KHA,GA,GHA,NGA,CA,CHA,JA"]⟩,
  ⟨0xf49, "TIBETAN LETTER ", ["NYA,TTA,TTHA,DDA,DDHA,NNA,TA,THA,DA,DHA,NA,PA,PHA,BA,BHA,MA,TSA",
    "TSHA,DZA,DZHA,WA,ZHA,ZA,-A,YA,RA,LA,SHA,SSA,SA,HA,A,KSSA,FIXED-FORM RA,KKA,RRA"]⟩,
  ⟨0xf71, "TIBETAN VOWEL SIGN ", ["AA,I,II,U,UU,VOCALIC R,VOCALIC RR,VOCALIC L,VOCALIC LL,E,EE,O",
    "OO"]⟩,
  ⟨0xf7e, "TIBETAN ", ["SIGN RJES SU NGA RO,SIGN RNAM BCAD,VOWEL SIGN REVERSED I",
    "VOWEL SIGN REVERSED II,SIGN NYI ZLA NAA DA,SIGN SNA LDAN,MARK HALANTA,MARK PALUTA"]⟩,
  ⟨0xf86, "TIBETAN SIGN ", ["LCI RTAGS,YANG RTAGS,LCE TSA CAN,MCHU CAN,GRU CAN RGYINGS",
    "GRU MED RGYINGS,INVERTED MCHU CAN"]⟩,
  ⟨0xf8d, "TIBETAN SUBJOINED SIGN ", ["LCE TSA CAN,MCHU CAN,INVERTED MCHU CAN"]⟩,
  ⟨0xf90, "TIBETAN SUBJOINED LETTER ", ["KA,KHA,GA,GHA,NGA,CA,CHA,JA"]⟩,
  ⟨0xf99, "TIBETAN SUBJOINED LETTER ", ["NYA,TTA,TTHA,DDA,DDHA,NNA,TA,THA,DA,DHA,NA,PA,PHA,BA,BHA",
    "MA,TSA,TSHA,DZA,DZHA,WA,ZHA,ZA,-A,YA,RA,LA,SHA,SSA,SA,HA,A,KSSA,FIXED-FORM WA,FIXED-FORM YA",
    "FIXED-FORM RA"]⟩,
  ⟨0xfbe, "TIBETAN KU RU ", ["KHA,KHA BZHI MIG CAN"]⟩,
  ⟨0xfc0, "TIBETAN CANTILLATION SIGN ", ["HEAVY BEAT,LIGHT BEAT,CANG TE-U,SBUB -CHAL"]⟩,
  ⟨0xfc4, "TIBETAN SYMBOL ", ["DRIL BU,RDO RJE,PADMA GDAN,RDO RJE RGYA GRAM,PHUR PA,NOR BU",
    "NOR BU NYIS -KHYIL,NOR BU GSUM -KHYIL,NOR BU BZHI -KHYIL"]⟩,
  ⟨0xfce, "TIBETAN SIGN RDEL NAG ", ["RDEL DKAR,GSUM"]⟩,
  ⟨0xfd0, "TIBETAN MARK ", ["BSKA- SHOG GI MGO RGYAN,MNYAM YIG GI MGO RGYAN,NYIS TSHEG",
    "INITIAL BRDA RNYING YIG MGO MDUN MA,CLOSING BRDA RNYING YIG MGO SGAB MA"]⟩,
  ⟨0xfd5, "", ["RIGHT-FACING SVASTI SIGN,LEFT-FACING SVASTI SIGN",
    "RIGHT-FACING SVASTI SIGN WITH DOTS,LEFT-FACING SVASTI SIGN WITH DOTS",
    "TIBETAN MARK LEADING MCHAN RTAGS,TIBETAN MARK TRAILING MCHAN RTAGS"]⟩,
  ⟨0x1000, "MYANMAR LETTER ", ["KA,KHA,GA,GHA,NGA,CA,CHA,JA,JHA,NYA,NNYA,TTA,TTHA,DDA,DDHA,NNA,TA",
    "THA,DA,DHA,NA,PA,PHA,BA,BHA,MA,YA,RA,LA,WA,SA,HA,LLA,A,SHAN A,I,II,U,UU,E,MON E,O,AU"]⟩,
  ⟨0x102b, "MYANMAR VOWEL SIGN ", ["TALL AA,AA,I,II,U,UU,E,AI,MON II,MON O,E ABOVE"]⟩,
  ⟨0x1036, "MYANMAR SIGN ", ["ANUSVARA,DOT BELOW,VISARGA,VIRAMA,ASAT"]⟩,
  ⟨0x103b, "MYANMAR CONSONANT SIGN MEDIAL ", ["YA,RA,WA,HA"]⟩,
  ⟨0x103f, "", ["MYANMAR LETTER GREAT SA"]⟩,
  ⟨0x1040, "MYANMAR DIGIT ", ["ZERO,ONE,TWO,THREE,FOUR,FIVE,SIX,SEVEN,EIGHT,NINE"]⟩,
  ⟨0x104a, "MYANMAR ", ["SIGN LITTLE SECTION,SIGN SECTION,SYMBOL LOCATIVE,SYMBOL COMPLETED",
    "SYMBOL AFOREMENTIONED,SYMBOL GENITIVE,LETTER SHA,LETTER SSA"]⟩,
  ⟨0x1052, "MYANMAR LETTER VOCALIC ", ["R,RR,L,LL"]⟩,
  ⟨0x1056, "MYANMAR VOWEL SIGN VOCALIC ", ["R,RR,L,LL"]⟩,
  ⟨0x105a, "MYANMAR LETTER MON ", ["NGA,JHA,BBA,BBE"]⟩,
  ⟨0x105e, "MYANMAR CONSONANT SIGN MON MEDIAL ", ["NA,MA,LA"]⟩,
  ⟨0x1061, "MYANMAR ", ["LETTER SGAW KAREN SHA,VOWEL SIGN SGAW KAREN EU,TONE MARK SGAW KAREN HATHI",
    "TONE MARK SGAW KAREN KE PHO,LETTER WESTERN PWO KAREN THA,LETTER WESTERN PWO KAREN PWA"]⟩,
  ⟨0x1067, "MYANMAR VOWEL SIGN WESTERN PWO KAREN ", ["EU,UE"]⟩,
  ⟨0x1069, "MYANMAR SIGN WESTERN PWO KAREN TONE-", ["1,2,3,4,5"]⟩,
  ⟨0x106e, "MYANMAR LETTER EASTERN PWO KAREN ", ["NNA,YWA,GHWA"]⟩,
  ⟨0x1071, "MYANMAR VOWEL SIGN ", ["GEBA KAREN I,KAYAH OE,KAYAH U,KAYAH EE"]⟩,
  ⟨0x1075, "MYANMAR LETTER SHAN ", ["KA,KHA,GA,CA,ZA,NYA,DA,NA,PHA,FA,BA,THA,HA"]⟩,
  ⟨0x1082, "", ["MYANMAR CONSONANT SIGN SHAN MEDIAL WA"]⟩,
  ⟨0x1083, "MYANMAR VOWEL SIGN SHAN ", ["AA,E,E ABOVE,FINAL Y"]⟩,
  ⟨0x1087, "MYANMAR SIGN SHAN ", ["TONE-2,TONE-3,TONE-5,TONE-6,COUNCIL TONE-2,COUNCIL TONE-3",
    "COUNCIL EMPHATIC TONE"]⟩,
  ⟨0x108e, "MYANMAR ", ["LETTER RUMAI PALAUNG FA,SIGN RUMAI PALAUNG TONE-5"]⟩,
  ⟨0x1090, "MYANMAR SHAN DIGIT ", ["ZERO,ONE,TWO,THREE,FOUR,FIVE,SIX,SEVEN,EIGHT,NINE"]⟩,
  ⟨0x109a, "MYANMAR ", ["SIGN KHAMTI TONE-1,SIGN KHAMTI TONE-3,VOWEL SIGN AITON A",
    "VOWEL SIGN AITON AI,SYMBOL SHAN ONE,SYMBOL SHAN EXCLAMATION"]⟩,
  ⟨0x10a0, "GEORGIAN CAPITAL LETTER ", ["AN,BAN,GAN,DON,EN,VIN,ZEN,TAN,IN,KAN,LAS,MAN,NAR,ON,PAR",
    "ZHAR,RAE,SAN,TAR,UN,PHAR,KHAR,GHAN,QAR,SHIN,CHIN,CAN,JIL,CIL,CHAR,XAN,JHAN,HAE,HE,HIE,WE,HAR",
    "HOE"]⟩,
  ⟨0x10c7, "", ["GEORGIAN CAPITAL LETTER YN"]⟩,
  ⟨0x10cd, "", ["GEORGIAN CAPITAL LETTER AEN"]⟩,
  ⟨0x10d0, "GEORGIAN LETTER ", ["AN,BAN,GAN,DON,EN,VIN,ZEN,TAN,IN,KAN,LAS,MAN,NAR,ON,PAR,ZHAR,RAE",
    "SAN,TAR,UN,PHAR,KHAR,GHAN,QAR,SHIN,CHIN,CAN,JIL,CIL,CHAR,XAN,JHAN,HAE,HE,HIE,WE,HAR,HOE,FI,YN",
    "ELIFI,TURNED GAN,AIN"]⟩,
  ⟨0x10fb, "", ["GEORGIAN PARAGRAPH SEPARATOR,MODIFIER LETTER GEORGIAN NAR"]⟩,
  ⟨0x10fd, "GEORGIAN LETTER ", ["AEN,HARD SIGN,LABIAL SIGN"]⟩,
  ⟨0x1100, "HANGUL CHOSEONG ", ["KIYEOK,SSANGKIYEOK,NIEUN,TIKEUT,SSANGTIKEUT,RIEUL,MIEUM,PIEUP",
    "SSANGPIEUP,SIOS,SSANGSIOS,IEUNG,CIEUC,SSANGCIEUC,CHIEUCH,KHIEUKH,THIEUTH,PHIEUPH,HIEUH",
    "NIEUN-KIYEOK,SSANGNIEUN,NIEUN-TIKEUT,NIEUN-PIEUP,TIKEUT-KIYEOK,RIEUL-NIEUN,SSANGRIEUL",
    "RIEUL-HIEUH,KAPYEOUNRIEUL,MIEUM-PIEUP,KAPYEOUNMIEUM"]⟩,
  ⟨0x111e, "HANGUL CHOSEONG PIEUP-", ["KIYEOK,NIEUN,TIKEUT,SIOS,SIOS-KIYEOK,SIOS-TIKEUT,SIOS-PIEUP",
    "SSANGSIOS,SIOS-CIEUC,CIEUC,CHIEUCH,THIEUTH,PHIEUPH"]⟩,
  ⟨0x112b, "HANGUL CHOSEONG ", ["KAPYEOUNPIEUP,KAPYEOUNSSANGPIEUP"]⟩,
  ⟨0x112d, "HANGUL CHOSEONG SIOS-", ["KIYEOK,NIEUN,TIKEUT,RIEUL,MIEUM,PIEUP,PIEUP-KIYEOK,SSANGSIOS",
    "IEUNG,CIEUC,CHIEUCH,KHIEUKH,THIEUTH,PHIEUPH,HIEUH"]⟩,
  ⟨0x113c, "HANGUL CHOSEONG ", ["CHITUEUMSIOS,CHITUEUMSSANGSIOS,CEONGCHIEUMSIOS",
    "CEONGCHIEUMSSANGSIOS,PANSIOS,IEUNG-KIYEOK,IEUNG-TIKEUT,IEUNG-MIEUM,IEUNG-PIEUP,IEUNG-SIOS",
    "IEUNG-PANSIOS,SSANGIEUNG,IEUNG-CIEUC,IEUNG-CHIEUCH,IEUNG-THIEUTH,IEUNG-PHIEUPH,YESIEUNG",
    "CIEUC-IEUNG,CHITUEUMCIEUC,CHITUEUMSSANGCIEUC,CEONGCHIEUMCIEUC,CEONGCHIEUMSSANGCIEUC",
    "CHIEUCH-KHIEUKH,CHIEUCH-HIEUH,CHITUEUMCHIEUCH,CEONGCHIEUMCHIEUCH,PHIEUPH-PIEUP",
    "KAPYEOUNPHIEUPH,SSANGHIEUH,YEORINHIEUH,KIYEOK-TIKEUT,NIEUN-SIOS,NIEUN-CIEUC,NIEUN-HIEUH",
    "TIKEUT-RIEUL,FILLER"]⟩,
  ⟨0x1160, "HANGUL JUNGSEONG ", ["FILLER,A,AE,YA,YAE,EO,E,YEO,YE,O,WA,WAE,OE,YO,U,WEO,WE,WI,YU,EU",
    "YI,I,A-O,A-U,YA-O,YA-YO,EO-O,EO-U,EO-EU,YEO-O,YEO-U,O-EO,O-E,O-YE,O-O,O-U,YO-YA,YO-YAE,YO-YEO",
    "YO-O,YO-I,U-A,U-AE,U-EO-EU,U-YE,U-U,YU-A,YU-EO,YU-E,YU-YEO,YU-YE,YU-U,YU-I,EU-U,EU-EU,YI-U",
    "I-A,I-YA,I-O,I-U,I-EU,I-ARAEA,ARAEA,ARAEA-EO,ARAEA-U,ARAEA-I,SSANGARAEA,A-EU,YA-U,YEO-YA,O-YA",
    "O-YAE"]⟩,
  ⟨0x11a8, "HANGUL JONGSEONG ", ["KIYEOK,SSANGKIYEOK,KIYEOK-SIOS,NIEUN,NIEUN-CIEUC,NIEUN-HIEUH",
    "TIKEUT,RIEUL,RIEUL-KIYEOK,RIEUL-MIEUM,RIEUL-PIEUP,RIEUL-SIOS,RIEUL-THIEUTH,RIEUL-PHIEUPH",
    "RIEUL-HIEUH,MIEUM,PIEUP,PIEUP-SIOS,SIOS,SSANGSIOS,IEUNG,CIEUC,CHIEUCH,KHIEUKH,THIEUTH,PHIEUPH",
    "HIEUH,KIYEOK-RIEUL,KIYEOK-SIOS-KIYEOK,NIEUN-KIYEOK,NIEUN-TIKEUT,NIEUN-SIOS,NIEUN-PANSIOS",
    "NIEUN-THIEUTH,TIKEUT-KIYEOK,TIKEUT-RIEUL,RIEUL-KIYEOK-SIOS,RIEUL-NIEUN,RIEUL-TIKEUT",
    "RIEUL-TIKEUT-HIEUH,SSANGRIEUL,RIEUL-MIEUM-KIYEOK,RIEUL-MIEUM-SIOS,RIEUL-PIEUP-SIOS",
    "RIEUL-PIEUP-HIEUH,RIEUL-KAPYEOUNPIEUP,RIEUL-SSANGSIOS,RIEUL-PANSIOS,RIEUL-KHIEUKH",
    "RIEUL-YEORINHIEUH,MIEUM-KIYEOK,MIEUM-RIEUL,MIEUM-PIEUP,MIEUM-SIOS,MIEUM-SSANGSIOS",
    "MIEUM-PANSIOS,MIEUM-CHIEUCH,MIEUM-HIEUH,KAPYEOUNMIEUM,PIEUP-RIEUL,PIEUP-PHIEUPH,PIEUP-HIEUH",
    "KAPYEOUNPIEUP,SIOS-KIYEOK,SIOS-TIKEUT,SIOS-RIEUL,SIOS-PIEUP,PANSIOS,IEUNG-KIYEOK",
    "IEUNG-SSANGKIYEOK,SSANGIEUNG,IEUNG-KHIEUKH,YESIEUNG,YESIEUNG-SIOS,YESIEUNG-PANSIOS",
    "PHIEUPH-PIEUP,KAPYEOUNPHIEUPH,HIEUH-NIEUN,HIEUH-RIEUL,HIEUH-MIEUM,HIEUH-PIEUP,YEORINHIEUH",
    "KIYEOK-NIEUN,KIYEOK-PIEUP,KIYEOK-CHIEUCH,KIYEOK-KHIEUKH,KIYEOK-HIEUH,SSANGNIEUN"]⟩]

end Conform.Text.Table
