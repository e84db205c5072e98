import Conform.Text.Table.Name.Run

/-!
# Names of shapes

The names of the characters from U+2400 to U+28FF: enclosed signs, boxes, geometric shapes,
dingbats and Braille patterns.
-/

namespace Conform.Text.Table

/-- Runs of the names of shapes. -/
def shapeNames : List NameRun := [
  ⟨0x2400, "SYMBOL FOR ", ["NULL,START OF HEADING,START OF TEXT,END OF TEXT,END OF TRANSMISSION",
    "ENQUIRY,ACKNOWLEDGE,BELL,BACKSPACE,HORIZONTAL TABULATION,LINE FEED,VERTICAL TABULATION",
    "FORM FEED,CARRIAGE RETURN,SHIFT OUT,SHIFT IN,DATA LINK ESCAPE,DEVICE CONTROL ONE",
    "DEVICE CONTROL TWO,DEVICE CONTROL THREE,DEVICE CONTROL FOUR,NEGATIVE ACKNOWLEDGE",
    "SYNCHRONOUS IDLE,END OF TRANSMISSION BLOCK,CANCEL,END OF MEDIUM,SUBSTITUTE,ESCAPE",
    "FILE SEPARATOR,GROUP SEPARATOR,RECORD SEPARATOR,UNIT SEPARATOR,SPACE,DELETE"]⟩,
  ⟨0x2422, "", ["BLANK SYMBOL,OPEN BOX"]⟩,
  ⟨0x2424, "SYMBOL FOR ", ["NEWLINE,DELETE FORM TWO,SUBSTITUTE FORM TWO"]⟩,
  ⟨0x2440, "OCR ", ["HOOK,CHAIR,FORK,INVERTED FORK,BELT BUCKLE,BOW TIE,BRANCH BANK IDENTIFICATION",
    "AMOUNT OF CHECK,DASH,CUSTOMER ACCOUNT NUMBER,DOUBLE BACKSLASH"]⟩,
  ⟨0x2460, "CIRCLED DIGIT ", ["ONE,TWO,THREE,FOUR,FIVE,SIX,SEVEN,EIGHT,NINE"]⟩,
  ⟨0x2469, "CIRCLED NUMBER ", ["TEN,ELEVEN,TWELVE,THIRTEEN,FOURTEEN,FIFTEEN,SIXTEEN,SEVENTEEN",
    "EIGHTEEN,NINETEEN,TWENTY"]⟩,
  ⟨0x2474, "PARENTHESIZED DIGIT ", ["ONE,TWO,THREE,FOUR,FIVE,SIX,SEVEN,EIGHT,NINE"]⟩,
  ⟨0x247d, "PARENTHESIZED NUMBER ", ["TEN,ELEVEN,TWELVE,THIRTEEN,FOURTEEN,FIFTEEN,SIXTEEN",
    "SEVENTEEN,EIGHTEEN,NINETEEN,TWENTY"]⟩,
  ⟨0x2488, "DIGIT ", ["ONE FULL STOP,TWO FULL STOP,THREE FULL STOP,FOUR FULL STOP,FIVE FULL STOP",
    "SIX FULL STOP,SEVEN FULL STOP,EIGHT FULL STOP,NINE FULL STOP"]⟩,
  ⟨0x2491, "NUMBER ", ["TEN FULL STOP,ELEVEN FULL STOP,TWELVE FULL STOP,THIRTEEN FULL STOP",
    "FOURTEEN FULL STOP,FIFTEEN FULL STOP,SIXTEEN FULL STOP,SEVENTEEN FULL STOP,EIGHTEEN FULL STOP",
    "NINETEEN FULL STOP,TWENTY FULL STOP"]⟩,
  ⟨0x249c, "PARENTHESIZED LATIN SMALL LETTER ", ["A,B,C,D,E,F,G,H,I,J,K,L,M,N,O,P,Q,R,S,T,U,V,W,X",
    "Y,Z"]⟩,
  ⟨0x24b6, "CIRCLED LATIN CAPITAL LETTER ", ["A,B,C,D,E,F,G,H,I,J,K,L,M,N,O,P,Q,R,S,T,U,V,W,X,Y",
    "Z"]⟩,
  ⟨0x24d0, "CIRCLED LATIN SMALL LETTER ", ["A,B,C,D,E,F,G,H,I,J,K,L,M,N,O,P,Q,R,S,T,U,V,W,X,Y,Z"]⟩,
  ⟨0x24ea, "", ["CIRCLED DIGIT ZERO"]⟩,
  ⟨0x24eb, "NEGATIVE CIRCLED NUMBER ", ["ELEVEN,TWELVE,THIRTEEN,FOURTEEN,FIFTEEN,SIXTEEN,SEVENTEEN",
    "EIGHTEEN,NINETEEN,TWENTY"]⟩,
  ⟨0x24f5, "DOUBLE CIRCLED DIGIT ", ["ONE,TWO,THREE,FOUR,FIVE,SIX,SEVEN,EIGHT,NINE"]⟩,
  ⟨0x24fe, "", ["DOUBLE CIRCLED NUMBER TEN,NEGATIVE CIRCLED DIGIT ZERO"]⟩,
  ⟨0x2500, "BOX DRAWINGS ", ["LIGHT HORIZONTAL,HEAVY HORIZONTAL,LIGHT VERTICAL,HEAVY VERTICAL",
    "LIGHT TRIPLE DASH HORIZONTAL,HEAVY TRIPLE DASH HORIZONTAL,LIGHT TRIPLE DASH VERTICAL",
    "HEAVY TRIPLE DASH VERTICAL,LIGHT QUADRUPLE DASH HORIZONTAL,HEAVY QUADRUPLE DASH HORIZONTAL",
    "LIGHT QUADRUPLE DASH VERTICAL,HEAVY QUADRUPLE DASH VERTICAL,LIGHT DOWN AND RIGHT",
    "DOWN LIGHT AND RIGHT HEAVY,DOWN HEAVY AND RIGHT LIGHT,HEAVY DOWN AND RIGHT",
    "LIGHT DOWN AND LEFT,DOWN LIGHT AND LEFT HEAVY,DOWN HEAVY AND LEFT LIGHT,HEAVY DOWN AND LEFT",
    "LIGHT UP AND RIGHT,UP LIGHT AND RIGHT HEAVY,UP HEAVY AND RIGHT LIGHT,HEAVY UP AND RIGHT",
    "LIGHT UP AND LEFT,UP LIGHT AND LEFT HEAVY,UP HEAVY AND LEFT LIGHT,HEAVY UP AND LEFT",
    "LIGHT VERTICAL AND RIGHT,VERTICAL LIGHT AND RIGHT HEAVY,UP HEAVY AND RIGHT DOWN LIGHT",
    "DOWN HEAVY AND RIGHT UP LIGHT,VERTICAL HEAVY AND RIGHT LIGHT,DOWN LIGHT AND RIGHT UP HEAVY",
    "UP LIGHT AND RIGHT DOWN HEAVY,HEAVY VERTICAL AND RIGHT,LIGHT VERTICAL AND LEFT",
    "VERTICAL LIGHT AND LEFT HEAVY,UP HEAVY AND LEFT DOWN LIGHT,DOWN HEAVY AND LEFT UP LIGHT",
    "VERTICAL HEAVY AND LEFT LIGHT,DOWN LIGHT AND LEFT UP HEAVY,UP LIGHT AND LEFT DOWN HEAVY",
    "HEAVY VERTICAL AND LEFT,LIGHT DOWN AND HORIZONTAL,LEFT HEAVY AND RIGHT DOWN LIGHT",
    "RIGHT HEAVY AND LEFT DOWN LIGHT,DOWN LIGHT AND HORIZONTAL HEAVY",
    "DOWN HEAVY AND HORIZONTAL LIGHT,RIGHT LIGHT AND LEFT DOWN HEAVY",
    "LEFT LIGHT AND RIGHT DOWN HEAVY,HEAVY DOWN AND HORIZONTAL,LIGHT UP AND HORIZONTAL",
    "LEFT HEAVY AND RIGHT UP LIGHT,RIGHT HEAVY AND LEFT UP LIGHT,UP LIGHT AND HORIZONTAL HEAVY",
    "UP HEAVY AND HORIZONTAL LIGHT,RIGHT LIGHT AND LEFT UP HEAVY,LEFT LIGHT AND RIGHT UP HEAVY",
    "HEAVY UP AND HORIZONTAL,LIGHT VERTICAL AND HORIZONTAL,LEFT HEAVY AND RIGHT VERTICAL LIGHT",
    "RIGHT HEAVY AND LEFT VERTICAL LIGHT,VERTICAL LIGHT AND HORIZONTAL HEAVY",
    "UP HEAVY AND DOWN HORIZONTAL LIGHT,DOWN HEAVY AND UP HORIZONTAL LIGHT",
    "VERTICAL HEAVY AND HORIZONTAL LIGHT,LEFT UP HEAVY AND RIGHT DOWN LIGHT",
    "RIGHT UP HEAVY AND LEFT DOWN LIGHT,LEFT DOWN HEAVY AND RIGHT UP LIGHT",
    "RIGHT DOWN HEAVY AND LEFT UP LIGHT,DOWN LIGHT AND UP HORIZONTAL HEAVY",
    "UP LIGHT AND DOWN HORIZONTAL HEAVY,RIGHT LIGHT AND LEFT VERTICAL HEAVY",
    "LEFT LIGHT AND RIGHT VERTICAL HEAVY,HEAVY VERTICAL AND HORIZONTAL",
    "LIGHT DOUBLE DASH HORIZONTAL,HEAVY DOUBLE DASH HORIZONTAL,LIGHT DOUBLE DASH VERTICAL",
    "HEAVY DOUBLE DASH VERTICAL,DOUBLE HORIZONTAL,DOUBLE VERTICAL,DOWN SINGLE AND RIGHT DOUBLE",
    "DOWN DOUBLE AND RIGHT SINGLE,DOUBLE DOWN AND RIGHT,DOWN SINGLE AND LEFT DOUBLE",
    "DOWN DOUBLE AND LEFT SINGLE,DOUBLE DOWN AND LEFT,UP SINGLE AND RIGHT DOUBLE",
    "UP DOUBLE AND RIGHT SINGLE,DOUBLE UP AND RIGHT,UP SINGLE AND LEFT DOUBLE",
    "UP DOUBLE AND LEFT SINGLE,DOUBLE UP AND LEFT,VERTICAL SINGLE AND RIGHT DOUBLE",
    "VERTICAL DOUBLE AND RIGHT SINGLE,DOUBLE VERTICAL AND RIGHT,VERTICAL SINGLE AND LEFT DOUBLE",
    "VERTICAL DOUBLE AND LEFT SINGLE,DOUBLE VERTICAL AND LEFT,DOWN SINGLE AND HORIZONTAL DOUBLE",
    "DOWN DOUBLE AND HORIZONTAL SINGLE,DOUBLE DOWN AND HORIZONTAL,UP SINGLE AND HORIZONTAL DOUBLE",
    "UP DOUBLE AND HORIZONTAL SINGLE,DOUBLE UP AND HORIZONTAL",
    "VERTICAL SINGLE AND HORIZONTAL DOUBLE,VERTICAL DOUBLE AND HORIZONTAL SINGLE",
    "DOUBLE VERTICAL AND HORIZONTAL,LIGHT ARC DOWN AND RIGHT,LIGHT ARC DOWN AND LEFT",
    "LIGHT ARC UP AND LEFT,LIGHT ARC UP AND RIGHT,LIGHT DIAGONAL UPPER RIGHT TO LOWER LEFT",
    "LIGHT DIAGONAL UPPER LEFT TO LOWER RIGHT,LIGHT DIAGONAL CROSS,LIGHT LEFT,LIGHT UP,LIGHT RIGHT",
    "LIGHT DOWN,HEAVY LEFT,HEAVY UP,HEAVY RIGHT,HEAVY DOWN,LIGHT LEFT AND HEAVY RIGHT",
    "LIGHT UP AND HEAVY DOWN,HEAVY LEFT AND LIGHT RIGHT,HEAVY UP AND LIGHT DOWN"]⟩,
  ⟨0x2580, "", ["UPPER HALF BLOCK"]⟩,
  ⟨0x2581, "LOWER ", ["ONE EIGHTH BLOCK,ONE QUARTER BLOCK,THREE EIGHTHS BLOCK,HALF BLOCK",
    "FIVE EIGHTHS BLOCK,THREE QUARTERS BLOCK,SEVEN EIGHTHS BLOCK"]⟩,
  ⟨0x2588, "", ["FULL BLOCK,LEFT SEVEN EIGHTHS BLOCK,LEFT THREE QUARTERS BLOCK",
    "LEFT FIVE EIGHTHS BLOCK,LEFT HALF BLOCK,LEFT THREE EIGHTHS BLOCK,LEFT ONE QUARTER BLOCK",
    "LEFT ONE EIGHTH BLOCK,RIGHT HALF BLOCK,LIGHT SHADE,MEDIUM SHADE,DARK SHADE",
    "UPPER ONE EIGHTH BLOCK,RIGHT ONE EIGHTH BLOCK,QUADRANT LOWER LEFT,QUADRANT LOWER RIGHT"]⟩,
  ⟨0x2598, "QUADRANT UPPER ", ["LEFT,LEFT AND LOWER LEFT AND LOWER RIGHT,LEFT AND LOWER RIGHT",
    "LEFT AND UPPER RIGHT AND LOWER LEFT,LEFT AND UPPER RIGHT AND LOWER RIGHT,RIGHT",
    "RIGHT AND LOWER LEFT,RIGHT AND LOWER LEFT AND LOWER RIGHT"]⟩,
  ⟨0x25a0, "", ["BLACK SQUARE,WHITE SQUARE,WHITE SQUARE WITH ROUNDED CORNERS",
    "WHITE SQUARE CONTAINING BLACK SMALL SQUARE"]⟩,
  ⟨0x25a4, "SQUARE WITH ", ["HORIZONTAL FILL,VERTICAL FILL,ORTHOGONAL CROSSHATCH FILL",
    "UPPER LEFT TO LOWER RIGHT FILL,UPPER RIGHT TO LOWER LEFT FILL,DIAGONAL CROSSHATCH FILL"]⟩,
  ⟨0x25aa, "", ["BLACK SMALL SQUARE,WHITE SMALL SQUARE,BLACK RECTANGLE,WHITE RECTANGLE",
    "BLACK VERTICAL RECTANGLE,WHITE VERTICAL RECTANGLE,BLACK PARALLELOGRAM,WHITE PARALLELOGRAM",
    "BLACK UP-POINTING TRIANGLE,WHITE UP-POINTING TRIANGLE,BLACK UP-POINTING SMALL TRIANGLE",
    "WHITE UP-POINTING SMALL TRIANGLE,BLACK RIGHT-POINTING TRIANGLE,WHITE RIGHT-POINTING TRIANGLE",
    "BLACK RIGHT-POINTING SMALL TRIANGLE,WHITE RIGHT-POINTING SMALL TRIANGLE",
    "BLACK RIGHT-POINTING POINTER,WHITE RIGHT-POINTING POINTER,BLACK DOWN-POINTING TRIANGLE",
    "WHITE DOWN-POINTING TRIANGLE,BLACK DOWN-POINTING SMALL TRIANGLE",
    "WHITE DOWN-POINTING SMALL TRIANGLE,BLACK LEFT-POINTING TRIANGLE,WHITE LEFT-POINTING TRIANGLE",
    "BLACK LEFT-POINTING SMALL TRIANGLE,WHITE LEFT-POINTING SMALL TRIANGLE",
    "BLACK LEFT-POINTING POINTER,WHITE LEFT-POINTING POINTER,BLACK DIAMOND,WHITE DIAMOND",
    "WHITE DIAMOND CONTAINING BLACK SMALL DIAMOND,FISHEYE,LOZENGE,WHITE CIRCLE,DOTTED CIRCLE",
    "CIRCLE WITH VERTICAL FILL,BULLSEYE,BLACK CIRCLE"]⟩,
  ⟨0x25d0, "CIRCLE WITH ", ["LEFT HALF BLACK,RIGHT HALF BLACK,LOWER HALF BLACK,UPPER HALF BLACK",
    "UPPER RIGHT QUADRANT BLACK,ALL BUT UPPER LEFT QUADRANT BLACK"]⟩,
  ⟨0x25d6, "", ["LEFT HALF BLACK CIRCLE,RIGHT HALF BLACK CIRCLE,INVERSE BULLET",
    "INVERSE WHITE CIRCLE,UPPER HALF INVERSE WHITE CIRCLE,LOWER HALF INVERSE WHITE CIRCLE",
    "UPPER LEFT QUADRANT CIRCULAR ARC,UPPER RIGHT QUADRANT CIRCULAR ARC",
    "LOWER RIGHT QUADRANT CIRCULAR ARC,LOWER LEFT QUADRANT CIRCULAR ARC,UPPER HALF CIRCLE",
    "LOWER HALF CIRCLE,BLACK LOWER RIGHT TRIANGLE,BLACK LOWER LEFT TRIANGLE",
    "BLACK UPPER LEFT TRIANGLE,BLACK UPPER RIGHT TRIANGLE,WHITE BULLET"]⟩,
  ⟨0x25e7, "SQUARE WITH ", ["LEFT HALF BLACK,RIGHT HALF BLACK,UPPER LEFT DIAGONAL HALF BLACK",
    "LOWER RIGHT DIAGONAL HALF BLACK"]⟩,
  ⟨0x25eb, "", ["WHITE SQUARE WITH VERTICAL BISECTING LINE,WHITE UP-POINTING TRIANGLE WITH DOT",
    "UP-POINTING TRIANGLE WITH LEFT HALF BLACK,UP-POINTING TRIANGLE WITH RIGHT HALF BLACK",
    "LARGE CIRCLE"]⟩,
  ⟨0x25f0, "WHITE SQUARE WITH ", ["UPPER LEFT QUADRANT,LOWER LEFT QUADRANT,LOWER RIGHT QUADRANT",
    "UPPER RIGHT QUADRANT"]⟩,
  ⟨0x25f4, "WHITE CIRCLE WITH ", ["UPPER LEFT QUADRANT,LOWER LEFT QUADRANT,LOWER RIGHT QUADRANT",
    "UPPER RIGHT QUADRANT"]⟩,
  ⟨0x25f8, "", ["UPPER LEFT TRIANGLE,UPPER RIGHT TRIANGLE,LOWER LEFT TRIANGLE,WHITE MEDIUM SQUARE",
    "BLACK MEDIUM SQUARE,WHITE MEDIUM SMALL SQUARE,BLACK MEDIUM SMALL SQUARE,LOWER RIGHT TRIANGLE",
    "BLACK SUN WITH RAYS,CLOUD,UMBRELLA,SNOWMAN,COMET,BLACK STAR,WHITE STAR,LIGHTNING,THUNDERSTORM",
    "SUN,ASCENDING NODE,DESCENDING NODE,CONJUNCTION,OPPOSITION,BLACK TELEPHONE,WHITE TELEPHONE",
    "BALLOT BOX,BALLOT BOX WITH CHECK,BALLOT BOX WITH X,SALTIRE,UMBRELLA WITH RAIN DROPS",
    "HOT BEVERAGE,WHITE SHOGI PIECE,BLACK SHOGI PIECE,SHAMROCK",
    "REVERSED ROTATED FLORAL HEART BULLET,BLACK LEFT POINTING INDEX,BLACK RIGHT POINTING INDEX",
    "WHITE LEFT POINTING INDEX,WHITE UP POINTING INDEX,WHITE RIGHT POINTING INDEX",
    "WHITE DOWN POINTING INDEX,SKULL AND CROSSBONES,CAUTION SIGN,RADIOACTIVE SIGN,BIOHAZARD SIGN",
    "CADUCEUS,ANKH,ORTHODOX CROSS,CHI RHO,CROSS OF LORRAINE,CROSS OF JERUSALEM,STAR AND CRESCENT",
    "FARSI SYMBOL,ADI SHAKTI,HAMMER AND SICKLE,PEACE SYMBOL,YIN YANG"]⟩,
  ⟨0x2630, "TRIGRAM FOR ", ["HEAVEN,LAKE,FIRE,THUNDER,WIND,WATER,MOUNTAIN,EARTH"]⟩,
  ⟨0x2638, "", ["WHEEL OF DHARMA,WHITE FROWNING FACE,WHITE SMILING FACE,BLACK SMILING FACE",
    "WHITE SUN WITH RAYS,FIRST QUARTER MOON,LAST QUARTER MOON,MERCURY,FEMALE SIGN,EARTH,MALE SIGN",
    "JUPITER,SATURN,URANUS,NEPTUNE,PLUTO,ARIES,TAURUS,GEMINI,CANCER,LEO,VIRGO,LIBRA,SCORPIUS",
    "SAGITTARIUS,CAPRICORN,AQUARIUS,PISCES"]⟩,
  ⟨0x2654, "WHITE CHESS ", ["KING,QUEEN,ROOK,BISHOP,KNIGHT,PAWN"]⟩,
  ⟨0x265a, "BLACK CHESS ", ["KING,QUEEN,ROOK,BISHOP,KNIGHT,PAWN"]⟩,
  ⟨0x2660, "", ["BLACK SPADE SUIT,WHITE HEART SUIT,WHITE DIAMOND SUIT,BLACK CLUB SUIT",
    "WHITE SPADE SUIT,BLACK HEART SUIT,BLACK DIAMOND SUIT,WHITE CLUB SUIT,HOT SPRINGS,QUARTER NOTE",
    "EIGHTH NOTE,BEAMED EIGHTH NOTES,BEAMED SIXTEENTH NOTES,MUSIC FLAT SIGN,MUSIC NATURAL SIGN",
    "MUSIC SHARP SIGN,WEST SYRIAC CROSS,EAST SYRIAC CROSS,UNIVERSAL RECYCLING SYMBOL"]⟩,
  ⟨0x2673, "RECYCLING SYMBOL FOR TYPE-", ["1 PLASTICS,2 PLASTICS,3 PLASTICS,4 PLASTICS,5 PLASTICS",
    "6 PLASTICS,7 PLASTICS"]⟩,
  ⟨0x267a, "", ["RECYCLING SYMBOL FOR GENERIC MATERIALS,BLACK UNIVERSAL RECYCLING SYMBOL",
    "RECYCLED PAPER SYMBOL,PARTIALLY-RECYCLED PAPER SYMBOL,PERMANENT PAPER SIGN",
    "WHEELCHAIR SYMBOL"]⟩,
  ⟨0x2680, "DIE FACE-", ["1,2,3,4,5,6"]⟩,
  ⟨0x2686, "WHITE CIRCLE WITH ", ["DOT RIGHT,TWO DOTS"]⟩,
  ⟨0x2688, "BLACK CIRCLE WITH ", ["WHITE DOT RIGHT,TWO WHITE DOTS"]⟩,
  ⟨0x268a, "MONOGRAM FOR ", ["YANG,YIN"]⟩,
  ⟨0x268c, "DIGRAM FOR ", ["GREATER YANG,LESSER YIN,LESSER YANG,GREATER YIN"]⟩,
  ⟨0x2690, "", ["WHITE FLAG,BLACK FLAG,HAMMER AND PICK,ANCHOR,CROSSED SWORDS,STAFF OF AESCULAPIUS",
    "SCALES,ALEMBIC,FLOWER,GEAR,STAFF OF HERMES,ATOM SYMBOL,FLEUR-DE-LIS,OUTLINED WHITE STAR",
    "THREE LINES CONVERGING RIGHT,THREE LINES CONVERGING LEFT,WARNING SIGN,HIGH VOLTAGE SIGN",
    "DOUBLED FEMALE SIGN,DOUBLED MALE SIGN,INTERLOCKED FEMALE AND MALE SIGN,MALE AND FEMALE SIGN",
    "MALE WITH STROKE SIGN,MALE WITH STROKE AND MALE AND FEMALE SIGN",
    "VERTICAL MALE WITH STROKE SIGN,HORIZONTAL MALE WITH STROKE SIGN,MEDIUM WHITE CIRCLE",
    "MEDIUM BLACK CIRCLE,MEDIUM SMALL WHITE CIRCLE,MARRIAGE SYMBOL,DIVORCE SYMBOL",
    "UNMARRIED PARTNERSHIP SYMBOL,COFFIN,FUNERAL URN,NEUTER,CERES,PALLAS,JUNO,VESTA,CHIRON",
    "BLACK MOON LILITH,SEXTILE,SEMISEXTILE,QUINCUNX,SESQUIQUADRATE,SOCCER BALL,BASEBALL",
    "SQUARED KEY,WHITE DRAUGHTS MAN,WHITE DRAUGHTS KING,BLACK DRAUGHTS MAN,BLACK DRAUGHTS KING",
    "SNOWMAN WITHOUT SNOW,SUN BEHIND CLOUD,RAIN,BLACK SNOWMAN,THUNDER CLOUD AND RAIN",
    "TURNED WHITE SHOGI PIECE,TURNED BLACK SHOGI PIECE,WHITE DIAMOND IN SQUARE,CROSSING LANES"]⟩,
  ⟨0x26cd, "", ["DISABLED CAR,OPHIUCHUS,PICK,CAR SLIDING,HELMET WITH WHITE CROSS",
    "CIRCLED CROSSING LANES,CHAINS,NO ENTRY,ALTERNATE ONE-WAY LEFT WAY TRAFFIC",
    "BLACK TWO-WAY LEFT WAY TRAFFIC,WHITE TWO-WAY LEFT WAY TRAFFIC,BLACK LEFT LANE MERGE",
    "WHITE LEFT LANE MERGE,DRIVE SLOW SIGN,HEAVY WHITE DOWN-POINTING TRIANGLE,LEFT CLOSED ENTRY",
    "SQUARED SALTIRE,FALLING DIAGONAL IN WHITE CIRCLE IN BLACK SQUARE,BLACK TRUCK"]⟩,
  ⟨0x26e0, "RESTRICTED LEFT ENTRY-", ["1,2"]⟩,
  ⟨0x26e2, "", ["ASTRONOMICAL SYMBOL FOR URANUS,HEAVY CIRCLE WITH STROKE AND TWO DOTS ABOVE",
    "PENTAGRAM,RIGHT-HANDED INTERLACED PENTAGRAM,LEFT-HANDED INTERLACED PENTAGRAM",
    "INVERTED PENTAGRAM,BLACK CROSS ON SHIELD,SHINTO SHRINE,CHURCH,CASTLE,HISTORIC SITE",
    "GEAR WITHOUT HUB,GEAR WITH HANDLES,MAP SYMBOL FOR LIGHTHOUSE,MOUNTAIN,UMBRELLA ON GROUND",
    "FOUNTAIN,FLAG IN HOLE,FERRY,SAILBOAT,SQUARE FOUR CORNERS,SKIER,ICE SKATE,PERSON WITH BALL",
    "TENT,JAPANESE BANK SYMBOL,HEADSTONE GRAVEYARD SYMBOL,FUEL PUMP,CUP ON BLACK SQUARE",
    "WHITE FLAG WITH HORIZONTAL MIDDLE BLACK STRIPE,BLACK SAFETY SCISSORS,UPPER BLADE SCISSORS",
    "BLACK SCISSORS,LOWER BLADE SCISSORS,WHITE SCISSORS,WHITE HEAVY CHECK MARK",
    "TELEPHONE LOCATION SIGN,TAPE DRIVE,AIRPLANE,ENVELOPE,RAISED FIST,RAISED HAND,VICTORY HAND",
    "WRITING HAND,LOWER RIGHT PENCIL,PENCIL,UPPER RIGHT PENCIL,WHITE NIB,BLACK NIB,CHECK MARK",
    "HEAVY CHECK MARK,MULTIPLICATION X,HEAVY MULTIPLICATION X,BALLOT X,HEAVY BALLOT X",
    "OUTLINED GREEK CROSS,HEAVY GREEK CROSS,OPEN CENTRE CROSS,HEAVY OPEN CENTRE CROSS,LATIN CROSS",
    "SHADOWED WHITE LATIN CROSS"]⟩,
  ⟨0x271f, "", ["OUTLINED LATIN CROSS,MALTESE CROSS,STAR OF DAVID,FOUR TEARDROP-SPOKED ASTERISK",
    "FOUR BALLOON-SPOKED ASTERISK,HEAVY FOUR BALLOON-SPOKED ASTERISK,FOUR CLUB-SPOKED ASTERISK",
    "BLACK FOUR POINTED STAR,WHITE FOUR POINTED STAR,SPARKLES,STRESS OUTLINED WHITE STAR",
    "CIRCLED WHITE STAR,OPEN CENTRE BLACK STAR,BLACK CENTRE WHITE STAR,OUTLINED BLACK STAR",
    "HEAVY OUTLINED BLACK STAR,PINWHEEL STAR,SHADOWED WHITE STAR,HEAVY ASTERISK",
    "OPEN CENTRE ASTERISK,EIGHT SPOKED ASTERISK,EIGHT POINTED BLACK STAR",
    "EIGHT POINTED PINWHEEL STAR,SIX POINTED BLACK STAR,EIGHT POINTED RECTILINEAR BLACK STAR",
    "HEAVY EIGHT POINTED RECTILINEAR BLACK STAR,TWELVE POINTED BLACK STAR,SIXTEEN POINTED ASTERISK",
    "TEARDROP-SPOKED ASTERISK,OPEN CENTRE TEARDROP-SPOKED ASTERISK,HEAVY TEARDROP-SPOKED ASTERISK",
    "SIX PETALLED BLACK AND WHITE FLORETTE,BLACK FLORETTE,WHITE FLORETTE",
    "EIGHT PETALLED OUTLINED BLACK FLORETTE,CIRCLED OPEN CENTRE EIGHT POINTED STAR",
    "HEAVY TEARDROP-SPOKED PINWHEEL ASTERISK,SNOWFLAKE,TIGHT TRIFOLIATE SNOWFLAKE",
    "HEAVY CHEVRON SNOWFLAKE,SPARKLE,HEAVY SPARKLE,BALLOON-SPOKED ASTERISK",
    "EIGHT TEARDROP-SPOKED PROPELLER ASTERISK,HEAVY EIGHT TEARDROP-SPOKED PROPELLER ASTERISK",
    "CROSS MARK,SHADOWED WHITE CIRCLE,NEGATIVE SQUARED CROSS MARK",
    "LOWER RIGHT DROP-SHADOWED WHITE SQUARE,UPPER RIGHT DROP-SHADOWED WHITE SQUARE",
    "LOWER RIGHT SHADOWED WHITE SQUARE,UPPER RIGHT SHADOWED WHITE SQUARE",
    "BLACK QUESTION MARK ORNAMENT,WHITE QUESTION MARK ORNAMENT,WHITE EXCLAMATION MARK ORNAMENT",
    "BLACK DIAMOND MINUS WHITE X,HEAVY EXCLAMATION MARK SYMBOL,LIGHT VERTICAL BAR",
    "MEDIUM VERTICAL BAR"]⟩,
  ⟨0x275a, "HEAVY ", ["VERTICAL BAR,SINGLE TURNED COMMA QUOTATION MARK ORNAMENT",
    "SINGLE COMMA QUOTATION MARK ORNAMENT,DOUBLE TURNED COMMA QUOTATION MARK ORNAMENT",
    "DOUBLE COMMA QUOTATION MARK ORNAMENT,LOW SINGLE COMMA QUOTATION MARK ORNAMENT",
    "LOW DOUBLE COMMA QUOTATION MARK ORNAMENT"]⟩,
  ⟨0x2761, "", ["CURVED STEM PARAGRAPH SIGN ORNAMENT,HEAVY EXCLAMATION MARK ORNAMENT",
    "HEAVY HEART EXCLAMATION MARK ORNAMENT,HEAVY BLACK HEART,ROTATED HEAVY BLACK HEART BULLET",
    "FLORAL HEART,ROTATED FLORAL HEART BULLET,MEDIUM LEFT PARENTHESIS ORNAMENT",
    "MEDIUM RIGHT PARENTHESIS ORNAMENT,MEDIUM FLATTENED LEFT PARENTHESIS ORNAMENT",
    "MEDIUM FLATTENED RIGHT PARENTHESIS ORNAMENT,MEDIUM LEFT-POINTING ANGLE BRACKET ORNAMENT",
    "MEDIUM RIGHT-POINTING ANGLE BRACKET ORNAMENT",
    "HEAVY LEFT-POINTING ANGLE QUOTATION MARK ORNAMENT",
    "HEAVY RIGHT-POINTING ANGLE QUOTATION MARK ORNAMENT,HEAVY LEFT-POINTING ANGLE BRACKET ORNAMENT",
    "HEAVY RIGHT-POINTING ANGLE BRACKET ORNAMENT,LIGHT LEFT TORTOISE SHELL BRACKET ORNAMENT",
    "LIGHT RIGHT TORTOISE SHELL BRACKET ORNAMENT,MEDIUM LEFT CURLY BRACKET ORNAMENT",
    "MEDIUM RIGHT CURLY BRACKET ORNAMENT"]⟩,
  ⟨0x2776, "DINGBAT NEGATIVE CIRCLED DIGIT ", ["ONE,TWO,THREE,FOUR,FIVE,SIX,SEVEN,EIGHT,NINE"]⟩,
  ⟨0x277f, "", ["DINGBAT NEGATIVE CIRCLED NUMBER TEN"]⟩,
  ⟨0x2780, "DINGBAT CIRCLED SANS-SERIF DIGIT ", ["ONE,TWO,THREE,FOUR,FIVE,SIX,SEVEN,EIGHT,NINE"]⟩,
  ⟨0x2789, "", ["DINGBAT CIRCLED SANS-SERIF NUMBER TEN"]⟩,
  ⟨0x278a, "DINGBAT NEGATIVE CIRCLED SANS-SERIF ", ["DIGIT ONE,DIGIT TWO,DIGIT THREE,DIGIT FOUR",
    "DIGIT FIVE,DIGIT SIX,DIGIT SEVEN,DIGIT EIGHT,DIGIT NINE,NUMBER TEN"]⟩,
  ⟨0x2794, "HEAVY ", ["WIDE-HEADED RIGHTWARDS ARROW,PLUS SIGN,MINUS SIGN,DIVISION SIGN",
    "SOUTH EAST ARROW,RIGHTWARDS ARROW,NORTH EAST ARROW"]⟩,
  ⟨0x279b, "", ["DRAFTING POINT RIGHTWARDS ARROW,HEAVY ROUND-TIPPED RIGHTWARDS ARROW",
    "TRIANGLE-HEADED RIGHTWARDS ARROW,HEAVY TRIANGLE-HEADED RIGHTWARDS ARROW",
    "DASHED TRIANGLE-HEADED RIGHTWARDS ARROW,HEAVY DASHED TRIANGLE-HEADED RIGHTWARDS ARROW",
    "BLACK RIGHTWARDS ARROW,THREE-D TOP-LIGHTED RIGHTWARDS ARROWHEAD",
    "THREE-D BOTTOM-LIGHTED RIGHTWARDS ARROWHEAD,BLACK RIGHTWARDS ARROWHEAD",
    "HEAVY BLACK CURVED DOWNWARDS AND RIGHTWARDS ARROW",
    "HEAVY BLACK CURVED UPWARDS AND RIGHTWARDS ARROW,SQUAT BLACK RIGHTWARDS ARROW",
    "HEAVY CONCAVE-POINTED BLACK RIGHTWARDS ARROW,RIGHT-SHADED WHITE RIGHTWARDS ARROW",
    "LEFT-SHADED WHITE RIGHTWARDS ARROW,BACK-TILTED SHADOWED WHITE RIGHTWARDS ARROW",
    "FRONT-TILTED SHADOWED WHITE RIGHTWARDS ARROW",
    "HEAVY LOWER RIGHT-SHADOWED WHITE RIGHTWARDS ARROW",
    "HEAVY UPPER RIGHT-SHADOWED WHITE RIGHTWARDS ARROW",
    "NOTCHED LOWER RIGHT-SHADOWED WHITE RIGHTWARDS ARROW,CURLY LOOP",
    "NOTCHED UPPER RIGHT-SHADOWED WHITE RIGHTWARDS ARROW,CIRCLED HEAVY WHITE RIGHTWARDS ARROW",
    "WHITE-FEATHERED RIGHTWARDS ARROW"]⟩,
  ⟨0x27b4, "BLACK-FEATHERED ", ["SOUTH EAST ARROW,RIGHTWARDS ARROW,NORTH EAST ARROW"]⟩,
  ⟨0x27b7, "HEAVY BLACK-FEATHERED ", ["SOUTH EAST ARROW,RIGHTWARDS ARROW,NORTH EAST ARROW"]⟩,
  ⟨0x27ba, "", ["TEARDROP-BARBED RIGHTWARDS ARROW,HEAVY TEARDROP-SHANKED RIGHTWARDS ARROW",
    "WEDGE-TAILED RIGHTWARDS ARROW,HEAVY WEDGE-TAILED RIGHTWARDS ARROW",
    "OPEN-OUTLINED RIGHTWARDS ARROW,DOUBLE CURLY LOOP,THREE DIMENSIONAL ANGLE",
    "WHITE TRIANGLE CONTAINING SMALL WHITE TRIANGLE,PERPENDICULAR,OPEN SUBSET,OPEN SUPERSET",
    "LEFT S-SHAPED BAG DELIMITER,RIGHT S-SHAPED BAG DELIMITER,OR WITH DOT INSIDE",
    "REVERSE SOLIDUS PRECEDING SUBSET,SUPERSET PRECEDING SOLIDUS",
    "VERTICAL BAR WITH HORIZONTAL STROKE,MATHEMATICAL RISING DIAGONAL,LONG DIVISION",
    "MATHEMATICAL FALLING DIAGONAL,SQUARED LOGICAL AND,SQUARED LOGICAL OR",
    "WHITE DIAMOND WITH CENTRED DOT,AND WITH DOT,ELEMENT OF OPENING UPWARDS",
    "LOWER RIGHT CORNER WITH DOT,UPPER LEFT CORNER WITH DOT,LEFT OUTER JOIN,RIGHT OUTER JOIN",
    "FULL OUTER JOIN,LARGE UP TACK,LARGE DOWN TACK,LEFT AND RIGHT DOUBLE TURNSTILE",
    "LEFT AND RIGHT TACK,LEFT MULTIMAP,LONG RIGHT TACK,LONG LEFT TACK,UP TACK WITH CIRCLE ABOVE",
    "LOZENGE DIVIDED BY HORIZONTAL RULE"]⟩,
  ⟨0x27e1, "WHITE CONCAVE-SIDED ", ["DIAMOND,DIAMOND WITH LEFTWARDS TICK",
    "DIAMOND WITH RIGHTWARDS TICK"]⟩,
  ⟨0x27e4, "WHITE SQUARE WITH ", ["LEFTWARDS TICK,RIGHTWARDS TICK"]⟩,
  ⟨0x27e6, "MATHEMATICAL ", ["LEFT WHITE SQUARE BRACKET,RIGHT WHITE SQUARE BRACKET",
    "LEFT ANGLE BRACKET,RIGHT ANGLE BRACKET,LEFT DOUBLE ANGLE BRACKET,RIGHT DOUBLE ANGLE BRACKET",
    "LEFT WHITE TORTOISE SHELL BRACKET,RIGHT WHITE TORTOISE SHELL BRACKET",
    "LEFT FLATTENED PARENTHESIS,RIGHT FLATTENED PARENTHESIS"]⟩,
  ⟨0x27f0, "", ["UPWARDS QUADRUPLE ARROW,DOWNWARDS QUADRUPLE ARROW",
    "ANTICLOCKWISE GAPPED CIRCLE ARROW,CLOCKWISE GAPPED CIRCLE ARROW",
    "RIGHT ARROW WITH CIRCLED PLUS"]⟩,
  ⟨0x27f5, "LONG ", ["LEFTWARDS ARROW,RIGHTWARDS ARROW,LEFT RIGHT ARROW,LEFTWARDS DOUBLE ARROW",
    "RIGHTWARDS DOUBLE ARROW,LEFT RIGHT DOUBLE ARROW,LEFTWARDS ARROW FROM BAR",
    "RIGHTWARDS ARROW FROM BAR,LEFTWARDS DOUBLE ARROW FROM BAR,RIGHTWARDS DOUBLE ARROW FROM BAR",
    "RIGHTWARDS SQUIGGLE ARROW"]⟩,
  ⟨0x2800, "", ["BRAILLE PATTERN BLANK"]⟩,
  ⟨0x2801, "BRAILLE PATTERN DOTS-", ["1,2,12,3,13,23,123,4,14,24,124,34,134,234,1234,5,15,25,125",
    "35,135,235,1235,45,145,245,1245,345,1345,2345,12345,6,16,26,126,36,136,236,1236,46,146,246",
    "1246,346,1346,2346,12346,56,156,256,1256,356,1356,2356,12356,456,1456,2456,12456,3456,13456",
    "23456,123456,7,17,27,127,37,137,237,1237,47,147,247,1247,347,1347,2347,12347,57,157,257,1257",
    "357,1357,2357,12357,457,1457,2457,12457,3457,13457,23457,123457,67,167,267,1267,367,1367,2367",
    "12367,467,1467,2467,12467,3467,13467,23467,123467,567,1567,2567,12567,3567,13567,23567,123567",
    "4567,14567,24567,124567,34567,134567,234567,1234567,8,18,28,128,38,138,238,1238,48,148,248",
    "1248,348,1348,2348,12348,58,158,258,1258,358,1358,2358,12358,458,1458,2458,12458,3458,13458",
    "23458,123458,68,168,268,1268,368,1368,2368,12368,468,1468,2468,12468,3468,13468,23468,123468",
    "568,1568,2568,12568,3568,13568,23568,123568,4568,14568,24568,124568,34568,134568,234568",
    "1234568,78,178,278,1278,378,1378,2378,12378,478,1478,2478,12478,3478,13478,23478,123478,578",
    "1578,2578,12578,3578,13578,23578,123578,4578,14578,24578,124578,34578,134578,234578,1234578",
    "678,1678,2678,12678,3678,13678,23678,123678,4678,14678,24678,124678,34678,134678,234678",
    "1234678,5678,15678,25678,125678,35678,135678,235678,1235678,45678,145678,245678,1245678",
    "345678,1345678,2345678,12345678"]⟩]

end Conform.Text.Table
