import Conform.Text.Table.Name.Run

/-!
# Names of operators

The names of the characters from U+2900 to U+2BFF: further arrows and mathematical operators.
-/

namespace Conform.Text.Table

/-- Runs of the names of operators. -/
def operatorNames : List NameRun := [
  ⟨0x2900, "RIGHTWARDS TWO-HEADED ARROW WITH ", ["VERTICAL STROKE,DOUBLE VERTICAL STROKE"]⟩,
  ⟨0x2902, "", ["LEFTWARDS DOUBLE ARROW WITH VERTICAL STROKE",
    "RIGHTWARDS DOUBLE ARROW WITH VERTICAL STROKE,LEFT RIGHT DOUBLE ARROW WITH VERTICAL STROKE",
    "RIGHTWARDS TWO-HEADED ARROW FROM BAR,LEFTWARDS DOUBLE ARROW FROM BAR",
    "RIGHTWARDS DOUBLE ARROW FROM BAR,DOWNWARDS ARROW WITH HORIZONTAL STROKE",
    "UPWARDS ARROW WITH HORIZONTAL STROKE,UPWARDS TRIPLE ARROW,DOWNWARDS TRIPLE ARROW",
    "LEFTWARDS DOUBLE DASH ARROW,RIGHTWARDS DOUBLE DASH ARROW,LEFTWARDS TRIPLE DASH ARROW",
    "RIGHTWARDS TRIPLE DASH ARROW,RIGHTWARDS TWO-HEADED TRIPLE DASH ARROW",
    "RIGHTWARDS ARROW WITH DOTTED STEM,UPWARDS ARROW TO BAR,DOWNWARDS ARROW TO BAR"]⟩,
  ⟨0x2914, "RIGHTWARDS ARROW WITH TAIL WITH ", ["VERTICAL STROKE,DOUBLE VERTICAL STROKE"]⟩,
  ⟨0x2916, "RIGHTWARDS TWO-HEADED ARROW WITH ", ["TAIL,TAIL WITH VERTICAL STROKE",
    "TAIL WITH DOUBLE VERTICAL STROKE"]⟩,
  ⟨0x2919, "", ["LEFTWARDS ARROW-TAIL,RIGHTWARDS ARROW-TAIL,LEFTWARDS DOUBLE ARROW-TAIL",
    "RIGHTWARDS DOUBLE ARROW-TAIL,LEFTWARDS ARROW TO BLACK DIAMOND",
    "RIGHTWARDS ARROW TO BLACK DIAMOND,LEFTWARDS ARROW FROM BAR TO BLACK DIAMOND",
    "RIGHTWARDS ARROW FROM BAR TO BLACK DIAMOND,NORTH WEST AND SOUTH EAST ARROW",
    "NORTH EAST AND SOUTH WEST ARROW,NORTH WEST ARROW WITH HOOK,NORTH EAST ARROW WITH HOOK",
    "SOUTH EAST ARROW WITH HOOK,SOUTH WEST ARROW WITH HOOK,NORTH WEST ARROW AND NORTH EAST ARROW",
    "NORTH EAST ARROW AND SOUTH EAST ARROW,SOUTH EAST ARROW AND SOUTH WEST ARROW",
    "SOUTH WEST ARROW AND NORTH WEST ARROW,RISING DIAGONAL CROSSING FALLING DIAGONAL",
    "FALLING DIAGONAL CROSSING RISING DIAGONAL,SOUTH EAST ARROW CROSSING NORTH EAST ARROW",
    "NORTH EAST ARROW CROSSING SOUTH EAST ARROW,FALLING DIAGONAL CROSSING NORTH EAST ARROW",
    "RISING DIAGONAL CROSSING SOUTH EAST ARROW,NORTH EAST ARROW CROSSING NORTH WEST ARROW",
    "NORTH WEST ARROW CROSSING NORTH EAST ARROW,WAVE ARROW POINTING DIRECTLY RIGHT"]⟩,
  ⟨0x2934, "ARROW POINTING RIGHTWARDS THEN CURVING ", ["UPWARDS,DOWNWARDS"]⟩,
  ⟨0x2936, "ARROW POINTING DOWNWARDS THEN CURVING ", ["LEFTWARDS,RIGHTWARDS"]⟩,
  ⟨0x2938, "", ["RIGHT-SIDE ARC CLOCKWISE ARROW,LEFT-SIDE ARC ANTICLOCKWISE ARROW",
    "TOP ARC ANTICLOCKWISE ARROW,BOTTOM ARC ANTICLOCKWISE ARROW,TOP ARC CLOCKWISE ARROW WITH MINUS",
    "TOP ARC ANTICLOCKWISE ARROW WITH PLUS,LOWER RIGHT SEMICIRCULAR CLOCKWISE ARROW",
    "LOWER LEFT SEMICIRCULAR ANTICLOCKWISE ARROW,ANTICLOCKWISE CLOSED CIRCLE ARROW",
    "CLOCKWISE CLOSED CIRCLE ARROW,RIGHTWARDS ARROW ABOVE SHORT LEFTWARDS ARROW",
    "LEFTWARDS ARROW ABOVE SHORT RIGHTWARDS ARROW,SHORT RIGHTWARDS ARROW ABOVE LEFTWARDS ARROW",
    "RIGHTWARDS ARROW WITH PLUS BELOW,LEFTWARDS ARROW WITH PLUS BELOW,RIGHTWARDS ARROW THROUGH X",
    "LEFT RIGHT ARROW THROUGH SMALL CIRCLE,UPWARDS TWO-HEADED ARROW FROM SMALL CIRCLE",
    "LEFT BARB UP RIGHT BARB DOWN HARPOON,LEFT BARB DOWN RIGHT BARB UP HARPOON",
    "UP BARB RIGHT DOWN BARB LEFT HARPOON,UP BARB LEFT DOWN BARB RIGHT HARPOON",
    "LEFT BARB UP RIGHT BARB UP HARPOON,UP BARB RIGHT DOWN BARB RIGHT HARPOON",
    "LEFT BARB DOWN RIGHT BARB DOWN HARPOON,UP BARB LEFT DOWN BARB LEFT HARPOON",
    "LEFTWARDS HARPOON WITH BARB UP TO BAR,RIGHTWARDS HARPOON WITH BARB UP TO BAR",
    "UPWARDS HARPOON WITH BARB RIGHT TO BAR,DOWNWARDS HARPOON WITH BARB RIGHT TO BAR",
    "LEFTWARDS HARPOON WITH BARB DOWN TO BAR,RIGHTWARDS HARPOON WITH BARB DOWN TO BAR",
    "UPWARDS HARPOON WITH BARB LEFT TO BAR,DOWNWARDS HARPOON WITH BARB LEFT TO BAR",
    "LEFTWARDS HARPOON WITH BARB UP FROM BAR,RIGHTWARDS HARPOON WITH BARB UP FROM BAR",
    "UPWARDS HARPOON WITH BARB RIGHT FROM BAR,DOWNWARDS HARPOON WITH BARB RIGHT FROM BAR",
    "LEFTWARDS HARPOON WITH BARB DOWN FROM BAR,RIGHTWARDS HARPOON WITH BARB DOWN FROM BAR",
    "UPWARDS HARPOON WITH BARB LEFT FROM BAR,DOWNWARDS HARPOON WITH BARB LEFT FROM BAR",
    "LEFTWARDS HARPOON WITH BARB UP ABOVE LEFTWARDS HARPOON WITH BARB DOWN",
    "UPWARDS HARPOON WITH BARB LEFT BESIDE UPWARDS HARPOON WITH BARB RIGHT",
    "RIGHTWARDS HARPOON WITH BARB UP ABOVE RIGHTWARDS HARPOON WITH BARB DOWN",
    "DOWNWARDS HARPOON WITH BARB LEFT BESIDE DOWNWARDS HARPOON WITH BARB RIGHT"]⟩,
  ⟨0x2966, "LEFTWARDS HARPOON WITH BARB ", ["UP ABOVE RIGHTWARDS HARPOON WITH BARB UP",
    "DOWN ABOVE RIGHTWARDS HARPOON WITH BARB DOWN"]⟩,
  ⟨0x2968, "RIGHTWARDS HARPOON WITH BARB ", ["UP ABOVE LEFTWARDS HARPOON WITH BARB UP",
    "DOWN ABOVE LEFTWARDS HARPOON WITH BARB DOWN"]⟩,
  ⟨0x296a, "LEFTWARDS HARPOON WITH BARB ", ["UP ABOVE LONG DASH,DOWN BELOW LONG DASH"]⟩,
  ⟨0x296c, "RIGHTWARDS HARPOON WITH BARB ", ["UP ABOVE LONG DASH,DOWN BELOW LONG DASH"]⟩,
  ⟨0x296e, "", ["UPWARDS HARPOON WITH BARB LEFT BESIDE DOWNWARDS HARPOON WITH BARB RIGHT",
    "DOWNWARDS HARPOON WITH BARB LEFT BESIDE UPWARDS HARPOON WITH BARB RIGHT",
    "RIGHT DOUBLE ARROW WITH ROUNDED HEAD,EQUALS SIGN ABOVE RIGHTWARDS ARROW",
    "TILDE OPERATOR ABOVE RIGHTWARDS ARROW,LEFTWARDS ARROW ABOVE TILDE OPERATOR",
    "RIGHTWARDS ARROW ABOVE TILDE OPERATOR,RIGHTWARDS ARROW ABOVE ALMOST EQUAL TO",
    "LESS-THAN ABOVE LEFTWARDS ARROW,LEFTWARDS ARROW THROUGH LESS-THAN",
    "GREATER-THAN ABOVE RIGHTWARDS ARROW,SUBSET ABOVE RIGHTWARDS ARROW",
    "LEFTWARDS ARROW THROUGH SUBSET,SUPERSET ABOVE LEFTWARDS ARROW,LEFT FISH TAIL,RIGHT FISH TAIL",
    "UP FISH TAIL,DOWN FISH TAIL,TRIPLE VERTICAL BAR DELIMITER,Z NOTATION SPOT",
    "Z NOTATION TYPE COLON,LEFT WHITE CURLY BRACKET,RIGHT WHITE CURLY BRACKET",
    "LEFT WHITE PARENTHESIS,RIGHT WHITE PARENTHESIS,Z NOTATION LEFT IMAGE BRACKET",
    "Z NOTATION RIGHT IMAGE BRACKET,Z NOTATION LEFT BINDING BRACKET",
    "Z NOTATION RIGHT BINDING BRACKET,LEFT SQUARE BRACKET WITH UNDERBAR",
    "RIGHT SQUARE BRACKET WITH UNDERBAR,LEFT SQUARE BRACKET WITH TICK IN TOP CORNER",
    "RIGHT SQUARE BRACKET WITH TICK IN BOTTOM CORNER",
    "LEFT SQUARE BRACKET WITH TICK IN BOTTOM CORNER,RIGHT SQUARE BRACKET WITH TICK IN TOP CORNER",
    "LEFT ANGLE BRACKET WITH DOT,RIGHT ANGLE BRACKET WITH DOT,LEFT ARC LESS-THAN BRACKET",
    "RIGHT ARC GREATER-THAN BRACKET,DOUBLE LEFT ARC GREATER-THAN BRACKET",
    "DOUBLE RIGHT ARC LESS-THAN BRACKET,LEFT BLACK TORTOISE SHELL BRACKET",
    "RIGHT BLACK TORTOISE SHELL BRACKET,DOTTED FENCE,VERTICAL ZIGZAG LINE",
    "MEASURED ANGLE OPENING LEFT,RIGHT ANGLE VARIANT WITH SQUARE,MEASURED RIGHT ANGLE WITH DOT",
    "ANGLE WITH S INSIDE,ACUTE ANGLE,SPHERICAL ANGLE OPENING LEFT,SPHERICAL ANGLE OPENING UP",
    "TURNED ANGLE,REVERSED ANGLE,ANGLE WITH UNDERBAR,REVERSED ANGLE WITH UNDERBAR"]⟩,
  ⟨0x29a6, "OBLIQUE ANGLE OPENING ", ["UP,DOWN"]⟩,
  ⟨0x29a8, "MEASURED ANGLE WITH OPEN ARM ENDING IN ARROW POINTING ", ["UP AND RIGHT,UP AND LEFT",
    "DOWN AND RIGHT,DOWN AND LEFT,RIGHT AND UP,LEFT AND UP,RIGHT AND DOWN,LEFT AND DOWN"]⟩,
  ⟨0x29b0, "", ["REVERSED EMPTY SET"]⟩,
  ⟨0x29b1, "EMPTY SET WITH ", ["OVERBAR,SMALL CIRCLE ABOVE,RIGHT ARROW ABOVE,LEFT ARROW ABOVE"]⟩,
  ⟨0x29b5, "", ["CIRCLE WITH HORIZONTAL BAR,CIRCLED VERTICAL BAR,CIRCLED PARALLEL",
    "CIRCLED REVERSE SOLIDUS,CIRCLED PERPENDICULAR",
    "CIRCLE DIVIDED BY HORIZONTAL BAR AND TOP HALF DIVIDED BY VERTICAL BAR",
    "CIRCLE WITH SUPERIMPOSED X,CIRCLED ANTICLOCKWISE-ROTATED DIVISION SIGN",
    "UP ARROW THROUGH CIRCLE,CIRCLED WHITE BULLET,CIRCLED BULLET,CIRCLED LESS-THAN",
    "CIRCLED GREATER-THAN,CIRCLE WITH SMALL CIRCLE TO THE RIGHT",
    "CIRCLE WITH TWO HORIZONTAL STROKES TO THE RIGHT,SQUARED RISING DIAGONAL SLASH",
    "SQUARED FALLING DIAGONAL SLASH,SQUARED ASTERISK,SQUARED SMALL CIRCLE,SQUARED SQUARE",
    "TWO JOINED SQUARES,TRIANGLE WITH DOT ABOVE,TRIANGLE WITH UNDERBAR,S IN TRIANGLE",
    "TRIANGLE WITH SERIFS AT BOTTOM,RIGHT TRIANGLE ABOVE LEFT TRIANGLE",
    "LEFT TRIANGLE BESIDE VERTICAL BAR,VERTICAL BAR BESIDE RIGHT TRIANGLE",
    "BOWTIE WITH LEFT HALF BLACK,BOWTIE WITH RIGHT HALF BLACK,BLACK BOWTIE",
    "TIMES WITH LEFT HALF BLACK,TIMES WITH RIGHT HALF BLACK,WHITE HOURGLASS,BLACK HOURGLASS",
    "LEFT WIGGLY FENCE,RIGHT WIGGLY FENCE,LEFT DOUBLE WIGGLY FENCE,RIGHT DOUBLE WIGGLY FENCE",
    "INCOMPLETE INFINITY,TIE OVER INFINITY,INFINITY NEGATED WITH VERTICAL BAR",
    "DOUBLE-ENDED MULTIMAP,SQUARE WITH CONTOURED OUTLINE,INCREASES AS,SHUFFLE PRODUCT",
    "EQUALS SIGN AND SLANTED PARALLEL,EQUALS SIGN AND SLANTED PARALLEL WITH TILDE ABOVE",
    "IDENTICAL TO AND SLANTED PARALLEL,GLEICH STARK,THERMODYNAMIC",
    "DOWN-POINTING TRIANGLE WITH LEFT HALF BLACK,DOWN-POINTING TRIANGLE WITH RIGHT HALF BLACK",
    "BLACK DIAMOND WITH DOWN ARROW,BLACK LOZENGE,WHITE CIRCLE WITH DOWN ARROW",
    "BLACK CIRCLE WITH DOWN ARROW"]⟩,
  ⟨0x29ee, "ERROR-BARRED ", ["WHITE SQUARE,BLACK SQUARE,WHITE DIAMOND,BLACK DIAMOND,WHITE CIRCLE",
    "BLACK CIRCLE"]⟩,
  ⟨0x29f4, "", ["RULE-DELAYED,REVERSE SOLIDUS OPERATOR,SOLIDUS WITH OVERBAR",
    "REVERSE SOLIDUS WITH HORIZONTAL STROKE,BIG SOLIDUS,BIG REVERSE SOLIDUS,DOUBLE PLUS",
    "TRIPLE PLUS,LEFT-POINTING CURVED ANGLE BRACKET,RIGHT-POINTING CURVED ANGLE BRACKET,TINY",
    "MINY"]⟩,
  ⟨0x2a00, "N-ARY ", ["CIRCLED DOT OPERATOR,CIRCLED PLUS OPERATOR,CIRCLED TIMES OPERATOR",
    "UNION OPERATOR WITH DOT,UNION OPERATOR WITH PLUS,SQUARE INTERSECTION OPERATOR",
    "SQUARE UNION OPERATOR"]⟩,
  ⟨0x2a07, "", ["TWO LOGICAL AND OPERATOR,TWO LOGICAL OR OPERATOR,N-ARY TIMES OPERATOR",
    "MODULO TWO SUM,SUMMATION WITH INTEGRAL,QUADRUPLE INTEGRAL OPERATOR,FINITE PART INTEGRAL",
    "INTEGRAL WITH DOUBLE STROKE,INTEGRAL AVERAGE WITH SLASH,CIRCULATION FUNCTION",
    "ANTICLOCKWISE INTEGRATION,LINE INTEGRATION WITH RECTANGULAR PATH AROUND POLE",
    "LINE INTEGRATION WITH SEMICIRCULAR PATH AROUND POLE,LINE INTEGRATION NOT INCLUDING THE POLE",
    "INTEGRAL AROUND A POINT OPERATOR,QUATERNION INTEGRAL OPERATOR"]⟩,
  ⟨0x2a17, "INTEGRAL WITH ", ["LEFTWARDS ARROW WITH HOOK,TIMES SIGN,INTERSECTION,UNION,OVERBAR",
    "UNDERBAR"]⟩,
  ⟨0x2a1d, "", ["JOIN,LARGE LEFT TRIANGLE OPERATOR"]⟩,
  ⟨0x2a1f, "Z NOTATION SCHEMA ", ["COMPOSITION,PIPING,PROJECTION"]⟩,
  ⟨0x2a22, "PLUS SIGN WITH ", ["SMALL CIRCLE ABOVE,CIRCUMFLEX ACCENT ABOVE,TILDE ABOVE,DOT BELOW",
    "TILDE BELOW,SUBSCRIPT TWO,BLACK TRIANGLE"]⟩,
  ⟨0x2a29, "MINUS SIGN WITH ", ["COMMA ABOVE,DOT BELOW,FALLING DOTS,RISING DOTS"]⟩,
  ⟨0x2a2d, "", ["PLUS SIGN IN LEFT HALF CIRCLE,PLUS SIGN IN RIGHT HALF CIRCLE",
    "VECTOR OR CROSS PRODUCT,MULTIPLICATION SIGN WITH DOT ABOVE,MULTIPLICATION SIGN WITH UNDERBAR",
    "SEMIDIRECT PRODUCT WITH BOTTOM CLOSED,SMASH PRODUCT,MULTIPLICATION SIGN IN LEFT HALF CIRCLE",
    "MULTIPLICATION SIGN IN RIGHT HALF CIRCLE,CIRCLED MULTIPLICATION SIGN WITH CIRCUMFLEX ACCENT",
    "MULTIPLICATION SIGN IN DOUBLE CIRCLE,CIRCLED DIVISION SIGN,PLUS SIGN IN TRIANGLE",
    "MINUS SIGN IN TRIANGLE,MULTIPLICATION SIGN IN TRIANGLE,INTERIOR PRODUCT",
    "RIGHTHAND INTERIOR PRODUCT,Z NOTATION RELATIONAL COMPOSITION,AMALGAMATION OR COPRODUCT",
    "INTERSECTION WITH DOT,UNION WITH MINUS SIGN,UNION WITH OVERBAR,INTERSECTION WITH OVERBAR",
    "INTERSECTION WITH LOGICAL AND,UNION WITH LOGICAL OR,UNION ABOVE INTERSECTION",
    "INTERSECTION ABOVE UNION,UNION ABOVE BAR ABOVE INTERSECTION",
    "INTERSECTION ABOVE BAR ABOVE UNION,UNION BESIDE AND JOINED WITH UNION",
    "INTERSECTION BESIDE AND JOINED WITH INTERSECTION,CLOSED UNION WITH SERIFS",
    "CLOSED INTERSECTION WITH SERIFS,DOUBLE SQUARE INTERSECTION,DOUBLE SQUARE UNION",
    "CLOSED UNION WITH SERIFS AND SMASH PRODUCT,LOGICAL AND WITH DOT ABOVE",
    "LOGICAL OR WITH DOT ABOVE,DOUBLE LOGICAL AND,DOUBLE LOGICAL OR"]⟩,
  ⟨0x2a55, "TWO INTERSECTING LOGICAL ", ["AND,OR"]⟩,
  ⟨0x2a57, "SLOPING LARGE ", ["OR,AND"]⟩,
  ⟨0x2a59, "LOGICAL ", ["OR OVERLAPPING LOGICAL AND,AND WITH MIDDLE STEM,OR WITH MIDDLE STEM",
    "AND WITH HORIZONTAL DASH,OR WITH HORIZONTAL DASH,AND WITH DOUBLE OVERBAR,AND WITH UNDERBAR",
    "AND WITH DOUBLE UNDERBAR"]⟩,
  ⟨0x2a61, "", ["SMALL VEE WITH UNDERBAR,LOGICAL OR WITH DOUBLE OVERBAR",
    "LOGICAL OR WITH DOUBLE UNDERBAR,Z NOTATION DOMAIN ANTIRESTRICTION",
    "Z NOTATION RANGE ANTIRESTRICTION,EQUALS SIGN WITH DOT BELOW,IDENTICAL WITH DOT ABOVE",
    "TRIPLE HORIZONTAL BAR WITH DOUBLE VERTICAL STROKE",
    "TRIPLE HORIZONTAL BAR WITH TRIPLE VERTICAL STROKE,TILDE OPERATOR WITH DOT ABOVE",
    "TILDE OPERATOR WITH RISING DOTS,SIMILAR MINUS SIMILAR,CONGRUENT WITH DOT ABOVE",
    "EQUALS WITH ASTERISK,ALMOST EQUAL TO WITH CIRCUMFLEX ACCENT,APPROXIMATELY EQUAL OR EQUAL TO",
    "EQUALS SIGN ABOVE PLUS SIGN,PLUS SIGN ABOVE EQUALS SIGN,EQUALS SIGN ABOVE TILDE OPERATOR",
    "DOUBLE COLON EQUAL,TWO CONSECUTIVE EQUALS SIGNS,THREE CONSECUTIVE EQUALS SIGNS",
    "EQUALS SIGN WITH TWO DOTS ABOVE AND TWO DOTS BELOW,EQUIVALENT WITH FOUR DOTS ABOVE",
    "LESS-THAN WITH CIRCLE INSIDE,GREATER-THAN WITH CIRCLE INSIDE",
    "LESS-THAN WITH QUESTION MARK ABOVE,GREATER-THAN WITH QUESTION MARK ABOVE",
    "LESS-THAN OR SLANTED EQUAL TO,GREATER-THAN OR SLANTED EQUAL TO",
    "LESS-THAN OR SLANTED EQUAL TO WITH DOT INSIDE",
    "GREATER-THAN OR SLANTED EQUAL TO WITH DOT INSIDE,LESS-THAN OR SLANTED EQUAL TO WITH DOT ABOVE",
    "GREATER-THAN OR SLANTED EQUAL TO WITH DOT ABOVE",
    "LESS-THAN OR SLANTED EQUAL TO WITH DOT ABOVE RIGHT",
    "GREATER-THAN OR SLANTED EQUAL TO WITH DOT ABOVE LEFT,LESS-THAN OR APPROXIMATE",
    "GREATER-THAN OR APPROXIMATE,LESS-THAN AND SINGLE-LINE NOT EQUAL TO",
    "GREATER-THAN AND SINGLE-LINE NOT EQUAL TO,LESS-THAN AND NOT APPROXIMATE",
    "GREATER-THAN AND NOT APPROXIMATE,LESS-THAN ABOVE DOUBLE-LINE EQUAL ABOVE GREATER-THAN",
    "GREATER-THAN ABOVE DOUBLE-LINE EQUAL ABOVE LESS-THAN,LESS-THAN ABOVE SIMILAR OR EQUAL",
    "GREATER-THAN ABOVE SIMILAR OR EQUAL,LESS-THAN ABOVE SIMILAR ABOVE GREATER-THAN",
    "GREATER-THAN ABOVE SIMILAR ABOVE LESS-THAN",
    "LESS-THAN ABOVE GREATER-THAN ABOVE DOUBLE-LINE EQUAL",
    "GREATER-THAN ABOVE LESS-THAN ABOVE DOUBLE-LINE EQUAL",
    "LESS-THAN ABOVE SLANTED EQUAL ABOVE GREATER-THAN ABOVE SLANTED EQUAL",
    "GREATER-THAN ABOVE SLANTED EQUAL ABOVE LESS-THAN ABOVE SLANTED EQUAL"]⟩,
  ⟨0x2a95, "SLANTED EQUAL TO OR ", ["LESS-THAN,GREATER-THAN,LESS-THAN WITH DOT INSIDE",
    "GREATER-THAN WITH DOT INSIDE"]⟩,
  ⟨0x2a99, "DOUBLE-LINE EQUAL TO OR ", ["LESS-THAN,GREATER-THAN"]⟩,
  ⟨0x2a9b, "DOUBLE-LINE SLANTED EQUAL TO OR ", ["LESS-THAN,GREATER-THAN"]⟩,
  ⟨0x2a9d, "SIMILAR ", ["OR LESS-THAN,OR GREATER-THAN,ABOVE LESS-THAN ABOVE EQUALS SIGN",
    "ABOVE GREATER-THAN ABOVE EQUALS SIGN"]⟩,
  ⟨0x2aa1, "DOUBLE NESTED ", ["LESS-THAN,GREATER-THAN,LESS-THAN WITH UNDERBAR"]⟩,
  ⟨0x2aa4, "", ["GREATER-THAN OVERLAPPING LESS-THAN,GREATER-THAN BESIDE LESS-THAN",
    "LESS-THAN CLOSED BY CURVE,GREATER-THAN CLOSED BY CURVE",
    "LESS-THAN CLOSED BY CURVE ABOVE SLANTED EQUAL",
    "GREATER-THAN CLOSED BY CURVE ABOVE SLANTED EQUAL,SMALLER THAN,LARGER THAN",
    "SMALLER THAN OR EQUAL TO,LARGER THAN OR EQUAL TO,EQUALS SIGN WITH BUMPY ABOVE",
    "PRECEDES ABOVE SINGLE-LINE EQUALS SIGN,SUCCEEDS ABOVE SINGLE-LINE EQUALS SIGN",
    "PRECEDES ABOVE SINGLE-LINE NOT EQUAL TO,SUCCEEDS ABOVE SINGLE-LINE NOT EQUAL TO",
    "PRECEDES ABOVE EQUALS SIGN,SUCCEEDS ABOVE EQUALS SIGN,PRECEDES ABOVE NOT EQUAL TO",
    "SUCCEEDS ABOVE NOT EQUAL TO,PRECEDES ABOVE ALMOST EQUAL TO,SUCCEEDS ABOVE ALMOST EQUAL TO",
    "PRECEDES ABOVE NOT ALMOST EQUAL TO,SUCCEEDS ABOVE NOT ALMOST EQUAL TO,DOUBLE PRECEDES",
    "DOUBLE SUCCEEDS,SUBSET WITH DOT,SUPERSET WITH DOT,SUBSET WITH PLUS SIGN BELOW",
    "SUPERSET WITH PLUS SIGN BELOW,SUBSET WITH MULTIPLICATION SIGN BELOW",
    "SUPERSET WITH MULTIPLICATION SIGN BELOW,SUBSET OF OR EQUAL TO WITH DOT ABOVE",
    "SUPERSET OF OR EQUAL TO WITH DOT ABOVE,SUBSET OF ABOVE EQUALS SIGN",
    "SUPERSET OF ABOVE EQUALS SIGN,SUBSET OF ABOVE TILDE OPERATOR,SUPERSET OF ABOVE TILDE OPERATOR",
    "SUBSET OF ABOVE ALMOST EQUAL TO,SUPERSET OF ABOVE ALMOST EQUAL TO",
    "SUBSET OF ABOVE NOT EQUAL TO,SUPERSET OF ABOVE NOT EQUAL TO,SQUARE LEFT OPEN BOX OPERATOR",
    "SQUARE RIGHT OPEN BOX OPERATOR"]⟩,
  ⟨0x2acf, "CLOSED ", ["SUBSET,SUPERSET,SUBSET OR EQUAL TO,SUPERSET OR EQUAL TO"]⟩,
  ⟨0x2ad3, "", ["SUBSET ABOVE SUPERSET,SUPERSET ABOVE SUBSET,SUBSET ABOVE SUBSET",
    "SUPERSET ABOVE SUPERSET,SUPERSET BESIDE SUBSET,SUPERSET BESIDE AND JOINED BY DASH WITH SUBSET",
    "ELEMENT OF OPENING DOWNWARDS,PITCHFORK WITH TEE TOP,TRANSVERSAL INTERSECTION,FORKING",
    "NONFORKING,SHORT LEFT TACK,SHORT DOWN TACK,SHORT UP TACK,PERPENDICULAR WITH S",
    "VERTICAL BAR TRIPLE RIGHT TURNSTILE,DOUBLE VERTICAL BAR LEFT TURNSTILE",
    "VERTICAL BAR DOUBLE LEFT TURNSTILE,DOUBLE VERTICAL BAR DOUBLE LEFT TURNSTILE",
    "LONG DASH FROM LEFT MEMBER OF DOUBLE VERTICAL,SHORT DOWN TACK WITH OVERBAR",
    "SHORT UP TACK WITH UNDERBAR,SHORT UP TACK ABOVE SHORT DOWN TACK,DOUBLE DOWN TACK",
    "DOUBLE UP TACK,DOUBLE STROKE NOT SIGN,REVERSED DOUBLE STROKE NOT SIGN",
    "DOES NOT DIVIDE WITH REVERSED NEGATION SLASH,VERTICAL LINE WITH CIRCLE ABOVE",
    "VERTICAL LINE WITH CIRCLE BELOW,DOWN TACK WITH CIRCLE BELOW,PARALLEL WITH HORIZONTAL STROKE",
    "PARALLEL WITH TILDE OPERATOR,TRIPLE VERTICAL BAR BINARY RELATION",
    "TRIPLE VERTICAL BAR WITH HORIZONTAL STROKE,TRIPLE COLON OPERATOR,TRIPLE NESTED LESS-THAN",
    "TRIPLE NESTED GREATER-THAN,DOUBLE-LINE SLANTED LESS-THAN OR EQUAL TO",
    "DOUBLE-LINE SLANTED GREATER-THAN OR EQUAL TO,TRIPLE SOLIDUS BINARY RELATION",
    "LARGE TRIPLE VERTICAL BAR OPERATOR,DOUBLE SOLIDUS OPERATOR,WHITE VERTICAL BAR",
    "N-ARY WHITE VERTICAL BAR,NORTH EAST WHITE ARROW,NORTH WEST WHITE ARROW,SOUTH EAST WHITE ARROW",
    "SOUTH WEST WHITE ARROW,LEFT RIGHT WHITE ARROW,LEFTWARDS BLACK ARROW,UPWARDS BLACK ARROW",
    "DOWNWARDS BLACK ARROW,NORTH EAST BLACK ARROW,NORTH WEST BLACK ARROW,SOUTH EAST BLACK ARROW",
    "SOUTH WEST BLACK ARROW,LEFT RIGHT BLACK ARROW,UP DOWN BLACK ARROW"]⟩,
  ⟨0x2b0e, "RIGHTWARDS ARROW WITH TIP ", ["DOWNWARDS,UPWARDS"]⟩,
  ⟨0x2b10, "LEFTWARDS ARROW WITH TIP ", ["DOWNWARDS,UPWARDS"]⟩,
  ⟨0x2b12, "SQUARE WITH ", ["TOP HALF BLACK,BOTTOM HALF BLACK,UPPER RIGHT DIAGONAL HALF BLACK",
    "LOWER LEFT DIAGONAL HALF BLACK"]⟩,
  ⟨0x2b16, "DIAMOND WITH ", ["LEFT HALF BLACK,RIGHT HALF BLACK,TOP HALF BLACK,BOTTOM HALF BLACK"]⟩,
  ⟨0x2b1a, "", ["DOTTED SQUARE,BLACK LARGE SQUARE,WHITE LARGE SQUARE,BLACK VERY SMALL SQUARE",
    "WHITE VERY SMALL SQUARE,BLACK PENTAGON,WHITE PENTAGON,WHITE HEXAGON,BLACK HEXAGON",
    "HORIZONTAL BLACK HEXAGON,BLACK LARGE CIRCLE,BLACK MEDIUM DIAMOND,WHITE MEDIUM DIAMOND",
    "BLACK MEDIUM LOZENGE,WHITE MEDIUM LOZENGE,BLACK SMALL DIAMOND,BLACK SMALL LOZENGE",
    "WHITE SMALL LOZENGE,BLACK HORIZONTAL ELLIPSE,WHITE HORIZONTAL ELLIPSE,BLACK VERTICAL ELLIPSE",
    "WHITE VERTICAL ELLIPSE,LEFT ARROW WITH SMALL CIRCLE,THREE LEFTWARDS ARROWS",
    "LEFT ARROW WITH CIRCLED PLUS,LONG LEFTWARDS SQUIGGLE ARROW"]⟩,
  ⟨0x2b34, "LEFTWARDS TWO-HEADED ", ["ARROW WITH VERTICAL STROKE,ARROW WITH DOUBLE VERTICAL STROKE",
    "ARROW FROM BAR,TRIPLE DASH ARROW"]⟩,
  ⟨0x2b38, "LEFTWARDS ARROW WITH ", ["DOTTED STEM,TAIL WITH VERTICAL STROKE",
    "TAIL WITH DOUBLE VERTICAL STROKE"]⟩,
  ⟨0x2b3b, "LEFTWARDS TWO-HEADED ARROW WITH ", ["TAIL,TAIL WITH VERTICAL STROKE",
    "TAIL WITH DOUBLE VERTICAL STROKE"]⟩,
  ⟨0x2b3e, "", ["LEFTWARDS ARROW THROUGH X,WAVE ARROW POINTING DIRECTLY LEFT",
    "EQUALS SIGN ABOVE LEFTWARDS ARROW,REVERSE TILDE OPERATOR ABOVE LEFTWARDS ARROW",
    "LEFTWARDS ARROW ABOVE REVERSE ALMOST EQUAL TO,RIGHTWARDS ARROW THROUGH GREATER-THAN",
    "RIGHTWARDS ARROW THROUGH SUPERSET,LEFTWARDS QUADRUPLE ARROW,RIGHTWARDS QUADRUPLE ARROW",
    "REVERSE TILDE OPERATOR ABOVE RIGHTWARDS ARROW,RIGHTWARDS ARROW ABOVE REVERSE ALMOST EQUAL TO",
    "TILDE OPERATOR ABOVE LEFTWARDS ARROW,LEFTWARDS ARROW ABOVE ALMOST EQUAL TO",
    "LEFTWARDS ARROW ABOVE REVERSE TILDE OPERATOR,RIGHTWARDS ARROW ABOVE REVERSE TILDE OPERATOR",
    "DOWNWARDS TRIANGLE-HEADED ZIGZAG ARROW,SHORT SLANTED NORTH ARROW",
    "SHORT BACKSLANTED SOUTH ARROW,WHITE MEDIUM STAR,BLACK SMALL STAR,WHITE SMALL STAR",
    "BLACK RIGHT-POINTING PENTAGON,WHITE RIGHT-POINTING PENTAGON,HEAVY LARGE CIRCLE",
    "HEAVY OVAL WITH OVAL INSIDE,HEAVY CIRCLE WITH CIRCLE INSIDE,HEAVY CIRCLE",
    "HEAVY CIRCLED SALTIRE,SLANTED NORTH ARROW WITH HOOKED HEAD",
    "BACKSLANTED SOUTH ARROW WITH HOOKED TAIL,SLANTED NORTH ARROW WITH HORIZONTAL TAIL",
    "BACKSLANTED SOUTH ARROW WITH HORIZONTAL TAIL,BENT ARROW POINTING DOWNWARDS THEN NORTH EAST",
    "SHORT BENT ARROW POINTING DOWNWARDS THEN NORTH EAST,LEFTWARDS TRIANGLE-HEADED ARROW",
    "UPWARDS TRIANGLE-HEADED ARROW,RIGHTWARDS TRIANGLE-HEADED ARROW",
    "DOWNWARDS TRIANGLE-HEADED ARROW,LEFT RIGHT TRIANGLE-HEADED ARROW",
    "UP DOWN TRIANGLE-HEADED ARROW,NORTH WEST TRIANGLE-HEADED ARROW",
    "NORTH EAST TRIANGLE-HEADED ARROW,SOUTH EAST TRIANGLE-HEADED ARROW",
    "SOUTH WEST TRIANGLE-HEADED ARROW,LEFTWARDS TRIANGLE-HEADED DASHED ARROW",
    "UPWARDS TRIANGLE-HEADED DASHED ARROW,RIGHTWARDS TRIANGLE-HEADED DASHED ARROW",
    "DOWNWARDS TRIANGLE-HEADED DASHED ARROW,CLOCKWISE TRIANGLE-HEADED OPEN CIRCLE ARROW",
    "ANTICLOCKWISE TRIANGLE-HEADED OPEN CIRCLE ARROW,LEFTWARDS TRIANGLE-HEADED ARROW TO BAR",
    "UPWARDS TRIANGLE-HEADED ARROW TO BAR,RIGHTWARDS TRIANGLE-HEADED ARROW TO BAR",
    "DOWNWARDS TRIANGLE-HEADED ARROW TO BAR"]⟩,
  ⟨0x2b76, "", ["NORTH WEST TRIANGLE-HEADED ARROW TO BAR,NORTH EAST TRIANGLE-HEADED ARROW TO BAR",
    "SOUTH EAST TRIANGLE-HEADED ARROW TO BAR,SOUTH WEST TRIANGLE-HEADED ARROW TO BAR",
    "LEFTWARDS TRIANGLE-HEADED ARROW WITH DOUBLE HORIZONTAL STROKE",
    "UPWARDS TRIANGLE-HEADED ARROW WITH DOUBLE HORIZONTAL STROKE",
    "RIGHTWARDS TRIANGLE-HEADED ARROW WITH DOUBLE HORIZONTAL STROKE",
    "DOWNWARDS TRIANGLE-HEADED ARROW WITH DOUBLE HORIZONTAL STROKE,HORIZONTAL TAB KEY",
    "VERTICAL TAB KEY,LEFTWARDS TRIANGLE-HEADED ARROW OVER RIGHTWARDS TRIANGLE-HEADED ARROW",
    "UPWARDS TRIANGLE-HEADED ARROW LEFTWARDS OF DOWNWARDS TRIANGLE-HEADED ARROW",
    "RIGHTWARDS TRIANGLE-HEADED ARROW OVER LEFTWARDS TRIANGLE-HEADED ARROW",
    "DOWNWARDS TRIANGLE-HEADED ARROW LEFTWARDS OF UPWARDS TRIANGLE-HEADED ARROW",
    "LEFTWARDS TRIANGLE-HEADED PAIRED ARROWS,UPWARDS TRIANGLE-HEADED PAIRED ARROWS",
    "RIGHTWARDS TRIANGLE-HEADED PAIRED ARROWS,DOWNWARDS TRIANGLE-HEADED PAIRED ARROWS",
    "LEFTWARDS BLACK CIRCLED WHITE ARROW,UPWARDS BLACK CIRCLED WHITE ARROW",
    "RIGHTWARDS BLACK CIRCLED WHITE ARROW,DOWNWARDS BLACK CIRCLED WHITE ARROW"]⟩,
  ⟨0x2b8c, "ANTICLOCKWISE TRIANGLE-HEADED ", ["RIGHT U-SHAPED ARROW,BOTTOM U-SHAPED ARROW",
    "LEFT U-SHAPED ARROW,TOP U-SHAPED ARROW"]⟩,
  ⟨0x2b90, "", ["RETURN LEFT,RETURN RIGHT,NEWLINE LEFT,NEWLINE RIGHT",
    "FOUR CORNER ARROWS CIRCLING ANTICLOCKWISE,RIGHTWARDS BLACK ARROW"]⟩,
  ⟨0x2b97, "", ["SYMBOL FOR TYPE A ELECTRONICS"]⟩,
  ⟨0x2b98, "THREE-D ", ["TOP-LIGHTED LEFTWARDS EQUILATERAL ARROWHEAD",
    "RIGHT-LIGHTED UPWARDS EQUILATERAL ARROWHEAD,TOP-LIGHTED RIGHTWARDS EQUILATERAL ARROWHEAD",
    "LEFT-LIGHTED DOWNWARDS EQUILATERAL ARROWHEAD"]⟩,
  ⟨0x2b9c, "BLACK ", ["LEFTWARDS EQUILATERAL ARROWHEAD,UPWARDS EQUILATERAL ARROWHEAD",
    "RIGHTWARDS EQUILATERAL ARROWHEAD,DOWNWARDS EQUILATERAL ARROWHEAD"]⟩,
  ⟨0x2ba0, "DOWNWARDS TRIANGLE-HEADED ARROW WITH LONG TIP ", ["LEFTWARDS,RIGHTWARDS"]⟩,
  ⟨0x2ba2, "UPWARDS TRIANGLE-HEADED ARROW WITH LONG TIP ", ["LEFTWARDS,RIGHTWARDS"]⟩,
  ⟨0x2ba4, "", ["LEFTWARDS TRIANGLE-HEADED ARROW WITH LONG TIP UPWARDS",
    "RIGHTWARDS TRIANGLE-HEADED ARROW WITH LONG TIP UPWARDS",
    "LEFTWARDS TRIANGLE-HEADED ARROW WITH LONG TIP DOWNWARDS",
    "RIGHTWARDS TRIANGLE-HEADED ARROW WITH LONG TIP DOWNWARDS"]⟩,
  ⟨0x2ba8, "BLACK CURVED ", ["DOWNWARDS AND LEFTWARDS ARROW,DOWNWARDS AND RIGHTWARDS ARROW",
    "UPWARDS AND LEFTWARDS ARROW,UPWARDS AND RIGHTWARDS ARROW,LEFTWARDS AND UPWARDS ARROW",
    "RIGHTWARDS AND UPWARDS ARROW,LEFTWARDS AND DOWNWARDS ARROW,RIGHTWARDS AND DOWNWARDS ARROW"]⟩,
  ⟨0x2bb0, "RIBBON ARROW ", ["DOWN LEFT,DOWN RIGHT,UP LEFT,UP RIGHT,LEFT UP,RIGHT UP,LEFT DOWN",
    "RIGHT DOWN"]⟩,
  ⟨0x2bb8, "", ["UPWARDS WHITE ARROW FROM BAR WITH HORIZONTAL BAR,UP ARROWHEAD IN A RECTANGLE BOX",
    "OVERLAPPING WHITE SQUARES,OVERLAPPING WHITE AND BLACK SQUARES,OVERLAPPING BLACK SQUARES",
    "BALLOT BOX WITH LIGHT X,CIRCLED X,CIRCLED BOLD X,BLACK SQUARE CENTRED,BLACK DIAMOND CENTRED",
    "TURNED BLACK PENTAGON,HORIZONTAL BLACK OCTAGON,BLACK OCTAGON"]⟩,
  ⟨0x2bc5, "BLACK MEDIUM ", ["UP-POINTING TRIANGLE CENTRED,DOWN-POINTING TRIANGLE CENTRED",
    "LEFT-POINTING TRIANGLE CENTRED,RIGHT-POINTING TRIANGLE CENTRED"]⟩,
  ⟨0x2bc9, "", ["NEPTUNE FORM TWO,TOP HALF BLACK CIRCLE,BOTTOM HALF BLACK CIRCLE",
    "LIGHT FOUR POINTED BLACK CUSP,ROTATED LIGHT FOUR POINTED BLACK CUSP,WHITE FOUR POINTED CUSP",
    "ROTATED WHITE FOUR POINTED CUSP,SQUARE POSITION INDICATOR,UNCERTAINTY SIGN,GROUP MARK",
    "PLUTO FORM TWO,PLUTO FORM THREE,PLUTO FORM FOUR,PLUTO FORM FIVE,TRANSPLUTO,PROSERPINA,ASTRAEA",
    "HYGIEA,PHOLUS,NESSUS,WHITE MOON SELENA,BLACK DIAMOND ON CROSS,TRUE LIGHT MOON ARTA,CUPIDO",
    "HADES,ZEUS,KRONOS,APOLLON,ADMETOS,VULCANUS,POSEIDON,LEFT HALF BLACK STAR",
    "RIGHT HALF BLACK STAR,STAR WITH LEFT HALF BLACK,STAR WITH RIGHT HALF BLACK",
    "LEFTWARDS TWO-HEADED ARROW WITH TRIANGLE ARROWHEADS",
    "UPWARDS TWO-HEADED ARROW WITH TRIANGLE ARROWHEADS",
    "RIGHTWARDS TWO-HEADED ARROW WITH TRIANGLE ARROWHEADS",
    "DOWNWARDS TWO-HEADED ARROW WITH TRIANGLE ARROWHEADS,ERIS FORM ONE,ERIS FORM TWO,SEDNA"]⟩,
  ⟨0x2bf3, "RUSSIAN ASTROLOGICAL SYMBOL ", ["VIGINTILE,NOVILE,QUINTILE,BINOVILE,SENTAGON",
    "TREDECILE"]⟩,
  ⟨0x2bf9, "", ["EQUALS SIGN WITH INFINITY BELOW,UNITED SYMBOL,SEPARATED SYMBOL,DOUBLED SYMBOL",
    "PASSED SYMBOL,REVERSED RIGHT ANGLE,HELLSCHREIBER PAUSE SYMBOL"]⟩]

end Conform.Text.Table
