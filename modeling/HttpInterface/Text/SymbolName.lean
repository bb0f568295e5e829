/-!
# `HttpInterface.Text.SymbolName`: the names of symbols and pictures

Rows of names for technical signs, frames, dingbats and pictures. Every row holds the names
of characters one behind the other.
-/

set_option autoImplicit false

namespace HttpInterface.Text

/-- Names of symbols in a row, each row with the code point of its first one. -/
def symbolRows : List (Nat × String) :=
  [(0x2070, "SUPERSCRIPT ZERO;SUPERSCRIPT LATIN SMALL LETTER I"),
   (0x2074, "SUPERSCRIPT FOUR;SUPERSCRIPT FIVE;SUPERSCRIPT SIX;SUPERSCRIPT SEVEN"),
   (0x2078, "SUPERSCRIPT EIGHT;SUPERSCRIPT NINE;SUPERSCRIPT PLUS SIGN;SUPERSCRIPT MINUS"),
   (0x207C, "SUPERSCRIPT EQUALS SIGN;SUPERSCRIPT LEFT PARENTHESIS"),
   (0x207E, "SUPERSCRIPT RIGHT PARENTHESIS;SUPERSCRIPT LATIN SMALL LETTER N;SUBSCRIPT ZERO"),
   (0x2081, "SUBSCRIPT ONE;SUBSCRIPT TWO;SUBSCRIPT THREE;SUBSCRIPT FOUR;SUBSCRIPT FIVE"),
   (0x2086, "SUBSCRIPT SIX;SUBSCRIPT SEVEN;SUBSCRIPT EIGHT;SUBSCRIPT NINE;SUBSCRIPT PLUS SIGN"),
   (0x208B, "SUBSCRIPT MINUS;SUBSCRIPT EQUALS SIGN;SUBSCRIPT LEFT PARENTHESIS"),
   (0x208E, "SUBSCRIPT RIGHT PARENTHESIS"),
   (0x2090, "LATIN SUBSCRIPT SMALL LETTER A;LATIN SUBSCRIPT SMALL LETTER E"),
   (0x2092, "LATIN SUBSCRIPT SMALL LETTER O;LATIN SUBSCRIPT SMALL LETTER X"),
   (0x2094, "LATIN SUBSCRIPT SMALL LETTER SCHWA;LATIN SUBSCRIPT SMALL LETTER H"),
   (0x2096, "LATIN SUBSCRIPT SMALL LETTER K;LATIN SUBSCRIPT SMALL LETTER L"),
   (0x2098, "LATIN SUBSCRIPT SMALL LETTER M;LATIN SUBSCRIPT SMALL LETTER N"),
   (0x209A, "LATIN SUBSCRIPT SMALL LETTER P;LATIN SUBSCRIPT SMALL LETTER S"),
   (0x209C, "LATIN SUBSCRIPT SMALL LETTER T"),
   (0x2150, "VULGAR FRACTION ONE SEVENTH;VULGAR FRACTION ONE NINTH;VULGAR FRACTION ONE TENTH"),
   (0x2153, "VULGAR FRACTION ONE THIRD;VULGAR FRACTION TWO THIRDS;VULGAR FRACTION ONE FIFTH"),
   (0x2156, "VULGAR FRACTION TWO FIFTHS;VULGAR FRACTION THREE FIFTHS"),
   (0x2158, "VULGAR FRACTION FOUR FIFTHS;VULGAR FRACTION ONE SIXTH;VULGAR FRACTION FIVE SIXTHS"),
   (0x215B, "VULGAR FRACTION ONE EIGHTH;VULGAR FRACTION THREE EIGHTHS"),
   (0x215D, "VULGAR FRACTION FIVE EIGHTHS;VULGAR FRACTION SEVEN EIGHTHS;FRACTION NUMERATOR ONE"),
   (0x2160, "ROMAN NUMERAL ONE;ROMAN NUMERAL TWO;ROMAN NUMERAL THREE;ROMAN NUMERAL FOUR"),
   (0x2164, "ROMAN NUMERAL FIVE;ROMAN NUMERAL SIX;ROMAN NUMERAL SEVEN;ROMAN NUMERAL EIGHT"),
   (0x2168, "ROMAN NUMERAL NINE;ROMAN NUMERAL TEN;ROMAN NUMERAL ELEVEN;ROMAN NUMERAL TWELVE"),
   (0x216C, "ROMAN NUMERAL FIFTY;ROMAN NUMERAL ONE HUNDRED;ROMAN NUMERAL FIVE HUNDRED"),
   (0x216F, "ROMAN NUMERAL ONE THOUSAND;SMALL ROMAN NUMERAL ONE;SMALL ROMAN NUMERAL TWO"),
   (0x2172, "SMALL ROMAN NUMERAL THREE;SMALL ROMAN NUMERAL FOUR;SMALL ROMAN NUMERAL FIVE"),
   (0x2175, "SMALL ROMAN NUMERAL SIX;SMALL ROMAN NUMERAL SEVEN;SMALL ROMAN NUMERAL EIGHT"),
   (0x2178, "SMALL ROMAN NUMERAL NINE;SMALL ROMAN NUMERAL TEN;SMALL ROMAN NUMERAL ELEVEN"),
   (0x217B, "SMALL ROMAN NUMERAL TWELVE;SMALL ROMAN NUMERAL FIFTY"),
   (0x217D, "SMALL ROMAN NUMERAL ONE HUNDRED;SMALL ROMAN NUMERAL FIVE HUNDRED"),
   (0x217F, "SMALL ROMAN NUMERAL ONE THOUSAND;ROMAN NUMERAL ONE THOUSAND C D"),
   (0x2181, "ROMAN NUMERAL FIVE THOUSAND;ROMAN NUMERAL TEN THOUSAND"),
   (0x2183, "ROMAN NUMERAL REVERSED ONE HUNDRED;LATIN SMALL LETTER REVERSED C"),
   (0x2185, "ROMAN NUMERAL SIX LATE FORM;ROMAN NUMERAL FIFTY EARLY FORM"),
   (0x2187, "ROMAN NUMERAL FIFTY THOUSAND;ROMAN NUMERAL ONE HUNDRED THOUSAND"),
   (0x2189, "VULGAR FRACTION ZERO THIRDS;TURNED DIGIT TWO;TURNED DIGIT THREE"),
   (0x2300, "DIAMETER SIGN;ELECTRIC ARROW;HOUSE;UP ARROWHEAD;DOWN ARROWHEAD;PROJECTIVE"),
   (0x2306, "PERSPECTIVE;WAVY LINE;LEFT CEILING;RIGHT CEILING;LEFT FLOOR;RIGHT FLOOR"),
   (0x230C, "BOTTOM RIGHT CROP;BOTTOM LEFT CROP;TOP RIGHT CROP;TOP LEFT CROP;REVERSED NOT SIGN"),
   (0x2311, "SQUARE LOZENGE;ARC;SEGMENT;SECTOR;TELEPHONE RECORDER;POSITION INDICATOR"),
   (0x2317, "VIEWDATA SQUARE;PLACE OF INTEREST SIGN;TURNED NOT SIGN;WATCH;HOURGLASS"),
   (0x231C, "TOP LEFT CORNER;TOP RIGHT CORNER;BOTTOM LEFT CORNER;BOTTOM RIGHT CORNER"),
   (0x2320, "TOP HALF INTEGRAL;BOTTOM HALF INTEGRAL;FROWN;SMILE"),
   (0x2324, "UP ARROWHEAD BETWEEN TWO HORIZONTAL BARS;OPTION KEY;ERASE TO THE RIGHT"),
   (0x2327, "X IN A RECTANGLE BOX;KEYBOARD;LEFT-POINTING ANGLE BRACKET"),
   (0x232A, "RIGHT-POINTING ANGLE BRACKET;ERASE TO THE LEFT;BENZENE RING;CYLINDRICITY"),
   (0x232E, "ALL AROUND-PROFILE;SYMMETRY;TOTAL RUNOUT;DIMENSION ORIGIN;CONICAL TAPER;SLOPE"),
   (0x2334, "COUNTERBORE;COUNTERSINK;APL FUNCTIONAL SYMBOL I-BEAM"),
   (0x2337, "APL FUNCTIONAL SYMBOL SQUISH QUAD;APL FUNCTIONAL SYMBOL QUAD EQUAL"),
   (0x2339, "APL FUNCTIONAL SYMBOL QUAD DIVIDE;APL FUNCTIONAL SYMBOL QUAD DIAMOND"),
   (0x233B, "APL FUNCTIONAL SYMBOL QUAD JOT;APL FUNCTIONAL SYMBOL QUAD CIRCLE"),
   (0x233D, "APL FUNCTIONAL SYMBOL CIRCLE STILE;APL FUNCTIONAL SYMBOL CIRCLE JOT"),
   (0x233F, "APL FUNCTIONAL SYMBOL SLASH BAR;APL FUNCTIONAL SYMBOL BACKSLASH BAR"),
   (0x2341, "APL FUNCTIONAL SYMBOL QUAD SLASH;APL FUNCTIONAL SYMBOL QUAD BACKSLASH"),
   (0x2343, "APL FUNCTIONAL SYMBOL QUAD LESS-THAN;APL FUNCTIONAL SYMBOL QUAD GREATER-THAN"),
   (0x2345, "APL FUNCTIONAL SYMBOL LEFTWARDS VANE;APL FUNCTIONAL SYMBOL RIGHTWARDS VANE"),
   (0x2347, "APL FUNCTIONAL SYMBOL QUAD LEFTWARDS ARROW"),
   (0x2348, "APL FUNCTIONAL SYMBOL QUAD RIGHTWARDS ARROW"),
   (0x2349, "APL FUNCTIONAL SYMBOL CIRCLE BACKSLASH;APL FUNCTIONAL SYMBOL DOWN TACK UNDERBAR"),
   (0x234B, "APL FUNCTIONAL SYMBOL DELTA STILE;APL FUNCTIONAL SYMBOL QUAD DOWN CARET"),
   (0x234D, "APL FUNCTIONAL SYMBOL QUAD DELTA;APL FUNCTIONAL SYMBOL DOWN TACK JOT"),
   (0x234F, "APL FUNCTIONAL SYMBOL UPWARDS VANE;APL FUNCTIONAL SYMBOL QUAD UPWARDS ARROW"),
   (0x2351, "APL FUNCTIONAL SYMBOL UP TACK OVERBAR;APL FUNCTIONAL SYMBOL DEL STILE"),
   (0x2353, "APL FUNCTIONAL SYMBOL QUAD UP CARET;APL FUNCTIONAL SYMBOL QUAD DEL"),
   (0x2355, "APL FUNCTIONAL SYMBOL UP TACK JOT;APL FUNCTIONAL SYMBOL DOWNWARDS VANE"),
   (0x2357, "APL FUNCTIONAL SYMBOL QUAD DOWNWARDS ARROW;APL FUNCTIONAL SYMBOL QUOTE UNDERBAR"),
   (0x2359, "APL FUNCTIONAL SYMBOL DELTA UNDERBAR;APL FUNCTIONAL SYMBOL DIAMOND UNDERBAR"),
   (0x235B, "APL FUNCTIONAL SYMBOL JOT UNDERBAR;APL FUNCTIONAL SYMBOL CIRCLE UNDERBAR"),
   (0x235D, "APL FUNCTIONAL SYMBOL UP SHOE JOT;APL FUNCTIONAL SYMBOL QUOTE QUAD"),
   (0x235F, "APL FUNCTIONAL SYMBOL CIRCLE STAR;APL FUNCTIONAL SYMBOL QUAD COLON"),
   (0x2361, "APL FUNCTIONAL SYMBOL UP TACK DIAERESIS;APL FUNCTIONAL SYMBOL DEL DIAERESIS"),
   (0x2363, "APL FUNCTIONAL SYMBOL STAR DIAERESIS;APL FUNCTIONAL SYMBOL JOT DIAERESIS"),
   (0x2365, "APL FUNCTIONAL SYMBOL CIRCLE DIAERESIS;APL FUNCTIONAL SYMBOL DOWN SHOE STILE"),
   (0x2367, "APL FUNCTIONAL SYMBOL LEFT SHOE STILE;APL FUNCTIONAL SYMBOL TILDE DIAERESIS"),
   (0x2369, "APL FUNCTIONAL SYMBOL GREATER-THAN DIAERESIS;APL FUNCTIONAL SYMBOL COMMA BAR"),
   (0x236B, "APL FUNCTIONAL SYMBOL DEL TILDE;APL FUNCTIONAL SYMBOL ZILDE"),
   (0x236D, "APL FUNCTIONAL SYMBOL STILE TILDE;APL FUNCTIONAL SYMBOL SEMICOLON UNDERBAR"),
   (0x236F, "APL FUNCTIONAL SYMBOL QUAD NOT EQUAL;APL FUNCTIONAL SYMBOL QUAD QUESTION"),
   (0x2371, "APL FUNCTIONAL SYMBOL DOWN CARET TILDE;APL FUNCTIONAL SYMBOL UP CARET TILDE"),
   (0x2373, "APL FUNCTIONAL SYMBOL IOTA;APL FUNCTIONAL SYMBOL RHO;APL FUNCTIONAL SYMBOL OMEGA"),
   (0x2376, "APL FUNCTIONAL SYMBOL ALPHA UNDERBAR;APL FUNCTIONAL SYMBOL EPSILON UNDERBAR"),
   (0x2378, "APL FUNCTIONAL SYMBOL IOTA UNDERBAR;APL FUNCTIONAL SYMBOL OMEGA UNDERBAR"),
   (0x237A, "APL FUNCTIONAL SYMBOL ALPHA;NOT CHECK MARK"),
   (0x237C, "RIGHT ANGLE WITH DOWNWARDS ZIGZAG ARROW;SHOULDERED OPEN BOX;BELL SYMBOL"),
   (0x237F, "VERTICAL LINE WITH MIDDLE DOT;INSERTION SYMBOL;CONTINUOUS UNDERLINE SYMBOL"),
   (0x2382, "DISCONTINUOUS UNDERLINE SYMBOL;EMPHASIS SYMBOL;COMPOSITION SYMBOL"),
   (0x2385, "WHITE SQUARE WITH CENTRE VERTICAL LINE;ENTER SYMBOL;ALTERNATIVE KEY SYMBOL"),
   (0x2388, "HELM SYMBOL;CIRCLED HORIZONTAL BAR WITH NOTCH;CIRCLED TRIANGLE DOWN"),
   (0x238B, "BROKEN CIRCLE WITH NORTHWEST ARROW;UNDO SYMBOL;MONOSTABLE SYMBOL"),
   (0x238E, "HYSTERESIS SYMBOL;OPEN-CIRCUIT-OUTPUT H-TYPE SYMBOL"),
   (0x2390, "OPEN-CIRCUIT-OUTPUT L-TYPE SYMBOL;PASSIVE-PULL-DOWN-OUTPUT SYMBOL"),
   (0x2392, "PASSIVE-PULL-UP-OUTPUT SYMBOL;DIRECT CURRENT SYMBOL FORM TWO"),
   (0x2394, "SOFTWARE-FUNCTION SYMBOL;APL FUNCTIONAL SYMBOL QUAD;DECIMAL SEPARATOR KEY SYMBOL"),
   (0x2397, "PREVIOUS PAGE;NEXT PAGE;PRINT SCREEN SYMBOL;CLEAR SCREEN SYMBOL"),
   (0x239B, "LEFT PARENTHESIS UPPER HOOK;LEFT PARENTHESIS EXTENSION"),
   (0x239D, "LEFT PARENTHESIS LOWER HOOK;RIGHT PARENTHESIS UPPER HOOK"),
   (0x239F, "RIGHT PARENTHESIS EXTENSION;RIGHT PARENTHESIS LOWER HOOK"),
   (0x23A1, "LEFT SQUARE BRACKET UPPER CORNER;LEFT SQUARE BRACKET EXTENSION"),
   (0x23A3, "LEFT SQUARE BRACKET LOWER CORNER;RIGHT SQUARE BRACKET UPPER CORNER"),
   (0x23A5, "RIGHT SQUARE BRACKET EXTENSION;RIGHT SQUARE BRACKET LOWER CORNER"),
   (0x23A7, "LEFT CURLY BRACKET UPPER HOOK;LEFT CURLY BRACKET MIDDLE PIECE"),
   (0x23A9, "LEFT CURLY BRACKET LOWER HOOK;CURLY BRACKET EXTENSION"),
   (0x23AB, "RIGHT CURLY BRACKET UPPER HOOK;RIGHT CURLY BRACKET MIDDLE PIECE"),
   (0x23AD, "RIGHT CURLY BRACKET LOWER HOOK;INTEGRAL EXTENSION;HORIZONTAL LINE EXTENSION"),
   (0x23B0, "UPPER LEFT OR LOWER RIGHT CURLY BRACKET SECTION"),
   (0x23B1, "UPPER RIGHT OR LOWER LEFT CURLY BRACKET SECTION;SUMMATION TOP;SUMMATION BOTTOM"),
   (0x23B4, "TOP SQUARE BRACKET;BOTTOM SQUARE BRACKET"),
   (0x23B6, "BOTTOM SQUARE BRACKET OVER TOP SQUARE BRACKET;RADICAL SYMBOL BOTTOM"),
   (0x23B8, "LEFT VERTICAL BOX LINE;RIGHT VERTICAL BOX LINE;HORIZONTAL SCAN LINE-1"),
   (0x23BB, "HORIZONTAL SCAN LINE-3;HORIZONTAL SCAN LINE-7;HORIZONTAL SCAN LINE-9"),
   (0x23BE, "DENTISTRY SYMBOL LIGHT VERTICAL AND TOP RIGHT"),
   (0x23BF, "DENTISTRY SYMBOL LIGHT VERTICAL AND BOTTOM RIGHT"),
   (0x23C0, "DENTISTRY SYMBOL LIGHT VERTICAL WITH CIRCLE"),
   (0x23C1, "DENTISTRY SYMBOL LIGHT DOWN AND HORIZONTAL WITH CIRCLE"),
   (0x23C2, "DENTISTRY SYMBOL LIGHT UP AND HORIZONTAL WITH CIRCLE"),
   (0x23C3, "DENTISTRY SYMBOL LIGHT VERTICAL WITH TRIANGLE"),
   (0x23C4, "DENTISTRY SYMBOL LIGHT DOWN AND HORIZONTAL WITH TRIANGLE"),
   (0x23C5, "DENTISTRY SYMBOL LIGHT UP AND HORIZONTAL WITH TRIANGLE"),
   (0x23C6, "DENTISTRY SYMBOL LIGHT VERTICAL AND WAVE"),
   (0x23C7, "DENTISTRY SYMBOL LIGHT DOWN AND HORIZONTAL WITH WAVE"),
   (0x23C8, "DENTISTRY SYMBOL LIGHT UP AND HORIZONTAL WITH WAVE"),
   (0x23C9, "DENTISTRY SYMBOL LIGHT DOWN AND HORIZONTAL"),
   (0x23CA, "DENTISTRY SYMBOL LIGHT UP AND HORIZONTAL"),
   (0x23CB, "DENTISTRY SYMBOL LIGHT VERTICAL AND TOP LEFT"),
   (0x23CC, "DENTISTRY SYMBOL LIGHT VERTICAL AND BOTTOM LEFT;SQUARE FOOT;RETURN SYMBOL"),
   (0x23CF, "EJECT SYMBOL;VERTICAL LINE EXTENSION;METRICAL BREVE;METRICAL LONG OVER SHORT"),
   (0x23D3, "METRICAL SHORT OVER LONG;METRICAL LONG OVER TWO SHORTS"),
   (0x23D5, "METRICAL TWO SHORTS OVER LONG;METRICAL TWO SHORTS JOINED;METRICAL TRISEME"),
   (0x23D8, "METRICAL TETRASEME;METRICAL PENTASEME;EARTH GROUND;FUSE;TOP PARENTHESIS"),
   (0x23DD, "BOTTOM PARENTHESIS;TOP CURLY BRACKET;BOTTOM CURLY BRACKET"),
   (0x23E0, "TOP TORTOISE SHELL BRACKET;BOTTOM TORTOISE SHELL BRACKET;WHITE TRAPEZIUM"),
   (0x23E3, "BENZENE RING WITH CIRCLE;STRAIGHTNESS;FLATNESS;AC CURRENT;ELECTRICAL INTERSECTION"),
   (0x23E8, "DECIMAL EXPONENT SYMBOL;BLACK RIGHT-POINTING DOUBLE TRIANGLE"),
   (0x23EA, "BLACK LEFT-POINTING DOUBLE TRIANGLE;BLACK UP-POINTING DOUBLE TRIANGLE"),
   (0x23EC, "BLACK DOWN-POINTING DOUBLE TRIANGLE"),
   (0x23ED, "BLACK RIGHT-POINTING DOUBLE TRIANGLE WITH VERTICAL BAR"),
   (0x23EE, "BLACK LEFT-POINTING DOUBLE TRIANGLE WITH VERTICAL BAR"),
   (0x23EF, "BLACK RIGHT-POINTING TRIANGLE WITH DOUBLE VERTICAL BAR;ALARM CLOCK;STOPWATCH"),
   (0x23F2, "TIMER CLOCK;HOURGLASS WITH FLOWING SAND;BLACK MEDIUM LEFT-POINTING TRIANGLE"),
   (0x23F5, "BLACK MEDIUM RIGHT-POINTING TRIANGLE;BLACK MEDIUM UP-POINTING TRIANGLE"),
   (0x23F7, "BLACK MEDIUM DOWN-POINTING TRIANGLE;DOUBLE VERTICAL BAR;BLACK SQUARE FOR STOP"),
   (0x23FA, "BLACK CIRCLE FOR RECORD;POWER SYMBOL;POWER ON-OFF SYMBOL;POWER ON SYMBOL"),
   (0x23FE, "POWER SLEEP SYMBOL;OBSERVER EYE SYMBOL"),
   (0x2400, "SYMBOL FOR NULL;SYMBOL FOR START OF HEADING;SYMBOL FOR START OF TEXT"),
   (0x2403, "SYMBOL FOR END OF TEXT;SYMBOL FOR END OF TRANSMISSION;SYMBOL FOR ENQUIRY"),
   (0x2406, "SYMBOL FOR ACKNOWLEDGE;SYMBOL FOR BELL;SYMBOL FOR BACKSPACE"),
   (0x2409, "SYMBOL FOR HORIZONTAL TABULATION;SYMBOL FOR LINE FEED"),
   (0x240B, "SYMBOL FOR VERTICAL TABULATION;SYMBOL FOR FORM FEED;SYMBOL FOR CARRIAGE RETURN"),
   (0x240E, "SYMBOL FOR SHIFT OUT;SYMBOL FOR SHIFT IN;SYMBOL FOR DATA LINK ESCAPE"),
   (0x2411, "SYMBOL FOR DEVICE CONTROL ONE;SYMBOL FOR DEVICE CONTROL TWO"),
   (0x2413, "SYMBOL FOR DEVICE CONTROL THREE;SYMBOL FOR DEVICE CONTROL FOUR"),
   (0x2415, "SYMBOL FOR NEGATIVE ACKNOWLEDGE;SYMBOL FOR SYNCHRONOUS IDLE"),
   (0x2417, "SYMBOL FOR END OF TRANSMISSION BLOCK;SYMBOL FOR CANCEL;SYMBOL FOR END OF MEDIUM"),
   (0x241A, "SYMBOL FOR SUBSTITUTE;SYMBOL FOR ESCAPE;SYMBOL FOR FILE SEPARATOR"),
   (0x241D, "SYMBOL FOR GROUP SEPARATOR;SYMBOL FOR RECORD SEPARATOR;SYMBOL FOR UNIT SEPARATOR"),
   (0x2420, "SYMBOL FOR SPACE;SYMBOL FOR DELETE;BLANK SYMBOL;OPEN BOX;SYMBOL FOR NEWLINE"),
   (0x2425, "SYMBOL FOR DELETE FORM TWO;SYMBOL FOR SUBSTITUTE FORM TWO"),
   (0x2460, "CIRCLED DIGIT ONE;CIRCLED DIGIT TWO;CIRCLED DIGIT THREE;CIRCLED DIGIT FOUR"),
   (0x2464, "CIRCLED DIGIT FIVE;CIRCLED DIGIT SIX;CIRCLED DIGIT SEVEN;CIRCLED DIGIT EIGHT"),
   (0x2468, "CIRCLED DIGIT NINE;CIRCLED NUMBER TEN;CIRCLED NUMBER ELEVEN;CIRCLED NUMBER TWELVE"),
   (0x246C, "CIRCLED NUMBER THIRTEEN;CIRCLED NUMBER FOURTEEN;CIRCLED NUMBER FIFTEEN"),
   (0x246F, "CIRCLED NUMBER SIXTEEN;CIRCLED NUMBER SEVENTEEN;CIRCLED NUMBER EIGHTEEN"),
   (0x2472, "CIRCLED NUMBER NINETEEN;CIRCLED NUMBER TWENTY;PARENTHESIZED DIGIT ONE"),
   (0x2475, "PARENTHESIZED DIGIT TWO;PARENTHESIZED DIGIT THREE;PARENTHESIZED DIGIT FOUR"),
   (0x2478, "PARENTHESIZED DIGIT FIVE;PARENTHESIZED DIGIT SIX;PARENTHESIZED DIGIT SEVEN"),
   (0x247B, "PARENTHESIZED DIGIT EIGHT;PARENTHESIZED DIGIT NINE;PARENTHESIZED NUMBER TEN"),
   (0x247E, "PARENTHESIZED NUMBER ELEVEN;PARENTHESIZED NUMBER TWELVE"),
   (0x2480, "PARENTHESIZED NUMBER THIRTEEN;PARENTHESIZED NUMBER FOURTEEN"),
   (0x2482, "PARENTHESIZED NUMBER FIFTEEN;PARENTHESIZED NUMBER SIXTEEN"),
   (0x2484, "PARENTHESIZED NUMBER SEVENTEEN;PARENTHESIZED NUMBER EIGHTEEN"),
   (0x2486, "PARENTHESIZED NUMBER NINETEEN;PARENTHESIZED NUMBER TWENTY;DIGIT ONE FULL STOP"),
   (0x2489, "DIGIT TWO FULL STOP;DIGIT THREE FULL STOP;DIGIT FOUR FULL STOP"),
   (0x248C, "DIGIT FIVE FULL STOP;DIGIT SIX FULL STOP;DIGIT SEVEN FULL STOP"),
   (0x248F, "DIGIT EIGHT FULL STOP;DIGIT NINE FULL STOP;NUMBER TEN FULL STOP"),
   (0x2492, "NUMBER ELEVEN FULL STOP;NUMBER TWELVE FULL STOP;NUMBER THIRTEEN FULL STOP"),
   (0x2495, "NUMBER FOURTEEN FULL STOP;NUMBER FIFTEEN FULL STOP;NUMBER SIXTEEN FULL STOP"),
   (0x2498, "NUMBER SEVENTEEN FULL STOP;NUMBER EIGHTEEN FULL STOP;NUMBER NINETEEN FULL STOP"),
   (0x249B, "NUMBER TWENTY FULL STOP;PARENTHESIZED LATIN SMALL LETTER A"),
   (0x249D, "PARENTHESIZED LATIN SMALL LETTER B;PARENTHESIZED LATIN SMALL LETTER C"),
   (0x249F, "PARENTHESIZED LATIN SMALL LETTER D;PARENTHESIZED LATIN SMALL LETTER E"),
   (0x24A1, "PARENTHESIZED LATIN SMALL LETTER F;PARENTHESIZED LATIN SMALL LETTER G"),
   (0x24A3, "PARENTHESIZED LATIN SMALL LETTER H;PARENTHESIZED LATIN SMALL LETTER I"),
   (0x24A5, "PARENTHESIZED LATIN SMALL LETTER J;PARENTHESIZED LATIN SMALL LETTER K"),
   (0x24A7, "PARENTHESIZED LATIN SMALL LETTER L;PARENTHESIZED LATIN SMALL LETTER M"),
   (0x24A9, "PARENTHESIZED LATIN SMALL LETTER N;PARENTHESIZED LATIN SMALL LETTER O"),
   (0x24AB, "PARENTHESIZED LATIN SMALL LETTER P;PARENTHESIZED LATIN SMALL LETTER Q"),
   (0x24AD, "PARENTHESIZED LATIN SMALL LETTER R;PARENTHESIZED LATIN SMALL LETTER S"),
   (0x24AF, "PARENTHESIZED LATIN SMALL LETTER T;PARENTHESIZED LATIN SMALL LETTER U"),
   (0x24B1, "PARENTHESIZED LATIN SMALL LETTER V;PARENTHESIZED LATIN SMALL LETTER W"),
   (0x24B3, "PARENTHESIZED LATIN SMALL LETTER X;PARENTHESIZED LATIN SMALL LETTER Y"),
   (0x24B5, "PARENTHESIZED LATIN SMALL LETTER Z;CIRCLED LATIN CAPITAL LETTER A"),
   (0x24B7, "CIRCLED LATIN CAPITAL LETTER B;CIRCLED LATIN CAPITAL LETTER C"),
   (0x24B9, "CIRCLED LATIN CAPITAL LETTER D;CIRCLED LATIN CAPITAL LETTER E"),
   (0x24BB, "CIRCLED LATIN CAPITAL LETTER F;CIRCLED LATIN CAPITAL LETTER G"),
   (0x24BD, "CIRCLED LATIN CAPITAL LETTER H;CIRCLED LATIN CAPITAL LETTER I"),
   (0x24BF, "CIRCLED LATIN CAPITAL LETTER J;CIRCLED LATIN CAPITAL LETTER K"),
   (0x24C1, "CIRCLED LATIN CAPITAL LETTER L;CIRCLED LATIN CAPITAL LETTER M"),
   (0x24C3, "CIRCLED LATIN CAPITAL LETTER N;CIRCLED LATIN CAPITAL LETTER O"),
   (0x24C5, "CIRCLED LATIN CAPITAL LETTER P;CIRCLED LATIN CAPITAL LETTER Q"),
   (0x24C7, "CIRCLED LATIN CAPITAL LETTER R;CIRCLED LATIN CAPITAL LETTER S"),
   (0x24C9, "CIRCLED LATIN CAPITAL LETTER T;CIRCLED LATIN CAPITAL LETTER U"),
   (0x24CB, "CIRCLED LATIN CAPITAL LETTER V;CIRCLED LATIN CAPITAL LETTER W"),
   (0x24CD, "CIRCLED LATIN CAPITAL LETTER X;CIRCLED LATIN CAPITAL LETTER Y"),
   (0x24CF, "CIRCLED LATIN CAPITAL LETTER Z;CIRCLED LATIN SMALL LETTER A"),
   (0x24D1, "CIRCLED LATIN SMALL LETTER B;CIRCLED LATIN SMALL LETTER C"),
   (0x24D3, "CIRCLED LATIN SMALL LETTER D;CIRCLED LATIN SMALL LETTER E"),
   (0x24D5, "CIRCLED LATIN SMALL LETTER F;CIRCLED LATIN SMALL LETTER G"),
   (0x24D7, "CIRCLED LATIN SMALL LETTER H;CIRCLED LATIN SMALL LETTER I"),
   (0x24D9, "CIRCLED LATIN SMALL LETTER J;CIRCLED LATIN SMALL LETTER K"),
   (0x24DB, "CIRCLED LATIN SMALL LETTER L;CIRCLED LATIN SMALL LETTER M"),
   (0x24DD, "CIRCLED LATIN SMALL LETTER N;CIRCLED LATIN SMALL LETTER O"),
   (0x24DF, "CIRCLED LATIN SMALL LETTER P;CIRCLED LATIN SMALL LETTER Q"),
   (0x24E1, "CIRCLED LATIN SMALL LETTER R;CIRCLED LATIN SMALL LETTER S"),
   (0x24E3, "CIRCLED LATIN SMALL LETTER T;CIRCLED LATIN SMALL LETTER U"),
   (0x24E5, "CIRCLED LATIN SMALL LETTER V;CIRCLED LATIN SMALL LETTER W"),
   (0x24E7, "CIRCLED LATIN SMALL LETTER X;CIRCLED LATIN SMALL LETTER Y"),
   (0x24E9, "CIRCLED LATIN SMALL LETTER Z;CIRCLED DIGIT ZERO;NEGATIVE CIRCLED NUMBER ELEVEN"),
   (0x24EC, "NEGATIVE CIRCLED NUMBER TWELVE;NEGATIVE CIRCLED NUMBER THIRTEEN"),
   (0x24EE, "NEGATIVE CIRCLED NUMBER FOURTEEN;NEGATIVE CIRCLED NUMBER FIFTEEN"),
   (0x24F0, "NEGATIVE CIRCLED NUMBER SIXTEEN;NEGATIVE CIRCLED NUMBER SEVENTEEN"),
   (0x24F2, "NEGATIVE CIRCLED NUMBER EIGHTEEN;NEGATIVE CIRCLED NUMBER NINETEEN"),
   (0x24F4, "NEGATIVE CIRCLED NUMBER TWENTY;DOUBLE CIRCLED DIGIT ONE;DOUBLE CIRCLED DIGIT TWO"),
   (0x24F7, "DOUBLE CIRCLED DIGIT THREE;DOUBLE CIRCLED DIGIT FOUR;DOUBLE CIRCLED DIGIT FIVE"),
   (0x24FA, "DOUBLE CIRCLED DIGIT SIX;DOUBLE CIRCLED DIGIT SEVEN;DOUBLE CIRCLED DIGIT EIGHT"),
   (0x24FD, "DOUBLE CIRCLED DIGIT NINE;DOUBLE CIRCLED NUMBER TEN;NEGATIVE CIRCLED DIGIT ZERO"),
   (0x2500, "BOX DRAWINGS LIGHT HORIZONTAL;BOX DRAWINGS HEAVY HORIZONTAL"),
   (0x2502, "BOX DRAWINGS LIGHT VERTICAL;BOX DRAWINGS HEAVY VERTICAL"),
   (0x2504, "BOX DRAWINGS LIGHT TRIPLE DASH HORIZONTAL"),
   (0x2505, "BOX DRAWINGS HEAVY TRIPLE DASH HORIZONTAL;BOX DRAWINGS LIGHT TRIPLE DASH VERTICAL"),
   (0x2507, "BOX DRAWINGS HEAVY TRIPLE DASH VERTICAL"),
   (0x2508, "BOX DRAWINGS LIGHT QUADRUPLE DASH HORIZONTAL"),
   (0x2509, "BOX DRAWINGS HEAVY QUADRUPLE DASH HORIZONTAL"),
   (0x250A, "BOX DRAWINGS LIGHT QUADRUPLE DASH VERTICAL"),
   (0x250B, "BOX DRAWINGS HEAVY QUADRUPLE DASH VERTICAL;BOX DRAWINGS LIGHT DOWN AND RIGHT"),
   (0x250D, "BOX DRAWINGS DOWN LIGHT AND RIGHT HEAVY;BOX DRAWINGS DOWN HEAVY AND RIGHT LIGHT"),
   (0x250F, "BOX DRAWINGS HEAVY DOWN AND RIGHT;BOX DRAWINGS LIGHT DOWN AND LEFT"),
   (0x2511, "BOX DRAWINGS DOWN LIGHT AND LEFT HEAVY;BOX DRAWINGS DOWN HEAVY AND LEFT LIGHT"),
   (0x2513, "BOX DRAWINGS HEAVY DOWN AND LEFT;BOX DRAWINGS LIGHT UP AND RIGHT"),
   (0x2515, "BOX DRAWINGS UP LIGHT AND RIGHT HEAVY;BOX DRAWINGS UP HEAVY AND RIGHT LIGHT"),
   (0x2517, "BOX DRAWINGS HEAVY UP AND RIGHT;BOX DRAWINGS LIGHT UP AND LEFT"),
   (0x2519, "BOX DRAWINGS UP LIGHT AND LEFT HEAVY;BOX DRAWINGS UP HEAVY AND LEFT LIGHT"),
   (0x251B, "BOX DRAWINGS HEAVY UP AND LEFT;BOX DRAWINGS LIGHT VERTICAL AND RIGHT"),
   (0x251D, "BOX DRAWINGS VERTICAL LIGHT AND RIGHT HEAVY"),
   (0x251E, "BOX DRAWINGS UP HEAVY AND RIGHT DOWN LIGHT"),
   (0x251F, "BOX DRAWINGS DOWN HEAVY AND RIGHT UP LIGHT"),
   (0x2520, "BOX DRAWINGS VERTICAL HEAVY AND RIGHT LIGHT"),
   (0x2521, "BOX DRAWINGS DOWN LIGHT AND RIGHT UP HEAVY"),
   (0x2522, "BOX DRAWINGS UP LIGHT AND RIGHT DOWN HEAVY;BOX DRAWINGS HEAVY VERTICAL AND RIGHT"),
   (0x2524, "BOX DRAWINGS LIGHT VERTICAL AND LEFT;BOX DRAWINGS VERTICAL LIGHT AND LEFT HEAVY"),
   (0x2526, "BOX DRAWINGS UP HEAVY AND LEFT DOWN LIGHT"),
   (0x2527, "BOX DRAWINGS DOWN HEAVY AND LEFT UP LIGHT"),
   (0x2528, "BOX DRAWINGS VERTICAL HEAVY AND LEFT LIGHT"),
   (0x2529, "BOX DRAWINGS DOWN LIGHT AND LEFT UP HEAVY"),
   (0x252A, "BOX DRAWINGS UP LIGHT AND LEFT DOWN HEAVY;BOX DRAWINGS HEAVY VERTICAL AND LEFT"),
   (0x252C, "BOX DRAWINGS LIGHT DOWN AND HORIZONTAL"),
   (0x252D, "BOX DRAWINGS LEFT HEAVY AND RIGHT DOWN LIGHT"),
   (0x252E, "BOX DRAWINGS RIGHT HEAVY AND LEFT DOWN LIGHT"),
   (0x252F, "BOX DRAWINGS DOWN LIGHT AND HORIZONTAL HEAVY"),
   (0x2530, "BOX DRAWINGS DOWN HEAVY AND HORIZONTAL LIGHT"),
   (0x2531, "BOX DRAWINGS RIGHT LIGHT AND LEFT DOWN HEAVY"),
   (0x2532, "BOX DRAWINGS LEFT LIGHT AND RIGHT DOWN HEAVY"),
   (0x2533, "BOX DRAWINGS HEAVY DOWN AND HORIZONTAL;BOX DRAWINGS LIGHT UP AND HORIZONTAL"),
   (0x2535, "BOX DRAWINGS LEFT HEAVY AND RIGHT UP LIGHT"),
   (0x2536, "BOX DRAWINGS RIGHT HEAVY AND LEFT UP LIGHT"),
   (0x2537, "BOX DRAWINGS UP LIGHT AND HORIZONTAL HEAVY"),
   (0x2538, "BOX DRAWINGS UP HEAVY AND HORIZONTAL LIGHT"),
   (0x2539, "BOX DRAWINGS RIGHT LIGHT AND LEFT UP HEAVY"),
   (0x253A, "BOX DRAWINGS LEFT LIGHT AND RIGHT UP HEAVY;BOX DRAWINGS HEAVY UP AND HORIZONTAL"),
   (0x253C, "BOX DRAWINGS LIGHT VERTICAL AND HORIZONTAL"),
   (0x253D, "BOX DRAWINGS LEFT HEAVY AND RIGHT VERTICAL LIGHT"),
   (0x253E, "BOX DRAWINGS RIGHT HEAVY AND LEFT VERTICAL LIGHT"),
   (0x253F, "BOX DRAWINGS VERTICAL LIGHT AND HORIZONTAL HEAVY"),
   (0x2540, "BOX DRAWINGS UP HEAVY AND DOWN HORIZONTAL LIGHT"),
   (0x2541, "BOX DRAWINGS DOWN HEAVY AND UP HORIZONTAL LIGHT"),
   (0x2542, "BOX DRAWINGS VERTICAL HEAVY AND HORIZONTAL LIGHT"),
   (0x2543, "BOX DRAWINGS LEFT UP HEAVY AND RIGHT DOWN LIGHT"),
   (0x2544, "BOX DRAWINGS RIGHT UP HEAVY AND LEFT DOWN LIGHT"),
   (0x2545, "BOX DRAWINGS LEFT DOWN HEAVY AND RIGHT UP LIGHT"),
   (0x2546, "BOX DRAWINGS RIGHT DOWN HEAVY AND LEFT UP LIGHT"),
   (0x2547, "BOX DRAWINGS DOWN LIGHT AND UP HORIZONTAL HEAVY"),
   (0x2548, "BOX DRAWINGS UP LIGHT AND DOWN HORIZONTAL HEAVY"),
   (0x2549, "BOX DRAWINGS RIGHT LIGHT AND LEFT VERTICAL HEAVY"),
   (0x254A, "BOX DRAWINGS LEFT LIGHT AND RIGHT VERTICAL HEAVY"),
   (0x254B, "BOX DRAWINGS HEAVY VERTICAL AND HORIZONTAL"),
   (0x254C, "BOX DRAWINGS LIGHT DOUBLE DASH HORIZONTAL"),
   (0x254D, "BOX DRAWINGS HEAVY DOUBLE DASH HORIZONTAL;BOX DRAWINGS LIGHT DOUBLE DASH VERTICAL"),
   (0x254F, "BOX DRAWINGS HEAVY DOUBLE DASH VERTICAL;BOX DRAWINGS DOUBLE HORIZONTAL"),
   (0x2551, "BOX DRAWINGS DOUBLE VERTICAL;BOX DRAWINGS DOWN SINGLE AND RIGHT DOUBLE"),
   (0x2553, "BOX DRAWINGS DOWN DOUBLE AND RIGHT SINGLE;BOX DRAWINGS DOUBLE DOWN AND RIGHT"),
   (0x2555, "BOX DRAWINGS DOWN SINGLE AND LEFT DOUBLE;BOX DRAWINGS DOWN DOUBLE AND LEFT SINGLE"),
   (0x2557, "BOX DRAWINGS DOUBLE DOWN AND LEFT;BOX DRAWINGS UP SINGLE AND RIGHT DOUBLE"),
   (0x2559, "BOX DRAWINGS UP DOUBLE AND RIGHT SINGLE;BOX DRAWINGS DOUBLE UP AND RIGHT"),
   (0x255B, "BOX DRAWINGS UP SINGLE AND LEFT DOUBLE;BOX DRAWINGS UP DOUBLE AND LEFT SINGLE"),
   (0x255D, "BOX DRAWINGS DOUBLE UP AND LEFT;BOX DRAWINGS VERTICAL SINGLE AND RIGHT DOUBLE"),
   (0x255F, "BOX DRAWINGS VERTICAL DOUBLE AND RIGHT SINGLE"),
   (0x2560, "BOX DRAWINGS DOUBLE VERTICAL AND RIGHT"),
   (0x2561, "BOX DRAWINGS VERTICAL SINGLE AND LEFT DOUBLE"),
   (0x2562, "BOX DRAWINGS VERTICAL DOUBLE AND LEFT SINGLE"),
   (0x2563, "BOX DRAWINGS DOUBLE VERTICAL AND LEFT"),
   (0x2564, "BOX DRAWINGS DOWN SINGLE AND HORIZONTAL DOUBLE"),
   (0x2565, "BOX DRAWINGS DOWN DOUBLE AND HORIZONTAL SINGLE"),
   (0x2566, "BOX DRAWINGS DOUBLE DOWN AND HORIZONTAL"),
   (0x2567, "BOX DRAWINGS UP SINGLE AND HORIZONTAL DOUBLE"),
   (0x2568, "BOX DRAWINGS UP DOUBLE AND HORIZONTAL SINGLE"),
   (0x2569, "BOX DRAWINGS DOUBLE UP AND HORIZONTAL"),
   (0x256A, "BOX DRAWINGS VERTICAL SINGLE AND HORIZONTAL DOUBLE"),
   (0x256B, "BOX DRAWINGS VERTICAL DOUBLE AND HORIZONTAL SINGLE"),
   (0x256C, "BOX DRAWINGS DOUBLE VERTICAL AND HORIZONTAL;BOX DRAWINGS LIGHT ARC DOWN AND RIGHT"),
   (0x256E, "BOX DRAWINGS LIGHT ARC DOWN AND LEFT;BOX DRAWINGS LIGHT ARC UP AND LEFT"),
   (0x2570, "BOX DRAWINGS LIGHT ARC UP AND RIGHT"),
   (0x2571, "BOX DRAWINGS LIGHT DIAGONAL UPPER RIGHT TO LOWER LEFT"),
   (0x2572, "BOX DRAWINGS LIGHT DIAGONAL UPPER LEFT TO LOWER RIGHT"),
   (0x2573, "BOX DRAWINGS LIGHT DIAGONAL CROSS;BOX DRAWINGS LIGHT LEFT;BOX DRAWINGS LIGHT UP"),
   (0x2576, "BOX DRAWINGS LIGHT RIGHT;BOX DRAWINGS LIGHT DOWN;BOX DRAWINGS HEAVY LEFT"),
   (0x2579, "BOX DRAWINGS HEAVY UP;BOX DRAWINGS HEAVY RIGHT;BOX DRAWINGS HEAVY DOWN"),
   (0x257C, "BOX DRAWINGS LIGHT LEFT AND HEAVY RIGHT;BOX DRAWINGS LIGHT UP AND HEAVY DOWN"),
   (0x257E, "BOX DRAWINGS HEAVY LEFT AND LIGHT RIGHT;BOX DRAWINGS HEAVY UP AND LIGHT DOWN"),
   (0x2580, "UPPER HALF BLOCK;LOWER ONE EIGHTH BLOCK;LOWER ONE QUARTER BLOCK"),
   (0x2583, "LOWER THREE EIGHTHS BLOCK;LOWER HALF BLOCK;LOWER FIVE EIGHTHS BLOCK"),
   (0x2586, "LOWER THREE QUARTERS BLOCK;LOWER SEVEN EIGHTHS BLOCK;FULL BLOCK"),
   (0x2589, "LEFT SEVEN EIGHTHS BLOCK;LEFT THREE QUARTERS BLOCK;LEFT FIVE EIGHTHS BLOCK"),
   (0x258C, "LEFT HALF BLOCK;LEFT THREE EIGHTHS BLOCK;LEFT ONE QUARTER BLOCK"),
   (0x258F, "LEFT ONE EIGHTH BLOCK;RIGHT HALF BLOCK;LIGHT SHADE;MEDIUM SHADE;DARK SHADE"),
   (0x2594, "UPPER ONE EIGHTH BLOCK;RIGHT ONE EIGHTH BLOCK;QUADRANT LOWER LEFT"),
   (0x2597, "QUADRANT LOWER RIGHT;QUADRANT UPPER LEFT"),
   (0x2599, "QUADRANT UPPER LEFT AND LOWER LEFT AND LOWER RIGHT"),
   (0x259A, "QUADRANT UPPER LEFT AND LOWER RIGHT"),
   (0x259B, "QUADRANT UPPER LEFT AND UPPER RIGHT AND LOWER LEFT"),
   (0x259C, "QUADRANT UPPER LEFT AND UPPER RIGHT AND LOWER RIGHT;QUADRANT UPPER RIGHT"),
   (0x259E, "QUADRANT UPPER RIGHT AND LOWER LEFT"),
   (0x259F, "QUADRANT UPPER RIGHT AND LOWER LEFT AND LOWER RIGHT"),
   (0x2700, "BLACK SAFETY SCISSORS;UPPER BLADE SCISSORS;BLACK SCISSORS;LOWER BLADE SCISSORS"),
   (0x2704, "WHITE SCISSORS;WHITE HEAVY CHECK MARK;TELEPHONE LOCATION SIGN;TAPE DRIVE;AIRPLANE"),
   (0x2709, "ENVELOPE;RAISED FIST;RAISED HAND;VICTORY HAND;WRITING HAND;LOWER RIGHT PENCIL"),
   (0x270F, "PENCIL;UPPER RIGHT PENCIL;WHITE NIB;BLACK NIB;CHECK MARK;HEAVY CHECK MARK"),
   (0x2715, "MULTIPLICATION X;HEAVY MULTIPLICATION X;BALLOT X;HEAVY BALLOT X"),
   (0x2719, "OUTLINED GREEK CROSS;HEAVY GREEK CROSS;OPEN CENTRE CROSS;HEAVY OPEN CENTRE CROSS"),
   (0x271D, "LATIN CROSS;SHADOWED WHITE LATIN CROSS;OUTLINED LATIN CROSS;MALTESE CROSS"),
   (0x2721, "STAR OF DAVID;FOUR TEARDROP-SPOKED ASTERISK;FOUR BALLOON-SPOKED ASTERISK"),
   (0x2724, "HEAVY FOUR BALLOON-SPOKED ASTERISK;FOUR CLUB-SPOKED ASTERISK"),
   (0x2726, "BLACK FOUR POINTED STAR;WHITE FOUR POINTED STAR;SPARKLES"),
   (0x2729, "STRESS OUTLINED WHITE STAR;CIRCLED WHITE STAR;OPEN CENTRE BLACK STAR"),
   (0x272C, "BLACK CENTRE WHITE STAR;OUTLINED BLACK STAR;HEAVY OUTLINED BLACK STAR"),
   (0x272F, "PINWHEEL STAR;SHADOWED WHITE STAR;HEAVY ASTERISK;OPEN CENTRE ASTERISK"),
   (0x2733, "EIGHT SPOKED ASTERISK;EIGHT POINTED BLACK STAR;EIGHT POINTED PINWHEEL STAR"),
   (0x2736, "SIX POINTED BLACK STAR;EIGHT POINTED RECTILINEAR BLACK STAR"),
   (0x2738, "HEAVY EIGHT POINTED RECTILINEAR BLACK STAR;TWELVE POINTED BLACK STAR"),
   (0x273A, "SIXTEEN POINTED ASTERISK;TEARDROP-SPOKED ASTERISK"),
   (0x273C, "OPEN CENTRE TEARDROP-SPOKED ASTERISK;HEAVY TEARDROP-SPOKED ASTERISK"),
   (0x273E, "SIX PETALLED BLACK AND WHITE FLORETTE;BLACK FLORETTE;WHITE FLORETTE"),
   (0x2741, "EIGHT PETALLED OUTLINED BLACK FLORETTE;CIRCLED OPEN CENTRE EIGHT POINTED STAR"),
   (0x2743, "HEAVY TEARDROP-SPOKED PINWHEEL ASTERISK;SNOWFLAKE;TIGHT TRIFOLIATE SNOWFLAKE"),
   (0x2746, "HEAVY CHEVRON SNOWFLAKE;SPARKLE;HEAVY SPARKLE;BALLOON-SPOKED ASTERISK"),
   (0x274A, "EIGHT TEARDROP-SPOKED PROPELLER ASTERISK"),
   (0x274B, "HEAVY EIGHT TEARDROP-SPOKED PROPELLER ASTERISK;CROSS MARK;SHADOWED WHITE CIRCLE"),
   (0x274E, "NEGATIVE SQUARED CROSS MARK;LOWER RIGHT DROP-SHADOWED WHITE SQUARE"),
   (0x2750, "UPPER RIGHT DROP-SHADOWED WHITE SQUARE;LOWER RIGHT SHADOWED WHITE SQUARE"),
   (0x2752, "UPPER RIGHT SHADOWED WHITE SQUARE;BLACK QUESTION MARK ORNAMENT"),
   (0x2754, "WHITE QUESTION MARK ORNAMENT;WHITE EXCLAMATION MARK ORNAMENT"),
   (0x2756, "BLACK DIAMOND MINUS WHITE X;HEAVY EXCLAMATION MARK SYMBOL;LIGHT VERTICAL BAR"),
   (0x2759, "MEDIUM VERTICAL BAR;HEAVY VERTICAL BAR"),
   (0x275B, "HEAVY SINGLE TURNED COMMA QUOTATION MARK ORNAMENT"),
   (0x275C, "HEAVY SINGLE COMMA QUOTATION MARK ORNAMENT"),
   (0x275D, "HEAVY DOUBLE TURNED COMMA QUOTATION MARK ORNAMENT"),
   (0x275E, "HEAVY DOUBLE COMMA QUOTATION MARK ORNAMENT"),
   (0x275F, "HEAVY LOW SINGLE COMMA QUOTATION MARK ORNAMENT"),
   (0x2760, "HEAVY LOW DOUBLE COMMA QUOTATION MARK ORNAMENT"),
   (0x2761, "CURVED STEM PARAGRAPH SIGN ORNAMENT;HEAVY EXCLAMATION MARK ORNAMENT"),
   (0x2763, "HEAVY HEART EXCLAMATION MARK ORNAMENT;HEAVY BLACK HEART"),
   (0x2765, "ROTATED HEAVY BLACK HEART BULLET;FLORAL HEART;ROTATED FLORAL HEART BULLET"),
   (0x2768, "MEDIUM LEFT PARENTHESIS ORNAMENT;MEDIUM RIGHT PARENTHESIS ORNAMENT"),
   (0x276A, "MEDIUM FLATTENED LEFT PARENTHESIS ORNAMENT"),
   (0x276B, "MEDIUM FLATTENED RIGHT PARENTHESIS ORNAMENT"),
   (0x276C, "MEDIUM LEFT-POINTING ANGLE BRACKET ORNAMENT"),
   (0x276D, "MEDIUM RIGHT-POINTING ANGLE BRACKET ORNAMENT"),
   (0x276E, "HEAVY LEFT-POINTING ANGLE QUOTATION MARK ORNAMENT"),
   (0x276F, "HEAVY RIGHT-POINTING ANGLE QUOTATION MARK ORNAMENT"),
   (0x2770, "HEAVY LEFT-POINTING ANGLE BRACKET ORNAMENT"),
   (0x2771, "HEAVY RIGHT-POINTING ANGLE BRACKET ORNAMENT"),
   (0x2772, "LIGHT LEFT TORTOISE SHELL BRACKET ORNAMENT"),
   (0x2773, "LIGHT RIGHT TORTOISE SHELL BRACKET ORNAMENT;MEDIUM LEFT CURLY BRACKET ORNAMENT"),
   (0x2775, "MEDIUM RIGHT CURLY BRACKET ORNAMENT;DINGBAT NEGATIVE CIRCLED DIGIT ONE"),
   (0x2777, "DINGBAT NEGATIVE CIRCLED DIGIT TWO;DINGBAT NEGATIVE CIRCLED DIGIT THREE"),
   (0x2779, "DINGBAT NEGATIVE CIRCLED DIGIT FOUR;DINGBAT NEGATIVE CIRCLED DIGIT FIVE"),
   (0x277B, "DINGBAT NEGATIVE CIRCLED DIGIT SIX;DINGBAT NEGATIVE CIRCLED DIGIT SEVEN"),
   (0x277D, "DINGBAT NEGATIVE CIRCLED DIGIT EIGHT;DINGBAT NEGATIVE CIRCLED DIGIT NINE"),
   (0x277F, "DINGBAT NEGATIVE CIRCLED NUMBER TEN;DINGBAT CIRCLED SANS-SERIF DIGIT ONE"),
   (0x2781, "DINGBAT CIRCLED SANS-SERIF DIGIT TWO;DINGBAT CIRCLED SANS-SERIF DIGIT THREE"),
   (0x2783, "DINGBAT CIRCLED SANS-SERIF DIGIT FOUR;DINGBAT CIRCLED SANS-SERIF DIGIT FIVE"),
   (0x2785, "DINGBAT CIRCLED SANS-SERIF DIGIT SIX;DINGBAT CIRCLED SANS-SERIF DIGIT SEVEN"),
   (0x2787, "DINGBAT CIRCLED SANS-SERIF DIGIT EIGHT;DINGBAT CIRCLED SANS-SERIF DIGIT NINE"),
   (0x2789, "DINGBAT CIRCLED SANS-SERIF NUMBER TEN"),
   (0x278A, "DINGBAT NEGATIVE CIRCLED SANS-SERIF DIGIT ONE"),
   (0x278B, "DINGBAT NEGATIVE CIRCLED SANS-SERIF DIGIT TWO"),
   (0x278C, "DINGBAT NEGATIVE CIRCLED SANS-SERIF DIGIT THREE"),
   (0x278D, "DINGBAT NEGATIVE CIRCLED SANS-SERIF DIGIT FOUR"),
   (0x278E, "DINGBAT NEGATIVE CIRCLED SANS-SERIF DIGIT FIVE"),
   (0x278F, "DINGBAT NEGATIVE CIRCLED SANS-SERIF DIGIT SIX"),
   (0x2790, "DINGBAT NEGATIVE CIRCLED SANS-SERIF DIGIT SEVEN"),
   (0x2791, "DINGBAT NEGATIVE CIRCLED SANS-SERIF DIGIT EIGHT"),
   (0x2792, "DINGBAT NEGATIVE CIRCLED SANS-SERIF DIGIT NINE"),
   (0x2793, "DINGBAT NEGATIVE CIRCLED SANS-SERIF NUMBER TEN;HEAVY WIDE-HEADED RIGHTWARDS ARROW"),
   (0x2795, "HEAVY PLUS SIGN;HEAVY MINUS SIGN;HEAVY DIVISION SIGN;HEAVY SOUTH EAST ARROW"),
   (0x2799, "HEAVY RIGHTWARDS ARROW;HEAVY NORTH EAST ARROW;DRAFTING POINT RIGHTWARDS ARROW"),
   (0x279C, "HEAVY ROUND-TIPPED RIGHTWARDS ARROW;TRIANGLE-HEADED RIGHTWARDS ARROW"),
   (0x279E, "HEAVY TRIANGLE-HEADED RIGHTWARDS ARROW;DASHED TRIANGLE-HEADED RIGHTWARDS ARROW"),
   (0x27A0, "HEAVY DASHED TRIANGLE-HEADED RIGHTWARDS ARROW;BLACK RIGHTWARDS ARROW"),
   (0x27A2, "THREE-D TOP-LIGHTED RIGHTWARDS ARROWHEAD"),
   (0x27A3, "THREE-D BOTTOM-LIGHTED RIGHTWARDS ARROWHEAD;BLACK RIGHTWARDS ARROWHEAD"),
   (0x27A5, "HEAVY BLACK CURVED DOWNWARDS AND RIGHTWARDS ARROW"),
   (0x27A6, "HEAVY BLACK CURVED UPWARDS AND RIGHTWARDS ARROW;SQUAT BLACK RIGHTWARDS ARROW"),
   (0x27A8, "HEAVY CONCAVE-POINTED BLACK RIGHTWARDS ARROW;RIGHT-SHADED WHITE RIGHTWARDS ARROW"),
   (0x27AA, "LEFT-SHADED WHITE RIGHTWARDS ARROW;BACK-TILTED SHADOWED WHITE RIGHTWARDS ARROW"),
   (0x27AC, "FRONT-TILTED SHADOWED WHITE RIGHTWARDS ARROW"),
   (0x27AD, "HEAVY LOWER RIGHT-SHADOWED WHITE RIGHTWARDS ARROW"),
   (0x27AE, "HEAVY UPPER RIGHT-SHADOWED WHITE RIGHTWARDS ARROW"),
   (0x27AF, "NOTCHED LOWER RIGHT-SHADOWED WHITE RIGHTWARDS ARROW;CURLY LOOP"),
   (0x27B1, "NOTCHED UPPER RIGHT-SHADOWED WHITE RIGHTWARDS ARROW"),
   (0x27B2, "CIRCLED HEAVY WHITE RIGHTWARDS ARROW;WHITE-FEATHERED RIGHTWARDS ARROW"),
   (0x27B4, "BLACK-FEATHERED SOUTH EAST ARROW;BLACK-FEATHERED RIGHTWARDS ARROW"),
   (0x27B6, "BLACK-FEATHERED NORTH EAST ARROW;HEAVY BLACK-FEATHERED SOUTH EAST ARROW"),
   (0x27B8, "HEAVY BLACK-FEATHERED RIGHTWARDS ARROW;HEAVY BLACK-FEATHERED NORTH EAST ARROW"),
   (0x27BA, "TEARDROP-BARBED RIGHTWARDS ARROW;HEAVY TEARDROP-SHANKED RIGHTWARDS ARROW"),
   (0x27BC, "WEDGE-TAILED RIGHTWARDS ARROW;HEAVY WEDGE-TAILED RIGHTWARDS ARROW"),
   (0x27BE, "OPEN-OUTLINED RIGHTWARDS ARROW;DOUBLE CURLY LOOP"),
   (0x2B00, "NORTH EAST WHITE ARROW;NORTH WEST WHITE ARROW;SOUTH EAST WHITE ARROW"),
   (0x2B03, "SOUTH WEST WHITE ARROW;LEFT RIGHT WHITE ARROW;LEFTWARDS BLACK ARROW"),
   (0x2B06, "UPWARDS BLACK ARROW;DOWNWARDS BLACK ARROW;NORTH EAST BLACK ARROW"),
   (0x2B09, "NORTH WEST BLACK ARROW;SOUTH EAST BLACK ARROW;SOUTH WEST BLACK ARROW"),
   (0x2B0C, "LEFT RIGHT BLACK ARROW;UP DOWN BLACK ARROW;RIGHTWARDS ARROW WITH TIP DOWNWARDS"),
   (0x2B0F, "RIGHTWARDS ARROW WITH TIP UPWARDS;LEFTWARDS ARROW WITH TIP DOWNWARDS"),
   (0x2B11, "LEFTWARDS ARROW WITH TIP UPWARDS;SQUARE WITH TOP HALF BLACK"),
   (0x2B13, "SQUARE WITH BOTTOM HALF BLACK;SQUARE WITH UPPER RIGHT DIAGONAL HALF BLACK"),
   (0x2B15, "SQUARE WITH LOWER LEFT DIAGONAL HALF BLACK;DIAMOND WITH LEFT HALF BLACK"),
   (0x2B17, "DIAMOND WITH RIGHT HALF BLACK;DIAMOND WITH TOP HALF BLACK"),
   (0x2B19, "DIAMOND WITH BOTTOM HALF BLACK;DOTTED SQUARE;BLACK LARGE SQUARE"),
   (0x2B1C, "WHITE LARGE SQUARE;BLACK VERY SMALL SQUARE;WHITE VERY SMALL SQUARE;BLACK PENTAGON"),
   (0x2B20, "WHITE PENTAGON;WHITE HEXAGON;BLACK HEXAGON;HORIZONTAL BLACK HEXAGON"),
   (0x2B24, "BLACK LARGE CIRCLE;BLACK MEDIUM DIAMOND;WHITE MEDIUM DIAMOND;BLACK MEDIUM LOZENGE"),
   (0x2B28, "WHITE MEDIUM LOZENGE;BLACK SMALL DIAMOND;BLACK SMALL LOZENGE;WHITE SMALL LOZENGE"),
   (0x2B2C, "BLACK HORIZONTAL ELLIPSE;WHITE HORIZONTAL ELLIPSE;BLACK VERTICAL ELLIPSE"),
   (0x2B2F, "WHITE VERTICAL ELLIPSE;LEFT ARROW WITH SMALL CIRCLE;THREE LEFTWARDS ARROWS"),
   (0x2B32, "LEFT ARROW WITH CIRCLED PLUS;LONG LEFTWARDS SQUIGGLE ARROW"),
   (0x2B34, "LEFTWARDS TWO-HEADED ARROW WITH VERTICAL STROKE"),
   (0x2B35, "LEFTWARDS TWO-HEADED ARROW WITH DOUBLE VERTICAL STROKE"),
   (0x2B36, "LEFTWARDS TWO-HEADED ARROW FROM BAR;LEFTWARDS TWO-HEADED TRIPLE DASH ARROW"),
   (0x2B38, "LEFTWARDS ARROW WITH DOTTED STEM;LEFTWARDS ARROW WITH TAIL WITH VERTICAL STROKE"),
   (0x2B3A, "LEFTWARDS ARROW WITH TAIL WITH DOUBLE VERTICAL STROKE"),
   (0x2B3B, "LEFTWARDS TWO-HEADED ARROW WITH TAIL"),
   (0x2B3C, "LEFTWARDS TWO-HEADED ARROW WITH TAIL WITH VERTICAL STROKE"),
   (0x2B3D, "LEFTWARDS TWO-HEADED ARROW WITH TAIL WITH DOUBLE VERTICAL STROKE"),
   (0x2B3E, "LEFTWARDS ARROW THROUGH X;WAVE ARROW POINTING DIRECTLY LEFT"),
   (0x2B40, "EQUALS SIGN ABOVE LEFTWARDS ARROW;REVERSE TILDE OPERATOR ABOVE LEFTWARDS ARROW"),
   (0x2B42, "LEFTWARDS ARROW ABOVE REVERSE ALMOST EQUAL TO"),
   (0x2B43, "RIGHTWARDS ARROW THROUGH GREATER-THAN;RIGHTWARDS ARROW THROUGH SUPERSET"),
   (0x2B45, "LEFTWARDS QUADRUPLE ARROW;RIGHTWARDS QUADRUPLE ARROW"),
   (0x2B47, "REVERSE TILDE OPERATOR ABOVE RIGHTWARDS ARROW"),
   (0x2B48, "RIGHTWARDS ARROW ABOVE REVERSE ALMOST EQUAL TO"),
   (0x2B49, "TILDE OPERATOR ABOVE LEFTWARDS ARROW;LEFTWARDS ARROW ABOVE ALMOST EQUAL TO"),
   (0x2B4B, "LEFTWARDS ARROW ABOVE REVERSE TILDE OPERATOR"),
   (0x2B4C, "RIGHTWARDS ARROW ABOVE REVERSE TILDE OPERATOR"),
   (0x2B4D, "DOWNWARDS TRIANGLE-HEADED ZIGZAG ARROW;SHORT SLANTED NORTH ARROW"),
   (0x2B4F, "SHORT BACKSLANTED SOUTH ARROW;WHITE MEDIUM STAR;BLACK SMALL STAR;WHITE SMALL STAR"),
   (0x2B53, "BLACK RIGHT-POINTING PENTAGON;WHITE RIGHT-POINTING PENTAGON;HEAVY LARGE CIRCLE"),
   (0x2B56, "HEAVY OVAL WITH OVAL INSIDE;HEAVY CIRCLE WITH CIRCLE INSIDE;HEAVY CIRCLE"),
   (0x2B59, "HEAVY CIRCLED SALTIRE;SLANTED NORTH ARROW WITH HOOKED HEAD"),
   (0x2B5B, "BACKSLANTED SOUTH ARROW WITH HOOKED TAIL;SLANTED NORTH ARROW WITH HORIZONTAL TAIL"),
   (0x2B5D, "BACKSLANTED SOUTH ARROW WITH HORIZONTAL TAIL"),
   (0x2B5E, "BENT ARROW POINTING DOWNWARDS THEN NORTH EAST"),
   (0x2B5F, "SHORT BENT ARROW POINTING DOWNWARDS THEN NORTH EAST"),
   (0x1F1E6, "REGIONAL INDICATOR SYMBOL LETTER A;REGIONAL INDICATOR SYMBOL LETTER B"),
   (0x1F1E8, "REGIONAL INDICATOR SYMBOL LETTER C;REGIONAL INDICATOR SYMBOL LETTER D"),
   (0x1F1EA, "REGIONAL INDICATOR SYMBOL LETTER E;REGIONAL INDICATOR SYMBOL LETTER F"),
   (0x1F1EC, "REGIONAL INDICATOR SYMBOL LETTER G;REGIONAL INDICATOR SYMBOL LETTER H"),
   (0x1F1EE, "REGIONAL INDICATOR SYMBOL LETTER I;REGIONAL INDICATOR SYMBOL LETTER J"),
   (0x1F1F0, "REGIONAL INDICATOR SYMBOL LETTER K;REGIONAL INDICATOR SYMBOL LETTER L"),
   (0x1F1F2, "REGIONAL INDICATOR SYMBOL LETTER M;REGIONAL INDICATOR SYMBOL LETTER N"),
   (0x1F1F4, "REGIONAL INDICATOR SYMBOL LETTER O;REGIONAL INDICATOR SYMBOL LETTER P"),
   (0x1F1F6, "REGIONAL INDICATOR SYMBOL LETTER Q;REGIONAL INDICATOR SYMBOL LETTER R"),
   (0x1F1F8, "REGIONAL INDICATOR SYMBOL LETTER S;REGIONAL INDICATOR SYMBOL LETTER T"),
   (0x1F1FA, "REGIONAL INDICATOR SYMBOL LETTER U;REGIONAL INDICATOR SYMBOL LETTER V"),
   (0x1F1FC, "REGIONAL INDICATOR SYMBOL LETTER W;REGIONAL INDICATOR SYMBOL LETTER X"),
   (0x1F1FE, "REGIONAL INDICATOR SYMBOL LETTER Y;REGIONAL INDICATOR SYMBOL LETTER Z"),
   (0x1F300, "CYCLONE;FOGGY;CLOSED UMBRELLA;NIGHT WITH STARS;SUNRISE OVER MOUNTAINS;SUNRISE"),
   (0x1F306, "CITYSCAPE AT DUSK;SUNSET OVER BUILDINGS;RAINBOW;BRIDGE AT NIGHT;WATER WAVE"),
   (0x1F30B, "VOLCANO;MILKY WAY;EARTH GLOBE EUROPE-AFRICA;EARTH GLOBE AMERICAS"),
   (0x1F30F, "EARTH GLOBE ASIA-AUSTRALIA;GLOBE WITH MERIDIANS;NEW MOON SYMBOL"),
   (0x1F312, "WAXING CRESCENT MOON SYMBOL;FIRST QUARTER MOON SYMBOL;WAXING GIBBOUS MOON SYMBOL"),
   (0x1F315, "FULL MOON SYMBOL;WANING GIBBOUS MOON SYMBOL;LAST QUARTER MOON SYMBOL"),
   (0x1F318, "WANING CRESCENT MOON SYMBOL;CRESCENT MOON;NEW MOON WITH FACE"),
   (0x1F31B, "FIRST QUARTER MOON WITH FACE;LAST QUARTER MOON WITH FACE;FULL MOON WITH FACE"),
   (0x1F31E, "SUN WITH FACE;GLOWING STAR;SHOOTING STAR;THERMOMETER;BLACK DROPLET;WHITE SUN"),
   (0x1F324, "WHITE SUN WITH SMALL CLOUD;WHITE SUN BEHIND CLOUD"),
   (0x1F326, "WHITE SUN BEHIND CLOUD WITH RAIN;CLOUD WITH RAIN;CLOUD WITH SNOW"),
   (0x1F329, "CLOUD WITH LIGHTNING;CLOUD WITH TORNADO;FOG;WIND BLOWING FACE;HOT DOG;TACO"),
   (0x1F32F, "BURRITO;CHESTNUT;SEEDLING;EVERGREEN TREE;DECIDUOUS TREE;PALM TREE;CACTUS"),
   (0x1F336, "HOT PEPPER;TULIP;CHERRY BLOSSOM;ROSE;HIBISCUS;SUNFLOWER;BLOSSOM;EAR OF MAIZE"),
   (0x1F33E, "EAR OF RICE;HERB;FOUR LEAF CLOVER;MAPLE LEAF;FALLEN LEAF;LEAF FLUTTERING IN WIND"),
   (0x1F344, "MUSHROOM;TOMATO;AUBERGINE;GRAPES;MELON;WATERMELON;TANGERINE;LEMON;BANANA"),
   (0x1F34D, "PINEAPPLE;RED APPLE;GREEN APPLE;PEAR;PEACH;CHERRIES;STRAWBERRY;HAMBURGER"),
   (0x1F355, "SLICE OF PIZZA;MEAT ON BONE;POULTRY LEG;RICE CRACKER;RICE BALL;COOKED RICE"),
   (0x1F35B, "CURRY AND RICE;STEAMING BOWL;SPAGHETTI;BREAD;FRENCH FRIES;ROASTED SWEET POTATO"),
   (0x1F361, "DANGO;ODEN;SUSHI;FRIED SHRIMP;FISH CAKE WITH SWIRL DESIGN;SOFT ICE CREAM"),
   (0x1F367, "SHAVED ICE;ICE CREAM;DOUGHNUT;COOKIE;CHOCOLATE BAR;CANDY;LOLLIPOP;CUSTARD"),
   (0x1F36F, "HONEY POT;SHORTCAKE;BENTO BOX;POT OF FOOD;COOKING;FORK AND KNIFE"),
   (0x1F375, "TEACUP WITHOUT HANDLE;SAKE BOTTLE AND CUP;WINE GLASS;COCKTAIL GLASS"),
   (0x1F379, "TROPICAL DRINK;BEER MUG;CLINKING BEER MUGS;BABY BOTTLE;FORK AND KNIFE WITH PLATE"),
   (0x1F37E, "BOTTLE WITH POPPING CORK;POPCORN;RIBBON;WRAPPED PRESENT;BIRTHDAY CAKE"),
   (0x1F383, "JACK-O-LANTERN;CHRISTMAS TREE;FATHER CHRISTMAS;FIREWORKS;FIREWORK SPARKLER"),
   (0x1F388, "BALLOON;PARTY POPPER;CONFETTI BALL;TANABATA TREE;CROSSED FLAGS;PINE DECORATION"),
   (0x1F38E, "JAPANESE DOLLS;CARP STREAMER;WIND CHIME;MOON VIEWING CEREMONY;SCHOOL SATCHEL"),
   (0x1F393, "GRADUATION CAP;HEART WITH TIP ON THE LEFT;BOUQUET OF FLOWERS;MILITARY MEDAL"),
   (0x1F397, "REMINDER RIBBON;MUSICAL KEYBOARD WITH JACKS;STUDIO MICROPHONE;LEVEL SLIDER"),
   (0x1F39B, "CONTROL KNOBS;BEAMED ASCENDING MUSICAL NOTES;BEAMED DESCENDING MUSICAL NOTES"),
   (0x1F39E, "FILM FRAMES;ADMISSION TICKETS;CAROUSEL HORSE;FERRIS WHEEL;ROLLER COASTER"),
   (0x1F3A3, "FISHING POLE AND FISH;MICROPHONE;MOVIE CAMERA;CINEMA;HEADPHONE;ARTIST PALETTE"),
   (0x1F3A9, "TOP HAT;CIRCUS TENT;TICKET;CLAPPER BOARD;PERFORMING ARTS;VIDEO GAME;DIRECT HIT"),
   (0x1F3B0, "SLOT MACHINE;BILLIARDS;GAME DIE;BOWLING;FLOWER PLAYING CARDS;MUSICAL NOTE"),
   (0x1F3B6, "MULTIPLE MUSICAL NOTES;SAXOPHONE;GUITAR;MUSICAL KEYBOARD;TRUMPET;VIOLIN"),
   (0x1F3BC, "MUSICAL SCORE;RUNNING SHIRT WITH SASH;TENNIS RACQUET AND BALL;SKI AND SKI BOOT"),
   (0x1F3C0, "BASKETBALL AND HOOP;CHEQUERED FLAG;SNOWBOARDER;RUNNER;SURFER;SPORTS MEDAL;TROPHY"),
   (0x1F3C7, "HORSE RACING;AMERICAN FOOTBALL;RUGBY FOOTBALL;SWIMMER;WEIGHT LIFTER;GOLFER"),
   (0x1F3CD, "RACING MOTORCYCLE;RACING CAR;CRICKET BAT AND BALL;VOLLEYBALL"),
   (0x1F3D1, "FIELD HOCKEY STICK AND BALL;ICE HOCKEY STICK AND PUCK"),
   (0x1F3D3, "TABLE TENNIS PADDLE AND BALL;SNOW CAPPED MOUNTAIN;CAMPING;BEACH WITH UMBRELLA"),
   (0x1F3D7, "BUILDING CONSTRUCTION;HOUSE BUILDINGS;CITYSCAPE;DERELICT HOUSE BUILDING"),
   (0x1F3DB, "CLASSICAL BUILDING;DESERT;DESERT ISLAND;NATIONAL PARK;STADIUM;HOUSE BUILDING"),
   (0x1F3E1, "HOUSE WITH GARDEN;OFFICE BUILDING;JAPANESE POST OFFICE;EUROPEAN POST OFFICE"),
   (0x1F3E5, "HOSPITAL;BANK;AUTOMATED TELLER MACHINE;HOTEL;LOVE HOTEL;CONVENIENCE STORE;SCHOOL"),
   (0x1F3EC, "DEPARTMENT STORE;FACTORY;IZAKAYA LANTERN;JAPANESE CASTLE;EUROPEAN CASTLE"),
   (0x1F3F1, "WHITE PENNANT;BLACK PENNANT;WAVING WHITE FLAG;WAVING BLACK FLAG;ROSETTE"),
   (0x1F3F6, "BLACK ROSETTE;LABEL;BADMINTON RACQUET AND SHUTTLECOCK;BOW AND ARROW;AMPHORA"),
   (0x1F3FB, "EMOJI MODIFIER FITZPATRICK TYPE-1-2;EMOJI MODIFIER FITZPATRICK TYPE-3"),
   (0x1F3FD, "EMOJI MODIFIER FITZPATRICK TYPE-4;EMOJI MODIFIER FITZPATRICK TYPE-5"),
   (0x1F3FF, "EMOJI MODIFIER FITZPATRICK TYPE-6;RAT;MOUSE;OX;WATER BUFFALO;COW;TIGER;LEOPARD"),
   (0x1F407, "RABBIT;CAT;DRAGON;CROCODILE;WHALE;SNAIL;SNAKE;HORSE;RAM;GOAT;SHEEP;MONKEY"),
   (0x1F413, "ROOSTER;CHICKEN;DOG;PIG;BOAR;ELEPHANT;OCTOPUS;SPIRAL SHELL;BUG;ANT;HONEYBEE"),
   (0x1F41E, "LADY BEETLE;FISH;TROPICAL FISH;BLOWFISH;TURTLE;HATCHING CHICK;BABY CHICK"),
   (0x1F425, "FRONT-FACING BABY CHICK;BIRD;PENGUIN;KOALA;POODLE;DROMEDARY CAMEL;BACTRIAN CAMEL"),
   (0x1F42C, "DOLPHIN;MOUSE FACE;COW FACE;TIGER FACE;RABBIT FACE;CAT FACE;DRAGON FACE"),
   (0x1F433, "SPOUTING WHALE;HORSE FACE;MONKEY FACE;DOG FACE;PIG FACE;FROG FACE;HAMSTER FACE"),
   (0x1F43A, "WOLF FACE;BEAR FACE;PANDA FACE;PIG NOSE;PAW PRINTS;CHIPMUNK;EYES;EYE;EAR;NOSE"),
   (0x1F444, "MOUTH;TONGUE;WHITE UP POINTING BACKHAND INDEX;WHITE DOWN POINTING BACKHAND INDEX"),
   (0x1F448, "WHITE LEFT POINTING BACKHAND INDEX;WHITE RIGHT POINTING BACKHAND INDEX"),
   (0x1F44A, "FISTED HAND SIGN;WAVING HAND SIGN;OK HAND SIGN;THUMBS UP SIGN;THUMBS DOWN SIGN"),
   (0x1F44F, "CLAPPING HANDS SIGN;OPEN HANDS SIGN;CROWN;WOMANS HAT;EYEGLASSES;NECKTIE;T-SHIRT"),
   (0x1F456, "JEANS;DRESS;KIMONO;BIKINI;WOMANS CLOTHES;PURSE;HANDBAG;POUCH;MANS SHOE"),
   (0x1F45F, "ATHLETIC SHOE;HIGH-HEELED SHOE;WOMANS SANDAL;WOMANS BOOTS;FOOTPRINTS"),
   (0x1F464, "BUST IN SILHOUETTE;BUSTS IN SILHOUETTE;BOY;GIRL;MAN;WOMAN;FAMILY"),
   (0x1F46B, "MAN AND WOMAN HOLDING HANDS;TWO MEN HOLDING HANDS;TWO WOMEN HOLDING HANDS"),
   (0x1F46E, "POLICE OFFICER;WOMAN WITH BUNNY EARS;BRIDE WITH VEIL;PERSON WITH BLOND HAIR"),
   (0x1F472, "MAN WITH GUA PI MAO;MAN WITH TURBAN;OLDER MAN;OLDER WOMAN;BABY"),
   (0x1F477, "CONSTRUCTION WORKER;PRINCESS;JAPANESE OGRE;JAPANESE GOBLIN;GHOST;BABY ANGEL"),
   (0x1F47D, "EXTRATERRESTRIAL ALIEN;ALIEN MONSTER;IMP;SKULL;INFORMATION DESK PERSON;GUARDSMAN"),
   (0x1F483, "DANCER;LIPSTICK;NAIL POLISH;FACE MASSAGE;HAIRCUT;BARBER POLE;SYRINGE;PILL"),
   (0x1F48B, "KISS MARK;LOVE LETTER;RING;GEM STONE;KISS;BOUQUET;COUPLE WITH HEART;WEDDING"),
   (0x1F493, "BEATING HEART;BROKEN HEART;TWO HEARTS;SPARKLING HEART;GROWING HEART"),
   (0x1F498, "HEART WITH ARROW;BLUE HEART;GREEN HEART;YELLOW HEART;PURPLE HEART"),
   (0x1F49D, "HEART WITH RIBBON;REVOLVING HEARTS;HEART DECORATION"),
   (0x1F4A0, "DIAMOND SHAPE WITH A DOT INSIDE;ELECTRIC LIGHT BULB;ANGER SYMBOL;BOMB"),
   (0x1F4A4, "SLEEPING SYMBOL;COLLISION SYMBOL;SPLASHING SWEAT SYMBOL;DROPLET;DASH SYMBOL"),
   (0x1F4A9, "PILE OF POO;FLEXED BICEPS;DIZZY SYMBOL;SPEECH BALLOON;THOUGHT BALLOON"),
   (0x1F4AE, "WHITE FLOWER;HUNDRED POINTS SYMBOL;MONEY BAG;CURRENCY EXCHANGE;HEAVY DOLLAR SIGN"),
   (0x1F4B3, "CREDIT CARD;BANKNOTE WITH YEN SIGN;BANKNOTE WITH DOLLAR SIGN"),
   (0x1F4B6, "BANKNOTE WITH EURO SIGN;BANKNOTE WITH POUND SIGN;MONEY WITH WINGS"),
   (0x1F4B9, "CHART WITH UPWARDS TREND AND YEN SIGN;SEAT;PERSONAL COMPUTER;BRIEFCASE;MINIDISC"),
   (0x1F4BE, "FLOPPY DISK;OPTICAL DISC;DVD;FILE FOLDER;OPEN FILE FOLDER;PAGE WITH CURL"),
   (0x1F4C4, "PAGE FACING UP;CALENDAR;TEAR-OFF CALENDAR;CARD INDEX;CHART WITH UPWARDS TREND"),
   (0x1F4C9, "CHART WITH DOWNWARDS TREND;BAR CHART;CLIPBOARD;PUSHPIN;ROUND PUSHPIN;PAPERCLIP"),
   (0x1F4CF, "STRAIGHT RULER;TRIANGULAR RULER;BOOKMARK TABS;LEDGER;NOTEBOOK"),
   (0x1F4D4, "NOTEBOOK WITH DECORATIVE COVER;CLOSED BOOK;OPEN BOOK;GREEN BOOK;BLUE BOOK"),
   (0x1F4D9, "ORANGE BOOK;BOOKS;NAME BADGE;SCROLL;MEMO;TELEPHONE RECEIVER;PAGER;FAX MACHINE"),
   (0x1F4E1, "SATELLITE ANTENNA;PUBLIC ADDRESS LOUDSPEAKER;CHEERING MEGAPHONE;OUTBOX TRAY"),
   (0x1F4E5, "INBOX TRAY;PACKAGE;E-MAIL SYMBOL;INCOMING ENVELOPE"),
   (0x1F4E9, "ENVELOPE WITH DOWNWARDS ARROW ABOVE;CLOSED MAILBOX WITH LOWERED FLAG"),
   (0x1F4EB, "CLOSED MAILBOX WITH RAISED FLAG;OPEN MAILBOX WITH RAISED FLAG"),
   (0x1F4ED, "OPEN MAILBOX WITH LOWERED FLAG;POSTBOX;POSTAL HORN;NEWSPAPER;MOBILE PHONE"),
   (0x1F4F2, "MOBILE PHONE WITH RIGHTWARDS ARROW AT LEFT;VIBRATION MODE;MOBILE PHONE OFF"),
   (0x1F4F5, "NO MOBILE PHONES;ANTENNA WITH BARS;CAMERA;CAMERA WITH FLASH;VIDEO CAMERA"),
   (0x1F4FA, "TELEVISION;RADIO;VIDEOCASSETTE;FILM PROJECTOR;PORTABLE STEREO;PRAYER BEADS"),
   (0x1F500, "TWISTED RIGHTWARDS ARROWS;CLOCKWISE RIGHTWARDS AND LEFTWARDS OPEN CIRCLE ARROWS"),
   (0x1F502, "CLOCKWISE RIGHTWARDS AND LEFTWARDS OPEN CIRCLE ARROWS WITH CIRCLED ONE OVERLAY"),
   (0x1F503, "CLOCKWISE DOWNWARDS AND UPWARDS OPEN CIRCLE ARROWS"),
   (0x1F504, "ANTICLOCKWISE DOWNWARDS AND UPWARDS OPEN CIRCLE ARROWS;LOW BRIGHTNESS SYMBOL"),
   (0x1F506, "HIGH BRIGHTNESS SYMBOL;SPEAKER WITH CANCELLATION STROKE;SPEAKER"),
   (0x1F509, "SPEAKER WITH ONE SOUND WAVE;SPEAKER WITH THREE SOUND WAVES;BATTERY;ELECTRIC PLUG"),
   (0x1F50D, "LEFT-POINTING MAGNIFYING GLASS;RIGHT-POINTING MAGNIFYING GLASS;LOCK WITH INK PEN"),
   (0x1F510, "CLOSED LOCK WITH KEY;KEY;LOCK;OPEN LOCK;BELL;BELL WITH CANCELLATION STROKE"),
   (0x1F516, "BOOKMARK;LINK SYMBOL;RADIO BUTTON;BACK WITH LEFTWARDS ARROW ABOVE"),
   (0x1F51A, "END WITH LEFTWARDS ARROW ABOVE"),
   (0x1F51B, "ON WITH EXCLAMATION MARK WITH LEFT RIGHT ARROW ABOVE"),
   (0x1F51C, "SOON WITH RIGHTWARDS ARROW ABOVE;TOP WITH UPWARDS ARROW ABOVE"),
   (0x1F51E, "NO ONE UNDER EIGHTEEN SYMBOL;KEYCAP TEN;INPUT SYMBOL FOR LATIN CAPITAL LETTERS"),
   (0x1F521, "INPUT SYMBOL FOR LATIN SMALL LETTERS;INPUT SYMBOL FOR NUMBERS"),
   (0x1F523, "INPUT SYMBOL FOR SYMBOLS;INPUT SYMBOL FOR LATIN LETTERS;FIRE;ELECTRIC TORCH"),
   (0x1F527, "WRENCH;HAMMER;NUT AND BOLT;HOCHO;PISTOL;MICROSCOPE;TELESCOPE;CRYSTAL BALL"),
   (0x1F52F, "SIX POINTED STAR WITH MIDDLE DOT;JAPANESE SYMBOL FOR BEGINNER;TRIDENT EMBLEM"),
   (0x1F532, "BLACK SQUARE BUTTON;WHITE SQUARE BUTTON;LARGE RED CIRCLE;LARGE BLUE CIRCLE"),
   (0x1F536, "LARGE ORANGE DIAMOND;LARGE BLUE DIAMOND;SMALL ORANGE DIAMOND;SMALL BLUE DIAMOND"),
   (0x1F53A, "UP-POINTING RED TRIANGLE;DOWN-POINTING RED TRIANGLE"),
   (0x1F53C, "UP-POINTING SMALL RED TRIANGLE;DOWN-POINTING SMALL RED TRIANGLE"),
   (0x1F53E, "LOWER RIGHT SHADOWED WHITE CIRCLE;UPPER RIGHT SHADOWED WHITE CIRCLE"),
   (0x1F540, "CIRCLED CROSS POMMEE;CROSS POMMEE WITH HALF-CIRCLE BELOW;CROSS POMMEE"),
   (0x1F543, "NOTCHED LEFT SEMICIRCLE WITH THREE DOTS;NOTCHED RIGHT SEMICIRCLE WITH THREE DOTS"),
   (0x1F545, "SYMBOL FOR MARKS CHAPTER;WHITE LATIN CROSS;HEAVY LATIN CROSS;CELTIC CROSS"),
   (0x1F549, "OM SYMBOL;DOVE OF PEACE;KAABA;MOSQUE;SYNAGOGUE;MENORAH WITH NINE BRANCHES"),
   (0x1F54F, "BOWL OF HYGIEIA;CLOCK FACE ONE OCLOCK;CLOCK FACE TWO OCLOCK"),
   (0x1F552, "CLOCK FACE THREE OCLOCK;CLOCK FACE FOUR OCLOCK;CLOCK FACE FIVE OCLOCK"),
   (0x1F555, "CLOCK FACE SIX OCLOCK;CLOCK FACE SEVEN OCLOCK;CLOCK FACE EIGHT OCLOCK"),
   (0x1F558, "CLOCK FACE NINE OCLOCK;CLOCK FACE TEN OCLOCK;CLOCK FACE ELEVEN OCLOCK"),
   (0x1F55B, "CLOCK FACE TWELVE OCLOCK;CLOCK FACE ONE-THIRTY;CLOCK FACE TWO-THIRTY"),
   (0x1F55E, "CLOCK FACE THREE-THIRTY;CLOCK FACE FOUR-THIRTY;CLOCK FACE FIVE-THIRTY"),
   (0x1F561, "CLOCK FACE SIX-THIRTY;CLOCK FACE SEVEN-THIRTY;CLOCK FACE EIGHT-THIRTY"),
   (0x1F564, "CLOCK FACE NINE-THIRTY;CLOCK FACE TEN-THIRTY;CLOCK FACE ELEVEN-THIRTY"),
   (0x1F567, "CLOCK FACE TWELVE-THIRTY;RIGHT SPEAKER;RIGHT SPEAKER WITH ONE SOUND WAVE"),
   (0x1F56A, "RIGHT SPEAKER WITH THREE SOUND WAVES;BULLHORN;BULLHORN WITH SOUND WAVES"),
   (0x1F56D, "RINGING BELL;BOOK;CANDLE;MANTELPIECE CLOCK;BLACK SKULL AND CROSSBONES;NO PIRACY"),
   (0x1F573, "HOLE;MAN IN BUSINESS SUIT LEVITATING;SLEUTH OR SPY;DARK SUNGLASSES;SPIDER"),
   (0x1F578, "SPIDER WEB;JOYSTICK;MAN DANCING;LEFT HAND TELEPHONE RECEIVER"),
   (0x1F57C, "TELEPHONE RECEIVER WITH PAGE;RIGHT HAND TELEPHONE RECEIVER"),
   (0x1F57E, "WHITE TOUCHTONE TELEPHONE;BLACK TOUCHTONE TELEPHONE;TELEPHONE ON TOP OF MODEM"),
   (0x1F581, "CLAMSHELL MOBILE PHONE;BACK OF ENVELOPE;STAMPED ENVELOPE;ENVELOPE WITH LIGHTNING"),
   (0x1F585, "FLYING ENVELOPE;PEN OVER STAMPED ENVELOPE;LINKED PAPERCLIPS;BLACK PUSHPIN"),
   (0x1F589, "LOWER LEFT PENCIL;LOWER LEFT BALLPOINT PEN;LOWER LEFT FOUNTAIN PEN"),
   (0x1F58C, "LOWER LEFT PAINTBRUSH;LOWER LEFT CRAYON;LEFT WRITING HAND;TURNED OK HAND SIGN"),
   (0x1F590, "RAISED HAND WITH FINGERS SPLAYED;REVERSED RAISED HAND WITH FINGERS SPLAYED"),
   (0x1F592, "REVERSED THUMBS UP SIGN;REVERSED THUMBS DOWN SIGN;REVERSED VICTORY HAND"),
   (0x1F595, "REVERSED HAND WITH MIDDLE FINGER EXTENDED"),
   (0x1F596, "RAISED HAND WITH PART BETWEEN MIDDLE AND RING FINGERS"),
   (0x1F597, "WHITE DOWN POINTING LEFT HAND INDEX;SIDEWAYS WHITE LEFT POINTING INDEX"),
   (0x1F599, "SIDEWAYS WHITE RIGHT POINTING INDEX;SIDEWAYS BLACK LEFT POINTING INDEX"),
   (0x1F59B, "SIDEWAYS BLACK RIGHT POINTING INDEX;BLACK LEFT POINTING BACKHAND INDEX"),
   (0x1F59D, "BLACK RIGHT POINTING BACKHAND INDEX;SIDEWAYS WHITE UP POINTING INDEX"),
   (0x1F59F, "SIDEWAYS WHITE DOWN POINTING INDEX;SIDEWAYS BLACK UP POINTING INDEX"),
   (0x1F5A1, "SIDEWAYS BLACK DOWN POINTING INDEX;BLACK UP POINTING BACKHAND INDEX"),
   (0x1F5A3, "BLACK DOWN POINTING BACKHAND INDEX;BLACK HEART;DESKTOP COMPUTER"),
   (0x1F5A6, "KEYBOARD AND MOUSE;THREE NETWORKED COMPUTERS;PRINTER;POCKET CALCULATOR"),
   (0x1F5AA, "BLACK HARD SHELL FLOPPY DISK;WHITE HARD SHELL FLOPPY DISK;SOFT SHELL FLOPPY DISK"),
   (0x1F5AD, "TAPE CARTRIDGE;WIRED KEYBOARD;ONE BUTTON MOUSE;TWO BUTTON MOUSE"),
   (0x1F5B1, "THREE BUTTON MOUSE;TRACKBALL;OLD PERSONAL COMPUTER;HARD DISK;SCREEN;PRINTER ICON"),
   (0x1F5B7, "FAX ICON;OPTICAL DISC ICON;DOCUMENT WITH TEXT;DOCUMENT WITH TEXT AND PICTURE"),
   (0x1F5BB, "DOCUMENT WITH PICTURE;FRAME WITH PICTURE;FRAME WITH TILES;FRAME WITH AN X"),
   (0x1F5BF, "BLACK FOLDER;FOLDER;OPEN FOLDER;CARD INDEX DIVIDERS;CARD FILE BOX;FILE CABINET"),
   (0x1F5C5, "EMPTY NOTE;EMPTY NOTE PAGE;EMPTY NOTE PAD;NOTE;NOTE PAGE;NOTE PAD;EMPTY DOCUMENT"),
   (0x1F5CC, "EMPTY PAGE;EMPTY PAGES;DOCUMENT;PAGE;PAGES;WASTEBASKET;SPIRAL NOTE PAD"),
   (0x1F5D3, "SPIRAL CALENDAR PAD;DESKTOP WINDOW;MINIMIZE;MAXIMIZE;OVERLAP"),
   (0x1F5D8, "CLOCKWISE RIGHT AND LEFT SEMICIRCLE ARROWS;CANCELLATION X"),
   (0x1F5DA, "INCREASE FONT SIZE SYMBOL;DECREASE FONT SIZE SYMBOL;COMPRESSION;OLD KEY"),
   (0x1F5DE, "ROLLED-UP NEWSPAPER;PAGE WITH CIRCLED TEXT;STOCK CHART;DAGGER KNIFE;LIPS"),
   (0x1F5E3, "SPEAKING HEAD IN SILHOUETTE;THREE RAYS ABOVE;THREE RAYS BELOW;THREE RAYS LEFT"),
   (0x1F5E7, "THREE RAYS RIGHT;LEFT SPEECH BUBBLE;RIGHT SPEECH BUBBLE;TWO SPEECH BUBBLES"),
   (0x1F5EB, "THREE SPEECH BUBBLES;LEFT THOUGHT BUBBLE;RIGHT THOUGHT BUBBLE;LEFT ANGER BUBBLE"),
   (0x1F5EF, "RIGHT ANGER BUBBLE;MOOD BUBBLE;LIGHTNING MOOD BUBBLE;LIGHTNING MOOD"),
   (0x1F5F3, "BALLOT BOX WITH BALLOT;BALLOT SCRIPT X;BALLOT BOX WITH SCRIPT X"),
   (0x1F5F6, "BALLOT BOLD SCRIPT X;BALLOT BOX WITH BOLD SCRIPT X;LIGHT CHECK MARK"),
   (0x1F5F9, "BALLOT BOX WITH BOLD CHECK;WORLD MAP;MOUNT FUJI;TOKYO TOWER;STATUE OF LIBERTY"),
   (0x1F5FE, "SILHOUETTE OF JAPAN;MOYAI"),
   (0x1F680, "ROCKET;HELICOPTER;STEAM LOCOMOTIVE;RAILWAY CAR;HIGH-SPEED TRAIN"),
   (0x1F685, "HIGH-SPEED TRAIN WITH BULLET NOSE;TRAIN;METRO;LIGHT RAIL;STATION;TRAM;TRAM CAR"),
   (0x1F68C, "BUS;ONCOMING BUS;TROLLEYBUS;BUS STOP;MINIBUS;AMBULANCE;FIRE ENGINE;POLICE CAR"),
   (0x1F694, "ONCOMING POLICE CAR;TAXI;ONCOMING TAXI;AUTOMOBILE;ONCOMING AUTOMOBILE"),
   (0x1F699, "RECREATIONAL VEHICLE;DELIVERY TRUCK;ARTICULATED LORRY;TRACTOR;MONORAIL"),
   (0x1F69E, "MOUNTAIN RAILWAY;SUSPENSION RAILWAY;MOUNTAIN CABLEWAY;AERIAL TRAMWAY;SHIP"),
   (0x1F6A3, "ROWBOAT;SPEEDBOAT;HORIZONTAL TRAFFIC LIGHT;VERTICAL TRAFFIC LIGHT"),
   (0x1F6A7, "CONSTRUCTION SIGN;POLICE CARS REVOLVING LIGHT;TRIANGULAR FLAG ON POST;DOOR"),
   (0x1F6AB, "NO ENTRY SIGN;SMOKING SYMBOL;NO SMOKING SYMBOL;PUT LITTER IN ITS PLACE SYMBOL"),
   (0x1F6AF, "DO NOT LITTER SYMBOL;POTABLE WATER SYMBOL;NON-POTABLE WATER SYMBOL;BICYCLE"),
   (0x1F6B3, "NO BICYCLES;BICYCLIST;MOUNTAIN BICYCLIST;PEDESTRIAN;NO PEDESTRIANS"),
   (0x1F6B8, "CHILDREN CROSSING;MENS SYMBOL;WOMENS SYMBOL;RESTROOM;BABY SYMBOL;TOILET"),
   (0x1F6BE, "WATER CLOSET;SHOWER;BATH;BATHTUB;PASSPORT CONTROL;CUSTOMS;BAGGAGE CLAIM"),
   (0x1F6C5, "LEFT LUGGAGE;TRIANGLE WITH ROUNDED CORNERS;PROHIBITED SIGN"),
   (0x1F6C8, "CIRCLED INFORMATION SOURCE;BOYS SYMBOL;GIRLS SYMBOL;COUCH AND LAMP"),
   (0x1F6CC, "SLEEPING ACCOMMODATION;SHOPPING BAGS;BELLHOP BELL;BED;PLACE OF WORSHIP"),
   (0x1F6D1, "OCTAGONAL SIGN;SHOPPING TROLLEY;STUPA;PAGODA;HINDU TEMPLE;HUT;ELEVATOR"),
   (0x1F6DD, "PLAYGROUND SLIDE;WHEEL;RING BUOY;HAMMER AND WRENCH;SHIELD;OIL DRUM;MOTORWAY"),
   (0x1F6E4, "RAILWAY TRACK;MOTOR BOAT;UP-POINTING MILITARY AIRPLANE;UP-POINTING AIRPLANE"),
   (0x1F6E8, "UP-POINTING SMALL AIRPLANE;SMALL AIRPLANE;NORTHEAST-POINTING AIRPLANE"),
   (0x1F6EB, "AIRPLANE DEPARTURE;AIRPLANE ARRIVING"),
   (0x1F6F0, "SATELLITE;ONCOMING FIRE ENGINE;DIESEL LOCOMOTIVE;PASSENGER SHIP;SCOOTER"),
   (0x1F6F5, "MOTOR SCOOTER;CANOE;SLED;FLYING SAUCER;SKATEBOARD;AUTO RICKSHAW;PICKUP TRUCK"),
   (0x1F6FC, "ROLLER SKATE"),
   (0x1F900, "CIRCLED CROSS FORMEE WITH FOUR DOTS;CIRCLED CROSS FORMEE WITH TWO DOTS"),
   (0x1F902, "CIRCLED CROSS FORMEE;LEFT HALF CIRCLE WITH FOUR DOTS"),
   (0x1F904, "LEFT HALF CIRCLE WITH THREE DOTS;LEFT HALF CIRCLE WITH TWO DOTS"),
   (0x1F906, "LEFT HALF CIRCLE WITH DOT;LEFT HALF CIRCLE;DOWNWARD FACING HOOK"),
   (0x1F909, "DOWNWARD FACING NOTCHED HOOK;DOWNWARD FACING HOOK WITH DOT"),
   (0x1F90B, "DOWNWARD FACING NOTCHED HOOK WITH DOT;PINCHED FINGERS;WHITE HEART;BROWN HEART"),
   (0x1F90F, "PINCHING HAND;ZIPPER-MOUTH FACE;MONEY-MOUTH FACE;FACE WITH THERMOMETER;NERD FACE"),
   (0x1F914, "THINKING FACE;FACE WITH HEAD-BANDAGE;ROBOT FACE;HUGGING FACE;SIGN OF THE HORNS"),
   (0x1F919, "CALL ME HAND;RAISED BACK OF HAND;LEFT-FACING FIST;RIGHT-FACING FIST;HANDSHAKE"),
   (0x1F91E, "HAND WITH INDEX AND MIDDLE FINGERS CROSSED;I LOVE YOU HAND SIGN"),
   (0x1F920, "FACE WITH COWBOY HAT;CLOWN FACE;NAUSEATED FACE;ROLLING ON THE FLOOR LAUGHING"),
   (0x1F924, "DROOLING FACE;LYING FACE;FACE PALM;SNEEZING FACE;FACE WITH ONE EYEBROW RAISED"),
   (0x1F929, "GRINNING FACE WITH STAR EYES;GRINNING FACE WITH ONE LARGE AND ONE SMALL EYE"),
   (0x1F92B, "FACE WITH FINGER COVERING CLOSED LIPS;SERIOUS FACE WITH SYMBOLS COVERING MOUTH"),
   (0x1F92D, "SMILING FACE WITH SMILING EYES AND HAND COVERING MOUTH"),
   (0x1F92E, "FACE WITH OPEN MOUTH VOMITING;SHOCKED FACE WITH EXPLODING HEAD;PREGNANT WOMAN"),
   (0x1F931, "BREAST-FEEDING;PALMS UP TOGETHER;SELFIE;PRINCE;MAN IN TUXEDO;MOTHER CHRISTMAS"),
   (0x1F937, "SHRUG;PERSON DOING CARTWHEEL;JUGGLING;FENCER;MODERN PENTATHLON;WRESTLERS"),
   (0x1F93D, "WATER POLO;HANDBALL;DIVING MASK;WILTED FLOWER;DRUM WITH DRUMSTICKS"),
   (0x1F942, "CLINKING GLASSES;TUMBLER GLASS;SPOON;GOAL NET;RIFLE;FIRST PLACE MEDAL"),
   (0x1F948, "SECOND PLACE MEDAL;THIRD PLACE MEDAL;BOXING GLOVE;MARTIAL ARTS UNIFORM"),
   (0x1F94C, "CURLING STONE;LACROSSE STICK AND BALL;SOFTBALL;FLYING DISC;CROISSANT;AVOCADO"),
   (0x1F952, "CUCUMBER;BACON;POTATO;CARROT;BAGUETTE BREAD;GREEN SALAD;SHALLOW PAN OF FOOD"),
   (0x1F959, "STUFFED FLATBREAD;EGG;GLASS OF MILK;PEANUTS;KIWIFRUIT;PANCAKES;DUMPLING"),
   (0x1F960, "FORTUNE COOKIE;TAKEOUT BOX;CHOPSTICKS;BOWL WITH SPOON;CUP WITH STRAW;COCONUT"),
   (0x1F966, "BROCCOLI;PIE;PRETZEL;CUT OF MEAT;SANDWICH;CANNED FOOD;LEAFY GREEN;MANGO"),
   (0x1F96E, "MOON CAKE;BAGEL;SMILING FACE WITH SMILING EYES AND THREE HEARTS;YAWNING FACE"),
   (0x1F972, "SMILING FACE WITH TEAR;FACE WITH PARTY HORN AND PARTY HAT"),
   (0x1F974, "FACE WITH UNEVEN EYES AND WAVY MOUTH;OVERHEATED FACE;FREEZING FACE;NINJA"),
   (0x1F978, "DISGUISED FACE;FACE HOLDING BACK TEARS;FACE WITH PLEADING EYES;SARI;LAB COAT"),
   (0x1F97D, "GOGGLES;HIKING BOOT;FLAT SHOE;CRAB;LION FACE;SCORPION;TURKEY;UNICORN FACE;EAGLE"),
   (0x1F986, "DUCK;BAT;SHARK;OWL;FOX FACE;BUTTERFLY;DEER;GORILLA;LIZARD;RHINOCEROS;SHRIMP"),
   (0x1F991, "SQUID;GIRAFFE FACE;ZEBRA FACE;HEDGEHOG;SAUROPOD;T-REX;CRICKET;KANGAROO;LLAMA"),
   (0x1F99A, "PEACOCK;HIPPOPOTAMUS;PARROT;RACCOON;LOBSTER;MOSQUITO;MICROBE;BADGER;SWAN;MAMMOTH"),
   (0x1F9A4, "DODO;SLOTH;OTTER;ORANGUTAN;SKUNK;FLAMINGO;OYSTER;BEAVER;BISON;SEAL;GUIDE DOG"),
   (0x1F9AF, "PROBING CANE;EMOJI COMPONENT RED HAIR;EMOJI COMPONENT CURLY HAIR"),
   (0x1F9B2, "EMOJI COMPONENT BALD;EMOJI COMPONENT WHITE HAIR;BONE;LEG;FOOT;TOOTH;SUPERHERO"),
   (0x1F9B9, "SUPERVILLAIN;SAFETY VEST;EAR WITH HEARING AID;MOTORIZED WHEELCHAIR"),
   (0x1F9BD, "MANUAL WHEELCHAIR;MECHANICAL ARM;MECHANICAL LEG;CHEESE WEDGE;CUPCAKE;SALT SHAKER"),
   (0x1F9C3, "BEVERAGE BOX;GARLIC;ONION;FALAFEL;WAFFLE;BUTTER;MATE DRINK;ICE CUBE;BUBBLE TEA"),
   (0x1F9CC, "TROLL;STANDING PERSON;KNEELING PERSON;DEAF PERSON;FACE WITH MONOCLE;ADULT;CHILD"),
   (0x1F9D3, "OLDER ADULT;BEARDED PERSON;PERSON WITH HEADSCARF;PERSON IN STEAMY ROOM"),
   (0x1F9D7, "PERSON CLIMBING;PERSON IN LOTUS POSITION;MAGE;FAIRY;VAMPIRE;MERPERSON;ELF;GENIE"),
   (0x1F9DF, "ZOMBIE;BRAIN;ORANGE HEART;BILLED CAP;SCARF;GLOVES;COAT;SOCKS;RED GIFT ENVELOPE"),
   (0x1F9E8, "FIRECRACKER;JIGSAW PUZZLE PIECE;TEST TUBE;PETRI DISH;DNA DOUBLE HELIX;COMPASS"),
   (0x1F9EE, "ABACUS;FIRE EXTINGUISHER;TOOLBOX;BRICK;MAGNET;LUGGAGE;LOTION BOTTLE"),
   (0x1F9F5, "SPOOL OF THREAD;BALL OF YARN;SAFETY PIN;TEDDY BEAR;BROOM;BASKET;ROLL OF PAPER"),
   (0x1F9FC, "BAR OF SOAP;SPONGE;RECEIPT;NAZAR AMULET"),
   (0x1FA70, "BALLET SHOES;ONE-PIECE SWIMSUIT;BRIEFS;SHORTS;THONG SANDAL"),
   (0x1FA78, "DROP OF BLOOD;ADHESIVE BANDAGE;STETHOSCOPE;X-RAY;CRUTCH"),
   (0x1FA80, "YO-YO;KITE;PARACHUTE;BOOMERANG;MAGIC WAND;PINATA;NESTING DOLLS"),
   (0x1FA90, "RINGED PLANET;CHAIR;RAZOR;AXE;DIYA LAMP;BANJO;MILITARY HELMET;ACCORDION"),
   (0x1FA98, "LONG DRUM;COIN;CARPENTRY SAW;SCREWDRIVER;LADDER;HOOK;MIRROR;WINDOW;PLUNGER"),
   (0x1FAA1, "SEWING NEEDLE;KNOT;BUCKET;MOUSE TRAP;TOOTHBRUSH;HEADSTONE;PLACARD;ROCK"),
   (0x1FAA9, "MIRROR BALL;IDENTIFICATION CARD;LOW BATTERY;HAMSA"),
   (0x1FAB0, "FLY;WORM;BEETLE;COCKROACH;POTTED PLANT;WOOD;FEATHER;LOTUS;CORAL;EMPTY NEST"),
   (0x1FABA, "NEST WITH EGGS"),
   (0x1FAC0, "ANATOMICAL HEART;LUNGS;PEOPLE HUGGING;PREGNANT MAN;PREGNANT PERSON"),
   (0x1FAC5, "PERSON WITH CROWN"),
   (0x1FAD0, "BLUEBERRIES;BELL PEPPER;OLIVE;FLATBREAD;TAMALE;FONDUE;TEAPOT;POURING LIQUID"),
   (0x1FAD8, "BEANS;JAR"),
   (0x1FAE0, "MELTING FACE;SALUTING FACE;FACE WITH OPEN EYES AND HAND OVER MOUTH"),
   (0x1FAE3, "FACE WITH PEEKING EYE;FACE WITH DIAGONAL MOUTH;DOTTED LINE FACE;BITING LIP"),
   (0x1FAE7, "BUBBLES"),
   (0x1FAF0, "HAND WITH INDEX FINGER AND THUMB CROSSED;RIGHTWARDS HAND;LEFTWARDS HAND"),
   (0x1FAF3, "PALM DOWN HAND;PALM UP HAND;INDEX POINTING AT THE VIEWER;HEART HANDS")]

end HttpInterface.Text
