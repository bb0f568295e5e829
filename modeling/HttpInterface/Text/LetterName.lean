/-!
# `HttpInterface.Text.LetterName`: the names of further letters and marks

Rows of names for letters with marks, for marks that combine with letters, and for letters
of further scripts. Every row holds the names of characters one behind the other.
-/

set_option autoImplicit false

namespace HttpInterface.Text

/-- Names of letters in a row, each row with the code point of its first one. -/
def letterRows : List (Nat × String) :=
  [(0x180, "LATIN SMALL LETTER B WITH STROKE;LATIN CAPITAL LETTER B WITH HOOK"),
   (0x182, "LATIN CAPITAL LETTER B WITH TOPBAR;LATIN SMALL LETTER B WITH TOPBAR"),
   (0x184, "LATIN CAPITAL LETTER TONE SIX;LATIN SMALL LETTER TONE SIX"),
   (0x186, "LATIN CAPITAL LETTER OPEN O;LATIN CAPITAL LETTER C WITH HOOK"),
   (0x188, "LATIN SMALL LETTER C WITH HOOK;LATIN CAPITAL LETTER AFRICAN D"),
   (0x18A, "LATIN CAPITAL LETTER D WITH HOOK;LATIN CAPITAL LETTER D WITH TOPBAR"),
   (0x18C, "LATIN SMALL LETTER D WITH TOPBAR;LATIN SMALL LETTER TURNED DELTA"),
   (0x18E, "LATIN CAPITAL LETTER REVERSED E;LATIN CAPITAL LETTER SCHWA"),
   (0x190, "LATIN CAPITAL LETTER OPEN E;LATIN CAPITAL LETTER F WITH HOOK"),
   (0x192, "LATIN SMALL LETTER F WITH HOOK;LATIN CAPITAL LETTER G WITH HOOK"),
   (0x194, "LATIN CAPITAL LETTER GAMMA;LATIN SMALL LETTER HV;LATIN CAPITAL LETTER IOTA"),
   (0x197, "LATIN CAPITAL LETTER I WITH STROKE;LATIN CAPITAL LETTER K WITH HOOK"),
   (0x199, "LATIN SMALL LETTER K WITH HOOK;LATIN SMALL LETTER L WITH BAR"),
   (0x19B, "LATIN SMALL LETTER LAMBDA WITH STROKE;LATIN CAPITAL LETTER TURNED M"),
   (0x19D, "LATIN CAPITAL LETTER N WITH LEFT HOOK;LATIN SMALL LETTER N WITH LONG RIGHT LEG"),
   (0x19F, "LATIN CAPITAL LETTER O WITH MIDDLE TILDE;LATIN CAPITAL LETTER O WITH HORN"),
   (0x1A1, "LATIN SMALL LETTER O WITH HORN;LATIN CAPITAL LETTER OI;LATIN SMALL LETTER OI"),
   (0x1A4, "LATIN CAPITAL LETTER P WITH HOOK;LATIN SMALL LETTER P WITH HOOK;LATIN LETTER YR"),
   (0x1A7, "LATIN CAPITAL LETTER TONE TWO;LATIN SMALL LETTER TONE TWO;LATIN CAPITAL LETTER ESH"),
   (0x1AA, "LATIN LETTER REVERSED ESH LOOP;LATIN SMALL LETTER T WITH PALATAL HOOK"),
   (0x1AC, "LATIN CAPITAL LETTER T WITH HOOK;LATIN SMALL LETTER T WITH HOOK"),
   (0x1AE, "LATIN CAPITAL LETTER T WITH RETROFLEX HOOK;LATIN CAPITAL LETTER U WITH HORN"),
   (0x1B0, "LATIN SMALL LETTER U WITH HORN;LATIN CAPITAL LETTER UPSILON"),
   (0x1B2, "LATIN CAPITAL LETTER V WITH HOOK;LATIN CAPITAL LETTER Y WITH HOOK"),
   (0x1B4, "LATIN SMALL LETTER Y WITH HOOK;LATIN CAPITAL LETTER Z WITH STROKE"),
   (0x1B6, "LATIN SMALL LETTER Z WITH STROKE;LATIN CAPITAL LETTER EZH"),
   (0x1B8, "LATIN CAPITAL LETTER EZH REVERSED;LATIN SMALL LETTER EZH REVERSED"),
   (0x1BA, "LATIN SMALL LETTER EZH WITH TAIL;LATIN LETTER TWO WITH STROKE"),
   (0x1BC, "LATIN CAPITAL LETTER TONE FIVE;LATIN SMALL LETTER TONE FIVE"),
   (0x1BE, "LATIN LETTER INVERTED GLOTTAL STOP WITH STROKE;LATIN LETTER WYNN"),
   (0x1C0, "LATIN LETTER DENTAL CLICK;LATIN LETTER LATERAL CLICK;LATIN LETTER ALVEOLAR CLICK"),
   (0x1C3, "LATIN LETTER RETROFLEX CLICK;LATIN CAPITAL LETTER DZ WITH CARON"),
   (0x1C5, "LATIN CAPITAL LETTER D WITH SMALL LETTER Z WITH CARON"),
   (0x1C6, "LATIN SMALL LETTER DZ WITH CARON;LATIN CAPITAL LETTER LJ"),
   (0x1C8, "LATIN CAPITAL LETTER L WITH SMALL LETTER J;LATIN SMALL LETTER LJ"),
   (0x1CA, "LATIN CAPITAL LETTER NJ;LATIN CAPITAL LETTER N WITH SMALL LETTER J"),
   (0x1CC, "LATIN SMALL LETTER NJ;LATIN CAPITAL LETTER A WITH CARON"),
   (0x1CE, "LATIN SMALL LETTER A WITH CARON;LATIN CAPITAL LETTER I WITH CARON"),
   (0x1D0, "LATIN SMALL LETTER I WITH CARON;LATIN CAPITAL LETTER O WITH CARON"),
   (0x1D2, "LATIN SMALL LETTER O WITH CARON;LATIN CAPITAL LETTER U WITH CARON"),
   (0x1D4, "LATIN SMALL LETTER U WITH CARON;LATIN CAPITAL LETTER U WITH DIAERESIS AND MACRON"),
   (0x1D6, "LATIN SMALL LETTER U WITH DIAERESIS AND MACRON"),
   (0x1D7, "LATIN CAPITAL LETTER U WITH DIAERESIS AND ACUTE"),
   (0x1D8, "LATIN SMALL LETTER U WITH DIAERESIS AND ACUTE"),
   (0x1D9, "LATIN CAPITAL LETTER U WITH DIAERESIS AND CARON"),
   (0x1DA, "LATIN SMALL LETTER U WITH DIAERESIS AND CARON"),
   (0x1DB, "LATIN CAPITAL LETTER U WITH DIAERESIS AND GRAVE"),
   (0x1DC, "LATIN SMALL LETTER U WITH DIAERESIS AND GRAVE;LATIN SMALL LETTER TURNED E"),
   (0x1DE, "LATIN CAPITAL LETTER A WITH DIAERESIS AND MACRON"),
   (0x1DF, "LATIN SMALL LETTER A WITH DIAERESIS AND MACRON"),
   (0x1E0, "LATIN CAPITAL LETTER A WITH DOT ABOVE AND MACRON"),
   (0x1E1, "LATIN SMALL LETTER A WITH DOT ABOVE AND MACRON;LATIN CAPITAL LETTER AE WITH MACRON"),
   (0x1E3, "LATIN SMALL LETTER AE WITH MACRON;LATIN CAPITAL LETTER G WITH STROKE"),
   (0x1E5, "LATIN SMALL LETTER G WITH STROKE;LATIN CAPITAL LETTER G WITH CARON"),
   (0x1E7, "LATIN SMALL LETTER G WITH CARON;LATIN CAPITAL LETTER K WITH CARON"),
   (0x1E9, "LATIN SMALL LETTER K WITH CARON;LATIN CAPITAL LETTER O WITH OGONEK"),
   (0x1EB, "LATIN SMALL LETTER O WITH OGONEK;LATIN CAPITAL LETTER O WITH OGONEK AND MACRON"),
   (0x1ED, "LATIN SMALL LETTER O WITH OGONEK AND MACRON;LATIN CAPITAL LETTER EZH WITH CARON"),
   (0x1EF, "LATIN SMALL LETTER EZH WITH CARON;LATIN SMALL LETTER J WITH CARON"),
   (0x1F1, "LATIN CAPITAL LETTER DZ;LATIN CAPITAL LETTER D WITH SMALL LETTER Z"),
   (0x1F3, "LATIN SMALL LETTER DZ;LATIN CAPITAL LETTER G WITH ACUTE"),
   (0x1F5, "LATIN SMALL LETTER G WITH ACUTE;LATIN CAPITAL LETTER HWAIR"),
   (0x1F7, "LATIN CAPITAL LETTER WYNN;LATIN CAPITAL LETTER N WITH GRAVE"),
   (0x1F9, "LATIN SMALL LETTER N WITH GRAVE;LATIN CAPITAL LETTER A WITH RING ABOVE AND ACUTE"),
   (0x1FB, "LATIN SMALL LETTER A WITH RING ABOVE AND ACUTE;LATIN CAPITAL LETTER AE WITH ACUTE"),
   (0x1FD, "LATIN SMALL LETTER AE WITH ACUTE;LATIN CAPITAL LETTER O WITH STROKE AND ACUTE"),
   (0x1FF, "LATIN SMALL LETTER O WITH STROKE AND ACUTE"),
   (0x200, "LATIN CAPITAL LETTER A WITH DOUBLE GRAVE;LATIN SMALL LETTER A WITH DOUBLE GRAVE"),
   (0x202, "LATIN CAPITAL LETTER A WITH INVERTED BREVE"),
   (0x203, "LATIN SMALL LETTER A WITH INVERTED BREVE;LATIN CAPITAL LETTER E WITH DOUBLE GRAVE"),
   (0x205, "LATIN SMALL LETTER E WITH DOUBLE GRAVE;LATIN CAPITAL LETTER E WITH INVERTED BREVE"),
   (0x207, "LATIN SMALL LETTER E WITH INVERTED BREVE;LATIN CAPITAL LETTER I WITH DOUBLE GRAVE"),
   (0x209, "LATIN SMALL LETTER I WITH DOUBLE GRAVE;LATIN CAPITAL LETTER I WITH INVERTED BREVE"),
   (0x20B, "LATIN SMALL LETTER I WITH INVERTED BREVE;LATIN CAPITAL LETTER O WITH DOUBLE GRAVE"),
   (0x20D, "LATIN SMALL LETTER O WITH DOUBLE GRAVE;LATIN CAPITAL LETTER O WITH INVERTED BREVE"),
   (0x20F, "LATIN SMALL LETTER O WITH INVERTED BREVE;LATIN CAPITAL LETTER R WITH DOUBLE GRAVE"),
   (0x211, "LATIN SMALL LETTER R WITH DOUBLE GRAVE;LATIN CAPITAL LETTER R WITH INVERTED BREVE"),
   (0x213, "LATIN SMALL LETTER R WITH INVERTED BREVE;LATIN CAPITAL LETTER U WITH DOUBLE GRAVE"),
   (0x215, "LATIN SMALL LETTER U WITH DOUBLE GRAVE;LATIN CAPITAL LETTER U WITH INVERTED BREVE"),
   (0x217, "LATIN SMALL LETTER U WITH INVERTED BREVE;LATIN CAPITAL LETTER S WITH COMMA BELOW"),
   (0x219, "LATIN SMALL LETTER S WITH COMMA BELOW;LATIN CAPITAL LETTER T WITH COMMA BELOW"),
   (0x21B, "LATIN SMALL LETTER T WITH COMMA BELOW;LATIN CAPITAL LETTER YOGH"),
   (0x21D, "LATIN SMALL LETTER YOGH;LATIN CAPITAL LETTER H WITH CARON"),
   (0x21F, "LATIN SMALL LETTER H WITH CARON;LATIN CAPITAL LETTER N WITH LONG RIGHT LEG"),
   (0x221, "LATIN SMALL LETTER D WITH CURL;LATIN CAPITAL LETTER OU;LATIN SMALL LETTER OU"),
   (0x224, "LATIN CAPITAL LETTER Z WITH HOOK;LATIN SMALL LETTER Z WITH HOOK"),
   (0x226, "LATIN CAPITAL LETTER A WITH DOT ABOVE;LATIN SMALL LETTER A WITH DOT ABOVE"),
   (0x228, "LATIN CAPITAL LETTER E WITH CEDILLA;LATIN SMALL LETTER E WITH CEDILLA"),
   (0x22A, "LATIN CAPITAL LETTER O WITH DIAERESIS AND MACRON"),
   (0x22B, "LATIN SMALL LETTER O WITH DIAERESIS AND MACRON"),
   (0x22C, "LATIN CAPITAL LETTER O WITH TILDE AND MACRON"),
   (0x22D, "LATIN SMALL LETTER O WITH TILDE AND MACRON;LATIN CAPITAL LETTER O WITH DOT ABOVE"),
   (0x22F, "LATIN SMALL LETTER O WITH DOT ABOVE"),
   (0x230, "LATIN CAPITAL LETTER O WITH DOT ABOVE AND MACRON"),
   (0x231, "LATIN SMALL LETTER O WITH DOT ABOVE AND MACRON;LATIN CAPITAL LETTER Y WITH MACRON"),
   (0x233, "LATIN SMALL LETTER Y WITH MACRON;LATIN SMALL LETTER L WITH CURL"),
   (0x235, "LATIN SMALL LETTER N WITH CURL;LATIN SMALL LETTER T WITH CURL"),
   (0x237, "LATIN SMALL LETTER DOTLESS J;LATIN SMALL LETTER DB DIGRAPH"),
   (0x239, "LATIN SMALL LETTER QP DIGRAPH;LATIN CAPITAL LETTER A WITH STROKE"),
   (0x23B, "LATIN CAPITAL LETTER C WITH STROKE;LATIN SMALL LETTER C WITH STROKE"),
   (0x23D, "LATIN CAPITAL LETTER L WITH BAR;LATIN CAPITAL LETTER T WITH DIAGONAL STROKE"),
   (0x23F, "LATIN SMALL LETTER S WITH SWASH TAIL;LATIN SMALL LETTER Z WITH SWASH TAIL"),
   (0x241, "LATIN CAPITAL LETTER GLOTTAL STOP;LATIN SMALL LETTER GLOTTAL STOP"),
   (0x243, "LATIN CAPITAL LETTER B WITH STROKE;LATIN CAPITAL LETTER U BAR"),
   (0x245, "LATIN CAPITAL LETTER TURNED V;LATIN CAPITAL LETTER E WITH STROKE"),
   (0x247, "LATIN SMALL LETTER E WITH STROKE;LATIN CAPITAL LETTER J WITH STROKE"),
   (0x249, "LATIN SMALL LETTER J WITH STROKE;LATIN CAPITAL LETTER SMALL Q WITH HOOK TAIL"),
   (0x24B, "LATIN SMALL LETTER Q WITH HOOK TAIL;LATIN CAPITAL LETTER R WITH STROKE"),
   (0x24D, "LATIN SMALL LETTER R WITH STROKE;LATIN CAPITAL LETTER Y WITH STROKE"),
   (0x24F, "LATIN SMALL LETTER Y WITH STROKE"),
   (0x250, "LATIN SMALL LETTER TURNED A;LATIN SMALL LETTER ALPHA"),
   (0x252, "LATIN SMALL LETTER TURNED ALPHA;LATIN SMALL LETTER B WITH HOOK"),
   (0x254, "LATIN SMALL LETTER OPEN O;LATIN SMALL LETTER C WITH CURL"),
   (0x256, "LATIN SMALL LETTER D WITH TAIL;LATIN SMALL LETTER D WITH HOOK"),
   (0x258, "LATIN SMALL LETTER REVERSED E;LATIN SMALL LETTER SCHWA"),
   (0x25A, "LATIN SMALL LETTER SCHWA WITH HOOK;LATIN SMALL LETTER OPEN E"),
   (0x25C, "LATIN SMALL LETTER REVERSED OPEN E;LATIN SMALL LETTER REVERSED OPEN E WITH HOOK"),
   (0x25E, "LATIN SMALL LETTER CLOSED REVERSED OPEN E;LATIN SMALL LETTER DOTLESS J WITH STROKE"),
   (0x260, "LATIN SMALL LETTER G WITH HOOK;LATIN SMALL LETTER SCRIPT G"),
   (0x262, "LATIN LETTER SMALL CAPITAL G;LATIN SMALL LETTER GAMMA;LATIN SMALL LETTER RAMS HORN"),
   (0x265, "LATIN SMALL LETTER TURNED H;LATIN SMALL LETTER H WITH HOOK"),
   (0x267, "LATIN SMALL LETTER HENG WITH HOOK;LATIN SMALL LETTER I WITH STROKE"),
   (0x269, "LATIN SMALL LETTER IOTA;LATIN LETTER SMALL CAPITAL I"),
   (0x26B, "LATIN SMALL LETTER L WITH MIDDLE TILDE;LATIN SMALL LETTER L WITH BELT"),
   (0x26D, "LATIN SMALL LETTER L WITH RETROFLEX HOOK;LATIN SMALL LETTER LEZH"),
   (0x26F, "LATIN SMALL LETTER TURNED M;LATIN SMALL LETTER TURNED M WITH LONG LEG"),
   (0x271, "LATIN SMALL LETTER M WITH HOOK;LATIN SMALL LETTER N WITH LEFT HOOK"),
   (0x273, "LATIN SMALL LETTER N WITH RETROFLEX HOOK;LATIN LETTER SMALL CAPITAL N"),
   (0x275, "LATIN SMALL LETTER BARRED O;LATIN LETTER SMALL CAPITAL OE"),
   (0x277, "LATIN SMALL LETTER CLOSED OMEGA;LATIN SMALL LETTER PHI;LATIN SMALL LETTER TURNED R"),
   (0x27A, "LATIN SMALL LETTER TURNED R WITH LONG LEG;LATIN SMALL LETTER TURNED R WITH HOOK"),
   (0x27C, "LATIN SMALL LETTER R WITH LONG LEG;LATIN SMALL LETTER R WITH TAIL"),
   (0x27E, "LATIN SMALL LETTER R WITH FISHHOOK;LATIN SMALL LETTER REVERSED R WITH FISHHOOK"),
   (0x280, "LATIN LETTER SMALL CAPITAL R;LATIN LETTER SMALL CAPITAL INVERTED R"),
   (0x282, "LATIN SMALL LETTER S WITH HOOK;LATIN SMALL LETTER ESH"),
   (0x284, "LATIN SMALL LETTER DOTLESS J WITH STROKE AND HOOK"),
   (0x285, "LATIN SMALL LETTER SQUAT REVERSED ESH;LATIN SMALL LETTER ESH WITH CURL"),
   (0x287, "LATIN SMALL LETTER TURNED T;LATIN SMALL LETTER T WITH RETROFLEX HOOK"),
   (0x289, "LATIN SMALL LETTER U BAR;LATIN SMALL LETTER UPSILON;LATIN SMALL LETTER V WITH HOOK"),
   (0x28C, "LATIN SMALL LETTER TURNED V;LATIN SMALL LETTER TURNED W"),
   (0x28E, "LATIN SMALL LETTER TURNED Y;LATIN LETTER SMALL CAPITAL Y"),
   (0x290, "LATIN SMALL LETTER Z WITH RETROFLEX HOOK;LATIN SMALL LETTER Z WITH CURL"),
   (0x292, "LATIN SMALL LETTER EZH;LATIN SMALL LETTER EZH WITH CURL;LATIN LETTER GLOTTAL STOP"),
   (0x295, "LATIN LETTER PHARYNGEAL VOICED FRICATIVE;LATIN LETTER INVERTED GLOTTAL STOP"),
   (0x297, "LATIN LETTER STRETCHED C;LATIN LETTER BILABIAL CLICK;LATIN LETTER SMALL CAPITAL B"),
   (0x29A, "LATIN SMALL LETTER CLOSED OPEN E;LATIN LETTER SMALL CAPITAL G WITH HOOK"),
   (0x29C, "LATIN LETTER SMALL CAPITAL H;LATIN SMALL LETTER J WITH CROSSED-TAIL"),
   (0x29E, "LATIN SMALL LETTER TURNED K;LATIN LETTER SMALL CAPITAL L"),
   (0x2A0, "LATIN SMALL LETTER Q WITH HOOK;LATIN LETTER GLOTTAL STOP WITH STROKE"),
   (0x2A2, "LATIN LETTER REVERSED GLOTTAL STOP WITH STROKE;LATIN SMALL LETTER DZ DIGRAPH"),
   (0x2A4, "LATIN SMALL LETTER DEZH DIGRAPH;LATIN SMALL LETTER DZ DIGRAPH WITH CURL"),
   (0x2A6, "LATIN SMALL LETTER TS DIGRAPH;LATIN SMALL LETTER TESH DIGRAPH"),
   (0x2A8, "LATIN SMALL LETTER TC DIGRAPH WITH CURL;LATIN SMALL LETTER FENG DIGRAPH"),
   (0x2AA, "LATIN SMALL LETTER LS DIGRAPH;LATIN SMALL LETTER LZ DIGRAPH"),
   (0x2AC, "LATIN LETTER BILABIAL PERCUSSIVE;LATIN LETTER BIDENTAL PERCUSSIVE"),
   (0x2AE, "LATIN SMALL LETTER TURNED H WITH FISHHOOK"),
   (0x2AF, "LATIN SMALL LETTER TURNED H WITH FISHHOOK AND TAIL;MODIFIER LETTER SMALL H"),
   (0x2B1, "MODIFIER LETTER SMALL H WITH HOOK;MODIFIER LETTER SMALL J;MODIFIER LETTER SMALL R"),
   (0x2B4, "MODIFIER LETTER SMALL TURNED R;MODIFIER LETTER SMALL TURNED R WITH HOOK"),
   (0x2B6, "MODIFIER LETTER SMALL CAPITAL INVERTED R;MODIFIER LETTER SMALL W"),
   (0x2B8, "MODIFIER LETTER SMALL Y;MODIFIER LETTER PRIME;MODIFIER LETTER DOUBLE PRIME"),
   (0x2BB, "MODIFIER LETTER TURNED COMMA;MODIFIER LETTER APOSTROPHE"),
   (0x2BD, "MODIFIER LETTER REVERSED COMMA;MODIFIER LETTER RIGHT HALF RING"),
   (0x2BF, "MODIFIER LETTER LEFT HALF RING;MODIFIER LETTER GLOTTAL STOP"),
   (0x2C1, "MODIFIER LETTER REVERSED GLOTTAL STOP;MODIFIER LETTER LEFT ARROWHEAD"),
   (0x2C3, "MODIFIER LETTER RIGHT ARROWHEAD;MODIFIER LETTER UP ARROWHEAD"),
   (0x2C5, "MODIFIER LETTER DOWN ARROWHEAD;MODIFIER LETTER CIRCUMFLEX ACCENT;CARON"),
   (0x2C8, "MODIFIER LETTER VERTICAL LINE;MODIFIER LETTER MACRON;MODIFIER LETTER ACUTE ACCENT"),
   (0x2CB, "MODIFIER LETTER GRAVE ACCENT;MODIFIER LETTER LOW VERTICAL LINE"),
   (0x2CD, "MODIFIER LETTER LOW MACRON;MODIFIER LETTER LOW GRAVE ACCENT"),
   (0x2CF, "MODIFIER LETTER LOW ACUTE ACCENT;MODIFIER LETTER TRIANGULAR COLON"),
   (0x2D1, "MODIFIER LETTER HALF TRIANGULAR COLON;MODIFIER LETTER CENTRED RIGHT HALF RING"),
   (0x2D3, "MODIFIER LETTER CENTRED LEFT HALF RING;MODIFIER LETTER UP TACK"),
   (0x2D5, "MODIFIER LETTER DOWN TACK;MODIFIER LETTER PLUS SIGN;MODIFIER LETTER MINUS SIGN"),
   (0x2D8, "BREVE;DOT ABOVE;RING ABOVE;OGONEK;SMALL TILDE;DOUBLE ACUTE ACCENT"),
   (0x2DE, "MODIFIER LETTER RHOTIC HOOK;MODIFIER LETTER CROSS ACCENT"),
   (0x2E0, "MODIFIER LETTER SMALL GAMMA;MODIFIER LETTER SMALL L;MODIFIER LETTER SMALL S"),
   (0x2E3, "MODIFIER LETTER SMALL X;MODIFIER LETTER SMALL REVERSED GLOTTAL STOP"),
   (0x2E5, "MODIFIER LETTER EXTRA-HIGH TONE BAR;MODIFIER LETTER HIGH TONE BAR"),
   (0x2E7, "MODIFIER LETTER MID TONE BAR;MODIFIER LETTER LOW TONE BAR"),
   (0x2E9, "MODIFIER LETTER EXTRA-LOW TONE BAR;MODIFIER LETTER YIN DEPARTING TONE MARK"),
   (0x2EB, "MODIFIER LETTER YANG DEPARTING TONE MARK;MODIFIER LETTER VOICING"),
   (0x2ED, "MODIFIER LETTER UNASPIRATED;MODIFIER LETTER DOUBLE APOSTROPHE"),
   (0x2EF, "MODIFIER LETTER LOW DOWN ARROWHEAD;MODIFIER LETTER LOW UP ARROWHEAD"),
   (0x2F1, "MODIFIER LETTER LOW LEFT ARROWHEAD;MODIFIER LETTER LOW RIGHT ARROWHEAD"),
   (0x2F3, "MODIFIER LETTER LOW RING;MODIFIER LETTER MIDDLE GRAVE ACCENT"),
   (0x2F5, "MODIFIER LETTER MIDDLE DOUBLE GRAVE ACCENT"),
   (0x2F6, "MODIFIER LETTER MIDDLE DOUBLE ACUTE ACCENT;MODIFIER LETTER LOW TILDE"),
   (0x2F8, "MODIFIER LETTER RAISED COLON;MODIFIER LETTER BEGIN HIGH TONE"),
   (0x2FA, "MODIFIER LETTER END HIGH TONE;MODIFIER LETTER BEGIN LOW TONE"),
   (0x2FC, "MODIFIER LETTER END LOW TONE;MODIFIER LETTER SHELF;MODIFIER LETTER OPEN SHELF"),
   (0x2FF, "MODIFIER LETTER LOW LEFT ARROW;COMBINING GRAVE ACCENT;COMBINING ACUTE ACCENT"),
   (0x302, "COMBINING CIRCUMFLEX ACCENT;COMBINING TILDE;COMBINING MACRON;COMBINING OVERLINE"),
   (0x306, "COMBINING BREVE;COMBINING DOT ABOVE;COMBINING DIAERESIS;COMBINING HOOK ABOVE"),
   (0x30A, "COMBINING RING ABOVE;COMBINING DOUBLE ACUTE ACCENT;COMBINING CARON"),
   (0x30D, "COMBINING VERTICAL LINE ABOVE;COMBINING DOUBLE VERTICAL LINE ABOVE"),
   (0x30F, "COMBINING DOUBLE GRAVE ACCENT;COMBINING CANDRABINDU;COMBINING INVERTED BREVE"),
   (0x312, "COMBINING TURNED COMMA ABOVE;COMBINING COMMA ABOVE;COMBINING REVERSED COMMA ABOVE"),
   (0x315, "COMBINING COMMA ABOVE RIGHT;COMBINING GRAVE ACCENT BELOW"),
   (0x317, "COMBINING ACUTE ACCENT BELOW;COMBINING LEFT TACK BELOW;COMBINING RIGHT TACK BELOW"),
   (0x31A, "COMBINING LEFT ANGLE ABOVE;COMBINING HORN;COMBINING LEFT HALF RING BELOW"),
   (0x31D, "COMBINING UP TACK BELOW;COMBINING DOWN TACK BELOW;COMBINING PLUS SIGN BELOW"),
   (0x320, "COMBINING MINUS SIGN BELOW;COMBINING PALATALIZED HOOK BELOW"),
   (0x322, "COMBINING RETROFLEX HOOK BELOW;COMBINING DOT BELOW;COMBINING DIAERESIS BELOW"),
   (0x325, "COMBINING RING BELOW;COMBINING COMMA BELOW;COMBINING CEDILLA;COMBINING OGONEK"),
   (0x329, "COMBINING VERTICAL LINE BELOW;COMBINING BRIDGE BELOW"),
   (0x32B, "COMBINING INVERTED DOUBLE ARCH BELOW;COMBINING CARON BELOW"),
   (0x32D, "COMBINING CIRCUMFLEX ACCENT BELOW;COMBINING BREVE BELOW"),
   (0x32F, "COMBINING INVERTED BREVE BELOW;COMBINING TILDE BELOW;COMBINING MACRON BELOW"),
   (0x332, "COMBINING LOW LINE;COMBINING DOUBLE LOW LINE;COMBINING TILDE OVERLAY"),
   (0x335, "COMBINING SHORT STROKE OVERLAY;COMBINING LONG STROKE OVERLAY"),
   (0x337, "COMBINING SHORT SOLIDUS OVERLAY;COMBINING LONG SOLIDUS OVERLAY"),
   (0x339, "COMBINING RIGHT HALF RING BELOW;COMBINING INVERTED BRIDGE BELOW"),
   (0x33B, "COMBINING SQUARE BELOW;COMBINING SEAGULL BELOW;COMBINING X ABOVE"),
   (0x33E, "COMBINING VERTICAL TILDE;COMBINING DOUBLE OVERLINE;COMBINING GRAVE TONE MARK"),
   (0x341, "COMBINING ACUTE TONE MARK;COMBINING GREEK PERISPOMENI;COMBINING GREEK KORONIS"),
   (0x344, "COMBINING GREEK DIALYTIKA TONOS;COMBINING GREEK YPOGEGRAMMENI"),
   (0x346, "COMBINING BRIDGE ABOVE;COMBINING EQUALS SIGN BELOW"),
   (0x348, "COMBINING DOUBLE VERTICAL LINE BELOW;COMBINING LEFT ANGLE BELOW"),
   (0x34A, "COMBINING NOT TILDE ABOVE;COMBINING HOMOTHETIC ABOVE"),
   (0x34C, "COMBINING ALMOST EQUAL TO ABOVE;COMBINING LEFT RIGHT ARROW BELOW"),
   (0x34E, "COMBINING UPWARDS ARROW BELOW;COMBINING GRAPHEME JOINER"),
   (0x350, "COMBINING RIGHT ARROWHEAD ABOVE;COMBINING LEFT HALF RING ABOVE;COMBINING FERMATA"),
   (0x353, "COMBINING X BELOW;COMBINING LEFT ARROWHEAD BELOW;COMBINING RIGHT ARROWHEAD BELOW"),
   (0x356, "COMBINING RIGHT ARROWHEAD AND UP ARROWHEAD BELOW;COMBINING RIGHT HALF RING ABOVE"),
   (0x358, "COMBINING DOT ABOVE RIGHT;COMBINING ASTERISK BELOW;COMBINING DOUBLE RING BELOW"),
   (0x35B, "COMBINING ZIGZAG ABOVE;COMBINING DOUBLE BREVE BELOW;COMBINING DOUBLE BREVE"),
   (0x35E, "COMBINING DOUBLE MACRON;COMBINING DOUBLE MACRON BELOW;COMBINING DOUBLE TILDE"),
   (0x361, "COMBINING DOUBLE INVERTED BREVE;COMBINING DOUBLE RIGHTWARDS ARROW BELOW"),
   (0x363, "COMBINING LATIN SMALL LETTER A;COMBINING LATIN SMALL LETTER E"),
   (0x365, "COMBINING LATIN SMALL LETTER I;COMBINING LATIN SMALL LETTER O"),
   (0x367, "COMBINING LATIN SMALL LETTER U;COMBINING LATIN SMALL LETTER C"),
   (0x369, "COMBINING LATIN SMALL LETTER D;COMBINING LATIN SMALL LETTER H"),
   (0x36B, "COMBINING LATIN SMALL LETTER M;COMBINING LATIN SMALL LETTER R"),
   (0x36D, "COMBINING LATIN SMALL LETTER T;COMBINING LATIN SMALL LETTER V"),
   (0x36F, "COMBINING LATIN SMALL LETTER X"),
   (0x460, "CYRILLIC CAPITAL LETTER OMEGA;CYRILLIC SMALL LETTER OMEGA"),
   (0x462, "CYRILLIC CAPITAL LETTER YAT;CYRILLIC SMALL LETTER YAT"),
   (0x464, "CYRILLIC CAPITAL LETTER IOTIFIED E;CYRILLIC SMALL LETTER IOTIFIED E"),
   (0x466, "CYRILLIC CAPITAL LETTER LITTLE YUS;CYRILLIC SMALL LETTER LITTLE YUS"),
   (0x468, "CYRILLIC CAPITAL LETTER IOTIFIED LITTLE YUS"),
   (0x469, "CYRILLIC SMALL LETTER IOTIFIED LITTLE YUS;CYRILLIC CAPITAL LETTER BIG YUS"),
   (0x46B, "CYRILLIC SMALL LETTER BIG YUS;CYRILLIC CAPITAL LETTER IOTIFIED BIG YUS"),
   (0x46D, "CYRILLIC SMALL LETTER IOTIFIED BIG YUS;CYRILLIC CAPITAL LETTER KSI"),
   (0x46F, "CYRILLIC SMALL LETTER KSI;CYRILLIC CAPITAL LETTER PSI;CYRILLIC SMALL LETTER PSI"),
   (0x472, "CYRILLIC CAPITAL LETTER FITA;CYRILLIC SMALL LETTER FITA"),
   (0x474, "CYRILLIC CAPITAL LETTER IZHITSA;CYRILLIC SMALL LETTER IZHITSA"),
   (0x476, "CYRILLIC CAPITAL LETTER IZHITSA WITH DOUBLE GRAVE ACCENT"),
   (0x477, "CYRILLIC SMALL LETTER IZHITSA WITH DOUBLE GRAVE ACCENT;CYRILLIC CAPITAL LETTER UK"),
   (0x479, "CYRILLIC SMALL LETTER UK;CYRILLIC CAPITAL LETTER ROUND OMEGA"),
   (0x47B, "CYRILLIC SMALL LETTER ROUND OMEGA;CYRILLIC CAPITAL LETTER OMEGA WITH TITLO"),
   (0x47D, "CYRILLIC SMALL LETTER OMEGA WITH TITLO;CYRILLIC CAPITAL LETTER OT"),
   (0x47F, "CYRILLIC SMALL LETTER OT;CYRILLIC CAPITAL LETTER KOPPA;CYRILLIC SMALL LETTER KOPPA"),
   (0x482, "CYRILLIC THOUSANDS SIGN;COMBINING CYRILLIC TITLO;COMBINING CYRILLIC PALATALIZATION"),
   (0x485, "COMBINING CYRILLIC DASIA PNEUMATA;COMBINING CYRILLIC PSILI PNEUMATA"),
   (0x487, "COMBINING CYRILLIC POKRYTIE;COMBINING CYRILLIC HUNDRED THOUSANDS SIGN"),
   (0x489, "COMBINING CYRILLIC MILLIONS SIGN;CYRILLIC CAPITAL LETTER SHORT I WITH TAIL"),
   (0x48B, "CYRILLIC SMALL LETTER SHORT I WITH TAIL;CYRILLIC CAPITAL LETTER SEMISOFT SIGN"),
   (0x48D, "CYRILLIC SMALL LETTER SEMISOFT SIGN;CYRILLIC CAPITAL LETTER ER WITH TICK"),
   (0x48F, "CYRILLIC SMALL LETTER ER WITH TICK;CYRILLIC CAPITAL LETTER GHE WITH UPTURN"),
   (0x491, "CYRILLIC SMALL LETTER GHE WITH UPTURN;CYRILLIC CAPITAL LETTER GHE WITH STROKE"),
   (0x493, "CYRILLIC SMALL LETTER GHE WITH STROKE;CYRILLIC CAPITAL LETTER GHE WITH MIDDLE HOOK"),
   (0x495, "CYRILLIC SMALL LETTER GHE WITH MIDDLE HOOK"),
   (0x496, "CYRILLIC CAPITAL LETTER ZHE WITH DESCENDER"),
   (0x497, "CYRILLIC SMALL LETTER ZHE WITH DESCENDER;CYRILLIC CAPITAL LETTER ZE WITH DESCENDER"),
   (0x499, "CYRILLIC SMALL LETTER ZE WITH DESCENDER;CYRILLIC CAPITAL LETTER KA WITH DESCENDER"),
   (0x49B, "CYRILLIC SMALL LETTER KA WITH DESCENDER"),
   (0x49C, "CYRILLIC CAPITAL LETTER KA WITH VERTICAL STROKE"),
   (0x49D, "CYRILLIC SMALL LETTER KA WITH VERTICAL STROKE"),
   (0x49E, "CYRILLIC CAPITAL LETTER KA WITH STROKE;CYRILLIC SMALL LETTER KA WITH STROKE"),
   (0x4A0, "CYRILLIC CAPITAL LETTER BASHKIR KA;CYRILLIC SMALL LETTER BASHKIR KA"),
   (0x4A2, "CYRILLIC CAPITAL LETTER EN WITH DESCENDER;CYRILLIC SMALL LETTER EN WITH DESCENDER"),
   (0x4A4, "CYRILLIC CAPITAL LIGATURE EN GHE;CYRILLIC SMALL LIGATURE EN GHE"),
   (0x4A6, "CYRILLIC CAPITAL LETTER PE WITH MIDDLE HOOK"),
   (0x4A7, "CYRILLIC SMALL LETTER PE WITH MIDDLE HOOK;CYRILLIC CAPITAL LETTER ABKHASIAN HA"),
   (0x4A9, "CYRILLIC SMALL LETTER ABKHASIAN HA;CYRILLIC CAPITAL LETTER ES WITH DESCENDER"),
   (0x4AB, "CYRILLIC SMALL LETTER ES WITH DESCENDER;CYRILLIC CAPITAL LETTER TE WITH DESCENDER"),
   (0x4AD, "CYRILLIC SMALL LETTER TE WITH DESCENDER;CYRILLIC CAPITAL LETTER STRAIGHT U"),
   (0x4AF, "CYRILLIC SMALL LETTER STRAIGHT U;CYRILLIC CAPITAL LETTER STRAIGHT U WITH STROKE"),
   (0x4B1, "CYRILLIC SMALL LETTER STRAIGHT U WITH STROKE"),
   (0x4B2, "CYRILLIC CAPITAL LETTER HA WITH DESCENDER;CYRILLIC SMALL LETTER HA WITH DESCENDER"),
   (0x4B4, "CYRILLIC CAPITAL LIGATURE TE TSE;CYRILLIC SMALL LIGATURE TE TSE"),
   (0x4B6, "CYRILLIC CAPITAL LETTER CHE WITH DESCENDER"),
   (0x4B7, "CYRILLIC SMALL LETTER CHE WITH DESCENDER"),
   (0x4B8, "CYRILLIC CAPITAL LETTER CHE WITH VERTICAL STROKE"),
   (0x4B9, "CYRILLIC SMALL LETTER CHE WITH VERTICAL STROKE;CYRILLIC CAPITAL LETTER SHHA"),
   (0x4BB, "CYRILLIC SMALL LETTER SHHA;CYRILLIC CAPITAL LETTER ABKHASIAN CHE"),
   (0x4BD, "CYRILLIC SMALL LETTER ABKHASIAN CHE"),
   (0x4BE, "CYRILLIC CAPITAL LETTER ABKHASIAN CHE WITH DESCENDER"),
   (0x4BF, "CYRILLIC SMALL LETTER ABKHASIAN CHE WITH DESCENDER;CYRILLIC LETTER PALOCHKA"),
   (0x4C1, "CYRILLIC CAPITAL LETTER ZHE WITH BREVE;CYRILLIC SMALL LETTER ZHE WITH BREVE"),
   (0x4C3, "CYRILLIC CAPITAL LETTER KA WITH HOOK;CYRILLIC SMALL LETTER KA WITH HOOK"),
   (0x4C5, "CYRILLIC CAPITAL LETTER EL WITH TAIL;CYRILLIC SMALL LETTER EL WITH TAIL"),
   (0x4C7, "CYRILLIC CAPITAL LETTER EN WITH HOOK;CYRILLIC SMALL LETTER EN WITH HOOK"),
   (0x4C9, "CYRILLIC CAPITAL LETTER EN WITH TAIL;CYRILLIC SMALL LETTER EN WITH TAIL"),
   (0x4CB, "CYRILLIC CAPITAL LETTER KHAKASSIAN CHE;CYRILLIC SMALL LETTER KHAKASSIAN CHE"),
   (0x4CD, "CYRILLIC CAPITAL LETTER EM WITH TAIL;CYRILLIC SMALL LETTER EM WITH TAIL"),
   (0x4CF, "CYRILLIC SMALL LETTER PALOCHKA;CYRILLIC CAPITAL LETTER A WITH BREVE"),
   (0x4D1, "CYRILLIC SMALL LETTER A WITH BREVE;CYRILLIC CAPITAL LETTER A WITH DIAERESIS"),
   (0x4D3, "CYRILLIC SMALL LETTER A WITH DIAERESIS;CYRILLIC CAPITAL LIGATURE A IE"),
   (0x4D5, "CYRILLIC SMALL LIGATURE A IE;CYRILLIC CAPITAL LETTER IE WITH BREVE"),
   (0x4D7, "CYRILLIC SMALL LETTER IE WITH BREVE;CYRILLIC CAPITAL LETTER SCHWA"),
   (0x4D9, "CYRILLIC SMALL LETTER SCHWA;CYRILLIC CAPITAL LETTER SCHWA WITH DIAERESIS"),
   (0x4DB, "CYRILLIC SMALL LETTER SCHWA WITH DIAERESIS"),
   (0x4DC, "CYRILLIC CAPITAL LETTER ZHE WITH DIAERESIS"),
   (0x4DD, "CYRILLIC SMALL LETTER ZHE WITH DIAERESIS;CYRILLIC CAPITAL LETTER ZE WITH DIAERESIS"),
   (0x4DF, "CYRILLIC SMALL LETTER ZE WITH DIAERESIS;CYRILLIC CAPITAL LETTER ABKHASIAN DZE"),
   (0x4E1, "CYRILLIC SMALL LETTER ABKHASIAN DZE;CYRILLIC CAPITAL LETTER I WITH MACRON"),
   (0x4E3, "CYRILLIC SMALL LETTER I WITH MACRON;CYRILLIC CAPITAL LETTER I WITH DIAERESIS"),
   (0x4E5, "CYRILLIC SMALL LETTER I WITH DIAERESIS;CYRILLIC CAPITAL LETTER O WITH DIAERESIS"),
   (0x4E7, "CYRILLIC SMALL LETTER O WITH DIAERESIS;CYRILLIC CAPITAL LETTER BARRED O"),
   (0x4E9, "CYRILLIC SMALL LETTER BARRED O;CYRILLIC CAPITAL LETTER BARRED O WITH DIAERESIS"),
   (0x4EB, "CYRILLIC SMALL LETTER BARRED O WITH DIAERESIS"),
   (0x4EC, "CYRILLIC CAPITAL LETTER E WITH DIAERESIS;CYRILLIC SMALL LETTER E WITH DIAERESIS"),
   (0x4EE, "CYRILLIC CAPITAL LETTER U WITH MACRON;CYRILLIC SMALL LETTER U WITH MACRON"),
   (0x4F0, "CYRILLIC CAPITAL LETTER U WITH DIAERESIS;CYRILLIC SMALL LETTER U WITH DIAERESIS"),
   (0x4F2, "CYRILLIC CAPITAL LETTER U WITH DOUBLE ACUTE"),
   (0x4F3, "CYRILLIC SMALL LETTER U WITH DOUBLE ACUTE"),
   (0x4F4, "CYRILLIC CAPITAL LETTER CHE WITH DIAERESIS"),
   (0x4F5, "CYRILLIC SMALL LETTER CHE WITH DIAERESIS"),
   (0x4F6, "CYRILLIC CAPITAL LETTER GHE WITH DESCENDER"),
   (0x4F7, "CYRILLIC SMALL LETTER GHE WITH DESCENDER"),
   (0x4F8, "CYRILLIC CAPITAL LETTER YERU WITH DIAERESIS"),
   (0x4F9, "CYRILLIC SMALL LETTER YERU WITH DIAERESIS"),
   (0x4FA, "CYRILLIC CAPITAL LETTER GHE WITH STROKE AND HOOK"),
   (0x4FB, "CYRILLIC SMALL LETTER GHE WITH STROKE AND HOOK"),
   (0x4FC, "CYRILLIC CAPITAL LETTER HA WITH HOOK;CYRILLIC SMALL LETTER HA WITH HOOK"),
   (0x4FE, "CYRILLIC CAPITAL LETTER HA WITH STROKE;CYRILLIC SMALL LETTER HA WITH STROKE"),
   (0x531, "ARMENIAN CAPITAL LETTER AYB;ARMENIAN CAPITAL LETTER BEN"),
   (0x533, "ARMENIAN CAPITAL LETTER GIM;ARMENIAN CAPITAL LETTER DA;ARMENIAN CAPITAL LETTER ECH"),
   (0x536, "ARMENIAN CAPITAL LETTER ZA;ARMENIAN CAPITAL LETTER EH;ARMENIAN CAPITAL LETTER ET"),
   (0x539, "ARMENIAN CAPITAL LETTER TO;ARMENIAN CAPITAL LETTER ZHE;ARMENIAN CAPITAL LETTER INI"),
   (0x53C, "ARMENIAN CAPITAL LETTER LIWN;ARMENIAN CAPITAL LETTER XEH"),
   (0x53E, "ARMENIAN CAPITAL LETTER CA;ARMENIAN CAPITAL LETTER KEN;ARMENIAN CAPITAL LETTER HO"),
   (0x541, "ARMENIAN CAPITAL LETTER JA;ARMENIAN CAPITAL LETTER GHAD"),
   (0x543, "ARMENIAN CAPITAL LETTER CHEH;ARMENIAN CAPITAL LETTER MEN"),
   (0x545, "ARMENIAN CAPITAL LETTER YI;ARMENIAN CAPITAL LETTER NOW;ARMENIAN CAPITAL LETTER SHA"),
   (0x548, "ARMENIAN CAPITAL LETTER VO;ARMENIAN CAPITAL LETTER CHA;ARMENIAN CAPITAL LETTER PEH"),
   (0x54B, "ARMENIAN CAPITAL LETTER JHEH;ARMENIAN CAPITAL LETTER RA"),
   (0x54D, "ARMENIAN CAPITAL LETTER SEH;ARMENIAN CAPITAL LETTER VEW"),
   (0x54F, "ARMENIAN CAPITAL LETTER TIWN;ARMENIAN CAPITAL LETTER REH"),
   (0x551, "ARMENIAN CAPITAL LETTER CO;ARMENIAN CAPITAL LETTER YIWN"),
   (0x553, "ARMENIAN CAPITAL LETTER PIWR;ARMENIAN CAPITAL LETTER KEH"),
   (0x555, "ARMENIAN CAPITAL LETTER OH;ARMENIAN CAPITAL LETTER FEH"),
   (0x559, "ARMENIAN MODIFIER LETTER LEFT HALF RING;ARMENIAN APOSTROPHE;ARMENIAN EMPHASIS MARK"),
   (0x55C, "ARMENIAN EXCLAMATION MARK;ARMENIAN COMMA;ARMENIAN QUESTION MARK"),
   (0x55F, "ARMENIAN ABBREVIATION MARK;ARMENIAN SMALL LETTER TURNED AYB"),
   (0x561, "ARMENIAN SMALL LETTER AYB;ARMENIAN SMALL LETTER BEN;ARMENIAN SMALL LETTER GIM"),
   (0x564, "ARMENIAN SMALL LETTER DA;ARMENIAN SMALL LETTER ECH;ARMENIAN SMALL LETTER ZA"),
   (0x567, "ARMENIAN SMALL LETTER EH;ARMENIAN SMALL LETTER ET;ARMENIAN SMALL LETTER TO"),
   (0x56A, "ARMENIAN SMALL LETTER ZHE;ARMENIAN SMALL LETTER INI;ARMENIAN SMALL LETTER LIWN"),
   (0x56D, "ARMENIAN SMALL LETTER XEH;ARMENIAN SMALL LETTER CA;ARMENIAN SMALL LETTER KEN"),
   (0x570, "ARMENIAN SMALL LETTER HO;ARMENIAN SMALL LETTER JA;ARMENIAN SMALL LETTER GHAD"),
   (0x573, "ARMENIAN SMALL LETTER CHEH;ARMENIAN SMALL LETTER MEN;ARMENIAN SMALL LETTER YI"),
   (0x576, "ARMENIAN SMALL LETTER NOW;ARMENIAN SMALL LETTER SHA;ARMENIAN SMALL LETTER VO"),
   (0x579, "ARMENIAN SMALL LETTER CHA;ARMENIAN SMALL LETTER PEH;ARMENIAN SMALL LETTER JHEH"),
   (0x57C, "ARMENIAN SMALL LETTER RA;ARMENIAN SMALL LETTER SEH;ARMENIAN SMALL LETTER VEW"),
   (0x57F, "ARMENIAN SMALL LETTER TIWN;ARMENIAN SMALL LETTER REH;ARMENIAN SMALL LETTER CO"),
   (0x582, "ARMENIAN SMALL LETTER YIWN;ARMENIAN SMALL LETTER PIWR;ARMENIAN SMALL LETTER KEH"),
   (0x585, "ARMENIAN SMALL LETTER OH;ARMENIAN SMALL LETTER FEH"),
   (0x587, "ARMENIAN SMALL LIGATURE ECH YIWN;ARMENIAN SMALL LETTER YI WITH STROKE"),
   (0x589, "ARMENIAN FULL STOP;ARMENIAN HYPHEN"),
   (0x591, "HEBREW ACCENT ETNAHTA;HEBREW ACCENT SEGOL;HEBREW ACCENT SHALSHELET"),
   (0x594, "HEBREW ACCENT ZAQEF QATAN;HEBREW ACCENT ZAQEF GADOL;HEBREW ACCENT TIPEHA"),
   (0x597, "HEBREW ACCENT REVIA;HEBREW ACCENT ZARQA;HEBREW ACCENT PASHTA;HEBREW ACCENT YETIV"),
   (0x59B, "HEBREW ACCENT TEVIR;HEBREW ACCENT GERESH;HEBREW ACCENT GERESH MUQDAM"),
   (0x59E, "HEBREW ACCENT GERSHAYIM;HEBREW ACCENT QARNEY PARA;HEBREW ACCENT TELISHA GEDOLA"),
   (0x5A1, "HEBREW ACCENT PAZER;HEBREW ACCENT ATNAH HAFUKH;HEBREW ACCENT MUNAH"),
   (0x5A4, "HEBREW ACCENT MAHAPAKH;HEBREW ACCENT MERKHA;HEBREW ACCENT MERKHA KEFULA"),
   (0x5A7, "HEBREW ACCENT DARGA;HEBREW ACCENT QADMA;HEBREW ACCENT TELISHA QETANA"),
   (0x5AA, "HEBREW ACCENT YERAH BEN YOMO;HEBREW ACCENT OLE;HEBREW ACCENT ILUY"),
   (0x5AD, "HEBREW ACCENT DEHI;HEBREW ACCENT ZINOR;HEBREW MARK MASORA CIRCLE"),
   (0x5B0, "HEBREW POINT SHEVA;HEBREW POINT HATAF SEGOL;HEBREW POINT HATAF PATAH"),
   (0x5B3, "HEBREW POINT HATAF QAMATS;HEBREW POINT HIRIQ;HEBREW POINT TSERE;HEBREW POINT SEGOL"),
   (0x5B7, "HEBREW POINT PATAH;HEBREW POINT QAMATS;HEBREW POINT HOLAM"),
   (0x5BA, "HEBREW POINT HOLAM HASER FOR VAV;HEBREW POINT QUBUTS;HEBREW POINT DAGESH OR MAPIQ"),
   (0x5BD, "HEBREW POINT METEG;HEBREW PUNCTUATION MAQAF;HEBREW POINT RAFE"),
   (0x5C0, "HEBREW PUNCTUATION PASEQ;HEBREW POINT SHIN DOT;HEBREW POINT SIN DOT"),
   (0x5C3, "HEBREW PUNCTUATION SOF PASUQ;HEBREW MARK UPPER DOT;HEBREW MARK LOWER DOT"),
   (0x5C6, "HEBREW PUNCTUATION NUN HAFUKHA;HEBREW POINT QAMATS QATAN"),
   (0x5D0, "HEBREW LETTER ALEF;HEBREW LETTER BET;HEBREW LETTER GIMEL;HEBREW LETTER DALET"),
   (0x5D4, "HEBREW LETTER HE;HEBREW LETTER VAV;HEBREW LETTER ZAYIN;HEBREW LETTER HET"),
   (0x5D8, "HEBREW LETTER TET;HEBREW LETTER YOD;HEBREW LETTER FINAL KAF;HEBREW LETTER KAF"),
   (0x5DC, "HEBREW LETTER LAMED;HEBREW LETTER FINAL MEM;HEBREW LETTER MEM"),
   (0x5DF, "HEBREW LETTER FINAL NUN;HEBREW LETTER NUN;HEBREW LETTER SAMEKH;HEBREW LETTER AYIN"),
   (0x5E3, "HEBREW LETTER FINAL PE;HEBREW LETTER PE;HEBREW LETTER FINAL TSADI"),
   (0x5E6, "HEBREW LETTER TSADI;HEBREW LETTER QOF;HEBREW LETTER RESH;HEBREW LETTER SHIN"),
   (0x5EA, "HEBREW LETTER TAV"),
   (0x5EF, "HEBREW YOD TRIANGLE;HEBREW LIGATURE YIDDISH DOUBLE VAV"),
   (0x5F1, "HEBREW LIGATURE YIDDISH VAV YOD;HEBREW LIGATURE YIDDISH DOUBLE YOD"),
   (0x5F3, "HEBREW PUNCTUATION GERESH;HEBREW PUNCTUATION GERSHAYIM"),
   (0x600, "ARABIC NUMBER SIGN;ARABIC SIGN SANAH;ARABIC FOOTNOTE MARKER;ARABIC SIGN SAFHA"),
   (0x604, "ARABIC SIGN SAMVAT;ARABIC NUMBER MARK ABOVE;ARABIC-INDIC CUBE ROOT"),
   (0x607, "ARABIC-INDIC FOURTH ROOT;ARABIC RAY;ARABIC-INDIC PER MILLE SIGN"),
   (0x60A, "ARABIC-INDIC PER TEN THOUSAND SIGN;AFGHANI SIGN;ARABIC COMMA;ARABIC DATE SEPARATOR"),
   (0x60E, "ARABIC POETIC VERSE SIGN;ARABIC SIGN MISRA"),
   (0x610, "ARABIC SIGN SALLALLAHOU ALAYHE WASSALLAM;ARABIC SIGN ALAYHE ASSALLAM"),
   (0x612, "ARABIC SIGN RAHMATULLAH ALAYHE;ARABIC SIGN RADI ALLAHOU ANHU;ARABIC SIGN TAKHALLUS"),
   (0x615, "ARABIC SMALL HIGH TAH;ARABIC SMALL HIGH LIGATURE ALEF WITH LAM WITH YEH"),
   (0x617, "ARABIC SMALL HIGH ZAIN;ARABIC SMALL FATHA;ARABIC SMALL DAMMA;ARABIC SMALL KASRA"),
   (0x61B, "ARABIC SEMICOLON;ARABIC LETTER MARK;ARABIC END OF TEXT MARK"),
   (0x61E, "ARABIC TRIPLE DOT PUNCTUATION MARK;ARABIC QUESTION MARK;ARABIC LETTER KASHMIRI YEH"),
   (0x621, "ARABIC LETTER HAMZA;ARABIC LETTER ALEF WITH MADDA ABOVE"),
   (0x623, "ARABIC LETTER ALEF WITH HAMZA ABOVE;ARABIC LETTER WAW WITH HAMZA ABOVE"),
   (0x625, "ARABIC LETTER ALEF WITH HAMZA BELOW;ARABIC LETTER YEH WITH HAMZA ABOVE"),
   (0x627, "ARABIC LETTER ALEF;ARABIC LETTER BEH;ARABIC LETTER TEH MARBUTA;ARABIC LETTER TEH"),
   (0x62B, "ARABIC LETTER THEH;ARABIC LETTER JEEM;ARABIC LETTER HAH;ARABIC LETTER KHAH"),
   (0x62F, "ARABIC LETTER DAL;ARABIC LETTER THAL;ARABIC LETTER REH;ARABIC LETTER ZAIN"),
   (0x633, "ARABIC LETTER SEEN;ARABIC LETTER SHEEN;ARABIC LETTER SAD;ARABIC LETTER DAD"),
   (0x637, "ARABIC LETTER TAH;ARABIC LETTER ZAH;ARABIC LETTER AIN;ARABIC LETTER GHAIN"),
   (0x63B, "ARABIC LETTER KEHEH WITH TWO DOTS ABOVE;ARABIC LETTER KEHEH WITH THREE DOTS BELOW"),
   (0x63D, "ARABIC LETTER FARSI YEH WITH INVERTED V"),
   (0x63E, "ARABIC LETTER FARSI YEH WITH TWO DOTS ABOVE"),
   (0x63F, "ARABIC LETTER FARSI YEH WITH THREE DOTS ABOVE;ARABIC TATWEEL;ARABIC LETTER FEH"),
   (0x642, "ARABIC LETTER QAF;ARABIC LETTER KAF;ARABIC LETTER LAM;ARABIC LETTER MEEM"),
   (0x646, "ARABIC LETTER NOON;ARABIC LETTER HEH;ARABIC LETTER WAW;ARABIC LETTER ALEF MAKSURA"),
   (0x64A, "ARABIC LETTER YEH;ARABIC FATHATAN;ARABIC DAMMATAN;ARABIC KASRATAN;ARABIC FATHA"),
   (0x64F, "ARABIC DAMMA;ARABIC KASRA;ARABIC SHADDA;ARABIC SUKUN;ARABIC MADDAH ABOVE"),
   (0x654, "ARABIC HAMZA ABOVE;ARABIC HAMZA BELOW;ARABIC SUBSCRIPT ALEF;ARABIC INVERTED DAMMA"),
   (0x658, "ARABIC MARK NOON GHUNNA;ARABIC ZWARAKAY;ARABIC VOWEL SIGN SMALL V ABOVE"),
   (0x65B, "ARABIC VOWEL SIGN INVERTED SMALL V ABOVE;ARABIC VOWEL SIGN DOT BELOW"),
   (0x65D, "ARABIC REVERSED DAMMA;ARABIC FATHA WITH TWO DOTS;ARABIC WAVY HAMZA BELOW"),
   (0x660, "ARABIC-INDIC DIGIT ZERO;ARABIC-INDIC DIGIT ONE;ARABIC-INDIC DIGIT TWO"),
   (0x663, "ARABIC-INDIC DIGIT THREE;ARABIC-INDIC DIGIT FOUR;ARABIC-INDIC DIGIT FIVE"),
   (0x666, "ARABIC-INDIC DIGIT SIX;ARABIC-INDIC DIGIT SEVEN;ARABIC-INDIC DIGIT EIGHT"),
   (0x669, "ARABIC-INDIC DIGIT NINE;ARABIC PERCENT SIGN;ARABIC DECIMAL SEPARATOR"),
   (0x66C, "ARABIC THOUSANDS SEPARATOR;ARABIC FIVE POINTED STAR;ARABIC LETTER DOTLESS BEH"),
   (0x66F, "ARABIC LETTER DOTLESS QAF;ARABIC LETTER SUPERSCRIPT ALEF;ARABIC LETTER ALEF WASLA"),
   (0x672, "ARABIC LETTER ALEF WITH WAVY HAMZA ABOVE;ARABIC LETTER ALEF WITH WAVY HAMZA BELOW"),
   (0x674, "ARABIC LETTER HIGH HAMZA;ARABIC LETTER HIGH HAMZA ALEF"),
   (0x676, "ARABIC LETTER HIGH HAMZA WAW;ARABIC LETTER U WITH HAMZA ABOVE"),
   (0x678, "ARABIC LETTER HIGH HAMZA YEH;ARABIC LETTER TTEH;ARABIC LETTER TTEHEH"),
   (0x67B, "ARABIC LETTER BEEH;ARABIC LETTER TEH WITH RING"),
   (0x67D, "ARABIC LETTER TEH WITH THREE DOTS ABOVE DOWNWARDS;ARABIC LETTER PEH"),
   (0x67F, "ARABIC LETTER TEHEH;ARABIC LETTER BEHEH;ARABIC LETTER HAH WITH HAMZA ABOVE"),
   (0x682, "ARABIC LETTER HAH WITH TWO DOTS VERTICAL ABOVE;ARABIC LETTER NYEH"),
   (0x684, "ARABIC LETTER DYEH;ARABIC LETTER HAH WITH THREE DOTS ABOVE;ARABIC LETTER TCHEH"),
   (0x687, "ARABIC LETTER TCHEHEH;ARABIC LETTER DDAL;ARABIC LETTER DAL WITH RING"),
   (0x68A, "ARABIC LETTER DAL WITH DOT BELOW;ARABIC LETTER DAL WITH DOT BELOW AND SMALL TAH"),
   (0x68C, "ARABIC LETTER DAHAL;ARABIC LETTER DDAHAL;ARABIC LETTER DUL"),
   (0x68F, "ARABIC LETTER DAL WITH THREE DOTS ABOVE DOWNWARDS"),
   (0x690, "ARABIC LETTER DAL WITH FOUR DOTS ABOVE;ARABIC LETTER RREH"),
   (0x692, "ARABIC LETTER REH WITH SMALL V;ARABIC LETTER REH WITH RING"),
   (0x694, "ARABIC LETTER REH WITH DOT BELOW;ARABIC LETTER REH WITH SMALL V BELOW"),
   (0x696, "ARABIC LETTER REH WITH DOT BELOW AND DOT ABOVE"),
   (0x697, "ARABIC LETTER REH WITH TWO DOTS ABOVE;ARABIC LETTER JEH"),
   (0x699, "ARABIC LETTER REH WITH FOUR DOTS ABOVE"),
   (0x69A, "ARABIC LETTER SEEN WITH DOT BELOW AND DOT ABOVE"),
   (0x69B, "ARABIC LETTER SEEN WITH THREE DOTS BELOW"),
   (0x69C, "ARABIC LETTER SEEN WITH THREE DOTS BELOW AND THREE DOTS ABOVE"),
   (0x69D, "ARABIC LETTER SAD WITH TWO DOTS BELOW;ARABIC LETTER SAD WITH THREE DOTS ABOVE"),
   (0x69F, "ARABIC LETTER TAH WITH THREE DOTS ABOVE;ARABIC LETTER AIN WITH THREE DOTS ABOVE"),
   (0x6A1, "ARABIC LETTER DOTLESS FEH;ARABIC LETTER FEH WITH DOT MOVED BELOW"),
   (0x6A3, "ARABIC LETTER FEH WITH DOT BELOW;ARABIC LETTER VEH"),
   (0x6A5, "ARABIC LETTER FEH WITH THREE DOTS BELOW;ARABIC LETTER PEHEH"),
   (0x6A7, "ARABIC LETTER QAF WITH DOT ABOVE;ARABIC LETTER QAF WITH THREE DOTS ABOVE"),
   (0x6A9, "ARABIC LETTER KEHEH;ARABIC LETTER SWASH KAF;ARABIC LETTER KAF WITH RING"),
   (0x6AC, "ARABIC LETTER KAF WITH DOT ABOVE;ARABIC LETTER NG"),
   (0x6AE, "ARABIC LETTER KAF WITH THREE DOTS BELOW;ARABIC LETTER GAF"),
   (0x6B0, "ARABIC LETTER GAF WITH RING;ARABIC LETTER NGOEH"),
   (0x6B2, "ARABIC LETTER GAF WITH TWO DOTS BELOW;ARABIC LETTER GUEH"),
   (0x6B4, "ARABIC LETTER GAF WITH THREE DOTS ABOVE;ARABIC LETTER LAM WITH SMALL V"),
   (0x6B6, "ARABIC LETTER LAM WITH DOT ABOVE;ARABIC LETTER LAM WITH THREE DOTS ABOVE"),
   (0x6B8, "ARABIC LETTER LAM WITH THREE DOTS BELOW;ARABIC LETTER NOON WITH DOT BELOW"),
   (0x6BA, "ARABIC LETTER NOON GHUNNA;ARABIC LETTER RNOON;ARABIC LETTER NOON WITH RING"),
   (0x6BD, "ARABIC LETTER NOON WITH THREE DOTS ABOVE;ARABIC LETTER HEH DOACHASHMEE"),
   (0x6BF, "ARABIC LETTER TCHEH WITH DOT ABOVE;ARABIC LETTER HEH WITH YEH ABOVE"),
   (0x6C1, "ARABIC LETTER HEH GOAL;ARABIC LETTER HEH GOAL WITH HAMZA ABOVE"),
   (0x6C3, "ARABIC LETTER TEH MARBUTA GOAL;ARABIC LETTER WAW WITH RING"),
   (0x6C5, "ARABIC LETTER KIRGHIZ OE;ARABIC LETTER OE;ARABIC LETTER U;ARABIC LETTER YU"),
   (0x6C9, "ARABIC LETTER KIRGHIZ YU;ARABIC LETTER WAW WITH TWO DOTS ABOVE;ARABIC LETTER VE"),
   (0x6CC, "ARABIC LETTER FARSI YEH;ARABIC LETTER YEH WITH TAIL;ARABIC LETTER YEH WITH SMALL V"),
   (0x6CF, "ARABIC LETTER WAW WITH DOT ABOVE;ARABIC LETTER E"),
   (0x6D1, "ARABIC LETTER YEH WITH THREE DOTS BELOW;ARABIC LETTER YEH BARREE"),
   (0x6D3, "ARABIC LETTER YEH BARREE WITH HAMZA ABOVE;ARABIC FULL STOP;ARABIC LETTER AE"),
   (0x6D6, "ARABIC SMALL HIGH LIGATURE SAD WITH LAM WITH ALEF MAKSURA"),
   (0x6D7, "ARABIC SMALL HIGH LIGATURE QAF WITH LAM WITH ALEF MAKSURA"),
   (0x6D8, "ARABIC SMALL HIGH MEEM INITIAL FORM;ARABIC SMALL HIGH LAM ALEF"),
   (0x6DA, "ARABIC SMALL HIGH JEEM;ARABIC SMALL HIGH THREE DOTS;ARABIC SMALL HIGH SEEN"),
   (0x6DD, "ARABIC END OF AYAH;ARABIC START OF RUB EL HIZB;ARABIC SMALL HIGH ROUNDED ZERO"),
   (0x6E0, "ARABIC SMALL HIGH UPRIGHT RECTANGULAR ZERO;ARABIC SMALL HIGH DOTLESS HEAD OF KHAH"),
   (0x6E2, "ARABIC SMALL HIGH MEEM ISOLATED FORM;ARABIC SMALL LOW SEEN;ARABIC SMALL HIGH MADDA"),
   (0x6E5, "ARABIC SMALL WAW;ARABIC SMALL YEH;ARABIC SMALL HIGH YEH;ARABIC SMALL HIGH NOON"),
   (0x6E9, "ARABIC PLACE OF SAJDAH;ARABIC EMPTY CENTRE LOW STOP;ARABIC EMPTY CENTRE HIGH STOP"),
   (0x6EC, "ARABIC ROUNDED HIGH STOP WITH FILLED CENTRE;ARABIC SMALL LOW MEEM"),
   (0x6EE, "ARABIC LETTER DAL WITH INVERTED V;ARABIC LETTER REH WITH INVERTED V"),
   (0x6F0, "EXTENDED ARABIC-INDIC DIGIT ZERO;EXTENDED ARABIC-INDIC DIGIT ONE"),
   (0x6F2, "EXTENDED ARABIC-INDIC DIGIT TWO;EXTENDED ARABIC-INDIC DIGIT THREE"),
   (0x6F4, "EXTENDED ARABIC-INDIC DIGIT FOUR;EXTENDED ARABIC-INDIC DIGIT FIVE"),
   (0x6F6, "EXTENDED ARABIC-INDIC DIGIT SIX;EXTENDED ARABIC-INDIC DIGIT SEVEN"),
   (0x6F8, "EXTENDED ARABIC-INDIC DIGIT EIGHT;EXTENDED ARABIC-INDIC DIGIT NINE"),
   (0x6FA, "ARABIC LETTER SHEEN WITH DOT BELOW;ARABIC LETTER DAD WITH DOT BELOW"),
   (0x6FC, "ARABIC LETTER GHAIN WITH DOT BELOW;ARABIC SIGN SINDHI AMPERSAND"),
   (0x6FE, "ARABIC SIGN SINDHI POSTPOSITION MEN;ARABIC LETTER HEH WITH INVERTED V"),
   (0x904, "DEVANAGARI LETTER SHORT A;DEVANAGARI LETTER A;DEVANAGARI LETTER AA"),
   (0x907, "DEVANAGARI LETTER I;DEVANAGARI LETTER II;DEVANAGARI LETTER U;DEVANAGARI LETTER UU"),
   (0x90B, "DEVANAGARI LETTER VOCALIC R;DEVANAGARI LETTER VOCALIC L;DEVANAGARI LETTER CANDRA E"),
   (0x90E, "DEVANAGARI LETTER SHORT E;DEVANAGARI LETTER E;DEVANAGARI LETTER AI"),
   (0x911, "DEVANAGARI LETTER CANDRA O;DEVANAGARI LETTER SHORT O;DEVANAGARI LETTER O"),
   (0x914, "DEVANAGARI LETTER AU;DEVANAGARI LETTER KA;DEVANAGARI LETTER KHA"),
   (0x917, "DEVANAGARI LETTER GA;DEVANAGARI LETTER GHA;DEVANAGARI LETTER NGA"),
   (0x91A, "DEVANAGARI LETTER CA;DEVANAGARI LETTER CHA;DEVANAGARI LETTER JA"),
   (0x91D, "DEVANAGARI LETTER JHA;DEVANAGARI LETTER NYA;DEVANAGARI LETTER TTA"),
   (0x920, "DEVANAGARI LETTER TTHA;DEVANAGARI LETTER DDA;DEVANAGARI LETTER DDHA"),
   (0x923, "DEVANAGARI LETTER NNA;DEVANAGARI LETTER TA;DEVANAGARI LETTER THA"),
   (0x926, "DEVANAGARI LETTER DA;DEVANAGARI LETTER DHA;DEVANAGARI LETTER NA"),
   (0x929, "DEVANAGARI LETTER NNNA;DEVANAGARI LETTER PA;DEVANAGARI LETTER PHA"),
   (0x92C, "DEVANAGARI LETTER BA;DEVANAGARI LETTER BHA;DEVANAGARI LETTER MA"),
   (0x92F, "DEVANAGARI LETTER YA;DEVANAGARI LETTER RA;DEVANAGARI LETTER RRA"),
   (0x932, "DEVANAGARI LETTER LA;DEVANAGARI LETTER LLA;DEVANAGARI LETTER LLLA"),
   (0x935, "DEVANAGARI LETTER VA;DEVANAGARI LETTER SHA;DEVANAGARI LETTER SSA"),
   (0x938, "DEVANAGARI LETTER SA;DEVANAGARI LETTER HA;DEVANAGARI VOWEL SIGN OE"),
   (0x93B, "DEVANAGARI VOWEL SIGN OOE;DEVANAGARI SIGN NUKTA;DEVANAGARI SIGN AVAGRAHA"),
   (0x93E, "DEVANAGARI VOWEL SIGN AA;DEVANAGARI VOWEL SIGN I;DEVANAGARI VOWEL SIGN II"),
   (0x941, "DEVANAGARI VOWEL SIGN U;DEVANAGARI VOWEL SIGN UU;DEVANAGARI VOWEL SIGN VOCALIC R"),
   (0x944, "DEVANAGARI VOWEL SIGN VOCALIC RR;DEVANAGARI VOWEL SIGN CANDRA E"),
   (0x946, "DEVANAGARI VOWEL SIGN SHORT E;DEVANAGARI VOWEL SIGN E;DEVANAGARI VOWEL SIGN AI"),
   (0x949, "DEVANAGARI VOWEL SIGN CANDRA O;DEVANAGARI VOWEL SIGN SHORT O"),
   (0x94B, "DEVANAGARI VOWEL SIGN O;DEVANAGARI VOWEL SIGN AU;DEVANAGARI SIGN VIRAMA"),
   (0x94E, "DEVANAGARI VOWEL SIGN PRISHTHAMATRA E;DEVANAGARI VOWEL SIGN AW;DEVANAGARI OM"),
   (0x951, "DEVANAGARI STRESS SIGN UDATTA;DEVANAGARI STRESS SIGN ANUDATTA"),
   (0x953, "DEVANAGARI GRAVE ACCENT;DEVANAGARI ACUTE ACCENT"),
   (0x955, "DEVANAGARI VOWEL SIGN CANDRA LONG E;DEVANAGARI VOWEL SIGN UE"),
   (0x957, "DEVANAGARI VOWEL SIGN UUE;DEVANAGARI LETTER QA;DEVANAGARI LETTER KHHA"),
   (0x95A, "DEVANAGARI LETTER GHHA;DEVANAGARI LETTER ZA;DEVANAGARI LETTER DDDHA"),
   (0x95D, "DEVANAGARI LETTER RHA;DEVANAGARI LETTER FA;DEVANAGARI LETTER YYA"),
   (0x960, "DEVANAGARI LETTER VOCALIC RR;DEVANAGARI LETTER VOCALIC LL"),
   (0x962, "DEVANAGARI VOWEL SIGN VOCALIC L;DEVANAGARI VOWEL SIGN VOCALIC LL;DEVANAGARI DANDA"),
   (0x965, "DEVANAGARI DOUBLE DANDA;DEVANAGARI DIGIT ZERO;DEVANAGARI DIGIT ONE"),
   (0x968, "DEVANAGARI DIGIT TWO;DEVANAGARI DIGIT THREE;DEVANAGARI DIGIT FOUR"),
   (0x96B, "DEVANAGARI DIGIT FIVE;DEVANAGARI DIGIT SIX;DEVANAGARI DIGIT SEVEN"),
   (0x96E, "DEVANAGARI DIGIT EIGHT;DEVANAGARI DIGIT NINE"),
   (0x1E00, "LATIN CAPITAL LETTER A WITH RING BELOW;LATIN SMALL LETTER A WITH RING BELOW"),
   (0x1E02, "LATIN CAPITAL LETTER B WITH DOT ABOVE;LATIN SMALL LETTER B WITH DOT ABOVE"),
   (0x1E04, "LATIN CAPITAL LETTER B WITH DOT BELOW;LATIN SMALL LETTER B WITH DOT BELOW"),
   (0x1E06, "LATIN CAPITAL LETTER B WITH LINE BELOW;LATIN SMALL LETTER B WITH LINE BELOW"),
   (0x1E08, "LATIN CAPITAL LETTER C WITH CEDILLA AND ACUTE"),
   (0x1E09, "LATIN SMALL LETTER C WITH CEDILLA AND ACUTE;LATIN CAPITAL LETTER D WITH DOT ABOVE"),
   (0x1E0B, "LATIN SMALL LETTER D WITH DOT ABOVE;LATIN CAPITAL LETTER D WITH DOT BELOW"),
   (0x1E0D, "LATIN SMALL LETTER D WITH DOT BELOW;LATIN CAPITAL LETTER D WITH LINE BELOW"),
   (0x1E0F, "LATIN SMALL LETTER D WITH LINE BELOW;LATIN CAPITAL LETTER D WITH CEDILLA"),
   (0x1E11, "LATIN SMALL LETTER D WITH CEDILLA;LATIN CAPITAL LETTER D WITH CIRCUMFLEX BELOW"),
   (0x1E13, "LATIN SMALL LETTER D WITH CIRCUMFLEX BELOW"),
   (0x1E14, "LATIN CAPITAL LETTER E WITH MACRON AND GRAVE"),
   (0x1E15, "LATIN SMALL LETTER E WITH MACRON AND GRAVE"),
   (0x1E16, "LATIN CAPITAL LETTER E WITH MACRON AND ACUTE"),
   (0x1E17, "LATIN SMALL LETTER E WITH MACRON AND ACUTE"),
   (0x1E18, "LATIN CAPITAL LETTER E WITH CIRCUMFLEX BELOW"),
   (0x1E19, "LATIN SMALL LETTER E WITH CIRCUMFLEX BELOW"),
   (0x1E1A, "LATIN CAPITAL LETTER E WITH TILDE BELOW;LATIN SMALL LETTER E WITH TILDE BELOW"),
   (0x1E1C, "LATIN CAPITAL LETTER E WITH CEDILLA AND BREVE"),
   (0x1E1D, "LATIN SMALL LETTER E WITH CEDILLA AND BREVE;LATIN CAPITAL LETTER F WITH DOT ABOVE"),
   (0x1E1F, "LATIN SMALL LETTER F WITH DOT ABOVE;LATIN CAPITAL LETTER G WITH MACRON"),
   (0x1E21, "LATIN SMALL LETTER G WITH MACRON;LATIN CAPITAL LETTER H WITH DOT ABOVE"),
   (0x1E23, "LATIN SMALL LETTER H WITH DOT ABOVE;LATIN CAPITAL LETTER H WITH DOT BELOW"),
   (0x1E25, "LATIN SMALL LETTER H WITH DOT BELOW;LATIN CAPITAL LETTER H WITH DIAERESIS"),
   (0x1E27, "LATIN SMALL LETTER H WITH DIAERESIS;LATIN CAPITAL LETTER H WITH CEDILLA"),
   (0x1E29, "LATIN SMALL LETTER H WITH CEDILLA;LATIN CAPITAL LETTER H WITH BREVE BELOW"),
   (0x1E2B, "LATIN SMALL LETTER H WITH BREVE BELOW;LATIN CAPITAL LETTER I WITH TILDE BELOW"),
   (0x1E2D, "LATIN SMALL LETTER I WITH TILDE BELOW"),
   (0x1E2E, "LATIN CAPITAL LETTER I WITH DIAERESIS AND ACUTE"),
   (0x1E2F, "LATIN SMALL LETTER I WITH DIAERESIS AND ACUTE;LATIN CAPITAL LETTER K WITH ACUTE"),
   (0x1E31, "LATIN SMALL LETTER K WITH ACUTE;LATIN CAPITAL LETTER K WITH DOT BELOW"),
   (0x1E33, "LATIN SMALL LETTER K WITH DOT BELOW;LATIN CAPITAL LETTER K WITH LINE BELOW"),
   (0x1E35, "LATIN SMALL LETTER K WITH LINE BELOW;LATIN CAPITAL LETTER L WITH DOT BELOW"),
   (0x1E37, "LATIN SMALL LETTER L WITH DOT BELOW"),
   (0x1E38, "LATIN CAPITAL LETTER L WITH DOT BELOW AND MACRON"),
   (0x1E39, "LATIN SMALL LETTER L WITH DOT BELOW AND MACRON"),
   (0x1E3A, "LATIN CAPITAL LETTER L WITH LINE BELOW;LATIN SMALL LETTER L WITH LINE BELOW"),
   (0x1E3C, "LATIN CAPITAL LETTER L WITH CIRCUMFLEX BELOW"),
   (0x1E3D, "LATIN SMALL LETTER L WITH CIRCUMFLEX BELOW;LATIN CAPITAL LETTER M WITH ACUTE"),
   (0x1E3F, "LATIN SMALL LETTER M WITH ACUTE;LATIN CAPITAL LETTER M WITH DOT ABOVE"),
   (0x1E41, "LATIN SMALL LETTER M WITH DOT ABOVE;LATIN CAPITAL LETTER M WITH DOT BELOW"),
   (0x1E43, "LATIN SMALL LETTER M WITH DOT BELOW;LATIN CAPITAL LETTER N WITH DOT ABOVE"),
   (0x1E45, "LATIN SMALL LETTER N WITH DOT ABOVE;LATIN CAPITAL LETTER N WITH DOT BELOW"),
   (0x1E47, "LATIN SMALL LETTER N WITH DOT BELOW;LATIN CAPITAL LETTER N WITH LINE BELOW"),
   (0x1E49, "LATIN SMALL LETTER N WITH LINE BELOW;LATIN CAPITAL LETTER N WITH CIRCUMFLEX BELOW"),
   (0x1E4B, "LATIN SMALL LETTER N WITH CIRCUMFLEX BELOW"),
   (0x1E4C, "LATIN CAPITAL LETTER O WITH TILDE AND ACUTE"),
   (0x1E4D, "LATIN SMALL LETTER O WITH TILDE AND ACUTE"),
   (0x1E4E, "LATIN CAPITAL LETTER O WITH TILDE AND DIAERESIS"),
   (0x1E4F, "LATIN SMALL LETTER O WITH TILDE AND DIAERESIS"),
   (0x1E50, "LATIN CAPITAL LETTER O WITH MACRON AND GRAVE"),
   (0x1E51, "LATIN SMALL LETTER O WITH MACRON AND GRAVE"),
   (0x1E52, "LATIN CAPITAL LETTER O WITH MACRON AND ACUTE"),
   (0x1E53, "LATIN SMALL LETTER O WITH MACRON AND ACUTE;LATIN CAPITAL LETTER P WITH ACUTE"),
   (0x1E55, "LATIN SMALL LETTER P WITH ACUTE;LATIN CAPITAL LETTER P WITH DOT ABOVE"),
   (0x1E57, "LATIN SMALL LETTER P WITH DOT ABOVE;LATIN CAPITAL LETTER R WITH DOT ABOVE"),
   (0x1E59, "LATIN SMALL LETTER R WITH DOT ABOVE;LATIN CAPITAL LETTER R WITH DOT BELOW"),
   (0x1E5B, "LATIN SMALL LETTER R WITH DOT BELOW"),
   (0x1E5C, "LATIN CAPITAL LETTER R WITH DOT BELOW AND MACRON"),
   (0x1E5D, "LATIN SMALL LETTER R WITH DOT BELOW AND MACRON"),
   (0x1E5E, "LATIN CAPITAL LETTER R WITH LINE BELOW;LATIN SMALL LETTER R WITH LINE BELOW"),
   (0x1E60, "LATIN CAPITAL LETTER S WITH DOT ABOVE;LATIN SMALL LETTER S WITH DOT ABOVE"),
   (0x1E62, "LATIN CAPITAL LETTER S WITH DOT BELOW;LATIN SMALL LETTER S WITH DOT BELOW"),
   (0x1E64, "LATIN CAPITAL LETTER S WITH ACUTE AND DOT ABOVE"),
   (0x1E65, "LATIN SMALL LETTER S WITH ACUTE AND DOT ABOVE"),
   (0x1E66, "LATIN CAPITAL LETTER S WITH CARON AND DOT ABOVE"),
   (0x1E67, "LATIN SMALL LETTER S WITH CARON AND DOT ABOVE"),
   (0x1E68, "LATIN CAPITAL LETTER S WITH DOT BELOW AND DOT ABOVE"),
   (0x1E69, "LATIN SMALL LETTER S WITH DOT BELOW AND DOT ABOVE"),
   (0x1E6A, "LATIN CAPITAL LETTER T WITH DOT ABOVE;LATIN SMALL LETTER T WITH DOT ABOVE"),
   (0x1E6C, "LATIN CAPITAL LETTER T WITH DOT BELOW;LATIN SMALL LETTER T WITH DOT BELOW"),
   (0x1E6E, "LATIN CAPITAL LETTER T WITH LINE BELOW;LATIN SMALL LETTER T WITH LINE BELOW"),
   (0x1E70, "LATIN CAPITAL LETTER T WITH CIRCUMFLEX BELOW"),
   (0x1E71, "LATIN SMALL LETTER T WITH CIRCUMFLEX BELOW"),
   (0x1E72, "LATIN CAPITAL LETTER U WITH DIAERESIS BELOW"),
   (0x1E73, "LATIN SMALL LETTER U WITH DIAERESIS BELOW;LATIN CAPITAL LETTER U WITH TILDE BELOW"),
   (0x1E75, "LATIN SMALL LETTER U WITH TILDE BELOW"),
   (0x1E76, "LATIN CAPITAL LETTER U WITH CIRCUMFLEX BELOW"),
   (0x1E77, "LATIN SMALL LETTER U WITH CIRCUMFLEX BELOW"),
   (0x1E78, "LATIN CAPITAL LETTER U WITH TILDE AND ACUTE"),
   (0x1E79, "LATIN SMALL LETTER U WITH TILDE AND ACUTE"),
   (0x1E7A, "LATIN CAPITAL LETTER U WITH MACRON AND DIAERESIS"),
   (0x1E7B, "LATIN SMALL LETTER U WITH MACRON AND DIAERESIS;LATIN CAPITAL LETTER V WITH TILDE"),
   (0x1E7D, "LATIN SMALL LETTER V WITH TILDE;LATIN CAPITAL LETTER V WITH DOT BELOW"),
   (0x1E7F, "LATIN SMALL LETTER V WITH DOT BELOW;LATIN CAPITAL LETTER W WITH GRAVE"),
   (0x1E81, "LATIN SMALL LETTER W WITH GRAVE;LATIN CAPITAL LETTER W WITH ACUTE"),
   (0x1E83, "LATIN SMALL LETTER W WITH ACUTE;LATIN CAPITAL LETTER W WITH DIAERESIS"),
   (0x1E85, "LATIN SMALL LETTER W WITH DIAERESIS;LATIN CAPITAL LETTER W WITH DOT ABOVE"),
   (0x1E87, "LATIN SMALL LETTER W WITH DOT ABOVE;LATIN CAPITAL LETTER W WITH DOT BELOW"),
   (0x1E89, "LATIN SMALL LETTER W WITH DOT BELOW;LATIN CAPITAL LETTER X WITH DOT ABOVE"),
   (0x1E8B, "LATIN SMALL LETTER X WITH DOT ABOVE;LATIN CAPITAL LETTER X WITH DIAERESIS"),
   (0x1E8D, "LATIN SMALL LETTER X WITH DIAERESIS;LATIN CAPITAL LETTER Y WITH DOT ABOVE"),
   (0x1E8F, "LATIN SMALL LETTER Y WITH DOT ABOVE;LATIN CAPITAL LETTER Z WITH CIRCUMFLEX"),
   (0x1E91, "LATIN SMALL LETTER Z WITH CIRCUMFLEX;LATIN CAPITAL LETTER Z WITH DOT BELOW"),
   (0x1E93, "LATIN SMALL LETTER Z WITH DOT BELOW;LATIN CAPITAL LETTER Z WITH LINE BELOW"),
   (0x1E95, "LATIN SMALL LETTER Z WITH LINE BELOW;LATIN SMALL LETTER H WITH LINE BELOW"),
   (0x1E97, "LATIN SMALL LETTER T WITH DIAERESIS;LATIN SMALL LETTER W WITH RING ABOVE"),
   (0x1E99, "LATIN SMALL LETTER Y WITH RING ABOVE;LATIN SMALL LETTER A WITH RIGHT HALF RING"),
   (0x1E9B, "LATIN SMALL LETTER LONG S WITH DOT ABOVE"),
   (0x1E9C, "LATIN SMALL LETTER LONG S WITH DIAGONAL STROKE"),
   (0x1E9D, "LATIN SMALL LETTER LONG S WITH HIGH STROKE;LATIN CAPITAL LETTER SHARP S"),
   (0x1E9F, "LATIN SMALL LETTER DELTA;LATIN CAPITAL LETTER A WITH DOT BELOW"),
   (0x1EA1, "LATIN SMALL LETTER A WITH DOT BELOW;LATIN CAPITAL LETTER A WITH HOOK ABOVE"),
   (0x1EA3, "LATIN SMALL LETTER A WITH HOOK ABOVE"),
   (0x1EA4, "LATIN CAPITAL LETTER A WITH CIRCUMFLEX AND ACUTE"),
   (0x1EA5, "LATIN SMALL LETTER A WITH CIRCUMFLEX AND ACUTE"),
   (0x1EA6, "LATIN CAPITAL LETTER A WITH CIRCUMFLEX AND GRAVE"),
   (0x1EA7, "LATIN SMALL LETTER A WITH CIRCUMFLEX AND GRAVE"),
   (0x1EA8, "LATIN CAPITAL LETTER A WITH CIRCUMFLEX AND HOOK ABOVE"),
   (0x1EA9, "LATIN SMALL LETTER A WITH CIRCUMFLEX AND HOOK ABOVE"),
   (0x1EAA, "LATIN CAPITAL LETTER A WITH CIRCUMFLEX AND TILDE"),
   (0x1EAB, "LATIN SMALL LETTER A WITH CIRCUMFLEX AND TILDE"),
   (0x1EAC, "LATIN CAPITAL LETTER A WITH CIRCUMFLEX AND DOT BELOW"),
   (0x1EAD, "LATIN SMALL LETTER A WITH CIRCUMFLEX AND DOT BELOW"),
   (0x1EAE, "LATIN CAPITAL LETTER A WITH BREVE AND ACUTE"),
   (0x1EAF, "LATIN SMALL LETTER A WITH BREVE AND ACUTE"),
   (0x1EB0, "LATIN CAPITAL LETTER A WITH BREVE AND GRAVE"),
   (0x1EB1, "LATIN SMALL LETTER A WITH BREVE AND GRAVE"),
   (0x1EB2, "LATIN CAPITAL LETTER A WITH BREVE AND HOOK ABOVE"),
   (0x1EB3, "LATIN SMALL LETTER A WITH BREVE AND HOOK ABOVE"),
   (0x1EB4, "LATIN CAPITAL LETTER A WITH BREVE AND TILDE"),
   (0x1EB5, "LATIN SMALL LETTER A WITH BREVE AND TILDE"),
   (0x1EB6, "LATIN CAPITAL LETTER A WITH BREVE AND DOT BELOW"),
   (0x1EB7, "LATIN SMALL LETTER A WITH BREVE AND DOT BELOW"),
   (0x1EB8, "LATIN CAPITAL LETTER E WITH DOT BELOW;LATIN SMALL LETTER E WITH DOT BELOW"),
   (0x1EBA, "LATIN CAPITAL LETTER E WITH HOOK ABOVE;LATIN SMALL LETTER E WITH HOOK ABOVE"),
   (0x1EBC, "LATIN CAPITAL LETTER E WITH TILDE;LATIN SMALL LETTER E WITH TILDE"),
   (0x1EBE, "LATIN CAPITAL LETTER E WITH CIRCUMFLEX AND ACUTE"),
   (0x1EBF, "LATIN SMALL LETTER E WITH CIRCUMFLEX AND ACUTE"),
   (0x1EC0, "LATIN CAPITAL LETTER E WITH CIRCUMFLEX AND GRAVE"),
   (0x1EC1, "LATIN SMALL LETTER E WITH CIRCUMFLEX AND GRAVE"),
   (0x1EC2, "LATIN CAPITAL LETTER E WITH CIRCUMFLEX AND HOOK ABOVE"),
   (0x1EC3, "LATIN SMALL LETTER E WITH CIRCUMFLEX AND HOOK ABOVE"),
   (0x1EC4, "LATIN CAPITAL LETTER E WITH CIRCUMFLEX AND TILDE"),
   (0x1EC5, "LATIN SMALL LETTER E WITH CIRCUMFLEX AND TILDE"),
   (0x1EC6, "LATIN CAPITAL LETTER E WITH CIRCUMFLEX AND DOT BELOW"),
   (0x1EC7, "LATIN SMALL LETTER E WITH CIRCUMFLEX AND DOT BELOW"),
   (0x1EC8, "LATIN CAPITAL LETTER I WITH HOOK ABOVE;LATIN SMALL LETTER I WITH HOOK ABOVE"),
   (0x1ECA, "LATIN CAPITAL LETTER I WITH DOT BELOW;LATIN SMALL LETTER I WITH DOT BELOW"),
   (0x1ECC, "LATIN CAPITAL LETTER O WITH DOT BELOW;LATIN SMALL LETTER O WITH DOT BELOW"),
   (0x1ECE, "LATIN CAPITAL LETTER O WITH HOOK ABOVE;LATIN SMALL LETTER O WITH HOOK ABOVE"),
   (0x1ED0, "LATIN CAPITAL LETTER O WITH CIRCUMFLEX AND ACUTE"),
   (0x1ED1, "LATIN SMALL LETTER O WITH CIRCUMFLEX AND ACUTE"),
   (0x1ED2, "LATIN CAPITAL LETTER O WITH CIRCUMFLEX AND GRAVE"),
   (0x1ED3, "LATIN SMALL LETTER O WITH CIRCUMFLEX AND GRAVE"),
   (0x1ED4, "LATIN CAPITAL LETTER O WITH CIRCUMFLEX AND HOOK ABOVE"),
   (0x1ED5, "LATIN SMALL LETTER O WITH CIRCUMFLEX AND HOOK ABOVE"),
   (0x1ED6, "LATIN CAPITAL LETTER O WITH CIRCUMFLEX AND TILDE"),
   (0x1ED7, "LATIN SMALL LETTER O WITH CIRCUMFLEX AND TILDE"),
   (0x1ED8, "LATIN CAPITAL LETTER O WITH CIRCUMFLEX AND DOT BELOW"),
   (0x1ED9, "LATIN SMALL LETTER O WITH CIRCUMFLEX AND DOT BELOW"),
   (0x1EDA, "LATIN CAPITAL LETTER O WITH HORN AND ACUTE"),
   (0x1EDB, "LATIN SMALL LETTER O WITH HORN AND ACUTE"),
   (0x1EDC, "LATIN CAPITAL LETTER O WITH HORN AND GRAVE"),
   (0x1EDD, "LATIN SMALL LETTER O WITH HORN AND GRAVE"),
   (0x1EDE, "LATIN CAPITAL LETTER O WITH HORN AND HOOK ABOVE"),
   (0x1EDF, "LATIN SMALL LETTER O WITH HORN AND HOOK ABOVE"),
   (0x1EE0, "LATIN CAPITAL LETTER O WITH HORN AND TILDE"),
   (0x1EE1, "LATIN SMALL LETTER O WITH HORN AND TILDE"),
   (0x1EE2, "LATIN CAPITAL LETTER O WITH HORN AND DOT BELOW"),
   (0x1EE3, "LATIN SMALL LETTER O WITH HORN AND DOT BELOW"),
   (0x1EE4, "LATIN CAPITAL LETTER U WITH DOT BELOW;LATIN SMALL LETTER U WITH DOT BELOW"),
   (0x1EE6, "LATIN CAPITAL LETTER U WITH HOOK ABOVE;LATIN SMALL LETTER U WITH HOOK ABOVE"),
   (0x1EE8, "LATIN CAPITAL LETTER U WITH HORN AND ACUTE"),
   (0x1EE9, "LATIN SMALL LETTER U WITH HORN AND ACUTE"),
   (0x1EEA, "LATIN CAPITAL LETTER U WITH HORN AND GRAVE"),
   (0x1EEB, "LATIN SMALL LETTER U WITH HORN AND GRAVE"),
   (0x1EEC, "LATIN CAPITAL LETTER U WITH HORN AND HOOK ABOVE"),
   (0x1EED, "LATIN SMALL LETTER U WITH HORN AND HOOK ABOVE"),
   (0x1EEE, "LATIN CAPITAL LETTER U WITH HORN AND TILDE"),
   (0x1EEF, "LATIN SMALL LETTER U WITH HORN AND TILDE"),
   (0x1EF0, "LATIN CAPITAL LETTER U WITH HORN AND DOT BELOW"),
   (0x1EF1, "LATIN SMALL LETTER U WITH HORN AND DOT BELOW;LATIN CAPITAL LETTER Y WITH GRAVE"),
   (0x1EF3, "LATIN SMALL LETTER Y WITH GRAVE;LATIN CAPITAL LETTER Y WITH DOT BELOW"),
   (0x1EF5, "LATIN SMALL LETTER Y WITH DOT BELOW;LATIN CAPITAL LETTER Y WITH HOOK ABOVE"),
   (0x1EF7, "LATIN SMALL LETTER Y WITH HOOK ABOVE;LATIN CAPITAL LETTER Y WITH TILDE"),
   (0x1EF9, "LATIN SMALL LETTER Y WITH TILDE;LATIN CAPITAL LETTER MIDDLE-WELSH LL"),
   (0x1EFB, "LATIN SMALL LETTER MIDDLE-WELSH LL;LATIN CAPITAL LETTER MIDDLE-WELSH V"),
   (0x1EFD, "LATIN SMALL LETTER MIDDLE-WELSH V;LATIN CAPITAL LETTER Y WITH LOOP"),
   (0x1EFF, "LATIN SMALL LETTER Y WITH LOOP"),
   (0x3099, "COMBINING KATAKANA-HIRAGANA VOICED SOUND MARK"),
   (0x309A, "COMBINING KATAKANA-HIRAGANA SEMI-VOICED SOUND MARK"),
   (0x309B, "KATAKANA-HIRAGANA VOICED SOUND MARK;KATAKANA-HIRAGANA SEMI-VOICED SOUND MARK"),
   (0x309D, "HIRAGANA ITERATION MARK;HIRAGANA VOICED ITERATION MARK;HIRAGANA DIGRAPH YORI"),
   (0x30FB, "KATAKANA MIDDLE DOT;KATAKANA-HIRAGANA PROLONGED SOUND MARK"),
   (0x30FD, "KATAKANA ITERATION MARK;KATAKANA VOICED ITERATION MARK;KATAKANA DIGRAPH KOTO"),
   (0xFB00, "LATIN SMALL LIGATURE FF;LATIN SMALL LIGATURE FI;LATIN SMALL LIGATURE FL"),
   (0xFB03, "LATIN SMALL LIGATURE FFI;LATIN SMALL LIGATURE FFL;LATIN SMALL LIGATURE LONG S T"),
   (0xFB06, "LATIN SMALL LIGATURE ST"),
   (0xFE00, "VARIATION SELECTOR-1;VARIATION SELECTOR-2;VARIATION SELECTOR-3"),
   (0xFE03, "VARIATION SELECTOR-4;VARIATION SELECTOR-5;VARIATION SELECTOR-6"),
   (0xFE06, "VARIATION SELECTOR-7;VARIATION SELECTOR-8;VARIATION SELECTOR-9"),
   (0xFE09, "VARIATION SELECTOR-10;VARIATION SELECTOR-11;VARIATION SELECTOR-12"),
   (0xFE0C, "VARIATION SELECTOR-13;VARIATION SELECTOR-14;VARIATION SELECTOR-15"),
   (0xFE0F, "VARIATION SELECTOR-16"),
   (0xFF01, "FULLWIDTH EXCLAMATION MARK;FULLWIDTH QUOTATION MARK;FULLWIDTH NUMBER SIGN"),
   (0xFF04, "FULLWIDTH DOLLAR SIGN;FULLWIDTH PERCENT SIGN;FULLWIDTH AMPERSAND"),
   (0xFF07, "FULLWIDTH APOSTROPHE;FULLWIDTH LEFT PARENTHESIS;FULLWIDTH RIGHT PARENTHESIS"),
   (0xFF0A, "FULLWIDTH ASTERISK;FULLWIDTH PLUS SIGN;FULLWIDTH COMMA;FULLWIDTH HYPHEN-MINUS"),
   (0xFF0E, "FULLWIDTH FULL STOP;FULLWIDTH SOLIDUS;FULLWIDTH DIGIT ZERO;FULLWIDTH DIGIT ONE"),
   (0xFF12, "FULLWIDTH DIGIT TWO;FULLWIDTH DIGIT THREE;FULLWIDTH DIGIT FOUR"),
   (0xFF15, "FULLWIDTH DIGIT FIVE;FULLWIDTH DIGIT SIX;FULLWIDTH DIGIT SEVEN"),
   (0xFF18, "FULLWIDTH DIGIT EIGHT;FULLWIDTH DIGIT NINE;FULLWIDTH COLON;FULLWIDTH SEMICOLON"),
   (0xFF1C, "FULLWIDTH LESS-THAN SIGN;FULLWIDTH EQUALS SIGN;FULLWIDTH GREATER-THAN SIGN"),
   (0xFF1F, "FULLWIDTH QUESTION MARK;FULLWIDTH COMMERCIAL AT;FULLWIDTH LATIN CAPITAL LETTER A"),
   (0xFF22, "FULLWIDTH LATIN CAPITAL LETTER B;FULLWIDTH LATIN CAPITAL LETTER C"),
   (0xFF24, "FULLWIDTH LATIN CAPITAL LETTER D;FULLWIDTH LATIN CAPITAL LETTER E"),
   (0xFF26, "FULLWIDTH LATIN CAPITAL LETTER F;FULLWIDTH LATIN CAPITAL LETTER G"),
   (0xFF28, "FULLWIDTH LATIN CAPITAL LETTER H;FULLWIDTH LATIN CAPITAL LETTER I"),
   (0xFF2A, "FULLWIDTH LATIN CAPITAL LETTER J;FULLWIDTH LATIN CAPITAL LETTER K"),
   (0xFF2C, "FULLWIDTH LATIN CAPITAL LETTER L;FULLWIDTH LATIN CAPITAL LETTER M"),
   (0xFF2E, "FULLWIDTH LATIN CAPITAL LETTER N;FULLWIDTH LATIN CAPITAL LETTER O"),
   (0xFF30, "FULLWIDTH LATIN CAPITAL LETTER P;FULLWIDTH LATIN CAPITAL LETTER Q"),
   (0xFF32, "FULLWIDTH LATIN CAPITAL LETTER R;FULLWIDTH LATIN CAPITAL LETTER S"),
   (0xFF34, "FULLWIDTH LATIN CAPITAL LETTER T;FULLWIDTH LATIN CAPITAL LETTER U"),
   (0xFF36, "FULLWIDTH LATIN CAPITAL LETTER V;FULLWIDTH LATIN CAPITAL LETTER W"),
   (0xFF38, "FULLWIDTH LATIN CAPITAL LETTER X;FULLWIDTH LATIN CAPITAL LETTER Y"),
   (0xFF3A, "FULLWIDTH LATIN CAPITAL LETTER Z;FULLWIDTH LEFT SQUARE BRACKET"),
   (0xFF3C, "FULLWIDTH REVERSE SOLIDUS;FULLWIDTH RIGHT SQUARE BRACKET"),
   (0xFF3E, "FULLWIDTH CIRCUMFLEX ACCENT;FULLWIDTH LOW LINE;FULLWIDTH GRAVE ACCENT"),
   (0xFF41, "FULLWIDTH LATIN SMALL LETTER A;FULLWIDTH LATIN SMALL LETTER B"),
   (0xFF43, "FULLWIDTH LATIN SMALL LETTER C;FULLWIDTH LATIN SMALL LETTER D"),
   (0xFF45, "FULLWIDTH LATIN SMALL LETTER E;FULLWIDTH LATIN SMALL LETTER F"),
   (0xFF47, "FULLWIDTH LATIN SMALL LETTER G;FULLWIDTH LATIN SMALL LETTER H"),
   (0xFF49, "FULLWIDTH LATIN SMALL LETTER I;FULLWIDTH LATIN SMALL LETTER J"),
   (0xFF4B, "FULLWIDTH LATIN SMALL LETTER K;FULLWIDTH LATIN SMALL LETTER L"),
   (0xFF4D, "FULLWIDTH LATIN SMALL LETTER M;FULLWIDTH LATIN SMALL LETTER N"),
   (0xFF4F, "FULLWIDTH LATIN SMALL LETTER O;FULLWIDTH LATIN SMALL LETTER P"),
   (0xFF51, "FULLWIDTH LATIN SMALL LETTER Q;FULLWIDTH LATIN SMALL LETTER R"),
   (0xFF53, "FULLWIDTH LATIN SMALL LETTER S;FULLWIDTH LATIN SMALL LETTER T"),
   (0xFF55, "FULLWIDTH LATIN SMALL LETTER U;FULLWIDTH LATIN SMALL LETTER V"),
   (0xFF57, "FULLWIDTH LATIN SMALL LETTER W;FULLWIDTH LATIN SMALL LETTER X"),
   (0xFF59, "FULLWIDTH LATIN SMALL LETTER Y;FULLWIDTH LATIN SMALL LETTER Z"),
   (0xFF5B, "FULLWIDTH LEFT CURLY BRACKET;FULLWIDTH VERTICAL LINE"),
   (0xFF5D, "FULLWIDTH RIGHT CURLY BRACKET;FULLWIDTH TILDE;FULLWIDTH LEFT WHITE PARENTHESIS"),
   (0xFF60, "FULLWIDTH RIGHT WHITE PARENTHESIS;HALFWIDTH IDEOGRAPHIC FULL STOP"),
   (0xFF62, "HALFWIDTH LEFT CORNER BRACKET;HALFWIDTH RIGHT CORNER BRACKET"),
   (0xFF64, "HALFWIDTH IDEOGRAPHIC COMMA;HALFWIDTH KATAKANA MIDDLE DOT"),
   (0xFF66, "HALFWIDTH KATAKANA LETTER WO;HALFWIDTH KATAKANA LETTER SMALL A"),
   (0xFF68, "HALFWIDTH KATAKANA LETTER SMALL I;HALFWIDTH KATAKANA LETTER SMALL U"),
   (0xFF6A, "HALFWIDTH KATAKANA LETTER SMALL E;HALFWIDTH KATAKANA LETTER SMALL O"),
   (0xFF6C, "HALFWIDTH KATAKANA LETTER SMALL YA;HALFWIDTH KATAKANA LETTER SMALL YU"),
   (0xFF6E, "HALFWIDTH KATAKANA LETTER SMALL YO;HALFWIDTH KATAKANA LETTER SMALL TU"),
   (0xFF70, "HALFWIDTH KATAKANA-HIRAGANA PROLONGED SOUND MARK;HALFWIDTH KATAKANA LETTER A"),
   (0xFF72, "HALFWIDTH KATAKANA LETTER I;HALFWIDTH KATAKANA LETTER U"),
   (0xFF74, "HALFWIDTH KATAKANA LETTER E;HALFWIDTH KATAKANA LETTER O"),
   (0xFF76, "HALFWIDTH KATAKANA LETTER KA;HALFWIDTH KATAKANA LETTER KI"),
   (0xFF78, "HALFWIDTH KATAKANA LETTER KU;HALFWIDTH KATAKANA LETTER KE"),
   (0xFF7A, "HALFWIDTH KATAKANA LETTER KO;HALFWIDTH KATAKANA LETTER SA"),
   (0xFF7C, "HALFWIDTH KATAKANA LETTER SI;HALFWIDTH KATAKANA LETTER SU"),
   (0xFF7E, "HALFWIDTH KATAKANA LETTER SE;HALFWIDTH KATAKANA LETTER SO"),
   (0xFF80, "HALFWIDTH KATAKANA LETTER TA;HALFWIDTH KATAKANA LETTER TI"),
   (0xFF82, "HALFWIDTH KATAKANA LETTER TU;HALFWIDTH KATAKANA LETTER TE"),
   (0xFF84, "HALFWIDTH KATAKANA LETTER TO;HALFWIDTH KATAKANA LETTER NA"),
   (0xFF86, "HALFWIDTH KATAKANA LETTER NI;HALFWIDTH KATAKANA LETTER NU"),
   (0xFF88, "HALFWIDTH KATAKANA LETTER NE;HALFWIDTH KATAKANA LETTER NO"),
   (0xFF8A, "HALFWIDTH KATAKANA LETTER HA;HALFWIDTH KATAKANA LETTER HI"),
   (0xFF8C, "HALFWIDTH KATAKANA LETTER HU;HALFWIDTH KATAKANA LETTER HE"),
   (0xFF8E, "HALFWIDTH KATAKANA LETTER HO;HALFWIDTH KATAKANA LETTER MA"),
   (0xFF90, "HALFWIDTH KATAKANA LETTER MI;HALFWIDTH KATAKANA LETTER MU"),
   (0xFF92, "HALFWIDTH KATAKANA LETTER ME;HALFWIDTH KATAKANA LETTER MO"),
   (0xFF94, "HALFWIDTH KATAKANA LETTER YA;HALFWIDTH KATAKANA LETTER YU"),
   (0xFF96, "HALFWIDTH KATAKANA LETTER YO;HALFWIDTH KATAKANA LETTER RA"),
   (0xFF98, "HALFWIDTH KATAKANA LETTER RI;HALFWIDTH KATAKANA LETTER RU"),
   (0xFF9A, "HALFWIDTH KATAKANA LETTER RE;HALFWIDTH KATAKANA LETTER RO"),
   (0xFF9C, "HALFWIDTH KATAKANA LETTER WA;HALFWIDTH KATAKANA LETTER N"),
   (0xFF9E, "HALFWIDTH KATAKANA VOICED SOUND MARK;HALFWIDTH KATAKANA SEMI-VOICED SOUND MARK"),
   (0xFFA0, "HALFWIDTH HANGUL FILLER;HALFWIDTH HANGUL LETTER KIYEOK"),
   (0xFFA2, "HALFWIDTH HANGUL LETTER SSANGKIYEOK;HALFWIDTH HANGUL LETTER KIYEOK-SIOS"),
   (0xFFA4, "HALFWIDTH HANGUL LETTER NIEUN;HALFWIDTH HANGUL LETTER NIEUN-CIEUC"),
   (0xFFA6, "HALFWIDTH HANGUL LETTER NIEUN-HIEUH;HALFWIDTH HANGUL LETTER TIKEUT"),
   (0xFFA8, "HALFWIDTH HANGUL LETTER SSANGTIKEUT;HALFWIDTH HANGUL LETTER RIEUL"),
   (0xFFAA, "HALFWIDTH HANGUL LETTER RIEUL-KIYEOK;HALFWIDTH HANGUL LETTER RIEUL-MIEUM"),
   (0xFFAC, "HALFWIDTH HANGUL LETTER RIEUL-PIEUP;HALFWIDTH HANGUL LETTER RIEUL-SIOS"),
   (0xFFAE, "HALFWIDTH HANGUL LETTER RIEUL-THIEUTH;HALFWIDTH HANGUL LETTER RIEUL-PHIEUPH"),
   (0xFFB0, "HALFWIDTH HANGUL LETTER RIEUL-HIEUH;HALFWIDTH HANGUL LETTER MIEUM"),
   (0xFFB2, "HALFWIDTH HANGUL LETTER PIEUP;HALFWIDTH HANGUL LETTER SSANGPIEUP"),
   (0xFFB4, "HALFWIDTH HANGUL LETTER PIEUP-SIOS;HALFWIDTH HANGUL LETTER SIOS"),
   (0xFFB6, "HALFWIDTH HANGUL LETTER SSANGSIOS;HALFWIDTH HANGUL LETTER IEUNG"),
   (0xFFB8, "HALFWIDTH HANGUL LETTER CIEUC;HALFWIDTH HANGUL LETTER SSANGCIEUC"),
   (0xFFBA, "HALFWIDTH HANGUL LETTER CHIEUCH;HALFWIDTH HANGUL LETTER KHIEUKH"),
   (0xFFBC, "HALFWIDTH HANGUL LETTER THIEUTH;HALFWIDTH HANGUL LETTER PHIEUPH"),
   (0xFFBE, "HALFWIDTH HANGUL LETTER HIEUH"),
   (0xFFC2, "HALFWIDTH HANGUL LETTER A;HALFWIDTH HANGUL LETTER AE;HALFWIDTH HANGUL LETTER YA"),
   (0xFFC5, "HALFWIDTH HANGUL LETTER YAE;HALFWIDTH HANGUL LETTER EO;HALFWIDTH HANGUL LETTER E"),
   (0xFFCA, "HALFWIDTH HANGUL LETTER YEO;HALFWIDTH HANGUL LETTER YE;HALFWIDTH HANGUL LETTER O"),
   (0xFFCD, "HALFWIDTH HANGUL LETTER WA;HALFWIDTH HANGUL LETTER WAE;HALFWIDTH HANGUL LETTER OE"),
   (0xFFD2, "HALFWIDTH HANGUL LETTER YO;HALFWIDTH HANGUL LETTER U;HALFWIDTH HANGUL LETTER WEO"),
   (0xFFD5, "HALFWIDTH HANGUL LETTER WE;HALFWIDTH HANGUL LETTER WI;HALFWIDTH HANGUL LETTER YU"),
   (0xFFDA, "HALFWIDTH HANGUL LETTER EU;HALFWIDTH HANGUL LETTER YI;HALFWIDTH HANGUL LETTER I"),
   (0xFFE0, "FULLWIDTH CENT SIGN;FULLWIDTH POUND SIGN;FULLWIDTH NOT SIGN;FULLWIDTH MACRON"),
   (0xFFE4, "FULLWIDTH BROKEN BAR;FULLWIDTH YEN SIGN;FULLWIDTH WON SIGN")]

end HttpInterface.Text
