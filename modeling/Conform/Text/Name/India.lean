import Conform.Text.Name.Run

namespace Conform.Text.Name

/-- Names of the letters of India, from U+0900 to U+0DF4. -/
def india : List Run :=
  [⟨0x0900,
    ["DEVANAGARI SIGN INVERTED CANDRABINDU;2CANDRABINDU;2ANUSVARA;2VISARGA;1LETTER SHORT A;2A",
      "2AA;2I;2II;2U;2UU;2VOCALIC R;3L;2CANDRA E;2SHORT E;2E;2AI;2CANDRA O;2SHORT O;2O;2AU;2KA",
      "2KHA;2GA;2GHA;2NGA;2CA;2CHA;2JA;2JHA;2NYA;2TTA;2TTHA;2DDA;2DDHA;2NNA;2TA;2THA;2DA;2DHA;2NA",
      "2NNNA;2PA;2PHA;2BA;2BHA;2MA;2YA;2RA;2RRA;2LA;2LLA;2LLLA;2VA;2SHA;2SSA;2SA;2HA",
      "1VOWEL SIGN OE;3OOE;1SIGN NUKTA;2AVAGRAHA;1VOWEL SIGN AA;3I;3II;3U;3UU;3VOCALIC R;4RR",
      "3CANDRA E;3SHORT E;3E;3AI;3CANDRA O;3SHORT O;3O;3AU;1SIGN VIRAMA",
      "1VOWEL SIGN PRISHTHAMATRA E;3AW;1OM;1STRESS SIGN UDATTA;3ANUDATTA;1GRAVE ACCENT",
      "1ACUTE ACCENT;1VOWEL SIGN CANDRA LONG E;3UE;3UUE;1LETTER QA;2KHHA;2GHHA;2ZA;2DDDHA;2RHA",
      "2FA;2YYA;2VOCALIC RR;3LL;1VOWEL SIGN VOCALIC L;4LL;1DANDA;1DOUBLE DANDA;1DIGIT ZERO;2ONE",
      "2TWO;2THREE;2FOUR;2FIVE;2SIX;2SEVEN;2EIGHT;2NINE;1ABBREVIATION SIGN;1SIGN HIGH SPACING DOT",
      "1LETTER CANDRA A;2OE;2OOE;2AW;2UE;2UUE;2MARWARI DDA;2ZHA;2HEAVY YA;2GGA;2JJA;2GLOTTAL STOP",
      "2DDDA;2BBA;BENGALI ANJI;1SIGN CANDRABINDU;2ANUSVARA;2VISARGA"]⟩,
   ⟨0x0985,
    ["BENGALI LETTER A;2AA;2I;2II;2U;2UU;2VOCALIC R;3L"]⟩,
   ⟨0x098F,
    ["BENGALI LETTER E;2AI"]⟩,
   ⟨0x0993,
    ["BENGALI LETTER O;2AU;2KA;2KHA;2GA;2GHA;2NGA;2CA;2CHA;2JA;2JHA;2NYA;2TTA;2TTHA;2DDA;2DDHA",
      "2NNA;2TA;2THA;2DA;2DHA;2NA"]⟩,
   ⟨0x09AA,
    ["BENGALI LETTER PA;2PHA;2BA;2BHA;2MA;2YA;2RA"]⟩,
   ⟨0x09B2,
    ["BENGALI LETTER LA"]⟩,
   ⟨0x09B6,
    ["BENGALI LETTER SHA;2SSA;2SA;2HA"]⟩,
   ⟨0x09BC,
    ["BENGALI SIGN NUKTA;2AVAGRAHA;1VOWEL SIGN AA;3I;3II;3U;3UU;3VOCALIC R;4RR"]⟩,
   ⟨0x09C7,
    ["BENGALI VOWEL SIGN E;3AI"]⟩,
   ⟨0x09CB,
    ["BENGALI VOWEL SIGN O;3AU;1SIGN VIRAMA;1LETTER KHANDA TA"]⟩,
   ⟨0x09D7,
    ["BENGALI AU LENGTH MARK"]⟩,
   ⟨0x09DC,
    ["BENGALI LETTER RRA;2RHA"]⟩,
   ⟨0x09DF,
    ["BENGALI LETTER YYA;2VOCALIC RR;3LL;1VOWEL SIGN VOCALIC L;4LL"]⟩,
   ⟨0x09E6,
    ["BENGALI DIGIT ZERO;2ONE;2TWO;2THREE;2FOUR;2FIVE;2SIX;2SEVEN;2EIGHT;2NINE",
      "1LETTER RA WITH MIDDLE DIAGONAL;4LOWER DIAGONAL;1RUPEE MARK;2SIGN;1CURRENCY NUMERATOR ONE",
      "3TWO;3THREE;3FOUR;3ONE LESS THAN THE DENOMINATOR;2DENOMINATOR SIXTEEN;1ISSHAR;1GANDA MARK",
      "1LETTER VEDIC ANUSVARA;1ABBREVIATION SIGN;1SANDHI MARK"]⟩,
   ⟨0x0A01,
    ["GURMUKHI SIGN ADAK BINDI;2BINDI;2VISARGA"]⟩,
   ⟨0x0A05,
    ["GURMUKHI LETTER A;2AA;2I;2II;2U;2UU"]⟩,
   ⟨0x0A0F,
    ["GURMUKHI LETTER EE;2AI"]⟩,
   ⟨0x0A13,
    ["GURMUKHI LETTER OO;2AU;2KA;2KHA;2GA;2GHA;2NGA;2CA;2CHA;2JA;2JHA;2NYA;2TTA;2TTHA;2DDA;2DDHA",
      "2NNA;2TA;2THA;2DA;2DHA;2NA"]⟩,
   ⟨0x0A2A,
    ["GURMUKHI LETTER PA;2PHA;2BA;2BHA;2MA;2YA;2RA"]⟩,
   ⟨0x0A32,
    ["GURMUKHI LETTER LA;2LLA"]⟩,
   ⟨0x0A35,
    ["GURMUKHI LETTER VA;2SHA"]⟩,
   ⟨0x0A38,
    ["GURMUKHI LETTER SA;2HA"]⟩,
   ⟨0x0A3C,
    ["GURMUKHI SIGN NUKTA"]⟩,
   ⟨0x0A3E,
    ["GURMUKHI VOWEL SIGN AA;3I;3II;3U;3UU"]⟩,
   ⟨0x0A47,
    ["GURMUKHI VOWEL SIGN EE;3AI"]⟩,
   ⟨0x0A4B,
    ["GURMUKHI VOWEL SIGN OO;3AU;1SIGN VIRAMA"]⟩,
   ⟨0x0A51,
    ["GURMUKHI SIGN UDAAT"]⟩,
   ⟨0x0A59,
    ["GURMUKHI LETTER KHHA;2GHHA;2ZA;2RRA"]⟩,
   ⟨0x0A5E,
    ["GURMUKHI LETTER FA"]⟩,
   ⟨0x0A66,
    ["GURMUKHI DIGIT ZERO;2ONE;2TWO;2THREE;2FOUR;2FIVE;2SIX;2SEVEN;2EIGHT;2NINE;1TIPPI;1ADDAK",
      "1IRI;1URA;1EK ONKAR;1SIGN YAKASH;1ABBREVIATION SIGN"]⟩,
   ⟨0x0A81,
    ["GUJARATI SIGN CANDRABINDU;2ANUSVARA;2VISARGA"]⟩,
   ⟨0x0A85,
    ["GUJARATI LETTER A;2AA;2I;2II;2U;2UU;2VOCALIC R;3L;1VOWEL CANDRA E"]⟩,
   ⟨0x0A8F,
    ["GUJARATI LETTER E;2AI;1VOWEL CANDRA O"]⟩,
   ⟨0x0A93,
    ["GUJARATI LETTER O;2AU;2KA;2KHA;2GA;2GHA;2NGA;2CA;2CHA;2JA;2JHA;2NYA;2TTA;2TTHA;2DDA;2DDHA",
      "2NNA;2TA;2THA;2DA;2DHA;2NA"]⟩,
   ⟨0x0AAA,
    ["GUJARATI LETTER PA;2PHA;2BA;2BHA;2MA;2YA;2RA"]⟩,
   ⟨0x0AB2,
    ["GUJARATI LETTER LA;2LLA"]⟩,
   ⟨0x0AB5,
    ["GUJARATI LETTER VA;2SHA;2SSA;2SA;2HA"]⟩,
   ⟨0x0ABC,
    ["GUJARATI SIGN NUKTA;2AVAGRAHA;1VOWEL SIGN AA;3I;3II;3U;3UU;3VOCALIC R;4RR;3CANDRA E"]⟩,
   ⟨0x0AC7,
    ["GUJARATI VOWEL SIGN E;3AI;3CANDRA O"]⟩,
   ⟨0x0ACB,
    ["GUJARATI VOWEL SIGN O;3AU;1SIGN VIRAMA"]⟩,
   ⟨0x0AD0,
    ["GUJARATI OM"]⟩,
   ⟨0x0AE0,
    ["GUJARATI LETTER VOCALIC RR;3LL;1VOWEL SIGN VOCALIC L;4LL"]⟩,
   ⟨0x0AE6,
    ["GUJARATI DIGIT ZERO;2ONE;2TWO;2THREE;2FOUR;2FIVE;2SIX;2SEVEN;2EIGHT;2NINE",
      "1ABBREVIATION SIGN;1RUPEE SIGN"]⟩,
   ⟨0x0AF9,
    ["GUJARATI LETTER ZHA;1SIGN SUKUN;2SHADDA;2MADDAH;2THREE-DOT NUKTA ABOVE;2CIRCLE NUKTA ABOVE",
      "2TWO-CIRCLE NUKTA ABOVE"]⟩,
   ⟨0x0B01,
    ["ORIYA SIGN CANDRABINDU;2ANUSVARA;2VISARGA"]⟩,
   ⟨0x0B05,
    ["ORIYA LETTER A;2AA;2I;2II;2U;2UU;2VOCALIC R;3L"]⟩,
   ⟨0x0B0F,
    ["ORIYA LETTER E;2AI"]⟩,
   ⟨0x0B13,
    ["ORIYA LETTER O;2AU;2KA;2KHA;2GA;2GHA;2NGA;2CA;2CHA;2JA;2JHA;2NYA;2TTA;2TTHA;2DDA;2DDHA",
      "2NNA;2TA;2THA;2DA;2DHA;2NA"]⟩,
   ⟨0x0B2A,
    ["ORIYA LETTER PA;2PHA;2BA;2BHA;2MA;2YA;2RA"]⟩,
   ⟨0x0B32,
    ["ORIYA LETTER LA;2LLA"]⟩,
   ⟨0x0B35,
    ["ORIYA LETTER VA;2SHA;2SSA;2SA;2HA"]⟩,
   ⟨0x0B3C,
    ["ORIYA SIGN NUKTA;2AVAGRAHA;1VOWEL SIGN AA;3I;3II;3U;3UU;3VOCALIC R;4RR"]⟩,
   ⟨0x0B47,
    ["ORIYA VOWEL SIGN E;3AI"]⟩,
   ⟨0x0B4B,
    ["ORIYA VOWEL SIGN O;3AU;1SIGN VIRAMA"]⟩,
   ⟨0x0B55,
    ["ORIYA SIGN OVERLINE;1AI LENGTH MARK;1AU LENGTH MARK"]⟩,
   ⟨0x0B5C,
    ["ORIYA LETTER RRA;2RHA"]⟩,
   ⟨0x0B5F,
    ["ORIYA LETTER YYA;2VOCALIC RR;3LL;1VOWEL SIGN VOCALIC L;4LL"]⟩,
   ⟨0x0B66,
    ["ORIYA DIGIT ZERO;2ONE;2TWO;2THREE;2FOUR;2FIVE;2SIX;2SEVEN;2EIGHT;2NINE;1ISSHAR;1LETTER WA",
      "1FRACTION ONE QUARTER;3HALF;2THREE QUARTERS;2ONE SIXTEENTH;3EIGHTH;2THREE SIXTEENTHS"]⟩,
   ⟨0x0B82,
    ["TAMIL SIGN ANUSVARA;2VISARGA"]⟩,
   ⟨0x0B85,
    ["TAMIL LETTER A;2AA;2I;2II;2U;2UU"]⟩,
   ⟨0x0B8E,
    ["TAMIL LETTER E;2EE;2AI"]⟩,
   ⟨0x0B92,
    ["TAMIL LETTER O;2OO;2AU;2KA"]⟩,
   ⟨0x0B99,
    ["TAMIL LETTER NGA;2CA"]⟩,
   ⟨0x0B9C,
    ["TAMIL LETTER JA"]⟩,
   ⟨0x0B9E,
    ["TAMIL LETTER NYA;2TTA"]⟩,
   ⟨0x0BA3,
    ["TAMIL LETTER NNA;2TA"]⟩,
   ⟨0x0BA8,
    ["TAMIL LETTER NA;2NNNA;2PA"]⟩,
   ⟨0x0BAE,
    ["TAMIL LETTER MA;2YA;2RA;2RRA;2LA;2LLA;2LLLA;2VA;2SHA;2SSA;2SA;2HA"]⟩,
   ⟨0x0BBE,
    ["TAMIL VOWEL SIGN AA;3I;3II;3U;3UU"]⟩,
   ⟨0x0BC6,
    ["TAMIL VOWEL SIGN E;3EE;3AI"]⟩,
   ⟨0x0BCA,
    ["TAMIL VOWEL SIGN O;3OO;3AU;1SIGN VIRAMA"]⟩,
   ⟨0x0BD0,
    ["TAMIL OM"]⟩,
   ⟨0x0BD7,
    ["TAMIL AU LENGTH MARK"]⟩,
   ⟨0x0BE6,
    ["TAMIL DIGIT ZERO;2ONE;2TWO;2THREE;2FOUR;2FIVE;2SIX;2SEVEN;2EIGHT;2NINE;1NUMBER TEN",
      "2ONE HUNDRED;3THOUSAND;1DAY SIGN;1MONTH SIGN;1YEAR SIGN;1DEBIT SIGN;1CREDIT SIGN",
      "1AS ABOVE SIGN;1RUPEE SIGN;1NUMBER SIGN"]⟩,
   ⟨0x0C00,
    ["TELUGU SIGN COMBINING CANDRABINDU ABOVE;2CANDRABINDU;2ANUSVARA;2VISARGA",
      "2COMBINING ANUSVARA ABOVE;1LETTER A;2AA;2I;2II;2U;2UU;2VOCALIC R;3L"]⟩,
   ⟨0x0C0E,
    ["TELUGU LETTER E;2EE;2AI"]⟩,
   ⟨0x0C12,
    ["TELUGU LETTER O;2OO;2AU;2KA;2KHA;2GA;2GHA;2NGA;2CA;2CHA;2JA;2JHA;2NYA;2TTA;2TTHA;2DDA",
      "2DDHA;2NNA;2TA;2THA;2DA;2DHA;2NA"]⟩,
   ⟨0x0C2A,
    ["TELUGU LETTER PA;2PHA;2BA;2BHA;2MA;2YA;2RA;2RRA;2LA;2LLA;2LLLA;2VA;2SHA;2SSA;2SA;2HA"]⟩,
   ⟨0x0C3C,
    ["TELUGU SIGN NUKTA;2AVAGRAHA;1VOWEL SIGN AA;3I;3II;3U;3UU;3VOCALIC R;4RR"]⟩,
   ⟨0x0C46,
    ["TELUGU VOWEL SIGN E;3EE;3AI"]⟩,
   ⟨0x0C4A,
    ["TELUGU VOWEL SIGN O;3OO;3AU;1SIGN VIRAMA"]⟩,
   ⟨0x0C55,
    ["TELUGU LENGTH MARK;1AI LENGTH MARK"]⟩,
   ⟨0x0C58,
    ["TELUGU LETTER TSA;2DZA;2RRRA"]⟩,
   ⟨0x0C5D,
    ["TELUGU LETTER NAKAARA POLLU"]⟩,
   ⟨0x0C60,
    ["TELUGU LETTER VOCALIC RR;3LL;1VOWEL SIGN VOCALIC L;4LL"]⟩,
   ⟨0x0C66,
    ["TELUGU DIGIT ZERO;2ONE;2TWO;2THREE;2FOUR;2FIVE;2SIX;2SEVEN;2EIGHT;2NINE"]⟩,
   ⟨0x0C77,
    ["TELUGU SIGN SIDDHAM;1FRACTION DIGIT ZERO FOR ODD POWERS OF FOUR",
      "3ONE FOR ODD POWERS OF FOUR;3TWO FOR ODD POWERS OF FOUR;3THREE FOR ODD POWERS OF FOUR",
      "3ONE FOR EVEN POWERS OF FOUR;3TWO FOR EVEN POWERS OF FOUR;3THREE FOR EVEN POWERS OF FOUR",
      "1SIGN TUUMU;KANNADA SIGN SPACING CANDRABINDU;2CANDRABINDU;2ANUSVARA;2VISARGA;2SIDDHAM",
      "1LETTER A;2AA;2I;2II;2U;2UU;2VOCALIC R;3L"]⟩,
   ⟨0x0C8E,
    ["KANNADA LETTER E;2EE;2AI"]⟩,
   ⟨0x0C92,
    ["KANNADA LETTER O;2OO;2AU;2KA;2KHA;2GA;2GHA;2NGA;2CA;2CHA;2JA;2JHA;2NYA;2TTA;2TTHA;2DDA",
      "2DDHA;2NNA;2TA;2THA;2DA;2DHA;2NA"]⟩,
   ⟨0x0CAA,
    ["KANNADA LETTER PA;2PHA;2BA;2BHA;2MA;2YA;2RA;2RRA;2LA;2LLA"]⟩,
   ⟨0x0CB5,
    ["KANNADA LETTER VA;2SHA;2SSA;2SA;2HA"]⟩,
   ⟨0x0CBC,
    ["KANNADA SIGN NUKTA;2AVAGRAHA;1VOWEL SIGN AA;3I;3II;3U;3UU;3VOCALIC R;4RR"]⟩,
   ⟨0x0CC6,
    ["KANNADA VOWEL SIGN E;3EE;3AI"]⟩,
   ⟨0x0CCA,
    ["KANNADA VOWEL SIGN O;3OO;3AU;1SIGN VIRAMA"]⟩,
   ⟨0x0CD5,
    ["KANNADA LENGTH MARK;1AI LENGTH MARK"]⟩,
   ⟨0x0CDD,
    ["KANNADA LETTER NAKAARA POLLU;2FA"]⟩,
   ⟨0x0CE0,
    ["KANNADA LETTER VOCALIC RR;3LL;1VOWEL SIGN VOCALIC L;4LL"]⟩,
   ⟨0x0CE6,
    ["KANNADA DIGIT ZERO;2ONE;2TWO;2THREE;2FOUR;2FIVE;2SIX;2SEVEN;2EIGHT;2NINE"]⟩,
   ⟨0x0CF1,
    ["KANNADA SIGN JIHVAMULIYA;2UPADHMANIYA"]⟩,
   ⟨0x0D00,
    ["MALAYALAM SIGN COMBINING ANUSVARA ABOVE;2CANDRABINDU;2ANUSVARA;2VISARGA",
      "1LETTER VEDIC ANUSVARA;2A;2AA;2I;2II;2U;2UU;2VOCALIC R;3L"]⟩,
   ⟨0x0D0E,
    ["MALAYALAM LETTER E;2EE;2AI"]⟩,
   ⟨0x0D12,
    ["MALAYALAM LETTER O;2OO;2AU;2KA;2KHA;2GA;2GHA;2NGA;2CA;2CHA;2JA;2JHA;2NYA;2TTA;2TTHA;2DDA",
      "2DDHA;2NNA;2TA;2THA;2DA;2DHA;2NA;2NNNA;2PA;2PHA;2BA;2BHA;2MA;2YA;2RA;2RRA;2LA;2LLA;2LLLA",
      "2VA;2SHA;2SSA;2SA;2HA;2TTTA;1SIGN VERTICAL BAR VIRAMA;2CIRCULAR VIRAMA;2AVAGRAHA",
      "1VOWEL SIGN AA;3I;3II;3U;3UU;3VOCALIC R;4RR"]⟩,
   ⟨0x0D46,
    ["MALAYALAM VOWEL SIGN E;3EE;3AI"]⟩,
   ⟨0x0D4A,
    ["MALAYALAM VOWEL SIGN O;3OO;3AU;1SIGN VIRAMA;1LETTER DOT REPH;1SIGN PARA"]⟩,
   ⟨0x0D54,
    ["MALAYALAM LETTER CHILLU M;3Y;3LLL;1AU LENGTH MARK;1FRACTION ONE ONE-HUNDRED-AND-SIXTIETH",
      "3FORTIETH;2THREE EIGHTIETHS;2ONE TWENTIETH;3TENTH;2THREE TWENTIETHS;2ONE FIFTH",
      "1LETTER ARCHAIC II;2VOCALIC RR;3LL;1VOWEL SIGN VOCALIC L;4LL"]⟩,
   ⟨0x0D66,
    ["MALAYALAM DIGIT ZERO;2ONE;2TWO;2THREE;2FOUR;2FIVE;2SIX;2SEVEN;2EIGHT;2NINE;1NUMBER TEN",
      "2ONE HUNDRED;3THOUSAND;1FRACTION ONE QUARTER;3HALF;2THREE QUARTERS;2ONE SIXTEENTH;3EIGHTH",
      "2THREE SIXTEENTHS;1DATE MARK;1LETTER CHILLU NN;3N;3RR;3L;3LL;3K"]⟩,
   ⟨0x0D81,
    ["SINHALA SIGN CANDRABINDU;2ANUSVARAYA;2VISARGAYA"]⟩,
   ⟨0x0D85,
    ["SINHALA LETTER AYANNA;2AAYANNA;2AEYANNA;2AEEYANNA;2IYANNA;2IIYANNA;2UYANNA;2UUYANNA",
      "2IRUYANNA;2IRUUYANNA;2ILUYANNA;2ILUUYANNA;2EYANNA;2EEYANNA;2AIYANNA;2OYANNA;2OOYANNA",
      "2AUYANNA"]⟩,
   ⟨0x0D9A,
    ["SINHALA LETTER ALPAPRAANA KAYANNA;2MAHAAPRAANA KAYANNA;2ALPAPRAANA GAYANNA",
      "2MAHAAPRAANA GAYANNA;2KANTAJA NAASIKYAYA;2SANYAKA GAYANNA;2ALPAPRAANA CAYANNA",
      "2MAHAAPRAANA CAYANNA;2ALPAPRAANA JAYANNA;2MAHAAPRAANA JAYANNA;2TAALUJA NAASIKYAYA",
      "3SANYOOGA NAAKSIKYAYA;2SANYAKA JAYANNA;2ALPAPRAANA TTAYANNA;2MAHAAPRAANA TTAYANNA",
      "2ALPAPRAANA DDAYANNA;2MAHAAPRAANA DDAYANNA;2MUURDHAJA NAYANNA;2SANYAKA DDAYANNA",
      "2ALPAPRAANA TAYANNA;2MAHAAPRAANA TAYANNA;2ALPAPRAANA DAYANNA;2MAHAAPRAANA DAYANNA",
      "2DANTAJA NAYANNA"]⟩,
   ⟨0x0DB3,
    ["SINHALA LETTER SANYAKA DAYANNA;2ALPAPRAANA PAYANNA;2MAHAAPRAANA PAYANNA",
      "2ALPAPRAANA BAYANNA;2MAHAAPRAANA BAYANNA;2MAYANNA;2AMBA BAYANNA;2YAYANNA;2RAYANNA"]⟩,
   ⟨0x0DBD,
    ["SINHALA LETTER DANTAJA LAYANNA"]⟩,
   ⟨0x0DC0,
    ["SINHALA LETTER VAYANNA;2TAALUJA SAYANNA;2MUURDHAJA SAYANNA;2DANTAJA SAYANNA;2HAYANNA",
      "2MUURDHAJA LAYANNA;2FAYANNA"]⟩,
   ⟨0x0DCA,
    ["SINHALA SIGN AL-LAKUNA"]⟩,
   ⟨0x0DCF,
    ["SINHALA VOWEL SIGN AELA-PILLA;3KETTI AEDA-PILLA;3DIGA AEDA-PILLA;3KETTI IS-PILLA",
      "3DIGA IS-PILLA;3KETTI PAA-PILLA"]⟩,
   ⟨0x0DD6,
    ["SINHALA VOWEL SIGN DIGA PAA-PILLA"]⟩,
   ⟨0x0DD8,
    ["SINHALA VOWEL SIGN GAETTA-PILLA;3KOMBUVA;3DIGA KOMBUVA;3KOMBU DEKA;3KOMBUVA HAA AELA-PILLA",
      "5DIGA AELA-PILLA;5GAYANUKITTA;3GAYANUKITTA"]⟩,
   ⟨0x0DE6,
    ["SINHALA LITH DIGIT ZERO;3ONE;3TWO;3THREE;3FOUR;3FIVE;3SIX;3SEVEN;3EIGHT;3NINE"]⟩,
   ⟨0x0DF2,
    ["SINHALA VOWEL SIGN DIGA GAETTA-PILLA;4GAYANUKITTA;1PUNCTUATION KUNDDALIYA"]⟩]

end Conform.Text.Name
