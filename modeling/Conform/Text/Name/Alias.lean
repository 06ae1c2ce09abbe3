namespace Conform.Text.Name

/-- Names of controls, abbreviations and corrections, in the order of the characters that they stand
for. -/
def aliases : List (String × Nat) :=
  [("NULL", 0x0000), ("NUL", 0x0000), ("START OF HEADING", 0x0001), ("SOH", 0x0001),
    ("START OF TEXT", 0x0002), ("STX", 0x0002), ("END OF TEXT", 0x0003), ("ETX", 0x0003),
    ("END OF TRANSMISSION", 0x0004), ("EOT", 0x0004), ("ENQUIRY", 0x0005), ("ENQ", 0x0005),
    ("ACKNOWLEDGE", 0x0006), ("ACK", 0x0006), ("ALERT", 0x0007), ("BEL", 0x0007),
    ("BACKSPACE", 0x0008), ("BS", 0x0008), ("CHARACTER TABULATION", 0x0009),
    ("HORIZONTAL TABULATION", 0x0009), ("HT", 0x0009), ("TAB", 0x0009), ("LINE FEED", 0x000A),
    ("NEW LINE", 0x000A), ("END OF LINE", 0x000A), ("LF", 0x000A), ("NL", 0x000A), ("EOL", 0x000A),
    ("LINE TABULATION", 0x000B), ("VERTICAL TABULATION", 0x000B), ("VT", 0x000B),
    ("FORM FEED", 0x000C), ("FF", 0x000C), ("CARRIAGE RETURN", 0x000D), ("CR", 0x000D),
    ("SHIFT OUT", 0x000E), ("LOCKING-SHIFT ONE", 0x000E), ("SO", 0x000E), ("SHIFT IN", 0x000F),
    ("LOCKING-SHIFT ZERO", 0x000F), ("SI", 0x000F), ("DATA LINK ESCAPE", 0x0010), ("DLE", 0x0010),
    ("DEVICE CONTROL ONE", 0x0011), ("DC1", 0x0011), ("DEVICE CONTROL TWO", 0x0012),
    ("DC2", 0x0012), ("DEVICE CONTROL THREE", 0x0013), ("DC3", 0x0013),
    ("DEVICE CONTROL FOUR", 0x0014), ("DC4", 0x0014), ("NEGATIVE ACKNOWLEDGE", 0x0015),
    ("NAK", 0x0015), ("SYNCHRONOUS IDLE", 0x0016), ("SYN", 0x0016),
    ("END OF TRANSMISSION BLOCK", 0x0017), ("ETB", 0x0017), ("CANCEL", 0x0018), ("CAN", 0x0018),
    ("END OF MEDIUM", 0x0019), ("EOM", 0x0019), ("SUBSTITUTE", 0x001A), ("SUB", 0x001A),
    ("ESCAPE", 0x001B), ("ESC", 0x001B), ("INFORMATION SEPARATOR FOUR", 0x001C),
    ("FILE SEPARATOR", 0x001C), ("FS", 0x001C), ("INFORMATION SEPARATOR THREE", 0x001D),
    ("GROUP SEPARATOR", 0x001D), ("GS", 0x001D), ("INFORMATION SEPARATOR TWO", 0x001E),
    ("RECORD SEPARATOR", 0x001E), ("RS", 0x001E), ("INFORMATION SEPARATOR ONE", 0x001F),
    ("UNIT SEPARATOR", 0x001F), ("US", 0x001F), ("SP", 0x0020), ("DELETE", 0x007F),
    ("DEL", 0x007F), ("PADDING CHARACTER", 0x0080), ("PAD", 0x0080), ("HIGH OCTET PRESET", 0x0081),
    ("HOP", 0x0081), ("BREAK PERMITTED HERE", 0x0082), ("BPH", 0x0082), ("NO BREAK HERE", 0x0083),
    ("NBH", 0x0083), ("INDEX", 0x0084), ("IND", 0x0084), ("NEXT LINE", 0x0085), ("NEL", 0x0085),
    ("START OF SELECTED AREA", 0x0086), ("SSA", 0x0086), ("END OF SELECTED AREA", 0x0087),
    ("ESA", 0x0087), ("CHARACTER TABULATION SET", 0x0088), ("HORIZONTAL TABULATION SET", 0x0088),
    ("HTS", 0x0088), ("CHARACTER TABULATION WITH JUSTIFICATION", 0x0089),
    ("HORIZONTAL TABULATION WITH JUSTIFICATION", 0x0089), ("HTJ", 0x0089),
    ("LINE TABULATION SET", 0x008A), ("VERTICAL TABULATION SET", 0x008A), ("VTS", 0x008A),
    ("PARTIAL LINE FORWARD", 0x008B), ("PARTIAL LINE DOWN", 0x008B), ("PLD", 0x008B),
    ("PARTIAL LINE BACKWARD", 0x008C), ("PARTIAL LINE UP", 0x008C), ("PLU", 0x008C),
    ("REVERSE LINE FEED", 0x008D), ("REVERSE INDEX", 0x008D), ("RI", 0x008D),
    ("SINGLE SHIFT TWO", 0x008E), ("SINGLE-SHIFT-2", 0x008E), ("SS2", 0x008E),
    ("SINGLE SHIFT THREE", 0x008F), ("SINGLE-SHIFT-3", 0x008F), ("SS3", 0x008F),
    ("DEVICE CONTROL STRING", 0x0090), ("DCS", 0x0090), ("PRIVATE USE ONE", 0x0091),
    ("PRIVATE USE-1", 0x0091), ("PU1", 0x0091), ("PRIVATE USE TWO", 0x0092),
    ("PRIVATE USE-2", 0x0092), ("PU2", 0x0092), ("SET TRANSMIT STATE", 0x0093), ("STS", 0x0093),
    ("CANCEL CHARACTER", 0x0094), ("CCH", 0x0094), ("MESSAGE WAITING", 0x0095), ("MW", 0x0095),
    ("START OF GUARDED AREA", 0x0096), ("START OF PROTECTED AREA", 0x0096), ("SPA", 0x0096),
    ("END OF GUARDED AREA", 0x0097), ("END OF PROTECTED AREA", 0x0097), ("EPA", 0x0097),
    ("START OF STRING", 0x0098), ("SOS", 0x0098), ("SINGLE GRAPHIC CHARACTER INTRODUCER", 0x0099),
    ("SGC", 0x0099), ("SINGLE CHARACTER INTRODUCER", 0x009A), ("SCI", 0x009A),
    ("CONTROL SEQUENCE INTRODUCER", 0x009B), ("CSI", 0x009B), ("STRING TERMINATOR", 0x009C),
    ("ST", 0x009C), ("OPERATING SYSTEM COMMAND", 0x009D), ("OSC", 0x009D),
    ("PRIVACY MESSAGE", 0x009E), ("PM", 0x009E), ("APPLICATION PROGRAM COMMAND", 0x009F),
    ("APC", 0x009F), ("NBSP", 0x00A0), ("SHY", 0x00AD), ("LATIN CAPITAL LETTER GHA", 0x01A2),
    ("LATIN SMALL LETTER GHA", 0x01A3), ("CGJ", 0x034F), ("ALM", 0x061C),
    ("SYRIAC SUBLINEAR COLON SKEWED LEFT", 0x0709), ("KANNADA LETTER LLLA", 0x0CDE),
    ("LAO LETTER FO FON", 0x0E9D), ("LAO LETTER FO FAY", 0x0E9F), ("LAO LETTER RO", 0x0EA3),
    ("LAO LETTER LO", 0x0EA5), ("TIBETAN MARK BKA- SHOG GI MGO RGYAN", 0x0FD0),
    ("HANGUL JONGSEONG YESIEUNG-KIYEOK", 0x11EC),
    ("HANGUL JONGSEONG YESIEUNG-SSANGKIYEOK", 0x11ED), ("HANGUL JONGSEONG SSANGYESIEUNG", 0x11EE),
    ("HANGUL JONGSEONG YESIEUNG-KHIEUKH", 0x11EF), ("FVS1", 0x180B), ("FVS2", 0x180C),
    ("FVS3", 0x180D), ("MVS", 0x180E), ("FVS4", 0x180F), ("ZWSP", 0x200B), ("ZWNJ", 0x200C),
    ("ZWJ", 0x200D), ("LRM", 0x200E), ("RLM", 0x200F), ("LRE", 0x202A), ("RLE", 0x202B),
    ("PDF", 0x202C), ("LRO", 0x202D), ("RLO", 0x202E), ("NNBSP", 0x202F), ("MMSP", 0x205F),
    ("WJ", 0x2060), ("LRI", 0x2066), ("RLI", 0x2067), ("FSI", 0x2068), ("PDI", 0x2069),
    ("WEIERSTRASS ELLIPTIC FUNCTION", 0x2118), ("MICR ON US SYMBOL", 0x2448),
    ("MICR DASH SYMBOL", 0x2449),
    ("LEFTWARDS TRIANGLE-HEADED ARROW WITH DOUBLE VERTICAL STROKE", 0x2B7A),
    ("RIGHTWARDS TRIANGLE-HEADED ARROW WITH DOUBLE VERTICAL STROKE", 0x2B7C),
    ("YI SYLLABLE ITERATION MARK", 0xA015), ("MYANMAR LETTER KHAMTI LLA", 0xAA6E),
    ("PRESENTATION FORM FOR VERTICAL RIGHT WHITE LENTICULAR BRACKET", 0xFE18),
    ("BYTE ORDER MARK", 0xFEFF), ("BOM", 0xFEFF), ("ZWNBSP", 0xFEFF),
    ("CUNEIFORM SIGN NU11 TENU", 0x122D4), ("CUNEIFORM SIGN NU11 OVER NU11 BUR OVER BUR", 0x122D5),
    ("MEDEFAIDRIN CAPITAL LETTER H", 0x16E56), ("MEDEFAIDRIN CAPITAL LETTER NG", 0x16E57),
    ("MEDEFAIDRIN SMALL LETTER H", 0x16E76), ("MEDEFAIDRIN SMALL LETTER NG", 0x16E77),
    ("HENTAIGANA LETTER E-1", 0x1B001),
    ("BYZANTINE MUSICAL SYMBOL FTHORA SKLIRON CHROMA VASIS", 0x1D0C5)]

end Conform.Text.Name
