import StaticPages.Unicode.Category

namespace StaticPages.Unicode

/-- The general categories whose names begin with P. -/
def punctuation : Ranges := [
    (0x21, 0x23, 1), (0x25, 0x2A, 1), (0x2C, 0x2F, 1), (0x3A, 0x3B, 1), (0x3F, 0x40, 1),
    (0x5B, 0x5D, 1), (0x5F, 0x5F, 1), (0x7B, 0x7D, 2), (0xA1, 0xA1, 1), (0xA7, 0xA7, 1),
    (0xAB, 0xAB, 1), (0xB6, 0xB7, 1), (0xBB, 0xBB, 1), (0xBF, 0xBF, 1), (0x37E, 0x37E, 1),
    (0x387, 0x387, 1), (0x55A, 0x55F, 1), (0x589, 0x58A, 1), (0x5BE, 0x5C0, 2), (0x5C3, 0x5C3, 1),
    (0x5C6, 0x5C6, 1), (0x5F3, 0x5F4, 1), (0x609, 0x60A, 1), (0x60C, 0x60D, 1), (0x61B, 0x61D, 2),
    (0x61E, 0x61F, 1), (0x66A, 0x66D, 1), (0x6D4, 0x6D4, 1), (0x700, 0x70D, 1), (0x7F7, 0x7F9, 1),
    (0x830, 0x83E, 1), (0x85E, 0x85E, 1), (0x964, 0x965, 1), (0x970, 0x970, 1), (0x9FD, 0x9FD, 1),
    (0xA76, 0xA76, 1), (0xAF0, 0xAF0, 1), (0xC77, 0xC77, 1), (0xC84, 0xC84, 1), (0xDF4, 0xDF4, 1),
    (0xE4F, 0xE4F, 1), (0xE5A, 0xE5B, 1), (0xF04, 0xF12, 1), (0xF14, 0xF14, 1), (0xF3A, 0xF3D, 1),
    (0xF85, 0xF85, 1), (0xFD0, 0xFD4, 1), (0xFD9, 0xFDA, 1), (0x104A, 0x104F, 1),
    (0x10FB, 0x10FB, 1), (0x1360, 0x1368, 1), (0x1400, 0x1400, 1), (0x166E, 0x166E, 1),
    (0x169B, 0x169C, 1), (0x16EB, 0x16ED, 1), (0x1735, 0x1736, 1), (0x17D4, 0x17D6, 1),
    (0x17D8, 0x17DA, 1), (0x1800, 0x180A, 1), (0x1944, 0x1945, 1), (0x1A1E, 0x1A1F, 1),
    (0x1AA0, 0x1AA6, 1), (0x1AA8, 0x1AAD, 1), (0x1B5A, 0x1B60, 1), (0x1B7D, 0x1B7E, 1),
    (0x1BFC, 0x1BFF, 1), (0x1C3B, 0x1C3F, 1), (0x1C7E, 0x1C7F, 1), (0x1CC0, 0x1CC7, 1),
    (0x1CD3, 0x1CD3, 1), (0x2010, 0x2027, 1), (0x2030, 0x2043, 1), (0x2045, 0x2051, 1),
    (0x2053, 0x205E, 1), (0x207D, 0x207E, 1), (0x208D, 0x208E, 1), (0x2308, 0x230B, 1),
    (0x2329, 0x232A, 1), (0x2768, 0x2775, 1), (0x27C5, 0x27C6, 1), (0x27E6, 0x27EF, 1),
    (0x2983, 0x2998, 1), (0x29D8, 0x29DB, 1), (0x29FC, 0x29FD, 1), (0x2CF9, 0x2CFC, 1),
    (0x2CFE, 0x2CFF, 1), (0x2D70, 0x2D70, 1), (0x2E00, 0x2E2E, 1), (0x2E30, 0x2E4F, 1),
    (0x2E52, 0x2E5D, 1), (0x3001, 0x3003, 1), (0x3008, 0x3011, 1), (0x3014, 0x301F, 1),
    (0x3030, 0x3030, 1), (0x303D, 0x303D, 1), (0x30A0, 0x30A0, 1), (0x30FB, 0x30FB, 1),
    (0xA4FE, 0xA4FF, 1), (0xA60D, 0xA60F, 1), (0xA673, 0xA673, 1), (0xA67E, 0xA67E, 1),
    (0xA6F2, 0xA6F7, 1), (0xA874, 0xA877, 1), (0xA8CE, 0xA8CF, 1), (0xA8F8, 0xA8FA, 1),
    (0xA8FC, 0xA8FC, 1), (0xA92E, 0xA92F, 1), (0xA95F, 0xA95F, 1), (0xA9C1, 0xA9CD, 1),
    (0xA9DE, 0xA9DF, 1), (0xAA5C, 0xAA5F, 1), (0xAADE, 0xAADF, 1), (0xAAF0, 0xAAF1, 1),
    (0xABEB, 0xABEB, 1), (0xFD3E, 0xFD3F, 1), (0xFE10, 0xFE19, 1), (0xFE30, 0xFE52, 1),
    (0xFE54, 0xFE61, 1), (0xFE63, 0xFE63, 1), (0xFE68, 0xFE6A, 2), (0xFE6B, 0xFE6B, 1),
    (0xFF01, 0xFF03, 1), (0xFF05, 0xFF0A, 1), (0xFF0C, 0xFF0F, 1), (0xFF1A, 0xFF1B, 1),
    (0xFF1F, 0xFF20, 1), (0xFF3B, 0xFF3D, 1), (0xFF3F, 0xFF3F, 1), (0xFF5B, 0xFF5F, 2),
    (0xFF60, 0xFF65, 1), (0x10100, 0x10102, 1), (0x1039F, 0x1039F, 1), (0x103D0, 0x103D0, 1),
    (0x1056F, 0x1056F, 1), (0x10857, 0x10857, 1), (0x1091F, 0x1091F, 1), (0x1093F, 0x1093F, 1),
    (0x10A50, 0x10A58, 1), (0x10A7F, 0x10A7F, 1), (0x10AF0, 0x10AF6, 1), (0x10B39, 0x10B3F, 1),
    (0x10B99, 0x10B9C, 1), (0x10EAD, 0x10EAD, 1), (0x10F55, 0x10F59, 1), (0x10F86, 0x10F89, 1),
    (0x11047, 0x1104D, 1), (0x110BB, 0x110BC, 1), (0x110BE, 0x110C1, 1), (0x11140, 0x11143, 1),
    (0x11174, 0x11175, 1), (0x111C5, 0x111C8, 1), (0x111CD, 0x111CD, 1), (0x111DB, 0x111DD, 2),
    (0x111DE, 0x111DF, 1), (0x11238, 0x1123D, 1), (0x112A9, 0x112A9, 1), (0x1144B, 0x1144F, 1),
    (0x1145A, 0x1145B, 1), (0x1145D, 0x1145D, 1), (0x114C6, 0x114C6, 1), (0x115C1, 0x115D7, 1),
    (0x11641, 0x11643, 1), (0x11660, 0x1166C, 1), (0x116B9, 0x116B9, 1), (0x1173C, 0x1173E, 1),
    (0x1183B, 0x1183B, 1), (0x11944, 0x11946, 1), (0x119E2, 0x119E2, 1), (0x11A3F, 0x11A46, 1),
    (0x11A9A, 0x11A9C, 1), (0x11A9E, 0x11AA2, 1), (0x11B00, 0x11B09, 1), (0x11C41, 0x11C45, 1),
    (0x11C70, 0x11C71, 1), (0x11EF7, 0x11EF8, 1), (0x11F43, 0x11F4F, 1), (0x11FFF, 0x11FFF, 1),
    (0x12470, 0x12474, 1), (0x12FF1, 0x12FF2, 1), (0x16A6E, 0x16A6F, 1), (0x16AF5, 0x16AF5, 1),
    (0x16B37, 0x16B3B, 1), (0x16B44, 0x16B44, 1), (0x16E97, 0x16E9A, 1), (0x16FE2, 0x16FE2, 1),
    (0x1BC9F, 0x1BC9F, 1), (0x1DA87, 0x1DA8B, 1), (0x1E95E, 0x1E95F, 1)]

/-- The general categories whose names begin with S. -/
def symbols : Ranges := [
    (0x24, 0x24, 1), (0x2B, 0x2B, 1), (0x3C, 0x3E, 1), (0x5E, 0x60, 2), (0x7C, 0x7E, 2),
    (0xA2, 0xA6, 1), (0xA8, 0xA9, 1), (0xAC, 0xAE, 2), (0xAF, 0xB1, 1), (0xB4, 0xB4, 1),
    (0xB8, 0xB8, 1), (0xD7, 0xD7, 1), (0xF7, 0xF7, 1), (0x2C2, 0x2C5, 1), (0x2D2, 0x2DF, 1),
    (0x2E5, 0x2EB, 1), (0x2ED, 0x2EF, 2), (0x2F0, 0x2FF, 1), (0x375, 0x375, 1), (0x384, 0x385, 1),
    (0x3F6, 0x3F6, 1), (0x482, 0x482, 1), (0x58D, 0x58F, 1), (0x606, 0x608, 1), (0x60B, 0x60B, 1),
    (0x60E, 0x60F, 1), (0x6DE, 0x6DE, 1), (0x6E9, 0x6E9, 1), (0x6FD, 0x6FE, 1), (0x7F6, 0x7F6, 1),
    (0x7FE, 0x7FF, 1), (0x888, 0x888, 1), (0x9F2, 0x9F3, 1), (0x9FA, 0x9FB, 1), (0xAF1, 0xAF1, 1),
    (0xB70, 0xB70, 1), (0xBF3, 0xBFA, 1), (0xC7F, 0xC7F, 1), (0xD4F, 0xD4F, 1), (0xD79, 0xD79, 1),
    (0xE3F, 0xE3F, 1), (0xF01, 0xF03, 1), (0xF13, 0xF15, 2), (0xF16, 0xF17, 1), (0xF1A, 0xF1F, 1),
    (0xF34, 0xF38, 2), (0xFBE, 0xFC5, 1), (0xFC7, 0xFCC, 1), (0xFCE, 0xFCF, 1), (0xFD5, 0xFD8, 1),
    (0x109E, 0x109F, 1), (0x1390, 0x1399, 1), (0x166D, 0x166D, 1), (0x17DB, 0x17DB, 1),
    (0x1940, 0x1940, 1), (0x19DE, 0x19FF, 1), (0x1B61, 0x1B6A, 1), (0x1B74, 0x1B7C, 1),
    (0x1FBD, 0x1FBF, 2), (0x1FC0, 0x1FC1, 1), (0x1FCD, 0x1FCF, 1), (0x1FDD, 0x1FDF, 1),
    (0x1FED, 0x1FEF, 1), (0x1FFD, 0x1FFE, 1), (0x2044, 0x2044, 1), (0x2052, 0x2052, 1),
    (0x207A, 0x207C, 1), (0x208A, 0x208C, 1), (0x20A0, 0x20C0, 1), (0x2100, 0x2101, 1),
    (0x2103, 0x2106, 1), (0x2108, 0x2109, 1), (0x2114, 0x2116, 2), (0x2117, 0x2118, 1),
    (0x211E, 0x2123, 1), (0x2125, 0x2129, 2), (0x212E, 0x212E, 1), (0x213A, 0x213B, 1),
    (0x2140, 0x2144, 1), (0x214A, 0x214D, 1), (0x214F, 0x214F, 1), (0x218A, 0x218B, 1),
    (0x2190, 0x2307, 1), (0x230C, 0x2328, 1), (0x232B, 0x2426, 1), (0x2440, 0x244A, 1),
    (0x249C, 0x24E9, 1), (0x2500, 0x2767, 1), (0x2794, 0x27C4, 1), (0x27C7, 0x27E5, 1),
    (0x27F0, 0x2982, 1), (0x2999, 0x29D7, 1), (0x29DC, 0x29FB, 1), (0x29FE, 0x2B73, 1),
    (0x2B76, 0x2B95, 1), (0x2B97, 0x2BFF, 1), (0x2CE5, 0x2CEA, 1), (0x2E50, 0x2E51, 1),
    (0x2E80, 0x2E99, 1), (0x2E9B, 0x2EF3, 1), (0x2F00, 0x2FD5, 1), (0x2FF0, 0x2FFF, 1),
    (0x3004, 0x3004, 1), (0x3012, 0x3013, 1), (0x3020, 0x3020, 1), (0x3036, 0x3037, 1),
    (0x303E, 0x303F, 1), (0x309B, 0x309C, 1), (0x3190, 0x3191, 1), (0x3196, 0x319F, 1),
    (0x31C0, 0x31E3, 1), (0x31EF, 0x31EF, 1), (0x3200, 0x321E, 1), (0x322A, 0x3247, 1),
    (0x3250, 0x3250, 1), (0x3260, 0x327F, 1), (0x328A, 0x32B0, 1), (0x32C0, 0x33FF, 1),
    (0x4DC0, 0x4DFF, 1), (0xA490, 0xA4C6, 1), (0xA700, 0xA716, 1), (0xA720, 0xA721, 1),
    (0xA789, 0xA78A, 1), (0xA828, 0xA82B, 1), (0xA836, 0xA839, 1), (0xAA77, 0xAA79, 1),
    (0xAB5B, 0xAB5B, 1), (0xAB6A, 0xAB6B, 1), (0xFB29, 0xFB29, 1), (0xFBB2, 0xFBC2, 1),
    (0xFD40, 0xFD4F, 1), (0xFDCF, 0xFDCF, 1), (0xFDFC, 0xFDFF, 1), (0xFE62, 0xFE64, 2),
    (0xFE65, 0xFE66, 1), (0xFE69, 0xFE69, 1), (0xFF04, 0xFF04, 1), (0xFF0B, 0xFF0B, 1),
    (0xFF1C, 0xFF1E, 1), (0xFF3E, 0xFF40, 2), (0xFF5C, 0xFF5E, 2), (0xFFE0, 0xFFE6, 1),
    (0xFFE8, 0xFFEE, 1), (0xFFFC, 0xFFFD, 1), (0x10137, 0x1013F, 1), (0x10179, 0x10189, 1),
    (0x1018C, 0x1018E, 1), (0x10190, 0x1019C, 1), (0x101A0, 0x101A0, 1), (0x101D0, 0x101FC, 1),
    (0x10877, 0x10878, 1), (0x10AC8, 0x10AC8, 1), (0x1173F, 0x1173F, 1), (0x11FD5, 0x11FF1, 1),
    (0x16B3C, 0x16B3F, 1), (0x16B45, 0x16B45, 1), (0x1BC9C, 0x1BC9C, 1), (0x1CF50, 0x1CFC3, 1),
    (0x1D000, 0x1D0F5, 1), (0x1D100, 0x1D126, 1), (0x1D129, 0x1D164, 1), (0x1D16A, 0x1D16C, 1),
    (0x1D183, 0x1D184, 1), (0x1D18C, 0x1D1A9, 1), (0x1D1AE, 0x1D1EA, 1), (0x1D200, 0x1D241, 1),
    (0x1D245, 0x1D245, 1), (0x1D300, 0x1D356, 1), (0x1D6C1, 0x1D6C1, 1), (0x1D6DB, 0x1D6DB, 1),
    (0x1D6FB, 0x1D6FB, 1), (0x1D715, 0x1D715, 1), (0x1D735, 0x1D735, 1), (0x1D74F, 0x1D74F, 1),
    (0x1D76F, 0x1D76F, 1), (0x1D789, 0x1D789, 1), (0x1D7A9, 0x1D7A9, 1), (0x1D7C3, 0x1D7C3, 1),
    (0x1D800, 0x1D9FF, 1), (0x1DA37, 0x1DA3A, 1), (0x1DA6D, 0x1DA74, 1), (0x1DA76, 0x1DA83, 1),
    (0x1DA85, 0x1DA86, 1), (0x1E14F, 0x1E14F, 1), (0x1E2FF, 0x1E2FF, 1), (0x1ECAC, 0x1ECAC, 1),
    (0x1ECB0, 0x1ECB0, 1), (0x1ED2E, 0x1ED2E, 1), (0x1EEF0, 0x1EEF1, 1), (0x1F000, 0x1F02B, 1),
    (0x1F030, 0x1F093, 1), (0x1F0A0, 0x1F0AE, 1), (0x1F0B1, 0x1F0BF, 1), (0x1F0C1, 0x1F0CF, 1),
    (0x1F0D1, 0x1F0F5, 1), (0x1F10D, 0x1F1AD, 1), (0x1F1E6, 0x1F202, 1), (0x1F210, 0x1F23B, 1),
    (0x1F240, 0x1F248, 1), (0x1F250, 0x1F251, 1), (0x1F260, 0x1F265, 1), (0x1F300, 0x1F6D7, 1),
    (0x1F6DC, 0x1F6EC, 1), (0x1F6F0, 0x1F6FC, 1), (0x1F700, 0x1F776, 1), (0x1F77B, 0x1F7D9, 1),
    (0x1F7E0, 0x1F7EB, 1), (0x1F7F0, 0x1F7F0, 1), (0x1F800, 0x1F80B, 1), (0x1F810, 0x1F847, 1),
    (0x1F850, 0x1F859, 1), (0x1F860, 0x1F887, 1), (0x1F890, 0x1F8AD, 1), (0x1F8B0, 0x1F8B1, 1),
    (0x1F900, 0x1FA53, 1), (0x1FA60, 0x1FA6D, 1), (0x1FA70, 0x1FA7C, 1), (0x1FA80, 0x1FA88, 1),
    (0x1FA90, 0x1FABD, 1), (0x1FABF, 0x1FAC5, 1), (0x1FACE, 0x1FADB, 1), (0x1FAE0, 0x1FAE8, 1),
    (0x1FAF0, 0x1FAF8, 1), (0x1FB00, 0x1FB92, 1), (0x1FB94, 0x1FBCA, 1)]

/-- The general categories whose names begin with Z. -/
def separators : Ranges := [
    (0x20, 0x20, 1), (0xA0, 0xA0, 1), (0x1680, 0x1680, 1), (0x2000, 0x200A, 1),
    (0x2028, 0x2029, 1), (0x202F, 0x202F, 1), (0x205F, 0x205F, 1), (0x3000, 0x3000, 1)]

def isPunctuation (c : Char) : Bool :=
  punctuation.has c.toNat

def isSymbol (c : Char) : Bool :=
  symbols.has c.toNat

def isSeparator (c : Char) : Bool :=
  separators.has c.toNat

/-- General category Cc. -/
def isControl (c : Char) : Bool :=
  c.toNat < 0x20 || (0x7F ≤ c.toNat && c.toNat ≤ 0x9F)

end StaticPages.Unicode
