import PermissionScreen.Unicode.CombiningClass

/-!
Compatibility decomposition (normalization form NFKD) of Unicode 18.0. Each character is replaced
by its full decomposition, and the marks of the result are put in canonical order. Hangul
syllables decompose by arithmetic and are not in the table.
-/

namespace PermissionScreen.Unicode

/-- Runs of characters that decompose: the first code point of a run, and on successive lines what
it and the code points after it decompose to. -/
def decompositionRuns : List (Nat × String) := [
  (0x00A0, " "), (0x00A8, " \u0308"), (0x00AA, "a"), (0x00AF, " \u0304"),
  (0x00B2, "2\n3\n \u0301\nμ"), (0x00B8, " \u0327\n1\no"), (0x00BC, "1⁄4\n1⁄2\n3⁄4"),
  (0x00C0, "A\u0300\nA\u0301\nA\u0302\nA\u0303\nA\u0308\nA\u030a"),
  (0x00C7, "C\u0327\nE\u0300\nE\u0301\nE\u0302\nE\u0308\nI\u0300\nI\u0301\nI\u0302"),
  (0x00CF, "I\u0308"), (0x00D1, "N\u0303\nO\u0300\nO\u0301\nO\u0302\nO\u0303\nO\u0308"),
  (0x00D9, "U\u0300\nU\u0301\nU\u0302\nU\u0308\nY\u0301"),
  (0x00E0, "a\u0300\na\u0301\na\u0302\na\u0303\na\u0308\na\u030a"),
  (0x00E7, "c\u0327\ne\u0300\ne\u0301\ne\u0302\ne\u0308\ni\u0300\ni\u0301\ni\u0302"),
  (0x00EF, "i\u0308"), (0x00F1, "n\u0303\no\u0300\no\u0301\no\u0302\no\u0303\no\u0308"),
  (0x00F9, "u\u0300\nu\u0301\nu\u0302\nu\u0308\ny\u0301"),
  (0x00FF, "y\u0308\nA\u0304\na\u0304\nA\u0306\na\u0306\nA\u0328\na\u0328\nC\u0301"),
  (0x0107, "c\u0301\nC\u0302\nc\u0302\nC\u0307\nc\u0307\nC\u030c\nc\u030c\nD\u030c"),
  (0x010F, "d\u030c"),
  (0x0112, "E\u0304\ne\u0304\nE\u0306\ne\u0306\nE\u0307\ne\u0307\nE\u0328\ne\u0328"),
  (0x011A, "E\u030c\ne\u030c\nG\u0302\ng\u0302\nG\u0306\ng\u0306\nG\u0307\ng\u0307"),
  (0x0122, "G\u0327\ng\u0327\nH\u0302\nh\u0302"),
  (0x0128, "I\u0303\ni\u0303\nI\u0304\ni\u0304\nI\u0306\ni\u0306\nI\u0328\ni\u0328"),
  (0x0130, "I\u0307"), (0x0132, "IJ\nij\nJ\u0302\nj\u0302\nK\u0327\nk\u0327"),
  (0x0139, "L\u0301\nl\u0301\nL\u0327\nl\u0327\nL\u030c\nl\u030c\nL·\nl·"),
  (0x0143, "N\u0301\nn\u0301\nN\u0327\nn\u0327\nN\u030c\nn\u030c\nʼn"),
  (0x014C, "O\u0304\no\u0304\nO\u0306\no\u0306\nO\u030b\no\u030b"),
  (0x0154, "R\u0301\nr\u0301\nR\u0327\nr\u0327\nR\u030c\nr\u030c\nS\u0301\ns\u0301"),
  (0x015C, "S\u0302\ns\u0302\nS\u0327\ns\u0327\nS\u030c\ns\u030c\nT\u0327\nt\u0327"),
  (0x0164, "T\u030c\nt\u030c"),
  (0x0168, "U\u0303\nu\u0303\nU\u0304\nu\u0304\nU\u0306\nu\u0306\nU\u030a\nu\u030a"),
  (0x0170, "U\u030b\nu\u030b\nU\u0328\nu\u0328\nW\u0302\nw\u0302\nY\u0302\ny\u0302"),
  (0x0178, "Y\u0308\nZ\u0301\nz\u0301\nZ\u0307\nz\u0307\nZ\u030c\nz\u030c\ns"),
  (0x01A0, "O\u031b\no\u031b"), (0x01AF, "U\u031b\nu\u031b"),
  (0x01C4, "DZ\u030c\nDz\u030c\ndz\u030c\nLJ\nLj\nlj\nNJ\nNj\nnj\nA\u030c\na\u030c"),
  (0x01CF, "I\u030c\ni\u030c\nO\u030c\no\u030c\nU\u030c\nu\u030c\nU\u0308\u0304"),
  (0x01D6, "u\u0308\u0304\nU\u0308\u0301\nu\u0308\u0301\nU\u0308\u030c\nu\u0308\u030c"),
  (0x01DB, "U\u0308\u0300\nu\u0308\u0300"),
  (0x01DE, "A\u0308\u0304\na\u0308\u0304\nA\u0307\u0304\na\u0307\u0304\nÆ\u0304\næ\u0304"),
  (0x01E6, "G\u030c\ng\u030c\nK\u030c\nk\u030c\nO\u0328\no\u0328\nO\u0328\u0304"),
  (0x01ED, "o\u0328\u0304\nƷ\u030c\nʒ\u030c\nj\u030c\nDZ\nDz\ndz\nG\u0301\ng\u0301"),
  (0x01F8, "N\u0300\nn\u0300\nA\u030a\u0301\na\u030a\u0301\nÆ\u0301\næ\u0301\nØ\u0301"),
  (0x01FF, "ø\u0301\nA\u030f\na\u030f\nA\u0311\na\u0311\nE\u030f\ne\u030f\nE\u0311"),
  (0x0207, "e\u0311\nI\u030f\ni\u030f\nI\u0311\ni\u0311\nO\u030f\no\u030f\nO\u0311"),
  (0x020F, "o\u0311\nR\u030f\nr\u030f\nR\u0311\nr\u0311\nU\u030f\nu\u030f\nU\u0311"),
  (0x0217, "u\u0311\nS\u0326\ns\u0326\nT\u0326\nt\u0326"), (0x021E, "H\u030c\nh\u030c"),
  (0x0226, "A\u0307\na\u0307\nE\u0327\ne\u0327\nO\u0308\u0304\no\u0308\u0304"),
  (0x022C, "O\u0303\u0304\no\u0303\u0304\nO\u0307\no\u0307\nO\u0307\u0304\no\u0307\u0304"),
  (0x0232, "Y\u0304\ny\u0304"), (0x02B0, "h\nɦ\nj\nr\nɹ\nɻ\nʁ\nw\ny"),
  (0x02D8, " \u0306\n \u0307\n \u030a\n \u0328\n \u0303\n \u030b"), (0x02E0, "ɣ\nl\ns\nx\nʕ"),
  (0x0340, "\u0300\n\u0301"), (0x0343, "\u0313\n\u0308\u0301"), (0x0374, "ʹ"), (0x037A, " \u0345"),
  (0x037E, ";"), (0x0384, " \u0301\n \u0308\u0301\nΑ\u0301\n·\nΕ\u0301\nΗ\u0301\nΙ\u0301"),
  (0x038C, "Ο\u0301"), (0x038E, "Υ\u0301\nΩ\u0301\nι\u0308\u0301"),
  (0x03AA, "Ι\u0308\nΥ\u0308\nα\u0301\nε\u0301\nη\u0301\nι\u0301\nυ\u0308\u0301"),
  (0x03CA, "ι\u0308\nυ\u0308\nο\u0301\nυ\u0301\nω\u0301"),
  (0x03D0, "β\nθ\nΥ\nΥ\u0301\nΥ\u0308\nφ\nπ"), (0x03F0, "κ\nρ\nς"), (0x03F4, "Θ\nε"),
  (0x03F9, "Σ"), (0x0400, "Е\u0300\nЕ\u0308"), (0x0403, "Г\u0301"), (0x0407, "І\u0308"),
  (0x040C, "К\u0301\nИ\u0300\nУ\u0306"), (0x0419, "И\u0306"), (0x0439, "и\u0306"),
  (0x0450, "е\u0300\nе\u0308"), (0x0453, "г\u0301"), (0x0457, "і\u0308"),
  (0x045C, "к\u0301\nи\u0300\nу\u0306"), (0x0476, "Ѵ\u030f\nѵ\u030f"),
  (0x04C1, "Ж\u0306\nж\u0306"), (0x04D0, "А\u0306\nа\u0306\nА\u0308\nа\u0308"),
  (0x04D6, "Е\u0306\nе\u0306"), (0x04DA, "Ә\u0308\nә\u0308\nЖ\u0308\nж\u0308\nЗ\u0308\nз\u0308"),
  (0x04E2, "И\u0304\nи\u0304\nИ\u0308\nи\u0308\nО\u0308\nо\u0308"),
  (0x04EA, "Ө\u0308\nө\u0308\nЭ\u0308\nэ\u0308\nУ\u0304\nу\u0304\nУ\u0308\nу\u0308"),
  (0x04F2, "У\u030b\nу\u030b\nЧ\u0308\nч\u0308"), (0x04F8, "Ы\u0308\nы\u0308"),
  (0x0558, "է"), (0x0587, "եւ"), (0x058B, "ի\nյ"),
  (0x0622, "\u0627\u0653\n\u0627\u0654\n\u0648\u0654\n\u0627\u0655\n\u064a\u0654"),
  (0x0675, "\u0627\u0674\n\u0648\u0674\n\u06c7\u0674\n\u064a\u0674"), (0x06C0, "\u06d5\u0654"),
  (0x06C2, "\u06c1\u0654"), (0x06D3, "\u06d2\u0654"), (0x0929, "न\u093c"), (0x0931, "र\u093c"),
  (0x0934, "ळ\u093c"),
  (0x0958, "क\u093c\nख\u093c\nग\u093c\nज\u093c\nड\u093c\nढ\u093c\nफ\u093c\nय\u093c"),
  (0x09CB, "\u09c7\u09be\n\u09c7\u09d7"), (0x09DC, "ড\u09bc\nঢ\u09bc"), (0x09DF, "য\u09bc"),
  (0x0A33, "ਲ\u0a3c"), (0x0A36, "ਸ\u0a3c"), (0x0A59, "ਖ\u0a3c\nਗ\u0a3c\nਜ\u0a3c"),
  (0x0A5E, "ਫ\u0a3c"), (0x0B48, "\u0b47\u0b56"), (0x0B4B, "\u0b47\u0b3e\n\u0b47\u0b57"),
  (0x0B5C, "ଡ\u0b3c\nଢ\u0b3c"), (0x0B94, "ஒ\u0bd7"),
  (0x0BCA, "\u0bc6\u0bbe\n\u0bc7\u0bbe\n\u0bc6\u0bd7"), (0x0C48, "\u0c46\u0c56"),
  (0x0CC0, "\u0cbf\u0cd5"), (0x0CC7, "\u0cc6\u0cd5\n\u0cc6\u0cd6"),
  (0x0CCA, "\u0cc6\u0cc2\n\u0cc6\u0cc2\u0cd5"),
  (0x0D4A, "\u0d46\u0d3e\n\u0d47\u0d3e\n\u0d46\u0d57"), (0x0DDA, "\u0dd9\u0dca"),
  (0x0DDC, "\u0dd9\u0dcf\n\u0dd9\u0dcf\u0dca\n\u0dd9\u0ddf"), (0x0E33, "\u0e4dา"),
  (0x0EB3, "\u0ecdາ"), (0x0EDC, "ຫນ\nຫມ"), (0x0F0C, "་"), (0x0F43, "ག\u0fb7"), (0x0F4D, "ཌ\u0fb7"),
  (0x0F52, "ད\u0fb7"), (0x0F57, "བ\u0fb7"), (0x0F5C, "ཛ\u0fb7"), (0x0F69, "ཀ\u0fb5"),
  (0x0F73, "\u0f71\u0f72"),
  (0x0F75, "\u0f71\u0f74\n\u0fb2\u0f80\n\u0fb2\u0f71\u0f80\n\u0fb3\u0f80"),
  (0x0F79, "\u0fb3\u0f71\u0f80"), (0x0F81, "\u0f71\u0f80"), (0x0F93, "\u0f92\u0fb7"),
  (0x0F9D, "\u0f9c\u0fb7"), (0x0FA2, "\u0fa1\u0fb7"), (0x0FA7, "\u0fa6\u0fb7"),
  (0x0FAC, "\u0fab\u0fb7"), (0x0FB9, "\u0f90\u0fb5"), (0x1026, "ဥ\u102e"), (0x10FC, "ნ"),
  (0x1B06, "ᬅ\u1b35"), (0x1B08, "ᬇ\u1b35"), (0x1B0A, "ᬉ\u1b35"), (0x1B0C, "ᬋ\u1b35"),
  (0x1B0E, "ᬍ\u1b35"), (0x1B12, "ᬑ\u1b35"), (0x1B3B, "\u1b3a\u1b35"), (0x1B3D, "\u1b3c\u1b35"),
  (0x1B40, "\u1b3e\u1b35\n\u1b3f\u1b35"), (0x1B43, "\u1b42\u1b35"), (0x1D2C, "A\nÆ\nB"),
  (0x1D30, "D\nE\nƎ\nG\nH\nI\nJ\nK\nL\nM\nN"),
  (0x1D3C, "O\nȢ\nP\nR\nT\nU\nW\na\nɐ\nɑ\nᴂ\nb\nd\ne\nə\nɛ\nɜ\ng"),
  (0x1D4F, "k\nm\nŋ\no\nɔ\nᴖ\nᴗ\np\nt\nu\nᴝ\nɯ\nv\nᴥ\nβ\nγ\nδ\nφ\nχ\ni\nr\nu\nv\nβ\nγ\nρ"),
  (0x1D69, "φ\nχ"), (0x1D78, "н"),
  (0x1D9B, "ɒ\nc\nɕ\nð\nɜ\nf\nɟ\nɡ\nɥ\nɨ\nɩ\nɪ\nᵻ\nʝ\nɭ\nᶅ\nʟ\nɱ\nɰ\nɲ\nɳ\nɴ\nɵ\nɸ\nʂ\nʃ"),
  (0x1DB5, "ƫ\nʉ\nʊ\nᴜ\nʋ\nʌ\nz\nʐ\nʑ\nʒ\nθ"),
  (0x1E00, "A\u0325\na\u0325\nB\u0307\nb\u0307\nB\u0323\nb\u0323\nB\u0331\nb\u0331"),
  (0x1E08, "C\u0327\u0301\nc\u0327\u0301\nD\u0307\nd\u0307\nD\u0323\nd\u0323\nD\u0331"),
  (0x1E0F, "d\u0331\nD\u0327\nd\u0327\nD\u032d\nd\u032d\nE\u0304\u0300\ne\u0304\u0300"),
  (0x1E16, "E\u0304\u0301\ne\u0304\u0301\nE\u032d\ne\u032d\nE\u0330\ne\u0330"),
  (0x1E1C, "E\u0327\u0306\ne\u0327\u0306\nF\u0307\nf\u0307\nG\u0304\ng\u0304\nH\u0307"),
  (0x1E23, "h\u0307\nH\u0323\nh\u0323\nH\u0308\nh\u0308\nH\u0327\nh\u0327\nH\u032e"),
  (0x1E2B, "h\u032e\nI\u0330\ni\u0330\nI\u0308\u0301\ni\u0308\u0301\nK\u0301\nk\u0301"),
  (0x1E32, "K\u0323\nk\u0323\nK\u0331\nk\u0331\nL\u0323\nl\u0323\nL\u0323\u0304"),
  (0x1E39, "l\u0323\u0304\nL\u0331\nl\u0331\nL\u032d\nl\u032d\nM\u0301\nm\u0301\nM\u0307"),
  (0x1E41, "m\u0307\nM\u0323\nm\u0323\nN\u0307\nn\u0307\nN\u0323\nn\u0323\nN\u0331"),
  (0x1E49, "n\u0331\nN\u032d\nn\u032d\nO\u0303\u0301\no\u0303\u0301\nO\u0303\u0308"),
  (0x1E4F, "o\u0303\u0308\nO\u0304\u0300\no\u0304\u0300\nO\u0304\u0301\no\u0304\u0301"),
  (0x1E54, "P\u0301\np\u0301\nP\u0307\np\u0307\nR\u0307\nr\u0307\nR\u0323\nr\u0323"),
  (0x1E5C, "R\u0323\u0304\nr\u0323\u0304\nR\u0331\nr\u0331\nS\u0307\ns\u0307\nS\u0323"),
  (0x1E63, "s\u0323\nS\u0301\u0307\ns\u0301\u0307\nS\u030c\u0307\ns\u030c\u0307"),
  (0x1E68, "S\u0323\u0307\ns\u0323\u0307\nT\u0307\nt\u0307\nT\u0323\nt\u0323\nT\u0331"),
  (0x1E6F, "t\u0331\nT\u032d\nt\u032d\nU\u0324\nu\u0324\nU\u0330\nu\u0330\nU\u032d"),
  (0x1E77, "u\u032d\nU\u0303\u0301\nu\u0303\u0301\nU\u0304\u0308\nu\u0304\u0308\nV\u0303"),
  (0x1E7D, "v\u0303\nV\u0323\nv\u0323\nW\u0300\nw\u0300\nW\u0301\nw\u0301\nW\u0308"),
  (0x1E85, "w\u0308\nW\u0307\nw\u0307\nW\u0323\nw\u0323\nX\u0307\nx\u0307\nX\u0308"),
  (0x1E8D, "x\u0308\nY\u0307\ny\u0307\nZ\u0302\nz\u0302\nZ\u0323\nz\u0323\nZ\u0331"),
  (0x1E95, "z\u0331\nh\u0331\nt\u0308\nw\u030a\ny\u030a\naʾ\ns\u0307"),
  (0x1EA0, "A\u0323\na\u0323\nA\u0309\na\u0309\nA\u0302\u0301\na\u0302\u0301"),
  (0x1EA6, "A\u0302\u0300\na\u0302\u0300\nA\u0302\u0309\na\u0302\u0309\nA\u0302\u0303"),
  (0x1EAB, "a\u0302\u0303\nA\u0323\u0302\na\u0323\u0302\nA\u0306\u0301\na\u0306\u0301"),
  (0x1EB0, "A\u0306\u0300\na\u0306\u0300\nA\u0306\u0309\na\u0306\u0309\nA\u0306\u0303"),
  (0x1EB5, "a\u0306\u0303\nA\u0323\u0306\na\u0323\u0306\nE\u0323\ne\u0323\nE\u0309"),
  (0x1EBB, "e\u0309\nE\u0303\ne\u0303\nE\u0302\u0301\ne\u0302\u0301\nE\u0302\u0300"),
  (0x1EC1, "e\u0302\u0300\nE\u0302\u0309\ne\u0302\u0309\nE\u0302\u0303\ne\u0302\u0303"),
  (0x1EC6, "E\u0323\u0302\ne\u0323\u0302\nI\u0309\ni\u0309\nI\u0323\ni\u0323\nO\u0323"),
  (0x1ECD, "o\u0323\nO\u0309\no\u0309\nO\u0302\u0301\no\u0302\u0301\nO\u0302\u0300"),
  (0x1ED3, "o\u0302\u0300\nO\u0302\u0309\no\u0302\u0309\nO\u0302\u0303\no\u0302\u0303"),
  (0x1ED8, "O\u0323\u0302\no\u0323\u0302\nO\u031b\u0301\no\u031b\u0301\nO\u031b\u0300"),
  (0x1EDD, "o\u031b\u0300\nO\u031b\u0309\no\u031b\u0309\nO\u031b\u0303\no\u031b\u0303"),
  (0x1EE2, "O\u031b\u0323\no\u031b\u0323\nU\u0323\nu\u0323\nU\u0309\nu\u0309"),
  (0x1EE8, "U\u031b\u0301\nu\u031b\u0301\nU\u031b\u0300\nu\u031b\u0300\nU\u031b\u0309"),
  (0x1EED, "u\u031b\u0309\nU\u031b\u0303\nu\u031b\u0303\nU\u031b\u0323\nu\u031b\u0323"),
  (0x1EF2, "Y\u0300\ny\u0300\nY\u0323\ny\u0323\nY\u0309\ny\u0309\nY\u0303\ny\u0303"),
  (0x1F00, "α\u0313\nα\u0314\nα\u0313\u0300\nα\u0314\u0300\nα\u0313\u0301\nα\u0314\u0301"),
  (0x1F06, "α\u0313\u0342\nα\u0314\u0342\nΑ\u0313\nΑ\u0314\nΑ\u0313\u0300\nΑ\u0314\u0300"),
  (0x1F0C, "Α\u0313\u0301\nΑ\u0314\u0301\nΑ\u0313\u0342\nΑ\u0314\u0342\nε\u0313\nε\u0314"),
  (0x1F12, "ε\u0313\u0300\nε\u0314\u0300\nε\u0313\u0301\nε\u0314\u0301"),
  (0x1F18, "Ε\u0313\nΕ\u0314\nΕ\u0313\u0300\nΕ\u0314\u0300\nΕ\u0313\u0301\nΕ\u0314\u0301"),
  (0x1F20, "η\u0313\nη\u0314\nη\u0313\u0300\nη\u0314\u0300\nη\u0313\u0301\nη\u0314\u0301"),
  (0x1F26, "η\u0313\u0342\nη\u0314\u0342\nΗ\u0313\nΗ\u0314\nΗ\u0313\u0300\nΗ\u0314\u0300"),
  (0x1F2C, "Η\u0313\u0301\nΗ\u0314\u0301\nΗ\u0313\u0342\nΗ\u0314\u0342\nι\u0313\nι\u0314"),
  (0x1F32, "ι\u0313\u0300\nι\u0314\u0300\nι\u0313\u0301\nι\u0314\u0301\nι\u0313\u0342"),
  (0x1F37, "ι\u0314\u0342\nΙ\u0313\nΙ\u0314\nΙ\u0313\u0300\nΙ\u0314\u0300\nΙ\u0313\u0301"),
  (0x1F3D, "Ι\u0314\u0301\nΙ\u0313\u0342\nΙ\u0314\u0342\nο\u0313\nο\u0314\nο\u0313\u0300"),
  (0x1F43, "ο\u0314\u0300\nο\u0313\u0301\nο\u0314\u0301"),
  (0x1F48, "Ο\u0313\nΟ\u0314\nΟ\u0313\u0300\nΟ\u0314\u0300\nΟ\u0313\u0301\nΟ\u0314\u0301"),
  (0x1F50, "υ\u0313\nυ\u0314\nυ\u0313\u0300\nυ\u0314\u0300\nυ\u0313\u0301\nυ\u0314\u0301"),
  (0x1F56, "υ\u0313\u0342\nυ\u0314\u0342"), (0x1F59, "Υ\u0314"), (0x1F5B, "Υ\u0314\u0300"),
  (0x1F5D, "Υ\u0314\u0301"),
  (0x1F5F, "Υ\u0314\u0342\nω\u0313\nω\u0314\nω\u0313\u0300\nω\u0314\u0300\nω\u0313\u0301"),
  (0x1F65, "ω\u0314\u0301\nω\u0313\u0342\nω\u0314\u0342\nΩ\u0313\nΩ\u0314\nΩ\u0313\u0300"),
  (0x1F6B, "Ω\u0314\u0300\nΩ\u0313\u0301\nΩ\u0314\u0301\nΩ\u0313\u0342\nΩ\u0314\u0342"),
  (0x1F70, "α\u0300\nα\u0301\nε\u0300\nε\u0301\nη\u0300\nη\u0301\nι\u0300\nι\u0301"),
  (0x1F78, "ο\u0300\nο\u0301\nυ\u0300\nυ\u0301\nω\u0300\nω\u0301"),
  (0x1F80, "α\u0313\u0345\nα\u0314\u0345\nα\u0313\u0300\u0345\nα\u0314\u0300\u0345"),
  (0x1F84, "α\u0313\u0301\u0345\nα\u0314\u0301\u0345\nα\u0313\u0342\u0345"),
  (0x1F87, "α\u0314\u0342\u0345\nΑ\u0313\u0345\nΑ\u0314\u0345\nΑ\u0313\u0300\u0345"),
  (0x1F8B, "Α\u0314\u0300\u0345\nΑ\u0313\u0301\u0345\nΑ\u0314\u0301\u0345"),
  (0x1F8E, "Α\u0313\u0342\u0345\nΑ\u0314\u0342\u0345\nη\u0313\u0345\nη\u0314\u0345"),
  (0x1F92, "η\u0313\u0300\u0345\nη\u0314\u0300\u0345\nη\u0313\u0301\u0345"),
  (0x1F95, "η\u0314\u0301\u0345\nη\u0313\u0342\u0345\nη\u0314\u0342\u0345\nΗ\u0313\u0345"),
  (0x1F99, "Η\u0314\u0345\nΗ\u0313\u0300\u0345\nΗ\u0314\u0300\u0345\nΗ\u0313\u0301\u0345"),
  (0x1F9D, "Η\u0314\u0301\u0345\nΗ\u0313\u0342\u0345\nΗ\u0314\u0342\u0345\nω\u0313\u0345"),
  (0x1FA1, "ω\u0314\u0345\nω\u0313\u0300\u0345\nω\u0314\u0300\u0345\nω\u0313\u0301\u0345"),
  (0x1FA5, "ω\u0314\u0301\u0345\nω\u0313\u0342\u0345\nω\u0314\u0342\u0345\nΩ\u0313\u0345"),
  (0x1FA9, "Ω\u0314\u0345\nΩ\u0313\u0300\u0345\nΩ\u0314\u0300\u0345\nΩ\u0313\u0301\u0345"),
  (0x1FAD, "Ω\u0314\u0301\u0345\nΩ\u0313\u0342\u0345\nΩ\u0314\u0342\u0345\nα\u0306"),
  (0x1FB1, "α\u0304\nα\u0300\u0345\nα\u0345\nα\u0301\u0345"),
  (0x1FB6, "α\u0342\nα\u0342\u0345\nΑ\u0306\nΑ\u0304\nΑ\u0300\nΑ\u0301\nΑ\u0345\n \u0313"),
  (0x1FBE, "ι\n \u0313\n \u0342\n \u0308\u0342\nη\u0300\u0345\nη\u0345\nη\u0301\u0345"),
  (0x1FC6, "η\u0342\nη\u0342\u0345\nΕ\u0300\nΕ\u0301\nΗ\u0300\nΗ\u0301\nΗ\u0345"),
  (0x1FCD, " \u0313\u0300\n \u0313\u0301\n \u0313\u0342\nι\u0306\nι\u0304\nι\u0308\u0300"),
  (0x1FD3, "ι\u0308\u0301"),
  (0x1FD6, "ι\u0342\nι\u0308\u0342\nΙ\u0306\nΙ\u0304\nΙ\u0300\nΙ\u0301"),
  (0x1FDD, " \u0314\u0300\n \u0314\u0301\n \u0314\u0342\nυ\u0306\nυ\u0304\nυ\u0308\u0300"),
  (0x1FE3, "υ\u0308\u0301\nρ\u0313\nρ\u0314\nυ\u0342\nυ\u0308\u0342\nΥ\u0306\nΥ\u0304"),
  (0x1FEA, "Υ\u0300\nΥ\u0301\nΡ\u0314\n \u0308\u0300\n \u0308\u0301\n`"),
  (0x1FF2, "ω\u0300\u0345\nω\u0345\nω\u0301\u0345"),
  (0x1FF6, "ω\u0342\nω\u0342\u0345\nΟ\u0300\nΟ\u0301\nΩ\u0300\nΩ\u0301\nΩ\u0345\n \u0301"),
  (0x1FFE, " \u0314"), (0x2000, " \n \n \n \n \n \n \n \n \n \n "), (0x2011, "‐"),
  (0x2017, " \u0333"), (0x2024, ".\n..\n..."), (0x202F, " "), (0x2033, "′′\n′′′"),
  (0x2036, "‵‵\n‵‵‵"), (0x203C, "!!"), (0x203E, " \u0305"), (0x2047, "??\n?!\n!?"),
  (0x2057, "′′′′"), (0x205F, " "), (0x2070, "0\ni"),
  (0x2074, "4\n5\n6\n7\n8\n9\n+\n−\n=\n(\n)\nn\n0\n1\n2\n3\n4\n5\n6\n7\n8\n9\n+\n−\n=\n("),
  (0x208E, ")"), (0x2090, "a\ne\no\nx\nə\nh\nk\nl\nm\nn\np\ns\nt\nw\ny\nz"), (0x20A8, "Rs"),
  (0x2100, "a/c\na/s\nC\n°C"), (0x2105, "c/o\nc/u\nƐ"),
  (0x2109, "°F\ng\nH\nH\nH\nh\nħ\nI\nI\nL\nl"), (0x2115, "N\nNo"), (0x2119, "P\nQ\nR\nR\nR"),
  (0x2120, "SM\nTEL\nTM"), (0x2124, "Z"), (0x2126, "Ω"), (0x2128, "Z"),
  (0x212A, "K\nA\u030a\nB\nC"), (0x212F, "e\nE\nF"),
  (0x2133, "M\no\n\u05d0\n\u05d1\n\u05d2\n\u05d3\ni"), (0x213B, "FAX\nπ\nγ\nΓ\nΠ\n∑"),
  (0x2145, "D\nd\ne\ni\nj"),
  (0x2150, "1⁄7\n1⁄9\n1⁄10\n1⁄3\n2⁄3\n1⁄5\n2⁄5\n3⁄5\n4⁄5\n1⁄6\n5⁄6\n1⁄8\n3⁄8\n5⁄8\n7⁄8"),
  (0x215F, "1⁄\nI\nII\nIII\nIV\nV\nVI\nVII\nVIII\nIX\nX\nXI\nXII\nL\nC\nD\nM\ni\nii\niii"),
  (0x2173, "iv\nv\nvi\nvii\nviii\nix\nx\nxi\nxii\nl\nc\nd\nm"), (0x2189, "0⁄3"),
  (0x219A, "←\u0338\n→\u0338"), (0x21AE, "↔\u0338"), (0x21CD, "⇐\u0338\n⇔\u0338\n⇒\u0338"),
  (0x2204, "∃\u0338"), (0x2209, "∈\u0338"), (0x220C, "∋\u0338"), (0x2224, "∣\u0338"),
  (0x2226, "∥\u0338"), (0x222C, "∫∫\n∫∫∫"), (0x222F, "∮∮\n∮∮∮"), (0x2241, "∼\u0338"),
  (0x2244, "≃\u0338"), (0x2247, "≅\u0338"), (0x2249, "≈\u0338"), (0x2260, "=\u0338"),
  (0x2262, "≡\u0338"), (0x226D, "≍\u0338\n<\u0338\n>\u0338\n≤\u0338\n≥\u0338"),
  (0x2274, "≲\u0338\n≳\u0338"), (0x2278, "≶\u0338\n≷\u0338"), (0x2280, "≺\u0338\n≻\u0338"),
  (0x2284, "⊂\u0338\n⊃\u0338"), (0x2288, "⊆\u0338\n⊇\u0338"),
  (0x22AC, "⊢\u0338\n⊨\u0338\n⊩\u0338\n⊫\u0338"), (0x22E0, "≼\u0338\n≽\u0338\n⊑\u0338\n⊒\u0338"),
  (0x22EA, "⊲\u0338\n⊳\u0338\n⊴\u0338\n⊵\u0338"), (0x2329, "〈\n〉"),
  (0x2460, "1\n2\n3\n4\n5\n6\n7\n8\n9\n10\n11\n12\n13\n14\n15\n16\n17\n18\n19\n20\n(1)"),
  (0x2475, "(2)\n(3)\n(4)\n(5)\n(6)\n(7)\n(8)\n(9)\n(10)\n(11)\n(12)\n(13)\n(14)\n(15)"),
  (0x2483, "(16)\n(17)\n(18)\n(19)\n(20)\n1.\n2.\n3.\n4.\n5.\n6.\n7.\n8.\n9.\n10.\n11."),
  (0x2493, "12.\n13.\n14.\n15.\n16.\n17.\n18.\n19.\n20.\n(a)\n(b)\n(c)\n(d)\n(e)\n(f)"),
  (0x24A2, "(g)\n(h)\n(i)\n(j)\n(k)\n(l)\n(m)\n(n)\n(o)\n(p)\n(q)\n(r)\n(s)\n(t)\n(u)"),
  (0x24B1, "(v)\n(w)\n(x)\n(y)\n(z)\nA\nB\nC\nD\nE\nF\nG\nH\nI\nJ\nK\nL\nM\nN\nO\nP\nQ\nR"),
  (0x24C8, "S\nT\nU\nV\nW\nX\nY\nZ\na\nb\nc\nd\ne\nf\ng\nh\ni\nj\nk\nl\nm\nn\no\np\nq\nr"),
  (0x24E2, "s\nt\nu\nv\nw\nx\ny\nz\n0"), (0x2A0C, "∫∫∫∫"), (0x2A74, "::=\n==\n==="),
  (0x2ADC, "⫝\u0338"), (0x2C7C, "j\nV"), (0x2D6F, "ⵡ"), (0x2E9F, "母"), (0x2EF3, "龟"),
  (0x2F00, "一\n丨\n丶\n丿\n乙\n亅\n二\n亠\n人\n儿\n入\n八\n冂\n冖\n冫\n几\n凵\n刀\n力\n勹\n匕\n匚\n匸\n十\n卜\n卩"),
  (0x2F1A, "厂\n厶\n又\n口\n囗\n土\n士\n夂\n夊\n夕\n大\n女\n子\n宀\n寸\n小\n尢\n尸\n屮\n山\n巛\n工\n己\n巾\n干\n幺"),
  (0x2F34, "广\n廴\n廾\n弋\n弓\n彐\n彡\n彳\n心\n戈\n戶\n手\n支\n攴\n文\n斗\n斤\n方\n无\n日\n曰\n月\n木\n欠\n止\n歹"),
  (0x2F4E, "殳\n毋\n比\n毛\n氏\n气\n水\n火\n爪\n父\n爻\n爿\n片\n牙\n牛\n犬\n玄\n玉\n瓜\n瓦\n甘\n生\n用\n田\n疋\n疒"),
  (0x2F68, "癶\n白\n皮\n皿\n目\n矛\n矢\n石\n示\n禸\n禾\n穴\n立\n竹\n米\n糸\n缶\n网\n羊\n羽\n老\n而\n耒\n耳\n聿\n肉"),
  (0x2F82, "臣\n自\n至\n臼\n舌\n舛\n舟\n艮\n色\n艸\n虍\n虫\n血\n行\n衣\n襾\n見\n角\n言\n谷\n豆\n豕\n豸\n貝\n赤\n走"),
  (0x2F9C, "足\n身\n車\n辛\n辰\n辵\n邑\n酉\n釆\n里\n金\n長\n門\n阜\n隶\n隹\n雨\n靑\n非\n面\n革\n韋\n韭\n音\n頁\n風"),
  (0x2FB6, "飛\n食\n首\n香\n馬\n骨\n高\n髟\n鬥\n鬯\n鬲\n鬼\n魚\n鳥\n鹵\n鹿\n麥\n麻\n黃\n黍\n黑\n黹\n黽\n鼎\n鼓\n鼠"),
  (0x2FD0, "鼻\n齊\n齒\n龍\n龜\n龠"), (0x3000, " "), (0x3036, "〒"), (0x3038, "十\n卄\n卅"),
  (0x304C, "か\u3099"), (0x304E, "き\u3099"), (0x3050, "く\u3099"), (0x3052, "け\u3099"),
  (0x3054, "こ\u3099"), (0x3056, "さ\u3099"), (0x3058, "し\u3099"), (0x305A, "す\u3099"),
  (0x305C, "せ\u3099"), (0x305E, "そ\u3099"), (0x3060, "た\u3099"), (0x3062, "ち\u3099"),
  (0x3065, "つ\u3099"), (0x3067, "て\u3099"), (0x3069, "と\u3099"), (0x3070, "は\u3099\nは\u309a"),
  (0x3073, "ひ\u3099\nひ\u309a"), (0x3076, "ふ\u3099\nふ\u309a"), (0x3079, "へ\u3099\nへ\u309a"),
  (0x307C, "ほ\u3099\nほ\u309a"), (0x3094, "う\u3099"), (0x309B, " \u3099\n \u309a"),
  (0x309E, "ゝ\u3099\nより"), (0x30AC, "カ\u3099"), (0x30AE, "キ\u3099"), (0x30B0, "ク\u3099"),
  (0x30B2, "ケ\u3099"), (0x30B4, "コ\u3099"), (0x30B6, "サ\u3099"), (0x30B8, "シ\u3099"),
  (0x30BA, "ス\u3099"), (0x30BC, "セ\u3099"), (0x30BE, "ソ\u3099"), (0x30C0, "タ\u3099"),
  (0x30C2, "チ\u3099"), (0x30C5, "ツ\u3099"), (0x30C7, "テ\u3099"), (0x30C9, "ト\u3099"),
  (0x30D0, "ハ\u3099\nハ\u309a"), (0x30D3, "ヒ\u3099\nヒ\u309a"), (0x30D6, "フ\u3099\nフ\u309a"),
  (0x30D9, "ヘ\u3099\nヘ\u309a"), (0x30DC, "ホ\u3099\nホ\u309a"), (0x30F4, "ウ\u3099"),
  (0x30F7, "ワ\u3099\nヰ\u3099\nヱ\u3099\nヲ\u3099"), (0x30FE, "ヽ\u3099\nコト"),
  (0x3131, "\u1100\n\u1101\n\u11aa\n\u1102\n\u11ac\n\u11ad\n\u1103\n\u1104\n\u1105"),
  (0x313A, "\u11b0\n\u11b1\n\u11b2\n\u11b3\n\u11b4\n\u11b5\n\u111a\n\u1106\n\u1107"),
  (0x3143, "\u1108\n\u1121\n\u1109\n\u110a\n\u110b\n\u110c\n\u110d\n\u110e\n\u110f"),
  (0x314C, "\u1110\n\u1111\n\u1112\n\u1161\n\u1162\n\u1163\n\u1164\n\u1165\n\u1166"),
  (0x3155, "\u1167\n\u1168\n\u1169\n\u116a\n\u116b\n\u116c\n\u116d\n\u116e\n\u116f"),
  (0x315E, "\u1170\n\u1171\n\u1172\n\u1173\n\u1174\n\u1175\n\u1160\n\u1114\n\u1115"),
  (0x3167, "\u11c7\n\u11c8\n\u11cc\n\u11ce\n\u11d3\n\u11d7\n\u11d9\n\u111c\n\u11dd"),
  (0x3170, "\u11df\n\u111d\n\u111e\n\u1120\n\u1122\n\u1123\n\u1127\n\u1129\n\u112b"),
  (0x3179, "\u112c\n\u112d\n\u112e\n\u112f\n\u1132\n\u1136\n\u1140\n\u1147\n\u114c"),
  (0x3182, "\u11f1\n\u11f2\n\u1157\n\u1158\n\u1159\n\u1184\n\u1185\n\u1188\n\u1191"),
  (0x318B, "\u1192\n\u1194\n\u119e\n\u11a1"), (0x3192, "一\n二\n三\n四\n上\n中\n下\n甲\n乙\n丙\n丁\n天\n地\n人"),
  (0x3200, "(\u1100)\n(\u1102)\n(\u1103)\n(\u1105)\n(\u1106)\n(\u1107)\n(\u1109)"),
  (0x3207, "(\u110b)\n(\u110c)\n(\u110e)\n(\u110f)\n(\u1110)\n(\u1111)\n(\u1112)"),
  (0x320E, "(\u1100\u1161)\n(\u1102\u1161)\n(\u1103\u1161)\n(\u1105\u1161)"),
  (0x3212, "(\u1106\u1161)\n(\u1107\u1161)\n(\u1109\u1161)\n(\u110b\u1161)"),
  (0x3216, "(\u110c\u1161)\n(\u110e\u1161)\n(\u110f\u1161)\n(\u1110\u1161)"),
  (0x321A, "(\u1111\u1161)\n(\u1112\u1161)\n(\u110c\u116e)"),
  (0x321D, "(\u110b\u1169\u110c\u1165\u11ab)\n(\u110b\u1169\u1112\u116e)"),
  (0x3220, "(一)\n(二)\n(三)\n(四)\n(五)\n(六)\n(七)\n(八)\n(九)\n(十)\n(月)\n(火)\n(水)\n(木)\n(金)"),
  (0x322F, "(土)\n(日)\n(株)\n(有)\n(社)\n(名)\n(特)\n(財)\n(祝)\n(労)\n(代)\n(呼)\n(学)\n(監)\n(企)"),
  (0x323E, "(資)\n(協)\n(祭)\n(休)\n(自)\n(至)\n問\n幼\n文\n箏"),
  (0x3250, "PTE\n21\n22\n23\n24\n25\n26\n27\n28\n29\n30\n31\n32\n33\n34\n35\n\u1100"),
  (0x3261, "\u1102\n\u1103\n\u1105\n\u1106\n\u1107\n\u1109\n\u110b\n\u110c\n\u110e"),
  (0x326A, "\u110f\n\u1110\n\u1111\n\u1112\n\u1100\u1161\n\u1102\u1161\n\u1103\u1161"),
  (0x3271, "\u1105\u1161\n\u1106\u1161\n\u1107\u1161\n\u1109\u1161\n\u110b\u1161"),
  (0x3276, "\u110c\u1161\n\u110e\u1161\n\u110f\u1161\n\u1110\u1161\n\u1111\u1161"),
  (0x327B, "\u1112\u1161\n\u110e\u1161\u11b7\u1100\u1169\n\u110c\u116e\u110b\u1174"),
  (0x327E, "\u110b\u116e"),
  (0x3280, "一\n二\n三\n四\n五\n六\n七\n八\n九\n十\n月\n火\n水\n木\n金\n土\n日\n株\n有\n社\n名\n特\n財\n祝\n労\n秘"),
  (0x329A, "男\n女\n適\n優\n印\n注\n項\n休\n写\n正\n上\n中\n下\n左\n右\n医\n宗\n学\n監\n企\n資\n協\n夜\n36\n37"),
  (0x32B3, "38\n39\n40\n41\n42\n43\n44\n45\n46\n47\n48\n49\n50\n1月\n2月\n3月\n4月\n5月\n6月"),
  (0x32C6, "7月\n8月\n9月\n10月\n11月\n12月\nHg\nerg\neV\nLTD\nア\nイ\nウ\nエ\nオ\nカ\nキ\nク\nケ\nコ\nサ"),
  (0x32DB, "シ\nス\nセ\nソ\nタ\nチ\nツ\nテ\nト\nナ\nニ\nヌ\nネ\nノ\nハ\nヒ\nフ\nヘ\nホ\nマ\nミ\nム\nメ\nモ\nヤ\nユ"),
  (0x32F5, "ヨ\nラ\nリ\nル\nレ\nロ\nワ\nヰ\nヱ\nヲ\n令和\nアハ\u309aート\nアルファ\nアンヘ\u309aア\nアール"),
  (0x3304, "イニンク\u3099\nインチ\nウォン\nエスクート\u3099\nエーカー\nオンス\nオーム\nカイリ\nカラット\nカロリー\nカ\u3099ロン"),
  (0x330F, "カ\u3099ンマ\nキ\u3099カ\u3099\nキ\u3099ニー\nキュリー\nキ\u3099ルタ\u3099ー\nキロ\nキロク\u3099ラム"),
  (0x3316, "キロメートル\nキロワット\nク\u3099ラム\nク\u3099ラムトン\nクルセ\u3099イロ\nクローネ\nケース\nコルナ\nコーホ\u309a"),
  (0x331F, "サイクル\nサンチーム\nシリンク\u3099\nセンチ\nセント\nタ\u3099ース\nテ\u3099シ\nト\u3099ル\nトン\nナノ\nノット"),
  (0x332A, "ハイツ\nハ\u309aーセント\nハ\u309aーツ\nハ\u3099ーレル\nヒ\u309aアストル\nヒ\u309aクル\nヒ\u309aコ"),
  (0x3331, "ヒ\u3099ル\nファラット\u3099\nフィート\nフ\u3099ッシェル\nフラン\nヘクタール\nヘ\u309aソ\nヘ\u309aニヒ"),
  (0x3339, "ヘルツ\nヘ\u309aンス\nヘ\u309aーシ\u3099\nヘ\u3099ータ\nホ\u309aイント\nホ\u3099ルト\nホン"),
  (0x3340, "ホ\u309aント\u3099\nホール\nホーン\nマイクロ\nマイル\nマッハ\nマルク\nマンション\nミクロン\nミリ\nミリハ\u3099ール"),
  (0x334B, "メカ\u3099\nメカ\u3099トン\nメートル\nヤート\u3099\nヤール\nユアン\nリットル\nリラ\nルヒ\u309aー"),
  (0x3354, "ルーフ\u3099ル\nレム\nレントケ\u3099ン\nワット\n0点\n1点\n2点\n3点\n4点\n5点\n6点\n7点\n8点\n9点\n10点"),
  (0x3363, "11点\n12点\n13点\n14点\n15点\n16点\n17点\n18点\n19点\n20点\n21点\n22点\n23点\n24点\nhPa\nda"),
  (0x3373, "AU\nbar\noV\npc\ndm\ndm2\ndm3\nIU\n平成\n昭和\n大正\n明治\n株式会社\npA\nnA\nμA\nmA\nkA"),
  (0x3385, "KB\nMB\nGB\ncal\nkcal\npF\nnF\nμF\nμg\nmg\nkg\nHz\nkHz\nMHz\nGHz\nTHz\nμl\nml"),
  (0x3397, "dl\nkl\nfm\nnm\nμm\nmm\ncm\nkm\nmm2\ncm2\nm2\nkm2\nmm3\ncm3\nm3\nkm3\nm∕s"),
  (0x33A8, "m∕s2\nPa\nkPa\nMPa\nGPa\nrad\nrad∕s\nrad∕s2\nps\nns\nμs\nms\npV\nnV\nμV\nmV"),
  (0x33B8, "kV\nMV\npW\nnW\nμW\nmW\nkW\nMW\nkΩ\nMΩ\na.m.\nBq\ncc\ncd\nC∕kg\nCo.\ndB\nGy"),
  (0x33CA, "ha\nHP\nin\nKK\nKM\nkt\nlm\nln\nlog\nlx\nmb\nmil\nmol\nPH\np.m.\nPPM\nPR\nsr"),
  (0x33DC, "Sv\nWb\nV∕m\nA∕m\n1日\n2日\n3日\n4日\n5日\n6日\n7日\n8日\n9日\n10日\n11日\n12日\n13日\n14日"),
  (0x33EE, "15日\n16日\n17日\n18日\n19日\n20日\n21日\n22日\n23日\n24日\n25日\n26日\n27日\n28日\n29日"),
  (0x33FD, "30日\n31日\ngal"), (0xA69C, "ъ\nь"), (0xA770, "ꝯ"), (0xA7F1, "S\nC\nF\nQ"),
  (0xA7F8, "Ħ\nœ"), (0xAB5C, "ꜧ\nꬷ\nɫ\nꭒ"), (0xAB69, "ʍ"),
  (0xF900, "豈\n更\n車\n賈\n滑\n串\n句\n龜\n龜\n契\n金\n喇\n奈\n懶\n癩\n羅\n蘿\n螺\n裸\n邏\n樂\n洛\n烙\n珞\n落\n酪"),
  (0xF91A, "駱\n亂\n卵\n欄\n爛\n蘭\n鸞\n嵐\n濫\n藍\n襤\n拉\n臘\n蠟\n廊\n朗\n浪\n狼\n郎\n來\n冷\n勞\n擄\n櫓\n爐\n盧"),
  (0xF934, "老\n蘆\n虜\n路\n露\n魯\n鷺\n碌\n祿\n綠\n菉\n錄\n鹿\n論\n壟\n弄\n籠\n聾\n牢\n磊\n賂\n雷\n壘\n屢\n樓\n淚"),
  (0xF94E, "漏\n累\n縷\n陋\n勒\n肋\n凜\n凌\n稜\n綾\n菱\n陵\n讀\n拏\n樂\n諾\n丹\n寧\n怒\n率\n異\n北\n磻\n便\n復\n不"),
  (0xF968, "泌\n數\n索\n參\n塞\n省\n葉\n說\n殺\n辰\n沈\n拾\n若\n掠\n略\n亮\n兩\n凉\n梁\n糧\n良\n諒\n量\n勵\n呂\n女"),
  (0xF982, "廬\n旅\n濾\n礪\n閭\n驪\n麗\n黎\n力\n曆\n歷\n轢\n年\n憐\n戀\n撚\n漣\n煉\n璉\n秊\n練\n聯\n輦\n蓮\n連\n鍊"),
  (0xF99C, "列\n劣\n咽\n烈\n裂\n說\n廉\n念\n捻\n殮\n簾\n獵\n令\n囹\n寧\n嶺\n怜\n玲\n瑩\n羚\n聆\n鈴\n零\n靈\n領\n例"),
  (0xF9B6, "禮\n醴\n隸\n惡\n了\n僚\n寮\n尿\n料\n樂\n燎\n療\n蓼\n遼\n龍\n暈\n阮\n劉\n杻\n柳\n流\n溜\n琉\n留\n硫\n紐"),
  (0xF9D0, "類\n六\n戮\n陸\n倫\n崙\n淪\n輪\n律\n慄\n栗\n率\n隆\n利\n吏\n履\n易\n李\n梨\n泥\n理\n痢\n罹\n裏\n裡\n里"),
  (0xF9EA, "離\n匿\n溺\n吝\n燐\n璘\n藺\n隣\n鱗\n麟\n林\n淋\n臨\n立\n笠\n粒\n狀\n炙\n識\n什\n茶\n刺\n切\n度\n拓\n糖"),
  (0xFA04, "宅\n洞\n暴\n輻\n行\n降\n見\n廓\n兀\n嗀"), (0xFA10, "塚"), (0xFA12, "晴"),
  (0xFA15, "凞\n猪\n益\n礼\n神\n祥\n福\n靖\n精\n羽"), (0xFA20, "蘒"), (0xFA22, "諸"), (0xFA25, "逸\n都"),
  (0xFA2A, "飯\n飼\n館\n鶴\n郞\n隷\n侮\n僧\n免\n勉\n勤\n卑\n喝\n嘆\n器\n塀\n墨\n層\n屮\n悔\n慨\n憎\n懲\n敏\n既\n暑"),
  (0xFA44, "梅\n海\n渚\n漢\n煮\n爫\n琢\n碑\n社\n祉\n祈\n祐\n祖\n祝\n禍\n禎\n穀\n突\n節\n練\n縉\n繁\n署\n者\n臭\n艹"),
  (0xFA5E, "艹\n著\n褐\n視\n謁\n謹\n賓\n贈\n辶\n逸\n難\n響\n頻\n恵\n𤋮\n舘"),
  (0xFA70, "並\n况\n全\n侀\n充\n冀\n勇\n勺\n喝\n啕\n喙\n嗢\n塚\n墳\n奄\n奔\n婢\n嬨\n廒\n廙\n彩\n徭\n惘\n慎\n愈\n憎"),
  (0xFA8A, "慠\n懲\n戴\n揄\n搜\n摒\n敖\n晴\n朗\n望\n杖\n歹\n殺\n流\n滛\n滋\n漢\n瀞\n煮\n瞧\n爵\n犯\n猪\n瑱\n甆\n画"),
  (0xFAA4, "瘝\n瘟\n益\n盛\n直\n睊\n着\n磌\n窱\n節\n类\n絛\n練\n缾\n者\n荒\n華\n蝹\n襁\n覆\n視\n調\n諸\n請\n謁\n諾"),
  (0xFABE, "諭\n謹\n變\n贈\n輸\n遲\n醙\n鉶\n陼\n難\n靖\n韛\n響\n頋\n頻\n鬒\n龜\n𢡊\n𢡄\n𣏕\n㮝\n䀘\n䀹\n𥉉\n𥳐\n𧻓"),
  (0xFAD8, "齃\n龎"), (0xFB00, "ff\nfi\nfl\nffi\nffl\nst\nst"), (0xFB13, "մն\nմե\nմի\nվն\nմխ"),
  (0xFB1D, "\u05d9\u05b4"),
  (0xFB1F, "\u05f2\u05b7\n\u05e2\n\u05d0\n\u05d3\n\u05d4\n\u05db\n\u05dc\n\u05dd\n\u05e8"),
  (0xFB28, "\u05ea\n+\n\u05e9\u05c1\n\u05e9\u05c2\n\u05e9\u05bc\u05c1\n\u05e9\u05bc\u05c2"),
  (0xFB2E, "\u05d0\u05b7\n\u05d0\u05b8\n\u05d0\u05bc\n\u05d1\u05bc\n\u05d2\u05bc"),
  (0xFB33, "\u05d3\u05bc\n\u05d4\u05bc\n\u05d5\u05bc\n\u05d6\u05bc"),
  (0xFB38, "\u05d8\u05bc\n\u05d9\u05bc\n\u05da\u05bc\n\u05db\u05bc\n\u05dc\u05bc"),
  (0xFB3E, "\u05de\u05bc"), (0xFB40, "\u05e0\u05bc\n\u05e1\u05bc"),
  (0xFB43, "\u05e3\u05bc\n\u05e4\u05bc"),
  (0xFB46, "\u05e6\u05bc\n\u05e7\u05bc\n\u05e8\u05bc\n\u05e9\u05bc\n\u05ea\u05bc"),
  (0xFB4B, "\u05d5\u05b9\n\u05d1\u05bf\n\u05db\u05bf\n\u05e4\u05bf\n\u05d0\u05dc\n\u0671"),
  (0xFB51, "\u0671\n\u067b\n\u067b\n\u067b\n\u067b\n\u067e\n\u067e\n\u067e\n\u067e"),
  (0xFB5A, "\u0680\n\u0680\n\u0680\n\u0680\n\u067a\n\u067a\n\u067a\n\u067a\n\u067f"),
  (0xFB63, "\u067f\n\u067f\n\u067f\n\u0679\n\u0679\n\u0679\n\u0679\n\u06a4\n\u06a4"),
  (0xFB6C, "\u06a4\n\u06a4\n\u06a6\n\u06a6\n\u06a6\n\u06a6\n\u0684\n\u0684\n\u0684"),
  (0xFB75, "\u0684\n\u0683\n\u0683\n\u0683\n\u0683\n\u0686\n\u0686\n\u0686\n\u0686"),
  (0xFB7E, "\u0687\n\u0687\n\u0687\n\u0687\n\u068d\n\u068d\n\u068c\n\u068c\n\u068e"),
  (0xFB87, "\u068e\n\u0688\n\u0688\n\u0698\n\u0698\n\u0691\n\u0691\n\u06a9\n\u06a9"),
  (0xFB90, "\u06a9\n\u06a9\n\u06af\n\u06af\n\u06af\n\u06af\n\u06b3\n\u06b3\n\u06b3"),
  (0xFB99, "\u06b3\n\u06b1\n\u06b1\n\u06b1\n\u06b1\n\u06ba\n\u06ba\n\u06bb\n\u06bb"),
  (0xFBA2, "\u06bb\n\u06bb\n\u06d5\u0654\n\u06d5\u0654\n\u06c1\n\u06c1\n\u06c1\n\u06c1"),
  (0xFBAA, "\u06be\n\u06be\n\u06be\n\u06be\n\u06d2\n\u06d2\n\u06d2\u0654\n\u06d2\u0654"),
  (0xFBD3, "\u06ad\n\u06ad\n\u06ad\n\u06ad\n\u06c7\n\u06c7\n\u06c6\n\u06c6\n\u06c8"),
  (0xFBDC, "\u06c8\n\u06c7\u0674\n\u06cb\n\u06cb\n\u06c5\n\u06c5\n\u06c9\n\u06c9\n\u06d0"),
  (0xFBE5, "\u06d0\n\u06d0\n\u06d0\n\u0649\n\u0649\n\u064a\u0654\u0627"),
  (0xFBEB, "\u064a\u0654\u0627\n\u064a\u0654\u06d5\n\u064a\u0654\u06d5"),
  (0xFBEE, "\u064a\u0654\u0648\n\u064a\u0654\u0648\n\u064a\u0654\u06c7"),
  (0xFBF1, "\u064a\u0654\u06c7\n\u064a\u0654\u06c6\n\u064a\u0654\u06c6"),
  (0xFBF4, "\u064a\u0654\u06c8\n\u064a\u0654\u06c8\n\u064a\u0654\u06d0"),
  (0xFBF7, "\u064a\u0654\u06d0\n\u064a\u0654\u06d0\n\u064a\u0654\u0649"),
  (0xFBFA, "\u064a\u0654\u0649\n\u064a\u0654\u0649\n\u06cc\n\u06cc\n\u06cc\n\u06cc"),
  (0xFC00, "\u064a\u0654\u062c\n\u064a\u0654\u062d\n\u064a\u0654\u0645"),
  (0xFC03, "\u064a\u0654\u0649\n\u064a\u0654\u064a\n\u0628\u062c\n\u0628\u062d"),
  (0xFC07, "\u0628\u062e\n\u0628\u0645\n\u0628\u0649\n\u0628\u064a\n\u062a\u062c"),
  (0xFC0C, "\u062a\u062d\n\u062a\u062e\n\u062a\u0645\n\u062a\u0649\n\u062a\u064a"),
  (0xFC11, "\u062b\u062c\n\u062b\u0645\n\u062b\u0649\n\u062b\u064a\n\u062c\u062d"),
  (0xFC16, "\u062c\u0645\n\u062d\u062c\n\u062d\u0645\n\u062e\u062c\n\u062e\u062d"),
  (0xFC1B, "\u062e\u0645\n\u0633\u062c\n\u0633\u062d\n\u0633\u062e\n\u0633\u0645"),
  (0xFC20, "\u0635\u062d\n\u0635\u0645\n\u0636\u062c\n\u0636\u062d\n\u0636\u062e"),
  (0xFC25, "\u0636\u0645\n\u0637\u062d\n\u0637\u0645\n\u0638\u0645\n\u0639\u062c"),
  (0xFC2A, "\u0639\u0645\n\u063a\u062c\n\u063a\u0645\n\u0641\u062c\n\u0641\u062d"),
  (0xFC2F, "\u0641\u062e\n\u0641\u0645\n\u0641\u0649\n\u0641\u064a\n\u0642\u062d"),
  (0xFC34, "\u0642\u0645\n\u0642\u0649\n\u0642\u064a\n\u0643\u0627\n\u0643\u062c"),
  (0xFC39, "\u0643\u062d\n\u0643\u062e\n\u0643\u0644\n\u0643\u0645\n\u0643\u0649"),
  (0xFC3E, "\u0643\u064a\n\u0644\u062c\n\u0644\u062d\n\u0644\u062e\n\u0644\u0645"),
  (0xFC43, "\u0644\u0649\n\u0644\u064a\n\u0645\u062c\n\u0645\u062d\n\u0645\u062e"),
  (0xFC48, "\u0645\u0645\n\u0645\u0649\n\u0645\u064a\n\u0646\u062c\n\u0646\u062d"),
  (0xFC4D, "\u0646\u062e\n\u0646\u0645\n\u0646\u0649\n\u0646\u064a\n\u0647\u062c"),
  (0xFC52, "\u0647\u0645\n\u0647\u0649\n\u0647\u064a\n\u064a\u062c\n\u064a\u062d"),
  (0xFC57, "\u064a\u062e\n\u064a\u0645\n\u064a\u0649\n\u064a\u064a\n\u0630\u0670"),
  (0xFC5C, "\u0631\u0670\n\u0649\u0670\n \u064c\u0651\n \u064d\u0651\n \u064e\u0651"),
  (0xFC61, " \u064f\u0651\n \u0650\u0651\n \u0651\u0670\n\u064a\u0654\u0631"),
  (0xFC65, "\u064a\u0654\u0632\n\u064a\u0654\u0645\n\u064a\u0654\u0646"),
  (0xFC68, "\u064a\u0654\u0649\n\u064a\u0654\u064a\n\u0628\u0631\n\u0628\u0632"),
  (0xFC6C, "\u0628\u0645\n\u0628\u0646\n\u0628\u0649\n\u0628\u064a\n\u062a\u0631"),
  (0xFC71, "\u062a\u0632\n\u062a\u0645\n\u062a\u0646\n\u062a\u0649\n\u062a\u064a"),
  (0xFC76, "\u062b\u0631\n\u062b\u0632\n\u062b\u0645\n\u062b\u0646\n\u062b\u0649"),
  (0xFC7B, "\u062b\u064a\n\u0641\u0649\n\u0641\u064a\n\u0642\u0649\n\u0642\u064a"),
  (0xFC80, "\u0643\u0627\n\u0643\u0644\n\u0643\u0645\n\u0643\u0649\n\u0643\u064a"),
  (0xFC85, "\u0644\u0645\n\u0644\u0649\n\u0644\u064a\n\u0645\u0627\n\u0645\u0645"),
  (0xFC8A, "\u0646\u0631\n\u0646\u0632\n\u0646\u0645\n\u0646\u0646\n\u0646\u0649"),
  (0xFC8F, "\u0646\u064a\n\u0649\u0670\n\u064a\u0631\n\u064a\u0632\n\u064a\u0645"),
  (0xFC94, "\u064a\u0646\n\u064a\u0649\n\u064a\u064a\n\u064a\u0654\u062c"),
  (0xFC98, "\u064a\u0654\u062d\n\u064a\u0654\u062e\n\u064a\u0654\u0645"),
  (0xFC9B, "\u064a\u0654\u0647\n\u0628\u062c\n\u0628\u062d\n\u0628\u062e\n\u0628\u0645"),
  (0xFCA0, "\u0628\u0647\n\u062a\u062c\n\u062a\u062d\n\u062a\u062e\n\u062a\u0645"),
  (0xFCA5, "\u062a\u0647\n\u062b\u0645\n\u062c\u062d\n\u062c\u0645\n\u062d\u062c"),
  (0xFCAA, "\u062d\u0645\n\u062e\u062c\n\u062e\u0645\n\u0633\u062c\n\u0633\u062d"),
  (0xFCAF, "\u0633\u062e\n\u0633\u0645\n\u0635\u062d\n\u0635\u062e\n\u0635\u0645"),
  (0xFCB4, "\u0636\u062c\n\u0636\u062d\n\u0636\u062e\n\u0636\u0645\n\u0637\u062d"),
  (0xFCB9, "\u0638\u0645\n\u0639\u062c\n\u0639\u0645\n\u063a\u062c\n\u063a\u0645"),
  (0xFCBE, "\u0641\u062c\n\u0641\u062d\n\u0641\u062e\n\u0641\u0645\n\u0642\u062d"),
  (0xFCC3, "\u0642\u0645\n\u0643\u062c\n\u0643\u062d\n\u0643\u062e\n\u0643\u0644"),
  (0xFCC8, "\u0643\u0645\n\u0644\u062c\n\u0644\u062d\n\u0644\u062e\n\u0644\u0645"),
  (0xFCCD, "\u0644\u0647\n\u0645\u062c\n\u0645\u062d\n\u0645\u062e\n\u0645\u0645"),
  (0xFCD2, "\u0646\u062c\n\u0646\u062d\n\u0646\u062e\n\u0646\u0645\n\u0646\u0647"),
  (0xFCD7, "\u0647\u062c\n\u0647\u0645\n\u0647\u0670\n\u064a\u062c\n\u064a\u062d"),
  (0xFCDC, "\u064a\u062e\n\u064a\u0645\n\u064a\u0647\n\u064a\u0654\u0645"),
  (0xFCE0, "\u064a\u0654\u0647\n\u0628\u0645\n\u0628\u0647\n\u062a\u0645\n\u062a\u0647"),
  (0xFCE5, "\u062b\u0645\n\u062b\u0647\n\u0633\u0645\n\u0633\u0647\n\u0634\u0645"),
  (0xFCEA, "\u0634\u0647\n\u0643\u0644\n\u0643\u0645\n\u0644\u0645\n\u0646\u0645"),
  (0xFCEF, "\u0646\u0647\n\u064a\u0645\n\u064a\u0647\n\u0640\u064e\u0651"),
  (0xFCF3, "\u0640\u064f\u0651\n\u0640\u0650\u0651\n\u0637\u0649\n\u0637\u064a"),
  (0xFCF7, "\u0639\u0649\n\u0639\u064a\n\u063a\u0649\n\u063a\u064a\n\u0633\u0649"),
  (0xFCFC, "\u0633\u064a\n\u0634\u0649\n\u0634\u064a\n\u062d\u0649\n\u062d\u064a"),
  (0xFD01, "\u062c\u0649\n\u062c\u064a\n\u062e\u0649\n\u062e\u064a\n\u0635\u0649"),
  (0xFD06, "\u0635\u064a\n\u0636\u0649\n\u0636\u064a\n\u0634\u062c\n\u0634\u062d"),
  (0xFD0B, "\u0634\u062e\n\u0634\u0645\n\u0634\u0631\n\u0633\u0631\n\u0635\u0631"),
  (0xFD10, "\u0636\u0631\n\u0637\u0649\n\u0637\u064a\n\u0639\u0649\n\u0639\u064a"),
  (0xFD15, "\u063a\u0649\n\u063a\u064a\n\u0633\u0649\n\u0633\u064a\n\u0634\u0649"),
  (0xFD1A, "\u0634\u064a\n\u062d\u0649\n\u062d\u064a\n\u062c\u0649\n\u062c\u064a"),
  (0xFD1F, "\u062e\u0649\n\u062e\u064a\n\u0635\u0649\n\u0635\u064a\n\u0636\u0649"),
  (0xFD24, "\u0636\u064a\n\u0634\u062c\n\u0634\u062d\n\u0634\u062e\n\u0634\u0645"),
  (0xFD29, "\u0634\u0631\n\u0633\u0631\n\u0635\u0631\n\u0636\u0631\n\u0634\u062c"),
  (0xFD2E, "\u0634\u062d\n\u0634\u062e\n\u0634\u0645\n\u0633\u0647\n\u0634\u0647"),
  (0xFD33, "\u0637\u0645\n\u0633\u062c\n\u0633\u062d\n\u0633\u062e\n\u0634\u062c"),
  (0xFD38, "\u0634\u062d\n\u0634\u062e\n\u0637\u0645\n\u0638\u0645\n\u0627\u064b"),
  (0xFD3D, "\u0627\u064b"), (0xFD50, "\u062a\u062c\u0645\n\u062a\u062d\u062c\n\u062a\u062d\u062c"),
  (0xFD53, "\u062a\u062d\u0645\n\u062a\u062e\u0645\n\u062a\u0645\u062c"),
  (0xFD56, "\u062a\u0645\u062d\n\u062a\u0645\u062e\n\u062c\u0645\u062d"),
  (0xFD59, "\u062c\u0645\u062d\n\u062d\u0645\u064a\n\u062d\u0645\u0649"),
  (0xFD5C, "\u0633\u062d\u062c\n\u0633\u062c\u062d\n\u0633\u062c\u0649"),
  (0xFD5F, "\u0633\u0645\u062d\n\u0633\u0645\u062d\n\u0633\u0645\u062c"),
  (0xFD62, "\u0633\u0645\u0645\n\u0633\u0645\u0645\n\u0635\u062d\u062d"),
  (0xFD65, "\u0635\u062d\u062d\n\u0635\u0645\u0645\n\u0634\u062d\u0645"),
  (0xFD68, "\u0634\u062d\u0645\n\u0634\u062c\u064a\n\u0634\u0645\u062e"),
  (0xFD6B, "\u0634\u0645\u062e\n\u0634\u0645\u0645\n\u0634\u0645\u0645"),
  (0xFD6E, "\u0636\u062d\u0649\n\u0636\u062e\u0645\n\u0636\u062e\u0645"),
  (0xFD71, "\u0637\u0645\u062d\n\u0637\u0645\u062d\n\u0637\u0645\u0645"),
  (0xFD74, "\u0637\u0645\u064a\n\u0639\u062c\u0645\n\u0639\u0645\u0645"),
  (0xFD77, "\u0639\u0645\u0645\n\u0639\u0645\u0649\n\u063a\u0645\u0645"),
  (0xFD7A, "\u063a\u0645\u064a\n\u063a\u0645\u0649\n\u0641\u062e\u0645"),
  (0xFD7D, "\u0641\u062e\u0645\n\u0642\u0645\u062d\n\u0642\u0645\u0645"),
  (0xFD80, "\u0644\u062d\u0645\n\u0644\u062d\u064a\n\u0644\u062d\u0649"),
  (0xFD83, "\u0644\u062c\u062c\n\u0644\u062c\u062c\n\u0644\u062e\u0645"),
  (0xFD86, "\u0644\u062e\u0645\n\u0644\u0645\u062d\n\u0644\u0645\u062d"),
  (0xFD89, "\u0645\u062d\u062c\n\u0645\u062d\u0645\n\u0645\u062d\u064a"),
  (0xFD8C, "\u0645\u062c\u062d\n\u0645\u062c\u0645\n\u0645\u062e\u062c"),
  (0xFD8F, "\u0645\u062e\u0645"),
  (0xFD92, "\u0645\u062c\u062e\n\u0647\u0645\u062c\n\u0647\u0645\u0645"),
  (0xFD95, "\u0646\u062d\u0645\n\u0646\u062d\u0649\n\u0646\u062c\u0645"),
  (0xFD98, "\u0646\u062c\u0645\n\u0646\u062c\u0649\n\u0646\u0645\u064a"),
  (0xFD9B, "\u0646\u0645\u0649\n\u064a\u0645\u0645\n\u064a\u0645\u0645"),
  (0xFD9E, "\u0628\u062e\u064a\n\u062a\u062c\u064a\n\u062a\u062c\u0649"),
  (0xFDA1, "\u062a\u062e\u064a\n\u062a\u062e\u0649\n\u062a\u0645\u064a"),
  (0xFDA4, "\u062a\u0645\u0649\n\u062c\u0645\u064a\n\u062c\u062d\u0649"),
  (0xFDA7, "\u062c\u0645\u0649\n\u0633\u062e\u0649\n\u0635\u062d\u064a"),
  (0xFDAA, "\u0634\u062d\u064a\n\u0636\u062d\u064a\n\u0644\u062c\u064a"),
  (0xFDAD, "\u0644\u0645\u064a\n\u064a\u062d\u064a\n\u064a\u062c\u064a"),
  (0xFDB0, "\u064a\u0645\u064a\n\u0645\u0645\u064a\n\u0642\u0645\u064a"),
  (0xFDB3, "\u0646\u062d\u064a\n\u0642\u0645\u062d\n\u0644\u062d\u0645"),
  (0xFDB6, "\u0639\u0645\u064a\n\u0643\u0645\u064a\n\u0646\u062c\u062d"),
  (0xFDB9, "\u0645\u062e\u064a\n\u0644\u062c\u0645\n\u0643\u0645\u0645"),
  (0xFDBC, "\u0644\u062c\u0645\n\u0646\u062c\u062d\n\u062c\u062d\u064a"),
  (0xFDBF, "\u062d\u062c\u064a\n\u0645\u062c\u064a\n\u0641\u0645\u064a"),
  (0xFDC2, "\u0628\u062d\u064a\n\u0643\u0645\u0645\n\u0639\u062c\u0645"),
  (0xFDC5, "\u0635\u0645\u0645\n\u0633\u062e\u064a\n\u0646\u062c\u064a"),
  (0xFDF0, "\u0635\u0644\u06d2\n\u0642\u0644\u06d2\n\u0627\u0644\u0644\u0647"),
  (0xFDF3, "\u0627\u0643\u0628\u0631\n\u0645\u062d\u0645\u062f\n\u0635\u0644\u0639\u0645"),
  (0xFDF6, "\u0631\u0633\u0648\u0644\n\u0639\u0644\u064a\u0647\n\u0648\u0633\u0644\u0645"),
  (0xFDF9, "\u0635\u0644\u0649"),
  (0xFDFA, "\u0635\u0644\u0649 \u0627\u0644\u0644\u0647 \u0639\u0644\u064a\u0647 \u0648\u0633\u0644\u0645"),
  (0xFDFB, "\u062c\u0644 \u062c\u0644\u0627\u0644\u0647\n\u0631\u06cc\u0627\u0644"),
  (0xFE10, ",\n、\n。\n:\n;\n!\n?\n〖\n〗\n..."),
  (0xFE30, "..\n—\n–\n_\n_\n(\n)\n\x7b\n\x7d\n〔\n〕\n【\n】\n《\n》\n〈\n〉\n「\n」\n『\n』"),
  (0xFE47, "[\n]\n \u0305\n \u0305\n \u0305\n \u0305\n_\n_\n_\n,\n、\n."),
  (0xFE54, ";\n:\n?\n!\n—\n(\n)\n\x7b\n\x7d\n〔\n〕\n#\n&\n*\n+\n-\n<\n>\n="),
  (0xFE68, "\\\n$\n%\n@"), (0xFE70, " \u064b\n\u0640\u064b\n \u064c"), (0xFE74, " \u064d"),
  (0xFE76, " \u064e\n\u0640\u064e\n \u064f\n\u0640\u064f\n \u0650\n\u0640\u0650\n \u0651"),
  (0xFE7D, "\u0640\u0651\n \u0652\n\u0640\u0652\n\u0621\n\u0627\u0653\n\u0627\u0653"),
  (0xFE83, "\u0627\u0654\n\u0627\u0654\n\u0648\u0654\n\u0648\u0654\n\u0627\u0655"),
  (0xFE88, "\u0627\u0655\n\u064a\u0654\n\u064a\u0654\n\u064a\u0654\n\u064a\u0654\n\u0627"),
  (0xFE8E, "\u0627\n\u0628\n\u0628\n\u0628\n\u0628\n\u0629\n\u0629\n\u062a\n\u062a"),
  (0xFE97, "\u062a\n\u062a\n\u062b\n\u062b\n\u062b\n\u062b\n\u062c\n\u062c\n\u062c"),
  (0xFEA0, "\u062c\n\u062d\n\u062d\n\u062d\n\u062d\n\u062e\n\u062e\n\u062e\n\u062e"),
  (0xFEA9, "\u062f\n\u062f\n\u0630\n\u0630\n\u0631\n\u0631\n\u0632\n\u0632\n\u0633"),
  (0xFEB2, "\u0633\n\u0633\n\u0633\n\u0634\n\u0634\n\u0634\n\u0634\n\u0635\n\u0635"),
  (0xFEBB, "\u0635\n\u0635\n\u0636\n\u0636\n\u0636\n\u0636\n\u0637\n\u0637\n\u0637"),
  (0xFEC4, "\u0637\n\u0638\n\u0638\n\u0638\n\u0638\n\u0639\n\u0639\n\u0639\n\u0639"),
  (0xFECD, "\u063a\n\u063a\n\u063a\n\u063a\n\u0641\n\u0641\n\u0641\n\u0641\n\u0642"),
  (0xFED6, "\u0642\n\u0642\n\u0642\n\u0643\n\u0643\n\u0643\n\u0643\n\u0644\n\u0644"),
  (0xFEDF, "\u0644\n\u0644\n\u0645\n\u0645\n\u0645\n\u0645\n\u0646\n\u0646\n\u0646"),
  (0xFEE8, "\u0646\n\u0647\n\u0647\n\u0647\n\u0647\n\u0648\n\u0648\n\u0649\n\u0649"),
  (0xFEF1, "\u064a\n\u064a\n\u064a\n\u064a\n\u0644\u0627\u0653\n\u0644\u0627\u0653"),
  (0xFEF7, "\u0644\u0627\u0654\n\u0644\u0627\u0654\n\u0644\u0627\u0655"),
  (0xFEFA, "\u0644\u0627\u0655\n\u0644\u0627\n\u0644\u0627"),
  (0xFF01, "!\n\"\n#\n$\n%\n&\n'\n(\n)\n*\n+\n,\n-\n.\n/\n0\n1\n2\n3\n4\n5\n6\n7\n8\n9\n:"),
  (0xFF1B, ";\n<\n=\n>\n?\n@\nA\nB\nC\nD\nE\nF\nG\nH\nI\nJ\nK\nL\nM\nN\nO\nP\nQ\nR\nS\nT"),
  (0xFF35, "U\nV\nW\nX\nY\nZ\n[\n\\\n]\n^\n_\n`\na\nb\nc\nd\ne\nf\ng\nh\ni\nj\nk\nl\nm\nn"),
  (0xFF4F, "o\np\nq\nr\ns\nt\nu\nv\nw\nx\ny\nz\n\x7b\n|\n\x7d\n~\n⦅\n⦆\n。\n「\n」\n、\n・\nヲ"),
  (0xFF67, "ァ\nィ\nゥ\nェ\nォ\nャ\nュ\nョ\nッ\nー\nア\nイ\nウ\nエ\nオ\nカ\nキ\nク\nケ\nコ\nサ\nシ\nス\nセ\nソ\nタ"),
  (0xFF81, "チ\nツ\nテ\nト\nナ\nニ\nヌ\nネ\nノ\nハ\nヒ\nフ\nヘ\nホ\nマ\nミ\nム\nメ\nモ\nヤ\nユ\nヨ\nラ\nリ\nル\nレ"),
  (0xFF9B, "ロ\nワ\nン\n\u3099\n\u309a\n\u1160\n\u1100\n\u1101\n\u11aa\n\u1102\n\u11ac"),
  (0xFFA6, "\u11ad\n\u1103\n\u1104\n\u1105\n\u11b0\n\u11b1\n\u11b2\n\u11b3\n\u11b4"),
  (0xFFAF, "\u11b5\n\u111a\n\u1106\n\u1107\n\u1108\n\u1121\n\u1109\n\u110a\n\u110b"),
  (0xFFB8, "\u110c\n\u110d\n\u110e\n\u110f\n\u1110\n\u1111\n\u1112"),
  (0xFFC2, "\u1161\n\u1162\n\u1163\n\u1164\n\u1165\n\u1166"),
  (0xFFCA, "\u1167\n\u1168\n\u1169\n\u116a\n\u116b\n\u116c"),
  (0xFFD2, "\u116d\n\u116e\n\u116f\n\u1170\n\u1171\n\u1172"), (0xFFDA, "\u1173\n\u1174\n\u1175"),
  (0xFFE0, "¢\n£\n¬\n \u0304\n¦\n¥\n₩"), (0xFFE8, "│\n←\n↑\n→\n↓\n■\n○"), (0x105C9, "𐗒\u0307"),
  (0x105E4, "𐗚\u0307"), (0x10781, "ː\nˑ\næ\nʙ\nɓ"),
  (0x10787, "ʣ\nꭦ\nʥ\nʤ\nɖ\nɗ\nᶑ\nɘ\nɞ\nʩ\nɤ\nɢ\nɠ\nʛ\nħ\nʜ\nɧ\nʄ\nʪ\nʫ\nɬ\n𝼄\nꞎ\nɮ\n𝼅\nʎ"),
  (0x107A1, "𝼆\nø\nɶ\nɷ\nq\nɺ\n𝼈\nɽ\nɾ\nʀ\nʨ\nʦ\nꭧ\nʧ\nʈ\nⱱ"),
  (0x107B2, "ʏ\nʡ\nʢ\nʘ\nǀ\nǁ\nǂ\n𝼊\n𝼞\nʇ\nʖ\nʗ\nʞ\n𝼋"), (0x1109A, "𑂚"), (0x1109C, "𑂜"),
  (0x110AB, "𑂫"), (0x1112E, "𑄮\n𑄯"), (0x1134B, "𑍋\n𑍌"), (0x11383, "𑎃"),
  (0x11385, "𑎅"), (0x1138E, "𑎎"), (0x11391, "𑎑"), (0x113C5, "𑏅"),
  (0x113C7, "𑏇\n𑏈"), (0x114BB, "𑒻\n𑒼"), (0x114BE, "𑒾"), (0x115BA, "𑖺\n𑖻"),
  (0x11938, "𑤸"), (0x16121, "𖄡\n𖄢\n𖄣\n𖄤\n𖄥\n𖄦\n𖄧\n𖄨"),
  (0x16D68, "𖵨\n𖵩\n𖵪"),
  (0x1B123, "こと\nトキ\nトテ\nヨリ"),
  (0x1CCD6, "A\nB\nC\nD\nE\nF\nG\nH\nI\nJ\nK\nL\nM\nN\nO\nP\nQ\nR\nS\nT\nU\nV\nW\nX\nY\nZ"),
  (0x1CCF0, "0\n1\n2\n3\n4\n5\n6\n7\n8\n9"),
  (0x1D15E, "𝅗𝅥\n𝅘𝅥\n𝅘𝅥𝅮\n𝅘𝅥𝅯\n𝅘𝅥𝅰\n𝅘𝅥𝅱\n𝅘𝅥𝅲"),
  (0x1D1BB, "𝆹𝅥\n𝆺𝅥\n𝆹𝅥𝅮\n𝆺𝅥𝅮\n𝆹𝅥𝅯\n𝆺𝅥𝅯"),
  (0x1D400, "A\nB\nC\nD\nE\nF\nG\nH\nI\nJ\nK\nL\nM\nN\nO\nP\nQ\nR\nS\nT\nU\nV\nW\nX\nY\nZ"),
  (0x1D41A, "a\nb\nc\nd\ne\nf\ng\nh\ni\nj\nk\nl\nm\nn\no\np\nq\nr\ns\nt\nu\nv\nw\nx\ny\nz"),
  (0x1D434, "A\nB\nC\nD\nE\nF\nG\nH\nI\nJ\nK\nL\nM\nN\nO\nP\nQ\nR\nS\nT\nU\nV\nW\nX\nY\nZ"),
  (0x1D44E, "a\nb\nc\nd\ne\nf\ng"),
  (0x1D456, "i\nj\nk\nl\nm\nn\no\np\nq\nr\ns\nt\nu\nv\nw\nx\ny\nz\nA\nB\nC\nD\nE\nF\nG\nH"),
  (0x1D470, "I\nJ\nK\nL\nM\nN\nO\nP\nQ\nR\nS\nT\nU\nV\nW\nX\nY\nZ\na\nb\nc\nd\ne\nf\ng\nh"),
  (0x1D48A, "i\nj\nk\nl\nm\nn\no\np\nq\nr\ns\nt\nu\nv\nw\nx\ny\nz\nA"), (0x1D49E, "C\nD"),
  (0x1D4A2, "G"), (0x1D4A5, "J\nK"), (0x1D4A9, "N\nO\nP\nQ"),
  (0x1D4AE, "S\nT\nU\nV\nW\nX\nY\nZ\na\nb\nc\nd"), (0x1D4BB, "f"),
  (0x1D4BD, "h\ni\nj\nk\nl\nm\nn"),
  (0x1D4C5, "p\nq\nr\ns\nt\nu\nv\nw\nx\ny\nz\nA\nB\nC\nD\nE\nF\nG\nH\nI\nJ\nK\nL\nM\nN\nO"),
  (0x1D4DF, "P\nQ\nR\nS\nT\nU\nV\nW\nX\nY\nZ\na\nb\nc\nd\ne\nf\ng\nh\ni\nj\nk\nl\nm\nn\no"),
  (0x1D4F9, "p\nq\nr\ns\nt\nu\nv\nw\nx\ny\nz\nA\nB"), (0x1D507, "D\nE\nF\nG"),
  (0x1D50D, "J\nK\nL\nM\nN\nO\nP\nQ"), (0x1D516, "S\nT\nU\nV\nW\nX\nY"),
  (0x1D51E, "a\nb\nc\nd\ne\nf\ng\nh\ni\nj\nk\nl\nm\nn\no\np\nq\nr\ns\nt\nu\nv\nw\nx\ny\nz"),
  (0x1D538, "A\nB"), (0x1D53B, "D\nE\nF\nG"), (0x1D540, "I\nJ\nK\nL\nM"), (0x1D546, "O"),
  (0x1D54A, "S\nT\nU\nV\nW\nX\nY"),
  (0x1D552, "a\nb\nc\nd\ne\nf\ng\nh\ni\nj\nk\nl\nm\nn\no\np\nq\nr\ns\nt\nu\nv\nw\nx\ny\nz"),
  (0x1D56C, "A\nB\nC\nD\nE\nF\nG\nH\nI\nJ\nK\nL\nM\nN\nO\nP\nQ\nR\nS\nT\nU\nV\nW\nX\nY\nZ"),
  (0x1D586, "a\nb\nc\nd\ne\nf\ng\nh\ni\nj\nk\nl\nm\nn\no\np\nq\nr\ns\nt\nu\nv\nw\nx\ny\nz"),
  (0x1D5A0, "A\nB\nC\nD\nE\nF\nG\nH\nI\nJ\nK\nL\nM\nN\nO\nP\nQ\nR\nS\nT\nU\nV\nW\nX\nY\nZ"),
  (0x1D5BA, "a\nb\nc\nd\ne\nf\ng\nh\ni\nj\nk\nl\nm\nn\no\np\nq\nr\ns\nt\nu\nv\nw\nx\ny\nz"),
  (0x1D5D4, "A\nB\nC\nD\nE\nF\nG\nH\nI\nJ\nK\nL\nM\nN\nO\nP\nQ\nR\nS\nT\nU\nV\nW\nX\nY\nZ"),
  (0x1D5EE, "a\nb\nc\nd\ne\nf\ng\nh\ni\nj\nk\nl\nm\nn\no\np\nq\nr\ns\nt\nu\nv\nw\nx\ny\nz"),
  (0x1D608, "A\nB\nC\nD\nE\nF\nG\nH\nI\nJ\nK\nL\nM\nN\nO\nP\nQ\nR\nS\nT\nU\nV\nW\nX\nY\nZ"),
  (0x1D622, "a\nb\nc\nd\ne\nf\ng\nh\ni\nj\nk\nl\nm\nn\no\np\nq\nr\ns\nt\nu\nv\nw\nx\ny\nz"),
  (0x1D63C, "A\nB\nC\nD\nE\nF\nG\nH\nI\nJ\nK\nL\nM\nN\nO\nP\nQ\nR\nS\nT\nU\nV\nW\nX\nY\nZ"),
  (0x1D656, "a\nb\nc\nd\ne\nf\ng\nh\ni\nj\nk\nl\nm\nn\no\np\nq\nr\ns\nt\nu\nv\nw\nx\ny\nz"),
  (0x1D670, "A\nB\nC\nD\nE\nF\nG\nH\nI\nJ\nK\nL\nM\nN\nO\nP\nQ\nR\nS\nT\nU\nV\nW\nX\nY\nZ"),
  (0x1D68A, "a\nb\nc\nd\ne\nf\ng\nh\ni\nj\nk\nl\nm\nn\no\np\nq\nr\ns\nt\nu\nv\nw\nx\ny\nz"),
  (0x1D6A4, "ı\nȷ\nß"),
  (0x1D6A8, "Α\nΒ\nΓ\nΔ\nΕ\nΖ\nΗ\nΘ\nΙ\nΚ\nΛ\nΜ\nΝ\nΞ\nΟ\nΠ\nΡ\nΘ\nΣ\nΤ\nΥ\nΦ\nΧ\nΨ\nΩ\n∇"),
  (0x1D6C2, "α\nβ\nγ\nδ\nε\nζ\nη\nθ\nι\nκ\nλ\nμ\nν\nξ\nο\nπ\nρ\nς\nσ\nτ\nυ\nφ\nχ\nψ\nω\n∂"),
  (0x1D6DC, "ε\nθ\nκ\nφ\nρ\nπ\nΑ\nΒ\nΓ\nΔ\nΕ\nΖ\nΗ\nΘ\nΙ\nΚ\nΛ\nΜ\nΝ\nΞ\nΟ\nΠ\nΡ\nΘ\nΣ\nΤ"),
  (0x1D6F6, "Υ\nΦ\nΧ\nΨ\nΩ\n∇\nα\nβ\nγ\nδ\nε\nζ\nη\nθ\nι\nκ\nλ\nμ\nν\nξ\nο\nπ\nρ\nς\nσ\nτ"),
  (0x1D710, "υ\nφ\nχ\nψ\nω\n∂\nε\nθ\nκ\nφ\nρ\nπ\nΑ\nΒ\nΓ\nΔ\nΕ\nΖ\nΗ\nΘ\nΙ\nΚ\nΛ\nΜ\nΝ\nΞ"),
  (0x1D72A, "Ο\nΠ\nΡ\nΘ\nΣ\nΤ\nΥ\nΦ\nΧ\nΨ\nΩ\n∇\nα\nβ\nγ\nδ\nε\nζ\nη\nθ\nι\nκ\nλ\nμ\nν\nξ"),
  (0x1D744, "ο\nπ\nρ\nς\nσ\nτ\nυ\nφ\nχ\nψ\nω\n∂\nε\nθ\nκ\nφ\nρ\nπ\nΑ\nΒ\nΓ\nΔ\nΕ\nΖ\nΗ\nΘ"),
  (0x1D75E, "Ι\nΚ\nΛ\nΜ\nΝ\nΞ\nΟ\nΠ\nΡ\nΘ\nΣ\nΤ\nΥ\nΦ\nΧ\nΨ\nΩ\n∇\nα\nβ\nγ\nδ\nε\nζ\nη\nθ"),
  (0x1D778, "ι\nκ\nλ\nμ\nν\nξ\nο\nπ\nρ\nς\nσ\nτ\nυ\nφ\nχ\nψ\nω\n∂\nε\nθ\nκ\nφ\nρ\nπ\nΑ\nΒ"),
  (0x1D792, "Γ\nΔ\nΕ\nΖ\nΗ\nΘ\nΙ\nΚ\nΛ\nΜ\nΝ\nΞ\nΟ\nΠ\nΡ\nΘ\nΣ\nΤ\nΥ\nΦ\nΧ\nΨ\nΩ\n∇\nα\nβ"),
  (0x1D7AC, "γ\nδ\nε\nζ\nη\nθ\nι\nκ\nλ\nμ\nν\nξ\nο\nπ\nρ\nς\nσ\nτ\nυ\nφ\nχ\nψ\nω\n∂\nε\nθ"),
  (0x1D7C6, "κ\nφ\nρ\nπ\nϜ\nϝ"),
  (0x1D7CE, "0\n1\n2\n3\n4\n5\n6\n7\n8\n9\n0\n1\n2\n3\n4\n5\n6\n7\n8\n9\n0\n1\n2\n3\n4\n5"),
  (0x1D7E8, "6\n7\n8\n9\n0\n1\n2\n3\n4\n5\n6\n7\n8\n9\n0\n1\n2\n3\n4\n5\n6\n7\n8\n9"),
  (0x1DF95, "ß"), (0x1DFCD, "𝽗\n𝽘\n𝽙\nɣ\nᴘ\nƀ\nđ"),
  (0x1DFD4, "ǥ\nł\nƚ\n𝽐\n𝼾\nɉ\nᵿ\n𝼿\nƞ\nɼ\nȸ\nȹ\n𝼫\n𝼙\nʆ\nᶘ\n𝼬\n𝼜\nʓ\nᶚ\nᴅ\nᴀ"),
  (0x1DFEA, "ᴇ\nɿ\nʅ\nʮ\nʯ\nȡ\nȴ\nȵ\nȶ\nψ\nω\nᶁ\nꞕ\nᶇ\nᶊ\nᶎ\nƈ\nƙ\nƥ\nʠ\nƭ\n𝼉"),
  (0x1E030, "а\nб\nв\nг\nд\nе\nж\nз\nи\nк\nл\nм\nо\nп\nр\nс\nт\nу\nф\nх\nц\nч\nш\nы\nэ\nю"),
  (0x1E04A, "ꚉ\nә\nі\nј\nө\nү\nӏ\nа\nб\nв\nг\nд\nе\nж\nз\nи\nк\nл\nо\nп\nс\nу\nф\nх\nц\nч"),
  (0x1E064, "ш\nъ\nы\nґ\nі\nѕ\nџ\nҫ\nꙑ\nұ"), (0x1EE00, "\u0627\n\u0628\n\u062c\n\u062f"),
  (0x1EE05, "\u0648\n\u0632\n\u062d\n\u0637\n\u064a\n\u0643\n\u0644\n\u0645\n\u0646"),
  (0x1EE0E, "\u0633\n\u0639\n\u0641\n\u0635\n\u0642\n\u0631\n\u0634\n\u062a\n\u062b"),
  (0x1EE17, "\u062e\n\u0630\n\u0636\n\u0638\n\u063a\n\u066e\n\u06ba\n\u06a1\n\u066f"),
  (0x1EE21, "\u0628\n\u062c"), (0x1EE24, "\u0647"), (0x1EE27, "\u062d"),
  (0x1EE29, "\u064a\n\u0643\n\u0644\n\u0645\n\u0646\n\u0633\n\u0639\n\u0641\n\u0635"),
  (0x1EE32, "\u0642"), (0x1EE34, "\u0634\n\u062a\n\u062b\n\u062e"), (0x1EE39, "\u0636"),
  (0x1EE3B, "\u063a"), (0x1EE42, "\u062c"), (0x1EE47, "\u062d"), (0x1EE49, "\u064a"),
  (0x1EE4B, "\u0644"), (0x1EE4D, "\u0646\n\u0633\n\u0639"), (0x1EE51, "\u0635\n\u0642"),
  (0x1EE54, "\u0634"), (0x1EE57, "\u062e"), (0x1EE59, "\u0636"), (0x1EE5B, "\u063a"),
  (0x1EE5D, "\u06ba"), (0x1EE5F, "\u066f"), (0x1EE61, "\u0628\n\u062c"), (0x1EE64, "\u0647"),
  (0x1EE67, "\u062d\n\u0637\n\u064a\n\u0643"),
  (0x1EE6C, "\u0645\n\u0646\n\u0633\n\u0639\n\u0641\n\u0635\n\u0642"),
  (0x1EE74, "\u0634\n\u062a\n\u062b\n\u062e"), (0x1EE79, "\u0636\n\u0638\n\u063a\n\u066e"),
  (0x1EE7E, "\u06a1"),
  (0x1EE80, "\u0627\n\u0628\n\u062c\n\u062f\n\u0647\n\u0648\n\u0632\n\u062d\n\u0637"),
  (0x1EE89, "\u064a"),
  (0x1EE8B, "\u0644\n\u0645\n\u0646\n\u0633\n\u0639\n\u0641\n\u0635\n\u0642\n\u0631"),
  (0x1EE94, "\u0634\n\u062a\n\u062b\n\u062e\n\u0630\n\u0636\n\u0638\n\u063a"),
  (0x1EEA1, "\u0628\n\u062c\n\u062f"), (0x1EEA5, "\u0648\n\u0632\n\u062d\n\u0637\n\u064a"),
  (0x1EEAB, "\u0644\n\u0645\n\u0646\n\u0633\n\u0639\n\u0641\n\u0635\n\u0642\n\u0631"),
  (0x1EEB4, "\u0634\n\u062a\n\u062b\n\u062e\n\u0630\n\u0636\n\u0638\n\u063a"),
  (0x1F100, "0.\n0,\n1,\n2,\n3,\n4,\n5,\n6,\n7,\n8,\n9,"),
  (0x1F110, "(A)\n(B)\n(C)\n(D)\n(E)\n(F)\n(G)\n(H)\n(I)\n(J)\n(K)\n(L)\n(M)\n(N)\n(O)"),
  (0x1F11F, "(P)\n(Q)\n(R)\n(S)\n(T)\n(U)\n(V)\n(W)\n(X)\n(Y)\n(Z)\n〔S〕\nC\nR\nCD\nWZ"),
  (0x1F130, "A\nB\nC\nD\nE\nF\nG\nH\nI\nJ\nK\nL\nM\nN\nO\nP\nQ\nR\nS\nT\nU\nV\nW\nX\nY\nZ"),
  (0x1F14A, "HV\nMV\nSD\nSS\nPPV\nWC"), (0x1F16A, "MC\nMD\nMR"), (0x1F190, "DJ"),
  (0x1F200, "ほか\nココ\nサ"),
  (0x1F210, "手\n字\n双\nテ\u3099\n二\n多\n解\n天\n交\n映\n無\n料\n前\n後\n再\n新\n初\n終\n生\n販\n声\n吹\n演\n投"),
  (0x1F228, "捕\n一\n三\n遊\n左\n中\n右\n指\n走\n打\n禁\n空\n合\n満\n有\n月\n申\n割\n営\n配"),
  (0x1F240, "〔本〕\n〔三〕\n〔二〕\n〔安〕\n〔点〕\n〔打〕\n〔盗〕\n〔勝〕\n〔敗〕"), (0x1F250, "得\n可"),
  (0x1FBF0, "0\n1\n2\n3\n4\n5\n6\n7\n8\n9"),
  (0x2F800, "丽\n丸\n乁\n𠄢\n你\n侮\n侻\n倂\n偺\n備\n僧\n像\n㒞\n𠘺\n免\n兔\n兤\n具\n𠔜\n㒹\n內\n再\n𠕋\n冗\n冤\n仌"),
  (0x2F81A, "冬\n况\n𩇟\n凵\n刃\n㓟\n刻\n剆\n割\n剷\n㔕\n勇\n勉\n勤\n勺\n包\n匆\n北\n卉\n卑\n博\n即\n卽\n卿\n卿\n卿"),
  (0x2F834, "𠨬\n灰\n及\n叟\n𠭣\n叫\n叱\n吆\n咞\n吸\n呈\n周\n咢\n哶\n唐\n啓\n啣\n善\n善\n喙\n喫\n喳\n嗂\n圖\n嘆\n圗"),
  (0x2F84E, "噑\n噴\n切\n壮\n城\n埴\n堍\n型\n堲\n報\n墬\n𡓤\n売\n壷\n夆\n多\n夢\n奢\n𡚨\n𡛪\n姬\n娛\n娧\n姘\n婦\n㛮"),
  (0x2F868, "㛼\n嬈\n嬾\n嬾\n𡧈\n寃\n寘\n寧\n寳\n𡬘\n寿\n将\n当\n尢\n㞁\n屠\n屮\n峀\n岍\n𡷤\n嵃\n𡷦\n嵮\n嵫\n嵼\n巡"),
  (0x2F882, "巢\n㠯\n巽\n帨\n帽\n幩\n㡢\n𢆃\n㡼\n庰\n庳\n庶\n廊\n𪎒\n廾\n𢌱\n𢌱\n舁\n弢\n弢\n㣇\n𣊸\n𦇚\n形\n彫\n㣣"),
  (0x2F89C, "徚\n忍\n志\n忹\n悁\n㤺\n㤜\n悔\n𢛔\n惇\n慈\n慌\n慎\n慌\n慺\n憎\n憲\n憤\n憯\n懞\n懲\n懶\n成\n戛\n扝\n抱"),
  (0x2F8B6, "拔\n捐\n𢬌\n挽\n拼\n捨\n掃\n揤\n𢯱\n搢\n揅\n掩\n㨮\n摩\n摾\n撝\n摷\n㩬\n敏\n敬\n𣀊\n旣\n書\n晉\n㬙\n暑"),
  (0x2F8D0, "㬈\n㫤\n冒\n冕\n最\n暜\n肭\n䏙\n朗\n望\n朡\n杞\n杓\n𣏃\n㭉\n柺\n枅\n桒\n梅\n𣑭\n梎\n栟\n椔\n㮝\n楂\n榣"),
  (0x2F8EA, "槪\n檨\n𣚣\n櫛\n㰘\n次\n𣢧\n歔\n㱎\n歲\n殟\n殺\n殻\n𣪍\n𡴋\n𣫺\n汎\n𣲼\n沿\n泍\n汧\n洖\n派\n海\n流\n浩"),
  (0x2F904, "浸\n涅\n𣴞\n洴\n港\n湮\n㴳\n滋\n滇\n𣻑\n淹\n潮\n𣽞\n𣾎\n濆\n瀹\n瀞\n瀛\n㶖\n灊\n災\n灷\n炭\n𠔥\n煅\n𤉣"),
  (0x2F91E, "熜\n𤎫\n爨\n爵\n牐\n𤘈\n犀\n犕\n𤜵\n𤠔\n獺\n王\n㺬\n玥\n㺸\n㺸\n瑇\n瑜\n瑱\n璅\n瓊\n㼛\n甤\n𤰶\n甾\n𤲒"),
  (0x2F938, "異\n𢆟\n瘐\n𤾡\n𤾸\n𥁄\n㿼\n䀈\n直\n𥃳\n𥃲\n𥄙\n𥄳\n眞\n真\n真\n睊\n䀹\n瞋\n䁆\n䂖\n𥐝\n硎\n碌\n磌\n䃣"),
  (0x2F952, "𥘦\n祖\n𥚚\n𥛅\n福\n秫\n䄯\n穀\n穊\n穏\n𥥼\n𥪧\n𥪧\n竮\n䈂\n𥮫\n篆\n築\n䈧\n𥲀\n糒\n䊠\n糨\n糣\n紀\n𥾆"),
  (0x2F96C, "絣\n䌁\n緇\n縂\n繅\n䌴\n𦈨\n𦉇\n䍙\n𦋙\n罺\n𦌾\n羕\n翺\n者\n𦓚\n𦔣\n聠\n𦖨\n聰\n𣍟\n䏕\n育\n脃\n䐋\n脾"),
  (0x2F986, "媵\n𦞧\n𦞵\n𣎓\n𣎜\n舁\n舄\n辞\n䑫\n芑\n芋\n芝\n劳\n花\n芳\n芽\n苦\n𦬼\n若\n茝\n荣\n莭\n茣\n莽\n菧\n著"),
  (0x2F9A0, "荓\n菊\n菌\n菜\n𦰶\n𦵫\n𦳕\n䔫\n蓱\n蓳\n蔖\n𧏊\n蕤\n𦼬\n䕝\n䕡\n𦾱\n𧃒\n䕫\n虐\n虜\n虧\n虩\n蚩\n蚈\n蜎"),
  (0x2F9BA, "蛢\n蝹\n蜨\n蝫\n螆\n䗗\n蟡\n蠁\n䗹\n衠\n衣\n𧙧\n裗\n裞\n䘵\n裺\n㒻\n𧢮\n𧥦\n䚾\n䛇\n誠\n諭\n變\n豕\n𧲨"),
  (0x2F9D4, "貫\n賁\n贛\n起\n𧼯\n𠠄\n跋\n趼\n跰\n𠣞\n軔\n輸\n𨗒\n𨗭\n邔\n郱\n鄑\n𨜮\n鄛\n鈸\n鋗\n鋘\n鉼\n鏹\n鐕\n𨯺"),
  (0x2F9EE, "開\n䦕\n閷\n𨵷\n䧦\n雃\n嶲\n霣\n𩅅\n𩈚\n䩮\n䩶\n韠\n𩐊\n䪲\n𩒖\n頋\n頋\n頩\n𩖶\n飢\n䬳\n餩\n馧\n駂\n駾"),
  (0x2FA08, "䯎\n𩬰\n鬒\n鱀\n鳽\n䳎\n䳭\n鵧\n𪃎\n䳸\n𪄅\n𪈎\n𪊑\n麻\n䵖\n黹\n黾\n鼅\n鼏\n鼖\n鼻\n𪘀")]

/-- Line number `n` of a text, if there is one. -/
def nthLine (text : List Char) (n : Nat) : Option (List Char) :=
  match text, n with
  | [], 0 => some []
  | [], _ + 1 => none
  | '\n' :: _, 0 => some []
  | '\n' :: rest, n + 1 => nthLine rest n
  | c :: rest, 0 => (nthLine rest 0).map (c :: ·)
  | _ :: rest, n + 1 => nthLine rest (n + 1)

/-- The last run that starts at `c` or before it. -/
def runBefore (c : Nat) : List (Nat × String) → Option (Nat × String)
  | [] => none
  | run :: rest => if run.1 ≤ c then (runBefore c rest).or (some run) else none

/-- A Hangul syllable is a leading consonant, a vowel and at most one trailing consonant, numbered
in that order from U+AC00. -/
def decomposeSyllable (c : Nat) : List Char :=
  let index := c - 0xAC00
  let lead := Char.ofNat (0x1100 + index / 588)
  let vowel := Char.ofNat (0x1161 + index % 588 / 28)
  if index % 28 = 0 then [lead, vowel] else [lead, vowel, Char.ofNat (0x11A7 + index % 28)]

/-- What a single character decomposes to. ASCII characters stay as they are. -/
def decomposeChar (c : Char) : List Char :=
  if c.toNat < 0xA0 then [c]
  else if 0xAC00 ≤ c.toNat ∧ c.toNat ≤ 0xD7A3 then decomposeSyllable c.toNat
  else
    match runBefore c.toNat decompositionRuns with
    | some (first, lines) => (nthLine lines.toList (c.toNat - first)).getD [c]
    | none => [c]

/-- The compatibility decomposition of a text. -/
def decompose (text : List Char) : List Char :=
  orderMarks (text.flatMap decomposeChar)

end PermissionScreen.Unicode
