import LetterToSound.Rules.Reading

namespace LetterToSound.Polish

def variableLines : List String :=
  [
    "ALL = a, ą, b, c, ć, d, e, ę, f, g, h, i, j, k, l, ł, m, n, ń, o, ó, p, q, r, s, ś, t, u, " ++
      "v, w, x, y, z, ź, ż, ch, cz, dz, dź, dż, rz, sz, ci, ni, si, zi, dzi, é, ü, ö, š, ë, $",
    -- Any neighbour, and none.
    "EMPTY = *",
    -- Vowels.
    "SA = a, e, y, ą, ę, u, o, i, ó",
    -- Vowels without `i`.
    "SA1 = a, e, y, ą, ę, u, o, ó",
    -- Consonants.
    "SP = b, c, ć, ch, cz, d, dz, dż, f, g, h, j, k, l, ł, m, n, ń, p, r, rz, s, ś, sz, t, w, z, " ++
      "ż, q, v, x, š",
    -- Voiceless consonants.
    "SB = p, k, t, s, c, h, f, ć, ś, ch, cz, sz, ci",
    -- Voiced consonants.
    "SD = b, d, dz, dź, dż, g, rz, w, z, ź, ż",
    -- Consonants that `i` softens.
    "SP1 = p, b, m, w, f, ch, h",
    -- Consonants that `i` softens or not.
    "SP2 = l, r, t, d, k, g",
    -- Fricatives.
    "FR = f, w, s, z, ź, ś, ż, h, sz",
    -- Consonants after which `zi` is read as written.
    "SPZ = d, g, l, n, r, sz, ś",
    -- Either end of a word.
    "END = $"]

def ruleLines : List String :=
  [
    -- Letters with one sound.
    "EMPTY\ta\tEMPTY\ta",
    "EMPTY\tc\tEMPTY\tc",
    "EMPTY\te\tEMPTY\te",
    "EMPTY\tj\tEMPTY\tj",
    "EMPTY\tl\tEMPTY\tl",
    "EMPTY\tł\tEMPTY\tl_",
    "EMPTY\tm\tEMPTY\tm",
    "EMPTY\to\tEMPTY\to",
    "EMPTY\tó\tEMPTY\tu",
    "EMPTY\tp\tEMPTY\tp",
    "EMPTY\tr\tEMPTY\tr",
    "END\ty\tEMPTY\tj",
    "-END\ty\tEMPTY\ty",
    -- Voiced consonants at the end and before voiceless ones.
    "EMPTY\tb\tEND\tp, b",
    "EMPTY\tb\tSB\tp",
    "EMPTY\tb\t-SB-END\tb",
    "EMPTY\tdz\tEND\tc, dz",
    "EMPTY\tdz\tSB\tc",
    "EMPTY\tdz\t-SB-END\tdz",
    "EMPTY\tdź\tEND\tci, dzi",
    "EMPTY\tdź\tSB\tci",
    "EMPTY\tdź\t-SB-END\tdzi",
    "EMPTY\td\tEND\tt, d",
    "EMPTY\td\tSB\tt",
    "EMPTY\td\t-SB-END\td",
    "EMPTY\tg\tEND\tk, g",
    "EMPTY\tg\tSB\tk",
    "EMPTY\tg\t-SB-END\tg",
    "EMPTY\trz\tEND\tsz, rz",
    "EMPTY\trz\tSB\tsz",
    "SB\trz\tEMPTY\tsz",
    "-SB\trz\t-SB-END\trz",
    "EMPTY\tw\tEND\tf, w",
    "EMPTY\tw\tSB\tf",
    "SB\tw\tEMPTY\tf",
    "-SB\tw\t-SB-END\tw",
    "EMPTY\tz\tEND\ts,z",
    "EMPTY\tz\tSB\ts",
    "EMPTY\tz\t-SB-END\tz",
    "EMPTY\tź\tEND\tsi, zi",
    "EMPTY\tź\t-END\tzi",
    "EMPTY\tż\tEND\tsz, rz",
    "EMPTY\tż\tSB\tsz",
    "SB\tż\tEMPTY\tsz",
    "-SB\tż\t-SB-END\trz",
    "EMPTY\tdż\tEND\tcz, drz",
    "EMPTY\tdż\t-END\tdrz",
    -- Voiceless consonants before voiced ones.
    "EMPTY\tć\t(b)\tci, dzi",
    "EMPTY\tć\t-(b)\tci",
    "EMPTY\tś\t(b)\tsi, zi",
    "EMPTY\tś\t-(b)\tsi",
    "EMPTY\ts\t(b, g)\ts, z",
    "EMPTY\ts\t-(b, g)\ts",
    "EMPTY\tt\t(b, g)\tt, d",
    "EMPTY\tt\t-(b, g)\tt",
    "EMPTY\tk\t(b, ż)\tk, g",
    "EMPTY\tk\t-(b, ż)\tk",
    "EMPTY\tcz\t(b, d)\tcz, drz",
    "EMPTY\tcz\t-(b, d)\tcz",
    "EMPTY\tf\t(g)\tf, w",
    "EMPTY\tf\t-(g)\tf",
    -- Letters that hang on their neighbours.
    "EMPTY\th\tSD\th",
    "EMPTY\th\t-SD\th",
    "SP1\ti\tSA\tj",
    "SP2\ti\tSA\ti, j",
    "SP1\ti\t-SA\ti",
    "SP2\ti\t-SA\ti",
    "-SP1-SP2\ti\tEMPTY\ti",
    "EMPTY\tn\t(k, g)\tn",
    "EMPTY\tn\t(ni, ci, dzi)\tn, ni",
    "EMPTY\tn\t-(k, g, ni, ci, dzi)\tn",
    "EMPTY\tń\tFR\tni",
    "EMPTY\tń\t-FR\tni",
    "(a, e)\tu\tEMPTY\tl_",
    "-(a, e)\tu\tEMPTY\tu",
    -- Digraphs and softened consonants.
    "EMPTY\tsz\tEMPTY\tsz",
    "EMPTY\tch\tSD\th",
    "EMPTY\tch\t-SD\th",
    "EMPTY\tci\tSA1\tci",
    "EMPTY\tci\tSP\tci i",
    "EMPTY\tci\tEND\tci i",
    "EMPTY\tdzi\tSA1\tdzi",
    "EMPTY\tdzi\tSP\tdzi i",
    "EMPTY\tdzi\tEND\tdzi i",
    "EMPTY\tni\tSA1\tni",
    "EMPTY\tni\t(i)\tni j, ni",
    "EMPTY\tni\tSP\tni i",
    "EMPTY\tni\tEND\tni i",
    "EMPTY\tsi\tSA1\tsi",
    "EMPTY\tsi\tSP\tsi i",
    "EMPTY\tsi\tEND\tsi i",
    "EMPTY\tzi\tSA1\tzi",
    "EMPTY\tzi\t-SA1-SPZ\tzi i",
    "EMPTY\tzi\tSPZ\tz i",
    "EMPTY\tzi\tEND\tzi i",
    -- Nasal vowels.
    "EMPTY\tę\tEND\te, e_",
    "EMPTY\tą\tEND\to l_, a_, o m",
    "EMPTY\tę\t(l, ł)\te",
    "EMPTY\tą\t(ł)\to",
    "EMPTY\tę\t(b, p)\te m",
    "EMPTY\tą\t(b, p)\to m",
    "EMPTY\tę\t(m, n)\te",
    "EMPTY\tą\t(m)\to",
    "EMPTY\tą\t(n, j)\ta_, o l_",
    "EMPTY\tę\t(w, f, s, z, ż, rz, sz, ch, h)\te_, e l_",
    "EMPTY\tą\t(w, f, s, z, ż, rz, sz, ch, h)\ta_, o l_",
    "EMPTY\tę\t(d, t, c, dz, dż, cz)\te_, e n",
    "EMPTY\tą\t(d, t, c, dz, dż, cz)\ta_, o n",
    "EMPTY\tę\t(dź, dzi, ć, ci)\te_, e ni",
    "EMPTY\tą\t(dź, dzi, ć, ci)\ta_, o ni",
    "EMPTY\tę\t(g, k)\te n, e_",
    "EMPTY\tą\t(g, k)\to n, a_",
    "EMPTY\tę\t(ź, zi, ś, si)\te l_, e ni",
    "EMPTY\tą\t(ź, zi, ś, si)\to l_, o ni",
    -- Clusters, variants and exceptions.
    "EMPTY\ttrz\tEMPTY\tt sz, cz",
    "EMPTY\tdrz\tEMPTY\td rz, drz",
    "EMPTY\tzsz\tEMPTY\ts sz, sz",
    "EMPTY\tnadz\t-(i)\tn a d z",
    "EMPTY\tnadż\tEMPTY\tn a d rz",
    "EMPTY\tpodz\t-(i)\tp o d z",
    "EMPTY\tpodż\tEMPTY\tp o d rz",
    "END\todz\t-(i)\to d z",
    "EMPTY\todż\tEMPTY\to d rz",
    "EMPTY\tbudż\tEMPTY\tb u d rz",
    "EMPTY\tśćdzi\tEMPTY\tsi dzi, zi dzi, si ci dzi",
    "EMPTY\tśćs\tEMPTY\tsi s, j s, si ci s",
    "EMPTY\tśródzi\tEMPTY\tsi r u d zi",
    "EMPTY\tsji\tEMPTY\ts j i, s i",
    "EMPTY\tcji\tEMPTY\tc j i, c i",
    "EMPTY\tizm\tEND\ti z m, i s m",
    "EMPTY\tizm\t(i)\ti z m, i zi m",
    "EMPTY\ton\t(s)\to n, a_",
    "-END\ten\t(t, k, ci, s)\te n, e_",
    "-(n)\tii\tEND\ti i, i, j i",
    "EMPTY\tdźm\t(y)\tci m",
    "EMPTY\tmarz\t(ł, n, l)\tm a r z",
    "EMPTY\tżć\tEND\tsi ci, zi ci",
    "EMPTY\tklie\tEMPTY\tk l i j e",
    -- Clusters with `w`.
    "EMPTY\tczw\tEMPTY\tcz f",
    "EMPTY\tszw\tEMPTY\tsz f",
    -- Foreign letters.
    "EMPTY\tv\tEMPTY\tw",
    "EMPTY\tq\tEMPTY\tk",
    "EMPTY\tx\tEMPTY\tk s",
    "EMPTY\té\tEMPTY\te",
    "EMPTY\tü\tEMPTY\tu, i",
    "EMPTY\tö\tEMPTY\ty",
    "EMPTY\tš\tEMPTY\ts",
    "EMPTY\të\tEMPTY\te"]

/-- The rule text, line by line. -/
def lines : List Text := (variableLines ++ ruleLines).map String.toList

def reading : Reading := RuleBook.empty.readLines 1 (lines.map .ok)

def book : RuleBook := .ofLines lines

end LetterToSound.Polish
