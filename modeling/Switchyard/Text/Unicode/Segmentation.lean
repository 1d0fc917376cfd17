import Switchyard.Text.Unicode.Property
/-!
# Text segmentation properties

The `Grapheme_Cluster_Break`, `Word_Break` and `Sentence_Break` properties of Unicode 16.0, by
which the standard finds the boundaries of user-perceived characters, words and sentences.
A pattern names a value with `\p{gcb=..}`, `\p{wb=..}` or `\p{sb=..}`.

Each property is kept as runs (see `readRuns`) whose value is the number of a value: its place
in the property's list of names. Code points of none of the listed values (the value `Other`)
have the number after the last one; a pattern cannot name that value.
-/
namespace Switchyard.Unicode

/-- The values of `Grapheme_Cluster_Break` that patterns may name, by their loose names. -/
def graphemeBreakNames : Array (List String) := #[
  ["cr"], ["control", "cn"], ["extend", "ex"], ["l"], ["lf"], ["lv"], ["lvt"],
  ["prepend", "pp"], ["regionalindicator", "ri"], ["spacingmark", "sm"], ["t"], ["v"], ["zwj"]]

/-- The values of `Word_Break` that patterns may name, by their loose names. -/
def wordBreakNames : Array (List String) := #[
  ["aletter", "le"], ["cr"], ["doublequote", "dq"], ["extend"], ["extendnumlet", "ex"],
  ["format", "fo"], ["hebrewletter", "hl"], ["katakana", "ka"], ["lf"], ["midletter", "ml"],
  ["midnum", "mn"], ["midnumlet", "mb"], ["newline", "nl"], ["numeric", "nu"],
  ["regionalindicator", "ri"], ["singlequote", "sq"], ["wsegspace"], ["zwj"]]

/-- The values of `Sentence_Break` that patterns may name, by their loose names. -/
def sentenceBreakNames : Array (List String) := #[
  ["aterm", "at"], ["cr"], ["close", "cl"], ["extend", "ex"], ["format", "fo"], ["lf"],
  ["lower", "lo"], ["numeric", "nu"], ["oletter", "le"], ["scontinue", "sc"], ["sterm", "st"],
  ["sep", "se"], ["sp"], ["upper", "up"]]

/-- The runs of `Grapheme_Cluster_Break`. -/
def graphemeBreakText : String :=
  "0.1 10.4 1.1 2.0 1.1 18.13 95.1 33.13 13.1 1.13 594.2 112.13 275.2 7.13 263.2 45.13 1.2 1.13 " ++
  "1.2 2.13 1.2 2.13 1.2 1.13 56.7 6.13 10.2 11.13 1.1 1.13 46.2 21.13 16.2 1.13 101.2 7.7 1.13 " ++
  "1.2 6.13 2.2 2.13 1.2 4.13 33.7 1.13 1.2 1.13 30.2 27.13 91.2 11.13 58.2 9.13 9.2 1.13 24.2 " ++
  "4.13 1.2 9.13 1.2 3.13 1.2 5.13 43.2 3.13 52.7 2.13 5.2 9.13 42.2 24.7 1.2 32.9 1.13 54.2 " ++
  "1.9 1.2 1.13 1.9 3.2 8.9 4.2 1.9 2.13 1.2 7.13 10.2 2.13 29.2 1.9 2.13 56.2 1.13 1.2 1.9 2.2 " ++
  "4.13 2.9 2.13 2.9 2.2 1.13 9.2 1.13 10.2 2.13 26.2 1.13 2.2 2.9 1.13 56.2 1.13 1.9 3.2 2.13 " ++
  "4.2 2.13 2.2 3.13 3.2 1.13 30.2 2.13 3.2 1.13 11.2 2.9 1.13 56.2 1.13 1.9 3.2 5.13 1.2 2.9 " ++
  "1.13 1.9 2.2 1.13 20.2 2.13 22.2 6.13 1.2 1.9 2.13 56.2 1.13 1.2 2.9 1.2 4.13 2.9 2.13 2.9 " ++
  "2.2 1.13 7.2 3.13 10.2 2.13 30.2 1.13 59.2 1.9 1.2 1.9 2.13 3.9 3.13 1.9 3.2 1.13 9.2 1.13 " ++
  "40.2 1.9 3.2 1.13 55.2 1.13 1.2 3.9 4.13 1.2 3.13 1.2 4.13 7.2 2.13 11.2 2.13 29.2 1.9 2.13 " ++
  "56.2 1.13 1.9 1.2 2.9 1.2 1.9 2.13 1.2 3.13 1.2 4.13 7.2 2.13 11.2 2.13 15.9 1.13 12.2 2.9 " ++
  "2.13 55.2 2.13 1.2 1.9 2.2 4.13 1.9 3.13 1.9 3.2 1.7 1.13 8.2 1.13 10.2 2.13 29.2 1.9 2.13 " ++
  "70.2 1.13 4.2 1.9 2.2 3.13 1.2 1.13 1.9 7.2 1.13 18.9 2.13 61.2 1.13 1.9 1.2 7.13 12.2 8.13 " ++
  "98.2 1.13 1.9 1.2 9.13 11.2 7.13 73.2 2.13 27.2 1.13 1.2 1.13 1.2 1.13 4.9 2.13 49.2 14.9 " ++
  "1.2 5.13 1.2 2.13 5.2 11.13 1.2 36.13 9.2 1.13 102.2 4.9 1.2 6.13 1.2 2.9 2.2 2.13 23.9 2.2 " ++
  "2.13 4.2 3.13 16.2 4.13 13.2 1.13 1.9 1.2 2.13 6.2 1.13 15.2 1.13 98.3 96.11 72.10 88.13 " ++
  "349.2 3.13 946.2 4.13 28.2 3.13 29.2 2.13 30.2 2.13 64.2 2.9 1.2 7.9 8.2 1.9 2.2 11.13 9.2 " ++
  "1.13 45.2 3.1 1.2 1.13 117.2 2.13 34.2 1.13 118.2 3.9 4.2 2.9 3.13 4.9 2.2 1.9 6.2 3.13 " ++
  "219.2 2.9 2.2 1.13 57.9 1.2 1.9 1.2 7.13 1.2 1.13 1.2 1.13 2.2 8.9 6.2 10.13 2.2 1.13 48.2 " ++
  "31.13 49.2 4.9 1.13 47.2 10.9 4.2 3.13 38.2 9.13 12.2 2.9 1.13 30.9 1.2 4.9 2.2 6.13 56.2 " ++
  "1.9 1.2 2.9 3.2 1.9 1.2 5.13 48.9 8.2 8.9 2.2 2.13 152.2 3.13 1.2 13.9 1.2 7.13 4.2 1.13 6.2 " ++
  "1.13 2.9 1.2 2.13 198.2 64.13 523.1 1.2 1.12 1.1 2.13 24.1 7.13 49.1 16.13 96.2 33.13 3070.2 " ++
  "3.13 141.2 1.13 96.2 32.13 554.2 6.13 105.2 2.13 30164.2 4.13 1.2 10.13 32.2 2.13 80.2 2.13 " ++
  "272.2 1.13 3.2 1.13 4.2 1.13 23.9 2.2 2.9 1.13 4.2 1.13 83.9 2.13 50.9 16.2 2.13 26.2 18.13 " ++
  "13.2 1.13 38.2 8.13 25.2 11.9 1.2 1.13 12.3 29.13 3.2 3.9 1.13 47.2 1.9 2.2 4.9 2.2 2.9 2.2 " ++
  "1.13 36.2 1.13 67.2 6.9 2.2 2.9 2.2 2.13 12.2 1.13 8.2 1.9 1.13 46.2 1.13 51.2 1.13 1.2 3.13 " ++
  "2.2 2.13 5.2 2.13 1.2 1.13 41.9 1.2 2.9 2.13 5.9 1.2 1.13 236.9 2.2 1.9 2.2 1.9 2.13 1.9 1.2 " ++
  "1.13 18.5 1.6 27.5 1.6 27.5 1.6 27.5 1.6 27.5 1.6 27.5 1.6 27.5 1.6 27.5 1.6 27.5 1.6 27.5 " ++
  "1.6 27.5 1.6 27.5 1.6 27.5 1.6 27.5 1.6 27.5 1.6 27.5 1.6 27.5 1.6 27.5 1.6 27.5 1.6 27.5 " ++
  "1.6 27.5 1.6 27.5 1.6 27.5 1.6 27.5 1.6 27.5 1.6 27.5 1.6 27.5 1.6 27.5 1.6 27.5 1.6 27.5 " ++
  "1.6 27.5 1.6 27.5 1.6 27.5 1.6 27.5 1.6 27.5 1.6 27.5 1.6 27.5 1.6 27.5 1.6 27.5 1.6 27.5 " ++
  "1.6 27.5 1.6 27.5 1.6 27.5 1.6 27.5 1.6 27.5 1.6 27.5 1.6 27.5 1.6 27.5 1.6 27.5 1.6 27.5 " ++
  "1.6 27.5 1.6 27.5 1.6 27.5 1.6 27.5 1.6 27.5 1.6 27.5 1.6 27.5 1.6 27.5 1.6 27.5 1.6 27.5 " ++
  "1.6 27.5 1.6 27.5 1.6 27.5 1.6 27.5 1.6 27.5 1.6 27.5 1.6 27.5 1.6 27.5 1.6 27.5 1.6 27.5 " ++
  "1.6 27.5 1.6 27.5 1.6 27.5 1.6 27.5 1.6 27.5 1.6 27.5 1.6 27.5 1.6 27.5 1.6 27.5 1.6 27.5 " ++
  "1.6 27.5 1.6 27.5 1.6 27.5 1.6 27.5 1.6 27.5 1.6 27.5 1.6 27.5 1.6 27.5 1.6 27.5 1.6 27.5 " ++
  "1.6 27.5 1.6 27.5 1.6 27.5 1.6 27.5 1.6 27.5 1.6 27.5 1.6 27.5 1.6 27.5 1.6 27.5 1.6 27.5 " ++
  "1.6 27.5 1.6 27.5 1.6 27.5 1.6 27.5 1.6 27.5 1.6 27.5 1.6 27.5 1.6 27.5 1.6 27.5 1.6 27.5 " ++
  "1.6 27.5 1.6 27.5 1.6 27.5 1.6 27.5 1.6 27.5 1.6 27.5 1.6 27.5 1.6 27.5 1.6 27.5 1.6 27.5 " ++
  "1.6 27.5 1.6 27.5 1.6 27.5 1.6 27.5 1.6 27.5 1.6 27.5 1.6 27.5 1.6 27.5 1.6 27.5 1.6 27.5 " ++
  "1.6 27.5 1.6 27.5 1.6 27.5 1.6 27.5 1.6 27.5 1.6 27.5 1.6 27.5 1.6 27.5 1.6 27.5 1.6 27.5 " ++
  "1.6 27.5 1.6 27.5 1.6 27.5 1.6 27.5 1.6 27.5 1.6 27.5 1.6 27.5 1.6 27.5 1.6 27.5 1.6 27.5 " ++
  "1.6 27.5 1.6 27.5 1.6 27.5 1.6 27.5 1.6 27.5 1.6 27.5 1.6 27.5 1.6 27.5 1.6 27.5 1.6 27.5 " ++
  "1.6 27.5 1.6 27.5 1.6 27.5 1.6 27.5 1.6 27.5 1.6 27.5 1.6 27.5 1.6 27.5 1.6 27.5 1.6 27.5 " ++
  "1.6 27.5 1.6 27.5 1.6 27.5 1.6 27.5 1.6 27.5 1.6 27.5 1.6 27.5 1.6 27.5 1.6 27.5 1.6 27.5 " ++
  "1.6 27.5 1.6 27.5 1.6 27.5 1.6 27.5 1.6 27.5 1.6 27.5 1.6 27.5 1.6 27.5 1.6 27.5 1.6 27.5 " ++
  "1.6 27.5 1.6 27.5 1.6 27.5 1.6 27.5 1.6 27.5 1.6 27.5 1.6 27.5 1.6 27.5 1.6 27.5 1.6 27.5 " ++
  "1.6 27.5 1.6 27.5 1.6 27.5 1.6 27.5 1.6 27.5 1.6 27.5 1.6 27.5 1.6 27.5 1.6 27.5 1.6 27.5 " ++
  "1.6 27.5 1.6 27.5 1.6 27.5 1.6 27.5 1.6 27.5 1.6 27.5 1.6 27.5 1.6 27.5 1.6 27.5 1.6 27.5 " ++
  "1.6 27.5 1.6 27.5 1.6 27.5 1.6 27.5 1.6 27.5 1.6 27.5 1.6 27.5 1.6 27.5 1.6 27.5 1.6 27.5 " ++
  "1.6 27.5 1.6 27.5 1.6 27.5 1.6 27.5 1.6 27.5 1.6 27.5 1.6 27.5 1.6 27.5 1.6 27.5 1.6 27.5 " ++
  "1.6 27.5 1.6 27.5 1.6 27.5 1.6 27.5 1.6 27.5 1.6 27.5 1.6 27.5 1.6 27.5 1.6 27.5 1.6 27.5 " ++
  "1.6 27.5 1.6 27.5 1.6 27.5 1.6 27.5 1.6 27.5 1.6 27.5 1.6 27.5 1.6 27.5 1.6 27.5 1.6 27.5 " ++
  "1.6 27.5 1.6 27.5 1.6 27.5 1.6 27.5 1.6 27.5 1.6 27.5 1.6 27.5 1.6 27.5 1.6 27.5 1.6 27.5 " ++
  "1.6 27.5 1.6 27.5 1.6 27.5 1.6 27.5 1.6 27.5 1.6 27.5 1.6 27.5 1.6 27.5 1.6 27.5 1.6 27.5 " ++
  "1.6 27.5 1.6 27.5 1.6 27.5 1.6 27.5 1.6 27.5 1.6 27.5 1.6 27.5 1.6 27.5 1.6 27.5 1.6 27.5 " ++
  "1.6 27.5 1.6 27.5 1.6 27.5 1.6 27.5 1.6 27.5 1.6 27.5 1.6 27.5 1.6 27.5 1.6 27.5 1.6 27.5 " ++
  "1.6 27.5 1.6 27.5 1.6 27.5 1.6 27.5 1.6 27.5 1.6 27.5 1.6 27.5 1.6 27.5 1.6 27.5 1.6 27.5 " ++
  "1.6 27.5 1.6 27.5 1.6 27.5 1.6 27.5 1.6 27.5 1.6 27.5 1.6 27.5 1.6 27.5 1.6 27.5 1.6 27.5 " ++
  "1.6 27.5 1.6 27.5 1.6 27.5 1.6 27.5 1.6 27.5 1.6 27.5 1.6 27.5 1.6 27.5 1.6 27.5 1.6 27.5 " ++
  "1.6 27.5 1.6 27.5 1.6 27.5 1.6 27.5 1.6 27.5 1.6 27.5 1.6 27.5 1.6 27.5 1.6 27.5 1.6 27.5 " ++
  "1.6 27.5 1.6 27.5 1.6 27.5 1.6 27.5 1.6 27.5 1.6 27.5 1.6 27.5 1.6 27.5 1.6 27.5 1.6 27.5 " ++
  "1.6 27.5 1.6 27.5 1.6 27.5 1.6 27.5 1.6 27.5 1.6 27.5 1.6 27.5 1.6 27.5 1.6 27.5 1.6 27.5 " ++
  "1.6 27.5 1.6 27.5 1.6 27.5 1.6 27.5 1.6 27.5 1.6 27.5 1.6 27.5 1.6 27.5 1.6 27.5 1.6 27.5 " ++
  "1.6 27.5 1.6 27.5 1.6 27.5 1.6 27.5 1.6 27.5 1.6 27.5 1.6 27.5 1.6 27.5 1.6 27.5 1.6 27.5 " ++
  "1.6 27.5 1.6 27.5 1.6 27.5 1.6 27.5 1.6 27.5 1.6 27.5 1.6 27.5 1.6 27.5 1.6 27.5 1.6 27.5 " ++
  "1.6 27.5 1.6 27.5 1.6 27.5 1.6 27.5 1.6 27.5 1.6 27.5 1.6 27.5 1.6 27.5 1.6 27.5 1.6 27.13 " ++
  "12.11 23.13 4.10 49.13 8994.2 1.13 737.2 16.13 16.2 16.13 207.1 1.13 158.2 2.13 80.1 12.13 " ++
  "513.2 1.13 226.2 1.13 149.2 5.13 1670.2 3.13 1.2 2.13 5.2 4.13 40.2 3.13 4.2 1.13 165.2 2.13 " ++
  "573.2 4.13 65.2 5.13 317.2 2.13 79.2 4.13 70.2 11.13 49.2 4.13 122.9 1.2 1.9 1.13 53.2 15.13 " ++
  "41.2 1.13 2.2 2.13 10.2 3.9 1.13 45.9 3.2 4.9 2.2 2.13 2.7 1.13 4.2 1.13 10.7 1.13 50.2 3.13 " ++
  "36.2 5.9 1.2 8.13 16.9 2.13 44.2 1.13 12.2 2.9 1.13 48.9 3.2 9.9 1.2 1.13 1.7 2.13 5.2 4.13 " ++
  "1.9 1.2 1.13 92.9 3.2 3.9 2.2 4.13 6.2 1.13 2.2 1.13 157.2 1.9 3.2 8.13 21.2 2.9 2.13 55.2 " ++
  "2.13 1.2 1.9 1.2 1.9 4.13 2.9 2.13 2.9 2.2 1.13 9.2 1.13 10.9 2.13 2.2 7.13 3.2 5.13 67.2 " ++
  "1.9 2.2 6.13 1.2 1.13 2.2 1.13 1.2 3.9 1.13 1.9 2.2 3.7 1.2 1.13 14.2 2.13 82.9 3.2 8.9 2.2 " ++
  "3.9 1.2 1.13 23.2 1.13 81.2 1.9 2.2 6.9 1.2 1.9 2.2 1.9 1.2 2.9 1.2 2.13 235.2 1.9 2.2 4.13 " ++
  "2.9 4.2 2.9 1.2 2.13 27.2 2.13 82.9 3.2 8.9 2.2 1.9 1.2 2.13 106.2 1.9 1.2 1.9 2.2 8.13 " ++
  "101.2 1.9 1.2 1.13 2.2 4.9 1.2 5.13 256.9 3.2 9.9 1.2 2.13 245.2 1.9 5.13 1.9 2.13 2.2 4.7 " ++
  "1.9 1.7 1.9 1.2 1.13 141.9 3.2 4.13 2.2 2.9 4.2 1.13 3.9 1.13 28.2 10.13 40.2 6.9 1.7 1.2 " ++
  "4.13 8.2 1.13 9.2 6.9 2.2 3.13 40.7 6.2 13.9 1.2 2.13 405.9 1.2 7.13 1.2 6.9 1.2 1.13 82.2 " ++
  "22.13 1.9 1.2 7.9 1.2 2.9 1.2 2.13 122.2 6.13 3.2 1.13 1.2 2.13 1.2 7.7 1.2 1.13 66.9 5.13 " ++
  "1.2 2.13 1.9 2.2 1.9 1.2 1.13 347.2 2.9 2.13 9.2 2.7 1.9 1.13 48.9 2.2 5.13 3.9 2.2 3.13 " ++
  "23.2 1.13 5333.1 16.2 1.13 6.2 15.13 11464.2 12.9 3.2 3.13 2496.2 5.13 59.2 7.13 1048.2 1.13 " ++
  "1.9 55.13 7.2 4.13 81.2 1.13 11.2 2.13 19627.2 2.13 1.1 4.13 4700.2 46.13 2.2 23.13 542.2 " ++
  "5.13 3.2 6.1 8.2 8.13 2.2 7.13 30.2 4.13 148.2 3.13 1979.2 55.13 4.2 50.13 8.2 1.13 14.2 " ++
  "1.13 22.2 5.13 1.2 15.13 1360.2 7.13 1.2 17.13 2.2 7.13 1.2 2.13 1.2 5.13 100.2 1.13 160.2 " ++
  "7.13 375.2 1.13 61.2 4.13 508.2 4.13 254.2 2.13 736.2 7.13 109.2 7.13 2203.8 26.13 507.2 " ++
  "5.13 789504.1 32.2 96.1 128.2 240.1 3600.13"

/-- The runs of `Word_Break`. -/
def wordBreakText : String :=
  "0.18 10.8 1.12 2.1 1.18 18.16 1.18 1.2 1.18 4.15 1.18 4.10 1.18 1.11 1.18 1.13 10.9 1.10 " ++
  "1.18 5.0 26.18 4.4 1.18 1.0 26.18 10.12 1.18 36.0 1.18 2.5 1.18 7.0 1.18 1.9 1.18 2.0 1.18 " ++
  "5.0 23.18 1.0 31.18 1.0 480.18 6.0 34.3 112.0 5.18 1.0 2.18 2.0 4.10 1.0 1.18 6.0 1.9 1.0 " ++
  "3.18 1.0 1.18 1.0 20.18 1.0 83.18 1.0 139.18 1.3 7.0 166.18 1.0 38.18 2.0 4.18 1.0 1.9 1.0 " ++
  "41.10 1.0 1.18 6.3 45.18 1.3 1.18 1.3 2.18 1.3 2.18 1.3 1.18 8.6 27.18 4.6 4.0 1.9 1.18 11.5 " ++
  "6.18 6.10 2.18 2.3 11.18 1.5 1.18 3.0 43.3 21.13 10.18 1.13 1.10 1.18 1.0 2.3 1.0 99.18 1.0 " ++
  "1.3 7.5 1.18 1.3 6.0 2.3 2.18 1.3 4.0 2.13 10.0 3.18 2.0 1.18 15.5 1.0 1.3 1.0 30.3 27.18 " ++
  "2.0 89.3 11.0 1.18 14.13 10.0 33.3 9.0 2.18 2.10 1.18 1.0 1.18 2.3 1.18 2.0 22.3 4.0 1.3 9.0 " ++
  "1.3 3.0 1.3 5.18 18.0 25.3 3.18 4.0 11.18 5.0 24.18 1.0 6.18 1.5 2.18 5.3 9.0 42.3 24.5 1.3 " ++
  "33.0 54.3 3.0 1.3 18.0 1.3 7.0 10.3 2.18 2.13 10.18 1.0 16.3 3.18 1.0 8.18 2.0 2.18 2.0 " ++
  "22.18 1.0 7.18 1.0 1.18 3.0 4.18 2.3 1.0 1.3 7.18 2.3 2.18 2.3 3.0 1.18 8.3 1.18 4.0 2.18 " ++
  "1.0 3.3 2.18 2.13 10.0 2.18 10.0 1.18 1.3 1.18 2.3 3.18 1.0 6.18 4.0 2.18 2.0 22.18 1.0 7.18 " ++
  "1.0 2.18 1.0 2.18 1.0 2.18 2.3 1.18 1.3 5.18 4.3 2.18 2.3 3.18 3.3 1.18 7.0 4.18 1.0 1.18 " ++
  "7.13 10.3 2.0 3.3 1.18 11.3 3.18 1.0 9.18 1.0 3.18 1.0 22.18 1.0 7.18 1.0 2.18 1.0 5.18 2.3 " ++
  "1.0 1.3 8.18 1.3 3.18 1.3 3.18 2.0 1.18 15.0 2.3 2.18 2.13 10.18 9.0 1.3 6.18 1.3 3.18 1.0 " ++
  "8.18 2.0 2.18 2.0 22.18 1.0 7.18 1.0 2.18 1.0 5.18 2.3 1.0 1.3 7.18 2.3 2.18 2.3 3.18 7.3 " ++
  "3.18 4.0 2.18 1.0 3.3 2.18 2.13 10.18 1.0 1.18 16.3 1.0 1.18 1.0 6.18 3.0 3.18 1.0 4.18 3.0 " ++
  "2.18 1.0 1.18 1.0 2.18 3.0 2.18 3.0 3.18 3.0 12.18 4.3 5.18 3.3 3.18 1.3 4.18 2.0 1.18 6.3 " ++
  "1.18 14.13 10.18 16.3 5.0 8.18 1.0 3.18 1.0 23.18 1.0 16.18 2.3 1.0 1.3 7.18 1.3 3.18 1.3 " ++
  "4.18 7.3 2.18 1.0 3.18 2.0 1.18 2.0 2.3 2.18 2.13 10.18 16.0 1.3 3.18 1.0 8.18 1.0 3.18 1.0 " ++
  "23.18 1.0 10.18 1.0 5.18 2.3 1.0 1.3 7.18 1.3 3.18 1.3 4.18 7.3 2.18 6.0 2.18 1.0 2.3 2.18 " ++
  "2.13 10.18 1.0 2.3 1.18 12.3 4.0 9.18 1.0 3.18 1.0 41.3 2.0 1.3 7.18 1.3 3.18 1.3 4.0 1.18 " ++
  "5.0 3.3 1.18 7.0 3.3 2.18 2.13 10.18 10.0 6.18 1.3 3.18 1.0 18.18 3.0 24.18 1.0 9.18 1.0 " ++
  "1.18 2.0 7.18 3.3 1.18 4.3 6.18 1.3 1.18 1.3 8.18 6.13 10.18 2.3 2.18 61.3 1.18 2.3 7.18 " ++
  "12.3 8.18 1.13 10.18 87.3 1.18 2.3 9.18 11.3 7.18 1.13 10.18 38.0 1.18 23.3 2.18 6.13 10.18 " ++
  "11.3 1.18 1.3 1.18 1.3 1.18 4.3 2.0 8.18 1.0 36.18 4.3 20.18 1.3 2.0 5.3 11.18 1.3 36.18 9.3 " ++
  "1.18 100.3 20.18 1.13 10.18 12.3 4.18 4.3 3.18 1.3 3.18 2.3 7.18 3.3 4.18 13.3 12.18 1.3 " ++
  "1.13 10.3 4.18 2.0 38.18 1.0 1.18 5.0 1.18 2.0 43.18 1.0 333.18 1.0 4.18 2.0 7.18 1.0 1.18 " ++
  "1.0 4.18 2.0 41.18 1.0 4.18 2.0 33.18 1.0 4.18 2.0 7.18 1.0 1.18 1.0 4.18 2.0 15.18 1.0 " ++
  "57.18 1.0 4.18 2.0 67.18 2.3 3.18 32.0 16.18 16.0 86.18 2.0 6.18 3.0 620.18 2.0 17.16 1.0 " ++
  "26.18 5.0 75.18 3.0 11.18 7.0 18.3 4.18 9.0 19.3 3.18 11.0 18.3 2.18 12.0 13.18 1.0 3.18 1.3 " ++
  "2.18 64.3 32.18 9.3 1.18 2.13 10.18 33.3 3.5 1.3 1.13 10.18 6.0 89.18 7.0 5.3 2.0 34.3 1.0 " ++
  "1.18 5.0 70.18 10.0 31.18 1.3 12.18 4.3 12.18 10.13 10.18 128.13 10.18 38.0 23.3 5.18 57.3 " ++
  "10.18 1.3 29.18 2.3 1.13 10.18 6.13 10.18 22.3 31.18 49.3 5.0 47.3 17.0 8.18 3.13 10.18 17.3 " ++
  "9.18 12.3 3.0 30.3 13.0 2.13 10.0 44.3 14.18 12.0 36.3 20.18 8.13 10.18 3.0 3.13 10.0 36.18 " ++
  "2.0 11.18 5.0 43.18 2.0 3.18 16.3 3.18 1.3 21.0 4.3 1.0 6.3 1.0 2.3 3.0 1.18 5.0 192.3 64.0 " ++
  "278.18 2.0 6.18 2.0 38.18 2.0 6.18 2.0 8.18 1.0 1.18 1.0 1.18 1.0 1.18 1.0 31.18 2.0 53.18 " ++
  "1.0 7.18 1.0 1.18 3.0 3.18 1.0 7.18 3.0 4.18 2.0 6.18 4.0 13.18 5.0 3.18 1.0 7.18 3.16 7.18 " ++
  "1.16 3.18 1.3 1.17 1.5 2.18 8.11 2.18 10.11 1.18 2.9 1.12 2.5 5.4 1.18 15.4 2.18 3.10 1.18 " ++
  "15.4 1.18 10.16 1.5 5.18 1.5 10.18 1.0 1.18 13.0 1.18 16.0 13.18 51.3 33.18 17.0 1.18 4.0 " ++
  "1.18 2.0 10.18 1.0 1.18 3.0 5.18 6.0 1.18 1.0 1.18 1.0 1.18 1.0 4.18 1.0 11.18 2.0 4.18 5.0 " ++
  "5.18 4.0 1.18 17.0 41.18 813.0 52.18 1814.0 229.18 6.0 4.3 3.0 2.18 12.0 38.18 1.0 1.18 5.0 " ++
  "1.18 2.0 56.18 7.0 1.18 15.3 1.0 23.18 9.0 7.18 1.0 7.18 1.0 7.18 1.0 7.18 1.0 7.18 1.0 7.18 " ++
  "1.0 7.18 1.0 7.18 1.3 32.18 47.0 1.18 464.16 1.18 4.0 1.18 36.3 6.18 1.7 5.18 5.0 2.18 92.3 " ++
  "2.7 2.18 3.7 91.18 1.7 4.18 5.0 43.18 1.0 94.18 17.0 32.18 48.7 16.18 208.7 47.18 1.7 88.18 " ++
  "27816.0 1165.18 67.0 46.18 2.0 269.18 3.0 16.13 10.0 2.18 20.0 47.3 4.18 1.3 10.18 1.0 31.3 " ++
  "2.0 80.3 2.18 22.0 198.18 2.0 2.18 1.0 1.18 1.0 8.18 21.0 16.3 1.0 3.3 1.0 4.3 1.0 23.3 5.18 " ++
  "4.3 1.18 19.0 52.18 12.3 2.0 50.3 18.18 10.13 10.18 6.3 18.0 6.18 3.0 1.18 1.0 2.3 1.13 10.0 " ++
  "28.3 8.18 2.0 23.3 13.18 12.0 29.18 3.3 4.0 47.3 14.18 14.0 1.13 10.18 11.3 1.18 10.13 10.18 " ++
  "6.0 41.3 14.18 9.0 3.3 1.0 8.3 2.18 2.13 10.18 33.3 3.18 50.3 1.18 1.3 3.18 2.3 2.18 5.3 " ++
  "2.18 1.3 1.18 30.0 11.3 5.18 2.0 3.3 2.18 10.0 6.18 2.0 6.18 2.0 6.18 9.0 7.18 1.0 7.18 1.0 " ++
  "58.18 6.0 115.3 8.18 1.3 2.18 2.13 10.18 6.0 11172.18 12.0 23.18 4.0 49.18 8964.0 7.18 12.0 " ++
  "5.18 5.6 1.3 1.6 10.18 1.6 13.18 1.6 5.18 1.6 1.18 1.6 2.18 1.6 2.18 1.6 10.0 98.18 33.0 " ++
  "363.18 18.0 64.18 2.0 54.18 40.0 12.18 4.3 16.10 1.18 2.9 1.10 1.18 11.3 16.18 3.4 2.18 24.4 " ++
  "3.10 1.18 1.11 1.18 1.10 1.9 1.18 26.0 5.18 1.0 135.18 2.5 1.18 7.11 1.18 4.10 1.18 1.11 " ++
  "1.18 1.13 10.9 1.10 1.18 5.0 26.18 4.4 1.18 1.0 26.18 11.7 56.3 2.0 31.18 3.0 6.18 2.0 6.18 " ++
  "2.0 6.18 2.0 3.18 28.5 3.18 4.0 12.18 1.0 26.18 1.0 19.18 1.0 2.18 1.0 15.18 2.0 14.18 34.0 " ++
  "123.18 69.0 53.18 136.3 1.18 130.0 29.18 3.0 49.18 15.3 1.18 31.0 32.18 13.0 30.18 5.0 38.3 " ++
  "5.18 5.0 30.18 2.0 36.18 4.0 8.18 1.0 5.18 42.0 158.18 2.13 10.18 6.0 36.18 4.0 36.18 4.0 " ++
  "40.18 8.0 52.18 12.0 11.18 1.0 15.18 1.0 7.18 1.0 2.18 1.0 11.18 1.0 15.18 1.0 7.18 1.0 2.18 " ++
  "3.0 52.18 12.0 311.18 9.0 22.18 10.0 8.18 24.0 6.18 1.0 42.18 1.0 9.18 69.0 6.18 2.0 1.18 " ++
  "1.0 44.18 1.0 2.18 3.0 1.18 2.0 23.18 10.0 23.18 9.0 31.18 65.0 19.18 1.0 2.18 10.0 22.18 " ++
  "10.0 26.18 70.0 56.18 6.0 2.18 64.0 1.3 3.18 1.3 2.18 5.3 4.0 4.18 1.0 3.18 1.0 29.18 2.3 " ++
  "3.18 4.3 1.18 32.0 29.18 3.0 29.18 35.0 8.18 1.0 28.3 2.18 25.0 54.18 10.0 22.18 10.0 19.18 " ++
  "13.0 18.18 110.0 73.18 55.0 51.18 13.0 51.18 13.0 36.3 4.18 8.13 10.18 6.13 10.0 28.18 3.3 " ++
  "5.18 1.0 23.18 250.0 42.18 1.3 2.18 3.0 2.18 16.0 3.18 55.3 4.0 29.18 10.0 1.18 8.0 22.3 " ++
  "11.18 31.0 18.3 4.18 42.0 21.18 27.0 23.18 9.3 3.0 53.3 15.18 31.13 10.3 1.0 2.3 2.0 1.18 " ++
  "9.3 4.0 45.3 11.18 2.5 1.18 4.3 1.18 10.5 1.18 2.0 25.18 7.13 10.18 6.3 3.0 36.3 14.18 1.13 " ++
  "10.18 4.0 1.3 2.0 1.18 8.0 35.3 1.18 2.0 1.18 9.3 3.0 48.3 14.0 4.18 4.3 4.18 1.3 2.13 10.0 " ++
  "1.18 1.0 1.18 35.0 18.18 1.0 25.3 12.18 6.3 1.0 2.3 1.18 62.0 7.18 1.0 1.18 1.0 4.18 1.0 " ++
  "15.18 1.0 10.18 7.0 47.3 12.18 5.13 10.18 6.3 4.18 1.0 8.18 2.0 2.18 2.0 22.18 1.0 7.18 1.0 " ++
  "2.18 1.0 5.18 1.3 2.0 1.3 7.18 2.3 2.18 2.3 3.18 2.0 1.18 6.3 1.18 5.0 5.3 2.18 2.3 7.18 3.3 " ++
  "5.18 11.0 10.18 1.0 1.18 2.0 1.18 1.0 38.18 1.0 1.3 9.18 1.3 1.18 2.3 1.18 1.3 4.18 1.3 5.0 " ++
  "1.3 1.0 1.18 13.3 2.18 29.0 53.3 18.0 4.18 5.13 10.18 4.3 1.0 3.18 30.0 48.3 20.0 2.18 1.0 " ++
  "1.18 8.13 10.18 166.0 47.3 7.18 2.3 9.18 23.0 4.3 2.18 34.0 48.3 17.18 3.0 1.18 11.13 10.18 " ++
  "38.0 43.3 13.0 1.18 7.13 10.18 6.13 20.18 57.3 15.18 4.13 10.18 198.0 44.3 15.18 101.0 64.13 " ++
  "10.18 21.0 8.18 2.0 1.18 2.0 8.18 1.0 2.18 1.0 24.3 6.18 1.3 2.18 2.3 4.0 1.3 1.0 1.3 2.18 " ++
  "12.13 10.18 70.0 8.18 2.0 39.3 7.18 2.3 7.0 1.18 1.0 1.3 1.18 27.0 1.3 10.0 40.3 7.0 1.3 " ++
  "4.18 8.3 1.18 8.0 1.3 11.0 46.3 16.18 3.0 1.18 18.0 73.18 199.0 33.18 15.13 10.18 6.0 9.18 " ++
  "1.0 37.3 8.18 1.3 8.0 1.18 15.13 10.18 24.0 30.18 2.3 22.18 1.3 14.18 73.0 7.18 1.0 2.18 1.0 " ++
  "38.3 6.18 3.3 1.18 1.3 2.18 1.3 7.0 1.3 1.18 8.13 10.18 6.0 6.18 1.0 2.18 1.0 32.3 5.18 1.3 " ++
  "2.18 1.3 5.0 1.18 7.13 10.18 310.0 19.3 4.18 9.3 2.0 1.3 1.0 13.18 1.0 34.3 7.18 3.3 5.18 " ++
  "13.13 10.3 1.18 85.0 1.18 79.0 922.18 102.0 111.18 17.0 196.18 2636.0 97.18 15.0 1072.5 16.3 " ++
  "1.0 6.3 15.18 10.0 3995.18 5.0 583.18 6841.0 30.3 18.13 10.18 1734.0 569.18 7.0 31.18 1.13 " ++
  "10.18 6.0 79.18 1.13 10.18 6.0 30.18 2.3 5.18 11.0 48.3 7.18 9.0 4.18 12.13 10.18 9.0 21.18 " ++
  "5.0 19.18 432.0 45.18 3.13 10.18 198.0 64.18 128.0 75.18 4.3 1.0 1.3 55.18 7.3 4.0 13.18 " ++
  "64.0 2.18 1.0 1.3 1.18 11.3 2.18 16382.7 4.18 1.7 7.18 1.7 2.18 1.7 1.18 287.7 3.18 50.7 " ++
  "1.18 14.7 4.18 2712.0 107.18 5.0 13.18 3.0 9.18 7.0 10.18 3.3 2.18 1.5 4.18 4172.13 10.18 " ++
  "518.3 46.18 2.3 23.18 542.3 5.18 3.3 6.5 8.3 8.18 2.3 7.18 30.3 4.18 148.3 3.18 443.0 85.18 " ++
  "1.0 71.18 1.0 2.18 2.0 1.18 2.0 2.18 2.0 4.18 1.0 12.18 1.0 1.18 1.0 7.18 1.0 65.18 1.0 4.18 " ++
  "2.0 8.18 1.0 7.18 1.0 28.18 1.0 4.18 1.0 5.18 1.0 1.18 3.0 7.18 1.0 340.18 2.0 25.18 1.0 " ++
  "25.18 1.0 31.18 1.0 25.18 1.0 31.18 1.0 25.18 1.0 31.18 1.0 25.18 1.0 31.18 1.0 25.18 1.0 " ++
  "8.18 2.13 50.18 512.3 55.18 4.3 50.18 8.3 1.18 14.3 1.18 22.3 5.18 1.3 15.18 1104.0 31.18 " ++
  "6.0 6.18 213.3 7.18 1.3 17.18 2.3 7.18 1.3 2.18 1.3 5.18 5.0 62.18 33.3 1.18 112.0 45.18 3.3 " ++
  "7.0 7.18 2.13 10.18 4.0 1.18 321.0 30.3 1.18 17.0 44.3 4.13 10.18 470.0 28.3 4.13 10.18 " ++
  "214.0 30.3 2.0 1.13 10.18 485.0 7.18 1.0 4.18 1.0 2.18 1.0 15.18 1.0 197.18 11.3 7.18 41.0 " ++
  "68.3 7.0 1.18 4.13 10.18 1190.0 4.18 1.0 27.18 1.0 2.18 1.0 1.18 2.0 1.18 1.0 10.18 1.0 4.18 " ++
  "1.0 1.18 1.0 1.18 6.0 1.18 4.0 1.18 1.0 1.18 1.0 1.18 1.0 3.18 1.0 2.18 1.0 1.18 2.0 1.18 " ++
  "1.0 1.18 1.0 1.18 1.0 1.18 1.0 1.18 1.0 2.18 1.0 1.18 2.0 4.18 1.0 7.18 1.0 4.18 1.0 4.18 " ++
  "1.0 1.18 1.0 10.18 1.0 17.18 5.0 3.18 1.0 5.18 1.0 17.18 628.0 26.18 6.0 26.18 6.0 26.18 " ++
  "92.14 26.18 507.3 5.18 2032.13 10.18 787463.5 1.18 30.3 96.18 128.3 240.18"

/-- The runs of `Sentence_Break`. -/
def sentenceBreakText : String :=
  "0.14 9.12 1.5 1.12 2.1 1.14 18.12 1.10 1.2 1.14 4.2 3.14 2.9 2.0 1.14 1.7 10.9 1.14 4.10 " ++
  "1.14 1.13 26.2 1.14 1.2 1.14 3.6 26.2 1.14 1.2 1.14 7.11 1.14 26.12 1.14 9.6 1.2 1.14 1.4 " ++
  "1.14 7.6 1.14 4.6 1.2 1.14 4.13 23.14 1.13 7.6 24.14 1.6 8.13 1.6 1.13 1.6 1.13 1.6 1.13 1.6 " ++
  "1.13 1.6 1.13 1.6 1.13 1.6 1.13 1.6 1.13 1.6 1.13 1.6 1.13 1.6 1.13 1.6 1.13 1.6 1.13 1.6 " ++
  "1.13 1.6 1.13 1.6 1.13 1.6 1.13 1.6 1.13 1.6 1.13 1.6 1.13 1.6 1.13 1.6 1.13 1.6 1.13 1.6 " ++
  "1.13 1.6 1.13 1.6 1.13 1.6 1.13 1.6 2.13 1.6 1.13 1.6 1.13 1.6 1.13 1.6 1.13 1.6 1.13 1.6 " ++
  "1.13 1.6 1.13 1.6 2.13 1.6 1.13 1.6 1.13 1.6 1.13 1.6 1.13 1.6 1.13 1.6 1.13 1.6 1.13 1.6 " ++
  "1.13 1.6 1.13 1.6 1.13 1.6 1.13 1.6 1.13 1.6 1.13 1.6 1.13 1.6 1.13 1.6 1.13 1.6 1.13 1.6 " ++
  "1.13 1.6 1.13 1.6 1.13 1.6 1.13 1.6 1.13 1.6 1.13 2.6 1.13 1.6 1.13 1.6 3.13 2.6 1.13 1.6 " ++
  "1.13 2.6 1.13 3.6 2.13 4.6 1.13 2.6 1.13 3.6 3.13 2.6 1.13 2.6 1.13 1.6 1.13 1.6 1.13 2.6 " ++
  "1.13 1.6 2.13 1.6 1.13 2.6 1.13 3.6 1.13 1.6 1.13 2.6 2.8 1.13 1.6 3.8 4.13 2.6 1.13 2.6 " ++
  "1.13 2.6 1.13 1.6 1.13 1.6 1.13 1.6 1.13 1.6 1.13 1.6 1.13 1.6 1.13 1.6 1.13 1.6 2.13 1.6 " ++
  "1.13 1.6 1.13 1.6 1.13 1.6 1.13 1.6 1.13 1.6 1.13 1.6 1.13 1.6 1.13 1.6 2.13 2.6 1.13 1.6 " ++
  "1.13 3.6 1.13 1.6 1.13 1.6 1.13 1.6 1.13 1.6 1.13 1.6 1.13 1.6 1.13 1.6 1.13 1.6 1.13 1.6 " ++
  "1.13 1.6 1.13 1.6 1.13 1.6 1.13 1.6 1.13 1.6 1.13 1.6 1.13 1.6 1.13 1.6 1.13 1.6 1.13 1.6 " ++
  "1.13 1.6 1.13 1.6 1.13 1.6 1.13 1.6 1.13 1.6 1.13 1.6 1.13 1.6 1.13 1.6 1.13 1.6 1.13 1.6 " ++
  "7.13 2.6 1.13 2.6 2.13 1.6 1.13 4.6 1.13 1.6 1.13 1.6 1.13 1.6 1.13 1.6 69.8 1.6 36.8 7.6 " ++
  "2.14 4.8 12.14 14.6 5.14 7.8 1.14 1.8 1.14 17.3 112.13 1.6 1.13 1.6 1.8 1.14 1.13 1.6 1.14 " ++
  "2.6 4.14 1.13 1.14 6.13 1.14 1.13 3.14 1.13 1.14 1.13 2.6 1.13 17.14 1.13 9.6 35.13 1.6 2.13 " ++
  "3.6 3.13 1.6 1.13 1.6 1.13 1.6 1.13 1.6 1.13 1.6 1.13 1.6 1.13 1.6 1.13 1.6 1.13 1.6 1.13 " ++
  "1.6 1.13 1.6 1.13 1.6 5.13 1.6 1.14 1.13 1.6 1.13 2.6 2.13 51.6 48.13 1.6 1.13 1.6 1.13 1.6 " ++
  "1.13 1.6 1.13 1.6 1.13 1.6 1.13 1.6 1.13 1.6 1.13 1.6 1.13 1.6 1.13 1.6 1.13 1.6 1.13 1.6 " ++
  "1.13 1.6 1.13 1.6 1.13 1.6 1.13 1.6 1.14 1.3 7.13 1.6 1.13 1.6 1.13 1.6 1.13 1.6 1.13 1.6 " ++
  "1.13 1.6 1.13 1.6 1.13 1.6 1.13 1.6 1.13 1.6 1.13 1.6 1.13 1.6 1.13 1.6 1.13 1.6 1.13 1.6 " ++
  "1.13 1.6 1.13 1.6 1.13 1.6 1.13 1.6 1.13 1.6 1.13 1.6 1.13 1.6 1.13 1.6 1.13 1.6 1.13 1.6 " ++
  "1.13 1.6 1.13 1.6 1.13 2.6 1.13 1.6 1.13 1.6 1.13 1.6 1.13 1.6 1.13 1.6 1.13 1.6 2.13 1.6 " ++
  "1.13 1.6 1.13 1.6 1.13 1.6 1.13 1.6 1.13 1.6 1.13 1.6 1.13 1.6 1.13 1.6 1.13 1.6 1.13 1.6 " ++
  "1.13 1.6 1.13 1.6 1.13 1.6 1.13 1.6 1.13 1.6 1.13 1.6 1.13 1.6 1.13 1.6 1.13 1.6 1.13 1.6 " ++
  "1.13 1.6 1.13 1.6 1.13 1.6 1.13 1.6 1.13 1.6 1.13 1.6 1.13 1.6 1.13 1.6 1.13 1.6 1.13 1.6 " ++
  "1.13 1.6 1.13 1.6 1.13 1.6 1.13 1.6 1.13 1.6 1.13 1.6 1.13 1.6 1.13 1.6 1.13 1.6 1.13 1.6 " ++
  "1.13 1.6 1.13 1.6 1.13 1.6 1.13 1.6 1.13 1.6 1.13 1.6 1.13 1.6 1.14 1.13 38.14 2.8 1.14 3.9 " ++
  "1.14 2.6 41.10 1.14 7.3 45.14 1.3 1.14 1.3 2.14 1.3 2.14 1.3 1.14 8.8 27.14 4.8 5.14 12.4 " ++
  "6.14 6.9 2.14 2.3 11.14 1.4 1.10 3.8 43.3 21.7 10.14 1.7 2.14 1.8 2.3 1.8 99.10 1.8 1.3 7.4 " ++
  "1.14 1.3 6.8 2.3 2.14 1.3 4.8 2.7 10.8 3.14 2.8 1.10 3.14 12.4 1.8 1.3 1.8 30.3 27.14 2.8 " ++
  "89.3 11.8 1.14 14.7 10.8 33.3 9.8 2.14 2.9 1.10 1.8 1.14 2.3 1.14 2.8 22.3 4.8 1.3 9.8 1.3 " ++
  "3.8 1.3 5.14 9.10 1.14 1.10 1.14 3.10 2.14 1.8 25.3 3.14 4.8 11.14 5.8 24.14 1.8 6.14 1.4 " ++
  "2.14 5.3 9.8 42.3 24.4 1.3 33.8 54.3 3.8 1.3 18.8 1.3 7.8 10.3 2.10 2.7 10.14 1.8 16.3 3.14 " ++
  "1.8 8.14 2.8 2.14 2.8 22.14 1.8 7.14 1.8 1.14 3.8 4.14 2.3 1.8 1.3 7.14 2.3 2.14 2.3 3.8 " ++
  "1.14 8.3 1.14 4.8 2.14 1.8 3.3 2.14 2.7 10.8 2.14 10.8 1.14 1.3 1.14 2.3 3.14 1.8 6.14 4.8 " ++
  "2.14 2.8 22.14 1.8 7.14 1.8 2.14 1.8 2.14 1.8 2.14 2.3 1.14 1.3 5.14 4.3 2.14 2.3 3.14 3.3 " ++
  "1.14 7.8 4.14 1.8 1.14 7.7 10.3 2.8 3.3 1.14 11.3 3.14 1.8 9.14 1.8 3.14 1.8 22.14 1.8 7.14 " ++
  "1.8 2.14 1.8 5.14 2.3 1.8 1.3 8.14 1.3 3.14 1.3 3.14 2.8 1.14 15.8 2.3 2.14 2.7 10.14 9.8 " ++
  "1.3 6.14 1.3 3.14 1.8 8.14 2.8 2.14 2.8 22.14 1.8 7.14 1.8 2.14 1.8 5.14 2.3 1.8 1.3 7.14 " ++
  "2.3 2.14 2.3 3.14 7.3 3.14 4.8 2.14 1.8 3.3 2.14 2.7 10.14 1.8 1.14 16.3 1.8 1.14 1.8 6.14 " ++
  "3.8 3.14 1.8 4.14 3.8 2.14 1.8 1.14 1.8 2.14 3.8 2.14 3.8 3.14 3.8 12.14 4.3 5.14 3.3 3.14 " ++
  "1.3 4.14 2.8 1.14 6.3 1.14 14.7 10.14 16.3 5.8 8.14 1.8 3.14 1.8 23.14 1.8 16.14 2.3 1.8 1.3 " ++
  "7.14 1.3 3.14 1.3 4.14 7.3 2.14 1.8 3.14 2.8 1.14 2.8 2.3 2.14 2.7 10.14 16.8 1.3 3.14 1.8 " ++
  "8.14 1.8 3.14 1.8 23.14 1.8 10.14 1.8 5.14 2.3 1.8 1.3 7.14 1.3 3.14 1.3 4.14 7.3 2.14 6.8 " ++
  "2.14 1.8 2.3 2.14 2.7 10.14 1.8 2.3 1.14 12.3 4.8 9.14 1.8 3.14 1.8 41.3 2.8 1.3 7.14 1.3 " ++
  "3.14 1.3 4.8 1.14 5.8 3.3 1.14 7.8 3.3 2.14 2.7 10.14 10.8 6.14 1.3 3.14 1.8 18.14 3.8 24.14 " ++
  "1.8 9.14 1.8 1.14 2.8 7.14 3.3 1.14 4.3 6.14 1.3 1.14 1.3 8.14 6.7 10.14 2.3 2.14 13.8 48.3 " ++
  "1.8 2.3 7.14 5.8 7.3 8.14 1.7 10.14 39.8 2.14 1.8 1.14 1.8 5.14 1.8 24.14 1.8 1.14 1.8 10.3 " ++
  "1.8 2.3 9.8 1.14 2.8 5.14 1.8 1.14 1.3 7.14 1.7 10.14 2.8 4.14 32.8 1.14 23.3 2.14 6.7 10.14 " ++
  "11.3 1.14 1.3 1.14 1.3 1.2 4.3 2.8 8.14 1.8 36.14 4.3 20.14 1.3 2.8 5.3 11.14 1.3 36.14 9.3 " ++
  "1.14 57.8 43.3 20.8 1.7 10.10 2.14 4.8 6.3 4.8 4.3 3.8 1.3 3.8 2.3 7.8 3.3 4.8 13.3 12.8 1.3 " ++
  "1.7 10.3 4.14 2.13 38.14 1.13 1.14 5.13 1.14 2.8 43.14 1.6 1.8 332.14 1.8 4.14 2.8 7.14 1.8 " ++
  "1.14 1.8 4.14 2.8 41.14 1.8 4.14 2.8 33.14 1.8 4.14 2.8 7.14 1.8 1.14 1.8 4.14 2.8 15.14 1.8 " ++
  "57.14 1.8 4.14 2.8 67.14 2.3 3.14 2.10 1.14 4.10 2.14 23.8 16.14 16.13 86.14 2.6 6.14 3.8 " ++
  "620.14 1.10 1.8 17.12 1.8 26.2 2.14 3.8 75.14 3.8 11.14 7.8 18.3 4.14 9.8 19.3 3.10 2.14 9.8 " ++
  "18.3 2.14 12.8 13.14 1.8 3.14 1.3 2.14 12.8 52.3 32.10 2.14 1.8 1.14 4.8 1.3 1.14 2.7 10.14 " ++
  "24.9 1.10 1.14 4.9 1.10 1.14 1.3 3.4 1.3 1.7 10.14 6.8 89.14 7.8 5.3 2.8 34.3 1.8 1.14 5.8 " ++
  "70.14 10.8 31.14 1.3 12.14 4.3 12.14 8.10 2.7 10.8 30.14 2.8 5.14 11.8 44.14 4.8 26.14 6.7 " ++
  "10.14 38.8 23.3 5.14 4.8 53.3 10.14 1.3 29.14 2.3 1.7 10.14 6.7 10.14 13.8 1.10 4.14 4.3 " ++
  "31.14 49.3 5.8 47.3 17.8 8.14 1.10 2.7 10.10 2.14 2.10 2.14 11.3 9.14 9.10 3.3 3.8 30.3 13.8 " ++
  "2.7 10.8 44.3 14.14 12.8 36.3 20.14 3.10 2.14 3.7 10.14 3.8 3.7 10.8 36.10 2.6 9.13 1.6 1.14 " ++
  "5.8 43.14 2.8 3.14 16.3 3.14 1.3 21.8 4.3 1.8 6.3 1.8 2.3 3.8 1.14 5.6 192.3 64.13 1.6 1.13 " ++
  "1.6 1.13 1.6 1.13 1.6 1.13 1.6 1.13 1.6 1.13 1.6 1.13 1.6 1.13 1.6 1.13 1.6 1.13 1.6 1.13 " ++
  "1.6 1.13 1.6 1.13 1.6 1.13 1.6 1.13 1.6 1.13 1.6 1.13 1.6 1.13 1.6 1.13 1.6 1.13 1.6 1.13 " ++
  "1.6 1.13 1.6 1.13 1.6 1.13 1.6 1.13 1.6 1.13 1.6 1.13 1.6 1.13 1.6 1.13 1.6 1.13 1.6 1.13 " ++
  "1.6 1.13 1.6 1.13 1.6 1.13 1.6 1.13 1.6 1.13 1.6 1.13 1.6 1.13 1.6 1.13 1.6 1.13 1.6 1.13 " ++
  "1.6 1.13 1.6 1.13 1.6 1.13 1.6 1.13 1.6 1.13 1.6 1.13 1.6 1.13 1.6 1.13 1.6 1.13 1.6 1.13 " ++
  "1.6 1.13 1.6 1.13 1.6 1.13 1.6 1.13 1.6 1.13 1.6 1.13 1.6 1.13 1.6 1.13 1.6 1.13 1.6 1.13 " ++
  "1.6 1.13 1.6 1.13 1.6 1.13 1.6 1.13 1.6 1.13 1.6 1.13 1.6 1.13 1.6 1.13 1.6 1.13 1.6 1.13 " ++
  "1.6 1.13 1.6 1.13 1.6 1.13 1.6 9.13 1.6 1.13 1.6 1.13 1.6 1.13 1.6 1.13 1.6 1.13 1.6 1.13 " ++
  "1.6 1.13 1.6 1.13 1.6 1.13 1.6 1.13 1.6 1.13 1.6 1.13 1.6 1.13 1.6 1.13 1.6 1.13 1.6 1.13 " ++
  "1.6 1.13 1.6 1.13 1.6 1.13 1.6 1.13 1.6 1.13 1.6 1.13 1.6 1.13 1.6 1.13 1.6 1.13 1.6 1.13 " ++
  "1.6 1.13 1.6 1.13 1.6 1.13 1.6 1.13 1.6 1.13 1.6 1.13 1.6 1.13 1.6 1.13 1.6 1.13 1.6 1.13 " ++
  "1.6 1.13 1.6 1.13 1.6 1.13 1.6 1.13 1.6 1.13 1.6 1.13 1.6 1.13 1.6 1.13 1.6 1.13 1.6 1.13 " ++
  "1.6 1.13 1.6 1.13 1.6 9.13 8.6 6.14 2.13 6.14 2.6 8.13 8.6 8.13 8.6 6.14 2.13 6.14 2.6 8.14 " ++
  "1.13 1.14 1.13 1.14 1.13 1.14 1.13 1.6 8.13 8.6 14.14 2.6 8.13 8.6 8.13 8.6 8.13 8.6 5.14 " ++
  "1.6 2.13 5.14 1.6 1.14 3.6 3.14 1.6 2.13 5.14 3.6 4.14 2.6 2.13 4.14 4.6 8.13 5.14 5.6 3.14 " ++
  "1.6 2.13 5.14 3.12 11.4 1.3 2.4 2.14 3.9 2.14 3.2 8.14 4.0 1.14 3.11 2.4 5.12 1.14 9.2 2.14 " ++
  "1.10 2.14 7.2 2.10 3.14 21.12 1.4 5.14 1.4 10.14 1.6 1.14 11.2 2.6 1.14 13.2 2.14 1.6 13.14 " ++
  "51.3 33.14 17.13 1.14 4.13 1.14 2.6 1.13 3.6 2.13 3.6 1.14 1.13 1.14 3.13 5.14 6.13 1.14 " ++
  "1.13 1.14 1.13 1.14 1.13 4.14 1.6 1.13 4.6 1.8 4.6 1.14 2.6 2.13 2.14 5.13 1.6 4.14 4.6 1.14 " ++
  "17.13 16.6 16.8 3.13 1.6 1.8 4.14 383.2 4.14 29.2 2.14 395.13 26.6 26.14 625.2 6.14 7.2 " ++
  "14.14 79.2 2.14 31.2 10.14 403.2 22.14 63.2 4.14 32.2 2.14 514.13 48.6 48.13 1.6 1.13 3.6 " ++
  "2.13 1.6 1.13 1.6 1.13 1.6 1.13 4.6 1.13 1.6 2.13 1.6 8.13 3.6 1.13 1.6 1.13 1.6 1.13 1.6 " ++
  "1.13 1.6 1.13 1.6 1.13 1.6 1.13 1.6 1.13 1.6 1.13 1.6 1.13 1.6 1.13 1.6 1.13 1.6 1.13 1.6 " ++
  "1.13 1.6 1.13 1.6 1.13 1.6 1.13 1.6 1.13 1.6 1.13 1.6 1.13 1.6 1.13 1.6 1.13 1.6 1.13 1.6 " ++
  "1.13 1.6 1.13 1.6 1.13 1.6 1.13 1.6 1.13 1.6 1.13 1.6 1.13 1.6 1.13 1.6 1.13 1.6 1.13 1.6 " ++
  "1.13 1.6 1.13 1.6 1.13 1.6 1.13 1.6 1.13 1.6 1.13 1.6 1.13 1.6 1.13 1.6 1.13 1.6 1.13 1.6 " ++
  "1.13 1.6 1.13 1.6 1.13 1.6 1.13 1.6 1.13 1.6 1.13 1.6 2.14 6.13 1.6 1.13 1.6 1.3 3.13 1.6 " ++
  "1.14 5.10 3.14 4.6 38.14 1.6 1.14 5.6 1.14 2.8 56.14 7.8 1.14 15.3 1.8 23.14 9.8 7.14 1.8 " ++
  "7.14 1.8 7.14 1.8 7.14 1.8 7.14 1.8 7.14 1.8 7.14 1.8 7.14 1.3 32.2 14.14 14.2 2.14 2.2 " ++
  "10.14 4.10 1.8 1.14 12.10 1.14 5.2 1.14 16.10 2.2 8.14 419.12 1.9 1.10 1.14 2.8 3.2 10.14 " ++
  "2.2 8.14 1.2 3.14 1.8 9.3 6.14 1.8 5.14 2.8 5.14 4.8 86.14 2.3 2.14 2.8 3.14 1.8 90.14 1.8 " ++
  "4.14 5.8 43.14 1.8 94.14 17.8 32.14 48.8 16.14 512.8 6592.14 64.8 22157.14 67.8 46.14 1.10 " ++
  "1.8 269.14 1.10 2.8 16.7 10.8 2.14 20.13 1.6 1.13 1.6 1.13 1.6 1.13 1.6 1.13 1.6 1.13 1.6 " ++
  "1.13 1.6 1.13 1.6 1.13 1.6 1.13 1.6 1.13 1.6 1.13 1.6 1.13 1.6 1.13 1.6 1.13 1.6 1.13 1.6 " ++
  "1.13 1.6 1.13 1.6 1.13 1.6 1.13 1.6 1.13 1.6 1.13 1.6 1.13 1.6 1.8 1.3 4.14 1.3 10.14 1.8 " ++
  "1.13 1.6 1.13 1.6 1.13 1.6 1.13 1.6 1.13 1.6 1.13 1.6 1.13 1.6 1.13 1.6 1.13 1.6 1.13 1.6 " ++
  "1.13 1.6 1.13 1.6 1.13 1.6 1.13 1.6 3.3 2.8 80.3 2.14 1.10 1.14 3.10 1.14 31.8 9.14 2.13 1.6 " ++
  "1.13 1.6 1.13 1.6 1.13 1.6 1.13 1.6 1.13 1.6 1.13 1.6 3.13 1.6 1.13 1.6 1.13 1.6 1.13 1.6 " ++
  "1.13 1.6 1.13 1.6 1.13 1.6 1.13 1.6 1.13 1.6 1.13 1.6 1.13 1.6 1.13 1.6 1.13 1.6 1.13 1.6 " ++
  "1.13 1.6 1.13 1.6 1.13 1.6 1.13 1.6 1.13 1.6 1.13 1.6 1.13 1.6 1.13 1.6 1.13 1.6 1.13 1.6 " ++
  "1.13 1.6 1.13 1.6 1.13 1.6 1.13 1.6 1.13 1.6 1.13 1.6 1.13 1.6 10.13 1.6 1.13 1.6 1.13 2.6 " ++
  "1.13 1.6 1.13 1.6 1.13 1.6 1.13 1.6 1.8 1.14 2.13 1.6 1.13 1.6 1.8 1.13 1.6 1.13 1.6 3.13 " ++
  "1.6 1.13 1.6 1.13 1.6 1.13 1.6 1.13 1.6 1.13 1.6 1.13 1.6 1.13 1.6 1.13 1.6 1.13 1.6 1.13 " ++
  "5.6 1.13 5.6 1.13 1.6 1.13 1.6 1.13 1.6 1.13 1.6 1.13 1.6 1.13 1.6 1.13 1.6 1.13 4.6 1.13 " ++
  "1.6 1.13 2.6 1.14 2.13 1.6 1.14 1.6 1.14 1.6 1.13 1.6 1.13 1.6 1.13 1.6 1.13 1.14 21.6 3.13 " ++
  "1.6 1.8 1.6 3.8 7.3 1.8 3.3 1.8 4.3 1.8 23.3 5.14 4.3 1.14 19.8 52.14 2.10 2.14 8.3 2.8 50.3 " ++
  "18.14 8.10 2.7 10.14 6.3 18.8 6.14 3.8 1.14 1.8 2.3 1.7 10.8 28.3 8.14 1.10 1.8 23.3 13.14 " ++
  "12.8 29.14 3.3 4.8 47.3 14.14 7.10 2.14 5.8 1.7 10.14 6.8 5.3 1.8 10.7 10.8 5.14 1.8 41.3 " ++
  "14.14 9.8 3.3 1.8 8.3 2.14 2.7 10.14 3.10 3.8 23.14 3.8 1.3 3.8 50.3 1.8 1.3 3.8 2.3 2.8 5.3 " ++
  "2.8 1.3 1.8 1.14 24.8 3.14 2.8 11.3 5.10 2.8 3.3 2.14 10.8 6.14 2.8 6.14 2.8 6.14 9.8 7.14 " ++
  "1.8 7.14 1.6 43.14 1.6 14.14 6.6 80.8 35.3 8.10 1.3 2.14 2.7 10.14 6.8 11172.14 12.8 23.14 " ++
  "4.8 49.14 8452.8 366.14 2.8 106.14 38.6 7.14 12.6 5.14 5.8 1.3 1.8 10.14 1.8 13.14 1.8 5.14 " ++
  "1.8 1.14 1.8 2.14 1.8 2.14 1.8 108.14 33.8 363.2 2.14 16.8 64.14 2.8 54.14 40.8 12.14 4.3 " ++
  "16.9 2.10 1.9 1.14 1.10 2.2 2.14 7.3 16.14 1.9 2.14 2.2 16.14 2.2 2.14 7.9 2.0 1.14 2.9 1.10 " ++
  "2.9 1.2 6.14 4.9 1.14 12.8 5.14 1.8 135.14 2.4 1.14 1.10 1.14 6.2 2.14 2.9 2.0 1.14 1.7 10.9 " ++
  "1.14 4.10 1.14 1.13 26.2 1.14 1.2 1.14 3.6 26.2 1.14 1.2 1.14 1.2 2.10 1.2 2.9 1.14 1.8 56.3 " ++
  "2.8 31.14 3.8 6.14 2.8 6.14 2.8 6.14 2.8 3.14 28.4 3.14 4.8 12.14 1.8 26.14 1.8 19.14 1.8 " ++
  "2.14 1.8 15.14 2.8 14.14 34.8 123.14 69.8 53.14 136.3 1.14 130.8 29.14 3.8 49.14 15.3 1.14 " ++
  "31.8 32.14 13.8 30.14 5.8 38.3 5.14 5.8 30.14 2.8 36.14 4.8 8.14 1.8 5.14 42.13 40.6 40.8 " ++
  "78.14 2.7 10.14 6.13 36.14 4.6 36.14 4.8 40.14 8.8 52.14 12.13 11.14 1.13 15.14 1.13 7.14 " ++
  "1.13 2.14 1.6 11.14 1.6 15.14 1.6 7.14 1.6 2.14 3.8 52.14 12.8 311.14 9.8 22.14 10.8 8.14 " ++
  "24.6 1.8 2.6 3.14 1.6 42.14 1.6 9.14 69.8 6.14 2.8 1.14 1.8 44.14 1.8 2.14 3.8 1.14 2.8 " ++
  "23.14 10.8 23.14 9.8 31.14 65.8 19.14 1.8 2.14 10.8 22.14 10.8 26.14 70.8 56.14 6.8 2.14 " ++
  "64.8 1.3 3.14 1.3 2.14 5.3 4.8 4.14 1.8 3.14 1.8 29.14 2.3 3.14 4.3 1.14 22.10 2.14 8.8 " ++
  "29.14 3.8 29.14 35.8 8.14 1.8 28.3 2.14 25.8 54.14 10.8 22.14 10.8 19.14 13.8 18.14 110.8 " ++
  "73.14 55.13 51.14 13.6 51.14 13.8 36.3 4.14 8.7 10.14 6.7 10.8 6.13 22.14 3.3 5.14 1.8 1.6 " ++
  "22.14 250.8 42.14 1.3 2.14 3.8 2.14 16.8 3.14 55.3 4.8 29.14 10.8 1.14 8.8 22.3 11.14 4.10 " ++
  "5.14 22.8 18.3 4.10 4.14 38.8 21.14 27.8 23.14 9.3 3.8 53.3 15.10 2.14 29.7 10.3 1.8 2.3 2.8 " ++
  "1.14 9.3 4.8 45.3 11.14 2.4 1.10 4.3 1.14 10.4 1.14 2.8 25.14 7.7 10.14 6.3 3.8 36.3 14.14 " ++
  "1.7 10.14 1.10 3.8 1.3 2.8 1.14 8.8 35.3 1.14 2.8 1.14 9.3 3.8 48.3 14.8 4.10 2.14 2.3 4.10 " ++
  "1.3 2.7 10.8 1.14 1.8 1.14 1.10 2.14 32.8 18.14 1.8 25.3 12.10 2.14 1.10 2.14 1.3 1.8 2.3 " ++
  "1.14 62.8 7.14 1.8 1.14 1.8 4.14 1.8 15.14 1.8 10.10 1.14 6.8 47.3 12.14 5.7 10.14 6.3 4.14 " ++
  "1.8 8.14 2.8 2.14 2.8 22.14 1.8 7.14 1.8 2.14 1.8 5.14 1.3 2.8 1.3 7.14 2.3 2.14 2.3 3.14 " ++
  "2.8 1.14 6.3 1.14 5.8 5.3 2.14 2.3 7.14 3.3 5.14 11.8 10.14 1.8 1.14 2.8 1.14 1.8 38.14 1.8 " ++
  "1.3 9.14 1.3 1.14 2.3 1.14 1.3 4.14 1.3 5.8 1.3 1.8 1.10 2.14 11.3 2.14 29.8 53.3 18.8 4.10 " ++
  "2.14 3.7 10.14 4.3 1.8 3.14 30.8 48.3 20.8 2.14 1.8 1.14 8.7 10.14 166.8 47.3 7.14 2.3 9.14 " ++
  "1.10 2.14 5.10 15.8 4.3 2.14 34.8 48.3 17.10 2.14 1.8 1.14 11.7 10.14 38.8 43.3 13.8 1.14 " ++
  "7.7 10.14 6.7 20.14 28.8 27.14 2.3 15.14 4.7 10.14 2.10 3.14 1.8 7.14 185.8 44.3 15.14 " ++
  "101.13 32.6 32.7 10.14 21.8 8.14 2.8 1.14 2.8 8.14 1.8 2.14 1.8 24.3 6.14 1.3 2.14 2.3 4.8 " ++
  "1.3 1.8 1.3 2.10 1.14 1.10 1.14 9.7 10.14 70.8 8.14 2.8 39.3 7.14 2.3 7.8 1.14 1.8 1.3 1.14 " ++
  "27.8 1.3 10.8 40.3 7.8 1.3 4.14 3.10 2.14 3.3 1.14 8.8 1.3 11.8 46.3 16.14 1.10 2.8 1.14 " ++
  "18.8 73.14 199.8 33.14 15.7 10.14 6.8 9.14 1.8 37.3 8.14 1.3 8.8 1.10 2.14 13.7 10.14 24.8 " ++
  "30.14 2.3 22.14 1.3 14.14 73.8 7.14 1.8 2.14 1.8 38.3 6.14 3.3 1.14 1.3 2.14 1.3 7.8 1.3 " ++
  "1.14 8.7 10.14 6.8 6.14 1.8 2.14 1.8 32.3 5.14 1.3 2.14 1.3 5.8 1.14 7.7 10.14 310.8 19.3 " ++
  "4.10 2.14 7.3 2.8 1.3 1.8 13.14 1.8 34.3 7.14 3.3 5.10 2.14 11.7 10.3 1.14 85.8 1.14 79.8 " ++
  "922.14 102.8 111.14 17.8 196.14 2636.8 97.14 15.8 1072.4 16.3 1.8 6.3 15.14 10.8 3995.14 5.8 " ++
  "583.14 6841.8 30.3 18.7 10.14 1734.8 569.14 7.8 31.14 1.7 10.14 4.10 2.8 79.14 1.7 10.14 6.8 " ++
  "30.14 2.3 5.10 1.14 10.8 48.3 7.10 2.14 7.8 4.10 1.14 11.7 10.14 9.8 21.14 5.8 19.14 432.8 " ++
  "45.14 1.10 2.7 10.14 198.13 32.6 32.14 24.10 1.14 103.8 75.14 4.3 1.8 1.3 55.14 7.3 4.8 " ++
  "13.14 64.8 2.14 1.8 1.3 1.14 11.3 2.14 14.8 6136.14 8.8 1238.14 41.8 10.14 8935.8 4.14 1.8 " ++
  "7.14 1.8 2.14 1.8 291.14 15.8 1.14 29.8 3.14 2.8 1.14 14.8 4.14 8.8 396.14 2308.8 107.14 5.8 " ++
  "13.14 3.8 9.14 7.8 10.14 3.3 2.10 1.4 4.14 4172.7 10.14 518.3 46.14 2.3 23.14 542.3 5.14 3.3 " ++
  "6.4 8.3 8.14 2.3 7.14 30.3 4.14 148.3 3.14 443.13 26.6 26.13 26.6 7.14 1.6 18.13 26.6 26.13 " ++
  "1.14 1.13 2.14 2.13 1.14 2.13 2.14 2.13 4.14 1.13 8.6 4.14 1.6 1.14 1.6 7.14 1.6 11.13 26.6 " ++
  "26.13 2.14 1.13 4.14 2.13 8.14 1.13 7.14 1.6 26.13 2.14 1.13 4.14 1.13 5.14 1.13 1.14 3.13 " ++
  "7.14 1.6 26.13 26.6 26.13 26.6 26.13 26.6 26.13 26.6 26.13 26.6 26.13 26.6 28.14 2.13 25.14 " ++
  "1.6 25.14 1.6 6.13 25.14 1.6 25.14 1.6 6.13 25.14 1.6 25.14 1.6 6.13 25.14 1.6 25.14 1.6 " ++
  "6.13 25.14 1.6 25.14 1.6 6.13 1.6 1.14 2.7 50.14 512.3 55.14 4.3 50.14 8.3 1.14 14.3 1.14 " ++
  "3.10 1.14 18.3 5.14 1.3 15.14 1104.6 10.8 1.6 20.14 6.6 6.14 213.3 7.14 1.3 17.14 2.3 7.14 " ++
  "1.3 2.14 1.3 5.14 5.6 62.14 33.3 1.14 112.8 45.14 3.3 7.8 7.14 2.7 10.14 4.8 1.14 321.8 30.3 " ++
  "1.14 17.8 44.3 4.7 10.14 470.8 28.3 4.7 10.14 214.8 30.3 2.8 1.7 10.14 485.8 7.14 1.8 4.14 " ++
  "1.8 2.14 1.8 15.14 1.8 197.14 11.3 7.14 41.13 34.6 34.3 7.8 1.14 4.7 10.14 1190.8 4.14 1.8 " ++
  "27.14 1.8 2.14 1.8 1.14 2.8 1.14 1.8 10.14 1.8 4.14 1.8 1.14 1.8 1.14 6.8 1.14 4.8 1.14 1.8 " ++
  "1.14 1.8 1.14 1.8 3.14 1.8 2.14 1.8 1.14 2.8 1.14 1.8 1.14 1.8 1.14 1.8 1.14 1.8 1.14 1.8 " ++
  "2.14 1.8 1.14 2.8 4.14 1.8 7.14 1.8 4.14 1.8 4.14 1.8 1.14 1.8 10.14 1.8 17.14 5.8 3.14 1.8 " ++
  "5.14 1.8 17.14 628.13 26.14 6.13 26.14 6.13 26.14 1260.2 3.14 1399.7 10.14 1030.8 42720.14 " ++
  "32.8 4154.14 6.8 222.14 2.8 5762.14 14.8 7473.14 15.8 622.14 2466.8 542.14 1506.8 4939.14 " ++
  "5.8 4192.14 711761.4 1.14 30.3 96.14 128.3 240.14"

/-- The segmentation properties a pattern may name a value of. -/
inductive Segmentation where
  /-- `Grapheme_Cluster_Break`. -/
  | grapheme
  /-- `Word_Break`. -/
  | word
  /-- `Sentence_Break`. -/
  | sentence
  deriving DecidableEq, Repr

/-- The names of a segmentation property's values. -/
def Segmentation.names : Segmentation → Array (List String)
  | .grapheme => graphemeBreakNames
  | .word => wordBreakNames
  | .sentence => sentenceBreakNames

/-- The runs of a segmentation property. -/
def Segmentation.text : Segmentation → String
  | .grapheme => graphemeBreakText
  | .word => wordBreakText
  | .sentence => sentenceBreakText

/-- The inversion list of the code points whose value of a segmentation property a loose name
names, if it names one. -/
def Segmentation.boundaries? (p : Segmentation) (value : String) : Option (Array Nat) :=
  (p.names.findIdx? (·.contains value)).map fun i =>
    runBoundaries (readRuns p.text) (·.contains i)

end Switchyard.Unicode
